import BlizzLikeCore.Item
import BlizzLikeCore.Lib.Bytes
import BlizzLikeCore.Lib.ForLoop
import Mathlib.Logic.Function.Basic

/-!
# DBC files

`DBCFileLoader`: the header of a file, its records and its block of strings are read by `Load`, and a format
string, one character a field, tells how records are laid out and which fields are kept.  `AutoProduceData`
makes the table of structs and the index, `AutoProduceStrings` copies the block and fills in the pointers.

A pointer into an allocated buffer is its offset there.  What is read or written past the end of one stops all
with `outside`, an assertion that fails with `aborted`; a call that reports failure is `failed`.

Bytes of a file are little-endian, as on the platforms where `EndianConvert` does nothing, and a `char*` has
8 bytes.
-/

namespace BlizzLike

open ForLoop

inductive DbcStop where
  | failed
  | outside
  | aborted
  deriving DecidableEq, Repr

/-- What one field is kept as. -/
inductive FieldFormat where
  | string
  | float
  | int
  | byte
  | sort
  | ind
  | unused
  deriving DecidableEq, Repr

/-- `FT_STRING`, `FT_FLOAT`, `FT_INT`, `FT_BYTE`, `FT_SORT`, `FT_IND`; nothing is done for other characters. -/
def fieldFormat (c : Char) : FieldFormat :=
  if c = 's' then .string
  else if c = 'f' then .float
  else if c = 'i' then .int
  else if c = 'b' then .byte
  else if c = 'd' then .sort
  else if c = 'n' then .ind
  else .unused

/-- `format[x]`, the terminating zero behind the last character. -/
def formatChar (fmt : List Char) (x : Nat) : Char := fmt.getD x (Char.ofNat 0)

def formatOf (fmt : List Char) (x : Nat) : FieldFormat := fieldFormat (formatChar fmt x)

/-- `size` bytes from `pos` on. -/
def bytesAt (bytes : List UInt8) (pos size : Nat) : List UInt8 := (bytes.drop pos).take size

/-! ## Load -/

structure DbcHeader where
  recordCount : Nat
  fieldCount : Nat
  recordSize : Nat
  stringSize : Nat
  deriving DecidableEq, Repr

/-- `fread` of four bytes. -/
def freadU32 (file : List UInt8) (pos : Nat) : Except DbcStop Nat :=
  if pos + 4 ≤ file.length then .ok (Bytes.value (bytesAt file pos 4)) else .error .failed

/-- The beginning of `Load`. -/
def readHeader (file : List UInt8) : Except DbcStop DbcHeader := do
  let header ← freadU32 file 0
  if header ≠ 0x43424457 then .error .failed
  else do
    let recordCount ← freadU32 file 4
    let fieldCount ← freadU32 file 8
    let recordSize ← freadU32 file 12
    let stringSize ← freadU32 file 16
    .ok ⟨recordCount, fieldCount, recordSize, stringSize⟩

namespace DbcHeader

variable (h : DbcHeader)

/-- `recordSize * recordCount` -/
def recordBytes : Nat := u32 (h.recordSize * h.recordCount)

/-- `recordSize * recordCount + stringSize` -/
def dataSize : Nat := u32 (h.recordBytes + h.stringSize)

end DbcHeader

/-- How many bytes a field has in a record. -/
def fieldWidth (c : Char) : Nat := if c = 'b' ∨ c = 'X' then 1 else 4

/-- `fieldsOffset[i + 1]` from `fieldsOffset[i]`. -/
def offsetTurn (fmt : List Char) (i : Nat) (fieldsOffset : Nat → Nat) : Except DbcStop (Nat → Nat) :=
  if fmt.length < i then .error .outside
  else .ok (Function.update fieldsOffset (i + 1) (u32 (fieldsOffset i + fieldWidth (formatChar fmt i))))

structure DbcFileLoader extends DbcHeader where
  fieldsOffset : Nat → Nat
  data : List UInt8
  stringTable : Nat

/-- The rest of `Load`. -/
def loadData (file : List UInt8) (fmt : List Char) (h : DbcHeader) : Except DbcStop DbcFileLoader :=
  -- there is no `fieldsOffset[0]`
  if h.fieldCount = 0 then .error .outside
  else do
    let fieldsOffset ← forLoop (offsetTurn fmt) (h.fieldCount - 1) fun _ => 0
    -- `fread` of no bytes does not give 1
    if h.dataSize = 0 ∨ file.length < 20 + h.dataSize then .error .failed
    else
      .ok
        { h with
          fieldsOffset := fieldsOffset
          data := bytesAt file 20 h.dataSize
          stringTable := h.recordBytes }

/-- `Load` -/
def loadDbc (file : List UInt8) (fmt : List Char) : Except DbcStop DbcFileLoader := do
  let h ← readHeader file
  loadData file fmt h

/-! ## Records -/

namespace DbcFileLoader

variable (l : DbcFileLoader)

/-- `size` bytes of `data`. -/
def read (pos size : Nat) : Except DbcStop Nat :=
  if pos + size ≤ l.data.length then .ok (Bytes.value (bytesAt l.data pos size)) else .error .outside

def getOffset (x : Nat) : Nat := if x < l.fieldCount then l.fieldsOffset x else 0

/-- `getRecord(y).getUInt(x)`, and `getFloat` by its bits. -/
def getUInt (y x : Nat) : Except DbcStop Nat := l.read (y * l.recordSize + l.getOffset x) 4

def getUInt8 (y x : Nat) : Except DbcStop Nat := l.read (y * l.recordSize + l.getOffset x) 1

/-- A pointer into the string table. -/
def getString (y x : Nat) : Except DbcStop Nat := do
  let stringOffset ← l.getUInt y x
  if stringOffset < l.stringSize then .ok stringOffset else .error .aborted

end DbcFileLoader

/-! ## AutoProduceData -/

/-- What a field adds to the size of a struct. -/
def FieldFormat.size : FieldFormat → Nat
  | .float | .int | .ind => 4
  | .string => 8
  | .byte => 1
  | .sort | .unused => 0

def FieldFormat.isIndex (f : FieldFormat) : Bool := f = .sort ∨ f = .ind

def getFormatRecordSize (fmt : List Char) : Nat :=
  fmt.foldl (fun recordsize c => u32 (recordsize + (fieldFormat c).size)) 0

/-- The last of the first `n` fields by which records are found. -/
def lastIndex (fmt : List Char) : Nat → Option Nat
  | 0 => none
  | n + 1 => if (formatOf fmt n).isIndex then some n else lastIndex fmt n

/-- `index_pos`, a signed integer; there is none when it is negative. -/
def indexPos (fmt : List Char) : Option Nat := (lastIndex fmt fmt.length).filter fun i => i < 2147483648

/-- What was written to a table of structs: a number of so many bytes or a pointer into the string pool. -/
inductive DbcCell where
  | num (size value : Nat)
  | str (pos : Option Nat)
  deriving DecidableEq, Repr

/-- `indexTable` has `records` entries and `dataTable` has `size` bytes; `offset` is where the loops are. -/
structure DbcTables where
  records : Nat
  size : Nat
  indexTable : Nat → Option Nat := fun _ => none
  dataTable : Nat → Option DbcCell := fun _ => none
  offset : Nat := 0

namespace DbcTables

variable (t : DbcTables)

def move (size : Nat) : DbcTables := { t with offset := u32 (t.offset + size) }

/-- A write to `dataTable[offset]`, and over it. -/
def write (size : Nat) (cell : DbcCell) : Except DbcStop DbcTables :=
  if t.offset + size ≤ t.size then
    .ok ({ t with dataTable := Function.update t.dataTable t.offset (some cell) }.move size)
  else .error .outside

/-- `indexTable[k] = &dataTable[offset]` -/
def setIndex (k : Nat) : Except DbcStop DbcTables :=
  if k < t.records then .ok { t with indexTable := Function.update t.indexTable k (some t.offset) }
  else .error .outside

end DbcTables

namespace DbcFileLoader

variable (l : DbcFileLoader) (fmt : List Char)

def maxTurn (i y maxi : Nat) : Except DbcStop Nat := do
  let ind ← l.getUInt y i
  .ok (if maxi < ind then ind else maxi)

/-- How long the index is. -/
def tableSize : Option Nat → Except DbcStop Nat
  | none => .ok l.recordCount
  | some i => do
    let maxi ← forLoop (l.maxTurn i) l.recordCount 0
    .ok (u32 (maxi + 1))

/-- Which entry record `y` gets. -/
def entryOf (y : Nat) : Option Nat → Except DbcStop Nat
  | none => .ok y
  | some i => l.getUInt y i

/-- Field `x` of record `y`. -/
def produceField (y x : Nat) (t : DbcTables) : Except DbcStop DbcTables :=
  match formatOf fmt x with
  | .float | .ind | .int => do
    let v ← l.getUInt y x
    t.write 4 (.num 4 v)
  | .byte => do
    let v ← l.getUInt8 y x
    t.write 1 (.num 1 v)
  | .string => t.write 8 (.str none)
  | .sort | .unused => .ok t

def produceRecord (y : Nat) (t : DbcTables) : Except DbcStop DbcTables := do
  let k ← l.entryOf y (indexPos fmt)
  let t ← t.setIndex k
  forLoop (l.produceField fmt y) l.fieldCount t

def autoProduceData : Except DbcStop DbcTables :=
  if fmt.length ≠ l.fieldCount then .error .failed
  else do
    let records ← l.tableSize (indexPos fmt)
    forLoop (l.produceRecord fmt) l.recordCount
      { records := records, size := u32 (l.recordCount * getFormatRecordSize fmt) }

/-! ## AutoProduceStrings -/

/-- `!*slot || !**slot`: only what points at a zero of the pool counts as empty. -/
def slotEmpty (pool : List UInt8) : Option DbcCell → Except DbcStop Bool
  | some (.str none) => .ok true
  | some (.str (some pos)) => if pos < pool.length then .ok (pool.getD pos 0 == 0) else .error .outside
  | _ => .error .outside

def fillField (pool : List UInt8) (y x : Nat) (t : DbcTables) : Except DbcStop DbcTables :=
  match formatOf fmt x with
  | .float | .ind | .int => .ok (t.move 4)
  | .byte => .ok (t.move 1)
  | .string => do
    let empty ← slotEmpty pool (t.dataTable t.offset)
    if empty then do
      let st ← l.getString y x
      t.write 8 (.str (some st))
    else .ok (t.move 8)
  | .sort | .unused => .ok t

def autoProduceStrings (t : DbcTables) : Except DbcStop (DbcTables × List UInt8) :=
  if fmt.length ≠ l.fieldCount then .error .failed
  else if l.data.length < l.stringTable + l.stringSize then .error .outside
  else do
    let pool := bytesAt l.data l.stringTable l.stringSize
    let t ← forLoop (fun y => forLoop (l.fillField fmt pool y) l.fieldCount) l.recordCount { t with offset := 0 }
    .ok (t, pool)

end DbcFileLoader

/-- `Load`, `AutoProduceData` and `AutoProduceStrings`, as `DBCStorage::Load` calls them. -/
def loadTables (file : List UInt8) (fmt : List Char) : Except DbcStop (DbcTables × List UInt8) := do
  let l ← loadDbc file fmt
  let t ← l.autoProduceData fmt
  l.autoProduceStrings fmt t

end BlizzLike
