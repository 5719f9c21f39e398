import BlizzLikeCore.Database.DbcTables

/-!
# Records as a file has them

What a file encodes is said by the file alone: record `y` is the `recordSize` bytes after those before it, its
fields are as wide as their characters say, and the strings are behind all records.

The loader never compares the size of a record with the format, nor an index with the size of its table before
1 is added to it, nor the products with 2^32, nor a string with the block it should end in.  Such files are not
reported; the tables are right exactly when none of these is wrong.

    loads_exact : tables are right, or failure is reported, exactly for consistent files
-/

namespace BlizzLike

open ForLoop

/-! ## What a file says -/

variable (file : List UInt8) (h : DbcHeader) (fmt : List Char)

/-- Where fields are in a record. -/
def fieldPos : Nat → Nat
  | 0 => 0
  | x + 1 => fieldPos x + fieldWidth (formatChar fmt x)

/-- The first `size` bytes of field `x` of record `y`: they have to be in the record, and in the file. -/
def encoded (y x size : Nat) : Option Nat :=
  if fieldPos fmt x + size ≤ h.recordSize ∧ 20 + (y * h.recordSize + fieldPos fmt x) + size ≤ file.length then
    some (Bytes.value (bytesAt file (20 + (y * h.recordSize + fieldPos fmt x)) size))
  else none

/-- The index field of a record, or its number when there is none. -/
def recordKey (y : Nat) : Option Nat :=
  match indexPos fmt with
  | none => some y
  | some i => encoded file h fmt y i 4

def stringBlock : List UInt8 := bytesAt file (20 + h.recordSize * h.recordCount) h.stringSize

/-- The text at an offset, if a zero ends it. -/
def textAt (block : List UInt8) (pos : Nat) : Option (List UInt8) :=
  if 0 ∈ block.drop pos then some ((block.drop pos).takeWhile fun c => c ≠ 0) else none

/-- Field `x` of the struct for record `y` is what the file encodes. -/
def Decoded (t : DbcTables) (pool : List UInt8) (y x : Nat) : Prop :=
  match formatOf fmt x with
  | .float | .ind | .int =>
    ∃ v, encoded file h fmt y x 4 = some v ∧ t.dataTable (place fmt y x) = some (.num 4 v)
  | .byte => ∃ v, encoded file h fmt y x 1 = some v ∧ t.dataTable (place fmt y x) = some (.num 1 v)
  | .string =>
    ∃ v pos s, encoded file h fmt y x 4 = some v ∧ t.dataTable (place fmt y x) = some (.str (some pos)) ∧
      textAt pool pos = some s ∧ textAt (stringBlock file h) v = some s
  | .sort | .unused => True

/-- **The tables are right**: an entry that is not null points to the struct of a record with this key. -/
def RightTables (t : DbcTables) (pool : List UInt8) : Prop :=
  ∀ k o, t.indexTable k = some o →
    ∃ y < h.recordCount, o = y * structSize fmt ∧ recordKey file h fmt y = some k ∧
      ∀ x < fmt.length, Decoded file h fmt t pool y x

/-- Failure is reported, or the tables are right and nothing outside of what is allocated was touched. -/
def LoadsRight : Prop :=
  match loadTables file fmt with
  | .ok (t, pool) => ∃ h, readHeader file = .ok h ∧ RightTables file h fmt t pool
  | .error .failed => True
  | .error _ => False

/-! ## Consistent files -/

/-- How many bytes are read of a field. -/
def readSize (x : Nat) : Nat :=
  match formatOf fmt x with
  | .float | .ind | .int | .string => 4
  | .byte => 1
  | .sort => if indexPos fmt = some x then 4 else 0
  | .unused => 0

/-- The last record with its key. -/
def IsShown (y : Nat) : Prop :=
  ∀ y', y < y' → y' < h.recordCount → recordKey file h fmt y' ≠ recordKey file h fmt y

/-- **What nothing checks**: the block is where the header says, the fields that are read are in their records and
these in the data, no key is the last number, the structs have fewer than 2^32 bytes, and strings begin in the
block and, where they are shown, end there as in the file. -/
structure Consistent : Prop where
  block : h.recordBytes + h.stringSize < 4294967296
  fields : 0 < h.recordCount → ∀ x < fmt.length, 0 < readSize fmt x →
    fieldPos fmt x + readSize fmt x ≤ h.recordSize ∧
      (h.recordCount - 1) * h.recordSize + fieldPos fmt x + readSize fmt x ≤ h.dataSize
  keys : ∀ y < h.recordCount, recordKey file h fmt y ≠ some 4294967295
  table : h.recordCount * structSize fmt < 4294967296
  begins : ∀ y < h.recordCount, ∀ x < fmt.length, formatOf fmt x = .string →
    ∀ v, encoded file h fmt y x 4 = some v → v < h.stringSize
  ends : ∀ y < h.recordCount, ∀ x < fmt.length, formatOf fmt x = .string → IsShown file h fmt y →
    ∀ v, encoded file h fmt y x 4 = some v →
      ∃ s, textAt (bytesAt file (20 + h.recordBytes) h.stringSize) v = some s ∧
        textAt (stringBlock file h) v = some s

/-- A file that `Load` or `AutoProduceData` refuses, or a consistent one; what `fieldsOffset` is filled with has to
be there in any case. -/
def SoundFile : Prop :=
  ∀ h, readHeader file = .ok h →
    0 < h.fieldCount ∧ h.fieldCount ≤ fmt.length + 2 ∧
      (h.dataSize ≠ 0 → 20 + h.dataSize ≤ file.length → fmt.length = h.fieldCount → Consistent file h fmt)

/-! ## Load -/

variable {file h fmt}

theorem freadU32_ne (pos : Nat) : freadU32 file pos ≠ .error .outside ∧ freadU32 file pos ≠ .error .aborted := by
  unfold freadU32
  split <;> simp

theorem readHeader_error {e : DbcStop} (he : readHeader file = .error e) : e = .failed := by
  have hstop : ∀ e, e ≠ .failed → readHeader file ≠ .error e := by
    intro e hne
    have hread : ∀ pos, freadU32 file pos ≠ .error e := by
      intro pos
      cases e with
      | failed => exact absurd rfl hne
      | outside => exact (freadU32_ne pos).1
      | aborted => exact (freadU32_ne pos).2
    refine bind_ne_error (hread 0) fun header => ?_
    split
    · simpa using hne.symm
    · refine bind_ne_error (hread 4) fun _ => bind_ne_error (hread 8) fun _ => bind_ne_error (hread 12) fun _ => ?_
      exact bind_ne_error (hread 16) fun _ => by simp
  by_contra hne
  exact hstop e hne he

theorem value_bytesAt_lt {bytes : List UInt8} {pos size : Nat} (hin : pos + size ≤ bytes.length) :
    Bytes.value (bytesAt bytes pos size) < 256 ^ size := by
  have hv := Bytes.value_lt (bytesAt bytes pos size)
  have hlen : (bytesAt bytes pos size).length = size := by
    simp only [bytesAt, List.length_take, List.length_drop]
    omega
  rwa [hlen] at hv

theorem freadU32_lt {pos v : Nat} (hv : freadU32 file pos = .ok v) : v < 4294967296 := by
  obtain ⟨hin, rfl⟩ := ite_eq_ok.1 hv
  exact value_bytesAt_lt hin

theorem readHeader_lt (hh : readHeader file = .ok h) : h.recordCount < 4294967296 ∧ h.recordSize < 4294967296 := by
  unfold readHeader at hh
  obtain ⟨header, -, hh⟩ := bind_eq_ok.1 hh
  split at hh
  · cases hh
  · obtain ⟨recordCount, hcount, hh⟩ := bind_eq_ok.1 hh
    obtain ⟨fieldCount, -, hh⟩ := bind_eq_ok.1 hh
    obtain ⟨recordSize, hsize, hh⟩ := bind_eq_ok.1 hh
    obtain ⟨stringSize, -, hh⟩ := bind_eq_ok.1 hh
    cases hh
    exact ⟨freadU32_lt hcount, freadU32_lt hsize⟩

theorem offsetTurn_ok {i : Nat} {os os' : Nat → Nat} :
    offsetTurn fmt i os = .ok os' ↔
      i ≤ fmt.length ∧ os' = Function.update os (i + 1) (u32 (os i + fieldWidth (formatChar fmt i))) := by
  unfold offsetTurn
  split
  · next hlt => exact ⟨fun he => (nomatch he), fun he => absurd he.1 (by omega)⟩
  · next hle => exact ⟨fun he => ⟨by omega, by cases he; rfl⟩, fun he => by rw [he.2]⟩

theorem offsets_exact (n : Nat) :
    (∃ os, forLoop (offsetTurn fmt) n (fun _ => 0) = .ok os) ↔ ∀ i < n, i ≤ fmt.length :=
  forLoop_exact (I := fun _ _ => True) trivial (fun _ _ _ _ _ _ => trivial)
    fun _ _ _ _ => ⟨fun ⟨_, ho⟩ => (offsetTurn_ok.1 ho).1, fun hi => ⟨_, offsetTurn_ok.2 ⟨hi, rfl⟩⟩⟩

theorem offsets_ok {n : Nat} {os : Nat → Nat} (ho : forLoop (offsetTurn fmt) n (fun _ => 0) = .ok os) :
    ∀ x ≤ n, os x = u32 (fieldPos fmt x) := by
  refine forLoop_keeps (I := fun n os => ∀ x ≤ n, os x = u32 (fieldPos fmt x)) ?_ ?_ ho
  · intro x hx
    obtain rfl := Nat.le_zero.1 hx
    rfl
  · intro i _ os os' hos hturn x hx
    obtain ⟨-, rfl⟩ := offsetTurn_ok.1 hturn
    by_cases hxi : x = i + 1
    · rw [hxi, Function.update_self, hos i le_rfl, fieldPos]
      simp [u32]
    · rw [Function.update_of_ne hxi]
      exact hos x (by omega)

theorem offsets_not_failed (n : Nat) : forLoop (offsetTurn fmt) n (fun _ => 0) ≠ .error .failed := by
  refine forLoop_ne_error fun _ _ => ?_
  unfold offsetTurn
  split <;> simp

/-- What `Load` has read. -/
structure LoadedFrom (file : List UInt8) (h : DbcHeader) (fmt : List Char) (l : DbcFileLoader) : Prop where
  header : l.toDbcHeader = h
  offsets : ∀ x < h.fieldCount, l.getOffset x = u32 (fieldPos fmt x)
  data : l.data = bytesAt file 20 h.dataSize
  length : 20 + h.dataSize ≤ file.length
  stringTable : l.stringTable = h.recordBytes

theorem loadData_outside (hbad : ¬(0 < h.fieldCount ∧ h.fieldCount ≤ fmt.length + 2)) :
    (∀ l, loadData file fmt h ≠ .ok l) ∧ loadData file fmt h ≠ .error .failed := by
  unfold loadData
  split
  · exact ⟨fun l hl => (nomatch hl), by simp⟩
  · next hpos =>
    have hloop : ∀ os, forLoop (offsetTurn fmt) (h.fieldCount - 1) (fun _ => 0) ≠ .ok os := by
      intro os ho
      have hall := (offsets_exact (h.fieldCount - 1)).1 ⟨os, ho⟩
      have hlast := hall (h.fieldCount - 2) (by omega)
      omega
    have hfail : forLoop (offsetTurn fmt) _ _ ≠ .error .failed := offsets_not_failed (h.fieldCount - 1)
    cases ho : forLoop (offsetTurn fmt) (h.fieldCount - 1) (fun _ => 0) with
    | ok os => exact absurd ho (hloop os)
    | error e =>
      rw [ho] at hfail
      exact ⟨fun l hl => (nomatch hl), fun he => hfail (by cases he; rfl)⟩

theorem loadData_failed (hfields : 0 < h.fieldCount ∧ h.fieldCount ≤ fmt.length + 2)
    (hshort : h.dataSize = 0 ∨ file.length < 20 + h.dataSize) : loadData file fmt h = .error .failed := by
  have hin : ∀ i < h.fieldCount - 1, i ≤ fmt.length := fun i hi => by omega
  obtain ⟨os, ho⟩ := (offsets_exact (h.fieldCount - 1)).2 hin
  unfold loadData
  rw [if_neg (by omega), ho]
  exact if_pos hshort

theorem loadData_ok (hfields : 0 < h.fieldCount ∧ h.fieldCount ≤ fmt.length + 2)
    (hlong : ¬(h.dataSize = 0 ∨ file.length < 20 + h.dataSize)) :
    ∃ l, loadData file fmt h = .ok l ∧ LoadedFrom file h fmt l := by
  have hin : ∀ i < h.fieldCount - 1, i ≤ fmt.length := fun i hi => by omega
  obtain ⟨os, ho⟩ := (offsets_exact (h.fieldCount - 1)).2 hin
  unfold loadData
  rw [if_neg (by omega), ho]
  refine ⟨_, if_neg hlong, rfl, ?_, rfl, by omega, rfl⟩
  intro x hx
  exact (if_pos hx).trans (offsets_ok ho x (by omega))

/-! ## The calls after it -/

namespace DbcFileLoader

variable {l : DbcFileLoader}

theorem read_not_failed (pos size : Nat) : l.read pos size ≠ .error .failed := by
  unfold read
  split <;> simp

theorem getString_not_failed (y x : Nat) : l.getString y x ≠ .error .failed := by
  refine bind_ne_error (read_not_failed _ _) fun v => ?_
  split <;> simp

theorem write_not_failed (t : DbcTables) (size : Nat) (cell : DbcCell) : t.write size cell ≠ .error .failed := by
  unfold DbcTables.write
  split <;> simp

theorem produceField_not_failed (y x : Nat) (t : DbcTables) : l.produceField fmt y x t ≠ .error .failed := by
  unfold produceField
  split
  · exact bind_ne_error (read_not_failed _ _) fun v => write_not_failed t 4 _
  · exact bind_ne_error (read_not_failed _ _) fun v => write_not_failed t 4 _
  · exact bind_ne_error (read_not_failed _ _) fun v => write_not_failed t 4 _
  · exact bind_ne_error (read_not_failed _ _) fun v => write_not_failed t 1 _
  · exact write_not_failed t 8 _
  · simp
  · simp

theorem produceRecord_not_failed (y : Nat) (t : DbcTables) : l.produceRecord fmt y t ≠ .error .failed := by
  refine bind_ne_error ?_ fun k => bind_ne_error ?_ fun t' => forLoop_ne_error (produceField_not_failed y)
  · unfold entryOf
    split
    · simp
    · exact read_not_failed _ _
  · unfold DbcTables.setIndex
    split <;> simp

theorem fillField_not_failed (pool : List UInt8) (y x : Nat) (t : DbcTables) :
    l.fillField fmt pool y x t ≠ .error .failed := by
  unfold fillField
  split
  case h_5 =>
    refine bind_ne_error ?_ fun empty => ?_
    · unfold slotEmpty
      split
      · simp
      · split <;> simp
      · simp
    · split
      · exact bind_ne_error (getString_not_failed y x) fun v => write_not_failed t 8 _
      · simp
  all_goals simp

theorem tables_not_failed (hlen : fmt.length = l.fieldCount) :
    (l.autoProduceData fmt >>= l.autoProduceStrings fmt) ≠ .error .failed := by
  refine bind_ne_error ?_ fun t => ?_
  · unfold autoProduceData
    rw [if_neg (not_not.2 hlen)]
    refine bind_ne_error ?_ fun rows => forLoop_ne_error produceRecord_not_failed
    unfold tableSize
    split
    · simp
    · refine bind_ne_error (forLoop_ne_error fun y m => ?_) fun m => by simp
      exact bind_ne_error (read_not_failed _ _) fun v => by simp
  · unfold autoProduceStrings
    rw [if_neg (not_not.2 hlen)]
    split
    · simp
    · refine bind_ne_error (forLoop_ne_error fun y t => ?_) fun t => by simp
      exact forLoop_ne_error (fillField_not_failed _ y)

end DbcFileLoader

/-! ## Records in the data -/

theorem lastIndex_some {n i : Nat} (hi : lastIndex fmt n = some i) : i < n ∧ (formatOf fmt i).isIndex = true := by
  induction n with
  | zero => cases hi
  | succ n ih =>
    unfold lastIndex at hi
    split at hi
    · next hn =>
      cases hi
      exact ⟨Nat.lt_succ_self _, hn⟩
    · exact ⟨(ih hi).1.trans n.lt_succ_self, (ih hi).2⟩

theorem indexPos_some {i : Nat} (hi : indexPos fmt = some i) : i < fmt.length ∧ readSize fmt i = 4 := by
  obtain ⟨hlt, hindex⟩ := lastIndex_some (Option.filter_eq_some_iff.1 hi).1
  refine ⟨hlt, ?_⟩
  unfold readSize
  cases hf : formatOf fmt i <;> rw [hf] at hindex <;> simp_all [FieldFormat.isIndex]

namespace LoadedFrom

variable {l : DbcFileLoader} (hl : LoadedFrom file h fmt l)

include hl

theorem data_length : l.data.length = h.dataSize := by
  have := hl.length
  rw [hl.data]
  simp only [bytesAt, List.length_take, List.length_drop]
  omega

theorem bytesAt_data {pos size : Nat} (hin : pos + size ≤ h.dataSize) :
    bytesAt l.data pos size = bytesAt file (20 + pos) size := by
  rw [hl.data]
  simp only [bytesAt, List.drop_take, List.take_take, List.drop_drop]
  rw [Nat.min_eq_left (by omega)]

theorem known (hsize : h.recordSize < 4294967296) {y x size : Nat} (hx : x < h.fieldCount)
    (hrec : fieldPos fmt x + size ≤ h.recordSize) (hin : l.Inside y x size) :
    y * h.recordSize + fieldPos fmt x + size ≤ h.dataSize ∧ encoded file h fmt y x size = some (l.val y x size) := by
  have hoff : l.getOffset x = fieldPos fmt x := (hl.offsets x hx).trans (u32_eq _ (by omega))
  unfold DbcFileLoader.Inside at hin
  rw [hl.data_length, hoff, hl.header] at hin
  have hlen := hl.length
  refine ⟨hin, ?_⟩
  unfold encoded DbcFileLoader.val
  rw [if_pos ⟨hrec, by omega⟩, hoff, hl.header, hl.bytesAt_data hin]

theorem pool_eq (hpool : h.recordBytes + h.stringSize ≤ h.dataSize) :
    bytesAt l.data l.stringTable l.stringSize = bytesAt file (20 + h.recordBytes) h.stringSize := by
  have hstring : l.stringSize = h.stringSize := by rw [hl.header]
  rw [hl.stringTable, hstring, hl.bytesAt_data hpool]

end LoadedFrom

/-- What both directions know: fields that are read are in their records, and in the data. -/
structure Readable (file : List UInt8) (h : DbcHeader) (fmt : List Char) (l : DbcFileLoader) : Prop where
  record : 0 < h.recordCount → ∀ x < fmt.length, 0 < readSize fmt x → fieldPos fmt x + readSize fmt x ≤ h.recordSize
  inside : ∀ y < h.recordCount, ∀ x < fmt.length, 0 < readSize fmt x → l.Inside y x (readSize fmt x)
  value : ∀ y < h.recordCount, ∀ x < fmt.length, 0 < readSize fmt x →
    encoded file h fmt y x (readSize fmt x) = some (l.val y x (readSize fmt x))

namespace Readable

variable {l : DbcFileLoader}

theorem of_inside (hl : LoadedFrom file h fmt l) (hsize : h.recordSize < 4294967296)
    (hlen : fmt.length = h.fieldCount)
    (hrec : 0 < h.recordCount → ∀ x < fmt.length, 0 < readSize fmt x → fieldPos fmt x + readSize fmt x ≤ h.recordSize)
    (hin : ∀ y < h.recordCount, ∀ x < fmt.length, 0 < readSize fmt x → l.Inside y x (readSize fmt x)) :
    Readable file h fmt l where
  record := hrec
  inside := hin
  value y hy x hx hpos :=
    (hl.known hsize (hlen ▸ hx) (hrec (by omega) x hx hpos) (hin y hy x hx hpos)).2

variable (hr : Readable file h fmt l)

include hr

theorem key {y : Nat} (hy : y < h.recordCount) : recordKey file h fmt y = some (l.key fmt y) := by
  unfold recordKey DbcFileLoader.key
  cases hi : indexPos fmt with
  | none => rfl
  | some i =>
    obtain ⟨hlt, hread⟩ := indexPos_some hi
    have hv := hr.value y hy i hlt (by omega)
    rw [hread] at hv
    exact hv

theorem isShown_iff {y : Nat} (hy : y < h.recordCount) :
    IsShown file h fmt y ↔ ∀ y', y < y' → y' < h.recordCount → l.key fmt y' ≠ l.key fmt y := by
  unfold IsShown
  constructor
  · intro hs y' h1 h2 he
    exact hs y' h1 h2 (by rw [hr.key h2, hr.key hy, he])
  · intro hs y' h1 h2 he
    rw [hr.key h2, hr.key hy, Option.some.injEq] at he
    exact hs y' h1 h2 he

theorem value_of {y x size : Nat} (hy : y < h.recordCount) (hx : x < fmt.length) (hs : readSize fmt x = size)
    (hpos : 0 < size) : encoded file h fmt y x size = some (l.val y x size) := by
  have hv := hr.value y hy x hx (by omega)
  rwa [hs] at hv

end Readable

/-! ## From consistent files to right tables -/

section

variable {l : DbcFileLoader} (hl : LoadedFrom file h fmt l) (hlen : fmt.length = h.fieldCount)
  (hsize : h.recordSize < 4294967296)

include hl

theorem loaded_count : l.recordCount = h.recordCount := by rw [hl.header]

theorem tableBytes_eq (htable : h.recordCount * structSize fmt < 4294967296) :
    l.tableBytes fmt = h.recordCount * structSize fmt := by
  have hmod : h.recordCount * (structSize fmt % 4294967296) % 4294967296 = h.recordCount * structSize fmt := by
    rw [Nat.mul_mod_mod, Nat.mod_eq_of_lt htable]
  rw [DbcFileLoader.tableBytes, loaded_count hl, getFormatRecordSize_eq]
  exact hmod

include hlen

theorem loaded_length : fmt.length = l.fieldCount := by rw [hlen, hl.header]

include hsize

theorem Consistent.readable (hc : Consistent file h fmt) : Readable file h fmt l := by
  refine Readable.of_inside hl hsize hlen (fun h0 x hx hpos => (hc.fields h0 x hx hpos).1) ?_
  intro y hy x hx hpos
  obtain ⟨hrec, hdata⟩ := hc.fields (by omega) x hx hpos
  have hoff : l.getOffset x = fieldPos fmt x :=
    (hl.offsets x (hlen ▸ hx)).trans (u32_eq _ (by omega))
  have hrow : y * h.recordSize ≤ (h.recordCount - 1) * h.recordSize := Nat.mul_le_mul_right _ (by omega)
  unfold DbcFileLoader.Inside
  rw [hl.data_length, hoff, hl.header]
  omega

theorem Consistent.tablesIn (hc : Consistent file h fmt) : l.TablesIn fmt := by
  have hr := hc.readable hl hlen hsize
  have hrows := loaded_count hl
  have hstring : l.stringSize = h.stringSize := by rw [hl.header]
  refine ⟨?_, ?_, ?_, ?_⟩
  · rw [hl.stringTable, hstring, hl.data_length, DbcHeader.dataSize, u32_eq _ hc.block]
  · intro y hy
    rw [hrows] at hy
    constructor
    · intro i hi
      obtain ⟨hlt, hread⟩ := indexPos_some hi
      have hin := hr.inside y hy i hlt (by omega)
      rwa [hread] at hin
    · intro he
      exact hc.keys y hy (by rw [hr.key hy, he])
  · intro y hy x hx
    rw [hrows] at hy
    constructor
    · intro hpos
      have hsame : DbcFileLoader.dataRead fmt x = readSize fmt x := by
        unfold DbcFileLoader.dataRead readSize at *
        cases hf : formatOf fmt x <;> simp_all
      rw [hsame] at hpos ⊢
      exact hr.inside y hy x hx hpos
    · intro _
      rw [tableBytes_eq hl hc.table]
      exact place_total fmt hy hx
  · intro y hy x hx hs
    rw [hrows] at hy
    have hread : readSize fmt x = 4 := by unfold readSize; rw [hs]
    have hin := hr.inside y hy x hx (by omega)
    rw [hread] at hin
    exact ⟨hin, hstring ▸ hc.begins y hy x hx hs _ (hr.value_of hy hx hread (by decide))⟩

theorem Consistent.right (hc : Consistent file h fmt) {t : DbcTables} {pool : List UInt8}
    (hf : l.Final fmt t pool) : RightTables file h fmt t pool := by
  have hr := hc.readable hl hlen hsize
  have hin := hc.tablesIn hl hlen hsize
  have hrows := loaded_count hl
  have hblock := hin.pool
  intro k o ho
  obtain ⟨y, hy, hoy, hk, hlast⟩ := (hf.entries k o).1 ho
  rw [hrows] at hy hlast
  refine ⟨y, hy, hoy, by rw [hr.key hy, hk], fun x hx => ?_⟩
  have hcell := hf.cells y (hrows ▸ hy) x hx
  unfold Decoded
  unfold DbcFileLoader.finalCell DbcFileLoader.cellOf at hcell
  have hread : readSize fmt x = readSize fmt x := rfl
  conv_rhs at hread => unfold readSize
  cases hform : formatOf fmt x <;> rw [hform] at hcell hread <;> simp only [FieldFormat.size] at hcell hread
  case string =>
    have hv := hr.value_of hy hx hread (by decide)
    obtain ⟨s, hpool, hfile⟩ := hc.ends y hy x hx hform ((hr.isShown_iff hy).2 fun y' h1 h2 => hk ▸ hlast y' h1 h2) _ hv
    rw [hl.stringTable, hl.data_length] at hblock
    rw [hl.header] at hblock
    refine ⟨_, _, s, hv, hcell (by decide), ?_, hfile⟩
    rw [hf.pool, hl.pool_eq hblock]
    exact hpool
  case byte => exact ⟨_, hr.value_of hy hx hread (by decide), hcell (by decide)⟩
  case sort => trivial
  case unused => trivial
  all_goals exact ⟨_, hr.value_of hy hx hread (by decide), hcell (by decide)⟩

end

/-! ## From right tables to consistent files -/

section

variable {l : DbcFileLoader} (hl : LoadedFrom file h fmt l) (hlen : fmt.length = h.fieldCount)
  (hsize : h.recordSize < 4294967296)

include hl

theorem readable_inside (hin : l.TablesIn fmt) {y x : Nat} (hy : y < h.recordCount) (hx : x < fmt.length)
    (hpos : 0 < readSize fmt x) : l.Inside y x (readSize fmt x) := by
  rw [← loaded_count hl] at hy
  have hfield := (hin.fields y hy x hx).1
  have hstring := hin.strings y hy x hx
  have hkey := (hin.keys y hy).1 x
  unfold readSize at hpos ⊢
  unfold DbcFileLoader.dataRead at hfield
  cases hf : formatOf fmt x <;> simp only [hf] at hfield hpos ⊢
  case string => exact (hstring hf).1
  case sort =>
    split at hpos
    · next hi =>
      rw [if_pos hi]
      exact hkey hi
    · exact absurd hpos (Nat.lt_irrefl 0)
  case unused => exact absurd hpos (Nat.lt_irrefl 0)
  all_goals exact hfield (by decide)

theorem right_record {t : DbcTables} {pool : List UInt8} (hf : l.Final fmt t pool)
    (hright : RightTables file h fmt t pool) (h0 : 0 < h.recordCount) {x : Nat} (hx : x < fmt.length)
    (hpos : 0 < readSize fmt x) : fieldPos fmt x + readSize fmt x ≤ h.recordSize := by
  have hsome : ∀ y size v, encoded file h fmt y x size = some v → fieldPos fmt x + size ≤ h.recordSize := by
    intro y size v he
    unfold encoded at he
    split at he
    · next hc => exact hc.1
    · cases he
  have hlast : h.recordCount - 1 < l.recordCount := by rw [loaded_count hl]; omega
  have hentry := (hf.entries _ _).2 ⟨_, hlast, rfl, rfl, fun y' h1 h2 => by rw [loaded_count hl] at h2; omega⟩
  obtain ⟨y, hy, -, hkey, hfields⟩ := hright _ _ hentry
  have hfield := hfields x hx
  unfold Decoded at hfield
  unfold readSize at hpos ⊢
  cases hform : formatOf fmt x <;> simp only [hform] at hfield hpos ⊢
  case sort =>
    split at hpos
    · next hi =>
      rw [if_pos hi]
      unfold recordKey at hkey
      rw [hi] at hkey
      exact hsome _ _ _ hkey
    · exact absurd hpos (Nat.lt_irrefl 0)
  case unused => exact absurd hpos (Nat.lt_irrefl 0)
  case string =>
    obtain ⟨v, -, -, he, -⟩ := hfield
    exact hsome _ _ _ he
  all_goals
    obtain ⟨v, he, -⟩ := hfield
    exact hsome _ _ _ he

include hlen hsize

theorem consistent_of_right {t : DbcTables} {pool : List UInt8} (hin : l.TablesIn fmt) (hf : l.Final fmt t pool)
    (hright : RightTables file h fmt t pool) : Consistent file h fmt := by
  have hrows := loaded_count hl
  have hr : Readable file h fmt l :=
    Readable.of_inside hl hsize hlen (fun h0 x hx hpos => right_record hl hf hright h0 hx hpos)
      fun y hy x hx hpos => readable_inside hl hin hy hx hpos
  have hblock := hin.pool
  rw [hl.stringTable, hl.data_length] at hblock
  have hstring : l.stringSize = h.stringSize := by rw [hl.header]
  rw [hstring] at hblock
  refine ⟨?_, ?_, ?_, ?_, ?_, ?_⟩
  · have hlt : h.dataSize < 4294967296 := Nat.mod_lt _ (by decide)
    omega
  · intro h0 x hx hpos
    have hrec := hr.record h0 x hx hpos
    have hin' := hr.inside (h.recordCount - 1) (by omega) x hx hpos
    exact ⟨hrec, (hl.known hsize (hlen ▸ hx) hrec hin').1⟩
  · intro y hy he
    rw [hr.key hy, Option.some.injEq] at he
    exact (hin.keys y (hrows ▸ hy)).2 he
  · have hlt : l.tableBytes fmt < 4294967296 := DbcFileLoader.tableBytes_lt
    have hle := hf.size
    rw [hrows] at hle
    omega
  · intro y hy x hx hs v hv
    have hread : readSize fmt x = 4 := by unfold readSize; rw [hs]
    rw [hr.value_of hy hx hread (by decide), Option.some.injEq] at hv
    rw [← hv, ← hstring]
    exact (hin.strings y (hrows ▸ hy) x hx hs).2
  · intro y hy x hx hs hshown v hv
    have hread : readSize fmt x = 4 := by unfold readSize; rw [hs]
    have hentry := (hf.entries _ _).2 ⟨y, hrows ▸ hy, rfl, rfl, hrows ▸ (hr.isShown_iff hy).1 hshown⟩
    obtain ⟨y', hy', hplace, -, hfields⟩ := hright _ _ hentry
    have hwide : 8 ≤ structSize fmt := by
      have hmono : structPos fmt (x + 1) ≤ structSize fmt := structPos_mono fmt hx
      rw [structPos, hs] at hmono
      exact le_trans (Nat.le_add_left 8 _) hmono
    have hyy : y = y' := Nat.eq_of_mul_eq_mul_right (by omega) hplace
    subst hyy
    have hfield := hfields x hx
    unfold Decoded at hfield
    simp only [hs] at hfield
    obtain ⟨w, pos, s, he, hcell, hpool, hfile⟩ := hfield
    have hfinal := hf.cells y (hrows ▸ hy) x hx (by rw [hs]; decide)
    rw [hcell, DbcFileLoader.finalCell, if_pos hs, Option.some.injEq, DbcCell.str.injEq, Option.some.injEq] at hfinal
    have hval := hr.value_of hy hx hread (by decide)
    rw [hf.pool, hl.pool_eq hblock] at hpool
    rw [hval, Option.some.injEq] at hv he
    rw [← he] at hfile
    rw [hfinal] at hpool
    rw [← hv]
    exact ⟨s, hpool, hfile⟩

end

/-! ## Every file, every format -/

theorem loadTables_eq (hh : readHeader file = .ok h) :
    loadTables file fmt = loadData file fmt h >>= fun l => l.autoProduceData fmt >>= l.autoProduceStrings fmt := by
  unfold loadTables loadDbc
  rw [hh]
  rfl

theorem loadsRight_loaded {l : DbcFileLoader} (hh : readHeader file = .ok h) (hload : loadData file fmt h = .ok l)
    (hl : LoadedFrom file h fmt l) (hlen : fmt.length = h.fieldCount) :
    LoadsRight file fmt ↔ Consistent file h fmt := by
  obtain ⟨hcount, hsize⟩ := readHeader_lt hh
  have htables : loadTables file fmt = (l.autoProduceData fmt >>= l.autoProduceStrings fmt) := by
    rw [loadTables_eq hh, hload]
    rfl
  have hlen' := loaded_length hl hlen
  have hexact := DbcFileLoader.tables_exact hlen' ((loaded_count hl).trans_lt hcount)
  have hfinal : ∀ t pool, (l.autoProduceData fmt >>= l.autoProduceStrings fmt) = .ok (t, pool) → l.Final fmt t pool :=
    fun t pool => DbcFileLoader.tables_final hlen' ((loaded_count hl).trans_lt hcount)
  have hnot : (l.autoProduceData fmt >>= l.autoProduceStrings fmt) ≠ .error .failed :=
    DbcFileLoader.tables_not_failed hlen'
  unfold LoadsRight
  rw [htables]
  cases hr : (l.autoProduceData fmt >>= l.autoProduceStrings fmt) with
  | ok r =>
    obtain ⟨t, pool⟩ := r
    have hin := hexact.1 ⟨_, hr⟩
    constructor
    · rintro ⟨h', hh', hright⟩
      cases hh.symm.trans hh'
      exact consistent_of_right hl hlen hsize hin (hfinal t pool hr) hright
    · intro hc
      exact ⟨h, hh, hc.right hl hlen hsize (hfinal t pool hr)⟩
  | error e =>
    have hno : ¬Consistent file h fmt := by
      intro hc
      obtain ⟨r, hok⟩ := hexact.2 (hc.tablesIn hl hlen hsize)
      rw [hr] at hok
      cases hok
    cases e with
    | failed => exact absurd hr hnot
    | outside => exact ⟨fun hf => hf.elim, fun hc => hno hc⟩
    | aborted => exact ⟨fun hf => hf.elim, fun hc => hno hc⟩

theorem soundFile_iff (hh : readHeader file = .ok h) :
    SoundFile file fmt ↔
      0 < h.fieldCount ∧ h.fieldCount ≤ fmt.length + 2 ∧
        (h.dataSize ≠ 0 → 20 + h.dataSize ≤ file.length → fmt.length = h.fieldCount → Consistent file h fmt) := by
  constructor
  · exact fun hs => hs h hh
  · intro hs h' hh'
    cases hh.symm.trans hh'
    exact hs

theorem loadsRight_failed (he : loadTables file fmt = .error .failed) : LoadsRight file fmt := by
  unfold LoadsRight
  rw [he]
  trivial

/-- **Loading DBC files.**  Failure is reported or the tables are right, for a file and a format, exactly when the
file is refused or is consistent with the format. -/
theorem loads_exact (file : List UInt8) (fmt : List Char) : LoadsRight file fmt ↔ SoundFile file fmt := by
  cases hh : readHeader file with
  | error e =>
    have hload : loadTables file fmt = .error .failed := by
      unfold loadTables loadDbc
      rw [hh, readHeader_error hh]
      rfl
    exact ⟨fun _ h hh' => (nomatch hh.symm.trans hh'), fun _ => loadsRight_failed hload⟩
  | ok h =>
    rw [soundFile_iff hh]
    by_cases hfields : 0 < h.fieldCount ∧ h.fieldCount ≤ fmt.length + 2
    · by_cases hshort : h.dataSize = 0 ∨ file.length < 20 + h.dataSize
      · have hload : loadTables file fmt = .error .failed := by
          rw [loadTables_eq hh, loadData_failed hfields hshort]
          rfl
        exact ⟨fun _ => ⟨hfields.1, hfields.2, fun h1 h2 => by omega⟩, fun _ => loadsRight_failed hload⟩
      · obtain ⟨l, hload, hl⟩ := loadData_ok hfields hshort
        by_cases hlen : fmt.length = h.fieldCount
        · rw [loadsRight_loaded hh hload hl hlen]
          exact ⟨fun hc => ⟨hfields.1, hfields.2, fun _ _ _ => hc⟩,
            fun hs => hs.2.2 (by omega) (by omega) hlen⟩
        · have hfail : loadTables file fmt = .error .failed := by
            have hne : fmt.length ≠ l.fieldCount := by rwa [hl.header]
            rw [loadTables_eq hh, hload]
            change (l.autoProduceData fmt >>= _) = _
            rw [DbcFileLoader.autoProduceData, if_pos hne]
            rfl
          exact ⟨fun _ => ⟨hfields.1, hfields.2, fun _ _ hlen' => absurd hlen' hlen⟩,
            fun _ => loadsRight_failed hfail⟩
    · obtain ⟨hno, hnot⟩ := loadData_outside hfields
      refine ⟨fun hr => ?_, fun hs => absurd ⟨hs.1, hs.2.1⟩ hfields⟩
      unfold LoadsRight at hr
      rw [loadTables_eq hh] at hr
      cases hload : loadData file fmt h with
      | ok l => exact absurd hload (hno l)
      | error e =>
        rw [hload] at hr hnot
        cases e with
        | failed => exact absurd rfl hnot
        | outside => exact hr.elim
        | aborted => exact hr.elim

/-- One record of one field, where the format has two. -/
def narrowFile : List UInt8 :=
  Bytes.le 4 0x43424457 ++ Bytes.le 4 1 ++ Bytes.le 4 2 ++ Bytes.le 4 4 ++ Bytes.le 4 0 ++ Bytes.le 4 7

theorem narrowFile_outside : ¬∀ (file : List UInt8) (fmt : List Char), LoadsRight file fmt := by
  intro hall
  have h := hall narrowFile ['n', 'i']
  have hload : loadTables narrowFile ['n', 'i'] = .error .outside := rfl
  unfold LoadsRight at h
  rw [hload] at h
  exact h

end BlizzLike
