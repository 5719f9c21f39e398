import BlizzLikeCore.Lib.Bytes
import BlizzLikeCore.Lib.Transition

/-!
# Byte buffers

`ByteBuffer` is what packets are written to and read from: integers, strings that end with a NUL,
packed GUIDs, vectors that begin with their length.  Reading the types that were written brings
the values back as long as no vector is longer than its length field can tell, and no read touches
memory behind the storage as long as its end, a position and a length that are added up in
`size_t`, does not wrap around (`buffer_exact`).
-/

namespace BlizzLike

/-- The modulus of `size_t`. -/
def sizeT : Nat := 2 ^ 64

/-- The `max_size` of the storage, a `std::vector<uint8>`. -/
def maxStorage : Nat := 2 ^ 63 - 1

structure ByteBuffer where
  storage : List UInt8 := []
  rpos : Nat := 0
  wpos : Nat := 0
  deriving DecidableEq, Repr

/-- What ends an operation: the two exceptions, a failed assertion, a storage that is too long, and
an access behind the storage, of which nothing is known. -/
inductive BufferError where
  | position
  | source
  | assertion
  | length
  | outside
  deriving DecidableEq, Repr

/-- What an operation does to a buffer; an exception leaves it as it is then. -/
abbrev BufferM (α : Type) : Type := EStateM BufferError ByteBuffer α

/-- The types of integers; a value is its bits, signed as in two's complement. -/
inductive IntType where
  | uint8
  | uint16
  | uint32
  | uint64
  | int8
  | int16
  | int32
  | int64
  deriving DecidableEq, Repr

/-- `sizeof`. -/
def IntType.size : IntType → Nat
  | .uint8 | .int8 => 1
  | .uint16 | .int16 => 2
  | .uint32 | .int32 => 4
  | .uint64 | .int64 => 8

/-- A string without NUL. -/
@[ext] structure CString where
  chars : List UInt8
  nul_free : 0 ∉ chars

/-- The types that are written to a buffer one by one or in vectors. -/
inductive ElemType where
  | int (t : IntType)
  | string
  | packGUID
  | vector (t : ElemType)
  deriving DecidableEq, Repr

def ElemType.Val : ElemType → Type
  | .int t => BitVec (8 * t.size)
  | .string => CString
  | .packGUID => BitVec 64
  | .vector t => List t.Val

/-- What a buffer is asked for; raw bytes are read by their number. -/
inductive FieldType where
  | value (t : ElemType)
  | bytes (len : Nat)
  deriving DecidableEq, Repr

inductive Field where
  | value (t : ElemType) (v : t.Val)
  | bytes (src : List UInt8)

def Field.type : Field → FieldType
  | .value t _ => .value t
  | .bytes src => .bytes src.length

namespace ByteBuffer

/-! ## Writing -/

def size (b : ByteBuffer) : Nat := b.storage.length

/-- Bytes over and behind those at a position; a storage that is too short is filled with zeros. -/
def overwrite (storage : List UInt8) (pos : Nat) (src : List UInt8) : List UInt8 :=
  storage.take pos ++ List.replicate (pos - storage.length) 0 ++ src ++ storage.drop (pos + src.length)

/-- `append`; `asserts` tells if the assertions are compiled in. -/
def append (asserts : Bool) (src : List UInt8) : BufferM Unit := fun b =>
  if src = [] then .error .source b
  else if asserts = true ∧ 10000000 ≤ b.size then .error .assertion b
  else if maxStorage < b.wpos + src.length then .error .length b
  else .ok () { b with storage := overwrite b.storage b.wpos src, wpos := b.wpos + src.length }

/-- `append<T>`. -/
def appendInt (asserts : Bool) (t : IntType) (x : BitVec (8 * t.size)) : BufferM Unit :=
  append asserts (Bytes.le t.size x.toNat)

/-- `operator<<` of a string. -/
def appendString (asserts : Bool) (s : List UInt8) : BufferM Unit := do
  if s.length ≠ 0 then append asserts s
  append asserts [0]

/-- The loop of `appendPackGUID` over at most 8 bytes: the mask and the bytes that are not 0. -/
def packLoop : Nat → Nat → Nat → Nat → List UInt8 → Nat × List UInt8
  | 0, _, _, mask, bytes => (mask, bytes)
  | n + 1, i, guid, mask, bytes =>
    if guid = 0 then (mask, bytes)
    else if guid % 256 ≠ 0 then
      packLoop n (i + 1) (guid / 256) (mask ||| 1 <<< i) (bytes ++ [UInt8.ofNat guid])
    else packLoop n (i + 1) (guid / 256) mask bytes

def appendPackGUID (asserts : Bool) (guid : BitVec 64) : BufferM Unit :=
  let r := packLoop 8 0 guid.toNat 0 []
  append asserts (UInt8.ofNat r.1 :: r.2)

/-- The loop that writes the elements of a vector. -/
def writeEach {α : Type} (write : α → BufferM Unit) : List α → BufferM Unit
  | [] => pure ()
  | v :: vs => do
    write v
    writeEach write vs

def writeElem (asserts : Bool) : (t : ElemType) → t.Val → BufferM Unit
  | .int t, x => appendInt asserts t x
  | .string, s => appendString asserts s.chars
  | .packGUID, guid => appendPackGUID asserts guid
  | .vector t, (vs : List t.Val) => do
    appendInt asserts .uint32 (BitVec.ofNat _ vs.length)
    writeEach (writeElem asserts t) vs

def writeField (asserts : Bool) : Field → BufferM Unit
  | .value t v => writeElem asserts t v
  | .bytes src => append asserts src

def writeFields (asserts : Bool) : List Field → BufferM Unit := writeEach (writeField asserts)

/-! ## Reading -/

/-- `read<T>` at a position, for the bytes of a `T`. -/
def readAt (pos len : Nat) : BufferM (List UInt8) := fun b =>
  if (pos + len) % sizeT > b.size then .error .position b
  else if pos + len ≤ b.size then .ok ((b.storage.drop pos).take len) b
  else .error .outside b

/-- `read<T>` and `read` of raw bytes. -/
def readNext (len : Nat) : BufferM (List UInt8) := fun b =>
  match readAt b.rpos len b with
  | .ok bytes b1 => .ok bytes { b1 with rpos := b1.rpos + len }
  | .error e b1 => .error e b1

def readSkip (skip : Nat) : BufferM Unit := fun b =>
  if (b.rpos + skip) % sizeT > b.size then .error .position b
  else .ok () { b with rpos := (b.rpos + skip) % sizeT }

def readInt (t : IntType) : BufferM (BitVec (8 * t.size)) := do
  let bytes ← readNext t.size
  pure (BitVec.ofNat _ (Bytes.value bytes))

/-- The loop of `operator>>` of a string, which ends at the end of the storage. -/
def readStringLoop : Nat → CString → BufferM CString
  | 0, value => pure value
  | n + 1, value => do
    let bytes ← readNext 1
    let c := bytes.headD 0
    if h : c = 0 then pure value
    else readStringLoop n ⟨value.chars ++ [c], by simpa [value.nul_free] using Ne.symm h⟩

def readString : BufferM CString := fun b => readStringLoop (b.size - b.rpos) ⟨[], by simp⟩ b

/-- The check of one byte in `readPackGUID`. -/
def checkByte : BufferM Unit := fun b =>
  if (b.rpos + 1) % sizeT > b.size then .error .position b else .ok () b

/-- The loop of `readPackGUID`, `n` rounds before its end. -/
def unpackLoop (guidmark : Nat) : Nat → Nat → Nat → BufferM Nat
  | 0, _, guid => pure guid
  | n + 1, i, guid =>
    if guidmark &&& 1 <<< i ≠ 0 then do
      checkByte
      let bit ← readInt .uint8
      unpackLoop guidmark n (i + 1) (guid ||| bit.toNat <<< (8 * i))
    else unpackLoop guidmark n (i + 1) guid

def readPackGUID : BufferM (BitVec 64) := do
  checkByte
  let guidmark ← readInt .uint8
  let guid ← unpackLoop guidmark.toNat 8 0 0
  pure (BitVec.ofNat _ guid)

/-- The loop that reads the elements of a vector. -/
def readTimes {α : Type} (read : BufferM α) : Nat → BufferM (List α)
  | 0 => pure []
  | n + 1 => do
    let v ← read
    let vs ← readTimes read n
    pure (v :: vs)

def readElem : (t : ElemType) → BufferM t.Val
  | .int t => readInt t
  | .string => readString
  | .packGUID => readPackGUID
  | .vector t => do
    let vsize ← readInt .uint32
    readTimes (readElem t) vsize.toNat

def readField : FieldType → BufferM Field
  | .value t => do
    let v ← readElem t
    pure (.value t v)
  | .bytes len => do
    let src ← readNext len
    pure (.bytes src)

def readFields : List FieldType → BufferM (List Field)
  | [] => pure []
  | t :: ts => do
    let f ← readField t
    let fs ← readFields ts
    pure (f :: fs)

/-! ## What is written -/

/-- The bytes of a value. -/
def encodeElem : (t : ElemType) → t.Val → List UInt8
  | .int t, x => Bytes.le t.size (BitVec.toNat x)
  | .string, s => CString.chars s ++ [0]
  | .packGUID, guid =>
    let r := packLoop 8 0 (BitVec.toNat guid) 0 []
    UInt8.ofNat r.1 :: r.2
  | .vector t, (vs : List t.Val) => Bytes.le 4 vs.length ++ vs.flatMap (encodeElem t)

def encodeField : Field → List UInt8
  | .value t v => encodeElem t v
  | .bytes src => src

/-- No vector has more elements than its length field can tell. -/
def ShortElem : (t : ElemType) → t.Val → Prop
  | .vector t, (vs : List t.Val) => vs.length < 2 ^ 32 ∧ ∀ v ∈ vs, ShortElem t v
  | .int _, _ | .string, _ | .packGUID, _ => True

def ShortField : Field → Prop
  | .value t v => ShortElem t v
  | .bytes _ => True

/-! ### Sequences of operations -/

section Monad

variable {α β : Type} {r : BufferM α} {f : α → BufferM β} {b b1 : ByteBuffer}

theorem bind_ok {a : α} (h : r b = .ok a b1) : (r >>= f) b = f a b1 := by
  show EStateM.bind r f b = _
  unfold EStateM.bind
  rw [h]

theorem bind_error {e : BufferError} (h : r b = .error e b1) : (r >>= f) b = .error e b1 := by
  show EStateM.bind r f b = _
  unfold EStateM.bind
  rw [h]

theorem of_bind_ok {c : β} {b2 : ByteBuffer} (h : (r >>= f) b = .ok c b2) :
    ∃ a b1, r b = .ok a b1 ∧ f a b1 = .ok c b2 := by
  cases hr : r b with
  | ok a b1 => exact ⟨a, b1, rfl, (bind_ok hr).symm.trans h⟩
  | error e b1 => exact nomatch (bind_error (f := f) hr).symm.trans h

end Monad

/-- A buffer that is written to at its end. -/
structure AtEnd (b : ByteBuffer) : Prop where
  wpos : b.wpos = b.size
  size : b.size ≤ maxStorage

/-- An operation that writes some bytes, when it goes well. -/
def Appends (w : BufferM Unit) (bytes : List UInt8) : Prop :=
  ∀ b b', b.AtEnd → w b = .ok () b' → b'.AtEnd ∧ b'.storage = b.storage ++ bytes ∧ b'.rpos = b.rpos

theorem Appends.pure : Appends (pure ()) [] := by
  intro b b' h heq
  obtain ⟨⟩ := heq
  exact ⟨h, (List.append_nil _).symm, rfl⟩

theorem Appends.bind {w v : BufferM Unit} {bytes bytes' : List UInt8} (hw : Appends w bytes)
    (hv : Appends v bytes') : Appends (w >>= fun _ => v) (bytes ++ bytes') := by
  intro b b' h heq
  obtain ⟨_, b1, h1, h2⟩ := of_bind_ok heq
  obtain ⟨hend1, hstorage1, hrpos1⟩ := hw b b1 h h1
  obtain ⟨hend2, hstorage2, hrpos2⟩ := hv b1 b' hend1 h2
  exact ⟨hend2, by rw [hstorage2, hstorage1, List.append_assoc], hrpos2.trans hrpos1⟩

theorem append_appends (asserts : Bool) (src : List UInt8) : Appends (append asserts src) src := by
  intro b b' h heq
  unfold append at heq
  split at heq
  · exact nomatch heq
  split at heq
  · exact nomatch heq
  split at heq
  · exact nomatch heq
  next hlen =>
  obtain ⟨⟩ := heq
  have hstorage : overwrite b.storage b.wpos src = b.storage ++ src := by
    have hwpos : b.wpos = b.storage.length := h.wpos
    unfold overwrite
    rw [hwpos, List.take_length, Nat.sub_self, List.drop_of_length_le (by omega)]
    simp
  have hsize : (b.storage ++ src).length = b.wpos + src.length := by
    rw [List.length_append, h.wpos]
    rfl
  refine ⟨⟨?_, ?_⟩, hstorage, rfl⟩
  · show b.wpos + src.length = (overwrite b.storage b.wpos src).length
    rw [hstorage, hsize]
  · show (overwrite b.storage b.wpos src).length ≤ maxStorage
    rw [hstorage, hsize]
    omega

theorem writeEach_appends {α : Type} {write : α → BufferM Unit} {encode : α → List UInt8}
    (h : ∀ v, Appends (write v) (encode v)) (vs : List α) : Appends (writeEach write vs) (vs.flatMap encode) := by
  induction vs with
  | nil => exact Appends.pure
  | cons v vs ih => exact (h v).bind ih

/-- **What is written** of a value. -/
theorem writeElem_appends (asserts : Bool) (t : ElemType) (v : t.Val) :
    Appends (writeElem asserts t v) (encodeElem t v) := by
  induction t with
  | int t => exact append_appends asserts _
  | string =>
    obtain ⟨chars, hnul⟩ := v
    show Appends (appendString asserts chars) (chars ++ [0])
    unfold appendString
    by_cases hnil : chars.length ≠ 0
    · simp only [if_pos hnil]
      exact (append_appends asserts chars).bind (append_appends asserts [0])
    · simp only [if_neg hnil]
      obtain rfl : chars = [] := List.length_eq_zero_iff.1 (by omega)
      exact Appends.pure.bind (append_appends asserts [0])
  | packGUID =>
    let r := packLoop 8 0 (BitVec.toNat v) 0 []
    exact append_appends asserts (UInt8.ofNat r.1 :: r.2)
  | vector t ih =>
    have hlen : Bytes.le 4 (BitVec.ofNat 32 (List.length v)).toNat = Bytes.le 4 (List.length v) := by
      rw [BitVec.toNat_ofNat]
      exact Bytes.le_mod 4 _
    show Appends _ (Bytes.le 4 (List.length v) ++ List.flatMap (encodeElem t) v)
    rw [← hlen]
    exact (append_appends asserts _).bind (writeEach_appends ih v)

theorem writeField_appends (asserts : Bool) (f : Field) : Appends (writeField asserts f) (encodeField f) := by
  cases f with
  | value t v => exact writeElem_appends asserts t v
  | bytes src => exact append_appends asserts src

/-! ## What is read -/

/-- A buffer that is read from within its storage. -/
structure Inside (b : ByteBuffer) : Prop where
  rpos : b.rpos ≤ b.size
  size : b.size ≤ maxStorage

/-- An operation that reads some bytes, when they come next, as a value. -/
def Reads {α : Type} (r : BufferM α) (bytes : List UInt8) (a : α) : Prop :=
  ∀ b, b.Inside → bytes <+: b.storage.drop b.rpos → r b = .ok a { b with rpos := b.rpos + bytes.length }

theorem next_le {b : ByteBuffer} {bytes : List UInt8} (hb : b.Inside) (h : bytes <+: b.storage.drop b.rpos) :
    b.rpos + bytes.length ≤ b.size := by
  have hlen := h.length_le
  have := hb.rpos
  rw [List.length_drop] at hlen
  unfold size at *
  omega

theorem Inside.mod {b : ByteBuffer} (hb : b.Inside) {len : Nat} (h : b.rpos + len ≤ b.size) :
    (b.rpos + len) % sizeT = b.rpos + len := by
  refine Nat.mod_eq_of_lt ?_
  have := hb.size
  unfold maxStorage at this
  unfold sizeT
  omega

section Reads

variable {α β : Type}

theorem Reads.pure (a : α) : Reads (pure a) [] a := fun _ _ _ => rfl

theorem Reads.bind {r : BufferM α} {f : α → BufferM β} {bytes bytes' : List UInt8} {a : α} {c : β}
    (hr : Reads r bytes a) (hf : Reads (f a) bytes' c) : Reads (r >>= f) (bytes ++ bytes') c := by
  intro b hb hnext
  obtain ⟨rest, hrest⟩ := hnext
  have hfirst : bytes <+: b.storage.drop b.rpos := ⟨bytes' ++ rest, by rw [← hrest, List.append_assoc]⟩
  have h1 := hr b hb hfirst
  have h2 := hf { b with rpos := b.rpos + bytes.length } ⟨next_le hb hfirst, hb.size⟩ ⟨rest, by
    rw [← List.drop_drop, ← hrest, List.append_assoc, List.drop_left]⟩
  rw [bind_ok h1, h2, List.length_append, Nat.add_assoc]

theorem Reads.map {r : BufferM α} {bytes : List UInt8} {a : α} (hr : Reads r bytes a) (f : α → β) :
    Reads (r >>= fun a => Pure.pure (f a)) bytes (f a) := by
  have := hr.bind (f := fun a => Pure.pure (f a)) (Reads.pure (f a))
  rwa [List.append_nil] at this

end Reads

theorem readNext_reads {len : Nat} {bytes : List UInt8} (hlen : bytes.length = len) :
    Reads (readNext len) bytes bytes := by
  intro b hb hnext
  have hle := next_le hb hnext
  rw [hlen] at hle
  have hread : readAt b.rpos len b = .ok bytes b := by
    unfold readAt
    rw [hb.mod hle, if_neg (by omega), if_pos hle, ← hlen, ← List.prefix_iff_eq_take.1 hnext]
  unfold readNext
  rw [hread, hlen]

theorem readInt_reads (t : IntType) (x : BitVec (8 * t.size)) : Reads (readInt t) (Bytes.le t.size x.toNat) x := by
  have hvalue : BitVec.ofNat (8 * t.size) (Bytes.value (Bytes.le t.size x.toNat)) = x := by
    apply BitVec.eq_of_toNat_eq
    rw [Bytes.value_le, BitVec.toNat_ofNat, show 256 = 2 ^ 8 by rfl, ← Nat.pow_mul, Nat.mod_mod]
    exact Nat.mod_eq_of_lt x.isLt
  have := (readNext_reads (Bytes.le_length t.size x.toNat)).map fun bytes => BitVec.ofNat (8 * t.size) (Bytes.value bytes)
  rwa [hvalue] at this

theorem readByte_reads (x : Nat) : Reads (readInt .uint8) [UInt8.ofNat x] (BitVec.ofNat _ x) := by
  have h := readInt_reads .uint8 (BitVec.ofNat _ x)
  have hbytes : Bytes.le 1 (x % 256 ^ 1) = [UInt8.ofNat x] := Bytes.le_mod 1 x
  rw [BitVec.toNat_ofNat] at h
  exact hbytes ▸ h

theorem checkByte_reads {α : Type} {r : BufferM α} {bytes : List UInt8} {a : α} (hr : Reads r bytes a)
    (hne : bytes ≠ []) : Reads (checkByte >>= fun _ => r) bytes a := by
  intro b hb hnext
  have hle := next_le hb hnext
  have hpos := List.length_pos_iff.2 hne
  have hcheck : checkByte b = .ok () b := by
    unfold checkByte
    rw [hb.mod (by omega), if_neg (by omega)]
  rw [bind_ok hcheck]
  exact hr b hb hnext

/-! ### Strings -/

theorem readStringLoop_reads (chars : List UInt8) (hnul : 0 ∉ chars) (n : Nat) (hn : chars.length < n)
    (value : CString) (out : CString) (hout : out.chars = value.chars ++ chars) :
    Reads (readStringLoop n value) (chars ++ [0]) out := by
  induction chars generalizing n value with
  | nil =>
    obtain ⟨n, rfl⟩ := Nat.exists_eq_succ_of_ne_zero (by omega : n ≠ 0)
    have hfirst : Reads (readNext 1) [0] [0] := readNext_reads rfl
    obtain rfl : out = value := CString.ext (by simpa using hout)
    exact hfirst.bind (Reads.pure out)
  | cons c chars ih =>
    obtain ⟨n, rfl⟩ := Nat.exists_eq_succ_of_ne_zero (by omega : n ≠ 0)
    have hc : c ≠ 0 := fun h => hnul (by simp [h])
    have hfirst : Reads (readNext 1) [c] [c] := readNext_reads rfl
    have hrest := ih (fun h => hnul (List.mem_cons_of_mem c h)) n (by simpa using hn)
      ⟨value.chars ++ [c], by simpa [value.nul_free] using Ne.symm hc⟩ (by simpa using hout)
    refine hfirst.bind ?_
    simpa [hc] using hrest

theorem readString_reads (s : CString) : Reads readString (s.chars ++ [0]) s := by
  intro b hb hnext
  have hle := next_le hb hnext
  rw [List.length_append, List.length_singleton] at hle
  have hloop := readStringLoop_reads s.chars s.nul_free (b.size - b.rpos) (by omega) ⟨[], by simp⟩ s rfl
  exact hloop b hb hnext

/-! ### Packed GUIDs -/

theorem packLoop_bytes (n i guid mask : Nat) (bytes : List UInt8) :
    (packLoop n i guid mask bytes).2 = bytes ++ Bytes.nonzero n guid := by
  induction n generalizing i guid mask bytes with
  | zero => exact (List.append_nil bytes).symm
  | succ n ih =>
    unfold packLoop
    split
    · next h0 => simp [h0]
    split
    · next hbyte => rw [ih, Bytes.nonzero, if_pos hbyte, List.append_assoc]
    · next hbyte => rw [ih, Bytes.nonzero, if_neg hbyte, List.nil_append]

/-- **The mask** tells which bytes are packed. -/
theorem packLoop_mask (n i guid mask : Nat) (bytes : List UInt8) (j : Nat) :
    (packLoop n i guid mask bytes).1.testBit j =
      (mask.testBit j || decide (i ≤ j ∧ j < i + n ∧ guid / 256 ^ (j - i) % 256 ≠ 0)) := by
  induction n generalizing i guid mask bytes with
  | zero => simp [packLoop]; omega
  | succ n ih =>
    have hnext : ∀ j, i + 1 ≤ j → guid / 256 / 256 ^ (j - (i + 1)) = guid / 256 ^ (j - i) := by
      intro j hj
      rw [Nat.div_div_eq_div_mul, ← Nat.pow_succ', show (j - (i + 1)).succ = j - i by omega]
    unfold packLoop
    split
    · next h0 => simp [h0]
    split
    · next hbyte =>
      rw [ih, Bytes.testBit_or_bit, Bool.or_assoc]
      congr 1
      rw [← Bool.decide_or, decide_eq_decide]
      constructor
      · rintro (rfl | ⟨h1, h2, h3⟩)
        · exact ⟨le_refl _, by omega, by simpa using hbyte⟩
        · exact ⟨by omega, by omega, by rwa [hnext j h1] at h3⟩
      · rintro ⟨h1, h2, h3⟩
        by_cases hij : i = j
        · exact Or.inl hij
        · exact Or.inr ⟨by omega, by omega, by rwa [hnext j (by omega)]⟩
    · next hbyte =>
      rw [ih]
      congr 1
      rw [decide_eq_decide]
      constructor
      · rintro ⟨h1, h2, h3⟩
        exact ⟨by omega, by omega, by rwa [hnext j h1] at h3⟩
      · rintro ⟨h1, h2, h3⟩
        have hij : i ≠ j := by
          rintro rfl
          exact hbyte (by simpa using h3)
        exact ⟨by omega, by omega, by rwa [hnext j (by omega)]⟩

/-- **The loop of `readPackGUID`** puts the bytes of the GUID together one after the other. -/
theorem unpackLoop_reads (guid mark n i : Nat) (h : ∀ j, i ≤ j → j < i + n →
    (mark.testBit j = true ↔ guid / 256 ^ j % 256 ≠ 0)) :
    Reads (unpackLoop mark n i (guid % 256 ^ i)) (Bytes.nonzero n (guid / 256 ^ i)) (guid % 256 ^ (i + n)) := by
  induction n generalizing i with
  | zero => exact Reads.pure _
  | succ n ih =>
    have hrest := ih (i + 1) fun j h1 h2 => h j (by omega) (by omega)
    have hbit := h i (le_refl i) (by omega)
    have hnext : guid / 256 ^ i / 256 = guid / 256 ^ (i + 1) := by rw [Nat.div_div_eq_div_mul, Nat.pow_succ]
    rw [show i + 1 + n = i + (n + 1) by omega] at hrest
    unfold unpackLoop
    rw [Bytes.nonzero, hnext]
    by_cases hbyte : guid / 256 ^ i % 256 ≠ 0
    · rw [if_pos hbyte, if_pos ((Bytes.and_bit_ne_zero mark i).2 (hbit.2 hbyte))]
      refine checkByte_reads ?_ (by simp)
      refine (readByte_reads (guid / 256 ^ i)).bind ?_
      rw [← Bytes.or_byte] at hrest
      rw [BitVec.toNat_ofNat]
      exact hrest
    · rw [if_neg hbyte, if_neg fun hne => hbyte (hbit.1 ((Bytes.and_bit_ne_zero mark i).1 hne)), List.nil_append]
      rw [Nat.mod_pow_succ, not_not.1 hbyte, Nat.mul_zero, Nat.add_zero] at hrest
      exact hrest

theorem readPackGUID_reads (guid : BitVec 64) : Reads readPackGUID (encodeElem .packGUID guid) guid := by
  have hmask : ∀ j < 8, (BitVec.ofNat (8 * IntType.uint8.size) (packLoop 8 0 guid.toNat 0 []).1).toNat.testBit j = true ↔
      guid.toNat / 256 ^ j % 256 ≠ 0 := by
    intro j hj
    rw [BitVec.toNat_ofNat, Nat.testBit_mod_two_pow, packLoop_mask]
    simp [hj, IntType.size]
  have hloop := unpackLoop_reads guid.toNat _ 8 0 fun j _ hj => hmask j (by omega)
  have hvalue : BitVec.ofNat 64 (guid.toNat % 256 ^ (0 + 8)) = guid := by
    apply BitVec.eq_of_toNat_eq
    rw [BitVec.toNat_ofNat, show 256 ^ (0 + 8) = 2 ^ 64 by rfl, Nat.mod_mod]
    exact Nat.mod_eq_of_lt guid.isLt
  have hrest := hloop.map fun guid => BitVec.ofNat 64 guid
  rw [hvalue, Nat.pow_zero, Nat.div_one, Nat.mod_one] at hrest
  have hencode : encodeElem .packGUID guid =
      [UInt8.ofNat (packLoop 8 0 guid.toNat 0 []).1] ++ Bytes.nonzero 8 guid.toNat := by
    show _ :: (packLoop 8 0 guid.toNat 0 []).2 = _
    rw [packLoop_bytes, List.nil_append]
    rfl
  rw [hencode]
  exact checkByte_reads ((readByte_reads _).bind hrest) (by simp)

/-! ### Values and fields -/

theorem readTimes_reads {α : Type} {read : BufferM α} {encode : α → List UInt8} (vs : List α)
    (h : ∀ v ∈ vs, Reads read (encode v) v) : Reads (readTimes read vs.length) (vs.flatMap encode) vs := by
  induction vs with
  | nil => exact Reads.pure []
  | cons v vs ih =>
    have hrest := ih fun w hw => h w (List.mem_cons_of_mem v hw)
    exact (h v List.mem_cons_self).bind (hrest.map (v :: ·))

/-- **A short value** that was written is read back. -/
theorem readElem_reads (t : ElemType) (v : t.Val) (h : ShortElem t v) : Reads (readElem t) (encodeElem t v) v := by
  induction t with
  | int t => exact readInt_reads t v
  | string => exact readString_reads v
  | packGUID => exact readPackGUID_reads v
  | vector t ih =>
    obtain ⟨hlen, hvs⟩ := h
    have hcount : Reads (readInt .uint32) (Bytes.le 4 (List.length v)) (BitVec.ofNat _ (List.length v)) := by
      have hbytes : Bytes.le 4 (List.length v % 256 ^ 4) = Bytes.le 4 (List.length v) := Bytes.le_mod 4 _
      have hread := readInt_reads .uint32 (BitVec.ofNat _ (List.length v))
      rw [BitVec.toNat_ofNat] at hread
      exact hbytes ▸ hread
    have hback : List.length v % 2 ^ (8 * IntType.uint32.size) = List.length v := Nat.mod_eq_of_lt hlen
    have helems := readTimes_reads v fun w hw => ih w (hvs w hw)
    refine hcount.bind ?_
    rw [BitVec.toNat_ofNat, hback]
    exact helems

theorem readField_reads (f : Field) (h : ShortField f) : Reads (readField f.type) (encodeField f) f := by
  cases f with
  | value t v => exact (readElem_reads t v h).map fun v => Field.value t v
  | bytes src => exact (readNext_reads rfl).map Field.bytes

theorem readFields_reads (fs : List Field) (h : ∀ f ∈ fs, ShortField f) :
    Reads (readFields (fs.map Field.type)) (fs.flatMap encodeField) fs := by
  induction fs with
  | nil => exact Reads.pure []
  | cons f fs ih =>
    have hrest := ih fun g hg => h g (List.mem_cons_of_mem f hg)
    exact (readField_reads f (h f List.mem_cons_self)).bind (hrest.map (f :: ·))

/-! ### Only short vectors are read -/

theorem readTimes_all {α : Type} {read : BufferM α} {P : α → Prop} (h : ∀ b v b', read b = .ok v b' → P v)
    (n : Nat) (b : ByteBuffer) (vs : List α) (b' : ByteBuffer) (heq : readTimes read n b = .ok vs b') :
    vs.length = n ∧ ∀ v ∈ vs, P v := by
  induction n generalizing b vs with
  | zero =>
    obtain ⟨⟩ := heq
    exact ⟨rfl, fun v hv => (nomatch hv)⟩
  | succ n ih =>
    obtain ⟨v, b1, hv, heq⟩ := of_bind_ok heq
    obtain ⟨ws, b2, hws, heq⟩ := of_bind_ok heq
    obtain ⟨⟩ := heq
    obtain ⟨hlen, hall⟩ := ih b1 ws hws
    exact ⟨congrArg Nat.succ hlen, List.forall_mem_cons.2 ⟨h b v b1 hv, hall⟩⟩

theorem readElem_short (t : ElemType) (b : ByteBuffer) (v : t.Val) (b' : ByteBuffer)
    (h : readElem t b = .ok v b') : ShortElem t v := by
  induction t generalizing b b' with
  | int t => exact trivial
  | string => exact trivial
  | packGUID => exact trivial
  | vector t ih =>
    obtain ⟨vsize, b1, _, h⟩ := of_bind_ok h
    obtain ⟨hlen, hall⟩ := readTimes_all (fun b v b' h => ih b v b' h) _ _ _ _ h
    exact ⟨lt_of_eq_of_lt hlen vsize.isLt, hall⟩

theorem readFields_short (ts : List FieldType) (b : ByteBuffer) (fs : List Field) (b' : ByteBuffer)
    (h : readFields ts b = .ok fs b') : ∀ f ∈ fs, ShortField f := by
  induction ts generalizing b fs with
  | nil =>
    obtain ⟨⟩ := h
    exact fun f hf => nomatch hf
  | cons t ts ih =>
    obtain ⟨f, b1, hf, h⟩ := of_bind_ok h
    obtain ⟨gs, b2, hgs, h⟩ := of_bind_ok h
    obtain ⟨⟩ := h
    refine List.forall_mem_cons.2 ⟨?_, ih b1 gs hgs⟩
    cases t with
    | value t =>
      obtain ⟨v, b3, hv, hf⟩ := of_bind_ok hf
      obtain ⟨⟩ := hf
      exact readElem_short t b v _ hv
    | bytes len =>
      obtain ⟨src, b3, _, hf⟩ := of_bind_ok hf
      obtain ⟨⟩ := hf
      exact trivial

/-! ## Where reads reach -/

/-- What is asked of a buffer: fields, an integer at a position, a skip. -/
inductive ReadCall where
  | field (t : FieldType)
  | readAt (pos : Nat) (t : IntType)
  | readSkip (skip : Nat)

/-- The outcome of a call, without the value. -/
def call (b : ByteBuffer) : ReadCall → EStateM.Result BufferError ByteBuffer Unit
  | .field t => (readField t >>= fun _ => pure ()) b
  | .readAt pos t => (readAt pos t.size >>= fun _ => pure ()) b
  | .readSkip skip => readSkip skip b

/-- The buffer after a call, also when an exception is caught. -/
def afterCall (b : ByteBuffer) (c : ReadCall) : ByteBuffer :=
  match b.call c with
  | .ok _ b1 => b1
  | .error _ b1 => b1

/-- **A call stays within the storage** or throws. -/
def StaysInside (b : ByteBuffer) (c : ReadCall) : Prop := ∀ b1, b.call c ≠ .error .outside b1

/-- An end that does not wrap around, or not to within the storage. -/
def Unwrapped (b : ByteBuffer) (pos len : Nat) : Prop := pos + len < sizeT ∨ b.size < (pos + len) % sizeT

/-- The calls whose bounds are the caller's. -/
def Bounded (b : ByteBuffer) : ReadCall → Prop
  | .field (.bytes len) => b.Unwrapped b.rpos len
  | .readAt pos t => b.Unwrapped pos t.size
  | .field (.value _) | .readSkip _ => True

/-- What an operation on a buffer within its storage has to do: not to leave it, whatever becomes of
it, and to leave the storage alone. -/
def Safe {α : Type} (r : BufferM α) : Prop :=
  ∀ b, b.Inside →
    match r b with
    | .ok _ b1 => b1.Inside ∧ b1.storage = b.storage
    | .error e b1 => e ≠ .outside ∧ b1.Inside ∧ b1.storage = b.storage

section Safe

variable {α β : Type}

theorem Safe.pure (a : α) : Safe (pure a) := fun _ hb => ⟨hb, rfl⟩

theorem Safe.bind {r : BufferM α} {f : α → BufferM β} (hr : Safe r) (hf : ∀ a, Safe (f a)) : Safe (r >>= f) := by
  intro b hb
  have h1 := hr b hb
  cases hcase : r b with
  | ok a b1 =>
    rw [hcase] at h1
    rw [bind_ok hcase]
    have h2 := hf a b1 h1.1
    cases hcase2 : f a b1 with
    | ok c b2 =>
      rw [hcase2] at h2
      exact ⟨h2.1, h2.2.trans h1.2⟩
    | error e b2 =>
      rw [hcase2] at h2
      exact ⟨h2.1, h2.2.1, h2.2.2.trans h1.2⟩
  | error e b1 =>
    rw [hcase] at h1
    rw [bind_error hcase]
    exact h1

end Safe

/-- **The bound check** of a read is right just if the end does not wrap to within the storage. -/
theorem readAt_outside_iff {b : ByteBuffer} (hb : b.Inside) (pos len : Nat) :
    (∃ b1, readAt pos len b = .error .outside b1) ↔ ¬ b.Unwrapped pos len := by
  have hsize := hb.size
  have hmod := Nat.mod_le (pos + len) sizeT
  unfold Unwrapped
  unfold maxStorage at hsize
  constructor
  · rintro ⟨b1, h⟩ hun
    unfold readAt at h
    split at h
    · exact nomatch h
    next hcheck =>
    split at h
    · exact nomatch h
    next hend =>
    rcases hun with hun | hun
    · rw [Nat.mod_eq_of_lt hun] at hcheck
      omega
    · omega
  · intro hun
    refine ⟨b, ?_⟩
    unfold readAt
    rw [not_or] at hun
    rw [if_neg (by omega), if_neg]
    unfold sizeT at hun
    omega

theorem readAt_same (pos len : Nat) (b : ByteBuffer) :
    (∃ bytes, readAt pos len b = .ok bytes b ∧ pos + len ≤ b.size) ∨ ∃ e, readAt pos len b = .error e b := by
  unfold readAt
  split
  · exact Or.inr ⟨_, rfl⟩
  split
  · next hle => exact Or.inl ⟨_, rfl, hle⟩
  · exact Or.inr ⟨_, rfl⟩

theorem readNext_outcome {b : ByteBuffer} (hb : b.Inside) (len : Nat) :
    match readNext len b with
    | .ok _ b1 => b1.Inside ∧ b1.storage = b.storage
    | .error e b1 => (e = .outside ↔ ¬ b.Unwrapped b.rpos len) ∧ b1 = b := by
  have hiff := readAt_outside_iff hb b.rpos len
  unfold readNext
  rcases readAt_same b.rpos len b with ⟨bytes, h, hle⟩ | ⟨e, h⟩
  · rw [h]
    exact ⟨⟨hle, hb.size⟩, rfl⟩
  · rw [h] at hiff ⊢
    refine ⟨?_, rfl⟩
    rw [← hiff]
    constructor
    · rintro rfl
      exact ⟨b, rfl⟩
    · rintro ⟨b1, h1⟩
      injection h1

/-- **A short read** needs no care: from within the storage its end does not wrap. -/
theorem readNext_safe {len : Nat} (hlen : len ≤ 8) : Safe (readNext len) := by
  intro b hb
  have hout := readNext_outcome hb len
  have hun : b.Unwrapped b.rpos len := by
    left
    have h1 := hb.rpos
    have h2 := hb.size
    unfold maxStorage at h2
    unfold sizeT
    omega
  cases hcase : readNext len b with
  | ok bytes b1 =>
    rw [hcase] at hout
    exact hout
  | error e b1 =>
    rw [hcase] at hout
    obtain ⟨he, rfl⟩ := hout
    exact ⟨fun h => he.1 h hun, hb, rfl⟩

theorem readInt_safe (t : IntType) : Safe (readInt t) :=
  (readNext_safe (by cases t <;> decide)).bind fun _ => Safe.pure _

theorem checkByte_safe : Safe checkByte := by
  intro b hb
  unfold checkByte
  by_cases h : (b.rpos + 1) % sizeT > b.size
  · rw [if_pos h]
    exact ⟨by decide, hb, rfl⟩
  · rw [if_neg h]
    exact ⟨hb, rfl⟩

theorem readStringLoop_safe (n : Nat) (value : CString) : Safe (readStringLoop n value) := by
  induction n generalizing value with
  | zero => exact Safe.pure value
  | succ n ih =>
    refine (readNext_safe (by decide)).bind fun bytes => ?_
    simp only
    split
    · exact Safe.pure value
    · exact ih _

theorem unpackLoop_safe (guidmark n i guid : Nat) : Safe (unpackLoop guidmark n i guid) := by
  induction n generalizing i guid with
  | zero => exact Safe.pure guid
  | succ n ih =>
    unfold unpackLoop
    split
    · exact checkByte_safe.bind fun _ => (readInt_safe .uint8).bind fun _ => ih _ _
    · exact ih _ _

theorem readTimes_safe {α : Type} {read : BufferM α} (h : Safe read) (n : Nat) : Safe (readTimes read n) := by
  induction n with
  | zero => exact Safe.pure []
  | succ n ih => exact h.bind fun v => ih.bind fun vs => Safe.pure (v :: vs)

/-- **Every type of values** is read within the storage. -/
theorem readElem_safe (t : ElemType) : Safe (readElem t) := by
  induction t with
  | int t => exact readInt_safe t
  | string => exact fun b hb => readStringLoop_safe (b.size - b.rpos) ⟨[], by simp⟩ b hb
  | packGUID =>
    exact checkByte_safe.bind fun _ => (readInt_safe .uint8).bind fun _ =>
      (unpackLoop_safe _ 8 0 0).bind fun _ => Safe.pure _
  | vector t ih => exact (readInt_safe .uint32).bind fun vsize => readTimes_safe ih vsize.toNat

/-! ### One call, a run -/

/-- **One call** on a buffer within its storage: it stays there just if its bounds do not wrap, and
what it leaves is within its storage. -/
theorem call_exact {b : ByteBuffer} (hb : b.Inside) (c : ReadCall) :
    (b.StaysInside c ↔ b.Bounded c) ∧ (b.afterCall c).Inside := by
  have hsafe : ∀ {r : BufferM Unit}, Safe r → b.call c = r b → b.StaysInside c ∧ (b.afterCall c).Inside := by
    intro r hr hcall
    have hout := hr b hb
    unfold StaysInside afterCall
    rw [hcall]
    cases hcase : r b with
    | ok a b1 =>
      rw [hcase] at hout
      exact ⟨fun b1 h => (nomatch h), hout.1⟩
    | error e b1 =>
      rw [hcase] at hout
      refine ⟨fun b2 h => ?_, hout.2.1⟩
      injection h with he
      exact hout.1 he
  cases c with
  | field t =>
    cases t with
    | value t =>
      have hr : Safe (readField (.value t)) := (readElem_safe t).bind fun _ => Safe.pure _
      have := hsafe (hr.bind fun _ => Safe.pure ()) rfl
      exact ⟨iff_of_true this.1 trivial, this.2⟩
    | bytes len =>
      have hout := readNext_outcome hb len
      unfold StaysInside afterCall
      cases hcase : readNext len b with
      | ok bytes b1 =>
        rw [hcase] at hout
        have hfield : readField (.bytes len) b = .ok (.bytes bytes) b1 := bind_ok hcase
        have hcall : b.call (.field (.bytes len)) = .ok () b1 := bind_ok hfield
        rw [hcall]
        refine ⟨iff_of_true (fun b2 h => (nomatch h)) ?_, hout.1⟩
        by_contra hun
        obtain ⟨b2, h2⟩ := (readAt_outside_iff hb b.rpos len).2 hun
        unfold readNext at hcase
        rw [h2] at hcase
        exact nomatch hcase
      | error e b1 =>
        rw [hcase] at hout
        obtain ⟨he, rfl⟩ := hout
        have hcall : b1.call (.field (.bytes len)) = .error e b1 := bind_error (bind_error hcase)
        rw [hcall]
        refine ⟨⟨fun h => ?_, fun h b2 h2 => ?_⟩, hb⟩
        · by_contra hun
          exact h b1 (congrArg (EStateM.Result.error · b1) (he.2 hun))
        · injection h2 with h3
          exact he.1 h3 h
  | readAt pos t =>
    have hiff := readAt_outside_iff hb pos t.size
    unfold StaysInside afterCall
    rcases readAt_same pos t.size b with ⟨bytes, h, _⟩ | ⟨e, h⟩
    · have hcall : b.call (.readAt pos t) = .ok () b := bind_ok h
      rw [hcall]
      refine ⟨iff_of_true (fun b1 h1 => (nomatch h1)) ?_, hb⟩
      by_contra hun
      obtain ⟨b1, h1⟩ := hiff.2 hun
      exact nomatch h.symm.trans h1
    · have hcall : b.call (.readAt pos t) = .error e b := bind_error h
      rw [hcall]
      refine ⟨⟨fun h1 => ?_, fun hun b1 h1 => ?_⟩, hb⟩
      · by_contra hun
        obtain ⟨b1, h2⟩ := hiff.2 hun
        rw [h] at h2
        injection h2 with h3
        exact h1 b (congrArg (EStateM.Result.error · b) h3)
      · injection h1 with h2
        exact hiff.1 ⟨b, h.trans (congrArg (EStateM.Result.error · b) h2)⟩ hun
  | readSkip skip =>
    have hr : Safe (readSkip skip) := by
      intro b hb
      unfold readSkip
      by_cases h : (b.rpos + skip) % sizeT > b.size
      · rw [if_pos h]
        exact ⟨by decide, hb, rfl⟩
      · rw [if_neg h]
        exact ⟨⟨Nat.not_lt.1 h, hb.size⟩, rfl⟩
    have := hsafe hr rfl
    exact ⟨iff_of_true this.1 trivial, this.2⟩

theorem writeFields_storage {asserts : Bool} {fs : List Field} {b : ByteBuffer}
    (h : writeFields asserts fs {} = .ok () b) :
    b.storage = fs.flatMap encodeField ∧ b.rpos = 0 ∧ b.wpos = b.size ∧ b.size ≤ maxStorage := by
  have hempty : ({} : ByteBuffer).AtEnd := ⟨rfl, Nat.zero_le _⟩
  obtain ⟨hend, hstorage, hrpos⟩ := writeEach_appends (writeField_appends asserts) fs {} b hempty h
  exact ⟨hstorage, hrpos, hend.wpos, hend.size⟩

/-- **The round trip** holds exactly for fields without a vector that is too long. -/
theorem roundTrip_iff {asserts : Bool} {fs : List Field} {b : ByteBuffer}
    (h : writeFields asserts fs {} = .ok () b) :
    (∃ b1, readFields (fs.map Field.type) b = .ok fs b1 ∧ b1.rpos = b1.wpos) ↔ ∀ f ∈ fs, ShortField f := by
  obtain ⟨hstorage, hrpos, hwpos, hsize⟩ := writeFields_storage h
  constructor
  · rintro ⟨b1, hread, _⟩
    exact readFields_short _ b fs b1 hread
  · intro hshort
    have hinside : b.Inside := ⟨by omega, hsize⟩
    have hnext : fs.flatMap encodeField <+: b.storage.drop b.rpos := by rw [hstorage, hrpos, List.drop_zero]
    refine ⟨_, readFields_reads fs hshort b hinside hnext, ?_⟩
    show b.rpos + (fs.flatMap encodeField).length = b.wpos
    rw [hrpos, hwpos, Nat.zero_add, ← hstorage]
    rfl

/-- **The buffer**: fields that were written are read back exactly if no vector is longer than its
length field tells, and a run of reads stays within the storage exactly if no end of a read that
is given its position or length wraps around to within it. -/
theorem buffer_exact (asserts : Bool) (fs : List Field) (b : ByteBuffer)
    (hwritten : writeFields asserts fs {} = .ok () b) (c : ByteBuffer) (hc : c.Inside) (calls : List ReadCall) :
    ((∃ b1, readFields (fs.map Field.type) b = .ok fs b1 ∧ b1.rpos = b1.wpos) ↔ ∀ f ∈ fs, ShortField f) ∧
      (Transition.Along afterCall StaysInside c calls ↔ Transition.Along afterCall Bounded c calls) :=
  ⟨roundTrip_iff hwritten,
    Transition.along_iff_of_invariant (fun _ c hb _ => (call_exact hb c).2) (fun _ c hb => (call_exact hb c).1) hc⟩

/-- A packed GUID and a vector, and reads of the buffer they make. -/
theorem buffer_exact_sample :
    let fs : List Field := [.value .packGUID (BitVec.ofNat 64 0x1007), .value (.vector .string) [⟨[65], by decide⟩]]
    let b : ByteBuffer := { storage := [3, 7, 16, 1, 0, 0, 0, 65, 0], wpos := 9 }
    let calls : List ReadCall := [.field (.value .packGUID), .readAt 3 .uint32, .field (.bytes 100)]
    ((∃ b1, readFields (fs.map Field.type) b = .ok fs b1 ∧ b1.rpos = b1.wpos) ↔ ∀ f ∈ fs, ShortField f) ∧
      (Transition.Along afterCall StaysInside b calls ↔ Transition.Along afterCall Bounded b calls) :=
  buffer_exact true _ _ rfl _ ⟨by decide, by decide⟩ _

/-- **A read behind the storage**: the end of a read of the last byte of the address space wraps to 0. -/
theorem read_wraps :
    ¬ ∀ b : ByteBuffer, b.Inside → ∀ calls : List ReadCall, Transition.Along afterCall StaysInside b calls := by
  intro h
  have hinside : ({ storage := [0] } : ByteBuffer).Inside := ⟨by decide, by decide⟩
  exact (h _ hinside [.readAt (2 ^ 64 - 1) .uint8]).1 _ rfl

end ByteBuffer

end BlizzLike
