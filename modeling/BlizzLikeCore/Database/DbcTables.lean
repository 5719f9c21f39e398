import BlizzLikeCore.Database.DbcFileLoader
import Mathlib.Tactic.Ring
import Mathlib.Tactic.Linarith

/-!
# What the loops over records leave

Field `x` of record `y` is decoded to `place fmt y x`; both loops write each place once, in this order.  From
where the loader has its data, they end exactly when all that is read is in `data`, all that is written is in
the table and every string begins in the block, and then the table and its index are known entry by entry.

    tables_exact : when the two calls end
    tables_final : what they leave
-/

namespace BlizzLike

open ForLoop

variable (l : DbcFileLoader) (fmt : List Char)

/-! ## Places -/

/-- Where fields are in a struct. -/
def structPos : Nat → Nat
  | 0 => 0
  | x + 1 => structPos x + (formatOf fmt x).size

/-- The size of a struct. -/
def structSize : Nat := structPos fmt fmt.length

def place (y x : Nat) : Nat := y * structSize fmt + structPos fmt x

/-- Field `x'` of record `y'` comes before field `x` of record `y`. -/
def Before (y x y' x' : Nat) : Prop := y' < y ∧ x' < fmt.length ∨ y' = y ∧ x' < x

theorem structPos_mono {x x' : Nat} (h : x ≤ x') : structPos fmt x ≤ structPos fmt x' := by
  induction h with
  | refl => exact le_rfl
  | step _ ih => exact ih.trans (Nat.le_add_right _ _)

theorem place_succ (y x : Nat) : place fmt y (x + 1) = place fmt y x + (formatOf fmt x).size := by
  unfold place
  rw [structPos, Nat.add_assoc]

theorem place_next (y : Nat) : place fmt y fmt.length = place fmt (y + 1) 0 := by
  simp only [place, structPos, structSize]
  ring

theorem before_next (y y' x' : Nat) : Before fmt y fmt.length y' x' ↔ Before fmt (y + 1) 0 y' x' := by
  unfold Before
  omega

theorem place_end {y x y' x' : Nat} (h : Before fmt y x y' x') :
    place fmt y' x' + (formatOf fmt x').size ≤ place fmt y x := by
  rw [← place_succ]
  unfold place
  rcases h with ⟨hy, hx⟩ | ⟨rfl, hx⟩
  · have hin : structPos fmt (x' + 1) ≤ structSize fmt := structPos_mono fmt hx
    have hrow : (y' + 1) * structSize fmt ≤ y * structSize fmt := Nat.mul_le_mul_right _ hy
    rw [Nat.succ_mul] at hrow
    omega
  · have hin : structPos fmt (x' + 1) ≤ structPos fmt x := structPos_mono fmt hx
    omega

theorem place_total {y x n : Nat} (hy : y < n) (hx : x < fmt.length) :
    place fmt y x + (formatOf fmt x).size ≤ n * structSize fmt := by
  have h := place_end fmt (y := n) (x := 0) (Or.inl ⟨hy, hx⟩)
  exact h.trans_eq (by simp [place, structPos])

theorem place_ne {y x y' x' : Nat} (hx : x < fmt.length) (hx' : x' < fmt.length)
    (hs : 0 < (formatOf fmt x).size) (hs' : 0 < (formatOf fmt x').size) (hne : ¬(y' = y ∧ x' = x)) :
    place fmt y' x' ≠ place fmt y x := by
  have hcases : Before fmt y x y' x' ∨ Before fmt y' x' y x := by
    unfold Before
    omega
  rcases hcases with h | h
  · have := place_end fmt h
    omega
  · have := place_end fmt h
    omega

theorem foldl_u32 (g : Char → Nat) (cs : List Char) (n : Nat) :
    cs.foldl (fun size c => u32 (size + g c)) (u32 n) = u32 (n + (cs.map g).sum) := by
  induction cs generalizing n with
  | nil => rfl
  | cons c cs ih =>
    have hstep : u32 (u32 n + g c) = u32 (n + g c) := by simp [u32]
    rw [List.foldl_cons, hstep, ih, List.map_cons, List.sum_cons, Nat.add_assoc]

theorem structPos_eq {x : Nat} (h : x ≤ fmt.length) :
    structPos fmt x = ((fmt.take x).map fun c => (fieldFormat c).size).sum := by
  induction x with
  | zero => rfl
  | succ x ih =>
    have hx : x < fmt.length := h
    have hc : formatOf fmt x = fieldFormat fmt[x] := by simp [formatOf, formatChar, hx]
    rw [structPos, ih (by omega), List.take_succ_eq_append_getElem hx, List.map_append, List.sum_append, hc]
    simp

theorem getFormatRecordSize_eq : getFormatRecordSize fmt = u32 (structSize fmt) := by
  have h := foldl_u32 (fun c => (fieldFormat c).size) fmt 0
  rw [structSize, structPos_eq fmt le_rfl, List.take_length]
  rw [Nat.zero_add] at h
  exact h

/-! ## What a field is kept as -/

namespace DbcFileLoader

/-- So many bytes where field `x` of record `y` is. -/
def val (y x size : Nat) : Nat := Bytes.value (bytesAt l.data (y * l.recordSize + l.getOffset x) size)

/-- They are in `data`. -/
def Inside (y x size : Nat) : Prop := y * l.recordSize + l.getOffset x + size ≤ l.data.length

/-- The entry record `y` gets. -/
def key (y : Nat) : Nat :=
  match indexPos fmt with
  | none => y
  | some i => l.val y i 4

/-- What `AutoProduceData` writes for a field. -/
def cellOf (y x : Nat) : Option DbcCell :=
  match formatOf fmt x with
  | .float | .ind | .int => some (.num 4 (l.val y x 4))
  | .byte => some (.num 1 (l.val y x 1))
  | .string => some (.str none)
  | .sort | .unused => none

/-- What is there after `AutoProduceStrings`. -/
def finalCell (y x : Nat) : Option DbcCell :=
  if formatOf fmt x = .string then some (.str (some (l.val y x 4))) else l.cellOf fmt y x

/-- How many bytes `AutoProduceData` reads of a field. -/
def dataRead (x : Nat) : Nat :=
  match formatOf fmt x with
  | .float | .ind | .int => 4
  | .byte => 1
  | .string | .sort | .unused => 0

theorem cellOf_ne_none (y x : Nat) : l.cellOf fmt y x ≠ none ↔ 0 < (formatOf fmt x).size := by
  unfold cellOf
  cases formatOf fmt x <;> simp [FieldFormat.size]

theorem read_ok {pos size v : Nat} :
    l.read pos size = .ok v ↔ pos + size ≤ l.data.length ∧ v = Bytes.value (bytesAt l.data pos size) :=
  ite_eq_ok

theorem getUInt_ok {y x v : Nat} : l.getUInt y x = .ok v ↔ l.Inside y x 4 ∧ v = l.val y x 4 := l.read_ok

theorem getUInt8_ok {y x v : Nat} : l.getUInt8 y x = .ok v ↔ l.Inside y x 1 ∧ v = l.val y x 1 := l.read_ok

end DbcFileLoader

namespace DbcTables

/-- A cell more, where the loops are. -/
def put (t : DbcTables) (size : Nat) : Option DbcCell → DbcTables
  | none => t
  | some cell => { t with dataTable := Function.update t.dataTable t.offset (some cell) }.move size

theorem write_ok {t t' : DbcTables} {size : Nat} {cell : DbcCell} :
    t.write size cell = .ok t' ↔ t.offset + size ≤ t.size ∧ t' = t.put size (some cell) :=
  ite_eq_ok

theorem setIndex_ok {t t' : DbcTables} {k : Nat} :
    t.setIndex k = .ok t' ↔
      k < t.records ∧ t' = { t with indexTable := Function.update t.indexTable k (some t.offset) } :=
  ite_eq_ok

end DbcTables

namespace DbcFileLoader

/-- **One field of `AutoProduceData`.** -/
theorem produceField_ok {y x : Nat} {t t' : DbcTables} :
    l.produceField fmt y x t = .ok t' ↔
      (0 < dataRead fmt x → l.Inside y x (dataRead fmt x)) ∧
        (0 < (formatOf fmt x).size → t.offset + (formatOf fmt x).size ≤ t.size) ∧
        t' = t.put (formatOf fmt x).size (l.cellOf fmt y x) := by
  unfold produceField dataRead cellOf
  cases formatOf fmt x <;>
    simp only [bind_eq_ok, getUInt_ok, getUInt8_ok, DbcTables.write_ok, FieldFormat.size, DbcTables.put]
  case string => simp
  case sort => simp [eq_comm]
  case unused => simp [eq_comm]
  all_goals
    constructor
    · rintro ⟨v, ⟨hin, rfl⟩, hle, rfl⟩
      exact ⟨fun _ => hin, fun _ => hle, rfl⟩
    · rintro ⟨hin, hle, rfl⟩
      exact ⟨_, ⟨hin (by decide), rfl⟩, hle (by decide), rfl⟩

/-! ## AutoProduceData -/

/-- Before field `x` of record `y`, when `n` records have been entered into the index. -/
structure Produced (bytes rows n y x : Nat) (t : DbcTables) : Prop where
  size : t.size = bytes
  records : t.records = rows
  offset : t.offset = place fmt y x
  le : t.offset ≤ bytes
  cells : ∀ y' x', Before fmt y x y' x' → l.cellOf fmt y' x' ≠ none →
    t.dataTable (place fmt y' x') = l.cellOf fmt y' x'
  entries : ∀ k o, t.indexTable k = some o ↔
    ∃ y' < n, o = y' * structSize fmt ∧ l.key fmt y' = k ∧ ∀ y'', y' < y'' → y'' < n → l.key fmt y'' ≠ k

variable {l fmt} {bytes rows n y x : Nat} {t t' : DbcTables}

theorem before_succ {y' x' : Nat} (h : Before fmt y (x + 1) y' x') : Before fmt y x y' x' ∨ y' = y ∧ x' = x := by
  unfold Before at h ⊢
  omega

theorem Produced.put (hp : l.Produced fmt bytes rows n y x t) (hsize : bytes < 4294967296)
    (hfit : 0 < (formatOf fmt x).size → t.offset + (formatOf fmt x).size ≤ t.size) :
    l.Produced fmt bytes rows n y (x + 1) (t.put (formatOf fmt x).size (l.cellOf fmt y x)) := by
  have hkept := l.cellOf_ne_none fmt y x
  have hnext := place_succ fmt y x
  cases hc : l.cellOf fmt y x with
  | none =>
    have hzero : (formatOf fmt x).size = 0 := by
      rw [hc] at hkept
      simpa using hkept
    refine ⟨hp.size, hp.records, hp.offset.trans (by omega), hp.le, ?_, hp.entries⟩
    intro y' x' hb hne
    rcases before_succ hb with hb | ⟨rfl, rfl⟩
    · exact hp.cells y' x' hb hne
    · exact absurd hc hne
  | some cell =>
    have hpos : 0 < (formatOf fmt x).size := by
      rw [← hkept, hc]
      exact Option.some_ne_none cell
    have hfit := hfit hpos
    rw [hp.size] at hfit
    have hoff : u32 (t.offset + (formatOf fmt x).size) = t.offset + (formatOf fmt x).size := u32_eq _ (by omega)
    refine ⟨hp.size, hp.records, ?_, ?_, ?_, hp.entries⟩
    · exact hoff.trans (by rw [hp.offset, hnext])
    · exact hoff.le.trans hfit
    · intro y' x' hb hne
      change Function.update t.dataTable t.offset (some cell) (place fmt y' x') = _
      rcases before_succ hb with hb | ⟨rfl, rfl⟩
      · have hend := place_end fmt hb
        have hpos' := (l.cellOf_ne_none fmt y' x').1 hne
        have hoffset := hp.offset
        rw [Function.update_of_ne (by omega)]
        exact hp.cells y' x' hb hne
      · rw [← hp.offset, Function.update_self, hc]

theorem Produced.next (hp : l.Produced fmt bytes rows n y fmt.length t) :
    l.Produced fmt bytes rows n (y + 1) 0 t where
  size := hp.size
  records := hp.records
  offset := hp.offset.trans (place_next fmt y)
  le := hp.le
  cells y' x' hb := hp.cells y' x' ((before_next fmt y y' x').2 hb)
  entries := hp.entries

theorem Produced.enter (hp : l.Produced fmt bytes rows y y 0 t) :
    l.Produced fmt bytes rows (y + 1) y 0
      { t with indexTable := Function.update t.indexTable (l.key fmt y) (some t.offset) } where
  size := hp.size
  records := hp.records
  offset := hp.offset
  le := hp.le
  cells := hp.cells
  entries k o := by
    have hoffset : t.offset = y * structSize fmt := hp.offset.trans (by simp [place, structPos])
    change Function.update t.indexTable (l.key fmt y) (some t.offset) k = some o ↔ _
    by_cases hk : k = l.key fmt y
    · subst hk
      rw [Function.update_self, Option.some.injEq, hoffset]
      constructor
      · rintro rfl
        exact ⟨y, y.lt_succ_self, rfl, rfl, fun y'' h1 h2 => by omega⟩
      · rintro ⟨y', hy', rfl, -, hlast⟩
        by_cases hyy : y' = y
        · rw [hyy]
        · exact absurd rfl (hlast y (by omega) y.lt_succ_self)
    · rw [Function.update_of_ne hk, hp.entries]
      constructor
      · rintro ⟨y', hy', ho, hkey, hlast⟩
        refine ⟨y', by omega, ho, hkey, fun y'' h1 h2 => ?_⟩
        by_cases hyy : y'' = y
        · rw [hyy]
          exact Ne.symm hk
        · exact hlast y'' h1 (by omega)
      · rintro ⟨y', hy', ho, hkey, hlast⟩
        have hyy : y' ≠ y := by
          rintro rfl
          exact hk hkey.symm
        exact ⟨y', by omega, ho, hkey, fun y'' h1 h2 => hlast y'' h1 (by omega)⟩

theorem entryOf_ok {k : Nat} :
    l.entryOf y (indexPos fmt) = .ok k ↔ (∀ i, indexPos fmt = some i → l.Inside y i 4) ∧ k = l.key fmt y := by
  unfold entryOf key
  cases hi : indexPos fmt with
  | none => simp [eq_comm]
  | some i => simp [getUInt_ok]

variable (l fmt)

/-- What the index needs of a record. -/
def KeyIn (y : Nat) : Prop := ∀ i, indexPos fmt = some i → l.Inside y i 4

/-- What a field needs in `AutoProduceData`. -/
def FieldIn (bytes y x : Nat) : Prop :=
  (0 < dataRead fmt x → l.Inside y x (dataRead fmt x)) ∧
    (0 < (formatOf fmt x).size → place fmt y x + (formatOf fmt x).size ≤ bytes)

/-- What a record needs in `AutoProduceData`. -/
def RecordIn (bytes rows y : Nat) : Prop :=
  l.KeyIn fmt y ∧ l.key fmt y < rows ∧ ∀ x < fmt.length, l.FieldIn fmt bytes y x

variable {l fmt}

theorem Produced.field_exact (hp : l.Produced fmt bytes rows n y x t) :
    (∃ t', l.produceField fmt y x t = .ok t') ↔ l.FieldIn fmt bytes y x := by
  simp only [produceField_ok, FieldIn, hp.offset, hp.size]
  exact ⟨fun ⟨_, hread, hfit, _⟩ => ⟨hread, hfit⟩, fun ⟨hread, hfit⟩ => ⟨_, hread, hfit, rfl⟩⟩

theorem Produced.field (hp : l.Produced fmt bytes rows n y x t) (hbytes : bytes < 4294967296)
    (h : l.produceField fmt y x t = .ok t') : l.Produced fmt bytes rows n y (x + 1) t' := by
  obtain ⟨-, hfit, rfl⟩ := (l.produceField_ok fmt).1 h
  exact hp.put hbytes hfit

theorem Produced.fields_exact (hp : l.Produced fmt bytes rows n y 0 t) (hbytes : bytes < 4294967296) :
    (∃ t', forLoop (l.produceField fmt y) fmt.length t = .ok t') ↔ ∀ x < fmt.length, l.FieldIn fmt bytes y x :=
  forLoop_exact hp (fun _ _ _ _ hp h => hp.field hbytes h) fun _ _ _ hp => hp.field_exact

theorem Produced.fields (hp : l.Produced fmt bytes rows n y 0 t) (hbytes : bytes < 4294967296)
    (h : forLoop (l.produceField fmt y) fmt.length t = .ok t') : l.Produced fmt bytes rows n (y + 1) 0 t' :=
  (forLoop_keeps hp (fun _ _ _ _ hp h => hp.field hbytes h) h).next

theorem produceRecord_ok (hlen : fmt.length = l.fieldCount) :
    l.produceRecord fmt y t = .ok t' ↔
      l.KeyIn fmt y ∧ l.key fmt y < t.records ∧
        forLoop (l.produceField fmt y) fmt.length
          { t with indexTable := Function.update t.indexTable (l.key fmt y) (some t.offset) } = .ok t' := by
  unfold produceRecord
  simp only [bind_eq_ok, entryOf_ok, DbcTables.setIndex_ok, hlen]
  constructor
  · rintro ⟨k, ⟨hkey, rfl⟩, u, ⟨hlt, rfl⟩, hfields⟩
    exact ⟨hkey, hlt, hfields⟩
  · rintro ⟨hkey, hlt, hfields⟩
    exact ⟨_, ⟨hkey, rfl⟩, _, ⟨hlt, rfl⟩, hfields⟩

theorem Produced.record_exact (hp : l.Produced fmt bytes rows y y 0 t) (hbytes : bytes < 4294967296)
    (hlen : fmt.length = l.fieldCount) :
    (∃ t', l.produceRecord fmt y t = .ok t') ↔ l.RecordIn fmt bytes rows y := by
  simp only [produceRecord_ok hlen, RecordIn]
  constructor
  · rintro ⟨t', hkey, hlt, hfields⟩
    rw [hp.records] at hlt
    exact ⟨hkey, hlt, (hp.enter.fields_exact hbytes).1 ⟨t', hfields⟩⟩
  · rintro ⟨hkey, hlt, hfields⟩
    obtain ⟨t', hfields⟩ := (hp.enter.fields_exact hbytes).2 hfields
    rw [← hp.records] at hlt
    exact ⟨t', hkey, hlt, hfields⟩

theorem Produced.record (hp : l.Produced fmt bytes rows y y 0 t) (hbytes : bytes < 4294967296)
    (hlen : fmt.length = l.fieldCount) (h : l.produceRecord fmt y t = .ok t') :
    l.Produced fmt bytes rows (y + 1) (y + 1) 0 t' := by
  obtain ⟨-, -, hfields⟩ := (produceRecord_ok hlen).1 h
  exact hp.enter.fields hbytes hfields

/-! The index -/

theorem val_lt (h : l.Inside y x 4) : l.val y x 4 < 4294967296 := by
  have hb := Bytes.value_lt (bytesAt l.data (y * l.recordSize + l.getOffset x) 4)
  have hlen : (bytesAt l.data (y * l.recordSize + l.getOffset x) 4).length = 4 := by
    unfold Inside at h
    simp only [bytesAt, List.length_take, List.length_drop]
    omega
  rw [hlen] at hb
  exact hb

/-- The largest of the indices so far. -/
def IsMax (l : DbcFileLoader) (i n maxi : Nat) : Prop :=
  (∀ y < n, l.val y i 4 ≤ maxi) ∧ (maxi = 0 ∨ ∃ y < n, l.val y i 4 = maxi)

theorem maxTurn_ok {i m m' : Nat} :
    l.maxTurn i y m = .ok m' ↔ l.Inside y i 4 ∧ m' = if m < l.val y i 4 then l.val y i 4 else m := by
  simp only [maxTurn, bind_eq_ok, getUInt_ok]
  constructor
  · rintro ⟨v, ⟨hin, rfl⟩, h⟩
    cases h
    exact ⟨hin, rfl⟩
  · rintro ⟨hin, rfl⟩
    exact ⟨_, ⟨hin, rfl⟩, rfl⟩

theorem IsMax.turn {i m m' : Nat} (hm : l.IsMax i n m) (h : l.maxTurn i n m = .ok m') : l.IsMax i (n + 1) m' := by
  obtain ⟨-, rfl⟩ := maxTurn_ok.1 h
  refine ⟨fun y hy => ?_, ?_⟩
  · rcases Nat.lt_succ_iff_lt_or_eq.1 hy with hy | rfl
    · have := hm.1 y hy
      split <;> omega
    · split <;> omega
  · split
    · exact Or.inr ⟨n, n.lt_succ_self, rfl⟩
    · exact hm.2.imp_right fun ⟨y, hy, he⟩ => ⟨y, by omega, he⟩

theorem tableSize_exact : (∃ rows, l.tableSize (indexPos fmt) = .ok rows) ↔ ∀ y < l.recordCount, l.KeyIn fmt y := by
  unfold tableSize KeyIn
  cases hi : indexPos fmt with
  | none => simp
  | some i =>
    have hloop : (∃ m, forLoop (l.maxTurn i) l.recordCount 0 = .ok m) ↔ ∀ y < l.recordCount, l.Inside y i 4 :=
      forLoop_exact (I := fun _ _ => True) trivial (fun _ _ _ _ _ _ => trivial)
        fun y _ m _ => ⟨fun ⟨_, h⟩ => (maxTurn_ok.1 h).1, fun h => ⟨_, maxTurn_ok.2 ⟨h, rfl⟩⟩⟩
    simp only [Option.some.injEq, forall_eq']
    rw [← hloop]
    simp [bind_eq_ok]

/-- **The index has room** for all records exactly when none has the last of all keys. -/
theorem tableSize_room (hcount : l.recordCount < 4294967296)
    (h : l.tableSize (indexPos fmt) = .ok rows) :
    (∀ y < l.recordCount, l.key fmt y < rows) ↔ ∀ y < l.recordCount, l.key fmt y ≠ 4294967295 := by
  have hin := tableSize_exact.1 ⟨rows, h⟩
  unfold tableSize at h
  unfold KeyIn at hin
  unfold key
  cases hi : indexPos fmt with
  | none =>
    rw [hi] at h
    cases h
    refine ⟨fun _ y hy => ?_, fun _ y hy => hy⟩
    change y ≠ _
    omega
  | some i =>
    rw [hi] at h
    obtain ⟨m, hm, h⟩ := bind_eq_ok.1 h
    cases h
    have hmax : l.IsMax i l.recordCount m :=
      forLoop_keeps (I := l.IsMax i) ⟨fun y hy => absurd hy y.not_lt_zero, Or.inl rfl⟩
        (fun _ _ _ _ hm h => hm.turn h) hm
    have hlt : ∀ y < l.recordCount, l.val y i 4 < 4294967296 := fun y hy => val_lt (hin y hy i hi)
    have hm' : m < 4294967296 := by
      rcases hmax.2 with rfl | ⟨y, hy, rfl⟩
      · decide
      · exact hlt y hy
    by_cases hlast : m = 4294967295
    · obtain hz | ⟨y, hy, he⟩ := hmax.2
      · omega
      · have hzero : u32 (m + 1) = 0 := by rw [hlast]; rfl
        rw [hzero]
        exact ⟨fun h => absurd (h y hy) (Nat.not_lt_zero _), fun h => absurd (he.trans hlast) (h y hy)⟩
    · rw [u32_eq (m + 1) (by omega)]
      refine ⟨fun _ y hy => ?_, fun _ y hy => ?_⟩
      · have := hmax.1 y hy
        change l.val y i 4 ≠ _
        omega
      · have := hmax.1 y hy
        change l.val y i 4 < _
        omega

variable (l fmt) in
/-- The size of `dataTable`. -/
def tableBytes : Nat := u32 (l.recordCount * getFormatRecordSize fmt)

theorem tableBytes_lt : l.tableBytes fmt < 4294967296 := Nat.mod_lt _ (by decide)

theorem autoProduceData_ok (hlen : fmt.length = l.fieldCount) :
    l.autoProduceData fmt = .ok t ↔
      ∃ rows, l.tableSize (indexPos fmt) = .ok rows ∧
        forLoop (l.produceRecord fmt) l.recordCount { records := rows, size := l.tableBytes fmt } = .ok t := by
  unfold autoProduceData
  rw [if_neg (not_not.2 hlen)]
  exact bind_eq_ok

theorem produced_start : l.Produced fmt bytes rows 0 0 0 { records := rows, size := bytes } where
  size := rfl
  records := rfl
  offset := by simp [place, structPos]
  le := Nat.zero_le _
  cells y' x' hb := by simp [Before] at hb
  entries k o := by simp

/-- **When `AutoProduceData` ends.** -/
theorem autoProduceData_exact (hlen : fmt.length = l.fieldCount) (hcount : l.recordCount < 4294967296) :
    (∃ t, l.autoProduceData fmt = .ok t) ↔
      ∀ y < l.recordCount, l.KeyIn fmt y ∧ l.key fmt y ≠ 4294967295 ∧
        ∀ x < fmt.length, l.FieldIn fmt (l.tableBytes fmt) y x := by
  have hloop : ∀ rows,
      (∃ t, forLoop (l.produceRecord fmt) l.recordCount { records := rows, size := l.tableBytes fmt } = .ok t) ↔
        ∀ y < l.recordCount, l.RecordIn fmt (l.tableBytes fmt) rows y :=
    fun rows => forLoop_exact (I := fun y t => l.Produced fmt (l.tableBytes fmt) rows y y 0 t) produced_start
      (fun _ _ _ _ hp h => hp.record tableBytes_lt hlen h) fun _ _ _ hp => hp.record_exact tableBytes_lt hlen
  simp only [autoProduceData_ok hlen]
  constructor
  · rintro ⟨t, rows, hrows, ht⟩ y hy
    have hall := (hloop rows).1 ⟨t, ht⟩
    have hroom := (tableSize_room hcount hrows).1 fun y hy => (hall y hy).2.1
    exact ⟨(hall y hy).1, hroom y hy, (hall y hy).2.2⟩
  · intro hall
    obtain ⟨rows, hrows⟩ := tableSize_exact.2 fun y hy => (hall y hy).1
    have hroom := (tableSize_room hcount hrows).2 fun y hy => (hall y hy).2.1
    obtain ⟨t, ht⟩ := (hloop rows).2 fun y hy => ⟨(hall y hy).1, hroom y hy, (hall y hy).2.2⟩
    exact ⟨t, rows, hrows, ht⟩

/-- **What `AutoProduceData` leaves.** -/
theorem autoProduceData_keeps (hlen : fmt.length = l.fieldCount) (h : l.autoProduceData fmt = .ok t) :
    l.Produced fmt (l.tableBytes fmt) t.records l.recordCount l.recordCount 0 t := by
  obtain ⟨rows, -, ht⟩ := (autoProduceData_ok hlen).1 h
  have hp : l.Produced fmt (l.tableBytes fmt) rows l.recordCount l.recordCount 0 t :=
    forLoop_keeps (I := fun y t => l.Produced fmt (l.tableBytes fmt) rows y y 0 t) produced_start
      (fun _ _ _ _ hp h => hp.record tableBytes_lt hlen h) ht
  rw [hp.records]
  exact hp

/-! ## AutoProduceStrings -/

/-- Before field `x` of record `y`, after `AutoProduceData` left `t₀`. -/
structure Filled (l : DbcFileLoader) (fmt : List Char) (t₀ : DbcTables) (y x : Nat) (t : DbcTables) : Prop where
  size : t.size = t₀.size
  records : t.records = t₀.records
  index : t.indexTable = t₀.indexTable
  offset : t.offset = place fmt y x
  final : ∀ y' < l.recordCount, ∀ x' < fmt.length, l.cellOf fmt y' x' ≠ none → Before fmt y x y' x' →
    t.dataTable (place fmt y' x') = l.finalCell fmt y' x'
  cells : ∀ y' < l.recordCount, ∀ x' < fmt.length, l.cellOf fmt y' x' ≠ none → ¬Before fmt y x y' x' →
    t.dataTable (place fmt y' x') = l.cellOf fmt y' x'

/-- What a field needs in `AutoProduceStrings`. -/
def StringIn (l : DbcFileLoader) (fmt : List Char) (y x : Nat) : Prop :=
  formatOf fmt x = .string → l.Inside y x 4 ∧ l.val y x 4 < l.stringSize

theorem getString_ok {v : Nat} :
    l.getString y x = .ok v ↔ (l.Inside y x 4 ∧ l.val y x 4 < l.stringSize) ∧ v = l.val y x 4 := by
  simp only [getString, bind_eq_ok, getUInt_ok, ite_eq_ok]
  constructor
  · rintro ⟨w, ⟨hin, rfl⟩, hlt, rfl⟩
    exact ⟨⟨hin, hlt⟩, rfl⟩
  · rintro ⟨⟨hin, hlt⟩, rfl⟩
    exact ⟨_, ⟨hin, rfl⟩, hlt, rfl⟩

/-- **One field of `AutoProduceStrings`**, whose slot is not filled. -/
theorem fillField_ok {pool : List UInt8} (hslot : formatOf fmt x = .string → t.dataTable t.offset = some (.str none)) :
    l.fillField fmt pool y x t = .ok t' ↔
      (formatOf fmt x = .string → (l.Inside y x 4 ∧ l.val y x 4 < l.stringSize) ∧ t.offset + 8 ≤ t.size) ∧
        t' = if formatOf fmt x = .string then t.put 8 (l.finalCell fmt y x)
          else if (formatOf fmt x).size = 0 then t else t.move (formatOf fmt x).size := by
  unfold fillField finalCell
  cases hf : formatOf fmt x <;> simp only [FieldFormat.size]
  case string =>
    rw [hslot hf]
    simp only [slotEmpty, bind_eq_ok, Except.ok.injEq, forall_const, if_true]
    constructor
    · rintro ⟨empty, rfl, h⟩
      simp only [if_true, bind_eq_ok, getString_ok, DbcTables.write_ok] at h
      obtain ⟨v, ⟨hin, rfl⟩, hle, rfl⟩ := h
      exact ⟨⟨hin, hle⟩, rfl⟩
    · rintro ⟨⟨hin, hle⟩, rfl⟩
      refine ⟨true, rfl, ?_⟩
      simp only [if_true, bind_eq_ok, getString_ok, DbcTables.write_ok]
      exact ⟨_, ⟨hin, rfl⟩, hle, rfl⟩
  all_goals simp [eq_comm]

variable {t₀ : DbcTables} {pool : List UInt8}

theorem Filled.slot (hf : Filled l fmt t₀ y x t) (hy : y < l.recordCount) (hx : x < fmt.length)
    (hs : formatOf fmt x = .string) : t.dataTable t.offset = some (.str none) := by
  have hcell : l.cellOf fmt y x = some (.str none) := by simp only [cellOf, hs]
  rw [hf.offset, hf.cells y hy x hx (by simp [hcell]) (by unfold Before; omega), hcell]

theorem Filled.field_exact (hf : Filled l fmt t₀ y x t) (hy : y < l.recordCount) (hx : x < fmt.length)
    (hfit : 0 < (formatOf fmt x).size → place fmt y x + (formatOf fmt x).size ≤ t₀.size) :
    (∃ t', l.fillField fmt pool y x t = .ok t') ↔ l.StringIn fmt y x := by
  simp only [fillField_ok (hf.slot hy hx), StringIn]
  constructor
  · rintro ⟨t', h, -⟩ hs
    exact (h hs).1
  · intro h
    refine ⟨_, fun hs => ⟨h hs, ?_⟩, rfl⟩
    rw [hs] at hfit
    rw [hf.offset, hf.size]
    exact hfit (by decide)

theorem Filled.field_data (hf : Filled l fmt t₀ y x t) (hy : y < l.recordCount) (hx : x < fmt.length)
    (hfit : 0 < (formatOf fmt x).size → place fmt y x + (formatOf fmt x).size ≤ t₀.size)
    (hbytes : t₀.size < 4294967296) (h : l.fillField fmt pool y x t = .ok t') :
    t'.offset = place fmt y (x + 1) ∧ t'.size = t.size ∧ t'.records = t.records ∧ t'.indexTable = t.indexTable ∧
      t'.dataTable =
        if formatOf fmt x = .string then Function.update t.dataTable (place fmt y x) (l.finalCell fmt y x)
        else t.dataTable := by
  obtain ⟨-, rfl⟩ := (fillField_ok (hf.slot hy hx)).1 h
  have hoff := hf.offset
  rw [place_succ]
  by_cases hs : formatOf fmt x = .string
  · rw [hs] at hfit ⊢
    have hfit := hfit (by decide)
    have hcell : l.finalCell fmt y x = some (.str (some (l.val y x 4))) := if_pos hs
    rw [if_pos rfl, if_pos rfl, hcell]
    refine ⟨?_, rfl, rfl, rfl, ?_⟩
    · change u32 (t.offset + 8) = place fmt y x + 8
      rw [hoff]
      exact u32_eq _ (by change place fmt y x + 8 ≤ _ at hfit; omega)
    · change Function.update t.dataTable t.offset _ = _
      rw [hoff]
  · rw [if_neg hs, if_neg hs]
    split
    · next hzero => exact ⟨by omega, rfl, rfl, rfl, rfl⟩
    · next hpos =>
      have hfit := hfit (Nat.pos_of_ne_zero hpos)
      refine ⟨?_, rfl, rfl, rfl, rfl⟩
      change u32 (t.offset + _) = _
      rw [hoff]
      exact u32_eq _ (by omega)

theorem Filled.field (hf : Filled l fmt t₀ y x t) (hy : y < l.recordCount) (hx : x < fmt.length)
    (hfit : 0 < (formatOf fmt x).size → place fmt y x + (formatOf fmt x).size ≤ t₀.size)
    (hbytes : t₀.size < 4294967296) (h : l.fillField fmt pool y x t = .ok t') :
    Filled l fmt t₀ y (x + 1) t' := by
  obtain ⟨hoff, hsize, hrecords, hindex, hdata⟩ := hf.field_data hy hx hfit hbytes h
  have hsame : ∀ y' x', x' < fmt.length → l.cellOf fmt y' x' ≠ none → ¬(y' = y ∧ x' = x) →
      t'.dataTable (place fmt y' x') = t.dataTable (place fmt y' x') := by
    intro y' x' hx' hne hother
    rw [hdata]
    split
    · next hs =>
      have hpos : 0 < (formatOf fmt x).size := by rw [hs]; decide
      exact Function.update_of_ne (place_ne fmt hx hx' hpos ((l.cellOf_ne_none fmt y' x').1 hne) hother) _ _
    · rfl
  have hnew : l.cellOf fmt y x ≠ none → t'.dataTable (place fmt y x) = l.finalCell fmt y x := by
    intro hne
    rw [hdata]
    split
    · exact Function.update_self _ _ _
    · next hs =>
      rw [hf.cells y hy x hx hne (by unfold Before; omega), finalCell, if_neg hs]
  refine ⟨hsize.trans hf.size, hrecords.trans hf.records, hindex.trans hf.index, hoff, ?_, ?_⟩
  · intro y' hy' x' hx' hne hb
    rcases before_succ hb with hb | ⟨rfl, rfl⟩
    · rw [hsame y' x' hx' hne (by unfold Before at hb; omega)]
      exact hf.final y' hy' x' hx' hne hb
    · exact hnew hne
  · intro y' hy' x' hx' hne hb
    rw [hsame y' x' hx' hne (by unfold Before at hb; omega)]
    exact hf.cells y' hy' x' hx' hne (by unfold Before at hb ⊢; omega)

theorem Filled.next (hf : Filled l fmt t₀ y fmt.length t) : Filled l fmt t₀ (y + 1) 0 t where
  size := hf.size
  records := hf.records
  index := hf.index
  offset := hf.offset.trans (place_next fmt y)
  final y' hy' x' hx' hne hb := hf.final y' hy' x' hx' hne ((before_next fmt y y' x').2 hb)
  cells y' hy' x' hx' hne hb := hf.cells y' hy' x' hx' hne fun h => hb ((before_next fmt y y' x').1 h)

/-- All fields have room in the table. -/
def Fits (l : DbcFileLoader) (fmt : List Char) (bytes : Nat) : Prop :=
  ∀ y < l.recordCount, ∀ x < fmt.length,
    0 < (formatOf fmt x).size → place fmt y x + (formatOf fmt x).size ≤ bytes

theorem Filled.fields_exact (hf : Filled l fmt t₀ y 0 t) (hy : y < l.recordCount) (hfits : l.Fits fmt t₀.size)
    (hbytes : t₀.size < 4294967296) :
    (∃ t', forLoop (l.fillField fmt pool y) fmt.length t = .ok t') ↔ ∀ x < fmt.length, l.StringIn fmt y x :=
  forLoop_exact hf (fun x hx _ _ hf h => hf.field hy hx (hfits y hy x hx) hbytes h)
    fun x hx _ hf => hf.field_exact hy hx (hfits y hy x hx)

theorem Filled.fields (hf : Filled l fmt t₀ y 0 t) (hy : y < l.recordCount) (hfits : l.Fits fmt t₀.size)
    (hbytes : t₀.size < 4294967296) (h : forLoop (l.fillField fmt pool y) fmt.length t = .ok t') :
    Filled l fmt t₀ (y + 1) 0 t' :=
  (forLoop_keeps hf (fun x hx _ _ hf h => hf.field hy hx (hfits y hy x hx) hbytes h) h).next

theorem Produced.filled (hp : l.Produced fmt bytes rows l.recordCount l.recordCount 0 t) :
    Filled l fmt t 0 0 { t with offset := 0 } where
  size := rfl
  records := rfl
  index := rfl
  offset := by simp [place, structPos]
  final y' _ x' _ _ hb := by simp [Before] at hb
  cells y' hy' x' hx' hne _ := hp.cells y' x' (Or.inl ⟨hy', hx'⟩) hne

theorem autoProduceStrings_ok (hlen : fmt.length = l.fieldCount) :
    l.autoProduceStrings fmt t₀ = .ok (t, pool) ↔
      l.stringTable + l.stringSize ≤ l.data.length ∧ pool = bytesAt l.data l.stringTable l.stringSize ∧
        forLoop (fun y => forLoop (l.fillField fmt pool y) fmt.length) l.recordCount { t₀ with offset := 0 } = .ok t := by
  unfold autoProduceStrings
  rw [if_neg (not_not.2 hlen), ← hlen]
  split
  · next hshort => exact ⟨fun h => (nomatch h), fun h => absurd h.1 (by omega)⟩
  · next hlong =>
    simp only [bind_eq_ok, Except.ok.injEq, Prod.mk.injEq]
    constructor
    · rintro ⟨u, hu, rfl, rfl⟩
      exact ⟨by omega, rfl, hu⟩
    · rintro ⟨-, rfl, hu⟩
      exact ⟨t, hu, rfl, rfl⟩

variable (l fmt) in
/-- **What both calls need.** -/
structure TablesIn : Prop where
  pool : l.stringTable + l.stringSize ≤ l.data.length
  keys : ∀ y < l.recordCount, l.KeyIn fmt y ∧ l.key fmt y ≠ 4294967295
  fields : ∀ y < l.recordCount, ∀ x < fmt.length, l.FieldIn fmt (l.tableBytes fmt) y x
  strings : ∀ y < l.recordCount, ∀ x < fmt.length, l.StringIn fmt y x

/-- **When the two calls end.** -/
theorem tables_exact (hlen : fmt.length = l.fieldCount) (hcount : l.recordCount < 4294967296) :
    (∃ r, (l.autoProduceData fmt >>= l.autoProduceStrings fmt) = .ok r) ↔ l.TablesIn fmt := by
  have hstrings : ∀ t₀, l.autoProduceData fmt = .ok t₀ → l.Fits fmt (l.tableBytes fmt) →
      ((∃ r, l.autoProduceStrings fmt t₀ = .ok r) ↔
        l.stringTable + l.stringSize ≤ l.data.length ∧
          ∀ y < l.recordCount, ∀ x < fmt.length, l.StringIn fmt y x) := by
    intro t₀ ht₀ hfits
    have hp := autoProduceData_keeps hlen ht₀
    rw [← hp.size] at hfits
    have hbytes : t₀.size < 4294967296 := hp.size.trans_lt tableBytes_lt
    have hloop : ∀ pool, (∃ t, forLoop (fun y => forLoop (l.fillField fmt pool y) fmt.length) l.recordCount
        { t₀ with offset := 0 } = .ok t) ↔ ∀ y < l.recordCount, ∀ x < fmt.length, l.StringIn fmt y x :=
      fun pool => forLoop_exact (I := fun y t => Filled l fmt t₀ y 0 t) hp.filled
        (fun y hy _ _ hf h => hf.fields hy hfits hbytes h) fun y hy _ hf => hf.fields_exact hy hfits hbytes
    simp only [Prod.exists, autoProduceStrings_ok hlen]
    constructor
    · rintro ⟨t, pool, hin, -, ht⟩
      exact ⟨hin, (hloop pool).1 ⟨t, ht⟩⟩
    · rintro ⟨hin, hall⟩
      obtain ⟨t, ht⟩ := (hloop _).2 hall
      exact ⟨t, _, hin, rfl, ht⟩
  have hdata := autoProduceData_exact hlen hcount
  constructor
  · rintro ⟨r, hr⟩
    obtain ⟨t₀, ht₀, hr⟩ := bind_eq_ok.1 hr
    have hall := hdata.1 ⟨t₀, ht₀⟩
    have hfits : l.Fits fmt (l.tableBytes fmt) := fun y hy x hx => ((hall y hy).2.2 x hx).2
    obtain ⟨hpool, hin⟩ := (hstrings t₀ ht₀ hfits).1 ⟨r, hr⟩
    exact ⟨hpool, fun y hy => ⟨(hall y hy).1, (hall y hy).2.1⟩, fun y hy => (hall y hy).2.2, hin⟩
  · intro h
    obtain ⟨t₀, ht₀⟩ := hdata.2 fun y hy => ⟨(h.keys y hy).1, (h.keys y hy).2, h.fields y hy⟩
    have hfits : l.Fits fmt (l.tableBytes fmt) := fun y hy x hx => (h.fields y hy x hx).2
    obtain ⟨r, hr⟩ := (hstrings t₀ ht₀ hfits).2 ⟨h.pool, h.strings⟩
    exact ⟨r, bind_eq_ok.2 ⟨t₀, ht₀, hr⟩⟩

/-- What the tables are in the end. -/
structure Final (l : DbcFileLoader) (fmt : List Char) (t : DbcTables) (pool : List UInt8) : Prop where
  pool : pool = bytesAt l.data l.stringTable l.stringSize
  size : l.recordCount * structSize fmt ≤ l.tableBytes fmt
  cells : ∀ y < l.recordCount, ∀ x < fmt.length, 0 < (formatOf fmt x).size →
    t.dataTable (place fmt y x) = l.finalCell fmt y x
  entries : ∀ k o, t.indexTable k = some o ↔
    ∃ y < l.recordCount, o = y * structSize fmt ∧ l.key fmt y = k ∧
      ∀ y', y < y' → y' < l.recordCount → l.key fmt y' ≠ k

/-- **What the two calls leave.** -/
theorem tables_final (hlen : fmt.length = l.fieldCount) (hcount : l.recordCount < 4294967296)
    (h : (l.autoProduceData fmt >>= l.autoProduceStrings fmt) = .ok (t, pool)) : l.Final fmt t pool := by
  have hin := (tables_exact hlen hcount).1 ⟨_, h⟩
  obtain ⟨t₀, ht₀, h⟩ := bind_eq_ok.1 h
  have hp := autoProduceData_keeps hlen ht₀
  have hfits : l.Fits fmt t₀.size := by
    rw [hp.size]
    exact fun y hy x hx => (hin.fields y hy x hx).2
  obtain ⟨-, hpool, ht⟩ := (autoProduceStrings_ok hlen).1 h
  have hf : Filled l fmt t₀ l.recordCount 0 t :=
    forLoop_keeps (I := fun y t => Filled l fmt t₀ y 0 t) hp.filled
      (fun y hy _ _ hf h => hf.fields hy hfits (hp.size.trans_lt tableBytes_lt) h) ht
  refine ⟨hpool, ?_, ?_, ?_⟩
  · have hle := hp.le
    rw [hp.offset] at hle
    simpa [place, structPos] using hle
  · intro y hy x hx hpos
    exact hf.final y hy x hx ((l.cellOf_ne_none fmt y x).2 hpos) (Or.inl ⟨hy, hx⟩)
  · rw [hf.index]
    exact hp.entries

end DbcFileLoader

end BlizzLike
