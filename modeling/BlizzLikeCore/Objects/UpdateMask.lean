import BlizzLikeCore.Item
import Mathlib.Data.Option.NAry

/-!
# Update masks

The bits of the fields of an object that are to be sent, in blocks of 32.  The operators `&=` and `|=` go
over the blocks of the left mask and read the right one's at the same places, after an assertion that
the right mask has no more fields: one that has fewer may have fewer blocks (`assign_right_iff`).
-/

namespace BlizzLike

/-- The number of blocks `SetCount` allocates, in `uint32` arithmetic. -/
def maskBlocks (valuesCount : Nat) : Nat := u32 (valuesCount + 31) / 32

structure UpdateMask where
  mCount : Nat := 0
  mUpdateMask : List (BitVec 32) := []
  blocks : mUpdateMask.length = maskBlocks mCount := by rfl

/-- What stops an operator: the assertion, or a read outside a mask. -/
inductive MaskFault where
  | assertion
  | outside

namespace UpdateMask

def setCount (valuesCount : Nat) : UpdateMask where
  mCount := valuesCount
  mUpdateMask := List.replicate (maskBlocks valuesCount) 0
  blocks := List.length_replicate

/-- The bit of a field, when there is a block for it. -/
def getBit (m : UpdateMask) (index : Nat) : Option Bool :=
  m.mUpdateMask[index / 32]?.map fun b => b.getLsbD (index % 32)

/-- The loop of an operator over `n` blocks from block `i` on. -/
def assignLoop (op : BitVec 32 → BitVec 32 → BitVec 32) (mask : List (BitVec 32)) :
    Nat → Nat → List (BitVec 32) → Option (List (BitVec 32))
  | 0, _, bs => some bs
  | n + 1, i, bs =>
    match bs[i]?, mask[i]? with
    | some b, some c => assignLoop op mask n (i + 1) (bs.set i (op b c))
    | _, _ => none

section
variable {op : BitVec 32 → BitVec 32 → BitVec 32} {mask bs bs' : List (BitVec 32)}

theorem assignLoop_length {n i : Nat} (h : assignLoop op mask n i bs = some bs') : bs'.length = bs.length := by
  induction n generalizing i bs with
  | zero =>
    cases h
    rfl
  | succ n ih =>
    unfold assignLoop at h
    split at h
    · rw [ih h, List.length_set]
    · cases h

end

/-- `&=` and `|=`, by the operator on blocks. -/
def assign (op : BitVec 32 → BitVec 32 → BitVec 32) (m mask : UpdateMask) : Except MaskFault UpdateMask :=
  if mask.mCount ≤ m.mCount then
    match h : assignLoop op mask.mUpdateMask (maskBlocks m.mCount) 0 m.mUpdateMask with
    | some bs =>
      .ok { mCount := m.mCount, mUpdateMask := bs, blocks := (assignLoop_length h).trans m.blocks }
    | none => .error .outside
  else .error .assertion

def andAssign (m mask : UpdateMask) : Except MaskFault UpdateMask := assign (· &&& ·) m mask

def orAssign (m mask : UpdateMask) : Except MaskFault UpdateMask := assign (· ||| ·) m mask

/-- The operator ends, on a mask of the same fields, and has computed `f` at each of them. -/
def Pointwise (f : Bool → Bool → Bool) (m mask : UpdateMask) (r : Except MaskFault UpdateMask) : Prop :=
  ∃ m', r = .ok m' ∧ m'.mCount = m.mCount ∧
    ∀ i < m.mCount, m'.getBit i = Option.map₂ f (m.getBit i) (mask.getBit i)

/-! ## The loop -/

section
variable {op : BitVec 32 → BitVec 32 → BitVec 32} {mask : List (BitVec 32)}

/-- **The loop inside both masks**: the blocks it passes are combined, the others stay. -/
theorem assignLoop_some (n i : Nat) (bs : List (BitVec 32)) (hb : i + n ≤ bs.length) (hm : i + n ≤ mask.length) :
    ∃ bs', assignLoop op mask n i bs = some bs' ∧
      ∀ j, bs'[j]? = if i ≤ j ∧ j < i + n then Option.map₂ op bs[j]? mask[j]? else bs[j]? := by
  induction n generalizing i bs with
  | zero =>
    refine ⟨bs, rfl, fun j => ?_⟩
    rw [if_neg (by omega)]
  | succ n ih =>
    have hbi : bs[i]? = some bs[i] := List.getElem?_eq_getElem (by omega)
    have hmi : mask[i]? = some mask[i] := List.getElem?_eq_getElem (by omega)
    obtain ⟨bs', hloop, hall⟩ := ih (i + 1) (bs.set i (op bs[i] mask[i]))
      (by rw [List.length_set]; omega) (by omega)
    refine ⟨bs', ?_, fun j => ?_⟩
    · unfold assignLoop
      simp only [hbi, hmi]
      exact hloop
    · rw [hall j]
      by_cases hj : j = i
      · subst hj
        rw [if_neg (by omega), if_pos (by omega), List.getElem?_set_self (by omega), hbi, hmi]
        rfl
      · rw [List.getElem?_set_ne (Ne.symm hj)]
        by_cases hin : i ≤ j ∧ j < i + (n + 1)
        · rw [if_pos hin, if_pos (by omega)]
        · rw [if_neg hin, if_neg (by omega)]

/-- The loop leaves the right mask when that has fewer blocks. -/
theorem assignLoop_none (n i : Nat) (bs : List (BitVec 32)) (hm : mask.length < i + n) (hi : i ≤ mask.length) :
    assignLoop op mask n i bs = none := by
  induction n generalizing i bs with
  | zero => omega
  | succ n ih =>
    unfold assignLoop
    split
    · next _ c _ hc =>
      obtain ⟨hlt, -⟩ := List.getElem?_eq_some_iff.1 hc
      exact ih (i + 1) _ (by omega) hlt
    · rfl

end

/-! ## The operators -/

section
variable {op : BitVec 32 → BitVec 32 → BitVec 32} {f : Bool → Bool → Bool} {m mask : UpdateMask}

/-- **An operator on blocks** that acts bit by bit is right just if the right mask has the left one's blocks. -/
theorem assign_pointwise_iff (hop : ∀ b c k, k < 32 → (op b c).getLsbD k = f (b.getLsbD k) (c.getLsbD k))
    (h : mask.mCount ≤ m.mCount) :
    Pointwise f m mask (assign op m mask) ↔ maskBlocks m.mCount ≤ maskBlocks mask.mCount := by
  unfold assign
  rw [if_pos h]
  constructor
  · rintro ⟨m', hok, -⟩
    by_contra hlt
    have hnone : assignLoop op mask.mUpdateMask (maskBlocks m.mCount) 0 m.mUpdateMask = none :=
      assignLoop_none _ 0 _ (by rw [mask.blocks]; omega) (Nat.zero_le _)
    split at hok
    · next hs =>
      rw [hnone] at hs
      cases hs
    · cases hok
  · intro hle
    obtain ⟨bs, hloop, hall⟩ := @assignLoop_some op mask.mUpdateMask (maskBlocks m.mCount) 0 m.mUpdateMask
      (by rw [m.blocks]; omega) (by rw [mask.blocks]; omega)
    split
    · next bs' hs =>
      cases hloop.symm.trans hs
      refine ⟨_, rfl, rfl, fun i _ => ?_⟩
      unfold getBit
      simp only [hall, Nat.zero_le, true_and, Nat.zero_add]
      by_cases hin : i / 32 < maskBlocks m.mCount
      · have hm := m.blocks
        have hmask := mask.blocks
        rw [if_pos hin, List.getElem?_eq_getElem (by omega), List.getElem?_eq_getElem (by omega)]
        exact congrArg some (hop _ _ _ (Nat.mod_lt i (by decide)))
      · rw [if_neg hin, List.getElem?_eq_none (by rw [m.blocks]; omega)]
        rfl
    · next hs => cases hloop.symm.trans hs

theorem and_bit (b c : BitVec 32) (k : Nat) (_ : k < 32) :
    (b &&& c).getLsbD k = (b.getLsbD k && c.getLsbD k) := BitVec.getLsbD_and

theorem or_bit (b c : BitVec 32) (k : Nat) (_ : k < 32) :
    (b ||| c).getLsbD k = (b.getLsbD k || c.getLsbD k) := BitVec.getLsbD_or

/-- **`&=` and `|=`** compute the result at every field of the left mask, inside both masks, just if the right
mask has as many blocks, for which the assertion does not ask. -/
theorem assign_right_iff (h : mask.mCount ≤ m.mCount) :
    (Pointwise and m mask (m.andAssign mask) ∧ Pointwise or m mask (m.orAssign mask)) ↔
      maskBlocks m.mCount ≤ maskBlocks mask.mCount := by
  unfold andAssign orAssign
  rw [assign_pointwise_iff and_bit h, assign_pointwise_iff or_bit h, and_self]

end

/-- Two masks of two blocks. -/
theorem assign_right_iff_units :
    (Pointwise and (setCount 40) (setCount 34) ((setCount 40).andAssign (setCount 34)) ∧
        Pointwise or (setCount 40) (setCount 34) ((setCount 40).orAssign (setCount 34))) ↔
      maskBlocks 40 ≤ maskBlocks 34 :=
  @assign_right_iff (setCount 40) (setCount 34) (by decide)

/-- A mask of 33 fields and one of 32. -/
theorem assign_outside :
    ¬ ∀ m mask : UpdateMask, mask.mCount ≤ m.mCount →
      Pointwise and m mask (m.andAssign mask) ∧ Pointwise or m mask (m.orAssign mask) := by
  intro h
  obtain ⟨m', hok, -⟩ := (h (setCount 33) (setCount 32) (by decide)).1
  have hout : (setCount 33).andAssign (setCount 32) = .error .outside := rfl
  rw [hout] at hok
  cases hok

end UpdateMask

end BlizzLike
