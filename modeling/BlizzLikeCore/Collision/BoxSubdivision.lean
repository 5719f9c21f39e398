import Mathlib

/-!
# Cutting a set of boxes

What `BIH::subdivide` does to the boxes themselves, without the index array and the tree it writes: a
part of the boxes has a grid box, which is halved along its longest axis until the boxes' centres lie on
both sides, and a node box, which is known to hold the boxes.

Coordinates are rational; `Coord` adds the two infinities the clip planes start from.

    Settles      : a part comes to an end and no box of it is lost
    settles_*_iff : each way a part can go
-/

namespace BlizzLike.Bih

scoped instance neZero_three : NeZero 3 := ⟨by decide⟩

abbrev Vector3 := Fin 3 → ℚ

/-- A number or an infinity. -/
abbrev Coord := WithBot (WithTop ℚ)

def Coord.ofRat (q : ℚ) : Coord := ((q : WithTop ℚ) : Coord)

/-- `G3D::AABox`. -/
structure AABox where
  low : Vector3
  high : Vector3
  low_le_high : ∀ a, low a ≤ high a

structure AABound (α : Type) where
  lo : Fin 3 → α
  hi : Fin 3 → α

namespace AABound

variable {α : Type}

def setLo (b : AABound α) (a : Fin 3) (v : α) : AABound α := { b with lo := Function.update b.lo a v }

def setHi (b : AABound α) (a : Fin 3) (v : α) : AABound α := { b with hi := Function.update b.hi a v }

end AABound

/-- `Vector3::primaryAxis`. -/
def primaryAxis (v : Vector3) : Fin 3 :=
  if |v 1| < |v 0| then if |v 2| < |v 0| then 0 else 2
  else if |v 2| < |v 1| then 1 else 2

/-- What `build` hands down to `subdivide`: the boxes, the leaf size as an `int` and `G3D::fuzzyEq`. -/
structure BuildData (n : ℕ) where
  primBound : Fin n → AABox
  maxPrims : ℤ
  fuzzyEq : ℚ → ℚ → Bool

namespace BuildData

variable {n : ℕ} (dat : BuildData n)

def minb (i : Fin n) (a : Fin 3) : ℚ := (dat.primBound i).low a

def maxb (i : Fin n) (a : Fin 3) : ℚ := (dat.primBound i).high a

def center (i : Fin n) (a : Fin 3) : ℚ := (dat.minb i a + dat.maxb i a) * (1 / 2)

theorem minb_le_maxb (i : Fin n) (a : Fin 3) : dat.minb i a ≤ dat.maxb i a := (dat.primBound i).low_le_high a

theorem minb_le_center (i : Fin n) (a : Fin 3) : dat.minb i a ≤ dat.center i a := by
  have h := dat.minb_le_maxb i a
  unfold center
  linarith

theorem center_le_maxb (i : Fin n) (a : Fin 3) : dat.center i a ≤ dat.maxb i a := by
  have h := dat.minb_le_maxb i a
  unfold center
  linarith

end BuildData

/-- The boxes between `nodeL` and `nodeR` take much less room on the axis than the node box. -/
def emptySpace (nodeBox : AABound Coord) (axis : Fin 3) (nodeL nodeR : Coord) : Bool :=
  decide (nodeBox.lo axis < nodeL) && decide (nodeR < nodeBox.hi axis) &&
    match nodeL, nodeR, nodeBox.lo axis, nodeBox.hi axis with
    | some (some l), some (some r), some (some lo), some (some hi) => decide (13 / 10 * (r - l) < hi - lo)
    -- the four are numbers in every call
    | _, _, _, _ => false

/-- A part of the boxes, at the start of a call or of another turn of its loop. -/
structure Part (n : ℕ) where
  prims : Finset (Fin n)
  gridBox : AABound ℚ
  nodeBox : AABound Coord
  depth : ℕ
  /-- Axis and split of the turn before, none at the start of a call. -/
  previous : Option (Fin 3 × ℚ)
  /-- The turn before has left a `prevClip` that is a number. -/
  postponed : Bool

def maxStackSize : ℕ := 64

namespace Part

variable {n : ℕ} (dat : BuildData n) (p : Part n)

def axis : Fin 3 := primaryAxis fun a => p.gridBox.hi a - p.gridBox.lo a

def split : ℚ := 1 / 2 * (p.gridBox.lo p.axis + p.gridBox.hi p.axis)

def lefts : Finset (Fin n) := p.prims.filter fun i => dat.center i p.axis ≤ p.split

def rights : Finset (Fin n) := p.prims.filter fun i => ¬ dat.center i p.axis ≤ p.split

def clipL : Coord := (p.lefts dat).sup fun i => Coord.ofRat (dat.maxb i p.axis)

def clipR : Coord := (p.rights dat).inf fun i => Coord.ofRat (dat.minb i p.axis)

def nodeL : Coord := p.prims.inf fun i => Coord.ofRat (dat.minb i p.axis)

def nodeR : Coord := p.prims.sup fun i => Coord.ofRat (dat.maxb i p.axis)

def IsLeaf : Prop := (p.prims.card : ℤ) ≤ dat.maxPrims ∨ maxStackSize ≤ p.depth

/-- The node box is cut down to the boxes. -/
def HasEmptySpace : Prop := emptySpace p.nodeBox p.axis (p.nodeL dat) (p.nodeR dat) = true

/-- The split is the one of the turn before. -/
def IsStuck : Prop := ∃ s, p.previous = some (p.axis, s) ∧ dat.fuzzyEq s p.split = true

def shrunk : Part n :=
  { p with
    nodeBox := (p.nodeBox.setLo p.axis (p.nodeL dat)).setHi p.axis (p.nodeR dat)
    depth := p.depth + 1, previous := none, postponed := false }

/-- The lower half of the grid box, with all the boxes. -/
def lowerHalf : Part n :=
  { p with
    gridBox := p.gridBox.setHi p.axis p.split, previous := some (p.axis, p.split)
    postponed := decide (p.clipL dat ≤ Coord.ofRat p.split) }

/-- The upper half of the grid box, with all the boxes. -/
def upperHalf : Part n :=
  { p with
    gridBox := p.gridBox.setLo p.axis p.split, previous := some (p.axis, p.split)
    postponed := decide (Coord.ofRat p.split ≤ p.clipR dat) }

/-- The depth of the two parts: one more where the split of the turn before is written first. -/
def childDepth : ℕ := p.depth + p.postponed.toNat + 1

def leftPart : Part n where
  prims := p.lefts dat
  gridBox := p.gridBox.setHi p.axis p.split
  nodeBox := p.nodeBox.setHi p.axis (p.clipL dat)
  depth := p.childDepth
  previous := none
  postponed := false

def rightPart : Part n where
  prims := p.rights dat
  gridBox := p.gridBox.setLo p.axis p.split
  nodeBox := p.nodeBox.setLo p.axis (p.clipR dat)
  depth := p.childDepth
  previous := none
  postponed := false

end Part

/-- A part comes to an end, with so many nodes below its own, and is never stuck with all its boxes in
the upper half. -/
inductive Settles {n : ℕ} (dat : BuildData n) : Part n → ℕ → Prop
  | leaf {p} (hleaf : p.IsLeaf dat) : Settles dat p 0
  | shrink {p k} (hleaf : ¬ p.IsLeaf dat) (hempty : p.HasEmptySpace dat) (hk : Settles dat (p.shrunk dat) k) :
      Settles dat p (k + 1)
  | stuck {p} (hleaf : ¬ p.IsLeaf dat) (hempty : ¬ p.HasEmptySpace dat) (hright : p.rights dat = ∅)
      (hstuck : p.IsStuck dat) : Settles dat p 0
  | lower {p k} (hleaf : ¬ p.IsLeaf dat) (hempty : ¬ p.HasEmptySpace dat) (hright : p.rights dat = ∅)
      (hstuck : ¬ p.IsStuck dat) (hk : Settles dat (p.lowerHalf dat) k) : Settles dat p k
  | upper {p k} (hleaf : ¬ p.IsLeaf dat) (hempty : ¬ p.HasEmptySpace dat) (hright : p.rights dat ≠ ∅)
      (hleft : p.lefts dat = ∅) (hstuck : ¬ p.IsStuck dat) (hk : Settles dat (p.upperHalf dat) k) : Settles dat p k
  | split {p k m} (hleaf : ¬ p.IsLeaf dat) (hempty : ¬ p.HasEmptySpace dat) (hright : p.rights dat ≠ ∅)
      (hleft : p.lefts dat ≠ ∅) (hk : Settles dat (p.leftPart dat) k) (hm : Settles dat (p.rightPart dat) m) :
      Settles dat p (k + m + 2 + p.postponed.toNat)

/-! ## Each way a part can go -/

section Inversion

variable {n : ℕ} {dat : BuildData n} {p : Part n} {k : ℕ}

theorem settles_leaf_iff (hleaf : p.IsLeaf dat) : Settles dat p k ↔ k = 0 := by
  constructor
  · intro h
    cases h with
    | leaf => rfl
    | _ => contradiction
  · rintro rfl
    exact .leaf hleaf

theorem settles_shrink_iff (hleaf : ¬ p.IsLeaf dat) (hempty : p.HasEmptySpace dat) :
    Settles dat p k ↔ ∃ m, k = m + 1 ∧ Settles dat (p.shrunk dat) m := by
  constructor
  · intro h
    cases h with
    | shrink _ _ hk => exact ⟨_, rfl, hk⟩
    | _ => contradiction
  · rintro ⟨m, rfl, hm⟩
    exact .shrink hleaf hempty hm

theorem settles_stuck_iff (hleaf : ¬ p.IsLeaf dat) (hempty : ¬ p.HasEmptySpace dat) (hright : p.rights dat = ∅)
    (hstuck : p.IsStuck dat) : Settles dat p k ↔ k = 0 := by
  constructor
  · intro h
    cases h with
    | stuck => rfl
    | _ => contradiction
  · rintro rfl
    exact .stuck hleaf hempty hright hstuck

/-- All the boxes are in the upper half and the split is the one of the turn before. -/
theorem not_settles_stuck (hleaf : ¬ p.IsLeaf dat) (hempty : ¬ p.HasEmptySpace dat) (hright : p.rights dat ≠ ∅)
    (hleft : p.lefts dat = ∅) (hstuck : p.IsStuck dat) : ¬ Settles dat p k := by
  intro h
  cases h <;> contradiction

theorem settles_lower_iff (hleaf : ¬ p.IsLeaf dat) (hempty : ¬ p.HasEmptySpace dat) (hright : p.rights dat = ∅)
    (hstuck : ¬ p.IsStuck dat) : Settles dat p k ↔ Settles dat (p.lowerHalf dat) k := by
  constructor
  · intro h
    cases h with
    | lower _ _ _ _ hk => exact hk
    | _ => contradiction
  · exact .lower hleaf hempty hright hstuck

theorem settles_upper_iff (hleaf : ¬ p.IsLeaf dat) (hempty : ¬ p.HasEmptySpace dat) (hright : p.rights dat ≠ ∅)
    (hleft : p.lefts dat = ∅) (hstuck : ¬ p.IsStuck dat) : Settles dat p k ↔ Settles dat (p.upperHalf dat) k := by
  constructor
  · intro h
    cases h with
    | upper _ _ _ _ _ hk => exact hk
    | _ => contradiction
  · exact .upper hleaf hempty hright hleft hstuck

theorem settles_split_iff (hleaf : ¬ p.IsLeaf dat) (hempty : ¬ p.HasEmptySpace dat) (hright : p.rights dat ≠ ∅)
    (hleft : p.lefts dat ≠ ∅) :
    Settles dat p k ↔ ∃ a b, k = a + b + 2 + p.postponed.toNat ∧
      Settles dat (p.leftPart dat) a ∧ Settles dat (p.rightPart dat) b := by
  constructor
  · intro h
    cases h with
    | split _ _ _ _ ha hb => exact ⟨_, _, rfl, ha, hb⟩
    | _ => contradiction
  · rintro ⟨a, b, rfl, ha, hb⟩
    exact .split hleaf hempty hright hleft ha hb

end Inversion

end BlizzLike.Bih
