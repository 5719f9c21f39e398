import BlizzLikeCore.Collision.BoxSubdivision

/-!
# `BIH::build`

The tree is a vector of words, three to a node; the words of the clip planes hold the bits of a float,
here a `Coord`. `subdivide` is given its loop's turns by `fuel`; a range of the index array is
`[left, stop)`, where `stop` is the source's `right + 1`.

    Frame.pass_spec : a turn of the loop does to the boxes of its range what `Part` says
-/

namespace BlizzLike.Bih

variable {n : ℕ}

/-- A word of the tree. -/
inductive Cell where
  | word (w : UInt32)
  | clip (c : Coord)
  deriving DecidableEq

/-- `tempTree.push_back(0)`, three times. -/
def allocate (tree : List Cell) : List Cell := tree ++ [.word 0, .word 0, .word 0]

def writeNode (tree : List Cell) (nodeIndex : ℕ) (w : UInt32) (l r : Coord) : List Cell :=
  ((tree.set nodeIndex (.word w)).set (nodeIndex + 1) (.clip l)).set (nodeIndex + 2) (.clip r)

def innerWord (axis : Fin 3) (next : ℕ) : UInt32 := (UInt32.ofNat axis.val <<< 30) ||| UInt32.ofNat next

def bvh2Word (axis : Fin 3) (next : ℕ) : UInt32 :=
  (UInt32.ofNat axis.val <<< 30) ||| (((1 : UInt32) <<< 29) ||| UInt32.ofNat next)

def leafWord (left : ℕ) : UInt32 := ((3 : UInt32) <<< 30) ||| UInt32.ofNat left

def createNode (tree : List Cell) (nodeIndex left stop : ℕ) : List Cell :=
  (tree.set nodeIndex (.word (leafWord left))).set (nodeIndex + 1) (.word (UInt32.ofNat (stop - left)))

/-! ## The partition of a range -/

/-- The variables of the loop that partitions a range. -/
structure Partition (n : ℕ) where
  i : ℕ
  stop : ℕ
  indices : ℕ → Fin n
  clipL : Coord
  clipR : Coord
  nodeL : Coord
  nodeR : Coord

def swap (indices : ℕ → Fin n) (i j : ℕ) : ℕ → Fin n :=
  fun k => if k = i then indices j else if k = j then indices i else indices k

def Partition.step (dat : BuildData n) (axis : Fin 3) (split : ℚ) (s : Partition n) : Partition n :=
  let obj := s.indices s.i
  let minb := dat.minb obj axis
  let maxb := dat.maxb obj axis
  let s :=
    if dat.center obj axis ≤ split then
      { s with i := s.i + 1, clipL := if s.clipL < Coord.ofRat maxb then Coord.ofRat maxb else s.clipL }
    else
      { s with
        indices := swap s.indices s.i (s.stop - 1), stop := s.stop - 1
        clipR := if Coord.ofRat minb < s.clipR then Coord.ofRat minb else s.clipR }
  { s with nodeL := min s.nodeL (Coord.ofRat minb), nodeR := max s.nodeR (Coord.ofRat maxb) }

/-- The loop takes as many turns as the range is long. -/
def Partition.run (dat : BuildData n) (axis : Fin 3) (split : ℚ) : ℕ → Partition n → Partition n
  | 0, s => s
  | turns + 1, s => if s.i < s.stop then Partition.run dat axis split turns (s.step dat axis split) else s

def partition (dat : BuildData n) (axis : Fin 3) (split : ℚ) (left stop : ℕ) (indices : ℕ → Fin n) : Partition n :=
  Partition.run dat axis split (stop - left)
    { i := left, stop := stop, indices := indices, clipL := ⊥, clipR := ⊤, nodeL := ⊤, nodeR := ⊥ }

/-! ## `subdivide` -/

/-- The variables of `subdivide`, with the index array. -/
structure Frame (n : ℕ) where
  left : ℕ
  stop : ℕ
  indices : ℕ → Fin n
  gridBox : AABound ℚ
  nodeBox : AABound Coord
  depth : ℕ
  /-- `prevAxis` and `prevSplit`; none before the first turn. -/
  prev : Option (Fin 3 × ℚ)
  /-- None is NaN. -/
  prevClip : Option Coord
  wasLeft : Bool

/-- The variables at the start of a call. -/
def Frame.enter (left stop : ℕ) (indices : ℕ → Fin n) (gridBox : AABound ℚ) (nodeBox : AABound Coord)
    (depth : ℕ) : Frame n where
  left := left
  stop := stop
  indices := indices
  gridBox := gridBox
  nodeBox := nodeBox
  depth := depth
  prev := none
  prevClip := none
  wasLeft := true

/-- How a turn of the loop ends. -/
inductive Pass (n : ℕ) where
  /-- `negative node extents` or `invalid node overlap`. -/
  | throws
  /-- A clip node and the call below it. -/
  | clips (axis : Fin 3) (nodeL nodeR : Coord) (next : Frame n)
  /-- A leaf of `[left, stop)`. -/
  | leaf (stop : ℕ) (indices : ℕ → Fin n)
  /-- Another turn. -/
  | again (next : Frame n)
  /-- The loop is left with the range cut at `s.stop`. -/
  | splits (axis : Fin 3) (split : ℚ) (s : Partition n)

namespace Frame

variable (dat : BuildData n) (f : Frame n)

/-- `prevAxis == axis && G3D::fuzzyEq(prevSplit, split)`. -/
def stuck (axis : Fin 3) (split : ℚ) : Bool :=
  match f.prev with
  | some (prevAxis, prevSplit) => decide (prevAxis = axis) && dat.fuzzyEq prevSplit split
  | none => false

def pass : Pass n :=
  let d : Vector3 := fun a => f.gridBox.hi a - f.gridBox.lo a
  if d 0 < 0 ∨ d 1 < 0 ∨ d 2 < 0 then .throws
  else if ∃ a, f.nodeBox.hi a < Coord.ofRat (f.gridBox.lo a) ∨ Coord.ofRat (f.gridBox.hi a) < f.nodeBox.lo a then
    .throws
  else
    let axis := primaryAxis d
    let split := 1 / 2 * (f.gridBox.lo axis + f.gridBox.hi axis)
    let s := partition dat axis split f.left f.stop f.indices
    if emptySpace f.nodeBox axis s.nodeL s.nodeR then
      .clips axis s.nodeL s.nodeR
        (enter f.left f.stop s.indices f.gridBox ((f.nodeBox.setLo axis s.nodeL).setHi axis s.nodeR) (f.depth + 1))
    else if s.stop = f.stop then
      -- all left
      if f.stuck dat axis split then .leaf s.stop s.indices
      else if s.clipL ≤ Coord.ofRat split then
        .again { f with
          indices := s.indices, gridBox := f.gridBox.setHi axis split, prev := some (axis, split)
          prevClip := some s.clipL, wasLeft := true }
      else
        .again { f with
          indices := s.indices, gridBox := f.gridBox.setHi axis split, prev := some (axis, split)
          prevClip := none }
    else if s.stop ≤ f.left then
      -- all right; the leaf is written before `right` is put back
      if f.stuck dat axis split then .leaf s.stop s.indices
      else if Coord.ofRat split ≤ s.clipR then
        .again { f with
          indices := s.indices, gridBox := f.gridBox.setLo axis split, prev := some (axis, split)
          prevClip := some s.clipR, wasLeft := false }
      else
        .again { f with
          indices := s.indices, gridBox := f.gridBox.setLo axis split, prev := some (axis, split)
          prevClip := none }
    else .splits axis split s

/-- `right - left + 1 <= dat.maxPrims || depth >= MAX_STACK_SIZE`. -/
def small : Bool := decide ((f.stop : ℤ) - f.left ≤ dat.maxPrims) || decide (maxStackSize ≤ f.depth)

/-- The node of the split of the turn before, which the rest goes on below: the tree, the node index and
the depth after it. -/
def postpone (tree : List Cell) (nodeIndex : ℕ) : List Cell × ℕ × ℕ :=
  match f.prev, f.prevClip with
  | some (prevAxis, _), some prevClip =>
    let nextIndex := tree.length
    if f.wasLeft then
      (writeNode (allocate tree) nodeIndex (innerWord prevAxis nextIndex) prevClip ⊤, nextIndex, f.depth + 1)
    else
      (writeNode (allocate tree) nodeIndex (innerWord prevAxis (nextIndex - 3)) ⊥ prevClip, nextIndex, f.depth + 1)
  | _, _ => (tree, nodeIndex, f.depth)

/-- The call below a split, of the range up to the cut. -/
def leftFrame (axis : Fin 3) (split : ℚ) (s : Partition n) (depth : ℕ) : Frame n :=
  enter f.left s.stop s.indices (f.gridBox.setHi axis split) (f.nodeBox.setHi axis s.clipL) (depth + 1)

/-- The call below a split, of the range from the cut on. -/
def rightFrame (axis : Fin 3) (split : ℚ) (s : Partition n) (indices : ℕ → Fin n) (depth : ℕ) : Frame n :=
  enter s.stop f.stop indices (f.gridBox.setLo axis split) (f.nodeBox.setLo axis s.clipR) (depth + 1)

end Frame

/-- Why a build returns nothing: a `std::logic_error`, or the fuel has run out. -/
inductive Failure where
  | logicError
  | fuel
  deriving DecidableEq

abbrev Built (n : ℕ) := Except Failure (List Cell × (ℕ → Fin n))

/-- The head of `subdivide`; `loop` is the rest of its body. -/
def subdivide (dat : BuildData n) (loop : Frame n → List Cell → ℕ → Built n) (f : Frame n) (tree : List Cell)
    (nodeIndex : ℕ) : Built n :=
  if f.small dat then .ok (createNode tree nodeIndex f.left f.stop, f.indices) else loop f tree nodeIndex

/-- The end of `subdivide`: the node of the split and the two calls below it. -/
def splitNode (dat : BuildData n) (loop : Frame n → List Cell → ℕ → Built n) (f : Frame n) (axis : Fin 3)
    (split : ℚ) (s : Partition n) (depth : ℕ) (tree : List Cell) (nodeIndex : ℕ) : Built n :=
  let nl := s.stop - f.left
  let nr := f.stop - s.stop
  let nextIndex := if 0 < nl then tree.length else tree.length - 3
  let tree := if 0 < nl then allocate tree else tree
  let tree := if 0 < nr then allocate tree else tree
  let tree := writeNode tree nodeIndex (innerWord axis nextIndex) s.clipL s.clipR
  let left : Built n :=
    if 0 < nl then subdivide dat loop (f.leftFrame axis split s depth) tree nextIndex
    else .ok (tree, s.indices)
  match left with
  | .error e => .error e
  | .ok (tree, indices) =>
    if 0 < nr then subdivide dat loop (f.rightFrame axis split s indices depth) tree (nextIndex + 3)
    else .ok (tree, indices)

/-- `subdivide` after its loop: the split of the turn before is written first. -/
def writeSplit (dat : BuildData n) (loop : Frame n → List Cell → ℕ → Built n) (f : Frame n) (axis : Fin 3)
    (split : ℚ) (s : Partition n) (tree : List Cell) (nodeIndex : ℕ) : Built n :=
  match f.postpone tree nodeIndex with
  | (tree, nodeIndex, depth) => splitNode dat loop f axis split s depth tree nodeIndex

/-- The loop of `subdivide`, with what follows it. -/
def loop (dat : BuildData n) : ℕ → Frame n → List Cell → ℕ → Built n
  | 0, _, _, _ => .error .fuel
  | fuel + 1, f, tree, nodeIndex =>
    match f.pass dat with
    | .throws => .error .logicError
    | .clips axis nodeL nodeR next =>
      subdivide dat (loop dat fuel) next
        (writeNode (allocate tree) nodeIndex (bvh2Word axis tree.length) nodeL nodeR) tree.length
    | .leaf stop indices => .ok (createNode tree nodeIndex f.left stop, indices)
    | .again next => loop dat fuel next tree nodeIndex
    | .splits axis split s => writeSplit dat (loop dat fuel) f axis split s tree nodeIndex

/-! ## `build` -/

def AABox.merge (b c : AABox) : AABox where
  low a := min (b.low a) (c.low a)
  high a := max (b.high a) (c.high a)
  low_le_high a := (min_le_left _ _).trans ((b.low_le_high a).trans (le_max_left _ _))

/-- A built hierarchy. -/
structure Hierarchy (n : ℕ) where
  tree : List Cell
  objects : List (Fin n)
  bounds : AABox

/-- `int maxPrims = leafSize`. -/
def toInt (w : UInt32) : ℤ := w.toBitVec.toInt

def buildData (prims : List AABox) (leafSize : UInt32) (fuzzyEq : ℚ → ℚ → Bool) : BuildData prims.length where
  primBound i := prims[i]
  maxPrims := toInt leafSize
  fuzzyEq := fuzzyEq

/-- `indices[i] = i`. -/
def firstIndices (h : 0 < n) : ℕ → Fin n := fun i => if hi : i < n then ⟨i, hi⟩ else ⟨0, h⟩

def buildHierarchy (dat : BuildData n) (h : 0 < n) (bounds : AABox) (fuel : ℕ) : Built n :=
  let gridBox : AABound ℚ := ⟨bounds.low, bounds.high⟩
  let nodeBox : AABound Coord := ⟨fun a => Coord.ofRat (bounds.low a), fun a => Coord.ofRat (bounds.high a)⟩
  subdivide dat (loop dat fuel) (Frame.enter 0 n (firstIndices h) gridBox nodeBox 1)
    [.word ((3 : UInt32) <<< 30), .word 0, .word 0] 0

/-- `build`, of at least one primitive. -/
def build (fuel : ℕ) (first : AABox) (rest : List AABox) (leafSize : UInt32) (fuzzyEq : ℚ → ℚ → Bool) :
    Except Failure (Hierarchy (first :: rest).length) :=
  let bounds := (first :: rest).foldl AABox.merge first
  match buildHierarchy (buildData (first :: rest) leafSize fuzzyEq) (Nat.succ_pos _) bounds fuel with
  | .error e => .error e
  | .ok (tree, indices) =>
    .ok { tree := tree, objects := (List.range (first :: rest).length).map indices, bounds := bounds }

/-! ## Ranges of the index array -/

/-- The boxes of a range. -/
def slice (indices : ℕ → Fin n) (a b : ℕ) : Finset (Fin n) := (Finset.Ico a b).image indices

/-- The array is permuted within a range. -/
def Shuffles (a b : ℕ) (indices indices' : ℕ → Fin n) : Prop :=
  ∃ σ : Equiv.Perm ℕ, (∀ k, ¬ (a ≤ k ∧ k < b) → σ k = k) ∧ ∀ k, indices' k = indices (σ k)

section Ranges

variable {indices indices' indices'' : ℕ → Fin n} {a b c : ℕ}

theorem mem_slice {i : Fin n} : i ∈ slice indices a b ↔ ∃ k, (a ≤ k ∧ k < b) ∧ indices k = i := by
  simp [slice]

theorem slice_congr (h : ∀ k, a ≤ k → k < b → indices' k = indices k) : slice indices' a b = slice indices a b := by
  ext i
  rw [mem_slice, mem_slice]
  constructor
  · rintro ⟨k, hk, rfl⟩
    exact ⟨k, hk, (h k hk.1 hk.2).symm⟩
  · rintro ⟨k, hk, rfl⟩
    exact ⟨k, hk, h k hk.1 hk.2⟩

theorem slice_append (hab : a ≤ b) (hbc : b ≤ c) : slice indices a b ∪ slice indices b c = slice indices a c := by
  ext i
  rw [Finset.mem_union, mem_slice, mem_slice, mem_slice]
  constructor
  · rintro (⟨k, hk, rfl⟩ | ⟨k, hk, rfl⟩)
    · exact ⟨k, by omega, rfl⟩
    · exact ⟨k, by omega, rfl⟩
  · rintro ⟨k, hk, rfl⟩
    by_cases hkb : k < b
    · exact Or.inl ⟨k, by omega, rfl⟩
    · exact Or.inr ⟨k, by omega, rfl⟩

theorem slice_single : slice indices a (a + 1) = {indices a} := by
  simp [slice]

theorem slice_self : slice indices a a = ∅ := by
  simp [slice]

theorem slice_eq_empty : slice indices a b = ∅ ↔ b ≤ a := by
  simp [slice]

theorem slice_card (h : Set.InjOn indices (Set.Ico a b)) : (slice indices a b).card = b - a := by
  unfold slice
  rw [Finset.card_image_of_injOn (by simpa using h), Nat.card_Ico]

namespace Shuffles

theorem refl : Shuffles a b indices indices := ⟨1, fun _ _ => rfl, fun _ => rfl⟩

theorem trans (h : Shuffles a b indices indices') (h' : Shuffles a b indices' indices'') :
    Shuffles a b indices indices'' := by
  obtain ⟨σ, hσ, hi⟩ := h
  obtain ⟨τ, hτ, hi'⟩ := h'
  refine ⟨σ * τ, fun k hk => ?_, fun k => ?_⟩
  · rw [Equiv.Perm.mul_apply, hτ k hk, hσ k hk]
  · rw [Equiv.Perm.mul_apply, hi', hi]

theorem mono {a' b' : ℕ} (h : Shuffles a b indices indices') (ha : a' ≤ a) (hb : b ≤ b') :
    Shuffles a' b' indices indices' := by
  obtain ⟨σ, hσ, hi⟩ := h
  exact ⟨σ, fun k hk => hσ k (by omega), hi⟩

theorem symm (h : Shuffles a b indices indices') : Shuffles a b indices' indices := by
  obtain ⟨σ, hσ, hi⟩ := h
  refine ⟨σ.symm, fun k hk => ?_, fun k => ?_⟩
  · rw [Equiv.symm_apply_eq, hσ k hk]
  · rw [hi, Equiv.apply_symm_apply]

theorem outside (h : Shuffles a b indices indices') {k : ℕ} (hk : ¬ (a ≤ k ∧ k < b)) : indices' k = indices k := by
  obtain ⟨σ, hσ, hi⟩ := h
  rw [hi, hσ k hk]

theorem inside (h : Shuffles a b indices indices') {k : ℕ} (hk : a ≤ k ∧ k < b) :
    ∃ j, (a ≤ j ∧ j < b) ∧ indices j = indices' k := by
  obtain ⟨σ, hσ, hi⟩ := h
  refine ⟨σ k, ?_, (hi k).symm⟩
  by_contra hout
  have hfix : σ k = k := σ.injective (hσ (σ k) hout)
  rw [hfix] at hout
  exact hout hk

theorem slice_eq (h : Shuffles a b indices indices') : slice indices' a b = slice indices a b := by
  ext i
  rw [mem_slice, mem_slice]
  constructor
  · rintro ⟨k, hk, rfl⟩
    exact h.inside hk
  · rintro ⟨k, hk, rfl⟩
    exact h.symm.inside hk

theorem injOn (h : Shuffles a b indices indices') (hinj : Set.InjOn indices (Set.Ico a b)) :
    Set.InjOn indices' (Set.Ico a b) := by
  have hcard : (slice indices' a b).card = b - a := by rw [h.slice_eq, slice_card hinj]
  have himage : ((Finset.Ico a b).image indices').card = (Finset.Ico a b).card := by
    rw [Nat.card_Ico]
    exact hcard
  simpa using Finset.card_image_iff.1 himage

theorem swap {i j : ℕ} (hi : a ≤ i ∧ i < b) (hj : a ≤ j ∧ j < b) :
    Shuffles a b indices (Bih.swap indices i j) := by
  refine ⟨Equiv.swap i j, fun k hk => ?_, fun k => ?_⟩
  · exact Equiv.swap_apply_of_ne_of_ne (fun h => hk (h ▸ hi)) (fun h => hk (h ▸ hj))
  · rw [Equiv.swap_apply_def]
    unfold Bih.swap
    split
    · rfl
    · split <;> rfl

end Shuffles

end Ranges

/-! ## The partition -/

section Partitions

variable {dat : BuildData n} {axis : Fin 3} {split : ℚ} {left stop : ℕ} {indices : ℕ → Fin n} {s : Partition n}

/-- What holds in every turn: the range is cut in boxes that stay left, boxes that are not looked at yet and
boxes that are moved to the right. -/
structure Partition.Sound (dat : BuildData n) (axis : Fin 3) (split : ℚ) (left stop : ℕ) (indices : ℕ → Fin n)
    (s : Partition n) : Prop where
  left_le : left ≤ s.i
  i_le : s.i ≤ s.stop
  stop_le : s.stop ≤ stop
  shuffles : Shuffles left stop indices s.indices
  stay : ∀ i ∈ slice s.indices left s.i, dat.center i axis ≤ split
  move : ∀ i ∈ slice s.indices s.stop stop, ¬ dat.center i axis ≤ split
  clipL : s.clipL = (slice s.indices left s.i).sup fun i => Coord.ofRat (dat.maxb i axis)
  clipR : s.clipR = (slice s.indices s.stop stop).inf fun i => Coord.ofRat (dat.minb i axis)
  nodeL : s.nodeL = (slice s.indices left s.i ∪ slice s.indices s.stop stop).inf fun i => Coord.ofRat (dat.minb i axis)
  nodeR : s.nodeR = (slice s.indices left s.i ∪ slice s.indices s.stop stop).sup fun i => Coord.ofRat (dat.maxb i axis)

theorem ite_lt_eq_max (x y : Coord) : (if x < y then y else x) = max y x := by
  split
  · next h => exact (max_eq_left h.le).symm
  · next h => exact (max_eq_right (not_lt.1 h)).symm

theorem ite_lt_eq_min (x y : Coord) : (if y < x then y else x) = min y x := by
  split
  · next h => exact (min_eq_left h.le).symm
  · next h => exact (min_eq_right (not_lt.1 h)).symm

theorem Partition.Sound.step (h : s.Sound dat axis split left stop indices) (hi : s.i < s.stop) :
    (s.step dat axis split).Sound dat axis split left stop indices := by
  have h₁ := h.left_le
  have h₂ := h.stop_le
  by_cases hc : dat.center (s.indices s.i) axis ≤ split
  · have hslice : slice s.indices left (s.i + 1) = insert (s.indices s.i) (slice s.indices left s.i) := by
      rw [← slice_append h.left_le (Nat.le_succ _), slice_single, Finset.union_comm, Finset.insert_eq]
    have heq : s.step dat axis split =
        { s with
          i := s.i + 1
          clipL := max (Coord.ofRat (dat.maxb (s.indices s.i) axis)) s.clipL
          nodeL := min s.nodeL (Coord.ofRat (dat.minb (s.indices s.i) axis))
          nodeR := max s.nodeR (Coord.ofRat (dat.maxb (s.indices s.i) axis)) } := by
      unfold Partition.step
      simp only [if_pos hc, ite_lt_eq_max]
    rw [heq]
    refine ⟨by show left ≤ s.i + 1; omega, hi, h.stop_le, h.shuffles, ?_, h.move, ?_, h.clipR, ?_, ?_⟩
    · intro i hmem
      rw [show slice _ left _ = _ from hslice, Finset.mem_insert] at hmem
      rcases hmem with rfl | hmem
      · exact hc
      · exact h.stay i hmem
    · show max _ _ = _
      rw [show slice _ left _ = _ from hslice, Finset.sup_insert, h.clipL]
    · show min _ _ = _
      rw [show slice _ left _ = _ from hslice, Finset.insert_union, Finset.inf_insert, h.nodeL, min_comm]
    · show max _ _ = _
      rw [show slice _ left _ = _ from hslice, Finset.insert_union, Finset.sup_insert, h.nodeR, max_comm]
  · have hat : swap s.indices s.i (s.stop - 1) (s.stop - 1) = s.indices s.i := by
      unfold swap
      split
      · next h => rw [h]
      · exact if_pos rfl
    have hleft : slice (swap s.indices s.i (s.stop - 1)) left s.i = slice s.indices left s.i := by
      refine slice_congr fun k _ hk => ?_
      unfold swap
      rw [if_neg (by omega), if_neg (by omega)]
    have hright : slice (swap s.indices s.i (s.stop - 1)) s.stop stop = slice s.indices s.stop stop := by
      refine slice_congr fun k hk _ => ?_
      unfold swap
      rw [if_neg (by omega), if_neg (by omega)]
    have hslice : slice (swap s.indices s.i (s.stop - 1)) (s.stop - 1) stop =
        insert (s.indices s.i) (slice s.indices s.stop stop) := by
      have hstop : s.stop - 1 + 1 = s.stop := by omega
      rw [← slice_append (Nat.le_succ (s.stop - 1)) (by omega), slice_single, hat, Finset.insert_eq]
      show _ ∪ slice _ (s.stop - 1 + 1) stop = _
      rw [hstop, hright]
    have heq : s.step dat axis split =
        { s with
          indices := swap s.indices s.i (s.stop - 1)
          stop := s.stop - 1
          clipR := min (Coord.ofRat (dat.minb (s.indices s.i) axis)) s.clipR
          nodeL := min s.nodeL (Coord.ofRat (dat.minb (s.indices s.i) axis))
          nodeR := max s.nodeR (Coord.ofRat (dat.maxb (s.indices s.i) axis)) } := by
      unfold Partition.step
      simp only [if_neg hc, ite_lt_eq_min]
    rw [heq]
    refine ⟨h.left_le, by show s.i ≤ s.stop - 1; omega, by show s.stop - 1 ≤ stop; omega,
      h.shuffles.trans (Shuffles.swap (by omega) (by omega)), ?_, ?_, ?_, ?_, ?_, ?_⟩
    · intro i hmem
      rw [show slice _ left _ = _ from hleft] at hmem
      exact h.stay i hmem
    · intro i hmem
      rw [show slice _ _ stop = _ from hslice, Finset.mem_insert] at hmem
      rcases hmem with rfl | hmem
      · exact hc
      · exact h.move i hmem
    · show s.clipL = _
      rw [show slice _ left _ = _ from hleft, h.clipL]
    · show min _ _ = _
      rw [show slice _ _ stop = _ from hslice, Finset.inf_insert, h.clipR]
    · show min _ _ = _
      rw [show slice _ left _ = _ from hleft, show slice _ _ stop = _ from hslice, Finset.union_insert,
        Finset.inf_insert, h.nodeL, min_comm]
    · show max _ _ = _
      rw [show slice _ left _ = _ from hleft, show slice _ _ stop = _ from hslice, Finset.union_insert,
        Finset.sup_insert, h.nodeR, max_comm]

theorem Partition.Sound.run (h : s.Sound dat axis split left stop indices) {turns : ℕ} (hturns : s.stop - s.i ≤ turns) :
    (Partition.run dat axis split turns s).Sound dat axis split left stop indices ∧
      (Partition.run dat axis split turns s).i = (Partition.run dat axis split turns s).stop := by
  induction turns generalizing s with
  | zero =>
    have hle := h.i_le
    exact ⟨h, by show s.i = s.stop; omega⟩
  | succ turns ih =>
    unfold Partition.run
    split
    · next hi =>
      refine ih (h.step hi) ?_
      unfold Partition.step
      dsimp only
      split
      · show s.stop - (s.i + 1) ≤ turns
        omega
      · show s.stop - 1 - s.i ≤ turns
        omega
    · next hi =>
      have hle := h.i_le
      exact ⟨h, by omega⟩

/-- **The partition of a range.** -/
theorem partition_spec (hle : left ≤ stop) :
    let s := partition dat axis split left stop indices
    s.Sound dat axis split left stop indices ∧ s.i = s.stop := by
  have hstart : Partition.Sound dat axis split left stop indices
      { i := left, stop := stop, indices := indices, clipL := ⊥, clipR := ⊤, nodeL := ⊤, nodeR := ⊥ } := by
    refine ⟨le_rfl, hle, le_rfl, .refl, ?_, ?_, ?_, ?_, ?_, ?_⟩
    · intro i hi
      rw [show slice _ left _ = _ from slice_self] at hi
      exact absurd hi (Finset.notMem_empty i)
    · intro i hi
      rw [show slice _ _ stop = _ from slice_self] at hi
      exact absurd hi (Finset.notMem_empty i)
    all_goals
      simp [slice_self]
  exact hstart.run le_rfl

end Partitions

end BlizzLike.Bih
