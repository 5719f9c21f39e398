import BlizzLikeCore.Collision.PointSearch
import BlizzLikeCore.Collision.BoxesSettle

/-!
# Built hierarchies

A build is right when it returns, its leaves hold every box once and the search of a point calls back with
every box that holds it. That is so just when the boxes, as one part, settle; how the tree is written then
makes no difference, as long as its words have room for the offsets.

    build_right      : when a build is right
    build_lost_boxes : two boxes on one spot, beside a third, are lost
-/

namespace BlizzLike.Bih

variable {n : ℕ}

/-- The objects of a node, when it is a leaf. -/
def leafObjects (h : Hierarchy n) (node : ℕ) : List (Fin n) :=
  match leafRange h.tree node with
  | some (left, count) => (h.objects.drop left).take count
  | none => []

/-- The leaves of the tree, node by node. -/
def Hierarchy.leaves (h : Hierarchy n) : List (List (Fin n)) :=
  (List.range (h.tree.length / 3)).map fun k => leafObjects h (3 * k)

/-- All the boxes, as `buildHierarchy` starts on them. -/
def wholePart (n : ℕ) (bounds : AABox) : Part n where
  prims := Finset.univ
  gridBox := ⟨bounds.low, bounds.high⟩
  nodeBox := ⟨fun a => Coord.ofRat (bounds.low a), fun a => Coord.ofRat (bounds.high a)⟩
  depth := 1
  previous := none
  postponed := false

def boundsOf (first : AABox) (rest : List AABox) : AABox := (first :: rest).foldl AABox.merge first

/-- The build returns a tree whose leaves hold every box once, and a search of it comes to an end and calls back
with every box that holds the point. -/
def BuildsRight (first : AABox) (rest : List AABox) (leafSize : UInt32) (fuzzyEq : ℚ → ℚ → Bool) : Prop :=
  ∃ fuel h, build fuel first rest leafSize fuzzyEq = .ok h ∧
    (∀ i, h.leaves.flatten.count i = 1) ∧
    ∀ p, ∃ turns calls, h.intersectPoint p turns = some calls ∧
      ∀ i : Fin (first :: rest).length, (first :: rest)[i].contains p → i ∈ calls

/-! ## The leaves of a subtree -/

section Leaves

variable {dat : BuildData n} {h : Hierarchy n} {indices : ℕ → Fin n} {node next k left stop budget : ℕ} {l : Coord}

theorem leafObjects_inner (h1 : h.tree[node + 1]? = some (.clip l)) : leafObjects h node = [] := by
  unfold leafObjects leafRange
  rw [h1]
  split
  · next heq =>
    split at heq
    · next h' => cases h'
    · cases heq
  · rfl

theorem leafObjects_leaf (h0 : h.tree[node]? = some (.word (leafWord left)))
    (h1 : h.tree[node + 1]? = some (.word (UInt32.ofNat (stop - left))))
    (hobj : ∀ j, left ≤ j → j < stop → h.objects[j]? = some (indices j)) (hlt : left < stop) (hstop : stop ≤ 2 ^ 29) :
    leafObjects h node = (List.range' left (stop - left)).map indices := by
  have hword := leafWord_toNat (show left < 2 ^ 29 by omega)
  have haxis : axisOf (leafWord left) = 3 := by
    rw [← UInt32.toNat_inj, axisOf_toNat, hword]
    show _ = 3
    omega
  have hbvh2 : isBvh2 (leafWord left) = false := by
    rw [← Bool.not_eq_true, isBvh2_iff, hword]
    omega
  have hoffset : (offsetOf (leafWord left)).toNat = left := by
    rw [offsetOf_toNat, hword]
    omega
  have hrange : leafRange h.tree node = some (left, stop - left) := by
    unfold leafRange
    rw [h0, h1]
    dsimp only
    rw [if_pos ⟨haxis, hbvh2⟩, hoffset, toInt_ofNat (by omega)]
  unfold leafObjects
  rw [hrange]
  dsimp only
  refine List.ext_getElem? fun j => ?_
  rw [List.getElem?_take, List.getElem?_map, List.getElem?_drop]
  split
  · next hj =>
    rw [List.getElem?_range' hj, hobj _ (by omega) (by omega)]
    simp
  · next hj =>
    rw [List.getElem?_eq_none (by simpa using hj)]
    rfl

theorem leafObjects_length_le : (leafObjects h node).length ≤ leafCount h.tree node := by
  unfold leafObjects leafCount
  cases leafRange h.tree node with
  | none => exact le_rfl
  | some r =>
    show ((h.objects.drop r.1).take r.2).length ≤ r.2
    rw [List.length_take]
    exact Nat.min_le_left _ _

/-- **The leaves of a subtree** hold the boxes of its range. -/
theorem Shape.occurs (hs : Shape dat indices h.tree node next k left stop budget)
    (hobj : ∀ j, left ≤ j → j < stop → h.objects[j]? = some (indices j)) (hstop : stop ≤ 2 ^ 29) (i : Fin n) :
    total (fun node => (leafObjects h node).count i) node next k =
      ((List.range' left (stop - left)).map indices).count i := by
  induction hs with
  | leaf hlt h0 h1 =>
    rw [total_zero, leafObjects_leaf h0 h1 hobj hlt hstop]
  | clip h0 h1 h2 hbox hbudget _ ih =>
    rw [total_chain, ih hobj hstop, leafObjects_inner h1]
    exact Nat.zero_add _
  | lower h0 h1 h2 hbox _ ih =>
    rw [total_chain, ih hobj hstop, leafObjects_inner h1]
    exact Nat.zero_add _
  | upper h0 h1 h2 h3 hbox _ ih =>
    rw [total_chain, ih hobj hstop, leafObjects_inner h1]
    exact Nat.zero_add _
  | @split node next k m left mid stop below budget axis l r h0 h1 h2 hmid hbudget hl hr _ _ ihl ihr =>
    rw [total_split, ihl (fun j hj hj' => hobj j hj (by omega)) (by omega),
      ihr (fun j hj hj' => hobj j (by omega) hj') hstop, leafObjects_inner h1]
    show 0 + _ = _
    rw [Nat.zero_add, ← List.count_append, ← List.map_append]
    congr 2
    rw [show stop - left = (mid - left) + (stop - mid) by omega, ← List.range'_append_1]
    congr 2
    omega

end Leaves

/-! ## The first call -/

section Root

variable {first : AABox} {rest : List AABox} {leafSize : UInt32} {fuzzyEq : ℚ → ℚ → Bool} {bounds : AABox}

theorem foldl_merge (boxes : List AABox) (b : AABox) (a : Fin 3) :
    ((boxes.foldl AABox.merge b).low a ≤ b.low a ∧ b.high a ≤ (boxes.foldl AABox.merge b).high a) ∧
      ∀ c ∈ boxes, (boxes.foldl AABox.merge b).low a ≤ c.low a ∧ c.high a ≤ (boxes.foldl AABox.merge b).high a := by
  induction boxes generalizing b with
  | nil => exact ⟨⟨le_rfl, le_rfl⟩, fun c hc => absurd hc List.not_mem_nil⟩
  | cons d boxes ih =>
    obtain ⟨⟨hlow, hhigh⟩, hall⟩ := ih (b.merge d)
    refine ⟨⟨hlow.trans (min_le_left _ _), (le_max_left _ _).trans hhigh⟩, fun c hc => ?_⟩
    rcases List.mem_cons.1 hc with rfl | hc
    · exact ⟨hlow.trans (min_le_right _ _), (le_max_right _ _).trans hhigh⟩
    · exact hall c hc

theorem boundsOf_spec (i : Fin (first :: rest).length) (a : Fin 3) :
    (boundsOf first rest).low a ≤ (first :: rest)[i].low a ∧ (first :: rest)[i].high a ≤ (boundsOf first rest).high a :=
  (foldl_merge (first :: rest) first a).2 _ (List.getElem_mem _)

/-- The frame of the first call. -/
def rootFrame (h : 0 < n) (bounds : AABox) : Frame n :=
  Frame.enter 0 n (firstIndices h) ⟨bounds.low, bounds.high⟩
    ⟨fun a => Coord.ofRat (bounds.low a), fun a => Coord.ofRat (bounds.high a)⟩ 1

theorem rootFrame_part (h : 0 < n) : (rootFrame h bounds).part = wholePart n bounds := by
  have hprims : slice (firstIndices h) 0 n = Finset.univ := by
    refine Finset.eq_univ_of_forall fun i => mem_slice.2 ⟨i.val, ⟨Nat.zero_le _, i.isLt⟩, ?_⟩
    unfold firstIndices
    rw [dif_pos i.isLt]
  unfold Frame.part rootFrame Frame.enter wholePart
  dsimp only
  rw [hprims]
  rfl

theorem rootFrame_sound {dat : BuildData n} (h : 0 < n)
    (hbounds : ∀ i a, bounds.low a ≤ dat.minb i a ∧ dat.maxb i a ≤ bounds.high a) : (rootFrame h bounds).Sound dat where
  nonempty := h
  injOn := by
    intro j hj j' hj' heq
    have hlt : j < n := hj.2
    have hlt' : j' < n := hj'.2
    change firstIndices h j = firstIndices h j' at heq
    unfold firstIndices at heq
    rw [dif_pos hlt, dif_pos hlt'] at heq
    exact Fin.mk.inj heq
  grid i _ a := by
    obtain ⟨hlow, hhigh⟩ := hbounds i a
    exact ⟨hlow.trans (dat.minb_le_center i a), (dat.center_le_maxb i a).trans hhigh⟩
  node i _ a := by
    obtain ⟨hlow, hhigh⟩ := hbounds i a
    exact ⟨Frame.ofRat_le.2 hlow, Frame.ofRat_le.2 hhigh⟩
  clip c hc := by cases hc

theorem nodes_sum (g : ℕ → ℕ) (k : ℕ) :
    ((List.range ((3 + 3 * k) / 3)).map fun j => g (3 * j)).sum = total g 0 3 k := by
  rw [show (3 + 3 * k) / 3 = k + 1 by omega]
  show ∑ j ∈ Finset.range (k + 1), g (3 * j) = g 0 + ∑ j ∈ Finset.range k, g (3 + 3 * j)
  rw [Finset.sum_range_succ', Nat.mul_zero, add_comm]
  congr 1
  refine Finset.sum_congr rfl fun j _ => ?_
  congr 1
  ring

theorem build_outcome {fuel : ℕ} {h : Hierarchy (first :: rest).length}
    (hb : build fuel first rest leafSize fuzzyEq = .ok h) :
    ∃ indices, h.objects = (List.range (first :: rest).length).map indices ∧ h.bounds = boundsOf first rest ∧
      Outcome (buildData (first :: rest) leafSize fuzzyEq) (rootFrame (Nat.succ_pos _) (boundsOf first rest))
        [.word ((3 : UInt32) <<< 30), .word 0, .word 0] 0 h.tree indices := by
  unfold build at hb
  dsimp only at hb
  split at hb
  · cases hb
  next tree indices hbuilt =>
  cases hb
  refine ⟨indices, rfl, rfl, ?_⟩
  exact subdivide_outcome (loop_outcome fuel) (rootFrame_sound _ boundsOf_spec) le_rfl hbuilt

theorem build_returns {k : ℕ}
    (hk : Settles (buildData (first :: rest) leafSize fuzzyEq) (wholePart _ (boundsOf first rest)) k) :
    ∃ fuel h, build fuel first rest leafSize fuzzyEq = .ok h := by
  obtain ⟨fuel, ⟨tree, indices⟩, hr⟩ := hk.returns (rootFrame (Nat.succ_pos _) (boundsOf first rest))
    (rootFrame_part _) (rootFrame_sound _ boundsOf_spec) [.word ((3 : UInt32) <<< 30), .word 0, .word 0] 0 le_rfl
  refine ⟨fuel, ⟨tree, (List.range (first :: rest).length).map indices, boundsOf first rest⟩, ?_⟩
  have hbuilt : buildHierarchy (buildData (first :: rest) leafSize fuzzyEq) (Nat.succ_pos _)
      ((first :: rest).foldl AABox.merge first) fuel = .ok (tree, indices) := hr
  unfold build
  dsimp only
  rw [hbuilt]
  rfl

theorem leaves_count {h : Hierarchy n} {k : ℕ} (hlength : h.tree.length = 3 + 3 * k) (i : Fin n) :
    h.leaves.flatten.count i = total (fun node => (leafObjects h node).count i) 0 3 k := by
  rw [← nodes_sum, ← hlength, List.count_flatten]
  unfold Hierarchy.leaves
  rw [List.map_map]
  rfl

theorem leaves_length {h : Hierarchy n} {k : ℕ} (hlength : h.tree.length = 3 + 3 * k) :
    h.leaves.flatten.length ≤ total (leafCount h.tree) 0 3 k := by
  rw [← nodes_sum, ← hlength, List.length_flatten]
  unfold Hierarchy.leaves
  rw [List.map_map]
  exact List.sum_le_sum fun j _ => leafObjects_length_le

theorem length_of_count {l : List (Fin n)} (h : ∀ i, l.count i = 1) : n ≤ l.length := by
  have hall : l.toFinset = Finset.univ :=
    Finset.eq_univ_of_forall fun i => List.mem_toFinset.2 (List.count_pos_iff.1 (by rw [h i]; exact Nat.one_pos))
  have hcard := List.toFinset_card_le l
  rw [hall, Finset.card_univ, Fintype.card_fin] at hcard
  exact hcard

theorem Shape.buildsRight {dat : BuildData n} {h : Hierarchy n} {indices : ℕ → Fin n} {k budget : ℕ}
    (hs : Shape dat indices h.tree 0 3 k 0 n budget) (hobjects : h.objects = (List.range n).map indices)
    (hinj : Set.InjOn indices (Set.Ico 0 n)) (hlength : h.tree.length = 3 + 3 * k) (hk : 3 + 3 * k ≤ 2 ^ 29)
    (hn : n ≤ 2 ^ 29) (hbudget : budget ≤ maxStackSize)
    (hbounds : ∀ i a, h.bounds.low a ≤ dat.minb i a ∧ dat.maxb i a ≤ h.bounds.high a) :
    (∀ i, h.leaves.flatten.count i = 1) ∧
      ∀ p, ∃ turns calls, h.intersectPoint p turns = some calls ∧
        ∀ i, (dat.primBound i).contains p → i ∈ calls := by
  have hobj : ∀ j, 0 ≤ j → j < n → h.objects[j]? = some (indices j) := by
    intro j _ hj
    rw [hobjects, List.getElem?_map, List.getElem?_range hj]
    rfl
  have hall : slice indices 0 n = Finset.univ := by
    refine Finset.eq_univ_of_card _ ?_
    rw [slice_card hinj, Fintype.card_fin]
    rfl
  constructor
  · intro i
    rw [leaves_count hlength, hs.occurs hobj hn, Nat.sub_zero]
    have hnodup : ((List.range' 0 n).map indices).Nodup := by
      refine List.Nodup.map_on (fun j hj j' hj' heq => hinj ?_ ?_ heq) List.nodup_range'
      · exact ⟨Nat.zero_le _, by simpa using hj⟩
      · exact ⟨Nat.zero_le _, by simpa using hj'⟩
    refine List.count_eq_one_of_mem hnodup ?_
    obtain ⟨j, hj, rfl⟩ := mem_slice.1 (hall ▸ Finset.mem_univ i)
    exact List.mem_map_of_mem (List.mem_range'_1.2 (by omega))
  · intro p
    unfold Hierarchy.intersectPoint
    by_cases hin : h.bounds.contains p
    · obtain ⟨turns, called, hrun, hcalled⟩ := hs.search (p := p) hobj hk hn
      refine ⟨0 + turns, called, ?_, fun i hi => hcalled i (hall ▸ Finset.mem_univ i) hi⟩
      rw [if_pos hin, hrun 0 [] [] (by simpa using hbudget)]
      rfl
    · refine ⟨0, [], if_neg hin, fun i hi => absurd (fun a => ?_) hin⟩
      obtain ⟨hlow, hhigh⟩ := hbounds i a
      exact ⟨hlow.trans (hi a).1, (hi a).2.trans hhigh⟩

/-- **When a build is right.** It is only when the boxes settle, and then it is whenever the words of the tree have
room for its offsets. -/
theorem build_right (first : AABox) (rest : List AABox) (leafSize : UInt32) (fuzzyEq : ℚ → ℚ → Bool)
    (hn : (first :: rest).length ≤ 2 ^ 29) :
    (BuildsRight first rest leafSize fuzzyEq →
        ∃ k, Settles (buildData (first :: rest) leafSize fuzzyEq) (wholePart _ (boundsOf first rest)) k) ∧
      ∀ k, Settles (buildData (first :: rest) leafSize fuzzyEq) (wholePart _ (boundsOf first rest)) k →
        3 + 3 * k ≤ 2 ^ 29 → BuildsRight first rest leafSize fuzzyEq := by
  constructor
  · rintro ⟨fuel, h, hb, hleaves, -⟩
    obtain ⟨indices, -, -, k, hw, ⟨hk, -⟩ | ⟨-, hlost⟩⟩ := build_outcome hb
    · rw [rootFrame_part] at hk
      exact ⟨k, (hk k).2 rfl⟩
    · have hlen := (length_of_count hleaves).trans (leaves_length hw.length)
      exact absurd hlen (not_le.2 hlost)
  · intro k hk hsize
    obtain ⟨fuel, h, hb⟩ := build_returns hk
    obtain ⟨indices, hobjects, hbounds, k', hw, ⟨hk', hshape⟩ | ⟨hnot, -⟩⟩ := build_outcome hb
    · rw [rootFrame_part] at hk'
      obtain rfl := (hk' k).1 hk
      have hroot : (rootFrame (Nat.succ_pos _) (boundsOf first rest)).Sound
          (buildData (first :: rest) leafSize fuzzyEq) := rootFrame_sound _ boundsOf_spec
      have hinj := hw.shuffles.injOn hroot.injOn
      refine ⟨fuel, h, hb, hshape.buildsRight hobjects hinj hw.length hsize hn (Nat.sub_le _ _) ?_⟩
      rw [hbounds]
      exact boundsOf_spec
    · rw [rootFrame_part] at hnot
      exact absurd hk (hnot k)

theorem build_unique {a b : ℕ} {h h' : Hierarchy (first :: rest).length}
    (ha : build a first rest leafSize fuzzyEq = .ok h) (hb : build b first rest leafSize fuzzyEq = .ok h') : h = h' := by
  have hmore : ∀ {c : ℕ} {g : Hierarchy (first :: rest).length}, c ≤ max a b →
      build c first rest leafSize fuzzyEq = .ok g → build (max a b) first rest leafSize fuzzyEq = .ok g := by
    intro c g hc hg
    unfold build at hg ⊢
    dsimp only at hg ⊢
    split at hg
    · cases hg
    next tree indices hbuilt =>
    have hbuilt' : buildHierarchy _ _ _ (max a b) = .ok (tree, indices) := (loop_le hc).subdivide hbuilt
    rw [hbuilt']
    exact hg
  have heq := (hmore (le_max_left a b) ha).symm.trans (hmore (le_max_right a b) hb)
  exact Except.ok.inj heq

end Root

/-! ## Lost boxes -/

/-- A box that is one point of the first axis. -/
def pointBox (q : ℚ) : AABox := ⟨fun a => if a = 0 then q else 0, fun a => if a = 0 then q else 0, fun _ => le_rfl⟩

/-- `G3D::fuzzyEq`. -/
def fuzzyEq (x y : ℚ) : Bool := decide (x = y) || decide (|x - y| ≤ 1 / 100000 * (|x| + 1))

theorem build_right_two :
    (BuildsRight (pointBox 0) [pointBox 1] 1 fuzzyEq →
        ∃ k, Settles (buildData [pointBox 0, pointBox 1] 1 fuzzyEq) (wholePart _ (boundsOf (pointBox 0) [pointBox 1])) k) ∧
      ∀ k, Settles (buildData [pointBox 0, pointBox 1] 1 fuzzyEq) (wholePart _ (boundsOf (pointBox 0) [pointBox 1])) k →
        3 + 3 * k ≤ 2 ^ 29 → BuildsRight (pointBox 0) [pointBox 1] 1 fuzzyEq :=
  build_right (pointBox 0) [pointBox 1] 1 fuzzyEq (by decide)

/-- The leaves of a build that returns hold a box so often. -/
def HoldsBox (times : ℕ) (i : Fin n) : Except Failure (Hierarchy n) → Prop
  | .ok h => h.leaves.flatten.count i = times
  | .error _ => False

instance (times : ℕ) (i : Fin n) (r : Except Failure (Hierarchy n)) : Decidable (HoldsBox times i r) :=
  match r with
  | .ok _ => inferInstanceAs (Decidable (_ = _))
  | .error _ => inferInstanceAs (Decidable False)

/-- **Boxes are lost.** The split of the part of the two boxes at 1 nears 1 from below; when `fuzzyEq` takes two
splits for equal, the leaf that is written has none of them. -/
theorem build_lost_boxes :
    ¬ ∀ (first : AABox) (rest : List AABox) (leafSize : UInt32) (fuzzyEq : ℚ → ℚ → Bool),
      (∀ x, fuzzyEq x x = true) → 1 ≤ leafSize → BuildsRight first rest leafSize fuzzyEq := by
  intro hall
  have hrefl : ∀ x, fuzzyEq x x = true := fun x => by simp [fuzzyEq]
  obtain ⟨fuel, h, hb, hleaves, -⟩ := hall (pointBox 0) [pointBox 1, pointBox 1] 1 fuzzyEq hrefl (by decide)
  have hlost : HoldsBox 0 1 (build 30 (pointBox 0) [pointBox 1, pointBox 1] 1 fuzzyEq) := by decide +kernel
  cases hbuilt : build 30 (pointBox 0) [pointBox 1, pointBox 1] 1 fuzzyEq with
  | error e =>
    rw [hbuilt] at hlost
    exact hlost
  | ok h' =>
    rw [hbuilt, ← build_unique hb hbuilt] at hlost
    have hone := hleaves 1
    rw [show h.leaves.flatten.count 1 = 0 from hlost] at hone
    exact absurd hone Nat.zero_ne_one

end BlizzLike.Bih
