import BlizzLikeCore.Collision.HierarchyBuild

/-!
# The turns of `subdivide` and the boxes

A range of the index array stands for the part of the boxes that it lists. A turn of the loop never
throws, and does to the range what `Part` says of the boxes.

    Frame.pass_spec : what a turn leads to
-/

namespace BlizzLike.Bih

variable {n : ℕ} {dat : BuildData n}

namespace Partition.Sound

variable {axis : Fin 3} {split : ℚ} {left stop : ℕ} {indices : ℕ → Fin n} {s : Partition n}

theorem union_eq (h : s.Sound dat axis split left stop indices) (hi : s.i = s.stop) :
    slice s.indices left s.i ∪ slice s.indices s.stop stop = slice indices left stop := by
  have hle := h.left_le
  rw [hi] at hle ⊢
  rw [slice_append hle h.stop_le, h.shuffles.slice_eq]

theorem lefts_eq (h : s.Sound dat axis split left stop indices) (hi : s.i = s.stop) :
    slice s.indices left s.stop = (slice indices left stop).filter fun i => dat.center i axis ≤ split := by
  have hunion := h.union_eq hi
  have hstay := h.stay
  rw [hi] at hunion hstay
  rw [← hunion, Finset.filter_union, Finset.filter_true_of_mem hstay, Finset.filter_false_of_mem h.move,
    Finset.union_empty]

theorem rights_eq (h : s.Sound dat axis split left stop indices) (hi : s.i = s.stop) :
    slice s.indices s.stop stop = (slice indices left stop).filter fun i => ¬ dat.center i axis ≤ split := by
  have hunion := h.union_eq hi
  have hstay := h.stay
  rw [hi] at hunion hstay
  rw [← hunion, Finset.filter_union, Finset.filter_true_of_mem h.move,
    Finset.filter_false_of_mem (fun i hmem => not_not.2 (hstay i hmem)), Finset.empty_union]

end Partition.Sound

namespace Frame

variable {f : Frame n}

/-- The boxes of the range, with the boxes of the frame. -/
def part (f : Frame n) : Part n where
  prims := slice f.indices f.left f.stop
  gridBox := f.gridBox
  nodeBox := f.nodeBox
  depth := f.depth
  previous := f.prev
  postponed := f.prevClip.isSome

/-- The centres are in the grid box and the boxes are in the node box; a postponed split has all the boxes on
its side. -/
structure Sound (dat : BuildData n) (f : Frame n) : Prop where
  nonempty : f.left < f.stop
  injOn : Set.InjOn f.indices (Set.Ico f.left f.stop)
  grid : ∀ i ∈ f.part.prims, ∀ a, f.gridBox.lo a ≤ dat.center i a ∧ dat.center i a ≤ f.gridBox.hi a
  node : ∀ i ∈ f.part.prims, ∀ a,
    f.nodeBox.lo a ≤ Coord.ofRat (dat.minb i a) ∧ Coord.ofRat (dat.maxb i a) ≤ f.nodeBox.hi a
  clip : ∀ c, f.prevClip = some c → ∃ a s, f.prev = some (a, s) ∧ ∀ i ∈ f.part.prims,
    if f.wasLeft then Coord.ofRat (dat.maxb i a) ≤ c else c ≤ Coord.ofRat (dat.minb i a)

/-- A frame with the same range, permuted. -/
structure Follows (f next : Frame n) : Prop where
  left : next.left = f.left
  stop : next.stop = f.stop
  shuffles : Shuffles f.left f.stop f.indices next.indices

/-- The range is cut in the two parts of a split. -/
structure Cuts (dat : BuildData n) (f : Frame n) (s : Partition n) : Prop where
  lt : f.left < s.stop
  gt : s.stop < f.stop
  shuffles : Shuffles f.left f.stop f.indices s.indices
  left : slice s.indices f.left s.stop = f.part.lefts dat
  right : slice s.indices s.stop f.stop = f.part.rights dat
  clipL : s.clipL = f.part.clipL dat
  clipR : s.clipR = f.part.clipR dat

/-- **What a turn leads to**: the ends of a turn, with what holds at each. -/
inductive Passes (dat : BuildData n) (f : Frame n) : Pass n → Prop
  | clips {next} (hempty : f.part.HasEmptySpace dat) (hnext : next.Sound dat)
      (hpart : next.part = f.part.shrunk dat) (hfollows : f.Follows next) :
      Passes dat f (.clips f.part.axis (f.part.nodeL dat) (f.part.nodeR dat) next)
  | stuck {indices} (hempty : ¬ f.part.HasEmptySpace dat) (hright : f.part.rights dat = ∅)
      (hstuck : f.part.IsStuck dat) (hshuffles : Shuffles f.left f.stop f.indices indices) :
      Passes dat f (.leaf f.stop indices)
  | lost {indices} (hempty : ¬ f.part.HasEmptySpace dat) (hright : f.part.rights dat ≠ ∅)
      (hleft : f.part.lefts dat = ∅) (hstuck : f.part.IsStuck dat)
      (hshuffles : Shuffles f.left f.stop f.indices indices) : Passes dat f (.leaf f.left indices)
  | lower {next} (hempty : ¬ f.part.HasEmptySpace dat) (hright : f.part.rights dat = ∅)
      (hstuck : ¬ f.part.IsStuck dat) (hnext : next.Sound dat) (hpart : next.part = f.part.lowerHalf dat)
      (hfollows : f.Follows next) : Passes dat f (.again next)
  | upper {next} (hempty : ¬ f.part.HasEmptySpace dat) (hright : f.part.rights dat ≠ ∅)
      (hleft : f.part.lefts dat = ∅) (hstuck : ¬ f.part.IsStuck dat) (hnext : next.Sound dat)
      (hpart : next.part = f.part.upperHalf dat) (hfollows : f.Follows next) : Passes dat f (.again next)
  | splits {s} (hempty : ¬ f.part.HasEmptySpace dat) (hcuts : f.Cuts dat s) :
      Passes dat f (.splits f.part.axis f.part.split s)

theorem Follows.prims {next : Frame n} (h : f.Follows next) : next.part.prims = f.part.prims := by
  show slice next.indices next.left next.stop = slice f.indices f.left f.stop
  rw [h.left, h.stop]
  exact h.shuffles.slice_eq

theorem ofRat_le {q r : ℚ} : Coord.ofRat q ≤ Coord.ofRat r ↔ q ≤ r := by
  simp [Coord.ofRat]

theorem stuck_iff : f.stuck dat f.part.axis f.part.split = true ↔ f.part.IsStuck dat := by
  unfold stuck Part.IsStuck
  show _ ↔ ∃ s, f.prev = _ ∧ _
  cases hprev : f.prev with
  | none => simp
  | some p =>
    obtain ⟨prevAxis, prevSplit⟩ := p
    simp only [Bool.and_eq_true, decide_eq_true_eq, Option.some.injEq, Prod.mk.injEq]
    constructor
    · rintro ⟨rfl, heq⟩
      exact ⟨prevSplit, ⟨rfl, rfl⟩, heq⟩
    · rintro ⟨s, ⟨rfl, rfl⟩, heq⟩
      exact ⟨rfl, heq⟩

theorem Sound.extents (h : f.Sound dat) (a : Fin 3) : 0 ≤ f.gridBox.hi a - f.gridBox.lo a := by
  obtain ⟨hlo, hhi⟩ := h.grid _ (mem_slice.2 ⟨f.left, ⟨le_rfl, h.nonempty⟩, rfl⟩) a
  linarith

theorem Sound.overlap (h : f.Sound dat) (a : Fin 3) :
    Coord.ofRat (f.gridBox.lo a) ≤ f.nodeBox.hi a ∧ f.nodeBox.lo a ≤ Coord.ofRat (f.gridBox.hi a) := by
  have hmem : f.indices f.left ∈ f.part.prims := mem_slice.2 ⟨f.left, ⟨le_rfl, h.nonempty⟩, rfl⟩
  obtain ⟨hlo, hhi⟩ := h.grid _ hmem a
  obtain ⟨hmin, hmax⟩ := h.node _ hmem a
  constructor
  · exact (ofRat_le.2 (hlo.trans (dat.center_le_maxb _ a))).trans hmax
  · exact hmin.trans (ofRat_le.2 ((dat.minb_le_center _ a).trans hhi))

theorem Sound.next {next : Frame n} (h : f.Sound dat) (hfollows : f.Follows next)
    (hgrid : ∀ i ∈ f.part.prims, ∀ a, next.gridBox.lo a ≤ dat.center i a ∧ dat.center i a ≤ next.gridBox.hi a)
    (hnode : ∀ i ∈ f.part.prims, ∀ a,
      next.nodeBox.lo a ≤ Coord.ofRat (dat.minb i a) ∧ Coord.ofRat (dat.maxb i a) ≤ next.nodeBox.hi a)
    (hclip : ∀ c, next.prevClip = some c → ∃ a s, next.prev = some (a, s) ∧ ∀ i ∈ f.part.prims,
      if next.wasLeft then Coord.ofRat (dat.maxb i a) ≤ c else c ≤ Coord.ofRat (dat.minb i a)) :
    next.Sound dat := by
  have hprims := hfollows.prims
  refine ⟨?_, ?_, by rwa [hprims], by rwa [hprims], by rwa [hprims]⟩
  · rw [hfollows.left, hfollows.stop]
    exact h.nonempty
  · rw [hfollows.left, hfollows.stop]
    exact hfollows.shuffles.injOn h.injOn

theorem Sound.child {left stop depth : ℕ} {indices : ℕ → Fin n} {gridBox : AABound ℚ} {nodeBox : AABound Coord}
    (h : f.Sound dat) (hlt : left < stop) (hle : f.left ≤ left) (hge : stop ≤ f.stop)
    (hshuffles : Shuffles f.left f.stop f.indices indices)
    (hgrid : ∀ i ∈ slice indices left stop, ∀ a, gridBox.lo a ≤ dat.center i a ∧ dat.center i a ≤ gridBox.hi a)
    (hnode : ∀ i ∈ slice indices left stop, ∀ a,
      nodeBox.lo a ≤ Coord.ofRat (dat.minb i a) ∧ Coord.ofRat (dat.maxb i a) ≤ nodeBox.hi a) :
    (enter left stop indices gridBox nodeBox depth).Sound dat := by
  refine ⟨hlt, ?_, hgrid, hnode, fun c hc => by cases hc⟩
  exact (hshuffles.injOn h.injOn).mono (Set.Ico_subset_Ico hle hge)

theorem setHi_grid {i : Fin n} {b : AABound ℚ} {axis : Fin 3} {split : ℚ} (hc : dat.center i axis ≤ split)
    (h : ∀ a, b.lo a ≤ dat.center i a ∧ dat.center i a ≤ b.hi a) (a : Fin 3) :
    (b.setHi axis split).lo a ≤ dat.center i a ∧ dat.center i a ≤ (b.setHi axis split).hi a := by
  refine ⟨(h a).1, ?_⟩
  unfold AABound.setHi
  by_cases ha : a = axis
  · subst ha
    simpa using hc
  · simpa [ha] using (h a).2

theorem setLo_grid {i : Fin n} {b : AABound ℚ} {axis : Fin 3} {split : ℚ} (hc : split ≤ dat.center i axis)
    (h : ∀ a, b.lo a ≤ dat.center i a ∧ dat.center i a ≤ b.hi a) (a : Fin 3) :
    (b.setLo axis split).lo a ≤ dat.center i a ∧ dat.center i a ≤ (b.setLo axis split).hi a := by
  refine ⟨?_, (h a).2⟩
  unfold AABound.setLo
  by_cases ha : a = axis
  · subst ha
    simpa using hc
  · simpa [ha] using (h a).1

theorem setHi_node {i : Fin n} {b : AABound Coord} {axis : Fin 3} {c : Coord} (hc : Coord.ofRat (dat.maxb i axis) ≤ c)
    (h : ∀ a, b.lo a ≤ Coord.ofRat (dat.minb i a) ∧ Coord.ofRat (dat.maxb i a) ≤ b.hi a) (a : Fin 3) :
    (b.setHi axis c).lo a ≤ Coord.ofRat (dat.minb i a) ∧ Coord.ofRat (dat.maxb i a) ≤ (b.setHi axis c).hi a := by
  refine ⟨(h a).1, ?_⟩
  unfold AABound.setHi
  by_cases ha : a = axis
  · subst ha
    simpa using hc
  · simpa [ha] using (h a).2

theorem setLo_node {i : Fin n} {b : AABound Coord} {axis : Fin 3} {c : Coord} (hc : c ≤ Coord.ofRat (dat.minb i axis))
    (h : ∀ a, b.lo a ≤ Coord.ofRat (dat.minb i a) ∧ Coord.ofRat (dat.maxb i a) ≤ b.hi a) (a : Fin 3) :
    (b.setLo axis c).lo a ≤ Coord.ofRat (dat.minb i a) ∧ Coord.ofRat (dat.maxb i a) ≤ (b.setLo axis c).hi a := by
  refine ⟨?_, (h a).2⟩
  unfold AABound.setLo
  by_cases ha : a = axis
  · subst ha
    simpa using hc
  · simpa [ha] using (h a).1

theorem le_clipL {i : Fin n} {p : Part n} (hi : i ∈ p.lefts dat) : Coord.ofRat (dat.maxb i p.axis) ≤ p.clipL dat :=
  Finset.le_sup (f := fun i => Coord.ofRat (dat.maxb i p.axis)) hi

theorem clipR_le {i : Fin n} {p : Part n} (hi : i ∈ p.rights dat) : p.clipR dat ≤ Coord.ofRat (dat.minb i p.axis) :=
  Finset.inf_le (f := fun i => Coord.ofRat (dat.minb i p.axis)) hi

theorem nodeL_le {i : Fin n} {p : Part n} (hi : i ∈ p.prims) : p.nodeL dat ≤ Coord.ofRat (dat.minb i p.axis) :=
  Finset.inf_le (f := fun i => Coord.ofRat (dat.minb i p.axis)) hi

theorem le_nodeR {i : Fin n} {p : Part n} (hi : i ∈ p.prims) : Coord.ofRat (dat.maxb i p.axis) ≤ p.nodeR dat :=
  Finset.le_sup (f := fun i => Coord.ofRat (dat.maxb i p.axis)) hi

theorem center_of_lefts {p : Part n} (h : p.rights dat = ∅) {i : Fin n} (hi : i ∈ p.prims) : i ∈ p.lefts dat := by
  refine Finset.mem_filter.2 ⟨hi, ?_⟩
  by_contra hc
  exact Finset.notMem_empty i (h ▸ Finset.mem_filter.2 ⟨hi, hc⟩)

theorem center_of_rights {p : Part n} (h : p.lefts dat = ∅) {i : Fin n} (hi : i ∈ p.prims) : i ∈ p.rights dat := by
  refine Finset.mem_filter.2 ⟨hi, fun hc => ?_⟩
  exact Finset.notMem_empty i (h ▸ Finset.mem_filter.2 ⟨hi, hc⟩)

/-- **A turn of the loop** does what `Passes` says; in particular it does not throw. -/
theorem pass_spec (h : f.Sound dat) : f.Passes dat (f.pass dat) := by
  obtain ⟨hs, hi⟩ := @partition_spec n dat f.part.axis f.part.split f.left f.stop f.indices h.nonempty.le
  unfold pass
  dsimp only
  rw [if_neg (by
    have h0 := h.extents 0
    have h1 := h.extents 1
    have h2 := h.extents 2
    rintro (hneg | hneg | hneg) <;> linarith)]
  rw [if_neg (by
    rintro ⟨a, hlt | hlt⟩
    · exact absurd (h.overlap a).1 (not_le.2 hlt)
    · exact absurd (h.overlap a).2 (not_le.2 hlt))]
  rw [show primaryAxis (fun a => f.gridBox.hi a - f.gridBox.lo a) = f.part.axis from rfl]
  rw [show 1 / 2 * (f.gridBox.lo f.part.axis + f.gridBox.hi f.part.axis) = f.part.split from rfl]
  generalize partition dat f.part.axis f.part.split f.left f.stop f.indices = s at hs hi ⊢
  have hlefts : slice s.indices f.left s.stop = f.part.lefts dat := hs.lefts_eq hi
  have hrights : slice s.indices s.stop f.stop = f.part.rights dat := hs.rights_eq hi
  have hclipL : s.clipL = f.part.clipL dat := by rw [hs.clipL, hi, hlefts]; rfl
  have hclipR : s.clipR = f.part.clipR dat := by rw [hs.clipR, hrights]; rfl
  have hnodeL : s.nodeL = f.part.nodeL dat := by rw [hs.nodeL, hs.union_eq hi]; rfl
  have hnodeR : s.nodeR = f.part.nodeR dat := by rw [hs.nodeR, hs.union_eq hi]; rfl
  have hle : f.left ≤ s.stop := hi ▸ hs.left_le
  have hnone : f.part.rights dat = ∅ ↔ s.stop = f.stop := by
    rw [← hrights, slice_eq_empty]
    have hge := hs.stop_le
    omega
  have hall : f.part.lefts dat = ∅ ↔ s.stop ≤ f.left := by
    rw [← hlefts, slice_eq_empty]
  rw [hnodeL, hnodeR, hclipL, hclipR]
  split
  · next hempty =>
    refine .clips hempty (h.child h.nonempty le_rfl le_rfl hs.shuffles ?_ ?_) ?_ ⟨rfl, rfl, hs.shuffles⟩
    · intro i hmem
      rw [hs.shuffles.slice_eq] at hmem
      exact h.grid i hmem
    · intro i hmem
      rw [hs.shuffles.slice_eq] at hmem
      exact setHi_node (le_nodeR hmem) (setLo_node (nodeL_le hmem) (h.node i hmem))
    · unfold part Part.shrunk enter
      dsimp only
      rw [hs.shuffles.slice_eq]
      rfl
  next hempty =>
  split
  · next hstop =>
    have hright : f.part.rights dat = ∅ := hnone.2 hstop
    split
    · next hstuck =>
      rw [hstop]
      exact .stuck hempty hright (stuck_iff.1 hstuck) hs.shuffles
    next hstuck =>
    have hnot : ¬ f.part.IsStuck dat := fun h => hstuck (stuck_iff.2 h)
    have hgrid : ∀ i ∈ f.part.prims, ∀ a, (f.gridBox.setHi f.part.axis f.part.split).lo a ≤ dat.center i a ∧
        dat.center i a ≤ (f.gridBox.setHi f.part.axis f.part.split).hi a := fun i hmem =>
      setHi_grid (Finset.mem_filter.1 (center_of_lefts hright hmem)).2 (h.grid i hmem)
    split
    · next hclip =>
      refine .lower hempty hright hnot (h.next ⟨rfl, rfl, hs.shuffles⟩ hgrid h.node ?_) ?_ ⟨rfl, rfl, hs.shuffles⟩
      · rintro c ⟨⟩
        refine ⟨_, _, rfl, fun i hmem => ?_⟩
        rw [if_pos rfl]
        exact le_clipL (center_of_lefts hright hmem)
      · unfold part Part.lowerHalf
        dsimp only
        rw [hs.shuffles.slice_eq]
        exact congrArg _ (decide_eq_true hclip).symm
    · next hclip =>
      refine .lower hempty hright hnot (h.next ⟨rfl, rfl, hs.shuffles⟩ hgrid h.node ?_) ?_ ⟨rfl, rfl, hs.shuffles⟩
      · rintro c ⟨⟩
      · unfold part Part.lowerHalf
        dsimp only
        rw [hs.shuffles.slice_eq]
        exact congrArg _ (decide_eq_false hclip).symm
  next hstop =>
  have hright : f.part.rights dat ≠ ∅ := fun h => hstop (hnone.1 h)
  split
  · next hleft =>
    have hleft' : f.part.lefts dat = ∅ := hall.2 hleft
    split
    · next hstuck =>
      rw [show s.stop = f.left by omega]
      exact .lost hempty hright hleft' (stuck_iff.1 hstuck) hs.shuffles
    next hstuck =>
    have hnot : ¬ f.part.IsStuck dat := fun h => hstuck (stuck_iff.2 h)
    have hgrid : ∀ i ∈ f.part.prims, ∀ a, (f.gridBox.setLo f.part.axis f.part.split).lo a ≤ dat.center i a ∧
        dat.center i a ≤ (f.gridBox.setLo f.part.axis f.part.split).hi a := fun i hmem =>
      setLo_grid (not_le.1 (Finset.mem_filter.1 (center_of_rights hleft' hmem)).2).le (h.grid i hmem)
    split
    · next hclip =>
      refine .upper hempty hright hleft' hnot (h.next ⟨rfl, rfl, hs.shuffles⟩ hgrid h.node ?_) ?_
        ⟨rfl, rfl, hs.shuffles⟩
      · rintro c ⟨⟩
        refine ⟨_, _, rfl, fun i hmem => ?_⟩
        rw [if_neg Bool.false_ne_true]
        exact clipR_le (center_of_rights hleft' hmem)
      · unfold part Part.upperHalf
        dsimp only
        rw [hs.shuffles.slice_eq]
        exact congrArg _ (decide_eq_true hclip).symm
    · next hclip =>
      refine .upper hempty hright hleft' hnot (h.next ⟨rfl, rfl, hs.shuffles⟩ hgrid h.node ?_) ?_
        ⟨rfl, rfl, hs.shuffles⟩
      · rintro c ⟨⟩
      · unfold part Part.upperHalf
        dsimp only
        rw [hs.shuffles.slice_eq]
        exact congrArg _ (decide_eq_false hclip).symm
  next hleft =>
  have hge := hs.stop_le
  exact .splits hempty ⟨not_le.1 hleft, by omega, hs.shuffles, hlefts, hrights, hclipL, hclipR⟩

/-! ## The two calls below a split -/

section Children

variable {s : Partition n} {depth : ℕ} {indices : ℕ → Fin n}

theorem Cuts.lefts_ne (h : f.Cuts dat s) : f.part.lefts dat ≠ ∅ := by
  rw [← h.left, Ne, slice_eq_empty]
  exact not_le.2 h.lt

theorem Cuts.rights_ne (h : f.Cuts dat s) : f.part.rights dat ≠ ∅ := by
  rw [← h.right, Ne, slice_eq_empty]
  exact not_le.2 h.gt

theorem Cuts.right_eq (h : f.Cuts dat s) (hl : Shuffles f.left s.stop s.indices indices) :
    slice indices s.stop f.stop = f.part.rights dat := by
  rw [← h.right]
  exact slice_congr fun j hj _ => hl.outside (by omega)

theorem Cuts.leftFrame_sound (hcuts : f.Cuts dat s) (h : f.Sound dat) :
    (f.leftFrame f.part.axis f.part.split s depth).Sound dat := by
  refine h.child hcuts.lt le_rfl hcuts.gt.le hcuts.shuffles (fun i hi => ?_) fun i hi => ?_
  · rw [hcuts.left] at hi
    exact setHi_grid (Finset.mem_filter.1 hi).2 (h.grid i (Finset.mem_filter.1 hi).1)
  · rw [hcuts.left] at hi
    exact setHi_node (hcuts.clipL ▸ le_clipL hi) (h.node i (Finset.mem_filter.1 hi).1)

theorem Cuts.rightFrame_sound (hcuts : f.Cuts dat s) (h : f.Sound dat)
    (hl : Shuffles f.left s.stop s.indices indices) :
    (f.rightFrame f.part.axis f.part.split s indices depth).Sound dat := by
  refine h.child hcuts.gt hcuts.lt.le le_rfl (hcuts.shuffles.trans (hl.mono le_rfl hcuts.gt.le)) (fun i hi => ?_)
    fun i hi => ?_
  · rw [hcuts.right_eq hl] at hi
    exact setLo_grid (not_le.1 (Finset.mem_filter.1 hi).2).le (h.grid i (Finset.mem_filter.1 hi).1)
  · rw [hcuts.right_eq hl] at hi
    exact setLo_node (hcuts.clipR ▸ clipR_le hi) (h.node i (Finset.mem_filter.1 hi).1)

theorem Cuts.leftFrame_part (h : f.Cuts dat s) (hdepth : depth + 1 = f.part.childDepth) :
    (f.leftFrame f.part.axis f.part.split s depth).part = f.part.leftPart dat := by
  unfold part leftFrame enter Part.leftPart
  dsimp only
  rw [h.left, h.clipL, hdepth]
  rfl

theorem Cuts.rightFrame_part (h : f.Cuts dat s) (hl : Shuffles f.left s.stop s.indices indices)
    (hdepth : depth + 1 = f.part.childDepth) :
    (f.rightFrame f.part.axis f.part.split s indices depth).part = f.part.rightPart dat := by
  unfold part rightFrame enter Part.rightPart
  dsimp only
  rw [h.right_eq hl, h.clipR, hdepth]
  rfl

end Children

end Frame

end BlizzLike.Bih
