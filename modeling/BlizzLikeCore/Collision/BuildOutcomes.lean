import BlizzLikeCore.Collision.BuiltTrees

/-!
# What a build comes to

A call that returns has either written a subtree of the shape `Shape`, and its part settles, or its leaves
hold fewer boxes than its range.

    loop_outcome    : by induction over the fuel
    Settles.returns : a part that settles makes its call return, by induction over the settling
-/

namespace BlizzLike.Bih

variable {n : ℕ} {dat : BuildData n}

/-- What a call of a frame comes to when it returns. -/
def Outcome (dat : BuildData n) (f : Frame n) (tree : List Cell) (node : ℕ) (tree' : List Cell)
    (indices' : ℕ → Fin n) : Prop :=
  ∃ k, Wrote f.left f.stop f.indices tree node tree' indices' k ∧
    (((∀ k', Settles dat f.part k' ↔ k' = k) ∧
        Shape dat indices' tree' node tree.length k f.left f.stop (maxStackSize - f.depth)) ∨
      ((∀ k', ¬ Settles dat f.part k') ∧ total (leafCount tree') node tree.length k < f.stop - f.left))

/-- The loop does so wherever it returns. -/
def LoopOutcome (dat : BuildData n) (loop : Frame n → List Cell → ℕ → Built n) : Prop :=
  ∀ f tree node tree' indices', f.Sound dat → ¬ f.part.IsLeaf dat → node + 3 ≤ tree.length →
    loop f tree node = .ok (tree', indices') → Outcome dat f tree node tree' indices'

section Outcomes

variable {loop : Frame n → List Cell → ℕ → Built n} {f next : Frame n} {tree tree' : List Cell} {node : ℕ}
  {indices' : ℕ → Fin n} {s : Partition n}

theorem Frame.Sound.small_iff (h : f.Sound dat) : f.small dat = true ↔ f.part.IsLeaf dat := by
  unfold small Part.IsLeaf
  rw [show f.part.prims.card = f.stop - f.left from slice_card h.injOn]
  have hlt := h.nonempty
  rw [Bool.or_eq_true, decide_eq_true_eq, decide_eq_true_eq, Nat.cast_sub hlt.le]
  rfl

theorem subdivide_outcome (hloop : LoopOutcome dat loop) (h : f.Sound dat) (hnode : node + 3 ≤ tree.length)
    (hr : subdivide dat loop f tree node = .ok (tree', indices')) : Outcome dat f tree node tree' indices' := by
  unfold subdivide at hr
  split at hr
  · next hsmall =>
    cases hr
    refine ⟨0, wrote_leaf hnode le_rfl .refl, Or.inl ⟨fun k' => settles_leaf_iff (h.small_iff.1 hsmall), ?_⟩⟩
    exact .leaf h.nonempty (createNode_word hnode) (createNode_count hnode)
  · next hsmall => exact hloop f tree node tree' indices' h (fun hl => hsmall (h.small_iff.2 hl)) hnode hr

theorem Outcome.again (hfollows : f.Follows next) (hdepth : next.depth = f.depth)
    (hsettles : ∀ k, Settles dat f.part k ↔ Settles dat next.part k)
    (h : Outcome dat next tree node tree' indices') : Outcome dat f tree node tree' indices' := by
  obtain ⟨k, hw, hk⟩ := h
  rw [hfollows.left, hfollows.stop, hdepth] at hk
  have hshuffles := hw.shuffles
  have hheld := hw.held
  rw [hfollows.left, hfollows.stop] at hshuffles hheld
  refine ⟨k, ⟨hfollows.shuffles.trans hshuffles, hw.length, hw.old, hheld⟩, ?_⟩
  simp only [hsettles]
  exact hk

/-- The boxes of the range are the ones of the part, however the call has permuted them. -/
theorem Wrote.slice_eq {indices : ℕ → Fin n} {left stop k : ℕ}
    (h : Wrote left stop indices tree node tree' indices' k) : slice indices' left stop = slice indices left stop :=
  h.shuffles.slice_eq

theorem Outcome.clips (hfollows : f.Follows next) (hpart : next.part = f.part.shrunk dat)
    (hsettles : ∀ k, Settles dat f.part k ↔ ∃ m, k = m + 1 ∧ Settles dat next.part m) (hnode : node + 3 ≤ tree.length)
    (h : Outcome dat next (writeNode (allocate tree) node (bvh2Word f.part.axis tree.length) (f.part.nodeL dat)
      (f.part.nodeR dat)) tree.length tree' indices') : Outcome dat f tree node tree' indices' := by
  obtain ⟨k, hw, hk⟩ := h
  obtain ⟨h0, h1, h2⟩ := hw.cells hnode (by simp) rfl
  have hdepth : next.depth = f.depth + 1 := congrArg Part.depth hpart
  have hprims := hw.slice_eq.trans hfollows.prims
  rw [hfollows.left, hfollows.stop] at hk hw hprims
  obtain ⟨hw', htotal⟩ := hw.chain hnode
  refine ⟨k + 1, ⟨hfollows.shuffles.trans hw'.shuffles, hw'.length, hw'.old, hw'.held⟩, ?_⟩
  rw [htotal]
  simp only [length_writeNode, length_allocate] at hk
  refine hk.imp (fun ⟨hset, hshape⟩ => ⟨fun k' => ?_, .clip h0 h1 h2 (fun i hi => ?_) ?_ hshape⟩)
    fun ⟨hset, hlost⟩ => ⟨fun k' hk' => ?_, hlost⟩
  · rw [hsettles]
    simp [hset]
  · rw [hprims] at hi
    exact ⟨Frame.nodeL_le hi, Frame.le_nodeR hi⟩
  · omega
  · obtain ⟨m, -, hm⟩ := (hsettles k').1 hk'
    exact hset m hm

theorem splitNode_outcome (hloop : LoopOutcome dat loop) (h : f.Sound dat) (hnode : node + 3 ≤ tree.length)
    {depth : ℕ} (hdepth : depth + 1 = f.part.childDepth) (hfdepth : f.depth < maxStackSize) (hcuts : f.Cuts dat s)
    (hr : splitNode dat loop f f.part.axis f.part.split s depth tree node = .ok (tree', indices')) :
    ∃ k m, Wrote f.left f.stop f.indices tree node tree' indices' (k + m + 2) ∧
      (((∀ k', Settles dat (f.part.leftPart dat) k' ↔ k' = k) ∧ (∀ k', Settles dat (f.part.rightPart dat) k' ↔ k' = m) ∧
          Shape dat indices' tree' node tree.length (k + m + 2) f.left f.stop (maxStackSize - f.depth)) ∨
        (((∀ k', ¬ Settles dat (f.part.leftPart dat) k') ∨ ∀ k', ¬ Settles dat (f.part.rightPart dat) k') ∧
          total (leafCount tree') node tree.length (k + m + 2) < f.stop - f.left)) := by
  have hlt := hcuts.lt
  have hgt := hcuts.gt
  have hnl : 0 < s.stop - f.left := by omega
  have hnr : 0 < f.stop - s.stop := by omega
  have hsix : tree.length + 3 + 3 = tree.length + 6 := rfl
  unfold splitNode at hr
  dsimp only at hr
  simp only [hnl, hnr, if_true] at hr
  split at hr
  · cases hr
  next tree₂ indices₁ hl =>
  obtain ⟨k, hwl, hkl⟩ := subdivide_outcome hloop (hcuts.leftFrame_sound h) (by simp) hl
  change Wrote f.left s.stop s.indices _ _ _ _ _ at hwl
  have hlength₂ := hwl.length
  simp only [length_writeNode, length_allocate, hsix] at hlength₂
  obtain ⟨m, hwr, hkr⟩ := subdivide_outcome hloop (hcuts.rightFrame_sound h hwl.shuffles) (by omega) hr
  change Wrote s.stop f.stop indices₁ _ _ _ _ _ at hwr
  obtain ⟨hw, htotal⟩ := hwl.split hwr hnode hlt.le hgt.le
  refine ⟨k, m, ⟨hcuts.shuffles.trans hw.shuffles, hw.length, hw.old, hw.held⟩, ?_⟩
  have hheldl := hwl.held
  have hheldr := hwr.held
  have hindices : ∀ j, f.left ≤ j → j < s.stop → indices' j = indices₁ j :=
    fun j _ hj => hwr.shuffles.outside (by omega)
  rw [hcuts.leftFrame_part hdepth] at hkl
  rw [hcuts.rightFrame_part hwl.shuffles hdepth] at hkr
  change _ ∨ _ ∧ total _ _ _ _ < s.stop - f.left at hkl
  change _ ∨ _ ∧ total _ _ _ _ < f.stop - s.stop at hkr
  simp only [length_writeNode, length_allocate, hsix] at hkl hheldl
  rw [hlength₂] at hkr hheldr
  change total _ _ _ _ ≤ s.stop - f.left at hheldl
  change total _ _ _ _ ≤ f.stop - s.stop at hheldr
  rcases hkl with ⟨hsetl, hshapel⟩ | ⟨hsetl, hlost⟩
  · rcases hkr with ⟨hsetr, hshaper⟩ | ⟨hsetr, hlost⟩
    · refine Or.inl ⟨hsetl, hsetr, ?_⟩
      obtain ⟨h0, h1, h2⟩ := hwl.cells hnode (by simp; omega) rfl
      have hkeep : ∀ c, c < tree.length + 6 + 3 * k → (c < tree.length + 3 ∨ tree.length + 6 ≤ c) →
          tree'[c]? = tree₂[c]? := fun c hc hout => hwr.old c (by omega) (by omega)
      refine .split (by rw [hkeep _ (by omega) (by omega), h0]) (by rw [hkeep _ (by omega) (by omega), h1])
        (by rw [hkeep _ (by omega) (by omega), h2]) ⟨hlt.le, hgt.le⟩
        (show maxStackSize - (depth + 1) < maxStackSize - f.depth from ?_) ?_ ?_
        (hshapel.congr (fun c _ _ => hkeep c (by omega) (by omega)) (fun c _ _ => hkeep c (by omega) (by omega))
          hindices) hshaper
      · have hge : f.depth < depth + 1 := by
          rw [hdepth]
          unfold Part.childDepth
          show f.depth < f.depth + _ + 1
          omega
        omega
      · intro i hi
        rw [slice_congr hindices, hwl.shuffles.slice_eq, hcuts.left] at hi
        exact hcuts.clipL ▸ Frame.le_clipL hi
      · intro i hi
        rw [hwr.shuffles.slice_eq, hcuts.right_eq hwl.shuffles] at hi
        exact hcuts.clipR ▸ Frame.clipR_le hi
    · refine Or.inr ⟨Or.inr hsetr, ?_⟩
      omega
  · refine Or.inr ⟨Or.inl hsetl, ?_⟩
    omega

theorem split_settles {k m : ℕ} (hleaf : ¬ f.part.IsLeaf dat) (hempty : ¬ f.part.HasEmptySpace dat)
    (hcuts : f.Cuts dat s) (hk : ∀ k', Settles dat (f.part.leftPart dat) k' ↔ k' = k)
    (hm : ∀ k', Settles dat (f.part.rightPart dat) k' ↔ k' = m) (k' : ℕ) :
    Settles dat f.part k' ↔ k' = k + m + 2 + f.part.postponed.toNat := by
  rw [settles_split_iff hleaf hempty hcuts.rights_ne hcuts.lefts_ne]
  simp [hk, hm]

theorem split_not_settles (hleaf : ¬ f.part.IsLeaf dat) (hempty : ¬ f.part.HasEmptySpace dat) (hcuts : f.Cuts dat s)
    (hnot : (∀ k', ¬ Settles dat (f.part.leftPart dat) k') ∨ ∀ k', ¬ Settles dat (f.part.rightPart dat) k')
    (k' : ℕ) : ¬ Settles dat f.part k' := by
  rw [settles_split_iff hleaf hempty hcuts.rights_ne hcuts.lefts_ne]
  rintro ⟨a, b, -, ha, hb⟩
  rcases hnot with hnot | hnot
  · exact hnot a ha
  · exact hnot b hb

theorem writeSplit_outcome (hloop : LoopOutcome dat loop) (h : f.Sound dat) (hleaf : ¬ f.part.IsLeaf dat)
    (hnode : node + 3 ≤ tree.length) (hempty : ¬ f.part.HasEmptySpace dat) (hcuts : f.Cuts dat s)
    (hr : writeSplit dat loop f f.part.axis f.part.split s tree node = .ok (tree', indices')) :
    Outcome dat f tree node tree' indices' := by
  have hdepth : f.depth < maxStackSize := not_le.1 fun hge => hleaf (Or.inr hge)
  unfold writeSplit Frame.postpone at hr
  cases hclip : f.prevClip with
  | none =>
    have hpost : f.part.postponed = false := by
      show f.prevClip.isSome = false
      rw [hclip]
      rfl
    have hchild : f.depth + 1 = f.part.childDepth := by
      unfold Part.childDepth
      rw [hpost]
      rfl
    rw [hclip] at hr
    split at hr
    next tree₀ node₀ depth heq =>
    have heq' : tree₀ = tree ∧ node₀ = node ∧ depth = f.depth := by
      split at heq
      · next h' => cases h'
      · cases heq
        exact ⟨rfl, rfl, rfl⟩
    obtain ⟨rfl, rfl, rfl⟩ := heq'
    obtain ⟨k, m, hw, hkm⟩ := splitNode_outcome hloop h hnode hchild hdepth hcuts hr
    refine ⟨k + m + 2, hw, hkm.imp (fun ⟨hk, hm, hshape⟩ => ⟨?_, hshape⟩)
      fun ⟨hnot, hlost⟩ => ⟨split_not_settles hleaf hempty hcuts hnot, hlost⟩⟩
    have hset := split_settles hleaf hempty hcuts hk hm
    rwa [hpost] at hset
  | some c =>
    have hpost : f.part.postponed = true := by
      show f.prevClip.isSome = true
      rw [hclip]
      rfl
    have hchild : f.depth + 1 + 1 = f.part.childDepth := by
      unfold Part.childDepth
      rw [hpost]
      rfl
    obtain ⟨a, sp, hprev, hbox⟩ := h.clip c hclip
    rw [hclip, hprev] at hr
    dsimp only at hr
    by_cases hwas : f.wasLeft = true
    · rw [if_pos hwas] at hr
      simp only [hwas, if_true] at hbox
      obtain ⟨k, m, hw, hkm⟩ := splitNode_outcome hloop h (by simp) hchild hdepth hcuts hr
      obtain ⟨h0, h1, h2⟩ := hw.cells hnode (by simp) rfl
      obtain ⟨hw', htotal⟩ := hw.chain hnode
      refine ⟨k + m + 2 + 1, hw', ?_⟩
      rw [htotal]
      simp only [length_writeNode, length_allocate] at hkm
      refine hkm.imp (fun ⟨hk, hm, hshape⟩ => ⟨?_, .lower h0 h1 h2 (fun i hi => ?_) hshape⟩)
        fun ⟨hnot, hlost⟩ => ⟨split_not_settles hleaf hempty hcuts hnot, hlost⟩
      · have hset := split_settles hleaf hempty hcuts hk hm
        rwa [hpost] at hset
      · rw [hw.slice_eq] at hi
        exact hbox i hi
    · rw [if_neg hwas] at hr
      simp only [hwas] at hbox
      obtain ⟨k, m, hw, hkm⟩ := splitNode_outcome hloop h (by simp) hchild hdepth hcuts hr
      obtain ⟨h0, h1, h2⟩ := hw.cells hnode (by simp) rfl
      obtain ⟨hw', htotal⟩ := hw.chain hnode
      refine ⟨k + m + 2 + 1, hw', ?_⟩
      rw [htotal]
      simp only [length_writeNode, length_allocate] at hkm
      refine hkm.imp (fun ⟨hk, hm, hshape⟩ => ⟨?_, .upper h0 h1 h2 (by omega) (fun i hi => ?_) hshape⟩)
        fun ⟨hnot, hlost⟩ => ⟨split_not_settles hleaf hempty hcuts hnot, hlost⟩
      · have hset := split_settles hleaf hempty hcuts hk hm
        rwa [hpost] at hset
      · rw [hw.slice_eq] at hi
        simpa using hbox i hi

theorem outcome_lost (h : f.Sound dat) (hnot : ∀ k, ¬ Settles dat f.part k) (hnode : node + 3 ≤ tree.length)
    (hshuffles : Shuffles f.left f.stop f.indices indices') :
    Outcome dat f tree node (createNode tree node f.left f.left) indices' := by
  refine ⟨0, wrote_leaf hnode h.nonempty.le hshuffles, Or.inr ⟨hnot, ?_⟩⟩
  have hlt := h.nonempty
  have hzero : leafCount (createNode tree node f.left f.left) node ≤ f.left - f.left :=
    leafCount_leaf (createNode_count hnode)
  rw [total_zero]
  omega

end Outcomes

/-- **What a loop comes to when it returns.** -/
theorem loop_outcome (fuel : ℕ) : LoopOutcome dat (loop dat fuel) := by
  induction fuel with
  | zero =>
    intro f tree node tree' indices' _ _ _ hr
    cases hr
  | succ fuel ih =>
    intro f tree node tree' indices' h hleaf hnode hr
    have hp := Frame.pass_spec h
    unfold loop at hr
    generalize f.pass dat = r at hp hr
    cases hp with
    | clips hempty hnext hpart hfollows =>
      refine Outcome.clips hfollows hpart (fun k => ?_) hnode (subdivide_outcome ih hnext (by simp) hr)
      rw [hpart]
      exact settles_shrink_iff hleaf hempty
    | stuck hempty hright hstuck hshuffles =>
      cases hr
      refine ⟨0, wrote_leaf hnode le_rfl hshuffles, Or.inl ⟨fun k' => settles_stuck_iff hleaf hempty hright hstuck, ?_⟩⟩
      exact .leaf h.nonempty (createNode_word hnode) (createNode_count hnode)
    | lost hempty hright hleft hstuck hshuffles =>
      cases hr
      exact outcome_lost h (fun k => not_settles_stuck hleaf hempty hright hleft hstuck) hnode hshuffles
    | lower hempty hright hstuck hnext hpart hfollows =>
      refine .again hfollows (congrArg Part.depth hpart) (fun k => ?_) (ih _ _ _ _ _ hnext ?_ hnode hr)
      · rw [hpart]
        exact settles_lower_iff hleaf hempty hright hstuck
      · rw [hpart]
        exact hleaf
    | upper hempty hright hleft hstuck hnext hpart hfollows =>
      refine .again hfollows (congrArg Part.depth hpart) (fun k => ?_) (ih _ _ _ _ _ hnext ?_ hnode hr)
      · rw [hpart]
        exact settles_upper_iff hleaf hempty hright hleft hstuck
      · rw [hpart]
        exact hleaf
    | splits hempty hcuts => exact writeSplit_outcome ih h hleaf hnode hempty hcuts hr

/-! ## Fuel -/

/-- One loop returns whatever the other does. -/
def LoopLe (l l' : Frame n → List Cell → ℕ → Built n) : Prop :=
  ∀ f tree node r, l f tree node = .ok r → l' f tree node = .ok r

section Fuel

variable {l l' : Frame n → List Cell → ℕ → Built n} {f : Frame n} {tree : List Cell} {node : ℕ}
  {r : List Cell × (ℕ → Fin n)}

theorem LoopLe.subdivide (h : LoopLe l l') (hr : subdivide dat l f tree node = .ok r) :
    subdivide dat l' f tree node = .ok r := by
  unfold Bih.subdivide at hr ⊢
  split at hr
  · next hsmall => rw [if_pos hsmall, hr]
  · next hsmall => rw [if_neg hsmall, h _ _ _ _ hr]

theorem LoopLe.splitNode {axis : Fin 3} {split : ℚ} {s : Partition n} {depth : ℕ} (h : LoopLe l l')
    (hr : splitNode dat l f axis split s depth tree node = .ok r) :
    splitNode dat l' f axis split s depth tree node = .ok r := by
  unfold Bih.splitNode at hr ⊢
  dsimp only at hr ⊢
  by_cases hnl : 0 < s.stop - f.left
  · simp only [hnl, if_true] at hr ⊢
    split at hr
    · cases hr
    · next heq =>
      rw [h.subdivide heq]
      dsimp only
      split at hr
      · next hnr => rw [if_pos hnr, h.subdivide hr]
      · next hnr => rw [if_neg hnr, hr]
  · by_cases hnr : 0 < f.stop - s.stop
    · simp only [hnl, hnr, if_true, if_false] at hr ⊢
      exact h.subdivide hr
    · simp only [hnl, hnr, if_false] at hr ⊢
      exact hr

theorem loop_le_succ (fuel : ℕ) : LoopLe (loop dat fuel) (loop dat (fuel + 1)) := by
  induction fuel with
  | zero =>
    intro f tree node r hr
    cases hr
  | succ fuel ih =>
    intro f tree node r hr
    unfold loop at hr ⊢
    generalize f.pass dat = p at hr ⊢
    cases p with
    | throws => exact hr
    | clips axis nodeL nodeR next => exact ih.subdivide hr
    | leaf stop indices => exact hr
    | again next => exact ih _ _ _ _ hr
    | splits axis split s => exact ih.splitNode hr

theorem loop_le {a b : ℕ} (h : a ≤ b) : LoopLe (loop dat a) (loop dat b) := by
  induction h with
  | refl => exact fun _ _ _ _ hr => hr
  | step _ ih => exact fun f tree node r hr => loop_le_succ _ f tree node r (ih f tree node r hr)

end Fuel

/-! ## Parts that settle -/

/-- A call of a frame returns, in any tree. -/
def Returns (dat : BuildData n) (f : Frame n) : Prop :=
  ∀ tree node, node + 3 ≤ tree.length → ∃ fuel r, subdivide dat (loop dat fuel) f tree node = .ok r

section Returning

variable {f : Frame n} {s : Partition n} {tree : List Cell} {node depth : ℕ}

theorem subdivide_loop (h : f.Sound dat) (hleaf : ¬ f.part.IsLeaf dat) (l : Frame n → List Cell → ℕ → Built n) :
    subdivide dat l f tree node = l f tree node := by
  unfold subdivide
  exact if_neg fun hsmall => hleaf (h.small_iff.1 hsmall)

theorem splitNode_returns (hcuts : f.Cuts dat s) (h : f.Sound dat)
    (hl : Returns dat (f.leftFrame f.part.axis f.part.split s depth))
    (hr : ∀ indices, Shuffles f.left s.stop s.indices indices →
      Returns dat (f.rightFrame f.part.axis f.part.split s indices depth)) :
    ∃ fuel r, splitNode dat (loop dat fuel) f f.part.axis f.part.split s depth tree node = .ok r := by
  have hlt := hcuts.lt
  have hgt := hcuts.gt
  have hnl : 0 < s.stop - f.left := by omega
  have hnr : 0 < f.stop - s.stop := by omega
  obtain ⟨a, ⟨tree₂, indices₁⟩, ha⟩ := hl
    (writeNode (allocate (allocate tree)) node (innerWord f.part.axis tree.length) s.clipL s.clipR) tree.length
    (by simp)
  obtain ⟨k, hw, -⟩ := subdivide_outcome (loop_outcome a) (hcuts.leftFrame_sound h) (by simp) ha
  have hlength := hw.length
  simp only [length_writeNode, length_allocate] at hlength
  obtain ⟨b, r, hb⟩ := hr indices₁ hw.shuffles tree₂ (tree.length + 3) (by omega)
  refine ⟨max a b, r, ?_⟩
  unfold splitNode
  dsimp only
  simp only [hnl, hnr, if_true]
  rw [(loop_le (le_max_left a b)).subdivide ha]
  exact (loop_le (le_max_right a b)).subdivide hb

theorem again_returns {next : Frame n} (h : f.Sound dat) (hleaf : ¬ f.part.IsLeaf dat)
    (hpass : f.pass dat = .again next) (hnext : next.Sound dat) (hleaf' : ¬ next.part.IsLeaf dat)
    (hr : Returns dat next) : Returns dat f := by
  intro tree node hnode
  obtain ⟨fuel, r, hr⟩ := hr tree node hnode
  refine ⟨fuel + 1, r, ?_⟩
  rw [subdivide_loop hnext hleaf'] at hr
  rw [subdivide_loop h hleaf]
  unfold loop
  rw [hpass]
  exact hr

theorem split_returns (h : f.Sound dat) (hleaf : ¬ f.part.IsLeaf dat)
    (hpass : f.pass dat = .splits f.part.axis f.part.split s) (hcuts : f.Cuts dat s)
    (hl : ∀ g : Frame n, g.part = f.part.leftPart dat → g.Sound dat → Returns dat g)
    (hr : ∀ g : Frame n, g.part = f.part.rightPart dat → g.Sound dat → Returns dat g) : Returns dat f := by
  intro tree node _
  have hsplit : ∃ fuel r, writeSplit dat (loop dat fuel) f f.part.axis f.part.split s tree node = .ok r := by
    unfold writeSplit
    have hdepth : (f.postpone tree node).2.2 + 1 = f.part.childDepth := by
      unfold Frame.postpone Part.childDepth
      show _ = f.depth + (f.prevClip.isSome).toNat + 1
      cases hclip : f.prevClip with
      | none =>
        split
        · next h' => cases h'
        · rfl
      | some c =>
        obtain ⟨a, sp, hprev, -⟩ := h.clip c hclip
        rw [hprev]
        dsimp only
        split <;> rfl
    generalize f.postpone tree node = x at hdepth
    obtain ⟨tree₀, node₀, depth⟩ := x
    refine splitNode_returns hcuts h (hl _ (hcuts.leftFrame_part hdepth) (hcuts.leftFrame_sound h)) ?_
    intro indices hshuffles
    exact hr _ (hcuts.rightFrame_part hshuffles hdepth) (hcuts.rightFrame_sound h hshuffles)
  obtain ⟨fuel, r, hsplit⟩ := hsplit
  refine ⟨fuel + 1, r, ?_⟩
  rw [subdivide_loop h hleaf]
  unfold loop
  rw [hpass]
  exact hsplit

end Returning

/-- **A part that settles makes its call return.** -/
theorem Settles.returns {p : Part n} {k : ℕ} (h : Settles dat p k) :
    ∀ f : Frame n, f.part = p → f.Sound dat → Returns dat f := by
  induction h with
  | leaf hleaf =>
    rintro f rfl hf tree node _
    refine ⟨0, (createNode tree node f.left f.stop, f.indices), ?_⟩
    unfold subdivide
    exact if_pos (hf.small_iff.2 hleaf)
  | shrink hleaf hempty _ ih =>
    rintro f rfl hf tree node hnode
    have hp := Frame.pass_spec hf
    generalize hpass : f.pass dat = r at hp
    cases hp with
    | clips _ hnext hpart _ =>
      obtain ⟨fuel, r, hr⟩ := ih _ hpart hnext
        (writeNode (allocate tree) node (bvh2Word f.part.axis tree.length) (f.part.nodeL dat) (f.part.nodeR dat))
        tree.length (by simp)
      refine ⟨fuel + 1, r, ?_⟩
      rw [subdivide_loop hf hleaf]
      unfold loop
      rw [hpass]
      exact hr
    | _ => contradiction
  | stuck hleaf hempty hright hstuck =>
    rintro f rfl hf tree node _
    have hp := Frame.pass_spec hf
    generalize hpass : f.pass dat = r at hp
    cases hp with
    | @stuck indices =>
      refine ⟨1, (createNode tree node f.left f.stop, indices), ?_⟩
      rw [subdivide_loop hf hleaf]
      unfold loop
      rw [hpass]
    | splits _ hcuts => exact absurd hright hcuts.rights_ne
    | _ => contradiction
  | lower hleaf hempty hright hstuck _ ih =>
    rintro f rfl hf
    have hp := Frame.pass_spec hf
    generalize hpass : f.pass dat = r at hp
    cases hp with
    | lower _ _ _ hnext hpart _ =>
      exact again_returns hf hleaf hpass hnext (by rw [hpart]; exact hleaf) (ih _ hpart hnext)
    | splits _ hcuts => exact absurd hright hcuts.rights_ne
    | _ => contradiction
  | upper hleaf hempty hright hleft hstuck _ ih =>
    rintro f rfl hf
    have hp := Frame.pass_spec hf
    generalize hpass : f.pass dat = r at hp
    cases hp with
    | upper _ _ _ _ hnext hpart _ =>
      exact again_returns hf hleaf hpass hnext (by rw [hpart]; exact hleaf) (ih _ hpart hnext)
    | splits _ hcuts => exact absurd hleft hcuts.lefts_ne
    | _ => contradiction
  | split hleaf hempty hright hleft _ _ ihl ihr =>
    rintro f rfl hf
    have hp := Frame.pass_spec hf
    generalize hpass : f.pass dat = r at hp
    cases hp with
    | splits _ hcuts => exact split_returns hf hleaf hpass hcuts ihl ihr
    | _ => contradiction

end BlizzLike.Bih
