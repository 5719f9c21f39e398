import BlizzLikeCore.Collision.BuildTurns

/-!
# Boxes that settle

The boxes settle when a leaf has room for as many boxes as share a centre and `fuzzyEq` takes no two
numbers for equal: two centres that differ by `δ` on an axis keep the longest side of the grid box at `δ` or
more, and each turn of the loop halves that side.

    settles_of_centres : by induction over the depth that is left, and in it over the halvings that are left
-/

namespace BlizzLike.Bih

variable {n : ℕ} {dat : BuildData n}

theorem abs_le_primaryAxis (v : Vector3) (a : Fin 3) : |v a| ≤ |v (primaryAxis v)| := by
  unfold primaryAxis
  split
  all_goals split
  all_goals fin_cases a <;> simp <;> order

/-- How often a side can be halved before it is shorter than `δ`. -/
def halvings (δ e : ℚ) : ℕ := if e < δ then 0 else Nat.log 2 ⌊e / δ⌋₊ + 1

theorem halvings_half {δ e : ℚ} (hδ : 0 < δ) (he : δ ≤ e) : halvings δ (e / 2) < halvings δ e := by
  unfold halvings
  rw [if_neg (not_lt.2 he)]
  split
  · exact Nat.succ_pos _
  next hhalf =>
  have hfloor : ⌊e / 2 / δ⌋₊ = ⌊e / δ⌋₊ / 2 := by
    rw [div_right_comm]
    exact_mod_cast Nat.floor_div_natCast (e / δ) 2
  have htwo : 2 ≤ ⌊e / δ⌋₊ := by
    refine Nat.le_floor ?_
    rw [le_div_iff₀ hδ]
    push_cast
    linarith
  rw [hfloor, Nat.log_div_base]
  have hpos := Nat.log_pos (by decide : 1 < 2) htwo
  omega

/-- A part as the calls leave it: the grid box holds the centres, and a side that was halved ends at the split. -/
structure Part.Fitting (dat : BuildData n) (p : Part n) : Prop where
  nonempty : p.prims.Nonempty
  grid : ∀ i ∈ p.prims, ∀ a, p.gridBox.lo a ≤ dat.center i a ∧ dat.center i a ≤ p.gridBox.hi a
  previous : ∀ a s, p.previous = some (a, s) → p.gridBox.lo a = s ∨ p.gridBox.hi a = s

namespace Part.Fitting

variable {p : Part n}

theorem extent_nonneg (h : p.Fitting dat) (a : Fin 3) : 0 ≤ p.gridBox.hi a - p.gridBox.lo a := by
  obtain ⟨i, hi⟩ := h.nonempty
  obtain ⟨hlo, hhi⟩ := h.grid i hi a
  linarith

theorem apart_le (h : p.Fitting dat) {i j : Fin n} (hi : i ∈ p.prims) (hj : j ∈ p.prims) (a : Fin 3) :
    dat.center i a - dat.center j a ≤ p.gridBox.hi p.axis - p.gridBox.lo p.axis := by
  have hlong := abs_le_primaryAxis (fun a => p.gridBox.hi a - p.gridBox.lo a) a
  change |p.gridBox.hi a - p.gridBox.lo a| ≤ |p.gridBox.hi p.axis - p.gridBox.lo p.axis| at hlong
  rw [abs_of_nonneg (h.extent_nonneg _), abs_of_nonneg (h.extent_nonneg _)] at hlong
  have h₁ := (h.grid i hi a).2
  have h₂ := (h.grid j hj a).1
  linarith

theorem not_stuck (h : p.Fitting dat) (hfuzzy : ∀ x y, dat.fuzzyEq x y = true → x = y)
    (hlong : 0 < p.gridBox.hi p.axis - p.gridBox.lo p.axis) : ¬ p.IsStuck dat := by
  rintro ⟨s, hprev, heq⟩
  have hs : s = p.split := hfuzzy _ _ heq
  unfold Part.split at hs
  rcases h.previous _ _ hprev with hside | hside <;> linarith

theorem shrunk (h : p.Fitting dat) : (p.shrunk dat).Fitting dat :=
  ⟨h.nonempty, h.grid, fun _ _ hprev => by cases hprev⟩

theorem leftPart (h : p.Fitting dat) (hleft : p.lefts dat ≠ ∅) : (p.leftPart dat).Fitting dat := by
  refine ⟨Finset.nonempty_iff_ne_empty.2 hleft, fun i hi => ?_, fun _ _ hprev => by cases hprev⟩
  have hmem := Finset.mem_filter.1 hi
  exact Frame.setHi_grid hmem.2 (h.grid i hmem.1)

theorem rightPart (h : p.Fitting dat) (hright : p.rights dat ≠ ∅) : (p.rightPart dat).Fitting dat := by
  refine ⟨Finset.nonempty_iff_ne_empty.2 hright, fun i hi => ?_, fun _ _ hprev => by cases hprev⟩
  have hmem := Finset.mem_filter.1 hi
  exact Frame.setLo_grid (not_le.1 hmem.2).le (h.grid i hmem.1)

theorem lowerHalf (h : p.Fitting dat) (hright : p.rights dat = ∅) : (p.lowerHalf dat).Fitting dat := by
  refine ⟨h.nonempty, fun i hi => ?_, fun a s hprev => ?_⟩
  · exact Frame.setHi_grid (Finset.mem_filter.1 (Frame.center_of_lefts hright hi)).2 (h.grid i hi)
  · cases hprev
    exact Or.inr (Function.update_self _ _ _)

theorem upperHalf (h : p.Fitting dat) (hleft : p.lefts dat = ∅) : (p.upperHalf dat).Fitting dat := by
  refine ⟨h.nonempty, fun i hi => ?_, fun a s hprev => ?_⟩
  · exact Frame.setLo_grid (not_le.1 (Finset.mem_filter.1 (Frame.center_of_rights hleft hi)).2).le (h.grid i hi)
  · cases hprev
    exact Or.inl (Function.update_self _ _ _)

end Part.Fitting

/-- The halvings that are left of the three sides. -/
def Part.turns (δ : ℚ) (p : Part n) : ℕ := ∑ a, halvings δ (p.gridBox.hi a - p.gridBox.lo a)

theorem turns_lt {δ : ℚ} {p q : Part n} (hδ : 0 < δ) (hlong : δ ≤ p.gridBox.hi p.axis - p.gridBox.lo p.axis)
    (haxis : q.gridBox.hi p.axis - q.gridBox.lo p.axis = (p.gridBox.hi p.axis - p.gridBox.lo p.axis) / 2)
    (hother : ∀ a, a ≠ p.axis → q.gridBox.hi a - q.gridBox.lo a = p.gridBox.hi a - p.gridBox.lo a) :
    q.turns δ < p.turns δ := by
  unfold Part.turns
  refine Finset.sum_lt_sum (fun a _ => ?_) ⟨p.axis, Finset.mem_univ _, ?_⟩
  · by_cases ha : a = p.axis
    · rw [ha, haxis]
      exact (halvings_half hδ hlong).le
    · rw [hother a ha]
  · rw [haxis]
    exact halvings_half hδ hlong

theorem lowerHalf_turns {δ : ℚ} {p : Part n} (hδ : 0 < δ)
    (hlong : δ ≤ p.gridBox.hi p.axis - p.gridBox.lo p.axis) : (p.lowerHalf dat).turns δ < p.turns δ := by
  refine turns_lt hδ hlong ?_ fun a ha => ?_
  · show Function.update p.gridBox.hi p.axis p.split p.axis - p.gridBox.lo p.axis = _
    rw [Function.update_self]
    unfold Part.split
    ring
  · show Function.update p.gridBox.hi p.axis p.split a - p.gridBox.lo a = _
    rw [Function.update_of_ne ha]

theorem upperHalf_turns {δ : ℚ} {p : Part n} (hδ : 0 < δ)
    (hlong : δ ≤ p.gridBox.hi p.axis - p.gridBox.lo p.axis) : (p.upperHalf dat).turns δ < p.turns δ := by
  refine turns_lt hδ hlong ?_ fun a ha => ?_
  · show p.gridBox.hi p.axis - Function.update p.gridBox.lo p.axis p.split p.axis = _
    rw [Function.update_self]
    unfold Part.split
    ring
  · show p.gridBox.hi a - Function.update p.gridBox.lo p.axis p.split a = _
    rw [Function.update_of_ne ha]

theorem exists_apart {p : Part n}
    (hcenters : ∀ c : Vector3, ((Finset.univ.filter fun i => dat.center i = c).card : ℤ) ≤ dat.maxPrims) (hne : p.prims.Nonempty) (hleaf : ¬ p.IsLeaf dat) :
    ∃ i ∈ p.prims, ∃ j ∈ p.prims, ∃ a, dat.center j a < dat.center i a := by
  obtain ⟨i, hi⟩ := hne
  by_contra hnone
  push Not at hnone
  refine hleaf (Or.inl (le_trans ?_ (hcenters (dat.center i))))
  refine Int.ofNat_le.2 (Finset.card_le_card fun j hj => Finset.mem_filter.2 ⟨Finset.mem_univ _, ?_⟩)
  funext a
  exact le_antisymm (hnone j hj i hi a) (hnone i hi j hj a)

/-- The loop of a part that is no leaf comes to an end, when the calls below it do. -/
theorem loop_settles (hfuzzy : ∀ x y, dat.fuzzyEq x y = true → x = y) {i j : Fin n} {a : Fin 3}
    (hapart : dat.center j a < dat.center i a) (t : ℕ) (p : Part n)
    (hturns : p.turns (dat.center i a - dat.center j a) < t) (h : p.Fitting dat) (hleaf : ¬ p.IsLeaf dat)
    (hi : i ∈ p.prims) (hj : j ∈ p.prims)
    (hchild : ∀ q : Part n, p.depth < q.depth → q.Fitting dat → ∃ k, Settles dat q k) : ∃ k, Settles dat p k := by
  induction t generalizing p with
  | zero => exact absurd hturns (Nat.not_lt_zero _)
  | succ t ih =>
    have hδ : 0 < dat.center i a - dat.center j a := sub_pos.2 hapart
    have hlong := h.apart_le hi hj a
    have hstuck := h.not_stuck hfuzzy (hδ.trans_le hlong)
    by_cases hempty : p.HasEmptySpace dat
    · obtain ⟨k, hk⟩ := hchild _ (Nat.lt_succ_self _) h.shrunk
      exact ⟨k + 1, .shrink hleaf hempty hk⟩
    by_cases hright : p.rights dat = ∅
    · have hlt : (p.lowerHalf dat).turns _ < p.turns _ := lowerHalf_turns hδ hlong
      obtain ⟨k, hk⟩ := ih _ (by omega) (h.lowerHalf hright) hleaf hi hj hchild
      exact ⟨k, .lower hleaf hempty hright hstuck hk⟩
    by_cases hleft : p.lefts dat = ∅
    · have hlt : (p.upperHalf dat).turns _ < p.turns _ := upperHalf_turns hδ hlong
      obtain ⟨k, hk⟩ := ih _ (by omega) (h.upperHalf hleft) hleaf hi hj hchild
      exact ⟨k, .upper hleaf hempty hright hleft hstuck hk⟩
    have hdepth : p.depth < p.childDepth := by
      unfold Part.childDepth
      omega
    obtain ⟨k, hk⟩ := hchild _ hdepth (h.leftPart hleft)
    obtain ⟨m, hm⟩ := hchild _ hdepth (h.rightPart hright)
    exact ⟨_, .split hleaf hempty hright hleft hk hm⟩

/-- **Boxes that settle**: no more of them than a leaf holds share a centre, and `fuzzyEq` is equality. -/
theorem settles_of_centres (hfuzzy : ∀ x y, dat.fuzzyEq x y = true → x = y)
    (hcenters : ∀ c : Vector3, ((Finset.univ.filter fun i => dat.center i = c).card : ℤ) ≤ dat.maxPrims) (d : ℕ)
    (p : Part n) (hd : maxStackSize - p.depth ≤ d) (h : p.Fitting dat) : ∃ k, Settles dat p k := by
  induction d generalizing p with
  | zero => exact ⟨0, .leaf (Or.inr (by omega))⟩
  | succ d ih =>
    by_cases hleaf : p.IsLeaf dat
    · exact ⟨0, .leaf hleaf⟩
    obtain ⟨i, hi, j, hj, a, hapart⟩ := exists_apart hcenters h.nonempty hleaf
    exact loop_settles hfuzzy hapart _ p (Nat.lt_succ_self _) h hleaf hi hj fun q hq hfit => ih q (by omega) hfit

end BlizzLike.Bih
