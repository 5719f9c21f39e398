import BlizzLikeCore.Lib.StableSort
import BlizzLikeCore.Threat.Containers
import Mathlib.Data.Int.Order.Basic
import Mathlib.Data.List.TakeWhile
import Mathlib.Order.Basic
import Mathlib.Order.Lattice

/-!
# The choice of a victim

`getHostileTarget` sorts the online references by falling threat if the list is dirty, and takes the
first that the selection settles for.  A falling threat of a reference that is not the victim, a rising
one of the victim and a reference that comes online do not make the list dirty.

What of this does no harm: references that stand before the victim may be out of order if the greater
threat is at most 1.1 times the victim's, as the selection keeps the victim whichever of them it meets
first (`Harmless`).  In every reachable state the choice is the one from the list freshly sorted,
whatever the targets are like, just if the list is dirty or `Harmless` (`victim_sorted_iff`).

    pick              : the selection, of the references alone
    pick_meets        : where it stops at the first reference in reach
    pick_fresh        : no harm done, the choice is that from the sorted list
    harmless_of_picks : harm done, the targets can be such that the choices differ
-/

namespace BlizzLike.ThreatManager

/-! ## The selection of references -/

section
variable (second out : Nat → Bool) (keeps better : Nat → Nat → Bool)

/-- The loop of `selectNextVictim`, by what it asks of a reference and of two. -/
def pick : List Nat → Option Nat → Option Nat
  | [], _ => none
  | r :: rest, cur =>
    if !rest.isEmpty && second r then pick rest (if cur = some r then none else cur)
    else if !out r then
      match cur with
      | some c => if keeps c r then some c else if better c r then some r else pick rest cur
      | none => some r
    else pick rest cur

variable {second out : Nat → Bool} {keeps better : Nat → Nat → Bool}

theorem pick_cons (r : Nat) (rest : List Nat) (cur : Option Nat) :
    pick second out keeps better (r :: rest) cur =
      if !rest.isEmpty && second r then pick second out keeps better rest (if cur = some r then none else cur)
      else if !out r then
        match cur with
        | some c =>
          if keeps c r then some c else if better c r then some r else pick second out keeps better rest cur
        | none => some r
      else pick second out keeps better rest cur := by
  cases cur <;> rfl

theorem pick_congr {second' out' : Nat → Bool} {better' : Nat → Nat → Bool} {l : List Nat}
    (hs : ∀ r ∈ l, second r = second' r) (ho : ∀ r ∈ l, out r = out' r)
    (hb : ∀ c, ∀ r ∈ l, better c r = better' c r) (cur : Option Nat) :
    pick second out keeps better l cur = pick second' out' keeps better' l cur := by
  induction l generalizing cur with
  | nil => rfl
  | cons r rest ih =>
    have ih := ih (fun a ha => hs a (List.mem_cons_of_mem _ ha)) (fun a ha => ho a (List.mem_cons_of_mem _ ha))
      fun c a ha => hb c a (List.mem_cons_of_mem _ ha)
    rw [pick_cons, pick_cons, hs r List.mem_cons_self, ho r List.mem_cons_self, ih, ih]
    cases cur with
    | none => rfl
    | some c => simp only [hb c r List.mem_cons_self]

/-- The victim that is left after some references were passed by: a second choice is not compared with. -/
def passed (second : Nat → Bool) (a : List Nat) (cur : Option Nat) : Option Nat :=
  cur.filter fun c => !(a.contains c && second c)

theorem passed_cons {r : Nat} {a : List Nat} {cur : Option Nat} :
    passed second (r :: a) cur = passed second a (if second r = true ∧ cur = some r then none else cur) := by
  cases cur with
  | none => simp [passed]
  | some c =>
    by_cases hc : c = r
    · subst hc
      by_cases hs : second c = true
      · simp [passed, hs]
      · simp [passed, Option.filter_some, hs]
    · have hne : ¬(second r = true ∧ some c = some r) := fun h => hc (Option.some.inj h.2)
      rw [if_neg hne]
      simp [passed, Option.filter_some, hc]

theorem passed_first_choices {a : List Nat} {cur : Option Nat} (ha : ∀ r, second r = false) :
    passed second a cur = cur := by
  cases cur with
  | none => rfl
  | some c => simp [passed, Option.filter_some, ha]

theorem passed_other {a : List Nat} {c : Nat} (hc : c ∉ a) : passed second a (some c) = some c := by
  simp [passed, Option.filter_some, hc]

theorem passed_victim {a : List Nat} {c : Nat} (hc : c ∈ a) (hs : second c = true) :
    passed second a (some c) = none := by
  simp [passed, Option.filter_some, hc, hs]

theorem pick_passes {a b : List Nat} {cur : Option Nat} (hb : b ≠ [])
    (ha : ∀ r ∈ a, second r = true ∨ out r = true) :
    pick second out keeps better (a ++ b) cur = pick second out keeps better b (passed second a cur) := by
  induction a generalizing cur with
  | nil => cases cur <;> rfl
  | cons r a ih =>
    have ih : ∀ cur, pick second out keeps better (a ++ b) cur = pick second out keeps better b (passed second a cur) :=
      fun cur => ih fun x hx => ha x (List.mem_cons_of_mem _ hx)
    have hne : (a ++ b).isEmpty = false := by
      cases a with
      | nil => simpa using hb
      | cons x a => rfl
    rw [passed_cons, List.cons_append, pick_cons, hne]
    by_cases hs : second r = true
    · rw [if_pos (by simp [hs]), ih]
      simp only [hs, true_and]
    · rw [if_neg (by simp [hs]), if_neg (by simpa using (ha r List.mem_cons_self).resolve_left hs), ih,
        if_neg fun h => hs h.1]

/-- **The first reference in reach** is taken, unless the victim is kept for it. -/
theorem pick_meets {a b : List Nat} {r : Nat} {cur : Option Nat} (ha : ∀ x ∈ a, second x = true ∨ out x = true)
    (hs : second r = false) (hr : out r = false) (hb : ∀ c, keeps c r = false → better c r = true) :
    pick second out keeps better (a ++ r :: b) cur =
      match passed second a cur with
      | some c => if keeps c r then some c else some r
      | none => some r := by
  rw [pick_passes (List.cons_ne_nil r b) ha, pick_cons, hs, hr]
  cases passed second a cur with
  | none => simp
  | some c =>
    simp only [Bool.and_false, Bool.false_eq_true, if_false, Bool.not_false, if_true]
    split
    · rfl
    · next hk => rw [if_pos (hb c (by simpa using hk))]

theorem apart_of_nodup {a b d : List Nat} {x y : Nat} (h : (a ++ x :: (b ++ y :: d)).Nodup) :
    x ≠ y ∧ (∀ z ∈ a, z ≠ x ∧ z ≠ y) ∧ y ∉ a ++ x :: b ∧ x ∉ b ++ y :: d := by
  rw [List.nodup_append, List.nodup_cons, List.nodup_append, List.nodup_cons] at h
  obtain ⟨-, ⟨hx, -, -, hb⟩, ha⟩ := h
  have hxy : x ≠ y := fun he => hx (by rw [he]; simp)
  refine ⟨hxy, fun z hz => ⟨ha z hz x (by simp), ha z hz y (by simp)⟩, ?_, hx⟩
  intro hy
  rcases List.mem_append.1 hy with hy | hy
  · exact ha y hy y (by simp) rfl
  · rcases List.mem_cons.1 hy with hy | hy
    · exact hxy hy.symm
    · exact hb y hy y (by simp) rfl

/-- With two references in reach the selection comes to the first of them, if it is no second choice. -/
theorem pick_pair {a b d : List Nat} {x y : Nat} {cur : Option Nat} (h : (a ++ x :: (b ++ y :: d)).Nodup)
    (hs : second x = false) (hout : ∀ z, out z = decide (z ≠ x ∧ z ≠ y))
    (hb : ∀ c, keeps c x = false → better c x = true) :
    pick second out keeps better (a ++ x :: (b ++ y :: d)) cur =
      match passed second a cur with
      | some c => if keeps c x then some c else some x
      | none => some x :=
  pick_meets (fun z hz => .inr (by rw [hout, decide_eq_true_eq]; exact (apart_of_nodup h).2.1 z hz)) hs
    (by rw [hout]; simp) hb

/-! ## No harm done -/

theorem pick_front {h l k : List Nat} {c : Nat} (hc : c ∉ h) (hl : l ≠ []) (hk : k ≠ [])
    (heq : pick second out keeps better l (some c) = pick second out keeps better k (some c)) :
    pick second out keeps better (h ++ l) (some c) = pick second out keeps better (h ++ k) (some c) := by
  induction h with
  | nil => exact heq
  | cons r h ih =>
    have ih := ih fun hm => hc (List.mem_cons_of_mem _ hm)
    have hne : some c ≠ some r := fun he => hc (Option.some.inj he ▸ List.mem_cons_self)
    have hempty : ∀ {l : List Nat}, l ≠ [] → (h ++ l).isEmpty = false := by
      intro l hl
      cases h with
      | nil => simpa using hl
      | cons x h => rfl
    rw [List.cons_append, List.cons_append, pick_cons, pick_cons, hempty hl, hempty hk, if_neg hne, ih]

/-- Of references for which the victim is kept it matters only if one of them is in reach. -/
theorem pick_kept {l k : List Nat} {c : Nat} (hc : c ∉ l) (hk : ∀ r ∈ l, keeps c r = true) :
    pick second out keeps better (l ++ c :: k) (some c) =
      if l.any fun r => !second r && !out r then some c else pick second out keeps better (c :: k) (some c) := by
  induction l with
  | nil => rfl
  | cons r l ih =>
    have ih := ih (fun hm => hc (List.mem_cons_of_mem _ hm)) fun x hx => hk x (List.mem_cons_of_mem _ hx)
    have hne : some c ≠ some r := fun he => hc (Option.some.inj he ▸ List.mem_cons_self)
    have hempty : (l ++ c :: k).isEmpty = false := by cases l <;> rfl
    rw [List.cons_append, pick_cons, hempty, if_neg hne, ih]
    cases hs : second r <;> cases ho : out r <;> simp [hs, ho, hk r List.mem_cons_self]

end

/-! ## The list freshly sorted -/

section
variable {F : Type} (o : FloatOps F) (u : Surroundings F) (m : ThreatManager F)

/-- A target that others are preferred to. -/
def isSecondChoice (r : Nat) : Bool := (m.getTarget r).any fun t => u.isImmunedToDamage t || u.isConfused t

def isOutOfReach (r : Nat) : Bool := (m.getTarget r).any u.isOutOfThreatArea

/-- The victim is kept for this reference. -/
def keepsVictim (c r : Nat) : Bool :=
  decide (c = r) || o.le (m.getThreat o r) (o.mul o.oneOne (m.getThreat o c))

/-- The 110% and 130% rules. -/
def isBetter (c r : Nat) : Bool :=
  o.lt (o.mul o.oneThree (m.getThreat o c)) (m.getThreat o r) ||
    o.lt (o.mul o.oneOne (m.getThreat o c)) (m.getThreat o r) && (m.getTarget r).any u.isWithinMeleeRange

/-- One may stand before the other in the sorted list. -/
def sortsBefore (a b : Nat) : Bool := !o.lt (m.getThreat o a) (m.getThreat o b)

def freshlySorted : List Nat := m.iThreatContainer.mergeSort (m.sortsBefore o)

/-- The victim that `getHostileTarget` chooses. -/
def chosenVictim : Option (Option Nat) := (m.getHostileTarget o u).map (·.iCurrentVictim)

/-- What the selection would choose from the list freshly sorted. -/
def freshVictim : Option (Option Nat) := m.selectNextVictim o u (m.freshlySorted o) m.iCurrentVictim

/-- The references before the victim; all, where there is none. -/
def beforeVictim : List Nat := m.iThreatContainer.takeWhile fun r => m.iCurrentVictim ≠ some r

/-- The victim and the references behind it. -/
def fromVictim : List Nat := m.iThreatContainer.dropWhile fun r => m.iCurrentVictim ≠ some r

/-- **No harm done**: all is in order but for references before the victim, and of two of these in the wrong
order the greater threat is at most 1.1 times the victim's. -/
def Harmless : Prop :=
  (m.fromVictim.Pairwise fun x y => m.sortsBefore o x y = true) ∧
    (∀ x ∈ m.beforeVictim, ∀ y ∈ m.fromVictim, m.sortsBefore o x y = true) ∧
    (m.beforeVictim.Pairwise fun x y => m.sortsBefore o x y = true ∨
      ∃ c, m.iCurrentVictim = some c ∧ o.le (m.getThreat o y) (o.mul o.oneOne (m.getThreat o c)) = true)

end

/-- The comparisons of `float` are those of a linear order. -/
structure Ordered {F : Type} [LinearOrder F] (o : FloatOps F) : Prop where
  lt_eq : ∀ a b, o.lt a b = decide (a < b)
  le_eq : ∀ a b, o.le a b = decide (a ≤ b)

section
variable {F : Type} {o : FloatOps F} {u : Surroundings F} {m : ThreatManager F}

theorem select_eq_pick {l : List Nat} (hl : ∀ r ∈ l, (m.getTarget r).isSome) (cur : Option Nat) :
    m.selectNextVictim o u l cur =
      some (pick (m.isSecondChoice u) (m.isOutOfReach u) (m.keepsVictim o) (m.isBetter o u) l cur) := by
  induction l generalizing cur with
  | nil => rfl
  | cons r rest ih =>
    have ih := ih fun a ha => hl a (List.mem_cons_of_mem _ ha)
    obtain ⟨t, ht⟩ := Option.isSome_iff_exists.1 (hl r List.mem_cons_self)
    rw [pick_cons, selectNextVictim]
    simp only [ht, isSecondChoice, isOutOfReach, Option.any_some, ih]
    split
    · rfl
    · split
      · cases cur with
        | none => rfl
        | some c =>
          simp only [keepsVictim, isBetter, ht, Option.any_some, Bool.or_eq_true, decide_eq_true_eq]
          split
          · rfl
          · split <;> rfl
      · rfl

theorem Placed.linked (h : Placed m) {r : Nat} (hr : r ∈ m.iThreatContainer) :
    ∃ ref, m.refs r = some ref ∧ m.getTarget r = some ref.iUnitGuid := by
  obtain ⟨ref, href, hon⟩ := (h.mem_online r).1 hr
  refine ⟨ref, href, ?_⟩
  rcases h.known.tied r ref href with ht | ⟨-, hoff⟩
  · simp [getTarget, href, ht]
  · rw [hon] at hoff
    cases hoff

theorem Placed.target_inj (h : Placed m) {r r' : Nat} (hr : r ∈ m.iThreatContainer) (hr' : r' ∈ m.iThreatContainer)
    (he : m.getTarget r = m.getTarget r') : r = r' := by
  obtain ⟨ref, href, ht⟩ := h.linked hr
  obtain ⟨ref', href', ht'⟩ := h.linked hr'
  rw [ht, ht', Option.some.injEq] at he
  exact h.known.single r r' ref ref' href href' he

theorem Placed.freshVictim_eq (h : Placed m) :
    m.freshVictim o u = some (pick (m.isSecondChoice u) (m.isOutOfReach u) (m.keepsVictim o) (m.isBetter o u)
      (m.freshlySorted o) m.iCurrentVictim) := by
  refine select_eq_pick (fun r hr => ?_) _
  obtain ⟨ref, -, ht⟩ := h.linked (List.mem_mergeSort.1 hr)
  rw [ht]
  rfl

theorem update_eq (o : FloatOps F) (m : ThreatManager F) :
    m.update o = { m with iThreatContainer := if m.iDirty then m.freshlySorted o else m.iThreatContainer
                          iDirty := false } := by
  unfold update
  cases hd : m.iDirty with
  | false => simp
  | true =>
    by_cases hlen : m.iThreatContainer.length > 1
    · rw [if_pos ⟨rfl, hlen⟩]
      rfl
    · -- a list of one element is sorted
      rw [if_neg fun h => hlen h.2]
      have hone : m.freshlySorted o = m.iThreatContainer := by
        unfold freshlySorted
        cases hc : m.iThreatContainer with
        | nil => exact List.mergeSort_nil
        | cons r l =>
          cases l with
          | nil => exact List.mergeSort_singleton r
          | cons r' l => exact absurd (by simp [hc]) hlen
      rw [if_pos rfl, hone]

theorem Placed.chosenVictim_eq (h : Placed m) :
    m.chosenVictim o u = some (pick (m.isSecondChoice u) (m.isOutOfReach u) (m.keepsVictim o) (m.isBetter o u)
      (if m.iDirty then m.freshlySorted o else m.iThreatContainer) m.iCurrentVictim) := by
  have hp := h.update (o := o)
  have hsel := select_eq_pick (o := o) (u := u) (m := m.update o) (l := (m.update o).iThreatContainer)
    (fun r hr => by
      obtain ⟨ref, -, ht⟩ := hp.linked hr
      rw [ht]
      rfl) (m.update o).iCurrentVictim
  unfold chosenVictim ThreatManager.getHostileTarget
  simp only [hsel, Option.bind_eq_bind, Option.bind_some, Option.map_some]
  rw [update_eq]
  rfl

/-! ## No harm done: the same choice -/

section
variable [LinearOrder F] (ho : Ordered o)
include ho

theorem sortsBefore_iff (a b : Nat) : m.sortsBefore o a b = true ↔ m.getThreat o b ≤ m.getThreat o a := by
  simp [sortsBefore, ho.lt_eq]

theorem sortsBefore_trans (a b c : Nat) (hab : m.sortsBefore o a b = true) (hbc : m.sortsBefore o b c = true) :
    m.sortsBefore o a c = true := by
  rw [sortsBefore_iff ho] at *
  exact le_trans hbc hab

theorem sortsBefore_total (a b : Nat) : (m.sortsBefore o a b || m.sortsBefore o b a) = true := by
  rw [Bool.or_eq_true, sortsBefore_iff ho, sortsBefore_iff ho]
  exact le_total _ _

theorem not_kept_iff (c r : Nat) :
    m.keepsVictim o c r = false ↔ c ≠ r ∧ o.mul o.oneOne (m.getThreat o c) < m.getThreat o r := by
  simp [keepsVictim, ho.le_eq]

theorem kept_from_first {l : List Nat} {c : Nat}
    (hl : l.Pairwise fun x y => m.sortsBefore o x y = true ∨
      o.le (m.getThreat o y) (o.mul o.oneOne (m.getThreat o c)) = true) (hc : c ∉ l) :
    ∀ r ∈ l.dropWhile (fun r => !m.keepsVictim o c r), m.keepsVictim o c r = true := by
  induction l with
  | nil => simp
  | cons x l ih =>
    rw [List.pairwise_cons] at hl
    cases hk : m.keepsVictim o c x with
    | false =>
      rw [List.dropWhile_cons_of_pos (by simp [hk])]
      exact ih hl.2 fun hm => hc (List.mem_cons_of_mem _ hm)
    | true =>
      rw [List.dropWhile_cons_of_neg (by simp [hk])]
      intro r hr
      rcases List.mem_cons.1 hr with rfl | hr
      · exact hk
      · unfold keepsVictim at hk ⊢
        rw [Bool.or_eq_true, decide_eq_true_eq] at hk ⊢
        right
        rcases hl.1 r hr with h | h
        · have hx := hk.resolve_left fun he => hc (he ▸ List.mem_cons_self)
          rw [ho.le_eq, decide_eq_true_eq] at hx ⊢
          exact le_trans ((sortsBefore_iff ho x r).1 h) hx
        · exact h

/-- A reference for which the victim is not kept is in order with those behind it. -/
theorem sorted_of_not_kept {c x y : Nat} (hk : m.keepsVictim o c x = false)
    (h : m.sortsBefore o x y = true ∨ o.le (m.getThreat o y) (o.mul o.oneOne (m.getThreat o c)) = true) :
    m.sortsBefore o x y = true := by
  rcases h with h | h
  · exact h
  · rw [ho.le_eq, decide_eq_true_eq] at h
    exact (sortsBefore_iff ho x y).2 (le_trans h ((not_kept_iff ho c x).1 hk).2.le)

omit [LinearOrder F] ho in
theorem split_at_victim {c : Nat} (hcur : m.iCurrentVictim = some c) (hc : c ∈ m.iThreatContainer) :
    ∃ rest, m.iThreatContainer = m.beforeVictim ++ c :: rest ∧ m.fromVictim = c :: rest ∧ c ∉ m.beforeVictim := by
  obtain ⟨a, rest, hsplit, hca⟩ := List.eq_append_cons_of_mem hc
  have hpos : ∀ r ∈ a, decide (m.iCurrentVictim ≠ some r) = true := by
    intro r hr
    rw [hcur, decide_eq_true_eq]
    exact fun he => hca (Option.some.inj he ▸ hr)
  have hbefore : m.beforeVictim = a := by
    unfold beforeVictim
    rw [hsplit, List.takeWhile_append_of_pos hpos, List.takeWhile_cons_of_neg (by simp [hcur]), List.append_nil]
  have hfrom : m.fromVictim = c :: rest := by
    unfold fromVictim
    rw [hsplit, List.dropWhile_append_of_pos hpos, List.dropWhile_cons_of_neg (by simp [hcur])]
  exact ⟨rest, by rw [hbefore, hsplit], hfrom, hbefore ▸ hca⟩

omit [LinearOrder F] ho in
theorem before_no_victim (hcur : m.iCurrentVictim = none) : m.beforeVictim = m.iThreatContainer := by
  unfold beforeVictim
  rw [List.takeWhile_eq_self_iff]
  simp [hcur]

/-- **No harm done**: the selection finds the same victim in the list and in the sorted one. -/
theorem pick_fresh {second out : Nat → Bool} {better : Nat → Nat → Bool} (hh : m.Harmless o)
    (hmem : ∀ c, m.iCurrentVictim = some c → c ∈ m.iThreatContainer) :
    pick second out (m.keepsVictim o) better m.iThreatContainer m.iCurrentVictim =
      pick second out (m.keepsVictim o) better (m.freshlySorted o) m.iCurrentVictim := by
  obtain ⟨hfrom, hover, hbefore⟩ := hh
  cases hcur : m.iCurrentVictim with
  | none =>
    -- without a victim all is in order
    rw [before_no_victim hcur] at hbefore
    unfold freshlySorted
    rw [List.mergeSort_of_pairwise]
    refine hbefore.imp fun h => ?_
    rcases h with h | ⟨c, h, -⟩
    · exact h
    · rw [hcur] at h
      cases h
  | some c =>
    obtain ⟨rest, hsplit, hrest, hnot⟩ := split_at_victim hcur (hmem c hcur)
    -- before the victim: those that it is not kept for, in order, and then those that it is kept for
    have hpair : m.beforeVictim.Pairwise fun x y => m.sortsBefore o x y = true ∨
        o.le (m.getThreat o y) (o.mul o.oneOne (m.getThreat o c)) = true := by
      refine hbefore.imp fun h => h.imp_right ?_
      rintro ⟨c', hc', hle⟩
      rw [hcur, Option.some.injEq] at hc'
      exact hc' ▸ hle
    have hkept := kept_from_first ho hpair hnot
    generalize hhigh : m.beforeVictim.takeWhile (fun r => !m.keepsVictim o c r) = high at *
    generalize hlow : m.beforeVictim.dropWhile (fun r => !m.keepsVictim o c r) = low at *
    have happ : m.beforeVictim = high ++ low := by
      rw [← hhigh, ← hlow, List.takeWhile_append_dropWhile]
    have hhighs : ∀ x ∈ high, m.keepsVictim o c x = false := by
      intro x hx
      rw [← hhigh] at hx
      simpa using List.mem_takeWhile_imp hx
    rw [happ] at hpair hnot hover hsplit
    rw [hrest] at hfrom hover
    rw [List.pairwise_append] at hpair
    have htail : ∀ x ∈ low, ∀ y ∈ c :: rest, m.sortsBefore o x y = true := fun x hx =>
      hover x (List.mem_append_right _ hx)
    have hsorted : m.freshlySorted o = high ++ (low.mergeSort (m.sortsBefore o) ++ c :: rest) := by
      unfold freshlySorted
      rw [hsplit, List.append_assoc, StableSort.mergeSort_front (sortsBefore_trans ho) (sortsBefore_total ho),
        StableSort.mergeSort_back (sortsBefore_trans ho) (sortsBefore_total ho) hfrom htail]
      · exact hpair.1.imp_of_mem fun hx _ h => sorted_of_not_kept ho (hhighs _ hx) h
      · intro x hx y hy
        rcases List.mem_append.1 hy with hy | hy
        · exact sorted_of_not_kept ho (hhighs x hx) (hpair.2.2 x hx y hy)
        · exact hover x (List.mem_append_left _ hx) y hy
    rw [hsorted, hsplit, List.append_assoc]
    have hnotHigh : c ∉ high := fun hm => hnot (List.mem_append_left _ hm)
    have hnotLow : c ∉ low := fun hm => hnot (List.mem_append_right _ hm)
    refine pick_front hnotHigh (by simp) (by simp) ?_
    have hany : (low.mergeSort (m.sortsBefore o)).any (fun r => !second r && !out r) =
        low.any fun r => !second r && !out r := (List.mergeSort_perm _ _).any_eq
    rw [pick_kept hnotLow hkept, pick_kept (fun hm => hnotLow (List.mem_mergeSort.1 hm))
      fun r hr => hkept r (List.mem_mergeSort.1 hr), hany]

/-! ## Harm done: another choice -/

theorem fresh_order {x y : Nat} (hx : x ∈ m.iThreatContainer) (hy : y ∈ m.iThreatContainer)
    (hxy : m.sortsBefore o x y = false) : ∃ a b d, m.freshlySorted o = a ++ y :: (b ++ x :: d) := by
  have hsorted : (m.freshlySorted o).Pairwise fun r r' => m.sortsBefore o r r' = true :=
    List.pairwise_mergeSort (sortsBefore_trans ho) (sortsBefore_total ho) _
  have hmem : ∀ r, r ∈ m.iThreatContainer → r ∈ m.freshlySorted o := fun r hr => List.mem_mergeSort.2 hr
  obtain ⟨a, b, hab⟩ := List.append_of_mem (hmem y hy)
  have hx := hmem x hx
  rw [hab] at hx hsorted
  rw [List.pairwise_append] at hsorted
  rcases List.mem_append.1 hx with hx | hx
  · have h := hsorted.2.2 x hx y List.mem_cons_self
    rw [hxy] at h
    cases h
  · rcases List.mem_cons.1 hx with rfl | hx
    · have h := (sortsBefore_iff ho (m := m) x x).2 le_rfl
      rw [hxy] at h
      cases h
    · obtain ⟨b, d, rfl⟩ := List.append_of_mem hx
      exact ⟨a, b, d, hab⟩

/-- The selection, where it is to find the same victim whatever the targets are like. -/
def PicksFresh (o : FloatOps F) (m : ThreatManager F) : Prop :=
  ∃ better : Nat → Nat → Bool, (∀ c r, m.keepsVictim o c r = false → better c r = true) ∧
    ∀ second out, pick second out (m.keepsVictim o) better m.iThreatContainer m.iCurrentVictim =
      pick second out (m.keepsVictim o) better (m.freshlySorted o) m.iCurrentVictim

section
variable (hpick : PicksFresh o m) (hnodup : m.iThreatContainer.Nodup)
  {a b d : List Nat} {x y : Nat} (hsplit : m.iThreatContainer = a ++ x :: (b ++ y :: d))
  (hxy : m.sortsBefore o x y = false)
include hpick hnodup hsplit hxy

/-- With two in reach that are in the wrong order there is a victim, and it is kept for both. -/
theorem kept_for_both :
    ∃ c, m.iCurrentVictim = some c ∧ m.keepsVictim o c x = true ∧ m.keepsVictim o c y = true := by
  obtain ⟨better, hbetter, heq⟩ := hpick
  have heq := heq (fun _ => false) (fun z => decide (z ≠ x ∧ z ≠ y))
  obtain ⟨a', b', d', hfresh⟩ := fresh_order ho (m := m) (by rw [hsplit]; simp) (by rw [hsplit]; simp) hxy
  have hnodup' : (m.freshlySorted o).Nodup := List.nodup_mergeSort.2 hnodup
  rw [hsplit] at hnodup
  rw [hfresh] at hnodup'
  have hne := (apart_of_nodup hnodup).1
  rw [hsplit, hfresh, pick_pair hnodup rfl (fun _ => rfl) (fun c => hbetter c x),
    pick_pair hnodup' rfl (fun z => decide_eq_decide.2 and_comm) (fun c => hbetter c y), passed_first_choices (fun _ => rfl),
    passed_first_choices (fun _ => rfl)] at heq
  cases hcur : m.iCurrentVictim with
  | none =>
    rw [hcur] at heq
    exact absurd (Option.some.inj heq) hne
  | some c =>
    rw [hcur] at heq
    refine ⟨c, rfl, ?_⟩
    have hself : ∀ r, c = r → m.keepsVictim o c r = true := fun r hr => by simp [keepsVictim, hr]
    cases hky : m.keepsVictim o c y with
    | false =>
      -- the sorted list gives the greater one, which the list does not give
      cases hkx : m.keepsVictim o c x with
      | false => simp [hkx, hky, hne] at heq
      | true =>
        have hcy : c = y := by simpa [hkx, hky] using heq
        rw [hself y hcy] at hky
        cases hky
    | true =>
      cases hkx : m.keepsVictim o c x with
      | false =>
        have hcx : x = c := by simpa [hkx, hky] using heq
        rw [hself x hcx.symm] at hkx
        cases hkx
      | true => exact ⟨rfl, rfl⟩

/-- **The victim** is neither of two that are in the wrong order and does not stand before them, as a
second choice that the selection passes by in one list and not in the other. -/
theorem victim_not_before {c : Nat} (hcur : m.iCurrentVictim = some c) : c ≠ x ∧ c ≠ y ∧ c ∉ a := by
  obtain ⟨c', hc', hkx, hky⟩ := kept_for_both ho hpick hnodup hsplit hxy
  rw [hcur, Option.some.injEq] at hc'
  subst hc'
  obtain ⟨better, hbetter, heq⟩ := hpick
  have heq := heq (fun z => decide (z = c)) (fun z => decide (z ≠ x ∧ z ≠ y))
  obtain ⟨a', b', d', hfresh⟩ := fresh_order ho (m := m) (by rw [hsplit]; simp) (by rw [hsplit]; simp) hxy
  have hnodup' : (m.freshlySorted o).Nodup := List.nodup_mergeSort.2 hnodup
  rw [hsplit] at hnodup
  rw [hfresh] at hnodup'
  rw [hcur, hsplit, hfresh] at heq
  obtain ⟨hne, hout, hya, hxb⟩ := apart_of_nodup hnodup
  obtain ⟨-, hout', hxa', hyb'⟩ := apart_of_nodup hnodup'
  have hcx : c ≠ x := by
    rintro rfl
    -- passed by in the list, and kept for the other in the sorted one
    have hall : ∀ z ∈ a ++ c :: b, decide (z = c) = true ∨ decide (z ≠ c ∧ z ≠ y) = true := by
      intro z hz
      by_cases hzc : z = c
      · exact .inl (by simp [hzc])
      · refine .inr ?_
        rw [decide_eq_true_eq]
        exact ⟨hzc, fun hzy => hya (hzy ▸ hz)⟩
    rw [show a ++ c :: (b ++ y :: d) = (a ++ c :: b) ++ y :: d by simp,
      pick_meets hall (by simpa using hne.symm) (by simp) (fun c => hbetter c y),
      passed_victim (by simp) (by simp),
      pick_pair hnodup' (by simpa using hne.symm) (fun z => decide_eq_decide.2 and_comm) (fun c => hbetter c y),
      passed_other fun hm => (hout' c hm).2 rfl] at heq
    simp only [hky, if_true, Option.some.injEq] at heq
    exact hne heq.symm
  have hcy : c ≠ y := by
    rintro rfl
    have hall : ∀ z ∈ a' ++ c :: b', decide (z = c) = true ∨ decide (z ≠ x ∧ z ≠ c) = true := by
      intro z hz
      by_cases hzc : z = c
      · exact .inl (by simp [hzc])
      · refine .inr ?_
        rw [decide_eq_true_eq]
        exact ⟨fun hzx => hxa' (hzx ▸ hz), hzc⟩
    rw [show a' ++ c :: (b' ++ x :: d') = (a' ++ c :: b') ++ x :: d' by simp,
      pick_meets hall (by simpa using hne) (by simp) (fun c => hbetter c x),
      passed_victim (by simp) (by simp), pick_pair hnodup (by simpa using hne) (fun _ => rfl) (fun c => hbetter c x),
      passed_other fun hm => (hout c hm).2 rfl] at heq
    simp only [hkx, if_true, Option.some.injEq] at heq
    exact hne heq.symm
  refine ⟨hcx, hcy, fun hca => ?_⟩
  rw [pick_pair hnodup (by simpa using hcx.symm) (fun _ => rfl) (fun c => hbetter c x), passed_victim hca (by simp),
    pick_pair hnodup' (by simpa using hcy.symm) (fun z => decide_eq_decide.2 and_comm) (fun c => hbetter c y)] at heq
  by_cases hca' : c ∈ a'
  · rw [passed_victim hca' (by simp)] at heq
    exact hne (Option.some.inj heq)
  · rw [passed_other hca'] at heq
    simp only [hky, if_true, Option.some.injEq] at heq
    exact hcx heq.symm

/-- **Two in the wrong order** stand before the victim, and the greater threat is at most 1.1 times the
victim's. -/
theorem inversion_spared (hmem : ∀ c, m.iCurrentVictim = some c → c ∈ m.iThreatContainer) :
    ∃ c, m.iCurrentVictim = some c ∧ c ∈ d ∧ o.le (m.getThreat o y) (o.mul o.oneOne (m.getThreat o c)) = true := by
  obtain ⟨c, hcur, hkx, hky⟩ := kept_for_both ho hpick hnodup hsplit hxy
  obtain ⟨hcx, hcy, hca⟩ := victim_not_before ho hpick hnodup hsplit hxy hcur
  have hle : o.le (m.getThreat o y) (o.mul o.oneOne (m.getThreat o c)) = true := by
    simpa [keepsVictim, hcy] using hky
  refine ⟨c, hcur, ?_, hle⟩
  have hc := hmem c hcur
  rw [hsplit] at hc
  simp only [List.mem_append, List.mem_cons, hca, hcx, hcy, false_or] at hc
  refine hc.resolve_left fun hcb => ?_
  -- between the two it would be in the wrong order with one of them
  obtain ⟨b1, b2, rfl⟩ := List.append_of_mem hcb
  cases hco : m.sortsBefore o c y with
  | false =>
    have hsplit' : m.iThreatContainer = (a ++ x :: b1) ++ c :: (b2 ++ y :: d) := by rw [hsplit]; simp
    exact (victim_not_before ho hpick hnodup hsplit' hco hcur).1 rfl
  | true =>
    have hxc : m.sortsBefore o x c = false := by
      rw [← Bool.not_eq_true, sortsBefore_iff ho, not_le] at hxy ⊢
      exact lt_of_lt_of_le hxy ((sortsBefore_iff ho c y).1 hco)
    have hsplit' : m.iThreatContainer = a ++ x :: (b1 ++ c :: (b2 ++ y :: d)) := by rw [hsplit]; simp
    exact (victim_not_before ho hpick hnodup hsplit' hxc hcur).2.1 rfl

end

omit [LinearOrder F] ho in
theorem pair_split {l : List Nat} {x y : Nat} (h : [x, y].Sublist l) : ∃ a b d, l = a ++ x :: (b ++ y :: d) := by
  obtain ⟨r1, r2, rfl, hx, hy⟩ := List.cons_sublist_iff.1 h
  obtain ⟨a, b, rfl⟩ := List.append_of_mem hx
  obtain ⟨b', d, rfl⟩ := List.append_of_mem (List.singleton_sublist.1 hy)
  exact ⟨a, b ++ b', d, by simp⟩

/-- **Harm done**: if the selection finds the same victim whatever the targets are like, nothing is out of
order that does harm. -/
theorem harmless_of_picks (hpick : PicksFresh o m) (hnodup : m.iThreatContainer.Nodup)
    (hmem : ∀ c, m.iCurrentVictim = some c → c ∈ m.iThreatContainer) : m.Harmless o := by
  have hwhole : m.iThreatContainer = m.beforeVictim ++ m.fromVictim := List.takeWhile_append_dropWhile.symm
  -- a pair whose second reference is not before the victim
  have hordered : ∀ a x b y d k, m.beforeVictim ++ m.fromVictim = a ++ x :: (b ++ y :: d) →
      m.fromVictim = k ++ y :: d → m.sortsBefore o x y = true := by
    intro a x b y d k hsplit hk
    cases hxy : m.sortsBefore o x y with
    | true => rfl
    | false =>
      obtain ⟨c, hcur, hcd, -⟩ := inversion_spared ho hpick hnodup (hwhole.trans hsplit) hxy hmem
      have hcy := (victim_not_before ho hpick hnodup (hwhole.trans hsplit) hxy hcur).2.1
      obtain ⟨rest, hat, hrest, -⟩ := split_at_victim hcur (hmem c hcur)
      have hone : c ∉ rest := by
        rw [hat, List.nodup_append, List.nodup_cons] at hnodup
        exact hnodup.2.1.1
      rw [hrest] at hk
      cases k with
      | nil => exact absurd (List.cons.inj hk).1 hcy
      | cons z k =>
        refine absurd ?_ hone
        rw [(List.cons.inj hk).2]
        simp [hcd]
  refine ⟨?_, ?_, ?_⟩
  · rw [List.pairwise_iff_forall_sublist]
    intro x y hxy
    obtain ⟨a, b, d, h⟩ := pair_split hxy
    exact hordered (m.beforeVictim ++ a) x b y d (a ++ x :: b) (by rw [h]; simp) (by rw [h]; simp)
  · intro x hx y hy
    obtain ⟨a, b, hab⟩ := List.append_of_mem hx
    obtain ⟨k, d, hkd⟩ := List.append_of_mem hy
    exact hordered a x (b ++ k) y d k (by rw [hab, hkd]; simp) hkd
  · rw [List.pairwise_iff_forall_sublist]
    intro x y hxy
    obtain ⟨a, b, d, h⟩ := pair_split hxy
    cases hs : m.sortsBefore o x y with
    | true => exact .inl rfl
    | false =>
      have hsplit : m.iThreatContainer = a ++ x :: (b ++ y :: (d ++ m.fromVictim)) := by
        rw [hwhole, h]
        simp
      obtain ⟨c, hcur, -, hle⟩ := inversion_spared ho hpick hnodup hsplit hs hmem
      exact .inr ⟨c, hcur, hle⟩

end

/-! ## The claim on every run -/

/-- Surroundings in which the given references have targets that are second choices or out of reach, and
all are within melee range. -/
def targetsLike (m : ThreatManager F) (second out : Nat → Bool) : Surroundings F where
  isAlive := fun _ => true
  isPlayer := fun _ => false
  isGameMaster := fun _ => false
  inFlight := fun _ => false
  getUnit := fun _ => true
  isInAccessiblePlace := fun _ => true
  isWithinCombatRange := fun _ => true
  getCharmerOrOwner := fun _ => none
  applySpellMod := fun _ _ threat => threat
  applyTotalThreatModifier := fun _ threat _ => threat
  getReducedThreatPercent := fun _ => 0
  getMisdirectionTarget := fun _ => none
  isImmunedToDamage := fun t => m.iThreatContainer.any fun r => m.getTarget r == some t && second r
  isConfused := fun _ => false
  isOutOfThreatArea := fun t => m.iThreatContainer.any fun r => m.getTarget r == some t && out r
  isWithinMeleeRange := fun _ => true

theorem Placed.any_target (h : Placed m) {r t : Nat} (hr : r ∈ m.iThreatContainer) (ht : m.getTarget r = some t)
    (p : Nat → Bool) : (m.iThreatContainer.any fun r' => m.getTarget r' == some t && p r') = p r := by
  rw [Bool.eq_iff_iff, List.any_eq_true]
  constructor
  · rintro ⟨r', hr', hp⟩
    rw [Bool.and_eq_true, beq_iff_eq] at hp
    rw [h.target_inj hr hr' (ht.trans hp.1.symm)]
    exact hp.2
  · intro hp
    exact ⟨r, hr, by simp [ht, hp]⟩

theorem Placed.picks_fresh [LinearOrder F] (ho : Ordered o) (h : Placed m) (hclean : m.iDirty = false)
    (heq : ∀ u, m.chosenVictim o u = m.freshVictim o u) : PicksFresh o m := by
  refine ⟨fun c r => o.lt (o.mul o.oneThree (m.getThreat o c)) (m.getThreat o r) ||
    o.lt (o.mul o.oneOne (m.getThreat o c)) (m.getThreat o r), ?_, ?_⟩
  · intro c r hk
    rw [Bool.or_eq_true, ho.lt_eq (o.mul o.oneOne _), decide_eq_true_eq]
    exact .inr ((not_kept_iff ho c r).1 hk).2
  · intro second out
    have heq := heq (m.targetsLike second out)
    rw [h.chosenVictim_eq, h.freshVictim_eq, hclean, if_neg Bool.false_ne_true, Option.some.injEq] at heq
    have hlike : ∀ l : List Nat, (∀ r ∈ l, r ∈ m.iThreatContainer) → ∀ cur,
        pick (m.isSecondChoice (m.targetsLike second out)) (m.isOutOfReach (m.targetsLike second out))
          (m.keepsVictim o) (m.isBetter o (m.targetsLike second out)) l cur =
        pick second out (m.keepsVictim o) (fun c r => o.lt (o.mul o.oneThree (m.getThreat o c)) (m.getThreat o r) ||
          o.lt (o.mul o.oneOne (m.getThreat o c)) (m.getThreat o r)) l cur := by
      intro l hl cur
      refine pick_congr (fun r hr => ?_) (fun r hr => ?_) (fun c r hr => ?_) cur
      all_goals obtain ⟨ref, -, ht⟩ := h.linked (hl r hr)
      · simpa [isSecondChoice, ht, targetsLike] using h.any_target (hl r hr) ht second
      · simpa [isOutOfReach, ht, targetsLike] using h.any_target (hl r hr) ht out
      · simp [isBetter, ht, targetsLike]
    rw [hlike _ fun r hr => hr, hlike (m.freshlySorted o) fun r hr => List.mem_mergeSort.1 hr] at heq
    exact heq

/-- **The choice of a victim** in every reachable state, with threat from any linear order, is the one from
the list freshly sorted, whatever the targets are like, just if the list is dirty or what is out of
order in it does no harm. -/
theorem victim_sorted_iff [LinearOrder F] (o : FloatOps F) (ho : Ordered o) (fuel iOwner : Nat)
    (ops : List (Surroundings F × ThreatOp F)) (m : ThreatManager F)
    (hrun : run o fuel { iOwner := iOwner } ops = some m) :
    (∀ u, m.chosenVictim o u = m.freshVictim o u) ↔ m.iDirty = true ∨ m.Harmless o := by
  have h := run_placed (placed_new iOwner) hrun
  constructor
  · intro heq
    cases hd : m.iDirty with
    | true => exact .inl rfl
    | false => exact .inr (harmless_of_picks ho (h.picks_fresh ho hd heq) h.online_nodup h.victim)
  · intro hcase u
    rw [h.chosenVictim_eq, h.freshVictim_eq]
    split
    · rfl
    · next hd => rw [pick_fresh ho (hcase.resolve_left hd) h.victim]

end

/-! ## Three enemies -/

theorem hundredths_ordered : Ordered hundredths := ⟨fun _ _ => rfl, fun _ _ => rfl⟩

/-- Units of which nothing is to be said. -/
def plainPlace : Surroundings Int := targetsLike { iOwner := 1 } (fun _ => false) fun _ => false

/-- Three enemies with 100, 90 and 80 threat. -/
def threeEnemies : List (Surroundings Int × ThreatOp Int) :=
  [.addThreat (some 2) 10000 1 none, .addThreat (some 3) 9000 1 none, .addThreat (some 4) 8000 1 none].map
    fun op => (plainPlace, op)

def afterThreeEnemies : ThreatManager Int := (run hundredths 3 { iOwner := 1 } threeEnemies).getD { iOwner := 0 }

/-- The creature turns to the first of them, and the second loses half of its threat. -/
def secondHalved : List (Surroundings Int × ThreatOp Int) :=
  threeEnemies ++ [(plainPlace, .getHostileTarget), (plainPlace, .modifyThreatPercent 3 (-50))]

def afterSecondHalved : ThreatManager Int :=
  ({ afterThreeEnemies with iDirty := false, iCurrentVictim := some 0 }.modifyThreatPercent hundredths
    (addThreatOf hundredths plainPlace 3) 3 (-50)).getD { iOwner := 0 }

theorem afterThreeEnemies_sorted : afterThreeEnemies.freshlySorted hundredths = [0, 1, 2] :=
  List.mergeSort_of_pairwise (by decide)

theorem afterThreeEnemies_target : afterThreeEnemies.getHostileTarget hundredths plainPlace =
    some { afterThreeEnemies with iDirty := false, iCurrentVictim := some 0 } := by
  unfold getHostileTarget
  rw [update_eq, afterThreeEnemies_sorted]
  rfl

theorem run_secondHalved : run hundredths 3 { iOwner := 1 } secondHalved = some afterSecondHalved := by
  show (afterThreeEnemies.getHostileTarget hundredths plainPlace).bind _ = _
  rw [afterThreeEnemies_target]
  rfl

/-- The list is not dirty, and the second and the third stand in the wrong order behind the victim. -/
theorem victim_sorted_iff_sample :
    ((∀ u, afterSecondHalved.chosenVictim hundredths u = afterSecondHalved.freshVictim hundredths u) ↔
      afterSecondHalved.iDirty = true ∨ afterSecondHalved.Harmless hundredths) ∧
    afterSecondHalved.iDirty = false ∧ ¬ afterSecondHalved.Harmless hundredths :=
  ⟨victim_sorted_iff hundredths hundredths_ordered 3 1 secondHalved afterSecondHalved run_secondHalved, by decide, by
    intro h
    exact absurd h.1 (by decide)⟩

theorem afterSecondHalved_sorted : afterSecondHalved.freshlySorted hundredths = [0, 2, 1] := by
  have h01 : afterSecondHalved.sortsBefore hundredths 0 1 = true := by decide
  have h02 : afterSecondHalved.sortsBefore hundredths 0 2 = true := by decide
  have h12 : afterSecondHalved.sortsBefore hundredths 1 2 = false := by decide
  show [0, 1, 2].mergeSort (afterSecondHalved.sortsBefore hundredths) = _
  simp [List.mergeSort, List.MergeSort.Internal.splitInTwo, h01, h02, h12]

/-- **The lesser enemy is chosen**: when the first of the three is immune, the list that is not sorted again
gives the second with 45 threat, where the sorted one gives the third with 80. -/
theorem lesser_chosen :
    ¬ ∀ (F : Type) (_ : LinearOrder F) (o : FloatOps F), Ordered o → ∀ (fuel iOwner : Nat)
      (ops : List (Surroundings F × ThreatOp F)) (m : ThreatManager F),
      run o fuel { iOwner := iOwner } ops = some m → ∀ u, m.chosenVictim o u = m.freshVictim o u := by
  intro h
  have h := h Int inferInstance hundredths hundredths_ordered 3 1 secondHalved afterSecondHalved run_secondHalved
    { plainPlace with isImmunedToDamage := fun t => t == 2 }
  unfold freshVictim chosenVictim getHostileTarget at h
  rw [afterSecondHalved_sorted] at h
  revert h
  decide

end BlizzLike.ThreatManager
