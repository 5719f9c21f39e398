import Mathlib.Data.Finset.Insert
import Mathlib.Data.Finset.Range
import Mathlib.Data.Finset.Card
import Mathlib.Data.Set.Finite.Basic
import Mathlib.Logic.Relation
import Mathlib.Order.WellFoundedSet

/-!
# Chains of a partial function

Where a partial function leads when it is followed from a point, the points that it leads back to,
and what is left of it when a link is cut.  `Trail` is the state of a walk that keeps what it has
seen: it either ends, and then comes to no circle, or closes one with the one link of it that the
walk needs last.

    Cyclic.of_reaches : a circle is all that can be reached from it
    reaches_of_sub    : links cut from other circles are not missed
    Trail.extend, Trail.closes, Trail.ends : the walk
    wellFounded_of_acyclic : a relation within a finite set that has no circle is well-founded
-/

namespace Chains

open Relation

variable {α : Type*} [DecidableEq α] {f g : α → Option α} {a b c i k m x z : α}

/-- `f` leads from one point to the other. -/
def Reaches (f : α → Option α) : α → α → Prop := ReflTransGen fun x y => f x = some y

/-- `f` leads back to the point. -/
def Cyclic (f : α → Option α) (x : α) : Prop := ∃ y, f x = some y ∧ Reaches f y x

/-- `f` without its link from `c`. -/
def cut (f : α → Option α) (c : α) : α → Option α := Function.update f c none

/-- Every link of `g` is one of `f`. -/
def Sub (g f : α → Option α) : Prop := ∀ x y, g x = some y → f x = some y

omit [DecidableEq α] in
theorem Reaches.mono (h : Sub g f) (hr : Reaches g a b) : Reaches f a b :=
  ReflTransGen.mono h _ _ hr

omit [DecidableEq α] in
theorem Reaches.total (hb : Reaches f a b) (hc : Reaches f a c) : Reaches f b c ∨ Reaches f c b :=
  ReflTransGen.total_of_right_unique (fun _ _ _ h1 h2 => Option.some.inj (h1.symm.trans h2)) hb hc

omit [DecidableEq α] in
theorem Cyclic.mono (h : Sub g f) (hc : Cyclic g x) : Cyclic f x := by
  obtain ⟨y, hy, hr⟩ := hc
  exact ⟨y, h x y hy, hr.mono h⟩

omit [DecidableEq α] in
/-- **A circle** is all that can be reached from it. -/
theorem Cyclic.of_reaches (h : Cyclic f a) (hr : Reaches f a b) : Reaches f b a ∧ Cyclic f b := by
  induction hr with
  | refl => exact ⟨ReflTransGen.refl, h⟩
  | tail _ hlink ih =>
    obtain ⟨hback, y, hy, hyb⟩ := ih
    cases hlink.symm.trans hy
    refine ⟨hyb.trans hback, ?_⟩
    rcases ReflTransGen.cases_head hyb with heq | ⟨z, hz, hzb⟩
    · subst heq
      exact ⟨_, hy, hyb⟩
    · exact ⟨z, hz, hzb.tail hlink⟩

omit [DecidableEq α] in
theorem Cyclic.descend (h : Sub g f) (hc : Cyclic g m) (hr : Reaches f m x) : Reaches g m x := by
  induction hr with
  | refl => exact ReflTransGen.refl
  | tail _ hlink ih =>
    obtain ⟨y, hy, _⟩ := (hc.of_reaches ih).2
    obtain rfl := Option.some.inj (hlink.symm.trans (h _ _ hy))
    exact ih.tail hy

omit [DecidableEq α] in
/-- **Links cut from other circles** are not missed on the way to a circle that is left. -/
theorem reaches_of_sub (h : Sub g f) (hcut : ∀ x y, f x = some y → g x = none → Reaches f y x)
    (hc : Cyclic g m) (hr : Reaches f a m) : Reaches g a m := by
  induction hr using ReflTransGen.head_induction_on with
  | refl => exact ReflTransGen.refl
  | @head x y hlink hym ih =>
    cases hgx : g x with
    | some z =>
      obtain rfl := Option.some.inj (hlink.symm.trans (h x z hgx))
      exact ih.head hgx
    | none =>
      -- the link was cut from a circle, which can only be the one of `m`
      have hx : Cyclic f x := ⟨y, hlink, hcut x y hlink hgx⟩
      have hmx := (hx.of_reaches (ReflTransGen.head hlink hym)).1
      obtain ⟨z, hz, _⟩ := (hc.of_reaches (hc.descend h hmx)).2
      rw [hgx] at hz
      cases hz

theorem cut_sub : Sub (cut f c) f := by
  intro x y h
  unfold cut at h
  rw [Function.update_apply] at h
  split at h
  · cases h
  · exact h

theorem cut_of_ne (h : x ≠ c) : cut f c x = f x := Function.update_of_ne h _ _

theorem cut_self : cut f c c = none := Function.update_self ..

theorem cut_mono (h : Sub g f) : Sub (cut g c) (cut f c) := by
  intro x y hx
  by_cases hxc : x = c
  · subst hxc
    rw [cut_self] at hx
    cases hx
  · rw [cut_of_ne hxc] at hx ⊢
    exact h x y hx

/-! ## A walk -/

/-- The chain from `i` comes to the circle of `c` at `m`, where `c` leads. -/
structure Enters (f : α → Option α) (i c m : α) : Prop where
  link : f c = some m
  back : Reaches f m c
  early : Reaches (cut f c) i m

theorem Enters.reaches (h : Enters f i c m) : Reaches f i m := h.early.mono cut_sub

omit [DecidableEq α] in
theorem Cyclic.of_link (h : f c = some m) (hback : Reaches f m c) : Cyclic f m := by
  rcases ReflTransGen.cases_head hback with heq | ⟨z, hz, hzc⟩
  · subst heq
    exact ⟨_, h, ReflTransGen.refl⟩
  · exact ⟨z, hz, hzc.tail h⟩

theorem Enters.cyclic (h : Enters f i c m) : Cyclic f m := Cyclic.of_link h.link h.back

theorem Enters.mono (hs : Sub g f) (h : Enters g i c m) : Enters f i c m :=
  ⟨hs _ _ h.link, h.back.mono hs, h.early.mono (cut_mono hs)⟩

/-- **A walk** from `i` that has seen `seen` and is at `k`. -/
structure Trail (f : α → Option α) (i : α) (seen : Finset α) (k : α) : Prop where
  start : i ∈ insert k seen
  fresh : k ∉ seen
  next : ∀ x ∈ seen, ∃ y ∈ insert k seen, f x = some y
  back : ∀ x ∈ seen, Reaches f x k
  early : ∀ x ∈ insert k seen, ∀ c ∉ seen, Reaches (cut f c) i x
  needed : ∀ x ∈ seen, ∀ y, f x = some y → ¬ Reaches (cut f x) i y

theorem Trail.begin (f : α → Option α) (i : α) : Trail f i ∅ i where
  start := Finset.mem_insert_self _ _
  fresh := Finset.notMem_empty _
  next := fun x hx => absurd hx (Finset.notMem_empty _)
  back := fun x hx => absurd hx (Finset.notMem_empty _)
  early := fun x hx c _ => by
    rcases Finset.mem_insert.1 hx with rfl | hx
    · exact ReflTransGen.refl
    · exact absurd hx (Finset.notMem_empty _)
  needed := fun x hx => absurd hx (Finset.notMem_empty _)

variable {seen : Finset α}

theorem Trail.seen_of_reaches (h : Trail f i seen k) (hr : Reaches (cut f k) i x) : x ∈ insert k seen := by
  induction hr with
  | refl => exact h.start
  | @tail y z _ hlink ih =>
    have hyk : y ≠ k := by
      rintro rfl
      rw [cut_self] at hlink
      cases hlink
    obtain ⟨w, hw, hyw⟩ := h.next y ((Finset.mem_insert.1 ih).resolve_left hyk)
    rw [cut_of_ne hyk] at hlink
    cases hlink.symm.trans hyw
    exact hw

theorem Trail.extend (h : Trail f i seen k) (hk : f k = some x) (hx : x ∉ insert k seen) :
    Trail f i (insert k seen) x where
  start := Finset.mem_insert_of_mem h.start
  fresh := hx
  next := fun y hy => by
    rcases Finset.mem_insert.1 hy with rfl | hy
    · exact ⟨x, Finset.mem_insert_self _ _, hk⟩
    · obtain ⟨z, hz, hyz⟩ := h.next y hy
      exact ⟨z, Finset.mem_insert_of_mem hz, hyz⟩
  back := fun y hy => by
    rcases Finset.mem_insert.1 hy with rfl | hy
    · exact ReflTransGen.single hk
    · exact (h.back y hy).tail hk
  early := fun y hy c hc => by
    have hck : k ≠ c := fun he => hc (he ▸ Finset.mem_insert_self _ _)
    have hcs : c ∉ seen := fun hm => hc (Finset.mem_insert_of_mem hm)
    rcases Finset.mem_insert.1 hy with rfl | hy
    · exact (h.early k (Finset.mem_insert_self _ _) c hcs).tail ((cut_of_ne hck).trans hk)
    · exact h.early y hy c hcs
  needed := fun y hy z hyz => by
    rcases Finset.mem_insert.1 hy with rfl | hy
    · cases hk.symm.trans hyz
      exact fun hr => hx (h.seen_of_reaches hr)
    · exact h.needed y hy z hyz

/-- **The walk closes a circle**, and enters it where its last link leads. -/
theorem Trail.closes (h : Trail f i seen k) (hk : f k = some m) (hm : m ∈ insert k seen) :
    Enters f i k m ∧ ∀ c z, Enters f i c z → c = k := by
  refine ⟨⟨hk, ?_, h.early m hm k h.fresh⟩, fun c z hc => ?_⟩
  · rcases Finset.mem_insert.1 hm with rfl | hm
    · exact ReflTransGen.refl
    · exact h.back m hm
  · have hmem : ∀ y, Reaches f i y → y ∈ insert k seen := by
      intro y hr
      induction hr with
      | refl => exact h.start
      | @tail u v _ hlink ih =>
        rcases Finset.mem_insert.1 ih with rfl | hu
        · cases hk.symm.trans hlink
          exact hm
        · obtain ⟨w, hw, huw⟩ := h.next u hu
          cases hlink.symm.trans huw
          exact hw
    refine (Finset.mem_insert.1 (hmem c (hc.reaches.trans hc.back))).resolve_right fun hcs => ?_
    exact h.needed c hcs z hc.link hc.early

/-- **The walk ends**, and has come to no circle. -/
theorem Trail.ends (h : Trail f i seen k) (hk : f k = none) (hz : Cyclic f z) : ¬ Reaches f i z := by
  intro hr
  have hik : Reaches f i k := by
    rcases Finset.mem_insert.1 h.start with rfl | hi
    · exact ReflTransGen.refl
    · exact h.back i hi
  have hnot : ¬ Cyclic f k := by
    rintro ⟨y, hy, _⟩
    rw [hk] at hy
    cases hy
  rcases hik.total hr with hkz | hzk
  · rcases ReflTransGen.cases_head hkz with rfl | ⟨y, hy, _⟩
    · exact hnot hz
    · rw [hk] at hy
      cases hy
  · exact hnot (hz.of_reaches hzk).2

theorem Enters.cut_clean (h : Enters f i c m) (hz : Cyclic (cut f c) z) : ¬ Reaches (cut f c) i z := by
  intro hr
  have hzf : Cyclic f z := hz.mono cut_sub
  have hiz : Reaches f i z := hr.mono cut_sub
  have hzm : Reaches f z m := (h.reaches.total hiz).elim (fun hmz => (h.cyclic.of_reaches hmz).1) id
  obtain ⟨y, hy, _⟩ := (hz.of_reaches (hz.descend cut_sub (hzm.trans h.back))).2
  rw [cut_self] at hy
  cases hy

/-! ## Relations -/

omit [DecidableEq α] in
/-- **A relation within a finite set that has no circle** is well-founded. -/
theorem wellFounded_of_acyclic {r : α → α → Prop} {s : Set α} (hs : s.Finite)
    (hmem : ∀ x y, r x y → x ∈ s ∧ y ∈ s) (hr : ∀ x, ¬ TransGen r x x) : WellFounded r := by
  have : IsStrictOrder α (TransGen r) := { irrefl := hr, trans := fun _ _ _ => TransGen.trans }
  have hon : s.WellFoundedOn (TransGen r) := hs.wellFoundedOn
  exact Subrelation.wf (fun {x y} h => ⟨TransGen.single h, hmem x y h⟩) (Set.wellFoundedOn_iff.1 hon)

end Chains
