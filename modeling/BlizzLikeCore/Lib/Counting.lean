import Mathlib.Data.Finset.Card
import Mathlib.Data.List.Basic
import Mathlib.Tactic.Common

/-!
# Counts kept beside a list

How the number of entries with a property moves when one entry is changed or taken out, in
additive form.  A counter that is raised and lowered with the entries is in step with the list
when both sides move by the same.

    countP_modify : one entry is changed in place
    countP_eraseP : the first entry with a property is taken out

A counter of `m` values that is raised and lowered with a set `Counts` it, up to multiples of `m`.

    Counts.add  : members are added
    Counts.take : a member is taken out
-/

namespace Counting

open List

variable {α : Type*}

theorem countP_modify (l : List α) (i : Nat) (a : α) (h : l[i]? = some a) (f : α → α) (p : α → Bool) :
    (l.modify i f).countP p + (if p a then 1 else 0) = l.countP p + if p (f a) then 1 else 0 := by
  induction l generalizing i with
  | nil => cases h
  | cons b l ih =>
    cases i with
    | zero =>
      obtain rfl := Option.some.inj h
      rw [modify_zero_cons, countP_cons, countP_cons]
      omega
    | succ i =>
      have := ih i h
      rw [modify_succ_cons, countP_cons, countP_cons]
      omega

theorem countP_eraseP (l : List α) (q : α → Bool) (a : α) (h : l.find? q = some a) (p : α → Bool) :
    (l.eraseP q).countP p + (if p a then 1 else 0) = l.countP p := by
  induction l with
  | nil => cases h
  | cons b l ih =>
    cases hb : q b with
    | true =>
      rw [find?_cons_of_pos hb] at h
      obtain rfl := Option.some.inj h
      rw [eraseP_cons_of_pos hb, countP_cons]
    | false =>
      rw [find?_cons_of_neg (by simp [hb])] at h
      have := ih h
      rw [eraseP_cons_of_neg (by simp [hb]), countP_cons, countP_cons]
      omega

/-- There are fewer with a property that one of those with a weaker one does not have. -/
theorem countP_lt {l : List α} {p q : α → Bool} {a : α} (hpq : ∀ x ∈ l, p x = true → q x = true) (ha : a ∈ l)
    (hp : ¬ p a = true) (hq : q a = true) : l.countP p < l.countP q := by
  obtain ⟨l₁, l₂, rfl⟩ := append_of_mem ha
  have h₁ : l₁.countP p ≤ l₁.countP q := countP_mono_left fun x hx => hpq x (mem_append_left _ hx)
  have h₂ : l₂.countP p ≤ l₂.countP q := countP_mono_left fun x hx => hpq x (by simp [hx])
  rw [countP_append, countP_append, countP_cons_of_neg hp, countP_cons_of_pos hq]
  omega

theorem length_eraseP_find (l : List α) (q : α → Bool) (a : α) (h : l.find? q = some a) :
    (l.eraseP q).length + 1 = l.length := by
  have := countP_eraseP l q a h fun _ => true
  simpa using this

theorem findIdx?_of_find? (l : List α) (q : α → Bool) (a : α) (h : l.find? q = some a) :
    ∃ i, l.findIdx? q = some i ∧ l[i]? = some a := by
  rw [find?_eq_bind_findIdx?_getElem?] at h
  exact Option.bind_eq_some_iff.1 h

theorem findIdx?_of_find?_none (l : List α) (q : α → Bool) (h : l.find? q = none) : l.findIdx? q = none :=
  findIdx?_eq_none_iff.2 fun x hx => by simpa using find?_eq_none.1 h x hx

theorem modify_ne_nil {l : List α} {p : α → Bool} {i : Nat} (h : l.findIdx? p = some i) (f : α → α) :
    l.modify i f ≠ [] := by
  intro he
  have hlt := (List.findIdx?_eq_some_iff_getElem.1 h).1
  have := congrArg List.length he
  rw [List.length_modify, List.length_nil] at this
  omega

theorem map_modify {β : Type*} (l : List α) (i : Nat) (g : α → α) (f : α → β) (h : ∀ a, f (g a) = f a) :
    (l.modify i g).map f = l.map f := by
  refine ext_getElem? fun j => ?_
  simp only [getElem?_map, getElem?_modify]
  cases l[j]? with
  | none => rfl
  | some a => by_cases hij : i = j <;> simp [hij, h]

/-! ## Counters of sets -/

variable {m n k : Nat} {P Q : α → Prop}

/-- A counter of `m` values shows the number of things with a property. -/
def Counts (m n : Nat) (P : α → Prop) : Prop := ∃ U : Finset α, (∀ u, u ∈ U ↔ P u) ∧ n = U.card % m

theorem Counts.congr (h : Counts m n P) (hPQ : ∀ u, Q u ↔ P u) : Counts m n Q := by
  obtain ⟨U, hU, hn⟩ := h
  exact ⟨U, fun u => (hU u).trans (hPQ u).symm, hn⟩

theorem Counts.empty (hP : ∀ u, ¬ P u) : Counts m 0 P :=
  ⟨∅, fun u => iff_of_false (Finset.notMem_empty u) (hP u), (Nat.zero_mod m).symm⟩

/-- **Members are added** that were not there. -/
theorem Counts.add [DecidableEq α] (h : Counts m n P) {l : List α} (hnodup : l.Nodup) (hnew : ∀ u ∈ l, ¬ P u)
    (hQ : ∀ u, Q u ↔ P u ∨ u ∈ l) : Counts m ((n + l.length) % m) Q := by
  obtain ⟨U, hU, rfl⟩ := h
  have hdisj : Disjoint U l.toFinset := Finset.disjoint_left.2 fun u hu hul =>
    hnew u (List.mem_toFinset.1 hul) ((hU u).1 hu)
  refine ⟨U ∪ l.toFinset, fun u => ?_, ?_⟩
  · rw [Finset.mem_union, hU, List.mem_toFinset, hQ]
  · rw [Finset.card_union_of_disjoint hdisj, List.toFinset_card_of_nodup hnodup, Nat.mod_add_mod]

/-- **A member is taken out**: the counter goes down by one, that is up by `m - 1`. -/
theorem Counts.take [DecidableEq α] (h : Counts (m + 1) n P) {a : α} (ha : P a) (hQ : ∀ u, Q u ↔ P u ∧ u ≠ a) :
    Counts (m + 1) ((n + m) % (m + 1)) Q := by
  obtain ⟨U, hU, rfl⟩ := h
  have haU : a ∈ U := (hU a).2 ha
  refine ⟨U.erase a, fun u => ?_, ?_⟩
  · rw [Finset.mem_erase, hU, hQ]
    exact and_comm
  · have hpos : 0 < U.card := Finset.card_pos.2 ⟨a, haU⟩
    rw [Finset.card_erase_of_mem haU, Nat.mod_add_mod, show U.card + m = U.card - 1 + (m + 1) by omega,
      Nat.add_mod_right]

end Counting
