import Mathlib.Tactic.Common

/-!
# Counted loops that may stop

`forLoop f n s` is `for (i = 0; i < n; ++i)` over a state: turn `i` takes it on, or stops it all.

    forLoop_keeps : what every turn keeps holds at the end
    forLoop_ne_error : a loop stops as turns do
    forLoop_exact : when a turn ends exactly under its condition, the loop does under all of them
-/

namespace ForLoop

universe u v

variable {ε : Type u} {σ τ : Type v}

def forLoop (f : Nat → σ → Except ε σ) : Nat → σ → Except ε σ
  | 0, s => .ok s
  | n + 1, s => forLoop f n s >>= f n

theorem bind_eq_ok {m : Except ε σ} {f : σ → Except ε τ} {t : τ} :
    (m >>= f) = .ok t ↔ ∃ s, m = .ok s ∧ f s = .ok t := by
  cases m with
  | error e => simp [bind, Except.bind]
  | ok s => simp [bind, Except.bind]

theorem ite_eq_ok {c : Prop} [Decidable c] {e : ε} {s t : σ} :
    (if c then Except.ok s else .error e) = .ok t ↔ c ∧ t = s := by
  by_cases hc : c <;> simp [hc, eq_comm]

theorem bind_ne_error {e : ε} {m : Except ε σ} {f : σ → Except ε τ} (hm : m ≠ .error e)
    (hf : ∀ s, f s ≠ .error e) : (m >>= f) ≠ .error e := by
  cases m with
  | error e' => exact fun h => hm (by cases h; rfl)
  | ok s => exact hf s

variable {f : Nat → σ → Except ε σ} {I : Nat → σ → Prop} {C : Nat → Prop} {n : Nat} {s t : σ}

/-- **What turns keep** holds at the end. -/
theorem forLoop_keeps (h0 : I 0 s) (hturn : ∀ i < n, ∀ s t, I i s → f i s = .ok t → I (i + 1) t)
    (h : forLoop f n s = .ok t) : I n t := by
  induction n generalizing t with
  | zero =>
    cases h
    exact h0
  | succ n ih =>
    obtain ⟨u, hu, ht⟩ := bind_eq_ok.1 h
    exact hturn n n.lt_succ_self u t (ih (fun i hi => hturn i (by omega)) hu) ht

theorem forLoop_ne_error {e : ε} (hturn : ∀ i s, f i s ≠ .error e) : forLoop f n s ≠ .error e := by
  induction n with
  | zero => exact fun h => nomatch h
  | succ n ih => exact bind_ne_error ih (hturn n)

/-- **When a loop ends**: exactly when the condition of each turn holds. -/
theorem forLoop_exact (h0 : I 0 s) (hturn : ∀ i < n, ∀ s t, I i s → f i s = .ok t → I (i + 1) t)
    (hends : ∀ i < n, ∀ s, I i s → ((∃ t, f i s = .ok t) ↔ C i)) :
    (∃ t, forLoop f n s = .ok t) ↔ ∀ i < n, C i := by
  induction n with
  | zero => exact ⟨fun _ i hi => absurd hi i.not_lt_zero, fun _ => ⟨s, rfl⟩⟩
  | succ n ih =>
    have ih := ih (fun i hi => hturn i (by omega)) (fun i hi => hends i (by omega))
    have hkeeps : ∀ u, forLoop f n s = .ok u → I n u :=
      fun u hu => forLoop_keeps h0 (fun i hi => hturn i (by omega)) hu
    constructor
    · rintro ⟨t, ht⟩ i hi
      obtain ⟨u, hu, ht⟩ := bind_eq_ok.1 ht
      by_cases hin : i = n
      · rw [hin]
        exact (hends n n.lt_succ_self u (hkeeps u hu)).1 ⟨t, ht⟩
      · exact ih.1 ⟨u, hu⟩ i (by omega)
    · intro hall
      obtain ⟨u, hu⟩ := ih.2 fun i hi => hall i (by omega)
      obtain ⟨t, ht⟩ := (hends n n.lt_succ_self u (hkeeps u hu)).2 (hall n n.lt_succ_self)
      exact ⟨t, bind_eq_ok.2 ⟨u, hu, ht⟩⟩

end ForLoop
