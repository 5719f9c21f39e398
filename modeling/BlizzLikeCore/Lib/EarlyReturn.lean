import Mathlib.Tactic.Common

/-!
# Loops with early returns

`forEach f xs s` runs `f` over a list; a turn that gives an error returns from the function at once, with
that value, and what comes after the loop is not run.

    Meets         : where a part of the function ends, if it ends or returns
    Meets.bind    : one part after another
    Meets.forEach : the rule for loops; the invariant speaks of what is still ahead
    Meets.result  : what the function returns
-/

namespace EarlyReturn

universe u v w

variable {ρ : Type u} {σ τ : Type v} {α : Type w}

/-- The loop. -/
def forEach (f : α → σ → Except ρ σ) : List α → σ → Except ρ σ
  | [], s => .ok s
  | x :: xs, s => f x s >>= forEach f xs

/-- What the function returns when its end is reached or it returned before. -/
def result (f : σ → ρ) : Except ρ σ → ρ
  | .ok s => f s
  | .error r => r

/-- It ends with `Q`, or it returned `R`. -/
def Meets (m : Except ρ σ) (Q : σ → Prop) (R : ρ → Prop) : Prop :=
  match m with
  | .ok s => Q s
  | .error r => R r

variable {m : Except ρ σ} {P Q : σ → Prop} {R : ρ → Prop} {f : α → σ → Except ρ σ} {xs : List α} {s : σ}

theorem Meets.bind {k : σ → Except ρ τ} {Q' : τ → Prop} (hm : Meets m P R) (hk : ∀ s, P s → Meets (k s) Q' R) :
    Meets (m >>= k) Q' R := by
  cases m with
  | ok s => exact hk s hm
  | error r => exact hm

theorem Meets.imp {Q' : σ → Prop} (hm : Meets m Q R) (h : ∀ s, Q s → Q' s) : Meets m Q' R := by
  cases m with
  | ok s => exact h s hm
  | error r => exact hm

/-- **The rule for loops**: a turn takes the invariant from what is ahead of it to what is behind. -/
theorem Meets.forEach {I : List α → σ → Prop} (h : I xs s)
    (hturn : ∀ x xs s, I (x :: xs) s → Meets (f x s) (I xs) R) : Meets (forEach f xs s) (I []) R := by
  induction xs generalizing s with
  | nil => exact h
  | cons x xs ih => exact (hturn x xs s h).bind fun _ hs => ih hs

theorem Meets.result {g : σ → ρ} (hm : Meets m Q R) (h : ∀ s, Q s → R (g s)) : R (result g m) := by
  cases m with
  | ok s => exact h s hm
  | error r => exact hm

end EarlyReturn
