import Mathlib.Tactic.Common

/-!
# Machines that read and write

A machine `f : σ → α → σ × β` changes its state with every letter it reads and writes one.  `run`
makes it a machine on words, and so again one on lists of words; `Undoes m f g` says that `g`,
started in the state `m` makes of that of `f`, reads what `f` writes back to what `f` has read
and ends in step with it.

    Undoes.run     : what holds letter by letter holds word by word
    Undoes.onFirst : and of the machines that leave all but the first letters alone
-/

namespace Mealy

variable {σ τ α β : Type*}

def run (f : σ → α → σ × β) : σ → List α → σ × List β
  | s, [] => (s, [])
  | s, a :: as => ((run f (f s a).1 as).1, (f s a).2 :: (run f (f s a).1 as).2)

/-- Words with fewer than `n` letters are left alone, of others the first `n` letters are read. -/
def onFirst (n : Nat) (f : σ → α → σ × α) (s : σ) (as : List α) : σ × List α :=
  if as.length < n then (s, as) else ((run f s (as.take n)).1, (run f s (as.take n)).2 ++ as.drop n)

def Undoes (m : σ → τ) (f : σ → α → σ × β) (g : τ → β → τ × α) : Prop :=
  ∀ s a, g (m s) (f s a).2 = (m (f s a).1, a)

theorem run_length (f : σ → α → σ × β) (s : σ) (as : List α) : (run f s as).2.length = as.length := by
  induction as generalizing s with
  | nil => rfl
  | cons a as ih => exact congrArg Nat.succ (ih (f s a).1)

variable {m : σ → τ}

/-- **Words**: the machine that undoes every letter undoes every word. -/
theorem Undoes.run {f : σ → α → σ × β} {g : τ → β → τ × α} (h : Undoes m f g) :
    Undoes m (Mealy.run f) (Mealy.run g) := by
  intro s as
  induction as generalizing s with
  | nil => rfl
  | cons a as ih => simp only [Mealy.run, h s a, ih (f s a).1]

/-- **Beginnings of words**. -/
theorem Undoes.onFirst {f : σ → α → σ × α} {g : τ → α → τ × α} (h : Undoes m f g) (n : Nat) :
    Undoes m (Mealy.onFirst n f) (Mealy.onFirst n g) := by
  intro s as
  unfold Mealy.onFirst
  by_cases hlen : as.length < n
  · simp only [hlen, if_true]
  · have hfirst : (Mealy.run f s (as.take n)).2.length = n := by
      rw [run_length, List.length_take]
      omega
    have hwritten : ¬((Mealy.run f s (as.take n)).2 ++ as.drop n).length < n := by
      rw [List.length_append]
      omega
    simp only [hlen, hwritten, if_false]
    rw [List.take_left' hfirst, List.drop_left' hfirst, h.run]
    simp only [List.take_append_drop]

end Mealy
