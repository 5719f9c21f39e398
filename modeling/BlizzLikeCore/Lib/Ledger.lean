import Mathlib.Algebra.BigOperators.Group.Finset.Basic
import Mathlib.Algebra.Order.BigOperators.Group.Finset

/-!
# Ledgers: sums over a finite set of accounts

A ledger gives every account of a finite set a natural balance.  The lemma says how the sum
moves when one balance changes: it is what conservation proofs use instead of unfolding the
sum.

    sum_change_one : f and g agree off a → ∑ f + g a = ∑ g + f a
-/

namespace Ledger

variable {ι : Type*} [DecidableEq ι] (S : Finset ι) (f g : ι → Nat)

/-- **One balance changes.** -/
theorem sum_change_one (a : ι) (ha : a ∈ S) (h : ∀ x ∈ S, x ≠ a → f x = g x) :
    S.sum f + g a = S.sum g + f a := by
  have hf : f a + (S.erase a).sum f = S.sum f := Finset.add_sum_erase S f ha
  have hg : g a + (S.erase a).sum g = S.sum g := Finset.add_sum_erase S g ha
  have he : (S.erase a).sum f = (S.erase a).sum g := by
    refine Finset.sum_congr rfl fun x hx => ?_
    obtain ⟨hne, hmem⟩ := Finset.mem_erase.1 hx
    exact h x hmem hne
  omega

end Ledger
