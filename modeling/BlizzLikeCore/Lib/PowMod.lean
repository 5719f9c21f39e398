import Mathlib.NumberTheory.LucasPrimality
import Mathlib.Tactic.Common

/-!
# Powers modulo a number

`powMod a k n` is `a ^ k % n` by squaring, so that it can be computed for numbers of many digits.  A number
is prime when some `a` has order `n - 1` modulo it, which is checked on the prime factors of `n - 1`.

    powMod_eq        : it is the power, modulo the number
    prime_of_factors : the check
-/

namespace PowMod

def go (n : Nat) : Nat → Nat → Nat → Nat → Nat
  | 0, _, _, acc => acc
  | fuel + 1, a, k, acc => go n fuel (a * a % n) (k / 2) (if k % 2 = 1 then acc * a % n else acc)

def powMod (a k n : Nat) : Nat := go n (k.log2 + 1) a k (1 % n)

theorem go_eq (n fuel a k acc : Nat) (hk : k < 2 ^ fuel) (hacc : acc % n = acc) :
    go n fuel a k acc = acc * a ^ k % n := by
  induction fuel generalizing a k acc with
  | zero =>
    have hzero : k = 0 := by
      rw [Nat.pow_zero] at hk
      omega
    rw [hzero, go, Nat.pow_zero, Nat.mul_one, hacc]
  | succ fuel ih =>
    have hhalf : k / 2 < 2 ^ fuel := by
      rw [Nat.pow_succ] at hk
      omega
    have hsq : (a * a % n) ^ (k / 2) % n = a ^ (2 * (k / 2)) % n := by
      rw [← Nat.pow_mod, ← Nat.pow_two, ← Nat.pow_mul]
    rw [go]
    split
    · next hodd =>
      rw [ih _ _ _ hhalf (Nat.mod_mod _ _), Nat.mul_mod, Nat.mod_mod, hsq, ← Nat.mul_mod, Nat.mul_assoc,
        ← Nat.pow_succ']
      congr 3
      omega
    · next heven =>
      rw [ih _ _ _ hhalf hacc, Nat.mul_mod, hsq, ← Nat.mul_mod]
      congr 3
      omega

theorem powMod_eq (a k n : Nat) : powMod a k n = a ^ k % n := by
  rw [powMod, go_eq n _ a k _ Nat.lt_log2_self (Nat.mod_mod _ _), Nat.mul_mod, Nat.mod_mod, ← Nat.mul_mod, Nat.one_mul]

theorem cast_eq_one_iff (a k : Nat) {n : Nat} (hn : 1 < n) : (a : ZMod n) ^ k = 1 ↔ powMod a k n = 1 := by
  have hone : 1 % n = 1 := Nat.mod_eq_of_lt hn
  rw [powMod_eq, ← Nat.cast_pow, ← Nat.cast_one, ZMod.natCast_eq_natCast_iff', hone]

/-- **A primality certificate**: the prime factors of `n - 1`, and a number whose order has all of them. -/
theorem prime_of_factors {n : Nat} (a : Nat) (ps : List Nat) (hn : 1 < n) (hps : ∀ p ∈ ps, p.Prime)
    (hdvd : n - 1 ∣ ps.prod) (h1 : powMod a (n - 1) n = 1)
    (h : ∀ p ∈ ps, powMod a ((n - 1) / p) n ≠ 1) : n.Prime := by
  refine lucas_primality n a ((cast_eq_one_iff a _ hn).2 h1) fun q hq hqn => ?_
  have hmem : q ∈ ps := by
    obtain ⟨p, hp, hqp⟩ := (hq.prime.dvd_prod_iff).1 (hqn.trans hdvd)
    rwa [(Nat.prime_dvd_prime_iff_eq hq (hps p hp)).1 hqp]
  exact fun he => h q hmem ((cast_eq_one_iff a _ hn).1 he)

end PowMod
