import Mathlib.Data.Nat.Bitwise
import Mathlib.Data.Nat.Digits.Lemmas
import Mathlib.Tactic.Common

/-!
# Little-endian bytes

`le n x` are the `n` low bytes of `x`, the lowest first, and `value` is what bytes stand for.
`nonzero n x` are those of them that are not zero: with a mask that tells which these are, `x` is
put together again by adding one after the other.

    value_le      : the value of the low bytes is the number, wrapped
    or_byte       : one byte more above those below
    testBit_or_bit : a mask to which one bit is added
-/

namespace Bytes

def le : Nat → Nat → List UInt8
  | 0, _ => []
  | n + 1, x => UInt8.ofNat x :: le n (x / 256)

def value (bs : List UInt8) : Nat := Nat.ofDigits 256 (bs.map UInt8.toNat)

def nonzero : Nat → Nat → List UInt8
  | 0, _ => []
  | n + 1, x => (if x % 256 ≠ 0 then [UInt8.ofNat x] else []) ++ nonzero n (x / 256)

@[simp] theorem le_length (n x : Nat) : (le n x).length = n := by
  induction n generalizing x with
  | zero => rfl
  | succ n ih => simp [le, ih]

theorem le_zero (n : Nat) : le n 0 = List.replicate n 0 := by
  induction n with
  | zero => rfl
  | succ n ih => simp [le, ih, List.replicate_succ]

@[simp] theorem value_nil : value [] = 0 := rfl

@[simp] theorem value_cons (b : UInt8) (bs : List UInt8) : value (b :: bs) = b.toNat + 256 * value bs := by
  simp [value, Nat.ofDigits_cons]

theorem value_replicate_append (k : Nat) (bs : List UInt8) : value (List.replicate k 0 ++ bs) = 256 ^ k * value bs := by
  induction k with
  | zero => simp
  | succ k ih =>
    rw [List.replicate_succ, List.cons_append, value_cons, ih, Nat.pow_succ']
    simp [Nat.mul_assoc]

theorem value_lt (bs : List UInt8) : value bs < 256 ^ bs.length := by
  induction bs with
  | nil => simp
  | cons b bs ih =>
    have hb := b.toNat_lt
    rw [value_cons, List.length_cons, Nat.pow_succ]
    omega

/-- **The low bytes** of a number stand for it, wrapped to their width. -/
theorem value_le (n x : Nat) : value (le n x) = x % 256 ^ n := by
  induction n generalizing x with
  | zero => simp [le, Nat.mod_one]
  | succ n ih =>
    rw [le, value_cons, ih, Nat.pow_succ', Nat.mod_mul]
    simp

theorem le_mod (n x : Nat) : le n (x % 256 ^ n) = le n x := by
  induction n generalizing x with
  | zero => rfl
  | succ n ih =>
    have hlow : UInt8.ofNat (x % 256 ^ (n + 1)) = UInt8.ofNat x := by
      apply UInt8.toNat_inj.1
      rw [UInt8.toNat_ofNat', UInt8.toNat_ofNat', Nat.pow_succ']
      exact Nat.mod_mul_right_mod x 256 (256 ^ n)
    rw [le, le, hlow, ← ih (x / 256), Nat.pow_succ', Nat.mod_mul_right_div_self]

@[simp] theorem nonzero_zero (n : Nat) : nonzero n 0 = [] := by
  induction n with
  | zero => rfl
  | succ n ih => simp [nonzero, ih]

/-- **One byte more**: the bytes below position `i` and the byte there make those up to it. -/
theorem or_byte (x i : Nat) : x % 256 ^ i ||| (x / 256 ^ i % 256) <<< (8 * i) = x % 256 ^ (i + 1) := by
  have hpow : 256 ^ i = 2 ^ (8 * i) := by rw [Nat.pow_mul]
  have hlt : x % 256 ^ i < 2 ^ (8 * i) := by
    rw [← hpow]
    exact Nat.mod_lt _ (Nat.pow_pos (by decide))
  rw [Nat.or_comm, ← Nat.shiftLeft_add_eq_or_of_lt hlt, Nat.shiftLeft_eq, Nat.mod_pow_succ, ← hpow]
  ring

theorem testBit_or_bit (mask i j : Nat) : (mask ||| 1 <<< i).testBit j = (mask.testBit j || decide (i = j)) := by
  rw [Nat.testBit_or, Nat.one_shiftLeft, Nat.testBit_two_pow]

theorem and_bit_ne_zero (mask i : Nat) : mask &&& 1 <<< i ≠ 0 ↔ mask.testBit i = true := by
  rw [Nat.one_shiftLeft, Nat.and_two_pow]
  cases mask.testBit i <;> simp

end Bytes
