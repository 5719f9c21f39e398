import BlizzLikeCore.Lib.PowMod
import Mathlib.Tactic.NormNum.Prime

/-!
# The group of the logon proofs

`N` and `g` as `AuthSocket` sets them.  `N` is prime: so is `(N - 1) / 2`, whose predecessor has been factored.
-/

namespace BlizzLike

namespace Srp6

def N : Nat := 0x894B645E89E1535BBDAD5B8B290650530801B18EBFBF5E8FAB3C82872A3E9BB7

def g : Nat := 7

open PowMod

/-! ## Prime factors -/

theorem prime_118574434367 : Nat.Prime 118574434367 := by
  have h29643608591 : Nat.Prime 29643608591 := by
    refine prime_of_factors 7 [2, 5, 73, 40607683] (by decide) (fun p hp => ?_) (by decide) (by decide +kernel)
      (by decide +kernel)
    fin_cases hp <;> norm_num
  have h59287217183 : Nat.Prime 59287217183 := by
    refine prime_of_factors 5 [2, 29643608591] (by decide) (fun p hp => ?_) (by decide) (by decide +kernel)
      (by decide +kernel)
    fin_cases hp
    · norm_num
    · exact h29643608591
  refine prime_of_factors 5 [2, 59287217183] (by decide) (fun p hp => ?_) (by decide) (by decide +kernel)
    (by decide +kernel)
  fin_cases hp
  · norm_num
  · exact h59287217183

theorem prime_3110557453940813197 : Nat.Prime 3110557453940813197 := by
  have h259213121161734433 : Nat.Prime 259213121161734433 := by
    refine prime_of_factors 10 [2, 2, 2, 2, 2, 3, 7, 11, 571, 226199, 271499] (by decide) (fun p hp => ?_) (by decide)
      (by decide +kernel) (by decide +kernel)
    fin_cases hp <;> norm_num
  refine prime_of_factors 2 [2, 2, 3, 259213121161734433] (by decide) (fun p hp => ?_) (by decide) (by decide +kernel)
    (by decide +kernel)
  fin_cases hp
  · norm_num
  · norm_num
  · norm_num
  · exact h259213121161734433

theorem prime_3345116454683 : Nat.Prime 3345116454683 := by
  refine prime_of_factors 2 [2, 311, 769, 6993499] (by decide) (fun p hp => ?_) (by decide) (by decide +kernel)
    (by decide +kernel)
  fin_cases hp <;> norm_num

theorem prime_1573682880936379 : Nat.Prime 1573682880936379 := by
  have h2194081313 : Nat.Prime 2194081313 := by
    refine prime_of_factors 3 [2, 2, 2, 2, 2, 6079, 11279] (by decide) (fun p hp => ?_) (by decide) (by decide +kernel)
      (by decide +kernel)
    fin_cases hp <;> norm_num
  have h6099546050141 : Nat.Prime 6099546050141 := by
    refine prime_of_factors 2 [2, 2, 5, 139, 2194081313] (by decide) (fun p hp => ?_) (by decide) (by decide +kernel)
      (by decide +kernel)
    fin_cases hp
    · norm_num
    · norm_num
    · norm_num
    · norm_num
    · exact h2194081313
  refine prime_of_factors 2 [2, 3, 43, 6099546050141] (by decide) (fun p hp => ?_) (by decide) (by decide +kernel)
    (by decide +kernel)
  fin_cases hp
  · norm_num
  · norm_num
  · norm_num
  · exact h6099546050141

theorem prime_2279079126837977412406933585396045119937459 :
    Nat.Prime 2279079126837977412406933585396045119937459 := by
  refine prime_of_factors 3 [2, 3, 7, 31, 11839, 28086973, 3345116454683, 1573682880936379] (by decide)
    (fun p hp => ?_) (by decide) (by decide +kernel) (by decide +kernel)
  fin_cases hp
  · norm_num
  · norm_num
  · norm_num
  · norm_num
  · norm_num
  · norm_num
  · exact prime_3345116454683
  · exact prime_1573682880936379

/-! ## The modulus -/

theorem prime_half : Nat.Prime ((N - 1) / 2) := by
  refine prime_of_factors 2 [2, 11, 23, 73, 118574434367, 3110557453940813197,
    2279079126837977412406933585396045119937459] (by decide) (fun p hp => ?_) (by decide) (by decide +kernel)
    (by decide +kernel)
  fin_cases hp
  · norm_num
  · norm_num
  · norm_num
  · norm_num
  · exact prime_118574434367
  · exact prime_3110557453940813197
  · exact prime_2279079126837977412406933585396045119937459

/-- **The modulus is prime**, and so is half its predecessor. -/
theorem prime_N : Nat.Prime N := by
  refine prime_of_factors g [2, (N - 1) / 2] (by decide) (fun p hp => ?_) (by decide) (by decide +kernel)
    (by decide +kernel)
  fin_cases hp
  · norm_num
  · exact prime_half

end Srp6

end BlizzLike
