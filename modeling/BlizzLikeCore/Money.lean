import BlizzLikeCore.Item

/-!
# Purses

`ModifyMoney` takes an `int32`, so every `uint32` amount that reaches it is reinterpreted, and
it clamps the purse to `[0, MAX_MONEY_AMOUNT]`.  The clamp is exact for every change but one: the
room left in the purse, `uint32(MAX_MONEY_AMOUNT - d)`, wraps for the largest `int32`
(`modifyMoney_clamps_iff`).
-/

namespace BlizzLike

def maxMoneyAmount : Nat := 0x7FFFFFFF - 1

/-- A `uint32` read as an `int32`. -/
def toInt32 (n : Nat) : Int :=
  if n % 4294967296 < 2147483648 then (n % 4294967296 : Nat) else (n % 4294967296 : Nat) - 4294967296

/-- An `int32` stored in a `uint32`. -/
def u32OfInt (d : Int) : Nat := (d % 4294967296).toNat

/-- `ModifyMoney` on a purse. -/
def modifyMoney (money : Nat) (d : Int) : Nat :=
  if d < 0 then
    if money > u32OfInt (-d) then u32OfInt (money + d) else 0
  else
    if money < u32OfInt (maxMoneyAmount - d) then u32OfInt (money + d) else maxMoneyAmount

/-! ## Lemmas -/

theorem toInt32_eq (n : Nat) (h : n ≤ maxMoneyAmount) : toInt32 n = n := by
  unfold maxMoneyAmount at h
  unfold toInt32
  rw [Nat.mod_eq_of_lt (by omega), if_pos (by omega)]

theorem modifyMoney_pay (money amount : Nat) (h : amount ≤ money) (hm : money ≤ maxMoneyAmount) :
    modifyMoney money (-toInt32 amount) = money - amount := by
  rw [toInt32_eq _ (Nat.le_trans h hm)]
  unfold maxMoneyAmount at hm
  unfold modifyMoney u32OfInt maxMoneyAmount
  split <;> split <;> omega

theorem modifyMoney_receive (money amount : Nat) (hm : money ≤ maxMoneyAmount)
    (ha : amount ≤ maxMoneyAmount) :
    modifyMoney money (toInt32 amount) = min (money + amount) maxMoneyAmount := by
  rw [toInt32_eq _ ha]
  unfold maxMoneyAmount at hm ha
  unfold modifyMoney u32OfInt maxMoneyAmount
  split <;> split <;> omega

/-- A purse stays within the limit, but for the one amount the limit check misses. -/
theorem modifyMoney_le (money : Nat) (d : Int) (hm : money ≤ maxMoneyAmount) (hd : d < 2147483647)
    (hd' : -2147483648 ≤ d) : modifyMoney money d ≤ maxMoneyAmount := by
  unfold maxMoneyAmount at hm
  unfold modifyMoney u32OfInt maxMoneyAmount
  split <;> split <;> omega

theorem u32OfInt_lt (d : Int) : u32OfInt d < 4294967296 := by
  unfold u32OfInt
  omega

theorem modifyMoney_lt (money : Nat) (d : Int) : modifyMoney money d < 4294967296 := by
  have hlt := u32OfInt_lt (money + d)
  unfold modifyMoney maxMoneyAmount
  split <;> split <;> omega

theorem modifyMoney_take_iff (money : Nat) (d : Int) (hm : money < 4294967296) (hd : d < 0) (hge : -2147483648 ≤ d) :
    (modifyMoney money d : Int) = money + d ↔ -d ≤ money := by
  unfold modifyMoney u32OfInt
  rw [if_pos hd]
  split <;> omega

/-! ## The clamp -/

/-- The value a purse is meant to hold after a change. -/
def clampMoney (money : Nat) (d : Int) : Int := max 0 (min (money + d) maxMoneyAmount)

theorem modifyMoney_loss (money : Nat) (d : Int) (hm : money ≤ maxMoneyAmount) (hd : d < 0)
    (hge : -2147483648 ≤ d) : (modifyMoney money d : Int) = clampMoney money d := by
  unfold maxMoneyAmount at hm
  unfold modifyMoney clampMoney u32OfInt maxMoneyAmount
  rw [if_pos hd]
  split <;> omega

theorem modifyMoney_gain (money : Nat) (d : Int) (hm : money ≤ maxMoneyAmount) (hd : 0 ≤ d)
    (hlt : d < 2147483647) : (modifyMoney money d : Int) = clampMoney money d := by
  unfold maxMoneyAmount at hm
  unfold modifyMoney clampMoney u32OfInt maxMoneyAmount
  rw [if_neg (by omega)]
  split <;> omega

theorem modifyMoney_largest (money : Nat) (hm : money ≤ maxMoneyAmount) :
    modifyMoney money 2147483647 = money + 2147483647 := by
  unfold maxMoneyAmount at hm
  unfold modifyMoney u32OfInt maxMoneyAmount
  rw [if_neg (by omega), if_pos (by omega)]
  omega

/-- **A change of the purse is clamped, exactly but for the largest one.**  For every purse within
the limit and every `int32` change, `ModifyMoney` leaves the clamped sum just if the change is not
`2147483647`. -/
theorem modifyMoney_clamps_iff (money : Nat) (d : Int) (hm : money ≤ maxMoneyAmount)
    (hge : -2147483648 ≤ d) (hlt : d < 2147483648) :
    (modifyMoney money d : Int) = clampMoney money d ↔ d ≠ 2147483647 := by
  constructor
  · rintro h rfl
    rw [modifyMoney_largest money hm] at h
    unfold clampMoney maxMoneyAmount at h
    omega
  · intro hne
    by_cases hd : d < 0
    · exact modifyMoney_loss money d hm hd hge
    · exact modifyMoney_gain money d hm (by omega) (by omega)

theorem modifyMoney_clamps_iff_loot :
    (modifyMoney 2147483000 5000 : Int) = clampMoney 2147483000 5000 ↔ (5000 : Int) ≠ 2147483647 :=
  modifyMoney_clamps_iff 2147483000 5000 (by decide) (by decide) (by decide)

/-- An empty purse that gains `2147483647` copper ends one over the limit. -/
theorem modifyMoney_over_limit :
    modifyMoney 0 2147483647 = 2147483647 ∧ clampMoney 0 2147483647 = 2147483646 := by
  decide

end BlizzLike
