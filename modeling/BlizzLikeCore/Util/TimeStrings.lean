import BlizzLikeCore.Item
import BlizzLikeCore.Times

/-!
# Durations as text

`secsToTimeString` writes a number of seconds as days, hours, minutes and seconds and leaves out what is
zero; `TimeStringToSecs` reads the short form.  Digits are read in turn, and each unit adds what has
been read since the one before (`parse_unit`): the short form is read back (`timeString_read`).
-/

namespace BlizzLike

def secsToTimeString (timeInSecs : Nat) (shortText hoursOnly : Bool) : List Char :=
  let secs := timeInSecs % minute
  let minutes := timeInSecs % hour / minute
  let hours := timeInSecs % day / hour
  let days := timeInSecs / day
  let text (n : Nat) (short long : List Char) := Nat.toDigits 10 n ++ if shortText then short else long
  (if days ≠ 0 then text days ['d'] " Day(s) ".toList else []) ++
    (if hours ≠ 0 ∨ hoursOnly then text hours ['h'] " Hour(s) ".toList else []) ++
    if hoursOnly then []
    else
      (if minutes ≠ 0 then text minutes ['m'] " Minute(s) ".toList else []) ++
        if secs ≠ 0 ∨ days = 0 ∧ hours = 0 ∧ minutes = 0 then text secs ['s'] " Second(s).".toList else []

/-- The factor of a unit's letter. -/
def timeMultiplier : Char → Option Nat
  | 'd' => some day
  | 'h' => some hour
  | 'm' => some minute
  | 's' => some 1
  | _ => none

/-- The loop of `TimeStringToSecs`, in `uint32` arithmetic. -/
def parseTime (secs buffer : Nat) : List Char → Nat
  | [] => secs
  | c :: cs =>
    if c.isDigit then parseTime secs (u32 (u32 (buffer * 10) + (c.toNat - 48))) cs
    else
      match timeMultiplier c with
      | some multiplier => parseTime (u32 (secs + u32 (buffer * multiplier))) 0 cs
      | none => 0

def timeStringToSecs (timestring : List Char) : Nat := parseTime 0 0 timestring

/-! ## Reading numbers and units -/

theorem parseTime_digit (secs buffer d : Nat) (hd : d < 10) (cs : List Char) :
    parseTime secs buffer (Nat.digitChar d :: cs) = parseTime secs (u32 (buffer * 10 + d)) cs := by
  have hdigit : (Nat.digitChar d).isDigit = true := Nat.isDigit_digitChar.trans (decide_eq_true hd)
  rw [parseTime, if_pos hdigit, Nat.toNat_digitChar_of_lt_ten hd]
  congr 1
  unfold u32
  omega

/-- **A number** is read as it has been written, in 32 bits. -/
theorem parseTime_digits (n secs : Nat) (cs : List Char) :
    parseTime secs 0 (Nat.toDigits 10 n ++ cs) = parseTime secs (u32 n) cs := by
  induction n using Nat.strongRecOn generalizing cs with
  | ind n ih =>
    by_cases hn : n < 10
    · rw [Nat.toDigits_of_lt_base hn, List.singleton_append, parseTime_digit _ _ _ hn]
      simp
    · have hdiv : n / 10 < n := by omega
      rw [Nat.toDigits_of_base_le (by decide) (by omega), List.append_assoc, ih _ hdiv, List.singleton_append,
        parseTime_digit _ _ _ (Nat.mod_lt n (by decide))]
      congr 1
      unfold u32
      omega

/-- A number and its unit add to the seconds. -/
theorem parse_unit {c : Char} {k : Nat} (hdigit : c.isDigit = false) (hc : timeMultiplier c = some k)
    (n secs : Nat) (cs : List Char) :
    parseTime secs 0 (Nat.toDigits 10 n ++ c :: cs) = parseTime (u32 (secs + n * k)) 0 cs := by
  have hu : u32 (secs + u32 (u32 n * k)) = u32 (secs + n * k) := by
    unfold u32
    rw [Nat.add_mod_mod, Nat.add_mod, Nat.mod_mul_mod, ← Nat.add_mod]
  rw [parseTime_digits, parseTime, if_neg (Bool.eq_false_iff.1 hdigit)]
  simp only [hc, hu]

/-- A part that is left out when it is zero. -/
theorem parse_part {c : Char} {k : Nat} (hdigit : c.isDigit = false) (hc : timeMultiplier c = some k) {p : Prop}
    [Decidable p] {n secs : Nat} (hsecs : secs < 4294967296) (hp : n ≠ 0 → p) (cs : List Char) :
    parseTime secs 0 ((if p then Nat.toDigits 10 n ++ [c] else []) ++ cs) =
      parseTime (u32 (secs + n * k)) 0 cs := by
  split
  · rw [List.append_assoc, List.singleton_append, parse_unit hdigit hc]
  · next h =>
    have hn : n = 0 := by
      by_contra hn
      exact h (hp hn)
    rw [hn, Nat.zero_mul, Nat.add_zero, List.nil_append]
    unfold u32
    rw [Nat.mod_eq_of_lt hsecs]

/-- **The round trip**: for every `uint32` number of seconds, the short form with all its parts is read back
as that number. -/
theorem timeString_read (t : UInt32) : timeStringToSecs (secsToTimeString t.toNat true false) = t.toNat := by
  have ht : t.toNat < 4294967296 := t.toNat_lt
  generalize t.toNat = n at ht
  have hlt (m : Nat) : u32 m < 4294967296 := Nat.mod_lt m (by decide)
  unfold timeStringToSecs secsToTimeString
  simp only [if_true, Bool.false_eq_true, or_false, if_false, List.append_assoc]
  have hsecs (m : Nat) := parse_part (c := 's') rfl rfl (hlt m)
    (Or.inl : n % minute ≠ 0 → n % minute ≠ 0 ∨ n / day = 0 ∧ n % day / hour = 0 ∧ n % hour / minute = 0) []
  simp only [List.append_nil] at hsecs
  rw [parse_part (c := 'd') rfl rfl (by decide) id, parse_part (c := 'h') rfl rfl (hlt _) id,
    parse_part (c := 'm') rfl rfl (hlt _) id, hsecs, parseTime]
  unfold u32 day hour minute
  omega

end BlizzLike
