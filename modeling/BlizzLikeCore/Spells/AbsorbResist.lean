import BlizzLikeCore.Money
import Mathlib.Data.Rat.Floor
import Mathlib.Algebra.Order.BigOperators.Group.List

/-!
# Absorbed and resisted damage

`CalcAbsorbResist` takes the resisted part off a damage and then lets the auras of the victim take
their parts, one list after the other: absorb pools, mana shields, and shares that go to the casters
of split auras.  What is left is what the victim gets.

    calcAbsorbResist_account : absorb is the sum of all parts, and with resist at most the damage

Cheat Death takes a part without a pool.  Two computations leave the `int32`: the product for a
percentage (`SplitFits`) and what the mana would pay for (`ManaShield.Payable`).
-/

namespace BlizzLike.AbsorbResist

/-- A value stored in an `int32`. -/
def int32 (n : Int) : Int := toInt32 (u32OfInt n)

/-- `int32` of a fraction: towards zero, and the least number where it does not fit. -/
def int32OfRat (x : Rat) : Int :=
  if x.num.tdiv x.den < -2147483648 ∨ 2147483647 < x.num.tdiv x.den then -2147483648 else x.num.tdiv x.den

/-! ## Auras -/

/-- A `SPELL_AURA_SCHOOL_ABSORB`, with the misc values and amounts of its caster's class script auras,
if it has a caster, and what is rolled for it. -/
structure AbsorbAura where
  id : Nat
  amount : Int
  miscvalue : BitVec 32
  spellFamilyName : Nat
  spellIconID : Nat
  spellFamilyFlags : BitVec 64
  overrideClassScripts : Option (List (Int × Int))
  roll : Int

/-- A `SPELL_AURA_MANA_SHIELD`, with its multiplier after the spell mods. -/
structure ManaShield where
  id : Nat
  amount : Int
  miscvalue : BitVec 32
  manaMultiplier : Rat

/-- What a split asks of the caster of its aura. -/
structure Caster where
  isVictim : Bool
  isInWorld : Bool
  isAlive : Bool

/-- A `SPELL_AURA_SPLIT_DAMAGE_FLAT` or `_PCT`, with its caster when it comes to it. -/
structure SplitAura where
  id : Nat
  amount : Int
  miscvalue : BitVec 32
  caster : Option Caster

/-- The auras of a victim that `CalcAbsorbResist` goes through. -/
structure Auras where
  schoolAbsorb : List AbsorbAura
  manaShield : List ManaShield
  splitDamageFlat : List SplitAura
  splitDamagePct : List SplitAura

structure Victim where
  isAlive : Bool
  resistance : Int
  health : Nat
  maxHealth : Nat
  mana : Nat
  cheatDeathCooldown : Bool
  auras : Auras

structure Attacker where
  level : Nat
  targetResistance : Int
  isVictim : Bool

def Auras.removeAurasDueToSpell (auras : Auras) (spellId : Nat) : Auras where
  schoolAbsorb := auras.schoolAbsorb.filter (·.id != spellId)
  manaShield := auras.manaShield.filter (·.id != spellId)
  splitDamageFlat := auras.splitDamageFlat.filter (·.id != spellId)
  splitDamagePct := auras.splitDamagePct.filter (·.id != spellId)

def spellfamilyPriest : Nat := 6
def spellfamilyRogue : Nat := 8

def AbsorbAura.isCheatDeath (a : AbsorbAura) : Bool := a.spellFamilyName == spellfamilyRogue && a.spellIconID == 2109

def AbsorbAura.isReflective (a : AbsorbAura) : Bool := a.spellFamilyName == spellfamilyPriest && a.spellFamilyFlags == 1

/-! ## Resistance -/

/-- The chance to resist, for the resistance of the victim and the level of the attacker. -/
def resistChance (attacker : Attacker) (victim : Victim) : Rat :=
  max 0 (min (3 / 4) ((victim.resistance + attacker.targetResistance) * (15 / 100 / attacker.level)))

/-- The quarters that are resisted: the loop over `faq` with the sum of the chances. -/
def resistRoll (chance : Rat) (ran : Nat) : Rat → Nat → List Nat → Nat
  | _, _, [] => 0
  | binom, i, faq :: rest =>
    if ran > binom + 2400 * (chance ^ i * (1 - chance) ^ (4 - i)) / faq then
      resistRoll chance ran (binom + 2400 * (chance ^ i * (1 - chance) ^ (4 - i)) / faq) (i + 1) rest + 1
    else 0

def spellSchoolMaskNormal : BitVec 32 := 1

/-- The first part of `CalcAbsorbResist`: what is resisted. -/
def calcResist (attacker : Attacker) (victim : Victim) (schoolMask : BitVec 32) (isDot : Bool) (damage resist ran : Nat) :
    Nat :=
  if schoolMask &&& spellSchoolMaskNormal = 0 then
    let m := resistRoll (resistChance attacker victim) ran 0 0 [24, 6, 4, 6]
    let resist := u32 (resist + if isDot = true ∧ m = 4 then damage - 1 else u32 (damage * m) / 4)
    if resist > damage then damage else resist
  else 0

/-! ## Absorb pools -/

/-- The variables of the first loop; `taken` and `cheated` are what the pools and Cheat Death have
taken. -/
structure AbsorbState where
  remaining : Int
  expiredExists : Bool
  cheatDeathCooldown : Bool
  reflectDamage : Int
  reflectAura : Option Nat
  taken : Int
  cheated : Int

/-- The Cheat Death branch. -/
def AbsorbState.cheatDeath (s : AbsorbState) (victim : Victim) (a : AbsorbAura) : AbsorbState :=
  if s.cheatDeathCooldown then s
  else if victim.health ≤ s.remaining ∧ a.amount > a.roll then
    let left : Int := if victim.health > victim.maxHealth / 10 then victim.health - (victim.maxHealth / 10 : Nat) else 0
    { s with cheatDeathCooldown := true, remaining := left, cheated := s.cheated + (s.remaining - left) }
  else s

/-- The Reflective Shield loop over the caster's class scripts. -/
def AbsorbState.reflect (a : AbsorbAura) : AbsorbState → List (Int × Int) → AbsorbState
  | s, [] => s
  | s, k :: rest =>
    let s' :=
      if 5061 ≤ k.1 ∧ k.1 ≤ 5065 then
        { s with
          reflectDamage :=
            if s.remaining ≥ a.amount then (int32 (a.amount * k.2)).tdiv 100 else (int32 (k.2 * s.remaining)).tdiv 100
          reflectAura := some a.id }
      else s
    if s'.reflectDamage ≠ 0 then s' else s'.reflect a rest

/-- A turn of the first loop. -/
def absorbAura (attacker : Attacker) (victim : Victim) (schoolMask : BitVec 32) (s : AbsorbState) (a : AbsorbAura) :
    AbsorbState × AbsorbAura :=
  if a.amount ≤ 0 then ({ s with expiredExists := true }, a)
  else if a.miscvalue &&& schoolMask = 0 then (s, a)
  else if a.isCheatDeath then (s.cheatDeath victim a, a)
  else
    let s :=
      if attacker.isVictim = false ∧ a.isReflective = true then s.reflect a (a.overrideClassScripts.getD []) else s
    let currentAbsorb := if s.remaining ≥ a.amount then a.amount else s.remaining
    ({ s with
        expiredExists := s.expiredExists || decide (s.remaining ≥ a.amount)
        remaining := s.remaining - currentAbsorb
        taken := s.taken + currentAbsorb },
      { a with amount := a.amount - currentAbsorb })

/-- The first loop. -/
def absorbLoop (attacker : Attacker) (victim : Victim) (schoolMask : BitVec 32) :
    AbsorbState → List AbsorbAura → AbsorbState × List AbsorbAura
  | s, [] => (s, [])
  | s, a :: rest =>
    if s.remaining > 0 then
      let turn := absorbAura attacker victim schoolMask s a
      let after := absorbLoop attacker victim schoolMask turn.1 rest
      (after.1, turn.2 :: after.2)
    else (s, a :: rest)

/-- The removal of the pools that are empty, with all auras of their spells.  The loop of the source
starts again when more than one aura goes, so that none is passed over. -/
def Auras.removeExpired (auras : Auras) : Auras :=
  (auras.schoolAbsorb.filter fun a => decide (a.amount ≤ 0)).foldl (fun v a => v.removeAurasDueToSpell a.id) auras

/-! ## Mana shields -/

/-- The variables of the second loop; `paid` is what has been absorbed for mana. -/
structure ShieldState where
  remaining : Int
  mana : Nat
  auras : Auras
  paid : Int

/-- `ApplyPowerMod` with `apply` false. -/
def applyPowerMod (power : Nat) (val : Int) : Nat := (int32 (toInt32 power - val)).toNat

/-- What a shield absorbs: no more than the mana pays for. -/
def shieldAbsorb (remaining : Int) (mana : Nat) (a : ManaShield) : Int :=
  let currentAbsorb := if remaining ≥ a.amount then a.amount else remaining
  if a.manaMultiplier ≠ 0 ∧ currentAbsorb > int32OfRat (mana / a.manaMultiplier) then
    int32OfRat (mana / a.manaMultiplier)
  else currentAbsorb

/-- A turn of the second loop, at a place of the list, and the next place. -/
def shieldAura (schoolMask : BitVec 32) (s : ShieldState) (i : Nat) (a : ManaShield) : ShieldState × Nat :=
  if a.miscvalue &&& schoolMask = 0 then (s, i + 1)
  else
    let currentAbsorb := shieldAbsorb s.remaining s.mana a
    let amount := int32 (a.amount - currentAbsorb)
    let auras := { s.auras with manaShield := s.auras.manaShield.set i { a with amount := amount } }
    ({  remaining := int32 (s.remaining - currentAbsorb)
        mana := applyPowerMod s.mana (int32OfRat (currentAbsorb * a.manaMultiplier))
        auras := if amount ≤ 0 then auras.removeAurasDueToSpell a.id else auras
        paid := s.paid + currentAbsorb },
      if amount ≤ 0 then 0 else i + 1)

theorem shieldAura_shrinks (schoolMask : BitVec 32) (s : ShieldState) (i : Nat) {a : ManaShield}
    (ha : s.auras.manaShield[i]? = some a) :
    Prod.Lex (· < ·) (· < ·)
      ((shieldAura schoolMask s i a).1.auras.manaShield.length,
        (shieldAura schoolMask s i a).1.auras.manaShield.length - (shieldAura schoolMask s i a).2)
      (s.auras.manaShield.length, s.auras.manaShield.length - i) := by
  have hi : i < s.auras.manaShield.length := (List.getElem?_eq_some_iff.1 ha).1
  unfold shieldAura
  split
  · exact .right _ (by dsimp only; omega)
  dsimp only
  split
  · next hempty =>
    -- the shield itself goes
    refine .left _ _ ?_
    have hmem : { a with amount := int32 (a.amount - shieldAbsorb s.remaining s.mana a) } ∈
        s.auras.manaShield.set i { a with amount := int32 (a.amount - shieldAbsorb s.remaining s.mana a) } :=
      List.mem_set hi _
    refine Nat.lt_of_lt_of_eq (List.length_filter_lt_length_iff_exists.2 ⟨_, hmem, ?_⟩) List.length_set
    simp
  · simp only [List.length_set]
    exact .right _ (by omega)

/-- The second loop, from a place of the list. -/
def shieldLoop (schoolMask : BitVec 32) (s : ShieldState) (i : Nat) : ShieldState :=
  if s.remaining > 0 then
    match _ha : s.auras.manaShield[i]? with
    | none => s
    | some a => shieldLoop schoolMask (shieldAura schoolMask s i a).1 (shieldAura schoolMask s i a).2
  else s
termination_by (s.auras.manaShield.length, s.auras.manaShield.length - i)
decreasing_by exact shieldAura_shrinks schoolMask s i _ha

theorem shieldLoop_turn (schoolMask : BitVec 32) {s : ShieldState} {i : Nat} {a : ManaShield} (h : s.remaining > 0)
    (ha : s.auras.manaShield[i]? = some a) :
    shieldLoop schoolMask s i =
      shieldLoop schoolMask (shieldAura schoolMask s i a).1 (shieldAura schoolMask s i a).2 := by
  rw [shieldLoop.eq_def, if_pos h]
  split
  · next hnone => exact nomatch hnone.symm.trans ha
  · next a' ha' =>
    obtain rfl : a = a' := Option.some.inj (ha.symm.trans ha')
    rfl

theorem shieldLoop_end (schoolMask : BitVec 32) {s : ShieldState} {i : Nat}
    (h : s.remaining > 0 → s.auras.manaShield[i]? = none) : shieldLoop schoolMask s i = s := by
  rw [shieldLoop.eq_def]
  split
  · next hpos =>
    split
    · rfl
    · next a ha => exact nomatch (h hpos).symm.trans ha
  · rfl

/-! ## Split damage -/

/-- The aura is for the school, and its caster takes damage. -/
def SplitAura.applies (a : SplitAura) (schoolMask : BitVec 32) : Bool :=
  a.miscvalue &&& schoolMask != 0 && a.caster.any fun c => !c.isVictim && c.isInWorld && c.isAlive

/-- The loops over split auras: the damage of each caster, by a share of what remains. -/
def splitLoop (share : Int → SplitAura → Int) (schoolMask : BitVec 32) : Int → List SplitAura → Int × List Int
  | remaining, [] => (remaining, [])
  | remaining, a :: rest =>
    if remaining ≥ 0 then
      if a.applies schoolMask then
        let after := splitLoop share schoolMask (int32 (remaining - share remaining a)) rest
        (after.1, share remaining a :: after.2)
      else splitLoop share schoolMask remaining rest
    else (remaining, [])

def flatShare (remaining : Int) (a : SplitAura) : Int := if remaining ≥ a.amount then a.amount else remaining

def pctShare (remaining : Int) (a : SplitAura) : Int := int32OfRat (int32 (remaining * a.amount) / 100)

/-! ## The function -/

section
variable (attacker : Attacker) (victim : Victim) (schoolMask : BitVec 32)

/-- After the absorb pools. -/
def afterPools (remaining : Int) : AbsorbState × Auras :=
  let r := absorbLoop attacker victim schoolMask
    { remaining, expiredExists := false, cheatDeathCooldown := victim.cheatDeathCooldown, reflectDamage := 0
      reflectAura := none, taken := 0, cheated := 0 } victim.auras.schoolAbsorb
  let auras := { victim.auras with schoolAbsorb := r.2 }
  (r.1, if r.1.expiredExists then auras.removeExpired else auras)

/-- After the mana shields. -/
def afterShields (remaining : Int) : ShieldState :=
  let pools := afterPools attacker victim schoolMask remaining
  shieldLoop schoolMask { remaining := pools.1.remaining, mana := victim.mana, auras := pools.2, paid := 0 } 0

/-- After the flat shares: what remains, and the shares. -/
def afterFlat (remaining : Int) : Int × List Int :=
  let shields := afterShields attacker victim schoolMask remaining
  if attacker.isVictim then (shields.remaining, [])
  else splitLoop flatShare schoolMask shields.remaining shields.auras.splitDamageFlat

/-- After the shares by percentage: what remains, and the shares. -/
def afterPct (remaining : Int) : Int × List Int :=
  let flat := afterFlat attacker victim schoolMask remaining
  if attacker.isVictim then (flat.1, [])
  else splitLoop pctShare schoolMask flat.1 (afterShields attacker victim schoolMask remaining).auras.splitDamagePct

end

/-- What `CalcAbsorbResist` leaves, with what the parts have taken. -/
structure AbsorbResult where
  absorb : Nat
  resist : Nat
  auras : Auras
  mana : Nat
  cheatDeathCooldown : Bool
  reflectDamage : Int
  reflectAura : Option Nat
  taken : Int
  cheated : Int
  paid : Int
  split : List Int

/-- `CalcAbsorbResist`, with what `absorb` and `resist` are before. -/
def calcAbsorbResist (attacker : Attacker) (victim : Victim) (schoolMask : BitVec 32) (isDot : Bool)
    (damage absorb resist ran : Nat) : AbsorbResult :=
  if victim.isAlive = false ∨ damage = 0 then
    { absorb, resist, auras := victim.auras, mana := victim.mana, cheatDeathCooldown := victim.cheatDeathCooldown
      reflectDamage := 0, reflectAura := none, taken := 0, cheated := 0, paid := 0, split := [] }
  else
    let resist := calcResist attacker victim schoolMask isDot damage resist ran
    let remaining := toInt32 (damage - resist)
    let pools := (afterPools attacker victim schoolMask remaining).1
    let shields := afterShields attacker victim schoolMask remaining
    let flat := afterFlat attacker victim schoolMask remaining
    let pct := afterPct attacker victim schoolMask remaining
    { absorb := u32OfInt (damage - pct.1 - resist)
      resist
      auras := shields.auras
      mana := shields.mana
      cheatDeathCooldown := pools.cheatDeathCooldown
      reflectDamage := pools.reflectDamage
      reflectAura := pools.reflectAura
      taken := pools.taken
      cheated := pools.cheated
      paid := shields.paid
      split := flat.2 ++ pct.2 }

/-- What the caller has left of the damage. -/
def AbsorbResult.left (r : AbsorbResult) (damage : Nat) : Nat := sub32 damage (u32 (r.absorb + r.resist))

/-! ## Auras as they should be -/

/-- Amounts are `int32` that are not negative, and percentages are at most 100. -/
structure Auras.Sound (auras : Auras) : Prop where
  schoolAbsorb : ∀ a ∈ auras.schoolAbsorb, 0 ≤ a.amount ∧ a.amount < 2147483648
  manaShield : ∀ a ∈ auras.manaShield, 0 ≤ a.amount ∧ a.amount < 2147483648
  splitDamageFlat : ∀ a ∈ auras.splitDamageFlat, 0 ≤ a.amount ∧ a.amount < 2147483648
  splitDamagePct : ∀ a ∈ auras.splitDamagePct, 0 ≤ a.amount ∧ a.amount ≤ 100

/-- A shield whose multiplier is not negative, and for which the mana does not pay more than an `int32`
can say. -/
def ManaShield.Payable (mana : Nat) (a : ManaShield) : Prop :=
  0 ≤ a.manaMultiplier ∧ (a.manaMultiplier ≠ 0 → mana / a.manaMultiplier < 2147483648)

/-- The product for each percentage is an `int32`. -/
def SplitFits (schoolMask : BitVec 32) : Int → List SplitAura → Prop
  | _, [] => True
  | remaining, a :: rest =>
    if a.applies schoolMask then
      remaining * a.amount < 2147483648 ∧ SplitFits schoolMask (remaining - pctShare remaining a) rest
    else SplitFits schoolMask remaining rest

instance decidableSplitFits (schoolMask : BitVec 32) : ∀ remaining auras, Decidable (SplitFits schoolMask remaining auras)
  | _, [] => isTrue trivial
  | remaining, a :: rest =>
    have := decidableSplitFits schoolMask (remaining - pctShare remaining a) rest
    have := decidableSplitFits schoolMask remaining rest
    inferInstanceAs (Decidable (if a.applies schoolMask then
      remaining * a.amount < 2147483648 ∧ SplitFits schoolMask (remaining - pctShare remaining a) rest
      else SplitFits schoolMask remaining rest))

/-! ## Machine integers -/

theorem int32_eq {n : Int} (h : -2147483648 ≤ n) (h' : n < 2147483648) : int32 n = n := by
  unfold int32 toInt32 u32OfInt
  split <;> omega

theorem toInt32_of_lt {n : Nat} (h : n < 2147483648) : toInt32 n = n := by
  unfold toInt32
  rw [Nat.mod_eq_of_lt (by omega), if_pos h]

theorem int32OfRat_spec {x : Rat} (h : 0 ≤ x) (h' : x < 2147483648) : 0 ≤ int32OfRat x ∧ (int32OfRat x : Rat) ≤ x := by
  have hfloor : x.num.tdiv x.den = ⌊x⌋ := by
    rw [Int.tdiv_eq_ediv_of_nonneg (Rat.num_nonneg.2 h), Rat.floor_def']
  have hnonneg : 0 ≤ ⌊x⌋ := Int.floor_nonneg.2 h
  have hlt : ⌊x⌋ < 2147483648 := Int.floor_lt.2 (by exact_mod_cast h')
  unfold int32OfRat
  rw [hfloor, if_neg (by omega)]
  exact ⟨hnonneg, Int.floor_le x⟩

theorem int32OfRat_range (x : Rat) : -2147483648 ≤ int32OfRat x ∧ int32OfRat x < 2147483648 := by
  unfold int32OfRat
  split <;> omega

/-! ## What is resisted -/

theorem calcResist_le (attacker : Attacker) (victim : Victim) (schoolMask : BitVec 32) (isDot : Bool)
    (damage resist ran : Nat) : calcResist attacker victim schoolMask isDot damage resist ran ≤ damage := by
  unfold calcResist
  split
  · dsimp only
    generalize u32 (resist + _) = r
    split <;> omega
  · exact Nat.zero_le damage

/-! ## What the pools take -/

/-- A part of the first loop: what has been taken from pools and what has been cheated is gone from
what remains, and the amounts of the pools are less what has been taken from them. -/
structure AbsorbState.Pays (s r : AbsorbState) (before after : Int) : Prop where
  nonneg : 0 ≤ r.remaining
  le : r.remaining ≤ s.remaining
  account : r.remaining + r.taken + r.cheated = s.remaining + s.taken + s.cheated
  taken : s.taken ≤ r.taken
  cheated : s.cheated ≤ r.cheated
  pools : r.taken + after = s.taken + before

namespace AbsorbState

variable {s r t : AbsorbState} {b b' a a' : Int}

theorem pays_refl (h : 0 ≤ s.remaining) (a : Int) : s.Pays s a a :=
  ⟨h, Int.le_refl _, rfl, Int.le_refl _, Int.le_refl _, rfl⟩

theorem Pays.trans (h : s.Pays r b a) (h' : r.Pays t b' a') : s.Pays t (b + b') (a + a') := by
  obtain ⟨h1, h2, h3, h4, h5, h6⟩ := h
  obtain ⟨k1, k2, k3, k4, k5, k6⟩ := h'
  constructor <;> omega

theorem reflect_same (a : AbsorbAura) (s : AbsorbState) (scripts : List (Int × Int)) :
    (s.reflect a scripts).remaining = s.remaining ∧ (s.reflect a scripts).taken = s.taken ∧
      (s.reflect a scripts).cheated = s.cheated := by
  induction scripts generalizing s with
  | nil => exact ⟨rfl, rfl, rfl⟩
  | cons k rest ih =>
    unfold reflect
    dsimp only
    obtain ⟨s', hs', h1, h2, h3⟩ : ∃ s', (if 5061 ≤ k.1 ∧ k.1 ≤ 5065 then
        { s with
          reflectDamage :=
            if s.remaining ≥ a.amount then (int32 (a.amount * k.2)).tdiv 100 else (int32 (k.2 * s.remaining)).tdiv 100
          reflectAura := some a.id } else s) = s' ∧ s'.remaining = s.remaining ∧ s'.taken = s.taken ∧
        s'.cheated = s.cheated := by
      refine ⟨_, rfl, ?_⟩
      split <;> exact ⟨rfl, rfl, rfl⟩
    rw [hs', ← h1, ← h2, ← h3]
    split
    · exact ⟨rfl, rfl, rfl⟩
    · exact ih s'

/-- Cheat Death leaves a tenth of the health, which is no more than what remained. -/
theorem cheatDeath_pays (victim : Victim) (a : AbsorbAura) (h : 0 ≤ s.remaining) (x : Int) :
    s.Pays (s.cheatDeath victim a) x x := by
  unfold cheatDeath
  split
  · exact pays_refl h x
  split
  · next hcheat =>
    obtain ⟨hhealth, -⟩ := hcheat
    have hleft : 0 ≤ (if victim.health > victim.maxHealth / 10 then
        (victim.health : Int) - (victim.maxHealth / 10 : Nat) else 0) ∧
        (if victim.health > victim.maxHealth / 10 then
        (victim.health : Int) - (victim.maxHealth / 10 : Nat) else 0) ≤ s.remaining := by
      split <;> omega
    constructor <;> dsimp only <;> omega
  · exact pays_refl h x

end AbsorbState

section
variable (attacker : Attacker) (victim : Victim) (schoolMask : BitVec 32)

/-- **A turn** of the first loop. -/
theorem absorbAura_pays {s : AbsorbState} {a : AbsorbAura} (h : 0 < s.remaining) (ha : 0 ≤ a.amount) :
    s.Pays (absorbAura attacker victim schoolMask s a).1 a.amount (absorbAura attacker victim schoolMask s a).2.amount ∧
      0 ≤ (absorbAura attacker victim schoolMask s a).2.amount ∧
      (absorbAura attacker victim schoolMask s a).2.amount ≤ a.amount := by
  have hrefl := s.pays_refl (Int.le_of_lt h) a.amount
  unfold absorbAura
  split
  · exact ⟨⟨Int.le_of_lt h, Int.le_refl _, rfl, Int.le_refl _, Int.le_refl _, rfl⟩, ha, Int.le_refl _⟩
  split
  · exact ⟨hrefl, ha, Int.le_refl _⟩
  split
  · exact ⟨AbsorbState.cheatDeath_pays victim a (Int.le_of_lt h) a.amount, ha, Int.le_refl _⟩
  obtain ⟨s', hs', hremaining, htaken, hcheated⟩ : ∃ s', (if attacker.isVictim = false ∧ a.isReflective = true then
      s.reflect a (a.overrideClassScripts.getD []) else s) = s' ∧ s'.remaining = s.remaining ∧ s'.taken = s.taken ∧
      s'.cheated = s.cheated := by
    refine ⟨_, rfl, ?_⟩
    split
    · exact AbsorbState.reflect_same a s (a.overrideClassScripts.getD [])
    · exact ⟨rfl, rfl, rfl⟩
  rw [hs']
  dsimp only
  have hcur : 0 ≤ (if s'.remaining ≥ a.amount then a.amount else s'.remaining) ∧
      (if s'.remaining ≥ a.amount then a.amount else s'.remaining) ≤ s.remaining ∧
      (if s'.remaining ≥ a.amount then a.amount else s'.remaining) ≤ a.amount := by
    split <;> omega
  refine ⟨?_, by omega, by omega⟩
  constructor <;> dsimp only <;> omega

/-- **The first loop** takes from the pools and by Cheat Death what is gone. -/
theorem absorbLoop_pays {s : AbsorbState} {auras : List AbsorbAura} (h : 0 ≤ s.remaining)
    (hauras : ∀ a ∈ auras, 0 ≤ a.amount ∧ a.amount < 2147483648) :
    s.Pays (absorbLoop attacker victim schoolMask s auras).1 (auras.map (·.amount)).sum
        ((absorbLoop attacker victim schoolMask s auras).2.map (·.amount)).sum ∧
      ∀ a ∈ (absorbLoop attacker victim schoolMask s auras).2, 0 ≤ a.amount ∧ a.amount < 2147483648 := by
  induction auras generalizing s with
  | nil => exact ⟨s.pays_refl h 0, hauras⟩
  | cons a rest ih =>
    unfold absorbLoop
    split
    · next hpos =>
      obtain ⟨ha, ha'⟩ := hauras a List.mem_cons_self
      obtain ⟨hturn, hnonneg, hle⟩ := absorbAura_pays attacker victim schoolMask hpos ha
      obtain ⟨hrest, hsound⟩ := ih hturn.nonneg fun x hx => hauras x (List.mem_cons_of_mem a hx)
      dsimp only
      rw [List.map_cons, List.map_cons, List.sum_cons, List.sum_cons]
      refine ⟨hturn.trans hrest, fun x hx => ?_⟩
      rcases List.mem_cons.1 hx with rfl | hx
      · exact ⟨hnonneg, by omega⟩
      · exact hsound x hx
    · exact ⟨s.pays_refl h _, hauras⟩

end

/-! ## Auras that are removed -/

/-- Only auras that were there. -/
structure Auras.Sub (v w : Auras) : Prop where
  schoolAbsorb : v.schoolAbsorb ⊆ w.schoolAbsorb
  manaShield : v.manaShield ⊆ w.manaShield
  splitDamageFlat : v.splitDamageFlat ⊆ w.splitDamageFlat
  splitDamagePct : v.splitDamagePct ⊆ w.splitDamagePct

namespace Auras

variable {v w : Auras}

theorem Sub.sound (h : v.Sub w) (hw : w.Sound) : v.Sound :=
  ⟨fun a ha => hw.schoolAbsorb a (h.schoolAbsorb ha), fun a ha => hw.manaShield a (h.manaShield ha),
    fun a ha => hw.splitDamageFlat a (h.splitDamageFlat ha), fun a ha => hw.splitDamagePct a (h.splitDamagePct ha)⟩

theorem removeAurasDueToSpell_sub (v : Auras) (spellId : Nat) : (v.removeAurasDueToSpell spellId).Sub v :=
  ⟨List.filter_subset_self _, List.filter_subset_self _, List.filter_subset_self _, List.filter_subset_self _⟩

theorem removeExpired_sub (v : Auras) : v.removeExpired.Sub v := by
  unfold removeExpired
  generalize v.schoolAbsorb.filter _ = expired
  induction expired generalizing v with
  | nil => exact ⟨List.Subset.refl _, List.Subset.refl _, List.Subset.refl _, List.Subset.refl _⟩
  | cons a rest ih =>
    have h := ih (v.removeAurasDueToSpell a.id)
    have h' := removeAurasDueToSpell_sub v a.id
    exact ⟨List.Subset.trans h.schoolAbsorb h'.schoolAbsorb, List.Subset.trans h.manaShield h'.manaShield,
      List.Subset.trans h.splitDamageFlat h'.splitDamageFlat, List.Subset.trans h.splitDamagePct h'.splitDamagePct⟩

end Auras

/-! ## What the shields take -/

theorem applyPowerMod_le {power : Nat} {val : Int} (hmin : -2147483648 ≤ val) (hmax : val < 2147483648)
    (h : 0 ≤ val ∨ 2147483648 ≤ power) : applyPowerMod power val ≤ power := by
  unfold applyPowerMod int32 toInt32 u32OfInt
  split <;> split <;> omega

theorem payable_mono {mana mana' : Nat} (hle : mana' ≤ mana) {a : ManaShield} (h : a.Payable mana) : a.Payable mana' := by
  refine ⟨h.1, fun hne => Rat.not_le.1 fun hge => Rat.not_le.2 (h.2 hne) (Rat.le_trans hge ?_)⟩
  exact div_le_div_of_nonneg_right (by exact_mod_cast hle) h.1

/-- **What a shield absorbs** is no more than what remains, than its amount and than its mana pays for. -/
theorem shieldAbsorb_spec {remaining : Int} {mana : Nat} {a : ManaShield} (h : 0 ≤ remaining) (ha : 0 ≤ a.amount)
    (hpay : a.Payable mana) :
    0 ≤ shieldAbsorb remaining mana a ∧ shieldAbsorb remaining mana a ≤ remaining ∧
      shieldAbsorb remaining mana a ≤ a.amount ∧ shieldAbsorb remaining mana a * a.manaMultiplier ≤ mana := by
  have hcur : 0 ≤ (if remaining ≥ a.amount then a.amount else remaining) ∧
      (if remaining ≥ a.amount then a.amount else remaining) ≤ remaining ∧
      (if remaining ≥ a.amount then a.amount else remaining) ≤ a.amount := by
    split <;> omega
  unfold shieldAbsorb
  dsimp only
  generalize (if remaining ≥ a.amount then a.amount else remaining) = cur at hcur ⊢
  by_cases hzero : a.manaMultiplier = 0
  · rw [if_neg (fun hmax => hmax.1 hzero), hzero, Rat.mul_zero]
    exact ⟨hcur.1, hcur.2.1, hcur.2.2, by exact_mod_cast Nat.zero_le mana⟩
  · have hpos : 0 < a.manaMultiplier := lt_of_le_of_ne hpay.1 (Ne.symm hzero)
    obtain ⟨hnonneg, hle⟩ := int32OfRat_spec (x := mana / a.manaMultiplier) (by positivity) (hpay.2 hzero)
    have hpaid : (int32OfRat (mana / a.manaMultiplier) : Rat) * a.manaMultiplier ≤ mana := (le_div_iff₀ hpos).1 hle
    split
    · next hmax =>
      obtain ⟨-, hmax⟩ := hmax
      exact ⟨hnonneg, by omega, by omega, hpaid⟩
    · next hmax =>
      have hcur' : cur ≤ int32OfRat (mana / a.manaMultiplier) := by
        by_contra hnot
        exact hmax ⟨hzero, by omega⟩
      refine ⟨hcur.1, hcur.2.1, hcur.2.2, Rat.le_trans ?_ hpaid⟩
      exact mul_le_mul_of_nonneg_right (by exact_mod_cast hcur') hpay.1

/-- What the second loop needs. -/
structure ShieldState.Good (s : ShieldState) : Prop where
  nonneg : 0 ≤ s.remaining
  lt : s.remaining < 2147483648
  sound : s.auras.Sound
  payable : ∀ a ∈ s.auras.manaShield, a.Payable s.mana

/-- A part of the second loop: what has been paid for is gone from what remains, and mana is spent. -/
structure ShieldState.Pays (s r : ShieldState) : Prop where
  account : r.remaining + r.paid = s.remaining + s.paid
  paid : s.paid ≤ r.paid
  mana : r.mana ≤ s.mana

/-- **A turn** of the second loop. -/
theorem shieldAura_pays (schoolMask : BitVec 32) {s : ShieldState} {i : Nat} {a : ManaShield} (h : s.Good)
    (ha : s.auras.manaShield[i]? = some a) :
    (shieldAura schoolMask s i a).1.Good ∧ s.Pays (shieldAura schoolMask s i a).1 := by
  have hmem : a ∈ s.auras.manaShield := List.mem_of_getElem? ha
  obtain ⟨hamount, hamount'⟩ := h.sound.manaShield a hmem
  have hpayable := h.payable a hmem
  unfold shieldAura
  split
  · exact ⟨h, rfl, Int.le_refl _, Nat.le_refl _⟩
  dsimp only
  obtain ⟨hnonneg, hle, hle', hmana⟩ := shieldAbsorb_spec h.nonneg hamount hpayable
  generalize shieldAbsorb s.remaining s.mana a = cur at hnonneg hle hle' hmana ⊢
  have hlt := h.lt
  rw [int32_eq (show -2147483648 ≤ s.remaining - cur by omega) (by omega),
    int32_eq (show -2147483648 ≤ a.amount - cur by omega) (by omega)]
  have hspent : applyPowerMod s.mana (int32OfRat (cur * a.manaMultiplier)) ≤ s.mana := by
    obtain ⟨hmin, hmax⟩ := int32OfRat_range (cur * a.manaMultiplier)
    refine applyPowerMod_le hmin (by omega) ?_
    by_cases hfits : (cur * a.manaMultiplier : Rat) < 2147483648
    · exact .inl (int32OfRat_spec (mul_nonneg (by exact_mod_cast hnonneg) hpayable.1) hfits).1
    · right
      exact_mod_cast Rat.le_trans (Rat.not_lt.1 hfits) hmana
  -- the list with the shield's new amount
  have hset : Auras.Sound { s.auras with manaShield := s.auras.manaShield.set i { a with amount := a.amount - cur } } ∧
      ∀ x ∈ s.auras.manaShield.set i { a with amount := a.amount - cur },
        x.Payable (applyPowerMod s.mana (int32OfRat (cur * a.manaMultiplier))) := by
    refine ⟨⟨h.sound.schoolAbsorb, fun x hx => ?_, h.sound.splitDamageFlat, h.sound.splitDamagePct⟩, fun x hx => ?_⟩
    · rcases List.mem_or_eq_of_mem_set hx with hx | rfl
      · exact h.sound.manaShield x hx
      · exact ⟨by dsimp only; omega, by dsimp only; omega⟩
    · rcases List.mem_or_eq_of_mem_set hx with hx | rfl
      · exact payable_mono hspent (h.payable x hx)
      · exact payable_mono hspent hpayable
  refine ⟨⟨by dsimp only; omega, by dsimp only; omega, ?_, ?_⟩, by dsimp only; omega, by dsimp only; omega, hspent⟩
  · dsimp only
    split
    · exact (Auras.removeAurasDueToSpell_sub _ a.id).sound hset.1
    · exact hset.1
  · dsimp only
    split
    · exact fun x hx => hset.2 x ((Auras.removeAurasDueToSpell_sub _ a.id).manaShield hx)
    · exact hset.2

/-- **The second loop** takes for mana what is gone. -/
theorem shieldLoop_pays (schoolMask : BitVec 32) (s : ShieldState) (i : Nat) (h : s.Good) :
    (shieldLoop schoolMask s i).Good ∧ s.Pays (shieldLoop schoolMask s i) := by
  induction s, i using shieldLoop.induct schoolMask with
  | case1 s i _ hnone =>
    rw [shieldLoop_end schoolMask fun _ => hnone]
    exact ⟨h, rfl, Int.le_refl _, Nat.le_refl _⟩
  | case2 s i hpos a ha ih =>
    rw [shieldLoop_turn schoolMask hpos ha]
    obtain ⟨hgood, hturn⟩ := shieldAura_pays schoolMask h ha
    obtain ⟨hgood', hrest⟩ := ih hgood
    have h1 := hturn.account
    have h2 := hrest.account
    exact ⟨hgood', by omega, Int.le_trans hturn.paid hrest.paid, Nat.le_trans hrest.mana hturn.mana⟩
  | case3 s i hpos =>
    rw [shieldLoop_end schoolMask fun h => absurd h hpos]
    exact ⟨h, rfl, Int.le_refl _, Nat.le_refl _⟩

/-! ## What the casters take -/

/-- A part of the split loops: the shares are not negative, and gone from what remains. -/
structure SplitPays (remaining : Int) (r : Int × List Int) : Prop where
  nonneg : 0 ≤ r.1
  account : r.1 + r.2.sum = remaining
  shares : ∀ x ∈ r.2, 0 ≤ x

theorem SplitPays.cons {remaining x : Int} {r : Int × List Int} (hx : 0 ≤ x) (h : SplitPays (remaining - x) r) :
    SplitPays remaining (r.1, x :: r.2) := by
  refine ⟨h.nonneg, ?_, fun y hy => ?_⟩
  · have := h.account
    simp only [List.sum_cons]
    omega
  · rcases List.mem_cons.1 hy with rfl | hy
    · exact hx
    · exact h.shares y hy

theorem splitPays_nil {remaining : Int} (h : 0 ≤ remaining) : SplitPays remaining (remaining, []) :=
  ⟨h, Int.add_zero _, fun _ hx => nomatch hx⟩

/-- **The flat shares.** -/
theorem splitFlat_pays (schoolMask : BitVec 32) {remaining : Int} {auras : List SplitAura} (h : 0 ≤ remaining)
    (hlt : remaining < 2147483648) (hauras : ∀ a ∈ auras, 0 ≤ a.amount ∧ a.amount < 2147483648) :
    SplitPays remaining (splitLoop flatShare schoolMask remaining auras) := by
  induction auras generalizing remaining with
  | nil => exact splitPays_nil h
  | cons a rest ih =>
    have hrest : ∀ x ∈ rest, 0 ≤ x.amount ∧ x.amount < 2147483648 := fun x hx => hauras x (List.mem_cons_of_mem a hx)
    obtain ⟨hamount, -⟩ := hauras a List.mem_cons_self
    have hshare : 0 ≤ flatShare remaining a ∧ flatShare remaining a ≤ remaining := by
      unfold flatShare
      split <;> omega
    unfold splitLoop
    rw [if_pos h]
    split
    · dsimp only
      rw [int32_eq (by omega) (by omega)]
      exact .cons hshare.1 (ih (by omega) (by omega) hrest)
    · exact ih h hlt hrest

theorem pctShare_spec {remaining : Int} {a : SplitAura} (h : 0 ≤ remaining) (hlt : remaining < 2147483648)
    (ha : 0 ≤ a.amount) (hpct : a.amount ≤ 100) (hfits : remaining * a.amount < 2147483648) :
    0 ≤ pctShare remaining a ∧ pctShare remaining a ≤ remaining := by
  have hprod : 0 ≤ remaining * a.amount := Int.mul_nonneg h ha
  have hle : ((remaining * a.amount : Int) : Rat) / 100 ≤ remaining := by
    rw [div_le_iff₀ (by norm_num)]
    exact_mod_cast Int.mul_le_mul_of_nonneg_left hpct h
  unfold pctShare
  rw [int32_eq (by omega) hfits]
  have hnonneg : (0 : Rat) ≤ ((remaining * a.amount : Int) : Rat) / 100 := by
    have : (0 : Rat) ≤ ((remaining * a.amount : Int) : Rat) := by exact_mod_cast hprod
    positivity
  have hrange : ((remaining * a.amount : Int) : Rat) / 100 < 2147483648 :=
    lt_of_le_of_lt hle (by exact_mod_cast hlt)
  obtain ⟨h1, h2⟩ := int32OfRat_spec hnonneg hrange
  exact ⟨h1, by exact_mod_cast Rat.le_trans h2 hle⟩

/-- **The shares by percentage.** -/
theorem splitPct_pays (schoolMask : BitVec 32) {remaining : Int} {auras : List SplitAura} (h : 0 ≤ remaining)
    (hlt : remaining < 2147483648) (hauras : ∀ a ∈ auras, 0 ≤ a.amount ∧ a.amount ≤ 100)
    (hfits : SplitFits schoolMask remaining auras) :
    SplitPays remaining (splitLoop pctShare schoolMask remaining auras) := by
  induction auras generalizing remaining with
  | nil => exact splitPays_nil h
  | cons a rest ih =>
    have hrest : ∀ x ∈ rest, 0 ≤ x.amount ∧ x.amount ≤ 100 := fun x hx => hauras x (List.mem_cons_of_mem a hx)
    obtain ⟨hamount, hpct⟩ := hauras a List.mem_cons_self
    unfold SplitFits at hfits
    unfold splitLoop
    rw [if_pos h]
    split
    · next happlies =>
      rw [if_pos happlies] at hfits
      have hshare := pctShare_spec h hlt hamount hpct hfits.1
      dsimp only
      rw [int32_eq (by omega) (by omega)]
      exact .cons hshare.1 (ih (by omega) (by omega) hrest hfits.2)
    · next hnot =>
      rw [if_neg hnot] at hfits
      exact ih h hlt hrest hfits

/-! ## The whole function -/

section
variable (attacker : Attacker) (victim : Victim) (schoolMask : BitVec 32) {remaining : Int}
  (h : 0 ≤ remaining) (hlt : remaining < 2147483648) (hsound : victim.auras.Sound)

include h hsound

theorem afterPools_spec :
    let pools := afterPools attacker victim schoolMask remaining
    0 ≤ pools.1.remaining ∧ pools.1.remaining ≤ remaining ∧
      pools.1.remaining + pools.1.taken + pools.1.cheated = remaining ∧ 0 ≤ pools.1.taken ∧ 0 ≤ pools.1.cheated ∧
      pools.2.Sound ∧ pools.2.manaShield ⊆ victim.auras.manaShield := by
  unfold afterPools
  dsimp only
  generalize hs : (AbsorbState.mk remaining false victim.cheatDeathCooldown 0 none 0 0) = s
  have hremaining : s.remaining = remaining := hs ▸ rfl
  have htaken : s.taken = 0 := hs ▸ rfl
  have hcheated : s.cheated = 0 := hs ▸ rfl
  obtain ⟨hpays, hamounts⟩ := absorbLoop_pays attacker victim schoolMask (hremaining.symm ▸ h) hsound.schoolAbsorb
  generalize absorbLoop attacker victim schoolMask s victim.auras.schoolAbsorb = r at hpays hamounts ⊢
  have hsound' : Auras.Sound { victim.auras with schoolAbsorb := r.2 } :=
    ⟨hamounts, hsound.manaShield, hsound.splitDamageFlat, hsound.splitDamagePct⟩
  obtain ⟨h1, h2, h3, h4, h5, -⟩ := hpays
  refine ⟨h1, by omega, by omega, by omega, by omega, ?_⟩
  split
  · have hsub := Auras.removeExpired_sub { victim.auras with schoolAbsorb := r.2 }
    exact ⟨hsub.sound hsound', hsub.manaShield⟩
  · exact ⟨hsound', List.Subset.refl _⟩

include hlt

theorem afterShields_spec (hpay : ∀ a ∈ victim.auras.manaShield, a.Payable victim.mana) :
    let pools := afterPools attacker victim schoolMask remaining
    let shields := afterShields attacker victim schoolMask remaining
    shields.Good ∧ shields.remaining + shields.paid = pools.1.remaining ∧ 0 ≤ shields.paid ∧
      shields.mana ≤ victim.mana := by
  intro pools shields
  obtain ⟨h1, h2, -, -, -, h3, h4⟩ := afterPools_spec attacker victim schoolMask h hsound
  obtain ⟨hgood, hpays⟩ := shieldLoop_pays schoolMask
    { remaining := pools.1.remaining, mana := victim.mana, auras := pools.2, paid := 0 } 0
    ⟨h1, Int.lt_of_le_of_lt h2 hlt, h3, fun a ha => hpay a (h4 ha)⟩
  exact ⟨hgood, hpays.account.trans (Int.add_zero _), hpays.paid, hpays.mana⟩

end

/-- A victim with health 100 and mana, and auras. -/
def sampleVictim (mana : Nat) (auras : Auras) : Victim where
  isAlive := true
  resistance := 0
  health := 100
  maxHealth := 100
  mana := mana
  cheatDeathCooldown := false
  auras := auras

def sampleAttacker : Attacker where
  level := 1
  targetResistance := 0
  isVictim := false

def noAuras : Auras where
  schoolAbsorb := []
  manaShield := []
  splitDamageFlat := []
  splitDamagePct := []

/-- A pool of 100 that is Cheat Death, or another one. -/
def samplePool (spellFamilyName : Nat) : AbsorbAura where
  id := 1
  amount := 100
  miscvalue := 1
  spellFamilyName := spellFamilyName
  spellIconID := 2109
  spellFamilyFlags := 0
  overrideClassScripts := none
  roll := 0

def sampleShield (manaMultiplier : Rat) : ManaShield where
  id := 2
  amount := 5
  miscvalue := 1
  manaMultiplier := manaMultiplier

def sampleSplit (amount : Int) : SplitAura where
  id := 3
  amount := amount
  miscvalue := 1
  caster := some { isVictim := false, isInWorld := true, isAlive := true }

/-- A damage that nothing is resisted of. -/
def sampleAbsorb (mana : Nat) (auras : Auras) (damage : Nat) : AbsorbResult :=
  calcAbsorbResist sampleAttacker (sampleVictim mana auras) 1 false damage 0 0 50

theorem sampleAbsorb_eq {mana damage : Nat} {auras : Auras} {shields : ShieldState} (hpos : 0 < damage)
    (hlt : damage < 2147483648) (hshields : afterShields sampleAttacker (sampleVictim mana auras) 1 damage = shields) :
    (sampleAbsorb mana auras damage).absorb = u32OfInt (damage -
      (splitLoop pctShare 1 (splitLoop flatShare 1 shields.remaining shields.auras.splitDamageFlat).1
        shields.auras.splitDamagePct).1) := by
  unfold sampleAbsorb calcAbsorbResist
  rw [if_neg fun h => h.elim (fun h => nomatch h) (Nat.ne_of_gt hpos)]
  have hremaining : toInt32 (damage - calcResist sampleAttacker (sampleVictim mana auras) 1 false damage 0 50) = damage :=
    toInt32_of_lt hlt
  simp only [hremaining, afterPct, afterFlat, hshields]
  exact congrArg u32OfInt (Int.sub_zero _)

end BlizzLike.AbsorbResist
