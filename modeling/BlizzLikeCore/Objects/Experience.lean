import BlizzLikeCore.Item
import BlizzLikeCore.Lib.Transition

/-!
# Experience

`GiveXP` goes up the levels while the experience is enough for the next.  All that is given is found again in
the levels and the rest (`xp_kept`).
-/

namespace BlizzLike

structure XpTable where
  xpToLevel : Nat → Nat
  maxLevel : Nat

structure Experience where
  level : Nat
  xp : Nat
  nextLevelXP : Nat

namespace Experience

variable (t : XpTable) (e : Experience) (gain : Nat × Nat)

def giveLevel (level : Nat) : Experience :=
  if level = e.level then e else { e with level, nextLevelXP := t.xpToLevel level }

/-- The loop of `GiveXP`, with a bound for its turns. -/
def levelLoop : Nat → Experience → Nat → Experience
  | 0, e, newXP => { e with xp := newXP }
  | turns + 1, e, newXP =>
    if e.nextLevelXP ≤ newXP ∧ e.level < t.maxLevel then
      levelLoop turns (e.giveLevel t (e.level + 1)) (newXP - e.nextLevelXP)
    else { e with xp := newXP }

/-- `GiveXP` to a living player, after the auras, with the bonus for having rested. -/
def giveXP : Experience :=
  if gain.1 < 1 ∨ t.maxLevel ≤ e.level then e
  else levelLoop t (t.maxLevel - e.level) e (u32 (e.xp + gain.1 + gain.2))

/-- What the levels below this one have taken. -/
def below : Nat → Nat
  | 0 => 0
  | level + 1 => below level + t.xpToLevel level

def total : Nat := below t e.level + e.xp

structure Kept : Prop where
  next : e.nextLevelXP = t.xpToLevel e.level
  rest : e.level < t.maxLevel → e.xp < e.nextLevelXP

/-- The gain is found again, unless there was none or the level is the highest. -/
def Given : Prop :=
  (e.giveXP t gain).Kept t ∧ (e.giveXP t gain).total t =
    e.total t + if gain.1 < 1 ∨ t.maxLevel ≤ e.level then 0 else gain.1 + gain.2

variable {t e gain}

theorem levelLoop_spec {turns x : Nat} (h : e.nextLevelXP = t.xpToLevel e.level) (ht : t.maxLevel ≤ e.level + turns) :
    (levelLoop t turns e x).Kept t ∧ (levelLoop t turns e x).total t = below t e.level + x := by
  induction turns generalizing e x with
  | zero => exact ⟨⟨h, fun hl => absurd hl (Nat.not_lt.2 ht)⟩, rfl⟩
  | succ turns ih =>
    unfold levelLoop
    split
    · next hup =>
      rw [giveLevel, if_neg (Nat.succ_ne_self _)]
      obtain ⟨hk, hsum⟩ := ih (e := ⟨e.level + 1, e.xp, t.xpToLevel (e.level + 1)⟩) (x := x - e.nextLevelXP)
        rfl (by dsimp only; omega)
      refine ⟨hk, hsum.trans ?_⟩
      simp only [below]
      omega
    · next hstay => exact ⟨⟨h, fun hl => Nat.lt_of_not_le fun hc => hstay ⟨hc, hl⟩⟩, rfl⟩

theorem giveXP_spec (h : e.Kept t) (hfits : e.xp + gain.1 + gain.2 < 4294967296) : e.Given t gain := by
  unfold Given giveXP
  split
  · exact ⟨h, rfl⟩
  · rw [u32_eq _ hfits]
    have hloop := levelLoop_spec (x := e.xp + gain.1 + gain.2) h.next (Nat.sub_le_iff_le_add'.1 le_rfl)
    exact ⟨hloop.1, hloop.2.trans (by unfold total; omega)⟩

/-- **Experience is kept** along every run of gains: none is lost in going up, and below the highest level the
rest is less than the next level takes. -/
theorem xp_kept (h : e.Kept t) {gains : List (Nat × Nat)}
    (hfits : Transition.Along (giveXP t) (fun e gain => e.xp + gain.1 + gain.2 < 4294967296) e gains) :
    Transition.Along (giveXP t) (Given t) e gains :=
  Transition.along_of_invariant (fun _ _ h hg => (giveXP_spec h hg).1) (fun _ _ h hg => giveXP_spec h hg) h hfits

theorem xp_kept_three : Transition.Along (giveXP ⟨fun level => 100 * level, 4⟩) (Given ⟨fun level => 100 * level, 4⟩)
    ⟨1, 0, 100⟩ [(320, 0), (400, 50)] :=
  xp_kept ⟨rfl, by decide⟩ ⟨by decide, by decide, trivial⟩

end Experience

end BlizzLike
