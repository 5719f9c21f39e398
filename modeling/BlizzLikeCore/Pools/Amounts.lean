import BlizzLikeCore.Pools.PoolHandler
import BlizzLikeCore.Lib.Counting
import BlizzLikeCore.Lib.Transition

/-!
# The number of spawned entries

`m_SpawnedPoolAmount` of every group is the number of its entries that are spawned, and is within the
limit of the pool, in every run in which each round of `SpawnObject` that spawns an entry for a
trigger fails, each other one succeeds, the trigger comes back just if it was spawned, and no pool
is spawned or despawned within itself (`amounts_kept`).

When another entry takes the place of the trigger, `DespawnObject` has counted down already what
the swap is not to count (`swap_miscounted`); an entry that fails to spawn is counted.
-/

namespace BlizzLike

open Transition (run Along)

namespace PoolGroup

def spawnedCount (g : PoolGroup) : Nat :=
  g.explicitlyChanced.countP PoolObject.spawned + g.equalChanced.countP PoolObject.spawned

end PoolGroup

namespace PoolFrame

/-- The group a loop is over. -/
def group : PoolFrame → PoolKind × Nat
  | calling kind pool _ => (kind, pool)
  | spawning kind pool _ _ _ => (kind, pool)
  | marking pool _ _ _ _ _ => (.pool, pool)
  | despawning kind pool _ _ _ => (kind, pool)
  | unmarking pool _ _ _ => (.pool, pool)

/-- It waits for a pool in the pool. -/
def waits : PoolFrame → Bool
  | marking .. => true
  | unmarking .. => true
  | _ => false

/-- It is over entries to spawn. -/
def spawns : PoolFrame → Bool
  | spawning .. => true
  | marking .. => true
  | _ => false

/-- What a call that is not over counts on in its group. -/
def Fits (g : PoolGroup) (limit : Nat) : PoolFrame → Prop
  | spawning _ _ left triggerFrom _ =>
    g.spawnedPoolAmount + left ≤ limit + if triggerFrom = 0 then 0 else 1
  | marking _ st index left triggerFrom _ =>
    triggerFrom = 0 ∧ (∃ x, (g.store st)[index]? = some x ∧ x.spawned = false) ∧
      g.spawnedPoolAmount + 1 + left ≤ limit
  | unmarking _ _ st index => ∃ x, (g.store st)[index]? = some x ∧ x.spawned = true
  | _ => True

end PoolFrame

namespace PoolHandler

/-- **The law**: each group has the count of its spawned entries, which is within the limit. -/
def Counted (w : PoolHandler) : Prop :=
  ∀ kind pool, (w.groups kind pool).spawnedPoolAmount = (w.groups kind pool).spawnedCount ∧
    (w.groups kind pool).spawnedCount ≤ w.maxLimit pool

/-- The top of the stack works on a group in which no call below waits or, if it spawns, spawns. -/
def Alone (top : PoolFrame) (rest : List PoolFrame) : Prop :=
  ∀ fr ∈ rest, fr.group = top.group → fr.waits = false ∧ (top.spawns = true → fr.spawns = false)

instance (top : PoolFrame) (rest : List PoolFrame) : Decidable (Alone top rest) :=
  inferInstanceAs (Decidable (∀ fr ∈ rest, _))

/-- What a round meets: the trigger comes back just if it was spawned; without a trigger the entry
is spawned, and with one that is another entry it is not. -/
def HeedfulRound (kind : PoolKind) (triggerFrom lastDespawned : Nat) (answer : Bool) :
    Option (PoolStore × Nat × PoolObject) → Prop
  | none => True
  | some (_, _, x) => x.guid ≠ lastDespawned →
      reSpawn1Object kind answer = if x.guid = triggerFrom then x.spawned else decide (triggerFrom = 0)

instance (kind : PoolKind) (triggerFrom lastDespawned : Nat) (answer : Bool) :
    ∀ o, Decidable (HeedfulRound kind triggerFrom lastDespawned answer o)
  | none => inferInstanceAs (Decidable True)
  | some (_, _, _) => inferInstanceAs (Decidable (_ → _))

def HeedfulTurn (w : PoolHandler) (roll : ℚ) (pick : Nat) (answer : Bool) : List PoolFrame → Prop
  | [] => True
  | .spawning kind pool (left + 1) triggerFrom lastDespawned :: rest =>
    Alone (.spawning kind pool (left + 1) triggerFrom lastDespawned) rest ∧
      HeedfulRound kind triggerFrom lastDespawned answer (w.rolled kind pool triggerFrom roll pick)
  | top :: rest => Alone top rest

instance (w : PoolHandler) (roll : ℚ) (pick : Nat) (answer : Bool) :
    ∀ l, Decidable (w.HeedfulTurn roll pick answer l)
  | [] => inferInstanceAs (Decidable True)
  | .spawning _ _ (_ + 1) _ _ :: _ => inferInstanceAs (Decidable (_ ∧ _))
  | .spawning _ _ 0 _ _ :: _ => inferInstanceAs (Decidable (Alone _ _))
  | .calling .. :: _ => inferInstanceAs (Decidable (Alone _ _))
  | .marking .. :: _ => inferInstanceAs (Decidable (Alone _ _))
  | .despawning .. :: _ => inferInstanceAs (Decidable (Alone _ _))
  | .unmarking .. :: _ => inferInstanceAs (Decidable (Alone _ _))

/-- A request that does not meet a slip. -/
def Heedful (w : PoolHandler) : PoolRequest → Prop
  | .turn roll pick answer => w.HeedfulTurn roll pick answer w.stack
  | _ => True

instance (w : PoolHandler) : ∀ r, Decidable (w.Heedful r)
  | .turn roll pick answer => inferInstanceAs (Decidable (w.HeedfulTurn roll pick answer w.stack))
  | .spawnPool .. => inferInstanceAs (Decidable True)
  | .despawnPool _ => inferInstanceAs (Decidable True)
  | .updatePool .. => inferInstanceAs (Decidable True)

def Fits (w : PoolHandler) (fr : PoolFrame) : Prop :=
  fr.Fits (w.groups fr.group.1 fr.group.2) (w.maxLimit fr.group.2)

/-- The invariant. -/
structure Sound (w : PoolHandler) : Prop where
  counted : w.Counted
  fits : ∀ fr ∈ w.stack, w.Fits fr

end PoolHandler

/-! ## A group -/

namespace PoolGroup

variable {g : PoolGroup} {st : PoolStore} {index : Nat} {x : PoolObject}

theorem modify_spawned_count (l : List PoolObject) (h : l[index]? = some x) (spawned : Bool) :
    (l.modify index fun x => { x with spawned := spawned }).countP PoolObject.spawned +
        (if x.spawned then 1 else 0) =
      l.countP PoolObject.spawned + if spawned then 1 else 0 :=
  Counting.countP_modify l index x h (fun x => { x with spawned := spawned }) PoolObject.spawned

theorem setSpawned_count (h : (g.store st)[index]? = some x) (spawned : Bool) :
    (g.setSpawned index spawned st).spawnedCount + (if x.spawned then 1 else 0) =
      g.spawnedCount + if spawned then 1 else 0 := by
  unfold spawnedCount
  cases st with
  | explicitlyChanced =>
    have := modify_spawned_count g.explicitlyChanced h spawned
    simp only [setSpawned]
    omega
  | equalChanced =>
    have := modify_spawned_count g.equalChanced h spawned
    simp only [setSpawned]
    omega

theorem setSpawned_amount (spawned : Bool) :
    (g.setSpawned index spawned st).spawnedPoolAmount = g.spawnedPoolAmount := by
  cases st <;> rfl

theorem rollExplicitly_spec (triggerFrom : Nat) (l : List PoolObject) (roll : ℚ) (i : Nat)
    (h : rollExplicitly triggerFrom l roll i = some index) :
    i ≤ index ∧ ∃ x, l[index - i]? = some x ∧ mayRoll triggerFrom x := by
  induction l generalizing roll i with
  | nil => cases h
  | cons y l ih =>
    unfold rollExplicitly at h
    split at h
    · next hroll =>
      cases h
      refine ⟨Nat.le_refl _, y, ?_, hroll.2⟩
      rw [Nat.sub_self]
      rfl
    · obtain ⟨hle, x, hx, hmay⟩ := ih _ _ h
      refine ⟨by omega, x, ?_, hmay⟩
      rw [show index - i = index - (i + 1) + 1 by omega]
      exact hx

/-- **`RollOne`** finds an entry that is not spawned, or the trigger. -/
theorem rollOne_spec {roll : ℚ} {pick triggerFrom : Nat} (h : g.rollOne roll pick triggerFrom = some (st, index)) :
    ∃ x, (g.store st)[index]? = some x ∧ mayRoll triggerFrom x := by
  unfold rollOne at h
  split at h
  · next i hi =>
    cases h
    obtain ⟨_, x, hx, hmay⟩ := rollExplicitly_spec _ _ _ _ hi
    exact ⟨x, hx, hmay⟩
  · unfold rollEqually at h
    split at h
    · cases h
    · next x hx =>
      split at h
      · next hmay =>
        cases h
        exact ⟨x, hx, hmay⟩
      · cases h

end PoolGroup

namespace PoolHandler

section
variable {w : PoolHandler} {kind : PoolKind} {pool : Nat} {g : PoolGroup} {rest : List PoolFrame}

theorem groups_setGroup (k : PoolKind) (p : Nat) :
    (w.setGroup kind pool g).groups k p = if k = kind ∧ p = pool then g else w.groups k p := by
  unfold setGroup
  simp only [Function.update_apply]
  split
  · next hk =>
    subst hk
    rw [Function.update_apply]
    simp
  · next hk => simp [hk]

theorem groups_setGroup_self : (w.setGroup kind pool g).groups kind pool = g := by
  rw [groups_setGroup, if_pos ⟨rfl, rfl⟩]

theorem Counted.setGroup (h : w.Counted) (hg : g.spawnedPoolAmount = g.spawnedCount)
    (hlimit : g.spawnedCount ≤ w.maxLimit pool) : (w.setGroup kind pool g).Counted := by
  intro k p
  rw [groups_setGroup]
  split
  · next hk => exact ⟨hg, hk.2 ▸ hlimit⟩
  · exact h k p

theorem Fits.setGroup_ne {fr : PoolFrame} (h : w.Fits fr) (hne : fr.group ≠ (kind, pool)) :
    (w.setGroup kind pool g).Fits fr := by
  unfold Fits
  rw [groups_setGroup, if_neg fun hk => hne (Prod.ext hk.1 hk.2)]
  exact h

theorem fits_below_spawn {top : PoolFrame} (h : ∀ fr ∈ rest, w.Fits fr) (ha : Alone top rest)
    (hgroup : top.group = (kind, pool)) (hspawns : top.spawns = true) :
    ∀ fr ∈ rest, (w.setGroup kind pool g).Fits fr := by
  intro fr hfr
  by_cases heq : fr.group = (kind, pool)
  · obtain ⟨hwaits, hspawn⟩ := ha fr hfr (heq.trans hgroup.symm)
    have hspawn := hspawn hspawns
    cases fr with
    | calling k p guid => trivial
    | despawning k p guid st index => trivial
    | spawning k p left trig last => exact absurd hspawn (by simp [PoolFrame.spawns])
    | marking p st index left trig last => exact absurd hwaits (by simp [PoolFrame.waits])
    | unmarking p guid st index => exact absurd hwaits (by simp [PoolFrame.waits])
  · exact (h fr hfr).setGroup_ne heq

theorem fits_below_despawn {top : PoolFrame} (h : ∀ fr ∈ rest, w.Fits fr) (ha : Alone top rest)
    (hgroup : top.group = (kind, pool)) (hle : g.spawnedPoolAmount ≤ (w.groups kind pool).spawnedPoolAmount) :
    ∀ fr ∈ rest, (w.setGroup kind pool g).Fits fr := by
  intro fr hfr
  by_cases heq : fr.group = (kind, pool)
  · obtain ⟨hwaits, _⟩ := ha fr hfr (heq.trans hgroup.symm)
    have hfit := h fr hfr
    cases fr with
    | calling k p guid => trivial
    | despawning k p guid st index => trivial
    | spawning k p left trig last =>
      cases heq
      have hfit : (w.groups kind pool).spawnedPoolAmount + left ≤ w.maxLimit pool + if trig = 0 then 0 else 1 := hfit
      show ((w.setGroup kind pool g).groups kind pool).spawnedPoolAmount + left ≤ _
      rw [groups_setGroup_self]
      exact Nat.le_trans (Nat.add_le_add_right hle left) hfit
    | marking p st index left trig last => exact absurd hwaits (by simp [PoolFrame.waits])
    | unmarking p guid st index => exact absurd hwaits (by simp [PoolFrame.waits])
  · exact (h fr hfr).setGroup_ne heq

/-- The rounds of `SpawnObject` are what the limit leaves, and one for a trigger. -/
theorem rounds_le {limit amount triggerFrom : Nat} (h : amount ≤ limit) :
    amount + rounds limit amount triggerFrom ≤ limit + if triggerFrom = 0 then 0 else 1 := by
  unfold rounds int32
  simp only
  split <;> omega

/-! ## The group of a turn -/

section
variable {st : PoolStore} {index : Nat} {x : PoolObject}

theorem Counted.setSpawned (h : w.Counted) (hx : ((w.groups kind pool).store st)[index]? = some x) :
    (w.setSpawned kind pool st index x.spawned).Counted := by
  obtain ⟨hcount, hlimit⟩ := h kind pool
  have := PoolGroup.setSpawned_count hx x.spawned
  refine h.setGroup ?_ (by omega)
  rw [PoolGroup.setSpawned_amount]
  omega

theorem Counted.countOne (h : w.Counted) (hx : ((w.groups kind pool).store st)[index]? = some x)
    (hflag : x.spawned = false) (hlimit : (w.groups kind pool).spawnedPoolAmount + 1 ≤ w.maxLimit pool) :
    ((w.setSpawned kind pool st index true).setGroup kind pool
      ((w.setSpawned kind pool st index true).groups kind pool).countOne).Counted := by
  obtain ⟨hcount, _⟩ := h kind pool
  have hup := PoolGroup.setSpawned_count hx true
  rw [hflag] at hup
  simp only [Bool.false_eq_true, if_false, if_true] at hup
  intro k p
  rw [groups_setGroup]
  split
  · next hk =>
    unfold PoolHandler.setSpawned
    rw [groups_setGroup_self]
    refine ⟨?_, ?_⟩
    · show _ + 1 = PoolGroup.spawnedCount (PoolGroup.setSpawned _ _ _ _)
      rw [PoolGroup.setSpawned_amount]
      omega
    · show PoolGroup.spawnedCount (PoolGroup.setSpawned _ _ _ _) ≤ w.maxLimit p
      rw [hk.2]
      omega
  · next hk =>
    unfold PoolHandler.setSpawned
    rw [groups_setGroup, if_neg hk]
    exact h k p

theorem Counted.setDespawned (h : w.Counted) (hx : ((w.groups kind pool).store st)[index]? = some x)
    (hflag : x.spawned = true) : (w.setDespawned kind pool st index).Counted := by
  obtain ⟨hcount, hlimit⟩ := h kind pool
  have hdown := PoolGroup.setSpawned_count hx false
  rw [hflag] at hdown
  simp only [Bool.false_eq_true, if_false, if_true] at hdown
  refine h.setGroup ?_ ?_
  · show _ - 1 = PoolGroup.spawnedCount (PoolGroup.setSpawned _ _ _ _)
    omega
  · show PoolGroup.spawnedCount (PoolGroup.setSpawned _ _ _ _) ≤ _
    omega

theorem rolled_spec {triggerFrom pick : Nat} {roll : ℚ}
    (h : w.rolled kind pool triggerFrom roll pick = some (st, index, x)) :
    ((w.groups kind pool).store st)[index]? = some x ∧ (x.spawned = false ∨ x.guid = triggerFrom) := by
  unfold rolled at h
  split at h
  · cases h
  · next st' index' hroll =>
    obtain ⟨y, hy, hmay⟩ := PoolGroup.rollOne_spec hroll
    rw [hy] at h
    cases h
    exact ⟨hy, hmay⟩

theorem endRound_spawned {left last : Nat} {top : PoolFrame} (hcounted : w.Counted)
    (hx : ((w.groups kind pool).store st)[index]? = some x) (hflag : x.spawned = false)
    (hroom : (w.groups kind pool).spawnedPoolAmount + 1 + left ≤ w.maxLimit pool)
    (hrest : ∀ fr ∈ rest, w.Fits fr) (ha : Alone top rest) (hgroup : top.group = (kind, pool))
    (hspawns : top.spawns = true) :
    Sound ((w.setSpawned kind pool st index true).endRound kind pool left 0 last rest) := by
  refine ⟨hcounted.countOne hx hflag (by omega), fun fr hfr => ?_⟩
  rcases List.mem_cons.1 hfr with rfl | hfr
  · show ((PoolHandler.setGroup _ _ _ _).groups kind pool).spawnedPoolAmount + left ≤ w.maxLimit pool + 0
    rw [groups_setGroup_self]
    unfold PoolHandler.setSpawned
    rw [groups_setGroup_self]
    show PoolGroup.spawnedPoolAmount (PoolGroup.setSpawned _ _ _ _) + 1 + left ≤ _
    rw [PoolGroup.setSpawned_amount]
    exact hroom
  · exact fits_below_spawn (fits_below_spawn hrest ha hgroup hspawns) ha hgroup hspawns fr hfr

theorem sound_despawned {top : PoolFrame} {guid : Nat} (hcounted : w.Counted)
    (hx : ((w.groups kind pool).store st)[index]? = some x) (hflag : x.spawned = true)
    (hrest : ∀ fr ∈ rest, w.Fits fr) (ha : Alone top rest) (hgroup : top.group = (kind, pool)) :
    Sound { w.setDespawned kind pool st index with
      stack := .despawning kind pool guid st (index + 1) :: rest } := by
  refine ⟨hcounted.setDespawned hx hflag, fun fr hfr => ?_⟩
  rcases List.mem_cons.1 hfr with rfl | hfr
  · trivial
  · refine fits_below_despawn hrest ha hgroup ?_ fr hfr
    exact Nat.sub_le _ _

theorem fits_spawnCalls (child : Nat) : ∀ fr ∈ spawnCalls child, w.Fits fr := by
  intro fr hfr
  unfold spawnCalls at hfr
  simp only [List.mem_cons, List.not_mem_nil, or_false] at hfr
  rcases hfr with rfl | rfl | rfl <;> trivial

theorem fits_despawnCalls (p : Nat) : ∀ fr ∈ w.despawnCalls p, w.Fits fr := by
  intro fr hfr
  obtain ⟨k, _, rfl⟩ := List.mem_map.1 hfr
  trivial

end

/-! ## Turns -/

theorem sound_stack {fr : PoolFrame} (hcounted : w.Counted) (hfr : w.Fits fr) (hrest : ∀ fr ∈ rest, w.Fits fr) :
    Sound { w with stack := fr :: rest } := by
  refine ⟨hcounted, fun fr' hfr' => ?_⟩
  rcases List.mem_cons.1 hfr' with rfl | hfr'
  · exact hfr
  · exact hrest fr' hfr'

/-- **A round of `SpawnObject`**. -/
theorem Sound.spawnRound (h : Sound w) {left trig last pick : Nat} {roll : ℚ} {answer : Bool}
    (hstack : w.stack = .spawning kind pool (left + 1) trig last :: rest)
    (hg : w.Heedful (.turn roll pick answer)) :
    Sound (w.spawnRound kind pool left trig last rest roll pick answer) := by
  have hg : w.HeedfulTurn roll pick answer w.stack := hg
  rw [hstack] at hg
  obtain ⟨ha, htop⟩ := hg
  have hrest : ∀ fr ∈ rest, w.Fits fr := fun fr hfr =>
    h.fits fr (hstack ▸ List.mem_cons_of_mem _ hfr)
  have hfit : (w.groups kind pool).spawnedPoolAmount + (left + 1) ≤
      w.maxLimit pool + if trig = 0 then 0 else 1 :=
    h.fits (.spawning kind pool (left + 1) trig last) (hstack ▸ List.mem_cons_self)
  have hless : w.Fits (.spawning kind pool left trig last) := by
    show (w.groups kind pool).spawnedPoolAmount + left ≤ w.maxLimit pool + if trig = 0 then 0 else 1
    omega
  -- without the trigger there is a round less
  have hzero : (w.groups kind pool).spawnedPoolAmount + left ≤ w.maxLimit pool + 0 := by
    split at hfit <;> omega
  unfold PoolHandler.spawnRound
  split
  · exact sound_stack h.counted hless hrest
  · next st index x hroll =>
    obtain ⟨hx, hmay⟩ := rolled_spec hroll
    unfold spawnEntry
    split
    · exact sound_stack h.counted hless hrest
    · next hlast =>
      rw [hroll] at htop
      have hanswer := htop hlast
      split
      · next htrig =>
        rw [if_pos htrig] at hanswer
        rw [hanswer]
        refine ⟨h.counted.setSpawned hx, fun fr hfr => ?_⟩
        rcases List.mem_cons.1 hfr with rfl | hfr
        · show ((PoolHandler.setGroup _ _ _ _).groups kind pool).spawnedPoolAmount + left ≤ w.maxLimit pool + 0
          rw [groups_setGroup_self, PoolGroup.setSpawned_amount]
          exact hzero
        · exact fits_below_spawn hrest ha rfl rfl fr hfr
      · next htrig =>
        rw [if_neg htrig] at hanswer
        have hflag := hmay.resolve_right htrig
        split
        · next hkind =>
          subst hkind
          have hnone : trig = 0 := by simpa [reSpawn1Object] using hanswer
          rw [if_pos hnone] at hfit
          refine ⟨h.counted, fun fr hfr => ?_⟩
          rcases List.mem_append.1 hfr with hfr | hfr
          · exact fits_spawnCalls _ fr hfr
          · rcases List.mem_cons.1 hfr with rfl | hfr
            · exact ⟨hnone, ⟨x, hx, hflag⟩, by
                show (w.groups .pool pool).spawnedPoolAmount + 1 + left ≤ w.maxLimit pool
                omega⟩
            · exact hrest fr hfr
        · next hkind =>
          have hanswer : answer = decide (trig = 0) := by simpa [reSpawn1Object, hkind] using hanswer
          by_cases hnone : trig = 0
          · subst hnone
            rw [hanswer]
            refine endRound_spawned h.counted hx hflag ?_ hrest ha rfl rfl
            simp only [if_true] at hfit
            omega
          · have hfail : answer = x.spawned := by rw [hanswer, hflag]; exact decide_eq_false hnone
            rw [hfail]
            unfold endRound
            rw [if_pos hnone]
            refine ⟨h.counted.setSpawned hx, fun fr hfr => ?_⟩
            rcases List.mem_cons.1 hfr with rfl | hfr
            · trivial
            · rcases List.mem_cons.1 hfr with rfl | hfr
              · show ((PoolHandler.setGroup _ _ _ _).groups kind pool).spawnedPoolAmount + left ≤ w.maxLimit pool + 0
                rw [groups_setGroup_self, PoolGroup.setSpawned_amount]
                exact hzero
              · exact fits_below_spawn hrest ha rfl rfl fr hfr

/-- **An entry in `DespawnObject`**. -/
theorem Sound.despawnTurn (h : Sound w) {guid index : Nat} {st : PoolStore}
    (hstack : w.stack = .despawning kind pool guid st index :: rest)
    (ha : Alone (.despawning kind pool guid st index) rest) :
    Sound (w.despawnTurn kind pool guid st index rest) := by
  have hrest : ∀ fr ∈ rest, w.Fits fr := fun fr hfr =>
    h.fits fr (hstack ▸ List.mem_cons_of_mem _ hfr)
  unfold PoolHandler.despawnTurn
  split
  · next x hx =>
    unfold despawnEntry
    split
    · exact sound_stack h.counted trivial hrest
    · next hmatch =>
      have hflag : x.spawned = true := by
        simp only [PoolGroup.toDespawn, Bool.not_eq_false, Bool.and_eq_true] at hmatch
        exact hmatch.1
      split
      · next hkind =>
        subst hkind
        refine ⟨h.counted, fun fr hfr => ?_⟩
        rcases List.mem_append.1 hfr with hfr | hfr
        · exact fits_despawnCalls _ fr hfr
        · rcases List.mem_cons.1 hfr with rfl | hfr
          · exact ⟨x, hx, hflag⟩
          · exact hrest fr hfr
      · exact sound_despawned h.counted hx hflag hrest ha rfl
  · exact sound_stack h.counted trivial hrest
  · exact ⟨h.counted, hrest⟩

theorem Sound.turn (h : Sound w) {roll : ℚ} {pick : Nat} {answer : Bool}
    (hg : w.Heedful (.turn roll pick answer)) : Sound (w.turn roll pick answer) := by
  have hg' : w.HeedfulTurn roll pick answer w.stack := hg
  unfold PoolHandler.turn
  split
  · exact h
  · next k p guid rest hstack =>
    have hrest : ∀ fr ∈ rest, w.Fits fr := fun fr hfr =>
      h.fits fr (hstack ▸ List.mem_cons_of_mem _ hfr)
    unfold beginSpawn
    split
    · exact ⟨h.counted, hrest⟩
    · obtain ⟨hcount, hlimit⟩ := h.counted k p
      exact sound_stack h.counted (rounds_le (hcount ▸ hlimit)) hrest
  · next k p trig last rest hstack =>
    exact ⟨h.counted, fun fr hfr => h.fits fr (hstack ▸ List.mem_cons_of_mem _ hfr)⟩
  · next k p left trig last rest hstack => exact h.spawnRound hstack hg
  · next p st index left trig last rest hstack =>
    rw [hstack] at hg'
    obtain ⟨hnone, ⟨x, hx, hflag⟩, hroom⟩ := h.fits _ (hstack ▸ List.mem_cons_self)
    rw [hnone]
    exact endRound_spawned h.counted hx hflag hroom
      (fun fr hfr => h.fits fr (hstack ▸ List.mem_cons_of_mem _ hfr)) hg' rfl rfl
  · next k p guid st index rest hstack =>
    rw [hstack] at hg'
    exact h.despawnTurn hstack hg'
  · next p guid st index rest hstack =>
    rw [hstack] at hg'
    obtain ⟨x, hx, hflag⟩ := h.fits _ (hstack ▸ List.mem_cons_self)
    exact sound_despawned h.counted hx hflag
      (fun fr hfr => h.fits fr (hstack ▸ List.mem_cons_of_mem _ hfr)) hg' rfl

theorem Sound.step (h : Sound w) {r : PoolRequest} (hg : w.Heedful r) : Sound (w.step r) := by
  have hcalls : ∀ k p guid, Sound { w with stack := [.calling k p guid] } := fun k p guid =>
    sound_stack h.counted trivial fun fr hfr => by cases hfr
  cases r with
  | turn roll pick answer => exact h.turn hg
  | spawnPool pool guid kind =>
    unfold PoolHandler.step
    simp only
    split
    · exact hcalls kind pool guid
    · exact h
  | despawnPool pool =>
    unfold PoolHandler.step
    simp only
    split
    · exact ⟨h.counted, fits_despawnCalls pool⟩
    · exact h
  | updatePool pool guid kind =>
    unfold PoolHandler.step
    simp only
    split
    · unfold updatePool
      split
      · exact hcalls kind pool guid
      · next mother _ =>
        split
        · exact hcalls .pool mother 0
        · exact hcalls kind pool guid
    · exact h

end

/-! ## What is loaded -/

/-- No entry is spawned or counted, no call is begun. -/
structure Fresh (w : PoolHandler) : Prop where
  idle : w.stack = []
  uncounted : ∀ kind pool, (w.groups kind pool).spawnedPoolAmount = 0
  unspawned : ∀ kind pool st, ∀ x ∈ (w.groups kind pool).store st, x.spawned = false

theorem Fresh.sound {w : PoolHandler} (h : Fresh w) : Sound w := by
  refine ⟨fun kind pool => ?_, fun fr hfr => by rw [h.idle] at hfr; cases hfr⟩
  have hzero : ∀ st, ((w.groups kind pool).store st).countP PoolObject.spawned = 0 := fun st =>
    List.countP_eq_zero.2 fun x hx => by simp [h.unspawned kind pool st x hx]
  have hcount : (w.groups kind pool).spawnedCount = 0 := by
    have h1 : (w.groups kind pool).explicitlyChanced.countP _ = 0 := hzero .explicitlyChanced
    have h2 : (w.groups kind pool).equalChanced.countP _ = 0 := hzero .equalChanced
    unfold PoolGroup.spawnedCount
    omega
  rw [hcount]
  exact ⟨h.uncounted kind pool, Nat.zero_le _⟩

theorem Fresh.setGroup {w : PoolHandler} (h : Fresh w) {kind : PoolKind} {pool : Nat} {g : PoolGroup}
    (hamount : g.spawnedPoolAmount = 0) (hg : ∀ st, ∀ x ∈ g.store st, x.spawned = false) :
    Fresh (w.setGroup kind pool g) := by
  refine ⟨h.idle, fun k p => ?_, fun k p st x hx => ?_⟩
  · rw [groups_setGroup]
    split
    · exact hamount
    · exact h.uncounted k p
  · rw [groups_setGroup] at hx
    split at hx
    · exact hg st x hx
    · exact h.unspawned k p st x hx

theorem Fresh.addEntry {w : PoolHandler} (h : Fresh w) (kind : PoolKind) (row : PoolRow) :
    Fresh (w.addEntry kind row) := by
  have hold := h.unspawned kind row.pool_id
  unfold PoolHandler.addEntry PoolGroup.addEntry
  split
  · refine h.setGroup (h.uncounted _ _) fun st x hx => ?_
    cases st with
    | explicitlyChanced =>
      rcases List.mem_append.1 hx with hx | hx
      · exact hold .explicitlyChanced x hx
      · rw [List.mem_singleton.1 hx]
    | equalChanced => exact hold .equalChanced x hx
  · refine h.setGroup (h.uncounted _ _) fun st x hx => ?_
    cases st with
    | explicitlyChanced => exact hold .explicitlyChanced x hx
    | equalChanced =>
      rcases List.mem_append.1 hx with hx | hx
      · exact hold .equalChanced x hx
      · rw [List.mem_singleton.1 hx]

theorem Fresh.loadSpawn {w : PoolHandler} (h : Fresh w) (kind : PoolKind) (valid : Nat → Bool) (row : PoolRow) :
    Fresh (loadSpawn kind valid w row) := by
  unfold PoolHandler.loadSpawn
  split
  · exact h
  · split
    · exact h
    · split
      · exact h
      · exact h.addEntry kind row

theorem Fresh.loadChild {w : PoolHandler} (h : Fresh w) (row : PoolRow) : Fresh (w.loadChild row) := by
  have hinsert : Fresh ((w.addEntry .pool row).insertMother row.guid row.pool_id) := by
    have hadd := h.addEntry .pool row
    unfold insertMother
    split
    · exact hadd
    · exact ⟨hadd.idle, hadd.uncounted, hadd.unspawned⟩
  unfold PoolHandler.loadChild
  split
  · exact h
  · split
    · exact h
    · split
      · exact h
      · split
        · exact h
        · exact hinsert

theorem Fresh.checkCircle {w : PoolHandler} (h : Fresh w) (i : Nat) : Fresh (w.checkCircle i) := by
  unfold PoolHandler.checkCircle
  split
  · exact h
  · next child mother _ =>
    have hless : Fresh (w.setGroup .pool mother ((w.groups .pool mother).removeOneRelation child)) := by
      refine h.setGroup (h.uncounted _ _) fun st x hx => ?_
      have hold := h.unspawned .pool mother st x
      cases st with
      | explicitlyChanced => exact hold (List.eraseP_subset hx)
      | equalChanced => exact hold (List.eraseP_subset hx)
    exact ⟨hless.idle, hless.uncounted, hless.unspawned⟩

theorem fresh_loadFromDB (t : PoolTables) : Fresh (loadFromDB t) := by
  have hempty : ∀ n, Fresh { maxPoolId := n } := fun n =>
    ⟨rfl, fun _ _ => rfl, fun _ _ st x hx => by cases st <;> cases hx⟩
  unfold loadFromDB loadSpawns checkCircles
  split
  · exact hempty 0
  · refine List.foldlRecOn _ _ (List.foldlRecOn _ _ ?_ fun w h row _ => h.loadChild row) fun w h i _ =>
      h.checkCircle i
    refine List.foldlRecOn _ _ (List.foldlRecOn _ _ ?_ fun w h row _ => h.loadSpawn _ _ row) fun w h row _ =>
      h.loadSpawn _ _ row
    exact List.foldlRecOn _ _ (hempty _) fun w h row _ => ⟨h.idle, h.uncounted, h.unspawned⟩

/-! ## Runs -/

/-- **The amount is the number of spawned entries, within the limit**, in every group after every turn. -/
theorem amounts_kept (t : PoolTables) (rs : List PoolRequest) (h : Along step Heedful (loadFromDB t) rs) :
    Along step (fun w r => (w.step r).Counted) (loadFromDB t) rs :=
  Transition.along_of_invariant (fun _ _ hs hg => hs.step hg) (fun _ _ hs hg => (hs.step hg).counted)
    (fresh_loadFromDB t).sound h

/-- Pool 1 of two creatures, of which one is spawned at a time, within pool 2. -/
def sampleTables : PoolTables :=
  { pool_template := [(1, 1), (2, 1)]
    pool_creature := [⟨11, 1, 0⟩, ⟨12, 1, 0⟩]
    pool_pool := [⟨1, 2, 0⟩] }

theorem amounts_kept_sample :
    Along step (fun w r => (w.step r).Counted) (loadFromDB sampleTables)
      [.spawnPool 2 0 .pool, .turn 0 0 true, .turn 0 0 true, .turn 0 0 true, .turn 0 0 true, .turn 0 0 true,
        .turn 0 1 true] := by
  exact amounts_kept _ _ (by decide)

/-- Another entry takes the place of the trigger. -/
theorem swap_miscounted :
    ¬ (run step (loadFromDB sampleTables) [.spawnPool 1 0 .creature, .turn 0 0 true, .turn 0 0 true,
      .turn 0 0 true, .spawnPool 1 11 .creature, .turn 0 0 true, .turn 0 1 true, .turn 0 0 true]).Counted := by
  intro h
  have := (h .creature 1).1
  revert this
  decide

end PoolHandler

end BlizzLike
