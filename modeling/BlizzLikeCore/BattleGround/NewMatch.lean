import BlizzLikeCore.BattleGround.Invitations
import Mathlib.Algebra.Order.BigOperators.Group.List
import Mathlib.Algebra.Order.Group.Nat

/-!
# A new match is filled

`BattleGroundQueue::Update` is to invite enough players of each team to a battleground that it makes, to give
two rated teams each other's rating, and to start it.

    fills_iff : that it does, exactly when the selections that it invites have equally many groups, fewer than
                65,536, and each has enough members in the world

The loops that invite the groups count them against the smaller number of groups of the two, and return from
`Update` when a selection has more: the other team is then not invited, nor is the battleground started
(`one_against_two_waits`).
-/

namespace BlizzLike

/-- Two states of a group that differ at most in the opponents' rating. -/
structure QueuedGroup.SameMatch (a b : QueuedGroup) : Prop where
  invited : a.isInvitedToBGInstanceGUID = b.isInvitedToBGInstanceGUID
  team : a.team = b.team
  rating : a.arenaTeamRating = b.arenaTeamRating

namespace BattleGroundMgr

variable (w : BattleGroundMgr)

/-! ## The law -/

/-- A group of the queue that is invited to a battleground for a team. -/
def InvitedAs (q id team : Nat) (g : GroupRef) : Prop :=
  (∃ bracket, g ∈ (w.queues q).queuedGroups bracket) ∧
    ((w.queues q).group g).isInvitedToBGInstanceGUID = id ∧ ((w.queues q).group g).team = team

/-- Each team is one group, and they have each other's rating. -/
def Opposed (q id : Nat) : Prop :=
  ∃ g h, (∀ x, w.InvitedAs q id alliance x ↔ x = g) ∧ (∀ x, w.InvitedAs q id horde x ↔ x = h) ∧
    ((w.queues q).group g).opponentsTeamRating = ((w.queues q).group h).arenaTeamRating ∧
    ((w.queues q).group h).opponentsTeamRating = ((w.queues q).group g).arenaTeamRating

/-- **What a new battleground is to be**: as many players invited for each team as the limits say, two rated
teams opposed, and started. -/
def Filled (q id : Nat) (isRated : Bool) (limits : UInt32 × UInt32) : Prop :=
  ∃ bg, w.battleGrounds id = some bg ∧
    (∀ team, team = alliance ∨ team = horde →
      limits.1 ≤ bg.getInvitedCount team ∧ bg.getInvitedCount team ≤ limits.2) ∧
    (isRated = true → w.Opposed q id) ∧ bg.started = true

/-- **What is to wait for it**: two selections of equally many groups, fewer than the counter's 65,536, if there is
one for each team or one alone will do; and of each selection enough members in the world. -/
def Fillable (q : Nat) (call : UpdateCall) (template : BattleGround) : Prop :=
  let limits := w.teamLimits template call.arenaType
  let ally := w.buildSelectionPool q call limits.1 limits.2 alliance 0
  let enemy := w.buildSelectionPool q call limits.1 limits.2 horde 0
  if (ally.1 ∧ enemy.1) ∨ (w.testing ∧ (ally.1 ∨ enemy.1)) then
    (ally.2.selectedGroups.length = enemy.2.selectedGroups.length ∧ ally.2.selectedGroups.length < 65536) ∧
      limits.1.toNat ≤ w.presentOf q ally.2.selectedGroups ∧ limits.1.toNat ≤ w.presentOf q enemy.2.selectedGroups
  else
    ∀ one two, (w.selectSameSide q call limits.2).1 = some (one, two) →
      limits.1.toNat ≤ w.presentOf q one ∧ limits.1.toNat ≤ w.presentOf q two

/-- The ids are numbered up, and no group is in the queue twice. -/
structure Numbered (q : Nat) : Prop where
  nodup : ∀ bracket, ((w.queues q).queuedGroups bracket).Nodup
  invited : ∀ bracket, ∀ g ∈ (w.queues q).queuedGroups bracket,
    ((w.queues q).group g).isInvitedToBGInstanceGUID ≤ w.maxInstanceId
  instances : ∀ id bg, w.battleGrounds id = some bg → 0 < id ∧ id ≤ w.maxInstanceId

variable {w}

/-! ## Selections -/

/-- What a selection is: groups of the bracket that wait on a side, each once. -/
structure Chosen (w : BattleGroundMgr) (q bracket side : Nat) (groups : List GroupRef) : Prop where
  nodup : groups.Nodup
  queued : ∀ g ∈ groups, g ∈ (w.queues q).queuedGroups bracket
  waits : ∀ g ∈ groups, ((w.queues q).group g).isInvitedToBGInstanceGUID = 0
  team : ∀ g ∈ groups, ((w.queues q).group g).team = side

theorem length_build_exact {info : GroupRef → GroupQueueInfo} {minPlayers maxPlayers : UInt32}
    {eligible : List GroupRef} (hsize : ∀ g ∈ eligible, (info g).players.length = maxPlayers.toNat)
    (hok : (SelectionPool.build info minPlayers maxPlayers eligible SelectionPool.init).1 = true) :
    (SelectionPool.build info minPlayers maxPlayers eligible SelectionPool.init).2.selectedGroups.length = 1 := by
  obtain ⟨-, hsel, -⟩ := SelectionPool.build_selects info minPlayers maxPlayers eligible
  obtain ⟨-, -, -, ⟨hmin, hmax⟩, -⟩ := hsel hok
  cases eligible with
  | nil => cases hok
  | cons g rest =>
    have hg := hsize g List.mem_cons_self
    have hlt : maxPlayers.toNat < 4294967296 := maxPlayers.toNat_lt
    have hadded : minPlayers ≤ (SelectionPool.init.addGroup info g).playerCount := by
      rw [UInt32.le_iff_toNat_le]
      have hcount : (SelectionPool.init.addGroup info g).playerCount.toNat = maxPlayers.toNat := by
        simp only [SelectionPool.init, SelectionPool.addGroup, UInt32.toNat_add, UInt32.toNat_ofNat', hg]
        simp only [UInt32.toNat_zero]
        omega
      omega
    unfold SelectionPool.build
    rw [if_pos (by simpa [SelectionPool.init] using hg.le)]
    dsimp only
    rw [if_pos hadded]
    rfl

/-- **A selection that has been made.** -/
theorem buildSelectionPool_chosen {q : Nat} {call : UpdateCall} (minPlayers maxPlayers : UInt32)
    (side excludeTeam : Nat) (hnodup : ((w.queues q).queuedGroups call.queueId).Nodup)
    (hok : (w.buildSelectionPool q call minPlayers maxPlayers side excludeTeam).1 = true) :
    w.Chosen q call.queueId side (w.buildSelectionPool q call minPlayers maxPlayers side excludeTeam).2.selectedGroups ∧
      w.presentOf q (w.buildSelectionPool q call minPlayers maxPlayers side excludeTeam).2.selectedGroups ≤
        maxPlayers.toNat ∧
      (w.buildSelectionPool q call minPlayers maxPlayers side excludeTeam).2.selectedGroups ≠ [] ∧
      (call.isRated = true →
        (w.buildSelectionPool q call minPlayers maxPlayers side excludeTeam).2.selectedGroups.length = 1) := by
  unfold buildSelectionPool at hok ⊢
  dsimp only at hok ⊢
  obtain ⟨info, hinfo⟩ : ∃ info, info = fun g => ((w.queues q).group g).toGroupQueueInfo := ⟨_, rfl⟩
  obtain ⟨f, hf⟩ : ∃ f, f = w.groupFilter call maxPlayers side excludeTeam := ⟨_, rfl⟩
  rw [← hinfo, ← hf] at hok ⊢
  obtain ⟨-, hsel, -⟩ := SelectionPool.build_selects info minPlayers maxPlayers
    (eligibleGroups info f ((w.queues q).queuedGroups call.queueId))
  obtain ⟨hsub, hnd, hne, ⟨-, hmax⟩, -⟩ := hsel hok
  have hpass : ∀ g ∈ eligibleGroups info f ((w.queues q).queuedGroups call.queueId),
      g ∈ (w.queues q).queuedGroups call.queueId ∧ f.passes (info g) = true := fun g hg => List.mem_filter.1 hg
  have hgroup : ∀ g, f.passes (info g) = true → (info g).isInvitedToBGInstanceGUID = 0 ∧ (info g).team = side ∧
      (call.isRated = true → (info g).players.length = maxPlayers.toNat) := by
    intro g hg
    subst hf
    unfold GroupFilter.passes groupFilter at hg
    simp only [Bool.and_eq_true, beq_iff_eq] at hg
    refine ⟨hg.1.1.1.1.1.2, hg.1.1.1.1.2, fun hr => ?_⟩
    simpa [hr] using hg.1.2
  refine ⟨⟨hnd (hnodup.filter _), fun g hg => (hpass g (hsub.subset hg)).1, fun g hg => ?_, fun g hg => ?_⟩, ?_, hne,
    fun hr => length_build_exact (fun g hg => (hgroup g (hpass g hg).2).2.2 hr) hok⟩
  · have := (hgroup g (hpass g (hsub.subset hg)).2).1
    rwa [hinfo] at this
  · have := (hgroup g (hpass g (hsub.subset hg)).2).2.1
    rwa [hinfo] at this
  · refine Nat.le_trans ?_ hmax
    unfold presentOf playersOf
    rw [hinfo]
    exact List.sum_le_sum fun g _ => List.countP_le_length

theorem setTeams_eq (q side : Nat) (groups : List GroupRef) : w.setTeams q side groups =
    { w with queues := Function.update w.queues q ((w.queues q).teamed side groups) } := by
  unfold setTeams
  induction groups generalizing w with
  | nil => simp [BattleGroundQueue.teamed]
  | cons g groups ih =>
    rw [List.foldl_cons, ih]
    unfold modifyGroup modifyQueue BattleGroundQueue.modifyGroup BattleGroundQueue.teamed
    dsimp only
    rw [Function.update_self, Function.update_idem]
    congr 2
    dsimp only
    congr 1
    funext g'
    by_cases hg' : g' = g
    · subst hg'
      rw [Function.update_self, if_pos List.mem_cons_self]
      split <;> rfl
    · rw [Function.update_of_ne hg']
      simp [List.mem_cons, hg']

theorem setTeams_alike (q side : Nat) (groups : List GroupRef) : w.Alike (w.setTeams q side groups) := by
  unfold setTeams
  induction groups generalizing w with
  | nil => exact .refl w
  | cons g groups ih =>
    exact (modifyGroup_alike q g (·.setTeam side) fun _ => ⟨rfl, rfl, rfl, rfl, rfl, rfl, rfl⟩).trans ih

theorem setTeams_back {q side : Nat} (other : Nat) {groups : List GroupRef}
    (hteam : ∀ g ∈ groups, ((w.queues q).group g).team = side) :
    (w.setTeams q other groups).setTeams q side groups = w := by
  have hqueue : ((w.queues q).teamed other groups).teamed side groups = w.queues q := by
    have hgroup : (((w.queues q).teamed other groups).teamed side groups).group = (w.queues q).group := by
      funext g
      unfold BattleGroundQueue.teamed
      dsimp only
      by_cases hg : g ∈ groups
      · rw [if_pos hg, if_pos hg, ← hteam g hg]
        rfl
      · rw [if_neg hg, if_neg hg]
    calc ((w.queues q).teamed other groups).teamed side groups
        = { w.queues q with group := (((w.queues q).teamed other groups).teamed side groups).group } := rfl
      _ = w.queues q := by rw [hgroup]
  rw [setTeams_eq, setTeams_eq]
  dsimp only
  rw [Function.update_self, Function.update_idem, hqueue, Function.update_eq_self]

/-- Two selections that have no group in common. -/
structure ChosenBoth (w : BattleGroundMgr) (q : Nat) (call : UpdateCall) (maxPlayers : UInt32) (side side' : Nat)
    (one two : List GroupRef) : Prop where
  chosenOne : w.Chosen q call.queueId side one
  chosenTwo : w.Chosen q call.queueId side' two
  apart : ∀ g ∈ one, g ∉ two
  fitOne : w.presentOf q one ≤ maxPlayers.toNat
  fitTwo : w.presentOf q two ≤ maxPlayers.toNat
  rated : call.isRated = true → one.length = 1 ∧ two.length = 1

/-- **Two selections from one side**, and the queue as before. -/
theorem selectOneSide_chosen {q : Nat} {call : UpdateCall} (maxPlayers : UInt32) {side other : Nat}
    (hne : other ≠ side) (hnodup : ((w.queues q).queuedGroups call.queueId).Nodup) :
    (w.selectOneSide q call maxPlayers side other).2 = w ∧
      ∀ one two, (w.selectOneSide q call maxPlayers side other).1 = some (one, two) →
        w.ChosenBoth q call maxPlayers side side one two := by
  unfold selectOneSide
  cases hone : w.buildSelectionPool q call maxPlayers maxPlayers side 0 with
  | mk ok pool =>
    cases ok with
    | false => exact ⟨rfl, nofun⟩
    | true =>
      obtain ⟨hc1, hp1, hne1, hr1⟩ := buildSelectionPool_chosen maxPlayers maxPlayers side 0 hnodup
        (by rw [hone])
      rw [hone] at hc1 hp1 hne1 hr1
      dsimp only at hc1 hp1 hne1 hr1 ⊢
      refine ⟨setTeams_back other hc1.team, fun one two hsome => ?_⟩
      obtain ⟨w1, hw1⟩ : ∃ w1, w1 = w.setTeams q other pool.selectedGroups := ⟨_, rfl⟩
      rw [← hw1] at hsome
      split at hsome
      case isFalse => cases hsome
      next hok =>
      simp only [Option.some.injEq, Prod.mk.injEq] at hsome
      obtain ⟨rfl, rfl⟩ := hsome
      have heq : w1 = _ := hw1.trans (setTeams_eq ..)
      have hlist : (w1.queues q).queuedGroups = (w.queues q).queuedGroups := by
        rw [heq]
        dsimp only
        rw [Function.update_self]
        rfl
      have hgroup : ∀ g, (w1.queues q).group g = if g ∈ pool.selectedGroups then
          ((w.queues q).group g).setTeam other else (w.queues q).group g := by
        intro g
        rw [heq]
        dsimp only
        rw [Function.update_self]
        rfl
      have halike : w.Alike w1 := hw1 ▸ setTeams_alike q other pool.selectedGroups
      obtain ⟨hc2, hp2, -, hr2⟩ := buildSelectionPool_chosen _ _ _ _ (by rw [hlist]; exact hnodup) hok
      rw [halike.presentOf] at hp2
      have hapart : ∀ g ∈ pool.selectedGroups, g ∉ _ := fun g hg hg2 => by
        have h2 := hc2.team g hg2
        rw [hgroup, if_pos hg] at h2
        exact hne h2
      have hsame : ∀ g ∈ _, (w1.queues q).group g = (w.queues q).group g := fun g hg2 => by
        rw [hgroup, if_neg fun hg => hapart g hg hg2]
      refine ⟨hc1, ⟨hc2.nodup, fun g hg => hlist ▸ hc2.queued g hg, fun g hg => ?_, fun g hg => ?_⟩, hapart, hp1, hp2,
        fun hr => ⟨hr1 hr, hr2 hr⟩⟩
      · rw [← hsame g hg]
        exact hc2.waits g hg
      · rw [← hsame g hg]
        exact hc2.team g hg

theorem selectSameSide_chosen {q : Nat} {call : UpdateCall} (maxPlayers : UInt32)
    (hnodup : ((w.queues q).queuedGroups call.queueId).Nodup) :
    (w.selectSameSide q call maxPlayers).2 = w ∧
      ∀ one two, (w.selectSameSide q call maxPlayers).1 = some (one, two) →
        ∃ side, w.ChosenBoth q call maxPlayers side side one two := by
  have hha : alliance ≠ horde := by decide
  obtain ⟨h1, h1'⟩ := selectOneSide_chosen maxPlayers hha hnodup
  obtain ⟨h2, h2'⟩ := selectOneSide_chosen maxPlayers hha.symm hnodup
  unfold selectSameSide
  cases hone : w.selectOneSide q call maxPlayers horde alliance with
  | mk both w1 =>
    rw [hone] at h1 h1'
    dsimp only at h1 h1'
    subst h1
    cases both with
    | some p => exact ⟨rfl, fun one two h => ⟨horde, h1' one two h⟩⟩
    | none => exact ⟨h2, fun one two h => ⟨alliance, h2' one two h⟩⟩

/-! ## The new battleground -/

/-- What a new battleground is when nobody has been invited, and that all else is as before. -/
structure Creates (a b : BattleGroundMgr) (id : Nat) : Prop where
  id_eq : id = a.maxInstanceId + 1
  alike : a.Alike b
  queues : b.queues = a.queues
  maxInstanceId : b.maxInstanceId = id
  other : ∀ i, i ≠ id → b.battleGrounds i = a.battleGrounds i
  bg : ∃ bg, b.battleGrounds id = some bg ∧ (∀ t, bg.getInvitedCount t = 0) ∧ bg.started = false

theorem createNewBattleGround_creates {bgTypeId arenaType : Nat} {isRated : Bool} {id : Nat} {w1 : BattleGroundMgr}
    (h : w.createNewBattleGround bgTypeId arenaType isRated = some (id, w1)) : w.Creates w1 id := by
  unfold createNewBattleGround at h
  split at h
  · cases h
  · split at h
    · simp only [Option.some.injEq, Prod.mk.injEq] at h
      obtain ⟨rfl, rfl⟩ := h
      refine ⟨rfl, ⟨fun _ => .refl _, fun _ => .refl _, rfl, rfl, rfl, rfl, rfl, rfl, rfl⟩, rfl, rfl,
        fun i hi => Function.update_of_ne hi .., ⟨_, Function.update_self .., fun t => ?_, rfl⟩⟩
      unfold BattleGround.getInvitedCount
      split <;> rfl
    · cases h

theorem createNewArena_creates {arenaType arenaNum : Nat} {isRated : Bool} {id : Nat} {w1 : BattleGroundMgr}
    (h : w.createNewArena arenaType isRated arenaNum = some (id, w1)) : w.Creates w1 id := by
  unfold createNewArena at h
  dsimp only at h
  split at h
  · next new hnew =>
    cases h
    exact createNewBattleGround_creates hnew
  · split at h
    · next new hnew =>
      cases h
      exact createNewBattleGround_creates hnew
    · exact createNewBattleGround_creates h

theorem Creates.modify {w1 : BattleGroundMgr} {id : Nat} (h : w.Creates w1 id) (f : BattleGround → BattleGround)
    (hf : ∀ bg, (∀ t, (f bg).getInvitedCount t = bg.getInvitedCount t) ∧ (f bg).started = bg.started) :
    w.Creates (w1.modifyBattleGround id f) id := by
  obtain ⟨bg, hbg, hcount, hstart⟩ := h.bg
  refine ⟨h.id_eq, h.alike.trans (modifyBattleGround_alike id f), h.queues, h.maxInstanceId,
    fun i hi => (Function.update_of_ne hi ..).trans (h.other i hi), ⟨f bg, ?_, fun t => ?_, ?_⟩⟩
  · unfold modifyBattleGround
    dsimp only
    rw [Function.update_self, hbg, Option.map_some]
  · rw [(hf bg).1, hcount]
  · rw [(hf bg).2, hstart]

theorem newArena_creates {call : UpdateCall} {id : Nat} {w1 : BattleGroundMgr}
    (h : w.newArena call = some (id, w1)) : w.Creates w1 id := by
  unfold newArena at h
  obtain ⟨⟨id', w'⟩, hnew, heq⟩ := Option.map_eq_some_iff.1 h
  simp only [Prod.mk.injEq] at heq
  obtain ⟨rfl, rfl⟩ := heq
  refine (createNewArena_creates hnew).modify _ fun bg => ?_
  unfold BattleGround.setArenaSize
  split
  · exact ⟨fun t => rfl, rfl⟩
  · split
    · exact ⟨fun t => rfl, rfl⟩
    · exact ⟨fun t => rfl, rfl⟩

theorem newBattleGround_creates {call : UpdateCall} {isArena : Bool} {id : Nat} {w1 : BattleGroundMgr}
    (h : w.newBattleGround call isArena = some (id, w1)) : w.Creates w1 id := by
  unfold newBattleGround at h
  split at h
  · exact newArena_creates h
  · obtain ⟨⟨id', w'⟩, hnew, heq⟩ := Option.map_eq_some_iff.1 h
    simp only [Prod.mk.injEq] at heq
    obtain ⟨rfl, rfl⟩ := heq
    exact (createNewBattleGround_creates hnew).modify _ fun bg => ⟨fun t => rfl, rfl⟩

/-! ## Two selections are invited -/

theorem setRating_invites (q : Nat) (g : GroupRef) (id rating : Nat) :
    w.Invites (w.modifyGroup q g (·.setOpponents rating)) id fun _ => 0 :=
  modifyGroup_invites q g id _ fun _ => ⟨rfl, rfl, rfl, rfl, rfl, rfl, rfl⟩

theorem setOpponents_invites (q id : Nat) (one two : List GroupRef) :
    w.Invites (w.setOpponents q one two) id fun _ => 0 := by
  unfold setOpponents
  split
  · exact (setRating_invites ..).trans (setRating_invites ..)
  · exact .refl w id

theorem setOpponents_group {q : Nat} {g h : GroupRef} (hne : g ≠ h) (x : GroupRef) :
    ((w.setOpponents q [g] [h]).queues q).group x =
      if x = g then ((w.queues q).group g).setOpponents ((w.queues q).group h).arenaTeamRating
      else if x = h then ((w.queues q).group h).setOpponents ((w.queues q).group g).arenaTeamRating
      else (w.queues q).group x := by
  unfold setOpponents modifyGroup modifyQueue BattleGroundQueue.modifyGroup
  dsimp only
  rw [Function.update_self, Function.update_self]
  dsimp only
  rw [Function.update_self, Function.update_of_ne hne.symm]
  by_cases hg : x = g
  · subst hg
    rw [Function.update_of_ne hne, Function.update_self, if_pos rfl]
  · rw [if_neg hg]
    by_cases hh : x = h
    · subst hh
      rw [Function.update_self, if_pos rfl]
      rfl
    · rw [Function.update_of_ne hh, Function.update_of_ne hg, if_neg hh]

theorem setOpponents_keeps {q : Nat} {g h : GroupRef} (hne : g ≠ h) (x : GroupRef) :
    (((w.setOpponents q [g] [h]).queues q).group x).SameMatch ((w.queues q).group x) := by
  rw [setOpponents_group hne]
  split
  · next hx => subst hx; exact ⟨rfl, rfl, rfl⟩
  · split
    · next hx => subst hx; exact ⟨rfl, rfl, rfl⟩
    · exact ⟨rfl, rfl, rfl⟩

/-- What there is when two selections are to be invited to a battleground in which nobody is. -/
structure Ready (w : BattleGroundMgr) (q id : Nat) (ally enemy : List GroupRef) : Prop where
  id_pos : id ≠ 0
  bg : ∃ bg, w.battleGrounds id = some bg ∧ (∀ t, bg.getInvitedCount t = 0) ∧ bg.started = false
  allyNodup : ally.Nodup
  enemyNodup : enemy.Nodup
  apart : ∀ g ∈ enemy, g ∉ ally
  waits : ∀ g, g ∈ ally ∨ g ∈ enemy → ((w.queues q).group g).isInvitedToBGInstanceGUID = 0
  queued : ∀ g, g ∈ ally ∨ g ∈ enemy → ∃ bracket, g ∈ (w.queues q).queuedGroups bracket
  free : ∀ bracket, ∀ g ∈ (w.queues q).queuedGroups bracket, ((w.queues q).group g).isInvitedToBGInstanceGUID ≠ id

theorem Ready.invites {q id : Nat} {ally enemy : List GroupRef} (h : w.Ready q id ally enemy) :
    w.Invites ((w.inviteAll q id horde enemy).inviteAll q id alliance ally) id
      (fun t => ofTeam horde (w.presentOf q enemy) t + ofTeam alliance (w.presentOf q ally) t) ∧
    (((w.inviteAll q id horde enemy).inviteAll q id alliance ally).queues q) =
      ((w.queues q).invited id horde enemy).invited id alliance ally := by
  obtain ⟨bg, hbg, -⟩ := h.bg
  obtain ⟨h1, hq1⟩ := inviteAll_invited h.id_pos (by decide : horde ≠ 0) h.enemyNodup hbg
    fun g hg => h.waits g (.inr hg)
  obtain ⟨bg1, hbg1, -⟩ := h1.bg bg hbg
  have hqueue : (w.inviteAll q id horde enemy).queues q = (w.queues q).invited id horde enemy := by
    rw [hq1, Function.update_self]
  obtain ⟨h2, hq2⟩ := inviteAll_invited h.id_pos (by decide : alliance ≠ 0) h.allyNodup hbg1 fun g hg => by
    rw [hqueue]
    unfold BattleGroundQueue.invited
    dsimp only
    rw [if_neg fun hg' => h.apart g hg' hg]
    exact h.waits g (.inl hg)
  rw [h1.alike.presentOf] at h2
  refine ⟨h1.trans h2, ?_⟩
  rw [hq2, Function.update_self, hqueue]

theorem Ready.invitedAs_iff {q id : Nat} {ally enemy : List GroupRef} (h : w.Ready q id ally enemy)
    {t : BattleGroundMgr} (hlist : (t.queues q).queuedGroups = (w.queues q).queuedGroups)
    (hgroup : ∀ x, ((t.queues q).group x).isInvitedToBGInstanceGUID =
        ((((w.queues q).invited id horde enemy).invited id alliance ally).group x).isInvitedToBGInstanceGUID ∧
      ((t.queues q).group x).team = ((((w.queues q).invited id horde enemy).invited id alliance ally).group x).team)
    (x : GroupRef) : (t.InvitedAs q id alliance x ↔ x ∈ ally) ∧ (t.InvitedAs q id horde x ↔ x ∈ enemy) := by
  have hteams : horde ≠ alliance := by decide
  unfold InvitedAs
  rw [hlist, (hgroup x).1, (hgroup x).2]
  unfold BattleGroundQueue.invited
  dsimp only
  by_cases hx : x ∈ ally
  · have hx' : x ∉ enemy := fun hx' => h.apart x hx' hx
    rw [if_pos hx]
    simp only [hx, hx', iff_true, iff_false]
    exact ⟨⟨h.queued x (.inl hx), rfl, rfl⟩, fun hinv => hteams hinv.2.2.symm⟩
  · rw [if_neg hx]
    by_cases hx' : x ∈ enemy
    · rw [if_pos hx']
      simp only [hx, hx', iff_true, iff_false]
      exact ⟨fun hinv => hteams hinv.2.2, ⟨h.queued x (.inr hx'), rfl, rfl⟩⟩
    · rw [if_neg hx']
      simp only [hx, hx', iff_false]
      exact ⟨fun ⟨⟨b, hb⟩, hinv, _⟩ => h.free b x hb hinv, fun ⟨⟨b, hb⟩, hinv, _⟩ => h.free b x hb hinv⟩

/-- **What two selections make**: `one` and `two` are they, in either order. -/
theorem Ready.filled_iff {q id : Nat} {ally enemy : List GroupRef} (h : w.Ready q id ally enemy)
    {limits : UInt32 × UInt32} (hfit : w.presentOf q ally ≤ limits.2.toNat)
    (hfit' : w.presentOf q enemy ≤ limits.2.toNat) {isRated : Bool}
    (hrated : isRated = true → ally.length = 1 ∧ enemy.length = 1) {one two : List GroupRef}
    (hboth : one = ally ∧ two = enemy ∨ one = enemy ∧ two = ally) {t : BattleGroundMgr}
    (ht : t = (w.inviteAll q id horde enemy).inviteAll q id alliance ally) :
    ((if isRated then t.setOpponents q one two else t).startBattleGround id).Filled q id isRated limits ↔
      limits.1.toNat ≤ w.presentOf q ally ∧ limits.1.toNat ≤ w.presentOf q enemy := by
  obtain ⟨hinv, hqueue⟩ := h.invites
  rw [← ht] at hinv hqueue
  obtain ⟨u, hu⟩ : ∃ u, u = if isRated then t.setOpponents q one two else t := ⟨_, rfl⟩
  rw [← hu]
  have hinv2 : t.Invites u id fun _ => 0 := by
    rw [hu]
    split
    · exact setOpponents_invites ..
    · exact .refl t id
  obtain ⟨bg, hbg, hzero, -⟩ := h.bg
  obtain ⟨bg1, hbg1, hmore⟩ := (hinv.trans hinv2).bg bg hbg
  have hlookup : (u.startBattleGround id).battleGrounds id = some { bg1 with started := true } := by
    unfold startBattleGround modifyBattleGround
    dsimp only
    rw [Function.update_self, hbg1, Option.map_some]
  have hlt : limits.2.toNat < 4294967296 := limits.2.toNat_lt
  -- the two counts
  have hally : (bg1.getInvitedCount alliance).toNat = w.presentOf q ally := by
    rw [hmore.count, hzero]
    simp [ofTeam, alliance, horde, Nat.mod_eq_of_lt (Nat.lt_of_le_of_lt hfit hlt)]
  have henemy : (bg1.getInvitedCount horde).toNat = w.presentOf q enemy := by
    rw [hmore.count, hzero]
    simp [ofTeam, alliance, horde, Nat.mod_eq_of_lt (Nat.lt_of_le_of_lt hfit' hlt)]
  constructor
  · rintro ⟨bg2, hbg2, hcounts, -, -⟩
    rw [hlookup] at hbg2
    cases hbg2
    have h1 := UInt32.le_iff_toNat_le.1 (hcounts alliance (.inl rfl)).1
    have h2 := UInt32.le_iff_toNat_le.1 (hcounts horde (.inr rfl)).1
    have h1' : limits.1.toNat ≤ (bg1.getInvitedCount alliance).toNat := h1
    have h2' : limits.1.toNat ≤ (bg1.getInvitedCount horde).toNat := h2
    omega
  · rintro ⟨h1, h2⟩
    refine ⟨_, hlookup, ?_, fun hr => ?_, rfl⟩
    · rintro team (rfl | rfl)
      · exact ⟨UInt32.le_iff_toNat_le.2 (show _ ≤ (bg1.getInvitedCount alliance).toNat by omega),
          UInt32.le_iff_toNat_le.2 (show (bg1.getInvitedCount alliance).toNat ≤ _ by omega)⟩
      · exact ⟨UInt32.le_iff_toNat_le.2 (show _ ≤ (bg1.getInvitedCount horde).toNat by omega),
          UInt32.le_iff_toNat_le.2 (show (bg1.getInvitedCount horde).toNat ≤ _ by omega)⟩
    · -- one group for each team
      obtain ⟨h1, h2⟩ := hrated hr
      obtain ⟨a, rfl⟩ := List.length_eq_one_iff.1 h1
      obtain ⟨e, rfl⟩ := List.length_eq_one_iff.1 h2
      have hne : e ≠ a := fun he => h.apart e (List.mem_singleton.2 rfl) (List.mem_singleton.2 he)
      rw [if_pos hr] at hu
      have hkept : ∀ x, ((u.queues q).group x).SameMatch ((t.queues q).group x) := by
        intro x
        rcases hboth with ⟨rfl, rfl⟩ | ⟨rfl, rfl⟩
        · exact hu ▸ setOpponents_keeps hne.symm x
        · exact hu ▸ setOpponents_keeps hne x
      have hset : ((u.queues q).group a).opponentsTeamRating = ((t.queues q).group e).arenaTeamRating ∧
          ((u.queues q).group e).opponentsTeamRating = ((t.queues q).group a).arenaTeamRating := by
        rcases hboth with ⟨rfl, rfl⟩ | ⟨rfl, rfl⟩
        · rw [hu, setOpponents_group hne.symm, setOpponents_group hne.symm, if_pos rfl, if_neg hne, if_pos rfl]
          exact ⟨rfl, rfl⟩
        · rw [hu, setOpponents_group hne, setOpponents_group hne, if_pos rfl, if_neg hne.symm, if_pos rfl]
          exact ⟨rfl, rfl⟩
      have hwho := h.invitedAs_iff (t := u.startBattleGround id) ((hinv.trans hinv2).alike.queue q).queuedGroups
        fun x => by
          rw [← hqueue]
          exact ⟨(hkept x).invited, (hkept x).team⟩
      refine ⟨a, e, fun x => ?_, fun x => ?_, ?_, ?_⟩
      · rw [(hwho x).1, List.mem_singleton]
      · rw [(hwho x).2, List.mem_singleton]
      · exact hset.1.trans (hkept e).rating.symm
      · exact hset.2.trans (hkept a).rating.symm

/-- **Neither loop is stopped** just if the selections have equally many groups that the counter can count. -/
theorem loops_iff (a e m : Nat) (hm : m = (if a ≤ e then a else e) % 65536) :
    ((∀ i, i < e → i % 65536 < m) ∧ ∀ i, i < a → i % 65536 < m) ↔ a = e ∧ a < 65536 := by
  have hlt : m < 65536 := by omega
  constructor
  · rintro ⟨he, ha⟩
    have hem : e ≤ m := by
      by_contra hgt
      have := he m (by omega)
      omega
    have ham : a ≤ m := by
      by_contra hgt
      have := ha m (by omega)
      omega
    split at hm <;> omega
  · rintro ⟨rfl, ha⟩
    rw [if_pos le_rfl, Nat.mod_eq_of_lt ha] at hm
    subst hm
    exact ⟨fun i hi => by omega, fun i hi => by omega⟩

/-- Where more than invitations have been made the battleground has not been started. -/
theorem Invites.not_filled {t : BattleGroundMgr} {q id : Nat} {more : Bool → Nat} (h : w.Invites t id more)
    {bg : BattleGround} (hbg : w.battleGrounds id = some bg) (hstart : bg.started = false) (isRated : Bool)
    (limits : UInt32 × UInt32) : ¬ t.Filled q id isRated limits := by
  obtain ⟨bg1, hbg1, hmore⟩ := h.bg bg hbg
  rintro ⟨bg2, hbg2, -, -, hs⟩
  rw [hbg1] at hbg2
  cases hbg2
  have hrest := congrArg BattleGround.started hmore.rest
  rw [hs] at hrest
  exact absurd (hrest.trans hstart) (by decide)

/-- **The two-sided match.** -/
theorem Ready.both_filled_iff {q id : Nat} {ally enemy : List GroupRef} (h : w.Ready q id ally enemy)
    {limits : UInt32 × UInt32} (hfit : w.presentOf q ally ≤ limits.2.toNat)
    (hfit' : w.presentOf q enemy ≤ limits.2.toNat) {isRated : Bool}
    (hrated : isRated = true → ally.length = enemy.length → ally.length = 1) :
    (w.inviteBothSides q id isRated ally enemy).Filled q id isRated limits ↔
      (ally.length = enemy.length ∧ ally.length < 65536) ∧
        limits.1.toNat ≤ w.presentOf q ally ∧ limits.1.toNat ≤ w.presentOf q enemy := by
  obtain ⟨bg, hbg, -, hstart⟩ := h.bg
  obtain ⟨m, hm⟩ : ∃ m, m = UInt16.ofNat (if ally.length ≤ enemy.length then ally.length else enemy.length) :=
    ⟨_, rfl⟩
  have hm' : m.toNat = (if ally.length ≤ enemy.length then ally.length else enemy.length) % 65536 := by
    rw [hm]
    exact UInt16.toNat_ofNat'
  have hloops := loops_iff ally.length enemy.length m.toNat hm'
  obtain ⟨more1, hinv1⟩ := inviteUpTo_invites q horde h.id_pos hbg m enemy 0
  obtain ⟨hend1, hall1⟩ := inviteUpTo_iff (w := w) q id horde m enemy 0
  obtain ⟨bg1, hbg1, -⟩ := hinv1.bg bg hbg
  unfold inviteBothSides
  rw [← hm]
  dsimp only
  cases hloop1 : inviteUpTo q id horde m enemy 0 w with
  | mk ok1 w1 =>
    rw [hloop1] at hinv1 hend1 hall1 hbg1
    dsimp only at hinv1 hend1 hall1 hbg1
    simp only [UInt16.toNat_zero, Nat.zero_add] at hend1
    cases ok1 with
    | false =>
      refine ⟨fun hf => absurd hf (hinv1.not_filled hbg hstart isRated limits), fun hc => ?_⟩
      exact absurd (hend1.2 (hloops.2 hc.1).1) (by decide)
    | true =>
      obtain ⟨more2, hinv2⟩ := inviteUpTo_invites q alliance h.id_pos hbg1 m ally 0
      obtain ⟨hend2, hall2⟩ := inviteUpTo_iff (w := w1) q id alliance m ally 0
      dsimp only
      cases hloop2 : inviteUpTo q id alliance m ally 0 w1 with
      | mk ok2 w2 =>
        rw [hloop2] at hinv2 hend2 hall2
        dsimp only at hinv2 hend2 hall2
        simp only [UInt16.toNat_zero, Nat.zero_add] at hend2
        cases ok2 with
        | false =>
          refine ⟨fun hf => absurd hf ((hinv1.trans hinv2).not_filled hbg hstart isRated limits), fun hc => ?_⟩
          exact absurd (hend2.2 (hloops.2 hc.1).2) (by decide)
        | true =>
          have hlen := hloops.1 ⟨hend1.1 rfl, hend2.1 rfl⟩
          have hw2 : w2 = (w.inviteAll q id horde enemy).inviteAll q id alliance ally := by
            rw [hall2 rfl, hall1 rfl]
          rw [h.filled_iff hfit hfit' (fun hr => ⟨hrated hr hlen.1, hlen.1 ▸ hrated hr hlen.1⟩) (.inl ⟨rfl, rfl⟩) hw2]
          exact ⟨fun hc => ⟨hlen, hc⟩, fun hc => hc.2⟩

/-! ### Nothing else is made -/

theorem inviteAll_other {id : Nat} (hid : id ≠ 0) {bg : BattleGround} (hbg : w.battleGrounds id = some bg)
    (q side : Nat) (groups : List GroupRef) : ∃ more, w.Invites (w.inviteAll q id side groups) id more := by
  unfold inviteAll
  induction groups generalizing w bg with
  | nil => exact ⟨_, .refl w id⟩
  | cons g groups ih =>
    obtain ⟨more, h1⟩ := inviteGroupToBG_invites hid hbg q g side
    obtain ⟨bg1, hbg1, -⟩ := h1.bg bg hbg
    obtain ⟨more', h2⟩ := ih hbg1
    exact ⟨_, h1.trans h2⟩

theorem startBattleGround_other {id i : Nat} (hi : i ≠ id) :
    (w.startBattleGround id).battleGrounds i = w.battleGrounds i := Function.update_of_ne hi ..

theorem inviteBothSides_other {id i : Nat} (hid : id ≠ 0) (hi : i ≠ id) {bg : BattleGround}
    (hbg : w.battleGrounds id = some bg) (q : Nat) (isRated : Bool) (ally enemy : List GroupRef) :
    (w.inviteBothSides q id isRated ally enemy).battleGrounds i = w.battleGrounds i := by
  unfold inviteBothSides
  dsimp only
  generalize UInt16.ofNat (if ally.length ≤ enemy.length then ally.length else enemy.length) = m
  obtain ⟨more1, h1⟩ := inviteUpTo_invites q horde hid hbg m enemy 0
  obtain ⟨bg1, hbg1, -⟩ := h1.bg bg hbg
  split
  · next w1 heq =>
    rw [heq] at h1
    exact h1.other i hi
  · next w1 heq =>
    rw [heq] at h1 hbg1
    obtain ⟨more2, h2⟩ := inviteUpTo_invites q alliance hid hbg1 m ally 0
    split
    · next w2 heq2 =>
      rw [heq2] at h2
      exact (h1.trans h2).other i hi
    · next w2 heq2 =>
      rw [heq2] at h2
      rw [startBattleGround_other hi]
      split
      · exact ((h1.trans h2).trans (setOpponents_invites ..)).other i hi
      · exact (h1.trans h2).other i hi

theorem inviteOneSide_other {id i : Nat} (hid : id ≠ 0) (hi : i ≠ id) {bg : BattleGround}
    (hbg : w.battleGrounds id = some bg) (q : Nat) (isRated : Bool) (one two : List GroupRef) :
    (w.inviteOneSide q id isRated one two).battleGrounds i = w.battleGrounds i := by
  unfold inviteOneSide
  dsimp only
  obtain ⟨more1, h1⟩ := inviteAll_other hid hbg q horde one
  obtain ⟨bg1, hbg1, -⟩ := h1.bg bg hbg
  obtain ⟨more2, h2⟩ := inviteAll_other hid hbg1 q alliance two
  rw [startBattleGround_other hi]
  split
  · exact ((h1.trans h2).trans (setOpponents_invites ..)).other i hi
  · exact (h1.trans h2).other i hi

theorem Creates.ready {w1 : BattleGroundMgr} {q id bracket side side' : Nat} {ally enemy : List GroupRef}
    (h : w.Creates w1 id) (hn : w.Numbered q) (hally : w.Chosen q bracket side ally)
    (henemy : w.Chosen q bracket side' enemy) (hapart : ∀ g ∈ enemy, g ∉ ally) : w1.Ready q id ally enemy := by
  refine ⟨by rw [h.id_eq]; omega, h.bg, hally.nodup, henemy.nodup, hapart, fun g hg => ?_, fun g hg => ⟨bracket, ?_⟩,
    fun b g hg => ?_⟩
  · rw [h.queues]
    rcases hg with hg | hg
    · exact hally.waits g hg
    · exact henemy.waits g hg
  · rw [h.queues]
    rcases hg with hg | hg
    · exact hally.queued g hg
    · exact henemy.queued g hg
  · rw [h.queues] at hg ⊢
    have := hn.invited b g hg
    rw [h.id_eq]
    omega

theorem chosen_nil (w : BattleGroundMgr) (q bracket side : Nat) : w.Chosen q bracket side [] :=
  ⟨List.nodup_nil, nofun, nofun, nofun⟩

theorem buildSelectionPool_outcome {q : Nat} {call : UpdateCall} (minPlayers maxPlayers : UInt32)
    (side excludeTeam : Nat) (hnodup : ((w.queues q).queuedGroups call.queueId).Nodup) {ok : Bool}
    {pool : SelectionPool} (h : w.buildSelectionPool q call minPlayers maxPlayers side excludeTeam = (ok, pool)) :
    w.Chosen q call.queueId side pool.selectedGroups ∧ w.presentOf q pool.selectedGroups ≤ maxPlayers.toNat ∧
      (ok = true → pool.selectedGroups ≠ [] ∧ (call.isRated = true → pool.selectedGroups.length = 1)) ∧
      (ok = false → pool.selectedGroups = []) := by
  cases ok with
  | true =>
    obtain ⟨h1, h2, h3, h4⟩ := buildSelectionPool_chosen minPlayers maxPlayers side excludeTeam hnodup (by rw [h])
    rw [h] at h1 h2 h3 h4
    exact ⟨h1, h2, fun _ => ⟨h3, h4⟩, nofun⟩
  | false =>
    unfold buildSelectionPool at h
    dsimp only at h
    have hnil := (SelectionPool.build_selects _ _ _ _).2.2 (congrArg Prod.fst h)
    rw [h] at hnil
    dsimp only at hnil
    rw [hnil]
    exact ⟨chosen_nil .., Nat.zero_le _, nofun, fun _ => rfl⟩

/-! ### The second part of `Update` -/

theorem Creates.eq_of_new {w1 t : BattleGroundMgr} {id i : Nat} (h : w.Creates w1 id)
    (hother : i ≠ id → t.battleGrounds i = w1.battleGrounds i) (hnone : w.battleGrounds i = none) {bg : BattleGround}
    (hsome : t.battleGrounds i = some bg) : i = id := by
  by_contra hne
  rw [hother hne, h.other i hne, hnone] at hsome
  cases hsome

/-- **A match made is filled** just if the selections will do. -/
theorem makeNew_filled_iff {q : Nat} {call : UpdateCall} {id : Nat} (hn : w.Numbered q)
    (hnone : w.battleGrounds id = none) {bg : BattleGround} (hsome : (w.makeNew q call).battleGrounds id = some bg)
    {template : BattleGround} (ht : w.template call.bgTypeId = some template) :
    (w.makeNew q call).Filled q id call.isRated (w.teamLimits template call.arenaType) ↔
      w.Fillable q call template := by
  have hnot : w.battleGrounds id ≠ some bg := by rw [hnone]; exact nofun
  have hnodup := hn.nodup call.queueId
  unfold Fillable
  unfold makeNew at hsome ⊢
  rw [ht] at hsome ⊢
  dsimp only at hsome ⊢
  generalize w.teamLimits template call.arenaType = limits at hsome ⊢
  cases hA : w.buildSelectionPool q call limits.1 limits.2 alliance 0 with
  | mk okA poolA =>
  cases hH : w.buildSelectionPool q call limits.1 limits.2 horde 0 with
  | mk okH poolH =>
  obtain ⟨hcA, hfA, hA1, hA0⟩ := buildSelectionPool_outcome _ _ _ _ hnodup hA
  obtain ⟨hcH, hfH, hH1, hH0⟩ := buildSelectionPool_outcome _ _ _ _ hnodup hH
  rw [hA, hH] at hsome
  dsimp only at hsome ⊢
  by_cases hc : (okA = true ∧ okH = true) ∨ (w.testing = true ∧ (okA = true ∨ okH = true))
  · -- a selection for each team
    rw [if_pos hc] at hsome ⊢
    rw [if_pos hc]
    cases hnew : w.newBattleGround call template.isArena with
    | none => rw [hnew] at hsome; exact absurd hsome hnot
    | some new =>
      obtain ⟨id', w1⟩ := new
      rw [hnew] at hsome
      dsimp only at hsome ⊢
      have hcr := newBattleGround_creates hnew
      obtain ⟨bg1, hbg1, -⟩ := hcr.bg
      have hid' : id' ≠ 0 := by rw [hcr.id_eq]; omega
      obtain rfl := hcr.eq_of_new (fun hne => inviteBothSides_other hid' hne hbg1 ..) hnone hsome
      have hapart : ∀ g ∈ poolH.selectedGroups, g ∉ poolA.selectedGroups := fun g hg hg' =>
        absurd ((hcA.team g hg').symm.trans (hcH.team g hg)) (by decide)
      have hready := hcr.ready hn hcA hcH hapart
      rw [← hcr.alike.presentOf] at hfA hfH
      rw [hready.both_filled_iff hfA hfH, hcr.alike.presentOf, hcr.alike.presentOf]
      -- one that has failed is empty, and the other is not
      intro hr hlen
      cases okA with
      | true => exact (hA1 rfl).2 hr
      | false =>
        have hokH : okH = true := by
          rcases hc with ⟨h, -⟩ | ⟨-, h | h⟩
          · cases h
          · cases h
          · exact h
        rw [hA0 rfl] at hlen
        exact absurd (List.length_eq_zero_iff.1 hlen.symm) (hH1 hokH).1
  · rw [if_neg hc] at hsome ⊢
    rw [if_neg hc]
    split at hsome
    case isFalse => exact absurd hsome hnot
    next harena =>
    rw [if_pos harena]
    obtain ⟨hback, hboth⟩ := selectSameSide_chosen limits.2 hnodup
    cases hsel : w.selectSameSide q call limits.2 with
    | mk both w2 =>
      rw [hsel] at hsome hback hboth
      dsimp only at hback hboth
      subst hback
      cases both with
      | none => exact absurd hsome hnot
      | some pair =>
        obtain ⟨one, two⟩ := pair
        dsimp only at hsome ⊢
        obtain ⟨side, hch⟩ := hboth one two rfl
        cases hnew : w2.newArena call with
        | none => rw [hnew] at hsome; exact absurd hsome hnot
        | some new =>
          obtain ⟨id', w1⟩ := new
          rw [hnew] at hsome
          dsimp only at hsome ⊢
          have hcr := newArena_creates hnew
          obtain ⟨bg1, hbg1, -⟩ := hcr.bg
          have hid' : id' ≠ 0 := by rw [hcr.id_eq]; omega
          obtain rfl := hcr.eq_of_new (fun hne => inviteOneSide_other hid' hne hbg1 ..) hnone hsome
          have hready := hcr.ready hn hch.chosenTwo hch.chosenOne hch.apart
          have hf1 := hch.fitOne
          have hf2 := hch.fitTwo
          rw [← hcr.alike.presentOf] at hf1 hf2
          unfold inviteOneSide
          dsimp only
          rw [hready.filled_iff hf2 hf1 (fun hr => ⟨(hch.rated hr).2, (hch.rated hr).1⟩) (.inr ⟨rfl, rfl⟩) rfl,
            hcr.alike.presentOf, hcr.alike.presentOf]
          constructor
          · rintro ⟨h2, h1⟩ one' two' heq
            simp only [Option.some.injEq, Prod.mk.injEq] at heq
            obtain ⟨rfl, rfl⟩ := heq
            exact ⟨h1, h2⟩
          · intro h
            exact ⟨(h one two rfl).2, (h one two rfl).1⟩

/-! ### The first part of `Update` -/

/-- What the offers of free slots leave: no battleground is made, and the ids are as they were. -/
structure Offers (w t : BattleGroundMgr) (q : Nat) : Prop where
  alike : w.Alike t
  maxInstanceId : t.maxInstanceId = w.maxInstanceId
  exist : ∀ i, (t.battleGrounds i).isSome = (w.battleGrounds i).isSome
  numbered : t.Numbered q

theorem Offers.trans {t u : BattleGroundMgr} {q : Nat} (h : w.Offers t q) (k : t.Offers u q) : w.Offers u q :=
  ⟨h.alike.trans k.alike, k.maxInstanceId.trans h.maxInstanceId, fun i => (k.exist i).trans (h.exist i), k.numbered⟩

theorem inviteGroupToBG_isInvited (q : Nat) (g : GroupRef) (id side : Nat) (x : GroupRef) :
    (((w.inviteGroupToBG q g id side).queues q).group x).isInvitedToBGInstanceGUID =
        ((w.queues q).group x).isInvitedToBGInstanceGUID ∨
      (((w.inviteGroupToBG q g id side).queues q).group x).isInvitedToBGInstanceGUID = id := by
  have hside : (((w.setSide q g side).queues q).group x).isInvitedToBGInstanceGUID =
      ((w.queues q).group x).isInvitedToBGInstanceGUID := by
    unfold setSide
    split
    · unfold modifyGroup modifyQueue BattleGroundQueue.modifyGroup
      dsimp only
      rw [Function.update_self]
      by_cases hx : x = g
      · subst hx
        dsimp only
        rw [Function.update_self]
        rfl
      · dsimp only
        rw [Function.update_of_ne hx]
    · rfl
  unfold inviteGroupToBG
  dsimp only
  split
  · rw [invitePlayers_queues]
    unfold modifyGroup modifyQueue BattleGroundQueue.modifyGroup
    dsimp only
    rw [Function.update_self]
    by_cases hx : x = g
    · subst hx
      dsimp only
      rw [Function.update_self]
      exact .inr rfl
    · dsimp only
      rw [Function.update_of_ne hx]
      exact .inl hside
  · exact .inl hside

theorem offerSlots_offers {q : Nat} (hn : w.Numbered q) (bgTypeId bgId : Nat) (g : GroupRef) :
    w.Offers (w.offerSlots q bgTypeId bgId g) q := by
  unfold offerSlots
  dsimp only
  split
  · exact ⟨.refl w, rfl, fun _ => rfl, hn⟩
  next bg hbg =>
  split
  · obtain ⟨hpos, hle⟩ := hn.instances bgId bg hbg
    obtain ⟨more, hinv⟩ := inviteGroupToBG_invites (by omega) hbg q g ((w.queues q).group g).team
    obtain ⟨bg1, hbg1, -⟩ := hinv.bg bg hbg
    have hexist : ∀ i, ((w.inviteGroupToBG q g bgId ((w.queues q).group g).team).battleGrounds i).isSome =
        (w.battleGrounds i).isSome := by
      intro i
      by_cases hi : i = bgId
      · rw [hi, hbg1, hbg, Option.isSome_some, Option.isSome_some]
      · rw [hinv.other i hi]
    refine ⟨hinv.alike, hinv.maxInstanceId, hexist, ⟨fun b => ?_, fun b x hx => ?_, fun i bg' hi => ?_⟩⟩
    · rw [(hinv.alike.queue q).queuedGroups]
      exact hn.nodup b
    · rw [(hinv.alike.queue q).queuedGroups] at hx
      rw [hinv.maxInstanceId]
      rcases inviteGroupToBG_isInvited (w := w) q g bgId ((w.queues q).group g).team x with h | h
      · rw [h]
        exact hn.invited b x hx
      · rw [h]
        exact hle
    · rw [hinv.maxInstanceId]
      have hsome := hexist i
      rw [hi, Option.isSome_some] at hsome
      obtain ⟨bg0, hbg0⟩ := Option.isSome_iff_exists.1 hsome.symm
      exact hn.instances i bg0 hbg0
  · exact ⟨.refl w, rfl, fun _ => rfl, hn⟩

theorem removeFromBGFreeSlotQueue_offers {q : Nat} (hn : w.Numbered q) (bgTypeId bgId : Nat) :
    w.Offers (w.removeFromBGFreeSlotQueue bgTypeId bgId) q := by
  have hexist : ∀ i, ((w.removeFromBGFreeSlotQueue bgTypeId bgId).battleGrounds i).isSome =
      (w.battleGrounds i).isSome := by
    intro i
    unfold removeFromBGFreeSlotQueue modifyBattleGround
    dsimp only
    by_cases hi : i = bgId
    · subst hi
      rw [Function.update_self, Option.isSome_map]
    · rw [Function.update_of_ne hi]
  refine ⟨⟨fun _ => .refl _, fun _ => .refl _, rfl, rfl, rfl, rfl, rfl, rfl, rfl⟩, rfl, hexist,
    ⟨hn.nodup, hn.invited, fun i bg hi => ?_⟩⟩
  have hsome := hexist i
  rw [hi, Option.isSome_some] at hsome
  obtain ⟨bg0, hbg0⟩ := Option.isSome_iff_exists.1 hsome.symm
  exact hn.instances i bg0 hbg0

theorem inviteToOne_offers {q : Nat} (hn : w.Numbered q) (bgTypeId queueId bgId : Nat) :
    w.Offers (w.inviteToOne q bgTypeId queueId bgId) q := by
  have hrefl : w.Offers w q := ⟨.refl w, rfl, fun _ => rfl, hn⟩
  have hloop : ∀ (groups : List GroupRef) (v : BattleGroundMgr), w.Offers v q →
      w.Offers (groups.foldl (fun w g => w.offerSlots q bgTypeId bgId g) v) q := by
    intro groups
    induction groups with
    | nil => exact fun v hv => hv
    | cons g groups ih => exact fun v hv => ih _ (hv.trans (offerSlots_offers hv.numbered bgTypeId bgId g))
  unfold inviteToOne
  split
  · exact hrefl
  split
  · have h1 := hloop ((w.queues q).queuedGroups queueId) w hrefl
    dsimp only
    split
    · split
      · exact h1
      · exact h1.trans (removeFromBGFreeSlotQueue_offers h1.numbered ..)
    · exact h1
  · exact hrefl

theorem inviteToRunning_offers {q : Nat} (hn : w.Numbered q) (bgTypeId queueId : Nat) :
    w.Offers (w.inviteToRunning q bgTypeId queueId) q := by
  have hloop : ∀ (bgs : List Nat) (v : BattleGroundMgr), w.Offers v q →
      w.Offers (bgs.foldl (fun w bgId => w.inviteToOne q bgTypeId queueId bgId) v) q := by
    intro bgs
    induction bgs with
    | nil => exact fun v hv => hv
    | cons bgId bgs ih => exact fun v hv => ih _ (hv.trans (inviteToOne_offers hv.numbered bgTypeId queueId bgId))
  exact hloop _ w ⟨.refl w, rfl, fun _ => rfl, hn⟩

/-! ## Top theorems -/

/-- **A new battleground is filled, exactly when the selections will do**, for every queue and every call of
`Update` that makes one. -/
theorem fills_iff (w : BattleGroundMgr) (q : Nat) (call : UpdateCall) (hn : w.Numbered q) (id : Nat)
    (hnone : w.battleGrounds id = none) (hsome : ((w.update q call).battleGrounds id).isSome = true)
    (template : BattleGround) (ht : w.template call.bgTypeId = some template) :
    (w.update q call).Filled q id call.isRated (w.teamLimits template call.arenaType) ↔
      (w.inviteToRunning q call.bgTypeId call.queueId).Fillable q call template := by
  have hoff := inviteToRunning_offers hn call.bgTypeId call.queueId
  unfold update at hsome ⊢
  have hnone' : (w.inviteToRunning q call.bgTypeId call.queueId).battleGrounds id = none := by
    have := hoff.exist id
    rw [hnone, Option.isSome_none] at this
    exact Option.isSome_eq_false_iff.1 this |> Option.isNone_iff_eq_none.1
  split at hsome
  · rw [hnone] at hsome; cases hsome
  next hq =>
  split at hsome
  · rw [hnone] at hsome; cases hsome
  next hempty =>
  rw [if_neg hq, if_neg hempty]
  obtain ⟨bg, hbg⟩ := Option.isSome_iff_exists.1 hsome
  have hlimits : w.teamLimits template call.arenaType =
      (w.inviteToRunning q call.bgTypeId call.queueId).teamLimits template call.arenaType := by
    unfold teamLimits
    rw [hoff.alike.arenaTesting, hoff.alike.testing]
  rw [hlimits]
  exact makeNew_filled_iff hoff.numbered hnone' hbg (by rw [hoff.alike.template]; exact ht)

/-! ### Two players against two -/

/-- A battleground for two to ten players a team. -/
def sampleTemplate : BattleGround where
  typeID := 2
  instanceID := 0
  isArena := false
  status := .waitQueue
  arenaType := 0
  isRated := false
  queueType := 7
  minPlayersPerTeam := 2
  maxPlayersPerTeam := 10
  maxPlayers := 20
  invitedAlliance := 0
  invitedHorde := 0
  players := []
  playersAlliance := 0
  playersHorde := 0
  arenaTeamIdAlliance := 0
  arenaTeamIdHorde := 0
  inBGFreeSlotQueue := true
  setDeleteThis := false
  started := false

/-- The players 1 and 2 are of the Alliance, the others of the Horde; nobody has joined a queue. -/
def sampleMgr : BattleGroundMgr where
  queues := fun _ => ⟨fun _ => default, fun _ => 0, fun _ _ => none, fun _ => [], [], 0, 0⟩
  battleGrounds := fun _ => none
  freeSlotQueue := fun _ => []
  template := fun bgTypeId => if bgTypeId = 2 then some sampleTemplate else none
  maxInstanceId := 0
  maxRatingDifference := 0
  ratingDiscardTimer := 0
  testing := false
  arenaTesting := false
  players := fun guid => ⟨15, if guid ≤ 2 then alliance else horde, true, fun _ => ⟨0, 0⟩, fun _ => 0, false, 0, 0, false⟩
  arenaTeam := fun _ => none
  memberLost := []

/-- A group that joins the queue. -/
def sampleJoin (w : BattleGroundMgr) (leader : Nat) (members : List Nat) : BattleGroundMgr :=
  let added := w.addGroup 2 leader 2 0 false 0 0 0
  members.foldl (fun w guid => w.addPlayer 2 guid added.1) added.2

/-- A group of two on each side. -/
def samplePairs : BattleGroundMgr := (sampleMgr.sampleJoin 1 [1, 2]).sampleJoin 3 [3, 4]

/-- A group of two, and two players alone. -/
def sampleSingles : BattleGroundMgr := ((sampleMgr.sampleJoin 1 [1, 2]).sampleJoin 3 [3]).sampleJoin 4 [4]

def sampleCall : UpdateCall := ⟨2, 0, 0, false, 0, 0, 0⟩

theorem numbered_of_waiting {w : BattleGroundMgr} {q : Nat} {groups : List GroupRef}
    (hlist : ∀ bracket, (w.queues q).queuedGroups bracket = if bracket = 0 then groups else [])
    (hnodup : groups.Nodup) (hwait : ∀ g ∈ groups, ((w.queues q).group g).isInvitedToBGInstanceGUID = 0)
    (hnone : ∀ id, w.battleGrounds id = none) : w.Numbered q := by
  refine ⟨fun bracket => ?_, fun bracket g hg => ?_, fun id bg h => ?_⟩
  · rw [hlist]
    split
    · exact hnodup
    · exact List.nodup_nil
  · rw [hlist] at hg
    split at hg
    · rw [hwait g hg]
      exact Nat.zero_le _
    · cases hg
  · rw [hnone] at h
    cases h

theorem samplePairs_numbered : samplePairs.Numbered 2 := by
  refine numbered_of_waiting (fun bracket => ?_) (by decide : [0, 1].Nodup) (by decide) fun _ => rfl
  by_cases hb : bracket = 0
  · subst hb
    decide
  · rw [if_neg hb]
    exact (Function.update_of_ne hb ..).trans (Function.update_of_ne hb ..)

theorem sampleSingles_numbered : sampleSingles.Numbered 2 := by
  refine numbered_of_waiting (fun bracket => ?_) (by decide : [0, 1, 2].Nodup) (by decide) fun _ => rfl
  by_cases hb : bracket = 0
  · subst hb
    decide
  · rw [if_neg hb]
    exact ((Function.update_of_ne hb ..).trans (Function.update_of_ne hb ..)).trans (Function.update_of_ne hb ..)

theorem fills_iff_pairs : samplePairs.Numbered 2 ∧
    (samplePairs.update 2 sampleCall).Filled 2 1 false (samplePairs.teamLimits sampleTemplate 0) := by
  refine ⟨samplePairs_numbered, (fills_iff samplePairs 2 sampleCall samplePairs_numbered 1 rfl (by decide +kernel)
    sampleTemplate rfl).2 ?_⟩
  unfold Fillable
  dsimp only
  rw [if_pos (by decide +kernel)]
  decide +kernel

/-- **A group of two against two single players**: one of these is invited, and the match does not start. -/
theorem one_against_two_waits : sampleSingles.Numbered 2 ∧ sampleSingles.battleGrounds 1 = none ∧
    ((sampleSingles.update 2 sampleCall).battleGrounds 1).isSome = true ∧
      ¬ (sampleSingles.update 2 sampleCall).Filled 2 1 false (sampleSingles.teamLimits sampleTemplate 0) := by
  refine ⟨sampleSingles_numbered, rfl, by decide +kernel, ?_⟩
  rintro ⟨bg, hbg, -, -, hstart⟩
  have hstarted : ((sampleSingles.update 2 sampleCall).battleGrounds 1).map BattleGround.started = some false := by
    decide +kernel
  rw [hbg, Option.map_some, hstart] at hstarted
  cases hstarted

end BattleGroundMgr

end BlizzLike
