import BlizzLikeCore.BattleGround.QueueUpdate
import Mathlib.Algebra.BigOperators.Group.List.Basic

/-!
# What invitations leave as it is

Invitations change of a group only its team, its battleground and its opponents' rating, of a player only what his
slots are invited to (`Alike`); and of a battleground they raise the invited count of one team by the members that
are in the world.

    inviteGroupToBG_invited : one group
    inviteAll_invited       : the groups of a selection
    inviteUpTo_iff          : when the loop with the counter gets to its end
-/

namespace BlizzLike

/-! ## Alike -/

/-- Two groups that differ at most in what a match sets. -/
structure QueuedGroup.Alike (a b : QueuedGroup) : Prop where
  players : b.players = a.players
  infos : b.infos = a.infos
  bgTypeId : b.bgTypeId = a.bgTypeId
  arenaType : b.arenaType = a.arenaType
  isRated : b.isRated = a.isRated
  arenaTeamId : b.arenaTeamId = a.arenaTeamId
  arenaTeamRating : b.arenaTeamRating = a.arenaTeamRating

theorem QueuedGroup.Alike.refl (a : QueuedGroup) : a.Alike a := ⟨rfl, rfl, rfl, rfl, rfl, rfl, rfl⟩

theorem QueuedGroup.Alike.trans {a b c : QueuedGroup} (h : a.Alike b) (k : b.Alike c) : a.Alike c :=
  ⟨k.1.trans h.1, k.2.trans h.2, k.3.trans h.3, k.4.trans h.4, k.5.trans h.5, k.6.trans h.6, k.7.trans h.7⟩

/-- Two states of a queue with the same entries. -/
structure BattleGroundQueue.Alike (a b : BattleGroundQueue) : Prop where
  group : ∀ g, (a.group g).Alike (b.group g)
  groupInfo : b.groupInfo = a.groupInfo
  queuedPlayers : b.queuedPlayers = a.queuedPlayers
  queuedGroups : b.queuedGroups = a.queuedGroups
  deleted : b.deleted = a.deleted
  nextGroup : b.nextGroup = a.nextGroup
  nextInfo : b.nextInfo = a.nextInfo

theorem BattleGroundQueue.Alike.refl (a : BattleGroundQueue) : a.Alike a :=
  ⟨fun _ => .refl _, rfl, rfl, rfl, rfl, rfl, rfl⟩

theorem BattleGroundQueue.Alike.trans {a b c : BattleGroundQueue} (h : a.Alike b) (k : b.Alike c) : a.Alike c :=
  ⟨fun g => (h.1 g).trans (k.1 g), k.2.trans h.2, k.3.trans h.3, k.4.trans h.4, k.5.trans h.5, k.6.trans h.6,
    k.7.trans h.7⟩

theorem BattleGroundQueue.modifyGroup_alike (queue : BattleGroundQueue) (g : GroupRef) (f : QueuedGroup → QueuedGroup)
    (hf : (queue.group g).Alike (f (queue.group g))) : queue.Alike (queue.modifyGroup g f) := by
  refine ⟨fun g' => ?_, rfl, rfl, rfl, rfl, rfl, rfl⟩
  by_cases hg : g' = g
  · subst hg
    simpa [modifyGroup] using hf
  · simpa [modifyGroup, Function.update_of_ne hg] using QueuedGroup.Alike.refl _

/-- Two states of a player with the same slots, whatever he is invited to. -/
structure BgPlayer.Alike (a b : BgPlayer) : Prop where
  level : b.level = a.level
  team : b.team = a.team
  inWorld : b.inWorld = a.inWorld
  bgQueueType : ∀ i, (b.queueSlots i).bgQueueType = (a.queueSlots i).bgQueueType
  arenaTeamId : b.arenaTeamId = a.arenaTeamId
  deserter : b.deserter = a.deserter
  bgInstanceID : b.bgInstanceID = a.bgInstanceID
  bgTeam : b.bgTeam = a.bgTeam
  teleportingFar : b.teleportingFar = a.teleportingFar

theorem BgPlayer.Alike.refl (a : BgPlayer) : a.Alike a := ⟨rfl, rfl, rfl, fun _ => rfl, rfl, rfl, rfl, rfl, rfl⟩

theorem BgPlayer.Alike.trans {a b c : BgPlayer} (h : a.Alike b) (k : b.Alike c) : a.Alike c :=
  ⟨k.1.trans h.1, k.2.trans h.2, k.3.trans h.3, fun i => (k.4 i).trans (h.4 i), k.5.trans h.5, k.6.trans h.6,
    k.7.trans h.7, k.8.trans h.8, k.9.trans h.9⟩

theorem BgPlayer.setInvite_alike (p : BgPlayer) (q id : Nat) : p.Alike (p.setInviteForBattleGroundQueueType q id) := by
  refine ⟨rfl, rfl, rfl, fun i => ?_, rfl, rfl, rfl, rfl, rfl⟩
  unfold setInviteForBattleGroundQueueType
  dsimp only
  split <;> rfl

namespace BattleGroundMgr

variable {w : BattleGroundMgr}

/-- Two states with the same queues and players, and the same constants. -/
structure Alike (a b : BattleGroundMgr) : Prop where
  queue : ∀ q, (a.queues q).Alike (b.queues q)
  player : ∀ p, (a.players p).Alike (b.players p)
  template : b.template = a.template
  maxRatingDifference : b.maxRatingDifference = a.maxRatingDifference
  ratingDiscardTimer : b.ratingDiscardTimer = a.ratingDiscardTimer
  testing : b.testing = a.testing
  arenaTesting : b.arenaTesting = a.arenaTesting
  arenaTeam : b.arenaTeam = a.arenaTeam
  memberLost : b.memberLost = a.memberLost

theorem Alike.refl (a : BattleGroundMgr) : a.Alike a :=
  ⟨fun _ => .refl _, fun _ => .refl _, rfl, rfl, rfl, rfl, rfl, rfl, rfl⟩

theorem Alike.trans {a b c : BattleGroundMgr} (h : a.Alike b) (k : b.Alike c) : a.Alike c :=
  ⟨fun q => (h.1 q).trans (k.1 q), fun p => (h.2 p).trans (k.2 p), k.3.trans h.3, k.4.trans h.4, k.5.trans h.5,
    k.6.trans h.6, k.7.trans h.7, k.8.trans h.8, k.9.trans h.9⟩

theorem modifyGroup_alike (q : Nat) (g : GroupRef) (f : QueuedGroup → QueuedGroup)
    (hf : ∀ group : QueuedGroup, group.Alike (f group)) : w.Alike (w.modifyGroup q g f) := by
  refine ⟨fun q' => ?_, fun _ => .refl _, rfl, rfl, rfl, rfl, rfl, rfl, rfl⟩
  by_cases hq : q' = q
  · subst hq
    simpa [modifyGroup, modifyQueue] using (w.queues q').modifyGroup_alike g f (hf _)
  · simpa [modifyGroup, modifyQueue, Function.update_of_ne hq] using BattleGroundQueue.Alike.refl _

theorem modifyBattleGround_alike (id : Nat) (f : BattleGround → BattleGround) : w.Alike (w.modifyBattleGround id f) :=
  ⟨fun _ => .refl _, fun _ => .refl _, rfl, rfl, rfl, rfl, rfl, rfl, rfl⟩

theorem modifyPlayer_alike (guid : Nat) (f : BgPlayer → BgPlayer) (hf : ∀ p : BgPlayer, p.Alike (f p)) :
    w.Alike (w.modifyPlayer guid f) := by
  refine ⟨fun _ => .refl _, fun p => ?_, rfl, rfl, rfl, rfl, rfl, rfl, rfl⟩
  by_cases hp : p = guid
  · subst hp
    simpa [modifyPlayer] using hf _
  · simpa [modifyPlayer, Function.update_of_ne hp] using BgPlayer.Alike.refl _

theorem invitePlayer_alike (guid id team : Nat) : w.Alike (w.invitePlayer guid id team) := by
  unfold invitePlayer
  split
  · exact .refl _
  next bg hbg =>
  have h1 : w.Alike ((w.modifyBattleGround id (·.increaseInvitedCount team)).modifyPlayer guid
      (·.setInviteForBattleGroundQueueType (bgQueueTypeId bg.typeID bg.arenaType) id)) :=
    (w.modifyBattleGround_alike id _).trans (modifyPlayer_alike guid _ fun p => p.setInvite_alike _ _)
  dsimp only
  split
  · split
    · exact h1.trans (modifyBattleGround_alike ..)
    · exact h1
  · exact h1

theorem invitePlayers_alike (id team : Nat) (guids : List Nat) : w.Alike (w.invitePlayers id team guids) := by
  unfold invitePlayers
  induction guids generalizing w with
  | nil => exact .refl _
  | cons guid guids ih =>
    rw [List.foldl_cons]
    split
    · exact (invitePlayer_alike ..).trans ih
    · exact ih

theorem setSide_alike (q : Nat) (g : GroupRef) (side : Nat) : w.Alike (w.setSide q g side) := by
  unfold setSide
  split
  · exact modifyGroup_alike q g _ fun _ => ⟨rfl, rfl, rfl, rfl, rfl, rfl, rfl⟩
  · exact .refl _

theorem inviteGroupToBG_alike (q : Nat) (g : GroupRef) (id side : Nat) : w.Alike (w.inviteGroupToBG q g id side) := by
  unfold inviteGroupToBG
  dsimp only
  split
  · exact ((setSide_alike q g side).trans
      (modifyGroup_alike q g (·.setInvited id) fun _ => ⟨rfl, rfl, rfl, rfl, rfl, rfl, rfl⟩)).trans
      (invitePlayers_alike ..)
  · exact setSide_alike q g side

end BattleGroundMgr

/-! ## Counts -/

/-- The entries of a queue with a selection on another side. -/
def BattleGroundQueue.teamed (queue : BattleGroundQueue) (side : Nat) (groups : List GroupRef) : BattleGroundQueue :=
  { queue with group := fun g => if g ∈ groups then (queue.group g).setTeam side else queue.group g }

/-- The entries of a queue after a selection has been invited. -/
def BattleGroundQueue.invited (queue : BattleGroundQueue) (id side : Nat) (groups : List GroupRef) : BattleGroundQueue :=
  { queue with group := fun g =>
      if g ∈ groups then ((queue.group g).setTeam side).setInvited id else queue.group g }

/-- The second is the first with so many more players invited: `more true` of the Alliance, `more false` of the
Horde. -/
structure BattleGround.InvitedMore (a b : BattleGround) (more : Bool → Nat) : Prop where
  count : ∀ t, b.getInvitedCount t = a.getInvitedCount t + UInt32.ofNat (more (decide (t = alliance)))
  rest : b = { a with
    invitedAlliance := b.invitedAlliance
    invitedHorde := b.invitedHorde
    arenaTeamIdAlliance := b.arenaTeamIdAlliance
    arenaTeamIdHorde := b.arenaTeamIdHorde }

/-- So many players of one team. -/
def ofTeam (team n : Nat) : Bool → Nat := fun b => if b = decide (team = alliance) then n else 0

theorem ofTeam_add (team n m : Nat) (b : Bool) : ofTeam team n b + ofTeam team m b = ofTeam team (n + m) b := by
  unfold ofTeam
  split <;> rfl

theorem ofTeam_zero (team : Nat) (b : Bool) : ofTeam team 0 b = 0 := by
  unfold ofTeam
  split <;> rfl

namespace BattleGround

theorem InvitedMore.refl (a : BattleGround) : a.InvitedMore a fun _ => 0 := ⟨fun _ => by simp, rfl⟩

theorem InvitedMore.trans {a b c : BattleGround} {more more' : Bool → Nat} (h : a.InvitedMore b more)
    (k : b.InvitedMore c more') : a.InvitedMore c fun t => more t + more' t := by
  refine ⟨fun t => ?_, ?_⟩
  · rw [k.count, h.count, UInt32.ofNat_add, UInt32.add_assoc]
  · have h' := h.rest
    have k' := k.rest
    rw [h'] at k'
    exact k'

theorem increaseInvitedCount_more (bg : BattleGround) (team : Nat) :
    bg.InvitedMore (bg.increaseInvitedCount team) (ofTeam team 1) := by
  unfold increaseInvitedCount ofTeam
  by_cases hteam : team = alliance
  · rw [if_pos hteam]
    refine ⟨fun t => ?_, rfl⟩
    by_cases ht : t = alliance <;> simp [getInvitedCount, ht, hteam]
  · rw [if_neg hteam]
    refine ⟨fun t => ?_, rfl⟩
    by_cases ht : t = alliance <;> simp [getInvitedCount, ht, hteam]

theorem setArenaTeamIdForTeam_more (bg : BattleGround) (team id : Nat) :
    bg.InvitedMore (bg.setArenaTeamIdForTeam team id) fun _ => 0 := by
  unfold setArenaTeamIdForTeam
  split
  · exact ⟨fun t => by simp [getInvitedCount], rfl⟩
  · exact ⟨fun t => by simp [getInvitedCount], rfl⟩

end BattleGround

namespace BattleGroundMgr

variable {w : BattleGroundMgr}

/-- What the invitations to one battleground leave: it alone has changed, by so many more players. -/
structure Invites (a b : BattleGroundMgr) (id : Nat) (more : Bool → Nat) : Prop where
  alike : a.Alike b
  maxInstanceId : b.maxInstanceId = a.maxInstanceId
  freeSlotQueue : b.freeSlotQueue = a.freeSlotQueue
  other : ∀ i, i ≠ id → b.battleGrounds i = a.battleGrounds i
  bg : ∀ bg, a.battleGrounds id = some bg → ∃ bg', b.battleGrounds id = some bg' ∧ bg.InvitedMore bg' more

theorem Invites.refl (a : BattleGroundMgr) (id : Nat) : a.Invites a id fun _ => 0 :=
  ⟨.refl a, rfl, rfl, fun _ _ => rfl, fun bg h => ⟨bg, h, .refl bg⟩⟩

theorem Invites.trans {a b c : BattleGroundMgr} {id : Nat} {more more' : Bool → Nat} (h : a.Invites b id more)
    (k : b.Invites c id more') : a.Invites c id fun t => more t + more' t := by
  refine ⟨h.alike.trans k.alike, k.maxInstanceId.trans h.maxInstanceId, k.freeSlotQueue.trans h.freeSlotQueue,
    fun i hi => (k.other i hi).trans (h.other i hi), fun bg hbg => ?_⟩
  obtain ⟨bg1, hbg1, h1⟩ := h.bg bg hbg
  obtain ⟨bg2, hbg2, h2⟩ := k.bg bg1 hbg1
  exact ⟨bg2, hbg2, h1.trans h2⟩

theorem Invites.congr {a b : BattleGroundMgr} {id : Nat} {more more' : Bool → Nat} (h : a.Invites b id more)
    (hmore : ∀ t, more t = more' t) : a.Invites b id more' := by
  obtain rfl : more = more' := funext hmore
  exact h

theorem modifyGroup_invites (q : Nat) (g : GroupRef) (id : Nat) (f : QueuedGroup → QueuedGroup)
    (hf : ∀ group : QueuedGroup, group.Alike (f group)) : w.Invites (w.modifyGroup q g f) id fun _ => 0 :=
  ⟨modifyGroup_alike q g f hf, rfl, rfl, fun _ _ => rfl, fun bg h => ⟨bg, h, .refl bg⟩⟩

theorem modifyBattleGround_invites (id : Nat) (f : BattleGround → BattleGround) (more : Bool → Nat)
    (hf : ∀ bg : BattleGround, bg.InvitedMore (f bg) more) : w.Invites (w.modifyBattleGround id f) id more := by
  refine ⟨modifyBattleGround_alike id f, rfl, rfl, fun i hi => Function.update_of_ne hi .., fun bg hbg => ?_⟩
  refine ⟨f bg, ?_, hf bg⟩
  unfold modifyBattleGround
  dsimp only
  rw [Function.update_self, hbg, Option.map_some]

theorem modifyPlayer_invites (guid id : Nat) (f : BgPlayer → BgPlayer) (hf : ∀ p : BgPlayer, p.Alike (f p)) :
    w.Invites (w.modifyPlayer guid f) id fun _ => 0 :=
  ⟨modifyPlayer_alike guid f hf, rfl, rfl, fun _ _ => rfl, fun bg h => ⟨bg, h, .refl bg⟩⟩

theorem invitePlayer_invites {id : Nat} (hid : id ≠ 0) {bg : BattleGround} (hbg : w.battleGrounds id = some bg)
    (guid team : Nat) : w.Invites (w.invitePlayer guid id team) id (ofTeam team 1) := by
  have hget : w.getBattleGround id = some bg := by rw [getBattleGround, if_neg hid, hbg]
  have h1 : w.Invites ((w.modifyBattleGround id (·.increaseInvitedCount team)).modifyPlayer guid
      (·.setInviteForBattleGroundQueueType (bgQueueTypeId bg.typeID bg.arenaType) id)) id (ofTeam team 1) :=
    ((modifyBattleGround_invites id (·.increaseInvitedCount team) _ fun bg => bg.increaseInvitedCount_more team).trans
      (modifyPlayer_invites guid id _ fun p => p.setInvite_alike ..)).congr fun _ => rfl
  unfold invitePlayer
  rw [hget]
  dsimp only
  split
  · split
    · exact (h1.trans (modifyBattleGround_invites id _ _ fun bg => bg.setArenaTeamIdForTeam_more ..)).congr fun _ => rfl
    · exact h1
  · exact h1

theorem invitePlayer_queues (guid id team : Nat) : (w.invitePlayer guid id team).queues = w.queues := by
  unfold invitePlayer
  split
  · rfl
  · dsimp only
    split
    · split <;> rfl
    · rfl

theorem invitePlayers_invites {id : Nat} (hid : id ≠ 0) {bg : BattleGround} (hbg : w.battleGrounds id = some bg)
    (team : Nat) (guids : List Nat) : w.Invites (w.invitePlayers id team guids) id
      (ofTeam team (guids.countP fun guid => (w.players guid).inWorld)) := by
  unfold invitePlayers
  induction guids generalizing w bg with
  | nil => exact (Invites.refl w id).congr fun t => (ofTeam_zero team t).symm
  | cons guid guids ih =>
    rw [List.foldl_cons, List.countP_cons]
    split
    · next hin =>
      have h1 := invitePlayer_invites hid hbg guid team
      obtain ⟨bg1, hbg1, -⟩ := h1.bg bg hbg
      refine (h1.trans (ih hbg1)).congr fun t => ?_
      have hsame : (fun p => ((w.invitePlayer guid id team).players p).inWorld) =
          fun guid => (w.players guid).inWorld := funext fun p => (h1.alike.player p).inWorld
      rw [hsame, ofTeam_add, Nat.add_comm]
    · next hin => simpa using ih hbg

theorem invitePlayers_queues (id team : Nat) (guids : List Nat) : (w.invitePlayers id team guids).queues = w.queues := by
  unfold invitePlayers
  induction guids generalizing w with
  | nil => rfl
  | cons guid guids ih =>
    rw [List.foldl_cons, ih]
    split
    · exact invitePlayer_queues ..
    · rfl

/-! ## One group -/

variable (w) in
/-- The members of some groups that are in the world. -/
def presentOf (q : Nat) (groups : List GroupRef) : Nat :=
  (groups.map fun g => ((w.queues q).group g).players.countP fun guid => (w.players guid).inWorld).sum

theorem Alike.presentOf {a b : BattleGroundMgr} (h : a.Alike b) (q : Nat) (groups : List GroupRef) :
    b.presentOf q groups = a.presentOf q groups := by
  unfold BattleGroundMgr.presentOf
  congr 1
  refine List.map_congr_left fun g _ => ?_
  rw [((h.queue q).group g).players]
  congr 1
  exact funext fun p => (h.player p).inWorld

theorem setSide_queues {side : Nat} (hside : side ≠ 0) (q : Nat) (g : GroupRef) :
    (w.setSide q g side).queues = Function.update w.queues q ((w.queues q).modifyGroup g (·.setTeam side)) := by
  unfold setSide
  rw [if_pos hside]
  rfl

/-- **A group that waits is invited.** -/
theorem inviteGroupToBG_invited {q : Nat} {g : GroupRef} {id side : Nat} (hid : id ≠ 0) (hside : side ≠ 0)
    {bg : BattleGround} (hbg : w.battleGrounds id = some bg)
    (hwaits : ((w.queues q).group g).isInvitedToBGInstanceGUID = 0) :
    w.Invites (w.inviteGroupToBG q g id side) id (ofTeam side (w.presentOf q [g])) ∧
      (w.inviteGroupToBG q g id side).queues =
        Function.update w.queues q ((w.queues q).modifyGroup g fun group => (group.setTeam side).setInvited id) := by
  have hq := setSide_queues hside q g (w := w)
  have hgroup : ((w.setSide q g side).queues q).group g = ((w.queues q).group g).setTeam side := by
    rw [hq, Function.update_self]
    exact Function.update_self ..
  have h1 : w.Invites (w.setSide q g side) id fun _ => 0 := by
    unfold setSide
    rw [if_pos hside]
    exact modifyGroup_invites q g id _ fun _ => ⟨rfl, rfl, rfl, rfl, rfl, rfl, rfl⟩
  have h2 := h1.trans (modifyGroup_invites q g id (·.setInvited id) fun _ => ⟨rfl, rfl, rfl, rfl, rfl, rfl, rfl⟩)
  obtain ⟨bg2, hbg2, -⟩ := h2.bg bg hbg
  unfold inviteGroupToBG
  dsimp only
  have hwaits' : (((w.queues q).group g).setTeam side).isInvitedToBGInstanceGUID = 0 := hwaits
  rw [hgroup, if_pos hwaits']
  refine ⟨(h2.trans (invitePlayers_invites hid hbg2 ..)).congr fun t => ?_, ?_⟩
  · have hsame : (fun guid => (((w.setSide q g side).modifyGroup q g (·.setInvited id)).players guid).inWorld) =
        fun guid => (w.players guid).inWorld := funext fun p => (h2.alike.player p).inWorld
    rw [hsame, Nat.zero_add]
    simp [presentOf, QueuedGroup.setTeam]
  · rw [invitePlayers_queues]
    unfold modifyGroup modifyQueue
    dsimp only
    rw [hq, Function.update_self, Function.update_idem]
    congr 1
    unfold BattleGroundQueue.modifyGroup
    dsimp only
    rw [Function.update_self, Function.update_idem]

/-! ### The groups of a selection -/

/-- **A selection is invited**: groups that wait, each once. -/
theorem inviteAll_invited {q id side : Nat} (hid : id ≠ 0) (hside : side ≠ 0) {groups : List GroupRef}
    (hnodup : groups.Nodup) {bg : BattleGround} (hbg : w.battleGrounds id = some bg)
    (hwait : ∀ g ∈ groups, ((w.queues q).group g).isInvitedToBGInstanceGUID = 0) :
    w.Invites (w.inviteAll q id side groups) id (ofTeam side (w.presentOf q groups)) ∧
      (w.inviteAll q id side groups).queues =
        Function.update w.queues q ((w.queues q).invited id side groups) := by
  unfold inviteAll
  induction groups generalizing w bg with
  | nil =>
    refine ⟨(Invites.refl w id).congr fun t => (ofTeam_zero side t).symm, ?_⟩
    simp [BattleGroundQueue.invited]
  | cons g groups ih =>
    rw [List.nodup_cons] at hnodup
    rw [List.foldl_cons]
    obtain ⟨h1, hq1⟩ := inviteGroupToBG_invited hid hside hbg (hwait g List.mem_cons_self)
    obtain ⟨bg1, hbg1, -⟩ := h1.bg bg hbg
    have hqueue : (w.inviteGroupToBG q g id side).queues q =
        (w.queues q).modifyGroup g fun group => (group.setTeam side).setInvited id := by
      rw [hq1, Function.update_self]
    have hothers : ∀ g', g' ≠ g →
        ((w.inviteGroupToBG q g id side).queues q).group g' = (w.queues q).group g' := by
      intro g' hne
      rw [hqueue]
      exact Function.update_of_ne hne ..
    obtain ⟨h2, hq2⟩ := ih hnodup.2 hbg1 fun g' hg' => by
      rw [hothers g' fun he => hnodup.1 (he ▸ hg')]
      exact hwait g' (List.mem_cons_of_mem _ hg')
    refine ⟨(h1.trans h2).congr fun t => ?_, ?_⟩
    · rw [h1.alike.presentOf, ofTeam_add]
      simp [presentOf]
    · rw [hq2, hq1, Function.update_self, Function.update_idem]
      congr 1
      unfold BattleGroundQueue.invited BattleGroundQueue.modifyGroup
      dsimp only
      congr 1
      funext g'
      by_cases hg' : g' = g
      · subst hg'
        rw [if_neg hnodup.1, if_pos List.mem_cons_self, Function.update_self]
      · rw [Function.update_of_ne hg']
        simp [List.mem_cons, hg']

/-- **The counter stops the loop** unless it stays below the bound. -/
theorem inviteUpTo_iff (q id side : Nat) (bound : UInt16) (groups : List GroupRef) (n : UInt16) :
    ((inviteUpTo q id side bound groups n w).1 = true ↔
      ∀ i, i < groups.length → (n.toNat + i) % 65536 < bound.toNat) ∧
    ((inviteUpTo q id side bound groups n w).1 = true →
      (inviteUpTo q id side bound groups n w).2 = w.inviteAll q id side groups) := by
  induction groups generalizing n w with
  | nil =>
    unfold inviteUpTo
    exact ⟨⟨fun _ i hi => absurd hi (Nat.not_lt_zero _), fun _ => rfl⟩, fun _ => rfl⟩
  | cons g groups ih =>
    have hn : n.toNat < 65536 := n.toNat_lt
    unfold inviteUpTo
    split
    · next hle =>
      have hle := UInt16.le_iff_toNat_le.1 hle
      refine ⟨⟨fun h => absurd h Bool.false_ne_true, fun h => ?_⟩, fun h => absurd h Bool.false_ne_true⟩
      have h0 := h 0 (Nat.succ_pos _)
      rw [Nat.add_zero, Nat.mod_eq_of_lt hn] at h0
      omega
    · next hlt =>
      have hlt : n.toNat < bound.toNat := by
        have := mt UInt16.le_iff_toNat_le.2 hlt
        omega
      obtain ⟨h1, h2⟩ := ih (w := w.inviteGroupToBG q g id side) (n := n + 1)
      have hsucc : (n + 1).toNat = (n.toNat + 1) % 65536 := by
        rw [UInt16.toNat_add]
        rfl
      refine ⟨h1.trans ⟨fun h i hi => ?_, fun h i hi => ?_⟩, h2⟩
      · cases i with
        | zero =>
          rw [Nat.add_zero, Nat.mod_eq_of_lt hn]
          exact hlt
        | succ i =>
          have hi' := h i (by simpa using hi)
          rw [hsucc] at hi'
          omega
      · have hi' := h (i + 1) (by simpa using hi)
        rw [hsucc]
        omega

/-- Whatever the group, its battleground alone changes, and only by more players. -/
theorem inviteGroupToBG_invites {id : Nat} (hid : id ≠ 0) {bg : BattleGround} (hbg : w.battleGrounds id = some bg)
    (q : Nat) (g : GroupRef) (side : Nat) : ∃ more, w.Invites (w.inviteGroupToBG q g id side) id more := by
  have h1 : w.Invites (w.setSide q g side) id fun _ => 0 := by
    unfold setSide
    split
    · exact modifyGroup_invites q g id _ fun _ => ⟨rfl, rfl, rfl, rfl, rfl, rfl, rfl⟩
    · exact .refl w id
  unfold inviteGroupToBG
  dsimp only
  split
  · have h2 := h1.trans (modifyGroup_invites q g id (·.setInvited id) fun _ => ⟨rfl, rfl, rfl, rfl, rfl, rfl, rfl⟩)
    obtain ⟨bg2, hbg2, -⟩ := h2.bg bg hbg
    exact ⟨_, h2.trans (invitePlayers_invites hid hbg2 ..)⟩
  · exact ⟨_, h1⟩

theorem inviteUpTo_invites {id : Nat} (q side : Nat) (hid : id ≠ 0) {bg : BattleGround} (hbg : w.battleGrounds id = some bg)
    (bound : UInt16) (groups : List GroupRef) (n : UInt16) :
    ∃ more, w.Invites (inviteUpTo q id side bound groups n w).2 id more := by
  induction groups generalizing n w bg with
  | nil => exact ⟨_, .refl w id⟩
  | cons g groups ih =>
    unfold inviteUpTo
    split
    · exact ⟨_, .refl w id⟩
    · obtain ⟨more, h1⟩ := inviteGroupToBG_invites hid hbg q g side
      obtain ⟨bg1, hbg1, -⟩ := h1.bg bg hbg
      obtain ⟨more', h2⟩ := ih hbg1 (n := n + 1)
      exact ⟨_, h1.trans h2⟩

end BattleGroundMgr

end BlizzLike
