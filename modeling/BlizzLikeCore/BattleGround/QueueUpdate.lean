import BlizzLikeCore.BattleGround.BattleGroundQueue

/-!
# Groups are invited

`BattleGroundQueue::Update` first offers the groups of a bracket the free slots of the battlegrounds that run, and
then tries to make a new one: from a selection for each team, or, in an arena, from two selections of one team.

    inviteToRunning      : the free slots
    createNewBattleGround : a copy of the template
    inviteBothSides, inviteOneSide : the two ways to fill it
-/

namespace BlizzLike

/-! ## Free slots -/

namespace BattleGround

def getFreeSlotsForTeam (bg : BattleGround) (team : Nat) : UInt32 :=
  let left := if bg.getInvitedCount team < bg.maxPlayersPerTeam then
      bg.maxPlayersPerTeam - bg.getInvitedCount team else 0
  let other := if team = alliance then horde else alliance
  match bg.status with
  | .waitJoin => left
  | .inProgress =>
    let diff := if bg.getInvitedCount other = bg.getInvitedCount team then 1
      else if bg.getInvitedCount team < bg.getInvitedCount other then
        bg.getInvitedCount other - bg.getInvitedCount team else 0
    let diff3 := if bg.getPlayersCountByTeam other = bg.getPlayersCountByTeam team then 1
      else if bg.getPlayersCountByTeam team < bg.getPlayersCountByTeam other then
        bg.getPlayersCountByTeam other - bg.getPlayersCountByTeam team
      else if bg.getInvitedCount team ≤ bg.minPlayersPerTeam then
        bg.minPlayersPerTeam - bg.getInvitedCount team + 1 else 0
    let least := if diff < left then diff else left
    if least < diff3 then least else diff3
  | _ => 0

def hasFreeSlots (bg : BattleGround) : Bool := bg.players.length < bg.maxPlayers.toNat

/-- The team size that an arena type stands for. -/
def arenaTeamSize : Nat → Option UInt32
  | 2 => some 2
  | 3 => some 3
  | 5 => some 5
  | _ => none

/-- `SetMaxPlayersPerTeam` and `SetMaxPlayers` of a new arena. -/
def setArenaSize (bg : BattleGround) (arenaTesting : Bool) (arenaType : Nat) : BattleGround :=
  if arenaTesting then { bg with maxPlayersPerTeam := 1, maxPlayers := 2 }
  else
    match arenaTeamSize arenaType with
    | some size => { bg with maxPlayersPerTeam := size, maxPlayers := 2 * size }
    | none => bg

end BattleGround

/-- The arguments of `Update`, and what it asks the clock and the dice. -/
structure UpdateCall where
  bgTypeId : Nat
  queueId : Nat
  arenaType : Nat
  isRated : Bool
  arenaRating : Nat
  now : Nat
  arenaNum : Nat

namespace BattleGroundMgr

variable (w : BattleGroundMgr)

/-- One group and one battleground that runs. -/
def offerSlots (q bgTypeId bgId : Nat) (g : GroupRef) : BattleGroundMgr :=
  let group := (w.queues q).group g
  match w.battleGrounds bgId with
  | none => w
  | some bg =>
    if group.bgTypeId = bgTypeId ∧ group.players.length ≤ (bg.getFreeSlotsForTeam group.team).toNat then
      w.inviteGroupToBG q g bgId group.team
    else w

def removeFromBGFreeSlotQueue (bgTypeId bgId : Nat) : BattleGroundMgr :=
  { w.modifyBattleGround bgId fun bg => { bg with inBGFreeSlotQueue := false } with
    freeSlotQueue := Function.update w.freeSlotQueue bgTypeId ((w.freeSlotQueue bgTypeId).erase bgId) }

/-- One battleground with free slots. -/
def inviteToOne (q bgTypeId queueId bgId : Nat) : BattleGroundMgr :=
  match w.battleGrounds bgId with
  | none => w
  | some bg =>
    if ¬ bg.isArena ∧ bg.typeID = bgTypeId ∧ bg.queueType = queueId ∧
        BattleGroundStatus.waitQueue.toNat < bg.status.toNat ∧ bg.status.toNat < BattleGroundStatus.waitLeave.toNat then
      let w1 := ((w.queues q).queuedGroups queueId).foldl (fun w g => w.offerSlots q bgTypeId bgId g) w
      match w1.battleGrounds bgId with
      | some bg => if bg.hasFreeSlots then w1 else w1.removeFromBGFreeSlotQueue bg.typeID bgId
      | none => w1
    else w

/-- The first part of `Update`. -/
def inviteToRunning (q bgTypeId queueId : Nat) : BattleGroundMgr :=
  (w.freeSlotQueue bgTypeId).foldl (fun w bgId => w.inviteToOne q bgTypeId queueId bgId) w

/-! ## A new battleground -/

/-- `CreateNewBattleGround`, with the id. -/
def createNewBattleGround (bgTypeId arenaType : Nat) (isRated : Bool) : Option (Nat × BattleGroundMgr) :=
  match w.template bgTypeId with
  | none => none
  | some template =>
    if 1 ≤ bgTypeId ∧ bgTypeId ≤ 8 then
      let id := w.maxInstanceId + 1
      some (id, { w with
        maxInstanceId := id
        battleGrounds := Function.update w.battleGrounds id (some { template with
          instanceID := id
          queueType := maxBattleGroundQueues
          status := .waitJoin
          invitedAlliance := 0
          invitedHorde := 0
          players := []
          inBGFreeSlotQueue := true
          started := false
          arenaType := arenaType
          isRated := isRated
          typeID := bgTypeId })
        freeSlotQueue := Function.update w.freeSlotQueue template.typeID (id :: w.freeSlotQueue template.typeID) })
    else none

/-- The arenas, from one of them on. -/
def createNewArena (arenaType : Nat) (isRated : Bool) (arenaNum : Nat) : Option (Nat × BattleGroundMgr) :=
  let arenas := fun n => match n % 3 with
    | 0 => 4
    | 1 => 5
    | _ => 8
  match w.createNewBattleGround (arenas arenaNum) arenaType isRated with
  | some new => some new
  | none =>
    match w.createNewBattleGround (arenas (arenaNum + 1)) arenaType isRated with
    | some new => some new
    | none => w.createNewBattleGround (arenas (arenaNum + 2)) arenaType isRated

/-- The least and the greatest number of players of a team. -/
def teamLimits (template : BattleGround) (arenaType : Nat) : UInt32 × UInt32 :=
  if template.isArena then
    if w.arenaTesting then (1, 1)
    else
      match BattleGround.arenaTeamSize arenaType with
      | some size => (size, size)
      | none => (template.minPlayersPerTeam, template.maxPlayersPerTeam)
  else (if w.testing then 1 else template.minPlayersPerTeam, template.maxPlayersPerTeam)

/-- What `BuildSelectionPool` asks of the groups of a side. -/
def groupFilter (call : UpdateCall) (maxPlayers : UInt32) (side excludeTeam : Nat) : GroupFilter where
  bgTypeId := call.bgTypeId
  side := side
  maxPlayers := maxPlayers.toNat
  arenaType := call.arenaType
  isRated := call.isRated
  minRating := if call.arenaRating ≤ w.maxRatingDifference then 0 else call.arenaRating - w.maxRatingDifference
  maxRating := if call.arenaRating = 0 then 0 else u32 (call.arenaRating + w.maxRatingDifference)
  disregardTime :=
    if w.maxRatingDifference ≠ 0 ∧ w.ratingDiscardTimer ≤ call.now then call.now - w.ratingDiscardTimer else 0
  excludeTeam := excludeTeam

def buildSelectionPool (q : Nat) (call : UpdateCall) (minPlayers maxPlayers : UInt32) (side excludeTeam : Nat) :
    Bool × SelectionPool :=
  let info := fun g => ((w.queues q).group g).toGroupQueueInfo
  SelectionPool.build info minPlayers maxPlayers
    (eligibleGroups info (w.groupFilter call maxPlayers side excludeTeam) ((w.queues q).queuedGroups call.queueId))
    SelectionPool.init

/-- An invitation loop with its `uint16` counter; `false` where it has returned from `Update`. -/
def inviteUpTo (q bgId side : Nat) (maxbginvites : UInt16) : List GroupRef → UInt16 → BattleGroundMgr →
    Bool × BattleGroundMgr
  | [], _, w => (true, w)
  | g :: groups, invitecounter, w =>
    if maxbginvites ≤ invitecounter then (false, w)
    else inviteUpTo q bgId side maxbginvites groups (invitecounter + 1) (w.inviteGroupToBG q g bgId side)

/-- The loops for one side. -/
def inviteAll (q bgId side : Nat) (groups : List GroupRef) : BattleGroundMgr :=
  groups.foldl (fun w g => w.inviteGroupToBG q g bgId side) w

/-- The ratings of the first groups of two selections. -/
def setOpponents (q : Nat) (one two : List GroupRef) : BattleGroundMgr :=
  match one, two with
  | g :: _, h :: _ =>
    let w1 := w.modifyGroup q g (·.setOpponents ((w.queues q).group h).arenaTeamRating)
    w1.modifyGroup q h (·.setOpponents ((w1.queues q).group g).arenaTeamRating)
  | _, _ => w

def startBattleGround (bgId : Nat) : BattleGroundMgr :=
  w.modifyBattleGround bgId fun bg => { bg with started := true }

/-- A new battleground with a selection for each team. -/
def inviteBothSides (q bgId : Nat) (isRated : Bool) (ally enemy : List GroupRef) : BattleGroundMgr :=
  let maxbginvites := UInt16.ofNat (if ally.length ≤ enemy.length then ally.length else enemy.length)
  match inviteUpTo q bgId horde maxbginvites enemy 0 w with
  | (false, w1) => w1
  | (true, w1) =>
    match inviteUpTo q bgId alliance maxbginvites ally 0 w1 with
    | (false, w2) => w2
    | (true, w2) => (if isRated then w2.setOpponents q ally enemy else w2).startBattleGround bgId

/-- A new arena with two selections of one team: the first gets the green side. -/
def inviteOneSide (q bgId : Nat) (isRated : Bool) (one two : List GroupRef) : BattleGroundMgr :=
  let w2 := (w.inviteAll q bgId horde one).inviteAll q bgId alliance two
  (if isRated then w2.setOpponents q one two else w2).startBattleGround bgId

/-- `Team` of all groups of a selection. -/
def setTeams (q side : Nat) (groups : List GroupRef) : BattleGroundMgr :=
  groups.foldl (fun w g => w.modifyGroup q g (·.setTeam side)) w

/-- The arena team of the first group. -/
def firstArenaTeam (q : Nat) : List GroupRef → Nat
  | g :: _ => ((w.queues q).group g).arenaTeamId
  | [] => 0

/-- Two selections from the groups of one team, which are made its opponents while the second is made; and the
manager as it is then. -/
def selectOneSide (q : Nat) (call : UpdateCall) (maxPlayers : UInt32) (side other : Nat) :
    Option (List GroupRef × List GroupRef) × BattleGroundMgr :=
  match w.buildSelectionPool q call maxPlayers maxPlayers side 0 with
  | (false, _) => (none, w)
  | (true, one) =>
    let w1 := w.setTeams q other one.selectedGroups
    let second := w1.buildSelectionPool q call maxPlayers maxPlayers side (w1.firstArenaTeam q one.selectedGroups)
    (if second.1 then some (one.selectedGroups, second.2.selectedGroups) else none,
      w1.setTeams q side one.selectedGroups)

/-- Two selections from the Horde or else from the Alliance. -/
def selectSameSide (q : Nat) (call : UpdateCall) (maxPlayers : UInt32) :
    Option (List GroupRef × List GroupRef) × BattleGroundMgr :=
  match w.selectOneSide q call maxPlayers horde alliance with
  | (some both, w1) => (some both, w1)
  | (none, w1) => w1.selectOneSide q call maxPlayers alliance horde

/-- A new arena, with its size and its bracket. -/
def newArena (call : UpdateCall) : Option (Nat × BattleGroundMgr) :=
  (w.createNewArena call.arenaType call.isRated call.arenaNum).map fun (id, w1) =>
    (id, w1.modifyBattleGround id fun bg =>
      { bg.setArenaSize w.arenaTesting call.arenaType with queueType := call.queueId })

/-- A new battleground for two teams, with its bracket. -/
def newBattleGround (call : UpdateCall) (isArena : Bool) : Option (Nat × BattleGroundMgr) :=
  if isArena then w.newArena call
  else (w.createNewBattleGround call.bgTypeId call.arenaType false).map fun (id, w1) =>
    (id, w1.modifyBattleGround id fun bg => { bg with queueType := call.queueId })

/-- The second part of `Update`. -/
def makeNew (q : Nat) (call : UpdateCall) : BattleGroundMgr :=
  match w.template call.bgTypeId with
  | none => w
  | some template =>
    let limits := w.teamLimits template call.arenaType
    let ally := w.buildSelectionPool q call limits.1 limits.2 alliance 0
    let enemy := w.buildSelectionPool q call limits.1 limits.2 horde 0
    if (ally.1 ∧ enemy.1) ∨ (w.testing ∧ (ally.1 ∨ enemy.1)) then
      match w.newBattleGround call template.isArena with
      | none => w
      | some (id, w1) => w1.inviteBothSides q id call.isRated ally.2.selectedGroups enemy.2.selectedGroups
    else if template.isArena then
      match w.selectSameSide q call limits.2 with
      | (none, w1) => w1
      | (some (one, two), w1) =>
        match w1.newArena call with
        | none => w1
        | some (id, w2) => w2.inviteOneSide q id call.isRated one two
    else w

/-- `BattleGroundQueue::Update` of the queue `q`. -/
def update (q : Nat) (call : UpdateCall) : BattleGroundMgr :=
  if maxBattleGroundQueues ≤ call.queueId then w
  else if (w.queues q).queuedGroups call.queueId = [] then w
  else (w.inviteToRunning q call.bgTypeId call.queueId).makeNew q call

end BattleGroundMgr

end BlizzLike
