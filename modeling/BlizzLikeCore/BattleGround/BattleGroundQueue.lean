import BlizzLikeCore.BattleGround.SelectionPool
import BlizzLikeCore.Item
import Mathlib.Data.List.Sort
import Mathlib.Data.List.FinRange
import Mathlib.Logic.Function.Basic

/-!
# The queues for the battlegrounds

`BattleGroundMgr` has one `BattleGroundQueue` for each kind of battleground and of arena, and each queue has
seven brackets by level: the groups that wait there in order, and for each player who waits the address of his
`PlayerQueueInfo`, which names his group.  The group has the same addresses by player.

    addGroup, addPlayer           : into the queue
    inviteGroupToBG, invitePlayer : into a battleground

What `delete` has freed is kept in `deleted`; the packets, the announcements and the times of the infos, which
nothing reads, are left out.
-/

namespace BlizzLike

/-! ## State -/

/-- The team numbers. -/
def alliance : Nat := 469
def horde : Nat := 67

def maxBattleGroundQueues : Nat := 7

inductive BattleGroundStatus
  | none | waitQueue | waitJoin | inProgress | waitLeave
deriving DecidableEq

def BattleGroundStatus.toNat : BattleGroundStatus → Nat
  | .none => 0
  | .waitQueue => 1
  | .waitJoin => 2
  | .inProgress => 3
  | .waitLeave => 4

/-- `BattleGround` (`players` by guid with their team; `started` once `StartBattleGround` has been called). -/
structure BattleGround where
  typeID : Nat
  instanceID : Nat
  isArena : Bool
  status : BattleGroundStatus
  arenaType : Nat
  isRated : Bool
  queueType : Nat
  minPlayersPerTeam : UInt32
  maxPlayersPerTeam : UInt32
  maxPlayers : UInt32
  invitedAlliance : UInt32
  invitedHorde : UInt32
  players : List (Nat × Nat)
  playersAlliance : UInt32
  playersHorde : UInt32
  arenaTeamIdAlliance : Nat
  arenaTeamIdHorde : Nat
  inBGFreeSlotQueue : Bool
  setDeleteThis : Bool
  started : Bool
deriving DecidableEq

namespace BattleGround

def getInvitedCount (bg : BattleGround) (team : Nat) : UInt32 :=
  if team = alliance then bg.invitedAlliance else bg.invitedHorde

def increaseInvitedCount (bg : BattleGround) (team : Nat) : BattleGround :=
  if team = alliance then { bg with invitedAlliance := bg.invitedAlliance + 1 }
  else { bg with invitedHorde := bg.invitedHorde + 1 }

def getPlayersCountByTeam (bg : BattleGround) (team : Nat) : UInt32 :=
  if team = alliance then bg.playersAlliance else bg.playersHorde

def setArenaTeamIdForTeam (bg : BattleGround) (team arenaTeamId : Nat) : BattleGround :=
  if team = alliance then { bg with arenaTeamIdAlliance := arenaTeamId }
  else { bg with arenaTeamIdHorde := arenaTeamId }

end BattleGround

/-- One of the `PLAYER_MAX_BATTLEGROUND_QUEUES` slots of a player. -/
structure QueueSlot where
  bgQueueType : Nat
  invitedToInstance : Nat
deriving DecidableEq

/-- `Player`, as far as the queues deal with him.  `inWorld` is what `ObjectAccessor::FindPlayer` asks,
`deserter` the debuff. -/
structure BgPlayer where
  level : Nat
  team : Nat
  inWorld : Bool
  queueSlots : Fin 3 → QueueSlot
  arenaTeamId : Nat → Nat
  deserter : Bool
  bgInstanceID : Nat
  bgTeam : Nat
  teleportingFar : Bool

namespace BgPlayer

def getBattleGroundQueueIdFromLevel (p : BgPlayer) : Nat :=
  if p.level ≤ 19 then 0 else if 69 < p.level then 6 else p.level / 10 - 1

def getBattleGroundQueueIndex (p : BgPlayer) (bgQueueType : Nat) : Option (Fin 3) :=
  (List.finRange 3).find? fun i => (p.queueSlots i).bgQueueType == bgQueueType

def setQueueSlot (p : BgPlayer) (i : Fin 3) (slot : QueueSlot) : BgPlayer :=
  { p with queueSlots := Function.update p.queueSlots i slot }

def addBattleGroundQueueId (p : BgPlayer) (val : Nat) : BgPlayer :=
  match (List.finRange 3).find? fun i =>
      (p.queueSlots i).bgQueueType == 0 || (p.queueSlots i).bgQueueType == val with
  | some i => p.setQueueSlot i ⟨val, 0⟩
  | none => p

def hasFreeBattleGroundQueueId (p : BgPlayer) : Bool := (p.getBattleGroundQueueIndex 0).isSome

def setInviteForBattleGroundQueueType (p : BgPlayer) (bgQueueType instanceId : Nat) : BgPlayer :=
  { p with queueSlots := fun i =>
      if (p.queueSlots i).bgQueueType = bgQueueType then { p.queueSlots i with invitedToInstance := instanceId }
      else p.queueSlots i }

end BgPlayer

/-- `GroupQueueInfo` with what its `Players` point to (the address by guid) and the field that a match sets. -/
structure QueuedGroup extends GroupQueueInfo where
  infos : Nat → Nat
  opponentsTeamRating : Nat

namespace QueuedGroup

def setTeam (group : QueuedGroup) (side : Nat) : QueuedGroup := { group with team := side }

def setInvited (group : QueuedGroup) (bgInstanceGUID : Nat) : QueuedGroup :=
  { group with isInvitedToBGInstanceGUID := bgInstanceGUID }

def setOpponents (group : QueuedGroup) (rating : Nat) : QueuedGroup := { group with opponentsTeamRating := rating }

/-- `Players[guid] = &info`. -/
def setInfo (group : QueuedGroup) (guid info : Nat) : QueuedGroup :=
  { group with
    players := if guid ∈ group.players then group.players else group.players.orderedInsert (· ≤ ·) guid
    infos := Function.update group.infos guid info }

end QueuedGroup

instance : Inhabited QueuedGroup := ⟨⟨⟨[], 0, 0, false, 0, 0, 0, 0, 0⟩, fun _ => 0, 0⟩⟩

/-- `BattleGroundQueue`.  `queuedPlayers` has by bracket and guid the address of a `PlayerQueueInfo`, and
`groupInfo` the `GroupInfo` at an address. -/
structure BattleGroundQueue where
  group : GroupRef → QueuedGroup
  groupInfo : Nat → GroupRef
  queuedPlayers : Nat → Nat → Option Nat
  queuedGroups : Nat → List GroupRef
  deleted : List GroupRef
  nextGroup : GroupRef
  nextInfo : Nat

def BattleGroundQueue.modifyGroup (queue : BattleGroundQueue) (g : GroupRef) (f : QueuedGroup → QueuedGroup) :
    BattleGroundQueue :=
  { queue with group := Function.update queue.group g (f (queue.group g)) }

/-- `BattleGroundMgr` and the players.  A list of `freeSlotQueue` is without the template, which stays at its end;
`arenaTeam` is the rating of a team, `memberLost` what has been booked as lost: team, player, opponents' rating. -/
structure BattleGroundMgr where
  queues : Nat → BattleGroundQueue
  battleGrounds : Nat → Option BattleGround
  freeSlotQueue : Nat → List Nat
  template : Nat → Option BattleGround
  maxInstanceId : Nat
  maxRatingDifference : Nat
  ratingDiscardTimer : Nat
  testing : Bool
  arenaTesting : Bool
  players : Nat → BgPlayer
  arenaTeam : Nat → Option Nat
  memberLost : List (Nat × Nat × Nat)

/-! ## Algorithm -/

def bgQueueTypeId (bgTypeId arenaType : Nat) : Nat :=
  match bgTypeId with
  | 2 => 2
  | 3 => 3
  | 1 => 1
  | 7 => 4
  | 4 | 5 | 6 | 8 =>
    match arenaType with
    | 2 => 5
    | 3 => 6
    | 5 => 7
    | _ => 0
  | _ => 0

/-- The slot of the arena team for a type of arena. -/
def arenaSlot : Nat → Option Nat
  | 2 => some 0
  | 3 => some 1
  | 5 => some 2
  | _ => none

namespace BattleGroundMgr

variable (w : BattleGroundMgr)

def getBattleGround (instanceID : Nat) : Option BattleGround :=
  if instanceID = 0 then none else w.battleGrounds instanceID

def modifyQueue (q : Nat) (f : BattleGroundQueue → BattleGroundQueue) : BattleGroundMgr :=
  { w with queues := Function.update w.queues q (f (w.queues q)) }

def modifyGroup (q : Nat) (g : GroupRef) (f : QueuedGroup → QueuedGroup) : BattleGroundMgr :=
  w.modifyQueue q (·.modifyGroup g f)

def modifyBattleGround (instanceID : Nat) (f : BattleGround → BattleGround) : BattleGroundMgr :=
  { w with battleGrounds := Function.update w.battleGrounds instanceID ((w.battleGrounds instanceID).map f) }

def modifyPlayer (guid : Nat) (f : BgPlayer → BgPlayer) : BattleGroundMgr :=
  { w with players := Function.update w.players guid (f (w.players guid)) }

/-! ### Into the queue -/

/-- `AddGroup`, with the address of the new group. -/
def addGroup (q leader bgTypeId arenaType : Nat) (isRated : Bool) (arenaRating arenaTeamId now : Nat) :
    GroupRef × BattleGroundMgr :=
  let bracket := (w.players leader).getBattleGroundQueueIdFromLevel
  ((w.queues q).nextGroup, w.modifyQueue q fun queue => { queue with
    group := Function.update queue.group queue.nextGroup
      { players := []
        team := (w.players leader).team
        bgTypeId := bgTypeId
        isRated := isRated
        arenaType := arenaType
        arenaTeamId := arenaTeamId
        joinTime := now
        isInvitedToBGInstanceGUID := 0
        arenaTeamRating := arenaRating
        infos := fun _ => 0
        opponentsTeamRating := 0 }
    queuedGroups := Function.update queue.queuedGroups bracket (queue.queuedGroups bracket ++ [queue.nextGroup])
    nextGroup := queue.nextGroup + 1 })

/-- `AddPlayer`: the info of a player who has one is written anew. -/
def addPlayer (q guid : Nat) (ginfo : GroupRef) : BattleGroundMgr :=
  let bracket := (w.players guid).getBattleGroundQueueIdFromLevel
  let queue := w.queues q
  let info := (queue.queuedPlayers bracket guid).getD queue.nextInfo
  w.modifyQueue q fun queue => ({ queue with
    groupInfo := Function.update queue.groupInfo info ginfo
    queuedPlayers := Function.update queue.queuedPlayers bracket
      (Function.update (queue.queuedPlayers bracket) guid (some info))
    nextInfo := if (queue.queuedPlayers bracket guid).isSome then queue.nextInfo else queue.nextInfo + 1 } :
      BattleGroundQueue).modifyGroup ginfo (·.setInfo guid info)

/-! ### Into a battleground -/

def invitePlayer (guid bgInstanceGUID team : Nat) : BattleGroundMgr :=
  match w.getBattleGround bgInstanceGUID with
  | none => w
  | some bg =>
    let w1 := (w.modifyBattleGround bgInstanceGUID (·.increaseInvitedCount team)).modifyPlayer guid
      (·.setInviteForBattleGroundQueueType (bgQueueTypeId bg.typeID bg.arenaType) bgInstanceGUID)
    -- the arena teams of a rated match
    if bg.isArena ∧ bg.isRated then
      match arenaSlot bg.arenaType with
      | some slot =>
        w1.modifyBattleGround bgInstanceGUID (·.setArenaTeamIdForTeam team ((w.players guid).arenaTeamId slot))
      | none => w1
    else w1

/-- The loop of `InviteGroupToBG`: who is not in the world is skipped. -/
def invitePlayers (bgInstanceGUID team : Nat) (guids : List Nat) : BattleGroundMgr :=
  guids.foldl (fun w guid => if (w.players guid).inWorld then w.invitePlayer guid bgInstanceGUID team else w) w

/-- `Team` is set where a side is given. -/
def setSide (q : Nat) (ginfo : GroupRef) (side : Nat) : BattleGroundMgr :=
  if side ≠ 0 then w.modifyGroup q ginfo (·.setTeam side) else w

/-- `InviteGroupToBG` (nothing uses its result). -/
def inviteGroupToBG (q : Nat) (ginfo : GroupRef) (bgInstanceGUID side : Nat) : BattleGroundMgr :=
  let w1 := w.setSide q ginfo side
  let group := (w1.queues q).group ginfo
  if group.isInvitedToBGInstanceGUID = 0 then
    (w1.modifyGroup q ginfo (·.setInvited bgInstanceGUID)).invitePlayers bgInstanceGUID group.team group.players
  else w1

end BattleGroundMgr

end BlizzLike
