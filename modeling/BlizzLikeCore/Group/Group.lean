import BlizzLikeCore.Item
import Mathlib.Logic.Function.Basic

/-!
# Groups

Parties and raids with their members, subgroups and invitees, and what each player's object keeps of
them: the reference to his group with a subgroup of its own, that to his original group while he
is in the raid of a battleground, and the pointer to the group he is invited to.  Groups and
players are known by numbers; a group that was deleted is `none`, and a pointer to it dangles.

What the handlers read from elsewhere (who may be invited, names, the heap behind an array) is an
argument of theirs.
-/

namespace BlizzLike

def maxGroupSize : Nat := 5
def maxRaidSize : Nat := 40

/-- `MAXRAIDSIZE / MAXGROUPSIZE`, the length of `m_subGroupsCounts`. -/
def maxRaidSubGroups : Nat := maxRaidSize / maxGroupSize

structure MemberSlot where
  guid : Nat
  group : Nat := 0
  assistant : Bool := false
  deriving DecidableEq, Repr

/-- `Group`; `raid` is its type and `bgGroup` tells if it belongs to a battleground. -/
structure Group where
  leaderGuid : Nat := 0
  raid : Bool := false
  bgGroup : Bool := false
  memberSlots : List MemberSlot := []
  invitees : List Nat := []
  subGroupsCounts : Option (Nat → Nat) := none

/-- What a `Player` keeps of groups.  One that is not loaded has no object and is empty. -/
structure Player where
  loaded : Bool := false
  inWorld : Bool := false
  group : Option Nat := none
  subGroup : Nat := 0
  originalGroup : Option Nat := none
  originalSubGroup : Nat := 0
  groupInvite : Option Nat := none
  deriving DecidableEq, Repr

structure GroupWorld where
  groups : Nat → Option Group := fun _ => none
  nextGroup : Nat := 1
  players : Nat → Player := fun _ => {}

/-! ## One group -/

namespace Group

variable (G : Group)

def isFull : Bool :=
  if G.raid then G.memberSlots.length ≥ maxRaidSize else G.memberSlots.length ≥ maxGroupSize

/-- `_getMemberCSlot`. -/
def memberSlot (guid : Nat) : Option MemberSlot := G.memberSlots.find? fun s => s.guid == guid

def isMember (guid : Nat) : Bool := (G.memberSlot guid).isSome

def isLeader (guid : Nat) : Bool := G.leaderGuid == guid

def isAssistant (guid : Nat) : Bool := ((G.memberSlot guid).map MemberSlot.assistant).getD false

def getMemberGroup (guid : Nat) : Nat :=
  ((G.memberSlot guid).map MemberSlot.group).getD (maxRaidSize / maxGroupSize + 1)

/-- `HasFreeSlotSubGroup`; no bound is checked, and `heap` is what lies behind the array. -/
def hasFreeSlotSubGroup (heap : Nat → Nat) (subgroup : Nat) : Bool :=
  match G.subGroupsCounts with
  | none => false
  | some counts => (if subgroup < maxRaidSubGroups then counts subgroup else heap subgroup) < maxGroupSize

/-- Change a counter; a write behind the array changes none. -/
def countSubGroup (f : Nat → Nat) (subgroup : Nat) : Group :=
  { G with
    subGroupsCounts := G.subGroupsCounts.map fun counts =>
      if subgroup < maxRaidSubGroups then Function.update counts subgroup (f (counts subgroup)) else counts }

def subGroupCounterIncrease (subgroup : Nat) : Group := G.countSubGroup (fun n => u8 (n + 1)) subgroup

def subGroupCounterDecrease (subgroup : Nat) : Group := G.countSubGroup (fun n => u8 (n + 255)) subgroup

/-- The members of a subgroup. -/
def membersOf (subgroup : Nat) : Nat := G.memberSlots.countP fun s => s.group = subgroup

def initRaidSubGroupsCounter : Group := { G with subGroupsCounts := some fun g => u8 (G.membersOf g) }

/-- The subgroup `_addMember` finds: the first that is not full, in a party always 0. -/
def freeSubGroup : Option Nat :=
  match G.subGroupsCounts with
  | none => some 0
  | some counts => (List.range maxRaidSubGroups).find? fun g => counts g < maxGroupSize

/-- `_setMembersGroup`; `none` when there is no such member. -/
def setMembersGroup (guid group : Nat) : Option Group :=
  match G.memberSlots.findIdx? fun s => s.guid == guid with
  | none => none
  | some i =>
    some ({ G with
      memberSlots := G.memberSlots.modify i fun s => { s with group := group } }.subGroupCounterIncrease group)

def convertToRaid : Group := { G with raid := true }.initRaidSubGroupsCounter

/-- What `Create` sets up before the first member is added. -/
def setUp (guid : Nat) : Group :=
  let G1 := { G with leaderGuid := guid, raid := G.bgGroup }
  if G1.raid then G1.initRaidSubGroupsCounter else G1

/-- `_setAssistantFlag`. -/
def setAssistant (guid : Nat) (flag : Bool) : Group :=
  match G.memberSlots.findIdx? fun s => s.guid == guid with
  | none => G
  | some i => { G with memberSlots := G.memberSlots.modify i fun s => { s with assistant := flag } }

/-- The slot of a member who is removed. -/
def eraseSlot (guid : Nat) : Group :=
  match G.memberSlot guid with
  | none => G
  | some s =>
    { G with memberSlots := G.memberSlots.eraseP fun s => s.guid == guid }.subGroupCounterDecrease s.group

/-- The group's part of `_removeMember`; if he led the first of the others leads. -/
def dropMember (guid : Nat) : Group :=
  let G1 := G.eraseSlot guid
  if G1.leaderGuid = guid then { G1 with leaderGuid := (G1.memberSlots.head?.map MemberSlot.guid).getD guid }
  else G1

/-- What `_addMember` does to the group, and `LoadMemberFromDB` for a character that exists. -/
def pushMember (slot : MemberSlot) : Group :=
  { G with memberSlots := G.memberSlots ++ [slot] }.subGroupCounterIncrease slot.group

end Group

/-! ## One player -/

namespace Player

variable (P : Player)

def setGroup (g : Option Nat) (subgroup : Nat) : Player :=
  match g with
  | none => { P with group := none }
  | some g => { P with group := some g, subGroup := subgroup }

def setOriginalGroup (g : Option Nat) (subgroup : Nat) : Player :=
  match g with
  | none => { P with originalGroup := none }
  | some g => { P with originalGroup := some g, originalSubGroup := subgroup }

def setBattleGroundRaid (g subgroup : Nat) : Player :=
  { P.setOriginalGroup P.group P.subGroup with group := some g, subGroup := subgroup }

def removeFromBattleGroundRaid : Player :=
  { P with
    group := P.originalGroup
    subGroup := if P.originalGroup.isSome then P.originalSubGroup else P.subGroup
    originalGroup := none }

/-- The player's part of `_addMember`. -/
def join (g subgroup : Nat) (bgGroup : Bool) : Player :=
  let P1 := { P with groupInvite := none }
  if P.group.isSome ∧ bgGroup = true then P1.setBattleGroundRaid g subgroup
  else if P.group.isSome then P1.setOriginalGroup (some g) subgroup
  else P1.setGroup (some g) subgroup

/-- The player's part of `_removeMember` and `Disband`. -/
def part (g : Nat) (bgGroup : Bool) : Player :=
  if bgGroup then P.removeFromBattleGroundRaid
  else if P.originalGroup = some g then P.setOriginalGroup none 0
  else P.setGroup none 0

/-- The references to a group are cut when it is deleted; the pointer of an invite is not. -/
def forget (g : Nat) : Player :=
  { P with
    group := if P.group = some g then none else P.group
    originalGroup := if P.originalGroup = some g then none else P.originalGroup }

end Player

/-! ## The world -/

namespace GroupWorld

variable (w : GroupWorld)

def setGroupAt (g : Nat) (G : Group) : GroupWorld := { w with groups := Function.update w.groups g (some G) }

/-- `new Group`. -/
def newGroup (G : Group) : GroupWorld := { w.setGroupAt w.nextGroup G with nextGroup := w.nextGroup + 1 }

def modifyPlayer (p : Nat) (f : Player → Player) : GroupWorld :=
  { w with players := Function.update w.players p (f (w.players p)) }

/-- For a player `FindPlayer` finds. -/
def ifInWorld (p : Nat) (f : Player → Player) : GroupWorld :=
  if (w.players p).inWorld then w.modifyPlayer p f else w

def isBGGroup (g : Nat) : Bool := ((w.groups g).map Group.bgGroup).getD false

/-- `GetMembersCount`. -/
def membersCount (g : Nat) : Nat := ((w.groups g).map fun G => G.memberSlots.length).getD 0

/-- The group that is not of a battleground: `GetGroup`, or then `GetOriginalGroup`. -/
def ownGroup (p : Nat) : Option Nat :=
  match (w.players p).group with
  | none => none
  | some g => if w.isBGGroup g then (w.players p).originalGroup else some g

/-- `delete group`. -/
def deleteGroup (g : Nat) : GroupWorld :=
  { w with groups := Function.update w.groups g none, players := fun p => (w.players p).forget g }

/-! ### Invitees -/

def removeInvite (g : Nat) (G : Group) (p : Nat) : GroupWorld :=
  (w.setGroupAt g { G with invitees := G.invitees.filter fun q => q != p }).modifyPlayer p
    fun P => { P with groupInvite := none }

def removeAllInvites (g : Nat) (G : Group) : GroupWorld :=
  { w.setGroupAt g { G with invitees := [] } with
    players := fun p => if p ∈ G.invitees then { w.players p with groupInvite := none } else w.players p }

/-- `AddInvite`; `none` when it fails. -/
def addInvite (g p : Nat) : Option GroupWorld :=
  match w.groups g with
  | none => none
  | some G =>
    if (w.players p).groupInvite.isSome then none
    else if (w.ownGroup p).isSome then none
    else
      some ((w.setGroupAt g { G with invitees := p :: G.invitees.filter fun q => q != p }).modifyPlayer p
        fun P => { P with groupInvite := some g })

def addLeaderInvite (g p : Nat) : Option GroupWorld :=
  match w.addInvite g p with
  | none => none
  | some w1 => (w1.groups g).map fun G => w1.setGroupAt g { G with leaderGuid := p }

/-! ### Members -/

/-- `_addMember` with a subgroup; `none` when it fails. -/
def addMemberTo (g : Nat) (G : Group) (guid subgroup : Nat) : Option GroupWorld :=
  if G.isFull then none
  else if guid = 0 then none
  else
    some ((w.setGroupAt g (G.pushMember { guid := guid, group := subgroup })).ifInWorld guid
      fun P => P.join g subgroup G.bgGroup)

def addMember (g guid : Nat) : Option GroupWorld :=
  match w.groups g with
  | none => none
  | some G =>
    match G.freeSubGroup with
    | none => none
    | some subgroup => w.addMemberTo g G guid subgroup

/-- `Create`; where `AddMember` fails the group stays as far as it is set up. -/
def create (g guid : Nat) : GroupWorld :=
  match w.groups g with
  | none => w
  | some G =>
    let w1 := w.setGroupAt g (G.setUp guid)
    (w1.addMember g guid).getD w1

def disband (g : Nat) (G : Group) : GroupWorld :=
  let w1 := G.memberSlots.foldl (fun v s => v.ifInWorld s.guid fun P => P.part g G.bgGroup) w
  w1.removeAllInvites g { G with memberSlots := [], leaderGuid := 0 }

/-- `_removeMember`. -/
def removeMemberSlot (g : Nat) (G : Group) (guid : Nat) : GroupWorld :=
  (w.ifInWorld guid fun P => P.part g G.bgGroup).setGroupAt g (G.dropMember guid)

def removeMember (g : Nat) (G : Group) (guid : Nat) : GroupWorld :=
  if G.memberSlots.length > (if G.bgGroup then 1 else 2) then w.removeMemberSlot g G guid
  else w.disband g G

def removeFromGroup (g guid : Nat) : GroupWorld :=
  match w.groups g with
  | none => w
  | some G =>
    let w1 := w.removeMember g G guid
    if w1.membersCount g ≤ 1 then w1.deleteGroup g else w1

/-- `UninviteFromGroup`; what becomes of a dangling pointer is undefined. -/
def uninviteFromGroup (p : Nat) : GroupWorld :=
  match (w.players p).groupInvite with
  | none => w
  | some g =>
    match w.groups g with
    | none => w
    | some G =>
      let w1 := w.removeInvite g G p
      if G.memberSlots.length ≤ 1 then
        let G1 := { G with invitees := G.invitees.filter fun q => q != p }
        (if G.memberSlots ≠ [] then w1.disband g G1 else w1.removeAllInvites g G1).deleteGroup g
      else w1

/-! ### Requests -/

/-- `HandleGroupInviteOpcode`; `allowed` is the outcome of its checks of game masters, teams,
instances and ignore lists. -/
def handleGroupInvite (pl player : Nat) (allowed : Bool) : GroupWorld :=
  if (w.players player).inWorld = false then w
  else if allowed = false then w
  else if (w.ownGroup player).isSome ∨ (w.players player).groupInvite.isSome then w
  else
    match w.ownGroup pl with
    | some g =>
      match w.groups g with
      | none => w
      | some G =>
        if G.isLeader pl = false ∧ G.isAssistant pl = false then w
        else if G.isFull then w
        else (w.addInvite g player).getD w
    | none =>
      -- a new group: if one of the invites fails it is deleted again
      let g := w.nextGroup
      let w0 := w.newGroup {}
      match w0.addLeaderInvite g pl with
      | none => w0.deleteGroup g
      | some w1 =>
        match w1.addInvite g player with
        | none => w1.deleteGroup g
        | some w2 => w2

/-- Forming a new group in `HandleGroupAcceptOpcode`. -/
def formGroup (g : Nat) (G : Group) : GroupWorld :=
  (if (w.players G.leaderGuid).inWorld then w.removeInvite g G G.leaderGuid else w).create g G.leaderGuid

def handleGroupAccept (pl : Nat) : GroupWorld :=
  match (w.players pl).groupInvite with
  | none => w
  | some g =>
    match w.groups g with
    | none => w
    | some G =>
      if G.leaderGuid = pl then w
      else
        let w1 := w.removeInvite g G pl
        if G.isFull then w1
        else
          let w2 :=
            if G.memberSlots = [] then w1.formGroup g { G with invitees := G.invitees.filter fun q => q != pl }
            else w1
          (w2.addMember g pl).getD w2

def handleGroupDecline (pl : Nat) : GroupWorld := w.uninviteFromGroup pl

/-- `InBattleGround`: a player whose group is the raid of a battleground is in one. -/
def inBattleGround (pl : Nat) (elsewhere : Bool) : Bool :=
  elsewhere || ((w.players pl).group.map w.isBGGroup).getD false

/-- `HandleGroupUninviteGuidOpcode` and, for the name of `guid`, `HandleGroupUninviteNameOpcode`. -/
def handleGroupUninvite (pl guid : Nat) (elsewhere : Bool) : GroupWorld :=
  if guid = pl then w
  else
    match (w.players pl).group with
    | none => w
    | some g =>
      match w.groups g with
      | none => w
      | some G =>
        if G.isLeader pl = false ∧ G.isAssistant pl = false then w
        else if w.inBattleGround pl elsewhere then w
        else if G.isMember guid then w.removeFromGroup g guid
        else if guid ∈ G.invitees then w.uninviteFromGroup guid
        else w

def handleGroupSetLeader (pl guid : Nat) : GroupWorld :=
  match (w.players pl).group with
  | none => w
  | some g =>
    match w.groups g with
    | none => w
    | some G =>
      if (w.players guid).inWorld = false ∨ G.isLeader pl = false ∨ (w.players guid).group ≠ some g then w
      else if G.isMember guid then w.setGroupAt g { G with leaderGuid := guid }
      else w

def handleGroupLeave (pl : Nat) (elsewhere : Bool) : GroupWorld :=
  match (w.players pl).group with
  | none => w
  | some g => if w.inBattleGround pl elsewhere then w else w.removeFromGroup g pl

def handleRaidConvert (pl : Nat) (elsewhere : Bool) : GroupWorld :=
  match (w.players pl).group with
  | none => w
  | some g =>
    match w.groups g with
    | none => w
    | some G =>
      if w.inBattleGround pl elsewhere then w
      else if G.isLeader pl = false ∨ G.memberSlots.length < 2 then w
      else w.setGroupAt g G.convertToRaid

/-- `ChangeMembersGroup` for a player: the counter that is lowered is that of the subgroup in his
reference to the group he is in now. -/
def changePlayersGroup (g : Nat) (G : Group) (p group : Nat) : GroupWorld :=
  if G.raid = false then w
  else
    match G.setMembersGroup p group with
    | none => w
    | some G1 =>
      (w.setGroupAt g (G1.subGroupCounterDecrease (w.players p).subGroup)).modifyPlayer p
        fun P => { P with subGroup := group }

/-- `ChangeMembersGroup` for a GUID.  It is handed on for no player at all when he is offline. -/
def changeMembersGroup (g : Nat) (G : Group) (guid group : Nat) : GroupWorld :=
  if G.raid = false then w
  else if (w.players guid).inWorld = false then w
  else
    let P := w.players guid
    let prevSubGroup := if P.group = some g then P.subGroup else P.originalSubGroup
    let w1 := w.modifyPlayer guid fun P =>
      if P.group = some g then { P with subGroup := group } else { P with originalSubGroup := group }
    let G1 := G.subGroupCounterDecrease prevSubGroup
    w1.setGroupAt g ((G1.setMembersGroup guid group).getD G1)

/-- `HandleGroupChangeSubGroupOpcode`; `exact` tells if the name is spelled as that of the player
is, which the database does not ask for. -/
def handleGroupChangeSubGroup (pl guid : Nat) (exact : Bool) (groupNr : Nat) (heap : Nat → Nat) : GroupWorld :=
  match (w.players pl).group with
  | none => w
  | some g =>
    match w.groups g with
    | none => w
    | some G =>
      if G.isLeader pl = false ∧ G.isAssistant pl = false then w
      else if G.hasFreeSlotSubGroup heap groupNr = false then w
      else if exact = true ∧ (w.players guid).inWorld = true then w.changePlayersGroup g G guid groupNr
      else w.changeMembersGroup g G guid groupNr

def handleGroupAssistant (pl guid : Nat) (flag : Bool) : GroupWorld :=
  match (w.players pl).group with
  | none => w
  | some g =>
    match w.groups g with
    | none => w
    | some G =>
      if G.isLeader pl = false ∨ G.raid = false then w
      else w.setGroupAt g (G.setAssistant guid flag)

/-! ### Battlegrounds, sessions, the database, commands -/

/-- The group membership of a player who enters a battleground; `raid` is that of his team, when
there is one. -/
def enterBattleGround (pl : Nat) (raid : Option Nat) : GroupWorld :=
  match raid with
  | none =>
    (w.newGroup { bgGroup := true }).create w.nextGroup pl
  | some g =>
    match w.groups g with
    | none => w
    | some G =>
      if G.bgGroup = false then w
      else if G.isMember pl then w.modifyPlayer pl fun P => P.setBattleGroundRaid g (G.getMemberGroup pl)
      else (w.addMember g pl).getD w

/-- The raid's part of `RemovePlayerAtLeave`. -/
def leaveBattleGround (guid g : Nat) : GroupWorld :=
  match w.groups g with
  | none => w
  | some G =>
    if G.bgGroup = false then w
    else
      let w1 := w.removeMember g G guid
      if w1.membersCount g = 0 then w1.deleteGroup g else w1

/-- `_LoadGroup`; `g` is the group of the leader in the player's row of `group_member`.  No
character has the GUID 0. -/
def login (pl : Nat) (g : Option Nat) : GroupWorld :=
  if (w.players pl).loaded ∨ pl = 0 then w
  else
    w.modifyPlayer pl fun P =>
      match g.bind w.groups, g with
      | some G, some g => { P with loaded := true, inWorld := true }.setGroup (some g) (G.getMemberGroup pl)
      | _, _ => { P with loaded := true, inWorld := true }

/-- A far teleport takes a player out of the world for a while. -/
def teleport (pl : Nat) (inWorld : Bool) : GroupWorld :=
  if (w.players pl).loaded then w.modifyPlayer pl fun P => { P with inWorld := inWorld } else w

/-- `LogoutPlayer`; `socket` tells a normal logout from a lost connection. -/
def logout (pl : Nat) (socket : Bool) : GroupWorld :=
  let w1 := w.uninviteFromGroup pl
  let w2 :=
    match (w1.players pl).group with
    | none => w1
    | some g =>
      match w1.groups g with
      | none => w1
      | some G => if G.raid = false ∧ socket = true then w1.removeFromGroup g pl else w1
  w2.modifyPlayer pl fun _ => {}

/-- The group part of `DeleteFromDB`; only groups that are not of a battleground are registered. -/
def deleteCharacter (guid g : Nat) : GroupWorld :=
  if (w.players guid).loaded ∨ w.isBGGroup g then w else w.removeFromGroup g guid

/-- `LoadGroups` for one group with its rows; groups that are too small are deleted again. -/
def load (leader : Nat) (raid : Bool) (rows : List MemberSlot) : GroupWorld :=
  let g := w.nextGroup
  let G0 : Group := { leaderGuid := leader, raid := raid }
  let G := rows.foldl Group.pushMember (if raid then G0.initRaidSubGroupsCounter else G0)
  let w1 := { w with nextGroup := g + 1 }
  if G.memberSlots.length < 2 then (w1.disband g G).deleteGroup g else w1.setGroupAt g G

/-- `HandleGroupDisbandCommand` of game masters, which leaves the group where it is. -/
def disbandCommand (g : Nat) : GroupWorld :=
  match w.groups g with
  | none => w
  | some G => w.disband g G

/-- `HandleGroupRemoveCommand`. -/
def removeCommand (g guid : Nat) : GroupWorld :=
  match w.groups g with
  | none => w
  | some G => w.removeMember g G guid

end GroupWorld

/-- The requests of players and what else happens to groups. -/
inductive GroupRequest where
  | invite (pl player : Nat) (allowed : Bool)
  | accept (pl : Nat)
  | decline (pl : Nat)
  | uninvite (pl guid : Nat) (elsewhere : Bool)
  | setLeader (pl guid : Nat)
  | leave (pl : Nat) (elsewhere : Bool)
  | convertToRaid (pl : Nat) (elsewhere : Bool)
  | changeSubGroup (pl guid : Nat) (exact : Bool) (groupNr : Nat) (heap : Nat → Nat)
  | assistant (pl guid : Nat) (flag : Bool)
  | enterBattleGround (pl : Nat) (raid : Option Nat)
  | leaveBattleGround (guid g : Nat)
  | login (pl : Nat) (g : Option Nat)
  | teleport (pl : Nat) (inWorld : Bool)
  | logout (pl : Nat) (socket : Bool)
  | deleteCharacter (guid g : Nat)
  | load (leader : Nat) (raid : Bool) (rows : List MemberSlot)
  | disbandCommand (g : Nat)
  | removeCommand (g guid : Nat)

namespace GroupWorld

/-- The handlers of packets run only for players in the world. -/
def handle (w : GroupWorld) (pl : Nat) (handled : GroupWorld) : GroupWorld :=
  if (w.players pl).inWorld then handled else w

def step (w : GroupWorld) : GroupRequest → GroupWorld
  | .invite pl player allowed => w.handle pl (w.handleGroupInvite pl player allowed)
  | .accept pl => w.handle pl (w.handleGroupAccept pl)
  | .decline pl => w.handle pl (w.handleGroupDecline pl)
  | .uninvite pl guid elsewhere => w.handle pl (w.handleGroupUninvite pl guid elsewhere)
  | .setLeader pl guid => w.handle pl (w.handleGroupSetLeader pl guid)
  | .leave pl elsewhere => w.handle pl (w.handleGroupLeave pl elsewhere)
  | .convertToRaid pl elsewhere => w.handle pl (w.handleRaidConvert pl elsewhere)
  | .changeSubGroup pl guid exact groupNr heap => w.handle pl (w.handleGroupChangeSubGroup pl guid exact groupNr heap)
  | .assistant pl guid flag => w.handle pl (w.handleGroupAssistant pl guid flag)
  | .enterBattleGround pl raid => w.handle pl (w.enterBattleGround pl raid)
  | .leaveBattleGround guid g => w.leaveBattleGround guid g
  | .login pl g => w.login pl g
  | .teleport pl inWorld => w.teleport pl inWorld
  | .logout pl socket => w.logout pl socket
  | .deleteCharacter guid g => w.deleteCharacter guid g
  | .load leader raid rows => w.load leader raid rows
  | .disbandCommand g => w.disbandCommand g
  | .removeCommand g guid => w.removeCommand g guid

end GroupWorld

end BlizzLike
