import BlizzLikeCore.Guild.BankMoney
import BlizzLikeCore.Item
import Mathlib.Data.List.Dedup
import Std.Data.TreeMap.Lemmas

/-!
# Guilds and their members

The handlers of `GuildHandler.cpp` about membership, ranks and the texts of a guild, on three
stores that each know who is in which guild with which rank: the member lists of the guilds, the
rows of `guild_member`, and the fields of the players who are online.

Left out: what is sent and logged, the emblem, and the days of the bank (`Guild/BankMoney`).
-/

namespace BlizzLike

open Std

def grOfficer : Nat := 1

def guildMaxRanks : Nat := 10

/-! ## Rights -/

def grRightGChatListen : Nat := 0x00000041
def grRightGChatSpeak : Nat := 0x00000042
def grRightOffChatListen : Nat := 0x00000044
def grRightOffChatSpeak : Nat := 0x00000048
def grRightPromote : Nat := 0x000000C0
def grRightDemote : Nat := 0x00000140
def grRightInvite : Nat := 0x00000050
def grRightRemove : Nat := 0x00000060
def grRightSetMOTD : Nat := 0x00001040
def grRightEPNote : Nat := 0x00002040
def grRightEOffNote : Nat := 0x00008040
def grRightModifyGuildInfo : Nat := 0x00010040
def grRightAll : Nat := 0x000DF1FF

/-- `GetRankRights` in a table of ranks; a rank that is not in it has none. -/
def rightsOfRank (ranks : List RankInfo) (rankId : Nat) : Nat := (ranks[rankId]?.map RankInfo.rights).getD 0

/-- `HasRankRight`, which compares with the bit of an empty right. -/
def hasRankRight (ranks : List RankInfo) (rankId right : Nat) : Bool :=
  rightsOfRank ranks rankId &&& right != grRightEmpty

/-! ## Guilds -/

/-- `MemberSlot` of a guild. -/
structure GuildMemberSlot where
  accountId : Nat
  name : String
  rankId : Nat
  pnote : String := ""
  offnote : String := ""
  deriving DecidableEq, Repr

structure Guild where
  name : String
  leaderGuid : Nat
  ranks : List RankInfo := []
  members : TreeMap Nat GuildMemberSlot := ∅
  accountsNumber : Nat := 0
  motd : String := "No message set."
  ginfo : String := ""

namespace Guild

variable (g : Guild)

def updateAccountsNumber : Guild :=
  { g with accountsNumber := (g.members.toList.map fun e => e.2.accountId).dedup.length }

/-- `GetLowestRank`, of an `uint32`. -/
def getLowestRank : Nat := sub32 g.ranks.length 1

/-- `GetMemberSlot`: the first member of a name, by guid. -/
def getMemberSlot (name : String) : Option (Nat × GuildMemberSlot) := g.members.toList.find? fun e => e.2.name == name

def createRank (rights : Nat) : Guild :=
  if g.ranks.length ≥ guildMaxRanks then g else { g with ranks := g.ranks ++ [{ rights := rights, bankMoneyPerDay := 0 }] }

def createDefaultGuildRanks : Guild :=
  ((((g.createRank grRightAll).createRank grRightAll).createRank (grRightGChatListen ||| grRightGChatSpeak)).createRank
    (grRightGChatListen ||| grRightGChatSpeak)).createRank (grRightGChatListen ||| grRightGChatSpeak)

def delRank : Guild := { g with ranks := g.ranks.dropLast }

/-- `SetBankMoneyPerDay` of a rank. -/
def setBankMoneyPerDay (rankId money : Nat) : Guild :=
  { g with ranks := g.ranks.modify rankId fun r =>
      { r with bankMoneyPerDay := if rankId = grGuildMaster then withdrawMoneyUnlimited else money } }

def setRankRights (rankId rights : Nat) : Guild :=
  { g with ranks := g.ranks.modify rankId fun r => { r with rights := rights } }

def setLeader (guid : Nat) : Guild := { g with leaderGuid := guid }

def setMember (guid : Nat) (m : GuildMemberSlot) : Guild := { g with members := g.members.insert guid m }

def modifyMember (guid : Nat) (f : GuildMemberSlot → GuildMemberSlot) : Guild :=
  { g with members := g.members.modify guid f }

def eraseMember (guid : Nat) : Guild := { g with members := g.members.erase guid }

/-- The loop of `DelMember` that looks for the next leader: the member of the best rank, the first of
several. -/
def bestBesides (guid : Nat) : Option (Nat × GuildMemberSlot) :=
  g.members.toList.foldl (fun best e =>
    if e.1 = guid then best
    else
      match best with
      | none => some e
      | some b => if b.2.rankId > e.2.rankId then some e else best) none

end Guild

/-! ## The world of guilds -/

/-- A character: what the guild code reads and writes of `Player`.  While he is offline, `guildId` and
`rank` are what was saved of him. -/
structure GuildCharacter where
  name : String := ""
  accountId : Nat := 0
  online : Bool := false
  guildId : Nat := 0
  rank : Nat := 0
  guildIdInvited : Nat := 0

/-- A row of the table `guild_member`. -/
structure GuildMemberRow where
  guildId : Nat
  guid : Nat
  rank : Nat
  deriving DecidableEq, Repr

/-- The guilds by id, the characters by guid, and the table `guild_member`. -/
structure GuildWorld where
  guilds : TreeMap Nat Guild := ∅
  nextGuildId : Nat := 1
  characters : Nat → GuildCharacter
  guildMember : List GuildMemberRow := []

namespace GuildWorld

variable (w : GuildWorld)

/-! ### Parts of the world -/

def modifyGuild (gid : Nat) (f : Guild → Guild) : GuildWorld := { w with guilds := w.guilds.modify gid f }

def setCharacter (guid : Nat) (p : GuildCharacter) : GuildWorld :=
  { w with characters := Function.update w.characters guid p }

/-- Change a character whom `FindPlayer` finds. -/
def modifyOnline (guid : Nat) (f : GuildCharacter → GuildCharacter) : GuildWorld :=
  if (w.characters guid).online then w.setCharacter guid (f (w.characters guid)) else w

/-- The row of a character that a query finds. -/
def rowOf (guid : Nat) : Option GuildMemberRow := w.guildMember.find? fun row => row.guid == guid

/-- `GetGuildById` of the guild a player is in. -/
def guildOf (pl : Nat) : Option Guild := w.guilds[(w.characters pl).guildId]?

/-! ### The methods of `Guild` -/

def changeRank (gid guid newRank : Nat) : GuildWorld :=
  let w1 := (w.modifyGuild gid fun g => g.modifyMember guid fun m => { m with rankId := newRank }).modifyOnline guid
    fun p => { p with rank := newRank }
  { w1 with guildMember := w1.guildMember.map fun row => if row.guid = guid then { row with rank := newRank } else row }

def setLeader (gid guid : Nat) : GuildWorld :=
  (w.modifyGuild gid fun g => g.setLeader guid).changeRank gid guid grGuildMaster

/-- `AddMember`; `none` when the player has a guild. -/
def addMember (gid guid rank : Nat) : Option GuildWorld :=
  let p := w.characters guid
  if (if p.online then p.guildId != 0 else (w.rowOf guid).isSome) then none
  else
    let w1 := (w.modifyGuild gid fun g =>
      (g.setMember guid { accountId := p.accountId, name := p.name, rankId := rank }).updateAccountsNumber).modifyOnline
        guid fun p => { p with guildId := gid, rank := rank, guildIdInvited := 0 }
    some { w1 with guildMember := w1.guildMember ++ [{ guildId := gid, guid := guid, rank := rank }] }

/-- The end of `DelMember`. -/
def eraseMember (gid guid : Nat) : GuildWorld :=
  let w1 := (w.modifyGuild gid fun g => g.eraseMember guid).modifyOnline guid fun p =>
    { p with guildId := 0, rank := 0 }
  { w1 with guildMember := w1.guildMember.filter fun row => row.guid != guid }

def disband (gid : Nat) : GuildWorld :=
  match w.guilds[gid]? with
  | none => w
  | some g =>
    let w1 := g.members.keys.foldl (fun w guid => w.eraseMember gid guid) w
    { w1 with guilds := w1.guilds.erase gid }

/-- `DelMember` of a guild that is not being disbanded. -/
def delMember (gid guid : Nat) : GuildWorld :=
  match w.guilds[gid]? with
  | none => w
  | some g =>
    if g.leaderGuid = guid then
      match g.bestBesides guid with
      | none => w.disband gid
      | some best =>
        ((w.setLeader gid best.1).modifyOnline best.1 fun p => { p with rank := grGuildMaster }).eraseMember gid guid
    else w.eraseMember gid guid

/-! ### The handlers -/

/-- `HandleGuildCreateOpcode` with `Create`. -/
def handleGuildCreate (pl : Nat) (name : String) : GuildWorld × Bool :=
  if (w.characters pl).guildId ≠ 0 then (w, false)
  else if w.guilds.any fun _ g => g.name == name then (w, false)
  else
    let gid := w.nextGuildId
    let g := ({ name := name, leaderGuid := pl } : Guild).createDefaultGuildRanks
    match ({ w with guilds := w.guilds.insert gid g, nextGuildId := gid + 1 } : GuildWorld).addMember gid pl
        grGuildMaster with
    | none => ({ w with nextGuildId := gid + 1 }, false)
    | some w1 => (w1, true)

/-- `HandleGuildInviteOpcode` of a player who is online; `allowed` is the outcome of the checks of his
ignore list and of the two factions. -/
def handleGuildInvite (pl player : Nat) (allowed : Bool) : GuildWorld × Bool :=
  match w.guildOf pl with
  | none => (w, false)
  | some g =>
    let p := w.characters player
    if p.online = false ∨ allowed = false then (w, false)
    else if p.guildId ≠ 0 ∨ p.guildIdInvited ≠ 0 then (w, false)
    else if hasRankRight g.ranks (w.characters pl).rank grRightInvite = false then (w, false)
    else (w.setCharacter player { p with guildIdInvited := (w.characters pl).guildId }, true)

/-- `HandleGuildAcceptOpcode`; `allowed` is the outcome of the check of the two factions. -/
def handleGuildAccept (pl : Nat) (allowed : Bool) : GuildWorld × Bool :=
  let p := w.characters pl
  match w.guilds[p.guildIdInvited]? with
  | none => (w, false)
  | some g =>
    if p.guildId ≠ 0 ∨ allowed = false then (w, false)
    else
      match w.addMember p.guildIdInvited pl g.getLowestRank with
      | none => (w, false)
      | some w1 => (w1, true)

def handleGuildDecline (pl : Nat) : GuildWorld × Bool :=
  (w.setCharacter pl { w.characters pl with guildIdInvited := 0, guildId := 0 }, true)

/-- The handlers that act on a named member of the player's guild, for players whose rank has a
right. -/
def onMember (pl right : Nat) (name : String) (act : Nat → Guild → Nat × GuildMemberSlot → Option GuildWorld) :
    GuildWorld × Bool :=
  match w.guildOf pl with
  | none => (w, false)
  | some g =>
    if hasRankRight g.ranks (w.characters pl).rank right = false then (w, false)
    else
      match g.getMemberSlot name with
      | none => (w, false)
      | some slot =>
        match act (w.characters pl).guildId g slot with
        | none => (w, false)
        | some w1 => (w1, true)

def handleGuildRemove (pl : Nat) (name : String) : GuildWorld × Bool :=
  w.onMember pl grRightRemove name fun gid _ slot =>
    if slot.2.rankId = grGuildMaster then none else some (w.delMember gid slot.1)

def handleGuildPromote (pl : Nat) (name : String) : GuildWorld × Bool :=
  w.onMember pl grRightPromote name fun gid g slot =>
    if slot.1 = pl then none
    else if slot.2.rankId < 2 ∨ slot.2.rankId - 1 < (w.characters pl).rank then none
    else
      let newRankId := if slot.2.rankId < g.ranks.length then slot.2.rankId - 1 else sub32 g.ranks.length 1
      some (w.changeRank gid slot.1 newRankId)

def handleGuildDemote (pl : Nat) (name : String) : GuildWorld × Bool :=
  w.onMember pl grRightDemote name fun gid g slot =>
    if slot.1 = pl then none
    else if u32 (slot.2.rankId + 1) ≥ g.ranks.length ∨ slot.2.rankId ≤ (w.characters pl).rank then none
    else some (w.changeRank gid slot.1 (u32 (slot.2.rankId + 1)))

def handleGuildSetPublicNote (pl : Nat) (name note : String) : GuildWorld × Bool :=
  w.onMember pl grRightEPNote name fun gid _ slot =>
    some (w.modifyGuild gid fun g => g.modifyMember slot.1 fun m => { m with pnote := note })

def handleGuildSetOfficerNote (pl : Nat) (name note : String) : GuildWorld × Bool :=
  w.onMember pl grRightEOffNote name fun gid _ slot =>
    some (w.modifyGuild gid fun g => g.modifyMember slot.1 fun m => { m with offnote := note })

def handleGuildLeave (pl : Nat) : GuildWorld × Bool :=
  match w.guildOf pl with
  | none => (w, false)
  | some g =>
    let gid := (w.characters pl).guildId
    if pl = g.leaderGuid ∧ g.members.size > 1 then (w, false)
    else if pl = g.leaderGuid then (w.disband gid, true)
    else (w.delMember gid pl, true)

/-- The handlers for which a player has to be the leader of his guild. -/
def asLeader (pl : Nat) (act : Nat → Guild → Option GuildWorld) : GuildWorld × Bool :=
  match w.guildOf pl with
  | none => (w, false)
  | some g =>
    if pl ≠ g.leaderGuid then (w, false)
    else
      match act (w.characters pl).guildId g with
      | none => (w, false)
      | some w1 => (w1, true)

def handleGuildDisband (pl : Nat) : GuildWorld × Bool := w.asLeader pl fun gid _ => some (w.disband gid)

def handleGuildLeader (pl : Nat) (name : String) : GuildWorld × Bool :=
  w.asLeader pl fun gid g =>
    (g.getMemberSlot name).map fun slot => (w.setLeader gid slot.1).changeRank gid pl grOfficer

def handleGuildRank (pl rankId rights money : Nat) : GuildWorld × Bool :=
  w.asLeader pl fun gid _ =>
    some (w.modifyGuild gid fun g => (g.setBankMoneyPerDay rankId money).setRankRights rankId
      (if rankId = grGuildMaster then rights ||| grRightAll else rights))

def handleGuildAddRank (pl : Nat) : GuildWorld × Bool :=
  w.asLeader pl fun gid g =>
    if g.ranks.length ≥ guildMaxRanks then none
    else some (w.modifyGuild gid fun g => g.createRank (grRightGChatListen ||| grRightGChatSpeak))

def handleGuildDelRank (pl : Nat) : GuildWorld × Bool :=
  w.asLeader pl fun gid _ => some (w.modifyGuild gid Guild.delRank)

/-- The handlers that change a text of the guild. -/
def onText (pl right : Nat) (f : Guild → Guild) : GuildWorld × Bool :=
  match w.guildOf pl with
  | none => (w, false)
  | some g =>
    if hasRankRight g.ranks (w.characters pl).rank right = false then (w, false)
    else (w.modifyGuild (w.characters pl).guildId f, true)

def handleGuildMOTD (pl : Nat) (text : String) : GuildWorld × Bool :=
  w.onText pl grRightSetMOTD fun g => { g with motd := text }

def handleGuildChangeInfo (pl : Nat) (text : String) : GuildWorld × Bool :=
  w.onText pl grRightModifyGuildInfo fun g => { g with ginfo := text }

/-- `BroadcastToGuild` and `BroadcastToOfficers`: the members who hear a player speak; `ignores` tells
whose ignore lists he is on. -/
def hearers (pl speak listen : Nat) (ignores : Nat → Bool) : List Nat :=
  match w.guildOf pl with
  | none => []
  | some g =>
    if hasRankRight g.ranks (w.characters pl).rank speak then
      g.members.keys.filter fun guid => (w.characters guid).online &&
        hasRankRight g.ranks (w.characters guid).rank listen && !ignores guid
    else []

/-- A login, as far as it is about the guild. -/
def login (pl : Nat) : GuildWorld :=
  let p := w.characters pl
  let p1 : GuildCharacter :=
    match w.rowOf pl with
    | some row => { p with guildId := row.guildId, rank := row.rank }
    | none => if p.guildId ≠ 0 then { p with guildId := 0, rank := 0 } else p
  let p2 : GuildCharacter := if (w.guilds[p1.guildId]?).isNone then { p1 with guildId := 0 } else p1
  w.setCharacter pl { p2 with online := true, guildIdInvited := 0 }

end GuildWorld

/-- The requests about guilds and their members.  Names come as `normalizePlayerName` leaves them. -/
inductive GuildRequest where
  | create (name : String)
  | invite (player : Nat) (allowed : Bool)
  | accept (allowed : Bool)
  | decline
  | remove (name : String)
  | leave
  | promote (name : String)
  | demote (name : String)
  | leader (name : String)
  | addRank
  | delRank
  | editRank (rankId rights money : Nat)
  | disband
  | setMOTD (text : String)
  | setPublicNote (name note : String)
  | setOfficerNote (name note : String)
  | changeInfo (text : String)
  deriving DecidableEq, Repr

/-- What happens to the world: a request of a player who is online, or his coming and going. -/
inductive GuildEvent where
  | request (pl : Nat) (r : GuildRequest)
  | login (pl : Nat)
  | logout (pl : Nat)

namespace GuildWorld

/-- The world after a request, and whether the handler acted. -/
def handle (w : GuildWorld) (pl : Nat) : GuildRequest → GuildWorld × Bool
  | .create name => w.handleGuildCreate pl name
  | .invite player allowed => w.handleGuildInvite pl player allowed
  | .accept allowed => w.handleGuildAccept pl allowed
  | .decline => w.handleGuildDecline pl
  | .remove name => w.handleGuildRemove pl name
  | .leave => w.handleGuildLeave pl
  | .promote name => w.handleGuildPromote pl name
  | .demote name => w.handleGuildDemote pl name
  | .leader name => w.handleGuildLeader pl name
  | .addRank => w.handleGuildAddRank pl
  | .delRank => w.handleGuildDelRank pl
  | .editRank rankId rights money => w.handleGuildRank pl rankId rights money
  | .disband => w.handleGuildDisband pl
  | .setMOTD text => w.handleGuildMOTD pl text
  | .setPublicNote name note => w.handleGuildSetPublicNote pl name note
  | .setOfficerNote name note => w.handleGuildSetOfficerNote pl name note
  | .changeInfo text => w.handleGuildChangeInfo pl text

def step (w : GuildWorld) : GuildEvent → GuildWorld
  | .request pl r => if (w.characters pl).online then (w.handle pl r).1 else w
  | .login pl => if (w.characters pl).online then w else w.login pl
  | .logout pl => w.setCharacter pl { w.characters pl with online := false }

end GuildWorld

end BlizzLike
