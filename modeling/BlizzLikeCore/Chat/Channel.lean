import Mathlib.Tactic.Common
import Std.Data.TreeMap.Lemmas

/-!
# Chat channels

`Channel.cpp`, the requests that change who is in a channel and what he may do there.  What is sent is
kept, the latest first.  `players[...]` makes an entry where there is none, as in the source.

Left out: `Say`, `List`, `SendWhoOwner` and `Invite`, which change nothing; the name of the channel, which
every packet has; the channel lists of players.
-/

namespace BlizzLike

open Std

/-! ## What channels ask about players -/

/-- What a channel reads of a player who is online.  The guids of players begin at 1. -/
structure Chatter where
  guid : Nat
  guid_pos : 0 < guid
  security : Nat := 0
  team : Nat := 0
  guildId : Nat := 0
  hasGroup : Bool := false
  lookingForGroup : Bool := false

def secPlayer : Nat := 0
def secGameMaster : Nat := 2

/-- `ObjectAccessor` and the configuration. -/
structure ChatWorld where
  findPlayer : Nat → Option Chatter
  findPlayerByName : String → Option Chatter
  restrictedLfgChannel : Bool := false
  silentlyGmJoinToChannel : Bool := false
  allowTwoSideInteractionChannel : Bool := false

/-- `sec`, of a player who may have gone. -/
def ChatWorld.security (world : ChatWorld) (p : Nat) : Nat := ((world.findPlayer p).map Chatter.security).getD 0

/-! ## Members -/

def memberFlagNone : BitVec 8 := 0x00
def memberFlagOwner : BitVec 8 := 0x01
def memberFlagModerator : BitVec 8 := 0x02
def memberFlagMuted : BitVec 8 := 0x08

/-- `PlayerInfo`; an entry that `players[...]` makes is all 0. -/
structure PlayerInfo where
  player : Nat := 0
  flags : BitVec 8 := 0
  deriving DecidableEq, Repr

namespace PlayerInfo

variable (info : PlayerInfo) (flag : BitVec 8) (state : Bool)

def hasFlag : Bool := info.flags &&& flag != 0

def putFlag : PlayerInfo :=
  { info with flags := if state then info.flags ||| flag else info.flags &&& ~~~flag }

def isOwner : Bool := info.hasFlag memberFlagOwner
def setOwner : PlayerInfo := info.putFlag memberFlagOwner state
def isModerator : Bool := info.hasFlag memberFlagModerator
def setModerator : PlayerInfo := info.putFlag memberFlagModerator state
def isMuted : Bool := info.hasFlag memberFlagMuted
def setMuted : PlayerInfo := info.putFlag memberFlagMuted state

end PlayerInfo

/-! ## What is sent -/

inductive ChannelNotice where
  | joined (guid : Nat)
  | left (guid : Nat)
  | youJoined
  | youLeft
  | wrongPassword
  | notMember
  | notModerator
  | passwordChanged (guid : Nat)
  | ownerChanged (guid : Nat)
  | playerNotFound (name : String)
  | notOwner
  | modeChange (guid : Nat) (oldFlags flags : BitVec 8)
  | announcementsOn (guid : Nat)
  | announcementsOff (guid : Nat)
  | moderationOn (guid : Nat)
  | moderationOff (guid : Nat)
  | playerKicked (bad good : Nat)
  | banned
  | playerBanned (bad good : Nat)
  | playerUnbanned (bad good : Nat)
  | playerAlreadyMember (guid : Nat)
  | notInLfg
  /-- `JoinNotify` -/
  | userlistAdd (guid : Nat) (flags channelFlags : BitVec 8) (numPlayers : Nat)
  /-- `LeaveNotify` -/
  | userlistRemove (guid : Nat) (channelFlags : BitVec 8) (numPlayers : Nat)
  deriving DecidableEq, Repr

/-! ## Channels -/

def channelFlagCustom : BitVec 8 := 0x01
def channelFlagTrade : BitVec 8 := 0x04
def channelFlagNotLfg : BitVec 8 := 0x08
def channelFlagGeneral : BitVec 8 := 0x10
def channelFlagCity : BitVec 8 := 0x20
def channelFlagLfg : BitVec 8 := 0x40

def channelDbcFlagTrade : Nat := 0x00008
def channelDbcFlagCityOnly2 : Nat := 0x00020
def channelDbcFlagLfg : Nat := 0x40000

structure Channel where
  players : TreeMap Nat PlayerInfo := ∅
  banned : List Nat := []
  announce : Bool := true
  moderate : Bool := false
  password : String := ""
  flags : BitVec 8 := 0
  channelId : Nat
  ownerGUID : Nat := 0
  /-- To one player, or to all. -/
  sent : List (Option Nat × ChannelNotice) := []

namespace Channel

/-- The flags of a built-in channel from those of its entry. -/
def builtInFlags (dbc : Nat) : BitVec 8 :=
  channelFlagGeneral ||| (if dbc &&& channelDbcFlagTrade ≠ 0 then channelFlagTrade else 0) |||
    (if dbc &&& channelDbcFlagCityOnly2 ≠ 0 then channelFlagCity else 0) |||
    (if dbc &&& channelDbcFlagLfg ≠ 0 then channelFlagLfg else channelFlagNotLfg)

/-- `Channel::Channel`, with the flags of the entry of `ChatChannels.dbc` if there is one. -/
def opened (channelId : Nat) (entry : Option Nat) : Channel :=
  match entry with
  | some dbc => { announce := false, flags := builtInFlags dbc, channelId := channelId }
  | none => { flags := channelFlagCustom, channelId := channelId }

variable (c : Channel)

def isConstant : Bool := c.channelId != 0

def hasFlag (flag : BitVec 8) : Bool := c.flags &&& flag != 0

def isOn (who : Nat) : Bool := c.players.contains who

def isBanned (guid : Nat) : Bool := c.banned.contains guid

def sendToOne (who : Nat) (notice : ChannelNotice) : Channel := { c with sent := (some who, notice) :: c.sent }

def sendToAll (notice : ChannelNotice) : Channel := { c with sent := (none, notice) :: c.sent }

/-- `players[p]` -/
def info (p : Nat) : PlayerInfo := c.players[p]?.getD {}

/-- A change of `players[p]`. -/
def change (p : Nat) (f : PlayerInfo → PlayerInfo) : Channel :=
  { c with players := c.players.insert p (f (c.info p)) }

def getPlayerFlags (p : Nat) : BitVec 8 := (c.players[p]?.map PlayerInfo.flags).getD 0

/-- `SetModerator(uint64 p, bool set)` -/
def setModerator (p : Nat) (set : Bool) : Channel :=
  if (c.info p).isModerator ≠ set then
    let oldFlag := c.getPlayerFlags p
    let c := c.change p fun info => info.setModerator set
    c.sendToAll (.modeChange p oldFlag (c.getPlayerFlags p))
  else c

/-- `SetMute(uint64 p, bool set)` -/
def setMute (p : Nat) (set : Bool) : Channel :=
  if (c.info p).isMuted ≠ set then
    let oldFlag := c.getPlayerFlags p
    let c := c.change p fun info => info.setMuted set
    c.sendToAll (.modeChange p oldFlag (c.getPlayerFlags p))
  else c

/-- The flag of the old owner goes; `SetOwner` before it writes `m_ownerGUID`. -/
def unsetOwner : Channel :=
  if c.ownerGUID ≠ 0 ∧ c.isOn c.ownerGUID then c.change c.ownerGUID fun info => info.setOwner false else c

/-- `SetOwner(uint64 guid, bool exclaim)` -/
def setOwner (guid : Nat) (exclaim : Bool) : Channel :=
  let c := { c.unsetOwner with ownerGUID := guid }
  if guid ≠ 0 then
    let oldFlag := c.getPlayerFlags guid
    let c := (c.change guid fun info => info.setModerator true).change guid fun info => info.setOwner true
    let c := c.sendToAll (.modeChange guid oldFlag (c.getPlayerFlags guid))
    if exclaim then c.sendToAll (.ownerChanged guid) else c
  else c

/-- The owner has gone: `players[newowner].SetModerator(true); SetOwner(newowner);` -/
def handOver (newowner : Nat) : Channel := (c.change newowner fun info => info.setModerator true).setOwner newowner true

/-! ## Requests -/

variable (world : ChatWorld) (p : Nat)

/-- Who comes and who goes is announced, but for game masters who do so silently. -/
def announces : Bool :=
  c.announce && match world.findPlayer p with
    | some plr => plr.security < secGameMaster || !world.silentlyGmJoinToChannel
    | none => true

/-- `Join` refuses a player: what it tells him, or nothing. -/
def refuses (pass : String) : Option (Option ChannelNotice) :=
  if c.isOn p then some (if c.isConstant then none else some (.playerAlreadyMember p))
  else if c.isBanned p then some (some .banned)
  else if 0 < c.password.length ∧ pass ≠ c.password then some (some .wrongPassword)
  else
    match world.findPlayer p with
    | some plr =>
      if c.hasFlag channelFlagLfg ∧ world.restrictedLfgChannel ∧ plr.security = secPlayer ∧
          (plr.hasGroup ∨ !plr.lookingForGroup) then some (some .notInLfg)
      else if plr.guildId ≠ 0 ∧ c.flags = 0x38 then some none
      else none
    | none => none

/-- `Join` up to the new owner, of a player who is not refused. -/
def enter : Channel :=
  let c := if c.announces world p then c.sendToAll (.joined p) else c
  let c := { c with players := c.players.insert p { player := p, flags := memberFlagNone } }
  let c := c.sendToOne p .youJoined
  c.sendToAll (.userlistAdd p (c.getPlayerFlags p) c.flags c.players.size)

def join (pass : String) : Channel :=
  match c.refuses world p pass with
  | some (some notice) => c.sendToOne p notice
  | some none => c
  | none =>
    let c := c.enter world p
    if !c.isConstant ∧ c.ownerGUID = 0 then
      (c.setOwner p (decide (1 < c.players.size))).change p fun info => info.setModerator true
    else c

/-- `players.begin()->second.player`, or 0. -/
def firstPlayer : Nat := (c.players.toList.head?.map fun x => x.2.player).getD 0

/-- `Leave` of a member, up to the new owner. -/
def depart (send : Bool) : Channel :=
  let c := if send then c.sendToOne p .youLeft else c
  let c := { c with players := c.players.erase p }
  let c := if c.announces world p then c.sendToAll (.left p) else c
  c.sendToAll (.userlistRemove p c.flags c.players.size)

def leave (send : Bool) : Channel :=
  if !c.isOn p then if send then c.sendToOne p .notMember else c
  else
    let changeowner := (c.info p).isOwner
    let c := c.depart world p send
    if changeowner then c.handOver c.firstPlayer else c

/-- The checks with which `KickOrBan`, `UnBan`, `Password`, `Announce` and `Moderate` begin. -/
def asModerator (k : Channel) : Channel :=
  if !c.isOn p then c.sendToOne p .notMember
  else if !(c.info p).isModerator ∧ world.security p < secGameMaster then c.sendToOne p .notModerator
  else k

/-- `KickOrBan` up to the new owner, once `bad` is found and may be kicked. -/
def remove (good bad : Nat) (ban : Bool) : Channel :=
  let c :=
    if ban ∧ !c.isBanned bad then
      { c with banned := bad :: c.banned }.sendToAll (.playerBanned bad good)
    else c.sendToAll (.playerKicked bad good)
  { c with players := c.players.erase bad }

def kickOrBanPlayer (good bad : Nat) (ban : Bool) : Channel :=
  let changeowner := c.ownerGUID == bad
  let c := c.remove good bad ban
  if changeowner then c.handOver (if c.players.isEmpty then 0 else good) else c

def kickOrBan (good : Nat) (badname : String) (ban : Bool) : Channel :=
  c.asModerator world good <|
    match world.findPlayerByName badname with
    | some bad =>
      if !c.isOn bad.guid then c.sendToOne good (.playerNotFound badname)
      else if world.security good < secGameMaster ∧ bad.guid = c.ownerGUID ∧ good ≠ c.ownerGUID then
        c.sendToOne good .notOwner
      else c.kickOrBanPlayer good bad.guid ban
    | none => c.sendToOne good (.playerNotFound badname)

def unBan (good : Nat) (badname : String) : Channel :=
  c.asModerator world good <|
    match world.findPlayerByName badname with
    | some bad =>
      if !c.isBanned bad.guid then c.sendToOne good (.playerNotFound badname)
      else { c with banned := c.banned.filter (· != bad.guid) }.sendToAll (.playerUnbanned bad.guid good)
    | none => c.sendToOne good (.playerNotFound badname)

def setPassword (pass : String) : Channel :=
  c.asModerator world p ({ c with password := pass }.sendToAll (.passwordChanged p))

def setAnnounce : Channel :=
  c.asModerator world p <|
    if c.announce then { c with announce := false }.sendToAll (.announcementsOff p)
    else { c with announce := true }.sendToAll (.announcementsOn p)

def setModerate : Channel :=
  c.asModerator world p <|
    if c.moderate then { c with moderate := false }.sendToAll (.moderationOff p)
    else { c with moderate := true }.sendToAll (.moderationOn p)

/-- `SetMode` of a moderator, who is online. -/
def setModeOf (plr : Chatter) (p2n : String) (mod set : Bool) : Channel :=
  match world.findPlayerByName p2n with
  | none => c.sendToOne p (.playerNotFound p2n)
  | some newp =>
    if p = c.ownerGUID ∧ newp.guid = c.ownerGUID ∧ mod then c
    else if !c.isOn newp.guid then c.sendToOne p (.playerNotFound p2n)
    else if (plr.security < secGameMaster ∨ newp.security < secGameMaster) ∧ plr.team ≠ newp.team ∧
        !world.allowTwoSideInteractionChannel then c.sendToOne p (.playerNotFound p2n)
    else if c.ownerGUID = newp.guid ∧ c.ownerGUID ≠ p then c.sendToOne p .notOwner
    else if mod then c.setModerator newp.guid set
    else c.setMute newp.guid set

def setMode (p2n : String) (mod set : Bool) : Channel :=
  match world.findPlayer p with
  | none => c
  | some plr =>
    if !c.isOn p then c.sendToOne p .notMember
    else if !(c.info p).isModerator ∧ plr.security < secGameMaster then c.sendToOne p .notModerator
    else c.setModeOf world p plr p2n mod set

/-- `SetOwner(uint64 p, const char *newname)` -/
def setOwnerByName (newname : String) : Channel :=
  match world.findPlayer p with
  | none => c
  | some plr =>
    if !c.isOn p then c.sendToOne p .notMember
    else if plr.security < secGameMaster ∧ p ≠ c.ownerGUID then c.sendToOne p .notOwner
    else
      match world.findPlayerByName newname with
      | none => c.sendToOne p (.playerNotFound newname)
      | some newp =>
        if !c.isOn newp.guid then c.sendToOne p (.playerNotFound newname)
        else if newp.team ≠ plr.team ∧ !world.allowTwoSideInteractionChannel then
          c.sendToOne p (.playerNotFound newname)
        else (c.change newp.guid fun info => info.setModerator true).setOwner newp.guid true

end Channel

/-! ## Runs -/

inductive ChannelRequest where
  | join (pass : String)
  | leave (send : Bool)
  | kick (badname : String)
  | ban (badname : String)
  | unBan (badname : String)
  | password (pass : String)
  | setModerator (newname : String)
  | unsetModerator (newname : String)
  | setMute (newname : String)
  | unsetMute (newname : String)
  | setOwner (newname : String)
  | announce
  | moderate
  deriving DecidableEq, Repr

/-- A request of a player, in the world as it is then. -/
structure ChannelEvent where
  p : Nat
  p_pos : 0 < p
  world : ChatWorld
  request : ChannelRequest

def Channel.step (c : Channel) (e : ChannelEvent) : Channel :=
  match e.request with
  | .join pass => c.join e.world e.p pass
  | .leave send => c.leave e.world e.p send
  | .kick badname => c.kickOrBan e.world e.p badname false
  | .ban badname => c.kickOrBan e.world e.p badname true
  | .unBan badname => c.unBan e.world e.p badname
  | .password pass => c.setPassword e.world e.p pass
  | .setModerator newname => c.setMode e.world e.p newname true true
  | .unsetModerator newname => c.setMode e.world e.p newname true false
  | .setMute newname => c.setMode e.world e.p newname false true
  | .unsetMute newname => c.setMode e.world e.p newname false false
  | .setOwner newname => c.setOwnerByName e.world e.p newname
  | .announce => c.setAnnounce e.world e.p
  | .moderate => c.setModerate e.world e.p

end BlizzLike
