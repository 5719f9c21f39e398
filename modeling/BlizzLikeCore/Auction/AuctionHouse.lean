import BlizzLikeCore.Mail.PostOffice
import BlizzLikeCore.Times

/-!
# Auctions

`AuctionHouseMgr` with its item table and its three auction maps, the mails it sends and the
requests of `AuctionHouseHandler.cpp`.  The floating point parts of the deposit, of the cut and
of the auction time are functions of the configuration; the ids a database query returns are an
argument of `update`.
-/

namespace BlizzLike

def minAuctionTime : Nat := 12 * hour

def factionMaskAlliance : Nat := 2
def factionMaskHorde : Nat := 4

/-- The three `AuctionHouseObject`s. -/
inductive AuctionHouse where
  | horde
  | alliance
  | neutral
  deriving DecidableEq, Repr

/-- A row of `AuctionHouse.dbc`. -/
structure AuctionHouseEntry where
  houseId : Nat
  cutPercent : Nat
  deriving DecidableEq, Repr

structure AuctionEntry where
  id : Nat
  auctioneer : Nat := 0
  itemGuidlow : Nat
  itemTemplate : Nat
  owner : Nat
  startbid : Nat
  bid : Nat := 0
  buyout : Nat := 0
  expireTime : Nat
  bidder : Nat := 0
  deposit : Nat
  auctionHouseEntry : AuctionHouseEntry
  deriving DecidableEq, Repr

/-- What the auction code reads and never changes.  `ourMask` is `FactionTemplate.dbc`,
`auctionHouseStore` is `AuctionHouse.dbc`; `depositOf`, `auctionTime` and `cutOf` are the
floating point computations of `GetAuctionDeposit`, of the auction time and of
`GetAuctionCut`.  Low guids start at 1. -/
structure AuctionConfig extends MailConfig where
  allowTwoSideInteraction : Bool := false
  gmLogTrade : Bool := false
  ourMask : Nat → Option Nat := fun _ => none
  auctionHouseStore : Nat → Option AuctionHouseEntry
  depositOf : AuctionHouseEntry → Nat → Item → Nat
  auctionTime : Nat → Nat
  cutOf : Nat → Nat
  nobody : accountOf 0 = 0

/-- An auctioneer the player can interact with: his low guid and faction template. -/
structure Auctioneer where
  guid : Nat
  faction : Nat
  deriving DecidableEq, Repr

/-- `AuctionHouseMgr` and what its operations reach: mailboxes, purses, inventories and the
characters in the world.  An entry of `auctions` stands with the map it is in. -/
structure AuctionHouseMgr where
  post : PostOffice := {}
  mAitems : Nat → Bool := fun _ => false
  auctions : List (AuctionHouse × AuctionEntry) := []
  nextAuctionId : Nat := 1
  nextItemTextId : Nat := 1
  online : Nat → Bool := fun _ => false

/-! ## Houses -/

namespace AuctionConfig

variable (cfg : AuctionConfig) (faction : Nat)

def getAuctionsMap : AuctionHouse :=
  if cfg.allowTwoSideInteraction then .neutral
  else
    match cfg.ourMask faction with
    | none => .neutral
    | some mask =>
      if hasFlag mask factionMaskAlliance then .alliance
      else if hasFlag mask factionMaskHorde then .horde
      else .neutral

/-- The house of a faction template: 1 human, 2 dwarf, 3 night elf, 4 undead, 5 troll, 6 orc,
7 goblin. -/
def houseId : Nat :=
  if cfg.allowTwoSideInteraction then 7
  else
    match faction with
    | 12 => 1
    | 29 => 6
    | 55 => 2
    | 68 => 4
    | 80 => 3
    | 104 => 5
    | 120 => 7
    | 474 => 7
    | 855 => 7
    | 1604 => 6
    | _ =>
      match cfg.ourMask faction with
      | none => 7
      | some mask =>
        if hasFlag mask factionMaskAlliance then 1
        else if hasFlag mask factionMaskHorde then 6
        else 7

def getAuctionHouseEntry : Option AuctionHouseEntry := cfg.auctionHouseStore (cfg.houseId faction)

def getAuctionDeposit (entry : AuctionHouseEntry) (time : Nat) (it : Item) : Nat :=
  u32 (cfg.depositOf entry time it)

end AuctionConfig

namespace AuctionEntry

variable (a : AuctionEntry)

/-- `GetAuctionCut`: the product of percentage and bid is a `uint32`, the rest is floating point. -/
def getAuctionCut (cfg : AuctionConfig) : Nat := u32 (cfg.cutOf (u32 (a.auctionHouseEntry.cutPercent * a.bid)))

/-- `GetAuctionOutBid`: five times 1% of the bid, at least 1. -/
def getAuctionOutBid : Nat := if a.bid / 100 * 5 = 0 then 1 else a.bid / 100 * 5

/-- What a successful auction pays its owner. -/
def profit (cfg : AuctionConfig) : Nat := sub32 (u32 (a.bid + a.deposit)) (a.getAuctionCut cfg)

end AuctionEntry

namespace AuctionHouseMgr

variable (cfg : AuctionConfig) (w : AuctionHouseMgr)

/-! ## Tables -/

/-- `GetAuction` of one map. -/
def getAuction (house : AuctionHouse) (id : Nat) : Option AuctionEntry :=
  (w.auctions.find? fun e => e.1 == house && e.2.id == id).map Prod.snd

def addAItem (g : Nat) : AuctionHouseMgr := { w with mAitems := Function.update w.mAitems g true }

def removeAItem (g : Nat) : AuctionHouseMgr := { w with mAitems := Function.update w.mAitems g false }

def addAuction (house : AuctionHouse) (a : AuctionEntry) : AuctionHouseMgr :=
  { w with auctions := (house, a) :: w.auctions }

def removeAuction (house : AuctionHouse) (a : AuctionEntry) : AuctionHouseMgr :=
  { w with auctions := w.auctions.filter fun e => !(e.1 == house && e.2.id == a.id) }

/-- A new bidder and bid, written to the entry. -/
def setBid (house : AuctionHouse) (id bidder bid : Nat) : AuctionHouseMgr :=
  { w with
    auctions := w.auctions.map fun e =>
      if e.1 = house ∧ e.2.id = id then (e.1, { e.2 with bidder := bidder, bid := bid }) else e }

/-- `ModifyMoney` of an amount the player pays. -/
def pay (pl amount : Nat) : AuctionHouseMgr :=
  { w with
    post := { w.post with
      money := Function.update w.post.money pl (modifyMoney (w.post.money pl) (-toInt32 amount)) } }

/-! ## Mails -/

def createItemText : AuctionHouseMgr := { w with nextItemTextId := w.nextItemTextId + 1 }

/-- `SendMailTo` with the auction as sender. -/
def sendMail (rc : Nat) (a : AuctionEntry) (draft : MailDraft) (deliverDelay : Nat) : AuctionHouseMgr :=
  { w with
    post := w.post.sendMailTo cfg.toMailConfig rc .auction a.auctionHouseEntry.houseId draft
      mailCheckMaskCopied deliverDelay }

/-- The character is in the world or has an account. -/
def receiverExists (rc : Nat) : Bool := w.online rc || cfg.accountOf rc != 0

/-- The bid goes back to its bidder. -/
def mailBidBack (a : AuctionEntry) : AuctionHouseMgr :=
  if w.receiverExists cfg a.bidder then w.sendMail cfg a.bidder a { money := a.bid } 0 else w

def sendAuctionOutbiddedMail (a : AuctionEntry) : AuctionHouseMgr := w.mailBidBack cfg a

def sendAuctionCancelledToBidderMail (a : AuctionEntry) : AuctionHouseMgr := w.mailBidBack cfg a

/-- `SendAuctionWonMail`: the bidder's account is looked up with the data for the GM log only. -/
def sendAuctionWonMail (a : AuctionEntry) : AuctionHouseMgr :=
  if w.mAitems a.itemGuidlow = false then w
  else
    let bidderAccId := if cfg.gmLogTrade then cfg.accountOf a.bidder else 0
    if w.online a.bidder ∨ bidderAccId ≠ 0 then
      w.createItemText.sendMail cfg a.bidder a
        { bodyId := w.nextItemTextId, items := [a.itemGuidlow] } 0
    else w

def sendAuctionSalePendingMail (a : AuctionEntry) : AuctionHouseMgr :=
  if w.receiverExists cfg a.owner then
    w.createItemText.sendMail cfg a.owner a { bodyId := w.nextItemTextId } 0
  else w

def sendAuctionSuccessfulMail (a : AuctionEntry) : AuctionHouseMgr :=
  if w.receiverExists cfg a.owner then
    w.createItemText.sendMail cfg a.owner a
      { bodyId := w.nextItemTextId, money := a.profit cfg } hour
  else w

def sendAuctionExpiredMail (a : AuctionEntry) : AuctionHouseMgr :=
  if w.mAitems a.itemGuidlow = false then w
  else if w.receiverExists cfg a.owner then w.sendMail cfg a.owner a { items := [a.itemGuidlow] } 0
  else w

/-- "Now remove the auction". -/
def clearAuction (house : AuctionHouse) (a : AuctionEntry) : AuctionHouseMgr :=
  (w.removeAItem a.itemGuidlow).removeAuction house a

/-! ## Requests -/

/-- The checks of `HandleAuctionSellItem` on the item; `allowed` is the outcome of those of
`CanBeTraded` that look at combat, loot windows and enchantments. -/
def canAuction (it : Nat) (allowed : Bool) : Bool :=
  w.post.inv.itemCanBeTraded cfg.om it && allowed &&
    !hasFlag (w.post.inv.items it).flags itemFlagsConjured && (w.post.inv.items it).duration == 0 &&
    !((w.post.inv.items it).isBag cfg.om && !(w.post.inv.items it).isEmpty)

/-- The new auction of `HandleAuctionSellItem`. -/
def newAuction (pl it : Nat) (npc : Auctioneer) (houseEntry : AuctionHouseEntry)
    (bid buyout etime deposit : Nat) : AuctionEntry :=
  { id := w.nextAuctionId, auctioneer := if cfg.allowTwoSideInteraction then 23442 else npc.guid
    itemGuidlow := it, itemTemplate := (w.post.inv.items it).entry, owner := pl, startbid := bid
    buyout := buyout, expireTime := w.post.time + cfg.auctionTime etime, deposit := deposit
    auctionHouseEntry := houseEntry }

/-- The end of `HandleAuctionSellItem`, after all checks. -/
def putUp (pl it : Nat) (npc : Auctioneer) (houseEntry : AuctionHouseEntry) (bid buyout etime deposit : Nat) :
    AuctionHouseMgr :=
  let w1 := ((w.pay pl deposit).addAItem it).addAuction (cfg.getAuctionsMap npc.faction)
    (w.newAuction cfg pl it npc houseEntry bid buyout etime deposit)
  let inv := w1.post.inv
  { w1 with
    nextAuctionId := w.nextAuctionId + 1
    post := { w1.post with
      inv := inv.moveItemFromInventory pl (inv.getBagSlot it) (inv.items it).slot } }

def handleAuctionSellItem (pl : Nat) (npc : Option Auctioneer) (item bid buyout etime : Nat)
    (allowed : Bool) : AuctionHouseMgr :=
  let time := u32 (etime * minute)
  if item = 0 ∨ bid = 0 ∨ etime = 0 then w
  else
    match npc with
    | none => w
    | some npc =>
      match cfg.getAuctionHouseEntry npc.faction with
      | none => w
      | some houseEntry =>
        if ¬(time = 1 * minAuctionTime ∨ time = 2 * minAuctionTime ∨ time = 4 * minAuctionTime) then w
        else if w.mAitems item then w
        else
          match w.post.inv.getItemByGuid pl item with
          | none => w
          | some it =>
            let deposit := cfg.getAuctionDeposit houseEntry time (w.post.inv.items it)
            if w.canAuction cfg it allowed = false then w
            else if w.post.money pl < deposit then w
            else w.putUp cfg pl it npc houseEntry bid buyout time deposit

/-- A bid below the buyout price. -/
def bidOn (pl : Nat) (house : AuctionHouse) (a : AuctionEntry) (price : Nat) : AuctionHouseMgr :=
  let w1 :=
    if a.bidder > 0 then
      if a.bidder = pl then w.pay pl (sub32 price a.bid)
      else (w.sendAuctionOutbiddedMail cfg a).pay pl price
    else w.pay pl price
  w1.setBid house a.id pl price

/-- A bid of at least the buyout price. -/
def buyOut (pl : Nat) (house : AuctionHouse) (a : AuctionEntry) : AuctionHouseMgr :=
  let w1 :=
    if pl = a.bidder then w.pay pl (sub32 a.buyout a.bid)
    else
      let v := w.pay pl a.buyout
      if a.bidder ≠ 0 then v.sendAuctionOutbiddedMail cfg a else v
  let b := { a with bidder := pl, bid := a.buyout }
  let w2 := w1.setBid house a.id pl a.buyout
  (((w2.sendAuctionSalePendingMail cfg b).sendAuctionSuccessfulMail cfg b).sendAuctionWonMail cfg
    b).clearAuction house b

def handleAuctionPlaceBid (pl : Nat) (npc : Option Auctioneer) (auctionId price : Nat) : AuctionHouseMgr :=
  if auctionId = 0 ∨ price = 0 then w
  else
    match npc with
    | none => w
    | some npc =>
      let house := cfg.getAuctionsMap npc.faction
      match w.getAuction house auctionId with
      | none => w
      | some a =>
        if a.owner = pl then w
        else if w.online a.owner = false ∧ cfg.accountOf a.owner = cfg.accountOf pl then w
        else if price ≤ a.bid ∨ price < a.startbid then w
        else if (price < a.buyout ∨ a.buyout = 0) ∧ price < u32 (a.bid + a.getAuctionOutBid) then w
        else if price > w.post.money pl then w
        else if price < a.buyout ∨ a.buyout = 0 then w.bidOn cfg pl house a price
        else w.buyOut cfg pl house a

/-- The rest of `HandleAuctionRemoveItem` once the bidder has his money back. -/
def giveBack (pl : Nat) (house : AuctionHouse) (a : AuctionEntry) : AuctionHouseMgr :=
  (w.sendMail cfg pl a { items := [a.itemGuidlow] } 0).clearAuction house a

def handleAuctionRemoveItem (pl : Nat) (npc : Option Auctioneer) (auctionId : Nat) : AuctionHouseMgr :=
  match npc with
  | none => w
  | some npc =>
    let house := cfg.getAuctionsMap npc.faction
    match w.getAuction house auctionId with
    | none => w
    | some a =>
      if a.owner ≠ pl then w
      else if w.mAitems a.itemGuidlow = false then w
      else if a.bidder > 0 then
        let auctionCut := a.getAuctionCut cfg
        if w.post.money pl < auctionCut then w
        else ((w.sendAuctionCancelledToBidderMail cfg a).pay pl auctionCut).giveBack cfg pl house a
      else w.giveBack cfg pl house a

/-- One expired auction of `Update`. -/
def endAuction (house : AuctionHouse) (a : AuctionEntry) : AuctionHouseMgr :=
  (if a.bidder = 0 then w.sendAuctionExpiredMail cfg a
    else (w.sendAuctionSuccessfulMail cfg a).sendAuctionWonMail cfg a).clearAuction house a

/-- The loop of `Update` over the ids the query returned. -/
def endExpired (house : AuctionHouse) : List Nat → AuctionHouseMgr → AuctionHouseMgr
  | [], w => w
  | id :: expiredAuctions, w =>
    match w.getAuction house id with
    | none => endExpired house expiredAuctions w
    | some a => endExpired house expiredAuctions (w.endAuction cfg house a)

def update (house : AuctionHouse) (result : List Nat) : AuctionHouseMgr :=
  if w.auctions.all (fun e => e.1 != house) then w else endExpired cfg house result w

end AuctionHouseMgr

/-- The requests at the auction house, each with the auctioneer it was made to when he can be
interacted with, and what else happens. -/
inductive AuctionRequest where
  | sellItem (pl : Nat) (npc : Option Auctioneer) (item bid buyout etime : Nat) (allowed : Bool)
  | placeBid (pl : Nat) (npc : Option Auctioneer) (auctionId price : Nat)
  | removeItem (pl : Nat) (npc : Option Auctioneer) (auctionId : Nat)
  | update (house : AuctionHouse) (result : List Nat)
  | login (pl : Nat)
  | logout (pl : Nat)
  | tick (diff : Nat)

namespace AuctionHouseMgr

/-- One request; only characters in the world make any, and the numbers of a packet are
`uint32`. -/
def step (cfg : AuctionConfig) (w : AuctionHouseMgr) : AuctionRequest → AuctionHouseMgr
  | .sellItem pl npc item bid buyout etime allowed =>
    if w.online pl then w.handleAuctionSellItem cfg pl npc item (u32 bid) (u32 buyout) (u32 etime) allowed
    else w
  | .placeBid pl npc auctionId price =>
    if w.online pl then w.handleAuctionPlaceBid cfg pl npc (u32 auctionId) (u32 price) else w
  | .removeItem pl npc auctionId =>
    if w.online pl then w.handleAuctionRemoveItem cfg pl npc (u32 auctionId) else w
  | .update house result => w.update cfg house result
  | .login pl => if cfg.accountOf pl ≠ 0 then { w with online := Function.update w.online pl true } else w
  | .logout pl => { w with online := Function.update w.online pl false }
  | .tick diff => { w with post := { w.post with time := w.post.time + diff } }

end AuctionHouseMgr

end BlizzLike
