import BlizzLikeCore.Inventory.Transfer
import BlizzLikeCore.Money

/-!
# Mail

The mailboxes of all characters and the mail requests of `Mail.cpp`.  A mailbox is what
`_LoadMail` reads: the mails in `m_mail` and the item objects in `mMitems`.  A mail sent to a
character who is offline is a row that `_LoadMail` turns into the same entry, so it is put
into his mailbox at once.

Two ledgers are kept beside the state and read by no handler: the COD each mail was sent with
and the COD payments made, and the items taken.
-/

namespace BlizzLike

inductive MailMessageType where
  | normal
  | auction
  | creature
  | gameobject
  | item
  deriving DecidableEq, Repr

inductive MailState where
  | unchanged
  | changed
  | deleted
  deriving DecidableEq, Repr

def mailCheckMaskRead : Nat := 0x01
def mailCheckMaskReturned : Nat := 0x02
def mailCheckMaskCopied : Nat := 0x04
def mailCheckMaskCodPayment : Nat := 0x08
def mailCheckMaskHasBody : Nat := 0x10

def maxMailItems : Nat := 12

def mailBodyItemTemplate : Nat := 8383

/-- `Mail`; attached items by low guid. -/
structure Mail where
  messageID : Nat
  messageType : MailMessageType
  mailTemplateId : Nat := 0
  sender : Nat
  receiver : Nat
  itemTextId : Nat := 0
  items : List Nat := []
  removedItems : List Nat := []
  deliverTime : Nat
  money : Nat := 0
  cod : Nat := 0
  checked : Nat := 0
  state : MailState := .unchanged
  deriving DecidableEq, Repr

/-- `MailDraft`; the guids are the keys of its item map. -/
structure MailDraft where
  mailTemplateId : Nat := 0
  bodyId : Nat := 0
  items : List Nat := []
  money : Nat := 0
  cod : Nat := 0

/-- What the handlers read and never change: the account of a character (0 when there is no
such character), the auction bot's character and the delivery delay. -/
structure MailConfig where
  om : ObjectMgr
  accountOf : Nat → Nat
  ahbplayerGUID : Nat
  mailDeliveryDelay : Nat

/-- A COD payment that was mailed for a mail. -/
structure CodPayment where
  mail : Nat
  payer : Nat
  payee : Nat
  amount : Nat
  deriving DecidableEq, Repr

/-- An item moved out of a mailbox by a take request for `mail`. -/
structure Taken where
  player : Nat
  mail : Nat
  item : Nat
  deriving DecidableEq, Repr

structure PostOffice where
  time : Nat := 0
  inv : Holdings := {}
  money : Nat → Nat := fun _ => 0
  mails : Nat → List Mail := fun _ => []
  mMitems : Nat → Nat → Bool := fun _ _ => false
  nextMailId : Nat := 1
  codSent : Nat → Nat := fun _ => 0
  payments : List CodPayment := []
  taken : List Taken := []

namespace Holdings

/-- The positions `GetItemByGuid` goes through: all but the bank slots of the player himself. -/
def guidPositions : List (Nat × Nat) :=
  (List.range inventorySlotItemEnd ++ List.range' 86 32).map (fun slot => (inventorySlotBag0, slot)) ++
    (List.range' 19 4 ++ List.range' 67 7).flatMap fun bag =>
      (List.range maxBagSize).map fun slot => (bag, slot)

def getItemByGuid (h : Holdings) (pl guid : Nat) : Option Nat :=
  if guidPositions.any fun p => h.getItemByPos pl p.1 p.2 == some guid then some guid else none

/-- The part of `CanBeTraded` that looks at the item itself. -/
def itemCanBeTraded (om : ObjectMgr) (h : Holdings) (g : Nat) : Bool :=
  !(h.items g).lootGenerated && !(h.items g).isSoulBound &&
    !((h.items g).isBag om && (isBagPos (h.getBagSlot g) (h.items g).slot || !(h.items g).isEmpty))

/-- `deleteIncludedItems`. -/
def deleteItems (h : Holdings) (gs : List Nat) : Holdings := gs.foldl deleteItem h

end Holdings

namespace PostOffice

variable (cfg : MailConfig) (w : PostOffice) (pl : Nat)

/-! ## Mailboxes -/

def getMail (mailId : Nat) : Option Mail := (w.mails pl).find? fun m => m.messageID == mailId

/-- Change a mail in place. -/
def updateMail (mailId : Nat) (f : Mail → Mail) : PostOffice :=
  { w with
    mails := Function.update w.mails pl
      ((w.mails pl).map fun m => if m.messageID = mailId then f m else m) }

def removeMail (mailId : Nat) : PostOffice :=
  { w with mails := Function.update w.mails pl ((w.mails pl).eraseP fun m => m.messageID == mailId) }

def removeMItem (g : Nat) : PostOffice :=
  { w with mMitems := fun p i => if p = pl ∧ i = g then false else w.mMitems p i }

/-- The mail `SendMailTo` makes of a draft. -/
def newMail (rc : Nat) (messageType : MailMessageType) (senderId : Nat) (draft : MailDraft)
    (checked deliverDelay : Nat) : Mail :=
  { messageID := w.nextMailId, messageType := messageType, mailTemplateId := draft.mailTemplateId
    sender := senderId, receiver := rc, itemTextId := draft.bodyId, items := draft.items
    deliverTime := w.time + deliverDelay, money := draft.money, cod := draft.cod, checked := checked }

def sendMailTo (rc : Nat) (messageType : MailMessageType) (senderId : Nat) (draft : MailDraft)
    (checked deliverDelay : Nat) : PostOffice :=
  if rc = cfg.ahbplayerGUID then
    if messageType = .auction ∧ draft.items ≠ [] then { w with inv := w.inv.deleteItems draft.items }
    else w
  else
    { w with
      mails := Function.update w.mails rc
        (w.newMail rc messageType senderId draft checked deliverDelay :: w.mails rc)
      mMitems := fun p i => if p = rc ∧ i ∈ draft.items then true else w.mMitems p i
      nextMailId := w.nextMailId + 1
      codSent := Function.update w.codSent w.nextMailId draft.cod }

/-- A mail to a character is put into a mailbox: he exists and is not the auction bot's. -/
def Reaches (cfg : MailConfig) (rc : Nat) : Prop := cfg.accountOf rc ≠ 0 ∧ rc ≠ cfg.ahbplayerGUID

def sendReturnToSender (senderAcc senderGuid receiverGuid : Nat) (draft : MailDraft) : PostOffice :=
  if cfg.accountOf receiverGuid = 0 then { w with inv := w.inv.deleteItems draft.items }
  else
    let deliverDelay :=
      if draft.items ≠ [] ∧ senderAcc ≠ cfg.accountOf receiverGuid then cfg.mailDeliveryDelay else 0
    w.sendMailTo cfg receiverGuid .normal senderGuid draft mailCheckMaskReturned deliverDelay

def saveMail : PostOffice :=
  { w with
    mails := Function.update w.mails pl
      (((w.mails pl).map fun m =>
        if m.state = .changed then { m with removedItems := [], state := .unchanged } else m).filter
          fun m => m.state ≠ .deleted) }

/-! ## Requests -/

/-- The mail can be opened: it is there, not deleted and delivered. -/
def openMail (mailId : Nat) : Option Mail :=
  match w.getMail pl mailId with
  | none => none
  | some m => if m.state = .deleted ∨ m.deliverTime > w.time then none else some m

/-- The attachment checks of `HandleSendMail`; `allowed g` is the outcome of those that look at
combat, loot windows and enchantments. -/
def canAttach (cod : Nat) (allowed : Nat → Bool) (g : Nat) : Bool :=
  g != 0 && w.inv.getItemByGuid pl g == some g && w.inv.itemCanBeTraded cfg.om g && allowed g &&
    !hasFlag (w.inv.items g).flags itemFlagsConjured && (w.inv.items g).duration == 0 &&
    !(cod != 0 && hasFlag (w.inv.items g).flags itemFlagsWrapped) &&
    !((w.inv.items g).isBag cfg.om && !(w.inv.items g).isEmpty)

/-- The postage of `n` attached items. -/
def mailCost (n : Nat) : Nat := if n ≠ 0 then 30 * n else 30

/-- `HandleSendMail` to character `rc` (0 when the name is unknown); `allowed` as in
`canAttach`, `sameTeam` is the outcome of the faction check. -/
def handleSendMail (rc : Nat) (itemGUIDs : List Nat) (money cod bodyId : Nat) (sameTeam : Bool)
    (allowed : Nat → Bool) : PostOffice :=
  let reqmoney := u32 (mailCost itemGUIDs.length + money)
  if itemGUIDs.length > maxMailItems then w
  else if rc = 0 ∨ pl = rc then w
  else if w.money pl < reqmoney then w
  else if u8 (w.mails rc).length > 100 ∨ sameTeam = false then w
  else if itemGUIDs.all (w.canAttach cfg pl cod allowed) = false then w
  else
    let w1 := { w with money := Function.update w.money pl (modifyMoney (w.money pl) (-toInt32 reqmoney)) }
    let inv := itemGUIDs.foldl
      (fun h g => h.moveItemFromInventory pl (h.getBagSlot g) (h.items g).slot) w1.inv
    let draft : MailDraft := { bodyId := bodyId, items := itemGUIDs.dedup, money := money, cod := cod }
    let deliverDelay :=
      if itemGUIDs ≠ [] ∧ cfg.accountOf pl ≠ cfg.accountOf rc then cfg.mailDeliveryDelay else 0
    { w1 with inv := inv }.sendMailTo cfg rc .normal pl draft
      (if bodyId = 0 then mailCheckMaskCopied else mailCheckMaskHasBody) deliverDelay

def handleMarkAsRead (mailId : Nat) : PostOffice :=
  match w.getMail pl mailId with
  | none => w
  | some _ => w.updateMail pl mailId fun m =>
    { m with checked := m.checked ||| mailCheckMaskRead, state := .changed }

def handleMailDelete (mailId : Nat) : PostOffice :=
  match w.getMail pl mailId with
  | none => w
  | some m => if m.cod ≠ 0 then w else w.updateMail pl mailId fun m => { m with state := .deleted }

def handleReturnToSender (mailId : Nat) : PostOffice :=
  match w.openMail pl mailId with
  | none => w
  | some m =>
    let w1 := w.removeMail pl mailId
    if m.messageType = .normal ∧ m.sender ≠ 0 then
      let items := (m.items.filter fun g => w.mMitems pl g).dedup
      let w2 := m.items.foldl (fun v g => v.removeMItem pl g) w1
      w2.sendReturnToSender cfg (cfg.accountOf pl) m.receiver m.sender
        { mailTemplateId := m.mailTemplateId, bodyId := if m.mailTemplateId ≠ 0 then 0 else m.itemTextId
          items := items, money := m.money }
    else w1

/-- The COD of a mail is charged to the taker and mailed to the sender, when he still exists. -/
def payCod (m : Mail) : PostOffice :=
  if m.cod > 0 then
    let w1 :=
      if cfg.accountOf m.sender ≠ 0 then
        let v := w.sendMailTo cfg m.sender .normal m.receiver { money := m.cod } mailCheckMaskCodPayment 0
        if m.sender = cfg.ahbplayerGUID then v
        else { v with payments := ⟨m.messageID, pl, m.sender, m.cod⟩ :: v.payments }
      else w
    { w1 with money := Function.update w1.money pl (modifyMoney (w1.money pl) (-toInt32 m.cod)) }
  else w

/-- `HandleTakeItem`: the mail is found by `mailId`, the item by `itemId` in `mMitems`. -/
def handleTakeItem (mailId itemId : Nat) : PostOffice :=
  match w.openMail pl mailId with
  | none => w
  | some m =>
    if w.money pl < m.cod then w
    else if w.mMitems pl itemId = false then w
    else
      let r := w.inv.canStoreItem cfg.om pl nullBag nullSlot (w.inv.items itemId).entry
        (w.inv.items itemId).count (some itemId) false
      if r.res = .ok then
        let w1 := w.updateMail pl mailId fun m =>
          { m with items := m.items.erase itemId, removedItems := m.removedItems ++ [itemId] }
        let w2 := (w1.payCod cfg pl m).updateMail pl mailId fun m => { m with cod := 0, state := .changed }
        let w3 := w2.removeMItem pl itemId
        { w3 with
          inv := w3.inv.moveItemToInventory cfg.om pl r.dest itemId false
          taken := ⟨pl, mailId, itemId⟩ :: w3.taken }.saveMail pl
      else w

def handleTakeMoney (mailId : Nat) : PostOffice :=
  match w.openMail pl mailId with
  | none => w
  | some m =>
    let w1 := { w with money := Function.update w.money pl (modifyMoney (w.money pl) (toInt32 m.money)) }
    (w1.updateMail pl mailId fun m => { m with money := 0, state := .changed }).saveMail pl

def handleMailCreateTextItem (mailId : Nat) : PostOffice :=
  match w.openMail pl mailId with
  | none => w
  | some m =>
    if m.itemTextId = 0 ∧ m.mailTemplateId = 0 then w
    else
      match w.inv.createItem cfg.om pl mailBodyItemTemplate 1 with
      | none => w
      | some (bodyItem, inv) =>
        let r := inv.canStoreItem cfg.om pl nullBag nullSlot (inv.items bodyItem).entry
          (inv.items bodyItem).count (some bodyItem) false
        if r.res = .ok then
          { w with inv := (Holdings.storeItem cfg.om pl bodyItem r.dest (some bodyItem, inv)).2 }.updateMail pl
            mailId fun m => { m with checked := m.checked ||| mailCheckMaskCopied, state := .changed }
        else { w with inv := inv.deleteItem bodyItem }

/-- A mail of another system (auctions, quests, creatures) with one new item. -/
def serverMail (rc : Nat) (messageType : MailMessageType) (senderId entry count deliverDelay : Nat) :
    PostOffice :=
  match w.inv.createItem cfg.om rc entry count with
  | none => w
  | some (g, inv) =>
    { w with inv := inv }.sendMailTo cfg rc messageType senderId { items := [g] } 0 deliverDelay

end PostOffice

/-- The requests of the clients, each with the outcome of the mailbox distance check, and what
else happens to mailboxes. -/
inductive MailRequest where
  | sendMail (pl rc : Nat) (itemGUIDs : List Nat) (money cod bodyId : Nat) (sameTeam : Bool)
      (allowed : Nat → Bool)
  | markAsRead (pl mailId : Nat)
  | mailDelete (pl mailId : Nat)
  | returnToSender (pl mailId : Nat)
  | takeItem (pl mailId itemId : Nat)
  | takeMoney (pl mailId : Nat)
  | createTextItem (pl mailId : Nat)
  | saveMail (pl : Nat)
  | serverMail (rc : Nat) (messageType : MailMessageType) (senderId entry count deliverDelay : Nat)
  | tick (diff : Nat)

namespace PostOffice

/-- One request at the mailbox; the amounts of a packet are `uint32`. -/
def step (cfg : MailConfig) (w : PostOffice) : MailRequest → PostOffice
  | .sendMail pl rc itemGUIDs money cod bodyId sameTeam allowed =>
    w.handleSendMail cfg pl rc itemGUIDs (u32 money) (u32 cod) bodyId sameTeam allowed
  | .markAsRead pl mailId => w.handleMarkAsRead pl mailId
  | .mailDelete pl mailId => w.handleMailDelete pl mailId
  | .returnToSender pl mailId => w.handleReturnToSender cfg pl mailId
  | .takeItem pl mailId itemId => w.handleTakeItem cfg pl mailId itemId
  | .takeMoney pl mailId => w.handleTakeMoney pl mailId
  | .createTextItem pl mailId => w.handleMailCreateTextItem cfg pl mailId
  | .saveMail pl => w.saveMail pl
  | .serverMail rc messageType senderId entry count deliverDelay =>
    w.serverMail cfg rc messageType senderId entry count deliverDelay
  | .tick diff => { w with time := w.time + diff }

end PostOffice

end BlizzLike
