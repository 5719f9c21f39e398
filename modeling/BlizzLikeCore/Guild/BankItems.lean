import BlizzLikeCore.Guild.BankMoney
import BlizzLikeCore.Mail.PostOffice

/-!
# The items of a guild bank

The tabs of a guild bank, each of 98 slots, and `HandleGuildBankDepositItem`, which moves items
between two slots of the bank and between the bank and a member's inventory.  What a member may
do on a tab depends on the rights of his rank there; what he takes is limited by a number a day.

A tab that is not in the list, or is a null pointer in it, makes the handler read outside of the
list: these runs are `none`.

Left out: what is sent, the log of game masters, quests, and the database.
-/

namespace BlizzLike

def guildBankMaxSlots : Nat := 98

def guildBankMaxTabs : Nat := 6

def guildBankRightViewTab : Nat := 0x01
def guildBankRightDepositItem : Nat := 0x03
def guildBankRightFull : Nat := 0xFF
def withdrawSlotUnlimited : Nat := 0xFFFFFFFF

/-- The codes of `InventoryChangeFailure` that `Guild::CanStoreItem` returns. -/
inductive TabStoreErr where
  | ok
  | itemCantStack
  | couldntSplitItems
  | cantDropSoulbound
  | bankFull
  deriving DecidableEq, Repr

/-- `RankInfo`, its rights to the tabs. -/
structure RankTabs where
  tabRight : Nat → Nat
  tabSlotPerDay : Nat → Nat

/-- `MemberSlot` of a guild, what it keeps of the tabs.  `granted` and `taken` are the books of the day of
a tab that began at its reset time: what the rank granted then, and how many items the bank's log
has since that the member took out of the tab. -/
structure TabMember where
  rankId : Nat
  bankResetTimeTab : Nat → Nat := fun _ => 0
  bankRemSlotsTab : Nat → Nat := fun _ => 0
  granted : Nat → Nat := bankRemSlotsTab
  taken : Nat → Nat := fun _ => 0

/-- `GuildBankTab`: its slots. -/
abbrev GuildBankTab := Nat → Option Nat

/-- `GuildBankEvent`, those about items. -/
inductive BankEvent where
  | depositItem (guid tab entry count : Nat)
  | withdrawItem (guid tab entry count : Nat)
  | moveItem (guid tab entry count destTab : Nat)
  deriving DecidableEq, Repr

namespace BankEvent

def guid : BankEvent → Nat
  | depositItem guid _ _ _ | withdrawItem guid _ _ _ | moveItem guid _ _ _ _ => guid

/-- An item leaves a tab, to an inventory or another tab. -/
def takesFrom : BankEvent → Nat → Bool
  | depositItem _ _ _ _, _ => false
  | withdrawItem _ tab _ _, t => tab == t
  | moveItem _ tab _ _ destTab, t => tab == t && destTab != t

/-- An item comes into a tab, from an inventory or another tab. -/
def putsInto : BankEvent → Nat → Bool
  | depositItem _ tab _ _, t => tab == t
  | withdrawItem _ _ _ _, _ => false
  | moveItem _ tab _ _ destTab, t => destTab == t && tab != t

end BankEvent

/-- A `Guild` with the items of its bank, and the inventories.  The log is kept whole. -/
structure ItemBank where
  inv : Holdings := {}
  tabListMap : List (Option GuildBankTab) := []
  ranks : List RankTabs := []
  members : Nat → Option TabMember := fun _ => none
  bankEventLog : List BankEvent := []

/-- The circumstances of a request: who sends it and when, if he can use the bank he names and is in
the guild, who is online, and the outcome of the checks of `CanBeTraded` that look at loot windows
and enchantments. -/
structure BankVisit where
  pl : Nat
  now : Nat
  nearBank : Bool := true
  inGuild : Bool := true
  online : Nat → Bool := fun _ => false
  tradable : Nat → Bool := fun _ => true

/-- `CMSG_GUILD_BANK_SWAP_ITEMS`: with `BankToBank`, with `AutoStore`, and with neither. -/
inductive SwapItems where
  | bankToBank (bankTabDst bankTabSlotDst bankTab bankTabSlot splitedAmount : UInt8)
  | autoStore (bankTab bankTabSlot : UInt8)
  | withChar (bankTab bankTabSlot playerBag playerSlot toChar splitedAmount : UInt8)

/-! ## Rights -/

def getBankRights (ranks : List RankTabs) (rankId tab : Nat) : Nat :=
  if tab ≥ guildBankMaxTabs then 0 else (ranks[rankId]?.map fun r => r.tabRight tab).getD 0

def getBankSlotPerDay (ranks : List RankTabs) (rankId tab : Nat) : Nat :=
  if tab ≥ guildBankMaxTabs then 0
  else
    match ranks[rankId]? with
    | none => 0
    | some r => if rankId = grGuildMaster then withdrawSlotUnlimited else r.tabSlotPerDay tab

namespace TabMember

variable (ranks : List RankTabs) (m : TabMember) (tab now : Nat)

/-- `IsMemberHaveRights` of a member. -/
def hasRights (rights : Nat) : Bool :=
  m.rankId == grGuildMaster || getBankRights ranks m.rankId tab &&& rights == rights

/-- A new day begins for the member at a tab. -/
def newDay : TabMember :=
  let rem := getBankSlotPerDay ranks m.rankId tab
  { m with
    bankResetTimeTab := Function.update m.bankResetTimeTab tab (u32 now)
    bankRemSlotsTab := Function.update m.bankRemSlotsTab tab rem
    granted := Function.update m.granted tab rem
    taken := Function.update m.taken tab 0 }

/-- `GetMemberSlotWithdrawRem` of a member, at a minute. -/
def slotWithdrawRem : TabMember × Nat :=
  if m.rankId = grGuildMaster then (m, withdrawSlotUnlimited)
  else if getBankRights ranks m.rankId tab &&& guildBankRightViewTab ≠ guildBankRightViewTab then (m, 0)
  else if sub32 (u32 now) (m.bankResetTimeTab tab) ≥ dayMinutes then
    (m.newDay ranks tab now, getBankSlotPerDay ranks m.rankId tab)
  else (m, m.bankRemSlotsTab tab)

/-- `MemberItemWithdraw` of a member, at a minute. -/
def itemWithdraw : TabMember :=
  let r := m.slotWithdrawRem ranks tab now
  if r.2 = 0 then r.1
  else if r.2 < withdrawSlotUnlimited then
    { r.1 with bankRemSlotsTab := Function.update r.1.bankRemSlotsTab tab (sub32 (r.1.bankRemSlotsTab tab) 1) }
  else r.1

/-- The books of what is logged of the member. -/
def note (e : BankEvent) : TabMember := { m with taken := fun tab => m.taken tab + if e.takesFrom tab then 1 else 0 }

end TabMember

/-! ## Room in a tab -/

def getMaxStackCount (om : ObjectMgr) (h : Holdings) (g : Nat) : Nat :=
  ((om.getItemPrototype (h.items g).entry).map fun proto => proto.stackable).getD 0

section Tab

variable (om : ObjectMgr) (h : Holdings) (t : GuildBankTab) (g : Nat)

/-- A slot with the moved item's own slot counted as empty. -/
def tabItemOtherThan (slot : Nat) : Option Nat := if t slot = some g then none else t slot

/-- `_CanStoreItem_InSpecificSlot` of a tab. -/
def canStoreItemInTabSlot (slot : Nat) (swap : Bool) (st : Placing) : TabStoreErr × Placing :=
  match (if swap then none else tabItemOtherThan t g slot) with
  | none => (.ok, (Holdings.pushDest 0 slot (getMaxStackCount om h g) st).2)
  | some k =>
    if (h.items k).entry ≠ (h.items g).entry then (.itemCantStack, st)
    else if (h.items k).count ≥ getMaxStackCount om h g then (.itemCantStack, st)
    else (.ok, (Holdings.pushDest 0 slot (getMaxStackCount om h g - (h.items k).count) st).2)

/-- What `_CanStoreItem_InTab` finds room for in one slot: `none` where the loop goes on with the next. -/
def tabSpace (merge : Bool) (slot : Nat) : Option Nat :=
  match tabItemOtherThan t g slot with
  | none => if merge then none else some (getMaxStackCount om h g)
  | some k =>
    if merge = true ∧ (h.items k).entry = (h.items g).entry ∧ (h.items k).count < getMaxStackCount om h g then
      some (getMaxStackCount om h g - (h.items k).count)
    else none

/-- The loop of `_CanStoreItem_InTab`. -/
def scanTab (merge : Bool) (skipSlot : Nat) : List Nat → Placing → Placing
  | [], st => st
  | j :: js, st =>
    if j = skipSlot then scanTab merge skipSlot js st
    else
      match tabSpace om h t g merge j with
      | none => scanTab merge skipSlot js st
      | some needSpace =>
        let r := Holdings.pushDest 0 j needSpace st
        if r.1 = true ∧ r.2.count = 0 then r.2 else scanTab merge skipSlot js r.2

def canStoreItemInTab (merge : Bool) (skipSlot : Nat) (st : Placing) : Placing :=
  scanTab om h t g merge skipSlot (List.range guildBankMaxSlots) st

/-- The part of `CanStoreItem` after the specific slot. -/
def canStoreItemRest (slot : Nat) (st : Placing) : TabStoreErr × List ItemPosCount :=
  let st1 := if getMaxStackCount om h g > 1 then canStoreItemInTab om h t g true slot st else st
  if getMaxStackCount om h g > 1 ∧ st1.count = 0 then (.ok, st1.dest)
  else
    let st2 := canStoreItemInTab om h t g false slot st1
    if st2.count = 0 then (.ok, st2.dest) else (.bankFull, st2.dest)

/-- `CanStoreItem` in a tab that is there, after its checks of the item. -/
def canStoreItemIn (slot count : Nat) (swap : Bool) : TabStoreErr × List ItemPosCount :=
  if slot = nullSlot then canStoreItemRest om h t g slot ⟨[], count, false⟩
  else
    match canStoreItemInTabSlot om h t g slot swap ⟨[], count, false⟩ with
    | (.ok, st) => if st.count = 0 then (.ok, st.dest) else canStoreItemRest om h t g slot st
    | (res, st) => (res, st.dest)

end Tab

namespace ItemBank

variable (om : ObjectMgr) (w : ItemBank)

/-! ## Reading and writing the tabs -/

/-- `m_TabListMap[tab]->`. -/
def tabAt (tab : Nat) : Option GuildBankTab := (w.tabListMap[tab]?).join

/-- `GetBankTab` is not null. -/
def hasBankTab (tab : Nat) : Bool := (w.tabAt tab).isSome

/-- `GetItem`; the outer `none` is a null pointer in the list. -/
def getItem (tab slot : Nat) : Option (Option Nat) :=
  if tab ≥ w.tabListMap.length ∨ slot ≥ guildBankMaxSlots then some none
  else (w.tabAt tab).map fun t => t slot

/-- Write `m_TabListMap[tab]->Slots[slot]`. -/
def setTabSlot (tab slot : Nat) (v : Option Nat) : ItemBank :=
  { w with tabListMap := w.tabListMap.modify tab fun t => t.map fun t => Function.update t slot v }

def setMember (guid : Nat) (m : TabMember) : ItemBank := { w with members := Function.update w.members guid (some m) }

def canStoreItem (tab slot count g : Nat) (swap : Bool) : Option (TabStoreErr × List ItemPosCount) :=
  if count > (w.inv.items g).count then some (.couldntSplitItems, [])
  else if (w.inv.items g).isSoulBound then some (.cantDropSoulbound, [])
  else (w.tabAt tab).map fun t => canStoreItemIn om w.inv t g slot count swap

/-- `SaveToDB` of an item that is in no inventory, as far as it changes the object. -/
def saved (it : Item) : Item := { it with uState := .unchanged, uQueuePos := -1 }

/-- `_StoreItem`. -/
def storeItemAt (tab slot g count : Nat) (clone : Bool) : Option ItemBank :=
  match w.tabAt tab with
  | none => none
  | some t =>
    match t slot with
    | none =>
      match (if clone then w.inv.cloneItem om 0 g count
        else some (g, w.inv.modify g fun it => { it with count := count })) with
      | none => some w
      | some (x, inv) =>
        some ({ w with inv := inv.modify x fun it => saved { it with contained := .none, owner := 0 } }.setTabSlot tab slot
          (some x))
    | some k =>
      let inv := w.inv.modify k fun it => saved { it with count := u32 (it.count + count) }
      some { w with inv := if clone then inv else inv.deleteItem g }

/-- `StoreItem`: clones for every destination but the last. -/
def storeItem (tab g : Nat) : List ItemPosCount → ItemBank → Option ItemBank
  | [], w => some w
  | [d], w => w.storeItemAt om tab d.pos g d.count false
  | d :: d' :: ds, w => (w.storeItemAt om tab d.pos g d.count true).bind (storeItem tab g (d' :: ds))

def removeItem (tab slot : Nat) : Option ItemBank := (w.tabAt tab).map fun _ => w.setTabSlot tab slot none

/-- `SetCount`, and `SaveToDB` of a stack in the bank. -/
def setCount (g count : Nat) : ItemBank := { w with inv := w.inv.modify g fun it => saved { it with count := count } }

/-! ## Rights and limits -/

def isMemberHaveRights (guid tab rights : Nat) : Bool :=
  match w.members guid with
  | none => false
  | some m => m.hasRights w.ranks tab rights

def getMemberSlotWithdrawRem (guid tab now : Nat) : ItemBank × Nat :=
  match w.members guid with
  | none => (w, 0)
  | some m => (w.setMember guid (m.slotWithdrawRem w.ranks tab now).1, (m.slotWithdrawRem w.ranks tab now).2)

def memberItemWithdraw (guid tab now : Nat) : ItemBank :=
  match w.members guid with
  | none => w
  | some m => w.setMember guid (m.itemWithdraw w.ranks tab now)

/-- `LogBankEvent`, with the books of the member. -/
def logBankEvent (e : BankEvent) : ItemBank :=
  { w with
    bankEventLog := w.bankEventLog ++ [e]
    members := fun guid => (w.members guid).map fun m => if guid = e.guid then m.note e else m }

/-- `DisplayGuildBankContentUpdate`, which asks what is left to each member it sends to. -/
def displayGuildBankContentUpdate (tab : Nat) (v : BankVisit) : ItemBank :=
  if w.hasBankTab tab then
    { w with members := fun guid => (w.members guid).map fun m =>
        if v.online guid && m.hasRights w.ranks tab guildBankRightViewTab then (m.slotWithdrawRem w.ranks tab v.now).1
        else m }
  else w

/-! ## The handler -/

variable (v : BankVisit)

/-- `GetMemberSlotWithdrawRem` of the member who sends the request. -/
def slotRem (tab : Nat) : ItemBank × Nat := w.getMemberSlotWithdrawRem v.pl tab v.now

/-- `Player::CanStoreItem`. -/
def playerCanStoreItem (bag slot g : Nat) (swap : Bool) : StoreResult :=
  w.inv.canStoreItem om v.pl bag slot (w.inv.items g).entry (w.inv.items g).count (some g) swap

def playerMoveItemToInventory (dest : List ItemPosCount) (g : Nat) : ItemBank :=
  { w with inv := w.inv.moveItemToInventory om v.pl dest g true }

def playerMoveItemFromInventory (bag slot : Nat) : ItemBank := { w with inv := w.inv.moveItemFromInventory v.pl bag slot }

def canBeTraded (g : Nat) : Bool := w.inv.itemCanBeTraded om g && v.tradable g

/-- `MemberItemWithdraw` of the member who sends the request. -/
def withdrawn (tab : Nat) : ItemBank := w.memberItemWithdraw v.pl tab v.now

/-- The log of `count` units of an item that are put into a tab from the inventory. -/
def logDeposit (tab g count : Nat) : ItemBank := w.logBankEvent (.depositItem v.pl tab (w.inv.items g).entry count)

/-- The log of `count` units of an item that are taken out of a tab to the inventory. -/
def logWithdraw (tab g count : Nat) : ItemBank := w.logBankEvent (.withdrawItem v.pl tab (w.inv.items g).entry count)

/-- The log of `count` units of an item that are moved from a tab to a tab. -/
def logMove (tab g count destTab : Nat) : ItemBank :=
  w.logBankEvent (.moveItem v.pl tab (w.inv.items g).entry count destTab)

section BankToBank

variable (bankTabDst bankTabSlotDst bankTab bankTabSlot itemSrc : Nat)

/-- "Bank -> Bank item split". -/
def bankSplit (splitedAmount : Nat) : Option (ItemBank × Bool) :=
  match w.canStoreItem om bankTabDst bankTabSlotDst splitedAmount itemSrc false with
  | none => none
  | some (.ok, dest) =>
    match w.inv.cloneItem om 0 itemSrc splitedAmount with
    | none => some (w, false)
    | some (newItem, inv) =>
      let w1 := w.logMove v bankTab itemSrc splitedAmount bankTabDst
      let w2 := { w1 with inv := inv }.setCount itemSrc ((w.inv.items itemSrc).count - splitedAmount)
      (storeItem om bankTabDst newItem dest w2).map fun w3 => (w3, true)
  | some _ => some (w, false)

/-- The swap of two slots of the bank. -/
def bankSwap (itemDst : Option Nat) : Option (ItemBank × Bool) :=
  match w.canStoreItem om bankTabDst bankTabSlotDst (w.inv.items itemSrc).count itemSrc true with
  | none => none
  | some (.ok, gDest) =>
    match itemDst with
    | none => none
    | some dst =>
      match w.canStoreItem om bankTab bankTabSlot (w.inv.items dst).count dst true with
      | none => none
      | some (.ok, gSrc) =>
        if bankTab ≠ bankTabDst ∧ w.isMemberHaveRights v.pl bankTab guildBankRightDepositItem = false then some (w, false)
        else
          let r := if bankTab ≠ bankTabDst then w.slotRem v bankTabDst else (w, withdrawSlotUnlimited)
          if r.2 = 0 then some (r.1, false)
          else
            let w1 := (r.1.logMove v bankTab itemSrc (w.inv.items itemSrc).count bankTabDst).logMove v bankTabDst dst
              (w.inv.items dst).count bankTab
            ((((w1.removeItem bankTab bankTabSlot).bind fun w2 => w2.removeItem bankTabDst bankTabSlotDst).bind
              (storeItem om bankTab dst gSrc)).bind (storeItem om bankTabDst itemSrc gDest)).map fun w2 => (w2, true)
      | some _ => some (w, false)
  | some _ => some (w, false)

/-- The move of a whole stack to another slot of the bank. -/
def bankMove (itemDst : Option Nat) : Option (ItemBank × Bool) :=
  match w.canStoreItem om bankTabDst bankTabSlotDst (w.inv.items itemSrc).count itemSrc false with
  | none => none
  | some (.ok, gDest) =>
    (((w.logMove v bankTab itemSrc (w.inv.items itemSrc).count bankTabDst).removeItem bankTab bankTabSlot).bind
      (storeItem om bankTabDst itemSrc gDest)).map fun w2 => (w2, true)
  | some _ => w.bankSwap om v bankTabDst bankTabSlotDst bankTab bankTabSlot itemSrc itemDst

end BankToBank

/-- "Bank <-> Bank". -/
def bankToBank (bankTabDst bankTabSlotDst bankTab bankTabSlot splitedAmount : Nat) : Option (ItemBank × Bool) :=
  match w.getItem bankTab bankTabSlot with
  | none => none
  | some none => some (w, false)
  | some (some itemSrc) =>
    if splitedAmount > (w.inv.items itemSrc).count then some (w, false)
    else
      match w.getItem bankTabDst bankTabSlotDst with
      | none => none
      | some itemDst =>
        if bankTab ≠ bankTabDst ∧ w.isMemberHaveRights v.pl bankTabDst guildBankRightDepositItem = false then
          some (w, false)
        else
          let r := if bankTab ≠ bankTabDst then w.slotRem v bankTab else (w, withdrawSlotUnlimited)
          if r.2 = 0 then some (r.1, false)
          else
            (if splitedAmount ≠ 0 ∧ splitedAmount ≠ (w.inv.items itemSrc).count then
              r.1.bankSplit om v bankTabDst bankTabSlotDst bankTab itemSrc splitedAmount
            else r.1.bankMove om v bankTabDst bankTabSlotDst bankTab bankTabSlot itemSrc itemDst).map fun (r2 : ItemBank × Bool) =>
              if r2.2 = false then r2
              else
                let w2 := r2.1.displayGuildBankContentUpdate bankTab v
                (if bankTab ≠ bankTabDst then w2.displayGuildBankContentUpdate bankTabDst v else w2, true)

section BankAndChar

variable (bankTab bankTabSlot playerBag playerSlot : Nat)

/-- "Bank -> Char split to slot". -/
def bankToCharSplit (itemBank splitedAmount : Nat) : Option (ItemBank × Bool) :=
  match w.inv.cloneItem om 0 itemBank splitedAmount with
  | none => some (w, false)
  | some (newItem, inv) =>
    let w1 : ItemBank := { w with inv := inv }
    let msg := w1.playerCanStoreItem om v playerBag playerSlot newItem false
    if msg.res ≠ .ok then some ({ w1 with inv := inv.deleteItem newItem }, false)
    else
      let r := w1.slotRem v bankTab
      if r.2 = 0 then some ({ r.1 with inv := inv.deleteItem newItem }, false)
      else
        let w2 := (r.1.logWithdraw v bankTab itemBank splitedAmount).setCount itemBank
          ((w.inv.items itemBank).count - splitedAmount)
        some ((w2.playerMoveItemToInventory om v msg.dest newItem).withdrawn v bankTab, true)

/-- "Bank <-> Char swap items". -/
def bankToCharSwap (itemBank : Nat) (itemChar : Option Nat) : Option (ItemBank × Bool) :=
  if w.isMemberHaveRights v.pl bankTab guildBankRightDepositItem = false then some (w, false)
  else if itemChar.all (w.canBeTraded om v) = false then some (w, false)
  else
    let msg := w.playerCanStoreItem om v playerBag playerSlot itemBank true
    if msg.res ≠ .ok then some (w, false)
    else
      match itemChar with
      | none =>
        let r := w.slotRem v bankTab
        if r.2 = 0 then some (r.1, false)
        else
          ((r.1.logWithdraw v bankTab itemBank (w.inv.items itemBank).count).removeItem bankTab bankTabSlot).map fun w1 =>
            ((w1.playerMoveItemToInventory om v msg.dest itemBank).withdrawn v bankTab, true)
      | some c =>
        match w.canStoreItem om bankTab bankTabSlot (w.inv.items c).count c true with
        | none => none
        | some (.ok, gDest) =>
          let r := w.slotRem v bankTab
          if r.2 = 0 then some (r.1, false)
          else
            let w1 := (r.1.logWithdraw v bankTab itemBank (w.inv.items itemBank).count).logDeposit v bankTab c
              (w.inv.items c).count
            (((w1.removeItem bankTab bankTabSlot).map fun w2 =>
              w2.playerMoveItemFromInventory v playerBag playerSlot).bind (storeItem om bankTab c gDest)).map fun w2 =>
                ((w2.playerMoveItemToInventory om v msg.dest itemBank).withdrawn v bankTab, true)
        | some _ => some (w, false)

/-- "Bank -> Char cases". -/
def bankToChar (splitedAmount itemBank : Nat) (itemChar : Option Nat) : Option (ItemBank × Bool) :=
  if splitedAmount > (w.inv.items itemBank).count then some (w, false)
  else
    (if splitedAmount ≠ 0 ∧ splitedAmount ≠ (w.inv.items itemBank).count then
      w.bankToCharSplit om v bankTab playerBag playerSlot itemBank splitedAmount
    else
      let msg := w.playerCanStoreItem om v playerBag playerSlot itemBank false
      if msg.res = .ok then
        let r := w.slotRem v bankTab
        if r.2 = 0 then some (r.1, false)
        else
          ((r.1.logWithdraw v bankTab itemBank (w.inv.items itemBank).count).removeItem bankTab bankTabSlot).map fun w1 =>
            ((w1.playerMoveItemToInventory om v msg.dest itemBank).withdrawn v bankTab, true)
      else w.bankToCharSwap om v bankTab bankTabSlot playerBag playerSlot itemBank itemChar).map fun (r2 : ItemBank × Bool) =>
        if r2.2 = false then r2 else (r2.1.displayGuildBankContentUpdate bankTab v, true)

/-- "Char <-> Bank swap items". -/
def charToBankSwap (itemChar : Nat) (itemBank : Option Nat) : Option (ItemBank × Bool) :=
  match itemBank with
  | none =>
    match w.canStoreItem om bankTab bankTabSlot (w.inv.items itemChar).count itemChar true with
    | none => none
    | some (.ok, gDest) =>
      let w1 := w.logDeposit v bankTab itemChar (w.inv.items itemChar).count
      (storeItem om bankTab itemChar gDest (w1.playerMoveItemFromInventory v playerBag playerSlot)).map fun w2 =>
        (w2, true)
    | some _ => some (w, false)
  | some b =>
    let msg := w.playerCanStoreItem om v playerBag playerSlot b true
    if msg.res ≠ .ok then some (w, false)
    else
      match w.canStoreItem om bankTab bankTabSlot (w.inv.items itemChar).count itemChar true with
      | none => none
      | some (.ok, gDest) =>
        let r := w.slotRem v bankTab
        if r.2 = 0 then some (r.1, false)
        else
          let w1 := (r.1.logWithdraw v bankTab b (w.inv.items b).count).logDeposit v bankTab itemChar
            (w.inv.items itemChar).count
          (((w1.playerMoveItemFromInventory v playerBag playerSlot).removeItem bankTab bankTabSlot).bind
            (storeItem om bankTab itemChar gDest)).map fun w2 =>
              ((w2.playerMoveItemToInventory om v msg.dest b).withdrawn v bankTab, true)
      | some _ => some (w, false)

/-- "Char -> Bank cases". -/
def charToBank (splitedAmount itemChar : Nat) (itemBank : Option Nat) : Option (ItemBank × Bool) :=
  if w.canBeTraded om v itemChar = false then some (w, false)
  else if w.isMemberHaveRights v.pl bankTab guildBankRightDepositItem = false then some (w, false)
  else if splitedAmount > (w.inv.items itemChar).count then some (w, false)
  else
    (if splitedAmount ≠ 0 ∧ splitedAmount ≠ (w.inv.items itemChar).count then
      match w.canStoreItem om bankTab bankTabSlot splitedAmount itemChar false with
      | none => none
      | some (.ok, dest) =>
        match w.inv.cloneItem om 0 itemChar splitedAmount with
        | none => some (w, false)
        | some (newItem, inv) =>
          let inv1 := (inv.modify itemChar fun it => { it with count := it.count - splitedAmount }).setState v.pl itemChar
            .changed
          let w1 := w.logDeposit v bankTab itemChar splitedAmount
          (storeItem om bankTab newItem dest { w1 with inv := inv1 }).map fun w2 => (w2, true)
      | some _ => some (w, false)
    else
      match w.canStoreItem om bankTab bankTabSlot (w.inv.items itemChar).count itemChar false with
      | none => none
      | some (.ok, dest) =>
        let w1 := w.logDeposit v bankTab itemChar (w.inv.items itemChar).count
        (storeItem om bankTab itemChar dest (w1.playerMoveItemFromInventory v playerBag playerSlot)).map fun w2 => (w2, true)
      | some _ => w.charToBankSwap om v bankTab bankTabSlot playerBag playerSlot itemChar itemBank).map fun (r2 : ItemBank × Bool) =>
        if r2.2 = false then r2 else (r2.1.displayGuildBankContentUpdate bankTab v, true)

/-- "Player <-> Bank". -/
def playerAndBank (toChar : Bool) (splitedAmount : Nat) : Option (ItemBank × Bool) :=
  match w.getItem bankTab bankTabSlot with
  | none => none
  | some itemBank =>
    let itemChar := w.inv.getItemByPos v.pl playerBag playerSlot
    if toChar then
      match itemBank with
      | none => some (w, false)
      | some b => w.bankToChar om v bankTab bankTabSlot playerBag playerSlot splitedAmount b itemChar
    else
      match itemChar with
      | none => some (w, false)
      | some c => w.charToBank om v bankTab bankTabSlot playerBag playerSlot splitedAmount c itemBank

end BankAndChar

/-- `HandleGuildBankDepositItem`: the bank after a request, and whether it went through. -/
def handleGuildBankDepositItem : SwapItems → Option (ItemBank × Bool)
  | .bankToBank bankTabDst bankTabSlotDst bankTab bankTabSlot splitedAmount =>
    if bankTabSlotDst.toNat ≥ guildBankMaxSlots then some (w, false)
    else if bankTabDst = bankTab ∧ bankTabSlotDst = bankTabSlot then some (w, false)
    else if v.nearBank = false ∨ v.inGuild = false then some (w, false)
    -- `ToChar` is 1, so the tab is not checked
    else w.bankToBank om v bankTabDst.toNat bankTabSlotDst.toNat bankTab.toNat bankTabSlot.toNat splitedAmount.toNat
  | .autoStore bankTab bankTabSlot =>
    if bankTabSlot.toNat ≥ guildBankMaxSlots ∧ bankTabSlot.toNat ≠ 0xFF then some (w, false)
    else if v.nearBank = false ∨ v.inGuild = false then some (w, false)
    else w.playerAndBank om v bankTab.toNat bankTabSlot.toNat nullBag nullSlot true 0
  | .withChar bankTab bankTabSlot playerBag playerSlot toChar splitedAmount =>
    if bankTabSlot.toNat ≥ guildBankMaxSlots ∧ bankTabSlot.toNat ≠ 0xFF then some (w, false)
    else if v.nearBank = false ∨ v.inGuild = false then some (w, false)
    else if toChar = 0 ∧ w.hasBankTab bankTab.toNat = false then some (w, false)
    else if isInventoryPos playerBag.toNat playerSlot.toNat = false ∧
        ¬(playerBag.toNat = nullBag ∧ playerSlot.toNat = nullSlot) then some (w, false)
    else w.playerAndBank om v bankTab.toNat bankTabSlot.toNat playerBag.toNat playerSlot.toNat (toChar != 0)
      splitedAmount.toNat

def displayGuildBankContent (tab : Nat) : ItemBank :=
  if w.hasBankTab tab = false then w
  else if w.isMemberHaveRights v.pl tab guildBankRightViewTab = false then w
  else (w.slotRem v tab).1

def handleGuildBankTabColon (tab : UInt8) : ItemBank × Bool :=
  if v.nearBank = false ∨ v.inGuild = false then (w, false) else (w.displayGuildBankContent v tab.toNat, true)

end ItemBank

/-- The requests about the items of a bank. -/
inductive TabRequest where
  | swapItems (r : SwapItems)
  | queryTab (tab : UInt8)

namespace ItemBank

/-- The bank after a request, and whether it went through. -/
def handle (om : ObjectMgr) (w : ItemBank) (v : BankVisit) : TabRequest → Option (ItemBank × Bool)
  | .swapItems r => w.handleGuildBankDepositItem om v r
  | .queryTab tab => some (w.handleGuildBankTabColon v tab)

/-- The bank after a request; a read outside of the list ends the run there. -/
def after (om : ObjectMgr) (w : ItemBank) (e : BankVisit × TabRequest) : ItemBank :=
  match w.handle om e.1 e.2 with
  | none => w
  | some r => r.1

end ItemBank

end BlizzLike
