import BlizzLikeCore.Guild.BankItems
import BlizzLikeCore.Lib.Transition
import Mathlib.Data.Finset.Card

/-!
# The tabs of a guild bank in memory

The bank of a guild is loaded when the server starts, or when a member first asks for its tabs; a tab
that is bought is added to the list and to the database; and when the last member logs out the bank
and the log of the guild should be unloaded.

The members online are counted by `m_onlinemembers`, and `UpdateLogoutTime` unloads when it finds the
count at 0 *before* it takes one off.  So the logout of the last member only takes the count from 1
to 0 (`lastLogout_keeps`), and a bank that was loaded at the start is never unloaded.  A move to a tab that
is not there reads outside of the list (`handle_spec`).  But for these two every access finds
all purchased tabs (`tabs_kept`).

Left out: the names, icons and texts of tabs, what is sent, and the limits on money.
-/

namespace BlizzLike

def mGuildBankTabPrice : List Nat := [100, 250, 500, 1000, 2500, 5000]

/-- `GOLD`. -/
def goldCoin : Nat := 10000

def getGuildBankTabPrice (index : Nat) : Nat := if index < guildBankMaxTabs then mGuildBankTabPrice.getD index 0 else 0

/-- `std::vector::resize` of a list of pointers. -/
def resizeTabs (n : Nat) (l : List (Option GuildBankTab)) : List (Option GuildBankTab) :=
  (l ++ List.replicate (n - l.length) none).take n

/-- A `Guild` with its bank in memory, `m_TabListMap` and what goes with it, and in the database: `tabRows` of
`guild_bank_tab` by `TabId`, `itemRows` of `guild_bank_item` by tab and slot, and how many rows the log of the guild
has.  `online` are the members with a session.  An item that is loaded again is the object it was. -/
structure BankHouse where
  bank : ItemBank := {}
  purchasedTabs : Nat := 0
  bankLoaded : Bool := false
  eventlogLoaded : Bool := false
  onlineMembers : Nat := 0
  online : Finset Nat := ∅
  money : Nat → Nat := fun _ => 0
  tabRows : List Nat := []
  itemRows : Nat → Nat → Option Nat := fun _ _ => none
  eventlogRows : Nat := 0

/-- What members of a guild do: they log in and out, and ask for the tabs (`CMSG_GUILD_BANKER_ACTIVATE`), for the
items of a tab and their moves, for a new tab, for a new name of a tab, and for the log of the guild. -/
inductive HouseEvent where
  | login (pl : Nat)
  | logout (pl : Nat)
  | activate (v : BankVisit)
  | buyTab (v : BankVisit) (tab : UInt8)
  | updateTab (v : BankVisit) (tab : UInt8)
  | tabRequest (v : BankVisit) (r : TabRequest)
  | eventLog (v : BankVisit)

namespace BankHouse

variable (om : ObjectMgr) (w : BankHouse)

def setTabs (l : List (Option GuildBankTab)) : BankHouse := { w with bank := { w.bank with tabListMap := l } }

/-! ## Loading -/

/-- The loop over the rows of `guild_bank_tab`: `m_TabListMap[TabId] = NewTab`. -/
def loadTabs : List Nat → List (Option GuildBankTab) → Option (List (Option GuildBankTab))
  | [], l => some l
  | tab :: rows, l => if tab < l.length then loadTabs rows (l.set tab (some fun _ => none)) else none

/-- The loop over the rows of `guild_bank_item`, of tabs and slots that are valid. -/
def loadItems : List (Nat × Nat) → List (Option GuildBankTab) → Option (List (Option GuildBankTab))
  | [], l => some l
  | (tab, slot) :: ps, l =>
    match w.itemRows tab slot with
    | none => loadItems ps l
    | some g =>
      if (om.getItemPrototype (w.bank.inv.items g).entry).isNone then loadItems ps l
      else
        match (l[tab]?).join with
        | none => none
        | some t => loadItems ps (l.set tab (some (Function.update t slot (some g))))

/-- The positions of the rows that `LoadGuildBankFromDB` does not skip. -/
def rowPositions : List (Nat × Nat) :=
  (List.range (min w.purchasedTabs guildBankMaxTabs)).flatMap fun tab =>
    (List.range guildBankMaxSlots).map fun slot => (tab, slot)

/-- `LoadGuildBankFromDB`; `none` is a write outside of the list, or through a null pointer in it. -/
def loadGuildBankFromDB : Option BankHouse :=
  if w.bankLoaded then some w
  else if w.tabRows = [] then some { w with bankLoaded := true, purchasedTabs := 0 }
  else
    ((loadTabs w.tabRows (resizeTabs w.purchasedTabs w.bank.tabListMap)).bind (w.loadItems om w.rowPositions)).map
      fun l => { w.setTabs l with bankLoaded := true }

/-- The null check of a read of all purchased tabs. -/
def readsTabs : Bool := (List.range w.purchasedTabs).all fun i => w.bank.hasBankTab i

def unloadGuildBank : Option BankHouse :=
  if w.bankLoaded = false then some w
  else if w.readsTabs then some { w.setTabs [] with bankLoaded := false }
  else none

/-- `LoadGuildEventLogFromDB`, which does not set its flag when there are no rows. -/
def loadGuildEventLogFromDB : BankHouse :=
  if w.eventlogLoaded ∨ w.eventlogRows = 0 then w else { w with eventlogLoaded := true }

def unloadGuildEventlog : BankHouse := { w with eventlogLoaded := false }

/-- `LoadGuilds`, of one guild. -/
def loadGuild : Option BankHouse :=
  loadGuildBankFromDB om (loadGuildEventLogFromDB
    { w.setTabs [] with
      purchasedTabs := min (w.tabRows.length % 256) guildBankMaxTabs
      bankLoaded := false
      eventlogLoaded := false
      onlineMembers := 0
      online := ∅ })

/-! ## Tabs -/

def createNewBankTab : BankHouse :=
  if w.purchasedTabs ≥ guildBankMaxTabs then w
  else
    { w.setTabs ((resizeTabs (w.purchasedTabs + 1) w.bank.tabListMap).set w.purchasedTabs (some fun _ => none)) with
      purchasedTabs := w.purchasedTabs + 1
      -- the row is deleted and inserted, and the table is read by `TabId`
      tabRows := w.tabRows.filter (· < w.purchasedTabs) ++ w.purchasedTabs :: w.tabRows.filter (w.purchasedTabs < ·) }

def displayGuildBankTabsInfo : Option BankHouse :=
  (w.loadGuildBankFromDB om).bind fun w1 => if w1.readsTabs then some w1 else none

/-- `SetBankRightsAndSlots` with its write to the database. -/
def setBankRightsAndSlots (rankId tab right slots : Nat) : BankHouse :=
  if rankId ≥ w.bank.ranks.length ∨ tab ≥ guildBankMaxTabs ∨ tab ≥ w.purchasedTabs then w
  else
    { w with
      bank :=
        { w.bank with
          ranks := w.bank.ranks.modify rankId fun r =>
            { tabRight := Function.update r.tabRight tab (if rankId = grGuildMaster then guildBankRightFull else right)
              tabSlotPerDay := Function.update r.tabSlotPerDay tab
                (if rankId = grGuildMaster then withdrawSlotUnlimited else slots) }
          members := fun guid => (w.bank.members guid).map fun m =>
            if m.rankId = rankId then
              { m with bankResetTimeTab := fun i => if i < guildBankMaxTabs then 0 else m.bankResetTimeTab i }
            else m } }

/-! ## Requests -/

variable (v : BankVisit)

/-- `HandleGuildBankQuery`: the guild after it, and whether its tabs were read. -/
def handleGuildBankQuery : Option (BankHouse × Bool) :=
  if v.nearBank = false ∨ v.inGuild = false then some (w, false)
  else (w.displayGuildBankTabsInfo om).map fun w1 => (w1, true)

def handleGuildBankBuyTab (tab : UInt8) : Option (BankHouse × Bool) :=
  let tabCost := u32 (getGuildBankTabPrice tab.toNat * goldCoin)
  if v.nearBank = false ∨ v.inGuild = false then some (w, false)
  else if tabCost = 0 then some (w, false)
  else if w.purchasedTabs ≥ guildBankMaxTabs then some (w, false)
  else if tab.toNat ≠ w.purchasedTabs then some (w, false)
  else if w.money v.pl < tabCost then some (w, false)
  else
    let w1 := w.createNewBankTab
    let w2 := { w1 with money := Function.update w1.money v.pl (modifyMoney (w1.money v.pl) (-toInt32 tabCost)) }
    let w3 :=
      match w2.bank.members v.pl with
      | none => w2
      | some m => w2.setBankRightsAndSlots m.rankId tab.toNat guildBankRightFull withdrawSlotUnlimited
    (w3.displayGuildBankTabsInfo om).map fun w4 => (w4, true)

/-- `HandleGuildBankModifyTab` with a name and an icon, which `SetGuildBankTabInfo` writes to a tab that it finds in
the list. -/
def handleGuildBankModifyTab (tab : UInt8) : Option (BankHouse × Bool) :=
  if v.nearBank = false ∨ v.inGuild = false then some (w, false)
  else
    (w.displayGuildBankTabsInfo om).map fun w1 =>
      ({ w1 with bank := w1.bank.displayGuildBankContent v tab.toNat }, true)

/-- The rows of the items follow the slots that a request changed. -/
def itemRowsAfter (bank : ItemBank) (tab slot : Nat) : Option Nat :=
  let before := (w.bank.tabAt tab).bind fun t => t slot
  let after := (bank.tabAt tab).bind fun t => t slot
  if before = after then w.itemRows tab slot else after

/-- A request about the items. -/
def handleTabRequest (r : TabRequest) : Option (BankHouse × Bool) :=
  (w.bank.handle om v r).map fun (r : ItemBank × Bool) =>
    ({ w with bank := r.1, itemRows := w.itemRowsAfter r.1 }, r.2)

def handleGuildEventLogOpcode : BankHouse := if v.inGuild = false then w else w.loadGuildEventLogFromDB

/-- `IncOnlineMemberCount`, when a member comes online. -/
def login (pl : Nat) : BankHouse :=
  if pl ∈ w.online ∨ (w.bank.members pl).isNone then w
  else { w with online := insert pl w.online, onlineMembers := u32 (w.onlineMembers + 1) }

def updateLogoutTime (pl : Nat) : Option BankHouse :=
  if (w.bank.members pl).isNone then some w
  else if w.onlineMembers > 0 then some { w with onlineMembers := w.onlineMembers - 1 }
  else w.unloadGuildBank.map unloadGuildEventlog

/-- A member's session ends. -/
def logout (pl : Nat) : Option BankHouse :=
  if pl ∉ w.online ∨ (w.bank.members pl).isNone then some w
  else (w.updateLogoutTime pl).map fun w1 => { w1 with online := w1.online.erase pl }

/-- The guild after an event, and whether the event read all the tabs; `none` is a read outside of the list. -/
def handle : HouseEvent → Option (BankHouse × Bool)
  | .login pl => some (w.login pl, false)
  | .logout pl => (w.logout pl).map fun w1 => (w1, false)
  | .activate v => w.handleGuildBankQuery om v
  | .buyTab v tab => w.handleGuildBankBuyTab om v tab
  | .updateTab v tab => w.handleGuildBankModifyTab om v tab
  | .tabRequest v r => (w.handleTabRequest om v r).map fun r => (r.1, false)
  | .eventLog v => some (w.handleGuildEventLogOpcode v, false)

/-- The guild after an event; a read outside of the list ends the run there. -/
def after (e : HouseEvent) : BankHouse :=
  match w.handle om e with
  | none => w
  | some r => r.1

end BankHouse

/-! ## Lemmas -/

/-- A list of `n` tabs, no null pointer among them. -/
def WholeTabs (n : Nat) (l : List (Option GuildBankTab)) : Prop := l.length = n ∧ ∀ t ∈ l, t.isSome = true

namespace ItemBank

variable {m : ObjectMgr} {w w1 w2 : ItemBank} {v : BankVisit} {n tab tabDst slot slotDst g count amount : Nat} {b : Bool}

theorem tabAt_of_whole (h : WholeTabs n w.tabListMap) (ht : tab < n) : ∃ t, w.tabAt tab = some t := by
  have hlt : tab < w.tabListMap.length := h.1.symm ▸ ht
  obtain ⟨t, hst⟩ := Option.isSome_iff_exists.1 (h.2 _ (List.getElem_mem hlt))
  refine ⟨t, ?_⟩
  unfold tabAt
  rw [List.getElem?_eq_getElem hlt, hst]
  rfl

theorem tabAt_of_ge (h : WholeTabs n w.tabListMap) (ht : n ≤ tab) : w.tabAt tab = none := by
  unfold tabAt
  rw [List.getElem?_eq_none (h.1.trans_le ht)]
  rfl

theorem setTabSlot_whole (h : WholeTabs n w.tabListMap) (tab slot : Nat) (x : Option Nat) :
    WholeTabs n (w.setTabSlot tab slot x).tabListMap := by
  refine ⟨(List.length_modify ..).trans h.1, fun t ht => ?_⟩
  have ht' : t ∈ w.tabListMap.modify tab fun t => t.map fun t => Function.update t slot x := ht
  obtain ⟨i, hi, rfl⟩ := List.mem_iff_getElem.1 ht'
  have hs := h.2 _ (List.getElem_mem (Nat.lt_of_lt_of_eq hi (List.length_modify ..)))
  rw [List.getElem_modify]
  split
  · rw [Option.isSome_map]
    exact hs
  · exact hs

/-! ### Each operation finds its tab and leaves the list whole -/

/-- A request that comes to its end, with the list whole. -/
def Ends (n : Nat) (r : Option (ItemBank × Bool)) : Prop := ∃ x, r = some x ∧ WholeTabs n x.1.tabListMap

theorem Ends.of_some (h : WholeTabs n w.tabListMap) (b : Bool) : Ends n (some (w, b)) := ⟨_, rfl, h⟩

theorem Ends.of_map {o : Option ItemBank} {f : ItemBank → ItemBank × Bool}
    (h : ∃ x, o = some x ∧ WholeTabs n x.tabListMap) (hf : ∀ x, (f x).1.tabListMap = x.tabListMap) : Ends n (o.map f) := by
  obtain ⟨x, rfl, hx⟩ := h
  exact ⟨f x, rfl, (hf x).symm ▸ hx⟩

theorem storeItemAt_ends (h : WholeTabs n w.tabListMap) (ht : tab < n) (slot g count : Nat) (clone : Bool) :
    ∃ x, w.storeItemAt m tab slot g count clone = some x ∧ WholeTabs n x.tabListMap := by
  obtain ⟨t, htab⟩ := tabAt_of_whole h ht
  unfold storeItemAt
  rw [htab]
  dsimp only
  split
  · split
    · exact ⟨w, rfl, h⟩
    · exact ⟨_, rfl, setTabSlot_whole (w := { w with inv := _ }) h tab slot _⟩
  · exact ⟨_, rfl, h⟩

theorem storeItem_ends (ht : tab < n) (g : Nat) (dest : List ItemPosCount) {w : ItemBank} (h : WholeTabs n w.tabListMap) :
    ∃ x, storeItem m tab g dest w = some x ∧ WholeTabs n x.tabListMap := by
  induction dest generalizing w with
  | nil => exact ⟨w, rfl, h⟩
  | cons d ds ih =>
    cases ds with
    | nil => exact storeItemAt_ends h ht d.pos g d.count false
    | cons d' ds =>
      obtain ⟨x, hx, hw⟩ := storeItemAt_ends (m := m) h ht d.pos g d.count true
      obtain ⟨y, hy, hw'⟩ := ih hw
      refine ⟨y, ?_, hw'⟩
      rw [storeItem, hx]
      exact hy

theorem removeItem_ends (h : WholeTabs n w.tabListMap) (ht : tab < n) (slot : Nat) :
    ∃ x, w.removeItem tab slot = some x ∧ WholeTabs n x.tabListMap := by
  obtain ⟨t, htab⟩ := tabAt_of_whole h ht
  unfold removeItem
  rw [htab]
  exact ⟨_, rfl, setTabSlot_whole h tab slot none⟩

theorem canStoreItem_ends (h : WholeTabs n w.tabListMap) (ht : tab < n) (slot count g : Nat) (swap : Bool) :
    ∃ r, w.canStoreItem m tab slot count g swap = some r := by
  obtain ⟨t, htab⟩ := tabAt_of_whole h ht
  unfold canStoreItem
  rw [htab]
  split
  · exact ⟨_, rfl⟩
  split
  · exact ⟨_, rfl⟩
  · exact ⟨_, rfl⟩

theorem getItem_ends (h : WholeTabs n w.tabListMap) (tab slot : Nat) : ∃ x, w.getItem tab slot = some x := by
  unfold getItem
  split
  · exact ⟨_, rfl⟩
  · next hin =>
    obtain ⟨t, htab⟩ := tabAt_of_whole h (show tab < n by have := h.1; omega)
    rw [htab]
    exact ⟨_, rfl⟩

theorem lt_of_getItem (h : WholeTabs n w.tabListMap) (hg : w.getItem tab slot = some (some g)) :
    tab < n ∧ slot < guildBankMaxSlots := by
  unfold getItem at hg
  split at hg
  · cases hg
  · have := h.1
    omega

theorem slotRem_tabs (w : ItemBank) (v : BankVisit) (tab : Nat) :
    (w.slotRem v tab).1.tabListMap = w.tabListMap ∧ (w.slotRem v tab).1.inv = w.inv := by
  unfold slotRem getMemberSlotWithdrawRem
  split <;> exact ⟨rfl, rfl⟩

theorem withdrawn_tabs (w : ItemBank) (v : BankVisit) (tab : Nat) : (w.withdrawn v tab).tabListMap = w.tabListMap := by
  unfold withdrawn memberItemWithdraw
  split <;> rfl

theorem display_tabs (w : ItemBank) (v : BankVisit) (tab : Nat) :
    (w.displayGuildBankContentUpdate tab v).tabListMap = w.tabListMap := by
  unfold displayGuildBankContentUpdate
  split <;> rfl

/-! ### The branches -/

theorem bankSplit_ends (h : WholeTabs n w.tabListMap) (htd : tabDst < n) (slotDst src amount : Nat) :
    Ends n (w.bankSplit m v tabDst slotDst tab src amount) := by
  obtain ⟨⟨err, dest⟩, hr⟩ := canStoreItem_ends (m := m) h htd slotDst amount src false
  unfold bankSplit
  rw [hr]
  cases err with
  | ok =>
    dsimp only
    split
    · exact Ends.of_some h false
    · refine Ends.of_map (storeItem_ends htd _ dest ?_) fun _ => rfl
      exact h
  | _ => exact Ends.of_some h false

theorem canStoreItem_swap_of_empty {t : GuildBankTab} (ht : w.tabAt tab = some t) (he : t slot = none) (count g : Nat) :
    w.canStoreItem m tab slot count g true = w.canStoreItem m tab slot count g false := by
  have hslot : ∀ swap st, canStoreItemInTabSlot m w.inv t g slot swap st =
      (.ok, (Holdings.pushDest 0 slot (getMaxStackCount m w.inv g) st).2) := by
    intro swap st
    unfold canStoreItemInTabSlot tabItemOtherThan
    rw [he]
    cases swap <;> rfl
  unfold canStoreItem
  rw [ht, Option.map_some, Option.map_some]
  unfold canStoreItemIn
  simp only [hslot]

theorem bankSwap_ends (h : WholeTabs n w.tabListMap) (ht : tab < n) (htd : tabDst < n) (slotDst slot src : Nat)
    {itemDst : Option Nat} (hdst : itemDst = none →
      ∀ r, w.canStoreItem m tabDst slotDst (w.inv.items src).count src true = some r → r.1 ≠ .ok) :
    Ends n (w.bankSwap m v tabDst slotDst tab slot src itemDst) := by
  obtain ⟨⟨err, gDest⟩, hr⟩ := canStoreItem_ends (m := m) h htd slotDst (w.inv.items src).count src true
  unfold bankSwap
  rw [hr]
  cases err with
  | ok =>
    cases itemDst with
    | none => exact absurd rfl (hdst rfl _ hr)
    | some dst =>
      obtain ⟨⟨err', gSrc⟩, hr'⟩ := canStoreItem_ends (m := m) h ht slot (w.inv.items dst).count dst true
      dsimp only
      rw [hr']
      cases err' with
      | ok =>
        dsimp only
        split
        · exact Ends.of_some h false
        have hrem : WholeTabs n (if tab ≠ tabDst then w.slotRem v tabDst else (w, withdrawSlotUnlimited)).1.tabListMap := by
          split
          · rw [(slotRem_tabs w v tabDst).1]
            exact h
          · exact h
        generalize (if tab ≠ tabDst then w.slotRem v tabDst else (w, withdrawSlotUnlimited)) = r at hrem
        split
        · exact Ends.of_some hrem false
        obtain ⟨x1, hx1, hw1⟩ := removeItem_ends (w := (r.1.logMove v tab src (w.inv.items src).count tabDst).logMove v tabDst
          dst (w.inv.items dst).count tab) hrem ht slot
        obtain ⟨x2, hx2, hw2⟩ := removeItem_ends hw1 htd slotDst
        obtain ⟨x3, hx3, hw3⟩ := storeItem_ends (m := m) ht dst gSrc hw2
        rw [hx1, Option.bind_some, hx2, Option.bind_some, hx3, Option.bind_some]
        exact Ends.of_map (storeItem_ends htd src gDest hw3) fun _ => rfl
      | _ => exact Ends.of_some h false
  | _ => exact Ends.of_some h false

theorem bankMove_ends (h : WholeTabs n w.tabListMap) (ht : tab < n) (htd : tabDst < n) (hs : slotDst < guildBankMaxSlots)
    (slot src : Nat) {itemDst : Option Nat} (hdst : w.getItem tabDst slotDst = some itemDst) :
    Ends n (w.bankMove m v tabDst slotDst tab slot src itemDst) := by
  obtain ⟨t, htab⟩ := tabAt_of_whole h htd
  have hempty : itemDst = none → t slotDst = none := by
    rintro rfl
    unfold getItem at hdst
    rw [if_neg (by have := h.1; omega), htab] at hdst
    exact Option.some.inj hdst
  obtain ⟨⟨err, gDest⟩, hr⟩ := canStoreItem_ends (m := m) h htd slotDst (w.inv.items src).count src false
  unfold bankMove
  rw [hr]
  -- the destination is swapped with only where the item does not go there as it is
  have hswap : err ≠ .ok → Ends n (w.bankSwap m v tabDst slotDst tab slot src itemDst) := by
    intro herr
    refine bankSwap_ends h ht htd slotDst slot src fun hno r hr' => ?_
    rw [canStoreItem_swap_of_empty htab (hempty hno), hr] at hr'
    cases hr'
    exact herr
  cases err with
  | ok =>
    obtain ⟨x1, hx1, hw1⟩ := removeItem_ends (w := w.logMove v tab src (w.inv.items src).count tabDst) h ht slot
    dsimp only
    rw [hx1, Option.bind_some]
    exact Ends.of_map (storeItem_ends htd src gDest hw1) fun _ => rfl
  | _ => exact hswap (by decide)

theorem bankToCharSplit_ends (h : WholeTabs n w.tabListMap) (tab bag plSlot i amount : Nat) :
    Ends n (w.bankToCharSplit m v tab bag plSlot i amount) := by
  unfold bankToCharSplit
  split
  · exact Ends.of_some h false
  dsimp only
  split
  · exact ⟨_, rfl, h⟩
  have hrem := fun inv => (slotRem_tabs { w with inv := inv } v tab).1
  split
  · exact Ends.of_some (by rw [hrem]; exact h) false
  · refine Ends.of_some ?_ true
    rw [withdrawn_tabs]
    exact (hrem _).symm ▸ h

theorem take_ends (h : WholeTabs n w.tabListMap) (ht : tab < n) (slot : Nat) (f : ItemBank → ItemBank × Bool)
    (hf : ∀ x, (f x).1.tabListMap = x.tabListMap) {w1 : ItemBank} (hw1 : w1.tabListMap = w.tabListMap) :
    Ends n ((w1.removeItem tab slot).map f) := by
  rw [← hw1] at h
  exact Ends.of_map (removeItem_ends h ht slot) hf

theorem bankToCharSwap_ends (h : WholeTabs n w.tabListMap) (ht : tab < n) (slot bag plSlot i : Nat) (c : Option Nat) :
    Ends n (w.bankToCharSwap m v tab slot bag plSlot i c) := by
  unfold bankToCharSwap
  split
  · exact Ends.of_some h false
  split
  · exact Ends.of_some h false
  dsimp only
  split
  · exact Ends.of_some h false
  have hrem := (slotRem_tabs w v tab).1
  have hw : WholeTabs n (w.slotRem v tab).1.tabListMap := hrem.symm ▸ h
  cases c with
  | none =>
    dsimp only
    split
    · exact Ends.of_some hw false
    · exact take_ends h ht slot _ (fun x => withdrawn_tabs ..) hrem
  | some c =>
    obtain ⟨⟨err, gDest⟩, hr⟩ := canStoreItem_ends (m := m) h ht slot (w.inv.items c).count c true
    dsimp only
    rw [hr]
    cases err with
    | ok =>
      dsimp only
      split
      · exact Ends.of_some hw false
      · obtain ⟨x1, hx1, hw1⟩ := removeItem_ends (w := ((w.slotRem v tab).1.logWithdraw v tab i (w.inv.items i).count).logDeposit
          v tab c (w.inv.items c).count) hw ht slot
        rw [hx1, Option.map_some, Option.bind_some]
        exact Ends.of_map (storeItem_ends ht c gDest (w := x1.playerMoveItemFromInventory v bag plSlot) hw1)
          fun x => withdrawn_tabs ..
    | _ => exact Ends.of_some h false

theorem Ends.displayed {r : Option (ItemBank × Bool)} (h : Ends n r) : Ends n (r.map fun (r2 : ItemBank × Bool) =>
    if r2.2 = false then r2 else (r2.1.displayGuildBankContentUpdate tab v, true)) := by
  obtain ⟨x, rfl, hx⟩ := h
  refine ⟨_, rfl, ?_⟩
  dsimp only
  split
  · exact hx
  · rw [display_tabs]
    exact hx

theorem bankToChar_ends (h : WholeTabs n w.tabListMap) (ht : tab < n) (slot bag plSlot amount i : Nat) (c : Option Nat) :
    Ends n (w.bankToChar m v tab slot bag plSlot amount i c) := by
  unfold bankToChar
  split
  · exact Ends.of_some h false
  refine Ends.displayed ?_
  split
  · exact bankToCharSplit_ends h ..
  dsimp only
  split
  · have hrem := (slotRem_tabs w v tab).1
    split
    · exact Ends.of_some (hrem.symm ▸ h) false
    · exact take_ends h ht slot _ (fun x => withdrawn_tabs ..) hrem
  · exact bankToCharSwap_ends h ht ..

theorem charToBankSwap_ends (h : WholeTabs n w.tabListMap) (ht : tab < n) (slot bag plSlot c : Nat) (bank : Option Nat) :
    Ends n (w.charToBankSwap m v tab slot bag plSlot c bank) := by
  obtain ⟨⟨err, gDest⟩, hr⟩ := canStoreItem_ends (m := m) h ht slot (w.inv.items c).count c true
  unfold charToBankSwap
  rw [hr]
  cases bank with
  | none =>
    cases err with
    | ok =>
      exact Ends.of_map (storeItem_ends ht c gDest
        (w := (w.logDeposit v tab c (w.inv.items c).count).playerMoveItemFromInventory v bag plSlot) h) fun _ => rfl
    | _ => exact Ends.of_some h false
  | some b =>
    dsimp only
    split
    · exact Ends.of_some h false
    cases err with
    | ok =>
      have hw : WholeTabs n (w.slotRem v tab).1.tabListMap := (slotRem_tabs w v tab).1.symm ▸ h
      dsimp only
      split
      · exact Ends.of_some hw false
      · obtain ⟨x1, hx1, hw1⟩ := removeItem_ends (w := (((w.slotRem v tab).1.logWithdraw v tab b
          (w.inv.items b).count).logDeposit v tab c (w.inv.items c).count).playerMoveItemFromInventory v bag plSlot) hw ht
          slot
        rw [hx1, Option.bind_some]
        exact Ends.of_map (storeItem_ends ht c gDest hw1) fun x => withdrawn_tabs ..
    | _ => exact Ends.of_some h false

theorem charToBank_ends (h : WholeTabs n w.tabListMap) (ht : tab < n) (slot bag plSlot amount c : Nat)
    (bank : Option Nat) : Ends n (w.charToBank m v tab slot bag plSlot amount c bank) := by
  unfold charToBank
  split
  · exact Ends.of_some h false
  split
  · exact Ends.of_some h false
  split
  · exact Ends.of_some h false
  refine Ends.displayed ?_
  split
  · obtain ⟨⟨err, dest⟩, hr⟩ := canStoreItem_ends (m := m) h ht slot amount c false
    rw [hr]
    cases err with
    | ok =>
      dsimp only
      split
      · exact Ends.of_some h false
      · exact Ends.of_map (storeItem_ends ht _ dest (w := { w.logDeposit v tab c amount with inv := _ }) h) fun _ => rfl
    | _ => exact Ends.of_some h false
  · obtain ⟨⟨err, dest⟩, hr⟩ := canStoreItem_ends (m := m) h ht slot (w.inv.items c).count c false
    rw [hr]
    cases err with
    | ok =>
      exact Ends.of_map (storeItem_ends ht c dest
        (w := (w.logDeposit v tab c (w.inv.items c).count).playerMoveItemFromInventory v bag plSlot) h) fun _ => rfl
    | _ => exact charToBankSwap_ends h ht ..

theorem playerAndBank_ends (h : WholeTabs n w.tabListMap) (slot bag plSlot : Nat) {toChar : Bool} (amount : Nat)
    (hput : toChar = false → tab < n) : Ends n (w.playerAndBank m v tab slot bag plSlot toChar amount) := by
  obtain ⟨bank, hbank⟩ := getItem_ends h tab slot
  unfold playerAndBank
  rw [hbank]
  dsimp only
  split
  · split
    · exact Ends.of_some h false
    · exact bankToChar_ends h (lt_of_getItem h hbank).1 ..
  · next hno =>
    split
    · exact Ends.of_some h false
    · exact charToBank_ends h (hput (Bool.eq_false_iff.2 hno)) ..

/-! ### Moves to a tab that is not there -/

/-- A move within the bank that no check refuses before it looks for room in a tab that is not there. -/
def strays (w : ItemBank) (v : BankVisit) (tabDst slotDst tab slot amount : Nat) : Bool :=
  slotDst < guildBankMaxSlots && v.nearBank && v.inGuild && w.tabListMap.length ≤ tabDst &&
    match (w.getItem tab slot).join with
    | none => false
    | some src => amount ≤ (w.inv.items src).count && w.isMemberHaveRights v.pl tabDst guildBankRightDepositItem &&
        (w.slotRem v tab).2 != 0 && !(w.inv.items src).isSoulBound

theorem canStoreItem_soulbound (hb : (w.inv.items g).isSoulBound = true) (tab slot count : Nat) (swap : Bool) :
    ∃ err, w.canStoreItem m tab slot count g swap = some (err, []) ∧ err ≠ .ok := by
  unfold canStoreItem
  split
  · exact ⟨_, rfl, by decide⟩
  exact ⟨_, rfl, by decide⟩

theorem canStoreItem_stray (hb : (w.inv.items g).isSoulBound = false) (hc : count ≤ (w.inv.items g).count)
    (ht : w.tabAt tab = none) (slot : Nat) (swap : Bool) : w.canStoreItem m tab slot count g swap = none := by
  unfold canStoreItem
  rw [if_neg (Nat.not_lt.2 hc), hb, if_neg Bool.false_ne_true, ht]
  rfl

theorem bankMove_soulbound (hb : (w.inv.items g).isSoulBound = true) (tabDst slotDst tab slot : Nat)
    (itemDst : Option Nat) : w.bankMove m v tabDst slotDst tab slot g itemDst = some (w, false) := by
  obtain ⟨err, hr, herr⟩ := canStoreItem_soulbound (m := m) hb tabDst slotDst (w.inv.items g).count false
  obtain ⟨err', hr', herr'⟩ := canStoreItem_soulbound (m := m) hb tabDst slotDst (w.inv.items g).count true
  have hswap : w.bankSwap m v tabDst slotDst tab slot g itemDst = some (w, false) := by
    unfold bankSwap
    rw [hr']
    cases err' with
    | ok => exact absurd rfl herr'
    | _ => rfl
  unfold bankMove
  rw [hr]
  cases err with
  | ok => exact absurd rfl herr
  | _ => exact hswap

/-- What comes of a request that may stray: it reads outside of the list, or comes to its end. -/
def Outcome (n : Nat) (stray : Bool) (r : Option (ItemBank × Bool)) : Prop :=
  if stray = true then r = none else Ends n r

theorem Outcome.of_ends {stray : Bool} {r : Option (ItemBank × Bool)} (hst : stray = false) (h : Ends n r) :
    Outcome n stray r := by
  unfold Outcome
  rw [hst, if_neg Bool.false_ne_true]
  exact h

/-- **A move within the bank** reads outside of the list just if it strays. -/
theorem bankToBank_spec (h : WholeTabs n w.tabListMap) (hs : slotDst < guildBankMaxSlots) (hv : v.nearBank = true)
    (hg : v.inGuild = true) :
    Outcome n (w.strays v tabDst slotDst tab slot amount) (w.bankToBank m v tabDst slotDst tab slot amount) := by
  obtain ⟨x, hx⟩ := getItem_ends h tab slot
  obtain ⟨itemDst, hdst⟩ := getItem_ends h tabDst slotDst
  unfold Outcome strays bankToBank
  rw [hx, hv, hg, decide_eq_true hs, Bool.and_self, Bool.and_self, Bool.true_and, h.1]
  cases x with
  | none =>
    rw [Option.join_some, Bool.and_false, if_neg Bool.false_ne_true]
    exact Ends.of_some h false
  | some src =>
    dsimp only [Option.join_some]
    obtain ⟨ht, -⟩ := lt_of_getItem h hx
    by_cases hc : amount ≤ (w.inv.items src).count
    swap
    · simp only [hc, Nat.not_le.1 hc, decide_false, Bool.false_and, Bool.and_false, Bool.false_eq_true, if_false, if_true]
      exact Ends.of_some h false
    simp only [hc, Nat.not_lt.2 hc, decide_true, Bool.true_and, hdst, if_false]
    by_cases hin : n ≤ tabDst
    · -- the destination is not there
      have hne : tab ≠ tabDst := by omega
      rw [decide_eq_true hin, Bool.true_and]
      simp only [ne_eq, hne, not_false_iff, true_and, if_true]
      cases w.isMemberHaveRights v.pl tabDst guildBankRightDepositItem with
      | false =>
        simp only [Bool.false_and, Bool.false_eq_true, if_false, if_true]
        exact Ends.of_some h false
      | true =>
        rw [if_neg (by decide : ¬(true = false)), Bool.true_and]
        obtain ⟨hrem, hinv⟩ := slotRem_tabs w v tab
        by_cases h0 : (w.slotRem v tab).2 = 0
        · rw [if_pos h0, h0]
          exact Ends.of_some (hrem.symm ▸ h) false
        rw [if_neg h0, bne_iff_ne.2 h0, Bool.true_and]
        have hw : WholeTabs n (w.slotRem v tab).1.tabListMap := hrem.symm ▸ h
        have htab := tabAt_of_ge hw hin
        generalize hr : (w.slotRem v tab).1 = r at hw htab hinv
        rw [← hinv] at hc ⊢
        cases hb : (r.inv.items src).isSoulBound with
        | true =>
          obtain ⟨err, hst, herr⟩ := canStoreItem_soulbound (m := m) hb tabDst slotDst amount false
          rw [Bool.not_true, if_neg Bool.false_ne_true, bankMove_soulbound hb]
          have hsplit : r.bankSplit m v tabDst slotDst tab src amount = some (r, false) := by
            unfold bankSplit
            rw [hst]
            cases err with
            | ok => exact absurd rfl herr
            | _ => rfl
          rw [hsplit, ite_self]
          exact Ends.of_some hw false
        | false =>
          have hsplit : r.bankSplit m v tabDst slotDst tab src amount = none := by
            unfold bankSplit
            rw [canStoreItem_stray hb hc htab]
          have hmove : r.bankMove m v tabDst slotDst tab slot src itemDst = none := by
            unfold bankMove
            rw [canStoreItem_stray hb (Nat.le_refl _) htab]
          rw [Bool.not_false, if_pos rfl, hsplit, hmove, ite_self]
          rfl
    · rw [decide_eq_false hin, Bool.false_and, if_neg Bool.false_ne_true]
      have htd : tabDst < n := Nat.not_le.1 hin
      split
      · exact Ends.of_some h false
      have hrem : (if tab ≠ tabDst then w.slotRem v tab else (w, withdrawSlotUnlimited)).1.tabListMap = w.tabListMap := by
        split
        · exact (slotRem_tabs w v tab).1
        · rfl
      generalize (if tab ≠ tabDst then w.slotRem v tab else (w, withdrawSlotUnlimited)) = r at hrem
      have hw : WholeTabs n r.1.tabListMap := hrem.symm ▸ h
      split
      · exact Ends.of_some hw false
      have hmap : ∀ o, Ends n o → Ends n (o.map fun (r2 : ItemBank × Bool) =>
          if r2.2 = false then r2
          else
            (if tab ≠ tabDst then (r2.1.displayGuildBankContentUpdate tab v).displayGuildBankContentUpdate tabDst v
              else r2.1.displayGuildBankContentUpdate tab v, true)) := by
        rintro o ⟨y, rfl, hy⟩
        refine ⟨_, rfl, ?_⟩
        dsimp only
        split
        · exact hy
        split
        · rw [display_tabs, display_tabs]
          exact hy
        · rw [display_tabs]
          exact hy
      refine hmap _ ?_
      split
      · exact bankSplit_ends hw htd ..
      · refine bankMove_ends hw ht htd hs slot src ?_
        unfold getItem tabAt at hdst ⊢
        rw [hrem]
        exact hdst

/-- The request is a move within the bank that strays. -/
def straysIn (w : ItemBank) (v : BankVisit) : TabRequest → Bool
  | .swapItems (.bankToBank tabDst slotDst tab slot amount) =>
    w.strays v tabDst.toNat slotDst.toNat tab.toNat slot.toNat amount.toNat
  | _ => false

theorem strays_elsewhere (hst : w.strays v tabDst slotDst tab slot amount = true) :
    tabDst ≠ tab := by
  rintro rfl
  unfold strays at hst
  rw [Bool.and_eq_true, Bool.and_eq_true, decide_eq_true_eq] at hst
  obtain ⟨⟨-, hin⟩, hst⟩ := hst
  have hno : w.getItem tabDst slot = some none := if_pos (Or.inl hin)
  rw [hno] at hst
  cases hst

/-- **A request about the items** reads outside of the list just if it strays, and else leaves all tabs there. -/
theorem handle_spec (h : WholeTabs n w.tabListMap) (r : TabRequest) :
    Outcome n (w.straysIn v r) (w.handle m v r) := by
  cases r with
  | queryTab tab =>
    refine Outcome.of_ends rfl ⟨_, rfl, ?_⟩
    unfold handleGuildBankTabColon displayGuildBankContent
    split
    · exact h
    dsimp only
    split
    · exact h
    split
    · exact h
    rw [(slotRem_tabs w v _).1]
    exact h
  | swapItems r =>
    cases r with
    | bankToBank tabDst slotDst tab slot amount =>
      unfold straysIn handle handleGuildBankDepositItem
      dsimp only
      split
      · next hs =>
        refine Outcome.of_ends ?_ (Ends.of_some h false)
        unfold strays
        rw [decide_eq_false (Nat.not_lt.2 hs)]
        rfl
      next hs =>
      split
      · next hsame =>
        refine Outcome.of_ends (Bool.eq_false_iff.2 fun hst => ?_) (Ends.of_some h false)
        exact strays_elsewhere hst (congrArg UInt8.toNat hsame.1)
      split
      · next hv =>
        refine Outcome.of_ends ?_ (Ends.of_some h false)
        unfold strays
        rcases hv with hv | hv <;> simp [hv]
      · next hv =>
        rw [not_or, Bool.not_eq_false, Bool.not_eq_false] at hv
        exact bankToBank_spec h (Nat.not_le.1 hs) hv.1 hv.2
    | autoStore tab slot =>
      refine Outcome.of_ends rfl ?_
      unfold handle handleGuildBankDepositItem
      dsimp only
      split
      · exact Ends.of_some h false
      split
      · exact Ends.of_some h false
      · exact playerAndBank_ends h _ _ _ _ fun hc => nomatch hc
    | withChar tab slot bag plSlot toChar amount =>
      refine Outcome.of_ends rfl ?_
      unfold handle handleGuildBankDepositItem
      dsimp only
      split
      · exact Ends.of_some h false
      split
      · exact Ends.of_some h false
      split
      · exact Ends.of_some h false
      next htab =>
      split
      · exact Ends.of_some h false
      refine playerAndBank_ends h _ _ _ _ fun hput => ?_
      -- a tab that is put into was looked up
      have hhas : w.hasBankTab tab.toNat = true := by
        rw [not_and, Bool.not_eq_false] at htab
        exact htab (by simpa using hput)
      by_contra hge
      unfold hasBankTab at hhas
      rw [tabAt_of_ge h (Nat.not_lt.1 hge)] at hhas
      cases hhas

end ItemBank

namespace BankHouse

open ItemBank

variable {m : ObjectMgr} {w w' : BankHouse} {n : Nat}

/-! ### Loading finds the tabs of the database -/

theorem resizeTabs_length (n : Nat) (l : List (Option GuildBankTab)) : (resizeTabs n l).length = n := by
  unfold resizeTabs
  rw [List.length_take, List.length_append, List.length_replicate]
  omega

theorem loadTabs_spec (rows : List Nat) (hrows : ∀ tab ∈ rows, tab < n) {l : List (Option GuildBankTab)}
    (hl : l.length = n) : ∃ l', loadTabs rows l = some l' ∧ l'.length = n ∧
      ∀ i (hi : i < l'.length), (i ∈ rows ∨ ∃ t, l[i]? = some (some t)) → l'[i].isSome = true := by
  induction rows generalizing l with
  | nil =>
    refine ⟨l, rfl, hl, fun i hi h => ?_⟩
    rcases h with h | ⟨t, ht⟩
    · cases h
    · rw [List.getElem?_eq_getElem hi] at ht
      rw [Option.some.inj ht]
      rfl
  | cons tab rows ih =>
    have htab : tab < l.length := hl.symm ▸ hrows tab List.mem_cons_self
    obtain ⟨l', h1, h2, h3⟩ := ih (fun i hi => hrows i (List.mem_cons_of_mem _ hi))
      (l := l.set tab (some fun _ => none)) ((List.length_set ..).trans hl)
    refine ⟨l', ?_, h2, fun i hi h => h3 i hi ?_⟩
    · rw [loadTabs, if_pos htab]
      exact h1
    · by_cases hi' : i = tab
      · refine Or.inr ⟨fun _ => none, ?_⟩
        rw [hi', List.getElem?_set_self htab]
      · rw [List.getElem?_set_ne (fun hc => hi' hc.symm)]
        exact h.imp_left fun h => (List.mem_cons.1 h).resolve_left hi'

theorem loadItems_ends (ps : List (Nat × Nat)) (hps : ∀ p ∈ ps, p.1 < n) {l : List (Option GuildBankTab)}
    (hl : WholeTabs n l) : ∃ l', w.loadItems m ps l = some l' ∧ WholeTabs n l' := by
  induction ps generalizing l with
  | nil => exact ⟨l, rfl, hl⟩
  | cons p ps ih =>
    obtain ⟨tab, slot⟩ := p
    have hps' : ∀ p ∈ ps, p.1 < n := fun p hp => hps p (List.mem_cons_of_mem _ hp)
    unfold loadItems
    split
    · exact ih hps' hl
    split
    · exact ih hps' hl
    have htab : tab < l.length := hl.1.symm ▸ hps (tab, slot) List.mem_cons_self
    obtain ⟨t, ht⟩ := Option.isSome_iff_exists.1 (hl.2 _ (List.getElem_mem htab))
    rw [List.getElem?_eq_getElem htab, ht, Option.join_some]
    refine ih hps' ⟨(List.length_set ..).trans hl.1, fun x hx => ?_⟩
    rcases List.mem_or_eq_of_mem_set hx with hx | rfl
    · exact hl.2 x hx
    · rfl

/-- The database has the tabs that were bought, and a loaded bank has them all. -/
structure Backed (w : BankHouse) : Prop where
  few : w.purchasedTabs ≤ guildBankMaxTabs
  rows : w.tabRows = List.range w.purchasedTabs
  whole : w.bankLoaded = true → WholeTabs w.purchasedTabs w.bank.tabListMap
  empty : w.purchasedTabs = 0 → w.bank.tabListMap = []

/-- What lies outside of the list of tabs is the same. -/
structure SameHouse (w w' : BankHouse) : Prop where
  tabs : w'.purchasedTabs = w.purchasedTabs
  rows : w'.tabRows = w.tabRows
  eventlog : w'.eventlogLoaded = w.eventlogLoaded
  count : w'.onlineMembers = w.onlineMembers
  online : w'.online = w.online

theorem SameHouse.refl (w : BankHouse) : SameHouse w w := ⟨rfl, rfl, rfl, rfl, rfl⟩

theorem SameHouse.trans {w1 w2 w3 : BankHouse} (h : SameHouse w1 w2) (h' : SameHouse w2 w3) : SameHouse w1 w3 :=
  ⟨h'.tabs.trans h.tabs, h'.rows.trans h.rows, h'.eventlog.trans h.eventlog, h'.count.trans h.count,
    h'.online.trans h.online⟩

/-- **Loading** gives a whole list. -/
theorem load_spec (h : Backed w) : ∃ w', w.loadGuildBankFromDB m = some w' ∧ w'.bankLoaded = true ∧
    WholeTabs w.purchasedTabs w'.bank.tabListMap ∧ SameHouse w w' := by
  unfold loadGuildBankFromDB
  split
  · next hl => exact ⟨w, rfl, hl, h.whole hl, SameHouse.refl w⟩
  rw [h.rows]
  split
  · next h0 =>
    have h0 : w.purchasedTabs = 0 := List.range_eq_nil.1 h0
    refine ⟨_, rfl, rfl, ⟨?_, ?_⟩, h0.symm, h.rows.symm, rfl, rfl, rfl⟩
    · rw [h.empty h0, h0]
      rfl
    · intro t ht
      rw [h.empty h0] at ht
      cases ht
  · obtain ⟨l1, h1, hlen, hsome⟩ := loadTabs_spec (n := w.purchasedTabs) (List.range w.purchasedTabs)
      (fun i hi => List.mem_range.1 hi) (resizeTabs_length _ w.bank.tabListMap)
    have hw1 : WholeTabs w.purchasedTabs l1 := by
      refine ⟨hlen, fun t ht => ?_⟩
      obtain ⟨i, hi, rfl⟩ := List.mem_iff_getElem.1 ht
      exact hsome i hi (Or.inl (List.mem_range.2 (hlen ▸ hi)))
    obtain ⟨l2, h2, hw2⟩ := loadItems_ends (m := m) (w := w) w.rowPositions (fun p hp => by
      obtain ⟨tab, htab, hp⟩ := List.mem_flatMap.1 hp
      obtain ⟨slot, -, rfl⟩ := List.mem_map.1 hp
      have := List.mem_range.1 htab
      show tab < w.purchasedTabs
      omega) hw1
    rw [h1, Option.bind_some, h2]
    exact ⟨_, rfl, rfl, hw2, rfl, rfl, rfl, rfl, rfl⟩

theorem readsTabs_of_whole (h : WholeTabs w.purchasedTabs w.bank.tabListMap) : w.readsTabs = true := by
  unfold readsTabs
  rw [List.all_eq_true]
  intro i hi
  obtain ⟨t, ht⟩ := tabAt_of_whole h (List.mem_range.1 hi)
  unfold hasBankTab
  rw [ht]
  rfl

/-- **To show the tabs** reads all of them. -/
theorem display_spec (h : Backed w) : ∃ w', w.displayGuildBankTabsInfo m = some w' ∧ w'.bankLoaded = true ∧
    WholeTabs w.purchasedTabs w'.bank.tabListMap ∧ SameHouse w w' := by
  obtain ⟨w', h1, h2, h3, h4⟩ := load_spec (m := m) h
  refine ⟨w', ?_, h2, h3, h4⟩
  unfold displayGuildBankTabsInfo
  rw [h1, Option.bind_some, if_pos (readsTabs_of_whole (h4.tabs.symm ▸ h3))]

/-- **Between two events**: a bank that is not loaded has an empty list. -/
structure Kept (w : BankHouse) : Prop extends Backed w where
  unloaded : w.bankLoaded = false → w.bank.tabListMap = []

theorem Kept.of_loaded {w : BankHouse} (h : Backed w) (hl : w.bankLoaded = true) : Kept w :=
  ⟨h, fun hc => Bool.noConfusion (hl.symm.trans hc)⟩

theorem SameHouse.kept (hs : SameHouse w w') (h : Backed w) (hl : w'.bankLoaded = true)
    (hw : WholeTabs w.purchasedTabs w'.bank.tabListMap) : Kept w' := by
  rw [← hs.tabs] at hw
  refine Kept.of_loaded ⟨hs.tabs.trans_le h.few, ?_, fun _ => hw, fun h0 => ?_⟩ hl
  · rw [hs.rows, hs.tabs]
    exact h.rows
  · exact List.length_eq_zero_iff.1 (hw.1.trans h0)

theorem unload_spec (h : Kept w) : ∃ w', w.unloadGuildBank = some w' ∧ w'.bankLoaded = false ∧
    w'.bank.tabListMap = [] ∧ SameHouse w w' := by
  unfold unloadGuildBank
  split
  · next hl => exact ⟨w, rfl, hl, h.unloaded hl, SameHouse.refl w⟩
  · next hl =>
    rw [if_pos (readsTabs_of_whole (h.whole (Bool.not_eq_false _ ▸ hl)))]
    exact ⟨_, rfl, rfl, rfl, rfl, rfl, rfl, rfl, rfl⟩

/-- **A new tab** is the last, in the list and in the database. -/
theorem createNewBankTab_spec (h : Backed w) (hlt : w.purchasedTabs < guildBankMaxTabs) :
    Backed w.createNewBankTab ∧ w.createNewBankTab.purchasedTabs = w.purchasedTabs + 1 := by
  unfold createNewBankTab
  rw [if_neg (Nat.not_le.2 hlt)]
  refine ⟨⟨hlt, ?_, fun hl => ?_, fun h0 => nomatch h0⟩, rfl⟩
  · show w.tabRows.filter (· < w.purchasedTabs) ++ w.purchasedTabs :: w.tabRows.filter (w.purchasedTabs < ·) = _
    rw [h.rows, List.range_succ]
    have h1 : (List.range w.purchasedTabs).filter (· < w.purchasedTabs) = List.range w.purchasedTabs :=
      List.filter_eq_self.2 fun i hi => decide_eq_true (List.mem_range.1 hi)
    have h2 : (List.range w.purchasedTabs).filter (w.purchasedTabs < ·) = [] :=
      List.filter_eq_nil_iff.2 fun i hi => by
        rw [decide_eq_true_eq]
        exact Nat.not_lt.2 (Nat.le_of_lt (List.mem_range.1 hi))
    rw [h1, h2]
  · obtain ⟨hlen, hsome⟩ := h.whole hl
    refine ⟨(List.length_set ..).trans (resizeTabs_length ..), fun t ht => ?_⟩
    have hgrow : resizeTabs (w.purchasedTabs + 1) w.bank.tabListMap = w.bank.tabListMap ++ [none] := by
      unfold resizeTabs
      rw [hlen, Nat.add_sub_cancel_left, List.take_of_length_le (by
        rw [List.length_append, hlen, List.length_replicate])]
      rfl
    have ht' : t ∈ (w.bank.tabListMap ++ [none]).set w.purchasedTabs (some fun _ => none) := hgrow ▸ ht
    rw [← hlen, List.set_append_right _ _ (Nat.le_refl _), Nat.sub_self] at ht'
    rcases List.mem_append.1 ht' with ht' | ht'
    · exact hsome t ht'
    · rw [List.mem_singleton.1 ht']
      rfl

/-! ## The law -/

/-- The event reads the list of tabs as it is. -/
def readsAtOnce : HouseEvent → Bool
  | .tabRequest v _ | .updateTab v _ => v.nearBank && v.inGuild
  | _ => false

/-- The last of the members online logs out. -/
def lastLeaves (w : BankHouse) : HouseEvent → Bool
  | .logout pl => pl ∈ w.online && (w.bank.members pl).isSome && w.online.erase pl = ∅
  | _ => false

/-- **The law** of one event: every read is in the list; what is read there are all the tabs that were bought;
and the bank and the log of the guild are unloaded when the last member online leaves, and only then. -/
structure TabsKept (om : ObjectMgr) (w : BankHouse) (e : HouseEvent) : Prop where
  inRange : (w.handle om e).isSome = true
  found : readsAtOnce e = true → WholeTabs w.purchasedTabs w.bank.tabListMap
  shown : ∀ w', w.handle om e = some (w', true) → WholeTabs w'.purchasedTabs w'.bank.tabListMap
  unloads : w.lastLeaves e = true → (w.after om e).bankLoaded = false ∧ (w.after om e).eventlogLoaded = false
  stays : w.lastLeaves e = false → (w.bankLoaded = true → (w.after om e).bankLoaded = true) ∧
    (w.eventlogLoaded = true → (w.after om e).eventlogLoaded = true)

/-- An event that does not meet one of the two faults: a logout finds the count at 0 just if nobody else is online,
and a move within the bank does not stray. -/
def heedful (w : BankHouse) : HouseEvent → Bool
  | .logout pl => !(pl ∈ w.online && (w.bank.members pl).isSome) || (w.onlineMembers == 0) == (w.online.erase pl = ∅ : Bool)
  | .tabRequest v r => !w.bank.straysIn v r
  | _ => true

/-- The list is there, or there are no tabs. -/
def accessible (w : BankHouse) (e : HouseEvent) : Bool := !readsAtOnce e || w.bankLoaded || w.purchasedTabs == 0

/-- A guild as `LoadGuilds` leaves it, of the tabs that were bought before. -/
def Started (om : ObjectMgr) (w : BankHouse) : Prop :=
  ∃ w0 : BankHouse, w0.tabRows = List.range w0.tabRows.length ∧ w0.tabRows.length ≤ guildBankMaxTabs ∧
    w0.loadGuild om = some w

/-- A guild as `Guild::Create` leaves it: the flags and the count of members online are not initialised. -/
def Founded (w : BankHouse) : Prop := w.purchasedTabs = 0 ∧ w.tabRows = [] ∧ w.bank.tabListMap = []

theorem Kept.whole_of_accessible {e : HouseEvent} (h : Kept w) (ha : w.accessible e = true) (hr : readsAtOnce e = true) :
    WholeTabs w.purchasedTabs w.bank.tabListMap := by
  unfold accessible at ha
  rw [hr, Bool.not_true, Bool.false_or, Bool.or_eq_true, beq_iff_eq] at ha
  rcases ha with hl | h0
  · exact h.whole hl
  · rw [h.empty h0, h0]
    exact ⟨rfl, fun t ht => nomatch ht⟩

theorem after_of_handle {e : HouseEvent} {b : Bool} (h : w.handle m e = some (w', b)) : w.after m e = w' := by
  unfold after
  rw [h]

theorem lawful {e : HouseEvent} {b : Bool} (h : Kept w) (ha : w.accessible e = true) (hlast : w.lastLeaves e = false)
    (he : w.handle m e = some (w', b)) (hk : Kept w') (hb : b = true → w'.bankLoaded = true)
    (hl : w.bankLoaded = true → w'.bankLoaded = true) (hlog : w.eventlogLoaded = true → w'.eventlogLoaded = true) :
    Kept (w.after m e) ∧ TabsKept m w e := by
  have hafter := after_of_handle he
  refine ⟨hafter ▸ hk, ⟨by rw [he]; rfl, h.whole_of_accessible ha, fun w1 h1 => ?_, fun hc => ?_, fun _ => ?_⟩⟩
  · rw [he] at h1
    cases h1
    exact hk.whole (hb rfl)
  · rw [hlast] at hc
    cases hc
  · rw [hafter]
    exact ⟨hl, hlog⟩

/-- An event that shows the tabs of a guild that is backed, and may read the content of one. -/
theorem lawful_of_display {e : HouseEvent} (h : Kept w) (ha : w.accessible e = true) (hlast : w.lastLeaves e = false)
    {w1 : BankHouse} (hw1 : Backed w1) (hlog : w1.eventlogLoaded = w.eventlogLoaded) {f : BankHouse → BankHouse}
    (hf : ∀ x, (f x).bank.tabListMap = x.bank.tabListMap ∧ SameHouse x (f x) ∧ (f x).bankLoaded = x.bankLoaded)
    (he : w.handle m e = (w1.displayGuildBankTabsInfo m).map fun x => (f x, true)) :
    Kept (w.after m e) ∧ TabsKept m w e := by
  obtain ⟨w2, h1, h2, h3, h4⟩ := display_spec (m := m) hw1
  rw [h1, Option.map_some] at he
  obtain ⟨htabs, hsame, hload⟩ := hf w2
  have hs := h4.trans hsame
  have hl2 : (f w2).bankLoaded = true := hload.trans h2
  refine lawful h ha hlast he (hs.kept hw1 hl2 (htabs.symm ▸ h3)) (fun _ => hl2) (fun _ => hl2) fun hl => ?_
  rw [hs.eventlog, hlog, hl]

theorem step_refused {e : HouseEvent} (h : Kept w) (ha : w.accessible e = true) (hlast : w.lastLeaves e = false)
    (he : w.handle m e = some (w, false)) : Kept (w.after m e) ∧ TabsKept m w e :=
  lawful h ha hlast he h (fun hc => nomatch hc) id id

theorem Kept.congr (h : Kept w) (hn : w'.purchasedTabs = w.purchasedTabs) (hr : w'.tabRows = w.tabRows)
    (hl : w'.bankLoaded = w.bankLoaded) (ht : w'.bank.tabListMap = w.bank.tabListMap) : Kept w' := by
  refine ⟨⟨hn.trans_le h.few, ?_, fun hc => ?_, fun h0 => ?_⟩, fun hc => ?_⟩
  · rw [hr, hn]
    exact h.rows
  · rw [hn, ht]
    exact h.whole (hl.symm.trans hc)
  · rw [ht]
    exact h.empty (hn.symm.trans h0)
  · rw [ht]
    exact h.unloaded (hl.symm.trans hc)

theorem login_kept (h : Kept w) (pl : Nat) :
    Kept (w.after m (.login pl)) ∧ TabsKept m w (.login pl) := by
  refine lawful h rfl rfl rfl (h.congr ?_ ?_ ?_ ?_) (fun hc => nomatch hc) ?_ ?_
  all_goals
    unfold login
    split
    · first | rfl | exact id
    · first | rfl | exact id

theorem logout_kept (h : Kept w) (pl : Nat) (hh : w.heedful (.logout pl) = true) :
    Kept (w.after m (.logout pl)) ∧ TabsKept m w (.logout pl) := by
  by_cases hin : pl ∉ w.online ∨ (w.bank.members pl).isNone = true
  · refine step_refused h rfl ?_ ?_
    · unfold lastLeaves
      dsimp only
      rcases hin with hin | hin
      · rw [decide_eq_false hin]
        rfl
      · rw [Option.isNone_iff_eq_none] at hin
        rw [hin]
        simp
    · unfold handle logout
      dsimp only
      rw [if_pos hin]
      rfl
  have hlogout : w.handle m (.logout pl) =
      (if w.onlineMembers > 0 then some { w with onlineMembers := w.onlineMembers - 1 }
        else w.unloadGuildBank.map unloadGuildEventlog).map fun w1 =>
          ({ w1 with online := w1.online.erase pl }, false) := by
    unfold handle logout updateLogoutTime
    dsimp only
    rw [if_neg hin, if_neg fun hc => hin (Or.inr hc), Option.map_map]
    rfl
  rw [not_or, not_not] at hin
  have hmem : (w.bank.members pl).isSome = true := by
    rw [← Option.not_isNone, Bool.not_eq_true', Bool.eq_false_iff]
    exact hin.2
  have hlast : w.lastLeaves (.logout pl) = (w.onlineMembers == 0) := by
    unfold heedful at hh
    unfold lastLeaves
    dsimp only at hh ⊢
    rw [decide_eq_true hin.1, hmem, Bool.and_self, Bool.not_true, Bool.false_or, beq_iff_eq] at hh
    rw [decide_eq_true hin.1, hmem, Bool.and_self, Bool.true_and, hh]
  by_cases h0 : w.onlineMembers > 0
  · -- the count is not yet 0: only the count changes
    rw [if_pos h0] at hlogout
    refine lawful h rfl (by rw [hlast]; exact beq_eq_false_iff_ne.2 (Nat.pos_iff_ne_zero.1 h0)) hlogout
      (h.congr rfl rfl rfl rfl) (fun hc => nomatch hc) id id
  · obtain ⟨w1, h1, h2, h3, h4⟩ := unload_spec h
    rw [if_neg h0, h1] at hlogout
    have hafter := after_of_handle hlogout
    have h0' : w.onlineMembers = 0 := Nat.eq_zero_of_not_pos h0
    refine ⟨?_, by rw [hlogout]; rfl, (fun hc => nomatch hc), fun w2 hw2 => ?_, fun _ => ?_, fun hc => ?_⟩
    · rw [hafter]
      refine ⟨⟨h4.tabs.trans_le h.few, ?_, fun hc => ?_, fun _ => h3⟩, fun _ => h3⟩
      · exact h4.rows.trans (h.rows.trans (congrArg List.range h4.tabs.symm))
      · exact Bool.noConfusion (h2.symm.trans hc)
    · rw [hlogout] at hw2
      cases hw2
    · rw [hafter]
      exact ⟨h2, rfl⟩
    · rw [hlast, h0'] at hc
      cases hc

theorem activate_kept (h : Kept w) (v : BankVisit) :
    Kept (w.after m (.activate v)) ∧ TabsKept m w (.activate v) := by
  by_cases hv : v.nearBank = false ∨ v.inGuild = false
  · exact step_refused h rfl rfl (if_pos hv)
  · exact lawful_of_display h rfl rfl h.toBacked rfl (f := id) (fun x => ⟨rfl, SameHouse.refl x, rfl⟩) (if_neg hv)

theorem displayContent_tabs (w : ItemBank) (v : BankVisit) (tab : Nat) :
    (w.displayGuildBankContent v tab).tabListMap = w.tabListMap := by
  unfold displayGuildBankContent
  split
  · rfl
  split
  · rfl
  · exact (slotRem_tabs w v tab).1

theorem updateTab_kept (h : Kept w) (v : BankVisit) (tab : UInt8) (ha : w.accessible (.updateTab v tab) = true) :
    Kept (w.after m (.updateTab v tab)) ∧ TabsKept m w (.updateTab v tab) := by
  by_cases hv : v.nearBank = false ∨ v.inGuild = false
  · exact step_refused h ha rfl (if_pos hv)
  · exact lawful_of_display h ha rfl h.toBacked rfl
      (f := fun x => { x with bank := x.bank.displayGuildBankContent v tab.toNat })
      (fun x => ⟨displayContent_tabs .., ⟨rfl, rfl, rfl, rfl, rfl⟩, rfl⟩) (if_neg hv)

theorem setBankRightsAndSlots_same (w : BankHouse) (rankId tab right slots : Nat) :
    (w.setBankRightsAndSlots rankId tab right slots).bank.tabListMap = w.bank.tabListMap ∧
      SameHouse w (w.setBankRightsAndSlots rankId tab right slots) ∧
      (w.setBankRightsAndSlots rankId tab right slots).bankLoaded = w.bankLoaded := by
  unfold setBankRightsAndSlots
  split <;> exact ⟨rfl, ⟨rfl, rfl, rfl, rfl, rfl⟩, rfl⟩

theorem Backed.congr (h : Backed w) (hs : SameHouse w w') (hl : w'.bankLoaded = w.bankLoaded)
    (ht : w'.bank.tabListMap = w.bank.tabListMap) : Backed w' := by
  refine ⟨hs.tabs.trans_le h.few, ?_, fun hc => ?_, fun h0 => ?_⟩
  · rw [hs.rows, hs.tabs]
    exact h.rows
  · rw [hs.tabs, ht]
    exact h.whole (hl.symm.trans hc)
  · rw [ht]
    exact h.empty (hs.tabs.symm.trans h0)

/-- **A purchase** adds a tab to the list and the database, and shows them all. -/
theorem buyTab_kept (h : Kept w) (v : BankVisit) (tab : UInt8) :
    Kept (w.after m (.buyTab v tab)) ∧ TabsKept m w (.buyTab v tab) := by
  have hrefused : w.handle m (.buyTab v tab) = some (w, false) →
      Kept (w.after m (.buyTab v tab)) ∧ TabsKept m w (.buyTab v tab) := step_refused h rfl rfl
  have hbuy : w.handle m (.buyTab v tab) = w.handleGuildBankBuyTab m v tab := rfl
  unfold handleGuildBankBuyTab at hbuy
  dsimp only at hbuy
  split at hbuy
  · exact hrefused hbuy
  split at hbuy
  · exact hrefused hbuy
  split at hbuy
  · exact hrefused hbuy
  next hlt =>
  split at hbuy
  · exact hrefused hbuy
  split at hbuy
  · exact hrefused hbuy
  obtain ⟨hback, hn⟩ := createNewBankTab_spec h.toBacked (Nat.not_le.1 hlt)
  have hlog : w.createNewBankTab.eventlogLoaded = w.eventlogLoaded := by
    unfold createNewBankTab
    split <;> rfl
  generalize w.createNewBankTab = w1 at hbuy hback hn hlog
  -- the payment and the rights leave the list alone
  generalize hw2 : ({ w1 with money := Function.update w1.money v.pl (modifyMoney (w1.money v.pl)
    (-toInt32 (u32 (getGuildBankTabPrice tab.toNat * goldCoin)))) } : BankHouse) = w2 at hbuy
  have hs2 : SameHouse w1 w2 ∧ w2.bankLoaded = w1.bankLoaded ∧ w2.bank.tabListMap = w1.bank.tabListMap := by
    subst hw2
    exact ⟨⟨rfl, rfl, rfl, rfl, rfl⟩, rfl, rfl⟩
  have hb2 : Backed w2 := hback.congr hs2.1 hs2.2.1 hs2.2.2
  split at hbuy
  · exact lawful_of_display h rfl rfl hb2 (hs2.1.eventlog.trans hlog) (f := id) (fun x => ⟨rfl, SameHouse.refl x, rfl⟩)
      hbuy
  · obtain ⟨ht3, hs3, hl3⟩ := setBankRightsAndSlots_same w2 _ tab.toNat guildBankRightFull withdrawSlotUnlimited
    exact lawful_of_display h rfl rfl (hb2.congr hs3 hl3 ht3) (hs3.eventlog.trans (hs2.1.eventlog.trans hlog)) (f := id)
      (fun x => ⟨rfl, SameHouse.refl x, rfl⟩) hbuy

theorem eventLog_kept (h : Kept w) (v : BankVisit) :
    Kept (w.after m (.eventLog v)) ∧ TabsKept m w (.eventLog v) := by
  have hload : (w.handleGuildEventLogOpcode v).bank = w.bank ∧ (w.handleGuildEventLogOpcode v).bankLoaded = w.bankLoaded ∧
      SameHouse { w with eventlogLoaded := (w.handleGuildEventLogOpcode v).eventlogLoaded } (w.handleGuildEventLogOpcode v) ∧
      (w.eventlogLoaded = true → (w.handleGuildEventLogOpcode v).eventlogLoaded = true) := by
    unfold handleGuildEventLogOpcode loadGuildEventLogFromDB
    split
    · exact ⟨rfl, rfl, ⟨rfl, rfl, rfl, rfl, rfl⟩, id⟩
    split
    · exact ⟨rfl, rfl, ⟨rfl, rfl, rfl, rfl, rfl⟩, id⟩
    · exact ⟨rfl, rfl, ⟨rfl, rfl, rfl, rfl, rfl⟩, fun _ => rfl⟩
  obtain ⟨hb, hl, hs, hlog⟩ := hload
  exact lawful h rfl rfl rfl (h.congr hs.tabs hs.rows hl (congrArg ItemBank.tabListMap hb)) (fun hc => nomatch hc)
    (fun hc => hl.trans hc) hlog

theorem tabRequest_kept (h : Kept w) (v : BankVisit) (r : TabRequest) (hh : w.heedful (.tabRequest v r) = true)
    (ha : w.accessible (.tabRequest v r) = true) :
    Kept (w.after m (.tabRequest v r)) ∧ TabsKept m w (.tabRequest v r) := by
  have hst : w.bank.straysIn v r = false := by
    unfold heedful at hh
    exact Bool.not_eq_true' _ ▸ hh
  have hends : ∀ n, WholeTabs n w.bank.tabListMap → Ends n (w.bank.handle m v r) := by
    intro n hw
    have hspec := handle_spec (m := m) (v := v) hw r
    unfold Outcome at hspec
    rw [hst, if_neg Bool.false_ne_true] at hspec
    exact hspec
  -- an unloaded bank has the empty list
  have hw : WholeTabs w.bank.tabListMap.length w.bank.tabListMap := by
    cases hl : w.bankLoaded with
    | true => exact ⟨rfl, (h.whole hl).2⟩
    | false =>
      rw [h.unloaded hl]
      exact ⟨rfl, fun t ht => nomatch ht⟩
  obtain ⟨x, hx, hwx⟩ := hends _ hw
  have he : w.handle m (.tabRequest v r) = some ({ w with bank := x.1, itemRows := w.itemRowsAfter x.1 }, false) := by
    show (w.handleTabRequest m v r).map _ = _
    unfold handleTabRequest
    rw [hx]
    rfl
  refine lawful h ha rfl he ⟨⟨h.few, h.rows, fun hl => ?_, fun h0 => ?_⟩, fun hl => ?_⟩ (fun hc => nomatch hc) id id
  · exact ⟨hwx.1.trans (h.whole hl).1, hwx.2⟩
  · exact List.length_eq_zero_iff.1 (hwx.1.trans (congrArg List.length (h.empty h0)))
  · exact List.length_eq_zero_iff.1 (hwx.1.trans (congrArg List.length (h.unloaded hl)))

/-- **One event** keeps the tabs and the law. -/
theorem Kept.after (h : Kept w) (e : HouseEvent) (hh : w.heedful e = true) (ha : w.accessible e = true) :
    Kept (w.after m e) ∧ TabsKept m w e := by
  cases e with
  | login pl => exact login_kept h pl
  | logout pl => exact logout_kept h pl hh
  | activate v => exact activate_kept h v
  | buyTab v tab => exact buyTab_kept h v tab
  | updateTab v tab => exact updateTab_kept h v tab ha
  | tabRequest v r => exact tabRequest_kept h v r hh ha
  | eventLog v => exact eventLog_kept h v

/-! ### The count of members online -/

/-- The count is that of the members with a session. -/
def Counted (w : BankHouse) : Prop := w.onlineMembers = u32 w.online.card

theorem Counted.congr (h : Counted w) (hn : w'.onlineMembers = w.onlineMembers) (ho : w'.online = w.online) :
    Counted w' := by
  unfold Counted
  rw [hn, ho]
  exact h

theorem load_counted (h : Counted w) (hl : w.loadGuildBankFromDB m = some w') : Counted w' := by
  unfold loadGuildBankFromDB at hl
  split at hl
  · exact Option.some.inj hl ▸ h
  split at hl
  · exact Option.some.inj hl ▸ h
  · obtain ⟨l, -, rfl⟩ := Option.map_eq_some_iff.1 hl
    exact h

theorem display_counted (h : Counted w) (hl : w.displayGuildBankTabsInfo m = some w') : Counted w' := by
  obtain ⟨w1, hw1, hd⟩ := Option.bind_eq_some_iff.1 hl
  split at hd
  · exact Option.some.inj hd ▸ load_counted h hw1
  · cases hd

theorem setBankRightsAndSlots_counted (h : Counted w) (rankId tab right slots : Nat) :
    Counted (w.setBankRightsAndSlots rankId tab right slots) :=
  have hs := (setBankRightsAndSlots_same w rankId tab right slots).2.1
  h.congr hs.count hs.online

theorem login_counted (h : Counted w) (pl : Nat) : Counted (w.login pl) := by
  unfold login
  split
  · exact h
  · next hin =>
    rw [not_or] at hin
    unfold Counted at h ⊢
    dsimp only
    rw [Finset.card_insert_of_notMem hin.1, h]
    exact Nat.mod_add_mod ..

theorem logout_counted (h : Counted w) {pl : Nat} (hh : w.heedful (.logout pl) = true)
    (hl : w.logout pl = some w') : Counted w' := by
  unfold logout at hl
  split at hl
  · exact Option.some.inj hl ▸ h
  next hin =>
  rw [not_or, not_not] at hin
  have hpos := Finset.card_pos.2 ⟨pl, hin.1⟩
  obtain ⟨w1, hw1, rfl⟩ := Option.map_eq_some_iff.1 hl
  unfold updateLogoutTime at hw1
  rw [if_neg hin.2] at hw1
  unfold Counted u32 at h ⊢
  dsimp only
  split at hw1
  · next h0 =>
    cases hw1
    dsimp only
    rw [Finset.card_erase_of_mem hin.1]
    omega
  · -- the count is 0: nobody else is online, and one cannot be counted as 0
    next h0 =>
    obtain ⟨w2, -, rfl⟩ := Option.map_eq_some_iff.1 hw1
    have h0 : w.onlineMembers = 0 := Nat.eq_zero_of_not_pos h0
    have hmem : (w.bank.members pl).isSome = true := by
      rw [← Option.not_isNone, Bool.not_eq_true', Bool.eq_false_iff]
      exact hin.2
    unfold heedful at hh
    dsimp only at hh
    rw [decide_eq_true hin.1, hmem, h0, Bool.and_self, Bool.not_true, Bool.false_or, beq_self_eq_true, beq_iff_eq,
      eq_comm, decide_eq_true_eq] at hh
    have hcard := Finset.card_erase_of_mem hin.1
    rw [hh, Finset.card_empty] at hcard
    omega

/-- **The count is right** along events that keep it. -/
theorem Counted.after (h : Counted w) (e : HouseEvent) (hh : w.heedful e = true) :
    Counted (w.after m e) := by
  unfold BankHouse.after
  cases he : w.handle m e with
  | none => exact h
  | some r =>
    obtain ⟨w', b⟩ := r
    dsimp only
    cases e with
    | login pl =>
      cases he
      exact login_counted h pl
    | logout pl =>
      obtain ⟨w1, hw1, hb⟩ := Option.map_eq_some_iff.1 he
      cases hb
      exact logout_counted h hh hw1
    | eventLog v =>
      cases he
      refine h.congr ?_ ?_
      all_goals
        unfold handleGuildEventLogOpcode loadGuildEventLogFromDB
        split
        · rfl
        split <;> rfl
    | tabRequest v r =>
      obtain ⟨x, hx, hb⟩ := Option.map_eq_some_iff.1 he
      cases hb
      obtain ⟨y, -, rfl⟩ := Option.map_eq_some_iff.1 hx
      exact h.congr rfl rfl
    | activate v =>
      have he : w.handleGuildBankQuery m v = some (w', b) := he
      unfold handleGuildBankQuery at he
      split at he
      · cases he
        exact h
      · obtain ⟨w1, hw1, hb⟩ := Option.map_eq_some_iff.1 he
        cases hb
        exact display_counted h hw1
    | updateTab v tab =>
      have he : w.handleGuildBankModifyTab m v tab = some (w', b) := he
      unfold handleGuildBankModifyTab at he
      split at he
      · cases he
        exact h
      · obtain ⟨w1, hw1, hb⟩ := Option.map_eq_some_iff.1 he
        cases hb
        exact (display_counted h hw1).congr rfl rfl
    | buyTab v tab =>
      have he : w.handleGuildBankBuyTab m v tab = some (w', b) := he
      have hrefused : some (w, false) = some (w', b) → Counted w' := fun hc =>
        (Prod.mk.inj (Option.some.inj hc)).1 ▸ h
      unfold handleGuildBankBuyTab at he
      dsimp only at he
      split at he
      · exact hrefused he
      split at he
      · exact hrefused he
      split at he
      · exact hrefused he
      split at he
      · exact hrefused he
      split at he
      · exact hrefused he
      obtain ⟨w1, hw1, hb⟩ := Option.map_eq_some_iff.1 he
      cases hb
      have hnew : Counted w.createNewBankTab := by
        unfold createNewBankTab
        split
        · exact h
        · exact h.congr rfl rfl
      split at hw1
      · refine display_counted ?_ hw1
        exact hnew.congr rfl rfl
      · refine display_counted ?_ hw1
        apply setBankRightsAndSlots_counted
        exact hnew.congr rfl rfl

theorem lastLeaves_of_counted (h : Counted w) {e : HouseEvent} (hh : w.heedful e = true) : w.lastLeaves e = false := by
  cases e with
  | logout pl =>
    rw [Bool.eq_false_iff]
    intro hl
    unfold lastLeaves at hl
    unfold heedful at hh
    dsimp only at hl hh
    rw [Bool.and_eq_true, decide_eq_true_eq] at hl
    obtain ⟨hin, hl⟩ := hl
    rw [hin, hl, Bool.not_true, Bool.false_or] at hh
    have h0 : w.onlineMembers = 0 := by simpa using hh
    rw [Bool.and_eq_true, decide_eq_true_eq] at hin
    have hcard := Finset.card_erase_of_mem hin.1
    have hpos := Finset.card_pos.2 ⟨pl, hin.1⟩
    rw [hl, Finset.card_empty] at hcard
    unfold Counted u32 at h
    omega
  | _ => rfl

/-! ### The start -/

theorem Founded.kept (h : Founded w) : Kept w := by
  obtain ⟨hn, hr, hl⟩ := h
  refine ⟨⟨hn ▸ Nat.zero_le _, by rw [hr, hn]; rfl, fun _ => ?_, fun _ => hl⟩, fun _ => hl⟩
  rw [hn, hl]
  exact ⟨rfl, fun t ht => nomatch ht⟩

/-- **A guild that was loaded** has its bank loaded and nobody online. -/
theorem Started.kept (h : Started m w) : Kept w ∧ w.bankLoaded = true ∧ Counted w := by
  obtain ⟨w0, hrows, hlen, hload⟩ := h
  unfold loadGuild at hload
  have hn : min (w0.tabRows.length % 256) guildBankMaxTabs = w0.tabRows.length := by
    unfold guildBankMaxTabs at hlen ⊢
    omega
  generalize hw1 : ({ w0.setTabs [] with
    purchasedTabs := min (w0.tabRows.length % 256) guildBankMaxTabs
    bankLoaded := false
    eventlogLoaded := false
    onlineMembers := 0
    online := ∅ } : BankHouse) = w1 at hload
  have h1 : Backed w1 ∧ w1.onlineMembers = 0 ∧ w1.online = ∅ := by
    subst hw1
    refine ⟨⟨hn.trans_le hlen, ?_, (fun hc => nomatch hc), fun _ => rfl⟩, rfl, rfl⟩
    exact hrows.trans (congrArg List.range hn.symm)
  have h2 : Backed w1.loadGuildEventLogFromDB ∧ w1.loadGuildEventLogFromDB.onlineMembers = 0 ∧
      w1.loadGuildEventLogFromDB.online = ∅ := by
    unfold loadGuildEventLogFromDB
    split
    · exact h1
    · exact ⟨⟨h1.1.few, h1.1.rows, h1.1.whole, h1.1.empty⟩, h1.2⟩
  obtain ⟨w2, h3, h4, h5, h6⟩ := load_spec (m := m) h2.1
  rw [h3] at hload
  cases hload
  refine ⟨h6.kept h2.1 h4 h5, h4, ?_⟩
  unfold Counted
  rw [h6.count, h6.online, h2.2.1, h2.2.2]
  rfl

/-- **A guild may be loaded again** after any run: the database has the tabs in order. -/
theorem Kept.restarts (h : Kept w) : ∃ w', w.loadGuild m = some w' ∧ Started m w' := by
  have hlen : w.tabRows.length = w.purchasedTabs := by rw [h.rows, List.length_range]
  have hn : min (w.tabRows.length % 256) guildBankMaxTabs = w.tabRows.length := by
    have := h.few
    unfold guildBankMaxTabs at this ⊢
    omega
  have hrows : w.tabRows = List.range w.tabRows.length := by rw [hlen]; exact h.rows
  have hback : Backed (loadGuildEventLogFromDB { w.setTabs [] with
      purchasedTabs := min (w.tabRows.length % 256) guildBankMaxTabs
      bankLoaded := false
      eventlogLoaded := false
      onlineMembers := 0
      online := ∅ }) := by
    unfold loadGuildEventLogFromDB
    split
    all_goals exact ⟨hn.trans_le (hlen.trans_le h.few), hrows.trans (congrArg List.range hn.symm), (fun hc => nomatch hc),
      fun _ => rfl⟩
  obtain ⟨w', hw', -⟩ := load_spec (m := m) hback
  exact ⟨w', hw', w, hrows, hlen.trans_le h.few, hw'⟩

/-- **The tabs are there whenever they are read**, and the bank is unloaded just when it should be, along a run
without the two faults, of a guild that was loaded at the start; and of one founded since, while its list is there.
A bank that was loaded at the start stays loaded. -/
theorem tabs_kept (om : ObjectMgr) (w : BankHouse) (es : List HouseEvent)
    (hw : Started om w ∨ Founded w ∧ Transition.Along (after om) (fun w e => w.accessible e = true) w es)
    (hh : Transition.Along (after om) (fun w e => w.heedful e = true) w es) :
    Transition.Along (after om) (TabsKept om) w es ∧
      (Started om w → Transition.Along (after om) (fun w _ => w.bankLoaded = true ∧ w.onlineMembers = u32 w.online.card)
        w es) := by
  have hloaded : ∀ w e, Kept w ∧ w.bankLoaded = true ∧ Counted w → w.heedful e = true →
      (Kept (w.after om e) ∧ TabsKept om w e) ∧ (w.after om e).bankLoaded = true ∧ Counted (w.after om e) := by
    rintro w e ⟨hk, hl, hc⟩ hh
    have ha : w.accessible e = true := by
      unfold accessible
      rw [hl, Bool.or_true, Bool.true_or]
    have hstep := hk.after (m := om) e hh ha
    exact ⟨hstep, (hstep.2.stays (lastLeaves_of_counted hc hh)).1 hl, hc.after e hh⟩
  have hnext : ∀ w e, Kept w ∧ w.bankLoaded = true ∧ Counted w → w.heedful e = true →
      Kept (w.after om e) ∧ (w.after om e).bankLoaded = true ∧ Counted (w.after om e) := fun w e hI hh =>
    ⟨(hloaded w e hI hh).1.1, (hloaded w e hI hh).2⟩
  refine ⟨?_, fun hs => ?_⟩
  · rcases hw with hs | ⟨hf, ha⟩
    · exact Transition.along_of_invariant hnext (fun w e hI hh => (hloaded w e hI hh).1.2) hs.kept hh
    · exact Transition.along_of_invariant (I := Kept) (G := fun w e => w.heedful e = true ∧ w.accessible e = true)
        (fun w e hk hg => (hk.after e hg.1 hg.2).1) (fun w e hk hg => (hk.after e hg.1 hg.2).2) hf.kept (hh.and ha)
  · exact Transition.along_of_invariant hnext (fun w e hI _ => hI.2) hs.kept hh

/-! ### A guild of two members with a tab -/

def sampleHouse : BankHouse where
  bank :=
    { ranks := [⟨fun _ => 0xFF, fun _ => withdrawSlotUnlimited⟩, ⟨fun _ => 0x03, fun _ => 1⟩]
      members guid := if guid = 1 then some { rankId := 0 } else if guid = 2 then some { rankId := 1 } else none
      tabListMap := [some fun _ => none] }
  purchasedTabs := 1
  bankLoaded := true
  eventlogLoaded := true
  money := fun _ => 3000000
  tabRows := [0]
  eventlogRows := 1

theorem sampleHouse_started : Started Holdings.sampleMgr sampleHouse :=
  ⟨sampleHouse, rfl, by decide, rfl⟩

theorem restarts_sample : ∃ w', sampleHouse.loadGuild Holdings.sampleMgr = some w' ∧ Started Holdings.sampleMgr w' :=
  sampleHouse_started.kept.1.restarts

/-- Both log in, the guild master buys a tab, the other looks at it, and the guild master logs out. -/
def sampleEvents : List HouseEvent :=
  [.login 1, .login 2, .buyTab { pl := 1, now := 5000 } 1, .tabRequest { pl := 2, now := 5001 } (.queryTab 1), .logout 1]

theorem tabs_kept_sample : Transition.Along (after Holdings.sampleMgr) (TabsKept Holdings.sampleMgr) sampleHouse
    sampleEvents ∧ (Started Holdings.sampleMgr sampleHouse → Transition.Along (after Holdings.sampleMgr)
      (fun w _ => w.bankLoaded = true ∧ w.onlineMembers = u32 w.online.card) sampleHouse sampleEvents) :=
  tabs_kept Holdings.sampleMgr sampleHouse sampleEvents (Or.inl sampleHouse_started) (by decide)

/-- A member logs in and out, alone, and the bank stays loaded. -/
theorem lastLogout_keeps : ¬ ∀ (om : ObjectMgr) (w : BankHouse), Started om w → ∀ es,
    Transition.Along (after om) (TabsKept om) w es := by
  intro h
  have hlaw := (h Holdings.sampleMgr sampleHouse sampleHouse_started [.login 1, .logout 1]).2.1
  exact Bool.noConfusion (hlaw.unloads (by decide)).1

end BankHouse

end BlizzLike
