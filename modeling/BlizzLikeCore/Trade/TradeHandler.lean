import BlizzLikeCore.Mail.PostOffice

/-!
# The trade window

The handlers of `TradeHandler.cpp` on the two traders' fields of `Player` and on their
inventories: what is offered, the accept flags, and the exchange itself, which takes the offered
items out of both inventories and stores them slot by slot (`moveItems`).

`moveItems` takes an item back through the `dest` vector that `CanStoreItem` may have filled for
the other item of the slot, so `canStoreItemOnto` starts from such a vector.

Left out: what is sent to the clients and logged, the trade slot that is not traded away, and the
save after the exchange.
-/

namespace BlizzLike

@[simp] abbrev tradeSlotTradedCount : Nat := 6
@[simp] abbrev tradeSlotCount : Nat := 7

namespace Holdings

variable (om : ObjectMgr) (h : Holdings) (pl : Nat)

/-! ## Room for several items -/

/-- `_CanStoreItem` with positions in `dest` already. -/
def canStoreItemOnto (dest : List ItemPosCount) (bag slot entry count : Nat) (pItem : Option Nat) (swap : Bool) :
    StoreResult :=
  match om.getItemPrototype entry with
  | none => ⟨if swap then .itemsCantBeSwapped else .itemNotFound, dest, count, false⟩
  | some proto =>
    if (pItem.map fun i => (h.items i).lootGenerated) = some true then ⟨.alreadyLooted, dest, count, false⟩
    else if (pItem.map fun i => (h.items i).isBindedNotWith pl) = some true then
      ⟨.dontOwnThatItem, dest, count, false⟩
    else
      let similar := h.canTakeMoreSimilarItems om pl entry count pItem
      if similar.1 ≠ .ok ∧ count = similar.2 then ⟨similar.1, dest, similar.2, false⟩
      else
        let st : Placing :=
          if similar.1 ≠ .ok then ⟨dest, sub32 count similar.2, count < similar.2⟩ else ⟨dest, count, false⟩
        let rest := h.searchRest om pl bag slot proto pItem similar.2
        if bag ≠ nullBag ∧ slot ≠ nullSlot then
          thenNext similar.2 rest (h.canStoreItemInSpecificSlot om pl bag slot proto swap pItem st)
        else rest st

/-- The own slots of `CanStoreItems` in the order it goes through them, from `lo`. -/
def ownPlaces (lo len : Nat) : List (Nat × Nat) := (List.range' lo len).map fun t => (inventorySlotBag0, t)

/-- The slots of the equipped bags that `takes` lets through, given the bag's prototype. -/
def bagPlaces (takes : Option ItemPrototype → Bool) : List (Nat × Nat) :=
  (List.range' inventorySlotBagStart 4).flatMap fun t =>
    match h.ownItem pl t with
    | some pBag =>
      if takes (om.getItemPrototype (h.items pBag).entry) then
        (List.range (h.items pBag).numSlots).map fun j => (t, j)
      else []
    | none => []

def isPlainContainer (bagProto : ItemPrototype) : Bool :=
  bagProto.class_ == itemClassContainer && bagProto.subClass == 0

/-- "search stack for merge to" of `CanStoreItems`. -/
def stackPlaces (proto : ItemPrototype) : List (Nat × Nat) :=
  ownPlaces keyringSlotStart 32 ++ ownPlaces inventorySlotItemStart 16 ++
    h.bagPlaces om pl fun bagProto => bagProto.any (itemCanGoIntoBag proto)

/-- "special bag case", then "search free slot". -/
def freePlaces (proto : ItemPrototype) : List (Nat × Nat) :=
  (if proto.bagFamily ≠ 0 then
    (if hasFlag proto.bagFamily bagFamilyMaskKeys then ownPlaces keyringSlotStart 32 else []) ++
      h.bagPlaces om pl fun bagProto => bagProto.any fun b => !isPlainContainer b && itemCanGoIntoBag proto b
  else []) ++
  ownPlaces inventorySlotItemStart 16 ++ h.bagPlaces om pl fun bagProto => bagProto.all isPlainContainer

/-- The space table of `CanStoreItems`: items in trade leave their slots free. -/
def spaceTable (p : Nat × Nat) : Nat :=
  match h.getItemByPos pl p.1 p.2 with
  | some i => if (h.items i).inTrade then 0 else (h.items i).count
  | none => 0

/-- The loop of `CanStoreItems` over the items. -/
def canStoreEach : List (Option Nat) → (Nat × Nat → Nat) → EquipErr
  | [], _ => .ok
  | none :: is, used => canStoreEach is used
  | some g :: is, used =>
    let it := h.items g
    match om.getItemPrototype it.entry with
    | none => .itemNotFound
    | some proto =>
      if it.lootGenerated then .alreadyLooted
      else if it.isBindedNotWith pl then .dontOwnThatItem
      else
        match (h.canTakeMoreSimilarItems om pl it.entry it.count (some g)).1 with
        | .ok =>
          let fits := fun p => match h.getItemByPos pl p.1 p.2 with
            | some i => (h.items i).canBeMergedPartlyWith proto == .ok && u32 (used p + it.count) ≤ proto.stackable
            | none => false
          match (if proto.stackable > 1 then (h.stackPlaces om pl proto).find? fits else none) with
          | some p => canStoreEach is (Function.update used p (used p + it.count))
          | none =>
            match (h.freePlaces om pl proto).find? fun p => used p == 0 with
            | some p => canStoreEach is (Function.update used p 1)
            | none => .inventoryFull
        | res => res

def canStoreItems (items : List (Option Nat)) : EquipErr := h.canStoreEach om pl items (h.spaceTable pl)

/-! ## The exchange -/

/-- `SetInTrade` on the offered items. -/
def setInTrade (v : Bool) (items : List (Option Nat)) : Holdings :=
  items.foldl (fun k it => it.elim k fun g => k.modify g fun x => { x with inTrade := v }) h

/-- One offered item leaves its owner's inventory, with him as the giver. -/
def giveAway (it : Option Nat) : Holdings :=
  match it with
  | none => h
  | some g =>
    let h1 := h.modify g fun x => { x with giftCreator := pl }
    match h1.getItemByGuid pl g with
    | none => h1
    | some iPtr => h1.moveItemFromInventory pl (h1.getBagSlot iPtr) (h1.items iPtr).slot

/-- "execute trade: 1. remove". -/
def removeOffers (a b : Nat) : List (Option Nat × Option Nat) → Holdings → Holdings
  | [], h => h
  | (my, his) :: rounds, h => removeOffers a b rounds ((h.giveAway a my).giveAway b his)

/-- `CanStoreItem` of an offered item, anywhere; no item can always be stored. -/
def canStoreOffer (dest : List ItemPosCount) : Option Nat → Bool × List ItemPosCount
  | none => (true, dest)
  | some g =>
    let r := h.canStoreItemOnto om pl dest nullBag nullSlot (h.items g).entry (h.items g).count (some g) false
    (r.res == .ok, r.dest)

/-- `MoveItemToInventory` of an offered item. -/
def storeOffer (dest : List ItemPosCount) : Option Nat → Holdings
  | none => h
  | some g => h.moveItemToInventory om pl dest g true

/-- An offered item goes back to its owner, if he can take it. -/
def takeBack (dest : List ItemPosCount) (it : Option Nat) : Holdings :=
  let r := h.canStoreOffer om pl dest it
  if r.1 then h.storeOffer om pl r.2 it else h

/-- One slot of `moveItems`. -/
def moveRound (a b : Nat) (my his : Option Nat) : Holdings :=
  let trader := h.canStoreOffer om b [] my
  let player := h.canStoreOffer om a [] his
  if trader.1 && player.1 then (h.storeOffer om b trader.2 my).storeOffer om a player.2 his
  else (h.takeBack om a player.2 my).takeBack om b trader.2 his

def moveItems (a b : Nat) : List (Option Nat × Option Nat) → Holdings → Holdings
  | [], h => h
  | (my, his) :: rounds, h => moveItems a b rounds (h.moveRound om a b my his)

end Holdings

/-! ## The trade window -/

/-- The trade fields of a `Player`. -/
structure Trader where
  pTrader : Option Nat := none
  acceptTrade : Bool := false
  tradeItems : Nat → Option Nat := fun _ => none
  tradeGold : Nat := 0

structure TradeHall where
  inv : Holdings := {}
  money : Nat → Nat := fun _ => 0
  traders : Nat → Trader := fun _ => {}

namespace TradeHall

variable (om : ObjectMgr) (w : TradeHall) (pl : Nat)

def modifyTrader (f : Trader → Trader) : TradeHall :=
  { w with traders := Function.update w.traders pl (f (w.traders pl)) }

def clearTrade : TradeHall :=
  w.modifyTrader pl fun t => { t with tradeGold := 0, acceptTrade := false, tradeItems := fun _ => none }

def setAccept (v : Bool) : TradeHall := w.modifyTrader pl fun t => { t with acceptTrade := v }

/-- Both sides forget each other. -/
def part (trader : Nat) : TradeHall :=
  (w.modifyTrader trader fun t => { t with pTrader := none }).modifyTrader pl fun t => { t with pTrader := none }

/-- The reset of the accept flags in `SendUpdateTrade`. -/
def sendUpdateTrade : TradeHall :=
  match (w.traders pl).pTrader with
  | none => w
  | some trader => (w.setAccept pl false).setAccept trader false

/-- `GetItemByTradeSlot`. -/
def offered (i : Nat) : Option Nat :=
  match (w.traders pl).tradeItems i with
  | none => none
  | some guid => w.inv.getItemByGuid pl guid

/-- The items of the traded slots. -/
def offers : List (Option Nat) := (List.range tradeSlotTradedCount).map (w.offered pl)

/-! ### Handlers -/

/-- `HandleInitiateTradeOpcode`; `allowed` is the outcome of the checks on life, flight, distance and
the ignore list. -/
def handleInitiateTrade (pOther : Nat) (allowed : Bool) : TradeHall :=
  if (w.traders pl).pTrader ≠ none ∨ pOther = pl ∨ (w.traders pOther).pTrader ≠ none ∨ allowed = false then w
  else
    (w.modifyTrader pl fun t => { t with pTrader := some pOther }).modifyTrader pOther
      fun t => { t with pTrader := some pl }

def handleBeginTrade : TradeHall :=
  match (w.traders pl).pTrader with
  | none => w
  | some trader => (w.clearTrade trader).clearTrade pl

def tradeCancel : TradeHall :=
  match (w.traders pl).pTrader with
  | none => w
  | some trader => ((w.clearTrade pl).clearTrade trader).part pl trader

def handleSetTradeGold (gold : Nat) : TradeHall :=
  match (w.traders pl).pTrader with
  | none => w
  | some trader => (w.modifyTrader pl fun t => { t with tradeGold := gold }).sendUpdateTrade trader

/-- `HandleSetTradeItemOpcode`; `allowed g` is the outcome of the checks of `CanBeTraded` that look at
combat, loot windows and enchantments. -/
def handleSetTradeItem (tradeSlot bag slot : Nat) (allowed : Nat → Bool) : TradeHall :=
  match (w.traders pl).pTrader, w.inv.getItemByPos pl bag slot with
  | some trader, some item =>
    if tradeSlot ≥ tradeSlotCount then w
    else if tradeSlot ≠ 6 ∧ (w.inv.itemCanBeTraded om item && allowed item) = false then w
    -- "prevent place single item into many trade slots"
    else if (List.range tradeSlotCount).any fun i => (w.traders pl).tradeItems i == some item then w
    else
      (w.modifyTrader pl fun t =>
        { t with tradeItems := Function.update t.tradeItems tradeSlot (some item) }).sendUpdateTrade trader
  | _, _ => w

def handleClearTradeItem (tradeSlot : Nat) : TradeHall :=
  match (w.traders pl).pTrader with
  | none => w
  | some trader =>
    if tradeSlot ≥ tradeSlotCount then w
    else
      (w.modifyTrader pl fun t =>
        { t with tradeItems := Function.update t.tradeItems tradeSlot none }).sendUpdateTrade trader

def handleUnacceptTrade : TradeHall :=
  match (w.traders pl).pTrader with
  | none => w
  | some _ => w.setAccept pl false

/-- "test if item will fit in each inventory", with the items marked. -/
def bothHaveRoom (trader : Nat) : Bool :=
  let marked := (w.inv.setInTrade true (w.offers pl)).setInTrade true (w.offers trader)
  marked.canStoreItems om trader (w.offers pl) == .ok && marked.canStoreItems om pl (w.offers trader) == .ok

/-- The inventory with the marks cleared again. -/
def unmarked (trader : Nat) : Holdings :=
  (((w.inv.setInTrade true (w.offers pl)).setInTrade true (w.offers trader)).setInTrade false
    (w.offers pl)).setInTrade false (w.offers trader)

/-- "update money". -/
def payTrade (trader : Nat) : TradeHall :=
  let gold := (w.traders pl).tradeGold
  let his := (w.traders trader).tradeGold
  let mine := modifyMoney (modifyMoney (w.money pl) (-toInt32 gold)) (toInt32 his)
  let trades := modifyMoney (modifyMoney (w.money trader) (-toInt32 his)) (toInt32 gold)
  { w with money := Function.update (Function.update w.money pl mine) trader trades }

/-- "execute trade". -/
def executeTrade (trader : Nat) : TradeHall :=
  let rounds := (w.offers pl).zip (w.offers trader)
  let inv1 := Holdings.removeOffers pl trader rounds (w.unmarked pl trader)
  let w1 : TradeHall := { w with inv := Holdings.moveItems om pl trader rounds inv1 }
  (((w1.payTrade pl trader).clearTrade pl).clearTrade trader).part pl trader

/-- No side has less gold than it offers, and every offered item can be traded. -/
def offersStand (trader : Nat) (allowed : Nat → Bool) : Bool :=
  (List.range tradeSlotTradedCount).all fun i =>
    (w.offered pl i).all (fun g => w.inv.itemCanBeTraded om g && allowed g) &&
      (w.offered trader i).all fun g => w.inv.itemCanBeTraded om g && allowed g

def handleAcceptTrade (allowed : Nat → Bool) : TradeHall :=
  match (w.traders pl).pTrader with
  | none => w
  | some trader =>
    if (w.traders pl).tradeGold > w.money pl then w.setAccept pl false
    else if (w.traders trader).tradeGold > w.money trader then w.setAccept trader false
    else if w.offersStand om pl trader allowed = false then w
    else
      let w1 := w.setAccept pl true
      if (w.traders trader).acceptTrade = false then w1
      else if w1.bothHaveRoom om pl trader = false then { w1 with inv := w1.unmarked pl trader }
      else w1.executeTrade om pl trader

end TradeHall

end BlizzLike
