import BlizzLikeCore.Inventory.CanStore
import Mathlib.Logic.Function.Basic

/-!
# Storing items

The item functions that change `Holdings`: the update queue of `Item.cpp`, creating and
cloning items, `Bag::StoreItem` and `Bag::RemoveItem`, and `StoreItem` / `_StoreItem`.
World updates, quest counters and duration timers touch none of this state and are left out.
-/

namespace BlizzLike

namespace Holdings

variable (om : ObjectMgr) (h : Holdings) (pl : Nat)

/-- Change one item object. -/
def modify (g : Nat) (f : Item → Item) : Holdings :=
  { h with items := Function.update h.items g (f (h.items g)) }

/-- Set `m_items[slot]` of a player. -/
def setSlot (slot : Nat) (v : Option Nat) : Holdings :=
  { h with slots := fun p s => if p = pl ∧ s = slot then v else h.slots p s }

/-! ## The update queue -/

def addToUpdateQueueOf (g : Nat) : Holdings :=
  if (h.items g).uQueuePos ≠ -1 then h
  else if pl ≠ (h.items g).owner then h
  else if h.itemUpdateQueueBlocked pl then h
  else
    { h with
      itemUpdateQueue := Function.update h.itemUpdateQueue pl (h.itemUpdateQueue pl ++ [some g])
      items := Function.update h.items g
        { h.items g with uQueuePos := toInt16 (h.itemUpdateQueue pl).length } }

def removeFromUpdateQueueOf (g : Nat) : Holdings :=
  if (h.items g).uQueuePos = -1 then h
  else if pl ≠ (h.items g).owner then h
  else if h.itemUpdateQueueBlocked pl then h
  else
    { h with
      itemUpdateQueue := Function.update h.itemUpdateQueue pl
        ((h.itemUpdateQueue pl).set (h.items g).uQueuePos.toNat none)
      items := Function.update h.items g { h.items g with uQueuePos := -1 } }

/-- `delete`: the object goes, and a bag takes its contents with it (`Bag::~Bag`). -/
def deleteItem (g : Nat) : Holdings :=
  { h with items := fun i =>
      if i = g ∨ ∃ j < maxBagSize, (h.items g).bagslot j = some i then
        { h.items i with live := false }
      else h.items i }

def setState (g : Nat) (state : ItemUpdateState) : Holdings :=
  if (h.items g).uState = .new ∧ state = .removed then
    (h.removeFromUpdateQueueOf pl g).deleteItem g
  else if state ≠ .unchanged then
    (h.modify g fun it => if it.uState ≠ .new then { it with uState := state } else it).addToUpdateQueueOf
      pl g
  else h.modify g fun it => { it with uQueuePos := -1, uState := .unchanged }

/-! ## Creating items -/

/-- `SetEnchantment` with no duration and no charges. -/
def setEnchantment (g slot id : Nat) : Holdings :=
  if (h.items g).enchantmentId slot = id then h
  else
    (h.modify g fun it => { it with enchantmentId := Function.update it.enchantmentId slot id }).setState
      (h.items g).owner g .changed

def setItemRandomProperties (g : Nat) (randomPropId : Int) : Holdings :=
  if randomPropId = 0 then h
  else if randomPropId > 0 then
    match om.randomProperties randomPropId.toNat with
    | none => h
    | some enchantId =>
      let h1 :=
        if (h.items g).randomPropertyId ≠ randomPropId then
          (h.modify g fun it => { it with randomPropertyId := randomPropId }).setState (h.items g).owner g
            .changed
        else h
      ((h1.setEnchantment g 8 (enchantId 0)).setEnchantment g 9 (enchantId 1)).setEnchantment g 10
        (enchantId 2)
  else
    match om.randomSuffix (-randomPropId).toNat with
    | none => h
    | some enchantId =>
      let h1 :=
        if (h.items g).randomPropertyId ≠ randomPropId ∨ (h.items g).suffixFactor = 0 then
          (h.modify g fun it =>
            { it with randomPropertyId := randomPropId
                      suffixFactor := om.enchSuffixFactor it.entry }).setState (h.items g).owner g .changed
        else h
      ((h1.setEnchantment g 6 (enchantId 0)).setEnchantment g 7 (enchantId 1)).setEnchantment g 8
        (enchantId 2)

/-- The object `Item::Create` or `Bag::Create` sets up for `count` units. -/
def freshItem (proto : ItemPrototype) (count : Nat) : Item :=
  { live := true, entry := proto.itemId, count := count, owner := pl, contained := .player pl
    flags := proto.flags, maxDurability := proto.maxDurability, durability := proto.maxDurability
    duration := if proto.inventoryType = invtypeBag then 0 else proto.duration
    numSlots := if proto.inventoryType = invtypeBag then proto.containerSlots else 0 }

/-- `Item::CreateItem`; the new object's guid and the heap with it. -/
def createItem (item count : Nat) : Option (Nat × Holdings) :=
  if count < 1 then none
  else
    match om.getItemPrototype item with
    | none => none
    | some proto =>
      let n := if count > proto.stackable then proto.stackable else count
      some (h.nextGuid,
        { h with
          items := Function.update h.items h.nextGuid (freshItem pl proto n)
          nextGuid := h.nextGuid + 1 })

def cloneItem (g count : Nat) : Option (Nat × Holdings) :=
  match h.createItem om pl (h.items g).entry count with
  | none => none
  | some (newItem, h1) =>
    let src := h.items g
    some (newItem,
      (h1.modify newItem fun it =>
        { it with creator := src.creator, giftCreator := src.giftCreator, flags := src.flags
                  duration := src.duration }).setItemRandomProperties om newItem src.randomPropertyId)

/-! ## Storing -/

/-- `Bag::StoreItem` of bag object `b`. -/
def bagStoreItem (b slot g : Nat) : Holdings :=
  if slot > maxBagSize then h
  else if g = b then h
  else
    (h.modify b fun bag => { bag with bagslot := Function.update bag.bagslot slot (some g) }).modify g
      fun it => { it with contained := .item b, owner := (h.items b).owner, container := some b
                          slot := slot }

/-- `Bag::RemoveItem` of bag object `b`. -/
def bagRemoveItem (b slot : Nat) : Holdings :=
  let h1 :=
    match (h.items b).bagslot slot with
    | some k => h.modify k fun it => { it with container := none }
    | none => h
  h1.modify b fun bag => { bag with bagslot := Function.update bag.bagslot slot none }

/-- The binding rule of `_StoreItem`, for an item put at a position. -/
def bindAtStore (bag slot g : Nat) : Holdings :=
  match om.getItemPrototype (h.items g).entry with
  | none => h
  | some proto =>
    if proto.bonding = bindWhenPickedUp ∨ proto.bonding = bindQuestItem ∨
        (proto.bonding = bindWhenEquiped ∧ isBagPos bag slot = true) then
      h.modify g fun it => { it with flags := it.flags ||| itemFlagsBinded }
    else h

/-- The part of `_StoreItem` that puts an item into an empty slot. -/
def putAt (bag slot g : Nat) : Holdings :=
  if bag = inventorySlotBag0 then
    ((h.setSlot pl slot (some g)).modify g fun it =>
      { it with contained := .player pl, owner := pl, slot := slot, container := none }).setState pl g
      .changed
  else
    match h.ownItem pl bag with
    | none => h
    | some b => ((h.bagStoreItem b slot g).setState pl g .changed).setState pl b .changed

/-- `_StoreItem`: the item the units went to, if any, and the new state. -/
def storeItemAt (pos g count : Nat) (clone : Bool) : Option Nat × Holdings :=
  let bag := pos / 256
  let slot := pos % 256
  match h.getItemByPos pl bag slot with
  | none =>
    match (if clone then h.cloneItem om pl g count
      else some (g, h.modify g fun it => { it with count := count })) with
    | none => (none, h)
    | some (x, h1) => (some x, (h1.bindAtStore om bag slot x).putAt pl bag slot x)
  | some k =>
    let h1 := (h.bindAtStore om bag slot k).modify k fun it => { it with count := u32 (it.count + count) }
    let h2 :=
      if clone then h1
      else (h1.modify g fun it => { it with owner := pl }).setState pl g .removed
    (some k, h2.setState pl k .changed)

/-- `StoreItem`: clones for every destination but the last. -/
def storeItem (g : Nat) : List ItemPosCount → Option Nat × Holdings → Option Nat × Holdings
  | [], r => r
  | [d], (_, h) => h.storeItemAt om pl d.pos g d.count false
  | d :: d' :: ds, (_, h) => storeItem g (d' :: ds) (h.storeItemAt om pl d.pos g d.count true)

end Holdings

end BlizzLike
