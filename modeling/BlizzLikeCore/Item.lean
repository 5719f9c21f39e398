import Mathlib.Data.Nat.Basic
import Mathlib.Tactic.Common

/-!
# Items: prototypes, item objects, bags

Prototypes are the rows of `item_template` as `ObjectMgr` keeps them after its load
checks; the checks the later code relies on (`Stackable` between 1 and 255,
`ContainerSlots` at most `MAX_BAG_SIZE`) are fields of `ItemPrototype`, and
`loadItemPrototype` is the load step that establishes them.

An `Item` is one object of the C++ heap.  A bag is an item too, so the content array of
`Bag` is a part of the record; pointers between objects are low guids.
-/

namespace BlizzLike

/-! ## Machine integers -/

/-- A value stored in an `uint32`. -/
def u32 (n : Nat) : Nat := n % 4294967296

/-- A value stored in an `uint8`. -/
def u8 (n : Nat) : Nat := n % 256

/-- `a - b` of two `uint32`. -/
def sub32 (a b : Nat) : Nat := if b ≤ a then a - b else a + 4294967296 - b

theorem sub32_eq (a b : Nat) (h : b ≤ a) : sub32 a b = a - b := by
  unfold sub32; rw [if_pos h]

theorem u32_eq (n : Nat) (h : n < 4294967296) : u32 n = n := Nat.mod_eq_of_lt h

theorem u32_le (n : Nat) : u32 n ≤ n := Nat.mod_le _ _

theorem u8_eq (n : Nat) (h : n ≤ 255) : u8 n = n := Nat.mod_eq_of_lt (by omega)

/-- A value stored in an `int16`. -/
def toInt16 (n : Nat) : Int :=
  if n % 65536 < 32768 then (n % 65536 : Nat) else (n % 65536 : Nat) - 65536

/-- `HasFlag`: one of the mask's bits is set. -/
def hasFlag (flags mask : Nat) : Bool := flags &&& mask != 0

/-! ## Prototypes -/

def maxBagSize : Nat := 36

def itemClassContainer : Nat := 1
def itemClassQuiver : Nat := 11

def invtypeBag : Nat := 18

def itemFlagsBinded : Nat := 1
def itemFlagsConjured : Nat := 2
def itemFlagsWrapped : Nat := 8

def bindWhenPickedUp : Nat := 1
def bindWhenEquiped : Nat := 2
def bindQuestItem : Nat := 4

def bagFamilyMaskKeys : Nat := 256

/-- A row of `item_template`, before the load checks. -/
structure ItemTemplate where
  itemId : Nat
  class_ : Nat := 0
  subClass : Nat := 0
  flags : Nat := 0
  inventoryType : Nat := 0
  maxCount : Nat := 0
  stackable : Nat := 0
  containerSlots : Nat := 0
  bagFamily : Nat := 0
  maxDurability : Nat := 0
  duration : Nat := 0
  socketColor0 : Nat := 0
  gemProperties : Nat := 0
  bonding : Nat := 0

/-- What `objmgr.GetItemPrototype` returns: a row that passed the load checks. -/
structure ItemPrototype extends ItemTemplate where
  stackable_pos : 0 < stackable
  stackable_le : stackable ≤ 255
  containerSlots_le : containerSlots ≤ maxBagSize

/-- The corrections of `ObjectMgr::LoadItemPrototypes`. -/
def loadItemPrototype (t : ItemTemplate) : ItemPrototype :=
  { t with
    stackable := if t.stackable = 0 then 1 else if t.stackable > 255 then 255 else t.stackable
    containerSlots := if t.containerSlots > maxBagSize then maxBagSize else t.containerSlots
    stackable_pos := by split <;> (try split) <;> omega
    stackable_le := by split <;> (try split) <;> omega
    containerSlots_le := by split <;> omega }

/-- A row of `SpellItemEnchantment.dbc`. -/
structure SpellItemEnchantmentEntry where
  gemID : Nat
  slot : Nat

/-- The loaded stores the item code reads; `randomProperties` and `randomSuffix` give the
`enchant_id` array of a record, `enchSuffixFactor` is `GenerateEnchSuffixFactor`. -/
structure ObjectMgr where
  getItemPrototype : Nat → Option ItemPrototype
  enchantment : Nat → Option SpellItemEnchantmentEntry := fun _ => none
  randomProperties : Nat → Option (Nat → Nat) := fun _ => none
  randomSuffix : Nat → Option (Nat → Nat) := fun _ => none
  enchSuffixFactor : Nat → Nat := fun _ => 0
  itemId_eq : ∀ entry proto, getItemPrototype entry = some proto → proto.itemId = entry

/-- `ItemCanGoIntoBag`: the bag's class and subclass name the family it accepts. -/
def itemCanGoIntoBag (proto bagProto : ItemPrototype) : Bool :=
  if bagProto.class_ = itemClassContainer then
    match bagProto.subClass with
    | 0 => true                             -- plain container
    | 1 => hasFlag proto.bagFamily 0x4      -- soul shards
    | 2 => hasFlag proto.bagFamily 0x20     -- herbs
    | 3 => hasFlag proto.bagFamily 0x40     -- enchanting supplies
    | 6 => hasFlag proto.bagFamily 0x400    -- mining supplies
    | 4 => hasFlag proto.bagFamily 0x80     -- engineering supplies
    | 5 => hasFlag proto.bagFamily 0x200    -- gems
    | 7 => hasFlag proto.bagFamily 0x8      -- leatherworking supplies
    | _ => false
  else if bagProto.class_ = itemClassQuiver then
    match bagProto.subClass with
    | 2 => hasFlag proto.bagFamily 0x1      -- arrows
    | 3 => hasFlag proto.bagFamily 0x2      -- bullets
    | _ => false
  else false

/-! ## Item objects -/

/-- The `EQUIP_ERR_*` codes of `InventoryChangeFailure` that the modelled code returns. -/
inductive EquipErr where
  | ok
  | itemDoesntGoIntoBag
  | cantCarryMoreOfThis
  | itemCantStack
  | itemsCantBeSwapped
  | itemNotFound
  | canOnlyDoWithEmptyBags
  | dontOwnThatItem
  | alreadyLooted
  | inventoryFull
  deriving DecidableEq, Repr

inductive ItemUpdateState where
  | unchanged
  | changed
  | new
  | removed
  deriving DecidableEq, Repr

/-- A full guid as stored in `ITEM_FIELD_CONTAINED`. -/
inductive Guid where
  | none
  | player (low : Nat)
  | item (low : Nat)
  deriving DecidableEq, Repr

/-- One `Item` or `Bag` object.  `live` is false once the object is deleted. -/
structure Item where
  live : Bool := false
  entry : Nat := 0
  count : Nat := 0
  owner : Nat := 0
  contained : Guid := .none
  creator : Nat := 0
  giftCreator : Nat := 0
  flags : Nat := 0
  maxDurability : Nat := 0
  durability : Nat := 0
  duration : Nat := 0
  randomPropertyId : Int := 0
  suffixFactor : Nat := 0
  enchantmentId : Nat → Nat := fun _ => 0
  slot : Nat := 0
  container : Option Nat := none
  lootGenerated : Bool := false
  inTrade : Bool := false
  uState : ItemUpdateState := .new
  uQueuePos : Int := -1
  numSlots : Nat := 0
  bagslot : Nat → Option Nat := fun _ => none

namespace Item

variable (om : ObjectMgr)

def isSoulBound (it : Item) : Bool := hasFlag it.flags itemFlagsBinded

def isBindedNotWith (it : Item) (guid : Nat) : Bool := it.isSoulBound && it.owner != guid

/-- `IsBag`, by the prototype's inventory type. -/
def isBag (it : Item) : Bool :=
  match om.getItemPrototype it.entry with
  | some proto => proto.inventoryType == invtypeBag
  | none => false

def isEmpty (it : Item) : Bool := (List.range it.numSlots).all fun i => (it.bagslot i).isNone

/-- `Bag::GetItemByPos`. -/
def bagItemByPos (it : Item) (slot : Nat) : Option Nat :=
  if slot < it.numSlots then it.bagslot slot else none

/-- The `SOCK_ENCHANTMENT_SLOT` loop of `GetGemCountWithID`. -/
def getGemCountWithID (it : Item) (gemID : Nat) : Nat :=
  u8 (([2, 3, 4].filter fun enchantSlot =>
    it.enchantmentId enchantSlot != 0 &&
      match om.enchantment (it.enchantmentId enchantSlot) with
      | some entry => entry.gemID == gemID
      | none => false).length)

def canBeMergedPartlyWith (it : Item) (proto : ItemPrototype) : EquipErr :=
  if it.lootGenerated then .alreadyLooted
  else if it.entry ≠ proto.itemId then .itemCantStack
  else if it.count ≥ proto.stackable then .itemCantStack
  else .ok

theorem canBeMergedPartlyWith_eq_ok (it : Item) (proto : ItemPrototype) :
    it.canBeMergedPartlyWith proto = .ok ↔
      it.lootGenerated = false ∧ it.entry = proto.itemId ∧ it.count < proto.stackable := by
  unfold canBeMergedPartlyWith
  split
  · next h => simp [h]
  · next h =>
    split
    · next h2 => simp [h2]
    · next h2 =>
      split
      · next h3 => simp; omega
      · next h3 => simp_all

end Item

end BlizzLike
