import BlizzLikeCore.Item
import Mathlib.Algebra.GroupWithZero.Nat
import Mathlib.Data.List.Nodup

/-!
# Holdings: the item heap and the players' slot tables

`Holdings` is the part of the world the inventory code of `Player.cpp` works on: all item
objects, and for each player (by low guid) his `m_items` array, his item update queue and
the block flag of that queue.  The functions here only read it: positions, item lookup by
position, and the item counts.
-/

namespace BlizzLike

/-! ## Slot numbers -/

@[simp] abbrev nullBag : Nat := 0
@[simp] abbrev nullSlot : Nat := 255

@[simp] abbrev inventorySlotBag0 : Nat := 255
@[simp] abbrev equipmentSlotMainhand : Nat := 15
@[simp] abbrev equipmentSlotEnd : Nat := 19
@[simp] abbrev inventorySlotBagStart : Nat := 19
@[simp] abbrev inventorySlotBagEnd : Nat := 23
@[simp] abbrev inventorySlotItemStart : Nat := 23
@[simp] abbrev inventorySlotItemEnd : Nat := 39
@[simp] abbrev bankSlotBagStart : Nat := 67
@[simp] abbrev bankSlotBagEnd : Nat := 74
@[simp] abbrev buybackSlotStart : Nat := 74
@[simp] abbrev buybackSlotEnd : Nat := 86
@[simp] abbrev keyringSlotStart : Nat := 86
@[simp] abbrev keyringSlotEnd : Nat := 118
@[simp] abbrev playerSlotEnd : Nat := 118

@[simp] abbrev getMaxKeyringSize : Nat := keyringSlotEnd - keyringSlotStart

/-- The `uint16` position `(bag << 8) | slot`. -/
def mkPos (bag slot : Nat) : Nat := bag * 256 + slot

theorem mkPos_div (bag slot : Nat) (h : slot < 256) : mkPos bag slot / 256 = bag := by
  unfold mkPos; omega

theorem mkPos_mod (bag slot : Nat) (h : slot < 256) : mkPos bag slot % 256 = slot := by
  unfold mkPos; omega

/-- The slots of `m_items` that `GetItemByPos` reads: all but the buyback slots. -/
def isOwnSlot (slot : Nat) : Bool :=
  slot < bankSlotBagEnd || (keyringSlotStart ≤ slot && slot < keyringSlotEnd)

/-- The slots a bag is equipped in, on the player or in the bank. -/
def isBagSlot (bag : Nat) : Bool :=
  (inventorySlotBagStart ≤ bag && bag < inventorySlotBagEnd) ||
    (bankSlotBagStart ≤ bag && bag < bankSlotBagEnd)

theorem isOwnSlot_iff (slot : Nat) : isOwnSlot slot = true ↔ slot < 74 ∨ (86 ≤ slot ∧ slot < 118) := by
  simp [isOwnSlot]

theorem isBagSlot_iff (bag : Nat) :
    isBagSlot bag = true ↔ (19 ≤ bag ∧ bag < 23) ∨ (67 ≤ bag ∧ bag < 74) := by
  simp [isBagSlot]

def isInventoryPos (bag slot : Nat) : Bool :=
  (bag == inventorySlotBag0 && slot == nullSlot) ||
  (bag == inventorySlotBag0 && inventorySlotItemStart ≤ slot && slot < inventorySlotItemEnd) ||
  (inventorySlotBagStart ≤ bag && bag < inventorySlotBagEnd) ||
  (bag == inventorySlotBag0 && keyringSlotStart ≤ slot && slot < keyringSlotEnd)

def isEquipmentPos (bag slot : Nat) : Bool :=
  (bag == inventorySlotBag0 && slot < equipmentSlotEnd) ||
  (bag == inventorySlotBag0 && inventorySlotBagStart ≤ slot && slot < inventorySlotBagEnd)

def isBagPos (bag slot : Nat) : Bool :=
  (bag == inventorySlotBag0 && inventorySlotBagStart ≤ slot && slot < inventorySlotBagEnd) ||
  (bag == inventorySlotBag0 && bankSlotBagStart ≤ slot && slot < bankSlotBagEnd)

/-! ## The state -/

/-- Item objects by low guid, and the players' slot tables and update queues. -/
structure Holdings where
  items : Nat → Item := fun _ => {}
  nextGuid : Nat := 1
  slots : Nat → Nat → Option Nat := fun _ _ => none
  itemUpdateQueue : Nat → List (Option Nat) := fun _ => []
  itemUpdateQueueBlocked : Nat → Bool := fun _ => false

namespace Holdings

/-- `GetItemByPos(INVENTORY_SLOT_BAG_0, slot)`. -/
def ownItem (h : Holdings) (pl slot : Nat) : Option Nat :=
  if isOwnSlot slot then h.slots pl slot else none

/-- `GetItemByPos(bag, slot)`. -/
def getItemByPos (h : Holdings) (pl bag slot : Nat) : Option Nat :=
  if bag = inventorySlotBag0 then h.ownItem pl slot
  else if isBagSlot bag then
    match h.ownItem pl bag with
    | some b => (h.items b).bagItemByPos slot
    | none => none
  else none

/-! ## Item counts -/

/-- Units of `entry` in one looked-up item, unless it is `skipItem`. -/
def unitsOf (h : Holdings) (entry : Nat) (skipItem it : Option Nat) : Nat :=
  match it with
  | some i => if it ≠ skipItem ∧ (h.items i).entry = entry then (h.items i).count else 0
  | none => 0

/-- Units of gem `entry` socketed in one looked-up item, unless it is `skipItem`. -/
def gemsOf (om : ObjectMgr) (h : Holdings) (entry : Nat) (skipItem it : Option Nat) : Nat :=
  match it with
  | some i =>
    match om.getItemPrototype (h.items i).entry with
    | some proto =>
      if it ≠ skipItem ∧ proto.socketColor0 ≠ 0 then (h.items i).getGemCountWithID om entry else 0
    | none => 0
  | none => 0

/-- `skipItem && skipItem->GetProto()->GemProperties`. -/
def skipsGem (om : ObjectMgr) (h : Holdings) (skipItem : Option Nat) : Bool :=
  match skipItem with
  | some i =>
    match om.getItemPrototype (h.items i).entry with
    | some proto => proto.gemProperties != 0
    | none => false
  | none => false

/-- `Bag::GetItemCount`. -/
def bagItemCount (om : ObjectMgr) (h : Holdings) (bag entry : Nat) (skipItem : Option Nat) : Nat :=
  let contents := (List.range (h.items bag).numSlots).map (h.items bag).bagslot
  (contents.map (h.unitsOf entry skipItem)).sum +
    if h.skipsGem om skipItem then (contents.map (gemsOf om h entry skipItem)).sum else 0

/-- `GetItemCount(item, inBankAlso, skipItem)`. -/
def getItemCount (om : ObjectMgr) (h : Holdings) (pl entry : Nat) (inBankAlso : Bool)
    (skipItem : Option Nat) : Nat :=
  let own := fun slots : List Nat => slots.map (h.ownItem pl)
  let bags := fun slots : List Nat => (own slots).map fun b =>
    match b with
    | some bag => bagItemCount om h bag entry skipItem
    | none => 0
  let gems := fun slots : List Nat =>
    if h.skipsGem om skipItem then ((own slots).map (gemsOf om h entry skipItem)).sum else 0
  u32 (((own (List.range 39 ++ List.range' 86 32)).map (h.unitsOf entry skipItem)).sum +
    (bags (List.range' 19 4)).sum + gems (List.range 39) +
    if inBankAlso then
      ((own (List.range' 39 28)).map (h.unitsOf entry skipItem)).sum +
        (bags (List.range' 67 7)).sum + gems (List.range' 39 28)
    else 0)

end Holdings

end BlizzLike
