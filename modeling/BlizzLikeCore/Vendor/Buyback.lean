import BlizzLikeCore.Mail.Mailboxes
import BlizzLikeCore.Lib.Transition

/-!
# Buying back

A sold item goes into one of twelve buyback slots, with a price and a timestamp, and can be bought back from
there.  No stored item should be deleted while a slot is empty, and if all are taken it should be the oldest.
`AddItemToBuyBackSlot` takes the current slot if it is empty.  Else it looks through the slots for an empty
one and for the oldest, and then takes the oldest before the first empty one also when it found that
(`item_lost`).

The slots are kept as promised just if at every sale the current slot or the first is empty, or none is
(`buyback_kept_iff`); the price and the timestamp always are those of the item in the slot.
-/

namespace BlizzLike

/-- The item store, with the price a vendor pays for an entry. -/
structure VendorConfig where
  om : ObjectMgr
  sellPrice : Nat → Nat

/-- A player at a vendor: his inventory, and of `m_items` the buyback slots apart.  The fields
`VENDORBUYBACK_SLOT`, `BUYBACK_PRICE` and `BUYBACK_TIMESTAMP` count from the first slot.  When an item was
sold last is kept beside the state and read by no handler. -/
structure BuybackState where
  inv : Holdings := {}
  money : Nat := 0
  items : Nat → Option Nat := fun _ => none
  vendorbuybackSlot : Nat → Option Nat := fun _ => none
  buybackPrice : Nat → Nat := fun _ => 0
  buybackTimestamp : Nat → Nat := fun _ => 0
  currentBuybackSlot : Nat := buybackSlotStart
  soldAt : Nat → Nat := fun _ => 0

def isBuybackSlot (slot : Nat) : Prop := buybackSlotStart ≤ slot ∧ slot < buybackSlotEnd

instance (slot : Nat) : Decidable (isBuybackSlot slot) := inferInstanceAs (Decidable (_ ∧ _))

/-- The slots the loop of `AddItemToBuyBackSlot` looks at. -/
def laterSlots : List Nat := List.range' (buybackSlotStart + 1) (buybackSlotEnd - (buybackSlotStart + 1))

namespace BuybackState

variable (cfg : VendorConfig) (w : BuybackState) (pl : Nat)

/-! ## Slots -/

def removeItemFromBuyBackSlot (slot : Nat) (del : Bool) : BuybackState :=
  if isBuybackSlot slot then
    let w1 := { w with
      inv := match w.items slot with
        | some g => if del then w.inv.setState pl g .removed else w.inv
        | none => w.inv
      items := Function.update w.items slot none
      vendorbuybackSlot := Function.update w.vendorbuybackSlot (slot - buybackSlotStart) none
      buybackPrice := Function.update w.buybackPrice (slot - buybackSlotStart) 0
      buybackTimestamp := Function.update w.buybackTimestamp (slot - buybackSlotStart) 0 }
    if (w1.items w1.currentBuybackSlot).isSome then { w1 with currentBuybackSlot := slot } else w1
  else w

/-- The loop of `AddItemToBuyBackSlot`: `slot` and `oldest_slot` at its end. -/
def searchSlot : List Nat → Nat → Nat → Nat → Nat × Nat
  | [], slot, _, oldestSlot => (slot, oldestSlot)
  | i :: is, slot, oldestTime, oldestSlot =>
    if w.items i = none then (i, oldestSlot)
    else if oldestTime > w.buybackTimestamp (i - buybackSlotStart) then
      searchSlot is slot (w.buybackTimestamp (i - buybackSlotStart)) i
    else searchSlot is slot oldestTime oldestSlot

/-- The slot `AddItemToBuyBackSlot` takes; the empty slot that was found is written over. -/
def slotToUse : Nat :=
  if (w.items w.currentBuybackSlot).isSome then
    (w.searchSlot laterSlots w.currentBuybackSlot
      (w.buybackTimestamp 0) buybackSlotStart).2
  else w.currentBuybackSlot

/-- `BUYBACK_PRICE` of an item. -/
def priceOf (it : Item) : Nat :=
  match cfg.om.getItemPrototype it.entry with
  | some _ => u32 (cfg.sellPrice it.entry * it.count)
  | none => 0

/-- `AddItemToBuyBackSlot`, so many seconds after the login. -/
def addItemToBuyBackSlot (pItem elapsed : Nat) : BuybackState :=
  let slot := w.slotToUse
  let w1 := w.removeItemFromBuyBackSlot pl slot true
  let etime := u32 (elapsed + 30 * 3600)
  let w2 := { w1 with
    items := Function.update w1.items slot (some pItem)
    vendorbuybackSlot := Function.update w1.vendorbuybackSlot (slot - buybackSlotStart) (some pItem)
    buybackPrice := Function.update w1.buybackPrice (slot - buybackSlotStart) (priceOf cfg (w1.inv.items pItem))
    buybackTimestamp := Function.update w1.buybackTimestamp (slot - buybackSlotStart) etime
    soldAt := Function.update w1.soldAt pItem etime }
  if w2.currentBuybackSlot < buybackSlotEnd - 1 then { w2 with currentBuybackSlot := w2.currentBuybackSlot + 1 }
  else w2

/-! ## Requests -/

/-- `HandleSellItemOpcode` up to `AddItemToBuyBackSlot`: the object that is sold, how many units it has, and
the inventory without it.  `lootGuid` is `GetLootGUID`. -/
def takeForSale (itemguid count lootGuid : Nat) : Option (Nat × Nat × Holdings) :=
  match if itemguid = 0 then none else w.inv.getItemByGuid pl itemguid with
  | none => none
  | some g =>
    if (w.inv.items g).owner ≠ pl then none
    else if (w.inv.items g).isBag cfg.om ∧ (w.inv.items g).isEmpty = false then none
    else if lootGuid = g then none
    else
      let n := if count = 0 then (w.inv.items g).count else count
      if n > (w.inv.items g).count then none
      else
        match cfg.om.getItemPrototype (w.inv.items g).entry with
        | none => none
        | some _ =>
          if cfg.sellPrice (w.inv.items g).entry > 0 then
            if n < (w.inv.items g).count then
              match w.inv.cloneItem cfg.om pl g n with
              | none => none
              | some (pNewItem, inv) =>
                some (pNewItem, n, (inv.modify g fun it => { it with count := it.count - n }).setState pl g .changed)
            else
              some (g, n, (w.inv.removeItem pl (w.inv.getBagSlot g) (w.inv.items g).slot).removeFromUpdateQueueOf pl g)
          else none

def handleSellItem (itemguid count lootGuid elapsed : Nat) : BuybackState :=
  match w.takeForSale cfg pl itemguid count lootGuid with
  | none => w
  | some (pItem, n, inv) =>
    let w1 := { w with inv := inv }.addItemToBuyBackSlot cfg pl pItem elapsed
    { w1 with money := modifyMoney w1.money (toInt32 (u32 (cfg.sellPrice (inv.items pItem).entry * n))) }

def handleBuybackItem (slot : Nat) : BuybackState :=
  if isBuybackSlot slot then
    match w.items slot with
    | none => w
    | some g =>
      let price := w.buybackPrice (slot - buybackSlotStart)
      if w.money < price then w
      else
        let r := w.inv.canStoreItem cfg.om pl nullBag nullSlot (w.inv.items g).entry (w.inv.items g).count (some g) false
        if r.res = .ok then
          let w1 := { w with money := modifyMoney w.money (-toInt32 price) }.removeItemFromBuyBackSlot pl slot false
          { w1 with inv := (Holdings.storeItem cfg.om pl g r.dest (some g, w1.inv)).2 }
        else w
  else w

end BuybackState

/-- What a player asks of a vendor. -/
inductive VendorRequest where
  | sell (itemguid count lootGuid elapsed : Nat)
  | buyback (slot : Nat)
  deriving DecidableEq, Repr

namespace BuybackState

def vendorStep (cfg : VendorConfig) (pl : Nat) (w : BuybackState) : VendorRequest → BuybackState
  | .sell itemguid count lootGuid elapsed => w.handleSellItem cfg pl itemguid count lootGuid elapsed
  | .buyback slot => w.handleBuybackItem cfg pl slot

/-! ## The law -/

/-- The fields of a slot are those of the item in it. -/
def Described (cfg : VendorConfig) (w : BuybackState) (slot : Nat) : Prop :=
  match w.items slot with
  | some g => w.vendorbuybackSlot (slot - buybackSlotStart) = some g ∧
      w.buybackPrice (slot - buybackSlotStart) = priceOf cfg (w.inv.items g) ∧
      w.buybackTimestamp (slot - buybackSlotStart) = w.soldAt g
  | none => w.vendorbuybackSlot (slot - buybackSlotStart) = none ∧ w.buybackPrice (slot - buybackSlotStart) = 0 ∧
      w.buybackTimestamp (slot - buybackSlotStart) = 0

/-- **What a sale is to do**: fill an empty slot, or that of the oldest item if there is none. -/
structure FillsSlot (w t : BuybackState) (x slot : Nat) : Prop where
  valid : isBuybackSlot slot
  items : t.items = Function.update w.items slot (some x)
  empty : (∃ s, isBuybackSlot s ∧ w.items s = none) → w.items slot = none
  oldest : (∀ s, isBuybackSlot s → w.items s ≠ none) → ∀ s, isBuybackSlot s →
    w.buybackTimestamp (slot - buybackSlotStart) ≤ w.buybackTimestamp (s - buybackSlotStart)
  deleted : ∀ g, w.items slot = some g → (t.inv.items g).goods.gone = true

/-- **The law** for one request. -/
structure LawfulTrade (cfg : VendorConfig) (pl : Nat) (w : BuybackState) (r : VendorRequest) : Prop where
  described : ∀ slot, isBuybackSlot slot → Described cfg (w.vendorStep cfg pl r) slot
  stored : ∀ slot g, (w.vendorStep cfg pl r).items slot = some g →
    ((w.vendorStep cfg pl r).inv.items g).goods.gone = false
  sold : ∀ itemguid count lootGuid elapsed, r = .sell itemguid count lootGuid elapsed →
    match w.takeForSale cfg pl itemguid count lootGuid with
    | none => w.vendorStep cfg pl r = w
    | some (x, _, _) => ∃ slot, FillsSlot w (w.vendorStep cfg pl r) x slot
  bought : ∀ slot, r = .buyback slot → (w.vendorStep cfg pl r).items = w.items ∨
    (w.vendorStep cfg pl r).items = Function.update w.items slot none

/-- The slip is not met: the current slot is empty, or the first, or none. -/
def SlotFound (w : BuybackState) : Prop :=
  w.items w.currentBuybackSlot = none ∨ w.items buybackSlotStart = none ∨ ∀ s, isBuybackSlot s → w.items s ≠ none

/-- The condition on a request: at a sale a slot is found. -/
def FindsSlot (cfg : VendorConfig) (pl : Nat) (w : BuybackState) : VendorRequest → Prop
  | .sell itemguid count lootGuid _ => w.takeForSale cfg pl itemguid count lootGuid ≠ none → w.SlotFound
  | .buyback _ => True

/-! ## Lemmas -/

variable (cfg : VendorConfig) (w : BuybackState) (pl : Nat)

/-! ### The search -/

theorem searchSlot_filled (is : List Nat) (slot oldestTime oldestSlot : Nat) :
    (w.searchSlot is slot oldestTime oldestSlot).2 = oldestSlot ∨
      w.items (w.searchSlot is slot oldestTime oldestSlot).2 ≠ none ∧
        (w.searchSlot is slot oldestTime oldestSlot).2 ∈ is := by
  induction is generalizing oldestTime oldestSlot with
  | nil => exact Or.inl rfl
  | cons i is ih =>
    unfold searchSlot
    split
    · exact Or.inl rfl
    next hfull =>
    split
    · rcases ih (w.buybackTimestamp (i - buybackSlotStart)) i with h | ⟨h, hm⟩
      · exact Or.inr ⟨by rw [h]; exact hfull, by rw [h]; exact List.mem_cons_self ..⟩
      · exact Or.inr ⟨h, List.mem_cons_of_mem _ hm⟩
    · rcases ih oldestTime oldestSlot with h | ⟨h, hm⟩
      · exact Or.inl h
      · exact Or.inr ⟨h, List.mem_cons_of_mem _ hm⟩

theorem searchSlot_zero (is : List Nat) (slot oldestSlot : Nat) :
    (w.searchSlot is slot 0 oldestSlot).2 = oldestSlot := by
  induction is with
  | nil => rfl
  | cons i is ih =>
    unfold searchSlot
    split
    · rfl
    · rw [if_neg (Nat.not_lt_zero _)]
      exact ih

/-- **Among filled slots the oldest is found.** -/
theorem searchSlot_oldest (is : List Nat) (slot oldestTime oldestSlot : Nat)
    (htime : w.buybackTimestamp (oldestSlot - buybackSlotStart) = oldestTime) (hfull : ∀ i ∈ is, w.items i ≠ none) :
    w.buybackTimestamp ((w.searchSlot is slot oldestTime oldestSlot).2 - buybackSlotStart) ≤ oldestTime ∧
      ∀ i ∈ is, w.buybackTimestamp ((w.searchSlot is slot oldestTime oldestSlot).2 - buybackSlotStart) ≤
        w.buybackTimestamp (i - buybackSlotStart) := by
  induction is generalizing oldestTime oldestSlot with
  | nil => exact ⟨le_of_eq htime, fun i hi => absurd hi (List.not_mem_nil)⟩
  | cons i is ih =>
    have hrest : ∀ j ∈ is, w.items j ≠ none := fun j hj => hfull j (List.mem_cons_of_mem _ hj)
    unfold searchSlot
    rw [if_neg (hfull i (List.mem_cons_self ..))]
    split
    · next hlt =>
      obtain ⟨h1, h2⟩ := ih (w.buybackTimestamp (i - buybackSlotStart)) i rfl hrest
      refine ⟨by omega, fun j hj => ?_⟩
      rcases List.mem_cons.1 hj with rfl | hj
      · exact h1
      · exact h2 j hj
    · next hle =>
      obtain ⟨h1, h2⟩ := ih oldestTime oldestSlot htime hrest
      refine ⟨h1, fun j hj => ?_⟩
      rcases List.mem_cons.1 hj with rfl | hj
      · omega
      · exact h2 j hj

theorem isBuybackSlot_iff_mem (slot : Nat) : isBuybackSlot slot ↔ slot = buybackSlotStart ∨
    slot ∈ laterSlots := by
  unfold isBuybackSlot
  rw [laterSlots, List.mem_range'_1]
  simp only [buybackSlotStart, buybackSlotEnd]
  omega

/-! ### The invariant -/

/-- **The state between requests**: what is to be bought back is spare, each item in one slot, and every slot
described by its fields. -/
structure Vended (cfg : VendorConfig) (w : BuybackState) : Prop where
  inOrder : w.inv.InOrder cfg.om
  spare : ∀ slot g, w.items slot = some g → w.inv.shelf.Spare cfg.om g
  apart : ∀ slot slot' g, w.items slot = some g → w.items slot' = some g → slot = slot'
  valid : ∀ slot g, w.items slot = some g → isBuybackSlot slot
  current : isBuybackSlot w.currentBuybackSlot
  described : ∀ slot, isBuybackSlot slot → Described cfg w slot

variable {cfg w}

theorem Vended.timestamp_empty (hv : Vended cfg w) {slot : Nat} (hs : isBuybackSlot slot) (he : w.items slot = none) :
    w.buybackTimestamp (slot - buybackSlotStart) = 0 := by
  have hd := hv.described slot hs
  unfold Described at hd
  rw [he] at hd
  exact hd.2.2

theorem Vended.slotToUse_valid (hv : Vended cfg w) : isBuybackSlot w.slotToUse := by
  unfold slotToUse
  split
  · rw [isBuybackSlot_iff_mem]
    rcases w.searchSlot_filled _ w.currentBuybackSlot (w.buybackTimestamp 0) buybackSlotStart with h | ⟨-, h⟩
    · exact Or.inl h
    · exact Or.inr h
  · exact hv.current

/-- **The slot taken is empty, if one is, just if a slot is found.** -/
theorem Vended.slotToUse_empty_iff (hv : Vended cfg w) :
    ((∃ s, isBuybackSlot s ∧ w.items s = none) → w.items w.slotToUse = none) ↔ w.SlotFound := by
  have hfirst : isBuybackSlot buybackSlotStart := by decide
  unfold slotToUse SlotFound
  split
  · next hcur =>
    obtain ⟨g, hg⟩ := Option.isSome_iff_exists.1 hcur
    rw [hg]
    cases hz : w.items buybackSlotStart with
    | none =>
      have htime : w.buybackTimestamp 0 = 0 := hv.timestamp_empty hfirst hz
      rw [htime, searchSlot_zero, hz]
      exact ⟨fun _ => Or.inr (Or.inl rfl), fun _ _ => rfl⟩
    | some g0 =>
      have hfilled : w.items (w.searchSlot laterSlots
          w.currentBuybackSlot (w.buybackTimestamp 0) buybackSlotStart).2 ≠ none := by
        rcases w.searchSlot_filled laterSlots
          w.currentBuybackSlot (w.buybackTimestamp 0) buybackSlotStart with h | ⟨h, -⟩
        · rw [h, hz]; exact Option.some_ne_none _
        · exact h
      constructor
      · intro h
        exact Or.inr (Or.inr fun s hs he => hfilled (h ⟨s, hs, he⟩))
      · rintro (h | h | h) ⟨s, hs, he⟩
        · cases h
        · cases h
        · exact absurd he (h s hs)
  · next hcur =>
    have hnone : w.items w.currentBuybackSlot = none := by simpa using hcur
    exact ⟨fun _ => Or.inl hnone, fun _ _ => hnone⟩

/-- **The slot taken is the oldest** if none is empty. -/
theorem Vended.slotToUse_oldest (hv : Vended cfg w) (hfull : ∀ s, isBuybackSlot s → w.items s ≠ none) (s : Nat)
    (hs : isBuybackSlot s) :
    w.buybackTimestamp (w.slotToUse - buybackSlotStart) ≤ w.buybackTimestamp (s - buybackSlotStart) := by
  unfold slotToUse
  rw [if_pos (Option.ne_none_iff_isSome.1 (hfull _ hv.current))]
  obtain ⟨h1, h2⟩ := w.searchSlot_oldest
    laterSlots w.currentBuybackSlot
    (w.buybackTimestamp 0) buybackSlotStart rfl fun i hi => hfull i ((isBuybackSlot_iff_mem i).2 (Or.inr hi))
  rcases (isBuybackSlot_iff_mem s).1 hs with rfl | hs
  · exact h1
  · exact h2 s hs

/-! ### What a request does -/

theorem priceOf_congr {a b : Item} (h : a.goods = b.goods) : priceOf cfg a = priceOf cfg b := by
  have hentry : a.entry = b.entry := congrArg Goods.entry h
  have hcount : a.count = b.count := congrArg Goods.count h
  unfold priceOf
  rw [hentry, hcount]

theorem Described.congr {t : BuybackState} {slot : Nat} (hd : Described cfg w slot)
    (hitems : t.items slot = w.items slot)
    (hvendor : t.vendorbuybackSlot (slot - buybackSlotStart) = w.vendorbuybackSlot (slot - buybackSlotStart))
    (hprice : t.buybackPrice (slot - buybackSlotStart) = w.buybackPrice (slot - buybackSlotStart))
    (htime : t.buybackTimestamp (slot - buybackSlotStart) = w.buybackTimestamp (slot - buybackSlotStart))
    (hitem : ∀ g, w.items slot = some g →
      priceOf cfg (t.inv.items g) = priceOf cfg (w.inv.items g) ∧ t.soldAt g = w.soldAt g) :
    Described cfg t slot := by
  unfold Described at hd ⊢
  rw [hitems, hvendor, hprice, htime]
  cases hs : w.items slot with
  | none => rw [hs] at hd; exact hd
  | some g =>
    rw [hs] at hd
    obtain ⟨h1, h2⟩ := hitem g hs
    dsimp only at hd ⊢
    rw [h1, h2]
    exact hd

theorem place_ne_of_slot_ne {slot slot' : Nat} (hs : isBuybackSlot slot) (hs' : isBuybackSlot slot')
    (he : slot' ≠ slot) : slot' - buybackSlotStart ≠ slot - buybackSlotStart := by
  have h1 := hs.1
  have h2 := hs'.1
  omega

theorem Described.elsewhere {t : BuybackState} {slot slot' : Nat} (hd : Described cfg w slot')
    (hs : isBuybackSlot slot) (hs' : isBuybackSlot slot') (he : slot' ≠ slot) {item vendor : Option Nat}
    {price time : Nat} (hitems : t.items = Function.update w.items slot item)
    (hvendor : t.vendorbuybackSlot = Function.update w.vendorbuybackSlot (slot - buybackSlotStart) vendor)
    (hprice : t.buybackPrice = Function.update w.buybackPrice (slot - buybackSlotStart) price)
    (htime : t.buybackTimestamp = Function.update w.buybackTimestamp (slot - buybackSlotStart) time)
    (hitem : ∀ g, w.items slot' = some g →
      priceOf cfg (t.inv.items g) = priceOf cfg (w.inv.items g) ∧ t.soldAt g = w.soldAt g) :
    Described cfg t slot' := by
  have hne := place_ne_of_slot_ne hs hs' he
  refine hd.congr ?_ ?_ ?_ ?_ hitem
  · rw [hitems, Function.update_of_ne he]
  · rw [hvendor, Function.update_of_ne hne]
  · rw [hprice, Function.update_of_ne hne]
  · rw [htime, Function.update_of_ne hne]

theorem Vended.withInv (hv : Vended cfg w) {inv : Holdings} (hin : inv.InOrder cfg.om)
    (hst : ∀ slot g, w.items slot = some g → inv.shelf.Spare cfg.om g ∧ inv.shelf.goods g = w.inv.shelf.goods g) :
    Vended cfg { w with inv := inv } := by
  refine ⟨hin, fun slot g hs => (hst slot g hs).1, hv.apart, hv.valid, hv.current, fun slot hslot => ?_⟩
  exact (hv.described slot hslot).congr rfl rfl rfl rfl fun g hs => ⟨priceOf_congr (hst slot g hs).2, rfl⟩

/-- What `RemoveItemFromBuyBackSlot` leaves. -/
structure Cleared (cfg : VendorConfig) (w t : BuybackState) (slot : Nat) (del : Bool) : Prop where
  vended : Vended cfg t
  items : t.items = Function.update w.items slot none
  money : t.money = w.money
  soldAt : t.soldAt = w.soldAt
  kept : del = false → t.inv = w.inv
  goods : ∀ y, (∀ g, w.items slot = some g → y ≠ g) → w.inv.shelf.Spare cfg.om y →
    t.inv.shelf.Spare cfg.om y ∧ t.inv.shelf.goods y = w.inv.shelf.goods y
  deleted : del = true → ∀ g, w.items slot = some g → (t.inv.items g).goods.gone = true

theorem Vended.cleared (hv : Vended cfg w) {slot : Nat} (hs : isBuybackSlot slot) (del : Bool) :
    Cleared cfg w (w.removeItemFromBuyBackSlot pl slot del) slot del := by
  obtain ⟨inv, hinv⟩ : ∃ inv, inv = match w.items slot with
      | some g => if del then w.inv.setState pl g .removed else w.inv
      | none => w.inv := ⟨_, rfl⟩
  -- what becomes of the inventory
  have hkeep : inv.InOrder cfg.om ∧ (del = false → inv = w.inv) ∧
      (∀ y, (∀ g, w.items slot = some g → y ≠ g) → w.inv.shelf.Spare cfg.om y →
        inv.shelf.Spare cfg.om y ∧ inv.shelf.goods y = w.inv.shelf.goods y) ∧
      (del = true → ∀ g, w.items slot = some g → (inv.items g).goods.gone = true) := by
    cases hg : w.items slot with
    | none =>
      rw [hg] at hinv
      subst hinv
      exact ⟨hv.inOrder, fun _ => rfl, fun y _ hy => ⟨hy, rfl⟩, fun _ g h => by cases h⟩
    | some g =>
      rw [hg] at hinv
      cases del with
      | false =>
        subst hinv
        exact ⟨hv.inOrder, fun _ => rfl, fun y _ hy => ⟨hy, rfl⟩, fun h => by cases h⟩
      | true =>
        have hsp := hv.spare slot g hg
        have hsh := w.inv.shelf_setState_removed pl g hsp.empty
        obtain ⟨hin, hst⟩ := w.inv.inOrder_of_discard cfg.om hv.inOrder g hsp _ hsh
        subst hinv
        refine ⟨hin, nofun, fun y hy hysp => hst y (hy g rfl) hysp, fun _ g' h => ?_⟩
        cases h
        have hgoods := congrArg (fun s => (s.goods g).gone) hsh
        exact hgoods.trans (congrArg Goods.gone (Shelf.modify_goods_self _ _ _))
  obtain ⟨hin, hsame, hgoods, hdel⟩ := hkeep
  -- what is left in the other slots
  have hitems : ∀ slot' g, Function.update w.items slot none slot' = some g →
      slot' ≠ slot ∧ w.items slot' = some g := by
    intro slot' g h
    by_cases he : slot' = slot
    · rw [he, Function.update_self] at h; cases h
    · rw [Function.update_of_ne he] at h; exact ⟨he, h⟩
  obtain ⟨c, hc, heq⟩ : ∃ c, isBuybackSlot c ∧ w.removeItemFromBuyBackSlot pl slot del = { w with
      inv := inv
      items := Function.update w.items slot none
      vendorbuybackSlot := Function.update w.vendorbuybackSlot (slot - buybackSlotStart) none
      buybackPrice := Function.update w.buybackPrice (slot - buybackSlotStart) 0
      buybackTimestamp := Function.update w.buybackTimestamp (slot - buybackSlotStart) 0
      currentBuybackSlot := c } := by
    unfold removeItemFromBuyBackSlot
    rw [if_pos hs, ← hinv]
    dsimp only
    split
    · exact ⟨slot, hs, rfl⟩
    · exact ⟨w.currentBuybackSlot, hv.current, rfl⟩
  rw [heq]
  refine ⟨⟨hin, fun slot' g h => ?_, fun s1 s2 g h1 h2 => ?_, fun slot' g h => ?_, hc, fun slot' hs' => ?_⟩, rfl, rfl,
    rfl, hsame, hgoods, hdel⟩
  · obtain ⟨hne, h'⟩ := hitems slot' g h
    exact (hgoods g (fun g' hg' he => hne (hv.apart slot' slot g h' (by rw [hg', he]))) (hv.spare slot' g h')).1
  · exact hv.apart s1 s2 g (hitems s1 g h1).2 (hitems s2 g h2).2
  · exact hv.valid slot' g (hitems slot' g h).2
  · by_cases he : slot' = slot
    · subst he
      unfold Described
      simp only [Function.update_self]
      exact ⟨trivial, trivial, trivial⟩
    · refine (hv.described slot' hs').elsewhere hs hs' he rfl rfl rfl rfl fun g hg => ⟨priceOf_congr ?_, rfl⟩
      exact (hgoods g (fun g' hg' heq => he (hv.apart slot' slot g hg (by rw [hg', heq]))) (hv.spare slot' g hg)).2

/-- What `AddItemToBuyBackSlot` leaves. -/
structure Shelved (cfg : VendorConfig) (w t : BuybackState) (x slot : Nat) : Prop where
  vended : Vended cfg t
  items : t.items = Function.update w.items slot (some x)
  deleted : ∀ g, w.items slot = some g → (t.inv.items g).goods.gone = true

/-- **`AddItemToBuyBackSlot` keeps the invariant**, with the item in the slot it takes. -/
theorem Vended.shelved (hv : Vended cfg w) {x : Nat} (hx : w.inv.shelf.Spare cfg.om x)
    (hfree : ∀ slot, w.items slot ≠ some x) (elapsed : Nat) :
    Shelved cfg w (w.addItemToBuyBackSlot cfg pl x elapsed) x w.slotToUse := by
  obtain ⟨slot, hslot⟩ : ∃ slot, slot = w.slotToUse := ⟨_, rfl⟩
  have hs : isBuybackSlot slot := by rw [hslot]; exact hv.slotToUse_valid
  have hcl := hv.cleared pl hs true
  obtain ⟨t, ht⟩ : ∃ t, t = w.removeItemFromBuyBackSlot pl slot true := ⟨_, rfl⟩
  rw [← ht] at hcl
  have hxt := (hcl.goods x (fun g hg he => hfree slot (by rw [hg, he])) hx).1
  obtain ⟨c, hc, heq⟩ : ∃ c, isBuybackSlot c ∧ w.addItemToBuyBackSlot cfg pl x elapsed = { t with
      items := Function.update t.items slot (some x)
      vendorbuybackSlot := Function.update t.vendorbuybackSlot (slot - buybackSlotStart) (some x)
      buybackPrice := Function.update t.buybackPrice (slot - buybackSlotStart) (priceOf cfg (t.inv.items x))
      buybackTimestamp :=
        Function.update t.buybackTimestamp (slot - buybackSlotStart) (u32 (elapsed + 30 * 3600))
      soldAt := Function.update t.soldAt x (u32 (elapsed + 30 * 3600))
      currentBuybackSlot := c } := by
    have hcur := hcl.vended.current
    unfold addItemToBuyBackSlot
    dsimp only
    rw [← hslot, ← ht]
    split
    · next hlt => exact ⟨t.currentBuybackSlot + 1, ⟨Nat.le_succ_of_le hcur.1, by omega⟩, rfl⟩
    · exact ⟨t.currentBuybackSlot, hcur, rfl⟩
  have hitems : Function.update t.items slot (some x) = Function.update w.items slot (some x) := by
    rw [hcl.items, Function.update_idem]
  have hother : ∀ slot' g, slot' ≠ slot → Function.update t.items slot (some x) slot' = some g →
      t.items slot' = some g ∧ g ≠ x := by
    intro slot' g hne h
    rw [Function.update_of_ne hne] at h
    refine ⟨h, ?_⟩
    rintro rfl
    rw [hcl.items, Function.update_of_ne hne] at h
    exact hfree slot' h
  rw [← hslot, heq]
  refine ⟨⟨hcl.vended.inOrder, fun slot' g h => ?_, fun s1 s2 g h1 h2 => ?_, fun slot' g h => ?_, hc,
    fun slot' hs' => ?_⟩, hitems, hcl.deleted rfl⟩
  · change Function.update t.items slot (some x) slot' = some g at h
    by_cases he : slot' = slot
    · rw [he, Function.update_self] at h
      cases h
      exact hxt
    · exact hcl.vended.spare slot' g (hother slot' g he h).1
  · change Function.update t.items slot (some x) s1 = some g at h1
    change Function.update t.items slot (some x) s2 = some g at h2
    by_cases he1 : s1 = slot
    · by_cases he2 : s2 = slot
      · rw [he1, he2]
      · rw [he1, Function.update_self] at h1
        exact absurd (Option.some.inj h1).symm (hother s2 g he2 h2).2
    · by_cases he2 : s2 = slot
      · rw [he2, Function.update_self] at h2
        exact absurd (Option.some.inj h2).symm (hother s1 g he1 h1).2
      · exact hcl.vended.apart s1 s2 g (hother s1 g he1 h1).1 (hother s2 g he2 h2).1
  · by_cases he : slot' = slot
    · rw [he]; exact hs
    · exact hcl.vended.valid slot' g (hother slot' g he h).1
  · by_cases he : slot' = slot
    · subst he
      unfold Described
      simp only [Function.update_self]
      exact ⟨trivial, trivial, trivial⟩
    · refine (hcl.vended.described slot' hs').elsewhere hs hs' he rfl rfl rfl rfl fun g hg => ⟨rfl, ?_⟩
      exact Function.update_of_ne (hother slot' g he (by rw [Function.update_of_ne he]; exact hg)).2 ..

/-! ### The requests -/

/-- **What is taken for sale** is spare and not to be bought back, and nothing else has changed. -/
theorem Vended.takeForSale (hv : Vended cfg w) {itemguid count lootGuid x n : Nat} {inv : Holdings}
    (h : w.takeForSale cfg pl itemguid count lootGuid = some (x, n, inv)) :
    inv.InOrder cfg.om ∧ inv.shelf.Spare cfg.om x ∧ w.inv.SparesStay cfg.om inv x ∧
      ∀ slot, w.items slot ≠ some x := by
  unfold BuybackState.takeForSale at h
  split at h
  · cases h
  next g hg =>
  have hguid : w.inv.getItemByGuid pl itemguid = some g := by
    split at hg
    · cases hg
    · exact hg
  obtain ⟨-, bag, slot, hat⟩ := PostOffice.getItemByGuid_eq_some w.inv pl itemguid g hguid
  split at h
  · cases h
  split at h
  · cases h
  next hbag =>
  split at h
  · cases h
  dsimp only at h
  obtain ⟨m, hm⟩ : ∃ m, m = if count = 0 then (w.inv.items g).count else count := ⟨_, rfl⟩
  rw [← hm] at h
  split at h
  · cases h
  next hle =>
  split at h
  · cases h
  next proto hproto =>
  split at h
  case isFalse => cases h
  next hsell =>
  have hplaced : ∀ y, w.inv.shelf.Spare cfg.om y → y ≠ g := by
    rintro y hy rfl
    exact hv.inOrder.orderly.itemAt_ne_loose y hy.loose pl bag slot y hat rfl
  have hst := (hv.inOrder.orderly.itemAt_back pl bag slot g hat).1
  have hpos : 0 < (w.inv.items g).count := by
    obtain ⟨-, -, h0, -⟩ := hst.proto
    exact h0
  split at h
  · -- part of a stack
    next hlt =>
    have h0 : 0 < m := by
      split at hm <;> omega
    split at h
    · cases h
    next pNewItem inv1 hclone =>
    obtain ⟨rfl, hsh, hin1, hsp, hstay⟩ := w.inv.cloneItem_spec cfg.om pl hv.inOrder g m pNewItem inv1 hst h0
      (Nat.le_of_lt hlt) hclone
    simp only [Option.some.injEq, Prod.mk.injEq] at h
    obtain ⟨rfl, rfl, rfl⟩ := h
    have hne : g ≠ w.inv.nextGuid := Nat.ne_of_lt hst.old
    have hgoods : inv1.shelf.goods g = w.inv.shelf.goods g := by
      rw [hsh]; exact Shelf.create_goods_of_ne _ _ g hne
    have hcount : (inv1.items g).count = (w.inv.items g).count := congrArg Goods.count hgoods
    have hat1 : inv1.getItemByPos pl bag slot = some g := by
      rw [Holdings.getItemByPos_shelf, hsh]
      exact (Shelf.create_samePlace hv.inOrder.orderly _ pl bag slot).1.trans hat
    have hkept : (inv1.items g).goods.gone = false := by
      rw [← Holdings.shelf_goods, hgoods]
      exact hst.kept
    have hset : ((inv1.modify g fun it => { it with count := it.count - m }).setState pl g .changed).shelf =
        inv1.shelf.setCount g ((inv1.items g).count - m) := by
      rw [Holdings.shelf_setState_changed _ pl g (by simpa [Holdings.modify, Item.goods] using hkept)]
      exact inv1.shelf_modify g _ (fun x => { x with count := (inv1.items g).count - m }) rfl
    obtain ⟨hin2, hstay2⟩ := inv1.inOrder_of_setCount cfg.om pl hin1 bag slot g ((inv1.items g).count - m) hat1
      (by omega) (Nat.sub_le ..) _ hset
    refine ⟨hin2, (hstay2 _ hne.symm hsp).1, fun y hy hysp => ?_, fun s hs => ?_⟩
    · obtain ⟨h1, h2⟩ := hstay y hy hysp
      obtain ⟨h3, h4⟩ := hstay2 y (hplaced y hysp) h1
      exact ⟨h3, h4.trans h2⟩
    · exact absurd (hv.spare s _ hs).stacked.old (Nat.lt_irrefl _)
  · -- a whole stack
    next hge =>
    simp only [Option.some.injEq, Prod.mk.injEq] at h
    obtain ⟨rfl, rfl, rfl⟩ := h
    have hempty := PostOffice.empty_of_canAttach w.inv hv.inOrder pl bag slot g hat hbag
    obtain ⟨hb, hs⟩ := w.inv.getBagSlot_eq cfg.om pl hv.inOrder bag slot g hat
    rw [hb, hs]
    have htk := w.inv.removeItem_spec cfg.om pl hv.inOrder.orderly bag slot g hat hempty
    rw [← (w.inv.removeItem pl bag slot).shelf_removeFromUpdateQueueOf pl g] at htk
    obtain ⟨hin, hstay⟩ := Holdings.inOrder_of_isTaken cfg.om pl htk hv.inOrder
    exact ⟨hin, htk.spare, hstay, fun s hs => hplaced g (hv.spare s g hs) rfl⟩

/-- **What a sale does.** -/
theorem Vended.sale (hv : Vended cfg w) (itemguid count lootGuid elapsed : Nat) :
    (w.takeForSale cfg pl itemguid count lootGuid = none ∧
      w.handleSellItem cfg pl itemguid count lootGuid elapsed = w) ∨
    ∃ x n inv, w.takeForSale cfg pl itemguid count lootGuid = some (x, n, inv) ∧
      Shelved cfg w (w.handleSellItem cfg pl itemguid count lootGuid elapsed) x w.slotToUse := by
  cases h : w.takeForSale cfg pl itemguid count lootGuid with
  | none =>
    left
    refine ⟨rfl, ?_⟩
    unfold handleSellItem
    rw [h]
  | some r =>
    obtain ⟨x, n, inv⟩ := r
    right
    refine ⟨x, n, inv, rfl, ?_⟩
    obtain ⟨hin, hsp, hstay, hfree⟩ := hv.takeForSale pl h
    have hv1 : Vended cfg { w with inv := inv } :=
      hv.withInv hin fun slot g hs => hstay g (fun he => hfree slot (by rw [hs, he])) (hv.spare slot g hs)
    have hadd := hv1.shelved pl hsp hfree elapsed
    unfold handleSellItem
    rw [h]
    obtain ⟨h1, h2, h3⟩ := hadd
    exact ⟨⟨h1.inOrder, h1.spare, h1.apart, h1.valid, h1.current, h1.described⟩, h2, h3⟩

/-- **What a buyback does.** -/
theorem Vended.buyback (hv : Vended cfg w) (slot : Nat) :
    Vended cfg (w.handleBuybackItem cfg pl slot) ∧ ((w.handleBuybackItem cfg pl slot).items = w.items ∨
      (w.handleBuybackItem cfg pl slot).items = Function.update w.items slot none) := by
  unfold handleBuybackItem
  split
  case isFalse => exact ⟨hv, Or.inl rfl⟩
  next hs =>
  cases hg : w.items slot with
  | none => exact ⟨hv, Or.inl rfl⟩
  | some g =>
    dsimp only
    split
    · exact ⟨hv, Or.inl rfl⟩
    split
    · next hok =>
      have hsp := hv.spare slot g hg
      have hv1 : Vended cfg { w with money := modifyMoney w.money (-toInt32 (w.buybackPrice (slot - buybackSlotStart))) } :=
        ⟨hv.inOrder, hv.spare, hv.apart, hv.valid, hv.current, hv.described⟩
      obtain ⟨hv2, hitems, -, -, hkept, -, -⟩ := hv1.cleared pl hs false
      rw [hkept rfl]
      obtain ⟨hwent, -⟩ := w.inv.wentIn_of_canStoreItem cfg.om pl hv.inOrder g hsp _ hok rfl
      refine ⟨hv2.withInv hwent.inOrder fun slot' y hy => ?_, Or.inr hitems⟩
      have hy' : w.items slot' = some y ∧ slot' ≠ slot := by
        rw [hitems] at hy
        by_cases he : slot' = slot
        · rw [he, Function.update_self] at hy; cases hy
        · rw [Function.update_of_ne he] at hy; exact ⟨hy, he⟩
      rw [hkept rfl]
      refine hwent.spares y ?_ (hv.spare slot' y hy'.1)
      rintro rfl
      exact hy'.2 (hv.apart slot' slot y hy'.1 hg)
    · exact ⟨hv, Or.inl rfl⟩

/-! ### The steps -/

theorem Vended.step (hv : Vended cfg w) (r : VendorRequest) : Vended cfg (w.vendorStep cfg pl r) := by
  cases r with
  | sell itemguid count lootGuid elapsed =>
    rcases hv.sale pl itemguid count lootGuid elapsed with ⟨-, h⟩ | ⟨x, n, inv, -, h⟩
    · show Vended cfg (w.handleSellItem cfg pl itemguid count lootGuid elapsed)
      rw [h]
      exact hv
    · exact h.vended
  | buyback slot => exact (hv.buyback pl slot).1

/-- **A request is lawful just if it finds a slot.** -/
theorem Vended.lawful_iff (hv : Vended cfg w) (r : VendorRequest) :
    LawfulTrade cfg pl w r ↔ FindsSlot cfg pl w r := by
  have hnext := hv.step pl r
  have hstored : ∀ slot g, (w.vendorStep cfg pl r).items slot = some g →
      ((w.vendorStep cfg pl r).inv.items g).goods.gone = false := fun slot g hs =>
    (hnext.spare slot g hs).stacked.kept
  cases r with
  | sell itemguid count lootGuid elapsed =>
    unfold FindsSlot
    dsimp only
    rcases hv.sale pl itemguid count lootGuid elapsed with ⟨hnone, h⟩ | ⟨x, n, inv, hsome, h⟩
    · rw [hnone]
      refine ⟨fun _ h => absurd rfl h, fun _ => ⟨hnext.described, hstored, ?_, nofun⟩⟩
      intro i c l e he
      cases he
      rw [hnone]
      exact h
    · rw [hsome, ← hv.slotToUse_empty_iff]
      constructor
      · intro hl _ hempty
        have hsold := hl.sold itemguid count lootGuid elapsed rfl
        rw [hsome] at hsold
        obtain ⟨slot, hfill⟩ := hsold
        -- both are the slot in which the item is now
        have hat : (w.handleSellItem cfg pl itemguid count lootGuid elapsed).items slot = some x := by
          have hitems := congrFun hfill.items slot
          rw [Function.update_self] at hitems
          exact hitems
        have hat' : (w.handleSellItem cfg pl itemguid count lootGuid elapsed).items w.slotToUse = some x := by
          rw [h.items, Function.update_self]
        rw [← h.vended.apart slot w.slotToUse x hat hat']
        exact hfill.empty hempty
      · intro hfound
        refine ⟨hnext.described, hstored, ?_, nofun⟩
        intro i c l e he
        cases he
        rw [hsome]
        exact ⟨w.slotToUse, hv.slotToUse_valid, h.items, hfound (Option.some_ne_none _), hv.slotToUse_oldest, h.deleted⟩
  | buyback slot =>
    refine ⟨fun _ => trivial, fun _ => ⟨hnext.described, hstored, nofun, ?_⟩⟩
    intro s hs
    cases hs
    exact (hv.buyback pl slot).2

theorem vended_login (cfg : VendorConfig) {inv : Holdings} (hin : inv.InOrder cfg.om) (money : Nat) :
    Vended cfg { inv := inv, money := money } :=
  ⟨hin, nofun, nofun, nofun, show isBuybackSlot buybackSlotStart by decide, fun _ _ => ⟨rfl, rfl, rfl⟩⟩

/-! ## Top theorems -/

/-- **The buyback slots are kept as promised** in a run just if each sale of it finds a slot: the current or the
first is empty, or none is. -/
theorem buyback_kept_iff (cfg : VendorConfig) (pl : Nat) (w : BuybackState) (hv : Vended cfg w)
    (rs : List VendorRequest) :
    Transition.Along (vendorStep cfg pl) (LawfulTrade cfg pl) w rs ↔
      Transition.Along (vendorStep cfg pl) (FindsSlot cfg pl) w rs :=
  Transition.along_iff_of_invariant (fun _ r hs _ => hs.step pl r) (fun _ r hs => hs.lawful_iff pl r) hv

/-! ### A run -/

/-- Everything is worth three copper. -/
def sampleVendor : VendorConfig where
  om := Holdings.sampleMgr
  sellPrice _ := 3

theorem sampleVendor_vended : Vended sampleVendor { inv := Holdings.sampleHoldings } := by
  obtain ⟨h1, h2, h3⟩ := Holdings.sampleHoldings_orderly
  exact vended_login sampleVendor ⟨h1, h2, h3⟩ 0

/-- Sold and bought back. -/
theorem buyback_kept_iff_sample : Transition.Along (vendorStep sampleVendor 1) (LawfulTrade sampleVendor 1)
    { inv := Holdings.sampleHoldings } [.sell 6 12 0 0, .buyback 74] :=
  (buyback_kept_iff sampleVendor 1 _ sampleVendor_vended _).2 ⟨fun _ => Or.inl rfl, trivial, trivial⟩

/-- Twelve of a stack sold one by one, the first and the third bought back, and one sold again. -/
def sampleSales : List VendorRequest :=
  (List.range 12).map (fun i => .sell 6 1 0 i) ++ [.buyback 74, .buyback 76, .sell 6 1 0 20]

def sampleSold : BuybackState :=
  Transition.run (vendorStep sampleVendor 1) { inv := Holdings.sampleHoldings } sampleSales

/-- **An item is lost**: at the next sale slot 76 is empty, and that of the item in slot 75 is taken. -/
theorem item_lost : ¬ Transition.Along (vendorStep sampleVendor 1) (LawfulTrade sampleVendor 1)
    { inv := Holdings.sampleHoldings } (sampleSales ++ [.sell 6 1 0 21]) := by
  intro h
  rw [Transition.along_append] at h
  have hv : Vended sampleVendor sampleSold :=
    Transition.invariant_run (fun _ r hs => hs.step 1 r) sampleVendor_vended sampleSales
  have hfind := (hv.lawful_iff 1 _).1 h.2.1
  have htaken : (sampleSold.takeForSale sampleVendor 1 6 1 0).isSome = true := by decide +kernel
  rcases hfind (Option.isSome_iff_ne_none.1 htaken) with hc | hz | hf
  · exact absurd hc (by decide +kernel)
  · exact absurd hz (by decide +kernel)
  · exact absurd (by decide +kernel) (hf 76 (by decide))

end BuybackState

end BlizzLike
