import BlizzLikeCore.Inventory.StoreRefines

/-!
# Moving items out of and into inventories

`RemoveItem`, `MoveItemFromInventory` and `MoveItemToInventory`: the common steps of trade,
mail and auctions.  On the shelf the first two take an object out of its place and the third
stores over the destination list.

    removeItem_spec, moveItemFromInventory_spec : the item is spare afterwards
    wentIn_of_canStoreItem                      : the item went to the destinations
    createItem_spec, deleteItem_spec            : items come and go spare
-/

namespace BlizzLike

namespace Holdings

variable (om : ObjectMgr) (h : Holdings) (pl : Nat)

/-! ## Algorithm -/

def clearEnchantment (g slot : Nat) : Holdings :=
  if (h.items g).enchantmentId slot = 0 then h
  else
    (h.modify g fun it => { it with enchantmentId := Function.update it.enchantmentId slot 0 }).setState
      (h.items g).owner g .changed

/-- "remove held enchantments" of `RemoveItem`. -/
def removeHeldEnchantments (slot g : Nat) : Holdings :=
  if slot = equipmentSlotMainhand then
    if (h.items g).suffixFactor ≠ 0 then (h.clearEnchantment g 9).clearEnchantment g 10
    else (h.clearEnchantment g 6).clearEnchantment g 7
  else h

def removeItem (bag slot : Nat) : Holdings :=
  match h.getItemByPos pl bag slot with
  | none => h
  | some g =>
    let h1 :=
      if bag = inventorySlotBag0 then (h.removeHeldEnchantments slot g).setSlot pl slot none
      else
        match h.ownItem pl bag with
        | none => h
        | some b => h.bagRemoveItem b slot
    h1.modify g fun it => { it with contained := .none, slot := nullSlot }

def getBagSlot (g : Nat) : Nat :=
  match (h.items g).container with
  | some b => (h.items b).slot
  | none => inventorySlotBag0

def moveItemFromInventory (bag slot : Nat) : Holdings :=
  match h.getItemByPos pl bag slot with
  | none => h
  | some g => (h.removeItem pl bag slot).removeFromUpdateQueueOf pl g

def moveItemToInventory (dest : List ItemPosCount) (g : Nat) (inCharacterInventoryDB : Bool) : Holdings :=
  let r := storeItem om pl g dest (some g, h)
  if r.1 = some g then
    (r.2.modify g fun it => { it with owner := pl }).setState pl g
      (if inCharacterInventoryDB then .changed else .new)
  else r.2

/-! ## Lemmas -/

theorem shelf_setState_live (g : Nat) (state : ItemUpdateState) (hst : state = .changed ∨ state = .new)
    (hg : (h.items g).goods.gone = false) : (h.setState pl g state).shelf = h.shelf := by
  rcases hst with rfl | rfl
  · exact h.shelf_setState_changed pl g hg
  · unfold setState
    rw [if_neg (by simp), if_pos (by simp), shelf_addToUpdateQueueOf]
    refine h.shelf_modify_same g _ ?_
    obtain ⟨hl, hr⟩ := (goods_gone_eq_false _).1 hg
    split
    · simp [Item.goods, hl, hr]
    · rfl

theorem shelf_clearEnchantment (g slot : Nat) (hg : (h.items g).goods.gone = false) :
    (h.clearEnchantment g slot).shelf = h.shelf := by
  unfold clearEnchantment
  split
  · rfl
  · rw [shelf_setState_changed]
    · exact h.shelf_modify_same g _ rfl
    · simpa [modify, Item.goods] using hg

theorem shelf_removeHeldEnchantments (slot g : Nat) (hg : (h.items g).goods.gone = false) :
    (h.removeHeldEnchantments slot g).shelf = h.shelf := by
  have htwo : ∀ s1 s2, ((h.clearEnchantment g s1).clearEnchantment g s2).shelf = h.shelf := by
    intro s1 s2
    have h1 := h.shelf_clearEnchantment g s1 hg
    exact (shelf_clearEnchantment _ g s2 (gone_of_shelf_eq h _ h1 g hg)).trans h1
  unfold removeHeldEnchantments
  split
  · split
    · exact htwo 9 10
    · exact htwo 6 7
  · rfl

/-- **What is in a bag is taken out** by `Bag::RemoveItem`. -/
theorem shelf_bagRemoveItem (ho : h.shelf.Orderly om) (bag b slot g : Nat) (hbag : isBagSlot bag = true)
    (hs : h.shelf.slots pl bag = some b) (hin : (h.items b).bagslot slot = some g) :
    ((h.bagRemoveItem b slot).modify g fun it => { it with contained := .none, slot := nullSlot }).shelf =
      h.shelf.takeIn b slot g := by
  have hne : g ≠ b := by
    rintro rfl
    have hc := (ho.own pl bag g (Shelf.isOwnSlot_of_isBagSlot bag hbag) hs).2.2.1
    rw [(ho.inside g slot g hin).1] at hc; cases hc
  unfold bagRemoveItem
  rw [hin]
  simp only
  rw [shelf_modify _ g _ (fun x => { x with slot := nullSlot }) rfl]
  rw [shelf_modify _ b _ (fun x => { x with bagslot := Function.update x.bagslot slot none }) rfl]
  rw [h.shelf_modify g _ (fun x => { x with container := none }) rfl]
  -- the three changes are those of the shelf, in another order
  unfold Shelf.takeIn Shelf.modify
  congr 1
  funext i
  by_cases hi : i = g
  · subst hi; simp [hne]
  · by_cases hib : i = b
    · subst hib; simp [hi]
    · simp [hi, hib]

/-- **`RemoveItem` takes the object out of its place.** -/
theorem shelf_removeItem (ho : h.shelf.Orderly om) (bag slot g : Nat)
    (hg : h.getItemByPos pl bag slot = some g) :
    (h.removeItem pl bag slot).shelf = h.shelf.take pl bag slot g := by
  have hg' : h.shelf.itemAt pl bag slot = some g := hg
  have hkept : (h.items g).goods.gone = false := (ho.itemAt_back pl bag slot g hg').1.kept
  unfold removeItem Shelf.take
  rw [hg]
  simp only
  split
  · next hb =>
    have hsh := h.shelf_removeHeldEnchantments slot g hkept
    rw [shelf_modify _ g _ (fun x => { x with slot := nullSlot }) rfl]
    rw [shelf_setSlot, hsh]
    rfl
  · next hb =>
    rcases Shelf.itemAt_eq_some h.shelf pl bag slot g hg' with ⟨he, -⟩ | ⟨hbag, b, hs, hlt, hin⟩
    · exact absurd he hb
    · have hob : h.ownItem pl bag = some b :=
        (Shelf.own_eq h.shelf pl bag (Shelf.isOwnSlot_of_isBagSlot bag hbag)).trans hs
      have hob' : h.shelf.own pl bag = some b := hob
      simp only [hob, hob']
      exact h.shelf_bagRemoveItem om pl ho bag b slot g hbag hs hin

theorem removeItem_spec (ho : h.shelf.Orderly om) (bag slot g : Nat)
    (hg : h.getItemByPos pl bag slot = some g) (he : h.shelf.Empty g) :
    Shelf.IsTaken om h.shelf (h.removeItem pl bag slot).shelf pl bag slot g := by
  rw [h.shelf_removeItem om pl ho bag slot g hg]
  exact Shelf.take_spec ho pl bag slot g hg he

theorem moveItemFromInventory_spec (ho : h.shelf.Orderly om) (bag slot g : Nat)
    (hg : h.getItemByPos pl bag slot = some g) (he : h.shelf.Empty g) :
    Shelf.IsTaken om h.shelf (h.moveItemFromInventory pl bag slot).shelf pl bag slot g := by
  unfold moveItemFromInventory
  rw [hg]
  simp only [shelf_removeFromUpdateQueueOf]
  exact h.removeItem_spec om pl ho bag slot g hg he

theorem storeItem_last (g : Nat) (proto : ItemPrototype) (dest : List ItemPosCount) (hne : dest ≠ [])
    (r : Option Nat × Holdings) (ho : r.2.shelf.Orderly om) (hg : r.2.shelf.Spare om g)
    (hp : om.getItemPrototype (r.2.items g).entry = some proto) (hf : r.2.shelf.Fits proto pl dest)
    (hl : (storeItem om pl g dest r).1 = some g) :
    ∃ d ∈ dest, (storeItem om pl g dest r).2.getItemByPos pl (d.pos / 256) (d.pos % 256) = some g := by
  induction dest generalizing r with
  | nil => exact absurd rfl hne
  | cons d ds ih =>
    obtain ⟨hex, h0, hr⟩ := hf.entry d (List.mem_cons_self ..)
    cases ds with
    | nil =>
      have hsh := shelf_storeItemAt om r.2 pl d.pos g d.count proto false ho hg.loose hg.stacked hg.empty
        hex h0 hp hr
      refine ⟨d, List.mem_cons_self .., ?_⟩
      rw [storeItem, getItemByPos_shelf, hsh]
      rw [storeItem] at hl
      cases hk : r.2.shelf.itemAt pl (d.pos / 256) (d.pos % 256) with
      | none =>
        exact (Shelf.storeAt_empty pl _ _ g d.count proto ho false hg.loose hg.stacked hg.empty hex h0 hp
          hr hk).2.2 rfl
      | some k =>
        unfold storeItemAt at hl
        simp only [getItemByPos_shelf, hk, Option.some.injEq] at hl
        exact absurd hl (ho.itemAt_ne_loose g hg.loose _ _ _ k hk)
    | cons d' ds =>
      obtain ⟨h, hloose, -⟩ := @Shelf.storeAt_spec om _ pl (d.pos / 256) (d.pos % 256) g d.count proto
        ho true hg.loose hg.stacked hg.empty hex h0 hp hr
      have hsl := hloose rfl
      have hge := hsl.goods
      have hs := shelf_storeItemAt om r.2 pl d.pos g d.count proto true ho hg.loose hg.stacked hg.empty hex
        h0 hp hr
      rw [← hs] at h hsl hge
      rw [storeItem] at hl ⊢
      obtain ⟨e, he, hat⟩ := ih (by simp) (r.2.storeItemAt om pl d.pos g d.count true) h.orderly
        ⟨hsl.loose, hsl.stacked, fun j => by rw [hge]; exact hg.empty j⟩
        (by rw [← hp]; exact congrArg om.getItemPrototype (congrArg Goods.entry hge))
        (h.fits_tail pl g proto hf ho) hl
      exact ⟨e, List.mem_cons_of_mem _ he, hat⟩

/-- **`MoveItemToInventory` stores like `StoreItem`.** -/
theorem shelf_moveItemToInventory (g : Nat) (proto : ItemPrototype) (dest : List ItemPosCount)
    (hne : dest ≠ []) (inDB : Bool) (ho : h.shelf.Orderly om) (hg : h.shelf.Spare om g)
    (hp : om.getItemPrototype (h.items g).entry = some proto) (hf : h.shelf.Fits proto pl dest) :
    (h.moveItemToInventory om pl dest g inDB).shelf = Shelf.store pl g dest h.shelf := by
  have hsh := shelf_storeItem om pl g proto dest (some g, h) ho hg.loose hg.stacked hg.empty hp hf
  have hstored := @Shelf.store_spec om pl g proto dest hne h.shelf ho hg.loose hg.stacked hg.empty hp
    hf
  unfold moveItemToInventory
  simp only
  split
  · next hl =>
    obtain ⟨d, -, hat⟩ := storeItem_last om pl g proto dest hne (some g, h) ho hg hp hf hl
    rw [← hsh] at hstored
    have hback := hstored.orderly.itemAt_back pl (d.pos / 256) (d.pos % 256) g hat
    have hsame : ((storeItem om pl g dest (some g, h)).2.modify g fun it => { it with owner := pl }).shelf =
        (storeItem om pl g dest (some g, h)).2.shelf := by
      have hown : ((storeItem om pl g dest (some g, h)).2.items g).owner = pl := hback.2.1
      refine shelf_modify_same _ g _ ?_
      simp only [Item.goods, hown]
    rw [shelf_setState_live _ pl g _ (by split <;> simp), hsame, hsh]
    rw [← shelf_goods, hsame]
    exact hback.1.kept
  · exact hsh

/-! ## Top theorems -/

/-- An inventory in order: what every operation of this layer keeps. -/
structure InOrder (om : ObjectMgr) (h : Holdings) : Prop where
  orderly : h.shelf.Orderly om
  bagsWorn : h.shelf.BagsWorn om
  alive : h.shelf.Alive

/-- The items out of every inventory, but for `g`, stay so. -/
def SparesStay (om : ObjectMgr) (h t : Holdings) (g : Nat) : Prop :=
  ∀ y, y ≠ g → h.shelf.Spare om y → t.shelf.Spare om y ∧ t.shelf.goods y = h.shelf.goods y

theorem sparesStay_of {s t : Holdings} {g : Nat} (hn : s.nextGuid ≤ t.nextGuid)
    (hl : ∀ y, y ≠ g → y < s.nextGuid → s.shelf.Loose y → t.shelf.Loose y ∧ t.shelf.goods y = s.shelf.goods y) :
    SparesStay om s t g := by
  intro y hy hs
  obtain ⟨h1, h2⟩ := hl y hy hs.stacked.old hs.loose
  exact ⟨⟨h1, hs.stacked.congr hn (by rw [h2]) (by rw [h2]) (by rw [h2]) (by rw [h2]),
    fun j => by rw [h2]; exact hs.empty j⟩, h2⟩

theorem inOrder_of_isTaken {s t : Holdings} {bag slot g : Nat}
    (ht : Shelf.IsTaken om s.shelf t.shelf pl bag slot g) (hin : s.InOrder om) :
    t.InOrder om ∧ SparesStay om s t g := by
  refine ⟨⟨ht.orderly, fun p q i hq hs => ?_, fun p q i hs => ?_⟩, ?_⟩
  · exact (hin.bagsWorn p q i hq (ht.slots p q i hs)).congr (ht.same i).1
  · rw [(ht.same i).2.2.1]; exact hin.alive p q i (ht.slots p q i hs)
  · exact sparesStay_of om (le_of_eq ht.next.symm) fun y hy _ hl => ht.loose y hy hl

/-- What `MoveItemToInventory` and `StoreItem` come to on the shelf. -/
structure WentIn (om : ObjectMgr) (h t : Holdings) (pl g : Nat) (dest : List ItemPosCount) : Prop where
  inOrder : t.InOrder om
  spares : SparesStay om h t g
  stored : Shelf.Stored om h.shelf t.shelf pl g dest
  count : Shelf.destCount dest = (h.items g).count

/-- `dest` has room for all of `g`, in the backpack, the keyring and the bags. -/
structure HasRoom (om : ObjectMgr) (h : Holdings) (pl g : Nat) (dest : List ItemPosCount) : Prop where
  fits : ∃ proto, om.getItemPrototype (h.items g).entry = some proto ∧ h.shelf.Fits proto pl dest
  count : Shelf.destCount dest = (h.items g).count
  notWorn : ∀ d ∈ dest, d.pos / 256 = inventorySlotBag0 → isBagSlot (d.pos % 256) = false

theorem HasRoom.ne_nil {g : Nat} {dest : List ItemPosCount} (hr : HasRoom om h pl g dest) (hg : h.shelf.Spare om g) :
    dest ≠ [] := by
  obtain ⟨-, -, hpos, -, -⟩ := hg.stacked.proto
  have hcount := hr.count
  rintro rfl
  have hpos' : 0 < (h.items g).count := hpos
  rw [← hcount] at hpos'
  exact absurd hpos' (by decide)

theorem hasRoom_of_canStoreItem (hin : h.InOrder om) (g : Nat) (hg : h.shelf.Spare om g)
    (hok : (h.canStoreItem om pl nullBag nullSlot (h.items g).entry (h.items g).count (some g) false).res = .ok) :
    HasRoom om h pl g
      (h.canStoreItem om pl nullBag nullSlot (h.items g).entry (h.items g).count (some g) false).dest := by
  obtain ⟨proto', hp', hpos, hle, -⟩ := hg.stacked.proto
  have hpos' : 0 < (h.items g).count := hpos
  have hle' : (h.items g).count ≤ 255 := hle.trans proto'.stackable_le
  obtain ⟨proto, hp, hf, hsum, hplace⟩ := h.fits_of_canStoreItem om pl g (h.items g).count hin.orderly
    hin.bagsWorn hg.loose nullBag nullSlot (Or.inl rfl) (by decide) hpos' hle' hok
  refine ⟨⟨proto, hp, hf⟩, hsum, fun d hmem hb => ?_⟩
  rcases (hplace d hmem).2 hb with hs | hs
  · rw [isStoreSlot_iff] at hs
    rw [Bool.eq_false_iff, Ne, isBagSlot_iff]
    omega
  · simp [requestPos] at hs

/-- Where there is room, `MoveItemToInventory` and `StoreItem` come to a store on the shelf. -/
theorem HasRoom.shelf {g : Nat} {dest : List ItemPosCount} (hr : HasRoom om h pl g dest) (hin : h.InOrder om)
    (hg : h.shelf.Spare om g) :
    (storeItem om pl g dest (some g, h)).2.shelf = Shelf.store pl g dest h.shelf ∧
      ∀ inDB, (h.moveItemToInventory om pl dest g inDB).shelf = Shelf.store pl g dest h.shelf := by
  obtain ⟨proto, hp, hf⟩ := hr.fits
  exact ⟨shelf_storeItem om pl g proto dest (some g, h) hin.orderly hg.loose hg.stacked hg.empty hp hf,
    fun inDB => h.shelf_moveItemToInventory om pl g proto dest (hr.ne_nil om h pl hg) inDB hin.orderly hg hp hf⟩

theorem HasRoom.wentIn {g : Nat} {dest : List ItemPosCount} (hr : HasRoom om h pl g dest) (hin : h.InOrder om)
    (hg : h.shelf.Spare om g) (t : Holdings) (ht : t.shelf = Shelf.store pl g dest h.shelf) :
    WentIn om h t pl g dest := by
  obtain ⟨proto, hp, hf⟩ := hr.fits
  have hstored := @Shelf.store_spec om pl g proto dest (hr.ne_nil om h pl hg) h.shelf hin.orderly hg.loose
    hg.stacked hg.empty hp hf
  rw [← ht] at hstored
  exact ⟨⟨hstored.orderly, hstored.bagsWorn pl g hin.bagsWorn hr.notWorn, hstored.alive hin.alive⟩,
    sparesStay_of om hstored.next hstored.loose, hstored, hr.count⟩

/-- **A spare item goes into the inventory** wherever `CanStoreItem` without a requested place
finds room. -/
theorem wentIn_of_canStoreItem (hin : h.InOrder om) (g : Nat) (hg : h.shelf.Spare om g)
    (dest : List ItemPosCount)
    (hok : (h.canStoreItem om pl nullBag nullSlot (h.items g).entry (h.items g).count (some g) false).res =
      .ok)
    (hd : (h.canStoreItem om pl nullBag nullSlot (h.items g).entry (h.items g).count (some g) false).dest =
      dest) :
    WentIn om h (storeItem om pl g dest (some g, h)).2 pl g dest ∧
      ∀ inDB, WentIn om h (h.moveItemToInventory om pl dest g inDB) pl g dest := by
  have hr := h.hasRoom_of_canStoreItem om pl hin g hg hok
  rw [hd] at hr
  obtain ⟨h1, h2⟩ := hr.shelf om h pl hin hg
  exact ⟨hr.wentIn om h pl hin hg _ h1, fun inDB => hr.wentIn om h pl hin hg _ (h2 inDB)⟩

/-- **A new object is spare**, whatever it is made of. -/
theorem inOrder_of_create (hin : h.InOrder om) (goods : Goods) (t : Holdings) (ht : t.shelf = h.shelf.create goods)
    (hkept : goods.gone = false) (hbag : ∀ j, goods.bagslot j = none) (hcont : goods.container = none)
    (hproto : ∃ proto, om.getItemPrototype goods.entry = some proto ∧ 0 < goods.count ∧
      goods.count ≤ proto.stackable ∧
      goods.numSlots = if proto.inventoryType = invtypeBag then proto.containerSlots else 0) :
    t.InOrder om ∧ t.shelf.Spare om h.nextGuid ∧ SparesStay om h t h.nextGuid := by
  have hself : t.shelf.goods h.nextGuid = goods := by
    rw [ht]; exact Shelf.create_goods_self ..
  have hother : ∀ i, i ≠ h.nextGuid → t.shelf.goods i = h.shelf.goods i := fun i hi => by
    rw [ht]; exact Shelf.create_goods_of_ne _ _ i hi
  have hslots : t.shelf.slots = h.shelf.slots := by rw [ht]; rfl
  have hnext : t.shelf.nextGuid = h.nextGuid + 1 := by rw [ht]; rfl
  obtain ⟨horder, hloose⟩ := Shelf.create_orderly hin.orderly goods hbag hcont
  rw [← ht] at horder hloose
  have hne : ∀ p q i, t.shelf.slots p q = some i → i ≠ h.nextGuid := by
    rintro p q i hs rfl
    exact hloose.slots p q hs
  refine ⟨⟨horder, fun p q i hq hs => ?_, fun p q i hs => ?_⟩, ⟨hloose, ⟨?_, ?_, ?_⟩, ?_⟩, ?_⟩
  · rw [hslots] at hs
    exact (hin.bagsWorn p q i hq hs).congr (congrArg Goods.entry (hother i (hne p q i (hslots ▸ hs))))
  · rw [hother i (hne p q i hs)]
    rw [hslots] at hs
    exact hin.alive p q i hs
  · rw [hself]; exact hkept
  · rw [hnext]; exact Nat.lt_succ_self _
  · rw [hself]; exact hproto
  · intro j; rw [hself]; exact hbag j
  · refine sparesStay_of om (by rw [← shelf_nextGuid t, hnext]; omega) fun y hy _ hl => ?_
    exact ⟨⟨fun p q => by rw [hslots]; exact hl.slots p q, by rw [hother y hy]; exact hl.container⟩,
      hother y hy⟩

/-- **A new item is spare.** -/
theorem createItem_spec (hin : h.InOrder om) (item count g : Nat) (t : Holdings)
    (hc : h.createItem om pl item count = some (g, t)) :
    g = h.nextGuid ∧ t.InOrder om ∧ t.shelf.Spare om g ∧ SparesStay om h t g := by
  unfold createItem at hc
  split at hc
  · cases hc
  next h0 =>
  cases hp : om.getItemPrototype item with
  | none => rw [hp] at hc; cases hc
  | some proto =>
    obtain ⟨h1, hcreate, -, hsh⟩ := h.shelf_createItem om pl item count proto hp (by omega)
    have hc' : h.createItem om pl item count = some (g, t) := by
      unfold createItem
      rw [if_neg h0]; exact hc
    rw [hcreate] at hc'
    obtain ⟨rfl, rfl⟩ := Prod.mk.inj (Option.some.inj hc')
    have hpos := proto.stackable_pos
    have hid := om.itemId_eq item proto hp
    refine ⟨rfl, h.inOrder_of_create om hin _ h1 hsh rfl (fun _ => rfl) rfl ⟨proto, ?_, ?_, ?_, rfl⟩⟩
    · simp only [freshGoods]; rw [hid]; exact hp
    · simp only [freshGoods]; omega
    · simp only [freshGoods]; omega

/-- **A clone of a stack is spare.** -/
theorem cloneItem_spec (hin : h.InOrder om) (g count x : Nat) (t : Holdings) (hst : h.shelf.Stacked om g)
    (h0 : 0 < count) (hle : count ≤ (h.items g).count) (hc : h.cloneItem om pl g count = some (x, t)) :
    x = h.nextGuid ∧ t.shelf = h.shelf.create (Shelf.cloneOf (h.shelf.goods g) pl count) ∧ t.InOrder om ∧
      t.shelf.Spare om x ∧ SparesStay om h t x := by
  obtain ⟨proto, hp, -, hmax, hnum⟩ := hst.proto
  have hmax : (h.items g).count ≤ proto.stackable := hmax
  obtain ⟨h1, hclone, hsh⟩ := h.shelf_cloneItem om pl g count hst h0 fun proto' hp' => by
    obtain rfl : proto = proto' := Option.some.inj (hp.symm.trans hp')
    omega
  rw [hclone] at hc
  obtain ⟨rfl, rfl⟩ := Prod.mk.inj (Option.some.inj hc)
  exact ⟨rfl, hsh, h.inOrder_of_create om hin _ h1 hsh rfl (fun _ => rfl) rfl
    ⟨proto, hp, h0, Nat.le_trans hle hmax, hnum⟩⟩

/-- **A spare object can go.** -/
theorem inOrder_of_discard (hin : h.InOrder om) (g : Nat) (hg : h.shelf.Spare om g) (t : Holdings)
    (ht : t.shelf = h.shelf.discard g) : t.InOrder om ∧ SparesStay om h t g := by
  obtain ⟨horder, -⟩ := Shelf.modify_loose_orderly hin.orderly g hg.loose (fun x => { x with gone := true })
    rfl hg.loose.container
  have hother : ∀ i, i ≠ g → t.shelf.goods i = h.shelf.goods i := fun i hi => by
    rw [ht]; exact Shelf.modify_goods_of_ne _ _ _ _ hi
  have hslots : t.shelf.slots = h.shelf.slots := by rw [ht]; rfl
  have hnext : t.shelf.nextGuid = h.shelf.nextGuid := by rw [ht]; rfl
  have hne : ∀ p q i, h.shelf.slots p q = some i → i ≠ g := by
    rintro p q i hs rfl
    exact hg.loose.slots p q hs
  refine ⟨⟨by rw [ht]; exact horder, fun p q i hq hs => ?_, fun p q i hs => ?_⟩, ?_⟩
  · rw [hslots] at hs
    exact (hin.bagsWorn p q i hq hs).congr (congrArg Goods.entry (hother i (hne p q i hs)))
  · rw [hslots] at hs
    rw [hother i (hne p q i hs)]
    exact hin.alive p q i hs
  · refine sparesStay_of om (le_of_eq hnext.symm) fun y hy _ hl => ?_
    exact ⟨⟨fun p q => by rw [hslots]; exact hl.slots p q, by rw [hother y hy]; exact hl.container⟩,
      hother y hy⟩

/-- **A spare item can be deleted.** -/
theorem deleteItem_spec (hin : h.InOrder om) (g : Nat) (hg : h.shelf.Spare om g) :
    (h.deleteItem g).InOrder om ∧ SparesStay om h (h.deleteItem g) g :=
  h.inOrder_of_discard om hin g hg _ (h.shelf_deleteItem g hg.empty)

/-- **A stack in its place becomes another size.** -/
theorem inOrder_of_setCount (hin : h.InOrder om) (bag slot g count : Nat)
    (hg : h.getItemByPos pl bag slot = some g) (h0 : 0 < count) (hle : count ≤ (h.items g).count) (t : Holdings)
    (ht : t.shelf = h.shelf.setCount g count) : t.InOrder om ∧ SparesStay om h t g := by
  obtain ⟨proto, hp, -, hmax, -⟩ := (hin.orderly.itemAt_back pl bag slot g hg).1.proto
  have hmax : (h.items g).count ≤ proto.stackable := hmax
  have horder := Shelf.setCount_orderly hin.orderly g count h0 fun proto' hp' => by
    obtain rfl : proto = proto' := Option.some.inj (hp.symm.trans hp')
    omega
  have hslots : t.shelf.slots = h.shelf.slots := by rw [ht]; rfl
  have hnext : t.shelf.nextGuid = h.shelf.nextGuid := by rw [ht]; rfl
  have hother : ∀ i, i ≠ g → t.shelf.goods i = h.shelf.goods i := fun i hi => by
    rw [ht]; exact Shelf.setCount_goods_of_ne _ _ _ _ hi
  refine ⟨⟨by rw [ht]; exact horder, fun p q i hq hs => ?_, fun p q i hs => ?_⟩, ?_⟩
  · rw [hslots] at hs
    refine (hin.bagsWorn p q i hq hs).congr ?_
    rw [ht]; exact (Shelf.setCount_keeps _ _ _ i).1
  · rw [hslots] at hs
    rw [ht, (Shelf.setCount_keeps _ _ _ i).2.1]
    exact hin.alive p q i hs
  · refine sparesStay_of om (le_of_eq hnext.symm) fun y hy _ hl => ?_
    exact ⟨⟨fun p q => by rw [hslots]; exact hl.slots p q, by rw [hother y hy]; exact hl.container⟩,
      hother y hy⟩

/-- What an item of a player is to a loop that moves items out: still at a place, with nothing
inside, or moved out already. -/
def MovesOut (om : ObjectMgr) (h : Holdings) (g : Nat) : Prop :=
  (∃ bag slot, h.getItemByPos pl bag slot = some g ∧ h.shelf.Empty g) ∨
    (h.shelf.Spare om g ∧ (h.items g).slot = nullSlot)

theorem getBagSlot_eq (hin : h.InOrder om) (bag slot g : Nat) (hg : h.getItemByPos pl bag slot = some g) :
    h.getBagSlot g = bag ∧ (h.items g).slot = slot := by
  obtain ⟨-, -, h2, h3⟩ := hin.orderly.itemAt_back pl bag slot g hg
  refine ⟨?_, h2⟩
  rw [← h3]
  unfold getBagSlot
  cases hc : (h.items g).container with
  | none => simp [Item.goods, hc]
  | some b => simp [Item.goods, hc]

/-- **Moving one item out** leaves the other items where they are or out. -/
theorem moveOut_spec (hin : h.InOrder om) (g : Nat) (hg : MovesOut pl om h g) (t : Holdings)
    (ht : t = h.moveItemFromInventory pl (h.getBagSlot g) (h.items g).slot) :
    t.InOrder om ∧ (t.shelf.Spare om g ∧ (t.items g).slot = nullSlot) ∧ SparesStay om h t g ∧
      ∀ y, MovesOut pl om h y → MovesOut pl om t y := by
  subst ht
  rcases hg with ⟨bag, slot, hat, he⟩ | ⟨hsp, hslot⟩
  · obtain ⟨hb, hsl⟩ := h.getBagSlot_eq om pl hin bag slot g hat
    rw [hb, hsl]
    have htk := h.moveItemFromInventory_spec om pl hin.orderly bag slot g hat he
    obtain ⟨hio, hst⟩ := inOrder_of_isTaken om pl htk hin
    refine ⟨hio, ⟨htk.spare, htk.unplaced⟩, hst, fun y hy => ?_⟩
    by_cases hyg : y = g
    · rw [hyg]; exact Or.inr ⟨htk.spare, htk.unplaced⟩
    · rcases hy with ⟨B, S, hyat, hye⟩ | ⟨hysp, hys⟩
      · left
        refine ⟨B, S, ?_, htk.empty y hye⟩
        have hne : ¬(pl = pl ∧ B = bag ∧ S = slot) := by
          rintro ⟨-, rfl, rfl⟩
          exact hyg (Option.some.inj (hyat.symm.trans hat))
        exact (htk.elsewhere pl B S hne).1.trans hyat
      · right
        obtain ⟨h1, h2⟩ := hst y hyg hysp
        exact ⟨h1, (congrArg Goods.slot h2).trans hys⟩
  · -- moved out already: its position is none
    have hc : (h.items g).container = none := hsp.loose.container
    have hnone : h.moveItemFromInventory pl (h.getBagSlot g) (h.items g).slot = h := by
      unfold moveItemFromInventory getBagSlot
      rw [hc, hslot]
      rfl
    rw [hnone]
    exact ⟨hin, ⟨hsp, hslot⟩, fun y _ hy => ⟨hy, rfl⟩, fun y hy => hy⟩

/-- **Moving a list of items out.** -/
theorem moveOutAll_spec (gs : List Nat) (hin : h.InOrder om) (hg : ∀ g ∈ gs, MovesOut pl om h g)
    (t : Holdings)
    (ht : t = gs.foldl (fun k g => k.moveItemFromInventory pl (k.getBagSlot g) (k.items g).slot) h) :
    t.InOrder om ∧ (∀ g ∈ gs, t.shelf.Spare om g) ∧ ∀ y, h.shelf.Spare om y → t.shelf.Spare om y := by
  induction gs generalizing h with
  | nil => subst ht; exact ⟨hin, by simp, fun _ hy => hy⟩
  | cons g gs ih =>
    obtain ⟨h1, h2, h3, h4⟩ := h.moveOut_spec om pl hin g (hg g (List.mem_cons_self ..)) _ rfl
    obtain ⟨hio, hall, hsp⟩ := ih _ h1 (fun y hy => h4 y (hg y (List.mem_cons_of_mem _ hy))) ht
    refine ⟨hio, fun y hy => ?_, fun y hy => hsp y ?_⟩
    · rcases List.mem_cons.1 hy with rfl | hy
      · exact hsp y h2.1
      · exact hall y hy
    · by_cases hyg : y = g
      · rw [hyg]; exact h2.1
      · exact (h3 y hyg hy).1

/-- **Deleting a list of spare items** leaves the other spare items alone. -/
theorem deleteItems_spec (gs : List Nat) (hin : h.InOrder om) (hnd : gs.Nodup)
    (hg : ∀ g ∈ gs, h.shelf.Spare om g) :
    (gs.foldl deleteItem h).InOrder om ∧
      (∀ y, y ∉ gs → h.shelf.Spare om y → (gs.foldl deleteItem h).shelf.Spare om y) ∧
      ∀ y, h.shelf.Loose y → (gs.foldl deleteItem h).shelf.Loose y := by
  induction gs generalizing h with
  | nil => exact ⟨hin, fun _ _ hy => hy, fun _ hy => hy⟩
  | cons g gs ih =>
    rw [List.nodup_cons] at hnd
    have hgs := hg g (List.mem_cons_self ..)
    obtain ⟨h1, h2⟩ := h.deleteItem_spec om hin g hgs
    obtain ⟨h3, h4, h5⟩ := ih (h.deleteItem g) h1 hnd.2 fun y hy =>
      (h2 y (fun he => hnd.1 (he ▸ hy)) (hg y (List.mem_cons_of_mem _ hy))).1
    refine ⟨h3, fun y hy hsp => ?_, fun y hl => h5 y ?_⟩
    · rw [List.mem_cons, not_or] at hy
      exact h4 y hy.2 (h2 y hy.1 hsp).1
    · have hsh := h.shelf_deleteItem g hgs.empty
      rw [hsh]
      refine ⟨hl.slots, ?_⟩
      by_cases hyg : y = g
      · rw [hyg]; exact (Shelf.modify_goods_self h.shelf g _ ▸ hgs.loose.container)
      · exact (Shelf.modify_goods_of_ne h.shelf g y _ hyg ▸ hl.container)

/-! ### One item outside of every inventory -/

/-- Item 7, a stack of five that nobody carries. -/
def sampleLoose : Holdings where
  nextGuid := 8
  items g := if g = 7 then { live := true, entry := 3, count := 5, owner := 2 } else {}

theorem sampleLoose_inOrder : sampleLoose.InOrder sampleMgr := by
  refine ⟨Shelf.orderly_of_empty _ (fun i j => ?_) (fun i => ?_) fun p q i hs => ?_, fun p q i _ hs => ?_,
    fun p q i hs => ?_⟩
  · simp only [shelf, sampleLoose, Item.goods]; split <;> rfl
  · simp only [shelf, sampleLoose, Item.goods]; split <;> rfl
  · simp [shelf, sampleLoose] at hs
  · simp [shelf, sampleLoose] at hs
  · simp [shelf, sampleLoose] at hs

theorem sampleLoose_spare : sampleLoose.shelf.Spare sampleMgr 7 :=
  ⟨⟨fun _ _ => by simp [sampleLoose], rfl⟩, ⟨rfl, by decide, _, rfl, by decide, by decide, by decide⟩,
    fun _ => rfl⟩

end Holdings

end BlizzLike
