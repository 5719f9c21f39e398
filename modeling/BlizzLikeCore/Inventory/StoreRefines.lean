import BlizzLikeCore.Inventory.ShelfStore
import BlizzLikeCore.Inventory.Store

/-!
# Storing keeps the inventory in order

`Holdings.shelf` forgets what a shelf does not show.  Each function of `Store` is a move of
the shelf (`shelf_putAt`, `shelf_storeItemAt`, `shelf_storeItem`), so `StoreItem` after a
successful `CanStoreItem` does what `Shelf.store` does:

    storeItem_of_canStoreItem : all units arrive, in the slots of dest, and nothing else changes
-/

namespace BlizzLike

def Item.goods (it : Item) : Goods :=
  { entry := it.entry, count := it.count, owner := it.owner, slot := it.slot, container := it.container
    gone := !it.live || it.uState == .removed, numSlots := it.numSlots, bagslot := it.bagslot }

@[simp] theorem Item.goods_entry (it : Item) : it.goods.entry = it.entry := rfl

namespace Holdings

/-- The shelf an inventory is. -/
def shelf (h : Holdings) : Shelf :=
  { goods := fun i => (h.items i).goods, slots := h.slots, nextGuid := h.nextGuid }

variable (om : ObjectMgr) (h : Holdings) (pl : Nat)

@[simp] theorem shelf_goods (i : Nat) : h.shelf.goods i = (h.items i).goods := rfl

@[simp] theorem shelf_slots : h.shelf.slots = h.slots := rfl

@[simp] theorem shelf_nextGuid : h.shelf.nextGuid = h.nextGuid := rfl

theorem ownItem_shelf (slot : Nat) : h.ownItem pl slot = h.shelf.own pl slot := rfl

theorem getItemByPos_shelf (bag slot : Nat) : h.getItemByPos pl bag slot = h.shelf.itemAt pl bag slot := rfl

/-! ## Lemmas -/

theorem shelf_modify (g : Nat) (f : Item → Item) (f' : Goods → Goods)
    (hf : (f (h.items g)).goods = f' (h.items g).goods) : (h.modify g f).shelf = h.shelf.modify g f' := by
  unfold shelf modify Shelf.modify
  congr 1
  funext i
  by_cases hi : i = g
  · subst hi; simp [hf]
  · simp [hi]

theorem shelf_modify_same (g : Nat) (f : Item → Item) (hf : (f (h.items g)).goods = (h.items g).goods) :
    (h.modify g f).shelf = h.shelf := by
  rw [h.shelf_modify g f id hf]
  unfold Shelf.modify
  rw [id_eq, Function.update_eq_self]

@[simp] theorem shelf_setSlot (slot : Nat) (v : Option Nat) :
    (h.setSlot pl slot v).shelf = h.shelf.setSlot pl slot v := rfl

/-! ### The update queue -/

@[simp] theorem shelf_addToUpdateQueueOf (g : Nat) : (h.addToUpdateQueueOf pl g).shelf = h.shelf := by
  unfold addToUpdateQueueOf
  split
  · rfl
  split
  · rfl
  split
  · rfl
  · exact h.shelf_modify_same g (fun it => { it with uQueuePos := toInt16 (h.itemUpdateQueue pl).length })
      rfl

@[simp] theorem shelf_removeFromUpdateQueueOf (g : Nat) :
    (h.removeFromUpdateQueueOf pl g).shelf = h.shelf := by
  unfold removeFromUpdateQueueOf
  split
  · rfl
  split
  · rfl
  split
  · rfl
  · exact h.shelf_modify_same g (fun it => { it with uQueuePos := -1 }) rfl

theorem goods_gone_eq_false (it : Item) :
    it.goods.gone = false ↔ it.live = true ∧ it.uState ≠ .removed := by
  simp [Item.goods]

theorem shelf_setState_changed (g : Nat) (hg : (h.items g).goods.gone = false) :
    (h.setState pl g .changed).shelf = h.shelf := by
  unfold setState
  rw [if_neg (by simp), if_pos (by simp), shelf_addToUpdateQueueOf]
  refine h.shelf_modify_same g _ ?_
  obtain ⟨hl, hr⟩ := (goods_gone_eq_false _).1 hg
  split
  · simp [Item.goods, hl, hr]
  · rfl

/-- Deleting an object without contents takes it off the shelf, and nothing else. -/
theorem shelf_deleteItem (g : Nat) (he : h.shelf.Empty g) : (h.deleteItem g).shelf = h.shelf.discard g := by
  have hempty : ∀ j, (h.items g).bagslot j = none := he
  unfold deleteItem Shelf.discard Shelf.modify shelf
  congr 1
  funext i
  by_cases hi : i = g
  · subst hi; simp [Item.goods]
  · simp [hi, hempty]

/-- An object without contents that is marked removed is gone, and nothing else. -/
theorem shelf_setState_removed (g : Nat) (he : h.shelf.Empty g) :
    (h.setState pl g .removed).shelf = h.shelf.discard g := by
  unfold setState
  split
  · next hnew =>
    have hsh := shelf_removeFromUpdateQueueOf h pl g
    rw [shelf_deleteItem _ g (by rw [hsh]; exact he), hsh]
  · next hnew =>
    rw [if_pos (by simp), shelf_addToUpdateQueueOf]
    refine h.shelf_modify g _ (fun x => { x with gone := true }) ?_
    rw [if_pos fun hn => hnew ⟨hn, rfl⟩]
    simp [Item.goods]

/-! ### Cloning -/

theorem shelf_setEnchantment (g slot id : Nat) (hg : (h.items g).goods.gone = false) :
    (h.setEnchantment g slot id).shelf = h.shelf := by
  unfold setEnchantment
  split
  · rfl
  · rw [shelf_setState_changed]
    · exact h.shelf_modify_same g _ rfl
    · simpa [modify, Item.goods] using hg

theorem gone_of_shelf_eq (k : Holdings) (hk : k.shelf = h.shelf) (g : Nat)
    (hg : (h.items g).goods.gone = false) : (k.items g).goods.gone = false :=
  (congrArg (fun s => (s.goods g).gone) hk).trans hg

theorem shelf_setEnchantments (g s1 s2 s3 i1 i2 i3 : Nat) (hg : (h.items g).goods.gone = false) :
    (((h.setEnchantment g s1 i1).setEnchantment g s2 i2).setEnchantment g s3 i3).shelf = h.shelf := by
  have h1 := h.shelf_setEnchantment g s1 i1 hg
  have g1 := gone_of_shelf_eq h _ h1 g hg
  have h2 := (h.setEnchantment g s1 i1).shelf_setEnchantment g s2 i2 g1
  have g2 := gone_of_shelf_eq h _ (h2.trans h1) g hg
  exact (shelf_setEnchantment _ g s3 i3 g2).trans (h2.trans h1)

theorem shelf_setItemRandomProperties (g : Nat) (randomPropId : Int)
    (hg : (h.items g).goods.gone = false) :
    (h.setItemRandomProperties om g randomPropId).shelf = h.shelf := by
  have hmark : ∀ f : Item → Item, (f (h.items g)).goods = (h.items g).goods →
      ((h.modify g f).setState (h.items g).owner g .changed).shelf = h.shelf := by
    intro f hf
    rw [shelf_setState_changed]
    · exact h.shelf_modify_same g f hf
    · simpa [modify, hf] using hg
  unfold setItemRandomProperties
  split
  · rfl
  split
  · split
    · rfl
    · next enchantId _ =>
      have h1 : (if (h.items g).randomPropertyId ≠ randomPropId then
          (h.modify g fun it => { it with randomPropertyId := randomPropId }).setState (h.items g).owner g
            .changed else h).shelf = h.shelf := by
        split
        · exact hmark _ rfl
        · rfl
      exact (shelf_setEnchantments _ g 8 9 10 _ _ _ (gone_of_shelf_eq h _ h1 g hg)).trans h1
  · split
    · rfl
    · next enchantId _ =>
      have h1 : (if (h.items g).randomPropertyId ≠ randomPropId ∨ (h.items g).suffixFactor = 0 then
          (h.modify g fun it =>
            { it with randomPropertyId := randomPropId
                      suffixFactor := om.enchSuffixFactor it.entry }).setState (h.items g).owner g .changed
          else h).shelf = h.shelf := by
        split
        · exact hmark _ rfl
        · rfl
      exact (shelf_setEnchantments _ g 6 7 8 _ _ _ (gone_of_shelf_eq h _ h1 g hg)).trans h1

/-- The goods of a new object. -/
def freshGoods (proto : ItemPrototype) (count : Nat) : Goods :=
  { entry := proto.itemId, count := count, owner := pl, slot := 0, container := none, gone := false
    numSlots := if proto.inventoryType = invtypeBag then proto.containerSlots else 0
    bagslot := fun _ => none }

theorem shelf_createItem (item count : Nat) (proto : ItemPrototype) (hp : om.getItemPrototype item = some proto)
    (h0 : 0 < count) :
    ∃ h1, h.createItem om pl item count = some (h.nextGuid, h1) ∧
      h1.items h.nextGuid = freshItem pl proto (min count proto.stackable) ∧
      h1.shelf = h.shelf.create (freshGoods pl proto (min count proto.stackable)) := by
  have hmin : (if count > proto.stackable then proto.stackable else count) = min count proto.stackable := by
    split <;> omega
  unfold createItem
  rw [if_neg (by omega), hp]
  simp only [hmin]
  refine ⟨_, rfl, by simp, ?_⟩
  unfold shelf Shelf.create
  congr 1
  funext i
  by_cases hi : i = h.nextGuid
  · subst hi; simp [freshItem, freshGoods, Item.goods]
  · simp [hi]

theorem shelf_cloneItem (g count : Nat) (hst : h.shelf.Stacked om g) (h0 : 0 < count)
    (hle : ∀ proto, om.getItemPrototype (h.items g).entry = some proto → count ≤ proto.stackable) :
    ∃ h1, h.cloneItem om pl g count = some (h.nextGuid, h1) ∧
      h1.shelf = h.shelf.create (Shelf.cloneOf (h.shelf.goods g) pl count) := by
  obtain ⟨proto, hp, -, -, hm⟩ := hst.proto
  have hp' : om.getItemPrototype (h.items g).entry = some proto := hp
  have hid : proto.itemId = (h.items g).entry := om.itemId_eq _ proto hp'
  obtain ⟨h1, hcreate, hnew, hsh⟩ := h.shelf_createItem om pl (h.items g).entry count proto hp' h0
  rw [Nat.min_eq_left (hle proto hp')] at hnew hsh
  have hclone : freshGoods pl proto count = Shelf.cloneOf (h.shelf.goods g) pl count := by
    unfold freshGoods Shelf.cloneOf
    rw [hm, hid]
    rfl
  unfold cloneItem
  rw [hcreate]
  refine ⟨_, rfl, ?_⟩
  rw [shelf_setItemRandomProperties, shelf_modify_same _ _ _ rfl, hsh, hclone]
  simp [modify, Item.goods, hnew, freshItem]

/-! ### Putting an item into an empty slot -/

@[simp] theorem shelf_bindAtStore (bag slot g : Nat) : (h.bindAtStore om bag slot g).shelf = h.shelf := by
  unfold bindAtStore
  split
  · rfl
  split
  · exact h.shelf_modify_same g _ rfl
  · rfl

theorem gone_put (s : Shelf) (bag slot x i : Nat) (hne : ∀ b, s.own pl bag = some b → x ≠ b) :
    ((s.put pl bag slot x).goods i).gone = (s.goods i).gone := by
  unfold Shelf.put
  split
  · by_cases hi : i = x
    · rw [hi, Shelf.putOwn_goods_self]
    · rw [Shelf.putOwn_goods_of_ne _ _ _ _ _ hi]
  · split
    · rfl
    · next b hb =>
      by_cases hi : i = x
      · rw [hi, Shelf.putIn_goods_self _ _ _ _ (hne b hb)]
      · by_cases hib : i = b
        · rw [hib, Shelf.putIn_goods_bag _ _ _ _ (hne b hb)]
        · rw [Shelf.putIn_goods_of_ne _ _ _ _ _ hi hib]

/-- **Putting is putting on the shelf.** -/
theorem shelf_putAt (bag slot x : Nat) (hlt : slot ≤ maxBagSize ∨ bag = inventorySlotBag0)
    (hx : (h.items x).goods.gone = false)
    (hb : ∀ b, h.shelf.own pl bag = some b → x ≠ b ∧ (h.items b).goods.gone = false) :
    (h.putAt pl bag slot x).shelf = h.shelf.put pl bag slot x := by
  have hgone := fun i => gone_put pl h.shelf bag slot x i fun b hb' => (hb b hb').1
  unfold putAt
  unfold Shelf.put at hgone ⊢
  split
  · next hbag =>
    simp only [if_pos hbag] at hgone
    have hsh : ((h.setSlot pl slot (some x)).modify x fun it =>
        { it with contained := .player pl, owner := pl, slot := slot, container := none }).shelf =
        h.shelf.putOwn pl slot x :=
      shelf_modify (h.setSlot pl slot (some x)) x _
        (fun g => { g with owner := pl, slot := slot, container := none }) rfl
    rw [shelf_setState_changed, hsh]
    have := hgone x
    rw [← hsh] at this
    exact this.trans hx
  · next hbag =>
    rw [ownItem_shelf]
    simp only [if_neg hbag] at hgone
    cases hob : h.shelf.own pl bag with
    | none => rfl
    | some b =>
      obtain ⟨hne, hbl⟩ := hb b hob
      simp only [hob] at hgone
      have hsh : (h.bagStoreItem b slot x).shelf = h.shelf.putIn b slot x := by
        unfold bagStoreItem
        rw [if_neg (by rcases hlt with hlt | hlt <;> [omega; exact absurd hlt hbag]), if_neg hne]
        rw [shelf_modify _ _ _ (fun g =>
          { g with owner := (h.shelf.goods b).owner, slot := slot, container := some b }) rfl]
        rw [h.shelf_modify b _ (fun g => { g with bagslot := Function.update g.bagslot slot (some x) }) rfl]
        rfl
      have h1 : ((h.bagStoreItem b slot x).setState pl x .changed).shelf = h.shelf.putIn b slot x := by
        rw [shelf_setState_changed, hsh]
        have := hgone x
        rw [← hsh] at this
        exact this.trans hx
      have hbg := hgone b
      rw [← h1] at hbg
      exact (shelf_setState_changed _ pl b (hbg.trans hbl)).trans h1

/-! ### `_StoreItem` and `StoreItem` -/

/-- The bag a put goes into is in existence, and it is not the object put there. -/
theorem bag_of_put (s : Shelf) (ho : s.Orderly om) (bag x : Nat) (hl : s.Loose x) (b : Nat)
    (hb : s.own pl bag = some b) : x ≠ b ∧ (s.goods b).gone = false := by
  obtain ⟨hown, hs⟩ := Shelf.own_eq_some s pl bag b hb
  refine ⟨?_, (ho.own pl bag b hown hs).1.stacked.kept⟩
  rintro rfl
  exact hl.slots pl bag hs

theorem slot_le_of_slotExists (s : Shelf) (ho : s.Orderly om) (bag slot : Nat)
    (hex : s.SlotExists pl bag slot) : slot ≤ maxBagSize ∨ bag = inventorySlotBag0 := by
  rcases hex.pos ho with ⟨rfl, -⟩ | ⟨-, hlt⟩
  · exact Or.inr rfl
  · exact Or.inl hlt.le

variable (pos g count : Nat) (proto : ItemPrototype)

/-- **`_StoreItem` stores on the shelf.** -/
theorem shelf_storeItemAt (clone : Bool) (ho : h.shelf.Orderly om) (hl : h.shelf.Loose g)
    (hst : h.shelf.Stacked om g) (he : h.shelf.Empty g)
    (hex : h.shelf.SlotExists pl (pos / 256) (pos % 256)) (h0 : 0 < count)
    (hp : om.getItemPrototype (h.items g).entry = some proto)
    (hroom : count ≤ h.shelf.room proto pl (pos / 256) (pos % 256)) :
    (h.storeItemAt om pl pos g count clone).2.shelf =
      h.shelf.storeAt pl (pos / 256) (pos % 256) g count clone := by
  have hslot := slot_le_of_slotExists om pl h.shelf ho _ _ hex
  unfold storeItemAt
  simp only
  rw [getItemByPos_shelf]
  cases hk : h.shelf.itemAt pl (pos / 256) (pos % 256) with
  | none =>
    rw [Shelf.room_none _ proto _ _ _ hk] at hroom
    cases clone with
    | true =>
      rw [Shelf.storeAt_clone_empty _ _ _ _ _ hk]
      obtain ⟨h1, hc, hsh⟩ := h.shelf_cloneItem om pl g count hst h0 fun q hq => by
        cases hq.symm.trans hp
        exact hroom
      obtain ⟨horder, hnl⟩ := Shelf.create_orderly ho (Shelf.cloneOf (h.shelf.goods g) pl count)
        (fun _ => rfl) rfl
      simp only [if_true, hc]
      rw [← hsh] at horder hnl ⊢
      rw [← shelf_bindAtStore om h1 (pos / 256) (pos % 256) h.nextGuid] at horder hnl ⊢
      refine shelf_putAt _ pl _ _ _ hslot ?_ fun b hb => bag_of_put om pl _ horder _ _ hnl b hb
      rw [← shelf_goods, shelf_bindAtStore, hsh]
      exact congrArg Goods.gone (Shelf.create_goods_self h.shelf _)
    | false =>
      rw [Shelf.storeAt_last_empty _ _ _ _ _ hk]
      have hsh : (h.modify g fun it => { it with count := count }).shelf = h.shelf.setCount g count :=
        h.shelf_modify g _ (fun x => { x with count := count }) rfl
      obtain ⟨horder, hgl⟩ := Shelf.modify_loose_orderly ho g hl (fun x => { x with count := count }) rfl
        hl.container
      simp only [Bool.false_eq_true, if_false]
      have hsb := (shelf_bindAtStore om (h.modify g fun it => { it with count := count }) (pos / 256)
        (pos % 256) g).trans hsh
      rw [← hsb]
      refine shelf_putAt _ pl _ _ _ hslot ?_ fun b hb => bag_of_put om pl _ (hsb ▸ horder) _ _ (hsb ▸ hgl) b hb
      rw [← shelf_goods, hsb, Shelf.setCount_goods_self]
      exact hst.kept
  | some k =>
    rw [Shelf.room_some _ proto _ _ _ k hk] at hroom
    have hlt : (h.items k).count + count ≤ 255 := by
      have := proto.stackable_le
      have hk' : (h.shelf.goods k).count = (h.items k).count := rfl
      split at hroom <;> omega
    have hkg : k ≠ g := ho.itemAt_ne_loose g hl _ _ _ k hk
    have hkst := (ho.itemAt_back pl _ _ k hk).1
    have hsh : ((h.bindAtStore om (pos / 256) (pos % 256) k).modify k fun it =>
        { it with count := u32 (it.count + count) }).shelf =
        h.shelf.setCount k ((h.shelf.goods k).count + count) := by
      have hb : ((h.bindAtStore om (pos / 256) (pos % 256) k).items k).goods = (h.items k).goods :=
        congrArg (fun s => s.goods k) (shelf_bindAtStore om h (pos / 256) (pos % 256) k)
      have hbc : ((h.bindAtStore om (pos / 256) (pos % 256) k).items k).count = (h.items k).count :=
        congrArg Goods.count hb
      rw [shelf_modify _ k _ (fun x => { x with count := (h.items k).count + count }), shelf_bindAtStore]
      · rfl
      · rw [hbc, u32_eq _ (by omega)]; rfl
    cases clone with
    | true =>
      rw [Shelf.storeAt_clone_stack _ _ _ _ _ k hk]
      simp only [if_true]
      rw [shelf_setState_changed _ pl k, hsh]
      rw [← shelf_goods, hsh, (Shelf.setCount_keeps ..).2.1]
      exact hkst.kept
    | false =>
      rw [Shelf.storeAt_last_stack _ _ _ _ _ k hk]
      simp only [Bool.false_eq_true, if_false]
      have hgc := Shelf.setCount_goods_of_ne h.shelf k ((h.shelf.goods k).count + count) g hkg.symm
      have hrem : ((((h.bindAtStore om (pos / 256) (pos % 256) k).modify k fun it =>
          { it with count := u32 (it.count + count) }).modify g fun it => { it with owner := pl }).setState
            pl g .removed).shelf = (h.shelf.setCount k ((h.shelf.goods k).count + count)).merged pl g := by
        have hown := shelf_modify ((h.bindAtStore om (pos / 256) (pos % 256) k).modify k fun it =>
          { it with count := u32 (it.count + count) }) g (fun it => { it with owner := pl })
          (fun x => { x with owner := pl }) rfl
        rw [shelf_setState_removed, hown, hsh]
        · unfold Shelf.discard Shelf.merged Shelf.modify
          simp
        · intro j
          rw [hown, hsh, Shelf.modify_goods_self, hgc]
          exact he j
      rw [shelf_setState_changed _ pl k, hrem]
      rw [← shelf_goods, hrem]
      unfold Shelf.merged
      rw [Shelf.modify_goods_of_ne _ _ _ _ hkg, (Shelf.setCount_keeps ..).2.1]
      exact hkst.kept

/-- **`StoreItem` stores over the list on the shelf.** -/
theorem shelf_storeItem (dest : List ItemPosCount) (r : Option Nat × Holdings)
    (ho : r.2.shelf.Orderly om) (hl : r.2.shelf.Loose g) (hst : r.2.shelf.Stacked om g)
    (he : r.2.shelf.Empty g) (hp : om.getItemPrototype (r.2.items g).entry = some proto)
    (hf : r.2.shelf.Fits proto pl dest) :
    (storeItem om pl g dest r).2.shelf = Shelf.store pl g dest r.2.shelf := by
  induction dest generalizing r with
  | nil => rfl
  | cons d ds ih =>
    obtain ⟨hex, h0, hr⟩ := hf.entry d (List.mem_cons_self ..)
    have hstep := fun clone =>
      shelf_storeItemAt om r.2 pl d.pos g d.count proto clone ho hl hst he hex h0 hp hr
    cases ds with
    | nil => exact hstep false
    | cons d' ds =>
      obtain ⟨h, hloose, -⟩ := @Shelf.storeAt_spec om _ pl (d.pos / 256) (d.pos % 256) g d.count proto
        ho true hl hst he hex h0 hp hr
      have hg := hloose rfl
      have hge := hg.goods
      have hs := hstep true
      rw [storeItem, Shelf.store, ← hs]
      rw [← hs] at h hg hge
      exact ih (r.2.storeItemAt om pl d.pos g d.count true) h.orderly hg.loose hg.stacked
        (fun j => by rw [hge]; exact he j) (by rw [← hp]; exact congrArg om.getItemPrototype (congrArg Goods.entry hge))
        (h.fits_tail pl g proto hf ho)

/-! ## Top theorems -/

theorem bagsSized_of_bagsWorn (ho : h.shelf.Orderly om) (hb : h.shelf.BagsWorn om) : h.BagsSized om pl := by
  intro bag b q hbag hown hq
  obtain ⟨ho', hs⟩ := Shelf.own_eq_some h.shelf pl bag b hown
  obtain ⟨proto, hp, -, -, hm⟩ := (ho.own pl bag b ho' hs).1.stacked.proto
  obtain ⟨proto', hp', hinv⟩ := hb pl bag b hbag hs
  cases hp'.symm.trans hp
  cases hq.symm.trans hp
  rw [if_pos hinv] at hm
  exact hm

/-- For an object that is nowhere, the room the search counts is the room on the shelf. -/
theorem roomAt_loose (ho : h.shelf.Orderly om) (hl : h.shelf.Loose g) :
    h.roomAt pl proto (some g) none pos = h.shelf.room proto pl (pos / 256) (pos % 256) := by
  unfold roomAt itemOtherThan Shelf.room
  rw [if_neg (by simp), getItemByPos_shelf]
  cases hk : h.shelf.itemAt pl (pos / 256) (pos % 256) with
  | none => simp
  | some k =>
    have hne : k ≠ g := ho.itemAt_ne_loose g hl _ _ _ k hk
    rw [if_neg (by simp [hne])]
    rfl

/-- A successful search for a loose object finds destinations with room on the shelf. -/
theorem fits_of_canStoreItem (ho : h.shelf.Orderly om) (hb : h.shelf.BagsWorn om) (hl : h.shelf.Loose g)
    (bag slot : Nat) (hbag : IsRequestBag bag) (hslot : slot < 256) (hpos : 0 < count) (hlt : count ≤ 255)
    (hok : (h.canStoreItem om pl bag slot (h.items g).entry count (some g) false).res = .ok) :
    ∃ proto, om.getItemPrototype (h.items g).entry = some proto ∧
      h.shelf.Fits proto pl
        (h.canStoreItem om pl bag slot (h.items g).entry count (some g) false).dest ∧
      Shelf.destCount (h.canStoreItem om pl bag slot (h.items g).entry count (some g) false).dest =
        count ∧
      ∀ d ∈ (h.canStoreItem om pl bag slot (h.items g).entry count (some g) false).dest,
        h.placePos pl (requestPos bag slot) d.pos := by
  obtain ⟨proto, hp, hf, hsum⟩ := h.canStoreItem_fits_of_ok om pl (h.bagsSized_of_bagsWorn om pl ho hb) bag
    slot (h.items g).entry count (some g) false hbag hslot hpos (by omega) hok
  refine ⟨proto, hp, ⟨hf.nodup, fun d hd => ?_⟩, hsum, fun d hd => (hf.entry d hd).1⟩
  obtain ⟨h1, h2, h3⟩ := hf.entry d hd
  refine ⟨h1.1, h2, ?_⟩
  rw [show emptiedBySwap bag slot false = none from rfl, roomAt_loose om h pl d.pos g proto ho hl] at h3
  exact h3

/-- All units of `g` are at the destinations, and the rest of the inventory is as it was. -/
structure StoresAll (om : ObjectMgr) (h t : Holdings) (pl g : Nat) (dest : List ItemPosCount) : Prop where
  total : t.shelf.total pl (h.items g).entry = h.shelf.total pl (h.items g).entry + (h.items g).count
  totalOther : ∀ p entry, ¬(p = pl ∧ entry = (h.items g).entry) →
    t.shelf.total p entry = h.shelf.total p entry
  stackable : ∀ p bag slot i, t.getItemByPos p bag slot = some i →
    ∃ proto, om.getItemPrototype (t.items i).entry = some proto ∧ (t.items i).count ≤ proto.stackable
  atDest : ∀ d ∈ dest, ∃ k, t.getItemByPos pl (d.pos / 256) (d.pos % 256) = some k ∧
    (t.items k).entry = (h.items g).entry
  onlyDest : ∀ p bag slot, t.getItemByPos p bag slot = some g →
    ∃ d ∈ dest, p = pl ∧ bag = d.pos / 256 ∧ slot = d.pos % 256
  untouched : ∀ p bag slot, (∀ d ∈ dest, ¬(p = pl ∧ bag = d.pos / 256 ∧ slot = d.pos % 256)) →
    t.getItemByPos p bag slot = h.getItemByPos p bag slot ∧
      ∀ i, h.getItemByPos p bag slot = some i →
        (t.items i).entry = (h.items i).entry ∧ (t.items i).count = (h.items i).count
  notDestroyed : ∀ p bag slot i, (t.getItemByPos p bag slot = some i ∨ t.slots p slot = some i) →
    (t.items i).live = true ∧ (t.items i).uState ≠ .removed
  orderly : t.shelf.Orderly om

/-- **`StoreItem` stores what `CanStoreItem` found room for**: for an object in existence that
is nowhere and has nothing inside, in an inventory in order. -/
theorem storeItem_of_canStoreItem (ho : h.shelf.Orderly om) (hb : h.shelf.BagsWorn om) (ha : h.shelf.Alive)
    (hl : h.shelf.Loose g) (hst : h.shelf.Stacked om g) (he : h.shelf.Empty g) (bag slot : Nat)
    (hbag : IsRequestBag bag) (hslot : slot < 256)
    (hok : (h.canStoreItem om pl bag slot (h.items g).entry (h.items g).count (some g) false).res = .ok) :
    StoresAll om h
      (storeItem om pl g
        (h.canStoreItem om pl bag slot (h.items g).entry (h.items g).count (some g) false).dest
        (some g, h)).2 pl g
      (h.canStoreItem om pl bag slot (h.items g).entry (h.items g).count (some g) false).dest := by
  obtain ⟨proto', hp', hpos, hle, -⟩ := hst.proto
  have hpos' : 0 < (h.items g).count := hpos
  have hle' : (h.items g).count ≤ 255 := hle.trans proto'.stackable_le
  obtain ⟨proto, hp, hf, hsum, -⟩ := h.fits_of_canStoreItem om pl g (h.items g).count ho hb hl bag slot hbag
    hslot hpos' hle' hok
  generalize hdest : (h.canStoreItem om pl bag slot (h.items g).entry (h.items g).count (some g)
    false).dest = dest at hf hsum
  have hne : dest ≠ [] := by
    rintro rfl
    simp [Shelf.destCount] at hsum
    omega
  have hsh := shelf_storeItem om pl g proto dest (some g, h) ho hl hst he hp hf
  have hstored := @Shelf.store_spec om pl g proto dest hne h.shelf ho hl hst he hp hf
  rw [← hsh] at hstored
  generalize (storeItem om pl g dest (some g, h)).2 = t at hstored
  have hgone : ∀ i, (t.items i).goods.gone = false → (t.items i).live = true ∧ (t.items i).uState ≠ .removed :=
    fun i => (goods_gone_eq_false _).1
  refine ⟨?_, fun p entry hn => ?_, ?_, hstored.there, ?_, ?_, ?_, hstored.orderly⟩
  · rw [hstored.total pl (h.items g).entry, if_pos ⟨rfl, rfl⟩, hsum]
  · have htotal := hstored.total p entry
    rw [shelf_goods, Item.goods_entry] at htotal
    rw [htotal, if_neg hn, Nat.add_zero]
  · intro p bag slot i hi
    obtain ⟨q, hq, -, hc, -⟩ := (hstored.orderly.itemAt_back p bag slot i hi).1.proto
    exact ⟨q, hq, hc⟩
  · intro p bag slot hi
    by_contra hno
    have hsame := hstored.elsewhere p bag slot fun d hd hpl => hno ⟨d, hd, hpl⟩
    exact ho.itemAt_ne_loose g hl p bag slot g (hsame.1.symm.trans hi) rfl
  · intro p bag slot hn
    have hsame := hstored.elsewhere p bag slot hn
    exact ⟨hsame.1, fun i hi => ⟨(hsame.2 i hi).1, (hsame.2 i hi).2.1⟩⟩
  · intro p bag slot i hi
    refine hgone i ?_
    rcases hi with hi | hi
    · exact (hstored.orderly.itemAt_back p bag slot i hi).1.kept
    · exact hstored.alive ha p slot i hi

theorem sampleHoldings_orderly : sampleHoldings.shelf.Orderly sampleMgr ∧
    sampleHoldings.shelf.BagsWorn sampleMgr ∧ sampleHoldings.shelf.Alive := by
  have hslots : ∀ p q i, sampleHoldings.shelf.slots p q = some i →
      p = 1 ∧ ((q = 10 ∧ i = 4) ∨ (q = 23 ∧ i = 5) ∨ (q = 24 ∧ i = 6) ∨ (q = 25 ∧ i = 8)) := by
    intro p q i hs
    simp only [shelf, sampleHoldings] at hs
    split at hs
    · next hp =>
      refine ⟨hp, ?_⟩
      split at hs <;> cases hs <;> simp
    · cases hs
  refine ⟨Shelf.orderly_of_empty _ ?_ ?_ ?_, ?_, ?_⟩
  · intro i j
    simp only [shelf, sampleHoldings, Item.goods]
    split <;> rfl
  · intro i
    simp only [shelf, sampleHoldings, Item.goods]
    split <;> rfl
  · intro p q i hs
    obtain ⟨rfl, ⟨rfl, rfl⟩ | ⟨rfl, rfl⟩ | ⟨rfl, rfl⟩ | ⟨rfl, rfl⟩⟩ := hslots p q i hs
    all_goals exact ⟨by decide, ⟨rfl, by decide, _, rfl, by decide, by decide, by decide⟩, rfl, rfl⟩
  · intro p q i hbag hs
    obtain ⟨-, ⟨rfl, -⟩ | ⟨rfl, -⟩ | ⟨rfl, -⟩ | ⟨rfl, -⟩⟩ := hslots p q i hs <;>
      exact absurd hbag (by decide)
  · intro p q i hs
    obtain ⟨-, ⟨-, rfl⟩ | ⟨-, rfl⟩ | ⟨-, rfl⟩ | ⟨-, rfl⟩⟩ := hslots p q i hs <;> rfl

theorem storeItem_of_canStoreItem_sample :
    StoresAll sampleMgr sampleHoldings
      (storeItem sampleMgr 1 7 [⟨mkPos 255 26, 5⟩] (some 7, sampleHoldings)).2 1 7 [⟨mkPos 255 26, 5⟩] :=
  storeItem_of_canStoreItem sampleMgr sampleHoldings 1 7 sampleHoldings_orderly.1
    sampleHoldings_orderly.2.1 sampleHoldings_orderly.2.2
    ⟨fun p q => by
      simp only [shelf, sampleHoldings]
      split
      · split <;> simp
      · simp, rfl⟩
    ⟨rfl, by decide, _, rfl, by decide, by decide, by decide⟩ (fun _ => rfl) 0 255 (Or.inl rfl) (by decide)
    (by decide)

end Holdings

end BlizzLike
