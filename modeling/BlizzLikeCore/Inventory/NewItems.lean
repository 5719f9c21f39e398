import BlizzLikeCore.Inventory.Transfer

/-!
# New items for a player

`CanStoreNewItem` and `StoreNewItem`: the common steps of rewards, loot and purchases.

    storeNewItem_spec : what there is room for is stored, all of it
-/

namespace BlizzLike

namespace Holdings

variable (om : ObjectMgr) (h : Holdings) (pl : Nat)

/-! ## Algorithm -/

def canStoreNewItem (bag slot item count : Nat) : StoreResult := h.canStoreItem om pl bag slot item count none false

/-- `StoreNewItem` without a random property. -/
def storeNewItem (dest : List ItemPosCount) (item : Nat) : Holdings :=
  match h.createItem om pl item (u32 (dest.map ItemPosCount.count).sum) with
  | none => h
  | some (g, h1) => (storeItem om pl g dest (some g, h1)).2

/-! ## Lemmas -/

/-- For no object in particular, the room the search counts is the room on the shelf. -/
theorem roomAt_new (proto : ItemPrototype) (pos : Nat) :
    h.roomAt pl proto none none pos = h.shelf.room proto pl (pos / 256) (pos % 256) := by
  unfold roomAt itemOtherThan Shelf.room
  rw [if_neg (by simp), getItemByPos_shelf]
  cases hk : h.shelf.itemAt pl (pos / 256) (pos % 256) with
  | none => simp
  | some k =>
    rw [if_neg (by simp)]
    rfl

/-- **New items are stored**, as many as there is room for, and nothing else changes. -/
theorem storeNewItem_spec (hin : h.InOrder om) (item count : Nat) (hpos : 0 < count) (hlt : count < 4294967296)
    (hok : (h.canStoreNewItem om pl nullBag nullSlot item count).res = .ok) :
    (h.storeNewItem om pl (h.canStoreNewItem om pl nullBag nullSlot item count).dest item).InOrder om ∧
      ∀ p e, (h.storeNewItem om pl (h.canStoreNewItem om pl nullBag nullSlot item count).dest item).shelf.total p e =
        h.shelf.total p e + if p = pl ∧ e = item then count else 0 := by
  obtain ⟨proto, hproto, hfits, hsum⟩ := h.canStoreItem_fits_of_ok om pl
    (h.bagsSized_of_bagsWorn om pl hin.orderly hin.bagsWorn) nullBag nullSlot item count none false (Or.inl rfl)
    (by decide) hpos hlt hok
  unfold canStoreNewItem
  generalize (h.canStoreItem om pl nullBag nullSlot item count none false).dest = dest at hfits hsum ⊢
  have hne : dest ≠ [] := by
    rintro rfl
    rw [List.map_nil, List.sum_nil] at hsum
    omega
  have hshelf : h.shelf.Fits proto pl dest := by
    refine ⟨hfits.nodup, fun d hd => ?_⟩
    obtain ⟨hplace, h0, hroom⟩ := hfits.entry d hd
    rw [show emptiedBySwap nullBag nullSlot false = none from rfl, roomAt_new] at hroom
    exact ⟨hplace.1, h0, hroom⟩
  have hnotWorn : ∀ d ∈ dest, d.pos / 256 = inventorySlotBag0 → isBagSlot (d.pos % 256) = false := by
    intro d hd hb
    rcases (hfits.entry d hd).1.2 hb with hs | hs
    · rw [isStoreSlot_iff] at hs
      rw [Bool.eq_false_iff, Ne, isBagSlot_iff]
      omega
    · simp [requestPos] at hs
  obtain ⟨h1, hcreate, -, hnew⟩ := h.shelf_createItem om pl item count proto hproto hpos
  obtain ⟨-, hin1, hspare, -⟩ := h.createItem_spec om pl hin item count _ h1 hcreate
  have hsame : ∀ p B S, Shelf.SamePlace h.shelf h1.shelf p B S := by
    intro p B S
    rw [hnew]
    exact Shelf.create_samePlace hin.orderly _ p B S
  have hentry : (h1.items h.nextGuid).entry = item := by
    have hgoods : h1.shelf.goods h.nextGuid = freshGoods pl proto (min count proto.stackable) := by
      rw [hnew]
      exact Shelf.create_goods_self ..
    exact (congrArg Goods.entry hgoods).trans (om.itemId_eq item proto hproto)
  have hproto1 : om.getItemPrototype (h1.items h.nextGuid).entry = some proto := by rw [hentry, hproto]
  have hfits1 := hshelf.of_same pl proto hin.orderly hin1.orderly fun B S => hsame pl B S
  have hstore := shelf_storeItem om pl h.nextGuid proto dest (some h.nextGuid, h1) hin1.orderly hspare.loose
    hspare.stacked hspare.empty hproto1 hfits1
  have hstored := @Shelf.store_spec om pl h.nextGuid proto dest hne h1.shelf hin1.orderly hspare.loose hspare.stacked
    hspare.empty hproto1 hfits1
  rw [← hstore] at hstored
  have heq : h.storeNewItem om pl dest item = (storeItem om pl h.nextGuid dest (some h.nextGuid, h1)).2 := by
    unfold storeNewItem
    rw [hsum, u32_eq _ hlt, hcreate]
  rw [heq]
  refine ⟨⟨hstored.orderly, hstored.bagsWorn pl h.nextGuid hin1.bagsWorn hnotWorn, hstored.alive hin1.alive⟩,
    fun p e => ?_⟩
  have htotal := hstored.total p e
  rw [Shelf.total_same p e fun B S => (hsame p B S).unitsAt_eq e] at htotal
  have hcount : Shelf.destCount dest = count := hsum
  have hentry1 : (h1.shelf.goods h.nextGuid).entry = item := hentry
  rw [hentry1, hcount] at htotal
  exact htotal

/-! ### None of an item -/

/-- There is nothing to place, and nothing is placed. -/
def PlacesNone (st : Placing) : Prop := st.count = 0 ∧ ∀ d ∈ st.dest, d.count = 0

/-- No unit is placed. -/
def StoresNone (r : StoreResult) : Prop := ∀ d ∈ r.dest, d.count = 0

theorem pushDest_none {st : Placing} (hst : PlacesNone st) (bag slot needSpace : Nat) :
    PlacesNone (pushDest bag slot needSpace st).2 := by
  have hneed : (if needSpace > st.count then st.count else needSpace) = 0 := by
    rw [hst.1]
    split <;> omega
  unfold pushDest
  dsimp only
  rw [hneed, hst.1]
  split
  · exact hst
  · refine ⟨rfl, fun d hd => ?_⟩
    rcases List.mem_append.1 hd with hd | hd
    · exact hst.2 d hd
    · rw [List.mem_singleton.1 hd]
      rfl

theorem scanSlots_none (bag : Nat) (skip : Nat → Bool) (proto : ItemPrototype) (merge : Bool) (js : List Nat)
    {st : Placing} (hst : PlacesNone st) : PlacesNone (h.scanSlots pl bag skip proto merge none js st) := by
  induction js generalizing st with
  | nil => exact hst
  | cons j js ih =>
    unfold scanSlots
    split
    · exact ih hst
    split
    · exact ih hst
    next needSpace _ =>
    have hpush := pushDest_none hst bag j needSpace
    dsimp only
    split
    · exact hpush
    · exact ih hpush

theorem inInventorySlots_none (lo hi : Nat) (proto : ItemPrototype) (merge : Bool) (skipBag skipSlot : Nat)
    {st : Placing} (hst : PlacesNone st) :
    PlacesNone (h.canStoreItemInInventorySlots om pl lo hi proto merge none skipBag skipSlot st).2 := by
  unfold canStoreItemInInventorySlots
  split
  · exact hst
  · exact h.scanSlots_none pl _ _ proto merge _ hst

theorem inBag_none (bag : Nat) (proto : ItemPrototype) (merge nonSpecialized : Bool) (skipBag skipSlot : Nat)
    {st : Placing} (hst : PlacesNone st) :
    PlacesNone (h.canStoreItemInBag om pl bag proto merge nonSpecialized none skipBag skipSlot st).2 := by
  unfold canStoreItemInBag
  split
  · exact hst
  split
  · exact hst
  split
  · exact hst
  split
  · exact hst
  split
  · exact hst
  split
  · exact hst
  · exact h.scanSlots_none pl _ _ proto merge _ hst

theorem placedAll_none (noSimilarCount : Nat) {st : Placing} (hst : PlacesNone st) :
    StoresNone (placedAll noSimilarCount st) := by
  unfold placedAll
  split <;> exact hst.2

theorem thenNext_none (noSimilarCount : Nat) {next : Placing → StoreResult}
    (hnext : ∀ st, PlacesNone st → StoresNone (next st)) {m : EquipErr × Placing} (hm : PlacesNone m.2) :
    StoresNone (thenNext noSimilarCount next m) := by
  unfold thenNext
  split
  · split
    · exact placedAll_none noSimilarCount hm
    · exact hnext _ hm
  · exact hm.2

theorem eachBag_none (noSimilarCount : Nat) {inBag : Nat → Placing → EquipErr × Placing}
    (hin : ∀ i st, PlacesNone st → PlacesNone (inBag i st).2) {next : Placing → StoreResult}
    (hnext : ∀ st, PlacesNone st → StoresNone (next st)) (is : List Nat) {st : Placing} (hst : PlacesNone st) :
    StoresNone (eachBag noSimilarCount inBag next is st) := by
  induction is generalizing st with
  | nil => exact hnext st hst
  | cons i is ih =>
    have hbag := hin i st hst
    unfold eachBag
    split
    · next st' heq =>
      rw [heq] at hbag
      split
      · exact placedAll_none noSimilarCount hbag
      · exact ih hbag
    · next st' _ heq =>
      rw [heq] at hbag
      exact ih hbag

section
variable (bag slot : Nat) (proto : ItemPrototype) (noSimilarCount : Nat)

theorem searchBags_none (merge nonSpecialized : Bool) {next : Placing → StoreResult}
    (hnext : ∀ st, PlacesNone st → StoresNone (next st)) {st : Placing} (hst : PlacesNone st) :
    StoresNone (h.searchBags om pl bag slot proto none noSimilarCount merge nonSpecialized next st) :=
  eachBag_none noSimilarCount (fun i _ hst => h.inBag_none om pl i proto merge nonSpecialized bag slot hst) hnext _
    hst

theorem searchSlots_none (lo hi : Nat) (merge : Bool) {next : Placing → StoreResult}
    (hnext : ∀ st, PlacesNone st → StoresNone (next st)) {st : Placing} (hst : PlacesNone st) :
    StoresNone (h.searchSlots om pl bag slot proto none noSimilarCount lo hi merge next st) :=
  thenNext_none noSimilarCount hnext (h.inInventorySlots_none om pl lo hi proto merge bag slot hst)

theorem searchFreeSlot_none {st : Placing} (hst : PlacesNone st) :
    StoresNone (h.searchFreeSlot om pl bag slot proto none noSimilarCount st) := by
  have hfull : ∀ st, PlacesNone st → StoresNone (noPlace .inventoryFull noSimilarCount st) := fun _ hst => hst.2
  exact h.searchSlots_none om pl bag slot proto noSimilarCount _ _ false
    (fun _ hst => h.searchBags_none om pl bag slot proto noSimilarCount false true hfull hst) hst

theorem searchSpecialBag_none {st : Placing} (hst : PlacesNone st) :
    StoresNone (h.searchSpecialBag om pl bag slot proto none noSimilarCount st) := by
  have hbags : ∀ st, PlacesNone st → StoresNone (h.searchBags om pl bag slot proto none noSimilarCount false false
      (h.searchFreeSlot om pl bag slot proto none noSimilarCount) st) := fun st hst =>
    h.searchBags_none om pl bag slot proto noSimilarCount false false
      (fun _ hst => h.searchFreeSlot_none om pl bag slot proto noSimilarCount hst) hst
  unfold searchSpecialBag
  dsimp only
  split
  · split
    · exact h.searchSlots_none om pl bag slot proto noSimilarCount _ _ false hbags hst
    · exact hbags st hst
  · exact h.searchFreeSlot_none om pl bag slot proto noSimilarCount hst

theorem searchStackInBags_none {st : Placing} (hst : PlacesNone st) :
    StoresNone (h.searchStackInBags om pl bag slot proto none noSimilarCount st) := by
  have hplain : ∀ st, PlacesNone st → StoresNone (h.searchBags om pl bag slot proto none noSimilarCount true true
      (h.searchSpecialBag om pl bag slot proto none noSimilarCount) st) := fun st hst =>
    h.searchBags_none om pl bag slot proto noSimilarCount true true
      (fun _ hst => h.searchSpecialBag_none om pl bag slot proto noSimilarCount hst) hst
  unfold searchStackInBags
  dsimp only
  split
  · exact h.searchBags_none om pl bag slot proto noSimilarCount true false hplain hst
  · exact hplain st hst

theorem searchAnywhere_none {st : Placing} (hst : PlacesNone st) :
    StoresNone (h.searchAnywhere om pl bag slot proto none noSimilarCount st) := by
  unfold searchAnywhere
  split
  · exact h.searchSlots_none om pl bag slot proto noSimilarCount _ _ true (fun _ hst =>
      h.searchSlots_none om pl bag slot proto noSimilarCount _ _ true (fun _ hst =>
        h.searchStackInBags_none om pl bag slot proto noSimilarCount hst) hst) hst
  · exact h.searchSpecialBag_none om pl bag slot proto noSimilarCount hst

end

theorem canStoreNewItem_none (hsz : h.BagsSized om pl) (item : Nat)
    (hok : (h.canStoreNewItem om pl nullBag nullSlot item 0).res = .ok) :
    StoresNone (h.canStoreNewItem om pl nullBag nullSlot item 0) := by
  unfold canStoreNewItem canStoreItem at hok ⊢
  split at hok
  · exact fun d hd => nomatch hd
  next proto hproto =>
  have hcases := canTakeMoreSimilarItems_cases om h pl item 0 none proto hproto (by simp)
  have hrest : h.searchRest om pl nullBag nullSlot proto none =
      h.searchAnywhere om pl nullBag nullSlot proto none := by
    funext noSimilarCount st
    unfold searchRest
    rw [if_neg (by simp)]
  dsimp only at hok ⊢
  simp only [Option.map_none, reduceCtorEq, if_false, ne_eq, not_true, false_and, hrest] at hok ⊢
  rcases hcases with ⟨hsimilar, -⟩ | ⟨hne, hpos, hlt⟩
  · simp only [hsimilar, not_true, false_and, if_false] at hok ⊢
    exact h.searchAnywhere_none om pl nullBag nullSlot proto _ ⟨rfl, fun d hd => nomatch hd⟩
  · -- he has more than he may have, and the rest of the search does not end well
    exfalso
    have hsub : 0 < sub32 0 (h.canTakeMoreSimilarItems om pl item 0 none).2 := by
      unfold sub32
      split <;> omega
    rw [if_neg fun hno => by omega, if_pos hne] at hok
    have hsettles := searchAnywhere_finishes (sub32 0 (h.canTakeMoreSimilarItems om pl item 0 none).2)
      (decide (0 < (h.canTakeMoreSimilarItems om pl item 0 none).2)) om h pl proto none none hsz none
      (h.canTakeMoreSimilarItems om pl item 0 none).2 nullBag nullSlot
      ⟨[], sub32 0 (h.canTakeMoreSimilarItems om pl item 0 none).2, _⟩ ⟨fitsIn_nil, Nat.zero_add _, rfl⟩ hsub
    obtain ⟨left, -, -, hiff⟩ := hsettles.left
    have hzero := hiff.1 hok
    omega

/-- **Of nothing** nothing is created. -/
theorem storeNewItem_none (hsz : h.BagsSized om pl) (item : Nat)
    (hok : (h.canStoreNewItem om pl nullBag nullSlot item 0).res = .ok) :
    h.storeNewItem om pl (h.canStoreNewItem om pl nullBag nullSlot item 0).dest item = h := by
  have hzero : (((h.canStoreNewItem om pl nullBag nullSlot item 0).dest).map ItemPosCount.count).sum = 0 := by
    refine List.sum_eq_zero fun n hn => ?_
    obtain ⟨d, hd, rfl⟩ := List.mem_map.1 hn
    exact h.canStoreNewItem_none om pl hsz item hok d hd
  unfold storeNewItem
  rw [hzero]
  rfl

end Holdings

end BlizzLike
