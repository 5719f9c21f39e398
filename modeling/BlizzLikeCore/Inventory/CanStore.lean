import BlizzLikeCore.Inventory.Holdings

/-!
# `_CanStoreItem`: where a stack would go

The placement search of `Player.cpp`: `_CanTakeMoreSimilarItems`, the three slot scans
`_CanStoreItem_InSpecificSlot`, `_InBag` and `_InInventorySlots`, and `_CanStoreItem`,
which runs them one after the other and stops at the first scan that fails or that leaves
nothing to place.

The C++ scans change `dest` and `count` by reference; here they are the two fields of
`Placing`.  Its field `underflow` is a ghost: it records whether an unsigned subtraction
of the search had a result below zero.
-/

namespace BlizzLike

/-! ## Algorithm -/

structure ItemPosCount where
  pos : Nat
  count : Nat
  deriving DecidableEq, Repr

def ItemPosCount.isContainedIn (np : ItemPosCount) (dest : List ItemPosCount) : Bool :=
  dest.any fun d => d.pos == np.pos

/-- `dest` and `count` of a running search. -/
structure Placing where
  dest : List ItemPosCount
  count : Nat
  underflow : Bool

/-- What `_CanStoreItem` hands back: the code, `dest` and `*no_space_count`. -/
structure StoreResult where
  res : EquipErr
  dest : List ItemPosCount
  noSpaceCount : Nat
  underflow : Bool

namespace Holdings

variable (om : ObjectMgr) (h : Holdings) (pl : Nat)

/-- `_CanTakeMoreSimilarItems`; the second component is `*no_space_count`, which the
caller set to 0. -/
def canTakeMoreSimilarItems (entry count : Nat) (pItem : Option Nat) : EquipErr × Nat :=
  match om.getItemPrototype entry with
  | none => (.cantCarryMoreOfThis, count)
  | some proto =>
    if (pItem.map fun i => (h.items i).lootGenerated) = some true then (.alreadyLooted, 0)
    else if proto.maxCount = 0 then (.ok, 0)
    else
      let curcount := h.getItemCount om pl proto.itemId true pItem
      if u32 (curcount + count) > proto.maxCount then
        (.cantCarryMoreOfThis, sub32 (u32 (count + curcount)) proto.maxCount)
      else (.ok, 0)

/-- The source item is a bag with something in it. -/
def isFullBag (pSrcItem : Option Nat) : Bool :=
  match pSrcItem with
  | some i => (h.items i).isBag om && !(h.items i).isEmpty
  | none => false

/-- `GetItemByPos` with the moved item's own slot counted as empty. -/
def itemOtherThan (bag slot : Nat) (pSrcItem : Option Nat) : Option Nat :=
  let pItem2 := h.getItemByPos pl bag slot
  if pItem2 = pSrcItem then none else pItem2

/-- The tail of every scan step: cut `needSpace` to what is left and, unless the position
is taken already, add it to `dest`.  The flag says whether something was added. -/
def pushDest (bag slot needSpace : Nat) (st : Placing) : Bool × Placing :=
  let need := if needSpace > st.count then st.count else needSpace
  let newPosition : ItemPosCount := ⟨mkPos bag slot, u8 need⟩
  if newPosition.isContainedIn st.dest then (false, st)
  else (true, { dest := st.dest ++ [newPosition]
                count := sub32 st.count need
                underflow := st.underflow || st.count < need })

def canStoreItemInSpecificSlot (bag slot : Nat) (proto : ItemPrototype) (swap : Bool)
    (pSrcItem : Option Nat) (st : Placing) : EquipErr × Placing :=
  let pItem2 := h.itemOtherThan pl bag slot pSrcItem
  if h.isFullBag om pSrcItem && !isBagPos bag slot then (.canOnlyDoWithEmptyBags, st)
  else
    match (if swap then none else pItem2) with
    | none =>
      if bag = inventorySlotBag0 then
        if (keyringSlotStart ≤ slot ∧ slot < keyringSlotStart + getMaxKeyringSize) ∧
            hasFlag proto.bagFamily bagFamilyMaskKeys = false then (.itemDoesntGoIntoBag, st)
        else if (buybackSlotStart ≤ slot ∧ slot < buybackSlotEnd) ∨ playerSlotEnd ≤ slot then
          (.itemDoesntGoIntoBag, st)
        else (.ok, (pushDest bag slot proto.stackable st).2)
      else
        match h.ownItem pl bag with
        | none => (.itemDoesntGoIntoBag, st)
        | some pBag =>
          match om.getItemPrototype (h.items pBag).entry with
          | none => (.itemDoesntGoIntoBag, st)
          | some bagProto =>
            if slot ≥ bagProto.containerSlots then (.itemDoesntGoIntoBag, st)
            else if itemCanGoIntoBag proto bagProto = false then (.itemDoesntGoIntoBag, st)
            else (.ok, (pushDest bag slot proto.stackable st).2)
    | some i =>
      match (h.items i).canBeMergedPartlyWith proto with
      | .ok => (.ok, (pushDest bag slot (proto.stackable - (h.items i).count) st).2)
      | res => (res, st)

/-- What the slot scans of `_InBag` and `_InInventorySlots` find room for in one slot:
`none` where the loop body continues with the next slot. -/
def scanSpace (bag slot : Nat) (proto : ItemPrototype) (merge : Bool) (pSrcItem : Option Nat) :
    Option Nat :=
  match h.itemOtherThan pl bag slot pSrcItem with
  | none => if merge then none else some proto.stackable
  | some i =>
    if merge then
      match (h.items i).canBeMergedPartlyWith proto with
      | .ok => some (proto.stackable - (h.items i).count)
      | _ => none
    else none

/-- The slot loop shared by `_InBag` and `_InInventorySlots`. -/
def scanSlots (bag : Nat) (skip : Nat → Bool) (proto : ItemPrototype) (merge : Bool)
    (pSrcItem : Option Nat) : List Nat → Placing → Placing
  | [], st => st
  | j :: js, st =>
    if skip j then scanSlots bag skip proto merge pSrcItem js st
    else
      match h.scanSpace pl bag j proto merge pSrcItem with
      | none => scanSlots bag skip proto merge pSrcItem js st
      | some needSpace =>
        let r := pushDest bag j needSpace st
        if r.1 = true ∧ r.2.count = 0 then r.2
        else scanSlots bag skip proto merge pSrcItem js r.2

def canStoreItemInBag (bag : Nat) (proto : ItemPrototype) (merge nonSpecialized : Bool)
    (pSrcItem : Option Nat) (skipBag skipSlot : Nat) (st : Placing) : EquipErr × Placing :=
  if bag = skipBag then (.itemDoesntGoIntoBag, st)
  else
    match h.ownItem pl bag with
    | none => (.itemDoesntGoIntoBag, st)
    | some pBag =>
      if h.isFullBag om pSrcItem then (.canOnlyDoWithEmptyBags, st)
      else
        match om.getItemPrototype (h.items pBag).entry with
        | none => (.itemDoesntGoIntoBag, st)
        | some bagProto =>
          if nonSpecialized ≠ (bagProto.class_ == itemClassContainer && bagProto.subClass == 0) then
            (.itemDoesntGoIntoBag, st)
          else if itemCanGoIntoBag proto bagProto = false then (.itemDoesntGoIntoBag, st)
          else (.ok, h.scanSlots pl bag (fun j => j == skipSlot) proto merge pSrcItem
            (List.range (h.items pBag).numSlots) st)

def canStoreItemInInventorySlots (slotBegin slotEnd : Nat) (proto : ItemPrototype) (merge : Bool)
    (pSrcItem : Option Nat) (skipBag skipSlot : Nat) (st : Placing) : EquipErr × Placing :=
  if h.isFullBag om pSrcItem then (.canOnlyDoWithEmptyBags, st)
  else (.ok, h.scanSlots pl inventorySlotBag0
    (fun j => skipBag == inventorySlotBag0 && j == skipSlot) proto merge pSrcItem
    (List.range' slotBegin (slotEnd - slotBegin)) st)

/-! ### The phases of `_CanStoreItem` -/

/-- The exit once nothing is left to place. -/
def placedAll (noSimilarCount : Nat) (st : Placing) : StoreResult :=
  if noSimilarCount = 0 then ⟨.ok, st.dest, 0, st.underflow⟩
  else ⟨.cantCarryMoreOfThis, st.dest, u32 (st.count + noSimilarCount), st.underflow⟩

/-- The exit of a failed phase, and of the whole search. -/
def noPlace (res : EquipErr) (noSimilarCount : Nat) (st : Placing) : StoreResult :=
  ⟨res, st.dest, u32 (st.count + noSimilarCount), st.underflow⟩

/-- One phase: a failure is returned, as is a search with nothing left; otherwise the
search goes on with `next`. -/
def thenNext (noSimilarCount : Nat) (next : Placing → StoreResult) :
    EquipErr × Placing → StoreResult
  | (.ok, st) => if st.count = 0 then placedAll noSimilarCount st else next st
  | (res, st) => noPlace res noSimilarCount st

/-- A loop over the equipped bags: bags that do not take the item are passed over. -/
def eachBag (noSimilarCount : Nat) (inBag : Nat → Placing → EquipErr × Placing)
    (next : Placing → StoreResult) : List Nat → Placing → StoreResult
  | [], st => next st
  | i :: is, st =>
    match inBag i st with
    | (.ok, st') =>
      if st'.count = 0 then placedAll noSimilarCount st'
      else eachBag noSimilarCount inBag next is st'
    | (_, st') => eachBag noSimilarCount inBag next is st'

/-- An equipped bag is tried as a specialized one and, if it is none, as a plain one. -/
def inBagEitherKind (bag : Nat) (proto : ItemPrototype) (merge : Bool) (pItem : Option Nat)
    (slot : Nat) (st : Placing) : EquipErr × Placing :=
  match h.canStoreItemInBag om pl bag proto merge false pItem nullBag slot st with
  | (.ok, st') => (.ok, st')
  | (_, st') => h.canStoreItemInBag om pl bag proto merge true pItem nullBag slot st'

section
variable (bag slot : Nat) (proto : ItemPrototype) (pItem : Option Nat) (noSimilarCount : Nat)

/-- A loop over the equipped bags, with the requested bag and slot skipped. -/
def searchBags (merge nonSpecialized : Bool) (next : Placing → StoreResult) : Placing → StoreResult :=
  eachBag noSimilarCount
    (fun i => h.canStoreItemInBag om pl i proto merge nonSpecialized pItem bag slot) next
    (List.range' inventorySlotBagStart (inventorySlotBagEnd - inventorySlotBagStart))

/-- A scan of the own slots `[lo, hi)` as one phase. -/
def searchSlots (lo hi : Nat) (merge : Bool) (next : Placing → StoreResult) (st : Placing) :
    StoreResult :=
  thenNext noSimilarCount next
    (h.canStoreItemInInventorySlots om pl lo hi proto merge pItem bag slot st)

/-- "search free slot": the backpack, then the plain bags. -/
def searchFreeSlot : Placing → StoreResult :=
  h.searchSlots om pl bag slot proto pItem noSimilarCount inventorySlotItemStart inventorySlotItemEnd false
    (h.searchBags om pl bag slot proto pItem noSimilarCount false true
      (noPlace .inventoryFull noSimilarCount))

/-- "search free slot - special bag case". -/
def searchSpecialBag (st : Placing) : StoreResult :=
  let freeSlot := h.searchFreeSlot om pl bag slot proto pItem noSimilarCount
  let specialBags := h.searchBags om pl bag slot proto pItem noSimilarCount false false freeSlot
  if proto.bagFamily ≠ 0 then
    if hasFlag proto.bagFamily bagFamilyMaskKeys then
      h.searchSlots om pl bag slot proto pItem noSimilarCount keyringSlotStart
        (keyringSlotStart + getMaxKeyringSize) false specialBags st
    else specialBags st
  else freeSlot st

/-- "search stack for merge to" in the equipped bags. -/
def searchStackInBags (st : Placing) : StoreResult :=
  let special := h.searchSpecialBag om pl bag slot proto pItem noSimilarCount
  let plainBags := h.searchBags om pl bag slot proto pItem noSimilarCount true true special
  if proto.bagFamily ≠ 0 then
    h.searchBags om pl bag slot proto pItem noSimilarCount true false plainBags st
  else plainBags st

/-- The search without a specific bag: "search stack for merge to", then a free slot. -/
def searchAnywhere (st : Placing) : StoreResult :=
  if proto.stackable > 1 then
    h.searchSlots om pl bag slot proto pItem noSimilarCount keyringSlotStart keyringSlotEnd true
      (h.searchSlots om pl bag slot proto pItem noSimilarCount inventorySlotItemStart
        inventorySlotItemEnd true (h.searchStackInBags om pl bag slot proto pItem noSimilarCount)) st
  else h.searchSpecialBag om pl bag slot proto pItem noSimilarCount st

/-- "search free slot in bag for place to". -/
def searchFreeInBag (st : Placing) : StoreResult :=
  let anywhere := h.searchAnywhere om pl bag slot proto pItem noSimilarCount
  if bag = inventorySlotBag0 then
    let backpack := h.searchSlots om pl bag slot proto pItem noSimilarCount inventorySlotItemStart
      inventorySlotItemEnd false anywhere
    if hasFlag proto.bagFamily bagFamilyMaskKeys then
      h.searchSlots om pl bag slot proto pItem noSimilarCount keyringSlotStart
        (keyringSlotStart + getMaxKeyringSize) false backpack st
    else backpack st
  else thenNext noSimilarCount anywhere (h.inBagEitherKind om pl bag proto false pItem slot st)

/-- "in specific bag": stacks of the requested bag first, then its free slots. -/
def searchInBag (st : Placing) : StoreResult :=
  let free := h.searchFreeInBag om pl bag slot proto pItem noSimilarCount
  if proto.stackable > 1 then
    if bag = inventorySlotBag0 then
      h.searchSlots om pl bag slot proto pItem noSimilarCount keyringSlotStart keyringSlotEnd true
        (h.searchSlots om pl bag slot proto pItem noSimilarCount inventorySlotItemStart
          inventorySlotItemEnd true free) st
    else thenNext noSimilarCount free (h.inBagEitherKind om pl bag proto true pItem slot st)
  else free st

/-- The search once the requested slot was tried. -/
def searchRest (st : Placing) : StoreResult :=
  if bag ≠ nullBag then h.searchInBag om pl bag slot proto pItem noSimilarCount st
  else h.searchAnywhere om pl bag slot proto pItem noSimilarCount st

end

/-- `_CanStoreItem`, called with an empty `dest` and `*no_space_count = 0`. -/
def canStoreItem (bag slot entry count : Nat) (pItem : Option Nat) (swap : Bool) : StoreResult :=
  match om.getItemPrototype entry with
  | none => ⟨if swap then .itemsCantBeSwapped else .itemNotFound, [], count, false⟩
  | some proto =>
    if (pItem.map fun i => (h.items i).lootGenerated) = some true then
      ⟨.alreadyLooted, [], count, false⟩
    else if (pItem.map fun i => (h.items i).isBindedNotWith pl) = some true then
      ⟨.dontOwnThatItem, [], count, false⟩
    else
      let similar := h.canTakeMoreSimilarItems om pl entry count pItem
      if similar.1 ≠ .ok ∧ count = similar.2 then ⟨similar.1, [], similar.2, false⟩
      else
        let st : Placing :=
          if similar.1 ≠ .ok then ⟨[], sub32 count similar.2, count < similar.2⟩
          else ⟨[], count, false⟩
        let rest := h.searchRest om pl bag slot proto pItem similar.2
        if bag ≠ nullBag ∧ slot ≠ nullSlot then
          thenNext similar.2 rest
            (h.canStoreItemInSpecificSlot om pl bag slot proto swap pItem st)
        else rest st

/-! ## Specification -/

/-- `(bag, slot)` is a place an item can be in. -/
def SlotExists (bag slot : Nat) : Prop :=
  (bag = inventorySlotBag0 ∧ isOwnSlot slot = true) ∨
    (isBagSlot bag = true ∧ ∃ b, h.ownItem pl bag = some b ∧ slot < (h.items b).numSlots)

/-- Units of `proto` that still fit at a position: the whole stack where the slot is empty,
holds the moved item itself or is the slot `emptied` by a swap, and the rest of the stack
where it holds the same entry. -/
def roomAt (proto : ItemPrototype) (pItem emptied : Option Nat) (pos : Nat) : Nat :=
  match (if emptied = some pos then none else h.itemOtherThan pl (pos / 256) (pos % 256) pItem) with
  | none => proto.stackable
  | some i => if (h.items i).entry = proto.itemId then proto.stackable - (h.items i).count else 0

/-- `roomAt` for the requested entry; an unknown entry fits nowhere. -/
def roomFor (entry : Nat) (pItem emptied : Option Nat) (pos : Nat) : Nat :=
  match om.getItemPrototype entry with
  | some proto => h.roomAt pl proto pItem emptied pos
  | none => 0

/-- Every equipped bag has the number of slots its prototype gives it. -/
def BagsSized : Prop :=
  ∀ bag b proto, isBagSlot bag = true → h.ownItem pl bag = some b →
    om.getItemPrototype (h.items b).entry = some proto → (h.items b).numSlots = proto.containerSlots

/-- The bags a request can name: none, the player himself, or a bag slot. -/
def IsRequestBag (bag : Nat) : Prop :=
  bag = nullBag ∨ bag = inventorySlotBag0 ∨ isBagSlot bag = true

end Holdings

/-- A destination list in which every position is one of the places `valid`, taken once, for
a positive count within its `room`. -/
structure FitsIn (room : Nat → Nat) (valid : Nat → Prop) (dest : List ItemPosCount) : Prop where
  nodup : (dest.map ItemPosCount.pos).Nodup
  entry : ∀ d ∈ dest, valid d.pos ∧ 0 < d.count ∧ d.count ≤ room d.pos

/-- A running search that still has to place `st.count` of `total` units, and that was
started with the flag `u`. -/
structure Placing.Sound (room : Nat → Nat) (valid : Nat → Prop) (total : Nat) (u : Bool)
    (st : Placing) : Prop where
  fits : FitsIn room valid st.dest
  sum : (st.dest.map ItemPosCount.count).sum + st.count = total
  underflow : st.underflow = u

/-- A finished search for `total` units besides `noSimilar` ones that the limit refuses: some
of them are left, and only a search with nothing left and nothing refused is a success. -/
structure StoreResult.Settles (room : Nat → Nat) (valid : Nat → Prop) (total noSimilar : Nat)
    (u : Bool) (r : StoreResult) : Prop where
  fits : FitsIn room valid r.dest
  left : ∃ left, (r.dest.map ItemPosCount.count).sum + left = total ∧
    r.noSpaceCount = u32 (left + noSimilar) ∧ (r.res = .ok ↔ left + noSimilar = 0)
  underflow : r.underflow = u

/-- A finished search that accounts for `total` requested units. -/
structure StoreResult.Accounts (room : Nat → Nat) (valid : Nat → Prop) (total : Nat)
    (r : StoreResult) : Prop where
  fits : FitsIn room valid r.dest
  sum : (r.dest.map ItemPosCount.count).sum + r.noSpaceCount = total
  noUnderflow : r.underflow = false
  ok_iff : r.res = .ok ↔ r.noSpaceCount = 0

/-! ## Lemmas -/

section
variable {room : Nat → Nat} {valid : Nat → Prop} {total : Nat} {u : Bool}

theorem isContainedIn_iff (np : ItemPosCount) (dest : List ItemPosCount) :
    np.isContainedIn dest = true ↔ np.pos ∈ dest.map ItemPosCount.pos := by
  simp [ItemPosCount.isContainedIn]

theorem fitsIn_nil : FitsIn room valid [] := ⟨List.nodup_nil, by simp⟩

theorem FitsIn.mono {valid' : Nat → Prop} {dest : List ItemPosCount} (hf : FitsIn room valid dest)
    (hv : ∀ pos, valid pos → valid' pos) : FitsIn room valid' dest :=
  ⟨hf.nodup, fun d hd => ⟨hv _ (hf.entry d hd).1, (hf.entry d hd).2⟩⟩

theorem fitsIn_append (dest : List ItemPosCount) (np : ItemPosCount) (hd : FitsIn room valid dest)
    (hn : np.isContainedIn dest = false) (hv : valid np.pos) (hp : 0 < np.count)
    (hr : np.count ≤ room np.pos) : FitsIn room valid (dest ++ [np]) := by
  refine ⟨?_, ?_⟩
  · have hnm : np.pos ∉ dest.map ItemPosCount.pos := by
      rw [← isContainedIn_iff, hn]; simp
    rw [List.map_append, List.nodup_append]
    refine ⟨hd.nodup, by simp, ?_⟩
    intro a ha b hb hab
    simp only [List.map_cons, List.map_nil, List.mem_singleton] at hb
    exact hnm (by rw [← hb, ← hab]; exact ha)
  · intro d hm
    rcases List.mem_append.1 hm with hm | hm
    · exact hd.entry d hm
    · rw [List.mem_singleton] at hm
      subst hm
      exact ⟨hv, hp, hr⟩

namespace Holdings

/-- A position found by a scan takes part of what is left and keeps the account. -/
theorem pushDest_sound (bag slot needSpace : Nat) (st : Placing) (hs : st.Sound room valid total u)
    (hc : 0 < st.count) (hv : valid (mkPos bag slot)) (hn : 0 < needSpace) (h255 : needSpace ≤ 255)
    (hr : needSpace ≤ room (mkPos bag slot)) :
    (pushDest bag slot needSpace st).2.Sound room valid total u := by
  unfold pushDest
  simp only
  generalize hneed : (if needSpace > st.count then st.count else needSpace) = need
  have hle : need ≤ st.count ∧ need ≤ needSpace ∧ 0 < need := by
    subst hneed; split <;> omega
  obtain ⟨hle, hle', hpos⟩ := hle
  have hu8 : u8 need = need := u8_eq need (by omega)
  split
  · exact hs
  · next hcont =>
    have hcont := Bool.eq_false_iff.2 hcont
    refine ⟨?_, ?_, ?_⟩
    · refine fitsIn_append _ _ hs.fits hcont hv ?_ ?_
      · simp only [hu8]; exact hpos
      · simp only [hu8]; omega
    · have := hs.sum
      simp only [List.map_append, List.map_cons, List.map_nil, List.sum_append, List.sum_cons,
        List.sum_nil, hu8, sub32_eq _ _ hle]
      omega
    · simp only [hs.underflow, Bool.or_eq_left_iff_imp, decide_eq_true_eq]
      omega

theorem pushDest_taken (bag slot needSpace : Nat) (st : Placing)
    (h : (pushDest bag slot needSpace st).1 = false) : (pushDest bag slot needSpace st).2 = st := by
  unfold pushDest at h ⊢
  simp only at h ⊢
  generalize (if needSpace > st.count then st.count else needSpace) = need at h ⊢
  by_cases hc : (⟨mkPos bag slot, u8 need⟩ : ItemPosCount).isContainedIn st.dest = true
  · rw [if_pos hc]
  · rw [if_neg hc] at h; cases h

theorem scanSlots_sound (h : Holdings) (pl bag : Nat) (skip : Nat → Bool) (proto : ItemPrototype)
    (merge : Bool) (pSrcItem : Option Nat) (js : List Nat)
    (hj : ∀ j ∈ js, valid (mkPos bag j) ∧ ∀ need, h.scanSpace pl bag j proto merge pSrcItem = some need →
      0 < need ∧ need ≤ 255 ∧ need ≤ room (mkPos bag j))
    (st : Placing) (hs : st.Sound room valid total u) (hc : 0 < st.count) :
    (h.scanSlots pl bag skip proto merge pSrcItem js st).Sound room valid total u := by
  induction js generalizing st with
  | nil => exact hs
  | cons j js ih =>
    have ih := ih fun i hi => hj i (List.mem_cons_of_mem j hi)
    obtain ⟨hv, hroom⟩ := hj j List.mem_cons_self
    unfold scanSlots
    split
    · exact ih st hs hc
    · cases hsp : h.scanSpace pl bag j proto merge pSrcItem with
      | none => exact ih st hs hc
      | some need =>
        obtain ⟨h0, h255, hle⟩ := hroom need hsp
        have hp := pushDest_sound bag j need st hs hc hv h0 h255 hle
        simp only
        split
        · exact hp
        · next hgo =>
          refine ih _ hp ?_
          -- a scan goes on only with units left, or because the position was taken already
          by_cases h1 : (pushDest bag j need st).1 = true
          · exact Nat.pos_of_ne_zero fun h0 => hgo ⟨h1, h0⟩
          · rw [pushDest_taken bag j need st (Bool.eq_false_iff.2 h1)]
            exact hc

/-! ### Phases -/

theorem placedAll_settles (noSimilar : Nat) (st : Placing) (hs : st.Sound room valid total u)
    (h0 : st.count = 0) : (placedAll noSimilar st).Settles room valid total noSimilar u := by
  have hsum := hs.sum
  unfold placedAll
  split
  · next hz => exact ⟨hs.fits, ⟨0, by simp only; omega, by simp [hz, u32], by simp [hz]⟩, hs.underflow⟩
  · next hz =>
    exact ⟨hs.fits, ⟨0, by simp only; omega, by simp only [h0], by simp; omega⟩, hs.underflow⟩

theorem noPlace_settles (res : EquipErr) (hres : res ≠ .ok) (noSimilar : Nat) (st : Placing)
    (hs : st.Sound room valid total u) (hc : 0 < st.count) :
    (noPlace res noSimilar st).Settles room valid total noSimilar u := by
  exact ⟨hs.fits, ⟨st.count, hs.sum, rfl, by simp only [noPlace, hres, false_iff]; omega⟩,
    hs.underflow⟩

/-- A phase keeps the account and fails only with units left. -/
def Keeps (room : Nat → Nat) (valid : Nat → Prop) (total : Nat) (u : Bool)
    (phase : Placing → EquipErr × Placing) : Prop :=
  ∀ st, st.Sound room valid total u → 0 < st.count →
    (phase st).2.Sound room valid total u ∧ ((phase st).1 ≠ .ok → 0 < (phase st).2.count)

/-- The rest of a search accounts for everything. -/
def Finishes (room : Nat → Nat) (valid : Nat → Prop) (total : Nat) (u : Bool) (noSimilar : Nat)
    (next : Placing → StoreResult) : Prop :=
  ∀ st, st.Sound room valid total u → 0 < st.count →
    (next st).Settles room valid total noSimilar u

/-- **One phase keeps the account**, whichever way it is left. -/
theorem thenNext_finishes (noSimilar : Nat) (next : Placing → StoreResult)
    (phase : Placing → EquipErr × Placing)
    (hp : Keeps room valid total u phase) (hn : Finishes room valid total u noSimilar next) :
    Finishes room valid total u noSimilar fun st => thenNext noSimilar next (phase st) := by
  intro st hs hc
  obtain ⟨hr, herr⟩ := hp st hs hc
  simp only
  generalize phase st = r at hr herr
  obtain ⟨res, st'⟩ := r
  unfold thenNext
  split
  · next st'' heq =>
    cases heq
    split
    · next h0 => exact placedAll_settles noSimilar st' hr h0
    · next h0 => exact hn st' hr (Nat.pos_of_ne_zero h0)
  · next res' st'' hne heq =>
    cases heq
    exact noPlace_settles res hne noSimilar st' hr (herr hne)

theorem eachBag_finishes (noSimilar : Nat) (inBag : Nat → Placing → EquipErr × Placing)
    (next : Placing → StoreResult) (is : List Nat)
    (hb : ∀ i ∈ is, Keeps room valid total u (inBag i))
    (hn : Finishes room valid total u noSimilar next) :
    Finishes room valid total u noSimilar (eachBag noSimilar inBag next is) := by
  intro st hs hc
  induction is generalizing st with
  | nil => exact hn st hs hc
  | cons i is ih =>
    have ih := ih fun k hk => hb k (List.mem_cons_of_mem i hk)
    obtain ⟨hs', herr⟩ := hb i List.mem_cons_self st hs hc
    unfold eachBag
    split
    · next st' heq =>
      rw [heq] at hs'
      split
      · next h0 => exact placedAll_settles noSimilar st' hs' h0
      · next h0 => exact ih st' hs' (Nat.pos_of_ne_zero h0)
    · next res st' hne heq =>
      rw [heq] at hs' herr
      exact ih st' hs' (herr hne)

variable (om : ObjectMgr) (h : Holdings) (pl : Nat) (proto : ItemPrototype) (pItem : Option Nat)

theorem le_roomAt (emptied : Option Nat) (bag j n : Nat) (hj : j < 256) (hn : n ≤ proto.stackable)
    (ho : ∀ i, h.itemOtherThan pl bag j pItem = some i →
      (h.items i).entry = proto.itemId ∧ n ≤ proto.stackable - (h.items i).count) :
    n ≤ h.roomAt pl proto pItem emptied (mkPos bag j) := by
  unfold roomAt
  rw [mkPos_div _ _ hj, mkPos_mod _ _ hj]
  split
  · exact hn
  · next i hi =>
    split at hi
    · cases hi
    · rw [if_pos (ho i hi).1]; exact (ho i hi).2

/-- What a scan of one slot finds is free room of that slot, whatever slot a swap empties. -/
theorem scanSpace_le (emptied : Option Nat) (bag j : Nat) (merge : Bool) (hj : j < 256) (need : Nat)
    (hn : h.scanSpace pl bag j proto merge pItem = some need) :
    0 < need ∧ need ≤ 255 ∧ need ≤ h.roomAt pl proto pItem emptied (mkPos bag j) := by
  have hpos := proto.stackable_pos
  have hle := proto.stackable_le
  unfold scanSpace at hn
  cases hi : h.itemOtherThan pl bag j pItem with
  | none =>
    rw [hi] at hn
    cases merge with
    | true => simp at hn
    | false =>
      simp only [Bool.false_eq_true, if_false, Option.some.injEq] at hn
      subst hn
      exact ⟨hpos, hle, le_roomAt h pl proto pItem emptied bag j _ hj le_rfl (by simp [hi])⟩
  | some i =>
    rw [hi] at hn
    cases merge with
    | false => simp at hn
    | true =>
      simp only [if_true] at hn
      cases hm : (h.items i).canBeMergedPartlyWith proto with
      | ok =>
        rw [hm] at hn
        simp only [Option.some.injEq] at hn
        subst hn
        obtain ⟨-, he, hlt⟩ := (Item.canBeMergedPartlyWith_eq_ok _ _).1 hm
        refine ⟨by omega, by omega, le_roomAt h pl proto pItem emptied bag j _ hj (by omega) ?_⟩
        intro k hk
        rw [hi, Option.some.injEq] at hk
        subst hk
        exact ⟨he, le_rfl⟩
      | _ => rw [hm] at hn; simp at hn

/-! ### The three scans -/

variable (total u) (req : Option Nat)

/-- The places of the player's inventory, as positions. -/
def validPos (pos : Nat) : Prop := h.SlotExists pl (pos / 256) (pos % 256)

theorem validPos_own (j : Nat) (hj : isOwnSlot j = true) : h.validPos pl (mkPos inventorySlotBag0 j) := by
  have hlt : j < 256 := by rw [isOwnSlot_iff] at hj; omega
  unfold validPos
  rw [mkPos_div _ _ hlt, mkPos_mod _ _ hlt]
  exact Or.inl ⟨rfl, hj⟩

theorem validPos_bag (bag b j : Nat) (hbag : isBagSlot bag = true) (hb : h.ownItem pl bag = some b)
    (hj : j < (h.items b).numSlots) (hlt : j < 256) : h.validPos pl (mkPos bag j) := by
  unfold validPos
  rw [mkPos_div _ _ hlt, mkPos_mod _ _ hlt]
  exact Or.inr ⟨hbag, b, hb, hj⟩

theorem itemOtherThan_eq_some (bag slot i : Nat) (hi : h.itemOtherThan pl bag slot pItem = some i) :
    h.getItemByPos pl bag slot = some i := by
  unfold itemOtherThan at hi
  simp only at hi
  split at hi
  · cases hi
  · exact hi

theorem validPos_of_item (bag slot : Nat) (hslot : slot < 256) (i : Nat)
    (hi : h.getItemByPos pl bag slot = some i) : h.validPos pl (mkPos bag slot) := by
  unfold getItemByPos at hi
  split at hi
  · next hb =>
    rw [hb]
    refine validPos_own h pl slot ?_
    unfold ownItem at hi
    split at hi
    · assumption
    · cases hi
  · split at hi
    · next hbag =>
      cases hb : h.ownItem pl bag with
      | none => rw [hb] at hi; cases hi
      | some b =>
        rw [hb] at hi
        simp only [Item.bagItemByPos] at hi
        split at hi
        · next hlt => exact validPos_bag h pl bag b slot hbag hb hlt hslot
        · cases hi
    · cases hi

/-- The slots of the player himself that a search goes through: backpack and keyring. -/
def isStoreSlot (slot : Nat) : Bool :=
  (inventorySlotItemStart ≤ slot && slot < inventorySlotItemEnd) ||
    (keyringSlotStart ≤ slot && slot < keyringSlotEnd)

theorem isStoreSlot_iff (slot : Nat) :
    isStoreSlot slot = true ↔ (23 ≤ slot ∧ slot < 39) ∨ (86 ≤ slot ∧ slot < 118) := by
  simp [isStoreSlot]

/-- The places a search with the requested position `req` can choose. -/
def placePos (req : Option Nat) (pos : Nat) : Prop :=
  h.validPos pl pos ∧ (pos / 256 = inventorySlotBag0 → isStoreSlot (pos % 256) = true ∨ req = some pos)

theorem placePos_own (req : Option Nat) (j : Nat) (hj : isStoreSlot j = true) :
    h.placePos pl req (mkPos inventorySlotBag0 j) := by
  have hj' := (isStoreSlot_iff j).1 hj
  refine ⟨validPos_own h pl j ((isOwnSlot_iff j).2 (by omega)), fun _ => Or.inl ?_⟩
  rw [mkPos_mod _ _ (by omega)]
  exact hj

theorem placePos_bag (req : Option Nat) (bag b j : Nat) (hbag : isBagSlot bag = true)
    (hb : h.ownItem pl bag = some b) (hj : j < (h.items b).numSlots) (hlt : j < 256) :
    h.placePos pl req (mkPos bag j) := by
  refine ⟨validPos_bag h pl bag b j hbag hb hj hlt, fun he => ?_⟩
  rw [mkPos_div _ _ hlt] at he
  rw [he] at hbag
  exact absurd hbag (by decide)

/-- The position a request names, if it names one. -/
def requestPos (bag slot : Nat) : Option Nat :=
  if bag ≠ nullBag ∧ slot ≠ nullSlot then some (mkPos bag slot) else none

theorem inInventorySlots_keeps (emptied : Option Nat) (lo hi : Nat) (merge : Bool)
    (skipBag skipSlot : Nat) (hown : ∀ j, lo ≤ j → j < hi → isStoreSlot j = true) :
    Keeps (h.roomAt pl proto pItem emptied) (h.placePos pl req) total u
      (h.canStoreItemInInventorySlots om pl lo hi proto merge pItem skipBag skipSlot) := by
  intro st hs hc
  unfold canStoreItemInInventorySlots
  split
  · exact ⟨hs, fun _ => hc⟩
  · refine ⟨scanSlots_sound h pl _ _ proto merge pItem _ ?_ st hs hc, by simp⟩
    intro j hj
    obtain ⟨h1, h2⟩ := List.mem_range'_1.1 hj
    have ho := hown j h1 (by omega)
    refine ⟨placePos_own h pl req j ho, fun need hn => ?_⟩
    exact scanSpace_le h pl proto pItem emptied _ j merge (by rw [isStoreSlot_iff] at ho; omega) need hn

theorem inBag_keeps (hsz : h.BagsSized om pl) (emptied : Option Nat) (bag : Nat)
    (hbag : isBagSlot bag = true) (merge nonSpecialized : Bool) (skipBag skipSlot : Nat) :
    Keeps (h.roomAt pl proto pItem emptied) (h.placePos pl req) total u
      (h.canStoreItemInBag om pl bag proto merge nonSpecialized pItem skipBag skipSlot) := by
  intro st hs hc
  unfold canStoreItemInBag
  split
  · exact ⟨hs, fun _ => hc⟩
  cases hb : h.ownItem pl bag with
  | none => exact ⟨hs, fun _ => hc⟩
  | some b =>
    simp only
    split
    · exact ⟨hs, fun _ => hc⟩
    cases hbp : om.getItemPrototype (h.items b).entry with
    | none => exact ⟨hs, fun _ => hc⟩
    | some bagProto =>
      have hnum := hsz bag b bagProto hbag hb hbp
      have hmax := bagProto.containerSlots_le
      unfold maxBagSize at hmax
      simp only
      split
      · exact ⟨hs, fun _ => hc⟩
      split
      · exact ⟨hs, fun _ => hc⟩
      refine ⟨scanSlots_sound h pl _ _ proto merge pItem _ ?_ st hs hc, by simp⟩
      intro j hj
      have hj := List.mem_range.1 hj
      exact ⟨placePos_bag h pl req bag b j hbag hb hj (by omega), fun need hn =>
        scanSpace_le h pl proto pItem emptied bag j merge (by omega) need hn⟩

theorem inBagEitherKind_keeps (hsz : h.BagsSized om pl) (emptied : Option Nat) (bag : Nat)
    (hbag : isBagSlot bag = true) (merge : Bool) (slot : Nat) :
    Keeps (h.roomAt pl proto pItem emptied) (h.placePos pl req) total u
      (h.inBagEitherKind om pl bag proto merge pItem slot) := by
  intro st hs hc
  obtain ⟨h1, h2⟩ := inBag_keeps total u om h pl proto pItem req hsz emptied bag hbag merge false
    nullBag slot st hs hc
  unfold inBagEitherKind
  split
  · next st' heq =>
    rw [heq] at h1
    exact ⟨h1, by simp⟩
  · next res st' hne heq =>
    rw [heq] at h1 h2
    exact inBag_keeps total u om h pl proto pItem req hsz emptied bag hbag merge true nullBag slot st' h1 (h2 hne)

theorem inSpecificSlot_keeps (hsz : h.BagsSized om pl) (emptied : Option Nat) (bag slot : Nat)
    (hslot : slot < 256) (hbag : bag = inventorySlotBag0 ∨ isBagSlot bag = true) (swap : Bool)
    (hem : swap = true → emptied = some (mkPos bag slot)) (hreq : req = some (mkPos bag slot)) :
    Keeps (h.roomAt pl proto pItem emptied) (h.placePos pl req) total u
      (h.canStoreItemInSpecificSlot om pl bag slot proto swap pItem) := by
  intro st hs hc
  have hstay : ∀ e : EquipErr, (e, st).2.Sound (h.roomAt pl proto pItem emptied) (h.placePos pl req) total u ∧
      ((e, st).1 ≠ .ok → 0 < (e, st).2.count) := fun e => ⟨hs, fun _ => hc⟩
  have hpos := proto.stackable_pos
  have hle := proto.stackable_le
  unfold canStoreItemInSpecificSlot
  simp only
  split
  · exact hstay _
  cases hi : (if swap = true then none else h.itemOtherThan pl bag slot pItem) with
  | none =>
    have hroom : proto.stackable ≤ h.roomAt pl proto pItem emptied (mkPos bag slot) := by
      cases swap with
      | true => rw [hem rfl]; simp [roomAt]
      | false =>
        simp only [Bool.false_eq_true, if_false] at hi
        exact le_roomAt h pl proto pItem emptied bag slot _ hslot le_rfl (by simp [hi])
    have hpush := fun hv => pushDest_sound bag slot proto.stackable st hs hc ⟨hv, fun _ => Or.inr hreq⟩
      hpos hle hroom
    simp only
    split
    · next hb0 =>
      split
      · exact hstay _
      split
      · exact hstay _
      · next hbuy =>
        refine ⟨hpush ?_, by simp⟩
        rw [hb0]
        refine validPos_own h pl slot ((isOwnSlot_iff slot).2 ?_)
        simp only [buybackSlotStart, buybackSlotEnd, playerSlotEnd, not_or, not_and] at hbuy
        omega
    · next hb0 =>
      have hbag := hbag.resolve_left hb0
      cases hb : h.ownItem pl bag with
      | none => exact hstay _
      | some b =>
        simp only
        cases hbp : om.getItemPrototype (h.items b).entry with
        | none => exact hstay _
        | some bagProto =>
          simp only
          split
          · exact hstay _
          split
          · exact hstay _
          · have hnum := hsz bag b bagProto hbag hb hbp
            exact ⟨hpush (validPos_bag h pl bag b slot hbag hb (by omega) hslot), by simp⟩
  | some i =>
    have hi' : h.itemOtherThan pl bag slot pItem = some i := by
      cases swap with
      | true => simp at hi
      | false => simpa using hi
    simp only
    cases hm : (h.items i).canBeMergedPartlyWith proto with
    | ok =>
      obtain ⟨-, he, hlt⟩ := (Item.canBeMergedPartlyWith_eq_ok _ _).1 hm
      refine ⟨pushDest_sound bag slot _ st hs hc ⟨?_, fun _ => Or.inr hreq⟩ (by omega) (by omega) ?_,
        by simp⟩
      · exact validPos_of_item h pl bag slot hslot i (itemOtherThan_eq_some h pl pItem bag slot i hi')
      · refine le_roomAt h pl proto pItem emptied bag slot _ hslot (by omega) fun k hk => ?_
        rw [hi', Option.some.injEq] at hk
        subst hk
        exact ⟨he, le_rfl⟩
    | _ => exact hstay _

/-! ## Top theorems -/

section
variable (hsz : h.BagsSized om pl) (emptied : Option Nat) (noSimilar bag slot : Nat)

theorem searchSlots_finishes (lo hi : Nat) (merge : Bool) (next : Placing → StoreResult)
    (hown : (inventorySlotItemStart ≤ lo ∧ hi ≤ inventorySlotItemEnd) ∨
      (keyringSlotStart ≤ lo ∧ hi ≤ keyringSlotEnd))
    (hn : Finishes (h.roomAt pl proto pItem emptied) (h.placePos pl req) total u noSimilar next) :
    Finishes (h.roomAt pl proto pItem emptied) (h.placePos pl req) total u noSimilar
      (h.searchSlots om pl bag slot proto pItem noSimilar lo hi merge next) :=
  thenNext_finishes noSimilar next _
    (inInventorySlots_keeps total u om h pl proto pItem req emptied lo hi merge bag slot fun j h1 h2 =>
      (isStoreSlot_iff j).2 (by
        simp only [inventorySlotItemStart, inventorySlotItemEnd, keyringSlotStart, keyringSlotEnd] at hown
        omega))
    hn

include hsz

theorem searchBags_finishes (merge nonSpecialized : Bool) (next : Placing → StoreResult)
    (hn : Finishes (h.roomAt pl proto pItem emptied) (h.placePos pl req) total u noSimilar next) :
    Finishes (h.roomAt pl proto pItem emptied) (h.placePos pl req) total u noSimilar
      (h.searchBags om pl bag slot proto pItem noSimilar merge nonSpecialized next) := by
  refine eachBag_finishes noSimilar _ next _ (fun i hi => ?_) hn
  obtain ⟨h1, h2⟩ := List.mem_range'_1.1 hi
  simp only [inventorySlotBagStart, inventorySlotBagEnd] at h1 h2
  exact inBag_keeps total u om h pl proto pItem req hsz emptied i ((isBagSlot_iff i).2 (by omega)) merge _ bag slot

theorem searchFreeSlot_finishes :
    Finishes (h.roomAt pl proto pItem emptied) (h.placePos pl req) total u noSimilar
      (h.searchFreeSlot om pl bag slot proto pItem noSimilar) := by
  refine searchSlots_finishes total u om h pl proto pItem req emptied noSimilar bag slot _ _ _ _ (by simp) ?_
  refine searchBags_finishes total u om h pl proto pItem req hsz emptied noSimilar bag slot _ _ _ ?_
  exact fun st hs hc => noPlace_settles .inventoryFull (by simp) noSimilar st hs hc

theorem searchSpecialBag_finishes :
    Finishes (h.roomAt pl proto pItem emptied) (h.placePos pl req) total u noSimilar
      (h.searchSpecialBag om pl bag slot proto pItem noSimilar) := by
  have hfree := searchFreeSlot_finishes total u om h pl proto pItem req hsz emptied noSimilar bag slot
  have hbags := searchBags_finishes total u om h pl proto pItem req hsz emptied noSimilar bag slot false false _
    hfree
  intro st hs hc
  unfold searchSpecialBag
  simp only
  split
  · split
    · exact searchSlots_finishes total u om h pl proto pItem req emptied noSimilar bag slot _ _ _ _ (by simp)
        hbags st hs hc
    · exact hbags st hs hc
  · exact hfree st hs hc

theorem searchStackInBags_finishes :
    Finishes (h.roomAt pl proto pItem emptied) (h.placePos pl req) total u noSimilar
      (h.searchStackInBags om pl bag slot proto pItem noSimilar) := by
  have hplain := searchBags_finishes total u om h pl proto pItem req hsz emptied noSimilar bag slot true true _
    (searchSpecialBag_finishes total u om h pl proto pItem req hsz emptied noSimilar bag slot)
  intro st hs hc
  unfold searchStackInBags
  simp only
  split
  · exact searchBags_finishes total u om h pl proto pItem req hsz emptied noSimilar bag slot true false _ hplain
      st hs hc
  · exact hplain st hs hc

theorem searchAnywhere_finishes :
    Finishes (h.roomAt pl proto pItem emptied) (h.placePos pl req) total u noSimilar
      (h.searchAnywhere om pl bag slot proto pItem noSimilar) := by
  intro st hs hc
  unfold searchAnywhere
  split
  · refine searchSlots_finishes total u om h pl proto pItem req emptied noSimilar bag slot _ _ _ _ (by simp) ?_
      st hs hc
    refine searchSlots_finishes total u om h pl proto pItem req emptied noSimilar bag slot _ _ _ _ (by simp) ?_
    exact searchStackInBags_finishes total u om h pl proto pItem req hsz emptied noSimilar bag slot
  · exact searchSpecialBag_finishes total u om h pl proto pItem req hsz emptied noSimilar bag slot st hs hc

theorem searchFreeInBag_finishes (hbag : bag = inventorySlotBag0 ∨ isBagSlot bag = true) :
    Finishes (h.roomAt pl proto pItem emptied) (h.placePos pl req) total u noSimilar
      (h.searchFreeInBag om pl bag slot proto pItem noSimilar) := by
  have hany := searchAnywhere_finishes total u om h pl proto pItem req hsz emptied noSimilar bag slot
  have hpack := searchSlots_finishes total u om h pl proto pItem req emptied noSimilar bag slot
    inventorySlotItemStart inventorySlotItemEnd false _ (by simp) hany
  intro st hs hc
  unfold searchFreeInBag
  simp only
  split
  · split
    · exact searchSlots_finishes total u om h pl proto pItem req emptied noSimilar bag slot _ _ _ _ (by simp)
        hpack st hs hc
    · exact hpack st hs hc
  · next hb =>
    exact thenNext_finishes noSimilar _ _
      (inBagEitherKind_keeps total u om h pl proto pItem req hsz emptied bag (hbag.resolve_left hb) false slot)
      hany st hs hc

theorem searchInBag_finishes (hbag : bag = inventorySlotBag0 ∨ isBagSlot bag = true) :
    Finishes (h.roomAt pl proto pItem emptied) (h.placePos pl req) total u noSimilar
      (h.searchInBag om pl bag slot proto pItem noSimilar) := by
  have hfree := searchFreeInBag_finishes total u om h pl proto pItem req hsz emptied noSimilar bag slot hbag
  intro st hs hc
  unfold searchInBag
  simp only
  split
  · split
    · refine searchSlots_finishes total u om h pl proto pItem req emptied noSimilar bag slot _ _ _ _ (by simp)
        ?_ st hs hc
      exact searchSlots_finishes total u om h pl proto pItem req emptied noSimilar bag slot _ _ _ _ (by simp)
        hfree
    · next hb =>
      exact thenNext_finishes noSimilar _ _
        (inBagEitherKind_keeps total u om h pl proto pItem req hsz emptied bag (hbag.resolve_left hb) true slot)
        hfree st hs hc
  · exact hfree st hs hc

theorem searchRest_finishes (hbag : IsRequestBag bag) :
    Finishes (h.roomAt pl proto pItem emptied) (h.placePos pl req) total u noSimilar
      (h.searchRest om pl bag slot proto pItem noSimilar) := by
  intro st hs hc
  unfold searchRest
  split
  · next hb =>
    exact searchInBag_finishes total u om h pl proto pItem req hsz emptied noSimilar bag slot
      (hbag.resolve_left hb) st hs hc
  · exact searchAnywhere_finishes total u om h pl proto pItem req hsz emptied noSimilar bag slot st hs hc

end

end Holdings

end

namespace Holdings

theorem canTakeMoreSimilarItems_cases (om : ObjectMgr) (h : Holdings) (pl entry count : Nat)
    (pItem : Option Nat) (proto : ItemPrototype) (hp : om.getItemPrototype entry = some proto)
    (hl : (pItem.map fun i => (h.items i).lootGenerated) ≠ some true) :
    (h.canTakeMoreSimilarItems om pl entry count pItem).1 = .ok ∧
        (h.canTakeMoreSimilarItems om pl entry count pItem).2 = 0 ∨
      (h.canTakeMoreSimilarItems om pl entry count pItem).1 ≠ .ok ∧
        0 < (h.canTakeMoreSimilarItems om pl entry count pItem).2 ∧
        (h.canTakeMoreSimilarItems om pl entry count pItem).2 < 4294967296 := by
  unfold canTakeMoreSimilarItems
  rw [hp]
  simp only [if_neg hl]
  split
  · simp
  split
  · next hgt =>
    right
    rw [Nat.add_comm count, sub32_eq _ _ (by omega)]
    have hu := Nat.mod_lt (h.getItemCount om pl proto.itemId true pItem + count)
      (by decide : 0 < 4294967296)
    unfold u32 at hgt ⊢
    exact ⟨by simp, by simp only; omega, by simp only; omega⟩
  · simp

theorem canTakeMoreSimilarItems_le (om : ObjectMgr) (h : Holdings) (pl entry count : Nat)
    (pItem : Option Nat) (hlt : count < 4294967296) (proto : ItemPrototype)
    (hp : om.getItemPrototype entry = some proto)
    (hmax : proto.maxCount = 0 ∨ h.getItemCount om pl entry true pItem ≤ proto.maxCount) :
    (h.canTakeMoreSimilarItems om pl entry count pItem).2 ≤ count := by
  have hid := om.itemId_eq entry proto hp
  unfold canTakeMoreSimilarItems
  rw [hp]
  simp only
  split
  · simp
  split
  · simp
  · next hm0 =>
    have hcur := hmax.resolve_left hm0
    rw [hid, Nat.add_comm count]
    generalize h.getItemCount om pl entry true pItem = cur at hcur ⊢
    split
    · next hgt =>
      simp only
      rw [sub32_eq _ _ (by omega)]
      unfold u32 at hgt ⊢
      omega
    · simp

/-- The slot a search with `swap` treats as emptied. -/
def emptiedBySwap (bag slot : Nat) (swap : Bool) : Option Nat :=
  if swap && bag != nullBag && slot != nullSlot then some (mkPos bag slot) else none

/-- Either the request is refused as a whole, or the search settles what the limit leaves. -/
theorem canStoreItem_settles (om : ObjectMgr) (h : Holdings) (pl : Nat) (hsz : h.BagsSized om pl)
    (bag slot entry count : Nat) (pItem : Option Nat) (swap : Bool) (hbag : IsRequestBag bag)
    (hslot : slot < 256) (hpos : 0 < count) (hlt : count < 4294967296) (proto : ItemPrototype)
    (hp : om.getItemPrototype entry = some proto) :
    (∃ e, e ≠ .ok ∧ h.canStoreItem om pl bag slot entry count pItem swap = ⟨e, [], count, false⟩) ∨
    ∃ noSimilar, noSimilar = (h.canTakeMoreSimilarItems om pl entry count pItem).2 ∧
      (h.canStoreItem om pl bag slot entry count pItem swap).Settles
        (h.roomAt pl proto pItem (emptiedBySwap bag slot swap)) (h.placePos pl (requestPos bag slot))
        (sub32 count noSimilar) noSimilar (count < noSimilar) := by
  unfold canStoreItem
  rw [hp]
  simp only
  split
  · exact Or.inl ⟨_, by simp, rfl⟩
  next hl =>
  split
  · exact Or.inl ⟨_, by simp, rfl⟩
  have hcases := canTakeMoreSimilarItems_cases om h pl entry count pItem proto hp hl
  generalize h.canTakeMoreSimilarItems om pl entry count pItem = similar at hcases ⊢
  obtain ⟨res, noSimilar⟩ := similar
  simp only at hcases ⊢
  split
  · next hall =>
    obtain ⟨hne, rfl⟩ := hall
    exact Or.inl ⟨res, hne, rfl⟩
  next hpart =>
  refine Or.inr ⟨noSimilar, rfl, ?_⟩
  -- the search starts with the units the limit leaves, at least one of them
  generalize hst : (if res ≠ .ok then (⟨[], sub32 count noSimilar, count < noSimilar⟩ : Placing)
    else ⟨[], count, false⟩) = st
  have hstart : st.Sound (h.roomAt pl proto pItem (emptiedBySwap bag slot swap)) (h.placePos pl (requestPos bag slot))
      (sub32 count noSimilar) (count < noSimilar) ∧ 0 < st.count := by
    rcases hcases with ⟨rfl, rfl⟩ | ⟨hne, hns, hns'⟩
    · simp only [ne_eq, not_true, if_false] at hst
      subst hst
      exact ⟨⟨fitsIn_nil, by simp [sub32], by simp⟩, hpos⟩
    · rw [if_pos hne] at hst
      subst hst
      have hne' : count ≠ noSimilar := fun he => hpart ⟨hne, he⟩
      refine ⟨⟨fitsIn_nil, by simp, rfl⟩, ?_⟩
      simp only [sub32]
      split <;> omega
  obtain ⟨hs, hc⟩ := hstart
  have hrest := searchRest_finishes (sub32 count noSimilar) (count < noSimilar) om h pl proto pItem (requestPos bag slot) hsz
    (emptiedBySwap bag slot swap) noSimilar bag slot hbag
  split
  · next hspec =>
    obtain ⟨hb, hsl⟩ := hspec
    refine thenNext_finishes noSimilar _ _ (inSpecificSlot_keeps (sub32 count noSimilar)
      (count < noSimilar) om h pl proto pItem (requestPos bag slot) hsz (emptiedBySwap bag slot swap) bag
      slot hslot (hbag.resolve_left hb) swap (fun hsw => ?_) (if_pos ⟨hb, hsl⟩)) hrest st hs hc
    simp only [nullBag, nullSlot] at hb hsl
    simp [emptiedBySwap, hsw, hb, hsl]
  · exact hrest st hs hc

/-- **`_CanStoreItem` accounts for every unit** of a positive request whose entry the player
does not already hold beyond its `MaxCount`. -/
theorem canStoreItem_accounts (om : ObjectMgr) (h : Holdings) (pl : Nat) (hsz : h.BagsSized om pl)
    (bag slot entry count : Nat) (pItem : Option Nat) (swap : Bool) (hbag : IsRequestBag bag)
    (hslot : slot < 256) (hpos : 0 < count) (hlt : count < 4294967296)
    (hmax : ∀ proto, om.getItemPrototype entry = some proto →
      proto.maxCount = 0 ∨ h.getItemCount om pl entry true pItem ≤ proto.maxCount) :
    (h.canStoreItem om pl bag slot entry count pItem swap).Accounts
      (h.roomFor om pl entry pItem (emptiedBySwap bag slot swap)) (h.validPos pl) count := by
  have hrefuse : ∀ room e, e ≠ .ok →
      (StoreResult.mk e [] count false).Accounts room (h.validPos pl) count :=
    fun room e he => ⟨fitsIn_nil, by simp, rfl, by simp [he]; omega⟩
  cases hp : om.getItemPrototype entry with
  | none =>
    unfold canStoreItem
    rw [hp]
    exact hrefuse _ _ (by split <;> simp)
  | some proto =>
    have hroom : ∀ em, h.roomFor om pl entry pItem em = h.roomAt pl proto pItem em := by
      intro em; funext pos; simp [roomFor, hp]
    rw [hroom]
    rcases canStoreItem_settles om h pl hsz bag slot entry count pItem swap hbag hslot hpos hlt proto
      hp with ⟨e, he, heq⟩ | ⟨noSimilar, hns, hset⟩
    · rw [heq]; exact hrefuse _ e he
    · have hle := canTakeMoreSimilarItems_le om h pl entry count pItem hlt proto hp (hmax proto hp)
      rw [← hns] at hle
      obtain ⟨hfits, ⟨left, hsum, hno, hok⟩, hu⟩ := hset
      rw [sub32_eq _ _ hle] at hsum
      rw [u32_eq _ (by omega)] at hno
      refine ⟨hfits.mono fun _ hv => hv.1, by omega, ?_, by rw [hok, hno]⟩
      rw [hu, decide_eq_false_iff_not]
      omega

theorem canStoreItem_fits_of_ok (om : ObjectMgr) (h : Holdings) (pl : Nat) (hsz : h.BagsSized om pl)
    (bag slot entry count : Nat) (pItem : Option Nat) (swap : Bool) (hbag : IsRequestBag bag)
    (hslot : slot < 256) (hpos : 0 < count) (hlt : count < 4294967296)
    (hok : (h.canStoreItem om pl bag slot entry count pItem swap).res = .ok) :
    ∃ proto, om.getItemPrototype entry = some proto ∧
      FitsIn (h.roomAt pl proto pItem (emptiedBySwap bag slot swap))
        (h.placePos pl (requestPos bag slot))
        (h.canStoreItem om pl bag slot entry count pItem swap).dest ∧
      ((h.canStoreItem om pl bag slot entry count pItem swap).dest.map ItemPosCount.count).sum =
        count := by
  cases hp : om.getItemPrototype entry with
  | none =>
    unfold canStoreItem at hok
    rw [hp] at hok
    simp only at hok
    split at hok <;> cases hok
  | some proto =>
    refine ⟨proto, rfl, ?_⟩
    rcases canStoreItem_settles om h pl hsz bag slot entry count pItem swap hbag hslot hpos hlt proto
      hp with ⟨e, he, heq⟩ | ⟨noSimilar, -, hset⟩
    · rw [heq] at hok; exact absurd hok he
    · obtain ⟨hfits, ⟨left, hsum, -, hiff⟩, -⟩ := hset
      have h0 := hiff.1 hok
      obtain ⟨rfl, rfl⟩ : left = 0 ∧ noSimilar = 0 := by omega
      exact ⟨hfits, by simpa [sub32] using hsum⟩

/-! ### A search on fixed inputs -/

/-- A gem of which one may be carried, a ring it can be socketed in, two stackables and a bag. -/
def sampleTemplate : Nat → Option ItemTemplate
  | 1 => some { itemId := 1, class_ := 3, maxCount := 1, stackable := 1, gemProperties := 1 }
  | 2 => some { itemId := 2, class_ := 4, inventoryType := 11, stackable := 1, socketColor0 := 2 }
  | 3 => some { itemId := 3, class_ := 7, stackable := 20 }
  | 4 => some { itemId := 4, class_ := 7, stackable := 20 }
  | 5 => some { itemId := 5, class_ := 1, inventoryType := 18, stackable := 1, containerSlots := 6 }
  | _ => none

def sampleMgr : ObjectMgr where
  getItemPrototype entry := (sampleTemplate entry).map loadItemPrototype
  enchantment id := if id = 7 then some ⟨1, 0⟩ else none
  itemId_eq := by
    intro entry proto hp
    unfold sampleTemplate at hp
    split at hp
    all_goals first | (obtain rfl := Option.some.inj hp; rfl) | simp at hp

/-- Player 1 with a ring that carries two of the gems, a third gem in the backpack and, beside
it, a full stack and an unequipped bag; item 7 is a stack of five he does not carry. -/
def sampleHoldings : Holdings where
  nextGuid := 9
  items g := match g with
    | 4 => { live := true, entry := 2, count := 1, owner := 1, slot := 10
             enchantmentId := fun s => if s = 2 ∨ s = 3 then 7 else 0 }
    | 5 => { live := true, entry := 1, count := 1, owner := 1, slot := 23 }
    | 6 => { live := true, entry := 4, count := 20, owner := 1, slot := 24 }
    | 7 => { live := true, entry := 3, count := 5, owner := 1 }
    | 8 => { live := true, entry := 5, count := 1, owner := 1, slot := 25, numSlots := 6 }
    | _ => {}
  slots pl s := if pl = 1 then
      match s with
      | 10 => some 4
      | 23 => some 5
      | 24 => some 6
      | 25 => some 8
      | _ => none
    else none

/-- Four searches that do not account as asked: with `swap` the slot of another item's full
stack is given as room for five units; a request for nothing is given a slot for nothing; a
request into the unequipped bag is given a place no item is looked up at; and beyond the limit
of an entry the subtraction of the remainder underflows. -/
theorem canStoreItem_not_accounts :
    ((sampleHoldings.canStoreItem sampleMgr 1 255 24 3 5 (some 7) true).dest =
        [⟨mkPos 255 24, 5⟩] ∧ 20 - (sampleHoldings.items 6).count = 0) ∧
      (sampleHoldings.canStoreItem sampleMgr 1 0 255 2 0 none false).dest = [⟨mkPos 255 26, 0⟩] ∧
      ((sampleHoldings.canStoreItem sampleMgr 1 25 0 3 5 none false).dest = [⟨mkPos 25 0, 5⟩] ∧
        isBagSlot 25 = false) ∧
      (sampleHoldings.canStoreItem sampleMgr 1 0 255 1 1 (some 5) false).underflow = true := by
  decide

theorem canStoreItem_accounts_sample :
    (sampleHoldings.canStoreItem sampleMgr 1 255 24 3 5 (some 7) true).Accounts
      (sampleHoldings.roomFor sampleMgr 1 3 (some 7) (some (mkPos 255 24)))
      (sampleHoldings.validPos 1) 5 :=
  canStoreItem_accounts sampleMgr sampleHoldings 1
    (by
      intro bag b proto hbag hb
      exfalso
      rw [isBagSlot_iff] at hbag
      unfold ownItem at hb
      split at hb
      · simp only [sampleHoldings, if_true] at hb
        split at hb <;> first | omega | cases hb
      · cases hb)
    255 24 3 5 (some 7) true (Or.inr (Or.inl rfl)) (by decide) (by decide) (by decide)
    (by
      intro proto hp
      obtain rfl : loadItemPrototype _ = proto := Option.some.inj hp
      exact Or.inl rfl)

end Holdings

end BlizzLike
