import BlizzLikeCore.Inventory.Transfer
import BlizzLikeCore.Lib.EarlyReturn

/-!
# Destroying a number of items

A quest or a script asks `HasItemCount`, then `CanUnequipItems`, and lets `DestroyItemCount` destroy what it
asked for.  Each walks the inventory for itself: the first two from the equipment on, the third to the
equipment, and where the first does not ask whether an item can be taken off, the third steps over those
that cannot be.  When both agree, exactly as many units go as were asked for (`destroyItemCount_exact`).

The invariant of the walk is that what is still ahead and can be destroyed covers what is still to be
destroyed.
-/

namespace BlizzLike

/-- The `EQUIP_ERR_*` codes of `CanUnequipItem`. -/
inductive UnequipErr where
  | ok
  | itemNotFound
  | alreadyLooted
  | notInCombat
  | notDuringArenaMatch
  | canOnlyDoWithEmptyBags
  deriving DecidableEq, Repr

/-- What `CanUnequipItem` sees of the player beside his items. -/
structure FighterView where
  isInCombat : Bool
  arenaInProgress : Bool

/-- `CanChangeEquipStateInCombat`: relics, shields, held items, weapons and projectiles. -/
def ItemPrototype.canChangeEquipStateInCombat (proto : ItemPrototype) : Bool :=
  proto.inventoryType == 28 || proto.inventoryType == 14 || proto.inventoryType == 23 ||
    proto.class_ == 2 || proto.class_ == 6

namespace Holdings

variable (om : ObjectMgr) (v : FighterView) (h : Holdings) (pl : Nat)

/-! ## Counting -/

/-- What `GetItemByPos` finds in a bag, slot by slot. -/
def bagItems (bag : Nat) : List (Option Nat) :=
  match h.ownItem pl bag with
  | none => []
  | some b => (List.range (h.items b).numSlots).map (h.getItemByPos pl bag)

/-- The loops of `HasItemCount`, with `tempcount` units so far. -/
def reaches (item count : Nat) : Nat → List (Option Nat) → Bool
  | _, [] => false
  | tempcount, none :: its => reaches item count tempcount its
  | tempcount, some g :: its =>
    if (h.items g).entry = item then
      let tempcount := u32 (tempcount + (h.items g).count)
      if tempcount ≥ count then true else reaches item count tempcount its
    else reaches item count tempcount its

def hasItemCount (item count : Nat) (inBankAlso : Bool) : Bool :=
  h.reaches item count 0
    ((List.range 39 ++ List.range' 86 32).map (h.ownItem pl) ++ (List.range' 19 4).flatMap (h.bagItems pl) ++
      if inBankAlso then (List.range' 39 28).map (h.ownItem pl) ++ (List.range' 67 7).flatMap (h.bagItems pl)
      else [])

/-! ## What can be taken off -/

def canUnequipItem (bag slot : Nat) (swap : Bool) : UnequipErr :=
  if isEquipmentPos bag slot = false ∧ isBagPos bag slot = false then .ok
  else
    match h.getItemByPos pl bag slot with
    | none => .ok
    | some g =>
      match om.getItemPrototype (h.items g).entry with
      | none => .itemNotFound
      | some proto =>
        if (h.items g).lootGenerated then .alreadyLooted
        else if proto.canChangeEquipStateInCombat = false ∧ v.isInCombat then .notInCombat
        else if proto.canChangeEquipStateInCombat = false ∧ v.arenaInProgress then .notDuringArenaMatch
        else if swap = false ∧ (h.items g).isBag om ∧ (h.items g).isEmpty = false then .canOnlyDoWithEmptyBags
        else .ok

/-- The loop over the equipment of `CanUnequipItems`; nothing, if it returns. -/
def unequipsWorn (item count : Nat) : Nat → UnequipErr → List Nat → Option (Nat × UnequipErr)
  | tempcount, res, [] => some (tempcount, res)
  | tempcount, res, i :: is =>
    match h.ownItem pl i with
    | none => unequipsWorn item count tempcount res is
    | some g =>
      if (h.items g).entry = item then
        if h.canUnequipItem om v pl inventorySlotBag0 i false = .ok then
          let tempcount := u32 (tempcount + (h.items g).count)
          if tempcount ≥ count then none else unequipsWorn item count tempcount res is
        else unequipsWorn item count tempcount (h.canUnequipItem om v pl inventorySlotBag0 i false) is
      else unequipsWorn item count tempcount res is

def canUnequipItems (item count : Nat) : UnequipErr :=
  match h.unequipsWorn om v pl item count 0 .ok (List.range 23) with
  | none => .ok
  | some (tempcount, res) =>
    if h.reaches item count tempcount ((List.range' 23 16 ++ List.range' 86 32).map (h.ownItem pl) ++
        (List.range' 19 4).flatMap (h.bagItems pl)) then .ok
    else res

/-! ## Destroying -/

def isEquipped (g : Nat) : Bool := (h.items g).container.isNone && (h.items g).slot < equipmentSlotEnd

/-- `DestroyItem`, but for what is contained. -/
def destroyAlone (bag slot : Nat) : Holdings :=
  match h.getItemByPos pl bag slot with
  | none => h
  | some g =>
    let h1 :=
      if bag = inventorySlotBag0 then h.setSlot pl slot none
      else
        match h.ownItem pl bag with
        | none => h
        | some b => h.bagRemoveItem b slot
    (h1.modify g fun it => { it with contained := .none, slot := nullSlot }).setState pl g .removed

/-- `DestroyItem`; what is contained is not equipped, so this does not go deeper. -/
def destroyItem (bag slot : Nat) : Holdings :=
  match h.getItemByPos pl bag slot with
  | none => h
  | some g =>
    if (h.items g).isBag om ∧ h.isEquipped g then
      ((List.range maxBagSize).foldl (fun h i => h.destroyAlone pl slot i) h).destroyAlone pl bag slot
    else h.destroyAlone pl bag slot

/-- A turn of a loop of `DestroyItemCount`, with `remcount` units destroyed so far; an error is a return. -/
def destroyTurn (item count : Nat) (unequipCheck : Bool) (p : Nat × Nat) (s : Holdings × Nat) :
    Except Holdings (Holdings × Nat) :=
  match s.1.getItemByPos pl p.1 p.2 with
  | none => .ok s
  | some g =>
    if (s.1.items g).entry = item then
      if u32 ((s.1.items g).count + s.2) ≤ count then
        if unequipCheck = false ∨ s.1.canUnequipItem om v pl p.1 p.2 false = .ok then
          let remcount := u32 (s.2 + (s.1.items g).count)
          if remcount ≥ count then .error (s.1.destroyItem om pl p.1 p.2)
          else .ok (s.1.destroyItem om pl p.1 p.2, remcount)
        else .ok s
      else
        .error ((s.1.modify g fun it => { it with count := u32 (sub32 it.count count + s.2) }).setState pl g .changed)
    else .ok s

/-- The loop over a bag. -/
def destroyInBag (item count : Nat) (bag : Nat) (s : Holdings × Nat) : Except Holdings (Holdings × Nat) :=
  match s.1.ownItem pl bag with
  | none => .ok s
  | some b => EarlyReturn.forEach (fun j => destroyTurn om v pl item count false (bag, j))
      (List.range (s.1.items b).numSlots) s

def destroyItemCount (item count : Nat) (unequipCheck : Bool) : Holdings :=
  let own := fun (check : Bool) (slot : Nat) => destroyTurn om v pl item count check (inventorySlotBag0, slot)
  EarlyReturn.result Prod.fst
    (EarlyReturn.forEach (own false) (List.range' 23 16 ++ List.range' 86 32) (h, 0) >>= fun s =>
      EarlyReturn.forEach (destroyInBag om v pl item count) (List.range' 19 4) s >>= fun s =>
        EarlyReturn.forEach (own unequipCheck) (List.range 23) s)

/-! ## One item destroyed -/

section
variable {om : ObjectMgr} {v : FighterView} {h t : Holdings} {pl : Nat}

theorem lootGenerated_modify (g i : Nat) (f : Item → Item)
    (hf : (f (h.items g)).lootGenerated = (h.items g).lootGenerated) :
    ((h.modify g f).items i).lootGenerated = (h.items i).lootGenerated := by
  unfold modify
  by_cases hi : i = g
  · subst hi
    simp [hf]
  · simp [hi]

theorem lootGenerated_setState (g i : Nat) (state : ItemUpdateState) :
    ((h.setState pl g state).items i).lootGenerated = (h.items i).lootGenerated := by
  have hremove : ((h.removeFromUpdateQueueOf pl g).items i).lootGenerated = (h.items i).lootGenerated := by
    unfold removeFromUpdateQueueOf
    split
    · rfl
    split
    · rfl
    split
    · rfl
    · exact lootGenerated_modify g i (fun it => { it with uQueuePos := -1 }) rfl
  have hadd : ∀ k : Holdings, ((k.addToUpdateQueueOf pl g).items i).lootGenerated = (k.items i).lootGenerated := by
    intro k
    unfold addToUpdateQueueOf
    split
    · rfl
    split
    · rfl
    split
    · rfl
    · exact lootGenerated_modify g i (fun it => { it with uQueuePos := toInt16 (k.itemUpdateQueue pl).length }) rfl
  unfold setState
  split
  · rw [← hremove]
    unfold deleteItem
    dsimp only
    split <;> rfl
  split
  · rw [hadd]
    refine lootGenerated_modify g i _ ?_
    split <;> rfl
  · exact lootGenerated_modify g i _ rfl

theorem lootGenerated_bagRemoveItem (b slot i : Nat) :
    ((h.bagRemoveItem b slot).items i).lootGenerated = (h.items i).lootGenerated := by
  unfold bagRemoveItem
  refine (lootGenerated_modify b i _ rfl).trans ?_
  split
  · exact lootGenerated_modify _ i _ rfl
  · rfl

/-- An item with nothing inside is gone, and all others are as they were. -/
structure Destroyed (om : ObjectMgr) (h t : Holdings) (pl bag slot g : Nat) : Prop where
  orderly : t.shelf.Orderly om
  total : ∀ p e, t.shelf.total p e + (if p = pl then h.shelf.unitsOf e g else 0) = h.shelf.total p e
  elsewhere : ∀ p B S, ¬ (p = pl ∧ B = bag ∧ S = slot) → Shelf.SamePlace h.shelf t.shelf p B S
  empty : ∀ y, h.shelf.Empty y → t.shelf.Empty y
  lootGenerated : ∀ i, (t.items i).lootGenerated = (h.items i).lootGenerated

theorem destroyAlone_taken (ho : h.shelf.Orderly om) {bag slot g : Nat} (hg : h.getItemByPos pl bag slot = some g)
    (he : h.shelf.Empty g) :
    ∃ k : Holdings, Shelf.IsTaken om h.shelf k.shelf pl bag slot g ∧
      (h.destroyAlone pl bag slot).shelf = k.shelf.discard g ∧
      ∀ i, ((h.destroyAlone pl bag slot).items i).lootGenerated = (h.items i).lootGenerated := by
  have hg' : h.shelf.itemAt pl bag slot = some g := hg
  have htaken := Shelf.take_spec ho pl bag slot g hg' he
  unfold destroyAlone
  rw [hg]
  dsimp only
  generalize hk : Holdings.modify _ g _ = k
  have hshelf : k.shelf = h.shelf.take pl bag slot g := by
    rw [← hk]
    unfold Shelf.take
    split
    · rw [shelf_modify _ g _ (fun x => { x with slot := nullSlot }) rfl]
      rfl
    · next hb =>
      rcases Shelf.itemAt_eq_some h.shelf pl bag slot g hg' with ⟨heq, -⟩ | ⟨hbag, b, hs, hlt, hin⟩
      · exact absurd heq hb
      · have hob : h.ownItem pl bag = some b :=
          (Shelf.own_eq h.shelf pl bag (Shelf.isOwnSlot_of_isBagSlot bag hbag)).trans hs
        have hob' : h.shelf.own pl bag = some b := hob
        simp only [hob, hob']
        exact h.shelf_bagRemoveItem om pl ho bag b slot g hbag hs hin
  have hloot : ∀ i, (k.items i).lootGenerated = (h.items i).lootGenerated := by
    intro i
    rw [← hk]
    refine (lootGenerated_modify g i _ rfl).trans ?_
    split
    · rfl
    · split
      · rfl
      · exact lootGenerated_bagRemoveItem _ _ _
  rw [← hshelf] at htaken
  exact ⟨k, htaken, k.shelf_setState_removed pl g htaken.spare.empty,
    fun i => (lootGenerated_setState g i _).trans (hloot i)⟩

/-- **`DestroyItem`**, but for what is contained. -/
theorem destroyAlone_spec (ho : h.shelf.Orderly om) {bag slot g : Nat} (hg : h.getItemByPos pl bag slot = some g)
    (he : h.shelf.Empty g) : Destroyed om h (h.destroyAlone pl bag slot) pl bag slot g := by
  obtain ⟨k, htaken, hgone, hloot⟩ := destroyAlone_taken ho hg he
  have hsame := Shelf.modify_loose_samePlace htaken.orderly g htaken.spare.loose fun x => { x with gone := true }
  obtain ⟨horder, -⟩ := Shelf.modify_loose_orderly htaken.orderly g htaken.spare.loose
    (fun x => { x with gone := true }) rfl htaken.spare.loose.container
  refine ⟨by rw [hgone]; exact horder, fun p e => ?_, fun p B S hne => ?_, fun y hy j => ?_, hloot⟩
  · rw [hgone]
    have htotal : (k.shelf.discard g).total p e = k.shelf.total p e :=
      Shelf.total_same p e fun B S => (hsame p B S).unitsAt_eq e
    rw [htotal]
    exact htaken.total hg ho p e
  · rw [hgone]
    exact (htaken.elsewhere p B S hne).trans (hsame p B S)
  · rw [hgone]
    unfold Shelf.discard
    by_cases hyg : y = g
    · rw [hyg, Shelf.modify_goods_self]
      exact htaken.spare.empty j
    · rw [Shelf.modify_goods_of_ne _ _ _ _ hyg]
      exact htaken.empty y hy j

/-- What is in the slots of the equipment holds nothing that is destroyed with it. -/
theorem destroyItem_eq (ho : h.shelf.Orderly om) {bag slot g : Nat} (hg : h.getItemByPos pl bag slot = some g) :
    h.destroyItem om pl bag slot = h.destroyAlone pl bag slot := by
  have hall : ∀ is : List Nat, h.isEquipped g = true → is.foldl (fun h i => h.destroyAlone pl slot i) h = h := by
    intro is heq
    obtain ⟨-, -, hslot, -⟩ := ho.itemAt_back pl bag slot g hg
    have hlt : slot < 19 := by
      unfold isEquipped at heq
      rw [Bool.and_eq_true, decide_eq_true_eq] at heq
      exact hslot ▸ heq.2
    have hnone : ∀ i, h.destroyAlone pl slot i = h := by
      intro i
      have hpos : h.getItemByPos pl slot i = none := by
        unfold getItemByPos
        rw [if_neg (by simp; omega), if_neg (by rw [isBagSlot_iff]; omega)]
      unfold destroyAlone
      rw [hpos]
    induction is with
    | nil => rfl
    | cons i is ih => rw [List.foldl_cons, hnone, ih]
  unfold destroyItem
  rw [hg]
  dsimp only
  split
  · next hbag => rw [hall _ hbag.2]
  · rfl

/-- **`DestroyItem`** of an item with nothing inside. -/
theorem destroyItem_spec (ho : h.shelf.Orderly om) {bag slot g : Nat} (hg : h.getItemByPos pl bag slot = some g)
    (he : h.shelf.Empty g) : Destroyed om h (h.destroyItem om pl bag slot) pl bag slot g := by
  rw [destroyItem_eq ho hg]
  exact destroyAlone_spec ho hg he

/-! ## What can be destroyed -/

/-- The units of an entry at a position that can be taken off. -/
def toTake (om : ObjectMgr) (v : FighterView) (h : Holdings) (pl item : Nat) (p : Nat × Nat) : Nat :=
  if h.canUnequipItem om v pl p.1 p.2 false = .ok then h.shelf.unitsAt pl item p.1 p.2 else 0

/-- All units that can be destroyed at the positions ahead. -/
def ahead (om : ObjectMgr) (v : FighterView) (h : Holdings) (pl item : Nat) (ps : List (Nat × Nat)) : Nat :=
  (ps.map (h.toTake om v pl item)).sum

theorem canUnequipItem_ok {bag slot : Nat} (heq : isEquipmentPos bag slot = false)
    (hbag : isBagPos bag slot = false) (swap : Bool) : h.canUnequipItem om v pl bag slot swap = .ok := by
  unfold canUnequipItem
  rw [if_pos ⟨heq, hbag⟩]

theorem canUnequipItem_inBag {bag : Nat} (hbag : bag ≠ inventorySlotBag0) (slot : Nat) :
    h.canUnequipItem om v pl bag slot false = .ok :=
  canUnequipItem_ok (by simp [isEquipmentPos, hbag]) (by simp [isBagPos, hbag]) false

theorem empty_of_canUnequip (ho : h.shelf.Orderly om) {bag slot g : Nat} (hg : h.getItemByPos pl bag slot = some g)
    (hcan : h.canUnequipItem om v pl bag slot false = .ok) : h.shelf.Empty g := by
  rcases Shelf.itemAt_eq_some h.shelf pl bag slot g hg with ⟨rfl, hown, hs⟩ | ⟨hbag, b, hs, -, hin⟩
  · by_cases hbag : isBagSlot slot = true
    · obtain ⟨⟨⟨-, -, proto, hproto, -, -, hnum⟩, hcontent⟩, -⟩ := ho.own pl slot g hown hs
      have hproto' : om.getItemPrototype (h.items g).entry = some proto := hproto
      have hpos : isBagPos inventorySlotBag0 slot = true := by
        rw [isBagSlot_iff] at hbag
        simp [isBagPos]
        omega
      unfold canUnequipItem at hcan
      rw [if_neg (fun hno => Bool.noConfusion (hpos.symm.trans hno.2)), hg] at hcan
      dsimp only at hcan
      rw [hproto'] at hcan
      dsimp only at hcan
      split at hcan
      · cases hcan
      split at hcan
      · cases hcan
      split at hcan
      · cases hcan
      split at hcan
      · cases hcan
      next hfull =>
      intro j
      cases hj : (h.shelf.goods g).bagslot j with
      | none => rfl
      | some k =>
        have hlt := (hcontent j k hj).1
        have hisbag : proto.inventoryType = invtypeBag := by
          by_contra hne
          rw [if_neg hne] at hnum
          omega
        refine absurd ⟨rfl, ?_, ?_⟩ hfull
        · simp [Item.isBag, hproto', hisbag]
        · refine Bool.eq_false_iff.2 fun hempty => ?_
          have hnone := List.all_eq_true.1 hempty j (List.mem_range.2 hlt)
          have hj' : (h.items g).bagslot j = some k := hj
          rw [hj'] at hnone
          cases hnone
    · exact ho.plain pl slot g hown (Bool.eq_false_iff.2 hbag) hs
  · exact ((ho.own pl bag b (Shelf.isOwnSlot_of_isBagSlot bag hbag) hs).1.content slot g hin).2.2.1

/-- **What can be taken off elsewhere** still can be when an item is destroyed. -/
theorem Destroyed.canUnequip {bag slot g : Nat} (hd : Destroyed om h t pl bag slot g) (ho : h.shelf.Orderly om)
    {p : Nat × Nat} (hne : p ≠ (bag, slot)) (hcan : h.canUnequipItem om v pl p.1 p.2 false = .ok) :
    t.canUnequipItem om v pl p.1 p.2 false = .ok := by
  obtain ⟨hat, hgoods⟩ := hd.elsewhere pl p.1 p.2 fun heq => hne (Prod.ext heq.2.1 heq.2.2)
  have hat' : t.getItemByPos pl p.1 p.2 = h.getItemByPos pl p.1 p.2 := hat
  cases hg : h.getItemByPos pl p.1 p.2 with
  | none =>
    unfold canUnequipItem
    rw [hat', hg]
    split <;> rfl
  | some x =>
    have hentry : (t.items x).entry = (h.items x).entry := (hgoods x hg).1
    have hempty : (t.items x).isEmpty = true := by
      refine List.all_eq_true.2 fun j _ => ?_
      have hnone : (t.items x).bagslot j = none := hd.empty x (empty_of_canUnequip ho hg hcan) j
      rw [hnone]
      rfl
    unfold canUnequipItem at hcan ⊢
    rw [hat', hg]
    rw [hg] at hcan
    dsimp only at hcan ⊢
    rw [hentry, hd.lootGenerated, hempty]
    split
    · rfl
    next hpos =>
    rw [if_neg hpos] at hcan
    split
    · next hproto =>
      rw [hproto] at hcan
      exact hcan
    · next proto hproto =>
      rw [hproto] at hcan
      dsimp only at hcan
      split at hcan
      · cases hcan
      next hloot =>
      split at hcan
      · cases hcan
      next hcombat =>
      split at hcan
      · cases hcan
      next harena =>
      rw [if_neg hloot, if_neg hcombat, if_neg harena, if_neg (by simp)]

theorem Destroyed.ahead_le {bag slot g : Nat} (hd : Destroyed om h t pl bag slot g) (ho : h.shelf.Orderly om)
    (item : Nat) {ps : List (Nat × Nat)} (hps : (bag, slot) ∉ ps) :
    h.ahead om v pl item ps ≤ t.ahead om v pl item ps := by
  unfold ahead
  refine List.sum_le_sum fun p hp => ?_
  have hne : p ≠ (bag, slot) := fun heq => hps (heq ▸ hp)
  unfold toTake
  split
  · next hcan =>
    rw [if_pos (hd.canUnequip ho hne hcan)]
    exact Nat.le_of_eq ((hd.elsewhere pl p.1 p.2 fun heq => hne (Prod.ext heq.2.1 heq.2.2)).unitsAt_eq item).symm
  · exact Nat.zero_le _

/-! ## The walk -/

/-- So many units of the entry are gone, and everything else is as it was. -/
structure Gone (om : ObjectMgr) (h : Holdings) (pl item count : Nat) (t : Holdings) : Prop where
  orderly : t.shelf.Orderly om
  total : ∀ p e, t.shelf.total p e + (if p = pl ∧ e = item then count else 0) = h.shelf.total p e

/-- What `DestroyItemCount` keeps, with the positions ahead of it. -/
structure Walks (om : ObjectMgr) (v : FighterView) (h : Holdings) (pl item count : Nat) (ps : List (Nat × Nat))
    (s : Holdings × Nat) : Prop where
  gone : Gone om h pl item s.2 s.1
  le : s.2 ≤ count
  nodup : ps.Nodup
  covers : count ≤ s.2 + s.1.ahead om v pl item ps

variable {item count : Nat} {ps qs : List (Nat × Nat)} {p : Nat × Nat} {s : Holdings × Nat}

theorem ahead_cons : h.ahead om v pl item (p :: ps) = h.toTake om v pl item p + h.ahead om v pl item ps := by
  unfold ahead
  rw [List.map_cons, List.sum_cons]

theorem ahead_append (ps' : List (Nat × Nat)) :
    h.ahead om v pl item (ps ++ ps') = h.ahead om v pl item ps + h.ahead om v pl item ps' := by
  unfold ahead
  rw [List.map_append, List.sum_append]

theorem Walks.pass (hw : Walks om v h pl item count (p :: ps) s) (hzero : s.1.toTake om v pl item p = 0) :
    Walks om v h pl item count ps s := by
  have hcovers := hw.covers
  rw [ahead_cons, hzero, Nat.zero_add] at hcovers
  exact ⟨hw.gone, hw.le, (List.nodup_cons.1 hw.nodup).2, hcovers⟩

theorem Gone.add {k : Holdings} {n m : Nat} (hg : Gone om h pl item n k) (ho : t.shelf.Orderly om)
    (ht : ∀ p e, t.shelf.total p e + (if p = pl ∧ e = item then m else 0) = k.shelf.total p e) :
    Gone om h pl item (n + m) t := by
  refine ⟨ho, fun p e => ?_⟩
  have h1 := hg.total p e
  have h2 := ht p e
  split at h1
  · next heq =>
    rw [if_pos heq] at h2 ⊢
    omega
  · next hne =>
    rw [if_neg hne] at h2 ⊢
    omega

theorem Gone.destroyed {k t : Holdings} {bag slot g n : Nat} (hg : Gone om h pl item n k)
    (hd : Destroyed om k t pl bag slot g) (hentry : (k.items g).entry = item) :
    Gone om h pl item (n + (k.items g).count) t := by
  refine hg.add hd.orderly fun p e => ?_
  rw [← hd.total p e]
  congr 1
  have hunit : k.shelf.unitsOf e g = if (k.items g).entry = e then (k.items g).count else 0 := rfl
  rw [hunit, hentry]
  by_cases hp : p = pl
  · simp [hp, eq_comm]
  · simp [hp]

theorem Gone.small {n : Nat} (hg : Gone om h pl item n t) (ho : h.shelf.Orderly om) :
    n ≤ 118 * (255 + 36 * 255) := by
  have htotal := hg.total pl item
  rw [if_pos ⟨rfl, rfl⟩] at htotal
  have hmax := ho.total_le pl item
  omega

theorem stack_bounds (ho : h.shelf.Orderly om) {bag slot g : Nat} (hg : h.getItemByPos pl bag slot = some g) :
    0 < (h.items g).count ∧ (h.items g).count ≤ 255 := by
  obtain ⟨proto, -, hpos, hle, -⟩ := (ho.itemAt_back pl bag slot g hg).1.proto
  exact ⟨hpos, le_trans hle proto.stackable_le⟩

theorem toTake_le (h : Holdings) (p : Nat × Nat) : h.toTake om v pl item p ≤ h.shelf.unitsAt pl item p.1 p.2 := by
  unfold toTake
  split
  · exact Nat.le_refl _
  · exact Nat.zero_le _

theorem toTake_ok {bag slot : Nat} (hcan : h.canUnequipItem om v pl bag slot false = .ok) :
    h.toTake om v pl item (bag, slot) = h.shelf.unitsAt pl item bag slot := if_pos hcan

theorem unitsAt_own (slot : Nat) :
    h.shelf.unitsAt pl item inventorySlotBag0 slot = h.shelf.unitsIn item (h.ownItem pl slot) := by
  unfold Shelf.unitsAt
  rw [Shelf.itemAt_own]
  rfl

theorem unitsAt_of_some {bag slot g : Nat} (hg : h.getItemByPos pl bag slot = some g) :
    h.shelf.unitsAt pl item bag slot = if (h.items g).entry = item then (h.items g).count else 0 := by
  have hat : h.shelf.itemAt pl bag slot = some g := hg
  unfold Shelf.unitsAt
  rw [hat]
  rfl

theorem destroyed_walks {k t : Holdings} {bag slot g remcount : Nat}
    (hw : Walks om v h pl item count ((bag, slot) :: ps) (k, remcount)) (hg : k.getItemByPos pl bag slot = some g)
    (hentry : (k.items g).entry = item) (hfits : (k.items g).count + remcount ≤ count)
    (hd : Destroyed om k t pl bag slot g) :
    Walks om v h pl item count ps (t, remcount + (k.items g).count) := by
  obtain ⟨hnew, hnodup⟩ := List.nodup_cons.1 hw.nodup
  have hcovers : count ≤ remcount + k.ahead om v pl item ((bag, slot) :: ps) := hw.covers
  rw [ahead_cons] at hcovers
  have hunits : k.toTake om v pl item (bag, slot) ≤ k.shelf.unitsAt pl item bag slot := toTake_le k (bag, slot)
  rw [unitsAt_of_some hg, if_pos hentry] at hunits
  have hahead := hd.ahead_le (v := v) hw.gone.orderly item hnew
  refine ⟨hw.gone.destroyed hd hentry, ?_, hnodup, ?_⟩
  · show remcount + (k.items g).count ≤ count
    omega
  · show count ≤ remcount + (k.items g).count + t.ahead om v pl item ps
    omega

theorem shelf_lessened {k : Holdings} {bag slot g : Nat} (ho : k.shelf.Orderly om)
    (hg : k.getItemByPos pl bag slot = some g) (left : Nat) :
    ((k.modify g fun it => { it with count := left }).setState pl g .changed).shelf = k.shelf.setCount g left := by
  have hkept := (ho.itemAt_back pl bag slot g hg).1.kept
  rw [shelf_setState_changed]
  · exact k.shelf_modify g _ (fun x => { x with count := left }) rfl
  · simpa [modify, Item.goods] using hkept

theorem left_eq {n remcount : Nat} (hn : n ≤ 255) (hsmall : remcount ≤ 118 * (255 + 36 * 255))
    (hle : remcount ≤ count) (hmore : count < n + remcount) : u32 (sub32 n count + remcount) = n + remcount - count := by
  unfold sub32 u32
  split
  · rw [Nat.mod_eq_of_lt (by omega)]
    omega
  · have hwrap : n + 4294967296 - count + remcount = n + remcount - count + 4294967296 := by omega
    rw [hwrap, Nat.add_mod_right, Nat.mod_eq_of_lt (by omega)]

theorem modify_left {k : Holdings} {g remcount : Nat} (hmore : count < (k.items g).count + remcount)
    (hn : (k.items g).count ≤ 255) (hsmall : remcount ≤ 118 * (255 + 36 * 255)) (hle : remcount ≤ count) :
    (k.modify g fun it => { it with count := u32 (sub32 it.count count + remcount) }) =
      k.modify g fun it => { it with count := (k.items g).count + remcount - count } := by
  unfold modify
  dsimp only
  rw [left_eq hn hsmall hle hmore]

theorem lessened_gone {k : Holdings} {bag slot g remcount : Nat} (ho : k.shelf.Orderly om)
    (hgone : Gone om h pl item remcount k) (hg : k.getItemByPos pl bag slot = some g)
    (hentry : (k.items g).entry = item) (hle : remcount ≤ count) (hmore : count < (k.items g).count + remcount) :
    Gone om h pl item count
      ((k.modify g fun it => { it with count := (k.items g).count + remcount - count }).setState pl g .changed) := by
  have hat : k.shelf.itemAt pl bag slot = some g := hg
  obtain ⟨-, -, proto, hproto, -, hstack, -⟩ := (ho.itemAt_back pl bag slot g hat).1
  have hstack : (k.items g).count ≤ proto.stackable := hstack
  generalize hleft : (k.items g).count + remcount - count = left
  have hshelf := shelf_lessened ho hg left
  have horder : (k.shelf.setCount g left).Orderly om := by
    refine Shelf.setCount_orderly ho g left (by omega) fun proto' hproto' => ?_
    obtain rfl : proto = proto' := Option.some.inj (hproto.symm.trans hproto')
    omega
  have hsum : count = remcount + (count - remcount) := by omega
  rw [hsum]
  refine hgone.add (by rw [hshelf]; exact horder) fun p e => ?_
  have htotal := Shelf.total_setCount ho pl bag slot g left hat p e
  have hentry' : (k.shelf.goods g).entry = item := hentry
  have hcount : (k.shelf.goods g).count = (k.items g).count := rfl
  rw [hentry', hcount] at htotal
  rw [hshelf]
  split at htotal
  · next heq =>
    rw [if_pos heq]
    omega
  · next hne =>
    rw [if_neg hne]
    omega

/-- **A turn of the walk.** -/
theorem destroyTurn_walks {check : Bool} (ho : h.shelf.Orderly om) (hw : Walks om v h pl item count (p :: ps) s)
    (hcheck : check = false → s.1.canUnequipItem om v pl p.1 p.2 false = .ok) :
    EarlyReturn.Meets (destroyTurn om v pl item count check p s) (Walks om v h pl item count ps)
      (Gone om h pl item count) := by
  obtain ⟨k, remcount⟩ := s
  obtain ⟨bag, slot⟩ := p
  have hok : k.shelf.Orderly om := hw.gone.orderly
  have hle : remcount ≤ count := hw.le
  have hsmall : remcount ≤ 118 * (255 + 36 * 255) := hw.gone.small ho
  unfold destroyTurn
  dsimp only at hcheck ⊢
  cases hg : k.getItemByPos pl bag slot with
  | none =>
    refine hw.pass (Nat.le_zero.1 ((toTake_le k (bag, slot)).trans (Nat.le_of_eq ?_)))
    exact Shelf.unitsAt_none _ _ _ _ _ hg
  | some g =>
    have hunits : k.shelf.unitsAt pl item bag slot = if (k.items g).entry = item then (k.items g).count else 0 :=
      unitsAt_of_some hg
    have hstack := (stack_bounds hok hg).2
    dsimp only
    by_cases hentry : (k.items g).entry = item
    swap
    · rw [if_neg hentry] at hunits ⊢
      exact hw.pass (Nat.le_zero.1 (hunits ▸ toTake_le k (bag, slot)))
    rw [if_pos hentry, u32_eq _ (by omega), u32_eq _ (by omega)]
    split
    · next hfits =>
      split
      · next hcan =>
        have hcan' : k.canUnequipItem om v pl bag slot false = .ok := hcan.elim hcheck id
        have hd := destroyItem_spec hok hg (empty_of_canUnequip hok hg hcan')
        have hwalks := destroyed_walks hw hg hentry hfits hd
        split
        · next hdone =>
          have hsum : remcount + (k.items g).count = count := by omega
          exact hsum ▸ hwalks.gone
        · exact hwalks
      · next hcan =>
        refine hw.pass ?_
        unfold toTake
        rw [if_neg fun hok => hcan (.inr hok)]
    · next hmore =>
      rw [modify_left (Nat.lt_of_not_le hmore) hstack hsmall hle]
      exact lessened_gone hok hw.gone hg hentry hle (Nat.lt_of_not_le hmore)

/-! ### Along the loops -/

/-- The positions of own slots. -/
def walkedOwn (slots : List Nat) : List (Nat × Nat) := slots.map fun slot => (inventorySlotBag0, slot)

/-- The positions in a bag. -/
def walkedBag (bag : Nat) : List (Nat × Nat) := (List.range maxBagSize).map fun j => (bag, j)

/-- All that `DestroyItemCount` goes through, in its order. -/
def walked : List (Nat × Nat) :=
  walkedOwn (List.range' 23 16 ++ List.range' 86 32) ++
    ((List.range' 19 4).flatMap walkedBag ++ walkedOwn (List.range 23))

theorem walkedOwn_nodup {slots : List Nat} (h : slots.Nodup) : (walkedOwn slots).Nodup :=
  h.map fun _ _ heq => congrArg Prod.snd heq

theorem mem_walkedOwn {slots : List Nat} {p : Nat × Nat} :
    p ∈ walkedOwn slots ↔ p.1 = inventorySlotBag0 ∧ p.2 ∈ slots := by
  unfold walkedOwn
  rw [List.mem_map]
  constructor
  · rintro ⟨slot, hslot, rfl⟩
    exact ⟨rfl, hslot⟩
  · rintro ⟨hbag, hslot⟩
    exact ⟨p.2, hslot, Prod.ext hbag.symm rfl⟩

theorem mem_walkedBag {bags : List Nat} {p : Nat × Nat} (h : p ∈ bags.flatMap walkedBag) : p.1 ∈ bags := by
  obtain ⟨bag, hbag, hp⟩ := List.mem_flatMap.1 h
  obtain ⟨j, -, rfl⟩ := List.mem_map.1 hp
  exact hbag

theorem walked_nodup : walked.Nodup := by
  have hown : (List.range' 23 16 ++ List.range' 86 32).Nodup := by decide
  have hbags : ((List.range' 19 4).flatMap walkedBag).Nodup := by
    refine List.nodup_flatMap.2 ⟨fun bag _ => List.nodup_range.map fun _ _ heq => congrArg Prod.snd heq, ?_⟩
    have hbags : (List.range' 19 4).Pairwise (· ≠ ·) := by decide
    refine hbags.imp fun {bag bag'} hne p hp hp' => hne ?_
    obtain ⟨j, -, rfl⟩ := List.mem_map.1 hp
    obtain ⟨j', -, heq⟩ := List.mem_map.1 hp'
    exact (congrArg Prod.fst heq).symm
  unfold walked
  refine List.nodup_append'.2 ⟨walkedOwn_nodup hown, List.nodup_append'.2 ⟨hbags,
    walkedOwn_nodup List.nodup_range, ?_⟩, ?_⟩
  · intro p hp hp'
    have hbag := mem_walkedBag hp
    rw [(mem_walkedOwn.1 hp').1] at hbag
    simp at hbag
  · intro p hp hp'
    obtain ⟨hbag0, hslot⟩ := mem_walkedOwn.1 hp
    rcases List.mem_append.1 hp' with hin | hin
    · have hbag := mem_walkedBag hin
      rw [hbag0] at hbag
      simp at hbag
    · have hslot' := (mem_walkedOwn.1 hin).2
      simp [List.mem_range'] at hslot hslot'
      omega

/-! ### The loops -/

theorem own_walks {check : Bool} {slots : List Nat} (ho : h.shelf.Orderly om)
    (hw : Walks om v h pl item count (walkedOwn slots ++ ps) s)
    (hslots : check = false → ∀ slot ∈ slots, isEquipmentPos inventorySlotBag0 slot = false ∧
      isBagPos inventorySlotBag0 slot = false) :
    EarlyReturn.Meets
      (EarlyReturn.forEach (fun slot => destroyTurn om v pl item count check (inventorySlotBag0, slot)) slots s)
      (Walks om v h pl item count ps) (Gone om h pl item count) := by
  refine EarlyReturn.Meets.forEach (I := fun slots s => (check = false → ∀ slot ∈ slots,
    isEquipmentPos inventorySlotBag0 slot = false ∧ isBagPos inventorySlotBag0 slot = false) ∧
      Walks om v h pl item count (walkedOwn slots ++ ps) s) ⟨hslots, hw⟩ ?_ |>.imp fun s hs => hs.2
  rintro slot slots s ⟨hslots, hw⟩
  refine (destroyTurn_walks ho hw fun hcheck => ?_).imp fun s hs =>
    ⟨fun hcheck slot hslot => hslots hcheck slot (List.mem_cons_of_mem _ hslot), hs⟩
  obtain ⟨heq, hbag⟩ := hslots hcheck slot List.mem_cons_self
  exact canUnequipItem_ok heq hbag false

theorem unitsAt_beyond {bag j : Nat} (hbag : bag ≠ inventorySlotBag0)
    (hj : ∀ b, h.ownItem pl bag = some b → (h.items b).numSlots ≤ j) : h.shelf.unitsAt pl item bag j = 0 := by
  refine Shelf.unitsAt_none _ _ _ _ _ ?_
  show h.getItemByPos pl bag j = none
  unfold getItemByPos
  rw [if_neg hbag]
  split
  · cases hb : h.ownItem pl bag with
    | none => rfl
    | some b => exact if_neg (Nat.not_lt.2 (hj b hb))
  · rfl

theorem toTake_beyond {bag j : Nat} (hbag : bag ≠ inventorySlotBag0)
    (hj : ∀ b, h.ownItem pl bag = some b → (h.items b).numSlots ≤ j) : h.toTake om v pl item (bag, j) = 0 :=
  Nat.le_zero.1 ((toTake_le h (bag, j)).trans (Nat.le_of_eq (unitsAt_beyond hbag hj)))

theorem Walks.omit (rs : List (Nat × Nat)) (hw : Walks om v h pl item count (rs ++ (qs ++ ps)) s)
    (hqs : ∀ q ∈ qs, s.1.toTake om v pl item q = 0) : Walks om v h pl item count (rs ++ ps) s := by
  have hzero : s.1.ahead om v pl item qs = 0 := by
    refine List.sum_eq_zero fun n hn => ?_
    obtain ⟨q, hq, rfl⟩ := List.mem_map.1 hn
    exact hqs q hq
  have hcovers := hw.covers
  rw [ahead_append, ahead_append, hzero, Nat.zero_add, ← ahead_append] at hcovers
  exact ⟨hw.gone, hw.le, hw.nodup.sublist ((List.sublist_append_right qs ps).append_left rs), hcovers⟩

theorem walkedBag_split {bag b : Nat} (ho : h.shelf.Orderly om) (hb : h.ownItem pl bag = some b) :
    ∃ n, walkedBag bag = (List.range (h.items b).numSlots).map (fun j => (bag, j)) ++
      (List.range n).map fun j => (bag, (h.items b).numSlots + j) := by
  obtain ⟨hown, hs⟩ := Shelf.own_eq_some h.shelf pl bag b hb
  obtain ⟨proto, -, -, -, hnum⟩ := (ho.own pl bag b hown hs).1.stacked.proto
  have hsize : (h.items b).numSlots ≤ maxBagSize := by
    have hmax := proto.containerSlots_le
    have hnum' : (h.items b).numSlots = if proto.inventoryType = invtypeBag then proto.containerSlots else 0 := hnum
    split at hnum' <;> omega
  obtain ⟨n, hn⟩ : ∃ n, maxBagSize = (h.items b).numSlots + n := ⟨_, (Nat.add_sub_of_le hsize).symm⟩
  refine ⟨n, ?_⟩
  unfold walkedBag
  rw [hn, List.range_add, List.map_append, List.map_map]
  rfl

theorem destroyInBag_walks {bag : Nat} (ho : h.shelf.Orderly om) (hbag : bag ≠ inventorySlotBag0)
    (hw : Walks om v h pl item count (walkedBag bag ++ ps) s) :
    EarlyReturn.Meets (destroyInBag om v pl item count bag s) (Walks om v h pl item count ps)
      (Gone om h pl item count) := by
  unfold destroyInBag
  cases hb : s.1.ownItem pl bag with
  | none =>
    have hnone : Walks om v h pl item count ([] ++ (walkedBag bag ++ ps)) s := hw
    refine hnone.omit [] fun q hq => ?_
    obtain ⟨j, -, rfl⟩ := List.mem_map.1 hq
    exact toTake_beyond hbag fun b hb' => nomatch hb.symm.trans hb'
  | some b =>
    obtain ⟨n, hsplit⟩ := walkedBag_split hw.gone.orderly hb
    rw [hsplit, List.append_assoc] at hw
    have hwalks := hw.omit ((List.range (s.1.items b).numSlots).map fun j => (bag, j)) fun q hq => by
      obtain ⟨j, -, rfl⟩ := List.mem_map.1 hq
      refine toTake_beyond hbag fun b' hb' => ?_
      obtain rfl : b = b' := Option.some.inj (hb.symm.trans hb')
      exact Nat.le_add_right _ _
    refine EarlyReturn.Meets.forEach
      (I := fun js s => Walks om v h pl item count (js.map (fun j => (bag, j)) ++ ps) s) hwalks ?_
    exact fun j js s hw => destroyTurn_walks ho hw fun _ => canUnequipItem_inBag hbag j

theorem bags_walk {bags : List Nat} (ho : h.shelf.Orderly om) (hbags : inventorySlotBag0 ∉ bags)
    (hw : Walks om v h pl item count (bags.flatMap walkedBag ++ ps) s) :
    EarlyReturn.Meets (EarlyReturn.forEach (destroyInBag om v pl item count) bags s)
      (Walks om v h pl item count ps) (Gone om h pl item count) := by
  refine EarlyReturn.Meets.forEach (I := fun bags s => inventorySlotBag0 ∉ bags ∧
    Walks om v h pl item count (bags.flatMap walkedBag ++ ps) s) ⟨hbags, hw⟩ ?_ |>.imp fun s hs => hs.2
  rintro bag bags s ⟨hbags, hw⟩
  rw [List.mem_cons, not_or] at hbags
  rw [List.flatMap_cons, List.append_assoc] at hw
  exact (destroyInBag_walks ho (Ne.symm hbags.1) hw).imp fun s hs => ⟨hbags.2, hs⟩

theorem unworn_slots {slot : Nat} (hslot : slot ∈ List.range' 23 16 ++ List.range' 86 32) :
    isEquipmentPos inventorySlotBag0 slot = false ∧ isBagPos inventorySlotBag0 slot = false := by
  have hslot : 23 ≤ slot ∧ slot < 39 ∨ 86 ≤ slot := by
    rcases List.mem_append.1 hslot with hin | hin
    · obtain ⟨i, hi, rfl⟩ := List.mem_range'.1 hin
      omega
    · obtain ⟨i, hi, rfl⟩ := List.mem_range'.1 hin
      omega
  simp [isEquipmentPos, isBagPos]
  omega

/-- **`DestroyItemCount`** destroys what is asked for, if so much can be destroyed. -/
theorem destroyItemCount_gone (ho : h.shelf.Orderly om) (hcovers : count ≤ h.ahead om v pl item walked) :
    Gone om h pl item count (h.destroyItemCount om v pl item count true) := by
  have hstart : Walks om v h pl item count walked (h, 0) :=
    ⟨⟨ho, fun p e => by simp⟩, Nat.zero_le _, walked_nodup, by rwa [Nat.zero_add]⟩
  unfold destroyItemCount
  refine EarlyReturn.Meets.result (Q := Walks om v h pl item count []) ?_ fun s hs => ?_
  · refine (own_walks ho hstart fun _ slot hslot => unworn_slots hslot).bind fun s hs =>
      (bags_walk ho (by decide) hs).bind fun s hs => ?_
    rw [← List.append_nil (walkedOwn _)] at hs
    exact own_walks ho hs fun hfalse => nomatch hfalse
  · have hcovers := hs.covers
    have hle := hs.le
    have hdone : s.2 = count := by
      unfold ahead at hcovers
      simp at hcovers
      omega
    exact hdone ▸ hs.gone

/-! ## What the checks promise -/

/-- The units among what lookups found. -/
def unitsFound (h : Holdings) (item : Nat) (its : List (Option Nat)) : Nat :=
  (its.map (h.shelf.unitsIn item)).sum

theorem unitsFound_append (its its' : List (Option Nat)) :
    h.unitsFound item (its ++ its') = h.unitsFound item its + h.unitsFound item its' := by
  unfold unitsFound
  rw [List.map_append, List.sum_append]

theorem unitsFound_cons (it : Option Nat) (its : List (Option Nat)) :
    h.unitsFound item (it :: its) = h.shelf.unitsIn item it + h.unitsFound item its := by
  unfold unitsFound
  rw [List.map_cons, List.sum_cons]

theorem unitsIn_some (g : Nat) :
    h.shelf.unitsIn item (some g) = if (h.items g).entry = item then (h.items g).count else 0 := rfl

theorem le_of_reaches {its : List (Option Nat)} {tempcount : Nat} (hr : h.reaches item count tempcount its = true) :
    count ≤ tempcount + h.unitsFound item its := by
  induction its generalizing tempcount with
  | nil => cases hr
  | cons it its ih =>
    rw [unitsFound_cons]
    cases it with
    | none =>
      have hle := ih hr
      omega
    | some g =>
      rw [unitsIn_some]
      unfold reaches at hr
      by_cases hentry : (h.items g).entry = item
      · rw [if_pos hentry] at hr ⊢
        have hu := u32_le (tempcount + (h.items g).count)
        dsimp only at hr
        split at hr
        · omega
        · have hle := ih hr
          omega
      · rw [if_neg hentry] at hr ⊢
        have hle := ih hr
        omega

theorem unitsFound_own {slots : List Nat}
    (hcan : ∀ slot ∈ slots, h.canUnequipItem om v pl inventorySlotBag0 slot false = .ok) :
    h.unitsFound item (slots.map (h.ownItem pl)) = h.ahead om v pl item (walkedOwn slots) := by
  unfold unitsFound ahead walkedOwn
  rw [List.map_map, List.map_map]
  congr 1
  refine List.map_congr_left fun slot hslot => ?_
  rw [Function.comp_apply, Function.comp_apply, toTake_ok (hcan slot hslot)]
  exact (unitsAt_own slot).symm

theorem unitsFound_bagItems {bag : Nat} (ho : h.shelf.Orderly om) (hbag : bag ≠ inventorySlotBag0) :
    h.unitsFound item (h.bagItems pl bag) ≤ h.ahead om v pl item (walkedBag bag) := by
  unfold bagItems
  cases hb : h.ownItem pl bag with
  | none => exact Nat.zero_le _
  | some b =>
    obtain ⟨n, hsplit⟩ := walkedBag_split ho hb
    rw [hsplit, ahead_append]
    refine Nat.le_trans (Nat.le_of_eq ?_) (Nat.le_add_right _ _)
    unfold unitsFound ahead
    rw [List.map_map, List.map_map]
    congr 1
    refine List.map_congr_left fun j _ => ?_
    rw [Function.comp_apply, Function.comp_apply, toTake_ok (canUnequipItem_inBag hbag j)]
    rfl

theorem unitsFound_bags {bags : List Nat} (ho : h.shelf.Orderly om) (hbags : inventorySlotBag0 ∉ bags) :
    h.unitsFound item (bags.flatMap (h.bagItems pl)) ≤ h.ahead om v pl item (bags.flatMap walkedBag) := by
  induction bags with
  | nil => exact Nat.zero_le _
  | cons bag bags ih =>
    rw [List.mem_cons, not_or] at hbags
    rw [List.flatMap_cons, List.flatMap_cons, unitsFound_append, ahead_append]
    exact Nat.add_le_add (unitsFound_bagItems ho (Ne.symm hbags.1)) (ih hbags.2)

/-- What the loop over the equipment of `CanUnequipItems` promises. -/
def WornPromise (om : ObjectMgr) (v : FighterView) (h : Holdings) (pl item count : Nat) (is : List Nat)
    (tempcount : Nat) (res : UnequipErr) : Option (Nat × UnequipErr) → Prop
  | none => count ≤ tempcount + h.ahead om v pl item (walkedOwn is)
  | some (tempcount', res') => tempcount' ≤ tempcount + h.ahead om v pl item (walkedOwn is) ∧
      (res' = .ok → res = .ok ∧ h.unitsFound item (is.map (h.ownItem pl)) = h.ahead om v pl item (walkedOwn is))

theorem WornPromise.cons {i tempcount' : Nat} {is : List Nat} {tempcount : Nat} {res res' : UnequipErr}
    {r : Option (Nat × UnequipErr)} (hp : WornPromise om v h pl item count is tempcount' res' r)
    (htemp : tempcount' ≤ tempcount + h.toTake om v pl item (inventorySlotBag0, i))
    (hres : res' = .ok → res = .ok ∧
      h.shelf.unitsIn item (h.ownItem pl i) = h.toTake om v pl item (inventorySlotBag0, i)) :
    WornPromise om v h pl item count (i :: is) tempcount res r := by
  have hahead : h.ahead om v pl item (walkedOwn (i :: is)) =
      h.toTake om v pl item (inventorySlotBag0, i) + h.ahead om v pl item (walkedOwn is) := ahead_cons
  cases r with
  | none =>
    have hle : count ≤ tempcount' + h.ahead om v pl item (walkedOwn is) := hp
    show count ≤ tempcount + h.ahead om v pl item (walkedOwn (i :: is))
    omega
  | some r =>
    obtain ⟨hle, hall⟩ := hp
    refine ⟨by omega, fun hok => ?_⟩
    obtain ⟨hok', hfound⟩ := hall hok
    obtain ⟨hok'', hunits⟩ := hres hok'
    refine ⟨hok'', ?_⟩
    rw [List.map_cons, unitsFound_cons, hunits, hfound, hahead]

theorem unequipsWorn_promise (is : List Nat) (tempcount : Nat) (res : UnequipErr) :
    WornPromise om v h pl item count is tempcount res (h.unequipsWorn om v pl item count tempcount res is) := by
  induction is generalizing tempcount res with
  | nil => exact ⟨Nat.le_add_right _ _, fun hres => ⟨hres, rfl⟩⟩
  | cons i is ih =>
    have hzero : h.shelf.unitsIn item (h.ownItem pl i) = 0 →
        h.shelf.unitsIn item (h.ownItem pl i) = h.toTake om v pl item (inventorySlotBag0, i) := by
      intro hunits
      have htake : h.toTake om v pl item (inventorySlotBag0, i) ≤ h.shelf.unitsIn item (h.ownItem pl i) :=
        (toTake_le h _).trans (Nat.le_of_eq (unitsAt_own i))
      omega
    unfold unequipsWorn
    cases hi : h.ownItem pl i with
    | none =>
      have hunits : h.shelf.unitsIn item (h.ownItem pl i) = 0 := by rw [hi]; rfl
      exact (ih tempcount res).cons (Nat.le_add_right _ _) fun hres => ⟨hres, hzero hunits⟩
    | some g =>
      have hunits : h.shelf.unitsIn item (h.ownItem pl i) =
          if (h.items g).entry = item then (h.items g).count else 0 := by rw [hi]; rfl
      dsimp only
      by_cases hentry : (h.items g).entry = item
      swap
      · rw [if_neg hentry] at hunits ⊢
        exact (ih tempcount res).cons (Nat.le_add_right _ _) fun hres => ⟨hres, hzero hunits⟩
      rw [if_pos hentry] at hunits ⊢
      split
      · next hcan =>
        have htake : h.toTake om v pl item (inventorySlotBag0, i) = h.shelf.unitsIn item (h.ownItem pl i) :=
          (toTake_ok hcan).trans (unitsAt_own i)
        have hu := u32_le (tempcount + (h.items g).count)
        split
        · have hahead : h.ahead om v pl item (walkedOwn (i :: is)) =
            h.toTake om v pl item (inventorySlotBag0, i) + h.ahead om v pl item (walkedOwn is) := ahead_cons
          show count ≤ tempcount + h.ahead om v pl item (walkedOwn (i :: is))
          omega
        · exact (ih _ res).cons (by omega) fun hres => ⟨hres, htake.symm⟩
      · next hcan =>
        exact (ih tempcount _).cons (Nat.le_add_right _ _) fun hres => absurd hres hcan

/-- **The two checks** promise that so much can be destroyed. -/
theorem le_ahead_of_checks (ho : h.shelf.Orderly om) (hhas : h.hasItemCount pl item count false = true)
    (hcan : h.canUnequipItems om v pl item count = .ok) : count ≤ h.ahead om v pl item walked := by
  have hplain : h.unitsFound item ((List.range' 23 16 ++ List.range' 86 32).map (h.ownItem pl)) =
      h.ahead om v pl item (walkedOwn (List.range' 23 16 ++ List.range' 86 32)) :=
    unitsFound_own fun slot hslot => canUnequipItem_ok (unworn_slots hslot).1 (unworn_slots hslot).2 false
  have hbags : h.unitsFound item ((List.range' 19 4).flatMap (h.bagItems pl)) ≤
      h.ahead om v pl item ((List.range' 19 4).flatMap walkedBag) := unitsFound_bags ho (by decide)
  have hworn : WornPromise om v h pl item count (List.range 23) 0 .ok
      (h.unequipsWorn om v pl item count 0 .ok (List.range 23)) := unequipsWorn_promise _ _ _
  unfold walked
  rw [ahead_append, ahead_append]
  unfold canUnequipItems at hcan
  cases hr : h.unequipsWorn om v pl item count 0 .ok (List.range 23) with
  | none =>
    rw [hr] at hworn
    have hle : count ≤ 0 + h.ahead om v pl item (walkedOwn (List.range 23)) := hworn
    omega
  | some r =>
    obtain ⟨tempcount, res⟩ := r
    rw [hr] at hworn hcan
    obtain ⟨htemp, hall⟩ := hworn
    dsimp only at hcan
    split at hcan
    · next hreach =>
      have hle := le_of_reaches hreach
      rw [unitsFound_append] at hle
      omega
    · -- all that is worn can be taken off, so what there is can be destroyed
      have hsum := (hall hcan).2
      have hle := le_of_reaches hhas
      have hrange : List.range 39 ++ List.range' 86 32 = List.range 23 ++ (List.range' 23 16 ++ List.range' 86 32) := by
        decide
      simp only [Bool.false_eq_true, if_false, List.append_nil] at hle
      rw [hrange, List.map_append, unitsFound_append, unitsFound_append, hsum, hplain] at hle
      omega

end

/-- **`DestroyItemCount` after the checks**: exactly so many units of the entry are destroyed, and nothing
else. -/
theorem destroyItemCount_exact (om : ObjectMgr) (v : FighterView) (h : Holdings) (pl item count : Nat)
    (ho : h.shelf.Orderly om) (hhas : h.hasItemCount pl item count false = true)
    (hcan : h.canUnequipItems om v pl item count = .ok) :
    (h.destroyItemCount om v pl item count true).shelf.total pl item + count = h.shelf.total pl item ∧
      ∀ p e, ¬ (p = pl ∧ e = item) →
        (h.destroyItemCount om v pl item count true).shelf.total p e = h.shelf.total p e := by
  have hgone := destroyItemCount_gone ho (le_ahead_of_checks ho hhas hcan)
  refine ⟨?_, fun p e hne => ?_⟩
  · have htotal := hgone.total pl item
    rwa [if_pos ⟨rfl, rfl⟩] at htotal
  · have htotal := hgone.total p e
    rwa [if_neg hne, Nat.add_zero] at htotal

/-- Twelve of a stack of twenty. -/
theorem destroyItemCount_exact_sample :
    (sampleHoldings.destroyItemCount sampleMgr ⟨true, false⟩ 1 4 12 true).shelf.total 1 4 + 12 =
      sampleHoldings.shelf.total 1 4 :=
  (destroyItemCount_exact sampleMgr ⟨true, false⟩ sampleHoldings 1 4 12 sampleHoldings_orderly.1
    (by decide) (by decide)).1

end Holdings

end BlizzLike
