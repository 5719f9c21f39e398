import BlizzLikeCore.Inventory.Transfer
import BlizzLikeCore.Lib.Transition

/-!
# The update queue and the tables

`SetState` notes what has become of an item and puts it into its owner's queue, and the item keeps its
position there; `_SaveInventory` goes over the queue and brings `character_inventory` and `item_instance`
up to date (`tables_follow`).  No more than 32768 positions fit into an item.
-/

namespace BlizzLike

open Holdings

/-- A row of `character_inventory`. -/
structure InventoryRow where
  guid : Nat
  bag : Nat
  slot : Nat
  item_template : Nat

/-- The values of an object that a load reads: what is in a bag comes from `character_inventory`. -/
def Item.data (it : Item) : Item :=
  { it with live := true, slot := 0, container := none, lootGenerated := false, inTrade := false
            uState := .unchanged, uQueuePos := -1, bagslot := fun _ => none }

/-- The items and the two tables, by the guid of the item. -/
structure ItemTables where
  inv : Holdings := {}
  character_inventory : Nat → Option InventoryRow := fun _ => none
  item_instance : Nat → Option Item := fun _ => none

inductive ItemRequest where
  | add (g : Nat) (it : Item)
  | edit (g : Nat) (f : Item → Item)
  | arrange (slots : Nat → Option Nat) (bagslots : Nat → Nat → Option Nat)
  | remove (g : Nat)
  | save

namespace ItemTables

variable (pl : Nat) (w : ItemTables) (g : Nat)

def row (it : Item) : InventoryRow :=
  { guid := pl, bag := it.container.getD 0, slot := it.slot, item_template := it.entry }

/-- `Item::SaveToDB`; texts and gifts are left out. -/
def saveToDB : ItemTables :=
  match (w.inv.items g).uState with
  | .new =>
    { w with inv := w.inv.setState pl g .unchanged
             item_instance := Function.update w.item_instance g (some (w.inv.items g).data) }
  | .changed =>
    { w with
      inv := w.inv.setState pl g .unchanged
      item_instance := Function.update w.item_instance g
        ((w.item_instance g).map fun _ => (w.inv.items g).data) }
  | .removed => { w with inv := w.inv.deleteItem g, item_instance := Function.update w.item_instance g none }
  | .unchanged => { w with inv := w.inv.setState pl g .unchanged }

/-- The switch of `_SaveInventory`. -/
def saveRow : ItemTables :=
  match (w.inv.items g).uState with
  | .new =>
    { w with character_inventory := Function.update w.character_inventory g (some (row pl (w.inv.items g))) }
  | .changed =>
    { w with character_inventory := Function.update w.character_inventory g
               ((w.character_inventory g).map fun _ => row pl (w.inv.items g)) }
  | .removed => { w with character_inventory := Function.update w.character_inventory g none }
  | .unchanged => w

/-- The body of the loop over the queue. -/
def saveItem : ItemTables :=
  let it := w.inv.items g
  let bagSlot := w.inv.getBagSlot g
  if it.uState = .removed then (w.saveRow pl g).saveToDB pl g
  else
    match w.inv.getItemByPos pl bagSlot it.slot with
    | none =>
      -- the rows of the place are deleted, whoever has them
      let bag := (w.inv.getItemByPos pl inventorySlotBag0 bagSlot).getD 0
      let w1 := { w with
        character_inventory := fun k => (w.character_inventory k).filter fun r => !(r.bag == bag && r.slot == it.slot)
        inv := w.inv.modify g fun it => { it with uState := .removed } }
      (w1.saveRow pl g).saveToDB pl g
    | some test =>
      if test = g then (w.saveRow pl g).saveToDB pl g
      else if it.uState ≠ .new then w.saveToDB pl g else w

/-- `_SaveInventory`, from the test of the queue on. -/
def saveInventory : ItemTables :=
  let w1 := ((w.inv.itemUpdateQueue pl).filterMap id).foldl (saveItem pl) w
  { w1 with inv := { w1.inv with itemUpdateQueue := Function.update w1.inv.itemUpdateQueue pl [] } }

/-- The item is an object of the player's. -/
def Owned : Prop := (w.inv.items g).live = true ∧ (w.inv.items g).owner = pl

instance : Decidable (w.Owned pl g) := inferInstanceAs (Decidable (_ ∧ _))

/-- A change of the items, and the `SetState` that goes with it. -/
def step : ItemRequest → ItemTables
  | .add g it =>
    -- a new object has a guid of its own
    if (w.inv.items g).live then w
    else
      let fresh := { it with live := true, owner := pl, uState := .new, uQueuePos := -1 }
      { w with inv := { w.inv with items := Function.update w.inv.items g fresh }.setState pl g .changed }
  | .edit g f =>
    if w.Owned pl g ∧ (w.inv.items g).uState ≠ .removed then
      let it := w.inv.items g
      let edited := { f it with live := it.live, owner := it.owner, uState := it.uState, uQueuePos := it.uQueuePos }
      { w with inv := { w.inv with items := Function.update w.inv.items g edited }.setState pl g .changed }
    else w
  | .arrange slots bagslots =>
    { w with inv := { w.inv with
        slots := fun p s => if p = pl then slots s else w.inv.slots p s
        items := fun i => { w.inv.items i with bagslot := bagslots i } } }
  | .remove g => if w.Owned pl g then { w with inv := w.inv.setState pl g .removed } else w
  | .save => w.saveInventory pl

variable {pl w g} {x : Item} {q : List (Option Nat)} {r : Option InventoryRow} {d : Option Item}

/-! ## What is kept -/

/-- What the tables have of an item of the player's. -/
def Written (pl : Nat) (x : Item) (r : Option InventoryRow) (d : Option Item) : Prop :=
  match x.uState with
  | .unchanged => r = some (row pl x) ∧ d = some x.data
  | .changed => r.isSome ∧ d.isSome
  | .new => r = none ∧ d = none
  | .removed => True

/-- The queue has every object that is to be written, once and where the object says, and the tables have
what was written last. -/
structure Kept (pl : Nat) (w : ItemTables) : Prop where
  unblocked : w.inv.itemUpdateQueueBlocked pl = false
  short : (w.inv.itemUpdateQueue pl).length ≤ 32768
  place : ∀ (k g : Nat), (w.inv.itemUpdateQueue pl)[k]? = some (some g) →
    w.Owned pl g ∧ (w.inv.items g).uQueuePos = k
  queued : ∀ g, w.Owned pl g → ((w.inv.items g).uQueuePos = -1 ∧ (w.inv.items g).uState = .unchanged) ∨
    ∃ k : Nat, (w.inv.itemUpdateQueue pl)[k]? = some (some g)
  written : ∀ g, w.Owned pl g → Written pl (w.inv.items g) (w.character_inventory g) (w.item_instance g)
  gone : ∀ g, (w.inv.items g).live = false → w.character_inventory g = none ∧ w.item_instance g = none

/-- The tables with another object for `g`, with its rows, and another queue. -/
def put (pl : Nat) (w : ItemTables) (g : Nat) (x : Item) (q : List (Option Nat)) (r : Option InventoryRow)
    (d : Option Item) : ItemTables where
  inv := { w.inv with
    items := Function.update w.inv.items g x
    itemUpdateQueue := Function.update w.inv.itemUpdateQueue pl q }
  character_inventory := Function.update w.character_inventory g r
  item_instance := Function.update w.item_instance g d

/-- **One object is changed**: what is kept of the others stays. -/
theorem Kept.put (h : Kept pl w) (hlen : q.length ≤ 32768)
    (hother : ∀ k i : Nat, i ≠ g → (q[k]? = some (some i) ↔ (w.inv.itemUpdateQueue pl)[k]? = some (some i)))
    (hself : ∀ k : Nat, q[k]? = some (some g) → (x.live = true ∧ x.owner = pl) ∧ x.uQueuePos = k)
    (hqueued : x.live = true → (x.uQueuePos = -1 ∧ x.uState = .unchanged) ∨ ∃ k : Nat, q[k]? = some (some g))
    (hwritten : x.live = true → Written pl x r d) (hgone : x.live = false → r = none ∧ d = none) :
    Kept pl (w.put pl g x q r d) := by
  refine ⟨h.unblocked, by simpa [ItemTables.put] using hlen, fun k i hk => ?_, fun i howned => ?_, fun i howned => ?_,
    fun i hdead => ?_⟩
  all_goals rcases eq_or_ne i g with rfl | hi
  · simp only [ItemTables.put, Owned, Function.update_self] at hk ⊢
    exact hself k hk
  · simp only [ItemTables.put, Owned, Function.update_self, Function.update_of_ne hi] at hk ⊢
    exact h.place k i ((hother k i hi).1 hk)
  · simp only [ItemTables.put, Owned, Function.update_self] at howned ⊢
    exact hqueued howned.1
  · simp only [ItemTables.put, Owned, Function.update_self, Function.update_of_ne hi] at howned ⊢
    exact (h.queued i howned).imp_right fun ⟨k, hk⟩ => ⟨k, (hother k i hi).2 hk⟩
  · simp only [ItemTables.put, Owned, Function.update_self] at howned ⊢
    exact hwritten howned.1
  · simp only [ItemTables.put, Owned, Function.update_of_ne hi] at howned ⊢
    exact h.written i howned
  · simp only [ItemTables.put, Function.update_self] at hdead ⊢
    exact hgone hdead
  · simp only [ItemTables.put, Function.update_of_ne hi] at hdead ⊢
    exact h.gone i hdead

/-! ## `SetState` -/

/-- **`SetState`** of an object of the player's that is not a new one to be removed. -/
theorem Kept.setState (h : Kept pl w) {s : ItemUpdateState}
    (hlen : (w.inv.itemUpdateQueue pl).length < 32768) (hitem : x.live = true ∧ x.owner = pl)
    (hpos : x.uQueuePos = -1 ∧ some g ∉ w.inv.itemUpdateQueue pl ∨
      ∃ k : Nat, (w.inv.itemUpdateQueue pl)[k]? = some (some g) ∧ x.uQueuePos = k)
    (hstate : s ≠ .unchanged) (hnew : x.uState = .new → s ≠ .removed)
    (hwritten : Written pl { x with uState := if x.uState = .new then .new else s }
      (w.character_inventory g) (w.item_instance g)) :
    Kept pl { w with inv := { w.inv with items := Function.update w.inv.items g x }.setState pl g s } := by
  have hnoted : (if x.uState ≠ .new then { x with uState := s } else x) =
      { x with uState := if x.uState = .new then .new else s } := by
    by_cases hn : x.uState = .new
    · rw [if_neg (not_not.2 hn), if_pos hn, ← hn]
    · rw [if_pos hn, if_neg hn]
  unfold Holdings.setState addToUpdateQueueOf Holdings.modify
  rw [if_neg (by simpa using hnew), if_pos hstate]
  simp only [Function.update_self, Function.update_idem, hnoted]
  rcases hpos with ⟨hpos, hnot⟩ | ⟨k, hk, hpos⟩
  · -- it gets the next place
    have h16 : toInt16 (w.inv.itemUpdateQueue pl).length = ((w.inv.itemUpdateQueue pl).length : Int) := by
      unfold toInt16
      rw [Nat.mod_eq_of_lt (by omega), if_pos hlen]
    have hlast : (w.inv.itemUpdateQueue pl ++ [some g])[(w.inv.itemUpdateQueue pl).length]? = some (some g) := by simp
    rw [if_neg (by simp [hpos]), if_neg (by simp [hitem.2]), if_neg (by simp [h.unblocked]), h16]
    have hkept := h.put (g := g) (r := w.character_inventory g) (d := w.item_instance g)
      (x := { x with uState := if x.uState = .new then .new else s, uQueuePos := (w.inv.itemUpdateQueue pl).length })
      (q := w.inv.itemUpdateQueue pl ++ [some g]) (by simp; omega) ?_ ?_ (fun _ => Or.inr ⟨_, hlast⟩)
      (fun _ => hwritten) fun hdead => absurd (hitem.1.symm.trans hdead) (by decide)
    · simpa [ItemTables.put] using hkept
    · intro k i hi
      grind
    · intro k hk
      grind
  · have hkept := h.put (g := g) (r := w.character_inventory g) (d := w.item_instance g)
      (x := { x with uState := if x.uState = .new then .new else s }) h.short (fun _ _ _ => Iff.rfl) ?_
      (fun _ => Or.inr ⟨k, hk⟩) (fun _ => hwritten) fun hdead => absurd (hitem.1.symm.trans hdead) (by decide)
    · rw [if_pos (by rw [hpos]; omega)]
      simpa [ItemTables.put] using hkept
    · intro k' hk'
      exact ⟨hitem, hpos.trans ((h.place k g hk).2.symm.trans (h.place k' g hk').2)⟩

theorem Kept.pos (h : Kept pl w) (hg : w.Owned pl g) :
    (w.inv.items g).uQueuePos = -1 ∧ some g ∉ w.inv.itemUpdateQueue pl ∨
      ∃ k : Nat, (w.inv.itemUpdateQueue pl)[k]? = some (some g) ∧ (w.inv.items g).uQueuePos = k := by
  rcases h.queued g hg with ⟨hpos, -⟩ | ⟨k, hk⟩
  · refine Or.inl ⟨hpos, fun hmem => ?_⟩
    obtain ⟨k, hk⟩ := List.mem_iff_getElem?.1 hmem
    have := (h.place k g hk).2
    omega
  · exact Or.inr ⟨k, hk, (h.place k g hk).2⟩

theorem deleteItem_empty {h : Holdings} (hbag : ∀ j < maxBagSize, (h.items g).bagslot j = none) :
    h.deleteItem g = { h with items := Function.update h.items g { h.items g with live := false } } := by
  unfold deleteItem
  congr 1
  funext i
  by_cases hi : i = g
  · rw [if_pos (Or.inl hi), hi, Function.update_self]
  · rw [Function.update_of_ne hi, if_neg]
    rintro (h' | ⟨j, hj, h'⟩)
    · exact hi h'
    · rw [hbag j hj] at h'
      cases h'

/-- A place of the queue is emptied, and its object deleted or no longer waiting. -/
theorem Kept.unqueue (h : Kept pl w) {k : Nat} (hk : (w.inv.itemUpdateQueue pl)[k]? = some (some g))
    (hlive : x.live = true → x.uQueuePos = -1 ∧ x.uState = .unchanged ∧ r = some (row pl x) ∧ d = some x.data)
    (hdead : x.live = false → r = none ∧ d = none) :
    Kept pl (w.put pl g x ((w.inv.itemUpdateQueue pl).set k none) r d) := by
  have hone : ∀ k' : Nat, (w.inv.itemUpdateQueue pl)[k']? = some (some g) → k' = k := by
    intro k' hk'
    have := (h.place k g hk).2.symm.trans (h.place k' g hk').2
    omega
  refine h.put (by simpa using h.short) (fun k' i hi => ?_) (fun k' hk' => ?_)
    (fun hl => Or.inl ⟨(hlive hl).1, (hlive hl).2.1⟩) (fun hl => ?_) hdead
  · grind
  · grind
  · unfold Written
    rw [(hlive hl).2.1]
    exact (hlive hl).2.2

/-! ## The save -/

/-- An item that is to be saved is in its place, and a bag to be deleted has been emptied. -/
def Saveable (pl : Nat) (w : ItemTables) (g : Nat) : Prop :=
  if (w.inv.items g).uState = .removed then ∀ j < maxBagSize, (w.inv.items g).bagslot j = none
  else w.inv.getItemByPos pl (w.inv.getBagSlot g) (w.inv.items g).slot = some g

/-- What the save makes of an object. -/
def savedItem (x : Item) : Item :=
  if x.uState = .removed then { x with live := false } else { x with uState := .unchanged, uQueuePos := -1 }

/-- **What is written for an item** in its place. -/
theorem saveItem_eq (hw : Written pl (w.inv.items g) (w.character_inventory g) (w.item_instance g))
    (hs : Saveable pl w g) :
    w.saveItem pl g = w.put pl g (savedItem (w.inv.items g)) (w.inv.itemUpdateQueue pl)
      (if (w.inv.items g).uState = .removed then none else some (row pl (w.inv.items g)))
      (if (w.inv.items g).uState = .removed then none else some (w.inv.items g).data) := by
  have hstate : w.inv.setState pl g .unchanged = { w.inv with
      items := Function.update w.inv.items g { w.inv.items g with uQueuePos := -1, uState := .unchanged } } := by
    simp [Holdings.setState, Holdings.modify]
  unfold Saveable at hs
  unfold Written at hw
  unfold saveItem ItemTables.put
  rw [Function.update_eq_self]
  cases hst : (w.inv.items g).uState with
  | removed =>
    rw [hst, if_pos rfl] at hs
    simp [saveRow, saveToDB, savedItem, hst, deleteItem_empty hs]
  | new =>
    rw [hst, if_neg (by decide)] at hs
    simp [saveRow, saveToDB, savedItem, hst, hs, hstate]
  | changed =>
    rw [hst, if_neg (by decide)] at hs
    rw [hst] at hw
    obtain ⟨r, hr⟩ := Option.isSome_iff_exists.1 hw.1
    obtain ⟨d, hd⟩ := Option.isSome_iff_exists.1 hw.2
    simp [saveRow, saveToDB, savedItem, hst, hs, hstate, hr, hd]
  | unchanged =>
    rw [hst, if_neg (by decide)] at hs
    rw [hst] at hw
    simp [saveRow, saveToDB, savedItem, hst, hs, hstate, ← hw.1, ← hw.2]

def withQueue (pl : Nat) (w : ItemTables) (q : List (Option Nat)) : ItemTables :=
  { w with inv := { w.inv with itemUpdateQueue := Function.update w.inv.itemUpdateQueue pl q } }

/-- **The loop of the save**, by induction over what is left of the queue: a place that was passed counts as
empty. -/
theorem Kept.save_loop {done rest : List (Option Nat)} (hdone : ∀ x ∈ done, x = none)
    (h : Kept pl (w.withQueue pl (done ++ rest)))
    (hs : Transition.Along (saveItem pl) (Saveable pl) w (rest.filterMap id)) :
    ∃ q, (∀ x ∈ q, x = none) ∧ Kept pl (((rest.filterMap id).foldl (saveItem pl) w).withQueue pl q) := by
  induction rest generalizing w done with
  | nil => exact ⟨done, hdone, by rwa [List.append_nil] at h⟩
  | cons x rest ih =>
    have hdone' : ∀ y ∈ done ++ [none], y = none := by simpa [or_imp, forall_and] using hdone
    cases x with
    | none =>
      rw [← List.singleton_append, ← List.append_assoc] at h
      exact ih hdone' h hs
    | some g =>
      have hk : ((w.withQueue pl (done ++ some g :: rest)).inv.itemUpdateQueue pl)[done.length]? = some (some g) := by
        simp [withQueue]
      have howned : w.Owned pl g := (h.place _ g hk).1
      have hw : Written pl (w.inv.items g) (w.character_inventory g) (w.item_instance g) := h.written g howned
      obtain ⟨hg, hs⟩ : Saveable pl w g ∧ _ := hs
      have hnext := h.unqueue hk (x := savedItem (w.inv.items g))
        (r := if (w.inv.items g).uState = .removed then none else some (row pl (w.inv.items g)))
        (d := if (w.inv.items g).uState = .removed then none else some (w.inv.items g).data) ?_ ?_
      · refine ih hdone' ?_ hs
        rw [saveItem_eq hw hg]
        simpa [ItemTables.put, withQueue, List.append_assoc] using hnext
      · intro hlive
        unfold savedItem at hlive ⊢
        split at hlive
        · cases hlive
        · next hst => simp [hst, row, Item.data]
      · intro hdead
        unfold savedItem at hdead
        split at hdead
        · next hst => simp [hst]
        · exact absurd (howned.1.symm.trans hdead) (by decide)

/-! ## Runs -/

/-- No more than 32768 places of the queue are used between two saves, and the save finds the items in
their places. -/
def Fits (pl : Nat) (w : ItemTables) : ItemRequest → Prop
  | .add _ _ | .edit _ _ => (w.inv.itemUpdateQueue pl).length < 32768
  | .arrange _ _ => True
  | .remove g => (w.inv.itemUpdateQueue pl).length < 32768 ∧ ∀ j < maxBagSize, (w.inv.items g).bagslot j = none
  | .save => Transition.Along (saveItem pl) (Saveable pl) w ((w.inv.itemUpdateQueue pl).filterMap id)

/-- The tables have all objects of the player's as they are. -/
structure Saved (pl : Nat) (w : ItemTables) : Prop where
  queue : w.inv.itemUpdateQueue pl = []
  rows : ∀ g, w.Owned pl g → w.character_inventory g = some (row pl (w.inv.items g)) ∧
    w.item_instance g = some (w.inv.items g).data

theorem saveInventory_spec (h : Kept pl w) (hs : Fits pl w .save) :
    Kept pl (w.saveInventory pl) ∧ Saved pl (w.saveInventory pl) := by
  have hself : w.withQueue pl ([] ++ w.inv.itemUpdateQueue pl) = w := by
    simp [withQueue]
  obtain ⟨q, hnone, hk⟩ := Kept.save_loop (List.forall_mem_nil _) (hself.symm ▸ h) hs
  have hrest : ∀ g, Owned pl (w.saveInventory pl) g →
      ((w.saveInventory pl).inv.items g).uQueuePos = -1 ∧ ((w.saveInventory pl).inv.items g).uState = .unchanged := by
    intro g hg
    refine (hk.queued g hg).resolve_right ?_
    rintro ⟨k, hk⟩
    have hmem := List.mem_of_getElem? hk
    simp only [withQueue, Function.update_self] at hmem
    cases hnone _ hmem
  have hempty : (w.saveInventory pl).inv.itemUpdateQueue pl = [] := Function.update_self _ _ _
  refine ⟨⟨hk.unblocked, ?_, ?_, fun g hg => Or.inl (hrest g hg), hk.written, hk.gone⟩, hempty, fun g hg => ?_⟩
  · rw [hempty]
    exact Nat.zero_le _
  · intro k g hg
    rw [hempty] at hg
    cases hg
  · have hw : Written pl ((w.saveInventory pl).inv.items g) ((w.saveInventory pl).character_inventory g)
      ((w.saveInventory pl).item_instance g) := hk.written g hg
    unfold Written at hw
    rwa [(hrest g hg).2] at hw

theorem Kept.step (h : Kept pl w) (r : ItemRequest) (hfits : Fits pl w r) : Kept pl (w.step pl r) := by
  cases r with
  | add g x =>
    simp only [ItemTables.step]
    split
    · exact h
    · next hdead =>
      have hdead := Bool.eq_false_iff.2 hdead
      refine h.setState hfits ⟨rfl, rfl⟩ (Or.inl ⟨rfl, fun hmem => ?_⟩) (by decide) (by simp) (h.gone g hdead)
      obtain ⟨k, hk⟩ := List.mem_iff_getElem?.1 hmem
      exact absurd ((h.place k g hk).1.1.symm.trans hdead) (by decide)
  | edit g f =>
    simp only [ItemTables.step]
    split
    · next howned =>
      refine h.setState hfits howned.1 (h.pos howned.1) (by decide) (by simp) ?_
      have hw := h.written g howned.1
      unfold Written at hw ⊢
      cases hst : (w.inv.items g).uState with
      | new => simpa [hst] using hw
      | removed => exact absurd hst howned.2
      | unchanged => rw [hst] at hw; simp [hw.1, hw.2]
      | changed => rw [hst] at hw; simpa [hst] using hw
    · exact h
  | arrange slots bagslots => exact ⟨h.unblocked, h.short, h.place, h.queued, h.written, h.gone⟩
  | remove g =>
    simp only [ItemTables.step]
    split
    · next howned =>
      by_cases hnew : (w.inv.items g).uState = .new
      · -- as if it had never been
        obtain ⟨k, hk, hpos⟩ := (h.pos howned).resolve_left fun hc => hc.2 ((h.queued g howned).elim
          (fun hu => absurd (hu.2.symm.trans hnew) (by decide)) fun ⟨k, hk⟩ => List.mem_of_getElem? hk)
        have hw := h.written g howned
        unfold Written at hw
        rw [hnew] at hw
        have hkept := h.unqueue hk (x := { w.inv.items g with live := false, uQueuePos := -1 })
          (r := w.character_inventory g) (d := w.item_instance g) (by simp) fun _ => hw
        have hout : w.inv.removeFromUpdateQueueOf pl g = { w.inv with
            itemUpdateQueue := Function.update w.inv.itemUpdateQueue pl ((w.inv.itemUpdateQueue pl).set k none)
            items := Function.update w.inv.items g { w.inv.items g with uQueuePos := -1 } } := by
          unfold removeFromUpdateQueueOf
          rw [if_neg (by omega), if_neg (not_not.2 howned.2.symm), if_neg (by simp [h.unblocked]), hpos,
            Int.toNat_natCast]
        unfold Holdings.setState
        rw [if_pos ⟨hnew, rfl⟩, hout, deleteItem_empty (by simpa using hfits.2)]
        simpa [ItemTables.put] using hkept
      · have hkept := h.setState (x := w.inv.items g) (s := .removed) hfits.1 howned (h.pos howned) (by decide)
          (fun hn => absurd hn hnew) (by simp [Written, hnew])
        rwa [Function.update_eq_self] at hkept
    · exact h
  | save => exact (saveInventory_spec h hfits).1

theorem kept_nothing : Kept pl {} where
  unblocked := rfl
  short := Nat.zero_le _
  place k g hg := by cases hg
  queued g hg := by cases hg.1
  written g hg := by cases hg.1
  gone _ _ := ⟨rfl, rfl⟩

end ItemTables

end BlizzLike
