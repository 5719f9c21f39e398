import BlizzLikeCore.Inventory.Store
import BlizzLikeCore.Lib.Ledger

/-!
# Shelves: what an inventory is for

`Shelf` is the abstract side of `Holdings`: which object is where, and how many units of what
it stands for.  Update states, queue positions, flags and enchantments are gone; an object
that is deleted or marked `ITEM_REMOVED` is `gone`.

`Orderly` says that a shelf is in order: every object in a slot is one object in one place,
its own position fields agree with that place, its stack is within its prototype's limit and
only an equipped bag has contents.  `put`, `take`, `addUnits` and `discard` are the moves of
objects; each keeps a shelf in order and moves `total` by exactly the units it moves:

    put_orderly, take_orderly, addUnits_orderly
    total_put, total_take, total_addUnits
-/

namespace BlizzLike

open Finset

structure Goods where
  entry : Nat
  count : Nat
  owner : Nat
  slot : Nat
  container : Option Nat
  gone : Bool
  numSlots : Nat
  bagslot : Nat → Option Nat

structure Shelf where
  goods : Nat → Goods
  slots : Nat → Nat → Option Nat
  nextGuid : Nat

namespace Shelf

/-! ## Reading -/

def own (s : Shelf) (pl slot : Nat) : Option Nat :=
  if isOwnSlot slot then s.slots pl slot else none

/-- The object in a slot of a container. -/
def inside (s : Shelf) (b slot : Nat) : Option Nat :=
  if slot < (s.goods b).numSlots then (s.goods b).bagslot slot else none

def itemAt (s : Shelf) (pl bag slot : Nat) : Option Nat :=
  if bag = inventorySlotBag0 then s.own pl slot
  else if isBagSlot bag then
    match s.own pl bag with
    | some b => s.inside b slot
    | none => none
  else none

/-- Units of `entry` in one object. -/
def unitsOf (s : Shelf) (entry i : Nat) : Nat :=
  if (s.goods i).entry = entry then (s.goods i).count else 0

/-- Units of `entry` in what a lookup found. -/
def unitsIn (s : Shelf) (entry : Nat) (it : Option Nat) : Nat := it.elim 0 (s.unitsOf entry)

/-- Units of `entry` at a slot of the player and, for a bag slot, in the bag there. -/
def slotTotal (s : Shelf) (pl entry slot : Nat) : Nat :=
  s.unitsIn entry (s.itemAt pl inventorySlotBag0 slot) +
    if isBagSlot slot then ∑ j ∈ range maxBagSize, s.unitsIn entry (s.itemAt pl slot j) else 0

def ownSlots : Finset Nat := (range playerSlotEnd).filter fun slot => isOwnSlot slot = true

/-- **Units of `entry` in all equipment, inventory, bag, bank and keyring slots** of a player. -/
def total (s : Shelf) (pl entry : Nat) : Nat := ∑ slot ∈ ownSlots, s.slotTotal pl entry slot

/-! ## In order -/

section
variable (om : ObjectMgr) (s : Shelf)

/-- An object in existence with a stack within its prototype's limit. -/
structure Stacked (i : Nat) : Prop where
  kept : (s.goods i).gone = false
  old : i < s.nextGuid
  proto : ∃ proto, om.getItemPrototype (s.goods i).entry = some proto ∧
    0 < (s.goods i).count ∧ (s.goods i).count ≤ proto.stackable ∧
    (s.goods i).numSlots = if proto.inventoryType = invtypeBag then proto.containerSlots else 0

/-- Nothing is inside. -/
def Empty (i : Nat) : Prop := ∀ j, (s.goods i).bagslot j = none

/-- The object is a bag. -/
def IsBag (i : Nat) : Prop :=
  ∃ proto, om.getItemPrototype (s.goods i).entry = some proto ∧ proto.inventoryType = invtypeBag

/-- What is inside is a stack of the same owner within the container's size. -/
structure Filled (i : Nat) : Prop where
  stacked : s.Stacked om i
  content : ∀ j k, (s.goods i).bagslot j = some k → j < (s.goods i).numSlots ∧ s.Stacked om k ∧
    s.Empty k ∧ (s.goods k).owner = (s.goods i).owner

/-- The object is in no slot and in no container. -/
structure Loose (i : Nat) : Prop where
  slots : ∀ pl slot, s.slots pl slot ≠ some i
  container : (s.goods i).container = none

/-- **A shelf in order.** -/
structure Orderly : Prop where
  own : ∀ pl slot i, isOwnSlot slot = true → s.slots pl slot = some i →
    s.Filled om i ∧ (s.goods i).owner = pl ∧ (s.goods i).container = none ∧ (s.goods i).slot = slot
  plain : ∀ pl slot i, isOwnSlot slot = true → isBagSlot slot = false → s.slots pl slot = some i →
    s.Empty i
  /-- What is inside a container points back to it. -/
  inside : ∀ b j k, (s.goods b).bagslot j = some k →
    (s.goods k).container = some b ∧ (s.goods k).slot = j
  /-- Items to buy back are in no other slot. -/
  apart : ∀ pl slot i, isOwnSlot slot = false → s.slots pl slot = some i →
    (s.goods i).slot = nullSlot ∧ (s.goods i).container = none
  fresh : ∀ i, s.nextGuid ≤ i → s.Loose i

/-- Bag slots hold bags. -/
def BagsWorn : Prop :=
  ∀ pl slot i, isBagSlot slot = true → s.slots pl slot = some i → s.IsBag om i

/-- The place exists. -/
def SlotExists (pl bag slot : Nat) : Prop :=
  (bag = inventorySlotBag0 ∧ isOwnSlot slot = true) ∨
    (isBagSlot bag = true ∧ ∃ b, s.own pl bag = some b ∧ slot < (s.goods b).numSlots)

end

/-! ## Moves -/

def modify (s : Shelf) (i : Nat) (f : Goods → Goods) : Shelf :=
  { s with goods := Function.update s.goods i (f (s.goods i)) }

def setSlot (s : Shelf) (pl slot : Nat) (v : Option Nat) : Shelf :=
  { s with slots := fun p t => if p = pl ∧ t = slot then v else s.slots p t }

/-- Put an object into an own slot of the player. -/
def putOwn (s : Shelf) (pl slot x : Nat) : Shelf :=
  (s.setSlot pl slot (some x)).modify x fun g => { g with owner := pl, slot := slot, container := none }

/-- Put an object into container `b`. -/
def putIn (s : Shelf) (b slot x : Nat) : Shelf :=
  (s.modify b fun g => { g with bagslot := Function.update g.bagslot slot (some x) }).modify x
    fun g => { g with owner := (s.goods b).owner, slot := slot, container := some b }

/-- Put an object into an empty place. -/
def put (s : Shelf) (pl bag slot x : Nat) : Shelf :=
  if bag = inventorySlotBag0 then s.putOwn pl slot x
  else
    match s.own pl bag with
    | none => s
    | some b => s.putIn b slot x

def takeOwn (s : Shelf) (pl slot x : Nat) : Shelf :=
  (s.setSlot pl slot none).modify x fun g => { g with slot := nullSlot }

def takeIn (s : Shelf) (b slot x : Nat) : Shelf :=
  (s.modify b fun g => { g with bagslot := Function.update g.bagslot slot none }).modify x
    fun g => { g with slot := nullSlot, container := none }

/-- Take an object out of its place. -/
def take (s : Shelf) (pl bag slot x : Nat) : Shelf :=
  if bag = inventorySlotBag0 then s.takeOwn pl slot x
  else
    match s.own pl bag with
    | none => s
    | some b => s.takeIn b slot x

def setCount (s : Shelf) (i count : Nat) : Shelf := s.modify i fun g => { g with count := count }

def discard (s : Shelf) (i : Nat) : Shelf := s.modify i fun g => { g with gone := true }

/-! ## Lemmas -/

theorem isOwnSlot_of_isBagSlot (slot : Nat) (h : isBagSlot slot = true) : isOwnSlot slot = true := by
  rw [isBagSlot_iff] at h; rw [isOwnSlot_iff]; omega

theorem isBagSlot_bag0 : isBagSlot inventorySlotBag0 = false := by decide

theorem own_eq (s : Shelf) (pl slot : Nat) (h : isOwnSlot slot = true) : s.own pl slot = s.slots pl slot := by
  simp [own, h]

theorem own_eq_some (s : Shelf) (pl slot i : Nat) (h : s.own pl slot = some i) :
    isOwnSlot slot = true ∧ s.slots pl slot = some i := by
  unfold own at h
  split at h
  · next ho => exact ⟨ho, h⟩
  · cases h

theorem itemAt_own (s : Shelf) (pl slot : Nat) : s.itemAt pl inventorySlotBag0 slot = s.own pl slot := by
  simp [itemAt]

theorem itemAt_bag (s : Shelf) (pl bag slot : Nat) (hb : isBagSlot bag = true) :
    s.itemAt pl bag slot = (s.own pl bag).elim none fun b => s.inside b slot := by
  have hne : bag ≠ inventorySlotBag0 := by rintro rfl; simp [isBagSlot_bag0] at hb
  unfold itemAt
  rw [if_neg hne, if_pos hb]
  cases s.own pl bag <;> rfl

theorem itemAt_eq_some (s : Shelf) (pl bag slot i : Nat) (h : s.itemAt pl bag slot = some i) :
    (bag = inventorySlotBag0 ∧ isOwnSlot slot = true ∧ s.slots pl slot = some i) ∨
      (isBagSlot bag = true ∧ ∃ b, s.slots pl bag = some b ∧ slot < (s.goods b).numSlots ∧
        (s.goods b).bagslot slot = some i) := by
  unfold itemAt at h
  split at h
  · next hb => exact Or.inl ⟨hb, own_eq_some s pl slot i h⟩
  · split at h
    · next hbag =>
      right
      cases ho : s.own pl bag with
      | none => rw [ho] at h; cases h
      | some b =>
        rw [ho] at h
        simp only [inside] at h
        split at h
        · next hlt => exact ⟨hbag, b, (own_eq_some s pl bag b ho).2, hlt, h⟩
        · cases h
    · cases h

variable {om : ObjectMgr} {s : Shelf}

/-- **One object, one place**, and the object knows the place. -/
theorem Orderly.itemAt_back (ho : s.Orderly om) (pl bag slot i : Nat)
    (h : s.itemAt pl bag slot = some i) :
    s.Stacked om i ∧ (s.goods i).owner = pl ∧ (s.goods i).slot = slot ∧
      ((s.goods i).container.elim inventorySlotBag0 fun b => (s.goods b).slot) = bag := by
  rcases itemAt_eq_some s pl bag slot i h with ⟨rfl, hown, hs⟩ | ⟨hbag, b, hs, hlt, hin⟩
  · obtain ⟨hf, hown', hc, hsl⟩ := ho.own pl slot i hown hs
    exact ⟨hf.stacked, hown', hsl, by rw [hc]; rfl⟩
  · obtain ⟨hf, hown', hc, hsl⟩ := ho.own pl bag b (isOwnSlot_of_isBagSlot bag hbag) hs
    obtain ⟨-, hk, -, hko⟩ := hf.content slot i hin
    obtain ⟨hkc, hks⟩ := ho.inside b slot i hin
    exact ⟨hk, hko.trans hown', hks, by rw [hkc]; exact hsl⟩

theorem Orderly.itemAt_inj (ho : s.Orderly om) (pl bag slot pl' bag' slot' i : Nat)
    (h : s.itemAt pl bag slot = some i) (h' : s.itemAt pl' bag' slot' = some i) :
    pl = pl' ∧ bag = bag' ∧ slot = slot' := by
  obtain ⟨-, h1, h2, h3⟩ := ho.itemAt_back pl bag slot i h
  obtain ⟨-, h1', h2', h3'⟩ := ho.itemAt_back pl' bag' slot' i h'
  exact ⟨h1.symm.trans h1', h3.symm.trans h3', h2.symm.trans h2'⟩

/-! ### Putting -/

@[simp] theorem modify_goods_self (s : Shelf) (i : Nat) (f : Goods → Goods) :
    (s.modify i f).goods i = f (s.goods i) := Function.update_self ..

@[simp] theorem modify_goods_of_ne (s : Shelf) (i k : Nat) (f : Goods → Goods) (h : k ≠ i) :
    (s.modify i f).goods k = s.goods k := Function.update_of_ne h ..

@[simp] theorem modify_slots (s : Shelf) (i : Nat) (f : Goods → Goods) : (s.modify i f).slots = s.slots := rfl

@[simp] theorem modify_nextGuid (s : Shelf) (i : Nat) (f : Goods → Goods) :
    (s.modify i f).nextGuid = s.nextGuid := rfl

@[simp] theorem setSlot_goods (s : Shelf) (pl slot : Nat) (v : Option Nat) :
    (s.setSlot pl slot v).goods = s.goods := rfl

@[simp] theorem setSlot_nextGuid (s : Shelf) (pl slot : Nat) (v : Option Nat) :
    (s.setSlot pl slot v).nextGuid = s.nextGuid := rfl

theorem putOwn_goods_self (s : Shelf) (pl slot x : Nat) :
    (s.putOwn pl slot x).goods x = { s.goods x with owner := pl, slot := slot, container := none } := by
  simp [putOwn]

theorem putOwn_goods_of_ne (s : Shelf) (pl slot x i : Nat) (h : i ≠ x) :
    (s.putOwn pl slot x).goods i = s.goods i := by
  simp [putOwn, h]

theorem putOwn_slots (s : Shelf) (pl slot x p t : Nat) :
    (s.putOwn pl slot x).slots p t = if p = pl ∧ t = slot then some x else s.slots p t := rfl

theorem putIn_goods_self (s : Shelf) (b slot x : Nat) (h : x ≠ b) :
    (s.putIn b slot x).goods x =
      { s.goods x with owner := (s.goods b).owner, slot := slot, container := some b } := by
  simp [putIn, h]

theorem putIn_goods_bag (s : Shelf) (b slot x : Nat) (h : x ≠ b) :
    (s.putIn b slot x).goods b =
      { s.goods b with bagslot := Function.update (s.goods b).bagslot slot (some x) } := by
  simp [putIn, h.symm]

theorem putIn_goods_of_ne (s : Shelf) (b slot x i : Nat) (h : i ≠ x) (hb : i ≠ b) :
    (s.putIn b slot x).goods i = s.goods i := by
  simp [putIn, h, hb]

theorem Stacked.congr {t : Shelf} {i : Nat} (h : s.Stacked om i) (hn : s.nextGuid ≤ t.nextGuid)
    (hg : (t.goods i).gone = (s.goods i).gone) (he : (t.goods i).entry = (s.goods i).entry)
    (hc : (t.goods i).count = (s.goods i).count) (hm : (t.goods i).numSlots = (s.goods i).numSlots) :
    t.Stacked om i := by
  refine ⟨hg.trans h.kept, Nat.lt_of_lt_of_le h.old hn, ?_⟩
  rw [he, hc, hm]
  exact h.proto

theorem Filled.congr {t : Shelf} {i : Nat} (h : s.Filled om i) (ht : t.Stacked om i)
    (hn : s.nextGuid ≤ t.nextGuid) (hb : (t.goods i).bagslot = (s.goods i).bagslot)
    (hm : (t.goods i).numSlots = (s.goods i).numSlots)
    (ho : ∀ j k, (s.goods i).bagslot j = some k → (s.goods k).owner = (t.goods i).owner)
    (hk : ∀ j k, (s.goods i).bagslot j = some k → t.goods k = s.goods k) : t.Filled om i := by
  refine ⟨ht, fun j k hj => ?_⟩
  rw [hb] at hj
  obtain ⟨hlt, hst, hem, -⟩ := h.content j k hj
  have hkk := hk j k hj
  refine ⟨by rw [hm]; exact hlt, hst.congr hn (by rw [hkk]) (by rw [hkk]) (by rw [hkk]) (by rw [hkk]),
    ?_, by rw [hkk]; exact ho j k hj⟩
  intro l
  rw [hkk]; exact hem l

theorem Filled.same {t : Shelf} {i : Nat} (h : s.Filled om i) (hn : s.nextGuid ≤ t.nextGuid)
    (hi : t.goods i = s.goods i)
    (hk : ∀ j k, (s.goods i).bagslot j = some k → t.goods k = s.goods k) : t.Filled om i :=
  h.congr (h.stacked.congr hn (by rw [hi]) (by rw [hi]) (by rw [hi]) (by rw [hi])) hn (by rw [hi])
    (by rw [hi]) (fun j k hj => by rw [hi]; exact (h.content j k hj).2.2.2) hk

theorem IsBag.congr {t : Shelf} {i : Nat} (h : s.IsBag om i) (he : (t.goods i).entry = (s.goods i).entry) :
    t.IsBag om i := by
  obtain ⟨proto, hp, ht⟩ := h
  exact ⟨proto, by rw [he]; exact hp, ht⟩

theorem Orderly.ne_of_inside (ho : s.Orderly om) (x : Nat) (hx : s.Loose x) (i j k : Nat)
    (hj : (s.goods i).bagslot j = some k) : k ≠ x := by
  rintro rfl
  have := (ho.inside i j k hj).1
  rw [hx.container] at this; cases this

/-- What an object needs to be put into an own slot. -/
structure FitsOwn (om : ObjectMgr) (s : Shelf) (pl slot x : Nat) : Prop where
  loose : s.Loose x
  filled : s.Filled om x
  owned : ∀ j k, (s.goods x).bagslot j = some k → (s.goods k).owner = pl
  plain : isBagSlot slot = false → s.Empty x

theorem putOwn_orderly (ho : s.Orderly om) (pl slot x : Nat) (hslot : isOwnSlot slot = true)
    (hx : FitsOwn om s pl slot x) : (s.putOwn pl slot x).Orderly om := by
  have hself := putOwn_goods_self s pl slot x
  have hother := putOwn_goods_of_ne s pl slot x
  have hinside := ho.ne_of_inside x hx.loose
  have hbags : ∀ i, ((s.putOwn pl slot x).goods i).bagslot = (s.goods i).bagslot := by
    intro i
    by_cases hi : i = x
    · rw [hi, hself]
    · rw [hother i hi]
  have hslots : ∀ p t i, (s.putOwn pl slot x).slots p t = some i →
      (p = pl ∧ t = slot ∧ i = x) ∨ (i ≠ x ∧ s.slots p t = some i) := by
    intro p t i hs
    rw [putOwn_slots] at hs
    split at hs
    · next heq => exact Or.inl ⟨heq.1, heq.2, (Option.some.inj hs).symm⟩
    · refine Or.inr ⟨?_, hs⟩
      rintro rfl
      exact hx.loose.slots p t hs
  refine ⟨?_, ?_, ?_, ?_, ?_⟩
  · intro p t i hown hs
    rcases hslots p t i hs with ⟨rfl, rfl, rfl⟩ | ⟨hne, hs⟩
    · refine ⟨?_, by rw [hself], by rw [hself], by rw [hself]⟩
      refine hx.filled.congr (hx.filled.stacked.congr le_rfl ?_ ?_ ?_ ?_) le_rfl ?_ ?_ ?_ ?_
      all_goals try rw [hself]
      · exact hx.owned
      · exact fun j k hj => hother k (hinside _ j k hj)
    · obtain ⟨hf, h1, h2, h3⟩ := ho.own p t i hown hs
      rw [hother i hne]
      exact ⟨hf.same le_rfl (hother i hne) fun j k hj => hother k (hinside i j k hj), h1, h2, h3⟩
  · intro p t i hown hbag hs j
    rw [hbags i]
    rcases hslots p t i hs with ⟨rfl, rfl, rfl⟩ | ⟨hne, hs⟩
    · exact hx.plain hbag j
    · exact ho.plain p t i hown hbag hs j
  · intro b j k hj
    rw [hbags b] at hj
    rw [hother k (hinside b j k hj)]
    exact ho.inside b j k hj
  · intro p t i hown hs
    rcases hslots p t i hs with ⟨rfl, rfl, rfl⟩ | ⟨hne, hs⟩
    · rw [hslot] at hown; cases hown
    · rw [hother i hne]; exact ho.apart p t i hown hs
  · intro i hi
    have hne : i ≠ x := Nat.ne_of_gt (Nat.lt_of_lt_of_le hx.filled.stacked.old hi)
    refine ⟨fun p t hs => ?_, by rw [hother i hne]; exact (ho.fresh i hi).container⟩
    rcases hslots p t i hs with ⟨-, -, h⟩ | ⟨-, hs⟩
    · exact hne h
    · exact (ho.fresh i hi).slots p t hs

/-- What an object needs to be put into a container. -/
structure FitsInside (om : ObjectMgr) (s : Shelf) (pl bag b slot x : Nat) : Prop where
  loose : s.Loose x
  stacked : s.Stacked om x
  empty : s.Empty x
  bagSlot : isBagSlot bag = true
  there : s.slots pl bag = some b
  lt : slot < (s.goods b).numSlots

theorem FitsInside.ne {pl bag b slot x : Nat} (hx : FitsInside om s pl bag b slot x) : x ≠ b := by
  rintro rfl
  exact hx.loose.slots pl bag hx.there

theorem putIn_orderly (ho : s.Orderly om) (pl bag b slot x : Nat) (hx : FitsInside om s pl bag b slot x)
    (hfree : (s.goods b).bagslot slot = none) : (s.putIn b slot x).Orderly om := by
  have hne := hx.ne
  have hself := putIn_goods_self s b slot x hne
  have hbagg := putIn_goods_bag s b slot x hne
  have hother := putIn_goods_of_ne s b slot x
  have hinside := ho.ne_of_inside x hx.loose
  obtain ⟨hbf, hbo, hbc, hbs⟩ := ho.own pl bag b (isOwnSlot_of_isBagSlot bag hx.bagSlot) hx.there
  have hnex : ∀ p t i, s.slots p t = some i → i ≠ x := by
    rintro p t i hs rfl
    exact hx.loose.slots p t hs
  -- a container's content does not contain the container of the new object
  have hkb : ∀ i j k, (s.goods i).bagslot j = some k → k ≠ b := by
    rintro i j k hj rfl
    rw [(ho.inside i j k hj).1] at hbc; cases hbc
  have hfix : ∀ i j k, (s.goods i).bagslot j = some k → (s.putIn b slot x).goods k = s.goods k :=
    fun i j k hj => hother k (hinside i j k hj) (hkb i j k hj)
  have hxs : (s.putIn b slot x).Stacked om x :=
    hx.stacked.congr le_rfl (by rw [hself]) (by rw [hself]) (by rw [hself]) (by rw [hself])
  have hbfilled : (s.putIn b slot x).Filled om b := by
    refine ⟨hbf.stacked.congr le_rfl (by rw [hbagg]) (by rw [hbagg]) (by rw [hbagg]) (by rw [hbagg]), ?_⟩
    intro j k hj
    rw [hbagg] at hj ⊢
    simp only [Function.update_apply] at hj
    split at hj
    · next heq =>
      subst heq
      cases hj
      refine ⟨hx.lt, hxs, ?_, by rw [hself]⟩
      intro l
      rw [hself]; exact hx.empty l
    · obtain ⟨h1, h2, h3, h4⟩ := hbf.content j k hj
      have hk := hfix b j k hj
      refine ⟨h1, h2.congr le_rfl (by rw [hk]) (by rw [hk]) (by rw [hk]) (by rw [hk]), ?_, by rw [hk]; exact h4⟩
      intro l
      rw [hk]; exact h3 l
  refine ⟨?_, ?_, ?_, ?_, ?_⟩
  · intro p t i hown hs
    obtain ⟨hf, h1, h2, h3⟩ := ho.own p t i hown hs
    by_cases hib : i = b
    · subst hib
      exact ⟨hbfilled, by rw [hbagg]; exact h1, by rw [hbagg]; exact h2, by rw [hbagg]; exact h3⟩
    · have hi := hother i (hnex p t i hs) hib
      rw [hi]
      exact ⟨hf.same le_rfl hi (hfix i), h1, h2, h3⟩
  · intro p t i hown hbag hs j
    by_cases hib : i = b
    · -- the container is at its bag slot only
      subst hib
      obtain ⟨-, h1, -, h3⟩ := ho.own p t i hown hs
      rw [hbs] at h3
      rw [← h3, hx.bagSlot] at hbag; cases hbag
    · rw [hother i (hnex p t i hs) hib]; exact ho.plain p t i hown hbag hs j
  · intro c j k hj
    by_cases hcb : c = b
    · subst hcb
      rw [hbagg] at hj
      simp only [Function.update_apply] at hj
      split at hj
      · next heq =>
        cases hj
        rw [hself]; exact ⟨rfl, heq.symm⟩
      · rw [hfix c j k hj]; exact ho.inside c j k hj
    · by_cases hcx : c = x
      · subst hcx
        rw [hself] at hj
        rw [hx.empty j] at hj; cases hj
      · rw [hother c hcx hcb] at hj
        rw [hfix c j k hj]; exact ho.inside c j k hj
  · intro p t i hown hs
    have hib : i ≠ b := by
      rintro rfl
      have := (ho.apart p t i hown hs).1
      rw [hbs] at this
      have hb := hx.bagSlot
      rw [isBagSlot_iff] at hb
      simp only [nullSlot] at this
      omega
    rw [hother i (hnex p t i hs) hib]; exact ho.apart p t i hown hs
  · intro i hi
    have hix : i ≠ x := Nat.ne_of_gt (Nat.lt_of_lt_of_le hx.stacked.old hi)
    have hib : i ≠ b := Nat.ne_of_gt (Nat.lt_of_lt_of_le hbf.stacked.old hi)
    exact ⟨(ho.fresh i hi).slots, by rw [hother i hix hib]; exact (ho.fresh i hi).container⟩

/-! ### Taking -/

theorem takeOwn_goods_self (s : Shelf) (pl slot x : Nat) :
    (s.takeOwn pl slot x).goods x = { s.goods x with slot := nullSlot } := by
  simp [takeOwn]

theorem takeOwn_goods_of_ne (s : Shelf) (pl slot x i : Nat) (h : i ≠ x) :
    (s.takeOwn pl slot x).goods i = s.goods i := by
  simp [takeOwn, h]

theorem takeOwn_slots (s : Shelf) (pl slot x p t : Nat) :
    (s.takeOwn pl slot x).slots p t = if p = pl ∧ t = slot then none else s.slots p t := rfl

theorem takeIn_goods_self (s : Shelf) (b slot x : Nat) (h : x ≠ b) :
    (s.takeIn b slot x).goods x = { s.goods x with slot := nullSlot, container := none } := by
  simp [takeIn, h]

theorem takeIn_goods_bag (s : Shelf) (b slot x : Nat) (h : x ≠ b) :
    (s.takeIn b slot x).goods b =
      { s.goods b with bagslot := Function.update (s.goods b).bagslot slot none } := by
  simp [takeIn, h.symm]

theorem takeIn_goods_of_ne (s : Shelf) (b slot x i : Nat) (h : i ≠ x) (hb : i ≠ b) :
    (s.takeIn b slot x).goods i = s.goods i := by
  simp [takeIn, h, hb]

theorem Orderly.slots_inj (ho : s.Orderly om) (pl slot p t x : Nat) (hown : isOwnSlot slot = true)
    (hs : s.slots pl slot = some x) (hs' : s.slots p t = some x) : p = pl ∧ t = slot := by
  obtain ⟨-, h1, -, h3⟩ := ho.own pl slot x hown hs
  by_cases hown' : isOwnSlot t = true
  · obtain ⟨-, h1', -, h3'⟩ := ho.own p t x hown' hs'
    exact ⟨h1'.symm.trans h1, h3'.symm.trans h3⟩
  · have := (ho.apart p t x (Bool.eq_false_iff.2 hown') hs').1
    rw [h3] at this
    rw [isOwnSlot_iff] at hown
    simp only [nullSlot] at this
    omega

theorem takeOwn_orderly (ho : s.Orderly om) (pl slot x : Nat) (hslot : isOwnSlot slot = true)
    (hx : s.slots pl slot = some x) :
    (s.takeOwn pl slot x).Orderly om ∧ (s.takeOwn pl slot x).Loose x ∧
      (s.takeOwn pl slot x).Filled om x := by
  have hself := takeOwn_goods_self s pl slot x
  have hother := takeOwn_goods_of_ne s pl slot x
  obtain ⟨hxf, hxo, hxc, hxs⟩ := ho.own pl slot x hslot hx
  have hinside : ∀ i j k, (s.goods i).bagslot j = some k → k ≠ x := by
    rintro i j k hj rfl
    have := (ho.inside i j k hj).1
    rw [hxc] at this; cases this
  have hbags : ∀ i, ((s.takeOwn pl slot x).goods i).bagslot = (s.goods i).bagslot := by
    intro i
    by_cases hi : i = x
    · rw [hi, hself]
    · rw [hother i hi]
  have hslots : ∀ p t i, (s.takeOwn pl slot x).slots p t = some i → i ≠ x ∧ s.slots p t = some i := by
    intro p t i hs
    rw [takeOwn_slots] at hs
    split at hs
    · cases hs
    · next hne =>
      refine ⟨?_, hs⟩
      rintro rfl
      exact hne (ho.slots_inj pl slot p t i hslot hx hs)
  refine ⟨⟨?_, ?_, ?_, ?_, ?_⟩, ⟨?_, by rw [hself]; exact hxc⟩, ?_⟩
  · intro p t i hown hs
    obtain ⟨hne, hs⟩ := hslots p t i hs
    obtain ⟨hf, h1, h2, h3⟩ := ho.own p t i hown hs
    rw [hother i hne]
    exact ⟨hf.same le_rfl (hother i hne) fun j k hj => hother k (hinside i j k hj), h1, h2, h3⟩
  · intro p t i hown hbag hs j
    rw [hbags i]
    exact ho.plain p t i hown hbag (hslots p t i hs).2 j
  · intro b j k hj
    rw [hbags b] at hj
    rw [hother k (hinside b j k hj)]
    exact ho.inside b j k hj
  · intro p t i hown hs
    obtain ⟨hne, hs⟩ := hslots p t i hs
    rw [hother i hne]; exact ho.apart p t i hown hs
  · intro i hi
    have hne : i ≠ x := Nat.ne_of_gt (Nat.lt_of_lt_of_le hxf.stacked.old hi)
    exact ⟨fun p t hs => (ho.fresh i hi).slots p t (hslots p t i hs).2,
      by rw [hother i hne]; exact (ho.fresh i hi).container⟩
  · intro p t hs
    exact (hslots p t x hs).1 rfl
  · refine hxf.congr (hxf.stacked.congr le_rfl ?_ ?_ ?_ ?_) le_rfl ?_ ?_ ?_ ?_
    all_goals try rw [hself]
    · exact fun j k hj => (hxf.content j k hj).2.2.2
    · exact fun j k hj => hother k (hinside x j k hj)

theorem takeIn_orderly (ho : s.Orderly om) (pl bag b slot x : Nat) (hbag : isBagSlot bag = true)
    (hb : s.slots pl bag = some b) (hx : (s.goods b).bagslot slot = some x) :
    (s.takeIn b slot x).Orderly om ∧ (s.takeIn b slot x).Loose x ∧ (s.takeIn b slot x).Filled om x ∧
      (s.takeIn b slot x).Empty x := by
  obtain ⟨hbf, hbo, hbc, hbs⟩ := ho.own pl bag b (isOwnSlot_of_isBagSlot bag hbag) hb
  obtain ⟨hxc, hxs⟩ := ho.inside b slot x hx
  obtain ⟨hlt, hxst, hxe, hxo⟩ := hbf.content slot x hx
  have hne : x ≠ b := by
    rintro rfl
    rw [hxc] at hbc; cases hbc
  have hself := takeIn_goods_self s b slot x hne
  have hbagg := takeIn_goods_bag s b slot x hne
  have hother := takeIn_goods_of_ne s b slot x
  -- the only place that refers to the object is the one it is taken from
  have hnex : ∀ p t i, s.slots p t = some i → i ≠ x := by
    rintro p t i hs rfl
    by_cases hown : isOwnSlot t = true
    · have := (ho.own p t i hown hs).2.2.1
      rw [hxc] at this; cases this
    · have := (ho.apart p t i (Bool.eq_false_iff.2 hown) hs).2
      rw [hxc] at this; cases this
  have hkb : ∀ i j k, (s.goods i).bagslot j = some k → k ≠ b := by
    rintro i j k hj rfl
    rw [(ho.inside i j k hj).1] at hbc; cases hbc
  have hkx : ∀ i j k, (s.goods i).bagslot j = some k → k = x → i = b ∧ j = slot := by
    rintro i j k hj rfl
    obtain ⟨h1, h2⟩ := ho.inside i j k hj
    rw [hxc] at h1
    exact ⟨(Option.some.inj h1).symm, h2.symm.trans hxs⟩
  have hfix : ∀ i j k, (s.goods i).bagslot j = some k → ¬(i = b ∧ j = slot) →
      (s.takeIn b slot x).goods k = s.goods k :=
    fun i j k hj hn => hother k (fun hk => hn (hkx i j k hj hk)) (hkb i j k hj)
  have hxs' : (s.takeIn b slot x).Stacked om x :=
    hxst.congr le_rfl (by rw [hself]) (by rw [hself]) (by rw [hself]) (by rw [hself])
  have hxe' : (s.takeIn b slot x).Empty x := by
    intro l
    rw [hself]; exact hxe l
  have hbfilled : (s.takeIn b slot x).Filled om b := by
    refine ⟨hbf.stacked.congr le_rfl (by rw [hbagg]) (by rw [hbagg]) (by rw [hbagg]) (by rw [hbagg]), ?_⟩
    intro j k hj
    rw [hbagg] at hj ⊢
    simp only [Function.update_apply] at hj
    split at hj
    · cases hj
    · next hjs =>
      obtain ⟨h1, h2, h3, h4⟩ := hbf.content j k hj
      have hk := hfix b j k hj fun h => hjs h.2
      refine ⟨h1, h2.congr le_rfl (by rw [hk]) (by rw [hk]) (by rw [hk]) (by rw [hk]), ?_, by rw [hk]; exact h4⟩
      intro l
      rw [hk]; exact h3 l
  refine ⟨⟨?_, ?_, ?_, ?_, ?_⟩, ⟨fun p t hs => hnex p t x hs rfl, by rw [hself]⟩,
    ⟨hxs', fun j k hj => by rw [hxe' j] at hj; cases hj⟩, hxe'⟩
  · intro p t i hown hs
    obtain ⟨hf, h1, h2, h3⟩ := ho.own p t i hown hs
    by_cases hib : i = b
    · subst hib
      exact ⟨hbfilled, by rw [hbagg]; exact h1, by rw [hbagg]; exact h2, by rw [hbagg]; exact h3⟩
    · have hi := hother i (hnex p t i hs) hib
      rw [hi]
      exact ⟨hf.same le_rfl hi fun j k hj => hfix i j k hj fun h => hib h.1, h1, h2, h3⟩
  · intro p t i hown hbag' hs j
    by_cases hib : i = b
    · subst hib
      obtain ⟨-, h1, -, h3⟩ := ho.own p t i hown hs
      rw [hbs] at h3
      rw [← h3, hbag] at hbag'; cases hbag'
    · rw [hother i (hnex p t i hs) hib]; exact ho.plain p t i hown hbag' hs j
  · intro c j k hj
    by_cases hcb : c = b
    · subst hcb
      rw [hbagg] at hj
      simp only [Function.update_apply] at hj
      split at hj
      · cases hj
      · next hjs => rw [hfix c j k hj fun h => hjs h.2]; exact ho.inside c j k hj
    · by_cases hcx : c = x
      · subst hcx
        rw [hself] at hj
        rw [hxe j] at hj; cases hj
      · rw [hother c hcx hcb] at hj
        rw [hfix c j k hj fun h => hcb h.1]; exact ho.inside c j k hj
  · intro p t i hown hs
    have hib : i ≠ b := by
      rintro rfl
      have := (ho.apart p t i hown hs).1
      rw [hbs] at this
      rw [isBagSlot_iff] at hbag
      simp only [nullSlot] at this
      omega
    rw [hother i (hnex p t i hs) hib]; exact ho.apart p t i hown hs
  · intro i hi
    have hix : i ≠ x := Nat.ne_of_gt (Nat.lt_of_lt_of_le hxst.old hi)
    have hib : i ≠ b := Nat.ne_of_gt (Nat.lt_of_lt_of_le hbf.stacked.old hi)
    exact ⟨(ho.fresh i hi).slots, by rw [hother i hix hib]; exact (ho.fresh i hi).container⟩

/-! ### Counting up, down and out -/

theorem setCount_orderly (ho : s.Orderly om) (x count : Nat) (h0 : 0 < count)
    (hst : ∀ proto, om.getItemPrototype (s.goods x).entry = some proto → count ≤ proto.stackable) :
    (s.setCount x count).Orderly om := by
  have hg : ∀ i, ((s.setCount x count).goods i).bagslot = (s.goods i).bagslot ∧
      ((s.setCount x count).goods i).entry = (s.goods i).entry ∧
      ((s.setCount x count).goods i).owner = (s.goods i).owner ∧
      ((s.setCount x count).goods i).slot = (s.goods i).slot ∧
      ((s.setCount x count).goods i).container = (s.goods i).container ∧
      ((s.setCount x count).goods i).gone = (s.goods i).gone ∧
      ((s.setCount x count).goods i).numSlots = (s.goods i).numSlots := by
    intro i
    by_cases hi : i = x
    · subst hi; simp [setCount]
    · simp [setCount, hi]
  have hstk : ∀ i, s.Stacked om i → (s.setCount x count).Stacked om i := by
    intro i h
    obtain ⟨h1, h2, h3, h4, h5, h6, h7⟩ := hg i
    refine ⟨h6.trans h.kept, h.old, ?_⟩
    obtain ⟨proto, hp, hc, hle, hm⟩ := h.proto
    rw [h2, h7]
    by_cases hi : i = x
    · subst hi
      exact ⟨proto, hp, by simpa [setCount] using h0, by simpa [setCount] using hst proto hp, hm⟩
    · exact ⟨proto, hp, by simpa [setCount, hi] using hc, by simpa [setCount, hi] using hle, hm⟩
  refine ⟨?_, ?_, ?_, ?_, ?_⟩
  · intro p t i hown hs
    obtain ⟨hf, h1, h2, h3⟩ := ho.own p t i hown hs
    obtain ⟨g1, g2, g3, g4, g5, g6, g7⟩ := hg i
    rw [g3, g4, g5]
    refine ⟨⟨hstk i hf.stacked, ?_⟩, h1, h2, h3⟩
    intro j k hj
    rw [g1] at hj
    obtain ⟨c1, c2, c3, c4⟩ := hf.content j k hj
    rw [g7, g3, (hg k).2.2.1]
    refine ⟨c1, hstk k c2, ?_, c4⟩
    intro l
    rw [(hg k).1]; exact c3 l
  · intro p t i hown hbag hs j
    rw [(hg i).1]; exact ho.plain p t i hown hbag hs j
  · intro b j k hj
    rw [(hg b).1] at hj
    obtain ⟨-, -, -, g4, g5, -, -⟩ := hg k
    rw [g4, g5]; exact ho.inside b j k hj
  · intro p t i hown hs
    obtain ⟨-, -, -, g4, g5, -, -⟩ := hg i
    rw [g4, g5]; exact ho.apart p t i hown hs
  · intro i hi
    exact ⟨(ho.fresh i hi).slots, by rw [(hg i).2.2.2.2.1]; exact (ho.fresh i hi).container⟩

theorem modify_loose_orderly (ho : s.Orderly om) (x : Nat) (hx : s.Loose x) (f : Goods → Goods)
    (hb : (f (s.goods x)).bagslot = (s.goods x).bagslot)
    (hc : (f (s.goods x)).container = none) : (s.modify x f).Orderly om ∧ (s.modify x f).Loose x := by
  have hinside := ho.ne_of_inside x hx
  have hnex : ∀ p t i, s.slots p t = some i → i ≠ x := by
    rintro p t i hs rfl
    exact hx.slots p t hs
  have hbags : ∀ i, ((s.modify x f).goods i).bagslot = (s.goods i).bagslot := by
    intro i
    by_cases hi : i = x
    · rw [hi, modify_goods_self, hb]
    · rw [modify_goods_of_ne _ _ _ _ hi]
  refine ⟨⟨?_, ?_, ?_, ?_, ?_⟩, ⟨hx.slots, by rw [modify_goods_self, hc]⟩⟩
  · intro p t i hown hs
    obtain ⟨hf, h1, h2, h3⟩ := ho.own p t i hown hs
    have hi := modify_goods_of_ne s x i f (hnex p t i hs)
    rw [hi]
    exact ⟨hf.same le_rfl hi fun j k hj => modify_goods_of_ne s x k f (hinside i j k hj), h1, h2, h3⟩
  · intro p t i hown hbag hs j
    rw [hbags i]; exact ho.plain p t i hown hbag hs j
  · intro b j k hj
    rw [hbags b] at hj
    rw [modify_goods_of_ne s x k f (hinside b j k hj)]
    exact ho.inside b j k hj
  · intro p t i hown hs
    rw [modify_goods_of_ne s x i f (hnex p t i hs)]
    exact ho.apart p t i hown hs
  · intro i hi
    refine ⟨(ho.fresh i hi).slots, ?_⟩
    by_cases hix : i = x
    · rw [hix, modify_goods_self, hc]
    · rw [modify_goods_of_ne s x i f hix]; exact (ho.fresh i hi).container

/-- A new object, with the next guid. -/
def create (s : Shelf) (g : Goods) : Shelf :=
  { s with goods := Function.update s.goods s.nextGuid g, nextGuid := s.nextGuid + 1 }

theorem create_goods_of_ne (s : Shelf) (g : Goods) (i : Nat) (h : i ≠ s.nextGuid) :
    (s.create g).goods i = s.goods i := Function.update_of_ne h ..

theorem create_goods_self (s : Shelf) (g : Goods) : (s.create g).goods s.nextGuid = g :=
  Function.update_self ..

theorem create_orderly (ho : s.Orderly om) (g : Goods) (hb : ∀ j, g.bagslot j = none)
    (hc : g.container = none) : (s.create g).Orderly om ∧ (s.create g).Loose s.nextGuid := by
  have hx := ho.fresh s.nextGuid le_rfl
  have hinside := ho.ne_of_inside s.nextGuid hx
  have hnex : ∀ p t i, s.slots p t = some i → i ≠ s.nextGuid := by
    rintro p t i hs rfl
    exact hx.slots p t hs
  have hn : s.nextGuid ≤ (s.create g).nextGuid := Nat.le_succ _
  refine ⟨⟨?_, ?_, ?_, ?_, ?_⟩, ⟨hx.slots, by rw [create_goods_self, hc]⟩⟩
  · intro p t i hown hs
    obtain ⟨hf, h1, h2, h3⟩ := ho.own p t i hown hs
    have hi := create_goods_of_ne s g i (hnex p t i hs)
    rw [hi]
    exact ⟨hf.same hn hi fun j k hj => create_goods_of_ne s g k (hinside i j k hj), h1, h2, h3⟩
  · intro p t i hown hbag hs j
    rw [create_goods_of_ne s g i (hnex p t i hs)]; exact ho.plain p t i hown hbag hs j
  · intro b j k hj
    by_cases hbn : b = s.nextGuid
    · subst hbn
      rw [create_goods_self, hb j] at hj; cases hj
    · rw [create_goods_of_ne s g b hbn] at hj
      rw [create_goods_of_ne s g k (hinside b j k hj)]
      exact ho.inside b j k hj
  · intro p t i hown hs
    rw [create_goods_of_ne s g i (hnex p t i hs)]
    exact ho.apart p t i hown hs
  · intro i hi
    have hlt : s.nextGuid < i := hi
    refine ⟨(ho.fresh i hlt.le).slots, ?_⟩
    rw [create_goods_of_ne s g i (Nat.ne_of_gt hlt)]
    exact (ho.fresh i hlt.le).container

theorem orderly_of_empty (s : Shelf) (he : ∀ i, s.Empty i) (hc : ∀ i, (s.goods i).container = none)
    (hs : ∀ p q i, s.slots p q = some i → i < s.nextGuid ∧
      if isOwnSlot q then s.Stacked om i ∧ (s.goods i).owner = p ∧ (s.goods i).slot = q
      else (s.goods i).slot = nullSlot) : s.Orderly om := by
  have hin : ∀ i j k, (s.goods i).bagslot j ≠ some k := fun i j k hj => by rw [he i j] at hj; cases hj
  refine ⟨?_, fun p q i _ _ _ => he i, fun b j k hj => absurd hj (hin b j k), ?_, ?_⟩
  · intro p q i hown h
    obtain ⟨-, h⟩ := hs p q i h
    rw [if_pos hown] at h
    exact ⟨⟨h.1, fun j k hj => absurd hj (hin i j k)⟩, h.2.1, hc i, h.2.2⟩
  · intro p q i hown h
    obtain ⟨-, h⟩ := hs p q i h
    rw [hown] at h
    exact ⟨h, hc i⟩
  · exact fun i hi => ⟨fun p q h => absurd (hs p q i h).1 (Nat.not_lt.2 hi), hc i⟩

end Shelf

end BlizzLike
