import BlizzLikeCore.Inventory.Shelf

/-!
# What a move changes, place by place

For each move of `Shelf`: which object a lookup finds afterwards at every place of every
player, and from it how the totals move.  `SamePlace` is the frame: same object, same units.

    putOwn_itemAt, putIn_itemAt, takeOwn_itemAt, takeIn_itemAt
    total_change_place : only one place changes → the total changes by that place
    total_change_slot  : only one own slot and its bag change → the total changes by that slot
-/

namespace BlizzLike

open Finset

namespace Shelf

variable {om : ObjectMgr} {s t : Shelf}

/-! ## Lookups after a move -/

theorem own_congr (p q : Nat) (h : t.slots p q = s.slots p q) : t.own p q = s.own p q := by
  unfold own
  split
  · exact h
  · rfl

/-- A player's slot holds what it held, and what it holds has the contents it had. -/
theorem itemAt_eq_of (p B S : Nat) (hs : ∀ q, isOwnSlot q = true → t.slots p q = s.slots p q)
    (hi : ∀ q i, isBagSlot q = true → s.slots p q = some i → B = q →
      (t.goods i).numSlots = (s.goods i).numSlots ∧ (t.goods i).bagslot S = (s.goods i).bagslot S) :
    t.itemAt p B S = s.itemAt p B S := by
  have hown : ∀ q, t.own p q = s.own p q := by
    intro q
    unfold own
    split
    · next hq => exact hs q hq
    · rfl
  unfold itemAt
  rw [hown S, hown B]
  split
  · rfl
  · split
    · next hbag =>
      cases ho : s.own p B with
      | none => rfl
      | some b =>
        obtain ⟨h1, h2⟩ := hi B b hbag (own_eq_some s p B b ho).2 rfl
        simp only [inside, h1, h2]
    · rfl

theorem putOwn_itemAt (pl slot x p B S : Nat) (hslot : isOwnSlot slot = true)
    (hx : FitsOwn om s pl slot x) (hfree : s.slots pl slot = none) :
    (s.putOwn pl slot x).itemAt p B S =
      if p = pl ∧ B = inventorySlotBag0 ∧ S = slot then some x
      else if p = pl ∧ B = slot ∧ isBagSlot slot = true then s.inside x S
      else s.itemAt p B S := by
  have hxg := putOwn_goods_self s pl slot x
  have hinx : ∀ S, (s.putOwn pl slot x).inside x S = s.inside x S := by
    intro S
    unfold inside
    rw [hxg]
  split
  · next h =>
    obtain ⟨rfl, rfl, rfl⟩ := h
    rw [itemAt_own, own_eq _ _ _ hslot, putOwn_slots, if_pos ⟨rfl, rfl⟩]
  next h1 =>
  split
  · next h =>
    obtain ⟨rfl, rfl, hbag⟩ := h
    rw [itemAt_bag _ _ _ _ hbag, own_eq _ _ _ hslot, putOwn_slots, if_pos ⟨rfl, rfl⟩]
    exact hinx S
  next h2 =>
  by_cases hp : p = pl
  · subst hp
    by_cases hB : B = inventorySlotBag0
    · subst hB
      have hS : S ≠ slot := fun h => h1 ⟨rfl, rfl, h⟩
      rw [itemAt_own, itemAt_own]
      exact own_congr p S (by rw [putOwn_slots, if_neg fun h => hS h.2])
    · by_cases hbag : isBagSlot B = true
      · have hBs : B ≠ slot := by rintro rfl; exact h2 ⟨rfl, rfl, hbag⟩
        rw [itemAt_bag _ _ _ _ hbag, itemAt_bag _ _ _ _ hbag]
        have hown : (s.putOwn p slot x).own p B = s.own p B :=
          own_congr p B (by rw [putOwn_slots, if_neg fun h => hBs h.2])
        rw [hown]
        cases hob : s.own p B with
        | none => rfl
        | some b =>
          have hne : b ≠ x := by
            rintro rfl
            exact hx.loose.slots p B (own_eq_some s p B b hob).2
          simp only [Option.elim, inside, putOwn_goods_of_ne s p slot x b hne]
      · unfold itemAt
        rw [if_neg hB, if_neg hbag, if_neg hB, if_neg hbag]
  · refine itemAt_eq_of p B S (fun q _ => ?_) (fun q i _ hs _ => ?_)
    · rw [putOwn_slots, if_neg fun h => hp h.1]
    · have hne : i ≠ x := by rintro rfl; exact hx.loose.slots p q hs
      rw [putOwn_goods_of_ne s pl slot x i hne]; exact ⟨rfl, rfl⟩

theorem takeOwn_itemAt (pl slot x p B S : Nat) (hslot : isOwnSlot slot = true)
    (hx : s.slots pl slot = some x) :
    (s.takeOwn pl slot x).itemAt p B S =
      if p = pl ∧ (B = inventorySlotBag0 ∧ S = slot ∨ B = slot ∧ isBagSlot slot = true) then none
      else s.itemAt p B S := by
  split
  · next h =>
    obtain ⟨rfl, h⟩ := h
    rcases h with ⟨rfl, rfl⟩ | ⟨rfl, hbag⟩
    · rw [itemAt_own, own_eq _ _ _ hslot, takeOwn_slots, if_pos ⟨rfl, rfl⟩]
    · rw [itemAt_bag _ _ _ _ hbag, own_eq _ _ _ hslot, takeOwn_slots, if_pos ⟨rfl, rfl⟩]
      rfl
  next h =>
  have hg : ∀ i, ((s.takeOwn pl slot x).goods i).numSlots = (s.goods i).numSlots ∧
      ((s.takeOwn pl slot x).goods i).bagslot = (s.goods i).bagslot := by
    intro i
    by_cases hi : i = x
    · rw [hi, takeOwn_goods_self]; exact ⟨rfl, rfl⟩
    · rw [takeOwn_goods_of_ne s pl slot x i hi]; exact ⟨rfl, rfl⟩
  have hin : ∀ i, (s.takeOwn pl slot x).inside i S = s.inside i S := by
    intro i
    unfold inside
    rw [(hg i).1, (hg i).2]
  by_cases hp : p = pl
  · subst hp
    simp only [true_and, not_or, not_and] at h
    by_cases hB : B = inventorySlotBag0
    · subst hB
      rw [itemAt_own, itemAt_own]
      exact own_congr p S (by rw [takeOwn_slots, if_neg fun he => h.1 rfl he.2])
    · by_cases hbag : isBagSlot B = true
      · have hBs : B ≠ slot := by rintro rfl; exact h.2 rfl hbag
        rw [itemAt_bag _ _ _ _ hbag, itemAt_bag _ _ _ _ hbag]
        have hown : (s.takeOwn p slot x).own p B = s.own p B :=
          own_congr p B (by rw [takeOwn_slots, if_neg fun he => hBs he.2])
        rw [hown]
        cases s.own p B with
        | none => rfl
        | some b => exact hin b
      · unfold itemAt
        rw [if_neg hB, if_neg hbag, if_neg hB, if_neg hbag]
  · refine itemAt_eq_of p B S (fun q _ => ?_) (fun q i _ _ _ => ⟨(hg i).1, by rw [(hg i).2]⟩)
    rw [takeOwn_slots, if_neg fun he => hp he.1]

theorem Orderly.bag_inj (ho : s.Orderly om) (pl bag p q b : Nat) (hbag : isBagSlot bag = true)
    (hb : s.slots pl bag = some b) (hs : s.slots p q = some b) : p = pl ∧ q = bag :=
  ho.slots_inj pl bag p q b (isOwnSlot_of_isBagSlot bag hbag) hb hs

theorem putIn_itemAt (ho : s.Orderly om) (pl bag b slot x p B S : Nat)
    (hx : FitsInside om s pl bag b slot x) :
    (s.putIn b slot x).itemAt p B S =
      if p = pl ∧ B = bag ∧ S = slot then some x else s.itemAt p B S := by
  have hne := hx.ne
  have hbagg := putIn_goods_bag s b slot x hne
  split
  · next h =>
    obtain ⟨rfl, rfl, rfl⟩ := h
    rw [itemAt_bag _ _ _ _ hx.bagSlot]
    have hown : (s.putIn b S x).own p B = some b := by
      rw [own_eq _ _ _ (isOwnSlot_of_isBagSlot B hx.bagSlot)]; exact hx.there
    rw [hown]
    simp only [Option.elim, inside, hbagg, Function.update_self, if_pos hx.lt]
  · next h =>
    refine itemAt_eq_of p B S (fun q _ => rfl) (fun q i hq hs hB => ?_)
    by_cases hib : i = b
    · subst hib
      obtain ⟨rfl, rfl⟩ := ho.bag_inj pl bag p q i hx.bagSlot hx.there hs
      have hS : S ≠ slot := fun he => h ⟨rfl, hB, he⟩
      rw [hbagg]
      exact ⟨rfl, Function.update_of_ne hS ..⟩
    · have hix : i ≠ x := by rintro rfl; exact hx.loose.slots p q hs
      rw [putIn_goods_of_ne s b slot x i hix hib]; exact ⟨rfl, rfl⟩

theorem takeIn_itemAt (ho : s.Orderly om) (pl bag b slot x p B S : Nat) (hbag : isBagSlot bag = true)
    (hb : s.slots pl bag = some b) (hx : (s.goods b).bagslot slot = some x) :
    (s.takeIn b slot x).itemAt p B S =
      if p = pl ∧ B = bag ∧ S = slot then none else s.itemAt p B S := by
  have hbc := (ho.own pl bag b (isOwnSlot_of_isBagSlot bag hbag) hb).2.2.1
  have hne : x ≠ b := by
    rintro rfl
    rw [(ho.inside x slot x hx).1] at hbc; cases hbc
  have hbagg := takeIn_goods_bag s b slot x hne
  split
  · next h =>
    obtain ⟨rfl, rfl, rfl⟩ := h
    rw [itemAt_bag _ _ _ _ hbag]
    have hown : (s.takeIn b S x).own p B = some b := by
      rw [own_eq _ _ _ (isOwnSlot_of_isBagSlot B hbag)]; exact hb
    rw [hown]
    simp [Option.elim, inside, hbagg]
  · next h =>
    refine itemAt_eq_of p B S (fun q _ => rfl) (fun q i hq hs hB => ?_)
    by_cases hib : i = b
    · subst hib
      obtain ⟨rfl, rfl⟩ := ho.bag_inj pl bag p q i hbag hb hs
      have hS : S ≠ slot := fun he => h ⟨rfl, hB, he⟩
      rw [hbagg]
      exact ⟨rfl, Function.update_of_ne hS ..⟩
    · have hix : i ≠ x := by
        rintro rfl
        by_cases hown : isOwnSlot q = true
        · have := (ho.own p q i hown hs).2.2.1
          rw [(ho.inside b slot i hx).1] at this; cases this
        · exact hown (isOwnSlot_of_isBagSlot q hq)
      rw [takeIn_goods_of_ne s b slot x i hix hib]; exact ⟨rfl, rfl⟩

/-! ## Totals -/

/-- Units of `entry` at a place. -/
def unitsAt (s : Shelf) (pl entry bag slot : Nat) : Nat := s.unitsIn entry (s.itemAt pl bag slot)

/-- A place holds the same object with the same units. -/
def SamePlace (s t : Shelf) (pl bag slot : Nat) : Prop :=
  t.itemAt pl bag slot = s.itemAt pl bag slot ∧
    ∀ i, s.itemAt pl bag slot = some i → (t.goods i).entry = (s.goods i).entry ∧
      (t.goods i).count = (s.goods i).count ∧ (t.goods i).gone = (s.goods i).gone

theorem SamePlace.unitsAt_eq {pl bag slot : Nat} (h : SamePlace s t pl bag slot) (entry : Nat) :
    t.unitsAt pl entry bag slot = s.unitsAt pl entry bag slot := by
  unfold unitsAt
  rw [h.1]
  cases hi : s.itemAt pl bag slot with
  | none => rfl
  | some i =>
    obtain ⟨h1, h2, -⟩ := h.2 i hi
    simp only [unitsIn, Option.elim, unitsOf, h1, h2]

theorem mem_ownSlots (slot : Nat) : slot ∈ ownSlots ↔ isOwnSlot slot = true := by
  unfold ownSlots
  rw [mem_filter, mem_range]
  constructor
  · exact fun h => h.2
  · intro h
    refine ⟨?_, h⟩
    rw [isOwnSlot_iff] at h
    simp only [playerSlotEnd]
    omega

theorem slotTotal_eq (s : Shelf) (pl entry slot : Nat) :
    s.slotTotal pl entry slot = s.unitsAt pl entry inventorySlotBag0 slot +
      if isBagSlot slot then ∑ j ∈ range maxBagSize, s.unitsAt pl entry slot j else 0 := rfl

/-- **Only one own slot and its bag change.** -/
theorem total_change_slot (pl entry a : Nat) (ha : isOwnSlot a = true)
    (h : ∀ B S, ¬(B = inventorySlotBag0 ∧ S = a) → B ≠ a →
      t.unitsAt pl entry B S = s.unitsAt pl entry B S) :
    t.total pl entry + s.slotTotal pl entry a = s.total pl entry + t.slotTotal pl entry a := by
  unfold total
  refine Ledger.sum_change_one ownSlots (t.slotTotal pl entry) (s.slotTotal pl entry) a
    ((mem_ownSlots a).2 ha) fun q hq hne => ?_
  have hq0 : q ≠ inventorySlotBag0 := by
    rintro rfl
    rw [mem_ownSlots] at hq; exact absurd hq (by decide)
  have ha0 : inventorySlotBag0 ≠ a := by rintro rfl; exact absurd ha (by decide)
  rw [slotTotal_eq, slotTotal_eq, h inventorySlotBag0 q (fun he => hne he.2) ha0]
  rw [Nat.add_left_cancel_iff]
  split
  · exact sum_congr rfl fun j _ => h q j (fun he => hq0 he.1) hne
  · rfl

theorem total_same (pl entry : Nat)
    (h : ∀ B S, t.unitsAt pl entry B S = s.unitsAt pl entry B S) : t.total pl entry = s.total pl entry := by
  unfold total
  refine sum_congr rfl fun q _ => ?_
  rw [slotTotal_eq, slotTotal_eq, h]
  rw [Nat.add_left_cancel_iff]
  split
  · exact sum_congr rfl fun j _ => h q j
  · rfl

/-- **Only one place changes.** -/
theorem total_change_place (pl entry bag slot : Nat)
    (hpos : (bag = inventorySlotBag0 ∧ isOwnSlot slot = true) ∨
      (isBagSlot bag = true ∧ slot < maxBagSize))
    (h : ∀ B S, ¬(B = bag ∧ S = slot) → t.unitsAt pl entry B S = s.unitsAt pl entry B S) :
    t.total pl entry + s.unitsAt pl entry bag slot = s.total pl entry + t.unitsAt pl entry bag slot := by
  rcases hpos with ⟨rfl, hown⟩ | ⟨hbag, hlt⟩
  · have hch := total_change_slot (s := s) (t := t) pl entry slot hown fun B S h1 _ => h B S h1
    have hin : ∀ j, t.unitsAt pl entry slot j = s.unitsAt pl entry slot j := by
      intro j
      refine h slot j fun he => ?_
      rw [he.1] at hown; exact absurd hown (by decide)
    rw [slotTotal_eq, slotTotal_eq] at hch
    simp only [hin] at hch
    omega
  · have hown := isOwnSlot_of_isBagSlot bag hbag
    have hb0 : bag ≠ inventorySlotBag0 := by rintro rfl; exact absurd hown (by decide)
    have hch := total_change_slot (s := s) (t := t) pl entry bag hown
      fun B S _ h2 => h B S fun he => h2 he.1
    have htop : t.unitsAt pl entry inventorySlotBag0 bag = s.unitsAt pl entry inventorySlotBag0 bag :=
      h _ _ fun he => hb0 he.1.symm
    have hin := Ledger.sum_change_one (range maxBagSize) (fun j => t.unitsAt pl entry bag j)
      (fun j => s.unitsAt pl entry bag j) slot (mem_range.2 hlt) fun j _ hne => h bag j fun he => hne he.2
    rw [slotTotal_eq, slotTotal_eq, if_pos hbag, if_pos hbag, htop] at hch
    omega

/-! ## Putting something into an empty place -/

theorem SlotExists.pos {pl bag slot : Nat} (ho : s.Orderly om) (h : s.SlotExists pl bag slot) :
    (bag = inventorySlotBag0 ∧ isOwnSlot slot = true) ∨ (isBagSlot bag = true ∧ slot < maxBagSize) := by
  rcases h with h | ⟨hbag, b, hb, hlt⟩
  · exact Or.inl h
  · obtain ⟨hown, hs⟩ := own_eq_some s pl bag b hb
    obtain ⟨proto, -, -, -, hm⟩ := (ho.own pl bag b hown hs).1.stacked.proto
    have := proto.containerSlots_le
    refine Or.inr ⟨hbag, ?_⟩
    split at hm <;> omega

theorem own_of_slotExists (pl bag slot : Nat) (h : s.SlotExists pl bag slot) :
    (bag = inventorySlotBag0 ∧ isOwnSlot slot = true) ∨
      (bag ≠ inventorySlotBag0 ∧ isBagSlot bag = true ∧ ∃ b, s.own pl bag = some b ∧
        s.slots pl bag = some b ∧ slot < (s.goods b).numSlots) := by
  rcases h with h | ⟨hbag, b, hb, hlt⟩
  · exact Or.inl h
  · refine Or.inr ⟨?_, hbag, b, hb, (own_eq_some s pl bag b hb).2, hlt⟩
    rintro rfl
    rw [isBagSlot_bag0] at hbag; cases hbag

/-- The result of putting `x` into an empty place. -/
structure IsPut (om : ObjectMgr) (s t : Shelf) (pl bag slot x : Nat) : Prop where
  orderly : t.Orderly om
  there : t.itemAt pl bag slot = some x
  same : ∀ i, (t.goods i).entry = (s.goods i).entry ∧ (t.goods i).count = (s.goods i).count ∧
    (t.goods i).gone = (s.goods i).gone ∧ (t.goods i).numSlots = (s.goods i).numSlots
  slots : ∀ p q i, t.slots p q = some i → s.slots p q = some i ∨ i = x
  elsewhere : ∀ p B S, ¬(p = pl ∧ B = bag ∧ S = slot) → SamePlace s t p B S
  loose : ∀ y, y ≠ x → s.Loose y → t.Loose y ∧ t.goods y = s.goods y
  next : t.nextGuid = s.nextGuid

theorem put_spec (ho : s.Orderly om) (pl bag slot x : Nat) (hex : s.SlotExists pl bag slot)
    (hfree : s.itemAt pl bag slot = none) (hl : s.Loose x) (hst : s.Stacked om x) (he : s.Empty x) :
    IsPut om s (s.put pl bag slot x) pl bag slot x := by
  have hplace : ∀ p B S i, s.itemAt p B S = some i → i ≠ x := by
    rintro p B S i h rfl
    rcases itemAt_eq_some s p B S i h with ⟨-, -, hs⟩ | ⟨-, b, -, -, hin⟩
    · exact hl.slots p S hs
    · have := (ho.inside b S i hin).1
      rw [hl.container] at this; cases this
  rcases own_of_slotExists pl bag slot hex with ⟨rfl, hown⟩ | ⟨hb0, hbag, b, hob, hb, hlt⟩
  · have hput : s.put pl inventorySlotBag0 slot x = s.putOwn pl slot x := by simp [put]
    have hnot : ∀ j k, (s.goods x).bagslot j ≠ some k := fun j k hj => by rw [he j] at hj; cases hj
    have hx : FitsOwn om s pl slot x :=
      ⟨hl, ⟨hst, fun j k hj => absurd hj (hnot j k)⟩, fun j k hj => absurd hj (hnot j k), fun _ => he⟩
    have hnone : s.slots pl slot = none := by
      rw [itemAt_own, own_eq _ _ _ hown] at hfree; exact hfree
    have hat := fun p B S => putOwn_itemAt pl slot x p B S hown hx hnone
    have hxg := putOwn_goods_self s pl slot x
    rw [hput]
    refine ⟨putOwn_orderly ho pl slot x hown hx, ?_, fun i => ?_, fun p q i hs => ?_, ?_, ?_, rfl⟩
    · rw [hat, if_pos ⟨rfl, rfl, rfl⟩]
    · by_cases hi : i = x
      · rw [hi, hxg]; exact ⟨rfl, rfl, rfl, rfl⟩
      · rw [putOwn_goods_of_ne s pl slot x i hi]; exact ⟨rfl, rfl, rfl, rfl⟩
    · rw [putOwn_slots] at hs
      split at hs
      · exact Or.inr (Option.some.inj hs).symm
      · exact Or.inl hs
    · intro p B S hne
      have hsame : (s.putOwn pl slot x).itemAt p B S = s.itemAt p B S := by
        rw [hat, if_neg hne]
        split
        · -- the new object has nothing inside, and nothing was looked up here before
          next h =>
          obtain ⟨rfl, rfl, hbag⟩ := h
          rw [itemAt_bag _ _ _ _ hbag, own_eq _ _ _ hown, hnone]
          simp [inside, he S]
        · rfl
      refine ⟨hsame, fun i hi => ?_⟩
      rw [putOwn_goods_of_ne s pl slot x i (hplace p B S i hi)]
      exact ⟨rfl, rfl, rfl⟩
    · intro y hy hyl
      have hg := putOwn_goods_of_ne s pl slot x y hy
      refine ⟨⟨fun p q hs => ?_, by rw [hg]; exact hyl.container⟩, hg⟩
      rw [putOwn_slots] at hs
      split at hs
      · exact hy (Option.some.inj hs).symm
      · exact hyl.slots p q hs
  · have hput : s.put pl bag slot x = s.putIn b slot x := by simp [put, hb0, hob]
    have hx : FitsInside om s pl bag b slot x := ⟨hl, hst, he, hbag, hb, hlt⟩
    have hnone : (s.goods b).bagslot slot = none := by
      rw [itemAt_bag _ _ _ _ hbag, hob] at hfree
      simpa [inside, hlt] using hfree
    have hat := fun p B S => putIn_itemAt ho pl bag b slot x p B S hx
    have hxg := putIn_goods_self s b slot x hx.ne
    rw [hput]
    refine ⟨putIn_orderly ho pl bag b slot x hx hnone, ?_, fun i => ?_, fun p q i hs => Or.inl hs, ?_, ?_,
      rfl⟩
    · rw [hat, if_pos ⟨rfl, rfl, rfl⟩]
    · by_cases hi : i = x
      · rw [hi, hxg]; exact ⟨rfl, rfl, rfl, rfl⟩
      · by_cases hib : i = b
        · rw [hib, putIn_goods_bag s b slot x hx.ne]; exact ⟨rfl, rfl, rfl, rfl⟩
        · rw [putIn_goods_of_ne s b slot x i hi hib]; exact ⟨rfl, rfl, rfl, rfl⟩
    · intro p B S hne
      refine ⟨by rw [hat, if_neg hne], fun i hi => ?_⟩
      by_cases hib : i = b
      · rw [hib, putIn_goods_bag s b slot x hx.ne]; exact ⟨rfl, rfl, rfl⟩
      · rw [putIn_goods_of_ne s b slot x i (hplace p B S i hi) hib]
        exact ⟨rfl, rfl, rfl⟩
    · intro y hy hyl
      have hyb : y ≠ b := by rintro rfl; exact hyl.slots pl bag hb
      have hg := putIn_goods_of_ne s b slot x y hy hyb
      exact ⟨⟨hyl.slots, by rw [hg]; exact hyl.container⟩, hg⟩

/-! ## Taking something out of its place -/

/-- An object in existence that is nowhere and has nothing inside. -/
structure Spare (om : ObjectMgr) (s : Shelf) (x : Nat) : Prop where
  loose : s.Loose x
  stacked : s.Stacked om x
  empty : s.Empty x

/-- The result of taking `x`, with nothing inside, out of its place. -/
structure IsTaken (om : ObjectMgr) (s t : Shelf) (pl bag slot x : Nat) : Prop where
  orderly : t.Orderly om
  spare : t.Spare om x
  left : t.itemAt pl bag slot = none
  same : ∀ i, (t.goods i).entry = (s.goods i).entry ∧ (t.goods i).count = (s.goods i).count ∧
    (t.goods i).gone = (s.goods i).gone ∧ (t.goods i).numSlots = (s.goods i).numSlots
  owner : (t.goods x).owner = (s.goods x).owner
  unplaced : (t.goods x).slot = nullSlot
  empty : ∀ y, s.Empty y → t.Empty y
  slots : ∀ p q i, t.slots p q = some i → s.slots p q = some i
  elsewhere : ∀ p B S, ¬(p = pl ∧ B = bag ∧ S = slot) → SamePlace s t p B S
  loose : ∀ y, y ≠ x → s.Loose y → t.Loose y ∧ t.goods y = s.goods y
  next : t.nextGuid = s.nextGuid

theorem slotExists_of_item (pl bag slot i : Nat) (h : s.itemAt pl bag slot = some i) :
    s.SlotExists pl bag slot := by
  rcases itemAt_eq_some s pl bag slot i h with ⟨hb, hown, -⟩ | ⟨hbag, b, hb, hlt, -⟩
  · exact Or.inl ⟨hb, hown⟩
  · exact Or.inr ⟨hbag, b, by rw [own_eq _ _ _ (isOwnSlot_of_isBagSlot bag hbag)]; exact hb, hlt⟩

theorem take_spec (ho : s.Orderly om) (pl bag slot x : Nat) (hx : s.itemAt pl bag slot = some x)
    (he : s.Empty x) : IsTaken om s (s.take pl bag slot x) pl bag slot x := by
  rcases itemAt_eq_some s pl bag slot x hx with ⟨rfl, hown, hs⟩ | ⟨hbag, b, hb, hlt, hin⟩
  · have htake : s.take pl inventorySlotBag0 slot x = s.takeOwn pl slot x := by simp [take]
    obtain ⟨horder, hloose, hfilled⟩ := takeOwn_orderly ho pl slot x hown hs
    have hat := fun p B S => takeOwn_itemAt pl slot x p B S hown hs
    have hself := takeOwn_goods_self s pl slot x
    have hother := takeOwn_goods_of_ne s pl slot x
    have hslots : ∀ p q i, (s.takeOwn pl slot x).slots p q = some i → s.slots p q = some i := by
      intro p q i hq
      rw [takeOwn_slots] at hq
      split at hq
      · cases hq
      · exact hq
    have hg : ∀ i, ((s.takeOwn pl slot x).goods i).entry = (s.goods i).entry ∧
        ((s.takeOwn pl slot x).goods i).count = (s.goods i).count ∧
        ((s.takeOwn pl slot x).goods i).gone = (s.goods i).gone ∧
        ((s.takeOwn pl slot x).goods i).numSlots = (s.goods i).numSlots := by
      intro i
      by_cases hi : i = x
      · rw [hi, hself]; exact ⟨rfl, rfl, rfl, rfl⟩
      · rw [hother i hi]; exact ⟨rfl, rfl, rfl, rfl⟩
    rw [htake]
    refine ⟨horder, ⟨hloose, hfilled.stacked, fun j => by rw [hself]; exact he j⟩, ?_, hg, by rw [hself],
      by rw [hself], fun y hy j => ?_, hslots, ?_, ?_, rfl⟩
    · rw [hat, if_pos ⟨rfl, Or.inl ⟨rfl, rfl⟩⟩]
    · by_cases hyx : y = x
      · rw [hyx, hself]; exact he j
      · rw [hother y hyx]; exact hy j
    · intro p B S hne
      refine ⟨?_, fun i _ => ⟨(hg i).1, (hg i).2.1, (hg i).2.2.1⟩⟩
      rw [hat]
      split
      · -- in the bag that was taken nothing was to be found
        next h =>
        obtain ⟨rfl, ⟨rfl, rfl⟩ | ⟨rfl, hbag⟩⟩ := h
        · exact absurd ⟨rfl, rfl, rfl⟩ hne
        · rw [itemAt_bag _ _ _ _ hbag, own_eq _ _ _ hown, hs]
          simp [inside, he S]
      · rfl
    · intro y hy hl
      have hyg := hother y hy
      exact ⟨⟨fun p q hq => hl.slots p q (hslots p q y hq), by rw [hyg]; exact hl.container⟩, hyg⟩
  · obtain ⟨horder, hloose, hfilled, hempty⟩ := takeIn_orderly ho pl bag b slot x hbag hb hin
    have hb0 : bag ≠ inventorySlotBag0 := by rintro rfl; exact absurd hbag (by decide)
    have hob : s.own pl bag = some b := by rw [own_eq _ _ _ (isOwnSlot_of_isBagSlot bag hbag)]; exact hb
    have htake : s.take pl bag slot x = s.takeIn b slot x := by simp [take, hb0, hob]
    have hbc := (ho.own pl bag b (isOwnSlot_of_isBagSlot bag hbag) hb).2.2.1
    have hne : x ≠ b := by
      rintro rfl
      rw [(ho.inside x slot x hin).1] at hbc; cases hbc
    have hat := fun p B S => takeIn_itemAt ho pl bag b slot x p B S hbag hb hin
    have hself := takeIn_goods_self s b slot x hne
    have hbagg := takeIn_goods_bag s b slot x hne
    have hother := takeIn_goods_of_ne s b slot x
    have hg : ∀ i, ((s.takeIn b slot x).goods i).entry = (s.goods i).entry ∧
        ((s.takeIn b slot x).goods i).count = (s.goods i).count ∧
        ((s.takeIn b slot x).goods i).gone = (s.goods i).gone ∧
        ((s.takeIn b slot x).goods i).numSlots = (s.goods i).numSlots := by
      intro i
      by_cases hi : i = x
      · rw [hi, hself]; exact ⟨rfl, rfl, rfl, rfl⟩
      · by_cases hib : i = b
        · rw [hib, hbagg]; exact ⟨rfl, rfl, rfl, rfl⟩
        · rw [hother i hi hib]; exact ⟨rfl, rfl, rfl, rfl⟩
    rw [htake]
    refine ⟨horder, ⟨hloose, hfilled.stacked, hempty⟩, ?_, hg, by rw [hself], by rw [hself],
      fun y hy j => ?_, fun p q i hq => hq, ?_, ?_, rfl⟩
    · rw [hat, if_pos ⟨rfl, rfl, rfl⟩]
    · by_cases hyx : y = x
      · rw [hyx]; exact hempty j
      · by_cases hyb : y = b
        · rw [hyb] at hy
          rw [hy slot] at hin; cases hin
        · rw [hother y hyx hyb]; exact hy j
    · intro p B S hn
      exact ⟨by rw [hat, if_neg hn], fun i _ => ⟨(hg i).1, (hg i).2.1, (hg i).2.2.1⟩⟩
    · intro y hy hl
      have hyb : y ≠ b := by rintro rfl; exact hl.slots pl bag hb
      have hyg := hother y hy hyb
      exact ⟨⟨hl.slots, by rw [hyg]; exact hl.container⟩, hyg⟩

theorem IsTaken.total {pl bag slot x : Nat} (h : IsTaken om s t pl bag slot x)
    (hx : s.itemAt pl bag slot = some x) (ho : s.Orderly om) (p entry : Nat) :
    t.total p entry + (if p = pl then s.unitsOf entry x else 0) = s.total p entry := by
  by_cases hp : p = pl
  · subst hp
    have hpos := (slotExists_of_item p bag slot x hx).pos ho
    have hch := total_change_place (s := s) (t := t) p entry bag slot hpos fun B S hne =>
      (h.elsewhere p B S fun he => hne he.2).unitsAt_eq entry
    have ht : t.unitsAt p entry bag slot = 0 := by unfold unitsAt; rw [h.left]; rfl
    have hs : s.unitsAt p entry bag slot = s.unitsOf entry x := by unfold unitsAt; rw [hx]; rfl
    rw [if_pos rfl]
    omega
  · rw [if_neg hp, Nat.add_zero]
    exact total_same p entry fun B S => (h.elsewhere p B S fun he => hp he.1).unitsAt_eq entry

end Shelf

end BlizzLike
