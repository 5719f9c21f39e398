import BlizzLikeCore.Trade.TradeHandler
import BlizzLikeCore.Mail.Mailboxes

/-!
# `moveItems`

The two loops of an exchange, on two inventories in order: the offers leave (`removeOffers_gaveAll`),
and slot after slot they are stored with the other trader or go back (`moveItems_done`).  The
units of both inventories together come out right in every slot whose two items can be stored, or
whose only item can be taken back.
-/

namespace BlizzLike

namespace Holdings

variable {om : ObjectMgr} {h t : Holdings} {pl a b : Nat}

/-! ## Taking the offers out -/

theorem InOrder.congr (hin : h.InOrder om) (hs : t.shelf = h.shelf) : t.InOrder om :=
  ⟨hs ▸ hin.orderly, hs ▸ hin.bagsWorn, hs ▸ hin.alive⟩

theorem shelf_setInTrade (h : Holdings) (v : Bool) (items : List (Option Nat)) :
    (h.setInTrade v items).shelf = h.shelf := by
  unfold setInTrade
  induction items generalizing h with
  | nil => rfl
  | cons it items ih =>
    rw [List.foldl_cons, ih]
    cases it with
    | none => rfl
    | some g => exact h.shelf_modify_same g (fun x => { x with inTrade := v }) rfl

/-- An object a trader can offer: `GetItemByGuid` finds it with him, and nothing is inside. -/
structure Carried (h : Holdings) (pl g : Nat) : Prop where
  found : h.getItemByGuid pl g = some g
  empty : h.shelf.Empty g

theorem Carried.at (hc : h.Carried pl g) : ∃ bag slot, h.getItemByPos pl bag slot = some g :=
  (PostOffice.getItemByGuid_eq_some h pl g g hc.found).2

theorem getItemByGuid_mono {g : Nat} (hg : h.getItemByGuid pl g = some g)
    (hs : ∀ bag slot, h.getItemByPos pl bag slot = some g → t.getItemByPos pl bag slot = some g) :
    t.getItemByGuid pl g = some g := by
  unfold getItemByGuid at hg ⊢
  split at hg
  · next hany =>
    obtain ⟨p, hp, hat⟩ := List.any_eq_true.1 hany
    have hat' := hs p.1 p.2 (by simpa using hat)
    rw [if_pos (List.any_eq_true.2 ⟨p, hp, by simpa using hat'⟩)]
  · cases hg

/-- An offered item has left. -/
structure Gave (om : ObjectMgr) (h t : Holdings) (pl : Nat) (it : Option Nat) : Prop where
  inOrder : t.InOrder om
  spare : ∀ g, it = some g → t.shelf.Spare om g
  spares : ∀ y, it ≠ some y → h.shelf.Spare om y → t.shelf.Spare om y
  total : ∀ p e, t.shelf.total p e + (if p = pl then h.shelf.unitsIn e it else 0) = h.shelf.total p e
  same : ∀ i, (t.shelf.goods i).entry = (h.shelf.goods i).entry ∧ (t.shelf.goods i).count = (h.shelf.goods i).count
  stays : ∀ p B S i, it ≠ some i → h.getItemByPos p B S = some i → t.getItemByPos p B S = some i
  carried : ∀ q g, it ≠ some g → h.Carried q g → t.Carried q g

theorem giveAway_gave (hin : h.InOrder om) (it : Option Nat) (hc : ∀ g, it = some g → h.Carried pl g) :
    Gave om h (h.giveAway pl it) pl it := by
  cases it with
  | none =>
    exact ⟨hin, nofun, fun _ _ hs => hs, fun p e => by simp [Shelf.unitsIn, giveAway], fun _ => ⟨rfl, rfl⟩,
      fun _ _ _ _ _ hi => hi, fun _ _ _ hg => hg⟩
  | some g =>
    have hcg := hc g rfl
    unfold giveAway
    simp only
    have hsh : (h.modify g fun x => { x with giftCreator := pl }).shelf = h.shelf := h.shelf_modify_same g _ rfl
    generalize h.modify g (fun x => { x with giftCreator := pl }) = h1 at hsh
    have hin1 : h1.InOrder om := hin.congr hsh
    have hpos : ∀ p B S, h1.getItemByPos p B S = h.getItemByPos p B S := fun p B S => by
      rw [getItemByPos_shelf, hsh]; rfl
    rw [getItemByGuid_mono hcg.found fun B S hat => (hpos pl B S).trans hat]
    simp only
    obtain ⟨bag, slot, hat⟩ := hcg.at
    have hat1 : h1.getItemByPos pl bag slot = some g := (hpos pl bag slot).trans hat
    obtain ⟨hb, hsl⟩ := h1.getBagSlot_eq om pl hin1 bag slot g hat1
    rw [hb, hsl]
    have htk := h1.moveItemFromInventory_spec om pl hin1.orderly bag slot g hat1 (hsh ▸ hcg.empty)
    obtain ⟨hio, hst⟩ := inOrder_of_isTaken om pl htk hin1
    have hstays : ∀ p B S i, some g ≠ some i → h.getItemByPos p B S = some i →
        (h1.moveItemFromInventory pl bag slot).getItemByPos p B S = some i := by
      intro p B S i hne hi
      refine (htk.elsewhere p B S ?_).1.trans ((hpos p B S).trans hi)
      rintro ⟨rfl, rfl, rfl⟩
      exact hne (hat.symm.trans hi)
    refine ⟨hio, fun y hy => ?_, fun y hy hs => ?_, fun p e => ?_, fun i => ?_, hstays, fun q y hy hcy => ?_⟩
    · cases hy
      exact htk.spare
    · exact (hst y (fun he => hy (he ▸ rfl)) (by rw [hsh]; exact hs)).1
    · have htot := htk.total hat1 hin1.orderly p e
      rw [hsh] at htot
      exact htot
    · obtain ⟨h1, h2, -⟩ := htk.same i
      rw [hsh] at h1 h2
      exact ⟨h1, h2⟩
    · exact ⟨getItemByGuid_mono hcy.found fun B S => hstays q B S y hy, htk.empty y (by rw [hsh]; exact hcy.empty)⟩

/-- The items of some slots. -/
def offeredIn (rounds : List (Option Nat × Option Nat)) : List Nat :=
  rounds.flatMap fun r => r.1.toList ++ r.2.toList

/-- Units of one side's items. -/
def unitsOffered (h : Holdings) (e : Nat) (items : List (Option Nat)) : Nat :=
  (items.map (h.shelf.unitsIn e)).sum

theorem unitsIn_congr (hs : ∀ i, (t.shelf.goods i).entry = (h.shelf.goods i).entry ∧
    (t.shelf.goods i).count = (h.shelf.goods i).count) (e : Nat) (it : Option Nat) :
    t.shelf.unitsIn e it = h.shelf.unitsIn e it := by
  cases it with
  | none => rfl
  | some g =>
    show t.shelf.unitsOf e g = h.shelf.unitsOf e g
    unfold Shelf.unitsOf
    rw [(hs g).1, (hs g).2]

theorem unitsOffered_congr (hs : ∀ i, (t.shelf.goods i).entry = (h.shelf.goods i).entry ∧
    (t.shelf.goods i).count = (h.shelf.goods i).count) (e : Nat) (items : List (Option Nat)) :
    t.unitsOffered e items = h.unitsOffered e items := by
  unfold unitsOffered
  congr 1
  exact List.map_congr_left fun it _ => unitsIn_congr hs e it

theorem mem_offeredIn_cons (r : Option Nat × Option Nat) (rounds : List (Option Nat × Option Nat)) (g : Nat) :
    g ∈ offeredIn (r :: rounds) ↔ r.1 = some g ∨ r.2 = some g ∨ g ∈ offeredIn rounds := by
  simp [offeredIn]

/-- The offers of both sides have left. -/
structure GaveAll (om : ObjectMgr) (h t : Holdings) (a b : Nat) (rounds : List (Option Nat × Option Nat)) : Prop where
  inOrder : t.InOrder om
  spare : ∀ g ∈ offeredIn rounds, t.shelf.Spare om g
  spares : ∀ y, y ∉ offeredIn rounds → h.shelf.Spare om y → t.shelf.Spare om y
  total : ∀ p e, t.shelf.total p e + (if p = a then h.unitsOffered e (rounds.map Prod.fst) else 0) +
    (if p = b then h.unitsOffered e (rounds.map Prod.snd) else 0) = h.shelf.total p e
  same : ∀ i, (t.shelf.goods i).entry = (h.shelf.goods i).entry ∧ (t.shelf.goods i).count = (h.shelf.goods i).count
  stays : ∀ p B S i, i ∉ offeredIn rounds → h.getItemByPos p B S = some i → t.getItemByPos p B S = some i

theorem removeOffers_gaveAll (rounds : List (Option Nat × Option Nat)) (h : Holdings) (hin : h.InOrder om)
    (hnd : (offeredIn rounds).Nodup)
    (hc : ∀ r ∈ rounds, (∀ g, r.1 = some g → h.Carried a g) ∧ ∀ g, r.2 = some g → h.Carried b g) :
    GaveAll om h (removeOffers a b rounds h) a b rounds := by
  induction rounds generalizing h with
  | nil =>
    exact ⟨hin, fun _ hg => (nomatch hg), fun _ _ hs => hs, fun p e => by simp [unitsOffered, removeOffers],
      fun _ => ⟨rfl, rfl⟩, fun _ _ _ _ _ hi => hi⟩
  | cons r rounds ih =>
    obtain ⟨my, his⟩ := r
    have hnd' : (my.toList ++ his.toList ++ offeredIn rounds).Nodup := hnd
    obtain ⟨hmh, hrest, hdisj⟩ := List.nodup_append.1 hnd'
    obtain ⟨hmy, hhis⟩ := hc (my, his) (List.mem_cons_self ..)
    have hne : ∀ g, his = some g → my ≠ some g := by
      rintro g rfl rfl
      simp at hmh
    have hlater : ∀ g, g ∈ offeredIn rounds → my ≠ some g ∧ his ≠ some g := by
      intro g hg
      constructor
      · rintro rfl
        exact hdisj g (by simp) g hg rfl
      · rintro rfl
        exact hdisj g (by simp) g hg rfl
    have h1 := giveAway_gave hin my hmy
    have h2 := giveAway_gave h1.inOrder his fun g hg => h1.carried b g (hne g hg) (hhis g hg)
    generalize hk : (h.giveAway a my).giveAway b his = k at h2
    have hsame : ∀ i, (k.shelf.goods i).entry = (h.shelf.goods i).entry ∧
        (k.shelf.goods i).count = (h.shelf.goods i).count := fun i =>
      ⟨((h2.same i).1).trans (h1.same i).1, ((h2.same i).2).trans (h1.same i).2⟩
    have hk3 := ih k h2.inOrder hrest fun r hr => by
      obtain ⟨hr1, hr2⟩ := hc r (List.mem_cons_of_mem _ hr)
      refine ⟨fun g hg => ?_, fun g hg => ?_⟩
      · have hnot := hlater g (List.mem_flatMap.2 ⟨r, hr, by simp [hg]⟩)
        exact h2.carried a g hnot.2 (h1.carried a g hnot.1 (hr1 g hg))
      · have hnot := hlater g (List.mem_flatMap.2 ⟨r, hr, by simp [hg]⟩)
        exact h2.carried b g hnot.2 (h1.carried b g hnot.1 (hr2 g hg))
    have hrun : removeOffers a b ((my, his) :: rounds) h = removeOffers a b rounds k := by rw [← hk]; rfl
    rw [hrun]
    refine ⟨hk3.inOrder, fun g hg => ?_, fun y hy hs => ?_, fun p e => ?_, fun i => ?_, fun p B S i hi hat => ?_⟩
    · by_cases hlate : g ∈ offeredIn rounds
      · exact hk3.spare g hlate
      · refine hk3.spares g hlate ?_
        rcases (mem_offeredIn_cons _ _ _).1 hg with hg1 | hg2 | hg3
        · have hno : his ≠ some g := fun he => hne g he hg1
          exact h2.spares g hno (h1.spare g hg1)
        · exact h2.spare g hg2
        · exact absurd hg3 hlate
    · rw [mem_offeredIn_cons, not_or, not_or] at hy
      exact hk3.spares y hy.2.2 (h2.spares y hy.2.1 (h1.spares y hy.1 hs))
    · have e1 := h1.total p e
      have e2 := h2.total p e
      have e3 := hk3.total p e
      rw [unitsIn_congr h1.same] at e2
      rw [unitsOffered_congr hsame, unitsOffered_congr hsame] at e3
      simp only [unitsOffered, List.map_cons, List.sum_cons] at e3 ⊢
      split_ifs at e1 e2 e3 ⊢ <;> omega
    · exact ⟨((hk3.same i).1).trans (hsame i).1, ((hk3.same i).2).trans (hsame i).2⟩
    · rw [mem_offeredIn_cons, not_or, not_or] at hi
      exact hk3.stays p B S i hi.2.2 (h2.stays p B S i hi.2.1 (h1.stays p B S i hi.1 hat))

/-! ## Storing the offers -/

/-- An item went into the inventory of `q`. -/
structure Got (om : ObjectMgr) (h t : Holdings) (q : Nat) (it : Option Nat) : Prop where
  inOrder : t.InOrder om
  spares : ∀ y, it ≠ some y → h.shelf.Spare om y → t.shelf.Spare om y ∧ t.shelf.goods y = h.shelf.goods y
  total : ∀ p e, t.shelf.total p e = h.shelf.total p e + if p = q then h.shelf.unitsIn e it else 0
  stays : ∀ p B S i, h.getItemByPos p B S = some i → t.getItemByPos p B S = some i
  others : ∀ p B S, p ≠ q → Shelf.SamePlace h.shelf t.shelf p B S
  settled : ∀ g, it = some g → t.shelf.Settled q g
  still : ∀ p y, it ≠ some y → h.shelf.Settled p y → t.shelf.Settled p y

theorem storeOffer_got (hin : h.InOrder om) (it : Option Nat) (dest : List ItemPosCount)
    (hit : ∀ g, it = some g → h.shelf.Spare om g ∧ HasRoom om h pl g dest) :
    Got om h (h.storeOffer om pl dest it) pl it := by
  cases it with
  | none =>
    exact ⟨hin, fun _ _ hs => ⟨hs, rfl⟩, fun p e => by simp [Shelf.unitsIn, storeOffer], fun _ _ _ _ hi => hi,
      fun _ _ _ _ => ⟨rfl, fun _ _ => ⟨rfl, rfl, rfl⟩⟩, nofun, fun _ _ _ hs => hs⟩
  | some g =>
    obtain ⟨hg, hr⟩ := hit g rfl
    have hsh := (hr.shelf om h pl hin hg).2 true
    have hw := hr.wentIn om h pl hin hg _ hsh
    obtain ⟨proto, hp, hf⟩ := hr.fits
    obtain ⟨hkeep, hset⟩ := @Shelf.store_settled om pl g proto dest (hr.ne_nil om h pl hg) h.shelf hin.orderly
      hg.loose hg.stacked hg.empty hp hf
    show Got om h (h.moveItemToInventory om pl dest g true) pl (some g)
    have hst := hw.stored
    rw [← hsh] at hkeep hset
    refine ⟨hw.inOrder, fun y hy hs => hw.spares y (fun he => hy (he ▸ rfl)) hs, fun p e => ?_, hkeep,
      fun p B S hp => hst.elsewhere p B S fun d _ hpl => hp hpl.1, fun y hy => ?_, fun p y hy hs => ?_⟩
    · rw [hst.total p e, hr.count]
      show _ = _ + if p = pl then (if (h.items g).entry = e then (h.items g).count else 0) else 0
      by_cases hpp : p = pl
      · by_cases hee : e = (h.items g).entry
        · rw [if_pos ⟨hpp, hee⟩, if_pos hpp, if_pos hee.symm]
        · rw [if_neg fun hc => hee hc.2, if_pos hpp, if_neg fun hc => hee hc.symm]
      · rw [if_neg fun hc => hpp hc.1, if_neg hpp]
    · cases hy
      exact hset
    · rcases hs with ⟨B, S, hat⟩ | ⟨hlt, hl, hgone, hown⟩
      · exact Or.inl ⟨B, S, hkeep p B S y hat⟩
      · obtain ⟨hl', hsame⟩ := hst.loose y (fun he => hy (he ▸ rfl)) hlt hl
        exact Or.inr ⟨Nat.lt_of_lt_of_le hlt hst.next, hl', by rw [hsame]; exact hgone, by rw [hsame]; exact hown⟩

theorem HasRoom.mono {g : Nat} {it : Option Nat} {dest : List ItemPosCount} (hr : HasRoom om h a g dest)
    (hin : h.InOrder om) (hg : h.shelf.Spare om g) (hgot : Got om h t b it) (hab : a ≠ b) (hne : it ≠ some g) :
    HasRoom om t a g dest := by
  obtain ⟨proto, hp, hf⟩ := hr.fits
  have hsame := (hgot.spares g hne hg).2
  refine ⟨⟨proto, ?_, Shelf.Fits.of_same a proto hf hin.orderly hgot.inOrder.orderly fun B S => hgot.others a B S hab⟩, ?_, hr.notWorn⟩
  · rw [← hp]
    exact congrArg om.getItemPrototype (congrArg Goods.entry hsame)
  · exact hr.count.trans (congrArg Goods.count hsame).symm

theorem hasRoom_of_canStoreOffer (hin : h.InOrder om) {it : Option Nat} {g : Nat} (hit : it = some g)
    (hg : h.shelf.Spare om g) (hok : (h.canStoreOffer om pl [] it).1 = true) :
    HasRoom om h pl g (h.canStoreOffer om pl [] it).2 := by
  subst hit
  exact h.hasRoom_of_canStoreItem om pl hin g hg (eq_of_beq hok)

/-- Both items of a slot can be stored. -/
def roundStores (om : ObjectMgr) (h : Holdings) (a b : Nat) (r : Option Nat × Option Nat) : Bool :=
  (h.canStoreOffer om b [] r.1).1 && (h.canStoreOffer om a [] r.2).1

/-- A slot that `moveItems` deals with: both items can be stored, or its only item goes back. -/
def RoundFine (om : ObjectMgr) (h : Holdings) (a b : Nat) (r : Option Nat × Option Nat) : Prop :=
  h.roundStores om a b r = true ∨ (r.2 = none ∧ (h.canStoreOffer om a [] r.1).1 = true) ∨
    (r.1 = none ∧ (h.canStoreOffer om b [] r.2).1 = true)

/-- One slot of `moveItems` is done. -/
structure RoundDone (om : ObjectMgr) (h t : Holdings) (a b : Nat) (r : Option Nat × Option Nat) : Prop where
  inOrder : t.InOrder om
  spares : ∀ y, r.1 ≠ some y → r.2 ≠ some y → h.shelf.Spare om y →
    t.shelf.Spare om y ∧ t.shelf.goods y = h.shelf.goods y
  both : ∀ e, t.shelf.total a e + t.shelf.total b e =
    h.shelf.total a e + h.shelf.total b e + h.shelf.unitsIn e r.1 + h.shelf.unitsIn e r.2
  apart : ∀ p e, p ≠ a → p ≠ b → t.shelf.total p e = h.shelf.total p e
  swapped : h.roundStores om a b r = true → ∀ e, t.shelf.total a e = h.shelf.total a e + h.shelf.unitsIn e r.2 ∧
    t.shelf.total b e = h.shelf.total b e + h.shelf.unitsIn e r.1
  stays : ∀ p B S i, h.getItemByPos p B S = some i → t.getItemByPos p B S = some i
  handed : h.roundStores om a b r = true → ∀ g, (r.1 = some g → t.shelf.Settled b g) ∧
    (r.2 = some g → t.shelf.Settled a g)
  settled : ∀ g, r.1 = some g ∨ r.2 = some g → t.shelf.Settled a g ∨ t.shelf.Settled b g
  still : ∀ p y, r.1 ≠ some y → r.2 ≠ some y → h.shelf.Settled p y → t.shelf.Settled p y

theorem Got.roundDone_left {it : Option Nat} (hg : Got om h t a it) (hab : a ≠ b)
    (hno : h.roundStores om a b (it, none) = false) : RoundDone om h t a b (it, none) := by
  have hs : h.roundStores om a b (it, none) ≠ true := by rw [hno]; decide
  refine ⟨hg.inOrder, fun y hy _ => hg.spares y hy, fun e => ?_, fun p e hp _ => ?_, fun hc => absurd hc hs, hg.stays,
    fun hc => absurd hc hs, fun g hgg => ?_, fun p y hy _ => hg.still p y hy⟩
  · rw [hg.total a e, hg.total b e, if_pos rfl, if_neg hab.symm]
    show _ = _ + _ + h.shelf.unitsIn e it + 0
    omega
  · rw [hg.total p e, if_neg hp, Nat.add_zero]
  · rcases hgg with hgg | hgg
    · exact Or.inl (hg.settled g hgg)
    · cases hgg

theorem Got.roundDone_right {it : Option Nat} (hg : Got om h t b it) (hab : a ≠ b)
    (hno : h.roundStores om a b (none, it) = false) : RoundDone om h t a b (none, it) := by
  have hs : h.roundStores om a b (none, it) ≠ true := by rw [hno]; decide
  refine ⟨hg.inOrder, fun y _ hy => hg.spares y hy, fun e => ?_, fun p e _ hp => ?_, fun hc => absurd hc hs, hg.stays,
    fun hc => absurd hc hs, fun g hgg => ?_, fun p y _ hy => hg.still p y hy⟩
  · rw [hg.total a e, hg.total b e, if_pos rfl, if_neg hab]
    show _ = _ + _ + 0 + h.shelf.unitsIn e it
    omega
  · rw [hg.total p e, if_neg hp, Nat.add_zero]
  · rcases hgg with hgg | hgg
    · cases hgg
    · exact Or.inr (hg.settled g hgg)

/-- **A slot of `moveItems`.** -/
theorem moveRound_done (hin : h.InOrder om) (hab : a ≠ b) (r : Option Nat × Option Nat)
    (hsp : ∀ g, r.1 = some g ∨ r.2 = some g → h.shelf.Spare om g) (hne : ∀ g, r.1 = some g → r.2 ≠ some g)
    (hf : h.RoundFine om a b r) : RoundDone om h (h.moveRound om a b r.1 r.2) a b r := by
  obtain ⟨my, his⟩ := r
  unfold moveRound
  simp only
  by_cases hs : h.roundStores om a b (my, his) = true
  · rw [if_pos (show (_ && _) = true from hs)]
    obtain ⟨hb, ha⟩ := Bool.and_eq_true_iff.1 hs
    have hgot1 : Got om h (h.storeOffer om b (h.canStoreOffer om b [] my).2 my) b my :=
      storeOffer_got hin my _ fun g hg => ⟨hsp g (Or.inl hg), hasRoom_of_canStoreOffer hin hg (hsp g (Or.inl hg)) hb⟩
    generalize hk : h.storeOffer om b (h.canStoreOffer om b [] my).2 my = k at hgot1
    have hgot2 : Got om k (k.storeOffer om a (h.canStoreOffer om a [] his).2 his) a his := by
      refine storeOffer_got hgot1.inOrder his _ fun g hg => ?_
      have hg' := hsp g (Or.inr hg)
      have hmy : my ≠ some g := fun he => hne g he hg
      exact ⟨(hgot1.spares g hmy hg').1,
        (hasRoom_of_canStoreOffer hin hg hg' ha).mono hin hg' hgot1 hab hmy⟩
    generalize k.storeOffer om a (h.canStoreOffer om a [] his).2 his = t at hgot2
    have hhis : ∀ e, k.shelf.unitsIn e his = h.shelf.unitsIn e his := by
      intro e
      cases hh : his with
      | none => rfl
      | some g =>
        have hmy : my ≠ some g := fun he => hne g he hh
        show k.shelf.unitsOf e g = h.shelf.unitsOf e g
        unfold Shelf.unitsOf
        rw [(hgot1.spares g hmy (hsp g (Or.inr hh))).2]
    have hta : ∀ e, t.shelf.total a e = h.shelf.total a e + h.shelf.unitsIn e his := by
      intro e
      rw [hgot2.total a e, if_pos rfl, hgot1.total a e, if_neg hab, hhis, Nat.add_zero]
    have htb : ∀ e, t.shelf.total b e = h.shelf.total b e + h.shelf.unitsIn e my := by
      intro e
      rw [hgot2.total b e, if_neg hab.symm, hgot1.total b e, if_pos rfl, Nat.add_zero]
    have hhand : ∀ g, (my = some g → t.shelf.Settled b g) ∧ (his = some g → t.shelf.Settled a g) := fun g =>
      ⟨fun hg => hgot2.still b g (hne g hg) (hgot1.settled g hg), fun hg => hgot2.settled g hg⟩
    refine ⟨hgot2.inOrder, fun y hy1 hy2 hy => ?_, fun e => ?_, fun p e hp hq => ?_, fun _ e => ⟨hta e, htb e⟩,
      fun p B S i hi => hgot2.stays p B S i (hgot1.stays p B S i hi), fun _ => hhand, fun g hg => ?_,
      fun p y hy1 hy2 hy => hgot2.still p y hy2 (hgot1.still p y hy1 hy)⟩
    · obtain ⟨h1, h2⟩ := hgot1.spares y hy1 hy
      obtain ⟨h3, h4⟩ := hgot2.spares y hy2 h1
      exact ⟨h3, h4.trans h2⟩
    · rw [hta, htb]
      show _ = _ + _ + h.shelf.unitsIn e my + h.shelf.unitsIn e his
      omega
    · rw [hgot2.total p e, if_neg hp, hgot1.total p e, if_neg hq, Nat.add_zero]
    · rcases hg with hg | hg
      · exact Or.inr ((hhand g).1 hg)
      · exact Or.inl ((hhand g).2 hg)
  · rw [if_neg (show ¬ (_ && _) = true from hs)]
    have hno := Bool.eq_false_iff.2 hs
    rcases hf with hf | ⟨hnone, hback⟩ | ⟨hnone, hback⟩
    · exact absurd hf hs
    · obtain rfl : his = none := hnone
      have hgot : Got om h (h.takeBack om a [] my) a my := by
        unfold takeBack
        simp only
        rw [if_pos hback]
        exact storeOffer_got hin my _ fun g hg =>
          ⟨hsp g (Or.inl hg), hasRoom_of_canStoreOffer hin hg (hsp g (Or.inl hg)) hback⟩
      exact hgot.roundDone_left hab hno
    · obtain rfl : my = none := hnone
      have hgot : Got om h (h.takeBack om b [] his) b his := by
        unfold takeBack
        simp only
        rw [if_pos hback]
        exact storeOffer_got hin his _ fun g hg =>
          ⟨hsp g (Or.inr hg), hasRoom_of_canStoreOffer hin hg (hsp g (Or.inr hg)) hback⟩
      -- the other side's vector is untouched, as it offers nothing
      exact hgot.roundDone_right hab hno

/-- Every slot that comes up is one `moveItems` deals with. -/
def RoundsFine (om : ObjectMgr) (a b : Nat) : List (Option Nat × Option Nat) → Holdings → Prop
  | [], _ => True
  | r :: rounds, h => h.RoundFine om a b r ∧ RoundsFine om a b rounds (h.moveRound om a b r.1 r.2)

/-- Every `CanStoreItem` of `moveItems` succeeds. -/
def roundsStore (om : ObjectMgr) (a b : Nat) : List (Option Nat × Option Nat) → Holdings → Bool
  | [], _ => true
  | r :: rounds, h => h.roundStores om a b r && roundsStore om a b rounds (h.moveRound om a b r.1 r.2)

/-- `moveItems` is done. -/
structure AllDone (om : ObjectMgr) (h t : Holdings) (a b : Nat) (rounds : List (Option Nat × Option Nat)) : Prop where
  inOrder : t.InOrder om
  both : ∀ e, t.shelf.total a e + t.shelf.total b e = h.shelf.total a e + h.shelf.total b e +
    h.unitsOffered e (rounds.map Prod.fst) + h.unitsOffered e (rounds.map Prod.snd)
  apart : ∀ p e, p ≠ a → p ≠ b → t.shelf.total p e = h.shelf.total p e
  swapped : roundsStore om a b rounds h = true → ∀ e,
    t.shelf.total a e = h.shelf.total a e + h.unitsOffered e (rounds.map Prod.snd) ∧
      t.shelf.total b e = h.shelf.total b e + h.unitsOffered e (rounds.map Prod.fst)
  stays : ∀ p B S i, h.getItemByPos p B S = some i → t.getItemByPos p B S = some i
  handed : roundsStore om a b rounds h = true → ∀ g, (some g ∈ rounds.map Prod.fst → t.shelf.Settled b g) ∧
    (some g ∈ rounds.map Prod.snd → t.shelf.Settled a g)
  settled : ∀ g ∈ offeredIn rounds, t.shelf.Settled a g ∨ t.shelf.Settled b g
  still : ∀ p y, y ∉ offeredIn rounds → h.shelf.Settled p y → t.shelf.Settled p y

theorem unitsOffered_congr_of_mem {items : List (Option Nat)}
    (hs : ∀ g, some g ∈ items → t.shelf.goods g = h.shelf.goods g) (e : Nat) :
    t.unitsOffered e items = h.unitsOffered e items := by
  unfold unitsOffered
  congr 1
  refine List.map_congr_left fun it hit => ?_
  cases it with
  | none => rfl
  | some g =>
    show t.shelf.unitsOf e g = h.shelf.unitsOf e g
    unfold Shelf.unitsOf
    rw [hs g hit]

/-- **`moveItems`**, slot after slot. -/
theorem moveItems_done (hab : a ≠ b) (rounds : List (Option Nat × Option Nat)) (h : Holdings) (hin : h.InOrder om)
    (hnd : (offeredIn rounds).Nodup) (hsp : ∀ g ∈ offeredIn rounds, h.shelf.Spare om g)
    (hf : RoundsFine om a b rounds h) : AllDone om h (moveItems om a b rounds h) a b rounds := by
  induction rounds generalizing h with
  | nil =>
    exact ⟨hin, fun e => by simp [unitsOffered, moveItems], fun _ _ _ _ => rfl,
      fun _ e => by simp [unitsOffered, moveItems], fun _ _ _ _ hi => hi, fun _ g => by simp,
      fun _ hg => (nomatch hg), fun _ _ _ hs => hs⟩
  | cons r rounds ih =>
    have hnd' : (r.1.toList ++ r.2.toList ++ offeredIn rounds).Nodup := hnd
    obtain ⟨hmh, hrest, hdisj⟩ := List.nodup_append.1 hnd'
    have hne : ∀ g, r.1 = some g → r.2 ≠ some g := by
      intro g h1 h2
      rw [h1, h2] at hmh
      simp at hmh
    have hlater : ∀ g ∈ offeredIn rounds, r.1 ≠ some g ∧ r.2 ≠ some g := by
      intro g hg
      constructor
      · intro he
        exact hdisj g (by simp [he]) g hg rfl
      · intro he
        exact hdisj g (by simp [he]) g hg rfl
    have hd := moveRound_done hin hab r (fun g hg => hsp g ((mem_offeredIn_cons _ _ _).2 (hg.elim Or.inl (Or.inr ∘ Or.inl))))
      hne hf.1
    have hd2 := ih (h.moveRound om a b r.1 r.2) hd.inOrder hrest (fun g hg => (hd.spares g (hlater g hg).1
      (hlater g hg).2 (hsp g ((mem_offeredIn_cons _ _ _).2 (Or.inr (Or.inr hg))))).1) hf.2
    have hrun : moveItems om a b (r :: rounds) h = moveItems om a b rounds (h.moveRound om a b r.1 r.2) := rfl
    rw [hrun]
    generalize moveItems om a b rounds (h.moveRound om a b r.1 r.2) = t at hd2
    have hmem1 : ∀ g, some g ∈ rounds.map Prod.fst → g ∈ offeredIn rounds := by
      intro g hg
      obtain ⟨r', hr', he⟩ := List.mem_map.1 hg
      exact List.mem_flatMap.2 ⟨r', hr', by simp [he]⟩
    have hmem2 : ∀ g, some g ∈ rounds.map Prod.snd → g ∈ offeredIn rounds := by
      intro g hg
      obtain ⟨r', hr', he⟩ := List.mem_map.1 hg
      exact List.mem_flatMap.2 ⟨r', hr', by simp [he]⟩
    have hsame : ∀ g ∈ offeredIn rounds, (h.moveRound om a b r.1 r.2).shelf.goods g = h.shelf.goods g := fun g hg =>
      (hd.spares g (hlater g hg).1 (hlater g hg).2 (hsp g ((mem_offeredIn_cons _ _ _).2 (Or.inr (Or.inr hg))))).2
    have hu1 : ∀ e, (h.moveRound om a b r.1 r.2).unitsOffered e (rounds.map Prod.fst) =
        h.unitsOffered e (rounds.map Prod.fst) := unitsOffered_congr_of_mem fun g hg => hsame g (hmem1 g hg)
    have hu2 : ∀ e, (h.moveRound om a b r.1 r.2).unitsOffered e (rounds.map Prod.snd) =
        h.unitsOffered e (rounds.map Prod.snd) := unitsOffered_congr_of_mem fun g hg => hsame g (hmem2 g hg)
    have hcons : ∀ e, h.unitsOffered e ((r :: rounds).map Prod.fst) =
          h.shelf.unitsIn e r.1 + h.unitsOffered e (rounds.map Prod.fst) ∧
        h.unitsOffered e ((r :: rounds).map Prod.snd) =
          h.shelf.unitsIn e r.2 + h.unitsOffered e (rounds.map Prod.snd) := fun e => ⟨rfl, rfl⟩
    refine ⟨hd2.inOrder, fun e => ?_, fun p e hp hq => (hd2.apart p e hp hq).trans (hd.apart p e hp hq), fun hs e => ?_,
      fun p B S i hi => hd2.stays p B S i (hd.stays p B S i hi), fun hs g => ?_, fun g hg => ?_, fun p y hy hs => ?_⟩
    · have e1 := hd.both e
      have e2 := hd2.both e
      rw [hu1, hu2] at e2
      rw [(hcons e).1, (hcons e).2]
      omega
    · obtain ⟨hs1, hs2⟩ := Bool.and_eq_true_iff.1 hs
      obtain ⟨e1, e2⟩ := hd.swapped hs1 e
      obtain ⟨e3, e4⟩ := hd2.swapped hs2 e
      rw [hu2] at e3
      rw [hu1] at e4
      rw [(hcons e).1, (hcons e).2]
      constructor <;> omega
    · obtain ⟨hs1, hs2⟩ := Bool.and_eq_true_iff.1 hs
      obtain ⟨g1, g2⟩ := hd.handed hs1 g
      obtain ⟨g3, g4⟩ := hd2.handed hs2 g
      refine ⟨fun hg => ?_, fun hg => ?_⟩
      · rcases List.mem_cons.1 hg with hg | hg
        · have hnot : g ∉ offeredIn rounds := fun hc => (hlater g hc).1 hg.symm
          exact hd2.still b g hnot (g1 hg.symm)
        · exact g3 hg
      · rcases List.mem_cons.1 hg with hg | hg
        · have hnot : g ∉ offeredIn rounds := fun hc => (hlater g hc).2 hg.symm
          exact hd2.still a g hnot (g2 hg.symm)
        · exact g4 hg
    · by_cases hlate : g ∈ offeredIn rounds
      · exact hd2.settled g hlate
      · have hnow : r.1 = some g ∨ r.2 = some g := by
          rcases (mem_offeredIn_cons _ _ _).1 hg with hg | hg | hg
          · exact Or.inl hg
          · exact Or.inr hg
          · exact absurd hg hlate
        exact (hd.settled g hnow).imp (hd2.still a g hlate) (hd2.still b g hlate)
    · rw [mem_offeredIn_cons, not_or, not_or] at hy
      exact hd2.still p y hy.2.2 (hd.still p y hy.1 hy.2.1 hs)

end Holdings

end BlizzLike
