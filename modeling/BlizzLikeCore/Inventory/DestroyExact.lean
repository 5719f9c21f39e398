import BlizzLikeCore.Inventory.DestroyCount

/-!
# When exactly the number asked for is destroyed

`DestroyItemCount` without the check of what can be taken off, as a quest calls it.  It destroys as many as
it meets, up to the number that is asked for.  A bag that is worn is destroyed like any other item, and
what it holds is lost with it.

    coversCount           : what is met covers the count, and nothing else is lost
    destroyItemCount_exactly_iff : exactly the count is destroyed just if it is covered
-/

namespace BlizzLike

namespace Holdings

open Finset

variable (om : ObjectMgr) (v : FighterView) (h : Holdings) (pl item : Nat)

/-! ## The condition -/

/-- The item at a position holds something that is not of the entry. -/
def holdsElse (p : Nat × Nat) : Bool :=
  match h.getItemByPos pl p.1 p.2 with
  | none => false
  | some g => (List.range (h.items g).numSlots).any fun j =>
      match (h.items g).bagslot j with
      | some k => (h.items k).entry != item
      | none => false

/-- At the positions ahead there are as many units as are needed, and a bag that goes with them holds
nothing else. -/
def coversCount : Nat → List (Nat × Nat) → Bool
  | need, [] => need == 0
  | need, p :: ps =>
    let units := h.shelf.unitsAt pl item p.1 p.2
    if need < units then true
    else if units = 0 then coversCount need ps
    else !h.holdsElse pl item p && coversCount (need - units) ps

/-! ## Lemmas -/

section
variable {om : ObjectMgr} {v : FighterView} {h t : Holdings} {pl item count need : Nat} {ps qs : List (Nat × Nat)}
  {p : Nat × Nat} {s : Holdings × Nat}

theorem coversCount_zero (ps : List (Nat × Nat)) : h.coversCount pl item 0 ps = true := by
  induction ps with
  | nil => rfl
  | cons p ps ih =>
    unfold coversCount
    dsimp only
    split
    · rfl
    next hle =>
    rw [if_pos (Nat.eq_zero_of_not_pos hle)]
    exact ih

theorem coversCount_more (hmore : need < h.shelf.unitsAt pl item p.1 p.2) :
    h.coversCount pl item need (p :: ps) = true := if_pos hmore

theorem coversCount_pass (hzero : h.shelf.unitsAt pl item p.1 p.2 = 0) :
    h.coversCount pl item need (p :: ps) = h.coversCount pl item need ps := by
  rw [coversCount]
  simp [hzero]

theorem coversCount_take (hpos : h.shelf.unitsAt pl item p.1 p.2 ≠ 0)
    (hle : h.shelf.unitsAt pl item p.1 p.2 ≤ need) :
    h.coversCount pl item need (p :: ps) =
      (!h.holdsElse pl item p && h.coversCount pl item (need - h.shelf.unitsAt pl item p.1 p.2) ps) := by
  rw [coversCount, if_neg (Nat.not_lt.2 hle), if_neg hpos]

theorem coversCount_omit (rs : List (Nat × Nat)) (hqs : ∀ q ∈ qs, h.shelf.unitsAt pl item q.1 q.2 = 0) :
    h.coversCount pl item need (rs ++ (qs ++ ps)) = h.coversCount pl item need (rs ++ ps) := by
  induction rs generalizing need with
  | nil =>
    induction qs with
    | nil => rfl
    | cons q qs ih =>
      rw [List.forall_mem_cons] at hqs
      exact (coversCount_pass hqs.1).trans (ih hqs.2)
  | cons r rs ih =>
    rw [List.cons_append, List.cons_append, coversCount, coversCount, ih, ih]

/-! ### Where something else is lost -/

/-- Items went, and of those of other entries nothing but their places changed. -/
structure Shrinks (h t : Holdings) (item : Nat) : Prop where
  slots : ∀ p q, t.slots p q = h.slots p q ∨ t.slots p q = none
  entry : ∀ i, (t.items i).entry = (h.items i).entry
  count : ∀ i, (h.items i).entry ≠ item → (t.items i).count = (h.items i).count
  numSlots : ∀ i, (t.items i).numSlots = (h.items i).numSlots
  bagslot : ∀ i j, (t.items i).bagslot j = (h.items i).bagslot j ∨ (t.items i).bagslot j = none

theorem Shrinks.refl : Shrinks h h item :=
  ⟨fun _ _ => .inl rfl, fun _ => rfl, fun _ _ => rfl, fun _ => rfl, fun _ _ => .inl rfl⟩

theorem Shrinks.trans {k : Holdings} (h1 : Shrinks h k item) (h2 : Shrinks k t item) : Shrinks h t item := by
  refine ⟨fun p q => ?_, fun i => (h2.entry i).trans (h1.entry i), fun i hi => ?_,
    fun i => (h2.numSlots i).trans (h1.numSlots i), fun i j => ?_⟩
  · rcases h2.slots p q with heq | hnone
    · rw [heq]
      exact h1.slots p q
    · exact .inr hnone
  · exact (h2.count i (by rwa [h1.entry i])).trans (h1.count i hi)
  · rcases h2.bagslot i j with heq | hnone
    · rw [heq]
      exact h1.bagslot i j
    · exact .inr hnone

theorem Shrinks.congr {k : Holdings} (hs : Shrinks h k item) (hslots : t.slots = k.slots)
    (hitems : t.items = k.items) : Shrinks h t item := by
  refine ⟨fun p q => ?_, fun i => ?_, fun i hi => ?_, fun i => ?_, fun i j => ?_⟩
  · rw [hslots]
    exact hs.slots p q
  · rw [hitems]
    exact hs.entry i
  · rw [hitems]
    exact hs.count i hi
  · rw [hitems]
    exact hs.numSlots i
  · rw [hitems]
    exact hs.bagslot i j

theorem shrinks_modify (g : Nat) (f : Item → Item) (hentry : (f (h.items g)).entry = (h.items g).entry)
    (hcount : (h.items g).entry ≠ item → (f (h.items g)).count = (h.items g).count)
    (hnum : (f (h.items g)).numSlots = (h.items g).numSlots)
    (hbag : ∀ j, (f (h.items g)).bagslot j = (h.items g).bagslot j ∨ (f (h.items g)).bagslot j = none) :
    Shrinks h (h.modify g f) item := by
  have hself : (h.modify g f).items g = f (h.items g) := Function.update_self ..
  have hother : ∀ i, i ≠ g → (h.modify g f).items i = h.items i := fun i hi => Function.update_of_ne hi ..
  refine ⟨fun _ _ => .inl rfl, fun i => ?_, fun i hi => ?_, fun i => ?_, fun i j => ?_⟩ <;>
    by_cases hig : i = g
  · rw [hig, hself, hentry]
  · rw [hother i hig]
  · rw [hig] at hi ⊢
    rw [hself, hcount hi]
  · rw [hother i hig]
  · rw [hig, hself, hnum]
  · rw [hother i hig]
  · rw [hig, hself]
    exact hbag j
  · exact .inl (congrArg (fun x : Item => x.bagslot j) (hother i hig))

theorem shrinks_keep (g : Nat) (f : Item → Item) (hentry : (f (h.items g)).entry = (h.items g).entry)
    (hcount : (f (h.items g)).count = (h.items g).count) (hnum : (f (h.items g)).numSlots = (h.items g).numSlots)
    (hbag : (f (h.items g)).bagslot = (h.items g).bagslot) : Shrinks h (h.modify g f) item :=
  shrinks_modify g f hentry (fun _ => hcount) hnum fun j => .inl (congrFun hbag j)

theorem shrinks_setState (g : Nat) (state : ItemUpdateState) : Shrinks h (h.setState pl g state) item := by
  have hremove : Shrinks h (h.removeFromUpdateQueueOf pl g) item := by
    unfold removeFromUpdateQueueOf
    split
    · exact .refl
    split
    · exact .refl
    split
    · exact .refl
    · exact (shrinks_keep g (fun it => { it with uQueuePos := -1 }) rfl rfl rfl rfl).congr rfl rfl
  have hdelete : ∀ k : Holdings, Shrinks k (k.deleteItem g) item := by
    intro k
    unfold deleteItem
    refine ⟨fun _ _ => .inl rfl, fun i => ?_, fun i _ => ?_, fun i => ?_, fun i j => .inl ?_⟩
    all_goals
      dsimp only
      split <;> rfl
  have hadd : ∀ k : Holdings, Shrinks k (k.addToUpdateQueueOf pl g) item := by
    intro k
    unfold addToUpdateQueueOf
    split
    · exact .refl
    split
    · exact .refl
    split
    · exact .refl
    · exact (shrinks_keep g (fun it => { it with uQueuePos := toInt16 (k.itemUpdateQueue pl).length })
        rfl rfl rfl rfl).congr rfl rfl
  unfold setState
  split
  · exact hremove.trans (hdelete _)
  split
  · refine (shrinks_keep g _ ?_ ?_ ?_ ?_).trans (hadd _) <;> split <;> rfl
  · exact shrinks_keep g _ rfl rfl rfl rfl

theorem shrinks_setSlot (slot : Nat) : Shrinks h (h.setSlot pl slot none) item := by
  refine ⟨fun p q => ?_, fun _ => rfl, fun _ _ => rfl, fun _ => rfl, fun _ _ => .inl rfl⟩
  unfold setSlot
  dsimp only
  split
  · exact .inr rfl
  · exact .inl rfl

theorem shrinks_bagRemoveItem (b slot : Nat) : Shrinks h (h.bagRemoveItem b slot) item := by
  unfold bagRemoveItem
  refine Shrinks.trans ?_ (shrinks_modify b _ rfl (fun _ => rfl) rfl fun j => ?_)
  · split
    · exact shrinks_keep _ _ rfl rfl rfl rfl
    · exact .refl
  · by_cases hj : j = slot
    · exact .inr (hj ▸ Function.update_self ..)
    · exact .inl (Function.update_of_ne hj ..)

theorem shrinks_destroyAlone (bag slot : Nat) : Shrinks h (h.destroyAlone pl bag slot) item := by
  unfold destroyAlone
  split
  · exact .refl
  next g _ =>
  refine Shrinks.trans ?_ (shrinks_setState g .removed)
  refine Shrinks.trans ?_ (shrinks_keep g _ rfl rfl rfl rfl)
  split
  · exact shrinks_setSlot slot
  · split
    · exact .refl
    · exact shrinks_bagRemoveItem _ slot

theorem shrinks_destroyItem (om : ObjectMgr) (pl bag slot : Nat) :
    Shrinks h (h.destroyItem om pl bag slot) item := by
  have hall : ∀ (is : List Nat) (k : Holdings),
      Shrinks k (is.foldl (fun h i => h.destroyAlone pl slot i) k) item := by
    intro is
    induction is with
    | nil => exact fun _ => .refl
    | cons i is ih => exact fun k => (shrinks_destroyAlone slot i).trans (ih _)
  unfold destroyItem
  split
  · exact .refl
  split
  · exact (hall _ h).trans (shrinks_destroyAlone bag slot)
  · exact shrinks_destroyAlone bag slot

theorem Shrinks.itemAt (hs : Shrinks h t item) {B S i : Nat} (hi : t.shelf.itemAt pl B S = some i) :
    h.shelf.itemAt pl B S = some i := by
  have hslot : ∀ q x, t.shelf.slots pl q = some x → h.shelf.slots pl q = some x := by
    intro q x hx
    rcases hs.slots pl q with heq | hnone
    · exact heq.symm.trans hx
    · exact absurd (hnone.symm.trans hx) (by simp)
  rcases Shelf.itemAt_eq_some t.shelf pl B S i hi with ⟨rfl, hown, hx⟩ | ⟨hbag, b, hx, hlt, hin⟩
  · rw [Shelf.itemAt_own, Shelf.own_eq _ _ _ hown]
    exact hslot S i hx
  · rw [Shelf.itemAt_bag _ _ _ _ hbag, Shelf.own_eq _ _ _ (Shelf.isOwnSlot_of_isBagSlot B hbag), hslot B b hx]
    have hnum : (h.shelf.goods b).numSlots = (t.shelf.goods b).numSlots := (hs.numSlots b).symm
    have hin' : (h.shelf.goods b).bagslot S = some i := by
      rcases hs.bagslot b S with heq | hnone
      · exact heq.symm.trans hin
      · exact absurd (hnone.symm.trans hin) (by simp)
    show h.shelf.inside b S = some i
    unfold Shelf.inside
    rw [if_pos (hnum ▸ hlt), hin']

theorem Shrinks.unitsAt_le (hs : Shrinks h t item) {e : Nat} (he : e ≠ item) (B S : Nat) :
    t.shelf.unitsAt pl e B S ≤ h.shelf.unitsAt pl e B S := by
  cases hi : t.shelf.itemAt pl B S with
  | none =>
    rw [Shelf.unitsAt_none _ _ _ _ _ hi]
    exact Nat.zero_le _
  | some i =>
    have hi' := hs.itemAt hi
    have ht : t.shelf.unitsAt pl e B S = if (t.items i).entry = e then (t.items i).count else 0 :=
      unitsAt_of_some hi
    have hh : h.shelf.unitsAt pl e B S = if (h.items i).entry = e then (h.items i).count else 0 :=
      unitsAt_of_some hi'
    rw [ht, hh, hs.entry i]
    by_cases hentry : (h.items i).entry = e
    · rw [if_pos hentry, if_pos hentry, hs.count i (hentry ▸ he)]
    · rw [if_neg hentry, if_neg hentry]

/-- Something of another entry is lost. -/
structure Loses (h t : Holdings) (pl item : Nat) : Prop where
  shrinks : Shrinks h t item
  lost : ∃ B S e, e ≠ item ∧ isBagSlot B = true ∧ S < maxBagSize ∧ 0 < h.shelf.unitsAt pl e B S ∧
    t.shelf.itemAt pl B S = none

theorem Loses.trans {k : Holdings} (hl : Loses h k pl item) (hs : Shrinks k t item) : Loses h t pl item := by
  obtain ⟨B, S, e, he, hB, hS, hpos, hnone⟩ := hl.lost
  refine ⟨hl.shrinks.trans hs, B, S, e, he, hB, hS, hpos, ?_⟩
  cases hi : t.shelf.itemAt pl B S with
  | none => rfl
  | some i => exact absurd (hnone.symm.trans (hs.itemAt hi)) (by simp)

/-- **What is lost is missed**. -/
theorem Loses.total_lt (hl : Loses h t pl item) : ∃ e, e ≠ item ∧ t.shelf.total pl e < h.shelf.total pl e := by
  obtain ⟨B, S, e, he, hB, hS, hpos, hnone⟩ := hl.lost
  refine ⟨e, he, ?_⟩
  have hslot : ∀ q, t.shelf.slotTotal pl e q ≤ h.shelf.slotTotal pl e q := by
    intro q
    rw [Shelf.slotTotal_eq, Shelf.slotTotal_eq]
    refine Nat.add_le_add (hl.shrinks.unitsAt_le he _ _) ?_
    split
    · exact sum_le_sum fun j _ => hl.shrinks.unitsAt_le he _ _
    · exact Nat.le_refl _
  refine sum_lt_sum (fun q _ => hslot q)
    ⟨B, (Shelf.mem_ownSlots B).2 (Shelf.isOwnSlot_of_isBagSlot B hB), ?_⟩
  rw [Shelf.slotTotal_eq, Shelf.slotTotal_eq, if_pos hB, if_pos hB]
  refine Nat.add_lt_add_of_le_of_lt (hl.shrinks.unitsAt_le he _ _) ?_
  refine sum_lt_sum (fun j _ => hl.shrinks.unitsAt_le he _ _) ⟨S, mem_range.2 hS, ?_⟩
  rw [Shelf.unitsAt_none _ _ _ _ _ hnone]
  exact hpos

/-! ### The walk -/

/-- What `DestroyItemCount` keeps, with the positions ahead of it. -/
structure Spends (om : ObjectMgr) (h : Holdings) (pl item count : Nat) (ps : List (Nat × Nat))
    (s : Holdings × Nat) : Prop where
  inOrder : s.1.InOrder om
  gone : Gone om h pl item s.2 s.1
  shrinks : Shrinks h s.1 item
  le : s.2 ≤ count
  nodup : ps.Nodup
  /-- Only where the entry was met is anything changed. -/
  same : ∀ B S, Shelf.SamePlace h.shelf s.1.shelf pl B S ∨
    ((B, S) ∉ ps ∧ h.shelf.unitsAt pl item B S ≠ 0 ∧ s.1.shelf.itemAt pl B S = none)
  /-- The bags behind are cleared of the entry. -/
  cleared : ∀ bag j, 19 ≤ bag → bag < 23 → j < maxBagSize → (bag, j) ∉ ps →
    s.1.shelf.unitsAt pl item bag j = 0
  covers : h.coversCount pl item (count - s.2) ps = h.coversCount pl item count walked

/-- What it returns. -/
def Returns (om : ObjectMgr) (h : Holdings) (pl item count : Nat) (t : Holdings) : Prop :=
  if h.coversCount pl item count walked then t.InOrder om ∧ Gone om h pl item count t
  else Loses h t pl item ∨ ∃ n < count, Gone om h pl item n t

theorem Spends.ahead (hs : Spends om h pl item count (p :: ps) s) :
    Shelf.SamePlace h.shelf s.1.shelf pl p.1 p.2 :=
  (hs.same p.1 p.2).resolve_right fun hno => hno.1 List.mem_cons_self

theorem Spends.pass (hs : Spends om h pl item count (p :: ps) s) (hzero : s.1.shelf.unitsAt pl item p.1 p.2 = 0) :
    Spends om h pl item count ps s := by
  have hzero' : h.shelf.unitsAt pl item p.1 p.2 = 0 := (hs.ahead.unitsAt_eq item).symm.trans hzero
  refine ⟨hs.inOrder, hs.gone, hs.shrinks, hs.le, (List.nodup_cons.1 hs.nodup).2, fun B S => ?_,
    fun bag j hlo hhi hj hnot => ?_, (coversCount_pass hzero').symm.trans hs.covers⟩
  · exact (hs.same B S).imp_right fun hno => ⟨fun hin => hno.1 (List.mem_cons_of_mem _ hin), hno.2⟩
  · by_cases heq : (bag, j) = p
    · rw [← heq] at hzero
      exact hzero
    · exact hs.cleared bag j hlo hhi hj fun hin => (List.mem_cons.1 hin).elim heq hnot

theorem Spends.omit (rs : List (Nat × Nat)) (hs : Spends om h pl item count (rs ++ (qs ++ ps)) s)
    (hqs : ∀ q ∈ qs, s.1.shelf.unitsAt pl item q.1 q.2 = 0) : Spends om h pl item count (rs ++ ps) s := by
  have hsub : (rs ++ ps).Sublist (rs ++ (qs ++ ps)) := (List.sublist_append_right qs ps).append_left rs
  have hqs' : ∀ q ∈ qs, h.shelf.unitsAt pl item q.1 q.2 = 0 := by
    intro q hq
    refine ((hs.same q.1 q.2).resolve_right fun hno => hno.1 ?_).unitsAt_eq item ▸ hqs q hq
    exact List.mem_append_right _ (List.mem_append_left _ hq)
  refine ⟨hs.inOrder, hs.gone, hs.shrinks, hs.le, hs.nodup.sublist hsub, fun B S => ?_,
    fun bag j hlo hhi hj hnot => ?_, (coversCount_omit rs hqs').symm.trans hs.covers⟩
  · exact (hs.same B S).imp_right fun hno => ⟨fun hin => hno.1 (hsub.subset hin), hno.2⟩
  · by_cases hin : (bag, j) ∈ qs
    · exact hqs _ hin
    · refine hs.cleared bag j hlo hhi hj fun hmem => ?_
      rcases List.mem_append.1 hmem with h1 | h1
      · exact hnot (List.mem_append_left _ h1)
      · exact (List.mem_append.1 h1).elim hin fun h2 => hnot (List.mem_append_right _ h2)

/-! ### Turns -/

theorem destroyItem_inOrder (hin : h.InOrder om) {bag slot g : Nat} (hg : h.getItemByPos pl bag slot = some g)
    (he : h.shelf.Empty g) :
    (h.destroyItem om pl bag slot).InOrder om ∧ (h.destroyItem om pl bag slot).shelf.itemAt pl bag slot = none := by
  obtain ⟨k, htaken, hgone, -⟩ := destroyAlone_taken hin.orderly hg he
  have hk := (inOrder_of_isTaken om pl htaken hin).1
  rw [destroyItem_eq hin.orderly hg]
  refine ⟨(inOrder_of_discard om k hk g htaken.spare _ hgone).1, ?_⟩
  rw [hgone]
  exact (Shelf.modify_loose_samePlace hk.orderly g htaken.spare.loose _ pl bag slot).1.trans htaken.left

theorem Spends.take {k : Holdings} {g remcount : Nat} (hs : Spends om h pl item count (p :: ps) (k, remcount))
    (hg : k.getItemByPos pl p.1 p.2 = some g) (hentry : (k.items g).entry = item)
    (hfits : (k.items g).count + remcount ≤ count) (he : k.shelf.Empty g) (helse : h.holdsElse pl item p = false) :
    Spends om h pl item count ps (k.destroyItem om pl p.1 p.2, remcount + (k.items g).count) := by
  have ho : k.shelf.Orderly om := hs.inOrder.orderly
  obtain ⟨hin, hleft⟩ := destroyItem_inOrder hs.inOrder hg he
  have hd := destroyItem_spec ho hg he
  have hunits : k.shelf.unitsAt pl item p.1 p.2 = (k.items g).count := by
    rw [unitsAt_of_some hg, if_pos hentry]
  have hunits' : h.shelf.unitsAt pl item p.1 p.2 = (k.items g).count := (hs.ahead.unitsAt_eq item).symm.trans hunits
  have hpos := (stack_bounds ho hg).1
  obtain ⟨hnew, hnodup⟩ := List.nodup_cons.1 hs.nodup
  refine ⟨hin, hs.gone.destroyed hd hentry, hs.shrinks.trans (shrinks_destroyItem om pl p.1 p.2), ?_, hnodup,
    fun B S => ?_, fun bag j hlo hhi hj hnot => ?_, ?_⟩
  · show remcount + (k.items g).count ≤ count
    omega
  · by_cases heq : (B, S) = p
    · subst heq
      exact .inr ⟨hnew, by rw [hunits']; omega, hleft⟩
    · have helsewhere := hd.elsewhere pl B S fun hplace => heq (Prod.ext hplace.2.1 hplace.2.2)
      rcases hs.same B S with hsame | ⟨hnot, hunit, hnone⟩
      · exact .inl (hsame.trans helsewhere)
      · exact .inr ⟨fun hin => hnot (List.mem_cons_of_mem _ hin), hunit, helsewhere.1.trans hnone⟩
  · by_cases heq : (bag, j) = p
    · subst heq
      exact Shelf.unitsAt_none _ _ _ _ _ hleft
    · have helsewhere := hd.elsewhere pl bag j fun hplace => heq (Prod.ext hplace.2.1 hplace.2.2)
      exact (helsewhere.unitsAt_eq item).trans
        (hs.cleared bag j hlo hhi hj fun hin => (List.mem_cons.1 hin).elim heq hnot)
  · have hcovers := hs.covers
    rw [coversCount_take (by omega) (by rw [hunits']; show _ ≤ count - remcount; omega), helse, hunits'] at hcovers
    rw [← hcovers]
    show h.coversCount pl item (count - (remcount + (k.items g).count)) ps = _
    rw [Bool.not_false, Bool.true_and, Nat.sub_add_eq]

theorem returns_covered (hcovers : h.coversCount pl item count walked = true) (hin : t.InOrder om)
    (hg : Gone om h pl item count t) : Returns om h pl item count t := by
  unfold Returns
  rw [if_pos hcovers]
  exact ⟨hin, hg⟩

theorem returns_lost (hcovers : h.coversCount pl item count walked = false) (hl : Loses h t pl item) :
    Returns om h pl item count t := by
  unfold Returns
  rw [if_neg (by simp [hcovers])]
  exact .inl hl

/-- **A turn of the walk** at an item with nothing inside. -/
theorem Spends.turn (ho : h.shelf.Orderly om) (hs : Spends om h pl item count (p :: ps) s)
    (hempty : ∀ g, s.1.getItemByPos pl p.1 p.2 = some g → (s.1.items g).entry = item →
      (s.1.items g).count + s.2 ≤ count → s.1.shelf.Empty g ∧ h.holdsElse pl item p = false) :
    EarlyReturn.Meets (destroyTurn om v pl item count false p s) (Spends om h pl item count ps)
      (Returns om h pl item count) := by
  obtain ⟨k, remcount⟩ := s
  have hle : remcount ≤ count := hs.le
  have hsmall : remcount ≤ 118 * (255 + 36 * 255) := hs.gone.small ho
  have hcovers := hs.covers
  unfold destroyTurn
  dsimp only at hempty hcovers ⊢
  cases hg : k.getItemByPos pl p.1 p.2 with
  | none => exact hs.pass (Shelf.unitsAt_none _ _ _ _ _ hg)
  | some g =>
    have hunits : k.shelf.unitsAt pl item p.1 p.2 = if (k.items g).entry = item then (k.items g).count else 0 :=
      unitsAt_of_some hg
    have hstack : (k.items g).count ≤ 255 := (stack_bounds hs.inOrder.orderly hg).2
    dsimp only
    by_cases hentry : (k.items g).entry = item
    swap
    · rw [if_neg hentry] at hunits ⊢
      exact hs.pass hunits
    rw [if_pos hentry] at hunits
    have hunits' : h.shelf.unitsAt pl item p.1 p.2 = (k.items g).count :=
      (hs.ahead.unitsAt_eq item).symm.trans hunits
    rw [if_pos hentry, u32_eq _ (by omega), u32_eq _ (by omega)]
    split
    · next hfits =>
      obtain ⟨he, helse⟩ := hempty g hg hentry hfits
      have htaken := hs.take hg hentry hfits he helse
      rw [if_pos (.inl rfl)]
      split
      · next hdone =>
        have hsum : remcount + (k.items g).count = count := by omega
        refine returns_covered ?_ htaken.inOrder (hsum ▸ htaken.gone)
        have hlast := htaken.covers
        rw [hsum, Nat.sub_self, coversCount_zero] at hlast
        exact hlast.symm
      · exact htaken
    · next hmore =>
      have hmore : count < (k.items g).count + remcount := Nat.lt_of_not_le hmore
      rw [modify_left hmore hstack hsmall hle]
      refine returns_covered ?_ ?_ (lessened_gone hs.inOrder.orderly hs.gone hg hentry hle hmore)
      · rw [← hcovers]
        exact coversCount_more (by rw [hunits']; omega)
      · exact (inOrder_of_setCount om k pl hs.inOrder p.1 p.2 g _ hg (by omega) (by omega) _
          (shelf_lessened hs.inOrder.orderly hg _)).1

theorem Loses.turn (hcovers : h.coversCount pl item count walked = false) (hl : Loses h s.1 pl item) :
    EarlyReturn.Meets (destroyTurn om v pl item count false p s) (fun s => Loses h s.1 pl item)
      (Returns om h pl item count) := by
  unfold destroyTurn
  split
  · exact hl
  next g hg =>
  split
  swap
  · exact hl
  next hentry =>
  split
  · rw [if_pos (.inl rfl)]
    have hdestroyed := hl.trans (shrinks_destroyItem om pl p.1 p.2)
    dsimp only
    split
    · exact returns_lost hcovers hdestroyed
    · exact hdestroyed
  · refine returns_lost hcovers (hl.trans ?_)
    refine Shrinks.trans ?_ (shrinks_setState g .changed)
    exact shrinks_modify g _ rfl (fun hne => absurd hentry hne) rfl fun _ => .inl rfl

theorem slots_setState (g : Nat) (state : ItemUpdateState) : (h.setState pl g state).slots = h.slots := by
  unfold setState removeFromUpdateQueueOf addToUpdateQueueOf
  repeat (first | rfl | split)

theorem own_destroyItem (slot : Nat) : (h.destroyItem om pl inventorySlotBag0 slot).shelf.own pl slot = none := by
  have halone : ∀ k : Holdings, (k.destroyAlone pl inventorySlotBag0 slot).shelf.own pl slot = none := by
    intro k
    unfold destroyAlone
    cases hg : k.getItemByPos pl inventorySlotBag0 slot with
    | none => exact (Shelf.itemAt_own ..).symm.trans hg
    | some g =>
      dsimp only
      unfold Shelf.own
      split
      · show (Holdings.setState _ pl g .removed).slots pl slot = none
        rw [slots_setState]
        simp [modify, setSlot]
      · rfl
  unfold destroyItem
  split
  · next hg => exact (Shelf.itemAt_own ..).symm.trans hg
  split
  · exact halone _
  · exact halone h

/-! ### Worn bags -/

theorem holdsElse_iff {g : Nat} (hg : h.getItemByPos pl p.1 p.2 = some g) :
    h.holdsElse pl item p = true ↔
      ∃ j x, j < (h.items g).numSlots ∧ (h.items g).bagslot j = some x ∧ (h.items x).entry ≠ item := by
  unfold holdsElse
  rw [hg]
  dsimp only
  rw [List.any_eq_true]
  constructor
  · rintro ⟨j, hj, hx⟩
    rw [List.mem_range] at hj
    split at hx
    · next x hbag => exact ⟨j, x, hj, hbag, by simpa using hx⟩
    · cases hx
  · rintro ⟨j, x, hj, hbag, hx⟩
    refine ⟨j, List.mem_range.2 hj, ?_⟩
    rw [hbag]
    simpa using hx

theorem itemAt_worn {slot g j x : Nat} (hbag : isBagSlot slot = true) (hg : h.shelf.own pl slot = some g)
    (hj : j < (h.items g).numSlots) (hx : (h.items g).bagslot j = some x) : h.shelf.itemAt pl slot j = some x := by
  rw [Shelf.itemAt_bag _ _ _ _ hbag, hg]
  show h.shelf.inside g j = some x
  unfold Shelf.inside
  exact (if_pos hj).trans hx

theorem bagslot_worn {slot g j x : Nat} (hbag : isBagSlot slot = true) (hg : h.shelf.own pl slot = some g)
    (hx : h.shelf.itemAt pl slot j = some x) : (h.items g).bagslot j = some x := by
  rw [Shelf.itemAt_bag _ _ _ _ hbag, hg] at hx
  have hin : h.shelf.inside g j = some x := hx
  unfold Shelf.inside at hin
  split at hin
  · exact hin
  · cases hin

theorem isBagSlot_of_holds (ho : h.shelf.Orderly om) {slot g j x : Nat} (hg : h.shelf.own pl slot = some g)
    (hx : (h.items g).bagslot j = some x) : isBagSlot slot = true := by
  obtain ⟨hown, hslot⟩ := Shelf.own_eq_some h.shelf pl slot g hg
  by_contra hbag
  have hempty := ho.plain pl slot g hown (Bool.eq_false_iff.2 hbag) hslot j
  have hx' : (h.shelf.goods g).bagslot j = some x := hx
  rw [hempty] at hx'
  cases hx'

theorem Spends.worn_empty {slot g : Nat} (ho : h.shelf.Orderly om)
    (hs : Spends om h pl item count ((inventorySlotBag0, slot) :: ps) s)
    (hg : s.1.getItemByPos pl inventorySlotBag0 slot = some g) (hempty : s.1.shelf.Empty g) :
    h.holdsElse pl item (inventorySlotBag0, slot) = false := by
  refine Bool.eq_false_iff.2 fun helse => ?_
  have hg' : h.getItemByPos pl inventorySlotBag0 slot = some g := hs.ahead.1.symm.trans hg
  obtain ⟨j, x, hj, hx, hne⟩ := (holdsElse_iff hg').1 helse
  have hown : h.shelf.own pl slot = some g := (Shelf.itemAt_own ..).symm.trans hg'
  have hbag := isBagSlot_of_holds ho hown hx
  have hat := itemAt_worn hbag hown hj hx
  rcases hs.same slot j with hsame | ⟨-, hunits, -⟩
  · -- it is still in it
    have hx' := bagslot_worn hbag ((Shelf.itemAt_own ..).symm.trans hg) (hsame.1.trans hat)
    have hnone : (s.1.items g).bagslot j = none := hempty j
    rw [hnone] at hx'
    cases hx'
  · rw [unitsAt_of_some hat, if_neg hne] at hunits
    exact hunits rfl

theorem Spends.worn_full {slot g : Nat} (hslot : slot < 23)
    (hs : Spends om h pl item count ((inventorySlotBag0, slot) :: ps) s) (hps : ∀ q ∈ ps, q.1 = inventorySlotBag0)
    (hg : s.1.getItemByPos pl inventorySlotBag0 slot = some g) (hfull : ¬ s.1.shelf.Empty g) :
    h.holdsElse pl item (inventorySlotBag0, slot) = true ∧
      Loses h (s.1.destroyItem om pl inventorySlotBag0 slot) pl item := by
  have hok : s.1.shelf.Orderly om := hs.inOrder.orderly
  obtain ⟨j, hj⟩ := not_forall.1 hfull
  obtain ⟨x, hx⟩ := Option.ne_none_iff_exists'.1 hj
  have hx : (s.1.items g).bagslot j = some x := hx
  have hown : s.1.shelf.own pl slot = some g := (Shelf.itemAt_own ..).symm.trans hg
  have hbag := isBagSlot_of_holds hok hown hx
  obtain ⟨hisown, hslots⟩ := Shelf.own_eq_some s.1.shelf pl slot g hown
  obtain ⟨⟨hst, hcontent⟩, -⟩ := hok.own pl slot g hisown hslots
  have hjlt := (hcontent j x hx).1
  have hjmax : j < maxBagSize := by
    obtain ⟨proto, -, -, -, hnum⟩ := hst.proto
    have hmax := proto.containerSlots_le
    split at hnum <;> omega
  have hat := itemAt_worn hbag hown hjlt hx
  have hxpos := (stack_bounds hok hat).1
  -- the loop over the bags has left nothing of the entry in it
  have hxne : (s.1.items x).entry ≠ item := by
    intro hxentry
    have hbound := (isBagSlot_iff slot).1 hbag
    have hzero := hs.cleared slot j (by omega) hslot hjmax fun hin => by
      rcases List.mem_cons.1 hin with heq | hin
      · have hfst : slot = 255 := congrArg Prod.fst heq
        omega
      · have hfst : slot = 255 := hps _ hin
        omega
    rw [unitsAt_of_some hat, if_pos hxentry] at hzero
    omega
  have hsame : Shelf.SamePlace h.shelf s.1.shelf pl slot j :=
    (hs.same slot j).resolve_right fun hno => by
      rw [hat] at hno
      cases hno.2.2
  have hath : h.shelf.itemAt pl slot j = some x := hsame.1.symm.trans hat
  have hg' : h.getItemByPos pl inventorySlotBag0 slot = some g := hs.ahead.1.symm.trans hg
  have hxne' : (h.items x).entry ≠ item := fun hxentry => hxne ((hs.shrinks.entry x).trans hxentry)
  refine ⟨(holdsElse_iff hg').2 ⟨j, x, ?_, ?_, hxne'⟩, hs.shrinks.trans (shrinks_destroyItem om pl _ _), slot, j,
    (h.items x).entry, hxne', hbag, hjmax, ?_, ?_⟩
  · rw [← hs.shrinks.numSlots g]
    exact hjlt
  · exact bagslot_worn hbag ((Shelf.itemAt_own ..).symm.trans hg') hath
  · rw [unitsAt_of_some hath, if_pos rfl, ← hs.shrinks.count x hxne']
    exact hxpos
  · rw [Shelf.itemAt_bag _ _ _ _ hbag, own_destroyItem]
    rfl

/-- **A turn of the walk** at a worn item. -/
theorem Spends.worn_turn {slot : Nat} (ho : h.shelf.Orderly om) (hslot : slot < 23)
    (hs : Spends om h pl item count ((inventorySlotBag0, slot) :: ps) s) (hps : ∀ q ∈ ps, q.1 = inventorySlotBag0) :
    EarlyReturn.Meets (destroyTurn om v pl item count false (inventorySlotBag0, slot) s)
      (fun s => Spends om h pl item count ps s ∨
        Loses h s.1 pl item ∧ h.coversCount pl item count walked = false)
      (Returns om h pl item count) := by
  by_cases hfull : ∃ g, s.1.getItemByPos pl inventorySlotBag0 slot = some g ∧ (s.1.items g).entry = item ∧
      (s.1.items g).count + s.2 ≤ count ∧ ¬ s.1.shelf.Empty g
  swap
  · refine (hs.turn ho fun g hg hentry hfits => ?_).imp fun s hs => .inl hs
    have hempty : s.1.shelf.Empty g := Classical.not_not.1 fun hne => hfull ⟨g, hg, hentry, hfits, hne⟩
    exact ⟨hempty, hs.worn_empty ho hg hempty⟩
  · obtain ⟨g, hg, hentry, hfits, hne⟩ := hfull
    obtain ⟨helse, hloses⟩ := hs.worn_full hslot hps hg hne
    have hunits : h.shelf.unitsAt pl item inventorySlotBag0 slot = (s.1.items g).count := by
      rw [← hs.ahead.unitsAt_eq item, unitsAt_of_some hg, if_pos hentry]
    have hgpos := (stack_bounds hs.inOrder.orderly hg).1
    have hcovers : h.coversCount pl item count walked = false := by
      rw [← hs.covers, coversCount_take (by dsimp only; omega) (by dsimp only; omega), helse]
      rfl
    have hfits' : u32 ((s.1.items g).count + s.2) ≤ count := (u32_le _).trans hfits
    unfold destroyTurn
    dsimp only
    rw [hg]
    dsimp only
    rw [if_pos hentry, if_pos hfits', if_pos (.inl rfl)]
    split
    · exact returns_lost hcovers hloses
    · exact .inr ⟨hloses, hcovers⟩

/-! ### The loops -/

theorem Spends.plain (ho : h.shelf.Orderly om) (hs : Spends om h pl item count (p :: ps) s)
    (hcan : ∀ k : Holdings, k.canUnequipItem om v pl p.1 p.2 false = .ok) {g : Nat}
    (hg : s.1.getItemByPos pl p.1 p.2 = some g) : s.1.shelf.Empty g ∧ h.holdsElse pl item p = false := by
  have hg' : h.getItemByPos pl p.1 p.2 = some g := hs.ahead.1.symm.trans hg
  refine ⟨empty_of_canUnequip hs.inOrder.orderly hg (hcan _), Bool.eq_false_iff.2 fun helse => ?_⟩
  obtain ⟨j, x, -, hx, -⟩ := (holdsElse_iff hg').1 helse
  have hnone : (h.items g).bagslot j = none := empty_of_canUnequip ho hg' (hcan h) j
  rw [hnone] at hx
  cases hx

theorem Spends.own_loop {slots : List Nat} (ho : h.shelf.Orderly om)
    (hslots : ∀ slot ∈ slots, isEquipmentPos inventorySlotBag0 slot = false ∧
      isBagPos inventorySlotBag0 slot = false)
    (hs : Spends om h pl item count (walkedOwn slots ++ ps) s) :
    EarlyReturn.Meets
      (EarlyReturn.forEach (fun slot => destroyTurn om v pl item count false (inventorySlotBag0, slot)) slots s)
      (Spends om h pl item count ps) (Returns om h pl item count) := by
  refine EarlyReturn.Meets.forEach (I := fun slots s => (∀ slot ∈ slots,
    isEquipmentPos inventorySlotBag0 slot = false ∧ isBagPos inventorySlotBag0 slot = false) ∧
      Spends om h pl item count (walkedOwn slots ++ ps) s) ⟨hslots, hs⟩ ?_ |>.imp fun s hs => hs.2
  rintro slot slots s ⟨hslots, hs⟩
  rw [List.forall_mem_cons] at hslots
  refine (hs.turn ho fun g hg _ _ => ?_).imp fun s hs => ⟨hslots.2, hs⟩
  exact hs.plain (v := v) ho (fun _ => canUnequipItem_ok hslots.1.1 hslots.1.2 false) hg

theorem Spends.bag_loop {bag : Nat} (ho : h.shelf.Orderly om) (hbag : bag ≠ inventorySlotBag0)
    (hs : Spends om h pl item count (walkedBag bag ++ ps) s) :
    EarlyReturn.Meets (destroyInBag om v pl item count bag s) (Spends om h pl item count ps)
      (Returns om h pl item count) := by
  unfold destroyInBag
  cases hb : s.1.ownItem pl bag with
  | none =>
    have hnone : Spends om h pl item count ([] ++ (walkedBag bag ++ ps)) s := hs
    refine hnone.omit [] fun q hq => ?_
    obtain ⟨j, -, rfl⟩ := List.mem_map.1 hq
    exact unitsAt_beyond hbag fun b hb' => nomatch hb.symm.trans hb'
  | some b =>
    obtain ⟨n, hsplit⟩ := walkedBag_split hs.gone.orderly hb
    rw [hsplit, List.append_assoc] at hs
    have hspends := hs.omit ((List.range (s.1.items b).numSlots).map fun j => (bag, j)) fun q hq => by
      obtain ⟨j, -, rfl⟩ := List.mem_map.1 hq
      refine unitsAt_beyond hbag fun b' hb' => ?_
      obtain rfl : b = b' := Option.some.inj (hb.symm.trans hb')
      exact Nat.le_add_right _ _
    refine EarlyReturn.Meets.forEach
      (I := fun js s => Spends om h pl item count (js.map (fun j => (bag, j)) ++ ps) s) hspends ?_
    exact fun j js s hs => hs.turn ho fun g hg _ _ => hs.plain (v := v) ho (fun _ => canUnequipItem_inBag hbag j) hg

theorem Spends.bags_loop {bags : List Nat} (ho : h.shelf.Orderly om) (hbags : inventorySlotBag0 ∉ bags)
    (hs : Spends om h pl item count (bags.flatMap walkedBag ++ ps) s) :
    EarlyReturn.Meets (EarlyReturn.forEach (destroyInBag om v pl item count) bags s)
      (Spends om h pl item count ps) (Returns om h pl item count) := by
  refine EarlyReturn.Meets.forEach (I := fun bags s => inventorySlotBag0 ∉ bags ∧
    Spends om h pl item count (bags.flatMap walkedBag ++ ps) s) ⟨hbags, hs⟩ ?_ |>.imp fun s hs => hs.2
  rintro bag bags s ⟨hbags, hs⟩
  rw [List.mem_cons, not_or] at hbags
  rw [List.flatMap_cons, List.append_assoc] at hs
  exact (hs.bag_loop ho (Ne.symm hbags.1)).imp fun s hs => ⟨hbags.2, hs⟩

theorem Spends.worn_loop {slots : List Nat} (ho : h.shelf.Orderly om) (hslots : ∀ slot ∈ slots, slot < 23)
    (hs : Spends om h pl item count (walkedOwn slots) s) :
    EarlyReturn.Meets
      (EarlyReturn.forEach (fun slot => destroyTurn om v pl item count false (inventorySlotBag0, slot)) slots s)
      (fun s => Spends om h pl item count [] s ∨
        Loses h s.1 pl item ∧ h.coversCount pl item count walked = false)
      (Returns om h pl item count) := by
  refine EarlyReturn.Meets.forEach (I := fun slots s => (∀ slot ∈ slots, slot < 23) ∧
    (Spends om h pl item count (walkedOwn slots) s ∨
      Loses h s.1 pl item ∧ h.coversCount pl item count walked = false)) ⟨hslots, .inl hs⟩ ?_ |>.imp
    fun s hs => hs.2
  rintro slot slots s ⟨hslots, hs⟩
  rw [List.forall_mem_cons] at hslots
  rcases hs with hs | ⟨hl, hcovers⟩
  · exact (hs.worn_turn ho hslots.1 fun q hq => (mem_walkedOwn.1 hq).1).imp fun s hs => ⟨hslots.2, hs⟩
  · exact (hl.turn hcovers).imp fun s hl => ⟨hslots.2, .inr ⟨hl, hcovers⟩⟩

/-- **`DestroyItemCount`** destroys what is covered; what is not is not there, or something else goes. -/
theorem destroyItemCount_returns (hin : h.InOrder om) (v : FighterView) (pl item count : Nat) :
    Returns om h pl item count (h.destroyItemCount om v pl item count false) := by
  have ho := hin.orderly
  have hstart : Spends om h pl item count walked (h, 0) := by
    refine ⟨hin, ⟨ho, fun p e => by simp⟩, .refl, Nat.zero_le _, walked_nodup,
      fun B S => .inl ⟨rfl, fun _ _ => ⟨rfl, rfl, rfl⟩⟩, fun bag j hlo hhi hj hnot => absurd ?_ hnot, rfl⟩
    unfold walked
    refine List.mem_append_right _ (List.mem_append_left _ (List.mem_flatMap.2 ⟨bag, ?_, ?_⟩))
    · exact List.mem_range'_1.2 ⟨hlo, hhi⟩
    · exact List.mem_map.2 ⟨j, List.mem_range.2 hj, rfl⟩
  unfold destroyItemCount
  refine EarlyReturn.Meets.result (Q := fun s => Spends om h pl item count [] s ∨
    Loses h s.1 pl item ∧ h.coversCount pl item count walked = false) ?_ fun s hs => ?_
  · refine (hstart.own_loop ho fun slot hslot => unworn_slots hslot).bind fun s hs =>
      (hs.bags_loop ho (by decide)).bind fun s hs => ?_
    exact hs.worn_loop ho fun slot hslot => List.mem_range.1 hslot
  · rcases hs with hs | ⟨hl, hcovers⟩
    · have hcovers := hs.covers
      have hle := hs.le
      by_cases hdone : s.2 = count
      · refine returns_covered ?_ hs.inOrder (hdone ▸ hs.gone)
        rw [← hcovers, hdone, Nat.sub_self, coversCount_zero]
      · have hfalse : h.coversCount pl item count walked = false := by
          rw [← hcovers]
          exact beq_false_of_ne (by omega)
        unfold Returns
        rw [if_neg (by simp [hfalse])]
        exact .inr ⟨s.2, by omega, hs.gone⟩
    · exact returns_lost hcovers hl

end

/-! ## Top theorem -/

/-- So many units of the entry are destroyed, and nothing else. -/
def DestroysExactly (count : Nat) : Prop :=
  ∀ p e, (h.destroyItemCount om v pl item count false).shelf.total p e + (if p = pl ∧ e = item then count else 0) =
    h.shelf.total p e

/-- **Exactly the count is destroyed** just if it is covered; then the inventory stays in order. -/
theorem destroysExactly_iff (hin : h.InOrder om) (count : Nat) :
    (DestroysExactly om v h pl item count ↔ h.coversCount pl item count walked = true) ∧
      (h.coversCount pl item count walked = true → (h.destroyItemCount om v pl item count false).InOrder om) := by
  have hreturns := destroyItemCount_returns hin v pl item count
  unfold Returns at hreturns
  split at hreturns
  · next hcovers => exact ⟨iff_of_true hreturns.2.total hcovers, fun _ => hreturns.1⟩
  · next hcovers =>
    refine ⟨iff_of_false (fun hexact => ?_) hcovers, fun hyes => absurd hyes hcovers⟩
    rcases hreturns with hl | ⟨n, hn, hgone⟩
    · obtain ⟨e, he, hlt⟩ := hl.total_lt
      have htotal := hexact pl e
      rw [if_neg fun heq => he heq.2] at htotal
      omega
    · have htotal := hexact pl item
      have hfewer := hgone.total pl item
      rw [if_pos ⟨rfl, rfl⟩] at htotal hfewer
      omega

end Holdings

end BlizzLike
