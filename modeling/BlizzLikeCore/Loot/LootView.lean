import BlizzLikeCore.Loot.SlotBounds

/-!
# What a looter sees

`SendLoot` writes a `LootView` for the viewer: the ordinary items by their index, then his quest items numbered on
from there, then those of his lists of items for all and of conditional items, again by index.  `LootItemInSlot`
finds an item from the number alone.

The two number alike (`view_resolves`): a slot shown leads to the item shown, and no slot is shown twice.  But the
resolver knows nothing of permissions, nor of what may be shown to whom: what is hidden from a viewer for that
reason alone he can name (`hidden_resolves`).
-/

namespace BlizzLike

inductive PermissionTypes where
  | all
  | group
  | master
  | none
  deriving DecidableEq, Repr

/-- `LootView`; `allowed` is `AllowedForPlayer` for the viewer. -/
structure LootView where
  loot : Loot
  qlist : Option (List QuestItem)
  ffalist : Option (List QuestItem)
  conditionallist : Option (List QuestItem)
  allowed : LootItem → Bool
  permission : PermissionTypes

/-- An item in the message: the slot and the slot type with it, and which `LootItem` was written. -/
structure ShownItem where
  slot : Nat
  quest : Bool
  index : Nat
  item : LootItem
  slotType : Nat
  deriving DecidableEq, Repr

/-- What the view writes. -/
structure LootResponse where
  gold : Nat := 0
  itemsShown : Nat := 0
  items : List ShownItem := []
  deriving DecidableEq, Repr

namespace LootView

variable (lv : LootView)

/-! ## Writing -/

/-- `slot_type` of an ordinary item. -/
def slotType (it : LootItem) : Nat :=
  match lv.permission with
  | .group => if it.isBlocked || it.isUnderthreshold then 0 else 1
  | .master => 2
  | _ => 0

/-- The loop over `items`, the same in all branches. -/
def shownItems : List ShownItem :=
  (lv.loot.items.zipIdx.filter fun e =>
      !e.1.isLooted && !e.1.freeforall && e.1.conditionId == 0 && lv.allowed e.1).map fun e =>
    { slot := u8 e.2, quest := false, index := e.2, item := e.1, slotType := lv.slotType e.1 }

/-- The loop over `qlist`. -/
def shownQuestItems : List ShownItem :=
  (lv.qlist.getD []).zipIdx.filterMap fun e =>
    match lv.loot.questItems[e.1.index]? with
    | none => none
    | some item =>
      if !e.1.isLooted && !item.isLooted then
        some { slot := u8 (lv.loot.items.length + e.2), quest := true, index := e.1.index, item := item, slotType := 0 }
      else none

/-- The loops over `ffalist` and `conditionallist`. -/
def shownListed (list : Option (List QuestItem)) : List ShownItem :=
  (list.getD []).filterMap fun q =>
    match lv.loot.items[q.index]? with
    | none => none
    | some item =>
      if !q.isLooted && !item.isLooted then
        some { slot := u8 q.index, quest := false, index := q.index, item := item, slotType := 0 }
      else none

/-- `operator<<`. -/
def write : LootResponse :=
  if lv.permission = .none then {}
  else
    let items :=
      lv.shownItems ++ lv.shownQuestItems ++ lv.shownListed lv.ffalist ++ lv.shownListed lv.conditionallist
    { gold := u32 lv.loot.gold, itemsShown := u8 items.length, items := items }

end LootView

namespace LootRoom

/-- The view `SendLoot` writes, once it has filled the lists. -/
def sentView (s : LootRoom) (pl : Nat) (permission : PermissionTypes) (allowed : LootItem → Bool) : LootView :=
  let loot := (s.sendLoot pl (permission != .none) allowed).loot
  { loot := loot
    qlist := if permission = .none then none else loot.playerQuestItems pl
    ffalist := if permission = .none then none else loot.playerFFAItems pl
    conditionallist := if permission = .none then none else loot.playerNonQuestNonFFAConditionalItems pl
    allowed := allowed
    permission := permission }

end LootRoom

/-! ## The law -/

/-- What was found may be shown: it is in a list of the viewer, or it is in none and allowed for him. -/
def Loot.Found.Admitted (f : Loot.Found) (allowed : LootItem → Bool) : Prop :=
  f.quest = true ∨ f.ffaitem.isSome = true ∨ f.conditem.isSome = true ∨
    f.item.freeforall = false ∧ f.item.conditionId = 0 ∧ allowed f.item = true

/-- **The view and the resolver number alike.** -/
structure Numbered (loot : Loot) (pl : Nat) (permission : PermissionTypes) (allowed : LootItem → Bool)
    (shown : List ShownItem) : Prop where
  resolves : ∀ slot quest index x, (∃ t, ⟨slot, quest, index, x, t⟩ ∈ shown) ↔
    permission ≠ .none ∧ ∃ f, loot.lootItemInSlot slot pl = some f ∧ f.quest = quest ∧ f.index = index ∧ f.item = x ∧
      x.isLooted = false ∧ f.Admitted allowed
  apart : (shown.map ShownItem.slot).Nodup

/-! ## Lemmas -/

/-- An entry for an item that is not marked. -/
def Unmarked (list : Option (List QuestItem)) (index : Nat) : Prop :=
  ∃ ql q, list = some ql ∧ q ∈ ql ∧ q.index = index ∧ q.isLooted = false

theorem unmarked_iff_entry (list : Option (List QuestItem)) (index : Nat) (dflt : Bool)
    (hnd : ∀ ql, list = some ql → (ql.map QuestItem.index).Nodup) :
    Unmarked list index ↔ (Loot.entryOf list index).isSome = true ∧
      Loot.flagOf list (Loot.entryOf list index) dflt = false := by
  cases list with
  | none =>
    constructor
    · rintro ⟨ql, q, h, -⟩
      cases h
    · rintro ⟨h, -⟩
      cases h
  | some ql =>
    unfold Loot.entryOf
    dsimp only
    constructor
    · rintro ⟨ql', q, h, hq, hindex, hl⟩
      cases h
      cases hfind : ql.findIdx? fun q => q.index == index with
      | none =>
        have hnone := List.findIdx?_eq_none_iff.1 hfind q hq
        simp [hindex] at hnone
      | some k =>
        obtain ⟨hlt, hp, -⟩ := List.findIdx?_eq_some_iff_getElem.1 hfind
        -- the lists name an item once
        have hsame : ql[k] = q := List.inj_on_of_nodup_map (hnd ql rfl) (List.getElem_mem hlt) hq (by
          have : ql[k].index = index := by simpa using hp
          rw [this, hindex])
        refine ⟨rfl, ?_⟩
        simp [Loot.flagOf, List.getElem?_eq_getElem hlt, hsame, hl]
    · rintro ⟨hsome, hflag⟩
      obtain ⟨k, hk⟩ := Option.isSome_iff_exists.1 hsome
      rw [hk] at hflag
      obtain ⟨hlt, hp, -⟩ := List.findIdx?_eq_some_iff_getElem.1 hk
      refine ⟨ql, ql[k], rfl, List.getElem_mem hlt, by simpa using hp, ?_⟩
      simpa [Loot.flagOf, List.getElem?_eq_getElem hlt] using hflag

namespace LootView

variable (lv : LootView)

theorem mem_shownItems (slot index t : Nat) (quest : Bool) (x : LootItem) :
    ⟨slot, quest, index, x, t⟩ ∈ lv.shownItems ↔ quest = false ∧ slot = u8 index ∧ t = lv.slotType x ∧
      lv.loot.items[index]? = some x ∧ x.isLooted = false ∧ x.freeforall = false ∧ x.conditionId = 0 ∧
      lv.allowed x = true := by
  unfold shownItems
  rw [List.mem_map]
  constructor
  · rintro ⟨⟨it, i⟩, he, heq⟩
    obtain ⟨hm, hp⟩ := List.mem_filter.1 he
    simp only [Bool.and_eq_true, Bool.not_eq_true', beq_iff_eq] at hp
    simp only [ShownItem.mk.injEq] at heq
    obtain ⟨rfl, rfl, rfl, rfl, rfl⟩ := heq
    exact ⟨rfl, rfl, rfl, List.mem_zipIdx_iff_getElem?.1 hm, hp.1.1.1, hp.1.1.2, hp.1.2, hp.2⟩
  · rintro ⟨rfl, rfl, rfl, hx, h1, h2, h3, h4⟩
    refine ⟨(x, index), List.mem_filter.2 ⟨List.mem_zipIdx_iff_getElem?.2 hx, ?_⟩, rfl⟩
    simp [h1, h2, h3, h4]

theorem mem_shownListed (list : Option (List QuestItem)) (slot index t : Nat) (quest : Bool) (x : LootItem) :
    ⟨slot, quest, index, x, t⟩ ∈ lv.shownListed list ↔ quest = false ∧ slot = u8 index ∧ t = 0 ∧
      lv.loot.items[index]? = some x ∧ x.isLooted = false ∧ Unmarked list index := by
  unfold shownListed
  rw [List.mem_filterMap]
  constructor
  · rintro ⟨q, hq, h⟩
    split at h
    · cases h
    next item hitem =>
    split at h
    · next hflags =>
      simp only [Bool.and_eq_true, Bool.not_eq_true'] at hflags
      simp only [Option.some.injEq, ShownItem.mk.injEq] at h
      obtain ⟨rfl, rfl, rfl, rfl, rfl⟩ := h
      refine ⟨rfl, rfl, rfl, hitem, hflags.2, ?_⟩
      cases list with
      | none => cases hq
      | some ql => exact ⟨ql, q, rfl, hq, rfl, hflags.1⟩
    · cases h
  · rintro ⟨rfl, rfl, rfl, hx, hl, ql, q, rfl, hq, rfl, hql⟩
    refine ⟨q, hq, ?_⟩
    rw [hx]
    simp [hl, hql]

theorem mem_shownQuestItems (slot index t : Nat) (quest : Bool) (x : LootItem) :
    ⟨slot, quest, index, x, t⟩ ∈ lv.shownQuestItems ↔ quest = true ∧ t = 0 ∧ lv.loot.questItems[index]? = some x ∧
      x.isLooted = false ∧ ∃ ql k q, lv.qlist = some ql ∧ ql[k]? = some q ∧ slot = u8 (lv.loot.items.length + k) ∧
        q.index = index ∧ q.isLooted = false := by
  unfold shownQuestItems
  rw [List.mem_filterMap]
  constructor
  · rintro ⟨⟨q, k⟩, hq, h⟩
    split at h
    · cases h
    next item hitem =>
    split at h
    · next hflags =>
      simp only [Bool.and_eq_true, Bool.not_eq_true'] at hflags
      simp only [Option.some.injEq, ShownItem.mk.injEq] at h
      obtain ⟨rfl, rfl, rfl, rfl, rfl⟩ := h
      refine ⟨rfl, rfl, hitem, hflags.2, ?_⟩
      cases hl : lv.qlist with
      | none => rw [hl] at hq; cases hq
      | some ql =>
        rw [hl] at hq
        exact ⟨ql, k, q, rfl, List.mem_zipIdx_iff_getElem?.1 hq, rfl, rfl, hflags.1⟩
    · cases h
  · rintro ⟨rfl, rfl, hx, hl, ql, k, q, hql, hq, rfl, rfl, hlq⟩
    refine ⟨(q, k), ?_, ?_⟩
    · rw [hql]
      exact List.mem_zipIdx_iff_getElem?.2 hq
    · rw [hx]
      simp [hl, hlq]

end LootView

/-! ### The resolver -/

/-- What the resolver finds for a slot, if it is not looted and may be shown. -/
def Resolves (l : Loot) (pl : Nat) (allowed : LootItem → Bool) (slot : Nat) (quest : Bool) (index : Nat) (x : LootItem) :
    Prop :=
  if l.items.length ≤ slot then
    quest = true ∧ l.questItems[index]? = some x ∧ ∃ ql q, l.playerQuestItems pl = some ql ∧
      ql[slot - l.items.length]? = some q ∧ q.index = index ∧ q.isLooted = false
  else
    quest = false ∧ index = slot ∧ l.items[slot]? = some x ∧
      (x.freeforall = true ∧ Unmarked (l.playerFFAItems pl) slot ∨
        x.freeforall = false ∧ x.conditionId ≠ 0 ∧ Unmarked (l.playerNonQuestNonFFAConditionalItems pl) slot ∨
        x.freeforall = false ∧ x.conditionId = 0 ∧ allowed x = true)

theorem indices_nodup {l : Loot} (hs : l.shape.Sound) (pl : Nat) :
    (∀ ql, l.playerFFAItems pl = some ql → (ql.map QuestItem.index).Nodup) ∧
      ∀ ql, l.playerNonQuestNonFFAConditionalItems pl = some ql → (ql.map QuestItem.index).Nodup := by
  refine ⟨fun ql h => (hs.ffa pl _ ?_).1, fun ql h => (hs.conditional pl _ ?_).1⟩
  · simp [Loot.shape, h]
  · simp [Loot.shape, h]

theorem lootItemInSlot_resolves {l : Loot} (hs : l.shape.Sound) (pl : Nat) (allowed : LootItem → Bool) (slot : Nat)
    (quest : Bool) (index : Nat) (x : LootItem) (hx : x.isLooted = false) :
    (∃ f, l.lootItemInSlot slot pl = some f ∧ f.quest = quest ∧ f.index = index ∧ f.item = x ∧ f.Admitted allowed) ↔
      Resolves l pl allowed slot quest index x := by
  obtain ⟨hffa, hcond⟩ := indices_nodup hs pl
  unfold Resolves Loot.lootItemInSlot Loot.Found.Admitted
  by_cases hslot : l.items.length ≤ slot
  · rw [if_pos hslot, if_pos hslot]
    cases hql : l.playerQuestItems pl with
    | none =>
      constructor
      · rintro ⟨f, h, -⟩
        cases h
      · rintro ⟨-, -, ql, q, h, -⟩
        cases h
    | some ql =>
      cases hq : ql[slot - l.items.length]? with
      | none =>
        dsimp only
        rw [hq]
        constructor
        · rintro ⟨f, h, -⟩
          cases h
        · rintro ⟨-, -, ql', q, h, hq', -⟩
          obtain rfl := Option.some.inj h
          rw [hq] at hq'
          cases hq'
      | some q =>
        dsimp only
        rw [hq]
        dsimp only
        constructor
        · rintro ⟨f, h, h1, h2, h3, -⟩
          split at h
          · cases h
          next item hitem =>
          split at h
          · cases h
          next hl =>
          obtain rfl := Option.some.inj h
          subst h1 h2 h3
          exact ⟨rfl, hitem, ql, q, rfl, hq, rfl, by simpa using hl⟩
        · rintro ⟨rfl, hitem, ql', q', h, hq', rfl, hl⟩
          obtain rfl := Option.some.inj h
          obtain rfl := Option.some.inj (hq.symm.trans hq')
          rw [hitem]
          dsimp only
          rw [hl]
          exact ⟨_, rfl, rfl, rfl, rfl, Or.inl rfl⟩
  · rw [if_neg hslot, if_neg hslot]
    cases hitem : l.items[slot]? with
    | none =>
      constructor
      · rintro ⟨f, h, -⟩
        cases h
      · rintro ⟨-, -, h, -⟩
        cases h
    | some item =>
      dsimp only
      constructor
      · rintro ⟨f, h, h1, h2, h3, hadm⟩
        split at h
        · next hf =>
          split at h
          · cases h
          next hflag =>
          obtain rfl := Option.some.inj h
          subst h1 h2 h3
          refine ⟨rfl, rfl, rfl, Or.inl ⟨hf, (unmarked_iff_entry _ _ item.isLooted hffa).2 ⟨?_, by simpa using hflag⟩⟩⟩
          rcases hadm with h | h | h | ⟨h, -⟩
          · cases h
          · exact h
          · cases h
          · rw [hf] at h; cases h
        next hf =>
        split at h
        · next hc =>
          split at h
          · cases h
          next hflag =>
          obtain rfl := Option.some.inj h
          subst h1 h2 h3
          refine ⟨rfl, rfl, rfl, Or.inr (Or.inl ⟨by simpa using hf, hc,
            (unmarked_iff_entry _ _ item.isLooted hcond).2 ⟨?_, by simpa using hflag⟩⟩)⟩
          rcases hadm with h | h | h | ⟨-, h, -⟩
          · cases h
          · cases h
          · exact h
          · exact absurd h hc
        next hc =>
        split at h
        · cases h
        obtain rfl := Option.some.inj h
        subst h1 h2 h3
        refine ⟨rfl, rfl, rfl, Or.inr (Or.inr ?_)⟩
        rcases hadm with h | h | h | h
        · cases h
        · cases h
        · cases h
        · exact h
      · rintro ⟨rfl, rfl, h, hkind⟩
        obtain rfl := Option.some.inj h
        rcases hkind with ⟨hf, hu⟩ | ⟨hf, hc, hu⟩ | ⟨hf, hc, ha⟩
        · obtain ⟨h1, h2⟩ := (unmarked_iff_entry _ _ item.isLooted hffa).1 hu
          rw [if_pos hf, if_neg (by simp [h2])]
          exact ⟨_, rfl, rfl, rfl, rfl, Or.inr (Or.inl h1)⟩
        · obtain ⟨h1, h2⟩ := (unmarked_iff_entry _ _ item.isLooted hcond).1 hu
          rw [if_neg (by simp [hf]), if_pos hc, if_neg (by simp [h2])]
          exact ⟨_, rfl, rfl, rfl, rfl, Or.inr (Or.inr (Or.inl h1))⟩
        · rw [if_neg (by simp [hf]), if_neg (by simp [hc]), if_neg (by simp [hx])]
          exact ⟨_, rfl, rfl, rfl, rfl, Or.inr (Or.inr (Or.inr ⟨hf, hc, ha⟩))⟩

/-! ### The view -/

namespace LootView

variable {lv : LootView} {pl : Nat}

/-- The view of a viewer: his lists, and a loot of sound shape. -/
structure Looks (lv : LootView) (pl : Nat) : Prop where
  sound : lv.loot.shape.Sound
  qlist : lv.qlist = lv.loot.playerQuestItems pl
  ffalist : lv.ffalist = lv.loot.playerFFAItems pl
  conditionallist : lv.conditionallist = lv.loot.playerNonQuestNonFFAConditionalItems pl

theorem Looks.small (h : lv.Looks pl) : lv.loot.items.length ≤ 16 ∧
    ∀ ql, lv.qlist = some ql → lv.loot.items.length + ql.length ≤ 16 := by
  refine ⟨by simpa [Loot.shape, maxNrLootItems] using h.sound.size, fun ql hql => ?_⟩
  obtain ⟨hlen, -⟩ := h.sound.quest pl (ql.map QuestItem.index) (by simp [Loot.shape, ← h.qlist, hql])
  simpa [Loot.shape, maxNrLootItems] using hlen

theorem Looks.index_lt (h : lv.Looks pl) {i : Nat} {it : LootItem} (hi : lv.loot.items[i]? = some it) : i < 16 :=
  Nat.lt_of_lt_of_le (List.getElem?_eq_some_iff.1 hi).1 h.small.1

theorem u8_of_lt {n : Nat} (h : n < 16) : u8 n = n := Nat.mod_eq_of_lt (by omega)

theorem Looks.kinds (h : lv.Looks pl) {index : Nat} {x : LootItem} (hx : lv.loot.items[index]? = some x) :
    (Unmarked lv.ffalist index → x.freeforall = true) ∧
      (Unmarked lv.conditionallist index → x.freeforall = false ∧ x.conditionId ≠ 0) := by
  have hkind := Loot.kind_of_getElem? hx
  constructor
  · rintro ⟨ql, q, hql, hq, rfl, -⟩
    rw [h.ffalist] at hql
    obtain ⟨k, hk, hf⟩ := (h.sound.ffa pl (ql.map QuestItem.index) (by simp [Loot.shape, hql])).2 _ (List.mem_map_of_mem hq)
    cases hkind.symm.trans hk
    exact hf
  · rintro ⟨ql, q, hql, hq, rfl, -⟩
    rw [h.conditionallist] at hql
    obtain ⟨k, hk, hf⟩ :=
      (h.sound.conditional pl (ql.map QuestItem.index) (by simp [Loot.shape, hql])).2 _ (List.mem_map_of_mem hq)
    cases hkind.symm.trans hk
    exact hf

/-- **What is shown is what the resolver finds.** -/
theorem Looks.shown_iff (h : lv.Looks pl) (hp : lv.permission ≠ .none) (slot : Nat) (quest : Bool) (index : Nat)
    (x : LootItem) : (∃ t, ⟨slot, quest, index, x, t⟩ ∈ lv.write.items) ↔
      x.isLooted = false ∧ Resolves lv.loot pl lv.allowed slot quest index x := by
  obtain ⟨hsize, hquests⟩ := h.small
  have hlt : ∀ {i it}, lv.loot.items[i]? = some it → i < lv.loot.items.length := fun hi =>
    (List.getElem?_eq_some_iff.1 hi).1
  unfold write Resolves
  rw [if_neg hp]
  simp only [List.mem_append, mem_shownItems, mem_shownListed, mem_shownQuestItems]
  constructor
  · rintro ⟨t, ((⟨rfl, rfl, -, hx, hl, hf, hc, ha⟩ | ⟨rfl, -, hx, hl, ql, k, q, hql, hq, rfl, hi, hq'⟩) |
      ⟨rfl, rfl, -, hx, hl, hu⟩) | ⟨rfl, rfl, -, hx, hl, hu⟩⟩
    · have hi := hlt hx
      rw [u8_of_lt (by omega), if_neg (by omega)]
      exact ⟨hl, rfl, rfl, hx, Or.inr (Or.inr ⟨hf, hc, ha⟩)⟩
    · have hk := (List.getElem?_eq_some_iff.1 hq).1
      have hall := hquests ql hql
      rw [u8_of_lt (by omega), if_pos (by omega), Nat.add_sub_cancel_left]
      exact ⟨hl, rfl, hx, ql, q, h.qlist ▸ hql, hq, hi, hq'⟩
    · have hi := hlt hx
      rw [u8_of_lt (by omega), if_neg (by omega)]
      exact ⟨hl, rfl, rfl, hx, Or.inl ⟨(h.kinds hx).1 hu, h.ffalist ▸ hu⟩⟩
    · have hi := hlt hx
      obtain ⟨hf, hc⟩ := (h.kinds hx).2 hu
      rw [u8_of_lt (by omega), if_neg (by omega)]
      exact ⟨hl, rfl, rfl, hx, Or.inr (Or.inl ⟨hf, hc, h.conditionallist ▸ hu⟩)⟩
  · rintro ⟨hl, hres⟩
    split at hres
    · next hge =>
      obtain ⟨rfl, hx, ql, q, hql, hq, hi, hq'⟩ := hres
      have hk := (List.getElem?_eq_some_iff.1 hq).1
      have hall := hquests ql (h.qlist ▸ hql)
      refine ⟨0, Or.inl (Or.inl (Or.inr ⟨rfl, rfl, hx, hl, ql, _, q, h.qlist ▸ hql, hq, ?_, hi, hq'⟩))⟩
      rw [u8_of_lt (by omega)]
      omega
    · obtain ⟨rfl, rfl, hx, hkind⟩ := hres
      have hi := hlt hx
      have hslot : index = u8 index := (u8_of_lt (by omega)).symm
      rcases hkind with ⟨-, hu⟩ | ⟨-, -, hu⟩ | ⟨hf, hc, ha⟩
      · exact ⟨0, Or.inl (Or.inr ⟨rfl, hslot, rfl, hx, hl, h.ffalist ▸ hu⟩)⟩
      · exact ⟨0, Or.inr ⟨rfl, hslot, rfl, hx, hl, h.conditionallist ▸ hu⟩⟩
      · exact ⟨_, Or.inl (Or.inl (Or.inl ⟨rfl, hslot, rfl, hx, hl, hf, hc, ha⟩))⟩

/-! ### No slot twice -/

theorem Looks.shownItems_apart (h : lv.Looks pl) : lv.shownItems.Pairwise fun a b => a.slot ≠ b.slot := by
  obtain ⟨hsize, -⟩ := h.small
  unfold shownItems
  rw [List.pairwise_map]
  have hnd : lv.loot.items.zipIdx.Pairwise fun a b => a.2 ≠ b.2 := by
    rw [← List.pairwise_map, List.zipIdx_map_snd]
    exact List.nodup_range'
  refine (hnd.filter _).imp_of_mem fun {a b} ha hb hne => ?_
  have hbound : ∀ e ∈ lv.loot.items.zipIdx, e.2 < 16 := fun e he => by
    have := (List.getElem?_eq_some_iff.1 (List.mem_zipIdx_iff_getElem?.1 he)).1
    omega
  rw [u8_of_lt (hbound a (List.mem_filter.1 ha).1), u8_of_lt (hbound b (List.mem_filter.1 hb).1)]
  exact hne

theorem Looks.shownQuestItems_apart (h : lv.Looks pl) : lv.shownQuestItems.Pairwise fun a b => a.slot ≠ b.slot := by
  obtain ⟨hsize, hquests⟩ := h.small
  have hbound : ∀ e ∈ (lv.qlist.getD []).zipIdx, lv.loot.items.length + e.2 < 16 := by
    intro e he
    have hlt := (List.getElem?_eq_some_iff.1 (List.mem_zipIdx_iff_getElem?.1 he)).1
    cases hql : lv.qlist with
    | none => rw [hql] at hlt; cases hlt
    | some ql =>
      rw [hql] at hlt
      have hlt : e.2 < ql.length := hlt
      have := hquests ql hql
      omega
  have hnd : (lv.qlist.getD []).zipIdx.Pairwise fun a b => a.2 ≠ b.2 := by
    rw [← List.pairwise_map, List.zipIdx_map_snd]
    exact List.nodup_range'
  unfold shownQuestItems
  refine List.Pairwise.filterMap _ ?_ (hnd.imp_of_mem fun {a b} ha hb hne => (⟨ha, hb, hne⟩ :
    a ∈ (lv.qlist.getD []).zipIdx ∧ b ∈ (lv.qlist.getD []).zipIdx ∧ a.2 ≠ b.2))
  rintro ⟨q, k⟩ ⟨q', k'⟩ ⟨ha, hb, hne⟩ e he e' he'
  have hslot : ∀ (q : QuestItem) (k : Nat) (e : ShownItem), (q, k) ∈ (lv.qlist.getD []).zipIdx →
      (match lv.loot.questItems[q.index]? with
        | none => none
        | some item =>
          if !q.isLooted && !item.isLooted then
            some { slot := u8 (lv.loot.items.length + k), quest := true, index := q.index, item := item, slotType := 0 }
          else none) = some e → e.slot = lv.loot.items.length + k := by
    intro q k e hm he
    split at he
    · cases he
    · split at he
      · cases he
        exact u8_of_lt (hbound _ hm)
      · cases he
  rw [hslot q k e ha he, hslot q' k' e' hb he']
  dsimp only at hne
  omega

theorem shownListed_apart (list : Option (List QuestItem)) (hsize : lv.loot.items.length ≤ 16)
    (hnd : ∀ ql, list = some ql → (ql.map QuestItem.index).Nodup) :
    (lv.shownListed list).Pairwise fun a b => a.slot ≠ b.slot := by
  unfold shownListed
  have hpair : (list.getD []).Pairwise fun a b => a.index ≠ b.index := by
    cases list with
    | none => exact List.Pairwise.nil
    | some ql => exact List.pairwise_map.1 (hnd ql rfl)
  refine List.Pairwise.filterMap _ ?_ hpair
  intro q q' hne e he e' he'
  have hslot : ∀ (q : QuestItem) (e : ShownItem),
      (match lv.loot.items[q.index]? with
        | none => none
        | some item =>
          if !q.isLooted && !item.isLooted then
            some { slot := u8 q.index, quest := false, index := q.index, item := item, slotType := 0 }
          else none) = some e → e.slot = q.index := by
    intro q e he
    split at he
    · cases he
    next item hitem =>
    have hlt := (List.getElem?_eq_some_iff.1 hitem).1
    split at he
    · cases he
      exact u8_of_lt (by omega)
    · cases he
  rw [hslot q e he, hslot q' e' he']
  exact hne

theorem Looks.slots_kind (h : lv.Looks pl) :
    (∀ e ∈ lv.shownItems, ∃ x, lv.loot.items[e.slot]? = some x ∧ x.freeforall = false ∧ x.conditionId = 0) ∧
      (∀ e ∈ lv.shownQuestItems, lv.loot.items[e.slot]? = none ∧ e.slot < 16) ∧
      (∀ e ∈ lv.shownListed lv.ffalist, ∃ x, lv.loot.items[e.slot]? = some x ∧ x.freeforall = true) ∧
      ∀ e ∈ lv.shownListed lv.conditionallist, ∃ x, lv.loot.items[e.slot]? = some x ∧ x.freeforall = false ∧
        x.conditionId ≠ 0 := by
  obtain ⟨-, hquests⟩ := h.small
  refine ⟨?_, ?_, ?_, ?_⟩
  · rintro ⟨slot, quest, index, x, t⟩ he
    obtain ⟨-, rfl, -, hx, -, hf, hc, -⟩ := (lv.mem_shownItems ..).1 he
    exact ⟨x, by rw [u8_of_lt (h.index_lt hx)]; exact hx, hf, hc⟩
  · rintro ⟨slot, quest, index, x, t⟩ he
    obtain ⟨-, -, -, -, ql, k, q, hql, hq, rfl, -⟩ := (lv.mem_shownQuestItems ..).1 he
    have hk := (List.getElem?_eq_some_iff.1 hq).1
    have hall := hquests ql hql
    rw [u8_of_lt (by omega)]
    exact ⟨List.getElem?_eq_none (Nat.le_add_right ..), show lv.loot.items.length + k < 16 by omega⟩
  · rintro ⟨slot, quest, index, x, t⟩ he
    obtain ⟨-, rfl, -, hx, -, hu⟩ := (lv.mem_shownListed ..).1 he
    exact ⟨x, by rw [u8_of_lt (h.index_lt hx)]; exact hx, (h.kinds hx).1 hu⟩
  · rintro ⟨slot, quest, index, x, t⟩ he
    obtain ⟨-, rfl, -, hx, -, hu⟩ := (lv.mem_shownListed ..).1 he
    exact ⟨x, by rw [u8_of_lt (h.index_lt hx)]; exact hx, (h.kinds hx).2 hu⟩

/-- **No slot is shown twice.** -/
theorem Looks.slots_nodup (h : lv.Looks pl) : (lv.write.items.map ShownItem.slot).Nodup := by
  obtain ⟨hsize, -⟩ := h.small
  obtain ⟨hffa, hcond⟩ := indices_nodup h.sound pl
  obtain ⟨hitems, hquests, hffas, hconds⟩ := h.slots_kind
  unfold write
  split
  · exact List.nodup_nil
  refine List.pairwise_map.2 (List.pairwise_append.2 ⟨List.pairwise_append.2 ⟨List.pairwise_append.2
    ⟨h.shownItems_apart, h.shownQuestItems_apart, ?_⟩,
    shownListed_apart lv.ffalist hsize (h.ffalist ▸ hffa), ?_⟩,
    shownListed_apart lv.conditionallist hsize (h.conditionallist ▸ hcond), ?_⟩)
  · intro a ha b hb he
    obtain ⟨x, hx, -⟩ := hitems a ha
    rw [he, (hquests b hb).1] at hx
    cases hx
  · intro a ha b hb he
    obtain ⟨y, hy, hyf⟩ := hffas b hb
    rcases List.mem_append.1 ha with ha | ha
    · obtain ⟨x, hx, hxf, -⟩ := hitems a ha
      rw [he, hy] at hx
      cases hx
      rw [hyf] at hxf; cases hxf
    · rw [← he, (hquests a ha).1] at hy
      cases hy
  · intro a ha b hb he
    obtain ⟨y, hy, hyf, hyc⟩ := hconds b hb
    rcases List.mem_append.1 ha with ha | ha
    · rcases List.mem_append.1 ha with ha | ha
      · obtain ⟨x, hx, -, hxc⟩ := hitems a ha
        rw [he, hy] at hx
        cases hx
        exact hyc hxc
      · rw [← he, (hquests a ha).1] at hy
        cases hy
    · obtain ⟨x, hx, hxf⟩ := hffas a ha
      rw [he, hy] at hx
      cases hx
      rw [hyf] at hxf; cases hxf

end LootView

/-! ## Top theorems -/

namespace LootRoom

open LootView

theorem sentView_looks {s : LootRoom} (hs : s.Shaped) (pl : Nat) {permission : PermissionTypes}
    (hp : permission ≠ .none) (allowed : LootItem → Bool) : (s.sentView pl permission allowed).Looks pl :=
  ⟨(sendLoot_shaped hs pl (permission != .none) allowed).loot, if_neg hp, if_neg hp, if_neg hp⟩

/-- **What a looter is shown he can name, and what he can name he is shown**, if he has a permission and may see
it: for every loot that comes about, every viewer and every slot. -/
theorem view_resolves (rs : List LootRequest) (pl : Nat) (permission : PermissionTypes) (allowed : LootItem → Bool) :
    Numbered ((Transition.run step {} rs).sendLoot pl (permission != .none) allowed).loot pl permission allowed
      ((Transition.run step {} rs).sentView pl permission allowed).write.items := by
  have hstep : ∀ (s : LootRoom) r, s.Shaped → (step s r).Shaped := fun _ r h => step_shaped h r
  have hs := Transition.invariant_run hstep shaped_empty rs
  by_cases hp : permission = .none
  · subst hp
    have hnone : ((Transition.run step {} rs).sentView pl .none allowed).write.items = [] := rfl
    rw [hnone]
    refine ⟨fun slot quest index x => ⟨?_, fun h => absurd rfl h.1⟩, List.nodup_nil⟩
    rintro ⟨t, ht⟩
    cases ht
  · have hlooks := sentView_looks hs pl hp allowed
    refine ⟨fun slot quest index x => ?_, hlooks.slots_nodup⟩
    rw [hlooks.shown_iff hp]
    constructor
    · rintro ⟨hl, hres⟩
      obtain ⟨f, h1, h2, h3, h4, h5⟩ := (lootItemInSlot_resolves hlooks.sound pl allowed slot quest index x hl).2 hres
      exact ⟨hp, f, h1, h2, h3, h4, hl, h5⟩
    · rintro ⟨-, f, h1, h2, h3, h4, hl, h5⟩
      exact ⟨hl, (lootItemInSlot_resolves hlooks.sound pl allowed slot quest index x hl).1 ⟨f, h1, h2, h3, h4, h5⟩⟩

/-- The view and the resolver, whoever may see what. -/
def Agrees (loot : Loot) (pl : Nat) (shown : List ShownItem) : Prop :=
  ∀ slot x, (∃ e ∈ shown, e.slot = slot ∧ e.item = x) ↔
    ∃ f, loot.lootItemInSlot slot pl = some f ∧ f.item = x ∧ x.isLooted = false

theorem not_agrees {loot : Loot} {pl : Nat} {shown : List ShownItem} (slot : Nat) (hshown : shown = [])
    (hf : (loot.lootItemInSlot slot pl).any (fun f => !f.item.isLooted) = true) : ¬ Agrees loot pl shown := by
  obtain ⟨f, hf, hl⟩ := (Option.any_eq_true _ _).1 hf
  intro h
  obtain ⟨e, he, -⟩ := (h slot f.item).2 ⟨f, hf, rfl, by simpa using hl⟩
  rw [hshown] at he
  cases he

/-- A loot of one item. -/
def sampleDrop (li : LootStoreItem) : LootRoom := step {} (.generate 0 [li] [] (fun _ _ => true) none)

/-- **What is hidden can be named**: without a permission an ordinary item; with it one that the viewer is not
allowed, or one for all that is not in his list. -/
theorem hidden_resolves :
    ¬ Agrees ((sampleDrop { itemid := 7 }).sendLoot 1 false fun _ => true).loot 1
        ((sampleDrop { itemid := 7 }).sentView 1 .none fun _ => true).write.items ∧
      ¬ Agrees ((sampleDrop { itemid := 7 }).sendLoot 1 true fun _ => false).loot 1
        ((sampleDrop { itemid := 7 }).sentView 1 .all fun _ => false).write.items ∧
      ¬ Agrees ((sampleDrop { itemid := 7, partyLoot := true }).sendLoot 1 true fun _ => false).loot 1
        ((sampleDrop { itemid := 7, partyLoot := true }).sentView 1 .all fun _ => false).write.items := by
  refine ⟨not_agrees 0 ?_ ?_, not_agrees 0 ?_ ?_, not_agrees 0 ?_ ?_⟩ <;> decide

end LootRoom

end BlizzLike
