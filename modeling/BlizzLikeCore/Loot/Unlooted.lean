import BlizzLikeCore.Loot.HandOut
import BlizzLikeCore.Lib.Counting

/-!
# What is left to loot

`unlootedCount` should be the number of units that are left: the items for one player, ordinary ones and
those listed for somebody, and the entries for items that are free for all.  It is along every run in which
each unit that is taken was left, and never more than 255 units are there (`unlooted_counted`).  An item for
one player that is listed for two is taken by both, and the counter goes below zero (`wraps`): the flag of
a list entry replaces that of the item.
-/

namespace BlizzLike

open Counting

/-- An item for one player, or an entry of a player's list for an item that is free for all. -/
inductive LootUnit where
  | item (quest : Bool) (index : Nat)
  | entry (quest : Bool) (pl k : Nat)
  deriving DecidableEq

/-- The flag that an item for one player is listed: both vectors have theirs. -/
def LootItem.isListed (it : LootItem) (quest : Bool) : Bool := if quest then it.isBlocked else it.isCounted

namespace Loot

variable (loot : Loot)

/-- The lists of the items for one player: the quest items, and the others with a condition. -/
def shown (quest : Bool) : Nat → Option (List QuestItem) :=
  if quest then loot.playerQuestItems else loot.playerNonQuestNonFFAConditionalItems

/-- Some player's list has the item. -/
def Listed (quest : Bool) (index : Nat) : Prop :=
  ∃ pl ql, loot.shown quest pl = some ql ∧ index ∈ ql.map QuestItem.index

/-- What a loot window shows to somebody: an item for one player that is not looted, and is ordinary or listed;
an entry that is not looted, for an item for all that is not either. -/
def Left : LootUnit → Prop
  | .item quest index => ∃ it, loot.itemAt quest index = some it ∧ it.freeforall = false ∧ it.isLooted = false ∧
      (quest = false ∧ it.conditionId = 0 ∨ loot.Listed quest index)
  | .entry quest pl k => ∃ ql q, loot.entries quest pl = some ql ∧ ql[k]? = some q ∧ q.isLooted = false ∧
      ∃ it, loot.itemAt quest q.index = some it ∧ it.freeforall = true ∧ it.isLooted = false

/-- The counter has room for all units. -/
def FewUnits : Prop := ∀ U : Finset LootUnit, (∀ u ∈ U, loot.Left u) → U.card < 256

/-- **The law** for a loot: the counter is the number of units, and the loot is looted when none and no gold is
left. -/
def Tallied : Prop :=
  ∃ U : Finset LootUnit, (∀ u, u ∈ U ↔ loot.Left u) ∧ U.card < 256 ∧ loot.unlootedCount = U.card ∧
    (loot.isLooted = true ↔ U = ∅ ∧ loot.gold = 0)

/-- The flags of the items tell which are listed, and no mark is on an item for all. -/
structure Flagged : Prop where
  listed : ∀ quest i it, loot.itemAt quest i = some it → (it.isListed quest = true ↔ loot.Listed quest i)
  shared : ∀ quest i it, loot.itemAt quest i = some it → it.freeforall = true → it.isLooted = false

end Loot

namespace LootRoom

/-- The units are few, and what is taken is left: an autostore that is served finds an entry for an item for all,
else an item that is not looted and, if it has a condition, is listed; the master looter gives a slot that
exists, whose item is for one player, not looted, not rolled for and, if it has a condition, listed; rolls are
started for items without a condition and listed ones. -/
def Accountable (s : LootRoom) : LootRequest → Prop
  | .generate gold drops group allowed rolls => (Loot.fillLoot gold drops group allowed).FewUnits ∧
      ∀ method view, rolls = some (method, view) → ∀ it ∈ (Loot.fillLoot gold drops group allowed).items,
        rolledFor view method allowed it = true → it.conditionId = 0 ∨ it.isCounted = true
  | .sendLoot pl permission allowed => permission = true → (s.loot.fillLists pl allowed).FewUnits
  | .autostoreLootItem pl lootSlot canStore => s.hasOpen pl = true → canStore = true →
      ∀ f, s.loot.lootItemInSlot lootSlot pl = some f → ¬(f.qitem = none ∧ f.item.isBlocked = true) →
        if f.item.freeforall then f.quest = true ∨ f.ffaitem.isSome = true
        else f.item.isLooted = false ∧ (f.quest = true ∨ f.item.conditionId = 0 ∨ f.item.isCounted = true)
  | .lootMasterGive pl _ slotid permitted canStore => permitted = true → s.hasOpen pl = true →
      slotid ≠ s.loot.items.length ∧
        (canStore = true → ∀ it, s.loot.items[slotid]? = some it → it.freeforall = false ∧ it.isLooted = false ∧
          (it.conditionId = 0 ∨ it.isCounted = true) ∧ ∀ r ∈ s.rollId, r.fill = s.fills → r.itemSlot ≠ slotid)
  | _ => True

/-- The items that are rolled for are left. -/
def RollsLeft (s : LootRoom) : Prop :=
  ∀ r ∈ s.rollId, r.fill = s.fills → s.loot.Left (.item false r.itemSlot)

/-- What accountable requests keep. -/
structure Accounted (s : LootRoom) : Prop where
  sound : s.Sound
  counts : Counts 256 s.loot.unlootedCount s.loot.Left
  flagged : s.loot.Flagged
  few : s.loot.FewUnits
  rolls : s.RollsLeft

end LootRoom

/-! ## Lemmas -/

namespace Loot

variable {l m : Loot}

/-- What tells if an item is left. -/
def marks (loot : Loot) (quest : Bool) (i : Nat) : Option (Bool × Bool × Nat) :=
  (loot.itemAt quest i).map fun it => (it.freeforall, it.isLooted, it.conditionId)

theorem left_item_iff {quest : Bool} {i : Nat} : l.Left (.item quest i) ↔
    ∃ c, l.marks quest i = some (false, false, c) ∧ (quest = false ∧ c = 0 ∨ l.Listed quest i) := by
  unfold Left marks
  constructor
  · rintro ⟨it, hat, hffa, hl, hc⟩
    exact ⟨it.conditionId, by rw [hat, Option.map_some, hffa, hl], hc⟩
  · rintro ⟨c, hm, hc⟩
    obtain ⟨it, hat, he⟩ := Option.map_eq_some_iff.1 hm
    simp only [Prod.mk.injEq] at he
    obtain ⟨hffa, hl, rfl⟩ := he
    exact ⟨it, hat, hffa, hl, hc⟩

theorem left_entry_iff {quest : Bool} {pl k : Nat} : l.Left (.entry quest pl k) ↔
    ∃ ql q c, l.entries quest pl = some ql ∧ ql[k]? = some q ∧ q.isLooted = false ∧
      l.marks quest q.index = some (true, false, c) := by
  unfold Left marks
  constructor
  · rintro ⟨ql, q, hql, hq, hun, it, hat, hffa, hl⟩
    exact ⟨ql, q, it.conditionId, hql, hq, hun, by rw [hat, Option.map_some, hffa, hl]⟩
  · rintro ⟨ql, q, c, hql, hq, hun, hm⟩
    obtain ⟨it, hat, he⟩ := Option.map_eq_some_iff.1 hm
    simp only [Prod.mk.injEq] at he
    exact ⟨ql, q, hql, hq, hun, it, hat, he.1, he.2.1⟩

theorem left_congr (hmarks : ∀ quest i, m.marks quest i = l.marks quest i) (hentries : m.entries = l.entries)
    (hlisted : ∀ quest i, m.Listed quest i ↔ l.Listed quest i) (u : LootUnit) : m.Left u ↔ l.Left u := by
  cases u with
  | item quest i => rw [left_item_iff, left_item_iff, hmarks, hlisted]
  | entry quest pl k => simp only [left_entry_iff, hmarks, hentries]

theorem FewUnits.mono (h : m.FewUnits) (hle : ∀ u, l.Left u → m.Left u) : l.FewUnits := fun U hU =>
  h U fun u hu => hle u (hU u hu)

/-! ### Filling -/

/-- Filling adds units, and counts them. -/
structure Fills (l m : Loot) : Prop where
  counts : l.Flagged → Counts 256 l.unlootedCount l.Left → Counts 256 m.unlootedCount m.Left
  more : ∀ u, l.Left u → m.Left u
  flagged : l.Flagged → m.Flagged

theorem Fills.refl (l : Loot) : Fills l l := ⟨fun _ h => h, fun _ h => h, id⟩

theorem Fills.trans {n : Loot} (h : Fills l m) (k : Fills m n) : Fills l n :=
  ⟨fun hf hc => k.counts (h.flagged hf) (h.counts hf hc), fun u hu => k.more u (h.more u hu),
    fun hf => k.flagged (h.flagged hf)⟩

theorem mem_indicesOf {items : List LootItem} {p : LootItem → Bool} {i : Nat} :
    i ∈ indicesOf items p ↔ ∃ it, items[i]? = some it ∧ p it = true := by
  unfold indicesOf
  rw [List.mem_filter, List.mem_range]
  constructor
  · rintro ⟨hi, hp⟩
    rw [List.getElem?_eq_getElem hi] at hp ⊢
    exact ⟨_, rfl, hp⟩
  · rintro ⟨it, hi, hp⟩
    exact ⟨(List.getElem?_eq_some_iff.1 hi).1, by rw [hi]; exact hp⟩

theorem left_entry_of_list (quest : Bool) (pl : Nat) (ql : List Nat) (hnone : l.entries quest pl = none)
    (hm : m.entries quest = Function.update (l.entries quest) pl (some (listOf ql)))
    (ho : m.entries (!quest) = l.entries (!quest)) (hmarks : ∀ quest i, m.marks quest i = l.marks quest i)
    (q : Bool) (p k : Nat) : m.Left (.entry q p k) ↔ l.Left (.entry q p k) ∨
      q = quest ∧ p = pl ∧ ∃ i c, ql[k]? = some i ∧ l.marks quest i = some (true, false, c) := by
  rw [left_entry_iff, left_entry_iff]
  simp only [hmarks]
  by_cases hq : q = quest
  · subst hq
    rw [hm]
    by_cases hp : p = pl
    · subst hp
      rw [Function.update_self, hnone]
      unfold listOf
      constructor
      · rintro ⟨ql', e, c, hql, he, -, hc⟩
        cases hql
        rw [List.getElem?_map] at he
        obtain ⟨i, hi, rfl⟩ := Option.map_eq_some_iff.1 he
        exact Or.inr ⟨rfl, rfl, i, c, hi, hc⟩
      · rintro (⟨_, _, _, h, -⟩ | ⟨-, -, i, c, hi, hc⟩)
        · cases h
        · exact ⟨_, { index := i }, c, rfl, by rw [List.getElem?_map, hi]; rfl, rfl, hc⟩
    · rw [Function.update_of_ne hp]
      simp [hp]
  · rw [LootRoom.other_kind ho hq]
    simp [hq]

theorem listed_of_list (quest : Bool) (pl : Nat) (ql : List Nat) (hnone : l.shown quest pl = none)
    (hm : m.shown quest = Function.update (l.shown quest) pl (some (listOf ql)))
    (ho : m.shown (!quest) = l.shown (!quest)) (q : Bool) (i : Nat) :
    m.Listed q i ↔ l.Listed q i ∨ q = quest ∧ i ∈ ql := by
  unfold Listed
  by_cases hq : q = quest
  · subst hq
    rw [hm]
    have hindex : (listOf ql).map QuestItem.index = ql := by unfold listOf; rw [List.map_map]; exact List.map_id ql
    constructor
    · rintro ⟨p, ql', hp, hi⟩
      by_cases hpl : p = pl
      · subst hpl
        rw [Function.update_self] at hp
        cases hp
        exact Or.inr ⟨rfl, hindex ▸ hi⟩
      · rw [Function.update_of_ne hpl] at hp
        exact Or.inl ⟨p, ql', hp, hi⟩
    · rintro (⟨p, ql', hp, hi⟩ | ⟨-, hi⟩)
      · have hpl : p ≠ pl := by rintro rfl; rw [hnone] at hp; cases hp
        exact ⟨p, ql', by rw [Function.update_of_ne hpl]; exact hp, hi⟩
      · exact ⟨pl, listOf ql, Function.update_self .., hindex.symm ▸ hi⟩
  · rw [LootRoom.other_kind ho hq]
    simp [hq]

theorem fillFFALoot_fills (l : Loot) (pl : Nat) (allowed : LootItem → Bool) (hnone : l.playerFFAItems pl = none) :
    Fills l (l.fillFFALoot pl allowed) := by
  unfold fillFFALoot
  simp only
  split
  · exact Fills.refl l
  have hspec : ∀ i ∈ indicesOf l.items (fun it => !it.isLooted && it.freeforall && allowed it),
      ∃ c, l.marks false i = some (true, false, c) := by
    intro i hi
    obtain ⟨it, hat, hp⟩ := mem_indicesOf.1 hi
    simp only [Bool.and_eq_true, Bool.not_eq_true'] at hp
    refine ⟨it.conditionId, ?_⟩
    rw [marks, show l.itemAt false i = some it from hat, Option.map_some, hp.1.1, hp.1.2]
  generalize indicesOf l.items (fun it => !it.isLooted && it.freeforall && allowed it) = ql at hspec
  generalize hm : ({ l with
    unlootedCount := u8 (l.unlootedCount + ql.length)
    playerFFAItems := Function.update l.playerFFAItems pl (some (listOf ql)) } : Loot) = m
  have hmarks : ∀ quest i, m.marks quest i = l.marks quest i := fun quest i => by subst hm; rfl
  have hlisted : ∀ quest i, m.Listed quest i ↔ l.Listed quest i := fun quest i => by subst hm; rfl
  have hentry := left_entry_of_list (m := m) false pl ql hnone (by subst hm; rfl)
    (by subst hm; rfl) hmarks
  have hleft : ∀ u, m.Left u ↔ l.Left u ∨ u ∈ (List.range ql.length).map (LootUnit.entry false pl) := by
    intro u
    cases u with
    | item quest i => simp [left_item_iff, hmarks, hlisted]
    | entry q p k =>
      rw [hentry, List.mem_map]
      refine or_congr_right ⟨?_, ?_⟩
      · rintro ⟨rfl, rfl, i, -, hi, -⟩
        exact ⟨k, List.mem_range.2 (List.getElem?_eq_some_iff.1 hi).1, rfl⟩
      · rintro ⟨k', hk, he⟩
        simp only [LootUnit.entry.injEq] at he
        obtain ⟨rfl, rfl, rfl⟩ := he
        have hlt := List.mem_range.1 hk
        obtain ⟨c, hc⟩ := hspec ql[k'] (List.getElem_mem hlt)
        exact ⟨rfl, rfl, ql[k'], c, List.getElem?_eq_getElem hlt, hc⟩
  refine ⟨fun _ hc => ?_, fun u hu => (hleft u).2 (Or.inl hu), fun hf => ?_⟩
  · have := hc.add (List.nodup_range.map fun i j h => (LootUnit.entry.inj h).2.2) (fun u hu hl => ?_) hleft
    · rw [List.length_map, List.length_range] at this
      subst hm
      exact this
    · obtain ⟨k, -, rfl⟩ := List.mem_map.1 hu
      obtain ⟨ql', q, c, hql, -⟩ := left_entry_iff.1 hl
      rw [show l.entries false pl = none from hnone] at hql
      cases hql
  · subst hm
    exact ⟨hf.listed, hf.shared⟩

/-- A player's new list of items for one player, which are flagged; items for all are units of their own. -/
structure Lists (quest : Bool) (pl : Nat) (ql : List Nat) (l m : Loot) : Prop where
  nodup : ql.Nodup
  unlooted : ∀ i ∈ ql, ∃ it, l.itemAt quest i = some it ∧ it.isLooted = false ∧
    (quest = false → it.conditionId ≠ 0)
  marks : ∀ q i, m.marks q i = l.marks q i
  flag : ∀ q i it, m.itemAt q i = some it → ∃ it0, l.itemAt q i = some it0 ∧
    (it.isListed q = true ↔ it0.isListed q = true ∨ q = quest ∧ i ∈ ql)
  listed : ∀ q i, m.Listed q i ↔ l.Listed q i ∨ q = quest ∧ i ∈ ql
  entry : ∀ q p k, m.Left (.entry q p k) ↔ l.Left (.entry q p k) ∨
    q = quest ∧ p = pl ∧ ∃ i c, ql[k]? = some i ∧ l.marks quest i = some (true, false, c)
  fresh : ∀ k i c, ql[k]? = some i → l.marks quest i = some (true, false, c) → ¬ l.Left (.entry quest pl k)
  count : m.unlootedCount = u8 (l.unlootedCount +
    (ql.filter fun i => (l.itemAt quest i).any fun it => it.freeforall || !it.isListed quest).length)

section
variable {quest : Bool} {pl : Nat} {ql : List Nat}

/-- The unit that a place of a list adds, if any. -/
def unitAt (l : Loot) (quest : Bool) (pl : Nat) (ql : List Nat) (i : Nat) : LootUnit :=
  if (l.itemAt quest i).any LootItem.freeforall then .entry quest pl (ql.idxOf i) else .item quest i

theorem unitAt_inj {i j : Nat} (hi : i ∈ ql) (h : l.unitAt quest pl ql i = l.unitAt quest pl ql j) : i = j := by
  unfold unitAt at h
  split at h
  · split at h
    · exact (List.idxOf_inj hi).1 (LootUnit.entry.inj h).2.2
    · cases h
  · split at h
    · cases h
    · exact (LootUnit.item.inj h).2

/-- What the places that are counted add: the entries for items for all, and the items that nobody has listed. -/
theorem Lists.mem_units (h : Lists quest pl ql l m) (u : LootUnit) :
    u ∈ (ql.filter fun i => (l.itemAt quest i).any fun it => it.freeforall || !it.isListed quest).map
        (l.unitAt quest pl ql) ↔
      (∃ k i c, u = .entry quest pl k ∧ ql[k]? = some i ∧ l.marks quest i = some (true, false, c)) ∨
      ∃ i it, u = .item quest i ∧ i ∈ ql ∧ l.itemAt quest i = some it ∧ it.freeforall = false ∧
        it.isListed quest = false := by
  simp only [List.mem_map, List.mem_filter, unitAt]
  constructor
  · rintro ⟨i, ⟨hi, hp⟩, rfl⟩
    obtain ⟨it, hit, hun, -⟩ := h.unlooted i hi
    rw [hit] at hp ⊢
    simp only [Option.any_some, Bool.or_eq_true, Bool.not_eq_true'] at hp ⊢
    by_cases hffa : it.freeforall = true
    · refine Or.inl ⟨ql.idxOf i, i, it.conditionId, if_pos hffa, ?_, ?_⟩
      · rw [List.getElem?_eq_getElem (List.idxOf_lt_length_of_mem hi), List.getElem_idxOf]
      · rw [Loot.marks, hit, Option.map_some, hffa, hun]
    · exact Or.inr ⟨i, it, if_neg hffa, hi, hit, by simpa using hffa, hp.resolve_left hffa⟩
  · rintro (⟨k, i, c, rfl, hk, hc⟩ | ⟨i, it, rfl, hi, hit, hffa, hb⟩)
    · obtain ⟨hlt, rfl⟩ := List.getElem?_eq_some_iff.1 hk
      obtain ⟨it, hit, -⟩ := h.unlooted _ (List.getElem_mem hlt)
      have hffa : it.freeforall = true := by
        rw [Loot.marks, hit] at hc
        exact (Prod.mk.inj (Option.some.inj hc)).1
      refine ⟨ql[k], ⟨List.getElem_mem hlt, by simp [hit, hffa]⟩, ?_⟩
      rw [hit, Option.any_some, if_pos hffa, h.nodup.idxOf_getElem]
    · exact ⟨i, ⟨hi, by simp [hit, hb]⟩, by rw [hit, Option.any_some, hffa]; rfl⟩

theorem Lists.left_iff (h : Lists quest pl ql l m) (hf : l.Flagged) (u : LootUnit) :
    m.Left u ↔ l.Left u ∨ u ∈ (ql.filter fun i => (l.itemAt quest i).any fun it =>
      it.freeforall || !it.isListed quest).map (l.unitAt quest pl ql) := by
  rw [h.mem_units]
  cases u with
  | entry q p k =>
    rw [h.entry]
    refine or_congr_right ⟨?_, ?_⟩
    · rintro ⟨rfl, rfl, i, c, hk, hc⟩
      exact Or.inl ⟨k, i, c, rfl, hk, hc⟩
    · rintro (⟨k', i, c, he, hk, hc⟩ | ⟨i, it, he, -⟩)
      · simp only [LootUnit.entry.injEq] at he
        obtain ⟨rfl, rfl, rfl⟩ := he
        exact ⟨rfl, rfl, i, c, hk, hc⟩
      · cases he
  | item q i =>
    rw [left_item_iff, left_item_iff, h.marks]
    constructor
    · rintro ⟨c, hc, hl⟩
      rw [h.listed] at hl
      rcases hl with hl | hl | ⟨rfl, hi⟩
      · exact Or.inl ⟨c, hc, Or.inl hl⟩
      · exact Or.inl ⟨c, hc, Or.inr hl⟩
      obtain ⟨it, hit, -⟩ := h.unlooted i hi
      cases hb : it.isListed q with
      | true => exact Or.inl ⟨c, hc, Or.inr ((hf.listed q i it hit).1 hb)⟩
      | false =>
        rw [Loot.marks, hit] at hc
        exact Or.inr (Or.inr ⟨i, it, rfl, hi, hit, (Prod.mk.inj (Option.some.inj hc)).1, hb⟩)
    · rintro (⟨c, hc, hl⟩ | ⟨k, j, c, he, -⟩ | ⟨j, it, he, hi, hit, hffa, hb⟩)
      · exact ⟨c, hc, hl.imp_right fun hl => (h.listed q i).2 (Or.inl hl)⟩
      · cases he
      · simp only [LootUnit.item.injEq] at he
        obtain ⟨rfl, rfl⟩ := he
        obtain ⟨it', hit', hun, -⟩ := h.unlooted i hi
        cases hit.symm.trans hit'
        refine ⟨it.conditionId, ?_, Or.inr ((h.listed q i).2 (Or.inr ⟨rfl, hi⟩))⟩
        rw [Loot.marks, hit, Option.map_some, hffa, hun]

theorem Lists.fills (h : Lists quest pl ql l m) : Fills l m := by
  refine ⟨fun hf hc => ?_, fun u hu => ?_, fun hf => ⟨fun q i it hi => ?_, fun q i it hi hffa => ?_⟩⟩
  · rw [h.count, u8, ← List.length_map (l.unitAt quest pl ql)]
    refine hc.add ((h.nodup.filter _).map_on fun i hi j _ => unitAt_inj (List.mem_of_mem_filter hi))
      (fun u hu hl => ?_) (h.left_iff hf)
    rcases (h.mem_units u).1 hu with ⟨k, i, c, rfl, hk, hc⟩ | ⟨i, it, rfl, hi, hit, -, hb⟩
    · exact h.fresh k i c hk hc hl
    · obtain ⟨it', hit', -, hcond⟩ := h.unlooted i hi
      cases hit.symm.trans hit'
      obtain ⟨it', hat, -, -, hordinary | hlisted⟩ := hl
      · cases hit.symm.trans hat
        exact hcond hordinary.1 hordinary.2
      · rw [(hf.listed quest i it hit).2 hlisted] at hb
        cases hb
  · cases u with
    | entry q p k => exact (h.entry q p k).2 (Or.inl hu)
    | item q i =>
      obtain ⟨c, hc, hl⟩ := left_item_iff.1 hu
      exact left_item_iff.2 ⟨c, (h.marks q i).trans hc, hl.imp_right fun hl => (h.listed q i).2 (Or.inl hl)⟩
  · obtain ⟨it0, h0, hiff⟩ := h.flag q i it hi
    rw [hiff, h.listed, hf.listed q i it0 h0]
  · have hm := h.marks q i
    rw [Loot.marks, Loot.marks, hi] at hm
    obtain ⟨it0, h0, he⟩ := Option.map_eq_some_iff.1 hm.symm
    simp only [Prod.mk.injEq] at he
    exact he.2.1.symm.trans (hf.shared q i it0 h0 (he.1.trans hffa))

end

theorem fillQuestLoot_fills (l : Loot) (pl : Nat) (allowed : LootItem → Bool)
    (hnone : l.playerQuestItems pl = none) : Fills l (l.fillQuestLoot pl allowed) := by
  unfold fillQuestLoot
  split
  · exact Fills.refl l
  simp only
  split
  · exact Fills.refl l
  have hspec : ∀ i ∈ (indicesOf l.questItems fun it => !it.isLooted && allowed it).take
      (maxNrLootItems - l.items.length), ∃ it, l.itemAt true i = some it ∧ it.isLooted = false := by
    intro i hi
    obtain ⟨it, hat, hp⟩ := mem_indicesOf.1 (List.mem_of_mem_take hi)
    simp only [Bool.and_eq_true, Bool.not_eq_true'] at hp
    exact ⟨it, hat, hp.1⟩
  have hnodup := (LootRoom.indicesOf_nodup l.questItems fun it => !it.isLooted && allowed it).sublist
    (List.take_sublist (maxNrLootItems - l.items.length) _)
  generalize (indicesOf l.questItems fun it => !it.isLooted && allowed it).take
    (maxNrLootItems - l.items.length) = ql at hspec hnodup
  generalize hm : ({ l with
    questItems := l.questItems.mapIdx fun i it => if i ∈ ql then { it with isBlocked := true } else it
    unlootedCount := u8 (l.unlootedCount +
      (ql.filter fun i => (l.questItems[i]?).any fun it => it.freeforall || !it.isBlocked).length)
    playerQuestItems := Function.update l.playerQuestItems pl (some (listOf ql)) } : Loot) = m
  have hat : ∀ quest i, m.itemAt quest i = (l.itemAt quest i).map fun it =>
      if quest = true ∧ i ∈ ql then { it with isBlocked := true } else it := by
    intro quest i
    subst hm
    cases quest with
    | false => simp [itemAt]
    | true => simp [itemAt, List.getElem?_mapIdx]
  have hmarks : ∀ quest i, m.marks quest i = l.marks quest i := by
    intro quest i
    rw [marks, marks, hat, Option.map_map]
    refine congrArg (fun f => (l.itemAt quest i).map f) (funext fun it => ?_)
    simp only [Function.comp]
    split <;> rfl
  suffices hlists : Lists true pl ql l m from hlists.fills
  refine ⟨hnodup, fun i hi => ?_, hmarks, fun q i it hi => ?_,
    listed_of_list _ pl ql hnone (by subst hm; rfl) (by subst hm; rfl),
    left_entry_of_list _ pl ql hnone (by subst hm; rfl) (by subst hm; rfl) hmarks, fun k i c _ _ hl => ?_,
    by subst hm; rfl⟩
  · obtain ⟨it, hit, hun⟩ := hspec i hi
    exact ⟨it, hit, hun, fun h => by cases h⟩
  · rw [hat] at hi
    obtain ⟨it0, h0, rfl⟩ := Option.map_eq_some_iff.1 hi
    refine ⟨it0, h0, ?_⟩
    unfold LootItem.isListed
    cases q with
    | false => simp
    | true => by_cases hq : i ∈ ql <;> simp [hq]
  · obtain ⟨ql', q, c, hql, -⟩ := left_entry_iff.1 hl
    rw [show l.entries true pl = none from hnone] at hql
    cases hql

theorem fillNonQuestNonFFAConditionalLoot_fills (l : Loot) (pl : Nat) (allowed : LootItem → Bool)
    (hnone : l.playerNonQuestNonFFAConditionalItems pl = none) :
    Fills l (l.fillNonQuestNonFFAConditionalLoot pl allowed) := by
  unfold fillNonQuestNonFFAConditionalLoot
  simp only
  split
  · exact Fills.refl l
  have hspec : ∀ i ∈ indicesOf l.items fun it =>
      !it.isLooted && !it.freeforall && it.conditionId != 0 && allowed it,
      ∃ it, l.itemAt false i = some it ∧ it.isLooted = false ∧ it.freeforall = false ∧ it.conditionId ≠ 0 := by
    intro i hi
    obtain ⟨it, hat, hp⟩ := mem_indicesOf.1 hi
    simp only [Bool.and_eq_true, Bool.not_eq_true', bne_iff_ne, ne_eq] at hp
    exact ⟨it, hat, hp.1.1.1, hp.1.1.2, hp.1.2⟩
  have hnodup := LootRoom.indicesOf_nodup l.items fun it =>
    !it.isLooted && !it.freeforall && it.conditionId != 0 && allowed it
  generalize (indicesOf l.items fun it => !it.isLooted && !it.freeforall && it.conditionId != 0 && allowed it) = ql
    at hspec hnodup
  generalize hm : ({ l with
    items := l.items.mapIdx fun i it => if i ∈ ql then { it with isCounted := true } else it
    unlootedCount := u8 (l.unlootedCount + (ql.filter fun i => (l.items[i]?).any fun it => !it.isCounted).length)
    playerNonQuestNonFFAConditionalItems :=
      Function.update l.playerNonQuestNonFFAConditionalItems pl (some (listOf ql)) } : Loot) = m
  have hat : ∀ quest i, m.itemAt quest i = (l.itemAt quest i).map fun it =>
      if quest = false ∧ i ∈ ql then { it with isCounted := true } else it := by
    intro quest i
    subst hm
    cases quest with
    | false => simp [itemAt, List.getElem?_mapIdx]
    | true => simp [itemAt]
  have hmarks : ∀ quest i, m.marks quest i = l.marks quest i := by
    intro quest i
    rw [marks, marks, hat, Option.map_map]
    refine congrArg (fun f => (l.itemAt quest i).map f) (funext fun it => ?_)
    simp only [Function.comp]
    split <;> rfl
  -- none of them is for all
  have hone : ∀ (k i c : Nat), ql[k]? = some i → l.marks false i ≠ some (true, false, c) := by
    intro k i c hk hc
    obtain ⟨it, hit, -, hffa, -⟩ := hspec i (List.mem_of_getElem? hk)
    rw [marks, hit] at hc
    rw [(Prod.mk.inj (Option.some.inj hc)).1] at hffa
    cases hffa
  suffices hlists : Lists false pl ql l m from hlists.fills
  refine ⟨hnodup, fun i hi => ?_, hmarks, fun q i it hi => ?_,
    listed_of_list _ pl ql hnone (by subst hm; rfl) (by subst hm; rfl), fun q p k => ?_,
    fun k i c hk hc _ => hone k i c hk hc, ?_⟩
  · obtain ⟨it, hit, hun, -, hcond⟩ := hspec i hi
    exact ⟨it, hit, hun, fun _ => hcond⟩
  · rw [hat] at hi
    obtain ⟨it0, h0, rfl⟩ := Option.map_eq_some_iff.1 hi
    refine ⟨it0, h0, ?_⟩
    unfold LootItem.isListed
    cases q with
    | false => by_cases hq : i ∈ ql <;> simp [hq]
    | true => simp
  · have hentries : m.entries = l.entries := by subst hm; rfl
    rw [left_entry_iff, left_entry_iff, hentries]
    simp only [hmarks]
    refine (or_iff_left ?_).symm
    rintro ⟨_, _, i, c, hk, hc⟩
    exact hone k i c hk hc
  · have hcounted : (ql.filter fun i => (l.items[i]?).any fun it => !it.isCounted) =
        ql.filter fun i => (l.itemAt false i).any fun it => it.freeforall || !it.isListed false := by
      refine List.filter_congr fun i hi => ?_
      obtain ⟨it, hit, -, hffa, -⟩ := hspec i hi
      rw [hit, show l.items[i]? = some it from hit]
      simp [hffa, LootItem.isListed]
    rw [← hcounted]
    subst hm
    rfl

theorem fillLists_fills (l : Loot) (pl : Nat) (allowed : LootItem → Bool) : Fills l (l.fillLists pl allowed) := by
  unfold fillLists
  simp only
  have h1 : Fills l (if (l.playerQuestItems pl).isNone then l.fillQuestLoot pl allowed else l) := by
    split
    · next h => exact fillQuestLoot_fills l pl allowed (Option.isNone_iff_eq_none.1 h)
    · exact Fills.refl l
  generalize (if (l.playerQuestItems pl).isNone then l.fillQuestLoot pl allowed else l) = l1 at h1
  have h2 : Fills l1 (if (l1.playerFFAItems pl).isNone then l1.fillFFALoot pl allowed else l1) := by
    split
    · next h => exact fillFFALoot_fills l1 pl allowed (Option.isNone_iff_eq_none.1 h)
    · exact Fills.refl l1
  generalize (if (l1.playerFFAItems pl).isNone then l1.fillFFALoot pl allowed else l1) = l2 at h2
  refine (h1.trans h2).trans ?_
  split
  · next h => exact fillNonQuestNonFFAConditionalLoot_fills l2 pl allowed (Option.isNone_iff_eq_none.1 h)
  · exact Fills.refl l2

/-! ### Generating -/

/-- A loot that nobody has a list for. -/
structure Stocked (l : Loot) : Prop where
  counts : Counts 256 l.unlootedCount l.Left
  fresh : ∀ quest i it, l.itemAt quest i = some it → it.isLooted = false ∧ it.isListed quest = false
  entries : ∀ quest pl, l.entries quest pl = none
  shown : ∀ quest pl, l.shown quest pl = none

theorem left_unlisted (he : ∀ quest pl, l.entries quest pl = none) (hs : ∀ quest pl, l.shown quest pl = none)
    (u : LootUnit) : l.Left u ↔ ∃ i it, u = .item false i ∧ l.items[i]? = some it ∧ it.freeforall = false ∧
      it.isLooted = false ∧ it.conditionId = 0 := by
  constructor
  · intro h
    cases u with
    | item quest i =>
      obtain ⟨it, hat, hffa, hl, ⟨rfl, hc⟩ | ⟨pl, ql, hql, -⟩⟩ := h
      · exact ⟨i, it, rfl, hat, hffa, hl, hc⟩
      · rw [hs] at hql; cases hql
    | entry quest pl k =>
      obtain ⟨ql, q, hql, -⟩ := h
      rw [he] at hql; cases hql
  · rintro ⟨i, it, rfl, hat, hffa, hl, hc⟩
    exact ⟨it, hat, hffa, hl, Or.inl ⟨rfl, hc⟩⟩

theorem getElem?_concat {α : Type*} (l : List α) (a b : α) (i : Nat) :
    (l ++ [a])[i]? = some b ↔ l[i]? = some b ∨ i = l.length ∧ a = b := by
  rcases Nat.lt_trichotomy i l.length with hi | rfl | hi
  · rw [List.getElem?_append_left hi]
    exact (or_iff_left fun h => absurd h.1 (Nat.ne_of_lt hi)).symm
  · rw [List.getElem?_concat_length, List.getElem?_eq_none (le_refl _)]
    simp
  · rw [List.getElem?_eq_none (by rw [List.length_append]; exact hi), List.getElem?_eq_none (Nat.le_of_lt hi)]
    simp [Nat.ne_of_gt hi]

theorem addItem_stocked (h : Stocked l) (li : LootStoreItem) : Stocked (l.addItem li) := by
  have hnew : ∀ quest, (newItem li).isLooted = false ∧ (newItem li).isListed quest = false := fun quest => by
    cases quest <;> exact ⟨rfl, rfl⟩
  unfold addItem
  split
  · split
    · refine ⟨h.counts.congr fun u => ?_, fun quest i it hat => ?_, h.entries, h.shown⟩
      · exact (left_unlisted (by exact h.entries) (by exact h.shown) u).trans (left_unlisted h.entries h.shown u).symm
      · cases quest with
        | false => exact h.fresh false i it hat
        | true =>
          rcases (getElem?_concat _ _ _ _).1 hat with hat | ⟨-, rfl⟩
          · exact h.fresh true i it hat
          · exact hnew true
    · exact h
  split
  · refine ⟨?_, fun quest i it hat => ?_, h.entries, h.shown⟩
    · have hleft : ∀ m : Loot, m.items = l.items ++ [newItem li] → m.entries = l.entries → m.shown = l.shown →
          ∀ u, m.Left u ↔ l.Left u ∨ u ∈ if li.conditionId = 0 ∧ li.partyLoot = false then
            [LootUnit.item false l.items.length] else [] := by
        intro m hitems hentries hshown u
        rw [left_unlisted h.entries h.shown, left_unlisted (by rw [hentries]; exact h.entries)
          (by rw [hshown]; exact h.shown), hitems]
        simp only [getElem?_concat]
        constructor
        · rintro ⟨i, it, rfl, hat | ⟨rfl, rfl⟩, hffa, hl, hc⟩
          · exact Or.inl ⟨i, it, rfl, hat, hffa, hl, hc⟩
          · exact Or.inr (by rw [if_pos ⟨hc, hffa⟩]; exact List.mem_singleton_self _)
        · rintro (⟨i, it, rfl, hat, hffa, hl, hc⟩ | hu)
          · exact ⟨i, it, rfl, Or.inl hat, hffa, hl, hc⟩
          · split at hu
            · next hord => exact ⟨_, _, List.mem_singleton.1 hu, Or.inr ⟨rfl, rfl⟩, hord.2, rfl, hord.1⟩
            · cases hu
      have hadd := h.counts.add (l := if li.conditionId = 0 ∧ li.partyLoot = false then
        [LootUnit.item false l.items.length] else []) (by split <;> simp) (fun u hu hl => ?_)
        (hleft { l with items := l.items ++ [newItem li] } rfl rfl rfl)
      · obtain ⟨U, -, hlt⟩ := h.counts
        split
        · next hord => rw [if_pos hord] at hadd; exact hadd
        · next hord =>
          rw [if_neg hord] at hadd
          rwa [List.length_nil, Nat.add_zero, hlt, Nat.mod_mod, ← hlt] at hadd
      · split at hu
        · rw [List.mem_singleton.1 hu] at hl
          obtain ⟨it, hat, -⟩ := hl
          rw [show l.itemAt false l.items.length = none from List.getElem?_eq_none (le_refl _)] at hat
          cases hat
        · cases hu
    · cases quest with
      | true => exact h.fresh true i it hat
      | false =>
        rcases (getElem?_concat _ _ _ _).1 hat with hat | ⟨-, rfl⟩
        · exact h.fresh false i it hat
        · exact hnew false
  · exact h

theorem stocked_empty : Stocked {} where
  counts := Counts.empty fun u hu => by
    obtain ⟨i, it, -, hat, -⟩ := (left_unlisted (fun q _ => by cases q <;> rfl) (fun q _ => by cases q <;> rfl) u).1 hu
    cases hat
  fresh quest i it hat := by cases quest <;> cases hat
  entries quest _ := by cases quest <;> rfl
  shown quest _ := by cases quest <;> rfl

theorem Stocked.flagged (h : Stocked l) : l.Flagged where
  listed quest i it hat := by
    rw [(h.fresh quest i it hat).2]
    refine iff_of_false Bool.false_ne_true ?_
    rintro ⟨pl, ql, hql, -⟩
    rw [h.shown] at hql
    cases hql
  shared quest i it hat _ := (h.fresh quest i it hat).1

/-- **A generated loot** counts its units. -/
theorem fillLoot_counts (gold : Nat) (drops : List LootStoreItem) (group : List Nat)
    (allowed : Nat → LootItem → Bool) :
    Counts 256 (fillLoot gold drops group allowed).unlootedCount (fillLoot gold drops group allowed).Left ∧
      (fillLoot gold drops group allowed).Flagged := by
  have hstock : ∀ (drops : List LootStoreItem) (l : Loot), Stocked l → Stocked (drops.foldl addItem l) := by
    intro drops
    induction drops with
    | nil => exact fun l hl => hl
    | cons li drops ih => exact fun l hl => ih _ (addItem_stocked hl li)
  have h0 := hstock drops {} stocked_empty
  have h1 : Stocked { drops.foldl addItem {} with gold := gold } := ⟨h0.counts, h0.fresh, h0.entries, h0.shown⟩
  have hfill : ∀ (group : List Nat) (l : Loot), Fills l (group.foldl (fun l pl => l.fillLists pl (allowed pl)) l) := by
    intro group
    induction group with
    | nil => exact Fills.refl
    | cons pl group ih => exact fun l => (fillLists_fills l pl (allowed pl)).trans (ih _)
  have hf := hfill group { drops.foldl addItem {} with gold := gold }
  exact ⟨hf.counts h1.flagged h1.counts, hf.flagged h1.flagged⟩

/-! ### Taking -/

/-- An entry of a player's list that shares out items for all. -/
def entryAt (loot : Loot) (quest : Bool) (pl k : Nat) : Option QuestItem := (loot.entries quest pl).bind fun ql => ql[k]?

theorem left_entryAt_iff {quest : Bool} {pl k : Nat} : l.Left (.entry quest pl k) ↔
    ∃ q c, l.entryAt quest pl k = some q ∧ q.isLooted = false ∧ l.marks quest q.index = some (true, false, c) := by
  rw [left_entry_iff]
  unfold entryAt
  constructor
  · rintro ⟨ql, q, c, hql, hq, h⟩
    exact ⟨q, c, Option.bind_eq_some_iff.2 ⟨ql, hql, hq⟩, h⟩
  · rintro ⟨q, c, hq, h⟩
    obtain ⟨ql, hql, hq⟩ := Option.bind_eq_some_iff.1 hq
    exact ⟨ql, q, c, hql, hq, h⟩

theorem markEntry_getElem? (lists : Nat → Option (List QuestItem)) (pl k p j : Nat) :
    (markEntry lists pl k p).bind (fun ql => ql[j]?) =
      if p = pl ∧ j = k then ((lists p).bind fun ql => ql[j]?).map fun q => { q with isLooted := true }
      else (lists p).bind fun ql => ql[j]? := by
  unfold markEntry
  by_cases hp : p = pl
  · subst hp
    rw [Function.update_self]
    cases lists p with
    | none => simp
    | some ql =>
      simp only [Option.map_some, Option.bind_some, List.getElem?_modify, true_and]
      by_cases hj : k = j
      · simp [hj]
      · simp [hj, Ne.symm hj]
  · rw [Function.update_of_ne hp, if_neg fun h => hp h.1]

theorem markEntry_indices (lists : Nat → Option (List QuestItem)) (pl k p : Nat) :
    (markEntry lists pl k p).map (List.map QuestItem.index) = (lists p).map (List.map QuestItem.index) := by
  unfold markEntry
  by_cases hp : p = pl
  · subst hp
    rw [Function.update_self, Option.map_map]
    refine congrArg (fun f => (lists p).map f) (funext fun ql => ?_)
    exact map_modify ql k _ QuestItem.index fun _ => rfl
  · rw [Function.update_of_ne hp]

theorem listed_congr (h : ∀ quest pl, (m.shown quest pl).map (List.map QuestItem.index) =
    (l.shown quest pl).map (List.map QuestItem.index)) (quest : Bool) (i : Nat) :
    m.Listed quest i ↔ l.Listed quest i := by
  have hlisted : ∀ n : Loot, n.Listed quest i ↔
      ∃ pl is, (n.shown quest pl).map (List.map QuestItem.index) = some is ∧ i ∈ is := by
    intro n
    constructor
    · rintro ⟨pl, ql, hql, hi⟩
      exact ⟨pl, _, by rw [hql]; rfl, hi⟩
    · rintro ⟨pl, is, his, hi⟩
      obtain ⟨ql, hql, rfl⟩ := Option.map_eq_some_iff.1 his
      exact ⟨pl, ql, hql, hi⟩
  rw [hlisted, hlisted]
  simp only [h]

/-- An item for one player is marked: it is not left any more, and nothing else changes. -/
theorem left_take_item {quest : Bool} {i : Nat} (hi : l.Left (.item quest i))
    (hmarks : ∀ q j, m.marks q j =
      if q = quest ∧ j = i then (l.marks q j).map fun x => (x.1, true, x.2.2) else l.marks q j)
    (hentry : ∀ q p k, m.entryAt q p k = l.entryAt q p k ∨
      ∃ e e', l.entryAt q p k = some e ∧ m.entryAt q p k = some e' ∧ q = quest ∧ e.index = i ∧ e'.index = i)
    (hlisted : ∀ q j, m.Listed q j ↔ l.Listed q j) (u : LootUnit) : m.Left u ↔ l.Left u ∧ u ≠ .item quest i := by
  obtain ⟨c, hc, -⟩ := left_item_iff.1 hi
  -- the entries for the item are not units, as it is not for all
  have hmark : ∀ q j c', m.marks q j = some (true, false, c') ↔ l.marks q j = some (true, false, c') := by
    intro q j c'
    rw [hmarks]
    split
    · next h => rw [h.1, h.2, hc]; simp
    · exact Iff.rfl
  cases u with
  | item q j =>
    rw [left_item_iff, left_item_iff, hmarks, hlisted]
    by_cases h : q = quest ∧ j = i
    · obtain ⟨rfl, rfl⟩ := h
      rw [if_pos ⟨rfl, rfl⟩, hc]
      simp
    · rw [if_neg h]
      have hne : LootUnit.item q j ≠ .item quest i := fun he => h ⟨(LootUnit.item.inj he).1, (LootUnit.item.inj he).2⟩
      exact (and_iff_left hne).symm
  | entry q p k =>
    rw [left_entryAt_iff, left_entryAt_iff]
    simp only [hmark, ne_eq, reduceCtorEq, not_false_eq_true, and_true]
    rcases hentry q p k with he | ⟨e, e', he, he', rfl, hei, hei'⟩
    · rw [he]
    · refine iff_of_false ?_ ?_
      · rintro ⟨x, c', hx, -, hm⟩
        cases he'.symm.trans hx
        rw [hei', hc] at hm
        simp at hm
      · rintro ⟨x, c', hx, -, hm⟩
        cases he.symm.trans hx
        rw [hei, hc] at hm
        simp at hm

theorem left_take_entry {quest : Bool} {pl k : Nat} (hmarks : ∀ q j, m.marks q j = l.marks q j)
    (hentry : ∀ q p j, m.entryAt q p j = if q = quest ∧ p = pl ∧ j = k then
      (l.entryAt q p j).map fun e => { e with isLooted := true } else l.entryAt q p j)
    (hlisted : ∀ q j, m.Listed q j ↔ l.Listed q j) (u : LootUnit) :
    m.Left u ↔ l.Left u ∧ u ≠ .entry quest pl k := by
  cases u with
  | item q j =>
    rw [left_item_iff, left_item_iff, hmarks, hlisted]
    exact (and_iff_left fun h => by cases h).symm
  | entry q p j =>
    rw [left_entryAt_iff, left_entryAt_iff, hentry]
    simp only [hmarks]
    by_cases h : q = quest ∧ p = pl ∧ j = k
    · obtain ⟨rfl, rfl, rfl⟩ := h
      rw [if_pos ⟨rfl, rfl, rfl⟩]
      refine iff_of_false ?_ fun h => h.2 rfl
      rintro ⟨e, c, he, hun, -⟩
      obtain ⟨e0, -, rfl⟩ := Option.map_eq_some_iff.1 he
      cases hun
    · rw [if_neg h]
      have hne : LootUnit.entry q p j ≠ .entry quest pl k := fun he => h (LootUnit.entry.inj he)
      exact (and_iff_left hne).symm

theorem markFound_listed (l : Loot) (pl : Nat) (f : Found) (quest : Bool) (i : Nat) :
    (l.markFound pl f).Listed quest i ↔ l.Listed quest i := by
  refine listed_congr (fun q p => ?_) quest i
  unfold markFound
  split
  · cases q with
    | true => exact markEntry_indices l.playerQuestItems pl _ p
    | false => rfl
  · rfl
  · cases q with
    | true => rfl
    | false => exact markEntry_indices l.playerNonQuestNonFFAConditionalItems pl _ p
  · rfl

theorem markFound_entryAt (l : Loot) (pl : Nat) (f : Found) (q : Bool) (p j : Nat) :
    (l.markFound pl f).entryAt q p j =
      if p = pl ∧ (if q then f.qitem = some j else f.qitem = none ∧ f.ffaitem = some j) then
        (l.entryAt q p j).map fun e => { e with isLooted := true } else l.entryAt q p j := by
  unfold markFound
  split
  · next k hk =>
    rw [hk]
    cases q with
    | true =>
      simp only [if_true, Option.some.injEq, eq_comm (a := k)]
      exact markEntry_getElem? l.playerQuestItems pl k p j
    | false => simp [entryAt, entries]
  · next k hk hffa =>
    rw [hk, hffa]
    cases q with
    | true => simp [entryAt, entries]
    | false =>
      simp only [Bool.false_eq_true, if_false, Option.some.injEq, true_and, eq_comm (a := k)]
      exact markEntry_getElem? l.playerFFAItems pl k p j
  · next hk hffa _ =>
    rw [hk, hffa]
    cases q <;> simp [entryAt, entries]
  · next hk hffa _ =>
    rw [hk, hffa]
    cases q <;> simp

/-- **An item for one player is taken**: it was a unit, and is marked in place. -/
theorem take_item {n : Loot} {quest : Bool} {i : Nat} (g : LootItem → LootItem)
    (hg : ∀ it, (g it).freeforall = it.freeforall ∧ (g it).isLooted = true ∧ (g it).conditionId = it.conditionId ∧
      ∀ q, (g it).isListed q = it.isListed q)
    (hi : l.Left (.item quest i)) (hitems : ∀ q j, n.itemAt q j = l.itemAt q j)
    (hentry : ∀ q p k, n.entryAt q p k = l.entryAt q p k ∨
      ∃ e e', l.entryAt q p k = some e ∧ n.entryAt q p k = some e' ∧ q = quest ∧ e.index = i ∧ e'.index = i)
    (hlisted : ∀ q j, n.Listed q j ↔ l.Listed q j) :
    (∀ u, (n.modifyItem quest i g).uncount.Left u ↔ l.Left u ∧ u ≠ .item quest i) ∧
      (l.Flagged → (n.modifyItem quest i g).uncount.Flagged) := by
  have hat : ∀ q j, (n.modifyItem quest i g).uncount.itemAt q j =
      if q = quest ∧ j = i then (l.itemAt q j).map g else l.itemAt q j := fun q j => by
    rw [← hitems]
    exact LootRoom.itemAt_modifyItem n quest i g q j
  have hlisted' : ∀ q j, (n.modifyItem quest i g).uncount.Listed q j ↔ l.Listed q j := by
    intro q j
    refine Iff.trans (listed_congr (fun q p => ?_) q j) (hlisted q j)
    unfold uncount modifyItem
    cases quest <;> rfl
  refine ⟨left_take_item hi (fun q j => ?_) (fun q p k => ?_) hlisted', fun hf => ⟨fun q j it hj => ?_,
    fun q j it hj hffa => ?_⟩⟩
  · rw [marks, marks, hat]
    split
    · rw [Option.map_map, Option.map_map]
      refine congrArg (fun f => (l.itemAt q j).map f) (funext fun it => ?_)
      simp only [Function.comp, (hg it).1, (hg it).2.1, (hg it).2.2.1]
    · rfl
  · have hsame : (n.modifyItem quest i g).uncount.entryAt q p k = n.entryAt q p k := by
      unfold entryAt uncount
      exact congrArg (fun f => (f q p).bind fun ql => ql[k]?) (LootRoom.modifyItem_entries n quest i g)
    rw [hsame]
    exact hentry q p k
  · rw [hat] at hj
    rw [hlisted']
    split at hj
    · obtain ⟨it0, h0, rfl⟩ := Option.map_eq_some_iff.1 hj
      rw [(hg it0).2.2.2]
      exact hf.listed q j it0 h0
    · exact hf.listed q j it hj
  · rw [hat] at hj
    split at hj
    · next h =>
      -- it is not for all
      obtain ⟨it0, h0, rfl⟩ := Option.map_eq_some_iff.1 hj
      obtain ⟨it1, h1, hone, -⟩ := hi
      rw [h.1, h.2] at h0
      cases h0.symm.trans h1
      rw [(hg it0).1, hone] at hffa
      cases hffa
    · exact hf.shared q j it hj hffa

section
variable {pl : Nat} {f : Found}

theorem found_entry (hf : LootRoom.FoundSpec l pl f) (h : f.quest = true ∨ f.ffaitem.isSome = true) :
    ∃ k e, l.entryAt f.quest pl k = some e ∧ e.index = f.index ∧ e.isLooted = false ∧
      ∀ q j, (if q then f.qitem = some j else f.qitem = none ∧ f.ffaitem = some j) ↔ q = f.quest ∧ j = k := by
  cases hq : f.qitem with
  | some k =>
    obtain ⟨hquest, ql, e, hql, he, hindex, hun⟩ := hf.qitem k hq
    refine ⟨k, e, ?_, hindex, hun, fun q j => ?_⟩
    · rw [hquest]
      exact Option.bind_eq_some_iff.2 ⟨ql, hql, he⟩
    · rw [hquest]
      cases q <;> simp [eq_comm (a := k)]
  | none =>
    have hquest : f.quest = false := by
      cases hquest : f.quest with
      | false => rfl
      | true =>
        obtain ⟨k, hk⟩ := hf.quest hquest
        rw [hq] at hk
        cases hk
    obtain ⟨k, hk⟩ := Option.isSome_iff_exists.1 (h.resolve_left (by rw [hquest]; exact Bool.false_ne_true))
    obtain ⟨-, -, -, ql, e, hql, he, hindex, hun⟩ := hf.ffaitem k hk
    refine ⟨k, e, ?_, hindex, hun, fun q j => ?_⟩
    · rw [hquest]
      exact Option.bind_eq_some_iff.2 ⟨ql, hql, he⟩
    · rw [hquest, hk]
      cases q <;> simp [eq_comm (a := k)]

theorem markLooted_all (hl : LootRoom.ListsNodup l) (hflag : l.Flagged) (hf : LootRoom.FoundSpec l pl f)
    (hffa : f.item.freeforall = true) (h : f.quest = true ∨ f.ffaitem.isSome = true) :
    ∃ k, l.Left (.entry f.quest pl k) ∧
      (∀ u, (l.markLooted pl f).Left u ↔ l.Left u ∧ u ≠ .entry f.quest pl k) ∧ (l.markLooted pl f).Flagged := by
  obtain ⟨-, -, hitems, -⟩ := LootRoom.markFound_spec l hl pl f hf
  have hlisted := markFound_listed l pl f
  obtain ⟨k, e, he, hindex, hun, hk⟩ := found_entry hf h
  have hloot := hflag.shared f.quest f.index f.item hf.item hffa
  unfold markLooted
  simp only
  rw [if_pos hffa]
  refine ⟨k, left_entryAt_iff.2 ⟨e, f.item.conditionId, he, hun, ?_⟩,
    left_take_entry (fun q j => ?_) (fun q p j => ?_) hlisted, fun q i it hi => ?_, fun q i it hi => ?_⟩
  · rw [hindex, marks, hf.item, Option.map_some, hffa, hloot]
  · exact congrArg _ (hitems q j)
  · refine (markFound_entryAt l pl f q p j).trans ?_
    simp only [hk, and_left_comm]
  · exact (hflag.listed q i it (hitems q i ▸ hi)).trans (hlisted q i).symm
  · exact hflag.shared q i it (hitems q i ▸ hi)

theorem markLooted_one (hl : LootRoom.ListsNodup l) (hflag : l.Flagged) (hf : LootRoom.FoundSpec l pl f)
    (hffa : f.item.freeforall = false) (hun : f.item.isLooted = false)
    (h : f.quest = true ∨ f.item.conditionId = 0 ∨ f.item.isCounted = true) :
    l.Left (.item f.quest f.index) ∧
      (∀ u, (l.markLooted pl f).Left u ↔ l.Left u ∧ u ≠ .item f.quest f.index) ∧ (l.markLooted pl f).Flagged := by
  obtain ⟨-, -, hitems, -⟩ := LootRoom.markFound_spec l hl pl f hf
  have hleft : l.Left (.item f.quest f.index) := by
    refine ⟨f.item, hf.item, hffa, hun, ?_⟩
    cases hq : f.quest with
    | true =>
      obtain ⟨k, hk⟩ := hf.quest hq
      obtain ⟨-, ql, e, hql, he, hindex, -⟩ := hf.qitem k hk
      exact Or.inr ⟨pl, ql, hql, List.mem_map.2 ⟨e, List.mem_of_getElem? he, hindex⟩⟩
    | false =>
      have hitem := hf.item
      rw [hq] at hitem h
      rcases h with h | h | h
      · cases h
      · exact Or.inl ⟨rfl, h⟩
      · exact Or.inr ((hflag.listed false f.index f.item hitem).1 h)
  unfold markLooted
  simp only
  rw [if_neg (by rw [hffa]; exact Bool.false_ne_true)]
  have hentry : ∀ q p k, (l.markFound pl f).entryAt q p k = l.entryAt q p k ∨ ∃ e e', l.entryAt q p k = some e ∧
      (l.markFound pl f).entryAt q p k = some e' ∧ q = f.quest ∧ e.index = f.index ∧ e'.index = f.index := by
    intro q p k
    rw [markFound_entryAt]
    by_cases hmarked : p = pl ∧ (if q then f.qitem = some k else f.qitem = none ∧ f.ffaitem = some k)
    · -- only the entry for the item is marked
      rw [if_pos hmarked]
      obtain ⟨rfl, hmarked⟩ := hmarked
      cases q with
      | true =>
        obtain ⟨hquest, ql, e, hql, he, hindex, -⟩ := hf.qitem k hmarked
        have hat : l.entryAt true p k = some e := Option.bind_eq_some_iff.2 ⟨ql, hql, he⟩
        exact Or.inr ⟨e, { e with isLooted := true }, hat, by rw [hat]; rfl, hquest.symm, hindex, hindex⟩
      | false =>
        obtain ⟨-, hall, -⟩ := hf.ffaitem k hmarked.2
        rw [hffa] at hall
        cases hall
    · exact Or.inl (if_neg hmarked)
  obtain ⟨h1, h2⟩ := take_item (fun it => { it with isLooted := true }) (fun it => ⟨rfl, rfl, rfl, fun _ => rfl⟩)
    hleft hitems hentry (markFound_listed l pl f)
  exact ⟨hleft, h1, h2 hflag⟩

end

end Loot

namespace LootRoom

open Loot

variable {s t : LootRoom}

/-! ## Steps -/

theorem Accountable.heedful {r : LootRequest} (h : s.Accountable r) : s.Heedful r := by
  cases r with
  | autostoreLootItem pl lootSlot canStore =>
    intro hopen hcan f hfound hblocked _
    have := h hopen hcan f hfound hblocked
    split
    · next hffa => rwa [if_pos hffa] at this
    · next hffa => rw [if_neg hffa] at this; exact this.1
  | lootMasterGive pl target slotid permitted canStore =>
    intro hperm hopen
    obtain ⟨hslot, hitem⟩ := h hperm hopen
    refine ⟨hslot, fun hcan it hit _ => ?_⟩
    obtain ⟨hffa, hun, -⟩ := hitem hcan it hit
    rw [if_neg (by rw [hffa]; exact Bool.false_ne_true)]
    exact hun
  | _ => trivial

theorem Accounted.same (hs : s.Accounted) (ht : t.Sound) (hc : t.loot.unlootedCount = s.loot.unlootedCount)
    (hleft : ∀ u, t.loot.Left u ↔ s.loot.Left u) (hf : t.loot.Flagged)
    (hr : ∀ r ∈ t.rollId, r.fill = t.fills → ∃ q ∈ s.rollId, q.fill = s.fills ∧ q.itemSlot = r.itemSlot) :
    t.Accounted := by
  refine ⟨ht, hc ▸ hs.counts.congr hleft, hf, hs.few.mono fun u hu => (hleft u).1 hu, fun r hm hfill => ?_⟩
  obtain ⟨q, hq, hqf, hslot⟩ := hr r hm hfill
  rw [hleft, ← hslot]
  exact hs.rolls q hq hqf

/-- **A step that takes a unit**, and no item that is still rolled for. -/
theorem Accounted.take (hs : s.Accounted) (ht : t.Sound) {a : LootUnit} (ha : s.loot.Left a)
    (hc : t.loot.unlootedCount = dec8 s.loot.unlootedCount)
    (hleft : ∀ u, t.loot.Left u ↔ s.loot.Left u ∧ u ≠ a) (hf : t.loot.Flagged)
    (hr : ∀ r ∈ t.rollId, r.fill = t.fills →
      (∃ q ∈ s.rollId, q.fill = s.fills ∧ q.itemSlot = r.itemSlot) ∧ .item false r.itemSlot ≠ a) :
    t.Accounted := by
  refine ⟨ht, ?_, hf, hs.few.mono fun u hu => ((hleft u).1 hu).1, fun r hm hfill => ?_⟩
  · rw [hc]
    exact Counts.take (m := 255) hs.counts ha hleft
  · obtain ⟨⟨q, hq, hqf, hslot⟩, hne⟩ := hr r hm hfill
    rw [hleft]
    refine ⟨?_, hne⟩
    rw [← hslot]
    exact hs.rolls q hq hqf

theorem handOut_loot (item : LootItem) (h : Handout) : (s.handOut item h).loot = s.loot ∧
    (s.handOut item h).rollId = s.rollId ∧ (s.handOut item h).fills = s.fills := by
  unfold handOut
  split <;> exact ⟨rfl, rfl, rfl⟩

theorem left_empty (u : LootUnit) : ¬ ({} : Loot).Left u := by
  rw [left_unlisted stocked_empty.entries stocked_empty.shown]
  rintro ⟨i, it, -, hat, -⟩
  cases hat

theorem clear_accounted (hs : s.Accounted) : s.clear.Accounted := by
  refine ⟨clear_sound hs.sound, stocked_empty.counts, stocked_empty.flagged, fun U hU => ?_, fun r hm hfill => ?_⟩
  · rw [Finset.eq_empty_of_forall_notMem fun u hu => left_empty u (hU u hu)]
    decide
  · have := hs.sound.rolls.past r hm
    simp only [clear] at hfill
    omega

theorem sendLoot_accounted (hs : s.Accounted) (pl : Nat) (permission : Bool) (allowed : LootItem → Bool)
    (hg : s.Accountable (.sendLoot pl permission allowed)) : (s.sendLoot pl permission allowed).Accounted := by
  have hsound := sendLoot_sound hs.sound pl permission allowed
  unfold sendLoot at hsound ⊢
  cases permission with
  | false =>
    exact hs.same hsound rfl (fun _ => Iff.rfl) hs.flagged fun r hm hfill => ⟨r, hm, hfill, rfl⟩
  | true =>
    have hfill := fillLists_fills s.loot pl allowed
    exact ⟨hsound, hfill.counts hs.flagged hs.counts, hfill.flagged hs.flagged, hg rfl,
      fun r hm hf => hfill.more _ (hs.rolls r hm hf)⟩

theorem startRolls_accounted (hs : s.Accounted) (needBeforeGreed : Bool) (view : GroupView)
    (allowed : Nat → LootItem → Bool) (hsound : (s.startRolls needBeforeGreed view allowed).Sound)
    (hold : ∀ r ∈ s.rollId, r.fill ≠ s.fills) (hclean : ∀ it ∈ s.loot.items, it.isLooted = false)
    (hg : ∀ it ∈ s.loot.items, rolledFor view needBeforeGreed allowed it = true →
      it.conditionId = 0 ∨ it.isCounted = true) : (s.startRolls needBeforeGreed view allowed).Accounted := by
  have hmark : ∀ rolled it, (rollMark view rolled it).freeforall = it.freeforall ∧
      (rollMark view rolled it).isLooted = it.isLooted ∧ (rollMark view rolled it).conditionId = it.conditionId ∧
      (rollMark view rolled it).isCounted = it.isCounted := by
    intro rolled it
    unfold rollMark
    split
    · exact ⟨rfl, rfl, rfl, rfl⟩
    · split
      · split <;> exact ⟨rfl, rfl, rfl, rfl⟩
      · exact ⟨rfl, rfl, rfl, rfl⟩
  have hat : ∀ quest i, (s.startRolls needBeforeGreed view allowed).loot.itemAt quest i =
      (s.loot.itemAt quest i).map fun it =>
        if quest then it else rollMark view (rolledFor view needBeforeGreed allowed it) it := by
    intro quest i
    cases quest with
    | false => exact List.getElem?_map ..
    | true => exact Option.map_id'.symm ▸ rfl
  have hleft : ∀ u, (s.startRolls needBeforeGreed view allowed).loot.Left u ↔ s.loot.Left u := by
    refine left_congr (fun quest i => ?_) rfl fun _ _ => Iff.rfl
    rw [marks, marks, hat, Option.map_map]
    refine congrArg (fun f => (s.loot.itemAt quest i).map f) (funext fun it => ?_)
    cases quest with
    | false => simp [hmark]
    | true => rfl
  refine ⟨hsound, hs.counts.congr hleft, ⟨fun quest i it hi => ?_, fun quest i it hi hffa => ?_⟩,
    hs.few.mono fun u hu => (hleft u).1 hu, fun r hm hfill => ?_⟩
  · rw [hat] at hi
    obtain ⟨it0, h0, rfl⟩ := Option.map_eq_some_iff.1 hi
    refine Iff.trans ?_ (hs.flagged.listed quest i it0 h0)
    cases quest with
    | false => simp [LootItem.isListed, hmark]
    | true => exact Iff.rfl
  · rw [hat] at hi
    obtain ⟨it0, h0, rfl⟩ := Option.map_eq_some_iff.1 hi
    cases quest with
    | false =>
      simp only [Bool.false_eq_true, if_false, hmark] at hffa ⊢
      exact hs.flagged.shared false i it0 h0 hffa
    | true => exact hs.flagged.shared true i it0 h0 hffa
  · rcases List.mem_append.1 hm with hm | hm
    · exact absurd hfill (hold r hm)
    obtain ⟨e, he, rfl⟩ := List.mem_map.1 hm
    obtain ⟨he, hrolled⟩ := List.mem_filter.1 he
    have hitem : s.loot.items[e.2]? = some e.1 := List.mem_zipIdx_iff_getElem?.1 he
    have hmem := List.mem_of_getElem? hitem
    have hffa : e.1.freeforall = false := by
      simp only [rolledFor, overThreshold, Bool.and_eq_true] at hrolled
      have := hrolled.1
      split at this
      · cases this
      · simp only [Bool.and_eq_true, Bool.not_eq_true'] at this
        exact this.2
    refine (hleft _).2 ⟨e.1, hitem, hffa, hclean e.1 hmem, ?_⟩
    rcases hg e.1 hmem hrolled with h | h
    · exact Or.inl ⟨rfl, h⟩
    · exact Or.inr ((hs.flagged.listed false e.2 e.1 hitem).1 h)

theorem generate_accounted (hs : s.Accounted) (gold : Nat) (drops : List LootStoreItem) (group : List Nat)
    (allowed : Nat → LootItem → Bool) (rolls : Option (Bool × GroupView))
    (hg : s.Accountable (.generate gold drops group allowed rolls)) :
    (s.generate gold drops group allowed rolls).Accounted := by
  have hsound := generate_sound hs.sound gold drops group allowed rolls
  have hfresh := filled_fresh hs.sound gold drops group allowed
  have hclean := fillLoot_unlooted gold drops group allowed
  obtain ⟨hcounts, hflagged⟩ := fillLoot_counts gold drops group allowed
  have h1 : Accounted { s.clear with loot := fillLoot gold drops group allowed } :=
    ⟨hfresh.sound, hcounts, hflagged, hg.1, fun r hm hfill => absurd hfill (Nat.ne_of_lt (hfresh.rolls r hm))⟩
  have hold : ∀ r ∈ s.clear.rollId, r.fill ≠ s.clear.fills := fun r hm => Nat.ne_of_lt (hfresh.rolls r hm)
  unfold generate at hsound ⊢
  simp only at hsound ⊢
  split at hsound
  · exact h1
  · exact startRolls_accounted h1 false _ allowed hsound hold hclean (hg.2 false _ rfl)
  · exact startRolls_accounted h1 true _ allowed hsound hold hclean (hg.2 true _ rfl)

theorem handleAutostoreLootItem_accounted (hs : s.Accounted) (pl slot : Nat) (canStore : Bool)
    (hg : s.Accountable (.autostoreLootItem pl slot canStore)) :
    (s.handleAutostoreLootItem pl slot canStore).Accounted := by
  have hsound := handleAutostoreLootItem_sound hs.sound pl slot canStore hg.heedful
  unfold handleAutostoreLootItem at hsound ⊢
  split
  · exact hs
  next hopen =>
  rw [if_neg hopen] at hsound
  split
  · exact hs
  next f hfound =>
  rw [hfound] at hsound
  simp only at hsound
  split
  · exact hs
  next hblocked =>
  rw [if_neg hblocked] at hsound
  split
  · next hcan =>
    rw [if_pos hcan] at hsound
    have hf := lootItemInSlot_spec s.loot slot pl f hfound
    have hleft := hg (by simpa using hopen) hcan f hfound hblocked
    obtain ⟨hloot, hrolls, hfills⟩ := handOut_loot (s := { s with loot := s.loot.markLooted pl f }) f.item
      { key := ⟨s.fills, f.quest, f.index⟩, player := pl, freeforall := f.item.freeforall
        listed := f.quest || f.ffaitem.isSome }
    have hcount : (s.loot.markLooted pl f).unlootedCount = dec8 s.loot.unlootedCount := by
      unfold markLooted markFound modifyItem uncount
      split <;> (simp only; split <;> (try split) <;> rfl)
    have hkeep : ∀ r ∈ s.rollId, r.fill = s.fills → ∃ q ∈ s.rollId, q.fill = s.fills ∧ q.itemSlot = r.itemSlot :=
      fun r hm hfill => ⟨r, hm, hfill, rfl⟩
    by_cases hffa : f.item.freeforall = true
    · rw [if_pos hffa] at hleft
      obtain ⟨k, hunit, htake, hflag⟩ := markLooted_all hs.sound.lists hs.flagged hf hffa hleft
      exact hs.take hsound hunit (by rw [hloot]; exact hcount) (by rw [hloot]; exact htake) (by rw [hloot]; exact hflag)
        (by rw [hrolls, hfills]; exact fun r hm hfill => ⟨hkeep r hm hfill, fun h => by cases h⟩)
    · rw [if_neg hffa] at hleft
      obtain ⟨hunit, htake, hflag⟩ := markLooted_one hs.sound.lists hs.flagged hf (by simpa using hffa) hleft.1 hleft.2
      refine hs.take hsound hunit (by rw [hloot]; exact hcount) (by rw [hloot]; exact htake)
        (by rw [hloot]; exact hflag) ?_
      rw [hrolls, hfills]
      refine fun r hm hfill => ⟨hkeep r hm hfill, fun he => ?_⟩
      -- an item that is rolled for is blocked
      obtain ⟨hquest, hslot⟩ := LootUnit.item.inj he
      obtain ⟨it, hat, -, hb, -⟩ := hs.sound.rolls.pending r hm hfill
      have hitem := hf.item
      rw [← hquest, ← hslot] at hitem
      refine hblocked ⟨?_, ?_⟩
      · cases hq : f.qitem with
        | none => rfl
        | some k =>
          have := (hf.qitem k hq).1
          rw [← hquest] at this
          cases this
      · rw [← Option.some.inj (hat.symm.trans hitem)]
        exact hb
  · exact hs

theorem handleLootMasterGive_accounted (hs : s.Accounted) (pl target slotid : Nat) (permitted canStore : Bool)
    (hg : s.Accountable (.lootMasterGive pl target slotid permitted canStore)) :
    (s.handleLootMasterGive pl target slotid permitted canStore).Accounted := by
  have hsound := handleLootMasterGive_sound hs.sound pl target slotid permitted canStore hg.heedful
  unfold handleLootMasterGive at hsound ⊢
  split
  · exact hs
  next hmay =>
  rw [if_neg hmay] at hsound
  split
  · exact hs
  next hslot =>
  rw [if_neg hslot] at hsound
  split
  · exact hs
  next item hitem =>
  rw [hitem] at hsound
  simp only at hsound
  split
  · next hcan =>
    rw [if_pos hcan] at hsound
    have hmay' : permitted = true ∧ s.hasOpen pl = true := by simpa [not_or] using hmay
    obtain ⟨hffa, hun, hcond, hroll⟩ := (hg hmay'.1 hmay'.2).2 hcan item hitem
    have hunit : s.loot.Left (.item false slotid) :=
      ⟨item, hitem, hffa, hun, hcond.imp (fun h => ⟨rfl, h⟩) (hs.flagged.listed false slotid item hitem).1⟩
    obtain ⟨htake, hflag⟩ := take_item (n := s.loot) (fun it => { it with count := 0, isLooted := true })
      (fun it => ⟨rfl, rfl, rfl, fun _ => rfl⟩) hunit (fun _ _ => rfl) (fun _ _ _ => Or.inl rfl) fun _ _ => Iff.rfl
    obtain ⟨hloot, hrolls, hfills⟩ := handOut_loot (s := { s with
      loot := (s.loot.modifyItem false slotid fun it => { it with count := 0, isLooted := true }).uncount }) item
      { key := ⟨s.fills, false, slotid⟩, player := target, freeforall := item.freeforall
        listed := s.listsFor target slotid }
    refine hs.take hsound hunit (by rw [hloot]; rfl) (by rw [hloot]; exact htake)
      (by rw [hloot]; exact hflag hs.flagged) ?_
    rw [hrolls, hfills]
    exact fun r hm hfill => ⟨⟨r, hm, hfill, rfl⟩, fun he => hroll r hm hfill (LootUnit.item.inj he).2⟩
  · exact hs

/-! ### Rolls -/

theorem Accounted.rolls_only (hs : s.Accounted) (rolls : Rolls) (hsound : Sound { s with rollId := rolls })
    (hr : ∀ r ∈ rolls, ∃ q ∈ s.rollId, q.fill = r.fill ∧ q.itemSlot = r.itemSlot) :
    Accounted { s with rollId := rolls } := by
  refine hs.same hsound rfl (fun _ => Iff.rfl) hs.flagged fun r hm hfill => ?_
  obtain ⟨q, hq, hqf, hslot⟩ := hr r hm
  exact ⟨q, hq, hqf.trans hfill, hslot⟩

theorem dropped_accounted (hs : s.Accounted) (r : Roll) : Accounted { s with rollId := Rolls.erase s.rollId r } :=
  hs.rolls_only _ (dropped_sound hs.sound r) fun q hq => ⟨q, List.mem_of_mem_filter hq, rfl, rfl⟩

theorem unblock_accounted (hs : s.Accounted) (r : Roll) (hm : r ∈ s.rollId) (hf : r.fill = s.fills) :
    Accounted { s.unblock r.itemSlot with rollId := Rolls.erase s.rollId r } := by
  have hat := itemAt_modifyItem s.loot false r.itemSlot fun it => { it with isBlocked := false }
  refine hs.same (unblock_sound hs.sound r hm hf) rfl
    (left_congr (fun quest i => ?_) (modifyItem_entries s.loot false r.itemSlot _) fun _ _ => Iff.rfl)
    ⟨fun quest i it hi => ?_, fun quest i it hi hffa => ?_⟩ fun q hq hqf => ⟨q, List.mem_of_mem_filter hq, hqf, rfl⟩
  · refine (congrArg _ (hat quest i)).trans ?_
    unfold marks
    split
    · rw [Option.map_map]
      rfl
    · rfl
  · replace hi := (hat quest i).symm.trans hi
    split at hi
    · next h =>
      obtain ⟨it0, h0, rfl⟩ := Option.map_eq_some_iff.1 hi
      rw [h.1] at h0 ⊢
      exact hs.flagged.listed false i it0 h0
    · exact hs.flagged.listed quest i it hi
  · replace hi := (hat quest i).symm.trans hi
    split at hi
    · obtain ⟨it0, h0, rfl⟩ := Option.map_eq_some_iff.1 hi
      exact hs.flagged.shared quest i it0 h0 hffa
    · exact hs.flagged.shared quest i it hi hffa

theorem award_accounted (hs : s.Accounted) (r : Roll) (hm : r ∈ s.rollId) (hf : r.fill = s.fills) (kind : RollVote)
    (e : RollEnd) : Accounted { s.award r kind e with rollId := Rolls.erase s.rollId r } := by
  have hsound := award_sound hs.sound r hm hf kind e
  unfold award at hsound ⊢
  split
  · exact dropped_accounted hs r
  next winner hwin =>
  rw [hwin] at hsound
  simp only at hsound
  split
  · next hon =>
    rw [if_pos hon] at hsound
    split
    · exact dropped_accounted hs r
    next item hitem =>
    rw [hitem] at hsound
    simp only at hsound
    split
    · next hcan =>
      rw [if_pos hcan] at hsound
      have hunit := hs.rolls r hm hf
      obtain ⟨htake, hflag⟩ := take_item (n := s.loot) (fun it => { it with isLooted := true })
        (fun it => ⟨rfl, rfl, rfl, fun _ => rfl⟩) hunit (fun _ _ => rfl) (fun _ _ _ => Or.inl rfl) fun _ _ => Iff.rfl
      obtain ⟨hloot, -, hfills⟩ := handOut_loot (s := { s with
        loot := (s.loot.modifyItem false r.itemSlot fun it => { it with isLooted := true }).uncount }) item
        { key := ⟨s.fills, false, r.itemSlot⟩, player := winner, freeforall := item.freeforall
          listed := s.listsFor winner r.itemSlot }
      refine hs.take hsound hunit (by simp only [hloot]; rfl) (by simp only [hloot]; exact htake)
        (by simp only [hloot]; exact hflag hs.flagged) fun q hq hqf => ?_
      have hqf' : q.fill = s.fills := hqf.trans hfills
      obtain ⟨hq', hne⟩ := erase_other hs.sound.rolls r q hm hq hf hqf'
      exact ⟨⟨q, hq', hqf', rfl⟩, fun he => hne (LootUnit.item.inj he).2⟩
    · exact unblock_accounted hs r hm hf
  · exact dropped_accounted hs r

theorem countTheRoll_accounted (hs : s.Accounted) (r : Roll) (hm : r ∈ s.rollId) (e : RollEnd) :
    (s.countTheRoll r e).Accounted := by
  unfold countTheRoll countRoll
  split
  · exact dropped_accounted hs r
  next hv =>
  have hf : r.fill = s.fills := by simpa [isValid] using hv
  split
  · exact award_accounted hs r hm hf _ e
  split
  · exact award_accounted hs r hm hf _ e
  · exact unblock_accounted hs r hm hf

theorem countRollVote_accounted (hs : s.Accounted) (pl guid choice : Nat) (e : RollEnd) :
    (s.countRollVote pl guid choice e).Accounted := by
  unfold countRollVote
  rcases Rolls.castVote_spec s.rollId s.isValid (fun _ => s.loot.items.isEmpty) pl guid choice with
    h | ⟨r, hm, hg, -, -, -, h⟩
  · rw [h]; exact hs
  subst hg
  rw [h]
  have hs1 : Accounted { s with
      rollId := s.rollId.map fun q => if q.itemGUID = r.itemGUID then r.record pl choice else q } := by
    refine hs.rolls_only _ (castVote_sound hs.sound r hm pl choice) fun q hq => ?_
    obtain ⟨q0, hq0, rfl⟩ := List.mem_map.1 hq
    split
    · exact ⟨r, hm, (record_sameRoll r pl choice).2.2.symm, (record_sameRoll r pl choice).2.1.symm⟩
    · exact ⟨q0, hq0, rfl, rfl⟩
  split
  · next hc => rw [← (Prod.mk.inj hc).1]; exact hs1
  · next hc =>
    obtain ⟨h1, h2⟩ := Prod.mk.inj hc
    rw [← h1]
    refine countTheRoll_accounted hs1 _ ?_ e
    split at h2
    · rw [← Option.some.inj h2]
      exact List.mem_map.2 ⟨r, hm, if_pos rfl⟩
    · cases h2

theorem removeRolls_accounted (hs : s.Accounted) (pl : Nat) (e : RollEnd) : (s.removeRolls pl e).Accounted := by
  have hsound := removeRolls_sound hs.sound pl e
  unfold removeRolls at hsound ⊢
  rw [Rolls.removeRolls_eq _ _ _ hs.sound.rolls.guids] at hsound ⊢
  refine hs.rolls_only _ hsound fun q hq => ?_
  obtain ⟨q0, hq0, rfl⟩ := List.mem_map.1 hq
  refine ⟨q0, hq0, ?_⟩
  unfold Roll.without
  split <;> exact ⟨rfl, rfl⟩

theorem endRoll_accounted (hs : s.Accounted) (e : RollEnd) : (s.endRoll e).Accounted := by
  unfold endRoll
  suffices h : ∀ (l : Rolls) (v : LootRoom), v.Accounted → v.rollId = l →
      (l.foldl (fun v r => v.countTheRoll r e) v).Accounted from h s.rollId s hs rfl
  intro l
  induction l with
  | nil => intro v hv _; exact hv
  | cons r l ih =>
    intro v hv hl
    refine ih (v.countTheRoll r e) (countTheRoll_accounted hv r (hl ▸ List.mem_cons_self) e) ?_
    exact countTheRoll_rest hv.sound r l hl e

theorem doLootRelease_accounted (hs : s.Accounted) (pl : Nat) (source : LootSource) :
    (s.doLootRelease pl source).Accounted := by
  have hopen : Accounted { s with hasOpen := Function.update s.hasOpen pl false } :=
    hs.same (doLootRelease_sound hs.sound pl .door) rfl (fun _ => Iff.rfl) hs.flagged
      fun r hm hfill => ⟨r, hm, hfill, rfl⟩
  unfold doLootRelease
  simp only
  split
  · exact hopen
  · exact clear_accounted hopen
  · exact clear_accounted hopen
  · split
    · exact clear_accounted hopen
    · exact hopen

/-! ## Whole runs -/

/-- **An accountable request** keeps the counter in step with what is left. -/
theorem step_accounted (hs : s.Accounted) (r : LootRequest) (hg : s.Accountable r) : (s.step r).Accounted := by
  cases r with
  | generate gold drops group allowed rolls => exact generate_accounted hs gold drops group allowed rolls hg
  | sendLoot pl permission allowed => exact sendLoot_accounted hs pl permission allowed hg
  | autostoreLootItem pl lootSlot canStore => exact handleAutostoreLootItem_accounted hs pl lootSlot canStore hg
  | lootMoney =>
    exact hs.same (step_sound hs.sound .lootMoney trivial) rfl (fun _ => Iff.rfl) ⟨hs.flagged.listed, hs.flagged.shared⟩
      fun r hm hfill => ⟨r, hm, hfill, rfl⟩
  | lootMasterGive pl target slotid permitted canStore =>
    exact handleLootMasterGive_accounted hs pl target slotid permitted canStore hg
  | rollVote pl itemGUID choice e => exact countRollVote_accounted hs pl itemGUID choice e
  | removeMember pl e => exact removeRolls_accounted hs pl e
  | endRoll e => exact endRoll_accounted hs e
  | lootRelease pl source => exact doLootRelease_accounted hs pl source

theorem Accounted.tallied (hs : s.Accounted) : s.loot.Tallied := by
  obtain ⟨U, hU, hn⟩ := hs.counts
  have hlt := hs.few U fun u hu => (hU u).1 hu
  rw [Nat.mod_eq_of_lt hlt] at hn
  refine ⟨U, hU, hlt, hn, ?_⟩
  unfold isLooted
  rw [Bool.and_eq_true, beq_iff_eq, beq_iff_eq, hn, Finset.card_eq_zero]
  exact and_comm

theorem accounted_empty : Accounted {} where
  sound := sound_empty
  counts := stocked_empty.counts
  flagged := stocked_empty.flagged
  few U hU := by
    rw [Finset.eq_empty_of_forall_notMem fun u hu => left_empty u (hU u hu)]
    decide
  rolls r hm := absurd hm List.not_mem_nil

/-- **Accountable runs count what is left**: after each step `unlootedCount` is the number of units, all of
which it has room for, and the loot is looted just if no unit and no gold is left. -/
theorem unlooted_counted (rs : List LootRequest) (hg : Transition.Along step Accountable {} rs) :
    Transition.Along step (fun s r => (s.step r).loot.Tallied) {} rs :=
  Transition.along_of_invariant (I := Accounted) (fun _ r hs hg => step_accounted hs r hg)
    (fun _ r hs hg => (step_accounted hs r hg).tallied) accounted_empty hg

/-- **The counter wraps around** when the second player takes the item: nothing is left, and 255 are counted. -/
theorem wraps : ¬Transition.Along step (fun s r => (s.step r).loot.Tallied) {} sharedRun := by
  rintro ⟨-, -, -, -, ⟨U, hU, -, hcount, -⟩, -⟩
  generalize hs : (Transition.run step {} sharedRun).loot = l
  have hcount' : l.unlootedCount = U.card := by rw [← hs]; exact hcount
  have hitems : l.items = [{ itemid := 1, conditionId := 5, isLooted := true, isCounted := true }] := by
    rw [← hs]; decide
  have hnone : ∀ u, ¬ l.Left u := by
    intro u hu
    cases u with
    | item quest i =>
      obtain ⟨it, hat, -, hun, -⟩ := hu
      cases quest with
      | true => rw [← hs] at hat; cases hat
      | false =>
        have hmem : it ∈ l.items := List.mem_of_getElem? hat
        rw [hitems, List.mem_singleton] at hmem
        rw [hmem] at hun
        cases hun
    | entry quest pl k =>
      obtain ⟨ql, q, hql, -⟩ := hu
      rw [← hs] at hql
      cases quest <;> cases hql
  have hempty : U = ∅ := Finset.eq_empty_of_forall_notMem fun u hu => hnone u (hs ▸ (hU u).1 hu)
  rw [hempty, ← hs] at hcount'
  exact absurd hcount' (by decide)

/-- One player opens a loot with an ordinary item and takes it. -/
def singleRun : List LootRequest :=
  [.generate 0 [{ itemid := 1 }] [1] (fun _ _ => true) none, .sendLoot 1 true fun _ => true,
    .autostoreLootItem 1 0 true]

theorem few_of_items {l : Loot} (hitems : l.items.length ≤ 1) (hentries : ∀ quest pl, l.entries quest pl = none)
    (hshown : ∀ quest pl, l.shown quest pl = none) : l.FewUnits := by
  intro U hU
  have hsub : U ⊆ {.item false 0} := fun u hu => by
    obtain ⟨i, it, rfl, hat, -⟩ := (left_unlisted hentries hshown u).1 (hU u hu)
    have := (List.getElem?_eq_some_iff.1 hat).1
    rw [Finset.mem_singleton, show i = 0 by omega]
  have := Finset.card_le_card hsub
  rw [Finset.card_singleton] at this
  omega

theorem unlooted_counted_sample :
    Transition.Along step (fun s r => (s.step r).loot.Tallied) {} singleRun :=
  unlooted_counted singleRun
    ⟨⟨few_of_items (by decide) (fun quest _ => by cases quest <;> rfl) fun quest _ => by cases quest <;> rfl,
        fun _ _ h => by cases h⟩,
      fun _ => few_of_items (by decide) (fun quest _ => by cases quest <;> rfl) fun quest _ => by cases quest <;> rfl,
      fun _ _ f hf _ => by
        obtain rfl : _ = f := Option.some.inj hf
        decide, trivial⟩

end LootRoom

end BlizzLike
