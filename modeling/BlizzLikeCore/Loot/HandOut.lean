import BlizzLikeCore.Loot.Loot
import BlizzLikeCore.Lib.Transition
import Mathlib.Data.List.Nodup

/-!
# Handing loot out

An item of a loot that is not free for all should go to one player, one that is free for all
once to each player it is listed for.  The marks that should see to it stand on the item, on
the entries of three kinds of lists, and in the rolls.  They do along every run whose requests
are heedful (`handed_fairly`): `LootItemInSlot` lets the flag of a list entry replace that of
the item, serves a free for all item to players without an entry, and the master looter's
request looks at no mark at all (`handed_twice`).
-/

namespace BlizzLike

/-! ## The law -/

/-- No item for one player twice, no item for all twice to a player or to one it is not listed for. -/
structure Fair (handed : List Handout) : Prop where
  once : ((handed.filter fun h => !h.freeforall).map Handout.key).Nodup
  each : ((handed.filter fun h => h.freeforall).map fun h => (h.key, h.player)).Nodup
  listed : ∀ h ∈ handed, h.freeforall = true → h.listed = true

namespace Loot

def itemAt (loot : Loot) (quest : Bool) (index : Nat) : Option LootItem :=
  if quest then loot.questItems[index]? else loot.items[index]?

/-- The list that shares out the items for all of one of the vectors. -/
def entries (loot : Loot) (quest : Bool) : Nat → Option (List QuestItem) :=
  if quest then loot.playerQuestItems else loot.playerFFAItems

/-- All entries of a player for an item are marked. -/
def Done (loot : Loot) (quest : Bool) (pl index : Nat) : Prop :=
  ∃ ql, loot.entries quest pl = some ql ∧ ∀ q ∈ ql, q.index = index → q.isLooted = true

end Loot

namespace LootRoom

/-- A request that does not meet one of the missing checks: the item an autostore hands out is
itself not marked, and listed for the player when it is for all; the master looter gives a
slot that exists, with an item that is not marked, or listed for the target and not his yet.
An item with count 0 was given by the master looter and hands out nothing. -/
def Heedful (s : LootRoom) : LootRequest → Prop
  | .autostoreLootItem pl lootSlot canStore => s.hasOpen pl = true → canStore = true →
      ∀ f, s.loot.lootItemInSlot lootSlot pl = some f → ¬(f.qitem = none ∧ f.item.isBlocked = true) →
        f.item.count ≠ 0 →
          if f.item.freeforall then f.quest = true ∨ f.ffaitem.isSome = true else f.item.isLooted = false
  | .lootMasterGive pl target slotid permitted canStore => permitted = true → s.hasOpen pl = true →
      slotid ≠ s.loot.items.length ∧
        (canStore = true → ∀ it, s.loot.items[slotid]? = some it → it.count ≠ 0 →
          if it.freeforall then s.listsFor target slotid = true ∧ ¬s.loot.Done false target slotid
          else it.isLooted = false)
  | _ => True

/-- Every player's entries are for different items. -/
def ListsNodup (loot : Loot) : Prop :=
  ∀ quest pl ql, loot.entries quest pl = some ql → (ql.map QuestItem.index).Nodup

/-- The rolls for the present contents are for different items, blocked and not given yet. -/
structure RollsSound (s : LootRoom) : Prop where
  past : ∀ r ∈ s.rollId, r.fill ≤ s.fills
  guids : (s.rollId.map Roll.itemGUID).Nodup
  fresh : ∀ r ∈ s.rollId, r.itemGUID < s.nextItemGuid
  slots : ∀ r ∈ s.rollId, ∀ q ∈ s.rollId, r.fill = s.fills → q.fill = s.fills → r.itemSlot = q.itemSlot →
    r.itemGUID = q.itemGUID
  pending : ∀ r ∈ s.rollId, r.fill = s.fills → ∃ it, s.loot.items[r.itemSlot]? = some it ∧
    it.freeforall = false ∧ it.isBlocked = true ∧ (it.isLooted = false ∨ it.count = 0)

/-- What was handed out is marked. -/
structure Sound (s : LootRoom) : Prop where
  fair : Fair s.handed
  past : ∀ h ∈ s.handed, h.key.fill ≤ s.fills
  taken : ∀ h ∈ s.handed, h.key.fill = s.fills → h.freeforall = false →
    ∃ it, s.loot.itemAt h.key.quest h.key.index = some it ∧ it.freeforall = false ∧ it.isLooted = true
  shared : ∀ h ∈ s.handed, h.key.fill = s.fills → h.freeforall = true →
    ∃ it, s.loot.itemAt h.key.quest h.key.index = some it ∧ it.freeforall = true ∧
      (it.count = 0 ∨ s.loot.Done h.key.quest h.player h.key.index)
  lists : ListsNodup s.loot
  rolls : RollsSound s

/-! ## Lemmas -/

/-- Items stay where they are and marks stay set. -/
structure Kept (l m : Loot) : Prop where
  item : ∀ quest i it, l.itemAt quest i = some it → ∃ it', m.itemAt quest i = some it' ∧
    it'.freeforall = it.freeforall ∧ (it.isLooted = true → it'.isLooted = true) ∧ (it.count = 0 → it'.count = 0)
  done : ∀ quest pl i, l.Done quest pl i → m.Done quest pl i

theorem Kept.refl (l : Loot) : Kept l l := ⟨fun _ _ it h => ⟨it, h, rfl, id, id⟩, fun _ _ _ h => h⟩

theorem Kept.trans {l m n : Loot} (h : Kept l m) (k : Kept m n) : Kept l n := by
  refine ⟨fun quest i it hi => ?_, fun quest pl i hd => k.done quest pl i (h.done quest pl i hd)⟩
  obtain ⟨it1, h1, hf1, hl1, hc1⟩ := h.item quest i it hi
  obtain ⟨it2, h2, hf2, hl2, hc2⟩ := k.item quest i it1 h1
  exact ⟨it2, h2, hf2.trans hf1, fun x => hl2 (hl1 x), fun x => hc2 (hc1 x)⟩

section
variable {s t : LootRoom}

theorem Sound.kept (hs : s.Sound) (hf : t.fills = s.fills) (hh : t.handed = s.handed) (hk : Kept s.loot t.loot)
    (hl : ListsNodup t.loot) (hr : RollsSound t) : t.Sound := by
  refine ⟨hh ▸ hs.fair, fun h hm => ?_, fun h hm hfill hffa => ?_, fun h hm hfill hffa => ?_, hl, hr⟩
  · rw [hf]; exact hs.past h (hh ▸ hm)
  · obtain ⟨it, h1, h2, h3⟩ := hs.taken h (hh ▸ hm) (hf ▸ hfill) hffa
    obtain ⟨it', k1, k2, k3, -⟩ := hk.item _ _ it h1
    exact ⟨it', k1, k2.trans h2, k3 h3⟩
  · obtain ⟨it, h1, h2, h3⟩ := hs.shared h (hh ▸ hm) (hf ▸ hfill) hffa
    obtain ⟨it', k1, k2, -, k4⟩ := hk.item _ _ it h1
    exact ⟨it', k1, k2.trans h2, h3.imp k4 (hk.done _ _ _)⟩

/-- **An item is handed out**: it was not marked before and is now. -/
theorem Sound.hand (hs : s.Sound) (ht : t.Sound) (hf : t.fills = s.fills) (hh : t.handed = s.handed)
    (item : LootItem) (h : Handout) (hfill : h.key.fill = s.fills)
    (hat : s.loot.itemAt h.key.quest h.key.index = some item) (hffa : h.freeforall = item.freeforall)
    (hone : item.count ≠ 0 → item.freeforall = false → item.isLooted = false ∧
      ∃ it, t.loot.itemAt h.key.quest h.key.index = some it ∧ it.freeforall = false ∧ it.isLooted = true)
    (hall : item.count ≠ 0 → item.freeforall = true → h.listed = true ∧
      ¬s.loot.Done h.key.quest h.player h.key.index ∧
      ∃ it, t.loot.itemAt h.key.quest h.key.index = some it ∧ it.freeforall = true ∧
        (it.count = 0 ∨ t.loot.Done h.key.quest h.player h.key.index)) :
    (t.handOut item h).Sound := by
  unfold handOut
  by_cases h0 : item.count = 0
  · rw [if_pos h0]; exact ht
  rw [if_neg h0]
  -- an earlier handout of the item would have marked it
  have hsame : ∀ k ∈ s.handed, k.key = h.key → k.freeforall = h.freeforall := by
    intro k hk hkey
    cases hkf : k.freeforall with
    | false =>
      obtain ⟨it, h1, h2, -⟩ := hs.taken k hk (hkey ▸ hfill) hkf
      rw [hkey, hat] at h1
      rw [hffa, Option.some.inj h1, h2]
    | true =>
      obtain ⟨it, h1, h2, -⟩ := hs.shared k hk (hkey ▸ hfill) hkf
      rw [hkey, hat] at h1
      rw [hffa, Option.some.inj h1, h2]
  have hnew1 : h.freeforall = false → ∀ k ∈ s.handed, k.key ≠ h.key := by
    intro hf0 k hk hkey
    obtain ⟨it, h1, -, h3⟩ := hs.taken k hk (hkey ▸ hfill) ((hsame k hk hkey).trans hf0)
    rw [hkey, hat] at h1
    rw [← Option.some.inj h1, (hone h0 (hffa ▸ hf0)).1] at h3
    cases h3
  have hnew2 : h.freeforall = true → ∀ k ∈ s.handed, k.key = h.key → k.player ≠ h.player := by
    intro hf1 k hk hkey hpl
    obtain ⟨it, h1, -, h3⟩ := hs.shared k hk (hkey ▸ hfill) ((hsame k hk hkey).trans hf1)
    rw [hkey, hat] at h1
    rcases h3 with h3 | h3
    · exact h0 (Option.some.inj h1 ▸ h3)
    · rw [hkey, hpl] at h3
      exact (hall h0 (hffa ▸ hf1)).2.1 h3
  refine ⟨⟨?_, ?_, ?_⟩, fun k hk => ?_, fun k hk hkf hk0 => ?_, fun k hk hkf hk1 => ?_, ht.lists,
    ⟨ht.rolls.past, ht.rolls.guids, ht.rolls.fresh, ht.rolls.slots, ht.rolls.pending⟩⟩
  · simp only [hh]
    cases hf0 : h.freeforall with
    | true => rw [List.filter_cons_of_neg (by simp [hf0])]; exact hs.fair.once
    | false =>
      rw [List.filter_cons_of_pos (by simp [hf0]), List.map_cons, List.nodup_cons]
      refine ⟨fun hin => ?_, hs.fair.once⟩
      obtain ⟨k, hk, hkey⟩ := List.mem_map.1 hin
      exact hnew1 hf0 k (List.mem_of_mem_filter hk) hkey
  · simp only [hh]
    cases hf1 : h.freeforall with
    | false => rw [List.filter_cons_of_neg (by simp [hf1])]; exact hs.fair.each
    | true =>
      rw [List.filter_cons_of_pos (by simp [hf1]), List.map_cons, List.nodup_cons]
      refine ⟨fun hin => ?_, hs.fair.each⟩
      obtain ⟨k, hk, hkey⟩ := List.mem_map.1 hin
      exact hnew2 hf1 k (List.mem_of_mem_filter hk) (congrArg Prod.fst hkey) (congrArg Prod.snd hkey)
  · intro k hk hkf
    rcases List.mem_cons.1 hk with rfl | hk
    · exact (hall h0 (hffa ▸ hkf)).1
    · exact ht.fair.listed k hk hkf
  · rcases List.mem_cons.1 hk with rfl | hk
    · exact le_of_eq (hfill.trans hf.symm)
    · exact ht.past k hk
  · rcases List.mem_cons.1 hk with rfl | hk
    · exact (hone h0 (hffa ▸ hk0)).2
    · exact ht.taken k hk hkf hk0
  · rcases List.mem_cons.1 hk with rfl | hk
    · exact (hall h0 (hffa ▸ hk1)).2.2
    · exact ht.shared k hk hkf hk1

/-! ### Items and lists under change -/

theorem itemAt_modifyItem (l : Loot) (quest : Bool) (i : Nat) (f : LootItem → LootItem) (q : Bool) (j : Nat) :
    (l.modifyItem quest i f).itemAt q j =
      if q = quest ∧ j = i then (l.itemAt q j).map f else l.itemAt q j := by
  unfold Loot.modifyItem Loot.itemAt
  by_cases hj : j = i
  · subst hj
    cases quest <;> cases q <;> simp
  · cases quest <;> cases q <;> simp [hj, List.getElem?_modify_ne f _ (Ne.symm hj)]

theorem modifyItem_entries (l : Loot) (quest : Bool) (i : Nat) (f : LootItem → LootItem) :
    (l.modifyItem quest i f).entries = l.entries := by
  unfold Loot.modifyItem Loot.entries
  cases quest <;> rfl

theorem Kept.of_entries {l m : Loot} (he : m.entries = l.entries)
    (hi : ∀ quest i it, l.itemAt quest i = some it → ∃ it', m.itemAt quest i = some it' ∧
      it'.freeforall = it.freeforall ∧ (it.isLooted = true → it'.isLooted = true) ∧
        (it.count = 0 → it'.count = 0)) : Kept l m :=
  ⟨hi, fun quest pl i hd => by unfold Loot.Done; rw [he]; exact hd⟩

theorem modifyItem_kept (l : Loot) (quest : Bool) (i : Nat) (f : LootItem → LootItem)
    (hf : ∀ it, (f it).freeforall = it.freeforall ∧ (it.isLooted = true → (f it).isLooted = true) ∧
      (it.count = 0 → (f it).count = 0)) : Kept l (l.modifyItem quest i f) := by
  refine Kept.of_entries (modifyItem_entries l quest i f) fun q j it hat => ?_
  rw [itemAt_modifyItem, hat]
  split
  · exact ⟨f it, rfl, hf it⟩
  · exact ⟨it, rfl, rfl, id, id⟩

theorem other_kind {β : Type*} {f g : Bool → β} {quest q : Bool} (ho : g (!quest) = f (!quest)) (hq : q ≠ quest) :
    g q = f q := by
  rw [Bool.eq_not.2 hq]
  exact ho

theorem markEntry_entries (l m : Loot) (quest : Bool) (pl k : Nat)
    (hm : m.entries quest = Loot.markEntry (l.entries quest) pl k)
    (ho : m.entries (!quest) = l.entries (!quest)) (hi : ∀ q j, m.itemAt q j = l.itemAt q j) :
    Kept l m ∧ (ListsNodup l → ListsNodup m) := by
  have hmark : ∀ p ql, m.entries quest p = some ql → ∃ ql0, l.entries quest p = some ql0 ∧
      (ql = ql0 ∨ ql = ql0.modify k fun q => { q with isLooted := true }) := by
    intro p ql h
    rw [hm] at h
    unfold Loot.markEntry at h
    by_cases hp : p = pl
    · subst hp
      rw [Function.update_self] at h
      obtain ⟨ql0, h0, rfl⟩ := Option.map_eq_some_iff.1 h
      exact ⟨ql0, h0, Or.inr rfl⟩
    · rw [Function.update_of_ne hp] at h
      exact ⟨ql, h, Or.inl rfl⟩
  have hidx : ∀ ql0 : List QuestItem,
      (ql0.modify k fun q => { q with isLooted := true }).map QuestItem.index = ql0.map QuestItem.index := by
    intro ql0
    refine List.ext_getElem? fun i => ?_
    simp only [List.getElem?_map, List.getElem?_modify]
    cases ql0[i]? with
    | none => rfl
    | some q => simp only [Option.map_eq_map, Option.map_some]; split <;> rfl
  refine ⟨⟨fun q j it hat => ⟨it, by rw [hi]; exact hat, rfl, id, id⟩, fun q p i hd => ?_⟩,
    fun hl q p ql hql => ?_⟩
  · obtain ⟨ql, hql, hall⟩ := hd
    by_cases hq : q = quest
    · subst hq
      unfold Loot.Done
      rw [hm]
      unfold Loot.markEntry
      by_cases hp : p = pl
      · subst hp
        rw [Function.update_self, hql]
        refine ⟨_, rfl, fun e he hei => ?_⟩
        obtain ⟨n, hn⟩ := List.mem_iff_getElem?.1 he
        rw [List.getElem?_modify] at hn
        obtain ⟨e0, h0, rfl⟩ := Option.map_eq_some_iff.1 hn
        split at hei
        · next hk => simp [hk]
        · next hk => simpa [hk] using hall e0 (List.mem_iff_getElem?.2 ⟨n, h0⟩) hei
      · rw [Function.update_of_ne hp]
        exact ⟨ql, hql, hall⟩
    · unfold Loot.Done
      rw [other_kind ho hq]
      exact ⟨ql, hql, hall⟩
  · by_cases hq : q = quest
    · subst hq
      obtain ⟨ql0, h0, rfl | rfl⟩ := hmark p ql hql
      · exact hl q p _ h0
      · rw [hidx]; exact hl q p ql0 h0
    · rw [other_kind ho hq] at hql
      exact hl q p ql hql

theorem addList_kept (l m : Loot) (quest : Bool) (pl : Nat) (ql : List Nat) (hnd : ql.Nodup)
    (hnone : l.entries quest pl = none)
    (hm : m.entries quest = Function.update (l.entries quest) pl (some (Loot.listOf ql)))
    (ho : m.entries (!quest) = l.entries (!quest))
    (hi : ∀ quest i it, l.itemAt quest i = some it → ∃ it', m.itemAt quest i = some it' ∧
      it'.freeforall = it.freeforall ∧ (it.isLooted = true → it'.isLooted = true) ∧
        (it.count = 0 → it'.count = 0)) : Kept l m ∧ (ListsNodup l → ListsNodup m) := by
  have hother : ∀ q p ql0, l.entries q p = some ql0 → m.entries q p = some ql0 := by
    intro q p ql0 h0
    by_cases hq : q = quest
    · subst hq
      by_cases hp : p = pl
      · subst hp; rw [hnone] at h0; cases h0
      · rw [hm, Function.update_of_ne hp]; exact h0
    · rw [other_kind ho hq]
      exact h0
  refine ⟨⟨hi, fun q p i hd => ?_⟩, fun hl q p ql0 h0 => ?_⟩
  · obtain ⟨ql0, h0, hall⟩ := hd
    exact ⟨ql0, hother q p ql0 h0, hall⟩
  · by_cases hq : q = quest
    · subst hq
      by_cases hp : p = pl
      · subst hp
        rw [hm, Function.update_self] at h0
        cases h0
        unfold Loot.listOf
        rw [List.map_map]
        exact (List.map_id ql).symm ▸ hnd
      · rw [hm, Function.update_of_ne hp] at h0
        exact hl q p ql0 h0
    · rw [other_kind ho hq] at h0
      exact hl q p ql0 h0

theorem indicesOf_nodup (items : List LootItem) (p : LootItem → Bool) : (Loot.indicesOf items p).Nodup :=
  List.nodup_range.filter _

/-- What the rolls look at in `items`. -/
def SameItems (l m : Loot) : Prop :=
  ∀ (i : Nat) it, l.items[i]? = some it → ∃ it', m.items[i]? = some it' ∧ it'.freeforall = it.freeforall ∧
    it'.isBlocked = it.isBlocked ∧ it'.isLooted = it.isLooted ∧ it'.count = it.count

theorem RollsSound.same (hr : RollsSound s) (hf : t.fills = s.fills) (hg : t.nextItemGuid = s.nextItemGuid)
    (hid : t.rollId = s.rollId) (hi : SameItems s.loot t.loot) : RollsSound t := by
  refine ⟨by rw [hid, hf]; exact hr.past, by rw [hid]; exact hr.guids, by rw [hid, hg]; exact hr.fresh,
    by rw [hid, hf]; exact hr.slots, fun r hm hfill => ?_⟩
  obtain ⟨it, h1, h2, h3, h4⟩ := hr.pending r (hid ▸ hm) (hf ▸ hfill)
  obtain ⟨it', k1, k2, k3, k4, k5⟩ := hi _ it h1
  exact ⟨it', k1, k2.trans h2, k3.trans h3, h4.imp k4.trans k5.trans⟩

/-- What filling a player's lists leaves alone. -/
structure Filled (l m : Loot) : Prop where
  kept : Kept l m
  items : SameItems l m
  lists : ListsNodup l → ListsNodup m

theorem Filled.refl (l : Loot) : Filled l l :=
  ⟨Kept.refl l, fun _ it h => ⟨it, h, rfl, rfl, rfl, rfl⟩, id⟩

theorem Filled.trans {l m n : Loot} (h : Filled l m) (k : Filled m n) : Filled l n := by
  refine ⟨h.kept.trans k.kept, fun i it hi => ?_, fun hl => k.lists (h.lists hl)⟩
  obtain ⟨it1, h1, h2, h3, h4, h5⟩ := h.items i it hi
  obtain ⟨it2, k1, k2, k3, k4, k5⟩ := k.items i it1 h1
  exact ⟨it2, k1, k2.trans h2, k3.trans h3, k4.trans h4, k5.trans h5⟩

theorem fillFFALoot_filled (l : Loot) (pl : Nat) (allowed : LootItem → Bool)
    (hnone : l.playerFFAItems pl = none) : Filled l (l.fillFFALoot pl allowed) := by
  unfold Loot.fillFFALoot
  simp only
  split
  · exact Filled.refl l
  · have hnd := indicesOf_nodup l.items fun it => !it.isLooted && it.freeforall && allowed it
    generalize Loot.indicesOf l.items (fun it => !it.isLooted && it.freeforall && allowed it) = ql at hnd
    obtain ⟨h1, h2⟩ := addList_kept l
      { l with
        unlootedCount := u8 (l.unlootedCount + ql.length)
        playerFFAItems := Function.update l.playerFFAItems pl (some (Loot.listOf ql)) }
      false pl ql hnd hnone rfl rfl fun _ _ it hi => ⟨it, hi, rfl, id, id⟩
    exact ⟨h1, fun _ it hi => ⟨it, hi, rfl, rfl, rfl, rfl⟩, h2⟩

theorem fillQuestLoot_filled (l : Loot) (pl : Nat) (allowed : LootItem → Bool)
    (hnone : l.playerQuestItems pl = none) : Filled l (l.fillQuestLoot pl allowed) := by
  unfold Loot.fillQuestLoot
  split
  · exact Filled.refl l
  simp only
  split
  · exact Filled.refl l
  · have hnd := (indicesOf_nodup l.questItems fun it => !it.isLooted && allowed it).sublist
      (List.take_sublist (maxNrLootItems - l.items.length) _)
    generalize (Loot.indicesOf l.questItems fun it => !it.isLooted && allowed it).take
      (maxNrLootItems - l.items.length) = ql at hnd
    generalize u8 (l.unlootedCount +
      (ql.filter fun i => (l.questItems[i]?).any fun it => it.freeforall || !it.isBlocked).length) = counted
    obtain ⟨h1, h2⟩ := addList_kept l
      { l with
        questItems := l.questItems.mapIdx fun i it => if i ∈ ql then { it with isBlocked := true } else it
        unlootedCount := counted
        playerQuestItems := Function.update l.playerQuestItems pl (some (Loot.listOf ql)) }
      true pl ql hnd hnone rfl rfl fun quest i it hi => by
        cases quest with
        | false => exact ⟨it, hi, rfl, id, id⟩
        | true =>
          have hi' : l.questItems[i]? = some it := hi
          simp only [Loot.itemAt, if_true, List.getElem?_mapIdx, hi', Option.map_some, Option.some.injEq,
            exists_eq_left']
          split <;> exact ⟨rfl, id, id⟩
    exact ⟨h1, fun _ it hi => ⟨it, hi, rfl, rfl, rfl, rfl⟩, h2⟩

theorem fillNonQuestNonFFAConditionalLoot_filled (l : Loot) (pl : Nat) (allowed : LootItem → Bool) :
    Filled l (l.fillNonQuestNonFFAConditionalLoot pl allowed) := by
  unfold Loot.fillNonQuestNonFFAConditionalLoot
  simp only
  split
  · exact Filled.refl l
  · have hitem : ∀ (ql : List Nat) (i : Nat) (it : LootItem), l.items[i]? = some it →
        ∃ it', (l.items.mapIdx fun i it => if i ∈ ql then { it with isCounted := true } else it)[i]? = some it' ∧
          it'.freeforall = it.freeforall ∧ it'.isBlocked = it.isBlocked ∧ it'.isLooted = it.isLooted ∧
            it'.count = it.count := by
      intro ql i it hi
      simp only [List.getElem?_mapIdx, hi, Option.map_some, Option.some.injEq, exists_eq_left']
      split <;> exact ⟨rfl, rfl, rfl, rfl⟩
    refine ⟨Kept.of_entries rfl fun quest i it hi => ?_, fun i it hi => hitem _ i it hi, id⟩
    cases quest with
    | true => exact ⟨it, hi, rfl, id, id⟩
    | false =>
      obtain ⟨it', h1, h2, -, h4, h5⟩ := hitem _ i it hi
      exact ⟨it', h1, h2, h4.trans, h5.trans⟩

/-- **Filling the lists of a player** keeps items, marks and the lists of others. -/
theorem fillLists_filled (l : Loot) (pl : Nat) (allowed : LootItem → Bool) : Filled l (l.fillLists pl allowed) := by
  unfold Loot.fillLists
  simp only
  have h1 : Filled l (if (l.playerQuestItems pl).isNone then l.fillQuestLoot pl allowed else l) := by
    split
    · next h => exact fillQuestLoot_filled l pl allowed (Option.isNone_iff_eq_none.1 h)
    · exact Filled.refl l
  generalize (if (l.playerQuestItems pl).isNone then l.fillQuestLoot pl allowed else l) = l1 at h1
  have h2 : Filled l1 (if (l1.playerFFAItems pl).isNone then l1.fillFFALoot pl allowed else l1) := by
    split
    · next h => exact fillFFALoot_filled l1 pl allowed (Option.isNone_iff_eq_none.1 h)
    · exact Filled.refl l1
  generalize (if (l1.playerFFAItems pl).isNone then l1.fillFFALoot pl allowed else l1) = l2 at h2
  refine (h1.trans h2).trans ?_
  split
  · exact fillNonQuestNonFFAConditionalLoot_filled l2 pl allowed
  · exact Filled.refl l2

theorem sendLoot_sound (hs : s.Sound) (pl : Nat) (permission : Bool) (allowed : LootItem → Bool) :
    (s.sendLoot pl permission allowed).Sound := by
  have hf : Filled s.loot (s.sendLoot pl permission allowed).loot := by
    unfold sendLoot
    simp only
    split
    · exact fillLists_filled s.loot pl allowed
    · exact Filled.refl _
  exact hs.kept rfl rfl hf.kept (hf.lists hs.lists) (hs.rolls.same rfl rfl rfl hf.items)

/-! ### Filling the loot -/

theorem addItem_lists (drops : List LootStoreItem) (l : Loot) (hl : ListsNodup l) :
    ListsNodup (drops.foldl Loot.addItem l) := by
  induction drops generalizing l with
  | nil => exact hl
  | cons li drops ih =>
    refine ih _ ?_
    unfold Loot.addItem
    split
    · split <;> exact hl
    · split <;> exact hl

theorem fillLoot_lists (gold : Nat) (drops : List LootStoreItem) (group : List Nat)
    (allowed : Nat → LootItem → Bool) : ListsNodup (Loot.fillLoot gold drops group allowed) := by
  unfold Loot.fillLoot
  have h0 : ListsNodup { drops.foldl Loot.addItem {} with gold := gold } := by
    refine addItem_lists drops {} fun quest pl ql h => ?_
    cases quest <;> cases h
  generalize ({ drops.foldl Loot.addItem {} with gold := gold } : Loot) = l at h0 ⊢
  induction group generalizing l with
  | nil => exact h0
  | cons pl group ih => exact ih _ ((fillLists_filled l pl (allowed pl)).lists h0)

theorem clear_sound (hs : s.Sound) : s.clear.Sound := by
  have hpast : ∀ h ∈ s.handed, h.key.fill ≠ s.fills + 1 := fun h hm => by
    have := hs.past h hm; omega
  have hroll : ∀ r ∈ s.rollId, r.fill ≠ s.fills + 1 := fun r hm => by
    have := hs.rolls.past r hm; omega
  refine ⟨hs.fair, fun h hm => Nat.le_succ_of_le (hs.past h hm), fun h hm hf => absurd hf (hpast h hm),
    fun h hm hf => absurd hf (hpast h hm), fun quest pl ql h => ?_,
    ⟨fun r hm => Nat.le_succ_of_le (hs.rolls.past r hm), hs.rolls.guids, hs.rolls.fresh,
      fun r hm _ _ hf => absurd hf (hroll r hm), fun r hm hf => absurd hf (hroll r hm)⟩⟩
  cases quest <;> cases h

/-- What a new filling starts from: no roll and no handout is of the present contents. -/
structure Fresh (s : LootRoom) : Prop where
  sound : s.Sound
  handed : ∀ h ∈ s.handed, h.key.fill < s.fills
  rolls : ∀ r ∈ s.rollId, r.fill < s.fills

theorem filled_fresh (hs : s.Sound) (gold : Nat) (drops : List LootStoreItem) (group : List Nat)
    (allowed : Nat → LootItem → Bool) :
    Fresh { s.clear with loot := Loot.fillLoot gold drops group allowed } := by
  have hc := clear_sound hs
  have hh : ∀ h ∈ s.handed, h.key.fill < s.fills + 1 := fun h hm => Nat.lt_succ_of_le (hs.past h hm)
  have hr : ∀ r ∈ s.rollId, r.fill < s.fills + 1 := fun r hm => Nat.lt_succ_of_le (hs.rolls.past r hm)
  exact ⟨⟨hs.fair, hc.past, fun h hm hf => absurd hf (Nat.ne_of_lt (hh h hm)),
    fun h hm hf => absurd hf (Nat.ne_of_lt (hh h hm)), fillLoot_lists gold drops group allowed,
    ⟨hc.rolls.past, hs.rolls.guids, hs.rolls.fresh, fun r hm _ _ hf => absurd hf (Nat.ne_of_lt (hr r hm)),
      fun r hm hf => absurd hf (Nat.ne_of_lt (hr r hm))⟩⟩, hh, hr⟩

theorem fillLists_unlooted (l : Loot) (pl : Nat) (allowed : LootItem → Bool)
    (hl : ∀ it ∈ l.items, it.isLooted = false) : ∀ it ∈ (l.fillLists pl allowed).items, it.isLooted = false := by
  have h1 : (if (l.playerQuestItems pl).isNone then l.fillQuestLoot pl allowed else l).items = l.items := by
    unfold Loot.fillQuestLoot
    simp only
    split
    · split
      · rfl
      · split <;> rfl
    · rfl
  unfold Loot.fillLists
  simp only
  generalize (if (l.playerQuestItems pl).isNone then l.fillQuestLoot pl allowed else l) = l1 at h1
  have h2 : (if (l1.playerFFAItems pl).isNone then l1.fillFFALoot pl allowed else l1).items = l1.items := by
    unfold Loot.fillFFALoot
    simp only
    split
    · split <;> rfl
    · rfl
  generalize (if (l1.playerFFAItems pl).isNone then l1.fillFFALoot pl allowed else l1) = l2 at h2
  have hl2 : ∀ it ∈ l2.items, it.isLooted = false := by rw [h2, h1]; exact hl
  split
  · unfold Loot.fillNonQuestNonFFAConditionalLoot
    simp only
    split
    · exact hl2
    · intro it hit
      obtain ⟨i, hi, rfl⟩ := List.mem_mapIdx.1 hit
      have hun := hl2 _ (List.getElem_mem hi)
      split <;> exact hun
  · exact hl2

theorem fillLoot_unlooted (gold : Nat) (drops : List LootStoreItem) (group : List Nat)
    (allowed : Nat → LootItem → Bool) :
    ∀ it ∈ (Loot.fillLoot gold drops group allowed).items, it.isLooted = false := by
  have hadd : ∀ (drops : List LootStoreItem) (l : Loot), (∀ it ∈ l.items, it.isLooted = false) →
      ∀ it ∈ (drops.foldl Loot.addItem l).items, it.isLooted = false := by
    intro drops
    induction drops with
    | nil => exact fun l hl => hl
    | cons li drops ih =>
      refine fun l hl => ih _ fun it hit => ?_
      unfold Loot.addItem at hit
      split at hit
      · split at hit <;> exact hl it hit
      · split at hit
        · rcases List.mem_append.1 hit with hit | hit
          · exact hl it hit
          · rw [List.mem_singleton.1 hit]; rfl
        · exact hl it hit
  unfold Loot.fillLoot
  have h0 : ∀ it ∈ ({ drops.foldl Loot.addItem {} with gold := gold } : Loot).items, it.isLooted = false :=
    hadd drops {} (by simp)
  generalize ({ drops.foldl Loot.addItem {} with gold := gold } : Loot) = l at h0 ⊢
  induction group generalizing l with
  | nil => exact h0
  | cons pl group ih => exact ih _ (fillLists_unlooted l pl (allowed pl) h0)

/-- **Rolls are started** for a fresh filling. -/
theorem startRolls_sound (hs : Fresh s) (needBeforeGreed : Bool) (view : GroupView)
    (allowed : Nat → LootItem → Bool) (hclean : ∀ it ∈ s.loot.items, it.isLooted = false) :
    (s.startRolls needBeforeGreed view allowed).Sound := by
  have hmark : ∀ rolled it, (rollMark view rolled it).freeforall = it.freeforall ∧
      (rollMark view rolled it).isLooted = it.isLooted ∧ (rollMark view rolled it).count = it.count := by
    intro rolled it
    unfold rollMark
    split
    · exact ⟨rfl, rfl, rfl⟩
    · split
      · split <;> exact ⟨rfl, rfl, rfl⟩
      · exact ⟨rfl, rfl, rfl⟩
  have hblock : ∀ it, overThreshold view it = true →
      (rollMark view true it).isBlocked = true ∧ it.freeforall = false := by
    intro it ho
    have hq : (view.quality it.itemid).isNone = false := by
      unfold overThreshold at ho
      cases hq : view.quality it.itemid with
      | none => rw [hq] at ho; cases ho
      | some q => rfl
    refine ⟨?_, ?_⟩
    · unfold rollMark
      rw [if_neg (by rw [hq]; simp), if_pos ho, if_pos rfl]
    · unfold overThreshold at ho
      split at ho
      · cases ho
      · simp only [Bool.and_eq_true, Bool.not_eq_true'] at ho
        exact ho.2
  unfold startRolls
  simp only
  have hover : ∀ it, rolledFor view needBeforeGreed allowed it = true → overThreshold view it = true := by
    intro it h
    unfold rolledFor at h
    simp only [Bool.and_eq_true] at h
    exact h.1
  generalize rolledFor view needBeforeGreed allowed = rolled at hover ⊢
  generalize hnew : (s.loot.items.zipIdx.filter fun e => rolled e.1) = picked
  have hpicked : ∀ e ∈ picked, s.loot.items[e.2]? = some e.1 ∧ rolled e.1 = true := by
    intro e he
    rw [← hnew] at he
    obtain ⟨h1, h2⟩ := List.mem_filter.1 he
    exact ⟨List.mem_zipIdx_iff_getElem?.1 h1, h2⟩
  have hnodup : (picked.map Prod.snd).Nodup := by
    rw [← hnew]
    refine List.Nodup.sublist (List.filter_sublist.map _) ?_
    rw [List.zipIdx_map_snd]
    exact List.nodup_range'
  refine hs.sound.kept rfl rfl (Kept.of_entries rfl fun quest i it hi => ?_) hs.sound.lists ⟨fun r hm => ?_,
    ?_, fun r hm => ?_, fun r hm q hq hrf hqf hslot => ?_, fun r hm hf => ?_⟩
  · cases quest with
    | true => exact ⟨it, hi, rfl, id, id⟩
    | false =>
      have hi' : s.loot.items[i]? = some it := hi
      obtain ⟨h1, h2, h3⟩ := hmark (rolled it) it
      exact ⟨rollMark view (rolled it) it, by simp [Loot.itemAt, hi'], h1, fun h => h2.trans h,
        fun h => h3.trans h⟩
  · rcases List.mem_append.1 hm with hm | hm
    · exact hs.sound.rolls.past r hm
    · obtain ⟨e, -, rfl⟩ := List.mem_map.1 hm
      exact le_refl _
  · rw [List.map_append, List.nodup_append]
    refine ⟨hs.sound.rolls.guids, ?_, fun a ha b hb => ?_⟩
    · rw [List.map_map]
      have := hnodup.map (f := fun i => s.nextItemGuid + i) fun i j h => Nat.add_left_cancel h
      rw [List.map_map] at this
      exact this
    · obtain ⟨r, hr, rfl⟩ := List.mem_map.1 ha
      obtain ⟨q, hq, rfl⟩ := List.mem_map.1 hb
      obtain ⟨e, -, rfl⟩ := List.mem_map.1 hq
      have := hs.sound.rolls.fresh r hr
      simp only [newRoll, Roll.start]
      omega
  · rcases List.mem_append.1 hm with hm | hm
    · have := hs.sound.rolls.fresh r hm
      simp only
      omega
    · obtain ⟨e, he, rfl⟩ := List.mem_map.1 hm
      have hlt := (List.getElem?_eq_some_iff.1 (hpicked e he).1).1
      simp only [newRoll, Roll.start]
      omega
  · -- both rolls are new: their guids are their slots', counted on
    have hboth : ∀ r ∈ s.rollId ++ picked.map fun e => s.newRoll (rollersFor view needBeforeGreed allowed e.1) e.2 e.1,
        r.fill = s.fills → r.itemGUID = s.nextItemGuid + r.itemSlot := by
      intro r hm hf
      rcases List.mem_append.1 hm with hm | hm
      · exact absurd hf (Nat.ne_of_lt (hs.rolls r hm))
      · obtain ⟨e, -, rfl⟩ := List.mem_map.1 hm
        rfl
    rw [hboth r hm hrf, hboth q hq hqf, hslot]
  · rcases List.mem_append.1 hm with hm | hm
    · exact absurd hf (Nat.ne_of_lt (hs.rolls r hm))
    · obtain ⟨e, he, rfl⟩ := List.mem_map.1 hm
      obtain ⟨hat, hr⟩ := hpicked e he
      obtain ⟨h1, h2, h3⟩ := hmark (rolled e.1) e.1
      obtain ⟨hb, hffa⟩ := hblock e.1 (hover e.1 hr)
      refine ⟨rollMark view (rolled e.1) e.1, by simp [newRoll, Roll.start, hat], h1.trans hffa, by rw [hr]; exact hb,
        Or.inl (h2.trans (hclean e.1 (List.mem_of_getElem? hat)))⟩

theorem generate_sound (hs : s.Sound) (gold : Nat) (drops : List LootStoreItem) (group : List Nat)
    (allowed : Nat → LootItem → Bool) (rolls : Option (Bool × GroupView)) :
    (s.generate gold drops group allowed rolls).Sound := by
  have hf := filled_fresh hs gold drops group allowed
  have hclean := fillLoot_unlooted gold drops group allowed
  unfold generate
  simp only
  split
  · exact hf.sound
  · exact startRolls_sound hf false _ allowed hclean
  · exact startRolls_sound hf true _ allowed hclean

/-! ### Looting -/

/-- What `LootItemInSlot` found: the item, and the player's unmarked entry for it. -/
structure FoundSpec (l : Loot) (pl : Nat) (f : Loot.Found) : Prop where
  item : l.itemAt f.quest f.index = some f.item
  quest : f.quest = true → ∃ k, f.qitem = some k
  qitem : ∀ k, f.qitem = some k → f.quest = true ∧
    ∃ ql q, l.playerQuestItems pl = some ql ∧ ql[k]? = some q ∧ q.index = f.index ∧ q.isLooted = false
  ffaitem : ∀ k, f.ffaitem = some k → f.quest = false ∧ f.item.freeforall = true ∧ f.conditem = none ∧
    ∃ ql q, l.playerFFAItems pl = some ql ∧ ql[k]? = some q ∧ q.index = f.index ∧ q.isLooted = false

theorem lootItemInSlot_spec (l : Loot) (slot pl : Nat) (f : Loot.Found) (h : l.lootItemInSlot slot pl = some f) :
    FoundSpec l pl f := by
  unfold Loot.lootItemInSlot at h
  split at h
  · -- a quest item, by the player's list
    split at h
    · cases h
    next ql hql =>
    split at h
    · cases h
    next q hq =>
    split at h
    · cases h
    next item hitem =>
    split at h
    · cases h
    next hl =>
    cases h
    exact ⟨hitem, fun _ => ⟨_, rfl⟩, fun k hk => ⟨rfl, ql, q, hql, Option.some.inj hk ▸ hq, rfl, by simpa using hl⟩,
      fun k hk => by cases hk⟩
  · split at h
    · cases h
    next item hitem =>
    split at h
    · next hffa =>
      simp only at h
      split at h
      · cases h
      next hl =>
      cases h
      refine ⟨hitem, (fun hq => by cases hq), (fun k hk => by cases hk), fun k hk => ⟨rfl, hffa, rfl, ?_⟩⟩
      have hk' : Loot.entryOf (l.playerFFAItems pl) slot = some k := hk
      rw [hk'] at hl
      unfold Loot.entryOf at hk'
      cases hql : l.playerFFAItems pl with
      | none => rw [hql] at hk'; cases hk'
      | some ql =>
        rw [hql] at hk' hl
        obtain ⟨hlt, hp, -⟩ := List.findIdx?_eq_some_iff_getElem.1 hk'
        refine ⟨ql, ql[k], rfl, List.getElem?_eq_getElem hlt, by simpa using hp, ?_⟩
        simpa [Loot.flagOf, List.getElem?_eq_getElem hlt] using hl
    · split at h
      · simp only at h
        split at h
        · cases h
        cases h
        exact ⟨hitem, (fun hq => by cases hq), (fun k hk => by cases hk), fun k hk => by cases hk⟩
      · split at h
        · cases h
        cases h
        exact ⟨hitem, (fun hq => by cases hq), (fun k hk => by cases hk), fun k hk => by cases hk⟩

theorem done_of_markEntry (l m : Loot) (hl : ListsNodup l) (quest : Bool) (pl k i : Nat)
    (hm : m.entries quest = Loot.markEntry (l.entries quest) pl k) (ql : List QuestItem) (q : QuestItem)
    (hql : l.entries quest pl = some ql) (hq : ql[k]? = some q) (hi : q.index = i) : m.Done quest pl i := by
  unfold Loot.Done
  rw [hm]
  unfold Loot.markEntry
  rw [Function.update_self, hql]
  refine ⟨_, rfl, fun e he hei => ?_⟩
  obtain ⟨n, hn⟩ := List.mem_iff_getElem?.1 he
  rw [List.getElem?_modify] at hn
  obtain ⟨e0, h0, rfl⟩ := Option.map_eq_some_iff.1 hn
  by_cases hkn : k = n
  · simp [hkn]
  · -- another entry for the same item
    exfalso
    rw [if_neg hkn] at hei
    have hnd := hl quest pl ql hql
    have h1 : (ql.map QuestItem.index)[k]? = some i := by simp [hq, hi]
    have h2 : (ql.map QuestItem.index)[n]? = some i := by simp [h0, hei]
    obtain ⟨hlk, hk⟩ := List.getElem?_eq_some_iff.1 h1
    obtain ⟨hln, hn'⟩ := List.getElem?_eq_some_iff.1 h2
    exact hkn ((List.Nodup.getElem_inj_iff hnd).1 (hk.trans hn'.symm))

theorem not_done (l : Loot) (quest : Bool) (pl k : Nat) (ql : List QuestItem) (q : QuestItem)
    (hql : l.entries quest pl = some ql) (hq : ql[k]? = some q) (hn : q.isLooted = false) :
    ¬l.Done quest pl q.index := by
  rintro ⟨ql', hql', hall⟩
  rw [hql] at hql'
  cases hql'
  rw [hall q (List.mem_of_getElem? hq) rfl] at hn
  cases hn

theorem RollsSound.of_pending (hr : RollsSound s) (hf : t.fills = s.fills) (hg : t.nextItemGuid = s.nextItemGuid)
    (hid : t.rollId.Sublist s.rollId)
    (hp : ∀ r ∈ t.rollId, r.fill = s.fills → ∃ it, t.loot.items[r.itemSlot]? = some it ∧
      it.freeforall = false ∧ it.isBlocked = true ∧ (it.isLooted = false ∨ it.count = 0)) : RollsSound t :=
  ⟨fun r hm => by rw [hf]; exact hr.past r (hid.subset hm), hr.guids.sublist (hid.map _),
    fun r hm => by rw [hg]; exact hr.fresh r (hid.subset hm),
    fun r hm q hq hrf hqf => hr.slots r (hid.subset hm) q (hid.subset hq) (hf ▸ hrf) (hf ▸ hqf),
    fun r hm hrf => hp r hm (hf ▸ hrf)⟩

theorem markFound_spec (l : Loot) (hl : ListsNodup l) (pl : Nat) (f : Loot.Found) (hf : FoundSpec l pl f) :
    Kept l (l.markFound pl f) ∧ ListsNodup (l.markFound pl f) ∧
      (∀ q j, (l.markFound pl f).itemAt q j = l.itemAt q j) ∧
      ((f.quest = true ∨ f.ffaitem.isSome = true) →
        (l.markFound pl f).Done f.quest pl f.index ∧ ¬l.Done f.quest pl f.index) := by
  unfold Loot.markFound
  split
  · next k hk =>
    obtain ⟨hq, ql, q, hql, hqk, hidx, hun⟩ := hf.qitem k hk
    obtain ⟨h1, h2⟩ := markEntry_entries l { l with playerQuestItems := Loot.markEntry l.playerQuestItems pl k }
      true pl k rfl rfl fun _ _ => rfl
    refine ⟨h1, h2 hl, fun _ _ => rfl, fun _ => ?_⟩
    rw [hq]
    exact ⟨done_of_markEntry l _ hl true pl k f.index rfl ql q hql hqk hidx,
      hidx ▸ not_done l true pl k ql q hql hqk hun⟩
  · next k hk hffa =>
    obtain ⟨hq, -, -, ql, q, hql, hqk, hidx, hun⟩ := hf.ffaitem k hffa
    obtain ⟨h1, h2⟩ := markEntry_entries l { l with playerFFAItems := Loot.markEntry l.playerFFAItems pl k }
      false pl k rfl rfl fun _ _ => rfl
    refine ⟨h1, h2 hl, fun _ _ => rfl, fun _ => ?_⟩
    rw [hq]
    exact ⟨done_of_markEntry l _ hl false pl k f.index rfl ql q hql hqk hidx,
      hidx ▸ not_done l false pl k ql q hql hqk hun⟩
  · next k hq hffa _ =>
    refine ⟨Kept.of_entries rfl fun _ _ it hi => ⟨it, hi, rfl, id, id⟩, hl, fun _ _ => rfl, ?_⟩
    rintro (h | h)
    · obtain ⟨k', hk'⟩ := hf.quest h
      rw [hq] at hk'; cases hk'
    · rw [hffa] at h; cases h
  · next hq hffa _ =>
    refine ⟨Kept.refl l, hl, fun _ _ => rfl, ?_⟩
    rintro (h | h)
    · obtain ⟨k', hk'⟩ := hf.quest h
      rw [hq] at hk'; cases hk'
    · rw [hffa] at h; cases h

/-- **Marking what was found.** -/
theorem markLooted_spec (l : Loot) (hl : ListsNodup l) (pl : Nat) (f : Loot.Found) (hf : FoundSpec l pl f) :
    Kept l (l.markLooted pl f) ∧ ListsNodup (l.markLooted pl f) ∧
      (l.markLooted pl f).items =
        (if f.item.freeforall = false ∧ f.quest = false then
          l.items.modify f.index fun it => { it with isLooted := true } else l.items) ∧
      (f.item.freeforall = false → ∃ it, (l.markLooted pl f).itemAt f.quest f.index = some it ∧
        it.freeforall = false ∧ it.isLooted = true) ∧
      (f.item.freeforall = true → (f.quest = true ∨ f.ffaitem.isSome = true) →
        (l.markLooted pl f).Done f.quest pl f.index ∧ ¬l.Done f.quest pl f.index) := by
  obtain ⟨hkept, hnodup, hitems, hdone⟩ := markFound_spec l hl pl f hf
  unfold Loot.markLooted
  simp only
  generalize l.markFound pl f = l1 at hkept hnodup hitems hdone ⊢
  have hsame : l1.items = l.items := List.ext_getElem? fun i => hitems false i
  cases hffa : f.item.freeforall with
  | true =>
    simp only [if_true]
    refine ⟨⟨hkept.item, hkept.done⟩, hnodup, by simpa [Loot.uncount] using hsame, (fun h => by cases h),
      fun _ h => ?_⟩
    exact hdone h
  | false =>
    simp only [Bool.false_eq_true, if_false]
    have hk2 := modifyItem_kept l1 f.quest f.index (fun it => { it with isLooted := true })
      fun it => ⟨rfl, fun _ => rfl, id⟩
    refine ⟨⟨(hkept.trans hk2).item, (hkept.trans hk2).done⟩, ?_, ?_, fun _ => ?_, fun h => by cases h⟩
    · intro quest p ql h
      exact hnodup quest p ql ((congrFun (congrFun (modifyItem_entries l1 f.quest f.index _) quest) p) ▸ h)
    · unfold Loot.uncount Loot.modifyItem
      cases f.quest <;> simp [hsame]
    · refine ⟨{ f.item with isLooted := true }, ?_, hffa, rfl⟩
      have := itemAt_modifyItem l1 f.quest f.index (fun it => { it with isLooted := true }) f.quest f.index
      rw [if_pos ⟨rfl, rfl⟩, hitems, hf.item] at this
      exact this

theorem handleAutostoreLootItem_sound (hs : s.Sound) (pl slot : Nat) (canStore : Bool)
    (hg : s.Heedful (.autostoreLootItem pl slot canStore)) :
    (s.handleAutostoreLootItem pl slot canStore).Sound := by
  unfold handleAutostoreLootItem
  split
  · exact hs
  next hopen =>
  split
  · exact hs
  next f hfound =>
  split
  · exact hs
  next hblocked =>
  split
  · next hcan =>
    have hf := lootItemInSlot_spec s.loot slot pl f hfound
    obtain ⟨hkept, hlists, hitems, hone, hall⟩ := markLooted_spec s.loot hs.lists pl f hf
    have hrolls : RollsSound { s with loot := s.loot.markLooted pl f } := by
      refine hs.rolls.of_pending rfl rfl (List.Sublist.refl _) fun r hm hfill => ?_
      obtain ⟨it, h1, h2, h3, h4⟩ := hs.rolls.pending r hm hfill
      refine ⟨it, ?_, h2, h3, h4⟩
      simp only
      rw [hitems]
      split
      · next hc =>
        -- an item that is rolled for is blocked
        rw [List.getElem?_modify_ne _ _ fun he => ?_]
        · exact h1
        · have hat := hf.item
          rw [hc.2] at hat
          have hsame : it = f.item := Option.some.inj (h1.symm.trans (he ▸ hat))
          refine hblocked ⟨?_, by rw [← hsame]; exact h3⟩
          cases hq : f.qitem with
          | none => rfl
          | some k => rw [(hf.qitem k hq).1] at hc; cases hc.2
      · exact h1
    have ht : Sound { s with loot := s.loot.markLooted pl f } := hs.kept rfl rfl hkept hlists hrolls
    have hheed := hg (by simpa using hopen) hcan f hfound hblocked
    refine hs.hand ht rfl rfl f.item _ rfl hf.item rfl (fun h0 hffa => ?_) fun h0 hffa => ?_
    · have := hheed h0
      rw [hffa] at this
      exact ⟨by simpa using this, hone hffa⟩
    · have hlisted : f.quest = true ∨ f.ffaitem.isSome = true := by
        have := hheed h0
        rwa [hffa, if_pos rfl] at this
      obtain ⟨hdone, hnot⟩ := hall hffa hlisted
      obtain ⟨it, k1, k2, -⟩ := hkept.item f.quest f.index f.item hf.item
      exact ⟨by simpa using hlisted, hnot, it, k1, k2.trans hffa, Or.inr hdone⟩
  · exact hs

/-! ### The master looter -/

theorem handleLootMasterGive_sound (hs : s.Sound) (pl target slotid : Nat) (permitted canStore : Bool)
    (hg : s.Heedful (.lootMasterGive pl target slotid permitted canStore)) :
    (s.handleLootMasterGive pl target slotid permitted canStore).Sound := by
  unfold handleLootMasterGive
  split
  · exact hs
  next hmay =>
  split
  · exact hs
  split
  · exact hs
  next item hitem =>
  split
  · next hcan =>
    have hat : s.loot.itemAt false slotid = some item := hitem
    have hk := modifyItem_kept s.loot false slotid (fun it => { it with count := 0, isLooted := true })
      fun it => ⟨rfl, fun _ => rfl, fun _ => rfl⟩
    have hafter : (s.loot.modifyItem false slotid fun it =>
        { it with count := 0, isLooted := true }).uncount.itemAt false slotid =
          some { item with count := 0, isLooted := true } := by
      have := itemAt_modifyItem s.loot false slotid (fun it => { it with count := 0, isLooted := true }) false slotid
      rw [if_pos ⟨rfl, rfl⟩, hat] at this
      exact this
    have hrolls : RollsSound { s with
        loot := (s.loot.modifyItem false slotid fun it => { it with count := 0, isLooted := true }).uncount } := by
      refine hs.rolls.of_pending rfl rfl (List.Sublist.refl _) fun r hm hfill => ?_
      obtain ⟨it, h1, h2, h3, h4⟩ := hs.rolls.pending r hm hfill
      simp only [Loot.uncount, Loot.modifyItem, Bool.false_eq_true, if_false, List.getElem?_modify, h1]
      by_cases hr : slotid = r.itemSlot
      · simp only [hr, if_true]
        exact ⟨_, rfl, h2, h3, Or.inr rfl⟩
      · simp only [hr, if_false]
        exact ⟨it, rfl, h2, h3, h4⟩
    have ht := hs.kept (t := { s with
        loot := (s.loot.modifyItem false slotid fun it => { it with count := 0, isLooted := true }).uncount })
      rfl rfl ⟨hk.item, hk.done⟩ hs.lists hrolls
    have hmay' : permitted = true ∧ s.hasOpen pl = true := by simpa [not_or] using hmay
    have hheed := (hg hmay'.1 hmay'.2).2 hcan
    refine hs.hand ht rfl rfl item _ rfl hat rfl (fun h0 hffa => ?_) fun h0 hffa => ?_
    · have := hheed item hitem h0
      rw [hffa] at this
      exact ⟨by simpa using this, _, hafter, hffa, rfl⟩
    · have := hheed item hitem h0
      rw [hffa, if_pos rfl] at this
      exact ⟨this.1, this.2, _, hafter, hffa, Or.inl rfl⟩
  · exact hs

/-! ### Rolls -/

/-- What the handout invariant needs of a changed roll. -/
def SameRoll (r q : Roll) : Prop := q.itemGUID = r.itemGUID ∧ q.itemSlot = r.itemSlot ∧ q.fill = r.fill

theorem record_sameRoll (r : Roll) (pl choice : Nat) : SameRoll r (r.record pl choice) := by
  unfold Roll.record
  split <;> exact ⟨rfl, rfl, rfl⟩

/-- **The rolls are replaced one by one**, each by one for the same item, or dropped. -/
theorem RollsSound.of_image (hr : RollsSound s) (g : Roll → Roll) (hg : ∀ r, SameRoll r (g r)) (rolls : Rolls)
    (hsub : rolls.Sublist (s.rollId.map g)) : RollsSound { s with rollId := rolls } := by
  have hmem : ∀ r ∈ rolls, ∃ r0 ∈ s.rollId, g r0 = r := fun r hm => List.mem_map.1 (hsub.subset hm)
  refine ⟨fun r hm => ?_, ?_, fun r hm => ?_, fun r hm q hq hrf hqf hslot => ?_, fun r hm hf => ?_⟩
  · obtain ⟨r0, h0, rfl⟩ := hmem r hm
    rw [(hg r0).2.2]; exact hr.past r0 h0
  · refine List.Nodup.sublist (hsub.map _) ?_
    rw [List.map_map]
    have : Roll.itemGUID ∘ g = Roll.itemGUID := funext fun r => (hg r).1
    rw [this]; exact hr.guids
  · obtain ⟨r0, h0, rfl⟩ := hmem r hm
    rw [(hg r0).1]; exact hr.fresh r0 h0
  · obtain ⟨r0, h0, rfl⟩ := hmem r hm
    obtain ⟨q0, k0, rfl⟩ := hmem q hq
    rw [(hg r0).2.2] at hrf
    rw [(hg q0).2.2] at hqf
    rw [(hg r0).2.1, (hg q0).2.1] at hslot
    rw [(hg r0).1, (hg q0).1]
    exact hr.slots r0 h0 q0 k0 hrf hqf hslot
  · obtain ⟨r0, h0, rfl⟩ := hmem r hm
    rw [(hg r0).2.2] at hf
    rw [(hg r0).2.1]
    exact hr.pending r0 h0 hf

theorem Sound.rolls_only (hs : s.Sound) (rolls : Rolls) (hr : RollsSound { s with rollId := rolls }) :
    Sound { s with rollId := rolls } :=
  hs.kept rfl rfl (Kept.refl _) hs.lists hr

theorem erase_other (hr : RollsSound s) (r q : Roll) (hm : r ∈ s.rollId) (hq : q ∈ Rolls.erase s.rollId r)
    (hf : r.fill = s.fills) (hqf : q.fill = s.fills) : q ∈ s.rollId ∧ q.itemSlot ≠ r.itemSlot := by
  obtain ⟨hq1, hq2⟩ := List.mem_filter.1 hq
  refine ⟨hq1, fun he => ?_⟩
  rw [hr.slots q hq1 r hm hqf hf he] at hq2
  simp at hq2

theorem modified_rolls (hr : RollsSound s) (r : Roll) (hm : r ∈ s.rollId) (hf : r.fill = s.fills)
    (f : LootItem → LootItem) (hid : t.rollId = Rolls.erase s.rollId r) (htf : t.fills = s.fills)
    (htg : t.nextItemGuid = s.nextItemGuid)
    (hti : t.loot.items = (s.loot.modifyItem false r.itemSlot f).items) : RollsSound t := by
  refine hr.of_pending htf htg (hid ▸ List.filter_sublist) fun q hq hqf => ?_
  obtain ⟨hq1, hne⟩ := erase_other hr r q hm (hid ▸ hq) hf hqf
  obtain ⟨it, h1, h2⟩ := hr.pending q hq1 hqf
  refine ⟨it, ?_, h2⟩
  rw [hti]
  simp only [Loot.modifyItem, Bool.false_eq_true, if_false]
  rw [List.getElem?_modify_ne _ _ (Ne.symm hne)]
  exact h1

theorem unblock_sound (hs : s.Sound) (r : Roll) (hm : r ∈ s.rollId) (hf : r.fill = s.fills) :
    Sound { s.unblock r.itemSlot with rollId := Rolls.erase s.rollId r } := by
  have hk := modifyItem_kept s.loot false r.itemSlot (fun it => { it with isBlocked := false })
    fun it => ⟨rfl, id, id⟩
  exact hs.kept (t := { s.unblock r.itemSlot with rollId := Rolls.erase s.rollId r }) rfl rfl hk
    hs.lists (modified_rolls hs.rolls r hm hf _ rfl rfl rfl rfl)

theorem dropped_sound (hs : s.Sound) (r : Roll) : Sound { s with rollId := Rolls.erase s.rollId r } :=
  hs.rolls_only _ (hs.rolls.of_image id (fun _ => ⟨rfl, rfl, rfl⟩) _ (by rw [List.map_id]; exact List.filter_sublist))

theorem award_sound (hs : s.Sound) (r : Roll) (hm : r ∈ s.rollId) (hf : r.fill = s.fills) (kind : RollVote)
    (e : RollEnd) : Sound { s.award r kind e with rollId := Rolls.erase s.rollId r } := by
  unfold award
  split
  · exact dropped_sound hs r
  next winner _ =>
  split
  · split
    · exact dropped_sound hs r
    next item hitem =>
    split
    · obtain ⟨it, h1, h2, -, h4⟩ := hs.rolls.pending r hm hf
      cases hitem.symm.trans h1
      have hk := modifyItem_kept s.loot false r.itemSlot (fun it => { it with isLooted := true })
        fun it => ⟨rfl, fun _ => rfl, id⟩
      have hafter : ((s.loot.modifyItem false r.itemSlot fun it => { it with isLooted := true }).uncount).itemAt
          false r.itemSlot = some { item with isLooted := true } := by
        have := itemAt_modifyItem s.loot false r.itemSlot (fun it => { it with isLooted := true }) false r.itemSlot
        rw [if_pos ⟨rfl, rfl⟩, show s.loot.itemAt false r.itemSlot = some item from hitem] at this
        exact this
      have ht := hs.kept (t := { s with
          loot := (s.loot.modifyItem false r.itemSlot fun it => { it with isLooted := true }).uncount
          rollId := Rolls.erase s.rollId r })
        rfl rfl ⟨hk.item, hk.done⟩ hs.lists (modified_rolls hs.rolls r hm hf _ rfl rfl rfl rfl)
      have hout := hs.hand ht rfl rfl item
        { key := ⟨s.fills, false, r.itemSlot⟩, player := winner, freeforall := item.freeforall
          listed := s.listsFor winner r.itemSlot } rfl hitem rfl
        (fun h0 _ => ⟨h4.resolve_right h0, _, hafter, h2, rfl⟩) (fun _ hffa => by rw [h2] at hffa; cases hffa)
      unfold handOut at hout ⊢
      split
      · next h0 => rw [if_pos h0] at hout; exact hout
      · next h0 => rw [if_neg h0] at hout; exact hout
    · exact unblock_sound hs r hm hf
  · exact dropped_sound hs r

theorem countTheRoll_sound (hs : s.Sound) (r : Roll) (hm : r ∈ s.rollId) (e : RollEnd) :
    (s.countTheRoll r e).Sound := by
  unfold countTheRoll countRoll
  split
  · exact dropped_sound hs r
  next hv =>
  have hf : r.fill = s.fills := by simpa [isValid] using hv
  split
  · exact award_sound hs r hm hf _ e
  split
  · exact award_sound hs r hm hf _ e
  · exact unblock_sound hs r hm hf

theorem castVote_sound (hs : s.Sound) (r : Roll) (hm : r ∈ s.rollId) (pl choice : Nat) :
    Sound { s with rollId := s.rollId.map fun q => if q.itemGUID = r.itemGUID then r.record pl choice else q } := by
  have himage : (s.rollId.map fun q => if q.itemGUID = r.itemGUID then r.record pl choice else q) =
      s.rollId.map fun q => if q = r then r.record pl choice else q := by
    refine List.map_congr_left fun q hq => ?_
    by_cases he : q.itemGUID = r.itemGUID
    · rw [if_pos he, if_pos (List.inj_on_of_nodup_map hs.rolls.guids hq hm he)]
    · rw [if_neg he, if_neg fun h : q = r => he (congrArg Roll.itemGUID h)]
  rw [himage]
  refine hs.rolls_only _ (hs.rolls.of_image (fun q => if q = r then r.record pl choice else q) (fun q => ?_) _
    (List.Sublist.refl _))
  split
  · next h => rw [h]; exact record_sameRoll r pl choice
  · exact ⟨rfl, rfl, rfl⟩

theorem countRollVote_sound (hs : s.Sound) (pl guid choice : Nat) (e : RollEnd) :
    (s.countRollVote pl guid choice e).Sound := by
  unfold countRollVote
  rcases Rolls.castVote_spec s.rollId s.isValid (fun _ => s.loot.items.isEmpty) pl guid choice with h | ⟨r, hm, hg, -, -, -, h⟩
  · rw [h]; exact hs
  subst hg
  rw [h]
  have hs1 := castVote_sound hs r hm pl choice
  split
  · next hc => rw [← (Prod.mk.inj hc).1]; exact hs1
  · next hc =>
    obtain ⟨h1, h2⟩ := Prod.mk.inj hc
    rw [← h1]
    refine countTheRoll_sound hs1 _ ?_ e
    split at h2
    · rw [← Option.some.inj h2]
      exact List.mem_map.2 ⟨r, hm, if_pos rfl⟩
    · cases h2

theorem removeRolls_sound (hs : s.Sound) (pl : Nat) (e : RollEnd) : (s.removeRolls pl e).Sound := by
  unfold removeRolls
  rw [Rolls.removeRolls_eq _ _ _ hs.rolls.guids]
  refine hs.rolls_only _ (hs.rolls.of_image (Roll.without pl) (fun r => ?_) _ (List.Sublist.refl _))
  unfold Roll.without
  split <;> exact ⟨rfl, rfl, rfl⟩

theorem countTheRoll_rest (hs : s.Sound) (r : Roll) (l : Rolls) (hl : s.rollId = r :: l) (e : RollEnd) :
    (s.countTheRoll r e).rollId = l := by
  have hnd := hs.rolls.guids
  rw [hl, List.map_cons, List.nodup_cons] at hnd
  simp only [countTheRoll, Rolls.erase, hl, List.filter_cons, bne_self_eq_false, Bool.false_eq_true, if_false]
  refine List.filter_eq_self.2 fun q hq => ?_
  simp only [bne_iff_ne, ne_eq]
  exact fun he => hnd.1 (List.mem_map.2 ⟨q, hq, he⟩)

theorem endRoll_sound (hs : s.Sound) (e : RollEnd) : (s.endRoll e).Sound := by
  unfold endRoll
  suffices h : ∀ (l : Rolls) (v : LootRoom), v.Sound → v.rollId = l →
      (l.foldl (fun v r => v.countTheRoll r e) v).Sound from h s.rollId s hs rfl
  intro l
  induction l with
  | nil => intro v hv _; exact hv
  | cons r l ih =>
    intro v hv hl
    exact ih (v.countTheRoll r e) (countTheRoll_sound hv r (hl ▸ List.mem_cons_self) e) (countTheRoll_rest hv r l hl e)

/-! ### All requests -/

theorem doLootRelease_sound (hs : s.Sound) (pl : Nat) (source : LootSource) : (s.doLootRelease pl source).Sound := by
  have h1 : Sound { s with hasOpen := Function.update s.hasOpen pl false } :=
    hs.kept rfl rfl (Kept.refl _) hs.lists
      ⟨hs.rolls.past, hs.rolls.guids, hs.rolls.fresh, hs.rolls.slots, hs.rolls.pending⟩
  unfold doLootRelease
  simp only
  split
  · exact h1
  · exact clear_sound h1
  · exact clear_sound h1
  · split
    · exact clear_sound h1
    · exact h1

/-- **A heedful request** keeps handouts and marks in step. -/
theorem step_sound (hs : s.Sound) (r : LootRequest) (hg : s.Heedful r) : (s.step r).Sound := by
  cases r with
  | generate gold drops group allowed rolls => exact generate_sound hs gold drops group allowed rolls
  | sendLoot pl permission allowed => exact sendLoot_sound hs pl permission allowed
  | autostoreLootItem pl lootSlot canStore => exact handleAutostoreLootItem_sound hs pl lootSlot canStore hg
  | lootMoney =>
    exact hs.kept (t := s.handleLootMoney) rfl rfl ⟨fun _ _ it h => ⟨it, h, rfl, id, id⟩, fun _ _ _ h => h⟩ hs.lists
      ⟨hs.rolls.past, hs.rolls.guids, hs.rolls.fresh, hs.rolls.slots, hs.rolls.pending⟩
  | lootMasterGive pl target slotid permitted canStore =>
    exact handleLootMasterGive_sound hs pl target slotid permitted canStore hg
  | rollVote pl itemGUID choice e => exact countRollVote_sound hs pl itemGUID choice e
  | removeMember pl e => exact removeRolls_sound hs pl e
  | endRoll e => exact endRoll_sound hs e
  | lootRelease pl source => exact doLootRelease_sound hs pl source

end

/-! ## Whole runs -/

theorem sound_empty : Sound {} where
  fair := ⟨List.nodup_nil, List.nodup_nil, fun h hm => absurd hm List.not_mem_nil⟩
  past h hm := absurd hm List.not_mem_nil
  taken h hm := absurd hm List.not_mem_nil
  shared h hm := absurd hm List.not_mem_nil
  lists quest pl ql h := by cases quest <;> cases h
  rolls := ⟨fun r hm => absurd hm List.not_mem_nil, List.nodup_nil, fun r hm => absurd hm List.not_mem_nil,
    fun r hm => absurd hm List.not_mem_nil, fun r hm => absurd hm List.not_mem_nil⟩

/-- **Heedful runs hand out fairly**: no item for one player goes out twice, an item for all goes
to each player once and only to those it is listed for. -/
theorem handed_fairly (s : LootRoom) (rs : List LootRequest) (hs : s.Sound)
    (hg : Transition.Along step Heedful s rs) :
    Transition.Along step (fun s r => Fair (s.step r).handed) s rs :=
  Transition.along_of_invariant (I := Sound) (fun _ r hs hg => step_sound hs r hg)
    (fun _ r hs hg => (step_sound hs r hg).fair) hs hg

/-- Two players open a loot with a conditional item, and both take it. -/
def sharedRun : List LootRequest :=
  [.generate 0 [{ itemid := 1, conditionId := 5 }] [1, 2] (fun _ _ => true) none,
    .sendLoot 1 true fun _ => true, .sendLoot 2 true fun _ => true,
    .autostoreLootItem 1 0 true, .autostoreLootItem 2 0 true]

/-- **The second player takes the item again**: the flag of his own list entry, not yet set,
stands for that of the item. -/
theorem handed_twice : ¬Fair (Transition.run step {} sharedRun).handed := by
  intro h
  have hhanded : (Transition.run step {} sharedRun).handed =
      [⟨⟨1, false, 0⟩, 2, false, false⟩, ⟨⟨1, false, 0⟩, 1, false, false⟩] := by decide
  have := h.once
  rw [hhanded] at this
  exact absurd this (by decide)

/-- The first four of these requests are heedful. -/
theorem handed_fairly_sample :
    Transition.Along step (fun s r => Fair (s.step r).handed) {} (sharedRun.take 4) :=
  handed_fairly {} _ sound_empty
    ⟨trivial, trivial, trivial, fun _ _ f hf _ _ => by
      obtain rfl : _ = f := Option.some.inj hf
      decide, trivial⟩

end LootRoom

end BlizzLike
