import BlizzLikeCore.Loot.Unlooted
import BlizzLikeCore.Lib.EarlyReturn

/-!
# Slots within bounds

A client names an item of a loot by its slot.  The autostore request, the master looter's and the rolls look the
slot up in one of the vectors of the loot, with `operator[]`, which checks nothing.  Here they are run with a
check at every lookup, and a lookup past the end is an error.

No run gets one but for a master looter who names the slot behind the last item (`slots_in_bounds_iff`,
`slot_past_the_end`): his handler compares with `>` where `LootItemInSlot` has `>=`.

The invariant is about the shape of a loot: how many items there are, of what kind, and which the lists name.
-/

namespace BlizzLike

/-! ## Checked lookups -/

/-- An index that is past the end of its vector. -/
structure OutOfBounds where
  index : Nat
  size : Nat
  deriving DecidableEq, Repr

/-- `operator[]` with a check. -/
def subscript {α : Type} (xs : List α) (i : Nat) : Except OutOfBounds α :=
  match xs[i]? with
  | some x => .ok x
  | none => .error ⟨i, xs.length⟩

namespace Loot

variable (loot : Loot)

/-- `LootItemInSlot`. -/
def checkedItemInSlot (lootSlot pl : Nat) : Except OutOfBounds (Option Found) :=
  if lootSlot ≥ loot.items.length then
    match loot.playerQuestItems pl with
    | none => .ok none
    | some ql =>
      if lootSlot - loot.items.length < ql.length then do
        let q ← subscript ql (lootSlot - loot.items.length)
        let item ← subscript loot.questItems q.index
        if q.isLooted then .ok none
        else .ok (some
          { item := item, quest := true, index := q.index, qitem := some (lootSlot - loot.items.length) })
      else .ok none
  else do
    let item ← subscript loot.items lootSlot
    if item.freeforall then
      let entry := entryOf (loot.playerFFAItems pl) lootSlot
      if flagOf (loot.playerFFAItems pl) entry item.isLooted then .ok none
      else .ok (some { item := item, quest := false, index := lootSlot, ffaitem := entry })
    else if item.conditionId ≠ 0 then
      let entry := entryOf (loot.playerNonQuestNonFFAConditionalItems pl) lootSlot
      if flagOf (loot.playerNonQuestNonFFAConditionalItems pl) entry item.isLooted then .ok none
      else .ok (some { item := item, quest := false, index := lootSlot, conditem := entry })
    else if item.isLooted then .ok none
    else .ok (some { item := item, quest := false, index := lootSlot })

end Loot

namespace LootRoom

variable (s : LootRoom)

/-- `HandleAutostoreLootItemOpcode`. -/
def checkedAutostoreLootItem (pl lootSlot : Nat) (canStore : Bool) : Except OutOfBounds LootRoom :=
  if s.hasOpen pl = false then .ok s
  else do
    match ← s.loot.checkedItemInSlot lootSlot pl with
    | none => .ok s
    | some f =>
      if f.qitem = none ∧ f.item.isBlocked = true then .ok s
      else if canStore then
        .ok ({ s with loot := s.loot.markLooted pl f }.handOut f.item
          { key := ⟨s.fills, f.quest, f.index⟩, player := pl, freeforall := f.item.freeforall
            listed := f.quest || f.ffaitem.isSome })
      else .ok s

/-- `HandleLootMasterGiveOpcode`. -/
def checkedLootMasterGive (pl target slotid : Nat) (permitted canStore : Bool) : Except OutOfBounds LootRoom :=
  if permitted = false ∨ s.hasOpen pl = false then .ok s
  else if slotid > s.loot.items.length then .ok s
  else do
    let item ← subscript s.loot.items slotid
    if canStore then
      .ok ({ s with
        loot := (s.loot.modifyItem false slotid fun it =>
          { it with count := 0, isLooted := true }).uncount }.handOut item
        { key := ⟨s.fills, false, slotid⟩, player := target, freeforall := item.freeforall
          listed := s.listsFor target slotid })
    else .ok s

/-- `is_blocked = false`. -/
def checkedUnblock (slot : Nat) : Except OutOfBounds LootRoom := do
  let _ ← subscript s.loot.items slot
  .ok (s.unblock slot)

/-- The winner of a roll gets the item. -/
def checkedAward (r : Roll) (kind : RollVote) (e : RollEnd) : Except OutOfBounds LootRoom :=
  match rollWinner r.playerVote kind e.randomN with
  | none => .ok s
  | some winner =>
    if e.online winner then do
      let item ← subscript s.loot.items r.itemSlot
      if e.canStore winner then
        .ok ({ s with
          loot := (s.loot.modifyItem false r.itemSlot fun it => { it with isLooted := true }).uncount }.handOut
          item
          { key := ⟨s.fills, false, r.itemSlot⟩, player := winner, freeforall := item.freeforall
            listed := s.listsFor winner r.itemSlot })
      else s.checkedUnblock r.itemSlot
    else .ok s

/-- `CountTheRoll` but for the removal of the roll. -/
def checkedCountRoll (r : Roll) (e : RollEnd) : Except OutOfBounds LootRoom :=
  if s.isValid r = false then .ok s
  else if r.totalNeed > 0 then s.checkedAward r .need e
  else if r.totalGreed > 0 then s.checkedAward r .greed e
  else s.checkedUnblock r.itemSlot

/-- `CountTheRoll`. -/
def checkedCountTheRoll (r : Roll) (e : RollEnd) : Except OutOfBounds LootRoom := do
  let t ← s.checkedCountRoll r e
  .ok { t with rollId := Rolls.erase s.rollId r }

/-- `CountRollVote`. -/
def checkedCountRollVote (pl itemGUID choice : Nat) (e : RollEnd) : Except OutOfBounds LootRoom :=
  match Rolls.castVote s.rollId s.isValid (fun _ => s.loot.items.isEmpty) pl itemGUID choice with
  | (rolls, none) => .ok { s with rollId := rolls }
  | (rolls, some r) => { s with rollId := rolls }.checkedCountTheRoll r e

/-- `_removeRolls`. -/
def checkedRemoveRolls (pl : Nat) (e : RollEnd) : Except OutOfBounds LootRoom := do
  let (rolls, counted) := Rolls.removeRolls s.rollId s.isValid (fun _ => s.loot.items.isEmpty) pl
  let t ← EarlyReturn.forEach (fun r (v : LootRoom) => v.checkedCountRoll r e) counted s
  .ok { t with rollId := rolls }

/-- `EndRoll`. -/
def checkedEndRoll (e : RollEnd) : Except OutOfBounds LootRoom :=
  EarlyReturn.forEach (fun r (v : LootRoom) => v.checkedCountTheRoll r e) s.rollId s

/-- A request with its lookups checked; those not named here have no slot to look up. -/
def checkedStep : LootRequest → Except OutOfBounds LootRoom
  | .autostoreLootItem pl lootSlot canStore => s.checkedAutostoreLootItem pl lootSlot canStore
  | .lootMasterGive pl target slotid permitted canStore =>
    s.checkedLootMasterGive pl target slotid permitted canStore
  | .rollVote pl itemGUID choice e => s.checkedCountRollVote pl itemGUID choice e
  | .removeMember pl e => s.checkedRemoveRolls pl e
  | .endRoll e => s.checkedEndRoll e
  | r => .ok (s.step r)

/-! ## The law -/

/-- No lookup of the request is past an end. -/
def InBounds (s : LootRoom) (r : LootRequest) : Prop := s.checkedStep r = .ok (s.step r)

/-- The master looter does not name the slot behind the last item. -/
def NamesItem (s : LootRoom) : LootRequest → Prop
  | .lootMasterGive pl _ slotid permitted _ => permitted = true → s.hasOpen pl = true →
      slotid ≠ s.loot.items.length
  | _ => True

end LootRoom

/-! ## The shape of a loot -/

/-- What decides whether an item is for one player: the flag and the condition. -/
def LootItem.kind (it : LootItem) : Bool × Nat := (it.freeforall, it.conditionId)

/-- How many items of what kind there are, and the indices in the lists of each player. -/
structure LootShape where
  kinds : List (Bool × Nat)
  questSize : Nat
  questList : Nat → Option (List Nat)
  ffaList : Nat → Option (List Nat)
  conditionalList : Nat → Option (List Nat)

/-- **A shape the resolver can rely on**: the lists name items that are there, each once and of their kind, and
no slot is past the sixteenth. -/
structure LootShape.Sound (sh : LootShape) : Prop where
  size : sh.kinds.length ≤ maxNrLootItems
  quest : ∀ pl is, sh.questList pl = some is → sh.kinds.length + is.length ≤ maxNrLootItems ∧
    ∀ i ∈ is, i < sh.questSize
  ffa : ∀ pl is, sh.ffaList pl = some is → is.Nodup ∧ ∀ i ∈ is, ∃ k, sh.kinds[i]? = some k ∧ k.1 = true
  conditional : ∀ pl is, sh.conditionalList pl = some is → is.Nodup ∧
    ∀ i ∈ is, ∃ k, sh.kinds[i]? = some k ∧ k.1 = false ∧ k.2 ≠ 0

namespace Loot

variable (l : Loot)

def shape : LootShape where
  kinds := l.items.map LootItem.kind
  questSize := l.questItems.length
  questList pl := (l.playerQuestItems pl).map (List.map QuestItem.index)
  ffaList pl := (l.playerFFAItems pl).map (List.map QuestItem.index)
  conditionalList pl := (l.playerNonQuestNonFFAConditionalItems pl).map (List.map QuestItem.index)

/-! ### Marks leave the shape -/

@[simp] theorem shape_uncount : l.uncount.shape = l.shape := rfl

theorem shape_modifyItem (quest : Bool) (i : Nat) (f : LootItem → LootItem) (hf : ∀ it, (f it).kind = it.kind) :
    (l.modifyItem quest i f).shape = l.shape := by
  unfold modifyItem shape
  cases quest with
  | true => simp
  | false => simp [Counting.map_modify l.items i f LootItem.kind hf]

theorem indices_markEntry (lists : Nat → Option (List QuestItem)) (pl k : Nat) :
    (fun p => (markEntry lists pl k p).map (List.map QuestItem.index)) =
      fun p => (lists p).map (List.map QuestItem.index) :=
  funext (markEntry_indices lists pl k)

theorem shape_markFound (pl : Nat) (f : Found) : (l.markFound pl f).shape = l.shape := by
  unfold markFound shape
  split <;> simp only [indices_markEntry]

theorem shape_markLooted (pl : Nat) (f : Found) : (l.markLooted pl f).shape = l.shape := by
  unfold markLooted
  dsimp only
  rw [shape_uncount]
  split
  · exact l.shape_markFound pl f
  · rw [shape_modifyItem]
    · exact l.shape_markFound pl f
    · exact fun _ => rfl

/-! ### Filling -/

theorem listOf_indices (is : List Nat) : (listOf is).map QuestItem.index = is := by
  unfold listOf
  rw [List.map_map]
  exact List.map_id is

theorem indices_update (lists : Nat → Option (List QuestItem)) (pl : Nat) (is : List Nat) :
    (fun p => (Function.update lists pl (some (listOf is)) p).map (List.map QuestItem.index)) =
      Function.update (fun p => (lists p).map (List.map QuestItem.index)) pl (some is) := by
  funext p
  by_cases hp : p = pl
  · subst hp
    simp only [Function.update_self, Option.map_some, listOf_indices]
  · simp only [Function.update_of_ne hp]

theorem of_update {lists : Nat → Option (List Nat)} {pl : Nat} {js : List Nat} {P : List Nat → Prop} (hjs : P js)
    (hlists : ∀ p is, lists p = some is → P is) (p : Nat) (is : List Nat)
    (h : Function.update lists pl (some js) p = some is) : P is := by
  by_cases he : p = pl
  · subst he
    rw [Function.update_self] at h
    exact Option.some.inj h ▸ hjs
  · rw [Function.update_of_ne he] at h
    exact hlists p is h

variable {l} (pl : Nat) (allowed : LootItem → Bool)

theorem kind_of_getElem? {i : Nat} {it : LootItem} (h : l.items[i]? = some it) :
    l.shape.kinds[i]? = some it.kind := by
  show (l.items.map LootItem.kind)[i]? = some it.kind
  rw [List.getElem?_map, h]
  rfl

theorem fillFFALoot_shape (h : l.shape.Sound) : (l.fillFFALoot pl allowed).shape.Sound := by
  unfold fillFFALoot
  dsimp only
  split
  · exact h
  unfold shape
  rw [indices_update]
  refine ⟨h.size, h.quest, of_update ⟨LootRoom.indicesOf_nodup _ _, fun i hi => ?_⟩ h.ffa, h.conditional⟩
  obtain ⟨it, hit, hpred⟩ := mem_indicesOf.1 hi
  simp only [Bool.and_eq_true] at hpred
  exact ⟨it.kind, kind_of_getElem? hit, hpred.1.2⟩

theorem fillQuestLoot_shape (h : l.shape.Sound) : (l.fillQuestLoot pl allowed).shape.Sound := by
  unfold fillQuestLoot
  split
  · exact h
  dsimp only
  split
  · exact h
  unfold shape
  dsimp only
  rw [indices_update, List.length_mapIdx]
  refine ⟨h.size, of_update ⟨?_, fun i hi => ?_⟩ h.quest, h.ffa, h.conditional⟩
  · have hl : l.items.length ≤ maxNrLootItems := by simpa [shape] using h.size
    rw [List.length_map, List.length_take]
    omega
  · obtain ⟨it, hit, -⟩ := mem_indicesOf.1 (List.mem_of_mem_take hi)
    exact (List.getElem?_eq_some_iff.1 hit).1

theorem fillNonQuestNonFFAConditionalLoot_shape (h : l.shape.Sound) :
    (l.fillNonQuestNonFFAConditionalLoot pl allowed).shape.Sound := by
  unfold fillNonQuestNonFFAConditionalLoot
  dsimp only
  split
  · exact h
  have hkinds : ∀ is : List Nat, (l.items.mapIdx fun i it => if i ∈ is then { it with isCounted := true } else it).map
      LootItem.kind = l.items.map LootItem.kind := by
    intro is
    refine List.ext_getElem? fun i => ?_
    simp only [List.getElem?_map, List.getElem?_mapIdx, Option.map_map]
    cases l.items[i]? with
    | none => rfl
    | some it =>
      simp only [Option.map_some, Function.comp_apply]
      split <;> rfl
  unfold shape
  dsimp only
  rw [hkinds, indices_update]
  refine ⟨h.size, h.quest, h.ffa, of_update ⟨LootRoom.indicesOf_nodup _ _, fun i hi => ?_⟩ h.conditional⟩
  obtain ⟨it, hit, hpred⟩ := mem_indicesOf.1 hi
  simp only [Bool.and_eq_true, Bool.not_eq_true', bne_iff_ne] at hpred
  exact ⟨it.kind, kind_of_getElem? hit, hpred.1.1.2, hpred.1.2⟩

theorem fillLists_shape (h : l.shape.Sound) : (l.fillLists pl allowed).shape.Sound := by
  unfold fillLists
  dsimp only
  have h1 : (if (l.playerQuestItems pl).isNone then l.fillQuestLoot pl allowed else l).shape.Sound := by
    split
    · exact fillQuestLoot_shape pl allowed h
    · exact h
  generalize (if (l.playerQuestItems pl).isNone then l.fillQuestLoot pl allowed else l) = l1 at h1
  have h2 : (if (l1.playerFFAItems pl).isNone then l1.fillFFALoot pl allowed else l1).shape.Sound := by
    split
    · exact fillFFALoot_shape pl allowed h1
    · exact h1
  generalize (if (l1.playerFFAItems pl).isNone then l1.fillFFALoot pl allowed else l1) = l2 at h2
  split
  · exact fillNonQuestNonFFAConditionalLoot_shape pl allowed h2
  · exact h2

/-- No player has a list yet. -/
def Unlisted (l : Loot) : Prop :=
  (∀ pl, l.playerQuestItems pl = none) ∧ (∀ pl, l.playerFFAItems pl = none) ∧
    ∀ pl, l.playerNonQuestNonFFAConditionalItems pl = none

theorem Unlisted.shape_sound (h : l.Unlisted) (hsize : l.items.length ≤ maxNrLootItems) : l.shape.Sound := by
  obtain ⟨h1, h2, h3⟩ := h
  refine ⟨by simpa [shape] using hsize, fun pl is hp => ?_, fun pl is hp => ?_, fun pl is hp => ?_⟩
  · rw [show l.shape.questList pl = none by simp [shape, h1]] at hp; cases hp
  · rw [show l.shape.ffaList pl = none by simp [shape, h2]] at hp; cases hp
  · rw [show l.shape.conditionalList pl = none by simp [shape, h3]] at hp; cases hp

theorem addItems_unlisted (drops : List LootStoreItem) (h : l.Unlisted) (hsize : l.items.length ≤ maxNrLootItems) :
    (drops.foldl addItem l).Unlisted ∧ (drops.foldl addItem l).items.length ≤ maxNrLootItems := by
  induction drops generalizing l with
  | nil => exact ⟨h, hsize⟩
  | cons li drops ih =>
    have hstep : (l.addItem li).Unlisted ∧ (l.addItem li).items.length ≤ maxNrLootItems := by
      unfold addItem
      split
      · split <;> exact ⟨h, hsize⟩
      · split
        · next hlt => exact ⟨h, by simpa using Nat.succ_le_of_lt hlt⟩
        · exact ⟨h, hsize⟩
    exact ih hstep.1 hstep.2

/-- **A generated loot** has a sound shape. -/
theorem fillLoot_shape (gold : Nat) (drops : List LootStoreItem) (group : List Nat)
    (allowed : Nat → LootItem → Bool) : (fillLoot gold drops group allowed).shape.Sound := by
  unfold fillLoot
  obtain ⟨h1, h2⟩ := addItems_unlisted (l := {}) drops ⟨fun _ => rfl, fun _ => rfl, fun _ => rfl⟩ (by decide)
  have h0 : ({ drops.foldl addItem {} with gold := gold } : Loot).shape.Sound := Unlisted.shape_sound h1 h2
  generalize ({ drops.foldl addItem {} with gold := gold } : Loot) = l at h0 ⊢
  induction group generalizing l with
  | nil => exact h0
  | cons pl group ih => exact ih _ (fillLists_shape pl (allowed pl) h0)

end Loot

/-! ## The rolls -/

/-- Rolls for the same items, some of them left out. -/
def Rolls.From (old new : Rolls) : Prop := ∀ q ∈ new, ∃ r ∈ old, q.itemSlot = r.itemSlot ∧ q.fill = r.fill

namespace Rolls

theorem From.refl (rolls : Rolls) : From rolls rolls := fun q hq => ⟨q, hq, rfl, rfl⟩

theorem From.trans {a b c : Rolls} (h : From a b) (k : From b c) : From a c := by
  intro q hq
  obtain ⟨r, hr, h1, h2⟩ := k q hq
  obtain ⟨p, hp, h3, h4⟩ := h r hr
  exact ⟨p, hp, h1.trans h3, h2.trans h4⟩

theorem From.sublist {a b c : Rolls} (h : From a b) (hs : c.Sublist b) : From a c := fun q hq => h q (hs.subset hq)

variable (rolls : Rolls) (isValid itemsEmpty : Roll → Bool)

theorem castVote_from (pl guid choice : Nat) :
    From rolls (castVote rolls isValid itemsEmpty pl guid choice).1 ∧
      ∀ r, (castVote rolls isValid itemsEmpty pl guid choice).2 = some r → From rolls [r] := by
  rcases castVote_spec rolls isValid itemsEmpty pl guid choice with h | ⟨r, hr, -, -, -, -, h⟩
  · rw [h]
    exact ⟨From.refl rolls, nofun⟩
  · have hsame := LootRoom.record_sameRoll r pl choice
    rw [h]
    refine ⟨fun q hq => ?_, fun q hq p hp => ?_⟩
    · obtain ⟨p, hp, rfl⟩ := List.mem_map.1 hq
      split
      · exact ⟨r, hr, hsame.2.1, hsame.2.2⟩
      · exact ⟨p, hp, rfl, rfl⟩
    · obtain rfl := List.mem_singleton.1 hp
      dsimp only at hq
      split at hq
      · cases hq
        exact ⟨r, hr, hsame.2.1, hsame.2.2⟩
      · cases hq

theorem removeVoter_from (pl i : Nat) (acc : Rolls × List Roll) (h1 : From rolls acc.1) (h2 : From rolls acc.2) :
    From rolls (removeVoter isValid itemsEmpty pl acc i).1 ∧ From rolls (removeVoter isValid itemsEmpty pl acc i).2 := by
  unfold removeVoter
  split
  · exact ⟨h1, h2⟩
  next roll hroll =>
  split
  · exact ⟨h1, h2⟩
  next vote hvote =>
  have hset : From rolls (acc.1.set i (roll.leave pl vote)) := by
    intro q hq
    rcases List.mem_or_eq_of_mem_set hq with hq | rfl
    · exact h1 q hq
    · exact h1 roll (List.mem_of_getElem? hroll)
  obtain ⟨hc1, hc2⟩ := castVote_from (acc.1.set i (roll.leave pl vote)) isValid itemsEmpty pl roll.itemGUID 3
  split
  · next rs hcast =>
    rw [hcast] at hc1
    exact ⟨hset.trans hc1, h2⟩
  · next rs r hcast =>
    rw [hcast] at hc1 hc2
    refine ⟨(hset.trans hc1).sublist List.filter_sublist, fun q hq => ?_⟩
    rcases List.mem_append.1 hq with hq | hq
    · exact h2 q hq
    · exact hset.trans (hc2 r rfl) q hq

/-- **All rolls of a run are for what there were rolls for** before a member left. -/
theorem removeRolls_from (pl : Nat) : From rolls (removeRolls rolls isValid itemsEmpty pl).1 ∧
    From rolls (removeRolls rolls isValid itemsEmpty pl).2 := by
  unfold removeRolls
  suffices h : ∀ (is : List Nat) (acc : Rolls × List Roll), From rolls acc.1 → From rolls acc.2 →
      From rolls (is.foldl (removeVoter isValid itemsEmpty pl) acc).1 ∧
        From rolls (is.foldl (removeVoter isValid itemsEmpty pl) acc).2 from
    h _ (rolls, []) (From.refl rolls) nofun
  intro is
  induction is with
  | nil => exact fun acc h1 h2 => ⟨h1, h2⟩
  | cons i is ih =>
    intro acc h1 h2
    obtain ⟨k1, k2⟩ := removeVoter_from rolls isValid itemsEmpty pl i acc h1 h2
    exact ih _ k1 k2

end Rolls

namespace LootRoom

variable {s t : LootRoom}

/-- A roll for the present contents is for an item that is there. -/
def Within (s : LootRoom) (r : Roll) : Prop :=
  r.fill ≤ s.fills ∧ (r.fill = s.fills → r.itemSlot < s.loot.shape.kinds.length)

/-- **The invariant.** -/
structure Shaped (s : LootRoom) : Prop where
  loot : s.loot.shape.Sound
  rolls : ∀ r ∈ s.rollId, s.Within r

/-- The same contents, whatever is marked. -/
structure SameContents (s t : LootRoom) : Prop where
  shape : t.loot.shape = s.loot.shape
  fills : t.fills = s.fills

theorem SameContents.refl (s : LootRoom) : SameContents s s := ⟨rfl, rfl⟩

theorem SameContents.trans {u : LootRoom} (h : SameContents s t) (k : SameContents t u) : SameContents s u :=
  ⟨k.shape.trans h.shape, k.fills.trans h.fills⟩

theorem SameContents.within (h : SameContents s t) {r : Roll} (hr : s.Within r) : t.Within r := by
  unfold Within
  rw [h.shape, h.fills]
  exact hr

theorem Shaped.same (hs : s.Shaped) (h : SameContents s t) (hrolls : Rolls.From s.rollId t.rollId) : t.Shaped := by
  refine ⟨h.shape ▸ hs.loot, fun q hq => ?_⟩
  obtain ⟨r, hr, h1, h2⟩ := hrolls q hq
  unfold Within
  rw [h1, h2]
  exact h.within (hs.rolls r hr)

theorem handOut_contents (item : LootItem) (h : Handout) : SameContents s (s.handOut item h) := by
  unfold handOut
  split <;> exact ⟨rfl, rfl⟩

theorem handOut_rollId (item : LootItem) (h : Handout) : (s.handOut item h).rollId = s.rollId := by
  unfold handOut
  split <;> rfl

theorem modifyItem_contents (quest : Bool) (i : Nat) (f : LootItem → LootItem) (hf : ∀ it, (f it).kind = it.kind) :
    SameContents s { s with loot := s.loot.modifyItem quest i f } :=
  ⟨s.loot.shape_modifyItem quest i f hf, rfl⟩

theorem award_contents (r : Roll) (kind : RollVote) (e : RollEnd) : SameContents s (s.award r kind e) := by
  unfold award
  split
  · exact SameContents.refl s
  split
  · split
    · exact SameContents.refl s
    split
    · refine SameContents.trans ?_ (handOut_contents ..)
      exact ⟨s.loot.shape_modifyItem false r.itemSlot _ fun _ => rfl, rfl⟩
    · exact modifyItem_contents false r.itemSlot _ fun _ => rfl
  · exact SameContents.refl s

theorem countRoll_contents (r : Roll) (e : RollEnd) : SameContents s (s.countRoll r e) := by
  unfold countRoll
  split
  · exact SameContents.refl s
  split
  · exact award_contents r .need e
  split
  · exact award_contents r .greed e
  · exact modifyItem_contents false r.itemSlot _ fun _ => rfl

theorem countTheRoll_contents (r : Roll) (e : RollEnd) : SameContents s (s.countTheRoll r e) :=
  ⟨(countRoll_contents r e).shape, (countRoll_contents r e).fills⟩

/-! ## The steps -/

theorem clear_shaped (hs : s.Shaped) : s.clear.Shaped := by
  refine ⟨Loot.Unlisted.shape_sound ⟨fun _ => rfl, fun _ => rfl, fun _ => rfl⟩ (Nat.zero_le _), fun r hr => ?_⟩
  obtain ⟨h1, -⟩ := hs.rolls r hr
  exact ⟨Nat.le_succ_of_le h1, fun he => absurd he (Nat.ne_of_lt (Nat.lt_succ_of_le h1))⟩

theorem startRolls_shaped (hs : s.Shaped) (needBeforeGreed : Bool) (view : GroupView)
    (allowed : Nat → LootItem → Bool) : (s.startRolls needBeforeGreed view allowed).Shaped := by
  have hmark : ∀ rolled it, (rollMark view rolled it).kind = it.kind := by
    intro rolled it
    unfold rollMark
    split
    · rfl
    · split
      · split <;> rfl
      · rfl
  have hshape : (s.startRolls needBeforeGreed view allowed).loot.shape = s.loot.shape := by
    unfold startRolls Loot.shape
    simp only [List.map_map, Function.comp_def, hmark]
  refine ⟨hshape ▸ hs.loot, fun r hr => ?_⟩
  unfold Within
  rw [hshape]
  rcases List.mem_append.1 hr with hr | hr
  · exact hs.rolls r hr
  · obtain ⟨e, he, rfl⟩ := List.mem_map.1 hr
    have hat := List.mem_zipIdx_iff_getElem?.1 (List.mem_filter.1 he).1
    refine ⟨le_refl _, fun _ => ?_⟩
    show e.2 < (s.loot.items.map LootItem.kind).length
    rw [List.length_map]
    exact (List.getElem?_eq_some_iff.1 hat).1

theorem generate_shaped (hs : s.Shaped) (gold : Nat) (drops : List LootStoreItem) (group : List Nat)
    (allowed : Nat → LootItem → Bool) (rolls : Option (Bool × GroupView)) :
    (s.generate gold drops group allowed rolls).Shaped := by
  have hcl := clear_shaped hs
  have hfilled : Shaped { s.clear with loot := Loot.fillLoot gold drops group allowed } := by
    refine ⟨Loot.fillLoot_shape gold drops group allowed, fun r hr => ?_⟩
    obtain ⟨h1, -⟩ := hs.rolls r hr
    exact ⟨(hcl.rolls r hr).1, fun he => absurd he (Nat.ne_of_lt (Nat.lt_succ_of_le h1))⟩
  unfold generate
  dsimp only
  split
  · exact hfilled
  · exact startRolls_shaped hfilled false _ allowed
  · exact startRolls_shaped hfilled true _ allowed

theorem sendLoot_shaped (hs : s.Shaped) (pl : Nat) (permission : Bool) (allowed : LootItem → Bool) :
    (s.sendLoot pl permission allowed).Shaped := by
  cases permission with
  | false => exact ⟨hs.loot, hs.rolls⟩
  | true =>
    refine ⟨Loot.fillLists_shape pl allowed hs.loot, fun r hr => ?_⟩
    obtain ⟨h1, h2⟩ := hs.rolls r hr
    refine ⟨h1, fun he => ?_⟩
    have hlt : r.itemSlot < s.loot.items.length := by simpa [Loot.shape] using h2 he
    obtain ⟨it, hit, -⟩ := (fillLists_filled s.loot pl allowed).items r.itemSlot _ (List.getElem?_eq_getElem hlt)
    show r.itemSlot < ((s.loot.fillLists pl allowed).items.map LootItem.kind).length
    rw [List.length_map]
    exact (List.getElem?_eq_some_iff.1 hit).1

theorem endRoll_contents (rolls : List Roll) (e : RollEnd) :
    SameContents s (rolls.foldl (fun v r => v.countTheRoll r e) s) ∧
      (rolls.foldl (fun v r => v.countTheRoll r e) s).rollId.Sublist s.rollId := by
  induction rolls generalizing s with
  | nil => exact ⟨SameContents.refl s, List.Sublist.refl _⟩
  | cons r rolls ih =>
    obtain ⟨h1, h2⟩ := ih (s := s.countTheRoll r e)
    exact ⟨(countTheRoll_contents r e).trans h1, h2.trans List.filter_sublist⟩

theorem countRolls_contents (rolls : List Roll) (e : RollEnd) :
    SameContents s (rolls.foldl (fun v r => v.countRoll r e) s) := by
  induction rolls generalizing s with
  | nil => exact SameContents.refl s
  | cons r rolls ih => exact (countRoll_contents r e).trans ih

theorem doLootRelease_shaped (hs : s.Shaped) (pl : Nat) (source : LootSource) : (s.doLootRelease pl source).Shaped := by
  have h1 : Shaped { s with hasOpen := Function.update s.hasOpen pl false } := ⟨hs.loot, hs.rolls⟩
  unfold doLootRelease
  dsimp only
  split
  · exact h1
  · exact clear_shaped h1
  · exact clear_shaped h1
  · split
    · exact clear_shaped h1
    · exact h1

theorem handleAutostoreLootItem_contents (pl slot : Nat) (canStore : Bool) :
    SameContents s (s.handleAutostoreLootItem pl slot canStore) ∧
      (s.handleAutostoreLootItem pl slot canStore).rollId = s.rollId := by
  unfold handleAutostoreLootItem
  split
  · exact ⟨SameContents.refl s, rfl⟩
  split
  · exact ⟨SameContents.refl s, rfl⟩
  next f hf =>
  split
  · exact ⟨SameContents.refl s, rfl⟩
  split
  · refine ⟨SameContents.trans ?_ (handOut_contents ..), handOut_rollId ..⟩
    exact ⟨s.loot.shape_markLooted pl f, rfl⟩
  · exact ⟨SameContents.refl s, rfl⟩

theorem handleLootMasterGive_contents (pl target slotid : Nat) (permitted canStore : Bool) :
    SameContents s (s.handleLootMasterGive pl target slotid permitted canStore) ∧
      (s.handleLootMasterGive pl target slotid permitted canStore).rollId = s.rollId := by
  unfold handleLootMasterGive
  split
  · exact ⟨SameContents.refl s, rfl⟩
  split
  · exact ⟨SameContents.refl s, rfl⟩
  split
  · exact ⟨SameContents.refl s, rfl⟩
  next item hitem =>
  split
  · refine ⟨SameContents.trans ?_ (handOut_contents ..), handOut_rollId ..⟩
    exact ⟨s.loot.shape_modifyItem false slotid _ fun _ => rfl, rfl⟩
  · exact ⟨SameContents.refl s, rfl⟩

theorem countRollVote_shaped (hs : s.Shaped) (pl guid choice : Nat) (e : RollEnd) :
    (s.countRollVote pl guid choice e).Shaped := by
  obtain ⟨h1, -⟩ := Rolls.castVote_from s.rollId s.isValid (fun _ => s.loot.items.isEmpty) pl guid choice
  unfold countRollVote
  split
  · next rolls hc =>
    rw [hc] at h1
    exact hs.same ⟨rfl, rfl⟩ h1
  · next rolls r hc =>
    rw [hc] at h1
    have hsame := countTheRoll_contents (s := { s with rollId := rolls }) r e
    exact hs.same ⟨hsame.shape, hsame.fills⟩ (h1.sublist List.filter_sublist)

/-- **Every request keeps the shape.** -/
theorem step_shaped (hs : s.Shaped) (r : LootRequest) : (s.step r).Shaped := by
  cases r with
  | generate gold drops group allowed rolls => exact generate_shaped hs gold drops group allowed rolls
  | sendLoot pl permission allowed => exact sendLoot_shaped hs pl permission allowed
  | autostoreLootItem pl slot canStore =>
    obtain ⟨h1, h2⟩ := handleAutostoreLootItem_contents (s := s) pl slot canStore
    exact hs.same h1 (h2 ▸ Rolls.From.refl _)
  | lootMoney => exact ⟨hs.loot, hs.rolls⟩
  | lootMasterGive pl target slotid permitted canStore =>
    obtain ⟨h1, h2⟩ := handleLootMasterGive_contents (s := s) pl target slotid permitted canStore
    exact hs.same h1 (h2 ▸ Rolls.From.refl _)
  | rollVote pl guid choice e => exact countRollVote_shaped hs pl guid choice e
  | removeMember pl e =>
    obtain ⟨h1, -⟩ := Rolls.removeRolls_from s.rollId s.isValid (fun _ => s.loot.items.isEmpty) pl
    have hsame := countRolls_contents (s := s)
      (Rolls.removeRolls s.rollId s.isValid (fun _ => s.loot.items.isEmpty) pl).2 e
    exact hs.same ⟨hsame.shape, hsame.fills⟩ h1
  | endRoll e =>
    obtain ⟨h1, h2⟩ := endRoll_contents (s := s) s.rollId e
    exact hs.same h1 ((Rolls.From.refl _).sublist h2)
  | lootRelease pl source => exact doLootRelease_shaped hs pl source

/-! ## No lookup fails -/

theorem subscript_of_getElem? {α : Type} {xs : List α} {i : Nat} {x : α} (h : xs[i]? = some x) :
    subscript xs i = .ok x := by
  unfold subscript
  rw [h]

/-- **`LootItemInSlot` looks up what is there**, whatever the slot. -/
theorem checkedItemInSlot_eq {l : Loot} (h : l.shape.Sound) (slot pl : Nat) :
    l.checkedItemInSlot slot pl = .ok (l.lootItemInSlot slot pl) := by
  unfold Loot.checkedItemInSlot Loot.lootItemInSlot
  split
  · cases hql : l.playerQuestItems pl with
    | none => rfl
    | some ql =>
      dsimp only
      split
      · next hlt =>
        have hq := List.getElem?_eq_getElem hlt
        obtain ⟨-, hin⟩ := h.quest pl (ql.map QuestItem.index) (by simp [Loot.shape, hql])
        have hindex := hin _ (List.mem_map_of_mem (List.mem_of_getElem? hq))
        have hitem := List.getElem?_eq_getElem (l := l.questItems) hindex
        rw [subscript_of_getElem? hq, hq]
        dsimp only
        simp only [bind, Except.bind, subscript_of_getElem? hitem, hitem]
        split <;> rfl
      · next hge =>
        rw [List.getElem?_eq_none (Nat.le_of_not_lt hge)]
  · next hlt =>
    have hitem := List.getElem?_eq_getElem (Nat.lt_of_not_le hlt)
    rw [subscript_of_getElem? hitem, hitem]
    simp only [bind, Except.bind]
    split
    · split <;> rfl
    split
    · split <;> rfl
    split <;> rfl

theorem checkedAutostoreLootItem_eq (hs : s.Shaped) (pl slot : Nat) (canStore : Bool) :
    s.checkedAutostoreLootItem pl slot canStore = .ok (s.handleAutostoreLootItem pl slot canStore) := by
  unfold checkedAutostoreLootItem handleAutostoreLootItem
  rw [checkedItemInSlot_eq hs.loot]
  simp only [bind, Except.bind]
  split
  · rfl
  cases s.loot.lootItemInSlot slot pl with
  | none => rfl
  | some f =>
    dsimp only
    split
    · rfl
    split <;> rfl

/-- **The master looter's request fails just past the end.** -/
theorem checkedLootMasterGive_eq_iff (pl target slotid : Nat) (permitted canStore : Bool) :
    s.checkedLootMasterGive pl target slotid permitted canStore =
        .ok (s.handleLootMasterGive pl target slotid permitted canStore) ↔
      (permitted = true → s.hasOpen pl = true → slotid ≠ s.loot.items.length) := by
  unfold checkedLootMasterGive handleLootMasterGive
  split
  · next h =>
    refine ⟨fun _ hp ho => ?_, fun _ => rfl⟩
    rcases h with h | h
    · rw [hp] at h; cases h
    · rw [ho] at h; cases h
  next hok =>
  have hp : permitted = true := by
    cases permitted with
    | true => rfl
    | false => exact absurd (Or.inl rfl) hok
  have ho : s.hasOpen pl = true := by
    cases ho : s.hasOpen pl with
    | true => rfl
    | false => exact absurd (Or.inr ho) hok
  split
  · next hgt => exact ⟨fun _ _ _ he => absurd he (Nat.ne_of_gt hgt), fun _ => rfl⟩
  next hle =>
  cases hitem : s.loot.items[slotid]? with
  | none =>
    have hge := List.getElem?_eq_none_iff.1 hitem
    refine ⟨fun h => ?_, fun h => absurd (Nat.le_antisymm (Nat.le_of_not_lt hle) hge) (h hp ho)⟩
    simp only [subscript, hitem, bind, Except.bind] at h
    cases h
  | some item =>
    rw [subscript_of_getElem? hitem]
    simp only [bind, Except.bind]
    refine ⟨fun _ _ _ he => ?_, fun _ => by split <;> rfl⟩
    have hlt := (List.getElem?_eq_some_iff.1 hitem).1
    omega

theorem checkedUnblock_eq {slot : Nat} (h : slot < s.loot.items.length) : s.checkedUnblock slot = .ok (s.unblock slot) := by
  unfold checkedUnblock
  rw [subscript_of_getElem? (List.getElem?_eq_getElem h)]
  rfl

theorem checkedAward_eq (r : Roll) (h : r.itemSlot < s.loot.items.length) (kind : RollVote) (e : RollEnd) :
    s.checkedAward r kind e = .ok (s.award r kind e) := by
  have hitem := List.getElem?_eq_getElem h
  unfold checkedAward award
  cases rollWinner r.playerVote kind e.randomN with
  | none => rfl
  | some winner =>
    dsimp only
    split
    · rw [subscript_of_getElem? hitem, hitem]
      simp only [bind, Except.bind]
      split
      · rfl
      · exact checkedUnblock_eq h
    · rfl

/-- **Counting a roll looks up the item it is for.** -/
theorem checkedCountRoll_eq (r : Roll) (h : s.Within r) (e : RollEnd) : s.checkedCountRoll r e = .ok (s.countRoll r e) := by
  unfold checkedCountRoll countRoll
  split
  · rfl
  next hv =>
  have hfill : r.fill = s.fills := by simpa [isValid] using hv
  have hlt : r.itemSlot < s.loot.items.length := by simpa [Loot.shape] using h.2 hfill
  split
  · exact checkedAward_eq r hlt .need e
  split
  · exact checkedAward_eq r hlt .greed e
  · exact checkedUnblock_eq hlt

theorem checkedCountTheRoll_eq (r : Roll) (h : s.Within r) (e : RollEnd) :
    s.checkedCountTheRoll r e = .ok (s.countTheRoll r e) := by
  unfold checkedCountTheRoll
  rw [checkedCountRoll_eq r h e]
  rfl

theorem forEach_eq (rolls : List Roll) (f : Roll → LootRoom → Except OutOfBounds LootRoom) (g : Roll → LootRoom → LootRoom)
    (hf : ∀ r v, Within v r → f r v = .ok (g r v)) (hg : ∀ r v, SameContents v (g r v)) (hin : ∀ r ∈ rolls, s.Within r) :
    EarlyReturn.forEach f rolls s = .ok (rolls.foldl (fun v r => g r v) s) := by
  induction rolls generalizing s with
  | nil => rfl
  | cons r rolls ih =>
    rw [EarlyReturn.forEach, hf r s (hin r (List.mem_cons_self ..))]
    exact ih fun q hq => (hg r s).within (hin q (List.mem_cons_of_mem _ hq))

theorem within_of_from (hs : s.Shaped) {rolls : Rolls} (h : Rolls.From s.rollId rolls) (r : Roll) (hr : r ∈ rolls) :
    s.Within r := by
  obtain ⟨q, hq, h1, h2⟩ := h r hr
  unfold Within
  rw [h1, h2]
  exact hs.rolls q hq

theorem checkedCountRollVote_eq (hs : s.Shaped) (pl guid choice : Nat) (e : RollEnd) :
    s.checkedCountRollVote pl guid choice e = .ok (s.countRollVote pl guid choice e) := by
  obtain ⟨-, h2⟩ := Rolls.castVote_from s.rollId s.isValid (fun _ => s.loot.items.isEmpty) pl guid choice
  unfold checkedCountRollVote countRollVote
  cases hc : Rolls.castVote s.rollId s.isValid (fun _ => s.loot.items.isEmpty) pl guid choice with
  | mk rolls counted =>
    cases counted with
    | none => rfl
    | some r =>
      rw [hc] at h2
      have hin : Within { s with rollId := rolls } r := within_of_from hs (h2 r rfl) r (List.mem_singleton.2 rfl)
      exact checkedCountTheRoll_eq r hin e

theorem checkedRemoveRolls_eq (hs : s.Shaped) (pl : Nat) (e : RollEnd) :
    s.checkedRemoveRolls pl e = .ok (s.removeRolls pl e) := by
  obtain ⟨-, h2⟩ := Rolls.removeRolls_from s.rollId s.isValid (fun _ => s.loot.items.isEmpty) pl
  unfold checkedRemoveRolls removeRolls
  dsimp only
  rw [forEach_eq _ _ (fun r v => v.countRoll r e) (fun r v h => checkedCountRoll_eq r h e)
    (fun r _ => countRoll_contents r e) (within_of_from hs h2)]
  rfl

theorem checkedEndRoll_eq (hs : s.Shaped) (e : RollEnd) : s.checkedEndRoll e = .ok (s.endRoll e) :=
  forEach_eq s.rollId _ (fun r v => v.countTheRoll r e) (fun r _ h => checkedCountTheRoll_eq r h e)
    (fun r _ => countTheRoll_contents r e) hs.rolls

/-- **A request stays within bounds just if it names an item.** -/
theorem inBounds_iff (hs : s.Shaped) (r : LootRequest) : s.InBounds r ↔ s.NamesItem r := by
  cases r with
  | autostoreLootItem pl slot canStore => exact ⟨fun _ => trivial, fun _ => checkedAutostoreLootItem_eq hs pl slot canStore⟩
  | lootMasterGive pl target slotid permitted canStore =>
    exact checkedLootMasterGive_eq_iff pl target slotid permitted canStore
  | rollVote pl guid choice e => exact ⟨fun _ => trivial, fun _ => checkedCountRollVote_eq hs pl guid choice e⟩
  | removeMember pl e => exact ⟨fun _ => trivial, fun _ => checkedRemoveRolls_eq hs pl e⟩
  | endRoll e => exact ⟨fun _ => trivial, fun _ => checkedEndRoll_eq hs e⟩
  | generate | sendLoot | lootMoney | lootRelease => exact ⟨fun _ => trivial, fun _ => rfl⟩

theorem shaped_empty : Shaped {} :=
  ⟨Loot.Unlisted.shape_sound ⟨fun _ => rfl, fun _ => rfl, fun _ => rfl⟩ (Nat.zero_le _), nofun⟩

/-! ## Top theorems -/

/-- **All lookups of a run are within bounds** just if no master looter names the slot behind the last item. -/
theorem slots_in_bounds_iff (rs : List LootRequest) :
    Transition.Along step InBounds {} rs ↔ Transition.Along step NamesItem {} rs :=
  Transition.along_iff_of_invariant (fun _ r hs _ => step_shaped hs r) (fun _ r hs => inBounds_iff hs r) shaped_empty

/-- **Past the end**: of one item, the master looter gives the second. -/
theorem slot_past_the_end : ¬ Transition.Along step InBounds {}
    [.generate 0 [{ itemid := 7 }] [] (fun _ _ => true) none, .sendLoot 1 true fun _ => true,
      .lootMasterGive 1 2 1 true true] := by
  rintro ⟨-, -, h, -⟩
  have h' := (checkedLootMasterGive_eq_iff (s := _) 1 2 1 true true).1 h rfl rfl
  exact h' rfl

end LootRoom

end BlizzLike
