import BlizzLikeCore.Loot.LootStore
import Mathlib.Tactic.NormNum

/-!
# The conditions of loot

A row's condition is looked up in the store of all conditions, which takes it in when it is new, and only its
place there goes on: to the `LootStoreItem`, to the `LootItem` made of it, and back to the condition when a
player looks at the item.  The constructor of `LootStoreItem` takes the place as a `uint8`, so that from the
257th condition on it is the place of another one (`condition_kept_iff`).
-/

namespace BlizzLike

structure PlayerCondition where
  condition : Nat
  value1 : Nat
  value2 : Nat
  deriving DecidableEq

/-- What conditions and items ask about a player and the server. -/
structure ConditionView where
  hasAura : Nat → Nat → Bool
  hasItemCount : Nat → Nat → Bool
  itemOrGemEquipped : Nat → Bool
  zoneId : Nat
  reputationRank : Nat → Option Nat
  team : Nat
  hasSkill : Nat → Bool
  baseSkillValue : Nat → Nat
  questRewardStatus : Nat → Bool
  /-- `GetQuestStatus`, of which `QUEST_STATUS_NONE` is 0 and `QUEST_STATUS_INCOMPLETE` 3. -/
  questStatus : Nat → Nat
  commissionAura : Bool
  isActiveEvent : Nat → Bool
  instanceData : Option (Nat → Nat)
  hasQuestForItem : Nat → Bool
  /-- `StartQuest` of an item's prototype, 0 without one. -/
  startQuest : Nat → Nat

namespace PlayerCondition

def meets (c : PlayerCondition) (v : ConditionView) : Bool :=
  match c.condition with
  | 0 => true
  | 1 => v.hasAura c.value1 c.value2
  | 2 => v.hasItemCount c.value1 c.value2
  | 3 => v.itemOrGemEquipped c.value1
  | 4 => v.zoneId == c.value1
  | 5 => (v.reputationRank c.value1).any fun rank => decide (rank ≥ c.value2)
  | 6 => v.team == c.value1
  | 7 => v.hasSkill c.value1 && decide (v.baseSkillValue c.value1 ≥ c.value2)
  | 8 => v.questRewardStatus c.value1
  | 9 => v.questStatus c.value1 == 3
  | 10 => v.commissionAura
  | 11 => !v.hasAura c.value1 c.value2
  | 12 => v.isActiveEvent c.value1
  | 13 => v.instanceData.any fun data => data c.value1 == c.value2
  | _ => false

end PlayerCondition

/-! ## The store of conditions -/

inductive ConditionSearch where
  | found (i : Nat)
  | missing
  | endless

/-- The search of `GetConditionId`, with an `uint16` for the place: after 65536 turns it begins again. -/
def searchConditions (conditions : List PlayerCondition) (lc : PlayerCondition) : Nat → Nat → ConditionSearch
  | 0, _ => .endless
  | n + 1, i =>
    match conditions[i]? with
    | some c => if lc = c then .found i else searchConditions conditions lc n ((i + 1) % 65536)
    | none => .missing

/-- `GetConditionId`: the place of a condition, and the store with it; nothing when the search does not end. -/
def getConditionId (conditions : List PlayerCondition) (lc : PlayerCondition) :
    Option (Nat × List PlayerCondition) :=
  match searchConditions conditions lc 65537 0 with
  | .found i => some (i, conditions)
  | .missing =>
    let conditions := conditions ++ [lc]
    some (if conditions.length > 0xFFFF then 0 else conditions.length - 1, conditions)
  | .endless => none

def isPlayerMeetToCondition (conditions : List PlayerCondition) (v : ConditionView) (conditionId : Nat) : Bool :=
  match conditions[conditionId]? with
  | some c => c.meets v
  | none => false

/-! ## Loading and looking -/

def LootRow.playerCondition (row : LootRow) : PlayerCondition :=
  ⟨u8 row.lootcondition, row.conditionValue1, row.conditionValue2⟩

/-- The store of conditions, and the rows that were loaded with the `LootStoreItem` made of each. -/
structure LoadedLoot where
  conditions : List PlayerCondition := [⟨0, 0, 0⟩]
  items : List (LootRow × LootTableItem) := []

/-- A row of a loot table is loaded, or a condition of another table. -/
inductive ConditionLoad where
  | row (row : LootRow)
  | other (lc : PlayerCondition)

namespace LoadedLoot

/-- A row in `LoadLootTable`. -/
def loadRow (w : LootWorld) (s : LoadedLoot) (row : LootRow) : Option LoadedLoot :=
  if w.isValidCondition row.lootcondition row.conditionValue1 row.conditionValue2 = false then some s
  else
    match getConditionId s.conditions row.playerCondition with
    | some (id, conditions) =>
      let storeitem := LootTableItem.ofRow { w with getConditionId := fun _ _ _ => id } row
      if (storeitem.isValid w row.entry).1 then some { conditions, items := s.items ++ [(row, storeitem)] }
      else some { s with conditions }
    | none => none

def step (w : LootWorld) (s : LoadedLoot) : ConditionLoad → Option LoadedLoot
  | .row row => s.loadRow w row
  | .other lc => (getConditionId s.conditions lc).map fun r => { s with conditions := r.2 }

def load (w : LootWorld) : LoadedLoot → List ConditionLoad → Option LoadedLoot
  | s, [] => some s
  | s, l :: ls => (s.step w l).bind fun s => load w s ls

end LoadedLoot

/-- The quests' part of `AllowedForPlayer`. -/
def questAllows (v : ConditionView) (needsQuest : Bool) (itemid : Nat) : Bool :=
  if needsQuest then v.hasQuestForItem itemid
  else !(v.startQuest itemid != 0 && v.questStatus (v.startQuest itemid) != 0 && !v.hasQuestForItem itemid)

def LootItem.allowedForPlayer (it : LootItem) (conditions : List PlayerCondition) (v : ConditionView) : Bool :=
  isPlayerMeetToCondition conditions v it.conditionId && questAllows v it.needsQuest it.itemid

/-- A `LootItem` made of a row's `LootStoreItem`. -/
def LootTableItem.generate (e : LootTableItem) (count : Nat) (partyLoot : Bool) : LootItem :=
  Loot.newItem { itemid := e.itemid, conditionId := e.conditionId, needsQuest := e.needsQuest, count, partyLoot }

/-- The place kept for a row is that of its condition, and each item made of the row is for those who meet it. -/
structure ConditionKept (conditions : List PlayerCondition) (row : LootRow) (e : LootTableItem) : Prop where
  identified : conditions[e.conditionId]? = some row.playerCondition
  allowed : ∀ count partyLoot v, (e.generate count partyLoot).allowedForPlayer conditions v =
    (row.playerCondition.meets v && questAllows v e.needsQuest e.itemid)

/-! ## The search -/

section
variable {conditions : List PlayerCondition} {lc : PlayerCondition}

theorem search_found {n i j : Nat} (h : searchConditions conditions lc n i = .found j) :
    conditions[j]? = some lc := by
  induction n generalizing i with
  | zero => cases h
  | succ n ih =>
    unfold searchConditions at h
    split at h
    · next c hc =>
      split at h
      · next heq =>
        cases h
        rw [hc, heq]
      · exact ih h
    · cases h

theorem search_missing {n i : Nat} (h : searchConditions conditions lc n i = .missing) (hi : i < 65536)
    (hbefore : ∀ j < i, conditions[j]? ≠ some lc) : lc ∉ conditions ∧ conditions.length < 65536 := by
  induction n generalizing i with
  | zero => cases h
  | succ n ih =>
    unfold searchConditions at h
    split at h
    · next c hc =>
      split at h
      · cases h
      · next hne =>
        refine ih h (Nat.mod_lt _ (by decide)) fun j hj hlc => ?_
        rcases Nat.lt_or_ge j i with hji | hji
        · exact hbefore j hji hlc
        · -- the place at which the search was
          have hj' : j = i := by omega
          rw [hj', hc] at hlc
          exact hne (Option.some.inj hlc).symm
    · next hnone =>
      have hlen := List.getElem?_eq_none_iff.1 hnone
      refine ⟨fun hmem => ?_, by omega⟩
      obtain ⟨j, hj⟩ := List.mem_iff_getElem?.1 hmem
      obtain ⟨hlt, -⟩ := List.getElem?_eq_some_iff.1 hj
      exact hbefore j (by omega) hj

/-- The place of a condition in a store that holds each once. -/
theorem idxOf_eq_place (hnodup : conditions.Nodup) {j : Nat} (h : conditions[j]? = some lc) :
    conditions.idxOf lc = j := by
  obtain ⟨hlt, hat⟩ := List.getElem?_eq_some_iff.1 h
  rw [← hat]
  exact hnodup.idxOf_getElem j hlt

theorem place_holds (h : lc ∈ conditions) : conditions[conditions.idxOf lc]? = some lc := by
  rw [List.getElem?_eq_getElem (List.idxOf_lt_length_iff.2 h), List.getElem_idxOf]

/-- **`GetConditionId`** returns the condition's place, but 0 for the place 65535 when that is new. -/
theorem getConditionId_spec {conditions' : List PlayerCondition} {id : Nat} (hnodup : conditions.Nodup)
    (h : getConditionId conditions lc = some (id, conditions')) :
    conditions <+: conditions' ∧ conditions'.Nodup ∧ lc ∈ conditions' ∧
      (id = conditions'.idxOf lc ∨ id = 0 ∧ conditions'.idxOf lc = 65535) := by
  unfold getConditionId at h
  split at h
  · next i hfound =>
    cases h
    have hi := search_found hfound
    exact ⟨List.prefix_rfl, hnodup, List.mem_of_getElem? hi, Or.inl (idxOf_eq_place hnodup hi).symm⟩
  · next hmissing =>
    cases h
    obtain ⟨hnew, hlen⟩ := search_missing hmissing (by decide) fun j hj => absurd hj (Nat.not_lt_zero j)
    have hidx : (conditions ++ [lc]).idxOf lc = conditions.length := by
      rw [List.idxOf_append_of_notMem hnew, List.idxOf_cons_self, Nat.add_zero]
    refine ⟨List.prefix_append _ _, ?_, List.mem_append_right _ List.mem_cons_self, ?_⟩
    · exact List.nodup_append.2 ⟨hnodup, List.nodup_singleton lc, by
        rintro a ha b hb rfl
        exact hnew (List.mem_singleton.1 hb ▸ ha)⟩
    · rw [hidx, List.length_append]
      split
      · exact Or.inr ⟨rfl, by simp only [List.length_cons, List.length_nil] at *; omega⟩
      · exact Or.inl rfl
  · cases h

/-- A new condition takes the next place. -/
theorem search_new (hnew : lc ∉ conditions) (hlen : conditions.length < 65536) (n i : Nat)
    (hn : conditions.length < i + n) (hi : i ≤ conditions.length) :
    searchConditions conditions lc n i = .missing := by
  induction n generalizing i with
  | zero => omega
  | succ n ih =>
    unfold searchConditions
    split
    · next c hc =>
      obtain ⟨hlt, -⟩ := List.getElem?_eq_some_iff.1 hc
      have hne : lc ≠ c := fun heq => hnew (heq ▸ List.mem_of_getElem? hc)
      rw [if_neg hne, Nat.mod_eq_of_lt (by omega)]
      exact ih (i + 1) (by omega) hlt
    · rfl

theorem getConditionId_new (hnew : lc ∉ conditions) (hlen : conditions.length < 65535) :
    getConditionId conditions lc = some (conditions.length, conditions ++ [lc]) := by
  unfold getConditionId
  rw [search_new hnew (by omega) 65537 0 (by omega) (Nat.zero_le _)]
  dsimp only
  rw [List.length_append, if_neg (by simp only [List.length_cons, List.length_nil]; omega)]
  rfl

end

/-! ## Loading -/

namespace LoadedLoot

/-- Each condition is in the store once, and each row has kept the place of its own, but for the last place. -/
structure Stored (s : LoadedLoot) : Prop where
  nodup : s.conditions.Nodup
  items : ∀ r ∈ s.items, r.1.playerCondition ∈ s.conditions ∧
    (r.2.conditionId = u8 (s.conditions.idxOf r.1.playerCondition) ∨
      r.2.conditionId = 0 ∧ s.conditions.idxOf r.1.playerCondition = 65535)

section
variable {w : LootWorld} {s s' : LoadedLoot}

/-- The store grows behind. -/
theorem Stored.grow (h : s.Stored) {conditions' : List PlayerCondition} (hpre : s.conditions <+: conditions')
    (hnodup : conditions'.Nodup) : ({ s with conditions := conditions' } : LoadedLoot).Stored := by
  obtain ⟨more, rfl⟩ := hpre
  refine ⟨hnodup, fun r hr => ?_⟩
  obtain ⟨hmem, hid⟩ := h.items r hr
  dsimp only
  rw [List.idxOf_append_of_mem hmem]
  exact ⟨List.mem_append_left _ hmem, hid⟩

theorem loadRow_stored (h : s.Stored) {row : LootRow} (hs : s.loadRow w row = some s') : s'.Stored := by
  unfold loadRow at hs
  split at hs
  · cases hs
    exact h
  · split at hs
    · next id conditions hget =>
      obtain ⟨hpre, hnodup, hmem, hid⟩ := getConditionId_spec h.nodup hget
      have hgrown := h.grow hpre hnodup
      dsimp only at hs
      split at hs
      · cases hs
        refine ⟨hnodup, fun r hr => ?_⟩
        rcases List.mem_append.1 hr with hr | hr
        · exact hgrown.items r hr
        · cases List.mem_singleton.1 hr
          refine ⟨hmem, ?_⟩
          rcases hid with rfl | ⟨rfl, hlast⟩
          · exact Or.inl rfl
          · exact Or.inr ⟨rfl, hlast⟩
      · cases hs
        exact hgrown
    · cases hs

theorem step_stored (h : s.Stored) {l : ConditionLoad} (hs : s.step w l = some s') : s'.Stored := by
  cases l with
  | row row => exact loadRow_stored h hs
  | other lc =>
    obtain ⟨⟨id, conditions⟩, hget, rfl⟩ := Option.map_eq_some_iff.1 hs
    obtain ⟨hpre, hnodup, -, -⟩ := getConditionId_spec h.nodup hget
    exact h.grow hpre hnodup

theorem load_stored {ls : List ConditionLoad} (h : s.Stored) (hs : s.load w ls = some s') : s'.Stored := by
  induction ls generalizing s with
  | nil =>
    cases hs
    exact h
  | cons l ls ih =>
    obtain ⟨s1, h1, h2⟩ := Option.bind_eq_some_iff.1 hs
    exact ih (step_stored h h1) h2

theorem empty_stored : ({} : LoadedLoot).Stored :=
  ⟨List.nodup_singleton _, fun _ h => absurd h List.not_mem_nil⟩

/-- The place that a row has kept is its condition's just if that is one of the first 256. -/
theorem Stored.identified_iff (h : s.Stored) {row : LootRow} {e : LootTableItem} (hr : (row, e) ∈ s.items) :
    s.conditions[e.conditionId]? = some row.playerCondition ↔ s.conditions.idxOf row.playerCondition < 256 := by
  obtain ⟨hmem, hid⟩ := h.items _ hr
  dsimp only at hmem hid
  constructor
  · intro hat
    have hplace := idxOf_eq_place h.nodup hat
    have hlt : e.conditionId < 256 := by
      rcases hid with hid | ⟨hid, -⟩
      · rw [hid]
        exact Nat.mod_lt _ (by decide)
      · omega
    omega
  · intro hlt
    rcases hid with hid | ⟨-, hlast⟩
    · rw [hid, u8, Nat.mod_eq_of_lt hlt]
      exact place_holds hmem
    · omega

end

/-- **A row keeps its condition**, and the items made of it are for those who meet it, just if the condition is
one of the first 256 that were asked for, with the empty one.  This is so after any loading of rows and of
other conditions that comes to an end. -/
theorem condition_kept_iff (w : LootWorld) (ls : List ConditionLoad) {s : LoadedLoot}
    (hs : ({} : LoadedLoot).load w ls = some s) {row : LootRow} {e : LootTableItem} (hr : (row, e) ∈ s.items) :
    ConditionKept s.conditions row e ↔ s.conditions.idxOf row.playerCondition < 256 := by
  have hiff := (load_stored empty_stored hs).identified_iff hr
  refine ⟨fun h => hiff.1 h.identified, fun h => ⟨hiff.2 h, fun count partyLoot v => ?_⟩⟩
  unfold LootItem.allowedForPlayer isPlayerMeetToCondition
  have hat : s.conditions[(e.generate count partyLoot).conditionId]? = some row.playerCondition := hiff.2 h
  rw [hat]
  rfl

/-- A world in which all conditions and items are valid. -/
def openWorld : LootWorld where
  getItemPrototype := fun _ => some { quality := 1, partyLoot := false }
  isValidCondition := fun _ _ _ => true
  getConditionId := fun _ _ _ => 0
  rateReferenced := 1
  rateQuality := fun _ => 1

/-- A row for those who have been rewarded for quest 7. -/
def questRow : LootRow :=
  { entry := 1, item := 1, chanceOrQuestChance := 100, groupid := 0, mincountOrRef := 1, maxcount := 1
    lootcondition := 8, conditionValue1 := 7 }

/-- What is made of it. -/
def questItem (id : Nat) : LootTableItem := LootTableItem.ofRow { openWorld with getConditionId := fun _ _ _ => id } questRow

theorem load_quest {s : LoadedLoot} {id : Nat} {conditions' : List PlayerCondition}
    (h : getConditionId s.conditions questRow.playerCondition = some (id, conditions')) :
    s.load openWorld [.row questRow] = some { conditions := conditions', items := s.items ++ [(questRow, questItem id)] } := by
  have hvalid : ((questItem id).isValid openWorld 1).1 = true := by
    have hchance : (questItem id).chance = 100 := by
      show |(100 : ℚ)| = 100
      norm_num
    have hcount : (questItem id).mincountOrRef = 1 := rfl
    have hproto : (openWorld.getItemPrototype (questItem id).itemid).isNone = false := rfl
    unfold LootTableItem.isValid
    rw [hchance, hcount, hproto, if_neg (by decide), if_pos (by decide), if_neg (by decide), if_neg (by norm_num),
      if_neg (by norm_num)]
  show (s.loadRow openWorld questRow).bind some = _
  unfold loadRow
  rw [if_neg (by decide), h]
  exact congrArg (Option.bind · some) (if_pos hvalid)

/-- One row with the condition of `questRow` is loaded. -/
theorem condition_kept_iff_quest :
    ConditionKept [⟨0, 0, 0⟩, ⟨8, 7, 0⟩] questRow (questItem 1) ↔
      [⟨0, 0, 0⟩, ⟨8, 7, 0⟩].idxOf questRow.playerCondition < 256 :=
  condition_kept_iff openWorld [.row questRow] (load_quest rfl) List.mem_cons_self

/-- Conditions of another table, all different. -/
def zone (id : Nat) : PlayerCondition := ⟨4, id, 0⟩

theorem load_append (w : LootWorld) (s : LoadedLoot) (ls ls' : List ConditionLoad) :
    s.load w (ls ++ ls') = (s.load w ls).bind fun s => s.load w ls' := by
  induction ls generalizing s with
  | nil => rfl
  | cons l ls ih =>
    show (s.step w l).bind _ = ((s.step w l).bind _).bind _
    cases s.step w l with
    | none => rfl
    | some s => exact ih s

theorem load_zones (w : LootWorld) (n : Nat) (hn : n < 65000) :
    ({} : LoadedLoot).load w ((List.range n).map fun id => .other (zone id)) =
      some { conditions := ⟨0, 0, 0⟩ :: (List.range n).map zone } := by
  induction n with
  | zero => rfl
  | succ n ih =>
    have hnew : zone n ∉ ⟨0, 0, 0⟩ :: (List.range n).map zone := by
      intro hmem
      rcases List.mem_cons.1 hmem with h | h
      · cases h
      · obtain ⟨id, hid, heq⟩ := List.mem_map.1 h
        cases heq
        exact absurd (List.mem_range.1 hid) (Nat.lt_irrefl n)
    rw [List.range_succ, List.map_append, load_append, ih (by omega), Option.bind_some, List.map_append]
    have hget := getConditionId_new hnew (by simp only [List.length_cons, List.length_map, List.length_range]; omega)
    simp only [List.map_cons, List.map_nil, load, step, hget, Option.map_some, Option.bind_some]
    rfl

/-- After 255 zones the row for quest 7 keeps the place of the empty condition. -/
theorem condition_lost :
    ¬ ∀ (w : LootWorld) (ls : List ConditionLoad) (s : LoadedLoot), ({} : LoadedLoot).load w ls = some s →
      ∀ r ∈ s.items, ConditionKept s.conditions r.1 r.2 := by
  intro h
  have hnew : questRow.playerCondition ∉ ⟨0, 0, 0⟩ :: (List.range 255).map zone := by
    intro hmem
    rcases List.mem_cons.1 hmem with h | h
    · cases h
    · obtain ⟨id, -, heq⟩ := List.mem_map.1 h
      cases heq
  have hlen : (⟨0, 0, 0⟩ :: (List.range 255).map zone).length = 256 := by
    rw [List.length_cons, List.length_map, List.length_range]
  have hget := getConditionId_new hnew (by omega)
  have hload : ({} : LoadedLoot).load openWorld ((List.range 255).map (fun id => .other (zone id)) ++ [.row questRow]) =
      some { conditions := (⟨0, 0, 0⟩ :: (List.range 255).map zone) ++ [questRow.playerCondition]
             items := [(questRow, questItem 256)] } := by
    rw [load_append, load_zones openWorld 255 (by decide), Option.bind_some]
    exact load_quest (hlen ▸ hget)
  have hkept := h _ _ _ hload _ List.mem_cons_self
  have hplace := idxOf_eq_place (load_stored empty_stored hload).nodup hkept.identified
  rw [List.idxOf_append_of_notMem hnew, hlen, List.idxOf_cons_self] at hplace
  exact absurd hplace (by decide)

end LoadedLoot

end BlizzLike
