import BlizzLikeCore.Loot.LootStore
import Mathlib.Data.Finite.Prod

/-!
# Circles of references

`Process` calls itself for the templates the rows of a template refer to.  The checks of the loaded
tables look for references that are not there, and for nothing else: a template that refers to itself
passes them all, and `Process` does not come to an end on it (`circle_accepted`).  It does, whatever
is rolled, just when no chain of references that can be rolled leads to a circle (`process_ends_iff`).
-/

namespace BlizzLike

open Relation

namespace LootTableItem

/-- A reference that can be rolled, `maxcount` times at once. -/
structure Live (w : LootWorld) (e : LootTableItem) : Prop where
  isRef : e.mincountOrRef < 0
  multiple : 0 < e.maxcount
  chance : 100 ≤ e.chance ∨ 0 < e.chance * w.rateReferenced

end LootTableItem

namespace LootTemplate

variable (w : LootWorld) (refs : LootTemplateMap) (dice : Dice)

/-- `Process` of a template calls itself for another when it is lucky. -/
def Calls : LootTemplate × Nat → LootTemplate × Nat → Prop
  | (t, groupId), (referenced, group) =>
    groupId = 0 ∧ ∃ e ∈ t.entries, e.Live w ∧ refs.lookup e.ref = some referenced ∧ e.group = group

/-- A template refers to another, whatever the chance. -/
def Refers : LootTemplate × Nat → LootTemplate × Nat → Prop
  | (t, groupId), (referenced, group) =>
    groupId = 0 ∧ ∃ e ∈ t.entries, e.mincountOrRef < 0 ∧ refs.lookup e.ref = some referenced ∧ e.group = group

variable {w refs dice}

theorem Calls.refers {p q : LootTemplate × Nat} (h : Calls w refs p q) : Refers refs p q := by
  obtain ⟨hgroup, e, he, hlive, hr, hg⟩ := h
  exact ⟨hgroup, e, he, hlive.isRef, hr, hg⟩

/-! ## Without circles -/

theorem roll_live {e : LootTableItem} {g : Looting} (href : e.mincountOrRef < 0)
    (hit : (g.roll w dice e).1 = true) : 100 ≤ e.chance ∨ 0 < e.chance * w.rateReferenced := by
  unfold Looting.roll at hit
  by_cases hsure : e.chance ≥ 100
  · exact Or.inl hsure
  · rw [if_neg hsure, if_pos href] at hit
    exact Or.inr ((dice g.drawn).nonneg.trans_lt (of_decide_eq_true hit))

theorem processBody_isSome {call : LootTemplate × Nat → Dice → Looting → Option Looting}
    {p : LootTemplate × Nat} (hcall : ∀ q, Calls w refs p q → ∀ dice g, (call q dice g).isSome)
    (dice : Dice) (g : Looting) : (processBody w refs call p dice g).isSome := by
  obtain ⟨t, groupId⟩ := p
  unfold processBody
  dsimp only
  by_cases hgroup : groupId = 0
  · rw [if_neg (not_not_intro hgroup), Option.isSome_map]
    refine Calls.foldlM_isSome (fun e he g => ?_) g
    unfold processEntry
    dsimp only
    by_cases hit : (g.roll w dice e).1 = false
    · rw [if_pos hit]
      rfl
    · rw [if_neg hit]
      by_cases href : e.mincountOrRef < 0
      · rw [if_pos href]
        cases hr : refs.lookup e.ref with
        | none => rfl
        | some referenced =>
          refine Calls.foldlM_isSome (fun i hi g => ?_) _
          have hlive : e.Live w :=
            ⟨href, Nat.lt_of_le_of_lt (Nat.zero_le i) (List.mem_range.1 hi),
              roll_live href (Bool.eq_true_of_not_eq_false hit)⟩
          exact hcall (referenced, e.group) ⟨hgroup, e, he, hlive, hr, rfl⟩ dice g
      · rw [if_neg href]
        rfl
  · rw [if_pos hgroup]
    split <;> rfl

theorem refers_finite (t : LootTemplate) (groupId : Nat) :
    {q | ReflTransGen (Refers refs) (t, groupId) q}.Finite := by
  -- all but the first template are in the table, and their group is one that some row names
  have hfin : {q : LootTemplate × Nat | q.1 ∈ refs.map Prod.snd ∧
      q.2 ∈ (t :: refs.map Prod.snd).flatMap fun u => u.entries.map LootTableItem.group}.Finite :=
    (Set.Finite.prod (List.finite_toSet _) (List.finite_toSet _)).subset fun q hq => hq
  refine (hfin.insert (t, groupId)).subset fun q hq => ?_
  have hmem : ∀ id u, refs.lookup id = some u → u ∈ refs.map Prod.snd := by
    intro id u h
    obtain ⟨l1, l2, rfl, -⟩ := List.lookup_eq_some_iff.1 h
    exact List.mem_map.2 ⟨(id, u), List.mem_append_right l1 List.mem_cons_self, rfl⟩
  induction hq with
  | refl => exact Set.mem_insert _ _
  | @tail p q _ hcall ih =>
    obtain ⟨-, e, he, -, hr, hg⟩ := hcall
    refine Set.mem_insert_of_mem _ ⟨hmem _ _ hr, List.mem_flatMap.2 ⟨p.1, ?_, List.mem_map.2 ⟨e, he, hg⟩⟩⟩
    rcases Set.mem_insert_iff.1 ih with rfl | hp
    · exact List.mem_cons_self
    · exact List.mem_cons_of_mem _ hp.1

theorem calls_finite (t : LootTemplate) (groupId : Nat) :
    {q | ReflTransGen (Calls w refs) (t, groupId) q}.Finite :=
  (refers_finite t groupId).subset fun _ hq => hq.lift id fun _ _ => Calls.refers

/-! ## Circles -/

/-- All rolls are won. -/
def luck : Dice := fun _ => { randChance := 0, raw := 0, nonneg := le_refl 0, lt_hundred := by decide }

theorem roll_luck {e : LootTableItem} {g : Looting} (h : e.Live w) : (g.roll w luck e).1 = true := by
  unfold Looting.roll
  by_cases hsure : e.chance ≥ 100
  · rw [if_pos hsure]
  · rw [if_neg hsure, if_pos h.isRef]
    exact decide_eq_true (h.chance.resolve_left hsure)

theorem processBody_none (call : LootTemplate × Nat → Dice → Looting → Option Looting)
    (p q : LootTemplate × Nat) (hcalls : Calls w refs p q) (hnone : ∀ g, call q luck g = none) (g : Looting) :
    processBody w refs call p luck g = none := by
  obtain ⟨t, groupId⟩ := p
  obtain ⟨referenced, group⟩ := q
  obtain ⟨hgroup, e, he, hlive, hr, rfl⟩ := hcalls
  unfold processBody
  dsimp only
  rw [if_neg (not_not_intro hgroup), Option.map_eq_none_iff]
  refine Calls.foldlM_eq_none he (fun g => ?_) g
  unfold processEntry
  dsimp only
  rw [roll_luck hlive, if_neg (by decide), if_pos hlive.isRef, hr]
  exact Calls.foldlM_eq_none (List.mem_range.2 hlive.multiple) hnone _

theorem process_circle {t : LootTemplate} {groupId : Nat} {q : LootTemplate × Nat}
    (hq : ReflTransGen (Calls w refs) (t, groupId) q) (hcircle : TransGen (Calls w refs) q q) (depth : Nat)
    (g : Looting) : process w refs luck depth t groupId g = none :=
  Calls.run_of_circle (Q := fun f : Dice → Looting → Option Looting => ∀ g, f luck g = none) (fun _ => rfl)
    processBody_none hq hcircle depth g

/-! ## The tables -/

open LootTemplateMap

/-- **`Process` ends** for every entry of a store and every roll just when no chain of references that
can be rolled leads from the store to a circle. -/
theorem process_ends_iff (w : LootWorld) (refRows rows : List LootRow) :
    (∀ id t, (loadLootTable w rows).1.lookup id = some t → ∀ dice g,
      ∃ depth, (process w (loadLootTable w refRows).1 dice depth t 0 g).isSome) ↔
    ∀ id t, (loadLootTable w rows).1.lookup id = some t →
      ∀ q, ReflTransGen (Calls w (loadLootTable w refRows).1) (t, 0) q →
        ¬ TransGen (Calls w (loadLootTable w refRows).1) q q := by
  constructor
  · intro h id t ht q hq hcircle
    obtain ⟨depth, hdepth⟩ := h id t ht luck {}
    rw [process_circle hq hcircle] at hdepth
    cases hdepth
  · intro h id t ht dice g
    obtain ⟨depth, hdepth⟩ := (Calls.eventually_run
      (Q := fun _ (f : Dice → Looting → Option Looting) => ∀ dice g, (f dice g).isSome)
      (fun _ _ _ => processBody_isSome) (calls_finite t 0) (h id t ht)).exists
    exact ⟨depth, hdepth dice g⟩

/-! ## A circle -/

/-- A world without items. -/
def bareWorld : LootWorld where
  getItemPrototype := fun _ => none
  isValidCondition := fun _ _ _ => true
  getConditionId := fun _ _ _ => 0
  rateReferenced := 1
  rateQuality := fun _ => 1

/-- A reference to the template 1. -/
def refToOne (entry : Nat) : LootRow where
  entry := entry
  item := 0
  chanceOrQuestChance := 100
  groupid := 0
  mincountOrRef := -1
  maxcount := 1

/-- The template both tables load. -/
def onlyRef : LootTemplate := { entries := [LootTableItem.ofRow bareWorld (refToOne 1)] }

/-- The template 1 of `reference_loot_template` refers to itself: nothing is reported, and `Process` of a
creature's template that refers to it never ends. -/
theorem circle_accepted :
    ¬ ∀ (w : LootWorld) (refRows rows : List LootRow),
      (loadLootTable w refRows).2 = [] → (loadLootTable w rows).2 = [] →
      checkReferences (loadLootTable w refRows).1 [(loadLootTable w rows).1] = [] →
      ∀ id t, (loadLootTable w rows).1.lookup id = some t → ∀ dice g,
        ∃ depth, (process w (loadLootTable w refRows).1 dice depth t 0 g).isSome := by
  intro h
  have hself : Calls bareWorld (loadLootTable bareWorld [refToOne 1]).1 (onlyRef, 0) (onlyRef, 0) :=
    ⟨rfl, _, List.mem_cons_self, ⟨by decide, by decide, Or.inl (by decide)⟩, rfl, rfl⟩
  have hrefs : (loadLootTable bareWorld [refToOne 1]).2 = [] := by decide
  have hrows : (loadLootTable bareWorld [refToOne 7]).2 = [] := by decide
  have hcheck : checkReferences (loadLootTable bareWorld [refToOne 1]).1
    [(loadLootTable bareWorld [refToOne 7]).1] = [] := by decide
  obtain ⟨depth, hdepth⟩ :=
    h bareWorld [refToOne 1] [refToOne 7] hrefs hrows hcheck 7 onlyRef rfl luck {}
  rw [process_circle ReflTransGen.refl (TransGen.single hself)] at hdepth
  cases hdepth

end LootTemplate

end BlizzLike
