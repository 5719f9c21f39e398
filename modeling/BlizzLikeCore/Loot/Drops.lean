import BlizzLikeCore.Loot.References
import BlizzLikeCore.Lib.Draws
import Mathlib.Algebra.Order.BigOperators.Group.List
import Mathlib.Tactic.Linarith
import Mathlib.Tactic.Ring

/-!
# What a template can drop

`drops` is the abstract side of `Process`: the language of the rows that go to `AddItem` one after
another, whatever is rolled.  A row that can hit and miss is a sum, a reference a power, a template
the product of its rows and groups.  `process_realizes` is the refinement: every run of `Process`
adds a word of `drops`, and every word of `drops` is added for some rolls.
-/

namespace BlizzLike

open Draws

/-! ## Rows and groups -/

namespace LootTableItem

variable (w : LootWorld) (e : LootTableItem)

/-- What the chance is multiplied by. -/
def modifier : ℚ :=
  if e.mincountOrRef < 0 then w.rateReferenced
  else ((w.getItemPrototype e.itemid).map fun proto => w.rateQuality proto.quality).getD 1

def CanHit : Prop := 100 ≤ e.chance ∨ 0 < e.chance * e.modifier w

def CanMiss : Prop := e.chance < 100 ∧ e.chance * e.modifier w < 100

end LootTableItem

namespace LootGroup

variable (grp : LootGroup)

/-- A roll can pass all the entries. -/
def Passes (l : List LootTableItem) : Prop :=
  (∀ e ∈ l, e.chance < 100) ∧ (l.map LootTableItem.chance).sum < 100

/-- The entries a roll can select. -/
def Selects (e : LootTableItem) : Prop :=
  (∃ before after, grp.explicitlyChanced = before ++ e :: after ∧ Passes before) ∨
    e ∈ grp.equalChanced ∧ Passes grp.explicitlyChanced

def drops : Language LootTableItem :=
  {word : List LootTableItem | (∃ e, grp.Selects e ∧ word = [e]) ∨
    grp.equalChanced = [] ∧ Passes grp.explicitlyChanced ∧ word = []}

end LootGroup

namespace LootTemplate

variable (w : LootWorld) (refs : LootTemplateMap)

/-- What a non-grouped row drops. -/
def rowDrops (call : LootTemplate × Nat → Language LootTableItem) (e : LootTableItem) : Language LootTableItem :=
  given (e.CanHit w)
      (if e.mincountOrRef < 0 then
        match refs.lookup e.ref with
        | none => 1
        | some referenced => call (referenced, e.group) ^ e.maxcount
      else {[e]}) +
    given (e.CanMiss w) 1

/-- What a template drops, when the templates it refers to drop what `call` says. -/
def dropsBody (call : LootTemplate × Nat → Language LootTableItem) :
    LootTemplate × Nat → Language LootTableItem
  | (t, groupId) =>
    if groupId ≠ 0 then
      match t.groups[groupId - 1]? with
      | none => 1
      | some grp => grp.drops
    else (t.entries.map (rowDrops w refs call)).prod * (t.groups.map LootGroup.drops).prod

/-- What can drop from a template. -/
def drops (depth : Nat) (t : LootTemplate) (groupId : Nat) : Language LootTableItem :=
  Calls.run (dropsBody w refs) 0 depth (t, groupId)

end LootTemplate

/-! ## What a word means -/

namespace Looting

/-- The quest items of a loot. -/
def questIds (g : Looting) : List Nat := g.loot.questItems.map LootItem.itemid

end Looting

/-- The quest items among rows. -/
def questIdsOf (word : List LootTableItem) : List Nat :=
  (word.filter LootTableItem.needsQuest).map LootTableItem.itemid

theorem questIdsOf_append (u v : List LootTableItem) : questIdsOf (u ++ v) = questIdsOf u ++ questIdsOf v := by
  unfold questIdsOf
  rw [List.filter_append, List.map_append]

theorem take_take_append {α : Type*} (n : Nat) (l l' : List α) : (l.take n ++ l').take n = (l ++ l').take n := by
  rw [List.take_append, List.take_append, List.take_take, Nat.min_self, List.length_take]
  congr 2
  omega

/-- The quest items of a word are added as long as there is room for them. -/
def questMeaning : Meaning Looting LootTableItem where
  drawn := Looting.drawn
  effect := fun word g g' => g.questIds.length ≤ maxNrQuestItems →
    g'.questIds = (g.questIds ++ questIdsOf word).take maxNrQuestItems
  nil := fun g hlen => by
    rw [show questIdsOf [] = [] from rfl, List.append_nil, List.take_of_length_le hlen]
  append := fun u v g g' g'' hu hv hlen => by
    have hg' := hu hlen
    rw [hv (by rw [hg']; exact List.length_take_le _ _), hg', take_take_append, questIdsOf_append,
      List.append_assoc]

theorem effect_of_loot {g g' : Looting} (h : g'.loot = g.loot) : questMeaning.effect [] g g' := by
  intro hlen
  unfold Looting.questIds
  rw [h]
  exact questMeaning.nil g hlen

/-! ## The runs -/

variable {w : LootWorld} {refs : LootTemplateMap}

namespace Looting

theorem roll_loot (dice : Dice) (g : Looting) (e : LootTableItem) : (g.roll w dice e).2.loot = g.loot := by
  unfold Looting.roll rollChanceF draw
  split
  · rfl
  · split <;> rfl

theorem roll_eq {dice : Dice} {g : Looting} {e : LootTableItem} (h : ¬ e.chance ≥ 100) :
    g.roll w dice e = g.rollChanceF dice (e.chance * e.modifier w) := by
  unfold Looting.roll LootTableItem.modifier
  rw [if_neg h]
  split <;> rfl

theorem roll_tests (e : LootTableItem) :
    Tests questMeaning (fun dice g => g.roll w dice e) (e.CanHit w) (e.CanMiss w) where
  effect := fun dice g => effect_of_loot (roll_loot dice g e)
  yes_of := fun dice g hit => by
    by_cases hsure : e.chance ≥ 100
    · exact Or.inl hsure
    · rw [roll_eq hsure] at hit
      exact Or.inr ((dice g.drawn).nonneg.trans_lt (of_decide_eq_true hit))
  no_of := fun dice g hmiss => by
    by_cases hsure : e.chance ≥ 100
    · unfold Looting.roll at hmiss
      rw [if_pos hsure] at hmiss
      cases hmiss
    · rw [roll_eq hsure] at hmiss
      exact ⟨not_le.1 hsure, (not_lt.1 (of_decide_eq_false hmiss)).trans_lt (dice g.drawn).lt_hundred⟩
  can_yes := fun hyes g => by
    by_cases hsure : e.chance ≥ 100
    · refine ⟨g, effect_of_loot rfl, ?_⟩
      unfold Looting.roll
      simp only [if_pos hsure]
      exact Can.pure _
    · refine ⟨g.draw, effect_of_loot rfl, Can.draw ⟨0, 0, le_refl 0, by decide⟩ rfl fun dice hdice => ?_⟩
      change dice g.drawn = _ at hdice
      rw [roll_eq hsure, rollChanceF, hdice, decide_eq_true (hyes.resolve_left hsure)]
  can_no := fun hno g => by
    refine ⟨g.draw, effect_of_loot rfl, Can.draw ⟨max 0 (e.chance * e.modifier w), 0, le_max_left _ _,
      max_lt (by decide) hno.2⟩ rfl fun dice hdice => ?_⟩
    change dice g.drawn = _ at hdice
    rw [roll_eq (not_le.2 hno.1), rollChanceF, hdice, decide_eq_false (not_lt.2 (le_max_right _ _))]

theorem addItem_questIds (dice : Dice) (g : Looting) (e : LootTableItem) :
    questMeaning.effect [e] g (g.addItem w dice e) := by
  intro hlen
  unfold questIds at hlen
  unfold addItem Loot.addItem questIds questIdsOf
  dsimp only
  cases hq : e.needsQuest with
  | true =>
    rw [if_pos rfl, List.filter_cons_of_pos hq, List.filter_nil]
    split
    next hroom =>
      rw [List.map_append, List.take_of_length_le]
      · rfl
      · rw [List.length_append, List.length_map]
        exact hroom
    next hfull =>
      rw [List.length_map] at hlen
      rw [List.take_append_of_le_length (by rw [List.length_map]; omega),
        List.take_of_length_le (by rw [List.length_map]; omega)]
  | false =>
    rw [if_neg (by decide), List.filter_cons_of_neg (by rw [hq]; decide), List.filter_nil, List.map_nil,
      List.append_nil, List.take_of_length_le hlen]
    split <;> rfl

theorem addItem_realizes (e : LootTableItem) :
    Realizes questMeaning (fun dice g => some (g.addItem w dice e)) {[e]} where
  sound := fun dice g g' h => ⟨[e], rfl, Option.some.inj h ▸ addItem_questIds dice g e⟩
  complete := fun u hu g => by
    obtain rfl : u = [e] := hu
    let d : Draw := ⟨0, 0, le_refl 0, by decide⟩
    refine ⟨g.addItem w (fun _ => d) e, addItem_questIds _ g e, Can.draw d rfl fun dice hdice => ?_⟩
    change dice g.drawn = d at hdice
    unfold addItem
    rw [hdice]

/-! ### Groups -/

theorem pickExplicit_some {e : LootTableItem} : ∀ {es : List LootTableItem} {roll : ℚ},
    0 ≤ roll → pickExplicit es roll = some e →
    ∃ before after, es = before ++ e :: after ∧ (∀ x ∈ before, x.chance < 100) ∧
      (before.map LootTableItem.chance).sum ≤ roll := by
  intro es
  induction es with
  | nil =>
    intro roll _ h
    cases h
  | cons x es ih =>
    intro roll hroll h
    unfold pickExplicit at h
    split at h
    next =>
      cases h
      exact ⟨[], es, rfl, fun y hy => absurd hy List.not_mem_nil, hroll⟩
    next hx =>
      split at h
      next =>
        cases h
        exact ⟨[], es, rfl, fun y hy => absurd hy List.not_mem_nil, hroll⟩
      next hpass =>
        obtain ⟨before, after, rfl, hbefore, hsum⟩ := ih (not_lt.1 hpass) h
        refine ⟨x :: before, after, rfl, fun y hy => ?_, ?_⟩
        · rcases List.mem_cons.1 hy with rfl | hy
          · exact not_le.1 hx
          · exact hbefore y hy
        · rw [List.map_cons, List.sum_cons]
          linarith

theorem pickExplicit_none : ∀ {es : List LootTableItem} {roll : ℚ}, 0 ≤ roll →
    pickExplicit es roll = none →
    (∀ x ∈ es, x.chance < 100) ∧ (es.map LootTableItem.chance).sum ≤ roll := by
  intro es
  induction es with
  | nil => exact fun hroll _ => ⟨fun y hy => absurd hy List.not_mem_nil, hroll⟩
  | cons x es ih =>
    intro roll hroll h
    unfold pickExplicit at h
    split at h
    next => cases h
    next hx =>
      split at h
      next => cases h
      next hpass =>
        obtain ⟨hes, hsum⟩ := ih (not_lt.1 hpass) h
        refine ⟨fun y hy => ?_, ?_⟩
        · rcases List.mem_cons.1 hy with rfl | hy
          · exact not_le.1 hx
          · exact hes y hy
        · rw [List.map_cons, List.sum_cons]
          linarith

theorem sum_nonneg (l : List LootTableItem) : 0 ≤ (l.map LootTableItem.chance).sum :=
  List.sum_nonneg fun c hc => by
    obtain ⟨y, -, rfl⟩ := List.mem_map.1 hc
    exact y.nonneg

theorem pickExplicit_pass (rest : List LootTableItem) : ∀ {before : List LootTableItem} {roll : ℚ},
    (∀ x ∈ before, x.chance < 100) → 0 ≤ roll →
    pickExplicit (before ++ rest) ((before.map LootTableItem.chance).sum + roll) = pickExplicit rest roll := by
  intro before
  induction before with
  | nil =>
    intro roll _ _
    rw [List.map_nil, List.sum_nil, zero_add, List.nil_append]
  | cons x before ih =>
    intro roll hbefore hroll
    have hnonneg := sum_nonneg before
    rw [List.cons_append, pickExplicit, if_neg (not_le.2 (hbefore x List.mem_cons_self)), List.map_cons,
      List.sum_cons, if_neg (by linarith)]
    rw [show x.chance + (before.map LootTableItem.chance).sum + roll - x.chance =
      (before.map LootTableItem.chance).sum + roll by ring]
    exact ih (fun y hy => hbefore y (List.mem_cons_of_mem x hy)) hroll

/-- An entry with a chance is selected by the roll that just passes those before it. -/
theorem pickExplicit_here {e : LootTableItem} {es : List LootTableItem} (h : e.chance ≠ 0) :
    pickExplicit (e :: es) 0 = some e := by
  have hpos : 0 < e.chance := lt_of_le_of_ne e.nonneg (Ne.symm h)
  unfold pickExplicit
  split
  · rfl
  · rw [if_pos (by linarith)]

theorem rollGroup_sound (dice : Dice) (g : Looting) (grp : LootGroup) :
    (g.rollGroup dice grp).2.loot = g.loot ∧
      match (g.rollGroup dice grp).1 with
      | some e => grp.Selects e
      | none => grp.equalChanced = [] ∧ LootGroup.Passes grp.explicitlyChanced := by
  have hequal : ∀ g1 : Looting, g1.loot = g.loot → LootGroup.Passes grp.explicitlyChanced →
      (if grp.equalChanced = [] then (none, g1)
        else (grp.equalChanced[(dice g1.drawn).raw % grp.equalChanced.length]?, g1.draw)).2.loot = g.loot ∧
      match (if grp.equalChanced = [] then (none, g1)
        else (grp.equalChanced[(dice g1.drawn).raw % grp.equalChanced.length]?, g1.draw)).1 with
      | some e => grp.Selects e
      | none => grp.equalChanced = [] ∧ LootGroup.Passes grp.explicitlyChanced := by
    intro g1 hg1 hpass
    by_cases hnone : grp.equalChanced = []
    · rw [if_pos hnone]
      exact ⟨hg1, hnone, hpass⟩
    · rw [if_neg hnone]
      have hlt := Nat.mod_lt (dice g1.drawn).raw (List.length_pos_iff.2 hnone)
      dsimp only
      rw [List.getElem?_eq_getElem hlt]
      exact ⟨hg1, Or.inr ⟨List.getElem_mem hlt, hpass⟩⟩
  unfold rollGroup
  by_cases hexp : grp.explicitlyChanced = []
  · rw [if_pos hexp]
    refine hequal g rfl ?_
    rw [hexp]
    exact ⟨fun x hx => absurd hx List.not_mem_nil, by decide⟩
  · rw [if_neg hexp]
    have hroll := (dice g.drawn).nonneg
    cases hpick : pickExplicit grp.explicitlyChanced (dice g.drawn).randChance with
    | some e =>
      obtain ⟨before, after, hsplit, hbefore, hsum⟩ := pickExplicit_some hroll hpick
      exact ⟨rfl, Or.inl ⟨before, after, hsplit, hbefore, hsum.trans_lt (dice g.drawn).lt_hundred⟩⟩
    | none =>
      obtain ⟨hall, hsum⟩ := pickExplicit_none hroll hpick
      exact hequal g.draw rfl ⟨hall, hsum.trans_lt (dice g.drawn).lt_hundred⟩

/-- The draw that just passes some entries. -/
def passing (l : List LootTableItem) (h : LootGroup.Passes l) (raw : Nat) : Draw :=
  ⟨(l.map LootTableItem.chance).sum, raw, sum_nonneg l, h.2⟩

theorem pick_passing {l : List LootTableItem} (h : LootGroup.Passes l) (raw : Nat) :
    pickExplicit l (passing l h raw).randChance = none := by
  have hpass := pickExplicit_pass [] h.1 (le_refl 0)
  rwa [List.append_nil, add_zero] at hpass

theorem rollGroup_selects {grp : LootGroup} {e : LootTableItem} (h : grp.Selects e) (g : Looting) :
    ∃ g1 : Looting, g1.loot = g.loot ∧
      Can questMeaning (fun dice => g.rollGroup dice grp) g g1 (some e, g1) := by
  rcases h with ⟨before, after, hsplit, hpass⟩ | ⟨hmem, hpass⟩
  · refine ⟨g.draw, rfl, Can.draw (passing before hpass 0) rfl fun dice hdice => ?_⟩
    change dice g.drawn = _ at hdice
    have hne : grp.explicitlyChanced ≠ [] := by
      rw [hsplit]
      exact List.append_ne_nil_of_right_ne_nil before (List.cons_ne_nil e after)
    have hchance : e.chance ≠ 0 := grp.explicit e (by rw [hsplit]; exact List.mem_append_right _ List.mem_cons_self)
    have hpick : pickExplicit grp.explicitlyChanced (dice g.drawn).randChance = some e := by
      have hbefore := pickExplicit_pass (e :: after) hpass.1 (le_refl 0)
      rw [add_zero, pickExplicit_here hchance] at hbefore
      rw [hdice, hsplit]
      exact hbefore
    rw [rollGroup, if_neg hne, hpick]
  · obtain ⟨i, hi, rfl⟩ := List.mem_iff_getElem.1 hmem
    have hne : grp.equalChanced ≠ [] := List.ne_nil_of_mem hmem
    by_cases hexp : grp.explicitlyChanced = []
    · refine ⟨g.draw, rfl, Can.draw (passing grp.explicitlyChanced hpass i) rfl fun dice hdice => ?_⟩
      change dice g.drawn = _ at hdice
      rw [rollGroup, if_pos hexp]
      dsimp only
      rw [if_neg hne, hdice, show (passing grp.explicitlyChanced hpass i).raw = i from rfl, Nat.mod_eq_of_lt hi,
        List.getElem?_eq_getElem hi]
    · refine ⟨g.draw.draw, rfl, [passing grp.explicitlyChanced hpass 0, passing [] ?_ i], rfl, fun dice hdice => ?_⟩
      · exact ⟨fun x hx => absurd hx List.not_mem_nil, by decide⟩
      have hfirst : dice g.drawn = _ := hdice 0 _ rfl
      have hsecond : dice g.draw.drawn = _ := hdice 1 _ rfl
      have hpick : pickExplicit grp.explicitlyChanced (dice g.drawn).randChance = none := by
        rw [hfirst]
        exact pick_passing hpass 0
      dsimp only [rollGroup]
      rw [if_neg hexp, hpick]
      dsimp only
      rw [if_neg hne, hsecond]
      dsimp only [passing]
      rw [Nat.mod_eq_of_lt hi, List.getElem?_eq_getElem hi]

theorem rollGroup_none {grp : LootGroup} (hnone : grp.equalChanced = [])
    (hpass : LootGroup.Passes grp.explicitlyChanced) (g : Looting) :
    ∃ g1 : Looting, g1.loot = g.loot ∧ Can questMeaning (fun dice => g.rollGroup dice grp) g g1 (none, g1) := by
  by_cases hexp : grp.explicitlyChanced = []
  · refine ⟨g, rfl, ?_⟩
    unfold rollGroup
    simp only [if_pos hexp, if_pos hnone]
    exact Can.pure _
  · refine ⟨g.draw, rfl, Can.draw (passing grp.explicitlyChanced hpass 0) rfl fun dice hdice => ?_⟩
    change dice g.drawn = _ at hdice
    unfold rollGroup
    rw [if_neg hexp, hdice, pick_passing hpass 0]
    dsimp only
    rw [if_pos hnone]

theorem processGroup_realizes (grp : LootGroup) :
    Realizes questMeaning (fun dice g => some (g.processGroup w dice grp)) grp.drops where
  sound := fun dice g g' h => by
    cases h
    obtain ⟨hloot, hroll⟩ := rollGroup_sound dice g grp
    unfold processGroup
    rcases hres : g.rollGroup dice grp with ⟨_ | e, g1⟩
    · rw [hres] at hloot hroll
      exact ⟨[], Or.inr ⟨hroll.1, hroll.2, rfl⟩, effect_of_loot hloot⟩
    · rw [hres] at hloot hroll
      exact ⟨[e], Or.inl ⟨e, hroll, rfl⟩,
        questMeaning.append [] [e] g g1 _ (effect_of_loot hloot) (addItem_questIds dice g1 e)⟩
  complete := fun u hu g => by
    let next := fun (dice : Dice) (r : Option LootTableItem × Looting) => some (r.1.elim r.2 (r.2.addItem w dice))
    have hnext : ∀ dice, some (g.processGroup w dice grp) = next dice (g.rollGroup dice grp) := by
      intro dice
      unfold processGroup
      rcases g.rollGroup dice grp with ⟨_ | e, g1⟩ <;> rfl
    simp only [hnext]
    rcases hu with ⟨e, he, rfl⟩ | ⟨hnone, hpass, rfl⟩
    · obtain ⟨g1, hloot, hcan⟩ := rollGroup_selects he g
      obtain ⟨g2, heffect, hcan2⟩ := (addItem_realizes (w := w) e).complete [e] rfl g1
      exact ⟨g2, questMeaning.append [] [e] g g1 g2 (effect_of_loot hloot) heffect, hcan.trans (k := next) hcan2⟩
    · obtain ⟨g1, hloot, hcan⟩ := rollGroup_none hnone hpass g
      exact ⟨g1, effect_of_loot hloot, hcan.trans (k := next) (Can.pure (some g1))⟩

end Looting

namespace LootTemplate

/-! ### Templates -/

theorem processEntry_realizes {call : LootTemplate × Nat → Dice → Looting → Option Looting}
    {lang : LootTemplate × Nat → Language LootTableItem} (h : ∀ q, Realizes questMeaning (call q) (lang q))
    (e : LootTableItem) :
    Realizes questMeaning (fun dice g => processEntry w refs call dice g e) (rowDrops w refs lang e) := by
  have hhit : Realizes questMeaning
      (fun dice g =>
        if e.mincountOrRef < 0 then
          match refs.lookup e.ref with
          | none => some g
          | some referenced => (List.range e.maxcount).foldlM (fun g _ => call (referenced, e.group) dice g) g
        else some (g.addItem w dice e))
      (if e.mincountOrRef < 0 then
        match refs.lookup e.ref with
        | none => 1
        | some referenced => lang (referenced, e.group) ^ e.maxcount
      else {[e]}) := by
    by_cases href : e.mincountOrRef < 0
    · simp only [if_pos href]
      cases refs.lookup e.ref with
      | none => exact Realizes.skip
      | some referenced => exact (h (referenced, e.group)).loop e.maxcount
    · simp only [if_neg href]
      exact Looting.addItem_realizes e
  exact Realizes.branch (Looting.roll_tests e) hhit Realizes.skip

theorem processBody_realizes {call : LootTemplate × Nat → Dice → Looting → Option Looting}
    {lang : LootTemplate × Nat → Language LootTableItem} (h : ∀ q, Realizes questMeaning (call q) (lang q))
    (p : LootTemplate × Nat) : Realizes questMeaning (processBody w refs call p) (dropsBody w refs lang p) := by
  obtain ⟨t, groupId⟩ := p
  unfold processBody dropsBody
  by_cases hgroup : groupId = 0
  · simp only [if_neg (not_not_intro hgroup)]
    have hgroups : Realizes questMeaning
        (fun dice g => t.groups.foldlM (fun g grp => some (g.processGroup w dice grp)) g)
        (t.groups.map LootGroup.drops).prod :=
      Realizes.forEach fun grp _ => Looting.processGroup_realizes grp
    have hloop : ∀ (dice : Dice) (g : Looting),
        t.groups.foldlM (fun g grp => some (g.processGroup w dice grp)) g =
          some (t.groups.foldl (fun g grp => g.processGroup w dice grp) g) := fun dice g => List.foldlM_pure
    simp only [hloop] at hgroups
    have hseq := (Realizes.forEach (l := t.entries) fun e _ => @processEntry_realizes w refs _ _ h e).seq
      hgroups
    simpa only [Option.map_eq_bind, Function.comp_def] using hseq
  · simp only [if_pos hgroup]
    cases t.groups[groupId - 1]? with
    | none => exact Realizes.skip
    | some grp => exact Looting.processGroup_realizes grp

/-- **What can drop** is just what `Process` can add. -/
theorem process_realizes (depth : Nat) (t : LootTemplate) (groupId : Nat) :
    Realizes questMeaning (fun dice g => process w refs dice depth t groupId g) (drops w refs depth t groupId) := by
  have hall : ∀ depth p, Realizes questMeaning
      (Calls.run (processBody w refs) (fun _ _ => none) depth p) (Calls.run (dropsBody w refs) 0 depth p) := by
    intro depth
    induction depth with
    | zero => exact fun _ => Realizes.stuck
    | succ depth ih => exact fun p => processBody_realizes ih p
  exact hall depth (t, groupId)

end LootTemplate

end BlizzLike
