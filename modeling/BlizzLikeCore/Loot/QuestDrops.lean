import BlizzLikeCore.Loot.Drops

/-!
# Quest drops

`HaveQuestLootFor` and `HaveQuestLootForPlayer` look for a quest drop among the rows of a template and
of those it refers to.  They ask whether the template *includes* one, not whether a roll can bring it:
chances, rates, multiplicities and what stands before a row of a group do not count.  Where the
references of a template are the same in its own table as in `reference_loot_template`, they find
what is included, and `Process` can add what can be rolled (`questLoot_spec`).

They look references up in the template's own table, `Process` in `reference_loot_template`; and the loop
of `HasQuestDropForPlayer` over the groups asks for any quest drop.
-/

namespace BlizzLike

open Relation Filter Draws

/-! ## The search -/

namespace LootGroup

variable (grp : LootGroup)

/-- The common form of the two searches in a group. -/
def hasRow (row : LootTableItem → Bool) : Bool := grp.explicitlyChanced.any row || grp.equalChanced.any row

def hasQuestDrop : Bool := grp.hasRow LootTableItem.needsQuest

def hasQuestDropForPlayer (hasQuestForItem : Nat → Bool) : Bool := grp.hasRow fun e => hasQuestForItem e.itemid

end LootGroup

namespace LootTemplate

/-- The common body of `HasQuestDrop` and `HasQuestDropForPlayer`: what is asked of a row, of the group a
reference names, and of a group of the template. -/
def hasDropBody (store : LootTemplateMap) (row : LootTableItem → Bool) (groupRef groupLoop : LootGroup → Bool)
    (call : LootTemplate × Nat → Option Bool) : LootTemplate × Nat → Option Bool
  | (t, groupId) =>
    if groupId ≠ 0 then
      match t.groups[groupId - 1]? with
      | none => some false
      | some grp => some (groupRef grp)
    else
      (t.entries.anyM fun e =>
        if e.mincountOrRef < 0 then
          match store.lookup e.ref with
          | none => some false
          | some referenced => call (referenced, e.group)
        else some (row e)).map fun found => found || t.groups.any groupLoop

/-- `HasQuestDrop`, `none` when the calls go deeper than `depth`. -/
def hasQuestDrop (store : LootTemplateMap) (depth : Nat) (t : LootTemplate) (groupId : Nat) : Option Bool :=
  Calls.run (hasDropBody store LootTableItem.needsQuest LootGroup.hasQuestDrop LootGroup.hasQuestDrop) none
    depth (t, groupId)

def hasQuestDropForPlayer (store : LootTemplateMap) (hasQuestForItem : Nat → Bool) (depth : Nat)
    (t : LootTemplate) (groupId : Nat) : Option Bool :=
  Calls.run (hasDropBody store (fun e => hasQuestForItem e.itemid)
    (fun grp => grp.hasQuestDropForPlayer hasQuestForItem) LootGroup.hasQuestDrop) none depth (t, groupId)

end LootTemplate

namespace LootTemplateMap

variable (store : LootTemplateMap)

def haveQuestLootFor (depth loot_id : Nat) : Option Bool :=
  match store.lookup loot_id with
  | none => some false
  | some t => t.hasQuestDrop store depth 0

def haveQuestLootForPlayer (hasQuestForItem : Nat → Bool) (depth loot_id : Nat) : Option Bool :=
  match store.lookup loot_id with
  | none => some false
  | some t => t.hasQuestDropForPlayer store hasQuestForItem depth 0

end LootTemplateMap

/-- A recursion returns a value, at every great enough depth. -/
def Returns {β : Type*} (f : Nat → Option β) (b : β) : Prop := ∀ᶠ depth in atTop, f depth = some b

/-! ## What is included -/

namespace LootTemplate

variable (w : LootWorld) (store refs : LootTemplateMap) (row : LootTableItem → Prop)

/-- A template, or a group of it, has a row of its own. -/
def HasRow : LootTemplate × Nat → Prop
  | (t, groupId) =>
    (groupId = 0 ∧ ((∃ e ∈ t.entries, ¬ e.mincountOrRef < 0 ∧ row e) ∨
      ∃ grp ∈ t.groups, ∃ e ∈ grp.explicitlyChanced ++ grp.equalChanced, row e)) ∨
    (groupId ≠ 0 ∧ ∃ grp, t.groups[groupId - 1]? = some grp ∧
      ∃ e ∈ grp.explicitlyChanced ++ grp.equalChanced, row e)

/-- The template or one it refers to, over any number of references, has such a row. -/
def Includes : LootTemplate × Nat → Prop := Calls.Leads (Refers refs) (HasRow row)

/-- A template, or a group of it, has a row of its own that can be rolled. -/
def RollsRow : LootTemplate × Nat → Prop
  | (t, groupId) =>
    (groupId = 0 ∧ ((∃ e ∈ t.entries, ¬ e.mincountOrRef < 0 ∧ e.CanHit w ∧ row e) ∨
      ∃ grp ∈ t.groups, ∃ e, grp.Selects e ∧ row e)) ∨
    (groupId ≠ 0 ∧ ∃ grp, t.groups[groupId - 1]? = some grp ∧ ∃ e, grp.Selects e ∧ row e)

/-- Such a row can be rolled, over references that can be. -/
def CanRoll : LootTemplate × Nat → Prop := Calls.Leads (Calls w refs) (RollsRow w row)

/-- The references met from a template are the same in the two tables, and lead to no circle. -/
structure Consistent (t : LootTemplate) : Prop where
  alike : ∀ q, ReflTransGen (Refers refs) (t, 0) q → q.2 = 0 →
    ∀ e ∈ q.1.entries, e.mincountOrRef < 0 → store.lookup e.ref = refs.lookup e.ref
  acyclic : ∀ q, ReflTransGen (Refers refs) (t, 0) q → ¬ TransGen (Refers refs) q q

/-- The quest items a row can bring when the templates referred to bring `bound` at most. -/
def questWeight (bound : LootTemplate × Nat → Nat) (e : LootTableItem) : Nat :=
  if e.mincountOrRef < 0 then
    match refs.lookup e.ref with
    | none => 0
    | some referenced => e.maxcount * bound (referenced, e.group)
  else if e.needsQuest then 1 else 0

/-- The rows met from a template, counted as often as they can be rolled at once, bring no more quest items
than a loot has room for. -/
structure Fits (bound : LootTemplate × Nat → Nat) (t : LootTemplate) : Prop where
  template : ∀ q, ReflTransGen (Refers refs) (t, 0) q → q.2 = 0 →
    (q.1.entries.map (questWeight refs bound)).sum + q.1.groups.length ≤ bound q
  group : ∀ q, ReflTransGen (Refers refs) (t, 0) q → q.2 ≠ 0 → 1 ≤ bound q
  room : bound (t, 0) ≤ maxNrQuestItems

variable {w store refs row}

theorem Selects.mem {grp : LootGroup} {e : LootTableItem} (h : grp.Selects e) :
    e ∈ grp.explicitlyChanced ++ grp.equalChanced := by
  rcases h with ⟨before, after, hsplit, -⟩ | ⟨hmem, -⟩
  · rw [hsplit]
    exact List.mem_append_left _ (List.mem_append_right _ List.mem_cons_self)
  · exact List.mem_append_right _ hmem

theorem RollsRow.hasRow {q : LootTemplate × Nat} (h : RollsRow w row q) : HasRow row q := by
  rcases h with ⟨hgroup, ⟨e, he, hplain, -, hrow⟩ | ⟨grp, hgrp, e, he, hrow⟩⟩ | ⟨hgroup, grp, hgrp, e, he, hrow⟩
  · exact Or.inl ⟨hgroup, Or.inl ⟨e, he, hplain, hrow⟩⟩
  · exact Or.inl ⟨hgroup, Or.inr ⟨grp, hgrp, e, Selects.mem he, hrow⟩⟩
  · exact Or.inr ⟨hgroup, grp, hgrp, e, Selects.mem he, hrow⟩

theorem CanRoll.includes {p : LootTemplate × Nat} (h : CanRoll w refs row p) : Includes refs row p :=
  h.mono (fun _ _ => Calls.refers) fun _ => RollsRow.hasRow

/-! ## The search finds what is included -/

theorem anyM_spec {α : Type*} {f : α → Option Bool} {P : α → Prop} {l : List α}
    (h : ∀ a ∈ l, ∃ b, f a = some b ∧ (b = true ↔ P a)) :
    ∃ b, l.anyM f = some b ∧ (b = true ↔ ∃ a ∈ l, P a) := by
  induction l with
  | nil => exact ⟨false, rfl, by simp⟩
  | cons a l ih =>
    obtain ⟨b, hb, hP⟩ := h a List.mem_cons_self
    obtain ⟨c, hc, hrest⟩ := ih fun x hx => h x (List.mem_cons_of_mem a hx)
    rw [List.anyM, hb]
    cases b with
    | true => exact ⟨true, rfl, by simp [hP.1 rfl]⟩
    | false =>
      refine ⟨c, hc, ?_⟩
      have hno : ¬ P a := fun ha => Bool.false_ne_true (hP.2 ha)
      simp [hrest, hno]

theorem hasRow_iff {grp : LootGroup} {test : LootTableItem → Bool} :
    grp.hasRow test = true ↔ ∃ e ∈ grp.explicitlyChanced ++ grp.equalChanced, test e = true := by
  unfold LootGroup.hasRow
  rw [← List.any_append, List.any_eq_true]

variable {test : LootTableItem → Bool} {groupRef groupLoop : LootGroup → Bool}

/-- What a level of the search finds in the rows and groups of its template. -/
def Finds (test : LootTableItem → Bool) (groupRef groupLoop : LootGroup → Bool) : LootTemplate × Nat → Prop
  | (t, groupId) =>
    (groupId = 0 ∧ ((∃ e ∈ t.entries, ¬ e.mincountOrRef < 0 ∧ test e = true) ∨
      ∃ grp ∈ t.groups, groupLoop grp = true)) ∨
    (groupId ≠ 0 ∧ ∃ grp, t.groups[groupId - 1]? = some grp ∧ groupRef grp = true)

theorem hasDropBody_spec {p : LootTemplate × Nat} {call : LootTemplate × Nat → Option Bool}
    (hAlike : p.2 = 0 → ∀ e ∈ p.1.entries, e.mincountOrRef < 0 → store.lookup e.ref = refs.lookup e.ref)
    (hcall : ∀ q, Refers refs p q →
      ∃ b, call q = some b ∧ (b = true ↔ Calls.Leads (Refers refs) (Finds test groupRef groupLoop) q)) :
    ∃ b, hasDropBody store test groupRef groupLoop call p = some b ∧
      (b = true ↔ Calls.Leads (Refers refs) (Finds test groupRef groupLoop) p) := by
  obtain ⟨t, groupId⟩ := p
  rw [Calls.leads_iff]
  unfold hasDropBody
  dsimp only at hAlike ⊢
  by_cases hgroup : groupId = 0
  · rw [if_neg (not_not_intro hgroup)]
    have hentries : ∀ e ∈ t.entries, ∃ b,
        (if e.mincountOrRef < 0 then
          match store.lookup e.ref with
          | none => some false
          | some referenced => call (referenced, e.group)
        else some (test e)) = some b ∧
        (b = true ↔ (¬ e.mincountOrRef < 0 ∧ test e = true) ∨ (e.mincountOrRef < 0 ∧
          ∃ referenced, refs.lookup e.ref = some referenced ∧
            Calls.Leads (Refers refs) (Finds test groupRef groupLoop) (referenced, e.group))) := by
      intro e he
      by_cases hneg : e.mincountOrRef < 0
      · rw [if_pos hneg, hAlike hgroup e he hneg]
        cases hr : refs.lookup e.ref with
        | none => exact ⟨false, rfl, by simp [hneg]⟩
        | some referenced =>
          obtain ⟨b, hb, hfinds⟩ := hcall (referenced, e.group) ⟨hgroup, e, he, hneg, hr, rfl⟩
          exact ⟨b, hb, by simp [hneg, hfinds]⟩
      · exact ⟨test e, by rw [if_neg hneg], by simp [hneg]⟩
    obtain ⟨b, hb, hfound⟩ := anyM_spec hentries
    rw [hb]
    refine ⟨b || t.groups.any groupLoop, rfl, ?_⟩
    rw [Bool.or_eq_true, hfound, List.any_eq_true]
    constructor
    · rintro (⟨e, he, ⟨hplain, hrow⟩ | ⟨hneg, referenced, hr, hfinds⟩⟩ | hloop)
      · exact Or.inl (Or.inl ⟨hgroup, Or.inl ⟨e, he, hplain, hrow⟩⟩)
      · exact Or.inr ⟨(referenced, e.group), ⟨hgroup, e, he, hneg, hr, rfl⟩, hfinds⟩
      · exact Or.inl (Or.inl ⟨hgroup, Or.inr hloop⟩)
    · rintro ((⟨-, ⟨e, he, hplain, hrow⟩ | hloop⟩ | ⟨hzero, -⟩) |
        ⟨⟨referenced, group⟩, ⟨-, e, he, hneg, hr, rfl⟩, hfinds⟩)
      · exact Or.inl ⟨e, he, Or.inl ⟨hplain, hrow⟩⟩
      · exact Or.inr hloop
      · exact absurd hgroup hzero
      · exact Or.inl ⟨e, he, Or.inr ⟨hneg, referenced, hr, hfinds⟩⟩
  · have hno : ∀ q, ¬ Refers refs (t, groupId) q := fun q hq => hgroup hq.1
    rw [if_pos hgroup]
    cases hgrp : t.groups[groupId - 1]? with
    | none =>
      refine ⟨false, rfl, iff_of_false Bool.false_ne_true ?_⟩
      rintro ((⟨hzero, -⟩ | ⟨-, grp, hsome, -⟩) | ⟨q, hq, -⟩)
      · exact hgroup hzero
      · rw [hgrp] at hsome
        cases hsome
      · exact hno q hq
    | some grp =>
      refine ⟨groupRef grp, rfl, fun hrow => Or.inl (Or.inr ⟨hgroup, grp, hgrp, hrow⟩), ?_⟩
      rintro ((⟨hzero, -⟩ | ⟨-, grp', hsome, hrow⟩) | ⟨q, hq, -⟩)
      · exact absurd hzero hgroup
      · rw [hgrp] at hsome
        cases hsome
        exact hrow
      · exact absurd hq (hno q)

/-- **The search** returns true just when it finds something in what the template leads to. -/
theorem search_spec {t : LootTemplate} (hcons : Consistent store refs t) :
    Returns (fun depth => Calls.run (hasDropBody store test groupRef groupLoop) none depth (t, 0)) true ↔
      Calls.Leads (Refers refs) (Finds test groupRef groupLoop) (t, 0) := by
  have hall : ∀ᶠ depth in atTop,
      ∃ b, Calls.run (hasDropBody store test groupRef groupLoop) none depth (t, 0) = some b ∧
        (b = true ↔ Calls.Leads (Refers refs) (Finds test groupRef groupLoop) (t, 0)) :=
    Calls.eventually_run
      (Q := fun q o => ∃ b, o = some b ∧ (b = true ↔ Calls.Leads (Refers refs) (Finds test groupRef groupLoop) q))
      (fun _ q hq hcall => hasDropBody_spec (hcons.alike q hq) hcall) (refers_finite t 0) hcons.acyclic
  constructor
  · intro htrue
    obtain ⟨depth, hdepth, b, hb, hfinds⟩ := (htrue.and hall).exists
    exact hfinds.1 (Option.some.inj (hb.symm.trans hdepth))
  · intro hfinds
    refine hall.mono fun depth hdepth => ?_
    obtain ⟨b, hb, hiff⟩ := hdepth
    exact hb.trans (congrArg some (hiff.2 hfinds))

theorem finds_iff {q : LootTemplate × Nat} (href : ∀ grp, groupRef grp = grp.hasRow test)
    (hloop : q.2 = 0 → ∀ grp ∈ q.1.groups, groupLoop grp = grp.hasRow test) :
    Finds test groupRef groupLoop q ↔ HasRow (fun e => test e = true) q := by
  obtain ⟨t, groupId⟩ := q
  unfold Finds HasRow
  simp only [href, hasRow_iff]
  refine or_congr (and_congr_right fun hgroup => or_congr Iff.rfl ?_) Iff.rfl
  refine exists_congr fun grp => and_congr_right fun hgrp => ?_
  rw [hloop hgroup grp hgrp, hasRow_iff]

/-! ## `Process` adds what can be rolled -/

/-- A row that drops from a row is that row itself, or drops from what it refers to. -/
theorem rowDrops_letter {lang : LootTemplate × Nat → Language LootTableItem} {x e : LootTableItem}
    {u : List LootTableItem} (hu : u ∈ rowDrops w refs lang x) (he : e ∈ u) :
    (¬ x.mincountOrRef < 0 ∧ x.CanHit w ∧ e = x) ∨
      (x.Live w ∧ ∃ referenced, refs.lookup x.ref = some referenced ∧ ∃ v ∈ lang (referenced, x.group), e ∈ v) := by
  rcases (Language.mem_add _ _ _).1 hu with ⟨hhit, hu⟩ | ⟨-, hu⟩
  · by_cases hneg : x.mincountOrRef < 0
    · rw [if_pos hneg] at hu
      cases hr : refs.lookup x.ref with
      | none =>
        rw [hr] at hu
        obtain rfl := (Language.mem_one _).1 hu
        cases he
      | some referenced =>
        rw [hr] at hu
        dsimp only at hu
        rw [pow_eq_prod] at hu
        obtain ⟨i, hi, v, hv, hev⟩ := letter_of_prod hu he
        have hchance : 100 ≤ x.chance ∨ 0 < x.chance * w.rateReferenced := by
          unfold LootTableItem.CanHit LootTableItem.modifier at hhit
          rwa [if_pos hneg] at hhit
        exact Or.inr ⟨⟨hneg, Nat.lt_of_le_of_lt (Nat.zero_le i) (List.mem_range.1 hi), hchance⟩,
          referenced, rfl, v, hv, hev⟩
    · rw [if_neg hneg] at hu
      obtain rfl : u = [x] := hu
      exact Or.inl ⟨hneg, hhit, List.mem_singleton.1 he⟩
  · obtain rfl := (Language.mem_one _).1 hu
    cases he

theorem groupDrops_letter {grp : LootGroup} {e : LootTableItem} {u : List LootTableItem} (hu : u ∈ grp.drops)
    (he : e ∈ u) : grp.Selects e := by
  rcases hu with ⟨x, hsel, rfl⟩ | ⟨-, -, rfl⟩
  · exact List.mem_singleton.1 he ▸ hsel
  · cases he

theorem canRoll_of_drops {depth : Nat} : ∀ {p : LootTemplate × Nat} {u : List LootTableItem} {e : LootTableItem},
    u ∈ Calls.run (dropsBody w refs) 0 depth p → e ∈ u → row e → CanRoll w refs row p := by
  induction depth with
  | zero => exact fun hu => absurd hu (Language.notMem_zero _)
  | succ depth ih =>
    rintro ⟨t, groupId⟩ u e hu he hrow
    change u ∈ dropsBody w refs (Calls.run (dropsBody w refs) 0 depth) (t, groupId) at hu
    generalize Calls.run (dropsBody w refs) 0 depth = lang at ih hu
    unfold dropsBody at hu
    dsimp only at hu
    unfold CanRoll
    rw [Calls.leads_iff]
    by_cases hgroup : groupId = 0
    · rw [if_neg (not_not_intro hgroup)] at hu
      obtain ⟨v, hv, v', hv', rfl⟩ := Language.mem_mul.1 hu
      rcases List.mem_append.1 he with he | he
      · obtain ⟨x, hx, y, hy, hey⟩ := letter_of_prod hv he
        rcases rowDrops_letter hy hey with ⟨hplain, hhit, rfl⟩ | ⟨hlive, referenced, hr, z, hz, hez⟩
        · exact Or.inl (Or.inl ⟨hgroup, Or.inl ⟨e, hx, hplain, hhit, hrow⟩⟩)
        · exact Or.inr ⟨(referenced, x.group), ⟨hgroup, x, hx, hlive, hr, rfl⟩, ih hz hez hrow⟩
      · obtain ⟨grp, hmem, y, hy, hey⟩ := letter_of_prod hv' he
        exact Or.inl (Or.inl ⟨hgroup, Or.inr ⟨grp, hmem, e, groupDrops_letter hy hey, hrow⟩⟩)
    · rw [if_pos hgroup] at hu
      cases hsome : t.groups[groupId - 1]? with
      | none =>
        rw [hsome] at hu
        obtain rfl := (Language.mem_one _).1 hu
        cases he
      | some grp =>
        rw [hsome] at hu
        exact Or.inl (Or.inr ⟨hgroup, grp, hsome, e, groupDrops_letter hu he, hrow⟩)

theorem groupDrops_exists (grp : LootGroup) : ∃ u, u ∈ grp.drops := by
  obtain ⟨u, hu, -⟩ := (Looting.processGroup_realizes (w := bareWorld) grp).sound luck {} _ rfl
  exact ⟨u, hu⟩

variable {lang : LootTemplate × Nat → Language LootTableItem}

theorem live_of_hit {x : LootTableItem} (hneg : x.mincountOrRef < 0) (hmax : 0 < x.maxcount) (hhit : x.CanHit w) :
    x.Live w := by
  unfold LootTableItem.CanHit LootTableItem.modifier at hhit
  rw [if_pos hneg] at hhit
  exact ⟨hneg, hmax, hhit⟩

theorem hit_of_live {x : LootTableItem} (h : x.Live w) : x.CanHit w := by
  unfold LootTableItem.CanHit LootTableItem.modifier
  rw [if_pos h.isRef]
  exact h.chance

/-- Something, be it nothing, drops from a row when it does from what it refers to. -/
theorem rowDrops_exists {x : LootTableItem}
    (h : x.Live w → ∀ referenced, refs.lookup x.ref = some referenced → ∃ u, u ∈ lang (referenced, x.group)) :
    ∃ u, u ∈ rowDrops w refs lang x := by
  by_cases hmiss : x.CanMiss w
  · exact ⟨[], (Language.mem_add _ _ _).2 (Or.inr ⟨hmiss, Language.nil_mem_one⟩)⟩
  · have hhit : x.CanHit w := by
      by_cases hsure : 100 ≤ x.chance
      · exact Or.inl hsure
      · refine Or.inr (lt_of_lt_of_le (by decide) (not_lt.1 fun hlt => hmiss ⟨not_le.1 hsure, hlt⟩))
    unfold rowDrops
    simp only [Language.mem_add, mem_given]
    by_cases hneg : x.mincountOrRef < 0
    · rw [if_pos hneg]
      cases hr : refs.lookup x.ref with
      | none => exact ⟨[], Or.inl ⟨hhit, Language.nil_mem_one⟩⟩
      | some referenced =>
        dsimp only
        rw [pow_eq_prod]
        obtain ⟨u, hu⟩ := exists_mem_prod (l := List.range x.maxcount) (K := fun _ => lang (referenced, x.group))
          fun i hi => h (live_of_hit hneg (Nat.lt_of_le_of_lt (Nat.zero_le i) (List.mem_range.1 hi)) hhit)
            referenced hr
        exact ⟨u, Or.inl ⟨hhit, hu⟩⟩
    · rw [if_neg hneg]
      exact ⟨[x], Or.inl ⟨hhit, rfl⟩⟩

theorem rowDrops_plain {x : LootTableItem} (hplain : ¬ x.mincountOrRef < 0) (hhit : x.CanHit w) :
    [x] ∈ rowDrops w refs lang x := by
  refine (Language.mem_add _ _ _).2 (Or.inl ⟨hhit, ?_⟩)
  rw [if_neg hplain]
  rfl

theorem rowDrops_ref {x e : LootTableItem} {referenced : LootTemplate} (hlive : x.Live w)
    (hr : refs.lookup x.ref = some referenced) (he : ∃ u ∈ lang (referenced, x.group), e ∈ u) :
    ∃ u ∈ rowDrops w refs lang x, e ∈ u := by
  obtain ⟨u, hu, heu⟩ := he
  obtain ⟨v, hv, hev⟩ := exists_letter_prod (l := List.range x.maxcount)
    (K := fun _ => lang (referenced, x.group)) (fun _ _ => ⟨u, hu⟩)
    ⟨0, List.mem_range.2 hlive.multiple, u, hu, heu⟩
  refine ⟨v, (Language.mem_add _ _ _).2 (Or.inl ⟨hit_of_live hlive, ?_⟩), hev⟩
  rw [if_pos hlive.isRef, hr]
  dsimp only
  rwa [pow_eq_prod]

theorem dropsBody_exists {p : LootTemplate × Nat}
    (hcall : ∀ q, Calls w refs p q → (∃ u, u ∈ lang q) ∧ (CanRoll w refs row q → ∃ e, row e ∧ ∃ u ∈ lang q, e ∈ u)) :
    (∃ u, u ∈ dropsBody w refs lang p) ∧
      (CanRoll w refs row p → ∃ e, row e ∧ ∃ u ∈ dropsBody w refs lang p, e ∈ u) := by
  obtain ⟨t, groupId⟩ := p
  unfold dropsBody CanRoll
  rw [Calls.leads_iff]
  dsimp only
  by_cases hgroup : groupId = 0
  · rw [if_neg (not_not_intro hgroup)]
    have hrows : ∀ x ∈ t.entries, ∃ u, u ∈ rowDrops w refs lang x := fun x hx =>
      rowDrops_exists fun hlive referenced hr => (hcall (referenced, x.group) ⟨hgroup, x, hx, hlive, hr, rfl⟩).1
    have hgroups : ∀ grp ∈ t.groups, ∃ u, u ∈ LootGroup.drops grp := fun grp _ => groupDrops_exists grp
    obtain ⟨u, hu⟩ := exists_mem_prod hrows
    obtain ⟨v, hv⟩ := exists_mem_prod hgroups
    refine ⟨⟨u ++ v, Language.append_mem_mul hu hv⟩, ?_⟩
    have hentry : ∀ e, (∃ x ∈ t.entries, ∃ z ∈ rowDrops w refs lang x, e ∈ z) →
        ∃ z ∈ (t.entries.map (rowDrops w refs lang)).prod * (t.groups.map LootGroup.drops).prod, e ∈ z := by
      intro e he
      obtain ⟨z, hz, hez⟩ := exists_letter_prod hrows he
      exact ⟨z ++ v, Language.append_mem_mul hz hv, List.mem_append_left v hez⟩
    rintro ((⟨-, ⟨e, he, hplain, hhit, hrow⟩ | ⟨grp, hmem, e, hsel, hrow⟩⟩ | ⟨hzero, -⟩) |
      ⟨⟨referenced, group⟩, ⟨-, x, hx, hlive, hr, rfl⟩, hcan⟩)
    · exact ⟨e, hrow, hentry e ⟨e, he, [e], rowDrops_plain hplain hhit, List.mem_cons_self⟩⟩
    · obtain ⟨z, hz, hez⟩ := exists_letter_prod hgroups
        ⟨grp, hmem, [e], Or.inl ⟨e, hsel, rfl⟩, List.mem_cons_self⟩
      exact ⟨e, hrow, u ++ z, Language.append_mem_mul hu hz, List.mem_append_right u hez⟩
    · exact absurd hgroup hzero
    · obtain ⟨e, hrow, he⟩ := (hcall (referenced, x.group) ⟨hgroup, x, hx, hlive, hr, rfl⟩).2 hcan
      exact ⟨e, hrow, hentry e ⟨x, hx, rowDrops_ref hlive hr he⟩⟩
  · rw [if_pos hgroup]
    cases hsome : t.groups[groupId - 1]? with
    | none =>
      refine ⟨⟨[], Language.nil_mem_one⟩, ?_⟩
      rintro ((⟨hzero, -⟩ | ⟨-, grp, hgrp, -⟩) | ⟨q, hq, -⟩)
      · exact absurd hzero hgroup
      · rw [hsome] at hgrp
        cases hgrp
      · exact absurd hq.1 hgroup
    | some grp =>
      refine ⟨groupDrops_exists grp, ?_⟩
      rintro ((⟨hzero, -⟩ | ⟨-, grp', hgrp, e, hsel, hrow⟩) | ⟨q, hq, -⟩)
      · exact absurd hzero hgroup
      · rw [hsome] at hgrp
        cases hgrp
        exact ⟨e, hrow, [e], Or.inl ⟨e, hsel, rfl⟩, List.mem_cons_self⟩
      · exact absurd hq.1 hgroup

theorem drops_exists {p : LootTemplate × Nat} (hfin : {q | ReflTransGen (Calls w refs) p q}.Finite)
    (hcircle : ∀ q, ReflTransGen (Calls w refs) p q → ¬ TransGen (Calls w refs) q q)
    (h : CanRoll w refs row p) :
    ∃ depth e, row e ∧ ∃ u ∈ Calls.run (dropsBody w refs) 0 depth p, e ∈ u := by
  obtain ⟨depth, -, hdepth⟩ := (Calls.eventually_run
    (Q := fun q (L : Language LootTableItem) =>
      (∃ u, u ∈ L) ∧ (CanRoll w refs row q → ∃ e, row e ∧ ∃ u ∈ L, e ∈ u))
    (fun _ _ _ hcall => dropsBody_exists hcall) hfin hcircle).exists
  exact ⟨depth, hdepth h⟩

/-! ### How much can drop -/

/-- The quest items of a word. -/
def questCount (u : List LootTableItem) : Nat := (questIdsOf u).length

theorem questCount_append (u v : List LootTableItem) : questCount (u ++ v) = questCount u + questCount v := by
  unfold questCount
  rw [questIdsOf_append, List.length_append]

theorem groupDrops_count {grp : LootGroup} {u : List LootTableItem} (hu : u ∈ grp.drops) : questCount u ≤ 1 := by
  have hlen : u.length ≤ 1 := by
    rcases hu with ⟨e, -, rfl⟩ | ⟨-, -, rfl⟩
    · exact le_refl 1
    · exact Nat.zero_le 1
  unfold questCount questIdsOf
  rw [List.length_map]
  exact (List.length_filter_le _ u).trans hlen

theorem rowDrops_count {bound : LootTemplate × Nat → Nat} {x : LootTableItem} {u : List LootTableItem}
    (h : x.mincountOrRef < 0 → ∀ referenced, refs.lookup x.ref = some referenced →
      ∀ v ∈ lang (referenced, x.group), questCount v ≤ bound (referenced, x.group))
    (hu : u ∈ rowDrops w refs lang x) : questCount u ≤ questWeight refs bound x := by
  rcases (Language.mem_add _ _ _).1 hu with ⟨-, hu⟩ | ⟨-, hu⟩
  · unfold questWeight
    by_cases hneg : x.mincountOrRef < 0
    · rw [if_pos hneg] at hu ⊢
      cases hr : refs.lookup x.ref with
      | none =>
        rw [hr] at hu
        obtain rfl := (Language.mem_one _).1 hu
        exact Nat.zero_le _
      | some referenced =>
        rw [hr] at hu
        dsimp only at hu ⊢
        rw [pow_eq_prod] at hu
        have hsum := count_le_prod (by rfl) questCount_append (fun _ _ => h hneg referenced hr) hu
        rwa [List.map_const', List.sum_replicate_nat, List.length_range] at hsum
    · rw [if_neg hneg] at hu ⊢
      obtain rfl : u = [x] := hu
      unfold questCount questIdsOf
      rw [List.length_map, ← List.countP_eq_length_filter, List.countP_singleton]
  · obtain rfl := (Language.mem_one _).1 hu
    exact Nat.zero_le _

theorem drops_count {bound : LootTemplate × Nat → Nat} {t : LootTemplate} (h : Fits refs bound t) {depth : Nat} :
    ∀ {q : LootTemplate × Nat} {u : List LootTableItem}, ReflTransGen (Refers refs) (t, 0) q →
      u ∈ Calls.run (dropsBody w refs) 0 depth q → questCount u ≤ bound q := by
  induction depth with
  | zero => exact fun _ hu => absurd hu (Language.notMem_zero _)
  | succ depth ih =>
    rintro ⟨s, groupId⟩ u hq hu
    change u ∈ dropsBody w refs (Calls.run (dropsBody w refs) 0 depth) (s, groupId) at hu
    generalize Calls.run (dropsBody w refs) 0 depth = lang at ih hu
    unfold dropsBody at hu
    dsimp only at hu
    by_cases hgroup : groupId = 0
    · rw [if_neg (not_not_intro hgroup)] at hu
      obtain ⟨v, hv, v', hv', rfl⟩ := Language.mem_mul.1 hu
      have hrows : questCount v ≤ (s.entries.map (questWeight refs bound)).sum :=
        count_le_prod (by rfl) questCount_append (fun x hx y hy => rowDrops_count
          (fun hneg referenced hr z hz => ih (hq.tail ⟨hgroup, x, hx, hneg, hr, rfl⟩) hz) hy) hv
      have hgroups := count_le_prod (by rfl) questCount_append (c := fun _ => 1)
        (fun _ _ _ hy => groupDrops_count hy) hv'
      rw [List.map_const', List.sum_replicate_nat, Nat.mul_one] at hgroups
      have hbound := h.template (s, groupId) hq hgroup
      rw [questCount_append]
      dsimp only at hbound
      omega
    · rw [if_pos hgroup] at hu
      have hone : 1 ≤ bound (s, groupId) := h.group (s, groupId) hq hgroup
      cases hsome : s.groups[groupId - 1]? with
      | none =>
        rw [hsome] at hu
        obtain rfl := (Language.mem_one _).1 hu
        exact Nat.zero_le _
      | some grp =>
        rw [hsome] at hu
        exact (groupDrops_count hu).trans hone

/-! ## What `Process` adds -/

theorem process_questIds {dice : Dice} {depth : Nat} {t : LootTemplate} {g : Looting}
    (h : process w refs dice depth t 0 {} = some g) :
    ∃ u ∈ drops w refs depth t 0, g.questIds = (questIdsOf u).take maxNrQuestItems := by
  obtain ⟨u, hu, heffect⟩ := (process_realizes depth t 0).sound dice {} g h
  exact ⟨u, hu, heffect (Nat.zero_le _)⟩

instance : Inhabited Draw := ⟨luck 0⟩

theorem process_exists {depth : Nat} {t : LootTemplate} {u : List LootTableItem} (hu : u ∈ drops w refs depth t 0) :
    ∃ dice g, process w refs dice depth t 0 {} = some g ∧ g.questIds = (questIdsOf u).take maxNrQuestItems := by
  obtain ⟨g, heffect, hcan⟩ := (@process_realizes w refs depth t 0).complete u hu {}
  obtain ⟨dice, hdice⟩ := hcan.exists
  exact ⟨dice, g, hdice, heffect (Nat.zero_le _)⟩

theorem mem_questIdsOf {u : List LootTableItem} {id : Nat} :
    id ∈ questIdsOf u ↔ ∃ e ∈ u, e.needsQuest = true ∧ e.itemid = id := by
  unfold questIdsOf
  simp only [List.mem_map, List.mem_filter, and_assoc]

variable {t : LootTemplate}

/-- Some rolls add a quest item. -/
def AddsQuestItem (w : LootWorld) (refs : LootTemplateMap) (t : LootTemplate) : Prop :=
  ∃ dice depth g, process w refs dice depth t 0 {} = some g ∧ g.loot.questItems ≠ []

/-- Some rolls add a quest item that the player needs. -/
def AddsNeededItem (w : LootWorld) (refs : LootTemplateMap) (hasQuestForItem : Nat → Bool) (t : LootTemplate) : Prop :=
  ∃ dice depth g, process w refs dice depth t 0 {} = some g ∧
    ∃ it ∈ g.loot.questItems, hasQuestForItem it.itemid = true

variable {t : LootTemplate} {hasQuestForItem : Nat → Bool}

theorem AddsQuestItem.canRoll (h : AddsQuestItem w refs t) :
    CanRoll w refs (fun e => e.needsQuest = true) (t, 0) := by
  obtain ⟨dice, depth, g, hg, hne⟩ := h
  obtain ⟨u, hu, hids⟩ := process_questIds hg
  have hids' : g.questIds ≠ [] := fun h => hne (List.map_eq_nil_iff.1 h)
  rw [hids] at hids'
  obtain ⟨id, hid⟩ := List.exists_mem_of_ne_nil _ hids'
  obtain ⟨e, he, hquest, -⟩ := mem_questIdsOf.1 (List.mem_of_mem_take hid)
  exact canRoll_of_drops hu he hquest

theorem AddsNeededItem.canRoll (h : AddsNeededItem w refs hasQuestForItem t) :
    CanRoll w refs (fun e => e.needsQuest = true ∧ hasQuestForItem e.itemid = true) (t, 0) := by
  obtain ⟨dice, depth, g, hg, it, hit, hneeds⟩ := h
  obtain ⟨u, hu, hids⟩ := process_questIds hg
  have hid : it.itemid ∈ g.questIds := List.mem_map.2 ⟨it, hit, rfl⟩
  rw [hids] at hid
  obtain ⟨e, he, hquest, heq⟩ := mem_questIdsOf.1 (List.mem_of_mem_take hid)
  exact canRoll_of_drops hu he ⟨hquest, heq ▸ hneeds⟩

/-- **A quest item** can be added when a quest drop can be rolled. -/
theorem CanRoll.addsQuestItem (hcircle : ∀ q, ReflTransGen (Calls w refs) (t, 0) q → ¬ TransGen (Calls w refs) q q)
    (h : CanRoll w refs (fun e => e.needsQuest = true) (t, 0)) : AddsQuestItem w refs t := by
  obtain ⟨depth, e, hquest, u, hu, he⟩ := drops_exists (calls_finite t 0) hcircle h
  obtain ⟨dice, g, hg, hids⟩ := process_exists hu
  refine ⟨dice, depth, g, hg, fun hnil => ?_⟩
  have hmem : e.itemid ∈ questIdsOf u := mem_questIdsOf.2 ⟨e, he, hquest, rfl⟩
  have hempty : (questIdsOf u).take maxNrQuestItems = [] := by
    rw [← hids]
    exact List.map_eq_nil_iff.2 hnil
  rcases List.take_eq_nil_iff.1 hempty with hzero | hnone
  · cases hzero
  · rw [hnone] at hmem
    cases hmem

/-- **A quest item the player needs**, in a loot that has room for all that can drop. -/
theorem CanRoll.addsNeededItem {bound : LootTemplate × Nat → Nat} (hfits : Fits refs bound t)
    (hcircle : ∀ q, ReflTransGen (Calls w refs) (t, 0) q → ¬ TransGen (Calls w refs) q q)
    (h : CanRoll w refs (fun e => e.needsQuest = true ∧ hasQuestForItem e.itemid = true) (t, 0)) :
    AddsNeededItem w refs hasQuestForItem t := by
  obtain ⟨depth, e, ⟨hquest, hneeds⟩, u, hu, he⟩ := drops_exists (calls_finite t 0) hcircle h
  obtain ⟨dice, g, hg, hids⟩ := process_exists hu
  have hcount : (questIdsOf u).length ≤ maxNrQuestItems :=
    (drops_count hfits ReflTransGen.refl hu).trans hfits.room
  rw [List.take_of_length_le hcount] at hids
  have hid : e.itemid ∈ g.questIds := by
    rw [hids]
    exact mem_questIdsOf.2 ⟨e, he, hquest, rfl⟩
  obtain ⟨it, hit, heq⟩ := List.mem_map.1 hid
  exact ⟨dice, depth, g, hg, it, hit, by rw [heq]; exact hneeds⟩

theorem Consistent.calls_acyclic (h : Consistent store refs t) :
    ∀ q, ReflTransGen (Calls w refs) (t, 0) q → ¬ TransGen (Calls w refs) q q := fun q hq hcircle =>
  h.acyclic q (hq.lift id fun _ _ => Calls.refers) (hcircle.lift id fun _ _ => Calls.refers)

theorem haveQuestLootFor_iff {loot_id : Nat} (ht : store.lookup loot_id = some t) (hcons : Consistent store refs t) :
    Returns (fun depth => LootTemplateMap.haveQuestLootFor store depth loot_id) true ↔
      Includes refs (fun e => e.needsQuest = true) (t, 0) := by
  unfold LootTemplateMap.haveQuestLootFor
  rw [ht]
  exact (search_spec hcons).trans (Calls.leads_congr fun _ _ => finds_iff (fun _ => rfl) fun _ _ _ => rfl)

/-- `HaveQuestLootForPlayer` returns whether it finds a row for an item the player needs, or any quest drop in a
group that is not referred to. -/
theorem haveQuestLootForPlayer_iff {loot_id : Nat} (ht : store.lookup loot_id = some t)
    (hcons : Consistent store refs t) :
    Returns (fun depth => LootTemplateMap.haveQuestLootForPlayer store hasQuestForItem depth loot_id) true ↔
      Calls.Leads (Refers refs) (Finds (fun e => hasQuestForItem e.itemid)
        (fun grp => grp.hasQuestDropForPlayer hasQuestForItem) LootGroup.hasQuestDrop) (t, 0) := by
  unfold LootTemplateMap.haveQuestLootForPlayer
  rw [ht]
  exact search_spec hcons

theorem finds_of_needed {q : LootTemplate × Nat}
    (h : HasRow (fun e => e.needsQuest = true ∧ hasQuestForItem e.itemid = true) q) :
    Finds (fun e => hasQuestForItem e.itemid) (fun grp => grp.hasQuestDropForPlayer hasQuestForItem)
      LootGroup.hasQuestDrop q := by
  rcases h with ⟨hgroup, ⟨e, he, hplain, -, hneeds⟩ | ⟨grp, hgrp, e, he, hquest, -⟩⟩ |
    ⟨hgroup, grp, hgrp, e, he, -, hneeds⟩
  · exact Or.inl ⟨hgroup, Or.inl ⟨e, he, hplain, hneeds⟩⟩
  · exact Or.inl ⟨hgroup, Or.inr ⟨grp, hgrp, hasRow_iff.2 ⟨e, he, hquest⟩⟩⟩
  · exact Or.inr ⟨hgroup, grp, hgrp, hasRow_iff.2 ⟨e, he, hneeds⟩⟩

open LootTemplateMap

/-- A world with an item that the rates keep from dropping. -/
def dryWorld : LootWorld where
  getItemPrototype := fun id => if id = 5 then some { quality := 0, partyLoot := false } else none
  isValidCondition := fun _ _ _ => true
  getConditionId := fun _ _ _ => 0
  rateReferenced := 1
  rateQuality := fun _ => 0

/-- A quest drop of item 5. -/
def questRow : LootRow where
  entry := 7
  item := 5
  chanceOrQuestChance := -50
  groupid := 0
  mincountOrRef := 1
  maxcount := 1

def questTemplate : LootTemplate := { entries := [LootTableItem.ofRow dryWorld questRow] }

theorem load_questRow : (loadLootTable dryWorld [questRow]).1 = [(7, questTemplate)] := by
  have hvalid : (LootTableItem.ofRow dryWorld questRow).isValid dryWorld 7 = (true, []) := by decide +kernel
  have hload : loadRow dryWorld ([], []) questRow = ([(7, questTemplate)], []) := by
    unfold loadRow
    rw [if_neg (by decide), show questRow.entry = 7 from rfl]
    simp only [hvalid, if_true]
    rfl
  unfold loadLootTable
  rw [List.foldl_cons, List.foldl_nil, hload]

theorem questTemplate_canRoll {refs : LootTemplateMap} {row : LootTableItem → Prop} :
    ¬ CanRoll dryWorld refs row (questTemplate, 0) := by
  unfold CanRoll
  rw [Calls.leads_iff]
  rintro ((⟨-, ⟨e, he, -, hhit, -⟩ | ⟨grp, hgrp, -⟩⟩ | ⟨hzero, -⟩) | ⟨q, ⟨-, e, he, hlive, -⟩, -⟩)
  · obtain rfl := List.mem_singleton.1 he
    rcases hhit with hsure | hpos
    · exact absurd hsure (by decide)
    · rw [show LootTableItem.modifier dryWorld _ = 0 from rfl, mul_zero] at hpos
      exact lt_irrefl _ hpos
  · cases hgrp
  · exact hzero rfl
  · obtain rfl := List.mem_singleton.1 he
    exact absurd hlive.isRef (by decide)

end LootTemplate

end BlizzLike
