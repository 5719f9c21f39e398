import BlizzLikeCore.Quests.QuestLog
import Mathlib.Data.List.Nodup

/-!
# Previous quests

A quest may ask for one of a list of quests: for one that was rewarded, by its id, or for one that is active, by
its id with a minus.  If that one is of a negative exclusive group, the others of the group have to be in the
same state.  `SatisfyQuestPreviousQuest` decides on the first quest of the list that is in its state; for the
others of an active quest's group it looks at the status of the listed quest once more, and not at theirs
(`satisfies_exactly_iff`).

    loadQuests                : the lists and the groups, from the table
    satisfyQuestPreviousQuest : the check; `none` is a failed assertion
-/

namespace BlizzLike

/-! ## The quests that are loaded -/

/-- A row of `quest_template`, with what is read here. -/
structure QuestRow where
  questId : Nat
  prevQuestId : Int := 0
  nextQuestId : Int := 0
  exclusiveGroup : Int := 0
  questFlags : Nat := 0
  deriving DecidableEq, Repr

/-- `Quest` -/
structure ChainedQuest where
  prevQuests : List Int
  exclusiveGroup : Int
  questFlags : Nat
  deriving DecidableEq, Repr

def ChainedQuest.isRepeatable (qInfo : ChainedQuest) : Bool := qInfo.questFlags &&& questFlagsRepeatable != 0

/-- `mQuestTemplates` and `mExclusiveQuestGroups` -/
structure QuestChains where
  getQuestTemplate : Nat → Option ChainedQuest
  exclusiveQuestGroups : Int → List Nat
  /-- Every quest of a list is there. -/
  listed : ∀ q qInfo, getQuestTemplate q = some qInfo → ∀ p ∈ qInfo.prevQuests, ∃ qPrevInfo,
    getQuestTemplate p.natAbs = some qPrevInfo
  /-- The quests of a group. -/
  grouped : ∀ e q, q ∈ exclusiveQuestGroups e ↔ e ≠ 0 ∧ ∃ qInfo, getQuestTemplate q = some qInfo ∧ qInfo.exclusiveGroup = e

section Load

variable (rows : List QuestRow)

def isLoaded (quest : Nat) : Bool := rows.any fun r => r.questId == quest

/-- What the turn of the loop for a row puts on the list of a quest. -/
def prevQuestsFrom (quest : Nat) (r : QuestRow) : List Int :=
  (if r.questId = quest ∧ r.prevQuestId ≠ 0 ∧ isLoaded rows r.prevQuestId.natAbs then [r.prevQuestId] else []) ++
    if r.nextQuestId ≠ 0 ∧ r.nextQuestId.natAbs = quest then
      [if r.nextQuestId < 0 then -(r.questId : Int) else r.questId]
    else []

def questFrom (r : QuestRow) : ChainedQuest where
  prevQuests := rows.flatMap (prevQuestsFrom rows r.questId)
  exclusiveGroup := r.exclusiveGroup
  questFlags := r.questFlags

variable {rows}

theorem isLoaded_of_mem {r : QuestRow} (hr : r ∈ rows) : isLoaded rows r.questId = true :=
  List.any_eq_true.2 ⟨r, hr, beq_self_eq_true _⟩

theorem exists_of_isLoaded {quest : Nat} (h : isLoaded rows quest = true) (f : QuestRow → ChainedQuest) :
    ∃ qInfo, (rows.find? fun r => r.questId == quest).map f = some qInfo := by
  obtain ⟨r, hr, hq⟩ := List.any_eq_true.1 h
  have hsome : (rows.find? fun r => r.questId == quest).isSome = true := List.find?_isSome.2 ⟨r, hr, hq⟩
  obtain ⟨s, hs⟩ := Option.isSome_iff_exists.1 hsome
  exact ⟨f s, by rw [hs]; rfl⟩

theorem isLoaded_of_prev {quest : Nat} {r : QuestRow} (hr : r ∈ rows) {p : Int} (hp : p ∈ prevQuestsFrom rows quest r) :
    isLoaded rows p.natAbs = true := by
  unfold prevQuestsFrom at hp
  rcases List.mem_append.1 hp with hp | hp
  · split at hp
    · next h =>
      rw [List.mem_singleton.1 hp]
      exact h.2.2
    · cases hp
  · split at hp
    · rw [List.mem_singleton.1 hp]
      have habs : (if r.nextQuestId < 0 then -(r.questId : Int) else r.questId).natAbs = r.questId := by
        split <;> omega
      rw [habs]
      exact isLoaded_of_mem hr
    · cases hp

theorem find_row (hkey : (rows.map QuestRow.questId).Nodup) {r : QuestRow} (hr : r ∈ rows) :
    (rows.find? fun s => s.questId == r.questId) = some r := by
  induction rows with
  | nil => cases hr
  | cons s rows ih =>
    rw [List.map_cons, List.nodup_cons] at hkey
    rw [List.find?_cons]
    rcases List.mem_cons.1 hr with rfl | hr
    · rw [beq_self_eq_true]
    · have hne : s.questId ≠ r.questId := fun he => hkey.1 (he ▸ List.mem_map_of_mem hr)
      rw [beq_eq_false_iff_ne.2 hne]
      exact ih hkey.2 hr

/-- The end of `LoadQuests`, over the quests by id. -/
def loadQuests (rows : List QuestRow) (hkey : (rows.map QuestRow.questId).Nodup) : QuestChains where
  getQuestTemplate quest := (rows.find? fun r => r.questId == quest).map (questFrom rows)
  exclusiveQuestGroups e := (rows.filter fun r => e ≠ 0 ∧ r.exclusiveGroup = e).map QuestRow.questId
  listed := by
    intro q qInfo hq p hp
    obtain ⟨r, -, rfl⟩ := Option.map_eq_some_iff.1 hq
    obtain ⟨s, hs, hp⟩ := List.mem_flatMap.1 hp
    exact exists_of_isLoaded (isLoaded_of_prev hs hp) _
  grouped := by
    intro e q
    rw [List.mem_map]
    constructor
    · rintro ⟨r, hr, rfl⟩
      rw [List.mem_filter, decide_eq_true_eq] at hr
      exact ⟨hr.2.1, questFrom rows r, by rw [find_row hkey hr.1]; rfl, hr.2.2⟩
    · rintro ⟨he, qInfo, hq, hgroup⟩
      obtain ⟨r, hr, rfl⟩ := Option.map_eq_some_iff.1 hq
      refine ⟨r, List.mem_filter.2 ⟨List.mem_of_find?_eq_some hr, decide_eq_true ⟨he, hgroup⟩⟩, ?_⟩
      have hid := List.find?_some hr
      exact beq_iff_eq.1 hid

end Load

/-! ## The check -/

section Player

variable (om : QuestChains) (mQuestStatus : Nat → Option QuestStatusData)

def getQuestRewardStatus (quest : Nat) : Bool :=
  match om.getQuestTemplate quest, mQuestStatus quest with
  | some qInfo, some d => if d.status ≠ .none ∧ qInfo.isRepeatable = false then d.rewarded else false
  | _, _ => false

/-- The loop over a group for a quest that was rewarded. -/
def groupRewarded (prevId : Nat) : List Nat → Bool
  | [] => true
  | excludeId :: ids =>
    if excludeId = prevId then groupRewarded prevId ids
    else
      match mQuestStatus excludeId with
      | none => false
      | some exstatus => if exstatus.rewarded = false then false else groupRewarded prevId ids

/-- The loop over a group for a quest that is active. -/
def groupActive (prevId : Nat) (prevstatus : QuestStatusData) : List Nat → Bool
  | [] => true
  | excludeId :: ids =>
    if excludeId = prevId then groupActive prevId prevstatus ids
    else
      match mQuestStatus excludeId with
      | none => false
      | some exstatus =>
        -- the second status is that of the listed quest again
        if exstatus.status ≠ .incomplete ∧
            (prevstatus.status ≠ .complete ∨ getQuestRewardStatus om mQuestStatus prevId = true) then false
        else groupActive prevId prevstatus ids

/-- The loop over `prevQuests`. -/
def satisfyPrevQuests : List Int → Option Bool
  | [] => some false
  | p :: ps =>
    let prevId := p.natAbs
    match om.getQuestTemplate prevId, mQuestStatus prevId with
    | some qPrevInfo, some prevstatus =>
      let group := om.exclusiveQuestGroups qPrevInfo.exclusiveGroup
      if 0 < p ∧ prevstatus.rewarded then
        if 0 ≤ qPrevInfo.exclusiveGroup then some true
        else if group = [] then none else some (groupRewarded mQuestStatus prevId group)
      else if p < 0 ∧ (prevstatus.status = .incomplete ∨
          prevstatus.status = .complete ∧ getQuestRewardStatus om mQuestStatus prevId = false) then
        if 0 ≤ qPrevInfo.exclusiveGroup then some true
        else if group = [] then none else some (groupActive om mQuestStatus prevId prevstatus group)
      else satisfyPrevQuests ps
    | _, _ => satisfyPrevQuests ps

def satisfyQuestPreviousQuest (qInfo : ChainedQuest) : Option Bool :=
  if qInfo.prevQuests = [] then some true else satisfyPrevQuests om mQuestStatus qInfo.prevQuests

/-! ## What it is to decide -/

/-- A quest that was rewarded. -/
def Rewarded (quest : Nat) : Prop := ∃ d, mQuestStatus quest = some d ∧ d.rewarded = true

/-- A quest that is incomplete, or complete and not rewarded. -/
def Active (quest : Nat) : Prop := ∃ d, mQuestStatus quest = some d ∧
  (d.status = .incomplete ∨ d.status = .complete ∧ getQuestRewardStatus om mQuestStatus quest = false)

/-- The state a listed quest asks for, of a quest. -/
def InState (p : Int) (quest : Nat) : Prop :=
  (0 < p ∧ Rewarded mQuestStatus quest) ∨ (p < 0 ∧ Active om mQuestStatus quest)

/-- The others of the negative group of a listed quest. -/
def Others (p : Int) (quest : Nat) : Prop := ∃ qPrevInfo, om.getQuestTemplate p.natAbs = some qPrevInfo ∧
  qPrevInfo.exclusiveGroup < 0 ∧ quest ∈ om.exclusiveQuestGroups qPrevInfo.exclusiveGroup ∧ quest ≠ p.natAbs

/-- **A quest can be taken**: it asks for none, or for one that is in its state with the others of its group. -/
def MaySatisfy (qInfo : ChainedQuest) : Prop :=
  qInfo.prevQuests = [] ∨ ∃ p ∈ qInfo.prevQuests, InState om mQuestStatus p p.natAbs ∧
    ∀ quest, Others om p quest → InState om mQuestStatus p quest

/-- At most one of the list is in its state. -/
def AtMostOne (qInfo : ChainedQuest) : Prop := ∀ p ∈ qInfo.prevQuests, ∀ p' ∈ qInfo.prevQuests,
  InState om mQuestStatus p p.natAbs → InState om mQuestStatus p' p'.natAbs → p = p'

/-- **The slip**: an active quest of a negative group is taken for all of its group.  If it is incomplete, the
others are not let through when they are complete; if it is complete, they are whatever their status is. -/
def Misjudged (p : Int) : Prop := p < 0 ∧ ∃ d, mQuestStatus p.natAbs = some d ∧
  ((d.status = .incomplete ∧ (∀ quest, Others om p quest → Active om mQuestStatus quest) ∧
      ∃ quest, Others om p quest ∧ ∀ e, mQuestStatus quest = some e → e.status ≠ .incomplete) ∨
    (d.status = .complete ∧ getQuestRewardStatus om mQuestStatus p.natAbs = false ∧
      (∀ quest, Others om p quest → (mQuestStatus quest).isSome = true) ∧
      ∃ quest, Others om p quest ∧ ¬ Active om mQuestStatus quest))

/-- Whom the loop over the group lets through. -/
def LetThrough (p : Int) (quest : Nat) : Prop :=
  (0 < p ∧ Rewarded mQuestStatus quest) ∨ (p < 0 ∧ ∃ d, mQuestStatus quest = some d ∧
    (d.status = .incomplete ∨ ∃ prevstatus, mQuestStatus p.natAbs = some prevstatus ∧ prevstatus.status = .complete ∧
      getQuestRewardStatus om mQuestStatus p.natAbs = false))

end Player

variable {om : QuestChains} {mQuestStatus : Nat → Option QuestStatusData} {p : Int} {ps : List Int}

/-! ## The loops -/

theorem groupRewarded_iff (prevId : Nat) (ids : List Nat) :
    groupRewarded mQuestStatus prevId ids = true ↔ ∀ quest ∈ ids, quest ≠ prevId → Rewarded mQuestStatus quest := by
  induction ids with
  | nil => simp [groupRewarded]
  | cons excludeId ids ih =>
    rw [List.forall_mem_cons, groupRewarded, ← ih]
    by_cases hself : excludeId = prevId
    · simp [hself]
    rw [if_neg hself]
    cases hstatus : mQuestStatus excludeId with
    | none => simp [Rewarded, hself, hstatus]
    | some exstatus => cases hrew : exstatus.rewarded <;> simp [Rewarded, hself, hstatus, hrew]

theorem groupActive_iff (prevId : Nat) (prevstatus : QuestStatusData) (ids : List Nat) :
    groupActive om mQuestStatus prevId prevstatus ids = true ↔ ∀ quest ∈ ids, quest ≠ prevId →
      ∃ d, mQuestStatus quest = some d ∧ (d.status = .incomplete ∨
        prevstatus.status = .complete ∧ getQuestRewardStatus om mQuestStatus prevId = false) := by
  induction ids with
  | nil => simp [groupActive]
  | cons excludeId ids ih =>
    rw [List.forall_mem_cons, groupActive, ← ih]
    by_cases hself : excludeId = prevId
    · simp [hself]
    rw [if_neg hself]
    cases hstatus : mQuestStatus excludeId with
    | none => simp [hself]
    | some exstatus =>
      dsimp only
      split
      · next hno =>
        have hnot : ¬(exstatus.status = .incomplete ∨
            prevstatus.status = .complete ∧ getQuestRewardStatus om mQuestStatus prevId = false) := by
          rintro (hi | ⟨hc, hr⟩)
          · exact hno.1 hi
          · rcases hno.2 with h | h
            · exact h hc
            · rw [hr] at h
              cases h
        simp [hself, hnot]
      · next hyes =>
        have hlet : exstatus.status = .incomplete ∨
            prevstatus.status = .complete ∧ getQuestRewardStatus om mQuestStatus prevId = false := by
          by_contra hnot
          rw [not_or, not_and, Bool.not_eq_false] at hnot
          refine hyes ⟨hnot.1, ?_⟩
          by_cases hc : prevstatus.status = .complete
          · exact Or.inr (hnot.2 hc)
          · exact Or.inl hc
        simp [hself, hlet]

theorem satisfyPrevQuests_skip (hno : ¬ InState om mQuestStatus p p.natAbs) :
    satisfyPrevQuests om mQuestStatus (p :: ps) = satisfyPrevQuests om mQuestStatus ps := by
  rw [satisfyPrevQuests]
  dsimp only
  split
  · next qPrevInfo prevstatus hinfo hstatus =>
    rw [if_neg, if_neg]
    · rintro ⟨hneg, hact⟩
      exact hno (Or.inr ⟨hneg, prevstatus, hstatus, hact⟩)
    · rintro ⟨hpos, hrew⟩
      exact hno (Or.inl ⟨hpos, prevstatus, hstatus, hrew⟩)
  · rfl

theorem group_ne_nil {quest : Nat} {qInfo : ChainedQuest} (hq : om.getQuestTemplate quest = some qInfo)
    (hneg : ¬ 0 ≤ qInfo.exclusiveGroup) : om.exclusiveQuestGroups qInfo.exclusiveGroup ≠ [] :=
  List.ne_nil_of_mem ((om.grouped _ _).2 ⟨by omega, qInfo, hq, rfl⟩)

/-- **The first quest in its state** decides. -/
theorem satisfyPrevQuests_stop {qPrevInfo : ChainedQuest} (hq : om.getQuestTemplate p.natAbs = some qPrevInfo)
    (hin : InState om mQuestStatus p p.natAbs) : ∃ b, satisfyPrevQuests om mQuestStatus (p :: ps) = some b ∧
      (b = true ↔ ∀ quest, Others om p quest → LetThrough om mQuestStatus p quest) := by
  have hothers : ∀ quest, Others om p quest ↔ qPrevInfo.exclusiveGroup < 0 ∧
      quest ∈ om.exclusiveQuestGroups qPrevInfo.exclusiveGroup ∧ quest ≠ p.natAbs := by
    intro quest
    unfold Others
    simp [hq]
  rcases hin with ⟨hpos, prevstatus, hstatus, hrew⟩ | ⟨hneg, prevstatus, hstatus, hact⟩
  · rw [satisfyPrevQuests]
    simp only [hq, hstatus]
    rw [if_pos ⟨hpos, hrew⟩]
    by_cases hgroup : 0 ≤ qPrevInfo.exclusiveGroup
    · refine ⟨true, if_pos hgroup, iff_of_true rfl fun quest ho => ?_⟩
      exact absurd ((hothers quest).1 ho).1 (Int.not_lt.2 hgroup)
    rw [if_neg hgroup, if_neg (group_ne_nil hq hgroup)]
    refine ⟨_, rfl, ?_⟩
    rw [groupRewarded_iff]
    constructor
    · intro hall quest ho
      obtain ⟨-, hmem, hne⟩ := (hothers quest).1 ho
      exact Or.inl ⟨hpos, hall quest hmem hne⟩
    · intro hall quest hmem hne
      rcases hall quest ((hothers quest).2 ⟨Int.not_le.1 hgroup, hmem, hne⟩) with ⟨-, hr⟩ | ⟨hneg, -⟩
      · exact hr
      · omega
  · rw [satisfyPrevQuests]
    simp only [hq, hstatus]
    have hnot : ¬(0 < p ∧ prevstatus.rewarded = true) := fun h => by omega
    rw [if_neg hnot, if_pos ⟨hneg, hact⟩]
    by_cases hgroup : 0 ≤ qPrevInfo.exclusiveGroup
    · refine ⟨true, if_pos hgroup, iff_of_true rfl fun quest ho => ?_⟩
      exact absurd ((hothers quest).1 ho).1 (Int.not_lt.2 hgroup)
    rw [if_neg hgroup, if_neg (group_ne_nil hq hgroup)]
    refine ⟨_, rfl, ?_⟩
    rw [groupActive_iff]
    constructor
    · intro hall quest ho
      obtain ⟨-, hmem, hne⟩ := (hothers quest).1 ho
      obtain ⟨d, hd, hlet⟩ := hall quest hmem hne
      refine Or.inr ⟨hneg, d, hd, hlet.imp_right fun hc => ⟨prevstatus, hstatus, hc⟩⟩
    · intro hall quest hmem hne
      rcases hall quest ((hothers quest).2 ⟨Int.not_le.1 hgroup, hmem, hne⟩) with ⟨hpos, -⟩ | ⟨-, d, hd, hlet⟩
      · omega
      · refine ⟨d, hd, hlet.imp_right ?_⟩
        rintro ⟨prev', hprev', hc⟩
        cases hstatus.symm.trans hprev'
        exact hc

theorem satisfyPrevQuests_none (hno : ∀ p ∈ ps, ¬ InState om mQuestStatus p p.natAbs) :
    satisfyPrevQuests om mQuestStatus ps = some false := by
  induction ps with
  | nil => rfl
  | cons p ps ih =>
    rw [List.forall_mem_cons] at hno
    rw [satisfyPrevQuests_skip hno.1, ih hno.2]

theorem satisfyPrevQuests_one {qPrevInfo : ChainedQuest} (hq : om.getQuestTemplate p.natAbs = some qPrevInfo)
    (hin : InState om mQuestStatus p p.natAbs) (hp : p ∈ ps)
    (hone : ∀ p' ∈ ps, InState om mQuestStatus p' p'.natAbs → p' = p) :
    ∃ b, satisfyPrevQuests om mQuestStatus ps = some b ∧
      (b = true ↔ ∀ quest, Others om p quest → LetThrough om mQuestStatus p quest) := by
  induction ps with
  | nil => cases hp
  | cons p' ps ih =>
    rw [List.forall_mem_cons] at hone
    by_cases hp' : InState om mQuestStatus p' p'.natAbs
    · obtain rfl := hone.1 hp'
      exact satisfyPrevQuests_stop hq hin
    · rw [satisfyPrevQuests_skip hp']
      refine ih ?_ hone.2
      rcases List.mem_cons.1 hp with rfl | hp
      · exact absurd hin hp'
      · exact hp

/-! ## The slip -/

theorem Misjudged.inState (h : Misjudged om mQuestStatus p) : InState om mQuestStatus p p.natAbs := by
  obtain ⟨hneg, d, hd, ⟨hi, -⟩ | ⟨hc, hr, -⟩⟩ := h
  · exact Or.inr ⟨hneg, d, hd, Or.inl hi⟩
  · exact Or.inr ⟨hneg, d, hd, Or.inr ⟨hc, hr⟩⟩

theorem letThrough_iff {prevstatus : QuestStatusData} (hneg : p < 0) (hstatus : mQuestStatus p.natAbs = some prevstatus)
    (quest : Nat) : LetThrough om mQuestStatus p quest ↔ ∃ d, mQuestStatus quest = some d ∧
      (d.status = .incomplete ∨ prevstatus.status = .complete ∧ getQuestRewardStatus om mQuestStatus p.natAbs = false) := by
  unfold LetThrough
  constructor
  · rintro (⟨hpos, -⟩ | ⟨-, d, hd, h⟩)
    · omega
    · refine ⟨d, hd, h.imp_right ?_⟩
      rintro ⟨prev', hprev', hc⟩
      cases hstatus.symm.trans hprev'
      exact hc
  · rintro ⟨d, hd, h⟩
    exact Or.inr ⟨hneg, d, hd, h.imp_right fun hc => ⟨prevstatus, hstatus, hc⟩⟩

theorem inState_iff_of_neg (hneg : p < 0) (quest : Nat) :
    InState om mQuestStatus p quest ↔ Active om mQuestStatus quest := by
  constructor
  · rintro (⟨hpos, -⟩ | ⟨-, h⟩)
    · omega
    · exact h
  · exact fun h => Or.inr ⟨hneg, h⟩

theorem letThrough_iff_inState_of_pos (hpos : 0 < p) (quest : Nat) :
    LetThrough om mQuestStatus p quest ↔ InState om mQuestStatus p quest := by
  unfold LetThrough InState
  constructor
  · rintro (h | ⟨hneg, -⟩)
    · exact Or.inl h
    · omega
  · rintro (h | ⟨hneg, -⟩)
    · exact Or.inl h
    · omega

/-- **The group is judged as it should be** just if the slip does not show. -/
theorem letThrough_iff_inState (hin : InState om mQuestStatus p p.natAbs) :
    ((∀ quest, Others om p quest → LetThrough om mQuestStatus p quest) ↔
      ∀ quest, Others om p quest → InState om mQuestStatus p quest) ↔ ¬ Misjudged om mQuestStatus p := by
  rcases hin with ⟨hpos, hrew⟩ | ⟨hneg, prevstatus, hstatus, hact⟩
  · refine iff_of_true ?_ fun hm => ?_
    · simp only [letThrough_iff_inState_of_pos hpos]
    · have := hm.1
      omega
  simp only [inState_iff_of_neg hneg, letThrough_iff hneg hstatus]
  rcases hact with hi | ⟨hc, hr⟩
  · -- only those that are incomplete are let through
    have hnotc : prevstatus.status ≠ .complete := by rw [hi]; decide
    have hfewer : (∀ quest, Others om p quest → ∃ d, mQuestStatus quest = some d ∧
        (d.status = .incomplete ∨ prevstatus.status = .complete ∧ getQuestRewardStatus om mQuestStatus p.natAbs = false)) →
        ∀ quest, Others om p quest → Active om mQuestStatus quest := by
      intro hall quest ho
      obtain ⟨d, hd, h⟩ := hall quest ho
      exact ⟨d, hd, Or.inl (h.resolve_right fun h => hnotc h.1)⟩
    constructor
    · rintro hiff ⟨-, d, hd, ⟨-, hall, quest, ho, hne⟩ | ⟨hc, -⟩⟩
      · obtain ⟨e, he, h⟩ := hiff.2 hall quest ho
        exact hne e he (h.resolve_right fun h => hnotc h.1)
      · cases hstatus.symm.trans hd
        exact hnotc hc
    · intro hno
      refine ⟨hfewer, fun hall quest ho => ?_⟩
      by_contra hlet'
      refine hno ⟨hneg, prevstatus, hstatus, Or.inl ⟨hi, hall, quest, ho, fun e he hie => ?_⟩⟩
      exact hlet' ⟨e, he, Or.inl hie⟩
  · -- all that have a status are let through
    have hmore : (∀ quest, Others om p quest → Active om mQuestStatus quest) →
        ∀ quest, Others om p quest → ∃ d, mQuestStatus quest = some d ∧
        (d.status = .incomplete ∨
          prevstatus.status = .complete ∧ getQuestRewardStatus om mQuestStatus p.natAbs = false) := by
      intro hall quest ho
      obtain ⟨d, hd, -⟩ := hall quest ho
      exact ⟨d, hd, Or.inr ⟨hc, hr⟩⟩
    constructor
    · rintro hiff ⟨-, d, hd, ⟨hi, -⟩ | ⟨-, -, hall, quest, ho, hne⟩⟩
      · cases hstatus.symm.trans hd
        rw [hc] at hi
        cases hi
      · refine hne (hiff.1 (fun quest ho => ?_) quest ho)
        obtain ⟨e, he⟩ := Option.isSome_iff_exists.1 (hall quest ho)
        exact ⟨e, he, Or.inr ⟨hc, hr⟩⟩
    · intro hno
      refine ⟨fun hall quest ho => ?_, hmore⟩
      by_contra hact
      refine hno ⟨hneg, prevstatus, hstatus, Or.inr ⟨hc, hr, fun quest ho => ?_, quest, ho, hact⟩⟩
      obtain ⟨e, he, -⟩ := hall quest ho
      rw [he]
      rfl

/-- **The check is right exactly where the slip does not show**, for every quest that asks for at most one quest
that is in its state. -/
theorem satisfies_exactly_iff (om : QuestChains) (mQuestStatus : Nat → Option QuestStatusData) (questId : Nat)
    (qInfo : ChainedQuest) (hq : om.getQuestTemplate questId = some qInfo) (hone : AtMostOne om mQuestStatus qInfo) :
    (satisfyQuestPreviousQuest om mQuestStatus qInfo = some true ↔ MaySatisfy om mQuestStatus qInfo) ↔
      ∀ p ∈ qInfo.prevQuests, ¬ Misjudged om mQuestStatus p := by
  unfold satisfyQuestPreviousQuest MaySatisfy
  by_cases hnil : qInfo.prevQuests = []
  · simp [hnil]
  rw [if_neg hnil]
  by_cases hany : ∃ p ∈ qInfo.prevQuests, InState om mQuestStatus p p.natAbs
  · obtain ⟨p, hp, hin⟩ := hany
    obtain ⟨qPrevInfo, hprev⟩ := om.listed questId qInfo hq p hp
    have honly : ∀ p' ∈ qInfo.prevQuests, InState om mQuestStatus p' p'.natAbs → p' = p :=
      fun p' hp' hin' => hone p' hp' p hp hin' hin
    obtain ⟨b, hb, htrue⟩ := satisfyPrevQuests_one hprev hin hp honly
    have hspec : (qInfo.prevQuests = [] ∨ ∃ p ∈ qInfo.prevQuests, InState om mQuestStatus p p.natAbs ∧
        ∀ quest, Others om p quest → InState om mQuestStatus p quest) ↔
          ∀ quest, Others om p quest → InState om mQuestStatus p quest := by
      constructor
      · rintro (h | ⟨p', hp', hin', hall⟩)
        · exact absurd h hnil
        · rw [← honly p' hp' hin']
          exact hall
      · exact fun hall => Or.inr ⟨p, hp, hin, hall⟩
    have hmis : (∀ p' ∈ qInfo.prevQuests, ¬ Misjudged om mQuestStatus p') ↔ ¬ Misjudged om mQuestStatus p := by
      constructor
      · exact fun hall => hall p hp
      · intro hno p' hp' hm
        rw [honly p' hp' hm.inState] at hm
        exact hno hm
    rw [hb, Option.some_inj, htrue, hspec, hmis]
    exact letThrough_iff_inState hin
  · have hno : ∀ p ∈ qInfo.prevQuests, ¬ InState om mQuestStatus p p.natAbs := fun p hp hin => hany ⟨p, hp, hin⟩
    rw [satisfyPrevQuests_none hno]
    refine iff_of_true (iff_of_false (by decide) ?_) fun p hp hm => hno p hp hm.inState
    rintro (h | ⟨p, hp, hin, -⟩)
    · exact hnil h
    · exact hno p hp hin

/-! ## A group of two -/

/-- Quest 3 asks for quest 1, while it is active; quest 2 is of its group. -/
def sampleRows : List QuestRow :=
  [{ questId := 1, exclusiveGroup := -1 }, { questId := 2, exclusiveGroup := -1 }, { questId := 3, prevQuestId := -1 }]

def sampleChains : QuestChains := loadQuests sampleRows (by decide)

def sampleStatus (first second : QuestStatus) : Nat → Option QuestStatusData := fun quest =>
  if quest = 1 then some { status := first } else if quest = 2 then some { status := second } else none

def sampleQuest : ChainedQuest := questFrom sampleRows { questId := 3, prevQuestId := -1 }

theorem sampleChains_one (mQuestStatus : Nat → Option QuestStatusData) :
    AtMostOne sampleChains mQuestStatus sampleQuest := by
  intro p hp p' hp' _ _
  have hlist : sampleQuest.prevQuests = [-1] := by decide
  rw [hlist, List.mem_singleton] at hp hp'
  rw [hp, hp']

theorem satisfies_exactly_iff_sample :
    satisfyQuestPreviousQuest sampleChains (sampleStatus .incomplete .incomplete) sampleQuest = some true ↔
      MaySatisfy sampleChains (sampleStatus .incomplete .incomplete) sampleQuest := by
  refine (satisfies_exactly_iff sampleChains _ 3 sampleQuest rfl (sampleChains_one _)).2 ?_
  rintro p hp ⟨-, d, hd, ⟨-, -, quest, ⟨qPrevInfo, hprev, -, hmem, hne⟩, hnot⟩ | ⟨hc, -⟩⟩
  all_goals
    have hlist : sampleQuest.prevQuests = [-1] := by decide
    rw [hlist, List.mem_singleton] at hp
    subst hp
  · cases hprev
    have hgroup : sampleChains.exclusiveQuestGroups (-1) = [1, 2] := by decide
    have hmem' : quest ∈ sampleChains.exclusiveQuestGroups (-1) := hmem
    rw [hgroup] at hmem'
    rcases List.mem_pair.1 hmem' with rfl | rfl
    · exact hne rfl
    · exact hnot { status := .incomplete } rfl rfl
  · cases hd
    cases hc

/-- **One quest incomplete, the other complete**: both are active, and the quest that asks for them cannot be
taken. -/
theorem complete_other_refused :
    satisfyQuestPreviousQuest sampleChains (sampleStatus .incomplete .complete) sampleQuest = some false ∧
      MaySatisfy sampleChains (sampleStatus .incomplete .complete) sampleQuest ∧
      AtMostOne sampleChains (sampleStatus .incomplete .complete) sampleQuest := by
  refine ⟨by decide, Or.inr ⟨-1, by decide, ?_, ?_⟩, sampleChains_one _⟩
  · exact Or.inr ⟨by decide, _, rfl, Or.inl rfl⟩
  · rintro quest ⟨qPrevInfo, hprev, -, hmem, hne⟩
    cases hprev
    have hgroup : sampleChains.exclusiveQuestGroups (-1) = [1, 2] := by decide
    have hmem' : quest ∈ sampleChains.exclusiveQuestGroups (-1) := hmem
    rw [hgroup] at hmem'
    rcases List.mem_pair.1 hmem' with rfl | rfl
    · exact absurd rfl hne
    · exact Or.inr ⟨by decide, _, rfl, Or.inr ⟨rfl, by decide⟩⟩

end BlizzLike
