import BlizzLikeCore.Quests.QuestLog
import BlizzLikeCore.Lib.Transition
import Mathlib.Algebra.BigOperators.Group.List.Basic
import Mathlib.Algebra.GroupWithZero.Nat
import Mathlib.Data.Fin.VecNotation
import Mathlib.Tactic.FinCases

/-!
# The counted items of quests

`m_itemcount` is the number of items a player has, up to the number that is asked for.  When items come or
go it is brought up to date for the first objective about them only, and by how many come or go, also when
there are more than are asked for.

    Counted       : the counts of the quests in the log that are not complete
    Careful       : the condition on a step
    items_counted : the result
-/

namespace BlizzLike

/-- How many of an entry a task is going to store. -/
def QuestTask.storing (entry : Nat) : QuestTask → Nat
  | .store e count => if e = entry then count else 0
  | _ => 0

/-- After the task the quest is not in the log, not to be counted, or counted anew. -/
def QuestTask.settles (quest : Nat) : QuestTask → Bool
  | .rewardDone q => q == quest
  | .adjust q _ => q == quest
  | _ => false

def QuestTask.isAdjust : QuestTask → Bool
  | .adjust _ _ => true
  | _ => false

namespace QuestLog

variable (om : Nat → Option QuestTemplate) (w : QuestLog)

/-! ## The condition -/

/-- A deliver quest in the log that is not complete. -/
structure Counts (quest : Nat) (qInfo : QuestTemplate) : Prop where
  inLog : quest ∈ w.slots
  ne_zero : quest ≠ 0
  template : om quest = some qInfo
  deliver : qInfo.hasFlag questFlagsDeliver = true
  incomplete : (w.questStatus quest).status = .incomplete

/-- What is to be kept. -/
def Counted : Prop :=
  ∀ quest qInfo, Counts om w quest qInfo → ∀ j, qInfo.reqItemId j ≠ 0 →
    (w.questStatus quest).itemcount j = min (qInfo.reqItemCount j) (w.items (qInfo.reqItemId j))

def pending (entry : Nat) (todo : List QuestTask) : Nat := (todo.map (QuestTask.storing entry)).sum

/-- How many of an entry there are when all is stored. -/
def expected (entry : Nat) : Nat := w.items entry + pending entry w.todo

/-- The quest is being rewarded or accepted. -/
def unsettled (quest : Nat) : Bool := w.todo.any (QuestTask.settles quest)

/-- All that the other objectives about an entry ask for is there. -/
def OthersFilled (first : Nat × Fin 4) (entry n : Nat) : Prop :=
  ∀ quest qInfo j, Counts om w quest qInfo → w.unsettled quest = false → qInfo.reqItemId j = entry →
    (quest, j) ≠ first → qInfo.reqItemCount j ≤ n

/-- The other objectives of a quest that is not counted are right when items go. -/
def RightElse (quest : Nat) (j : Fin 4) (entry count : Nat) : Prop :=
  ∀ qInfo i, om quest = some qInfo → i ≠ j → qInfo.reqItemId i ≠ 0 →
    (w.questStatus quest).itemcount i = min (qInfo.reqItemCount i)
      (w.expected (qInfo.reqItemId i) - if qInfo.reqItemId i = entry then count else 0)

/-- The condition on a loss, about the first objective that is found. -/
structure CarefulLoss (entry count : Nat) (sold : Bool) (quest : Nat) (j : Fin 4) : Prop where
  others : count = 0 ∨ OthersFilled om w (quest, j) entry (w.expected entry - count)
  fits : reqItemCount om quest j + count < 4294967296
  enough : (w.questStatus quest).status ≠ .complete → count ≤ (w.questStatus quest).itemcount j
  notSold : (w.questStatus quest).status = .complete → sold = true →
    reqItemCount om quest j + count ≤ w.items entry - count
  few : w.unsettled quest = false → (w.questStatus quest).status = .incomplete →
    count = 0 ∨ w.expected entry ≤ reqItemCount om quest j
  reopened : w.unsettled quest = false → (w.questStatus quest).status ≠ .incomplete →
    ((w.questStatus quest).status = .complete ∧ reqItemCount om quest j + count ≤ w.items entry) ∨
      (RightElse om w quest j entry count ∧ w.items entry = w.expected entry ∧
        w.items entry ≤ reqItemCount om quest j ∧
        ((w.questStatus quest).status ≠ .complete → (w.questStatus quest).itemcount j = w.items entry))

/-- The condition on a task before it runs. -/
def carefulTask : QuestTask → Prop
  | .gain entry count => w.expected entry + count < 4294967296 ∧
      ∀ first, w.firstObjective om (fun status => status ≠ .incomplete) entry = some first →
        count = 0 ∨ OthersFilled om w first entry (w.expected entry)
  | .lose entry count sold => ∀ quest j, w.firstObjective om (fun _ => false) entry = some (quest, j) →
      CarefulLoss om w entry count sold quest j
  | _ => True

/-- The condition on a step. -/
def Careful (e : QuestView × QuestEvent) : Prop :=
  ∀ t rest, w.todo = t :: rest → e.2 = .run → w.carefulTask om t

/-! ## The invariant -/

/-- `AddQuest` is not called by what goes on. -/
def AdjustLast : List QuestTask → Prop
  | [] => True
  | t :: ts => (t.isAdjust = true → ts = []) ∧ AdjustLast ts

structure Sound : Prop where
  counted : ∀ quest qInfo, Counts om w quest qInfo → w.unsettled quest = false → ∀ j, qInfo.reqItemId j ≠ 0 →
    (w.questStatus quest).itemcount j = min (qInfo.reqItemCount j) (w.expected (qInfo.reqItemId j))
  small : ∀ entry, w.expected entry < 4294967296
  zero : ∀ quest qInfo j, om quest = some qInfo → qInfo.hasFlag questFlagsDeliver = true →
    qInfo.reqItemCount j = 0 → (w.questStatus quest).itemcount j = 0
  adjusts : AdjustLast w.todo
  noUnderflow : w.underflow = false

variable {om w} {w' : QuestLog} {v : QuestView} {rest ts : List QuestTask} {t : QuestTask}

@[simp] theorem pending_nil (entry : Nat) : pending entry [] = 0 := rfl

@[simp] theorem pending_cons (entry : Nat) (t : QuestTask) (ts : List QuestTask) :
    pending entry (t :: ts) = t.storing entry + pending entry ts := by
  simp [pending]

theorem pending_append (entry : Nat) (h : ∀ t ∈ ts, t.storing entry = 0) :
    pending entry (ts ++ rest) = pending entry rest := by
  have hzero : (ts.map (QuestTask.storing entry)).sum = 0 := List.sum_eq_zero fun x hx => by
    obtain ⟨t, ht, rfl⟩ := List.mem_map.1 hx
    exact h t ht
  simp [pending, hzero]

theorem AdjustLast.append (h : AdjustLast rest) (hts : ∀ t ∈ ts, t.isAdjust = false) : AdjustLast (ts ++ rest) := by
  induction ts with
  | nil => exact h
  | cons t ts ih =>
    refine ⟨fun ha => ?_, ih fun x hx => hts x (List.mem_cons_of_mem _ hx)⟩
    rw [hts t List.mem_cons_self] at ha
    cases ha

/-! ## The first objective -/

theorem firstObjective_some {skips : QuestStatus → Bool} {entry quest : Nat} {j : Fin 4}
    (h : w.firstObjective om skips entry = some (quest, j)) :
    quest ∈ w.slots ∧ quest ≠ 0 ∧ skips (w.questStatus quest).status = false ∧
      ∃ qInfo, om quest = some qInfo ∧ qInfo.hasFlag questFlagsDeliver = true ∧ qInfo.reqItemId j = entry := by
  obtain ⟨q, hq, hfound⟩ := List.exists_of_findSome?_eq_some h
  split at hfound
  · cases hfound
  · next hskip =>
    split at hfound
    · next qInfo hom =>
      split at hfound
      · next hdeliver =>
        obtain ⟨i, hi, he⟩ := Option.map_eq_some_iff.1 hfound
        cases he
        have hentry := List.find?_some hi
        exact ⟨hq, fun hz => hskip (.inl hz), by simpa using fun hs => hskip (.inr hs), qInfo, hom, hdeliver,
          by simpa using hentry⟩
      · cases hfound
    · cases hfound

theorem firstObjective_none {skips : QuestStatus → Bool} {entry quest : Nat} {qInfo : QuestTemplate}
    (h : w.firstObjective om skips entry = none) (hq : quest ∈ w.slots) (h0 : quest ≠ 0)
    (hskip : skips (w.questStatus quest).status = false) (hom : om quest = some qInfo)
    (hdeliver : qInfo.hasFlag questFlagsDeliver = true) (j : Fin 4) : qInfo.reqItemId j ≠ entry := by
  have hnone := List.findSome?_eq_none_iff.1 h quest hq
  rw [if_neg (by simp [h0, hskip])] at hnone
  simp only [hom, hdeliver, if_true, Option.map_eq_none_iff, List.find?_eq_none] at hnone
  simpa using hnone j (List.mem_finRange j)

theorem reqItemCount_eq {quest : Nat} {qInfo : QuestTemplate} (h : om quest = some qInfo) (j : Fin 4) :
    reqItemCount om quest j = qInfo.reqItemCount j := by
  simp [QuestLog.reqItemCount, h]

/-! ## Steps that count nothing -/

theorem Sound.keep (h : Sound om w) (hstatus : w'.questStatus = w.questStatus)
    (hexp : ∀ entry, w'.expected entry = w.expected entry)
    (hcounts : ∀ quest qInfo, Counts om w' quest qInfo → w'.unsettled quest = false →
      Counts om w quest qInfo ∧ w.unsettled quest = false)
    (hadj : AdjustLast w'.todo) (hunder : w'.underflow = w.underflow) : Sound om w' := by
  refine ⟨fun quest qInfo hc hs j hj => ?_, fun entry => ?_, fun quest qInfo j hom hd hz => ?_, hadj, ?_⟩
  · obtain ⟨hc', hs'⟩ := hcounts quest qInfo hc hs
    rw [hstatus, hexp]
    exact h.counted quest qInfo hc' hs' j hj
  · rw [hexp]
    exact h.small entry
  · rw [hstatus]
    exact h.zero quest qInfo j hom hd hz
  · rw [hunder]
    exact h.noUnderflow

theorem Sound.push (h : Sound om w) (hts : ∀ t ∈ ts, (∀ entry, t.storing entry = 0) ∧ t.isAdjust = false) :
    Sound om (w.push ts) := by
  refine h.keep rfl (fun entry => ?_) (fun quest qInfo hc hs => ⟨⟨hc.1, hc.2, hc.3, hc.4, hc.5⟩, ?_⟩)
    (h.adjusts.append fun t ht => (hts t ht).2) rfl
  · simp [expected, QuestLog.push, pending_append entry fun t ht => (hts t ht).1 entry]
  · unfold unsettled QuestLog.push at hs
    rw [List.any_append, Bool.or_eq_false_iff] at hs
    exact hs.2

theorem Sound.close (h : Sound om w) (quest : Nat) {f : QuestStatusData → QuestStatusData}
    (hitems : ∀ d, (f d).itemcount = d.itemcount)
    (hstatus : ∀ d, d = w.questStatus quest → (f d).status = .incomplete → d.status = .incomplete) :
    Sound om (w.change quest f) := by
  have hsame : ∀ q, ((w.change quest f).questStatus q).itemcount = (w.questStatus q).itemcount := by
    intro q
    rcases eq_or_ne q quest with rfl | hne
    · simp [QuestLog.change, hitems]
    · simp [QuestLog.change, Function.update_of_ne hne]
  refine ⟨fun q qInfo hc hs j hj => ?_, h.small, fun q qInfo j hom hd hz => ?_, h.adjusts, h.noUnderflow⟩
  · rw [hsame]
    refine h.counted q qInfo ⟨hc.1, hc.2, hc.3, hc.4, ?_⟩ hs j hj
    have hinc := hc.incomplete
    rcases eq_or_ne q quest with rfl | hne
    · refine hstatus _ rfl ?_
      simpa [QuestLog.change] using hinc
    · simpa [QuestLog.change, Function.update_of_ne hne] using hinc
  · rw [hsame]
    exact h.zero q qInfo j hom hd hz

theorem Sound.setQuestStatus (h : Sound om w) (quest : Nat) {status : QuestStatus} (hs : status ≠ .incomplete) :
    Sound om (w.setQuestStatus om quest status) := by
  unfold QuestLog.setQuestStatus
  split
  · exact h.close quest (fun _ => rfl) fun d _ hinc => absurd hinc hs
  · exact h

theorem rewardQuest_sound (h : Sound om w) (quest : Nat) (qInfo : QuestTemplate) (reward : Fin 6) :
    Sound om (w.rewardQuest quest qInfo reward) := by
  refine h.push fun t ht => ?_
  simp only [List.mem_append, List.mem_map] at ht
  rcases ht with ((⟨i, -, rfl⟩ | ht) | ⟨x, -, rfl⟩) | ht
  · exact ⟨fun _ => rfl, rfl⟩
  · split at ht
    · rw [List.mem_singleton.1 ht]
      exact ⟨fun _ => rfl, rfl⟩
    · cases ht
  · exact ⟨fun _ => rfl, rfl⟩
  · rw [List.mem_singleton.1 ht]
    exact ⟨fun _ => rfl, rfl⟩

theorem completeQuest_sound (h : Sound om w) (quest : Nat) : Sound om (w.completeQuest om quest) := by
  have hset : Sound om (w.setQuestStatus om quest .complete) := h.setQuestStatus quest (by simp)
  unfold completeQuest
  split
  · exact h
  · dsimp only
    split
    · split
      · exact rewardQuest_sound hset quest _ 0
      · exact hset
    · exact hset

/-! ## Items come -/

theorem change_itemcount (quest q : Nat) (i j : Fin 4) (n : Nat) :
    ((w.setItemcount quest j n).questStatus q).itemcount i =
      if q = quest ∧ i = j then n else (w.questStatus q).itemcount i := by
  rcases eq_or_ne q quest with rfl | hne
  · rcases eq_or_ne i j with rfl | hij
    · simp [setItemcount, QuestLog.change]
    · simp [setItemcount, QuestLog.change, hij]
  · simp [setItemcount, QuestLog.change, hne]

theorem change_status (quest q : Nat) (j : Fin 4) (n : Nat) :
    ((w.setItemcount quest j n).questStatus q).status = (w.questStatus q).status := by
  rcases eq_or_ne q quest with rfl | hne
  · simp [setItemcount, QuestLog.change]
  · simp [setItemcount, QuestLog.change, hne]

/-- The number of an entry changes, and no objective that is counted is about that, or it stays filled. -/
theorem Sound.shift (h : Sound om w) {entry : Nat} (hexp : ∀ e, e ≠ entry → w'.expected e = w.expected e)
    (hsmall : w'.expected entry < 4294967296) (hstatus : w'.questStatus = w.questStatus)
    (hslots : w'.slots = w.slots) (hset : ∀ q, w'.unsettled q = w.unsettled q) (hadj : AdjustLast w'.todo)
    (hunder : w'.underflow = w.underflow)
    (hothers : entry ≠ 0 → ∀ q t i, Counts om w q t → w.unsettled q = false → t.reqItemId i = entry →
      min (t.reqItemCount i) (w.expected entry) = min (t.reqItemCount i) (w'.expected entry)) : Sound om w' := by
  refine ⟨fun q t hc hs i hi => ?_, fun e => ?_, fun q t i ht hd hz => ?_, hadj, hunder.trans h.noUnderflow⟩
  · have hc' : Counts om w q t := ⟨hslots ▸ hc.1, hc.2, hc.3, hc.4, hstatus ▸ hc.5⟩
    rw [hset] at hs
    rw [hstatus, h.counted q t hc' hs i hi]
    by_cases he : t.reqItemId i = entry
    · rw [he]
      exact hothers (he ▸ hi) q t i hc' hs he
    · rw [hexp _ he]
  · by_cases he : e = entry
    · rw [he]
      exact hsmall
    · rw [hexp e he]
      exact h.small e
  · rw [hstatus]
    exact h.zero q t i ht hd hz

/-- The number of an entry changes, and the first objective about it is brought up to date. -/
theorem Sound.recount (h : Sound om w) {entry quest n : Nat} {j : Fin 4} {qInfo : QuestTemplate}
    (hom : om quest = some qInfo) (hentry : qInfo.reqItemId j = entry)
    (hexp : ∀ e, e ≠ entry → w'.expected e = w.expected e) (hsmall : w'.expected entry < 4294967296)
    (hitems : ∀ q i, (w'.questStatus q).itemcount i =
      if q = quest ∧ i = j then n else (w.questStatus q).itemcount i)
    (hstatus : ∀ q, q ≠ quest → (w'.questStatus q).status = (w.questStatus q).status)
    (hslots : w'.slots = w.slots) (hset : ∀ q, w'.unsettled q = w.unsettled q) (hadj : AdjustLast w'.todo)
    (hunder : w'.underflow = false)
    (hothers : ∀ q t i, Counts om w q t → w.unsettled q = false → t.reqItemId i = entry → (q, i) ≠ (quest, j) →
      min (t.reqItemCount i) (w.expected entry) = min (t.reqItemCount i) (w'.expected entry))
    (hquest : Counts om w' quest qInfo → w.unsettled quest = false →
      (entry ≠ 0 → n = min (qInfo.reqItemCount j) (w'.expected entry)) ∧ ((w.questStatus quest).status = .incomplete ∨
        ∀ i, i ≠ j → qInfo.reqItemId i ≠ 0 →
          (w.questStatus quest).itemcount i = min (qInfo.reqItemCount i) (w'.expected (qInfo.reqItemId i))))
    (hzero : qInfo.hasFlag questFlagsDeliver = true → qInfo.reqItemCount j = 0 → n = 0) : Sound om w' := by
  have hold : ∀ q t i, Counts om w q t → w.unsettled q = false → t.reqItemId i ≠ 0 → (q, i) ≠ (quest, j) →
      (w.questStatus q).itemcount i = min (t.reqItemCount i) (w'.expected (t.reqItemId i)) := by
    intro q t i hc hs hi hne
    rw [h.counted q t hc hs i hi]
    by_cases he : t.reqItemId i = entry
    · rw [he]
      exact hothers q t i hc hs he hne
    · rw [hexp _ he]
  refine ⟨fun q t hc hs i hi => ?_, fun e => ?_, fun q t i ht hd hz => ?_, hadj, hunder⟩
  · rw [hset] at hs
    rw [hitems]
    split
    · next hqi =>
      obtain ⟨rfl, rfl⟩ := hqi
      cases Option.some.inj (hc.template.symm.trans hom)
      rw [hentry] at hi ⊢
      exact (hquest hc hs).1 hi
    · next hqi =>
      have hne : (q, i) ≠ (quest, j) := by simpa using hqi
      by_cases hq : q = quest
      · subst hq
        have ht : t = qInfo := Option.some.inj (hc.template.symm.trans hom)
        subst ht
        rcases (hquest hc hs).2 with hinc | hright
        · exact hold q t i ⟨hslots ▸ hc.1, hc.2, hc.3, hc.4, hinc⟩ hs hi hne
        · exact hright i (fun hij => hqi ⟨rfl, hij⟩) hi
      · exact hold q t i ⟨hslots ▸ hc.1, hc.2, hc.3, hc.4, (hstatus q hq) ▸ hc.5⟩ hs hi hne
  · by_cases he : e = entry
    · rw [he]
      exact hsmall
    · rw [hexp e he]
      exact h.small e
  · rw [hitems]
    split
    · next hqi =>
      obtain ⟨rfl, rfl⟩ := hqi
      cases Option.some.inj (ht.symm.trans hom)
      exact hzero hd hz
    · exact h.zero q t i ht hd hz

/-- Only what is to be done and the numbers of items differ. -/
structure Alike (w w' : QuestLog) : Prop where
  slots : w'.slots = w.slots
  questStatus : w'.questStatus = w.questStatus
  unsettled : ∀ q, w'.unsettled q = w.unsettled q
  underflow : w'.underflow = w.underflow

theorem Alike.firstObjective (h : Alike w w') (skips : QuestStatus → Bool) (entry : Nat) :
    w'.firstObjective om skips entry = w.firstObjective om skips entry := by
  unfold QuestLog.firstObjective
  rw [h.slots, h.questStatus]

variable {entry count : Nat}

/-- **Items are added** and the first objective about them is brought up to date. -/
theorem itemAddedQuestCheck_sound (h : Sound om w) (ha : Alike w w') (hadj : AdjustLast w'.todo)
    (hexp : ∀ e, e ≠ entry → w'.expected e = w.expected e) (hself : w'.expected entry = w.expected entry + count)
    (hsmall : w.expected entry + count < 4294967296)
    (hothers : ∀ first, w.firstObjective om (fun status => status ≠ .incomplete) entry = some first →
      count = 0 ∨ OthersFilled om w first entry (w.expected entry)) :
    Sound om (w'.itemAddedQuestCheck om v entry count) := by
  unfold itemAddedQuestCheck
  rw [ha.firstObjective]
  cases hf : w.firstObjective om (fun status => decide (status ≠ QuestStatus.incomplete)) entry with
  | none =>
    refine h.shift hexp (hself ▸ hsmall) ha.questStatus ha.slots ha.unsettled hadj ha.underflow
      fun _ q t i hc _ he => ?_
    have hskip : decide ((w.questStatus q).status ≠ QuestStatus.incomplete) = false := by simp [hc.incomplete]
    exact absurd he (firstObjective_none hf hc.inLog hc.ne_zero hskip hc.template hc.deliver i)
  | some first =>
    obtain ⟨quest, j⟩ := first
    obtain ⟨hq, h0, hinc, qInfo, hom, hdeliver, hentry⟩ := firstObjective_some hf
    have hinc : (w.questStatus quest).status = .incomplete := by simpa using hinc
    have hfilled : ∀ q t i, Counts om w q t → w.unsettled q = false → t.reqItemId i = entry →
        (q, i) ≠ (quest, j) →
        min (t.reqItemCount i) (w.expected entry) = min (t.reqItemCount i) (w'.expected entry) := by
      intro q t i hc hs he hqi
      rw [hself]
      rcases hothers _ hf with rfl | hfull
      · rfl
      · have hle := hfull q t i hc hs he hqi
        rw [Nat.min_eq_left hle, Nat.min_eq_left (by omega)]
    -- what the quest had counted
    have hcur : entry ≠ 0 → w.unsettled quest = false →
        (w.questStatus quest).itemcount j = min (qInfo.reqItemCount j) (w.expected entry) := by
      intro hz hs
      rw [← hentry]
      exact h.counted quest qInfo ⟨hq, h0, hom, hdeliver, hinc⟩ hs j (hentry ▸ hz)
    dsimp only
    rw [reqItemCount_eq hom, ha.questStatus]
    have hcount : ∀ n, (entry ≠ 0 → w.unsettled quest = false → n = min (qInfo.reqItemCount j) (w'.expected entry)) →
        (qInfo.reqItemCount j = 0 → n = 0) → Sound om (w'.setItemcount quest j n) := by
      intro n hn hzero
      refine h.recount hom hentry hexp (hself ▸ hsmall) (fun q i => ?_) (fun q hne => ?_) ha.slots ha.unsettled hadj
        (ha.underflow.trans h.noUnderflow) hfilled (fun _ hs => ⟨fun hz => hn hz hs, .inl hinc⟩) fun _ => hzero
      · rw [change_itemcount, ha.questStatus]
      · rw [change_status, ha.questStatus]
    have hend : ∀ x : QuestLog, Sound om x →
        Sound om (if x.canCompleteQuest om v quest then x.completeQuest om quest else x) := by
      intro x hx
      split
      · exact completeQuest_sound hx quest
      · exact hx
    by_cases hlt : (w.questStatus quest).itemcount j < qInfo.reqItemCount j
    · rw [if_pos hlt]
      refine hend _ (hcount _ (fun hz hs => ?_) fun hz => by omega)
      have hc := hcur hz hs
      rw [hself, u32_eq ((w.questStatus quest).itemcount j + count) (by omega)]
      split
      · rw [u32_eq _ (by omega)]
        omega
      · rw [u32_eq _ (by omega)]
        omega
    · -- all that is asked for was there
      rw [if_neg hlt]
      refine hend _ (h.shift hexp (hself ▸ hsmall) ha.questStatus ha.slots ha.unsettled hadj ha.underflow
        fun hz q t i hc hs he => ?_)
      by_cases hqi : (q, i) = (quest, j)
      · cases hqi
        cases Option.some.inj (hc.template.symm.trans hom)
        have hle := hcur hz hs
        omega
      · exact hfilled q t i hc hs he hqi

theorem gain_sound (h : Sound om { w with todo := .gain entry count :: rest })
    (hc : { w with todo := .gain entry count :: rest }.carefulTask om (.gain entry count)) :
    Sound om ({ w with todo := rest }.exec om v (.gain entry count)) := by
  have hexp : ∀ e, ({ w with todo := rest }.push [.store entry count]).expected e =
      { w with todo := .gain entry count :: rest }.expected e + if entry = e then count else 0 := by
    intro e
    simp only [expected, QuestLog.push, List.cons_append, List.nil_append, pending_cons, QuestTask.storing]
    omega
  refine itemAddedQuestCheck_sound h ⟨rfl, rfl, fun _ => rfl, rfl⟩ ⟨fun ha => (nomatch ha), h.adjusts.2⟩
    (fun e he => ?_) ?_ hc.1 hc.2
  · rw [hexp, if_neg (Ne.symm he), Nat.add_zero]
  · rw [hexp, if_pos rfl]

/-! ## Items go -/

/-- What `ItemRemovedQuestCheck` writes to `m_itemcount` when it has counted so many. -/
def removedCount (req count cur : Nat) : Nat := sub32 cur (if cur ≤ req then count else u32 (count + req - cur))

theorem removedCount_spec {req count cur : Nat} (hle : count ≤ cur) (hlt : cur < req + count)
    (hfits : req + count < 4294967296) :
    decide (cur < if cur ≤ req then count else u32 (count + req - cur)) = false ∧
      (cur ≤ req → removedCount req count cur = cur - count) := by
  have hu : cur ≤ req ∨ u32 (count + req - cur) = count + req - cur := .inr (u32_eq _ (by omega))
  refine ⟨?_, fun hreq => ?_⟩
  · rw [decide_eq_false_iff_not]
    split <;> omega
  · rw [removedCount, if_pos hreq, sub32_eq _ _ hle]

theorem incompleteQuest_spec (w : QuestLog) {quest : Nat} (h0 : quest ≠ 0) {qInfo : QuestTemplate}
    (hom : om quest = some qInfo) :
    w.incompleteQuest om quest = w.change quest fun d => { d with status := .incomplete } := by
  rw [incompleteQuest, if_neg h0, QuestLog.setQuestStatus, hom]
  rfl

/-- What a check and the taking of items come to, in whatever order. -/
structure Loses (w w' : QuestLog) (entry count : Nat) : Prop where
  slots : w'.slots = w.slots
  unsettled : ∀ q, w'.unsettled q = w.unsettled q
  adjusts : AdjustLast w'.todo
  other : ∀ e, e ≠ entry → w'.expected e = w.expected e
  self : w'.expected entry = w.expected entry - count

theorem Loses.left (hl : Loses w w' entry count) (h : Sound om w) (hstatus : w'.questStatus = w.questStatus)
    (hunder : w'.underflow = w.underflow)
    (hothers : entry ≠ 0 → ∀ q t i, Counts om w q t → w.unsettled q = false → t.reqItemId i = entry →
      count = 0 ∨ t.reqItemCount i ≤ w.expected entry - count) : Sound om w' := by
  have hsmall := h.small entry
  refine h.shift hl.other (by rw [hl.self]; omega) hstatus hl.slots hl.unsettled hl.adjusts hunder
    fun hz q t i hc hs he => ?_
  rw [hl.self]
  rcases hothers hz q t i hc hs he with hcount | hfull
  · omega
  · omega

theorem Loses.counted (hl : Loses w w' entry count) (h : Sound om w) {quest : Nat} {j : Fin 4} {sold : Bool}
    {cur : Nat} (hf : w.firstObjective om (fun _ => false) entry = some (quest, j))
    (hc : CarefulLoss om w entry count sold quest j) (hle : count ≤ w.items entry)
    (hcur : cur = if (w.questStatus quest).status ≠ .complete then (w.questStatus quest).itemcount j
      else if sold then w.items entry - count else w.items entry)
    (hlt : cur < reqItemCount om quest j + count)
    (hitems : ∀ q i, (w'.questStatus q).itemcount i =
      if q = quest ∧ i = j then removedCount (reqItemCount om quest j) count cur else (w.questStatus q).itemcount i)
    (hstatus : ∀ q, q ≠ quest → (w'.questStatus q).status = (w.questStatus q).status)
    (hunder : w'.underflow = (w.underflow || decide (cur < if cur ≤ reqItemCount om quest j then count
      else u32 (count + reqItemCount om quest j - cur)))) : Sound om w' := by
  obtain ⟨hq, h0, -, qInfo, hom, hdeliver, hentry⟩ := firstObjective_some hf
  have hfits := hc.fits
  have henough := hc.enough
  have hnotSold := hc.notSold
  have hfew := hc.few
  have hreopened := hc.reopened
  have hothers := hc.others
  rw [reqItemCount_eq hom] at *
  have hsmall := h.small entry
  -- the count is enough
  have hcount : count ≤ cur ∧ ((w.questStatus quest).status = .complete → cur = w.items entry) := by
    rw [hcur]
    split
    · next hne => exact ⟨henough hne, fun hcomplete => absurd hcomplete hne⟩
    · next hcomplete =>
      have hcomplete : (w.questStatus quest).status = .complete := by simpa using hcomplete
      cases sold with
      | true =>
        rw [hcur, hcomplete] at hlt
        have := hnotSold hcomplete rfl
        simp at hlt
        omega
      | false => exact ⟨by simpa using hle, fun _ => rfl⟩
  obtain ⟨hno, hval⟩ := removedCount_spec hcount.1 hlt hfits
  refine h.recount hom hentry hl.other (by rw [hl.self]; omega) hitems hstatus hl.slots hl.unsettled hl.adjusts
    (by rw [hunder, hno, h.noUnderflow]; rfl) (fun q t i hcq hs he hqi => ?_) (fun hcq hs => ?_) fun _ hz => ?_
  · rw [hl.self]
    rcases hothers with hcount | hfull
    · omega
    · have := hfull q t i hcq hs he hqi
      omega
  · by_cases hinc : (w.questStatus quest).status = .incomplete
    · refine ⟨fun hz => ?_, .inl hinc⟩
      have hm := h.counted quest qInfo ⟨hq, h0, hom, hdeliver, hinc⟩ hs j (hentry ▸ hz)
      rw [hentry] at hm
      have hcurm : cur = (w.questStatus quest).itemcount j := by rw [hcur, if_pos (by simp [hinc])]
      have hfew' := hfew hs hinc
      rw [hl.self, hval (by omega)]
      omega
    · -- the quest was complete, and is not any more
      have hback := (hreopened hs hinc).resolve_left fun hleft => by
        have := hcount.2 hleft.1
        omega
      obtain ⟨hright, heq, hreq, hm⟩ := hback
      have hcuri : cur = w.items entry := by
        by_cases hcomplete : (w.questStatus quest).status = .complete
        · exact hcount.2 hcomplete
        · rw [hcur, if_pos hcomplete, hm hcomplete]
      refine ⟨fun _ => ?_, .inr fun i hij hi => ?_⟩
      · rw [hl.self, hval (by omega)]
        omega
      · rw [hright qInfo i hom hij hi]
        by_cases he : qInfo.reqItemId i = entry
        · rw [if_pos he, he, hl.self]
        · rw [if_neg he, hl.other _ he, Nat.sub_zero]
  · have hle := hcount.1
    omega

theorem itemRemovedQuestCheck_cases (x : QuestLog) :
    (x.itemRemovedQuestCheck om entry count = x ∧
      ∀ quest j, x.firstObjective om (fun _ => false) entry = some (quest, j) →
        u32 (reqItemCount om quest j + count) ≤ x.countedItems entry quest j) ∨
    ∃ quest j s, x.firstObjective om (fun _ => false) entry = some (quest, j) ∧
      x.countedItems entry quest j < u32 (reqItemCount om quest j + count) ∧
      x.itemRemovedQuestCheck om entry count = { x with
        questStatus := s
        underflow := (x.underflow || decide (x.countedItems entry quest j <
          if x.countedItems entry quest j ≤ reqItemCount om quest j then count
          else u32 (count + reqItemCount om quest j - x.countedItems entry quest j))) } ∧
      (∀ q i, (s q).itemcount i = if q = quest ∧ i = j then
        removedCount (reqItemCount om quest j) count (x.countedItems entry quest j) else (x.questStatus q).itemcount i) ∧
      ∀ q, q ≠ quest → (s q).status = (x.questStatus q).status := by
  unfold itemRemovedQuestCheck
  cases hf : x.firstObjective om (fun _ => false) entry with
  | none => exact .inl ⟨rfl, fun _ _ he => (nomatch he)⟩
  | some first =>
    obtain ⟨quest, j⟩ := first
    obtain ⟨-, h0, -, qInfo, hom, -⟩ := firstObjective_some hf
    dsimp only
    split
    · next hlt =>
      rw [incompleteQuest_spec _ h0 hom]
      refine .inr ⟨quest, j, _, rfl, hlt, rfl, fun q i => ?_, fun q hne => ?_⟩
      · rcases eq_or_ne q quest with rfl | hne
        · rcases eq_or_ne i j with rfl | hij
          · simp [setItemcount, QuestLog.change, removedCount]
          · simp [setItemcount, QuestLog.change, hij]
        · simp [setItemcount, QuestLog.change, hne]
      · simp [setItemcount, QuestLog.change, hne]
    · next hge =>
      refine .inl ⟨rfl, fun q i he => ?_⟩
      cases he
      exact Nat.not_lt.1 hge

theorem itemRemovedQuestCheck_items (x : QuestLog) : (x.itemRemovedQuestCheck om entry count).items = x.items := by
  rcases itemRemovedQuestCheck_cases x with
    ⟨he, -⟩ | ⟨_, _, _, -, -, he, -⟩
  · rw [he]
  · rw [he]

/-- **Items are removed** and the first objective about them is brought up to date. -/
theorem lose_sound {sold : Bool} (h : Sound om { w with todo := .lose entry count sold :: rest })
    (hc : { w with todo := .lose entry count sold :: rest }.carefulTask om (.lose entry count sold)) :
    Sound om ({ w with todo := rest }.exec om v (.lose entry count sold)) := by
  have hsame : ∀ e, { w with todo := rest }.expected e =
      { w with todo := .lose entry count sold :: rest }.expected e := fun e => by
    simp [expected, QuestTask.storing]
  unfold exec
  dsimp only
  by_cases hle : count ≤ w.items entry
  · rw [if_pos hle]
    have htaken : ∀ s u, Loses { w with todo := .lose entry count sold :: rest }
        { { w with todo := rest }.takeItems entry count with questStatus := s, underflow := u } entry count := by
      intro s u
      refine ⟨rfl, fun _ => rfl, h.adjusts.2, fun e he => ?_, ?_⟩
      · rw [← hsame]
        simp [expected, takeItems, he]
      · rw [← hsame]
        simp only [expected, takeItems, Function.update_self]
        omega
    -- the check before or after the items are taken
    have hboth : ∀ x : QuestLog, x.slots = w.slots → x.questStatus = w.questStatus → x.todo = rest →
        x.underflow = w.underflow → x.items entry = (if sold then w.items entry - count else w.items entry) →
        (∀ s u, { x with questStatus := s, underflow := u, items := ({ w with todo := rest }.takeItems entry count).items } =
          { { w with todo := rest }.takeItems entry count with questStatus := s, underflow := u }) →
        Sound om { x.itemRemovedQuestCheck om entry count with
          items := ({ w with todo := rest }.takeItems entry count).items } := by
      intro x hslots hqs htodo hunder hitems hx
      have hfirst : x.firstObjective om (fun _ => false) entry =
          { w with todo := .lose entry count sold :: rest }.firstObjective om (fun _ => false) entry := by
        unfold firstObjective
        rw [hslots, hqs]
      have hsmall := h.small entry
      have hexp := hsame entry
      have hcur : ∀ quest j, x.countedItems entry quest j =
          if (w.questStatus quest).status ≠ .complete then (w.questStatus quest).itemcount j
          else if sold then w.items entry - count else w.items entry := by
        intro quest j
        have hu : u32 (x.items entry) = x.items entry := u32_eq _ (by
          rw [hitems]
          have hle' : w.items entry ≤ { w with todo := .lose entry count sold :: rest }.expected entry :=
            Nat.le_add_right ..
          split <;> omega)
        rw [countedItems, getItemCount, hu, hitems, hqs]
      rcases itemRemovedQuestCheck_cases x with
        ⟨he, hleft⟩ | ⟨quest, j, s, hf, hlt, he, hs, hst⟩
      · rw [he]
        have hx' := hx x.questStatus x.underflow
        have hxe : { x with items := ({ w with todo := rest }.takeItems entry count).items } =
            { { w with todo := rest }.takeItems entry count with questStatus := x.questStatus, underflow := x.underflow } :=
          hx'
        rw [hxe]
        refine (htaken _ _).left h hqs hunder fun hz q t i hcq hs hte => ?_
        cases hf : { w with todo := .lose entry count sold :: rest }.firstObjective om (fun _ => false) entry with
        | none => exact absurd hte (firstObjective_none hf hcq.inLog hcq.ne_zero rfl hcq.template hcq.deliver i)
        | some first =>
          obtain ⟨quest, j⟩ := first
          have hloss := hc quest j hf
          by_cases hqi : (q, i) = (quest, j)
          · cases hqi
            have hm := h.counted q t hcq hs i (hte ▸ hz)
            have hmin : (w.questStatus q).itemcount i ≤ t.reqItemCount i :=
              Nat.le_trans (Nat.le_of_eq hm) (Nat.min_le_left _ _)
            have hge := hleft q i (hfirst.trans hf)
            have hinc : (w.questStatus q).status = .incomplete := hcq.incomplete
            rw [hcur, if_pos (by simp [hinc]), u32_eq _ hloss.fits, reqItemCount_eq hcq.template] at hge
            exact .inl (by omega)
          · exact hloss.others.imp_right fun hfull => hfull q t i hcq hs hte hqi
      · rw [he]
        have hxe : { { x with questStatus := s, underflow := (x.underflow || decide (x.countedItems entry quest j <
            if x.countedItems entry quest j ≤ reqItemCount om quest j then count
            else u32 (count + reqItemCount om quest j - x.countedItems entry quest j))) } with
            items := ({ w with todo := rest }.takeItems entry count).items } = _ := hx s _
        rw [hxe]
        have hloss := hc quest j (hfirst.symm.trans hf)
        rw [u32_eq _ hloss.fits] at hlt
        refine (htaken _ _).counted h (hfirst.symm.trans hf) hloss hle (hcur quest j) hlt (fun q i => ?_)
          (fun q hne => ?_) ?_
        · rw [← hqs]
          exact hs q i
        · rw [← hqs]
          exact hst q hne
        · rw [← hunder]
    cases sold with
    | true =>
      have hx := hboth ({ w with todo := rest }.takeItems entry count) rfl rfl rfl rfl (by simp [takeItems])
        fun _ _ => rfl
      have hitems : (({ w with todo := rest }.takeItems entry count).itemRemovedQuestCheck om entry count).items = _ :=
        itemRemovedQuestCheck_items _
      rw [if_pos rfl]
      rwa [← hitems] at hx
    | false =>
      have hx := hboth { w with todo := rest } rfl rfl rfl rfl rfl fun _ _ => rfl
      have hitems : ({ w with todo := rest }.itemRemovedQuestCheck om entry count).items = _ :=
        itemRemovedQuestCheck_items _
      rw [if_neg (by simp), takeItems, hitems]
      exact hx
  · rw [if_neg hle]
    exact h.keep rfl hsame (fun q t hc hs => ⟨⟨hc.1, hc.2, hc.3, hc.4, hc.5⟩, hs⟩) h.adjusts.2 rfl

/-! ## The other tasks -/

theorem Sound.pop (h : Sound om { w with todo := t :: rest }) (hstoring : ∀ entry, t.storing entry = 0)
    (hsettles : ∀ quest, t.settles quest = false) : Sound om { w with todo := rest } := by
  refine h.keep rfl (fun entry => ?_) (fun q qInfo hc hs => ⟨⟨hc.1, hc.2, hc.3, hc.4, hc.5⟩, ?_⟩) h.adjusts.2 rfl
  · simp [expected, hstoring]
  · have hq := hsettles q
    unfold unsettled at hs ⊢
    rw [List.any_cons, hq]
    exact hs

theorem store_sound (h : Sound om { w with todo := .store entry count :: rest }) :
    Sound om ({ w with todo := rest }.exec om v (.store entry count)) := by
  refine h.keep rfl (fun e => ?_) (fun q qInfo hc hs => ⟨⟨hc.1, hc.2, hc.3, hc.4, hc.5⟩, hs⟩) h.adjusts.2 rfl
  rcases eq_or_ne e entry with rfl | hne
  · simp [expected, exec, addItems, QuestTask.storing]
    omega
  · simp [expected, exec, addItems, QuestTask.storing, hne, Ne.symm hne]

theorem destroyItemCount_sound (h : Sound om { w with todo := .destroyItemCount entry count :: rest }) :
    Sound om ({ w with todo := rest }.exec om v (.destroyItemCount entry count)) := by
  have hpop : Sound om { w with todo := rest } := h.pop (fun _ => rfl) fun _ => rfl
  simp only [exec, destroyTurn]
  cases v.nextStack entry with
  | none => exact hpop
  | some stack =>
    dsimp only
    split
    · refine hpop.push fun t ht => ?_
      rcases List.mem_append.1 ht with ht | ht
      · obtain ⟨x, -, rfl⟩ := List.mem_map.1 ht
        exact ⟨fun _ => rfl, rfl⟩
      · rcases List.mem_cons.1 ht with rfl | ht
        · exact ⟨fun _ => rfl, rfl⟩
        · split at ht
          · cases ht
          · rw [List.mem_singleton.1 ht]
            exact ⟨fun _ => rfl, rfl⟩
    · refine hpop.push fun t ht => ?_
      rw [List.mem_singleton.1 ht]
      exact ⟨fun _ => rfl, rfl⟩

theorem rewardItem_sound (h : Sound om { w with todo := .rewardItem entry count :: rest }) :
    Sound om ({ w with todo := rest }.exec om v (.rewardItem entry count)) := by
  have hpop : Sound om { w with todo := rest } := h.pop (fun _ => rfl) fun _ => rfl
  simp only [exec]
  split
  · refine hpop.push fun t ht => ?_
    rw [List.mem_singleton.1 ht]
    exact ⟨fun _ => rfl, rfl⟩
  · exact hpop

theorem mem_setQuestSlot {slot quest q : Nat} (h : q ∈ (w.setQuestSlot slot quest).slots) : q ∈ w.slots ∨ q = quest :=
  List.mem_or_eq_of_mem_set h

theorem Sound.clearSlot (h : Sound om w) (slot : Nat) : Sound om (w.setQuestSlot slot 0) :=
  h.keep rfl (fun _ => rfl)
    (fun _ _ hc hs => ⟨⟨(mem_setQuestSlot hc.1).resolve_right hc.2, hc.2, hc.3, hc.4, hc.5⟩, hs⟩) h.adjusts rfl

/-- A task is taken off the list that settles a quest, which is not to be counted after it. -/
theorem Sound.settle {quest : Nat} {status : QuestStatus} (h : Sound om { w with todo := t :: rest })
    (hstoring : ∀ entry, t.storing entry = 0) (hsettles : ∀ q, q ≠ quest → t.settles q = false)
    (hs : status ≠ .incomplete) : Sound om ({ w with todo := rest }.setQuestStatus om quest status) := by
  unfold QuestLog.setQuestStatus
  split
  · next hom =>
    have hset := h.close quest (f := fun d => { d with status := status }) (fun _ => rfl)
      fun d _ hinc => absurd hinc hs
    refine hset.keep rfl (fun entry => ?_) (fun q qInfo hc hsettled => ⟨⟨hc.1, hc.2, hc.3, hc.4, hc.5⟩, ?_⟩)
      h.adjusts.2 rfl
    · simp [expected, QuestLog.change, hstoring]
    · have hne : q ≠ quest := by
        rintro rfl
        have hinc := hc.incomplete
        simp [QuestLog.change] at hinc
        exact hs hinc
      have hq := hsettles q hne
      unfold unsettled at hsettled ⊢
      exact (List.any_cons ..).trans (by rw [hq]; exact hsettled)
  · next hom =>
    refine h.keep rfl (fun entry => ?_) (fun q qInfo hc hsettled => ⟨⟨hc.1, hc.2, hc.3, hc.4, hc.5⟩, ?_⟩)
      h.adjusts.2 rfl
    · simp [expected, hstoring]
    · have hne : q ≠ quest := by
        rintro rfl
        exact hom (by rw [hc.template]; rfl)
      have hq := hsettles q hne
      unfold unsettled at hsettled ⊢
      exact (List.any_cons ..).trans (by rw [hq]; exact hsettled)

theorem rewardDone_sound {quest : Nat} (h : Sound om { w with todo := .rewardDone quest :: rest }) :
    Sound om ({ w with todo := rest }.exec om v (.rewardDone quest)) := by
  simp only [exec]
  cases hom : om quest with
  | none =>
    refine h.keep rfl (fun _ => by simp [expected, QuestTask.storing])
      (fun q qInfo hc hs => ⟨⟨hc.1, hc.2, hc.3, hc.4, hc.5⟩, ?_⟩) h.adjusts.2 rfl
    have hne : quest ≠ q := by
      rintro rfl
      cases hom.symm.trans hc.template
    simpa [unsettled, QuestTask.settles, hne] using hs
  | some qInfo =>
    dsimp only
    have hstatus : (if qInfo.hasFlag questFlagsRepeatable then QuestStatus.none else .complete) ≠ .incomplete := by
      split <;> simp
    have hsettle : Sound om ({ w with todo := rest }.setQuestStatus om quest _) :=
      h.settle (fun _ => rfl) (fun q hne => by simp [QuestTask.settles, hne.symm]) hstatus
    have hset := hsettle.clearSlot (QuestLog.findQuestSlot { w with todo := rest } quest)
    have hswap : ∀ slot status, (QuestLog.setQuestSlot { w with todo := rest } slot 0).setQuestStatus om quest status =
        (QuestLog.setQuestStatus om { w with todo := rest } quest status).setQuestSlot slot 0 := by
      intro slot status
      unfold QuestLog.setQuestStatus
      split <;> rfl
    rw [hswap]
    exact hset.close quest (fun _ => rfl) fun d _ hinc => hinc

theorem removeQuest_sound {quest slot : Nat} (h : Sound om { w with todo := .removeQuest quest slot :: rest }) :
    Sound om ({ w with todo := rest }.exec om v (.removeQuest quest slot)) :=
  (h.settle (fun _ => rfl) (fun _ _ => rfl) (by simp)).clearSlot slot

/-- **A quest is accepted**, and is counted from now on. -/
theorem adjust_sound {quest slot : Nat} (h : Sound om { w with todo := .adjust quest slot :: rest }) :
    Sound om ({ w with todo := rest }.exec om v (.adjust quest slot)) := by
  have hnil : rest = [] := h.adjusts.1 rfl
  subst hnil
  have hother : ∀ q, q ≠ quest →
      ({ w with todo := [] }.exec om v (.adjust quest slot)).questStatus q = w.questStatus q := by
    intro q hne
    simp only [exec, QuestLog.setQuestSlot, QuestLog.change, Function.update_of_ne hne]
    unfold adjustQuestReqItemCount
    split
    · split
      · simp [QuestLog.change, hne]
      · rfl
    · rfl
  have hstatus : (({ w with todo := [] }.exec om v (.adjust quest slot)).questStatus quest).status =
      (w.questStatus quest).status := by
    simp only [exec, QuestLog.setQuestSlot, QuestLog.change, Function.update_self]
    unfold adjustQuestReqItemCount
    split
    · split
      · simp [QuestLog.change]
      · rfl
    · rfl
  have hsmall : ∀ entry, w.items entry < 4294967296 := fun entry =>
    Nat.lt_of_le_of_lt (Nat.le_add_right ..) (h.small entry)
  have hcount : ∀ qInfo, om quest = some qInfo → qInfo.hasFlag questFlagsDeliver = true → ∀ j,
      (({ w with todo := [] }.exec om v (.adjust quest slot)).questStatus quest).itemcount j =
        min (qInfo.reqItemCount j) (w.items (qInfo.reqItemId j)) := by
    intro qInfo hom hdeliver j
    simp only [exec, QuestLog.setQuestSlot, QuestLog.change, Function.update_self, adjustQuestReqItemCount, hom,
      hdeliver, if_true]
    by_cases hz : qInfo.reqItemCount j = 0
    · rw [if_neg (by simpa using hz), hz, Nat.zero_min]
      exact h.zero quest qInfo j hom hdeliver hz
    · rw [if_pos hz, getItemCount, u32_eq _ (hsmall _), Nat.min_comm]
  have hfields : ({ w with todo := [] }.exec om v (.adjust quest slot)).todo = [] ∧
      ({ w with todo := [] }.exec om v (.adjust quest slot)).items = w.items ∧
      ({ w with todo := [] }.exec om v (.adjust quest slot)).underflow = w.underflow ∧
      ({ w with todo := [] }.exec om v (.adjust quest slot)).slots = w.slots.set slot quest := by
    simp only [exec, adjustQuestReqItemCount]
    split
    · split
      · exact ⟨rfl, rfl, rfl, rfl⟩
      · exact ⟨rfl, rfl, rfl, rfl⟩
    · exact ⟨rfl, rfl, rfl, rfl⟩
  obtain ⟨htodo, hitems, hunder, hslots⟩ := hfields
  have hexp : ∀ entry, ({ w with todo := [] }.exec om v (.adjust quest slot)).expected entry = w.items entry := by
    intro entry
    rw [expected, htodo, hitems, pending_nil, Nat.add_zero]
  refine ⟨fun q qInfo hc hs j hj => ?_, fun entry => ?_, fun q qInfo j hom hdeliver hz => ?_, ?_, ?_⟩
  · rw [hexp]
    rcases eq_or_ne q quest with rfl | hne
    · exact hcount qInfo hc.template hc.deliver j
    · have hold : Counts om { w with todo := .adjust quest slot :: [] } q qInfo := by
        have hmem := hc.inLog
        rw [hslots] at hmem
        exact ⟨(List.mem_or_eq_of_mem_set hmem).resolve_right hne, hc.2, hc.3, hc.4, hother q hne ▸ hc.5⟩
      rw [hother q hne, h.counted q qInfo hold (by simp [unsettled, QuestTask.settles, Ne.symm hne]) j hj]
      simp [expected, QuestTask.storing]
  · rw [hexp]
    exact hsmall entry
  · rcases eq_or_ne q quest with rfl | hne
    · rw [hcount qInfo hom hdeliver, hz, Nat.zero_min]
    · rw [hother q hne]
      exact h.zero q qInfo j hom hdeliver hz
  · rw [htodo]
    trivial
  · rw [hunder]
    exact h.noUnderflow

/-- **A careful task** leaves the counts right. -/
theorem exec_sound (h : Sound om { w with todo := t :: rest }) (hc : { w with todo := t :: rest }.carefulTask om t) :
    Sound om ({ w with todo := rest }.exec om v t) := by
  cases t with
  | gain entry count => exact gain_sound h hc
  | store entry count => exact store_sound h
  | lose entry count sold => exact lose_sound h hc
  | destroyItemCount entry count => exact destroyItemCount_sound h
  | rewardItem entry count => exact rewardItem_sound h
  | rewardDone quest => exact rewardDone_sound h
  | adjust quest slot => exact adjust_sound h
  | removeQuest quest slot => exact removeQuest_sound h

/-! ## Requests -/

theorem addQuest_sound (h : Sound om w) (htodo : w.todo = []) {quest slot : Nat} {qInfo : QuestTemplate}
    (hom : om quest = some qInfo) : Sound om (w.addQuest v quest slot qInfo) := by
  have hsettles : (w.addQuest v quest slot qInfo).unsettled quest = true := by
    simp [unsettled, addQuest, QuestLog.push, QuestTask.settles]
  have hstoring : ∀ entry, (w.addQuest v quest slot qInfo).expected entry = w.expected entry := by
    intro entry
    simp only [expected, addQuest, QuestLog.push, QuestLog.change, htodo, List.append_nil, pending_nil]
    split <;> simp [QuestTask.storing]
  refine ⟨fun q t hc hs j hj => ?_, fun entry => hstoring entry ▸ h.small entry,
    fun q t j ht hdeliver hz => ?_, ?_, h.noUnderflow⟩
  · have hne : q ≠ quest := by
      rintro rfl
      rw [hsettles] at hs
      cases hs
    have hsame : (w.addQuest v quest slot qInfo).questStatus q = w.questStatus q := by
      simp [addQuest, QuestLog.push, QuestLog.change, hne]
    rw [hsame, hstoring]
    exact h.counted q t ⟨hc.1, hc.2, hc.3, hc.4, hsame ▸ hc.5⟩ (by simp [unsettled, htodo]) j hj
  · rcases eq_or_ne q quest with rfl | hne
    · cases Option.some.inj (ht.symm.trans hom)
      simp [addQuest, QuestLog.push, QuestLog.change, hdeliver]
    · simpa [addQuest, QuestLog.push, QuestLog.change, hne] using h.zero q t j ht hdeliver hz
  · simp only [addQuest, QuestLog.push, QuestLog.change, htodo, List.append_nil]
    split
    · exact ⟨fun ha => (nomatch ha), fun _ => rfl, trivial⟩
    · exact ⟨fun _ => rfl, trivial⟩

theorem removeFromLog_sound (h : Sound om w) (slot : Nat) : Sound om (w.removeFromLog om v slot) := by
  have hone : ∀ quest, Sound om (w.push [.removeQuest quest slot]) := fun quest => h.push fun t ht => by
    rw [List.mem_singleton.1 ht]
    exact ⟨fun _ => rfl, rfl⟩
  unfold removeFromLog
  dsimp only
  split
  · exact h
  · split
    · split
      · split
        · refine h.push fun t ht => ?_
          rcases List.mem_cons.1 ht with rfl | ht
          · exact ⟨fun _ => rfl, rfl⟩
          · rw [List.mem_singleton.1 ht]
            exact ⟨fun _ => rfl, rfl⟩
        · exact h
      · exact hone _
    · exact hone _

theorem request_sound (h : Sound om w) (htodo : w.todo = []) (e : QuestEvent) : Sound om (w.request om v e) := by
  cases e with
  | run => exact h
  | addQuest quest =>
    simp only [request]
    split
    · next hom =>
      split
      · exact addQuest_sound h htodo hom
      · exact h
    · exact h
  | gain entry count =>
    refine h.push fun t ht => ?_
    rw [List.mem_singleton.1 ht]
    exact ⟨fun _ => rfl, rfl⟩
  | lose entry count sold =>
    refine h.push fun t ht => ?_
    rw [List.mem_singleton.1 ht]
    exact ⟨fun _ => rfl, rfl⟩
  | tryComplete quest =>
    simp only [request]
    split
    · exact completeQuest_sound h quest
    · exact h
  | completeQuest quest => exact completeQuest_sound h quest
  | rewardQuest quest reward =>
    simp only [request]
    split
    · exact rewardQuest_sound h quest _ reward
    · exact h
  | removeFromLog slot => exact removeFromLog_sound h slot
  | progress quest explored timer creatureOrGOcount =>
    unfold request
    exact h.close quest (fun _ => rfl) fun d _ hinc => hinc

/-! ## Runs -/

theorem step_sound (e : QuestView × QuestEvent) (h : Sound om w) (hc : w.Careful om e) : Sound om (w.step om e) := by
  obtain ⟨v, e⟩ := e
  cases hw : w.todo with
  | nil =>
    have hstep : w.step om (v, e) = w.request om v e := by
      cases e <;> simp only [step, hw]
    rw [hstep]
    exact request_sound h hw e
  | cons t rest =>
    have heta : w = { w with todo := t :: rest } := by rw [← hw]
    by_cases he : e = .run
    · subst he
      have hstep : w.step om (v, .run) = { w with todo := rest }.exec om v t := by
        simp only [step, hw]
      rw [hstep]
      exact exec_sound (heta ▸ h) (heta ▸ hc t rest hw rfl)
    · have hstep : w.step om (v, e) = w := by
        cases e <;> first | exact absurd rfl he | simp only [step, hw]
      rw [hstep]
      exact h

theorem start_sound : Sound om {} := by
  refine ⟨fun _ _ hc => ?_, fun _ => by simp [expected], fun _ _ _ _ _ _ => rfl, trivial, rfl⟩
  have hinc := hc.incomplete
  cases hinc

theorem Sound.finish (h : Sound om w) (htodo : w.todo = []) : Counted om w := fun q t hc j hj => by
  have hcount := h.counted q t hc (by simp [unsettled, htodo]) j hj
  rwa [expected, htodo, pending_nil, Nat.add_zero] at hcount

/-- **The items of quests are counted** in every run of careful steps, whenever nothing is under way, and no
update of a count goes below 0. -/
theorem items_counted (es : List (QuestView × QuestEvent)) (h : Transition.Along (step om) (Careful om) {} es) :
    ((Transition.run (step om) {} es).todo = [] → Counted om (Transition.run (step om) {} es)) ∧
      (Transition.run (step om) {} es).underflow = false := by
  have hsound : Sound om (Transition.run (step om) {} es) :=
    Transition.run_invariant (fun w e hs hc => step_sound e hs hc) start_sound h
  exact ⟨hsound.finish, hsound.noUnderflow⟩

/-- A quest for ten of item 100. -/
def tenItems : Nat → Option QuestTemplate
  | 1 => some { questFlags := questFlagsDeliver, reqItemId := ![100, 0, 0, 0], reqItemCount := ![10, 0, 0, 0] }
  | _ => none

/-- It is accepted, three items come and two of them go. -/
def someItems : List (QuestView × QuestEvent) :=
  [({}, .addQuest 1), ({}, .run), ({}, .gain 100 3), ({}, .run), ({}, .run), ({}, .lose 100 2 false), ({}, .run)]

theorem items_counted_someItems :
    Transition.Along (step tenItems) (Careful tenItems) {} someItems ∧
      Counted tenItems (Transition.run (step tenItems) {} someItems) := by
  have hothers : ∀ w n, OthersFilled tenItems w (1, 0) 100 n := by
    intro w n q t j hc _ hj hne
    have hq : q = 1 := by
      by_contra hq
      have ht := hc.template
      unfold tenItems at ht
      split at ht
      · exact hq rfl
      · cases ht
    subst hq
    cases hc.template
    fin_cases j
    · exact absurd rfl hne
    all_goals cases hj
  have hcareful : Transition.Along (step tenItems) (Careful tenItems) {} someItems := by
    refine ⟨fun t rest ht => ?_, fun t rest ht _ => ?_, fun t rest ht => ?_, fun t rest ht _ => ?_,
      fun t rest ht _ => ?_, fun t rest ht => ?_, fun t rest ht _ => ?_, trivial⟩
    · cases ht
    · cases ht
      trivial
    · cases ht
    · cases ht
      refine ⟨by decide, fun first hf => .inr ?_⟩
      cases hf
      exact hothers _ _
    · cases ht
      trivial
    · cases ht
    · cases ht
      intro q j hf
      cases hf
      exact ⟨.inr (hothers _ _), by decide, fun _ => by decide, fun _ hs => (nomatch hs), fun _ _ => .inr (by decide),
        fun _ hs => absurd rfl hs⟩
  exact ⟨hcareful, (items_counted someItems hcareful).1 rfl⟩

/-- Two quests for item 100. -/
def tenAndFive : Nat → Option QuestTemplate
  | 1 => some { questFlags := questFlagsDeliver, reqItemId := ![100, 0, 0, 0], reqItemCount := ![10, 0, 0, 0] }
  | 2 => some { questFlags := questFlagsDeliver, reqItemId := ![100, 0, 0, 0], reqItemCount := ![5, 0, 0, 0] }
  | _ => none

/-- Both are accepted and one item comes. -/
def oneItem : List (QuestView × QuestEvent) :=
  [({}, .addQuest 1), ({}, .run), ({}, .addQuest 2), ({}, .run), ({}, .gain 100 1), ({}, .run), ({}, .run)]

/-- The item is not counted for the second quest. -/
theorem oneItem_not_counted :
    ¬∀ om es, ((Transition.run (step om) {} es).todo = [] → Counted om (Transition.run (step om) {} es)) ∧
      (Transition.run (step om) {} es).underflow = false := by
  intro h
  have hcount := (h tenAndFive oneItem).1 rfl 2 _ ⟨by decide, by decide, rfl, by decide, by decide⟩ 0 (by decide)
  revert hcount
  decide

end QuestLog

end BlizzLike
