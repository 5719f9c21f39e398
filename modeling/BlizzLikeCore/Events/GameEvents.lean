import BlizzLikeCore.Item
import BlizzLikeCore.Times
import Mathlib.Tactic.Common

/-!
# Game events

An event is active in windows of some length, one in every occurrence, between its start and its end;
a world event is active by its state.  `NextCheck` tells after how many seconds the events are looked
at again: it should be when the activity of the event changes.  `StartEvent` moves the start of an
event to the present.

Both are exact only in part (`checks_iff`): an event without an occurrence divides by zero, the
second of a start is not active but is scheduled like the window after it, and the last gap or the
last second of an event, and events that do not change, are scheduled for no change.  An event that
was started early stays active for its length if it had not ended and does not end before that.

    checkedNormal_iff   : an event with windows
    checkedState_iff    : a world event whose activity does not change
    checkedInactive_iff : a world event that waits for others
    checks_iff          : when both are as they should be
-/

namespace BlizzLike.GameEvents

/-! ## Events -/

inductive GameEventState where
  | normal
  | worldInactive
  | worldConditions
  | worldNextphase
  | worldFinished
  deriving DecidableEq

/-- `GameEventData`; times are in seconds, `occurence` and `length` in minutes.  A condition has what
is done of it and what is required. -/
structure GameEventData where
  start : Nat
  end_ : Nat
  nextstart : Nat
  occurence : Nat
  length : Nat
  state : GameEventState
  conditions : List (Rat × Rat)
  prerequisite_events : List Nat

/-- `mGameEvent` -/
abbrev GameEventDataMap := Nat → GameEventData

def maxGeCheckDelay : Nat := 86400

/-- Minutes in seconds, an `uint32`. -/
def seconds (minutes : Nat) : Nat := u32 (minutes * minute)

/-- What the loader lets pass. -/
def GameEventData.isValid (e : GameEventData) : Prop := 0 < e.length ∨ e.state ≠ .normal

/-- `CheckOneGameEvent` at a time; `none` is a division by zero. -/
def checkOneGameEvent (events : GameEventDataMap) (entry currenttime : Nat) : Option Bool :=
  let e := events entry
  match e.state with
  | .worldConditions => some true
  | .worldNextphase => some true
  | .worldFinished => some false
  | .worldInactive =>
    if e.prerequisite_events.any fun p =>
        ((events p).state != .worldNextphase && (events p).state != .worldFinished) ||
          decide ((events p).nextstart > currenttime) then some false
    else some !e.prerequisite_events.isEmpty
  | .normal =>
    if e.start < currenttime ∧ currenttime < e.end_ then
      if seconds e.occurence = 0 then none
      else some (decide ((currenttime - e.start) % seconds e.occurence < seconds e.length))
    else some false

/-- `NextCheck` at a time; `none` is a division by zero. -/
def nextCheck (events : GameEventDataMap) (entry currenttime : Nat) : Option Nat :=
  let e := events entry
  if (e.state = .worldNextphase ∨ e.state = .worldFinished) ∧ e.nextstart ≥ currenttime then
    some (u32 (e.nextstart - currenttime))
  else if e.state = .worldConditions then some (if e.length ≠ 0 then seconds e.length else maxGeCheckDelay)
  else if currenttime > e.end_ then some maxGeCheckDelay
  else if e.start > currenttime then some (u32 (e.start - currenttime))
  else if seconds e.occurence = 0 then none
  else
    let delay :=
      if (currenttime - e.start) % seconds e.occurence < seconds e.length then
        seconds e.length - (currenttime - e.start) % seconds e.occurence
      else seconds e.occurence - (currenttime - e.start) % seconds e.occurence
    if e.end_ < currenttime + delay then some (u32 (e.end_ - currenttime)) else some delay

/-- `CheckOneGameEventConditions` -/
def checkConditions (e : GameEventData) (currenttime : Nat) : GameEventData :=
  if e.conditions.any fun c => decide (c.1 < c.2) then e
  else
    { e with
      state := .worldNextphase
      nextstart := if e.nextstart = 0 then currenttime + seconds e.length else e.nextstart }

/-- `StartEvent`, as far as the event itself is concerned. -/
def startEvent (e : GameEventData) (overwrite : Bool) (currenttime : Nat) : GameEventData :=
  if e.state = .normal then
    if overwrite = true then
      { e with start := currenttime, end_ := if e.end_ ≤ currenttime then currenttime + e.length else e.end_ }
    else e
  else checkConditions (if e.state = .worldInactive then { e with state := .worldConditions } else e) currenttime

/-! ## What is asked of them -/

/-- The activity of an event is known at a time, stays as it is until the next check, and changes then
or one second after, unless the next check is as far away as can be. -/
def Checked (events : GameEventDataMap) (entry t : Nat) : Prop :=
  ∃ active delay, checkOneGameEvent events entry t = some active ∧ nextCheck events entry t = some delay ∧
    (∀ u, t ≤ u → u < t + delay → checkOneGameEvent events entry u = some active) ∧
      (delay = maxGeCheckDelay ∨
        ∃ u, t + delay ≤ u ∧ u ≤ t + delay + 1 ∧ checkOneGameEvent events entry u = some (!active))

/-- An event that is started with `overwrite` is active from then on for all its length. -/
def StaysActive (events : GameEventDataMap) (entry t : Nat) : Prop :=
  ∀ u, t < u → u < t + (events entry).length * minute →
    checkOneGameEvent (Function.update events entry (startEvent (events entry) true t)) entry u = some true

namespace GameEventData

variable (e : GameEventData)

/-- The length of an occurrence and that of the window at its start. -/
def occurrence : Nat := seconds e.occurence
def window : Nat := seconds e.length

/-- The place of a time in its occurrence. -/
def place (t : Nat) : Nat := (t - e.start) % e.occurrence

/-- The time to the end of the window or of the gap in which a time is. -/
def left (t : Nat) : Nat := if e.place t < e.window then e.window - e.place t else e.occurrence - e.place t

/-- When an event with windows is checked well: after its end; before its start, where the window at
the start is not empty; in a window, but for its first second and that of the end, where a gap or the
end comes after it; in a gap, where a window comes after it; and by chance, where the time to wait is
a day. -/
def Timely (t : Nat) : Prop :=
  e.end_ < t ∨
  (t ≤ e.end_ ∧ t < e.start ∧ (u32 (e.start - t) = maxGeCheckDelay ∨
    e.start - t < 4294967296 ∧ e.start + 1 < e.end_ ∧ e.occurrence ≠ 0 ∧ e.window ≠ 0)) ∨
  (e.start ≤ t ∧ t ≤ e.end_ ∧ e.occurrence ≠ 0 ∧
    if e.place t < e.window then
      e.start < t ∧ t < e.end_ ∧
        (e.window < e.occurrence ∨ e.end_ ≤ t + e.left t + 1 ∨ e.left t = maxGeCheckDelay)
    else e.window ≠ 0 ∧ t + e.left t < e.end_ ∨ min (e.left t) (e.end_ - t) = maxGeCheckDelay)

/-- The time to wait by the dates of an event: a day after its end, else the time to its start, or to
the end of the window or gap or of the event. -/
def Planned (t delay : Nat) : Prop :=
  e.end_ < t ∧ delay = maxGeCheckDelay ∨
  t ≤ e.end_ ∧ t < e.start ∧ delay = u32 (e.start - t) ∨
  e.start ≤ t ∧ t ≤ e.end_ ∧ e.occurrence ≠ 0 ∧ delay = min (e.left t) (e.end_ - t)

end GameEventData

/-- A world event that will be active by the time that has been set for the events before it. -/
def Waits (events : GameEventDataMap) (entry t : Nat) : Prop :=
  (∀ p ∈ (events entry).prerequisite_events,
    (events p).state = .worldNextphase ∨ (events p).state = .worldFinished) ∧
  ∃ p ∈ (events entry).prerequisite_events, t < (events p).nextstart

/-- When an event is checked well. -/
def CheckedWhen (events : GameEventDataMap) (entry t : Nat) : Prop :=
  let e := events entry
  match e.state with
  | .normal => e.Timely t
  | .worldConditions => e.length = 0 ∨ e.window = maxGeCheckDelay
  | .worldNextphase | .worldFinished =>
    if t ≤ e.nextstart then u32 (e.nextstart - t) = maxGeCheckDelay else e.Planned t maxGeCheckDelay
  | .worldInactive =>
    (Waits events entry t → ∃ delay, e.Planned t delay ∧
      (∃ p ∈ e.prerequisite_events, t + delay ≤ (events p).nextstart) ∧
      (delay = maxGeCheckDelay ∨ ∀ p ∈ e.prerequisite_events, (events p).nextstart ≤ t + delay + 1)) ∧
    (¬ Waits events entry t → e.Planned t maxGeCheckDelay)

/-- When an event that is started stays active. -/
def StaysWhen (e : GameEventData) (t : Nat) : Prop :=
  match e.state with
  | .normal =>
    t + e.length * minute ≤ e.end_ ∧ e.occurrence ≠ 0 ∧
      (e.window = e.length * minute ∨ e.occurrence ≤ e.window)
  | .worldFinished => e.length = 0 ∨ ∀ c ∈ e.conditions, c.2 ≤ c.1
  | _ => True

/-! ## A check by the activity -/

variable {events : GameEventDataMap} {entry t : Nat}

theorem checked_iff_of {A : Nat → Prop} [DecidablePred A] {delay : Nat}
    (hcheck : ∀ u, t ≤ u → checkOneGameEvent events entry u = some (decide (A u)))
    (hnext : nextCheck events entry t = some delay) :
    Checked events entry t ↔
      (∀ u, t ≤ u → u < t + delay → (A u ↔ A t)) ∧
        (delay = maxGeCheckDelay ∨ ∃ u, t + delay ≤ u ∧ u ≤ t + delay + 1 ∧ ¬ (A u ↔ A t)) := by
  constructor
  · rintro ⟨active, delay', hactive, hdelay, hsame, hchange⟩
    obtain rfl : delay = delay' := Option.some.inj (hnext.symm.trans hdelay)
    obtain rfl : decide (A t) = active := Option.some.inj ((hcheck t (Nat.le_refl t)).symm.trans hactive)
    refine ⟨fun u hu hlt => ?_, hchange.imp_right ?_⟩
    · have := Option.some.inj ((hcheck u hu).symm.trans (hsame u hu hlt))
      exact decide_eq_decide.1 this
    · rintro ⟨u, hu, hu', hnot⟩
      refine ⟨u, hu, hu', fun hiff => ?_⟩
      have := Option.some.inj ((hcheck u (by omega)).symm.trans hnot)
      rw [decide_eq_decide.2 hiff] at this
      exact absurd this (by cases decide (A t) <;> decide)
  · rintro ⟨hsame, hchange⟩
    refine ⟨decide (A t), delay, hcheck t (Nat.le_refl t), hnext, fun u hu hlt => ?_, hchange.imp_right ?_⟩
    · rw [hcheck u hu, decide_eq_decide.2 (hsame u hu hlt)]
    · rintro ⟨u, hu, hu', hnot⟩
      refine ⟨u, hu, hu', ?_⟩
      rw [hcheck u (by omega), ← decide_not, Option.some.injEq, decide_eq_decide]
      tauto

theorem checked_iff_of_const (active : Bool) (hcheck : ∀ u, t ≤ u → checkOneGameEvent events entry u = some active) :
    Checked events entry t ↔ nextCheck events entry t = some maxGeCheckDelay := by
  constructor
  · rintro ⟨active', delay, hactive, hdelay, -, hchange⟩
    obtain rfl : active = active' := Option.some.inj ((hcheck t (Nat.le_refl t)).symm.trans hactive)
    rcases hchange with rfl | ⟨u, hu, -, hnot⟩
    · exact hdelay
    · exact absurd (Option.some.inj ((hcheck u (by omega)).symm.trans hnot)) (by cases active <;> decide)
  · intro hnext
    exact ⟨active, _, hcheck t (Nat.le_refl t), hnext, fun u hu _ => hcheck u hu, .inl rfl⟩

/-! ## The next check -/

namespace GameEventData

variable {e : GameEventData}

theorem window_lt : e.window < 4294967296 := Nat.mod_lt _ (by decide)

theorem occurrence_lt : e.occurrence < 4294967296 := Nat.mod_lt _ (by decide)

theorem place_lt (h : e.occurrence ≠ 0) (t : Nat) : e.place t < e.occurrence := Nat.mod_lt _ (Nat.pos_of_ne_zero h)

theorem left_lt (t : Nat) : e.left t < 4294967296 := by
  have := e.window_lt
  have := e.occurrence_lt
  unfold left
  split <;> omega

theorem place_add (ht : e.start ≤ t) (y : Nat) : e.place (t + y) = (e.place t + y) % e.occurrence := by
  unfold place
  rw [Nat.mod_add_mod, Nat.sub_add_comm ht]

end GameEventData

/-- **The next check** of an event that its state does not schedule is the one planned by its dates. -/
theorem nextCheck_iff_planned (hnext : ¬ (((events entry).state = .worldNextphase ∨ (events entry).state = .worldFinished) ∧
      (events entry).nextstart ≥ t)) (hconditions : (events entry).state ≠ .worldConditions) (delay : Nat) :
    nextCheck events entry t = some delay ↔ (events entry).Planned t delay := by
  have hleft := (events entry).left_lt t
  unfold nextCheck GameEventData.Planned
  simp only [if_neg hnext, if_neg hconditions]
  rcases Nat.lt_or_ge (events entry).end_ t with hend | hend
  · rw [if_pos hend, Option.some.injEq]
    omega
  rw [if_neg (by omega)]
  rcases Nat.lt_or_ge t (events entry).start with hstart | hstart
  · rw [if_pos hstart, Option.some.injEq]
    omega
  rw [if_neg (by omega)]
  by_cases hocc : (events entry).occurrence = 0
  · rw [if_pos (show seconds (events entry).occurence = 0 from hocc)]
    constructor
    · exact fun h => nomatch h
    · rintro (⟨h, -⟩ | ⟨-, h, -⟩ | ⟨-, -, h, -⟩)
      · omega
      · omega
      · exact absurd hocc h
  · rw [if_neg (show seconds (events entry).occurence ≠ 0 from hocc)]
    have hdelay : (if (t - (events entry).start) % seconds (events entry).occurence < seconds (events entry).length then
          seconds (events entry).length - (t - (events entry).start) % seconds (events entry).occurence
        else seconds (events entry).occurence - (t - (events entry).start) % seconds (events entry).occurence) =
        (events entry).left t := rfl
    rw [hdelay]
    unfold u32
    split <;> rw [Option.some.injEq] <;> omega

/-! ## Events with windows -/

theorem seconds_mod_four (n : Nat) : seconds n % 4 = 0 := by
  unfold seconds u32 minute
  omega

namespace GameEventData

variable {e : GameEventData}

/-- An event is active at a time by its windows. -/
def Active (e : GameEventData) (u : Nat) : Prop := e.start < u ∧ u < e.end_ ∧ e.place u < e.window

instance (e : GameEventData) : DecidablePred e.Active := fun _ => inferInstanceAs (Decidable (_ ∧ _))

/-- **A check in a window.** -/
theorem window_iff (hocc : e.occurrence ≠ 0) (hstart : e.start ≤ t) (hend : t ≤ e.end_) (hin : e.place t < e.window)
    {delay : Nat} (hdelay : delay = min (e.left t) (e.end_ - t)) :
    ((∀ u, t ≤ u → u < t + delay → (e.Active u ↔ e.Active t)) ∧
        (delay = maxGeCheckDelay ∨ ∃ u, t + delay ≤ u ∧ u ≤ t + delay + 1 ∧ ¬ (e.Active u ↔ e.Active t))) ↔
      e.start < t ∧ t < e.end_ ∧ (e.window < e.occurrence ∨ e.end_ ≤ t + e.left t + 1 ∨ e.left t = maxGeCheckDelay) := by
  have hleft : e.left t = e.window - e.place t := by
    unfold left
    rw [if_pos hin]
  have hfour := seconds_mod_four e.length
  have hwindow : 4 ≤ e.window := by
    unfold window at hin ⊢
    omega
  have hplace := e.place_lt hocc
  constructor
  · rintro ⟨hsame, hchange⟩
    have hgt : e.start < t := by
      by_contra hle
      obtain rfl : t = e.start := by omega
      have hnot : ¬ e.Active e.start := fun h => absurd h.1 (Nat.lt_irrefl _)
      have hzero : e.place e.start = 0 := by
        unfold place
        rw [Nat.sub_self, Nat.zero_mod]
      rcases Nat.lt_or_ge (e.start + 1) e.end_ with hlt | hge
      · have hnext : e.Active (e.start + 1) := by
          refine ⟨Nat.lt_succ_self _, hlt, ?_⟩
          rw [place_add (Nat.le_refl _), hzero]
          exact Nat.lt_of_le_of_lt (Nat.mod_le _ _) (by omega)
        exact hnot ((hsame (e.start + 1) (by omega) (by omega)).1 hnext)
      · rcases hchange with hmax | ⟨u, -, -, hu⟩
        · unfold maxGeCheckDelay at hmax
          omega
        · exact hu (iff_of_false (fun h => by have := h.1; have := h.2.1; omega) hnot)
    have hlt : t < e.end_ := by
      by_contra hge
      have hnot : ∀ u, t ≤ u → ¬ e.Active u := fun u hu h => by
        have := h.2.1
        omega
      rcases hchange with hmax | ⟨u, hu, -, hiff⟩
      · unfold maxGeCheckDelay at hmax
        omega
      · exact hiff (iff_of_false (hnot u (by omega)) (hnot t (Nat.le_refl t)))
    refine ⟨hgt, hlt, ?_⟩
    by_contra hnone
    rcases hchange with hmax | ⟨u, hu, hu', hiff⟩
    · omega
    · exact hiff (iff_of_true ⟨by omega, by omega, by have := hplace u; omega⟩ ⟨hgt, hlt, hin⟩)
  · rintro ⟨hgt, hlt, hcases⟩
    have hactive : e.Active t := ⟨hgt, hlt, hin⟩
    refine ⟨fun u hu hu' => iff_of_true ⟨by omega, by omega, ?_⟩ hactive, ?_⟩
    · obtain ⟨y, rfl⟩ : ∃ y, u = t + y := ⟨u - t, by omega⟩
      rw [place_add hstart]
      exact Nat.lt_of_le_of_lt (Nat.mod_le _ _) (by omega)
    · have hends : ∀ u, e.end_ ≤ u → ¬ (e.Active u ↔ e.Active t) := fun u hu hiff => by
        have := (hiff.2 hactive).2.1
        omega
      rcases Nat.lt_or_ge (t + e.left t) e.end_ with hinside | hover
      · rcases hcases with hshort | hnear | hday
        · refine .inr ⟨t + e.left t, by omega, by omega, fun hiff => ?_⟩
          have hout := (hiff.2 hactive).2.2
          rw [place_add hstart, hleft, Nat.add_sub_cancel' (Nat.le_of_lt hin), Nat.mod_eq_of_lt hshort] at hout
          exact absurd hout (Nat.lt_irrefl _)
        · exact .inr ⟨t + e.left t + 1, by omega, by omega, hends _ (by omega)⟩
        · exact .inl (by omega)
      · exact .inr ⟨e.end_, by omega, by omega, hends _ (Nat.le_refl _)⟩

/-- **A check in a gap.** -/
theorem gap_iff (hocc : e.occurrence ≠ 0) (hstart : e.start ≤ t) (hend : t ≤ e.end_) (hout : ¬ e.place t < e.window)
    {delay : Nat} (hdelay : delay = min (e.left t) (e.end_ - t)) :
    ((∀ u, t ≤ u → u < t + delay → (e.Active u ↔ e.Active t)) ∧
        (delay = maxGeCheckDelay ∨ ∃ u, t + delay ≤ u ∧ u ≤ t + delay + 1 ∧ ¬ (e.Active u ↔ e.Active t))) ↔
      (e.window ≠ 0 ∧ t + e.left t < e.end_ ∨ min (e.left t) (e.end_ - t) = maxGeCheckDelay) := by
  have hleft : e.left t = e.occurrence - e.place t := by
    unfold left
    rw [if_neg hout]
  have hplace := e.place_lt hocc t
  have hnot : ¬ e.Active t := fun h => hout h.2.2
  have hsame : ∀ u, t ≤ u → u < t + delay → (e.Active u ↔ e.Active t) := by
    intro u hu hlt
    obtain ⟨y, rfl⟩ : ∃ y, u = t + y := ⟨u - t, by omega⟩
    refine iff_of_false (fun h => ?_) hnot
    have hin := h.2.2
    rw [place_add hstart, Nat.mod_eq_of_lt (by omega)] at hin
    omega
  rw [and_iff_right hsame, ← hdelay]
  constructor
  · rintro (hmax | ⟨u, hu, hu', hiff⟩)
    · exact .inr hmax
    · have hactive : e.Active u := by
        by_contra hnot'
        exact hiff (iff_of_false hnot' hnot)
      have := hactive.2.1
      have := hactive.2.2
      exact .inl ⟨by omega, by omega⟩
  · rintro (⟨hwindow, hlt⟩ | hmax)
    · refine .inr ⟨t + e.left t, by omega, by omega, fun hiff => hnot (hiff.1 ⟨by omega, hlt, ?_⟩)⟩
      rw [place_add hstart, hleft, Nat.add_sub_cancel' (Nat.le_of_lt hplace), Nat.mod_self]
      exact Nat.pos_of_ne_zero hwindow
    · exact .inl hmax

end GameEventData

theorem check_normal (hstate : (events entry).state = .normal) (u : Nat) :
    checkOneGameEvent events entry u =
      if (events entry).start < u ∧ u < (events entry).end_ ∧ (events entry).occurrence = 0 then none
      else some (decide ((events entry).Active u)) := by
  unfold checkOneGameEvent
  simp only [hstate]
  by_cases hdates : (events entry).start < u ∧ u < (events entry).end_
  · rw [if_pos hdates]
    by_cases hocc : (events entry).occurrence = 0
    · rw [if_pos (show seconds (events entry).occurence = 0 from hocc), if_pos ⟨hdates.1, hdates.2, hocc⟩]
    · rw [if_neg (show seconds (events entry).occurence ≠ 0 from hocc), if_neg fun h => hocc h.2.2]
      congr 1
      exact decide_eq_decide.2 ⟨fun h => ⟨hdates.1, hdates.2, h⟩, fun h => h.2.2⟩
  · rw [if_neg hdates, if_neg fun h => hdates ⟨h.1, h.2.1⟩]
    congr 1
    exact (decide_eq_false fun h => hdates ⟨h.1, h.2.1⟩).symm

/-- **A check before the start.** -/
theorem before_iff (hstate : (events entry).state = .normal) (hend : t ≤ (events entry).end_)
    (hstart : t < (events entry).start) :
    Checked events entry t ↔ u32 ((events entry).start - t) = maxGeCheckDelay ∨
      (events entry).start - t < 4294967296 ∧ (events entry).start + 1 < (events entry).end_ ∧
        (events entry).occurrence ≠ 0 ∧ (events entry).window ≠ 0 := by
  have hfalse : ∀ u, u ≤ (events entry).start → checkOneGameEvent events entry u = some false := by
    intro u hu
    rw [check_normal hstate, if_neg fun h => by have := h.1; omega]
    congr 1
    exact decide_eq_false fun h => by have := h.1; omega
  have hnext : nextCheck events entry t = some (u32 ((events entry).start - t)) := by
    rw [nextCheck_iff_planned (by rw [hstate]; simp) (by rw [hstate]; simp)]
    exact .inr (.inl ⟨hend, hstart, rfl⟩)
  have hle : u32 ((events entry).start - t) ≤ (events entry).start - t := Nat.mod_le _ _
  constructor
  · rintro ⟨active, delay, hactive, hdelay, -, hchange⟩
    obtain rfl : u32 ((events entry).start - t) = delay := Option.some.inj (hnext.symm.trans hdelay)
    obtain rfl : false = active := Option.some.inj ((hfalse t (by omega)).symm.trans hactive)
    refine hchange.imp_right ?_
    rintro ⟨u, hu, hu', hnot⟩
    have hgt : (events entry).start < u := by
      by_contra hge
      exact absurd (Option.some.inj ((hfalse u (by omega)).symm.trans hnot)) (by decide)
    rw [check_normal hstate] at hnot
    split at hnot
    · exact nomatch hnot
    · next hocc =>
      have hactive : (events entry).Active u := of_decide_eq_true (Option.some.inj hnot)
      have hdates := hactive.2.1
      have hwindow := hactive.2.2
      refine ⟨?_, by omega, fun h => hocc ⟨hgt, hdates, h⟩, by omega⟩
      unfold u32 at hu hu' hle
      omega
  · intro hcases
    refine ⟨false, _, hfalse t (by omega), hnext, fun u hu hlt => hfalse u (by omega), hcases.imp_right ?_⟩
    rintro ⟨hlt, hlong, hocc, hwindow⟩
    rw [u32_eq _ hlt]
    refine ⟨(events entry).start + 1, by omega, by omega, ?_⟩
    rw [check_normal hstate, if_neg fun h => hocc h.2.2]
    congr 1
    refine decide_eq_true ⟨by omega, hlong, ?_⟩
    have hfour := seconds_mod_four (events entry).length
    rw [GameEventData.place_add (Nat.le_refl _)]
    refine Nat.lt_of_le_of_lt (Nat.mod_le _ _) ?_
    unfold GameEventData.place
    rw [Nat.sub_self, Nat.zero_mod]
    unfold GameEventData.window at hwindow ⊢
    omega

/-- **An event with windows** is checked well in its time. -/
theorem checkedNormal_iff (hstate : (events entry).state = .normal) (t : Nat) :
    Checked events entry t ↔ (events entry).Timely t := by
  have hplanned := fun delay => nextCheck_iff_planned (t := t)
    (by rw [hstate]; simp) (by rw [hstate]; simp) delay
  unfold GameEventData.Timely
  rcases Nat.lt_or_ge (events entry).end_ t with hend | hend
  · refine iff_of_true ?_ (.inl hend)
    refine (checked_iff_of_const false fun u hu => ?_).2 ((hplanned _).2 (.inl ⟨hend, rfl⟩))
    rw [check_normal hstate, if_neg fun h => by have := h.2.1; omega]
    congr 1
    exact decide_eq_false fun h => by have := h.2.1; omega
  rcases Nat.lt_or_ge t (events entry).start with hstart | hstart
  · rw [before_iff hstate hend hstart]
    constructor
    · exact fun h => .inr (.inl ⟨hend, hstart, h⟩)
    · rintro (h | ⟨-, -, h⟩ | ⟨h, -⟩)
      · omega
      · exact h
      · omega
  by_cases hocc : (events entry).occurrence = 0
  · constructor
    · rintro ⟨active, delay, -, hdelay, -⟩
      rcases (hplanned delay).1 hdelay with ⟨h, -⟩ | ⟨-, h, -⟩ | ⟨-, -, h, -⟩
      · omega
      · omega
      · exact absurd hocc h
    · rintro (h | ⟨-, h, -⟩ | ⟨-, -, h, -⟩)
      · omega
      · omega
      · exact absurd hocc h
  · have hcheck : ∀ u, t ≤ u → checkOneGameEvent events entry u = some (decide ((events entry).Active u)) := by
      intro u _
      rw [check_normal hstate, if_neg fun h => hocc h.2.2]
    rw [checked_iff_of hcheck ((hplanned _).2 (.inr (.inr ⟨hstart, hend, hocc, rfl⟩)))]
    have honly : ∀ P : Prop, ((events entry).end_ < t ∨
        (t ≤ (events entry).end_ ∧ t < (events entry).start ∧ (u32 ((events entry).start - t) = maxGeCheckDelay ∨
          (events entry).start - t < 4294967296 ∧ (events entry).start + 1 < (events entry).end_ ∧
            (events entry).occurrence ≠ 0 ∧ (events entry).window ≠ 0)) ∨
        ((events entry).start ≤ t ∧ t ≤ (events entry).end_ ∧ (events entry).occurrence ≠ 0 ∧ P)) ↔ P := by
      intro P
      constructor
      · rintro (h | ⟨-, h, -⟩ | ⟨-, -, -, h⟩)
        · omega
        · omega
        · exact h
      · exact fun h => .inr (.inr ⟨hstart, hend, hocc, h⟩)
    rw [honly]
    split
    · next hin => exact GameEventData.window_iff hocc hstart hend hin rfl
    · next hout => exact GameEventData.gap_iff hocc hstart hend hout rfl

/-! ## World events -/

/-- **A world event in a state** in which it is active or not at all times. -/
theorem checkedState_iff (hstate : (events entry).state = .worldNextphase ∨ (events entry).state = .worldFinished) :
    Checked events entry t ↔
      if t ≤ (events entry).nextstart then u32 ((events entry).nextstart - t) = maxGeCheckDelay
      else (events entry).Planned t maxGeCheckDelay := by
  have hconst : ∃ active, ∀ u, t ≤ u → checkOneGameEvent events entry u = some active := by
    rcases hstate with h | h
    · exact ⟨true, fun u _ => by simp only [checkOneGameEvent, h]⟩
    · exact ⟨false, fun u _ => by simp only [checkOneGameEvent, h]⟩
  obtain ⟨active, hactive⟩ := hconst
  rw [checked_iff_of_const active hactive]
  split
  · next hle =>
    unfold nextCheck
    simp only [if_pos (show _ ∧ (events entry).nextstart ≥ t from ⟨hstate, hle⟩), Option.some.injEq]
  · next hgt =>
    refine nextCheck_iff_planned (fun h => hgt h.2) (fun h => ?_) _
    rcases hstate with h' | h' <;> rw [h'] at h <;> exact nomatch h

theorem checkedConditions_iff (hstate : (events entry).state = .worldConditions) :
    Checked events entry t ↔ (events entry).length = 0 ∨ (events entry).window = maxGeCheckDelay := by
  rw [checked_iff_of_const true fun u _ => by simp only [checkOneGameEvent, hstate]]
  have hnext : nextCheck events entry t =
      some (if (events entry).length ≠ 0 then (events entry).window else maxGeCheckDelay) := by
    simp [nextCheck, hstate, GameEventData.window]
  rw [hnext, Option.some.injEq]
  split
  · next hne => exact ⟨.inr, fun h => h.resolve_left hne⟩
  · next heq => exact iff_of_true rfl (.inl (of_not_not heq))

/-- A world event that has not begun is active from when all the events before it are done. -/
theorem check_inactive (hstate : (events entry).state = .worldInactive) (u : Nat) :
    checkOneGameEvent events entry u = some (decide ((events entry).prerequisite_events ≠ [] ∧
      ∀ p ∈ (events entry).prerequisite_events,
        ((events p).state = .worldNextphase ∨ (events p).state = .worldFinished) ∧ (events p).nextstart ≤ u)) := by
  unfold checkOneGameEvent
  simp only [hstate]
  split
  · next hany =>
    obtain ⟨p, hp, hbad⟩ := List.any_eq_true.1 hany
    congr 1
    refine (decide_eq_false fun h => ?_).symm
    obtain ⟨hdone, hle⟩ := h.2 p hp
    simp only [Bool.or_eq_true, Bool.and_eq_true, bne_iff_ne, decide_eq_true_eq] at hbad
    rcases hbad with ⟨h1, h2⟩ | h3
    · exact hdone.elim h1 h2
    · omega
  · next hany =>
    congr 1
    rw [Bool.not_eq_true, List.any_eq_false] at hany
    have hall : ∀ p ∈ (events entry).prerequisite_events,
        ((events p).state = .worldNextphase ∨ (events p).state = .worldFinished) ∧ (events p).nextstart ≤ u := by
      intro p hp
      have hgood := hany p hp
      simp only [Bool.or_eq_true, Bool.and_eq_true, bne_iff_ne, decide_eq_true_eq, not_or, not_and] at hgood
      refine ⟨?_, by omega⟩
      by_cases h1 : (events p).state = .worldNextphase
      · exact .inl h1
      · exact .inr (of_not_not (hgood.1 h1))
    cases hlist : (events entry).prerequisite_events with
    | nil => simp
    | cons p ps =>
      rw [hlist] at hall
      exact (decide_eq_true ⟨List.cons_ne_nil _ _, hall⟩).symm

/-- **A world event that waits** for the events before it. -/
theorem checkedInactive_iff (hstate : (events entry).state = .worldInactive) :
    Checked events entry t ↔
      (Waits events entry t → ∃ delay, (events entry).Planned t delay ∧
        (∃ p ∈ (events entry).prerequisite_events, t + delay ≤ (events p).nextstart) ∧
        (delay = maxGeCheckDelay ∨
          ∀ p ∈ (events entry).prerequisite_events, (events p).nextstart ≤ t + delay + 1)) ∧
      (¬ Waits events entry t → (events entry).Planned t maxGeCheckDelay) := by
  have hplanned := fun delay => nextCheck_iff_planned (t := t)
    (by rw [hstate]; simp) (by rw [hstate]; simp) delay
  have hcheck := check_inactive hstate
  by_cases hwaits : Waits events entry t
  · rw [and_iff_left fun h => absurd hwaits h, forall_prop_of_true hwaits]
    obtain ⟨hdone, q, hq, hlate⟩ := hwaits
    have hactive : ∀ u, ((events entry).prerequisite_events ≠ [] ∧ ∀ p ∈ (events entry).prerequisite_events,
        ((events p).state = .worldNextphase ∨ (events p).state = .worldFinished) ∧ (events p).nextstart ≤ u) ↔
        ∀ p ∈ (events entry).prerequisite_events, (events p).nextstart ≤ u :=
      fun u => ⟨fun h p hp => (h.2 p hp).2, fun h => ⟨List.ne_nil_of_mem hq, fun p hp => ⟨hdone p hp, h p hp⟩⟩⟩
    have hcheck' : ∀ u, t ≤ u → checkOneGameEvent events entry u =
        some (decide (∀ p ∈ (events entry).prerequisite_events, (events p).nextstart ≤ u)) := by
      intro u _
      rw [hcheck u]
      congr 1
      exact decide_eq_decide.2 (hactive u)
    have hnot : ¬ ∀ p ∈ (events entry).prerequisite_events, (events p).nextstart ≤ t := fun h => by
      have := h q hq
      omega
    constructor
    · intro hchecked
      obtain ⟨delay, hdelay⟩ : ∃ delay, nextCheck events entry t = some delay := by
        obtain ⟨-, delay, -, hdelay, -⟩ := hchecked
        exact ⟨delay, hdelay⟩
      obtain ⟨hsame, hchange⟩ := (checked_iff_of hcheck' hdelay).1 hchecked
      refine ⟨delay, (hplanned delay).1 hdelay, ?_, hchange.imp_right ?_⟩
      · by_contra hnone
        push Not at hnone
        rcases Nat.eq_zero_or_pos delay with rfl | hpos
        · exact absurd (hnone q hq) (by omega)
        · refine hnot ((hsame (t + delay - 1) (by omega) (by omega)).1 fun p hp => ?_)
          have := hnone p hp
          omega
      · rintro ⟨u, -, hu', hiff⟩ p hp
        have hall : ∀ p ∈ (events entry).prerequisite_events, (events p).nextstart ≤ u := by
          by_contra hnot'
          exact hiff (iff_of_false hnot' hnot)
        exact Nat.le_trans (hall p hp) hu'
    · rintro ⟨delay, hdelay, ⟨p, hp, hlater⟩, hchange⟩
      refine (checked_iff_of hcheck' ((hplanned delay).2 hdelay)).2 ⟨fun u hu hlt => ?_, hchange.imp_right fun hall => ?_⟩
      · exact iff_of_false (fun h => by have := h p hp; omega) hnot
      · exact ⟨t + delay + 1, by omega, Nat.le_refl _, fun hiff => hnot (hiff.1 hall)⟩
  · rw [and_iff_right fun h => absurd h hwaits, forall_prop_of_true hwaits, ← hplanned]
    refine checked_iff_of_const (decide ((events entry).prerequisite_events ≠ [] ∧
      ∀ p ∈ (events entry).prerequisite_events,
        ((events p).state = .worldNextphase ∨ (events p).state = .worldFinished) ∧ (events p).nextstart ≤ t)) fun u hu => ?_
    rw [hcheck u]
    congr 1
    refine decide_eq_decide.2 ⟨fun h => ⟨h.1, fun p hp => ⟨(h.2 p hp).1, ?_⟩⟩, fun h => ⟨h.1, fun p hp => ⟨(h.2 p hp).1, ?_⟩⟩⟩
    · by_contra hlate
      exact hwaits ⟨fun p hp => (h.2 p hp).1, p, hp, by omega⟩
    · exact Nat.le_trans (h.2 p hp).2 hu

/-- **The checks** of an event are as they should be exactly in its time. -/
theorem checked_iff_when (events : GameEventDataMap) (entry t : Nat) :
    Checked events entry t ↔ CheckedWhen events entry t := by
  unfold CheckedWhen
  dsimp only
  split
  · next hstate => exact checkedNormal_iff hstate t
  · next hstate => exact checkedConditions_iff hstate
  · next hstate => exact checkedState_iff (.inl hstate)
  · next hstate => exact checkedState_iff (.inr hstate)
  · next hstate => exact checkedInactive_iff hstate

/-! ## Events that are started -/

theorem window_le (e : GameEventData) : e.window ≤ e.length * minute := Nat.mod_le _ _

theorem staysNormal_iff (hstate : (events entry).state = .normal) (hlength : 0 < (events entry).length) :
    StaysActive events entry t ↔
      t + (events entry).length * minute ≤ (events entry).end_ ∧ (events entry).occurrence ≠ 0 ∧
        ((events entry).window = (events entry).length * minute ∨
          (events entry).occurrence ≤ (events entry).window) := by
  generalize he : events entry = e at *
  obtain ⟨e', he', hstart', hend', hocc', hwindow', hstate'⟩ : ∃ e', startEvent e true t = e' ∧ e'.start = t ∧
      e'.end_ = (if e.end_ ≤ t then t + e.length else e.end_) ∧ e'.occurrence = e.occurrence ∧
      e'.window = e.window ∧ e'.state = .normal := by
    refine ⟨_, rfl, ?_⟩
    unfold startEvent
    rw [if_pos hstate, if_pos rfl]
    exact ⟨rfl, rfl, rfl, rfl, hstate⟩
  have hcheck : ∀ u, checkOneGameEvent (Function.update events entry (startEvent e true t)) entry u = some true ↔
      t < u ∧ u < (if e.end_ ≤ t then t + e.length else e.end_) ∧ e.occurrence ≠ 0 ∧
        (u - t) % e.occurrence < e.window := by
    intro u
    rw [he', check_normal (by rw [Function.update_self]; exact hstate'), Function.update_self, ← hend', ← hocc',
      ← hwindow', ← hstart']
    by_cases hzero : e'.start < u ∧ u < e'.end_ ∧ e'.occurrence = 0
    · rw [if_pos hzero]
      exact iff_of_false (fun h => nomatch h) fun h => h.2.2.1 hzero.2.2
    · rw [if_neg hzero, Option.some.injEq, decide_eq_true_iff]
      exact ⟨fun h => ⟨h.1, h.2.1, fun h0 => hzero ⟨h.1, h.2.1, h0⟩, h.2.2⟩, fun h => ⟨h.1, h.2.1, h.2.2.2⟩⟩
  have hminutes : e.length * minute = 60 * e.length := Nat.mul_comm _ _
  have hwindow := window_le e
  unfold StaysActive
  simp only [he, hcheck]
  rw [hminutes] at hwindow ⊢
  constructor
  · intro h
    obtain ⟨-, hlast, hocc, -⟩ := h (t + 60 * e.length - 1) (by omega) (by omega)
    have hend : t + 60 * e.length ≤ e.end_ := by
      split at hlast <;> omega
    refine ⟨hend, hocc, ?_⟩
    by_contra hnone
    rw [not_or, Nat.not_le] at hnone
    rcases Nat.eq_zero_or_pos e.window with hzero | hpos
    · obtain ⟨-, -, -, hin⟩ := h (t + 1) (by omega) (by omega)
      omega
    · obtain ⟨-, -, -, hin⟩ := h (t + e.window) (by omega) (by omega)
      rw [Nat.add_sub_cancel_left, Nat.mod_eq_of_lt hnone.2] at hin
      exact absurd hin (Nat.lt_irrefl _)
  · rintro ⟨hend, hocc, hlong⟩ u hu hlt
    refine ⟨hu, ?_, hocc, ?_⟩
    · rw [if_neg (by omega)]
      omega
    · rcases hlong with heq | hle
      · exact Nat.lt_of_le_of_lt (Nat.mod_le _ _) (by omega)
      · exact Nat.lt_of_lt_of_le (Nat.mod_lt _ (Nat.pos_of_ne_zero hocc)) hle

theorem checkConditions_state (e : GameEventData) (t : Nat) :
    (checkConditions e t).state = .worldNextphase ∨ (checkConditions e t).state = e.state := by
  unfold checkConditions
  split
  · exact .inr rfl
  · exact .inl rfl

/-- **An event that is started** stays active exactly if its dates leave it its length. -/
theorem stays_iff_when (hvalid : (events entry).isValid) (t : Nat) :
    StaysActive events entry t ↔ StaysWhen (events entry) t := by
  have hworld : ∀ e : GameEventData, startEvent (events entry) true t = checkConditions e t →
      (e.state = .worldConditions ∨ e.state = .worldNextphase) → StaysActive events entry t := by
    intro e he hstate u _ _
    unfold checkOneGameEvent
    rw [Function.update_self, he]
    rcases checkConditions_state e t with h | h
    · simp only [h]
    · rcases hstate with h' | h' <;> rw [h'] at h <;> simp only [h]
  unfold StaysWhen
  cases hstate : (events entry).state with
  | normal => exact staysNormal_iff hstate (hvalid.resolve_right fun h => h hstate)
  | worldInactive =>
    refine iff_of_true (hworld { events entry with state := .worldConditions } ?_ (.inl rfl)) trivial
    simp [startEvent, hstate]
  | worldConditions =>
    refine iff_of_true (hworld (events entry) ?_ (.inl hstate)) trivial
    simp [startEvent, hstate]
  | worldNextphase =>
    refine iff_of_true (hworld (events entry) ?_ (.inr hstate)) trivial
    simp [startEvent, hstate]
  | worldFinished =>
    by_cases hmet : ∀ c ∈ (events entry).conditions, c.2 ≤ c.1
    · have hany : ((events entry).conditions.any fun c => decide (c.1 < c.2)) = false := by
        rw [List.any_eq_false]
        intro c hc
        rw [decide_eq_true_iff]
        exact Rat.not_lt.2 (hmet c hc)
      refine iff_of_true (hworld { events entry with state := .worldNextphase } ?_ (.inr rfl)) (.inr hmet)
      simp [startEvent, hstate, checkConditions, hany]
    · have hany : ((events entry).conditions.any fun c => decide (c.1 < c.2)) = true := by
        obtain ⟨c, hc, hlt⟩ := not_forall₂.1 hmet
        exact List.any_eq_true.2 ⟨c, hc, decide_eq_true (Rat.not_le.1 hlt)⟩
      have hstarted : startEvent (events entry) true t = events entry := by
        simp [startEvent, hstate, checkConditions, hany]
      constructor
      · intro h
        left
        by_contra hne
        have hcheck := h (t + 1) (by omega) (by unfold minute; omega)
        rw [hstarted, Function.update_eq_self] at hcheck
        simp [checkOneGameEvent, hstate] at hcheck
      · rintro (hzero | h)
        · intro u hu hlt
          rw [hzero] at hlt
          omega
        · exact absurd h hmet

/-- **Checks and starts** of an event the loader lets pass are as they should be exactly in these
cases. -/
theorem checks_iff (events : GameEventDataMap) (entry t : Nat) (hvalid : (events entry).isValid) :
    (Checked events entry t ↔ CheckedWhen events entry t) ∧
      (StaysActive events entry t ↔ StaysWhen (events entry) t) :=
  ⟨checked_iff_when events entry t, stays_iff_when hvalid t⟩

/-- Ten minutes in every hour, from 100 to 10000. -/
def fair : GameEventData where
  start := 100
  end_ := 10000
  nextstart := 0
  occurence := 60
  length := 10
  state := .normal
  conditions := []
  prerequisite_events := []

theorem checks_iff_fair : Checked (fun _ => fair) 1 200 ∧ StaysActive (fun _ => fair) 1 200 := by
  have h := checks_iff (fun _ => fair) 1 200 (.inl (by decide))
  refine ⟨h.1.2 ?_, h.2.2 ?_⟩
  · exact .inr (.inr ⟨by decide, by decide, by decide, by decide⟩)
  · exact ⟨by decide, by decide, .inl (by decide)⟩

/-- The second in which the fair starts is not active, and the next second is, but it is scheduled for
the end of the window; without an occurrence the check divides by zero; and a fair that is started
after its end is over in ten seconds. -/
theorem check_misses :
    fair.isValid ∧ ¬ Checked (fun _ => fair) 1 100 ∧ ¬ Checked (fun _ => { fair with occurence := 0 }) 1 200 ∧
      ¬ StaysActive (fun _ => fair) 1 20000 := by
  refine ⟨.inl (by decide), ?_, ?_, ?_⟩
  · rintro ⟨active, delay, hactive, hdelay, hsame, -⟩
    obtain rfl : false = active := Option.some.inj hactive
    obtain rfl : 600 = delay := Option.some.inj hdelay
    exact absurd (hsame 101 (by decide) (by decide)) (by decide)
  · rintro ⟨active, -, hactive, -⟩
    exact nomatch hactive
  · intro h
    have hlate := h 20010 (by decide) (by decide)
    revert hlate
    decide

end BlizzLike.GameEvents
