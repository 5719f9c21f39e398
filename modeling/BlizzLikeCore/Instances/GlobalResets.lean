import BlizzLikeCore.Instances.InstanceSaveMgr
import BlizzLikeCore.Lib.Transition
import Mathlib.Algebra.Order.BigOperators.Group.List
import Mathlib.Algebra.Order.Ring.Nat
import Mathlib.Tactic.Ring

/-!
# The global resets of maps

Every map with a global reset has one event in the queue: its next warning, or its reset (`Good`).  An
update makes the reset of each map whose last minute has begun, once, however late it runs.

The next reset is computed from the time that is left, as a `uint32`: when an update runs after the reset
time itself, the time left is below zero and becomes 136 years (`reset_late`).  When no update is that late, the
next reset is in the future, and no farther than one period, one day and the hour of the settings
(`resets_kept`).
-/

namespace BlizzLike

namespace InstanceData

variable (d : InstanceData)

/-- The map has a global reset. -/
def globalReset (i : Nat) : Bool := d.hasResetTime i && (d.getInstanceTemplate i).isSome

/-- The reset periods of maps with a global reset fit into 32 bits of seconds. -/
def PeriodsFit : Prop :=
  ∀ i temp, d.getInstanceTemplate i = some temp → d.hasResetTime i = true → temp.resetDelay * day < 4294967296

/-- The reset periods are some days each. -/
def Regular : Prop :=
  ∀ i temp, d.getInstanceTemplate i = some temp → d.hasResetTime i = true →
    temp.period = temp.resetDelay * day ∧ 0 < temp.resetDelay

/-- The time of day of a reset is the hour of the settings, or that is later than the first hour. -/
def Aligned (t : Int) : Prop := (t - d.diff) % 86400 = 0 ∨ 3600 ≤ d.diff

end InstanceData

/-- The event is a warning or the reset of a map. -/
def isGlobalOf (i : Nat) (x : Int × InstResetEvent) : Bool := x.2.type != 0 && x.2.mapid == i

namespace InstanceSaveManager

variable {d : InstanceData} {w w' : InstanceSaveManager} {now clock : Nat}

/-- The resets that were made of a map. -/
def resetsOf (w : InstanceSaveManager) (i : Nat) : List GlobalReset := w.resets.filter fun r => r.mapid == i

/-- How many warnings and resets of a map are pending. -/
def pending (w : InstanceSaveManager) (i : Nat) : Nat := w.resetTimeQueue.countP (isGlobalOf i)

/-- **The invariant**: each map with a global reset has one event, which is as long before its reset as its type
tells. -/
structure Good (d : InstanceData) (w : InstanceSaveManager) : Prop where
  sorted : TimedQueue.Sorted w.resetTimeQueue
  events : ∀ x ∈ w.resetTimeQueue, x.2.type ≠ 0 → d.globalReset x.2.mapid = true ∧ x.2.type ≤ 4 ∧
    x.1 = w.resetTimeByMapId x.2.mapid - resetLead x.2.type
  one : ∀ i, d.globalReset i = true → w.pending i = 1
  aligned : ∀ i, d.globalReset i = true → d.Aligned (w.resetTimeByMapId i)

/-! ## Times -/

theorem timeLeft_eq {t : Int} (h : (now : Int) ≤ t) (h' : t - now < 4294967296) :
    ((u32OfInt (t - now) : Nat) : Int) = t - now := by
  unfold u32OfInt
  rw [Int.toNat_of_nonneg (Int.emod_nonneg _ (by decide)), Int.emod_eq_of_lt (by omega) h']

theorem timeLeft_ge (t : Int) (now : Nat) (h : t - now < 4294967296) : t - now ≤ (u32OfInt (t - now) : Nat) := by
  unfold u32OfInt
  rw [Int.toNat_of_nonneg (Int.emod_nonneg _ (by decide))]
  omega

theorem nextReset_ge {temp : InstanceTemplate} (hp : temp.period = temp.resetDelay * day ∧ 0 < temp.resetDelay)
    (t : Int) (clock timeLeft : Nat) (hal : d.Aligned t) (hle : t ≤ (clock + timeLeft : Nat)) :
    t + 3601 ≤ ((clock + timeLeft + minute) / day * day + temp.period + d.diff : Nat) := by
  have hday : day ≤ temp.period := hp.1 ▸ Nat.le_mul_of_pos_left day hp.2
  unfold InstanceData.Aligned at hal
  unfold day hour minute at *
  omega

theorem nextReset_future {temp : InstanceTemplate} (hp : temp.period = temp.resetDelay * day ∧ 0 < temp.resetDelay)
    (diff clock timeLeft : Nat) : clock + timeLeft + 60 < (clock + timeLeft + minute) / day * day + temp.period + diff := by
  have hday : day ≤ temp.period := hp.1 ▸ Nat.le_mul_of_pos_left day hp.2
  unfold day hour minute at *
  omega

theorem diff_le (d : InstanceData) : d.diff ≤ d.resetTimeHour * hour := Nat.mod_le ..

theorem mapid_eq {i : Nat} (h : d.globalReset i = true) : i % 65536 = i := by
  unfold InstanceData.globalReset at h
  rw [Bool.and_eq_true] at h
  have hlt : i < d.templates.length := by
    by_contra hge
    have h2 := h.2
    unfold InstanceData.getInstanceTemplate at h2
    rw [List.getElem?_eq_none (Nat.not_lt.1 hge)] at h2
    cases h2
  exact Nat.mod_eq_of_lt (Nat.lt_of_lt_of_le hlt d.templates_short)

/-! ## A turn -/

/-- The reset of a map at the head of the queue, and its next reset. -/
def afterReset (w : InstanceSaveManager) (i clock : Nat) (next : Int) (q : List (Int × InstResetEvent)) :
    InstanceSaveManager where
  resetTimeByMapId := Function.update w.resetTimeByMapId i next
  resetTimeQueue := TimedQueue.insert (next - 3600) ⟨1, i, 0⟩ q
  resets := w.resets ++ [⟨i, w.resetTimeByMapId i, clock, next⟩]

/-- The warning of a map at the head of the queue gives way to the next, or to the reset. -/
def afterWarning (w : InstanceSaveManager) (event : InstResetEvent) (q : List (Int × InstResetEvent)) :
    InstanceSaveManager :=
  let next := w.resetTimeByMapId event.mapid - resetLead (event.type + 1)
  { w with resetTimeQueue := TimedQueue.insert next { event with type := event.type + 1 } q }

/-- **What a turn does** with the first event of the queue. -/
inductive Turned (d : InstanceData) (now clock : Nat) (w : InstanceSaveManager) : InstanceSaveManager → Prop where
  | idle (h : ∀ x ∈ w.resetTimeQueue, ¬ x.1 < now) : Turned d now clock w w
  | expired {t : Int} {event : InstResetEvent} {q : List (Int × InstResetEvent)}
      (hq : w.resetTimeQueue = (t, event) :: q) (ht : t < now) (h0 : event.type = 0) :
      Turned d now clock w { w with resetTimeQueue := q }
  | warned {t : Int} {event : InstResetEvent} {q : List (Int × InstResetEvent)}
      (hq : w.resetTimeQueue = (t, event) :: q) (ht : t < now) (h0 : event.type ≠ 0) (h4 : event.type < 4) :
      Turned d now clock w (w.afterWarning event q)
  | reset {t : Int} {event : InstResetEvent} {q : List (Int × InstResetEvent)} {temp : InstanceTemplate}
      (hq : w.resetTimeQueue = (t, event) :: q) (ht : t < now) (h4 : event.type = 4)
      (htemp : d.getInstanceTemplate event.mapid = some temp) :
      Turned d now clock w (w.afterReset event.mapid clock
        ((clock + u32OfInt (w.resetTimeByMapId event.mapid - now) + minute) / day * day + temp.period + d.diff : Nat) q)

theorem resetLead_anti {k : Nat} (h0 : k ≠ 0) (h4 : k < 4) : resetLead (k + 1) ≤ resetLead k := by
  match k, h0 with
  | 1, _ => decide
  | 2, _ => decide
  | 3, _ => decide
  | k + 4, _ => omega

theorem resetLead_pos {k : Nat} (h0 : k ≠ 0) (h4 : k ≤ 4) : 60 ≤ resetLead k := by
  match k, h0 with
  | 1, _ => decide
  | 2, _ => decide
  | 3, _ => decide
  | 4, _ => decide
  | k + 5, _ => omega

theorem template_of_global {i : Nat} (h : d.globalReset i = true) :
    d.hasResetTime i = true ∧ ∃ temp, d.getInstanceTemplate i = some temp := by
  unfold InstanceData.globalReset at h
  rw [Bool.and_eq_true, Option.isSome_iff_exists] at h
  exact h

theorem instanceable_of_global {i : Nat} (h : d.globalReset i = true) : d.instanceable i = true := by
  have hr := (template_of_global h).1
  unfold InstanceData.hasResetTime at hr
  unfold InstanceData.instanceable
  cases hm : d.maps i with
  | none =>
    rw [hm] at hr
    cases hr
  | some e =>
    rw [hm] at hr
    exact d.instanceable_of_reset i e hm hr

/-- **A turn under the invariant.** -/
theorem turn_cases (hd : d.Regular) (h : Good d w) (hc : now ≤ clock) :
    Turned d now clock w (w.updateTurn d now clock) := by
  unfold updateTurn
  split
  · next hq => exact .idle fun x hx => by rw [hq] at hx; cases hx
  next t event q hq =>
  split
  · next ht =>
    refine .idle fun x hx => ?_
    have := (hq ▸ h.sorted).head_le (hq ▸ hx)
    dsimp only at this
    omega
  next ht =>
  rw [not_not] at ht
  split
  · next h0 => exact .expired hq ht h0
  next h0 =>
  obtain ⟨hglobal, h4, hkey⟩ := h.events (t, event) (hq ▸ List.mem_cons_self) h0
  dsimp only at hglobal h4 hkey
  have hinst := instanceable_of_global hglobal
  by_cases hlast : event.type = 4
  · obtain ⟨hreset, temp, htemp⟩ := template_of_global hglobal
    have hp := hd _ temp htemp hreset
    have hturn := @Turned.reset _ _ clock _ _ _ _ _ hq ht hlast htemp
    -- the next reset goes behind the event that is made, which is erased
    have hnext := nextReset_ge hp (w.resetTimeByMapId event.mapid) clock
      (u32OfInt (w.resetTimeByMapId event.mapid - now)) (h.aligned _ hglobal) (by
        have hlead : resetLead event.type = 60 := by rw [hlast]; rfl
        have := timeLeft_ge (w.resetTimeByMapId event.mapid) now (by omega)
        omega)
    have hkey' : t = w.resetTimeByMapId event.mapid - 60 := by rw [hkey, hlast]; rfl
    simp only [hlast, bne_self_eq_false, ne_eq, not_true_eq_false, if_false]
    unfold resetOrWarnAll getResetTimeFor
    rw [hinst, if_neg (by decide), if_neg (by decide), htemp]
    dsimp only
    rw [if_neg (Nat.pos_iff_ne_zero.1 hp.2)]
    unfold scheduleReset
    dsimp only
    rw [hq, TimedQueue.insert_cons _ _ _ (by show t ≤ _ - (3600 : Int); omega), List.tail_cons, mapid_eq hglobal]
    exact hturn
  · have hlt : event.type < 4 := by omega
    have hwarn : (event.type != 4) = true := bne_iff_ne.2 hlast
    have hw1 : ∀ timeLeft, w.resetOrWarnAll d event.mapid true timeLeft clock = w := by
      intro timeLeft
      unfold resetOrWarnAll
      rw [hinst, if_neg (by decide), if_pos rfl]
    dsimp only
    rw [hwarn, hw1, if_pos hlast]
    unfold scheduleReset getResetTimeFor
    dsimp only
    have hmod : (event.type + 1) % 256 = event.type + 1 := Nat.mod_eq_of_lt (by omega)
    have := resetLead_anti h0 hlt
    rw [hmod, TimedQueue.insert_cons _ _ _ (by omega), List.tail_cons]
    exact .warned hq ht h0 hlt

/-! ## The invariant -/

theorem isGlobalOf_iff {i : Nat} {x : Int × InstResetEvent} :
    isGlobalOf i x = true ↔ x.2.type ≠ 0 ∧ x.2.mapid = i := by
  unfold isGlobalOf
  rw [Bool.and_eq_true, bne_iff_ne, beq_iff_eq]

/-- An event that takes the place of the first, for the same map, leaves the numbers of events. -/
theorem countP_replaced (t k : Int) {event e : InstResetEvent} (q : List (Int × InstResetEvent)) (h0 : event.type ≠ 0)
    (h1 : e.type ≠ 0) (hm : e.mapid = event.mapid) (i : Nat) :
    (TimedQueue.insert k e q).countP (isGlobalOf i) = ((t, event) :: q).countP (isGlobalOf i) := by
  have hsame : isGlobalOf i (k, e) = isGlobalOf i (t, event) := by
    rw [Bool.eq_iff_iff, isGlobalOf_iff, isGlobalOf_iff]
    dsimp only
    rw [hm]
    tauto
  rw [TimedQueue.countP_insert, List.countP_cons, hsame]

/-- **A turn keeps the invariant.** -/
theorem Turned.good (hd : d.Regular) (h : Good d w) (ht : Turned d now clock w w') : Good d w' := by
  cases ht with
  | idle _ => exact h
  | @expired t event q hq _ h0 =>
    have hcount : ∀ i, isGlobalOf i (t, event) = false := fun i =>
      Bool.eq_false_iff.2 fun hc => (isGlobalOf_iff.1 hc).1 h0
    refine ⟨(hq ▸ h.sorted).tail, fun x hx => h.events x (hq ▸ List.mem_cons_of_mem _ hx), fun i hi => ?_, h.aligned⟩
    have hone := h.one i hi
    unfold pending at hone ⊢
    rw [hq, List.countP_cons, hcount, if_neg Bool.false_ne_true] at hone
    exact hone
  | @warned t event q hq _ h0 h4 =>
    obtain ⟨hglobal, -, -⟩ := h.events (t, event) (hq ▸ List.mem_cons_self) h0
    refine ⟨TimedQueue.insert_sorted _ _ (hq ▸ h.sorted).tail, fun x hx hx0 => ?_, fun i hi => ?_, h.aligned⟩
    · rcases TimedQueue.mem_insert.1 hx with rfl | hx
      · exact ⟨hglobal, h4, rfl⟩
      · exact h.events x (hq ▸ List.mem_cons_of_mem _ hx) hx0
    · have hone := h.one i hi
      unfold pending at hone ⊢
      rw [hq] at hone
      exact (countP_replaced t _ q h0 (e := { event with type := event.type + 1 }) (Nat.succ_ne_zero _) rfl i).trans hone
  | @reset t event q temp hq _ h4 htemp =>
    have h0 : event.type ≠ 0 := by omega
    obtain ⟨hglobal, -, -⟩ := h.events (t, event) (hq ▸ List.mem_cons_self) h0
    dsimp only at hglobal
    have hp := hd _ temp htemp (template_of_global hglobal).1
    generalize hnext : ((clock + u32OfInt (w.resetTimeByMapId event.mapid - now) + minute) / day * day + temp.period +
      d.diff : Nat) = next
    unfold afterReset
    refine ⟨TimedQueue.insert_sorted _ _ (hq ▸ h.sorted).tail, fun x hx hx0 => ?_, fun i hi => ?_, fun i hi => ?_⟩
    · rcases TimedQueue.mem_insert.1 hx with rfl | hx
      · refine ⟨hglobal, Nat.le.step (Nat.le.step (Nat.le.step Nat.le.refl)), ?_⟩
        dsimp only
        rw [Function.update_self]
        rfl
      · -- the map has no other event
        have hne : x.2.mapid ≠ event.mapid := by
          intro hc
          have hone := h.one _ hglobal
          unfold pending at hone
          have hhead : isGlobalOf event.mapid (t, event) = true := isGlobalOf_iff.2 ⟨h0, rfl⟩
          rw [hq, List.countP_cons, if_pos hhead] at hone
          have hpos : 0 < q.countP (isGlobalOf event.mapid) :=
            List.countP_pos_iff.2 ⟨x, hx, isGlobalOf_iff.2 ⟨hx0, hc⟩⟩
          omega
        obtain ⟨h1, h2, h3⟩ := h.events x (hq ▸ List.mem_cons_of_mem _ hx) hx0
        refine ⟨h1, h2, ?_⟩
        dsimp only
        rw [Function.update_of_ne hne]
        exact h3
    · have hone := h.one i hi
      unfold pending at hone ⊢
      rw [hq] at hone
      exact (countP_replaced t _ q h0 (e := ⟨1, event.mapid, 0⟩) Nat.one_ne_zero rfl i).trans hone
    · dsimp only
      by_cases hi' : i = event.mapid
      · subst hi'
        rw [Function.update_self]
        refine Or.inl ?_
        rw [← hnext, hp.1]
        unfold day hour minute
        omega
      · rw [Function.update_of_ne hi']
        exact h.aligned i hi

/-! ## An update -/

/-- **A map in an update**: it is as it was, or its last minute had begun and its reset was made, once, with the
next in the future; and near, if the clock did not stand behind the reset at the beginning. -/
def Progress (d : InstanceData) (c : Clock) (i : Nat) (w w' : InstanceSaveManager) : Prop :=
  (w'.resetTimeByMapId i = w.resetTimeByMapId i ∧ w'.resetsOf i = w.resetsOf i) ∨
    (w.resetTimeByMapId i - 60 < c.now ∧ (c.now : Int) + 60 ≤ w'.resetTimeByMapId i ∧ ∃ k temp,
      d.getInstanceTemplate i = some temp ∧
      w'.resetsOf i = w.resetsOf i ++ [⟨i, w.resetTimeByMapId i, c.later k, w'.resetTimeByMapId i⟩] ∧
      (c.later k : Int) < w'.resetTimeByMapId i ∧ ((c.now : Int) ≤ w.resetTimeByMapId i →
        w'.resetTimeByMapId i ≤ (c.later k + temp.resetDelay * day + day + d.resetTimeHour * hour : Nat)))

theorem resetsOf_append (w : InstanceSaveManager) (r : GlobalReset) (i : Nat) :
    (w.resets ++ [r]).filter (fun r => r.mapid == i) = w.resetsOf i ++ if r.mapid = i then [r] else [] := by
  rw [List.filter_append]
  unfold resetsOf
  congr 1
  by_cases h : r.mapid = i
  · rw [if_pos h, List.filter_singleton, beq_iff_eq.2 h]
    rfl
  · rw [if_neg h, List.filter_singleton, beq_eq_false_iff_ne.2 h]
    rfl

section AfterReset

variable (w : InstanceSaveManager) (i clock : Nat) (next : Int) (q : List (Int × InstResetEvent))

theorem afterReset_time : (w.afterReset i clock next q).resetTimeByMapId i = next := Function.update_self ..

theorem afterReset_time_other {j : Nat} (h : i ≠ j) :
    (w.afterReset i clock next q).resetTimeByMapId j = w.resetTimeByMapId j :=
  Function.update_of_ne (Ne.symm h) ..

theorem afterReset_resets : (w.afterReset i clock next q).resetsOf i =
    w.resetsOf i ++ [⟨i, w.resetTimeByMapId i, clock, next⟩] := by
  refine (resetsOf_append ..).trans ?_
  rw [if_pos rfl]

theorem afterReset_resets_other {j : Nat} (h : i ≠ j) : (w.afterReset i clock next q).resetsOf j = w.resetsOf j := by
  refine (resetsOf_append ..).trans ?_
  rw [if_neg h, List.append_nil]

end AfterReset

theorem Progress.turn {c : Clock} {i k : Nat} {w1 w2 : InstanceSaveManager} (hd : d.Regular) (h : Progress d c i w w1)
    (hg : Good d w1) (ht : Turned d c.now (c.later k) w1 w2) : Progress d c i w w2 := by
  cases ht with
  | idle _ => exact h
  | expired _ _ _ => exact h
  | warned _ _ _ _ => exact h
  | @reset t event q temp hq hdue h4 htemp =>
    obtain ⟨hglobal, -, hkey⟩ := hg.events (t, event) (hq ▸ List.mem_cons_self) (by show event.type ≠ 0; omega)
    dsimp only at hglobal hkey
    rw [h4] at hkey
    have hkey : t = w1.resetTimeByMapId event.mapid - 60 := hkey
    have hp := hd _ temp htemp (template_of_global hglobal).1
    by_cases hi : event.mapid = i
    · subst hi
      have hold : w1.resetTimeByMapId event.mapid = w.resetTimeByMapId event.mapid ∧
          w1.resetsOf event.mapid = w.resetsOf event.mapid := by
        rcases h with h | h
        · exact h
        · -- a reset that was made is not due again
          obtain ⟨-, h2, -⟩ := h
          omega
      generalize hleft : u32OfInt (w1.resetTimeByMapId event.mapid - c.now) = left
      have hfuture := nextReset_future hp d.diff (c.later k) left
      have hlater := c.later_ge k
      unfold Progress
      rw [afterReset_time, afterReset_resets, hold.1, hold.2]
      refine Or.inr ⟨by omega, by omega, k, temp, htemp, rfl, by omega, fun hnow => ?_⟩
      have heq : ((u32OfInt (w1.resetTimeByMapId event.mapid - c.now) : Nat) : Int) =
          w1.resetTimeByMapId event.mapid - c.now := timeLeft_eq (by omega) (by omega)
      have hdiff := diff_le d
      rw [hleft] at heq
      rw [hp.1]
      unfold day hour minute at *
      omega
    · unfold Progress at h ⊢
      rw [afterReset_time_other _ _ _ _ _ hi, afterReset_resets_other _ _ _ _ _ hi]
      exact h

/-! ### Its end -/

/-- How many turns an event may still take in an update. -/
def weight (now : Nat) (w : InstanceSaveManager) (x : Int × InstResetEvent) : Nat :=
  if x.1 < now then
    if x.2.type = 0 then 1
    else if w.resetTimeByMapId x.2.mapid - 60 < now then 9 - x.2.type else 5 - x.2.type
  else 0

def totalWeight (now : Nat) (w : InstanceSaveManager) : Nat := (w.resetTimeQueue.map (w.weight now)).sum

theorem weight_le (now : Nat) (w : InstanceSaveManager) (x : Int × InstResetEvent) : w.weight now x ≤ 8 := by
  unfold weight
  split
  · split
    · decide
    · split <;> omega
  · decide

theorem totalWeight_le (now : Nat) (w : InstanceSaveManager) : w.totalWeight now ≤ 8 * w.resetTimeQueue.length := by
  unfold totalWeight
  have h := List.sum_le_card_nsmul (w.resetTimeQueue.map (w.weight now)) 8 fun n hn => by
    obtain ⟨x, -, rfl⟩ := List.mem_map.1 hn
    exact weight_le now w x
  rw [List.length_map] at h
  exact h.trans_eq (Nat.mul_comm _ 8)

theorem sum_map_insert (f : Int × InstResetEvent → Nat) (k : Int) (e : InstResetEvent)
    (q : List (Int × InstResetEvent)) : ((TimedQueue.insert k e q).map f).sum = f (k, e) + (q.map f).sum := by
  rw [((TimedQueue.insert_perm k e q).map f).sum_eq, List.map_cons, List.sum_cons]

/-- **A turn ends or comes nearer to the end.** -/
theorem Turned.weight (hd : d.Regular) (h : Good d w) (hc : now ≤ clock) (ht : Turned d now clock w w') :
    (w' = w ∧ ∀ x ∈ w.resetTimeQueue, ¬ x.1 < now) ∨ w'.totalWeight now < w.totalWeight now := by
  cases ht with
  | idle h => exact Or.inl ⟨rfl, h⟩
  | @expired t event q hq hdue h0 =>
    refine Or.inr ?_
    unfold totalWeight
    rw [hq, List.map_cons, List.sum_cons]
    have hw : w.weight now (t, event) = 1 := by
      unfold InstanceSaveManager.weight
      rw [if_pos hdue, if_pos h0]
    have hsame : ({ w with resetTimeQueue := q } : InstanceSaveManager).weight now = w.weight now := rfl
    rw [hw, hsame]
    exact Nat.lt_add_of_pos_left Nat.one_pos
  | @warned t event q hq hdue h0 h4 =>
    refine Or.inr ?_
    unfold totalWeight
    have hsame : (w.afterWarning event q).weight now = w.weight now := rfl
    have hqueue : (w.afterWarning event q).resetTimeQueue = TimedQueue.insert
      (w.resetTimeByMapId event.mapid - resetLead (event.type + 1)) { event with type := event.type + 1 } q := rfl
    rw [hq, hsame, hqueue, sum_map_insert, List.map_cons, List.sum_cons]
    refine Nat.add_lt_add_right ?_ _
    unfold InstanceSaveManager.weight
    rw [if_pos hdue, if_neg h0]
    dsimp only
    rw [if_neg (Nat.succ_ne_zero _)]
    split
    · split <;> omega
    · split <;> omega
  | @reset t event q temp hq hdue h4 htemp =>
    refine Or.inr ?_
    have h0 : event.type ≠ 0 := by omega
    obtain ⟨hglobal, -, hkey⟩ := h.events (t, event) (hq ▸ List.mem_cons_self) h0
    dsimp only at hglobal hkey
    rw [h4] at hkey
    have hkey : t = w.resetTimeByMapId event.mapid - 60 := hkey
    have hp := hd _ temp htemp (template_of_global hglobal).1
    have hfuture := nextReset_future hp d.diff clock (u32OfInt (w.resetTimeByMapId event.mapid - now))
    generalize hnext : ((clock + u32OfInt (w.resetTimeByMapId event.mapid - now) + minute) / day * day + temp.period +
      d.diff : Nat) = next at hfuture
    have hone := h.one _ hglobal
    unfold pending at hone
    have hhead : isGlobalOf event.mapid (t, event) = true := isGlobalOf_iff.2 ⟨h0, rfl⟩
    rw [hq, List.countP_cons, if_pos hhead] at hone
    -- the other events are of other maps, or of instances
    have hothers : q.map ((w.afterReset event.mapid clock next q).weight now) = q.map (w.weight now) := by
      refine List.map_congr_left fun x hx => ?_
      unfold InstanceSaveManager.weight
      by_cases hx0 : x.2.type = 0
      · rw [if_pos hx0, if_pos hx0]
      · have hne : event.mapid ≠ x.2.mapid := by
          intro hc
          have hpos : 0 < q.countP (isGlobalOf event.mapid) :=
            List.countP_pos_iff.2 ⟨x, hx, isGlobalOf_iff.2 ⟨hx0, hc.symm⟩⟩
          omega
        rw [afterReset_time_other _ _ _ _ _ hne]
    have hqueue : (w.afterReset event.mapid clock next q).resetTimeQueue =
      TimedQueue.insert ((next : Int) - 3600) ⟨1, event.mapid, 0⟩ q := rfl
    unfold totalWeight
    rw [hq, hqueue, sum_map_insert, hothers, List.map_cons, List.sum_cons]
    refine Nat.add_lt_add_right ?_ _
    have hold : w.weight now (t, event) = 5 := by
      unfold InstanceSaveManager.weight
      rw [if_pos hdue, if_neg h0, if_pos (by dsimp only; omega), h4]
    have hnew : (w.afterReset event.mapid clock next q).weight now ((next : Int) - 3600, ⟨1, event.mapid, 0⟩) ≤ 4 := by
      unfold InstanceSaveManager.weight
      rw [afterReset_time]
      dsimp only
      split
      · rw [if_neg Nat.one_ne_zero, if_neg (by omega)]
      · decide
    omega

/-- **The turns of an update**: they keep the invariant and the law of each map, and end or come nearer to the
end with each turn. -/
theorem updateTurns_spec (hd : d.Regular) (h : Good d w) (c : Clock) (n : Nat) :
    Good d (w.updateTurns d c n) ∧ (∀ i, Progress d c i w (w.updateTurns d c n)) ∧
      ((∀ x ∈ (w.updateTurns d c n).resetTimeQueue, ¬ x.1 < c.now) ∨
        (w.updateTurns d c n).totalWeight c.now + n ≤ w.totalWeight c.now) := by
  induction n with
  | zero => exact ⟨h, fun i => Or.inl ⟨rfl, rfl⟩, Or.inr (Nat.le_refl _)⟩
  | succ n ih =>
    obtain ⟨hg, hp, hend⟩ := ih
    have ht := turn_cases hd hg (c.later_ge n)
    unfold updateTurns
    generalize w.updateTurns d c n = w1 at hg hp hend ht
    generalize w1.updateTurn d c.now (c.later n) = w2 at ht
    refine ⟨ht.good hd hg, fun i => (hp i).turn hd hg ht, ?_⟩
    rcases ht.weight hd hg (c.later_ge n) with ⟨rfl, hidle⟩ | hlt
    · exact Or.inl hidle
    · rcases hend with hidle | hend
      · -- nothing was due, so nothing happened
        cases ht with
        | idle hidle => exact Or.inl hidle
        | expired hq hdue _ => exact absurd hdue (hidle _ (hq ▸ List.mem_cons_self))
        | warned hq hdue _ _ => exact absurd hdue (hidle _ (hq ▸ List.mem_cons_self))
        | reset hq hdue _ _ => exact absurd hdue (hidle _ (hq ▸ List.mem_cons_self))
      · exact Or.inr (by omega)

/-- **The loop of an update ends**: no event is due after it. -/
theorem update_ends (hd : d.Regular) (h : Good d w) (c : Clock) :
    ∀ x ∈ (w.update d c).resetTimeQueue, ¬ x.1 < c.now := by
  obtain ⟨-, -, hidle | hle⟩ := updateTurns_spec hd h c (8 * w.resetTimeQueue.length)
  · exact hidle
  · -- the turns are used up, and so is the weight
    intro x hx hdue
    have htotal := totalWeight_le c.now w
    have hzero : (w.update d c).totalWeight c.now = 0 := by
      show (w.updateTurns d c _).totalWeight c.now = 0
      omega
    have hx0 : (w.update d c).weight c.now x = 0 :=
      List.sum_eq_zero_iff.1 hzero _ (List.mem_map_of_mem hx)
    obtain ⟨hg, -, -⟩ := updateTurns_spec hd h c (8 * w.resetTimeQueue.length)
    have hg : Good d (w.update d c) := hg
    unfold InstanceSaveManager.weight at hx0
    rw [if_pos hdue] at hx0
    split at hx0
    · cases hx0
    · next h0 =>
      obtain ⟨-, h4, -⟩ := hg.events x hx h0
      split at hx0 <;> omega

/-! ## Loading -/

/-- Which maps are loaded: those below `n` have their event, and the others what the table says. -/
structure Loaded (d : InstanceData) (n : Nat) (w : InstanceSaveManager) : Prop where
  sorted : TimedQueue.Sorted w.resetTimeQueue
  events : ∀ x ∈ w.resetTimeQueue, x.2.type ≠ 0 → x.2.mapid < n ∧ d.globalReset x.2.mapid = true ∧ x.2.type ≤ 4 ∧
    x.1 = w.resetTimeByMapId x.2.mapid - resetLead x.2.type
  one : ∀ i < n, d.globalReset i = true → w.pending i = 1
  aligned : ∀ i < n, d.globalReset i = true → d.Aligned (w.resetTimeByMapId i)
  read : ∀ i, w.resetTimeByMapId i ≤ 0 ∨ d.Aligned (w.resetTimeByMapId i)

/-- A time of the table at the hour of the settings: of the last day of 64 bits there are seven hours, so that what
runs over has a late hour. -/
theorem aligned_row (d : InstanceData) (n : Nat) :
    timeOfU64 ((n % 18446744073709551616) / day * day + d.diff) ≤ 0 ∨
      d.Aligned (timeOfU64 ((n % 18446744073709551616) / day * day + d.diff)) := by
  have hn : n % 18446744073709551616 < 18446744073709551616 := Nat.mod_lt _ (by decide)
  unfold InstanceData.Aligned timeOfU64 day hour minute
  by_cases hdiff : 3600 ≤ d.diff
  · exact Or.inr (Or.inr hdiff)
  have hlt : n % 18446744073709551616 / 86400 * 86400 + d.diff < 18446744073709551616 := by omega
  rw [Nat.mod_eq_of_lt hlt]
  split
  · refine Or.inr (Or.inl ?_)
    omega
  · refine Or.inl ?_
    omega

theorem nextReset_aligned {temp : InstanceTemplate} (hp : temp.period = temp.resetDelay * day) (now : Nat) {t : Int}
    (ht : t ≤ 0 ∨ d.Aligned t) : d.Aligned (nextReset d temp now t) := by
  unfold nextReset
  dsimp only
  generalize ht1 : (if t = 0 then ((now / day * day : Nat) : Int) + temp.period + d.diff else t) = t1
  have hal : t1 < now ∨ d.Aligned t1 := by
    subst ht1
    split
    · refine Or.inr (Or.inl ?_)
      rw [hp]
      unfold day hour minute
      omega
    · next h0 => exact ht.imp_left fun h => by omega
  split
  · refine Or.inl ?_
    rw [hp]
    generalize Int.tdiv t1 day = a
    generalize Int.tdiv _ _ = k
    unfold day hour minute
    have h1 : a * ((86400 : Nat) : Int) + (k + 1) * ((temp.resetDelay * 86400 : Nat) : Int) + d.diff - d.diff =
        (a + (k + 1) * temp.resetDelay) * 86400 := by
      push_cast
      ring
    rw [h1]
    exact Int.mul_emod_left _ _
  · next hlt => exact hal.resolve_left hlt

theorem readResets_spec (rows : List (Nat × Nat)) (w : InstanceSaveManager)
    (h : ∀ i, w.resetTimeByMapId i ≤ 0 ∨ d.Aligned (w.resetTimeByMapId i)) :
    (readResets d w rows).resetTimeQueue = w.resetTimeQueue ∧
      ∀ i, (readResets d w rows).resetTimeByMapId i ≤ 0 ∨ d.Aligned ((readResets d w rows).resetTimeByMapId i) := by
  unfold readResets
  induction rows generalizing w with
  | nil => exact ⟨rfl, h⟩
  | cons r rows ih =>
    rw [List.foldl_cons]
    split
    · exact ih w h
    · refine ih _ fun i => ?_
      dsimp only
      by_cases hi : i = r.1
      · subst hi
        rw [Function.update_self]
        exact aligned_row d r.2
      · rw [Function.update_of_ne hi]
        exact h i

theorem scheduleInstances_spec (now : Nat) (rows : List (Nat × Nat × Nat)) (w : InstanceSaveManager)
    (hs : TimedQueue.Sorted w.resetTimeQueue) (h0 : ∀ x ∈ w.resetTimeQueue, x.2.type = 0) :
    TimedQueue.Sorted (w.scheduleInstances now rows).resetTimeQueue ∧
      (∀ x ∈ (w.scheduleInstances now rows).resetTimeQueue, x.2.type = 0) ∧
      (w.scheduleInstances now rows).resetTimeByMapId = w.resetTimeByMapId := by
  unfold scheduleInstances
  induction rows generalizing w with
  | nil => exact ⟨hs, h0, rfl⟩
  | cons r rows ih =>
    rw [List.foldl_cons]
    split
    · refine ih _ (TimedQueue.insert_sorted _ _ hs) fun x hx => ?_
      rcases TimedQueue.mem_insert.1 hx with rfl | hx
      · rfl
      · exact h0 x hx
    · exact ih w hs h0

theorem nextType_le (t : Int) (now : Nat) : nextType t now ≠ 0 ∧ nextType t now ≤ 4 := by
  unfold nextType
  split
  · exact ⟨by decide, by decide⟩
  split
  · exact ⟨by decide, by decide⟩
  split <;> exact ⟨by decide, by decide⟩

/-- **One map is loaded**, if its period is not zero. -/
theorem Loaded.map {n : Nat} (hd : d.PeriodsFit) (h : Loaded d n w) (hl : loadMap d now w n = some w') :
    Loaded d (n + 1) w' ∧ ∀ temp, d.getInstanceTemplate n = some temp → d.hasResetTime n = true →
      temp.period = temp.resetDelay * day ∧ 0 < temp.resetDelay := by
  unfold loadMap at hl
  have hskip : d.globalReset n = false → Loaded d (n + 1) w := fun hno =>
    ⟨h.sorted, fun x hx hx0 => (h.events x hx hx0).imp_left Nat.lt_succ_of_lt, fun i hi hg =>
      h.one i (Nat.lt_of_le_of_ne (Nat.le_of_lt_succ hi) fun hc => Bool.noConfusion (hno.symm.trans (hc ▸ hg))) hg,
      fun i hi hg => h.aligned i
        (Nat.lt_of_le_of_ne (Nat.le_of_lt_succ hi) fun hc => Bool.noConfusion (hno.symm.trans (hc ▸ hg))) hg, h.read⟩
  split at hl
  · next hno =>
    cases hl
    refine ⟨hskip ?_, fun temp ht => nomatch hno.symm.trans ht⟩
    unfold InstanceData.globalReset
    rw [hno]
    exact Bool.and_false _
  next temp htemp =>
  split at hl
  · next hno =>
    cases hl
    refine ⟨hskip ?_, fun _ _ hr => Bool.noConfusion (hno.symm.trans hr)⟩
    unfold InstanceData.globalReset
    rw [hno]
    rfl
  next hreset =>
  rw [Bool.not_eq_false] at hreset
  split at hl
  · cases hl
  next hperiod =>
  cases hl
  have hp : temp.period = temp.resetDelay * day := Nat.mod_eq_of_lt (hd n temp htemp hreset)
  have hpos : 0 < temp.resetDelay := by
    rw [hp] at hperiod
    exact Nat.pos_of_ne_zero fun hc => hperiod (by rw [hc, Nat.zero_mul])
  have hglobal : d.globalReset n = true := by
    unfold InstanceData.globalReset
    rw [hreset, htemp]
    rfl
  refine ⟨?_, fun temp' ht _ => by
    rw [htemp] at ht
    cases ht
    exact ⟨hp, hpos⟩⟩
  have hal := nextReset_aligned hp now (h.read n)
  generalize nextReset d temp now (w.resetTimeByMapId n) = t at hal
  obtain ⟨ht0, ht4⟩ := nextType_le t now
  generalize nextType t now = type at ht0 ht4
  unfold scheduleReset
  rw [mapid_eq hglobal]
  dsimp only
  have hno : w.pending n = 0 := by
    refine List.countP_eq_zero.2 fun x hx hc => ?_
    obtain ⟨hx0, hxn⟩ := isGlobalOf_iff.1 hc
    have := (h.events x hx hx0).1
    omega
  have hpending : ∀ i, ({ w with
      resetTimeByMapId := Function.update w.resetTimeByMapId n t
      resetTimeQueue := TimedQueue.insert (t - resetLead type) ⟨type, n, 0⟩ w.resetTimeQueue } :
      InstanceSaveManager).pending i = w.pending i + if i = n then 1 else 0 := by
    intro i
    refine (TimedQueue.countP_insert ..).trans (congrArg (w.pending i + ·) (if_congr ?_ rfl rfl))
    rw [isGlobalOf_iff]
    exact ⟨fun hc => hc.2.symm, fun hc => ⟨ht0, hc.symm⟩⟩
  have htime : ∀ i, i ≠ n → Function.update w.resetTimeByMapId n t i = w.resetTimeByMapId i := fun i hi =>
    Function.update_of_ne hi ..
  refine ⟨TimedQueue.insert_sorted _ _ h.sorted, fun x hx hx0 => ?_, fun i hi hg => ?_, fun i hi hg => ?_, fun i => ?_⟩
  · rcases TimedQueue.mem_insert.1 hx with rfl | hx
    · refine ⟨Nat.lt_succ_self n, hglobal, ht4, ?_⟩
      dsimp only
      rw [Function.update_self]
    · obtain ⟨h1, h2, h3, h4⟩ := h.events x hx hx0
      refine ⟨Nat.lt_succ_of_lt h1, h2, h3, ?_⟩
      dsimp only
      rw [htime _ (Nat.ne_of_lt h1)]
      exact h4
  · rw [hpending]
    by_cases hin : i = n
    · rw [if_pos hin, hin, hno]
    · rw [if_neg hin, h.one i (by omega) hg]
  · dsimp only
    by_cases hin : i = n
    · subst hin
      rw [Function.update_self]
      exact hal
    · rw [htime i hin]
      exact h.aligned i (by omega) hg
  · dsimp only
    by_cases hin : i = n
    · subst hin
      rw [Function.update_self]
      exact Or.inr hal
    · rw [htime i hin]
      exact h.read i

/-- **The maps are loaded** one after the other. -/
theorem loadMaps_spec (hd : d.PeriodsFit) (n : Nat) {w0 : InstanceSaveManager} (h0 : Loaded d 0 w0)
    (hl : (List.range n).foldlM (loadMap d now) w0 = some w) :
    Loaded d n w ∧ ∀ i < n, ∀ temp, d.getInstanceTemplate i = some temp → d.hasResetTime i = true →
      temp.period = temp.resetDelay * day ∧ 0 < temp.resetDelay := by
  induction n generalizing w with
  | zero =>
    cases hl
    exact ⟨h0, fun i hi => absurd hi (Nat.not_lt_zero i)⟩
  | succ n ih =>
    rw [List.range_succ, List.foldlM_append] at hl
    obtain ⟨w1, hw1, hl⟩ := Option.bind_eq_some_iff.1 hl
    rw [List.foldlM_cons] at hl
    obtain ⟨w2, hw2, hl⟩ := Option.bind_eq_some_iff.1 hl
    cases hl
    obtain ⟨hload, hreg⟩ := ih hw1
    obtain ⟨hload', hlast⟩ := hload.map hd hw2
    refine ⟨hload', fun i hi => ?_⟩
    by_cases hin : i = n
    · exact hin ▸ hlast
    · exact hreg i (by omega)

theorem getInstanceTemplate_lt {i : Nat} {temp : InstanceTemplate} (h : d.getInstanceTemplate i = some temp) :
    i < d.templates.length := by
  by_contra hge
  unfold InstanceData.getInstanceTemplate at h
  rw [List.getElem?_eq_none (Nat.not_lt.1 hge)] at h
  cases h

/-- **What was loaded** has the invariant. -/
theorem loadResetTimes_good (hd : d.PeriodsFit) {tables : ResetTables} (hl : loadResetTimes d tables now = some w) :
    d.Regular ∧ Good d w := by
  unfold loadResetTimes at hl
  obtain ⟨h1, h2, h3⟩ := scheduleInstances_spec now (instResetTimes tables).toList {} List.Pairwise.nil
    fun x hx => nomatch hx
  dsimp only at hl
  generalize scheduleInstances {} now (instResetTimes tables).toList = w1 at hl h1 h2 h3
  obtain ⟨h4, h5⟩ := readResets_spec (d := d) tables.resets w1 fun i => Or.inl (by rw [h3])
  have h0 : Loaded d 0 (readResets d w1 tables.resets) :=
    ⟨by rw [h4]; exact h1, fun x hx hx0 => absurd (h2 x (h4 ▸ hx)) hx0, fun i hi => absurd hi (Nat.not_lt_zero i),
      fun i hi => absurd hi (Nat.not_lt_zero i), h5⟩
  obtain ⟨hload, hreg⟩ := loadMaps_spec hd _ h0 hl
  have hlt : ∀ i, d.globalReset i = true → i < d.templates.length := by
    intro i hi
    obtain ⟨-, temp, htemp⟩ := template_of_global hi
    exact getInstanceTemplate_lt htemp
  exact ⟨fun i temp htemp hr => hreg i (getInstanceTemplate_lt htemp) temp htemp hr, hload.sorted,
    fun x hx hx0 => (hload.events x hx hx0).2, fun i hi => hload.one i (hlt i hi) hi,
    fun i hi => hload.aligned i (hlt i hi) hi⟩

/-! ## The law -/

/-- **The law** of an update: each map with a global reset has one event after it; the reset of a map whose last
minute has begun was made, once, and its next one is in the future and near; and no other reset was made. -/
structure ResetsKept (d : InstanceData) (w : InstanceSaveManager) (c : Clock) : Prop where
  one : ∀ i, d.globalReset i = true → (w.update d c).pending i = 1
  made : ∀ i, d.globalReset i = true → w.resetTimeByMapId i - 60 < c.now → ∃ k temp,
    d.getInstanceTemplate i = some temp ∧
    (w.update d c).resetsOf i = w.resetsOf i ++ [⟨i, w.resetTimeByMapId i, c.later k, (w.update d c).resetTimeByMapId i⟩] ∧
    (c.later k : Int) < (w.update d c).resetTimeByMapId i ∧
    (w.update d c).resetTimeByMapId i ≤ (c.later k + temp.resetDelay * day + day + d.resetTimeHour * hour : Nat)
  others : ∀ i, d.globalReset i = true → ¬ w.resetTimeByMapId i - 60 < c.now →
    (w.update d c).resetsOf i = w.resetsOf i ∧ (w.update d c).resetTimeByMapId i = w.resetTimeByMapId i

/-- The update does not run later than the next reset of any map. -/
def timely (d : InstanceData) (w : InstanceSaveManager) (c : Clock) : Bool :=
  (List.range d.templates.length).all fun i => !d.globalReset i || decide ((c.now : Int) ≤ w.resetTimeByMapId i)

theorem timely_le (h : timely d w c = true) {i : Nat} (hi : d.globalReset i = true) :
    (c.now : Int) ≤ w.resetTimeByMapId i := by
  obtain ⟨-, temp, htemp⟩ := template_of_global hi
  have hall := List.all_eq_true.1 h i (List.mem_range.2 (getInstanceTemplate_lt htemp))
  rw [hi, Bool.not_true, Bool.false_or, decide_eq_true_eq] at hall
  exact hall

/-- **An update**, however late: one event for each map, and each reset made once that is due. -/
theorem update_spec (hd : d.Regular) (h : Good d w) (c : Clock) :
    Good d (w.update d c) ∧ ∀ i, d.globalReset i = true → Progress d c i w (w.update d c) ∧
      (w.resetTimeByMapId i - 60 < c.now → (c.now : Int) + 60 ≤ (w.update d c).resetTimeByMapId i) := by
  obtain ⟨hg, hp, -⟩ := updateTurns_spec hd h c (8 * w.resetTimeQueue.length)
  refine ⟨hg, fun i hi => ⟨hp i, fun hdue => ?_⟩⟩
  rcases hp i with ⟨htime, -⟩ | ⟨-, hnext, -⟩
  · -- the event of the map is not due any more
    have hone : 0 < (w.update d c).pending i := (hg.one i hi).symm ▸ Nat.one_pos
    obtain ⟨x, hx, hxi⟩ := List.countP_pos_iff.1 hone
    obtain ⟨hx0, rfl⟩ := isGlobalOf_iff.1 hxi
    obtain ⟨-, h4, hkey⟩ := hg.events x hx hx0
    have hidle := update_ends hd h c x hx
    have hlead := resetLead_pos hx0 h4
    have htime : (w.update d c).resetTimeByMapId x.2.mapid = w.resetTimeByMapId x.2.mapid := htime
    have hkey : x.1 = (w.update d c).resetTimeByMapId x.2.mapid - resetLead x.2.type := hkey
    omega
  · exact hnext

theorem Good.kept (hd : d.Regular) (h : Good d w) {c : Clock} (ht : timely d w c = true) : ResetsKept d w c := by
  obtain ⟨hg, hp⟩ := update_spec hd h c
  refine ⟨hg.one, fun i hi hdue => ?_, fun i hi hnot => ?_⟩
  · obtain ⟨⟨htime, -⟩ | ⟨-, -, k, temp, htemp, hmade, hfuture, hnear⟩, hnext⟩ := hp i hi
    · have := hnext hdue
      omega
    · exact ⟨k, temp, htemp, hmade, hfuture, hnear (timely_le ht hi)⟩
  · obtain ⟨⟨htime, hsame⟩ | ⟨hdue, -⟩, -⟩ := hp i hi
    · exact ⟨hsame, htime⟩
    · exact absurd hdue hnot

def sampleData : InstanceData where
  maps i := if i = 0 then some ⟨0, 604800, true⟩ else none
  templates := [some ⟨7⟩]
  resetTimeHour := 4
  instanceable_of_reset := by
    intro i e he _
    by_cases hi : i = 0
    · rw [if_pos hi] at he
      cases he
      rfl
    · rw [if_neg hi] at he
      cases he
  templates_short := by decide

theorem sampleData_fits : sampleData.PeriodsFit := by
  intro i temp htemp _
  have hi := getInstanceTemplate_lt htemp
  have hi : i = 0 := Nat.lt_one_iff.1 hi
  subst hi
  cases htemp
  decide

/-- The manager after it was loaded with empty tables. -/
def sampleManager : InstanceSaveManager := (loadResetTimes sampleData {} 1000000000).get (by decide)

theorem sampleManager_loaded : loadResetTimes sampleData {} 1000000000 = some sampleManager := (Option.some_get _).symm

/-- An update in the last second before the reset, and one soon after it. -/
def sampleUpdates : List Clock := [{ now := 1000612800 }, { now := 1000612900 }]

theorem sampleUpdates_timely :
    Transition.Along (update sampleData) (fun w c => timely sampleData w c = true) sampleManager sampleUpdates :=
  ⟨by decide, by decide, trivial⟩

end InstanceSaveManager

end BlizzLike
