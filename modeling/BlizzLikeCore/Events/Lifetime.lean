import BlizzLikeCore.Events.EventProcessor
import BlizzLikeCore.Lib.Transition
import Mathlib.Data.List.Nodup

/-!
# The life of an event

Events are executed when they are due and in the order of their times, never once they are
flagged, aborted and deleted once at the most, and none is lost, in every run in which no event is
added to what it is in already or before what was executed, no event is aborted that was aborted
before, and nothing is added behind the back of a forced `KillAllEvents` (`events_lawful`).

An event that refuses its deletion is aborted again by `Update` (`aborted_twice`); what an event
adds while all are killed is not held off by `m_aborting`, and can be lost.
-/

namespace BlizzLike

namespace EventAction

def event : EventAction → Nat
  | flagged e => e
  | executed e _ _ => e
  | aborted e => e
  | deleted e => e

def execTime : EventAction → Option Nat
  | executed _ execTime _ => some execTime
  | _ => none

end EventAction

/-- **The law** for a history. -/
structure LawfulLog (log : List EventAction) : Prop where
  onTime : ∀ e k t, .executed e k t ∈ log → k ≤ t
  inOrder : (log.filterMap EventAction.execTime).Pairwise (· ≤ ·)
  notAborted : log.Pairwise fun a b => ∀ e k t, a = .flagged e → b ≠ .executed e k t
  abortedOnce : ∀ e, log.count (.aborted e) ≤ 1
  deletedOnce : ∀ e, log.count (.deleted e) ≤ 1
  notUsed : log.Pairwise fun a b => ∀ e, a = .deleted e → b.event ≠ e

namespace EventProcessor

/-- **The law**: a lawful history, and what is owned is in the queue. -/
structure Lawful (w : EventProcessor) : Prop where
  log : LawfulLog w.log
  notLeaked : ∀ e, w.owned e = true → ∃ x ∈ w.queue, x.event = e

/-- An event that may be added: it is in no queue and not deleted, nothing later was executed, and a
forced `KillAllEvents` has it before itself. -/
structure Addable (w : EventProcessor) (event e_time : Nat) : Prop where
  fresh : ∀ x ∈ w.queue, x.event ≠ event
  alive : .deleted event ∉ w.log
  order : ∀ k ∈ w.log.filterMap EventAction.execTime, k ≤ e_time
  reached : w.phase = .killing true → w.beforeIterator e_time = false

def AddsHeedful : EventProcessor → List (Nat × Nat) → Prop
  | _, [] => True
  | w, (event, e_time) :: adds => w.Addable event e_time ∧ AddsHeedful (w.addEvent event e_time) adds

/-- A turn that does not meet a slip or break the contract of the callbacks; `x` is first. -/
def HeedfulTurn (w : EventProcessor) (adds : List (Nat × Nat)) (answer : Bool) (x : QueuedEvent)
    (rest : List QueuedEvent) : EventPhase → Prop
  | .idle => True
  | .updating => x.execTime ≤ w.time →
      if w.toAbort x.event = false then
        (({ w with events := rest } : EventProcessor).record (.executed x.event x.execTime w.time)).AddsHeedful adds ∧
          (answer = true → ∀ a ∈ adds, a.1 ≠ x.event)
      else .aborted x.event ∉ w.log ∧
        (({ w with events := rest } : EventProcessor).record (.aborted x.event)).AddsHeedful adds ∧
          ∀ a ∈ adds, a.1 ≠ x.event
  | .killing _ => .aborted x.event ∉ w.log ∧ (w.pass x rest).AddsHeedful adds

/-- A request that does not meet a slip or break the contract of the callbacks. -/
def Heedful (w : EventProcessor) : EventRequest → Prop
  | .addEvent event e_time => w.phase = .idle → w.Addable event e_time
  | .setAbort event => .deleted event ∉ w.log
  | .update _ => True
  | .killAllEvents _ => True
  | .turn adds answer => ∀ x rest, w.events = x :: rest → w.HeedfulTurn adds answer x rest w.phase

/-- A turn that ends a forced `KillAllEvents`. -/
def EndsForcedKill (w : EventProcessor) : EventRequest → Prop
  | .turn _ _ => w.phase = .killing true ∧ w.events = []
  | _ => False

end EventProcessor

/-! ## Histories -/

theorem LawfulLog.append {log : List EventAction} (h : LawfulLog log) (a : EventAction)
    (halive : .deleted a.event ∉ log)
    (hexec : ∀ e k t, a = .executed e k t →
      k ≤ t ∧ (∀ k' ∈ log.filterMap EventAction.execTime, k' ≤ k) ∧ .flagged e ∉ log)
    (habort : ∀ e, a = .aborted e → .aborted e ∉ log) : LawfulLog (log ++ [a]) := by
  have hcount : ∀ b, (log ++ [a]).count b = log.count b + if a = b then 1 else 0 := by
    intro b
    rw [List.count_append, List.count_singleton]
    simp
  refine ⟨fun e k t hm => ?_, ?_, ?_, fun e => ?_, fun e => ?_, ?_⟩
  · rcases List.mem_append.1 hm with hm | hm
    · exact h.onTime e k t hm
    · exact (hexec e k t (List.mem_singleton.1 hm).symm).1
  · rw [List.filterMap_append, List.pairwise_append]
    refine ⟨h.inOrder, ?_, fun k hk k' hk' => ?_⟩
    · cases a with
      | executed e k t => exact List.pairwise_singleton _ _
      | flagged e => exact List.Pairwise.nil
      | aborted e => exact List.Pairwise.nil
      | deleted e => exact List.Pairwise.nil
    · cases a with
      | executed e k1 t =>
        have : k' = k1 := by simpa [EventAction.execTime] using hk'
        rw [this]
        exact (hexec e k1 t rfl).2.1 k hk
      | flagged e => simp [EventAction.execTime] at hk'
      | aborted e => simp [EventAction.execTime] at hk'
      | deleted e => simp [EventAction.execTime] at hk'
  · rw [List.pairwise_append]
    refine ⟨h.notAborted, List.pairwise_singleton _ _, fun b hb c hc e k t hf he => ?_⟩
    rw [List.mem_singleton.1 hc] at he
    exact (hexec e k t he).2.2 (hf ▸ hb)
  · rw [hcount]
    split
    · next he =>
      have := List.count_eq_zero.2 (habort e he)
      omega
    · exact h.abortedOnce e
  · rw [hcount]
    split
    · next he =>
      have hd : EventAction.deleted e ∉ log := by
        rw [he] at halive
        exact halive
      have := List.count_eq_zero.2 hd
      omega
    · exact h.deletedOnce e
  · rw [List.pairwise_append]
    refine ⟨h.notUsed, List.pairwise_singleton _ _, fun b hb c hc e hd he => ?_⟩
    rw [List.mem_singleton.1 hc] at he
    rw [he] at halive
    exact halive (hd ▸ hb)

/-! ## The queue -/

theorem insertEvent_perm (x : QueuedEvent) (l : List QueuedEvent) : (insertEvent x l).Perm (x :: l) := by
  induction l with
  | nil => exact List.Perm.refl _
  | cons y l ih =>
    unfold insertEvent
    split
    · exact List.Perm.refl _
    · exact (ih.cons y).trans (List.Perm.swap x y l)

theorem mem_insertEvent {x y : QueuedEvent} {l : List QueuedEvent} : y ∈ insertEvent x l ↔ y = x ∨ y ∈ l := by
  rw [(insertEvent_perm x l).mem_iff, List.mem_cons]

/-- Sorted by time. -/
def Sorted (l : List QueuedEvent) : Prop := l.Pairwise fun x y => x.execTime ≤ y.execTime

theorem insertEvent_sorted (x : QueuedEvent) (l : List QueuedEvent) (h : Sorted l) : Sorted (insertEvent x l) := by
  unfold Sorted at *
  induction l with
  | nil => exact List.pairwise_singleton _ _
  | cons y l ih =>
    obtain ⟨h1, h2⟩ := List.pairwise_cons.1 h
    unfold insertEvent
    split
    · next hlt =>
      refine List.pairwise_cons.2 ⟨fun z hz => ?_, h⟩
      rcases List.mem_cons.1 hz with rfl | hz
      · omega
      · have := h1 z hz; omega
    · next hge =>
      refine List.pairwise_cons.2 ⟨fun z hz => ?_, ih h2⟩
      rcases mem_insertEvent.1 hz with rfl | hz
      · omega
      · exact h1 z hz

namespace EventProcessor

open Transition (run Along)

section
variable {w : EventProcessor} {hand : Option Nat}

/-- The invariant within a turn: `hand` is the event whose callback runs. -/
structure Sound (hand : Option Nat) (w : EventProcessor) : Prop where
  log : LawfulLog w.log
  held : ∀ e, w.owned e = true → (∃ x ∈ w.queue, x.event = e) ∨ hand = some e
  sorted : Sorted w.queue
  nodup : (w.queue.map QueuedEvent.event).Nodup
  later : ∀ k ∈ w.log.filterMap EventAction.execTime, ∀ x ∈ w.queue, k ≤ x.execTime
  alive : ∀ x ∈ w.events, .deleted x.event ∉ w.log
  alivePassed : w.phase ≠ .killing true → ∀ x ∈ w.passed, .deleted x.event ∉ w.log
  forced : w.phase = .killing true → ∀ x ∈ w.passed, hand = some x.event ∨ .deleted x.event ∈ w.log
  freed : ∀ e, .deleted e ∈ w.log → w.owned e = false
  flags : ∀ e, .flagged e ∈ w.log → w.toAbort e = true
  quiet : (∀ force, w.phase ≠ .killing force) → w.passed = []
  inHand : ∀ e, hand = some e → .deleted e ∉ w.log

theorem Sound.lawful (h : Sound none w) : w.Lawful :=
  ⟨h.log, fun e he => (h.held e he).resolve_right (by simp)⟩

theorem addEvent_queue (hs : Sorted w.queue) (hq : (∀ force, w.phase ≠ .killing force) → w.passed = [])
    (event e_time : Nat) :
    (w.addEvent event e_time).queue.Perm ({ execTime := e_time, event := event } :: w.queue) ∧
      Sorted (w.addEvent event e_time).queue := by
  unfold addEvent
  simp only
  split
  · next hb =>
    refine ⟨(List.Perm.append_right w.events (insertEvent_perm _ w.passed)), ?_⟩
    obtain ⟨h1, h2, h3⟩ := List.pairwise_append.1 hs
    refine List.pairwise_append.2 ⟨insertEvent_sorted _ _ h1, h2, fun x hx y hy => ?_⟩
    rcases mem_insertEvent.1 hx with rfl | hx
    · -- all that is not passed yet is later
      unfold beforeIterator at hb
      split at hb
      · next _ hnil => rw [hnil] at hy; cases hy
      · next z l _ hcons =>
        have hlt : e_time < z.execTime := by simpa using hb
        rw [hcons] at h2 hy
        rcases List.mem_cons.1 hy with rfl | hy
        · exact Nat.le_of_lt hlt
        · have := (List.pairwise_cons.1 h2).1 y hy
          show e_time ≤ y.execTime
          omega
      · cases hb
    · exact h3 x hx y hy
  · next hb =>
    refine ⟨((insertEvent_perm _ w.events).append_left w.passed).trans List.perm_middle, ?_⟩
    obtain ⟨h1, h2, h3⟩ := List.pairwise_append.1 hs
    refine List.pairwise_append.2 ⟨h1, insertEvent_sorted _ _ h2, fun x hx y hy => ?_⟩
    rcases mem_insertEvent.1 hy with rfl | hy
    · cases hp : w.phase with
      | idle => rw [hq (by simp [hp])] at hx; cases hx
      | updating => rw [hq (by simp [hp])] at hx; cases hx
      | killing force =>
        unfold beforeIterator at hb
        rw [hp] at hb
        cases he : w.events with
        | nil => simp [he] at hb
        | cons z l =>
          have hge : z.execTime ≤ e_time := by simpa [he] using hb
          have := h3 x hx z (by rw [he]; exact List.mem_cons_self)
          show x.execTime ≤ e_time
          omega
    · exact h3 x hx y hy

theorem addEvent_fields (w : EventProcessor) (event e_time : Nat) :
    (w.addEvent event e_time).log = w.log ∧ (w.addEvent event e_time).phase = w.phase ∧
      (w.addEvent event e_time).toAbort = w.toAbort ∧
      (w.addEvent event e_time).owned = Function.update w.owned event true ∧
      (w.addEvent event e_time).time = w.time ∧
      (w.beforeIterator e_time = false → (w.addEvent event e_time).passed = w.passed) := by
  unfold addEvent
  simp only
  split
  · next hb => exact ⟨rfl, rfl, rfl, rfl, rfl, fun h => by rw [h] at hb; cases hb⟩
  · exact ⟨rfl, rfl, rfl, rfl, rfl, fun _ => rfl⟩

/-- **`AddEvent`** for an event that may be added. -/
theorem Sound.addEvent (h : Sound hand w) {event e_time : Nat} (ha : w.Addable event e_time) :
    Sound hand (w.addEvent event e_time) := by
  obtain ⟨hlog, hphase, hflags, howned, _, hpassed⟩ := addEvent_fields w event e_time
  obtain ⟨hperm, hsorted⟩ := addEvent_queue h.sorted h.quiet event e_time
  have hmem : ∀ x, x ∈ (w.addEvent event e_time).queue ↔
      x = { execTime := e_time, event := event } ∨ x ∈ w.queue := fun x => by
    rw [hperm.mem_iff, List.mem_cons]
  have hpassed' : ∀ x ∈ (w.addEvent event e_time).passed, x.event = event ∨ x ∈ w.passed := by
    intro x hx
    unfold EventProcessor.addEvent at hx
    simp only at hx
    split at hx
    · rcases mem_insertEvent.1 hx with rfl | hx
      · exact Or.inl rfl
      · exact Or.inr hx
    · exact Or.inr hx
  have hevents : ∀ x ∈ (w.addEvent event e_time).events, x.event = event ∨ x ∈ w.events := by
    intro x hx
    unfold EventProcessor.addEvent at hx
    simp only at hx
    split at hx
    · exact Or.inr hx
    · rcases mem_insertEvent.1 hx with rfl | hx
      · exact Or.inl rfl
      · exact Or.inr hx
  refine ⟨hlog ▸ h.log, fun e he => ?_, hsorted, ?_, fun k hk x hx => ?_, fun x hx => ?_, fun hp x hx => ?_,
    fun hp x hx => ?_, fun e he => ?_, fun e he => ?_, fun hp => ?_, fun e he => ?_⟩
  · rw [howned, Function.update_apply] at he
    split at he
    · next heq => exact Or.inl ⟨_, (hmem _).2 (Or.inl rfl), heq.symm⟩
    · rcases h.held e he with ⟨x, hx, hxe⟩ | hhand
      · exact Or.inl ⟨x, (hmem x).2 (Or.inr hx), hxe⟩
      · exact Or.inr hhand
  · refine (hperm.map QueuedEvent.event).nodup_iff.2 (List.nodup_cons.2 ⟨fun hm => ?_, h.nodup⟩)
    obtain ⟨x, hx, hxe⟩ := List.mem_map.1 hm
    exact ha.fresh x hx hxe
  · rw [hlog] at hk
    rcases (hmem x).1 hx with rfl | hx
    · exact ha.order k hk
    · exact h.later k hk x hx
  · rw [hlog]
    rcases hevents x hx with he | hx
    · exact he ▸ ha.alive
    · exact h.alive x hx
  · rw [hlog]
    rw [hphase] at hp
    rcases hpassed' x hx with he | hx
    · exact he ▸ ha.alive
    · exact h.alivePassed hp x hx
  · rw [hphase] at hp
    rw [hpassed (ha.reached hp)] at hx
    rw [hlog]
    exact h.forced hp x hx
  · rw [hlog] at he
    rw [howned, Function.update_apply, if_neg (fun (heq : e = event) => ha.alive (heq ▸ he))]
    exact h.freed e he
  · rw [hflags]
    exact h.flags e (hlog ▸ he)
  · rw [hphase] at hp
    rw [hpassed ?_]
    · exact h.quiet hp
    · unfold beforeIterator
      split
      · next force hf _ => exact absurd hf (hp force)
      · next force _ _ hf _ => exact absurd hf (hp force)
      · rfl
  · rw [hlog]
    exact h.inHand e he

theorem Sound.addEvents (h : Sound hand w) {adds : List (Nat × Nat)} (ha : w.AddsHeedful adds) :
    Sound hand (w.addEvents adds) ∧ (w.addEvents adds).phase = w.phase ∧
      (∀ x ∈ (w.addEvents adds).queue, x ∈ w.queue ∨ ∃ a ∈ adds, a.1 = x.event) ∧
      ∀ x ∈ w.passed, x ∈ (w.addEvents adds).passed := by
  induction adds generalizing w with
  | nil => exact ⟨h, rfl, fun x hx => Or.inl hx, fun x hx => hx⟩
  | cons a adds ih =>
    obtain ⟨event, e_time⟩ := a
    obtain ⟨hsound, hphase, hqueue, hpassed⟩ := ih (h.addEvent ha.1) ha.2
    obtain ⟨_, hphase1, _, _, _, _⟩ := addEvent_fields w event e_time
    obtain ⟨hperm, _⟩ := addEvent_queue h.sorted h.quiet event e_time
    refine ⟨hsound, hphase.trans hphase1, fun x hx => ?_, fun x hx => hpassed x ?_⟩
    · rcases hqueue x hx with hx | ⟨b, hb, hbx⟩
      · rcases List.mem_cons.1 (hperm.mem_iff.1 hx) with rfl | hx
        · exact Or.inr ⟨_, List.mem_cons_self, rfl⟩
        · exact Or.inl hx
      · exact Or.inr ⟨b, List.mem_cons_of_mem _ hb, hbx⟩
    · unfold EventProcessor.addEvent
      simp only
      split
      · exact mem_insertEvent.2 (Or.inr hx)
      · exact hx

/-! ## What is recorded -/

theorem Sound.record (h : Sound hand w) (a : EventAction) (hlog : LawfulLog (w.log ++ [a]))
    (hdeleted : ∀ e, a ≠ .deleted e) (hflag : ∀ e, a = .flagged e → w.toAbort e = true)
    (hlater : ∀ k, a.execTime = some k → ∀ x ∈ w.queue, k ≤ x.execTime) : Sound hand (w.record a) := by
  have hmem : ∀ e, .deleted e ∈ w.log ++ [a] ↔ .deleted e ∈ w.log := by
    intro e
    rw [List.mem_append, List.mem_singleton]
    exact ⟨fun hm => hm.resolve_right fun he => hdeleted e he.symm, Or.inl⟩
  refine ⟨hlog, h.held, h.sorted, h.nodup, fun k hk x hx => ?_, fun x hx hm => h.alive x hx ((hmem _).1 hm),
    fun hp x hx hm => h.alivePassed hp x hx ((hmem _).1 hm),
    fun hp x hx => (h.forced hp x hx).imp_right (hmem _).2, fun e he => h.freed e ((hmem e).1 he),
    fun e he => ?_, h.quiet, fun e he hm => h.inHand e he ((hmem e).1 hm)⟩
  · obtain ⟨b, hb, hbk⟩ := List.mem_filterMap.1 hk
    rcases List.mem_append.1 hb with hb | hb
    · exact h.later k (List.mem_filterMap.2 ⟨b, hb, hbk⟩) x hx
    · rw [List.mem_singleton.1 hb] at hbk
      exact hlater k hbk x hx
  · rcases List.mem_append.1 he with he | he
    · exact h.flags e he
    · exact hflag e (List.mem_singleton.1 he).symm

theorem Sound.setAbort (h : Sound hand w) {event : Nat} (halive : .deleted event ∉ w.log) :
    Sound hand (w.setAbort event) := by
  have hup : Sound hand { w with toAbort := Function.update w.toAbort event true } :=
    { h with
      flags := fun e he => by
        show Function.update w.toAbort event true e = true
        rw [Function.update_apply]
        split
        · rfl
        · exact h.flags e he }
  refine hup.record (.flagged event) ?_ (fun e he => by cases he) (fun e he => ?_) (fun k hk => by cases hk)
  · exact h.log.append (.flagged event) halive (fun e k t he => by cases he) (fun e he => by cases he)
  · cases he
    exact Function.update_self ..

theorem Sound.recordAborted (h : Sound hand w) {event : Nat} (halive : .deleted event ∉ w.log)
    (hfirst : .aborted event ∉ w.log) : Sound hand (w.record (.aborted event)) :=
  h.record (.aborted event)
    (h.log.append (.aborted event) halive (fun e k t he => by cases he) (fun e he => by cases he; exact hfirst))
    (fun e he => by cases he) (fun e he => by cases he) (fun k hk => by cases hk)

/-- **`delete`** of the event in the hand, once it is in no queue that is looked at again. -/
theorem Sound.delete {event : Nat} (h : Sound (some event) w) (hevents : ∀ x ∈ w.events, x.event ≠ event)
    (hpassed : w.phase ≠ .killing true → ∀ x ∈ w.passed, x.event ≠ event) : Sound none (w.delete event) := by
  have hmem : ∀ e, .deleted e ∈ w.log ++ [.deleted event] ↔ .deleted e ∈ w.log ∨ e = event := by
    intro e
    rw [List.mem_append, List.mem_singleton]
    exact or_congr_right ⟨fun he => by cases he; rfl, fun he => by rw [he]⟩
  refine ⟨?_, fun e he => ?_, h.sorted, h.nodup, fun k hk x hx => ?_, fun x hx hm => ?_, fun hp x hx hm => ?_,
    fun hp x hx => ?_, fun e he => ?_, fun e he => ?_, h.quiet, fun e he => by cases he⟩
  · exact h.log.append (.deleted event) (h.inHand event rfl) (fun e k t he => by cases he)
      (fun e he => by cases he)
  · have he' : Function.update w.owned event false e = true := he
    rw [Function.update_apply] at he'
    split at he'
    · cases he'
    · next hne =>
      exact Or.inl ((h.held e he').resolve_right fun hh => hne (Option.some.inj hh).symm)
  · have hk' : k ∈ (w.log ++ [EventAction.deleted event]).filterMap EventAction.execTime := hk
    rw [List.filterMap_append, List.mem_append] at hk'
    exact h.later k (hk'.resolve_right (by simp [EventAction.execTime])) x hx
  · rcases (hmem _).1 hm with hm | heq
    · exact h.alive x hx hm
    · exact hevents x hx heq
  · rcases (hmem _).1 hm with hm | heq
    · exact h.alivePassed hp x hx hm
    · exact hpassed hp x hx heq
  · refine Or.inr ((hmem _).2 ?_)
    exact (h.forced hp x hx).elim (fun hh => Or.inr (Option.some.inj hh).symm) Or.inl
  · show Function.update w.owned event false e = false
    rw [Function.update_apply]
    split
    · rfl
    · next hne => exact h.freed e (((hmem e).1 he).resolve_right hne)
  · have he' : .flagged e ∈ w.log ++ [.deleted event] := he
    rcases List.mem_append.1 he' with he' | he'
    · exact h.flags e he'
    · cases List.mem_singleton.1 he'

/-- **An event that is not to be deleted** belongs to itself or is in the queue again. -/
theorem Sound.release {event : Nat} (h : Sound (some event) w) (hp : w.phase ≠ .killing true) :
    Sound none (w.release event) := by
  have hforced : w.phase = .killing true → ∀ x ∈ w.passed, none = some x.event ∨ .deleted x.event ∈ w.log :=
    fun h' => absurd h' hp
  unfold EventProcessor.release
  split
  · next hany =>
    obtain ⟨x, hx, hxe⟩ := List.any_eq_true.1 hany
    refine { h with
      held := fun e he => Or.inl ?_, forced := hforced, inHand := fun e he => by cases he }
    rcases h.held e he with hq | hh
    · exact hq
    · exact ⟨x, hx, (eq_of_beq hxe).trans (Option.some.inj hh)⟩
  · refine { h with
      held := fun e he => Or.inl ?_, forced := hforced, freed := fun e he => ?_,
      inHand := fun e he => by cases he }
    · have he' : Function.update w.owned event false e = true := he
      rw [Function.update_apply] at he'
      split at he'
      · cases he'
      · next hne => exact (h.held e he').resolve_right fun hh => hne (Option.some.inj hh).symm
    · show Function.update w.owned event false e = false
      rw [Function.update_apply]
      split
      · rfl
      · exact h.freed e he

/-! ## Turns -/

theorem Sound.take (h : Sound none w) (hp : ∀ force, w.phase ≠ .killing force) {x : QueuedEvent}
    {rest : List QueuedEvent} (hev : w.events = x :: rest) :
    Sound (some x.event) { w with events := rest } ∧ (∀ y ∈ rest, y.event ≠ x.event) ∧
      ∀ y ∈ rest, x.execTime ≤ y.execTime := by
  have hnil := h.quiet hp
  have hqueue : w.queue = x :: rest := by
    unfold queue
    rw [hnil, hev]
    rfl
  have hqueue' : queue { w with events := rest } = rest := by
    unfold queue
    rw [hnil]
    rfl
  have hs := h.sorted
  have hn := h.nodup
  rw [hqueue] at hs hn
  obtain ⟨hfirst, hsorted⟩ := List.pairwise_cons.1 hs
  obtain ⟨hnot, hnodup⟩ := List.nodup_cons.1 hn
  refine ⟨⟨h.log, fun e he => ?_, hqueue'.symm ▸ hsorted, hqueue'.symm ▸ hnodup, fun k hk y hy => ?_,
    fun y hy => h.alive y ?_, h.alivePassed, fun hk => absurd hk (hp true), h.freed, h.flags, h.quiet,
    fun e he => ?_⟩, fun y hy hye => hnot ?_, hfirst⟩
  · obtain ⟨y, hy, hye⟩ := (h.held e he).resolve_right (by simp)
    rw [hqueue] at hy
    rw [hqueue']
    rcases List.mem_cons.1 hy with rfl | hy
    · exact Or.inr (congrArg some hye)
    · exact Or.inl ⟨y, hy, hye⟩
  · rw [hqueue'] at hy
    exact h.later k hk y (hqueue.symm ▸ List.mem_cons_of_mem _ hy)
  · rw [hev]
    exact List.mem_cons_of_mem _ hy
  · cases he
    exact h.alive x (hev ▸ List.mem_cons_self)
  · exact hye ▸ List.mem_map_of_mem hy

/-- **A turn of `Update`**. -/
theorem Sound.updateTurn (h : Sound none w) (hphase : w.phase = .updating) {adds : List (Nat × Nat)}
    {answer : Bool} (hg : w.Heedful (.turn adds answer)) : Sound none (w.updateTurn adds answer) := by
  have hp : ∀ force, w.phase ≠ .killing force := fun force hk => by rw [hphase] at hk; cases hk
  have hpause : Sound none { w with phase := .idle } :=
    { h with
      alivePassed := fun _ => h.alivePassed (hp true), forced := fun hk => (by cases hk),
      quiet := fun _ => h.quiet hp }
  unfold EventProcessor.updateTurn
  split
  · exact hpause
  · next x rest hev =>
    have hg := hg x rest hev
    rw [hphase] at hg
    split
    · next hdue =>
      have hg := hg hdue
      obtain ⟨htake, hnot, hfirst⟩ := h.take hp hev
      have hnil : queue { w with events := rest } = rest := by
        unfold queue
        rw [h.quiet hp]
        rfl
      have halive := h.alive x (hev ▸ List.mem_cons_self)
      simp only
      split
      · next hflag =>
        rw [if_pos hflag] at hg
        -- it was not flagged, all before it was earlier, all behind it is later
        have hrec : Sound (some x.event)
            (({ w with events := rest } : EventProcessor).record (.executed x.event x.execTime w.time)) := by
          refine htake.record _ (h.log.append _ halive (fun e k t he => ?_) (fun e he => by cases he))
            (fun e he => by cases he) (fun e he => by cases he) (fun k hk y hy => ?_)
          · cases he
            refine ⟨hdue, fun k hk => h.later k hk x ?_, fun hf => ?_⟩
            · exact List.mem_append_right _ (hev ▸ List.mem_cons_self)
            · rw [h.flags _ hf] at hflag
              cases hflag
          · cases hk
            rw [hnil] at hy
            exact hfirst y hy
        obtain ⟨hadds, hphase2, hqueue, _⟩ := hrec.addEvents hg.1
        split
        · next hyes =>
          refine hadds.delete (fun y hy hye => ?_) (fun _ y hy hye => ?_)
          · rcases hqueue y (List.mem_append_right _ hy) with hy | ⟨a, ha, hay⟩
            · exact hnot y (hnil ▸ hy) hye
            · exact hg.2 hyes a ha (hay.trans hye)
          · rw [hadds.quiet (by rw [hphase2]; exact hp)] at hy
            cases hy
        · refine hadds.release ?_
          rw [hphase2]
          exact hp true
      · next hflag =>
        rw [if_neg hflag] at hg
        have hrec : Sound (some x.event)
            (({ w with events := rest } : EventProcessor).record (.aborted x.event)) :=
          htake.recordAborted halive hg.1
        obtain ⟨hadds, hphase2, hqueue, _⟩ := hrec.addEvents hg.2.1
        refine hadds.delete (fun y hy hye => ?_) (fun _ y hy hye => ?_)
        · rcases hqueue y (List.mem_append_right _ hy) with hy | ⟨a, ha, hay⟩
          · exact hnot y (hnil ▸ hy) hye
          · exact hg.2.2 a ha (hay.trans hye)
        · rw [hadds.quiet (by rw [hphase2]; exact hp)] at hy
          cases hy
    · exact hpause

theorem Sound.pass (h : Sound none w) {force : Bool} (hphase : w.phase = .killing force) {x : QueuedEvent}
    {rest : List QueuedEvent} (hev : w.events = x :: rest) (hfirst : .aborted x.event ∉ w.log) :
    Sound (some x.event) (w.pass x rest) := by
  have hqueue : queue { w with passed := w.passed ++ [x], events := rest } = w.queue := by
    unfold queue
    rw [hev]
    simp
  have halive := h.alive x (hev ▸ List.mem_cons_self)
  have hmoved : Sound (some x.event) { w with passed := w.passed ++ [x], events := rest } := by
    refine ⟨h.log, fun e he => Or.inl ?_, hqueue.symm ▸ h.sorted, hqueue.symm ▸ h.nodup,
      fun k hk y hy => h.later k hk y (hqueue ▸ hy), fun y hy => h.alive y ?_, fun hp y hy => ?_,
      fun hp y hy => ?_, h.freed, h.flags, fun hp => absurd hphase (hp force), fun e he => ?_⟩
    · rw [hqueue]
      exact (h.held e he).resolve_right (by simp)
    · rw [hev]
      exact List.mem_cons_of_mem _ hy
    · rcases List.mem_append.1 hy with hy | hy
      · exact h.alivePassed hp y hy
      · rw [List.mem_singleton.1 hy]
        exact halive
    · rcases List.mem_append.1 hy with hy | hy
      · exact Or.inr ((h.forced hp y hy).resolve_left (by simp))
      · rw [List.mem_singleton.1 hy]
        exact Or.inl rfl
    · cases he
      exact halive
  have hnew : ∀ e, EventAction.deleted e ∉ w.log → EventAction.deleted e ∉ w.log ++ [.flagged x.event] := by
    intro e he hm
    rcases List.mem_append.1 hm with hm | hm
    · exact he hm
    · cases List.mem_singleton.1 hm
  refine (hmoved.setAbort halive).recordAborted (hnew _ halive) (fun hm => ?_)
  rcases List.mem_append.1 hm with hm | hm
  · exact hfirst hm
  · cases List.mem_singleton.1 hm

theorem Sound.unlist {x : QueuedEvent} (h : Sound (some x.event) w) (hp : w.phase ≠ .killing true)
    (hx : x ∈ w.passed) : Sound (some x.event) { w with passed := w.passed.erase x } := by
  have hsub : (queue { w with passed := w.passed.erase x }).Sublist w.queue :=
    List.Sublist.append_right List.erase_sublist w.events
  refine ⟨h.log, fun e he => ?_, h.sorted.sublist hsub, h.nodup.sublist (hsub.map _),
    fun k hk y hy => h.later k hk y (hsub.subset hy), h.alive,
    fun _ y hy => h.alivePassed hp y (List.mem_of_mem_erase hy), fun hk => absurd hk hp, h.freed, h.flags,
    fun hq => ?_, h.inHand⟩
  · rcases h.held e he with ⟨y, hy, hye⟩ | hh
    · by_cases hyx : y = x
      · exact Or.inr (by rw [← hye, hyx])
      · refine Or.inl ⟨y, ?_, hye⟩
        rcases List.mem_append.1 hy with hy | hy
        · exact List.mem_append_left _ ((List.mem_erase_of_ne hyx).2 hy)
        · exact List.mem_append_right _ hy
    · exact Or.inr hh
  · rw [h.quiet hq] at hx
    cases hx

/-- **A turn of `KillAllEvents`**; a forced one leaves nothing. -/
theorem Sound.killTurn (h : Sound none w) {force : Bool} (hphase : w.phase = .killing force)
    {adds : List (Nat × Nat)} {answer : Bool} (hg : w.Heedful (.turn adds answer)) :
    Sound none (w.killTurn force adds answer) ∧
      (force = true → w.events = [] →
        (w.killTurn force adds answer).queue = [] ∧ ∀ e, (w.killTurn force adds answer).owned e = false) := by
  unfold EventProcessor.killTurn
  split
  · next hev =>
    have hqueue : w.queue = w.passed := by
      unfold queue
      rw [hev, List.append_nil]
    cases force with
    | true =>
      have hnone : ∀ e, w.owned e = false := by
        intro e
        by_contra hne
        obtain ⟨x, hx, hxe⟩ := (h.held e (by simpa using hne)).resolve_right (by simp)
        have := h.freed _ ((h.forced hphase x (hqueue ▸ hx)).resolve_left (by simp))
        rw [hxe] at this
        exact hne this
      refine ⟨⟨h.log, fun e he => ?_, List.Pairwise.nil, List.nodup_nil, fun k hk x hx => ?_, fun x hx => ?_,
        fun _ x hx => ?_, fun hp => ?_, h.freed, h.flags, fun _ => rfl, fun e he => by cases he⟩,
        fun _ _ => ⟨rfl, hnone⟩⟩
      · exact absurd ((hnone e).symm.trans he) (by simp)
      · cases hx
      · cases hx
      · cases hx
      · cases hp
    | false =>
      have hp : w.phase ≠ .killing true := fun hk => by rw [hphase] at hk; cases hk
      refine ⟨⟨h.log, fun e he => ?_, hqueue ▸ h.sorted, hqueue ▸ h.nodup,
        fun k hk x hx => h.later k hk x (hqueue ▸ hx), h.alivePassed hp, fun _ x hx => ?_, fun hk => ?_, h.freed,
        h.flags, fun _ => rfl, fun e he => by cases he⟩, fun hf => by cases hf⟩
      · have := h.held e he
        rw [hqueue] at this
        exact this
      · cases hx
      · cases hk
  · next x rest hev =>
    have hg := hg x rest hev
    rw [hphase] at hg
    obtain ⟨hfirst, hadds⟩ := hg
    obtain ⟨hsound, hphase2, _, hpassed⟩ := (h.pass hphase hev hfirst).addEvents hadds
    have hphase3 : ((w.pass x rest).addEvents adds).phase = .killing force := hphase2.trans hphase
    have hx : x ∈ ((w.pass x rest).addEvents adds).passed :=
      hpassed x (List.mem_append_right _ List.mem_cons_self)
    have hnodup := hsound.nodup
    unfold queue at hnodup
    rw [List.map_append] at hnodup
    obtain ⟨hnodup1, _, hdisj⟩ := List.nodup_append.1 hnodup
    have hbehind : ∀ y ∈ ((w.pass x rest).addEvents adds).events, y.event ≠ x.event := fun y hy hye =>
      hdisj _ (List.mem_map_of_mem hx) _ (List.mem_map_of_mem hy) hye.symm
    refine ⟨?_, fun _ hnil => by rw [hev] at hnil; cases hnil⟩
    cases force with
    | true => exact hsound.delete hbehind fun hp => absurd hphase3 hp
    | false =>
      have hp : ((w.pass x rest).addEvents adds).phase ≠ .killing true := fun hk => by
        rw [hphase3] at hk
        cases hk
      cases answer with
      | true =>
        have hout := hsound.unlist hp hx
        exact hout.delete hbehind fun _ y hy hye => by
          have hyx := List.inj_on_of_nodup_map hnodup1 (List.mem_of_mem_erase hy) hx hye
          rw [hyx] at hy
          exact ((List.Nodup.of_map _ hnodup1).mem_erase_iff.1 hy).1 rfl
      | false =>
        refine { hsound with
          held := fun e he => Or.inl ?_, forced := fun hk => absurd hk hp, inHand := fun e he => by cases he }
        rcases hsound.held e he with hq | hh
        · exact hq
        · exact ⟨x, List.mem_append_left _ hx, Option.some.inj hh⟩

/-! ## Runs -/

theorem Sound.step (h : Sound none w) {r : EventRequest} (hg : w.Heedful r) :
    Sound none (w.step r) ∧
      (w.EndsForcedKill r → (w.step r).queue = [] ∧ ∀ e, (w.step r).owned e = false) := by
  cases r with
  | addEvent event e_time =>
    refine ⟨?_, fun he => he.elim⟩
    unfold EventProcessor.step
    simp only
    split
    · next hidle => exact h.addEvent (hg hidle)
    · exact h
  | setAbort event => exact ⟨h.setAbort hg, fun he => he.elim⟩
  | update p_time =>
    refine ⟨?_, fun he => he.elim⟩
    unfold EventProcessor.step
    simp only
    split
    · next hidle =>
      have hnil := h.quiet fun force hk => by rw [hidle] at hk; cases hk
      exact { h with
        alivePassed := fun _ => h.alivePassed (by rw [hidle]; exact fun hk => by cases hk)
        forced := fun hk => (by cases hk)
        quiet := fun _ => hnil }
    · exact h
  | killAllEvents force =>
    refine ⟨?_, fun he => he.elim⟩
    unfold EventProcessor.step
    simp only
    split
    · next hidle =>
      have hnil := h.quiet fun force hk => by rw [hidle] at hk; cases hk
      exact { h with
        alivePassed := fun _ x hx => by rw [show w.passed = [] from hnil] at hx; cases hx
        forced := fun _ x hx => by rw [show w.passed = [] from hnil] at hx; cases hx
        quiet := fun _ => hnil }
    · exact h
  | turn adds answer =>
    cases hp : w.phase with
    | idle =>
      have hstay : w.step (.turn adds answer) = w := by simp only [EventProcessor.step, hp]
      rw [hstay]
      exact ⟨h, fun he => by rw [he.1] at hp; cases hp⟩
    | updating =>
      have hturn : w.step (.turn adds answer) = w.updateTurn adds answer := by
        simp only [EventProcessor.step, hp]
      rw [hturn]
      exact ⟨h.updateTurn hp hg, fun he => by rw [he.1] at hp; cases hp⟩
    | killing force =>
      have hturn : w.step (.turn adds answer) = w.killTurn force adds answer := by
        simp only [EventProcessor.step, hp]
      rw [hturn]
      obtain ⟨hsound, hend⟩ := h.killTurn hp hg
      refine ⟨hsound, fun he => hend ?_ he.2⟩
      rw [he.1] at hp
      cases hp
      rfl

theorem sound_empty : Sound none {} where
  log := ⟨fun _ _ _ h => (nomatch h), List.Pairwise.nil, List.Pairwise.nil, fun _ => Nat.zero_le _,
    fun _ => Nat.zero_le _, List.Pairwise.nil⟩
  held := fun _ h => nomatch h
  sorted := List.Pairwise.nil
  nodup := List.nodup_nil
  later := fun _ h => nomatch h
  alive := fun _ h => nomatch h
  alivePassed := fun _ _ h => nomatch h
  forced := fun h => nomatch h
  freed := fun _ h => nomatch h
  flags := fun _ h => nomatch h
  quiet := fun _ => rfl
  inHand := fun _ h => nomatch h

end

/-- **Events run when they are due, in order, once they are flagged no more, and are aborted and deleted
once at the most; none is lost, and a forced `KillAllEvents` leaves none.** -/
theorem events_lawful (rs : List EventRequest) (h : Along step Heedful {} rs) :
    Along step (fun w r => (w.step r).Lawful ∧
      (w.EndsForcedKill r → (w.step r).queue = [] ∧ ∀ e, (w.step r).owned e = false)) {} rs :=
  Transition.along_of_invariant (fun _ _ hs hg => (hs.step hg).1)
    (fun _ _ hs hg => ⟨(hs.step hg).1.lawful, (hs.step hg).2⟩) sound_empty h

/-- An event that adds itself again, and the end of all. -/
theorem events_lawful_sample :
    Along step (fun w r => (w.step r).Lawful ∧
      (w.EndsForcedKill r → (w.step r).queue = [] ∧ ∀ e, (w.step r).owned e = false)) {}
      [.addEvent 1 10, .addEvent 2 5, .update 7, .turn [(2, 20)] false, .turn [] true, .killAllEvents true,
        .turn [] true, .turn [] true, .turn [] true] := by
  have h1 : ({} : EventProcessor).Addable 1 10 := ⟨by decide, by decide, by decide, by decide⟩
  have h2 : (addEvent {} 1 10).Addable 2 5 := ⟨by decide, by decide, by decide, by decide⟩
  have h3 : (record { addEvent {} 1 10 with
      time := 7, phase := .updating, owned := Function.update (addEvent {} 1 10).owned 2 true }
      (.executed 2 5 7)).Addable 2 20 := ⟨by decide, by decide, by decide, by decide⟩
  refine events_lawful _ ?_
  simpa [Along, Heedful, HeedfulTurn, AddsHeedful, step, addEvent, updateTurn, killTurn, pass, record, delete,
    release, setAbort, addEvents, insertEvent, beforeIterator, queue] using ⟨h1, h2, h3⟩

/-- An event that refuses its deletion while all are aborted is aborted again. -/
theorem aborted_twice :
    ¬ (run step {} [.addEvent 1 10, .killAllEvents false, .turn [] false, .turn [] true, .killAllEvents true,
      .turn [] true]).Lawful := by
  intro h
  have := h.log.abortedOnce 1
  revert this
  decide

end EventProcessor

end BlizzLike
