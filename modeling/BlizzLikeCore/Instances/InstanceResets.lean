import BlizzLikeCore.Instances.GlobalResets
import Mathlib.Data.List.Nodup

/-!
# The resets of normal instances

A normal instance has an event in the queue as long as nobody is inside.  `ScheduleReset` cancels the event by
the number of the instance, of which an event keeps 16 bits, and looks at nothing else: not at the map and not at
the type, and warnings and resets of maps have the number 0.

    updateTurns_expired : an update resets the instances that are due, and each once
    instances_reset     : as long as numbers fit into 16 bits and those in the queue differ, updates reset what is
                          scheduled, and a cancellation takes out the event of its instance
-/

namespace BlizzLike

/-- An instance of a dungeon, as `SetResetSchedule` knows it. -/
structure NormalInstance (d : InstanceData) where
  mapid : Nat
  instanceId : Nat
  mapid_lt : mapid < 65536
  instanceId_lt : instanceId < 4294967296
  instanceable : d.instanceable mapid = true

/-- The event of an instance: `mapid` and `instanceId` are `uint16`. -/
def NormalInstance.event {d : InstanceData} (i : NormalInstance d) : InstResetEvent :=
  ⟨0, i.mapid % 65536, i.instanceId % 65536⟩

namespace InstanceSaveManager

/-! ## Cancellations -/

/-- `operator==` of events. -/
def sameEvent (event : InstResetEvent) (x : Int × InstResetEvent) : Bool := event.instanceId == x.2.instanceId

/-- `ScheduleReset` of an event that is removed: the first equal one of that time, or else of the queue. -/
def cancelReset (w : InstanceSaveManager) (time : Int) (event : InstResetEvent) : InstanceSaveManager :=
  { w with
    resetTimeQueue :=
      if w.resetTimeQueue.any fun x => x.1 == time && sameEvent event x then
        w.resetTimeQueue.eraseP fun x => x.1 == time && sameEvent event x
      else w.resetTimeQueue.eraseP (sameEvent event) }

/-! ## Resets in an update -/

section

variable (d : InstanceData) (w : InstanceSaveManager)

/-- The event for which a turn of the loop calls `_ResetInstance`. -/
def turnEvent (now : Nat) : Option (Int × InstResetEvent) :=
  match w.resetTimeQueue with
  | [] => none
  | (t, event) :: _ => if t < now ∧ event.type = 0 then some (t, event) else none

/-- `_ResetInstance`: the map and the number of the instance that is reset. -/
def resetInstance (event : InstResetEvent) : Option (Nat × Nat) :=
  if d.instanceable event.mapid = false then none else some (event.mapid, event.instanceId)

/-- The events of instances that the first turns of an update take. -/
def expired (c : Clock) : Nat → List (Int × InstResetEvent)
  | 0 => []
  | n + 1 => expired c n ++ ((w.updateTurns d c n).turnEvent c.now).toList

/-- The instances that an update resets. -/
def instanceResets (c : Clock) : List (Nat × Nat) :=
  (w.expired d c (8 * w.resetTimeQueue.length)).filterMap fun x => resetInstance d x.2

end

/-- The events of instances. -/
def individuals (q : List (Int × InstResetEvent)) : List (Int × InstResetEvent) := q.filter fun x => x.2.type == 0

end InstanceSaveManager

/-! ## Runs -/

inductive ResetStep (d : InstanceData) where
  | schedule (i : NormalInstance d) (time : Int)
  | cancel (i : NormalInstance d) (time : Int)
  | update (c : Clock)

/-- The manager, and the instances that are to be reset: those whose last scheduling has neither been cancelled nor
carried out, each with its map and time. -/
structure ResetWatch where
  manager : InstanceSaveManager
  pending : Nat → Option (Nat × Int) := fun _ => none

namespace ResetWatch

open InstanceSaveManager

variable {d : InstanceData} (w : ResetWatch)

def queue : List (Int × InstResetEvent) := w.manager.resetTimeQueue

/-- What is pending after an update. -/
def stillPending (c : Clock) (id : Nat) : Option (Nat × Int) := (w.pending id).filter fun x => !decide (x.2 < c.now)

variable (d) in
def step : ResetStep d → ResetWatch
  | .schedule i time =>
    { manager := w.manager.scheduleReset time i.event
      pending := Function.update w.pending i.instanceId (some (i.mapid, time)) }
  | .cancel i time =>
    { manager := w.manager.cancelReset time i.event
      pending := Function.update w.pending i.instanceId none }
  | .update c => { manager := w.manager.update d c, pending := w.stillPending c }

/-- **The law**: a cancellation takes out the event of its instance, if that is pending, and no other; and an update
resets the instances that are pending and due, each once. -/
def Right : ResetStep d → Prop
  | .schedule _ _ => True
  | .cancel i time =>
    match w.pending i.instanceId with
    | some (mapid, t) => w.queue.Perm ((t, ⟨0, mapid, i.instanceId⟩) :: (w.step d (.cancel i time)).queue)
    | none => (w.step d (.cancel i time)).queue = w.queue
  | .update c =>
    (w.manager.instanceResets d c).Nodup ∧ ∀ mapid id,
      (mapid, id) ∈ w.manager.instanceResets d c ↔ ∃ t, w.pending id = some (mapid, t) ∧ t < c.now

/-- **The condition**: an instance that is scheduled has a number of 16 bits that no event in the queue has; and one
that is cancelled is pending, or no event has what is kept of its number. -/
def ToldApart : ResetStep d → Prop
  | .schedule i _ => i.instanceId < 65536 ∧ ∀ x ∈ w.queue, x.2.instanceId ≠ i.instanceId
  | .cancel i _ => w.pending i.instanceId ≠ none ∨ ∀ x ∈ w.queue, x.2.instanceId ≠ i.instanceId % 65536
  | .update _ => True

end ResetWatch

/-! ## Turns -/

namespace InstanceSaveManager

variable {d : InstanceData} {w w' : InstanceSaveManager} {now clock : Nat}

theorem individuals_insert (k : Int) (e : InstResetEvent) (q : List (Int × InstResetEvent)) :
    (individuals (TimedQueue.insert k e q)).Perm (if e.type = 0 then (k, e) :: individuals q else individuals q) := by
  refine ((TimedQueue.insert_perm k e q).filter _).trans ?_
  by_cases h : e.type = 0
  · rw [if_pos h, List.filter_cons_of_pos (by simpa using h)]
    exact List.Perm.refl _
  · rw [if_neg h, List.filter_cons_of_neg (by simpa using h)]
    exact List.Perm.refl _

/-- **A turn** takes the event of an instance that is due, or leaves those events. -/
theorem Turned.individuals (ht : Turned d now clock w w') :
    ((w.turnEvent now).toList ++ individuals w'.resetTimeQueue).Perm (individuals w.resetTimeQueue) ∧
      ∀ x ∈ w.turnEvent now, x.1 < now := by
  have hnone : ∀ {t : Int} {event : InstResetEvent} {q : List (Int × InstResetEvent)},
      w.resetTimeQueue = (t, event) :: q → event.type ≠ 0 → w.turnEvent now = none ∧
        InstanceSaveManager.individuals w.resetTimeQueue = InstanceSaveManager.individuals q := by
    intro t event q hq h0
    unfold turnEvent
    rw [hq]
    exact ⟨if_neg fun h => h0 h.2, List.filter_cons_of_neg (by simpa using h0)⟩
  cases ht with
  | idle h =>
    have hidle : w.turnEvent now = none := by
      unfold turnEvent
      split
      · rfl
      · next t event q hq => exact if_neg fun hdue => h (t, event) (hq ▸ List.mem_cons_self) hdue.1
    rw [hidle]
    exact ⟨List.Perm.refl _, nofun⟩
  | @expired t event q hq hdue h0 =>
    have hevent : w.turnEvent now = some (t, event) := by
      unfold turnEvent
      rw [hq]
      exact if_pos ⟨hdue, h0⟩
    rw [hevent, hq]
    refine ⟨?_, fun x hx => Option.some.inj hx ▸ hdue⟩
    unfold InstanceSaveManager.individuals
    rw [List.filter_cons_of_pos (by simpa using h0)]
    exact List.Perm.refl _
  | @warned t event q hq _ h0 _ =>
    rw [(hnone hq h0).1, (hnone hq h0).2]
    refine ⟨(individuals_insert _ _ q).trans ?_, nofun⟩
    rw [if_neg (Nat.succ_ne_zero _)]
  | @reset t event q temp hq _ h4 _ =>
    have h0 : event.type ≠ 0 := by omega
    rw [(hnone hq h0).1, (hnone hq h0).2]
    refine ⟨(individuals_insert _ _ q).trans ?_, nofun⟩
    rw [if_neg Nat.one_ne_zero]

/-- A turn makes no warning or reset of a map from nothing, and those have the number 0. -/
theorem Turned.globals (ht : Turned d now clock w w')
    (hzero : ∀ x ∈ w.resetTimeQueue, x.2.type ≠ 0 → x.2.instanceId = 0) {x : Int × InstResetEvent}
    (hx : x ∈ w'.resetTimeQueue) (hx0 : x.2.type ≠ 0) :
    x.2.instanceId = 0 ∧ ∃ y ∈ w.resetTimeQueue, y.2.type ≠ 0 := by
  cases ht with
  | idle _ => exact ⟨hzero x hx hx0, x, hx, hx0⟩
  | expired hq _ _ =>
    have hx : x ∈ w.resetTimeQueue := hq ▸ List.mem_cons_of_mem _ hx
    exact ⟨hzero x hx hx0, x, hx, hx0⟩
  | @warned t event q hq _ h0 _ =>
    have hevent : (t, event) ∈ w.resetTimeQueue := hq ▸ List.mem_cons_self
    refine ⟨?_, (t, event), hevent, h0⟩
    rcases TimedQueue.mem_insert.1 hx with rfl | hx
    · exact hzero (t, event) hevent h0
    · exact hzero x (hq ▸ List.mem_cons_of_mem _ hx) hx0
  | @reset t event q temp hq _ h4 _ =>
    have hevent : (t, event) ∈ w.resetTimeQueue := hq ▸ List.mem_cons_self
    refine ⟨?_, (t, event), hevent, by show event.type ≠ 0; omega⟩
    rcases TimedQueue.mem_insert.1 hx with rfl | hx
    · rfl
    · exact hzero x (hq ▸ List.mem_cons_of_mem _ hx) hx0

/-- **The turns of an update** take events of instances that are due, and leave the others. -/
theorem updateTurns_expired (hd : d.Regular) (h : Good d w)
    (hzero : ∀ x ∈ w.resetTimeQueue, x.2.type ≠ 0 → x.2.instanceId = 0) (c : Clock) (n : Nat) :
    (w.expired d c n ++ individuals (w.updateTurns d c n).resetTimeQueue).Perm (individuals w.resetTimeQueue) ∧
      (∀ x ∈ w.expired d c n, x.1 < c.now) ∧
      ∀ x ∈ (w.updateTurns d c n).resetTimeQueue, x.2.type ≠ 0 →
        x.2.instanceId = 0 ∧ ∃ y ∈ w.resetTimeQueue, y.2.type ≠ 0 := by
  induction n with
  | zero => exact ⟨List.Perm.refl _, nofun, fun x hx hx0 => ⟨hzero x hx hx0, x, hx, hx0⟩⟩
  | succ n ih =>
    obtain ⟨hperm, hdue, hglobals⟩ := ih
    have ht := turn_cases hd (updateTurns_spec hd h c n).1 (c.later_ge n)
    obtain ⟨hturn, hnow⟩ := ht.individuals
    refine ⟨?_, fun x hx => ?_, fun x hx hx0 => ?_⟩
    · unfold expired
      rw [List.append_assoc]
      exact (hturn.append_left _).trans hperm
    · rcases List.mem_append.1 hx with hx | hx
      · exact hdue x hx
      · exact hnow x (Option.mem_toList.1 hx)
    · obtain ⟨hx1, y, hy, hy0⟩ := ht.globals (fun x hx hx0 => (hglobals x hx hx0).1) hx hx0
      exact ⟨hx1, (hglobals y hy hy0).2⟩

/-! ## Cancellations -/

/-- An event that differs from all others by its number is the one that is cancelled. -/
theorem cancelReset_own {x : Int × InstResetEvent} (hx : x ∈ w.resetTimeQueue) {event : InstResetEvent}
    (hid : event.instanceId = x.2.instanceId) (honly : ∀ y ∈ w.resetTimeQueue, sameEvent event y = true → y = x)
    (time : Int) : w.resetTimeQueue.Perm (x :: (w.cancelReset time event).resetTimeQueue) := by
  have herase : ∀ p : Int × InstResetEvent → Bool, (∀ y, p y = true → sameEvent event y = true) →
      (w.resetTimeQueue.any p = true) → w.resetTimeQueue.Perm (x :: w.resetTimeQueue.eraseP p) := by
    intro p hp hany
    obtain ⟨y, hy, hpy⟩ := List.any_eq_true.1 hany
    obtain ⟨a, l₁, l₂, -, ha, hq, hq'⟩ := List.exists_of_eraseP hy hpy
    have hax : a = x := honly a (hq ▸ List.mem_append_right _ List.mem_cons_self) (hp a ha)
    rw [hq', hq, hax]
    exact List.perm_middle
  unfold cancelReset
  dsimp only
  split
  · next hany => exact herase _ (fun y hy => (Bool.and_eq_true_iff.1 hy).2) hany
  · exact herase _ (fun _ hy => hy) (List.any_eq_true.2 ⟨x, hx, beq_iff_eq.2 hid⟩)

theorem cancelReset_none {event : InstResetEvent}
    (h : ∀ x ∈ w.resetTimeQueue, x.2.instanceId ≠ event.instanceId) (time : Int) :
    w.cancelReset time event = w := by
  have hno : ∀ y ∈ w.resetTimeQueue, ¬ sameEvent event y = true :=
    fun y hy he => h y hy (beq_iff_eq.1 he).symm
  have hqueue : (w.cancelReset time event).resetTimeQueue = w.resetTimeQueue := by
    unfold cancelReset
    dsimp only
    split
    · exact List.eraseP_of_forall_not fun y hy he => hno y hy (Bool.and_eq_true_iff.1 he).2
    · exact List.eraseP_of_forall_not hno
  unfold cancelReset at hqueue ⊢
  dsimp only at hqueue
  rw [hqueue]

theorem cancelReset_sublist (time : Int) (event : InstResetEvent) :
    (w.cancelReset time event).resetTimeQueue.Sublist w.resetTimeQueue := by
  unfold cancelReset
  dsimp only
  split <;> exact List.eraseP_sublist

/-! ## The invariant of maps -/

theorem Good.instances (h : Good d w) {q : List (Int × InstResetEvent)} (hs : TimedQueue.Sorted q)
    (hq : ∀ x, x.2.type ≠ 0 → q.count x = w.resetTimeQueue.count x) : Good d { w with resetTimeQueue := q } := by
  have hmem : ∀ x, x.2.type ≠ 0 → (x ∈ q ↔ x ∈ w.resetTimeQueue) := by
    intro x hx
    rw [← List.count_pos_iff, ← List.count_pos_iff, hq x hx]
  refine ⟨hs, fun x hx hx0 => h.events x ((hmem x hx0).1 hx) hx0, fun i hi => ?_, h.aligned⟩
  have hone := h.one i hi
  unfold pending at hone ⊢
  rw [← hone, List.countP_eq_length_filter, List.countP_eq_length_filter]
  refine List.Perm.length_eq (List.perm_iff_count.2 fun x => ?_)
  by_cases hx : isGlobalOf i x = true
  · rw [List.count_filter hx, List.count_filter hx, hq x (isGlobalOf_iff.1 hx).1]
  · rw [List.count_eq_zero_of_not_mem fun hm => hx (List.mem_filter.1 hm).2,
      List.count_eq_zero_of_not_mem fun hm => hx (List.mem_filter.1 hm).2]

end InstanceSaveManager

namespace ResetWatch

open InstanceSaveManager

variable {d : InstanceData} {w : ResetWatch}

/-- **The invariant**: the events of instances are those that are pending, each once, with their whole numbers, which
no warning or reset of a map has. -/
structure Sound (d : InstanceData) (w : ResetWatch) : Prop where
  good : Good d w.manager
  zero : ∀ x ∈ w.queue, x.2.type ≠ 0 → x.2.instanceId = 0
  nodup : (individuals w.queue).Nodup
  held : ∀ t mapid id, (t, ⟨0, mapid, id⟩) ∈ w.queue ↔ w.pending id = some (mapid, t)
  short : ∀ id mapid t, w.pending id = some (mapid, t) → id < 65536 ∧ d.instanceable mapid = true
  apart : w.pending 0 ≠ none → ∀ x ∈ w.queue, x.2.type = 0

theorem Sound.only (h : Sound d w) {id mapid : Nat} {t : Int} (hp : w.pending id = some (mapid, t))
    {x : Int × InstResetEvent} (hx : x ∈ w.queue) (hid : x.2.instanceId = id) : x = (t, ⟨0, mapid, id⟩) := by
  obtain ⟨time, type, m, n⟩ := x
  have hid : n = id := hid
  subst hid
  have h0 : type = 0 := by
    by_contra hne
    have hn : n = 0 := h.zero _ hx hne
    subst hn
    exact hne (h.apart (by rw [hp]; nofun) _ hx)
  subst h0
  have hheld := (h.held time m n).1 hx
  rw [hp] at hheld
  cases hheld
  rfl

theorem Sound.schedule (h : Sound d w) {i : NormalInstance d} {time : Int}
    (hg : w.ToldApart (.schedule i time)) : Sound d (w.step d (.schedule i time)) := by
  obtain ⟨hlt, hnew⟩ := hg
  have hevent : i.event = ⟨0, i.mapid, i.instanceId⟩ := by
    unfold NormalInstance.event
    rw [Nat.mod_eq_of_lt i.mapid_lt, Nat.mod_eq_of_lt hlt]
  have hnone : ∀ t m, (t, (⟨0, m, i.instanceId⟩ : InstResetEvent)) ∉ w.queue := fun t m hx => hnew _ hx rfl
  have hmem : ∀ x, x ∈ (w.step d (.schedule i time)).queue ↔ x = (time, ⟨0, i.mapid, i.instanceId⟩) ∨ x ∈ w.queue := by
    intro x
    rw [← hevent]
    exact TimedQueue.mem_insert
  refine ⟨?_, fun x hx hx0 => ?_, ?_, fun t m id => ?_, fun id m t hp => ?_, fun hp x hx => ?_⟩
  · refine h.good.instances (TimedQueue.insert_sorted _ _ h.good.sorted) fun x hx0 => ?_
    rw [(TimedQueue.insert_perm _ _ _).count_eq, List.count_cons_of_ne]
    intro he
    exact hx0 (by rw [← he]; rfl)
  · rcases (hmem x).1 hx with rfl | hx
    · exact absurd rfl hx0
    · exact h.zero x hx hx0
  · have hperm := individuals_insert time i.event w.manager.resetTimeQueue
    rw [if_pos (by rfl), hevent] at hperm
    change (individuals (TimedQueue.insert time i.event _)).Nodup
    rw [hevent]
    refine hperm.nodup_iff.2 (List.nodup_cons.2 ⟨fun hx => ?_, h.nodup⟩)
    exact hnone _ _ (List.mem_of_mem_filter hx)
  · rw [hmem]
    change _ ↔ Function.update w.pending i.instanceId (some (i.mapid, time)) id = some (m, t)
    by_cases hid : id = i.instanceId
    · subst hid
      rw [Function.update_self]
      constructor
      · rintro (heq | hx)
        · cases heq
          rfl
        · exact absurd hx (hnone t m)
      · intro heq
        cases heq
        exact Or.inl rfl
    · rw [Function.update_of_ne hid, ← h.held]
      refine ⟨fun hx => hx.resolve_left fun heq => hid ?_, Or.inr⟩
      cases heq
      rfl
  · have hp : Function.update w.pending i.instanceId (some (i.mapid, time)) id = some (m, t) := hp
    by_cases hid : id = i.instanceId
    · subst hid
      rw [Function.update_self] at hp
      cases hp
      exact ⟨hlt, i.instanceable⟩
    · rw [Function.update_of_ne hid] at hp
      exact h.short id m t hp
  · have hp : Function.update w.pending i.instanceId (some (i.mapid, time)) 0 ≠ none := hp
    rcases (hmem x).1 hx with rfl | hx
    · rfl
    by_cases hid : 0 = i.instanceId
    · by_contra hne
      exact hnew x hx ((h.zero x hx hne).trans hid)
    · rw [Function.update_of_ne hid] at hp
      exact h.apart hp x hx

/-- **A cancellation is right** if and only if its instance can be told apart. -/
theorem Sound.cancel_iff (h : Sound d w) (i : NormalInstance d) (time : Int) :
    w.Right (.cancel i time) ↔ w.ToldApart (.cancel i time) := by
  unfold Right ToldApart
  dsimp only
  split
  · next mapid t hp =>
    obtain ⟨hlt, -⟩ := h.short _ _ _ hp
    refine ⟨fun _ => Or.inl (by rw [hp]; nofun), fun _ => ?_⟩
    have hid : i.event.instanceId = i.instanceId := Nat.mod_eq_of_lt hlt
    exact cancelReset_own ((h.held _ _ _).2 hp) hid
      (fun y hy he => h.only hp hy ((beq_iff_eq.1 he).symm.trans hid)) time
  · next hp =>
    constructor
    · intro hsame
      refine Or.inr fun x hx hid => ?_
      have hlen := congrArg List.length hsame
      change (w.manager.cancelReset time i.event).resetTimeQueue.length = w.manager.resetTimeQueue.length at hlen
      have hx : x ∈ w.manager.resetTimeQueue := hx
      have hfound : sameEvent i.event x = true := beq_iff_eq.2 hid.symm
      have hpos : 0 < w.manager.resetTimeQueue.length := List.length_pos_of_mem hx
      unfold cancelReset at hlen
      dsimp only at hlen
      split at hlen
      · next hany =>
        obtain ⟨y, hy, hpy⟩ := List.any_eq_true.1 hany
        rw [List.length_eraseP_of_mem hy hpy] at hlen
        omega
      · rw [List.length_eraseP_of_mem hx hfound] at hlen
        omega
    · rintro (hne | hno)
      · exact absurd hp hne
      · exact congrArg InstanceSaveManager.resetTimeQueue (cancelReset_none hno time)

theorem Sound.cancel (h : Sound d w) {i : NormalInstance d} {time : Int} (hg : w.ToldApart (.cancel i time)) :
    Sound d (w.step d (.cancel i time)) := by
  have hright := (h.cancel_iff i time).2 hg
  have hsub : (w.step d (.cancel i time)).queue.Sublist w.queue := cancelReset_sublist time i.event
  have hsorted : TimedQueue.Sorted (w.step d (.cancel i time)).queue := h.good.sorted.sublist hsub
  -- nothing but the event of the instance has gone
  have hcount : ∀ x, x.2.type ≠ 0 → (w.step d (.cancel i time)).queue.count x = w.queue.count x := by
    intro x hx0
    unfold Right at hright
    dsimp only at hright
    split at hright
    · rw [hright.count_eq, List.count_cons_of_ne]
      intro he
      exact hx0 (by rw [← he])
    · rw [hright]
  refine ⟨h.good.instances hsorted hcount, fun x hx => h.zero x (hsub.mem hx), h.nodup.sublist (hsub.filter _),
    fun t m id => ?_, fun id m t hp => ?_, fun hp x hx => ?_⟩
  · change _ ↔ Function.update w.pending i.instanceId none id = some (m, t)
    unfold Right at hright
    dsimp only at hright
    split at hright
    · next m' t' hp =>
      have hnodup : (individuals w.queue).Nodup := h.nodup
      have hindividuals := hright.filter fun x => x.2.type == 0
      rw [List.filter_cons_of_pos (by rfl)] at hindividuals
      obtain ⟨hout, -⟩ := List.nodup_cons.1 (hindividuals.nodup_iff.1 hnodup)
      by_cases hid : id = i.instanceId
      · subst hid
        rw [Function.update_self]
        refine ⟨fun hx => absurd ?_ hout, nofun⟩
        have hsame := h.only hp (hsub.mem hx) rfl
        rw [← hsame]
        exact List.mem_filter.2 ⟨hx, rfl⟩
      · rw [Function.update_of_ne hid, ← h.held, hright.mem_iff, List.mem_cons]
        refine ⟨Or.inr, fun hx => hx.resolve_left fun heq => hid ?_⟩
        cases heq
        rfl
    · next hp =>
      have hpending : Function.update w.pending i.instanceId none = w.pending := Function.update_eq_self_iff.2 hp.symm
      rw [hright, hpending, h.held]
  · have hp : Function.update w.pending i.instanceId none id = some (m, t) := hp
    by_cases hid : id = i.instanceId
    · subst hid
      rw [Function.update_self] at hp
      cases hp
    · rw [Function.update_of_ne hid] at hp
      exact h.short id m t hp
  · have hp : Function.update w.pending i.instanceId none 0 ≠ none := hp
    refine h.apart (fun hnone => hp ?_) x (hsub.mem hx)
    by_cases hid : 0 = i.instanceId
    · rw [hid, Function.update_self]
    · rw [Function.update_of_ne hid, hnone]

theorem Sound.expired_perm (hd : d.Regular) (h : Sound d w) (c : Clock) :
    (w.manager.expired d c (8 * w.manager.resetTimeQueue.length)).Perm
        ((individuals w.queue).filter fun x => decide (x.1 < c.now)) ∧
      (individuals (w.manager.update d c).resetTimeQueue).Perm
        ((individuals w.queue).filter fun x => !decide (x.1 < c.now)) := by
  obtain ⟨hperm, hdue, -⟩ :=
    updateTurns_expired hd h.good h.zero c (8 * w.manager.resetTimeQueue.length)
  have hidle := update_ends hd h.good c
  change ∀ x ∈ (w.manager.updateTurns d c (8 * w.manager.resetTimeQueue.length)).resetTimeQueue, _ at hidle
  change _ ∧ (individuals (w.manager.updateTurns d c (8 * w.manager.resetTimeQueue.length)).resetTimeQueue).Perm _
  generalize w.manager.updateTurns d c (8 * w.manager.resetTimeQueue.length) = w' at hperm hidle ⊢
  generalize w.manager.expired d c (8 * w.manager.resetTimeQueue.length) = gone at hperm hdue ⊢
  have hidle' : ∀ x ∈ individuals w'.resetTimeQueue, ¬ x.1 < c.now :=
    fun x hx => hidle x (List.mem_of_mem_filter hx)
  have hfirst := hperm.filter fun x => decide (x.1 < (c.now : Int))
  have hsecond := hperm.filter fun x => !decide (x.1 < (c.now : Int))
  rw [List.filter_append, List.filter_eq_self.2 (by simpa using hdue),
    List.filter_eq_nil_iff.2 (by simpa using hidle'), List.append_nil] at hfirst
  rw [List.filter_append, List.filter_eq_nil_iff.2 (by simpa using hdue),
    List.filter_eq_self.2 (by simpa using hidle'), List.nil_append] at hsecond
  exact ⟨hfirst, hsecond⟩

theorem mem_individuals {q : List (Int × InstResetEvent)} {x : Int × InstResetEvent} :
    x ∈ individuals q ↔ x ∈ q ∧ x.2.type = 0 := by
  unfold individuals
  rw [List.mem_filter, beq_iff_eq]

/-- **An update is right.** -/
theorem Sound.update_right (hd : d.Regular) (h : Sound d w) (c : Clock) : w.Right (d := d) (.update c) := by
  obtain ⟨hgone, -⟩ := h.expired_perm hd c
  have hmem : ∀ x, x ∈ w.manager.expired d c (8 * w.manager.resetTimeQueue.length) ↔
      (x ∈ w.queue ∧ x.2.type = 0) ∧ x.1 < c.now := by
    intro x
    rw [hgone.mem_iff, List.mem_filter, mem_individuals, decide_eq_true_eq]
  have hreset : ∀ x ∈ w.manager.expired d c (8 * w.manager.resetTimeQueue.length),
      resetInstance d x.2 = some (x.2.mapid, x.2.instanceId) := by
    intro x hx
    obtain ⟨⟨hx, h0⟩, -⟩ := (hmem x).1 hx
    obtain ⟨t, type, m, id⟩ := x
    cases h0
    unfold resetInstance
    rw [if_neg (by rw [(h.short _ _ _ ((h.held t m id).1 hx)).2]; decide)]
  have hlist : w.manager.instanceResets d c =
      (w.manager.expired d c (8 * w.manager.resetTimeQueue.length)).map fun x => (x.2.mapid, x.2.instanceId) := by
    unfold instanceResets
    rw [List.filterMap_congr hreset, ← List.filterMap_eq_map]
    rfl
  have hnodup : (w.manager.expired d c (8 * w.manager.resetTimeQueue.length)).Nodup :=
    hgone.nodup_iff.2 (h.nodup.filter _)
  refine ⟨?_, fun m id => ?_⟩
  · rw [hlist]
    refine (List.nodup_map_iff_inj_on hnodup).2 fun x hx y hy he => ?_
    obtain ⟨⟨hx, hx0⟩, -⟩ := (hmem x).1 hx
    obtain ⟨⟨hy, hy0⟩, -⟩ := (hmem y).1 hy
    obtain ⟨t, type, m, id⟩ := x
    cases hx0
    have hid : y.2.instanceId = id := (congrArg Prod.snd he).symm
    exact (h.only ((h.held t m id).1 hx) hy hid).symm
  · rw [hlist, List.mem_map]
    constructor
    · rintro ⟨⟨t, type, m', id'⟩, hx, he⟩
      cases he
      obtain ⟨⟨hx, h0⟩, hdue⟩ := (hmem _).1 hx
      cases h0
      exact ⟨t, (h.held t _ _).1 hx, hdue⟩
    · rintro ⟨t, hp, hdue⟩
      exact ⟨(t, ⟨0, m, id⟩), (hmem _).2 ⟨⟨(h.held t m id).2 hp, rfl⟩, hdue⟩, rfl⟩

theorem Sound.update (hd : d.Regular) (h : Sound d w) (c : Clock) : Sound d (w.step d (.update c)) := by
  obtain ⟨-, hkept⟩ := h.expired_perm hd c
  obtain ⟨-, -, hglobals⟩ := updateTurns_expired hd h.good h.zero c (8 * w.manager.resetTimeQueue.length)
  have hstill : ∀ id m t, w.stillPending c id = some (m, t) ↔ w.pending id = some (m, t) ∧ ¬ t < c.now := by
    intro id m t
    unfold stillPending
    rw [Option.filter_eq_some_iff]
    simp
  refine ⟨(update_spec hd h.good c).1, fun x hx hx0 => (hglobals x hx hx0).1, hkept.nodup_iff.2 (h.nodup.filter _),
    fun t m id => ?_, fun id m t hp => ?_, fun hp x hx => ?_⟩
  · change _ ↔ w.stillPending c id = some (m, t)
    rw [hstill, ← h.held]
    have hmem := hkept.mem_iff (a := (t, ⟨0, m, id⟩))
    rw [mem_individuals, List.mem_filter, mem_individuals] at hmem
    simp only [and_true, Bool.not_eq_true', decide_eq_false_iff_not] at hmem
    exact hmem
  · exact h.short id m t ((hstill id m t).1 hp).1
  · by_contra hx0
    obtain ⟨-, y, hy, hy0⟩ := hglobals x hx hx0
    refine hy0 (h.apart (fun hnone => hp ?_) y hy)
    change w.stillPending c 0 = none
    unfold stillPending
    rw [hnone]
    rfl

/-! ## Loading -/

/-- A manager that was loaded with no instance has warnings and resets of maps only. -/
theorem loaded_globals {tables : ResetTables} (hno : tables.instances = []) {now : Nat} {m : InstanceSaveManager}
    (hl : loadResetTimes d tables now = some m) :
    ∀ x ∈ m.resetTimeQueue, x.2.type ≠ 0 ∧ x.2.instanceId = 0 := by
  have hempty : instResetTimes tables = ∅ := by
    unfold instResetTimes
    rw [hno]
    dsimp only [List.foldl_nil]
    induction tables.respawns with
    | nil => rfl
    | cons r rows ih =>
      rw [List.foldl_cons]
      have hnone : (∅ : Std.TreeMap Nat (Nat × Nat))[r.1]? = none := Std.TreeMap.getElem?_emptyc
      rw [hnone]
      exact ih
  have hread : ∀ (rows : List (Nat × Nat)) (m : InstanceSaveManager),
      (readResets d m rows).resetTimeQueue = m.resetTimeQueue := by
    intro rows
    unfold readResets
    induction rows with
    | nil => exact fun m => rfl
    | cons r rows ih =>
      intro m
      rw [List.foldl_cons]
      split
      · exact ih m
      · exact ih _
  have hload : ∀ (l : List Nat) (m m' : InstanceSaveManager), l.foldlM (loadMap d now) m = some m' →
      (∀ x ∈ m.resetTimeQueue, x.2.type ≠ 0 ∧ x.2.instanceId = 0) →
      ∀ x ∈ m'.resetTimeQueue, x.2.type ≠ 0 ∧ x.2.instanceId = 0 := by
    intro l
    induction l with
    | nil =>
      intro m m' hm hall
      cases hm
      exact hall
    | cons i l ih =>
      intro m m' hm hall
      rw [List.foldlM_cons] at hm
      obtain ⟨m₁, hm₁, hm⟩ := Option.bind_eq_some_iff.1 hm
      refine ih m₁ m' hm ?_
      unfold loadMap at hm₁
      split at hm₁
      · cases hm₁
        exact hall
      split at hm₁
      · cases hm₁
        exact hall
      split at hm₁
      · cases hm₁
      cases hm₁
      intro x hx
      rcases TimedQueue.mem_insert.1 hx with rfl | hx
      · exact ⟨(nextType_le _ _).1, rfl⟩
      · exact hall x hx
  unfold loadResetTimes at hl
  rw [hempty] at hl
  refine hload _ _ _ hl ?_
  rw [hread]
  exact nofun

theorem sound_loaded (hfit : d.PeriodsFit) {tables : ResetTables} (hno : tables.instances = []) {now : Nat}
    {m : InstanceSaveManager} (hl : loadResetTimes d tables now = some m) :
    d.Regular ∧ Sound d { manager := m } := by
  obtain ⟨hreg, hgood⟩ := loadResetTimes_good hfit hl
  have hall := loaded_globals hno hl
  have hnil : individuals m.resetTimeQueue = [] :=
    List.filter_eq_nil_iff.2 fun x hx he => (hall x hx).1 (beq_iff_eq.1 he)
  refine ⟨hreg, hgood, fun x hx _ => (hall x hx).2, ?_, fun t mapid id => ⟨fun hx => ?_, nofun⟩, nofun,
    fun hp => absurd rfl hp⟩
  · unfold queue
    rw [hnil]
    exact List.nodup_nil
  · exact absurd rfl (hall _ hx).1

/-! ## Result -/

/-- **The resets of normal instances.**  From a manager that was loaded with the global resets, in every run of
schedulings, cancellations and updates in which instances can be told apart, each update resets the instances whose
last scheduling is due and not cancelled, and each cancellation takes out the event of its instance and no other. -/
theorem instances_reset (d : InstanceData) (hd : d.PeriodsFit) (tables : ResetTables) (hno : tables.instances = [])
    (now : Nat) (m : InstanceSaveManager) (hl : loadResetTimes d tables now = some m) (es : List (ResetStep d))
    (h : Transition.Along (step d) ToldApart { manager := m } es) :
    Transition.Along (step d) Right { manager := m } es := by
  obtain ⟨hreg, hsound⟩ := sound_loaded hd hno hl
  refine Transition.along_of_invariant (I := Sound d) (fun w e hw he => ?_) (fun w e hw he => ?_) hsound h
  · cases e with
    | schedule i time => exact hw.schedule he
    | cancel i time => exact hw.cancel he
    | update c => exact hw.update hreg c
  · cases e with
    | schedule i time => trivial
    | cancel i time => exact (hw.cancel_iff i time).2 he
    | update c => exact hw.update_right hreg c

/-! ### A dungeon next to a raid -/

def sampleDungeons : InstanceData where
  maps i := if i = 0 then some ⟨0, 604800, true⟩ else if i = 1 then some ⟨0, 0, true⟩ else none
  templates := [some ⟨7⟩, some ⟨0⟩]
  resetTimeHour := 4
  instanceable_of_reset := by
    intro i e he _
    by_cases hi : i = 0
    · rw [if_pos hi] at he
      cases he
      rfl
    · rw [if_neg hi] at he
      split at he
      · cases he
        rfl
      · cases he
  templates_short := by decide

theorem sampleDungeons_fits : sampleDungeons.PeriodsFit := by
  intro i temp htemp hreset
  have hi := getInstanceTemplate_lt htemp
  have hi : i < 2 := hi
  match i, hi with
  | 0, _ =>
    cases htemp
    decide
  | 1, _ => exact absurd hreset (by decide)

def sampleInstance (id : Nat) (h : id < 4294967296 := by decide) : NormalInstance sampleDungeons :=
  ⟨1, id, by decide, h, by decide⟩

def sampleDungeonManager : InstanceSaveManager := (loadResetTimes sampleDungeons {} 1000000000).get (by decide)

theorem sampleDungeonManager_loaded : loadResetTimes sampleDungeons {} 1000000000 = some sampleDungeonManager :=
  (Option.some_get _).symm

/-- Two instances are left, one is entered again, and the other is due. -/
def sampleSteps : List (ResetStep sampleDungeons) :=
  [.schedule (sampleInstance 5) 1000007200, .schedule (sampleInstance 6) 1000007300,
    .cancel (sampleInstance 5) 1000007200, .update { now := 1000007400 }]

theorem instances_reset_sample :
    Transition.Along (step sampleDungeons) Right { manager := sampleDungeonManager } sampleSteps :=
  instances_reset sampleDungeons sampleDungeons_fits {} rfl 1000000000 sampleDungeonManager sampleDungeonManager_loaded
    sampleSteps ⟨⟨by decide, by decide⟩, ⟨by decide, by decide⟩, Or.inl (by decide), trivial, trivial⟩

/-- The reset of instance 65537 resets instance 1. -/
theorem wide_id_resets_other : ¬ ∀ (d : InstanceData), d.PeriodsFit → ∀ tables : ResetTables, tables.instances = [] →
    ∀ now m, loadResetTimes d tables now = some m → ∀ es : List (ResetStep d),
      Transition.Along (step d) Right { manager := m } es := by
  intro h
  have hright := (h sampleDungeons sampleDungeons_fits {} rfl 1000000000 sampleDungeonManager
    sampleDungeonManager_loaded [.schedule (sampleInstance 65537) 1000007200, .update { now := 1000007400 }]).2.1
  obtain ⟨t, hp, -⟩ := (hright.2 1 1).1 (by decide)
  exact absurd hp (by simp [step, Function.update, sampleInstance])

end ResetWatch

end BlizzLike
