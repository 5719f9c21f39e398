import Mathlib.Algebra.Group.Nat.Defs
import Mathlib.Logic.Function.Basic

/-!
# Event processors

The queue of timed events every unit has, with `AddEvent`, `Update` and `KillAllEvents`.  Events call
back: `Execute` and `Abort` may add events, also the event itself, and `Execute` and `IsDeletable` tell
if the event may be deleted.  What a callback does is an argument of the turn of the loop it is called
in, so that a run covers every behaviour of the events.

Both loops are cut into turns.  While `KillAllEvents` runs the queue is split where its iterator
stands: what it has passed, and the rest.
-/

namespace BlizzLike

/-- An entry of `m_events`; events are known by numbers. -/
structure QueuedEvent where
  execTime : Nat
  event : Nat
  deriving DecidableEq, Repr

/-- What happens to events: `to_Abort` is set, they are executed with a planned and the current time,
aborted, deleted. -/
inductive EventAction where
  | flagged (event : Nat)
  | executed (event execTime time : Nat)
  | aborted (event : Nat)
  | deleted (event : Nat)
  deriving DecidableEq, Repr

/-- Which function runs. -/
inductive EventPhase where
  | idle
  | updating
  | killing (force : Bool)
  deriving DecidableEq, Repr

/-- `EventProcessor` with the flags of the events, the history, and which events it owns. -/
structure EventProcessor where
  time : Nat := 0
  passed : List QueuedEvent := []
  events : List QueuedEvent := []
  aborting : Bool := false
  toAbort : Nat → Bool := fun _ => false
  phase : EventPhase := .idle
  log : List EventAction := []
  owned : Nat → Bool := fun _ => false

/-- Insertion into the multimap: behind all entries of the same time. -/
def insertEvent (x : QueuedEvent) : List QueuedEvent → List QueuedEvent
  | [] => [x]
  | y :: l => if x.execTime < y.execTime then x :: y :: l else y :: insertEvent x l

namespace EventProcessor

variable (w : EventProcessor)

def queue : List QueuedEvent := w.passed ++ w.events

/-- An entry of this time comes before the iterator of `KillAllEvents`. -/
def beforeIterator (e_time : Nat) : Bool :=
  match w.phase, w.events with
  | .killing _, [] => true
  | .killing _, y :: _ => e_time < y.execTime
  | _, _ => false

/-- `AddEvent`; `m_aborting` is not looked at. -/
def addEvent (event e_time : Nat) : EventProcessor :=
  let x : QueuedEvent := { execTime := e_time, event := event }
  let w1 := { w with owned := Function.update w.owned event true }
  if w.beforeIterator e_time then { w1 with passed := insertEvent x w.passed }
  else { w1 with events := insertEvent x w.events }

/-- The calls of `AddEvent` in a callback. -/
def addEvents (w : EventProcessor) (adds : List (Nat × Nat)) : EventProcessor :=
  adds.foldl (fun v a => v.addEvent a.1 a.2) w

def record (action : EventAction) : EventProcessor := { w with log := w.log ++ [action] }

def delete (event : Nat) : EventProcessor :=
  { w.record (.deleted event) with owned := Function.update w.owned event false }

/-- An event whose `Execute` does not want it to be deleted is its own, unless it has added itself. -/
def release (event : Nat) : EventProcessor :=
  if w.queue.any fun x => x.event == event then w else { w with owned := Function.update w.owned event false }

def setAbort (event : Nat) : EventProcessor :=
  { w.record (.flagged event) with toAbort := Function.update w.toAbort event true }

/-- A turn in `Update`: the first event if it is due.  `answer` is what `Execute` returns. -/
def updateTurn (adds : List (Nat × Nat)) (answer : Bool) : EventProcessor :=
  match w.events with
  | [] => { w with phase := .idle }
  | x :: rest =>
    if x.execTime ≤ w.time then
      let w1 := { w with events := rest }
      if w.toAbort x.event = false then
        let w2 := (w1.record (.executed x.event x.execTime w.time)).addEvents adds
        if answer then w2.delete x.event else w2.release x.event
      else ((w1.record (.aborted x.event)).addEvents adds).delete x.event
    else { w with phase := .idle }

/-- The iterator passes an event, which is flagged and aborted. -/
def pass (x : QueuedEvent) (rest : List QueuedEvent) : EventProcessor :=
  ({ w with passed := w.passed ++ [x], events := rest }.setAbort x.event).record (.aborted x.event)

/-- A turn in `KillAllEvents`; `answer` is what `IsDeletable` returns. -/
def killTurn (force : Bool) (adds : List (Nat × Nat)) (answer : Bool) : EventProcessor :=
  match w.events with
  | [] => { w with passed := [], events := if force then [] else w.passed, phase := .idle }
  | x :: rest =>
    let w1 := (w.pass x rest).addEvents adds
    if force then w1.delete x.event
    else if answer then { w1.delete x.event with passed := w1.passed.erase x }
    else w1

end EventProcessor

/-- The calls from outside, a flag that is set, and the turns of the function that runs. -/
inductive EventRequest where
  | addEvent (event e_time : Nat)
  | setAbort (event : Nat)
  | update (p_time : Nat)
  | killAllEvents (force : Bool)
  | turn (adds : List (Nat × Nat)) (answer : Bool)

namespace EventProcessor

def step (w : EventProcessor) : EventRequest → EventProcessor
  | .addEvent event e_time => if w.phase = .idle then w.addEvent event e_time else w
  | .setAbort event => w.setAbort event
  | .update p_time =>
    if w.phase = .idle then { w with time := (w.time + p_time) % 2 ^ 64, phase := .updating } else w
  | .killAllEvents force =>
    if w.phase = .idle then { w with aborting := true, phase := .killing force } else w
  | .turn adds answer =>
    match w.phase with
    | .idle => w
    | .updating => w.updateTurn adds answer
    | .killing force => w.killTurn force adds answer

end EventProcessor

end BlizzLike
