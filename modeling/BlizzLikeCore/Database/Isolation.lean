import BlizzLikeCore.Database.SqlDelayThread
import BlizzLikeCore.Lib.Transition

/-!
# Transactions on a shared connection

The delay thread and the other threads share a connection, and its lock is taken for one statement at a time.  What
another thread does between the start and the end of a transaction is a part of that transaction.

    Watched   : with what should be there to stay
    Isolated  : what should hold
    Careful   : the condition
    isolated  : the result
-/

namespace BlizzLike

variable {Thread Sql σ : Type*} [DecidableEq Thread]

/-- A statement takes effect, or it fails. -/
def effect (apply : Sql → σ → Option σ) (st : σ) (s : Sql) : σ := (apply s st).getD st

/-- `durable` is the store as it should be: every statement of another thread has taken effect when it was
executed, and those of a transaction when that was committed. -/
structure Watched (Thread Sql σ : Type*) where
  database : Database Thread Sql σ
  durable : σ

namespace Watched

variable (apply : Sql → σ → Option σ) (w : Watched Thread Sql σ)

/-- What an event should do. -/
def durableStep : DbEvent Thread Sql → σ
  | .direct _ s fails => if fails then w.durable else effect apply w.durable s
  | .work fails =>
    match w.database.point, w.database.calling with
    | .statement s, _ => if fails then w.durable else effect apply w.durable s
    | .inside [], some (.transaction queue) => if fails then w.durable else queue.foldl (effect apply) w.durable
    | _, _ => w.durable
  | _ => w.durable

def step (e : DbEvent Thread Sql) : Watched Thread Sql σ where
  database := w.database.step apply e
  durable := w.durableStep apply e

/-! ## The condition -/

/-- The delay thread is between the start and the end of a transaction. -/
def inTransaction : Bool :=
  match w.database.point with
  | .inside _ => true
  | .rollingBack => true
  | _ => false

/-- The delay thread is about to start or to end a transaction. -/
def atBound : Bool :=
  match w.database.point with
  | .starting (_ :: _) => true
  | .inside [] => true
  | .rollingBack => true
  | _ => false

/-- A statement that changes nothing. -/
def Reads (s : Sql) : Prop := ∀ st, effect apply st s = st

/-- The condition on a step: no other thread changes anything while a transaction is open, and starting and ending
it does not fail. -/
def Careful (e : DbEvent Thread Sql) : Prop :=
  match e with
  | .direct _ s fails => w.inTransaction = true → fails = true ∨ Reads apply s
  | .work fails => w.atBound = true → fails = false
  | _ => True

/-! ## What should hold -/

/-- A rollback would leave just what should be there to stay, and outside of a transaction nothing else is there. -/
structure Isolated : Prop where
  rollback : (w.database.connection.directExecute apply false .rollback).2.store = w.durable
  outside : w.inTransaction = false → w.database.connection.store = w.durable

/-! ## The invariant -/

variable {apply w}

/-- The statements of a transaction that were executed. -/
inductive Holds (apply : Sql → σ → Option σ) (durable : σ) :
    DelayPoint Sql → Option (SqlOperation Sql) → SqlConnection σ → Prop where
  | looping {calling : Option (SqlOperation Sql)} : Holds apply durable .looping calling { store := durable }
  | dequeuing {calling : Option (SqlOperation Sql)} : Holds apply durable .dequeuing calling { store := durable }
  | ended {calling : Option (SqlOperation Sql)} : Holds apply durable .ended calling { store := durable }
  | statement {calling : Option (SqlOperation Sql)} (s : Sql) :
      Holds apply durable (.statement s) calling { store := durable }
  | starting (queue : List Sql) :
      Holds apply durable (.starting queue) (some (.transaction queue)) { store := durable }
  | inside (done rest : List Sql) :
      Holds apply durable (.inside rest) (some (.transaction (done ++ rest)))
        { store := done.foldl (effect apply) durable, saved := some durable }
  | rollingBack {calling : Option (SqlOperation Sql)} (store : σ) :
      Holds apply durable .rollingBack calling { store := store, saved := some durable }

def Sound (apply : Sql → σ → Option σ) (w : Watched Thread Sql σ) : Prop :=
  Holds apply w.durable w.database.point w.database.calling w.database.connection

omit [DecidableEq Thread] in
theorem Sound.isolates (h : Sound apply w) : Isolated apply w := by
  obtain ⟨database, durable⟩ := w
  obtain ⟨connection, tranQueues, queue, active, running, point, handed, calling, called, sent⟩ := database
  unfold Sound at h
  dsimp only at h
  cases h with
  | looping => exact ⟨rfl, fun _ => rfl⟩
  | dequeuing => exact ⟨rfl, fun _ => rfl⟩
  | ended => exact ⟨rfl, fun _ => rfl⟩
  | statement s => exact ⟨rfl, fun _ => rfl⟩
  | starting queue => exact ⟨rfl, fun _ => rfl⟩
  | inside done rest => exact ⟨rfl, fun hout => by cases hout⟩
  | rollingBack store => exact ⟨rfl, fun hout => by cases hout⟩

omit [DecidableEq Thread] in
theorem directExecute_sql (c : SqlConnection σ) (s : Sql) :
    (c.directExecute apply false (.sql s)).2 = { c with store := effect apply c.store s } ∧
      ((c.directExecute apply false (.sql s)).1 = false → effect apply c.store s = c.store) := by
  unfold SqlConnection.directExecute effect
  rw [if_neg (by simp)]
  dsimp only
  cases apply s c.store with
  | none => exact ⟨rfl, fun _ => rfl⟩
  | some store => exact ⟨rfl, fun h => by cases h⟩

/-- **The delay thread** goes on. -/
theorem work_sound (h : Sound apply w) {fails : Bool} (hc : Careful apply w (.work fails)) :
    Sound apply (w.step apply (.work fails)) := by
  obtain ⟨database, durable⟩ := w
  obtain ⟨connection, tranQueues, queue, active, running, point, handed, calling, called, sent⟩ := database
  unfold Sound at h
  unfold Careful atBound at hc
  dsimp only at h hc
  cases h with
  | looping =>
    simp only [Sound, step, Database.step, Database.work, durableStep]
    split
    · exact .dequeuing
    · exact .ended
  | dequeuing =>
    simp only [Sound, step, Database.step, Database.work, durableStep]
    split
    · split
      · exact .dequeuing
      · next op rest =>
        cases op with
        | statement s => exact .statement s
        | transaction q => exact .starting q
    · exact .looping
  | ended => exact .ended
  | statement s =>
    simp only [Sound, step, Database.step, Database.work, durableStep, Database.send, Database.finish]
    cases fails with
    | true => exact .looping
    | false =>
      rw [(directExecute_sql _ s).1]
      exact .looping
  | starting q =>
    cases q with
    | nil => exact .looping
    | cons s q =>
      cases hc rfl
      exact .inside [] (s :: q)
  | inside done rest =>
    cases rest with
    | nil =>
      cases hc rfl
      simp only [Sound, step, Database.step, Database.work, durableStep, Database.send, Database.finish,
        SqlConnection.directExecute, List.append_nil]
      exact .looping
    | cons s rest =>
      simp only [Sound, step, Database.step, Database.work, durableStep, Database.send]
      cases fails with
      | true => exact .rollingBack _
      | false =>
        rw [(directExecute_sql _ s).1]
        split
        · have hmore : Holds apply durable _ _ _ := .inside (done ++ [s]) rest
          rw [List.append_assoc, List.singleton_append, List.foldl_append] at hmore
          exact hmore
        · exact .rollingBack _
  | rollingBack store =>
    cases hc rfl
    simp only [Sound, step, Database.step, Database.work, durableStep, Database.send, Database.finish,
      SqlConnection.directExecute]
    exact .looping

/-- **Another thread** executes a statement. -/
theorem direct_sound (h : Sound apply w) {t : Thread} {s : Sql} {fails : Bool}
    (hc : Careful apply w (.direct t s fails)) : Sound apply (w.step apply (.direct t s fails)) := by
  obtain ⟨database, durable⟩ := w
  obtain ⟨connection, tranQueues, queue, active, running, point, handed, calling, called, sent⟩ := database
  unfold Sound at h
  unfold Careful inTransaction at hc
  dsimp only at h hc
  simp only [Sound, step, Database.step, durableStep]
  cases fails with
  | true => exact h
  | false =>
    rw [(directExecute_sql _ s).1, if_neg (by simp)]
    cases h with
    | looping => exact .looping
    | dequeuing => exact .dequeuing
    | ended => exact .ended
    | statement s => exact .statement s
    | starting queue => exact .starting queue
    | inside done rest =>
      have hreads := (hc rfl).resolve_left (by simp)
      rw [hreads durable, hreads]
      exact .inside done rest
    | rollingBack store =>
      have hreads := (hc rfl).resolve_left (by simp)
      rw [hreads durable, hreads]
      exact .rollingBack store

theorem step_sound (h : Sound apply w) (e : DbEvent Thread Sql) (hc : Careful apply w e) : Sound apply (w.step apply e) := by
  have hdelay : ∀ (d : Database Thread Sql σ) (op : SqlOperation Sql), (d.delay op).connection = d.connection ∧
      (d.delay op).point = d.point ∧ (d.delay op).calling = d.calling := by
    intro d op
    unfold Database.delay
    split <;> exact ⟨rfl, rfl, rfl⟩
  cases e with
  | work fails => exact work_sound h hc
  | direct t s fails => exact direct_sound h hc
  | execute t s =>
    simp only [Sound, step, Database.step, durableStep, Database.execute, Database.setTranQueue]
    split
    · exact h
    · rw [(hdelay _ _).1, (hdelay _ _).2.1, (hdelay _ _).2.2]
      exact h
  | commitTransaction t =>
    simp only [Sound, step, Database.step, durableStep, Database.commitTransaction, Database.setTranQueue]
    split
    · simp only [hdelay]
      exact h
    · exact h
  | beginTransaction t => exact h
  | rollbackTransaction t => exact h
  | stopRunning => exact h
  | deactivate => exact h

/-! ## Runs -/

def start (store : σ) : Watched Thread Sql σ where
  database := { connection := { store := store } }
  durable := store

/-- **A transaction is isolated** in every run of careful steps: a rollback undoes just its own statements, and
nothing of another thread is undone or made a part of it. -/
theorem isolated (apply : Sql → σ → Option σ) (store : σ) (es : List (DbEvent Thread Sql))
    (h : Transition.Along (step apply) (Careful apply) (start store) es) :
    Isolated apply (Transition.run (step apply) (start store) es) := by
  have hstart : Sound apply (start store : Watched Thread Sql σ) := .looping
  exact (Transition.run_invariant (I := Sound apply) (fun _ e hs hc => step_sound hs e hc) hstart h).isolates

/-- Statements that add a number to the store; 0 fails. -/
def adding (s st : Nat) : Option Nat := if s = 0 then none else some (st + s)

/-- A transaction whose second statement fails, until it is rolled back, with a statement of thread 2 before. -/
def addsBefore : List (DbEvent Nat Nat) :=
  [.beginTransaction 1, .execute 1 5, .execute 1 0, .commitTransaction 1, .work false, .work false, .direct 2 7 false,
    .work false, .work false, .work false, .work false]

theorem isolated_addsBefore : Isolated adding (Transition.run (step adding) (start 0) addsBefore) :=
  isolated adding 0 addsBefore (by
    refine ⟨trivial, trivial, trivial, trivial, fun hb => ?_, fun hb => ?_, fun hb => ?_, fun _ => rfl, fun _ => rfl,
      fun _ => rfl, fun _ => rfl, trivial⟩
    all_goals cases hb)

/-- The same, with the statement of thread 2 after the first one of the transaction. -/
def addsInside : List (DbEvent Nat Nat) :=
  [.beginTransaction 1, .execute 1 5, .execute 1 0, .commitTransaction 1, .work false, .work false, .work false,
    .work false, .direct 2 7 false, .work false, .work false]

/-- What thread 2 has added is lost. -/
theorem addsInside_undone :
    ¬∀ (apply : Nat → Nat → Option Nat) store (es : List (DbEvent Nat Nat)),
      Isolated apply (Transition.run (step apply) (start store) es) := by
  intro h
  have hstore := (h adding 0 addsInside).outside (by decide)
  revert hstore
  decide

end Watched

end BlizzLike
