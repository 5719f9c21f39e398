import Mathlib.Logic.Function.Basic
import Mathlib.Data.List.Forall2

/-!
# Delayed statements

The threads of the server issue statements and transactions; a delay thread executes them one after the other.
What is done under one lock is one step: a call of `Database` under `nMutex`, an operation of the queue, a
statement on the connection under `mMutex`.  Whether the connection refuses a statement for reasons of its own is
a part of the step.

The connection is a store with at most one open transaction; what it was when that started is saved for a
rollback, and starting another commits it.

Left out: asynchronous queries, and the time before the delay thread is there and after it has been waited for.
-/

namespace BlizzLike

/-! ## The connection -/

inductive SqlRequest (Sql : Type*) where
  | startTransaction
  | commit
  | rollback
  | sql (s : Sql)
  deriving DecidableEq, Repr

structure SqlConnection (σ : Type*) where
  store : σ
  saved : Option σ := none

namespace SqlConnection

variable {Sql σ : Type*} (apply : Sql → σ → Option σ)

/-- `DirectExecute`: what it returns, and the connection after it. -/
def directExecute (c : SqlConnection σ) (fails : Bool) (request : SqlRequest Sql) : Bool × SqlConnection σ :=
  if fails then (false, c)
  else
    match request with
    | .startTransaction => (true, { c with saved := some c.store })
    | .commit => (true, { c with saved := none })
    | .rollback => (true, { store := c.saved.getD c.store, saved := none })
    | .sql s =>
      match apply s c.store with
      | none => (false, c)
      | some store => (true, { c with store := store })

end SqlConnection

/-! ## Operations -/

inductive SqlOperation (Sql : Type*) where
  | statement (s : Sql)
  | transaction (queue : List Sql)
  deriving DecidableEq, Repr

/-- Where the delay thread is. -/
inductive DelayPoint (Sql : Type*) where
  /-- At the test of `m_running`. -/
  | looping
  | dequeuing
  /-- In `SqlStatement::Execute`. -/
  | statement (s : Sql)
  /-- At the beginning of `SqlTransaction::Execute`. -/
  | starting (queue : List Sql)
  /-- In its loop. -/
  | inside (queue : List Sql)
  | rollingBack
  | ended
  deriving DecidableEq, Repr

def SqlOperation.point {Sql : Type*} : SqlOperation Sql → DelayPoint Sql
  | .statement s => .statement s
  | .transaction queue => .starting queue

/-! ## State -/

/-- `queue` is `m_sqlQueue`.  What is kept besides: the operations that were handed to the delay thread, the one
that is being called and those that were, and what it has sent. -/
structure Database (Thread Sql σ : Type*) where
  connection : SqlConnection σ
  tranQueues : Thread → Option (List Sql) := fun _ => none
  queue : List (SqlOperation Sql) := []
  active : Bool := true
  running : Bool := true
  point : DelayPoint Sql := .looping
  handed : List (SqlOperation Sql) := []
  calling : Option (SqlOperation Sql) := none
  called : List (SqlOperation Sql) := []
  sent : List (SqlRequest Sql) := []

inductive DbEvent (Thread Sql : Type*) where
  | execute (t : Thread) (s : Sql)
  | beginTransaction (t : Thread)
  | commitTransaction (t : Thread)
  | rollbackTransaction (t : Thread)
  /-- `DirectExecute` or a query. -/
  | direct (t : Thread) (s : Sql) (fails : Bool)
  /-- The two statements of `Stop`. -/
  | stopRunning
  | deactivate
  /-- The delay thread goes on. -/
  | work (fails : Bool)
  deriving DecidableEq, Repr

namespace Database

variable {Thread Sql σ : Type*} [DecidableEq Thread] (apply : Sql → σ → Option σ) (d : Database Thread Sql σ)

def delay (op : SqlOperation Sql) : Database Thread Sql σ :=
  if d.active then { d with queue := d.queue ++ [op], handed := d.handed ++ [op] } else d

def setTranQueue (t : Thread) (queue : Option (List Sql)) : Database Thread Sql σ :=
  { d with tranQueues := Function.update d.tranQueues t queue }

def execute (t : Thread) (s : Sql) : Database Thread Sql σ :=
  match d.tranQueues t with
  | some queue => d.setTranQueue t (some (queue ++ [s]))
  | none => d.delay (.statement s)

/-- `BeginTransaction`: a transaction within a transaction is not allowed, so the one before is deleted. -/
def beginTransaction (t : Thread) : Database Thread Sql σ := d.setTranQueue t (some [])

def commitTransaction (t : Thread) : Database Thread Sql σ :=
  match d.tranQueues t with
  | some queue => (d.delay (.transaction queue)).setTranQueue t none
  | none => d

def rollbackTransaction (t : Thread) : Database Thread Sql σ := d.setTranQueue t none

/-- The delay thread sends something: what it is told, and where it is then. -/
def send (fails : Bool) (request : SqlRequest Sql) (next : Bool → DelayPoint Sql) : Database Thread Sql σ :=
  let r := d.connection.directExecute apply fails request
  { d with connection := r.2, sent := d.sent ++ [request], point := next r.1 }

/-- The call is over. -/
def finish : Database Thread Sql σ :=
  { d with point := .looping, called := d.called ++ d.calling.toList, calling := none }

/-- A step of `SqlDelayThread::run`.  A queue that is not active gives nothing. -/
def work (fails : Bool) : Database Thread Sql σ :=
  match d.point with
  | .looping => { d with point := if d.running then .dequeuing else .ended }
  | .dequeuing =>
    if d.active then
      match d.queue with
      | [] => d
      | op :: rest => { d with queue := rest, calling := some op, point := op.point }
    else { d with point := .looping }
  | .statement s => (d.send apply fails (.sql s) fun _ => .looping).finish
  | .starting [] => d.finish
  | .starting queue => d.send apply fails .startTransaction fun _ => .inside queue
  | .inside [] => (d.send apply fails .commit fun _ => .looping).finish
  | .inside (s :: rest) => d.send apply fails (.sql s) fun ok => if ok then .inside rest else .rollingBack
  | .rollingBack => (d.send apply fails .rollback fun _ => .looping).finish
  | .ended => d

def step : DbEvent Thread Sql → Database Thread Sql σ
  | .execute t s => d.execute t s
  | .beginTransaction t => d.beginTransaction t
  | .commitTransaction t => d.commitTransaction t
  | .rollbackTransaction t => d.rollbackTransaction t
  | .direct _ s fails => { d with connection := (d.connection.directExecute apply fails (.sql s)).2 }
  | .stopRunning => { d with running := false }
  | .deactivate => { d with active := false }
  | .work fails => d.work apply fails

end Database

end BlizzLike
