import BlizzLikeCore.Database.SqlDelayThread
import BlizzLikeCore.Lib.Transition
import Mathlib.Algebra.GroupWithZero.Nat
import Mathlib.Data.List.Induction

/-!
# Delayed transactions

What is handed to the delay thread is executed in that order, each operation once, and none is skipped; as long as
the thread is not stopped all of it is.  A transaction is what its thread has issued since its last
`BeginTransaction`: an earlier one that was not ended is deleted with its statements.

    OpenSince             : the statements of a thread since its last `BeginTransaction`
    tranQueues_iff        : they are in its queue
    Script                : what is sent for an operation
    transactions_in_order : the result
-/

namespace BlizzLike

variable {Thread Sql σ : Type*}

/-! ## What threads have issued -/

namespace DbEvent

variable [DecidableEq Thread] (t : Thread)

/-- The statement that a thread executes. -/
def statementOf : DbEvent Thread Sql → Option Sql
  | .execute t' s => if t' = t then some s else none
  | _ => none

/-- It is `BeginTransaction` of the thread. -/
def begins : DbEvent Thread Sql → Bool
  | .beginTransaction t' => t' == t
  | _ => false

/-- A transaction of the thread begins or ends. -/
def bounds : DbEvent Thread Sql → Bool
  | .beginTransaction t' => t' == t
  | .commitTransaction t' => t' == t
  | .rollbackTransaction t' => t' == t
  | _ => false

end DbEvent

variable [DecidableEq Thread]

/-- A thread is in a transaction, and these are its statements since its last `BeginTransaction`. -/
def OpenSince (t : Thread) (es : List (DbEvent Thread Sql)) (queue : List Sql) : Prop :=
  ∃ before since, es = before ++ .beginTransaction t :: since ∧ (∀ e ∈ since, e.bounds t = false) ∧
    queue = since.filterMap (DbEvent.statementOf t)

/-- A thread is in a transaction, and these are its statements since its first `BeginTransaction` that was not
followed by an end. -/
def OpenSinceFirst (t : Thread) (es : List (DbEvent Thread Sql)) (queue : List Sql) : Prop :=
  ∃ before since, es = before ++ .beginTransaction t :: since ∧ (∀ queue', ¬OpenSince t before queue') ∧
    (∀ e ∈ since, e ≠ .commitTransaction t ∧ e ≠ .rollbackTransaction t) ∧
    queue = since.filterMap (DbEvent.statementOf t)

/-- An event hands an operation to the delay thread: a statement outside a transaction or a transaction. -/
inductive Hands (es : List (DbEvent Thread Sql)) : DbEvent Thread Sql → SqlOperation Sql → Prop where
  | statement {t : Thread} {s : Sql} (h : ∀ queue, ¬OpenSince t es queue) : Hands es (.execute t s) (.statement s)
  | transaction {t : Thread} {queue : List Sql} (h : OpenSince t es queue) :
      Hands es (.commitTransaction t) (.transaction queue)

/-- What is sent for an operation: a statement once, or the statements of a transaction in order, until one fails. -/
inductive Script : SqlOperation Sql → List (SqlRequest Sql) → Prop where
  | statement (s : Sql) : Script (.statement s) [.sql s]
  | empty : Script (.transaction []) []
  | committed {queue : List Sql} (h : queue ≠ []) :
      Script (.transaction queue) (.startTransaction :: queue.map .sql ++ [.commit])
  | rolledBack (done : List Sql) (s : Sql) (rest : List Sql) :
      Script (.transaction (done ++ s :: rest)) (.startTransaction :: (done ++ [s]).map .sql ++ [.rollback])

namespace Database

variable {apply : Sql → σ → Option σ} {d : Database Thread Sql σ} {t : Thread} {es : List (DbEvent Thread Sql)}
  {e : DbEvent Thread Sql} {queue : List Sql}

/-! ## Open transactions -/

theorem begins_iff : e.begins t = true ↔ e = .beginTransaction t := by
  cases e <;> simp [DbEvent.begins]

theorem openSince_begin : OpenSince t (es ++ [.beginTransaction t]) queue ↔ queue = [] := by
  constructor
  · rintro ⟨before, since, hes, hsince, rfl⟩
    rcases List.eq_nil_or_concat since with rfl | ⟨since, e, rfl⟩
    · rfl
    · rw [List.concat_eq_append, ← List.cons_append, ← List.append_assoc] at hes
      obtain ⟨-, he⟩ := List.append_inj' hes rfl
      have hbound := hsince e (by simp)
      rw [← List.singleton_inj.1 he, DbEvent.bounds] at hbound
      simp at hbound
  · rintro rfl
    exact ⟨es, [], rfl, fun _ he => absurd he List.not_mem_nil, rfl⟩

theorem openSince_append (h : e ≠ .beginTransaction t) : OpenSince t (es ++ [e]) queue ↔
    e.bounds t = false ∧ ∃ queue', OpenSince t es queue' ∧ queue = queue' ++ (e.statementOf t).toList := by
  constructor
  · rintro ⟨before, since, hes, hsince, rfl⟩
    rcases List.eq_nil_or_concat since with rfl | ⟨since, e', rfl⟩
    · obtain ⟨-, he⟩ := List.append_inj' hes rfl
      exact absurd (List.singleton_inj.1 he) h
    · rw [List.concat_eq_append, ← List.cons_append, ← List.append_assoc] at hes
      obtain ⟨hes', he⟩ := List.append_inj' hes rfl
      cases List.singleton_inj.1 he
      refine ⟨hsince e (by simp), _, ⟨before, since, hes', fun x hx => hsince x (by simp [hx]), rfl⟩, ?_⟩
      rw [List.concat_eq_append, List.filterMap_append]
      rfl
  · rintro ⟨hbound, queue', ⟨before, since, rfl, hsince, rfl⟩, rfl⟩
    refine ⟨before, since ++ [e], by simp, fun x hx => ?_, ?_⟩
    · rcases List.mem_append.1 hx with hx | hx
      · exact hsince x hx
      · rw [List.mem_singleton.1 hx]
        exact hbound
    · rw [List.filterMap_append]
      rfl

omit [DecidableEq Thread] in
@[simp] theorem delay_tranQueues (op : SqlOperation Sql) : (d.delay op).tranQueues = d.tranQueues := by
  unfold delay
  split <;> rfl

theorem step_tranQueues (e : DbEvent Thread Sql) (t : Thread) : (d.step apply e).tranQueues t =
    if e.begins t then some []
    else if e.bounds t then none
    else (d.tranQueues t).map fun queue => queue ++ (e.statementOf t).toList := by
  have hsame : ∀ x : Option (List Sql), x = x.map fun queue => queue ++ (none : Option Sql).toList := by
    intro x
    cases x <;> simp
  cases e with
  | execute t' s =>
    simp only [DbEvent.begins, DbEvent.bounds, Bool.false_eq_true, if_false, step, execute, DbEvent.statementOf]
    by_cases ht : t' = t
    · subst ht
      cases hq : d.tranQueues t' with
      | none => simp [hq]
      | some queue => simp [setTranQueue]
    · rw [if_neg ht]
      cases hq : d.tranQueues t' with
      | none => exact Eq.trans (by simp) (hsame _)
      | some queue => exact Eq.trans (by simp [setTranQueue, Ne.symm ht]) (hsame _)
  | beginTransaction t' =>
    by_cases ht : t' = t
    · subst ht
      simp [step, beginTransaction, setTranQueue, DbEvent.begins]
    · have hbeq : (t' == t) = false := by simpa using ht
      simp only [DbEvent.begins, DbEvent.bounds, hbeq, Bool.false_eq_true, if_false]
      exact Eq.trans (by simp [step, beginTransaction, setTranQueue, Ne.symm ht]) (hsame _)
  | commitTransaction t' =>
    simp only [DbEvent.begins, DbEvent.bounds, Bool.false_eq_true, if_false, step, commitTransaction]
    by_cases ht : t' = t
    · subst ht
      cases hq : d.tranQueues t' with
      | none => simp [hq]
      | some queue => simp [setTranQueue]
    · have hbeq : (t' == t) = false := by simpa using ht
      simp only [hbeq, Bool.false_eq_true, if_false]
      refine Eq.trans ?_ (hsame _)
      cases hq : d.tranQueues t' with
      | none => rfl
      | some queue => simp [setTranQueue, Ne.symm ht]
  | rollbackTransaction t' =>
    simp only [DbEvent.begins, DbEvent.bounds, Bool.false_eq_true, if_false]
    by_cases ht : t' = t
    · subst ht
      simp [step, rollbackTransaction, setTranQueue]
    · have hbeq : (t' == t) = false := by simpa using ht
      simp only [hbeq, Bool.false_eq_true, if_false]
      exact Eq.trans (by simp [step, rollbackTransaction, setTranQueue, Ne.symm ht]) (hsame _)
  | direct t' s fails => exact hsame _
  | stopRunning => exact hsame _
  | deactivate => exact hsame _
  | work fails =>
    refine Eq.trans ?_ (hsame _)
    simp only [step, work]
    split <;> try rfl
    split
    · split <;> rfl
    · rfl

/-- **The queue of a thread** has what it has issued since its last `BeginTransaction`. -/
theorem tranQueues_iff (d : Database Thread Sql σ) (hd : d.tranQueues t = none) :
    (Transition.run (step apply) d es).tranQueues t = some queue ↔ OpenSince t es queue := by
  induction es using List.reverseRecOn generalizing queue with
  | nil =>
    rw [Transition.run, hd]
    constructor
    · rintro ⟨⟩
    · rintro ⟨before, since, hes, -⟩
      simp at hes
  | append_singleton es e ih =>
    rw [Transition.run_append]
    simp only [Transition.run]
    rw [step_tranQueues]
    by_cases hbegin : e.begins t = true
    · rw [if_pos hbegin, begins_iff.1 hbegin, openSince_begin, Option.some_inj]
      exact eq_comm
    · rw [if_neg hbegin, openSince_append fun he => hbegin (begins_iff.2 he)]
      split
      · next hbound => simp [hbound]
      · next hbound =>
        rw [Option.map_eq_some_iff]
        simp only [ih, Bool.not_eq_true] at hbound ⊢
        constructor
        · rintro ⟨queue', hq, he⟩
          exact ⟨hbound, queue', hq, he.symm⟩
        · rintro ⟨-, queue', hq, he⟩
          exact ⟨queue', hq, he.symm⟩

/-! ## What is handed over -/

/-- The operation that an event hands over, by the queues. -/
def handover (d : Database Thread Sql σ) : DbEvent Thread Sql → Option (SqlOperation Sql)
  | .execute t s => if (d.tranQueues t).isSome then none else some (.statement s)
  | .commitTransaction t => (d.tranQueues t).map .transaction
  | _ => none

omit [DecidableEq Thread] in
theorem delay_handed (op : SqlOperation Sql) :
    (d.delay op).handed = d.handed ++ if d.active then [op] else [] := by
  unfold delay
  split <;> simp

theorem step_handed (e : DbEvent Thread Sql) :
    (d.step apply e).handed = d.handed ++ if d.active then (handover d e).toList else [] := by
  cases e with
  | execute t s =>
    simp only [step, execute, handover]
    cases hq : d.tranQueues t with
    | none => simp [delay_handed]
    | some queue => simp [setTranQueue]
  | commitTransaction t =>
    simp only [step, commitTransaction, handover]
    cases hq : d.tranQueues t with
    | none => simp
    | some queue => simp [setTranQueue, delay_handed]
  | work fails =>
    simp only [step, work, handover, Option.toList_none, ite_self, List.append_nil]
    split <;> try rfl
    split
    · split <;> rfl
    · rfl
  | beginTransaction t => simp [step, handover, beginTransaction, setTranQueue]
  | rollbackTransaction t => simp [step, handover, rollbackTransaction, setTranQueue]
  | direct t s fails => simp [step, handover]
  | stopRunning => simp [step, handover]
  | deactivate => simp [step, handover]

theorem hands_iff (hd : ∀ t, d.tranQueues t = none) (op : SqlOperation Sql) :
    Hands es e op ↔ handover (Transition.run (step apply) d es) e = some op := by
  have hopen : ∀ t queue, (Transition.run (step apply) d es).tranQueues t = some queue ↔ OpenSince t es queue :=
    fun t queue => tranQueues_iff d (hd t)
  constructor
  · rintro (hnone | hqueue)
    · simp only [handover]
      rw [if_neg]
      rw [Option.isSome_iff_exists]
      rintro ⟨queue, hq⟩
      exact hnone queue ((hopen _ _).1 hq)
    · simp only [handover, (hopen _ _).2 hqueue, Option.map_some]
  · intro h
    unfold handover at h
    split at h
    · split at h
      · cases h
      · next hq =>
        cases h
        exact .statement fun queue hqueue => hq (by rw [(hopen _ _).2 hqueue]; rfl)
    · obtain ⟨queue, hq, rfl⟩ := Option.map_eq_some_iff.1 h
      exact .transaction ((hopen _ _).1 hq)
    · cases h

theorem step_stop (e : DbEvent Thread Sql) : (e ≠ .deactivate → (d.step apply e).active = d.active) ∧
    (e ≠ .stopRunning → (d.step apply e).running = d.running) := by
  have hdelay : ∀ op, (d.delay op).active = d.active ∧ (d.delay op).running = d.running := by
    intro op
    unfold delay
    split <;> exact ⟨rfl, rfl⟩
  cases e with
  | execute t s =>
    simp only [step, execute, setTranQueue]
    split
    · exact ⟨fun _ => rfl, fun _ => rfl⟩
    · exact ⟨fun _ => (hdelay _).1, fun _ => (hdelay _).2⟩
  | commitTransaction t =>
    simp only [step, commitTransaction, setTranQueue]
    split
    · exact ⟨fun _ => (hdelay _).1, fun _ => (hdelay _).2⟩
    · exact ⟨fun _ => rfl, fun _ => rfl⟩
  | work fails =>
    simp only [step, work]
    split <;> try exact ⟨fun _ => rfl, fun _ => rfl⟩
    split
    · split <;> exact ⟨fun _ => rfl, fun _ => rfl⟩
    · exact ⟨fun _ => rfl, fun _ => rfl⟩
  | beginTransaction t => exact ⟨fun _ => rfl, fun _ => rfl⟩
  | rollbackTransaction t => exact ⟨fun _ => rfl, fun _ => rfl⟩
  | direct t s fails => exact ⟨fun _ => rfl, fun _ => rfl⟩
  | stopRunning => exact ⟨fun _ => rfl, fun h => absurd rfl h⟩
  | deactivate => exact ⟨fun h => absurd rfl h, fun _ => rfl⟩

theorem active_of_run (hd : d.active = true) (h : .deactivate ∉ es) : (Transition.run (step apply) d es).active = true := by
  induction es generalizing d with
  | nil => exact hd
  | cons e es ih =>
    refine ih (((step_stop e).1 ?_).trans hd) fun hmem => h (List.mem_cons_of_mem _ hmem)
    rintro rfl
    exact h List.mem_cons_self

/-! ## What is executed -/

/-- What has been sent for the operation that is being called. -/
inductive Partly : DelayPoint Sql → Option (SqlOperation Sql) → List (SqlRequest Sql) → Prop where
  | looping : Partly .looping none []
  | dequeuing : Partly .dequeuing none []
  | ended : Partly .ended none []
  | statement (s : Sql) : Partly (.statement s) (some (.statement s)) []
  | starting (queue : List Sql) : Partly (.starting queue) (some (.transaction queue)) []
  | inside (done rest : List Sql) (h : done ++ rest ≠ []) :
      Partly (.inside rest) (some (.transaction (done ++ rest))) (.startTransaction :: done.map .sql)
  | rollingBack (done : List Sql) (s : Sql) (rest : List Sql) :
      Partly .rollingBack (some (.transaction (done ++ s :: rest))) (.startTransaction :: (done ++ [s]).map .sql)

/-- The operations are called in the order in which they were handed over, each once and none skipped, and what is
sent is what is to be sent for each. -/
structure InOrder (d : Database Thread Sql σ) : Prop where
  order : d.called ++ d.calling.toList ++ d.queue = d.handed
  scripts : ∃ scripts now, List.Forall₂ Script d.called scripts ∧ Partly d.point d.calling now ∧
    d.sent = scripts.flatten ++ now

omit [DecidableEq Thread] in
theorem finish_inOrder {op : SqlOperation Sql} {all : List (SqlRequest Sql)} {scripts : List (List (SqlRequest Sql))}
    (hcalling : d.calling = some op) (horder : d.called ++ [op] ++ d.queue = d.handed)
    (hscripts : List.Forall₂ Script d.called scripts) (hall : Script op all) (hsent : d.sent = scripts.flatten ++ all) :
    InOrder d.finish := by
  refine ⟨?_, scripts ++ [all], [], ?_, .looping, ?_⟩
  · simpa [finish, hcalling] using horder
  · simp only [finish, hcalling, Option.toList_some]
    exact List.rel_append hscripts (.cons hall .nil)
  · simp [finish, hsent]

omit [DecidableEq Thread] in
/-- **The delay thread** goes on with the operation, or takes the next. -/
theorem work_inOrder (h : InOrder d) (fails : Bool) : InOrder (d.work apply fails) := by
  obtain ⟨horder, scripts, now, hscripts, hpartly, hsent⟩ := h
  obtain ⟨connection, tranQueues, queue, active, running, point, handed, calling, called, sent⟩ := d
  dsimp only at horder hscripts hpartly hsent
  subst hsent
  cases hpartly with
  | looping =>
    simp only [work]
    refine ⟨horder, scripts, [], hscripts, ?_, rfl⟩
    dsimp only
    split
    · exact .dequeuing
    · exact .ended
  | dequeuing =>
    simp only [work]
    split
    · split
      · exact ⟨horder, scripts, [], hscripts, .dequeuing, rfl⟩
      · next op rest =>
        refine ⟨?_, scripts, [], hscripts, ?_, rfl⟩
        · rw [← horder]
          simp
        · cases op with
          | statement s => exact .statement s
          | transaction queue => exact .starting queue
    · exact ⟨horder, scripts, [], hscripts, .looping, rfl⟩
  | ended => exact ⟨horder, scripts, [], hscripts, .ended, rfl⟩
  | statement s => exact finish_inOrder rfl horder hscripts (.statement s) (by simp [send])
  | starting q =>
    cases q with
    | nil => exact finish_inOrder rfl horder hscripts .empty (by simp)
    | cons s q => exact ⟨horder, scripts, _, hscripts, .inside [] (s :: q) (by simp), by simp [work, send]⟩
  | inside done rest hne =>
    cases rest with
    | nil =>
      refine finish_inOrder rfl horder hscripts (.committed hne) ?_
      simp [send, List.append_assoc]
    | cons s rest =>
      refine ⟨horder, scripts, .startTransaction :: (done ++ [s]).map .sql, hscripts, ?_, by simp [work, send]⟩
      simp only [work, send]
      split
      · have hmore := Partly.inside (done ++ [s]) rest (by simp)
        rwa [List.append_assoc, List.singleton_append] at hmore
      · exact .rollingBack done s rest
  | rollingBack done s rest =>
    refine finish_inOrder rfl horder hscripts (.rolledBack done s rest) ?_
    simp [send, List.append_assoc]

omit [DecidableEq Thread] in
theorem InOrder.others {d' : Database Thread Sql σ} (h : InOrder d) {ops : List (SqlOperation Sql)}
    (hqueue : d'.queue = d.queue ++ ops) (hhanded : d'.handed = d.handed ++ ops) (hcalled : d'.called = d.called)
    (hcalling : d'.calling = d.calling) (hpoint : d'.point = d.point) (hsent : d'.sent = d.sent) : InOrder d' := by
  refine ⟨?_, ?_⟩
  · rw [hqueue, hhanded, hcalled, hcalling, ← h.order, List.append_assoc]
    simp
  · rw [hcalled, hcalling, hpoint, hsent]
    exact h.scripts

omit [DecidableEq Thread] in
theorem delay_inOrder (h : InOrder d) (op : SqlOperation Sql) : InOrder (d.delay op) := by
  unfold delay
  split
  · exact h.others rfl rfl rfl rfl rfl rfl
  · exact h

theorem step_inOrder (h : InOrder d) (e : DbEvent Thread Sql) : InOrder (d.step apply e) := by
  have hset : ∀ {x : Database Thread Sql σ}, InOrder x → ∀ t queue, InOrder (x.setTranQueue t queue) := by
    intro x hx t queue
    exact hx.others (List.append_nil _).symm (List.append_nil _).symm rfl rfl rfl rfl
  cases e with
  | execute t s =>
    simp only [step, execute]
    split
    · exact hset h t _
    · exact delay_inOrder h _
  | beginTransaction t => exact hset h t _
  | commitTransaction t =>
    simp only [step, commitTransaction]
    split
    · exact hset (delay_inOrder h _) t _
    · exact h
  | rollbackTransaction t => exact hset h t _
  | direct t s fails => exact h.others (List.append_nil _).symm (List.append_nil _).symm rfl rfl rfl rfl
  | stopRunning => exact h.others (List.append_nil _).symm (List.append_nil _).symm rfl rfl rfl rfl
  | deactivate => exact h.others (List.append_nil _).symm (List.append_nil _).symm rfl rfl rfl rfl
  | work fails => exact work_inOrder h fails

/-! ## That all is executed -/

/-- How many steps the delay thread has to do until it waits for more. -/
def stepsLeft : DelayPoint Sql → Nat
  | .looping => 1
  | .dequeuing => 0
  | .statement _ => 2
  | .starting queue => queue.length + 3
  | .inside queue => queue.length + 2
  | .rollingBack => 2
  | .ended => 0

def workLeft (d : Database Thread Sql σ) : Nat :=
  stepsLeft d.point + (d.queue.map fun op => stepsLeft op.point + 1).sum

/-- The delay thread is not stopped. -/
structure Runs (d : Database Thread Sql σ) : Prop where
  active : d.active = true
  running : d.running = true
  goesOn : d.point ≠ .ended

variable (apply) in
omit [DecidableEq Thread] in
theorem work_runs (h : Runs d) (fails : Bool) : Runs (d.work apply fails) ∧ (d.work apply fails).handed = d.handed ∧
    workLeft (d.work apply fails) ≤ workLeft d - 1 := by
  obtain ⟨hactive, hrunning, hpoint⟩ := h
  unfold work
  split
  · next hp => exact ⟨⟨hactive, hrunning, by simp [hrunning]⟩, rfl, by simp [workLeft, hp, hrunning, stepsLeft]⟩
  · next hp =>
    rw [if_pos hactive]
    split
    · next hq => exact ⟨⟨hactive, hrunning, hpoint⟩, rfl, by simp [workLeft, hp, hq, stepsLeft]⟩
    · next op rest hq =>
      refine ⟨⟨hactive, hrunning, ?_⟩, rfl, ?_⟩
      · cases op <;> simp [SqlOperation.point]
      · simp only [workLeft, hp, hq, stepsLeft, List.map_cons, List.sum_cons]
        omega
  · next s hp => exact ⟨⟨hactive, hrunning, by simp [finish]⟩, rfl, by simp [workLeft, finish, send, hp, stepsLeft]⟩
  · next hp => exact ⟨⟨hactive, hrunning, by simp [finish]⟩, rfl, by simp [workLeft, finish, hp, stepsLeft]⟩
  · next queue hq hp =>
    exact ⟨⟨hactive, hrunning, by simp [send]⟩, rfl, by simp [workLeft, send, hp, stepsLeft]⟩
  · next hp => exact ⟨⟨hactive, hrunning, by simp [finish]⟩, rfl, by simp [workLeft, finish, send, hp, stepsLeft]⟩
  · next s rest hp =>
    refine ⟨⟨hactive, hrunning, ?_⟩, rfl, ?_⟩
    · simp only [send]
      split <;> simp
    · have hle : ∀ ok : Bool, stepsLeft (if ok then .inside rest else .rollingBack) ≤ rest.length + 2 := by
        intro ok
        cases ok <;> simp [stepsLeft]
      have hnext := hle (d.connection.directExecute apply fails (.sql s)).1
      have hnow : stepsLeft d.point = rest.length + 3 := by rw [hp]; rfl
      simp only [workLeft, send]
      omega
  · next hp => exact ⟨⟨hactive, hrunning, by simp [finish]⟩, rfl, by simp [workLeft, finish, send, hp, stepsLeft]⟩
  · next hp => exact absurd hp hpoint

theorem runs_of_run (h : Runs d) (hstop : .deactivate ∉ es) (hrun : .stopRunning ∉ es) :
    Runs (Transition.run (step apply) d es) := by
  induction es generalizing d with
  | nil => exact h
  | cons e es ih =>
    refine ih ⟨((step_stop e).1 ?_).trans h.active, ((step_stop e).2 ?_).trans h.running, ?_⟩
      (fun hmem => hstop (List.mem_cons_of_mem _ hmem)) fun hmem => hrun (List.mem_cons_of_mem _ hmem)
    · rintro rfl
      exact hstop List.mem_cons_self
    · rintro rfl
      exact hrun List.mem_cons_self
    · have hdelay : ∀ op, (d.delay op).point = d.point := by
        intro op
        unfold delay
        split <;> rfl
      cases e with
      | work fails => exact (work_runs apply h fails).1.goesOn
      | execute t s =>
        simp only [step, execute, setTranQueue]
        split
        · exact h.goesOn
        · rw [hdelay]
          exact h.goesOn
      | commitTransaction t =>
        simp only [step, commitTransaction, setTranQueue]
        split
        · rw [hdelay]
          exact h.goesOn
        · exact h.goesOn
      | beginTransaction t => exact h.goesOn
      | rollbackTransaction t => exact h.goesOn
      | direct t s fails => exact h.goesOn
      | stopRunning => exact h.goesOn
      | deactivate => exact h.goesOn

theorem works_off (fails : List Bool) (hr : Runs d) (ho : InOrder d) (hn : workLeft d ≤ fails.length) :
    (Transition.run (step apply) d (fails.map .work)).called = d.handed := by
  induction fails generalizing d with
  | nil =>
    have hzero : workLeft d = 0 := Nat.le_zero.1 hn
    have hq : d.queue = [] := by
      cases hq : d.queue with
      | nil => rfl
      | cons op rest => simp [workLeft, hq] at hzero
    have hidle : d.calling = none := by
      obtain ⟨-, scripts, now, -, hpartly, -⟩ := ho
      have hsteps : stepsLeft d.point = 0 := by
        unfold workLeft at hzero
        omega
      generalize d.point = point, d.calling = calling at *
      cases hpartly <;> first | rfl | simp [stepsLeft] at hsteps
    have horder := ho.order
    rw [hq, hidle] at horder
    simpa [Transition.run] using horder
  | cons f fails ih =>
    obtain ⟨hruns, hhanded, hleft⟩ := work_runs apply hr f
    rw [List.length_cons] at hn
    rw [← hhanded]
    exact ih hruns (work_inOrder ho f) (Nat.le_trans hleft (by omega))

/-! ## Runs -/

/-- A server whose threads have not issued anything. -/
def start (connection : SqlConnection σ) : Database Thread Sql σ := { connection := connection }

omit [DecidableEq Thread] in
theorem start_inOrder (connection : SqlConnection σ) : InOrder (start connection : Database Thread Sql σ) :=
  ⟨rfl, [], [], .nil, .looping, rfl⟩

/-- **Transactions are executed in order**, however the threads and the delay thread take turns.  What is executed is
what was handed over, in that order, each operation once and none skipped, and all of it when the delay thread goes
on and is not stopped; a statement outside a transaction is handed over, and a committed transaction with what its
thread has issued since its last `BeginTransaction`. -/
theorem transactions_in_order (apply : Sql → σ → Option σ) (connection : SqlConnection σ)
    (es : List (DbEvent Thread Sql)) :
    InOrder (Transition.run (step apply) (start connection) es) ∧
      (.deactivate ∉ es → ∀ e op, Hands es e op →
        (Transition.run (step apply) (start connection) (es ++ [e])).handed =
          (Transition.run (step apply) (start connection) es).handed ++ [op]) ∧
      (∀ e, (∀ op, ¬Hands es e op) → (Transition.run (step apply) (start connection) (es ++ [e])).handed =
        (Transition.run (step apply) (start connection) es).handed) ∧
      (.deactivate ∉ es → .stopRunning ∉ es → ∃ n, ∀ fails : List Bool, n ≤ fails.length →
        (Transition.run (step apply) (start connection) (es ++ fails.map .work)).called =
          (Transition.run (step apply) (start connection) es).handed) := by
  have hinOrder : InOrder (Transition.run (step apply) (start connection) es) :=
    Transition.invariant_run (I := InOrder) (fun _ e h => step_inOrder h e) (start_inOrder connection) es
  have hnone : ∀ t, (start connection : Database Thread Sql σ).tranQueues t = none := fun _ => rfl
  refine ⟨hinOrder, fun hstop e op hhands => ?_, fun e hhands => ?_, fun hstop hrun => ?_⟩
  · rw [Transition.run_append]
    simp only [Transition.run]
    rw [step_handed, if_pos (active_of_run rfl hstop), (hands_iff hnone op).1 hhands]
    rfl
  · rw [Transition.run_append]
    simp only [Transition.run]
    rw [step_handed]
    cases hover : handover (Transition.run (step apply) (start connection) es) e with
    | none => simp
    | some op => exact absurd ((hands_iff hnone op).2 hover) (hhands op)
  · refine ⟨workLeft (Transition.run (step apply) (start connection) es), fun fails hn => ?_⟩
    rw [Transition.run_append]
    have hruns : Runs (start connection : Database Thread Sql σ) := ⟨rfl, rfl, by simp [start]⟩
    exact works_off fails (runs_of_run hruns hstop hrun) hinOrder hn

/-- A transaction within a transaction. -/
def nested : List (DbEvent Nat Nat) := [.beginTransaction 1, .execute 1 10, .beginTransaction 1, .execute 1 20]

/-- The first statement is not in the transaction that is committed. -/
theorem nested_loses :
    ¬∀ (es : List (DbEvent Nat Nat)) t queue, OpenSinceFirst t es queue →
      (Transition.run (step fun _ => some) (start { store := 0 }) (es ++ [.commitTransaction t])).handed =
        (Transition.run (step fun _ => some) (start { store := 0 }) es).handed ++ [.transaction queue] := by
  intro h
  have hfirst : OpenSinceFirst 1 nested [10, 20] := by
    refine ⟨[], [.execute 1 10, .beginTransaction 1, .execute 1 20], rfl, ?_, by decide, rfl⟩
    rintro queue ⟨before, since, hes, -⟩
    simp at hes
  have hhanded := h nested 1 [10, 20] hfirst
  revert hhanded
  decide

end Database

end BlizzLike
