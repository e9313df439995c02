/-
**`notstd::task_queue` — the code, and the threads that run it.**

`Members` holds what `m_runnables_changed_gate` guards, with the critical sections of `post`, `stop`
and `process_queue` as functions on it. `State` adds the threads: where the worker is in
`process_queue`, and where each caller is in a call on the queue. One label of `step` is one of

* a critical section, from taking the gate to releasing it;
* a `notify_all`, which every function issues after releasing the gate;
* blocking in `m_runnables_changed.wait`, which releases the gate, and waking from it;
* the beginning and the end of a task; a task that runs may itself call the queue.

The predicate of `wait` is evaluated in one step and the worker blocks in the next; between the two
it holds the gate (`Worker.waiting`), so no critical section comes between them, but a `notify_all`
may.
-/

import NearObject.Transition.Fifo
import Mathlib.Logic.Function.Basic

namespace NearObject.TaskQueue

/-! ### The members guarded by the gate -/

/-- `task_queue::pending_task_action`. -/
inductive PendingTaskAction
  | run
  | cancel
  deriving DecidableEq, Repr

/-- `task_queue::state`. -/
inductive QueueState
  | running
  | stopping
  | canceling
  | stopped
  deriving DecidableEq, Repr

/-- `m_runnables` and `m_state`. -/
structure Members (Task : Type) where
  runnables : List Task
  state : QueueState
  deriving DecidableEq, Repr

namespace Members

variable {Task : Type}

/-- `task_queue::should_queue_exit`. -/
def shouldQueueExit (members : Members Task) : Bool :=
  match members.state with
  | .stopping => members.runnables.isEmpty
  | .canceling => true
  | _ => false

/-- `task_queue::is_stop_pending`. -/
def isStopPending (members : Members Task) : Bool :=
  match members.state with
  | .stopping | .canceling => true
  | _ => false

/-- The critical section of `task_queue::stop`. -/
def stop (members : Members Task) : PendingTaskAction → Members Task
  | .cancel => { members with state := .canceling }
  | .run => { members with state := .stopping }

/-- The critical section of `task_queue::post`, with `was_empty`; `none` is the
`std::runtime_error` thrown while a stop is pending. -/
def post (members : Members Task) (task : Task) : Option (Members Task × Bool) :=
  if members.isStopPending then none
  else some ({ members with runnables := members.runnables ++ [task] }, members.runnables.isEmpty)

/-- The predicate that `process_queue` passes to `m_runnables_changed.wait`. -/
def waitPredicate (members : Members Task) : Bool :=
  !members.runnables.isEmpty || members.shouldQueueExit

end Members

/-- How the critical section of `process_queue` ends. -/
inductive Turn (Task : Type)
  | wait
  | exit
  | run (tasks : List Task)
  deriving DecidableEq, Repr

/-- The critical section of `task_queue::process_queue`: the wait predicate, the exit condition, and
the move of `m_runnables` into the local batch, which leaves `m_runnables` empty. -/
def Members.processQueue {Task : Type} (members : Members Task) : Members Task × Turn Task :=
  if members.waitPredicate then
    if members.shouldQueueExit then (members, .exit)
    else ({ members with runnables := [] }, .run members.runnables)
  else (members, .wait)

/-! ### The threads -/

/-- Where the worker is in `process_queue`. -/
inductive Worker (Task : Type)
  /-- Without the gate, about to take it and evaluate the wait predicate. -/
  | waking
  /-- The predicate was false; the gate is still held, and blocking is next. -/
  | waiting
  /-- Blocked in `wait`, not notified since. -/
  | blocked
  /-- The batch is moved out and the gate released; `notify_all` is next. -/
  | moved (tasks : List Task)
  /-- At the head of the inner loop. -/
  | draining (tasks : List Task)
  /-- In a task, with the rest of its batch. -/
  | executing (task : Task) (tasks : List Task)
  /-- Out of `process_queue`. -/
  | exited
  deriving DecidableEq, Repr

/-- Who calls the queue: a client thread, or the task that the worker is executing. -/
inductive Caller (Thread : Type)
  | client (thread : Thread)
  | worker
  deriving DecidableEq, Repr

/-- The function in whose body `stop` runs. The last two join the worker after it. -/
inductive StopSite
  | stop
  | stopAndWaitForTaskCompletion
  | destructor
  deriving DecidableEq, Repr

/-- Where a caller is in a call on the queue. -/
inductive Call
  | idle
  /-- `post` has pushed onto an empty queue and released the gate; `notify_all` is next. -/
  | pushed
  /-- `stop` has written `m_state` and released the gate; `notify_all` is next. -/
  | stopped (site : StopSite)
  /-- `stop` has returned to a function that joins the worker. -/
  | joining (site : StopSite)
  deriving DecidableEq, Repr

/-- How the execution of a `std::packaged_task` ends; an exception is stored in its future. -/
inductive Outcome
  | returned
  | threw
  deriving DecidableEq, Repr

/-- A task queue and its threads. `joinable` is `m_thread.joinable()`. -/
structure State (Thread Task : Type) where
  members : Members Task
  worker : Worker Task
  call : Caller Thread → Call
  joinable : Bool
  constructed : Bool
  destroyed : Bool

/-- The worker is started and the constructor has not yet written `m_state`. -/
def init (Thread Task : Type) : State Thread Task where
  members := { runnables := [], state := .stopped }
  worker := .waking
  call := fun _ => .idle
  joinable := true
  constructed := false
  destroyed := false

/-- The steps of the threads. -/
inductive Label (Thread Task : Type)
  /-- The constructor writes `m_state` and returns. -/
  | construct
  /-- `post` pushes a task. -/
  | post (caller : Caller Thread) (task : Task)
  /-- `post` throws. -/
  | refuse (caller : Caller Thread) (task : Task)
  | stop (caller : Caller Thread) (action : PendingTaskAction) (site : StopSite)
  /-- The `notify_all` of `post` or `stop`. -/
  | notify (caller : Caller Thread)
  /-- A function that joins the worker returns. -/
  | join (caller : Caller Thread)
  /-- The critical section of `process_queue`. -/
  | evaluate
  /-- `wait` releases the gate and blocks. -/
  | sleep
  | wakeSpuriously
  /-- The `notify_all` of `process_queue`. -/
  | announce
  | begin (task : Task)
  | finish (task : Task) (outcome : Outcome)
  /-- The batch is empty: back to the head of the outer loop. -/
  | loop
  deriving DecidableEq, Repr

section Steps

variable {Thread Task : Type} [DecidableEq Thread] [DecidableEq Task]

/-- The task that is executing, if any. -/
def Worker.current : Worker Task → Option Task
  | .executing task _ => some task
  | _ => none

/-- The tasks moved out of `m_runnables` and not yet begun. -/
def Worker.batch : Worker Task → List Task
  | .moved tasks | .draining tasks | .executing _ tasks => tasks
  | _ => []

/-- A caller is between two calls, the queue exists, and the gate is free. -/
def State.MayCall (s : State Thread Task) (caller : Caller Thread) : Prop :=
  s.constructed = true ∧ s.destroyed = false ∧ s.call caller = .idle ∧ s.worker ≠ .waiting ∧
    (caller = .worker → s.worker.current.isSome)

instance (s : State Thread Task) (caller : Caller Thread) : Decidable (s.MayCall caller) :=
  inferInstanceAs (Decidable (_ ∧ _ ∧ _ ∧ _ ∧ _))

def State.setCall (s : State Thread Task) (caller : Caller Thread) (call : Call) :
    State Thread Task :=
  { s with call := Function.update s.call caller call }

/-- `m_runnables_changed.notify_all()`. -/
def State.notifyAll (s : State Thread Task) : State Thread Task :=
  match s.worker with
  | .blocked => { s with worker := .waking }
  | _ => s

/-- Only `stop` passes an action other than the default one, and no task destroys its own queue. -/
def StopSite.Accepts (site : StopSite) (caller : Caller Thread) (action : PendingTaskAction) :
    Prop :=
  (site = .stop ∨ action = .run) ∧ (site = .destructor → caller ≠ .worker)

instance (site : StopSite) (caller : Caller Thread) (action : PendingTaskAction) :
    Decidable (site.Accepts caller action) :=
  inferInstanceAs (Decidable (_ ∧ _))

/-- After the `notify_all` of `stop`. -/
def StopSite.afterStop : StopSite → Call
  | .stop => .idle
  | site => .joining site

/-- `m_thread.join()` returns to this caller: at once where the thread is not joinable or is the
caller itself (the exception is swallowed), otherwise when the worker has left. -/
def State.JoinReturns (s : State Thread Task) (caller : Caller Thread) : Prop :=
  s.joinable = false ∨ caller = .worker ∨ s.worker = .exited

instance (s : State Thread Task) (caller : Caller Thread) : Decidable (s.JoinReturns caller) :=
  inferInstanceAs (Decidable (_ ∨ _ ∨ _))

/-- What a joining function leaves when it returns: a thread that is joined is no longer joinable,
and after the destructor there is no queue. -/
def State.joined (s : State Thread Task) (site : StopSite) : State Thread Task :=
  { s with
    joinable := s.joinable && decide (s.worker ≠ .exited)
    destroyed := s.destroyed || decide (site = .destructor) }

/-- **One step of the threads**, `none` where the label is not enabled. -/
def step (s : State Thread Task) : Label Thread Task → Option (State Thread Task)
  | .construct =>
    if s.constructed then none
    else some { s with members := { s.members with state := .running }, constructed := true }
  | .post caller task =>
    if s.MayCall caller then
      (s.members.post task).map fun (members, wasEmpty) =>
        { s with members }.setCall caller (if wasEmpty then .pushed else .idle)
    else none
  | .refuse caller task =>
    if s.MayCall caller ∧ (s.members.post task).isNone then some s else none
  | .stop caller action site =>
    if s.MayCall caller ∧ site.Accepts caller action then
      some ({ s with members := s.members.stop action }.setCall caller (.stopped site))
    else none
  | .notify caller =>
    match s.call caller with
    | .pushed => some (s.notifyAll.setCall caller .idle)
    | .stopped site => some (s.notifyAll.setCall caller site.afterStop)
    | _ => none
  | .join caller =>
    match s.call caller with
    | .joining site =>
      if s.JoinReturns caller then some ((s.joined site).setCall caller .idle) else none
    | _ => none
  | .evaluate =>
    match s.worker with
    | .waking =>
      match s.members.processQueue with
      | (members, .wait) => some { s with members, worker := .waiting }
      | (members, .exit) => some { s with members, worker := .exited }
      | (members, .run tasks) => some { s with members, worker := .moved tasks }
    | _ => none
  | .sleep =>
    match s.worker with
    | .waiting => some { s with worker := .blocked }
    | _ => none
  | .wakeSpuriously =>
    match s.worker with
    | .blocked => some { s with worker := .waking }
    | _ => none
  | .announce =>
    match s.worker with
    | .moved tasks => some { s with worker := .draining tasks }
    | _ => none
  | .begin task =>
    match s.worker with
    | .draining (front :: tasks) =>
      if front = task then some { s with worker := .executing task tasks } else none
    | _ => none
  | .finish task _ =>
    match s.worker with
    | .executing current tasks =>
      if current = task ∧ s.call .worker = .idle then some { s with worker := .draining tasks }
      else none
    | _ => none
  | .loop =>
    match s.worker with
    | .draining [] => some { s with worker := .waking }
    | _ => none

/-- The queue and its threads, as a system. -/
abbrev Step : State Thread Task → Label Thread Task → State Thread Task → Prop :=
  Transition.Next step

end Steps

/-! ### What a trace shows -/

section Observations

variable {Thread Task : Type}

/-- The tasks whose `post` pushed them, in push order. -/
def accepted (trace : List (Label Thread Task)) : List Task :=
  trace.filterMap fun
    | .post _ task => some task
    | _ => none

/-- The tasks whose execution has begun, in execution order. -/
def begun (trace : List (Label Thread Task)) : List Task :=
  trace.filterMap fun
    | .begin task => some task
    | _ => none

/-- The tasks whose execution has ended, in execution order. -/
def finished (trace : List (Label Thread Task)) : List Task :=
  trace.filterMap fun
    | .finish task _ => some task
    | _ => none

end Observations

end NearObject.TaskQueue
