/-
**`notstd::task_queue` — the futures that `post` returns.**

`post` wraps its runnable in a `std::packaged_task` and returns the future of it. The task keeps its
promise when it has run, with an exception too; a task that is destroyed before it has run abandons
it, which the tasks left in `m_runnables` are when the queue is destroyed.

The futures here are a table beside the queue, in the order of the posts, so that a packaged task
is its position in the table and its runnable. `futures_settled`: the futures become ready in the
order of the posts; those that never do are of tasks that a cancel has left in `m_runnables`, and
they stay pending until the queue is destroyed.
-/

import NearObject.TaskQueue.Cancel
import NearObject.TaskQueue.Drain
import NearObject.TaskQueue.Progress
import NearObject.Transition.Promise

namespace NearObject.TaskQueue.Futures

open Transition
open Transition.Promise (Cell Event replay InOrder)

/-! ### The queue and its futures -/

/-- `std::packaged_task<void()>`. -/
structure PackagedTask (Runnable : Type) where
  promise : Nat
  runnable : Runnable
  deriving DecidableEq, Repr

structure State (Thread Runnable : Type) where
  queue : TaskQueue.State Thread (PackagedTask Runnable)
  futures : List (Cell Outcome)

def init (Thread Runnable : Type) : State Thread Runnable where
  queue := TaskQueue.init Thread (PackagedTask Runnable)
  futures := []

section

variable {Thread Runnable : Type}

/-- What a step does to the promises. -/
def promises (s : State Thread Runnable) :
    Label Thread (PackagedTask Runnable) → List (Event Outcome)
  | .post _ _ => [.make]
  | .finish task outcome => [.keep task.promise outcome]
  | .join caller =>
    match s.queue.call caller with
    -- with the queue go the tasks in `m_runnables`
    | .joining .destructor => s.queue.members.runnables.map fun task => .abandon task.promise
    | _ => []
  | _ => []

/-- A task that is posted has the next promise. -/
def Fresh (s : State Thread Runnable) : Label Thread (PackagedTask Runnable) → Prop
  | .post _ task => task.promise = s.futures.length
  | _ => True

instance (s : State Thread Runnable) (label : Label Thread (PackagedTask Runnable)) :
    Decidable (Fresh s label) := by
  unfold Fresh
  split <;> infer_instance

variable [DecidableEq Thread] [DecidableEq Runnable]

def step (s : State Thread Runnable) (label : Label Thread (PackagedTask Runnable)) :
    Option (State Thread Runnable) :=
  if Fresh s label then
    (TaskQueue.step s.queue label).map fun queue => ⟨queue, replay s.futures (promises s label)⟩
  else none

abbrev Step : State Thread Runnable → Label Thread (PackagedTask Runnable) →
    State Thread Runnable → Prop :=
  Next step

variable {s t : State Thread Runnable} {trace : List (Label Thread (PackagedTask Runnable))}

theorem step_iff {label : Label Thread (PackagedTask Runnable)} :
    Step s label t ↔ Fresh s label ∧ TaskQueue.Step s.queue label t.queue ∧
      t.futures = replay s.futures (promises s label) := by
  obtain ⟨queue, futures⟩ := t
  simp only [Next, step, Option.ite_none_right_eq_some, Option.map_eq_some_iff, State.mk.injEq]
  constructor
  · rintro ⟨fresh, _, taken, rfl, rfl⟩
    exact ⟨fresh, taken, rfl⟩
  · rintro ⟨fresh, taken, rfl⟩
    exact ⟨fresh, queue, taken, rfl, rfl⟩

/-- The queue takes no notice of the futures. -/
theorem queue_run (run : Run Step s trace t) : Run TaskQueue.Step s.queue trace t.queue := by
  induction run with
  | nil => exact .nil
  | snoc _ taken ih => exact ih.snoc (step_iff.mp taken).2.1

/-- A future that is no longer pending stays as it is. -/
theorem settled_run (run : Run Step s trace t) {promise : Nat} {future : Cell Outcome}
    (settled : future ≠ .pending) (here : s.futures[promise]? = some future) :
    t.futures[promise]? = some future := by
  induction run with
  | nil => exact here
  | snoc _ taken ih =>
    rw [(step_iff.mp taken).2.2]
    exact Promise.settled_replay settled _ ih

/-! ### A queue that is destroyed -/

variable {Task : Type} [DecidableEq Task] {q r : TaskQueue.State Thread Task}

/-- The worker has left before the queue is destroyed. -/
structure Outlived (q : TaskQueue.State Thread Task) : Prop where
  joined : q.joinable = false → q.worker = .exited
  destroyed : q.destroyed = true → q.worker = .exited
  worker : ∀ site, q.call .worker = .stopped site ∨ q.call .worker = .joining site →
    site ≠ .destructor

/-- No task destroys its own queue. -/
theorem worker_site {label : Label Thread Task} (taken : TaskQueue.Step q label r)
    (outlived : Outlived q) {site : StopSite}
    (inside : r.call .worker = .stopped site ∨ r.call .worker = .joining site) :
    site ≠ .destructor := by
  by_cases own : label.caller? = some .worker
  · cases label with
    | post caller task =>
      cases own
      obtain ⟨-, -, rfl⟩ := step_post.mp taken
      rw [setCall_call_self] at inside
      split at inside <;> simp at inside
    | refuse caller task =>
      obtain ⟨-, -, rfl⟩ := step_refuse.mp taken
      exact outlived.worker site inside
    | stop caller action within =>
      cases own
      obtain ⟨-, accepts, rfl⟩ := step_stop.mp taken
      obtain rfl : site = within := by simpa [eq_comm] using inside
      exact fun same => accepts.2 same rfl
    | notify caller =>
      cases own
      obtain ⟨-, rfl⟩ | ⟨within, stopped, rfl⟩ := step_notify.mp taken
      · simp at inside
      · rw [setCall_call_self] at inside
        have kept := outlived.worker within (.inl stopped)
        cases within <;> simp_all [StopSite.afterStop]
    | join caller =>
      cases own
      obtain ⟨within, -, -, rfl⟩ := step_join.mp taken
      simp at inside
    | _ => cases own
  · rw [call_frame taken own] at inside
    exact outlived.worker site inside

/-- The destructor returns after the worker has left. -/
theorem Outlived.left {caller : Caller Thread} (outlived : Outlived q)
    (taken : TaskQueue.Step q (.join caller) r)
    (destructing : q.call caller = .joining .destructor) : q.worker = .exited := by
  obtain ⟨site, -, waited, -⟩ := step_join.mp taken
  rcases waited with joined | rfl | left
  · exact outlived.joined joined
  · exact absurd rfl (outlived.worker _ (.inr destructing))
  · exact left

theorem outlived_step {label : Label Thread Task} (taken : TaskQueue.Step q label r)
    (outlived : Outlived q) : Outlived r where
  joined := fun joined =>
    exited_step taken ((joinable_step taken joined).elim outlived.joined id)
  destroyed := by
    intro destroyed
    refine exited_step taken ?_
    by_cases joins : ∃ caller, label = .join caller
    · obtain ⟨caller, rfl⟩ := joins
      obtain ⟨site, joining, -, rfl⟩ := step_join.mp taken
      have cases : q.destroyed = true ∨ site = .destructor := by
        simpa [State.joined] using destroyed
      rcases cases with before | rfl
      · exact outlived.destroyed before
      · exact outlived.left taken joining
    · rw [((flags_frame taken).2 fun caller same => joins ⟨caller, same⟩).2] at destroyed
      exact outlived.destroyed destroyed
  worker := fun _ inside => worker_site taken outlived inside

theorem outlived_run {trace : List (Label Thread Task)}
    (run : Run TaskQueue.Step (TaskQueue.init Thread Task) trace q) : Outlived q := by
  refine run.invariant Outlived ?_ fun _ _ _ outlived taken => outlived_step taken outlived
  constructor <;> simp [TaskQueue.init]

/-- The accepted tasks that have not finished, in the order of their posts. -/
def unfinished (q : TaskQueue.State Thread Task) : List Task :=
  q.worker.current.toList ++ q.pending

theorem accepted_eq {trace : List (Label Thread Task)}
    (run : Run TaskQueue.Step (TaskQueue.init Thread Task) trace q) :
    accepted trace = finished trace ++ unfinished q := by
  have conserved := pending_conserved run
  have unstarted : (TaskQueue.init Thread Task).pending = [] := rfl
  rw [unstarted, List.nil_append, begun_eq_finished run, List.append_assoc] at conserved
  exact conserved.symm

/-- What a step finishes was unfinished, and what it accepts is from there on. -/
theorem unfinished_step {trace : List (Label Thread Task)} {label : Label Thread Task}
    (run : Run TaskQueue.Step (TaskQueue.init Thread Task) trace q)
    (taken : TaskQueue.Step q label r) :
    finished [label] ++ unfinished r = unfinished q ++ accepted [label] := by
  have after := accepted_eq (run.snoc taken)
  rw [accepted_append, finished_append, accepted_eq run, List.append_assoc, List.append_assoc]
    at after
  exact (List.append_cancel_left after).symm

omit [DecidableEq Thread] [DecidableEq Task] in
/-- Once the worker has left, what is unfinished is in `m_runnables`. -/
theorem unfinished_left (left : q.worker = .exited) : unfinished q = q.members.runnables := by
  rw [unfinished, State.pending, left]
  rfl

omit [DecidableEq Thread] [DecidableEq Task] in
theorem ended_fst (trace : List (Label Thread Task)) :
    (ended trace).map Prod.fst = finished trace := by
  induction trace with
  | nil => rfl
  | cons label trace ih =>
    simp only [ended, finished] at ih
    cases label <;> simp [ended, finished, ih]

/-! ### The futures in order -/

/-- What the futures of unfinished tasks are. -/
def rest (q : TaskQueue.State Thread Task) : Cell Outcome :=
  if q.destroyed then .broken else .pending

/-- How the finished tasks ended. -/
def outcomes (trace : List (Label Thread Task)) : List Outcome :=
  (ended trace).map Prod.snd

omit [DecidableEq Thread] [DecidableEq Task] in
theorem length_outcomes (trace : List (Label Thread Task)) :
    (outcomes trace).length = (finished trace).length := by
  rw [← ended_fst, outcomes, List.length_map, List.length_map]

omit [DecidableEq Thread] [DecidableEq Task] in
theorem outcomes_silent {label : Label Thread Task} (trace : List (Label Thread Task))
    (ends : ended [label] = []) : outcomes (trace ++ [label]) = outcomes trace := by
  rw [outcomes, ended_append, ends, List.append_nil]
  rfl

omit [DecidableEq Thread] [DecidableEq Task] in
theorem rest_of_present (present : q.destroyed = false) : rest q = .pending := by
  rw [rest, present]
  rfl

/-- Each accepted task has the promise of its own place, and the futures are in order. -/
structure Ordered (trace : List (Label Thread (PackagedTask Runnable)))
    (s : State Thread Runnable) : Prop where
  promises : (accepted trace).map PackagedTask.promise = List.range (accepted trace).length
  futures : InOrder (outcomes trace) (unfinished s.queue).length (rest s.queue) s.futures

/-- The promises of unfinished tasks are those after the ones that were kept. -/
theorem Ordered.unfinished (ordered : Ordered trace s)
    (run : Run TaskQueue.Step (TaskQueue.init Thread (PackagedTask Runnable)) trace s.queue) :
    (unfinished s.queue).map PackagedTask.promise =
      List.range' (outcomes trace).length (unfinished s.queue).length := by
  have numbered := ordered.promises
  rw [accepted_eq run, List.map_append, List.length_append, List.range_eq_range',
    ← List.range'_append_1, Nat.zero_add, ← length_outcomes] at numbered
  refine (List.append_inj numbered ?_).2
  rw [List.length_map, List.length_range', length_outcomes]

theorem Ordered.length (ordered : Ordered trace s)
    (run : Run TaskQueue.Step (TaskQueue.init Thread (PackagedTask Runnable)) trace s.queue) :
    s.futures.length = (accepted trace).length := by
  rw [ordered.futures.length, accepted_eq run, List.length_append, length_outcomes]

omit [DecidableEq Thread] [DecidableEq Runnable] in
theorem Ordered.promises_silent {label : Label Thread (PackagedTask Runnable)}
    (ordered : Ordered trace s) (accepts : accepted [label] = []) :
    (accepted (trace ++ [label])).map PackagedTask.promise =
      List.range (accepted (trace ++ [label])).length := by
  rw [accepted_append, accepts, List.append_nil]
  exact ordered.promises

/-- A step that neither accepts nor finishes a task, and does not destroy the queue. -/
theorem Ordered.silent {label : Label Thread (PackagedTask Runnable)} (ordered : Ordered trace s)
    (run : Run TaskQueue.Step (TaskQueue.init Thread (PackagedTask Runnable)) trace s.queue)
    (taken : TaskQueue.Step s.queue label t.queue) (same : t.futures = s.futures)
    (accepts : accepted [label] = []) (ends : ended [label] = [])
    (destroyed : t.queue.destroyed = s.queue.destroyed) : Ordered (trace ++ [label]) t := by
  have finishes : finished [label] = [] := by rw [← ended_fst, ends, List.map_nil]
  have left := unfinished_step run taken
  rw [finishes, accepts, List.nil_append, List.append_nil] at left
  refine ⟨ordered.promises_silent accepts, ?_⟩
  rw [outcomes_silent trace ends, left, rest, destroyed, same]
  exact ordered.futures

theorem ordered_post {caller : Caller Thread} {task : PackagedTask Runnable}
    (run : Run TaskQueue.Step (TaskQueue.init Thread (PackagedTask Runnable)) trace s.queue)
    (ordered : Ordered trace s) (taken : Step s (.post caller task) t) :
    Ordered (trace ++ [.post caller task]) t := by
  obtain ⟨fresh, moves, futures⟩ := step_iff.mp taken
  obtain ⟨⟨-, present, -⟩, -, shape⟩ := step_post.mp moves
  have kept : t.queue.destroyed = false := by rw [shape]; exact present
  have more : unfinished t.queue = unfinished s.queue ++ [task] := unfinished_step run moves
  have inOrder := ordered.futures
  rw [rest_of_present present] at inOrder
  refine ⟨?_, ?_⟩
  · have number : task.promise = (accepted trace).length := fresh.trans (ordered.length run)
    show (accepted (trace ++ [.post caller task])).map _ = List.range (accepted _).length
    rw [accepted_append, List.map_append, ordered.promises, List.length_append]
    show _ ++ [task.promise] = List.range ((accepted trace).length + 1)
    rw [List.range_succ, number]
  · rw [outcomes_silent trace rfl, more, List.length_append, rest_of_present kept, futures]
    exact inOrder.make

theorem ordered_finish {task : PackagedTask Runnable} {outcome : Outcome}
    (run : Run TaskQueue.Step (TaskQueue.init Thread (PackagedTask Runnable)) trace s.queue)
    (ordered : Ordered trace s) (taken : Step s (.finish task outcome) t) :
    Ordered (trace ++ [.finish task outcome]) t := by
  obtain ⟨-, moves, futures⟩ := step_iff.mp taken
  obtain ⟨tasks, executing, -, shape⟩ := step_finish.mp moves
  have present : s.queue.destroyed = false := by
    by_contra destroyed
    have gone := (outlived_run run).destroyed ((Bool.not_eq_false _).mp destroyed)
    rw [gone] at executing
    cases executing
  have kept : t.queue.destroyed = false := by rw [shape]; exact present
  have first : task :: unfinished t.queue = unfinished s.queue :=
    (unfinished_step run moves).trans (List.append_nil _)
  -- the task at the front holds the next promise
  have numbers := ordered.unfinished run
  rw [← first, List.length_cons, List.map_cons, List.range'_succ] at numbers
  have number : task.promise = (outcomes trace).length := (List.cons.inj numbers).1
  have inOrder := ordered.futures
  rw [rest_of_present present, ← first] at inOrder
  have more : outcomes (trace ++ [.finish task outcome]) = outcomes trace ++ [outcome] := by
    rw [outcomes, ended_append, List.map_append]
    rfl
  refine ⟨ordered.promises_silent rfl, ?_⟩
  rw [more, rest_of_present kept, futures]
  show InOrder _ _ .pending (Promise.apply s.futures (.keep task.promise outcome))
  rw [number]
  exact inOrder.keep outcome

theorem ordered_join {caller : Caller Thread}
    (run : Run TaskQueue.Step (TaskQueue.init Thread (PackagedTask Runnable)) trace s.queue)
    (ordered : Ordered trace s) (taken : Step s (.join caller) t) :
    Ordered (trace ++ [.join caller]) t := by
  obtain ⟨-, moves, futures⟩ := step_iff.mp taken
  obtain ⟨site, joining, -, shape⟩ := step_join.mp moves
  by_cases destructing : site = .destructor
  · rw [destructing] at joining
    have gone := (outlived_run run).left moves joining
    have unchanged : unfinished t.queue = unfinished s.queue :=
      (unfinished_step run moves).trans (List.append_nil _)
    have destroyed : t.queue.destroyed = true := by
      rw [shape, destructing]
      simp [State.joined]
    -- what is destroyed with the queue are the promises of all that is left in it
    have abandons : promises s (.join caller) =
        (List.range' (outcomes trace).length (unfinished s.queue).length).map .abandon := by
      rw [promises, joining, ← ordered.unfinished run, unfinished_left gone, List.map_map]
      rfl
    have broken : (rest s.queue).abandon = .broken := by
      unfold rest
      split <;> rfl
    refine ⟨ordered.promises_silent rfl, ?_⟩
    rw [outcomes_silent trace rfl, unchanged, rest, destroyed, futures, abandons, if_pos rfl,
      ← broken]
    exact ordered.futures.abandon
  · refine ordered.silent run moves ?_ rfl rfl ?_
    · rw [futures, promises, joining]
      cases site with
      | destructor => exact absurd rfl destructing
      | _ => rfl
    · rw [shape]
      simp [State.joined, destructing]

theorem ordered_step {label : Label Thread (PackagedTask Runnable)}
    (run : Run TaskQueue.Step (TaskQueue.init Thread (PackagedTask Runnable)) trace s.queue)
    (ordered : Ordered trace s) (taken : Step s label t) : Ordered (trace ++ [label]) t := by
  cases label with
  | post caller task => exact ordered_post run ordered taken
  | finish task outcome => exact ordered_finish run ordered taken
  | join caller => exact ordered_join run ordered taken
  | _ =>
    obtain ⟨-, moves, futures⟩ := step_iff.mp taken
    refine ordered.silent run moves futures rfl rfl ((flags_frame moves).2 ?_).2
    intro _ joins
    cases joins

theorem ordered_run (run : Run Step (init Thread Runnable) trace s) : Ordered trace s := by
  have initially : Ordered [] (init Thread Runnable) := ⟨rfl, rfl⟩
  exact run.history Ordered initially fun _ _ _ _ before ordered taken =>
    ordered_step (queue_run before) ordered taken

/-! ### Tasks that are left over -/

/-- The worker leaves a stop behind, and leaves tasks only after a cancel. -/
structure Leftovers (trace : List (Label Thread Task)) (q : TaskQueue.State Thread Task) :
    Prop where
  unborn : q.constructed = false → q.members.state = .stopped
  stopped : q.worker = .exited → q.members.isStopPending = true
  cancelled : q.worker = .exited → q.members.runnables = [] ∨
    ∃ caller site, .stop caller .cancel site ∈ trace

theorem unborn_step {label : Label Thread Task} (taken : TaskQueue.Step q label r)
    (unborn : q.constructed = false → q.members.state = .stopped) :
    r.constructed = false → r.members.state = .stopped := by
  intro fresh
  have before : q.constructed = false := Bool.eq_false_iff.mpr fun constructed => by
    simp [constructed_step taken constructed] at fresh
  rcases members_cases taken with ⟨caller, task, -, -, same⟩ | ⟨caller, action, site, rfl, -⟩ |
    ⟨rfl, -, -⟩ | ⟨-, -, -, -, same⟩ | ⟨-, same⟩
  · rw [same]
    exact unborn before
  · obtain ⟨⟨constructed, -⟩, -⟩ := step_stop.mp taken
    rw [before] at constructed
    cases constructed
  · obtain ⟨-, rfl⟩ := step_construct.mp taken
    cases fresh
  · rw [same]
    exact unborn before
  · rw [same]
    exact unborn before

/-- Nothing is posted after a stop. -/
theorem runnables_of_stopped {label : Label Thread Task} (taken : TaskQueue.Step q label r)
    (stopped : q.members.isStopPending = true) (empty : q.members.runnables = []) :
    r.members.runnables = [] := by
  rcases members_cases taken with ⟨caller, task, -, running, -⟩ | ⟨caller, action, site, -, same⟩ |
    ⟨-, -, same⟩ | ⟨-, -, -, -, same⟩ | ⟨-, same⟩
  · rw [stopped] at running
    cases running
  · rw [same, stop_runnables]
    exact empty
  · rw [same]
    exact empty
  · rw [same]
  · rw [same]
    exact empty

theorem leftovers_run {trace : List (Label Thread Task)}
    (run : Run TaskQueue.Step (TaskQueue.init Thread Task) trace q) : Leftovers trace q := by
  have initially : Leftovers [] (TaskQueue.init Thread Task) := by
    constructor <;> simp [TaskQueue.init]
  refine run.history Leftovers initially fun trace q label r before leftovers taken => ?_
  by_cases gone : q.worker = .exited
  · have stopped := leftovers.stopped gone
    have constructed : q.constructed = true := by
      by_contra fresh
      have state := leftovers.unborn (Bool.eq_false_iff.mpr fresh)
      simp [Members.isStopPending, state] at stopped
    refine ⟨unborn_step taken leftovers.unborn,
      fun _ => isStopPending_step taken constructed stopped,
      fun _ => (leftovers.cancelled gone).imp (runnables_of_stopped taken stopped) ?_⟩
    rintro ⟨caller, site, member⟩
    exact ⟨caller, site, List.mem_append_left _ member⟩
  · -- the worker leaves with this step
    have exit (left : r.worker = .exited) := exit_condition taken gone left
    refine ⟨unborn_step taken leftovers.unborn, fun left => ?_, fun left => ?_⟩
    · obtain ⟨exits, same⟩ := exit left
      rw [same]
      unfold Members.shouldQueueExit at exits
      unfold Members.isStopPending
      split at exits <;> simp_all
    · obtain ⟨exits, same⟩ := exit left
      rw [same]
      unfold Members.shouldQueueExit at exits
      split at exits
      · exact .inl (List.isEmpty_iff.mp exits)
      · rename_i canceling
        obtain ⟨early, caller, site, late, -, -, rfl, -⟩ := cancelledSince before canceling gone
        exact .inr ⟨caller, site, by simp⟩
      · cases exits

/-! ### Rest -/

/-- The futures do not keep the threads from a step of their own. -/
theorem atRest_queue (rest : AtRest Step Label.cost s) :
    AtRest TaskQueue.Step Label.cost s.queue := by
  rintro label q ⟨free, taken⟩
  refine rest label ⟨q, replay s.futures (promises s label)⟩ ⟨free, step_iff.mpr ⟨?_, taken, rfl⟩⟩
  unfold Fresh
  split
  · cases free
  · trivial

/-- At rest a future is pending only if the worker has left its task, and the queue is still
there. -/
theorem pending_of_rest (run : Run Step (init Thread Runnable) trace s)
    (rest : AtRest Step Label.cost s) (pending : Cell.pending ∈ s.futures) :
    s.queue.worker = .exited ∧ s.queue.destroyed = false ∧ s.queue.members.runnables ≠ [] := by
  have inner := queue_run run
  have quiet := quiet_of_rest (covered_run inner) (stopping_run inner) (atRest_queue rest)
  rw [(ordered_run run).futures] at pending
  have left : .pending ∈ List.replicate (unfinished s.queue).length (Futures.rest s.queue) := by
    simpa using pending
  obtain ⟨some, same⟩ := List.mem_replicate.mp left
  have present : s.queue.destroyed = false := by
    by_contra destroyed
    rw [Futures.rest, (Bool.not_eq_false _).mp destroyed] at same
    cases same
  have exited : s.queue.worker = .exited := by
    by_contra inside
    obtain ⟨blocked, empty, -⟩ := quiet.worker.resolve_left inside
    refine some ?_
    rw [unfinished, State.pending, blocked, empty]
    rfl
  rw [unfinished_left exited] at some
  exact ⟨exited, present, fun empty => some (by rw [empty]; rfl)⟩

/-- A future is broken only if its queue is destroyed with its task. -/
theorem left_of_broken (run : Run Step (init Thread Runnable) trace s)
    (broken : Cell.broken ∈ s.futures) :
    s.queue.worker = .exited ∧ s.queue.members.runnables ≠ [] := by
  rw [(ordered_run run).futures] at broken
  have left : .broken ∈ List.replicate (unfinished s.queue).length (rest s.queue) := by
    simpa using broken
  obtain ⟨some, same⟩ := List.mem_replicate.mp left
  have destroyed : s.queue.destroyed = true := by
    by_contra present
    rw [rest, Bool.eq_false_iff.mpr present] at same
    cases same
  have exited := (outlived_run (queue_run run)).destroyed destroyed
  rw [unfinished_left exited] at some
  exact ⟨exited, fun empty => some (by rw [empty]; rfl)⟩

/-- **The futures are settled in order.** Each is that of the post in its place; the first ones are
ready, with the outcomes of the tasks that have finished, and the others are pending, or broken once
the queue is destroyed. A future that is settled stays so. At rest one is pending only if its task
was left by the worker and the queue is still there; this, or a broken future, takes a cancel. -/
theorem futures_settled (run : Run Step (init Thread Runnable) trace s) :
    (accepted trace).map PackagedTask.promise = List.range s.futures.length ∧
      s.futures = (ended trace).map (fun ending => .ready ending.2) ++
        List.replicate (unfinished s.queue).length
          (if s.queue.destroyed then .broken else .pending) ∧
      (∀ late t (promise : Nat) future, Run Step s late t → s.futures[promise]? = some future →
        future ≠ Cell.pending → t.futures[promise]? = some future) ∧
      (AtRest Step Label.cost s → Cell.pending ∈ s.futures →
        s.queue.worker = .exited ∧ s.queue.destroyed = false) ∧
      (Cell.broken ∈ s.futures ∨ (AtRest Step Label.cost s ∧ Cell.pending ∈ s.futures) →
        ∃ caller site, .stop caller .cancel site ∈ trace) := by
  have ordered := ordered_run run
  have leftovers := leftovers_run (queue_run run)
  refine ⟨?_, ?_, fun late t promise future after here settled => settled_run after settled here,
    fun rest pending => ?_, ?_⟩
  · rw [ordered.length (queue_run run)]
    exact ordered.promises
  · have shape := ordered.futures
    rw [InOrder, outcomes, List.map_map] at shape
    exact shape
  · obtain ⟨exited, present, -⟩ := pending_of_rest run rest pending
    exact ⟨exited, present⟩
  · rintro (broken | ⟨rest, pending⟩)
    · obtain ⟨exited, some⟩ := left_of_broken run broken
      exact (leftovers.cancelled exited).resolve_left some
    · obtain ⟨exited, -, some⟩ := pending_of_rest run rest pending
      exact (leftovers.cancelled exited).resolve_left some

/-- A task that throws posts another one, which a cancel leaves in the queue. -/
def cancelledTrace : List (Label Nat (PackagedTask Nat)) :=
  [.construct, .post (.client 0) ⟨0, 7⟩, .notify (.client 0), .evaluate, .announce, .begin ⟨0, 7⟩,
    .post .worker ⟨1, 8⟩, .notify .worker, .stop (.client 0) .cancel .stop, .notify (.client 0),
    .finish ⟨0, 7⟩ .threw, .loop, .evaluate, .stop (.client 0) .run .destructor,
    .notify (.client 0), .join (.client 0)]

theorem futures_settled_cancelled : ∃ s, Run Step (init Nat Nat) cancelledTrace s ∧
    s.futures = [.ready .threw, .broken] ∧
    ∃ caller site, .stop caller .cancel site ∈ cancelledTrace := by
  have run : Run Step (init Nat Nat) cancelledTrace _ := run_of_execute rfl
  obtain ⟨-, -, -, -, cancelled⟩ := futures_settled run
  exact ⟨_, run, rfl, cancelled (.inl (by decide))⟩

end

end NearObject.TaskQueue.Futures
