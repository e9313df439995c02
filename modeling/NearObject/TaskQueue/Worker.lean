/-
**`notstd::task_queue` — the worker alone.**

`reaches_waking`: wherever the worker is in `process_queue`, its own steps bring it back to the head
of the loop. On the way it executes exactly the rest of its batch, in order, whatever each task
returns or throws, and it does not touch `m_runnables` or `m_state`.
-/

import NearObject.TaskQueue.Order

namespace NearObject.TaskQueue

open Transition

/-- The tasks that end on a trace, with how they end. -/
def ended {Thread Task : Type} (trace : List (Label Thread Task)) : List (Task × Outcome) :=
  trace.filterMap fun
    | .finish task outcome => some (task, outcome)
    | _ => none

@[simp] theorem ended_append {Thread Task : Type} (first second : List (Label Thread Task)) :
    ended (first ++ second) = ended first ++ ended second :=
  List.filterMap_append

section

variable {Thread Task : Type} [DecidableEq Thread] [DecidableEq Task] {s t : State Thread Task}

/-- Between two tasks the worker thread is in no call on the queue. -/
def State.WorkerIdle (s : State Thread Task) : Prop :=
  s.worker.current = none → s.call .worker = .idle

theorem workerIdle_step {label : Label Thread Task} (taken : Step s label t)
    (idle : s.WorkerIdle) : t.WorkerIdle := by
  by_cases own : label.caller? = some .worker
  · intro none
    rw [current_frame taken own] at none
    -- a call by the worker thread is made by the task it executes
    obtain ⟨-, -, -, -, inTask⟩ := mayCall_of_idle taken own (idle none)
    simp [none] at inTask
  · intro none
    rw [call_frame taken own]
    cases label with
    | construct =>
      obtain ⟨-, rfl⟩ := step_construct.mp taken
      exact idle none
    | evaluate =>
      obtain ⟨waking, -⟩ := step_evaluate.mp taken
      exact idle (by simp [Worker.current, waking])
    | sleep =>
      obtain ⟨waiting, -⟩ := step_sleep.mp taken
      exact idle (by simp [Worker.current, waiting])
    | wakeSpuriously =>
      obtain ⟨blocked, -⟩ := step_wakeSpuriously.mp taken
      exact idle (by simp [Worker.current, blocked])
    | announce =>
      obtain ⟨tasks, moved, -⟩ := step_announce.mp taken
      exact idle (by simp [Worker.current, moved])
    | begin task =>
      obtain ⟨tasks, draining, -⟩ := step_begin.mp taken
      exact idle (by simp [Worker.current, draining])
    | finish task outcome =>
      obtain ⟨tasks, -, ended, -⟩ := step_finish.mp taken
      exact ended
    | loop =>
      obtain ⟨draining, -⟩ := step_loop.mp taken
      exact idle (by simp [Worker.current, draining])
    | _ =>
      rw [current_frame taken rfl] at none
      exact idle none

theorem workerIdle_run {trace : List (Label Thread Task)}
    (run : Run Step (init Thread Task) trace s) : s.WorkerIdle :=
  run.invariant State.WorkerIdle (fun _ => rfl) fun _ _ _ idle taken => workerIdle_step taken idle

/-! ### Executing the rest of a batch -/

/-- A run that executes `tasks`, with the ends in `ends`, and leaves `m_runnables` and `m_state`. -/
structure Drains (s t : State Thread Task) (tasks : List Task) (ends : List (Task × Outcome)) :
    Prop where
  run : ∃ trace, Run Step s trace t ∧ begun trace = tasks ∧ ended trace = ends
  members : t.members = s.members

theorem Drains.refl (s : State Thread Task) : Drains s s [] [] :=
  ⟨⟨[], .nil, rfl, rfl⟩, rfl⟩

theorem Drains.trans {u : State Thread Task} {first second : List Task}
    {ends others : List (Task × Outcome)} (before : Drains s t first ends)
    (after : Drains t u second others) : Drains s u (first ++ second) (ends ++ others) := by
  obtain ⟨early, run, begins, finishes⟩ := before.run
  obtain ⟨late, run', begins', finishes'⟩ := after.run
  refine ⟨⟨early ++ late, run.append run', ?_, ?_⟩, after.members.trans before.members⟩
  · rw [begun_append, begins, begins']
  · rw [ended_append, finishes, finishes']

theorem Drains.single {label : Label Thread Task} (taken : Step s label t)
    (members : t.members = s.members) : Drains s t (begun [label]) (ended [label]) :=
  ⟨⟨[label], .single taken, rfl, rfl⟩, members⟩

/-- A task that waits for its own queue gets the exception of `join` and goes on. -/
theorem leaves_join {site : StopSite} (joining : s.call .worker = .joining site) :
    ∃ t, Drains s t [] [] ∧ t.worker = s.worker ∧ t.call .worker = .idle :=
  ⟨_, .single (step_join.mpr ⟨site, joining, .inr (.inl rfl), rfl⟩) rfl, rfl,
    setCall_call_self ..⟩

/-- A task that is in a call on its own queue leaves the call. -/
theorem leaves_call (executing : s.worker.current ≠ none) :
    ∃ t, Drains s t [] [] ∧ t.worker = s.worker ∧ t.call .worker = .idle := by
  have awake : s.worker ≠ .blocked := fun blocked => executing (by simp [Worker.current, blocked])
  cases call : s.call .worker with
  | idle => exact ⟨s, .refl s, rfl, call⟩
  | pushed =>
    have taken := step_notify.mpr (.inl ⟨call, rfl⟩)
    rw [notifyAll_of_ne awake] at taken
    exact ⟨_, .single taken rfl, rfl, setCall_call_self ..⟩
  | stopped site =>
    have taken := step_notify.mpr (.inr ⟨site, call, rfl⟩)
    rw [notifyAll_of_ne awake] at taken
    have notified := Drains.single taken rfl
    cases site with
    | stop => exact ⟨_, notified, rfl, setCall_call_self ..⟩
    | stopAndWaitForTaskCompletion | destructor =>
      obtain ⟨t, joined, same, idle⟩ :=
        leaves_join (s := s.setCall .worker _) (setCall_call_self ..)
      exact ⟨t, notified.trans joined, same, idle⟩
  | joining site => exact leaves_join call

/-- One turn of the inner loop of `process_queue`. -/
theorem drains_task (outcome : Outcome) {task : Task} {tasks : List Task}
    (draining : s.worker = .draining (task :: tasks)) (idle : s.call .worker = .idle) :
    Drains s { s with worker := .draining tasks } [task] [(task, outcome)] := by
  have begins : Step s (.begin task) { s with worker := .executing task tasks } :=
    step_begin.mpr ⟨tasks, draining, rfl⟩
  have finishes : Step { s with worker := .executing task tasks } (.finish task outcome)
      { s with worker := .draining tasks } := step_finish.mpr ⟨tasks, rfl, idle, rfl⟩
  exact (Drains.single begins rfl).trans (.single finishes rfl)

/-- The inner loop of `process_queue`, whatever its tasks return or throw. -/
theorem drains_batch (outcomes : Task → Outcome) (tasks : List Task) :
    ∀ s : State Thread Task, s.worker = .draining tasks → s.call .worker = .idle →
      Drains s { s with worker := .draining [] } tasks
        (tasks.map fun task => (task, outcomes task)) := by
  induction tasks with
  | nil =>
    intro s draining _
    rw [← draining]
    exact .refl s
  | cons task tasks ih =>
    intro s draining idle
    exact (drains_task (outcomes task) draining idle).trans (ih _ rfl idle)

/-- From the head of the inner loop back to the head of the outer one. -/
theorem drains_to_waking (outcomes : Task → Outcome) {tasks : List Task}
    (draining : s.worker = .draining tasks) (idle : s.call .worker = .idle) :
    Drains s { s with worker := .waking } tasks (tasks.map fun task => (task, outcomes task)) := by
  have loops : Step { s with worker := .draining [] } .loop { s with worker := .waking } :=
    step_loop.mpr ⟨rfl, rfl⟩
  have all := (drains_batch outcomes tasks s draining idle).trans (.single loops rfl)
  simpa [begun, ended] using all

/-- **The worker comes back** to the head of the loop by its own steps. -/
theorem reaches_waking (outcomes : Task → Outcome) (idle : s.WorkerIdle)
    (inside : s.worker ≠ .exited) :
    ∃ t, t.worker = .waking ∧ Drains s t s.worker.batch
      ((s.worker.current.toList ++ s.worker.batch).map fun task => (task, outcomes task)) := by
  have none_idle (none : s.worker.current = none) : s.call .worker = .idle := idle none
  cases place : s.worker with
  | waking => exact ⟨s, place, .refl s⟩
  | waiting =>
    have sleeps : Step s .sleep { s with worker := .blocked } := step_sleep.mpr ⟨place, rfl⟩
    have wakes : Step { s with worker := .blocked } .wakeSpuriously { s with worker := .waking } :=
      step_wakeSpuriously.mpr ⟨rfl, rfl⟩
    exact ⟨_, rfl, (Drains.single sleeps rfl).trans (.single wakes rfl)⟩
  | blocked => exact ⟨_, rfl, .single (step_wakeSpuriously.mpr ⟨place, rfl⟩) rfl⟩
  | moved tasks =>
    have announces : Step s .announce { s with worker := .draining tasks } :=
      step_announce.mpr ⟨tasks, place, rfl⟩
    have drains := drains_to_waking (s := { s with worker := .draining tasks }) outcomes rfl
      (none_idle (by simp [Worker.current, place]))
    exact ⟨_, rfl, (Drains.single announces rfl).trans drains⟩
  | draining tasks =>
    have drains := drains_to_waking outcomes place (none_idle (by simp [Worker.current, place]))
    exact ⟨_, rfl, drains⟩
  | executing task tasks =>
    obtain ⟨t, leaves, same, left⟩ := leaves_call (s := s) (by simp [Worker.current, place])
    have finishes : Step t (.finish task (outcomes task)) { t with worker := .draining tasks } :=
      step_finish.mpr ⟨tasks, same.trans place, left, rfl⟩
    have drains := drains_to_waking (s := { t with worker := .draining tasks }) outcomes rfl left
    exact ⟨_, rfl, leaves.trans ((Drains.single finishes rfl).trans drains)⟩
  | exited => exact absurd place inside

/-! ### The accepted tasks -/

/-- **Conservation and order.** In every reachable state the tasks begun, the rest of the batch and
`m_runnables` are the accepted tasks, in push order; at most the last task begun is still executing;
a `post` that throws changes nothing; and the worker executes the rest of its batch and comes back
for `m_runnables`, however each task ends. -/
theorem conservation_fifo {trace : List (Label Thread Task)}
    (run : Run Step (init Thread Task) trace s) :
    begun trace ++ s.worker.batch ++ s.members.runnables = accepted trace ∧
      begun trace = finished trace ++ s.worker.current.toList ∧
      (∀ caller task t, Step s (.refuse caller task) t → t = s) ∧
      (s.worker ≠ .exited → ∀ outcomes : Task → Outcome, ∃ rest t, Run Step s rest t ∧
        begun rest = s.worker.batch ∧
        ended rest = (s.worker.current.toList ++ s.worker.batch).map
          (fun task => (task, outcomes task)) ∧
        t.worker = .waking ∧ t.members = s.members) := by
  refine ⟨?_, begun_eq_finished run, ?_, ?_⟩
  · have conserved := pending_conserved run
    rwa [State.pending, ← List.append_assoc] at conserved
  · intro caller task t taken
    exact (step_refuse.mp taken).2.2
  · intro inside outcomes
    obtain ⟨t, waking, ⟨rest, after, begins, ends⟩, members⟩ :=
      reaches_waking outcomes (workerIdle_run run) inside
    exact ⟨rest, t, after, begins, ends, waking, members⟩

/-- A client posts two tasks; the first one posts a third while it executes. -/
def reentrantTrace : List (Label Nat Nat) :=
  [.construct, .post (.client 0) 1, .post (.client 1) 2, .notify (.client 0), .evaluate, .announce,
    .begin 1, .post .worker 3, .notify .worker]

theorem conservation_fifo_reentrant : ∃ s, execute step (init Nat Nat) reentrantTrace = some s ∧
    begun reentrantTrace ++ s.worker.batch ++ s.members.runnables = accepted reentrantTrace :=
  ⟨_, rfl, (conservation_fifo (run_of_execute rfl)).1⟩

end

end NearObject.TaskQueue
