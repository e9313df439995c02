/-
**`notstd::task_queue` — a stop that is not a cancel drains the queue.**

The runs here are those in which every `stop` asks for the pending tasks to be run, and the
functions that join the worker are called by one client thread. The worker then leaves
`process_queue` only in the stopping state and with `m_runnables` empty (`Drained.left`); from there
on no `post` is accepted, so what conservation says of the exit stays true until the join returns.
-/

import NearObject.TaskQueue.Worker

namespace NearObject.TaskQueue

open Transition

section

variable {Thread Task : Type} {s t : State Thread Task}

/-- Every `stop` is a default one, and only `owner` stops and joins. -/
def OnlyRunStops (owner : Thread) : Label Thread Task → Prop
  | .stop caller action site => action = .run ∧ (site = .stop ∨ caller = .client owner)
  | _ => True

instance [DecidableEq Thread] (owner : Thread) :
    ∀ label : Label Thread Task, Decidable (OnlyRunStops owner label)
  | .stop .. => inferInstanceAs (Decidable (_ ∧ (_ ∨ _)))
  | .construct | .post .. | .refuse .. | .notify _ | .join _ | .evaluate | .sleep | .wakeSpuriously
  | .announce | .begin _ | .finish .. | .loop => isTrue trivial

/-- Every `stop` is a default one, and no task waits for its own queue. -/
def RunsPending : Label Thread Task → Prop
  | .stop caller action site => action = .run ∧ (site = .stop ∨ caller ≠ .worker)
  | _ => True

theorem OnlyRunStops.runsPending {owner : Thread} {label : Label Thread Task}
    (stops : OnlyRunStops owner label) : RunsPending label := by
  cases label with
  | stop caller action site =>
    exact ⟨stops.1, stops.2.imp_right fun client => by simp [client]⟩
  | _ => trivial

/-- What such runs keep. -/
structure Drained (s : State Thread Task) : Prop where
  unborn : s.constructed = false → s.members.state = .stopped
  kept : s.members.state ≠ .canceling
  left : s.worker = .exited → s.members.state = .stopping ∧ s.members.runnables = []
  joined : s.joinable = false → s.worker = .exited
  worker_joins : ∀ site, s.call .worker ≠ .joining site
  worker_stops : ∀ site, s.call .worker = .stopped site → site = .stop

theorem drained_init : Drained (init Thread Task) := by
  constructor <;> simp [init]

variable [DecidableEq Thread] [DecidableEq Task]

/-- The runs in question. -/
abbrev DrainStep (owner : Thread) :
    State Thread Task → Label Thread Task → State Thread Task → Prop :=
  Restrict Step fun _ label => OnlyRunStops owner label

/-- The members: `m_state` never cancels, and is `stopping` for good once the worker has left. -/
theorem drained_members {label : Label Thread Task} (taken : Step s label t)
    (stops : RunsPending label) (drained : Drained s) :
    (t.constructed = false → t.members.state = .stopped) ∧ t.members.state ≠ .canceling ∧
      (s.worker = .exited → t.members.state = .stopping ∧ t.members.runnables = []) := by
  have unborn (fresh : t.constructed = false) : s.constructed = false :=
    Bool.eq_false_iff.mpr fun constructed => by simp [constructed_step taken constructed] at fresh
  rcases members_cases taken with ⟨caller, task, rfl, running, same⟩ |
    ⟨caller, action, site, rfl, same⟩ | ⟨rfl, fresh, same⟩ | ⟨-, waking, -, -, same⟩ | ⟨-, same⟩
  · rw [same]
    refine ⟨fun fresh => drained.unborn (unborn fresh), drained.kept, fun left => ?_⟩
    simp [Members.isStopPending, (drained.left left).1] at running
  · obtain ⟨rfl, -⟩ := stops
    rw [same]
    refine ⟨fun fresh => ?_, by simp [Members.stop], fun left => ⟨rfl, (drained.left left).2⟩⟩
    have constructed := (step_stop.mp taken).1.1
    simp [constructed_step taken constructed] at fresh
  · obtain ⟨-, rfl⟩ := step_construct.mp taken
    refine ⟨by simp, by simp, fun left => ?_⟩
    have stopped := drained.unborn fresh
    rw [(drained.left left).1] at stopped
    cases stopped
  · rw [same]
    refine ⟨fun fresh => drained.unborn (unborn fresh), drained.kept, fun left => ?_⟩
    simp [left] at waking
  · rw [same]
    exact ⟨fun fresh => drained.unborn (unborn fresh), drained.kept, drained.left⟩

/-- The worker leaves only when the exit condition holds. -/
theorem exit_condition {label : Label Thread Task} (taken : Step s label t)
    (inside : s.worker ≠ .exited) (left : t.worker = .exited) :
    s.members.shouldQueueExit = true ∧ t.members = s.members := by
  cases label with
  | construct =>
    obtain ⟨-, rfl⟩ := step_construct.mp taken
    exact absurd left inside
  | evaluate =>
    obtain ⟨-, ⟨-, rfl⟩ | ⟨exit, rfl⟩ | ⟨-, -, rfl⟩⟩ := step_evaluate.mp taken
    · cases left
    · exact ⟨exit, rfl⟩
    · cases left
  | sleep =>
    obtain ⟨-, rfl⟩ := step_sleep.mp taken
    cases left
  | wakeSpuriously =>
    obtain ⟨-, rfl⟩ := step_wakeSpuriously.mp taken
    cases left
  | announce =>
    obtain ⟨tasks, -, rfl⟩ := step_announce.mp taken
    cases left
  | begin task =>
    obtain ⟨tasks, -, rfl⟩ := step_begin.mp taken
    cases left
  | finish task outcome =>
    obtain ⟨tasks, -, -, rfl⟩ := step_finish.mp taken
    cases left
  | loop =>
    obtain ⟨-, rfl⟩ := step_loop.mp taken
    cases left
  | _ => rcases worker_frame taken rfl with same | same <;> simp_all

theorem drained_left {label : Label Thread Task} (taken : Step s label t)
    (stops : RunsPending label) (drained : Drained s) (left : t.worker = .exited) :
    t.members.state = .stopping ∧ t.members.runnables = [] := by
  by_cases before : s.worker = .exited
  · exact (drained_members taken stops drained).2.2 before
  · obtain ⟨exit, same⟩ := exit_condition taken before left
    have kept := drained.kept
    rw [same]
    unfold Members.shouldQueueExit at exit
    split at exit
    · rename_i stopping
      exact ⟨stopping, List.isEmpty_iff.mp exit⟩
    · rename_i canceling
      exact absurd canceling kept
    · cases exit

/-- A thread stops being joinable by a join that waited for the worker. -/
theorem joinable_step {label : Label Thread Task} (taken : Step s label t)
    (joined : t.joinable = false) : s.joinable = false ∨ s.worker = .exited := by
  by_cases joins : ∃ caller, label = .join caller
  · obtain ⟨caller, rfl⟩ := joins
    obtain ⟨site, -, -, rfl⟩ := step_join.mp taken
    rw [setCall_joinable, State.joined] at joined
    cases joinable : s.joinable with
    | false => exact .inl rfl
    | true => exact .inr (by simpa [joinable] using joined)
  · rw [((flags_frame taken).2 fun caller same => joins ⟨caller, same⟩).1] at joined
    exact .inl joined

/-- A task that stops its own queue does not join it. -/
theorem drained_worker_call {label : Label Thread Task} (taken : Step s label t)
    (stops : RunsPending label) (drained : Drained s) :
    (∀ site, t.call .worker ≠ .joining site) ∧
      ∀ site, t.call .worker = .stopped site → site = .stop := by
  by_cases own : label.caller? = some .worker
  · cases label with
    | post caller task =>
      cases own
      obtain ⟨-, -, rfl⟩ := step_post.mp taken
      rw [setCall_call_self]
      split <;> exact ⟨fun _ same => (by cases same), fun _ same => (by cases same)⟩
    | refuse caller task =>
      obtain ⟨-, -, rfl⟩ := step_refuse.mp taken
      exact ⟨drained.worker_joins, drained.worker_stops⟩
    | stop caller action site =>
      cases own
      obtain ⟨-, -, rfl⟩ := step_stop.mp taken
      rw [setCall_call_self]
      refine ⟨fun _ same => (by cases same), fun other same => ?_⟩
      cases same
      exact stops.2.resolve_right (by simp)
    | notify caller =>
      cases own
      obtain ⟨-, rfl⟩ | ⟨site, stopped, rfl⟩ := step_notify.mp taken
      · rw [setCall_call_self]
        exact ⟨fun _ same => (by cases same), fun _ same => by cases same⟩
      · rw [setCall_call_self, drained.worker_stops site stopped]
        exact ⟨fun _ same => (by cases same), fun _ same => by cases same⟩
    | join caller =>
      cases own
      obtain ⟨site, joining, -⟩ := step_join.mp taken
      exact absurd joining (drained.worker_joins site)
    | _ => cases own
  · rw [call_frame taken own]
    exact ⟨drained.worker_joins, drained.worker_stops⟩

theorem drained_step {label : Label Thread Task} (taken : Step s label t)
    (stops : RunsPending label) (drained : Drained s) : Drained t where
  unborn := (drained_members taken stops drained).1
  kept := (drained_members taken stops drained).2.1
  left := drained_left taken stops drained
  joined := fun joined =>
    exited_step taken ((joinable_step taken joined).elim drained.joined id)
  worker_joins := (drained_worker_call taken stops drained).1
  worker_stops := (drained_worker_call taken stops drained).2

theorem drained_run {owner : Thread} {trace : List (Label Thread Task)}
    (run : Run (DrainStep owner) (init Thread Task) trace s) : Drained s :=
  run.invariant Drained drained_init fun _ _ _ drained ⟨stops, taken⟩ =>
    drained_step taken stops.runsPending drained

/-- A function that joins the worker returns after the worker has left. -/
theorem left_of_joined {owner : Thread} {trace : List (Label Thread Task)} {caller : Caller Thread}
    (run : Run (DrainStep owner) (init Thread Task) trace s) (returns : .join caller ∈ trace) :
    s.worker = .exited := by
  refine run.history (fun trace s => .join caller ∈ trace → s.worker = .exited)
    (fun none => absurd none List.not_mem_nil) (fun trace s label t before left step member => ?_)
    returns
  obtain ⟨-, taken⟩ := step
  refine exited_step taken ?_
  rcases List.mem_append.mp member with early | last
  · exact left early
  · obtain rfl := List.mem_singleton.mp last
    obtain ⟨site, joining, waited, -⟩ := step_join.mp taken
    have drained := drained_run before
    rcases waited with joined | rfl | exited
    · exact drained.joined joined
    · exact absurd joining (drained.worker_joins site)
    · exact exited

/-- **Stop drains.** Once the worker has left `process_queue`, every accepted task has been
executed, once and in order, and no `post` can be accepted; and a function that joins the worker
returns only then. -/
theorem stop_drains {owner : Thread} {trace : List (Label Thread Task)}
    (run : Run (DrainStep owner) (init Thread Task) trace s) :
    (s.worker = .exited →
      finished trace = accepted trace ∧ ∀ caller task t, ¬ Step s (.post caller task) t) ∧
    (∀ caller, .join caller ∈ trace → s.worker = .exited) := by
  refine ⟨fun left => ?_, fun caller => left_of_joined run⟩
  obtain ⟨stopping, empty⟩ := (drained_run run).left left
  have conserved := pending_conserved run.unrestrict
  have serial := begun_eq_finished run.unrestrict
  have unstarted : s.pending = [] := by simp [State.pending, left, empty, Worker.batch]
  have initially : (init Thread Task).pending = [] := rfl
  rw [unstarted, initially, List.append_nil, List.nil_append] at conserved
  rw [left, show (Worker.exited : Worker Task).current.toList = [] from rfl, List.append_nil]
    at serial
  refine ⟨serial.symm.trans conserved, fun caller task t taken => ?_⟩
  obtain ⟨-, running, -⟩ := step_post.mp taken
  simp [Members.isStopPending, stopping] at running

/-- A task posts another one, and the client that owns the queue stops it and waits. -/
def drainTrace : List (Label Nat Nat) :=
  [.construct, .post (.client 1) 1, .notify (.client 1), .evaluate, .announce, .begin 1,
    .post .worker 2, .notify .worker, .stop (.client 0) .run .stopAndWaitForTaskCompletion,
    .notify (.client 0), .finish 1 .threw, .loop, .evaluate, .announce, .begin 2,
    .finish 2 .returned, .loop, .evaluate, .join (.client 0)]

theorem stop_drains_waited : ∃ s, Run (DrainStep 0) (init Nat Nat) drainTrace s ∧
    s.worker = .exited ∧ finished drainTrace = accepted drainTrace := by
  have run : Run (DrainStep 0) (init Nat Nat) drainTrace _ := run_of_execute_guarded rfl
  exact ⟨_, run, rfl, ((stop_drains run).1 rfl).1⟩

/-! ### A queue that only its destructor stops -/

/-- Every `stop` in progress is that of the destructor. -/
def State.DestructorStops (s : State Thread Task) : Prop :=
  ∀ caller site, s.call caller = .stopped site ∨ s.call caller = .joining site →
    site = .destructor

theorem destructorStops_step {label : Label Thread Task} (taken : Step s label t)
    (stops : ∀ caller action site, label = .stop caller action site → site = .destructor)
    (before : s.DestructorStops) : t.DestructorStops := by
  intro caller site inside
  by_cases own : label.caller? = some caller
  · cases label with
    | post other task =>
      cases own
      obtain ⟨-, -, rfl⟩ := step_post.mp taken
      rw [setCall_call_self] at inside
      split at inside <;> simp at inside
    | refuse other task =>
      obtain ⟨-, -, rfl⟩ := step_refuse.mp taken
      exact before caller site inside
    | stop other action within =>
      cases own
      obtain ⟨-, -, rfl⟩ := step_stop.mp taken
      obtain rfl := stops _ _ _ rfl
      simpa [eq_comm] using inside
    | notify other =>
      cases own
      obtain ⟨-, rfl⟩ | ⟨within, stopped, rfl⟩ := step_notify.mp taken
      · simp at inside
      · obtain rfl := before caller within (.inl stopped)
        simpa [StopSite.afterStop, eq_comm] using inside
    | join other =>
      cases own
      obtain ⟨within, -, -, rfl⟩ := step_join.mp taken
      simp at inside
    | _ => cases own
  · rw [call_frame taken own] at inside
    exact before caller site inside

/-- A queue that is destroyed accepts no task. -/
theorem accepted_of_destroyed {label : Label Thread Task} (taken : Step s label t)
    (destroyed : s.destroyed = true) : accepted [label] = [] ∧ t.destroyed = true := by
  by_cases joins : ∃ caller, label = .join caller
  · obtain ⟨caller, rfl⟩ := joins
    obtain ⟨site, -, -, rfl⟩ := step_join.mp taken
    exact ⟨rfl, by simp [State.joined, destroyed]⟩
  · rw [((flags_frame taken).2 fun caller same => joins ⟨caller, same⟩).2]
    refine ⟨?_, destroyed⟩
    cases label with
    | post caller task =>
      obtain ⟨⟨-, present, -⟩, -⟩ := step_post.mp taken
      rw [destroyed] at present
      cases present
    | _ => rfl

end

end NearObject.TaskQueue
