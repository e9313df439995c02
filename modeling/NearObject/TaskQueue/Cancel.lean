/-
**`notstd::task_queue` — what becomes of a cancel request.**

`stop(cancel)` is final as long as no default `stop` overwrites `m_state` before the worker has seen
it. `KeepsCancel` is that condition on one step: it forbids a default `stop` exactly where a cancel
is in force, tasks are pending and the worker has not left `process_queue`.

* In a run whose steps all meet the condition, the tasks begun after a cancel are a prefix of the
  batch that was already moved out (`begun_of_doomed`): the queue is `Doomed` from the cancel on.
* Any step that breaks the condition can be continued to a run in which a cancelled task executes
  (`overwritten`). The `stop` that the destructor always issues is such a step.
-/

import NearObject.TaskQueue.Worker

namespace NearObject.TaskQueue

open Transition

section

variable {Thread Task : Type} [DecidableEq Thread] [DecidableEq Task] {s t u : State Thread Task}

/-- **Cancellation is final** on this trace: after any cancel on it, only tasks of the batch that
had been moved out by then are begun. -/
def CancellationFinal (trace : List (Label Thread Task)) : Prop :=
  ∀ early caller site late s t u, trace = early ++ .stop caller .cancel site :: late →
    Run Step (init Thread Task) early s → Step s (.stop caller .cancel site) t →
      Run Step t late u → begun late <+: t.worker.batch

/-- The step is not a default `stop` that overwrites a cancel the worker has yet to see. -/
def KeepsCancel (s : State Thread Task) : Label Thread Task → Prop
  | .stop _ .run _ =>
    ¬ (s.members.state = .canceling ∧ s.members.runnables ≠ [] ∧ s.worker ≠ .exited)
  | _ => True

instance (s : State Thread Task) (label : Label Thread Task) : Decidable (KeepsCancel s label) := by
  unfold KeepsCancel
  split <;> infer_instance

/-! ### Runs that keep the cancel -/

/-- No pending task can be moved out any more. -/
structure Doomed (s : State Thread Task) : Prop where
  constructed : s.constructed = true
  pending : s.members.isStopPending = true
  lost : s.members.state = .canceling ∨ s.members.runnables = [] ∨ s.worker = .exited

theorem doomed_of_cancel {caller : Caller Thread} {site : StopSite}
    (taken : Step s (.stop caller .cancel site) t) : Doomed t := by
  obtain ⟨⟨constructed, -⟩, -, rfl⟩ := step_stop.mp taken
  exact ⟨constructed, stop_isStopPending .cancel, .inl rfl⟩

/-- A doomed queue neither accepts a task nor moves one out. -/
theorem doomed_step {label : Label Thread Task} (taken : Step s label t) (doomed : Doomed s)
    (keeps : KeepsCancel s label) :
    Doomed t ∧ t.members.runnables = s.members.runnables ∧ accepted [label] = [] := by
  have constructed := constructed_step taken doomed.constructed
  rcases members_cases taken with ⟨caller, task, -, running, -⟩ |
    ⟨caller, action, site, rfl, same⟩ | ⟨-, fresh, -⟩ | ⟨-, waking, nonempty, stay, -⟩ |
    ⟨silent, same⟩
  · simp [doomed.pending] at running
  · refine ⟨⟨constructed, by rw [same, stop_isStopPending], ?_⟩, by rw [same, stop_runnables], rfl⟩
    rw [same, stop_runnables]
    cases action with
    | cancel => exact .inl rfl
    | run =>
      rcases doomed.lost with canceling | empty | left
      · by_cases empty : s.members.runnables = []
        · exact .inr (.inl empty)
        · refine .inr (.inr (exited_step taken ?_))
          exact not_not.mp fun inside => keeps ⟨canceling, empty, inside⟩
      · exact .inr (.inl empty)
      · exact .inr (.inr (exited_step taken left))
  · simp [doomed.constructed] at fresh
  · rcases doomed.lost with canceling | empty | left
    · simp [Members.shouldQueueExit, canceling] at stay
    · exact absurd empty nonempty
    · simp [left] at waking
  · refine ⟨⟨constructed, by rw [same]; exact doomed.pending, ?_⟩, by rw [same], silent⟩
    rw [same]
    exact doomed.lost.imp id (Or.imp id (exited_step taken))

/-- After a cancel that is kept, only the batch that was moved out is begun. -/
theorem begun_of_doomed {trace : List (Label Thread Task)} (doomed : Doomed s)
    (run : Run (Restrict Step KeepsCancel) s trace t) : begun trace <+: s.worker.batch := by
  have kept := run.history (fun trace t => Doomed t ∧ t.members.runnables = s.members.runnables ∧
      accepted trace = []) ⟨doomed, rfl, rfl⟩
    fun trace m label t _ ⟨doomed, same, quiet⟩ ⟨keeps, taken⟩ => by
      obtain ⟨doomed, unchanged, silent⟩ := doomed_step taken doomed keeps
      exact ⟨doomed, unchanged.trans same, by rw [accepted_append, quiet, silent]; rfl⟩
  obtain ⟨-, same, quiet⟩ := kept
  have conserved := pending_conserved run.unrestrict
  rw [State.pending, State.pending, same, quiet, List.append_nil, ← List.append_assoc] at conserved
  exact ⟨t.worker.batch, List.append_cancel_right conserved⟩

/-! ### A step that overwrites a cancel -/

/-- A queue in the cancelling state owes it to a cancel, since which nothing was accepted and, while
the worker is in `process_queue`, nothing was moved out. -/
def CancelledSince (trace : List (Label Thread Task)) (s : State Thread Task) : Prop :=
  s.members.state = .canceling → s.worker ≠ .exited →
    ∃ early caller site late r q, trace = early ++ .stop caller .cancel site :: late ∧
      Run Step (init Thread Task) early r ∧ Step r (.stop caller .cancel site) q ∧
      Run Step q late s ∧ q.members.runnables = s.members.runnables ∧ accepted late = []

theorem cancelledSince {trace : List (Label Thread Task)}
    (run : Run Step (init Thread Task) trace s) : CancelledSince trace s := by
  refine run.history CancelledSince (fun canceling => by cases canceling)
    fun trace s label t before since taken canceling inside => ?_
  have inside_before : s.worker ≠ .exited := fun left => inside (exited_step taken left)
  rcases members_cases taken with ⟨caller, task, -, running, same⟩ |
    ⟨caller, action, site, rfl, same⟩ | ⟨-, -, same⟩ | ⟨-, -, -, stay, same⟩ | ⟨silent, same⟩
  · rw [same] at canceling
    simp [Members.isStopPending, show s.members.state = .canceling from canceling] at running
  · cases action with
    | cancel => exact ⟨trace, caller, site, [], s, t, rfl, before, taken, .nil, rfl, rfl⟩
    | run => simp [same, Members.stop] at canceling
  · simp [same] at canceling
  · rw [same] at canceling
    simp [Members.shouldQueueExit, show s.members.state = .canceling from canceling] at stay
  · rw [same] at canceling
    obtain ⟨early, caller, site, late, r, q, rfl, first, cancels, after, unchanged, quiet⟩ :=
      since canceling inside_before
    exact ⟨early, caller, site, late ++ [label], r, q, by simp, first, cancels, after.snoc taken,
      by rw [same, unchanged], by rw [accepted_append, quiet, silent]; rfl⟩

/-- After a default `stop`, the pending tasks are moved out and the first of them is begun. -/
theorem runs_pending (idle : s.WorkerIdle) (inside : s.worker ≠ .exited)
    (stopping : s.members.state = .stopping) (nonempty : s.members.runnables ≠ []) :
    ∃ trace t task, Run Step s trace t ∧ begun trace = s.worker.batch ++ [task] := by
  obtain ⟨t, waking, ⟨trace, run, begins, -⟩, members⟩ :=
    reaches_waking (fun _ => .returned) idle inside
  obtain ⟨task, tasks, shape⟩ := List.exists_cons_of_ne_nil nonempty
  rw [← members] at stopping nonempty shape
  have stay : t.members.shouldQueueExit = false := by
    simp [Members.shouldQueueExit, stopping, shape]
  let moved : State Thread Task :=
    { t with members := { t.members with runnables := [] }, worker := .moved t.members.runnables }
  have moves : Step t .evaluate moved := step_evaluate.mpr
    ⟨waking, .inr (.inr ⟨nonempty, stay, rfl⟩)⟩
  have announces : Step moved .announce { moved with worker := .draining (task :: tasks) } :=
    step_announce.mpr ⟨task :: tasks, by rw [← shape], rfl⟩
  have begins' : Step { moved with worker := .draining (task :: tasks) } (.begin task)
      { moved with worker := .executing task tasks } := step_begin.mpr ⟨tasks, rfl, rfl⟩
  refine ⟨_, _, task, ((run.snoc moves).snoc announces).snoc begins', ?_⟩
  simp only [begun_append, begins]
  simp [begun]

/-- A step that overwrites a cancel can be continued to a run that executes a cancelled task. -/
theorem overwritten {trace : List (Label Thread Task)} {label : Label Thread Task}
    (run : Run Step (init Thread Task) trace s) (taken : Step s label t)
    (breaks : ¬ KeepsCancel s label) :
    ∃ late u, Run Step t late u ∧ ¬ CancellationFinal (trace ++ label :: late) := by
  unfold KeepsCancel at breaks
  split at breaks
  case h_2 => exact absurd trivial breaks
  rename_i caller site
  obtain ⟨canceling, nonempty, inside⟩ := not_not.mp breaks
  obtain ⟨early, first, place, since, r, q, rfl, before, cancels, after, unchanged, quiet⟩ :=
    cancelledSince run canceling inside
  have idle := workerIdle_step taken (workerIdle_run run)
  obtain ⟨-, -, rfl⟩ := step_stop.mp taken
  obtain ⟨late, u, task, continues, begins⟩ := runs_pending idle inside rfl nonempty
  refine ⟨late, u, continues, fun final => ?_⟩
  -- what was pending or in the batch at the cancel is still so just before the overwriting step
  have conserved := pending_conserved after
  rw [State.pending, State.pending, unchanged, quiet, List.append_nil, ← List.append_assoc]
    at conserved
  have batch := List.append_cancel_right conserved
  have whole := final early first place (since ++ .stop caller .run site :: late) r q u
    (by simp) before cancels (after.append (.cons taken continues))
  have longer := whole.length_le
  rw [begun_append, show begun (.stop caller .run site :: late) = begun late from rfl, begins,
    ← batch] at longer
  simp only [List.length_append, List.length_singleton, setCall_worker] at longer
  omega

/-! ### The cancel request -/

/-- **When a cancel is final.** Every run whose steps all keep the cancel has the property, and
every step that does not can be continued to a run that lacks it. -/
theorem cancellation_final :
    (∀ trace (s : State Thread Task),
      Run (Restrict Step KeepsCancel) (init Thread Task) trace s → CancellationFinal trace) ∧
    (∀ trace (s : State Thread Task) label t, Run Step (init Thread Task) trace s →
      Step s label t → ¬ KeepsCancel s label →
        ∃ late u, Run Step t late u ∧ ¬ CancellationFinal (trace ++ label :: late)) := by
  refine ⟨?_, fun trace s label t run taken breaks => overwritten run taken breaks⟩
  rintro trace finish run early caller site late s t u rfl before cancels after
  obtain ⟨s', before', rest⟩ := run.split early (.stop caller .cancel site :: late)
  obtain ⟨t', ⟨-, cancels'⟩, after'⟩ := rest.cons_inv
  obtain rfl := before.unique before'.unrestrict
  obtain rfl := Option.some.inj (cancels.symm.trans cancels')
  exact begun_of_doomed (doomed_of_cancel cancels) after'

/-- The worker sees the cancel before the destructor stops the queue again. -/
def cancelSeenTrace : List (Label Nat Nat) :=
  [.construct, .post (.client 0) 1, .notify (.client 0), .stop (.client 0) .cancel .stop,
    .notify (.client 0), .evaluate, .stop (.client 0) .run .destructor]

theorem cancellation_final_seen : CancellationFinal cancelSeenTrace :=
  cancellation_final.1 _ _ (run_of_execute_guarded rfl)

/-- The destructor's `stop` overwrites the cancel before the worker sees it. -/
def cancelOverwrittenTrace : List (Label Nat Nat) :=
  [.construct, .post (.client 0) 1, .notify (.client 0), .stop (.client 0) .cancel .stop,
    .notify (.client 0), .stop (.client 0) .run .destructor, .evaluate, .announce, .begin 1]

theorem cancellation_overwritten :
    ∃ s, Run Step (init Nat Nat) cancelOverwrittenTrace s ∧
      ¬ CancellationFinal cancelOverwrittenTrace := by
  refine ⟨_, run_of_execute rfl, fun final => ?_⟩
  have begun_pending := final [.construct, .post (.client 0) 1, .notify (.client 0)] (.client 0)
    .stop [.notify (.client 0), .stop (.client 0) .run .destructor, .evaluate, .announce, .begin 1]
    _ _ _ rfl (run_of_execute rfl) rfl (run_of_execute rfl)
  revert begun_pending
  decide

end

end NearObject.TaskQueue
