/-
**`notstd::task_queue` — the threads come to rest.**

What the environment does is to post, to stop and to wake the worker spuriously; all other steps are
those of the queue and of the calls that are on their way. The potential of `Transition.Potential`
pays for these: a pending task saves the steps of its batch and its own, a caller what is left of
its call with the wake-up that it causes.

* A run is no longer than what its posts, stops and spurious wake-ups cost, in any order of the
  threads, and from every reachable state the threads come to rest.
* At rest nobody is in a call (`atRest_iff`): the worker has left, or it is blocked, with nothing
  pending and no stop. What makes this true is that no wake-up is lost (`covered_run`), and that a
  caller in a stop has left one pending (`Stopping`).

Tasks return, or throw: the end of a task is a step of the queue.
-/

import NearObject.TaskQueue.Notify
import NearObject.TaskQueue.Order
import NearObject.Transition.Potential

namespace NearObject.TaskQueue

open Transition

section

variable {Thread Task : Type} {s t : State Thread Task}

/-! ### Costs and savings -/

/-- What the environment pays for a step: the step, and all that follows from it. -/
def Label.cost : Label Thread Task → ℕ
  | .post _ _ => 9
  | .stop _ _ _ => 5
  | .wakeSpuriously => 3
  | .refuse _ _ => 1
  | _ => 0

/-- What is left of a call, with two steps for a worker that it wakes. -/
def Call.debt : Call → ℕ
  | .idle => 0
  | .pushed | .stopped .stop => 3
  | .stopped _ => 4
  | .joining _ => 1

/-- What is left for the worker until it blocks, but for what is in `m_runnables`. -/
def Worker.debt : Worker Task → ℕ
  | .waking => 2
  | .waiting => 1
  | .blocked | .exited => 0
  | .moved tasks | .executing _ tasks => 2 * tasks.length + 4
  | .draining tasks => 2 * tasks.length + 3

/-- The potential, where the callers are in a list. -/
def State.potential (callers : List (Caller Thread)) (s : State Thread Task) : ℕ :=
  5 * s.members.runnables.length + s.worker.debt + debts Call.debt s.call callers +
    (!s.constructed).toNat

/-- The caller is in a call on the queue. -/
def State.Busy (s : State Thread Task) (caller : Caller Thread) : Prop :=
  s.call caller ≠ .idle

/-- A notification makes two steps for the worker at most. -/
theorem notifyAll_debt_le : s.notifyAll.worker.debt ≤ s.worker.debt + 2 := by
  unfold State.notifyAll
  split
  · exact Nat.le_add_left _ _
  · exact Nat.le_add_right _ _

theorem afterStop_debt (site : StopSite) :
    site.afterStop.debt + 3 = (Call.stopped site).debt := by
  cases site <;> rfl

variable [DecidableEq Thread] [DecidableEq Task] {callers : List (Caller Thread)}

/-! ### The potential pays -/

omit [DecidableEq Task] in
/-- A caller that moves changes its own share of the potential. -/
theorem setCall_potential {caller : Caller Thread} (once : callers.Nodup)
    (member : caller ∈ callers) (call : Call) :
    (s.setCall caller call).potential callers + (s.call caller).debt =
      s.potential callers + call.debt := by
  have share : debts Call.debt (s.setCall caller call).call callers + (s.call caller).debt =
      debts Call.debt s.call callers + ((s.setCall caller call).call caller).debt :=
    debts_move once member fun _ different => setCall_call_of_ne different call
  rw [setCall_call_self] at share
  simp only [State.potential, setCall_members, setCall_worker, setCall_constructed]
  omega

omit [DecidableEq Thread] [DecidableEq Task] in
theorem notifyAll_potential (callers : List (Caller Thread)) :
    s.notifyAll.potential callers ≤ s.potential callers + 2 := by
  have wakes := notifyAll_debt_le (s := s)
  simp only [State.potential, notifyAll_members, notifyAll_call, notifyAll_constructed]
  omega

omit [DecidableEq Thread] [DecidableEq Task] in
theorem members_potential (callers : List (Caller Thread)) (members : Members Task) :
    State.potential callers { s with members } + 5 * s.members.runnables.length =
      s.potential callers + 5 * members.runnables.length := by
  simp only [State.potential]
  omega

/-- **Every step is paid for.** -/
theorem potential_step {label : Label Thread Task} (once : callers.Nodup)
    (among : Among Label.caller? callers label) (taken : Step s label t) :
    t.potential callers + 1 ≤ s.potential callers + label.cost := by
  cases label with
  | construct =>
    obtain ⟨fresh, rfl⟩ := step_construct.mp taken
    simp [State.potential, fresh]
  | post caller task =>
    obtain ⟨⟨-, -, idle, -⟩, -, rfl⟩ := step_post.mp taken
    have small : Call.debt (if s.members.runnables.isEmpty then .pushed else .idle) ≤ 3 := by
      split
      · exact Nat.le_refl 3
      · exact Nat.zero_le 3
    have pushed := members_potential (s := s) callers
      ⟨s.members.runnables ++ [task], s.members.state⟩
    have share := setCall_potential (s := { s with
      members := ⟨s.members.runnables ++ [task], s.members.state⟩ }) once (among caller rfl)
      (if s.members.runnables.isEmpty then .pushed else .idle)
    rw [List.length_append, List.length_singleton] at pushed
    simp only [Label.cost]
    omega
  | refuse caller task =>
    obtain ⟨-, -, rfl⟩ := step_refuse.mp taken
    exact Nat.le_refl _
  | stop caller action site =>
    obtain ⟨⟨-, -, idle, -⟩, -, rfl⟩ := step_stop.mp taken
    have small : (Call.stopped site).debt ≤ 4 := by cases site <;> decide
    have same := members_potential (s := s) callers (s.members.stop action)
    have share := setCall_potential (s := { s with members := s.members.stop action }) once
      (among caller rfl) (.stopped site)
    rw [stop_runnables] at same
    simp only [Label.cost]
    omega
  | notify caller =>
    have wakes := notifyAll_potential (s := s) callers
    obtain ⟨pushed, rfl⟩ | ⟨site, stopped, rfl⟩ := step_notify.mp taken
    · have share := setCall_potential (s := s.notifyAll) once (among caller rfl) .idle
      rw [notifyAll_call, pushed] at share
      simp only [Label.cost, Call.debt] at share ⊢
      omega
    · have share := setCall_potential (s := s.notifyAll) once (among caller rfl) site.afterStop
      rw [notifyAll_call, stopped, ← afterStop_debt] at share
      simp only [Label.cost]
      omega
  | join caller =>
    obtain ⟨site, joining, -, rfl⟩ := step_join.mp taken
    have share := setCall_potential (s := s.joined site) once (among caller rfl) .idle
    have place : ((s.joined site).call caller).debt = 1 := congrArg Call.debt joining
    have same : (s.joined site).potential callers = s.potential callers := rfl
    have idle : Call.debt .idle = 0 := rfl
    simp only [Label.cost]
    omega
  | evaluate =>
    obtain ⟨waking, ⟨-, rfl⟩ | ⟨-, rfl⟩ | ⟨nonempty, -, rfl⟩⟩ := step_evaluate.mp taken
    · simp only [State.potential, waking, Worker.debt]
      omega
    · simp only [State.potential, waking, Worker.debt]
      omega
    · have one := List.length_pos_iff.mpr nonempty
      simp only [State.potential, waking, Worker.debt, List.length_nil]
      omega
  | sleep =>
    obtain ⟨waiting, rfl⟩ := step_sleep.mp taken
    simp only [State.potential, waiting, Worker.debt]
    omega
  | wakeSpuriously =>
    obtain ⟨blocked, rfl⟩ := step_wakeSpuriously.mp taken
    simp only [State.potential, blocked, Worker.debt, Label.cost]
    omega
  | announce =>
    obtain ⟨tasks, moved, rfl⟩ := step_announce.mp taken
    simp only [State.potential, moved, Worker.debt]
    omega
  | begin task =>
    obtain ⟨tasks, draining, rfl⟩ := step_begin.mp taken
    simp only [State.potential, draining, Worker.debt, List.length_cons]
    omega
  | finish task outcome =>
    obtain ⟨tasks, executing, -, rfl⟩ := step_finish.mp taken
    simp only [State.potential, executing, Worker.debt]
    omega
  | loop =>
    obtain ⟨draining, rfl⟩ := step_loop.mp taken
    simp only [State.potential, draining, Worker.debt]
    omega

/-- A step without a cost is one of the worker, or of a caller that is in a call. -/
theorem busy_of_free {label : Label Thread Task} {caller : Caller Thread} (taken : Step s label t)
    (free : label.cost = 0) (own : label.caller? = some caller) : s.Busy caller := by
  intro idle
  cases label with
  | notify other =>
    cases own
    obtain ⟨pushed, -⟩ | ⟨site, stopped, -⟩ := step_notify.mp taken <;> simp_all
  | join other =>
    cases own
    obtain ⟨site, joining, -⟩ := step_join.mp taken
    simp_all
  | post other task => cases free
  | refuse other task => cases free
  | stop other action site => cases free
  | _ => cases own

theorem callersPay : CallersPay Step Label.caller? State.Busy
    (fun callers (s : State Thread Task) => s.potential callers) Label.cost where
  frame := fun s label t caller taken elsewhere idle => by
    rwa [State.Busy, call_frame taken elsewhere]
  free := fun _ _ _ _ taken free own => busy_of_free taken free own
  pays := fun _ _ _ _ once among taken => potential_step once among taken

omit [DecidableEq Thread] [DecidableEq Task] in
/-- The worker is saved its way to the wait, and the constructor its step. -/
theorem potential_init (callers : List (Caller Thread)) :
    (init Thread Task).potential callers = 3 := by
  have free : debts Call.debt (init Thread Task).call callers = 0 := debts_eq_zero fun _ => rfl
  rw [State.potential, free]
  rfl

/-! ### Rest -/

/-- A caller that is in a stop has left one pending, and before the constructor is done nobody
calls. -/
structure Stopping (s : State Thread Task) : Prop where
  unborn : s.constructed = false → ∀ caller, s.call caller = .idle
  pending : ∀ caller site, s.call caller = .stopped site ∨ s.call caller = .joining site →
    s.members.isStopPending = true

/-- A stop stays pending. -/
theorem isStopPending_step {label : Label Thread Task} (taken : Step s label t)
    (constructed : s.constructed = true) (pending : s.members.isStopPending = true) :
    t.members.isStopPending = true := by
  rcases members_cases taken with ⟨caller, task, -, running, -⟩ | ⟨caller, action, site, -, same⟩ |
    ⟨-, fresh, -⟩ | ⟨-, -, -, -, same⟩ | ⟨-, same⟩
  · rw [pending] at running
    cases running
  · rw [same]
    exact stop_isStopPending action
  · rw [constructed] at fresh
    cases fresh
  · rw [same]
    exact pending
  · rw [same]
    exact pending

/-- Only a caller of a queue that is constructed takes steps. -/
theorem Stopping.constructed {label : Label Thread Task} {caller : Caller Thread}
    (stopping : Stopping s) (taken : Step s label t) (own : label.caller? = some caller) :
    s.constructed = true := by
  by_contra fresh
  have idle := stopping.unborn (Bool.eq_false_iff.mpr fresh) caller
  exact fresh (mayCall_of_idle taken own idle).1

/-- A caller comes to a stop by writing `m_state`, and stays in it. -/
theorem stop_of_step {label : Label Thread Task} {caller : Caller Thread} {site : StopSite}
    (taken : Step s label t) (own : label.caller? = some caller)
    (inside : t.call caller = .stopped site ∨ t.call caller = .joining site) :
    (∃ action site, label = .stop caller action site) ∨
      ∃ site, s.call caller = .stopped site ∨ s.call caller = .joining site := by
  cases label with
  | post other task =>
    cases own
    obtain ⟨-, -, rfl⟩ := step_post.mp taken
    rw [setCall_call_self] at inside
    split at inside <;> simp at inside
  | refuse other task =>
    obtain ⟨-, -, rfl⟩ := step_refuse.mp taken
    exact .inr ⟨site, inside⟩
  | stop other action within =>
    cases own
    exact .inl ⟨action, within, rfl⟩
  | notify other =>
    cases own
    obtain ⟨-, rfl⟩ | ⟨within, stopped, -⟩ := step_notify.mp taken
    · simp at inside
    · exact .inr ⟨within, .inl stopped⟩
  | join other =>
    cases own
    obtain ⟨within, joining, -⟩ := step_join.mp taken
    exact .inr ⟨within, .inr joining⟩
  | _ => cases own

theorem stopping_step {label : Label Thread Task} (taken : Step s label t)
    (stopping : Stopping s) : Stopping t where
  unborn := by
    intro fresh caller
    have before : s.constructed = false := Bool.eq_false_iff.mpr fun constructed => by
      simp [constructed_step taken constructed] at fresh
    by_cases own : label.caller? = some caller
    · rw [stopping.constructed taken own] at before
      cases before
    · rw [call_frame taken own]
      exact stopping.unborn before caller
  pending := by
    intro caller site inside
    by_cases own : label.caller? = some caller
    · rcases stop_of_step taken own inside with ⟨action, within, rfl⟩ | ⟨within, before⟩
      · obtain ⟨-, -, rfl⟩ := step_stop.mp taken
        exact stop_isStopPending action
      · exact isStopPending_step taken (stopping.constructed taken own)
          (stopping.pending caller within before)
    · rw [call_frame taken own] at inside
      have called : s.constructed = true := by
        by_contra fresh
        have idle := stopping.unborn (Bool.eq_false_iff.mpr fresh) caller
        simp [idle] at inside
      exact isStopPending_step taken called (stopping.pending caller site inside)

theorem stopping_run {trace : List (Label Thread Task)}
    (run : Run Step (init Thread Task) trace s) : Stopping s :=
  run.invariant Stopping ⟨fun _ _ => rfl, fun _ _ => by simp [init]⟩
    fun _ _ _ stopping taken => stopping_step taken stopping

theorem covered_run {trace : List (Label Thread Task)}
    (run : Run Step (init Thread Task) trace s) : (waitPoint Thread Task).Covered s :=
  waitPoint_disciplined.covered (fun _ _ _ unready taken => unready_step taken unready)
    (fun waiting => by cases waiting) (fun asleep => by cases asleep) run

/-- A state at rest takes no step of itself. -/
theorem not_step_of_rest (rest : AtRest Step Label.cost s) {label : Label Thread Task}
    (free : label.cost = 0) : ¬ Step s label t :=
  fun taken => rest label t ⟨free, taken⟩

/-- At rest a caller is in no call, or it joins a worker that has not left. -/
theorem call_of_rest (rest : AtRest Step Label.cost s) (caller : Caller Thread) :
    s.call caller = .idle ∨ ((∃ site, s.call caller = .joining site) ∧ caller ≠ .worker ∧
      s.worker ≠ .exited) := by
  cases place : s.call caller with
  | idle => exact .inl rfl
  | pushed => exact absurd (step_notify.mpr (.inl ⟨place, rfl⟩)) (not_step_of_rest rest rfl)
  | stopped site =>
    exact absurd (step_notify.mpr (.inr ⟨site, place, rfl⟩)) (not_step_of_rest rest rfl)
  | joining site =>
    have waits : ¬ s.JoinReturns caller := fun returns =>
      not_step_of_rest rest rfl (step_join.mpr ⟨site, place, returns, rfl⟩)
    exact .inr ⟨⟨site, rfl⟩, fun same => waits (.inr (.inl same)),
      fun left => waits (.inr (.inr left))⟩

/-- At rest the worker has left, or it is blocked. -/
theorem worker_of_rest (rest : AtRest Step Label.cost s) :
    s.worker = .exited ∨ s.worker = .blocked := by
  cases place : s.worker with
  | exited => exact .inl rfl
  | blocked => exact .inr rfl
  | waking =>
    -- the critical section of `process_queue` ends in one of three ways
    by_cases exit : s.members.shouldQueueExit = true
    · exact absurd (step_evaluate.mpr ⟨place, .inr (.inl ⟨exit, rfl⟩)⟩) (not_step_of_rest rest rfl)
    · have stay := Bool.eq_false_iff.mpr exit
      by_cases empty : s.members.runnables = []
      · have unmet : s.members.waitPredicate = false := by
          simp [Members.waitPredicate, empty, stay]
        exact absurd (step_evaluate.mpr ⟨place, .inl ⟨unmet, rfl⟩⟩) (not_step_of_rest rest rfl)
      · exact absurd (step_evaluate.mpr ⟨place, .inr (.inr ⟨empty, stay, rfl⟩)⟩)
          (not_step_of_rest rest rfl)
  | waiting => exact absurd (step_sleep.mpr ⟨place, rfl⟩) (not_step_of_rest rest rfl)
  | moved tasks =>
    exact absurd (step_announce.mpr ⟨tasks, place, rfl⟩) (not_step_of_rest rest rfl)
  | draining tasks =>
    cases tasks with
    | nil => exact absurd (step_loop.mpr ⟨place, rfl⟩) (not_step_of_rest rest rfl)
    | cons task tasks =>
      exact absurd (step_begin.mpr ⟨tasks, place, rfl⟩) (not_step_of_rest rest rfl)
  | executing task tasks =>
    -- the task itself is in no call that does not return
    have idle : s.call .worker = .idle :=
      (call_of_rest rest .worker).resolve_right fun joins => joins.2.1 rfl
    have finishes : Step s (.finish task .returned) { s with worker := .draining tasks } :=
      step_finish.mpr ⟨tasks, place, idle, rfl⟩
    exact absurd finishes (not_step_of_rest rest rfl)

/-- Nothing is to be done. -/
structure State.Quiet (s : State Thread Task) : Prop where
  constructed : s.constructed = true
  idle : ∀ caller, s.call caller = .idle
  worker : s.worker = .exited ∨
    (s.worker = .blocked ∧ s.members.runnables = [] ∧ s.members.isStopPending = false)

/-- A worker that is blocked while nobody is about to notify it has nothing to do. -/
theorem unmet_of_rest (covered : (waitPoint Thread Task).Covered s)
    (rest : AtRest Step Label.cost s) (blocked : s.worker = .blocked) :
    s.members.waitPredicate = false := by
  by_contra ready
  obtain ⟨caller, owes⟩ := covered blocked ((Bool.not_eq_false _).mp ready)
  obtain ⟨t, notifies, -⟩ := notify_of_owes owes
  exact not_step_of_rest rest rfl notifies

theorem quiet_of_rest (covered : (waitPoint Thread Task).Covered s) (stopping : Stopping s)
    (rest : AtRest Step Label.cost s) : s.Quiet := by
  have constructed : s.constructed = true := by
    by_contra fresh
    exact not_step_of_rest rest rfl (step_construct.mpr ⟨Bool.eq_false_iff.mpr fresh, rfl⟩)
  rcases worker_of_rest rest with left | blocked
  · exact ⟨constructed, fun caller => (call_of_rest rest caller).resolve_right
      fun joins => joins.2.2 left, .inl left⟩
  · have unmet := unmet_of_rest covered rest blocked
    have empty : s.members.runnables = [] ∧ s.members.shouldQueueExit = false := by
      simpa [Members.waitPredicate] using unmet
    have running : s.members.isStopPending = false := by
      have stays := empty.2
      unfold Members.shouldQueueExit at stays
      unfold Members.isStopPending
      split at stays <;> simp_all
    refine ⟨constructed, fun caller => (call_of_rest rest caller).resolve_right ?_,
      .inr ⟨blocked, empty.1, running⟩⟩
    -- a caller that joins has left a stop pending
    rintro ⟨⟨site, joining⟩, -⟩
    rw [stopping.pending caller site (.inr joining)] at running
    cases running

/-- Where nothing is to be done, nothing is. -/
theorem rest_of_quiet (quiet : s.Quiet) : AtRest Step Label.cost s := by
  rintro label t ⟨free, taken⟩
  cases own : label.caller? with
  | some caller =>
    exact busy_of_free taken free own (quiet.idle caller)
  | none =>
    by_cases built : label = .construct
    · rw [built] at taken
      obtain ⟨fresh, -⟩ := step_construct.mp taken
      rw [quiet.constructed] at fresh
      cases fresh
    · obtain ⟨inside, wakes⟩ := worker_moves taken own built
      obtain ⟨blocked, -⟩ := quiet.worker.resolve_left inside
      rw [wakes blocked] at free
      cases free

/-- **The queue comes to rest.** A run is no longer than what its posts, stops and spurious wake-ups
cost; from the state it reaches, the threads come to rest by themselves; and a state that it reaches
is at rest exactly if nobody is in a call and the worker has left, or is blocked on an empty queue
without a stop, all accepted tasks executed. -/
theorem queue_comes_to_rest {trace : List (Label Thread Task)}
    (run : Run Step (init Thread Task) trace s) :
    trace.length ≤ 3 + total Label.cost trace ∧
      (∃ rest t, Run (Internal Step Label.cost) s rest t ∧ AtRest Step Label.cost t) ∧
      (AtRest Step Label.cost s ↔ s.Quiet) ∧
      (AtRest Step Label.cost s → s.worker ≠ .exited → finished trace = accepted trace) := by
  have quiet := quiet_of_rest (covered_run run) (stopping_run run)
  have idle : ∀ caller, ¬ (init Thread Task).Busy caller := fun caller busy => busy rfl
  refine ⟨callersPay.length_le idle (fun callers => Nat.le_of_eq (potential_init callers)) run,
    callersPay.comes_to_rest idle run, ⟨quiet, rest_of_quiet⟩, fun rest inside => ?_⟩
  obtain ⟨blocked, empty, -⟩ := (quiet rest).worker.resolve_left inside
  have conserved := pending_conserved run
  have serial := begun_eq_finished run
  have nothing : s.pending = [] := by simp [State.pending, blocked, empty, Worker.batch]
  have unstarted : (init Thread Task).pending = [] := rfl
  rw [nothing, unstarted, List.append_nil, List.nil_append] at conserved
  rw [blocked, show (Worker.blocked : Worker Task).current.toList = [] from rfl, List.append_nil]
    at serial
  exact serial.symm.trans conserved

/-- A client posts a task, which posts another one; then the worker blocks. -/
def restingTrace : List (Label Nat Nat) :=
  [.construct, .evaluate, .sleep, .post (.client 0) 1, .notify (.client 0), .evaluate, .announce,
    .begin 1, .post .worker 2, .notify .worker, .finish 1 .threw, .loop, .evaluate, .announce,
    .begin 2, .finish 2 .returned, .loop, .evaluate, .sleep]

theorem queue_comes_to_rest_blocked : ∃ s, Run Step (init Nat Nat) restingTrace s ∧
    s.worker = .blocked ∧ restingTrace.length ≤ 3 + total Label.cost restingTrace ∧
    ∃ rest t, Run (Internal Step Label.cost) s rest t ∧ AtRest Step Label.cost t := by
  have run : Run Step (init Nat Nat) restingTrace _ := run_of_execute rfl
  exact ⟨_, run, rfl, (queue_comes_to_rest run).1, (queue_comes_to_rest run).2.1⟩

end

end NearObject.TaskQueue
