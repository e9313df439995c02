/-
**`notstd::task_queue` — no wake-up of the worker is lost.**

`post` and `stop` notify after they have released the gate, and `post` only where `m_runnables` was
empty before its push. The wait in `process_queue` is a wait point of the discipline in
`Transition.Wakeup`:

* the worker falls asleep on a false predicate, since from the evaluation of the predicate until it
  blocks it holds the gate (`Unready`);
* a push onto an empty queue and a `stop` leave their caller before its `notify_all`;
* a push onto a queue that is not empty relies on the notification of an earlier one.
-/

import NearObject.TaskQueue.Steps
import NearObject.Transition.Wakeup

namespace NearObject.TaskQueue

open Transition

section

variable {Thread Task : Type} {s t : State Thread Task}

/-- The `notify_all` of this caller's `post` or `stop` is still ahead of it. -/
def State.Owes (s : State Thread Task) (caller : Caller Thread) : Prop :=
  s.call caller = .pushed ∨ ∃ site, s.call caller = .stopped site

/-- The wait in `process_queue`. -/
def waitPoint (Thread Task : Type) : WaitPoint (State Thread Task) where
  asleep := fun s => s.worker = .blocked
  ready := fun s => s.members.waitPredicate = true
  owed := fun s => ∃ caller, s.Owes caller

/-- The predicate stays false while the worker holds the gate on its way to `wait`. -/
def Unready (s : State Thread Task) : Prop :=
  s.worker = .waiting → s.members.waitPredicate = false

theorem not_owes_of_idle {caller : Caller Thread} (idle : s.call caller = .idle) :
    ¬ s.Owes caller := by
  simp [State.Owes, idle]

/-- The constructor's write does not make the predicate true. -/
theorem waitPredicate_running {members : Members Task}
    (ready : { members with state := .running : Members Task }.waitPredicate = true) :
    members.waitPredicate = true := by
  have nonempty : members.runnables.isEmpty = false := by
    simpa [Members.waitPredicate, Members.shouldQueueExit] using ready
  simp [Members.waitPredicate, nonempty]

variable [DecidableEq Thread] [DecidableEq Task]

/-- A caller that owes a notification can issue it, and then the worker is not blocked. -/
theorem notify_of_owes {caller : Caller Thread} (owes : s.Owes caller) :
    ∃ t, Step s (.notify caller) t ∧ t.worker ≠ .blocked := by
  rcases owes with pushed | ⟨site, stopped⟩
  · exact ⟨_, step_notify.mpr (.inl ⟨pushed, rfl⟩), notifyAll_worker_ne⟩
  · exact ⟨_, step_notify.mpr (.inr ⟨site, stopped, rfl⟩), notifyAll_worker_ne⟩

/-- What one caller owes does not depend on the steps of the others. -/
theorem owes_frame {label : Label Thread Task} {caller : Caller Thread} (taken : Step s label t)
    (elsewhere : label.caller? ≠ some caller) (owes : s.Owes caller) : t.Owes caller := by
  rw [State.Owes, call_frame taken elsewhere]
  exact owes

/-- A step of a caller that owes nothing leaves what is owed. -/
theorem owed_frame {label : Label Thread Task} {caller : Caller Thread} (taken : Step s label t)
    (own : label.caller? = some caller) (free : ¬ s.Owes caller) (owed : ∃ other, s.Owes other) :
    ∃ other, t.Owes other := by
  obtain ⟨other, owes⟩ := owed
  refine ⟨other, owes_frame taken (fun same => ?_) owes⟩
  obtain rfl := Option.some.inj (own.symm.trans same)
  exact free owes

theorem unready_step {label : Label Thread Task} (taken : Step s label t) (unready : Unready s) :
    Unready t := by
  intro waiting
  cases label with
  | construct =>
    obtain ⟨-, rfl⟩ := step_construct.mp taken
    refine Bool.eq_false_iff.mpr fun ready => ?_
    have before := waitPredicate_running ready
    rw [unready waiting] at before
    cases before
  | post caller task =>
    obtain ⟨⟨-, -, -, free, -⟩, -, rfl⟩ := step_post.mp taken
    exact absurd waiting free
  | refuse caller task =>
    obtain ⟨-, -, rfl⟩ := step_refuse.mp taken
    exact unready waiting
  | stop caller action site =>
    obtain ⟨⟨-, -, -, free, -⟩, -, rfl⟩ := step_stop.mp taken
    exact absurd waiting free
  | notify caller =>
    obtain ⟨-, rfl⟩ | ⟨site, -, rfl⟩ := step_notify.mp taken
    · rw [setCall_worker, notifyAll_waiting] at waiting
      simpa using unready waiting
    · rw [setCall_worker, notifyAll_waiting] at waiting
      simpa using unready waiting
  | join caller =>
    obtain ⟨site, -, -, rfl⟩ := step_join.mp taken
    exact unready waiting
  | evaluate =>
    obtain ⟨-, ⟨unmet, rfl⟩ | ⟨-, rfl⟩ | ⟨-, -, rfl⟩⟩ := step_evaluate.mp taken
    · exact unmet
    · cases waiting
    · cases waiting
  | sleep =>
    obtain ⟨-, rfl⟩ := step_sleep.mp taken
    cases waiting
  | wakeSpuriously =>
    obtain ⟨-, rfl⟩ := step_wakeSpuriously.mp taken
    cases waiting
  | announce =>
    obtain ⟨tasks, -, rfl⟩ := step_announce.mp taken
    cases waiting
  | begin task =>
    obtain ⟨tasks, -, rfl⟩ := step_begin.mp taken
    cases waiting
  | finish task outcome =>
    obtain ⟨tasks, -, -, rfl⟩ := step_finish.mp taken
    cases waiting
  | loop =>
    obtain ⟨-, rfl⟩ := step_loop.mp taken
    cases waiting

/-- The worker blocks only by releasing the gate in `wait`. -/
theorem falls_asleep {label : Label Thread Task} (taken : Step s label t)
    (awake : s.worker ≠ .blocked) (asleep : t.worker = .blocked) :
    s.worker = .waiting ∧ t.members = s.members := by
  cases label with
  | construct =>
    obtain ⟨-, rfl⟩ := step_construct.mp taken
    exact absurd asleep awake
  | evaluate =>
    obtain ⟨-, ⟨-, rfl⟩ | ⟨-, rfl⟩ | ⟨-, -, rfl⟩⟩ := step_evaluate.mp taken <;> cases asleep
  | sleep =>
    obtain ⟨waiting, rfl⟩ := step_sleep.mp taken
    exact ⟨waiting, rfl⟩
  | wakeSpuriously =>
    obtain ⟨-, rfl⟩ := step_wakeSpuriously.mp taken
    cases asleep
  | announce =>
    obtain ⟨tasks, -, rfl⟩ := step_announce.mp taken
    cases asleep
  | begin task =>
    obtain ⟨tasks, -, rfl⟩ := step_begin.mp taken
    cases asleep
  | finish task outcome =>
    obtain ⟨tasks, -, -, rfl⟩ := step_finish.mp taken
    cases asleep
  | loop =>
    obtain ⟨-, rfl⟩ := step_loop.mp taken
    cases asleep
  | _ =>
    rcases worker_frame taken rfl with same | same
    · exact absurd (same.symm.trans asleep) awake
    · exact absurd (same.symm.trans asleep) notifyAll_worker_ne

/-- What makes the predicate true while the worker sleeps owes it a notification. -/
theorem owed_step {label : Label Thread Task} (taken : Step s label t)
    (blocked : s.worker = .blocked)
    (covered : s.members.waitPredicate = true → ∃ caller, s.Owes caller)
    (asleep : t.worker = .blocked) (ready : t.members.waitPredicate = true) :
    ∃ caller, t.Owes caller := by
  cases label with
  | construct =>
    obtain ⟨-, rfl⟩ := step_construct.mp taken
    exact covered (waitPredicate_running ready)
  | post caller task =>
    obtain ⟨may, -, same⟩ := step_post.mp taken
    cases runnables : s.members.runnables with
    | nil =>
      refine ⟨caller, .inl ?_⟩
      rw [same, runnables]
      exact setCall_call_self ..
    | cons head rest =>
      -- an earlier push made the queue non-empty, and its notification is still to come
      refine owed_frame taken rfl (not_owes_of_idle may.2.2.1) (covered ?_)
      simp [Members.waitPredicate, runnables]
  | refuse caller task =>
    obtain ⟨-, -, rfl⟩ := step_refuse.mp taken
    exact covered ready
  | stop caller action site =>
    obtain ⟨-, -, rfl⟩ := step_stop.mp taken
    exact ⟨caller, .inr ⟨site, setCall_call_self ..⟩⟩
  | notify caller =>
    obtain ⟨-, rfl⟩ | ⟨site, -, rfl⟩ := step_notify.mp taken
    · exact absurd asleep notifyAll_worker_ne
    · exact absurd asleep notifyAll_worker_ne
  | join caller =>
    obtain ⟨site, joining, -, same⟩ := step_join.mp taken
    have free : ¬ s.Owes caller := by simp [State.Owes, joining]
    refine owed_frame taken rfl free (covered ?_)
    rw [same] at ready
    exact ready
  | wakeSpuriously =>
    obtain ⟨-, rfl⟩ := step_wakeSpuriously.mp taken
    cases asleep
  | _ =>
    -- a blocked worker does nothing else
    have wakes := (worker_moves taken rfl (fun same => by cases same)).2 blocked
    cases wakes

theorem waitPoint_disciplined : (waitPoint Thread Task).Disciplined Unready Step where
  falling := by
    intro s label t unready taken awake asleep ready
    obtain ⟨waiting, same⟩ := falls_asleep taken awake asleep
    have unmet : t.members.waitPredicate = false := same ▸ unready waiting
    exact absurd ready (Bool.eq_false_iff.mp unmet)
  sleeping := fun s label t _ taken blocked covered asleep ready =>
    owed_step taken blocked covered asleep ready

/-- **No lost wake-up.** A worker that is blocked and not notified has nothing to do, or a caller
whose change it has not seen is about to notify it. -/
theorem no_lost_wakeup {trace : List (Label Thread Task)}
    (run : Run Step (init Thread Task) trace s) (blocked : s.worker = .blocked) :
    s.members.waitPredicate = false ∨ ∃ caller, s.Owes caller ∧
      ∃ t, Step s (.notify caller) t ∧ t.worker ≠ .blocked := by
  have covered :=
    waitPoint_disciplined.covered (fun _ _ _ unready taken => unready_step taken unready)
    (fun waiting => by cases waiting) (fun asleep => by cases asleep) run
  rcases Bool.eq_false_or_eq_true s.members.waitPredicate with ready | unmet
  · obtain ⟨caller, owes⟩ := covered blocked ready
    exact .inr ⟨caller, owes, notify_of_owes owes⟩
  · exact .inl unmet

/-- Two clients push while the worker is blocked; only the first of them will notify. -/
def secondPusherTrace : List (Label Nat Nat) :=
  [.construct, .evaluate, .sleep, .post (.client 0) 1, .post (.client 1) 2]

theorem no_lost_wakeup_second_pusher : ∃ s, Run Step (init Nat Nat) secondPusherTrace s ∧
    s.call (.client 1) = .idle ∧ s.members.runnables = [1, 2] ∧
    (s.members.waitPredicate = false ∨ ∃ caller, s.Owes caller ∧
      ∃ t, Step s (.notify caller) t ∧ t.worker ≠ .blocked) := by
  have run : Run Step (init Nat Nat) secondPusherTrace _ := run_of_execute rfl
  exact ⟨_, run, rfl, rfl, no_lost_wakeup run rfl⟩

end

end NearObject.TaskQueue
