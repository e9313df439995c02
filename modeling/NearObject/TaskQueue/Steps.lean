/-
**`notstd::task_queue` — what each step can do.**

One lemma for each label: when it is enabled, and the state it leads to. Everything later is derived
from these; no other module unfolds `step`.
-/

import NearObject.TaskQueue.Model

namespace NearObject.TaskQueue

open Transition

section State

variable {Thread Task : Type} {s : State Thread Task}

/-! ### Writing the place of a caller -/

section SetCall

variable [DecidableEq Thread] (caller : Caller Thread) (call : Call)

@[simp] theorem setCall_members : (s.setCall caller call).members = s.members := rfl

@[simp] theorem setCall_worker : (s.setCall caller call).worker = s.worker := rfl

@[simp] theorem setCall_joinable : (s.setCall caller call).joinable = s.joinable := rfl

@[simp] theorem setCall_constructed : (s.setCall caller call).constructed = s.constructed := rfl

@[simp] theorem setCall_destroyed : (s.setCall caller call).destroyed = s.destroyed := rfl

@[simp] theorem setCall_call_self : (s.setCall caller call).call caller = call :=
  Function.update_self ..

theorem setCall_call_of_ne {caller other : Caller Thread} (different : other ≠ caller)
    (call : Call) : (s.setCall caller call).call other = s.call other :=
  Function.update_of_ne different ..

end SetCall

/-! ### `notify_all` -/

@[simp] theorem notifyAll_members : s.notifyAll.members = s.members := by
  unfold State.notifyAll
  split <;> rfl

@[simp] theorem notifyAll_call : s.notifyAll.call = s.call := by
  unfold State.notifyAll
  split <;> rfl

@[simp] theorem notifyAll_joinable : s.notifyAll.joinable = s.joinable := by
  unfold State.notifyAll
  split <;> rfl

@[simp] theorem notifyAll_constructed : s.notifyAll.constructed = s.constructed := by
  unfold State.notifyAll
  split <;> rfl

@[simp] theorem notifyAll_destroyed : s.notifyAll.destroyed = s.destroyed := by
  unfold State.notifyAll
  split <;> rfl

/-- Nobody is blocked after a `notify_all`. -/
theorem notifyAll_worker_ne : s.notifyAll.worker ≠ .blocked := by
  unfold State.notifyAll
  split
  · exact fun same => by cases same
  · rename_i awake
    exact awake

/-- A `notify_all` does nothing to a worker that is not blocked. -/
theorem notifyAll_of_ne (awake : s.worker ≠ .blocked) : s.notifyAll = s := by
  unfold State.notifyAll
  split
  · rename_i blocked
    exact absurd blocked awake
  · rfl

@[simp] theorem notifyAll_batch : s.notifyAll.worker.batch = s.worker.batch := by
  unfold State.notifyAll
  split
  · rename_i blocked
    simp [blocked, Worker.batch]
  · rfl

@[simp] theorem notifyAll_current : s.notifyAll.worker.current = s.worker.current := by
  unfold State.notifyAll
  split
  · rename_i blocked
    simp [blocked, Worker.current]
  · rfl

@[simp] theorem notifyAll_exited : s.notifyAll.worker = .exited ↔ s.worker = .exited := by
  unfold State.notifyAll
  split
  · rename_i blocked
    simp [blocked]
  · rfl

@[simp] theorem notifyAll_waiting : s.notifyAll.worker = .waiting ↔ s.worker = .waiting := by
  unfold State.notifyAll
  split
  · rename_i blocked
    simp [blocked]
  · rfl

end State

/-! ### The critical sections -/

section Sections

variable {Task : Type} {members after : Members Task} {task : Task}

theorem post_eq_some {wasEmpty : Bool} :
    members.post task = some (after, wasEmpty) ↔
      members.isStopPending = false ∧
        after = { members with runnables := members.runnables ++ [task] } ∧
        wasEmpty = members.runnables.isEmpty := by
  unfold Members.post
  split
  · rename_i pending
    simp [pending]
  · rename_i running
    simp only [Option.some.injEq, Prod.mk.injEq]
    constructor
    · rintro ⟨rfl, rfl⟩
      exact ⟨Bool.eq_false_iff.mpr running, rfl, rfl⟩
    · rintro ⟨-, rfl, rfl⟩
      exact ⟨rfl, rfl⟩

theorem post_eq_none : members.post task = none ↔ members.isStopPending = true := by
  unfold Members.post
  split <;> simp_all

@[simp] theorem stop_runnables (action : PendingTaskAction) :
    (members.stop action).runnables = members.runnables := by
  cases action <;> rfl

theorem stop_isStopPending (action : PendingTaskAction) :
    (members.stop action).isStopPending = true := by
  cases action <;> rfl

/-- A queue that must exit satisfies the wait predicate. -/
theorem waitPredicate_of_exit (exit : members.shouldQueueExit = true) :
    members.waitPredicate = true := by
  simp [Members.waitPredicate, exit]

end Sections

/-! ### One lemma for each label -/

section Labels

variable {Thread Task : Type} [DecidableEq Thread] [DecidableEq Task] {s t : State Thread Task}

theorem step_construct :
    Step s .construct t ↔ s.constructed = false ∧
      t = { s with members := { s.members with state := .running }, constructed := true } := by
  simp only [Step, Next, step]
  cases s.constructed <;> simp [eq_comm (b := t)]

theorem step_post {caller : Caller Thread} {task : Task} :
    Step s (.post caller task) t ↔ s.MayCall caller ∧ s.members.isStopPending = false ∧
      t = { s with
          members := { s.members with runnables := s.members.runnables ++ [task] } }.setCall caller
        (if s.members.runnables.isEmpty then .pushed else .idle) := by
  simp only [Step, Next, step]
  split
  · rename_i may
    simp only [Option.map_eq_some_iff, Prod.exists, post_eq_some, may, true_and]
    constructor
    · rintro ⟨_, _, ⟨running, rfl, rfl⟩, rfl⟩
      exact ⟨running, rfl⟩
    · rintro ⟨running, rfl⟩
      exact ⟨_, _, ⟨running, rfl, rfl⟩, rfl⟩
  · rename_i mayNot
    simp [mayNot]

theorem step_refuse {caller : Caller Thread} {task : Task} :
    Step s (.refuse caller task) t ↔
      s.MayCall caller ∧ s.members.isStopPending = true ∧ t = s := by
  simp only [Step, Next, step, Option.isNone_iff_eq_none, post_eq_none,
    Option.ite_none_right_eq_some, Option.some.injEq, eq_comm (b := t), and_assoc]

theorem step_stop {caller : Caller Thread} {action : PendingTaskAction} {site : StopSite} :
    Step s (.stop caller action site) t ↔ s.MayCall caller ∧ site.Accepts caller action ∧
      t = { s with members := s.members.stop action }.setCall caller (.stopped site) := by
  simp only [Step, Next, step, Option.ite_none_right_eq_some, Option.some.injEq,
    eq_comm (b := t), and_assoc]

theorem step_notify {caller : Caller Thread} :
    Step s (.notify caller) t ↔
      (s.call caller = .pushed ∧ t = s.notifyAll.setCall caller .idle) ∨
      ∃ site, s.call caller = .stopped site ∧ t = s.notifyAll.setCall caller site.afterStop := by
  simp only [Step, Next, step]
  cases s.call caller <;> simp [eq_comm (b := t)]

theorem step_join {caller : Caller Thread} :
    Step s (.join caller) t ↔ ∃ site, s.call caller = .joining site ∧ s.JoinReturns caller ∧
      t = (s.joined site).setCall caller .idle := by
  simp only [Step, Next, step]
  cases s.call caller <;> simp [eq_comm (b := t)]

theorem step_evaluate :
    Step s .evaluate t ↔ s.worker = .waking ∧
      ((s.members.waitPredicate = false ∧ t = { s with worker := .waiting }) ∨
        (s.members.shouldQueueExit = true ∧ t = { s with worker := .exited }) ∨
        (s.members.runnables ≠ [] ∧ s.members.shouldQueueExit = false ∧
          t = { s with
            members := { s.members with runnables := [] }
            worker := .moved s.members.runnables })) := by
  simp only [Step, Next, step]
  cases s.worker <;> try simp
  simp only [Members.processQueue]
  by_cases exit : s.members.shouldQueueExit = true
  · simp [exit, waitPredicate_of_exit exit, eq_comm (b := t)]
  · by_cases empty : s.members.runnables = [] <;>
      simp [exit, empty, Members.waitPredicate, eq_comm (b := t)]

theorem step_sleep :
    Step s .sleep t ↔ s.worker = .waiting ∧ t = { s with worker := .blocked } := by
  simp only [Step, Next, step]
  cases s.worker <;> simp [eq_comm (b := t)]

theorem step_wakeSpuriously :
    Step s .wakeSpuriously t ↔ s.worker = .blocked ∧ t = { s with worker := .waking } := by
  simp only [Step, Next, step]
  cases s.worker <;> simp [eq_comm (b := t)]

theorem step_announce :
    Step s .announce t ↔
      ∃ tasks, s.worker = .moved tasks ∧ t = { s with worker := .draining tasks } := by
  simp only [Step, Next, step]
  cases s.worker <;> simp [eq_comm (b := t)]

theorem step_begin {task : Task} :
    Step s (.begin task) t ↔ ∃ tasks, s.worker = .draining (task :: tasks) ∧
      t = { s with worker := .executing task tasks } := by
  simp only [Step, Next, step]
  split <;> simp_all [eq_comm (b := t)]

theorem step_finish {task : Task} {outcome : Outcome} :
    Step s (.finish task outcome) t ↔ ∃ tasks, s.worker = .executing task tasks ∧
      s.call .worker = .idle ∧ t = { s with worker := .draining tasks } := by
  simp only [Step, Next, step]
  cases s.worker <;> simp [eq_comm (b := t), and_assoc]

theorem step_loop :
    Step s .loop t ↔ s.worker = .draining [] ∧ t = { s with worker := .waking } := by
  simp only [Step, Next, step]
  split <;> simp_all [eq_comm (b := t)]

/-! ### What a step leaves alone -/

/-- The caller whose call a label is part of; the labels of the constructor and of the worker's loop
have none. -/
def Label.caller? : Label Thread Task → Option (Caller Thread)
  | .post caller _ | .refuse caller _ | .stop caller _ _ | .notify caller | .join caller =>
    some caller
  | _ => none

/-- Only a caller's own steps move it. -/
theorem call_frame {label : Label Thread Task} {other : Caller Thread} (taken : Step s label t)
    (elsewhere : label.caller? ≠ some other) : t.call other = s.call other := by
  have different {caller : Caller Thread} (own : label.caller? = some caller) : other ≠ caller :=
    fun same => elsewhere (same ▸ own)
  cases label with
  | construct =>
    obtain ⟨-, rfl⟩ := step_construct.mp taken
    rfl
  | post caller task =>
    obtain ⟨-, -, rfl⟩ := step_post.mp taken
    exact setCall_call_of_ne (different rfl) _
  | refuse caller task =>
    obtain ⟨-, -, rfl⟩ := step_refuse.mp taken
    rfl
  | stop caller action site =>
    obtain ⟨-, -, rfl⟩ := step_stop.mp taken
    exact setCall_call_of_ne (different rfl) _
  | notify caller =>
    obtain ⟨-, rfl⟩ | ⟨site, -, rfl⟩ := step_notify.mp taken <;>
      rw [setCall_call_of_ne (different rfl), notifyAll_call]
  | join caller =>
    obtain ⟨site, -, -, rfl⟩ := step_join.mp taken
    exact setCall_call_of_ne (different rfl) _
  | evaluate =>
    obtain ⟨-, ⟨-, rfl⟩ | ⟨-, rfl⟩ | ⟨-, -, rfl⟩⟩ := step_evaluate.mp taken <;> rfl
  | sleep =>
    obtain ⟨-, rfl⟩ := step_sleep.mp taken
    rfl
  | wakeSpuriously =>
    obtain ⟨-, rfl⟩ := step_wakeSpuriously.mp taken
    rfl
  | announce =>
    obtain ⟨tasks, -, rfl⟩ := step_announce.mp taken
    rfl
  | begin task =>
    obtain ⟨tasks, -, rfl⟩ := step_begin.mp taken
    rfl
  | finish task outcome =>
    obtain ⟨tasks, -, -, rfl⟩ := step_finish.mp taken
    rfl
  | loop =>
    obtain ⟨-, rfl⟩ := step_loop.mp taken
    rfl

/-- A caller's step leaves the worker where it is, but for a wake-up. -/
theorem worker_frame {label : Label Thread Task} {caller : Caller Thread} (taken : Step s label t)
    (own : label.caller? = some caller) : t.worker = s.worker ∨ t.worker = s.notifyAll.worker := by
  cases label with
  | post caller task =>
    obtain ⟨-, -, rfl⟩ := step_post.mp taken
    exact .inl rfl
  | refuse caller task =>
    obtain ⟨-, -, rfl⟩ := step_refuse.mp taken
    exact .inl rfl
  | stop caller action site =>
    obtain ⟨-, -, rfl⟩ := step_stop.mp taken
    exact .inl rfl
  | notify caller =>
    obtain ⟨-, rfl⟩ | ⟨site, -, rfl⟩ := step_notify.mp taken <;> exact .inr rfl
  | join caller =>
    obtain ⟨site, -, -, rfl⟩ := step_join.mp taken
    exact .inl rfl
  | _ => cases own

theorem current_frame {label : Label Thread Task} {caller : Caller Thread} (taken : Step s label t)
    (own : label.caller? = some caller) : t.worker.current = s.worker.current := by
  rcases worker_frame taken own with same | same <;> simp [same]

/-- A caller that is between two calls takes part in a step only by starting one. -/
theorem mayCall_of_idle {label : Label Thread Task} {caller : Caller Thread}
    (taken : Step s label t) (own : label.caller? = some caller) (idle : s.call caller = .idle) :
    s.MayCall caller := by
  cases label with
  | post other task =>
    cases own
    exact (step_post.mp taken).1
  | refuse other task =>
    cases own
    exact (step_refuse.mp taken).1
  | stop other action site =>
    cases own
    exact (step_stop.mp taken).1
  | notify other =>
    cases own
    obtain ⟨pushed, -⟩ | ⟨site, stopped, -⟩ := step_notify.mp taken <;> simp_all
  | join other =>
    cases own
    obtain ⟨site, joining, -⟩ := step_join.mp taken
    simp_all
  | _ => cases own

/-- **What a step does to the guarded members.** A `post`, a `stop`, the constructor and the batch
move write them; nothing else does. -/
theorem members_cases {label : Label Thread Task} (taken : Step s label t) :
    (∃ caller task, label = .post caller task ∧ s.members.isStopPending = false ∧
      t.members = { s.members with runnables := s.members.runnables ++ [task] }) ∨
    (∃ caller action site, label = .stop caller action site ∧
      t.members = s.members.stop action) ∨
    (label = .construct ∧ s.constructed = false ∧
      t.members = { s.members with state := .running }) ∨
    (label = .evaluate ∧ s.worker = .waking ∧ s.members.runnables ≠ [] ∧
      s.members.shouldQueueExit = false ∧ t.members = { s.members with runnables := [] }) ∨
    (accepted [label] = [] ∧ t.members = s.members) := by
  cases label with
  | construct =>
    obtain ⟨fresh, rfl⟩ := step_construct.mp taken
    exact .inr (.inr (.inl ⟨rfl, fresh, rfl⟩))
  | post caller task =>
    obtain ⟨-, running, rfl⟩ := step_post.mp taken
    exact .inl ⟨caller, task, rfl, running, rfl⟩
  | stop caller action site =>
    obtain ⟨-, -, rfl⟩ := step_stop.mp taken
    exact .inr (.inl ⟨caller, action, site, rfl, rfl⟩)
  | evaluate =>
    obtain ⟨waking, ⟨-, rfl⟩ | ⟨-, rfl⟩ | ⟨nonempty, stay, rfl⟩⟩ := step_evaluate.mp taken
    · exact .inr (.inr (.inr (.inr ⟨rfl, rfl⟩)))
    · exact .inr (.inr (.inr (.inr ⟨rfl, rfl⟩)))
    · exact .inr (.inr (.inr (.inl ⟨rfl, waking, nonempty, stay, rfl⟩)))
  | refuse caller task =>
    obtain ⟨-, -, rfl⟩ := step_refuse.mp taken
    exact .inr (.inr (.inr (.inr ⟨rfl, rfl⟩)))
  | notify caller =>
    obtain ⟨-, rfl⟩ | ⟨site, -, rfl⟩ := step_notify.mp taken <;>
      exact .inr (.inr (.inr (.inr ⟨rfl, by simp⟩)))
  | join caller =>
    obtain ⟨site, -, -, rfl⟩ := step_join.mp taken
    exact .inr (.inr (.inr (.inr ⟨rfl, rfl⟩)))
  | sleep =>
    obtain ⟨-, rfl⟩ := step_sleep.mp taken
    exact .inr (.inr (.inr (.inr ⟨rfl, rfl⟩)))
  | wakeSpuriously =>
    obtain ⟨-, rfl⟩ := step_wakeSpuriously.mp taken
    exact .inr (.inr (.inr (.inr ⟨rfl, rfl⟩)))
  | announce =>
    obtain ⟨tasks, -, rfl⟩ := step_announce.mp taken
    exact .inr (.inr (.inr (.inr ⟨rfl, rfl⟩)))
  | begin task =>
    obtain ⟨tasks, -, rfl⟩ := step_begin.mp taken
    exact .inr (.inr (.inr (.inr ⟨rfl, rfl⟩)))
  | finish task outcome =>
    obtain ⟨tasks, -, -, rfl⟩ := step_finish.mp taken
    exact .inr (.inr (.inr (.inr ⟨rfl, rfl⟩)))
  | loop =>
    obtain ⟨-, rfl⟩ := step_loop.mp taken
    exact .inr (.inr (.inr (.inr ⟨rfl, rfl⟩)))

/-- The steps of the worker: it has not left `process_queue`, and where it is blocked it wakes. -/
theorem worker_moves {label : Label Thread Task} (taken : Step s label t)
    (loop : label.caller? = none) (built : label ≠ .construct) :
    s.worker ≠ .exited ∧ (s.worker = .blocked → label = .wakeSpuriously) := by
  cases label with
  | construct => exact absurd rfl built
  | evaluate =>
    obtain ⟨waking, -⟩ := step_evaluate.mp taken
    simp [waking]
  | sleep =>
    obtain ⟨waiting, -⟩ := step_sleep.mp taken
    simp [waiting]
  | wakeSpuriously =>
    obtain ⟨blocked, -⟩ := step_wakeSpuriously.mp taken
    simp [blocked]
  | announce =>
    obtain ⟨tasks, moved, -⟩ := step_announce.mp taken
    simp [moved]
  | begin task =>
    obtain ⟨tasks, draining, -⟩ := step_begin.mp taken
    simp [draining]
  | finish task outcome =>
    obtain ⟨tasks, executing, -⟩ := step_finish.mp taken
    simp [executing]
  | loop =>
    obtain ⟨draining, -⟩ := step_loop.mp taken
    simp [draining]
  | _ => cases loop

/-- A worker that has left `process_queue` does not come back. -/
theorem exited_step {label : Label Thread Task} (taken : Step s label t)
    (left : s.worker = .exited) : t.worker = .exited := by
  cases own : label.caller? with
  | some caller => rcases worker_frame taken own with same | same <;> simp [same, left]
  | none =>
    by_cases built : label = .construct
    · rw [built] at taken
      obtain ⟨-, rfl⟩ := step_construct.mp taken
      exact left
    · exact absurd left (worker_moves taken own built).1

/-- Only the constructor writes `constructed`, and only a join `joinable` and `destroyed`. -/
theorem flags_frame {label : Label Thread Task} (taken : Step s label t) :
    (label ≠ .construct → t.constructed = s.constructed) ∧
      ((∀ caller, label ≠ .join caller) → t.joinable = s.joinable ∧ t.destroyed = s.destroyed) := by
  cases label with
  | construct =>
    obtain ⟨-, rfl⟩ := step_construct.mp taken
    exact ⟨fun other => absurd rfl other, fun _ => ⟨rfl, rfl⟩⟩
  | post caller task =>
    obtain ⟨-, -, rfl⟩ := step_post.mp taken
    exact ⟨fun _ => rfl, fun _ => ⟨rfl, rfl⟩⟩
  | refuse caller task =>
    obtain ⟨-, -, rfl⟩ := step_refuse.mp taken
    exact ⟨fun _ => rfl, fun _ => ⟨rfl, rfl⟩⟩
  | stop caller action site =>
    obtain ⟨-, -, rfl⟩ := step_stop.mp taken
    exact ⟨fun _ => rfl, fun _ => ⟨rfl, rfl⟩⟩
  | notify caller =>
    obtain ⟨-, rfl⟩ | ⟨site, -, rfl⟩ := step_notify.mp taken <;>
      exact ⟨fun _ => notifyAll_constructed, fun _ => ⟨notifyAll_joinable, notifyAll_destroyed⟩⟩
  | join caller =>
    obtain ⟨site, -, -, rfl⟩ := step_join.mp taken
    exact ⟨fun _ => rfl, fun other => absurd rfl (other caller)⟩
  | evaluate =>
    obtain ⟨-, ⟨-, rfl⟩ | ⟨-, rfl⟩ | ⟨-, -, rfl⟩⟩ := step_evaluate.mp taken <;>
      exact ⟨fun _ => rfl, fun _ => ⟨rfl, rfl⟩⟩
  | sleep =>
    obtain ⟨-, rfl⟩ := step_sleep.mp taken
    exact ⟨fun _ => rfl, fun _ => ⟨rfl, rfl⟩⟩
  | wakeSpuriously =>
    obtain ⟨-, rfl⟩ := step_wakeSpuriously.mp taken
    exact ⟨fun _ => rfl, fun _ => ⟨rfl, rfl⟩⟩
  | announce =>
    obtain ⟨tasks, -, rfl⟩ := step_announce.mp taken
    exact ⟨fun _ => rfl, fun _ => ⟨rfl, rfl⟩⟩
  | begin task =>
    obtain ⟨tasks, -, rfl⟩ := step_begin.mp taken
    exact ⟨fun _ => rfl, fun _ => ⟨rfl, rfl⟩⟩
  | finish task outcome =>
    obtain ⟨tasks, -, -, rfl⟩ := step_finish.mp taken
    exact ⟨fun _ => rfl, fun _ => ⟨rfl, rfl⟩⟩
  | loop =>
    obtain ⟨-, rfl⟩ := step_loop.mp taken
    exact ⟨fun _ => rfl, fun _ => ⟨rfl, rfl⟩⟩

/-- A queue that is constructed stays so. -/
theorem constructed_step {label : Label Thread Task} (taken : Step s label t)
    (constructed : s.constructed = true) : t.constructed = true := by
  by_cases built : label = .construct
  · rw [built] at taken
    obtain ⟨-, rfl⟩ := step_construct.mp taken
    rfl
  · rw [(flags_frame taken).1 built]
    exact constructed

end Labels

end NearObject.TaskQueue
