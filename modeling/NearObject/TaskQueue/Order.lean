/-
**`notstd::task_queue` — conservation and order of the accepted tasks.**

A task that is accepted and not yet begun is either in the batch the worker has moved out or in
`m_runnables`. Joined in this order (`State.pending`), the two places are the state of a
first-in-first-out service, and every step of the threads is a step of that service or none
(`refines_fifo`): a `post` accepts, the beginning of a task takes, and the batch move, the stops and
the wake-ups leave the joined list as it is.
-/

import NearObject.TaskQueue.Steps

namespace NearObject.TaskQueue

open Transition

section Observations

variable {Thread Task : Type} (first second : List (Label Thread Task))

@[simp] theorem accepted_append : accepted (first ++ second) = accepted first ++ accepted second :=
  List.filterMap_append

@[simp] theorem begun_append : begun (first ++ second) = begun first ++ begun second :=
  List.filterMap_append

@[simp] theorem finished_append : finished (first ++ second) = finished first ++ finished second :=
  List.filterMap_append

end Observations

/-! ### The queue as a first-in-first-out service -/

section Fifo

variable {Thread Task : Type}

/-- The accepted tasks that have not begun, in the order in which they will. -/
def State.pending (s : State Thread Task) : List Task :=
  s.worker.batch ++ s.members.runnables

/-- What a label is for the service. -/
def observe : Label Thread Task → List (Fifo.Event Task)
  | .post _ task => [.accept task]
  | .begin task => [.take task]
  | _ => []

theorem accepted_observe (trace : List (Label Thread Task)) :
    Fifo.accepted (trace.flatMap observe) = accepted trace := by
  induction trace with
  | nil => rfl
  | cons label trace ih =>
    simp only [Fifo.accepted, accepted] at ih
    cases label <;> simp [observe, Fifo.accepted, accepted, ih]

theorem taken_observe (trace : List (Label Thread Task)) :
    Fifo.taken (trace.flatMap observe) = begun trace := by
  induction trace with
  | nil => rfl
  | cons label trace ih =>
    simp only [Fifo.taken, begun] at ih
    cases label <;> simp [observe, Fifo.taken, begun, ih]

variable [DecidableEq Thread] [DecidableEq Task]

/-- **The queue refines the service.** -/
theorem refines_fifo : Refines Step Fifo.Step (@State.pending Thread Task) observe := by
  intro s label t taken
  -- the labels that neither accept nor take keep the joined list
  have silent (same : t.pending = s.pending) : Run Fifo.Step s.pending [] t.pending := by
    rw [same]
    exact .nil
  cases label with
  | construct =>
    obtain ⟨-, rfl⟩ := step_construct.mp taken
    exact silent rfl
  | post caller task =>
    obtain ⟨-, -, rfl⟩ := step_post.mp taken
    have back : Fifo.Step s.pending (.accept task) (s.pending ++ [task]) := .accept ..
    rw [State.pending, List.append_assoc] at back
    exact .single back
  | refuse caller task =>
    obtain ⟨-, -, rfl⟩ := step_refuse.mp taken
    exact silent rfl
  | stop caller action site =>
    obtain ⟨-, -, rfl⟩ := step_stop.mp taken
    exact silent (by simp [State.pending])
  | notify caller =>
    obtain ⟨-, rfl⟩ | ⟨site, -, rfl⟩ := step_notify.mp taken <;>
      exact silent (by simp [State.pending])
  | join caller =>
    obtain ⟨site, -, -, rfl⟩ := step_join.mp taken
    exact silent rfl
  | evaluate =>
    obtain ⟨waking, ⟨-, rfl⟩ | ⟨-, rfl⟩ | ⟨-, -, rfl⟩⟩ := step_evaluate.mp taken <;>
      exact silent (by simp [State.pending, Worker.batch, waking])
  | sleep =>
    obtain ⟨waiting, rfl⟩ := step_sleep.mp taken
    exact silent (by simp [State.pending, Worker.batch, waiting])
  | wakeSpuriously =>
    obtain ⟨blocked, rfl⟩ := step_wakeSpuriously.mp taken
    exact silent (by simp [State.pending, Worker.batch, blocked])
  | announce =>
    obtain ⟨tasks, moved, rfl⟩ := step_announce.mp taken
    exact silent (by simp [State.pending, Worker.batch, moved])
  | begin task =>
    obtain ⟨tasks, draining, rfl⟩ := step_begin.mp taken
    have front : Fifo.Step (task :: (tasks ++ s.members.runnables)) (.take task)
        (tasks ++ s.members.runnables) := .take ..
    have before : s.pending = task :: (tasks ++ s.members.runnables) := by
      simp [State.pending, Worker.batch, draining]
    rw [before]
    exact .single front
  | finish task outcome =>
    obtain ⟨tasks, executing, -, rfl⟩ := step_finish.mp taken
    exact silent (by simp [State.pending, Worker.batch, executing])
  | loop =>
    obtain ⟨draining, rfl⟩ := step_loop.mp taken
    exact silent (by simp [State.pending, Worker.batch, draining])

/-- What has begun, followed by what is pending, is what was pending followed by what was accepted
since. -/
theorem pending_conserved {s t : State Thread Task} {trace : List (Label Thread Task)}
    (run : Run Step s trace t) : begun trace ++ t.pending = s.pending ++ accepted trace := by
  have conserved := Fifo.conservation (refines_fifo.run run)
  rwa [taken_observe, accepted_observe] at conserved

end Fifo

/-! ### One task at a time -/

section Serial

variable {Thread Task : Type} [DecidableEq Thread] [DecidableEq Task] {s t : State Thread Task}

/-- A step begins a task, ends the one that is executing, or leaves it. -/
theorem current_step {label : Label Thread Task} (taken : Step s label t) :
    begun [label] ++ s.worker.current.toList = finished [label] ++ t.worker.current.toList := by
  cases label with
  | construct =>
    obtain ⟨-, rfl⟩ := step_construct.mp taken
    rfl
  | evaluate =>
    obtain ⟨waking, ⟨-, rfl⟩ | ⟨-, rfl⟩ | ⟨-, -, rfl⟩⟩ := step_evaluate.mp taken <;>
      simp [begun, finished, Worker.current, waking]
  | sleep =>
    obtain ⟨waiting, rfl⟩ := step_sleep.mp taken
    simp [begun, finished, Worker.current, waiting]
  | wakeSpuriously =>
    obtain ⟨blocked, rfl⟩ := step_wakeSpuriously.mp taken
    simp [begun, finished, Worker.current, blocked]
  | announce =>
    obtain ⟨tasks, moved, rfl⟩ := step_announce.mp taken
    simp [begun, finished, Worker.current, moved]
  | begin task =>
    obtain ⟨tasks, draining, rfl⟩ := step_begin.mp taken
    simp [begun, finished, Worker.current, draining]
  | finish task outcome =>
    obtain ⟨tasks, executing, -, rfl⟩ := step_finish.mp taken
    simp [begun, finished, Worker.current, executing]
  | loop =>
    obtain ⟨draining, rfl⟩ := step_loop.mp taken
    simp [begun, finished, Worker.current, draining]
  | _ =>
    rw [current_frame taken rfl]
    rfl

/-- A task begins only where none is executing. -/
theorem current_none_of_begun {label : Label Thread Task} (taken : Step s label t)
    (begins : begun [label] ≠ []) : s.worker.current = none := by
  cases label with
  | begin task =>
    obtain ⟨tasks, draining, -⟩ := step_begin.mp taken
    simp [Worker.current, draining]
  | _ => simp [begun] at begins

/-- **At most one task executes at a time**: what has begun is what has finished, and the current
task. -/
theorem begun_eq_finished {s : State Thread Task} {trace : List (Label Thread Task)}
    (run : Run Step (init Thread Task) trace s) :
    begun trace = finished trace ++ s.worker.current.toList := by
  refine run.history (fun trace s => begun trace = finished trace ++ s.worker.current.toList) rfl
    fun trace s label t _ ih taken => ?_
  have step := current_step taken
  rw [begun_append, finished_append, ih]
  by_cases begins : begun [label] = []
  · rw [begins, List.nil_append] at step
    rw [begins, step, List.append_nil, List.append_assoc]
  · rw [current_none_of_begun taken begins] at step ⊢
    rw [Option.toList_none, List.append_nil] at step ⊢
    rw [step, List.append_assoc]

end Serial

end NearObject.TaskQueue
