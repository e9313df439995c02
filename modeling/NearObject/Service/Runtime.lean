/-
**`ServiceRuntime` — the worker and the callers that start and stop it.**

`Run` loops on `m_running` and waits on `m_runEvent` without a predicate. `Start` changes the flag
under `m_runEventGate`; `Stop` does not take the gate, and notifies after the change. Each access to
the flag, each acquisition of the gate, entering and leaving the wait, the launch of the thread and
the `notify_one` is a step of its own.

`step` is the code; the lemmas after it say of each label when it is enabled and where it leads.
-/

import NearObject.Transition.Run
import Mathlib.Logic.Function.Basic

namespace NearObject.ServiceRuntime

/-! ### Callers and worker -/

/-- The functions that callers use. -/
inductive Operation
  | start
  | stop
  | destructor
  deriving DecidableEq, Repr

/-- The function in whose body `Stop` runs. -/
inductive StopSite
  | stop
  | destructor
  deriving DecidableEq, Repr

/-- Where a caller is. -/
inductive Call
  | idle
  /-- In `Start`, about to take the gate. -/
  | starting
  /-- In `Start`, with the gate; the compare-exchange is next. -/
  | exchanging
  /-- In `Start`, with the gate released; the new thread is next. -/
  | launching
  /-- In `Stop`; the compare-exchange is next. -/
  | stopping (site : StopSite)
  /-- In `Stop`; the `notify_one` is next. -/
  | notifying (site : StopSite)
  /-- In the destructor, past `Stop`. -/
  | joining
  deriving DecidableEq, Repr

def Operation.first : Operation → Call
  | .start => .starting
  | .stop => .stopping .stop
  | .destructor => .stopping .destructor

/-- After `Stop` has returned. -/
def StopSite.next : StopSite → Call
  | .stop => .idle
  | .destructor => .joining

/-- Where the thread that executes `Run` is. -/
inductive Worker
  | absent
  /-- At the condition of the loop. -/
  | testing
  /-- `m_running` was true; taking the gate is next. -/
  | acquiring
  /-- With the gate; `m_runEvent.wait` is next. -/
  | holding
  /-- In `m_runEvent.wait`, without the gate, not notified. -/
  | blocked
  /-- In `m_runEvent.wait`, woken; taking the gate again is next. -/
  | notified
  /-- Out of the wait, with the gate; the second test is next. -/
  | checking
  /-- In `HandleEvent`, with the gate. -/
  | handling
  | exited
  deriving DecidableEq, Repr

/-- Who holds `m_runEventGate`. -/
inductive Holder (Thread : Type)
  | client (thread : Thread)
  | worker
  deriving DecidableEq, Repr

/-- `running` is `m_running`, `runEventGate` the holder of the mutex, `joinable` that of
`m_threadMain`. -/
structure State (Thread : Type) where
  running : Bool
  runEventGate : Option (Holder Thread)
  worker : Worker
  joinable : Bool
  call : Thread → Call
  destroyed : Bool
  terminated : Bool

def init (Thread : Type) : State Thread where
  running := false
  runEventGate := none
  worker := .absent
  joinable := false
  call := fun _ => .idle
  destroyed := false
  terminated := false

/-- The steps of the callers, and those of the worker. -/
inductive Label (Thread : Type)
  | call (thread : Thread) (operation : Operation)
  /-- `Start` takes the gate. -/
  | lock (thread : Thread)
  /-- The compare-exchange of `Start`, which then releases the gate, or that of `Stop`. -/
  | exchange (thread : Thread)
  | launch (thread : Thread)
  | notify (thread : Thread)
  | join (thread : Thread)
  | test
  | acquire
  | wait
  | wakeSpuriously
  | reacquire
  | check
  | handle
  deriving DecidableEq, Repr

section Steps

variable {Thread : Type} [DecidableEq Thread]

def State.setCall (s : State Thread) (thread : Thread) (call : Call) : State Thread :=
  { s with call := Function.update s.call thread call }

/-- `m_runEvent.notify_one()`; only the worker waits. -/
def State.notifyOne (s : State Thread) : State Thread :=
  if s.worker = .blocked then { s with worker := .notified } else s

/-- The steps of a program that has not terminated. -/
def State.move (s : State Thread) : Label Thread → Option (State Thread)
  | .call thread operation =>
    if s.destroyed = false ∧ s.call thread = .idle then some (s.setCall thread operation.first)
    else none
  | .lock thread =>
    if s.call thread = .starting ∧ s.runEventGate = none then
      some ({ s with runEventGate := some (.client thread) }.setCall thread .exchanging)
    else none
  | .exchange thread =>
    match s.call thread with
    | .exchanging =>
      if s.running then some ({ s with runEventGate := none }.setCall thread .idle)
      else some ({ s with running := true, runEventGate := none }.setCall thread .launching)
    | .stopping site =>
      if s.running then some ({ s with running := false }.setCall thread (.notifying site))
      else some (s.setCall thread site.next)
    | _ => none
  | .launch thread =>
    if s.call thread = .launching then
      -- assigning to a joinable thread calls `std::terminate`
      if s.joinable then some { s with terminated := true }
      else some ({ s with worker := .testing, joinable := true }.setCall thread .idle)
    else none
  | .notify thread =>
    match s.call thread with
    | .notifying site => some (s.notifyOne.setCall thread site.next)
    | _ => none
  | .join thread =>
    if s.call thread = .joining ∧ (s.joinable = false ∨ s.worker = .exited) then
      some ({ s with joinable := false, destroyed := true }.setCall thread .idle)
    else none
  | .test =>
    if s.worker = .testing then
      some { s with worker := if s.running then .acquiring else .exited }
    else none
  | .acquire =>
    if s.worker = .acquiring ∧ s.runEventGate = none then
      some { s with worker := .holding, runEventGate := some .worker }
    else none
  | .wait =>
    if s.worker = .holding then some { s with worker := .blocked, runEventGate := none } else none
  | .wakeSpuriously =>
    if s.worker = .blocked then some { s with worker := .notified } else none
  | .reacquire =>
    if s.worker = .notified ∧ s.runEventGate = none then
      some { s with worker := .checking, runEventGate := some .worker }
    else none
  | .check =>
    if s.worker = .checking then
      if s.running then some { s with worker := .handling }
      else some { s with worker := .exited, runEventGate := none }
    else none
  | .handle =>
    if s.worker = .handling then some { s with worker := .testing, runEventGate := none } else none

/-- **One step of the threads**, `none` where the label is not enabled. -/
def step (s : State Thread) (label : Label Thread) : Option (State Thread) :=
  if s.terminated then none else s.move label

/-- The runtime and its threads, as a system. -/
abbrev Step : State Thread → Label Thread → State Thread → Prop :=
  Transition.Next step

end Steps

/-! ### One lemma for each label -/

section Labels

open Transition

variable {Thread : Type} [DecidableEq Thread] {s t : State Thread} {thread : Thread}

@[simp] theorem setCall_self (call : Call) : (s.setCall thread call).call thread = call :=
  Function.update_self ..

theorem setCall_of_ne {other : Thread} (different : other ≠ thread) (call : Call) :
    (s.setCall thread call).call other = s.call other :=
  Function.update_of_ne different ..

theorem step_iff {label : Label Thread} :
    Step s label t ↔ s.terminated = false ∧ s.move label = some t := by
  simp [Step, Next, step]

theorem move_call {operation : Operation} :
    s.move (.call thread operation) = some t ↔ s.destroyed = false ∧ s.call thread = .idle ∧
      t = s.setCall thread operation.first := by
  simp [State.move, eq_comm (b := t), and_assoc]

theorem move_lock :
    s.move (.lock thread) = some t ↔ s.call thread = .starting ∧ s.runEventGate = none ∧
      t = { s with runEventGate := some (.client thread) }.setCall thread .exchanging := by
  simp [State.move, eq_comm (b := t), and_assoc]

theorem move_exchange :
    s.move (.exchange thread) = some t ↔
      (s.call thread = .exchanging ∧ s.running = true ∧
        t = { s with runEventGate := none }.setCall thread .idle) ∨
      (s.call thread = .exchanging ∧ s.running = false ∧
        t = { s with running := true, runEventGate := none }.setCall thread .launching) ∨
      ∃ site, s.call thread = .stopping site ∧
        ((s.running = true ∧ t = { s with running := false }.setCall thread (.notifying site)) ∨
          (s.running = false ∧ t = s.setCall thread site.next)) := by
  simp only [State.move]
  cases s.call thread <;> cases s.running <;> simp [eq_comm (b := t)]

theorem move_launch :
    s.move (.launch thread) = some t ↔ s.call thread = .launching ∧
      ((s.joinable = true ∧ t = { s with terminated := true }) ∨
        (s.joinable = false ∧
          t = { s with worker := .testing, joinable := true }.setCall thread .idle)) := by
  simp only [State.move, Option.ite_none_right_eq_some]
  cases s.joinable <;> simp [eq_comm (b := t)]

theorem move_notify :
    s.move (.notify thread) = some t ↔ ∃ site, s.call thread = .notifying site ∧
      t = s.notifyOne.setCall thread site.next := by
  simp only [State.move]
  cases s.call thread <;> simp [eq_comm (b := t)]

theorem move_join :
    s.move (.join thread) = some t ↔ s.call thread = .joining ∧
      (s.joinable = false ∨ s.worker = .exited) ∧
      t = { s with joinable := false, destroyed := true }.setCall thread .idle := by
  simp [State.move, eq_comm (b := t), and_assoc]

theorem move_test :
    s.move .test = some t ↔ s.worker = .testing ∧
      t = { s with worker := if s.running then .acquiring else .exited } := by
  simp [State.move, eq_comm (b := t)]

theorem move_acquire :
    s.move .acquire = some t ↔ s.worker = .acquiring ∧ s.runEventGate = none ∧
      t = { s with worker := .holding, runEventGate := some .worker } := by
  simp [State.move, eq_comm (b := t), and_assoc]

theorem move_wait :
    s.move .wait = some t ↔ s.worker = .holding ∧
      t = { s with worker := .blocked, runEventGate := none } := by
  simp [State.move, eq_comm (b := t)]

theorem move_wakeSpuriously :
    s.move .wakeSpuriously = some t ↔ s.worker = .blocked ∧
      t = { s with worker := .notified } := by
  simp [State.move, eq_comm (b := t)]

theorem move_reacquire :
    s.move .reacquire = some t ↔ s.worker = .notified ∧ s.runEventGate = none ∧
      t = { s with worker := .checking, runEventGate := some .worker } := by
  simp [State.move, eq_comm (b := t), and_assoc]

theorem move_check :
    s.move .check = some t ↔ s.worker = .checking ∧
      ((s.running = true ∧ t = { s with worker := .handling }) ∨
        (s.running = false ∧ t = { s with worker := .exited, runEventGate := none })) := by
  simp only [State.move, Option.ite_none_right_eq_some]
  cases s.running <;> simp [eq_comm (b := t)]

theorem move_handle :
    s.move .handle = some t ↔ s.worker = .handling ∧
      t = { s with worker := .testing, runEventGate := none } := by
  simp [State.move, eq_comm (b := t)]

end Labels

end NearObject.ServiceRuntime
