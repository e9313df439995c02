/-
**`nearobjectd` — `main`, the runtime that it starts, and the process that it leaves behind.**

`main` starts the runtime, makes itself a daemon if it is told to, and returns; the destructor of
the runtime runs on the way out. `daemon` forks: the parent ends in it, and the child has a copy of
the memory, but of the threads only the one that called it. From then on `State` is the child: the
thread that `Start` created takes no step there. Two things in the destructor of the runtime wait
for that thread: the join, and after it the destruction of `m_runEvent` where the worker is in its
wait. Whether they return in a process that does not have the thread is left to the platform, and is
a parameter (`Platform`).

But for such a join, the steps of `main` are steps of the runtime or leave it alone (`refines`).
`Stage` says how far the runtime is at each statement of `main`. The `main` of `nearobjectsvc` ends
in the same way, without the test: as if `runInBackground` were `false`.
-/

import NearObject.Service.Progress

namespace NearObject.Daemon

open Transition
open ServiceRuntime (Worker Call Held Placed KeepsWakeup KeepingStep)

/-! ### The program -/

/-- The next statement of `main`, once the service is created. -/
inductive Statement
  /-- `SetServiceInstance(service).Start()`. -/
  | start
  /-- The test of `configuration.RunInBackground`, when `Start` has returned. -/
  | test
  | daemonize
  | leave
  /-- The destructor of the runtime has been called. -/
  | destroying
  | returned
  /-- The exception for a failed `daemon` has left `main`. -/
  | thrown
  deriving DecidableEq, Repr

/-- What the standards leave open about a process that does not have the worker. -/
structure Platform where
  /-- The join of the worker returns. -/
  joinReturns : Bool
  /-- The destructor of `m_runEvent` returns where the worker was in its wait at the fork. -/
  destroyReturns : Bool
  deriving DecidableEq, Repr

/-- The destructor of `m_runEvent` returns; it has no one to wait for where no thread is in the
wait. -/
def Platform.Destroys (platform : Platform) (worker : Worker) : Prop :=
  worker = .blocked ∨ worker = .notified → platform.destroyReturns = true

instance (platform : Platform) (worker : Worker) : Decidable (platform.Destroys worker) :=
  inferInstanceAs (Decidable (_ → _))

/-- The process in which `main` runs; `forked` is whether that is the child. -/
structure State where
  main : Statement
  runtime : ServiceRuntime.State Unit
  forked : Bool

def init : State where
  main := .start
  runtime := ServiceRuntime.init Unit
  forked := false

/-- `main` goes on, `daemon` returns, or a thread takes a step in the runtime. -/
inductive Label
  | proceed
  | daemon (error : Bool)
  | runtime (label : ServiceRuntime.Label Unit)
  /-- The join in a child returns. -/
  | joinReturns
  deriving DecidableEq, Repr

/-- Where `main` is after a step in the runtime, `none` if no thread of the process takes it. Only
`main` calls the runtime; a child has no worker; and a process that has ended has no threads. -/
def State.after (s : State) (label : ServiceRuntime.Label Unit) : Option Statement :=
  match s.main, label with
  | .start, .call () .start => some .test
  | .leave, .call () .destructor => some .destroying
  | _, .call .. | .returned, _ | .thrown, _ => none
  | main, label => if label.caller?.isSome ∨ s.forked = false then some main else none

/-- **One step of the process.** -/
def step (runInBackground : Bool) (platform : Platform) (s : State) : Label → Option State
  | .proceed =>
    match s.main with
    | .test =>
      if s.runtime.call () = .idle then
        some { s with main := if runInBackground then .daemonize else .leave }
      else none
    | .destroying =>
      -- The destructor has joined; what is left of it is the destruction of the members.
      if s.runtime.call () = .idle ∧ platform.Destroys s.runtime.worker then
        some { s with main := .returned }
      else none
    | _ => none
  | .daemon error =>
    if s.main = .daemonize then
      some (if error then { s with main := .thrown } else { s with main := .leave, forked := true })
    else none
  | .runtime label => do
    let main ← s.after label
    let runtime ← ServiceRuntime.step s.runtime label
    pure { s with main, runtime }
  | .joinReturns =>
    if platform.joinReturns ∧ s.forked ∧ s.runtime.call () = .joining then
      some { s with
        runtime := { s.runtime with joinable := false, destroyed := true }.setCall () .idle }
    else none

abbrev Step (runInBackground : Bool) (platform : Platform) : State → Label → State → Prop :=
  Next (step runInBackground platform)

/-- What the environment pays: spurious wake-ups. -/
def Label.cost : Label → ℕ
  | .runtime .wakeSpuriously => 7
  | _ => 0

/-- The step in the runtime. -/
def Label.inner : Label → List (ServiceRuntime.Label Unit)
  | .runtime label => [label]
  | _ => []

/-! ### One lemma for each label -/

section Labels

variable {runInBackground : Bool} {platform : Platform} {s t : State}

theorem step_proceed : Step runInBackground platform s .proceed t ↔ s.runtime.call () = .idle ∧
    ((s.main = .test ∧ t = { s with main := if runInBackground then .daemonize else .leave }) ∨
      (s.main = .destroying ∧ platform.Destroys s.runtime.worker ∧
        t = { s with main := .returned })) := by
  simp only [Next, step]
  cases s.main <;> simp [and_assoc, eq_comm (b := t)]

theorem step_daemon {error : Bool} : Step runInBackground platform s (.daemon error) t ↔
    s.main = .daemonize ∧
      ((error = true ∧ t = { s with main := .thrown }) ∨
        (error = false ∧ t = { s with main := .leave, forked := true })) := by
  simp only [Next, step, Option.ite_none_right_eq_some]
  cases error <;> simp [eq_comm (b := t)]

theorem step_runtime {label : ServiceRuntime.Label Unit} :
    Step runInBackground platform s (.runtime label) t ↔ ∃ main runtime, s.after label = some main ∧
      ServiceRuntime.Step s.runtime label runtime ∧ t = { s with main, runtime } := by
  simp [Next, step, ServiceRuntime.Step, Option.bind_eq_some_iff, eq_comm (b := t)]

theorem step_joinReturns : Step runInBackground platform s .joinReturns t ↔
    platform.joinReturns = true ∧ s.forked = true ∧ s.runtime.call () = .joining ∧ t = { s with
      runtime := { s.runtime with joinable := false, destroyed := true }.setCall () .idle } := by
  simp [Next, step, and_assoc, eq_comm (b := t)]

/-- The steps in the runtime that `main` does not begin. -/
theorem after_cases {label : ServiceRuntime.Label Unit} {main : Statement}
    (after : s.after label = some main) :
    (s.main = .start ∧ label = .call () .start ∧ main = .test) ∨
      (s.main = .leave ∧ label = .call () .destructor ∧ main = .destroying) ∨
      (main = s.main ∧ s.main ≠ .returned ∧ s.main ≠ .thrown ∧
        (∀ thread operation, label ≠ .call thread operation) ∧
        (label.caller?.isSome ∨ s.forked = false)) := by
  unfold State.after at after
  split at after
  · simp_all
  · simp_all
  · cases after
  · cases after
  · cases after
  · simp_all

/-- **What happens to the runtime** are steps of the runtime. -/
theorem refines : Refines (Restrict (Step runInBackground platform) fun _ label =>
    label ≠ .joinReturns) (@ServiceRuntime.Step Unit _) State.runtime Label.inner := by
  rintro s label t ⟨present, taken⟩
  cases label with
  | proceed =>
    obtain ⟨-, ⟨-, rfl⟩ | ⟨-, -, rfl⟩⟩ := step_proceed.mp taken <;> exact .nil
  | daemon error =>
    obtain ⟨-, ⟨-, rfl⟩ | ⟨-, rfl⟩⟩ := step_daemon.mp taken <;> exact .nil
  | runtime label =>
    obtain ⟨main, runtime, -, moved, rfl⟩ := step_runtime.mp taken
    exact .single moved
  | joinReturns => exact absurd rfl present

end Labels

/-! ### The runtime along `main` -/

section Stages

variable {runInBackground : Bool} {platform : Platform} {s t : State}
  {r u : ServiceRuntime.State Unit}

/-- A runtime that has not been started. -/
structure Fresh (r : ServiceRuntime.State Unit) : Prop where
  running : r.running = false
  joinable : r.joinable = false
  worker : r.worker = .absent
  destroyed : r.destroyed = false

/-- A runtime whose worker is in `Run`, before anything stops it. -/
structure Up (r : ServiceRuntime.State Unit) : Prop where
  running : r.running = true
  joinable : r.joinable = true
  inside : r.worker.gone = false
  destroyed : r.destroyed = false

/-- A runtime that the destructor has stopped. The worker of a child stays where it was. -/
structure Down (forked : Bool) (r : ServiceRuntime.State Unit) : Prop where
  running : r.running = false
  joinable : r.joinable = true
  orphaned : forked = true → r.worker.gone = false

/-- How far the runtime is, by the call that `main` is in. -/
def State.At (s : State) (platform : Platform) : Call → Prop
  | .idle => (s.main = .start ∧ Fresh s.runtime) ∨
      ((s.main = .test ∨ s.main = .daemonize ∨ s.main = .leave) ∧ Up s.runtime) ∨
      ((s.main = .destroying ∨ s.main = .returned) ∧ s.runtime.running = false ∧
        ((s.forked = false ∧ s.runtime.worker = .exited) ∨
          (s.forked = true ∧ platform.joinReturns = true)) ∧
        (s.main = .returned → platform.Destroys s.runtime.worker)) ∨
      s.main = .thrown
  | .starting | .exchanging => s.main = .test ∧ Fresh s.runtime
  | .launching => s.main = .test ∧ s.runtime.running = true ∧ s.runtime.joinable = false ∧
      s.runtime.worker = .absent ∧ s.runtime.destroyed = false
  | .stopping .destructor => s.main = .destroying ∧ Up s.runtime
  | .notifying .destructor | .joining => s.main = .destroying ∧ Down s.forked s.runtime
  | .stopping .stop | .notifying .stop => False

/-- **The stage of the process.** -/
structure Stage (platform : Platform) (s : State) : Prop where
  alive : s.runtime.terminated = false
  parent : s.forked = true → s.main = .leave ∨ s.main = .destroying ∨ s.main = .returned
  place : s.At platform (s.runtime.call ())

/-- In a call, `main` is at `test` or in the destructor. -/
theorem Stage.idle (stage : Stage platform s) (test : s.main ≠ .test)
    (destroying : s.main ≠ .destroying) : s.runtime.call () = .idle := by
  have place := stage.place
  revert place
  cases s.runtime.call () with
  | idle => exact fun _ => rfl
  | starting | exchanging | launching => exact fun ⟨main, _⟩ => absurd main test
  | stopping site | notifying site =>
    cases site with
    | stop => exact False.elim
    | destructor => exact fun ⟨main, _⟩ => absurd main destroying
  | joining => exact fun ⟨main, _⟩ => absurd main destroying

theorem Stage.fresh (stage : Stage platform s) (main : s.main = .start) : Fresh s.runtime := by
  have place := stage.place
  rw [stage.idle (by simp [main]) (by simp [main])] at place
  simpa [State.At, main] using place

/-- Between its two calls `main` leaves the runtime running. -/
theorem Stage.up (stage : Stage platform s) (idle : s.runtime.call () = .idle)
    (main : s.main = .test ∨ s.main = .daemonize ∨ s.main = .leave) : Up s.runtime := by
  have place := stage.place
  rw [idle] at place
  rcases main with main | main | main <;> simpa [State.At, main] using place

/-- The join returns after the worker, or in a child whose join returns. -/
theorem Stage.finished (stage : Stage platform s) (idle : s.runtime.call () = .idle)
    (main : s.main = .destroying ∨ s.main = .returned) :
    s.runtime.running = false ∧ ((s.forked = false ∧ s.runtime.worker = .exited) ∨
      (s.forked = true ∧ platform.joinReturns = true)) ∧
      (s.main = .returned → platform.Destroys s.runtime.worker) := by
  have place := stage.place
  rw [idle] at place
  rcases main with main | main <;> simpa [State.At, main] using place

end Stages

/-! ### The event handler -/

section Handler

variable {runInBackground : Bool} {platform : Platform} {s t : State}
  {r u : ServiceRuntime.State Unit}

/-- The worker is in `HandleEvent`, or is woken and will find the flag up. -/
def Awake (r : ServiceRuntime.State Unit) : Prop :=
  r.worker = .handling ∨ (r.running = true ∧ (r.worker = .notified ∨ r.worker = .checking))

instance (r : ServiceRuntime.State Unit) : Decidable (Awake r) :=
  inferInstanceAs (Decidable (_ ∨ _))

/-- The calls of `HandleEvent` on their way. -/
def awake (r : ServiceRuntime.State Unit) : ℕ :=
  if Awake r then 1 else 0

end Handler

/-! ### Rest -/

section Rest

variable {runInBackground : Bool} {platform : Platform} {s t : State}

/-- What is left of `main`, with the calls that it makes. -/
def Statement.debt : Statement → ℕ
  | .returned | .thrown => 0
  | .destroying => 1
  | .leave => 11
  | .daemonize => 12
  | .test => 13
  | .start => 20

def State.potential (s : State) : ℕ :=
  s.main.debt + s.runtime.potential [()]

/-- **Every step but a spurious wake-up is paid for.** -/
theorem potential_step {label : Label} (taken : Step runInBackground platform s label t) :
    t.potential + 1 ≤ s.potential + label.cost := by
  cases label with
  | proceed =>
    obtain ⟨-, ⟨main, rfl⟩ | ⟨main, -, rfl⟩⟩ := step_proceed.mp taken
    · have next : (if runInBackground then Statement.daemonize else .leave).debt ≤ 12 := by
        cases runInBackground <;> decide
      have here : Statement.test.debt = 13 := rfl
      simp only [State.potential, main, Label.cost]
      omega
    · simp only [State.potential, main, Statement.debt, Label.cost]
      omega
  | daemon error =>
    obtain ⟨main, ⟨-, rfl⟩ | ⟨-, rfl⟩⟩ := step_daemon.mp taken <;>
      simp only [State.potential, main, Statement.debt, Label.cost] <;> omega
  | runtime label =>
    obtain ⟨main, runtime, after, moved, rfl⟩ := step_runtime.mp taken
    have among : Among ServiceRuntime.Label.caller? [()] label :=
      fun caller _ => List.mem_singleton.mpr rfl
    have paid := ServiceRuntime.potential_step (List.nodup_singleton ()) among moved
    obtain ⟨start, rfl, rfl⟩ | ⟨leave, rfl, rfl⟩ | ⟨rfl, -, -, inner, -⟩ := after_cases after
    · simp only [State.potential, start, Statement.debt, Label.cost]
      simp only [ServiceRuntime.Label.cost, ServiceRuntime.Operation.first, Call.debt] at paid
      omega
    · simp only [State.potential, leave, Statement.debt, Label.cost]
      simp only [ServiceRuntime.Label.cost, ServiceRuntime.Operation.first, Call.debt] at paid
      omega
    · have same : label.cost = (Label.runtime label).cost := by
        cases label with
        | call thread operation => exact absurd rfl (inner thread operation)
        | _ => rfl
      rw [same] at paid
      simp only [State.potential]
      omega
  | joinReturns =>
    obtain ⟨-, -, joining, rfl⟩ := step_joinReturns.mp taken
    have share := ServiceRuntime.setCall_potential
      (s := { s.runtime with joinable := false, destroyed := true }) (List.nodup_singleton ())
      (List.mem_singleton_self ()) .idle
    have place : ({ s.runtime with joinable := false, destroyed := true } :
        ServiceRuntime.State Unit).call () = .joining := joining
    have same : ({ s.runtime with joinable := false, destroyed := true } :
        ServiceRuntime.State Unit).potential [()] = s.runtime.potential [()] := rfl
    rw [place, same] at share
    simp only [State.potential, Label.cost]
    simp only [Call.debt] at share
    omega

theorem pays : Pays (fun _ => True) (Step runInBackground platform) State.potential Label.cost where
  kept := fun _ _ _ _ _ => trivial
  pays := fun _ _ _ _ taken => potential_step taken

theorem not_step_of_rest (rest : AtRest (Step runInBackground platform) Label.cost s)
    (label : Label) (free : label.cost = 0) : ¬ Step runInBackground platform s label t :=
  fun taken => rest label t ⟨free, taken⟩

/-- The join returns, the destruction of `m_runEvent` does not. -/
def waiting : Platform where
  joinReturns := true
  destroyReturns := false

end Rest

end NearObject.Daemon
