/-
**`ServiceRuntime` — starting again.**

`Stop` clears `m_running` and signals; the thread stays, and `m_threadMain` stands for it until the
destructor joins it. `Start` looks at the flag only. Here the owner calls `Start` and `Stop`, any
number of threads execute `Run`, and creating a thread and assigning it to `m_threadMain` are two
steps. A `compare_exchange_weak` may fail spuriously.

* `coarse_run` — with one thread, and no spurious failure, this is the runtime of `Runtime`.
* `safe_iff` — for a sequence of calls, all goes well in every interleaving exactly where no `Start`
  follows a `Stop` that follows a `Start`.
-/

import NearObject.Service.Runtime

namespace NearObject.ServiceRuntime.Restart

open Transition

/-! ### The owner and the workers -/

/-- What the owner calls. -/
inductive Operation
  | start
  | stop
  deriving DecidableEq, Repr

/-- Where the owner is. -/
inductive Call
  | idle
  /-- In `Start`, about to take the gate. -/
  | starting
  /-- In `Start`, with the gate; the compare-exchange is next. -/
  | exchanging
  /-- In `Start`, with the gate released; the constructor of `std::thread` is next. -/
  | creating
  /-- In `Start`, with a new thread; the assignment to `m_threadMain` is next. -/
  | assigning
  /-- In `Stop`; the compare-exchange is next. -/
  | stopping
  /-- In `Stop`; the `notify_one` is next. -/
  | notifying
  deriving DecidableEq, Repr

def Operation.first : Operation → Call
  | .start => .starting
  | .stop => .stopping

/-- What a step of `Run` does to `m_runEventGate`. -/
inductive GateUse
  | none
  | takes
  | releases
  deriving DecidableEq, Repr

/-- The next step of a thread that executes `Run`, for a value of `m_running`. -/
def next (running : Bool) : Worker → Option (Worker × GateUse)
  | .testing => some (if running then .acquiring else .exited, .none)
  | .acquiring => some (.holding, .takes)
  | .holding => some (.blocked, .releases)
  -- spuriously
  | .blocked => some (.notified, .none)
  | .notified => some (.checking, .takes)
  | .checking => some (if running then (.handling, .none) else (.exited, .releases))
  | .handling => some (.testing, .releases)
  | .absent | .exited => none

/-- Who holds `m_runEventGate`. -/
inductive Holder
  | owner
  | worker (index : Nat)
  deriving DecidableEq, Repr

/-- `running` is `m_running`, `workers` the threads created so far, and `threadMain` the one that
`m_threadMain` stands for. -/
structure State where
  running : Bool
  runEventGate : Option Holder
  workers : List Worker
  threadMain : Option Nat
  call : Call
  terminated : Bool
  deriving DecidableEq, Repr

def init : State where
  running := false
  runEventGate := none
  workers := []
  threadMain := none
  call := .idle
  terminated := false

/-- The steps of the owner, and those of the workers. -/
inductive Label
  | call (operation : Operation)
  /-- `Start` takes the gate. -/
  | lock
  /-- The compare-exchange of `Start`, which then releases the gate, or that of `Stop`. -/
  | exchange (spuriously : Bool)
  | create
  | assign
  /-- `notify_one` wakes a worker, or finds none that waits. -/
  | notify (woken : Option Nat)
  | work (index : Nat)
  deriving DecidableEq, Repr

/-- A worker takes its next step; it waits while another thread holds the gate that it takes. -/
def State.work (s : State) (index : Nat) : Option State :=
  match s.workers[index]?.bind (next s.running) with
  | some (worker, .none) => some { s with workers := s.workers.set index worker }
  | some (worker, .takes) =>
    if s.runEventGate = none then
      some { s with
        workers := s.workers.set index worker, runEventGate := some (.worker index) }
    else none
  | some (worker, .releases) =>
    some { s with workers := s.workers.set index worker, runEventGate := none }
  | none => none

/-- The steps of a program that has not terminated. -/
def State.move (s : State) : Label → Option State
  | .call operation => if s.call = .idle then some { s with call := operation.first } else none
  | .lock =>
    if s.call = .starting ∧ s.runEventGate = none then
      some { s with call := .exchanging, runEventGate := some .owner }
    else none
  | .exchange spuriously =>
    match s.call with
    | .exchanging =>
      if s.running ∨ spuriously then some { s with call := .idle, runEventGate := none }
      else some { s with call := .creating, running := true, runEventGate := none }
    | .stopping =>
      if s.running ∧ ¬ spuriously then some { s with call := .notifying, running := false }
      else some { s with call := .idle }
    | _ => none
  | .create =>
    if s.call = .creating then
      some { s with call := .assigning, workers := s.workers ++ [.testing] }
    else none
  | .assign =>
    if s.call = .assigning then
      -- assigning to a joinable thread calls `std::terminate`
      if s.threadMain.isSome then some { s with terminated := true }
      else some { s with call := .idle, threadMain := some (s.workers.length - 1) }
    else none
  | .notify woken =>
    if s.call = .notifying then
      match woken with
      | some index =>
        if s.workers[index]? = some .blocked then
          some { s with call := .idle, workers := s.workers.set index .notified }
        else none
      | none => if .blocked ∈ s.workers then none else some { s with call := .idle }
    else none
  | .work index => s.work index

/-- **One step of the threads**, `none` where the label is not enabled. -/
def step (s : State) (label : Label) : Option State :=
  if s.terminated then none else s.move label

/-- The runtime, its owner and its workers, as a system. -/
abbrev Step : State → Label → State → Prop :=
  Next step

/-- The calls of the owner, in order. -/
def calls (trace : List Label) : List Operation :=
  trace.filterMap fun
    | .call operation => some operation
    | _ => none

/-- **All is well**: nothing has been assigned to a joinable thread, and at most one thread is
executing `Run`. -/
def Safe (s : State) : Prop :=
  s.terminated = false ∧ (s.workers.filter (· ≠ .exited)).length ≤ 1

/-- The calls by which a runtime is started again. -/
def again : List Operation :=
  [.start, .stop, .start]

/-! ### What a step does -/

section Steps

variable {s t : State} {label : Label}

theorem step_iff : Step s label t ↔ s.terminated = false ∧ s.move label = some t := by
  simp [Step, Next, step]

/-- A step of a worker leaves the owner and the flag alone. -/
theorem work_cases {index : Nat} (works : s.work index = some t) :
    ∃ worker gate, t = { s with workers := s.workers.set index worker, runEventGate := gate } := by
  unfold State.work at works
  split at works
  · exact ⟨_, _, (Option.some.inj works).symm⟩
  · exact ⟨_, _, (Option.some.inj (Option.ite_none_right_eq_some.mp works).2).symm⟩
  · exact ⟨_, _, (Option.some.inj works).symm⟩
  · cases works

/-- **What a step does**, as far as the flag, the number of threads and the owner are concerned. -/
inductive Moved (s : State) : State → List Operation → Prop
  | calls (operation : Operation) (idle : s.call = .idle) :
      Moved s { s with call := operation.first } [operation]
  /-- A call goes on or returns, or a worker takes a step. -/
  | quiet (call : Call) (gate : Option Holder) (workers : List Worker)
      (goes : call = s.call ∨ call = .idle ∨ (s.call = .starting ∧ call = .exchanging))
      (length : workers.length = s.workers.length) :
      Moved s { s with call, runEventGate := gate, workers } []
  | starts (place : s.call = .exchanging) (stopped : s.running = false) :
      Moved s { s with call := .creating, running := true, runEventGate := none } []
  | stops (place : s.call = .stopping) (running : s.running = true) :
      Moved s { s with call := .notifying, running := false } []
  | creates (place : s.call = .creating) :
      Moved s { s with call := .assigning, workers := s.workers ++ [.testing] } []
  | assigns (place : s.call = .assigning) (free : s.threadMain = none) :
      Moved s { s with call := .idle, threadMain := some (s.workers.length - 1) } []
  | terminates (place : s.call = .assigning) (joinable : s.threadMain.isSome) :
      Moved s { s with terminated := true } []

theorem moved_of_step (taken : Step s label t) : Moved s t (calls [label]) := by
  obtain ⟨-, moved⟩ := step_iff.mp taken
  cases label with
  | call operation =>
    obtain ⟨idle, rfl⟩ := Option.ite_some_none_eq_some.mp moved
    exact .calls operation idle
  | lock =>
    obtain ⟨⟨starting, -⟩, rfl⟩ := Option.ite_some_none_eq_some.mp moved
    exact .quiet .exchanging _ _ (.inr (.inr ⟨starting, rfl⟩)) rfl
  | exchange spuriously =>
    rw [State.move] at moved
    split at moved
    · rename_i place
      split at moved
      · obtain rfl := Option.some.inj moved
        exact .quiet .idle _ _ (.inr (.inl rfl)) rfl
      · rename_i succeeds
        obtain rfl := Option.some.inj moved
        exact .starts place (Bool.eq_false_iff.mpr fun running => succeeds (.inl running))
    · rename_i place
      split at moved
      · rename_i succeeds
        obtain rfl := Option.some.inj moved
        exact .stops place succeeds.1
      · obtain rfl := Option.some.inj moved
        exact .quiet .idle _ _ (.inr (.inl rfl)) rfl
    · cases moved
  | create =>
    obtain ⟨place, rfl⟩ := Option.ite_some_none_eq_some.mp moved
    exact .creates place
  | assign =>
    obtain ⟨place, same⟩ := Option.ite_none_right_eq_some.mp moved
    split at same
    · rename_i joinable
      obtain rfl := Option.some.inj same
      exact .terminates place joinable
    · rename_i free
      obtain rfl := Option.some.inj same
      exact .assigns place (Option.not_isSome_iff_eq_none.mp free)
  | notify woken =>
    obtain ⟨-, same⟩ := Option.ite_none_right_eq_some.mp moved
    cases woken with
    | some index =>
      obtain ⟨-, rfl⟩ := Option.ite_some_none_eq_some.mp same
      exact .quiet .idle _ _ (.inr (.inl rfl)) (List.length_set ..)
    | none =>
      obtain ⟨-, same⟩ := Option.ite_none_left_eq_some.mp same
      obtain rfl := Option.some.inj same
      exact .quiet .idle _ _ (.inr (.inl rfl)) rfl
  | work index =>
    obtain ⟨worker, gate, rfl⟩ := work_cases moved
    exact .quiet s.call _ _ (.inl rfl) (List.length_set ..)

end Steps

/-! ### One thread -/

section Coarse

variable {s t : State} {label : Label}

/-- The place of the owner between the steps of `Runtime`, where a thread is created and assigned in
one. -/
def Call.coarse : Call → ServiceRuntime.Call
  | .idle | .assigning => .idle
  | .starting => .starting
  | .exchanging => .exchanging
  | .creating => .launching
  | .stopping => .stopping .stop
  | .notifying => .notifying .stop

def Holder.coarse : Holder → ServiceRuntime.Holder Unit
  | .owner => .client ()
  | .worker _ => .worker

def State.coarse (s : State) : ServiceRuntime.State Unit where
  running := s.running
  runEventGate := s.runEventGate.map Holder.coarse
  worker := s.workers.headD .absent
  joinable := !s.workers.isEmpty
  call := fun _ => s.call.coarse
  destroyed := false
  terminated := s.terminated

/-- There is one thread at most, after the step as well, and nothing fails spuriously. -/
def Single (s : State) (label : Label) : Prop :=
  s.workers.length ≤ 1 ∧ (label = .create → s.workers = []) ∧
    (label = .assign → s.threadMain = none) ∧ label ≠ .exchange true

/-- A worker takes the steps of the worker of `Runtime`. -/
theorem move_of_next {s : ServiceRuntime.State Unit} {worker : Worker} {use : GateUse}
    (goes : next s.running s.worker = some (worker, use)) :
    ∃ label, match use with
      | .none => s.move label = some { s with worker }
      | .takes => s.runEventGate = none →
        s.move label = some { s with worker, runEventGate := some .worker }
      | .releases => s.move label = some { s with worker, runEventGate := none } := by
  obtain ⟨running, gate, place, joinable, call, destroyed, terminated⟩ := s
  cases place with
  | absent => cases goes
  | testing =>
    obtain ⟨rfl, rfl⟩ := Prod.mk.inj (Option.some.inj goes)
    exact ⟨.test, rfl⟩
  | acquiring =>
    obtain ⟨rfl, rfl⟩ := Prod.mk.inj (Option.some.inj goes)
    exact ⟨.acquire, fun free => move_acquire.mpr ⟨rfl, free, rfl⟩⟩
  | holding =>
    obtain ⟨rfl, rfl⟩ := Prod.mk.inj (Option.some.inj goes)
    exact ⟨.wait, rfl⟩
  | blocked =>
    obtain ⟨rfl, rfl⟩ := Prod.mk.inj (Option.some.inj goes)
    exact ⟨.wakeSpuriously, rfl⟩
  | notified =>
    obtain ⟨rfl, rfl⟩ := Prod.mk.inj (Option.some.inj goes)
    exact ⟨.reacquire, fun free => move_reacquire.mpr ⟨rfl, free, rfl⟩⟩
  | checking =>
    cases running with
    | true =>
      obtain ⟨rfl, rfl⟩ := Prod.mk.inj (Option.some.inj goes)
      exact ⟨.check, rfl⟩
    | false =>
      obtain ⟨rfl, rfl⟩ := Prod.mk.inj (Option.some.inj goes)
      exact ⟨.check, rfl⟩
  | handling =>
    obtain ⟨rfl, rfl⟩ := Prod.mk.inj (Option.some.inj goes)
    exact ⟨.handle, rfl⟩
  | exited => cases goes

theorem coarse_work {index : Nat} (single : s.workers.length ≤ 1) (works : s.work index = some t) :
    ∃ label, s.coarse.move label = some t.coarse := by
  obtain ⟨running, gate, workers, threadMain, call, terminated⟩ := s
  cases workers with
  | nil => simp [State.work] at works
  | cons worker rest =>
    obtain rfl : rest = [] := by simpa using single
    cases index with
    | succ index => simp [State.work] at works
    | zero =>
      rw [State.work, show [worker][0]?.bind (next running) = next running worker from rfl] at works
      cases goes : next running worker with
      | none =>
        rw [goes] at works
        cases works
      | some pair =>
        obtain ⟨after, use⟩ := pair
        obtain ⟨label, moves⟩ := move_of_next
          (s := State.coarse ⟨running, gate, [worker], threadMain, call, terminated⟩) goes
        rw [goes] at works
        cases use with
        | none =>
          obtain rfl := Option.some.inj works
          exact ⟨label, moves⟩
        | takes =>
          obtain ⟨free, rfl⟩ := Option.ite_some_none_eq_some.mp works
          obtain rfl : gate = Option.none := free
          exact ⟨label, moves rfl⟩
        | releases =>
          obtain rfl := Option.some.inj works
          exact ⟨label, moves⟩

theorem coarse_setCall (s : State) (call : Call) :
    ({ s with call } : State).coarse = s.coarse.setCall () call.coarse := by
  unfold ServiceRuntime.State.setCall
  congr 1

/-- The `notify_one` wakes the thread if it waits. -/
theorem coarse_notify {woken : Option Nat} (single : s.workers.length ≤ 1)
    (moved : s.move (.notify woken) = some t) :
    s.call = .notifying ∧ t.coarse = s.coarse.notifyOne.setCall () .idle := by
  obtain ⟨place, same⟩ := Option.ite_none_right_eq_some.mp moved
  refine ⟨place, ?_⟩
  cases woken with
  | none =>
    obtain ⟨awake, same⟩ := Option.ite_none_left_eq_some.mp same
    obtain rfl := Option.some.inj same
    have still : s.coarse.worker ≠ .blocked := by
      show s.workers.headD .absent ≠ .blocked
      cases shape : s.workers with
      | nil => simp
      | cons worker rest => exact fun blocked => awake (by simp_all)
    rw [ServiceRuntime.State.notifyOne, if_neg still]
    exact coarse_setCall s .idle
  | some index =>
    obtain ⟨blocked, rfl⟩ := Option.ite_some_none_eq_some.mp same
    obtain ⟨running, gate, workers, threadMain, call, terminated⟩ := s
    obtain rfl : workers = [.blocked] := by
      obtain ⟨worker, rfl⟩ := List.length_eq_one_iff.mp
        (Nat.le_antisymm single (List.length_pos_of_mem (List.mem_of_getElem? blocked)))
      rw [List.mem_singleton.mp (List.mem_of_getElem? blocked)]
    obtain rfl : index = 0 := by
      have := (List.getElem?_eq_some_iff.mp blocked).1
      simpa using this
    exact coarse_setCall ⟨running, gate, [.notified], threadMain, call, terminated⟩ .idle

/-- An exchange that does not fail spuriously is the exchange of `Runtime`. -/
theorem coarse_exchange (moved : s.move (.exchange false) = some t) :
    s.coarse.move (.exchange ()) = some t.coarse := by
  have place {call : Call} (here : s.call = call) : s.coarse.call () = call.coarse :=
    congrArg Call.coarse here
  rw [State.move] at moved
  split at moved
  · rename_i exchanging
    split at moved
    · rename_i fails
      obtain rfl := Option.some.inj moved
      have set : s.running = true := by simpa using fails
      exact move_exchange.mpr (.inl ⟨place exchanging, set,
        coarse_setCall { s with runEventGate := none } .idle⟩)
    · rename_i succeeds
      obtain rfl := Option.some.inj moved
      have clear : s.running = false := by simpa using succeeds
      exact move_exchange.mpr (.inr (.inl ⟨place exchanging, clear,
        coarse_setCall { s with running := true, runEventGate := none } .creating⟩))
  · rename_i stopping
    split at moved
    · rename_i succeeds
      obtain rfl := Option.some.inj moved
      exact move_exchange.mpr (.inr (.inr ⟨.stop, place stopping, .inl
        ⟨succeeds.1, coarse_setCall { s with running := false } .notifying⟩⟩))
    · rename_i fails
      obtain rfl := Option.some.inj moved
      have clear : s.running = false := by simpa using fails
      exact move_exchange.mpr (.inr (.inr ⟨.stop, place stopping, .inr
        ⟨clear, coarse_setCall s .idle⟩⟩))
  · cases moved

theorem coarse_step (taken : Restrict Step Single s label t) :
    ∃ trace, Run ServiceRuntime.Step s.coarse trace t.coarse := by
  obtain ⟨⟨single, creates, assigns, notSpurious⟩, taken⟩ := taken
  obtain ⟨running, moved⟩ := step_iff.mp taken
  have one {label : ServiceRuntime.Label Unit} (moves : s.coarse.move label = some t.coarse) :
      ∃ trace, Run ServiceRuntime.Step s.coarse trace t.coarse :=
    ⟨[label], .single (ServiceRuntime.step_iff.mpr ⟨running, moves⟩)⟩
  have place {call : Call} (here : s.call = call) : s.coarse.call () = call.coarse :=
    congrArg Call.coarse here
  cases label with
  | call operation =>
    obtain ⟨idle, rfl⟩ := Option.ite_some_none_eq_some.mp moved
    cases operation with
    | start => exact one (move_call.mpr ⟨rfl, place idle, coarse_setCall s .starting⟩ :
        s.coarse.move (.call () .start) = _)
    | stop => exact one (move_call.mpr ⟨rfl, place idle, coarse_setCall s .stopping⟩ :
        s.coarse.move (.call () .stop) = _)
  | lock =>
    obtain ⟨⟨starting, free⟩, rfl⟩ := Option.ite_some_none_eq_some.mp moved
    refine one (move_lock.mpr ⟨place starting, ?_,
      coarse_setCall { s with runEventGate := some .owner } .exchanging⟩)
    rw [State.coarse, free]
    rfl
  | exchange spuriously =>
    obtain rfl : spuriously = false := by
      cases spuriously with
      | false => rfl
      | true => exact absurd rfl notSpurious
    exact one (coarse_exchange moved)
  | create =>
    obtain ⟨creating, rfl⟩ := Option.ite_some_none_eq_some.mp moved
    have none := creates rfl
    refine one (move_launch.mpr ⟨place creating, .inr ⟨?_, ?_⟩⟩)
    · rw [State.coarse, none]
      rfl
    · rw [none]
      exact coarse_setCall { s with workers := [.testing] } .assigning
  | assign =>
    obtain ⟨assigning, same⟩ := Option.ite_none_right_eq_some.mp moved
    rw [assigns rfl] at same
    obtain rfl := Option.some.inj same
    refine ⟨[], ?_⟩
    rw [show s.coarse = State.coarse { s with call := .idle } by
      rw [State.coarse, State.coarse, assigning]
      rfl]
    exact .nil
  | notify woken =>
    obtain ⟨notifying, same⟩ := coarse_notify single moved
    exact one (move_notify.mpr ⟨.stop, place notifying, same⟩)
  | work index =>
    obtain ⟨label, moves⟩ := coarse_work single moved
    exact one moves

/-- **With one thread, this is the runtime of `Runtime`.** -/
theorem coarse_run {trace : List Label} (run : Run (Restrict Step Single) init trace s) :
    ∃ trace, Run ServiceRuntime.Step (ServiceRuntime.init Unit) trace s.coarse := by
  refine run.invariant (fun s => ∃ trace, Run ServiceRuntime.Step (ServiceRuntime.init Unit) trace
    s.coarse) ⟨[], .nil⟩ ?_
  rintro s label t ⟨trace, before⟩ taken
  obtain ⟨more, after⟩ := coarse_step taken
  exact ⟨trace ++ more, before.append after⟩

end Coarse

/-! ### The calls behind a state -/

theorem sublist_of_snoc {α : Type} {others before : List α} {wanted last : α}
    (different : wanted ≠ last) (sub : (others ++ [wanted]).Sublist (before ++ [last])) :
    (others ++ [wanted]).Sublist before := by
  have reversed := List.reverse_sublist.mpr sub
  simp only [List.reverse_append, List.reverse_singleton, List.singleton_append] at reversed
  cases reversed with
  | cons _ rest => exact List.reverse_sublist.mp (by simpa using rest)
  | cons_cons => exact absurd rfl different

/-- **What the calls so far must have been**: each change of the flag is that of a call, and a
second thread comes from a `Start` after a `Stop` after a `Start`. -/
structure Explained (made : List Operation) (s : State) : Prop where
  starting : s.call = .starting ∨ s.call = .exchanging → ∃ before, made = before ++ [.start]
  stopping : s.call = .stopping → ∃ before, made = before ++ [.stop]
  running : s.running = true → [.start].Sublist made
  stopped : s.running = false → 0 < s.workers.length → [.start, .stop].Sublist made
  creating : s.call = .creating → s.running = true ∧ (0 < s.workers.length → again.Sublist made)
  assigning : s.call = .assigning →
    0 < s.workers.length ∧ (s.threadMain.isSome → again.Sublist made)
  joinable : s.threadMain.isSome → 0 < s.workers.length
  more : 2 ≤ s.workers.length → again.Sublist made
  terminated : s.terminated = true → again.Sublist made

theorem explained_init : Explained [] init := by
  constructor <;> simp [init]

section Explained

variable {s t : State} {made new : List Operation}

/-- More calls explain the same. -/
theorem Explained.more_calls (explained : Explained made s) (operation : Operation) :
    Explained (made ++ [operation]) { s with call := operation.first } where
  starting := by
    intro place
    cases operation with
    | start => exact ⟨made, rfl⟩
    | stop => simp [Operation.first] at place
  stopping := by
    intro place
    cases operation with
    | start => simp [Operation.first] at place
    | stop => exact ⟨made, rfl⟩
  running := fun running => (explained.running running).trans (List.sublist_append_left ..)
  stopped := fun stopped some =>
    (explained.stopped stopped some).trans (List.sublist_append_left ..)
  creating := fun place => by cases operation <;> cases place
  assigning := fun place => by cases operation <;> cases place
  joinable := explained.joinable
  more := fun more => (explained.more more).trans (List.sublist_append_left ..)
  terminated := fun ended => (explained.terminated ended).trans (List.sublist_append_left ..)

/-- **A `Start` that changes the flag** is the first to do so, or follows a `Stop` that has. -/
theorem Explained.starts (explained : Explained made s) (place : s.call = .exchanging)
    (stopped : s.running = false) :
    Explained made { s with call := .creating, running := true, runEventGate := none } := by
  obtain ⟨before, rfl⟩ := explained.starting (.inr place)
  have last : [Operation.start].Sublist (before ++ [.start]) := by simp
  have restarted (some : 0 < s.workers.length) : again.Sublist (before ++ [.start]) := by
    have earlier : ([Operation.start] ++ [Operation.stop]).Sublist before :=
      sublist_of_snoc (by decide) (explained.stopped stopped some)
    exact earlier.append_right [Operation.start]
  exact {
    starting := fun place => by simp at place
    stopping := fun place => by cases place
    running := fun _ => last
    stopped := fun stopped => by cases stopped
    creating := fun _ => ⟨rfl, restarted⟩
    assigning := fun place => by cases place
    joinable := explained.joinable
    more := explained.more
    terminated := explained.terminated }

/-- **A `Stop` that changes the flag** follows a `Start` that has. -/
theorem Explained.stops (explained : Explained made s) (place : s.call = .stopping)
    (running : s.running = true) :
    Explained made { s with call := .notifying, running := false } := by
  obtain ⟨before, rfl⟩ := explained.stopping place
  have earlier : ([] ++ [Operation.start]).Sublist before :=
    sublist_of_snoc (by decide) (explained.running running)
  exact {
    starting := fun place => by simp at place
    stopping := fun place => by cases place
    running := fun running => by cases running
    stopped := fun _ _ => earlier.append_right [Operation.stop]
    creating := fun place => by cases place
    assigning := fun place => by cases place
    joinable := explained.joinable
    more := explained.more
    terminated := explained.terminated }

/-- A call that goes on or returns. -/
theorem Explained.quiet (explained : Explained made s) {call : Call} {gate : Option Holder}
    {workers : List Worker}
    (goes : call = s.call ∨ call = .idle ∨ (s.call = .starting ∧ call = .exchanging))
    (length : workers.length = s.workers.length) :
    Explained made { s with call, runEventGate := gate, workers } := by
  have same {place : Call} (here : call = place) (notIdle : place ≠ .idle)
      (notExchanging : place ≠ .exchanging) : s.call = place := by
    rcases goes with same | idle | ⟨-, exchanging⟩
    · exact same.symm.trans here
    · exact absurd (here.symm.trans idle) notIdle
    · exact absurd (here.symm.trans exchanging) notExchanging
  exact {
    starting := by
      intro place
      rcases goes with same | rfl | ⟨starting, -⟩
      · exact explained.starting (same ▸ place)
      · simp at place
      · exact explained.starting (.inl starting)
    stopping := fun place => explained.stopping (same place (by decide) (by decide))
    running := explained.running
    stopped := fun stopped some => explained.stopped stopped (length ▸ some)
    creating := by
      intro place
      obtain ⟨running, restarted⟩ := explained.creating (same place (by decide) (by decide))
      exact ⟨running, fun some => restarted (length ▸ some)⟩
    assigning := by
      intro place
      obtain ⟨some, restarted⟩ := explained.assigning (same place (by decide) (by decide))
      exact ⟨length ▸ some, restarted⟩
    joinable := fun joinable => length ▸ explained.joinable joinable
    more := fun more => explained.more (length ▸ more)
    terminated := explained.terminated }

/-- A second thread is that of a second `Start`. -/
theorem Explained.creates (explained : Explained made s) (place : s.call = .creating) :
    Explained made { s with call := .assigning, workers := s.workers ++ [.testing] } := by
  obtain ⟨running, restarted⟩ := explained.creating place
  have longer : (s.workers ++ [Worker.testing]).length = s.workers.length + 1 := List.length_append
  exact {
    starting := fun place => by simp at place
    stopping := fun place => by cases place
    running := explained.running
    stopped := by
      intro stopped
      rw [show s.running = false from stopped] at running
      cases running
    creating := fun place => by cases place
    assigning := fun _ => ⟨by simp, fun joinable => restarted (explained.joinable joinable)⟩
    joinable := fun _ => by simp
    more := fun more => restarted (by rw [longer] at more; omega)
    terminated := explained.terminated }

theorem Explained.step (explained : Explained made s) (moved : Moved s t new) :
    Explained (made ++ new) t := by
  cases moved with
  | calls operation idle => exact explained.more_calls operation
  | quiet call gate workers goes length =>
    rw [List.append_nil]
    exact explained.quiet goes length
  | starts place stopped =>
    rw [List.append_nil]
    exact explained.starts place stopped
  | stops place running =>
    rw [List.append_nil]
    exact explained.stops place running
  | creates place =>
    rw [List.append_nil]
    exact explained.creates place
  | assigns place free =>
    rw [List.append_nil]
    obtain ⟨some, -⟩ := explained.assigning place
    exact { explained with
      starting := fun place => by simp at place
      stopping := fun place => by cases place
      creating := fun place => by cases place
      assigning := fun place => by cases place
      joinable := fun _ => some }
  | terminates place joinable =>
    rw [List.append_nil]
    obtain ⟨-, restarted⟩ := explained.assigning place
    exact { explained with terminated := fun _ => restarted joinable }

theorem explained_run {trace : List Label} (run : Run Step init trace s) :
    Explained (calls trace) s := by
  refine run.history (fun trace s => Explained (calls trace) s) explained_init ?_
  intro trace s label t _ explained taken
  rw [calls, List.filterMap_append]
  exact explained.step (moved_of_step taken)

/-- Without a second `Start` after a `Stop`, all is well. -/
theorem Explained.safe (explained : Explained made s) (once : ¬ again.Sublist made) : Safe s := by
  refine ⟨Bool.eq_false_iff.mpr fun ended => once (explained.terminated ended), ?_⟩
  have few : ¬ 2 ≤ s.workers.length := fun more => once (explained.more more)
  have := List.length_filter_le (fun worker => decide (worker ≠ .exited)) s.workers
  omega

end Explained

/-! ### How it goes wrong -/

/-- The owner has started the runtime; its worker takes its time. -/
def started : State where
  running := true
  runEventGate := none
  workers := [.testing]
  threadMain := some 0
  call := .idle
  terminated := false

/-- The owner has stopped it as well. -/
def stopped : State :=
  { started with running := false }

/-- These calls can end badly from this state. -/
def CanFail (s : State) (operations : List Operation) : Prop :=
  ∃ trace t, Run Step s trace t ∧ calls trace <+: operations ∧ ¬ Safe t

/-- A call that leads from one state to another. -/
theorem CanFail.call {s t : State} {operation : Operation} {operations : List Operation}
    (fails : CanFail t operations) (trace : List Label) (run : Run Step s trace t)
    (made : calls trace = [operation]) : CanFail s (operation :: operations) := by
  obtain ⟨later, u, rest, before, wrong⟩ := fails
  refine ⟨trace ++ later, u, run.append rest, ?_, wrong⟩
  rw [calls, List.filterMap_append]
  show calls trace ++ calls later <+: _
  rw [made]
  exact List.cons_prefix_cons.mpr ⟨rfl, before⟩

theorem canFail_stopped {operations : List Operation} (starts : .start ∈ operations) :
    CanFail stopped operations := by
  induction operations with
  | nil => cases starts
  | cons operation operations ih =>
    cases operation with
    | start =>
      refine ⟨[.call .start, .lock, .exchange false, .create, .assign], _, run_of_execute rfl,
        List.cons_prefix_cons.mpr ⟨rfl, List.nil_prefix⟩, fun safe => ?_⟩
      cases safe.1
    | stop =>
      have later := ih ((List.mem_cons.mp starts).resolve_left (by decide))
      exact later.call [.call .stop, .exchange false] (run_of_execute rfl) rfl

theorem canFail_started {operations : List Operation}
    (restarts : [.stop, .start].Sublist operations) : CanFail started operations := by
  induction operations with
  | nil => cases restarts
  | cons operation operations ih =>
    cases operation with
    | start =>
      have later := ih (by cases restarts; assumption)
      exact later.call [.call .start, .lock, .exchange false] (run_of_execute rfl) rfl
    | stop =>
      have later : .start ∈ operations := by
        cases restarts with
        | cons _ rest => exact rest.mem (by simp)
        | cons_cons _ rest => exact rest.mem (by simp)
      exact (canFail_stopped later).call [.call .stop, .exchange false, .notify none]
        (run_of_execute rfl) rfl

theorem canFail_init {operations : List Operation} (restarts : again.Sublist operations) :
    CanFail init operations := by
  induction operations with
  | nil => cases restarts
  | cons operation operations ih =>
    cases operation with
    | start =>
      have later : [.stop, .start].Sublist operations := by
        cases restarts with
        | cons _ rest => exact (List.sublist_cons_self ..).trans rest
        | cons_cons _ rest => exact rest
      exact (canFail_started later).call [.call .start, .lock, .exchange false, .create, .assign]
        (run_of_execute rfl) rfl
    | stop =>
      have later := ih (by cases restarts; assumption)
      exact later.call [.call .stop, .exchange false] (run_of_execute rfl) rfl

/-- **All goes well in every interleaving of a sequence of calls exactly where it never starts again
after a stop.** -/
theorem safe_iff (operations : List Operation) :
    (∀ trace s, Run Step init trace s → calls trace <+: operations → Safe s) ↔
      ¬ [.start, .stop, .start].Sublist operations := by
  constructor
  · intro safe restarts
    obtain ⟨trace, s, run, before, wrong⟩ := canFail_init restarts
    exact wrong (safe trace s run before)
  · intro once trace s run before
    exact (explained_run run).safe fun again => once (again.trans before.sublist)

/-- The runtime is started, stopped, and started again, with its worker in `Run`. -/
def restartTrace : List Label :=
  [.call .start, .lock, .exchange false, .create, .assign, .work 0, .work 0, .work 0,
    .call .stop, .exchange false, .notify (some 0), .call .start, .lock, .exchange false, .create,
    .work 1, .assign]

/-- Two threads execute `Run`, and the second `Start` calls `std::terminate`. -/
theorem restart_terminates : calls restartTrace = [.start, .stop, .start] ∧
    ∃ s, Run Step init restartTrace s ∧ s.terminated = true ∧
      s.workers = [.notified, .acquiring] ∧ ¬ Safe s :=
  ⟨rfl, _, run_of_execute rfl, rfl, rfl, fun safe => by cases safe.1⟩

end NearObject.ServiceRuntime.Restart
