/-
**`NearObjectDeviceControllerDiscoveryAgent` — `Start` and `Stop` from one thread.**

A weak compare-exchange may fail although it finds the value that it expects. `Start` and `Stop`
take this for the case that there is nothing to do, and return.

* `run_of_requests`, `requests_of_run` — calls one after another are the runs of a single thread.
* `effective_iff` — each call takes effect exactly where none of those that have something to do
  fails spuriously.
-/

import NearObject.Device.Starting
import Mathlib.Data.List.Destutter

namespace NearObject.Device.Starting

open Transition

/-! ### Calls one after another -/

/-- A call, and whether its compare-exchange fails although it finds the expected value. -/
structure Request where
  operation : Operation
  spuriously : Bool
  deriving DecidableEq, Repr

/-- The agent between two calls: `m_started`, and the calls of `StartImpl` and `StopImpl` so far. -/
structure Agent where
  started : Bool
  impls : List Operation
  deriving DecidableEq, Repr

/-- The compare-exchange succeeds. -/
def Request.Exchanges (request : Request) (started : Bool) : Prop :=
  started = request.operation.expected ∧ ¬ request.spuriously

instance (request : Request) (started : Bool) : Decidable (request.Exchanges started) :=
  inferInstanceAs (Decidable (_ ∧ _))

/-- `Start` and `Stop`. -/
def Agent.call (agent : Agent) (request : Request) : Agent :=
  if request.Exchanges agent.started then
    { started := request.operation.desired, impls := agent.impls ++ [request.operation] }
  else agent

/-- An agent that has been constructed. -/
def Agent.fresh : Agent where
  started := false
  impls := []

/-- The agent after a sequence of calls. -/
def after (requests : List Request) : Agent :=
  requests.foldl Agent.call .fresh

theorem after_snoc (requests : List Request) (request : Request) :
    after (requests ++ [request]) = (after requests).call request := by
  rw [after, List.foldl_append]
  rfl

/-! ### What takes effect -/

/-- `IsStarted` after each call. -/
def observed (agent : Agent) : List Request → List Bool
  | [] => []
  | request :: requests => (agent.call request).started :: observed (agent.call request) requests

/-- **The calls have taken effect**: `IsStarted` shows whether the last was `Start`, and the states
from the beginning, without repetitions, show one change for each `StartImpl` and `StopImpl`. -/
def Effective (requests : List Request) : Prop :=
  (∀ last, requests.getLast? = some last →
    ((after requests).started = true ↔ last.operation = .start)) ∧
  (observed .fresh requests).destutter' (· ≠ ·) false =
    false :: (after requests).impls.map Operation.desired

/-- No call that differs from the one before fails spuriously; `before` is what that one asked
for. -/
def Unhindered (before : Bool) : List Request → Prop
  | [] => True
  | request :: requests =>
    (before = request.operation.expected → request.spuriously = false) ∧
      Unhindered request.operation.desired requests

section Sequences

variable {agent : Agent} {request : Request} {requests : List Request}

theorem desired_iff (operation : Operation) {started : Bool} :
    started = operation.desired ↔ (started = true ↔ operation = .start) := by
  cases operation <;> cases started <;> decide

theorem desired_ne_expected (operation : Operation) : operation.desired ≠ operation.expected := by
  cases operation <;> decide

/-- A call has its state, unless it has something to do and fails spuriously. -/
theorem call_started_iff : (agent.call request).started = request.operation.desired ↔
    (agent.started = request.operation.expected → request.spuriously = false) := by
  have other : agent.started ≠ request.operation.expected ↔
      agent.started = request.operation.desired := by
    cases request.operation <;> cases agent.started <;> decide
  unfold Agent.call
  split
  · rename_i exchanges
    exact iff_of_true rfl fun _ => Bool.eq_false_iff.mpr exchanges.2
  · rename_i fails
    rw [← other]
    constructor
    · intro different expected
      exact absurd expected different
    · intro succeeds expected
      exact fails ⟨expected, Bool.eq_false_iff.mp (succeeds expected)⟩

/-- Every call has its state in turn. -/
theorem started_iff (agent : Agent) (requests : List Request) :
    (∀ early request late, requests = early ++ request :: late →
      ((early ++ [request]).foldl Agent.call agent).started = request.operation.desired) ↔
      Unhindered agent.started requests := by
  induction requests generalizing agent with
  | nil =>
    refine iff_of_true ?_ trivial
    intro early request late shape
    simp at shape
  | cons request requests ih =>
    constructor
    · intro effective
      have first : (agent.call request).started = request.operation.desired :=
        effective [] request requests rfl
      refine ⟨call_started_iff.mp first, ?_⟩
      rw [← first]
      apply (ih _).mp
      rintro early last late rfl
      exact effective (request :: early) last late rfl
    · rintro ⟨succeeds, others⟩ early last late shape
      have first := call_started_iff.mpr succeeds
      rw [← first] at others
      cases early with
      | nil =>
        obtain ⟨rfl, rfl⟩ := List.cons.inj shape
        exact first
      | cons other early =>
        obtain ⟨rfl, rfl⟩ := List.cons.inj shape
        exact (ih _).mpr others early last late rfl

/-- **There is a `StartImpl` or a `StopImpl` for each change of state**, in any case. -/
theorem states_eq (agent : Agent) (requests : List Request) :
    ∃ more, (requests.foldl Agent.call agent).impls = agent.impls ++ more ∧
      (observed agent requests).destutter' (· ≠ ·) agent.started =
        agent.started :: more.map Operation.desired := by
  induction requests generalizing agent with
  | nil => exact ⟨[], (List.append_nil _).symm, rfl⟩
  | cons request requests ih =>
    obtain ⟨more, impls, states⟩ := ih (agent.call request)
    rw [List.foldl_cons, impls, observed]
    by_cases exchanges : request.Exchanges agent.started
    · have called : agent.call request =
          { started := request.operation.desired, impls := agent.impls ++ [request.operation] } :=
        if_pos exchanges
      have changed : agent.started ≠ request.operation.desired := by
        rw [exchanges.1]
        exact (desired_ne_expected _).symm
      rw [called] at states ⊢
      refine ⟨request.operation :: more, by simp, ?_⟩
      rw [List.destutter'_cons_pos _ changed, states, List.map_cons]
    · have called : agent.call request = agent := if_neg exchanges
      rw [called] at states ⊢
      refine ⟨more, rfl, ?_⟩
      rw [List.destutter'_cons_neg _ (not_not_intro rfl), states]

/-- **After each call `IsStarted` is true exactly when it was `Start`, with one `StartImpl` or
`StopImpl` for each change of state, if and only if no call that differs from the one before fails
spuriously.** -/
theorem effective_iff (requests : List Request) :
    (∀ early late, requests = early ++ late → Effective early) ↔ Unhindered false requests := by
  refine Iff.trans ?_ (started_iff .fresh requests)
  constructor
  · rintro effective early request late rfl
    have last := (effective (early ++ [request]) late (by simp)).1 request (by simp)
    exact (desired_iff _).mpr last
  · rintro started early late rfl
    constructor
    · intro last found
      obtain ⟨earlier, rfl⟩ := List.getLast?_eq_some_iff.mp found
      exact (desired_iff _).mp (started earlier last late (by simp))
    · obtain ⟨more, impls, states⟩ := states_eq .fresh early
      rw [after, impls]
      exact states

end Sequences

/-! ### The runs of a single thread -/

/-- The steps of a call. -/
def Agent.steps (agent : Agent) (request : Request) : List Label :=
  [.call 0 request.operation, .exchange 0 request.spuriously] ++
    if request.Exchanges agent.started then [.impl 0 request.operation] else []

/-- The steps of a sequence of calls. -/
def Agent.trace (agent : Agent) : List Request → List Label
  | [] => []
  | request :: requests => agent.steps request ++ (agent.call request).trace requests

/-- Where the thread is in a call, with the calls that have returned and the work that is done. -/
inductive Between (requests : List Request) : State → List Operation → Prop
  | idle : Between requests ⟨(after requests).started, [.idle]⟩ (after requests).impls
  | exchanging (operation : Operation) :
      Between requests ⟨(after requests).started, [.exchanging operation]⟩ (after requests).impls
  | exchanged (operation : Operation) (found : (after requests).started = operation.expected) :
      Between requests ⟨operation.desired, [.exchanged operation]⟩ (after requests).impls

section Runs

variable {s t : State} {label : Label} {trace : List Label} {requests : List Request}
  {done : List Operation}

theorem impls_steps (agent : Agent) (request : Request) :
    (agent.call request).impls = agent.impls ++ impls (agent.steps request) := by
  unfold Agent.call Agent.steps
  split
  · rfl
  · exact (List.append_nil _).symm

theorem run_of_call (agent : Agent) (request : Request) :
    Run Step ⟨agent.started, [.idle]⟩ (agent.steps request)
      ⟨(agent.call request).started, [.idle]⟩ := by
  have begins : Step ⟨agent.started, [.idle]⟩ (.call 0 request.operation)
      ⟨agent.started, [.exchanging request.operation]⟩ := rfl
  unfold Agent.call Agent.steps
  by_cases exchanges : request.Exchanges agent.started
  · have exchange : Step ⟨agent.started, [.exchanging request.operation]⟩
        (.exchange 0 request.spuriously)
        ⟨request.operation.desired, [.exchanged request.operation]⟩ :=
      if_pos exchanges
    have work : Step ⟨request.operation.desired, [.exchanged request.operation]⟩
        (.impl 0 request.operation) ⟨request.operation.desired, [.idle]⟩ :=
      if_pos rfl
    rw [if_pos exchanges, if_pos exchanges]
    exact .cons begins (.cons exchange (.single work))
  · have fails : Step ⟨agent.started, [.exchanging request.operation]⟩
        (.exchange 0 request.spuriously) ⟨agent.started, [.idle]⟩ :=
      if_neg exchanges
    rw [if_neg exchanges, if_neg exchanges]
    exact .cons begins (.single fails)

/-- **Calls one after another are a run of a single thread**, with the same work. -/
theorem run_of_requests (agent : Agent) (requests : List Request) :
    Run Step ⟨agent.started, [.idle]⟩ (agent.trace requests)
        ⟨(requests.foldl Agent.call agent).started, [.idle]⟩ ∧
      (requests.foldl Agent.call agent).impls =
        agent.impls ++ impls (agent.trace requests) := by
  induction requests generalizing agent with
  | nil => exact ⟨.nil, (List.append_nil _).symm⟩
  | cons request requests ih =>
    obtain ⟨run, work⟩ := ih (agent.call request)
    refine ⟨(run_of_call agent request).append run, ?_⟩
    rw [List.foldl_cons, work, impls_steps, Agent.trace, impls_append, List.append_assoc]

/-- The only thread is the first. -/
theorem only_thread {call other : Call} {thread : Nat} (here : [call][thread]? = some other) :
    thread = 0 ∧ other = call := by
  rw [List.getElem?_singleton] at here
  obtain ⟨first, same⟩ := Option.ite_none_right_eq_some.mp here
  exact ⟨first, (Option.some.inj same).symm⟩

theorem Between.of_after {agent : Agent} (same : after requests = agent) :
    Between requests ⟨agent.started, [.idle]⟩ agent.impls :=
  same ▸ .idle

theorem between_step (between : Between requests s done) (taken : Step s label t) :
    ∃ requests, Between requests t (done ++ impls [label]) := by
  cases label with
  | call thread operation =>
    obtain ⟨here, rfl⟩ := Option.ite_some_none_eq_some.mp taken
    rw [show impls [.call thread operation] = [] from rfl, List.append_nil]
    cases between with
    | idle =>
      obtain ⟨rfl, -⟩ := only_thread here
      exact ⟨requests, .exchanging operation⟩
    | exchanging => cases (only_thread here).2
    | exchanged => cases (only_thread here).2
  | exchange thread spuriously =>
    rw [show impls [.exchange thread spuriously] = [] from rfl, List.append_nil]
    simp only [Step, Next, step] at taken
    split at taken
    · rename_i operation here
      cases between with
      | idle => cases (only_thread here).2
      | exchanged => cases (only_thread here).2
      | exchanging =>
        obtain ⟨rfl, which⟩ := only_thread here
        obtain rfl := Call.exchanging.inj which
        split at taken
        · rename_i exchanges
          obtain rfl := Option.some.inj taken
          exact ⟨requests, .exchanged operation exchanges.1⟩
        · rename_i fails
          obtain rfl := Option.some.inj taken
          have called : after (requests ++ [⟨operation, spuriously⟩]) = after requests := by
            rw [after_snoc]
            exact if_neg fails
          exact ⟨_, .of_after called⟩
    · cases taken
  | impl thread operation =>
    obtain ⟨here, rfl⟩ := Option.ite_some_none_eq_some.mp taken
    cases between with
    | idle => cases (only_thread here).2
    | exchanging => cases (only_thread here).2
    | exchanged _ found =>
      obtain ⟨rfl, which⟩ := only_thread here
      obtain rfl := Call.exchanged.inj which
      have called : after (requests ++ [⟨operation, false⟩]) =
          { started := operation.desired, impls := (after requests).impls ++ [operation] } := by
        rw [after_snoc]
        exact if_pos ⟨found, Bool.false_ne_true⟩
      exact ⟨_, .of_after called⟩

/-- **A single thread makes calls one after another**: between two of them, its agent is what they
make of it. -/
theorem requests_of_run (run : Run Step (init 1) trace s) (quiet : s.Quiet) :
    ∃ requests, s.started = (after requests).started ∧ impls trace = (after requests).impls := by
  obtain ⟨requests, between⟩ : ∃ requests, Between requests s (impls trace) := by
    refine run.history (fun trace s => ∃ requests, Between requests s (impls trace))
      ⟨[], .idle⟩ ?_
    rintro trace s label t - ⟨requests, between⟩ taken
    rw [impls_append]
    exact between_step between taken
  refine ⟨requests, ?_⟩
  generalize impls trace = done at between ⊢
  cases between with
  | idle => exact ⟨rfl, rfl⟩
  | exchanging => cases quiet _ (List.mem_singleton_self _)
  | exchanged => cases quiet _ (List.mem_singleton_self _)

end Runs

/-- The agent is not started, although its first `Start` has returned. -/
theorem start_lost : (after [⟨.start, true⟩]).started = false ∧
    ¬ Effective [⟨.start, true⟩] := by
  refine ⟨rfl, ?_⟩
  intro effective
  cases (effective.1 ⟨.start, true⟩ rfl).mpr rfl

end NearObject.Device.Starting
