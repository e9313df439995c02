/-
**`NearObjectDeviceControllerDiscoveryAgent` — `Start` and `Stop` from many threads.**

The compare-exchange on `m_started` is a step, and so is the `StartImpl` or `StopImpl` that a call
makes after it has changed the flag. In between, others can call.

* `turn_eq_next` — as long as these are made in turn, the state shows which is next: the one of
  which more are outstanding, and where as many are, the opposite of what the flag shows.
* `agrees_iff` — they alternate, and the flag agrees with the last of them, exactly where each is
  made in turn.
-/

import NearObject.Transition.Alternation
import NearObject.Transition.Run

namespace NearObject.Device.Starting

open Transition

/-! ### The agent and its callers -/

/-- `Start` and `Stop`, and with them `StartImpl` and `StopImpl`. -/
inductive Operation
  | start
  | stop
  deriving DecidableEq, Repr

/-- `expected`, for the compare-exchange. -/
def Operation.expected : Operation → Bool
  | .start => false
  | .stop => true

/-- The value that it stores. -/
def Operation.desired : Operation → Bool
  | .start => true
  | .stop => false

/-- Where a thread is. -/
inductive Call
  | idle
  /-- The compare-exchange is next. -/
  | exchanging (operation : Operation)
  /-- The flag is changed; `StartImpl` or `StopImpl` is next. -/
  | exchanged (operation : Operation)
  deriving DecidableEq, Repr

/-- `started` is `m_started`, and `calls` has an entry for each thread. -/
structure State where
  started : Bool
  calls : List Call
  deriving DecidableEq, Repr

/-- An agent and a number of threads. -/
def init (threads : Nat) : State where
  started := false
  calls := .replicate threads .idle

/-- The steps of the threads. A weak compare-exchange may fail spuriously. -/
inductive Label
  | call (thread : Nat) (operation : Operation)
  | exchange (thread : Nat) (spuriously : Bool)
  /-- `StartImpl` or `StopImpl`. -/
  | impl (thread : Nat) (operation : Operation)
  deriving DecidableEq, Repr

def State.setCall (s : State) (thread : Nat) (call : Call) : State :=
  { s with calls := s.calls.set thread call }

/-- **One step of the threads**, `none` where the label is not enabled. -/
def step (s : State) : Label → Option State
  | .call thread operation =>
    if s.calls[thread]? = some .idle then some (s.setCall thread (.exchanging operation)) else none
  | .exchange thread spuriously =>
    match s.calls[thread]? with
    | some (.exchanging operation) =>
      if s.started = operation.expected ∧ ¬ spuriously then
        some ({ s with started := operation.desired }.setCall thread (.exchanged operation))
      else some (s.setCall thread .idle)
    | _ => none
  | .impl thread operation =>
    if s.calls[thread]? = some (.exchanged operation) then some (s.setCall thread .idle) else none

/-- The agent and its callers, as a system. -/
abbrev Step : State → Label → State → Prop :=
  Next step

/-! ### What a trace shows -/

/-- The calls of `StartImpl` and `StopImpl`, in order. -/
def impls (trace : List Label) : List Operation :=
  trace.filterMap fun
    | .impl _ operation => some operation
    | _ => none

theorem impls_append (first second : List Label) :
    impls (first ++ second) = impls first ++ impls second :=
  List.filterMap_append

/-- No call of `Start` or `Stop` is in progress. -/
def State.Quiet (s : State) : Prop :=
  ∀ call ∈ s.calls, call = .idle

/-- **The flag stands for the work**: `StartImpl` and `StopImpl` alternate, beginning with
`StartImpl`, and while no call is in progress the flag is set exactly when the last was
`StartImpl`. -/
def Agrees (trace : List Label) (s : State) : Prop :=
  Alternating .start .stop (impls trace) ∧
    (s.Quiet → (s.started = true ↔ (impls trace).getLast? = some .start))

/-! ### Whose turn it is -/

/-- The calls of an operation that have changed the flag, and have their work ahead. -/
def State.outstanding (s : State) (operation : Operation) : Nat :=
  s.calls.count (.exchanged operation)

/-- The work that is to be done next. -/
def State.next (s : State) : Operation :=
  if s.outstanding .stop < s.outstanding .start then .start
  else if s.outstanding .start < s.outstanding .stop then .stop
  else if s.started then .stop
  else .start

/-- `StartImpl` and `StopImpl` are made in turn. -/
def InTurn (s : State) : Label → Prop
  | .impl _ operation => operation = s.next
  | _ => True

instance (s : State) : ∀ label, Decidable (InTurn s label)
  | .impl _ operation => inferInstanceAs (Decidable (operation = s.next))
  | .call .. | .exchange .. => isTrue trivial

/-! ### One step -/

section Steps

variable {s t : State} {label : Label} {thread : Nat}

/-- A thread that moves adds and removes outstanding work by its own place only. -/
theorem outstanding_setCall {before : Call} (here : s.calls[thread]? = some before) (call : Call)
    (operation : Operation) :
    (s.setCall thread call).outstanding operation + [before].count (.exchanged operation) =
      s.outstanding operation + [call].count (.exchanged operation) := by
  obtain ⟨inside, same⟩ := List.getElem?_eq_some_iff.mp here
  rw [State.outstanding, State.setCall, List.count_set inside, same, List.count_singleton,
    List.count_singleton, State.outstanding]
  by_cases work : before = .exchanged operation
  · have some : 0 < s.calls.count (.exchanged operation) :=
      List.count_pos_iff.mpr (work ▸ List.mem_of_getElem? here)
    simp only [work, beq_self_eq_true, if_true]
    omega
  · simp [work]

/-- **What a step does** to the flag, to the outstanding work and to what has been done. -/
inductive Moved (s t : State) : List Operation → Prop
  /-- A call begins, or fails to change the flag and returns. -/
  | quiet (started : t.started = s.started)
      (outstanding : ∀ operation, t.outstanding operation = s.outstanding operation) : Moved s t []
  | exchanges (operation : Operation) (before : s.started = operation.expected)
      (after : t.started = operation.desired)
      (more : t.outstanding operation = s.outstanding operation + 1)
      (others : ∀ other, other ≠ operation → t.outstanding other = s.outstanding other) :
      Moved s t []
  | impl (operation : Operation) (started : t.started = s.started)
      (fewer : s.outstanding operation = t.outstanding operation + 1)
      (others : ∀ other, other ≠ operation → t.outstanding other = s.outstanding other) :
      Moved s t [operation]

theorem moved_of_step (taken : Step s label t) : Moved s t (impls [label]) := by
  cases label with
  | call thread operation =>
    obtain ⟨idle, rfl⟩ := Option.ite_some_none_eq_some.mp taken
    exact .quiet rfl fun other => outstanding_setCall idle (.exchanging operation) other
  | exchange thread spuriously =>
    simp only [Step, Next, step] at taken
    split at taken
    · rename_i operation exchanging
      split at taken
      · rename_i succeeds
        obtain rfl := Option.some.inj taken
        have work (other : Operation) :
            (State.setCall _ thread (.exchanged operation)).outstanding other +
                [Call.exchanging operation].count (.exchanged other) =
              s.outstanding other + [Call.exchanged operation].count (.exchanged other) :=
          outstanding_setCall (s := { s with started := operation.desired }) exchanging
            (.exchanged operation) other
        refine .exchanges operation succeeds.1 rfl ?_ fun other different => ?_
        · simpa using work operation
        · simpa [different.symm] using work other
      · obtain rfl := Option.some.inj taken
        exact .quiet rfl fun other => outstanding_setCall exchanging .idle other
    · cases taken
  | impl thread operation =>
    obtain ⟨exchanged, rfl⟩ := Option.ite_some_none_eq_some.mp taken
    have work := outstanding_setCall exchanged .idle
    refine .impl operation rfl ?_ fun other different => ?_
    · simpa using (work operation).symm
    · simpa [different.symm] using work other

end Steps

/-! ### Runs -/

section Runs

variable {s t : State} {label : Label} {trace : List Label} {done more : List Operation}
  {threads : Nat}

/-- What has been done and what is outstanding add up to the flag. -/
def Balanced (done : List Operation) (s : State) : Prop :=
  done.count .start + s.outstanding .start =
    done.count .stop + s.outstanding .stop + s.started.toNat

theorem balanced_init (threads : Nat) : Balanced [] (init threads) := by
  simp [Balanced, State.outstanding, init, List.count_replicate]

theorem balanced_step (balanced : Balanced done s) (moved : Moved s t more) :
    Balanced (done ++ more) t := by
  unfold Balanced at balanced ⊢
  rw [List.count_append, List.count_append]
  cases moved with
  | quiet started outstanding =>
    rw [started, outstanding, outstanding]
    simpa using balanced
  | exchanges operation before after more others =>
    rw [before] at balanced
    rw [after]
    cases operation with
    | start =>
      rw [more, others .stop (by decide)]
      simp only [Operation.expected, Bool.toNat_false] at balanced
      simp only [Operation.desired, Bool.toNat_true, List.count_nil]
      omega
    | stop =>
      rw [more, others .start (by decide)]
      simp only [Operation.expected, Bool.toNat_true] at balanced
      simp only [Operation.desired, Bool.toNat_false, List.count_nil]
      omega
  | impl operation started fewer others =>
    rw [started]
    cases operation with
    | start =>
      rw [others .stop (by decide), List.count_singleton_self]
      simp only [List.count_singleton]
      rw [if_neg (by decide)]
      omega
    | stop =>
      rw [others .start (by decide), List.count_singleton_self]
      simp only [List.count_singleton]
      rw [if_neg (by decide)]
      omega

theorem balanced_run (run : Run Step (init threads) trace s) : Balanced (impls trace) s := by
  refine run.history (fun trace s => Balanced (impls trace) s) (balanced_init threads) ?_
  intro trace s label t _ balanced taken
  rw [impls_append]
  exact balanced_step balanced (moved_of_step taken)

/-- **The state shows what is next**, if all has been in turn so far. -/
theorem turn_eq_next (balanced : Balanced done s) (alternating : Alternating .start .stop done) :
    turn .start .stop done.length = s.next := by
  have counts := alternating.counts (by decide)
  rw [Balanced, counts] at balanced
  rw [turn, State.next]
  cases flag : s.started with
  | true =>
    rw [flag, Bool.toNat_true] at balanced
    split
    · rw [if_pos (by omega)]
    · rw [if_neg (by omega), if_neg (by omega), if_pos rfl]
  | false =>
    rw [flag, Bool.toNat_false] at balanced
    split
    · rw [if_neg (by omega), if_neg (by omega), if_neg (by decide)]
    · rw [if_neg (by omega), if_pos (by omega)]

/-- While no call is in progress, the flag shows what was last. -/
theorem agrees_of_alternating (balanced : Balanced (impls trace) s)
    (alternating : Alternating .start .stop (impls trace)) : Agrees trace s := by
  refine ⟨alternating, fun quiet => ?_⟩
  have nothing (operation : Operation) : s.outstanding operation = 0 := by
    refine List.count_eq_zero.mpr fun member => ?_
    cases quiet _ member
  have counts := alternating.counts (by decide)
  rw [Balanced, nothing, nothing, counts] at balanced
  rw [alternating.getLast (by decide)]
  cases flag : s.started with
  | true =>
    rw [flag, Bool.toNat_true] at balanced
    exact iff_of_true rfl (by omega)
  | false =>
    rw [flag, Bool.toNat_false] at balanced
    exact iff_of_false (by decide) (by omega)

/-- A step goes on in turn exactly if the work that it does is next. -/
theorem inTurn_iff (balanced : Balanced (impls trace) s)
    (alternating : Alternating .start .stop (impls trace)) :
    Alternating .start .stop (impls (trace ++ [label])) ↔ InTurn s label := by
  rw [impls_append]
  cases label with
  | impl thread operation =>
    show Alternating .start .stop (impls trace ++ [operation]) ↔ operation = s.next
    rw [alternating_snoc, turn_eq_next balanced alternating]
    exact and_iff_right alternating
  | call thread operation => simpa [impls, InTurn] using alternating
  | exchange thread spuriously => simpa [impls, InTurn] using alternating

theorem alternating_run (run : Run (Restrict Step InTurn) (init threads) trace s) :
    Alternating .start .stop (impls trace) := by
  refine run.history (fun trace _ => Alternating .start .stop (impls trace)) alternating_nil ?_
  intro trace s label t before alternating taken
  exact (inTurn_iff (balanced_run before.unrestrict) alternating).mpr taken.1

/-- **The flag stands for the work throughout a run exactly where each `StartImpl` and `StopImpl` is
made in turn.** -/
theorem agrees_iff (run : Run Step (init threads) trace s) :
    (∀ early late t, trace = early ++ late → Run Step (init threads) early t → Agrees early t) ↔
      Run (Restrict Step InTurn) (init threads) trace s := by
  constructor
  · intro agrees
    refine run.restrict_or_breaks.resolve_right ?_
    rintro ⟨early, label, late, before, after, rfl, reaches, breaks, taken, -⟩
    have balanced := balanced_run reaches.unrestrict
    refine breaks ((inTurn_iff balanced (alternating_run reaches)).mp ?_)
    exact (agrees (early ++ [label]) late after (by simp) (reaches.unrestrict.snoc taken)).1
  · rintro inTurn early late t rfl before
    obtain ⟨middle, first, -⟩ := Run.split early late inTurn
    exact agrees_of_alternating (balanced_run before) (alternating_run first)

end Runs

/-- A thread starts the agent, and another stops it at once; the work is done in this order. -/
def inTurnTrace : List Label :=
  [.call 0 .start, .call 1 .stop, .exchange 0 false, .exchange 1 false, .impl 0 .start,
    .impl 1 .stop]

theorem agrees_in_turn :
    Run (Restrict Step InTurn) (init 2) inTurnTrace ⟨false, [.idle, .idle]⟩ ∧
      Agrees inTurnTrace ⟨false, [.idle, .idle]⟩ := by
  have inTurn : Run (Restrict Step InTurn) (init 2) inTurnTrace ⟨false, [.idle, .idle]⟩ :=
    run_of_execute_guarded rfl
  have run := inTurn.unrestrict
  exact ⟨inTurn, (agrees_iff run).mpr inTurn inTurnTrace [] _ (by simp) run⟩

/-- It is done in the other order. -/
def overtakenTrace : List Label :=
  [.call 0 .start, .call 1 .stop, .exchange 0 false, .exchange 1 false, .impl 1 .stop,
    .impl 0 .start]

/-- `StopImpl` comes first; in the end the agent is registered for notifications, and `IsStarted`
returns false. -/
theorem overtaken : ∃ s, Run Step (init 2) overtakenTrace s ∧ s.Quiet ∧ s.started = false ∧
    impls overtakenTrace = [.stop, .start] ∧ ¬ Agrees overtakenTrace s := by
  have last : (impls overtakenTrace).getLast? = some .start := rfl
  have quiet : State.Quiet ⟨false, [.idle, .idle]⟩ := by simp [State.Quiet]
  refine ⟨⟨false, [.idle, .idle]⟩, run_of_execute rfl, quiet, rfl, rfl, fun agrees => ?_⟩
  cases (agrees.2 quiet).mpr last

end NearObject.Device.Starting
