/-
**Atomic objects — every call takes effect at one point between its invocation and its response.**

An object is its sequential meaning: `apply operation value` is the value after the operation, and
its result. `Step` is the object that callers share: a call is invoked, takes effect at once at some
later point (`commit`), and is answered after that.

* `order` — the calls of a trace in the order in which they took effect, with their results.
* `logged_run` — the order is one that the object allows sequentially, and what it has of a caller
  are the finished calls of this caller with the results they were given, in the order of its
  program, and its pending call at most.
* `Linearizable` — a run of another system can be explained so, at every point: the order of the run
  so far is never revised, so that a call that has returned stands before all that come later.
-/

import NearObject.Transition.Run
import Mathlib.Logic.Function.Basic

namespace Transition.Atomic

variable {Caller Operation Result Value : Type*}

/-! ### The shared object -/

/-- What happens at a shared object. -/
inductive Event (Caller Operation Result : Type*)
  | invoke (caller : Caller) (operation : Operation)
  /-- The call takes effect. -/
  | commit (caller : Caller)
  | respond (caller : Caller) (result : Result)

/-- Where the call of a caller is. -/
inductive Phase (Operation Result : Type*)
  | idle
  | invoked (operation : Operation)
  | committed (operation : Operation) (result : Result)

structure State (Caller Operation Result Value : Type*) where
  value : Value
  phase : Caller → Phase Operation Result

/-- Nobody is in a call. -/
def start (Caller Operation Result : Type*) {Value : Type*} (value : Value) :
    State Caller Operation Result Value :=
  ⟨value, fun _ => .idle⟩

section Object

variable [DecidableEq Caller]

def State.setPhase (s : State Caller Operation Result Value) (caller : Caller)
    (phase : Phase Operation Result) : State Caller Operation Result Value :=
  { s with phase := Function.update s.phase caller phase }

variable (apply : Operation → Value → Value × Result)

/-- **The object that callers share.** -/
inductive Step : State Caller Operation Result Value → Event Caller Operation Result →
    State Caller Operation Result Value → Prop
  | invoke (s : State Caller Operation Result Value) (caller : Caller) (operation : Operation)
      (idle : s.phase caller = .idle) :
      Step s (.invoke caller operation) (s.setPhase caller (.invoked operation))
  | commit (s : State Caller Operation Result Value) (caller : Caller) (operation : Operation)
      (invoked : s.phase caller = .invoked operation) :
      Step s (.commit caller) ({ s with value := (apply operation s.value).1 }.setPhase caller
        (.committed operation (apply operation s.value).2))
  | respond (s : State Caller Operation Result Value) (caller : Caller) (operation : Operation)
      (result : Result) (committed : s.phase caller = .committed operation result) :
      Step s (.respond caller result) (s.setPhase caller .idle)

end Object

/-! ### The order of effects -/

/-- A call that has taken effect. -/
structure Entry (Caller Operation Result : Type*) where
  caller : Caller
  operation : Operation
  result : Result

/-- The calls of one caller: the finished ones, and the one that is pending. -/
structure Calls (Operation Result : Type*) where
  finished : List (Operation × Result)
  pending : Option Operation

section Order

variable [DecidableEq Caller]

/-- The calls of a caller after an event. -/
def Calls.after (caller : Caller) (calls : Calls Operation Result) :
    Event Caller Operation Result → Calls Operation Result
  | .invoke other operation => if other = caller then { calls with pending := some operation }
    else calls
  | .respond other result => if other = caller then
      { finished := calls.finished ++ calls.pending.toList.map fun operation => (operation, result)
        pending := none }
    else calls
  | .commit _ => calls

/-- The calls of a caller on a trace, in the order of its program. -/
def calls (caller : Caller) (trace : List (Event Caller Operation Result)) :
    Calls Operation Result :=
  trace.foldl (Calls.after caller) ⟨[], none⟩

/-- The entries of a caller. -/
def own (caller : Caller) (entries : List (Entry Caller Operation Result)) :
    List (Operation × Result) :=
  (entries.filter fun entry => entry.caller = caller).map fun entry =>
    (entry.operation, entry.result)

/-- The entries of a caller are its finished calls, and its pending one at most. -/
def Answers (calls : Calls Operation Result) (entries : List (Operation × Result)) : Prop :=
  entries = calls.finished ∨ ∃ operation result, calls.pending = some operation ∧
    entries = calls.finished ++ [(operation, result)]

/-- One call after the other. -/
def Serial (apply : Operation → Value → Value × Result) (before : Value)
    (entry : Entry Caller Operation Result) (after : Value) : Prop :=
  apply entry.operation before = (after, entry.result)

/-- The value, the operations that callers have asked for, and the calls that have taken effect. -/
structure Log (Caller Operation Result Value : Type*) where
  value : Value
  asked : Caller → Option Operation
  entries : List (Entry Caller Operation Result)

variable (apply : Operation → Value → Value × Result)

/-- The log after an event. -/
def Log.after (log : Log Caller Operation Result Value) :
    Event Caller Operation Result → Log Caller Operation Result Value
  | .invoke caller operation =>
    { log with asked := Function.update log.asked caller (some operation) }
  | .commit caller =>
    match log.asked caller with
    | some operation =>
      { log with
        value := (apply operation log.value).1
        entries := log.entries ++ [⟨caller, operation, (apply operation log.value).2⟩] }
    | none => log
  | .respond _ _ => log

def log (initial : Value) (trace : List (Event Caller Operation Result)) :
    Log Caller Operation Result Value :=
  trace.foldl (Log.after apply) ⟨initial, fun _ => none, []⟩

/-- **The order in which the calls of a trace take effect.** -/
def order (initial : Value) (trace : List (Event Caller Operation Result)) :
    List (Entry Caller Operation Result) :=
  (log apply initial trace).entries

/-- **A run can be explained by an atomic object**, at every point, by one order that only grows.
The order of the whole run leads to the value `final`. -/
def Linearizable {Label : Type*} (initial final : Value)
    (observe : Label → List (Event Caller Operation Result)) (trace : List Label) : Prop :=
  ∃ order : List Label → List (Entry Caller Operation Result),
    Run (Serial apply) initial (order trace) final ∧
      ∀ early late, trace = early ++ late → order early <+: order trace ∧
        ∀ caller, Answers (calls caller (early.flatMap observe)) (own caller (order early))

end Order

/-! ### Runs of the object -/

section Runs

variable [DecidableEq Caller] {apply : Operation → Value → Value × Result}
  {s t : State Caller Operation Result Value} {trace : List (Event Caller Operation Result)}
  {event : Event Caller Operation Result} {initial : Value} {caller : Caller}

theorem calls_snoc : calls caller (trace ++ [event]) =
    (calls caller trace).after caller event := by
  rw [calls, List.foldl_append]
  rfl

theorem log_snoc : log apply initial (trace ++ [event]) =
    (log apply initial trace).after apply event := by
  rw [log, List.foldl_append]
  rfl

theorem own_append (first second : List (Entry Caller Operation Result)) :
    own caller (first ++ second) = own caller first ++ own caller second := by
  rw [own, List.filter_append, List.map_append]
  rfl

theorem setPhase_self (s : State Caller Operation Result Value) (caller : Caller)
    (phase : Phase Operation Result) : (s.setPhase caller phase).phase caller = phase :=
  Function.update_self ..

theorem setPhase_of_ne {other : Caller} (different : other ≠ caller)
    (s : State Caller Operation Result Value) (phase : Phase Operation Result) :
    (s.setPhase caller phase).phase other = s.phase other :=
  Function.update_of_ne different ..

@[simp]
theorem setPhase_setPhase (s : State Caller Operation Result Value) (caller : Caller)
    (first second : Phase Operation Result) :
    (s.setPhase caller first).setPhase caller second = s.setPhase caller second := by
  unfold State.setPhase
  rw [Function.update_idem]

theorem setPhase_eq_self (s : State Caller Operation Result Value) (caller : Caller) :
    s.setPhase caller (s.phase caller) = s := by
  unfold State.setPhase
  rw [Function.update_eq_self]

/-- A caller that takes effect. -/
theorem run_commit {operation : Operation} {result : Result} {value : Value}
    (invoked : s.phase caller = .invoked operation)
    (performs : apply operation s.value = (value, result)) :
    Run (Step apply) s [.commit caller]
      ({ s with value := value }.setPhase caller (.committed operation result)) := by
  have taken : Step apply s (.commit caller) _ := .commit s caller operation invoked
  rw [performs] at taken
  exact .single taken

/-- A caller that takes effect and is answered. -/
theorem run_commit_respond {operation : Operation} {result : Result} {value : Value}
    (invoked : s.phase caller = .invoked operation)
    (performs : apply operation s.value = (value, result)) :
    Run (Step apply) s [.commit caller, .respond caller result]
      ({ s with value := value }.setPhase caller .idle) := by
  have answered : Step apply _ (.respond caller result) _ := .respond _ caller operation result
    (setPhase_self { s with value := value } caller (.committed operation result))
  rw [setPhase_setPhase] at answered
  exact (run_commit invoked performs).snoc answered

/-- A caller that is answered and goes on to its next operation. -/
theorem run_respond_invoke {operation : Operation} {result : Result}
    (committed : s.phase caller = .committed operation result) (next : Operation) :
    Run (Step apply) s [.respond caller result, .invoke caller next]
      (s.setPhase caller (.invoked next)) := by
  have answered : Step apply s (.respond caller result) _ :=
    .respond s caller operation result committed
  have asked : Step apply _ (.invoke caller next) _ :=
    .invoke (s.setPhase caller .idle) caller next (setPhase_self ..)
  rw [setPhase_setPhase] at asked
  exact (Run.single answered).snoc asked

/-- A caller that asks and takes effect. -/
theorem run_invoke_commit {operation : Operation} {result : Result} {value : Value}
    (idle : s.phase caller = .idle) (performs : apply operation s.value = (value, result)) :
    Run (Step apply) s [.invoke caller operation, .commit caller]
      ({ s with value := value }.setPhase caller (.committed operation result)) := by
  have asked : Step apply s (.invoke caller operation) _ := .invoke s caller operation idle
  have commits := run_commit (setPhase_self s caller (.invoked operation)) performs
  exact (setPhase_setPhase { s with value := value } caller (.invoked operation) _) ▸
    (Run.single asked).append commits

/-- The calls and the entries of a caller, by the phase of its call. -/
def Placed (phase : Phase Operation Result) (calls : Calls Operation Result)
    (entries : List (Operation × Result)) : Prop :=
  match phase with
  | .idle => calls.pending = none ∧ entries = calls.finished
  | .invoked operation => calls.pending = some operation ∧ entries = calls.finished
  | .committed operation result => calls.pending = some operation ∧
    entries = calls.finished ++ [(operation, result)]

theorem Placed.answers {phase : Phase Operation Result} {calls : Calls Operation Result}
    {entries : List (Operation × Result)} (placed : Placed phase calls entries) :
    Answers calls entries := by
  cases phase with
  | idle => exact .inl placed.2
  | invoked operation => exact .inl placed.2
  | committed operation result => exact .inr ⟨operation, result, placed⟩

/-- **What the log says of the object**: its value, led to by the order, the operations that are to
take effect, and the calls of each caller. -/
structure Logged (apply : Operation → Value → Value × Result) (initial : Value)
    (trace : List (Event Caller Operation Result)) (s : State Caller Operation Result Value) :
    Prop where
  value : (log apply initial trace).value = s.value
  asked : ∀ caller operation, s.phase caller = .invoked operation →
    (log apply initial trace).asked caller = some operation
  serial : Run (Serial apply) initial (order apply initial trace) s.value
  placed : ∀ caller, Placed (s.phase caller) (calls caller trace)
    (own caller (order apply initial trace))

theorem own_single_self {operation : Operation} {result : Result} :
    own caller [⟨caller, operation, result⟩] = [(operation, result)] := by
  simp [own]

theorem own_single_of_ne {other : Caller} (different : other ≠ caller) {operation : Operation}
    {result : Result} : own caller [⟨other, operation, result⟩] = [] := by
  simp [own, different]

theorem Logged.invoke {operation : Operation} (logged : Logged apply initial trace s)
    (idle : s.phase caller = .idle) :
    Logged apply initial (trace ++ [.invoke caller operation])
      (s.setPhase caller (.invoked operation)) := by
  have same : order apply initial (trace ++ [.invoke caller operation]) =
      order apply initial trace := by rw [order, log_snoc]; rfl
  refine ⟨by rw [log_snoc]; exact logged.value, fun other asked phase => ?_, same ▸ logged.serial,
    fun other => ?_⟩
  · rw [log_snoc]
    by_cases here : other = caller
    · subst here
      rw [setPhase_self] at phase
      rw [← Phase.invoked.inj phase]
      exact Function.update_self ..
    · rw [setPhase_of_ne here] at phase
      exact (Function.update_of_ne here ..).trans (logged.asked other asked phase)
  · have placed := logged.placed other
    rw [same, calls_snoc, Calls.after]
    by_cases here : caller = other
    · subst here
      rw [if_pos rfl, setPhase_self]
      rw [idle] at placed
      exact ⟨rfl, placed.2⟩
    · rwa [if_neg here, setPhase_of_ne (Ne.symm here)]

theorem Logged.commit {operation : Operation} (logged : Logged apply initial trace s)
    (invoked : s.phase caller = .invoked operation) :
    Logged apply initial (trace ++ [.commit caller])
      ({ s with value := (apply operation s.value).1 }.setPhase caller
        (.committed operation (apply operation s.value).2)) := by
  have entry : (log apply initial trace).after apply (.commit caller) =
      { log apply initial trace with
        value := (apply operation s.value).1
        entries := (log apply initial trace).entries ++
          [⟨caller, operation, (apply operation s.value).2⟩] } := by
    rw [Log.after, logged.asked caller operation invoked, logged.value]
  have grows : order apply initial (trace ++ [.commit caller]) =
      order apply initial trace ++ [⟨caller, operation, (apply operation s.value).2⟩] := by
    rw [order, log_snoc, entry]
    rfl
  refine ⟨by rw [log_snoc, entry]; rfl, fun other asked phase => ?_, ?_, fun other => ?_⟩
  · rw [log_snoc, entry]
    by_cases here : other = caller
    · subst here
      rw [setPhase_self] at phase
      cases phase
    · rw [setPhase_of_ne here] at phase
      exact logged.asked other asked phase
  · rw [grows]
    exact logged.serial.snoc rfl
  · have placed := logged.placed other
    rw [grows, own_append, calls_snoc, Calls.after]
    by_cases here : caller = other
    · subst here
      rw [own_single_self, setPhase_self]
      rw [invoked] at placed
      exact ⟨placed.1, by rw [placed.2]⟩
    · rwa [own_single_of_ne here, List.append_nil, setPhase_of_ne (Ne.symm here)]

theorem Logged.respond {operation : Operation} {result : Result}
    (logged : Logged apply initial trace s)
    (committed : s.phase caller = .committed operation result) :
    Logged apply initial (trace ++ [.respond caller result]) (s.setPhase caller .idle) := by
  have same : order apply initial (trace ++ [.respond caller result]) =
      order apply initial trace := by rw [order, log_snoc]; rfl
  refine ⟨by rw [log_snoc]; exact logged.value, fun other asked phase => ?_, same ▸ logged.serial,
    fun other => ?_⟩
  · rw [log_snoc]
    by_cases here : other = caller
    · subst here
      rw [setPhase_self] at phase
      cases phase
    · rw [setPhase_of_ne here] at phase
      exact logged.asked other asked phase
  · have placed := logged.placed other
    rw [same, calls_snoc, Calls.after]
    by_cases here : caller = other
    · subst here
      rw [if_pos rfl, setPhase_self]
      rw [committed] at placed
      exact ⟨rfl, by rw [placed.2, placed.1]; rfl⟩
    · rwa [if_neg here, setPhase_of_ne (Ne.symm here)]

/-- **Every run of the object is logged.** -/
theorem logged_run (run : Run (Step apply) (start Caller Operation Result initial) trace s) :
    Logged apply initial trace s := by
  have initially : Logged apply initial [] (start Caller Operation Result initial) :=
    ⟨rfl, fun _ _ invoked => (by cases invoked), .nil, fun _ => ⟨rfl, rfl⟩⟩
  refine run.history (Logged apply initial) initially fun trace s event t _ logged taken => ?_
  cases taken with
  | invoke caller operation idle => exact logged.invoke idle
  | commit caller operation invoked => exact logged.commit invoked
  | respond caller operation result committed => exact logged.respond committed

theorem order_snoc_prefix :
    order apply initial trace <+: order apply initial (trace ++ [event]) := by
  rw [order, order, log_snoc]
  cases event with
  | commit caller =>
    rw [Log.after]
    split
    · exact List.prefix_append ..
    · exact List.prefix_rfl
  | _ => exact List.prefix_rfl

/-- The order only grows. -/
theorem order_prefix (early late : List (Event Caller Operation Result)) :
    order apply initial early <+: order apply initial (early ++ late) := by
  induction late using List.reverseRecOn with
  | nil => exact (List.append_nil early).symm ▸ List.prefix_rfl
  | append_singleton late event ih =>
    rw [← List.append_assoc]
    exact ih.trans order_snoc_prefix

/-! ### Systems that implement the object -/

/-- **What observes a run of the object is linearizable.** -/
theorem linearizable_of_run {Label : Type*} {observe : Label → List (Event Caller Operation Result)}
    {labels : List Label}
    (run : Run (Step apply) (start Caller Operation Result initial) (labels.flatMap observe) s) :
    Linearizable apply initial s.value observe labels := by
  refine ⟨fun labels => order apply initial (labels.flatMap observe),
    (logged_run run).serial, ?_⟩
  rintro early late rfl
  rw [List.flatMap_append] at run
  obtain ⟨middle, explained, -⟩ := Run.split _ _ run
  refine ⟨?_, fun caller => ((logged_run explained).placed caller).answers⟩
  change order apply initial _ <+: order apply initial ((early ++ late).flatMap observe)
  rw [List.flatMap_append]
  exact order_prefix _ _

/-- **A system that simulates the object is linearizable**, in every run, and led to a value that is
related to its state. -/
theorem linearizable_of_simulates {Concrete Label : Type*}
    {step : Concrete → Label → Concrete → Prop}
    {related : Concrete → State Caller Operation Result Value → Prop}
    {observe : Label → List (Event Caller Operation Result)} {first last : Concrete}
    {labels : List Label} (simulates : Simulates step (Step apply) related observe)
    (initially : related first (start Caller Operation Result initial))
    (run : Run step first labels last) :
    ∃ finish, related last finish ∧ Linearizable apply initial finish.value observe labels := by
  obtain ⟨finish, whole, still⟩ := simulates.run initially run
  exact ⟨finish, still, linearizable_of_run whole⟩

end Runs

end Transition.Atomic
