/-
**`NearObjectSession` — the ranging protocol.**

`m_rangingStateGate` guards one bit, and the events posted under it are its history: they alternate,
`OnRangingStarted` first, and the bit is set exactly when the last one is `OnRangingStarted`
(`alternated_of_run`). What a call of `StartRanging` returns is followed along the code of the call
(`Starting`): it is `Running` where the call has posted.
-/

import NearObject.Session.Gates
import NearObject.Transition.Alternation

namespace NearObject.Session

open Transition
open TaskQueue (Caller)

/-! ### The history of the ranging state -/

section History

variable {Pointer : Type} {capabilities : NearObjectCapabilities} {events : List (Event Pointer)}
  {active : Bool}

/-- The events posted so far, and the ranging state after them. -/
structure Alternated (events : List (Event Pointer)) (active : Bool) : Prop where
  turns : Alternating .rangingStarted .rangingStopped events
  parity : active = decide (events.length % 2 = 1)

/-- The bit is set where the last event is `OnRangingStarted`. -/
theorem Alternated.last (alternated : Alternated events active) :
    active = true ↔ events.getLast? = some .rangingStarted := by
  rw [alternated.turns.getLast (by simp), alternated.parity, decide_eq_true_iff]

/-- **The ranging state and its events agree.** -/
theorem alternated_of_run (run : Run (Ranges capabilities) false events active) :
    Alternated events active := by
  refine run.history Alternated ⟨alternating_nil, rfl⟩ ?_
  rintro sofar before event after - ⟨turns, parity⟩ ranges
  cases ranges with
  | starts supports =>
    have even : sofar.length % 2 = 0 := by
      have odd := of_decide_eq_false parity.symm
      omega
    refine ⟨alternating_snoc.mpr ⟨turns, by simp [turn, even]⟩, ?_⟩
    simp [Nat.add_mod, even]
  | stops =>
    have odd : sofar.length % 2 = 1 := of_decide_eq_true parity.symm
    refine ⟨alternating_snoc.mpr ⟨turns, by simp [turn, odd]⟩, ?_⟩
    simp [Nat.add_mod, odd]

/-- Without support for ranging nothing starts. -/
theorem unsupported_of_run (run : Run (Ranges capabilities) false events active)
    (unsupported : capabilities.supportsRanging = false) : events = [] := by
  have nothing : events = [] ∧ active = false := by
    refine run.history (fun events active => events = [] ∧ active = false) ⟨rfl, rfl⟩ ?_
    rintro sofar before event after - ⟨-, inactive⟩ ranges
    cases ranges with
    | starts supports => rw [unsupported] at supports; cases supports
    | stops => cases inactive
  exact nothing.1

end History

/-! ### A call of `StartRanging` -/

section Call

variable {Thread Pointer : Type}

/-- Where a call of `StartRanging` is, and whether it has posted its event. -/
inductive Starting : Activity Pointer → Prop → Prop
  | called {posts : Prop} (not : ¬ posts) : Starting (.called .startRanging) posts
  | posting {posts : Prop} (not : ¬ posts) :
      Starting (.posting .rangingStarted .startRanging) posts
  | posted {posts : Prop} (done : posts) : Starting (.posted .startRanging) posts
  | returning {posts : Prop} (status : RangingSessionStatus) (iff : status = .running ↔ posts) :
      Starting (.returning (.status status)) posts

theorem starting_step {caller : Caller Thread} {label : Label Thread Pointer}
    {before after : Activity Pointer} {posts later : Prop} (moves : Moves caller before label after)
    (starting : Starting before posts) (accepts : Accepts .rangingState label)
    (stays : ∀ result, label ≠ .return caller result)
    (also : later ↔ posts ∨ label = .queue (.post caller .rangingStarted)) :
    Starting after later := by
  cases starting with
  | called not =>
    generalize origin : (Activity.called .startRanging : Activity Pointer) = before at moves
    cases moves with
    | enter reaches =>
      obtain rfl := Activity.called.inj origin
      have silent : ¬ later := by simp [also, not]
      generalize operation : (Operation.startRanging : Operation Pointer) = called at reaches
      cases reaches with
      | started => exact .posting silent
      | notStarted status other => exact .returning status (by simp [other, silent])
      | stopped site => cases site <;> cases operation
      | inactive site => cases site <;> cases operation
      | _ => cases operation
    | _ => cases origin
  | posting not =>
    cases moves with
    | post => exact .posted (also.mpr (.inr rfl))
    | refuse => exact absurd rfl accepts
  | posted done =>
    cases moves with
    | leave => exact .returning .running (by simp [also, done])
  | returning status iff =>
    cases moves with
    | «return» => exact absurd rfl (stays _)

end Call

section

variable {Thread Pointer Value : Type} [DecidableEq Thread] [DecidableEq Pointer] [BEq Value]
  {spatialProperties : Pointer → NearObjectSpatialProperties Value} {s : State Thread Pointer}
  {capabilities : NearObjectCapabilities} {initial : List Pointer}
  {trace : List (Label Thread Pointer)}

/-- The steps of a run in which every ranging event is accepted. -/
abbrev RangingStep (spatialProperties : Pointer → NearObjectSpatialProperties Value) :
    State Thread Pointer → Label Thread Pointer → State Thread Pointer → Prop :=
  Restrict (Step spatialProperties) fun _ label => Accepts .rangingState label

/-- A call of `StartRanging` that returns, returns `Running` exactly when it has posted. -/
theorem running_iff_posted {before during after : List (Label Thread Pointer)}
    {caller : Caller Thread} {result : Result Pointer}
    (run : Run (RangingStep spatialProperties) (init Thread capabilities initial)
      (before ++ (.call caller .startRanging :: (during ++ .return caller result :: after))) s)
    (first : ∀ other, .return caller other ∉ during) :
    result = .status .running ↔ .queue (.post caller .rangingStarted) ∈ during := by
  obtain ⟨origin, called, -, ⟨-, calls⟩, rest⟩ := Run.cut before _ run
  obtain ⟨last, finish, inside, ⟨-, returns⟩, -⟩ := Run.cut during after rest
  obtain ⟨-, rfl⟩ := step_call.mp calls
  have starting : Starting (last.activity caller)
      (.queue (.post caller .rangingStarted) ∈ during) := by
    refine inside.history (fun during last => (∀ other, .return caller other ∉ during) →
      Starting (last.activity caller) (.queue (.post caller .rangingStarted) ∈ during)) ?_ ?_ first
    · intro _
      rw [show (origin.call caller .startRanging).activity caller = .called .startRanging from
        setActivity_self ..]
      exact .called (by simp)
    · rintro sofar s label t - starting ⟨accepts, taken⟩ fresh
      have sofarStarting := starting fun other member => fresh other (by simp [member])
      by_cases own : label.caller? = some caller
      · refine starting_step (moves_of_step taken own) sofarStarting accepts (fun other same => ?_)
          (by simp [eq_comm])
        exact fresh other (by simp [same])
      · have other : .queue (.post caller .rangingStarted) ≠ label := fun same =>
          own (same ▸ rfl)
        rw [activity_frame taken own]
        simpa [other] using sofarStarting
  obtain ⟨returning, -⟩ := step_return.mp returns
  rw [returning] at starting
  cases starting with
  | returning status iff => simpa using iff

/-- **The ranging protocol.** -/
theorem ranging_protocol
    (run : Run (RangingStep spatialProperties) (init Thread capabilities initial) trace s) :
    Alternating .rangingStarted .rangingStopped (under .rangingState (posted trace)) ∧
    (s.owner .rangingState = none →
      (s.rangingSession = true ↔
        (under .rangingState (posted trace)).getLast? = some .rangingStarted) ∧
      ∀ caller, s.enter spatialProperties caller .isRangingActive =
        some (s.setActivity caller (.returning (.active (decide
          ((under .rangingState (posted trace)).getLast? = some .rangingStarted)))))) ∧
    (∀ before during after caller result,
      trace = before ++ (.call caller .startRanging :: (during ++ .return caller result :: after)) →
      (∀ other, .return caller other ∉ during) →
      (result = .status .running ↔ .queue (.post caller .rangingStarted) ∈ during)) ∧
    (capabilities.supportsRanging = false → under .rangingState (posted trace) = []) ∧
    delivered trace <+: posted trace := by
  have history : Run (Ranges capabilities) false
      (under .rangingState (posted trace) ++ s.ahead .rangingState) s.rangingSession :=
    data_follows run
  have alternated := alternated_of_run history
  refine ⟨alternated.turns.append_left, fun free => ?_, ?_, fun unsupported => ?_,
    delivered_prefix_posted run.unrestrict⟩
  · have last := alternated.last
    rw [ahead_of_free free, List.append_nil] at last
    refine ⟨last, fun caller => ?_⟩
    rw [State.enter, if_pos free]
    congr 4
    exact Bool.eq_iff_iff.mpr (last.trans decide_eq_true_iff.symm)
  · rintro before during after caller result rfl first
    exact running_iff_posted run first
  · exact (List.append_eq_nil_iff.mp (unsupported_of_run history unsupported)).1

/-- Two clients start ranging, a callback stops it, and a client asks for the state. -/
def rangingTrace : List (Label Nat Nat) :=
  [.queue .construct, .call (.client 1) .startRanging, .call (.client 0) .startRanging,
    .enter (.client 0), .queue (.post (.client 0) .rangingStarted), .queue .evaluate,
    .queue (.notify (.client 0)), .leave (.client 0), .enter (.client 1),
    .return (.client 1) (.status .maximumSessionsReached),
    .return (.client 0) (.status .running), .queue .announce, .deliver .rangingStarted,
    .call .worker .endSession, .enter .worker, .queue (.post .worker .rangingStopped),
    .queue (.notify .worker), .leave .worker, .queue (.post .worker .sessionEnded),
    .leave .worker, .return .worker .unit]

theorem ranging_protocol_two_clients :
    ∃ s, Run (RangingStep unset) (init Nat ⟨true⟩ [1]) rangingTrace s ∧
      Alternating .rangingStarted .rangingStopped (under .rangingState (posted rangingTrace)) ∧
      under .rangingState (posted rangingTrace) = [.rangingStarted, .rangingStopped] ∧
      s.rangingSession = false ∧ delivered rangingTrace <+: posted rangingTrace := by
  have run : Run (RangingStep unset) (init Nat ⟨true⟩ [1]) rangingTrace _ :=
    run_of_execute_guarded rfl
  have protocol := ranging_protocol run
  exact ⟨_, run, protocol.1, rfl, rfl, protocol.2.2.2.2⟩

end

end NearObject.Session
