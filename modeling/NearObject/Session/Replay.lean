/-
**`NearObjectSession` — the membership events replay to the membership.**

A client that sees only the events keeps its own list: `replay` folds them over the initial one. The
events under `m_nearObjectsGate` lead to the list of the session (`data_follows`), which runs ahead
of those posted by at most one, that of the caller that holds the gate; and the events posted are
the ones handled followed by the ones queued, by the conservation law of the queue. A `post` that
throws would leave a change that nobody reports; the runs here are those in which every membership
event is accepted.
-/

import NearObject.Session.Gates

namespace NearObject.Session

open Transition
open TaskQueue (Caller)

/-! ### The client's list -/

section Client

variable {Pointer : Type} [DecidableEq Pointer]

/-- What a client does with an event. -/
def applyEvent (nearObjects : List Pointer) : Event Pointer → List Pointer
  | .sessionMembershipChanged nearObjectsAdded nearObjectsRemoved =>
    applyMembershipChange nearObjects nearObjectsAdded nearObjectsRemoved
  | _ => nearObjects

/-- The list of a client that follows the events. -/
def replay (nearObjects : List Pointer) (events : List (Event Pointer)) : List Pointer :=
  events.foldl applyEvent nearObjects

theorem replay_append (nearObjects : List Pointer) (first second : List (Event Pointer)) :
    replay nearObjects (first ++ second) = replay (replay nearObjects first) second :=
  List.foldl_append

/-- The events outside `m_nearObjectsGate` leave the client's list. -/
theorem replay_under (nearObjects : List Pointer) (events : List (Event Pointer)) :
    replay nearObjects (under .nearObjects events) = replay nearObjects events := by
  induction events generalizing nearObjects with
  | nil => rfl
  | cons event events ih =>
    cases event with
    | sessionMembershipChanged added removed => exact ih _
    | _ => exact ih nearObjects

/-- Events that lead from one membership to another replay it. -/
theorem replay_of_run {capabilities : NearObjectCapabilities} {start finish : List Pointer}
    {events : List (Event Pointer)}
    (run : Run (Reports capabilities .nearObjects) start events finish) :
    replay start events = finish := by
  induction run with
  | nil => rfl
  | snoc _ reports ih =>
    obtain ⟨added, removed, rfl, rfl⟩ := reports
    rw [replay_append, ih]
    rfl

end Client

section

variable {Thread Pointer Value : Type} [DecidableEq Thread] [DecidableEq Pointer] [BEq Value]
  {spatialProperties : Pointer → NearObjectSpatialProperties Value} {s : State Thread Pointer}
  {capabilities : NearObjectCapabilities} {initial : List Pointer}
  {trace : List (Label Thread Pointer)}

/-! ### Whole runs -/

/-- The steps of a run in which every membership event is accepted. -/
abbrev AcceptedStep (spatialProperties : Pointer → NearObjectSpatialProperties Value) :
    State Thread Pointer → Label Thread Pointer → State Thread Pointer → Prop :=
  Restrict (Step spatialProperties) fun _ label => Accepts .nearObjects label

/-- The events posted, and the one about to be, replay to the list. -/
theorem posted_replays
    (run : Run (AcceptedStep spatialProperties) (init Thread capabilities initial) trace s) :
    replay initial (posted trace ++ s.ahead .nearObjects) = s.nearObjects := by
  have follows : replay initial (under .nearObjects (posted trace) ++ s.ahead .nearObjects) =
      s.nearObjects := replay_of_run (data_follows run)
  rw [replay_append, replay_under] at follows
  rw [replay_append]
  exact follows

/-- **The events replay to the membership.** Wherever `m_nearObjectsGate` is free, the initial list
and the membership events handled so far, followed by those still queued, give `m_nearObjects`, in
order; with a live callback object the events handled are the ones delivered, so that a client that
has received all of them holds the list of the session, which is what `GetNearObjects` returns. -/
theorem membership_replays
    (run : Run (AcceptedStep spatialProperties) (init Thread capabilities initial) trace s)
    (free : s.owner .nearObjects = none) :
    replay initial (handled trace ++ s.queue.pending) = s.nearObjects ∧
      (s.callbacksAlive = true →
        replay initial (delivered trace ++ s.queue.pending) = s.nearObjects ∧
        (s.queue.pending = [] → replay initial (delivered trace) = s.nearObjects ∧
          ∀ caller, s.enter spatialProperties caller .getNearObjects =
            some (s.setActivity caller
              (.returning (.nearObjects (replay initial (delivered trace))))))) := by
  have replays : replay initial (handled trace ++ s.queue.pending) = s.nearObjects := by
    have ahead := posted_replays run
    rwa [ahead_of_free free, List.append_nil, ← handled_pending run.unrestrict] at ahead
  refine ⟨replays, fun alive => ?_⟩
  rw [delivered_handled run.unrestrict alive]
  refine ⟨replays, fun drained => ?_⟩
  rw [drained, List.append_nil] at replays
  refine ⟨replays, fun caller => ?_⟩
  rw [State.enter, if_pos free, replays]

/-- Two clients change the membership: one adds objects to an empty session, one of them twice, the
other removes a member and an object that is none. Both events are delivered. -/
def replayTrace : List (Label Nat Nat) :=
  [.queue .construct, .call (.client 0) (.addNearObjects [2, 3, 2]),
    .call (.client 1) (.removeNearObjects [5, 3]), .enter (.client 0),
    .queue (.post (.client 0) (.sessionMembershipChanged [2, 3, 2] [])), .queue .evaluate,
    .queue (.notify (.client 0)), .leave (.client 0), .queue .announce,
    .deliver (.sessionMembershipChanged [2, 3, 2] []), .enter (.client 1),
    .queue (.post (.client 1) (.sessionMembershipChanged [] [3])), .queue (.notify (.client 1)),
    .leave (.client 1), .return (.client 0) .unit,
    .queue (.finish (.sessionMembershipChanged [2, 3, 2] []) .returned), .queue .loop,
    .queue .evaluate, .queue .announce, .deliver (.sessionMembershipChanged [] [3])]

theorem membership_replays_two_clients :
    ∃ s, Run (AcceptedStep unset) (init Nat ⟨true⟩ []) replayTrace s ∧ s.nearObjects = [2, 2] ∧
      replay [] (delivered replayTrace) = [2, 2] ∧
      s.enter unset (.client 0) .getNearObjects =
        some (s.setActivity (.client 0) (.returning (.nearObjects [2, 2]))) := by
  have run : Run (AcceptedStep unset) (init Nat ⟨true⟩ []) replayTrace _ :=
    run_of_execute_guarded rfl
  obtain ⟨replays, returned⟩ := ((membership_replays run rfl).2 rfl).2 rfl
  exact ⟨_, run, rfl, replays, returned (.client 0)⟩

end

end NearObject.Session
