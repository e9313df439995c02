/-
**`NearObjectSession` — what a gate guards follows the events posted under it.**

Each of the two gates guards a part of the session: the membership list, or the ranging state. A
caller that holds the gate changes that part and then posts the event that reports the change
(`Reports`), so the part runs ahead of the events posted by at most one, that of the holder
(`State.ahead`). `data_follows` is this as a simulation: over a run in which no event under the gate
is refused, the events posted under it and the one ahead lead from the initial part to the present
one.

The events handled are those posted less the ones queued, and the events delivered are those handled
before the callback object expired (`delivered_handled`, `delivered_prefix_posted`).
-/

import NearObject.Session.Callers

namespace NearObject.Session

open Transition
open TaskQueue (Caller)

/-! ### What a trace shows -/

theorem posted_append {Thread Pointer : Type} (first second : List (Label Thread Pointer)) :
    posted (first ++ second) = posted first ++ posted second := by
  rw [posted, queueTrace, List.flatMap_append, TaskQueue.accepted_append]
  rfl

theorem handled_append {Thread Pointer : Type} (first second : List (Label Thread Pointer)) :
    handled (first ++ second) = handled first ++ handled second := by
  rw [handled, queueTrace, List.flatMap_append, TaskQueue.begun_append]
  rfl

theorem delivered_append {Thread Pointer : Type} (first second : List (Label Thread Pointer)) :
    delivered (first ++ second) = delivered first ++ delivered second :=
  List.filterMap_append

/-! ### What a gate guards -/

section Guarded

variable {Thread Pointer : Type}

/-- The gate under which an event is posted. -/
def Event.gate : Event Pointer → Option Gate
  | .sessionMembershipChanged _ _ => some .nearObjects
  | .rangingStarted | .rangingStopped => some .rangingState
  | .nearObjectPropertiesChanged _ | .sessionEnded => none

theorem Body.Posts.gate {body : Body} {event : Event Pointer} (posts : body.Posts event) :
    event.gate = body.gate := by
  cases body <;> cases event <;> first | rfl | cases posts

/-- The events posted under a gate. -/
def under (gate : Gate) (events : List (Event Pointer)) : List (Event Pointer) :=
  events.filter fun event => event.gate = some gate

theorem under_append (gate : Gate) (first second : List (Event Pointer)) :
    under gate (first ++ second) = under gate first ++ under gate second :=
  List.filter_append ..

theorem under_outside {gate : Gate} {events : List (Event Pointer)}
    (others : ∀ event ∈ events, event.gate ≠ some gate) : under gate events = [] := by
  apply List.filter_eq_nil_iff.mpr
  intro event member
  simpa using others event member

theorem under_single {gate : Gate} {event : Event Pointer} (own : event.gate = some gate) :
    under gate [event] = [event] := by
  simp [under, own]

/-- The part of the session that a gate guards. -/
def Data (Pointer : Type) : Gate → Type
  | .nearObjects => List Pointer
  | .rangingState => Bool

def State.data (s : State Thread Pointer) : (gate : Gate) → Data Pointer gate
  | .nearObjects => s.nearObjects
  | .rangingState => s.rangingSession

/-- The change that an event reports. -/
def Reports [DecidableEq Pointer] (capabilities : NearObjectCapabilities) :
    (gate : Gate) → Data Pointer gate → Event Pointer → Data Pointer gate → Prop
  | .nearObjects, before, event, after => ∃ added removed,
    event = .sessionMembershipChanged added removed ∧
      after = applyMembershipChange before added removed
  | .rangingState, before, event, after => Ranges capabilities before event after

/-- The step is not an event under the gate refused by the queue. -/
def Accepts (gate : Gate) : Label Thread Pointer → Prop
  | .queue (.refuse _ event) => event.gate ≠ some gate
  | _ => True

instance (gate : Gate) : ∀ label : Label Thread Pointer, Decidable (Accepts gate label)
  | .queue (.refuse _ event) => inferInstanceAs (Decidable (event.gate ≠ some gate))
  | .call .. | .enter _ | .leave _ | .return .. | .deliver _ | .drop _ | .expire => isTrue trivial
  | .queue .construct | .queue (.post ..) | .queue (.stop ..) | .queue (.notify _)
  | .queue (.join _) | .queue .evaluate | .queue .sleep | .queue .wakeSpuriously | .queue .announce
  | .queue (.begin _) | .queue (.finish ..) | .queue .loop => isTrue trivial

end Guarded

/-! ### The event that is not posted yet -/

section Ahead

variable {Thread Pointer : Type} {s t : State Thread Pointer} {gate : Gate}

theorem data_frame (members : t.nearObjects = s.nearObjects)
    (ranging : t.rangingSession = s.rangingSession) : t.data gate = s.data gate := by
  cases gate with
  | nearObjects => exact members
  | rangingState => exact ranging

/-- The event that a caller in this place is about to post. -/
def Activity.unposted : Activity Pointer → List (Event Pointer)
  | .posting event _ => [event]
  | _ => []

/-- The event that the holder of a gate is about to post. -/
def State.ahead (s : State Thread Pointer) (gate : Gate) : List (Event Pointer) :=
  match s.owner gate with
  | some caller => (s.activity caller).unposted
  | none => []

theorem ahead_of_free (free : s.owner gate = none) : s.ahead gate = [] := by
  rw [State.ahead, free]

theorem ahead_of_owner {caller : Caller Thread} (holds : s.owner gate = some caller) :
    s.ahead gate = (s.activity caller).unposted := by
  rw [State.ahead, holds]

/-- A caller that moves outside the gate does not change what is ahead. -/
theorem ahead_frame [DecidableEq Thread] {caller : Caller Thread} {activity : Activity Pointer}
    (consistent : Consistent s) (owner : t.owner gate = s.owner gate)
    (moves : t.activity = Function.update s.activity caller activity)
    (outside : (s.activity caller).gate? ≠ some gate) : t.ahead gate = s.ahead gate := by
  cases holder : s.owner gate with
  | none => rw [ahead_of_free holder, ahead_of_free (owner.trans holder)]
  | some other =>
    have different : other ≠ caller := fun same =>
      outside ((consistent.held gate caller).mp (same ▸ holder))
    rw [ahead_of_owner holder, ahead_of_owner (owner.trans holder), moves,
      Function.update_of_ne different]

variable [DecidableEq Pointer]

/-- **What a step does to the part of the session that a gate guards.** -/
inductive Guards (gate : Gate) (s t : State Thread Pointer) : List (Event Pointer) → Prop
  /-- Nothing, and the events posted are not under the gate. -/
  | outside {events : List (Event Pointer)} (others : ∀ event ∈ events, event.gate ≠ some gate)
      (ahead : t.ahead gate = s.ahead gate) (same : t.data gate = s.data gate) :
      Guards gate s t events
  /-- It changes, and the event that reports this is ahead. -/
  | changes {event : Event Pointer} (own : event.gate = some gate) (before : s.ahead gate = [])
      (after : t.ahead gate = [event])
      (reports : Reports s.capabilities gate (s.data gate) event (t.data gate)) : Guards gate s t []
  /-- The event that was ahead is posted. -/
  | posts {event : Event Pointer} (own : event.gate = some gate) (before : s.ahead gate = [event])
      (after : t.ahead gate = []) (same : t.data gate = s.data gate) : Guards gate s t [event]

theorem Guards.queue {events : List (Event Pointer)} (guards : Guards gate s t events)
    (queue : TaskQueue.State Thread (Event Pointer)) :
    Guards gate s { t with queue } events := by
  have same : ({ t with queue } : State Thread Pointer).data gate = t.data gate :=
    data_frame rfl rfl
  cases guards with
  | outside others ahead kept => exact .outside others ahead (same.trans kept)
  | changes own before after reports => exact .changes own before after (same ▸ reports)
  | posts own before after kept => exact .posts own before after (same.trans kept)

/-- A simulation so far is one after one more step. -/
theorem Guards.follows {capabilities : NearObjectCapabilities} {start : Data Pointer gate}
    {sofar events : List (Event Pointer)} (guards : Guards gate s t events)
    (constant : s.capabilities = capabilities)
    (follows : Run (Reports capabilities gate) start (under gate sofar ++ s.ahead gate)
      (s.data gate)) :
    Run (Reports capabilities gate) start (under gate (sofar ++ events) ++ t.ahead gate)
      (t.data gate) := by
  rw [under_append]
  cases guards with
  | outside others ahead same =>
    rwa [under_outside others, List.append_nil, ahead, same]
  | changes own before after reports =>
    rw [before, List.append_nil] at follows
    rw [show under gate ([] : List (Event Pointer)) = [] from rfl, List.append_nil, after]
    exact follows.snoc (constant ▸ reports)
  | posts own before after same =>
    rwa [under_single own, after, same, List.append_nil, ← before]

end Ahead

section

variable {Thread Pointer Value : Type} [DecidableEq Thread] [DecidableEq Pointer] [BEq Value]
  {spatialProperties : Pointer → NearObjectSpatialProperties Value} {s t : State Thread Pointer}
  {gate : Gate}

/-! ### One step -/

theorem guards_enter {caller : Caller Thread} (consistent : Consistent s)
    (taken : Step spatialProperties s (.enter caller) t) : Guards gate s t [] := by
  obtain ⟨operation, called, entered⟩ := step_enter.mp taken
  have outside : (s.activity caller).gate? ≠ some gate := by simp [called, Activity.gate?]
  have holds (taken : Gate) :
      Function.update s.owner taken (some caller) taken = some caller := Function.update_self ..
  cases entered_of_enter entered with
  | membership added removed free =>
    cases gate with
    | nearObjects =>
      have own : (Event.sessionMembershipChanged added removed).gate = some .nearObjects := rfl
      refine .changes own (ahead_of_free free) ?_ ⟨added, removed, rfl, rfl⟩
      rw [ahead_of_owner (holds .nearObjects), setActivity_self]
      rfl
    | rangingState =>
      have owner : Function.update s.owner .nearObjects (some caller) .rangingState =
          s.owner .rangingState := Function.update_of_ne (by decide) ..
      exact .outside (List.forall_mem_nil _) (ahead_frame consistent owner rfl outside) rfl
  | ranging event body active free own posts ranges =>
    cases gate with
    | nearObjects =>
      have owner : Function.update s.owner .rangingState (some caller) .nearObjects =
          s.owner .nearObjects := Function.update_of_ne (by decide) ..
      exact .outside (List.forall_mem_nil _) (ahead_frame consistent owner rfl outside) rfl
    | rangingState =>
      refine .changes (posts.gate.trans own) (ahead_of_free free) ?_ ranges
      rw [ahead_of_owner (holds .rangingState), setActivity_self]
      rfl
  | moves activity none own =>
    exact .outside (List.forall_mem_nil _) (ahead_frame consistent rfl rfl outside)
      (data_frame rfl rfl)

/-- Leaving a body, by the end of its `post` or by an exception. -/
theorem guards_release {caller : Caller Thread} {body : Body} {activity : Activity Pointer}
    (consistent : Consistent s) (before : (s.activity caller).gate? = body.gate)
    (outside : body.gate = some gate → (s.activity caller).unposted = []) :
    Guards gate s ((s.release body).setActivity caller activity) [] := by
  refine .outside (List.forall_mem_nil _) ?_ ?_
  · by_cases own : body.gate = some gate
    · have holds := (consistent.held gate caller).mpr (before.trans own)
      rw [ahead_of_owner holds, outside own, ahead_of_free]
      rw [setActivity_owner, release_of_some own]
      exact Function.update_self gate none s.owner
    · have owner : (s.release body).owner gate = s.owner gate := by
        cases place : body.gate with
        | none => rw [release_of_none place]
        | some other =>
          rw [release_of_some place]
          exact Function.update_of_ne (fun same => own (by rw [place, same])) ..
      have moves : ((s.release body).setActivity caller activity).activity =
          Function.update s.activity caller activity := by
        rw [State.setActivity, release_activity]
      exact ahead_frame consistent owner moves (before ▸ own)
  · exact data_frame (release_nearObjects body) (release_rangingSession body)

theorem guards_follow {label : TaskQueue.Label Thread (Event Pointer)}
    (consistent : Consistent s) (follows : s.follow label = some t)
    (accepts : Accepts gate (.queue label)) : Guards gate s t (TaskQueue.accepted [label]) := by
  have kept {caller : Caller Thread} {activity : Activity Pointer} :
      (s.setActivity caller activity).data gate = s.data gate := data_frame rfl rfl
  cases label with
  | post caller event =>
    obtain ⟨body, posting, rfl⟩ := follow_post.mp follows
    have before : (s.activity caller).gate? = body.gate := by rw [posting]; rfl
    have posts : body.Posts event := by
      have own := consistent.own caller
      rwa [posting] at own
    by_cases own : body.gate = some gate
    · have holds := (consistent.held gate caller).mpr (before.trans own)
      refine .posts (posts.gate.trans own) ?_ ?_ kept
      · rw [ahead_of_owner holds, posting]
        rfl
      · refine Eq.trans (ahead_of_owner holds) ?_
        rw [setActivity_self]
        rfl
    · refine .outside (fun other member => ?_)
        (ahead_frame consistent rfl rfl (before ▸ own)) kept
      obtain rfl := List.mem_singleton.mp member
      rwa [posts.gate]
  | refuse caller event =>
    obtain ⟨body, posting, rfl⟩ := follow_refuse.mp follows
    refine guards_release consistent (by rw [posting]; rfl) fun own => ?_
    have posts := consistent.own caller
    rw [posting] at posts
    -- an event under this gate is one that is not refused here
    exact absurd (Body.Posts.gate posts |>.trans own) accepts
  | join caller =>
    obtain ⟨destructing, rfl⟩ := follow_join.mp follows
    refine .outside (List.forall_mem_nil _) (ahead_frame consistent rfl rfl ?_) kept
    simp [destructing, Activity.gate?]
  | _ =>
    obtain rfl := follow_same follows (by simp) (by simp) (by simp)
    exact .outside (List.forall_mem_nil _) rfl rfl

theorem guards_step {label : Label Thread Pointer} (consistent : Consistent s)
    (taken : Step spatialProperties s label t) (accepts : Accepts gate label) :
    Guards gate s t (posted [label]) := by
  have kept {caller : Caller Thread} {activity : Activity Pointer} :
      (s.setActivity caller activity).data gate = s.data gate := data_frame rfl rfl
  cases label with
  | call caller operation =>
    obtain ⟨⟨-, -, idle, -⟩, rfl⟩ := step_call.mp taken
    refine .outside (List.forall_mem_nil _) (ahead_frame consistent rfl rfl ?_)
      (data_frame rfl rfl)
    simp [idle, Activity.gate?]
  | enter caller => exact guards_enter consistent taken
  | leave caller =>
    obtain ⟨body, posted, -, rfl⟩ := step_leave.mp taken
    exact guards_release consistent (by rw [posted]; rfl) fun _ => by rw [posted]; rfl
  | «return» caller result =>
    obtain ⟨returning, rfl⟩ := step_return.mp taken
    refine .outside (List.forall_mem_nil _) (ahead_frame consistent rfl rfl ?_) kept
    simp [returning, Activity.gate?]
  | queue label =>
    obtain ⟨followed, queue, follows, -, rfl⟩ := step_queue.mp taken
    exact (guards_follow consistent follows accepts).queue queue
  | deliver event =>
    obtain ⟨-, queue, -, rfl⟩ := step_deliver.mp taken
    exact .outside (List.forall_mem_nil _) rfl (data_frame rfl rfl)
  | drop event =>
    obtain ⟨-, queue, -, rfl⟩ := step_drop.mp taken
    exact .outside (List.forall_mem_nil _) rfl (data_frame rfl rfl)
  | expire =>
    obtain rfl := step_expire.mp taken
    exact .outside (List.forall_mem_nil _) rfl (data_frame rfl rfl)

/-! ### Whole runs -/

variable {capabilities : NearObjectCapabilities} {initial : List Pointer}
  {trace : List (Label Thread Pointer)}

theorem capabilities_run
    (run : Run (Step spatialProperties) (init Thread capabilities initial) trace s) :
    s.capabilities = capabilities :=
  run.invariant (fun s => s.capabilities = capabilities) rfl
    fun _ _ _ same taken => (frame_step taken).capabilities.trans same

/-- **The events posted under a gate, and the one ahead, lead to what the gate guards.** -/
theorem data_follows
    (run : Run (Restrict (Step spatialProperties) fun _ label => Accepts gate label)
      (init Thread capabilities initial) trace s) :
    Run (Reports capabilities gate) ((init Thread capabilities initial).data gate)
      (under gate (posted trace) ++ s.ahead gate) (s.data gate) := by
  refine run.history (fun trace s => Run (Reports capabilities gate)
    ((init Thread capabilities initial).data gate) (under gate (posted trace) ++ s.ahead gate)
    (s.data gate)) .nil fun trace s label t before follows ⟨accepts, taken⟩ => ?_
  rw [posted_append]
  exact (guards_step (consistent_run before.unrestrict) taken accepts).follows
    (capabilities_run before.unrestrict) follows

/-- The events handled, and those still queued, are the events posted. -/
theorem handled_pending
    (run : Run (Step spatialProperties) (init Thread capabilities initial) trace s) :
    handled trace ++ s.queue.pending = posted trace := by
  have conserved := TaskQueue.pending_conserved (refines_queue.run run)
  rwa [show (init Thread capabilities initial).queue.pending = [] from rfl, List.nil_append]
    at conserved

/-- While the callback object is alive, every event handled is delivered. -/
theorem delivered_handled
    (run : Run (Step spatialProperties) (init Thread capabilities initial) trace s)
    (alive : s.callbacksAlive = true) : delivered trace = handled trace := by
  refine run.history (fun trace s => s.callbacksAlive = true → delivered trace = handled trace)
    (fun _ => rfl) (fun trace s label t _ same taken alive => ?_) alive
  have before := (frame_step taken).alive alive
  rw [delivered_append, handled_append, same before]
  congr 1
  cases label with
  | queue label =>
    cases label with
    | begin event =>
      obtain ⟨followed, queue, follows, -⟩ := step_queue.mp taken
      cases follows
    | _ => rfl
  | drop event =>
    have gone := (step_drop.mp taken).1
    rw [before] at gone
    cases gone
  | _ => rfl

/-- **The events delivered are the first of those posted**, whenever the callback object expires. -/
theorem delivered_prefix_posted
    (run : Run (Step spatialProperties) (init Thread capabilities initial) trace s) :
    delivered trace <+: posted trace := by
  have first : delivered trace <+: handled trace := by
    refine run.history (fun trace _ => delivered trace <+: handled trace) List.prefix_rfl
      fun trace s label t before sofar taken => ?_
    rw [delivered_append, handled_append]
    cases label with
    | deliver event =>
      have alive := (step_deliver.mp taken).1
      rw [delivered_handled before alive]
      exact List.prefix_rfl
    | _ =>
      rw [show delivered [_] = [] from rfl, List.append_nil]
      exact sofar.trans (List.prefix_append ..)
  rw [← handled_pending run]
  exact first.trans (List.prefix_append ..)

end

end NearObject.Session
