/-
**`NearObjectSession` — one call after the other.**

A session is an object that its callers share: its membership, its ranging state and the events it
has posted. A call is a `Part` of this object, which takes effect at once; `EndSession` and the
destructor are several, one after the other. A part that posts an event takes effect with its
`post`, under its gate, so that the order of the parts is that of the events; a part that finds
nothing to do takes effect when it looks.

The event of a part is refused once the queue is stopped. Its change of the session stays, and the
call throws: `Contents.post` says so.

`session_atomic` — every run is one of the object, in every part and every result.
-/

import NearObject.Session.Exceptions
import NearObject.Transition.Atomic

namespace NearObject.Session

open Transition
open TaskQueue (Caller)

/-! ### The object -/

section Object

variable {Pointer : Type}

/-- What a session holds, the events that it has posted, and whether its queue is stopped. -/
structure Contents (Pointer : Type) where
  nearObjects : List Pointer
  rangingSession : Bool
  events : List (Event Pointer)
  stopped : Bool

/-- What takes effect at once. -/
inductive Part (Pointer : Type)
  | addNearObjects (nearObjectsToAdd : List Pointer)
  | removeNearObjects (nearObjectsToRemove : List Pointer)
  | getNearObjects
  | nearObjectPropertiesChanged (nearObjectChanged : Pointer)
  | startRanging
  | stopRanging
  | isRangingActive
  /-- The `OnSessionEnded` of `EndSession`. -/
  | sessionEnded
  /-- The end of the queue, in the destructor. -/
  | stop

inductive Answer (Pointer : Type)
  | returned (result : Result Pointer)
  | threw

/-- The part with which a call begins. -/
def Operation.first : Operation Pointer → Part Pointer
  | .addNearObjects nearObjectsToAdd => .addNearObjects nearObjectsToAdd
  | .removeNearObjects nearObjectsToRemove => .removeNearObjects nearObjectsToRemove
  | .getNearObjects => .getNearObjects
  | .nearObjectPropertiesChanged nearObjectChanged => .nearObjectPropertiesChanged nearObjectChanged
  | .startRanging => .startRanging
  | .stopRanging | .endSession | .destructor => .stopRanging
  | .isRangingActive => .isRangingActive

/-- `InvokeEventCallback`, in a part that returns `result` after it. -/
def Contents.post (contents : Contents Pointer) (event : Event Pointer) (result : Result Pointer) :
    Contents Pointer × Answer Pointer :=
  if contents.stopped then (contents, .threw)
  else ({ contents with events := contents.events ++ [event] }, .returned result)

variable {Value : Type} [DecidableEq Pointer] [BEq Value]
  (spatialProperties : Pointer → NearObjectSpatialProperties Value)
  (capabilities : NearObjectCapabilities)

/-- **The parts, one at a time.** -/
def perform (part : Part Pointer) (contents : Contents Pointer) :
    Contents Pointer × Answer Pointer :=
  match part with
  | .addNearObjects nearObjectsToAdd =>
    let (nearObjects, nearObjectsAdded) :=
      addNearObjects spatialProperties contents.nearObjects nearObjectsToAdd
    { contents with nearObjects }.post (.sessionMembershipChanged nearObjectsAdded []) .unit
  | .removeNearObjects nearObjectsToRemove =>
    let (nearObjects, nearObjectsRemoved) :=
      removeNearObjects contents.nearObjects nearObjectsToRemove
    { contents with nearObjects }.post (.sessionMembershipChanged [] nearObjectsRemoved) .unit
  | .getNearObjects => (contents, .returned (.nearObjects contents.nearObjects))
  | .nearObjectPropertiesChanged nearObjectChanged =>
    contents.post (.nearObjectPropertiesChanged [nearObjectChanged]) .unit
  | .startRanging =>
    if contents.rangingSession then (contents, .returned (.status .maximumSessionsReached))
    else if capabilities.supportsRanging then
      { contents with rangingSession := true }.post .rangingStarted (.status .running)
    else (contents, .returned (.status .notSupported))
  | .stopRanging =>
    if contents.rangingSession then
      { contents with rangingSession := false }.post .rangingStopped .unit
    else (contents, .returned .unit)
  | .isRangingActive => (contents, .returned (.active contents.rangingSession))
  | .sessionEnded => contents.post .sessionEnded .unit
  | .stop => ({ contents with stopped := true }, .returned .unit)

end Object

/-! ### What a step shows of the object -/

section Observation

variable {Thread Pointer : Type}

/-- **Where the parts of the calls begin, take effect and end**, by a label and the state that it
leads to. -/
def parts : Label Thread Pointer × State Thread Pointer →
    List (Atomic.Event (Caller Thread) (Part Pointer) (Answer Pointer))
  | (.call caller operation, _) => [.invoke caller operation.first]
  | (.enter caller, s) =>
    match s.activity caller with
    | .returning _ => [.commit caller]
    -- a `StopRanging` inside `EndSession` that has found no ranging session
    | .posting .sessionEnded _ =>
      [.commit caller, .respond caller (.returned .unit), .invoke caller .sessionEnded]
    | _ => []
  | (.leave caller, s) =>
    match s.activity caller with
    | .posting _ _ => [.respond caller (.returned .unit), .invoke caller .sessionEnded]
    | .destructing => [.respond caller (.returned .unit)]
    | _ => []
  | (.return caller result, _) => [.respond caller (.returned result)]
  | (.queue (.post caller _), _) => [.commit caller]
  | (.queue (.refuse caller _), _) => [.commit caller, .respond caller .threw]
  | (.queue (.stop caller _ _), _) => [.invoke caller .stop, .commit caller]
  | _ => []

end Observation

/-! ### A session and its object -/

section Related

variable {Thread Pointer : Type}

/-- The part of the object that a gate guards. -/
def Contents.data (contents : Contents Pointer) : (gate : Gate) → Data Pointer gate
  | .nearObjects => contents.nearObjects
  | .rangingState => contents.rangingSession

/-- The object with what a body has written under its gate. -/
def Contents.adopt (contents : Contents Pointer) (s : State Thread Pointer) :
    Option Gate → Contents Pointer
  | none => contents
  | some .nearObjects => { contents with nearObjects := s.nearObjects }
  | some .rangingState => { contents with rangingSession := s.rangingSession }

/-- What a function returns after the `post` of this body. -/
def Body.result : Body → Result Pointer
  | .startRanging => .status .running
  | _ => .unit

section Adopt

variable {s t : State Thread Pointer} {contents : Contents Pointer}

theorem adopt_data_of_some {gate : Gate} : (contents.adopt s (some gate)).data gate =
    s.data gate := by
  cases gate <;> rfl

theorem adopt_data_of_ne {gate : Gate} {gate? : Option Gate} (other : gate? ≠ some gate) :
    (contents.adopt s gate?).data gate = contents.data gate := by
  cases gate? with
  | none => rfl
  | some held =>
    cases held <;> cases gate
    · exact absurd rfl other
    · rfl
    · rfl
    · exact absurd rfl other

theorem adopt_congr {gate? : Option Gate}
    (same : ∀ gate, gate? = some gate → t.data gate = s.data gate) :
    contents.adopt t gate? = contents.adopt s gate? := by
  cases gate? with
  | none => rfl
  | some gate =>
    have data := same gate rfl
    cases gate
    · exact congrArg (fun nearObjects => { contents with nearObjects := nearObjects }) data
    · exact congrArg (fun active => { contents with rangingSession := active }) data

@[simp] theorem adopt_stopped {gate? : Option Gate} :
    (contents.adopt s gate?).stopped = contents.stopped := by
  cases gate? with
  | none => rfl
  | some gate => cases gate <;> rfl

@[simp] theorem adopt_events {gate? : Option Gate} :
    (contents.adopt s gate?).events = contents.events := by
  cases gate? with
  | none => rfl
  | some gate => cases gate <;> rfl

theorem post_of_running (running : contents.stopped = false) (event : Event Pointer)
    (result : Result Pointer) : contents.post event result =
      ({ contents with events := contents.events ++ [event] }, .returned result) :=
  if_neg (Bool.eq_false_iff.mp running)

theorem post_of_stopped (stopped : contents.stopped = true) (event : Event Pointer)
    (result : Result Pointer) : contents.post event result = (contents, .threw) :=
  if_pos stopped

end Adopt

variable {Value : Type} [DecidableEq Pointer] [BEq Value]
  (spatialProperties : Pointer → NearObjectSpatialProperties Value)
  (capabilities : NearObjectCapabilities)

/-- A body is about to do the rest of its part: whatever else the object is, the part leaves there
what the body has written, and posts its event. -/
def Prepared (s : State Thread Pointer) (contents : Contents Pointer) (event : Event Pointer)
    (body : Body) (part : Part Pointer) : Prop :=
  ∀ now : Contents Pointer, (∀ gate, body.gate = some gate → now.data gate = contents.data gate) →
    perform spatialProperties capabilities part now = (now.adopt s body.gate).post event body.result

/-- What a caller has done in the session, by what it has done at the object. -/
def Meets (s : State Thread Pointer) (contents : Contents Pointer) (caller : Caller Thread) :
    Activity Pointer → Atomic.Phase (Part Pointer) (Answer Pointer) → Prop
  | .idle, phase | .terminated, phase => phase = .idle
  | .called operation, phase => phase = .invoked operation.first
  | .posting event body, phase => ∃ part, phase = .invoked part ∧
      Prepared spatialProperties capabilities s contents event body part
  | .posted body, phase => (∃ part, phase = .committed part (.returned body.result)) ∧
      ∀ gate, body.gate = some gate → contents.data gate = s.data gate
  | .returning result, phase => ∃ part, phase = .committed part (.returned result)
  | .destructing, phase => (s.queue.call caller = .idle ∧ phase = .idle) ∨
      ((s.queue.call caller = .stopped .destructor ∨ s.queue.call caller = .joining .destructor) ∧
        phase = .committed .stop (.returned .unit))

/-- **A session and its object**: what no caller holds is the same, and every caller is as far. -/
structure Related (s : State Thread Pointer)
    (object : Atomic.State (Caller Thread) (Part Pointer) (Answer Pointer) (Contents Pointer)) :
    Prop where
  stopped : object.value.stopped = s.queue.members.isStopPending
  free : ∀ gate, s.owner gate = none → object.value.data gate = s.data gate
  meets : ∀ caller, Meets spatialProperties capabilities s object.value caller (s.activity caller)
    (object.phase caller)

variable {spatialProperties capabilities}
  {s t : State Thread Pointer} {contents value : Contents Pointer} {caller : Caller Thread}
  {object : Atomic.State (Caller Thread) (Part Pointer) (Answer Pointer) (Contents Pointer)}
  {phase : Atomic.Phase (Part Pointer) (Answer Pointer)}

/-- What a caller has done does not depend on what the others hold. -/
theorem meets_frame {activity : Activity Pointer}
    (meets : Meets spatialProperties capabilities s contents caller activity phase)
    (call : activity = .destructing → t.queue.call caller = s.queue.call caller)
    (same : ∀ gate, activity.gate? = some gate →
      t.data gate = s.data gate ∧ value.data gate = contents.data gate) :
    Meets spatialProperties capabilities t value caller activity phase := by
  cases activity with
  | idle | terminated | called operation | returning result => exact meets
  | posting event body =>
    obtain ⟨part, invoked, prepared⟩ := meets
    have written : ∀ gate, body.gate = some gate → t.data gate = s.data gate :=
      fun gate own => (same gate own).1
    refine ⟨part, invoked, fun now agrees => ?_⟩
    rw [adopt_congr written]
    exact prepared now fun gate own => (agrees gate own).trans (same gate own).2
  | posted body =>
    obtain ⟨committed, agrees⟩ := meets
    refine ⟨committed, fun gate own => ?_⟩
    rw [(same gate own).1, (same gate own).2]
    exact agrees gate own
  | destructing =>
    unfold Meets
    rw [call rfl]
    exact meets

/-- **A caller moves**, and with it the object; the others are where they were. -/
theorem Related.moves [DecidableEq Thread]
    (related : Related spatialProperties capabilities s object) (value : Contents Pointer)
    (consistent : Consistent s)
    (others : ∀ other, other ≠ caller →
      t.activity other = s.activity other ∧ t.queue.call other = s.queue.call other)
    (data : ∀ gate other, other ≠ caller → s.owner gate = some other →
      t.data gate = s.data gate ∧ value.data gate = object.value.data gate)
    (stopped : value.stopped = t.queue.members.isStopPending)
    (free : ∀ gate, t.owner gate = none → value.data gate = t.data gate)
    (own : Meets spatialProperties capabilities t value caller (t.activity caller) phase) :
    Related spatialProperties capabilities t
      ({ object with value := value }.setPhase caller phase) where
  stopped := stopped
  free := free
  meets := by
    intro other
    by_cases here : other = caller
    · subst here
      rw [Atomic.setPhase_self]
      exact own
    · obtain ⟨activity, call⟩ := others other here
      rw [Atomic.setPhase_of_ne here, activity]
      refine meets_frame (related.meets other) (fun _ => call) fun gate holds => ?_
      exact data gate other here ((consistent.held gate other).mpr holds)

end Related

/-! ### Every step -/

section Steps

variable {Thread Pointer Value : Type} [DecidableEq Thread] [DecidableEq Pointer] [BEq Value]
  {spatialProperties : Pointer → NearObjectSpatialProperties Value}
  {capabilities : NearObjectCapabilities} {s t : State Thread Pointer} {caller : Caller Thread}
  {object : Atomic.State (Caller Thread) (Part Pointer) (Answer Pointer) (Contents Pointer)}

/-- **The object explains a step**: it takes the parts that the step shows, posts the events that
the step posts, and comes to where the session is. -/
def Explains (spatialProperties : Pointer → NearObjectSpatialProperties Value)
    (capabilities : NearObjectCapabilities)
    (object : Atomic.State (Caller Thread) (Part Pointer) (Answer Pointer) (Contents Pointer))
    (label : Label Thread Pointer) (t : State Thread Pointer) : Prop :=
  ∃ after, Run (Atomic.Step (perform spatialProperties capabilities)) object (parts (label, t))
      after ∧
    Related spatialProperties capabilities t after ∧
    after.value.events = object.value.events ++ posted [label]

omit [DecidableEq Thread] in
/-- The place of a caller at the object. -/
theorem Related.place (related : Related spatialProperties capabilities s object)
    {activity : Activity Pointer} (here : s.activity caller = activity) :
    Meets spatialProperties capabilities s object.value caller activity (object.phase caller) :=
  here ▸ related.meets caller

theorem explains_call {operation : Operation Pointer}
    (taken : Step spatialProperties s (.call caller operation) t) (consistent : Consistent s)
    (related : Related spatialProperties capabilities s object) :
    Explains spatialProperties capabilities object (.call caller operation) t := by
  obtain ⟨⟨-, -, idle, -⟩, rfl⟩ := step_call.mp taken
  have free : object.phase caller = .idle := related.place idle
  refine ⟨_, .single (.invoke object caller operation.first free), ?_, (List.append_nil _).symm⟩
  refine related.moves object.value consistent (fun other different => ⟨?_, rfl⟩)
    (fun _ _ _ _ => ⟨?_, rfl⟩) related.stopped related.free ?_
  · exact setActivity_of_ne different _
  · exact data_frame rfl rfl
  · rw [show (s.call caller operation).activity caller = .called operation from setActivity_self ..]
    rfl

theorem explains_return {result : Result Pointer}
    (taken : Step spatialProperties s (.return caller result) t) (consistent : Consistent s)
    (related : Related spatialProperties capabilities s object) :
    Explains spatialProperties capabilities object (.return caller result) t := by
  obtain ⟨returning, rfl⟩ := step_return.mp taken
  obtain ⟨part, committed⟩ := related.place returning
  refine ⟨_, .single (.respond object caller part _ committed), ?_, (List.append_nil _).symm⟩
  refine related.moves object.value consistent (fun other different => ⟨?_, rfl⟩)
    (fun _ _ _ _ => ⟨?_, rfl⟩) related.stopped related.free ?_
  · exact setActivity_of_ne different _
  · exact data_frame rfl rfl
  · rw [setActivity_self]
    rfl

/-- A caller has written what its gate guards, and is about to post. -/
theorem Related.writes {gate : Gate} {event : Event Pointer} {body : Body} {part : Part Pointer}
    (related : Related spatialProperties capabilities s object) (consistent : Consistent s)
    (invoked : object.phase caller = .invoked part) (free : s.owner gate = none)
    (owner : t.owner = Function.update s.owner gate (some caller))
    (activity : t.activity = Function.update s.activity caller (.posting event body))
    (queue : t.queue = s.queue) (data : ∀ other, other ≠ gate → t.data other = s.data other)
    (prepared : Prepared spatialProperties capabilities t object.value event body part) :
    Related spatialProperties capabilities t object := by
  rw [← Atomic.setPhase_eq_self object caller]
  refine related.moves object.value consistent ?_ ?_ ?_ ?_ ?_
  · intro other different
    rw [activity, Function.update_of_ne different, queue]
    exact ⟨rfl, rfl⟩
  · intro held other _ holds
    refine ⟨data held ?_, rfl⟩
    rintro rfl
    rw [free] at holds
    cases holds
  · rw [queue]
    exact related.stopped
  · intro other unheld
    rw [owner] at unheld
    have different : other ≠ gate := by
      rintro rfl
      rw [Function.update_self] at unheld
      cases unheld
    rw [Function.update_of_ne different] at unheld
    rw [data other different]
    exact related.free other unheld
  · rw [activity, Function.update_self]
    exact ⟨part, invoked, prepared⟩

/-- A caller moves within the session, and leaves the rest of it as it is. -/
theorem Related.sets (related : Related spatialProperties capabilities s object)
    (consistent : Consistent s) {activity : Activity Pointer}
    {phase : Atomic.Phase (Part Pointer) (Answer Pointer)}
    (meets : Meets spatialProperties capabilities (s.setActivity caller activity) object.value
      caller activity phase) :
    Related spatialProperties capabilities (s.setActivity caller activity)
      (object.setPhase caller phase) := by
  refine related.moves object.value consistent (fun other different => ⟨?_, rfl⟩)
    (fun _ _ _ _ => ⟨data_frame rfl rfl, rfl⟩) related.stopped related.free ?_
  · exact setActivity_of_ne different _
  · rw [setActivity_self]
    exact meets

/-- A caller that has entered a body and is about to post shows nothing yet. -/
theorem explains_posting {event : Event Pointer} {body : Body}
    (posting : t.activity caller = .posting event body) (other : event ≠ .sessionEnded)
    (related : Related spatialProperties capabilities t object) :
    Explains spatialProperties capabilities object (.enter caller) t := by
  refine ⟨object, ?_, related, (List.append_nil _).symm⟩
  have silent : parts (.enter caller, t) = [] := by
    cases event <;> simp_all [parts]
  rw [silent]
  exact .nil

/-- A caller that reads, or finds nothing to do, takes its part and is about to return. -/
theorem explains_returning {part : Part Pointer} {result : Result Pointer}
    (invoked : object.phase caller = .invoked part)
    (performs : perform spatialProperties capabilities part object.value =
      (object.value, .returned result)) (consistent : Consistent s)
    (related : Related spatialProperties capabilities s object) :
    Explains spatialProperties capabilities object (.enter caller)
      (s.setActivity caller (.returning result)) := by
  refine ⟨_, ?_, related.sets consistent ⟨part, rfl⟩, (List.append_nil _).symm⟩
  simp only [parts, setActivity_self]
  exact Atomic.run_commit invoked performs

theorem explains_changeMembership {part : Part Pointer} {added removed nearObjects : List Pointer}
    (free : s.owner .nearObjects = none) (invoked : object.phase caller = .invoked part)
    (performs : ∀ now : Contents Pointer, now.nearObjects = s.nearObjects →
      perform spatialProperties capabilities part now =
        { now with nearObjects := nearObjects }.post (.sessionMembershipChanged added removed)
          .unit) (consistent : Consistent s)
    (related : Related spatialProperties capabilities s object) :
    Explains spatialProperties capabilities object (.enter caller)
      ({ s with
        owner := Function.update s.owner .nearObjects (some caller)
        nearObjects := nearObjects }.setActivity caller
          (.posting (.sessionMembershipChanged added removed) .changeMembership)) := by
  refine explains_posting (setActivity_self ..) (by simp) ?_
  refine related.writes consistent invoked free rfl rfl rfl (fun gate other => ?_)
    fun now same => ?_
  · cases gate with
    | nearObjects => exact absurd rfl other
    | rangingState => rfl
  · exact performs now ((same .nearObjects rfl).trans (related.free .nearObjects free))

theorem explains_changeRanging {part : Part Pointer} {event : Event Pointer} {body : Body}
    {active : Bool} (free : s.owner .rangingState = none)
    (invoked : object.phase caller = .invoked part) (under : body.gate = some .rangingState)
    (other : event ≠ .sessionEnded)
    (performs : ∀ now : Contents Pointer, now.rangingSession = s.rangingSession →
      perform spatialProperties capabilities part now =
        { now with rangingSession := active }.post event body.result) (consistent : Consistent s)
    (related : Related spatialProperties capabilities s object) :
    Explains spatialProperties capabilities object (.enter caller)
      ({ s with
        owner := Function.update s.owner .rangingState (some caller)
        rangingSession := active }.setActivity caller (.posting event body)) := by
  refine explains_posting (setActivity_self ..) other ?_
  refine related.writes consistent invoked free rfl rfl rfl (fun gate other => ?_)
    fun now same => ?_
  · cases gate with
    | nearObjects => rfl
    | rangingState => exact absurd rfl other
  · rw [under] at same ⊢
    exact performs now ((same .rangingState rfl).trans (related.free .rangingState free))

theorem explains_stopRanging {site : StopRangingSite}
    (entered : (s.lock .rangingState caller).map (fun s => s.stopRanging caller site) = some t)
    (invoked : object.phase caller = .invoked .stopRanging) (consistent : Consistent s)
    (related : Related spatialProperties capabilities s object) :
    Explains spatialProperties capabilities object (.enter caller) t := by
  obtain ⟨locked, locks, rfl⟩ := Option.map_eq_some_iff.mp entered
  obtain ⟨free, rfl⟩ := lock_eq_some.mp locks
  unfold State.stopRanging
  split
  · rename_i active
    refine explains_changeRanging free invoked rfl (by simp) (fun now same => ?_) consistent related
    exact if_pos (same.trans active)
  · rename_i inactive
    rw [release_lock free rfl]
    have agrees : object.value.rangingSession = s.rangingSession := related.free .rangingState free
    have performs : perform spatialProperties capabilities .stopRanging object.value =
        (object.value, .returned .unit) := by
      simp only [perform, agrees]
      exact if_neg inactive
    cases site with
    | stopRanging => exact explains_returning invoked performs consistent related
    | endSession | destructor =>
      have ends := (Atomic.run_commit invoked performs).append
        (Atomic.run_respond_invoke (Atomic.setPhase_self ..) .sessionEnded)
      rw [Atomic.setPhase_setPhase] at ends
      refine ⟨_, ?_, related.sets consistent ⟨.sessionEnded, rfl, fun _ _ => rfl⟩,
        (List.append_nil _).symm⟩
      simp only [parts, setActivity_self, StopRangingSite.next]
      exact ends

theorem explains_startRanging
    (entered : (s.lock .rangingState caller).map (fun s => s.startRanging caller) = some t)
    (invoked : object.phase caller = .invoked .startRanging) (consistent : Consistent s)
    (same : s.capabilities = capabilities)
    (related : Related spatialProperties capabilities s object) :
    Explains spatialProperties capabilities object (.enter caller) t := by
  obtain ⟨locked, locks, rfl⟩ := Option.map_eq_some_iff.mp entered
  obtain ⟨free, rfl⟩ := lock_eq_some.mp locks
  have agrees : object.value.rangingSession = s.rangingSession := related.free .rangingState free
  unfold State.startRanging
  split
  · rename_i active
    rw [release_lock free rfl]
    refine explains_returning invoked ?_ consistent related
    simp only [perform, agrees]
    exact if_pos active
  · rename_i inactive
    split
    · rename_i supports
      refine explains_changeRanging free invoked rfl (by simp) (fun now equal => ?_) consistent
        related
      have resting : ¬ now.rangingSession = true := by
        rw [equal]
        exact inactive
      exact (if_neg resting).trans (if_pos (same ▸ supports))
    · rename_i unsupported
      rw [release_lock free rfl]
      refine explains_returning invoked ?_ consistent related
      simp only [perform, agrees]
      exact (if_neg inactive).trans (if_neg (same ▸ unsupported))

theorem explains_enter (taken : Step spatialProperties s (.enter caller) t)
    (consistent : Consistent s) (same : s.capabilities = capabilities)
    (related : Related spatialProperties capabilities s object) :
    Explains spatialProperties capabilities object (.enter caller) t := by
  obtain ⟨operation, called, entered⟩ := step_enter.mp taken
  have invoked : object.phase caller = .invoked operation.first := related.place called
  cases operation with
  | addNearObjects nearObjectsToAdd | removeNearObjects nearObjectsToRemove =>
    obtain ⟨locked, locks, rfl⟩ := Option.map_eq_some_iff.mp entered
    obtain ⟨free, rfl⟩ := lock_eq_some.mp locks
    refine explains_changeMembership free invoked (fun now agrees => ?_) consistent related
    simp only [perform, agrees, Operation.first]
    rfl
  | getNearObjects =>
    obtain ⟨free, rfl⟩ := Option.ite_some_none_eq_some.mp entered
    refine explains_returning invoked ?_ consistent related
    rw [← show object.value.nearObjects = s.nearObjects from related.free .nearObjects free]
    rfl
  | isRangingActive =>
    obtain ⟨free, rfl⟩ := Option.ite_some_none_eq_some.mp entered
    refine explains_returning invoked ?_ consistent related
    rw [← show object.value.rangingSession = s.rangingSession from related.free .rangingState free]
    rfl
  | nearObjectPropertiesChanged nearObjectChanged =>
    obtain rfl := Option.some.inj entered
    refine explains_posting (setActivity_self ..) (by simp) ?_
    rw [← Atomic.setPhase_eq_self object caller]
    exact related.sets consistent ⟨_, invoked, fun _ _ => rfl⟩
  | startRanging => exact explains_startRanging entered invoked consistent same related
  | stopRanging => exact explains_stopRanging entered invoked consistent related
  | endSession => exact explains_stopRanging entered invoked consistent related
  | destructor => exact explains_stopRanging entered invoked consistent related

omit [DecidableEq Thread] [DecidableEq Pointer] in
/-- The body of a caller is under no gate that the caller does not hold. -/
theorem gate_ne_of_posting {event : Event Pointer} {body : Body} {gate : Gate}
    (consistent : Consistent s) (posting : s.activity caller = .posting event body)
    (other : s.owner gate ≠ some caller) : body.gate ≠ some gate := by
  refine fun own => other ((consistent.held gate caller).mpr ?_)
  rw [posting]
  exact own

theorem explains_post {event : Event Pointer}
    (taken : Step spatialProperties s (.queue (.post caller event)) t) (consistent : Consistent s)
    (related : Related spatialProperties capabilities s object) :
    Explains spatialProperties capabilities object (.queue (.post caller event)) t := by
  obtain ⟨followed, queue, follows, moved, rfl⟩ := step_queue.mp taken
  obtain ⟨body, posting, rfl⟩ := follow_post.mp follows
  obtain ⟨-, running, rfl⟩ := TaskQueue.step_post.mp moved
  obtain ⟨part, invoked, prepared⟩ := related.place posting
  have going : (object.value.adopt s body.gate).stopped = false := by
    rw [adopt_stopped, related.stopped, running]
  have performs := prepared object.value fun _ _ => rfl
  rw [post_of_running going] at performs
  have outside {gate : Gate} (other : s.owner gate ≠ some caller) : body.gate ≠ some gate :=
    gate_ne_of_posting consistent posting other
  refine ⟨_, Atomic.run_commit invoked performs, ?_, congrArg (· ++ [event]) adopt_events⟩
  refine related.moves _ consistent (fun other different => ⟨?_, ?_⟩)
    (fun gate other different holds => ⟨data_frame rfl rfl, ?_⟩) (going.trans running.symm)
    (fun gate unheld => ?_) ?_
  · exact setActivity_of_ne different _
  · exact Function.update_of_ne different ..
  · refine adopt_data_of_ne (outside fun own => different ?_)
    exact Option.some.inj (holds.symm.trans own)
  · have free : s.owner gate = none := unheld
    refine (adopt_data_of_ne (outside ?_)).trans (related.free gate free)
    rw [free]
    exact (Option.some_ne_none caller).symm
  · rw [show _ = Activity.posted body from setActivity_self caller (.posted body)]
    refine ⟨⟨part, rfl⟩, fun gate own => ?_⟩
    rw [own]
    exact adopt_data_of_some

omit [DecidableEq Thread] [DecidableEq Pointer] in
theorem release_data {body : Body} {gate : Gate} : (s.release body).data gate = s.data gate :=
  data_frame (release_nearObjects body) (release_rangingSession body)

omit [DecidableEq Thread] [DecidableEq Pointer] in
theorem release_owner_of_ne {body : Body} {gate : Gate} (other : body.gate ≠ some gate) :
    (s.release body).owner gate = s.owner gate := by
  cases place : body.gate with
  | none => rw [release_of_none place]
  | some held =>
    rw [release_of_some place]
    exact Function.update_of_ne (fun same => other (place.trans (congrArg some same.symm))) ..

/-- A caller leaves a body, with what it has written under its gate. -/
theorem Related.releases (related : Related spatialProperties capabilities s object)
    (consistent : Consistent s) {body : Body} {activity : Activity Pointer}
    {value : Contents Pointer} {phase : Atomic.Phase (Part Pointer) (Answer Pointer)}
    (before : (s.activity caller).gate? = body.gate)
    (written : ∀ gate, body.gate = some gate → value.data gate = s.data gate)
    (others : ∀ gate, body.gate ≠ some gate → value.data gate = object.value.data gate)
    (stopped : value.stopped = object.value.stopped)
    (meets : Meets spatialProperties capabilities ((s.release body).setActivity caller activity)
      value caller activity phase) :
    Related spatialProperties capabilities ((s.release body).setActivity caller activity)
      ({ object with value := value }.setPhase caller phase) := by
  refine related.moves value consistent (fun other different => ⟨?_, ?_⟩)
    (fun gate other different holds => ⟨release_data, others gate fun own => different ?_⟩) ?_
    (fun gate unheld => ?_) ?_
  · rw [setActivity_of_ne different, release_activity]
  · rw [setActivity_queue, release_queue]
  · have inside := (consistent.held gate caller).mpr (before.trans own)
    exact Option.some.inj (holds.symm.trans inside)
  · rw [stopped, related.stopped, setActivity_queue, release_queue]
  · refine Eq.trans ?_ release_data.symm
    by_cases own : body.gate = some gate
    · exact written gate own
    · have free : s.owner gate = none := (release_owner_of_ne own).symm.trans unheld
      exact (others gate own).trans (related.free gate free)
  · rw [setActivity_self]
    exact meets

theorem explains_refuse {event : Event Pointer}
    (taken : Step spatialProperties s (.queue (.refuse caller event)) t) (consistent : Consistent s)
    (related : Related spatialProperties capabilities s object) :
    Explains spatialProperties capabilities object (.queue (.refuse caller event)) t := by
  obtain ⟨followed, queue, follows, moved, rfl⟩ := step_queue.mp taken
  obtain ⟨body, posting, rfl⟩ := follow_refuse.mp follows
  obtain ⟨-, pending, rfl⟩ := TaskQueue.step_refuse.mp moved
  obtain ⟨part, invoked, prepared⟩ := related.place posting
  have ended : (object.value.adopt s body.gate).stopped = true := by
    rw [adopt_stopped, related.stopped, pending]
  have performs := prepared object.value fun _ _ => rfl
  rw [post_of_stopped ended] at performs
  have queue : s.queue = ((s.release body).setActivity caller body.thrown).queue :=
    (release_queue body).symm
  refine ⟨_, Atomic.run_commit_respond invoked performs, ?_, ?_⟩
  · rw [show ({ (s.release body).setActivity caller body.thrown with queue := s.queue } :
      State Thread Pointer) = (s.release body).setActivity caller body.thrown by rw [queue]]
    refine related.releases consistent (by rw [posting]; rfl) (fun gate own => ?_)
      (fun gate own => adopt_data_of_ne own) adopt_stopped ?_
    · rw [own]
      exact adopt_data_of_some
    · have thrown : (body.thrown : Activity Pointer) = .idle ∨ body.thrown = .terminated :=
        thrown_cases body
      rcases thrown with same | same <;> rw [same] <;> rfl
  · exact adopt_events.trans (List.append_nil _).symm

theorem explains_leave (taken : Step spatialProperties s (.leave caller) t)
    (consistent : Consistent s) (related : Related spatialProperties capabilities s object) :
    Explains spatialProperties capabilities object (.leave caller) t := by
  obtain ⟨body, place, idle, rfl⟩ := step_leave.mp taken
  obtain ⟨⟨part, committed⟩, agrees⟩ := related.place place
  have leaves (phase : Atomic.Phase (Part Pointer) (Answer Pointer))
      (meets : Meets spatialProperties capabilities
        ((s.release body).setActivity caller body.next) object.value caller body.next phase) :
      Related spatialProperties capabilities ((s.release body).setActivity caller body.next)
        (object.setPhase caller phase) :=
    related.releases consistent (by rw [place]; rfl) agrees (fun _ _ => rfl) rfl meets
  have returns {result : Result Pointer} (next : body.next = .returning result)
      (same : body.result = result) :
      Explains spatialProperties capabilities object (.leave caller)
        ((s.release body).setActivity caller body.next) := by
    refine ⟨object, ?_, ?_, (List.append_nil _).symm⟩
    · simp only [parts, setActivity_self, next]
      exact .nil
    · rw [← Atomic.setPhase_eq_self object caller]
      refine leaves _ ?_
      rw [next]
      exact ⟨part, same ▸ committed⟩
  have ends {destructor : Bool}
      (next : (body.next : Activity Pointer) = .posting .sessionEnded (.endSession destructor))
      (same : (body.result : Result Pointer) = .unit) :
      Explains spatialProperties capabilities object (.leave caller)
        ((s.release body).setActivity caller body.next) := by
    rw [same] at committed
    refine ⟨_, ?_, leaves (.invoked .sessionEnded) ?_, (List.append_nil _).symm⟩
    · simp only [parts, setActivity_self, next]
      exact Atomic.run_respond_invoke committed .sessionEnded
    · rw [next]
      exact ⟨.sessionEnded, rfl, fun _ _ => rfl⟩
  cases body with
  | changeMembership | propertiesChanged | startRanging => exact returns rfl rfl
  | stopRanging site =>
    cases site with
    | stopRanging => exact returns rfl rfl
    | endSession | destructor => exact ends rfl rfl
  | endSession destructor =>
    cases destructor with
    | false => exact returns rfl rfl
    | true =>
      refine ⟨_, ?_, leaves .idle (.inl ⟨?_, rfl⟩), (List.append_nil _).symm⟩
      · simp only [parts, setActivity_self, Body.next]
        exact .single (.respond object caller part _ committed)
      · exact idle

theorem explains_stop {action : TaskQueue.PendingTaskAction} {site : TaskQueue.StopSite}
    (taken : Step spatialProperties s (.queue (.stop caller action site)) t)
    (consistent : Consistent s) (related : Related spatialProperties capabilities s object) :
    Explains spatialProperties capabilities object (.queue (.stop caller action site)) t := by
  obtain ⟨followed, queue, follows, moved, rfl⟩ := step_queue.mp taken
  obtain ⟨⟨destructing, rfl, rfl⟩, same⟩ := Option.ite_none_right_eq_some.mp follows
  obtain rfl := Option.some.inj same
  obtain ⟨⟨-, -, free, -⟩, -, rfl⟩ := TaskQueue.step_stop.mp moved
  have idle : object.phase caller = .idle := by
    rcases related.place destructing with ⟨-, idle⟩ | ⟨busy, -⟩
    · exact idle
    · simp [free] at busy
  refine ⟨_, Atomic.run_invoke_commit idle rfl, ?_, (List.append_nil _).symm⟩
  have data (gate : Gate) :
      Contents.data { object.value with stopped := true } gate = object.value.data gate := by
    cases gate <;> rfl
  refine related.moves _ consistent (fun other different => ⟨rfl, ?_⟩)
    (fun gate _ _ _ => ⟨data_frame rfl rfl, data gate⟩) ?_
    (fun gate unheld => (data gate).trans (related.free gate unheld)) ?_
  · exact Function.update_of_ne different ..
  · exact (TaskQueue.stop_isStopPending .run).symm
  · change Meets _ _ _ _ caller (s.activity caller) _
    rw [destructing]
    exact .inr ⟨.inl (Function.update_self ..), rfl⟩

theorem explains_join (taken : Step spatialProperties s (.queue (.join caller)) t)
    (consistent : Consistent s) (related : Related spatialProperties capabilities s object) :
    Explains spatialProperties capabilities object (.queue (.join caller)) t := by
  obtain ⟨followed, queue, follows, moved, rfl⟩ := step_queue.mp taken
  obtain ⟨destructing, rfl⟩ := follow_join.mp follows
  obtain ⟨site, joining, -, rfl⟩ := TaskQueue.step_join.mp moved
  have committed : object.phase caller = .committed .stop (.returned .unit) := by
    rcases related.place destructing with ⟨idle, -⟩ | ⟨-, committed⟩
    · simp [joining] at idle
    · exact committed
  refine ⟨object, .nil, ?_, (List.append_nil _).symm⟩
  rw [← Atomic.setPhase_eq_self object caller]
  refine related.moves _ consistent (fun other different => ⟨?_, ?_⟩)
    (fun gate _ _ _ => ⟨data_frame rfl rfl, rfl⟩) related.stopped related.free ?_
  · exact setActivity_of_ne different _
  · exact Function.update_of_ne different ..
  · rw [show _ = Activity.returning .unit from setActivity_self caller (.returning .unit)]
    exact ⟨.stop, committed⟩

omit [DecidableEq Thread] in
/-- A step that is none of the session's leaves the object alone. -/
theorem Related.quiet (related : Related spatialProperties capabilities s object)
    (activity : t.activity = s.activity) (owner : t.owner = s.owner)
    (data : ∀ gate, t.data gate = s.data gate)
    (stopped : t.queue.members.isStopPending = s.queue.members.isStopPending)
    (calls : ∀ caller, s.activity caller = .destructing →
      Meets spatialProperties capabilities s object.value caller .destructing
          (object.phase caller) →
        Meets spatialProperties capabilities t object.value caller .destructing
          (object.phase caller)) :
    Related spatialProperties capabilities t object where
  stopped := related.stopped.trans stopped.symm
  free := fun gate free => by
    rw [owner] at free
    rw [data gate]
    exact related.free gate free
  meets := fun caller => by
    rw [activity]
    by_cases destructing : s.activity caller = .destructing
    · rw [destructing]
      exact calls caller destructing (related.place destructing)
    · refine meets_frame (related.meets caller) (fun here => absurd here destructing) ?_
      exact fun gate _ => ⟨data gate, rfl⟩

theorem explains_notify (taken : Step spatialProperties s (.queue (.notify caller)) t)
    (still : t.queue.members.isStopPending = s.queue.members.isStopPending)
    (related : Related spatialProperties capabilities s object) :
    Explains spatialProperties capabilities object (.queue (.notify caller)) t := by
  obtain ⟨followed, queue, follows, moved, rfl⟩ := step_queue.mp taken
  obtain rfl := follow_same follows (by simp) (by simp) (by simp)
  refine ⟨object, .nil, related.quiet rfl rfl (fun gate => data_frame rfl rfl) still ?_,
    (List.append_nil _).symm⟩
  intro other _ meets
  by_cases own : other = caller
  · subst own
    -- what is notified here is the stop of the destructor
    obtain ⟨pushed, -⟩ | ⟨site, stopped, rfl⟩ := TaskQueue.step_notify.mp moved
    · rcases meets with ⟨idle, -⟩ | ⟨stopped | joining, -⟩ <;> simp_all
    · rcases meets with ⟨idle, -⟩ | ⟨ends | joining, committed⟩
      · simp_all
      · rw [stopped] at ends
        obtain rfl := TaskQueue.Call.stopped.inj ends
        exact .inr ⟨.inr (Function.update_self ..), committed⟩
      · simp_all
  · unfold Meets
    rw [TaskQueue.call_frame moved fun same => own (Option.some.inj same).symm]
    exact meets

/-- **Every step is explained.** -/
theorem explains_step {label : Label Thread Pointer} (taken : Step spatialProperties s label t)
    (consistent : Consistent s) (same : s.capabilities = capabilities)
    (drained : TaskQueue.Drained s.queue)
    (related : Related spatialProperties capabilities s object) :
    Explains spatialProperties capabilities object label t := by
  have still (other : ¬ ∃ owner, label = .queue (.stop owner .run .destructor)) :
      t.queue.members.isStopPending = s.queue.members.isStopPending :=
    Bool.eq_iff_iff.mpr ((stopPending_step taken drained).trans (or_iff_left other))
  -- the steps of the worker
  have silent {move : TaskQueue.Label Thread (Event Pointer)}
      (moved : TaskQueue.Step s.queue move t.queue) (free : move.caller? = none)
      (activity : t.activity = s.activity) (owner : t.owner = s.owner)
      (data : ∀ gate, t.data gate = s.data gate)
      (other : ¬ ∃ owner, label = .queue (.stop owner .run .destructor)) :
      Related spatialProperties capabilities t object := by
    refine related.quiet activity owner data (still other) fun caller _ meets => ?_
    unfold Meets
    rw [TaskQueue.call_frame moved (by simp [free])]
    exact meets
  cases label with
  | call caller operation => exact explains_call taken consistent related
  | enter caller => exact explains_enter taken consistent same related
  | leave caller => exact explains_leave taken consistent related
  | «return» caller result => exact explains_return taken consistent related
  | queue move =>
    cases move with
    | post caller event => exact explains_post taken consistent related
    | refuse caller event => exact explains_refuse taken consistent related
    | stop caller action site => exact explains_stop taken consistent related
    | join caller => exact explains_join taken consistent related
    | notify caller => exact explains_notify taken (still (by simp)) related
    | _ =>
      obtain ⟨followed, queue, follows, moved, rfl⟩ := step_queue.mp taken
      obtain rfl := follow_same follows (by simp) (by simp) (by simp)
      exact ⟨object, .nil, silent moved rfl rfl rfl (fun gate => data_frame rfl rfl) (by simp),
        (List.append_nil _).symm⟩
  | deliver event =>
    obtain ⟨-, queue, moved, rfl⟩ := step_deliver.mp taken
    exact ⟨object, .nil, silent moved rfl rfl rfl (fun gate => data_frame rfl rfl) (by simp),
      (List.append_nil _).symm⟩
  | drop event =>
    obtain ⟨-, queue, moved, rfl⟩ := step_drop.mp taken
    exact ⟨object, .nil, silent moved rfl rfl rfl (fun gate => data_frame rfl rfl) (by simp),
      (List.append_nil _).symm⟩
  | expire =>
    obtain rfl := step_expire.mp taken
    refine ⟨object, .nil, ?_, (List.append_nil _).symm⟩
    exact related.quiet rfl rfl (fun gate => data_frame rfl rfl) rfl fun _ _ meets => meets

end Steps

/-! ### Whole runs -/

section Runs

variable {Thread Pointer Value : Type} [DecidableEq Thread] [DecidableEq Pointer] [BEq Value]
  {spatialProperties : Pointer → NearObjectSpatialProperties Value}
  {capabilities : NearObjectCapabilities} {initial : List Pointer} {s : State Thread Pointer}
  {trace : List (Label Thread Pointer)}

/-- A session before its first step. -/
def Contents.start (initial : List Pointer) : Contents Pointer where
  nearObjects := initial
  rangingSession := false
  events := []
  stopped := false

omit [DecidableEq Thread] in
theorem related_init : Related spatialProperties capabilities (init Thread capabilities initial)
    (Atomic.start (Caller Thread) (Part Pointer) (Answer Pointer) (.start initial)) where
  stopped := rfl
  free := fun gate _ => by cases gate <;> rfl
  meets := fun _ => rfl

/-- **Every run is explained.** -/
theorem explained_run {moves : List (Label Thread Pointer × State Thread Pointer)}
    (run : Run (Shown (Step spatialProperties)) (init Thread capabilities initial) moves s) :
    ∃ object, Run (Atomic.Step (perform spatialProperties capabilities))
        (Atomic.start (Caller Thread) (Part Pointer) (Answer Pointer) (.start initial))
        (moves.flatMap parts) object ∧
      Related spatialProperties capabilities s object ∧
      object.value.events = posted (moves.map Prod.fst) := by
  induction run with
  | nil => exact ⟨_, .nil, related_init, rfl⟩
  | @snoc moves s t shown before taken ih =>
    obtain ⟨object, run, related, events⟩ := ih
    obtain ⟨rfl, taken⟩ := taken
    obtain ⟨after, steps, still, posts⟩ := explains_step taken (consistent_run before.hidden)
      (capabilities_run before.hidden) (settled_run before.hidden).drained related
    refine ⟨after, ?_, still, ?_⟩
    · rw [List.flatMap_append, List.flatMap_singleton]
      exact run.append steps
    · rw [posts, events, List.map_append, posted_append]
      rfl

/-- **A session is atomic.** In every run, with the states that its steps lead to, there is one
order of the parts of its calls that only grows and explains every result, every exception, the
events in the order in which they were posted, and what no caller holds at the end. -/
theorem session_atomic
    (run : Run (Step spatialProperties) (init Thread capabilities initial) trace s) :
    ∃ moves final, moves.map Prod.fst = trace ∧
      Run (Shown (Step spatialProperties)) (init Thread capabilities initial) moves s ∧
      final.events = posted trace ∧
      (final.stopped = true ↔ Stopped trace) ∧
      (∀ gate, s.owner gate = none → final.data gate = s.data gate) ∧
      Atomic.Linearizable (perform spatialProperties capabilities) (.start initial) final parts
        moves := by
  obtain ⟨moves, rfl, shown⟩ := run.shown
  obtain ⟨object, explained, related, events⟩ := explained_run shown
  refine ⟨moves, object.value, rfl, shown, events, ?_, related.free,
    Atomic.linearizable_of_run explained⟩
  rw [related.stopped]
  exact stopped_iff run

end Runs

/-- A client asks for the near objects while another one adds one. -/
def overlappingTrace : List (Label Nat Nat) :=
  [.queue .construct, .call (.client 0) (.addNearObjects [7]), .call (.client 1) .getNearObjects,
    .enter (.client 0), .queue (.post (.client 0) (.sessionMembershipChanged [7] [])),
    .queue (.notify (.client 0)), .leave (.client 0), .enter (.client 1),
    .return (.client 1) (.nearObjects [7]), .return (.client 0) .unit]

theorem session_atomic_overlapping : ∃ moves final, moves.map Prod.fst = overlappingTrace ∧
    final.events = [.sessionMembershipChanged [7] []] ∧ final.nearObjects = [7] ∧
    Atomic.Linearizable (perform unset ⟨true⟩)
      (.start []) final parts moves := by
  have run : Run (Step unset) (init Nat ⟨true⟩ [])
      overlappingTrace _ := run_of_execute rfl
  obtain ⟨moves, final, shown, -, events, -, free, atomic⟩ := session_atomic run
  exact ⟨moves, final, shown, events, free .nearObjects rfl, atomic⟩

end NearObject.Session
