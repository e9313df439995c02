/-
**`NearObjectSession` — the code, its two gates and its task queue.**

A session is its membership list, its ranging state, the mutex of each, and a `task_queue` on which
it posts one task for each event. A call on a session is in several steps:

* `call`, then `enter`: the caller takes the gate of the operation and runs it up to the `post` of
  its event, if it has one;
* the `post` on the session's queue, under the gate, which pushes the event or throws;
* `leave`: the gate is released and the function goes on, and `return`.

`EndSession` runs `StopRanging` and then posts; the destructor runs `EndSession` and then destroys
the members, the queue first. All other steps are those of the queue. The task of an event resolves
`m_eventCallbacks` as it begins: it delivers the event to a callback object that is alive, and drops
it otherwise. A callback runs on the queue's worker and may itself call the session.
-/

import NearObject.Session.Membership
import NearObject.TaskQueue.Model

namespace NearObject.Session

open TaskQueue (Caller)

/-! ### Events and operations -/

section Vocabulary

variable (Pointer : Type)

/-- The callbacks of `NearObjectSessionEventCallbacks`. -/
inductive Event
  | sessionEnded
  | rangingStarted
  | rangingStopped
  | nearObjectPropertiesChanged (nearObjectsChanged : List Pointer)
  | sessionMembershipChanged (nearObjectsAdded nearObjectsRemoved : List Pointer)
  deriving DecidableEq, Repr

/-- The calls on a session; `AddNearObject` and `RemoveNearObject` pass a list of one. -/
inductive Operation
  | addNearObjects (nearObjectsToAdd : List Pointer)
  | removeNearObjects (nearObjectsToRemove : List Pointer)
  | getNearObjects
  | nearObjectPropertiesChanged (nearObjectChanged : Pointer)
  | startRanging
  | stopRanging
  | isRangingActive
  | endSession
  | destructor
  deriving DecidableEq, Repr

/-- `NearObjectSession::RangingSessionStatus`. -/
inductive RangingSessionStatus
  | running
  | error
  | notSupported
  | maximumSessionsReached
  deriving DecidableEq, Repr

/-- What a call returns. -/
inductive Result
  | unit
  | nearObjects (nearObjects : List Pointer)
  | status (status : RangingSessionStatus)
  | active (active : Bool)
  deriving DecidableEq, Repr

end Vocabulary

/-- `m_nearObjectsGate` and `m_rangingStateGate`. -/
inductive Gate
  | nearObjects
  | rangingState
  deriving DecidableEq, Repr

/-- The function in whose body `StopRanging` runs. The last two then post `OnSessionEnded`. -/
inductive StopRangingSite
  | stopRanging
  | endSession
  | destructor
  deriving DecidableEq, Repr

/-- The part of a function that posts an event. -/
inductive Body
  | changeMembership
  | propertiesChanged
  | startRanging
  | stopRanging (site : StopRangingSite)
  | endSession (destructor : Bool)
  deriving DecidableEq, Repr

/-- The gate that is held over the `post`. -/
def Body.gate : Body → Option Gate
  | .changeMembership => some .nearObjects
  | .startRanging | .stopRanging _ => some .rangingState
  | .propertiesChanged | .endSession _ => none

/-- Where a caller is in a call on the session. -/
inductive Activity (Pointer : Type)
  | idle
  /-- The gate of the operation is next. -/
  | called (operation : Operation Pointer)
  /-- In `InvokeEventCallback`, about to post. -/
  | posting (event : Event Pointer) (body : Body)
  /-- The event is pushed, and `post` may have its `notify_all` ahead. -/
  | posted (body : Body)
  | returning (result : Result Pointer)
  /-- Past the body of the destructor, in that of `m_taskQueue`. -/
  | destructing
  /-- An exception has left the destructor. -/
  | terminated
  deriving DecidableEq, Repr

section Continuations

variable {Pointer : Type}

/-- After `StopRanging` has returned. -/
def StopRangingSite.next : StopRangingSite → Activity Pointer
  | .stopRanging => .returning .unit
  | .endSession => .posting .sessionEnded (.endSession false)
  | .destructor => .posting .sessionEnded (.endSession true)

/-- After the `post` has returned. -/
def Body.next : Body → Activity Pointer
  | .changeMembership | .propertiesChanged => .returning .unit
  | .startRanging => .returning (.status .running)
  | .stopRanging site => site.next
  | .endSession false => .returning .unit
  | .endSession true => .destructing

/-- After the `post` has thrown; no function of the session catches the exception. -/
def Body.thrown : Body → Activity Pointer
  | .stopRanging .destructor | .endSession true => .terminated
  | _ => .idle

end Continuations

/-! ### The session and its threads -/

/-- The part of `NearObjectCapabilities` that a session reads. -/
structure NearObjectCapabilities where
  supportsRanging : Bool
  deriving DecidableEq, Repr

/-- A session and its threads. `owner` says who holds each gate, `rangingSession` whether
`m_rangingSession` has a value, `inCallback` whether the task that the worker executes has found the
callback object alive. -/
structure State (Thread Pointer : Type) where
  queue : TaskQueue.State Thread (Event Pointer)
  capabilities : NearObjectCapabilities
  nearObjects : List Pointer
  rangingSession : Bool
  owner : Gate → Option (Caller Thread)
  callbacksAlive : Bool
  inCallback : Bool
  destructorCalled : Bool
  activity : Caller Thread → Activity Pointer

/-- The constructor has initialised the members and is in that of `m_taskQueue`. -/
def init (Thread : Type) {Pointer : Type} (capabilities : NearObjectCapabilities)
    (nearObjects : List Pointer) : State Thread Pointer where
  queue := TaskQueue.init Thread (Event Pointer)
  capabilities := capabilities
  nearObjects := nearObjects
  rangingSession := false
  owner := fun _ => none
  callbacksAlive := true
  inCallback := false
  destructorCalled := false
  activity := fun _ => .idle

/-- The steps of the threads. -/
inductive Label (Thread Pointer : Type)
  | call (caller : Caller Thread) (operation : Operation Pointer)
  | enter (caller : Caller Thread)
  | leave (caller : Caller Thread)
  | return (caller : Caller Thread) (result : Result Pointer)
  /-- A step of `m_taskQueue` other than the beginning of a task. -/
  | queue (label : TaskQueue.Label Thread (Event Pointer))
  /-- The task of the event begins, and invokes the callback. -/
  | deliver (event : Event Pointer)
  /-- The task of the event begins, and finds no callback object. -/
  | drop (event : Event Pointer)
  /-- The last owner of the callback object lets go of it. -/
  | expire
  deriving DecidableEq, Repr

section Steps

variable {Thread Pointer : Type} [DecidableEq Thread]

def State.setActivity (s : State Thread Pointer) (caller : Caller Thread)
    (activity : Activity Pointer) : State Thread Pointer :=
  { s with activity := Function.update s.activity caller activity }

/-- `std::scoped_lock`, `none` while the gate is held. -/
def State.lock (s : State Thread Pointer) (gate : Gate) (caller : Caller Thread) :
    Option (State Thread Pointer) :=
  if s.owner gate = none then some { s with owner := Function.update s.owner gate (some caller) }
  else none

/-- The end of the scope of a body's lock, if it has one. -/
def State.release (s : State Thread Pointer) (body : Body) : State Thread Pointer :=
  match body.gate with
  | some gate => { s with owner := Function.update s.owner gate none }
  | none => s

/-- The session exists and the caller is between two calls on it; a callback calls from the worker,
and does not destroy the session. -/
def State.MayCall (s : State Thread Pointer) (caller : Caller Thread)
    (operation : Operation Pointer) : Prop :=
  s.queue.constructed = true ∧ s.queue.destroyed = false ∧ s.activity caller = .idle ∧
    (caller = .worker → s.queue.worker.current.isSome ∧ s.inCallback = true ∧
      operation ≠ .destructor) ∧
    (operation = .destructor → s.destructorCalled = false)

instance [DecidableEq Pointer] (s : State Thread Pointer) (caller : Caller Thread)
    (operation : Operation Pointer) : Decidable (s.MayCall caller operation) :=
  inferInstanceAs (Decidable (_ ∧ _ ∧ _ ∧ _ ∧ _))

def State.call [DecidableEq Pointer] (s : State Thread Pointer) (caller : Caller Thread)
    (operation : Operation Pointer) : State Thread Pointer :=
  { s.setActivity caller (.called operation) with
    destructorCalled := s.destructorCalled || decide (operation = .destructor) }

/-- `StartRanging` and `CreateNewRangingSession`, once `m_rangingStateGate` is taken. -/
def State.startRanging (s : State Thread Pointer) (caller : Caller Thread) : State Thread Pointer :=
  if s.rangingSession then
    (s.release .startRanging).setActivity caller (.returning (.status .maximumSessionsReached))
  else if s.capabilities.supportsRanging then
    { s with rangingSession := true }.setActivity caller (.posting .rangingStarted .startRanging)
  else (s.release .startRanging).setActivity caller (.returning (.status .notSupported))

/-- `StopRanging`, once `m_rangingStateGate` is taken. -/
def State.stopRanging (s : State Thread Pointer) (caller : Caller Thread) (site : StopRangingSite) :
    State Thread Pointer :=
  if s.rangingSession then
    { s with rangingSession := false }.setActivity caller
      (.posting .rangingStopped (.stopRanging site))
  else (s.release (.stopRanging site)).setActivity caller site.next

variable {Value : Type} [DecidableEq Pointer] [BEq Value]
  (spatialProperties : Pointer → NearObjectSpatialProperties Value)

/-- An operation, from taking its gate to the `post` of its event or to its return. -/
def State.enter (s : State Thread Pointer) (caller : Caller Thread) :
    Operation Pointer → Option (State Thread Pointer)
  | .addNearObjects nearObjectsToAdd =>
    (s.lock .nearObjects caller).map fun s =>
      let (nearObjects, nearObjectsAdded) :=
        addNearObjects spatialProperties s.nearObjects nearObjectsToAdd
      { s with nearObjects }.setActivity caller
        (.posting (.sessionMembershipChanged nearObjectsAdded []) .changeMembership)
  | .removeNearObjects nearObjectsToRemove =>
    (s.lock .nearObjects caller).map fun s =>
      let (nearObjects, nearObjectsRemoved) := removeNearObjects s.nearObjects nearObjectsToRemove
      { s with nearObjects }.setActivity caller
        (.posting (.sessionMembershipChanged [] nearObjectsRemoved) .changeMembership)
  | .getNearObjects =>
    if s.owner .nearObjects = none then
      some (s.setActivity caller (.returning (.nearObjects s.nearObjects)))
    else none
  | .nearObjectPropertiesChanged nearObjectChanged =>
    some (s.setActivity caller
      (.posting (.nearObjectPropertiesChanged [nearObjectChanged]) .propertiesChanged))
  | .startRanging => (s.lock .rangingState caller).map fun s => s.startRanging caller
  | .stopRanging => (s.lock .rangingState caller).map fun s => s.stopRanging caller .stopRanging
  | .isRangingActive =>
    if s.owner .rangingState = none then
      some (s.setActivity caller (.returning (.active s.rangingSession)))
    else none
  | .endSession => (s.lock .rangingState caller).map fun s => s.stopRanging caller .endSession
  | .destructor => (s.lock .rangingState caller).map fun s => s.stopRanging caller .destructor

/-- What a step of the queue does to the rest of the session, `none` where the session does not take
it: a `post` or its exception is that of a body, and only the destructor stops and joins. -/
def State.follow (s : State Thread Pointer) :
    TaskQueue.Label Thread (Event Pointer) → Option (State Thread Pointer)
  | .post caller event =>
    match s.activity caller with
    | .posting current body =>
      if current = event then some (s.setActivity caller (.posted body)) else none
    | _ => none
  | .refuse caller event =>
    match s.activity caller with
    | .posting current body =>
      if current = event then some ((s.release body).setActivity caller body.thrown) else none
    | _ => none
  | .stop caller action site =>
    if s.activity caller = .destructing ∧ action = .run ∧ site = .destructor then some s else none
  | .join caller =>
    if s.activity caller = .destructing then some (s.setActivity caller (.returning .unit))
    else none
  | .begin _ => none
  | .finish _ _ => if s.activity .worker = .idle then some s else none
  | _ => some s

/-- A step of the queue, with what it does to the rest of the session. -/
def State.queueStep (s : State Thread Pointer) (label : TaskQueue.Label Thread (Event Pointer)) :
    Option (State Thread Pointer) :=
  (s.follow label).bind fun followed =>
    (TaskQueue.step s.queue label).map fun queue => { followed with queue }

/-- **One step of the threads**, `none` where the label is not enabled. -/
def step (s : State Thread Pointer) : Label Thread Pointer → Option (State Thread Pointer)
  | .call caller operation =>
    if s.MayCall caller operation then some (s.call caller operation) else none
  | .enter caller =>
    match s.activity caller with
    | .called operation => s.enter spatialProperties caller operation
    | _ => none
  | .leave caller =>
    match s.activity caller with
    | .posted body =>
      if s.queue.call caller = .idle then some ((s.release body).setActivity caller body.next)
      else none
    | _ => none
  | .return caller result =>
    match s.activity caller with
    | .returning current =>
      if current = result then some (s.setActivity caller .idle) else none
    | _ => none
  | .queue label => s.queueStep label
  | .deliver event =>
    if s.callbacksAlive then
      (TaskQueue.step s.queue (.begin event)).map fun queue => { s with queue, inCallback := true }
    else none
  | .drop event =>
    if s.callbacksAlive then none
    else
      (TaskQueue.step s.queue (.begin event)).map fun queue =>
        { s with queue, inCallback := false }
  | .expire => some { s with callbacksAlive := false }

/-- The session and its threads, as a system. -/
abbrev Step : State Thread Pointer → Label Thread Pointer → State Thread Pointer → Prop :=
  Transition.Next (step spatialProperties)

end Steps

/-! ### What a trace shows -/

section Observations

variable {Thread Pointer : Type}

/-- What a label is for the session's queue. -/
def queueSteps : Label Thread Pointer → List (TaskQueue.Label Thread (Event Pointer))
  | .queue label => [label]
  | .deliver event | .drop event => [.begin event]
  | _ => []

/-- The steps of the session's queue. -/
def queueTrace (trace : List (Label Thread Pointer)) :
    List (TaskQueue.Label Thread (Event Pointer)) :=
  trace.flatMap queueSteps

/-- The events posted, in posting order. -/
def posted (trace : List (Label Thread Pointer)) : List (Event Pointer) :=
  TaskQueue.accepted (queueTrace trace)

/-- The events whose task has begun, in order. -/
def handled (trace : List (Label Thread Pointer)) : List (Event Pointer) :=
  TaskQueue.begun (queueTrace trace)

/-- The events delivered to the callback object, in order. -/
def delivered (trace : List (Label Thread Pointer)) : List (Event Pointer) :=
  trace.filterMap fun
    | .deliver event => some event
    | _ => none

end Observations

end NearObject.Session
