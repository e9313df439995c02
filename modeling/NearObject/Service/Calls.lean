/-
**The service — its calls, as programs over the locks that they take.**

The profile manager, the device controller manager, the discovery agents and the device controllers
each guard their members by locks of their own. A call takes one lock at a time, but for
`DevicePresenceChanged`, which holds the gate of its agent while the callback runs: the callback of
the manager takes the gate of the device list under it. A client may register a callback of its own,
which makes any calls in which no discovery agent takes part, each on what the ones before it have
returned (`Reaction`). `DevicePresenceChanged` is `noexcept`: an exception that leaves its callback
ends the process.

The objects of the service outlive the calls on them; what becomes of an agent that is destroyed
meanwhile is in `Device.Ownership`.

`AddDiscoveryAgent` begins the probe of a started agent as a task. It does not return before the
probe has ended: where the wait times out, the destructor of the future waits on.

The notifications of the system reach an agent in calls of their own, and the system does not end a
registration while one of its notifications is under way. That is a lock too, which the
notifications hold shared.

Each loop under a gate is one step here; their steps are in `Profile.Queries` and `Device.Queries`.
-/

import NearObject.Device.UwbAgent
import NearObject.Profile.Manager
import NearObject.Profile.Queries
import NearObject.Transition.Locking

namespace NearObject.Service

open Transition
open NearObject.Device (NearObjectDevicePresence NotifyAction AgentUwb ControllerUwb)
open NearObject.Profile (NearObjectProfile ProfileLifetime)

/-! ### Locks and members -/

inductive Gate (Agent Controller : Type)
  /-- The notifications of the system that the agent is handling. -/
  | notifications (agent : Agent)
  /-- `m_onDevicePresenceChangedGate` of an agent. -/
  | onDevicePresenceChanged (agent : Agent)
  /-- `m_nearObjectDeviceCacheGate` of a UWB agent. -/
  | nearObjectDeviceCache (agent : Agent)
  | discoveryAgents
  | nearObjectDevice
  | profiles
  /-- `m_sessionsGate` of a device controller. -/
  | sessions (controller : Controller)
  deriving DecidableEq, Repr

/-- The calls in which no discovery agent takes part. `session` is what `StartSessionImpl` of the
controller returns, `io` what the file system does to the call. -/
inductive Request (Controller Session Content : Type)
  | addProfile (profile : NearObjectProfile) (lifetime : ProfileLifetime) (io : Profile.Io Content)
  | findMatchingProfiles (profileToMatch : NearObjectProfile)
  | getAllProfiles
  | addDevice (nearObjectDevice : Controller)
  | removeDevice (nearObjectDevice : Controller)
  | getDefaultDevice
  | getAllDevices
  | startSession (controller : Controller) (session : Option Session)

inductive Result (Controller Session : Type)
  | unit
  | threw (exception : Json.Exception)
  | profiles (profiles : List NearObjectProfile)
  | device (nearObjectDevice : Option Controller)
  | devices (nearObjectDevices : List Controller)
  | session (session : Option Session)
  | started (started : Bool)

/-- What a function of a client does: its calls, each with what it does on their result. -/
inductive Reaction (Controller Session Content : Type)
  | finish
  /-- An exception leaves the function. -/
  | throw
  | perform (request : Request Controller Session Content)
      (next : Result Controller Session → Reaction Controller Session Content)

/-- The function that an agent has registered. -/
inductive Callback (Controller Session Content : Type)
  /-- That of `AddDiscoveryAgent`. -/
  | manager
  | client (function :
      NearObjectDevicePresence → Controller → Reaction Controller Session Content)

/-- The members that the calls share. -/
structure Members (Agent Controller Name Session Content : Type) where
  onDevicePresenceChanged : Agent → Option (Callback Controller Session Content)
  started : Agent → Bool
  /-- `m_uwbHcmNotificationHandle` is a registration. -/
  registered : Agent → Bool
  agentUwb : Agent → AgentUwb Name
  discoveryAgents : List Agent
  nearObjectDevices : List Controller
  profiles : List NearObjectProfile
  file : Option Content
  sessions : Controller → List Session

/-- A device interface that a probe finds, with the UWB controllers that still exist when the probe
looks it up. -/
structure DeviceInterface (Name : Type) where
  deviceInterfaceName : Name
  alive : ControllerUwb Name → Bool

/-- The calls. A weak compare-exchange may fail spuriously, and the wait for a probe may time
out. -/
inductive Operation (Agent Controller Name Session Content : Type)
  | request (request : Request Controller Session Content)
  | registerDiscoveryEventCallback (agent : Agent)
      (onDevicePresenceChanged : Option (Callback Controller Session Content))
  | devicePresenceChanged (agent : Agent) (presence : NearObjectDevicePresence)
      (deviceChanged : Controller)
  | isStarted (agent : Agent)
  | start (agent : Agent) (spuriously : Bool)
  | stop (agent : Agent) (spuriously : Bool)
  | addDiscoveryAgent (agent : Agent) (spuriously : Bool)
      (deviceInterfaces : List (DeviceInterface Name)) (timeout : Bool)
  | onDeviceInterfaceNotificationCallback (agent : Agent) (action : NotifyAction)
      (symbolicLink : Name) (alive : ControllerUwb Name → Bool)

/-- The class of a discovery agent. -/
inductive AgentClass
  /-- `NearObjectDeviceControllerDiscoveryAgent` itself. -/
  | base
  /-- `linux::nearobject::service::NearObjectDeviceDiscoveryAgentUwb`. -/
  | uwbLinux
  /-- `windows::nearobject::service::NearObjectDeviceDiscoveryAgentUwb`. -/
  | uwbWindows
  deriving DecidableEq, Repr

/-- The objects of a service, and its file format. -/
structure Environment (Agent Controller Name Content Double : Type) where
  deviceId : Controller → UInt64
  format : Json.Format Content Double
  agentClass : Agent → AgentClass
  /-- The UWB controllers of an agent, among all device controllers. -/
  controllerUwb : Agent → ControllerUwb Name → Controller
  deviceId_controllerUwb : ∀ agent controller,
    deviceId (controllerUwb agent controller) = controller.id

section Programs

variable {Agent Controller Name Session Content Double : Type} [DecidableEq Agent]
  [DecidableEq Controller] [DecidableEq Name]
  (environment : Environment Agent Controller Name Content Double)

/-- What is left of a call on the service. -/
abbrev Program (Agent Controller Name Session Content : Type) :=
  Locking.Program (Gate Agent Controller) (Members Agent Controller Name Session Content)
    (Result Controller Session)

/-! ### Profiles -/

/-- `PersistProfile`, whose result `AddProfile` drops: a read of the file, and a write. -/
def persistProfile (profile : NearObjectProfile) (io : Profile.Io Content)
    (next : Result Controller Session → Program Agent Controller Name Session Content) :
    Program Agent Controller Name Session Content :=
  .act id fun members =>
    match Profile.readPersistedProfiles environment.format io members.file with
    | .error exception => next (.threw exception)
    | .ok (persistResult, profiles) =>
      if persistResult ≠ .succeeded then next .unit
      else .act (fun members =>
        { members with
          file := (Profile.writeProfiles environment.format io (profiles ++ [profile])).2 })
        fun _ => next .unit

def addProfile (profile : NearObjectProfile) (lifetime : ProfileLifetime) (io : Profile.Io Content)
    (next : Result Controller Session → Program Agent Controller Name Session Content) :
    Program Agent Controller Name Session Content :=
  .critical .profiles .exclusive
    (fun members => { members with profiles := members.profiles ++ [profile] }) fun _ =>
    if lifetime = .persistent then persistProfile environment profile io next else next .unit

/-! ### Devices -/

def addDevice (nearObjectDevice : Controller)
    (next : Program Agent Controller Name Session Content) :
    Program Agent Controller Name Session Content :=
  .critical .nearObjectDevice .exclusive (fun members => { members with
    nearObjectDevices := Device.addDevice members.nearObjectDevices nearObjectDevice })
    fun _ => next

def removeDevice (nearObjectDevice : Controller)
    (next : Program Agent Controller Name Session Content) :
    Program Agent Controller Name Session Content :=
  .critical .nearObjectDevice .exclusive (fun members => { members with
    nearObjectDevices :=
      Device.removeDevice environment.deviceId members.nearObjectDevices nearObjectDevice })
    fun _ => next

/-- `StartSession`: a session is tracked under the gate of its controller. -/
def startSession (controller : Controller) (session : Option Session)
    (next : Result Controller Session → Program Agent Controller Name Session Content) :
    Program Agent Controller Name Session Content :=
  match session with
  | some started =>
    .critical (.sessions controller) .exclusive (fun members => { members with
      sessions :=
        Function.update members.sessions controller (members.sessions controller ++ [started]) })
      fun _ => next (.session session)
  | none => next (.session none)

/-- A call in which no discovery agent takes part. -/
def perform (request : Request Controller Session Content)
    (next : Result Controller Session → Program Agent Controller Name Session Content) :
    Program Agent Controller Name Session Content :=
  match request with
  | .addProfile profile lifetime io => addProfile environment profile lifetime io next
  | .findMatchingProfiles profileToMatch =>
    .critical .profiles .shared id fun members =>
      next (.profiles (members.profiles.filter fun profileToCheck =>
        profileToCheck.isSame profileToMatch))
  | .getAllProfiles =>
    .critical .profiles .shared id fun members => next (.profiles members.profiles)
  | .addDevice nearObjectDevice => addDevice nearObjectDevice (next .unit)
  | .removeDevice nearObjectDevice => removeDevice environment nearObjectDevice (next .unit)
  | .getDefaultDevice =>
    .critical .nearObjectDevice .exclusive id fun members =>
      next (.device members.nearObjectDevices.head?)
  | .getAllDevices =>
    .critical .nearObjectDevice .exclusive id fun members =>
      next (.devices members.nearObjectDevices)
  | .startSession controller session => startSession controller session next

/-! ### The callback of a discovery agent -/

def registerDiscoveryEventCallback (agent : Agent)
    (onDevicePresenceChanged : Option (Callback Controller Session Content))
    (next : Program Agent Controller Name Session Content) :
    Program Agent Controller Name Session Content :=
  .critical (.onDevicePresenceChanged agent) .exclusive (fun members => { members with
    onDevicePresenceChanged :=
      Function.update members.onDevicePresenceChanged agent onDevicePresenceChanged }) fun _ => next

/-- The body of a client's function, called by one that is `noexcept`. -/
def react (next : Program Agent Controller Name Session Content) :
    Reaction Controller Session Content → Program Agent Controller Name Session Content
  | .finish => next
  -- `std::terminate`
  | .throw => .halt
  | .perform request later => perform environment request fun result => react next (later result)

/-- The call of the registered function. -/
def invoke (callback : Callback Controller Session Content) (presence : NearObjectDevicePresence)
    (deviceChanged : Controller) (next : Program Agent Controller Name Session Content) :
    Program Agent Controller Name Session Content :=
  match callback, presence with
  -- `OnDevicePresenceChanged`
  | .manager, .arrived => addDevice deviceChanged next
  | .manager, .departed => removeDevice environment deviceChanged next
  | .client function, _ => react environment next (function presence deviceChanged)

def devicePresenceChanged (agent : Agent) (presence : NearObjectDevicePresence)
    (deviceChanged : Controller) (next : Program Agent Controller Name Session Content) :
    Program Agent Controller Name Session Content :=
  .acquire (.onDevicePresenceChanged agent) .shared <| .act id fun members =>
    match members.onDevicePresenceChanged agent with
    | some callback => invoke environment callback presence deviceChanged
        (.release (.onDevicePresenceChanged agent) next)
    | none => .release (.onDevicePresenceChanged agent) next

/-! ### Starting and stopping a discovery agent -/

/-- `m_uwbHcmNotificationHandle.reset()`, which waits for the notifications under way. -/
def resetNotificationHandle (agent : Agent) (next : Program Agent Controller Name Session Content) :
    Program Agent Controller Name Session Content :=
  .act id fun members =>
    if members.registered agent then
      .critical (.notifications agent) .exclusive (fun members => { members with
        registered := Function.update members.registered agent false }) fun _ => next
    else next

/-- `StartImpl`. A registration that fails is one without notifications. -/
def startImpl (agent : Agent) (next : Program Agent Controller Name Session Content) :
    Program Agent Controller Name Session Content :=
  match environment.agentClass agent with
  | .uwbWindows =>
    -- the address of the handle is taken, which resets it
    resetNotificationHandle agent <| .act (fun members => { members with
      registered := Function.update members.registered agent true }) fun _ => next
  | _ => next

/-- `StopImpl`. -/
def stopImpl (agent : Agent) (next : Program Agent Controller Name Session Content) :
    Program Agent Controller Name Session Content :=
  match environment.agentClass agent with
  | .uwbWindows => resetNotificationHandle agent next
  | _ => next

/-- The compare-exchange on `m_started` in `Start` and `Stop`. -/
def exchange (agent : Agent) (expected spuriously : Bool)
    (exchanged next : Program Agent Controller Name Session Content) :
    Program Agent Controller Name Session Content :=
  .act (fun members =>
    if members.started agent = expected ∧ ¬ spuriously then
      { members with started := Function.update members.started agent !expected }
    else members) fun members =>
    if members.started agent = expected ∧ ¬ spuriously then exchanged else next

def start (agent : Agent) (spuriously : Bool)
    (next : Program Agent Controller Name Session Content) :
    Program Agent Controller Name Session Content :=
  exchange agent false spuriously (startImpl environment agent next) next

def stop (agent : Agent) (spuriously : Bool)
    (next : Program Agent Controller Name Session Content) :
    Program Agent Controller Name Session Content :=
  exchange agent true spuriously (stopImpl environment agent next) next

/-! ### The cache of a UWB agent -/

def addCachedUwbNearObjectDevice (agent : Agent) (deviceName : Name)
    (alive : ControllerUwb Name → Bool)
    (next : Controller → Program Agent Controller Name Session Content) :
    Program Agent Controller Name Session Content :=
  .critical (.nearObjectDeviceCache agent) .exclusive
    (fun members => { members with
      agentUwb := Function.update members.agentUwb agent
        ((members.agentUwb agent).addCachedUwbNearObjectDevice alive deviceName).1 })
    fun members => next <| environment.controllerUwb agent
      ((members.agentUwb agent).addCachedUwbNearObjectDevice alive deviceName).2

def extractCachedNearObjectDevice (agent : Agent) (deviceName : Name)
    (alive : ControllerUwb Name → Bool)
    (next : Option Controller → Program Agent Controller Name Session Content) :
    Program Agent Controller Name Session Content :=
  .critical (.nearObjectDeviceCache agent) .exclusive
    (fun members => { members with
      agentUwb := Function.update members.agentUwb agent
        ((members.agentUwb agent).extractCachedNearObjectDevice alive deviceName).1 })
    fun members => next <| ((members.agentUwb agent).extractCachedNearObjectDevice alive
      deviceName).2.map (environment.controllerUwb agent)

def onDeviceInterfaceNotification (agent : Agent) (action : NotifyAction) (symbolicLink : Name)
    (alive : ControllerUwb Name → Bool) (next : Program Agent Controller Name Session Content) :
    Program Agent Controller Name Session Content :=
  match action with
  | .deviceInterfaceArrival =>
    addCachedUwbNearObjectDevice environment agent symbolicLink alive fun controller =>
      devicePresenceChanged environment agent .arrived controller next
  | .deviceInterfaceRemoval =>
    extractCachedNearObjectDevice environment agent symbolicLink alive fun controller? =>
      match controller? with
      | some controller => devicePresenceChanged environment agent .departed controller next
      | none => next
  | .other => next

/-- The system notifies an agent that is registered. -/
def onDeviceInterfaceNotificationCallback (agent : Agent) (action : NotifyAction)
    (symbolicLink : Name) (alive : ControllerUwb Name → Bool)
    (next : Program Agent Controller Name Session Content) :
    Program Agent Controller Name Session Content :=
  .acquire (.notifications agent) .shared <| .act id fun members =>
    if members.registered agent then
      onDeviceInterfaceNotification environment agent action symbolicLink alive
        (.release (.notifications agent) next)
    else .release (.notifications agent) next

/-- `Probe`, with the controllers that it has found. -/
def probe (agent : Agent) (nearObjectDevices : List Controller) :
    List (DeviceInterface Name) → Program Agent Controller Name Session Content
  | [] => .ret (.devices nearObjectDevices)
  | ⟨deviceInterfaceName, alive⟩ :: later =>
    addCachedUwbNearObjectDevice environment agent deviceInterfaceName alive fun nearObjectDevice =>
      probe agent (nearObjectDevices ++ [nearObjectDevice]) later

/-- `ProbeAsync`: the task that it begins, `none` where the future is ready at once, without
devices. -/
def probeAsync (agent : Agent) (deviceInterfaces : List (DeviceInterface Name)) :
    Option (Program Agent Controller Name Session Content) :=
  match environment.agentClass agent with
  | .base => none
  | .uwbLinux => some (.ret (.devices []))
  | .uwbWindows => some (probe environment agent [] deviceInterfaces)

/-! ### Adding a discovery agent -/

def pushDiscoveryAgent (agent : Agent) (next : Program Agent Controller Name Session Content) :
    Program Agent Controller Name Session Content :=
  .critical .discoveryAgents .exclusive
    (fun members => { members with discoveryAgents := members.discoveryAgents ++ [agent] })
    fun _ => next

/-- The devices that the probe has returned are added one by one. -/
def addExistingDevices (existingDevices : Option (Result Controller Session))
    (next : Program Agent Controller Name Session Content) :
    Program Agent Controller Name Session Content :=
  match existingDevices with
  | some (.devices existingDevices) => existingDevices.foldr addDevice next
  | _ => next

def addDiscoveryAgent (agent : Agent) (spuriously : Bool)
    (deviceInterfaces : List (DeviceInterface Name)) (timeout : Bool)
    (next : Program Agent Controller Name Session Content) :
    Program Agent Controller Name Session Content :=
  registerDiscoveryEventCallback agent (some .manager) <| .act id fun members =>
    if members.started agent then
      match probeAsync environment agent deviceInterfaces with
      | some probe =>
        .spawn probe <| pushDiscoveryAgent agent <| .join fun existingDevices =>
          -- the wait returns `ready` when the probe has ended; after a timeout it is the destructor
          -- of the future that waits, and the devices are dropped
          if timeout then next else addExistingDevices existingDevices next
      | none => pushDiscoveryAgent agent next
    else start environment agent spuriously (pushDiscoveryAgent agent next)

/-- **The program of a call.** -/
def program : Operation Agent Controller Name Session Content →
    Program Agent Controller Name Session Content
  | .request request => perform environment request .ret
  | .registerDiscoveryEventCallback agent onDevicePresenceChanged =>
    registerDiscoveryEventCallback agent onDevicePresenceChanged (.ret .unit)
  | .devicePresenceChanged agent presence deviceChanged =>
    devicePresenceChanged environment agent presence deviceChanged (.ret .unit)
  | .isStarted agent => .act id fun members => .ret (.started (members.started agent))
  | .start agent spuriously => start environment agent spuriously (.ret .unit)
  | .stop agent spuriously => stop environment agent spuriously (.ret .unit)
  | .addDiscoveryAgent agent spuriously deviceInterfaces timeout =>
    addDiscoveryAgent environment agent spuriously deviceInterfaces timeout (.ret .unit)
  | .onDeviceInterfaceNotificationCallback agent action symbolicLink alive =>
    onDeviceInterfaceNotificationCallback environment agent action symbolicLink alive (.ret .unit)

/-- A state of the service, whose calls are on their way. -/
abbrev State (Thread Agent Controller Name Session Content : Type) :=
  Locking.State Thread (Gate Agent Controller) (Members Agent Controller Name Session Content)
    (Result Controller Session)

abbrev Label (Thread Agent Controller Name Session Content : Type) :=
  Locking.Label Thread (Operation Agent Controller Name Session Content)

/-- **One step of the service.** -/
abbrev Step {Thread : Type} [DecidableEq Thread] :
    State Thread Agent Controller Name Session Content →
      Label Thread Agent Controller Name Session Content →
      State Thread Agent Controller Name Session Content → Prop :=
  Locking.Step (program environment)

def init (Thread : Type) (members : Members Agent Controller Name Session Content) :
    State Thread Agent Controller Name Session Content :=
  Locking.init Thread (Gate Agent Controller) (Result Controller Session) members

end Programs

end NearObject.Service
