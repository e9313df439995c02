/-
**`NearObjectDeviceDiscoveryAgentUwb` — the device cache and the notifications of the system.**

The agent keeps a weak pointer to one controller for each device name. Which controllers still exist
is decided by their owners, so that the operations of the cache take a predicate for it. A
controller is known by its name and by when it was created; every UWB controller has the same
`Id()`.

The manager has registered with the agent, and owns the controllers of its device list. A
notification runs through the agent's cache into that list; other owners may hold any controllers
meanwhile.
-/

import NearObject.Device.Manager
import Mathlib.Logic.Function.Basic

namespace NearObject.Device

variable {Name : Type}

/-- `NearObjectDeviceControllerUwb`, by the name of its device and the order of its creation. -/
structure ControllerUwb (Name : Type) where
  deviceName : Name
  serial : Nat
  deriving DecidableEq, Repr

def deviceIdFallback : UInt64 := 0x1234

/-- `Id()` of a UWB controller. -/
def ControllerUwb.id (_ : ControllerUwb Name) : UInt64 :=
  deviceIdFallback

/-- Every two UWB controllers compare equal. -/
theorem sameDevice_uwb (lhs rhs : ControllerUwb Name) :
    sameDevice ControllerUwb.id lhs rhs = true :=
  beq_self_eq_true deviceIdFallback

/-! ### The cache -/

/-- `m_nearObjectDeviceCache`, and how many controllers have been created. Each entry is a
controller that was created for its name. -/
structure AgentUwb (Name : Type) where
  nearObjectDeviceCache : Name → Option (ControllerUwb Name)
  created : Nat
  named : ∀ name controller, nearObjectDeviceCache name = some controller →
    controller.deviceName = name ∧ controller.serial < created

/-- An agent that has seen no device. -/
def AgentUwb.fresh (Name : Type) : AgentUwb Name where
  nearObjectDeviceCache := fun _ => none
  created := 0
  named := by simp

section Cache

variable [DecidableEq Name] (alive : ControllerUwb Name → Bool) (agent : AgentUwb Name)
  (deviceName : Name)

/-- `m_nearObjectDeviceCache.erase`. -/
def AgentUwb.erase : AgentUwb Name where
  nearObjectDeviceCache := Function.update agent.nearObjectDeviceCache deviceName none
  created := agent.created
  named := by
    intro name controller found
    by_cases same : name = deviceName
    · rw [same, Function.update_self] at found
      cases found
    · rw [Function.update_of_ne same] at found
      exact agent.named name controller found

/-- `CreateNearObjectUwbDevice`, and the new entry in the cache. -/
def AgentUwb.create : AgentUwb Name × ControllerUwb Name :=
  ({ nearObjectDeviceCache :=
      Function.update agent.nearObjectDeviceCache deviceName (some ⟨deviceName, agent.created⟩)
     created := agent.created + 1
     named := by
      intro name controller found
      by_cases same : name = deviceName
      · rw [same, Function.update_self] at found
        obtain rfl := Option.some.inj found
        exact ⟨same.symm, Nat.lt_succ_self _⟩
      · rw [Function.update_of_ne same] at found
        exact (agent.named name controller found).imp id Nat.lt_succ_of_lt },
    ⟨deviceName, agent.created⟩)

/-- `AddCachedUwbNearObjectDevice`. -/
def AgentUwb.addCachedUwbNearObjectDevice : AgentUwb Name × ControllerUwb Name :=
  match agent.nearObjectDeviceCache deviceName with
  | some nearObjectDeviceWeak =>
    if alive nearObjectDeviceWeak then (agent, nearObjectDeviceWeak)
    else (agent.erase deviceName).create deviceName
  | none => agent.create deviceName

/-- `ExtractCachedNearObjectDevice`. -/
def AgentUwb.extractCachedNearObjectDevice : AgentUwb Name × Option (ControllerUwb Name) :=
  (agent.erase deviceName, (agent.nearObjectDeviceCache deviceName).filter alive)

/-! What the operations do to the cache -/

variable {deviceName} in
theorem erase_of_ne {name : Name} (different : name ≠ deviceName) :
    (agent.erase deviceName).nearObjectDeviceCache name = agent.nearObjectDeviceCache name :=
  Function.update_of_ne different ..

@[simp] theorem create_self :
    (agent.create deviceName).1.nearObjectDeviceCache deviceName =
      some (agent.create deviceName).2 :=
  Function.update_self ..

variable {deviceName} in
theorem create_of_ne {name : Name} (different : name ≠ deviceName) :
    (agent.create deviceName).1.nearObjectDeviceCache name = agent.nearObjectDeviceCache name :=
  Function.update_of_ne different ..

/-- The controller that is returned is the one in the cache. -/
theorem addCached_self :
    (agent.addCachedUwbNearObjectDevice alive deviceName).1.nearObjectDeviceCache deviceName =
      some (agent.addCachedUwbNearObjectDevice alive deviceName).2 := by
  unfold AgentUwb.addCachedUwbNearObjectDevice
  split
  · rename_i found
    split
    · exact found
    · exact create_self _ deviceName
  · exact create_self agent deviceName

variable {deviceName} in
/-- The entries of the other names stay. -/
theorem addCached_of_ne {name : Name} (different : name ≠ deviceName) :
    (agent.addCachedUwbNearObjectDevice alive deviceName).1.nearObjectDeviceCache name =
      agent.nearObjectDeviceCache name := by
  unfold AgentUwb.addCachedUwbNearObjectDevice
  split
  · split
    · rfl
    · rw [create_of_ne _ different, erase_of_ne _ different]
  · exact create_of_ne agent different

/-- The controller that is returned was created for the name. -/
theorem addCached_deviceName :
    (agent.addCachedUwbNearObjectDevice alive deviceName).2.deviceName = deviceName :=
  (AgentUwb.named _ _ _ (addCached_self alive agent deviceName)).1

end Cache

/-! ### Notifications -/

/-- `CM_NOTIFY_ACTION`. -/
inductive NotifyAction
  | deviceInterfaceArrival
  | deviceInterfaceRemoval
  | other
  deriving DecidableEq, Repr

/-- A notification for a device interface, with the controllers that have owners outside the manager
while it is handled. -/
structure Notification (Name : Type) where
  action : NotifyAction
  symbolicLink : Name
  held : ControllerUwb Name → Bool

/-- The agent, and the device list of the manager. -/
structure State (Name : Type) where
  agent : AgentUwb Name
  nearObjectDevices : List (ControllerUwb Name)

section Notifications

variable [DecidableEq Name]

/-- `weak_ptr::lock` succeeds: the manager or somebody else owns the controller. -/
def State.alive (s : State Name) (held : ControllerUwb Name → Bool)
    (controller : ControllerUwb Name) : Bool :=
  decide (controller ∈ s.nearObjectDevices) || held controller

/-- `DevicePresenceChanged`, with the callback that `AddDiscoveryAgent` registered. -/
def devicePresenceChanged (nearObjectDevices : List (ControllerUwb Name))
    (presence : NearObjectDevicePresence) (deviceChanged : ControllerUwb Name) :
    List (ControllerUwb Name) :=
  onDevicePresenceChanged ControllerUwb.id nearObjectDevices presence deviceChanged

/-- `OnDeviceInterfaceNotification`. -/
def State.onDeviceInterfaceNotification (s : State Name) (notification : Notification Name) :
    State Name :=
  match notification.action with
  | .deviceInterfaceArrival =>
    let (agent, nearObjectDeviceControllerUwb) := s.agent.addCachedUwbNearObjectDevice
      (s.alive notification.held) notification.symbolicLink
    { agent, nearObjectDevices :=
        devicePresenceChanged s.nearObjectDevices .arrived nearObjectDeviceControllerUwb }
  | .deviceInterfaceRemoval =>
    let (agent, nearObjectDeviceControllerUwb) := s.agent.extractCachedNearObjectDevice
      (s.alive notification.held) notification.symbolicLink
    match nearObjectDeviceControllerUwb with
    | some nearObjectDeviceControllerUwb =>
      { agent, nearObjectDevices :=
          devicePresenceChanged s.nearObjectDevices .departed nearObjectDeviceControllerUwb }
    | none => { s with agent }
  | .other => s

/-- The notifications, handled one after another. -/
def State.after (s : State Name) (notifications : List (Notification Name)) : State Name :=
  notifications.foldl State.onDeviceInterfaceNotification s

end Notifications

end NearObject.Device
