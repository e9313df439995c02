/-
**`AddDiscoveryAgent` — the probe of a started agent, beside the agent's notifications.**

The call registers its callback, starts a probe of the devices that the agent has found already,
waits for it and adds its results one by one. The agent issues notifications meanwhile. Each is
handled under the lock of the device list, some time after it was issued and in any order with the
others. The lock is taken for each device, and not from the snapshot to the last of its results.

The state remembers all notices issued, which of them have been handled, and whether the probe had
taken its snapshot when each was issued. The code keeps none of that; it is what a property of
departures after the snapshot is about.

`Effect` sorts the steps by what they do to the device list and to the notices.
-/

import NearObject.Device.Manager
import NearObject.Transition.Run

namespace NearObject.Device.Probe

open Transition

/-! ### States and steps -/

/-- How far the call of `AddDiscoveryAgent` is. -/
inductive Adder (Device : Type)
  | notCalled
  | registered
  /-- The probe runs, and has not taken its snapshot. -/
  | probing
  /-- The wait for such a probe timed out; the destructor of the future waits on. -/
  | abandoned
  /-- The probe has taken its snapshot, and the call still waits for it. -/
  | probed (results : List Device)
  | adding (existingDevices : List Device)
  | returned
  deriving DecidableEq, Repr

/-- A notification of the agent. -/
structure Notice (Device : Type) where
  presence : NearObjectDevicePresence
  deviceChanged : Device
  /-- Issued after the snapshot. -/
  late : Bool
  deriving DecidableEq, Repr

/-- A notification on its way to the manager. -/
structure Delivery (Device : Type) extends Notice Device where
  handled : Bool
  deriving DecidableEq, Repr

structure State (Device : Type) where
  nearObjectDevices : List Device
  /-- The agent has the callback of the manager. -/
  callback : Bool
  started : Bool
  snapshotTaken : Bool
  adder : Adder Device
  /-- In the order in which they were issued. -/
  deliveries : List (Delivery Device)
  deriving Repr

inductive Label (Device : Type)
  /-- `RegisterDiscoveryEventCallback`. -/
  | register
  /-- `Start`, for an agent that has not started. -/
  | start
  /-- `ProbeAsync`, for an agent that has. -/
  | probeAsync
  /-- The probe reads the devices of the agent. -/
  | snapshot (results : List Device)
  /-- `wait_for` returns `ready`. -/
  | ready
  /-- `wait_for` returns `timeout`. -/
  | timeout
  /-- `AddDevice`, for the next of the existing devices. -/
  | add
  /-- The loop is over and the call returns. -/
  | finish
  /-- The agent issues a notification. -/
  | issue (presence : NearObjectDevicePresence) (deviceChanged : Device)
  /-- One of them is handled. -/
  | process (position : Nat)
  deriving DecidableEq, Repr

section Steps

variable {Device : Type}

/-- The devices that `AddDiscoveryAgent` has still to add. -/
def Adder.awaiting : Adder Device → List Device
  | .probed results => results
  | .adding existingDevices => existingDevices
  | _ => []

/-- The discovery event callback: `OnDevicePresenceChanged` once it is registered. -/
def State.devicePresenceChanged (deviceId : Device → UInt64) (s : State Device)
    (notice : Notice Device) : List Device :=
  if s.callback then
    onDevicePresenceChanged deviceId s.nearObjectDevices notice.presence notice.deviceChanged
  else s.nearObjectDevices

/-- The notification at this position is handled. -/
def State.handle (deviceId : Device → UInt64) (s : State Device) (position : Nat)
    (delivery : Delivery Device) : State Device :=
  { s with
    nearObjectDevices := s.devicePresenceChanged deviceId delivery.toNotice
    deliveries := s.deliveries.set position { delivery with handled := true } }

/-- One step of the call of `AddDiscoveryAgent`, of the probe or of the agent. -/
def next (deviceId : Device → UInt64) (s : State Device) : Label Device → Option (State Device)
  | .register => match s.adder with
    | .notCalled => some { s with callback := true, adder := .registered }
    | _ => none
  | .start => match s.adder, s.started with
    | .registered, false => some { s with started := true, adder := .returned }
    | _, _ => none
  | .probeAsync => match s.adder, s.started with
    | .registered, true => some { s with adder := .probing }
    | _, _ => none
  | .snapshot results => match s.adder with
    | .probing => some { s with snapshotTaken := true, adder := .probed results }
    | .abandoned => some { s with snapshotTaken := true, adder := .returned }
    | _ => none
  | .ready => match s.adder with
    | .probed results => some { s with adder := .adding results }
    | _ => none
  | .timeout => match s.adder with
    | .probing => some { s with adder := .abandoned }
    | .probed _ => some { s with adder := .returned }
    | _ => none
  | .add => match s.adder with
    | .adding (existingDevice :: existingDevices) => some { s with
        nearObjectDevices := addDevice s.nearObjectDevices existingDevice
        adder := .adding existingDevices }
    | _ => none
  | .finish => match s.adder with
    | .adding [] => some { s with adder := .returned }
    | _ => none
  | .issue presence deviceChanged =>
    if s.started then
      some { s with
        deliveries := s.deliveries ++ [⟨⟨presence, deviceChanged, s.snapshotTaken⟩, false⟩] }
    else none
  | .process position => match s.deliveries[position]? with
    | some delivery => if delivery.handled then none else some (s.handle deviceId position delivery)
    | none => none

/-- The transition system. -/
def Step (deviceId : Device → UInt64) : State Device → Label Device → State Device → Prop :=
  Next (next deviceId)

/-- The manager has some devices already, and the agent has started or not. -/
def init (nearObjectDevices : List Device) (started : Bool) : State Device where
  nearObjectDevices := nearObjectDevices
  callback := false
  started := started
  snapshotTaken := false
  adder := .notCalled
  deliveries := []

end Steps

/-! ### What is known of the call -/

section Sound

variable {Device : Type} {deviceId : Device → UInt64} {s t : State Device} {label : Label Device}

/-- The probe takes no snapshot any more. -/
def Adder.PastSnapshot : Adder Device → Prop
  | .probed _ | .adding _ | .returned => True
  | _ => False

/-- The callback is registered first, and the snapshot is taken once. -/
structure Sound (s : State Device) : Prop where
  callback : s.adder ≠ .notCalled → s.callback = true
  once : s.snapshotTaken = true → s.adder.PastSnapshot
  late : ∀ delivery ∈ s.deliveries, delivery.late = true → s.snapshotTaken = true

theorem sound_init (nearObjectDevices : List Device) (started : Bool) :
    Sound (init nearObjectDevices started) where
  callback := fun called => absurd rfl called
  once := fun taken => absurd taken Bool.false_ne_true
  late := fun _ member => absurd member List.not_mem_nil

theorem Sound.registered (sound : Sound s) (taken : s.snapshotTaken = true) :
    s.callback = true := by
  refine sound.callback fun notCalled => ?_
  have past := sound.once taken
  rw [notCalled] at past
  exact past

/-- **What a step can do**, by what happens to the device list and to the notices. -/
inductive Effect (deviceId : Device → UInt64) (s : State Device) :
    Label Device → State Device → Prop
  /-- A step of the call or of its probe. -/
  | internal {label : Label Device} {t : State Device}
      (silent : ∀ presence device, label ≠ .issue presence device)
      (handles : ∀ position, label ≠ .process position)
      (devices : t.nearObjectDevices = s.nearObjectDevices)
      (deliveries : t.deliveries = s.deliveries)
      (taken : s.snapshotTaken = true → t.snapshotTaken = true)
      (awaiting : s.snapshotTaken = true → t.adder.awaiting ⊆ s.adder.awaiting) :
      Effect deviceId s label t
  | add (device : Device) (rest : List Device) (adding : s.adder = .adding (device :: rest)) :
      Effect deviceId s .add
        { s with nearObjectDevices := s.nearObjectDevices ++ [device], adder := .adding rest }
  | issue (presence : NearObjectDevicePresence) (device : Device) :
      Effect deviceId s (.issue presence device)
        { s with deliveries := s.deliveries ++ [⟨⟨presence, device, s.snapshotTaken⟩, false⟩] }
  | process (position : Nat) (delivery : Delivery Device)
      (issued : s.deliveries[position]? = some delivery) (unhandled : delivery.handled = false) :
      Effect deviceId s (.process position) (s.handle deviceId position delivery)

theorem effect_of_step (sound : Sound s) (taken : Step deviceId s label t) :
    Effect deviceId s label t := by
  have once := sound.once
  simp only [Step, Next] at taken
  cases label with
  | issue presence device =>
    obtain ⟨-, taken⟩ := Option.ite_none_right_eq_some.mp taken
    obtain rfl := Option.some.inj taken
    exact .issue presence device
  | process position =>
    simp only [next] at taken
    split at taken
    · rename_i delivery issued
      obtain ⟨unhandled, taken⟩ := Option.ite_none_left_eq_some.mp taken
      obtain rfl := Option.some.inj taken
      exact .process position delivery issued (Bool.not_eq_true _ ▸ unhandled)
    · cases taken
  | add =>
    simp only [next] at taken
    split at taken
    · rename_i device rest adding
      obtain rfl := Option.some.inj taken
      rw [addDevice_eq]
      exact .add device rest adding
    · cases taken
  | _ =>
    simp only [next] at taken
    split at taken <;> cases taken
    all_goals
      rename_i here
      refine .internal (fun _ _ same => by cases same) (fun _ same => by cases same) rfl rfl
        (by simp) fun snapshot => ?_
      simp_all [Adder.awaiting, Adder.PastSnapshot]

theorem sound_step (sound : Sound s) (taken : Step deviceId s label t) : Sound t := by
  obtain ⟨callback, once, late⟩ := sound
  cases effect_of_step ⟨callback, once, late⟩ taken with
  | internal silent handles _ same snapshot _ =>
    constructor
    case late =>
      intro delivery member isLate
      rw [same] at member
      exact snapshot (late delivery member isLate)
    all_goals
      clear late snapshot same
      simp only [Step, Next] at taken
      cases label with
      | issue presence device => exact absurd rfl (silent presence device)
      | process position => exact absurd rfl (handles position)
      | _ =>
        simp only [next] at taken
        split at taken <;> cases taken <;> simp_all [Adder.PastSnapshot]
  | add device rest adding =>
    rw [adding] at callback
    exact ⟨fun _ => callback (by simp), fun _ => trivial, late⟩
  | issue presence device =>
    refine ⟨callback, once, fun delivery member isLate => ?_⟩
    rcases List.mem_append.mp member with member | member
    · exact late delivery member isLate
    · rw [List.mem_singleton.mp member] at isLate
      exact isLate
  | process position delivery issued =>
    refine ⟨callback, once, fun other member isLate => ?_⟩
    rcases List.mem_or_eq_of_mem_set member with member | rfl
    · exact late other member isLate
    · exact late delivery (List.mem_of_getElem? issued) isLate

theorem sound_of_run {nearObjectDevices : List Device} {started : Bool}
    {trace : List (Label Device)}
    (run : Run (Step deviceId) (init nearObjectDevices started) trace s) : Sound s :=
  run.invariant Sound (sound_init nearObjectDevices started) fun _ _ _ => sound_step

/-! The steps that can be taken once the snapshot is -/

theorem step_process {position : Nat} {delivery : Delivery Device}
    (issued : s.deliveries[position]? = some delivery) (unhandled : delivery.handled = false) :
    Step deviceId s (.process position) (s.handle deviceId position delivery) := by
  rw [Step, Next, next, issued]
  exact if_neg (by simp [unhandled])

theorem step_ready {results : List Device} (probed : s.adder = .probed results) :
    Step deviceId s .ready { s with adder := .adding results } := by
  rw [Step, Next, next, probed]

theorem step_add {device : Device} {rest : List Device}
    (adding : s.adder = .adding (device :: rest)) :
    Step deviceId s .add
      { s with nearObjectDevices := s.nearObjectDevices ++ [device], adder := .adding rest } := by
  rw [Step, Next, next, adding, ← addDevice_eq]

theorem step_finish (adding : s.adder = .adding []) :
    Step deviceId s .finish { s with adder := .returned } := by
  rw [Step, Next, next, adding]

end Sound

end NearObject.Device.Probe
