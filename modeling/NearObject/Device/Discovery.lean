/-
**From the list of the operating system to the devices of the manager.**

`AddDiscoveryAgent` of a UWB agent that has started: the agent takes from its cache a controller for
each device interface of the system, and the manager adds them one by one. An agent that has not
started is started, and a probe that is late is dropped. No notification is handled in between here;
`Device.Probe` has the interleavings.

* `after_arrivals` — what the probe finds is what arrivals of its names, handled one after another,
  would have added.
* `probeNames_again` — what has been found and still exists is found again, and the cache stays.
* `discovery_agrees` — from the buffer that the system fills to the list of the manager, and on to
  the notifications that follow.
-/

import NearObject.Device.Enumerator
import NearObject.Device.Tracking

namespace NearObject.Device

open Encoding

/-! ### The call -/

section Call

variable {Guid : Type}

/-- `AddDiscoveryAgent` of the agent: `held` are the controllers with other owners. -/
def State.addDiscoveryAgent (s : State WString) (started inTime : Bool)
    (held : ControllerUwb WString → Bool) (manager : ConfigurationManager Guid)
    (interfaceClassUwb : Guid) : Except Fault (State WString) :=
  if started then do
    let (agent, existingDevices) ← s.agent.probe (s.alive held) manager interfaceClassUwb
    let nearObjectDevices :=
      if inTime then existingDevices.foldl addDevice s.nearObjectDevices else s.nearObjectDevices
    return { agent, nearObjectDevices }
  else return s

end Call

/-- An arrival for each of the names. -/
def arrivals {Name : Type} (held : ControllerUwb Name → Bool) (names : List Name) :
    List (Notification Name) :=
  names.map fun name => ⟨.deviceInterfaceArrival, name, held⟩

/-! ### What the probe finds -/

section Probe

variable {s : State WString} {held alive : ControllerUwb WString → Bool}
  {agent : AgentUwb WString} {found : List (ControllerUwb WString)} {names : List WString}

theorem foldl_addDevice (devices found : List (ControllerUwb WString)) :
    found.foldl addDevice devices = devices ++ found := by
  induction found generalizing devices with
  | nil => exact (List.append_nil devices).symm
  | cons controller found ih =>
    rw [List.foldl_cons, addDevice_eq, ih, List.append_assoc, List.singleton_append]

/-- What the probe holds is as alive as what the manager has added. -/
theorem alive_append (devices : List (ControllerUwb WString)) :
    State.alive ⟨agent, devices ++ found⟩ held =
      fun controller => decide (controller ∈ found) || State.alive ⟨agent, devices⟩ held
        controller := by
  funext controller
  unfold State.alive
  rw [← Bool.or_assoc]
  congr 1
  rw [Bool.eq_iff_iff]
  simp [or_comm]

/-- **The probe is the arrivals of its names**, handled one after another. -/
theorem after_arrivals (agent : AgentUwb WString) (devices found : List (ControllerUwb WString)) :
    State.after ⟨agent, devices ++ found⟩ (arrivals held names) =
      ⟨(agent.probeNames (fun controller => decide (controller ∈ devices) || held controller) found
          names).1,
        devices ++ (agent.probeNames
          (fun controller => decide (controller ∈ devices) || held controller) found names).2⟩ := by
  induction names generalizing agent found with
  | nil => rfl
  | cons name names ih =>
    have first : State.onDeviceInterfaceNotification ⟨agent, devices ++ found⟩
        ⟨.deviceInterfaceArrival, name, held⟩ = _ := arrival_eq rfl
    rw [alive_append, List.append_assoc] at first
    unfold AgentUwb.probeNames
    rw [arrivals, List.map_cons, State.after, List.foldl_cons, first]
    exact ih _ _

/-- The agent keeps these controllers for their names. -/
def Kept (agent : AgentUwb WString) (devices : List (ControllerUwb WString)) : Prop :=
  ∀ controller ∈ devices, agent.nearObjectDeviceCache controller.deviceName = some controller

/-- A name that is looked up again leaves what exists in its place. -/
theorem Kept.addCached (kept : Kept agent found) (exist : ∀ controller ∈ found, alive controller)
    (name : WString) : Kept (agent.addCachedUwbNearObjectDevice alive name).1
      (found ++ [(agent.addCachedUwbNearObjectDevice alive name).2]) := by
  intro controller member
  rcases List.mem_append.mp member with member | member
  · have cached := kept controller member
    by_cases same : controller.deviceName = name
    · rw [same] at cached
      unfold AgentUwb.addCachedUwbNearObjectDevice
      simp only [cached, exist controller member, if_true, same]
    · rw [addCached_of_ne alive agent same]
      exact cached
  · rw [List.mem_singleton.mp member, addCached_deviceName]
    exact addCached_self alive agent name

/-- The probe leaves in the cache what it has found. -/
theorem kept_probeNames (kept : Kept agent found) :
    Kept (agent.probeNames alive found names).1 (agent.probeNames alive found names).2 := by
  induction names generalizing agent found with
  | nil => exact kept
  | cons name names ih =>
    unfold AgentUwb.probeNames
    exact ih (kept.addCached (fun controller member => by simp [member]) name)

/-- **What has been found and still exists is found again**, and the cache stays as it is. -/
theorem probeNames_again {devices : List (ControllerUwb WString)} (kept : Kept agent devices)
    (exist : ∀ controller ∈ devices, alive controller = true) :
    agent.probeNames alive found (devices.map ControllerUwb.deviceName) =
      (agent, found ++ devices) := by
  induction devices generalizing found with
  | nil => exact congrArg (Prod.mk agent) (List.append_nil found).symm
  | cons controller devices ih =>
    have cached := kept controller List.mem_cons_self
    have living := exist controller List.mem_cons_self
    have hit : agent.addCachedUwbNearObjectDevice
        (fun other => decide (other ∈ found) || alive other) controller.deviceName =
          (agent, controller) := by
      unfold AgentUwb.addCachedUwbNearObjectDevice
      simp only [cached, living, Bool.or_true, if_true]
    rw [List.map_cons]
    unfold AgentUwb.probeNames
    rw [hit]
    rw [List.append_cons]
    exact ih (fun other member => kept other (List.mem_cons_of_mem _ member))
      fun other member => exist other (List.mem_cons_of_mem _ member)

end Probe

/-! ### From the system to the manager -/

section Discovery

variable {Guid : Type} {s : State WString} {started inTime : Bool}
  {held : ControllerUwb WString → Bool} {manager : ConfigurationManager Guid} {guid : Guid}
  {names : List WString}

/-- The arrivals that a call of `AddDiscoveryAgent` stands for. -/
def heard (started inTime : Bool) (held : ControllerUwb WString → Bool) (names : List WString) :
    List (Notification WString) :=
  if started && inTime then arrivals held names else []

theorem probe_eq {alive : ControllerUwb WString → Bool} (agent : AgentUwb WString)
    (returns : getDeviceInterfaceClassInstanceNames manager guid = .ok names) :
    agent.probe alive manager guid = .ok (agent.probeNames alive [] names) := by
  rw [AgentUwb.probe, returns]
  rfl

/-- A probe in time is heard as arrivals. -/
theorem addDiscoveryAgent_probed
    (returns : getDeviceInterfaceClassInstanceNames manager guid = .ok names) :
    s.addDiscoveryAgent true true held manager guid = .ok (s.after (arrivals held names)) := by
  have found : State.after ⟨s.agent, s.nearObjectDevices ++ []⟩ (arrivals held names) = _ :=
    after_arrivals s.agent s.nearObjectDevices []
  rw [List.append_nil] at found
  unfold State.addDiscoveryAgent
  rw [if_pos rfl, probe_eq s.agent returns, found]
  simp only [bind, Except.bind, if_true, foldl_addDevice]
  rfl

/-- Otherwise the manager hears of no device. -/
theorem addDiscoveryAgent_unheard (unheard : (started && inTime) = false)
    (returns : getDeviceInterfaceClassInstanceNames manager guid = .ok names) :
    ∃ agent, s.addDiscoveryAgent started inTime held manager guid = .ok { s with agent } := by
  unfold State.addDiscoveryAgent
  cases started with
  | false => exact ⟨s.agent, rfl⟩
  | true =>
    cases inTime with
    | true => cases unheard
    | false =>
      rw [if_pos rfl, probe_eq s.agent returns]
      exact ⟨_, rfl⟩

/-- Arrivals add a controller for each name, which the agent keeps. -/
theorem arrivals_kept (s : State WString) (held : ControllerUwb WString → Bool)
    (names : List WString) : ∃ devices,
      (s.after (arrivals held names)).nearObjectDevices = s.nearObjectDevices ++ devices ∧
        devices.map ControllerUwb.deviceName = names ∧
        Kept (s.after (arrivals held names)).agent devices := by
  have found : State.after ⟨s.agent, s.nearObjectDevices ++ []⟩ (arrivals held names) = _ :=
    after_arrivals s.agent s.nearObjectDevices []
  rw [List.append_nil] at found
  rw [found]
  refine ⟨_, rfl, ?_, kept_probeNames fun controller member => absurd member List.not_mem_nil⟩
  rw [probeNames_deviceName, List.map_nil, List.nil_append]

/-- What the manager lists, the probe finds again. -/
theorem probe_again {devices early : List (ControllerUwb WString)} (kept : Kept s.agent devices)
    (listed : s.nearObjectDevices = early ++ devices)
    (returns : getDeviceInterfaceClassInstanceNames manager guid =
      .ok (devices.map ControllerUwb.deviceName)) :
    s.agent.probe (s.alive held) manager guid = .ok (s.agent, devices) := by
  have exist : ∀ controller ∈ devices, s.alive held controller = true := by
    intro controller member
    simp [State.alive, listed, member]
  rw [probe_eq s.agent returns, probeNames_again kept exist, List.nil_append]

/-- **From the list of the system to the devices of the manager.** A probe in time leaves the agent
and the manager as arrivals of the listed names would, handled one after another: with a controller
for each name, which every later probe finds again. A manager without devices then tracks what it
has heard of, and what it hears of later, for as long as the devices leave in the order in which it
heard of them; if the agent had not started, or the probe was late, the notifications alone. -/
theorem discovery_agrees (s : State WString) (started inTime : Bool)
    (held : ControllerUwb WString → Bool)
    (returns : getDeviceInterfaceClassInstanceNames manager guid = .ok names) :
    ∃ t, s.addDiscoveryAgent started inTime held manager guid = .ok t ∧
      t.nearObjectDevices = (s.after (heard started inTime held names)).nearObjectDevices ∧
      (started = true → inTime = true → t = s.after (arrivals held names) ∧ ∃ devices,
        t.nearObjectDevices = s.nearObjectDevices ++ devices ∧
          devices.map ControllerUwb.deviceName = names ∧ Kept t.agent devices ∧
          ∀ others, t.agent.probe (t.alive others) manager guid = .ok (t.agent, devices)) ∧
      (s.nearObjectDevices = [] → ∀ notifications,
        Valid (heard started inTime held names ++ notifications) →
          InOrder (heard started inTime held names ++ notifications) →
            Tracks (t.after notifications)
              (present (heard started inTime held names ++ notifications))) := by
  have tracks {agent : AgentUwb WString} {notifications : List (Notification WString)}
      (valid : Valid notifications) (inOrder : InOrder notifications) :
      Tracks (State.after ⟨agent, []⟩ notifications) (present notifications) :=
    (ordered_of_inOrder valid inOrder).tracks
  cases probed : started && inTime with
  | true =>
    obtain ⟨rfl, rfl⟩ := Bool.and_eq_true_iff.mp probed
    refine ⟨_, addDiscoveryAgent_probed returns, rfl, fun _ _ => ⟨rfl, ?_⟩, ?_⟩
    · obtain ⟨devices, listed, named, kept⟩ := arrivals_kept s held names
      refine ⟨devices, listed, named, kept, fun others => probe_again kept listed ?_⟩
      rw [named]
      exact returns
    · intro none notifications valid inOrder
      have joined : (s.after (arrivals held names)).after notifications =
          s.after (arrivals held names ++ notifications) := (List.foldl_append ..).symm
      obtain ⟨agent, devices⟩ := s
      obtain rfl : devices = [] := none
      rw [joined]
      exact tracks valid inOrder
  | false =>
    obtain ⟨agent, unheard⟩ : ∃ agent, s.addDiscoveryAgent started inTime held manager guid =
        .ok { s with agent } := addDiscoveryAgent_unheard probed returns
    have silent : heard started inTime held names = [] := by rw [heard, probed]; rfl
    refine ⟨_, unheard, ?_, fun begun ready => ?_, ?_⟩
    · rw [silent]
      rfl
    · rw [begun, ready] at probed
      cases probed
    · intro none notifications valid inOrder
      rw [silent] at valid inOrder ⊢
      rw [none]
      exact tracks valid inOrder

/-- The probe finds two devices, and the first one leaves. -/
theorem discovery_agrees_two_devices : ∃ t,
    State.addDiscoveryAgent ⟨.fresh WString, []⟩ true true (fun _ => false)
      (enumerating [[97, 98], [99]]) () = .ok t ∧
    t.nearObjectDevices = [⟨[97, 98], 0⟩, ⟨[99], 1⟩] ∧
    Tracks (t.after [.alone .deviceInterfaceRemoval [97, 98]]) [[99]] := by
  have listing : Listing 0 [[97, 98], [99]] [97, 98, 0, 99, 0, (0 : WChar)] :=
    listing_iff.mpr ⟨by decide, [], rfl⟩
  have returns := (@getNames_eq Unit (enumerating [[97, 98], [99]]) () 6
    (Vector.mk #[97, 98, 0, 99, 0, 0] rfl) (by decide) rfl rfl).trans
      (extractNames_eq_ok.mpr listing)
  obtain ⟨t, done, listed, -, tracks⟩ :=
    discovery_agrees ⟨.fresh WString, []⟩ true true (fun _ => false) returns
  refine ⟨t, done, listed, tracks rfl [.alone .deviceInterfaceRemoval [97, 98]] ?_ ?_⟩
  · refine along_append.mpr ⟨along_append.mpr ⟨along_append.mpr ⟨along_nil, ?_⟩, ?_⟩, ?_⟩ <;> decide
  · refine along_append.mpr ⟨along_append.mpr ⟨along_append.mpr ⟨along_nil, ?_⟩, ?_⟩, ?_⟩ <;> decide

end Discovery

end NearObject.Device
