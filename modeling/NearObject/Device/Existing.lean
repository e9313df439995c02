/-
**`AddDiscoveryAgent` — the existing devices, in the two branches.**

For an agent that has started, `AddDiscoveryAgent` adds the results of a probe; for one that has
not, it calls `Start`, which only registers for notifications. Both branches are compared for the
same devices that a probe would report, in time, and the same notifications, all of them arrivals.

`members_of_run` says which devices are listed when the call has returned; from it,
`existing_devices_iff`: the branch that starts the agent lists its existing devices, and the same
devices as the other branch, exactly where each of them is listed already or arrives.
-/

import NearObject.Device.Probe

namespace NearObject.Device.Probe

open Transition

section Observations

variable {Device : Type}

/-- The devices of the notifications, in the order in which they were issued. -/
def issued (trace : List (Label Device)) : List Device :=
  trace.filterMap fun
    | .issue _ deviceChanged => some deviceChanged
    | _ => none

/-- A notification about the device is handled after the callback is registered. -/
def Arrives (trace : List (Label Device)) (device : Device) : Prop :=
  ∃ before after position, trace = before ++ .process position :: after ∧ .register ∈ before ∧
    (issued before)[position]? = some device

theorem issued_append (first second : List (Label Device)) :
    issued (first ++ second) = issued first ++ issued second :=
  List.filterMap_append

theorem arrives_snoc {trace : List (Label Device)} {label : Label Device} {device : Device} :
    Arrives (trace ++ [label]) device ↔ Arrives trace device ∨
      ∃ position, label = .process position ∧ .register ∈ trace ∧
        (issued trace)[position]? = some device := by
  constructor
  · rintro ⟨before, after, position, same, registered, here⟩
    rcases snoc_eq_split.mp same with ⟨rfl, last, -⟩ | ⟨rest, -, rfl⟩
    · exact .inr ⟨position, last.symm, registered, here⟩
    · exact .inl ⟨before, rest, position, rfl, registered, here⟩
  · rintro (⟨before, after, position, rfl, registered, here⟩ | ⟨position, rfl, registered, here⟩)
    · exact ⟨before, after ++ [label], position, by simp, registered, here⟩
    · exact ⟨trace, [], position, rfl, registered, here⟩

/-- The probe reports the existing devices and in time, and all notifications are arrivals. -/
def InTime (existing : List Device) : Label Device → Prop
  | .snapshot results => results = existing
  | .issue presence _ => presence = .arrived
  | .timeout => False
  | _ => True

instance [DecidableEq Device] (existing : List Device) :
    ∀ label : Label Device, Decidable (InTime existing label)
  | .snapshot results => inferInstanceAs (Decidable (results = existing))
  | .issue presence _ => inferInstanceAs (Decidable (presence = .arrived))
  | .timeout => isFalse id
  | .register | .start | .probeAsync | .ready | .add | .finish | .process _ => isTrue trivial

/-- How far the call is, and which of the existing devices it has added. -/
inductive Progress (existing : List Device) (started : Bool) : Adder Device → List Device → Prop
  | notCalled : Progress existing started .notCalled []
  | registered : Progress existing started .registered []
  | probing (probes : started = true) : Progress existing started .probing []
  | probed (probes : started = true) : Progress existing started (.probed existing) []
  | adding (probes : started = true) (added rest : List Device) (parts : existing = added ++ rest) :
      Progress existing started (.adding rest) added
  | probeReturned (probes : started = true) : Progress existing started .returned existing
  | startReturned (starts : started = false) : Progress existing started .returned []

end Observations

section

variable {Device : Type} {deviceId : Device → UInt64} {devices existing added : List Device}
  {started : Bool} {trace : List (Label Device)} {s t : State Device} {label : Label Device}

/-- The device list, by what the call has added and what has arrived. -/
structure Tracks (devices existing : List Device) (started : Bool) (trace : List (Label Device))
    (s : State Device) (added : List Device) : Prop where
  progress : Progress existing started s.adder added
  branch : s.adder = .notCalled ∨ s.adder = .registered → s.started = started
  callback : s.callback = true ↔ .register ∈ trace
  issues : s.deliveries.map (fun delivery => delivery.deviceChanged) = issued trace
  arrivals : ∀ delivery ∈ s.deliveries, delivery.presence = .arrived
  members : ∀ device, device ∈ s.nearObjectDevices ↔
    device ∈ devices ∨ Arrives trace device ∨ device ∈ added

theorem tracks_init : Tracks devices existing started [] (init devices started) [] where
  progress := .notCalled
  branch := fun _ => rfl
  callback := by simp [init]
  issues := rfl
  arrivals := fun _ member => absurd member List.not_mem_nil
  members := fun device => by simp [init, Arrives]

/-- A step of the call that leaves the device list and the notifications. -/
theorem Tracks.moves {later : List Device} (tracks : Tracks devices existing started trace s added)
    (progress : Progress existing started t.adder later)
    (branch : t.adder = .notCalled ∨ t.adder = .registered → t.started = started)
    (callback : t.callback = true ↔ .register ∈ trace ++ [label])
    (silent : issued [label] = []) (handles : ∀ position, label ≠ .process position)
    (deliveries : t.deliveries = s.deliveries)
    (members : ∀ device, device ∈ t.nearObjectDevices ↔
      device ∈ devices ∨ Arrives trace device ∨ device ∈ later) :
    Tracks devices existing started (trace ++ [label]) t later where
  progress := progress
  branch := branch
  callback := callback
  issues := by rw [deliveries, tracks.issues, issued_append, silent, List.append_nil]
  arrivals := by
    rw [deliveries]
    exact tracks.arrivals
  members := by
    intro device
    rw [members, arrives_snoc]
    simp [handles]

/-- **The steps of the call**, by how far it is. -/
inductive CallStep (s : State Device) : Label Device → State Device → Prop
  | register (here : s.adder = .notCalled) :
      CallStep s .register { s with callback := true, adder := .registered }
  | start (here : s.adder = .registered) (fresh : s.started = false) :
      CallStep s .start { s with started := true, adder := .returned }
  | probeAsync (here : s.adder = .registered) (running : s.started = true) :
      CallStep s .probeAsync { s with adder := .probing }
  | snapshot (results : List Device) (here : s.adder = .probing) :
      CallStep s (.snapshot results) { s with snapshotTaken := true, adder := .probed results }
  | lateSnapshot (results : List Device) (here : s.adder = .abandoned) :
      CallStep s (.snapshot results) { s with snapshotTaken := true, adder := .returned }
  | ready (results : List Device) (here : s.adder = .probed results) :
      CallStep s .ready { s with adder := .adding results }
  | timeout (here : s.adder = .probing) : CallStep s .timeout { s with adder := .abandoned }
  | timeoutProbed (results : List Device) (here : s.adder = .probed results) :
      CallStep s .timeout { s with adder := .returned }
  | add (device : Device) (rest : List Device) (here : s.adder = .adding (device :: rest)) :
      CallStep s .add { s with
        nearObjectDevices := addDevice s.nearObjectDevices device
        adder := .adding rest }
  | finish (here : s.adder = .adding []) : CallStep s .finish { s with adder := .returned }

theorem call_of_step (taken : Step deviceId s label t)
    (silent : ∀ presence device, label ≠ .issue presence device)
    (handles : ∀ position, label ≠ .process position) : CallStep s label t := by
  simp only [Step, Next] at taken
  cases label with
  | issue presence device => exact absurd rfl (silent presence device)
  | process position => exact absurd rfl (handles position)
  | _ =>
    simp only [next] at taken
    split at taken <;> cases taken
    all_goals
      constructor
      all_goals assumption

theorem tracks_issue {presence : NearObjectDevicePresence} {device : Device}
    (tracks : Tracks devices existing started trace s added) (arrives : presence = .arrived)
    (taken : Step deviceId s (.issue presence device) t) :
    Tracks devices existing started (trace ++ [.issue presence device]) t added := by
  obtain ⟨-, rfl⟩ := Option.ite_some_none_eq_some.mp taken
  refine ⟨tracks.progress, tracks.branch, ?_, ?_, fun delivery member => ?_, fun other => ?_⟩
  · simpa using tracks.callback
  · rw [List.map_append, tracks.issues, issued_append]
    rfl
  · rcases List.mem_append.mp member with member | member
    · exact tracks.arrivals delivery member
    · rw [List.mem_singleton.mp member]
      exact arrives
  · rw [tracks.members, arrives_snoc]
    simp

theorem tracks_process {position : Nat} (sound : Sound s)
    (tracks : Tracks devices existing started trace s added)
    (taken : Step deviceId s (.process position) t) :
    Tracks devices existing started (trace ++ [.process position]) t added := by
  cases effect_of_step sound taken with
  | internal _ handles => exact absurd rfl (handles position)
  | process position delivery here unhandled =>
    have issuedHere : (issued trace)[position]? = some delivery.deviceChanged := by
      rw [← tracks.issues, List.getElem?_map, here]
      rfl
    have arrived := tracks.arrivals delivery (List.mem_of_getElem? here)
    refine ⟨tracks.progress, tracks.branch, ?_, ?_, fun other member => ?_, fun device => ?_⟩
    · simpa [State.handle] using tracks.callback
    · rw [issued_append, show issued [Label.process position] = ([] : List Device) from rfl,
        List.append_nil, ← tracks.issues]
      show (s.deliveries.set position { delivery with handled := true }).map _ = _
      rw [List.map_set]
      apply List.ext_getElem?
      intro other
      rw [List.getElem?_set]
      split
      · rename_i same
        subst same
        simp [List.getElem?_eq_some_iff.mp here |>.1, (List.getElem?_eq_some_iff.mp here).2]
      · rfl
    · rcases List.mem_or_eq_of_mem_set member with member | rfl
      · exact tracks.arrivals other member
      · exact arrived
    · rw [arrives_snoc]
      show device ∈ s.devicePresenceChanged deviceId delivery.toNotice ↔ _
      unfold State.devicePresenceChanged
      by_cases registered : s.callback = true
      · rw [if_pos registered, arrived, onDevicePresenceChanged, addDevice_eq, List.mem_append,
          tracks.members, List.mem_singleton]
        have here := tracks.callback.mp registered
        constructor
        · rintro ((listed | arrives | adds) | rfl)
          · exact .inl listed
          · exact .inr (.inl (.inl arrives))
          · exact .inr (.inr adds)
          · exact .inr (.inl (.inr ⟨position, rfl, here, issuedHere⟩))
        · rintro (listed | (arrives | ⟨other, same, -, now⟩) | adds)
          · exact .inl (.inl listed)
          · exact .inl (.inr (.inl arrives))
          · obtain rfl := Label.process.inj same
            exact .inr (Option.some.inj (now.symm.trans issuedHere))
          · exact .inl (.inr (.inr adds))
      · have unregistered : .register ∉ trace := fun member =>
          registered (tracks.callback.mpr member)
        rw [if_neg registered, tracks.members]
        simp [unregistered]

/-- **What one step adds.** -/
theorem tracks_step (sound : Sound s) (tracks : Tracks devices existing started trace s added)
    (inTime : InTime existing label) (taken : Step deviceId s label t) :
    ∃ added, Tracks devices existing started (trace ++ [label]) t added := by
  by_cases notifies : ∃ presence device, label = .issue presence device
  · obtain ⟨presence, device, rfl⟩ := notifies
    exact ⟨added, tracks_issue tracks inTime taken⟩
  by_cases handles : ∃ position, label = .process position
  · obtain ⟨position, rfl⟩ := handles
    exact ⟨added, tracks_process sound tracks taken⟩
  have progress := tracks.progress
  have branch := tracks.branch
  have members := tracks.members
  have callback := tracks.callback
  cases call_of_step taken (fun presence device same => notifies ⟨presence, device, same⟩)
      fun position same => handles ⟨position, same⟩ with
  | register here =>
    rw [here] at progress
    cases progress
    exact ⟨[], tracks.moves .registered (fun _ => branch (.inl here)) (by simp) rfl (by simp) rfl
      members⟩
  | start here fresh =>
    rw [here] at progress
    cases progress
    have starts : started = false := (branch (.inr here)).symm.trans fresh
    exact ⟨[], tracks.moves (.startReturned starts) (by simp) (by simpa using callback) rfl
      (by simp) rfl members⟩
  | probeAsync here running =>
    rw [here] at progress
    cases progress
    have probes : started = true := (branch (.inr here)).symm.trans running
    exact ⟨[], tracks.moves (.probing probes) (by simp) (by simpa using callback) rfl (by simp) rfl
      members⟩
  | snapshot results here =>
    obtain rfl : results = existing := inTime
    rw [here] at progress
    cases progress with
    | probing probes =>
      exact ⟨[], tracks.moves (.probed probes) (by simp) (by simpa using callback) rfl (by simp) rfl
        members⟩
  | lateSnapshot results here =>
    rw [here] at progress
    cases progress
  | ready results here =>
    rw [here] at progress
    cases progress with
    | probed probes =>
      exact ⟨[], tracks.moves (.adding probes [] existing rfl) (by simp) (by simpa using callback)
        rfl (by simp) rfl members⟩
  | timeout => cases inTime
  | timeoutProbed => cases inTime
  | add device rest here =>
    rw [here] at progress
    cases progress with
    | adding probes _ _ parts =>
      refine ⟨added ++ [device], tracks.moves (.adding probes _ rest (by simp [parts])) (by simp)
        (by simpa using callback) rfl (by simp) rfl fun other => ?_⟩
      simp only [addDevice_eq, List.mem_append, members, or_assoc]
  | finish here =>
    rw [here] at progress
    cases progress with
    | adding probes _ _ parts =>
      rw [List.append_nil] at parts
      subst parts
      exact ⟨existing, tracks.moves (.probeReturned probes) (by simp) (by simpa using callback) rfl
        (by simp) rfl members⟩

/-! ### Whole runs -/

/-- The steps of a run with these existing devices, and no departure. -/
abbrev InTimeStep (deviceId : Device → UInt64) (existing : List Device) :
    State Device → Label Device → State Device → Prop :=
  Restrict (Step deviceId) fun _ label => InTime existing label

/-- **The devices listed when the call has returned.** -/
theorem members_of_run (run : Run (InTimeStep deviceId existing) (init devices started) trace s)
    (returned : s.adder = .returned) (device : Device) :
    device ∈ s.nearObjectDevices ↔
      device ∈ devices ∨ Arrives trace device ∨ (started = true ∧ device ∈ existing) := by
  obtain ⟨added, tracks⟩ : ∃ added, Tracks devices existing started trace s added := by
    refine run.history (fun trace s => ∃ added, Tracks devices existing started trace s added)
      ⟨[], tracks_init⟩ ?_
    rintro sofar s label t before ⟨added, tracks⟩ ⟨inTime, taken⟩
    exact tracks_step (sound_of_run before.unrestrict) tracks inTime taken
  have progress := tracks.progress
  rw [returned] at progress
  rw [tracks.members]
  cases progress with
  | probeReturned probes => simp [probes]
  | startReturned starts => simp [starts]

/-- **Adding an agent finds its existing devices exactly where it has started, or they are listed or
arrive**; and the two branches list the same devices, for the same arrivals, exactly in the second
case. -/
theorem existing_devices_iff
    (run : Run (InTimeStep deviceId existing) (init devices started) trace s)
    (returned : s.adder = .returned) :
    ((∀ device ∈ existing, device ∈ s.nearObjectDevices) ↔
      started = true ∨ ∀ device ∈ existing, device ∈ devices ∨ Arrives trace device) ∧
    ∀ {trace' t}, Run (InTimeStep deviceId existing) (init devices (!started)) trace' t →
      t.adder = .returned → (∀ device, Arrives trace' device ↔ Arrives trace device) →
      ((∀ device, device ∈ s.nearObjectDevices ↔ device ∈ t.nearObjectDevices) ↔
        ∀ device ∈ existing, device ∈ devices ∨ Arrives trace device) := by
  have members := members_of_run run returned
  constructor
  · constructor
    · intro finds
      by_cases probes : started = true
      · exact .inl probes
      · refine .inr fun device member => ?_
        simpa [probes] using (members device).mp (finds device member)
    · rintro (probes | listed) device member
      · exact (members device).mpr (.inr (.inr ⟨probes, member⟩))
      · exact (members device).mpr ((listed device member).imp_right .inl)
  · intro trace' t other otherReturned arrivals
    have others := members_of_run other otherReturned
    constructor
    · intro same device member
      have both := same device
      rw [members, others, arrivals] at both
      cases started with
      | true => simpa [member] using both
      | false => simpa [member] using both
    · intro listed device
      rw [members, others, arrivals]
      by_cases member : device ∈ existing
      · rcases listed device member with here | arrives
        · simp [here]
        · simp [arrives]
      · simp [member]

/-- The agent is started, and its existing device arrives. -/
theorem existing_devices_arrived :
    ∃ s : State UInt64, Run (InTimeStep id [7]) (init [3] false)
        [.register, .start, .issue .arrived 7, .process 0] s ∧ s.adder = .returned ∧
      ∀ device ∈ [7], device ∈ s.nearObjectDevices := by
  have run : Run (InTimeStep id [7]) (init [3] false)
      [.register, .start, .issue .arrived (7 : UInt64), .process 0] _ := run_of_execute_guarded rfl
  refine ⟨_, run, rfl, (existing_devices_iff run rfl).1.mpr (.inr fun device member => .inr ?_)⟩
  obtain rfl := List.mem_singleton.mp member
  exact ⟨[.register, .start, .issue .arrived 7], [], 0, rfl, by simp, rfl⟩

/-- The same device is there in both branches; the one that starts the agent does not find it. -/
theorem existing_device_missed :
    (∃ s : State UInt64, Run (InTimeStep id [7]) (init [] false) [.register, .start] s ∧
      s.adder = .returned ∧ 7 ∉ s.nearObjectDevices) ∧
    ∃ s : State UInt64, Run (InTimeStep id [7]) (init [] true)
        [.register, .probeAsync, .snapshot [7], .ready, .add, .finish] s ∧
      s.adder = .returned ∧ s.nearObjectDevices = [7] :=
  ⟨⟨_, run_of_execute_guarded rfl, rfl, List.not_mem_nil⟩,
    ⟨_, run_of_execute_guarded rfl, rfl, rfl⟩⟩

end

end NearObject.Device.Probe
