/-
**What the gates of the service guard.**

Each gate of the source stands before one member (`guards`), which the calls change under that gate
only (`protects_program`). The flags of an agent and the file have no gate.

* `members_guarded` — a step that changes what a gate guards is one of the only caller or probe that
  holds the gate: the callback of an agent is the registered one for as long as it runs.
-/

import NearObject.Service.Completion

set_option linter.unusedSectionVars false

namespace NearObject.Service

open Transition
open Transition.Locking (Protects)
open NearObject.Device (NearObjectDevicePresence NotifyAction AgentUwb ControllerUwb)
open NearObject.Profile (NearObjectProfile ProfileLifetime)

/-- The member behind a gate. -/
inductive Member (Agent Controller Name Session Content : Type)
  /-- No member, but notifications under way. -/
  | none
  | onDevicePresenceChanged (callback : Option (Callback Controller Session Content))
  | nearObjectDeviceCache (agentUwb : AgentUwb Name)
  | discoveryAgents (discoveryAgents : List Agent)
  | nearObjectDevices (nearObjectDevices : List Controller)
  | profiles (profiles : List NearObjectProfile)
  | sessions (sessions : List Session)

section Guards

variable {Agent Controller Name Session Content Double : Type} [DecidableEq Agent]
  [DecidableEq Controller] [DecidableEq Name]
  {environment : Environment Agent Controller Name Content Double} {gate : Gate Agent Controller}
  {owned : Prop} {agent : Agent} {next : Program Agent Controller Name Session Content}

/-- What a gate guards. -/
def guards (gate : Gate Agent Controller)
    (members : Members Agent Controller Name Session Content) :
    Member Agent Controller Name Session Content :=
  match gate with
  | .notifications _ => .none
  | .onDevicePresenceChanged agent =>
    .onDevicePresenceChanged (members.onDevicePresenceChanged agent)
  | .nearObjectDeviceCache agent => .nearObjectDeviceCache (members.agentUwb agent)
  | .discoveryAgents => .discoveryAgents members.discoveryAgents
  | .nearObjectDevice => .nearObjectDevices members.nearObjectDevices
  | .profiles => .profiles members.profiles
  | .sessions controller => .sessions (members.sessions controller)

/-- A section that is exclusive writes the member behind its gate. -/
theorem guards_write {taken : Gate Agent Controller}
    {write : Members Agent Controller Name Session Content →
      Members Agent Controller Name Session Content}
    (others : taken ≠ gate → ∀ members, guards gate (write members) = guards gate members) :
    (taken = gate ∧ Locking.Mode.exclusive = .exclusive) ∨
      ∀ members, guards gate (write members) = guards gate members := by
  by_cases same : taken = gate
  · exact .inl ⟨same, rfl⟩
  · exact .inr (others same)

/-! ### Sections -/

theorem protects_addDevice {nearObjectDevice : Controller}
    (rest : Protects (guards gate) gate False next) :
    Protects (guards gate) gate owned (addDevice nearObjectDevice next) := by
  refine .critical (guards_write fun different members => ?_) fun _ => rest
  cases gate with
  | nearObjectDevice => exact absurd rfl different
  | _ => rfl

theorem protects_removeDevice {nearObjectDevice : Controller}
    (rest : Protects (guards gate) gate False next) :
    Protects (guards gate) gate owned (removeDevice environment nearObjectDevice next) := by
  refine .critical (guards_write fun different members => ?_) fun _ => rest
  cases gate with
  | nearObjectDevice => exact absurd rfl different
  | _ => rfl

theorem protects_startSession {controller : Controller} {session : Option Session}
    {next : Result Controller Session → Program Agent Controller Name Session Content}
    (rest : ∀ result, Protects (guards gate) gate False (next result)) :
    Protects (guards gate) gate owned (startSession controller session next) := by
  cases session with
  | none => exact (rest _).mono False.elim
  | some started =>
    refine .critical (guards_write fun different members => ?_) fun _ => rest _
    cases gate with
    | sessions other =>
      have apart : other ≠ controller := fun same => different (by rw [same])
      exact congrArg Member.sessions (Function.update_of_ne apart _ _)
    | _ => rfl

theorem protects_addProfile {profile : NearObjectProfile} {lifetime : ProfileLifetime}
    {io : Profile.Io Content}
    {next : Result Controller Session → Program Agent Controller Name Session Content}
    (rest : ∀ result, Protects (guards gate) gate False (next result)) :
    Protects (guards gate) gate owned (addProfile environment profile lifetime io next) := by
  refine .critical (guards_write fun different members => ?_) fun _ => ?_
  · cases gate with
    | profiles => exact absurd rfl different
    | _ => rfl
  · split
    · refine ⟨.inr fun _ => rfl, fun members => ?_⟩
      simp only
      split
      · exact rest _
      · split
        · exact rest _
        -- the file has no gate
        · exact ⟨.inr fun _ => by cases gate <;> rfl, fun _ => rest _⟩
    · exact rest _

theorem protects_perform {request : Request Controller Session Content}
    {next : Result Controller Session → Program Agent Controller Name Session Content}
    (rest : ∀ result, Protects (guards gate) gate False (next result)) :
    Protects (guards gate) gate owned (perform environment request next) := by
  cases request with
  | addProfile profile lifetime io => exact protects_addProfile rest
  | findMatchingProfiles profileToMatch => exact .critical (.inr fun _ => rfl) fun _ => rest _
  | getAllProfiles => exact .critical (.inr fun _ => rfl) fun _ => rest _
  | addDevice nearObjectDevice => exact protects_addDevice (rest _)
  | removeDevice nearObjectDevice => exact protects_removeDevice (rest _)
  | getDefaultDevice => exact .critical (.inr fun _ => rfl) fun _ => rest _
  | getAllDevices => exact .critical (.inr fun _ => rfl) fun _ => rest _
  | startSession controller session => exact protects_startSession rest

theorem protects_push (rest : Protects (guards gate) gate False next) :
    Protects (guards gate) gate owned (pushDiscoveryAgent agent next) := by
  refine .critical (guards_write fun different members => ?_) fun _ => rest
  cases gate with
  | discoveryAgents => exact absurd rfl different
  | _ => rfl

/-- A section on the cache of an agent. -/
theorem protects_cache {write : Members Agent Controller Name Session Content → AgentUwb Name}
    {next : Members Agent Controller Name Session Content →
      Program Agent Controller Name Session Content}
    (rest : ∀ members, Protects (guards gate) gate False (next members)) :
    Protects (guards gate) gate owned (.critical (.nearObjectDeviceCache agent) .exclusive
      (fun members => { members with
        agentUwb := Function.update members.agentUwb agent (write members) }) next) := by
  refine .critical (guards_write fun different members => ?_) rest
  cases gate with
  | nearObjectDeviceCache other =>
    have apart : other ≠ agent := fun same => different (by rw [same])
    exact congrArg Member.nearObjectDeviceCache (Function.update_of_ne apart _ _)
  | _ => rfl

/-! ### The callback -/

theorem protects_register {callback : Option (Callback Controller Session Content)}
    (rest : Protects (guards gate) gate False next) :
    Protects (guards gate) gate owned (registerDiscoveryEventCallback agent callback next) := by
  refine .critical (guards_write fun different members => ?_) fun _ => rest
  cases gate with
  | onDevicePresenceChanged other =>
    have apart : other ≠ agent := fun same => different (by rw [same])
    exact congrArg Member.onDevicePresenceChanged (Function.update_of_ne apart _ _)
  | _ => rfl

theorem protects_react {reaction : Reaction Controller Session Content}
    (rest : Protects (guards gate) gate False next) :
    Protects (guards gate) gate False (react environment next reaction) := by
  induction reaction with
  | finish => exact rest
  | throw => trivial
  | perform request later ih => exact protects_perform fun result => ih result

theorem protects_invoke {callback : Callback Controller Session Content}
    {presence : NearObjectDevicePresence} {deviceChanged : Controller}
    (rest : Protects (guards gate) gate False next) :
    Protects (guards gate) gate owned
      (invoke environment callback presence deviceChanged next) := by
  cases callback with
  | manager =>
    cases presence with
    | arrived => exact protects_addDevice rest
    | departed => exact protects_removeDevice rest
  | client function => exact (protects_react rest).mono False.elim

theorem protects_devicePresenceChanged {presence : NearObjectDevicePresence}
    {deviceChanged : Controller} (rest : Protects (guards gate) gate False next) :
    Protects (guards gate) gate False
      (devicePresenceChanged environment agent presence deviceChanged next) := by
  refine ⟨.inr fun _ => rfl, fun members => ?_⟩
  have leaves : Protects (guards gate) gate False
      (.release (.onDevicePresenceChanged agent) next) := .release rest
  simp only
  split
  · exact protects_invoke leaves
  · exact leaves.mono False.elim

/-! ### The flags of an agent -/

/-- A write that leaves all guarded members alone. -/
theorem protects_flag {write : Members Agent Controller Name Session Content →
      Members Agent Controller Name Session Content}
    {next : Members Agent Controller Name Session Content →
      Program Agent Controller Name Session Content}
    (flag : ∀ members, guards gate (write members) = guards gate members)
    (rest : ∀ members, Protects (guards gate) gate False (next members)) :
    Protects (guards gate) gate False (.act write next) :=
  ⟨.inr flag, rest⟩

theorem protects_reset (rest : Protects (guards gate) gate False next) :
    Protects (guards gate) gate False (resetNotificationHandle agent next) := by
  refine protects_flag (fun _ => rfl) fun members => ?_
  split
  · exact .critical (.inr fun _ => by cases gate <;> rfl) fun _ => rest
  · exact rest

theorem protects_startImpl (rest : Protects (guards gate) gate False next) :
    Protects (guards gate) gate False (startImpl environment agent next) := by
  unfold startImpl
  split
  · exact protects_reset (protects_flag (fun _ => by cases gate <;> rfl) fun _ => rest)
  · exact rest

theorem protects_stopImpl (rest : Protects (guards gate) gate False next) :
    Protects (guards gate) gate False (stopImpl environment agent next) := by
  unfold stopImpl
  split
  · exact protects_reset rest
  · exact rest

theorem protects_exchange {expected spuriously : Bool}
    {exchanged : Program Agent Controller Name Session Content}
    (first : Protects (guards gate) gate False exchanged)
    (second : Protects (guards gate) gate False next) :
    Protects (guards gate) gate False (exchange agent expected spuriously exchanged next) := by
  refine protects_flag (fun members => ?_) fun members => ?_
  · split
    · cases gate <;> rfl
    · rfl
  · split
    · exact first
    · exact second

/-! ### Calls -/

theorem protects_notification {action : NotifyAction} {symbolicLink : Name}
    {alive : ControllerUwb Name → Bool} (rest : Protects (guards gate) gate False next) :
    Protects (guards gate) gate False
      (onDeviceInterfaceNotification environment agent action symbolicLink alive next) := by
  cases action with
  | deviceInterfaceArrival => exact protects_cache fun _ => protects_devicePresenceChanged rest
  | deviceInterfaceRemoval =>
    refine protects_cache fun members => ?_
    simp only
    split
    · exact protects_devicePresenceChanged rest
    · exact rest
  | other => exact rest

theorem protects_callback {action : NotifyAction} {symbolicLink : Name}
    {alive : ControllerUwb Name → Bool} (rest : Protects (guards gate) gate False next) :
    Protects (guards gate) gate False
      (onDeviceInterfaceNotificationCallback environment agent action symbolicLink alive next) := by
  have leaves : Protects (guards gate) gate False (.release (.notifications agent) next) :=
    .release rest
  refine ⟨.inr fun _ => rfl, fun members => ?_⟩
  simp only
  split
  · exact (protects_notification leaves).mono False.elim
  · exact leaves.mono False.elim

theorem protects_probe {deviceInterfaces : List (DeviceInterface Name)} :
    ∀ {nearObjectDevices : List Controller}, Protects (guards gate) gate False
      (probe environment agent nearObjectDevices deviceInterfaces :
        Program Agent Controller Name Session Content) := by
  induction deviceInterfaces with
  | nil => exact trivial
  | cons deviceInterface later ih => exact protects_cache fun _ => ih

theorem protects_addExisting {existingDevices : Option (Result Controller Session)}
    (rest : Protects (guards gate) gate False next) :
    Protects (guards gate) gate False (addExistingDevices existingDevices next) := by
  unfold addExistingDevices
  split
  · rename_i existingDevices
    induction existingDevices with
    | nil => exact rest
    | cons existingDevice later ih => exact protects_addDevice ih
  · exact rest

theorem protects_addDiscoveryAgent {spuriously timeout : Bool}
    {deviceInterfaces : List (DeviceInterface Name)}
    (rest : Protects (guards gate) gate False next) :
    Protects (guards gate) gate False
      (addDiscoveryAgent environment agent spuriously deviceInterfaces timeout next) := by
  refine protects_register (protects_flag (fun _ => rfl) fun members => ?_)
  split
  · have task (probe : Program Agent Controller Name Session Content)
        (begins : probeAsync environment agent deviceInterfaces = some probe) :
        Protects (guards gate) gate False probe := by
      unfold probeAsync at begins
      split at begins
      · cases begins
      · obtain rfl := Option.some.inj begins
        trivial
      · obtain rfl := Option.some.inj begins
        exact protects_probe
    split
    · rename_i probe begins
      refine ⟨task probe begins, protects_push fun existing => ?_⟩
      cases timeout with
      | true => exact rest
      | false => exact protects_addExisting rest
    · exact protects_push rest
  · exact protects_exchange (protects_startImpl (protects_push rest)) (protects_push rest)

/-- **Every call changes a guarded member under its gate.** -/
theorem protects_program (gate : Gate Agent Controller)
    (operation : Operation Agent Controller Name Session Content) :
    Protects (guards gate) gate False (program environment operation) := by
  have ends (result : Result Controller Session) : Protects (guards gate) gate False
      (.ret result : Program Agent Controller Name Session Content) := trivial
  cases operation with
  | request request => exact protects_perform ends
  | registerDiscoveryEventCallback agent onDevicePresenceChanged => exact protects_register (ends _)
  | devicePresenceChanged agent presence deviceChanged =>
    exact protects_devicePresenceChanged (ends _)
  | isStarted agent => exact protects_flag (fun _ => rfl) fun _ => ends _
  | start agent spuriously => exact protects_exchange (protects_startImpl (ends _)) (ends _)
  | stop agent spuriously => exact protects_exchange (protects_stopImpl (ends _)) (ends _)
  | addDiscoveryAgent agent spuriously deviceInterfaces timeout =>
    exact protects_addDiscoveryAgent (ends _)
  | onDeviceInterfaceNotificationCallback agent action symbolicLink alive =>
    exact protects_callback (ends _)

end Guards

/-! ### Runs -/

section Runs

variable {Thread Agent Controller Name Session Content Double : Type} [DecidableEq Thread]
  [DecidableEq Agent] [DecidableEq Controller] [DecidableEq Name]
  {environment : Environment Agent Controller Name Content Double}
  {members : Members Agent Controller Name Session Content}
  {trace : List (Label Thread Agent Controller Name Session Content)}
  {s t : State Thread Agent Controller Name Session Content}

/-- **Who changes what a gate guards is the only one to hold it.** -/
theorem members_guarded (run : Run (Step environment) (init Thread members) trace s)
    {gate : Gate Agent Controller} {label : Label Thread Agent Controller Name Session Content}
    (taken : Step environment s label t) (changed : guards gate t.data ≠ guards gate s.data) :
    ∃ runner, label = .move runner ∧ s.writer gate = some runner ∧
      ∀ holder, s.Holds holder gate → holder = runner := by
  cases label with
  | call thread operation =>
    obtain ⟨-, -, rfl⟩ := Locking.step_call.mp taken
    exact absurd rfl changed
  | move runner =>
    have guarded := Locking.guarded_run (protects_program gate) run
    have writes := Locking.writer_of_change guarded taken changed
    have exclusion := (Locking.sound_run ranked_program run).exclusion
    exact ⟨runner, rfl, writes, fun holder holds => exclusion.holder writes holds⟩

/-- A device is about to be added. -/
def addingTrace : List (Label Nat Nat (ControllerUwb Nat) Nat Nat (List Char)) :=
  [.call 0 (.request (.addDevice ⟨7, 0⟩)), .move (.caller 0)]

theorem members_guarded_added : ∃ s t, Run (Step uwb) (init Nat startedMembers) addingTrace s ∧
    Step uwb s (.move (.caller 0)) t ∧ t.data.nearObjectDevices = [⟨7, 0⟩] ∧
    ∀ holder, s.Holds holder .nearObjectDevice → holder = .caller 0 := by
  have alone : ∀ {s t : State Nat Nat (ControllerUwb Nat) Nat Nat (List Char)},
      Run (Step uwb) (init Nat startedMembers) addingTrace s →
      Step uwb s (.move (.caller 0)) t → t.data.nearObjectDevices ≠ s.data.nearObjectDevices →
      ∀ holder, s.Holds holder .nearObjectDevice → holder = .caller 0 := by
    intro s t run taken changed
    have differs : guards .nearObjectDevice t.data ≠ guards .nearObjectDevice s.data :=
      fun same => changed (Member.nearObjectDevices.inj same)
    obtain ⟨runner, same, -, only⟩ := members_guarded run taken differs
    cases same
    exact only
  have run : Run (Step uwb) (init Nat startedMembers) addingTrace _ := run_of_execute rfl
  exact ⟨_, _, run, rfl, rfl, alone run rfl fun same => by cases same⟩

end Runs

end NearObject.Service
