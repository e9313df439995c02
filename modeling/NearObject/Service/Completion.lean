/-
**The calls on the service end.**

The locks of the service have an order: a notification of the system is below the callback of its
agent, and that below everything else. Every call takes its locks in that order, and waits for its
probe without any (`ranked_program`).

* `calls_end` — no call waits forever, whatever the threads and the order of their steps, and with
  the calls the probes end. Only an exception that leaves a client's callback keeps the calls from
  their end: it ends the process.

A call throws only where it persists a profile. `Nothrow` says of a callback that no exception
leaves it, its own or one of its calls; where that is so of all callbacks, the process does not end
(`calm_program`).
-/

import NearObject.Service.Calls
import NearObject.Transition.Protection
import Mathlib.Data.Fintype.Order

set_option linter.unusedSectionVars false

namespace NearObject.Service

open Transition
open Transition.Locking (Ranked Calm)
open NearObject.Device (NearObjectDevicePresence NotifyAction AgentUwb ControllerUwb)
open NearObject.Profile (NearObjectProfile ProfileLifetime)

/-! ### The order of the locks -/

section Order

variable {Agent Controller Name Session Content Double : Type} [DecidableEq Agent]
  [DecidableEq Controller] [DecidableEq Name]
  {environment : Environment Agent Controller Name Content Double}
  {held : Set (Gate Agent Controller)} {duty : Locking.Duty} {agent : Agent}
  {next : Program Agent Controller Name Session Content}

def rank : Gate Agent Controller → Fin 3
  | .notifications _ => 0
  | .onDevicePresenceChanged _ => 1
  | _ => 2

/-- Under a gate of an agent are the gates that may be held where it is taken. -/
theorem below_insert {gate : Gate Agent Controller} {bound : Fin 3} (here : rank gate < bound)
    (below : ∀ lower ∈ held, rank lower < rank gate) :
    ∀ lower ∈ insert gate held, rank lower < bound := by
  rintro lower (rfl | member)
  · exact here
  · exact (below lower member).trans here

/-- The gate of a section is released at its end. -/
theorem ranked_release (gate : Gate Agent Controller)
    (below : ∀ lower ∈ held, rank lower < rank gate) (rest : Ranked rank duty held next) :
    Ranked rank duty (insert gate held) (.release gate next) := by
  have outside : gate ∉ held := fun member => lt_irrefl _ (below gate member)
  refine ⟨Set.mem_insert _ _, ?_⟩
  rw [Set.insert_sdiff_self_of_notMem outside]
  exact rest

theorem ranked_perform {request : Request Controller Session Content}
    {next : Result Controller Session → Program Agent Controller Name Session Content}
    (below : ∀ lower ∈ held, rank lower < 2)
    (rest : ∀ result, Ranked rank duty held (next result)) :
    Ranked rank duty held (perform environment request next) := by
  cases request with
  | addProfile profile lifetime io =>
    refine .critical below fun _ => ?_
    split
    · intro members
      simp only
      split
      · exact rest _
      · split
        · exact rest _
        · exact fun _ => rest _
    · exact rest _
  | findMatchingProfiles profileToMatch => exact .critical below fun _ => rest _
  | getAllProfiles => exact .critical below fun _ => rest _
  | addDevice nearObjectDevice => exact .critical below fun _ => rest _
  | removeDevice nearObjectDevice => exact .critical below fun _ => rest _
  | getDefaultDevice => exact .critical below fun _ => rest _
  | getAllDevices => exact .critical below fun _ => rest _
  | startSession controller session =>
    cases session with
    | none => exact rest _
    | some started => exact .critical below fun _ => rest _

theorem ranked_react {reaction : Reaction Controller Session Content}
    (below : ∀ lower ∈ held, rank lower < 2) (rest : Ranked rank duty held next) :
    Ranked rank duty held (react environment next reaction) := by
  induction reaction with
  | finish => exact rest
  | throw => trivial
  | perform request later ih => exact ranked_perform below fun result => ih result

theorem ranked_invoke {callback : Callback Controller Session Content}
    {presence : NearObjectDevicePresence} {deviceChanged : Controller}
    (below : ∀ lower ∈ held, rank lower < 2) (rest : Ranked rank duty held next) :
    Ranked rank duty held (invoke environment callback presence deviceChanged next) := by
  cases callback with
  | manager => cases presence <;> exact .critical below fun _ => rest
  | client function => exact ranked_react below rest

theorem ranked_devicePresenceChanged {presence : NearObjectDevicePresence}
    {deviceChanged : Controller} (below : ∀ lower ∈ held, rank lower < 1)
    (rest : Ranked rank duty held next) :
    Ranked rank duty held
      (devicePresenceChanged environment agent presence deviceChanged next) := by
  refine ⟨below, fun members => ?_⟩
  have leaves := ranked_release (.onDevicePresenceChanged agent) below rest
  simp only
  split
  · exact ranked_invoke (below_insert Nat.one_lt_two below) leaves
  · exact leaves

theorem ranked_reset (rest : Ranked rank duty ∅ next) :
    Ranked rank duty ∅ (resetNotificationHandle agent next) := by
  intro members
  show Ranked rank duty ∅ (if members.registered agent then _ else next)
  split
  · exact .critical (fun lower member => absurd member (Set.notMem_empty _)) fun _ => rest
  · exact rest

theorem ranked_startImpl (rest : Ranked rank duty ∅ next) :
    Ranked rank duty ∅ (startImpl environment agent next) := by
  unfold startImpl
  split
  · exact ranked_reset fun _ => rest
  · exact rest

theorem ranked_stopImpl (rest : Ranked rank duty ∅ next) :
    Ranked rank duty ∅ (stopImpl environment agent next) := by
  unfold stopImpl
  split
  · exact ranked_reset rest
  · exact rest

theorem ranked_exchange {expected spuriously : Bool}
    {exchanged : Program Agent Controller Name Session Content}
    (first : Ranked rank duty ∅ exchanged) (second : Ranked rank duty ∅ next) :
    Ranked rank duty ∅ (exchange agent expected spuriously exchanged next) := by
  intro members
  show Ranked rank duty ∅ (if members.started agent = expected ∧ ¬ spuriously then _ else next)
  split
  · exact first
  · exact second

theorem ranked_start {spuriously : Bool} (rest : Ranked rank duty ∅ next) :
    Ranked rank duty ∅ (start environment agent spuriously next) :=
  ranked_exchange (ranked_startImpl rest) rest

theorem below_empty (bound : Fin 3) :
    ∀ lower ∈ (∅ : Set (Gate Agent Controller)), rank lower < bound :=
  fun _ member => absurd member (Set.notMem_empty _)

theorem ranked_notification {action : NotifyAction} {symbolicLink : Name}
    {alive : ControllerUwb Name → Bool} (below : ∀ lower ∈ held, rank lower < 1)
    (rest : Ranked rank duty held next) :
    Ranked rank duty held
      (onDeviceInterfaceNotification environment agent action symbolicLink alive next) := by
  have deep : ∀ lower ∈ held, rank lower < 2 :=
    fun lower member => (below lower member).trans Nat.one_lt_two
  cases action with
  | deviceInterfaceArrival =>
    exact .critical deep fun _ => ranked_devicePresenceChanged below rest
  | deviceInterfaceRemoval =>
    refine .critical deep fun members => ?_
    simp only
    split
    · exact ranked_devicePresenceChanged below rest
    · exact rest
  | other => exact rest

theorem ranked_callback {action : NotifyAction} {symbolicLink : Name}
    {alive : ControllerUwb Name → Bool} (rest : Ranked rank duty ∅ next) :
    Ranked rank duty ∅
      (onDeviceInterfaceNotificationCallback environment agent action symbolicLink alive next) := by
  have leaves := ranked_release (.notifications agent) (below_empty _) rest
  refine ⟨below_empty _, fun members => ?_⟩
  simp only
  split
  · exact ranked_notification (below_insert Nat.one_pos (below_empty _)) leaves
  · exact leaves

theorem ranked_probe {deviceInterfaces : List (DeviceInterface Name)} :
    ∀ {nearObjectDevices : List Controller}, Ranked rank .task ∅
      (probe environment agent nearObjectDevices deviceInterfaces :
        Program Agent Controller Name Session Content) := by
  induction deviceInterfaces with
  | nil => exact ⟨nofun, rfl⟩
  | cons deviceInterface later ih => exact .critical (below_empty _) fun _ => ih

theorem ranked_addExisting {existingDevices : Option (Result Controller Session)}
    (rest : Ranked rank duty ∅ next) :
    Ranked rank duty ∅ (addExistingDevices existingDevices next) := by
  unfold addExistingDevices
  split
  · rename_i existingDevices
    induction existingDevices with
    | nil => exact rest
    | cons existingDevice later ih => exact .critical (below_empty _) fun _ => ih
  · exact rest

theorem ranked_addDiscoveryAgent {spuriously timeout : Bool}
    {deviceInterfaces : List (DeviceInterface Name)} (rest : Ranked rank .free ∅ next) :
    Ranked rank .free ∅
      (addDiscoveryAgent environment agent spuriously deviceInterfaces timeout next) := by
  refine .critical (below_empty _) fun _ members => ?_
  show Ranked rank .free ∅ (if members.started agent then _ else _)
  have pushes : Ranked rank .free ∅ (pushDiscoveryAgent agent next) :=
    .critical (below_empty _) fun _ => rest
  split
  · have task (probe : Program Agent Controller Name Session Content)
        (begins : probeAsync environment agent deviceInterfaces = some probe) :
        Ranked rank .task ∅ probe := by
      unfold probeAsync at begins
      split at begins
      · cases begins
      · obtain rfl := Option.some.inj begins
        exact ⟨nofun, rfl⟩
      · obtain rfl := Option.some.inj begins
        exact ranked_probe
    cases begins : probeAsync environment agent deviceInterfaces with
    | none => exact pushes
    | some probe =>
      refine ⟨rfl, task probe begins, .critical (below_empty _) fun _ => ⟨rfl, rfl, ?_⟩⟩
      intro existing
      cases timeout with
      | false => exact ranked_addExisting rest
      | true => exact rest
  · exact ranked_start pushes

/-- **Every call takes its locks in order**, and waits for its probe. -/
theorem ranked_program (operation : Operation Agent Controller Name Session Content) :
    Ranked rank .free ∅ (program environment operation) := by
  have ends (result : Result Controller Session) : Ranked rank .free ∅
      (.ret result : Program Agent Controller Name Session Content) := ⟨nofun, rfl⟩
  cases operation with
  | request request => exact ranked_perform (below_empty _) ends
  | registerDiscoveryEventCallback agent onDevicePresenceChanged =>
    exact .critical (below_empty _) fun _ => ends _
  | devicePresenceChanged agent presence deviceChanged =>
    exact ranked_devicePresenceChanged (below_empty _) (ends _)
  | isStarted agent => exact fun _ => ends _
  | start agent spuriously => exact ranked_start (ends _)
  | stop agent spuriously => exact ranked_exchange (ranked_stopImpl (ends _)) (ends _)
  | addDiscoveryAgent agent spuriously deviceInterfaces timeout =>
    exact ranked_addDiscoveryAgent (ends _)
  | onDeviceInterfaceNotificationCallback agent action symbolicLink alive =>
    exact ranked_callback (ends _)

end Order

/-! ### Exceptions -/

section Exceptions

variable {Agent Controller Name Session Content Double : Type} [DecidableEq Agent]
  [DecidableEq Controller] [DecidableEq Name]
  {environment : Environment Agent Controller Name Content Double} {agent : Agent}
  {next : Program Agent Controller Name Session Content}

/-- The call does not touch the file: it persists no profile. -/
def Request.Nothrow : Request Controller Session Content → Prop
  | .addProfile _ lifetime _ => lifetime ≠ .persistent
  | _ => True

/-- No exception leaves the function, whatever its calls return, or throw if they can. -/
def Reaction.Nothrow : Reaction Controller Session Content → Prop
  | .finish => True
  | .throw => False
  | .perform request next =>
    ∀ result, (request.Nothrow → ∀ exception, result ≠ .threw exception) → (next result).Nothrow

def Callback.Nothrow : Callback Controller Session Content → Prop
  | .manager => True
  | .client function => ∀ presence deviceChanged, (function presence deviceChanged).Nothrow

/-- No exception leaves a function that an agent has registered. -/
def Members.Nothrow (members : Members Agent Controller Name Session Content) : Prop :=
  ∀ agent callback, members.onDevicePresenceChanged agent = some callback → callback.Nothrow

/-- An operation that registers a function registers one that no exception leaves. -/
def Operation.Nothrow : Operation Agent Controller Name Session Content → Prop
  | .registerDiscoveryEventCallback _ (some callback) => callback.Nothrow
  | _ => True

theorem calm_perform {request : Request Controller Session Content}
    {next : Result Controller Session → Program Agent Controller Name Session Content}
    (rest : ∀ result, (request.Nothrow → ∀ exception, result ≠ .threw exception) →
      Calm Members.Nothrow (next result)) :
    Calm Members.Nothrow (perform environment request next) := by
  cases request with
  | addProfile profile lifetime io =>
    refine .critical (fun _ nothrow => nothrow) fun _ _ => ?_
    split
    case isTrue persistent =>
      intro members nothrow
      refine ⟨nothrow, ?_⟩
      simp only
      split
      · exact rest _ fun nothrow => absurd persistent nothrow
      · split
        · exact rest _ fun _ => nofun
        · exact fun _ nothrow => ⟨nothrow, rest _ fun _ => nofun⟩
    case isFalse => exact rest _ fun _ => nofun
  | findMatchingProfiles profileToMatch =>
    exact .critical (fun _ => id) fun _ _ => rest _ fun _ => nofun
  | getAllProfiles => exact .critical (fun _ => id) fun _ _ => rest _ fun _ => nofun
  | addDevice nearObjectDevice =>
    exact .critical (fun _ nothrow => nothrow) fun _ _ => rest _ fun _ => nofun
  | removeDevice nearObjectDevice =>
    exact .critical (fun _ nothrow => nothrow) fun _ _ => rest _ fun _ => nofun
  | getDefaultDevice => exact .critical (fun _ => id) fun _ _ => rest _ fun _ => nofun
  | getAllDevices => exact .critical (fun _ => id) fun _ _ => rest _ fun _ => nofun
  | startSession controller session =>
    cases session with
    | none => exact rest _ fun _ => nofun
    | some started => exact .critical (fun _ nothrow => nothrow) fun _ _ => rest _ fun _ => nofun

theorem calm_register {callback : Option (Callback Controller Session Content)}
    (nothrow : ∀ registered, callback = some registered → registered.Nothrow)
    (rest : Calm Members.Nothrow next) :
    Calm Members.Nothrow (registerDiscoveryEventCallback agent callback next) := by
  refine .critical (fun members before other registered found => ?_) fun _ _ => rest
  by_cases same : other = agent
  · subst same
    exact nothrow registered (by simpa using found)
  · exact before other registered (by simpa [Function.update_of_ne same] using found)

theorem calm_react {reaction : Reaction Controller Session Content} (nothrow : reaction.Nothrow)
    (rest : Calm Members.Nothrow next) :
    Calm Members.Nothrow (react environment next reaction) := by
  induction reaction with
  | finish => exact rest
  | throw => exact False.elim nothrow
  | perform request later ih =>
    exact calm_perform fun result returned => ih result (nothrow result returned)

theorem calm_invoke {callback : Callback Controller Session Content} (nothrow : callback.Nothrow)
    {presence : NearObjectDevicePresence} {deviceChanged : Controller}
    (rest : Calm Members.Nothrow next) :
    Calm Members.Nothrow (invoke environment callback presence deviceChanged next) := by
  cases callback with
  | manager => cases presence <;> exact .critical (fun _ nothrow => nothrow) fun _ _ => rest
  | client function => exact calm_react (nothrow presence deviceChanged) rest

theorem calm_devicePresenceChanged {presence : NearObjectDevicePresence}
    {deviceChanged : Controller} (rest : Calm Members.Nothrow next) :
    Calm Members.Nothrow (devicePresenceChanged environment agent presence deviceChanged next) := by
  intro members nothrow
  refine ⟨nothrow, ?_⟩
  simp only
  split
  case h_1 callback found => exact calm_invoke (nothrow agent callback found) rest
  case h_2 => exact rest

theorem calm_reset (rest : Calm Members.Nothrow next) :
    Calm Members.Nothrow (resetNotificationHandle agent next) := by
  refine fun members nothrow => ⟨nothrow, ?_⟩
  show Calm Members.Nothrow (if members.registered agent then _ else next)
  split
  · exact .critical (fun _ nothrow => nothrow) fun _ _ => rest
  · exact rest

theorem calm_exchange {expected spuriously : Bool}
    {exchanged : Program Agent Controller Name Session Content}
    (first : Calm Members.Nothrow exchanged) (second : Calm Members.Nothrow next) :
    Calm Members.Nothrow (exchange agent expected spuriously exchanged next) := by
  intro members nothrow
  refine ⟨?_, ?_⟩
  · show Members.Nothrow (if members.started agent = expected ∧ ¬ spuriously then _ else members)
    split <;> exact nothrow
  · show Calm Members.Nothrow (if members.started agent = expected ∧ ¬ spuriously then _ else next)
    split
    · exact first
    · exact second

theorem calm_start {spuriously : Bool} (rest : Calm Members.Nothrow next) :
    Calm Members.Nothrow (start environment agent spuriously next) := by
  refine calm_exchange ?_ rest
  unfold startImpl
  split
  · exact calm_reset fun _ nothrow => ⟨nothrow, rest⟩
  · exact rest

theorem calm_stop {spuriously : Bool} (rest : Calm Members.Nothrow next) :
    Calm Members.Nothrow (stop environment agent spuriously next) := by
  refine calm_exchange ?_ rest
  unfold stopImpl
  split
  · exact calm_reset rest
  · exact rest

theorem calm_notification {action : NotifyAction} {symbolicLink : Name}
    {alive : ControllerUwb Name → Bool} (rest : Calm Members.Nothrow next) :
    Calm Members.Nothrow
      (onDeviceInterfaceNotification environment agent action symbolicLink alive next) := by
  cases action with
  | deviceInterfaceArrival =>
    exact .critical (fun _ nothrow => nothrow) fun _ _ => calm_devicePresenceChanged rest
  | deviceInterfaceRemoval =>
    refine .critical (fun _ nothrow => nothrow) fun members _ => ?_
    simp only
    split
    · exact calm_devicePresenceChanged rest
    · exact rest
  | other => exact rest

theorem calm_callback {action : NotifyAction} {symbolicLink : Name}
    {alive : ControllerUwb Name → Bool} (rest : Calm Members.Nothrow next) :
    Calm Members.Nothrow
      (onDeviceInterfaceNotificationCallback environment agent action symbolicLink alive next) := by
  refine fun members nothrow => ⟨nothrow, ?_⟩
  simp only
  split
  · exact calm_notification rest
  · exact rest

theorem calm_probe {deviceInterfaces : List (DeviceInterface Name)} :
    ∀ {nearObjectDevices : List Controller}, Calm Members.Nothrow
      (probe environment agent nearObjectDevices deviceInterfaces :
        Program Agent Controller Name Session Content) := by
  induction deviceInterfaces with
  | nil => exact trivial
  | cons deviceInterface later ih => exact .critical (fun _ nothrow => nothrow) fun _ _ => ih

theorem calm_addDiscoveryAgent {spuriously timeout : Bool}
    {deviceInterfaces : List (DeviceInterface Name)} (rest : Calm Members.Nothrow next) :
    Calm Members.Nothrow
      (addDiscoveryAgent environment agent spuriously deviceInterfaces timeout next) := by
  refine calm_register ?_ fun members nothrow => ⟨nothrow, ?_⟩
  · rintro registered ⟨⟩
    trivial
  have pushes {next : Program Agent Controller Name Session Content}
      (rest : Calm Members.Nothrow next) : Calm Members.Nothrow (pushDiscoveryAgent agent next) :=
    .critical (fun _ nothrow => nothrow) fun _ _ => rest
  show Calm Members.Nothrow (if members.started agent then _ else _)
  split
  · have task (probe : Program Agent Controller Name Session Content)
        (begins : probeAsync environment agent deviceInterfaces = some probe) :
        Calm Members.Nothrow probe := by
      unfold probeAsync at begins
      split at begins
      · cases begins
      · obtain rfl := Option.some.inj begins
        trivial
      · obtain rfl := Option.some.inj begins
        exact calm_probe
    cases begins : probeAsync environment agent deviceInterfaces with
    | none => exact pushes rest
    | some probe =>
      refine ⟨task probe begins, pushes fun existing => ?_⟩
      cases timeout with
      | true => exact rest
      | false =>
        show Calm Members.Nothrow (addExistingDevices existing next)
        unfold addExistingDevices
        split
        · rename_i existingDevices
          induction existingDevices with
          | nil => exact rest
          | cons existingDevice later ih => exact .critical (fun _ nothrow => nothrow) fun _ _ => ih
        · exact rest
  · exact calm_start (pushes rest)

/-- **Where no exception leaves a callback, no call ends the process.** -/
theorem calm_program {operation : Operation Agent Controller Name Session Content}
    (nothrow : operation.Nothrow) : Calm Members.Nothrow (program environment operation) := by
  have ends (result : Result Controller Session) : Calm Members.Nothrow
      (.ret result : Program Agent Controller Name Session Content) := trivial
  cases operation with
  | request request => exact calm_perform fun _ _ => ends _
  | registerDiscoveryEventCallback agent onDevicePresenceChanged =>
    refine calm_register ?_ (ends _)
    rintro registered rfl
    exact nothrow
  | devicePresenceChanged agent presence deviceChanged => exact calm_devicePresenceChanged (ends _)
  | isStarted agent => exact fun _ nothrow => ⟨nothrow, ends _⟩
  | start agent spuriously => exact calm_start (ends _)
  | stop agent spuriously => exact calm_stop (ends _)
  | addDiscoveryAgent agent spuriously deviceInterfaces timeout =>
    exact calm_addDiscoveryAgent (ends _)
  | onDeviceInterfaceNotificationCallback agent action symbolicLink alive =>
    exact calm_callback (ends _)

end Exceptions

/-! ### Runs -/

section Runs

variable {Thread Agent Controller Name Session Content Double : Type} [DecidableEq Thread]
  [DecidableEq Agent] [DecidableEq Controller] [DecidableEq Name]
  {environment : Environment Agent Controller Name Content Double}
  {members : Members Agent Controller Name Session Content}
  {trace : List (Label Thread Agent Controller Name Session Content)}
  {s : State Thread Agent Controller Name Session Content}

/-- **No call on the service waits forever.** Where some call or probe has not ended, somebody can
go on; the calls that have begun, and their probes, take finitely many steps, in whatever order; and
then they have all ended and no gate is held, unless an exception that has left a client's callback
has ended the process. -/
theorem calls_end (run : Run (Step environment) (init Thread members) trace s) :
    (s.halted = false → ∀ runner, s.program runner ≠ .done → ∃ other t, s.move other = some t) ∧
      Acc (fun after before => Locking.Moves before after) s ∧
      (∃ t, Relation.ReflTransGen Locking.Moves s t ∧
        (t.halted = true ∨
          ∀ runner, t.program runner = .done ∧ ∀ gate, ¬ t.Holds runner gate)) ∧
      (members.Nothrow →
        (∀ thread operation, .call thread operation ∈ trace → operation.Nothrow) →
          ∀ t, Relation.ReflTransGen Locking.Moves s t → t.halted = false) := by
  have sound := Locking.sound_run ranked_program run
  obtain ⟨callers, among⟩ := Locking.among_run run
  have ends := Locking.acc_moves among
  obtain ⟨t, moves, rest⟩ := Locking.comes_to_rest sound ends
  refine ⟨fun running runner busy => Locking.move_of_busy sound running busy, ends,
    ⟨t, moves, rest.imp_right fun idle runner => ⟨(idle runner).1, fun gate holds => ?_⟩⟩,
    fun nothrow calls t moves => ?_⟩
  · have member : gate ∈ t.held runner := holds
    rw [(idle runner).2] at member
    exact member
  · have quiet := Locking.quiet_run nothrow (fun thread operation member =>
      calm_program (calls thread operation member)) run
    exact (quiet.later moves).running

/-- UWB agents and controllers, known by numbers. -/
def uwb : Environment Nat (ControllerUwb Nat) Nat (List Char) Empty where
  deviceId := ControllerUwb.id
  format := Json.text
  agentClass := fun _ => .uwbWindows
  controllerUwb := fun _ controller => controller
  deviceId_controllerUwb := fun _ _ => rfl

/-- Agents that have started, and nothing else. -/
def startedMembers : Members Nat (ControllerUwb Nat) Nat Nat (List Char) where
  onDevicePresenceChanged := fun _ => none
  started := fun _ => true
  registered := fun _ => true
  agentUwb := fun _ => .fresh Nat
  discoveryAgents := []
  nearObjectDevices := []
  profiles := []
  file := none
  sessions := fun _ => []

/-- The wait for a probe times out, and an agent notifies while another thread lists the devices. -/
def callsTrace : List (Label Nat Nat (ControllerUwb Nat) Nat Nat (List Char)) :=
  [.call 0 (.addDiscoveryAgent 0 false [⟨5, fun _ => false⟩] true), .move (.caller 0),
    .move (.caller 0), .move (.caller 0), .move (.caller 0), .move (.caller 0), .move (.caller 0),
    .move (.caller 0), .move (.caller 0), .move (.task 0),
    .call 1 (.onDeviceInterfaceNotificationCallback 0 .deviceInterfaceArrival 7 fun _ => false),
    .move (.caller 1), .move (.caller 1), .call 2 (.request .getAllDevices), .move (.caller 2)]

theorem calls_end_waiting : ∃ s, Run (Step uwb) (init Nat startedMembers) callsTrace s ∧
    s.move (.caller 0) = none ∧ s.move (.caller 1) = none ∧
    (∃ other t, s.move other = some t) ∧
    ∃ t, Relation.ReflTransGen Locking.Moves s t ∧
      ∀ runner, t.program runner = .done ∧ ∀ gate, ¬ t.Holds runner gate := by
  have run : Run (Step uwb) (init Nat startedMembers) callsTrace _ := run_of_execute rfl
  obtain ⟨goes, -, ⟨t, moves, rests⟩, quiet⟩ := calls_end run
  have running := quiet (fun _ _ found => by cases found) fun thread operation called => by
    simp only [callsTrace, List.mem_cons, List.not_mem_nil, reduceCtorEq, Locking.Label.call.injEq,
      or_false, false_or] at called
    rcases called with ⟨-, rfl⟩ | ⟨-, rfl⟩ | ⟨-, rfl⟩ <;> trivial
  have idle := rests.resolve_left fun halted => by simp [running t moves] at halted
  exact ⟨_, run, rfl, rfl, goes (running _ .refl) (.caller 0) nofun, t, moves, idle⟩

end Runs

end NearObject.Service
