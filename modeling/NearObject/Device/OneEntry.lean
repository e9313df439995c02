/-
**`NearObjectDeviceControllerManager` — one entry for each device.**

Discovery agents notify the manager, and `AddDiscoveryAgent` adds the results of a probe; each of
these calls is one step on the device list, under `m_nearObjectDeviceGate`. Since `AddDevice` does
not find an existing device, a second arrival of a device is a second entry, and a departure erases
only one of them.

`OneEntry` is what the manager should keep along a run. It holds of exactly the runs in which every
device that is added compares equal to none in the list, and of exactly the traces in which one that
compares equal departs between any two that are added (`one_entry_iff`).
-/

import NearObject.Device.Manager
import NearObject.Transition.Run

namespace NearObject.Device

open Transition

/-- The calls that change the device list, with the agent that they come from. -/
inductive Label (Agent Device : Type)
  | presenceChanged (agent : Agent) (presence : NearObjectDevicePresence) (device : Device)
  | probeResult (agent : Agent) (device : Device)
  deriving DecidableEq, Repr

section

variable {Agent Device : Type} {deviceId : Device → UInt64}

/-- The device that is added, if any. -/
def Label.added : Label Agent Device → Option Device
  | .presenceChanged _ .arrived device | .probeResult _ device => some device
  | .presenceChanged _ .departed _ => none

/-- One call on the manager. -/
def handle (deviceId : Device → UInt64) (devices : List Device) : Label Agent Device → List Device
  | .presenceChanged _ presence device => onDevicePresenceChanged deviceId devices presence device
  | .probeResult _ device => addDevice devices device

/-- The device list, as a system. -/
abbrev Step (deviceId : Device → UInt64) : List Device → Label Agent Device → List Device → Prop :=
  Next fun devices label => some (handle deviceId devices label)

/-- The device that is added compares equal to none in the list. -/
def AddsNew (deviceId : Device → UInt64) (devices : List Device) (label : Label Agent Device) :
    Prop :=
  ∀ device ∈ label.added, Absent deviceId devices device

instance (devices : List Device) (label : Label Agent Device) :
    Decidable (AddsNew deviceId devices label) :=
  inferInstanceAs (Decidable (∀ device ∈ label.added, Absent deviceId devices device))

/-- **One entry for each device**, along a trace: in every state that it passes, no two devices
compare equal, and none compares equal to one that has departed, until one that does is added. -/
def OneEntry (deviceId : Device → UInt64) (trace : List (Label Agent Device)) : Prop :=
  ∀ early late devices, trace = early ++ late → Run (Step deviceId) [] early devices →
    Distinct deviceId devices ∧
    ∀ before agent device since,
      early = before ++ .presenceChanged agent .departed device :: since →
      (∀ label ∈ since, ∀ added ∈ label.added, sameDevice deviceId added device = false) →
      Absent deviceId devices device

/-- **Between two devices that are added and compare equal, one that does departs.** -/
def DepartsBetween (deviceId : Device → UInt64) (trace : List (Label Agent Device)) : Prop :=
  ∀ before first since again late added device,
    trace = before ++ first :: (since ++ again :: late) → added ∈ first.added →
    device ∈ again.added → sameDevice deviceId added device = true →
    ∃ agent departed, .presenceChanged agent .departed departed ∈ since ∧
      sameDevice deviceId departed device = true

/-! ### One step -/

theorem step_iff {devices after : List Device} {label : Label Agent Device} :
    Step deviceId devices label after ↔ after = handle deviceId devices label := by
  simp [Step, Next, eq_comm]

/-- A step either appends the device it adds, or removes one. -/
theorem handle_cases (devices : List Device) (label : Label Agent Device) :
    (∃ device, label.added = some device ∧ handle deviceId devices label = devices ++ [device]) ∨
    ∃ agent device, label = .presenceChanged agent .departed device ∧
      handle deviceId devices label = removeDevice deviceId devices device := by
  cases label with
  | presenceChanged agent presence device =>
    cases presence with
    | arrived => exact .inl ⟨device, rfl, addDevice_eq devices device⟩
    | departed => exact .inr ⟨agent, device, rfl, rfl⟩
  | probeResult agent device => exact .inl ⟨device, rfl, addDevice_eq devices device⟩

/-- A step keeps a list distinct exactly where it adds a new device. -/
theorem distinct_handle {devices : List Device} {label : Label Agent Device}
    (distinct : Distinct deviceId devices) :
    Distinct deviceId (handle deviceId devices label) ↔ AddsNew deviceId devices label := by
  rcases handle_cases devices label with ⟨device, adds, same⟩ | ⟨agent, device, rfl, same⟩
  · rw [same, distinct_append, AddsNew, adds]
    simp [distinct]
  · rw [same]
    refine iff_of_true (distinct_removeDevice distinct) fun added adds => ?_
    cases adds

/-- A device stays absent until one that compares equal to it is added. -/
theorem absent_handle {devices : List Device} {label : Label Agent Device} {device : Device}
    (absent : Absent deviceId devices device)
    (others : ∀ added ∈ label.added, sameDevice deviceId added device = false) :
    Absent deviceId (handle deviceId devices label) device := by
  rcases handle_cases devices label with ⟨added, adds, same⟩ | ⟨agent, removed, rfl, same⟩
  · rw [same]
    intro existing member
    rcases List.mem_append.mp member with member | member
    · exact absent existing member
    · rw [List.mem_singleton.mp member]
      exact others added adds
  · rw [same]
    exact fun existing member =>
      absent existing ((removeDevice_sublist devices removed).subset member)

/-- A device stays in the list until one that compares equal to it departs. -/
theorem mem_handle {devices : List Device} {label : Label Agent Device} {existing : Device}
    (member : existing ∈ devices)
    (others : ∀ agent departed, label = .presenceChanged agent .departed departed →
      sameDevice deviceId departed existing = false) :
    existing ∈ handle deviceId devices label := by
  rcases handle_cases devices label with ⟨added, adds, same⟩ | ⟨agent, departed, rfl, same⟩
  · rw [same]
    exact List.mem_append_left _ member
  · have different := others agent departed rfl
    rw [sameDevice_symm] at different
    rw [same, removeDevice_eq]
    exact (List.mem_eraseP_of_neg (by simp [different])).mpr member

/-! ### Whole runs -/

/-- The steps of a run in which every device that is added is new. -/
abbrev NewStep (deviceId : Device → UInt64) :
    List Device → Label Agent Device → List Device → Prop :=
  Restrict (Step deviceId) (AddsNew deviceId)

variable {trace : List (Label Agent Device)} {devices : List Device}

theorem distinct_run (run : Run (NewStep deviceId) [] trace devices) : Distinct deviceId devices :=
  run.invariant (Distinct deviceId) List.Pairwise.nil fun s label t distinct ⟨new, taken⟩ => by
    rw [step_iff.mp taken]
    exact (distinct_handle distinct).mpr new

theorem absent_run {start : List Device} {device : Device} (absent : Absent deviceId start device)
    (run : Run (Step deviceId) start trace devices)
    (others : ∀ label ∈ trace, ∀ added ∈ label.added, sameDevice deviceId added device = false) :
    Absent deviceId devices device := by
  induction run with
  | nil => exact absent
  | snoc before taken ih =>
    rw [step_iff.mp taken]
    refine absent_handle (ih fun label member => others label ?_) (others _ ?_)
    · exact List.mem_append_left _ member
    · exact List.mem_append_right _ (List.mem_singleton_self _)

/-- Runs that add only new devices keep one entry for each. -/
theorem one_entry_of_new (run : Run (NewStep deviceId) [] trace devices) :
    OneEntry deviceId trace := by
  rintro early late middle rfl before
  obtain ⟨middle', first, -⟩ := run.split early late
  obtain rfl := before.unique first.unrestrict
  refine ⟨distinct_run first, ?_⟩
  rintro earlier agent device since rfl others
  obtain ⟨present, until', rest⟩ :=
    first.split earlier (.presenceChanged agent .departed device :: since)
  obtain ⟨after, ⟨-, departs⟩, stays⟩ := rest.cons_inv
  refine absent_run ?_ stays.unrestrict others
  rw [step_iff.mp departs]
  exact absent_removeDevice (distinct_run until')

/-- Runs that keep one entry for each device add only new ones. -/
theorem new_of_one_entry (run : Run (Step deviceId) [] trace devices)
    (keeps : OneEntry deviceId trace) : Run (NewStep deviceId) [] trace devices := by
  induction run with
  | nil => exact .nil
  | @snoc trace middle finish label before taken ih =>
    have earlier : OneEntry deviceId trace := fun early late devices same =>
      keeps early (late ++ [label]) devices (by rw [same, List.append_assoc])
    refine .snoc (ih earlier) ⟨?_, taken⟩
    have distinct := (keeps trace [label] middle rfl before).1
    refine (distinct_handle distinct).mp ?_
    rw [← step_iff.mp taken]
    exact (keeps (trace ++ [label]) [] finish (List.append_nil _).symm (before.snoc taken)).1

/-! ### Notifications -/

theorem mem_run {start : List Device} {existing : Device} (member : existing ∈ start)
    (run : Run (Step deviceId) start trace devices)
    (others : ∀ agent departed, .presenceChanged agent .departed departed ∈ trace →
      sameDevice deviceId departed existing = false) : existing ∈ devices := by
  induction run with
  | nil => exact member
  | snoc before taken ih =>
    rw [step_iff.mp taken]
    refine mem_handle (ih fun agent departed earlier => ?_) fun agent departed same => ?_
    · exact others agent departed (List.mem_append_left _ earlier)
    · exact others agent departed (List.mem_append_right _ (List.mem_singleton.mpr same.symm))

/-- The device has been added, and none that compares equal to it has departed since. -/
def AddedLast (deviceId : Device → UInt64) (trace : List (Label Agent Device)) (existing : Device) :
    Prop :=
  ∃ before first since, trace = before ++ first :: since ∧ existing ∈ first.added ∧
    ∀ agent departed, .presenceChanged agent .departed departed ∈ since →
      sameDevice deviceId departed existing = false

theorem AddedLast.snoc {label : Label Agent Device} {existing : Device}
    (added : AddedLast deviceId trace existing)
    (stays : ∀ agent departed, label = .presenceChanged agent .departed departed →
      sameDevice deviceId departed existing = false) :
    AddedLast deviceId (trace ++ [label]) existing := by
  obtain ⟨before, first, since, rfl, adds, others⟩ := added
  refine ⟨before, first, since ++ [label], by simp, adds, fun agent departed departs => ?_⟩
  rcases List.mem_append.mp departs with departs | last
  · exact others agent departed departs
  · exact stays agent departed (List.mem_singleton.mp last).symm

/-- Where each device that is added is new, those of the list have been added last. -/
theorem addedLast_of_mem (run : Run (NewStep deviceId) [] trace devices) :
    ∀ existing ∈ devices, AddedLast deviceId trace existing := by
  refine run.history (fun trace devices => ∀ existing ∈ devices, AddedLast deviceId trace existing)
    (fun _ member => absurd member List.not_mem_nil) ?_
  rintro trace s label t before ih ⟨new, taken⟩ existing member
  rw [step_iff.mp taken] at member
  rcases handle_cases s label with ⟨device, adds, same⟩ | ⟨agent, device, rfl, same⟩
  · rw [same] at member
    rcases List.mem_append.mp member with earlier | last
    · refine (ih existing earlier).snoc ?_
      rintro agent departed rfl
      cases adds
    · rw [List.mem_singleton.mp last]
      exact ⟨trace, label, [], rfl, adds, fun _ _ departs => absurd departs List.not_mem_nil⟩
  · rw [same] at member
    refine (ih existing ((removeDevice_sublist s device).subset member)).snoc
      fun other departed shape => ?_
    obtain ⟨-, -, rfl⟩ := Label.presenceChanged.inj shape
    rw [sameDevice_symm]
    exact absent_removeDevice (distinct_run before) existing member

/-- A run that adds only new devices is one in which equal ones depart in between. -/
theorem departsBetween_of_new (run : Run (NewStep deviceId) [] trace devices) :
    DepartsBetween deviceId trace := by
  rintro before first since again late added device rfl adds again_adds same
  by_contra none
  have stays (agent : Agent) (departed : Device)
      (departs : .presenceChanged agent .departed departed ∈ since) :
      sameDevice deviceId departed added = false := by
    have different : sameDevice deviceId departed device = false :=
      Bool.eq_false_iff.mpr fun equal => none ⟨agent, departed, departs, equal⟩
    rwa [sameDevice, beq_iff_eq.mp same]
  obtain ⟨earlier, middle, -, ⟨-, taken⟩, rest⟩ := Run.cut before _ run
  obtain ⟨full, after, inside, ⟨new, -⟩, -⟩ := Run.cut since late rest
  have member : added ∈ middle := by
    rcases handle_cases earlier first with ⟨device, shown, appends⟩ | ⟨agent, device, rfl, -⟩
    · obtain rfl := Option.some.inj (shown.symm.trans adds)
      rw [step_iff.mp taken, appends]
      exact List.mem_append_right _ (List.mem_singleton_self _)
    · cases adds
  have present := mem_run member inside.unrestrict stays
  exact Bool.false_ne_true ((new device again_adds added present).symm.trans same)

/-- Where equal devices depart in between, each one is new when it is added. -/
theorem new_of_departsBetween (run : Run (Step deviceId) [] trace devices)
    (departs : DepartsBetween deviceId trace) : Run (NewStep deviceId) [] trace devices := by
  induction run with
  | nil => exact .nil
  | @snoc trace middle finish label before taken ih =>
    have kept := ih fun before first since again late added device same =>
      departs before first since again (late ++ [label]) added device (by simp [same])
    refine .snoc kept ⟨fun device adds existing member => ?_, taken⟩
    by_contra equal
    have same : sameDevice deviceId existing device = true := by simpa using equal
    obtain ⟨earlier, first, since, rfl, added, others⟩ := addedLast_of_mem kept existing member
    obtain ⟨agent, departed, inside, departing⟩ :=
      departs earlier first since label [] existing device (by simp) added adds same
    have different := others agent departed inside
    rw [sameDevice, beq_iff_eq.mp same] at different
    exact Bool.false_ne_true (different.symm.trans departing)

/-- **One entry for each device.** A run keeps one entry for each device if and only if none of its
steps adds a device while one that compares equal to it is in the list. In terms of the calls alone,
it does if and only if between any two devices that are added and compare equal one that does
departs. -/
theorem one_entry_iff (run : Run (Step deviceId) [] trace devices) :
    (OneEntry deviceId trace ↔ Run (NewStep deviceId) [] trace devices) ∧
      (OneEntry deviceId trace ↔ DepartsBetween deviceId trace) :=
  ⟨⟨new_of_one_entry run, one_entry_of_new⟩,
    fun keeps => departsBetween_of_new (new_of_one_entry run keeps),
    fun departs => one_entry_of_new (new_of_departsBetween run departs)⟩

end

/-- A device arrives, departs and arrives again, while another one is probed. -/
def newTrace : List (Label Nat UInt64) :=
  [.presenceChanged 0 .arrived 7, .probeResult 1 8, .presenceChanged 0 .departed 7,
    .presenceChanged 0 .arrived 7]

theorem one_entry_iff_new : OneEntry id newTrace := by
  have run : Run (NewStep id) [] newTrace _ := run_of_execute_guarded rfl
  exact (one_entry_iff run.unrestrict).1.mpr run

/-- Two agents report the same device, and one of them reports that it departs. -/
def twiceTrace : List (Label Nat UInt64) :=
  [.presenceChanged 0 .arrived 7, .probeResult 1 7, .presenceChanged 0 .departed 7]

theorem not_one_entry_twice : ¬ OneEntry id twiceTrace := by
  intro keeps
  have run : Run (Step id) [] twiceTrace [7] := run_of_execute rfl
  have absent := (keeps twiceTrace [] [7] rfl run).2
    [.presenceChanged 0 .arrived 7, .probeResult 1 7] 0 7 [] rfl (by simp)
  exact absurd (absent 7 (List.mem_singleton_self _)) (by decide)

end NearObject.Device
