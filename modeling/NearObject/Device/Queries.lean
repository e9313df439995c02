/-
**`NearObjectDeviceControllerManager` — the device list under its gate.**

`AddDevice`, `RemoveDevice`, `GetDefaultDevice` and `GetAllDevices` each hold
`m_nearObjectDeviceGate` from beginning to end, and go over `m_nearObjectDevices` one device after
another: the search of `AddDevice`, which never succeeds, that of `RemoveDevice`, and the copy of
`GetAllDevices`. Each is an exclusive section of `Transition.Guarded`.

`device_list_atomic` — the loops, whatever the order of the threads, come to the functions of
`Device.Manager`, one call after the other; the default device is the oldest that is left, and all
devices are those of one moment.
-/

import NearObject.Device.Manager
import NearObject.Transition.Guarded

namespace NearObject.Device.Queries

open Transition
open Transition.Atomic (Entry Serial Answers calls own)
open Transition.Guarded (Sections Evaluates Implements linearizable)

variable {Device : Type} (deviceId : Device → UInt64)

/-! ### The sections -/

inductive Operation (Device : Type)
  | addDevice (nearObjectDevice : Device)
  | removeDevice (nearObjectDevice : Device)
  | getDefaultDevice
  | getAllDevices
  deriving DecidableEq, Repr

inductive Result (Device : Type)
  | unit
  | device (device : Option Device)
  | devices (devices : List Device)
  deriving DecidableEq, Repr

/-- Where a section is in its loop. -/
inductive Cursor (Device : Type)
  /-- In the search of `AddDevice` or of `RemoveDevice`. -/
  | searching (position : Nat)
  | changed
  /-- In the `std::transform` of `GetAllDevices`, after these devices. -/
  | copying (nearObjectDevices : List Device)
  deriving DecidableEq, Repr

/-- One step under `m_nearObjectDeviceGate`. -/
def next : Operation Device → Cursor Device → List Device →
    (Cursor Device × List Device) ⊕ Result Device
  | .addDevice nearObjectDevice, .searching position, devices =>
    -- the predicate of the search is false of every device
    if position < devices.length then .inl (.searching (position + 1), devices)
    else .inl (.changed, devices ++ [nearObjectDevice])
  | .removeDevice nearObjectDevice, .searching position, devices =>
    match devices[position]? with
    | some nearObjectDeviceExisting =>
      if sameDevice deviceId nearObjectDeviceExisting nearObjectDevice then
        .inl (.changed, devices.eraseIdx position)
      else .inl (.searching (position + 1), devices)
    | none => .inr .unit
  | .getDefaultDevice, _, devices => .inr (.device devices.head?)
  | .getAllDevices, .copying nearObjectDevices, devices =>
    match devices[nearObjectDevices.length]? with
    | some nearObjectDevice => .inl (.copying (nearObjectDevices ++ [nearObjectDevice]), devices)
    | none => .inr (.devices nearObjectDevices)
  | _, _, _ => .inr .unit

def start : Operation Device → Cursor Device
  | .getAllDevices => .copying []
  | _ => .searching 0

/-- **The sections of the manager.** -/
def sections : Sections (Operation Device) (Result Device) (List Device) (Cursor Device) where
  exclusive := fun _ => true
  start := start
  next := next deviceId
  reads := fun shared => by cases shared

/-! ### What they compute -/

/-- What an operation answers. -/
def answer (devices : List Device) : Operation Device → Result Device
  | .addDevice _ | .removeDevice _ => .unit
  | .getDefaultDevice => .device devices.head?
  | .getAllDevices => .devices devices

/-- What an operation leaves. -/
def leaves (devices : List Device) : Operation Device → List Device
  | .addDevice nearObjectDevice => addDevice devices nearObjectDevice
  | .removeDevice nearObjectDevice => removeDevice deviceId devices nearObjectDevice
  | .getDefaultDevice | .getAllDevices => devices

/-- The operations, one at a time. -/
def perform (operation : Operation Device) (devices : List Device) : List Device × Result Device :=
  (leaves deviceId devices operation, answer devices operation)

variable {deviceId}

/-- The search of `AddDevice` goes to the end. -/
theorem evaluates_add (device : Device) (devices : List Device) : ∀ left position : Nat,
    devices.length - position = left →
      Evaluates (sections deviceId) (.addDevice device) (.searching position) devices
        (devices ++ [device]) .unit := by
  intro left
  induction left with
  | zero =>
    intro position none
    have past : ¬ position < devices.length := by omega
    exact .more (if_neg past) (.done rfl)
  | succ left ih =>
    intro position some
    have inside : position < devices.length := by omega
    exact .more (if_pos inside) (ih (position + 1) (by omega))

/-- The search of `RemoveDevice`, from a position with no match before it. -/
theorem evaluates_remove (device : Device) (devices : List Device) : ∀ left position : Nat,
    devices.length - position = left →
      (∀ (before : Nat) (inside : before < devices.length), before < position →
        sameDevice deviceId devices[before] device = false) →
      Evaluates (sections deviceId) (.removeDevice device) (.searching position) devices
        (removeDevice deviceId devices device) .unit := by
  intro left
  induction left with
  | zero =>
    intro position none unmatched
    have past : devices.length ≤ position := Nat.le_of_sub_eq_zero none
    have absent :
        devices.findIdx? (fun existing => sameDevice deviceId existing device) = .none := by
      refine List.findIdx?_eq_none_iff.mpr fun existing member => ?_
      obtain ⟨before, inside, rfl⟩ := List.mem_iff_getElem.mp member
      exact unmatched before inside (by omega)
    have ends :
        next deviceId (.removeDevice device) (.searching position) devices = .inr .unit := by
      rw [next, List.getElem?_eq_none past]
    rw [removeDevice, absent]
    exact .done ends
  | succ left ih =>
    intro position some unmatched
    have inside : position < devices.length := by omega
    have goes : next deviceId (.removeDevice device) (.searching position) devices =
        if sameDevice deviceId devices[position] device then
          .inl (.changed, devices.eraseIdx position)
        else .inl (.searching (position + 1), devices) := by
      rw [next, List.getElem?_eq_getElem inside]
    by_cases same : sameDevice deviceId devices[position] device = true
    · have first : devices.findIdx? (fun existing => sameDevice deviceId existing device) =
          .some position := by
        refine List.findIdx?_eq_some_iff_getElem.mpr ⟨inside, same, fun before earlier => ?_⟩
        exact Bool.eq_false_iff.mp (unmatched before (by omega) earlier)
      rw [if_pos same] at goes
      rw [removeDevice, first]
      exact .more goes (.done rfl)
    · rw [if_neg same] at goes
      refine .more goes (ih (position + 1) (by omega) fun before inside earlier => ?_)
      rcases Nat.lt_succ_iff_lt_or_eq.mp earlier with less | rfl
      · exact unmatched before inside less
      · exact Bool.eq_false_iff.mpr same

/-- The copy of `GetAllDevices`, after some devices. -/
theorem evaluates_all (devices : List Device) : ∀ left position : Nat,
    devices.length - position = left → position ≤ devices.length →
      Evaluates (sections deviceId) .getAllDevices (.copying (devices.take position)) devices
        devices (.devices devices) := by
  intro left
  induction left with
  | zero =>
    intro position none inside
    obtain rfl : position = devices.length := by omega
    rw [List.take_length]
    have ends : next deviceId .getAllDevices (.copying devices) devices =
        .inr (.devices devices) := by
      rw [next, List.getElem?_eq_none (Nat.le_refl _)]
    exact .done ends
  | succ left ih =>
    intro position some _
    have inside : position < devices.length := by omega
    have goes : next deviceId .getAllDevices (.copying (devices.take position)) devices =
        .inl (.copying (devices.take (position + 1)), devices) := by
      rw [next, List.length_take_of_le (Nat.le_of_lt inside), List.getElem?_eq_getElem inside,
        List.take_succ_eq_append_getElem inside]
    exact .more goes (ih (position + 1) (by omega) inside)

theorem implements : Implements (sections deviceId) (perform deviceId) := by
  intro operation devices
  cases operation with
  | addDevice device =>
    show Evaluates (sections deviceId) _ (.searching 0) devices (addDevice devices device) .unit
    rw [addDevice_eq]
    exact evaluates_add device devices _ 0 rfl
  | removeDevice device =>
    exact evaluates_remove device devices _ 0 rfl fun before _ earlier => by omega
  | getDefaultDevice => exact .done rfl
  | getAllDevices => exact evaluates_all devices _ 0 rfl (Nat.zero_le _)

/-! ### One call after the other -/

section Serial

variable {Thread : Type}

/-- The devices that the calls leave. -/
def listed (deviceId : Device → UInt64) (initial : List Device)
    (order : List (Entry Thread (Operation Device) (Result Device))) : List Device :=
  order.foldl (fun devices entry => leaves deviceId devices entry.operation) initial

variable {order before after : List (Entry Thread (Operation Device) (Result Device))}
  {initial final : List Device}

theorem serial_listed (run : Run (Serial (perform deviceId)) initial order final) :
    final = listed deviceId initial order := by
  induction run with
  | nil => rfl
  | snoc _ taken ih =>
    rw [listed, List.foldl_append]
    exact (congrArg Prod.fst taken).symm.trans (ih ▸ rfl)

theorem serial_answer {entry : Entry Thread (Operation Device) (Result Device)}
    (run : Run (Serial (perform deviceId)) initial (before ++ entry :: after) final) :
    entry.result = answer (listed deviceId initial before) entry.operation := by
  obtain ⟨devices, devices', first, taken, -⟩ := run.cut before after
  have answers := congrArg Prod.snd taken
  rw [serial_listed first] at answers
  exact answers.symm

end Serial

/-! ### Runs -/

section Runs

variable {Thread : Type} [DecidableEq Thread] [DecidableEq Device]

/-- **The device list is atomic.** -/
theorem device_list_atomic {initial : List Device}
    {trace : List (Guarded.Label Thread (Operation Device) (Result Device))}
    {s : Guarded.State Thread (Operation Device) (Result Device) (List Device) (Cursor Device)}
    (run : Run (Guarded.Step (sections deviceId))
      (Guarded.init Thread (Operation Device) (Result Device) (Cursor Device) initial) trace s) :
    ∃ order : List (Guarded.Label Thread (Operation Device) (Result Device)) →
        List (Entry Thread (Operation Device) (Result Device)),
      (s.writer = none → s.value = listed deviceId initial (order trace)) ∧
      (∀ before entry after, order trace = before ++ entry :: after →
        entry.result = answer (listed deviceId initial before) entry.operation) ∧
      ∀ early late, trace = early ++ late → order early <+: order trace ∧
        ∀ thread,
          Answers (calls thread (early.flatMap Guarded.observe)) (own thread (order early)) := by
  obtain ⟨final, value, order, serial, explained⟩ := linearizable implements run
  refine ⟨order, fun free => (value free).trans (serial_listed serial), ?_, explained⟩
  intro before entry after shape
  rw [shape] at serial
  exact serial_answer serial

/-- A device departs while another thread asks for the default one. -/
def departingTrace : List (Guarded.Label Nat (Operation UInt64) (Result UInt64)) :=
  [.call 0 (.addDevice 7), .acquire 0, .advance 0, .release 0, .return 0 .unit,
    .call 0 (.removeDevice 7), .call 1 .getDefaultDevice, .acquire 0, .advance 0, .release 0,
    .acquire 1, .release 1, .return 1 (.device none), .return 0 .unit]

theorem device_list_atomic_departing :
    ∃ (order : List (Guarded.Label Nat (Operation UInt64) (Result UInt64)) →
        List (Entry Nat (Operation UInt64) (Result UInt64)))
      (s : Guarded.State Nat (Operation UInt64) (Result UInt64) _ (Cursor UInt64)),
    Run (Guarded.Step (sections id))
        (Guarded.init Nat (Operation UInt64) (Result UInt64) (Cursor UInt64) [])
        departingTrace s ∧
      s.value = listed id [] (order departingTrace) ∧
      Answers (calls 1 (departingTrace.flatMap Guarded.observe))
        (own 1 (order departingTrace)) := by
  have run : Run (Guarded.Step (sections id))
      (Guarded.init Nat (Operation UInt64) (Result UInt64) (Cursor UInt64) [])
      departingTrace _ := run_of_execute rfl
  obtain ⟨order, value, -, explained⟩ := device_list_atomic run
  exact ⟨order, _, run, value rfl, (explained _ [] (List.append_nil _).symm).2 1⟩

end Runs

end NearObject.Device.Queries
