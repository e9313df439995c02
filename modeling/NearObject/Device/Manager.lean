/-
**`NearObjectDeviceControllerManager` — the device list.**

Arrivals and probe results are added, departures are removed. Devices are compared by `Id()`, which
is any function of the device here. The search for an existing device in `AddDevice` always fails,
so that `AddDevice` always appends; `RemoveDevice` erases the first match only.

`Distinct` says of a list that no two of its devices compare equal. Adding a device keeps that
exactly where it compares equal to none, and removing one leaves none that compares equal to it.
-/

import Mathlib.Data.List.Pairwise

namespace NearObject.Device

/-! ### The code -/

/-- `NearObjectDevicePresence`. -/
inductive NearObjectDevicePresence
  | arrived
  | departed
  deriving DecidableEq, Repr

section Manager

variable {Device : Type} (deviceId : Device → UInt64)

/-- `operator==(const NearObjectDeviceController&, const NearObjectDeviceController&)`. -/
def sameDevice (lhs rhs : Device) : Bool :=
  deviceId lhs == deviceId rhs

/-- `AddDevice`. -/
def addDevice (nearObjectDevices : List Device) (nearObjectDevice : Device) : List Device :=
  -- the predicate of the search is a placeholder in the source
  let nearObjectDeviceExists := nearObjectDevices.any fun _ => false
  if nearObjectDeviceExists then nearObjectDevices else nearObjectDevices ++ [nearObjectDevice]

/-- `RemoveDevice`: `std::find_if` and `erase`. -/
def removeDevice (nearObjectDevices : List Device) (nearObjectDevice : Device) : List Device :=
  match nearObjectDevices.findIdx? fun nearObjectDeviceExisting =>
      sameDevice deviceId nearObjectDeviceExisting nearObjectDevice with
  | some nearObjectDeviceToRemove => nearObjectDevices.eraseIdx nearObjectDeviceToRemove
  | none => nearObjectDevices

/-- `OnDevicePresenceChanged`. -/
def onDevicePresenceChanged (nearObjectDevices : List Device) (presence : NearObjectDevicePresence)
    (deviceChanged : Device) : List Device :=
  match presence with
  | .arrived => addDevice nearObjectDevices deviceChanged
  | .departed => removeDevice deviceId nearObjectDevices deviceChanged

end Manager

/-! ### What the two operations do -/

section Operations

variable {Device : Type} {deviceId : Device → UInt64} {devices : List Device} {device : Device}

/-- **`AddDevice` always appends.** -/
theorem addDevice_eq (devices : List Device) (device : Device) :
    addDevice devices device = devices ++ [device] := by
  simp [addDevice]

/-- `RemoveDevice` erases the first match. -/
theorem removeDevice_eq (devices : List Device) (device : Device) :
    removeDevice deviceId devices device =
      devices.eraseP fun existing => sameDevice deviceId existing device := by
  rw [removeDevice, List.eraseP_eq_eraseIdx]
  cases devices.findIdx? fun existing => sameDevice deviceId existing device <;> rfl

theorem removeDevice_sublist (devices : List Device) (device : Device) :
    (removeDevice deviceId devices device).Sublist devices := by
  rw [removeDevice_eq]
  exact List.eraseP_sublist

theorem removeDevice_cons_of_same {first : Device} {rest : List Device}
    (same : sameDevice deviceId first device = true) :
    removeDevice deviceId (first :: rest) device = rest := by
  rw [removeDevice_eq]
  exact List.eraseP_cons_of_pos same

theorem removeDevice_cons_of_ne {first : Device} {rest : List Device}
    (different : sameDevice deviceId first device = false) :
    removeDevice deviceId (first :: rest) device = first :: removeDevice deviceId rest device := by
  rw [removeDevice_eq, removeDevice_eq]
  exact List.eraseP_cons_of_neg (by simp [different])

end Operations

/-! ### Lists without two equal devices -/

section Distinct

variable {Device : Type} {deviceId : Device → UInt64} {devices : List Device} {device : Device}

/-- No two devices of the list compare equal. -/
def Distinct (deviceId : Device → UInt64) (devices : List Device) : Prop :=
  devices.Pairwise fun first second => sameDevice deviceId first second = false

/-- No device of the list compares equal to this one. -/
def Absent (deviceId : Device → UInt64) (devices : List Device) (device : Device) : Prop :=
  ∀ existing ∈ devices, sameDevice deviceId existing device = false

instance (devices : List Device) (device : Device) : Decidable (Absent deviceId devices device) :=
  inferInstanceAs (Decidable (∀ _ ∈ _, _ = _))

theorem sameDevice_symm (first second : Device) :
    sameDevice deviceId first second = sameDevice deviceId second first :=
  Bool.beq_comm

/-- Appending keeps a list distinct exactly where the new device compares equal to none. -/
theorem distinct_append :
    Distinct deviceId (devices ++ [device]) ↔
      Distinct deviceId devices ∧ Absent deviceId devices device := by
  simp [Distinct, Absent, List.pairwise_append]

theorem distinct_removeDevice (distinct : Distinct deviceId devices) :
    Distinct deviceId (removeDevice deviceId devices device) :=
  distinct.sublist (removeDevice_sublist devices device)

/-- **Removing a device from a distinct list leaves none that compares equal to it.** -/
theorem absent_removeDevice (distinct : Distinct deviceId devices) :
    Absent deviceId (removeDevice deviceId devices device) device := by
  induction devices with
  | nil => exact fun existing member => absurd member List.not_mem_nil
  | cons first rest ih =>
    obtain ⟨others, tail⟩ := List.pairwise_cons.mp distinct
    cases same : sameDevice deviceId first device with
    | true =>
      rw [removeDevice_cons_of_same same]
      intro existing member
      have ids : deviceId first = deviceId device := beq_iff_eq.mp same
      rw [sameDevice, ← ids]
      exact (sameDevice_symm existing first).trans (others existing member)
    | false =>
      rw [removeDevice_cons_of_ne same]
      intro existing member
      rcases List.mem_cons.mp member with rfl | member
      · exact same
      · exact ih tail existing member

end Distinct

end NearObject.Device
