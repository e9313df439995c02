/-
**A device that departs after the snapshot of the probe, and comes back.**

Once the call of `AddDiscoveryAgent` has returned and every notification has been handled, a device
whose last notification is a departure issued after the snapshot should be gone (`StaysAway`). It is
not where that departure was handled too early: while the device was still to be added, or while
fewer departures of it were pending than the list had entries (`Overlooks`).

`Settled` is the invariant: nothing will add the device any more, and the departures that are
pending remove what is listed of it. A step cannot unsettle a device about which nothing more is
issued, so that a run without an overlooked departure has the property (`stays_away_of_keeping`).
Where an unsettled departure was handled, the rest can be handled in such an order that the device
stays unsettled, and is listed in the end (`comes_back`).
-/

import NearObject.Device.Probe
import Mathlib.Data.List.Count

namespace NearObject.Device.Probe

open Transition

/-! ### The property and its condition -/

section

variable {Device : Type}

/-- What the agent has issued, in order. -/
def State.issued (s : State Device) : List (Notice Device) :=
  s.deliveries.map Delivery.toNotice

/-- At this position is the last notification about the device: a departure after the snapshot. -/
def LastDeparture (s : State Device) (position : Nat) (device : Device) : Prop :=
  s.issued[position]? = some ⟨.departed, device, true⟩ ∧
    ∀ later ∈ s.issued.drop (position + 1), later.deviceChanged ≠ device

/-- **A departed device stays away**, once the call has returned and everything is handled. -/
def StaysAway (s : State Device) : Prop :=
  s.adder = .returned → (∀ delivery ∈ s.deliveries, delivery.handled = true) →
    ∀ position device, LastDeparture s position device → device ∉ s.nearObjectDevices

variable [DecidableEq Device]

/-- The notification is of this kind, about this device, and not handled. -/
def Delivery.pending (presence : NearObjectDevicePresence) (device : Device)
    (delivery : Delivery Device) : Bool :=
  delivery.presence = presence ∧ delivery.deviceChanged = device ∧ delivery.handled = false

def State.pending (s : State Device) (presence : NearObjectDevicePresence) (device : Device) :
    Nat :=
  s.deliveries.countP (Delivery.pending presence device)

/-- **Nothing will add the device any more**, and the pending departures remove what is listed. -/
def Settled (s : State Device) (device : Device) : Prop :=
  device ∉ s.adder.awaiting ∧ s.pending .arrived device = 0 ∧
    s.nearObjectDevices.count device ≤ s.pending .departed device

/-- The step handles the last departure of a device that is not settled. -/
def Overlooks (s : State Device) : Label Device → Prop
  | .process position => match s.issued[position]? with
    | some notice => LastDeparture s position notice.deviceChanged ∧
        ¬ Settled s notice.deviceChanged
    | none => False
  | _ => False

instance (s : State Device) (position : Nat) (device : Device) :
    Decidable (LastDeparture s position device) :=
  inferInstanceAs (Decidable (_ ∧ _))

instance (s : State Device) (device : Device) : Decidable (Settled s device) :=
  inferInstanceAs (Decidable (_ ∧ _ ∧ _))

instance (s : State Device) (label : Label Device) : Decidable (Overlooks s label) := by
  unfold Overlooks
  split
  · split <;> infer_instance
  · infer_instance

/-- The steps that overlook no departure. -/
def KeepingStep (deviceId : Device → UInt64) : State Device → Label Device → State Device → Prop :=
  Restrict (Step deviceId) fun s label => ¬ Overlooks s label

theorem overlooks_process {s : State Device} {position : Nat} :
    Overlooks s (.process position) ↔
      ∃ device, LastDeparture s position device ∧ ¬ Settled s device := by
  rw [Overlooks]
  constructor
  · intro overlooks
    split at overlooks
    · exact ⟨_, overlooks⟩
    · exact absurd overlooks id
  · rintro ⟨device, last, unsettled⟩
    rw [last.1]
    exact ⟨last, unsettled⟩

end

/-! ### Handling one notification -/

section Issued

variable {Device : Type} {deviceId : Device → UInt64} {s : State Device} {position : Nat}

theorem issued_handle {delivery : Delivery Device}
    (issued : s.deliveries[position]? = some delivery) :
    (s.handle deviceId position delivery).issued = s.issued := by
  rw [State.issued, State.handle, List.map_set, State.issued]
  refine List.ext_getElem? fun other => ?_
  by_cases same : position = other
  · rw [← same, List.getElem?_set_self', List.getElem?_map, issued]
    rfl
  · rw [List.getElem?_set_ne same]

variable (deviceId) in
/-- Handling a notification takes it out of every count of notifications that are not handled. -/
theorem countP_handle {delivery : Delivery Device} {counts : Delivery Device → Bool}
    (issued : s.deliveries[position]? = some delivery)
    (after : counts { delivery with handled := true } = false) :
    s.deliveries.countP counts = (s.handle deviceId position delivery).deliveries.countP counts +
      if counts delivery then 1 else 0 := by
  obtain ⟨bound, here⟩ := List.getElem?_eq_some_iff.mp issued
  rw [State.handle, List.countP_set bound, here, after, if_neg Bool.false_ne_true]
  cases before : counts delivery with
  | false => rfl
  | true =>
    have positive : 0 < s.deliveries.countP counts :=
      List.countP_pos_iff.mpr ⟨delivery, List.mem_of_getElem? issued, before⟩
    rw [if_pos rfl]
    omega

theorem delivery_of_last {device : Device} (last : LastDeparture s position device) :
    ∃ delivery, s.deliveries[position]? = some delivery ∧
      delivery.toNotice = ⟨.departed, device, true⟩ := by
  have departs := last.1
  rw [State.issued, List.getElem?_map] at departs
  exact Option.map_eq_some_iff.mp departs

theorem taken_of_last (sound : Sound s) {device : Device}
    (last : LastDeparture s position device) : s.snapshotTaken = true := by
  obtain ⟨delivery, here, notice⟩ := delivery_of_last last
  refine sound.late delivery (List.mem_of_getElem? here) ?_
  rw [notice]

end Issued

section Handling

variable {Device : Type} [DecidableEq Device] {deviceId : Device → UInt64} {s : State Device}
  {position : Nat} {delivery : Delivery Device}

/-- Where devices are told apart by their ids, `RemoveDevice` erases the device. -/
theorem removeDevice_eq_erase (injective : deviceId.Injective) (devices : List Device)
    (device : Device) : removeDevice deviceId devices device = devices.erase device := by
  have same : (fun existing => sameDevice deviceId existing device) = (· == device) := by
    funext existing
    rw [sameDevice, Bool.eq_iff_iff, beq_iff_eq, beq_iff_eq, injective.eq_iff]
  rw [removeDevice_eq, same, List.erase_eq_eraseP']

variable (deviceId) in
theorem pending_handle (issued : s.deliveries[position]? = some delivery)
    (unhandled : delivery.handled = false) (presence : NearObjectDevicePresence) (device : Device) :
    s.pending presence device = (s.handle deviceId position delivery).pending presence device +
      if delivery.presence = presence ∧ delivery.deviceChanged = device then 1 else 0 := by
  have after : Delivery.pending presence device { delivery with handled := true } = false := by
    simp [Delivery.pending]
  have before : Delivery.pending presence device delivery =
      decide (delivery.presence = presence ∧ delivery.deviceChanged = device) := by
    simp [Delivery.pending, unhandled]
  rw [State.pending, State.pending, countP_handle deviceId issued after, before]
  simp only [decide_eq_true_eq]

variable (deviceId) in
/-- An arrival, counted: `about` is one where it is about the device, and zero elsewhere. -/
theorem handle_arrived (callback : s.callback = true)
    (issued : s.deliveries[position]? = some delivery) (unhandled : delivery.handled = false)
    (arrived : delivery.presence = .arrived) (device : Device) :
    ∃ about, (s.handle deviceId position delivery).nearObjectDevices.count device =
        s.nearObjectDevices.count device + about ∧
      s.pending .arrived device =
        (s.handle deviceId position delivery).pending .arrived device + about ∧
      s.pending .departed device =
        (s.handle deviceId position delivery).pending .departed device := by
  refine ⟨if delivery.deviceChanged = device then 1 else 0, ?_, ?_, ?_⟩
  · rw [State.handle, State.devicePresenceChanged, if_pos callback, arrived,
      onDevicePresenceChanged, addDevice_eq, List.count_append, List.count_singleton]
    simp
  · rw [pending_handle deviceId issued unhandled]
    simp [arrived]
  · rw [pending_handle deviceId issued unhandled]
    simp [arrived]

/-- A departure, counted in the same way. -/
theorem handle_departed (injective : deviceId.Injective) (callback : s.callback = true)
    (issued : s.deliveries[position]? = some delivery) (unhandled : delivery.handled = false)
    (departed : delivery.presence = .departed) (device : Device) :
    ∃ about, (s.handle deviceId position delivery).nearObjectDevices.count device =
        s.nearObjectDevices.count device - about ∧
      s.pending .arrived device = (s.handle deviceId position delivery).pending .arrived device ∧
      s.pending .departed device =
        (s.handle deviceId position delivery).pending .departed device + about := by
  refine ⟨if delivery.deviceChanged = device then 1 else 0, ?_, ?_, ?_⟩
  · rw [State.handle, State.devicePresenceChanged, if_pos callback, departed,
      onDevicePresenceChanged, removeDevice_eq_erase injective, List.count_erase]
    simp
  · rw [pending_handle deviceId issued unhandled]
    simp [departed]
  · rw [pending_handle deviceId issued unhandled]
    simp [departed]

theorem settled_handle (injective : deviceId.Injective) (callback : s.callback = true)
    (issued : s.deliveries[position]? = some delivery) (unhandled : delivery.handled = false)
    {device : Device} (settled : Settled s device) :
    Settled (s.handle deviceId position delivery) device := by
  obtain ⟨unawaited, arrivals, departures⟩ := settled
  cases presence : delivery.presence with
  | arrived =>
    obtain ⟨about, count, arrived, departed⟩ :=
      handle_arrived deviceId callback issued unhandled presence device
    exact ⟨unawaited, by omega, by omega⟩
  | departed =>
    obtain ⟨about, count, arrived, departed⟩ :=
      handle_departed injective callback issued unhandled presence device
    exact ⟨unawaited, by omega, by omega⟩

/-- An unsettled device stays so, as long as its departures are handled before its arrivals. -/
theorem unsettled_handle (injective : deviceId.Injective) (callback : s.callback = true)
    (issued : s.deliveries[position]? = some delivery) (unhandled : delivery.handled = false)
    {device : Device} (order : delivery.presence = .departed ∨ s.pending .departed device = 0)
    (unsettled : ¬ Settled s device) : ¬ Settled (s.handle deviceId position delivery) device := by
  rintro ⟨unawaited, arrivals, departures⟩
  cases presence : delivery.presence with
  | arrived =>
    obtain ⟨about, count, arrived, departed⟩ :=
      handle_arrived deviceId callback issued unhandled presence device
    rw [presence] at order
    have none : s.pending .departed device = 0 := order.resolve_left (by simp)
    exact unsettled ⟨unawaited, by omega, by omega⟩
  | departed =>
    obtain ⟨about, count, arrived, departed⟩ :=
      handle_departed injective callback issued unhandled presence device
    exact unsettled ⟨unawaited, by omega, by omega⟩

end Handling

theorem pending_of_handled {Device : Type} [DecidableEq Device] {s : State Device}
    (processed : ∀ delivery ∈ s.deliveries, delivery.handled = true)
    (presence : NearObjectDevicePresence) (device : Device) : s.pending presence device = 0 := by
  refine List.countP_eq_zero.mpr fun delivery member => ?_
  simp [Delivery.pending, processed delivery member]

/-! ### Runs that overlook no departure -/

section Keeping

variable {Device : Type} [DecidableEq Device] {deviceId : Device → UInt64} {s t : State Device}
  {label : Label Device} {device : Device}

/-- **A device about which nothing more is issued stays settled.** -/
theorem settled_effect (injective : deviceId.Injective) (sound : Sound s)
    (taken : s.snapshotTaken = true) (settled : Settled s device)
    (others : ∀ presence, label ≠ .issue presence device) (effect : Effect deviceId s label t) :
    Settled t device := by
  cases effect with
  | internal _ _ devices deliveries _ awaiting =>
    obtain ⟨unawaited, arrivals, departures⟩ := settled
    refine ⟨fun member => unawaited (awaiting taken member), ?_, ?_⟩
    · rwa [State.pending, deliveries]
    · rwa [State.pending, deliveries, devices]
  | add added rest adding =>
    obtain ⟨unawaited, arrivals, departures⟩ := settled
    rw [adding] at unawaited
    obtain ⟨different, unawaited⟩ := List.ne_and_not_mem_of_not_mem_cons unawaited
    refine ⟨unawaited, arrivals, ?_⟩
    rw [List.count_append, List.count_singleton, if_neg (by simpa using different.symm)]
    exact departures
  | issue presence changed =>
    have different : changed ≠ device := fun same => others presence (by rw [same])
    have pending : ∀ kind, State.pending { s with deliveries :=
        s.deliveries ++ [⟨⟨presence, changed, s.snapshotTaken⟩, false⟩] } kind device =
          s.pending kind device := by
      intro kind
      simp [State.pending, List.countP_append, Delivery.pending, different]
    obtain ⟨unawaited, arrivals, departures⟩ := settled
    exact ⟨unawaited, (pending _).trans arrivals, (pending _).symm ▸ departures⟩
  | process position delivery issued unhandled =>
    exact settled_handle injective (sound.registered taken) issued unhandled settled

/-- A device is settled once its last departure, issued after the snapshot, has been handled. -/
def Honoured (s : State Device) : Prop :=
  ∀ position delivery, s.deliveries[position]? = some delivery → delivery.handled = true →
    ∀ device, LastDeparture s position device → Settled s device

theorem honoured_step (injective : deviceId.Injective) (sound : Sound s) (honoured : Honoured s)
    (step : KeepingStep deviceId s label t) : Honoured t := by
  obtain ⟨keeps, step⟩ := step
  have effect := effect_of_step sound step
  intro position delivery here handled device last
  -- the device was settled before, and nothing has been issued about it
  suffices before : LastDeparture s position device ∧ Settled s device ∧
      ∀ presence, label ≠ .issue presence device from
    settled_effect injective sound (taken_of_last sound before.1) before.2.1 before.2.2 effect
  cases effect with
  | internal silent _ _ deliveries =>
    rw [deliveries] at here
    rw [LastDeparture, State.issued, deliveries] at last
    exact ⟨last, honoured position delivery here handled device last,
      fun presence => silent presence device⟩
  | add =>
    exact ⟨last, honoured position delivery here handled device last,
      fun presence same => by cases same⟩
  | issue presence changed =>
    rcases Nat.lt_or_ge position s.deliveries.length with bound | beyond
    · have bound' : position < s.issued.length := by rwa [State.issued, List.length_map]
      rw [List.getElem?_append_left bound] at here
      obtain ⟨departs, others⟩ := last
      rw [State.issued, List.map_append, ← State.issued,
        List.getElem?_append_left bound'] at departs
      rw [State.issued, List.map_append, ← State.issued,
        List.drop_append_of_le_length (Nat.succ_le_of_lt bound')] at others
      have last : LastDeparture s position device :=
        ⟨departs, fun later member => others later (List.mem_append_left _ member)⟩
      refine ⟨last, honoured position delivery here handled device last, fun kind same => ?_⟩
      exact others _ (List.mem_append_right _ (List.mem_singleton_self _)) (Label.issue.inj same).2
    · rw [List.getElem?_append_right beyond] at here
      have new := List.mem_singleton.mp (List.mem_of_getElem? here)
      rw [new] at handled
      cases handled
  | process place other issued unhandled =>
    have last : LastDeparture s position device := by
      rwa [LastDeparture, issued_handle issued] at last
    refine ⟨last, ?_, fun presence same => by cases same⟩
    by_cases same : place = position
    · rw [same] at keeps
      by_contra unsettled
      exact keeps (overlooks_process.mpr ⟨device, last, unsettled⟩)
    · rw [State.handle, List.getElem?_set_ne same] at here
      exact honoured position delivery here handled device last

theorem stays_away_of_keeping (injective : deviceId.Injective) {nearObjectDevices : List Device}
    {started : Bool} {trace : List (Label Device)}
    (run : Run (KeepingStep deviceId) (init nearObjectDevices started) trace s) : StaysAway s := by
  have invariant := run.invariant (fun s => Sound s ∧ Honoured s)
    ⟨sound_init nearObjectDevices started, fun position delivery here => by simp [init] at here⟩
    fun s label t ⟨sound, honoured⟩ step =>
      ⟨sound_step sound step.2, honoured_step injective sound honoured step⟩
  intro _ processed position device last
  obtain ⟨delivery, here, -⟩ := delivery_of_last last
  have handled := processed delivery (List.mem_of_getElem? here)
  obtain ⟨-, -, departures⟩ := invariant.2 position delivery here handled device last
  rw [pending_of_handled processed] at departures
  exact List.count_eq_zero.mp (Nat.le_zero.mp departures)

end Keeping

/-! ### Runs that overlook one -/

section Unhandled

variable {Device : Type} {deviceId : Device → UInt64} {s : State Device}

/-- How many notifications have still to be handled. -/
def State.unhandled (s : State Device) : Nat :=
  s.deliveries.countP fun delivery => !delivery.handled

theorem handled_of_unhandled (none : s.unhandled = 0) :
    ∀ delivery ∈ s.deliveries, delivery.handled = true := by
  intro delivery member
  simpa using List.countP_eq_zero.mp none delivery member

variable (deviceId) in
theorem unhandled_handle {position : Nat} {delivery : Delivery Device}
    (issued : s.deliveries[position]? = some delivery) (unhandled : delivery.handled = false) :
    (s.handle deviceId position delivery).unhandled + 1 = s.unhandled := by
  rw [State.unhandled, State.unhandled, countP_handle deviceId issued rfl, unhandled]
  rfl

variable [DecidableEq Device]

/-- While there are any, one of them may be handled without settling the device. -/
theorem exists_unsettling (waiting : 0 < s.unhandled) (device : Device) :
    ∃ (position : Nat) (delivery : Delivery Device), s.deliveries[position]? = some delivery ∧
      delivery.handled = false ∧
      (delivery.presence = .departed ∨ s.pending .departed device = 0) := by
  by_cases none : s.pending .departed device = 0
  · obtain ⟨delivery, member, unhandled⟩ := List.countP_pos_iff.mp waiting
    obtain ⟨position, here⟩ := List.mem_iff_getElem?.mp member
    exact ⟨position, delivery, here, by simpa using unhandled, .inr none⟩
  · obtain ⟨delivery, member, departs⟩ := List.countP_pos_iff.mp (Nat.pos_of_ne_zero none)
    obtain ⟨position, here⟩ := List.mem_iff_getElem?.mp member
    have departs : delivery.presence = .departed ∧ delivery.deviceChanged = device ∧
      delivery.handled = false := by simpa [Delivery.pending] using departs
    exact ⟨position, delivery, here, departs.2.2, .inl departs.1⟩

/-- All notifications are handled, in an order that leaves the device unsettled. -/
theorem drains (injective : deviceId.Injective) {device : Device} (s : State Device)
    (callback : s.callback = true) (unsettled : ¬ Settled s device) :
    ∃ late t, Run (Step deviceId) s late t ∧ t.unhandled = 0 ∧ ¬ Settled t device ∧
      t.adder = s.adder ∧ t.issued = s.issued := by
  generalize size : s.unhandled = waiting
  induction waiting generalizing s with
  | zero => exact ⟨[], s, .nil, size, unsettled, rfl, rfl⟩
  | succ waiting ih =>
    have some : 0 < s.unhandled := by omega
    obtain ⟨position, delivery, issued, unhandled, order⟩ := exists_unsettling some device
    have fewer := unhandled_handle deviceId issued unhandled
    obtain ⟨late, t, run, drained, still, adder, same⟩ :=
      ih (s.handle deviceId position delivery) callback
        (unsettled_handle injective callback issued unhandled order unsettled) (by omega)
    exact ⟨.process position :: late, t, .cons (step_process issued unhandled) run, drained, still,
      adder, same.trans (issued_handle issued)⟩

end Unhandled

section Returning

variable {Device : Type} {deviceId : Device → UInt64} {s : State Device} {device : Device}

/-- The device is listed, or to be added. -/
def Coming (s : State Device) (device : Device) : Prop :=
  device ∈ s.nearObjectDevices ∨ device ∈ s.adder.awaiting

/-- With no notification to be handled, an unsettled device is one of them. -/
theorem coming_of_unsettled [DecidableEq Device]
    (processed : ∀ delivery ∈ s.deliveries, delivery.handled = true)
    (unsettled : ¬ Settled s device) : Coming s device := by
  by_contra gone
  obtain ⟨unlisted, unawaited⟩ := not_or.mp gone
  refine unsettled ⟨unawaited, pending_of_handled processed .arrived device, ?_⟩
  rw [List.count_eq_zero.mpr unlisted]
  exact Nat.zero_le _

/-- The loop of `AddDiscoveryAgent` adds what it has to add. -/
theorem adds (rest : List Device) (s : State Device) (adding : s.adder = .adding rest)
    (coming : Coming s device) :
    ∃ late t, Run (Step deviceId) s late t ∧ t.adder = .returned ∧ t.deliveries = s.deliveries ∧
      device ∈ t.nearObjectDevices := by
  induction rest generalizing s with
  | nil =>
    refine ⟨[.finish], _, .single (step_finish adding), rfl, rfl, ?_⟩
    simpa [Coming, adding, Adder.awaiting] using coming
  | cons added rest ih =>
    obtain ⟨t, taken, listed, adder, deliveries⟩ : ∃ t, Step deviceId s .add t ∧
        t.nearObjectDevices = s.nearObjectDevices ++ [added] ∧ t.adder = .adding rest ∧
        t.deliveries = s.deliveries :=
      ⟨_, step_add adding, rfl, rfl, rfl⟩
    have comes : Coming t device := by
      rw [Coming, listed, adder]
      simpa [Coming, adding, Adder.awaiting, or_assoc] using coming
    obtain ⟨late, u, run, returned, same, member⟩ := ih t adder comes
    exact ⟨.add :: late, u, .cons taken run, returned, same.trans deliveries, member⟩

variable (deviceId) in
/-- Once the snapshot is taken, the call returns. -/
theorem returns (past : s.adder.PastSnapshot) (coming : Coming s device) :
    ∃ late t, Run (Step deviceId) s late t ∧ t.adder = .returned ∧ t.deliveries = s.deliveries ∧
      device ∈ t.nearObjectDevices := by
  cases adder : s.adder with
  | probed results =>
    obtain ⟨t, taken, listed, adding, deliveries⟩ : ∃ t, Step deviceId s .ready t ∧
        t.nearObjectDevices = s.nearObjectDevices ∧ t.adder = .adding results ∧
        t.deliveries = s.deliveries :=
      ⟨_, step_ready adder, rfl, rfl, rfl⟩
    have comes : Coming t device := by
      rw [Coming, listed, adding]
      simpa [Coming, adder, Adder.awaiting] using coming
    obtain ⟨late, u, run, returned, same, member⟩ := adds results t adding comes
    exact ⟨.ready :: late, u, .cons taken run, returned, same.trans deliveries, member⟩
  | adding rest => exact adds rest s adder coming
  | returned =>
    refine ⟨[], s, .nil, adder, rfl, ?_⟩
    simpa [Coming, adder, Adder.awaiting] using coming
  | _ =>
    rw [adder] at past
    exact absurd past id

/-- After an overlooked departure the device comes back, without any further notification. -/
theorem comes_back [DecidableEq Device] (injective : deviceId.Injective) {t : State Device}
    {label : Label Device} (sound : Sound s) (step : Step deviceId s label t)
    (overlooks : Overlooks s label) :
    ∃ late u, Run (Step deviceId) t late u ∧ u.issued = t.issued ∧ ¬ StaysAway u := by
  cases effect_of_step sound step with
  | process position delivery issued unhandled =>
    obtain ⟨device, last, unsettled⟩ := overlooks_process.mp overlooks
    have taken := taken_of_last sound last
    have departed : delivery.presence = .departed := by
      obtain ⟨same, here, notice⟩ := delivery_of_last last
      rw [issued] at here
      rw [Option.some.inj here, notice]
    obtain ⟨draining, drained, drain, empty, still, adder, same⟩ :=
      drains injective (s.handle deviceId position delivery) (sound.registered taken)
        (unsettled_handle injective (sound.registered taken) issued unhandled (.inl departed)
          unsettled)
    have past : drained.adder.PastSnapshot := by
      rw [adder]
      exact sound.once taken
    have processed := handled_of_unhandled empty
    obtain ⟨returning, u, finish, returned, deliveries, listed⟩ :=
      returns deviceId past (coming_of_unsettled processed still)
    have kept : u.issued = drained.issued := by rw [State.issued, deliveries, State.issued]
    refine ⟨draining ++ returning, u, drain.append finish, kept.trans same, fun away => ?_⟩
    refine away returned ?_ position device ?_ listed
    · rwa [deliveries]
    · rwa [LastDeparture, kept, same, issued_handle issued]
  | internal _ handles =>
    cases label with
    | process position => exact absurd rfl (handles position)
    | _ => exact absurd overlooks id
  | add | issue => exact absurd overlooks id

end Returning

/-! ### The two together -/

/-- **When departed devices stay away.** They do in every run that overlooks no departure; and every
step that overlooks one can be continued, without a further notification, to a state in which the
device is back. -/
theorem stays_away {Device : Type} [DecidableEq Device] {deviceId : Device → UInt64}
    (injective : deviceId.Injective) (nearObjectDevices : List Device) (started : Bool) :
    (∀ trace s, Run (KeepingStep deviceId) (init nearObjectDevices started) trace s →
      StaysAway s) ∧
    (∀ trace s label t, Run (Step deviceId) (init nearObjectDevices started) trace s →
      Step deviceId s label t → Overlooks s label →
        ∃ late u, Run (Step deviceId) t late u ∧ u.issued = t.issued ∧ ¬ StaysAway u) :=
  ⟨fun _ _ => stays_away_of_keeping injective,
    fun _ _ _ _ run => comes_back injective (sound_of_run run)⟩

/-- The departure is handled after the loop has added the device. -/
def keptTrace : List (Label UInt64) :=
  [.register, .probeAsync, .snapshot [7], .issue .departed 7, .ready, .add, .finish, .process 0]

theorem stays_away_kept :
    ∃ s, Run (KeepingStep id) (init [] true) keptTrace s ∧ s.adder = .returned ∧
      LastDeparture s 0 7 ∧ (7 : UInt64) ∉ s.nearObjectDevices := by
  have run : Run (KeepingStep id) (init [] true) keptTrace _ := run_of_execute_guarded rfl
  exact ⟨_, run, rfl, ⟨rfl, by decide⟩, (stays_away Function.injective_id [] true).1 _ _ run rfl
    (by decide) 0 7 ⟨rfl, by decide⟩⟩

/-- The departure is handled between the snapshot and the loop. -/
def backTrace : List (Label UInt64) :=
  [.register, .probeAsync, .snapshot [7], .issue .departed 7, .process 0, .ready, .add, .finish]

theorem not_stays_away_back :
    ∃ s, Run (Step id) (init [] true) backTrace s ∧ ¬ StaysAway s := by
  refine ⟨_, run_of_execute rfl, fun away => ?_⟩
  refine away rfl (by decide) 0 7 ⟨rfl, by decide⟩ ?_
  decide

end NearObject.Device.Probe
