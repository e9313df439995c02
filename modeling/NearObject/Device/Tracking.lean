/-
**The device list and the notifications of the system, end to end.**

`present` lists the names that have arrived and not been removed since, in the order of their
arrival. The manager should hold the interned controller of each of them and nothing else
(`Tracks`). Since all UWB controllers have the same `Id()`, `RemoveDevice` erases the front of the
list, whatever device departs. The list is therefore right exactly as long as the devices leave in
the order in which they arrived (`tracks_iff_in_order`): until the first notification that breaks
that order, it holds the controllers in the order of `present` (`Ordered`), and that notification
erases a wrong one.
-/

import NearObject.Device.UwbAgent
import NearObject.Transition.Run
import Mathlib.Data.List.Perm.Basic

namespace NearObject.Device

variable {Name : Type}

/-! ### The list that the manager should hold -/

/-- **The manager tracks the names that are present**: it holds, for each of them, the controller
that the agent keeps for it, and nothing else. -/
structure Tracks (s : State Name) (names : List Name) : Prop where
  listed : (s.nearObjectDevices.map ControllerUwb.deviceName).Perm names
  interned : ∀ controller ∈ s.nearObjectDevices,
    s.agent.nearObjectDeviceCache controller.deviceName = some controller

/-- The same, with the controllers in the order of arrival. -/
structure Ordered (s : State Name) (names : List Name) : Prop where
  listed : s.nearObjectDevices.map ControllerUwb.deviceName = names
  interned : ∀ controller ∈ s.nearObjectDevices,
    s.agent.nearObjectDeviceCache controller.deviceName = some controller
  distinct : names.Nodup

theorem Ordered.tracks {s : State Name} {names : List Name} (ordered : Ordered s names) :
    Tracks s names where
  listed := .of_eq ordered.listed
  interned := ordered.interned

/-! ### The names that are present -/

section Present

variable [DecidableEq Name]

/-- The names that are present after one more notification. -/
def roster (names : List Name) (notification : Notification Name) : List Name :=
  match notification.action with
  | .deviceInterfaceArrival => names ++ [notification.symbolicLink]
  | .deviceInterfaceRemoval => names.erase notification.symbolicLink
  | .other => names

/-- The names that are present after the notifications, by arrival. -/
def present (notifications : List (Notification Name)) : List Name :=
  notifications.foldl roster []

/-- A condition on the names present before each notification, and on the notification. -/
def Along (condition : List Name → Notification Name → Prop)
    (notifications : List (Notification Name)) : Prop :=
  ∀ early notification late, notifications = early ++ notification :: late →
    condition (present early) notification

/-- Each arrival is for a name that is not present, and each removal for one that is. -/
def Valid (notifications : List (Notification Name)) : Prop :=
  Along (fun names notification =>
    (notification.action = .deviceInterfaceArrival → notification.symbolicLink ∉ names) ∧
      (notification.action = .deviceInterfaceRemoval → notification.symbolicLink ∈ names))
    notifications

/-- Each removal is for the name that arrived first among those present. -/
def InOrder (notifications : List (Notification Name)) : Prop :=
  Along (fun names notification => notification.action = .deviceInterfaceRemoval →
    names.head? = some notification.symbolicLink) notifications

theorem along_nil {condition : List Name → Notification Name → Prop} : Along condition [] :=
  fun early notification late same => by simp at same

theorem along_append {condition : List Name → Notification Name → Prop}
    {notifications : List (Notification Name)} {notification : Notification Name} :
    Along condition (notifications ++ [notification]) ↔
      Along condition notifications ∧ condition (present notifications) notification := by
  constructor
  · intro along
    refine ⟨fun early other late same => along early other (late ++ [notification]) ?_,
      along notifications notification [] rfl⟩
    rw [same, List.append_assoc, List.cons_append]
  · rintro ⟨along, last⟩ early other late same
    rcases Transition.snoc_eq_split.mp same with ⟨rfl, rfl, -⟩ | ⟨rest, -, earlier⟩
    · exact last
    · exact along early other rest earlier

end Present

/-! ### One notification -/

section OneNotification

variable [DecidableEq Name] {s : State Name} {names : List Name} {notification : Notification Name}

theorem arrival_eq (arrives : notification.action = .deviceInterfaceArrival) :
    s.onDeviceInterfaceNotification notification =
      ⟨(s.agent.addCachedUwbNearObjectDevice (s.alive notification.held)
          notification.symbolicLink).1,
        s.nearObjectDevices ++ [(s.agent.addCachedUwbNearObjectDevice (s.alive notification.held)
          notification.symbolicLink).2]⟩ := by
  simp [State.onDeviceInterfaceNotification, arrives, devicePresenceChanged,
    onDevicePresenceChanged, addDevice_eq]

theorem ordered_arrival (ordered : Ordered s names)
    (arrives : notification.action = .deviceInterfaceArrival)
    (absent : notification.symbolicLink ∉ names) :
    Ordered (s.onDeviceInterfaceNotification notification) (roster names notification) := by
  rw [arrival_eq arrives, roster, arrives]
  refine ⟨?_, fun controller member => ?_, ?_⟩
  · rw [List.map_append, ordered.listed, List.map_singleton, addCached_deviceName]
  · rcases List.mem_append.mp member with member | member
    · have different : controller.deviceName ≠ notification.symbolicLink := by
        intro same
        rw [← same, ← ordered.listed] at absent
        exact absent (List.mem_map_of_mem member)
      rw [addCached_of_ne _ _ different]
      exact ordered.interned controller member
    · rw [List.mem_singleton.mp member, addCached_deviceName]
      exact addCached_self ..
  · refine List.nodup_append.mpr ⟨ordered.distinct, List.pairwise_singleton _ _, ?_⟩
    intro name member other last same
    rw [same, List.mem_singleton.mp last] at member
    exact absent member

/-- A removal erases the front of the list, whatever device it is for. -/
theorem removal_eq (ordered : Ordered s names)
    (removes : notification.action = .deviceInterfaceRemoval)
    (member : notification.symbolicLink ∈ names) :
    s.onDeviceInterfaceNotification notification =
      ⟨s.agent.erase notification.symbolicLink, s.nearObjectDevices.tail⟩ := by
  rw [← ordered.listed] at member
  obtain ⟨controller, member, named⟩ := List.mem_map.mp member
  have cached := ordered.interned controller member
  rw [named] at cached
  have alive : s.alive notification.held controller = true := by simp [State.alive, member]
  have found : s.agent.extractCachedNearObjectDevice (s.alive notification.held)
      notification.symbolicLink = (s.agent.erase notification.symbolicLink, some controller) := by
    simp [AgentUwb.extractCachedNearObjectDevice, cached, alive]
  obtain ⟨first, rest, shape⟩ := List.exists_cons_of_ne_nil (List.ne_nil_of_mem member)
  simp only [State.onDeviceInterfaceNotification, removes, found, devicePresenceChanged,
    onDevicePresenceChanged, shape, List.tail_cons]
  rw [removeDevice_cons_of_same (sameDevice_uwb first controller)]

theorem ordered_removal (ordered : Ordered s names)
    (removes : notification.action = .deviceInterfaceRemoval)
    (front : names.head? = some notification.symbolicLink) :
    Ordered (s.onDeviceInterfaceNotification notification) (roster names notification) := by
  obtain ⟨rest, rfl⟩ := List.head?_eq_some_iff.mp front
  rw [removal_eq ordered removes List.mem_cons_self, roster, removes]
  obtain ⟨absent, distinct⟩ := List.nodup_cons.mp ordered.distinct
  have listed : s.nearObjectDevices.tail.map ControllerUwb.deviceName = rest := by
    rw [List.map_tail, ordered.listed, List.tail_cons]
  refine ⟨?_, fun controller member => ?_, ?_⟩
  · rw [listed]
    simp
  · have different : controller.deviceName ≠ notification.symbolicLink := by
      intro same
      rw [← same, ← listed] at absent
      exact absent (List.mem_map_of_mem member)
    rw [erase_of_ne _ different]
    exact ordered.interned controller (List.mem_of_mem_tail member)
  · simpa using distinct

/-- A removal that is not for the front loses the front. -/
theorem not_tracks_removal (ordered : Ordered s names)
    (removes : notification.action = .deviceInterfaceRemoval)
    (member : notification.symbolicLink ∈ names)
    (behind : names.head? ≠ some notification.symbolicLink) :
    ¬ Tracks (s.onDeviceInterfaceNotification notification) (roster names notification) := by
  intro tracks
  obtain ⟨front, rest, rfl⟩ := List.exists_cons_of_ne_nil (List.ne_nil_of_mem member)
  have different : front ≠ notification.symbolicLink := fun same => behind (by rw [same]; rfl)
  have listed := tracks.listed
  rw [removal_eq ordered removes member, roster, removes] at listed
  simp only [List.map_tail, ordered.listed, List.tail_cons] at listed
  have stays : front ∈ (front :: rest).erase notification.symbolicLink :=
    (List.mem_erase_of_ne different).mpr List.mem_cons_self
  exact (List.nodup_cons.mp ordered.distinct).1 (listed.mem_iff.mpr stays)

end OneNotification

/-! ### Whole sequences -/

section Sequences

variable [DecidableEq Name] {agent : AgentUwb Name} {notifications : List (Notification Name)}

theorem after_append (s : State Name) (notifications : List (Notification Name))
    (notification : Notification Name) :
    s.after (notifications ++ [notification]) =
      (s.after notifications).onDeviceInterfaceNotification notification :=
  List.foldl_concat ..

theorem present_append (notifications : List (Notification Name))
    (notification : Notification Name) :
    present (notifications ++ [notification]) = roster (present notifications) notification :=
  List.foldl_concat ..

/-- As long as the devices leave in the order of their arrival, the list has that order. -/
theorem ordered_of_inOrder (valid : Valid notifications) (inOrder : InOrder notifications) :
    Ordered (State.after ⟨agent, []⟩ notifications) (present notifications) := by
  induction notifications using List.reverseRecOn with
  | nil => exact ⟨rfl, fun controller member => absurd member List.not_mem_nil, List.nodup_nil⟩
  | append_singleton notifications notification ih =>
    obtain ⟨valid, lastValid⟩ := along_append.mp valid
    obtain ⟨inOrder, lastInOrder⟩ := along_append.mp inOrder
    have ordered := ih valid inOrder
    rw [after_append, present_append]
    cases action : notification.action with
    | deviceInterfaceArrival => exact ordered_arrival ordered action (lastValid.1 action)
    | deviceInterfaceRemoval => exact ordered_removal ordered action (lastInOrder action)
    | other => simpa [State.onDeviceInterfaceNotification, roster, action] using ordered

/-- **When the manager tracks the notifications.** It holds the right controllers after every
notification of a sequence if and only if each removal is for the name that arrived first among
those present. -/
theorem tracks_iff_in_order (agent : AgentUwb Name) (valid : Valid notifications) :
    (∀ early late, notifications = early ++ late →
      Tracks (State.after ⟨agent, []⟩ early) (present early)) ↔ InOrder notifications := by
  constructor
  · intro tracks
    induction notifications using List.reverseRecOn with
    | nil => exact along_nil
    | append_singleton notifications notification ih =>
      obtain ⟨valid, lastValid⟩ := along_append.mp valid
      have inOrder : InOrder notifications := ih valid fun early late same =>
        tracks early (late ++ [notification]) (by rw [same, List.append_assoc])
      refine along_append.mpr ⟨inOrder, fun removes => ?_⟩
      by_contra behind
      have last := tracks (notifications ++ [notification]) [] (List.append_nil _).symm
      rw [after_append, present_append] at last
      exact not_tracks_removal (ordered_of_inOrder valid inOrder) removes (lastValid.2 removes)
        behind last
  · rintro inOrder early late rfl
    refine (ordered_of_inOrder (fun first notification rest same => ?_)
      fun first notification rest same => ?_).tracks
    · exact valid first notification (rest ++ late) (by rw [same, List.append_assoc]; rfl)
    · exact inOrder first notification (rest ++ late) (by rw [same, List.append_assoc]; rfl)

end Sequences

/-! ### Two devices -/

/-- A notification while the manager is the only owner. -/
def Notification.alone (action : NotifyAction) (symbolicLink : Name) : Notification Name :=
  ⟨action, symbolicLink, fun _ => false⟩

theorem tracks_in_order_two_devices :
    Tracks (State.after ⟨.fresh Nat, []⟩ [.alone .deviceInterfaceArrival 1,
      .alone .deviceInterfaceArrival 2, .alone .deviceInterfaceRemoval 1]) [2] := by
  have valid : Valid ([.alone .deviceInterfaceArrival 1, .alone .deviceInterfaceArrival 2] ++
      [.alone .deviceInterfaceRemoval 1]) := by
    refine along_append.mpr ⟨along_append.mpr ⟨along_append.mpr ⟨along_nil, ?_⟩, ?_⟩, ?_⟩ <;> decide
  have inOrder : InOrder ([.alone .deviceInterfaceArrival 1, .alone .deviceInterfaceArrival 2] ++
      [.alone .deviceInterfaceRemoval 1]) := by
    refine along_append.mpr ⟨along_append.mpr ⟨along_append.mpr ⟨along_nil, ?_⟩, ?_⟩, ?_⟩ <;> decide
  exact (tracks_iff_in_order (.fresh Nat) valid).mpr inOrder _ [] (List.append_nil _).symm

/-- **The wrong controller is dropped.** Two devices arrive and the second one leaves: the manager
keeps the controller of the second device, and has lost that of the first. -/
theorem not_tracks_second_device :
    Valid ([.alone .deviceInterfaceArrival 1, .alone .deviceInterfaceArrival 2] ++
      [.alone .deviceInterfaceRemoval 2]) ∧
    ¬ Tracks (State.after ⟨.fresh Nat, []⟩ [.alone .deviceInterfaceArrival 1,
        .alone .deviceInterfaceArrival 2, .alone .deviceInterfaceRemoval 2])
      (present [.alone .deviceInterfaceArrival 1, .alone .deviceInterfaceArrival 2,
        .alone .deviceInterfaceRemoval 2]) := by
  constructor
  · refine along_append.mpr ⟨along_append.mpr ⟨along_append.mpr ⟨along_nil, ?_⟩, ?_⟩, ?_⟩ <;> decide
  · intro tracks
    have listed : [2].Perm [1] := tracks.listed
    exact absurd listed (by decide)

end NearObject.Device
