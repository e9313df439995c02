/-
**`DeviceEnumerator` — the names of the device interfaces of a class.**

The operating system fills a buffer with the names, each with a null behind it, and one more null.
The loop copies the string at its pointer and goes on behind the null, until it finds an empty one.
The pointer is a position of the buffer here, and a read outside the buffer is a `Fault` and ends
the function.

* `extractNames_eq_ok` — the loop returns the names that the buffer begins with.
* `names_decoded` — it returns the names that were written, and a buffer that ends with two nulls is
  enough for it to end, without a fault.
* `probe_names` — the probe of the UWB agent finds a controller for each of these names, in order.
-/

import NearObject.Encoding.Terminated
import NearObject.Device.UwbAgent
import Mathlib.Tactic.Common

namespace NearObject.Device

open Encoding

/-! ### The code -/

/-- `wchar_t`. -/
abbrev WChar := UInt16

/-- `std::wstring`. -/
abbrev WString := List WChar

/-- `CONFIGRET`. -/
abbrev ConfigRet := UInt32

def crSuccess : ConfigRet := 0

/-- A read outside the buffer; the code would go on with undefined behaviour. -/
inductive Fault
  | outOfRange (position : Nat)
  deriving DecidableEq, Repr

/-- `std::wstring(const wchar_t*)`: the code units up to the first null. Where none comes, the end
of the buffer is read. -/
def wstring (buffer : List WChar) (position : Nat) : Except Fault WString :=
  match upTo 0 (buffer.drop position) with
  | some name => .ok name
  | none => .error (.outOfRange buffer.length)

/-- The loop that pulls out the strings, with the pointer at a position. -/
def extractNames (buffer : List WChar) (deviceInterfaceName : Nat)
    (deviceInterfaceNames : List WString) : Except Fault (List WString) :=
  if inside : deviceInterfaceName < buffer.length then
    if buffer[deviceInterfaceName] = 0 then .ok deviceInterfaceNames
    else
      match wstring buffer deviceInterfaceName with
      | .ok name =>
        extractNames buffer (deviceInterfaceName + (name.length + 1))
          (deviceInterfaceNames ++ [name])
      | .error fault => .error fault
  else .error (.outOfRange deviceInterfaceName)
termination_by buffer.length - deviceInterfaceName

/-- What the function calls of the operating system, for the interfaces that are present. The second
call fills the buffer that it is given. -/
structure ConfigurationManager (Guid : Type) where
  getDeviceInterfaceListSize : Guid → ConfigRet × UInt32
  getDeviceInterfaceList : Guid → {size : Nat} → Vector WChar size → ConfigRet × Vector WChar size

section Function

variable {Guid : Type}

/-- `GetDeviceInterfaceClassInstanceNames`. -/
def getDeviceInterfaceClassInstanceNames (manager : ConfigurationManager Guid)
    (deviceInterfaceClassGuidTarget : Guid) : Except Fault (List WString) :=
  let (configRet, deviceInterfaceNamesBufferSize) :=
    manager.getDeviceInterfaceListSize deviceInterfaceClassGuidTarget
  if configRet ≠ crSuccess then .ok []
  else if deviceInterfaceNamesBufferSize = 0 then .ok []
  else
    let (configRet, deviceInterfaceNamesBuffer) :=
      manager.getDeviceInterfaceList deviceInterfaceClassGuidTarget
        (Vector.replicate deviceInterfaceNamesBufferSize.toNat 0)
    if configRet ≠ crSuccess then .ok []
    else extractNames deviceInterfaceNamesBuffer.toList 0 []

end Function

/-! ### The loop -/

section Loop

variable {buffer : List WChar} {position : Nat} {names result : List WString}

theorem wstring_eq_ok {name : WString} : wstring buffer position = .ok name ↔
    0 ∉ name ∧ ∃ rest, buffer.drop position = name ++ 0 :: rest := by
  rw [← upTo_eq_some]
  unfold wstring
  split
  · rename_i found
    simp [found]
  · rename_i missing
    simp [missing]

/-- At a null, the loop ends. -/
theorem extractNames_null {rest : List WChar} (here : buffer.drop position = 0 :: rest) :
    extractNames buffer position names = .ok names := by
  have unit : buffer[position]? = some 0 := by
    rw [← List.head?_drop, here, List.head?_cons]
  obtain ⟨inside, same⟩ := List.getElem?_eq_some_iff.mp unit
  unfold extractNames
  rw [dif_pos inside, if_pos same]

/-- At a name, the loop copies it and goes on behind its null. -/
theorem extractNames_name {name : WString} {rest : List WChar} (proper : Word 0 name)
    (here : buffer.drop position = name ++ 0 :: rest) :
    extractNames buffer position names =
      extractNames buffer (position + (name.length + 1)) (names ++ [name]) := by
  obtain ⟨nonempty, free⟩ := proper
  obtain ⟨unit, tail, rfl⟩ := List.exists_cons_of_ne_nil nonempty
  have first : buffer[position]? = some unit := by
    rw [← List.head?_drop, here, List.cons_append, List.head?_cons]
  obtain ⟨inside, same⟩ := List.getElem?_eq_some_iff.mp first
  have notNull : unit ≠ 0 := by
    intro null
    exact free (null ▸ List.mem_cons_self ..)
  have copied : wstring buffer position = .ok (unit :: tail) := wstring_eq_ok.mpr ⟨free, rest, here⟩
  conv_lhs => unfold extractNames
  rw [dif_pos inside, same, if_neg notNull, copied]

/-- What is behind a name and its null. -/
theorem drop_behind {name : WString} {rest : List WChar}
    (here : buffer.drop position = name ++ 0 :: rest) :
    buffer.drop (position + (name.length + 1)) = rest := by
  rw [← List.drop_drop, here, ← List.drop_drop, List.drop_left, List.drop_one, List.tail_cons]

theorem extractNames_of_listing {words : List WString} {rest : List WChar}
    (listing : Listing 0 words rest) (here : buffer.drop position = rest) :
    extractNames buffer position names = .ok (names ++ words) := by
  induction listing generalizing position names with
  | nil rest => rw [extractNames_null here, List.append_nil]
  | cons proper more ih =>
    rw [extractNames_name proper here, ih (drop_behind here), List.append_assoc,
      List.singleton_append]

/-- What the loop adds to the names is what the rest of the buffer begins with. -/
theorem listing_of_extractNames (returns : extractNames buffer position names = .ok result) :
    ∃ words, result = names ++ words ∧ Listing 0 words (buffer.drop position) := by
  fun_induction extractNames buffer position names with
  | case1 position names inside null =>
    obtain rfl := Except.ok.inj returns
    refine ⟨[], (List.append_nil _).symm, ?_⟩
    rw [List.drop_eq_getElem_cons inside, null]
    exact .nil _
  | case2 position names inside notNull name copied ih =>
    obtain ⟨free, rest, here⟩ := wstring_eq_ok.mp copied
    have nonempty : name ≠ [] := by
      rintro rfl
      rw [List.drop_eq_getElem_cons inside, List.nil_append] at here
      exact notNull (List.cons.inj here).1
    obtain ⟨words, rfl, more⟩ := ih returns
    rw [drop_behind here] at more
    rw [here]
    exact ⟨name :: words, by simp, .cons ⟨nonempty, free⟩ more⟩
  | case3 => cases returns
  | case4 => cases returns

/-- **The loop returns the names that the buffer begins with**, and nothing else. -/
theorem extractNames_eq_ok : extractNames buffer 0 [] = .ok names ↔ Listing 0 names buffer := by
  constructor
  · intro returns
    obtain ⟨words, rfl, listing⟩ := listing_of_extractNames returns
    exact listing
  · intro listing
    exact extractNames_of_listing listing rfl

end Loop

/-! ### The function -/

section Decoding

variable {Guid : Type}

theorem getNames_eq {manager : ConfigurationManager Guid} {guid : Guid} {size : UInt32}
    {buffer : Vector WChar size.toNat} (some : size ≠ 0)
    (sized : manager.getDeviceInterfaceListSize guid = (crSuccess, size))
    (filled : manager.getDeviceInterfaceList guid (Vector.replicate size.toNat 0) =
      (crSuccess, buffer)) :
    getDeviceInterfaceClassInstanceNames manager guid = extractNames buffer.toList 0 [] := by
  unfold getDeviceInterfaceClassInstanceNames
  generalize manager.getDeviceInterfaceListSize guid = reported at sized
  subst sized
  simp only [ne_eq, not_true_eq_false, if_false, some, filled]

/-- The system reports a size for a buffer that is not empty. -/
theorem size_ne_zero {size : UInt32} {buffer : Vector WChar size.toNat} {names : List WString}
    (listing : Listing 0 names buffer.toList) : size ≠ 0 := by
  rintro rfl
  have empty : buffer.toList = [] := List.length_eq_zero_iff.mp (by simp)
  rw [empty] at listing
  generalize shape : ([] : List WChar) = units at listing
  cases listing with
  | nil => cases shape
  | cons => simp at shape

/-- **The names that are written are returned, and two nulls at the end are enough for the loop to
end within the buffer.** -/
theorem names_decoded :
    (∀ (names : List WString) (trailing : List WChar), (∀ name ∈ names, Word 0 name) →
      extractNames (listed 0 names ++ trailing) 0 [] = .ok names) ∧
    (∀ buffer : List WChar, DoubleTerminated 0 buffer →
      ∃ names, extractNames buffer 0 [] = .ok names) ∧
    ∀ (manager : ConfigurationManager Guid) (guid : Guid) (size : UInt32)
      (buffer : Vector WChar size.toNat),
      manager.getDeviceInterfaceListSize guid = (crSuccess, size) →
      manager.getDeviceInterfaceList guid (Vector.replicate size.toNat 0) = (crSuccess, buffer) →
      (∀ (names : List WString) (trailing : List WChar), (∀ name ∈ names, Word 0 name) →
        buffer.toList = listed 0 names ++ trailing →
        getDeviceInterfaceClassInstanceNames manager guid = .ok names) ∧
      (DoubleTerminated 0 buffer.toList →
        ∃ names, getDeviceInterfaceClassInstanceNames manager guid = .ok names) := by
  refine ⟨?_, ?_, ?_⟩
  · intro names trailing proper
    exact extractNames_eq_ok.mpr (listing_iff.mpr ⟨proper, trailing, rfl⟩)
  · intro buffer double
    obtain ⟨names, listing⟩ := listing_of_double double
    exact ⟨names, extractNames_eq_ok.mpr listing⟩
  · intro manager guid size buffer sized filled
    have decodes {names : List WString} (listing : Listing 0 names buffer.toList) :
        getDeviceInterfaceClassInstanceNames manager guid = .ok names := by
      rw [getNames_eq (size_ne_zero listing) sized filled]
      exact extractNames_eq_ok.mpr listing
    constructor
    · intro names trailing proper shape
      exact decodes (listing_iff.mpr ⟨proper, trailing, shape⟩)
    · intro double
      obtain ⟨names, listing⟩ := listing_of_double double
      exact ⟨names, decodes listing⟩

/-- A system that knows these names; it fails if the buffer is too small for them. -/
def enumerating (names : List WString) : ConfigurationManager Unit where
  getDeviceInterfaceListSize _ := (crSuccess, (listed 0 names).length.toUInt32)
  getDeviceInterfaceList _ size buffer :=
    if (listed 0 names).length ≤ size then
      (crSuccess, Vector.ofFn fun index => (listed 0 names).getD index 0)
    else (0x1A, buffer)

theorem names_decoded_two_names :
    getDeviceInterfaceClassInstanceNames (enumerating [[97, 98], [99]]) () =
      .ok [[97, 98], [99]] :=
  (names_decoded.2.2 (enumerating [[97, 98], [99]]) () 6
    (Vector.mk #[97, 98, 0, 99, 0, 0] rfl) rfl rfl).1 _ [] (by decide) rfl

end Decoding

/-! ### The probe of the UWB agent -/

section Probe

variable {Guid : Type} (alive : ControllerUwb WString → Bool)

/-- The loop of `Probe`; it holds the controllers that it has found. -/
def AgentUwb.probeNames (agent : AgentUwb WString)
    (nearObjectDevices : List (ControllerUwb WString)) :
    List WString → AgentUwb WString × List (ControllerUwb WString)
  | [] => (agent, nearObjectDevices)
  | deviceInterfaceName :: deviceInterfaceNames =>
    let (agent, nearObjectDevice) := agent.addCachedUwbNearObjectDevice
      (fun controller => decide (controller ∈ nearObjectDevices) || alive controller)
      deviceInterfaceName
    agent.probeNames (nearObjectDevices ++ [nearObjectDevice]) deviceInterfaceNames

/-- `Probe`. -/
def AgentUwb.probe (agent : AgentUwb WString) (manager : ConfigurationManager Guid)
    (interfaceClassUwb : Guid) : Except Fault (AgentUwb WString × List (ControllerUwb WString)) :=
  (getDeviceInterfaceClassInstanceNames manager interfaceClassUwb).map (agent.probeNames alive [])

theorem probeNames_deviceName (agent : AgentUwb WString)
    (nearObjectDevices : List (ControllerUwb WString)) (names : List WString) :
    (agent.probeNames alive nearObjectDevices names).2.map ControllerUwb.deviceName =
      nearObjectDevices.map ControllerUwb.deviceName ++ names := by
  induction names generalizing agent nearObjectDevices with
  | nil => exact (List.append_nil _).symm
  | cons name names ih =>
    unfold AgentUwb.probeNames
    rw [ih, List.map_append, List.map_singleton, addCached_deviceName, List.append_assoc,
      List.singleton_append]

/-- **The probe finds a controller for each interface**, in the order of the system's list. -/
theorem probe_names {manager : ConfigurationManager Guid} {guid : Guid} {names : List WString}
    (agent : AgentUwb WString)
    (returns : getDeviceInterfaceClassInstanceNames manager guid = .ok names) :
    ∃ after nearObjectDevices, agent.probe alive manager guid = .ok (after, nearObjectDevices) ∧
      nearObjectDevices.map ControllerUwb.deviceName = names := by
  refine ⟨_, _, by rw [AgentUwb.probe, returns]; rfl, ?_⟩
  rw [probeNames_deviceName, List.map_nil, List.nil_append]

end Probe

end NearObject.Device
