/-
**`ApduCommand` — a command as bytes, and the two views of it.**

The constructor makes room for the header and the data, writes the header, and then inserts the data
in front of the room it has made for them. Two views of the buffer are taken afterwards: one of the
data, and one of the whole, which begins a byte late and has the length of the buffer.

* `payloadOf_eq` — the buffer: header, data, and as many zeros again as there are data.
* `dataView_reads` — the view of the data is right, for data of any length.
* `not_encodes` — the view of the whole leaves the buffer, always.
-/

import Mathlib.Data.List.Basic

namespace NearObject.Smartcard

/-! ### Buffers and views -/

/-- `std::vector::resize`; new bytes are zero. -/
def resize (buffer : List UInt8) (size : Nat) : List UInt8 :=
  buffer.take size ++ List.replicate (size - buffer.length) 0

/-- `std::vector::insert` of a range. -/
def insert (buffer : List UInt8) (position : Nat) (range : List UInt8) : List UInt8 :=
  buffer.take position ++ range ++ buffer.drop position

/-- `std::span<std::byte>`, by where it begins in its buffer. -/
structure Span where
  offset : Nat
  size : Nat
  deriving DecidableEq, Repr

/-- The view lies inside the buffer. -/
def Span.Within (span : Span) (buffer : List UInt8) : Prop :=
  span.offset + span.size ≤ buffer.length

instance (span : Span) (buffer : List UInt8) : Decidable (span.Within buffer) :=
  inferInstanceAs (Decidable (_ ≤ _))

/-- The bytes of the buffer that the view covers. -/
def Span.read (span : Span) (buffer : List UInt8) : List UInt8 :=
  (buffer.drop span.offset).take span.size

/-! ### Commands -/

/-- A command has at least its header. -/
structure ApduCommand where
  dataView : Span
  payloadView : Span
  payload : List UInt8
  header : 4 ≤ payload.length
  deriving DecidableEq

section Commands

variable (cla ins p1 p2 : UInt8) (data : List UInt8)

/-- `m_payload`, as the constructor leaves it. -/
def payloadOf : List UInt8 :=
  let payload := resize [] (4 + data.length)
  let payload := (((payload.set 0 cla).set 1 ins).set 2 p1).set 3 p2
  insert payload 4 data

/-- **The buffer**: the zeros are the room for the data, behind the data. -/
theorem payloadOf_eq :
    payloadOf cla ins p1 p2 data =
      [cla, ins, p1, p2] ++ data ++ List.replicate data.length 0 := by
  have room : resize [] (4 + data.length) = [0, 0, 0, 0] ++ List.replicate data.length 0 := by
    rw [resize, List.take_nil, List.nil_append, List.length_nil, Nat.sub_zero,
      List.replicate_add]
    rfl
  rw [payloadOf, room]
  rfl

theorem length_payloadOf : (payloadOf cla ins p1 p2 data).length = 4 + 2 * data.length := by
  rw [payloadOf_eq]
  simp
  omega

/-- `ApduCommand(cla, ins, p1, p2, data)`. -/
def ApduCommand.ofData : ApduCommand where
  dataView := ⟨4, data.length⟩
  payloadView := ⟨1, (payloadOf cla ins p1 p2 data).length⟩
  payload := payloadOf cla ins p1 p2 data
  header := by
    rw [length_payloadOf]
    omega

/-- `ApduCommand(cla, ins, p1, p2)`. -/
def ApduCommand.ofHeader : ApduCommand :=
  .ofData cla ins p1 p2 []

end Commands

namespace ApduCommand

variable (command : ApduCommand)

def cla : UInt8 := command.payload.get ⟨0, Nat.lt_of_lt_of_le (by decide) command.header⟩

def ins : UInt8 := command.payload.get ⟨1, Nat.lt_of_lt_of_le (by decide) command.header⟩

def p1 : UInt8 := command.payload.get ⟨2, Nat.lt_of_lt_of_le (by decide) command.header⟩

def p2 : UInt8 := command.payload.get ⟨3, Nat.lt_of_lt_of_le (by decide) command.header⟩

/-- `Data()`, into `m_payload`. -/
def data : Span := command.dataView

/-- `Payload()`, into `m_payload`. -/
def payloadSpan : Span := command.payloadView

end ApduCommand

/-! ### What a command should be -/

/-- **The command encodes these bytes**: its buffer is the header and the data, its two views lie
inside the buffer and read the whole and the data, and its accessors return the header. -/
structure Encodes (command : ApduCommand) (cla ins p1 p2 : UInt8) (data : List UInt8) : Prop where
  payload : command.payload = [cla, ins, p1, p2] ++ data
  payloadWithin : command.payloadSpan.Within command.payload
  payloadReads : command.payloadSpan.read command.payload = [cla, ins, p1, p2] ++ data
  dataWithin : command.data.Within command.payload
  dataReads : command.data.read command.payload = data
  cla : command.cla = cla
  ins : command.ins = ins
  p1 : command.p1 = p1
  p2 : command.p2 = p2

section Encodes

variable (cla ins p1 p2 : UInt8) (data : List UInt8)

variable {cla ins p1 p2} in
/-- The accessors return the first four bytes of the buffer. -/
theorem header_of_payload {command : ApduCommand} {rest : List UInt8}
    (same : command.payload = [cla, ins, p1, p2] ++ rest) :
    command.cla = cla ∧ command.ins = ins ∧ command.p1 = p1 ∧ command.p2 = p2 := by
  obtain ⟨dataView, payloadView, payload, header⟩ := command
  obtain rfl := same
  exact ⟨rfl, rfl, rfl, rfl⟩

theorem header_ofData :
    (ApduCommand.ofData cla ins p1 p2 data).cla = cla ∧
      (ApduCommand.ofData cla ins p1 p2 data).ins = ins ∧
      (ApduCommand.ofData cla ins p1 p2 data).p1 = p1 ∧
      (ApduCommand.ofData cla ins p1 p2 data).p2 = p2 :=
  header_of_payload ((payloadOf_eq cla ins p1 p2 data).trans (List.append_assoc ..))

/-- The view of the data is inside the buffer, and reads the data. -/
theorem dataView_reads :
    (ApduCommand.ofData cla ins p1 p2 data).data.Within
        (ApduCommand.ofData cla ins p1 p2 data).payload ∧
      (ApduCommand.ofData cla ins p1 p2 data).data.read
        (ApduCommand.ofData cla ins p1 p2 data).payload = data := by
  constructor
  · show 4 + data.length ≤ (payloadOf cla ins p1 p2 data).length
    rw [length_payloadOf]
    omega
  · show ((payloadOf cla ins p1 p2 data).drop 4).take data.length = data
    rw [payloadOf_eq]
    exact List.take_left

/-- The buffer is right exactly where there are no data. -/
theorem payload_eq_iff :
    (ApduCommand.ofData cla ins p1 p2 data).payload = [cla, ins, p1, p2] ++ data ↔ data = [] := by
  show payloadOf cla ins p1 p2 data = _ ↔ _
  rw [payloadOf_eq, List.append_right_eq_self, List.replicate_eq_nil_iff, List.length_eq_zero_iff]

/-- The view of the whole ends a byte behind the buffer. -/
theorem payloadView_outside :
    ¬ (ApduCommand.ofData cla ins p1 p2 data).payloadSpan.Within
      (ApduCommand.ofData cla ins p1 p2 data).payload := by
  show ¬ 1 + (payloadOf cla ins p1 p2 data).length ≤ (payloadOf cla ins p1 p2 data).length
  omega

/-- **No command encodes its bytes**, whichever constructor it is from. -/
theorem not_encodes :
    ¬ Encodes (.ofData cla ins p1 p2 data) cla ins p1 p2 data ∧
      ¬ Encodes (.ofHeader cla ins p1 p2) cla ins p1 p2 [] :=
  ⟨fun encodes => payloadView_outside cla ins p1 p2 data encodes.payloadWithin,
    fun encodes => payloadView_outside cla ins p1 p2 [] encodes.payloadWithin⟩

end Encodes

/-- A `SELECT` of an application identifier of two bytes. -/
theorem select_not_encoded :
    (ApduCommand.ofData 0x00 0xA4 0x04 0x00 [0xA0, 0x01]).payload =
        [0x00, 0xA4, 0x04, 0x00, 0xA0, 0x01, 0x00, 0x00] ∧
      (ApduCommand.ofData 0x00 0xA4 0x04 0x00 [0xA0, 0x01]).payloadSpan = ⟨1, 8⟩ ∧
      ¬ Encodes (.ofData 0x00 0xA4 0x04 0x00 [0xA0, 0x01]) 0x00 0xA4 0x04 0x00 [0xA0, 0x01] :=
  ⟨rfl, rfl, fun encodes => absurd encodes.payloadWithin (by decide)⟩

end NearObject.Smartcard
