/-
**`encoding::TlvSimple` — parsing SIMPLE-TLV.**

The format is a tag, a length and that many bytes of value. A length up to `0xFE` is one byte; the
byte `0xFF` announces a length of two bytes, most significant first. `Encodes` says so of a byte
sequence; `parse` is `TlvSimple::Parse`, with its reads and its conversions to `uint16_t` checked: a
read outside the data, or a conversion that would lose bits, is a `Fault` and ends the function.

* `parse_of_encodes`, `parse_of_not_encodes` — `parse` succeeds on exactly the format and recovers
  the tag and the value; everywhere else it fails and writes null. In neither case is there a fault.
-/

import Mathlib.Tactic.Common

namespace NearObject.Tlv

/-! ### The code -/

section Code

/-- `Tlv::ParseResult`. -/
inductive ParseResult
  | succeeded
  | failed
  | tlvNotFound
  | unknownError
  deriving DecidableEq, Repr

/-- What the spans `Tag` and `Value` of a `TlvSimple` show. -/
structure TlvSimple where
  tag : List UInt8
  value : List UInt8
  deriving DecidableEq, Repr

/-- `TlvSimple::TlvSimple`; `m_tag` is a vector of one byte. -/
def TlvSimple.create (tag : UInt8) (value : List UInt8) : TlvSimple where
  tag := [tag]
  value := value

def oneByteLengthMinimumSize : Nat := 2

def threeByteLengthMinimumSize : Nat := 4

def threeByteLengthIndicatorValue : UInt16 := 0xFF

/-- What the checks of this model detect; the code would go on with undefined behaviour, or with a
wrong length. -/
inductive Fault
  | outOfRange (index : Nat)
  | truncated (length : Nat)
  deriving DecidableEq, Repr

/-- `data[index]`. -/
def readByte (data : List UInt8) (index : Nat) : Except Fault UInt8 :=
  match data[index]? with
  | some byte => .ok byte
  | none => .error (.outOfRange index)

/-- The conversion of an `int` to `uint16_t`. -/
def narrow (length : Nat) : Except Fault UInt16 :=
  if length < UInt16.size then .ok (UInt16.ofNat length) else .error (.truncated length)

/-- `data.last(length)`. -/
def lastBytes (data : List UInt8) (length : Nat) : Except Fault (List UInt8) :=
  if length ≤ data.length then .ok (data.drop (data.length - length))
  else .error (.outOfRange length)

/-- The end of `Parse`, once the size of the data matches the length. -/
def produce (data : List UInt8) (tag : UInt8) (length : UInt16) :
    Except Fault (ParseResult × Option (Option TlvSimple)) := do
  let value ← lastBytes data length.toNat
  pure (.succeeded, some (some (.create tag value)))

/-- **`TlvSimple::Parse`.** `tlvOutput` is `none` for a null pointer, and otherwise what the pointer
points to; the result says what it points to afterwards. -/
def parse (tlvOutput : Option (Option TlvSimple)) (data : List UInt8) :
    Except Fault (ParseResult × Option (Option TlvSimple)) :=
  match tlvOutput with
  | none => pure (.failed, none)
  | some _ =>
    if data.length < oneByteLengthMinimumSize then pure (.failed, some none)
    else do
      let tag ← readByte data 0
      let length ← readByte data 1
      let length := length.toUInt16
      if length = threeByteLengthIndicatorValue then
        if data.length < threeByteLengthMinimumSize then pure (.failed, some none)
        else do
          let high ← readByte data 2
          let length ← narrow (high.toUInt16.toNat <<< 8)
          let low ← readByte data 3
          let length ← narrow (length.toNat ||| low.toNat)
          if data.length ≠ threeByteLengthMinimumSize + length.toNat then pure (.failed, some none)
          else produce data tag length
      else if data.length ≠ oneByteLengthMinimumSize + length.toNat then pure (.failed, some none)
      else produce data tag length

end Code

/-! ### The format -/

section Format

/-- The two forms of a SIMPLE-TLV. -/
inductive Encodes : List UInt8 → UInt8 → List UInt8 → Prop
  | short (tag n : UInt8) (value : List UInt8) (bound : n.toNat ≤ 0xFE)
      (size : value.length = n.toNat) : Encodes (tag :: n :: value) tag value
  | long (tag high low : UInt8) (value : List UInt8)
      (size : value.length = 256 * high.toNat + low.toNat) :
      Encodes (tag :: 0xFF :: high :: low :: value) tag value

/-- The encoding with a length of one byte. -/
def shortEncoding (tag : UInt8) (value : List UInt8) : List UInt8 :=
  tag :: UInt8.ofNat value.length :: value

/-- The encoding with a length of two bytes. -/
def longEncoding (tag : UInt8) (value : List UInt8) : List UInt8 :=
  tag :: 0xFF :: UInt8.ofNat (value.length / 256) :: UInt8.ofNat (value.length % 256) :: value

theorem encodes_shortEncoding (tag : UInt8) {value : List UInt8} (fits : value.length ≤ 254) :
    Encodes (shortEncoding tag value) tag value := by
  have size : (UInt8.ofNat value.length).toNat = value.length := by
    rw [UInt8.toNat_ofNat']
    omega
  exact .short tag _ value (by omega) size.symm

theorem encodes_longEncoding (tag : UInt8) {value : List UInt8} (fits : value.length ≤ 65535) :
    Encodes (longEncoding tag value) tag value := by
  refine .long tag _ _ value ?_
  rw [UInt8.toNat_ofNat', UInt8.toNat_ofNat']
  omega

end Format

/-! ### The parser -/

section Parser

/-- The two bytes of a long length, put together as in the code. -/
theorem long_length (high low : UInt8) :
    high.toNat <<< 8 ||| low.toNat = 256 * high.toNat + low.toNat := by
  have small : low.toNat < 2 ^ 8 := low.toNat_lt
  rw [← Nat.shiftLeft_add_eq_or_of_lt small, Nat.shiftLeft_eq, Nat.mul_comm]

theorem lastBytes_append (header value : List UInt8) :
    lastBytes (header ++ value) value.length = .ok value := by
  simp [lastBytes]

theorem narrow_of_lt {length : Nat} (fits : length < UInt16.size) :
    ∃ narrowed : UInt16, narrow length = .ok narrowed ∧ narrowed.toNat = length :=
  ⟨UInt16.ofNat length, if_pos fits, by rw [UInt16.toNat_ofNat', Nat.mod_eq_of_lt fits]⟩

theorem produce_append (header : List UInt8) {value : List UInt8} {tag : UInt8} {length : UInt16}
    (size : value.length = length.toNat) :
    produce (header ++ value) tag length =
      .ok (.succeeded, some (some (.create tag value))) := by
  rw [produce, ← size, lastBytes_append]
  rfl

/-- **A one-byte length.** -/
theorem parse_short (output : Option TlvSimple) (tag n : UInt8) (value : List UInt8)
    (bound : n.toNat ≤ 0xFE) :
    parse (some output) (tag :: n :: value) =
      if value.length = n.toNat then .ok (.succeeded, some (some (.create tag value)))
      else .ok (.failed, some none) := by
  have wide : n.toUInt16.toNat = n.toNat := UInt8.toNat_toUInt16 n
  have oneByte : n.toUInt16 ≠ threeByteLengthIndicatorValue := by
    intro same
    have value := congrArg UInt16.toNat same
    rw [wide, threeByteLengthIndicatorValue] at value
    simp at value
    omega
  have enough : ¬ (tag :: n :: value).length < oneByteLengthMinimumSize := by
    simp [oneByteLengthMinimumSize]
  have first : readByte (tag :: n :: value) 0 = .ok tag := rfl
  have second : readByte (tag :: n :: value) 1 = .ok n := rfl
  simp only [parse, if_neg enough, first, second, bind, Except.bind, if_neg oneByte]
  by_cases size : value.length = n.toNat
  · have whole : (tag :: n :: value).length = oneByteLengthMinimumSize + n.toUInt16.toNat := by
      simp only [List.length_cons, size, wide, oneByteLengthMinimumSize]
      omega
    rw [if_neg (not_not.mpr whole), if_pos size]
    exact produce_append [tag, n] (size.trans wide.symm)
  · have other : (tag :: n :: value).length ≠ oneByteLengthMinimumSize + n.toUInt16.toNat := by
      simp only [List.length_cons, wide, oneByteLengthMinimumSize]
      omega
    rw [if_pos other, if_neg size]
    rfl

/-- **A two-byte length.** -/
theorem parse_long (output : Option TlvSimple) (tag high low : UInt8) (value : List UInt8) :
    parse (some output) (tag :: 0xFF :: high :: low :: value) =
      if value.length = 256 * high.toNat + low.toNat then
        .ok (.succeeded, some (some (.create tag value)))
      else .ok (.failed, some none) := by
  let data := tag :: 0xFF :: high :: low :: value
  have highSmall : high.toNat < 2 ^ 8 := high.toNat_lt
  have lowSmall : low.toNat < 2 ^ 8 := low.toNat_lt
  obtain ⟨shifted, shifts, shiftedValue⟩ : ∃ shifted : UInt16,
      narrow (high.toUInt16.toNat <<< 8) = .ok shifted ∧ shifted.toNat = high.toNat <<< 8 := by
    rw [UInt8.toNat_toUInt16]
    refine narrow_of_lt ?_
    rw [Nat.shiftLeft_eq, UInt16.size]
    omega
  obtain ⟨length, joins, lengthValue⟩ : ∃ length : UInt16,
      narrow (shifted.toNat ||| low.toNat) = .ok length ∧
        length.toNat = 256 * high.toNat + low.toNat := by
    rw [shiftedValue, long_length]
    refine narrow_of_lt ?_
    rw [UInt16.size]
    omega
  have enough : ¬ data.length < oneByteLengthMinimumSize := by
    simp [data, oneByteLengthMinimumSize]
  have enoughLong : ¬ data.length < threeByteLengthMinimumSize := by
    simp [data, threeByteLengthMinimumSize]
  have indicator : (0xFF : UInt8).toUInt16 = threeByteLengthIndicatorValue := rfl
  have first : readByte data 0 = .ok tag := rfl
  have second : readByte data 1 = .ok 0xFF := rfl
  have third : readByte data 2 = .ok high := rfl
  have fourth : readByte data 3 = .ok low := rfl
  change parse (some output) data = _
  simp only [parse, if_neg enough, first, second, bind, Except.bind, if_pos indicator,
    if_neg enoughLong, third, fourth, shifts, joins]
  by_cases size : value.length = 256 * high.toNat + low.toNat
  · have whole : data.length = threeByteLengthMinimumSize + length.toNat := by
      simp only [data, List.length_cons, size, lengthValue, threeByteLengthMinimumSize]
      omega
    rw [if_neg (not_not.mpr whole), if_pos size]
    exact produce_append [tag, 0xFF, high, low] (size.trans lengthValue.symm)
  · have other : data.length ≠ threeByteLengthMinimumSize + length.toNat := by
      simp only [data, List.length_cons, lengthValue, threeByteLengthMinimumSize]
      omega
    rw [if_pos other, if_neg size]
    rfl

theorem parse_of_encodes (output : Option TlvSimple) {data : List UInt8} {tag : UInt8}
    {value : List UInt8} (encodes : Encodes data tag value) :
    parse (some output) data = .ok (.succeeded, some (some (.create tag value))) := by
  cases encodes with
  | short tag n value bound size => rw [parse_short output tag n value bound, if_pos size]
  | long tag high low value size => rw [parse_long, if_pos size]

theorem parse_of_not_encodes (output : Option TlvSimple) {data : List UInt8}
    (other : ¬ ∃ tag value, Encodes data tag value) :
    parse (some output) data = .ok (.failed, some none) := by
  match data with
  | [] | [_] => rfl
  | tag :: n :: value =>
    by_cases bound : n.toNat ≤ 0xFE
    · rw [parse_short output tag n value bound, if_neg]
      exact fun size => other ⟨tag, value, .short tag n value bound size⟩
    · obtain rfl : n = 0xFF := by
        have small := n.toNat_lt
        refine UInt8.toNat_inj.mp ?_
        change n.toNat = 255
        omega
      match value with
      | [] | [_] => rfl
      | high :: low :: value =>
        rw [parse_long, if_neg]
        exact fun size => other ⟨tag, value, .long tag high low value size⟩

/-- **`Parse` accepts exactly the format and recovers its content**, and no input makes it read
outside the data or lose bits of the length. -/
theorem parse_exact (output : Option TlvSimple) (data : List UInt8) :
    ((∃ tlv, parse (some output) data = .ok (.succeeded, tlv)) ↔
      ∃ tag value, Encodes data tag value) ∧
    (∀ tag value, Encodes data tag value →
      parse (some output) data = .ok (.succeeded, some (some ⟨[tag], value⟩))) ∧
    ((¬ ∃ tag value, Encodes data tag value) →
      parse (some output) data = .ok (.failed, some none)) ∧
    (∀ tag value, value.length ≤ 65535 →
      parse (some output) (longEncoding tag value) =
        .ok (.succeeded, some (some ⟨[tag], value⟩))) ∧
    (∀ tag value, value.length ≤ 254 →
      parse (some output) (shortEncoding tag value) =
        .ok (.succeeded, some (some ⟨[tag], value⟩))) ∧
    ∀ tlvOutput fault, parse tlvOutput data ≠ .error fault := by
  refine ⟨⟨?_, ?_⟩, ?_, parse_of_not_encodes output, ?_, ?_, ?_⟩
  · rintro ⟨tlv, succeeds⟩
    by_contra other
    rw [parse_of_not_encodes output other] at succeeds
    cases succeeds
  · rintro ⟨tag, value, encodes⟩
    exact ⟨_, parse_of_encodes output encodes⟩
  · intro tag value encodes
    exact parse_of_encodes output encodes
  · intro tag value fits
    exact parse_of_encodes output (encodes_longEncoding tag fits)
  · intro tag value fits
    exact parse_of_encodes output (encodes_shortEncoding tag fits)
  · intro tlvOutput fault faults
    cases tlvOutput with
    | none => cases faults
    | some output =>
      by_cases format : ∃ tag value, Encodes data tag value
      · obtain ⟨tag, value, encodes⟩ := format
        rw [parse_of_encodes output encodes] at faults
        cases faults
      · rw [parse_of_not_encodes output format] at faults
        cases faults

/-- A value of three bytes, in both encodings, and a length that is too long for its data. -/
theorem parse_exact_three_bytes :
    parse (some none) (shortEncoding 3 [7, 8, 9]) = .ok (.succeeded, some (some ⟨[3], [7, 8, 9]⟩)) ∧
    parse (some none) (longEncoding 3 [7, 8, 9]) = .ok (.succeeded, some (some ⟨[3], [7, 8, 9]⟩)) ∧
    parse (some none) [3, 4, 7] = .ok (.failed, some none) := by
  obtain ⟨-, -, -, long, short, -⟩ := parse_exact none []
  refine ⟨short 3 [7, 8, 9] (by decide), long 3 [7, 8, 9] (by decide), ?_⟩
  exact (parse_exact none [3, 4, 7]).2.2.1 (by rintro ⟨tag, value, ⟨⟩⟩; contradiction)

end Parser

end NearObject.Tlv
