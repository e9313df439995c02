/-
**`encoding::TlvSimple` — what it accepts, as a code.**

`Parse` reads its data as one TLV from the first byte to the last. The data that it accepts are a
prefix-free code: the length says where a TLV ends, so that it refuses one that is cut short and one
with bytes behind it, and TLVs that are written one after another can be told apart in one way only.
A tag and a value have the two encodings of the format, or only the long one, or none.
-/

import NearObject.Encoding.PrefixFree
import NearObject.Tlv.Simple

namespace NearObject.Tlv

open Encoding InformationTheory

section Stream

variable {output : Option TlvSimple} {data : List UInt8} {tag : UInt8} {value : List UInt8}

/-- The data that `Parse` accepts. -/
def accepted (output : Option TlvSimple) : Set (List UInt8) :=
  {data | ∃ tlv, parse (some output) data = .ok (.succeeded, tlv)}

theorem mem_accepted : data ∈ accepted output ↔ ∃ tag value, Encodes data tag value := by
  constructor
  · rintro ⟨tlv, succeeds⟩
    by_contra other
    rw [parse_of_not_encodes output other] at succeeds
    cases succeeds
  · rintro ⟨tag, value, encodes⟩
    exact ⟨_, parse_of_encodes output encodes⟩

/-- What `Parse` does not accept it refuses. -/
theorem parse_of_not_mem (outside : data ∉ accepted output) :
    parse (some output) data = .ok (.failed, some none) :=
  parse_of_not_encodes output fun encodes => outside (mem_accepted.mpr encodes)

/-! ### The encodings of a value -/

theorem encodes_iff : Encodes data tag value ↔
    (value.length ≤ 254 ∧ data = shortEncoding tag value) ∨
      (value.length ≤ 65535 ∧ data = longEncoding tag value) := by
  constructor
  · intro encodes
    cases encodes with
    | short tag n value bound size =>
      refine .inl ⟨by omega, ?_⟩
      rw [shortEncoding, size, UInt8.ofNat_toNat]
    | long tag high low value size =>
      have highSmall : high.toNat < 2 ^ 8 := high.toNat_lt
      have lowSmall : low.toNat < 2 ^ 8 := low.toNat_lt
      have upper : (256 * high.toNat + low.toNat) / 256 = high.toNat := by omega
      have lower : (256 * high.toNat + low.toNat) % 256 = low.toNat := by omega
      refine .inr ⟨by omega, ?_⟩
      rw [longEncoding, size, upper, lower, UInt8.ofNat_toNat, UInt8.ofNat_toNat]
  · rintro (⟨fits, rfl⟩ | ⟨fits, rfl⟩)
    · exact encodes_shortEncoding tag fits
    · exact encodes_longEncoding tag fits

/-- **Which data a tag and a value are read from.** -/
theorem parse_eq_create_iff :
    parse (some output) data = .ok (.succeeded, some (some (.create tag value))) ↔
      Encodes data tag value := by
  refine ⟨fun succeeds => ?_, parse_of_encodes output⟩
  have accepts : data ∈ accepted output := ⟨_, succeeds⟩
  obtain ⟨first, content, encodes⟩ := mem_accepted.mp accepts
  rw [parse_of_encodes output encodes] at succeeds
  simp only [Except.ok.injEq, Prod.mk.injEq, Option.some.injEq, TlvSimple.create,
    TlvSimple.mk.injEq, List.cons.injEq, and_true, true_and] at succeeds
  obtain ⟨rfl, rfl⟩ := succeeds
  exact encodes

/-! ### Where a TLV ends -/

/-- A TLV that begins another one is as long. -/
theorem encodes_prefix {first second : List UInt8} {tag other : UInt8} {value content : List UInt8}
    (encodes : Encodes first tag value) (alsoEncodes : Encodes second other content)
    (begins : first <+: second) : first = second := by
  refine begins.eq_of_length ?_
  obtain ⟨rest, same⟩ := begins
  -- the forms differ in the second byte, and in one form the header gives the length
  cases encodes with
  | short tag n value bound size =>
    cases alsoEncodes with
    | short other m content alsoBound alsoSize =>
      obtain ⟨-, same⟩ := List.cons.inj same
      obtain ⟨rfl, -⟩ := List.cons.inj same
      simp only [List.length_cons, size, alsoSize]
    | long other high low content alsoSize =>
      obtain ⟨-, same⟩ := List.cons.inj same
      obtain ⟨rfl, -⟩ := List.cons.inj same
      exact absurd bound (by decide)
  | long tag high low value size =>
    cases alsoEncodes with
    | short other m content alsoBound alsoSize =>
      obtain ⟨-, same⟩ := List.cons.inj same
      obtain ⟨rfl, -⟩ := List.cons.inj same
      exact absurd alsoBound (by decide)
    | long other upper lower content alsoSize =>
      obtain ⟨-, same⟩ := List.cons.inj same
      obtain ⟨-, same⟩ := List.cons.inj same
      obtain ⟨sameHigh, same⟩ := List.cons.inj same
      obtain ⟨sameLow, -⟩ := List.cons.inj same
      simp only [List.length_cons, size, alsoSize, sameHigh, sameLow]

/-- **The accepted data are a prefix-free code.** -/
theorem prefixFree_accepted : PrefixFree (accepted output) := by
  intro first accepts second alsoAccepts begins
  obtain ⟨tag, value, encodes⟩ := mem_accepted.mp accepts
  obtain ⟨other, content, alsoEncodes⟩ := mem_accepted.mp alsoAccepts
  exact encodes_prefix encodes alsoEncodes begins

theorem nil_not_mem_accepted : [] ∉ accepted output := by
  intro accepts
  obtain ⟨tag, value, encodes⟩ := mem_accepted.mp accepts
  cases encodes

/-- **TLVs are told apart in one way.** A stream of TLVs has one division into data that `Parse`
accepts; of a TLV, `Parse` refuses every proper beginning and every continuation; and what it reads
is in the data in one of the two forms, each where its length can hold the value. -/
theorem stream_told_apart (output : Option TlvSimple) :
    UniquelyDecodable (accepted output) ∧
      (∀ data ∈ accepted output, ∀ first rest, data = first ++ rest → rest ≠ [] →
        parse (some output) first = .ok (.failed, some none)) ∧
      (∀ data ∈ accepted output, ∀ rest, rest ≠ [] →
        parse (some output) (data ++ rest) = .ok (.failed, some none)) ∧
      ∀ data tag value,
        parse (some output) data = .ok (.succeeded, some (some (.create tag value))) ↔
          (value.length ≤ 254 ∧ data = shortEncoding tag value) ∨
            (value.length ≤ 65535 ∧ data = longEncoding tag value) := by
  have more (first : List UInt8) {rest : List UInt8} (proper : rest ≠ []) : first ≠ first ++ rest :=
    fun same => proper (List.self_eq_append_right.mp same)
  refine ⟨prefixFree_accepted.uniquelyDecodable nil_not_mem_accepted, ?_, ?_, ?_⟩
  · rintro data accepts first rest rfl proper
    refine parse_of_not_mem fun alsoAccepts => more first proper ?_
    exact prefixFree_accepted first alsoAccepts _ accepts (List.prefix_append first rest)
  · intro data accepts rest proper
    refine parse_of_not_mem fun alsoAccepts => more data proper ?_
    exact prefixFree_accepted data accepts _ alsoAccepts (List.prefix_append data rest)
  · intro data tag value
    exact parse_eq_create_iff.trans encodes_iff

/-- A TLV of two bytes of value, with a byte behind it, and without its last byte. -/
theorem stream_told_apart_two_bytes :
    parse (some none) [3, 2, 7, 8, 0] = .ok (.failed, some none) ∧
      parse (some none) [3, 2, 7] = .ok (.failed, some none) := by
  have accepts : [3, 2, 7, 8] ∈ accepted none := ⟨_, rfl⟩
  obtain ⟨-, short, long, -⟩ := stream_told_apart none
  exact ⟨long _ accepts [0] (by decide), short _ accepts [3, 2, 7] [8] rfl (by decide)⟩

end Stream

end NearObject.Tlv
