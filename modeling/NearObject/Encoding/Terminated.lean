/-
**Sequences with a terminator, and lists of them.**

One symbol is the terminator. A sequence is read up to the first one (`upTo`). A list of sequences
is written as each of them with a terminator behind it, and one more terminator at the end
(`listed`); as the second of two terminators in a row ends it, its sequences are not empty
(`Word`).

* `upTo_eq_some` — what is read up to the terminator.
* `listing_iff` — what begins with a written list, by its sequences one after another.
* `listing_of_double` — whatever ends with two terminators begins with a written list.
-/

import Mathlib.Data.List.Basic

namespace Encoding

variable {Symbol : Type*} {terminator : Symbol}

/-! ### One sequence -/

section One

variable [DecidableEq Symbol]

/-- What comes before the first terminator, `none` where there is none. -/
def upTo (terminator : Symbol) : List Symbol → Option (List Symbol)
  | [] => none
  | symbol :: symbols =>
    if symbol = terminator then some [] else (upTo terminator symbols).map (symbol :: ·)

/-- **What is read** has no terminator, and one behind it. -/
theorem upTo_eq_some {symbols word : List Symbol} : upTo terminator symbols = some word ↔
    terminator ∉ word ∧ ∃ rest, symbols = word ++ terminator :: rest := by
  induction symbols generalizing word with
  | nil => simp [upTo]
  | cons symbol symbols ih =>
    unfold upTo
    by_cases here : symbol = terminator
    · rw [if_pos here]
      obtain rfl := here
      constructor
      · intro read
        obtain rfl := Option.some.inj read
        exact ⟨List.not_mem_nil, symbols, rfl⟩
      · rintro ⟨free, rest, shape⟩
        cases word with
        | nil => rfl
        | cons first word =>
          obtain ⟨rfl, -⟩ := List.cons.inj shape
          exact absurd (List.mem_cons_self ..) free
    · rw [if_neg here, Option.map_eq_some_iff]
      constructor
      · rintro ⟨tail, read, rfl⟩
        obtain ⟨free, rest, rfl⟩ := ih.mp read
        exact ⟨by simpa [Ne.symm here] using free, rest, rfl⟩
      · rintro ⟨free, rest, shape⟩
        cases word with
        | nil => exact absurd (List.cons.inj shape).1 here
        | cons first word =>
          obtain ⟨rfl, same⟩ := List.cons.inj shape
          exact ⟨word, ih.mpr ⟨fun inside => free (List.mem_cons_of_mem _ inside), rest, same⟩, rfl⟩

end One

/-! ### A list of sequences -/

/-- A sequence of a list: not empty, and without the terminator. -/
def Word (terminator : Symbol) (word : List Symbol) : Prop :=
  word ≠ [] ∧ terminator ∉ word

instance [DecidableEq Symbol] (word : List Symbol) : Decidable (Word terminator word) :=
  inferInstanceAs (Decidable (_ ∧ _))

/-- Each sequence with a terminator behind it, and one more. -/
def listed (terminator : Symbol) (words : List (List Symbol)) : List Symbol :=
  words.flatMap (· ++ [terminator]) ++ [terminator]

@[simp]
theorem listed_nil : listed terminator [] = [terminator] :=
  rfl

@[simp]
theorem listed_cons (word : List Symbol) (words : List (List Symbol)) :
    listed terminator (word :: words) = word ++ terminator :: listed terminator words := by
  simp [listed]

/-- The symbols begin with a written list. -/
inductive Listing (terminator : Symbol) : List (List Symbol) → List Symbol → Prop
  | nil (rest : List Symbol) : Listing terminator [] (terminator :: rest)
  | cons {word : List Symbol} {words : List (List Symbol)} {rest : List Symbol}
      (proper : Word terminator word) (more : Listing terminator words rest) :
      Listing terminator (word :: words) (word ++ terminator :: rest)

/-- **A listing is a written list, with anything behind it.** -/
theorem listing_iff {words : List (List Symbol)} {symbols : List Symbol} :
    Listing terminator words symbols ↔
      (∀ word ∈ words, Word terminator word) ∧
        ∃ trailing, symbols = listed terminator words ++ trailing := by
  constructor
  · intro listing
    induction listing with
    | nil rest => exact ⟨by simp, rest, rfl⟩
    | cons proper more ih =>
      obtain ⟨others, trailing, rfl⟩ := ih
      exact ⟨List.forall_mem_cons.mpr ⟨proper, others⟩, trailing, by simp⟩
  · rintro ⟨proper, trailing, rfl⟩
    induction words with
    | nil => exact .nil trailing
    | cons word words ih =>
      obtain ⟨first, others⟩ := List.forall_mem_cons.mp proper
      rw [listed_cons, List.append_assoc, List.cons_append]
      exact .cons first (ih others)

/-! ### Two terminators at the end -/

/-- A single terminator, or two of them at the end. -/
def DoubleTerminated (terminator : Symbol) (symbols : List Symbol) : Prop :=
  symbols = [terminator] ∨ ∃ before, symbols = before ++ [terminator, terminator]

/-- What is behind a sequence is terminated in the same way. -/
theorem DoubleTerminated.tail {word rest : List Symbol} (proper : Word terminator word)
    (double : DoubleTerminated terminator (word ++ terminator :: rest)) :
    DoubleTerminated terminator rest := by
  rcases double with single | ⟨before, shape⟩
  · -- a sequence is not empty, so that this is not a single symbol
    have length := congrArg List.length single
    have := List.length_pos_of_ne_nil proper.1
    simp only [List.length_append, List.length_cons, List.length_nil] at length
    omega
  · rcases List.append_eq_append_iff.mp shape with ⟨between, rfl, ends⟩ | ⟨between, rfl, ends⟩
    · cases between with
      | nil =>
        obtain ⟨-, rfl⟩ := List.cons.inj ends
        exact .inl rfl
      | cons symbol between =>
        obtain ⟨-, rfl⟩ := List.cons.inj ends
        exact .inr ⟨between, rfl⟩
    · -- the sequence does not reach into the terminators
      cases between with
      | nil =>
        obtain ⟨-, rfl⟩ := List.cons.inj ends
        exact .inl rfl
      | cons symbol between =>
        obtain ⟨rfl, -⟩ := List.cons.inj ends
        exact absurd (List.mem_append_right _ (List.mem_cons_self ..)) proper.2

/-- **Whatever ends with two terminators begins with a written list.** -/
theorem listing_of_double {symbols : List Symbol} (double : DoubleTerminated terminator symbols) :
    ∃ words, Listing terminator words symbols := by
  induction length : symbols.length using Nat.strongRecOn generalizing symbols with
  | _ size ih =>
    have inside : terminator ∈ symbols := by
      rcases double with rfl | ⟨before, rfl⟩ <;> simp
    obtain ⟨word, rest, rfl, free⟩ := List.eq_append_cons_of_mem inside
    by_cases empty : word = []
    · subst empty
      exact ⟨[], .nil rest⟩
    · have proper : Word terminator word := ⟨empty, free⟩
      have shorter : rest.length < size := by
        rw [← length, List.length_append, List.length_cons]
        omega
      obtain ⟨words, listing⟩ := ih _ shorter (double.tail proper) rfl
      exact ⟨word :: words, .cons proper listing⟩

end Encoding
