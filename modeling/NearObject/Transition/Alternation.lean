/-
**Two values in turn.**

* `alternating_snoc` — a list goes on in turn with the value of its length.
* `Alternating.getLast`, `Alternating.counts` — how it ends, and how often each value has come.
-/

import Mathlib.Data.List.Induction

namespace Transition

variable {Value : Type*} {first second : Value} {values : List Value}

/-- The value at a position of `first, second, first, second, …`. -/
def turn (first second : Value) (position : Nat) : Value :=
  if position % 2 = 0 then first else second

/-- The values are `first` and `second` in turn, beginning with `first`. -/
def Alternating (first second : Value) (values : List Value) : Prop :=
  ∀ (position : Nat) (value : Value), values[position]? = some value →
    value = turn first second position

theorem alternating_nil : Alternating first second [] := by
  simp [Alternating]

theorem Alternating.append_left {others : List Value}
    (alternating : Alternating first second (values ++ others)) :
    Alternating first second values := by
  intro position value here
  apply alternating
  rw [List.getElem?_append_left (List.getElem?_eq_some_iff.mp here).1, here]

theorem alternating_snoc {value : Value} : Alternating first second (values ++ [value]) ↔
    Alternating first second values ∧ value = turn first second values.length := by
  constructor
  · intro alternating
    exact ⟨alternating.append_left, alternating _ _ List.getElem?_concat_length⟩
  · rintro ⟨alternating, next⟩ position other here
    by_cases inside : position < values.length
    · rw [List.getElem?_append_left inside] at here
      exact alternating position other here
    · have outside : values.length ≤ position := by omega
      rw [List.getElem?_append_right outside, List.getElem?_singleton] at here
      obtain ⟨last, rfl⟩ := Option.ite_some_none_eq_some.mp here
      rw [show position = values.length by omega]
      exact next

/-- **The first value is last** where the length is odd. -/
theorem Alternating.getLast (alternating : Alternating first second values)
    (different : first ≠ second) : values.getLast? = some first ↔ values.length % 2 = 1 := by
  induction values using List.reverseRecOn with
  | nil => simp
  | append_singleton values value _ =>
    obtain ⟨-, rfl⟩ := alternating_snoc.mp alternating
    rw [List.getLast?_concat, List.length_append, List.length_singleton, turn]
    split
    · rename_i even
      exact iff_of_true rfl (by omega)
    · rename_i odd
      exact iff_of_false (fun same => different (Option.some.inj same).symm) (by omega)

/-- **How often each value has come.** -/
theorem Alternating.counts [DecidableEq Value] (alternating : Alternating first second values)
    (different : first ≠ second) :
    values.count first = values.count second + values.length % 2 := by
  induction values using List.reverseRecOn with
  | nil => rfl
  | append_singleton values value ih =>
    obtain ⟨before, rfl⟩ := alternating_snoc.mp alternating
    have counts := ih before
    rw [List.count_append, List.count_append, List.length_append, List.length_singleton, turn]
    split
    · rename_i even
      rw [List.count_singleton_self, List.count_singleton, if_neg (by simpa using different)]
      omega
    · rename_i odd
      rw [List.count_singleton_self, List.count_singleton, if_neg (by simpa using different.symm)]
      omega

end Transition
