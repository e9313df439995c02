/-
**Prefix-free codes.**

A code is a set of sequences. It is prefix-free if no member is a proper prefix of another one, so
that a reader who knows where a member begins also knows where it ends.

* `PrefixFree.split` — two members that begin one stream are the same member.
* `PrefixFree.uniquelyDecodable` — a stream of members splits into members in one way.
-/

import Mathlib.InformationTheory.Coding.UniquelyDecodable

namespace Encoding

open InformationTheory

variable {Symbol : Type*} {code : Set (List Symbol)}

/-- No member is a proper prefix of another one. -/
def PrefixFree (code : Set (List Symbol)) : Prop :=
  ∀ first ∈ code, ∀ second ∈ code, first <+: second → first = second

/-- **The members with which a stream begins** are one. -/
theorem PrefixFree.split (free : PrefixFree code) {first second rest others : List Symbol}
    (begins : first ∈ code) (alsoBegins : second ∈ code)
    (same : first ++ rest = second ++ others) : first = second ∧ rest = others := by
  have equal : first = second := by
    rcases Nat.le_total first.length second.length with shorter | longer
    · exact free first begins second alsoBegins
        (List.prefix_of_prefix_length_le ⟨rest, same⟩ ⟨others, rfl⟩ shorter)
    · exact (free second alsoBegins first begins
        (List.prefix_of_prefix_length_le ⟨others, same.symm⟩ ⟨rest, rfl⟩ longer)).symm
  subst equal
  exact ⟨rfl, List.append_cancel_left same⟩

/-- **A stream splits into members in one way.** -/
theorem PrefixFree.uniquelyDecodable (free : PrefixFree code) (proper : [] ∉ code) :
    UniquelyDecodable code := by
  intro first
  -- a member is not empty, so that a stream of one more member is longer
  have begins {member : List Symbol} (inside : member ∈ code) : member ≠ [] :=
    fun empty => proper (empty ▸ inside)
  induction first with
  | nil =>
    intro second _ members same
    cases second with
    | nil => rfl
    | cons member second =>
      obtain ⟨empty, -⟩ := List.append_eq_nil_iff.mp (List.flatten_cons ▸ same.symm)
      exact absurd empty (begins (members member List.mem_cons_self))
  | cons member first ih =>
    intro second firstMembers members same
    rw [List.flatten_cons] at same
    have inside := firstMembers member List.mem_cons_self
    cases second with
    | nil => exact absurd (List.append_eq_nil_iff.mp same).1 (begins inside)
    | cons other second =>
      rw [List.flatten_cons] at same
      obtain ⟨rfl, rest⟩ := free.split inside (members other List.mem_cons_self) same
      have tails := ih second (fun word inside => firstMembers word (List.mem_cons_of_mem _ inside))
        (fun word inside => members word (List.mem_cons_of_mem _ inside)) rest
      rw [tails]

end Encoding
