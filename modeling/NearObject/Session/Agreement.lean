/-
**`NearObjectSession` — what it is to be a member, for `AddNearObject` and for `RemoveNearObject`.**

The two operations look a near object up in the membership in two ways: adding compares the objects
behind the pointers, removing the pointers. They agree on an object that is recognised, that is, one
that is a member just when some member compares equal to it.

* `recognised_iff` — the object is refused as a member by the one exactly where it is removed by the
  other, if and only if it is recognised.
* `recognised_of_unset` — as long as the spatial properties have their default, which no function of
  `NearObject` changes, that is every member, and no other object unless the session is empty.
-/

import NearObject.Session.Distinct

namespace NearObject.Session

open TaskQueue (Caller)

/-! ### One object -/

section Lookup

variable {Pointer Value : Type} [DecidableEq Pointer] [BEq Value]

/-- The object is a member and compares equal to one, or neither. -/
def Recognised (spatialProperties : Pointer → NearObjectSpatialProperties Value)
    (nearObjects : List Pointer) (nearObject : Pointer) : Prop :=
  (nearObject ∈ nearObjects ∧
      ∃ member ∈ nearObjects, sameObject spatialProperties nearObject member = true) ∨
    (nearObject ∉ nearObjects ∧
      ∀ member ∈ nearObjects, sameObject spatialProperties nearObject member = false)

variable {spatialProperties : Pointer → NearObjectSpatialProperties Value}
  {nearObjects : List Pointer} {nearObject : Pointer}

omit [DecidableEq Pointer] in
/-- Adding changes nothing where every object compares equal to a member. -/
theorem added_unchanged_iff {nearObjectsToAdd : List Pointer} :
    (addNearObjects spatialProperties nearObjects nearObjectsToAdd).1 = nearObjects ↔
      ∀ nearObject ∈ nearObjectsToAdd,
        ∃ member ∈ nearObjects, sameObject spatialProperties nearObject member = true := by
  rw [addNearObjects_fst, List.append_right_eq_self, List.eq_nil_iff_forall_not_mem]
  simp only [mem_added, not_and_not_right]

omit [BEq Value] in
/-- Removing changes nothing where no object is a member. -/
theorem removed_unchanged_iff {nearObjectsToRemove : List Pointer} :
    (removeNearObjects nearObjects nearObjectsToRemove).1 = nearObjects ↔
      ∀ nearObject ∈ nearObjectsToRemove, nearObject ∉ nearObjects := by
  rw [removeNearObjects_fst, List.filter_eq_self]
  simp only [decide_eq_true_iff]
  exact ⟨fun kept nearObject given member => kept nearObject member given,
    fun kept nearObject member given => kept nearObject given member⟩

omit [BEq Value] in
/-- Removing an object removes an entry where it is a member. -/
theorem remove_shorter_iff :
    (removeNearObjects nearObjects [nearObject]).1.length < nearObjects.length ↔
      nearObject ∈ nearObjects := by
  rw [removeNearObjects_fst, List.length_filter_lt_length_iff_exists]
  simp

omit [DecidableEq Pointer] in
/-- The two comparisons agree on what is recognised. -/
theorem recognised_iff_agree : Recognised spatialProperties nearObjects nearObject ↔
    ((∃ member ∈ nearObjects, sameObject spatialProperties nearObject member = true) ↔
      nearObject ∈ nearObjects) := by
  have other : (∀ member ∈ nearObjects, sameObject spatialProperties nearObject member = false) ↔
      ¬ ∃ member ∈ nearObjects, sameObject spatialProperties nearObject member = true := by
    simp
  rw [Recognised, other, ← iff_iff_and_or_not_and_not]
  exact iff_comm

omit [DecidableEq Pointer] in
/-- While all objects compare equal, a member is recognised, and another object where there are no
members. -/
theorem recognised_of_unset (unset : ∀ lhs rhs, sameObject spatialProperties lhs rhs = true) :
    Recognised spatialProperties nearObjects nearObject ↔
      nearObject ∈ nearObjects ∨ nearObjects = [] := by
  rw [recognised_iff_agree]
  simp only [unset, and_true]
  constructor
  · rintro ⟨same, -⟩
    cases nearObjects with
    | nil => exact .inr rfl
    | cons member rest => exact .inl (same ⟨member, List.mem_cons_self ..⟩)
  · rintro (inside | rfl)
    · exact ⟨fun _ => inside, fun inside => ⟨nearObject, inside⟩⟩
    · simp

end Lookup

/-! ### The operations of a session -/

section Operations

variable {Thread Pointer Value : Type} [DecidableEq Thread] [DecidableEq Pointer] [BEq Value]
  {spatialProperties : Pointer → NearObjectSpatialProperties Value} {s t u : State Thread Pointer}
  {caller : Caller Thread}

theorem enter_addNearObjects {nearObjectsToAdd : List Pointer}
    (adds : s.enter spatialProperties caller (.addNearObjects nearObjectsToAdd) = some t) :
    t.nearObjects = (addNearObjects spatialProperties s.nearObjects nearObjectsToAdd).1 := by
  obtain ⟨locked, lock, rfl⟩ := Option.map_eq_some_iff.mp adds
  obtain ⟨-, rfl⟩ := lock_eq_some.mp lock
  rfl

theorem enter_removeNearObjects {nearObjectsToRemove : List Pointer}
    (removes : s.enter spatialProperties caller (.removeNearObjects nearObjectsToRemove) = some t) :
    t.nearObjects = (removeNearObjects s.nearObjects nearObjectsToRemove).1 := by
  obtain ⟨locked, lock, rfl⟩ := Option.map_eq_some_iff.mp removes
  obtain ⟨-, rfl⟩ := lock_eq_some.mp lock
  rfl

/-- **Adding an object changes nothing exactly where removing it would remove an entry, if and only
if the object is recognised**, for every session whose membership is not in use. -/
theorem recognised_iff {nearObject : Pointer}
    (adds : s.enter spatialProperties caller (.addNearObjects [nearObject]) = some t)
    (removes : s.enter spatialProperties caller (.removeNearObjects [nearObject]) = some u) :
    (t.nearObjects = s.nearObjects ↔ u.nearObjects.length < s.nearObjects.length) ↔
      Recognised spatialProperties s.nearObjects nearObject := by
  rw [enter_addNearObjects adds, enter_removeNearObjects removes, added_unchanged_iff,
    List.forall_mem_singleton, remove_shorter_iff, recognised_iff_agree]

theorem recognised_member :
    (addNearObjects unset [1] [1]).1 = [1] ↔ (removeNearObjects [1] [1]).1.length < 1 := by
  obtain ⟨t, adds, added⟩ : ∃ t, (init Nat ⟨true⟩ [1]).enter unset (.client 0)
      (.addNearObjects [1]) = some t ∧ t.nearObjects = [1] := ⟨_, rfl, rfl⟩
  obtain ⟨u, removes, removed⟩ : ∃ u, (init Nat ⟨true⟩ [1]).enter unset (.client 0)
      (.removeNearObjects [1]) = some u ∧ u.nearObjects = [] := ⟨_, rfl, rfl⟩
  have agree := (recognised_iff adds removes).mpr (.inl ⟨by decide, 1, by decide, rfl⟩)
  rw [added, removed] at agree
  exact agree

/-- Another object than the member is refused as a member, and is not removed. -/
theorem refused_not_removed : (addNearObjects unset [1] [2]).1 = [1] ∧
    (removeNearObjects [1] [2]).1 = [1] ∧ ¬ Recognised unset [1] 2 := by
  refine ⟨rfl, rfl, ?_⟩
  rw [recognised_of_unset fun _ _ => rfl]
  decide

end Operations

end NearObject.Session
