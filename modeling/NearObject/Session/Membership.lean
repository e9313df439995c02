/-
**`NearObjectSession` — the membership list.**

A session holds shared pointers to near objects. `AddNearObjects` compares the objects behind the
pointers, `RemoveNearObjects` the pointers themselves. Both report what they added or removed; a
client that only sees the reports follows the list by `applyMembershipChange`.

* `apply_addNearObjects`, `apply_removeNearObjects` — the report of each operation, applied to the
  list before it, is the list after it.
-/

import Mathlib.Data.List.Basic

namespace NearObject.Session

/-! ### Near objects -/

section NearObjects

variable {Value : Type}

/-- `NearObjectSpatialProperties`, over any type of values with a boolean comparison; that of
`double` is not reflexive. -/
structure NearObjectSpatialProperties (Value : Type) where
  distance : Option Value
  angleAzimuth : Option Value
  angleElevation : Option Value
  elevation : Option Value
  deriving Repr

instance [BEq Value] : BEq (NearObjectSpatialProperties Value) where
  beq lhs rhs :=
    lhs.distance == rhs.distance && lhs.angleAzimuth == rhs.angleAzimuth &&
      lhs.angleElevation == rhs.angleElevation && lhs.elevation == rhs.elevation

/-- `operator==(const NearObject&, const NearObject&)` of the objects behind two pointers;
`spatialProperties` is the `m_spatialProperties` behind a pointer. -/
def sameObject {Pointer : Type} [BEq Value]
    (spatialProperties : Pointer → NearObjectSpatialProperties Value) (lhs rhs : Pointer) : Bool :=
  spatialProperties lhs == spatialProperties rhs

/-- The properties of near objects as they are constructed. No function of `NearObject` changes
them. -/
def unset (_pointer : Nat) : NearObjectSpatialProperties Nat :=
  ⟨none, none, none, none⟩

end NearObjects

/-! ### The operations -/

section Operations

variable {Pointer Value : Type}

/-- `std::stable_partition`: the entries that satisfy the predicate, then the others, each in their
original order, and the position where the others begin. -/
def stablePartition (predicate : Pointer → Bool) (entries : List Pointer) : List Pointer × Nat :=
  (entries.filter predicate ++ entries.filter (fun entry => !predicate entry),
    (entries.filter predicate).length)

/-- `AddNearObjects`, inside the gate: the new membership, and the objects added. -/
def addNearObjects [BEq Value] (spatialProperties : Pointer → NearObjectSpatialProperties Value)
    (nearObjects nearObjectsToAdd : List Pointer) : List Pointer × List Pointer :=
  -- `std::erase_if`
  let nearObjectsToAdd := nearObjectsToAdd.filter fun nearObject =>
    !nearObjects.any fun nearObjectToAdd => sameObject spatialProperties nearObject nearObjectToAdd
  (nearObjects ++ nearObjectsToAdd, nearObjectsToAdd)

/-- `RemoveNearObjects`, inside the gate: the new membership, and the objects removed. -/
def removeNearObjects [DecidableEq Pointer] (nearObjects nearObjectsToRemove : List Pointer) :
    List Pointer × List Pointer :=
  let partitioned := stablePartition
    (fun nearObjectToCheck => nearObjectsToRemove.all fun nearObjectToRemove =>
      nearObjectToCheck ≠ nearObjectToRemove) nearObjects
  (partitioned.1.take partitioned.2, partitioned.1.drop partitioned.2)

/-- What a client does with an `OnSessionMembershipChanged`: append the added objects, then drop
every entry whose pointer is in the removed list. -/
def applyMembershipChange [DecidableEq Pointer] (nearObjects nearObjectsAdded
    nearObjectsRemoved : List Pointer) : List Pointer :=
  (nearObjects ++ nearObjectsAdded).filter (· ∉ nearObjectsRemoved)

end Operations

/-! ### What the reports say -/

section Reports

variable {Pointer Value : Type}

theorem stablePartition_take (predicate : Pointer → Bool) (entries : List Pointer) :
    (stablePartition predicate entries).1.take (stablePartition predicate entries).2 =
      entries.filter predicate := by
  rw [stablePartition, List.take_left]

theorem stablePartition_drop (predicate : Pointer → Bool) (entries : List Pointer) :
    (stablePartition predicate entries).1.drop (stablePartition predicate entries).2 =
      entries.filter (fun entry => !predicate entry) := by
  rw [stablePartition, List.drop_left]

section Add

variable [BEq Value] (spatialProperties : Pointer → NearObjectSpatialProperties Value)

/-- The added objects go to the end of the membership. -/
theorem addNearObjects_fst (nearObjects nearObjectsToAdd : List Pointer) :
    (addNearObjects spatialProperties nearObjects nearObjectsToAdd).1 =
      nearObjects ++ (addNearObjects spatialProperties nearObjects nearObjectsToAdd).2 :=
  rfl

end Add

variable [DecidableEq Pointer]

/-- The `std::none_of` of `RemoveNearObjects`. -/
theorem none_of_eq (entry : Pointer) (entries : List Pointer) :
    (entries.all fun other => entry ≠ other) = decide (entry ∉ entries) := by
  rw [Bool.eq_iff_iff, List.all_eq_true, decide_eq_true_iff]
  simp only [decide_eq_true_iff]
  exact List.forall_mem_ne

/-- The membership keeps, in order, the entries that are not to be removed. -/
theorem removeNearObjects_fst (nearObjects nearObjectsToRemove : List Pointer) :
    (removeNearObjects nearObjects nearObjectsToRemove).1 =
      nearObjects.filter (· ∉ nearObjectsToRemove) := by
  rw [removeNearObjects, stablePartition_take]
  exact List.filter_congr fun entry _ => none_of_eq entry nearObjectsToRemove

/-- The report lists, in order, the entries that are. -/
theorem removeNearObjects_snd (nearObjects nearObjectsToRemove : List Pointer) :
    (removeNearObjects nearObjects nearObjectsToRemove).2 =
      nearObjects.filter (· ∈ nearObjectsToRemove) := by
  rw [removeNearObjects, stablePartition_drop]
  refine List.filter_congr fun entry _ => ?_
  rw [none_of_eq]
  simp

/-- **The report of `AddNearObjects` replays it.** -/
theorem apply_addNearObjects [BEq Value]
    (spatialProperties : Pointer → NearObjectSpatialProperties Value)
    (nearObjects nearObjectsToAdd : List Pointer) :
    applyMembershipChange nearObjects
        (addNearObjects spatialProperties nearObjects nearObjectsToAdd).2 [] =
      (addNearObjects spatialProperties nearObjects nearObjectsToAdd).1 := by
  simp [applyMembershipChange, addNearObjects_fst]

/-- **The report of `RemoveNearObjects` replays it.** -/
theorem apply_removeNearObjects (nearObjects nearObjectsToRemove : List Pointer) :
    applyMembershipChange nearObjects [] (removeNearObjects nearObjects nearObjectsToRemove).2 =
      (removeNearObjects nearObjects nearObjectsToRemove).1 := by
  rw [removeNearObjects_fst, removeNearObjects_snd, applyMembershipChange, List.append_nil]
  refine List.filter_congr fun entry member => ?_
  simp [member]

end Reports

end NearObject.Session
