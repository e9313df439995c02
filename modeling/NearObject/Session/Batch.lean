/-
**`NearObjectSession` — adding a batch and removing it again.**

`RemoveNearObjects` partitions the membership in place, moves the entries behind the partition point
into the vector of its report, and erases the slots that it has moved from. `removeSlots` is this on
the slots of the two vectors, where a slot that has been moved from is null.

* `removeSlots_eq` — the slots hold what `removeNearObjects` says, and none of them is null.
* `splits_remove` — the membership is split into what is kept and what is reported.
* `batch_undone` — a batch that is added and then removed leaves the membership as it was, and the
  second event lists as removed what the first lists as added.
-/

import NearObject.Session.Refusal

namespace NearObject.Session

open Transition
open TaskQueue (Caller)

/-! ### The slots of the vectors -/

section Slots

variable {Pointer : Type}

/-- Constructing a vector from move iterators, over the slots from a position to the end: the slots
of the new vector, and those of the old one. -/
def moveFrom (slots : List (Option Pointer)) (position : Nat) :
    List (Option Pointer) × List (Option Pointer) :=
  (slots.drop position, slots.take position ++ .replicate (slots.length - position) none)

/-- `RemoveNearObjects`, inside the gate: the slots of `m_nearObjects`, and those of the report. -/
def removeSlots [DecidableEq Pointer] (nearObjects nearObjectsToRemove : List (Option Pointer)) :
    List (Option Pointer) × List (Option Pointer) :=
  let (nearObjects, nearObjectsRemoved) := stablePartition
    (fun nearObjectToCheck => nearObjectsToRemove.all fun nearObjectToRemove =>
      nearObjectToCheck ≠ nearObjectToRemove) nearObjects
  let (nearObjectsToRemove, nearObjects) := moveFrom nearObjects nearObjectsRemoved
  -- `m_nearObjects.erase`
  (nearObjects.take nearObjectsRemoved, nearObjectsToRemove)

/-- Erasing the slots that were moved from leaves those in front of them. -/
theorem moveFrom_take {slots : List (Option Pointer)} {position : Nat}
    (inside : position ≤ slots.length) :
    (moveFrom slots position).2.take position = slots.take position := by
  have length : (slots.take position).length = position := List.length_take_of_le inside
  unfold moveFrom
  rw [List.take_left' length]

theorem stablePartition_map {Entry : Type} (slot : Pointer → Entry) (predicate : Entry → Bool)
    (entries : List Pointer) :
    stablePartition predicate (entries.map slot) =
      ((stablePartition (predicate ∘ slot) entries).1.map slot,
        (stablePartition (predicate ∘ slot) entries).2) := by
  simp only [stablePartition, List.filter_map, List.map_append, List.length_map]
  rfl

variable [DecidableEq Pointer]

/-- **The slots hold the entries that are kept and reported**, and none that was moved from. -/
theorem removeSlots_eq (nearObjects nearObjectsToRemove : List Pointer) :
    removeSlots (nearObjects.map some) (nearObjectsToRemove.map some) =
      ((removeNearObjects nearObjects nearObjectsToRemove).1.map some,
        (removeNearObjects nearObjects nearObjectsToRemove).2.map some) := by
  have same : (fun slot : Option Pointer => (nearObjectsToRemove.map some).all fun other =>
      decide (slot ≠ other)) ∘ some = fun nearObject => nearObjectsToRemove.all fun other =>
        decide (nearObject ≠ other) := by
    funext nearObject
    simp [Function.comp_def]
  simp only [removeSlots, stablePartition_map, same]
  rw [moveFrom_take]
  · simp only [moveFrom, removeNearObjects, List.map_take, List.map_drop]
  · simp [stablePartition]

/-! ### The two halves -/

/-- **The membership is split** into the members that are kept and those that are reported. -/
structure Splits (nearObjects nearObjectsToRemove kept removed : List Pointer) : Prop where
  /-- The slots of the vectors hold these, and none has been moved from. -/
  slots : removeSlots (nearObjects.map some) (nearObjectsToRemove.map some) =
    (kept.map some, removed.map some)
  keptInOrder : kept.Sublist nearObjects
  removedInOrder : removed.Sublist nearObjects
  together : (kept ++ removed).Perm nearObjects
  /-- What is removed is what was to be, and nothing of it is kept. -/
  selected : ∀ nearObject ∈ nearObjects,
    (nearObject ∈ removed ↔ nearObject ∈ nearObjectsToRemove) ∧
      (nearObject ∈ kept ↔ nearObject ∉ nearObjectsToRemove)

theorem splits_remove (nearObjects nearObjectsToRemove : List Pointer) :
    Splits nearObjects nearObjectsToRemove
      (removeNearObjects nearObjects nearObjectsToRemove).1
      (removeNearObjects nearObjects nearObjectsToRemove).2 where
  slots := removeSlots_eq nearObjects nearObjectsToRemove
  keptInOrder := by
    rw [removeNearObjects_fst]
    exact List.filter_sublist
  removedInOrder := by
    rw [removeNearObjects_snd]
    exact List.filter_sublist
  together := by
    rw [removeNearObjects_fst, removeNearObjects_snd]
    refine List.perm_append_comm.trans ?_
    simpa using List.filter_append_perm (· ∈ nearObjectsToRemove) nearObjects
  selected := by
    intro nearObject member
    rw [removeNearObjects_fst, removeNearObjects_snd, List.mem_filter, List.mem_filter]
    simp [member]

variable {Value : Type} [BEq Value]
  {spatialProperties : Pointer → NearObjectSpatialProperties Value}
  {nearObjects nearObjectsToAdd : List Pointer}

/-- The objects to add are no members, so that removing them leaves the members there were. -/
theorem remove_added_fst (fresh : ∀ nearObject ∈ nearObjectsToAdd, nearObject ∉ nearObjects) :
    (removeNearObjects (addNearObjects spatialProperties nearObjects nearObjectsToAdd).1
      nearObjectsToAdd).1 = nearObjects := by
  have kept : nearObjects.filter (· ∉ nearObjectsToAdd) = nearObjects := by
    rw [List.filter_eq_self]
    intro nearObject member
    exact decide_eq_true fun given => fresh nearObject given member
  have dropped : (addNearObjects spatialProperties nearObjects nearObjectsToAdd).2.filter
      (· ∉ nearObjectsToAdd) = [] := by
    rw [List.filter_eq_nil_iff]
    intro nearObject added
    simpa using (mem_added.mp added).1
  rw [removeNearObjects_fst, addNearObjects_fst, List.filter_append, kept, dropped,
    List.append_nil]

/-- What is removed is what was added, repetitions included. -/
theorem remove_added_snd (fresh : ∀ nearObject ∈ nearObjectsToAdd, nearObject ∉ nearObjects) :
    (removeNearObjects (addNearObjects spatialProperties nearObjects nearObjectsToAdd).1
      nearObjectsToAdd).2 =
        (addNearObjects spatialProperties nearObjects nearObjectsToAdd).2 := by
  have none : nearObjects.filter (· ∈ nearObjectsToAdd) = [] := by
    rw [List.filter_eq_nil_iff]
    intro nearObject member given
    exact fresh nearObject (of_decide_eq_true given) member
  have all : (addNearObjects spatialProperties nearObjects nearObjectsToAdd).2.filter
      (· ∈ nearObjectsToAdd) =
        (addNearObjects spatialProperties nearObjects nearObjectsToAdd).2 := by
    rw [List.filter_eq_self]
    intro nearObject added
    exact decide_eq_true (mem_added.mp added).1
  rw [removeNearObjects_snd, addNearObjects_fst, List.filter_append, none, all, List.nil_append]

end Slots

/-! ### The calls of a session -/

section Calls

variable {Thread Pointer Value : Type} [DecidableEq Thread] [DecidableEq Pointer] [BEq Value]
  {spatialProperties : Pointer → NearObjectSpatialProperties Value}
  {s t u v : State Thread Pointer} {caller : Caller Thread} {event : Event Pointer}
  {during : List (Label Thread Pointer)} {move : TaskQueue.Label Thread (Event Pointer)}

/-- A caller in this place is not about to add or remove near objects. -/
def Activity.keepsMembership : Activity Pointer → Bool
  | .called (.addNearObjects _) | .called (.removeNearObjects _) => false
  | _ => true

/-- The step does not begin to add or remove near objects. -/
def KeepsMembership (s : State Thread Pointer) : Label Thread Pointer → Prop
  | .enter caller => (s.activity caller).keepsMembership = true
  | _ => True

theorem nearObjects_step {label : Label Thread Pointer} (keeps : KeepsMembership s label)
    (taken : Step spatialProperties s label t) : t.nearObjects = s.nearObjects := by
  by_cases enters : ∃ caller, label = .enter caller
  · obtain ⟨caller, rfl⟩ := enters
    obtain ⟨operation, called, entered⟩ := step_enter.mp taken
    have keeps : (s.activity caller).keepsMembership = true := keeps
    rw [called] at keeps
    cases operation with
    | addNearObjects => cases keeps
    | removeNearObjects => cases keeps
    | _ =>
      have reaches := reaches_of_enter entered
      cases entered_of_enter entered with
      | membership added removed free =>
        -- no other operation posts such an event
        rw [setActivity_self] at reaches
        rcases reaches_posting reaches rfl with ⟨-, ⟨_, same⟩ | ⟨_, same⟩⟩ | ⟨gate, -⟩
        · cases same
        · cases same
        · cases gate
      | ranging => rfl
      | moves => rfl
  · exact data_step taken (fun caller same => enters ⟨caller, same⟩) .nearObjects

theorem nearObjects_run {trace : List (Label Thread Pointer)}
    (run : Run (Restrict (Step spatialProperties) KeepsMembership) s trace t) :
    t.nearObjects = s.nearObjects := by
  refine run.invariant (fun t => t.nearObjects = s.nearObjects) rfl ?_
  rintro middle label last same ⟨keeps, taken⟩
  exact (nearObjects_step keeps taken).trans same

/-- What a call has done by the end of its `post`, if it changes the membership: the change that it
made as it took its gate, and nobody else another one. -/
theorem Call.membership {operation : Operation Pointer} {nearObjects added removed : List Pointer}
    (call : Call spatialProperties caller operation event s t u v during move)
    (consistent : Consistent s)
    (enters : ∀ t, s.enter spatialProperties caller operation = some t →
      t.nearObjects = nearObjects ∧
        t.activity caller = .posting (.sessionMembershipChanged added removed) .changeMembership) :
    v.nearObjects = nearObjects ∧ event = .sessionMembershipChanged added removed := by
  obtain ⟨body, posting⟩ := call.posting
  obtain ⟨_, called, entered⟩ := step_enter.mp call.enters
  obtain rfl := Activity.called.inj (call.called.symm.trans called)
  obtain ⟨changed, reporting⟩ := enters t entered
  obtain ⟨rfl, -⟩ := Activity.posting.inj (posting.symm.trans reporting)
  have guarded : v.data .nearObjects = t.data .nearObjects := call.guarded consistent rfl
  exact ⟨guarded.trans changed, rfl⟩

/-- **A call that adds near objects**, up to the end of its `post`. -/
theorem call_addNearObjects {nearObjectsToAdd : List Pointer}
    (call : Call spatialProperties caller (.addNearObjects nearObjectsToAdd) event s t u v during
      move) (consistent : Consistent s) :
    v.nearObjects = (addNearObjects spatialProperties s.nearObjects nearObjectsToAdd).1 ∧
      event = .sessionMembershipChanged
        (addNearObjects spatialProperties s.nearObjects nearObjectsToAdd).2 [] := by
  apply call.membership consistent
  intro t entered
  obtain ⟨locked, lock, rfl⟩ := Option.map_eq_some_iff.mp entered
  obtain ⟨-, rfl⟩ := lock_eq_some.mp lock
  exact ⟨rfl, setActivity_self ..⟩

/-- **A call that removes near objects**, up to the end of its `post`. -/
theorem call_removeNearObjects {nearObjectsToRemove : List Pointer}
    (call : Call spatialProperties caller (.removeNearObjects nearObjectsToRemove) event s t u v
      during move) (consistent : Consistent s) :
    v.nearObjects = (removeNearObjects s.nearObjects nearObjectsToRemove).1 ∧
      event = .sessionMembershipChanged []
        (removeNearObjects s.nearObjects nearObjectsToRemove).2 := by
  apply call.membership consistent
  intro t entered
  obtain ⟨locked, lock, rfl⟩ := Option.map_eq_some_iff.mp entered
  obtain ⟨-, rfl⟩ := lock_eq_some.mp lock
  exact ⟨rfl, setActivity_self ..⟩

variable {capabilities : NearObjectCapabilities} {initial : List Pointer}
  {early : List (Label Thread Pointer)}

/-- **Removing a batch undoes adding it, and every removal splits the membership.** In any session,
a batch that has no member in it is added, others may call meanwhile but do not change the
membership, and the batch is removed. -/
theorem batch_undone
    (before : Run (Step spatialProperties) (init Thread capabilities initial) early s) :
    (∀ {caller other : Caller Thread} {batch : List Pointer} {added removed : Event Pointer}
        {t u v s' t' u' v' : State Thread Pointer}
        {during waiting during' : List (Label Thread Pointer)}
        {move move' : TaskQueue.Label Thread (Event Pointer)},
      Call spatialProperties caller (.addNearObjects batch) added s t u v during move →
      Run (Restrict (Step spatialProperties) KeepsMembership) v waiting s' →
      Call spatialProperties other (.removeNearObjects batch) removed s' t' u' v' during' move' →
      (∀ nearObject ∈ batch, nearObject ∉ s.nearObjects) →
      v'.nearObjects = s.nearObjects ∧
        ∃ nearObjects, added = .sessionMembershipChanged nearObjects [] ∧
          removed = .sessionMembershipChanged [] nearObjects) ∧
    ∀ {caller : Caller Thread} {nearObjectsToRemove : List Pointer} {event : Event Pointer}
        {t u v : State Thread Pointer} {during : List (Label Thread Pointer)}
        {move : TaskQueue.Label Thread (Event Pointer)},
      Call spatialProperties caller (.removeNearObjects nearObjectsToRemove) event s t u v during
        move →
      ∃ removed, event = .sessionMembershipChanged [] removed ∧
        Splits s.nearObjects nearObjectsToRemove v.nearObjects removed := by
  have consistent := consistent_run before
  constructor
  · intro caller other batch added removed t u v s' t' u' v' during waiting during' move move' adds
      between removes fresh
    have run : Run (Step spatialProperties) s
        (.enter caller :: (during ++ .queue move :: waiting)) s' :=
      .cons adds.enters (adds.run.append (.cons adds.taken between.unrestrict))
    obtain ⟨grown, rfl⟩ := call_addNearObjects adds consistent
    obtain ⟨shrunk, rfl⟩ := call_removeNearObjects removes (consistent_run (before.append run))
    rw [nearObjects_run between, grown] at shrunk ⊢
    rw [remove_added_fst fresh] at shrunk
    rw [remove_added_snd fresh]
    exact ⟨shrunk, _, rfl, rfl⟩
  · intro caller nearObjectsToRemove event t u v during move removes
    obtain ⟨shrunk, rfl⟩ := call_removeNearObjects removes consistent
    rw [shrunk]
    exact ⟨_, rfl, splits_remove s.nearObjects nearObjectsToRemove⟩

/-- A client adds an object that is given twice, and another one, and then a second client removes
the same. -/
def batchTrace : List (Label Nat Nat) :=
  [.queue .construct, .call (.client 0) (.addNearObjects [2, 3, 2]), .enter (.client 0),
    .queue (.post (.client 0) (.sessionMembershipChanged [2, 3, 2] [])), .queue .evaluate,
    .queue (.notify (.client 0)), .leave (.client 0), .return (.client 0) .unit,
    .call (.client 1) (.removeNearObjects [2, 3, 2]), .enter (.client 1),
    .queue (.post (.client 1) (.sessionMembershipChanged [] [2, 3, 2]))]

/-- The state after some steps of it. -/
def batched (steps : Nat) : State Nat Nat :=
  (execute (step unset) (init Nat ⟨true⟩ [])
    (batchTrace.take steps)).getD (init Nat ⟨true⟩ [])

theorem batch_undone_two_clients :
    (batched 4).nearObjects = [2, 3, 2] ∧ (batched 11).nearObjects = [] ∧
      Splits [2, 3, 2] [2, 3, 2] [] [2, 3, 2] := by
  have before : Run (Step unset) (init Nat ⟨true⟩ [])
    (batchTrace.take 2) (batched 2) := run_of_execute rfl
  have adds : Call unset (.client 0)
      (.addNearObjects [2, 3, 2]) (.sessionMembershipChanged [2, 3, 2] []) (batched 2) (batched 3)
      (batched 3) (batched 4) [] (.post (.client 0) (.sessionMembershipChanged [2, 3, 2] [])) :=
    ⟨rfl, rfl, .nil, List.forall_mem_nil _, .inl rfl, rfl⟩
  have between : Run (Restrict (Step unset)
      KeepsMembership) (batched 4) ((batchTrace.drop 4).take 5) (batched 9) :=
    .cons ⟨trivial, rfl⟩ (.cons ⟨trivial, rfl⟩ (.cons ⟨trivial, rfl⟩ (.cons ⟨trivial, rfl⟩
      (.single ⟨trivial, rfl⟩))))
  have removes : Call unset (.client 1)
      (.removeNearObjects [2, 3, 2]) (.sessionMembershipChanged [] [2, 3, 2]) (batched 9)
      (batched 10) (batched 10) (batched 11) []
      (.post (.client 1) (.sessionMembershipChanged [] [2, 3, 2])) :=
    ⟨rfl, rfl, .nil, List.forall_mem_nil _, .inl rfl, rfl⟩
  have later : Run (Step unset) (init Nat ⟨true⟩ [])
    (batchTrace.take 9) (batched 9) := run_of_execute rfl
  obtain ⟨restored, -⟩ := (batch_undone before).1 adds between removes
    fun _ _ => List.not_mem_nil
  obtain ⟨removed, same, splits⟩ := (batch_undone later).2 removes
  obtain ⟨-, rfl⟩ := Event.sessionMembershipChanged.inj same
  exact ⟨rfl, restored, splits⟩

end Calls

end NearObject.Session
