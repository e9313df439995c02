/-
**`NearObjectSession` — when the membership has no repeated object.**

`AddNearObjects` prunes its arguments against the members, by comparing objects, and appends what is
left. An argument that is given twice, or that is a member without comparing equal to any, is left
twice. `nodup_addNearObjects_iff`: these are all the ways in which one call repeats a pointer; over
runs, the membership and the reports have no repeated pointer as long as no call is of this kind
(`distinct_of_run`). With the spatial properties that a near object is constructed with, the calls
of this kind are those that give a pointer twice to an empty membership (`prunesRepeated_of_unset`).
-/

import NearObject.Session.Gates

namespace NearObject.Session

open Transition
open TaskQueue (Caller)

/-! ### One call -/

section Call

variable {Pointer Value : Type} [DecidableEq Pointer] [BEq Value]
  (spatialProperties : Pointer → NearObjectSpatialProperties Value)
  {nearObjects nearObjectsToAdd : List Pointer}

/-- An argument that is a member, or is given twice, compares equal to a member. -/
def PrunesRepeated (nearObjects nearObjectsToAdd : List Pointer) : Prop :=
  ∀ nearObject ∈ nearObjectsToAdd,
    (nearObject ∉ nearObjects ∧ nearObjectsToAdd.count nearObject ≤ 1) ∨
      ∃ member ∈ nearObjects, sameObject spatialProperties nearObject member = true

instance (nearObjects nearObjectsToAdd : List Pointer) :
    Decidable (PrunesRepeated spatialProperties nearObjects nearObjectsToAdd) :=
  inferInstanceAs (Decidable (∀ nearObject ∈ nearObjectsToAdd, _ ∨ _))

variable {spatialProperties}

omit [DecidableEq Pointer] in
/-- The objects added are the arguments that compare equal to no member. -/
theorem mem_added {nearObject : Pointer} :
    nearObject ∈ (addNearObjects spatialProperties nearObjects nearObjectsToAdd).2 ↔
      nearObject ∈ nearObjectsToAdd ∧
        ¬ ∃ member ∈ nearObjects, sameObject spatialProperties nearObject member = true := by
  simp [addNearObjects]

theorem count_added {nearObject : Pointer}
    (added : nearObject ∈ (addNearObjects spatialProperties nearObjects nearObjectsToAdd).2) :
    (addNearObjects spatialProperties nearObjects nearObjectsToAdd).2.count nearObject =
      nearObjectsToAdd.count nearObject :=
  List.count_filter (List.mem_filter.mp added).2

/-- **What one call repeats.** -/
theorem nodup_addNearObjects_iff (nodup : nearObjects.Nodup) :
    (addNearObjects spatialProperties nearObjects nearObjectsToAdd).1.Nodup ↔
      PrunesRepeated spatialProperties nearObjects nearObjectsToAdd := by
  rw [addNearObjects_fst, List.nodup_append, List.nodup_iff_count (l := Prod.snd _)]
  constructor
  · rintro ⟨-, once, apart⟩ nearObject argument
    by_cases equal : ∃ member ∈ nearObjects, sameObject spatialProperties nearObject member = true
    · exact .inr equal
    · have added := mem_added.mpr ⟨argument, equal⟩
      refine .inl ⟨fun member => apart nearObject member nearObject added rfl, ?_⟩
      rw [← count_added added]
      exact once nearObject
  · intro prunes
    have new {nearObject : Pointer}
        (added : nearObject ∈ (addNearObjects spatialProperties nearObjects nearObjectsToAdd).2) :
        nearObject ∉ nearObjects ∧ nearObjectsToAdd.count nearObject ≤ 1 := by
      obtain ⟨argument, unequal⟩ := mem_added.mp added
      exact (prunes nearObject argument).resolve_right unequal
    refine ⟨nodup, fun nearObject => ?_, fun member inside nearObject added same => ?_⟩
    · by_cases added :
          nearObject ∈ (addNearObjects spatialProperties nearObjects nearObjectsToAdd).2
      · rw [count_added added]
        exact (new added).2
      · rw [List.count_eq_zero_of_not_mem added]
        exact Nat.zero_le 1
    · exact (new added).1 (same ▸ inside)

/-- While all objects compare equal, only a call on an empty membership repeats its arguments. -/
theorem prunesRepeated_of_unset (unset : ∀ lhs rhs, sameObject spatialProperties lhs rhs = true) :
    PrunesRepeated spatialProperties nearObjects nearObjectsToAdd ↔
      (nearObjects = [] → nearObjectsToAdd.Nodup) := by
  unfold PrunesRepeated
  simp only [unset, and_true]
  cases nearObjects with
  | nil =>
    simp only [List.not_mem_nil, not_false_eq_true, true_and, exists_false, or_false, forall_const,
      List.nodup_iff_count]
    refine ⟨fun once nearObject => ?_, fun once nearObject _ => once nearObject⟩
    by_cases argument : nearObject ∈ nearObjectsToAdd
    · exact once nearObject argument
    · rw [List.count_eq_zero_of_not_mem argument]
      exact Nat.zero_le 1
  | cons member rest =>
    exact iff_of_true (fun _ _ => .inr ⟨member, List.mem_cons_self ..⟩) nofun

end Call

/-! ### Runs -/

section

variable {Thread Pointer Value : Type} [DecidableEq Thread] [DecidableEq Pointer] [BEq Value]

section Condition

variable (spatialProperties : Pointer → NearObjectSpatialProperties Value)

/-- A caller that is about to take its gate to add near objects does not repeat any. -/
def Activity.Prunes (nearObjects : List Pointer) : Activity Pointer → Prop
  | .called (.addNearObjects nearObjectsToAdd) =>
    PrunesRepeated spatialProperties nearObjects nearObjectsToAdd
  | _ => True

instance (nearObjects : List Pointer) :
    ∀ activity : Activity Pointer, Decidable (activity.Prunes spatialProperties nearObjects)
  | .called (.addNearObjects nearObjectsToAdd) =>
    inferInstanceAs (Decidable (PrunesRepeated spatialProperties nearObjects nearObjectsToAdd))
  | .called (.removeNearObjects _) | .called .getNearObjects
  | .called (.nearObjectPropertiesChanged _) | .called .startRanging | .called .stopRanging
  | .called .isRangingActive | .called .endSession | .called .destructor | .idle | .posting ..
  | .posted _ | .returning _ | .destructing | .terminated => isTrue trivial

/-- No call of `AddNearObjects` repeats a near object. -/
def AddsDistinct (s : State Thread Pointer) : Label Thread Pointer → Prop
  | .enter caller => (s.activity caller).Prunes spatialProperties s.nearObjects
  | _ => True

instance (s : State Thread Pointer) :
    ∀ label : Label Thread Pointer, Decidable (AddsDistinct spatialProperties s label)
  | .enter caller =>
    inferInstanceAs (Decidable ((s.activity caller).Prunes spatialProperties s.nearObjects))
  | .call .. | .leave _ | .return .. | .queue _ | .deliver _ | .drop _ | .expire => isTrue trivial

end Condition

variable {spatialProperties : Pointer → NearObjectSpatialProperties Value}
  {s t : State Thread Pointer}

/-- The near objects that an event lists as added. -/
def Event.added : Event Pointer → List Pointer
  | .sessionMembershipChanged nearObjectsAdded _ => nearObjectsAdded
  | _ => []

omit [DecidableEq Thread] [DecidableEq Pointer] [BEq Value] in
theorem membership_of_reaches {operation : Operation Pointer} {added removed : List Pointer}
    {body : Body}
    (reaches : Reaches operation (.posting (.sessionMembershipChanged added removed) body)) :
    (∃ nearObjectsToAdd, operation = .addNearObjects nearObjectsToAdd) ∨ added = [] := by
  generalize shape : (Activity.posting (.sessionMembershipChanged added removed) body :
    Activity Pointer) = activity at reaches
  cases reaches with
  | added nearObjectsToAdd => exact .inl ⟨nearObjectsToAdd, rfl⟩
  | removed =>
    cases shape
    exact .inr rfl
  | inactive site => cases site <;> cases shape
  | _ => cases shape

/-- What an operation does to the membership as it takes its gate. -/
theorem nearObjects_enter {caller : Caller Thread} {operation : Operation Pointer}
    (entered : s.enter spatialProperties caller operation = some t) :
    (∃ nearObjectsToAdd, operation = .addNearObjects nearObjectsToAdd ∧
      t.nearObjects = (addNearObjects spatialProperties s.nearObjects nearObjectsToAdd).1 ∧
      t.activity caller = .posting (.sessionMembershipChanged
        (addNearObjects spatialProperties s.nearObjects nearObjectsToAdd).2 []) .changeMembership) ∨
    ((∀ nearObjectsToAdd, operation ≠ .addNearObjects nearObjectsToAdd) ∧
      t.nearObjects.Sublist s.nearObjects ∧
      ∀ event body, t.activity caller = .posting event body → event.added = []) := by
  by_cases adds : ∃ nearObjectsToAdd, operation = .addNearObjects nearObjectsToAdd
  · obtain ⟨nearObjectsToAdd, rfl⟩ := adds
    obtain ⟨locked, locks, rfl⟩ := Option.map_eq_some_iff.mp entered
    obtain ⟨-, rfl⟩ := lock_eq_some.mp locks
    exact .inl ⟨nearObjectsToAdd, rfl, rfl, setActivity_self ..⟩
  · have nothing {added removed : List Pointer} {body : Body}
        (posting : t.activity caller =
          .posting (.sessionMembershipChanged added removed) body) : added = [] := by
      have reaches := reaches_of_enter entered
      rw [posting] at reaches
      exact (membership_of_reaches reaches).resolve_left adds
    refine .inr ⟨fun nearObjectsToAdd same => adds ⟨nearObjectsToAdd, same⟩, ?_,
      fun event body posting => ?_⟩
    · cases entered_of_enter entered with
      | membership added removed free =>
        have none : added = [] := nothing (setActivity_self ..)
        show (applyMembershipChange s.nearObjects added removed).Sublist s.nearObjects
        rw [none, applyMembershipChange, List.append_nil]
        exact List.filter_sublist
      | ranging => exact List.Sublist.refl _
      | moves => exact List.Sublist.refl _
    · cases event with
      | sessionMembershipChanged added removed => exact nothing posting
      | _ => rfl

/-- The membership, the reports ahead and the reports posted repeat no pointer. -/
structure Distinct (trace : List (Label Thread Pointer)) (s : State Thread Pointer) : Prop where
  members : s.nearObjects.Nodup
  ahead : ∀ caller event body, s.activity caller = .posting event body → event.added.Nodup
  reported : ∀ event ∈ posted trace, event.added.Nodup

/-- **The membership after a step**: exactly the calls that repeat a near object repeat a member. -/
theorem nodup_step_iff {label : Label Thread Pointer} (taken : Step spatialProperties s label t)
    (nodup : s.nearObjects.Nodup) :
    t.nearObjects.Nodup ↔ AddsDistinct spatialProperties s label := by
  by_cases enters : ∃ caller, label = .enter caller
  · obtain ⟨caller, rfl⟩ := enters
    obtain ⟨operation, called, entered⟩ := step_enter.mp taken
    have condition : AddsDistinct spatialProperties s (.enter caller) ↔
        (Activity.called operation).Prunes spatialProperties s.nearObjects := by
      rw [AddsDistinct, called]
    rw [condition]
    rcases nearObjects_enter entered with ⟨nearObjectsToAdd, rfl, same, -⟩ | ⟨other, fewer, -⟩
    · rw [same]
      exact nodup_addNearObjects_iff nodup
    · refine iff_of_true (fewer.nodup nodup) ?_
      cases operation with
      | addNearObjects nearObjectsToAdd => exact absurd rfl (other nearObjectsToAdd)
      | _ => trivial
  · rw [(frame_step taken).nearObjects fun caller same => enters ⟨caller, same⟩]
    refine iff_of_true nodup ?_
    cases label with
    | enter caller => exact absurd ⟨caller, rfl⟩ enters
    | _ => trivial

/-- A caller that comes to post, posts a report without a repeated pointer. -/
theorem ahead_step {label : Label Thread Pointer} (taken : Step spatialProperties s label t)
    (kept : t.nearObjects.Nodup)
    (ahead : ∀ caller event body, s.activity caller = .posting event body → event.added.Nodup) :
    ∀ caller event body, t.activity caller = .posting event body → event.added.Nodup := by
  intro caller event body posting
  by_cases own : label.caller? = some caller
  · have moves := moves_of_step taken own
    generalize s.activity caller = before at moves
    rw [posting] at moves
    generalize shape : (Activity.posting event body : Activity Pointer) = activity at moves
    cases moves with
    | enter reaches =>
      obtain ⟨operation, -, entered⟩ := step_enter.mp taken
      rcases nearObjects_enter entered with ⟨nearObjectsToAdd, -, same, report⟩ | ⟨-, -, nothing⟩
      · rw [report] at posting
        obtain ⟨rfl, -⟩ := Activity.posting.inj posting
        rw [same, addNearObjects_fst] at kept
        exact (List.nodup_append.mp kept).2.1
      · rw [nothing event body posting]
        exact List.nodup_nil
    | refuse other body =>
      exact absurd shape (not_thrown (fun same => by cases same) (fun same => by cases same) body)
    | leave body =>
      -- after `StopRanging` the event is `OnSessionEnded`
      cases body with
      | stopRanging site =>
        cases site <;> cases shape <;> exact List.nodup_nil
      | endSession destructor => cases destructor <;> cases shape
      | _ => cases shape
    | _ => cases shape
  · rw [activity_frame taken own] at posting
    exact ahead caller event body posting

theorem distinct_step {label : Label Thread Pointer} {trace : List (Label Thread Pointer)}
    (taken : Step spatialProperties s label t) (adds : AddsDistinct spatialProperties s label)
    (distinct : Distinct trace s) : Distinct (trace ++ [label]) t := by
  have kept : t.nearObjects.Nodup := (nodup_step_iff taken distinct.members).mpr adds
  refine ⟨kept, ahead_step taken kept distinct.ahead, fun event member => ?_⟩
  rw [posted_append, List.mem_append] at member
  rcases member with earlier | last
  · exact distinct.reported event earlier
  · cases label with
    | queue move =>
      cases move with
      | post caller other =>
        obtain rfl := List.mem_singleton.mp last
        obtain ⟨body, posting, -⟩ := post_cases taken
        exact distinct.ahead caller event body posting
      | _ => cases last
    | _ => cases last

/-- **Where no call repeats a near object, nothing does**: neither the membership nor a report, at
any time. The next step keeps it so exactly if it is no such call. -/
theorem distinct_of_run {capabilities : NearObjectCapabilities} {initial : List Pointer}
    {trace : List (Label Thread Pointer)}
    (run : Run (Restrict (Step spatialProperties) (AddsDistinct spatialProperties))
      (init Thread capabilities initial) trace s) (nodup : initial.Nodup) :
    s.nearObjects.Nodup ∧ (∀ event ∈ posted trace, event.added.Nodup) ∧
      ∀ label t, Step spatialProperties s label t →
        (t.nearObjects.Nodup ↔ AddsDistinct spatialProperties s label) := by
  have distinct : Distinct trace s := by
    refine run.history Distinct ⟨nodup, fun _ _ _ posting => (by cases posting),
      fun _ member => (by cases member)⟩ ?_
    rintro sofar s label t - distinct ⟨adds, taken⟩
    exact distinct_step taken adds distinct
  exact ⟨distinct.members, distinct.reported, fun label t taken =>
    nodup_step_iff taken distinct.members⟩

/-- Objects are added to an empty session, then one of them twice again, and another is removed. -/
def distinctTrace : List (Label Nat Nat) :=
  [.queue .construct, .call (.client 0) (.addNearObjects [1, 2]),
    .call (.client 1) (.removeNearObjects [1, 1]), .enter (.client 0),
    .queue (.post (.client 0) (.sessionMembershipChanged [1, 2] [])), .queue (.notify (.client 0)),
    .leave (.client 0), .return (.client 0) .unit, .enter (.client 1),
    .queue (.post (.client 1) (.sessionMembershipChanged [] [1])), .leave (.client 1),
    .call (.client 0) (.addNearObjects [2, 2]), .enter (.client 0)]

theorem distinct_of_run_equal :
    ∃ s, Run (Restrict (Step unset) (AddsDistinct unset)) (init Nat ⟨true⟩ []) distinctTrace s ∧
      s.nearObjects = [2] ∧ s.nearObjects.Nodup ∧
      ∀ event ∈ posted distinctTrace, event.added.Nodup := by
  have run : Run (Restrict (Step unset) (AddsDistinct unset)) (init Nat ⟨true⟩ []) distinctTrace
    _ := run_of_execute_guarded rfl
  have distinct := distinct_of_run run (by decide)
  exact ⟨_, run, rfl, distinct.1, distinct.2.1⟩

/-- A new object is given twice in one call. -/
def addedTwiceTrace : List (Label Nat Nat) :=
  [.queue .construct, .call (.client 0) (.addNearObjects [2, 2]), .enter (.client 0),
    .queue (.post (.client 0) (.sessionMembershipChanged [2, 2] [])), .queue (.notify (.client 0)),
    .leave (.client 0), .return (.client 0) .unit]

theorem added_twice :
    ∃ s, Run (Step unset) (init Nat ⟨true⟩ []) addedTwiceTrace s ∧
      s.nearObjects = [2, 2] ∧ ¬ s.nearObjects.Nodup ∧
      .sessionMembershipChanged [2, 2] [] ∈ posted addedTwiceTrace ∧ ¬ [2, 2].Nodup :=
  ⟨_, run_of_execute rfl, rfl, by decide, List.mem_singleton_self _, by decide⟩

end

end NearObject.Session
