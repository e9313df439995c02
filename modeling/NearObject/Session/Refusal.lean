/-
**`NearObjectSession` — a call whose event is refused.**

An operation changes what its gate guards and then posts the event that reports this. The `post`
throws once the queue is stopping, which is so for a callback that the destructor waits for, and no
operation takes its change back.

* `held_step`, `held_run` — what a gate guards stays as it is while another caller holds the gate.
* `atomic_iff` — a call whose `post` throws leaves the session as it was exactly where the call has
  nothing to change.
-/

import NearObject.Session.Agreement

namespace NearObject.Session

open Transition
open TaskQueue (Caller)

section

variable {Thread Pointer Value : Type} [DecidableEq Thread] [DecidableEq Pointer] [BEq Value]
  {spatialProperties : Pointer → NearObjectSpatialProperties Value}
  {s t u v : State Thread Pointer} {gate : Gate} {caller : Caller Thread}

/-! ### While a gate is held -/

/-- Only entering an operation changes the ranging state, as it does the membership. -/
theorem data_step {label : Label Thread Pointer} (taken : Step spatialProperties s label t)
    (other : ∀ caller, label ≠ .enter caller) (gate : Gate) : t.data gate = s.data gate := by
  refine data_frame ((frame_step taken).nearObjects other) ?_
  cases label with
  | call caller operation =>
    obtain ⟨-, rfl⟩ := step_call.mp taken
    rfl
  | enter caller => exact absurd rfl (other caller)
  | leave caller =>
    obtain ⟨body, -, -, rfl⟩ := step_leave.mp taken
    exact release_rangingSession body
  | «return» caller result =>
    obtain ⟨-, rfl⟩ := step_return.mp taken
    rfl
  | queue move =>
    obtain ⟨followed, queue, follows, -, rfl⟩ := step_queue.mp taken
    cases move with
    | post caller event =>
      obtain ⟨body, -, rfl⟩ := follow_post.mp follows
      rfl
    | refuse caller event =>
      obtain ⟨body, -, rfl⟩ := follow_refuse.mp follows
      exact release_rangingSession body
    | join caller =>
      obtain ⟨-, rfl⟩ := follow_join.mp follows
      rfl
    | _ =>
      obtain rfl := follow_same follows (by simp) (by simp) (by simp)
      rfl
  | deliver event =>
    obtain ⟨-, queue, -, rfl⟩ := step_deliver.mp taken
    rfl
  | drop event =>
    obtain ⟨-, queue, -, rfl⟩ := step_drop.mp taken
    rfl
  | expire =>
    obtain rfl := step_expire.mp taken
    rfl

/-- **An operation that finds a gate held does not change what the gate guards.** -/
theorem data_enter {operation : Operation Pointer}
    (entered : s.enter spatialProperties caller operation = some t)
    (held : s.owner gate ≠ none) : t.data gate = s.data gate := by
  cases entered_of_enter entered with
  | membership added removed free =>
    cases gate with
    | nearObjects => exact absurd free held
    | rangingState => rfl
  | ranging event body active free own posts ranges =>
    cases gate with
    | nearObjects => rfl
    | rangingState => exact absurd free held
  | moves activity none own => exact data_frame rfl rfl

theorem held_step {label : Label Thread Pointer} (consistent : Consistent s)
    (taken : Step spatialProperties s label t) (elsewhere : label.caller? ≠ some caller)
    (held : (s.activity caller).gate? = some gate) : t.data gate = s.data gate := by
  by_cases enters : ∃ other, label = .enter other
  · obtain ⟨other, rfl⟩ := enters
    obtain ⟨operation, -, entered⟩ := step_enter.mp taken
    refine data_enter entered ?_
    rw [(consistent.held gate caller).mpr held]
    exact Option.some_ne_none caller
  · exact data_step taken (fun other same => enters ⟨other, same⟩) gate

/-- The others leave a caller where it is. -/
theorem activity_run {trace : List (Label Thread Pointer)}
    (run : Run (Step spatialProperties) s trace t)
    (others : ∀ label ∈ trace, label.caller? ≠ some caller) :
    t.activity caller = s.activity caller := by
  refine (run.restrict others).invariant (fun t => t.activity caller = s.activity caller) rfl ?_
  intro middle label last same taken
  exact (activity_frame taken.2 taken.1).trans same

/-- **While a caller holds a gate, the others leave what it guards alone.** -/
theorem held_run {trace : List (Label Thread Pointer)} (consistent : Consistent s)
    (run : Run (Step spatialProperties) s trace t)
    (others : ∀ label ∈ trace, label.caller? ≠ some caller)
    (held : (s.activity caller).gate? = some gate) : t.data gate = s.data gate := by
  refine ((run.restrict others).invariant (fun t => Consistent t ∧
    t.activity caller = s.activity caller ∧ t.data gate = s.data gate)
    ⟨consistent, rfl, rfl⟩ ?_).2.2
  rintro middle label last ⟨consistent, still, data⟩ ⟨elsewhere, taken⟩
  exact ⟨consistent_step taken consistent, (activity_frame taken elsewhere).trans still,
    (held_step consistent taken elsewhere (still ▸ held)).trans data⟩

/-! ### One call -/

section Condition

variable (spatialProperties : Pointer → NearObjectSpatialProperties Value)

/-- The call finds nothing to add, or nothing to remove. A call that reaches the `post` of an event
of ranging has changed the ranging state. -/
def ChangesNothing (s : State Thread Pointer) : Operation Pointer → Prop
  | .addNearObjects nearObjectsToAdd => ∀ nearObject ∈ nearObjectsToAdd,
    ∃ member ∈ s.nearObjects, sameObject spatialProperties nearObject member = true
  | .removeNearObjects nearObjectsToRemove =>
    ∀ nearObject ∈ nearObjectsToRemove, nearObject ∉ s.nearObjects
  | _ => False

/-- **A call up to the end of its `post`**: the caller takes its gate in the first state, and its
`post` takes the last step, by which it has pushed the event or thrown; the others take the steps
between. -/
structure Call (caller : Caller Thread) (operation : Operation Pointer) (event : Event Pointer)
    (s t u v : State Thread Pointer) (during : List (Label Thread Pointer))
    (move : TaskQueue.Label Thread (Event Pointer)) : Prop where
  called : s.activity caller = .called operation
  enters : Step spatialProperties s (.enter caller) t
  run : Run (Step spatialProperties) t during u
  others : ∀ label ∈ during, label.caller? ≠ some caller
  ends : move = .post caller event ∨ move = .refuse caller event
  taken : Step spatialProperties u (.queue move) v

end Condition

/-- The call has left the session as it was: what its gate guards, which nobody else has changed,
and by its own two steps the rest. -/
structure Unchanged (gate : Gate) (s t u v : State Thread Pointer) : Prop where
  guarded : v.data gate = s.data gate
  entering : ∀ other, other ≠ gate → t.data other = s.data other
  ending : ∀ other, other ≠ gate → v.data other = u.data other

variable {operation : Operation Pointer} {event : Event Pointer}
  {during : List (Label Thread Pointer)} {move : TaskQueue.Label Thread (Event Pointer)}

omit [DecidableEq Thread] [DecidableEq Pointer] in
/-- The operations that go on to post an event under a gate. -/
theorem reaches_posting {body : Body} (reaches : Reaches operation (.posting event body))
    (own : event.gate = some gate) :
    (gate = .nearObjects ∧ ((∃ nearObjects, operation = .addNearObjects nearObjects) ∨
        ∃ nearObjects, operation = .removeNearObjects nearObjects)) ∨
      (gate = .rangingState ∧ (operation = .startRanging ∨ ∃ site, operation =
        StopRangingSite.operation site)) := by
  generalize shape : Activity.posting event body = activity at reaches
  cases reaches with
  | added nearObjectsToAdd added =>
    obtain ⟨rfl, -⟩ := Activity.posting.inj shape
    exact .inl ⟨(Option.some.inj own).symm, .inl ⟨_, rfl⟩⟩
  | removed nearObjectsToRemove removed =>
    obtain ⟨rfl, -⟩ := Activity.posting.inj shape
    exact .inl ⟨(Option.some.inj own).symm, .inr ⟨_, rfl⟩⟩
  | changed nearObject =>
    obtain ⟨rfl, -⟩ := Activity.posting.inj shape
    cases own
  | started =>
    obtain ⟨rfl, -⟩ := Activity.posting.inj shape
    exact .inr ⟨(Option.some.inj own).symm, .inl rfl⟩
  | stopped site =>
    obtain ⟨rfl, -⟩ := Activity.posting.inj shape
    exact .inr ⟨(Option.some.inj own).symm, .inr ⟨site, rfl⟩⟩
  | inactive site =>
    -- after an inactive `StopRanging`, the event is the end of the session
    cases site with
    | stopRanging => cases shape
    | _ =>
      obtain ⟨rfl, -⟩ := Activity.posting.inj shape
      cases own
  | got nearObjects => cases shape
  | notStarted status other => cases shape
  | active active => cases shape

/-- An operation that goes on to post an event under a gate has left the rest alone, and has changed
the ranging state if it is that. -/
theorem entered_posting {body : Body} (entered : Entered s caller t)
    (posting : t.activity caller = .posting event body) (own : event.gate = some gate) :
    (∀ other, other ≠ gate → t.data other = s.data other) ∧
      (gate = .rangingState → t.data gate ≠ s.data gate) := by
  cases entered with
  | membership added removed free =>
    rw [setActivity_self] at posting
    obtain ⟨rfl, -⟩ := Activity.posting.inj posting
    obtain rfl := Option.some.inj own
    refine ⟨fun other different => ?_, fun same => (by cases same)⟩
    cases other with
    | nearObjects => exact absurd rfl different
    | rangingState => rfl
  | ranging ranged body active free place posts ranges =>
    rw [setActivity_self] at posting
    obtain ⟨rfl, -⟩ := Activity.posting.inj posting
    obtain rfl : Gate.rangingState = gate :=
      Option.some.inj ((posts.gate.trans place).symm.trans own)
    refine ⟨fun other different => ?_, fun _ same => ?_⟩
    · cases other with
      | nearObjects => rfl
      | rangingState => exact absurd rfl different
    · have active : active = s.rangingSession := same
      generalize s.rangingSession = ranging at ranges active
      cases ranges <;> cases active
  | moves activity none posts =>
    rw [setActivity_self] at posting
    obtain rfl := posting
    have gate : body.gate = Option.none := none
    rw [← Body.Posts.gate posts, own] at gate
    cases gate

/-- **What a call that goes on to post an event under a gate has done**: it has left the rest alone,
and has changed what the gate guards unless there was nothing to change. -/
theorem entered_unchanged_iff {body : Body}
    (entered : s.enter spatialProperties caller operation = some t)
    (posting : t.activity caller = .posting event body) (own : event.gate = some gate) :
    (∀ other, other ≠ gate → t.data other = s.data other) ∧
      (t.data gate = s.data gate ↔ ChangesNothing spatialProperties s operation) := by
  obtain ⟨others, changes⟩ := entered_posting (entered_of_enter entered) posting own
  refine ⟨others, ?_⟩
  rcases reaches_posting (posting ▸ reaches_of_enter entered) own with
    ⟨rfl, ⟨nearObjects, rfl⟩ | ⟨nearObjects, rfl⟩⟩ | ⟨rfl, rfl | ⟨site, rfl⟩⟩
  · show t.nearObjects = s.nearObjects ↔ _
    rw [enter_addNearObjects entered]
    exact added_unchanged_iff
  · show t.nearObjects = s.nearObjects ↔ _
    rw [enter_removeNearObjects entered]
    exact removed_unchanged_iff
  · exact iff_of_false (changes rfl) id
  · cases site <;> exact iff_of_false (changes rfl) id

/-- The event is the one that the caller is about to post when it has taken its gate; nobody else
has moved it since. -/
theorem Call.posting
    (call : Call spatialProperties caller operation event s t u v during move) :
    ∃ body, t.activity caller = .posting event body := by
  have still := activity_run call.run call.others
  obtain ⟨followed, queue, follows, -, -⟩ := step_queue.mp call.taken
  rcases call.ends with rfl | rfl
  · obtain ⟨body, posting, -⟩ := follow_post.mp follows
    exact ⟨body, still.symm.trans posting⟩
  · obtain ⟨body, posting, -⟩ := follow_refuse.mp follows
    exact ⟨body, still.symm.trans posting⟩

/-- **What its gate guards stays as it is, from taking the gate to the end of the `post`.** -/
theorem Call.guarded (call : Call spatialProperties caller operation event s t u v during move)
    (consistent : Consistent s) (own : event.gate = some gate) : v.data gate = t.data gate := by
  have entered := consistent_step call.enters consistent
  obtain ⟨body, posting⟩ := call.posting
  have posts : body.Posts event := by
    have own := entered.own caller
    rwa [posting] at own
  have held : (t.activity caller).gate? = some gate := by
    rw [posting]
    exact posts.gate.symm.trans own
  have kept := data_step call.taken (fun _ same => by cases same) gate
  exact kept.trans (held_run entered call.run call.others held)

/-- **A call whose `post` throws has left the session as it was exactly where the queue takes the
event, and it does not throw, or the call has nothing to change.** -/
theorem atomic_iff {capabilities : NearObjectCapabilities} {initial : List Pointer}
    {early : List (Label Thread Pointer)}
    (before : Run (Step spatialProperties) (init Thread capabilities initial) early s)
    (call : Call spatialProperties caller operation event s t u v during move)
    (own : event.gate = some gate) :
    (move = .refuse caller event → Unchanged gate s t u v) ↔
      u.queue.members.isStopPending = false ∨ ChangesNothing spatialProperties s operation := by
  have guarded := call.guarded (consistent_run before) own
  obtain ⟨body, posting⟩ := call.posting
  obtain ⟨called, enters, run, others, ends, taken⟩ := call
  obtain ⟨_, same, entered⟩ := step_enter.mp enters
  obtain rfl := Activity.called.inj (called.symm.trans same)
  obtain ⟨rest, changes⟩ := entered_unchanged_iff entered posting own
  have unchanged_iff : Unchanged gate s t u v ↔ ChangesNothing spatialProperties s operation := by
    rw [← changes]
    have kept := data_step taken (fun _ same => by cases same)
    exact ⟨fun unchanged => guarded.symm.trans unchanged.guarded,
      fun same => ⟨guarded.trans same, rest, fun other _ => kept other⟩⟩
  obtain ⟨followed, queue, -, moved, -⟩ := step_queue.mp taken
  rcases ends with rfl | rfl
  · obtain ⟨-, running, -⟩ := TaskQueue.step_post.mp moved
    exact iff_of_true (fun same => by cases same) (.inl running)
  · obtain ⟨-, stopping, -⟩ := TaskQueue.step_refuse.mp moved
    rw [stopping]
    simpa using unchanged_iff

/-- While the session is being destroyed, a callback calls it; these are the steps before it takes
the gate. -/
def stoppingTrace (operation : Operation Nat) : List (Label Nat Nat) :=
  [.queue .construct, .call (.client 1) (.nearObjectPropertiesChanged 2), .enter (.client 1),
    .queue (.post (.client 1) (.nearObjectPropertiesChanged [2])), .queue (.notify (.client 1)),
    .leave (.client 1), .return (.client 1) .unit, .call (.client 0) .destructor,
    .enter (.client 0), .queue (.post (.client 0) .sessionEnded), .leave (.client 0),
    .queue .evaluate, .queue .announce, .deliver (.nearObjectPropertiesChanged [2]),
    .queue (.stop (.client 0) .run .destructor), .queue (.notify (.client 0)),
    .call .worker operation]

/-- The state that they lead to. -/
def stopping (operation : Operation Nat) : State Nat Nat :=
  (execute (step unset) (init Nat ⟨true⟩ [1])
    (stoppingTrace operation)).getD (init Nat ⟨true⟩ [1])

/-- Its call adds an object that is a member. -/
theorem atomic_nothing_added :
    ∃ t v, Call unset .worker (.addNearObjects [1])
        (.sessionMembershipChanged [] []) (stopping (.addNearObjects [1])) t t v []
        (.refuse .worker (.sessionMembershipChanged [] [])) ∧
      Unchanged .nearObjects (stopping (.addNearObjects [1])) t t v := by
  have before : Run (Step unset) (init Nat ⟨true⟩ [1])
    (stoppingTrace (.addNearObjects [1])) (stopping (.addNearObjects [1])) := run_of_execute rfl
  obtain ⟨t, v, call⟩ : ∃ t v,
      Call unset .worker (.addNearObjects [1])
        (.sessionMembershipChanged [] []) (stopping (.addNearObjects [1])) t t v []
        (.refuse .worker (.sessionMembershipChanged [] [])) :=
    ⟨_, _, rfl, rfl, .nil, List.forall_mem_nil _, .inr rfl, rfl⟩
  have nothing : ChangesNothing unset
      (stopping (.addNearObjects [1])) (.addNearObjects [1]) := by
    show ∀ nearObject ∈ [1], _
    decide
  exact ⟨t, v, call, (atomic_iff before call rfl).mpr (.inr nothing) rfl⟩

/-- Its call starts ranging: `StartRanging` throws, the ranging session is active, and nobody is
told. -/
theorem started_unreported :
    Run (Step unset) (init Nat ⟨true⟩ [1])
        (stoppingTrace .startRanging) (stopping .startRanging) ∧
      (stopping .startRanging).rangingSession = false ∧
      ∃ t v, Call unset .worker .startRanging
        .rangingStarted (stopping .startRanging) t t v [] (.refuse .worker .rangingStarted) ∧
        v.rangingSession = true :=
  ⟨run_of_execute rfl, rfl, _, _, ⟨rfl, rfl, .nil, List.forall_mem_nil _, .inr rfl, rfl⟩, rfl⟩

end

end NearObject.Session
