/-
**`NearObjectSession` — what the destructor delivers.**

`destruction_delivers` is about a session that one thread calls, and whose callback object does not
call it back: no event is refused, and when the destructor returns the callback object, if it is
still alive, has received all of them, those of the destructor last. Every event has been handled
before a member is destroyed that its task reads (`Lifetime`).
-/

import NearObject.Session.Lifetime

namespace NearObject.Session

open Transition
open TaskQueue (Caller)

section

variable {Thread Pointer Value : Type} [DecidableEq Thread] [DecidableEq Pointer] [BEq Value]
  {spatialProperties : Pointer → NearObjectSpatialProperties Value} {s t : State Thread Pointer}

/-! ### One thread -/

/-- Only the owner calls the session, and its callbacks do not. -/
def OneThread (owner : Thread) : Label Thread Pointer → Prop
  | .call caller _ => caller = .client owner
  | _ => True

omit [DecidableEq Pointer] in
instance (owner : Thread) : ∀ label : Label Thread Pointer, Decidable (OneThread owner label)
  | .call caller _ => inferInstanceAs (Decidable (caller = .client owner))
  | .enter _ | .leave _ | .return .. | .queue _ | .deliver _ | .drop _ | .expire => isTrue trivial

/-- The steps of a session with one thread. -/
abbrev OneThreadStep (spatialProperties : Pointer → NearObjectSpatialProperties Value)
    (owner : Thread) :
    State Thread Pointer → Label Thread Pointer → State Thread Pointer → Prop :=
  Restrict (Step spatialProperties) fun _ label => OneThread owner label

variable {owner : Thread}

/-- Nobody else is in a call. -/
theorem others_idle
    (run : Run (OneThreadStep spatialProperties owner) (init Thread capabilities initial) trace s)
    {caller : Caller Thread} (other : caller ≠ .client owner) : s.activity caller = .idle := by
  refine run.invariant (fun s => s.activity caller = .idle) rfl ?_
  rintro s label t idle ⟨one, taken⟩
  by_cases own : label.caller? = some caller
  · have moves := moves_of_step taken own
    rw [idle] at moves
    generalize t.activity caller = after at moves
    cases moves with
    | call operation => exact absurd one other
  · exact (activity_frame taken own).trans idle

/-- The owner is in at most one place: no `post` comes after the stop of the queue. -/
theorem not_refused {caller : Caller Thread} {event : Event Pointer}
    (run : Run (OneThreadStep spatialProperties owner) (init Thread capabilities initial) trace s) :
    ¬ Step spatialProperties s (.queue (.refuse caller event)) t := by
  intro taken
  obtain ⟨followed, queue, follows, moved, -⟩ := step_queue.mp taken
  obtain ⟨body, posting, -⟩ := follow_refuse.mp follows
  obtain ⟨⟨-, present, -⟩, pending, -⟩ := TaskQueue.step_refuse.mp moved
  have only {other : Caller Thread} (busy : s.activity other ≠ .idle) : other = .client owner :=
    by_contra fun different => busy (others_idle run different)
  rcases (closing_run run.unrestrict).stopping pending with destroyed | ⟨other, destructing⟩
  · rw [present] at destroyed
    cases destroyed
  · rw [only (by simp [posting] : s.activity caller ≠ .idle),
      ← only (by simp [destructing] : s.activity other ≠ .idle), destructing] at posting
    cases posting

/-- The events of the destructor. -/
def LastEvents (events : List (Event Pointer)) : Prop :=
  events = [.sessionEnded] ∨ events = [.rangingStopped, .sessionEnded]

/-- Where the destructor is, and what it has posted. -/
inductive Ending : Activity Pointer → List (Event Pointer) → Prop
  | called : Ending (.called .destructor) []
  | stopping : Ending (.posting .rangingStopped (.stopRanging .destructor)) []
  | stopped : Ending (.posted (.stopRanging .destructor)) [.rangingStopped]
  | ending {events : List (Event Pointer)} (before : events = [] ∨ events = [.rangingStopped]) :
      Ending (.posting .sessionEnded (.endSession true)) events
  | ended {events : List (Event Pointer)} (last : LastEvents events) :
      Ending (.posted (.endSession true)) events
  | destructing {events : List (Event Pointer)} (last : LastEvents events) :
      Ending .destructing events

omit [DecidableEq Thread] [DecidableEq Pointer] in
theorem ending_moves {caller : Caller Thread} {label : Label Thread Pointer}
    {before after : Activity Pointer} {events : List (Event Pointer)}
    (moves : Moves caller before label after) (ending : Ending before events)
    (accepted : ∀ event, label ≠ .queue (.refuse caller event))
    (stays : label ≠ .queue (.join caller)) : Ending after (events ++ posted [label]) := by
  cases ending with
  | called =>
    generalize origin : (Activity.called .destructor : Activity Pointer) = before at moves
    cases moves with
    | enter reaches =>
      obtain rfl := Activity.called.inj origin
      generalize operation : (Operation.destructor : Operation Pointer) = called at reaches
      cases reaches with
      | stopped site => cases site <;> first | exact .stopping | cases operation
      | inactive site => cases site <;> first | exact .ending (.inl rfl) | cases operation
      | _ => cases operation
    | _ => cases origin
  | stopping =>
    cases moves with
    | post => exact .stopped
    | refuse => exact absurd rfl (accepted _)
  | stopped =>
    cases moves with
    | leave => exact .ending (.inr rfl)
  | ending before =>
    cases moves with
    | post =>
      refine .ended ?_
      rcases before with rfl | rfl
      · exact .inl rfl
      · exact .inr rfl
    | refuse => exact absurd rfl (accepted _)
  | ended last =>
    cases moves with
    | leave => exact .destructing (by rwa [show posted [_] = [] from rfl, List.append_nil])
  | destructing last =>
    cases moves with
    | join => exact absurd rfl stays

/-- Only callers post. -/
theorem posted_of_other {label : Label Thread Pointer}
    (taken : Step spatialProperties s label t) (silent : ∀ caller, label.caller? = some caller →
      s.activity caller = .idle) : posted [label] = [] := by
  cases label with
  | queue move =>
    cases move with
    | post caller event =>
      obtain ⟨body, posting, -⟩ := post_cases taken
      rw [silent caller rfl] at posting
      cases posting
    | _ => rfl
  | _ => rfl

/-- **What the destructor posts.** -/
theorem ending_run {earlier during : List (Label Thread Pointer)} {called : State Thread Pointer}
    (before : Run (OneThreadStep spatialProperties owner) (init Thread capabilities initial)
      earlier called)
    (calls : called.activity (.client owner) = .called .destructor)
    (run : Run (OneThreadStep spatialProperties owner) called during s)
    (present : s.queue.destroyed = false) :
    Ending (s.activity (.client owner)) (posted during) := by
  refine run.history (fun during s => s.queue.destroyed = false →
    Ending (s.activity (.client owner)) (posted during)) (fun _ => calls ▸ .called) ?_ present
  rintro sofar s label t inside ending step present
  have reached := before.append inside
  have taken := step.2
  have ending := ending (Bool.eq_false_iff.mpr fun destroyed => by
    simp [(posted_of_destroyed taken destroyed).2] at present)
  rw [posted_append]
  by_cases own : label.caller? = some (.client owner)
  · refine ending_moves (moves_of_step taken own) ending (fun event same => ?_) fun joins => ?_
    · exact not_refused reached (same ▸ taken)
    · have ends := join_ends (settled_run reached.unrestrict) (closing_run reached.unrestrict)
        (joins ▸ taken)
      rw [ends.2.2] at present
      cases present
  · have silent : posted [label] = [] := posted_of_other taken fun caller moves =>
      others_idle reached fun same => own (same ▸ moves)
    rwa [silent, List.append_nil, activity_frame taken own]

/-- The callback object has been alive all along. -/
theorem alive_of_run {later : List (Label Thread Pointer)}
    (run : Run (Step spatialProperties) s later t) (alive : t.callbacksAlive = true) :
    s.callbacksAlive = true := by
  by_contra gone
  have expired : t.callbacksAlive ≠ true := run.invariant (fun t => t.callbacksAlive ≠ true) gone
    fun _ _ _ expired taken alive => expired ((frame_step taken).alive alive)
  exact expired alive

/-- **The end of a session**: the call of the destructor, and the join in it. -/
theorem join_of_destroyed
    (run : Run (OneThreadStep spatialProperties owner) (init Thread capabilities initial) trace s)
    (destroyed : s.queue.destroyed = true) :
    ∃ earlier during later joining joined,
      trace = earlier ++ .call (.client owner) .destructor ::
        (during ++ .queue (.join (.client owner)) :: later) ∧
      LastEvents (posted during) ∧
      Run (OneThreadStep spatialProperties owner) (init Thread capabilities initial)
        (earlier ++ .call (.client owner) .destructor :: during) joining ∧
      joining.queue.worker = .exited ∧ joined.queue.destroyed = true ∧
      Step spatialProperties joining (.queue (.join (.client owner))) joined ∧
      Run (OneThreadStep spatialProperties owner) joined later s := by
  obtain ⟨before, label, later, joining, joined, rfl, reaches, present, ⟨-, joins⟩, gone, rest⟩ :=
    run.crossing (fun s => s.queue.destroyed = true) (by simp [init, TaskQueue.init]) destroyed
  obtain ⟨caller, rfl⟩ := (destroyed_step joins gone).resolve_left present
  have settled := settled_run reaches.unrestrict
  obtain ⟨destructing, exited, -⟩ := join_ends settled (closing_run reaches.unrestrict) joins
  have own : caller = .client owner := by
    by_contra other
    rw [others_idle reaches other] at destructing
    cases destructing
  obtain rfl := own
  -- the destructor has been called before
  have called := settled.destroyer.called _ (by rw [destructing]; trivial)
  obtain ⟨earlier, label, during, calling, ending, rfl, before, fresh, ⟨one, calls⟩, now, inside⟩ :=
    reaches.crossing (fun s => s.destructorCalled = true) (by simp [init]) called
  rcases destructorCalled_step calls with ⟨caller, rfl, -, -⟩ | ⟨-, same⟩
  · have one : OneThread owner (.call caller .destructor : Label Thread Pointer) := one
    have own : caller = .client owner := one
    rw [own] at calls one
    have enters : ending.activity (.client owner) = .called .destructor := by
      obtain ⟨-, rfl⟩ := step_call.mp calls
      exact setActivity_self ..
    have posts := ending_run (before.snoc ⟨one, calls⟩) enters inside
      (Bool.eq_false_iff.mpr present)
    rw [destructing] at posts
    rw [own] at reaches ⊢
    refine ⟨earlier, during, later, joining, joined, by simp, ?_, reaches, exited, gone, joins,
      rest⟩
    cases posts with
    | destructing last => exact last
  · exact absurd (same ▸ now) fresh

/-- **Destroying a session delivers every event.** Whatever one thread calls before, no event is
refused; when the destructor returns, all tasks have run to their end before the join and with it
before the other members are destroyed, and a callback object that is alive has received every event
posted, in posting order, those of the destructor last. One that expires has received the first of
them. The members are destroyed in the reverse order of their declaration, the queue first, and no
task runs when another one is destroyed or later. -/
theorem destruction_delivers
    (run : Run (OneThreadStep spatialProperties owner) (init Thread capabilities initial) trace s) :
    delivered trace <+: posted trace ∧ (∀ caller event, .queue (.refuse caller event) ∉ trace) ∧
    (s.queue.destroyed = true → ∃ earlier during later,
      trace = earlier ++ .call (.client owner) .destructor ::
        (during ++ .queue (.join (.client owner)) :: later) ∧
      posted trace = posted earlier ++ posted during ∧ LastEvents (posted during) ∧
      TaskQueue.finished (queueTrace (earlier ++ .call (.client owner) .destructor :: during)) =
        posted trace ∧
      (s.callbacksAlive = true → delivered trace = posted trace ∧
        delivered (earlier ++ .call (.client owner) .destructor :: during) = posted trace)) ∧
    (∃ lifetime ends,
      Run (Lifetime.Step spatialProperties) (Lifetime.init Thread capabilities initial) lifetime
        ends ∧ Lifetime.sessionTrace lifetime = trace ∧ ends.session = s) ∧
    ∀ lifetime ends,
      Run (Lifetime.Step spatialProperties) (Lifetime.init Thread capabilities initial) lifetime
        ends → Lifetime.sessionTrace lifetime = trace →
      .taskQueue :: Lifetime.destroyed lifetime <+: Member.declared.reverse ∧
      ∀ early caller member late, lifetime = early ++ .destroy caller member :: late →
        TaskQueue.finished (queueTrace (Lifetime.sessionTrace early)) = posted trace ∧
          handled (Lifetime.sessionTrace late) = [] := by
  refine ⟨delivered_prefix_posted run.unrestrict, fun caller event => ?_, fun destroyed => ?_,
    Lifetime.exists_lifetime run.unrestrict,
    fun lifetime ends lives same => ⟨Lifetime.destroyed_in_order lives, ?_⟩⟩
  · refine run.history (fun trace _ => .queue (.refuse caller event) ∉ trace) List.not_mem_nil ?_
    rintro sofar s label t reached fresh ⟨-, taken⟩ member
    rcases List.mem_append.mp member with early | last
    · exact fresh early
    · obtain rfl := List.mem_singleton.mp last
      exact not_refused reached taken
  · have whole := run
    obtain ⟨earlier, during, later, joining, joined, rfl, last, before, exited, gone, joins,
      rest⟩ := join_of_destroyed run destroyed
    have nothing := posted_nil_of_destroyed rest.unrestrict gone
    obtain ⟨handledAll, finishedAll⟩ := handled_of_exited before.unrestrict exited
    have split : earlier ++ .call (.client owner) .destructor ::
        (during ++ .queue (.join (.client owner)) :: later) =
        (earlier ++ .call (.client owner) .destructor :: during) ++
          (.queue (.join (.client owner)) :: later) := by simp
    have all : posted (earlier ++ .call (.client owner) .destructor ::
        (during ++ .queue (.join (.client owner)) :: later)) =
        posted (earlier ++ .call (.client owner) .destructor :: during) := by
      have silent : posted (.queue (.join (.client owner)) :: later) = [] := nothing
      rw [split, posted_append, silent, List.append_nil]
    have parts : posted (earlier ++ .call (.client owner) .destructor :: during) =
        posted earlier ++ posted during := posted_append ..
    refine ⟨earlier, during, later, rfl, all.trans parts, last, finishedAll.trans all.symm,
      fun alive => ⟨?_, ?_⟩⟩
    · rw [delivered_handled whole.unrestrict alive]
      exact (handled_of_exited whole.unrestrict
        ((closing_run whole.unrestrict).left destroyed)).1
    · have joinedAlive := alive_of_run rest.unrestrict alive
      rw [delivered_handled before.unrestrict ((frame_step joins).alive joinedAlive), handledAll,
        all]
  · rintro early caller member late rfl
    rw [← same]
    exact Lifetime.destroyed_after_tasks lives

/-- A client adds a near object, starts ranging, and destroys the session. -/
def destructionTrace : List (Label Nat Nat) :=
  [.queue .construct, .call (.client 0) (.addNearObjects [2]), .enter (.client 0),
    .queue (.post (.client 0) (.sessionMembershipChanged [2] [])), .queue (.notify (.client 0)),
    .leave (.client 0), .return (.client 0) .unit, .queue .evaluate, .queue .announce,
    .call (.client 0) .startRanging, .enter (.client 0),
    .queue (.post (.client 0) .rangingStarted), .queue (.notify (.client 0)), .leave (.client 0),
    .return (.client 0) (.status .running), .call (.client 0) .destructor, .enter (.client 0),
    .queue (.post (.client 0) .rangingStopped), .leave (.client 0),
    .deliver (.sessionMembershipChanged [2] []), .queue (.post (.client 0) .sessionEnded),
    .leave (.client 0), .queue (.stop (.client 0) .run .destructor), .queue (.notify (.client 0)),
    .queue (.finish (.sessionMembershipChanged [2] []) .returned), .queue .loop, .queue .evaluate,
    .queue .announce, .deliver .rangingStarted, .queue (.finish .rangingStarted .threw),
    .deliver .rangingStopped, .queue (.finish .rangingStopped .returned), .deliver .sessionEnded,
    .queue (.finish .sessionEnded .returned), .queue .loop, .queue .evaluate,
    .queue (.join (.client 0)), .return (.client 0) .unit]

/-- The same, with the members. -/
def lifetimeTrace : List (Lifetime.Label Nat Nat) :=
  destructionTrace.dropLast.map .session ++
    [.destroy (.client 0) .nearObjects, .destroy (.client 0) .nearObjectsGate,
      .destroy (.client 0) .eventCallbacks, .destroy (.client 0) .capabilities,
      .destroy (.client 0) .rangingSession, .destroy (.client 0) .rangingStateGate,
      .session (.return (.client 0) .unit)]

theorem destruction_delivers_ranging :
    ∃ s ends, Run (OneThreadStep unset 0) (init Nat ⟨true⟩ []) destructionTrace s ∧
      s.queue.destroyed = true ∧ delivered destructionTrace = posted destructionTrace ∧
      posted destructionTrace = [.sessionMembershipChanged [2] [], .rangingStarted, .rangingStopped,
        .sessionEnded] ∧
      Run (Lifetime.Step unset) (Lifetime.init Nat ⟨true⟩ []) lifetimeTrace ends ∧
      .taskQueue :: Lifetime.destroyed lifetimeTrace <+: Member.declared.reverse ∧
      ends.members = [] := by
  have run : Run (OneThreadStep unset 0)
    (init Nat ⟨true⟩ []) destructionTrace _ := run_of_execute_guarded rfl
  have lives : Run (Lifetime.Step unset) (Lifetime.init Nat ⟨true⟩ []) lifetimeTrace _ :=
    run_of_execute rfl
  obtain ⟨-, -, delivers, -, members⟩ := destruction_delivers run
  obtain ⟨earlier, during, later, -, -, -, -, delivers⟩ := delivers rfl
  exact ⟨_, _, run, rfl, (delivers rfl).1, rfl, lives, (members _ _ lives rfl).1, rfl⟩

end

end NearObject.Session
