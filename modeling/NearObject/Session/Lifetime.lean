/-
**`NearObjectSession` — the end of a session, and of its members.**

`~NearObjectSession` runs its body, and then destroys the members, each after those that are
declared behind it. The last one declared is the queue, whose destructor stops the queue and joins
the worker: when the join returns the worker has left (`Closing.left`), so that every event posted
has been handled and nothing is handled later.

The steps of a session show what happens to its queue. `Lifetime` adds the destruction of the other
members, one after the other, before the destructor returns. Its runs are those of a session
(`refines_session`), with nothing lost (`exists_lifetime`).

* `destroyed_after_tasks` — when a member other than the queue is destroyed, all tasks have run to
  their end, and none is to come.
* `destroyed_in_order` — the members are destroyed in the reverse order of their declaration.
-/

import NearObject.Session.Gates

namespace NearObject.Session

open Transition
open TaskQueue (Caller)

section

variable {Thread Pointer Value : Type} [DecidableEq Thread] [DecidableEq Pointer] [BEq Value]
  {spatialProperties : Pointer → NearObjectSpatialProperties Value} {s t : State Thread Pointer}

/-! ### The queue of a session that is destroyed -/

/-- Past its body, the destructor of a session is left by the join only. -/
theorem destructing_step {label : Label Thread Pointer} {caller : Caller Thread}
    (taken : Step spatialProperties s label t) (destructing : s.activity caller = .destructing) :
    t.activity caller = .destructing ∨ label = .queue (.join caller) := by
  by_cases own : label.caller? = some caller
  · have moves := moves_of_step taken own
    rw [destructing] at moves
    generalize t.activity caller = after at moves
    cases moves with
    | join => exact .inr rfl
  · exact .inl ((activity_frame taken own).trans destructing)

/-- What holds of the queue and of those who stop it, in every state. -/
structure Closing (s : State Thread Pointer) : Prop where
  sites : s.queue.DestructorStops
  left : s.queue.destroyed = true → s.queue.worker = .exited
  stopping : s.queue.members.isStopPending = true →
    s.queue.destroyed = true ∨ ∃ caller, s.activity caller = .destructing

/-- The join of a destructor ends the queue, after the worker has left. -/
theorem join_ends {caller : Caller Thread} (settled : Settled s) (closing : Closing s)
    (taken : Step spatialProperties s (.queue (.join caller)) t) :
    s.activity caller = .destructing ∧ s.queue.worker = .exited ∧ t.queue.destroyed = true := by
  obtain ⟨followed, queue, follows, moved, rfl⟩ := step_queue.mp taken
  obtain ⟨destructing, -⟩ := follow_join.mp follows
  obtain ⟨site, joining, waited, rfl⟩ := TaskQueue.step_join.mp moved
  obtain rfl := closing.sites caller site (.inr joining)
  refine ⟨destructing, ?_, by simp [TaskQueue.State.joined]⟩
  rcases waited with joined | rfl | exited
  · exact settled.drained.joined joined
  · exact absurd rfl (settled.destroyer.client .worker (by rw [destructing]; trivial))
  · exact exited

omit [DecidableEq Thread] [DecidableEq Pointer] in
/-- A step of the queue that is a join is one of the session. -/
theorem label_of_join {label : Label Thread Pointer} {caller : Caller Thread}
    (steps : queueSteps label = [.join caller]) : label = .queue (.join caller) := by
  cases label with
  | queue move => rw [List.singleton_inj.mp steps]
  | deliver event => cases List.singleton_inj.mp steps
  | drop event => cases List.singleton_inj.mp steps
  | _ => cases steps

theorem destroyed_step {label : Label Thread Pointer} (taken : Step spatialProperties s label t)
    (destroyed : t.queue.destroyed = true) :
    s.queue.destroyed = true ∨ ∃ caller, label = .queue (.join caller) := by
  rcases queue_cases taken with ⟨-, same⟩ | ⟨move, steps, moved, -⟩
  · exact .inl (same ▸ destroyed)
  · by_cases joins : ∃ caller, move = .join caller
    · obtain ⟨caller, rfl⟩ := joins
      exact .inr ⟨caller, label_of_join steps⟩
    · have frame := (TaskQueue.flags_frame moved).2 fun caller same => joins ⟨caller, same⟩
      exact .inl (frame.2 ▸ destroyed)

/-- A session that is destroyed posts nothing more. -/
theorem posted_of_destroyed {label : Label Thread Pointer}
    (taken : Step spatialProperties s label t) (destroyed : s.queue.destroyed = true) :
    posted [label] = [] ∧ t.queue.destroyed = true := by
  rcases queue_cases taken with ⟨steps, same⟩ | ⟨move, steps, moved, -⟩
  · rw [posted, queueTrace, List.flatMap_singleton, steps, same]
    exact ⟨rfl, destroyed⟩
  · rw [posted, queueTrace, List.flatMap_singleton, steps]
    exact TaskQueue.accepted_of_destroyed moved destroyed

theorem stopping_step {label : Label Thread Pointer} (taken : Step spatialProperties s label t)
    (ends : ∀ caller, label = .queue (.join caller) → t.queue.destroyed = true)
    (closing : Closing s) (pending : t.queue.members.isStopPending = true) :
    t.queue.destroyed = true ∨ ∃ caller, t.activity caller = .destructing := by
  have stays (caller : Caller Thread) (destructing : s.activity caller = .destructing) :
      t.queue.destroyed = true ∨ ∃ caller, t.activity caller = .destructing := by
    rcases destructing_step taken destructing with still | joins
    · exact .inr ⟨caller, still⟩
    · exact .inl (ends caller joins)
  have before (same : s.queue.members.isStopPending = true) :
      t.queue.destroyed = true ∨ ∃ caller, t.activity caller = .destructing := by
    rcases closing.stopping same with destroyed | ⟨caller, destructing⟩
    · exact .inl (posted_of_destroyed taken destroyed).2
    · exact stays caller destructing
  rcases queue_cases taken with ⟨-, same⟩ | ⟨move, -, moved, stops, -⟩
  · exact before (same ▸ pending)
  · rcases TaskQueue.members_cases moved with ⟨caller, task, -, running, same⟩ |
      ⟨caller, action, site, stop, -⟩ | ⟨-, -, same⟩ | ⟨-, -, -, -, same⟩ | ⟨-, same⟩
    · rw [same] at pending
      exact before pending
    · exact stays caller (stops caller action site stop).1
    · rw [same] at pending
      cases pending
    · rw [same] at pending
      exact before pending
    · rw [same] at pending
      exact before pending

theorem closing_step {label : Label Thread Pointer} (taken : Step spatialProperties s label t)
    (settled : Settled s) (closing : Closing s) : Closing t where
  sites := by
    rcases queue_cases taken with ⟨-, same⟩ | ⟨move, -, moved, stops, -⟩
    · rw [same]
      exact closing.sites
    · exact TaskQueue.destructorStops_step moved
        (fun caller action site stop => (stops caller action site stop).2.2) closing.sites
  left := by
    intro destroyed
    have exited : s.queue.worker = .exited := by
      rcases destroyed_step taken destroyed with before | ⟨caller, rfl⟩
      · exact closing.left before
      · exact (join_ends settled closing taken).2.1
    rcases queue_cases taken with ⟨-, same⟩ | ⟨move, -, moved, -⟩
    · rw [same, exited]
    · exact TaskQueue.exited_step moved exited
  stopping := stopping_step taken
    (fun caller joins => (join_ends settled closing (joins ▸ taken)).2.2) closing

variable {capabilities : NearObjectCapabilities} {initial : List Pointer}
  {trace : List (Label Thread Pointer)}

theorem closing_run
    (run : Run (Step spatialProperties) (init Thread capabilities initial) trace s) :
    Closing s := by
  refine run.history (fun _ s => Closing s) ?_ fun _ _ _ _ before closing taken =>
    closing_step taken (settled_run before) closing
  exact ⟨fun _ _ => by simp [init, TaskQueue.init], by simp [init, TaskQueue.init],
    by simp [init, TaskQueue.init, TaskQueue.Members.isStopPending]⟩

/-- Nobody is in the destructor of a session that is destroyed. -/
theorem not_destroys_of_destroyed
    (run : Run (Step spatialProperties) (init Thread capabilities initial) trace s)
    (destroyed : s.queue.destroyed = true) (caller : Caller Thread) :
    ¬ (s.activity caller).Destroys := by
  refine run.history
    (fun _ s => s.queue.destroyed = true → ∀ caller, ¬ (s.activity caller).Destroys)
    (fun _ _ => id) ?_ destroyed caller
  intro trace s label t before nobody taken destroyed other destroys
  have settled := settled_run before
  rcases destroyed_step taken destroyed with already | ⟨caller, rfl⟩
  · rcases destroys_of_step taken destroys with earlier | rfl
    · exact nobody already other earlier
    · obtain ⟨⟨-, present, -⟩, -⟩ := step_call.mp taken
      exact Bool.noConfusion (already.symm.trans present)
  · obtain ⟨destructing, -⟩ := join_ends settled (closing_run before) taken
    by_cases same : other = caller
    · have moves := moves_of_step taken rfl
      rw [same] at destroys
      rw [destructing] at moves
      generalize t.activity caller = after at moves destroys
      cases moves with
      | join => cases destroys
    · rw [activity_frame taken fun own => same (Option.some.inj own).symm] at destroys
      exact same (settled.destroyer.unique other caller destroys (by rw [destructing]; trivial))

/-- When the worker has left, every event posted has been handled, to its end. -/
theorem handled_of_exited
    (run : Run (Step spatialProperties) (init Thread capabilities initial) trace s)
    (exited : s.queue.worker = .exited) :
    handled trace = posted trace ∧ TaskQueue.finished (queueTrace trace) = posted trace := by
  have empty := (settled_run run).drained.left exited
  have pending : s.queue.pending = [] := by
    simp [TaskQueue.State.pending, exited, TaskQueue.Worker.batch, empty.2]
  have conserved := handled_pending run
  have serial := TaskQueue.begun_eq_finished (refines_queue.run run)
  rw [pending, List.append_nil] at conserved
  rw [exited, show (TaskQueue.Worker.exited : TaskQueue.Worker (Event Pointer)).current.toList = []
    from rfl, List.append_nil] at serial
  exact ⟨conserved, serial.symm.trans conserved⟩

/-- Nothing is posted after the session is destroyed. -/
theorem posted_nil_of_destroyed {later : List (Label Thread Pointer)}
    (run : Run (Step spatialProperties) s later t) (destroyed : s.queue.destroyed = true) :
    posted later = [] := by
  have silent : posted later = [] ∧ t.queue.destroyed = true := by
    refine run.history (fun later t => posted later = [] ∧ t.queue.destroyed = true)
      ⟨rfl, destroyed⟩ ?_
    rintro sofar middle label t - ⟨nothing, gone⟩ taken
    rw [posted_append, nothing]
    exact posted_of_destroyed taken gone
  exact silent.1

end

/-! ### The members -/

/-- The members of a session. -/
inductive Member
  | rangingStateGate
  | rangingSession
  | capabilities
  | eventCallbacks
  | nearObjectsGate
  | nearObjects
  | taskQueue
  deriving DecidableEq, Repr

/-- The members in the order of their declaration. -/
def Member.declared : List Member :=
  [.rangingStateGate, .rangingSession, .capabilities, .eventCallbacks, .nearObjectsGate,
    .nearObjects, .taskQueue]

/-- A session, with its members that have not been destroyed, the next one first. -/
structure Lifetime (Thread Pointer : Type) where
  session : State Thread Pointer
  members : List Member
  /-- The caller that destroys the members, from the join of the queue on. -/
  destroyer : Option (Caller Thread)

namespace Lifetime

def init (Thread : Type) {Pointer : Type} (capabilities : NearObjectCapabilities)
    (nearObjects : List Pointer) : Lifetime Thread Pointer where
  session := Session.init Thread capabilities nearObjects
  members := Member.declared.reverse
  destroyer := none

inductive Label (Thread Pointer : Type)
  | session (label : Session.Label Thread Pointer)
  /-- The destruction of a member other than the queue. -/
  | destroy (caller : Caller Thread) (member : Member)
  deriving DecidableEq, Repr

section Steps

variable {Thread Pointer Value : Type} [DecidableEq Thread] [DecidableEq Pointer] [BEq Value]
  (spatialProperties : Pointer → NearObjectSpatialProperties Value)

/-- What a step of the session does to the members, `none` where it waits for the destruction of
others. -/
def follow (s : Lifetime Thread Pointer) :
    Session.Label Thread Pointer → Option (Lifetime Thread Pointer)
  -- the destructor of `m_taskQueue` begins
  | .queue (.stop ..) => if s.members.head? = some .taskQueue then some s else none
  | .queue (.join caller) =>
    if s.members.head? = some .taskQueue then
      some { s with members := s.members.tail, destroyer := some caller }
    else none
  -- the destructor of the session returns when all members are destroyed
  | .return caller _ => if s.destroyer = some caller ∧ s.members ≠ [] then none else some s
  | _ => some s

/-- **One step**, `none` where the label is not enabled. -/
def step (s : Lifetime Thread Pointer) : Label Thread Pointer → Option (Lifetime Thread Pointer)
  | .session label =>
    (s.follow label).bind fun followed =>
      (Session.step spatialProperties s.session label).map fun session => { followed with session }
  | .destroy caller member =>
    if s.destroyer = some caller ∧ s.members.head? = some member then
      some { s with members := s.members.tail }
    else none

abbrev Step : Lifetime Thread Pointer → Label Thread Pointer → Lifetime Thread Pointer → Prop :=
  Next (step spatialProperties)

end Steps

section Runs

variable {Thread Pointer : Type}

/-- The step of the session. -/
def Label.inner : Label Thread Pointer → List (Session.Label Thread Pointer)
  | .session label => [label]
  | .destroy _ _ => []

/-- The steps of the session. -/
def sessionTrace (trace : List (Label Thread Pointer)) : List (Session.Label Thread Pointer) :=
  trace.flatMap Label.inner

/-- The members destroyed, in order, but for the queue. -/
def destroyed (trace : List (Label Thread Pointer)) : List Member :=
  trace.filterMap fun
    | .destroy _ member => some member
    | .session _ => none

theorem sessionTrace_append (first second : List (Label Thread Pointer)) :
    sessionTrace (first ++ second) = sessionTrace first ++ sessionTrace second :=
  List.flatMap_append

theorem destroyed_append (first second : List (Label Thread Pointer)) :
    destroyed (first ++ second) = destroyed first ++ destroyed second :=
  List.filterMap_append

variable {Value : Type} [DecidableEq Thread] [DecidableEq Pointer] [BEq Value]
  {spatialProperties : Pointer → NearObjectSpatialProperties Value} {s t : Lifetime Thread Pointer}
  {capabilities : NearObjectCapabilities} {initial : List Pointer}
  {trace : List (Label Thread Pointer)}

theorem step_session {label : Session.Label Thread Pointer} :
    Step spatialProperties s (.session label) t ↔ ∃ followed session,
      s.follow label = some followed ∧ Session.Step spatialProperties s.session label session ∧
        t = { followed with session } := by
  simp only [Next, step, Option.bind_eq_some_iff, Option.map_eq_some_iff]
  constructor
  · rintro ⟨followed, follows, session, taken, rfl⟩
    exact ⟨followed, session, follows, taken, rfl⟩
  · rintro ⟨followed, session, follows, taken, rfl⟩
    exact ⟨followed, follows, session, taken, rfl⟩

theorem step_destroy {caller : Caller Thread} {member : Member} :
    Step spatialProperties s (.destroy caller member) t ↔ s.destroyer = some caller ∧
      s.members.head? = some member ∧ t = { s with members := s.members.tail } := by
  simp [Next, step, and_assoc, eq_comm (b := t)]

/-- **What happens to the session** are steps of the session. -/
theorem refines_session : Refines (Step spatialProperties) (Session.Step spatialProperties)
    Lifetime.session (Label.inner : Label Thread Pointer → List _) := by
  rintro s label t taken
  cases label with
  | session label =>
    obtain ⟨followed, session, -, moved, rfl⟩ := step_session.mp taken
    exact .single moved
  | destroy caller member =>
    obtain ⟨-, -, rfl⟩ := step_destroy.mp taken
    exact .nil

theorem session_run
    (run : Run (Step spatialProperties) (init Thread capabilities initial) trace s) :
    Run (Session.Step spatialProperties) (Session.init Thread capabilities initial)
      (sessionTrace trace) s.session :=
  refines_session.run run

/-- The members that are left are those not destroyed, in the reverse order of declaration. -/
structure InOrder (trace : List (Label Thread Pointer)) (s : Lifetime Thread Pointer) : Prop where
  before : s.destroyer = none → s.members = Member.declared.reverse ∧ destroyed trace = []
  after : ∀ caller, s.destroyer = some caller → s.session.queue.destroyed = true ∧
    .taskQueue :: (destroyed trace ++ s.members) = Member.declared.reverse

omit [DecidableEq Pointer] in
/-- Only the join takes a member from the list, the queue. -/
theorem follow_cases {label : Session.Label Thread Pointer} {followed : Lifetime Thread Pointer}
    (follows : s.follow label = some followed) : followed = s ∨ ∃ caller,
      label = .queue (.join caller) ∧ s.members = .taskQueue :: followed.members ∧
        followed.destroyer = some caller := by
  unfold follow at follows
  split at follows
  · obtain ⟨-, same⟩ := Option.ite_none_right_eq_some.mp follows
    exact .inl (Option.some.inj same).symm
  · obtain ⟨first, same⟩ := Option.ite_none_right_eq_some.mp follows
    rw [← Option.some.inj same]
    exact .inr ⟨_, rfl, (List.cons_head?_tail first).symm, rfl⟩
  · obtain ⟨-, same⟩ := Option.ite_none_left_eq_some.mp follows
    exact .inl (Option.some.inj same).symm
  · exact .inl (Option.some.inj follows).symm

theorem inOrder_session {label : Session.Label Thread Pointer} {followed : Lifetime Thread Pointer}
    {session : State Thread Pointer}
    (before : Run (Step spatialProperties) (init Thread capabilities initial) trace s)
    (order : InOrder trace s) (follows : s.follow label = some followed)
    (taken : Session.Step spatialProperties s.session label session) :
    InOrder (trace ++ [.session label]) { followed with session } := by
  have unchanged : destroyed (trace ++ [.session label]) = destroyed trace := by
    rw [destroyed_append]
    exact List.append_nil _
  rcases follow_cases follows with rfl | ⟨caller, rfl, joined, destroyer⟩
  · refine ⟨fun present => ?_, fun caller destroys => ?_⟩
    · rw [unchanged]
      exact order.before present
    · obtain ⟨gone, left⟩ := order.after caller destroys
      rw [unchanged]
      exact ⟨(posted_of_destroyed taken gone).2, left⟩
  · have reached := session_run before
    have gone := (join_ends (settled_run reached) (closing_run reached) taken).2.2
    refine ⟨fun present => ?_, fun _ _ => ⟨gone, ?_⟩⟩
    · rw [destroyer] at present
      cases present
    · cases early : s.destroyer with
      | none =>
        obtain ⟨all, nothing⟩ := order.before early
        rw [unchanged, nothing, List.nil_append, ← joined, all]
      | some other =>
        -- the queue is not there any more
        have once := congrArg (List.count Member.taskQueue) (order.after other early).2
        rw [joined, List.count_cons_self, List.count_append, List.count_cons_self] at once
        have one : Member.declared.reverse.count .taskQueue = 1 := by decide
        omega

theorem inOrder_run
    (run : Run (Step spatialProperties) (init Thread capabilities initial) trace s) :
    InOrder trace s := by
  refine run.history InOrder ⟨fun _ => ⟨rfl, rfl⟩, fun _ destroys => by cases destroys⟩
    fun trace s label t before order taken => ?_
  cases label with
  | session label =>
    obtain ⟨followed, session, follows, moved, rfl⟩ := step_session.mp taken
    exact inOrder_session before order follows moved
  | destroy caller member =>
    obtain ⟨destroyer, next, rfl⟩ := step_destroy.mp taken
    obtain ⟨gone, left⟩ := order.after caller destroyer
    refine ⟨fun present => ?_, fun _ _ => ⟨gone, ?_⟩⟩
    · cases destroyer.symm.trans present
    have whole : [member] ++ s.members.tail = s.members := List.cons_head?_tail next
    rw [destroyed_append, List.append_assoc]
    show .taskQueue :: (destroyed trace ++ ([member] ++ s.members.tail)) = _
    rw [whole, left]

/-- In the destructor of the queue no member has been destroyed. -/
theorem queue_first
    (run : Run (Step spatialProperties) (init Thread capabilities initial) trace s)
    {caller : Caller Thread} (destructing : s.session.activity caller = .destructing) :
    s.members.head? = some .taskQueue := by
  have order := inOrder_run run
  cases destroys : s.destroyer with
  | none =>
    rw [(order.before destroys).1]
    rfl
  | some other =>
    have gone := (order.after other destroys).1
    exact absurd (by rw [destructing]; trivial)
      (not_destroys_of_destroyed (session_run run) gone caller)

/-- All members that are left can be destroyed. -/
theorem destroy_rest {caller : Caller Thread} (destroys : s.destroyer = some caller) :
    ∃ trace, Run (Step spatialProperties) s trace { s with members := [] } ∧
      sessionTrace trace = [] := by
  obtain ⟨session, members, destroyer⟩ := s
  obtain rfl : destroyer = some caller := destroys
  induction members with
  | nil => exact ⟨[], .nil, rfl⟩
  | cons member rest ih =>
    obtain ⟨trace, run, inner⟩ := ih
    exact ⟨.destroy caller member :: trace, .cons (step_destroy.mpr ⟨rfl, rfl, rfl⟩) run, inner⟩

/-- A step of the session is possible, if need be after the destruction of members. -/
theorem exists_follow {label : Session.Label Thread Pointer} {session : State Thread Pointer}
    (run : Run (Step spatialProperties) (init Thread capabilities initial) trace s)
    (taken : Session.Step spatialProperties s.session label session) :
    ∃ trace middle followed, Run (Step spatialProperties) s trace middle ∧
      sessionTrace trace = [] ∧ middle.session = s.session ∧
      middle.follow label = some followed := by
  cases label with
  | queue move =>
    cases move with
    | stop caller action site =>
      obtain ⟨followed, queue, follows, -⟩ := step_queue.mp taken
      have destructing := (Option.ite_none_right_eq_some.mp follows).1.1
      exact ⟨[], s, _, .nil, rfl, rfl, if_pos (queue_first run destructing)⟩
    | join caller =>
      obtain ⟨followed, queue, follows, -⟩ := step_queue.mp taken
      have destructing := (follow_join.mp follows).1
      exact ⟨[], s, _, .nil, rfl, rfl, if_pos (queue_first run destructing)⟩
    | _ => exact ⟨[], s, s, .nil, rfl, rfl, rfl⟩
  | «return» caller result =>
    by_cases destroys : s.destroyer = some caller
    · obtain ⟨trace, rest, inner⟩ : ∃ trace, Run (Step spatialProperties) s trace
          { s with members := [] } ∧ sessionTrace trace = [] := destroy_rest destroys
      exact ⟨trace, _, _, rest, inner, rfl, if_neg fun left => left.2 rfl⟩
    · exact ⟨[], s, s, .nil, rfl, rfl, if_neg fun left => destroys left.1⟩
  | _ => exact ⟨[], s, s, .nil, rfl, rfl, rfl⟩

/-- **Every run of a session is that of a lifetime**: the destruction of the members takes none
away. -/
theorem exists_lifetime {trace : List (Session.Label Thread Pointer)} {s : State Thread Pointer}
    (run : Run (Session.Step spatialProperties) (Session.init Thread capabilities initial)
      trace s) :
    ∃ lifetime ends, Run (Step spatialProperties) (init Thread capabilities initial) lifetime ends ∧
      sessionTrace lifetime = trace ∧ ends.session = s := by
  induction run with
  | nil => exact ⟨[], init Thread capabilities initial, .nil, rfl, rfl⟩
  | @snoc trace before after label _ taken ih =>
    obtain ⟨lifetime, ends, lives, inner, rfl⟩ := ih
    obtain ⟨destroys, middle, followed, more, silent, same, follows⟩ := exists_follow lives taken
    rw [← same] at taken
    refine ⟨lifetime ++ (destroys ++ [.session label]), _, lives.append (more.snoc
      (step_session.mpr ⟨followed, after, follows, taken, rfl⟩)), ?_, rfl⟩
    rw [sessionTrace_append, sessionTrace_append, inner, silent]
    rfl

/-- **The members are destroyed in the reverse order of their declaration**, the queue first. -/
theorem destroyed_in_order
    (run : Run (Step spatialProperties) (init Thread capabilities initial) trace s) :
    .taskQueue :: destroyed trace <+: Member.declared.reverse := by
  cases destroys : s.destroyer with
  | some caller =>
    have left := (inOrder_run run).after caller destroys
    rw [← left.2, ← List.cons_append]
    exact List.prefix_append ..
  | none =>
    rw [((inOrder_run run).before destroys).2]
    decide

/-- **A member is destroyed after all tasks**: they have run to their end, and none is to come. -/
theorem destroyed_after_tasks {early late : List (Label Thread Pointer)} {caller : Caller Thread}
    {member : Member} (run : Run (Step spatialProperties) (init Thread capabilities initial)
      (early ++ .destroy caller member :: late) s) :
    TaskQueue.finished (queueTrace (sessionTrace early)) =
        posted (sessionTrace (early ++ .destroy caller member :: late)) ∧
      handled (sessionTrace late) = [] := by
  obtain ⟨before, after, first, taken, rest⟩ := Run.cut early late run
  obtain ⟨destroyer, -, rfl⟩ := step_destroy.mp taken
  have gone := ((inOrder_run first).after caller destroyer).1
  have reached := session_run first
  have exited := (closing_run reached).left gone
  have silent : posted (sessionTrace late) = [] :=
    posted_nil_of_destroyed (refines_session.run rest) gone
  have split : sessionTrace (early ++ .destroy caller member :: late) =
      sessionTrace early ++ sessionTrace late := sessionTrace_append ..
  refine ⟨?_, ?_⟩
  · rw [split, posted_append, silent, List.append_nil]
    exact (handled_of_exited reached exited).2
  · -- what is handled later would be posted
    have whole := session_run run
    have all := (handled_of_exited reached exited).1
    have ends := handled_pending whole
    rw [split, handled_append, posted_append, silent, List.append_nil, all, List.append_assoc]
      at ends
    exact (List.append_eq_nil_iff.mp (List.append_right_eq_self.mp ends)).1

end Runs

end Lifetime

end NearObject.Session
