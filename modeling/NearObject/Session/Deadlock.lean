/-
**`NearObjectSession` — no cycle of waiting.**

A thread can be blocked on the two gates of the session, on the gate of its queue, and in the join
of the worker (`Resource`). The join comes first and the gate of the queue last: the destructor
joins without a gate, and the queue is posted to under one gate of the session at most
(`ordered_resources`).

A critical section is one step of the model. While a thread is in the middle of one, it holds the
gate of the section before that step: `Holders` is any assignment of the gates to threads that are
past such a section's beginning or at it, and the result is for every one.
-/

import NearObject.Session.Gates
import NearObject.Transition.LockOrder
import Mathlib.Order.Nat

namespace NearObject.Session

open Transition
open TaskQueue (Caller)

/-! ### What a thread waits for -/

/-- What a thread can be blocked on. -/
inductive Resource
  /-- The worker runs, and the destructor joins it. -/
  | join
  /-- `m_nearObjectsGate` and `m_rangingStateGate`. -/
  | gate (gate : Gate)
  /-- `m_runnables_changed_gate`. -/
  | queue
  deriving DecidableEq, Repr

/-- The order in which the resources are taken. -/
def Resource.rank : Resource → Nat
  | .join => 0
  | .gate _ => 1
  | .queue => 2

section Resources

variable {Thread Pointer : Type}

/-- The gate that an operation takes. -/
def Operation.gate : Operation Pointer → Option Gate
  | .addNearObjects _ | .removeNearObjects _ | .getNearObjects => some .nearObjects
  | .startRanging | .stopRanging | .isRangingActive | .endSession | .destructor =>
    some .rangingState
  | .nearObjectPropertiesChanged _ => none

/-- What a thread takes next. -/
def State.Takes (s : State Thread Pointer) (caller : Caller Thread) : Resource → Prop
  | .join => s.activity caller = .destructing ∧ (∃ site, s.queue.call caller = .joining site) ∧
    ¬ s.queue.JoinReturns caller
  | .gate gate => ∃ operation, s.activity caller = .called operation ∧ operation.gate = some gate
  | .queue =>
    -- in `post`, in `stop`, and in `process_queue`
    (∃ event body, s.activity caller = .posting event body) ∨
      (s.activity caller = .destructing ∧ s.queue.call caller = .idle) ∨
      (caller = .worker ∧ s.queue.worker = .waking)

/-- What a thread holds over more than one critical section. -/
def State.Holds (s : State Thread Pointer) (caller : Caller Thread) : Resource → Prop
  | .join => caller = .worker
  | .gate gate => s.owner gate = some caller
  | .queue => caller = .worker ∧ s.queue.worker = .waiting

/-- Who holds what, with threads that are in the middle of a critical section. -/
structure Holders (s : State Thread Pointer) (holder : Resource → Option (Caller Thread)) :
    Prop where
  holds : ∀ resource caller, s.Holds caller resource → holder resource = some caller
  inside : ∀ resource caller, holder resource = some caller →
    s.Holds caller resource ∨ s.Takes caller resource

/-- A thread is blocked: it takes a resource next and is not in the middle of the critical section
already. One that took the same resource before would be blocked, too. -/
def State.Blocked (s : State Thread Pointer) (holder : Resource → Option (Caller Thread))
    (caller : Caller Thread) (resource : Resource) : Prop :=
  s.Takes caller resource ∧ (holder resource = some caller → s.Holds caller resource)

/-- One thread is blocked on what another one holds. -/
def State.WaitsFor (s : State Thread Pointer) (holder : Resource → Option (Caller Thread)) :
    Caller Thread → Caller Thread → Prop :=
  LockOrder.WaitsFor (s.Blocked holder) fun caller resource => holder resource = some caller

end Resources

/-! ### The order -/

section Order

variable {Thread Pointer : Type} {s : State Thread Pointer}
  {holder : Resource → Option (Caller Thread)} {caller : Caller Thread}

/-- Outside a task, the worker is nowhere in the session. -/
theorem worker_idle (idle : WorkerIdle s)
    (outside : s.queue.worker = .waking ∨ s.queue.worker = .waiting) :
    s.activity .worker = .idle := by
  by_contra inside
  have current := idle inside
  rcases outside with waking | waiting
  · rw [waking] at current
    cases current
  · rw [waiting] at current
    cases current

/-- The worker is not joined by itself. -/
theorem not_join_of_worker (holders : Holders s holder) (owns : holder .join = some caller) :
    ¬ s.Takes caller .join := by
  obtain rfl := Option.some.inj (owns.symm.trans (holders.holds .join .worker rfl))
  rintro ⟨-, -, waits⟩
  exact waits (.inr (.inl rfl))

/-- Under a gate of the session, a thread is past taking it and before releasing it. -/
theorem posting_of_owner {gate : Gate} (consistent : Consistent s)
    (owns : s.owner gate = some caller) :
    (∃ event body, s.activity caller = .posting event body) ∨
      ∃ body, s.activity caller = .posted body := by
  have held := (consistent.held gate caller).mp owns
  cases place : s.activity caller with
  | posting event body => exact .inl ⟨event, body, rfl⟩
  | posted body => exact .inr ⟨body, rfl⟩
  | _ => simp [place, Activity.gate?] at held

/-- With a gate of the session, a thread waits for the queue only. -/
theorem queue_of_gate {gate : Gate} {wanted : Resource} (consistent : Consistent s)
    (holders : Holders s holder) (owns : holder (.gate gate) = some caller)
    (blocked : s.Blocked holder caller wanted) : wanted = .queue := by
  obtain ⟨takes, already⟩ := blocked
  cases wanted with
  | queue => rfl
  | join =>
    obtain ⟨destructing, -⟩ := takes
    rcases holders.inside _ _ owns with held | ⟨operation, called, -⟩
    · rcases posting_of_owner consistent held with ⟨event, body, posting⟩ | ⟨body, posted⟩ <;>
        simp_all
    · simp_all
  | gate other =>
    obtain ⟨operation, called, place⟩ := takes
    -- it has not taken a gate, so it is in the middle of taking this one
    have fresh (gate : Gate) : ¬ s.Holds caller (.gate gate) := by
      intro held
      rcases posting_of_owner consistent held with ⟨event, body, posting⟩ | ⟨body, posted⟩ <;>
        simp_all
    rcases holders.inside _ _ owns with held | ⟨operation', called', place'⟩
    · exact absurd held (fresh gate)
    · rw [called] at called'
      obtain rfl := Activity.called.inj called'
      obtain rfl := Option.some.inj (place.symm.trans place')
      exact absurd (already owns) (fresh other)

/-- With the gate of the queue, a thread waits for nothing. -/
theorem free_of_queue {wanted : Resource} (settled : Settled s) (holders : Holders s holder)
    (owns : holder .queue = some caller) : ¬ s.Blocked holder caller wanted := by
  rintro ⟨takes, already⟩
  have client (worker : caller = .worker) : s.activity caller ≠ .destructing := fun destructing =>
    settled.destroyer.client caller (by rw [destructing]; trivial) worker
  -- where it holds the gate
  have place : (∃ event body, s.activity caller = .posting event body) ∨
      (s.activity caller = .destructing ∧ s.queue.call caller = .idle) ∨
      (s.activity caller = .idle ∧ caller = .worker ∧
        (s.queue.worker = .waking ∨ s.queue.worker = .waiting)) := by
    rcases holders.inside _ _ owns with ⟨rfl, waiting⟩ | posting | stopping | ⟨rfl, waking⟩
    · exact .inr (.inr ⟨worker_idle settled.idle (.inr waiting), rfl, .inr waiting⟩)
    · exact .inl posting
    · exact .inr (.inl stopping)
    · exact .inr (.inr ⟨worker_idle settled.idle (.inl waking), rfl, .inl waking⟩)
  cases wanted with
  | join =>
    obtain ⟨destructing, ⟨site, joining⟩, -⟩ := takes
    rcases place with ⟨event, body, posting⟩ | ⟨-, idle⟩ | ⟨idle, -⟩ <;> simp_all
  | gate gate =>
    obtain ⟨operation, called, -⟩ := takes
    rcases place with ⟨event, body, posting⟩ | ⟨destructing, -⟩ | ⟨idle, -⟩ <;> simp_all
  | queue =>
    -- it would hold the gate from before
    obtain ⟨rfl, waiting⟩ := already owns
    have idle := worker_idle settled.idle (.inr waiting)
    rcases takes with ⟨event, body, posting⟩ | ⟨destructing, -⟩ | ⟨-, waking⟩ <;> simp_all

/-- **The threads take the resources in order.** -/
theorem ordered_resources (consistent : Consistent s) (settled : Settled s)
    (holders : Holders s holder) :
    LockOrder.Ordered (s.Blocked holder) (fun caller resource => holder resource = some caller)
      Resource.rank := by
  intro caller owned wanted owns blocked
  cases owned with
  | join =>
    cases wanted with
    | join => exact absurd blocked.1 (not_join_of_worker holders owns)
    | gate other => exact Nat.zero_lt_one
    | queue => exact Nat.zero_lt_two
  | gate gate =>
    obtain rfl := queue_of_gate consistent holders owns blocked
    exact Nat.one_lt_two
  | queue => exact absurd blocked (free_of_queue settled holders owns)

end Order

/-! ### Runs -/

section

variable {Thread Pointer Value : Type} [DecidableEq Thread] [DecidableEq Pointer] [BEq Value]
  {spatialProperties : Pointer → NearObjectSpatialProperties Value} {s : State Thread Pointer}

/-- **Session locking cannot deadlock.** In no state of any run is there a cycle of threads that
wait for each other, whichever of them are in the middle of a critical section. -/
theorem no_deadlock {capabilities : NearObjectCapabilities} {initial : List Pointer}
    {trace : List (Label Thread Pointer)}
    (run : Run (Step spatialProperties) (init Thread capabilities initial) trace s)
    {holder : Resource → Option (Caller Thread)} (holders : Holders s holder)
    (caller : Caller Thread) : ¬ Relation.TransGen (s.WaitsFor holder) caller caller :=
  LockOrder.acyclic_of_order
    (ordered_resources (consistent_run run) (settled_run run) holders) caller

/-- The destructor joins the worker, a callback waits for `m_nearObjectsGate`, whose holder is about
to post, and the gate of the queue is held by another thread in its `post`. -/
def chainTrace : List (Label Nat Nat) :=
  [.queue .construct, .call (.client 1) (.nearObjectPropertiesChanged 5), .enter (.client 1),
    .queue (.post (.client 1) (.nearObjectPropertiesChanged [5])), .queue (.notify (.client 1)),
    .leave (.client 1), .queue .evaluate, .queue .announce,
    .deliver (.nearObjectPropertiesChanged [5]), .call .worker (.addNearObjects [6]),
    .call (.client 0) (.addNearObjects [7]), .enter (.client 0),
    .call (.client 2) .destructor, .enter (.client 2), .queue (.post (.client 2) .sessionEnded),
    .queue (.notify (.client 2)), .leave (.client 2),
    .call (.client 3) (.nearObjectPropertiesChanged 8), .enter (.client 3),
    .queue (.stop (.client 2) .run .destructor), .queue (.notify (.client 2))]

/-- The holders in the last state of `chainTrace`. -/
def chainHolder : Resource → Option (Caller Nat)
  | .join => some .worker
  | .gate .nearObjects => some (.client 0)
  | .gate .rangingState => none
  | .queue => some (.client 3)

theorem no_deadlock_chain :
    ∃ s, Run (Step unset) (init Nat ⟨true⟩ [])
        chainTrace s ∧
      s.WaitsFor chainHolder (.client 2) .worker ∧ s.WaitsFor chainHolder .worker (.client 0) ∧
      s.WaitsFor chainHolder (.client 0) (.client 3) ∧
      ¬ Relation.TransGen (s.WaitsFor chainHolder) (.client 2) (.client 2) := by
  obtain ⟨s, run, destructing, joining, joinable, executing, nearObjects, rangingState, calling,
      first, second⟩ :
      ∃ s, Run (Step unset) (init Nat ⟨true⟩ [])
          chainTrace s ∧
        s.activity (.client 2) = .destructing ∧
        s.queue.call (.client 2) = .joining .destructor ∧ s.queue.joinable = true ∧
        s.queue.worker = .executing (.nearObjectPropertiesChanged [5]) [] ∧
        s.owner .nearObjects = some (.client 0) ∧ s.owner .rangingState = none ∧
        s.activity .worker = .called (.addNearObjects [6]) ∧
        s.activity (.client 0) =
          .posting (.sessionMembershipChanged [7] []) .changeMembership ∧
        s.activity (.client 3) = .posting (.nearObjectPropertiesChanged [8]) .propertiesChanged :=
    ⟨_, run_of_execute rfl, rfl, rfl, rfl, rfl, rfl, rfl, rfl, rfl, rfl⟩
  have holders : Holders s chainHolder := by
    constructor
    · rintro (_ | (_ | _) | _) caller holds
      · exact congrArg some (Eq.symm holds)
      · exact nearObjects.symm.trans holds
      · exact rangingState.symm.trans holds
      · simp [State.Holds, executing] at holds
    · rintro (_ | (_ | _) | _) caller same
      · exact .inl (Option.some.inj same).symm
      · exact .inl (nearObjects.trans same)
      · cases same
      · obtain rfl := Option.some.inj same
        exact .inr (.inl ⟨_, _, second⟩)
  have waits : ¬ s.queue.JoinReturns (.client 2) := by
    simp [TaskQueue.State.JoinReturns, joinable, executing]
  refine ⟨s, run, ⟨.join, ⟨⟨destructing, ⟨_, joining⟩, waits⟩, ?_⟩, rfl⟩,
    ⟨.gate .nearObjects, ⟨⟨_, calling, rfl⟩, ?_⟩, rfl⟩,
    ⟨.queue, ⟨.inl ⟨_, _, first⟩, ?_⟩, rfl⟩, no_deadlock run holders _⟩ <;>
    exact fun same => by cases same

end

end NearObject.Session
