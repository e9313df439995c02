/-
**`NearObjectSession` — every call returns, and every event is handled.**

Here the environment calls the session, wakes the worker spuriously, and lets the callback object
expire. A call pays for the steps of its own code, and for the event or the two that it posts: for
their tasks, and for the stop of the queue where it is the destructor. The rest follows from
`Transition.CallersPay`, over the potential of the session's queue.

At rest (`idle_of_rest`) nobody waits for a gate, since its holder would go on, and the destructor
does not wait for the worker: a callback in a call on the session goes on, too, and the wake-up of
the stop is not lost. The callers that remain are those that use a session after its destruction.
-/

import NearObject.Session.Deadlock
import NearObject.Session.Destruction
import NearObject.TaskQueue.Progress

namespace NearObject.Session

open Transition
open TaskQueue (Caller)

section

variable {Thread Pointer : Type}

/-! ### Costs and savings -/

/-- The stop of the destructor is behind the caller. -/
def closes : TaskQueue.Call → Bool
  | .stopped .destructor | .joining _ | .stopped .stopAndWaitForTaskCompletion => true
  | .stopped .stop | .idle | .pushed => false

/-- What is left of a call after `StopRanging` has returned. -/
def StopRangingSite.debt : StopRangingSite → ℕ
  | .stopRanging => 1
  | .endSession => 11
  | .destructor => 16

/-- What is left of a call after the `post` of a body. -/
def Body.debt : Body → ℕ
  | .changeMembership | .propertiesChanged | .startRanging | .endSession false => 2
  | .stopRanging site => site.debt + 1
  | .endSession true => 7

/-- What is left of a call when it takes its gate. -/
def Operation.debt : Operation Pointer → ℕ
  | .getNearObjects | .isRangingActive => 2
  | .addNearObjects _ | .removeNearObjects _ | .nearObjectPropertiesChanged _ | .startRanging
  | .stopRanging => 12
  | .endSession => 22
  | .destructor => 27

/-- What is left of a call, by its place in the session and in the queue. -/
def debt : Activity Pointer × TaskQueue.Call → ℕ
  | (.idle, _) | (.terminated, _) => 0
  | (.called operation, _) => operation.debt
  | (.posting _ body, _) => body.debt + 9
  | (.posted body, _) => body.debt
  | (.returning _, _) => 1
  | (.destructing, call) => if closes call then 1 else 6

/-- What the environment pays for a step: the step, and all that follows from it. -/
def Label.cost : Label Thread Pointer → ℕ
  | .call _ operation => operation.debt + 1
  | .queue .wakeSpuriously => 3
  | .expire => 1
  | _ => 0

/-- The place of a caller in the session and in its queue. -/
def State.place (s : State Thread Pointer) (caller : Caller Thread) :
    Activity Pointer × TaskQueue.Call :=
  (s.activity caller, s.queue.call caller)

/-- The potential, where the callers are in a list. -/
def State.potential (callers : List (Caller Thread)) (s : State Thread Pointer) : ℕ :=
  s.queue.potential callers + debts debt s.place callers

/-- The caller is in a call on the session, or on its queue. -/
def State.Busy (s : State Thread Pointer) (caller : Caller Thread) : Prop :=
  s.activity caller ≠ .idle ∨ s.queue.call caller ≠ .idle

/-- The caller that takes the step, in the session or in its queue. -/
def Label.mover? : Label Thread Pointer → Option (Caller Thread)
  | .queue move => move.caller?
  | label => label.caller?

theorem site_next_debt (site : StopRangingSite) (call : TaskQueue.Call) :
    debt ((site.next : Activity Pointer), call) = site.debt := by
  cases site <;> rfl

theorem next_debt (body : Body) : debt ((body.next : Activity Pointer), .idle) + 1 = body.debt := by
  cases body with
  | stopRanging site => exact congrArg (· + 1) (site_next_debt site .idle)
  | endSession destructor => cases destructor <;> rfl
  | _ => rfl

theorem thrown_debt (body : Body) (call : TaskQueue.Call) :
    debt ((body.thrown : Activity Pointer), call) = 0 := by
  have nowhere : (body.thrown : Activity Pointer) = .idle ∨ body.thrown = .terminated :=
    thrown_cases body
  rcases nowhere with same | same
  · rw [same]
    rfl
  · rw [same]
    rfl

/-- Where an operation leads has less left than the operation. -/
theorem reaches_debt {operation : Operation Pointer} {activity : Activity Pointer}
    (reaches : Reaches operation activity) (call : TaskQueue.Call) :
    debt (activity, call) + 1 ≤ operation.debt := by
  cases reaches with
  | stopped site => cases site <;> exact Nat.le_refl _
  | inactive site =>
    rw [site_next_debt]
    cases site <;> exact Nat.le_of_ble_eq_true rfl
  | _ => exact Nat.le_of_ble_eq_true rfl

theorem closes_afterStop (site : TaskQueue.StopSite) :
    closes site.afterStop = closes (.stopped site) := by
  cases site <;> rfl

end

section

variable {Thread Pointer Value : Type} [DecidableEq Thread] [DecidableEq Pointer] [BEq Value]
  {spatialProperties : Pointer → NearObjectSpatialProperties Value} {s t : State Thread Pointer}
  {callers : List (Caller Thread)}

/-! ### The potential pays -/

/-- Only its own steps move a caller. -/
theorem place_frame {label : Label Thread Pointer} {other : Caller Thread}
    (taken : Step spatialProperties s label t) (elsewhere : label.mover? ≠ some other) :
    t.place other = s.place other := by
  have activity : t.activity other = s.activity other := by
    refine activity_frame taken fun own => elsewhere ?_
    cases label with
    | queue move => cases move <;> first | exact own | cases own
    | _ => exact own
  have call : t.queue.call other = s.queue.call other := by
    rcases queue_cases taken with ⟨-, same⟩ | ⟨move, steps, moved, -⟩
    · rw [same]
    · refine TaskQueue.call_frame moved fun own => ?_
      cases label with
      | queue move' =>
        obtain rfl := List.singleton_inj.mp steps
        exact elsewhere own
      | deliver event =>
        obtain rfl := List.singleton_inj.mp steps
        cases own
      | drop event =>
        obtain rfl := List.singleton_inj.mp steps
        cases own
      | _ => cases steps
  rw [State.place, activity, call]
  rfl

/-- A caller that moves changes its own share of the debts. -/
theorem place_debts {label : Label Thread Pointer} {caller : Caller Thread}
    (taken : Step spatialProperties s label t) (own : label.mover? = some caller)
    (once : callers.Nodup) (among : Among Label.mover? callers label) :
    debts debt t.place callers + debt (s.place caller) =
      debts debt s.place callers + debt (t.place caller) :=
  debts_move once (among caller own) fun _ different =>
    place_frame taken fun same => different (Option.some.inj (own.symm.trans same)).symm

/-- Nobody moves. -/
theorem place_still {label : Label Thread Pointer} (callers : List (Caller Thread))
    (taken : Step spatialProperties s label t) (nobody : label.mover? = none) :
    debts debt t.place callers = debts debt s.place callers :=
  debts_congr fun caller _ => place_frame taken (by simp [nobody])

/-- A notification leaves the caller before or after the stop of the destructor, as it was. -/
theorem notify_debt {queue : TaskQueue.State Thread (Event Pointer)}
    {caller : Caller Thread} {activity : Activity Pointer}
    (moved : TaskQueue.Step s.queue (.notify caller) queue) :
    debt (activity, queue.call caller) = debt (activity, s.queue.call caller) := by
  have closed : closes (queue.call caller) = closes (s.queue.call caller) := by
    obtain ⟨pushed, rfl⟩ | ⟨site, stopped, rfl⟩ := TaskQueue.step_notify.mp moved
    · rw [TaskQueue.setCall_call_self, pushed]
      rfl
    · rw [TaskQueue.setCall_call_self, stopped, closes_afterStop]
  cases activity with
  | destructing => rw [debt, debt, closed]
  | _ => rfl

/-- A step of one caller, by what the queue has left and the caller. -/
theorem potential_of_move {label : Label Thread Pointer} {caller : Caller Thread} {paid : ℕ}
    {before after : Activity Pointer} (taken : Step spatialProperties s label t)
    (own : label.mover? = some caller) (once : callers.Nodup)
    (among : Among Label.mover? callers label) (was : s.activity caller = before)
    (becomes : t.activity caller = after)
    (enough : t.queue.potential callers + debt (after, t.queue.call caller) + 1 ≤
      s.queue.potential callers + debt (before, s.queue.call caller) + paid) :
    t.potential callers + 1 ≤ s.potential callers + paid := by
  have share := place_debts taken own once among
  rw [State.place, State.place, was, becomes] at share
  unfold State.potential
  omega

/-- A step of nobody, by what the queue has left. -/
theorem potential_of_still {label : Label Thread Pointer} {paid : ℕ}
    (taken : Step spatialProperties s label t) (nobody : label.mover? = none)
    (enough : t.queue.potential callers + 1 ≤ s.queue.potential callers + paid) :
    t.potential callers + 1 ≤ s.potential callers + paid := by
  have still := place_still callers taken nobody
  unfold State.potential
  omega

/-- The steps of the session's queue. -/
theorem potential_queue {move : TaskQueue.Label Thread (Event Pointer)} (once : callers.Nodup)
    (among : Among Label.mover? callers (.queue move))
    (taken : Step spatialProperties s (.queue move) t) :
    t.potential callers + 1 ≤ s.potential callers + (Label.queue move).cost := by
  obtain ⟨followed, queue, follows, moved, rfl⟩ := step_queue.mp taken
  have paid := TaskQueue.potential_step once among moved
  cases move with
  | post caller event =>
    obtain ⟨body, posting, rfl⟩ := follow_post.mp follows
    refine potential_of_move taken rfl once among posting (setActivity_self ..) ?_
    change queue.potential callers + body.debt + 1 ≤ _ + (body.debt + 9) + 0
    change _ ≤ _ + 9 at paid
    omega
  | refuse caller event =>
    obtain ⟨body, posting, rfl⟩ := follow_refuse.mp follows
    refine potential_of_move taken rfl once among posting (setActivity_self ..) ?_
    rw [thrown_debt]
    change queue.potential callers + 0 + 1 ≤ _ + (body.debt + 9) + 0
    change _ ≤ _ + 1 at paid
    omega
  | stop caller action site =>
    obtain ⟨⟨destructing, -, rfl⟩, rfl⟩ := Option.ite_some_none_eq_some.mp follows
    obtain ⟨⟨-, -, idle, -⟩, -, rfl⟩ := TaskQueue.step_stop.mp moved
    refine potential_of_move taken rfl once among destructing destructing ?_
    rw [TaskQueue.setCall_call_self, idle]
    change TaskQueue.State.potential callers _ + 1 + 1 ≤ _ + 6 + 0
    exact Nat.add_le_add_right paid 1
  | notify caller =>
    obtain rfl := follow_same follows (by simp) (by simp) (by simp)
    refine potential_of_move taken rfl once among rfl rfl ?_
    rw [notify_debt moved]
    change queue.potential callers + debt (followed.activity caller, _) + 1 ≤ _ + 0
    change _ ≤ _ + 0 at paid
    omega
  | join caller =>
    obtain ⟨destructing, rfl⟩ := follow_join.mp follows
    obtain ⟨site, joining, -, rfl⟩ := TaskQueue.step_join.mp moved
    refine potential_of_move taken rfl once among destructing (setActivity_self ..) ?_
    rw [joining]
    change TaskQueue.State.potential callers _ + 1 + 1 ≤ _ + 1 + 0
    exact Nat.add_le_add_right paid 1
  | _ => exact potential_of_still taken rfl paid

/-- **Every step is paid for.** -/
theorem potential_step {label : Label Thread Pointer} (once : callers.Nodup)
    (among : Among Label.mover? callers label) (taken : Step spatialProperties s label t) :
    t.potential callers + 1 ≤ s.potential callers + label.cost := by
  cases label with
  | call caller operation =>
    obtain ⟨⟨-, -, idle, -⟩, rfl⟩ := step_call.mp taken
    refine potential_of_move taken rfl once among idle (setActivity_self ..) ?_
    change _ + operation.debt + 1 ≤ _ + 0 + (operation.debt + 1)
    exact Nat.le_refl _
  | enter caller =>
    obtain ⟨operation, called, entered⟩ := step_enter.mp taken
    refine potential_of_move taken rfl once among called rfl ?_
    have less := reaches_debt (reaches_of_enter entered) (s.queue.call caller)
    rw [enter_queue entered]
    change _ ≤ _ + operation.debt + 0
    omega
  | leave caller =>
    obtain ⟨body, posted, idle, rfl⟩ := step_leave.mp taken
    refine potential_of_move taken rfl once among posted (setActivity_self ..) ?_
    have less : debt ((body.next : Activity Pointer), .idle) + 1 = body.debt := next_debt body
    rw [setActivity_queue, release_queue, idle]
    change _ ≤ _ + body.debt + 0
    omega
  | «return» caller result =>
    obtain ⟨returning, rfl⟩ := step_return.mp taken
    exact potential_of_move taken rfl once among returning (setActivity_self ..) (Nat.le_refl _)
  | queue move => exact potential_queue once among taken
  | deliver event =>
    obtain ⟨-, queue, moved, rfl⟩ := step_deliver.mp taken
    refine potential_of_still taken rfl ?_
    exact TaskQueue.potential_step once (fun _ own => by cases own) moved
  | drop event =>
    obtain ⟨-, queue, moved, rfl⟩ := step_drop.mp taken
    refine potential_of_still taken rfl ?_
    exact TaskQueue.potential_step once (fun _ own => by cases own) moved
  | expire =>
    obtain rfl := step_expire.mp taken
    exact potential_of_still taken rfl (Nat.le_refl _)

/-- A step without a cost is one of the worker's loop, or of a caller that is in a call. -/
theorem busy_of_free {label : Label Thread Pointer} {caller : Caller Thread}
    (taken : Step spatialProperties s label t) (free : label.cost = 0)
    (own : label.mover? = some caller) : s.Busy caller := by
  by_contra idle
  obtain ⟨nowhere, outside⟩ := not_or.mp idle
  rw [not_not] at nowhere outside
  cases label with
  | call other operation => cases free
  | enter other =>
    cases own
    obtain ⟨operation, called, -⟩ := step_enter.mp taken
    rw [nowhere] at called
    cases called
  | leave other =>
    cases own
    obtain ⟨body, posted, -⟩ := step_leave.mp taken
    rw [nowhere] at posted
    cases posted
  | «return» other result =>
    cases own
    obtain ⟨returning, -⟩ := step_return.mp taken
    rw [nowhere] at returning
    cases returning
  | queue move =>
    obtain ⟨followed, queue, follows, moved, -⟩ := step_queue.mp taken
    cases move with
    | post other event =>
      cases own
      obtain ⟨body, posting, -⟩ := follow_post.mp follows
      rw [nowhere] at posting
      cases posting
    | refuse other event =>
      cases own
      obtain ⟨body, posting, -⟩ := follow_refuse.mp follows
      rw [nowhere] at posting
      cases posting
    | stop other action site =>
      cases own
      obtain ⟨destructing, -⟩ := (Option.ite_some_none_eq_some.mp follows).1
      rw [nowhere] at destructing
      cases destructing
    | notify other => exact TaskQueue.busy_of_free moved rfl own outside
    | join other => exact TaskQueue.busy_of_free moved rfl own outside
    | _ => cases own
  | _ => cases own

theorem callersPay : CallersPay (Step spatialProperties) Label.mover? State.Busy
    (fun callers (s : State Thread Pointer) => s.potential callers) Label.cost where
  frame := fun s label t caller taken elsewhere idle => by
    have same := place_frame taken elsewhere
    rw [State.place, State.place, Prod.mk.injEq] at same
    rwa [State.Busy, same.1, same.2]
  free := fun _ _ _ _ taken free own => busy_of_free taken free own
  pays := fun _ _ _ _ once among taken => potential_step once among taken

omit [DecidableEq Thread] [DecidableEq Pointer] in
theorem potential_init (capabilities : NearObjectCapabilities) (initial : List Pointer)
    (callers : List (Caller Thread)) :
    (init Thread capabilities initial).potential callers = 3 := by
  have free : debts debt (init Thread capabilities initial).place callers = 0 :=
    debts_eq_zero fun _ => rfl
  rw [State.potential, free]
  exact TaskQueue.potential_init callers

/-! ### The stop of the destructor -/

/-- Only the destructor stops and joins. -/
def State.Stops (s : State Thread Pointer) : Prop :=
  ∀ caller site, s.queue.call caller = .stopped site ∨ s.queue.call caller = .joining site →
    s.activity caller = .destructing

omit [DecidableEq Thread] [DecidableEq Pointer] in
/-- A step of one caller on the queue is a label of the queue. -/
theorem mover_of_queueSteps {label : Label Thread Pointer} {caller : Caller Thread}
    {move : TaskQueue.Label Thread (Event Pointer)} (own : label.mover? = some caller)
    (steps : queueSteps label = [move]) : move.caller? = some caller := by
  cases label with
  | queue other =>
    obtain rfl := List.singleton_inj.mp steps
    exact own
  | deliver event => cases own
  | drop event => cases own
  | _ => cases steps

theorem stops_step {label : Label Thread Pointer} (taken : Step spatialProperties s label t)
    (stops : s.Stops) : t.Stops := by
  intro caller site inside
  have destructing : s.activity caller = .destructing := by
    by_cases own : label.mover? = some caller
    · rcases queue_cases taken with ⟨-, same⟩ | ⟨move, steps, moved, stop, -⟩
      · exact stops caller site (same ▸ inside)
      · rcases TaskQueue.stop_of_step moved (mover_of_queueSteps own steps) inside with
          ⟨action, within, now⟩ | ⟨within, before⟩
        · exact (stop caller action within now).1
        · exact stops caller within before
    · have same := place_frame taken own
      rw [State.place, State.place, Prod.mk.injEq] at same
      exact stops caller site (same.2 ▸ inside)
  rcases destructing_step taken destructing with still | rfl
  · exact still
  · -- the join ends the stop
    obtain ⟨followed, queue, -, moved, rfl⟩ := step_queue.mp taken
    obtain ⟨within, -, -, rfl⟩ := TaskQueue.step_join.mp moved
    simp at inside

/-- No exception leaves the destructor. -/
theorem not_terminated_step {label : Label Thread Pointer} {caller : Caller Thread}
    (settled : Settled s) (closing : Closing s) (taken : Step spatialProperties s label t)
    (before : s.activity caller ≠ .terminated) : t.activity caller ≠ .terminated := by
  by_cases own : label.caller? = some caller
  · have moves := moves_of_step taken own
    generalize place : s.activity caller = earlier at moves
    generalize t.activity caller = after at moves
    cases moves with
    | refuse event body =>
      obtain ⟨followed, queue, follows, moved, -⟩ := step_queue.mp taken
      obtain ⟨⟨-, present, -⟩, pending, -⟩ := TaskQueue.step_refuse.mp moved
      intro thrown
      have destroys : (s.activity caller).Destroys := by
        rw [place]
        cases body with
        | stopRanging site => cases site <;> trivial
        | endSession destructor => cases destructor <;> trivial
        | _ => cases thrown
      -- the queue is stopped by the destructor alone, which is past this body then
      rcases closing.stopping pending with destroyed | ⟨other, destructing⟩
      · rw [present] at destroyed
        cases destroyed
      · have same := settled.destroyer.unique caller other destroys (by rw [destructing]; trivial)
        rw [same, destructing] at place
        cases place
    | enter reaches =>
      cases reaches with
      | inactive site => cases site <;> simp [StopRangingSite.next]
      | _ => simp
    | leave body =>
      cases body with
      | stopRanging site => cases site <;> simp [Body.next, StopRangingSite.next]
      | endSession destructor => cases destructor <;> simp [Body.next]
      | _ => simp [Body.next]
    | _ => simp
  · rwa [activity_frame taken own]

variable {capabilities : NearObjectCapabilities} {initial : List Pointer}
  {trace : List (Label Thread Pointer)}

/-- What a state at rest is known by. -/
structure Reached (s : State Thread Pointer) : Prop where
  consistent : Consistent s
  settled : Settled s
  closing : Closing s
  stops : s.Stops
  present : ∀ caller, s.activity caller ≠ .terminated
  covered : (TaskQueue.waitPoint Thread (Event Pointer)).Covered s.queue
  stopping : TaskQueue.Stopping s.queue

theorem reached_run
    (run : Run (Step spatialProperties) (init Thread capabilities initial) trace s) :
    Reached s where
  consistent := consistent_run run
  settled := settled_run run
  closing := closing_run run
  stops := run.invariant State.Stops (fun _ _ => by simp [init, TaskQueue.init])
    fun _ _ _ stops taken => stops_step taken stops
  present := fun caller => run.history (fun _ s => s.activity caller ≠ .terminated) (by simp [init])
    fun _ _ _ _ before present taken =>
      not_terminated_step (settled_run before) (closing_run before) taken present
  covered := TaskQueue.covered_run (refines_queue.run run)
  stopping := TaskQueue.stopping_run (refines_queue.run run)

/-! ### Rest -/

/-- A state at rest takes no step of itself. -/
theorem not_step_of_rest (rest : AtRest (Step spatialProperties) Label.cost s)
    {label : Label Thread Pointer} (free : label.cost = 0) : ¬ Step spatialProperties s label t :=
  fun taken => rest label t ⟨free, taken⟩

/-- At rest the queue takes none of the steps that the session leaves to it. -/
theorem not_queue_of_rest (rest : AtRest (Step spatialProperties) Label.cost s)
    {move : TaskQueue.Label Thread (Event Pointer)} {queue : TaskQueue.State Thread (Event Pointer)}
    (free : (Label.queue move).cost = 0) {followed : State Thread Pointer}
    (follows : s.follow move = some followed) : ¬ TaskQueue.Step s.queue move queue :=
  fun moved => not_step_of_rest rest free (step_queue.mpr ⟨followed, queue, follows, moved, rfl⟩)

/-- At rest a caller is in no call on the queue, or it is the destructor in its join. -/
theorem call_of_rest (rest : AtRest (Step spatialProperties) Label.cost s) (stops : s.Stops)
    (caller : Caller Thread) :
    s.queue.call caller = .idle ∨ (s.activity caller = .destructing ∧
      (∃ site, s.queue.call caller = .joining site) ∧ s.queue.worker ≠ .exited) := by
  cases place : s.queue.call caller with
  | idle => exact .inl rfl
  | pushed =>
    exact absurd (TaskQueue.step_notify.mpr (.inl ⟨place, rfl⟩)) (not_queue_of_rest rest rfl rfl)
  | stopped site =>
    exact absurd (TaskQueue.step_notify.mpr (.inr ⟨site, place, rfl⟩))
      (not_queue_of_rest rest rfl rfl)
  | joining site =>
    have destructing := stops caller site (.inr place)
    refine .inr ⟨destructing, ⟨site, rfl⟩, fun left => ?_⟩
    exact not_queue_of_rest rest rfl (follow_join.mpr ⟨destructing, rfl⟩)
      (TaskQueue.step_join.mpr ⟨site, place, .inr (.inr left), rfl⟩)

/-- A caller outside the join may call the queue, where it exists. -/
theorem mayCall_of_rest (reached : Reached s) (rest : AtRest (Step spatialProperties) Label.cost s)
    (present : s.queue.destroyed = false) {caller : Caller Thread}
    (idle : s.queue.call caller = .idle) (inside : s.activity caller ≠ .idle) :
    s.queue.MayCall caller := by
  refine ⟨?_, present, idle, fun waiting => ?_, fun worker => ?_⟩
  · by_contra fresh
    exact not_queue_of_rest rest rfl rfl
      (TaskQueue.step_construct.mpr ⟨Bool.eq_false_iff.mpr fresh, rfl⟩)
  · exact not_queue_of_rest rest rfl rfl (TaskQueue.step_sleep.mpr ⟨waiting, rfl⟩)
  · exact reached.settled.idle (worker ▸ inside)

/-- A caller in a body is in no call on the queue at rest. -/
theorem idle_of_body (reached : Reached s) (rest : AtRest (Step spatialProperties) Label.cost s)
    {caller : Caller Thread} {activity : Activity Pointer} (place : s.activity caller = activity)
    (body : activity ≠ .destructing) : s.queue.call caller = .idle :=
  (call_of_rest rest reached.stops caller).resolve_right fun joins => body (place ▸ joins.1)

theorem not_posting_of_rest (reached : Reached s)
    (rest : AtRest (Step spatialProperties) Label.cost s) (present : s.queue.destroyed = false)
    {caller : Caller Thread} {event : Event Pointer} {body : Body} :
    s.activity caller ≠ .posting event body := by
  intro posting
  have idle := idle_of_body reached rest posting (by simp)
  have may := mayCall_of_rest reached rest present idle (by simp [posting])
  cases pending : s.queue.members.isStopPending with
  | true =>
    exact not_queue_of_rest rest rfl (follow_refuse.mpr ⟨body, posting, rfl⟩)
      (TaskQueue.step_refuse.mpr ⟨may, pending, rfl⟩)
  | false =>
    exact not_queue_of_rest rest rfl (follow_post.mpr ⟨body, posting, rfl⟩)
      (TaskQueue.step_post.mpr ⟨may, pending, rfl⟩)

theorem not_posted_of_rest (reached : Reached s)
    (rest : AtRest (Step spatialProperties) Label.cost s) {caller : Caller Thread} {body : Body} :
    s.activity caller ≠ .posted body := by
  intro posted
  have idle := idle_of_body reached rest posted (by simp)
  exact not_step_of_rest rest rfl (step_leave.mpr ⟨body, posted, idle, rfl⟩)

/-- At rest the gates are free: whoever holds one goes on. -/
theorem free_of_rest (reached : Reached s) (rest : AtRest (Step spatialProperties) Label.cost s)
    (present : s.queue.destroyed = false) (gate : Gate) : s.owner gate = none := by
  rw [Option.eq_none_iff_forall_ne_some]
  intro caller holds
  rcases posting_of_owner reached.consistent holds with ⟨event, body, posting⟩ | ⟨body, posted⟩
  · exact not_posting_of_rest reached rest present posting
  · exact not_posted_of_rest reached rest posted

/-- An operation is entered where the gates are free. -/
theorem enter_of_free (spatialProperties : Pointer → NearObjectSpatialProperties Value)
    (free : ∀ gate, s.owner gate = none) (caller : Caller Thread) (operation : Operation Pointer) :
    ∃ t, s.enter spatialProperties caller operation = some t := by
  cases operation <;> simp [State.enter, State.lock, free]

/-- At rest a caller is in no call, or it is the destructor in its join. -/
theorem activity_of_rest (reached : Reached s)
    (rest : AtRest (Step spatialProperties) Label.cost s) (present : s.queue.destroyed = false)
    (caller : Caller Thread) : s.activity caller = .idle ∨ (s.activity caller = .destructing ∧
      (∃ site, s.queue.call caller = .joining site) ∧ s.queue.worker ≠ .exited) := by
  cases place : s.activity caller with
  | idle => exact .inl rfl
  | called operation =>
    obtain ⟨t, entered⟩ := enter_of_free spatialProperties (free_of_rest reached rest present)
      caller operation
    exact absurd (step_enter.mpr ⟨operation, place, entered⟩) (not_step_of_rest rest rfl)
  | posting event body => exact absurd place (not_posting_of_rest reached rest present)
  | posted body => exact absurd place (not_posted_of_rest reached rest)
  | returning result =>
    exact absurd (step_return.mpr ⟨place, rfl⟩) (not_step_of_rest rest rfl)
  | terminated => exact absurd place (reached.present caller)
  | destructing =>
    rcases call_of_rest rest reached.stops caller with idle | ⟨-, joining⟩
    · have client := reached.settled.destroyer.client caller (by rw [place]; trivial)
      have may := mayCall_of_rest reached rest present idle (by simp [place])
      have stops : TaskQueue.Step s.queue (.stop caller .run .destructor) _ :=
        TaskQueue.step_stop.mpr ⟨may, ⟨.inr rfl, fun _ => client⟩, rfl⟩
      have follows : s.follow (.stop caller .run .destructor) = some s :=
        Option.ite_some_none_eq_some.mpr ⟨⟨place, rfl, rfl⟩, rfl⟩
      exact absurd stops (not_queue_of_rest rest rfl follows)
    · exact .inr ⟨rfl, joining⟩

/-- **At rest the queue of the session is at rest**: the session takes every step that it has. -/
theorem queue_rest (reached : Reached s) (rest : AtRest (Step spatialProperties) Label.cost s)
    (outside : s.activity .worker = .idle) :
    AtRest TaskQueue.Step TaskQueue.Label.cost s.queue := by
  rintro move queue ⟨free, moved⟩
  cases move with
  | post caller event => cases free
  | refuse caller event => cases free
  | stop caller action site => cases free
  | wakeSpuriously => cases free
  | begin event =>
    cases alive : s.callbacksAlive with
    | true => exact not_step_of_rest rest rfl (step_deliver.mpr ⟨alive, queue, moved, rfl⟩)
    | false => exact not_step_of_rest rest rfl (step_drop.mpr ⟨alive, queue, moved, rfl⟩)
  | finish event outcome =>
    have follows : s.follow (.finish event outcome) = some s :=
      Option.ite_some_none_eq_some.mpr ⟨outside, rfl⟩
    exact not_queue_of_rest rest rfl follows moved
  | join caller =>
    obtain ⟨site, joining, -⟩ := TaskQueue.step_join.mp moved
    have destructing := reached.stops caller site (.inr joining)
    exact not_queue_of_rest rest rfl (follow_join.mpr ⟨destructing, rfl⟩) moved
  | _ => exact not_queue_of_rest rest rfl rfl moved

/-- **At rest nobody is in a call on a session that exists**, and its worker is blocked. -/
theorem idle_of_rest (reached : Reached s) (rest : AtRest (Step spatialProperties) Label.cost s)
    (present : s.queue.destroyed = false) :
    (∀ caller, s.activity caller = .idle) ∧ s.queue.worker = .blocked ∧
      s.queue.members.runnables = [] := by
  have outside : s.activity .worker = .idle :=
    (activity_of_rest reached rest present .worker).resolve_right fun destructing =>
      reached.settled.destroyer.client .worker (by rw [destructing.1]; trivial) rfl
  have quiet := TaskQueue.quiet_of_rest reached.covered reached.stopping
    (queue_rest reached rest outside)
  have idle (caller : Caller Thread) : s.activity caller = .idle := by
    refine (activity_of_rest reached rest present caller).resolve_right ?_
    rintro ⟨-, ⟨site, joining⟩, -⟩
    rw [quiet.idle caller] at joining
    cases joining
  have inside : s.queue.worker ≠ .exited := by
    intro left
    have pending : s.queue.members.isStopPending = true := by
      simp [TaskQueue.Members.isStopPending, (reached.settled.drained.left left).1]
    rcases reached.closing.stopping pending with destroyed | ⟨caller, destructing⟩
    · rw [present] at destroyed
      cases destroyed
    · rw [idle caller] at destructing
      cases destructing
  obtain ⟨blocked, empty, -⟩ := quiet.worker.resolve_left inside
  exact ⟨idle, blocked, empty⟩

/-- **The session comes to rest.** A run is no longer than what its calls, spurious wake-ups and the
expiry of the callback object cost; from the state it reaches, the threads come to rest by
themselves; and at rest every event posted has been handled to its end, and nobody is in a call on
the session unless it has been destroyed. -/
theorem session_comes_to_rest
    (run : Run (Step spatialProperties) (init Thread capabilities initial) trace s) :
    trace.length ≤ 3 + total Label.cost trace ∧
      (∃ rest t, Run (Internal (Step spatialProperties) Label.cost) s rest t ∧
        AtRest (Step spatialProperties) Label.cost t) ∧
      (AtRest (Step spatialProperties) Label.cost s →
        handled trace = posted trace ∧ TaskQueue.finished (queueTrace trace) = posted trace ∧
        (s.queue.destroyed = false → ∀ caller, s.activity caller = .idle)) := by
  have idle : ∀ caller, ¬ (init Thread capabilities initial).Busy caller := by
    rintro caller (inside | inside) <;> exact inside rfl
  refine ⟨callersPay.length_le idle (fun callers => Nat.le_of_eq (potential_init _ _ callers)) run,
    callersPay.comes_to_rest idle run, fun rest => ?_⟩
  have reached := reached_run run
  cases destroyed : s.queue.destroyed with
  | true =>
    obtain ⟨handled, finished⟩ := handled_of_exited run (reached.closing.left destroyed)
    exact ⟨handled, finished, fun present => by cases present⟩
  | false =>
    obtain ⟨nobody, blocked, empty⟩ := idle_of_rest reached rest destroyed
    have conserved := handled_pending run
    have serial := TaskQueue.begun_eq_finished (refines_queue.run run)
    have nothing : s.queue.pending = [] := by
      simp [TaskQueue.State.pending, blocked, empty, TaskQueue.Worker.batch]
    have none : s.queue.worker.current.toList = [] := by rw [blocked]; rfl
    rw [nothing, List.append_nil] at conserved
    rw [none, List.append_nil] at serial
    exact ⟨conserved, serial.symm.trans conserved, fun _ => nobody⟩

/-- A client adds a near object, the callback starts ranging, and another client destroys the
session meanwhile. -/
def restingTrace : List (Label Nat Nat) :=
  [.queue .construct, .call (.client 0) (.addNearObjects [7]), .enter (.client 0),
    .queue (.post (.client 0) (.sessionMembershipChanged [7] [])), .queue (.notify (.client 0)),
    .leave (.client 0), .return (.client 0) .unit, .queue .evaluate, .queue .announce,
    .deliver (.sessionMembershipChanged [7] []), .call .worker .startRanging, .enter .worker,
    .call (.client 1) .destructor, .queue (.post .worker .rangingStarted),
    .queue (.notify .worker), .leave .worker, .enter (.client 1),
    .return .worker (.status .running),
    .queue (.post (.client 1) .rangingStopped), .leave (.client 1),
    .queue (.post (.client 1) .sessionEnded), .leave (.client 1),
    .queue (.stop (.client 1) .run .destructor)]

theorem session_comes_to_rest_destroyed :
    ∃ s, Run (Step unset) (init Nat ⟨true⟩ []) restingTrace s ∧
      s.activity (.client 1) = .destructing ∧
      restingTrace.length ≤ 3 + total Label.cost restingTrace ∧
      ∃ rest t, Run (Internal (Step unset) Label.cost) s rest t ∧
        AtRest (Step unset) Label.cost t ∧
        handled (restingTrace ++ rest) = posted (restingTrace ++ rest) ∧
        TaskQueue.finished (queueTrace (restingTrace ++ rest)) = posted (restingTrace ++ rest) := by
  have run : Run (Step unset) (init Nat ⟨true⟩ []) restingTrace _ := run_of_execute rfl
  obtain ⟨short, ⟨rest, t, rests, atRest⟩, -⟩ := session_comes_to_rest run
  obtain ⟨handled, finished, -⟩ :=
    (session_comes_to_rest (run.append rests.unrestrict)).2.2 atRest
  exact ⟨_, run, rfl, short, rest, t, rests, atRest, handled, finished⟩

end

end NearObject.Session
