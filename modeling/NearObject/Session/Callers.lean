/-
**`NearObjectSession` — the callers, one by one.**

A step moves the caller of its label and no other (`activity_frame`), along the code of the call
that it is in (`Moves`). What holds of one caller is therefore a statement about `Moves` alone. What
else a step leaves alone is a `Frame`. In every state (`Settled`):

* `Destroyer` — one caller at a time is in the destructor, and it is not a callback.
* `WorkerIdle` — outside a task, the worker is in no call on the session.
* `TaskQueue.Drained` — only the destructor stops the queue, and it lets the pending tasks run.
-/

import NearObject.Session.Steps
import NearObject.TaskQueue.Drain

namespace NearObject.Session

open Transition
open TaskQueue (Caller)

/-! ### The code of a call -/

section Code

variable {Thread Pointer : Type}

/-- The operation in which `StopRanging` runs at this site. -/
def StopRangingSite.operation : StopRangingSite → Operation Pointer
  | .stopRanging => .stopRanging
  | .endSession => .endSession
  | .destructor => .destructor

/-- **Where an operation leads** when it has taken its gate: to the `post` of its event, or out of
its body. -/
inductive Reaches : Operation Pointer → Activity Pointer → Prop
  | added (nearObjectsToAdd added : List Pointer) :
      Reaches (.addNearObjects nearObjectsToAdd)
        (.posting (.sessionMembershipChanged added []) .changeMembership)
  | removed (nearObjectsToRemove removed : List Pointer) :
      Reaches (.removeNearObjects nearObjectsToRemove)
        (.posting (.sessionMembershipChanged [] removed) .changeMembership)
  | got (nearObjects : List Pointer) :
      Reaches .getNearObjects (.returning (.nearObjects nearObjects))
  | changed (nearObject : Pointer) :
      Reaches (.nearObjectPropertiesChanged nearObject)
        (.posting (.nearObjectPropertiesChanged [nearObject]) .propertiesChanged)
  | started : Reaches .startRanging (.posting .rangingStarted .startRanging)
  | notStarted (status : RangingSessionStatus) (other : status ≠ .running) :
      Reaches .startRanging (.returning (.status status))
  | active (active : Bool) : Reaches .isRangingActive (.returning (.active active))
  | stopped (site : StopRangingSite) :
      Reaches site.operation (.posting .rangingStopped (.stopRanging site))
  | inactive (site : StopRangingSite) : Reaches site.operation site.next

/-- **How a caller moves**, by the labels that are its own. -/
inductive Moves (caller : Caller Thread) :
    Activity Pointer → Label Thread Pointer → Activity Pointer → Prop
  | call (operation : Operation Pointer) :
      Moves caller .idle (.call caller operation) (.called operation)
  | enter {operation : Operation Pointer} {activity : Activity Pointer}
      (reaches : Reaches operation activity) :
      Moves caller (.called operation) (.enter caller) activity
  | post (event : Event Pointer) (body : Body) :
      Moves caller (.posting event body) (.queue (.post caller event)) (.posted body)
  | refuse (event : Event Pointer) (body : Body) :
      Moves caller (.posting event body) (.queue (.refuse caller event)) body.thrown
  | leave (body : Body) : Moves caller (.posted body) (.leave caller) body.next
  | join : Moves caller .destructing (.queue (.join caller)) (.returning .unit)
  | return (result : Result Pointer) :
      Moves caller (.returning result) (.return caller result) .idle

/-- The caller that a label moves. -/
def Label.caller? : Label Thread Pointer → Option (Caller Thread)
  | .call caller _ | .enter caller | .leave caller | .return caller _ => some caller
  | .queue (.post caller _) | .queue (.refuse caller _) | .queue (.join caller) => some caller
  | _ => none

/-- A caller is in the destructor. -/
def Activity.Destroys : Activity Pointer → Prop
  | .called .destructor | .posting _ (.stopRanging .destructor) | .posted (.stopRanging .destructor)
  | .posting _ (.endSession true) | .posted (.endSession true) | .destructing => True
  | _ => False

end Code

section

variable {Thread Pointer Value : Type} [DecidableEq Thread] [DecidableEq Pointer] [BEq Value]
  {spatialProperties : Pointer → NearObjectSpatialProperties Value} {s t : State Thread Pointer}

omit [DecidableEq Pointer] in
theorem setActivity_of_ne {caller other : Caller Thread} (different : other ≠ caller)
    (activity : Activity Pointer) :
    (s.setActivity caller activity).activity other = s.activity other :=
  Function.update_of_ne different ..

theorem enter_activity {caller other : Caller Thread} {operation : Operation Pointer}
    (entered : s.enter spatialProperties caller operation = some t) (different : other ≠ caller) :
    t.activity other = s.activity other := by
  cases entered_of_enter entered <;> exact setActivity_of_ne different _

/-- Only a caller's own steps move it. -/
theorem activity_frame {label : Label Thread Pointer} {other : Caller Thread}
    (taken : Step spatialProperties s label t) (elsewhere : label.caller? ≠ some other) :
    t.activity other = s.activity other := by
  have different {caller : Caller Thread} (own : label.caller? = some caller) : other ≠ caller :=
    fun same => elsewhere (same ▸ own)
  cases label with
  | call caller operation =>
    obtain ⟨-, rfl⟩ := step_call.mp taken
    exact setActivity_of_ne (different rfl) _
  | enter caller =>
    obtain ⟨operation, -, entered⟩ := step_enter.mp taken
    exact enter_activity entered (different rfl)
  | leave caller =>
    obtain ⟨body, -, -, rfl⟩ := step_leave.mp taken
    rw [setActivity_of_ne (different rfl), release_activity]
  | «return» caller result =>
    obtain ⟨-, rfl⟩ := step_return.mp taken
    exact setActivity_of_ne (different rfl) _
  | queue move =>
    obtain ⟨followed, queue, follows, -, rfl⟩ := step_queue.mp taken
    show followed.activity other = _
    cases move with
    | post caller event =>
      obtain ⟨body, -, rfl⟩ := follow_post.mp follows
      exact setActivity_of_ne (different rfl) _
    | refuse caller event =>
      obtain ⟨body, -, rfl⟩ := follow_refuse.mp follows
      rw [setActivity_of_ne (different rfl), release_activity]
    | join caller =>
      obtain ⟨-, rfl⟩ := follow_join.mp follows
      exact setActivity_of_ne (different rfl) _
    | _ =>
      obtain rfl := follow_same follows (by simp) (by simp) (by simp)
      rfl
  | deliver event =>
    obtain ⟨-, queue, -, rfl⟩ := step_deliver.mp taken
    rfl
  | drop event =>
    obtain ⟨-, queue, -, rfl⟩ := step_drop.mp taken
    rfl
  | expire =>
    obtain rfl := step_expire.mp taken
    rfl

omit [DecidableEq Pointer] in
theorem reaches_stopRanging {caller : Caller Thread} (site : StopRangingSite)
    (entered : (s.lock .rangingState caller).map (fun s => s.stopRanging caller site) = some t) :
    Reaches site.operation (t.activity caller) := by
  obtain ⟨locked, -, rfl⟩ := Option.map_eq_some_iff.mp entered
  unfold State.stopRanging
  split
  · rw [setActivity_self]
    exact .stopped site
  · rw [setActivity_self]
    exact .inactive site

theorem reaches_of_enter {caller : Caller Thread} {operation : Operation Pointer}
    (entered : s.enter spatialProperties caller operation = some t) :
    Reaches operation (t.activity caller) := by
  cases operation with
  | addNearObjects nearObjectsToAdd =>
    obtain ⟨locked, -, rfl⟩ := Option.map_eq_some_iff.mp entered
    rw [setActivity_self]
    exact .added ..
  | removeNearObjects nearObjectsToRemove =>
    obtain ⟨locked, -, rfl⟩ := Option.map_eq_some_iff.mp entered
    rw [setActivity_self]
    exact .removed ..
  | getNearObjects =>
    obtain ⟨-, rfl⟩ := Option.ite_some_none_eq_some.mp entered
    rw [setActivity_self]
    exact .got _
  | nearObjectPropertiesChanged nearObjectChanged =>
    obtain rfl := Option.some.inj entered
    rw [setActivity_self]
    exact .changed _
  | startRanging =>
    obtain ⟨locked, -, rfl⟩ := Option.map_eq_some_iff.mp entered
    unfold State.startRanging
    split
    · rw [setActivity_self]
      exact .notStarted _ (by simp)
    · split
      · rw [setActivity_self]
        exact .started
      · rw [setActivity_self]
        exact .notStarted _ (by simp)
  | isRangingActive =>
    obtain ⟨-, rfl⟩ := Option.ite_some_none_eq_some.mp entered
    rw [setActivity_self]
    exact .active _
  | stopRanging => exact reaches_stopRanging .stopRanging entered
  | endSession => exact reaches_stopRanging .endSession entered
  | destructor => exact reaches_stopRanging .destructor entered

/-- **A caller follows the code of its call.** -/
theorem moves_of_step {label : Label Thread Pointer} {caller : Caller Thread}
    (taken : Step spatialProperties s label t) (own : label.caller? = some caller) :
    Moves caller (s.activity caller) label (t.activity caller) := by
  cases label with
  | call other operation =>
    cases own
    obtain ⟨⟨-, -, idle, -⟩, rfl⟩ := step_call.mp taken
    rw [idle, show (s.call caller operation).activity caller = .called operation from
      setActivity_self ..]
    exact .call operation
  | enter other =>
    cases own
    obtain ⟨operation, called, entered⟩ := step_enter.mp taken
    rw [called]
    exact .enter (reaches_of_enter entered)
  | leave other =>
    cases own
    obtain ⟨body, posted, -, rfl⟩ := step_leave.mp taken
    rw [posted, setActivity_self]
    exact .leave body
  | «return» other result =>
    cases own
    obtain ⟨returning, rfl⟩ := step_return.mp taken
    rw [returning, setActivity_self]
    exact .return result
  | queue move =>
    obtain ⟨followed, queue, follows, -, rfl⟩ := step_queue.mp taken
    show Moves caller _ _ (followed.activity caller)
    cases move with
    | post other event =>
      cases own
      obtain ⟨body, posting, rfl⟩ := follow_post.mp follows
      rw [posting, setActivity_self]
      exact .post event body
    | refuse other event =>
      cases own
      obtain ⟨body, posting, rfl⟩ := follow_refuse.mp follows
      rw [posting, setActivity_self]
      exact .refuse event body
    | join other =>
      cases own
      obtain ⟨destructing, rfl⟩ := follow_join.mp follows
      rw [destructing, setActivity_self]
      exact .join
    | _ => cases own
  | _ => cases own

/-- A `post` that is accepted is that of a body, in a session that exists. -/
theorem post_cases {caller : Caller Thread} {event : Event Pointer}
    (taken : Step spatialProperties s (.queue (.post caller event)) t) :
    ∃ body, s.activity caller = .posting event body ∧ t.activity caller = .posted body ∧
      t.queue.destroyed = false := by
  obtain ⟨followed, queue, follows, moved, rfl⟩ := step_queue.mp taken
  obtain ⟨body, posting, rfl⟩ := follow_post.mp follows
  obtain ⟨⟨-, present, -⟩, -, rfl⟩ := TaskQueue.step_post.mp moved
  exact ⟨body, posting, setActivity_self .., by simpa using present⟩

/-! ### The rest of the session -/

/-- **What a step leaves alone**: the capabilities are constant, a callback object that has expired
does not come back, the membership changes as an operation takes its gate, and only the call of the
destructor sets `destructorCalled`. -/
structure Frame (s : State Thread Pointer) (label : Label Thread Pointer)
    (t : State Thread Pointer) : Prop where
  capabilities : t.capabilities = s.capabilities
  alive : t.callbacksAlive = true → s.callbacksAlive = true
  nearObjects : (∀ caller, label ≠ .enter caller) → t.nearObjects = s.nearObjects
  destructorCalled : (∀ caller, label ≠ .call caller .destructor) →
    t.destructorCalled = s.destructorCalled

theorem frame_step {label : Label Thread Pointer} (taken : Step spatialProperties s label t) :
    Frame s label t := by
  have released (body : Body) (caller : Caller Thread) (activity : Activity Pointer) :
      Frame s label ((s.release body).setActivity caller activity) := by
    constructor <;> simp [State.setActivity]
  cases label with
  | call caller operation =>
    obtain ⟨-, rfl⟩ := step_call.mp taken
    refine ⟨rfl, id, fun _ => rfl, fun other => ?_⟩
    have not : operation ≠ .destructor := fun same => other caller (by rw [same])
    simp [State.call, State.setActivity, not]
  | enter caller =>
    obtain ⟨operation, -, entered⟩ := step_enter.mp taken
    cases entered_of_enter entered <;>
      exact ⟨rfl, id, fun other => absurd rfl (other caller), fun _ => rfl⟩
  | leave caller =>
    obtain ⟨body, -, -, rfl⟩ := step_leave.mp taken
    exact released body caller _
  | «return» caller result =>
    obtain ⟨-, rfl⟩ := step_return.mp taken
    exact ⟨rfl, id, fun _ => rfl, fun _ => rfl⟩
  | queue move =>
    obtain ⟨followed, queue, follows, -, rfl⟩ := step_queue.mp taken
    cases move with
    | post caller event =>
      obtain ⟨body, -, rfl⟩ := follow_post.mp follows
      exact ⟨rfl, id, fun _ => rfl, fun _ => rfl⟩
    | refuse caller event =>
      obtain ⟨body, -, rfl⟩ := follow_refuse.mp follows
      obtain ⟨capabilities, alive, nearObjects, called⟩ := released body caller body.thrown
      exact ⟨capabilities, alive, nearObjects, called⟩
    | join caller =>
      obtain ⟨-, rfl⟩ := follow_join.mp follows
      exact ⟨rfl, id, fun _ => rfl, fun _ => rfl⟩
    | _ =>
      obtain rfl := follow_same follows (by simp) (by simp) (by simp)
      exact ⟨rfl, id, fun _ => rfl, fun _ => rfl⟩
  | deliver event =>
    obtain ⟨-, queue, -, rfl⟩ := step_deliver.mp taken
    exact ⟨rfl, id, fun _ => rfl, fun _ => rfl⟩
  | drop event =>
    obtain ⟨-, queue, -, rfl⟩ := step_drop.mp taken
    exact ⟨rfl, id, fun _ => rfl, fun _ => rfl⟩
  | expire =>
    obtain rfl := step_expire.mp taken
    exact ⟨rfl, fun alive => (by cases alive), fun _ => rfl, fun _ => rfl⟩

/-! ### The destructor -/

omit [DecidableEq Thread] [DecidableEq Pointer] in
theorem destroys_of_moves {caller : Caller Thread} {label : Label Thread Pointer}
    {before after : Activity Pointer} (moves : Moves caller before label after)
    (destroys : after.Destroys) : before.Destroys ∨ label = .call caller .destructor := by
  cases moves with
  | call operation =>
    cases operation with
    | destructor => exact .inr rfl
    | _ => cases destroys
  | enter reaches =>
    cases reaches with
    | stopped site =>
      cases site with
      | destructor => exact .inl trivial
      | _ => cases destroys
    | inactive site =>
      cases site with
      | destructor => exact .inl trivial
      | _ => cases destroys
    | _ => cases destroys
  | post event body =>
    cases body with
    | stopRanging site => cases site <;> first | exact .inl trivial | cases destroys
    | endSession destructor => cases destructor <;> first | exact .inl trivial | cases destroys
    | _ => cases destroys
  | refuse event body => exact absurd destroys (not_thrown id id body)
  | leave body =>
    cases body with
    | stopRanging site => cases site <;> first | exact .inl trivial | cases destroys
    | endSession destructor => cases destructor <;> first | exact .inl trivial | cases destroys
    | _ => cases destroys
  | join => cases destroys
  | «return» result => cases destroys

/-- Only the call of the destructor sets `destructorCalled`. -/
theorem destructorCalled_step {label : Label Thread Pointer}
    (taken : Step spatialProperties s label t) :
    (∃ caller, label = .call caller .destructor ∧ s.MayCall caller .destructor ∧
      t.destructorCalled = true) ∨
    ((∀ caller, label ≠ .call caller .destructor) ∧ t.destructorCalled = s.destructorCalled) := by
  by_cases calls : ∃ caller, label = .call caller .destructor
  · obtain ⟨caller, rfl⟩ := calls
    obtain ⟨may, rfl⟩ := step_call.mp taken
    exact .inl ⟨caller, rfl, may, by simp [State.call]⟩
  · have other : ∀ caller, label ≠ .call caller .destructor := fun caller same =>
      calls ⟨caller, same⟩
    exact .inr ⟨other, (frame_step taken).destructorCalled other⟩

/-- **One caller at a time is in the destructor**, after its call, and it is no callback. -/
structure Destroyer (s : State Thread Pointer) : Prop where
  called : ∀ caller, (s.activity caller).Destroys → s.destructorCalled = true
  client : ∀ caller, (s.activity caller).Destroys → caller ≠ .worker
  unique : ∀ first second, (s.activity first).Destroys → (s.activity second).Destroys →
    first = second

omit [DecidableEq Thread] [DecidableEq Pointer] in
theorem destroyer_init (capabilities : NearObjectCapabilities) (nearObjects : List Pointer) :
    Destroyer (init Thread capabilities nearObjects) where
  called := fun _ destroys => False.elim destroys
  client := fun _ destroys => False.elim destroys
  unique := fun _ _ destroys => False.elim destroys

/-- A caller is in the destructor after a step if it was before it or calls it now. -/
theorem destroys_of_step {label : Label Thread Pointer} {caller : Caller Thread}
    (taken : Step spatialProperties s label t) (destroys : (t.activity caller).Destroys) :
    (s.activity caller).Destroys ∨ label = .call caller .destructor := by
  by_cases own : label.caller? = some caller
  · exact destroys_of_moves (moves_of_step taken own) destroys
  · rw [activity_frame taken own] at destroys
    exact .inl destroys

theorem destroyer_step {label : Label Thread Pointer} (taken : Step spatialProperties s label t)
    (destroyer : Destroyer s) : Destroyer t := by
  obtain ⟨called, client, unique⟩ := destroyer
  rcases destructorCalled_step taken with ⟨caller, rfl, ⟨-, -, -, callback, once⟩, after⟩ |
    ⟨other, same⟩
  · -- nobody is in the destructor yet
    have fresh := once rfl
    have only : ∀ other, (t.activity other).Destroys → other = caller := by
      intro other destroys
      rcases destroys_of_step taken destroys with before | now
      · rw [called other before] at fresh
        cases fresh
      · cases now
        rfl
    refine ⟨fun _ _ => after, fun other destroys same => ?_, fun first second one two => ?_⟩
    · obtain rfl := only other destroys
      exact (callback same).2.2 rfl
    · rw [only first one, only second two]
  · have before : ∀ caller, (t.activity caller).Destroys → (s.activity caller).Destroys :=
      fun caller destroys => (destroys_of_step taken destroys).resolve_right (other caller)
    exact ⟨fun caller destroys => same.trans (called caller (before caller destroys)),
      fun caller destroys => client caller (before caller destroys),
      fun first second one two => unique first second (before first one) (before second two)⟩

/-! ### The worker and the queue -/

/-- Outside a task, the worker is in no call on the session. -/
def WorkerIdle (s : State Thread Pointer) : Prop :=
  s.activity .worker ≠ .idle → s.queue.worker.current.isSome

/-- A task does not end while it is in a call on the session. -/
theorem current_of_inside {label : Label Thread Pointer} (taken : Step spatialProperties s label t)
    (inside : s.activity .worker ≠ .idle) (current : s.queue.worker.current.isSome) :
    t.queue.worker.current.isSome := by
  rcases queue_cases taken with ⟨-, same⟩ | ⟨move, -, moved, -, finishes⟩
  · rwa [same]
  · have step := TaskQueue.current_step moved
    have stays : TaskQueue.finished [move] = [] := by
      cases move with
      | finish task outcome => exact absurd (finishes task outcome rfl) inside
      | _ => rfl
    obtain ⟨task, here⟩ := Option.isSome_iff_exists.mp current
    rw [stays, List.nil_append, here] at step
    cases after : t.queue.worker.current with
    | none => simp [after] at step
    | some task => rfl

theorem workerIdle_step {label : Label Thread Pointer} (taken : Step spatialProperties s label t)
    (idle : WorkerIdle s) : WorkerIdle t := by
  intro inside
  by_cases before : s.activity .worker = .idle
  · -- it is a call of a callback
    have own : label.caller? = some .worker := by
      by_contra elsewhere
      exact inside ((activity_frame taken elsewhere).trans before)
    have moves := moves_of_step taken own
    rw [before] at moves
    generalize t.activity .worker = after at moves
    cases moves with
    | call operation =>
      obtain ⟨⟨-, -, -, callback, -⟩, rfl⟩ := step_call.mp taken
      exact (callback rfl).1
  · exact current_of_inside taken before (idle before)

omit [DecidableEq Thread] [DecidableEq Pointer] in
/-- The queue of a session runs what is pending when it is stopped. -/
theorem runsPending_of_destroyer {move : TaskQueue.Label Thread (Event Pointer)}
    (destroyer : Destroyer s)
    (stops : ∀ caller action site, move = .stop caller action site →
      s.activity caller = .destructing ∧ action = .run ∧ site = .destructor) :
    TaskQueue.RunsPending move := by
  cases move with
  | stop caller action site =>
    obtain ⟨destructing, run, -⟩ := stops caller action site rfl
    refine ⟨run, .inr (destroyer.client caller ?_)⟩
    rw [destructing]
    trivial
  | _ => trivial

/-- What holds of the callers and of the queue in every state. -/
structure Settled (s : State Thread Pointer) : Prop where
  destroyer : Destroyer s
  idle : WorkerIdle s
  drained : TaskQueue.Drained s.queue

theorem settled_run {capabilities : NearObjectCapabilities} {nearObjects : List Pointer}
    {trace : List (Label Thread Pointer)}
    (run : Run (Step spatialProperties) (init Thread capabilities nearObjects) trace s) :
    Settled s := by
  refine run.invariant Settled ⟨destroyer_init .., fun inside => absurd rfl inside,
    TaskQueue.drained_init⟩ ?_
  rintro s label t ⟨destroyer, idle, drained⟩ taken
  refine ⟨destroyer_step taken destroyer, workerIdle_step taken idle, ?_⟩
  rcases queue_cases taken with ⟨-, same⟩ | ⟨move, -, moved, stops, -⟩
  · rwa [same]
  · exact TaskQueue.drained_step moved (runsPending_of_destroyer destroyer stops) drained

end

end NearObject.Session
