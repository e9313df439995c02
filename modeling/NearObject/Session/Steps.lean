/-
**`NearObjectSession` — what each step can do.**

One lemma for each label, and from them what every step keeps: the session's queue takes a step of
its own or none (`refines_queue`), a gate is held by exactly the caller that posts under it and
every body posts its own event (`Consistent`).
-/

import NearObject.Session.Model
import NearObject.TaskQueue.Order

namespace NearObject.Session

open Transition
open TaskQueue (Caller)

/-! ### The places of a caller -/

section Places

variable {Pointer : Type}

/-- The gate that a caller in this place holds. -/
def Activity.gate? : Activity Pointer → Option Gate
  | .posting _ body | .posted body => body.gate
  | _ => none

/-- The events of a body. -/
def Body.Posts : Body → Event Pointer → Prop
  | .changeMembership, .sessionMembershipChanged _ _
  | .propertiesChanged, .nearObjectPropertiesChanged _
  | .startRanging, .rangingStarted
  | .stopRanging _, .rangingStopped
  | .endSession _, .sessionEnded => True
  | _, _ => False

/-- A body that is posting posts one of its own events. -/
def Activity.PostsOwn : Activity Pointer → Prop
  | .posting event body => body.Posts event
  | _ => True

theorem site_next_gate (site : StopRangingSite) : (site.next : Activity Pointer).gate? = none := by
  cases site <;> rfl

theorem site_next_posts (site : StopRangingSite) : (site.next : Activity Pointer).PostsOwn := by
  cases site <;> trivial

theorem next_gate (body : Body) : (body.next : Activity Pointer).gate? = none := by
  cases body with
  | stopRanging site => exact site_next_gate site
  | endSession destructor => cases destructor <;> rfl
  | _ => rfl

theorem next_posts (body : Body) : (body.next : Activity Pointer).PostsOwn := by
  cases body with
  | stopRanging site => exact site_next_posts site
  | endSession destructor => cases destructor <;> trivial
  | _ => trivial

theorem thrown_cases (body : Body) :
    (body.thrown : Activity Pointer) = .idle ∨ (body.thrown : Activity Pointer) = .terminated := by
  cases body with
  | stopRanging site => cases site <;> simp [Body.thrown]
  | endSession destructor => cases destructor <;> simp [Body.thrown]
  | _ => exact .inl rfl

/-- A caller whose `post` has thrown is nowhere in the session. -/
theorem not_thrown {place : Activity Pointer → Prop} (idle : ¬ place .idle)
    (terminated : ¬ place .terminated) (body : Body) : ¬ place body.thrown := by
  rcases thrown_cases body with same | same
  · rwa [same]
  · rwa [same]

end Places

section State

variable {Thread Pointer : Type} {s t : State Thread Pointer}

/-! ### Writing a place and a gate -/

section SetActivity

variable [DecidableEq Thread] (caller : Caller Thread) (activity : Activity Pointer)

@[simp] theorem setActivity_queue : (s.setActivity caller activity).queue = s.queue := rfl

@[simp] theorem setActivity_nearObjects :
    (s.setActivity caller activity).nearObjects = s.nearObjects := rfl

@[simp] theorem setActivity_owner : (s.setActivity caller activity).owner = s.owner := rfl

@[simp] theorem setActivity_callbacksAlive :
    (s.setActivity caller activity).callbacksAlive = s.callbacksAlive := rfl

@[simp] theorem setActivity_self : (s.setActivity caller activity).activity caller = activity :=
  Function.update_self ..

end SetActivity

section Release

variable {body : Body}

theorem release_of_none (own : body.gate = none) : s.release body = s := by
  simp [State.release, own]

theorem release_of_some {gate : Gate} (own : body.gate = some gate) :
    s.release body = { s with owner := Function.update s.owner gate none } := by
  simp [State.release, own]

variable (body)

@[simp] theorem release_queue : (s.release body).queue = s.queue := by
  cases gate : body.gate <;> simp [State.release, gate]

@[simp] theorem release_nearObjects : (s.release body).nearObjects = s.nearObjects := by
  cases gate : body.gate <;> simp [State.release, gate]

@[simp] theorem release_rangingSession : (s.release body).rangingSession = s.rangingSession := by
  cases gate : body.gate <;> simp [State.release, gate]

@[simp] theorem release_capabilities : (s.release body).capabilities = s.capabilities := by
  cases gate : body.gate <;> simp [State.release, gate]

@[simp] theorem release_callbacksAlive : (s.release body).callbacksAlive = s.callbacksAlive := by
  cases gate : body.gate <;> simp [State.release, gate]

@[simp] theorem release_destructorCalled :
    (s.release body).destructorCalled = s.destructorCalled := by
  cases gate : body.gate <;> simp [State.release, gate]

@[simp] theorem release_activity : (s.release body).activity = s.activity := by
  cases gate : body.gate <;> simp [State.release, gate]

end Release

theorem lock_eq_some {gate : Gate} {caller : Caller Thread} :
    s.lock gate caller = some t ↔ s.owner gate = none ∧
      t = { s with owner := Function.update s.owner gate (some caller) } := by
  simp [State.lock, eq_comm (b := t)]

/-- A gate that is taken and released again. -/
theorem release_lock {gate : Gate} {caller : Caller Thread} {body : Body}
    (free : s.owner gate = none) (own : body.gate = some gate) :
    { s with owner := Function.update s.owner gate (some caller) }.release body = s := by
  rw [State.release, own]
  simp only [Function.update_idem]
  rw [← free, Function.update_eq_self]

/-! ### Who holds the gates -/

/-- A gate is held by exactly the caller that is in a body under it, and every body posts its own
events. -/
structure Consistent (s : State Thread Pointer) : Prop where
  held : ∀ gate caller, s.owner gate = some caller ↔ (s.activity caller).gate? = some gate
  own : ∀ caller, (s.activity caller).PostsOwn

theorem consistent_init (capabilities : NearObjectCapabilities) (nearObjects : List Pointer) :
    Consistent (init Thread capabilities nearObjects) where
  held := fun gate caller => by simp [init, Activity.gate?]
  own := fun caller => trivial

section Consistent

variable [DecidableEq Thread] {caller : Caller Thread} {activity : Activity Pointer}

theorem own_update (consistent : Consistent s) (own : activity.PostsOwn) (other : Caller Thread) :
    (Function.update s.activity caller activity other).PostsOwn := by
  by_cases same : other = caller
  · rwa [same, Function.update_self]
  · rw [Function.update_of_ne same]
    exact consistent.own other

/-- A caller moves on under the gate it holds, or without one. -/
theorem consistent_moves (consistent : Consistent s) (owner : t.owner = s.owner)
    (moves : t.activity = Function.update s.activity caller activity)
    (same : activity.gate? = (s.activity caller).gate?) (own : activity.PostsOwn) :
    Consistent t where
  held := by
    intro gate other
    rw [owner, moves, consistent.held]
    by_cases here : other = caller
    · rw [here, Function.update_self, same]
    · rw [Function.update_of_ne here]
  own := fun other => moves ▸ own_update consistent own other

/-- A caller without a gate takes one that is free. -/
theorem consistent_takes {gate : Gate} (consistent : Consistent s)
    (owner : t.owner = Function.update s.owner gate (some caller))
    (moves : t.activity = Function.update s.activity caller activity)
    (free : s.owner gate = none) (before : (s.activity caller).gate? = none)
    (after : activity.gate? = some gate) (own : activity.PostsOwn) : Consistent t where
  held := by
    intro other holder
    rw [owner, moves]
    by_cases here : holder = caller
    · rw [here, Function.update_self, after]
      by_cases taken : other = gate
      · simp [taken]
      · have elsewhere : s.owner other ≠ some caller := by
          intro holds
          have held := (consistent.held other caller).mp holds
          simp [before] at held
        simpa [Function.update_of_ne taken, elsewhere] using Ne.symm taken
    · rw [Function.update_of_ne here, ← consistent.held]
      by_cases taken : other = gate
      · simpa [taken, free] using Ne.symm here
      · rw [Function.update_of_ne taken]
  own := fun other => moves ▸ own_update consistent own other

/-- A caller releases the gate it holds. -/
theorem consistent_drops {gate : Gate} (consistent : Consistent s)
    (owner : t.owner = Function.update s.owner gate none)
    (moves : t.activity = Function.update s.activity caller activity)
    (before : (s.activity caller).gate? = some gate) (after : activity.gate? = none)
    (own : activity.PostsOwn) : Consistent t where
  held := by
    intro other holder
    have holds := (consistent.held gate caller).mpr before
    rw [owner, moves]
    by_cases here : holder = caller
    · rw [here, Function.update_self, after]
      by_cases taken : other = gate
      · simp [taken]
      · simpa [Function.update_of_ne taken, consistent.held, before] using Ne.symm taken
    · rw [Function.update_of_ne here, ← consistent.held]
      by_cases taken : other = gate
      · simpa [taken, holds] using Ne.symm here
      · rw [Function.update_of_ne taken]
  own := fun other => moves ▸ own_update consistent own other

/-- A caller leaves a body, and releases its gate if it has one. -/
theorem consistent_releases {body : Body} (consistent : Consistent s)
    (before : (s.activity caller).gate? = body.gate) (after : activity.gate? = none)
    (own : activity.PostsOwn) : Consistent ((s.release body).setActivity caller activity) := by
  cases place : body.gate with
  | none =>
    rw [release_of_none place]
    refine consistent_moves consistent rfl rfl ?_ own
    rw [before, after, place]
  | some gate =>
    rw [release_of_some place]
    exact consistent_drops consistent rfl rfl (before.trans place) after own

end Consistent

/-! ### Following the queue -/

variable [DecidableEq Thread] [DecidableEq Pointer]

theorem follow_post {caller : Caller Thread} {event : Event Pointer} :
    s.follow (.post caller event) = some t ↔
      ∃ body, s.activity caller = .posting event body ∧
        t = s.setActivity caller (.posted body) := by
  simp only [State.follow]
  cases s.activity caller <;> simp [eq_comm (b := t)]

theorem follow_refuse {caller : Caller Thread} {event : Event Pointer} :
    s.follow (.refuse caller event) = some t ↔
      ∃ body, s.activity caller = .posting event body ∧
        t = (s.release body).setActivity caller body.thrown := by
  simp only [State.follow]
  cases s.activity caller <;> simp [eq_comm (b := t)]

theorem follow_join {caller : Caller Thread} :
    s.follow (.join caller) = some t ↔
      s.activity caller = .destructing ∧ t = s.setActivity caller (.returning .unit) := by
  simp [State.follow, eq_comm (b := t)]

/-- The other steps of the queue leave the rest of the session as it is. -/
theorem follow_same {label : TaskQueue.Label Thread (Event Pointer)}
    (follows : s.follow label = some t) (notPost : ∀ caller event, label ≠ .post caller event)
    (notRefuse : ∀ caller event, label ≠ .refuse caller event)
    (notJoin : ∀ caller, label ≠ .join caller) : t = s := by
  cases label with
  | post caller event => exact absurd rfl (notPost caller event)
  | refuse caller event => exact absurd rfl (notRefuse caller event)
  | join caller => exact absurd rfl (notJoin caller)
  | _ => simp_all [State.follow]

variable {Value : Type} [BEq Value]
  {spatialProperties : Pointer → NearObjectSpatialProperties Value}

/-! ### Entering an operation -/

/-- The change of `m_rangingSession` that an event reports. -/
inductive Ranges (capabilities : NearObjectCapabilities) : Bool → Event Pointer → Bool → Prop
  | starts (supports : capabilities.supportsRanging = true) :
      Ranges capabilities false .rangingStarted true
  | stops : Ranges capabilities true .rangingStopped false

/-- **What entering an operation does.** -/
inductive Entered (s : State Thread Pointer) (caller : Caller Thread) : State Thread Pointer → Prop
  /-- The membership is changed under its gate, and the caller is about to report that. -/
  | membership (added removed : List Pointer) (free : s.owner .nearObjects = none) :
      Entered s caller ({ s with
        owner := Function.update s.owner .nearObjects (some caller)
        nearObjects := applyMembershipChange s.nearObjects added removed }.setActivity caller
          (.posting (.sessionMembershipChanged added removed) .changeMembership))
  /-- The ranging state is changed under its gate, and the caller is about to report that. -/
  | ranging (event : Event Pointer) (body : Body) (active : Bool)
      (free : s.owner .rangingState = none) (own : body.gate = some .rangingState)
      (posts : body.Posts event) (ranges : Ranges s.capabilities s.rangingSession event active) :
      Entered s caller ({ s with
        owner := Function.update s.owner .rangingState (some caller)
        rangingSession := active }.setActivity caller (.posting event body))
  /-- The caller moves on, and holds no gate. -/
  | moves (activity : Activity Pointer) (none : activity.gate? = none)
      (own : activity.PostsOwn) :
      Entered s caller (s.setActivity caller activity)

theorem entered_startRanging {caller : Caller Thread}
    (entered : (s.lock .rangingState caller).map (fun s => s.startRanging caller) = some t) :
    Entered s caller t := by
  obtain ⟨locked, locks, rfl⟩ := Option.map_eq_some_iff.mp entered
  obtain ⟨free, rfl⟩ := lock_eq_some.mp locks
  unfold State.startRanging
  split
  · rw [release_lock free rfl]
    exact .moves _ rfl trivial
  · rename_i inactive
    split
    · rename_i supports
      refine .ranging _ .startRanging true free rfl trivial ?_
      rw [Bool.eq_false_iff.mpr inactive]
      exact .starts supports
    · rw [release_lock free rfl]
      exact .moves _ rfl trivial

theorem entered_stopRanging {caller : Caller Thread} {site : StopRangingSite}
    (entered : (s.lock .rangingState caller).map (fun s => s.stopRanging caller site) = some t) :
    Entered s caller t := by
  obtain ⟨locked, locks, rfl⟩ := Option.map_eq_some_iff.mp entered
  obtain ⟨free, rfl⟩ := lock_eq_some.mp locks
  unfold State.stopRanging
  split
  · rename_i active
    refine .ranging _ (.stopRanging site) false free rfl trivial ?_
    rw [active]
    exact .stops
  · rw [release_lock free rfl]
    exact .moves _ (site_next_gate site) (site_next_posts site)

theorem entered_of_enter {caller : Caller Thread} {operation : Operation Pointer}
    (entered : s.enter spatialProperties caller operation = some t) : Entered s caller t := by
  cases operation with
  | addNearObjects nearObjectsToAdd =>
    obtain ⟨locked, locks, rfl⟩ := Option.map_eq_some_iff.mp entered
    obtain ⟨free, rfl⟩ := lock_eq_some.mp locks
    simp only [← apply_addNearObjects]
    exact .membership _ [] free
  | removeNearObjects nearObjectsToRemove =>
    obtain ⟨locked, locks, rfl⟩ := Option.map_eq_some_iff.mp entered
    obtain ⟨free, rfl⟩ := lock_eq_some.mp locks
    simp only [← apply_removeNearObjects]
    exact .membership [] _ free
  | getNearObjects =>
    obtain ⟨-, rfl⟩ := Option.ite_some_none_eq_some.mp entered
    exact .moves _ rfl trivial
  | nearObjectPropertiesChanged nearObjectChanged =>
    obtain rfl := Option.some.inj entered
    exact .moves _ rfl trivial
  | startRanging => exact entered_startRanging entered
  | isRangingActive =>
    obtain ⟨-, rfl⟩ := Option.ite_some_none_eq_some.mp entered
    exact .moves _ rfl trivial
  | stopRanging => exact entered_stopRanging entered
  | endSession => exact entered_stopRanging entered
  | destructor => exact entered_stopRanging entered

theorem enter_queue {caller : Caller Thread} {operation : Operation Pointer}
    (entered : s.enter spatialProperties caller operation = some t) : t.queue = s.queue := by
  cases entered_of_enter entered <;> rfl

/-! ### One lemma for each label -/

theorem step_call {caller : Caller Thread} {operation : Operation Pointer} :
    Step spatialProperties s (.call caller operation) t ↔
      s.MayCall caller operation ∧ t = s.call caller operation := by
  simp only [Step, Next, step, Option.ite_none_right_eq_some, Option.some.injEq, eq_comm (b := t)]

theorem step_enter {caller : Caller Thread} :
    Step spatialProperties s (.enter caller) t ↔ ∃ operation,
      s.activity caller = .called operation ∧
        s.enter spatialProperties caller operation = some t := by
  simp only [Step, Next, step]
  cases s.activity caller <;> simp

theorem step_leave {caller : Caller Thread} :
    Step spatialProperties s (.leave caller) t ↔ ∃ body,
      s.activity caller = .posted body ∧ s.queue.call caller = .idle ∧
        t = (s.release body).setActivity caller body.next := by
  simp only [Step, Next, step]
  cases s.activity caller <;> simp [eq_comm (b := t)]

theorem step_return {caller : Caller Thread} {result : Result Pointer} :
    Step spatialProperties s (.return caller result) t ↔
      s.activity caller = .returning result ∧ t = s.setActivity caller .idle := by
  simp only [Step, Next, step]
  cases s.activity caller <;> simp [eq_comm (b := t)]

theorem step_queue {label : TaskQueue.Label Thread (Event Pointer)} :
    Step spatialProperties s (.queue label) t ↔ ∃ followed queue,
      s.follow label = some followed ∧ TaskQueue.Step s.queue label queue ∧
        t = { followed with queue } := by
  simp only [Step, Next, step, State.queueStep, Option.bind_eq_some_iff, Option.map_eq_some_iff,
    TaskQueue.Step, exists_and_left, eq_comm (b := t)]

theorem step_deliver {event : Event Pointer} :
    Step spatialProperties s (.deliver event) t ↔ s.callbacksAlive = true ∧ ∃ queue,
      TaskQueue.Step s.queue (.begin event) queue ∧ t = { s with queue, inCallback := true } := by
  simp only [Step, Next, step, Option.ite_none_right_eq_some, Option.map_eq_some_iff,
    TaskQueue.Step, eq_comm (b := t)]

theorem step_drop {event : Event Pointer} :
    Step spatialProperties s (.drop event) t ↔ s.callbacksAlive = false ∧ ∃ queue,
      TaskQueue.Step s.queue (.begin event) queue ∧ t = { s with queue, inCallback := false } := by
  simp only [Step, Next, step, Option.ite_none_left_eq_some, Option.map_eq_some_iff,
    TaskQueue.Step, Bool.not_eq_true, eq_comm (b := t)]

theorem step_expire :
    Step spatialProperties s .expire t ↔ t = { s with callbacksAlive := false } := by
  simp only [Step, Next, step, Option.some.injEq, eq_comm (b := t)]

/-! ### The queue of the session -/

/-- **What a step is for the queue**, and what the callers do meanwhile: the one that stops it is
past the body of the destructor, and a task that ends has left the session. -/
theorem queue_cases {label : Label Thread Pointer} (taken : Step spatialProperties s label t) :
    (queueSteps label = [] ∧ t.queue = s.queue) ∨
    ∃ move, queueSteps label = [move] ∧ TaskQueue.Step s.queue move t.queue ∧
      (∀ caller action site, move = .stop caller action site →
        s.activity caller = .destructing ∧ action = .run ∧ site = .destructor) ∧
      ∀ task outcome, move = .finish task outcome → s.activity .worker = .idle := by
  cases label with
  | call caller operation =>
    obtain ⟨-, rfl⟩ := step_call.mp taken
    exact .inl ⟨rfl, rfl⟩
  | enter caller =>
    obtain ⟨operation, -, entered⟩ := step_enter.mp taken
    exact .inl ⟨rfl, enter_queue entered⟩
  | leave caller =>
    obtain ⟨body, -, -, rfl⟩ := step_leave.mp taken
    exact .inl ⟨rfl, release_queue body⟩
  | «return» caller result =>
    obtain ⟨-, rfl⟩ := step_return.mp taken
    exact .inl ⟨rfl, rfl⟩
  | queue move =>
    obtain ⟨followed, queue, follows, moved, rfl⟩ := step_queue.mp taken
    refine .inr ⟨move, rfl, moved, ?_, ?_⟩
    · rintro caller action site rfl
      exact (Option.ite_none_right_eq_some.mp follows).1
    · rintro task outcome rfl
      exact (Option.ite_none_right_eq_some.mp follows).1
  | deliver event =>
    obtain ⟨-, queue, moved, rfl⟩ := step_deliver.mp taken
    exact .inr ⟨_, rfl, moved, by simp, by simp⟩
  | drop event =>
    obtain ⟨-, queue, moved, rfl⟩ := step_drop.mp taken
    exact .inr ⟨_, rfl, moved, by simp, by simp⟩
  | expire =>
    obtain rfl := step_expire.mp taken
    exact .inl ⟨rfl, rfl⟩

/-- **A step of the session is a step of its queue, or none.** -/
theorem refines_queue : Refines (Step spatialProperties) TaskQueue.Step
    (@State.queue Thread Pointer) queueSteps := by
  intro s label t taken
  rcases queue_cases taken with ⟨silent, same⟩ | ⟨move, single, moved, -⟩
  · rw [silent, same]
    exact .nil
  · rw [single]
    exact .single moved

/-! ### What every step keeps -/

theorem consistent_follow {label : TaskQueue.Label Thread (Event Pointer)}
    (follows : s.follow label = some t) (consistent : Consistent s) : Consistent t := by
  cases label with
  | post caller event =>
    obtain ⟨body, posting, rfl⟩ := follow_post.mp follows
    refine consistent_moves consistent rfl rfl ?_ trivial
    rw [posting]
    rfl
  | refuse caller event =>
    obtain ⟨body, posting, rfl⟩ := follow_refuse.mp follows
    have before : (s.activity caller).gate? = body.gate := by rw [posting]; rfl
    have thrown : (body.thrown : Activity Pointer) = .idle ∨ body.thrown = .terminated :=
      thrown_cases body
    rcases thrown with idle | terminated
    · rw [idle]
      exact consistent_releases consistent before rfl trivial
    · rw [terminated]
      exact consistent_releases consistent before rfl trivial
  | join caller =>
    obtain ⟨destructing, rfl⟩ := follow_join.mp follows
    refine consistent_moves consistent rfl rfl ?_ trivial
    rw [destructing]
    rfl
  | _ =>
    obtain rfl := follow_same follows (by simp) (by simp) (by simp)
    exact consistent

theorem consistent_step {label : Label Thread Pointer}
    (taken : Step spatialProperties s label t) (consistent : Consistent s) : Consistent t := by
  cases label with
  | call caller operation =>
    obtain ⟨⟨-, -, idle, -⟩, rfl⟩ := step_call.mp taken
    refine consistent_moves consistent rfl rfl ?_ trivial
    rw [idle]
    rfl
  | enter caller =>
    obtain ⟨operation, called, entered⟩ := step_enter.mp taken
    have before : (s.activity caller).gate? = none := by rw [called]; rfl
    cases entered_of_enter entered with
    | membership added removed free =>
      exact consistent_takes consistent rfl rfl free before rfl trivial
    | ranging event body active free own posts =>
      exact consistent_takes consistent rfl rfl free before own posts
    | moves activity none own =>
      exact consistent_moves consistent rfl rfl (none.trans before.symm) own
  | leave caller =>
    obtain ⟨body, posted, -, rfl⟩ := step_leave.mp taken
    have before : (s.activity caller).gate? = body.gate := by rw [posted]; rfl
    exact consistent_releases consistent before (next_gate body) (next_posts body)
  | «return» caller result =>
    obtain ⟨returning, rfl⟩ := step_return.mp taken
    refine consistent_moves consistent rfl rfl ?_ trivial
    rw [returning]
    rfl
  | queue label =>
    obtain ⟨followed, queue, follows, -, rfl⟩ := step_queue.mp taken
    have kept : Consistent followed := consistent_follow follows consistent
    exact ⟨kept.held, kept.own⟩
  | deliver event =>
    obtain ⟨-, queue, -, rfl⟩ := step_deliver.mp taken
    exact ⟨consistent.held, consistent.own⟩
  | drop event =>
    obtain ⟨-, queue, -, rfl⟩ := step_drop.mp taken
    exact ⟨consistent.held, consistent.own⟩
  | expire =>
    obtain rfl := step_expire.mp taken
    exact ⟨consistent.held, consistent.own⟩

theorem consistent_run {capabilities : NearObjectCapabilities} {nearObjects : List Pointer}
    {trace : List (Label Thread Pointer)}
    (run : Run (Step spatialProperties) (init Thread capabilities nearObjects) trace s) :
    Consistent s :=
  run.invariant Consistent (consistent_init capabilities nearObjects)
    fun _ _ _ consistent taken => consistent_step taken consistent

end State

end NearObject.Session
