/-
**`NearObjectSession` — when a session ends once, and last.**

`EndSession` posts an `OnSessionEnded` and keeps no record of it, and the destructor posts one of
its own. `ends_once_iff`: with a live callback object, over a run to the end of the destructor, the
session ends once and last exactly where no call of `EndSession` posts, and nobody posts after the
destructor (`EndsLast`). Calls see to that if none is one of `EndSession`, and the destructor is
called when everybody else has returned, for good (`CalledLast`).
-/

import NearObject.Session.Destruction

namespace NearObject.Session

open Transition
open TaskQueue (Caller)

/-! ### The end of the destructor -/

section Code

variable {Thread Pointer : Type} {caller : Caller Thread} {label : Label Thread Pointer}
  {before after : Activity Pointer}

/-- A caller is in the destructor, and has posted its `OnSessionEnded`. -/
def Activity.Ends : Activity Pointer → Prop
  | .posted (.endSession true) | .destructing => True
  | _ => False

theorem not_ends_of_next {site : StopRangingSite} (ends : (site.next : Activity Pointer).Ends) :
    False := by
  cases site <;> cases ends

/-- It gets there by posting. -/
theorem ends_of_moves (moves : Moves caller before label after) (own : before.PostsOwn)
    (ends : after.Ends) : before.Ends ∨ label = .queue (.post caller .sessionEnded) := by
  cases moves with
  | call operation => cases ends
  | enter reaches =>
    cases reaches with
    | inactive site => exact (not_ends_of_next ends).elim
    | _ => cases ends
  | post event body =>
    cases body with
    | endSession destructor =>
      cases event with
      | sessionEnded => exact .inr rfl
      | _ => cases own
    | _ => cases ends
  | refuse event body => exact absurd ends (not_thrown id id body)
  | leave body =>
    cases body with
    | stopRanging site => exact (not_ends_of_next ends).elim
    | endSession destructor =>
      cases destructor with
      | true => exact .inl trivial
      | false => cases ends
    | _ => cases ends
  | join => cases ends
  | «return» result => cases ends

/-- It leaves by the join. -/
theorem ends_after_moves (moves : Moves caller before label after) (ends : before.Ends) :
    after.Ends ∨ label = .queue (.join caller) := by
  cases moves with
  | leave body =>
    cases body with
    | endSession destructor =>
      cases destructor with
      | true => exact .inl trivial
      | false => cases ends
    | _ => cases ends
  | join => exact .inr rfl
  | _ => cases ends

/-- A caller is in `EndSession`, and has not posted its event. -/
def Activity.EndsSession : Activity Pointer → Prop
  | .called .endSession | .posting _ (.stopRanging .endSession) | .posted (.stopRanging .endSession)
  | .posting _ (.endSession false) => True
  | _ => False

/-- It gets there by the call. -/
theorem endsSession_of_moves (moves : Moves caller before label after) (ends : after.EndsSession) :
    before.EndsSession ∨ label = .call caller .endSession := by
  cases moves with
  | call operation =>
    cases operation with
    | endSession => exact .inr rfl
    | _ => cases ends
  | enter reaches =>
    cases reaches with
    | stopped site => cases site <;> first | exact .inl trivial | cases ends
    | inactive site => cases site <;> first | exact .inl trivial | cases ends
    | _ => cases ends
  | post event body =>
    cases body with
    | stopRanging site => cases site <;> first | exact .inl trivial | cases ends
    | _ => cases ends
  | refuse event body => exact absurd ends (not_thrown id id body)
  | leave body =>
    cases body with
    | stopRanging site => cases site <;> first | exact .inl trivial | cases ends
    | endSession destructor => cases destructor <;> cases ends
    | _ => cases ends
  | join => cases ends
  | «return» result => cases ends

/-- An idle caller moves by a call. -/
theorem call_of_idle (moves : Moves caller .idle label after) :
    ∃ operation, label = .call caller operation := by
  cases moves with
  | call operation => exact ⟨operation, rfl⟩

end Code

section

variable {Thread Pointer Value : Type} [DecidableEq Thread] [DecidableEq Pointer] [BEq Value]
  {spatialProperties : Pointer → NearObjectSpatialProperties Value} {s t : State Thread Pointer}
  {capabilities : NearObjectCapabilities} {initial : List Pointer}
  {trace : List (Label Thread Pointer)}

/-- The destructor has posted its `OnSessionEnded`. -/
def State.Ended (s : State Thread Pointer) : Prop :=
  s.queue.destroyed = true ∨ ∃ caller, (s.activity caller).Ends

/-- A `post` is not that of `EndSession` as called by the implementing class, and does not come
after the one of the destructor. -/
def EndsLast (s : State Thread Pointer) : Label Thread Pointer → Prop
  | .queue (.post caller event) =>
    ¬ s.Ended ∧ s.activity caller ≠ .posting event (.endSession false)
  | _ => True

theorem ended_of_step {label : Label Thread Pointer} (consistent : Consistent s)
    (taken : Step spatialProperties s label t) (ended : t.Ended) :
    s.Ended ∨ posted [label] = [.sessionEnded] := by
  rcases ended with destroyed | ⟨caller, ends⟩
  · rcases destroyed_step taken destroyed with before | ⟨caller, rfl⟩
    · exact .inl (.inl before)
    · obtain ⟨followed, queue, follows, -⟩ := step_queue.mp taken
      obtain ⟨destructing, -⟩ := follow_join.mp follows
      exact .inl (.inr ⟨caller, by rw [destructing]; trivial⟩)
  · by_cases own : label.caller? = some caller
    · rcases ends_of_moves (moves_of_step taken own) (consistent.own caller) ends with before | rfl
      · exact .inl (.inr ⟨caller, before⟩)
      · exact .inr rfl
    · rw [activity_frame taken own] at ends
      exact .inl (.inr ⟨caller, ends⟩)

theorem ended_step {label : Label Thread Pointer} (settled : Settled s) (closing : Closing s)
    (taken : Step spatialProperties s label t) (ended : s.Ended) : t.Ended := by
  rcases ended with destroyed | ⟨caller, ends⟩
  · exact .inl (posted_of_destroyed taken destroyed).2
  · by_cases own : label.caller? = some caller
    · rcases ends_after_moves (moves_of_step taken own) ends with still | rfl
      · exact .inr ⟨caller, still⟩
      · exact .inl (join_ends settled closing taken).2.2
    · rw [← activity_frame taken own] at ends
      exact .inr ⟨caller, ends⟩

omit [DecidableEq Thread] [DecidableEq Pointer] in
theorem not_ended_init : ¬ (init Thread capabilities initial).Ended := by
  rintro (destroyed | ⟨caller, ends⟩)
  · cases destroyed
  · cases ends

/-- The destructor ends by way of its `OnSessionEnded`. -/
theorem posted_of_ended {later : List (Label Thread Pointer)}
    (run : Run (Step spatialProperties) s later t) (consistent : Consistent s) (ended : t.Ended) :
    s.Ended ∨ .sessionEnded ∈ posted later := by
  have reached : Consistent t ∧ (t.Ended → s.Ended ∨ .sessionEnded ∈ posted later) := by
    refine run.history (fun later t =>
      Consistent t ∧ (t.Ended → s.Ended ∨ .sessionEnded ∈ posted later)) ⟨consistent, .inl⟩ ?_
    rintro sofar middle label t - ⟨consistent, before⟩ taken
    refine ⟨consistent_step taken consistent, fun ended => ?_⟩
    rw [posted_append, List.mem_append]
    rcases ended_of_step consistent taken ended with already | now
    · exact (before already).imp_right .inl
    · exact .inr (.inr (by rw [now]; exact List.mem_singleton_self _))
  exact reached.2 ended

/-! ### Runs that end once, and last -/

/-- The events end with their only `OnSessionEnded`. -/
def EndsOnce (events : List (Event Pointer)) : Prop :=
  ∃ earlier, events = earlier ++ [.sessionEnded] ∧ .sessionEnded ∉ earlier

omit [DecidableEq Pointer] in
/-- An `OnSessionEnded` that is followed by another event. -/
theorem not_endsOnce {first rest : List (Event Pointer)} (ended : .sessionEnded ∈ first)
    (more : rest ≠ []) : ¬ EndsOnce (first ++ rest) := by
  rintro ⟨earlier, same, fresh⟩
  have front := congrArg List.dropLast same
  rw [List.dropLast_append_of_ne_nil more, List.dropLast_concat] at front
  exact fresh (front ▸ List.mem_append_left _ ended)

theorem endsOnce_step {label : Label Thread Pointer} (consistent : Consistent s)
    (settled : Settled s) (closing : Closing s) (taken : Step spatialProperties s label t)
    (last : EndsLast s label) {events : List (Event Pointer)}
    (before : ¬ s.Ended → .sessionEnded ∉ events) (after : s.Ended → EndsOnce events) :
    (¬ t.Ended → .sessionEnded ∉ events ++ posted [label]) ∧
      (t.Ended → EndsOnce (events ++ posted [label])) := by
  by_cases posts : ∃ caller event, label = .queue (.post caller event)
  · obtain ⟨caller, event, rfl⟩ := posts
    obtain ⟨running, other⟩ := last
    have single : posted [.queue (.post caller event)] = [event] := rfl
    have fresh := before running
    rw [single]
    by_cases ends : event = .sessionEnded
    · obtain rfl := ends
      -- this is the `post` of the destructor
      have ended : t.Ended := by
        obtain ⟨body, posting, after, -⟩ := post_cases taken
        have own := consistent.own caller
        rw [posting] at own other
        refine .inr ⟨caller, ?_⟩
        rw [after]
        cases body with
        | endSession destructor =>
          cases destructor with
          | true => trivial
          | false => exact absurd rfl other
        | _ => cases own
      exact ⟨fun not => absurd ended not, fun _ => ⟨events, rfl, fresh⟩⟩
    · refine ⟨fun _ => by simpa [fresh] using Ne.symm ends, fun ended => ?_⟩
      rcases ended_of_step consistent taken ended with already | now
      · exact absurd already running
      · exact absurd (List.singleton_inj.mp (single.symm.trans now)) ends
  · have silent : posted [label] = [] := by
      cases label with
      | queue move =>
        cases move with
        | post caller event => exact absurd ⟨caller, event, rfl⟩ posts
        | _ => rfl
      | _ => rfl
    rw [silent, List.append_nil]
    refine ⟨fun not => before fun ended => not (ended_step settled closing taken ended),
      fun ended => after ?_⟩
    refine (ended_of_step consistent taken ended).resolve_right ?_
    rw [silent]
    exact (List.cons_ne_nil _ _).symm

theorem endsOnce_run
    (run : Run (Restrict (Step spatialProperties) EndsLast) (init Thread capabilities initial)
      trace s) (ended : s.Ended) : EndsOnce (posted trace) := by
  have both : (¬ s.Ended → .sessionEnded ∉ posted trace) ∧ (s.Ended → EndsOnce (posted trace)) := by
    refine run.history (fun trace s =>
      (¬ s.Ended → .sessionEnded ∉ posted trace) ∧ (s.Ended → EndsOnce (posted trace)))
      ⟨fun _ => List.not_mem_nil, fun ended => absurd ended not_ended_init⟩ ?_
    rintro sofar s label t reached ⟨before, after⟩ ⟨last, taken⟩
    have reached := reached.unrestrict
    rw [posted_append]
    exact endsOnce_step (consistent_run reached) (settled_run reached) (closing_run reached) taken
      last before after
  exact both.2 ended

/-- A `post` that breaks the condition, with the `OnSessionEnded` before it or at it. -/
theorem not_endsOnce_of_breaks {earlier later : List (Label Thread Pointer)}
    {label : Label Thread Pointer} {middle : State Thread Pointer}
    (before : Run (Step spatialProperties) (init Thread capabilities initial) earlier s)
    (taken : Step spatialProperties s label middle) (breaks : ¬ EndsLast s label)
    (after : Run (Step spatialProperties) middle later t) (ended : t.Ended) :
    ¬ EndsOnce (posted (earlier ++ label :: later)) := by
  have consistent := consistent_run before
  rw [show earlier ++ label :: later = earlier ++ [label] ++ later by simp, posted_append,
    posted_append]
  cases label with
  | queue move =>
    cases move with
    | post caller event =>
      rw [show posted [.queue (.post caller event)] = [event] from rfl]
      by_cases already : s.Ended
      · have earlierEnded := (posted_of_ended before (consistent_init ..) already).resolve_left
          not_ended_init
        rw [List.append_assoc]
        exact not_endsOnce earlierEnded (by simp)
      · -- the `post` of `EndSession`, before that of the destructor
        have posting : s.activity caller = .posting event (.endSession false) :=
          by_contra fun other => breaks ⟨already, other⟩
        have own := consistent.own caller
        rw [posting] at own
        cases event with
        | sessionEnded =>
          have running : ¬ middle.Ended := by
            obtain ⟨body, same, after, present⟩ := post_cases taken
            rw [posting] at same
            obtain ⟨-, rfl⟩ := Activity.posting.inj same
            rintro (destroyed | ⟨other, ends⟩)
            · rw [present] at destroyed
              cases destroyed
            · by_cases here : other = caller
              · rw [here, after] at ends
                cases ends
              · rw [activity_frame taken fun own => here (Option.some.inj own).symm] at ends
                exact already (.inr ⟨other, ends⟩)
          have more := (posted_of_ended after (consistent_step taken consistent) ended).resolve_left
            running
          exact not_endsOnce (by simp) (List.ne_nil_of_mem more)
        | _ => cases own
    | _ => exact absurd trivial breaks
  | _ => exact absurd trivial breaks

/-! ### Calls that see to it -/

/-- A call is not that of `EndSession`, does not come after the one of the destructor, and is that
of the destructor when nobody is in a call only. -/
def CalledLast (s : State Thread Pointer) : Label Thread Pointer → Prop
  | .call _ operation => operation ≠ .endSession ∧ s.destructorCalled = false ∧
    (operation = .destructor → ∀ other, s.activity other = .idle)
  | _ => True

/-- Nobody is in `EndSession` with its event ahead, nor in a call beside the destructor. -/
structure Alone (s : State Thread Pointer) : Prop where
  session : ∀ caller, ¬ (s.activity caller).EndsSession
  destructor : s.destructorCalled = true →
    ∃ caller, ∀ other, other ≠ caller → s.activity other = .idle

theorem alone_step {label : Label Thread Pointer} (last : CalledLast s label)
    (taken : Step spatialProperties s label t) (alone : Alone s) : Alone t where
  session := by
    intro caller ends
    by_cases own : label.caller? = some caller
    · rcases endsSession_of_moves (moves_of_step taken own) ends with before | rfl
      · exact alone.session caller before
      · exact last.1 rfl
    · rw [activity_frame taken own] at ends
      exact alone.session caller ends
  destructor := by
    intro called
    rcases destructorCalled_step taken with ⟨caller, rfl, -, -⟩ | ⟨-, same⟩
    · refine ⟨caller, fun other different => ?_⟩
      rw [activity_frame taken fun own => different (Option.some.inj own).symm]
      exact last.2.2 rfl other
    · rw [same] at called
      obtain ⟨caller, idle⟩ := alone.destructor called
      refine ⟨caller, fun other different => ?_⟩
      by_cases own : label.caller? = some other
      · have moves := moves_of_step taken own
        rw [idle other different] at moves
        obtain ⟨operation, rfl⟩ := call_of_idle moves
        exact Bool.noConfusion (called.symm.trans last.2.1)
      · exact (activity_frame taken own).trans (idle other different)

theorem alone_run
    (run : Run (Restrict (Step spatialProperties) CalledLast) (init Thread capabilities initial)
      trace s) : Alone s := by
  refine run.invariant Alone ⟨fun caller ends => ?_, fun called => ?_⟩
    fun _ _ _ alone taken => alone_step taken.1 taken.2 alone
  · exact ends
  · cases called

omit [DecidableEq Thread] [DecidableEq Pointer] in
theorem Activity.Ends.destroys {activity : Activity Pointer} (ends : activity.Ends) :
    activity.Destroys := by
  cases activity with
  | posted body =>
    cases body with
    | endSession destructor =>
      cases destructor with
      | true => trivial
      | false => cases ends
    | _ => cases ends
  | destructing => trivial
  | _ => cases ends

theorem endsLast_of_alone {label : Label Thread Pointer} (settled : Settled s) (alone : Alone s)
    (taken : Step spatialProperties s label t) : EndsLast s label := by
  cases label with
  | queue move =>
    cases move with
    | post caller event =>
      obtain ⟨body, posting, -, present⟩ := post_cases taken
      refine ⟨?_, fun session => alone.session caller (by rw [session]; trivial)⟩
      rintro (destroyed | ⟨other, ends⟩)
      · rw [(posted_of_destroyed taken destroyed).2] at present
        cases present
      · obtain ⟨only, idle⟩ := alone.destructor (settled.destroyer.called other ends.destroys)
        have busy {caller : Caller Thread} (busy : s.activity caller ≠ .idle) : caller = only :=
          by_contra fun different => busy (idle caller different)
        have first : caller = only := busy (by simp [posting])
        have second : other = only := busy fun rests => by rw [rests] at ends; cases ends
        rw [second, ← first, posting] at ends
        cases ends
    | _ => trivial
  | _ => trivial

theorem endsLast_of_calledLast
    (run : Run (Restrict (Step spatialProperties) CalledLast) (init Thread capabilities initial)
      trace s) :
    Run (Restrict (Step spatialProperties) EndsLast) (init Thread capabilities initial)
      trace s := by
  induction run with
  | nil => exact .nil
  | snoc before taken ih =>
    exact ih.snoc ⟨endsLast_of_alone (settled_run before.unrestrict) (alone_run before) taken.2,
      taken.2⟩

/-- **A session ends once, and last, exactly where nobody else ends it** and nothing is posted after
the destructor has. It does where nobody calls `EndSession` and the destructor is the last call,
after all others have returned. -/
theorem ends_once_iff
    (run : Run (Step spatialProperties) (init Thread capabilities initial) trace s)
    (destroyed : s.queue.destroyed = true) (alive : s.callbacksAlive = true) :
    (EndsOnce (delivered trace) ↔
      Run (Restrict (Step spatialProperties) EndsLast) (init Thread capabilities initial)
        trace s) ∧
    (Run (Restrict (Step spatialProperties) CalledLast) (init Thread capabilities initial) trace s →
      EndsOnce (delivered trace)) := by
  rw [delivered_handled run alive,
    (handled_of_exited run ((closing_run run).left destroyed)).1]
  refine ⟨⟨fun once => ?_, fun kept => endsOnce_run kept (.inl destroyed)⟩,
    fun calls => endsOnce_run (endsLast_of_calledLast calls) (.inl destroyed)⟩
  refine run.restrict_or_breaks.resolve_right ?_
  rintro ⟨earlier, label, later, before, middle, rfl, reaches, breaks, taken, rest⟩
  exact not_endsOnce_of_breaks reaches.unrestrict taken breaks rest (.inl destroyed) once

/-- A callback starts ranging while a client destroys the session. -/
def endTrace : List (Label Nat Nat) :=
  [.queue .construct, .call (.client 1) (.nearObjectPropertiesChanged 2), .enter (.client 1),
    .queue (.post (.client 1) (.nearObjectPropertiesChanged [2])), .queue (.notify (.client 1)),
    .leave (.client 1), .return (.client 1) .unit, .queue .evaluate, .queue .announce,
    .call (.client 0) .destructor, .deliver (.nearObjectPropertiesChanged [2]),
    .call .worker .startRanging, .enter .worker, .queue (.post .worker .rangingStarted),
    .queue (.notify .worker), .leave .worker, .return .worker (.status .running),
    .enter (.client 0), .queue (.finish (.nearObjectPropertiesChanged [2]) .returned),
    .queue (.post (.client 0) .rangingStopped), .leave (.client 0),
    .queue (.post (.client 0) .sessionEnded), .leave (.client 0),
    .queue (.stop (.client 0) .run .destructor), .queue (.notify (.client 0)), .queue .loop,
    .queue .evaluate, .queue .announce, .deliver .rangingStarted,
    .queue (.finish .rangingStarted .returned), .deliver .rangingStopped,
    .queue (.finish .rangingStopped .returned), .deliver .sessionEnded,
    .queue (.finish .sessionEnded .returned), .queue .loop, .queue .evaluate,
    .queue (.join (.client 0))]

/-- A client creates a session and destroys it. -/
def soleTrace : List (Label Nat Nat) :=
  [.queue .construct, .call (.client 0) .destructor, .enter (.client 0),
    .queue (.post (.client 0) .sessionEnded), .queue (.notify (.client 0)), .leave (.client 0),
    .queue (.stop (.client 0) .run .destructor), .queue (.notify (.client 0)), .queue .evaluate,
    .queue .announce, .deliver .sessionEnded, .queue (.finish .sessionEnded .returned),
    .queue .loop, .queue .evaluate, .queue (.join (.client 0))]

theorem ends_once_reentrant :
    (∃ s, Run (Restrict (Step unset) EndsLast) (init Nat ⟨true⟩ [1]) endTrace s ∧
      s.queue.destroyed = true) ∧
    ∃ s, Run (Restrict (Step unset) CalledLast) (init Nat ⟨true⟩ [1]) soleTrace s ∧
      EndsOnce (delivered soleTrace) := by
  have run : Run (Step unset) (init Nat ⟨true⟩ [1]) endTrace _ := run_of_execute rfl
  have once : EndsOnce (delivered endTrace) :=
    ⟨[.nearObjectPropertiesChanged [2], .rangingStarted, .rangingStopped], rfl, by simp⟩
  -- after the call of the destructor nobody calls
  have calls : ∀ label ∈ soleTrace.drop 2, ∀ s : State Nat Nat, CalledLast s label := by
    simp [soleTrace, CalledLast]
  obtain ⟨s, ends, destroyed, alive⟩ : ∃ s,
      Run (Restrict (Step unset) CalledLast) (init Nat ⟨true⟩ [1]) soleTrace s ∧
        s.queue.destroyed = true ∧ s.callbacksAlive = true :=
    ⟨_, .cons ⟨trivial, rfl⟩ (.cons ⟨⟨nofun, rfl, fun _ _ => rfl⟩, rfl⟩
      ((Run.restrict (run_of_execute rfl) calls).mono fun s _ _ taken => ⟨taken.1 s, taken.2⟩)),
      rfl, rfl⟩
  exact ⟨⟨_, (ends_once_iff run rfl rfl).1.mp once, rfl⟩, s, ends,
    (ends_once_iff ends.unrestrict destroyed alive).2 ends⟩

/-- The implementing class ends the session, and then destroys it. -/
def endedTwiceTrace : List (Label Nat Nat) :=
  [.queue .construct, .call (.client 0) .endSession, .enter (.client 0),
    .queue (.post (.client 0) .sessionEnded), .queue (.notify (.client 0)), .leave (.client 0),
    .return (.client 0) .unit, .call (.client 0) .destructor, .enter (.client 0),
    .queue (.post (.client 0) .sessionEnded), .leave (.client 0),
    .queue (.stop (.client 0) .run .destructor), .queue (.notify (.client 0)), .queue .evaluate,
    .queue .announce, .deliver .sessionEnded, .queue (.finish .sessionEnded .returned),
    .deliver .sessionEnded, .queue (.finish .sessionEnded .returned), .queue .loop,
    .queue .evaluate, .queue (.join (.client 0)), .return (.client 0) .unit]

theorem ended_twice :
    ∃ s, Run (Step unset) (init Nat ⟨true⟩ [1])
        endedTwiceTrace s ∧ s.queue.destroyed = true ∧ s.callbacksAlive = true ∧
      delivered endedTwiceTrace = [.sessionEnded, .sessionEnded] ∧
      ¬ EndsOnce (delivered endedTwiceTrace) := by
  have twice : ¬ EndsOnce ([.sessionEnded] ++ [.sessionEnded] : List (Event Nat)) :=
    not_endsOnce (List.mem_singleton_self _) (List.cons_ne_nil _ _)
  exact ⟨_, run_of_execute rfl, rfl, rfl, rfl, twice⟩

end

end NearObject.Session
