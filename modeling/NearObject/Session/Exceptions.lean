/-
**`NearObjectSession` — when a call on a session throws.**

The only exception of a call is that of the `post` of its event, while a stop of the queue is
pending; and the queue of a session is stopped by the destructor alone, past its own posts
(`stopped_iff`). So a call throws exactly if it comes to its `post` after that stop. An exception
out of the destructor would end the program, and never comes.
-/

import NearObject.Session.Progress

namespace NearObject.Session

open Transition
open TaskQueue (Caller)

section

variable {Thread Pointer Value : Type} [DecidableEq Thread] [DecidableEq Pointer] [BEq Value]
  {spatialProperties : Pointer → NearObjectSpatialProperties Value} {s t : State Thread Pointer}
  {capabilities : NearObjectCapabilities} {initial : List Pointer}
  {trace : List (Label Thread Pointer)}

/-- The destructor has stopped the queue. -/
def Stopped (trace : List (Label Thread Pointer)) : Prop :=
  ∃ owner, .queue (.stop owner .run .destructor) ∈ trace

omit [DecidableEq Thread] [DecidableEq Pointer] in
theorem stopped_snoc {label : Label Thread Pointer} :
    Stopped (trace ++ [label]) ↔
      Stopped trace ∨ ∃ owner, label = .queue (.stop owner .run .destructor) := by
  simp only [Stopped, List.mem_append, List.mem_singleton, exists_or]
  exact or_congr_right (exists_congr fun owner => eq_comm)

/-- A step leaves a stop pending where there was one, or where it is one. -/
theorem stopPending_step {label : Label Thread Pointer}
    (taken : Step spatialProperties s label t) (drained : TaskQueue.Drained s.queue) :
    t.queue.members.isStopPending = true ↔ s.queue.members.isStopPending = true ∨
      ∃ owner, label = .queue (.stop owner .run .destructor) := by
  rcases queue_cases taken with ⟨steps, same⟩ | ⟨move, steps, moved, stops, -⟩
  · rw [same]
    refine (or_iff_left ?_).symm
    rintro ⟨owner, rfl⟩
    cases steps
  · by_cases stop : ∃ owner action site, move = .stop owner action site
    · obtain ⟨owner, action, site, rfl⟩ := stop
      obtain ⟨-, rfl, rfl⟩ := stops owner action site rfl
      have shape : label = .queue (.stop owner .run .destructor) := by
        cases label with
        | queue other => rw [List.singleton_inj.mp steps]
        | deliver event => cases List.singleton_inj.mp steps
        | drop event => cases List.singleton_inj.mp steps
        | _ => cases steps
      obtain ⟨-, -, queue⟩ := TaskQueue.step_stop.mp moved
      have pending : (s.queue.members.stop .run).isStopPending = true :=
        TaskQueue.stop_isStopPending .run
      refine ⟨fun _ => .inr ⟨owner, shape⟩, fun _ => ?_⟩
      rw [queue]
      exact pending
    · have other : ¬ ∃ owner, label = .queue (.stop owner .run .destructor) := by
        rintro ⟨owner, rfl⟩
        exact stop ⟨owner, .run, .destructor, (List.singleton_inj.mp steps).symm⟩
      rw [or_iff_left other]
      rcases TaskQueue.members_cases moved with ⟨caller, task, -, -, same⟩ |
        ⟨caller, action, site, rfl, -⟩ | ⟨-, fresh, same⟩ | ⟨-, -, -, -, same⟩ | ⟨-, same⟩
      · rw [same]
        rfl
      · exact absurd ⟨caller, action, site, rfl⟩ stop
      · -- before the constructor is done there is no stop
        rw [same, TaskQueue.Members.isStopPending, TaskQueue.Members.isStopPending,
          drained.unborn fresh]
      · rw [same]
        rfl
      · rw [same]

/-- **A stop is pending once the destructor has stopped the queue.** -/
theorem stopped_iff
    (run : Run (Step spatialProperties) (init Thread capabilities initial) trace s) :
    s.queue.members.isStopPending = true ↔ Stopped trace := by
  refine run.history (fun trace s => s.queue.members.isStopPending = true ↔ Stopped trace) ?_
    fun trace s label t before same taken => ?_
  · refine iff_of_false (by simp [init, TaskQueue.init, TaskQueue.Members.isStopPending]) ?_
    rintro ⟨owner, member⟩
    exact absurd member List.not_mem_nil
  · rw [stopPending_step taken (settled_run before).drained, same, stopped_snoc]

/-- **A call throws exactly if its `post` comes after the stop of the destructor**: the `post` is
refused after it, and accepted before it. The caller has then left the call, without a gate, and it
was not the destructor. -/
theorem throws_iff_stopped
    (run : Run (Step spatialProperties) (init Thread capabilities initial) trace s) :
    (∀ early caller event late, trace = early ++ .queue (.refuse caller event) :: late →
        Stopped early) ∧
      (∀ early caller event late, trace = early ++ .queue (.post caller event) :: late →
        ¬ Stopped early) ∧
      (∀ caller event t, Step spatialProperties s (.queue (.refuse caller event)) t →
        t.activity caller = .idle ∧ ∀ gate, t.owner gate ≠ some caller) ∧
      ∀ caller, s.activity caller ≠ .terminated := by
  refine ⟨?_, ?_, ?_, (reached_run run).present⟩
  · rintro early caller event late rfl
    obtain ⟨before, after, first, taken, -⟩ := run.cut early late
    obtain ⟨followed, queue, -, moved, -⟩ := step_queue.mp taken
    exact (stopped_iff first).mp (TaskQueue.step_refuse.mp moved).2.1
  · rintro early caller event late rfl stopped
    obtain ⟨before, after, first, taken, -⟩ := run.cut early late
    obtain ⟨followed, queue, -, moved, -⟩ := step_queue.mp taken
    have running := (TaskQueue.step_post.mp moved).2.1
    rw [(stopped_iff first).mpr stopped] at running
    cases running
  · intro caller event t taken
    have reached := reached_run (run.snoc taken)
    obtain ⟨followed, queue, follows, moved, shape⟩ := step_queue.mp taken
    obtain ⟨body, -, rfl⟩ := follow_refuse.mp follows
    have thrown : t.activity caller = body.thrown := by
      rw [shape]
      exact Function.update_self ..
    have idle : t.activity caller = .idle := by
      rcases thrown_cases body with idle | terminated
      · exact thrown.trans idle
      · exact absurd (thrown.trans terminated) (reached.present caller)
    refine ⟨idle, fun gate holds => ?_⟩
    have inside := (reached.consistent.held gate caller).mp holds
    rw [idle] at inside
    cases inside

/-- A callback removes a near object while the destructor waits for it. -/
def refusedTrace : List (Label Nat Nat) :=
  [.queue .construct, .call (.client 0) (.addNearObjects [7]), .enter (.client 0),
    .queue (.post (.client 0) (.sessionMembershipChanged [7] [])), .queue (.notify (.client 0)),
    .leave (.client 0), .return (.client 0) .unit, .queue .evaluate, .queue .announce,
    .deliver (.sessionMembershipChanged [7] []), .call (.client 1) .destructor, .enter (.client 1),
    .queue (.post (.client 1) .sessionEnded), .queue (.notify (.client 1)), .leave (.client 1),
    .queue (.stop (.client 1) .run .destructor), .call .worker (.removeNearObjects [7]),
    .enter .worker, .queue (.refuse .worker (.sessionMembershipChanged [] [7]))]

theorem throws_iff_stopped_refused :
    ∃ s, Run (Step unset) (init Nat ⟨true⟩ [])
        refusedTrace s ∧ Stopped (refusedTrace.take 18) ∧ s.activity (.client 1) = .destructing ∧
      ∀ caller, s.activity caller ≠ .terminated := by
  have run : Run (Step unset) (init Nat ⟨true⟩ [])
      refusedTrace _ := run_of_execute rfl
  obtain ⟨refused, -, -, present⟩ := throws_iff_stopped run
  exact ⟨_, run, refused (refusedTrace.take 18) _ _ [] rfl, rfl, present⟩

end

end NearObject.Session
