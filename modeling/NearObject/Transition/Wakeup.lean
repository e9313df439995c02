/-
**The discipline of a wait point: no wake-up is lost.**

A thread sleeps at a wait point until somebody notifies it. What it waits for may come true while it
sleeps; that is harmless as long as a notification is then still owed to it. `Covered` says so of
one state. A system keeps it (`Disciplined.covered`) when

* nobody falls asleep on a condition that already holds, unless a notification is owed;
* whatever makes the condition true while the thread sleeps owes it a notification;
* an owed notification goes away only by waking the sleeper, or with the condition.

The last two are one clause here: from a covered state, a step that leaves the thread asleep leaves
a notification owed if the condition holds after it.
-/

import NearObject.Transition.Run

namespace Transition

variable {State Label : Type*}

/-- A wait point, seen from outside: is the thread asleep and not notified, does what it waits for
hold, and is a notification still to be issued. -/
structure WaitPoint (State : Type*) where
  asleep : State → Prop
  ready : State → Prop
  owed : State → Prop

namespace WaitPoint

variable (point : WaitPoint State)

/-- A sleeper whose condition holds is owed a notification. -/
def Covered (s : State) : Prop :=
  point.asleep s → point.ready s → point.owed s

/-- The discipline that keeps a wait point covered, in the states of an invariant. -/
structure Disciplined (inv : State → Prop) (step : State → Label → State → Prop) : Prop where
  falling : ∀ s label t, inv s → step s label t → ¬ point.asleep s → point.asleep t →
    point.ready t → point.owed t
  sleeping : ∀ s label t, inv s → step s label t → point.asleep s →
    (point.ready s → point.owed s) → point.asleep t → point.ready t → point.owed t

variable {point}

/-- **No wake-up is lost** in any run of a disciplined system. -/
theorem Disciplined.covered {inv : State → Prop} {step : State → Label → State → Prop}
    (disciplined : point.Disciplined inv step) {start finish : State} {trace : List Label}
    (kept : ∀ s label t, inv s → step s label t → inv t) (initially : inv start)
    (awake : point.Covered start) (run : Run step start trace finish) : point.Covered finish := by
  have both := run.invariant (fun s => inv s ∧ point.Covered s) ⟨initially, awake⟩
    fun s label t ⟨holds, covered⟩ taken => ⟨kept s label t holds taken, fun asleep ready => by
      by_cases before : point.asleep s
      · exact disciplined.sleeping s label t holds taken before (covered before) asleep ready
      · exact disciplined.falling s label t holds taken before asleep ready⟩
  exact both.2

end WaitPoint

end Transition
