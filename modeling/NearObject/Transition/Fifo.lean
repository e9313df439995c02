/-
**A first-in-first-out service, as a transition system.**

The state is the list of requests accepted and not yet taken; a request is accepted at the back and
taken at the front. `conservation` is the whole meaning of the service: over any run, what was taken
followed by what is pending is what was pending at the start followed by what was accepted.

An implementation is related to the service by `Transition.Refines`, with the places where it keeps
its requests joined into one list by the abstraction.
-/

import NearObject.Transition.Run

namespace Transition.Fifo

variable {Request : Type*}

/-- What the service does with a request. -/
inductive Event (Request : Type*)
  | accept (request : Request)
  | take (request : Request)

/-- One step of the service. -/
inductive Step : List Request → Event Request → List Request → Prop
  | accept (pending : List Request) (request : Request) :
      Step pending (.accept request) (pending ++ [request])
  | take (request : Request) (pending : List Request) :
      Step (request :: pending) (.take request) pending

/-- The requests accepted, in order. -/
def accepted (trace : List (Event Request)) : List Request :=
  trace.filterMap fun
    | .accept request => some request
    | .take _ => none

/-- The requests taken, in order. -/
def taken (trace : List (Event Request)) : List Request :=
  trace.filterMap fun
    | .take request => some request
    | .accept _ => none

/-- **Conservation and order.** -/
theorem conservation {trace : List (Event Request)} {start pending : List Request}
    (run : Run Step start trace pending) : taken trace ++ pending = start ++ accepted trace := by
  induction run with
  | nil => simp [taken, accepted]
  | @snoc trace middle pending event _ step ih =>
    cases step with
    | accept middle request =>
      calc taken (trace ++ [.accept request]) ++ (middle ++ [request])
          = taken trace ++ middle ++ [request] := by simp [taken]
        _ = start ++ accepted trace ++ [request] := by rw [ih]
        _ = start ++ accepted (trace ++ [.accept request]) := by simp [accepted]
    | take request pending =>
      calc taken (trace ++ [.take request]) ++ pending
          = taken trace ++ request :: pending := by simp [taken]
        _ = start ++ accepted trace := ih
        _ = start ++ accepted (trace ++ [.take request]) := by simp [accepted]

end Transition.Fifo
