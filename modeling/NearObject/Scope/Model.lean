/-
**`scope_exit` — guards, and programs that use them.**

`scope_exit` makes a guard from a lambda. The guard can be moved into a new one, released, reset and
destroyed, and a flag in it says whether the lambda is still to be called.

A program is a list of these operations. The lambda of a guard is a program as well, over the same
guards, so that it can reset the guard it is called by. While a lambda runs, the rest of the program
that called it waits in a frame; the frame of a lambda that a destructor has called remembers the
guard, whose lifetime ends when the lambda has returned. An operation on a guard that does not
exist is not defined, nor is destroying a guard again that is being destroyed.
-/

import NearObject.Transition.Token

namespace NearObject.Scope

open Transition

/-! ### The class -/

/-- `details::lambda_call`: its `m_lambda` and `m_call`. -/
structure LambdaCall (Lambda : Type) where
  lambda : Lambda
  call : Bool
  deriving DecidableEq, Repr

section Members

variable {Lambda : Type}

/-- `lambda_call(TLambda&&)`, and so `scope_exit`. -/
def LambdaCall.create (lambda : Lambda) : LambdaCall Lambda where
  lambda := lambda
  call := true

/-- `lambda_call(lambda_call&& other)`: the new guard, and what is left of `other`. Moving from a
lambda may be copying it, so that it stays. -/
def LambdaCall.move (other : LambdaCall Lambda) : LambdaCall Lambda × LambdaCall Lambda :=
  ({ lambda := other.lambda, call := other.call }, { other with call := false })

def LambdaCall.release (guard : LambdaCall Lambda) : LambdaCall Lambda :=
  { guard with call := false }

/-- `reset`, up to the call of the lambda: the guard, and the lambda to be called. -/
def LambdaCall.reset (guard : LambdaCall Lambda) : LambdaCall Lambda × Option Lambda :=
  if guard.call then ({ guard with call := false }, some guard.lambda) else (guard, none)

/-- The flag is clear afterwards. -/
theorem reset_call (guard : LambdaCall Lambda) : guard.reset.1.call = false := by
  unfold LambdaCall.reset
  split
  · rfl
  · rename_i clear
    exact Bool.eq_false_iff.mpr clear

theorem reset_clear (guard left : LambdaCall Lambda) (same : some guard.reset.1 = some left) :
    left.call = false := by
  obtain rfl := Option.some.inj same
  exact reset_call guard

/-- The lambda is called if the flag was set. -/
theorem reset_calls {Value : Type} (guard : LambdaCall Lambda) (value : Lambda → Value)
    (shown : Value) :
    guard.reset.2.map value = some shown ↔ guard.call = true ∧ value guard.lambda = shown := by
  unfold LambdaCall.reset
  split
  · rename_i set
    simp [set]
  · rename_i clear
    simp [clear]

/-- `operator bool`. -/
def LambdaCall.toBool (guard : LambdaCall Lambda) : Bool :=
  guard.call

end Members

/-! ### Programs -/

/-- The operations on guards. A lambda is a program. -/
inductive Command (Guard : Type)
  /-- `auto guard = scope_exit([&] { lambda });` -/
  | scopeExit (guard : Guard) (lambda : List (Command Guard))
  /-- `auto guard = std::move(other);` -/
  | move (other guard : Guard)
  | release (guard : Guard)
  | reset (guard : Guard)
  /-- The end of the guard's lifetime. -/
  | destroy (guard : Guard)

/-- A lambda, known by when it was created. -/
structure Lambda (Guard : Type) where
  serial : Nat
  body : List (Command Guard)

/-- The rest of a program, and the guard whose destructor has called it. -/
structure Frame (Guard : Type) where
  rest : List (Command Guard)
  destroying : Option Guard

/-- The guards that exist, how many lambdas have been created, and the frames, innermost first. -/
structure State (Guard : Type) where
  guards : Guard → Option (LambdaCall (Lambda Guard))
  created : Nat
  stack : List (Frame Guard)

def init {Guard : Type} (program : List (Command Guard)) : State Guard where
  guards := fun _ => none
  created := 0
  stack := [⟨program, none⟩]

/-- The steps of a program; lambdas are shown by their serial number. -/
inductive Label (Guard : Type)
  | scopeExit (guard : Guard) (lambda : Nat)
  | move (other guard : Guard)
  | release (guard : Guard)
  /-- The lambda that it calls, if it calls one. -/
  | reset (guard : Guard) (called : Option Nat)
  | destroy (guard : Guard) (called : Option Nat)
  /-- A lambda returns, or the program ends; and the destructor that called the lambda. -/
  | return (destroyed : Option Guard)
  deriving DecidableEq, Repr

section Frames

variable {Guard : Type}

/-- A lambda that is called runs in a frame of its own. -/
def State.enter (s : State Guard) (lambda : Option (Lambda Guard)) (destroying : Option Guard) :
    State Guard :=
  match lambda with
  | some lambda => { s with stack := ⟨lambda.body, destroying⟩ :: s.stack }
  | none => s

@[simp]
theorem enter_guards (s : State Guard) (lambda : Option (Lambda Guard))
    (destroying : Option Guard) : (s.enter lambda destroying).guards = s.guards := by
  cases lambda <;> rfl

@[simp]
theorem enter_created (s : State Guard) (lambda : Option (Lambda Guard))
    (destroying : Option Guard) : (s.enter lambda destroying).created = s.created := by
  cases lambda <;> rfl

end Frames

section Steps

variable {Guard : Type} [DecidableEq Guard]

/-- The state with a guard, or without it. -/
def State.set (s : State Guard) (guard : Guard) (value : Option (LambdaCall (Lambda Guard))) :
    State Guard :=
  { s with guards := Function.update s.guards guard value }

@[simp]
theorem set_self (s : State Guard) (guard : Guard) (value : Option (LambdaCall (Lambda Guard))) :
    (s.set guard value).guards guard = value :=
  Function.update_self ..

theorem set_of_ne {other guard : Guard} (different : other ≠ guard) (s : State Guard)
    (value : Option (LambdaCall (Lambda Guard))) :
    (s.set guard value).guards other = s.guards other :=
  Function.update_of_ne different ..

/-- The destructor of the guard has called its lambda, which has not returned. -/
def State.Destroying (s : State Guard) (guard : Guard) : Prop :=
  ∃ frame ∈ s.stack, frame.destroying = some guard

instance (s : State Guard) (guard : Guard) : Decidable (s.Destroying guard) :=
  inferInstanceAs (Decidable (∃ frame ∈ s.stack, frame.destroying = some guard))

/-- An operation, from the state in which the program is behind it. -/
def State.perform (s : State Guard) : Command Guard → Option (Label Guard × State Guard)
  | .scopeExit guard lambda =>
    match s.guards guard with
    | some _ => none
    | none =>
      some (.scopeExit guard s.created,
        { s.set guard (some (.create ⟨s.created, lambda⟩)) with created := s.created + 1 })
  | .move other guard =>
    match s.guards other, s.guards guard with
    | some moved, none =>
      some (.move other guard, (s.set other (some moved.move.2)).set guard (some moved.move.1))
    | _, _ => none
  | .release guard =>
    (s.guards guard).map fun held => (.release guard, s.set guard (some held.release))
  | .reset guard =>
    (s.guards guard).map fun held =>
      (.reset guard (held.reset.2.map Lambda.serial),
        (s.set guard (some held.reset.1)).enter held.reset.2 none)
  | .destroy guard =>
    if s.Destroying guard then none
    else
      (s.guards guard).map fun held =>
        match held.reset.2 with
        | some lambda =>
          (.destroy guard (some lambda.serial),
            (s.set guard (some held.reset.1)).enter (some lambda) (some guard))
        | none => (.destroy guard none, s.set guard none)

/-- **One step of a program**, `none` where it has ended or has no defined behaviour. -/
def State.step (s : State Guard) : Option (Label Guard × State Guard) :=
  match s.stack with
  | [] => none
  | ⟨[], destroying⟩ :: frames =>
    let s := { s with stack := frames }
    some (.return destroying,
      match destroying with
      | some guard => s.set guard none
      | none => s)
  | ⟨command :: rest, destroying⟩ :: frames =>
    { s with stack := ⟨rest, destroying⟩ :: frames }.perform command

/-- The step, if it is the one that the label shows. -/
def State.next (s : State Guard) (label : Label Guard) : Option (State Guard) :=
  match s.step with
  | some (shown, t) => if shown = label then some t else none
  | none => none

/-- A program, as a system. -/
abbrev Step : State Guard → Label Guard → State Guard → Prop :=
  Next State.next

theorem step_iff {s t : State Guard} {label : Label Guard} :
    Step s label t ↔ s.step = some (label, t) := by
  unfold Step Next State.next
  split
  · rename_i shown u steps
    rw [Option.ite_none_right_eq_some, steps, Option.some.injEq, Option.some.injEq, Prod.mk.injEq]
  · rename_i none
    simp [none]

end Steps

/-! ### What a trace shows -/

section Traces

variable {Guard : Type}

/-- The lambda that a step calls. -/
def Label.called? : Label Guard → Option Nat
  | .reset _ called | .destroy _ called => called
  | _ => none

/-- The lambdas called, in order. -/
def called (trace : List (Label Guard)) : List Nat :=
  trace.filterMap Label.called?

/-- What a step means for the right to call a lambda, as a token of the guard that owns it. -/
def Label.events : Label Guard → List (TokenEvent Guard Nat)
  | .scopeExit guard lambda => [.issue guard lambda]
  | .move other guard => [.pass other guard]
  | .release guard => [.cancel guard]
  | .reset guard _ | .destroy guard _ => [.use guard]
  | .return _ => []

/-- Who owned which lambda, and what they did. -/
def history (trace : List (Label Guard)) : List (TokenEvent Guard Nat) :=
  trace.flatMap Label.events

theorem called_append (first second : List (Label Guard)) :
    called (first ++ second) = called first ++ called second :=
  List.filterMap_append

theorem history_append (first second : List (Label Guard)) :
    history (first ++ second) = history first ++ history second :=
  List.flatMap_append

theorem history_snoc (trace : List (Label Guard)) (label : Label Guard) :
    history (trace ++ [label]) = history trace ++ label.events := by
  rw [history_append]
  exact congrArg _ (List.append_nil _)

theorem called_snoc (trace : List (Label Guard)) (label : Label Guard) :
    called (trace ++ [label]) = called trace ++ label.called?.toList := by
  rw [called_append]
  cases shown : label.called? with
  | none => simp [called, shown]
  | some lambda => simp [called, shown]

end Traces

end NearObject.Scope
