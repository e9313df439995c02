/-
**`scope_exit` — programs that use guards end.**

A lambda may reset the guard that it is called by, and other guards whose lambdas do the same. As
each lambda is called at most once, each command of the program is performed at most once, and a
program takes no more steps than its text allows (`run_length_le`).

The budget of a program is split between the steps it has taken, the frames, and the lambdas that
may still be called.
-/

import NearObject.Scope.Once

namespace NearObject.Scope

open Transition

/-! ### The text of a program -/

section Text

variable {Guard : Type}

mutual

/-- How many steps a command allows, with those of its lambda. -/
def Command.steps : Command Guard → Nat
  | .scopeExit _ lambda => programSteps lambda + 1
  | .move _ _ | .release _ | .reset _ | .destroy _ => 1

/-- How many steps a program allows, with its end. -/
def programSteps : List (Command Guard) → Nat
  | [] => 1
  | command :: rest => command.steps + programSteps rest

end

/-- The steps that the frames allow. -/
def stackSteps : List (Frame Guard) → Nat
  | [] => 0
  | frame :: frames => programSteps frame.rest + stackSteps frames

/-- The steps that some lambdas allow. -/
def lambdaSteps : List (Lambda Guard) → Nat
  | [] => 0
  | lambda :: lambdas => programSteps lambda.body + lambdaSteps lambdas

theorem lambdaSteps_append (first second : List (Lambda Guard)) :
    lambdaSteps (first ++ second) = lambdaSteps first + lambdaSteps second := by
  induction first with
  | nil => exact (Nat.zero_add _).symm
  | cons lambda first ih =>
    rw [List.cons_append, lambdaSteps, ih, lambdaSteps, Nat.add_assoc]

/-- The lambdas that may still be called are among these. -/
def Covers (lambdas : List (Lambda Guard)) (s : State Guard) : Prop :=
  ∀ guard held, s.guards guard = some held → held.call = true → held.lambda ∈ lambdas

/-- No two guards are about to call the same lambda. -/
def Apart (s : State Guard) : Prop :=
  ∀ guard other held another, s.guards guard = some held → s.guards other = some another →
    held.call = true → another.call = true → held.lambda = another.lambda → guard = other

end Text

section Budget

variable {Guard : Type} [DecidableEq Guard] {s t u : State Guard} {label : Label Guard}
  {guard : Guard} {trace : List (Label Guard)} {program : List (Command Guard)}
  {lambdas : List (Lambda Guard)}

theorem Tracks.apart (tracks : Tracks trace s) : Apart s := by
  intro guard other held another here there set also same
  obtain ⟨first, -⟩ := (tracks.flags guard held here _).mp ⟨set, rfl⟩
  obtain ⟨second, -⟩ := (tracks.flags other another there _).mp ⟨also, rfl⟩
  rw [← same] at second
  exact holding_unique tracks.issuedOnce first second

/-- A guard that is set to a value whose flag is clear calls nothing. -/
theorem Covers.set (covers : Covers lambdas s) (guard : Guard)
    (value : Option (LambdaCall (Lambda Guard)))
    (clear : ∀ left, value = some left → left.call = false) :
    Covers lambdas (s.set guard value) := by
  intro other held here set
  by_cases same : other = guard
  · subst same
    rw [set_self] at here
    rw [clear held here] at set
    cases set
  · rw [set_of_ne same] at here
    exact covers other held here set

/-- **A lambda that is called is taken out.** -/
theorem Covers.take {value : Option (LambdaCall (Lambda Guard))} {held : LambdaCall (Lambda Guard)}
    (covers : Covers lambdas s) (apart : Apart s) (here : s.guards guard = some held)
    (set : held.call = true) (clear : ∀ left, value = some left → left.call = false) :
    ∃ rest, Covers rest (s.set guard value) ∧
      lambdaSteps lambdas = programSteps held.lambda.body + lambdaSteps rest := by
  obtain ⟨front, back, rfl⟩ := List.append_of_mem (covers guard held here set)
  refine ⟨front ++ back, ?_, ?_⟩
  · intro other another there also
    by_cases same : other = guard
    · subst same
      rw [set_self] at there
      rw [clear another there] at also
      cases also
    · rw [set_of_ne same] at there
      have member := covers other another there also
      rw [List.mem_append, List.mem_cons] at member
      rw [List.mem_append]
      rcases member with member | rest | member
      · exact .inl member
      · exact absurd (apart other guard another held there here also set rest) same
      · exact .inr member
  · rw [lambdaSteps_append, lambdaSteps_append, lambdaSteps, Nat.add_left_comm]

/-- A guard that is reset or destroyed calls its lambda, which is taken out, or calls nothing. -/
theorem Covers.reset {held : LambdaCall (Lambda Guard)} (covers : Covers lambdas s)
    (apart : Apart s) (here : s.guards guard = some held) (destroying : Option Guard) :
    ∃ rest, Covers rest ((s.set guard (some held.reset.1)).enter held.reset.2 destroying) ∧
      stackSteps ((s.set guard (some held.reset.1)).enter held.reset.2 destroying).stack +
        lambdaSteps rest = stackSteps s.stack + lambdaSteps lambdas := by
  cases calls : held.reset.2 with
  | none => exact ⟨lambdas, covers.set guard _ (reset_clear held), rfl⟩
  | some lambda =>
    obtain ⟨set, same⟩ := (reset_calls held id lambda).mp (by rw [calls, Option.map_some, id])
    obtain rfl : held.lambda = lambda := same
    obtain ⟨rest, covered, taken⟩ := covers.take apart here set (reset_clear held)
    refine ⟨rest, covered, ?_⟩
    rw [taken]
    simp only [State.enter, State.set, stackSteps]
    omega

/-- **A command takes its step out of the budget**, and leaves the rest to its lambda. -/
theorem Performed.paid {command : Command Guard} (covers : Covers lambdas u) (apart : Apart u)
    (performed : Performed u command label t) :
    ∃ rest, Covers rest t ∧ stackSteps t.stack + lambdaSteps rest + 1 =
      stackSteps u.stack + lambdaSteps lambdas + command.steps := by
  cases performed with
  | scopeExit guard lambda free =>
    refine ⟨⟨u.created, lambda⟩ :: lambdas, ?_, ?_⟩
    · intro other held here set
      by_cases same : other = guard
      · subst same
        obtain rfl := Option.some.inj ((set_self ..).symm.trans here)
        exact List.mem_cons_self ..
      · have before := (set_of_ne same ..).symm.trans here
        exact List.mem_cons_of_mem _ (covers other held before set)
    · simp only [State.set, lambdaSteps, Command.steps]
      omega
  | move other guard moved given free =>
    refine ⟨lambdas, ?_, rfl⟩
    intro another held here set
    by_cases new : another = guard
    · subst new
      rw [set_self] at here
      obtain rfl := Option.some.inj here
      exact covers other moved given set
    · rw [set_of_ne new] at here
      refine covers.set other (some moved.move.2) ?_ another held here set
      intro left same
      obtain rfl := Option.some.inj same
      rfl
  | release guard held here =>
    refine ⟨lambdas, covers.set guard (some held.release) ?_, rfl⟩
    intro left same
    obtain rfl := Option.some.inj same
    rfl
  | reset guard held here =>
    obtain ⟨rest, covered, budget⟩ := covers.reset apart here none
    exact ⟨rest, covered, congrArg (· + 1) budget⟩
  | destroyCalling guard held lambda alive here calls =>
    obtain ⟨rest, covered, budget⟩ := covers.reset apart here (some guard)
    rw [calls] at covered budget
    exact ⟨rest, covered, congrArg (· + 1) budget⟩
  | destroy guard held alive here silent =>
    exact ⟨lambdas, covers.set guard none (fun left same => by cases same), rfl⟩

/-- **Each step is paid for.** -/
theorem budget_step (covers : Covers lambdas s) (apart : Apart s) (taken : Step s label t) :
    ∃ rest, Covers rest t ∧
      stackSteps t.stack + lambdaSteps rest + 1 = stackSteps s.stack + lambdaSteps lambdas := by
  rcases step_cases taken with ⟨command, u, behind, performs⟩ | ⟨destroyed, -, shape, -, guards⟩
  · have covers : Covers lambdas u := by
      unfold Covers
      rw [behind.guards]
      exact covers
    have apart : Apart u := by
      unfold Apart
      rw [behind.guards]
      exact apart
    obtain ⟨rest, covered, budget⟩ := (performed_of_perform performs).paid covers apart
    refine ⟨rest, covered, ?_⟩
    rw [budget]
    cases behind with
    | intro shape =>
      rw [shape]
      simp only [stackSteps, programSteps]
      omega
  · refine ⟨lambdas, ?_, ?_⟩
    · intro guard held here set
      exact covers guard held (guards guard held here) set
    · rw [shape]
      simp only [stackSteps, programSteps]
      omega

/-- **A program takes no more steps than its text allows.** -/
theorem run_length_le (run : Run Step (init program) trace s) :
    trace.length ≤ programSteps program := by
  obtain ⟨lambdas, -, budget⟩ : ∃ lambdas, Covers lambdas s ∧
      trace.length + (stackSteps s.stack + lambdaSteps lambdas) = programSteps program := by
    refine run.history (fun trace s => ∃ lambdas, Covers lambdas s ∧
      trace.length + (stackSteps s.stack + lambdaSteps lambdas) = programSteps program) ?_ ?_
    · refine ⟨[], ?_, ?_⟩
      · intro guard held here
        cases here
      · simp [init, stackSteps, lambdaSteps]
    · rintro trace s label t before ⟨lambdas, covers, budget⟩ taken
      obtain ⟨rest, covered, paid⟩ := budget_step covers (tracks_run before).apart taken
      refine ⟨rest, covered, ?_⟩
      rw [List.length_append, List.length_singleton]
      omega
  omega

end Budget

end NearObject.Scope
