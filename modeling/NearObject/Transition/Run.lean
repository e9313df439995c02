/-
**Labelled transitions — finite runs, what every run preserves, and runs of a restricted system.**

A system is its step relation `State → Label → State → Prop`; the label is what an observer of the
step sees. `Run step start trace finish` is a finite run, with its labels in order.

* `Run.invariant`, `Run.history` — the two induction rules. An invariant is about the state; a
  history is about the state together with the labels that led to it.
* `Run.append`, `Run.split`, `Run.cut` — a run is cut at any point of its trace, or at a step, and
  put together again.
* `Run.crossing` — a condition that comes to hold does so at a step.
* `Restrict` — the same system, taking only the steps that meet a condition on the state before
  the step. A run of it is a run of the whole system (`Run.unrestrict`), and a run of the whole
  system is one of it if its labels meet the condition (`Run.restrict`), or else has a first step
  that breaks it (`Run.restrict_or_breaks`).
* `Shown` — the same system, where a label shows the state that it leads to.
* `execute` — the run of a system given by a partial function, as a computation.
* `Refines.run`, `Simulates.run` — steps explained one by one in an abstract system explain the
  whole run, by a function of the state or by a relation.
* `snoc_eq_split` — where a label can be in a trace that has become longer by one.
-/

import Mathlib.Data.List.Induction

namespace Transition

variable {State Label : Type*}

/-! ### Traces -/

/-- A label of a trace that has become longer by one is the last one, or was there before. -/
theorem snoc_eq_split {trace early late : List Label} {last label : Label} :
    trace ++ [last] = early ++ label :: late ↔
      (early = trace ∧ label = last ∧ late = []) ∨
        ∃ rest, late = rest ++ [last] ∧ trace = early ++ label :: rest := by
  constructor
  · intro same
    rcases List.eq_nil_or_concat late with rfl | ⟨rest, final, rfl⟩
    · obtain ⟨rfl, here⟩ := List.append_inj' same rfl
      exact .inl ⟨rfl, (List.singleton_inj.mp here).symm, rfl⟩
    · rw [List.concat_eq_append, ← List.cons_append, ← List.append_assoc] at same
      obtain ⟨rfl, here⟩ := List.append_inj' same rfl
      exact .inr ⟨rest, by rw [List.concat_eq_append, List.singleton_inj.mp here], rfl⟩
  · rintro (⟨rfl, rfl, rfl⟩ | ⟨rest, rfl, rfl⟩)
    · rfl
    · rw [List.append_assoc, List.cons_append]

/-! ### Runs -/

/-- **A finite run** from `start`, by its labels in order. -/
inductive Run (step : State → Label → State → Prop) (start : State) : List Label → State → Prop
  | nil : Run step start [] start
  | snoc {trace : List Label} {middle finish : State} {label : Label} :
      Run step start trace middle → step middle label finish →
        Run step start (trace ++ [label]) finish

section Runs

variable {step : State → Label → State → Prop} {start middle finish : State}

theorem Run.single {label : Label} (taken : step start label finish) :
    Run step start [label] finish :=
  .snoc .nil taken

theorem Run.append {first second : List Label} (before : Run step start first middle)
    (after : Run step middle second finish) : Run step start (first ++ second) finish := by
  induction after with
  | nil => rwa [List.append_nil]
  | snoc _ taken ih =>
    rw [← List.append_assoc]
    exact .snoc ih taken

theorem Run.cons {label : Label} {trace : List Label} (taken : step start label middle)
    (after : Run step middle trace finish) : Run step start (label :: trace) finish :=
  (Run.single taken).append after

theorem Run.nil_inv (run : Run step start [] finish) : finish = start := by
  generalize shape : ([] : List Label) = trace at run
  cases run with
  | nil => rfl
  | snoc _ _ => simp at shape

theorem Run.snoc_inv (trace : List Label) {label : Label}
    (run : Run step start (trace ++ [label]) finish) :
    ∃ middle, Run step start trace middle ∧ step middle label finish := by
  generalize shape : trace ++ [label] = whole at run
  cases run with
  | nil => simp at shape
  | snoc before taken =>
    obtain ⟨rfl, same⟩ := List.append_inj' shape rfl
    obtain rfl := List.singleton_inj.mp same
    exact ⟨_, before, taken⟩

/-- **A run is cut at any point of its trace.** -/
theorem Run.split (first second : List Label) :
    ∀ {finish : State}, Run step start (first ++ second) finish →
      ∃ middle, Run step start first middle ∧ Run step middle second finish := by
  induction second using List.reverseRecOn with
  | nil =>
    intro finish run
    rw [List.append_nil] at run
    exact ⟨finish, run, .nil⟩
  | append_singleton second label ih =>
    intro finish run
    rw [← List.append_assoc] at run
    obtain ⟨last, before, taken⟩ := run.snoc_inv (first ++ second)
    obtain ⟨middle, first, rest⟩ := ih before
    exact ⟨middle, first, rest.snoc taken⟩

theorem Run.cons_inv {label : Label} {trace : List Label}
    (run : Run step start (label :: trace) finish) :
    ∃ middle, step start label middle ∧ Run step middle trace finish := by
  obtain ⟨middle, first, rest⟩ := Run.split [label] trace run
  obtain ⟨origin, none, taken⟩ := Run.snoc_inv [] first
  rw [none.nil_inv] at taken
  exact ⟨middle, taken, rest⟩

/-- **A run is cut at any step of its trace.** -/
theorem Run.cut (early late : List Label) {label : Label}
    (run : Run step start (early ++ label :: late) finish) :
    ∃ before after, Run step start early before ∧ step before label after ∧
      Run step after late finish := by
  obtain ⟨before, first, rest⟩ := Run.split early _ run
  obtain ⟨after, taken, rest⟩ := rest.cons_inv
  exact ⟨before, after, first, taken, rest⟩

theorem Run.mono {wider : State → Label → State → Prop} {trace : List Label}
    (weaken : ∀ s label t, step s label t → wider s label t) (run : Run step start trace finish) :
    Run wider start trace finish := by
  induction run with
  | nil => exact .nil
  | snoc _ taken ih => exact .snoc ih (weaken _ _ _ taken)

/-- **The invariant rule.** -/
theorem Run.invariant (inv : State → Prop) {trace : List Label} (initially : inv start)
    (preserved : ∀ s label t, inv s → step s label t → inv t)
    (run : Run step start trace finish) : inv finish := by
  induction run with
  | nil => exact initially
  | snoc _ taken ih => exact preserved _ _ _ ih taken

/-- **The history rule.** What is said of the labels so far and the state they led to may use the
run that led there. -/
theorem Run.history (claim : List Label → State → Prop) {trace : List Label}
    (initially : claim [] start)
    (preserved : ∀ trace s label t, Run step start trace s → claim trace s → step s label t →
      claim (trace ++ [label]) t)
    (run : Run step start trace finish) : claim trace finish := by
  induction run with
  | nil => exact initially
  | snoc before taken ih => exact preserved _ _ _ _ before ih taken

/-- **A condition that comes to hold does so at a step.** -/
theorem Run.crossing (holds : State → Prop) {trace : List Label} (initially : ¬ holds start)
    (run : Run step start trace finish) (reached : holds finish) :
    ∃ earlier label later s t, trace = earlier ++ label :: later ∧ Run step start earlier s ∧
      ¬ holds s ∧ step s label t ∧ holds t ∧ Run step t later finish := by
  induction run with
  | nil => exact absurd reached initially
  | @snoc trace middle finish label before taken ih =>
    by_cases already : holds middle
    · obtain ⟨earlier, first, later, s, t, rfl, reaches, not, crosses, now, rest⟩ := ih already
      exact ⟨earlier, first, later ++ [label], s, t, by simp, reaches, not, crosses, now,
        rest.snoc taken⟩
    · exact ⟨trace, label, [], middle, finish, rfl, before, already, taken, reached, .nil⟩

end Runs

/-! ### Restricted systems -/

section Restricted

variable {step : State → Label → State → Prop} {allowed : State → Label → Prop}

/-- The steps that meet a condition on the state before the step and its label. -/
def Restrict (step : State → Label → State → Prop) (allowed : State → Label → Prop) :
    State → Label → State → Prop :=
  fun s label t => allowed s label ∧ step s label t

theorem Run.unrestrict {start finish : State} {trace : List Label}
    (run : Run (Restrict step allowed) start trace finish) : Run step start trace finish :=
  run.mono fun _ _ _ taken => taken.2

/-- A run whose labels meet a condition. -/
theorem Run.restrict {allowed : Label → Prop} {start finish : State} {trace : List Label}
    (run : Run step start trace finish) (all : ∀ label ∈ trace, allowed label) :
    Run (Restrict step fun _ label => allowed label) start trace finish := by
  induction run with
  | nil => exact .nil
  | snoc _ taken ih =>
    exact .snoc (ih fun label member => all label (List.mem_append_left _ member))
      ⟨all _ (List.mem_append_right _ (List.mem_singleton_self _)), taken⟩

/-- A run meets the condition throughout, or up to a step that breaks it. -/
theorem Run.restrict_or_breaks {start finish : State} {trace : List Label}
    (run : Run step start trace finish) :
    Run (Restrict step allowed) start trace finish ∨
      ∃ earlier label later s t, trace = earlier ++ label :: later ∧
        Run (Restrict step allowed) start earlier s ∧ ¬ allowed s label ∧ step s label t ∧
        Run step t later finish := by
  induction run with
  | nil => exact .inl .nil
  | @snoc trace middle finish label before taken ih =>
    rcases ih with kept | ⟨earlier, first, later, s, t, rfl, reaches, breaks, crosses, rest⟩
    · by_cases keeps : allowed middle label
      · exact .inl (kept.snoc ⟨keeps, taken⟩)
      · exact .inr ⟨trace, label, [], middle, finish, rfl, kept, keeps, taken, .nil⟩
    · exact .inr ⟨earlier, first, later ++ [label], s, t, by simp, reaches, breaks, crosses,
        rest.snoc taken⟩

end Restricted

/-! ### Labels with the states they lead to -/

section Shown

variable {step : State → Label → State → Prop} {start finish : State}

/-- The same system, with labels that show the state after the step. -/
def Shown (step : State → Label → State → Prop) : State → Label × State → State → Prop :=
  fun s shown t => shown.2 = t ∧ step s shown.1 t

theorem Run.shown {trace : List Label} (run : Run step start trace finish) :
    ∃ moves, moves.map Prod.fst = trace ∧ Run (Shown step) start moves finish := by
  induction run with
  | nil => exact ⟨[], rfl, .nil⟩
  | @snoc trace middle finish label _ taken ih =>
    obtain ⟨moves, rfl, before⟩ := ih
    exact ⟨moves ++ [(label, finish)], List.map_append, before.snoc ⟨rfl, taken⟩⟩

theorem Run.hidden {moves : List (Label × State)} (run : Run (Shown step) start moves finish) :
    Run step start (moves.map Prod.fst) finish := by
  induction run with
  | nil => exact .nil
  | @snoc moves middle finish shown _ taken ih =>
    rw [List.map_append]
    exact ih.snoc taken.2

end Shown

/-! ### Systems that compute -/

section Executable

/-- The system of a partial function: each label leads to at most one state. -/
def Next (next : State → Label → Option State) : State → Label → State → Prop :=
  fun s label t => next s label = some t

/-- Running a list of labels, `none` where one of them is not enabled. -/
def execute (next : State → Label → Option State) : State → List Label → Option State
  | s, [] => some s
  | s, label :: trace => (next s label).bind fun t => execute next t trace

theorem run_of_execute {next : State → Label → Option State} :
    ∀ {trace : List Label} {start finish : State}, execute next start trace = some finish →
      Run (Next next) start trace finish
  | [], start, finish, done => by
    obtain rfl := Option.some.inj done
    exact .nil
  | label :: trace, start, finish, done => by
    obtain ⟨middle, taken, rest⟩ := Option.bind_eq_some_iff.mp done
    exact .cons taken (run_of_execute rest)

/-- `next` where the condition is met, `none` elsewhere: the restricted system, as a computation. -/
def guarded (next : State → Label → Option State) (allowed : State → Label → Prop)
    [∀ s label, Decidable (allowed s label)] (s : State) (label : Label) : Option State :=
  if allowed s label then next s label else none

theorem run_of_execute_guarded {next : State → Label → Option State}
    {allowed : State → Label → Prop} [∀ s label, Decidable (allowed s label)] {trace : List Label}
    {start finish : State} (done : execute (guarded next allowed) start trace = some finish) :
    Run (Restrict (Next next) allowed) start trace finish :=
  (run_of_execute done).mono fun _ _ _ taken => Option.ite_none_right_eq_some.mp taken

/-- A system that computes has one run for each trace. -/
theorem Run.unique {next : State → Label → Option State} {start first second : State}
    {trace : List Label} (run : Run (Next next) start trace first) :
    Run (Next next) start trace second → first = second := by
  induction run generalizing second with
  | nil => exact fun other => other.nil_inv.symm
  | @snoc trace middle first label _ taken ih =>
    intro other
    obtain ⟨last, before, taken'⟩ := other.snoc_inv trace
    rw [ih before] at taken
    exact Option.some.inj (taken.symm.trans taken')

end Executable

/-! ### Refinement -/

section Refinement

variable {Abstract Event : Type*}

/-- Every step is explained by a run of `spec` between the abstractions of its two states, over
the events that `observe` reads off its label. -/
def Refines (step : State → Label → State → Prop) (spec : Abstract → Event → Abstract → Prop)
    (abstraction : State → Abstract) (observe : Label → List Event) : Prop :=
  ∀ s label t, step s label t → Run spec (abstraction s) (observe label) (abstraction t)

/-- **Refinement of whole runs.** -/
theorem Refines.run {step : State → Label → State → Prop}
    {spec : Abstract → Event → Abstract → Prop} {abstraction : State → Abstract}
    {observe : Label → List Event} (refines : Refines step spec abstraction observe)
    {start finish : State} {trace : List Label} (run : Run step start trace finish) :
    Run spec (abstraction start) (trace.flatMap observe) (abstraction finish) := by
  induction run with
  | nil => exact .nil
  | snoc _ taken ih =>
    rw [List.flatMap_append, List.flatMap_singleton]
    exact ih.append (refines _ _ _ taken)

/-- Every step from a related state is explained by a run of `spec`, to a related state. -/
def Simulates (step : State → Label → State → Prop) (spec : Abstract → Event → Abstract → Prop)
    (related : State → Abstract → Prop) (observe : Label → List Event) : Prop :=
  ∀ s label t abstract, related s abstract → step s label t →
    ∃ after, Run spec abstract (observe label) after ∧ related t after

/-- **Simulation of whole runs.** -/
theorem Simulates.run {step : State → Label → State → Prop}
    {spec : Abstract → Event → Abstract → Prop} {related : State → Abstract → Prop}
    {observe : Label → List Event} (simulates : Simulates step spec related observe)
    {start finish : State} {abstract : Abstract} {trace : List Label}
    (initially : related start abstract) (run : Run step start trace finish) :
    ∃ after, Run spec abstract (trace.flatMap observe) after ∧ related finish after := by
  induction run with
  | nil => exact ⟨abstract, .nil, initially⟩
  | snoc _ taken ih =>
    obtain ⟨middle, before, related⟩ := ih
    obtain ⟨after, explained, still⟩ := simulates _ _ _ middle related taken
    rw [List.flatMap_append, List.flatMap_singleton]
    exact ⟨after, before.append explained, still⟩

end Refinement

end Transition
