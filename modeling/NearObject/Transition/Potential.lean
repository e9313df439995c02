/-
**The potential method — how long a run can be, and where it comes to rest.**

Every label has a cost, which the environment pays when it takes the step; a label without a cost is
one that the system takes of itself. A potential pays for the steps (`Pays`): a step takes one unit
from what was saved before it and what its label brings in.

* `Pays.length_le` — a run is no longer than what is paid for it, whatever the order of its steps.
* `Pays.comes_to_rest` — from any state, steps without a cost lead to a state in which none is
  enabled (`AtRest`), so that a system that is left alone stops.
* `debts` — the potential of callers that each are in a place of their own: a step of one of them
  changes its share only (`debts_move`).
* `CallersPay` — the same two rules for any number of callers. The potential is one for each finite
  list of callers, and a run is one of the callers on its trace.
-/

import NearObject.Transition.Run
import Mathlib.Data.List.Dedup

namespace Transition

variable {State Label : Type*}

/-! ### Costs -/

/-- What the labels of a trace cost. -/
def total (cost : Label → ℕ) : List Label → ℕ
  | [] => 0
  | label :: trace => cost label + total cost trace

theorem total_append (cost : Label → ℕ) (first second : List Label) :
    total cost (first ++ second) = total cost first + total cost second := by
  induction first with
  | nil => exact (Nat.zero_add _).symm
  | cons label first ih => rw [List.cons_append, total, total, ih, Nat.add_assoc]

/-! ### Potentials -/

/-- The steps that the system takes of itself. -/
abbrev Internal (step : State → Label → State → Prop) (cost : Label → ℕ) :
    State → Label → State → Prop :=
  Restrict step fun _ label => cost label = 0

/-- The system takes no step of itself. -/
def AtRest (step : State → Label → State → Prop) (cost : Label → ℕ) (s : State) : Prop :=
  ∀ label t, ¬ Internal step cost s label t

/-- **The potential pays for every step**, in the states of an invariant. -/
structure Pays (inv : State → Prop) (step : State → Label → State → Prop)
    (potential : State → ℕ) (cost : Label → ℕ) : Prop where
  kept : ∀ s label t, inv s → step s label t → inv t
  pays : ∀ s label t, inv s → step s label t → potential t + 1 ≤ potential s + cost label

section Pays

variable {inv : State → Prop} {step : State → Label → State → Prop} {potential : State → ℕ}
  {cost : Label → ℕ} {start finish : State}

/-- What is saved at the end of a run was saved before it or paid during it. -/
theorem Pays.balance (pays : Pays inv step potential cost) (initially : inv start)
    {trace : List Label} (run : Run step start trace finish) :
    trace.length + potential finish ≤ potential start + total cost trace ∧ inv finish := by
  induction run with
  | nil => exact ⟨Nat.le_of_eq (Nat.add_comm _ _), initially⟩
  | @snoc trace middle finish label _ taken ih =>
    obtain ⟨balance, holds⟩ := ih
    have last := pays.pays middle label finish holds taken
    refine ⟨?_, pays.kept middle label finish holds taken⟩
    have one : total cost [label] = cost label := rfl
    rw [List.length_append, List.length_singleton, total_append, one]
    omega

/-- **A run is no longer than what is paid for it.** -/
theorem Pays.length_le (pays : Pays inv step potential cost) (initially : inv start)
    {trace : List Label} (run : Run step start trace finish) :
    trace.length ≤ potential start + total cost trace :=
  Nat.le_trans (Nat.le_add_right _ _) (pays.balance initially run).1

/-- **A system that is left alone comes to rest.** -/
theorem Pays.comes_to_rest (pays : Pays inv step potential cost) (initially : inv start) :
    ∃ trace finish, Run (Internal step cost) start trace finish ∧ AtRest step cost finish := by
  induction saved : potential start using Nat.strongRecOn generalizing start with
  | ind saved ih =>
    by_cases rest : AtRest step cost start
    · exact ⟨[], start, .nil, rest⟩
    · obtain ⟨label, middle, internal⟩ : ∃ label middle, Internal step cost start label middle := by
        simpa [AtRest] using rest
      have ⟨free, taken⟩ := internal
      have paid := pays.pays start label middle initially taken
      rw [free] at paid
      obtain ⟨trace, finish, run, atRest⟩ :=
        ih (potential middle) (by omega) (pays.kept start label middle initially taken) rfl
      exact ⟨label :: trace, finish, .cons internal run, atRest⟩

end Pays

/-! ### The debts of callers -/

section Debts

variable {Caller Place : Type*} (debt : Place → ℕ)

/-- What the callers of a list owe together, by their places. -/
def debts (place : Caller → Place) : List Caller → ℕ
  | [] => 0
  | caller :: callers => debt (place caller) + debts place callers

variable {debt} {before after : Caller → Place}

theorem debts_congr {callers : List Caller}
    (same : ∀ caller ∈ callers, after caller = before caller) :
    debts debt after callers = debts debt before callers := by
  induction callers with
  | nil => rfl
  | cons caller callers ih =>
    rw [debts, debts, same caller List.mem_cons_self,
      ih fun other member => same other (List.mem_cons_of_mem _ member)]

/-- **A caller that moves changes its own share.** -/
theorem debts_move {callers : List Caller} {caller : Caller} (once : callers.Nodup)
    (member : caller ∈ callers) (others : ∀ other, other ≠ caller → after other = before other) :
    debts debt after callers + debt (before caller) =
      debts debt before callers + debt (after caller) := by
  induction callers with
  | nil => cases member
  | cons first callers ih =>
    obtain ⟨fresh, once⟩ := List.nodup_cons.mp once
    rw [debts, debts]
    by_cases same : first = caller
    · subst same
      have rest : debts debt after callers = debts debt before callers :=
        debts_congr fun other inside => others other fun same => fresh (same ▸ inside)
      omega
    · have rest := ih once ((List.mem_cons.mp member).resolve_left (Ne.symm same))
      rw [others first same]
      omega

theorem debts_eq_zero {callers : List Caller} (free : ∀ caller, debt (before caller) = 0) :
    debts debt before callers = 0 := by
  induction callers with
  | nil => rfl
  | cons other callers ih => rw [debts, free, ih]

end Debts

/-! ### Systems of callers -/

section Callers

variable {Caller : Type*}

/-- The label is not one of a caller outside the list. -/
def Among (owner? : Label → Option Caller) (callers : List Caller) (label : Label) : Prop :=
  ∀ caller, owner? label = some caller → caller ∈ callers

/-- **A potential for a system of callers**, any number of them: it is one for each list that has
all who take steps. A caller is busy while it is in a call, and only its own steps make it so; the
steps without a cost are those of busy callers, or of nobody. -/
structure CallersPay (step : State → Label → State → Prop) (owner? : Label → Option Caller)
    (busy : State → Caller → Prop) (potential : List Caller → State → ℕ) (cost : Label → ℕ) :
    Prop where
  frame : ∀ s label t caller, step s label t → owner? label ≠ some caller → ¬ busy s caller →
    ¬ busy t caller
  free : ∀ s label t caller, step s label t → cost label = 0 → owner? label = some caller →
    busy s caller
  pays : ∀ callers s label t, callers.Nodup → Among owner? callers label → step s label t →
    potential callers t + 1 ≤ potential callers s + cost label

variable [DecidableEq Caller] {step : State → Label → State → Prop}
  {owner? : Label → Option Caller} {busy : State → Caller → Prop}
  {potential : List Caller → State → ℕ} {cost : Label → ℕ} {start s : State} {trace : List Label}

omit [DecidableEq Caller] in
/-- With the callers of a list, it is a potential in the states where nobody else is busy. -/
theorem CallersPay.among (pays : CallersPay step owner? busy potential cost)
    {callers : List Caller} (once : callers.Nodup) :
    Pays (fun s => ∀ caller, caller ∉ callers → ¬ busy s caller)
      (Restrict step fun _ label => Among owner? callers label) (potential callers) cost where
  kept := fun s label t outside ⟨among, taken⟩ caller elsewhere =>
    pays.frame s label t caller taken (fun own => elsewhere (among caller own))
      (outside caller elsewhere)
  pays := fun s label t _ ⟨among, taken⟩ => pays.pays callers s label t once among taken

/-- A run is one of the callers on its trace. -/
theorem run_among (owner? : Label → Option Caller) (run : Run step start trace s) :
    ∃ callers : List Caller, callers.Nodup ∧
      Run (Restrict step fun _ label => Among owner? callers label) start trace s := by
  refine ⟨(trace.filterMap owner?).dedup, List.nodup_dedup _, run.restrict fun label member => ?_⟩
  intro caller own
  exact List.mem_dedup.mpr (List.mem_filterMap.mpr ⟨label, member, own⟩)

/-- **A run is no longer than what is paid for it**, however many callers take part. -/
theorem CallersPay.length_le (pays : CallersPay step owner? busy potential cost) {saved : ℕ}
    (initially : ∀ caller, ¬ busy start caller)
    (savings : ∀ callers, potential callers start ≤ saved) (run : Run step start trace s) :
    trace.length ≤ saved + total cost trace := by
  obtain ⟨callers, once, among⟩ := run_among owner? run
  have paid := (pays.among once).length_le (fun caller _ => initially caller) among
  exact Nat.le_trans paid (Nat.add_le_add_right (savings callers) _)

/-- **Callers that are left alone come to rest.** -/
theorem CallersPay.comes_to_rest (pays : CallersPay step owner? busy potential cost)
    (initially : ∀ caller, ¬ busy start caller) (run : Run step start trace s) :
    ∃ rest t, Run (Internal step cost) s rest t ∧ AtRest step cost t := by
  obtain ⟨callers, once, among⟩ := run_among owner? run
  have outside := ((pays.among once).balance (fun caller _ => initially caller) among).2
  obtain ⟨rest, t, alone, atRest⟩ := (pays.among once).comes_to_rest outside
  have still := ((pays.among once).balance outside alone.unrestrict).2
  refine ⟨rest, t, alone.mono fun _ _ _ taken => ⟨taken.1, taken.2.2⟩, ?_⟩
  rintro label u ⟨free, taken⟩
  refine atRest label u ⟨free, fun caller own => ?_, taken⟩
  by_contra elsewhere
  exact still caller elsewhere (pays.free t label u caller taken free own)

end Callers

end Transition
