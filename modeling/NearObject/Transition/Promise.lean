/-
**Promises — results that are set once.**

A promise is a cell that is pending until it is kept, with a result, or abandoned. A table of them
names each one by its position; `apply` makes, keeps or abandons a promise of the table, and
`replay` goes through several of these events.

* `settled_replay` — a promise that is no longer pending stays as it is.
* `InOrder` — the promises are kept one after the other: the table is the results so far, followed
  by promises that are all alike. To make a promise, to keep the first one that is pending, and to
  abandon all that are left, leads from one such table to another.
-/

import Mathlib.Data.List.Basic

namespace Transition.Promise

variable {Result : Type*}

/-! ### Cells and tables -/

/-- What the holder of a promise can see of it. -/
inductive Cell (Result : Type*)
  | pending
  | ready (result : Result)
  /-- Abandoned without a result. -/
  | broken
  deriving DecidableEq, Repr

/-- What happens to a promise of a table. -/
inductive Event (Result : Type*)
  | make
  | keep (index : Nat) (result : Result)
  | abandon (index : Nat)
  deriving DecidableEq, Repr

def Cell.keep (result : Result) : Cell Result → Cell Result
  | .pending => .ready result
  | cell => cell

def Cell.abandon : Cell Result → Cell Result
  | .pending => .broken
  | cell => cell

/-- One event at a table. -/
def apply (cells : List (Cell Result)) : Event Result → List (Cell Result)
  | .make => cells ++ [.pending]
  | .keep index result => cells.modify index (Cell.keep result)
  | .abandon index => cells.modify index Cell.abandon

/-- The events, one after the other. -/
def replay (cells : List (Cell Result)) (events : List (Event Result)) : List (Cell Result) :=
  events.foldl apply cells

/-! ### Settled promises -/

section Settled

variable {cells : List (Cell Result)} {index : Nat} {cell : Cell Result}

theorem modify_settled {change : Cell Result → Cell Result} (here : cells[index]? = some cell)
    (kept : change cell = cell) (other : Nat) :
    (cells.modify other change)[index]? = some cell := by
  by_cases same : other = index
  · rw [same, List.getElem?_modify_eq, here]
    exact congrArg some kept
  · rw [List.getElem?_modify_ne _ _ same, here]

theorem settled_apply (here : cells[index]? = some cell) (settled : cell ≠ .pending)
    (event : Event Result) : (apply cells event)[index]? = some cell := by
  cases event with
  | make =>
    obtain ⟨inside, -⟩ := List.getElem?_eq_some_iff.mp here
    rw [apply, List.getElem?_append_left inside, here]
  | keep other result =>
    refine modify_settled here ?_ other
    unfold Cell.keep
    split
    · exact absurd rfl settled
    · rfl
  | abandon other =>
    refine modify_settled here ?_ other
    unfold Cell.abandon
    split
    · exact absurd rfl settled
    · rfl

/-- **A promise is settled once.** -/
theorem settled_replay (settled : cell ≠ .pending) (events : List (Event Result)) :
    ∀ {cells : List (Cell Result)}, cells[index]? = some cell →
      (replay cells events)[index]? = some cell := by
  induction events with
  | nil =>
    intro cells here
    exact here
  | cons event events ih =>
    intro cells here
    exact ih (settled_apply here settled event)

end Settled

/-! ### Promises that are kept in order -/

/-- The results so far, and then so many promises that are all alike. -/
def InOrder (results : List Result) (left : Nat) (rest : Cell Result)
    (cells : List (Cell Result)) : Prop :=
  cells = results.map .ready ++ List.replicate left rest

section InOrder

variable {results : List Result} {left : Nat} {rest : Cell Result} {cells : List (Cell Result)}

theorem InOrder.length (ordered : InOrder results left rest cells) :
    cells.length = results.length + left := by
  rw [ordered, List.length_append, List.length_map, List.length_replicate]

theorem InOrder.make (ordered : InOrder results left .pending cells) :
    InOrder results (left + 1) .pending (apply cells .make) := by
  unfold InOrder apply
  rw [ordered, List.append_assoc, List.replicate_succ']

theorem modify_middle {Item : Type*} (change : Item → Item) (item : Item) (late : List Item) :
    ∀ early : List Item,
      (early ++ item :: late).modify early.length change = early ++ change item :: late := by
  intro early
  induction early with
  | nil => rfl
  | cons first early ih => exact congrArg (first :: ·) ih

/-- The next promise is kept. -/
theorem InOrder.keep (ordered : InOrder results (left + 1) .pending cells) (result : Result) :
    InOrder (results ++ [result]) left .pending (apply cells (.keep results.length result)) := by
  have kept := modify_middle (Cell.keep result) .pending (List.replicate left .pending)
    (results.map .ready)
  rw [List.length_map, ← List.replicate_succ, ← ordered] at kept
  unfold InOrder
  rw [apply, kept, List.map_append, List.append_assoc]
  rfl

theorem replay_abandon (rest : Cell Result) (left : Nat) : ∀ early : List (Cell Result),
    replay (early ++ List.replicate left rest) ((List.range' early.length left).map .abandon) =
      early ++ List.replicate left rest.abandon := by
  induction left with
  | zero =>
    intro early
    rfl
  | succ left ih =>
    intro early
    have next := ih (early ++ [rest.abandon])
    rw [List.length_append, List.length_singleton, List.append_assoc, List.append_assoc] at next
    rw [List.range'_succ, List.map_cons, List.replicate_succ, List.replicate_succ, replay,
      List.foldl_cons, apply, modify_middle]
    exact next

/-- All promises that are left are abandoned. -/
theorem InOrder.abandon (ordered : InOrder results left rest cells) :
    InOrder results left rest.abandon
      (replay cells ((List.range' results.length left).map .abandon)) := by
  have all := replay_abandon rest left (results.map .ready)
  rw [List.length_map] at all
  rw [ordered]
  exact all

end InOrder

end Transition.Promise
