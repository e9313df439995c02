/-
**Lock order — threads that take resources in order do not wait for each other in a circle.**

A thread waits for resources and owns others; one thread waits for another where it waits for a
resource that the other owns (`WaitsFor`). If whatever a thread waits for is above everything it
owns, the resources along a chain of waiting threads increase (`chain_increases`), so that no chain
comes back to where it began (`acyclic_of_order`); and where ranks do not increase
forever, every chain leads to a thread that waits for nobody (`chain_ends`).

A resource is anything that one thread owns and others wait for: a mutex, or the end of a thread,
which the thread itself owns as long as it runs.
-/

import Mathlib.Logic.Relation
import Mathlib.Order.RelClasses

namespace Transition.LockOrder

variable {Thread Resource Rank : Type*} [Preorder Rank]
  {waits owns : Thread → Resource → Prop} {rank : Resource → Rank}

/-- The second thread owns what the first waits for. -/
def WaitsFor (waits owns : Thread → Resource → Prop) (first second : Thread) : Prop :=
  ∃ resource, waits first resource ∧ owns second resource

/-- Whatever a thread waits for is above everything it owns. -/
def Ordered (waits owns : Thread → Resource → Prop) (rank : Resource → Rank) : Prop :=
  ∀ thread owned wanted, owns thread owned → waits thread wanted → rank owned < rank wanted

/-- The resources along a chain increase. -/
theorem chain_increases (ordered : Ordered waits owns rank) {first last : Thread}
    (chain : Relation.TransGen (WaitsFor waits owns) first last) :
    ∃ wanted owned, waits first wanted ∧ owns last owned ∧ rank wanted ≤ rank owned := by
  induction chain with
  | single step =>
    obtain ⟨resource, wanted, owned⟩ := step
    exact ⟨resource, resource, wanted, owned, le_refl _⟩
  | tail _ step ih =>
    obtain ⟨wanted, owned, waiting, owning, below⟩ := ih
    obtain ⟨next, wants, owned'⟩ := step
    refine ⟨wanted, next, waiting, owned', ?_⟩
    calc rank wanted ≤ rank owned := below
      _ ≤ rank next := (ordered _ owned next owning wants).le

/-- **No cycle of waiting.** -/
theorem acyclic_of_order (ordered : Ordered waits owns rank) (thread : Thread) :
    ¬ Relation.TransGen (WaitsFor waits owns) thread thread := by
  intro cycle
  obtain ⟨wanted, owned, waiting, owning, below⟩ := chain_increases ordered cycle
  exact (ordered thread owned wanted owning waiting).not_ge below

/-- **Every chain of waiting ends**, where ranks do not increase forever. -/
theorem chain_ends [WellFoundedGT Rank] (ordered : Ordered waits owns rank) (thread : Thread) :
    ∃ last, Relation.ReflTransGen (WaitsFor waits owns) thread last ∧
      ∀ next, ¬ WaitsFor waits owns last next := by
  -- the chain of a thread goes up from whatever the thread owns
  have upwards (lower : Rank) : ∀ thread resource, owns thread resource → rank resource = lower →
      ∃ last, Relation.ReflTransGen (WaitsFor waits owns) thread last ∧
        ∀ next, ¬ WaitsFor waits owns last next := by
    induction lower using WellFoundedGT.induction with
    | ind lower ih =>
      rintro thread resource owned rfl
      by_cases waiting : ∃ next, WaitsFor waits owns thread next
      · obtain ⟨next, wanted, wants, owning⟩ := waiting
        have above := ordered thread resource wanted owned wants
        obtain ⟨last, chain, ends⟩ := ih (rank wanted) above next wanted owning rfl
        exact ⟨last, .head ⟨wanted, wants, owning⟩ chain, ends⟩
      · exact ⟨thread, .refl, not_exists.mp waiting⟩
  by_cases waiting : ∃ next, WaitsFor waits owns thread next
  · obtain ⟨next, wanted, wants, owning⟩ := waiting
    obtain ⟨last, chain, ends⟩ := upwards _ next wanted owning rfl
    exact ⟨last, .head ⟨wanted, wants, owning⟩ chain, ends⟩
  · exact ⟨thread, .refl, not_exists.mp waiting⟩

end Transition.LockOrder
