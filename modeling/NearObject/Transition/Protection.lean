/-
**What locks protect, and programs that do not halt.**

Two rules for the programs of `Transition.Locking`, each a condition on the program that its steps
keep.

* `Protects` — a program changes a view of the data only where it holds a lock exclusively. Where
  all calls are such programs, who changes the view is the only holder of the lock
  (`writer_of_change`, `Exclusion.holder`).
* `Calm` — a program keeps an invariant of the data, and does not halt where it holds. Where all
  calls are such programs, nobody halts (`quiet_run`).
-/

import NearObject.Transition.Locking

namespace Transition.Locking

/-! ### What a lock protects -/

section Protection

variable {Thread Lock Data Result View : Type} {view : Data → View} {lock : Lock}
  {s t : State Thread Lock Data Result}

/-- **A program changes a view of the data only under a lock**; `owned` says whether it holds the
lock exclusively. -/
def Protects (view : Data → View) (lock : Lock) : Prop → Program Lock Data Result → Prop
  | _, .done | _, .ret _ | _, .halt => True
  | owned, .acquire taken mode next =>
    Protects view lock (owned ∨ (taken = lock ∧ mode = .exclusive)) next
  | owned, .release released next => Protects view lock (owned ∧ released ≠ lock) next
  | owned, .act write next =>
    (owned ∨ ∀ data, view (write data) = view data) ∧ ∀ data, Protects view lock owned (next data)
  | owned, .spawn task next => Protects view lock False task ∧ Protects view lock owned next
  | owned, .join next => ∀ outcome, Protects view lock owned (next outcome)

theorem Protects.mono {program : Program Lock Data Result} : ∀ {owned more : Prop}, (owned → more) →
    Protects view lock owned program → Protects view lock more program := by
  induction program with
  | done | ret | halt => exact fun _ _ => trivial
  | acquire taken mode next ih => exact fun wider protects => ih (Or.imp_left wider) protects
  | release released next ih => exact fun wider protects => ih (And.imp_left wider) protects
  | act write next ih =>
    exact fun wider protects =>
      ⟨protects.1.imp_left wider, fun data => ih data wider (protects.2 data)⟩
  | spawn task next _ ih => exact fun wider protects => ⟨protects.1, ih wider protects.2⟩
  | join next ih => exact fun wider protects outcome => ih outcome wider (protects outcome)

/-- A section changes the view under this lock, or not at all. -/
theorem Protects.critical {owned : Prop} {taken : Lock} {mode : Mode} {write : Data → Data}
    {next : Data → Program Lock Data Result}
    (writes : (taken = lock ∧ mode = .exclusive) ∨ ∀ data, view (write data) = view data)
    (rest : ∀ data, Protects view lock False (next data)) :
    Protects view lock owned (.critical taken mode write next) := by
  refine ⟨writes.imp_left .inr, fun data => ?_⟩
  -- past the release the lock is not owned
  show Protects view lock ((owned ∨ (taken = lock ∧ mode = .exclusive)) ∧ taken ≠ lock) (next data)
  exact (rest data).mono False.elim

/-- What follows a release does not rely on the lock. -/
theorem Protects.release {owned : Prop} {released : Lock} {next : Program Lock Data Result}
    (rest : Protects view lock False next) :
    Protects view lock owned (.release released next) := by
  show Protects view lock (owned ∧ released ≠ lock) next
  exact rest.mono False.elim

/-- Each runner owns the lock where its program relies on it. -/
def Guarded (view : Data → View) (lock : Lock) (s : State Thread Lock Data Result) : Prop :=
  ∀ runner, Protects view lock (s.writer lock = some runner) (s.program runner)

variable [DecidableEq Thread] [DecidableEq Lock] {runner other : Runner Thread}

/-- A step of somebody else does not take a lock from its writer. -/
theorem writer_frame (moved : Moved s runner t) (different : other ≠ runner)
    (writes : s.writer lock = some other) : t.writer lock = some other := by
  cases moved with
  | @acquire taken mode next place free =>
    cases mode with
    | shared => exact writes
    | exclusive =>
      have apart : lock ≠ taken := by
        rintro rfl
        exact absurd (free.1.symm.trans writes) (by simp)
      exact (Function.update_of_ne apart _ _).trans writes
  | @release released next place =>
    unfold State.unlock
    split
    case isTrue owns =>
      have apart : lock ≠ released := by
        rintro rfl
        exact different (Option.some.inj (writes.symm.trans owns))
      exact (Function.update_of_ne apart _ _).trans writes
    case isFalse => exact writes
  | _ => exact writes

theorem guarded_self
    (protects : Protects view lock (s.writer lock = some runner) (s.program runner))
    (moved : Moved s runner t) :
    Protects view lock (t.writer lock = some runner) (t.program runner) := by
  cases moved with
  | ret =>
    rw [setProgram_self]
    trivial
  | @acquire taken mode next place free =>
    rw [place] at protects
    rw [setProgram_self]
    have rest : Protects view lock _ next := protects
    refine rest.mono ?_
    show _ → (s.lock taken runner mode).writer lock = some runner
    cases mode with
    | shared =>
      rintro (writes | ⟨-, differs⟩)
      · exact writes
      · cases differs
    | exclusive =>
      rintro (writes | ⟨rfl, -⟩)
      · show Function.update s.writer taken _ lock = _
        by_cases here : lock = taken
        · rw [here, Function.update_self]
        · rw [Function.update_of_ne here, writes]
      · exact Function.update_self ..
  | @release released next place =>
    rw [place] at protects
    rw [setProgram_self]
    have rest : Protects view lock _ next := protects
    refine rest.mono ?_
    rintro ⟨writes, apart⟩
    show (s.unlock released runner).writer lock = some runner
    unfold State.unlock
    split
    · exact (Function.update_of_ne apart.symm _ _).trans writes
    · exact writes
  | act place =>
    rw [place] at protects
    rw [setProgram_self]
    exact protects.2 s.data
  | spawn place =>
    rw [place] at protects
    rw [setProgram_self]
    exact protects.2
  | join place =>
    rw [place] at protects
    rw [setProgram_self]
    exact protects _
  | halt => exact protects

theorem guarded_move (guarded : Guarded view lock s) (moved : s.move runner = some t) :
    Guarded view lock t := by
  obtain ⟨-, moved⟩ := move_iff.mp moved
  intro other
  by_cases same : other = runner
  · subst same
    exact guarded_self (guarded other) moved
  obtain unchanged | ⟨-, -, next, place⟩ := program_other moved same
  · rw [unchanged]
    exact (guarded other).mono (writer_frame moved same)
  · have protects := guarded runner
    rw [place] at protects
    exact protects.1.mono False.elim

/-- **Who changes a view has locked it**, exclusively. -/
theorem writer_of_change (guarded : Guarded view lock s) (moved : s.move runner = some t)
    (changed : view t.data ≠ view s.data) : s.writer lock = some runner := by
  have protects := guarded runner
  obtain ⟨-, moved⟩ := move_iff.mp moved
  cases moved with
  | @acquire taken mode next place free => exact absurd (by cases mode <;> rfl) changed
  | release =>
    refine absurd ?_ changed
    unfold State.unlock
    split <;> rfl
  | act place =>
    rw [place] at protects
    exact protects.1.resolve_right fun unchanged => changed (unchanged s.data)
  | _ => exact absurd rfl changed

omit [DecidableEq Thread] [DecidableEq Lock] in
/-- A writer is the only holder. -/
theorem Exclusion.holder (exclusion : Exclusion s) (writes : s.writer lock = some runner)
    (holds : s.Holds other lock) : other = runner := by
  rcases holds with owns | reads
  · exact Option.some.inj (owns.symm.trans writes)
  · rw [exclusion.alone lock runner writes] at reads
    exact absurd reads List.not_mem_nil

variable {Operation : Type} {body : Operation → Program Lock Data Result} {data : Data}
  {trace : List (Label Thread Operation)}

theorem guarded_run (protects : ∀ operation, Protects view lock False (body operation))
    (run : Run (Step body) (init Thread Lock Result data) trace s) : Guarded view lock s := by
  have initially : Guarded view lock (init Thread Lock Result data) := fun _ => trivial
  refine run.invariant (Guarded view lock) initially fun s label t guarded taken => ?_
  cases label with
  | call thread operation =>
    obtain ⟨-, -, rfl⟩ := step_call.mp taken
    intro other
    by_cases same : other = .caller thread
    · rw [same, setProgram_self]
      exact (protects operation).mono False.elim
    · rw [setProgram_of_ne _ _ same]
      exact guarded other
  | move runner => exact guarded_move guarded taken

end Protection

/-! ### Programs that do not halt -/

section Calm

variable {Thread Lock Data Result Operation : Type} {invariant : Data → Prop}

/-- **A program keeps the invariant and does not halt**, in data for which the invariant holds. -/
def Calm (invariant : Data → Prop) : Program Lock Data Result → Prop
  | .done | .ret _ => True
  | .acquire _ _ next | .release _ next => Calm invariant next
  | .act write next => ∀ data, invariant data → invariant (write data) ∧ Calm invariant (next data)
  | .spawn task next => Calm invariant task ∧ Calm invariant next
  | .join next => ∀ outcome, Calm invariant (next outcome)
  | .halt => False

theorem Calm.critical {lock : Lock} {mode : Mode} {write : Data → Data}
    {next : Data → Program Lock Data Result}
    (keeps : ∀ data, invariant data → invariant (write data))
    (rest : ∀ data, invariant data → Calm invariant (next data)) :
    Calm invariant (.critical lock mode write next) :=
  fun data holds => ⟨keeps data holds, rest data holds⟩

/-- What holds in every state: nobody has halted, and nobody will. -/
structure Quiet (invariant : Data → Prop) (s : State Thread Lock Data Result) : Prop where
  running : s.halted = false
  holds : invariant s.data
  calm : ∀ runner, Calm invariant (s.program runner)

variable [DecidableEq Thread] [DecidableEq Lock] {s t : State Thread Lock Data Result}
  {runner : Runner Thread}

theorem quiet_move (quiet : Quiet invariant s) (moved : s.move runner = some t) :
    Quiet invariant t := by
  obtain ⟨running, moved⟩ := move_iff.mp moved
  have calm := quiet.calm runner
  have others (other : Runner Thread) (different : other ≠ runner) :
      Calm invariant (t.program other) := by
    obtain unchanged | ⟨-, -, next, place⟩ := program_other moved different
    · rw [unchanged]
      exact quiet.calm other
    · rw [place] at calm
      exact calm.1
  have all (self : Calm invariant (t.program runner)) (other : Runner Thread) :
      Calm invariant (t.program other) := by
    by_cases same : other = runner
    · rwa [same]
    · exact others other same
  cases moved with
  | ret =>
    refine ⟨running, quiet.holds, all ?_⟩
    rw [setProgram_self]
    trivial
  | @acquire lock mode next place free =>
    rw [place] at calm
    have same : ((s.lock lock runner mode).setProgram runner next).data = s.data := by
      cases mode <;> rfl
    have still : ((s.lock lock runner mode).setProgram runner next).halted = s.halted := by
      cases mode <;> rfl
    refine ⟨still.trans running, same ▸ quiet.holds, all ?_⟩
    rw [setProgram_self]
    exact calm
  | @release lock next place =>
    rw [place] at calm
    have same : ((s.unlock lock runner).setProgram runner next).data = s.data := by
      unfold State.unlock
      split <;> rfl
    have still : ((s.unlock lock runner).setProgram runner next).halted = s.halted := by
      unfold State.unlock
      split <;> rfl
    refine ⟨still.trans running, same ▸ quiet.holds, all ?_⟩
    rw [setProgram_self]
    exact calm
  | act place =>
    rw [place] at calm
    obtain ⟨keeps, rest⟩ := calm s.data quiet.holds
    refine ⟨running, keeps, all ?_⟩
    rw [setProgram_self]
    exact rest
  | spawn place =>
    rw [place] at calm
    refine ⟨running, quiet.holds, all ?_⟩
    rw [setProgram_self]
    exact calm.2
  | join place =>
    rw [place] at calm
    refine ⟨running, quiet.holds, all ?_⟩
    rw [setProgram_self]
    exact calm _
  | halt place =>
    rw [place] at calm
    exact calm.elim

theorem Quiet.later (quiet : Quiet invariant s) (moves : Relation.ReflTransGen Moves s t) :
    Quiet invariant t := by
  induction moves with
  | refl => exact quiet
  | tail _ moved ih =>
    obtain ⟨runner, taken⟩ := moved
    exact quiet_move ih taken

/-- **Where the calls of a run are calm programs, nobody halts.** -/
theorem quiet_run {body : Operation → Program Lock Data Result} {data : Data}
    {trace : List (Label Thread Operation)} (holds : invariant data)
    (calm : ∀ thread operation, .call thread operation ∈ trace → Calm invariant (body operation))
    (run : Run (Step body) (init Thread Lock Result data) trace s) : Quiet invariant s := by
  induction run with
  | nil => exact ⟨rfl, holds, fun _ => trivial⟩
  | @snoc trace s t label _ taken ih =>
    have quiet := ih fun thread operation member =>
      calm thread operation (List.mem_append_left _ member)
    cases label with
    | call thread operation =>
      obtain ⟨-, -, rfl⟩ := step_call.mp taken
      refine ⟨quiet.running, quiet.holds, fun other => ?_⟩
      by_cases same : other = .caller thread
      · rw [same, setProgram_self]
        exact calm thread operation (List.mem_append_right _ (List.mem_singleton_self _))
      · rw [setProgram_of_ne _ _ same]
        exact quiet.calm other
    | move runner => exact quiet_move quiet taken

end Calm

end Transition.Locking
