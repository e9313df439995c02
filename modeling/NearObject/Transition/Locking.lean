/-
**Programs over readers–writer locks, with a task each — they wait for each other, and end.**

A call is a program: it takes locks, shared or exclusive, releases them, acts on data that all
threads share, begins a task that runs beside it, and waits for the task. Each of these is one step,
and the steps of the callers and of their tasks interleave. A program can also halt: no step of
anybody follows.

* `Ranked` — a program takes only locks above all that it holds, waits for its task without any, and
  ends without a lock or a task. Where all calls are such programs, somebody can always go on
  (`move_of_busy`); the steps end in whatever order they come (`acc_moves`), since what is left of a
  program is a part of it; and then no lock is held (`comes_to_rest`).

What a lock protects is in `Transition.Protection`.
-/

import NearObject.Transition.LockOrder
import NearObject.Transition.Run
import Mathlib.Algebra.BigOperators.Group.Finset.Basic
import Mathlib.Data.Set.Insert
import Mathlib.Logic.Function.Basic
import Mathlib.Logic.Hydra

namespace Transition.Locking

/-! ### Programs and who runs them -/

inductive Mode
  | shared
  | exclusive
  deriving DecidableEq, Repr

/-- What is left of a call, `done` where there is none. -/
inductive Program (Lock Data Result : Type)
  | done
  | ret (result : Result)
  | acquire (lock : Lock) (mode : Mode) (next : Program Lock Data Result)
  | release (lock : Lock) (next : Program Lock Data Result)
  /-- Changes the data by `write`, and goes on by what the data were before. -/
  | act (write : Data → Data) (next : Data → Program Lock Data Result)
  | spawn (task next : Program Lock Data Result)
  /-- Waits until the task has ended, and goes on by what it returned. -/
  | join (next : Option Result → Program Lock Data Result)
  | halt

/-- A section that acts once, under one lock. -/
def Program.critical {Lock Data Result : Type} (lock : Lock) (mode : Mode) (write : Data → Data)
    (next : Data → Program Lock Data Result) : Program Lock Data Result :=
  .acquire lock mode (.act write fun data => .release lock (next data))

def Program.isDone {Lock Data Result : Type} : Program Lock Data Result → Bool
  | .done => true
  | _ => false

theorem Program.isDone_iff {Lock Data Result : Type} {program : Program Lock Data Result} :
    program.isDone = true ↔ program = .done := by
  cases program <;> simp [Program.isDone]

/-- Who runs a program: the thread of a call, or the task that the call has begun. -/
inductive Runner (Thread : Type)
  | caller (thread : Thread)
  | task (thread : Thread)
  deriving DecidableEq, Repr

def Runner.thread {Thread : Type} : Runner Thread → Thread
  | .caller thread | .task thread => thread

/-- The task of a call; a task has none of its own. -/
def Runner.task? {Thread : Type} : Runner Thread → Option (Runner Thread)
  | .caller thread => some (.task thread)
  | .task _ => none

structure State (Thread Lock Data Result : Type) where
  data : Data
  program : Runner Thread → Program Lock Data Result
  /-- What the programs that have ended returned. -/
  outcome : Runner Thread → Option Result
  writer : Lock → Option (Runner Thread)
  readers : Lock → List (Runner Thread)
  halted : Bool

def init (Thread Lock Result : Type) {Data : Type} (data : Data) :
    State Thread Lock Data Result where
  data := data
  program := fun _ => .done
  outcome := fun _ => none
  writer := fun _ => none
  readers := fun _ => []
  halted := false

inductive Label (Thread Operation : Type)
  | call (thread : Thread) (operation : Operation)
  /-- The next step of a call or of a task. -/
  | move (runner : Runner Thread)
  deriving DecidableEq, Repr

section Steps

variable {Thread Lock Data Result Operation : Type} [DecidableEq Thread] [DecidableEq Lock]

def State.setProgram (s : State Thread Lock Data Result) (runner : Runner Thread)
    (program : Program Lock Data Result) : State Thread Lock Data Result :=
  { s with program := Function.update s.program runner program }

def State.setOutcome (s : State Thread Lock Data Result) (runner : Runner Thread)
    (outcome : Option Result) : State Thread Lock Data Result :=
  { s with outcome := Function.update s.outcome runner outcome }

/-- Nobody holds the lock in a way that keeps others from taking it. -/
def State.Free (s : State Thread Lock Data Result) (lock : Lock) : Mode → Prop
  | .shared => s.writer lock = none
  | .exclusive => s.writer lock = none ∧ s.readers lock = []

instance (s : State Thread Lock Data Result) (lock : Lock) : ∀ mode, Decidable (s.Free lock mode)
  | .shared => inferInstanceAs (Decidable (_ = _))
  | .exclusive => inferInstanceAs (Decidable (_ ∧ _))

def State.lock (s : State Thread Lock Data Result) (lock : Lock) (runner : Runner Thread) :
    Mode → State Thread Lock Data Result
  | .shared => { s with readers := Function.update s.readers lock (runner :: s.readers lock) }
  | .exclusive => { s with writer := Function.update s.writer lock (some runner) }

def State.unlock (s : State Thread Lock Data Result) (lock : Lock) (runner : Runner Thread) :
    State Thread Lock Data Result :=
  if s.writer lock = some runner then { s with writer := Function.update s.writer lock none }
  else { s with readers := Function.update s.readers lock ((s.readers lock).erase runner) }

/-- The next step of a caller or of a task, `none` where it waits or has no program. -/
def State.move (s : State Thread Lock Data Result) (runner : Runner Thread) :
    Option (State Thread Lock Data Result) :=
  if s.halted then none
  else match s.program runner with
    | .done => none
    | .ret result => some ((s.setOutcome runner (some result)).setProgram runner .done)
    | .acquire lock mode next =>
      if s.Free lock mode then some ((s.lock lock runner mode).setProgram runner next) else none
    | .release lock next => some ((s.unlock lock runner).setProgram runner next)
    | .act write next => some ({ s with data := write s.data }.setProgram runner (next s.data))
    | .spawn task next => do
      let child ← runner.task?
      if (s.program child).isDone then
        some (((s.setOutcome child none).setProgram child task).setProgram runner next)
      else none
    | .join next => do
      let child ← runner.task?
      if (s.program child).isDone then some (s.setProgram runner (next (s.outcome child)))
      else none
    | .halt => some { s with halted := true }

variable (body : Operation → Program Lock Data Result)

/-- **One step of a thread or of its task**, `none` where the label is not enabled. -/
def step (s : State Thread Lock Data Result) :
    Label Thread Operation → Option (State Thread Lock Data Result)
  | .call thread operation =>
    if s.halted = false ∧ (s.program (.caller thread)).isDone then
      some (s.setProgram (.caller thread) (body operation))
    else none
  | .move runner => s.move runner

abbrev Step : State Thread Lock Data Result → Label Thread Operation →
    State Thread Lock Data Result → Prop :=
  Next (step body)

/-- A step of a call that has begun. -/
def Moves (s t : State Thread Lock Data Result) : Prop :=
  ∃ runner, s.move runner = some t

end Steps

/-! ### What a step is -/

section Moved

variable {Thread Lock Data Result Operation : Type} [DecidableEq Thread] [DecidableEq Lock]
  {body : Operation → Program Lock Data Result} {s t : State Thread Lock Data Result}
  {runner other : Runner Thread}

/-- What a step of a runner leads to. -/
inductive Moved (s : State Thread Lock Data Result) (runner : Runner Thread) :
    State Thread Lock Data Result → Prop
  | ret {result : Result} (place : s.program runner = .ret result) :
      Moved s runner ((s.setOutcome runner (some result)).setProgram runner .done)
  | acquire {lock : Lock} {mode : Mode} {next : Program Lock Data Result}
      (place : s.program runner = .acquire lock mode next) (free : s.Free lock mode) :
      Moved s runner ((s.lock lock runner mode).setProgram runner next)
  | release {lock : Lock} {next : Program Lock Data Result}
      (place : s.program runner = .release lock next) :
      Moved s runner ((s.unlock lock runner).setProgram runner next)
  | act {write : Data → Data} {next : Data → Program Lock Data Result}
      (place : s.program runner = .act write next) :
      Moved s runner ({ s with data := write s.data }.setProgram runner (next s.data))
  | spawn {task next : Program Lock Data Result} {child : Runner Thread}
      (place : s.program runner = .spawn task next) (begins : runner.task? = some child)
      (idle : s.program child = .done) :
      Moved s runner
        (((s.setOutcome child none).setProgram child task).setProgram runner next)
  | join {next : Option Result → Program Lock Data Result} {child : Runner Thread}
      (place : s.program runner = .join next) (begun : runner.task? = some child)
      (ended : s.program child = .done) :
      Moved s runner (s.setProgram runner (next (s.outcome child)))
  | halt (place : s.program runner = .halt) : Moved s runner { s with halted := true }

theorem move_iff : s.move runner = some t ↔ s.halted = false ∧ Moved s runner t := by
  constructor
  · intro moved
    unfold State.move at moved
    split at moved
    · cases moved
    refine ⟨by simpa using ‹¬ s.halted = true›, ?_⟩
    split at moved
    case h_1 => cases moved
    case h_2 result place =>
      obtain rfl := Option.some.inj moved
      exact .ret place
    case h_3 lock mode next place =>
      obtain ⟨free, same⟩ := Option.ite_none_right_eq_some.mp moved
      obtain rfl := Option.some.inj same
      exact .acquire place free
    case h_4 lock next place =>
      obtain rfl := Option.some.inj moved
      exact .release place
    case h_5 write next place =>
      obtain rfl := Option.some.inj moved
      exact .act place
    case h_6 task next place =>
      obtain ⟨child, begins, moved⟩ := Option.bind_eq_some_iff.mp moved
      obtain ⟨idle, same⟩ := Option.ite_none_right_eq_some.mp moved
      obtain rfl := Option.some.inj same
      exact .spawn place begins (Program.isDone_iff.mp idle)
    case h_7 next place =>
      obtain ⟨child, begun, moved⟩ := Option.bind_eq_some_iff.mp moved
      obtain ⟨ended, same⟩ := Option.ite_none_right_eq_some.mp moved
      obtain rfl := Option.some.inj same
      exact .join place begun (Program.isDone_iff.mp ended)
    case h_8 place =>
      obtain rfl := Option.some.inj moved
      exact .halt place
  · rintro ⟨running, moved⟩
    unfold State.move
    rw [if_neg (by simp [running])]
    cases moved with
    | ret place => rw [place]
    | acquire place free =>
      rw [place]
      exact if_pos free
    | release place => rw [place]
    | act place => rw [place]
    | spawn place begins idle => simp [place, begins, idle, Program.isDone]
    | join place begun ended => simp [place, begun, ended, Program.isDone]
    | halt place => rw [place]

theorem step_call {thread : Thread} {operation : Operation} :
    Step body s (.call thread operation) t ↔ s.halted = false ∧
      s.program (.caller thread) = .done ∧ t = s.setProgram (.caller thread) (body operation) := by
  simp [Next, step, Program.isDone_iff, and_assoc, eq_comm (b := t)]

omit [DecidableEq Lock] in
@[simp] theorem setProgram_self (s : State Thread Lock Data Result) (runner : Runner Thread)
    (program : Program Lock Data Result) : (s.setProgram runner program).program runner = program :=
  Function.update_self ..

omit [DecidableEq Lock] in
theorem setProgram_of_ne (s : State Thread Lock Data Result) (program : Program Lock Data Result)
    (different : other ≠ runner) : (s.setProgram runner program).program other = s.program other :=
  Function.update_of_ne different ..

/-- Who takes a step has a program. -/
theorem Moved.busy (moved : Moved s runner t) : s.program runner ≠ .done := by
  cases moved <;> simp [*]

omit [DecidableEq Thread] in
theorem task?_ne {child : Runner Thread} (begins : runner.task? = some child) : child ≠ runner := by
  rintro rfl
  cases child <;> cases begins

omit [DecidableEq Thread] in
/-- A task has one caller. -/
theorem task?_inj {child : Runner Thread} (first : other.task? = some child)
    (second : runner.task? = some child) : other = runner := by
  cases other with
  | caller one =>
    obtain rfl := Option.some.inj first
    cases runner with
    | caller two =>
      obtain rfl : two = one := Runner.task.inj (Option.some.inj second)
      rfl
    | task two => cases second
  | task one => cases first

/-- **The other programs stay**, but for a task that begins. -/
theorem program_other (moved : Moved s runner t) (different : other ≠ runner) :
    t.program other = s.program other ∨
      (runner.task? = some other ∧ s.program other = .done ∧
        ∃ next, s.program runner = .spawn (t.program other) next) := by
  cases moved with
  | ret => exact .inl (Function.update_of_ne different ..)
  | acquire =>
    rename_i lock mode next free place
    cases mode <;> exact .inl (Function.update_of_ne different ..)
  | release =>
    unfold State.unlock
    split <;> exact .inl (Function.update_of_ne different ..)
  | act => exact .inl (Function.update_of_ne different ..)
  | @spawn task next child place begins idle =>
    rw [setProgram_of_ne _ _ different]
    by_cases same : other = child
    · subst same
      rw [setProgram_self]
      exact .inr ⟨begins, idle, next, place⟩
    · exact .inl (setProgram_of_ne _ _ same)
  | join => exact .inl (Function.update_of_ne different ..)
  | halt => exact .inl rfl

end Moved

/-! ### Holding locks in order -/

section Order

variable {Thread Lock Data Result Rank : Type} {s t : State Thread Lock Data Result}

def State.Holds (s : State Thread Lock Data Result) (runner : Runner Thread) (lock : Lock) : Prop :=
  s.writer lock = some runner ∨ runner ∈ s.readers lock

/-- The locks of a runner. -/
def State.held (s : State Thread Lock Data Result) (runner : Runner Thread) : Set Lock :=
  {lock | s.Holds runner lock}

/-- A writer is alone, and a reader holds a lock once. -/
structure Exclusion (s : State Thread Lock Data Result) : Prop where
  alone : ∀ lock runner, s.writer lock = some runner → s.readers lock = []
  once : ∀ lock, (s.readers lock).Nodup

/-- What a program is bound to do about tasks. -/
inductive Duty
  /-- A call without a task. -/
  | free
  /-- A call that has begun a task and not waited for it yet. -/
  | begun
  | task
  deriving DecidableEq, Repr

/-- **A program that takes its locks in order**, beginning with these, and waits for its task. -/
def Ranked [Preorder Rank] (rank : Lock → Rank) :
    Duty → Set Lock → Program Lock Data Result → Prop
  | duty, held, .done | duty, held, .ret _ => duty ≠ .begun ∧ held = ∅
  | duty, held, .acquire lock _ next =>
    (∀ lower ∈ held, rank lower < rank lock) ∧ Ranked rank duty (insert lock held) next
  | duty, held, .release lock next => lock ∈ held ∧ Ranked rank duty (held \ {lock}) next
  | duty, held, .act _ next => ∀ data, Ranked rank duty held (next data)
  | duty, held, .spawn task next =>
    duty = .free ∧ Ranked rank .task ∅ task ∧ Ranked rank .begun held next
  | duty, held, .join next =>
    duty = .begun ∧ held = ∅ ∧ ∀ outcome, Ranked rank .free ∅ (next outcome)
  | _, _, .halt => True

/-- The duty is that of the runner. -/
def State.Bound (s : State Thread Lock Data Result) : Runner Thread → Duty → Prop
  | .caller thread, duty => duty ≠ .task ∧ (duty = .free → s.program (.task thread) = .done)
  | .task _, duty => duty = .task

variable [DecidableEq Thread] [DecidableEq Lock] {runner other : Runner Thread} {lock : Lock}
  {mode : Mode}

/-! #### Taking and releasing -/

omit [DecidableEq Thread] in
theorem lock_holds (free : s.Free lock mode) (other : Runner Thread) (wanted : Lock) :
    (s.lock lock runner mode).Holds other wanted ↔
      s.Holds other wanted ∨ (other = runner ∧ wanted = lock) := by
  by_cases same : wanted = lock
  · subst same
    cases mode with
    | shared =>
      show s.writer wanted = some other ∨ other ∈ Function.update s.readers wanted _ wanted ↔ _
      rw [Function.update_self, List.mem_cons, State.Holds]
      simp only [and_true]
      rw [or_assoc, or_comm (a := other = runner)]
    | exclusive =>
      obtain ⟨unwritten, unread⟩ := free
      show Function.update s.writer wanted _ wanted = some other ∨ other ∈ s.readers wanted ↔ _
      rw [Function.update_self, State.Holds, unwritten, unread]
      simp [eq_comm]
  · have unchanged : (s.lock lock runner mode).Holds other wanted ↔ s.Holds other wanted := by
      cases mode with
      | shared =>
        show s.writer wanted = some other ∨ other ∈ Function.update s.readers lock _ wanted ↔ _
        rw [Function.update_of_ne same]
        rfl
      | exclusive =>
        show Function.update s.writer lock _ wanted = some other ∨ other ∈ s.readers wanted ↔ _
        rw [Function.update_of_ne same]
        rfl
    rw [unchanged]
    exact (or_iff_left fun taken => same taken.2).symm

theorem unlock_holds (exclusion : Exclusion s) (holds : s.Holds runner lock)
    (other : Runner Thread) (wanted : Lock) :
    (s.unlock lock runner).Holds other wanted ↔
      s.Holds other wanted ∧ ¬ (other = runner ∧ wanted = lock) := by
  unfold State.unlock
  split
  case isTrue writes =>
    have unread := exclusion.alone lock runner writes
    show Function.update s.writer lock none wanted = some other ∨ other ∈ s.readers wanted ↔ _
    by_cases same : wanted = lock
    · rw [same, Function.update_self, State.Holds, writes, unread]
      simp [eq_comm]
    · rw [Function.update_of_ne same]
      exact (and_iff_left fun taken => same taken.2).symm
  case isFalse reads =>
    have reading : runner ∈ s.readers lock := holds.resolve_left reads
    show s.writer wanted = some other ∨ other ∈ Function.update s.readers lock _ wanted ↔ _
    by_cases same : wanted = lock
    · rw [same, Function.update_self, (exclusion.once lock).mem_erase_iff, State.Holds]
      have unwritten : s.writer lock ≠ some other := by
        intro writes
        rw [exclusion.alone lock other writes] at reading
        exact List.not_mem_nil reading
      simp [unwritten, and_comm]
    · rw [Function.update_of_ne same]
      exact (and_iff_left fun taken => same taken.2).symm

omit [DecidableEq Thread] in
theorem lock_exclusion (exclusion : Exclusion s) (free : s.Free lock mode)
    (outside : ¬ s.Holds runner lock) : Exclusion (s.lock lock runner mode) where
  alone := by
    intro wanted owner writes
    cases mode with
    | shared =>
      have unwritten : s.writer lock = none := free
      have different : wanted ≠ lock := by
        rintro rfl
        exact absurd (unwritten.symm.trans writes) (by simp)
      show Function.update s.readers lock _ wanted = []
      rw [Function.update_of_ne different]
      exact exclusion.alone wanted owner writes
    | exclusive =>
      by_cases same : wanted = lock
      · rw [same]
        exact free.2
      · have before : s.writer wanted = some owner := by
          simpa [State.lock, Function.update_of_ne same] using writes
        exact exclusion.alone wanted owner before
  once := by
    intro wanted
    cases mode with
    | shared =>
      show (Function.update s.readers lock _ wanted).Nodup
      by_cases same : wanted = lock
      · rw [same, Function.update_self]
        exact (exclusion.once lock).cons fun reads => outside (.inr reads)
      · rw [Function.update_of_ne same]
        exact exclusion.once wanted
    | exclusive => exact exclusion.once wanted

theorem unlock_exclusion (exclusion : Exclusion s) : Exclusion (s.unlock lock runner) := by
  unfold State.unlock
  split
  · refine ⟨fun wanted owner writes => ?_, exclusion.once⟩
    by_cases same : wanted = lock
    · simp [same] at writes
    · exact exclusion.alone wanted owner (by simpa [Function.update_of_ne same] using writes)
  · refine ⟨fun wanted owner writes => ?_, fun wanted => ?_⟩
    · show Function.update s.readers lock _ wanted = []
      by_cases same : wanted = lock
      · rw [same] at writes ⊢
        rw [Function.update_self, exclusion.alone lock owner writes]
        rfl
      · rw [Function.update_of_ne same]
        exact exclusion.alone wanted owner writes
    · show (Function.update s.readers lock _ wanted).Nodup
      by_cases same : wanted = lock
      · rw [same, Function.update_self]
        exact (exclusion.once lock).erase runner
      · rw [Function.update_of_ne same]
        exact exclusion.once wanted

/-! #### Steps -/

variable [Preorder Rank] {rank : Lock → Rank} {duty : Duty}

omit [DecidableEq Thread] [DecidableEq Lock] in
theorem Ranked.critical {held : Set Lock} {write : Data → Data}
    {next : Data → Program Lock Data Result} (above : ∀ lower ∈ held, rank lower < rank lock)
    (rest : ∀ data, Ranked rank duty held (next data)) :
    Ranked rank duty held (.critical lock mode write next) := by
  have outside : lock ∉ held := fun member => lt_irrefl _ (above lock member)
  refine ⟨above, fun data => ⟨Set.mem_insert lock held, ?_⟩⟩
  rw [Set.insert_sdiff_self_of_notMem outside]
  exact rest data

/-- What holds in every state: everybody goes on in order from the locks that he holds. -/
structure Sound (rank : Lock → Rank) (s : State Thread Lock Data Result) : Prop where
  exclusion : Exclusion s
  ranked : ∀ runner, ∃ duty,
    s.Bound runner duty ∧ Ranked rank duty (s.held runner) (s.program runner)

omit [DecidableEq Thread] [DecidableEq Lock] in
/-- Who has no program holds nothing, and has no task. -/
theorem Sound.idle (sound : Sound rank s) (idle : s.program runner = .done) :
    s.held runner = ∅ ∧ ∀ child, runner.task? = some child → s.program child = .done := by
  obtain ⟨duty, bound, ranked⟩ := sound.ranked runner
  rw [idle] at ranked
  obtain ⟨joined, nothing⟩ := ranked
  refine ⟨nothing, fun child begins => ?_⟩
  cases runner with
  | caller thread =>
    obtain rfl := Option.some.inj begins
    refine bound.2 ?_
    cases duty with
    | free => rfl
    | begun => exact absurd rfl joined
    | task => exact absurd rfl bound.1
  | task thread => cases begins

omit [DecidableEq Thread] [DecidableEq Lock] in
theorem sound_init (data : Data) : Sound rank (init Thread Lock Result data) where
  exclusion := ⟨fun _ _ _ => rfl, fun _ => List.nodup_nil⟩
  ranked := by
    have nothing (runner : Runner Thread) : (init Thread Lock Result data).held runner = ∅ := by
      simp [init, State.held, State.Holds]
    intro runner
    rw [nothing]
    cases runner with
    | caller thread => exact ⟨.free, ⟨nofun, fun _ => rfl⟩, nofun, rfl⟩
    | task thread => exact ⟨.task, rfl, nofun, rfl⟩

omit [DecidableEq Thread] [DecidableEq Lock] in
/-- The duty of a runner depends on its task only. -/
theorem bound_of_task (bound : s.Bound runner duty)
    (same : ∀ child, runner.task? = some child → s.program child = .done →
      t.program child = .done) :
    t.Bound runner duty := by
  cases runner with
  | caller thread => exact ⟨bound.1, fun free => same _ rfl (bound.2 free)⟩
  | task thread => exact bound

omit [DecidableEq Lock] in
theorem sound_call {thread : Thread} (sound : Sound rank s)
    (free : s.program (.caller thread) = .done) {program : Program Lock Data Result}
    (ranked : Ranked rank .free ∅ program) :
    Sound rank (s.setProgram (.caller thread) program) where
  exclusion := ⟨sound.exclusion.alone, sound.exclusion.once⟩
  ranked := by
    intro other
    obtain ⟨nothing, waited⟩ := sound.idle free
    by_cases same : other = .caller thread
    · subst same
      refine ⟨.free, ⟨nofun, fun _ => waited _ rfl⟩, ?_⟩
      rw [setProgram_self]
      show Ranked rank .free (s.held _) program
      rw [nothing]
      exact ranked
    · obtain ⟨duty, bound, before⟩ := sound.ranked other
      refine ⟨duty, bound_of_task bound fun child begins idle => ?_, ?_⟩
      · have apart : child ≠ .caller thread := by
          rintro rfl
          cases other <;> cases begins
        rwa [setProgram_of_ne _ _ apart]
      · rw [setProgram_of_ne _ _ same]
        exact before

/-- A step takes a lock or releases one, of the runner only. -/
theorem held_move (exclusion : Exclusion s)
    (ranked : Ranked rank duty (s.held runner) (s.program runner)) (moved : Moved s runner t) :
    Exclusion t ∧ ∀ other, other ≠ runner → t.held other = s.held other := by
  cases moved with
  | @acquire lock mode next place free =>
    rw [place] at ranked
    have outside : ¬ s.Holds runner lock := fun holds => lt_irrefl _ (ranked.1 lock holds)
    have after := lock_exclusion exclusion free outside
    refine ⟨⟨after.alone, after.once⟩, fun other different => ?_⟩
    ext wanted
    exact (lock_holds free other wanted).trans (or_iff_left fun taken => different taken.1)
  | @release lock next place =>
    rw [place] at ranked
    have after : Exclusion (s.unlock lock runner) := unlock_exclusion exclusion
    refine ⟨⟨after.alone, after.once⟩, fun other different => ?_⟩
    ext wanted
    exact (unlock_holds exclusion ranked.1 other wanted).trans
      (and_iff_left fun taken => different taken.1)
  | _ => exact ⟨⟨exclusion.alone, exclusion.once⟩, fun _ _ => rfl⟩

/-- What the runner goes on with is in order. -/
theorem ranked_self (exclusion : Exclusion s) (bound : s.Bound runner duty)
    (ranked : Ranked rank duty (s.held runner) (s.program runner)) (moved : Moved s runner t) :
    ∃ after, t.Bound runner after ∧ Ranked rank after (t.held runner) (t.program runner) := by
  have stays (calm : ∀ task next, s.program runner ≠ .spawn task next) : t.Bound runner duty := by
    refine bound_of_task bound fun child begins idle => ?_
    obtain same | ⟨-, -, next, place⟩ := program_other moved (task?_ne begins)
    · rw [same, idle]
    · exact absurd place (calm _ _)
  cases moved with
  | ret place =>
    rw [place] at ranked
    refine ⟨duty, stays (by simp [place]), ?_⟩
    rw [setProgram_self]
    exact ranked
  | @acquire lock mode next place free =>
    rw [place] at ranked
    refine ⟨duty, stays (by simp [place]), ?_⟩
    have held : ((s.lock lock runner mode).setProgram runner next).held runner =
        insert lock (s.held runner) := by
      ext wanted
      refine (lock_holds free runner wanted).trans ?_
      simp [State.held, or_comm]
    rw [setProgram_self, held]
    exact ranked.2
  | @release lock next place =>
    rw [place] at ranked
    refine ⟨duty, stays (by simp [place]), ?_⟩
    have held : ((s.unlock lock runner).setProgram runner next).held runner =
        s.held runner \ {lock} := by
      ext wanted
      refine (unlock_holds exclusion ranked.1 runner wanted).trans ?_
      simp [State.held]
    rw [setProgram_self, held]
    exact ranked.2
  | act place =>
    rw [place] at ranked
    refine ⟨duty, stays (by simp [place]), ?_⟩
    rw [setProgram_self]
    exact ranked s.data
  | @spawn task next child place begins idle =>
    rw [place] at ranked
    refine ⟨.begun, ?_, ?_⟩
    · cases runner with
      | caller thread => exact ⟨nofun, nofun⟩
      | task thread => cases begins
    · rw [setProgram_self]
      exact ranked.2.2
  | @join next child place begun ended =>
    rw [place] at ranked
    obtain ⟨-, nothing, rest⟩ := ranked
    refine ⟨.free, ?_, ?_⟩
    · cases runner with
      | caller thread =>
        have apart := task?_ne begun
        obtain rfl := Option.some.inj begun
        exact ⟨nofun, fun _ => (setProgram_of_ne s _ apart).trans ended⟩
      | task thread => cases begun
    · rw [setProgram_self]
      show Ranked rank .free (s.held runner) _
      rw [nothing]
      exact rest _
  | halt place => exact ⟨duty, stays (by simp [place]), ranked⟩

theorem sound_move (sound : Sound rank s) (moved : s.move runner = some t) : Sound rank t := by
  obtain ⟨-, moved⟩ := move_iff.mp moved
  obtain ⟨duty, bound, ranked⟩ := sound.ranked runner
  obtain ⟨exclusion, apart⟩ := held_move sound.exclusion ranked moved
  refine ⟨exclusion, fun other => ?_⟩
  by_cases same : other = runner
  · subst same
    exact ranked_self sound.exclusion bound ranked moved
  obtain unchanged | ⟨begins, idle, next, place⟩ := program_other moved same
  · obtain ⟨before, fits, goes⟩ := sound.ranked other
    rw [unchanged, apart other same]
    refine ⟨before, bound_of_task fits fun child begins idle => ?_, goes⟩
    have different : child ≠ runner := by
      rintro rfl
      exact moved.busy idle
    obtain stays | ⟨parent, -⟩ := program_other moved different
    · rw [stays, idle]
    · exact absurd (task?_inj begins parent) same
  · rw [place] at ranked
    rw [apart other same, (sound.idle idle).1]
    refine ⟨.task, ?_, ranked.2.1⟩
    cases other with
    | caller thread => cases runner <;> cases begins
    | task thread => rfl

/-! #### Nobody waits forever -/

/-- The next step of the runner takes this lock. -/
def State.Waits (s : State Thread Lock Data Result) (runner : Runner Thread) (lock : Lock) : Prop :=
  ∃ mode next, s.program runner = .acquire lock mode next

omit [DecidableEq Thread] [DecidableEq Lock] in
theorem Sound.ordered (sound : Sound rank s) : LockOrder.Ordered s.Waits s.Holds rank := by
  rintro runner owned wanted holds ⟨mode, next, place⟩
  obtain ⟨duty, -, ranked⟩ := sound.ranked runner
  rw [place] at ranked
  exact ranked.1 owned holds

/-- Who has a program goes on, waits for the owner of a lock, or waits for its task. -/
theorem moves_or_waits (sound : Sound rank s) (running : s.halted = false)
    (busy : s.program runner ≠ .done) :
    (∃ t, s.move runner = some t) ∨ (∃ owner, LockOrder.WaitsFor s.Waits s.Holds runner owner) ∨
      ∃ next child, s.program runner = .join next ∧ runner.task? = some child ∧
        s.program child ≠ .done := by
  have goes {t : State Thread Lock Data Result} (moved : Moved s runner t) :
      ∃ t, s.move runner = some t := ⟨t, move_iff.mpr ⟨running, moved⟩⟩
  obtain ⟨duty, bound, ranked⟩ := sound.ranked runner
  cases place : s.program runner with
  | done => exact absurd place busy
  | ret result => exact .inl (goes (.ret place))
  | acquire lock mode next =>
    by_cases free : s.Free lock mode
    · exact .inl (goes (.acquire place free))
    · obtain ⟨owner, owns⟩ : ∃ owner, s.Holds owner lock := by
        by_contra nobody
        have unwritten : s.writer lock = none :=
          Option.eq_none_iff_forall_ne_some.mpr fun owner writes => nobody ⟨owner, .inl writes⟩
        have unread : s.readers lock = [] :=
          List.eq_nil_iff_forall_not_mem.mpr fun owner reads => nobody ⟨owner, .inr reads⟩
        cases mode with
        | shared => exact free unwritten
        | exclusive => exact free ⟨unwritten, unread⟩
      exact .inr (.inl ⟨owner, lock, ⟨mode, next, place⟩, owns⟩)
  | release lock next => exact .inl (goes (.release place))
  | act write next => exact .inl (goes (.act place))
  | spawn task next =>
    rw [place] at ranked
    obtain ⟨free, -⟩ := ranked
    cases runner with
    | caller thread => exact .inl (goes (.spawn place rfl (bound.2 free)))
    | task thread => cases bound.symm.trans free
  | join next =>
    rw [place] at ranked
    obtain ⟨begun, -⟩ := ranked
    cases runner with
    | caller thread =>
      by_cases ended : s.program (.task thread) = .done
      · exact .inl (goes (.join place rfl ended))
      · exact .inr (.inr ⟨next, _, rfl, rfl, ended⟩)
    | task thread => cases bound.symm.trans begun
  | halt => exact .inl (goes (.halt place))

omit [DecidableEq Thread] [DecidableEq Lock] in
/-- Who waits for a task holds no lock, and is no task. -/
theorem Sound.joining (sound : Sound rank s) {next : Option Result → Program Lock Data Result}
    (place : s.program runner = .join next) :
    s.held runner = ∅ ∧ ∃ child, runner.task? = some child := by
  obtain ⟨duty, bound, ranked⟩ := sound.ranked runner
  rw [place] at ranked
  obtain ⟨begun, nothing, -⟩ := ranked
  refine ⟨nothing, ?_⟩
  cases runner with
  | caller thread => exact ⟨_, rfl⟩
  | task thread => cases bound.symm.trans begun

/-- **Where somebody has a program, somebody can go on**, unless a program has halted. -/
theorem move_of_busy [WellFoundedGT Rank] (sound : Sound rank s) (running : s.halted = false)
    (busy : s.program runner ≠ .done) : ∃ other t, s.move other = some t := by
  -- in place of a call that waits for its task, the task
  obtain ⟨first, goes, ready⟩ : ∃ first, s.program first ≠ .done ∧ ∀ next child,
      s.program first = .join next → first.task? = some child → s.program child = .done := by
    by_cases waits : ∃ next child, s.program runner = .join next ∧ runner.task? = some child ∧
        s.program child ≠ .done
    · obtain ⟨-, child, -, begun, runs⟩ := waits
      refine ⟨child, runs, fun next other place begins => ?_⟩
      cases runner <;> cases begun
      cases begins
    · exact ⟨runner, busy, fun next child place begun =>
        not_not.mp fun runs => waits ⟨next, child, place, begun, runs⟩⟩
  obtain ⟨last, chain, ends⟩ := LockOrder.chain_ends sound.ordered first
  have holds : last = first ∨ s.held last ≠ ∅ := by
    rcases Relation.ReflTransGen.cases_tail chain with same | ⟨before, -, lock, -, holds⟩
    · exact .inl same
    · exact .inr fun nothing => Set.eq_empty_iff_forall_notMem.mp nothing lock holds
  have lasts : s.program last ≠ .done := by
    rcases holds with rfl | holds
    · exact goes
    · exact fun idle => holds (sound.idle idle).1
  rcases moves_or_waits sound running lasts with moves | ⟨next, waits⟩ |
    ⟨next, child, place, begun, runs⟩
  · exact ⟨last, moves⟩
  · exact absurd waits (ends next)
  · rcases holds with rfl | holds
    · exact absurd (ready next child place begun) runs
    · exact absurd (sound.joining place).1 holds

/-! #### The steps end -/

/-- What a step leaves of a program. -/
inductive Part : Program Lock Data Result → Program Lock Data Result → Prop
  | ret (result : Result) : Part .done (.ret result)
  | acquire (lock : Lock) (mode : Mode) (next : Program Lock Data Result) :
      Part next (.acquire lock mode next)
  | release (lock : Lock) (next : Program Lock Data Result) : Part next (.release lock next)
  | act (write : Data → Data) (next : Data → Program Lock Data Result) (data : Data) :
      Part (next data) (.act write next)
  | task (task next : Program Lock Data Result) : Part task (.spawn task next)
  | spawn (task next : Program Lock Data Result) : Part next (.spawn task next)
  | join (next : Option Result → Program Lock Data Result) (outcome : Option Result) :
      Part (next outcome) (.join next)

omit [DecidableEq Lock] in
theorem wellFounded_part : WellFounded (@Part Lock Data Result) := by
  have last : Acc Part (.done : Program Lock Data Result) := ⟨_, fun _ part => by cases part⟩
  refine ⟨fun program => ?_⟩
  induction program with
  | done => exact last
  | ret result => exact ⟨_, fun _ part => by cases part; exact last⟩
  | acquire lock mode next ih => exact ⟨_, fun _ part => by cases part; exact ih⟩
  | release lock next ih => exact ⟨_, fun _ part => by cases part; exact ih⟩
  | act write next ih => exact ⟨_, fun _ part => by cases part; exact ih _⟩
  | spawn task next first second =>
    refine ⟨_, fun _ part => ?_⟩
    cases part with
    | task => exact first
    | spawn => exact second
  | join next ih => exact ⟨_, fun _ part => by cases part; exact ih _⟩
  | halt => exact ⟨_, fun _ part => by cases part⟩

/-- One multiset of programs is what steps leave of another. -/
abbrev Shrinks : Multiset (Program Lock Data Result) → Multiset (Program Lock Data Result) → Prop :=
  Relation.TransGen (Relation.CutExpand Part)

/-- What is left of a call and of its task. -/
def State.share (s : State Thread Lock Data Result) (thread : Thread) :
    Multiset (Program Lock Data Result) :=
  {s.program (.caller thread), s.program (.task thread)}

/-- What is left of the calls of some threads. -/
def State.left (s : State Thread Lock Data Result) (callers : Finset Thread) :
    Multiset (Program Lock Data Result) :=
  callers.sum s.share

/-- A step of a thread leaves the programs of the others alone. -/
theorem share_other (moved : Moved s runner t) {thread : Thread}
    (different : thread ≠ runner.thread) : t.share thread = s.share thread := by
  have caller : t.program (.caller thread) = s.program (.caller thread) := by
    refine (program_other moved ?_).resolve_right fun begun => ?_
    · rintro rfl
      exact different rfl
    · cases runner <;> cases begun.1
  have task : t.program (.task thread) = s.program (.task thread) := by
    refine (program_other moved ?_).resolve_right fun begun => ?_
    · rintro rfl
      exact different rfl
    · cases runner with
      | caller other => exact different (Runner.task.inj (Option.some.inj begun.1)).symm
      | task other => cases begun.1
  unfold State.share
  rw [caller, task]

/-- Where the other runner of the thread has the same program, a part stands in for a program. -/
theorem shrinks_of_part (moved : Moved s runner t)
    (calm : ∀ task next, s.program runner ≠ .spawn task next)
    (part : Part (t.program runner) (s.program runner)) :
    Shrinks (t.share runner.thread) (s.share runner.thread) := by
  have same {other : Runner Thread} (different : other ≠ runner) :
      t.program other = s.program other :=
    (program_other moved different).resolve_right fun ⟨_, _, next, place⟩ => calm _ _ place
  cases runner with
  | caller thread =>
    have task : t.program (.task thread) = s.program (.task thread) := same nofun
    show Shrinks {t.program (.caller thread), t.program (.task thread)} _
    rw [task]
    exact .single (Relation.cutExpand_pair_left part)
  | task thread =>
    have caller : t.program (.caller thread) = s.program (.caller thread) := same nofun
    show Shrinks {t.program (.caller thread), t.program (.task thread)} _
    rw [caller]
    exact .single (Relation.cutExpand_pair_right part)

/-- **A step leaves less of the thread's programs.** -/
theorem share_self (moved : Moved s runner t) :
    t.halted = true ∨ Shrinks (t.share runner.thread) (s.share runner.thread) := by
  have whole := moved
  cases moved with
  | ret place =>
    refine .inr (shrinks_of_part whole (by simp [place]) ?_)
    rw [place, setProgram_self]
    exact .ret _
  | acquire place free =>
    refine .inr (shrinks_of_part whole (by simp [place]) ?_)
    rw [place, setProgram_self]
    exact .acquire _ _ _
  | release place =>
    refine .inr (shrinks_of_part whole (by simp [place]) ?_)
    rw [place, setProgram_self]
    exact .release _ _
  | act place =>
    refine .inr (shrinks_of_part whole (by simp [place]) ?_)
    rw [place, setProgram_self]
    exact .act _ _ _
  | join place begun ended =>
    refine .inr (shrinks_of_part whole (by simp [place]) ?_)
    rw [place, setProgram_self]
    exact .join _ _
  | halt place => exact .inl rfl
  | @spawn task next child place begins idle =>
    cases runner with
    | task thread => cases begins
    | caller thread =>
      obtain rfl := Option.some.inj begins
      refine .inr ?_
      -- the empty program of the task goes, then the call splits
      have drops : Relation.CutExpand Part {s.program (.caller thread)} (s.share thread) := by
        rw [← add_zero {s.program (.caller thread)}]
        exact (Relation.cutExpand_add_left _).mpr Relation.cutExpand_zero
      have apart := task?_ne begins
      have splits (u : State Thread Lock Data Result) :
          ((u.setProgram (.task thread) task).setProgram (.caller thread) next).share thread =
            {next, task} := by
        unfold State.share
        rw [setProgram_self, setProgram_of_ne _ _ apart, setProgram_self]
      refine .head ?_ (.single drops)
      rw [place]
      show Relation.CutExpand Part (State.share _ thread) _
      rw [splits]
      exact Relation.cutExpand_double (.spawn task next) (.task task next)

theorem left_of_move {callers : Finset Thread} (among : runner.thread ∈ callers)
    (moved : Moved s runner t) : t.halted = true ∨ Shrinks (t.left callers) (s.left callers) := by
  refine (share_self moved).imp_right fun shrinks => ?_
  have rest : (callers.erase runner.thread).sum t.share =
      (callers.erase runner.thread).sum s.share :=
    Finset.sum_congr rfl fun other member => share_other moved (Finset.ne_of_mem_erase member)
  unfold State.left
  rw [← Finset.add_sum_erase callers t.share among, ← Finset.add_sum_erase callers s.share among,
    rest]
  exact shrinks.lift (· + _) fun _ _ => (Relation.cutExpand_add_right _).mpr

/-- Only these threads are in a call. -/
def State.Among (s : State Thread Lock Data Result) (callers : Finset Thread) : Prop :=
  ∀ runner, runner.thread ∉ callers → s.program runner = .done

theorem among_move {callers : Finset Thread} (among : s.Among callers)
    (moved : Moved s runner t) : runner.thread ∈ callers ∧ t.Among callers := by
  have member : runner.thread ∈ callers := by
    by_contra outside
    exact moved.busy (among runner outside)
  refine ⟨member, fun other outside => ?_⟩
  have different : other ≠ runner := by
    rintro rfl
    exact outside member
  obtain same | ⟨begun, -⟩ := program_other moved different
  · rw [same, among other outside]
  · refine absurd ?_ outside
    cases runner with
    | caller thread =>
      obtain rfl := Option.some.inj begun
      exact member
    | task thread => cases begun

/-- **The steps of calls that have begun end**, in any order. -/
theorem acc_moves {callers : Finset Thread} (among : s.Among callers) :
    Acc (fun after before => Moves before after) s := by
  induction remaining : s.left callers using wellFounded_part.cutExpand.transGen.induction
    generalizing s with
  | h remaining ih =>
    subst remaining
    refine ⟨_, fun t moves => ?_⟩
    obtain ⟨runner, moved⟩ := moves
    obtain ⟨member, still⟩ := among_move among (move_iff.mp moved).2
    rcases left_of_move member (move_iff.mp moved).2 with halted | shrinks
    · refine ⟨_, fun u ⟨other, next⟩ => ?_⟩
      rw [(move_iff.mp next).1] at halted
      cases halted
    · exact ih _ shrinks still rfl

/-- A state from which everything comes to its end. -/
theorem comes_to_rest [WellFoundedGT Rank] (sound : Sound rank s)
    (ends : Acc (fun after before => Moves before after) s) :
    ∃ t, Relation.ReflTransGen Moves s t ∧
      (t.halted = true ∨ ∀ runner, t.program runner = .done ∧ t.held runner = ∅) := by
  induction ends with
  | intro s _ ih =>
    by_cases rest : ∀ runner, s.program runner = .done
    · exact ⟨s, .refl, .inr fun runner => ⟨rest runner, (sound.idle (rest runner)).1⟩⟩
    by_cases running : s.halted = true
    · exact ⟨s, .refl, .inl running⟩
    · obtain ⟨runner, busy⟩ := not_forall.mp rest
      obtain ⟨other, t, moved⟩ := move_of_busy sound (by simpa using running) busy
      obtain ⟨u, moves, idle⟩ := ih t ⟨other, moved⟩ (sound_move sound moved)
      exact ⟨u, .head ⟨other, moved⟩ moves, idle⟩

end Order

/-! ### Runs -/

section Runs

variable {Thread Lock Data Result Operation Rank : Type} [DecidableEq Thread]
  [DecidableEq Lock] [Preorder Rank] {rank : Lock → Rank}
  {body : Operation → Program Lock Data Result} {data : Data}
  {s : State Thread Lock Data Result} {trace : List (Label Thread Operation)}

theorem sound_run (ranked : ∀ operation, Ranked rank .free ∅ (body operation))
    (run : Run (Step body) (init Thread Lock Result data) trace s) : Sound rank s := by
  refine run.invariant (Sound rank) (sound_init data) fun s label t sound taken => ?_
  cases label with
  | call thread operation =>
    obtain ⟨-, free, rfl⟩ := step_call.mp taken
    exact sound_call sound free (ranked operation)
  | move runner => exact sound_move sound taken

/-- Finitely many threads have called. -/
theorem among_run (run : Run (Step body) (init Thread Lock Result data) trace s) :
    ∃ callers : Finset Thread, s.Among callers := by
  refine run.invariant (fun s => ∃ callers : Finset Thread, s.Among callers)
    ⟨∅, fun _ _ => rfl⟩ fun s label t ⟨callers, among⟩ taken => ?_
  cases label with
  | call thread operation =>
    obtain ⟨-, -, rfl⟩ := step_call.mp taken
    refine ⟨insert thread callers, fun other outside => ?_⟩
    rw [Finset.mem_insert, not_or] at outside
    have different : other ≠ .caller thread := by
      rintro rfl
      exact outside.1 rfl
    rw [setProgram_of_ne _ _ different]
    exact among other outside.2
  | move runner => exact ⟨callers, (among_move among (move_iff.mp taken).2).2⟩

end Runs

end Transition.Locking
