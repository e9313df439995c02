/-
**Sections under a readers–writer lock — the discipline that makes them atomic.**

An operation is a section of steps on a shared value and on locals of its own. It runs from taking
the lock to releasing it, shared or exclusive, and the steps of several sections interleave. A
section that takes the lock shared does not write the value; that is part of what a section is.

`linearizable` — where every section, run alone, computes the operation of an object, the sections
together implement that object. What carries it is that a section inside would still end with the
result, and the value, that the operation gives on the object as it is now (`Related`).
-/

import NearObject.Transition.Atomic

namespace Transition.Guarded

open Transition.Atomic (Event Phase Linearizable)

variable {Caller Operation Result Value Local : Type*}

/-! ### Sections -/

/-- **The sections of the operations**: one step leads to new locals and a new value, or to the
result. -/
structure Sections (Operation Result Value Local : Type*) where
  exclusive : Operation → Bool
  start : Operation → Local
  next : Operation → Local → Value → (Local × Value) ⊕ Result
  reads : ∀ {operation : Operation} {locals after : Local} {value written : Value},
    exclusive operation = false → next operation locals value = .inl (after, written) →
      written = value

/-- **A section that runs alone**, from these locals and this value. -/
inductive Evaluates (sections : Sections Operation Result Value Local) (operation : Operation) :
    Local → Value → Value → Result → Prop
  | done {locals : Local} {value : Value} {result : Result}
      (ends : sections.next operation locals value = .inr result) :
      Evaluates sections operation locals value value result
  | more {locals after : Local} {value written last : Value} {result : Result}
      (goes : sections.next operation locals value = .inl (after, written))
      (rest : Evaluates sections operation after written last result) :
      Evaluates sections operation locals value last result

/-- The sections, run alone, compute the operations of an object. -/
def Implements (sections : Sections Operation Result Value Local)
    (apply : Operation → Value → Value × Result) : Prop :=
  ∀ operation value, Evaluates sections operation (sections.start operation) value
    (apply operation value).1 (apply operation value).2

section Evaluates

variable {sections : Sections Operation Result Value Local} {operation : Operation}
  {locals after : Local} {value written last : Value} {result end_ : Result}

theorem Evaluates.step (evaluates : Evaluates sections operation locals value last result)
    (goes : sections.next operation locals value = .inl (after, written)) :
    Evaluates sections operation after written last result := by
  cases evaluates with
  | done ends =>
    rw [goes] at ends
    cases ends
  | more goes' rest =>
    rw [goes] at goes'
    obtain ⟨rfl, rfl⟩ := Prod.mk.inj (Sum.inl.inj goes')
    exact rest

theorem Evaluates.finish (evaluates : Evaluates sections operation locals value last result)
    (ends : sections.next operation locals value = .inr end_) : last = value ∧ result = end_ := by
  cases evaluates with
  | done ends' =>
    rw [ends] at ends'
    exact ⟨rfl, (Sum.inr.inj ends').symm⟩
  | more goes _ =>
    rw [ends] at goes
    cases goes

end Evaluates

/-! ### The lock and the callers -/

/-- Where a caller is. -/
inductive Place (Operation Result Local : Type*)
  | idle
  /-- Taking the lock is next. -/
  | waiting (operation : Operation)
  | inside (operation : Operation) (locals : Local)
  /-- The lock is released, and the result is to be returned. -/
  | returning (operation : Operation) (result : Result)

/-- The value, the callers, and who has the lock. -/
structure State (Caller Operation Result Value Local : Type*) where
  value : Value
  place : Caller → Place Operation Result Local
  writer : Option Caller
  readers : List Caller

def init (Caller Operation Result Local : Type*) {Value : Type*} (value : Value) :
    State Caller Operation Result Value Local where
  value := value
  place := fun _ => .idle
  writer := none
  readers := []

inductive Label (Caller Operation Result : Type*)
  | call (caller : Caller) (operation : Operation)
  /-- The lock is taken, shared or exclusive. -/
  | acquire (caller : Caller)
  /-- One step of the section. -/
  | advance (caller : Caller)
  | release (caller : Caller)
  | return (caller : Caller) (result : Result)
  deriving DecidableEq, Repr

section Steps

variable [DecidableEq Caller] [DecidableEq Result]

def State.setPlace (s : State Caller Operation Result Value Local) (caller : Caller)
    (place : Place Operation Result Local) : State Caller Operation Result Value Local :=
  { s with place := Function.update s.place caller place }

variable (sections : Sections Operation Result Value Local)

/-- **One step of a caller**, `none` where the label is not enabled. -/
def step (s : State Caller Operation Result Value Local) :
    Label Caller Operation Result → Option (State Caller Operation Result Value Local)
  | .call caller operation =>
    match s.place caller with
    | .idle => some (s.setPlace caller (.waiting operation))
    | _ => none
  | .acquire caller =>
    match s.place caller with
    | .waiting operation =>
      if sections.exclusive operation then
        if s.writer.isNone ∧ s.readers.isEmpty then
          some ({ s with writer := some caller }.setPlace caller
            (.inside operation (sections.start operation)))
        else none
      else if s.writer.isNone then
        some ({ s with readers := caller :: s.readers }.setPlace caller
          (.inside operation (sections.start operation)))
      else none
    | _ => none
  | .advance caller =>
    match s.place caller with
    | .inside operation locals =>
      match sections.next operation locals s.value with
      | .inl (locals, value) => some ({ s with value }.setPlace caller (.inside operation locals))
      | .inr _ => none
    | _ => none
  | .release caller =>
    match s.place caller with
    | .inside operation locals =>
      match sections.next operation locals s.value with
      | .inl _ => none
      | .inr result =>
        if sections.exclusive operation then
          some ({ s with writer := none }.setPlace caller (.returning operation result))
        else
          some ({ s with readers := s.readers.erase caller }.setPlace caller
            (.returning operation result))
    | _ => none
  | .return caller result =>
    match s.place caller with
    | .returning _ current => if current = result then some (s.setPlace caller .idle) else none
    | _ => none

/-- The callers, as a system. -/
abbrev Step : State Caller Operation Result Value Local → Label Caller Operation Result →
    State Caller Operation Result Value Local → Prop :=
  Next (step sections)

/-- What a label is for the object: a call takes effect as it releases the lock. -/
def observe : Label Caller Operation Result → List (Event Caller Operation Result)
  | .call caller operation => [.invoke caller operation]
  | .release caller => [.commit caller]
  | .return caller result => [.respond caller result]
  | .acquire _ | .advance _ => []

end Steps

/-! ### One lemma for each label -/

section Labels

variable [DecidableEq Caller] [DecidableEq Result]
  {sections : Sections Operation Result Value Local}
  {s t : State Caller Operation Result Value Local} {caller : Caller}

theorem step_call {operation : Operation} : Step sections s (.call caller operation) t ↔
    s.place caller = .idle ∧ t = s.setPlace caller (.waiting operation) := by
  simp only [Step, Next, step]
  cases s.place caller <;> simp [eq_comm (b := t)]

theorem step_acquire : Step sections s (.acquire caller) t ↔
    ∃ operation, s.place caller = .waiting operation ∧ s.writer = none ∧
      ((sections.exclusive operation = true ∧ s.readers = [] ∧
          t = { s with writer := some caller }.setPlace caller
            (.inside operation (sections.start operation))) ∨
        (sections.exclusive operation = false ∧
          t = { s with readers := caller :: s.readers }.setPlace caller
            (.inside operation (sections.start operation)))) := by
  simp only [Step, Next, step]
  cases s.place caller with
  | waiting operation =>
    cases shape : sections.exclusive operation <;>
      simp [shape, and_assoc, eq_comm (b := t)]
  | _ => simp

theorem step_advance : Step sections s (.advance caller) t ↔
    ∃ operation locals after value, s.place caller = .inside operation locals ∧
      sections.next operation locals s.value = .inl (after, value) ∧
      t = { s with value }.setPlace caller (.inside operation after) := by
  simp only [Step, Next, step]
  cases s.place caller with
  | inside operation locals =>
    cases goes : sections.next operation locals s.value with
    | inl pair =>
      obtain ⟨after, value⟩ := pair
      simp [goes, eq_comm (b := t)]
    | inr result => simp [goes]
  | _ => simp

theorem step_release : Step sections s (.release caller) t ↔
    ∃ operation locals result, s.place caller = .inside operation locals ∧
      sections.next operation locals s.value = .inr result ∧
      ((sections.exclusive operation = true ∧
          t = { s with writer := none }.setPlace caller (.returning operation result)) ∨
        (sections.exclusive operation = false ∧
          t = { s with readers := s.readers.erase caller }.setPlace caller
            (.returning operation result))) := by
  simp only [Step, Next, step]
  cases s.place caller with
  | inside operation locals =>
    cases goes : sections.next operation locals s.value with
    | inl after => simp [goes]
    | inr result =>
      cases shape : sections.exclusive operation <;> simp [goes, shape, eq_comm (b := t)]
  | _ => simp

theorem step_return {result : Result} : Step sections s (.return caller result) t ↔
    ∃ operation, s.place caller = .returning operation result ∧ t = s.setPlace caller .idle := by
  simp only [Step, Next, step]
  cases s.place caller <;> simp [eq_comm (b := t)]

end Labels

/-! ### The discipline of the lock -/

/-- How a caller in this place holds the lock, if it does. -/
def Place.mode (sections : Sections Operation Result Value Local) :
    Place Operation Result Local → Option Bool
  | .inside operation _ => some (sections.exclusive operation)
  | _ => none

/-- The phase of the call of a caller in this place. -/
def Place.phase : Place Operation Result Local → Phase Operation Result
  | .idle => .idle
  | .waiting operation | .inside operation _ => .invoked operation
  | .returning operation result => .committed operation result

/-- **The lock is held by those inside**: by one that writes, or by any number that read. -/
structure Locked (sections : Sections Operation Result Value Local)
    (s : State Caller Operation Result Value Local) : Prop where
  writer : ∀ caller, s.writer = some caller ↔ (s.place caller).mode sections = some true
  reader : ∀ caller, caller ∈ s.readers ↔ (s.place caller).mode sections = some false
  alone : s.writer ≠ none → s.readers = []
  once : s.readers.Nodup

/-- **What the sections mean**: outside an exclusive section the value is that of the object, and
every section inside would still compute its operation on the object as it is. -/
structure Meant (sections : Sections Operation Result Value Local)
    (apply : Operation → Value → Value × Result) (object : Value)
    (s : State Caller Operation Result Value Local) : Prop where
  value : s.writer = none → s.value = object
  inside : ∀ caller operation locals, s.place caller = .inside operation locals →
    Evaluates sections operation locals s.value (apply operation object).1
      (apply operation object).2

section Discipline

variable {sections : Sections Operation Result Value Local}
  {apply : Operation → Value → Value × Result} {object : Value}
  {s t : State Caller Operation Result Value Local} {caller : Caller}
  {place : Place Operation Result Local}

/-- Where one caller is inside exclusively, nobody else is inside. -/
theorem Locked.only (locked : Locked sections s)
    (exclusive : (s.place caller).mode sections = some true) {other : Caller}
    (inside : (s.place other).mode sections ≠ none) : other = caller := by
  have writes := (locked.writer caller).mpr exclusive
  obtain ⟨mode, here⟩ := Option.ne_none_iff_exists'.mp inside
  cases mode with
  | true => exact Option.some.inj (((locked.writer other).mpr here).symm.trans writes)
  | false =>
    have reads := (locked.reader other).mpr here
    rw [locked.alone (by rw [writes]; exact Option.some_ne_none caller)] at reads
    cases reads

/-- Outside an exclusive section, those inside read. -/
theorem Locked.shared (locked : Locked sections s) (free : s.writer = none) {operation : Operation}
    {locals : Local} (inside : s.place caller = .inside operation locals) :
    sections.exclusive operation = false := by
  by_contra exclusive
  have mode : (s.place caller).mode sections = some true := by
    rw [inside, Place.mode, (Bool.not_eq_false _).mp exclusive]
  rw [(locked.writer caller).mpr mode] at free
  cases free

variable [DecidableEq Caller]

theorem setPlace_self (s : State Caller Operation Result Value Local) (caller : Caller)
    (place : Place Operation Result Local) : (s.setPlace caller place).place caller = place :=
  Function.update_self ..

theorem setPlace_of_ne {other : Caller} (different : other ≠ caller)
    (s : State Caller Operation Result Value Local) (place : Place Operation Result Local) :
    (s.setPlace caller place).place other = s.place other :=
  Function.update_of_ne different ..

theorem setPlace_phase (s : State Caller Operation Result Value Local) (caller : Caller)
    (place : Place Operation Result Local) :
    (fun other => ((s.setPlace caller place).place other).phase) =
      Function.update (fun other => (s.place other).phase) caller place.phase := by
  funext other
  by_cases here : other = caller
  · rw [here, setPlace_self, Function.update_self]
  · rw [setPlace_of_ne here, Function.update_of_ne here]

/-- A caller that moves without taking or releasing the lock. -/
theorem Locked.moves (locked : Locked sections s)
    (same : place.mode sections = (s.place caller).mode sections) (value : Value) :
    Locked sections ({ s with value }.setPlace caller place) := by
  have modes : ∀ other, (({ s with value }.setPlace caller place).place other).mode sections =
      (s.place other).mode sections := by
    intro other
    by_cases here : other = caller
    · rw [here, setPlace_self, same]
    · rw [setPlace_of_ne here]
  exact ⟨fun other => modes other ▸ locked.writer other,
    fun other => modes other ▸ locked.reader other, locked.alone, locked.once⟩

/-- A caller that takes the lock. -/
theorem Locked.acquires {operation : Operation} {locals : Local} (locked : Locked sections s)
    (outside : (s.place caller).mode sections = none) (free : s.writer = none)
    (exclusive : sections.exclusive operation = true) (empty : s.readers = []) :
    Locked sections ({ s with writer := some caller }.setPlace caller
      (.inside operation locals)) where
  writer := by
    intro other
    by_cases here : other = caller
    · rw [here, setPlace_self, Place.mode, exclusive]
      exact ⟨fun _ => rfl, fun _ => rfl⟩
    · rw [setPlace_of_ne here]
      refine ⟨fun same => absurd (Option.some.inj same).symm here, fun mode => ?_⟩
      have writes := (locked.writer other).mpr mode
      rw [free] at writes
      cases writes
  reader := by
    intro other
    by_cases here : other = caller
    · rw [here, setPlace_self, Place.mode, exclusive]
      refine ⟨fun member => ?_, fun mode => by cases mode⟩
      have mode := (locked.reader caller).mp member
      rw [outside] at mode
      cases mode
    · rw [setPlace_of_ne here]
      exact locked.reader other
  alone := fun _ => empty
  once := locked.once

/-- A caller that takes the lock shared. -/
theorem Locked.joins {operation : Operation} {locals : Local} (locked : Locked sections s)
    (outside : (s.place caller).mode sections = none) (free : s.writer = none)
    (shared : sections.exclusive operation = false) :
    Locked sections ({ s with readers := caller :: s.readers }.setPlace caller
      (.inside operation locals)) where
  writer := by
    intro other
    by_cases here : other = caller
    · rw [here, setPlace_self, Place.mode, shared]
      refine ⟨fun writes => ?_, fun mode => by cases mode⟩
      have mode := (locked.writer caller).mp writes
      rw [outside] at mode
      cases mode
    · rw [setPlace_of_ne here]
      exact locked.writer other
  reader := by
    intro other
    by_cases here : other = caller
    · rw [here, setPlace_self, Place.mode, shared]
      exact ⟨fun _ => rfl, fun _ => List.mem_cons_self⟩
    · rw [setPlace_of_ne here, ← locked.reader other]
      exact ⟨fun member => (List.mem_cons.mp member).resolve_left here, List.mem_cons_of_mem _⟩
  alone := fun writes => absurd free writes
  once := by
    refine List.nodup_cons.mpr ⟨fun member => ?_, locked.once⟩
    have mode := (locked.reader caller).mp member
    rw [outside] at mode
    cases mode

/-- The writer releases the lock. -/
theorem Locked.releases (locked : Locked sections s)
    (exclusive : (s.place caller).mode sections = some true)
    (outside : place.mode sections = none) :
    Locked sections ({ s with writer := none }.setPlace caller place) := by
  have empty : s.readers = [] := locked.alone (by
    rw [(locked.writer caller).mpr exclusive]
    exact Option.some_ne_none caller)
  have nobody : ∀ other, (({ s with writer := none }.setPlace caller place).place other).mode
      sections = none := by
    intro other
    by_cases here : other = caller
    · rw [here, setPlace_self, outside]
    · rw [setPlace_of_ne here]
      by_contra inside
      exact here (locked.only exclusive inside)
  refine ⟨fun other => ?_, fun other => ?_, fun writes => absurd rfl writes, locked.once⟩
  · rw [nobody other]
    exact ⟨fun writes => (by cases writes), fun mode => by cases mode⟩
  · rw [nobody other]
    change other ∈ s.readers ↔ _
    rw [empty]
    exact ⟨fun member => absurd member List.not_mem_nil, fun mode => by cases mode⟩

/-- A reader releases the lock. -/
theorem Locked.leaves (locked : Locked sections s)
    (shared : (s.place caller).mode sections = some false) (outside : place.mode sections = none) :
    Locked sections ({ s with readers := s.readers.erase caller }.setPlace caller place) where
  writer := by
    intro other
    by_cases here : other = caller
    · rw [here, setPlace_self, outside]
      refine ⟨fun writes => ?_, fun mode => by cases mode⟩
      have mode := (locked.writer caller).mp writes
      rw [shared] at mode
      cases mode
    · rw [setPlace_of_ne here]
      exact locked.writer other
  reader := by
    intro other
    change other ∈ s.readers.erase caller ↔ _
    rw [locked.once.mem_erase_iff]
    by_cases here : other = caller
    · rw [here, setPlace_self, outside]
      exact ⟨fun both => absurd rfl both.1, fun mode => by cases mode⟩
    · rw [setPlace_of_ne here, ← locked.reader other]
      exact and_iff_right here
  alone := by
    intro writes
    have reads := (locked.reader caller).mpr shared
    rw [locked.alone writes] at reads
    cases reads
  once := locked.once.erase caller

end Discipline

/-! ### The simulation -/

section Simulation

variable [DecidableEq Caller] [DecidableEq Result]
  {sections : Sections Operation Result Value Local}
  {apply : Operation → Value → Value × Result} {object : Value}
  {s t : State Caller Operation Result Value Local} {caller : Caller}

/-- **A state and the object that it implements.** -/
structure Related (sections : Sections Operation Result Value Local)
    (apply : Operation → Value → Value × Result) (s : State Caller Operation Result Value Local)
    (abstract : Atomic.State Caller Operation Result Value) : Prop where
  locked : Locked sections s
  meant : Meant sections apply abstract.value s
  phase : abstract.phase = fun caller => (s.place caller).phase

omit [DecidableEq Result] in
/-- A caller that is not inside after a step leaves those inside as they are. -/
theorem Meant.outside {place : Place Operation Result Local} (meant : Meant sections apply object s)
    (mode : place.mode sections = none) :
    ∀ other operation locals, (s.setPlace caller place).place other = .inside operation locals →
      Evaluates sections operation locals s.value (apply operation object).1
        (apply operation object).2 := by
  intro other operation locals inside
  by_cases here : other = caller
  · rw [here, setPlace_self] at inside
    rw [inside] at mode
    cases mode
  · rw [setPlace_of_ne here] at inside
    exact meant.inside other operation locals inside

theorem related_acquire {abstract : Atomic.State Caller Operation Result Value}
    (implements : Implements sections apply) (related : Related sections apply s abstract)
    (taken : Step sections s (.acquire caller) t) : Related sections apply t abstract := by
  obtain ⟨locked, meant, phase⟩ := related
  obtain ⟨operation, waiting, free, kind⟩ := step_acquire.mp taken
  have outside : (s.place caller).mode sections = none := by rw [waiting]; rfl
  have still (u : State Caller Operation Result Value Local) (places : u.place = s.place) :
      abstract.phase = fun other =>
        ((u.setPlace caller (.inside operation (sections.start operation))).place other).phase := by
    rw [setPlace_phase, places, phase]
    refine (Function.update_eq_self_iff.mpr ?_).symm
    rw [waiting]
    rfl
  -- the value is that of the object, on which the section starts
  have starts : Evaluates sections operation (sections.start operation) s.value
      (apply operation abstract.value).1 (apply operation abstract.value).2 := by
    rw [meant.value free]
    exact implements operation abstract.value
  have insides (u : State Caller Operation Result Value Local) (places : u.place = s.place) :
      ∀ other operation' locals, (u.setPlace caller
        (.inside operation (sections.start operation))).place other = .inside operation' locals →
        Evaluates sections operation' locals s.value (apply operation' abstract.value).1
          (apply operation' abstract.value).2 := by
    intro other operation' locals inside
    by_cases here : other = caller
    · rw [here, setPlace_self] at inside
      obtain ⟨rfl, rfl⟩ := Place.inside.inj inside
      exact starts
    · rw [setPlace_of_ne here, places] at inside
      exact meant.inside other operation' locals inside
  rcases kind with ⟨exclusive, empty, rfl⟩ | ⟨shared, rfl⟩
  · exact ⟨locked.acquires outside free exclusive empty,
      ⟨fun none => (by cases none), insides _ rfl⟩, still _ rfl⟩
  · exact ⟨locked.joins outside free shared, ⟨fun _ => meant.value free, insides _ rfl⟩,
      still _ rfl⟩

theorem related_advance {abstract : Atomic.State Caller Operation Result Value}
    (related : Related sections apply s abstract) (taken : Step sections s (.advance caller) t) :
    Related sections apply t abstract := by
  obtain ⟨locked, meant, phase⟩ := related
  obtain ⟨operation, locals, after, value, inside, goes, rfl⟩ := step_advance.mp taken
  have mode : (Place.inside operation after : Place Operation Result Local).mode sections =
      (s.place caller).mode sections := by rw [inside]; rfl
  have goesOn := (meant.inside caller operation locals inside).step goes
  refine ⟨locked.moves mode value, ⟨fun free => ?_, fun other operation' locals' here => ?_⟩, ?_⟩
  · -- nobody writes, so this section reads
    have same := sections.reads (locked.shared free inside) goes
    exact same.trans (meant.value free)
  · by_cases own : other = caller
    · rw [own, setPlace_self] at here
      obtain ⟨rfl, rfl⟩ := Place.inside.inj here
      exact goesOn
    · rw [setPlace_of_ne own] at here
      have before := meant.inside other operation' locals' here
      cases shape : sections.exclusive operation with
      | true =>
        have exclusive : (s.place caller).mode sections = some true := by
          rw [inside, Place.mode, shape]
        exact absurd (locked.only exclusive (by
          rw [show s.place other = .inside operation' locals' from here]
          exact Option.some_ne_none _)) own
      | false =>
        rw [← sections.reads shape goes] at before
        exact before
  · rw [setPlace_phase, phase]
    refine (Function.update_eq_self_iff.mpr ?_).symm
    rw [inside]
    rfl

theorem related_release {abstract : Atomic.State Caller Operation Result Value}
    (related : Related sections apply s abstract)
    (taken : Step sections s (.release caller) t) :
    ∃ after, Atomic.Step apply abstract (.commit caller) after ∧
      Related sections apply t after := by
  obtain ⟨locked, meant, phase⟩ := related
  obtain ⟨operation, locals, result, inside, ends, kind⟩ := step_release.mp taken
  obtain ⟨value, answer⟩ := (meant.inside caller operation locals inside).finish ends
  have invoked : abstract.phase caller = .invoked operation := by
    rw [phase]
    change (s.place caller).phase = _
    rw [inside]
    rfl
  refine ⟨_, .commit abstract caller operation invoked, ?_⟩
  have phases (u : State Caller Operation Result Value Local) (places : u.place = s.place) :
      (Atomic.State.setPhase { abstract with value := (apply operation abstract.value).1 } caller
        (.committed operation (apply operation abstract.value).2)).phase =
        fun other => ((u.setPlace caller (.returning operation result)).place other).phase := by
    rw [setPlace_phase, places, ← answer]
    change Function.update abstract.phase caller _ = _
    rw [phase]
    rfl
  have mode : (s.place caller).mode sections = some (sections.exclusive operation) := by
    rw [inside]
    rfl
  rcases kind with ⟨exclusive, rfl⟩ | ⟨shared, rfl⟩
  · rw [exclusive] at mode
    refine ⟨locked.releases mode rfl,
      ⟨fun _ => value.symm, fun other operation' locals' here => ?_⟩, phases _ rfl⟩
    by_cases own : other = caller
    · rw [own, setPlace_self] at here
      cases here
    · rw [setPlace_of_ne own] at here
      exact absurd (locked.only mode (by
        rw [show s.place other = .inside operation' locals' from here]
        exact Option.some_ne_none _)) own
  · rw [shared] at mode
    have free : s.writer = none := by
      by_contra writes
      have reads := (locked.reader caller).mpr mode
      rw [locked.alone writes] at reads
      cases reads
    -- a reader leaves the object as it is
    have same : (apply operation abstract.value).1 = abstract.value :=
      value.trans (meant.value free)
    refine ⟨locked.leaves mode rfl, ⟨fun _ => value.symm, ?_⟩, phases _ rfl⟩
    change ∀ other operation' locals', _ → Evaluates sections operation' locals' s.value
      (apply operation' (apply operation abstract.value).1).1
      (apply operation' (apply operation abstract.value).1).2
    rw [same]
    exact meant.outside rfl

/-- **The sections simulate the object.** -/
theorem simulates (implements : Implements sections apply) :
    Simulates (@Step Caller Operation Result Value Local _ _ sections) (Atomic.Step apply)
      (Related sections apply) observe := by
  intro s label t abstract related taken
  cases label with
  | call caller operation =>
    obtain ⟨locked, meant, phase⟩ := related
    obtain ⟨idle, rfl⟩ := step_call.mp taken
    have free : abstract.phase caller = .idle := by
      rw [phase]
      change (s.place caller).phase = _
      rw [idle]
      rfl
    have mode : (Place.waiting operation : Place Operation Result Local).mode sections =
        (s.place caller).mode sections := by rw [idle]; rfl
    refine ⟨_, .single (.invoke abstract caller operation free), locked.moves mode s.value,
      ⟨meant.value, meant.outside rfl⟩, ?_⟩
    rw [setPlace_phase]
    change Function.update abstract.phase caller _ = _
    rw [phase]
    rfl
  | acquire caller => exact ⟨abstract, .nil, related_acquire implements related taken⟩
  | advance caller => exact ⟨abstract, .nil, related_advance related taken⟩
  | release caller =>
    obtain ⟨after, commits, still⟩ := related_release related taken
    exact ⟨after, .single commits, still⟩
  | «return» caller result =>
    obtain ⟨locked, meant, phase⟩ := related
    obtain ⟨operation, returning, rfl⟩ := step_return.mp taken
    have committed : abstract.phase caller = .committed operation result := by
      rw [phase]
      change (s.place caller).phase = _
      rw [returning]
      rfl
    have mode : (Place.idle : Place Operation Result Local).mode sections =
        (s.place caller).mode sections := by rw [returning]; rfl
    refine ⟨_, .single (.respond abstract caller operation result committed),
      locked.moves mode s.value, ⟨meant.value, meant.outside rfl⟩, ?_⟩
    rw [setPlace_phase]
    change Function.update abstract.phase caller _ = _
    rw [phase]
    rfl

omit [DecidableEq Caller] [DecidableEq Result] in
theorem related_init (value : Value) : Related sections apply
    (init Caller Operation Result Local value) (Atomic.start Caller Operation Result value) where
  locked := ⟨fun _ => ⟨fun writes => (by cases writes), fun mode => by cases mode⟩,
    fun _ => ⟨fun member => absurd member List.not_mem_nil, fun mode => by cases mode⟩,
    fun _ => rfl, List.nodup_nil⟩
  meant := ⟨fun _ => rfl, fun _ _ _ inside => by cases inside⟩
  phase := rfl

/-- **Sections under a readers–writer lock are atomic**, in every run: the order of their effects
leads to the value, unless a section is writing it. -/
theorem linearizable (implements : Implements sections apply) {value : Value}
    {trace : List (Label Caller Operation Result)}
    (run : Run (Step sections) (init Caller Operation Result Local value) trace s) :
    ∃ final, (s.writer = none → s.value = final) ∧
      Linearizable apply value final observe trace := by
  obtain ⟨finish, related, explained⟩ :=
    Atomic.linearizable_of_simulates (simulates implements) (related_init value) run
  exact ⟨finish.value, related.meant.value, explained⟩

end Simulation

end Transition.Guarded
