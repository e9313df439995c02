/-
**The device cache interns controllers by name.**

The cache and the owners of the controllers that it has returned, as a system: a call of
`AddCachedUwbNearObjectDevice` or of `ExtractCachedNearObjectDevice`, with what it returns, or the
loss of the last reference to a controller. A controller is interned under a name (`Interned`) from
the call of `AddCachedUwbNearObjectDevice` that returned it to the next extraction of the name, for
as long as somebody owns it.

* `cached_of_returned` — between two extractions of a name, a controller that was returned for it
  and still exists is the cached one.
* `interns` — what the two operations return is what the history of the name says.
-/

import NearObject.Device.UwbAgent
import NearObject.Transition.Run

namespace NearObject.Device.Interning

open Transition

variable {Name : Type}

/-! ### Calls and losses -/

/-- The agent, and which controllers somebody owns. -/
structure State (Name : Type) where
  agent : AgentUwb Name
  referenced : ControllerUwb Name → Bool

def init (Name : Type) : State Name where
  agent := .fresh Name
  referenced := fun _ => false

inductive Label (Name : Type)
  /-- `AddCachedUwbNearObjectDevice` returns this controller. -/
  | addCached (deviceName : Name) (controller : ControllerUwb Name)
  /-- `ExtractCachedNearObjectDevice` returns this controller, or null. -/
  | extract (deviceName : Name) (controller : Option (ControllerUwb Name))
  /-- The last owner of a controller lets go of it. -/
  | lose (controller : ControllerUwb Name)
  deriving DecidableEq, Repr

section Steps

variable [DecidableEq Name]

def next (s : State Name) : Label Name → Option (State Name)
  | .addCached deviceName controller =>
    let (agent, returned) := s.agent.addCachedUwbNearObjectDevice s.referenced deviceName
    if controller = returned then
      some { agent, referenced := Function.update s.referenced returned true }
    else none
  | .extract deviceName controller =>
    let (agent, returned) := s.agent.extractCachedNearObjectDevice s.referenced deviceName
    if controller = returned then some { s with agent } else none
  | .lose controller =>
    if s.referenced controller then
      some { s with referenced := Function.update s.referenced controller false }
    else none

/-- The cache and the owners, as a system. -/
abbrev Step : State Name → Label Name → State Name → Prop :=
  Next next

end Steps

/-! ### Histories -/

/-- The label is a call of `AddCachedUwbNearObjectDevice` or of `ExtractCachedNearObjectDevice` for
this name. -/
def Label.Calls (deviceName : Name) : Label Name → Prop
  | .addCached other _ | .extract other _ => other = deviceName
  | .lose _ => False

/-- The name that a label is about. -/
def Label.name : Label Name → Name
  | .addCached deviceName _ | .extract deviceName _ => deviceName
  | .lose controller => controller.deviceName

/-- The controller that a label returns. -/
def Label.returned? : Label Name → Option (ControllerUwb Name)
  | .addCached _ controller => some controller
  | .extract _ controller => controller
  | .lose _ => none

/-- **The controller is interned under the name**: the last call for the name was that of
`AddCachedUwbNearObjectDevice` which returned it, and it has not been lost since. -/
def Interned (trace : List (Label Name)) (deviceName : Name) (controller : ControllerUwb Name) :
    Prop :=
  ∃ early late, trace = early ++ .addCached deviceName controller :: late ∧
    ∀ label ∈ late, ¬ label.Calls deviceName ∧ label ≠ .lose controller

section Runs

variable [DecidableEq Name] {s t : State Name} {trace : List (Label Name)} {deviceName : Name}
  {controller : ControllerUwb Name}

/-! ### What each step does -/

/-- A controller that is cached and exists is returned; otherwise a new one is. -/
theorem addCached_eq (alive : ControllerUwb Name → Bool) (agent : AgentUwb Name)
    (deviceName : Name) :
    (∃ cached, agent.nearObjectDeviceCache deviceName = some cached ∧ alive cached = true ∧
      agent.addCachedUwbNearObjectDevice alive deviceName = (agent, cached)) ∨
    ((∀ cached, agent.nearObjectDeviceCache deviceName = some cached → alive cached = false) ∧
      (agent.addCachedUwbNearObjectDevice alive deviceName).2 = ⟨deviceName, agent.created⟩ ∧
      (agent.addCachedUwbNearObjectDevice alive deviceName).1.created = agent.created + 1) := by
  unfold AgentUwb.addCachedUwbNearObjectDevice
  cases found : agent.nearObjectDeviceCache deviceName with
  | none => exact .inr ⟨fun cached same => (by cases same), rfl, rfl⟩
  | some cached =>
    cases living : alive cached with
    | true => exact .inl ⟨cached, rfl, living, by simp [living]⟩
    | false =>
      refine .inr ⟨fun other same => ?_, by simp [living, AgentUwb.create, AgentUwb.erase],
        by simp [living, AgentUwb.create, AgentUwb.erase]⟩
      rwa [← Option.some.inj same]

theorem step_addCached : Step s (.addCached deviceName controller) t ↔
    controller = (s.agent.addCachedUwbNearObjectDevice s.referenced deviceName).2 ∧
      t = { agent := (s.agent.addCachedUwbNearObjectDevice s.referenced deviceName).1
            referenced := Function.update s.referenced controller true } := by
  simp only [Step, Next, next, Option.ite_none_right_eq_some, Option.some.injEq, eq_comm (b := t)]
  exact and_congr_right fun same => by rw [same]

theorem step_extract {result : Option (ControllerUwb Name)} :
    Step s (.extract deviceName result) t ↔
    result = (s.agent.extractCachedNearObjectDevice s.referenced deviceName).2 ∧
      t = { s with agent := s.agent.erase deviceName } := by
  simp only [Step, Next, next, Option.ite_none_right_eq_some, Option.some.injEq, eq_comm (b := t)]
  rfl

theorem step_lose : Step s (.lose controller) t ↔ s.referenced controller = true ∧
    t = { s with referenced := Function.update s.referenced controller false } := by
  simp only [Step, Next, next, Option.ite_none_right_eq_some, Option.some.injEq, eq_comm (b := t)]

/-! ### The cache and the history -/

omit [DecidableEq Name] in
theorem interned_snoc {label : Label Name} : Interned (trace ++ [label]) deviceName controller ↔
    label = .addCached deviceName controller ∨ (Interned trace deviceName controller ∧
      ¬ label.Calls deviceName ∧ label ≠ .lose controller) := by
  constructor
  · rintro ⟨early, late, same, quiet⟩
    rcases snoc_eq_split.mp same with ⟨-, last, -⟩ | ⟨rest, rfl, earlier⟩
    · exact .inl last.symm
    · exact .inr ⟨⟨early, rest, earlier, fun other member =>
        quiet other (List.mem_append_left _ member)⟩, quiet label (by simp)⟩
  · rintro (rfl | ⟨⟨early, late, rfl, quiet⟩, last⟩)
    · exact ⟨trace, [], rfl, fun _ member => (by cases member)⟩
    · refine ⟨early, late ++ [label], by simp, fun other member => ?_⟩
      rcases List.mem_append.mp member with member | member
      · exact quiet other member
      · rwa [List.mem_singleton.mp member]

/-- A controller is interned exactly where it is cached and exists; and whatever has been returned
was created before. -/
structure Interns (trace : List (Label Name)) (s : State Name) : Prop where
  interned : ∀ deviceName controller, Interned trace deviceName controller ↔
    s.agent.nearObjectDeviceCache deviceName = some controller ∧ s.referenced controller = true
  created : ∀ label ∈ trace, ∀ controller, label.returned? = some controller →
    controller.serial < s.agent.created

omit [DecidableEq Name] in
theorem interns_init : Interns [] (init Name) where
  interned := fun deviceName controller =>
    ⟨fun ⟨_, _, same, _⟩ => by simp at same, fun ⟨found, _⟩ => (by cases found)⟩
  created := fun _ member => absurd member List.not_mem_nil

/-- A cached controller that exists is returned, and nothing else changes. -/
theorem Interns.hit (interns : Interns trace s)
    (cached : s.agent.nearObjectDeviceCache deviceName = some controller)
    (alive : s.referenced controller = true) :
    Interns (trace ++ [.addCached deviceName controller]) s where
  interned := by
    intro name other
    rw [interned_snoc, interns.interned]
    constructor
    · rintro (same | ⟨held, -⟩)
      · obtain ⟨rfl, rfl⟩ := Label.addCached.inj same
        exact ⟨cached, alive⟩
      · exact held
    · rintro ⟨found, living⟩
      by_cases here : deviceName = name
      · obtain rfl := here
        obtain rfl := Option.some.inj (cached.symm.trans found)
        exact .inl rfl
      · exact .inr ⟨⟨found, living⟩, here, by simp⟩
  created := by
    intro label member other returned
    rcases List.mem_append.mp member with member | member
    · exact interns.created label member other returned
    · obtain rfl := List.mem_singleton.mp member
      obtain rfl := Option.some.inj returned
      exact (s.agent.named _ _ cached).2

/-- A new controller takes the place of the entry under its name. -/
theorem Interns.create (interns : Interns trace s) (new : controller.serial = s.agent.created)
    (created : t.agent.created = s.agent.created + 1)
    (cached : t.agent.nearObjectDeviceCache deviceName = some controller)
    (others : ∀ name, name ≠ deviceName →
      t.agent.nearObjectDeviceCache name = s.agent.nearObjectDeviceCache name)
    (referenced : t.referenced = Function.update s.referenced controller true) :
    Interns (trace ++ [.addCached deviceName controller]) t where
  interned := by
    intro name other
    rw [interned_snoc, interns.interned, referenced]
    by_cases here : name = deviceName
    · obtain rfl := here
      rw [cached]
      simp only [Label.addCached.injEq, true_and, Label.Calls, not_true_eq_false, false_and,
        and_false, or_false, Option.some.injEq]
      exact ⟨fun same => by simp [same], fun ⟨same, _⟩ => same⟩
    · rw [others name here]
      have different (found : s.agent.nearObjectDeviceCache name = some other) :
          other ≠ controller := by
        intro same
        have older := (s.agent.named _ _ found).2
        rw [same, new] at older
        exact Nat.lt_irrefl _ older
      simp only [Label.addCached.injEq, Ne.symm here, false_and, false_or, Label.Calls,
        not_false_eq_true, ne_eq, reduceCtorEq, and_true]
      refine and_congr_right fun found => ?_
      rw [Function.update_of_ne (different found)]
  created := by
    intro label member other returned
    rw [created]
    rcases List.mem_append.mp member with member | member
    · exact Nat.lt_succ_of_lt (interns.created label member other returned)
    · obtain rfl := List.mem_singleton.mp member
      obtain rfl := Option.some.inj returned
      rw [new]
      exact Nat.lt_succ_self _

theorem Interns.extract {result : Option (ControllerUwb Name)} (interns : Interns trace s)
    (returned : result = (s.agent.extractCachedNearObjectDevice s.referenced deviceName).2) :
    Interns (trace ++ [.extract deviceName result])
      { s with agent := s.agent.erase deviceName } where
  interned := by
    intro name other
    rw [interned_snoc, interns.interned]
    by_cases here : name = deviceName
    · obtain rfl := here
      simp [Label.Calls, AgentUwb.erase]
    · simp [Label.Calls, Ne.symm here, erase_of_ne _ here]
  created := by
    intro label member other same
    rcases List.mem_append.mp member with member | member
    · exact interns.created label member other same
    · obtain rfl := List.mem_singleton.mp member
      have found : result = some other := same
      rw [returned, AgentUwb.extractCachedNearObjectDevice, Option.filter_eq_some_iff] at found
      exact (s.agent.named _ _ found.1).2

theorem Interns.lose (interns : Interns trace s) :
    Interns (trace ++ [.lose controller])
      { s with referenced := Function.update s.referenced controller false } where
  interned := by
    intro name other
    rw [interned_snoc, interns.interned]
    by_cases here : other = controller
    · simp [here]
    · simp [Label.Calls, Function.update_of_ne here, Ne.symm here]
  created := by
    intro label member other same
    rcases List.mem_append.mp member with member | member
    · exact interns.created label member other same
    · obtain rfl := List.mem_singleton.mp member
      cases same

theorem interns_step {label : Label Name} (taken : Step s label t) (interns : Interns trace s) :
    Interns (trace ++ [label]) t := by
  cases label with
  | addCached deviceName controller =>
    obtain ⟨rfl, rfl⟩ := step_addCached.mp taken
    rcases addCached_eq s.referenced s.agent deviceName with
      ⟨cached, found, alive, returns⟩ | ⟨-, new, created⟩
    · have same : Function.update s.referenced cached true = s.referenced :=
        Function.update_eq_self_iff.mpr alive.symm
      simp only [returns, same]
      exact interns.hit found alive
    · exact interns.create (by rw [new]) created (addCached_self ..)
        (fun name different => addCached_of_ne _ _ different) rfl
  | extract deviceName controller =>
    obtain ⟨returned, rfl⟩ := step_extract.mp taken
    exact interns.extract returned
  | lose controller =>
    obtain ⟨-, rfl⟩ := step_lose.mp taken
    exact interns.lose

theorem interns_run (run : Run Step (init Name) trace s) : Interns trace s :=
  run.history Interns interns_init fun _ _ _ _ _ interns taken => interns_step taken interns

/-! ### What the operations return -/

/-- `AddCachedUwbNearObjectDevice` returns the interned controller. -/
theorem Interns.addCached_interned (interns : Interns trace s)
    (interned : Interned trace deviceName controller) :
    (s.agent.addCachedUwbNearObjectDevice s.referenced deviceName).2 = controller := by
  obtain ⟨found, alive⟩ := (interns.interned _ _).mp interned
  rcases addCached_eq s.referenced s.agent deviceName with
    ⟨cached, same, -, returns⟩ | ⟨gone, -⟩
  · rw [returns]
    exact Option.some.inj (same.symm.trans found)
  · rw [gone controller found] at alive
    cases alive

/-- Where no controller is interned, it returns one that was never returned before. -/
theorem Interns.addCached_new (interns : Interns trace s)
    (none : ¬ ∃ controller, Interned trace deviceName controller) (label : Label Name)
    (member : label ∈ trace) : label.returned? ≠
      some (s.agent.addCachedUwbNearObjectDevice s.referenced deviceName).2 := by
  rcases addCached_eq s.referenced s.agent deviceName with
    ⟨cached, found, alive, -⟩ | ⟨-, new, -⟩
  · exact absurd ⟨cached, (interns.interned _ _).mpr ⟨found, alive⟩⟩ none
  · intro returned
    have older := interns.created label member _ returned
    rw [new] at older
    exact Nat.lt_irrefl _ older

/-- `ExtractCachedNearObjectDevice` returns the interned controller, or null. -/
theorem Interns.extract_iff (interns : Interns trace s) :
    (s.agent.extractCachedNearObjectDevice s.referenced deviceName).2 = some controller ↔
      Interned trace deviceName controller := by
  rw [interns.interned, AgentUwb.extractCachedNearObjectDevice, Option.filter_eq_some_iff]

/-- What the operations on other names do is no matter. -/
theorem interned_filter (run : Run Step (init Name) trace s) :
    Interned trace deviceName controller ↔
      Interned (trace.filter fun label => label.name = deviceName) deviceName controller := by
  refine run.history (fun trace _ => Interned trace deviceName controller ↔
    Interned (trace.filter fun label => label.name = deviceName) deviceName controller) .rfl ?_
  intro trace s label t before ih taken
  rw [List.filter_append, interned_snoc]
  by_cases own : label.name = deviceName
  · have last : List.filter (fun label : Label Name => label.name = deviceName) [label] = [label] :=
      List.filter_cons_of_pos (decide_eq_true own)
    rw [last, interned_snoc, ih]
  · have last : List.filter (fun label : Label Name => label.name = deviceName) [label] = [] :=
      List.filter_cons_of_neg (by simpa using own)
    rw [last, List.append_nil, ← ih]
    constructor
    · rintro (rfl | ⟨held, -⟩)
      · exact absurd rfl own
      · exact held
    · intro held
      have named : controller.deviceName = deviceName :=
        (s.agent.named _ _ (((interns_run before).interned _ _).mp held).1).1
      refine .inr ⟨held, ?_, fun same => own (by rw [same]; exact named)⟩
      cases label <;> first | exact own | exact id

/-! ### Between two extractions -/

/-- A controller that still exists is still cached, until the name is extracted. -/
theorem cached_step {label : Label Name} (taken : Step s label t)
    (kept : ∀ result, label ≠ .extract deviceName result)
    (held : controller.serial < s.agent.created ∧ (s.referenced controller = true →
      s.agent.nearObjectDeviceCache deviceName = some controller)) :
    controller.serial < t.agent.created ∧ (t.referenced controller = true →
      t.agent.nearObjectDeviceCache deviceName = some controller) := by
  obtain ⟨older, cached⟩ := held
  cases label with
  | addCached name other =>
    obtain ⟨rfl, rfl⟩ := step_addCached.mp taken
    rcases addCached_eq s.referenced s.agent name with
      ⟨found, here, alive, returns⟩ | ⟨gone, new, created⟩
    · have same : Function.update s.referenced found true = s.referenced :=
        Function.update_eq_self_iff.mpr alive.symm
      simp only [returns, same]
      exact ⟨older, cached⟩
    · refine ⟨Nat.lt_of_lt_of_le older (by simp only [created, Nat.le_succ]), fun alive => ?_⟩
      have different : controller ≠
          (s.agent.addCachedUwbNearObjectDevice s.referenced name).2 := by
        intro same
        rw [same, new] at older
        exact Nat.lt_irrefl _ older
      have before : s.referenced controller = true := by
        rwa [← Function.update_of_ne different true s.referenced]
      have apart : deviceName ≠ name := by
        intro same
        rw [gone controller (same ▸ cached before)] at before
        cases before
      exact (addCached_of_ne _ _ apart).trans (cached before)
  | extract name result =>
    obtain ⟨-, rfl⟩ := step_extract.mp taken
    have apart : deviceName ≠ name := fun same => kept result (same ▸ rfl)
    exact ⟨older, fun alive => (erase_of_ne _ apart).trans (cached alive)⟩
  | lose other =>
    obtain ⟨-, rfl⟩ := step_lose.mp taken
    refine ⟨older, fun alive => cached ?_⟩
    by_cases lost : controller = other
    · simp [lost] at alive
    · simpa [Function.update_of_ne lost] using alive

/-- What was returned since the last extraction of the name, and still exists, is cached. -/
theorem cached_of_returned (early late : List (Label Name))
    (run : Run Step (init Name) (early ++ late) s)
    (kept : ∀ result, .extract deviceName result ∉ late)
    (returned : .addCached deviceName controller ∈ late) (alive : s.referenced controller = true) :
    s.agent.nearObjectDeviceCache deviceName = some controller := by
  obtain ⟨before, after, rfl⟩ := List.append_of_mem returned
  have regrouped : early ++ (before ++ .addCached deviceName controller :: after) =
      (early ++ before ++ [.addCached deviceName controller]) ++ after := by simp
  rw [regrouped] at run
  obtain ⟨middle, first, rest⟩ := Run.split _ after run
  have interns := interns_run first
  obtain ⟨cached, -⟩ := (interns.interned deviceName controller).mp
    ⟨early ++ before, [], rfl, fun _ member => (by cases member)⟩
  have created := interns.created _ (List.mem_append_right _ (List.mem_singleton_self _)) _ rfl
  have held := rest.history (fun trace s => (∀ result, .extract deviceName result ∉ trace) →
      controller.serial < s.agent.created ∧ (s.referenced controller = true →
        s.agent.nearObjectDeviceCache deviceName = some controller))
    (fun _ => ⟨created, fun _ => cached⟩) fun trace s label t _ ih taken quiet =>
      cached_step taken (fun result same => quiet result (by simp [same]))
        (ih fun result member => quiet result (List.mem_append_left _ member))
  refine (held fun result member => kept result ?_).2 alive
  exact List.mem_append_right _ (List.mem_cons_of_mem _ member)

/-- **The cache interns controllers by name.** In every run, `AddCachedUwbNearObjectDevice` returns
the controller that is interned under the name, and otherwise one that was never returned before;
`ExtractCachedNearObjectDevice` returns that controller, and otherwise null, and forgets it; what is
interned under a name is decided by the history of that name alone; and of the controllers returned
for a name since its last extraction, at most one still exists. -/
theorem interns (run : Run Step (init Name) trace s) (deviceName : Name) :
    (∀ controller, Interned trace deviceName controller →
      (s.agent.addCachedUwbNearObjectDevice s.referenced deviceName).2 = controller) ∧
    ((¬ ∃ controller, Interned trace deviceName controller) → ∀ label ∈ trace, label.returned? ≠
      some (s.agent.addCachedUwbNearObjectDevice s.referenced deviceName).2) ∧
    (∀ controller,
      (s.agent.extractCachedNearObjectDevice s.referenced deviceName).2 = some controller ↔
        Interned trace deviceName controller) ∧
    (s.agent.extractCachedNearObjectDevice s.referenced deviceName).1.nearObjectDeviceCache
      deviceName = none ∧
    (∀ controller, Interned trace deviceName controller ↔
      Interned (trace.filter fun label => label.name = deviceName) deviceName controller) ∧
    ∀ early late, trace = early ++ late → (∀ result, .extract deviceName result ∉ late) →
      ∀ first second, .addCached deviceName first ∈ late → .addCached deviceName second ∈ late →
        s.referenced first = true → s.referenced second = true → first = second := by
  have held := interns_run run
  refine ⟨fun controller => held.addCached_interned, held.addCached_new,
    fun controller => held.extract_iff, Function.update_self .., fun controller =>
    interned_filter run, ?_⟩
  rintro early late rfl kept first second returned returned' alive alive'
  have one := cached_of_returned early late run kept returned alive
  have two := cached_of_returned early late run kept returned' alive'
  exact Option.some.inj (one.symm.trans two)

end Runs

/-- One name is cached, found again, lost and cached anew, while another one is extracted. -/
def internedTrace : List (Label Nat) :=
  [.addCached 5 ⟨5, 0⟩, .addCached 6 ⟨6, 1⟩, .addCached 5 ⟨5, 0⟩, .extract 6 (some ⟨6, 1⟩),
    .lose ⟨5, 0⟩, .addCached 5 ⟨5, 2⟩, .extract 6 none]

theorem interns_two_names : ∃ s, Run Step (init Nat) internedTrace s ∧
    (s.agent.addCachedUwbNearObjectDevice s.referenced 5).2 = ⟨5, 2⟩ ∧
    (∀ controller, (s.agent.extractCachedNearObjectDevice s.referenced 5).2 = some controller ↔
      Interned internedTrace 5 controller) := by
  have run : Run Step (init Nat) internedTrace _ := run_of_execute rfl
  have held := interns run 5
  refine ⟨_, run, held.1 ⟨5, 2⟩ ?_, held.2.2.1⟩
  exact ⟨internedTrace.take 5, [.extract 6 none], rfl, by simp [Label.Calls]⟩

end NearObject.Device.Interning
