/-
**The manager, its agents, and the callback that may own the manager.**

The manager is owned by shared pointers: those of its clients, and the `strongThis` of every
discovery event callback that has found it alive. It owns its agents by `unique_ptr`, so that the
last shared pointer to go takes the agents with it, from whatever thread it goes. The stored
callback of an agent runs in `DevicePresenceChanged` of that agent, under
`m_onDevicePresenceChangedGate`, and the destructor of an agent does not wait for it.

An agent dies in its own notification exactly when the last client pointer goes while such a call
runs: at once where the callback has not resolved its weak pointer or has let go of the strong one,
and otherwise when `strongThis` goes out of scope.

* `safe_of_run` — no agent is destroyed in a call of its `DevicePresenceChanged` where that never
  happens, and wherever it happens the run can go on until one is.
-/

import NearObject.Transition.Run

namespace NearObject.Device.Ownership

open Transition

/-! ### States and steps -/

/-- How far a call of `DevicePresenceChanged` is. It holds the gate of its agent throughout. -/
inductive Stage
  /-- In the callback of the manager, before `weakThis.lock()`. -/
  | running
  /-- In the callback, with `strongThis`. -/
  | strong
  /-- Out of the callback, or the agent has none of the manager. -/
  | leaving
  deriving DecidableEq, Repr

structure Call (Agent : Type) where
  agent : Agent
  stage : Stage
  deriving DecidableEq, Repr

/-- `owners` are the clients that hold a shared pointer to the manager. `adding` has the calls of
`AddDiscoveryAgent` that have registered the callback, each with the client whose pointer it was
made through; `registered` are the agents that have it. -/
structure State (Owner Agent : Type) where
  owners : List Owner
  adding : List (Owner × Agent)
  registered : List Agent
  discoveryAgents : List Agent
  calls : List (Call Agent)
  destroyed : List Agent
  deriving Repr

/-- `Create` has returned to the first client. -/
def init (Agent : Type) {Owner : Type} (owner : Owner) : State Owner Agent where
  owners := [owner]
  adding := []
  registered := []
  discoveryAgents := []
  calls := []
  destroyed := []

inductive Label (Owner Agent : Type)
  /-- A client copies its pointer for another one. -/
  | copy (owner other : Owner)
  /-- A client lets go of its pointer. -/
  | drop (owner : Owner)
  /-- `AddDiscoveryAgent`, up to the end of `RegisterDiscoveryEventCallback`. -/
  | register (owner : Owner) (agent : Agent)
  /-- The agent is pushed to `m_discoveryAgents`. -/
  | push (owner : Owner) (agent : Agent)
  /-- `AddDiscoveryAgent` returns. -/
  | added (owner : Owner) (agent : Agent)
  /-- `DevicePresenceChanged` takes the gate of its agent and looks at the callback. -/
  | begin (agent : Agent)
  /-- `weakThis.lock()`, in the call at this position. -/
  | lock (position : Nat)
  /-- `strongThis` goes out of scope. -/
  | release (position : Nat)
  /-- `DevicePresenceChanged` returns. -/
  | leave (position : Nat)
  deriving DecidableEq, Repr

section Steps

variable {Owner Agent : Type}

/-- `use_count()` of the manager. -/
def State.useCount (s : State Owner Agent) : Nat :=
  s.owners.length + s.calls.countP fun call => call.stage = .strong

/-- What the end of a shared pointer does: the last one destroys the manager, with its agents. -/
def State.released (s : State Owner Agent) : State Owner Agent :=
  if s.useCount = 0 then
    { s with discoveryAgents := [], destroyed := s.destroyed ++ s.discoveryAgents }
  else s

/-- The call at this position is in this stage from now on. -/
def State.moves (s : State Owner Agent) (position : Nat) (agent : Agent) (stage : Stage) :
    State Owner Agent :=
  { s with calls := s.calls.set position ⟨agent, stage⟩ }

variable [DecidableEq Owner] [DecidableEq Agent]

/-- One step of a client, of a call of `AddDiscoveryAgent` or of one of `DevicePresenceChanged`. -/
def next (s : State Owner Agent) : Label Owner Agent → Option (State Owner Agent)
  | .copy owner other =>
    if owner ∈ s.owners ∧ other ∉ s.owners then some { s with owners := s.owners ++ [other] }
    else none
  | .drop owner =>
    if owner ∈ s.owners ∧ ∀ entry ∈ s.adding, entry.1 ≠ owner then
      some { s with owners := s.owners.erase owner }.released
    else none
  | .register owner agent =>
    -- `RegisterDiscoveryEventCallback` takes the gate exclusively
    if owner ∈ s.owners ∧ agent ∉ s.registered ∧ ∀ call ∈ s.calls, call.agent ≠ agent then
      some { s with
        adding := s.adding ++ [(owner, agent)]
        registered := s.registered ++ [agent] }
    else none
  | .push owner agent =>
    if (owner, agent) ∈ s.adding ∧ agent ∉ s.discoveryAgents then
      some { s with discoveryAgents := s.discoveryAgents ++ [agent] }
    else none
  | .added owner agent =>
    if (owner, agent) ∈ s.adding ∧ agent ∈ s.discoveryAgents then
      some { s with adding := s.adding.erase (owner, agent) }
    else none
  | .begin agent =>
    if agent ∈ s.destroyed then none
    else
      some { s with
        calls := s.calls ++ [⟨agent, if agent ∈ s.registered then .running else .leaving⟩] }
  | .lock position => match s.calls[position]? with
    | some ⟨agent, .running⟩ =>
      some (s.moves position agent (if s.useCount = 0 then .leaving else .strong))
    | _ => none
  | .release position => match s.calls[position]? with
    | some ⟨agent, .strong⟩ => some (s.moves position agent .leaving).released
    | _ => none
  | .leave position => match s.calls[position]? with
    | some ⟨_, .leaving⟩ => some { s with calls := s.calls.eraseIdx position }
    | _ => none

/-- The clients and the calls, as a system. -/
abbrev Step : State Owner Agent → Label Owner Agent → State Owner Agent → Prop :=
  Next next

/-- No agent is destroyed while a call of its `DevicePresenceChanged` has not returned. -/
def Safe (s : State Owner Agent) : Prop :=
  ∀ call ∈ s.calls, call.agent ∉ s.destroyed

/-- The step is not the last client letting go of the manager in a notification of one of its
agents. -/
def KeepsOwner (s : State Owner Agent) : Label Owner Agent → Prop
  | .drop owner =>
    s.owners.erase owner ≠ [] ∨ ∀ call ∈ s.calls, call.agent ∉ s.discoveryAgents
  | _ => True

instance (s : State Owner Agent) : Decidable (Safe s) :=
  inferInstanceAs (Decidable (∀ _ ∈ _, _))

instance (s : State Owner Agent) : (label : Label Owner Agent) → Decidable (KeepsOwner s label)
  | .drop _ => inferInstanceAs (Decidable (_ ∨ ∀ _ ∈ _, _))
  | .copy .. | .register .. | .push .. | .added .. | .begin _ | .lock _ | .release _ | .leave _ =>
    isTrue trivial

end Steps

section Runs

variable {Owner Agent : Type} {s t : State Owner Agent}

/-! ### The number of owners -/

theorem mem_moves {position : Nat} {agent : Agent} {stage : Stage} {call : Call Agent}
    (member : call ∈ (s.moves position agent stage).calls) :
    call ∈ s.calls ∨ call = ⟨agent, stage⟩ :=
  List.mem_or_eq_of_mem_set member

theorem useCount_eq_zero :
    s.useCount = 0 ↔ s.owners = [] ∧ ∀ call ∈ s.calls, call.stage ≠ .strong := by
  simp [State.useCount]

theorem useCount_of_owner {owner : Owner} (holds : owner ∈ s.owners) : s.useCount ≠ 0 :=
  fun zero => by simp [(useCount_eq_zero.mp zero).1] at holds

theorem useCount_of_strong {call : Call Agent} (member : call ∈ s.calls)
    (strong : call.stage = .strong) : s.useCount ≠ 0 :=
  fun zero => (useCount_eq_zero.mp zero).2 call member strong

/-- A manager without owners gets none from calls that have not resolved their weak pointer. -/
theorem useCount_zero_of_calls {calls : List (Call Agent)} (zero : s.useCount = 0)
    (weak : ∀ call ∈ calls, call ∈ s.calls ∨ call.stage ≠ .strong) :
    ({ s with calls } : State Owner Agent).useCount = 0 := by
  obtain ⟨unowned, none⟩ := useCount_eq_zero.mp zero
  refine useCount_eq_zero.mpr ⟨unowned, fun call member => ?_⟩
  rcases weak call member with known | weak
  · exact none call known
  · exact weak

/-- `weakThis.lock()` does not bring the manager back. -/
theorem useCount_lock_zero {position : Nat} {agent : Agent} (zero : s.useCount = 0) :
    (s.moves position agent (if s.useCount = 0 then .leaving else .strong)).useCount = 0 :=
  useCount_zero_of_calls zero fun call member =>
    (mem_moves member).imp_right fun moved => by simp [moved, zero]

theorem useCount_leave_zero {position : Nat} (zero : s.useCount = 0) :
    ({ s with calls := s.calls.eraseIdx position } : State Owner Agent).useCount = 0 :=
  useCount_zero_of_calls zero fun _ member => .inl (List.mem_of_mem_eraseIdx member)

/-- Letting go of `strongThis`. -/
theorem useCount_moves_leaving {position : Nat} {agent : Agent}
    (strong : s.calls[position]? = some ⟨agent, .strong⟩) :
    (s.moves position agent .leaving).useCount + 1 = s.useCount := by
  obtain ⟨bound, here⟩ := List.getElem?_eq_some_iff.mp strong
  have held : 0 < s.calls.countP fun call => call.stage = .strong :=
    List.countP_pos_iff.mpr ⟨_, List.getElem_mem bound, by simp [here]⟩
  have counted := List.countP_set (p := fun call : Call Agent => call.stage = .strong)
    (a := ⟨agent, .leaving⟩) bound
  simp only [here, decide_true, if_true] at counted
  show s.owners.length + _ + 1 = s.owners.length + _
  simp only [State.moves, counted]
  simp
  omega

section Released

@[simp] theorem released_owners : s.released.owners = s.owners := by
  unfold State.released
  split <;> rfl

@[simp] theorem released_calls : s.released.calls = s.calls := by
  unfold State.released
  split <;> rfl

@[simp] theorem released_adding : s.released.adding = s.adding := by
  unfold State.released
  split <;> rfl

@[simp] theorem released_registered : s.released.registered = s.registered := by
  unfold State.released
  split <;> rfl

@[simp] theorem useCount_released : s.released.useCount = s.useCount := by
  rw [State.useCount, State.useCount, released_owners, released_calls]

theorem released_of_zero (last : s.useCount = 0) :
    s.released =
      { s with discoveryAgents := [], destroyed := s.destroyed ++ s.discoveryAgents } :=
  if_pos last

theorem released_of_ne (others : s.useCount ≠ 0) : s.released = s :=
  if_neg others

/-- Every agent of the manager is still there, or destroyed with it. -/
theorem released_places {agent : Agent}
    (placed : agent ∈ s.discoveryAgents ∨ agent ∈ s.destroyed) :
    agent ∈ s.released.discoveryAgents ∨ agent ∈ s.released.destroyed := by
  by_cases last : s.useCount = 0
  · rw [released_of_zero last]
    exact .inr (List.mem_append.mpr placed.symm)
  · rwa [released_of_ne last]

end Released

/-! ### Where the agents are -/

/-- A callback that runs was registered; an agent with it is with the manager, destroyed, or being
added through a pointer that a client holds; and no agent is destroyed before the manager. -/
structure Sound (s : State Owner Agent) : Prop where
  registered : ∀ call ∈ s.calls, call.stage ≠ .leaving → call.agent ∈ s.registered
  placed : ∀ agent ∈ s.registered,
    (agent ∈ s.discoveryAgents ∨ agent ∈ s.destroyed) ∨ ∃ owner, (owner, agent) ∈ s.adding
  client : ∀ entry ∈ s.adding, entry.1 ∈ s.owners
  alive : s.useCount ≠ 0 → s.destroyed = []

theorem sound_init (owner : Owner) : Sound (init Agent owner) where
  registered := fun _ member => absurd member List.not_mem_nil
  placed := fun _ member => absurd member List.not_mem_nil
  client := fun _ member => absurd member List.not_mem_nil
  alive := fun _ => rfl

theorem Sound.released (sound : Sound s) : Sound s.released where
  registered := by simpa using sound.registered
  placed := by
    intro agent member
    rw [released_registered] at member
    rw [released_adding]
    exact (sound.placed agent member).imp_left released_places
  client := by simpa using sound.client
  alive := by
    intro others
    rw [useCount_released] at others
    rw [released_of_ne others]
    exact sound.alive others

/-- A call that is in the callback of the manager, while no client is left, is on an agent that the
manager owns. -/
theorem Sound.owned {call : Call Agent} (sound : Sound s) (member : call ∈ s.calls)
    (strong : call.stage = .strong) (unowned : s.owners = []) :
    call.agent ∈ s.discoveryAgents := by
  have known := sound.registered call member (by simp [strong])
  rcases sound.placed call.agent known with (owned | gone) | ⟨owner, adding⟩
  · exact owned
  · rw [sound.alive (useCount_of_strong member strong)] at gone
    cases gone
  · have holds := sound.client _ adding
    rw [unowned] at holds
    cases holds

/-- The calls change, and the manager gets no owner by it. -/
theorem Sound.withCalls {calls : List (Call Agent)} (sound : Sound s)
    (known : ∀ call ∈ calls, call ∈ s.calls ∨ (call.stage ≠ .leaving → call.agent ∈ s.registered))
    (gone : s.useCount = 0 → ({ s with calls } : State Owner Agent).useCount = 0) :
    Sound { s with calls } where
  registered := by
    intro call member inside
    rcases known call member with before | known
    · exact sound.registered call before inside
    · exact known inside
  placed := sound.placed
  client := sound.client
  alive := fun others => sound.alive fun zero => others (gone zero)

variable [DecidableEq Owner] [DecidableEq Agent]

/-! ### The steps of a call -/

omit [DecidableEq Owner] in
theorem mem_begin {agent : Agent} {call : Call Agent} (member : call ∈ s.calls ++
      [⟨agent, if agent ∈ s.registered then .running else .leaving⟩]) :
    call ∈ s.calls ∨ call = ⟨agent, if agent ∈ s.registered then .running else .leaving⟩ := by
  rwa [List.mem_append, List.mem_singleton] at member

omit [DecidableEq Owner] in
theorem useCount_begin_zero {agent : Agent} (zero : s.useCount = 0) :
    ({ s with calls := s.calls ++
      [⟨agent, if agent ∈ s.registered then .running else .leaving⟩] } :
      State Owner Agent).useCount = 0 :=
  useCount_zero_of_calls zero fun call member => (mem_begin member).imp_right fun begun => by
    rw [begun]
    split <;> simp

theorem step_begin {agent : Agent} : Step s (.begin agent) t ↔
    agent ∉ s.destroyed ∧ t = { s with
      calls := s.calls ++ [⟨agent, if agent ∈ s.registered then .running else .leaving⟩] } := by
  simp only [Step, Next, next, Option.ite_none_left_eq_some, Option.some.injEq, eq_comm (b := t)]

theorem step_lock {position : Nat} : Step s (.lock position) t ↔ ∃ agent,
    s.calls[position]? = some ⟨agent, .running⟩ ∧
      t = s.moves position agent (if s.useCount = 0 then .leaving else .strong) := by
  simp only [Step, Next, next]
  split
  · simp [*, eq_comm (b := t)]
  · rename_i other
    exact ⟨fun taken => (by cases taken), fun ⟨agent, here, _⟩ => absurd here (other agent)⟩

theorem step_release {position : Nat} : Step s (.release position) t ↔ ∃ agent,
    s.calls[position]? = some ⟨agent, .strong⟩ ∧
      t = (s.moves position agent .leaving).released := by
  simp only [Step, Next, next]
  split
  · simp [*, eq_comm (b := t)]
  · rename_i other
    exact ⟨fun taken => (by cases taken), fun ⟨agent, here, _⟩ => absurd here (other agent)⟩

theorem step_leave {position : Nat} : Step s (.leave position) t ↔ ∃ agent,
    s.calls[position]? = some ⟨agent, .leaving⟩ ∧
      t = { s with calls := s.calls.eraseIdx position } := by
  simp only [Step, Next, next]
  split
  · simp [*, eq_comm (b := t)]
  · rename_i other
    exact ⟨fun taken => (by cases taken), fun ⟨agent, here, _⟩ => absurd here (other agent)⟩

theorem step_drop {owner : Owner} : Step s (.drop owner) t ↔
    (owner ∈ s.owners ∧ ∀ entry ∈ s.adding, entry.1 ≠ owner) ∧
      t = { s with owners := s.owners.erase owner }.released := by
  simp only [Step, Next, next, Option.ite_none_right_eq_some, Option.some.injEq, eq_comm (b := t)]

/-! ### What a step keeps -/

omit [DecidableEq Agent] in
/-- A client lets go of its pointer, while the manager is still there. -/
theorem Sound.drop {owner : Owner} (sound : Sound s) (holds : owner ∈ s.owners)
    (unused : ∀ entry ∈ s.adding, entry.1 ≠ owner) :
    Sound { s with owners := s.owners.erase owner } where
  registered := sound.registered
  placed := sound.placed
  client := fun entry member =>
    (List.mem_erase_of_ne (unused entry member)).mpr (sound.client entry member)
  alive := fun _ => sound.alive (useCount_of_owner holds)

theorem sound_step {label : Label Owner Agent} (taken : Step s label t) (sound : Sound s) :
    Sound t := by
  have ⟨registered, placed, client, alive⟩ := sound
  cases label with
  | copy owner other =>
    obtain ⟨⟨holds, -⟩, rfl⟩ := Option.ite_some_none_eq_some.mp taken
    exact ⟨registered, placed, fun entry member => List.mem_append_left _ (client entry member),
      fun _ => alive (useCount_of_owner holds)⟩
  | drop owner =>
    obtain ⟨⟨holds, unused⟩, rfl⟩ := step_drop.mp taken
    exact (sound.drop holds unused).released
  | register owner agent =>
    obtain ⟨⟨holds, -, -⟩, rfl⟩ := Option.ite_some_none_eq_some.mp taken
    refine ⟨fun call member inside => List.mem_append_left _ (registered call member inside),
      fun other member => ?_, fun entry member => ?_, alive⟩
    · rcases List.mem_append.mp member with member | member
      · exact (placed other member).imp_right fun ⟨client, adding⟩ =>
          ⟨client, List.mem_append_left _ adding⟩
      · obtain rfl := List.mem_singleton.mp member
        exact .inr ⟨owner, List.mem_append_right _ (List.mem_singleton_self _)⟩
    · rcases List.mem_append.mp member with member | member
      · exact client entry member
      · obtain rfl := List.mem_singleton.mp member
        exact holds
  | push owner agent =>
    obtain ⟨-, rfl⟩ := Option.ite_some_none_eq_some.mp taken
    exact ⟨registered, fun other member => (placed other member).imp_left fun place =>
      place.imp_left (List.mem_append_left _), client, alive⟩
  | added owner agent =>
    obtain ⟨⟨-, pushed⟩, rfl⟩ := Option.ite_some_none_eq_some.mp taken
    refine ⟨registered, fun other member => ?_,
      fun entry member => client entry (List.mem_of_mem_erase member), alive⟩
    by_cases this : other = agent
    · exact .inl (.inl (this ▸ pushed))
    · refine (placed other member).imp_right fun ⟨client, adding⟩ => ⟨client, ?_⟩
      exact (List.mem_erase_of_ne fun same => this (Prod.mk.inj same).2).mpr adding
  | begin agent =>
    obtain ⟨-, rfl⟩ := step_begin.mp taken
    refine sound.withCalls (fun call member => ?_) useCount_begin_zero
    refine (mem_begin member).imp_right fun begun inside => ?_
    by_cases known : agent ∈ s.registered
    · rwa [begun]
    · rw [begun, if_neg known] at inside
      exact absurd rfl inside
  | lock position =>
    obtain ⟨agent, running, rfl⟩ := step_lock.mp taken
    refine sound.withCalls (fun call member => ?_) useCount_lock_zero
    refine (mem_moves member).imp_right fun moved _ => ?_
    rw [moved]
    exact registered ⟨agent, .running⟩ (List.mem_of_getElem? running) (by simp)
  | release position =>
    obtain ⟨agent, strong, rfl⟩ := step_release.mp taken
    have owned := useCount_of_strong (List.mem_of_getElem? strong) rfl
    refine (sound.withCalls (fun call member => ?_)
      fun zero => absurd zero owned).released
    refine (mem_moves member).imp_right fun moved inside => ?_
    rw [moved] at inside
    exact absurd rfl inside
  | leave position =>
    obtain ⟨agent, -, rfl⟩ := step_leave.mp taken
    exact sound.withCalls (fun _ member => .inl (List.mem_of_mem_eraseIdx member))
      useCount_leave_zero

/-! ### Runs in which a client keeps the manager -/

/-- No agent has been destroyed in a call, and without a client there is no manager. -/
structure Kept (s : State Owner Agent) : Prop where
  safe : Safe s
  dead : s.owners = [] → s.useCount = 0

omit [DecidableEq Owner] [DecidableEq Agent] in
/-- The calls change, and the manager gets no owner by it. -/
theorem Kept.withCalls {calls : List (Call Agent)} (kept : Kept s)
    (live : ∀ call ∈ calls, call ∈ s.calls ∨ call.agent ∉ s.destroyed)
    (gone : s.useCount = 0 → ({ s with calls } : State Owner Agent).useCount = 0) :
    Kept { s with calls } where
  safe := fun call member => (live call member).elim (kept.safe call) id
  dead := fun unowned => gone (kept.dead unowned)

theorem kept_drop {owner : Owner} (sound : Sound s) (kept : Kept s)
    (keeps : KeepsOwner s (.drop owner)) (taken : Step s (.drop owner) t) : Kept t := by
  obtain ⟨⟨holds, unused⟩, rfl⟩ := step_drop.mp taken
  by_cases last : s.owners.erase owner = []
  · have outside := keeps.resolve_left fun others => others last
    have unowned : ({ s with owners := s.owners.erase owner } : State Owner Agent).useCount = 0 :=
      useCount_eq_zero.mpr ⟨last, fun call member strong =>
        outside call member ((sound.drop holds unused).owned member strong last)⟩
    refine ⟨?_, fun _ => useCount_released.trans unowned⟩
    rw [released_of_zero unowned]
    intro call member gone
    rcases List.mem_append.mp gone with gone | gone
    · exact kept.safe call member gone
    · exact outside call member gone
  · have owned : ({ s with owners := s.owners.erase owner } : State Owner Agent).useCount ≠ 0 :=
      fun zero => last (useCount_eq_zero.mp zero).1
    rw [released_of_ne owned]
    exact ⟨kept.safe, fun none => absurd none last⟩

theorem kept_step {label : Label Owner Agent} (sound : Sound s) (kept : Kept s)
    (keeps : KeepsOwner s label) (taken : Step s label t) : Kept t := by
  have ⟨safe, dead⟩ := kept
  cases label with
  | drop owner => exact kept_drop sound kept keeps taken
  | copy owner other =>
    obtain ⟨-, rfl⟩ := Option.ite_some_none_eq_some.mp taken
    exact ⟨safe, fun none => absurd none (by simp)⟩
  | register owner agent =>
    obtain ⟨-, rfl⟩ := Option.ite_some_none_eq_some.mp taken
    exact ⟨safe, dead⟩
  | push owner agent =>
    obtain ⟨-, rfl⟩ := Option.ite_some_none_eq_some.mp taken
    exact ⟨safe, dead⟩
  | added owner agent =>
    obtain ⟨-, rfl⟩ := Option.ite_some_none_eq_some.mp taken
    exact ⟨safe, dead⟩
  | begin agent =>
    obtain ⟨live, rfl⟩ := step_begin.mp taken
    refine kept.withCalls (fun call member => ?_) useCount_begin_zero
    exact (mem_begin member).imp_right fun begun => by rwa [begun]
  | lock position =>
    obtain ⟨agent, running, rfl⟩ := step_lock.mp taken
    refine kept.withCalls (fun call member => ?_) useCount_lock_zero
    refine (mem_moves member).imp_right fun moved => ?_
    rw [moved]
    exact safe ⟨agent, .running⟩ (List.mem_of_getElem? running)
  | release position =>
    obtain ⟨agent, strong, rfl⟩ := step_release.mp taken
    -- a callback with `strongThis` is one that a client has the manager beside
    have owned : s.owners ≠ [] := fun none =>
      useCount_of_strong (List.mem_of_getElem? strong) rfl (dead none)
    have others : (s.moves position agent .leaving).useCount ≠ 0 := fun zero =>
      owned (useCount_eq_zero.mp zero).1
    rw [released_of_ne others]
    refine ⟨fun call member => ?_, fun none => absurd none owned⟩
    rcases mem_moves member with member | rfl
    · exact safe call member
    · exact safe ⟨agent, .strong⟩ (List.mem_of_getElem? strong)
  | leave position =>
    obtain ⟨agent, -, rfl⟩ := step_leave.mp taken
    exact kept.withCalls (fun _ member => .inl (List.mem_of_mem_eraseIdx member))
      useCount_leave_zero

/-! ### Runs in which none does -/

omit [DecidableEq Owner] [DecidableEq Agent] in
/-- A manager that no client owns is owned by a callback. -/
theorem strong_of_unowned (unowned : s.owners = []) (alive : s.useCount ≠ 0) :
    ∃ (position : Nat) (agent : Agent), s.calls[position]? = some ⟨agent, .strong⟩ := by
  rw [State.useCount, unowned, List.length_nil, Nat.zero_add] at alive
  obtain ⟨⟨agent, stage⟩, member, strong⟩ := List.countP_pos_iff.mp (Nat.pos_of_ne_zero alive)
  obtain rfl : stage = .strong := of_decide_eq_true strong
  obtain ⟨position, here⟩ := List.getElem?_of_mem member
  exact ⟨position, agent, here⟩

/-- Callbacks that are the last owners let go one by one, and the last of them destroys the agent
that it is a callback of. -/
theorem destroyed_in_callback (others : Nat) (sound : Sound s) (unowned : s.owners = [])
    (count : s.useCount = others + 1) : ∃ trace t, Run Step s trace t ∧ ¬ Safe t := by
  induction others generalizing s with
  | zero =>
    obtain ⟨position, agent, strong⟩ := strong_of_unowned unowned (by omega)
    have last : (s.moves position agent .leaving).useCount = 0 := by
      have fewer := useCount_moves_leaving strong
      omega
    refine ⟨_, _, .single (step_release.mpr ⟨agent, strong, rfl⟩), fun safe => ?_⟩
    rw [released_of_zero last] at safe
    obtain ⟨bound, -⟩ := List.getElem?_eq_some_iff.mp strong
    have owned := sound.owned (List.mem_of_getElem? strong) rfl unowned
    exact safe ⟨agent, .leaving⟩ (List.mem_set bound _) (List.mem_append_right _ owned)
  | succ others ih =>
    obtain ⟨position, agent, strong⟩ := strong_of_unowned unowned (by omega)
    have taken := step_release.mpr ⟨agent, strong, rfl⟩
    have fewer : (s.moves position agent .leaving).released.useCount = others + 1 := by
      have fewer := useCount_moves_leaving strong
      rw [useCount_released]
      omega
    obtain ⟨trace, t, run, broken⟩ :=
      ih (sound_step taken sound) (released_owners.trans unowned) fewer
    exact ⟨_, t, .cons taken run, broken⟩

/-- The last client lets go in a notification. -/
theorem destroyed_of_drop {label : Label Owner Agent} (sound : Sound s) (taken : Step s label t)
    (breaks : ¬ KeepsOwner s label) : ∃ trace u, Run Step t trace u ∧ ¬ Safe u := by
  cases label with
  | drop owner =>
    have after := sound_step taken sound
    obtain ⟨-, rfl⟩ := step_drop.mp taken
    obtain ⟨last, inside⟩ := not_or.mp breaks
    have unowned : s.owners.erase owner = [] := not_not.mp last
    cases count : ({ s with owners := s.owners.erase owner } : State Owner Agent).useCount with
    | zero =>
      refine ⟨[], _, .nil, fun safe => inside fun call member owned => ?_⟩
      rw [released_of_zero count] at safe
      exact safe call member (List.mem_append_right _ owned)
    | succ others =>
      exact destroyed_in_callback others after (released_owners.trans unowned)
        (useCount_released.trans count)
  | _ => exact absurd trivial breaks

/-- **No agent is destroyed inside its own notification while a client keeps the manager.** In a run
in which the last client never lets go of it during a `DevicePresenceChanged` of one of its agents,
no agent is destroyed in such a call; and after a step in which the last client does, the run can go
on until one is. -/
theorem safe_of_run {owner : Owner} {trace : List (Label Owner Agent)}
    (run : Run (Restrict Step KeepsOwner) (init Agent owner) trace s) :
    Safe s ∧ ∀ label t, Step s label t → ¬ KeepsOwner s label →
      ∃ later u, Run Step t later u ∧ ¬ Safe u := by
  have invariant : Sound s ∧ Kept s := by
    refine run.invariant (fun s => Sound s ∧ Kept s) ⟨sound_init owner, ?_⟩ ?_
    · exact ⟨fun _ member => absurd member List.not_mem_nil, fun none => by cases none⟩
    · rintro s label t ⟨sound, kept⟩ ⟨keeps, taken⟩
      exact ⟨sound_step taken sound, kept_step sound kept keeps taken⟩
  exact ⟨invariant.2.safe, fun label t taken breaks =>
    destroyed_of_drop invariant.1 taken breaks⟩

/-- The first client adds an agent, another one comes, the agent reports a device, and the first
client leaves in the middle of it. -/
def sharedTrace : List (Label Nat Nat) :=
  [.register 0 5, .push 0 5, .added 0 5, .copy 0 1, .begin 5, .lock 0, .drop 0]

theorem safe_of_run_shared : ∃ s t,
    Run (Restrict Step KeepsOwner) (init Nat 0) sharedTrace s ∧ Safe s ∧
      Step s (.drop 1) t ∧ ∃ later u, Run Step t later u ∧ ¬ Safe u := by
  have run : Run (Restrict Step KeepsOwner) (init Nat 0) sharedTrace _ :=
    run_of_execute_guarded rfl
  exact ⟨_, _, run, (safe_of_run run).1, rfl, (safe_of_run run).2 (.drop 1) _ rfl (by decide)⟩

/-- A client lets go of the manager while the callback of its agent has `strongThis`, and the end of
the callback destroys the agent, whose gate the call still holds. -/
theorem destroyed_in_notification : ∃ s : State Nat Nat,
    Run Step (init Nat 0)
      [.register 0 5, .push 0 5, .added 0 5, .begin 5, .lock 0, .drop 0, .release 0] s ∧
    s.calls = [⟨5, .leaving⟩] ∧ s.destroyed = [5] ∧ ¬ Safe s :=
  ⟨_, run_of_execute rfl, rfl, rfl, by decide⟩

end Runs

end NearObject.Device.Ownership
