/-
**`NearObjectProfileManager` — the queries, and the profiles added meanwhile.**

`AddProfile` takes `m_profilesGate` exclusive for its push; `FindMatchingProfiles` and
`GetAllProfiles` take it shared and copy from `m_profiles` one profile after another, several of
them at a time. Each is a section of `Transition.Guarded`, with the position in `m_profiles` and
what is copied so far as its locals. What a persistent `AddProfile` does after its section is no
part of this.

`queries_atomic` — in every run the calls take effect one after the other: a query answers with the
profiles added before it, those that are the same as the given one or all, in the order in which
they were added, and a call that has returned stands before all later ones.
-/

import NearObject.Profile.Serializer
import NearObject.Transition.Guarded

namespace NearObject.Profile

open Transition
open Transition.Atomic (Entry Serial Answers calls own)
open Transition.Guarded (Sections Evaluates Implements linearizable)

/-! ### Comparing profiles -/

/-- `NearObjectProfileSecurity::IsSame`. -/
def NearObjectProfileSecurity.isSame (_self _other : NearObjectProfileSecurity) : Bool :=
  true

/-- `NearObjectProfile::IsSame`: the tuples of the two members are equal. -/
def NearObjectProfile.isSame (self other : NearObjectProfile) : Bool :=
  self.scope == other.scope &&
    match self.security, other.security with
    | some security, some security' => security.isSame security'
    | none, none => true
    | _, _ => false

/-- `IsSame` is equality, since a security configuration has no members. -/
theorem isSame_iff {first second : NearObjectProfile} :
    first.isSame second = true ↔ first = second := by
  obtain ⟨scope, security⟩ := first
  obtain ⟨scope', security'⟩ := second
  cases security <;> cases security' <;>
    simp [NearObjectProfile.isSame, NearObjectProfileSecurity.isSame]

namespace Queries

/-! ### The sections -/

inductive Operation
  | addProfile (profile : NearObjectProfile)
  | findMatchingProfiles (profileToMatch : NearObjectProfile)
  | getAllProfiles
  deriving DecidableEq, Repr

inductive Result
  | unit
  | profiles (profiles : List NearObjectProfile)
  deriving DecidableEq, Repr

/-- A position in `m_profiles`, and the profiles copied so far. -/
structure Cursor where
  position : Nat
  profilesMatching : List NearObjectProfile
  deriving DecidableEq, Repr

/-- One step of a loop that copies the profiles that satisfy a predicate. -/
def copyIf (predicate : NearObjectProfile → Bool) (cursor : Cursor)
    (profiles : List NearObjectProfile) : (Cursor × List NearObjectProfile) ⊕ Result :=
  match profiles[cursor.position]? with
  | some profileToCheck => .inl (⟨cursor.position + 1, cursor.profilesMatching ++
      if predicate profileToCheck then [profileToCheck] else []⟩, profiles)
  | none => .inr (.profiles cursor.profilesMatching)

/-- One step under `m_profilesGate`. -/
def next : Operation → Cursor → List NearObjectProfile →
    (Cursor × List NearObjectProfile) ⊕ Result
  | .addProfile profile, cursor, profiles =>
    -- the push is the first step
    if cursor.position = 0 then .inl ({ cursor with position := 1 }, profiles ++ [profile])
    else .inr .unit
  | .findMatchingProfiles profileToMatch, cursor, profiles =>
    copyIf (fun profileToCheck => profileToCheck.isSame profileToMatch) cursor profiles
  | .getAllProfiles, cursor, profiles => copyIf (fun _ => true) cursor profiles

/-- `std::unique_lock` in `AddProfile`, `std::shared_lock` in the queries. -/
def exclusive : Operation → Bool
  | .addProfile _ => true
  | .findMatchingProfiles _ | .getAllProfiles => false

theorem copyIf_reads {predicate : NearObjectProfile → Bool} {cursor after : Cursor}
    {profiles written : List NearObjectProfile}
    (goes : copyIf predicate cursor profiles = .inl (after, written)) : written = profiles := by
  unfold copyIf at goes
  split at goes
  · exact (Prod.mk.inj (Sum.inl.inj goes)).2.symm
  · cases goes

/-- **The sections of the manager.** -/
def sections : Sections Operation Result (List NearObjectProfile) Cursor where
  exclusive := exclusive
  start := fun _ => ⟨0, []⟩
  next := next
  reads := by
    intro operation cursor after profiles written shared goes
    cases operation with
    | addProfile profile => cases shared
    | findMatchingProfiles profileToMatch => exact copyIf_reads goes
    | getAllProfiles => exact copyIf_reads goes

/-! ### What they compute -/

/-- What an operation answers. -/
def answer (profiles : List NearObjectProfile) : Operation → Result
  | .addProfile _ => .unit
  | .findMatchingProfiles profileToMatch =>
    .profiles (profiles.filter fun profile => profile.isSame profileToMatch)
  | .getAllProfiles => .profiles profiles

/-- The profile that an operation adds. -/
def Operation.adds : Operation → List NearObjectProfile
  | .addProfile profile => [profile]
  | .findMatchingProfiles _ | .getAllProfiles => []

/-- The operations, one at a time. -/
def perform (operation : Operation) (profiles : List NearObjectProfile) :
    List NearObjectProfile × Result :=
  (profiles ++ operation.adds, answer profiles operation)

/-- The loop of a query copies what is left. -/
theorem evaluates_copyIf {operation : Operation} {predicate : NearObjectProfile → Bool}
    (loop : ∀ cursor profiles, next operation cursor profiles = copyIf predicate cursor profiles)
    (profiles : List NearObjectProfile) : ∀ (left : Nat) (cursor : Cursor),
      profiles.length - cursor.position = left →
        Evaluates sections operation cursor profiles profiles
          (.profiles (cursor.profilesMatching ++
            (profiles.drop cursor.position).filter predicate)) := by
  intro left
  induction left with
  | zero =>
    intro cursor none
    have past : profiles.length ≤ cursor.position := Nat.le_of_sub_eq_zero none
    rw [List.drop_eq_nil_of_le past, List.filter_nil, List.append_nil]
    refine .done ((loop cursor profiles).trans ?_)
    rw [copyIf, List.getElem?_eq_none past]
  | succ left ih =>
    intro cursor some
    have inside : cursor.position < profiles.length := by omega
    refine .more ((loop cursor profiles).trans (by rw [copyIf, List.getElem?_eq_getElem inside])) ?_
    have rest := ih ⟨cursor.position + 1, cursor.profilesMatching ++
      if predicate profiles[cursor.position] then [profiles[cursor.position]] else []⟩
      (by simp only; omega)
    rw [List.drop_eq_getElem_cons inside, List.filter_cons]
    rw [List.append_assoc] at rest
    split at rest <;> simp_all

theorem implements : Implements sections perform := by
  intro operation profiles
  have unchanged : profiles ++ [] = profiles := List.append_nil profiles
  cases operation with
  | addProfile profile => exact .more rfl (.done rfl)
  | findMatchingProfiles profileToMatch =>
    have copies : Evaluates sections (.findMatchingProfiles profileToMatch) ⟨0, []⟩ profiles
        profiles (answer profiles (.findMatchingProfiles profileToMatch)) :=
      evaluates_copyIf (fun _ _ => rfl) profiles _ ⟨0, []⟩ rfl
    show Evaluates sections _ ⟨0, []⟩ profiles (profiles ++ []) _
    rw [unchanged]
    exact copies
  | getAllProfiles =>
    have copies : Evaluates sections .getAllProfiles ⟨0, []⟩ profiles profiles
        (.profiles (profiles.filter fun _ => true)) :=
      evaluates_copyIf (fun _ _ => rfl) profiles _ ⟨0, []⟩ rfl
    rw [List.filter_eq_self.mpr fun _ _ => rfl] at copies
    show Evaluates sections _ ⟨0, []⟩ profiles (profiles ++ []) (.profiles profiles)
    rw [unchanged]
    exact copies

/-! ### One call after the other -/

section Serial

variable {Thread : Type}

/-- The profiles that the calls add, in order. -/
def added (order : List (Entry Thread Operation Result)) : List NearObjectProfile :=
  order.flatMap fun entry => entry.operation.adds

theorem serial_value {order : List (Entry Thread Operation Result)}
    {initial final : List NearObjectProfile} (run : Run (Serial perform) initial order final) :
    final = initial ++ added order := by
  induction run with
  | nil => exact (List.append_nil initial).symm
  | snoc _ taken ih =>
    have step := congrArg Prod.fst taken
    rw [added, List.flatMap_append, List.flatMap_singleton, ← List.append_assoc]
    rw [ih] at step
    exact step.symm

theorem serial_answer {before after : List (Entry Thread Operation Result)}
    {entry : Entry Thread Operation Result} {initial final : List NearObjectProfile}
    (run : Run (Serial perform) initial (before ++ entry :: after) final) :
    entry.result = answer (initial ++ added before) entry.operation := by
  obtain ⟨profiles, profiles', first, taken, -⟩ := run.cut before after
  have answers := congrArg Prod.snd taken
  rw [serial_value first] at answers
  exact answers.symm

end Serial

/-! ### Runs -/

section Runs

variable {Thread : Type} [DecidableEq Thread]

/-- **The queries are atomic.** -/
theorem queries_atomic {initial : List NearObjectProfile}
    {trace : List (Guarded.Label Thread Operation Result)}
    {s : Guarded.State Thread Operation Result (List NearObjectProfile) Cursor}
    (run : Run (Guarded.Step sections)
      (Guarded.init Thread Operation Result Cursor initial) trace s) :
    ∃ order : List (Guarded.Label Thread Operation Result) → List (Entry Thread Operation Result),
      (s.writer = none → s.value = initial ++ added (order trace)) ∧
      (∀ before entry after, order trace = before ++ entry :: after →
        entry.result = answer (initial ++ added before) entry.operation) ∧
      ∀ early late, trace = early ++ late → order early <+: order trace ∧
        ∀ thread,
          Answers (calls thread (early.flatMap Guarded.observe)) (own thread (order early)) := by
  obtain ⟨final, value, order, serial, explained⟩ := linearizable implements run
  refine ⟨order, fun free => (value free).trans (serial_value serial), ?_, explained⟩
  intro before entry after shape
  rw [shape] at serial
  exact serial_answer serial

/-- The profile that the constructor without arguments makes. -/
def unicast : NearObjectProfile := {}

/-- Two queries overlap, and a profile is added after them. -/
def queriesTrace : List (Guarded.Label Nat Operation Result) :=
  [.call 0 .getAllProfiles, .acquire 0, .call 1 (.findMatchingProfiles unicast), .acquire 1,
    .call 2 (.addProfile unicast), .advance 1, .advance 0, .release 1, .release 0, .acquire 2,
    .advance 2, .release 2, .return 2 .unit, .return 1 (.profiles [unicast]),
    .return 0 (.profiles [unicast])]

theorem queries_atomic_overlapping : ∃ (order : List (Guarded.Label Nat Operation Result) →
    List (Entry Nat Operation Result)) (s : Guarded.State Nat Operation Result _ Cursor),
    Run (Guarded.Step sections) (Guarded.init Nat Operation Result Cursor [unicast])
        queriesTrace s ∧
      s.value = [unicast] ++ added (order queriesTrace) ∧
      Answers (calls 0 (queriesTrace.flatMap Guarded.observe)) (own 0 (order queriesTrace)) := by
  have run : Run (Guarded.Step sections)
      (Guarded.init Nat Operation Result Cursor [unicast]) queriesTrace _ := run_of_execute rfl
  obtain ⟨order, value, -, explained⟩ := queries_atomic run
  exact ⟨order, _, run, value rfl, (explained _ [] (List.append_nil _).symm).2 0⟩

end Runs

end Queries

end NearObject.Profile
