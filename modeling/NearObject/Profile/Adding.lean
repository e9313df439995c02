/-
**`AddProfile` and a persister that fails.**

The manager appends to `m_profiles` and then calls its persister, whatever that is: what a call of
`PersistProfile` does is part of the call here, a result code or an exception, and only a success
changes what is persisted. `AddProfile` drops the result, and does not take back what it appended.

* `allOrNothing_iff` — a call is all or nothing exactly where its persister succeeds.
* `whole_iff` — so a run keeps both lists in step, and reports what fails, exactly where nothing
  fails.
* `addProfile_file` — the persister of a file is a case of it.
-/

import NearObject.Profile.Manager
import NearObject.Transition.Run

namespace NearObject.Profile.Adding

open Transition

/-! ### Calls -/

/-- `m_profiles`, and what the persister has. -/
structure State where
  profiles : List NearObjectProfile
  persisted : List NearObjectProfile
  deriving DecidableEq, Repr

section Calls

variable {Exception : Type}

/-- What `PersistProfile` of the persister does: it returns a result code, or throws. -/
abbrev Outcome (Exception : Type) := Except Exception PersistResult

/-- `PersistProfile` of a persister that leaves its store as it is when it fails. -/
def State.persistProfile (s : State) (profile : NearObjectProfile) :
    Outcome Exception → Outcome Exception × State
  | .ok .succeeded => (.ok .succeeded, { s with persisted := s.persisted ++ [profile] })
  | failure => (failure, s)

/-- `AddProfile`: how it exits, and the state afterwards. -/
def State.addProfile (s : State) (profile : NearObjectProfile) (lifetime : ProfileLifetime)
    (outcome : Outcome Exception) : Except Exception Unit × State :=
  let s := { s with profiles := s.profiles ++ [profile] }
  if lifetime = .persistent then
    match s.persistProfile profile outcome with
    -- the result code is dropped
    | (.ok _, s) => (.ok (), s)
    | (.error exception, s) => (.error exception, s)
  else (.ok (), s)

/-- One call of `AddProfile(profile, Persistent)`, with what its persister does and how it exits. -/
structure Label (Exception : Type) where
  profile : NearObjectProfile
  outcome : Outcome Exception
  exit : Except Exception Unit

/-- The manager and its persister, as a system. -/
def Step (s : State) (label : Label Exception) (t : State) : Prop :=
  s.addProfile label.profile .persistent label.outcome = (label.exit, t)

/-- **The call is all or nothing**: it returns with the profile in both lists, or it exits with an
exception and both are as they were. -/
def AllOrNothing (s : State) (label : Label Exception) (t : State) : Prop :=
  (label.exit = .ok () ∧ t = ⟨s.profiles ++ [label.profile], s.persisted ++ [label.profile]⟩) ∨
    ((∃ exception, label.exit = .error exception) ∧ t = s)

/-! ### One call -/

variable {s t : State} {label : Label Exception}

/-- **What a call does.** The profile is in `m_profiles` however the call exits. -/
theorem step_cases (taken : Step s label t) :
    (label.outcome = .ok .succeeded ∧ label.exit = .ok () ∧
      t = ⟨s.profiles ++ [label.profile], s.persisted ++ [label.profile]⟩) ∨
    (label.outcome ≠ .ok .succeeded ∧ t = ⟨s.profiles ++ [label.profile], s.persisted⟩ ∧
      ∀ result, label.outcome = .ok result → label.exit = .ok ()) := by
  obtain ⟨profile, outcome, exit⟩ := label
  cases outcome with
  | error exception =>
    obtain ⟨rfl, rfl⟩ := Prod.mk.inj taken
    exact .inr ⟨by simp, rfl, fun result same => by cases same⟩
  | ok result =>
    cases result with
    | succeeded =>
      obtain ⟨rfl, rfl⟩ := Prod.mk.inj taken
      exact .inl ⟨rfl, rfl, rfl⟩
    | _ =>
      obtain ⟨rfl, rfl⟩ := Prod.mk.inj taken
      exact .inr ⟨by simp, rfl, fun _ _ => rfl⟩

/-- **A call is all or nothing exactly where its persister succeeds.** -/
theorem allOrNothing_iff (taken : Step s label t) :
    AllOrNothing s label t ↔ label.outcome = .ok .succeeded := by
  rcases step_cases taken with ⟨succeeded, returns, rfl⟩ | ⟨failed, rfl, -⟩
  · exact iff_of_true (.inl ⟨returns, rfl⟩) succeeded
  · refine iff_of_false ?_ failed
    rintro (⟨-, same⟩ | ⟨-, same⟩)
    · have persisted : s.persisted = s.persisted ++ [label.profile] := congrArg State.persisted same
      simp at persisted
    · have profiles : s.profiles ++ [label.profile] = s.profiles := congrArg State.profiles same
      simp at profiles

/-! ### Runs -/

/-- Both lists have grown by the same profiles, those of the calls that returned. -/
def InStep (start : State) (trace : List (Label Exception)) (s : State) : Prop :=
  s = ⟨start.profiles ++ (trace.filter fun label => label.exit.isOk).map Label.profile,
    start.persisted ++ (trace.filter fun label => label.exit.isOk).map Label.profile⟩

/-- **The calls of a run are all or nothing**, each of them; the two lists are in step; and no call
returns whose persister has failed. -/
structure Whole (start : State) (trace : List (Label Exception)) (s : State) : Prop where
  each : ∀ early label late before after, trace = early ++ label :: late →
    Run Step start early before → Step before label after → AllOrNothing before label after
  inStep : InStep start trace s
  reports : ∀ label ∈ trace, label.exit = .ok () → label.outcome = .ok .succeeded

variable {start : State} {trace : List (Label Exception)}

theorem inStep_step (taken : Step s label t) (succeeded : label.outcome = .ok .succeeded)
    (inStep : InStep start trace s) : InStep start (trace ++ [label]) t := by
  rcases step_cases taken with ⟨-, returns, rfl⟩ | ⟨failed, -⟩
  · have last : [label].filter (fun label => label.exit.isOk) = [label] :=
      List.filter_cons_of_pos (by rw [returns]; rfl)
    rw [InStep, List.filter_append, last, List.map_append, ← List.append_assoc,
      ← List.append_assoc, show s = _ from inStep]
    rfl
  · exact absurd succeeded failed

/-- **A run is whole exactly where its persister never fails.** -/
theorem whole_iff (run : Run Step start trace s) :
    Whole start trace s ↔ ∀ label ∈ trace, label.outcome = .ok .succeeded := by
  constructor
  · intro whole label member
    obtain ⟨early, late, rfl⟩ := List.append_of_mem member
    obtain ⟨before, after, first, taken, -⟩ := Run.cut early late run
    exact (allOrNothing_iff taken).mp (whole.each early label late before after rfl first taken)
  · intro succeed
    refine ⟨fun early label late before after same _ taken => ?_, ?_, fun label member _ =>
      succeed label member⟩
    · refine (allOrNothing_iff taken).mpr (succeed label ?_)
      rw [same]
      exact List.mem_append_right _ (List.mem_cons_self ..)
    · refine (run.restrict succeed).history (InStep start) (by simp [InStep]) ?_
      rintro trace s label t - inStep ⟨succeeded, taken⟩
      exact inStep_step taken succeeded inStep

end Calls

/-! ### The persister of a file -/

/-- Without I/O failure, a manager and the file of its persister are such a pair of lists, whose
persister succeeds. -/
theorem addProfile_file {Path Manager Content Double : Type} [DecidableEq Path]
    [DecidableEq Manager] {format : Json.Format Content Double} {persister : Manager → Path}
    {s : Store Path Manager Content} {manager : Manager} {persisted : List NearObjectProfile}
    (lawful : format.Lawful Written) (holds : Holds format (s.files (persister manager)) persisted)
    (profile : NearObjectProfile) :
    ∃ t : State, ((⟨s.profiles manager, persisted⟩ : State).addProfile profile .persistent
        (.ok .succeeded : Outcome Json.Exception)).2 = t ∧
      (s.addProfile format persister manager profile .persistent).profiles manager = t.profiles ∧
      Holds format ((s.addProfile format persister manager profile .persistent).files
        (persister manager)) t.persisted := by
  refine ⟨⟨s.profiles manager ++ [profile], persisted ++ [profile]⟩, rfl,
    Function.update_self .., ?_⟩
  have held : Holds format ((s.perform format persister
      (.addProfile manager profile .persistent)).files (persister manager)) _ :=
    holds_perform lawful holds _
  rwa [persistedIn, if_pos rfl] at held

/-- Two calls on a manager whose persister succeeds. -/
def twoProfiles : List (Label Empty) :=
  [⟨⟨.multicast, none⟩, .ok .succeeded, .ok ()⟩, ⟨{}, .ok .succeeded, .ok ()⟩]

theorem whole_two_profiles :
    Whole ⟨[], [{}]⟩ twoProfiles
      ⟨[⟨.multicast, none⟩, {}], [{}, ⟨.multicast, none⟩, {}]⟩ := by
  have first : Step ⟨[], [{}]⟩ (⟨⟨.multicast, none⟩, .ok .succeeded, .ok ()⟩ : Label Empty)
    ⟨[⟨.multicast, none⟩], [{}, ⟨.multicast, none⟩]⟩ := rfl
  have second : Step ⟨[⟨.multicast, none⟩], [{}, ⟨.multicast, none⟩]⟩
    (⟨{}, .ok .succeeded, .ok ()⟩ : Label Empty)
    ⟨[⟨.multicast, none⟩, {}], [{}, ⟨.multicast, none⟩, {}]⟩ := rfl
  exact (whole_iff (.cons first (.single second))).mpr (by simp)

/-- A call whose persister cannot open its file. -/
def unopened : Label Empty :=
  ⟨{}, .ok .failedToOpenFile, .ok ()⟩

/-- `AddProfile` returns, the profile is in `m_profiles` only, and the failure is not reported. -/
theorem failure_dropped :
    Run Step ⟨[], []⟩ [unopened] ⟨[{}], []⟩ ∧ ¬ Whole ⟨[], []⟩ [unopened] ⟨[{}], []⟩ := by
  have taken : Step ⟨[], []⟩ unopened ⟨[{}], []⟩ := rfl
  refine ⟨.single taken, fun whole => ?_⟩
  cases whole.reports unopened (List.mem_singleton_self _) rfl

end NearObject.Profile.Adding
