/-
**`NearObjectProfileManager` — profiles added and persisted, one call after another.**

A persister is the path of its file, so that persisters of one location share it; a manager has one
persister. `AddProfile` appends to `m_profiles` and then, for a persistent profile, calls the
persister, whose result it drops.

* `persisted_read_back` — the file of a location reads back as the profiles persisted there.
-/

import NearObject.Json.Text
import NearObject.Profile.Persister
import Mathlib.Logic.Function.Basic

namespace NearObject.Profile

open Json

/-- `NearObjectProfileManager::ProfileLifetime`. -/
inductive ProfileLifetime
  | persistent
  | ephemeral
  deriving DecidableEq, Repr

/-- The files, and the `m_profiles` of each manager. -/
structure Store (Path Manager Content : Type) where
  files : Path → Option Content
  profiles : Manager → List NearObjectProfile

/-- The calls that may persist a profile. -/
inductive Call (Path Manager : Type)
  /-- `PersistProfile`, on a persister of this file. -/
  | persistProfile (persistFilepath : Path) (profile : NearObjectProfile)
  | addProfile (manager : Manager) (profile : NearObjectProfile) (lifetime : ProfileLifetime)
  deriving DecidableEq, Repr

section Manager

variable {Path Manager Content Double : Type} [DecidableEq Path] [DecidableEq Manager]
  (format : Format Content Double) (persister : Manager → Path)

/-- `PersistProfile` of the persister of this file. -/
def Store.persistProfile (s : Store Path Manager Content) (persistFilepath : Path)
    (profile : NearObjectProfile) : Store Path Manager Content :=
  let (_, file) :=
    Profile.persistProfile format (.success Content) (s.files persistFilepath) profile
  { s with files := Function.update s.files persistFilepath file }

/-- `AddProfile`. -/
def Store.addProfile (s : Store Path Manager Content) (manager : Manager)
    (profile : NearObjectProfile) (lifetime : ProfileLifetime) : Store Path Manager Content :=
  let s := { s with
    profiles := Function.update s.profiles manager (s.profiles manager ++ [profile]) }
  if lifetime = .persistent then s.persistProfile format (persister manager) profile else s

/-- One call, without I/O failure. -/
def Store.perform (s : Store Path Manager Content) : Call Path Manager → Store Path Manager Content
  | .persistProfile persistFilepath profile => s.persistProfile format persistFilepath profile
  | .addProfile manager profile lifetime => s.addProfile format persister manager profile lifetime

/-- The profile that a call persists in this file, if it does. -/
def persistedIn (path : Path) : Call Path Manager → Option NearObjectProfile
  | .persistProfile persistFilepath profile => if persistFilepath = path then some profile else none
  | .addProfile manager profile .persistent =>
    if persister manager = path then some profile else none
  | .addProfile _ _ .ephemeral => none

/-! ### What one call does to one file -/

variable {format persister} {path : Path} {s : Store Path Manager Content}
  {profiles : List NearObjectProfile}

omit [DecidableEq Manager] in
/-- A file reads back with the profile that was persisted in it, and any other file as before. -/
theorem holds_persistProfile (lawful : format.Lawful Written)
    (holds : Holds format (s.files path) profiles)
    (persistFilepath : Path) (profile : NearObjectProfile) :
    Holds format ((s.persistProfile format persistFilepath profile).files path)
      (profiles ++ (if persistFilepath = path then some profile else none).toList) := by
  by_cases here : persistFilepath = path
  · obtain rfl := here
    rw [if_pos rfl]
    show Holds format (Function.update s.files persistFilepath _ persistFilepath) _
    rw [Function.update_self]
    exact (reads_persisted lawful holds profile).2
  · rw [if_neg here]
    show Holds format (Function.update s.files persistFilepath _ path) _
    rwa [Function.update_of_ne (Ne.symm here), Option.toList_none, List.append_nil]

theorem holds_perform (lawful : format.Lawful Written)
    (holds : Holds format (s.files path) profiles)
    (call : Call Path Manager) :
    Holds format ((s.perform format persister call).files path)
      (profiles ++ (persistedIn persister path call).toList) := by
  cases call with
  | persistProfile persistFilepath profile =>
    exact holds_persistProfile lawful holds persistFilepath profile
  | addProfile manager profile lifetime =>
    cases lifetime with
    | persistent => exact holds_persistProfile lawful holds (persister manager) profile
    | ephemeral => rwa [persistedIn, Option.toList_none, List.append_nil]

theorem holds_calls (lawful : format.Lawful Written) (calls : List (Call Path Manager)) :
    ∀ {s : Store Path Manager Content} {profiles : List NearObjectProfile},
      Holds format (s.files path) profiles →
        Holds format ((calls.foldl (Store.perform format persister) s).files path)
          (profiles ++ calls.filterMap (persistedIn persister path)) := by
  induction calls with
  | nil => exact fun holds => by rwa [List.filterMap_nil, List.append_nil]
  | cons call calls ih =>
    intro s profiles holds
    have perform : Holds format ((s.perform format persister call).files path) _ :=
      holds_perform lawful holds call
    have rest := ih perform
    rw [List.append_assoc] at rest
    rw [List.foldl_cons, List.filterMap_cons]
    cases persisted : persistedIn persister path call with
    | none => rwa [persisted] at rest
    | some profile => rwa [persisted] at rest

/-- **Persisted profiles read back.** From a location without a file, whatever calls are made on the
persisters and the managers of this and of other locations, one after another and without I/O
failure, a persister of the location reads exactly the profiles that were persisted there, in call
order. -/
theorem persisted_read_back (lawful : format.Lawful Written) (fresh : s.files path = none)
    (calls : List (Call Path Manager)) :
    readPersistedProfiles format (.success Content)
        ((calls.foldl (Store.perform format persister) s).files path) =
      .ok (.succeeded, calls.filterMap (persistedIn persister path)) := by
  have before : Holds format (s.files path) [] := by
    rw [fresh]
    exact holds_none format
  exact holds_calls lawful calls before

end Manager

/-- A persister and two managers share a location, and a third manager has another. -/
def sharedCalls : List (Call Nat Nat) :=
  [.persistProfile 0 {}, .addProfile 1 ⟨.multicast, some {}⟩ .persistent,
    .addProfile 3 ⟨.unknown, none⟩ .persistent, .addProfile 2 ⟨.unknown, none⟩ .ephemeral,
    .addProfile 2 {} .persistent]

theorem persisted_read_back_shared :
    readPersistedProfiles text (.success (List Char))
        ((sharedCalls.foldl
          (Store.perform text fun manager => if manager = 3 then 1 else 0)
          ⟨fun _ => none, fun _ => []⟩).files 0) =
      .ok (.succeeded, [⟨.unicast, none⟩, ⟨.multicast, some {}⟩, ⟨.unicast, none⟩]) :=
  persisted_read_back (text_lawful _) rfl sharedCalls

end NearObject.Profile
