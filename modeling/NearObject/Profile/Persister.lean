/-
**`NearObjectProfilePersisterFilesystem` — one file of profiles.**

`PersistProfile` reads the whole file, appends, and writes it all again. What the file system does
to a call is an argument of it (`Io`), as is the JSON library. An exception of the library leaves
`ReadPersistedProfiles`, and with it `PersistProfile`, which catches none.

* `reads_persisted` — a profile that is persisted is appended to the profiles of the file.
-/

import NearObject.Profile.Serializer

namespace NearObject.Profile

open Json

/-- `persist::PersistResult`. -/
inductive PersistResult
  | succeeded
  | failed
  | failedToOpenFile
  | failedToParseFile
  | unknownError
  deriving DecidableEq, Repr

/-- What becomes of the file that an `std::ofstream` writes. -/
inductive Write (Content : Type)
  | completed
  /-- The stream has failed, and leaves this. -/
  | failed (file : Option Content)
  deriving DecidableEq, Repr

/-- What the file system does to one call: whether an existing file opens, and what becomes of a
write. -/
structure Io (Content : Type) where
  opens : Bool
  write : Write Content
  deriving DecidableEq, Repr

/-- No I/O failure. -/
def Io.success (Content : Type) : Io Content where
  opens := true
  write := .completed

section Persister

variable {Content Double : Type} (format : Format Content Double)

/-- `ReadPersistedProfiles`: the result code and the profiles. -/
def readPersistedProfiles (io : Io Content) (file : Option Content) :
    Except Exception (PersistResult × List NearObjectProfile) := do
  match file with
  | none => return (.succeeded, [])
  | some content =>
    if io.opens = false then
      return (.failedToOpenFile, [])
    let json ← format.parse content
    if json.empty then
      return (.succeeded, [])
    let profiles ← profilesFromJson (Value.int32 format) json
    return (.succeeded, profiles)

/-- The second half of `PersistProfile`, which writes the updated list. -/
def writeProfiles (io : Io Content) (profiles : List NearObjectProfile) :
    PersistResult × Option Content :=
  match io.write with
  | .completed => (.succeeded, some (format.dump (profilesToJson profiles)))
  | .failed file => (.failed, file)

/-- `PersistProfile`: the result code, and the file afterwards. -/
def persistProfile (io : Io Content) (file : Option Content) (profile : NearObjectProfile) :
    Except Exception PersistResult × Option Content :=
  match readPersistedProfiles format io file with
  | .error exception => (.error exception, file)
  | .ok (persistResult, profiles) =>
    if persistResult ≠ .succeeded then (.ok persistResult, file)
    else
      let (persistResult, file) := writeProfiles format io (profiles ++ [profile])
      (.ok persistResult, file)

/-! ### Without I/O failure -/

/-- The file reads back as these profiles. -/
def Holds (file : Option Content) (profiles : List NearObjectProfile) : Prop :=
  readPersistedProfiles format (.success Content) file = .ok (.succeeded, profiles)

theorem holds_none : Holds format none [] :=
  rfl

variable {format} {file : Option Content} {profiles : List NearObjectProfile}

theorem Holds.unique (first : Holds format file profiles) {others : List NearObjectProfile}
    (second : Holds format file others) : profiles = others := by
  have same := Except.ok.inj (first.symm.trans second)
  exact (Prod.mk.inj same).2

/-- What is written reads back, the empty list as any other. -/
theorem holds_written (lawful : format.Lawful Written) (profiles : List NearObjectProfile) :
    Holds format (writeProfiles format (.success Content) profiles).2 profiles := by
  show readPersistedProfiles format _ (some (format.dump (profilesToJson profiles))) = _
  have parsed := lawful (profilesToJson profiles) (Set.mem_range_self _)
  cases profiles with
  | nil =>
    simp only [readPersistedProfiles, parsed]
    rfl
  | cons first rest =>
    simp only [readPersistedProfiles, parsed, bind, Except.bind, profiles_round_trip]
    rfl

theorem persistProfile_of_holds (holds : Holds format file profiles) (profile : NearObjectProfile) :
    persistProfile format (.success Content) file profile =
      (.ok .succeeded, (writeProfiles format (.success Content) (profiles ++ [profile])).2) := by
  rw [persistProfile, holds]
  rfl

/-- **A persisted profile is appended** to the profiles of the file. -/
theorem reads_persisted (lawful : format.Lawful Written) (holds : Holds format file profiles)
    (profile : NearObjectProfile) :
    (persistProfile format (.success Content) file profile).1 = .ok .succeeded ∧
      Holds format (persistProfile format (.success Content) file profile).2
        (profiles ++ [profile]) := by
  rw [persistProfile_of_holds holds]
  exact ⟨rfl, holds_written lawful _⟩

end Persister

end NearObject.Profile
