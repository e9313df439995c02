/-
**`PersistProfile` when a write fails.**

Opening `std::ofstream` truncates the file, and from then on the old profiles are in memory only. A
write that fails leaves the beginning of the new text, down to nothing of it; that is no JSON text,
or it is the new list, and never the old one.

* `kept_iff` — a call that fails keeps the stored profiles exactly where it fails before the file is
  open for writing.
-/

import NearObject.Json.Truncated
import NearObject.Profile.Persister

namespace NearObject.Profile

open Json

/-- Where the file system fails a call. -/
inductive Failure
  /-- The file is not opened for reading. -/
  | reading
  /-- The file is not opened for writing. -/
  | opening
  /-- The stream fails when so many bytes have been written, or when it is closed after the last. -/
  | writing (bytes : Nat)
  deriving DecidableEq, Repr

section Interrupted

variable {Symbol Double : Type} (format : Format (List Symbol) Double)

/-- The file system of a call that fails there, for the file it finds and the text it writes. -/
def Failure.io (file written : List Symbol) : Failure → Io (List Symbol)
  | .reading => { opens := false, write := .completed }
  | .opening => { opens := true, write := .failed (some file) }
  | .writing bytes => { opens := true, write := .failed (some (written.take bytes)) }

/-- `PersistProfile` on a file that holds these profiles, failing there. -/
def persistFailing (file : List Symbol) (profiles : List NearObjectProfile)
    (profile : NearObjectProfile) (failure : Failure) :
    Except Exception PersistResult × Option (List Symbol) :=
  persistProfile format
    (failure.io file (format.dump (profilesToJson (profiles ++ [profile])))) (some file) profile

variable {format} {file : List Symbol} {profiles : List NearObjectProfile}

/-- What a call that fails returns, and what it leaves. -/
theorem persistFailing_eq (holds : Holds format (some file) profiles) (profile : NearObjectProfile)
    (failure : Failure) :
    persistFailing format file profiles profile failure =
      match failure with
      | .reading => (.ok .failedToOpenFile, some file)
      | .opening => (.ok .failed, some file)
      | .writing bytes =>
        (.ok .failed,
          some ((format.dump (profilesToJson (profiles ++ [profile]))).take bytes)) := by
  have read (io : Io (List Symbol)) (opened : io.opens = true) :
      readPersistedProfiles format io (some file) = .ok (.succeeded, profiles) := by
    obtain ⟨opens, write⟩ := io
    obtain rfl : opens = true := opened
    exact holds
  cases failure with
  | reading => rfl
  | opening =>
    rw [persistFailing, persistProfile, read _ rfl]
    rfl
  | writing bytes =>
    rw [persistFailing, persistProfile, read _ rfl]
    rfl

/-- The beginning of the new text does not read as the old profiles. -/
theorem not_holds_take (lawful : format.Lawful Written) (delimited : format.Delimited)
    (profile : NearObjectProfile) (bytes : Nat) :
    ¬ Holds format
      (some ((format.dump (profilesToJson (profiles ++ [profile]))).take bytes)) profiles := by
  intro holds
  have all := List.take_append_drop bytes (format.dump (profilesToJson (profiles ++ [profile])))
  by_cases cut : (format.dump (profilesToJson (profiles ++ [profile]))).drop bytes = []
  · -- all of it is written, and reads as the new list
    rw [cut, List.append_nil] at all
    rw [all] at holds
    have same := congrArg List.length (holds.unique (holds_written lawful (profiles ++ [profile])))
    simp at same
  · have unread := delimited _ _ _ all.symm cut
    cases parsed : format.parse
        ((format.dump (profilesToJson (profiles ++ [profile]))).take bytes) with
    | error exception =>
      simp only [Holds, readPersistedProfiles, Io.success, parsed] at holds
      cases holds
    | ok value => exact unread value parsed

/-- **A call that fails keeps the stored profiles exactly where it fails before the file is open for
writing.** -/
theorem kept_iff (lawful : format.Lawful Written) (delimited : format.Delimited)
    (holds : Holds format (some file) profiles) (profile : NearObjectProfile)
    (failure : Failure) :
    ((persistFailing format file profiles profile failure).1 ≠ .ok .succeeded →
      readPersistedProfiles format (.success (List Symbol))
          (persistFailing format file profiles profile failure).2 = .ok (.succeeded, profiles)) ↔
      ∀ bytes, failure ≠ .writing bytes := by
  rw [persistFailing_eq holds]
  cases failure with
  | reading => exact iff_of_true (fun _ => holds) fun _ same => by cases same
  | opening => exact iff_of_true (fun _ => holds) fun _ same => by cases same
  | writing bytes =>
    refine iff_of_false (fun kept => ?_) fun other => other bytes rfl
    exact not_holds_take lawful delimited profile bytes (kept (by simp))

end Interrupted

/-- A file of one profile. -/
def oneProfile : List Char :=
  text.dump (profilesToJson [{}])

theorem holds_oneProfile : Holds text (some oneProfile) [{}] :=
  holds_written (text_lawful _) [{}]

/-- The file is read, and not opened for writing. -/
theorem kept_unopened :
    readPersistedProfiles text (.success (List Char))
      (persistFailing text oneProfile [{}] ⟨.multicast, none⟩ .opening).2 =
        .ok (.succeeded, [{}]) := by
  have condition : ∀ bytes, Failure.opening ≠ .writing bytes := fun _ same => by cases same
  refine (kept_iff (text_lawful _) text_delimited holds_oneProfile ⟨.multicast, none⟩ .opening).mpr
    condition ?_
  rw [persistFailing_eq holds_oneProfile]
  simp

/-- The disk is full: nothing is written, and `Failed` is returned; the profile that was in the file
is gone, and the file is not even read any more. -/
theorem profiles_lost : Holds text (some oneProfile) [{}] ∧
    persistFailing text oneProfile [{}] ⟨.multicast, none⟩ (.writing 0) =
      (.ok .failed, some []) ∧
    readPersistedProfiles text (.success (List Char)) (some []) = .error .parseError := by
  refine ⟨holds_oneProfile, ?_, rfl⟩
  rw [persistFailing_eq holds_oneProfile]
  rfl

end NearObject.Profile
