/-
**Profile files that do not decode.**

`PersistResult` has a code for a file whose profiles "were not saved in the proper format", and
`ReadPersistedProfiles` never returns it: the exceptions of the JSON library, which each kind of
ill-formed content raises at another depth, go through it and through `PersistProfile` to the
caller. The file is left as it is.

* `reported_iff` — a content is reported as it should be exactly where it is well formed.
* `throws_of_malformed` — what the two functions do elsewhere.
-/

import NearObject.Json.Text
import NearObject.Profile.Persister

namespace NearObject.Profile

open Json

section Malformed

variable {Content Double : Type} {format : Format Content Double} {content : Content}

/-- A file that opens. -/
def Io.opened (write : Write Content) : Io Content where
  opens := true
  write := write

/-- The content is the text of `null` or of an empty container, or that of an array of objects that
`from_json` accepts. -/
def WellFormed (format : Format Content Double) (content : Content) : Prop :=
  ∃ json, format.parse content = .ok json ∧
    (json.empty = true ∨
      ∃ elements, json = .array elements ∧ ∀ element ∈ elements, Accepted element)

/-- The profiles that a well-formed content stands for. -/
def Decodes (format : Format Content Double) (content : Content)
    (profiles : List NearObjectProfile) : Prop :=
  ∃ json, format.parse content = .ok json ∧
    (json.empty = true ∧ profiles = [] ∨
      json.empty = false ∧ profilesFromJson (Value.int32 format) json = .ok profiles)

/-- What the result codes promise of a content: its profiles with `Succeeded` where it has any, and
elsewhere `FailedToParseFile` from both functions, with the file unchanged. -/
def Reported (format : Format Content Double) (write : Write Content) (content : Content) : Prop :=
  (∀ profiles, Decodes format content profiles →
    readPersistedProfiles format (.opened write) (some content) = .ok (.succeeded, profiles)) ∧
  ((¬ ∃ profiles, Decodes format content profiles) →
    readPersistedProfiles format (.opened write) (some content) = .ok (.failedToParseFile, []) ∧
    ∀ profile, persistProfile format (.opened write) (some content) profile =
      (.ok .failedToParseFile, some content))

theorem decodes_iff :
    (∃ profiles, Decodes format content profiles) ↔ WellFormed format content := by
  constructor
  · rintro ⟨profiles, json, parsed, ⟨empty, -⟩ | ⟨-, read⟩⟩
    · exact ⟨json, parsed, .inl empty⟩
    · exact ⟨json, parsed, .inr ((profiles_isOk_iff format json).mp ⟨profiles, read⟩)⟩
  · rintro ⟨json, parsed, empty | accepted⟩
    · exact ⟨[], json, parsed, .inl ⟨empty, rfl⟩⟩
    · cases shape : json.empty with
      | true => exact ⟨[], json, parsed, .inl ⟨shape, rfl⟩⟩
      | false =>
        obtain ⟨profiles, read⟩ := (profiles_isOk_iff format json).mpr accepted
        exact ⟨profiles, json, parsed, .inr ⟨shape, read⟩⟩

/-- A well-formed content is read. -/
theorem read_of_decodes {profiles : List NearObjectProfile} (write : Write Content)
    (decodes : Decodes format content profiles) :
    readPersistedProfiles format (.opened write) (some content) = .ok (.succeeded, profiles) := by
  obtain ⟨json, parsed, ⟨empty, rfl⟩ | ⟨nonempty, read⟩⟩ := decodes
  · simp only [readPersistedProfiles, Io.opened, parsed, bind, Except.bind, empty]
    rfl
  · simp only [readPersistedProfiles, Io.opened, parsed, bind, Except.bind, nonempty, read]
    rfl

/-- **An ill-formed content throws**, out of both functions, and stays in the file. -/
theorem throws_of_malformed (write : Write Content) (malformed : ¬ WellFormed format content) :
    ∃ exception,
      readPersistedProfiles format (.opened write) (some content) = .error exception ∧
      ∀ profile, persistProfile format (.opened write) (some content) profile =
        (.error exception, some content) := by
  have throws : ∃ exception,
      readPersistedProfiles format (.opened write) (some content) = .error exception := by
    cases parsed : format.parse content with
    | error exception =>
      refine ⟨exception, ?_⟩
      simp only [readPersistedProfiles, Io.opened, parsed]
      rfl
    | ok json =>
      have nonempty : json.empty = false :=
        Bool.eq_false_iff.mpr fun empty => malformed ⟨json, parsed, .inl empty⟩
      cases read : profilesFromJson (Value.int32 format) json with
      | error exception =>
        refine ⟨exception, ?_⟩
        simp only [readPersistedProfiles, Io.opened, parsed, bind, Except.bind, nonempty, read]
        rfl
      | ok profiles =>
        have accepted := (profiles_isOk_iff format json).mp ⟨profiles, read⟩
        exact absurd ⟨json, parsed, .inr accepted⟩ malformed
  obtain ⟨exception, threw⟩ := throws
  refine ⟨exception, threw, fun profile => ?_⟩
  rw [persistProfile, threw]

/-- **A content is reported exactly where it is well formed**: `null`, an empty container, or an
array of objects with a number under `"Scope"` and some value under `"Security"`. -/
theorem reported_iff (format : Format Content Double) (write : Write Content) (content : Content) :
    Reported format write content ↔ WellFormed format content := by
  constructor
  · rintro ⟨-, reports⟩
    by_contra malformed
    obtain ⟨exception, threw, -⟩ := throws_of_malformed write malformed
    have reported := (reports (decodes_iff.not.mpr malformed)).1
    rw [threw] at reported
    cases reported
  · intro wellFormed
    refine ⟨fun profiles => read_of_decodes write, fun none => ?_⟩
    exact absurd (decodes_iff.mpr wellFormed) none

end Malformed

/-- An empty file throws. -/
theorem empty_file_throws : ¬ Reported text .completed [] ∧
    readPersistedProfiles text (.opened .completed) (some []) = .error .parseError := by
  refine ⟨fun ⟨_, reports⟩ => ?_, rfl⟩
  have undecoded : ¬ ∃ profiles, Decodes text [] profiles := by
    rintro ⟨profiles, json, parsed, -⟩
    cases parsed
  cases (reports undecoded).1

end NearObject.Profile
