/-
**Profiles that are read, and the document they come from.**

Writing a profile leaves the numbers 0 to 2 under `"Scope"` and `null` or an empty object under
`"Security"`. Reading is more lenient: any number is cast to the enumeration, and any value but
`null` is a security. How the JSON library casts, and which doubles are equal to an integer, is an
argument here; of the cast it is assumed that it keeps the numbers of 32 bits (`Documented`).

* `genuine_iff` — the profiles read are genuine, and give back the values of the document when they
  are written, exactly where each entry of the document could have been written.
* `readPersistedProfiles_eq` — what a file holds is read so.
-/

import NearObject.Json.Text
import NearObject.Profile.Persister
import Mathlib.Data.List.Forall2

namespace NearObject.Profile.Document

open Json

/-! ### The library -/

section Library

variable {Content Double : Type}

/-- The default conversion of a value to an `enum class` over `int`, and the comparison of a double
with an integer. -/
structure Numbers (Double : Type) where
  toEnum : Value Double → Except Exception Int32
  equals : Double → Int → Bool

/-- An integer is cast, and a double that is a number of 32 bits to that number. What becomes of
other doubles and of other values is left open. -/
structure Numbers.Documented (numbers : Numbers Double) : Prop where
  integer : ∀ number, numbers.toEnum (.integer number) = .ok (Int32.ofInt number)
  double : ∀ value number, numbers.equals value number = true → -2147483648 ≤ number →
    number < 2147483648 → numbers.toEnum (.double value) = .ok (Int32.ofInt number)

/-- That of a format. -/
def Numbers.ofFormat (format : Format Content Double) (equals : Double → Int → Bool) :
    Numbers Double where
  toEnum := Value.int32 format
  equals := equals

variable (numbers : Numbers Double)

/-- `operator==` of a value that is stored and one that `to_json` makes: the same, or a double and
an integer that are equal. -/
inductive Same : Value Double → Value Double → Prop
  | refl (value : Value Double) : Same value value
  | double (value : Double) (number : Int) (equal : numbers.equals value number = true) :
      Same (.double value) (.integer number)

/-! ### Reading -/

/-- The profiles of a document, as `ReadPersistedProfiles` reads them. -/
def readDocument (json : Value Double) : Except Exception (List NearObjectProfile) :=
  if json.empty then .ok [] else profilesFromJson numbers.toEnum json

/-- With the conversion of its format, this is what `ReadPersistedProfiles` makes of a file. -/
theorem readPersistedProfiles_eq (format : Format Content Double) (equals : Double → Int → Bool)
    (content : Content) :
    readPersistedProfiles format (.success Content) (some content) =
      (do
        let json ← format.parse content
        let profiles ← readDocument (.ofFormat format equals) json
        return (.succeeded, profiles)) := by
  simp only [readPersistedProfiles, Io.success]
  cases format.parse content with
  | error exception => rfl
  | ok json =>
    cases shape : json.empty with
    | true =>
      simp only [bind, Except.bind, shape, readDocument]
      rfl
    | false =>
      simp only [bind, Except.bind, shape, readDocument]
      rfl

/-! ### What is genuine -/

/-- One of `Unicast`, `Multicast` and `Unknown`. -/
def IsEnumerator (scope : NearObjectConnectionScope) : Prop :=
  scope = .unicast ∨ scope = .multicast ∨ scope = .unknown

/-- What `to_json` writes under a key is what the entry has there. -/
def AgreeAt (key : String) (entry : Value Double) (profile : NearObjectProfile) : Prop :=
  ∃ stored written, entry.at key = .ok stored ∧ (profileToJson profile).at key = .ok written ∧
    Same numbers stored written

/-- **The profile is genuine, and undoes the entry that it comes from.** -/
structure GenuineEntry (entry : Value Double) (profile : NearObjectProfile) : Prop where
  scope : IsEnumerator profile.scope
  agreeScope : AgreeAt numbers "Scope" entry profile
  agreeSecurity : AgreeAt numbers "Security" entry profile

/-- The entries of a document. -/
def entries : Value Double → List (Value Double)
  | .array elements => elements
  | _ => []

/-- The profiles of a document are genuine, one for each entry. -/
def Genuine (json : Value Double) (profiles : List NearObjectProfile) : Prop :=
  List.Forall₂ (GenuineEntry numbers) (entries json) profiles

/-- **The entry could have been written**: it has one of the numbers 0 to 2 for a scope, and `null`
or an empty object for a security. -/
structure Canonical (entry : Value Double) : Prop where
  scope : ∃ stored, entry.at "Scope" = .ok stored ∧
    ∃ number, (number = 0 ∨ number = 1 ∨ number = 2) ∧ Same numbers stored (.integer number)
  security : entry.at "Security" = .ok .null ∨ entry.at "Security" = .ok (.object [])

/-! ### One entry -/

variable {numbers} {entry : Value Double} {profile : NearObjectProfile}

theorem agreeAt_iff {key : String} {stored written : Value Double}
    (here : entry.at key = .ok stored) (there : (profileToJson profile).at key = .ok written) :
    AgreeAt numbers key entry profile ↔ Same numbers stored written := by
  constructor
  · rintro ⟨_, _, first, second, same⟩
    obtain rfl := Except.ok.inj (here.symm.trans first)
    obtain rfl := Except.ok.inj (there.symm.trans second)
    exact same
  · exact fun same => ⟨stored, written, here, there, same⟩

/-- The three enumerators are the numbers 0 to 2. -/
theorem isEnumerator_iff {scope : NearObjectConnectionScope} : IsEnumerator scope ↔
    scope.value.toInt = 0 ∨ scope.value.toInt = 1 ∨ scope.value.toInt = 2 := by
  obtain ⟨value⟩ := scope
  simp only [IsEnumerator, NearObjectConnectionScope.unicast, NearObjectConnectionScope.multicast,
    NearObjectConnectionScope.unknown, NearObjectConnectionScope.mk.injEq, ← Int32.toInt_inj]
  rfl

theorem same_security_iff {security : Value Double} {read : Option NearObjectProfileSecurity}
    (decoded : optionalFromJson securityFromJson security = .ok read) :
    Same numbers security (optionalToJson securityToJson read) ↔
      security = .null ∨ security = .object [] := by
  constructor
  · intro same
    cases read with
    | none =>
      cases same with
      | refl => exact .inl rfl
    | some _ =>
      cases same with
      | refl => exact .inr rfl
  · rintro (rfl | rfl)
    · obtain rfl := Except.ok.inj decoded
      exact .refl _
    · obtain rfl := Except.ok.inj decoded
      exact .refl _

/-- **An entry is read as a genuine profile exactly where it could have been written.** -/
theorem genuineEntry_iff (documented : numbers.Documented)
    (decoded : profileFromJson numbers.toEnum entry = .ok profile) :
    GenuineEntry numbers entry profile ↔ Canonical numbers entry := by
  obtain ⟨scope, security, hasScope, hasSecurity, converts, reads⟩ :=
    (profileFromJson_eq_ok _).mp decoded
  have agreeScope : AgreeAt numbers "Scope" entry profile ↔
      Same numbers scope (.integer profile.scope.value.toInt) := agreeAt_iff hasScope rfl
  have agreeSecurity : AgreeAt numbers "Security" entry profile ↔
      Same numbers security (optionalToJson securityToJson profile.security) :=
    agreeAt_iff hasSecurity rfl
  rw [same_security_iff reads] at agreeSecurity
  constructor
  · rintro ⟨enumerator, sameScope, sameSecurity⟩
    refine ⟨⟨scope, hasScope, _, isEnumerator_iff.mp enumerator, agreeScope.mp sameScope⟩, ?_⟩
    rw [hasSecurity, Except.ok.injEq, Except.ok.injEq]
    exact agreeSecurity.mp sameSecurity
  · rintro ⟨⟨stored, here, number, small, same⟩, empty⟩
    obtain rfl := Except.ok.inj (hasScope.symm.trans here)
    rw [hasSecurity, Except.ok.injEq, Except.ok.injEq] at empty
    have cast : numbers.toEnum scope = .ok (Int32.ofInt number) := by
      cases same with
      | refl => exact documented.integer number
      | double value _ equal => exact documented.double value number equal (by omega) (by omega)
    have value : profile.scope.value.toInt = number := by
      rw [Except.ok.inj (converts.symm.trans cast)]
      rcases small with rfl | rfl | rfl <;> rfl
    rw [← value] at small same
    exact ⟨isEnumerator_iff.mpr small, agreeScope.mpr same, agreeSecurity.mpr empty⟩

/-! ### Documents -/

/-- Each entry is read as a profile of its own. -/
theorem forall₂_of_readDocument {json : Value Double} {profiles : List NearObjectProfile}
    (decoded : readDocument numbers json = .ok profiles) :
    List.Forall₂ (fun entry profile => profileFromJson numbers.toEnum entry = .ok profile)
      (entries json) profiles := by
  unfold readDocument at decoded
  cases json with
  | array elements =>
    cases elements with
    | nil =>
      obtain rfl := Except.ok.inj decoded
      exact .nil
    | cons first rest => exact forall₂_of_mapM decoded
  | null =>
    obtain rfl := Except.ok.inj decoded
    exact .nil
  | object members =>
    cases members with
    | nil =>
      obtain rfl := Except.ok.inj decoded
      exact .nil
    | cons first rest => cases decoded
  | _ => cases decoded

/-- **The profiles of a document are genuine exactly where each of its entries could have been
written.** -/
theorem genuine_iff {json : Value Double} {profiles : List NearObjectProfile}
    (documented : numbers.Documented) (decoded : readDocument numbers json = .ok profiles) :
    Genuine numbers json profiles ↔ ∀ entry ∈ entries json, Canonical numbers entry := by
  have each := forall₂_of_readDocument decoded
  unfold Genuine
  clear decoded
  generalize entries json = entries at each ⊢
  induction each with
  | nil => simp
  | cons here _ ih =>
    rw [List.forall₂_cons, List.forall_mem_cons]
    exact and_congr (genuineEntry_iff documented here) ih

end Library

/-! ### A library without doubles -/

/-- The conversion of `Text`, whose numbers are integers. -/
def integers : Numbers Empty :=
  .ofFormat text fun value _ => value.elim

theorem integers_documented : integers.Documented where
  integer := fun _ => rfl
  double := fun value => value.elim

/-- A document of two profiles, as they are written. -/
def written : Value Empty :=
  profilesToJson [⟨.multicast, some {}⟩, {}]

theorem genuine_written : Genuine integers written [⟨.multicast, some {}⟩, {}] := by
  have decoded : readDocument integers written = .ok [⟨.multicast, some {}⟩, {}] := rfl
  refine (genuine_iff integers_documented decoded).mpr fun entry member => ?_
  have cases : entry = profileToJson ⟨.multicast, some {}⟩ ∨ entry = profileToJson {} := by
    simpa [written, profilesToJson, entries] using member
  rcases cases with rfl | rfl
  · exact ⟨⟨.integer 1, rfl, 1, by decide, .refl _⟩, .inr rfl⟩
  · exact ⟨⟨.integer 0, rfl, 0, by decide, .refl _⟩, .inl rfl⟩

/-- A document whose entry has 7 for a scope, and a number for a security. -/
def seven : Value Empty :=
  .array [.object [("Scope", .integer 7), ("Security", .integer 5)]]

/-- It is read as a profile with a scope that is no enumerator, and that is written with another
security. -/
theorem seven_read :
    readPersistedProfiles text (.success (List Char)) (some (text.dump seven)) =
      .ok (.succeeded, [⟨⟨7⟩, some {}⟩]) ∧
    ¬ IsEnumerator ⟨7⟩ ∧ ¬ Genuine integers seven [⟨⟨7⟩, some {}⟩] := by
  have outside : ¬ IsEnumerator ⟨7⟩ := by
    rw [isEnumerator_iff]
    decide
  refine ⟨?_, outside, fun genuine => ?_⟩
  · rw [readPersistedProfiles_eq text fun value _ => value.elim,
      text_lawful Set.univ seven trivial]
    rfl
  · obtain ⟨first, -⟩ := List.forall₂_cons.mp genuine
    exact outside first.scope

end NearObject.Profile.Document
