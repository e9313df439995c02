/-
**Profiles as JSON.**

The serializers of `NearObjectProfileJsonSerializer` and of `std::optional`. A profile becomes an
object of its scope and its security; an absent security is `null`, and a present one the empty
object, so that the two never collide. Reading is more lenient: any number is a scope, and any
value but `null` is a security.

* `profiles_round_trip` — a list of profiles reads back.
* `profiles_isOk_iff` — what reads as a list of profiles.
-/

import NearObject.Json.Value

namespace NearObject.Profile

open Json

/-! ### Profiles -/

/-- An `enum class` over `int`, three values of which have names; a value that is read from JSON may
be any other. -/
structure NearObjectConnectionScope where
  value : Int32
  deriving DecidableEq, Repr

namespace NearObjectConnectionScope

def unicast : NearObjectConnectionScope := ⟨0⟩
def multicast : NearObjectConnectionScope := ⟨1⟩
def unknown : NearObjectConnectionScope := ⟨2⟩

end NearObjectConnectionScope

/-- It has no members. -/
structure NearObjectProfileSecurity where
  deriving DecidableEq, Repr

structure NearObjectProfile where
  scope : NearObjectConnectionScope := .unicast
  security : Option NearObjectProfileSecurity := none
  deriving DecidableEq, Repr

/-! ### Writing -/

section Write

variable {Double : Type}

/-- `to_json` of an enumeration. -/
def scopeToJson (scope : NearObjectConnectionScope) : Value Double :=
  .integer scope.value.toInt

/-- `to_json(json&, const NearObjectProfileSecurity&)`. -/
def securityToJson (_security : NearObjectProfileSecurity) : Value Double :=
  .object []

/-- `adl_serializer<std::optional<T>>::to_json`. -/
def optionalToJson {T : Type} (toJson : T → Value Double) : Option T → Value Double
  | none => .null
  | some value => toJson value

/-- `to_json(json&, const NearObjectProfile&)`. -/
def profileToJson (profile : NearObjectProfile) : Value Double :=
  .object [("Scope", scopeToJson profile.scope),
    ("Security", optionalToJson securityToJson profile.security)]

/-- `nlohmann::json(profiles)`. -/
def profilesToJson (profiles : List NearObjectProfile) : Value Double :=
  .array (profiles.map profileToJson)

/-- The values that are written to a file. -/
def Written : Set (Value Double) :=
  Set.range profilesToJson

end Write

/-! ### Reading -/

section Read

variable {Double : Type} (toEnum : Value Double → Except Exception Int32)

/-- `from_json` of an enumeration; `toEnum` is how the library casts a value to an `enum class` over
`int`. -/
def scopeFromJson (value : Value Double) : Except Exception NearObjectConnectionScope :=
  (toEnum value).map NearObjectConnectionScope.mk

/-- `from_json(const json&, NearObjectProfileSecurity&)`, which reads nothing. -/
def securityFromJson (_value : Value Double) : Except Exception NearObjectProfileSecurity :=
  .ok {}

/-- `adl_serializer<std::optional<T>>::from_json`. -/
def optionalFromJson {T : Type} (fromJson : Value Double → Except Exception T) :
    Value Double → Except Exception (Option T)
  | .null => .ok none
  | value => (fromJson value).map some

/-- `from_json(const json&, NearObjectProfile&)`. -/
def profileFromJson (value : Value Double) : Except Exception NearObjectProfile := do
  let scope ← scopeFromJson toEnum (← value.at "Scope")
  let security ← optionalFromJson securityFromJson (← value.at "Security")
  return { scope, security }

/-- `json.get<std::vector<NearObjectProfile>>()`. -/
def profilesFromJson (value : Value Double) : Except Exception (List NearObjectProfile) := do
  (← value.elements).mapM (profileFromJson toEnum)

/-- What is read of an entry. -/
theorem profileFromJson_eq_ok {value : Value Double} {profile : NearObjectProfile} :
    profileFromJson toEnum value = .ok profile ↔ ∃ scope security,
      value.at "Scope" = .ok scope ∧ value.at "Security" = .ok security ∧
        toEnum scope = .ok profile.scope.value ∧
        optionalFromJson securityFromJson security = .ok profile.security := by
  unfold profileFromJson scopeFromJson
  simp only [bind_eq_ok, map_eq_ok, pure, Except.pure, Except.ok.injEq]
  constructor
  · rintro ⟨scope, hasScope, _, ⟨_, converts, rfl⟩, security, hasSecurity, _, reads, rfl⟩
    exact ⟨scope, security, hasScope, hasSecurity, converts, reads⟩
  · rintro ⟨scope, security, hasScope, hasSecurity, converts, reads⟩
    exact ⟨scope, hasScope, _, ⟨_, converts, rfl⟩, security, hasSecurity, _, reads, rfl⟩

end Read

/-! ### Reading what was written -/

section Lenient

variable {Content Double : Type} (format : Format Content Double)

omit format in
theorem security_round_trip (security : Option NearObjectProfileSecurity) :
    optionalFromJson securityFromJson
      (optionalToJson securityToJson security : Value Double) = .ok security := by
  cases security <;> rfl

theorem profile_round_trip (profile : NearObjectProfile) :
    profileFromJson (Value.int32 format) (profileToJson profile) = .ok profile := by
  refine (profileFromJson_eq_ok _).mpr ⟨scopeToJson profile.scope,
    optionalToJson securityToJson profile.security, rfl, rfl, ?_, security_round_trip _⟩
  rw [scopeToJson, Value.int32, Int32.ofInt_toInt]

/-- **A list of profiles reads back.** -/
theorem profiles_round_trip (profiles : List NearObjectProfile) :
    profilesFromJson (Value.int32 format) (profilesToJson profiles) = .ok profiles :=
  mapM_of_inverse (profile_round_trip format) profiles

/-! ### What reads as profiles -/

/-- An object with a number for a scope, and with a security. -/
def Accepted (value : Value Double) : Prop :=
  ∃ members scope security, value = .object members ∧ members.lookup "Scope" = some scope ∧
    scope.IsNumber ∧ members.lookup "Security" = some security

omit format in
theorem accepted_iff (value : Value Double) :
    Accepted value ↔ (∃ scope, value.at "Scope" = .ok scope ∧ scope.IsNumber) ∧
      ∃ security, value.at "Security" = .ok security := by
  simp only [at_eq_ok]
  constructor
  · rintro ⟨members, scope, security, rfl, hasScope, number, hasSecurity⟩
    exact ⟨⟨scope, ⟨members, rfl, hasScope⟩, number⟩, security, members, rfl, hasSecurity⟩
  · rintro ⟨⟨scope, ⟨members, rfl, hasScope⟩, number⟩, security, others, same, hasSecurity⟩
    obtain rfl := Value.object.inj same
    exact ⟨members, scope, security, rfl, hasScope, number, hasSecurity⟩

omit format in
theorem optional_security (value : Value Double) :
    ∃ security, optionalFromJson securityFromJson value = .ok security := by
  cases value <;> exact ⟨_, rfl⟩

theorem profile_isOk_iff (value : Value Double) :
    (∃ profile, profileFromJson (Value.int32 format) value = .ok profile) ↔ Accepted value := by
  rw [accepted_iff]
  constructor
  · rintro ⟨profile, decoded⟩
    obtain ⟨scope, security, hasScope, hasSecurity, converts, -⟩ :=
      (profileFromJson_eq_ok _).mp decoded
    exact ⟨⟨scope, hasScope, (int32_isOk_iff format scope).mp ⟨_, converts⟩⟩, security, hasSecurity⟩
  · rintro ⟨⟨scope, hasScope, number⟩, security, hasSecurity⟩
    obtain ⟨converted, converts⟩ := (int32_isOk_iff format scope).mpr number
    obtain ⟨read, reads⟩ := optional_security security
    exact ⟨⟨⟨converted⟩, read⟩, (profileFromJson_eq_ok _).mpr
      ⟨scope, security, hasScope, hasSecurity, converts, reads⟩⟩

/-- **What reads as a list of profiles** is an array of objects, each with a number for a scope and
with a security. -/
theorem profiles_isOk_iff (value : Value Double) :
    (∃ profiles, profilesFromJson (Value.int32 format) value = .ok profiles) ↔
      ∃ elements, value = .array elements ∧ ∀ element ∈ elements, Accepted element := by
  cases value with
  | array elements =>
    show (∃ profiles, elements.mapM (profileFromJson (Value.int32 format)) = .ok profiles) ↔ _
    rw [mapM_isOk_iff]
    simp only [profile_isOk_iff, Value.array.injEq, exists_eq_left']
  | _ => exact ⟨fun ⟨_, same⟩ => (by cases same), fun ⟨_, same, _⟩ => (by cases same)⟩

end Lenient

end NearObject.Profile
