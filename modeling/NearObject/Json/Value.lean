/-
**JSON values — what they are, and how a program reads them.**

The values and their accessors stand for those of a JSON library. A value is read by accessors that
throw: a value of another type is a `typeError`, a key that an object lacks is `outOfRange`.
`Format` is a way to read and write values as text, over any type of texts; what a program relies on
is that the values that it writes read back (`Format.Lawful`).

* `mapM_of_inverse` — lists whose elements are written and read back one by one.
* `mapM_isOk_iff`, `forall₂_of_mapM` — a list is read exactly where each of its elements is, and
  element by element.
-/

import Mathlib.Data.List.Basic
import Mathlib.Data.Set.Operations

namespace Json

/-! ### Values -/

/-- Numbers are integers, or doubles of a type that is left open. -/
inductive Value (Double : Type)
  | null
  | boolean (value : Bool)
  | integer (value : Int)
  | double (value : Double)
  | string (value : String)
  | array (elements : List (Value Double))
  | object (members : List (String × Value Double))

/-- What the accessors and the parser throw. -/
inductive Exception
  | parseError
  | typeError
  | outOfRange
  deriving DecidableEq, Repr

section Accessors

variable {Content Double : Type}

/-- `basic_json::empty` of the library: no element and no member; a scalar other than `null` is not
empty. -/
def Value.empty : Value Double → Bool
  | .null => true
  | .array elements => elements.isEmpty
  | .object members => members.isEmpty
  | _ => false

/-- `basic_json::at` of the library: the member of an object at this key. -/
def Value.at (key : String) : Value Double → Except Exception (Value Double)
  | .object members => match members.lookup key with
    | some member => .ok member
    | none => .error .outOfRange
  | _ => .error .typeError

/-- The elements of an array, as the library reads a `std::vector`. -/
def Value.elements : Value Double → Except Exception (List (Value Double))
  | .array elements => .ok elements
  | _ => .error .typeError

/-- A value is a number. -/
def Value.IsNumber : Value Double → Prop
  | .integer _ | .double _ => True
  | _ => False

/-- Reading and writing of texts, and the conversion of a double to an integer. -/
structure Format (Content Double : Type) where
  parse : Content → Except Exception (Value Double)
  dump : Value Double → Content
  toInt32 : Double → Int32

/-- Each of these values reads back when it is written. -/
def Format.Lawful (format : Format Content Double) (values : Set (Value Double)) : Prop :=
  ∀ value ∈ values, format.parse (format.dump value) = .ok value

/-- A number, converted to 32 bits as the library reads an `int`. -/
def Value.int32 (format : Format Content Double) : Value Double → Except Exception Int32
  | .integer value => .ok (Int32.ofInt value)
  | .double value => .ok (format.toInt32 value)
  | _ => .error .typeError

theorem int32_isOk_iff (format : Format Content Double) (value : Value Double) :
    (∃ read, value.int32 format = .ok read) ↔ value.IsNumber := by
  cases value <;> simp [Value.int32, Value.IsNumber]

theorem at_eq_ok {key : String} {value member : Value Double} :
    value.at key = .ok member ↔
      ∃ members, value = .object members ∧ members.lookup key = some member := by
  cases value with
  | object members =>
    simp only [Value.at, Value.object.injEq, exists_eq_left']
    cases members.lookup key <;> simp
  | _ => simp [Value.at]

end Accessors

/-! ### Sequences -/

section Sequences

variable {α β : Type} {b : β} {first : Except Exception α}

theorem bind_eq_ok {next : α → Except Exception β} :
    (first >>= next) = .ok b ↔ ∃ a, first = .ok a ∧ next a = .ok b := by
  cases first <;> simp [bind, Except.bind]

theorem map_eq_ok {f : α → β} : first.map f = .ok b ↔ ∃ a, first = .ok a ∧ f a = b := by
  cases first <;> simp [Except.map]

end Sequences

/-! ### Lists -/

section Lists

variable {α β : Type}

theorem mapM_of_inverse {write : α → β} {read : β → Except Exception α}
    (inverse : ∀ a, read (write a) = .ok a) (entries : List α) :
    (entries.map write).mapM read = .ok entries := by
  induction entries with
  | nil => rfl
  | cons first rest ih =>
    rw [List.map_cons, List.mapM_cons, inverse, ih]
    rfl

theorem mapM_isOk_iff {read : β → Except Exception α} {texts : List β} :
    (∃ entries, texts.mapM read = .ok entries) ↔
      ∀ text ∈ texts, ∃ entry, read text = .ok entry := by
  induction texts with
  | nil => exact ⟨fun _ _ member => absurd member List.not_mem_nil, fun _ => ⟨[], rfl⟩⟩
  | cons first rest ih =>
    rw [List.forall_mem_cons, ← ih, List.mapM_cons]
    cases head : read first with
    | error exception =>
      exact ⟨fun ⟨_, same⟩ => (by cases same), fun ⟨⟨_, same⟩, _⟩ => (by cases same)⟩
    | ok entry =>
      cases tail : rest.mapM read with
      | error exception =>
        exact ⟨fun ⟨_, same⟩ => (by cases same), fun ⟨_, _, same⟩ => (by cases same)⟩
      | ok entries => exact ⟨fun _ => ⟨⟨_, rfl⟩, _, rfl⟩, fun _ => ⟨_, rfl⟩⟩

/-- What is read from a list is read from its elements, one by one. -/
theorem forall₂_of_mapM {read : β → Except Exception α} {texts : List β} {entries : List α}
    (done : texts.mapM read = .ok entries) :
    List.Forall₂ (fun text entry => read text = .ok entry) texts entries := by
  induction texts generalizing entries with
  | nil =>
    obtain rfl := Except.ok.inj done
    exact .nil
  | cons first rest ih =>
    rw [List.mapM_cons] at done
    cases head : read first with
    | error exception =>
      rw [head] at done
      cases done
    | ok entry =>
      cases tail : rest.mapM read with
      | error exception =>
        rw [head, tail] at done
        cases done
      | ok others =>
        rw [head, tail] at done
        obtain rfl := Except.ok.inj done
        exact .cons head (ih tail)

end Lists

end Json
