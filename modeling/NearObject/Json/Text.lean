/-
**JSON text — an indented writer, and a reader that inverts it.**

The writer breaks the line before each element and member and indents by four blanks. The reader is
by recursive descent and skips white space; it spends one unit of fuel on each value, and the length
of the text is enough. The only escapes are those of the quote and the backslash, and there are no
doubles.

* `text_lawful` — what is written reads back.
-/

import NearObject.Json.Value

namespace Json

/-! ### Writing -/

section Write

/-- The line feed before an element, and the blanks of its line. -/
def newline (indent : Nat) : List Char :=
  '\n' :: List.replicate indent ' '

def escape : List Char → List Char
  | [] => []
  | char :: chars =>
    if char = '"' ∨ char = '\\' then '\\' :: char :: escape chars else char :: escape chars

def printString (value : String) : List Char :=
  '"' :: (escape value.toList ++ ['"'])

def printInteger : Int → List Char
  | .ofNat value => Nat.toDigits 10 value
  | .negSucc value => '-' :: Nat.toDigits 10 (value + 1)

mutual

def print (indent : Nat) : Value Empty → List Char
  | .null => ['n', 'u', 'l', 'l']
  | .boolean true => ['t', 'r', 'u', 'e']
  | .boolean false => ['f', 'a', 'l', 's', 'e']
  | .integer value => printInteger value
  | .double value => nomatch value
  | .string value => printString value
  | .array [] => ['[', ']']
  | .array (element :: elements) =>
    '[' :: (newline (indent + 4) ++ (print (indent + 4) element ++
      (printElements (indent + 4) elements ++ (newline indent ++ [']']))))
  | .object [] => ['{', '}']
  | .object (member :: members) =>
    '{' :: (newline (indent + 4) ++ (printMember (indent + 4) member ++
      (printMembers (indent + 4) members ++ (newline indent ++ ['}']))))

/-- The elements after the first. -/
def printElements (indent : Nat) : List (Value Empty) → List Char
  | [] => []
  | element :: elements =>
    ',' :: (newline indent ++ (print indent element ++ printElements indent elements))

def printMember (indent : Nat) : String × Value Empty → List Char
  | (key, value) => printString key ++ (':' :: ' ' :: print indent value)

/-- The members after the first. -/
def printMembers (indent : Nat) : List (String × Value Empty) → List Char
  | [] => []
  | member :: members =>
    ',' :: (newline indent ++ (printMember indent member ++ printMembers indent members))

end

end Write

/-! ### Reading -/

section Read

def isSpace (char : Char) : Bool :=
  char = ' ' || char = '\n' || char = '\r' || char = '\t'

/-- The text after its leading white space. -/
def skip : List Char → List Char
  | [] => []
  | char :: chars => if isSpace char then skip chars else char :: chars

/-- The rest of a string, after its opening quote. -/
def parseString : List Char → Option (List Char × List Char)
  | [] => none
  | '"' :: rest => some ([], rest)
  | '\\' :: char :: rest =>
    if char = '"' ∨ char = '\\' then
      (parseString rest).map fun (chars, rest) => (char :: chars, rest)
    else none
  | char :: rest => (parseString rest).map fun (chars, rest) => (char :: chars, rest)

def parseNat (text : List Char) : Option (Nat × List Char) :=
  match text.takeWhile Char.isDigit with
  | [] => none
  | digits => some (Nat.ofDigitChars 10 digits 0, text.dropWhile Char.isDigit)

/-- A value that begins with a letter. -/
def parseWord : List Char → Option (Value Empty × List Char)
  | 'n' :: 'u' :: 'l' :: 'l' :: rest => some (.null, rest)
  | 't' :: 'r' :: 'u' :: 'e' :: rest => some (.boolean true, rest)
  | 'f' :: 'a' :: 'l' :: 's' :: 'e' :: rest => some (.boolean false, rest)
  | _ => none

/-- The text after this character, if that is the next one. -/
def expect (char : Char) (text : List Char) : Option (List Char) :=
  match skip text with
  | [] => none
  | next :: rest => if next = char then some rest else none

mutual

def parseValue : Nat → List Char → Option (Value Empty × List Char)
  | 0, _ => none
  | fuel + 1, text => match skip text with
    | [] => none
    | char :: rest =>
      if char = '[' then match expect ']' rest with
        | some rest => some (.array [], rest)
        | none => do
          let (element, rest) ← parseValue fuel rest
          let (elements, rest) ← parseElements fuel rest
          some (.array (element :: elements), rest)
      else if char = '{' then match expect '}' rest with
        | some rest => some (.object [], rest)
        | none => do
          let (member, rest) ← parseMember fuel rest
          let (members, rest) ← parseMembers fuel rest
          some (.object (member :: members), rest)
      else if char = '"' then
        (parseString rest).map fun (chars, rest) => (.string (String.ofList chars), rest)
      else if char = '-' then
        (parseNat rest).map fun (value, rest) => (.integer (-value), rest)
      else if char.isDigit then
        (parseNat (char :: rest)).map fun (value, rest) => (.integer value, rest)
      else parseWord (char :: rest)

/-- The elements after the first, and the closing bracket. -/
def parseElements : Nat → List Char → Option (List (Value Empty) × List Char)
  | 0, _ => none
  | fuel + 1, text => match expect ']' text with
    | some rest => some ([], rest)
    | none => do
      let rest ← expect ',' text
      let (element, rest) ← parseValue fuel rest
      let (elements, rest) ← parseElements fuel rest
      some (element :: elements, rest)

def parseMember : Nat → List Char → Option ((String × Value Empty) × List Char)
  | 0, _ => none
  | fuel + 1, text => do
    let rest ← expect '"' text
    let (key, rest) ← parseString rest
    let rest ← expect ':' rest
    let (value, rest) ← parseValue fuel rest
    some ((String.ofList key, value), rest)

/-- The members after the first, and the closing brace. -/
def parseMembers : Nat → List Char → Option (List (String × Value Empty) × List Char)
  | 0, _ => none
  | fuel + 1, text => match expect '}' text with
    | some rest => some ([], rest)
    | none => do
      let rest ← expect ',' text
      let (member, rest) ← parseMember fuel rest
      let (members, rest) ← parseMembers fuel rest
      some (member :: members, rest)

end

/-- A whole text: one value, with white space around it. -/
def parse (text : List Char) : Except Exception (Value Empty) :=
  match parseValue (text.length + 1) text with
  | some (value, rest) => if skip rest = [] then .ok value else .error .parseError
  | none => .error .parseError

/-- JSON text without doubles. -/
def text : Format (List Char) Empty where
  parse := parse
  dump := print 0
  toInt32 := fun value => nomatch value

end Read

/-! ### Tokens -/

section Tokens

theorem skip_of_visible {char : Char} (visible : isSpace char = false) (rest : List Char) :
    skip (char :: rest) = char :: rest := by
  rw [skip, visible]
  rfl

theorem skip_newline (indent : Nat) (rest : List Char) :
    skip (newline indent ++ rest) = skip rest := by
  have blanks : skip (List.replicate indent ' ' ++ rest) = skip rest := by
    induction indent with
    | zero => rfl
    | succ indent ih => exact ih
  exact blanks

theorem parseValue_newline (fuel indent : Nat) (rest : List Char) :
    parseValue fuel (newline indent ++ rest) = parseValue fuel rest := by
  cases fuel with
  | zero => rfl
  | succ fuel => rw [parseValue, parseValue, skip_newline]

theorem parseValue_blank (fuel : Nat) (rest : List Char) :
    parseValue fuel (' ' :: rest) = parseValue fuel rest := by
  cases fuel with
  | zero => rfl
  | succ fuel => rfl

theorem expect_newline (char : Char) (indent : Nat) (rest : List Char) :
    expect char (newline indent ++ rest) = expect char rest := by
  rw [expect, expect, skip_newline]

theorem expect_self {char : Char} (visible : isSpace char = false) (rest : List Char) :
    expect char (char :: rest) = some rest := by
  rw [expect, skip_of_visible visible]
  exact if_pos rfl

theorem expect_other {char other : Char} (visible : isSpace other = false)
    (different : other ≠ char) (rest : List Char) : expect char (other :: rest) = none := by
  rw [expect, skip_of_visible visible]
  exact if_neg different

theorem parseString_escape (chars rest : List Char) :
    parseString (escape chars ++ '"' :: rest) = some (chars, rest) := by
  induction chars with
  | nil => rfl
  | cons char chars ih =>
    by_cases special : char = '"' ∨ char = '\\'
    · rw [escape, if_pos special, List.cons_append, List.cons_append, parseString,
        if_pos special, ih]
      rfl
    · obtain ⟨quote, backslash⟩ := not_or.mp special
      rw [escape, if_neg special, List.cons_append, parseString, ih]
      · rfl
      · exact quote
      · exact fun _ _ same => absurd same backslash

/-- The text goes on with something else than a digit. -/
def Ends (rest : List Char) : Prop :=
  ∀ char ∈ rest.head?, char.isDigit = false

theorem toDigits_cons (value : Nat) :
    ∃ digit digits, Nat.toDigits 10 value = digit :: digits ∧ digit.isDigit = true := by
  cases shape : Nat.toDigits 10 value with
  | nil => exact absurd shape Nat.toDigits_ne_nil
  | cons digit digits =>
    refine ⟨digit, digits, rfl, Nat.isDigit_of_mem_toDigits (b := 10) (n := value) ?_ ?_ ?_⟩
    · decide
    · decide
    · rw [shape]
      exact List.mem_cons_self

theorem parseNat_toDigits {rest : List Char} (ends : Ends rest) (value : Nat) :
    parseNat (Nat.toDigits 10 value ++ rest) = some (value, rest) := by
  have digits : ∀ char ∈ Nat.toDigits 10 value, char.isDigit = true := fun char member =>
    Nat.isDigit_of_mem_toDigits (by decide) (by decide) member
  have none : rest.takeWhile Char.isDigit = [] := by
    cases rest with
    | nil => rfl
    | cons char rest => rw [List.takeWhile_cons, ends char rfl, if_neg Bool.false_ne_true]
  have all : rest.dropWhile Char.isDigit = rest := by
    cases rest with
    | nil => rfl
    | cons char rest => rw [List.dropWhile_cons, ends char rfl, if_neg Bool.false_ne_true]
  rw [parseNat, List.takeWhile_append_of_pos digits, List.dropWhile_append_of_pos digits, none, all,
    List.append_nil]
  obtain ⟨digit, tail, shape, -⟩ := toDigits_cons value
  rw [shape]
  show some (Nat.ofDigitChars 10 (digit :: tail) 0, rest) = _
  rw [← shape, Nat.ofDigitChars_ten_toDigits]

end Tokens

/-! ### Reading what was written -/

section Inverse

theorem printString_append (value : String) (rest : List Char) :
    printString value ++ rest = '"' :: (escape value.toList ++ '"' :: rest) := by
  rw [printString, List.cons_append, List.append_assoc]
  rfl

/-- The first character of a value. -/
theorem print_cons (indent : Nat) (value : Value Empty) : ∃ char chars,
    print indent value = char :: chars ∧ isSpace char = false ∧ char ≠ ']' := by
  cases value with
  | null => exact ⟨_, _, rfl, rfl, by decide⟩
  | boolean value => cases value <;> exact ⟨_, _, rfl, rfl, by decide⟩
  | integer value =>
    cases value with
    | ofNat value =>
      obtain ⟨digit, digits, shape, isDigit⟩ := toDigits_cons value
      refine ⟨digit, digits, shape, ?_, ?_⟩
      · cases space : isSpace digit with
        | false => rfl
        | true =>
          simp only [isSpace, Bool.or_eq_true, decide_eq_true_eq] at space
          rcases space with ((rfl | rfl) | rfl) | rfl <;> cases isDigit
      · rintro rfl
        cases isDigit
    | negSucc value => exact ⟨_, _, rfl, rfl, by decide⟩
  | double value => exact nomatch value
  | string value => exact ⟨_, _, rfl, rfl, by decide⟩
  | array elements => cases elements <;> exact ⟨_, _, rfl, rfl, by decide⟩
  | object members => cases members <;> exact ⟨_, _, rfl, rfl, by decide⟩

theorem parseValue_integer {rest : List Char} (ends : Ends rest) (fuel : Nat) (value : Int) :
    parseValue (fuel + 1) (printInteger value ++ rest) = some (.integer value, rest) := by
  cases value with
  | ofNat value =>
    obtain ⟨char, chars, shape, visible, -⟩ := print_cons 0 (.integer (.ofNat value))
    obtain ⟨digit, digits, shape', isDigit⟩ := toDigits_cons value
    have same : Nat.toDigits 10 value = char :: chars := shape
    obtain ⟨rfl, rfl⟩ := List.cons.inj (shape'.symm.trans same)
    have read := parseNat_toDigits ends value
    rw [printInteger, shape', List.cons_append] at *
    rw [parseValue, skip_of_visible visible]
    have other : ∀ char : Char, char.isDigit = false → digit ≠ char := by
      intro char none same
      rw [same, none] at isDigit
      cases isDigit
    simp only [if_neg (other '[' rfl), if_neg (other '{' rfl), if_neg (other '"' rfl),
      if_neg (other '-' rfl), if_pos isDigit, read]
    rfl
  | negSucc value =>
    rw [printInteger, List.cons_append, parseValue, skip_of_visible rfl]
    show (parseNat _).map _ = _
    rw [parseNat_toDigits ends]
    rfl

theorem ends_of_visible {char : Char} (other : char.isDigit = false) (rest : List Char) :
    Ends (char :: rest) := by
  intro first here
  obtain rfl := Option.some.inj here
  exact other

theorem ends_elements (indent indent' : Nat) (elements : List (Value Empty)) (rest : List Char) :
    Ends (printElements indent elements ++ (newline indent' ++ rest)) := by
  cases elements <;> exact ends_of_visible rfl _

theorem ends_members (indent indent' : Nat) (members : List (String × Value Empty))
    (rest : List Char) : Ends (printMembers indent members ++ (newline indent' ++ rest)) := by
  cases members <;> exact ends_of_visible rfl _

section Steps

variable {fuel indent : Nat} {text after rest : List Char}

theorem parseValue_array {element : Value Empty} {elements : List (Value Empty)}
    (starts : ∃ char chars, text = char :: chars ∧ isSpace char = false ∧ char ≠ ']')
    (first : parseValue fuel text = some (element, after))
    (others : parseElements fuel after = some (elements, rest)) :
    parseValue (fuel + 1) ('[' :: (newline indent ++ text)) =
      some (.array (element :: elements), rest) := by
  obtain ⟨char, chars, rfl, visible, different⟩ := starts
  rw [parseValue, skip_of_visible rfl]
  simp only [if_true, expect_newline, expect_other visible different, parseValue_newline, first]
  show (parseElements _ _).bind _ = _
  rw [others]
  rfl

theorem parseValue_object {member : String × Value Empty} {members : List (String × Value Empty)}
    (first : parseMember fuel (newline indent ++ '"' :: text) = some (member, after))
    (others : parseMembers fuel after = some (members, rest)) :
    parseValue (fuel + 1) ('{' :: (newline indent ++ '"' :: text)) =
      some (.object (member :: members), rest) := by
  have unclosed : expect '}' (newline indent ++ '"' :: text) = none := by
    rw [expect_newline, expect_other rfl (by decide)]
  rw [parseValue, skip_of_visible rfl]
  simp only [if_neg (show '{' ≠ '[' by decide), if_true, unclosed, first]
  show (parseMembers _ _).bind _ = _
  rw [others]
  rfl

theorem parseElements_cons {element : Value Empty} {elements : List (Value Empty)}
    (first : parseValue fuel text = some (element, after))
    (others : parseElements fuel after = some (elements, rest)) :
    parseElements (fuel + 1) (',' :: (newline indent ++ text)) =
      some (element :: elements, rest) := by
  rw [parseElements, expect_other rfl (by decide), expect_self rfl]
  show (parseValue _ _).bind _ = _
  rw [parseValue_newline, first]
  show (parseElements _ _).bind _ = _
  rw [others]
  rfl

theorem parseMembers_cons {member : String × Value Empty} {members : List (String × Value Empty)}
    (first : parseMember fuel (newline indent ++ text) = some (member, after))
    (others : parseMembers fuel after = some (members, rest)) :
    parseMembers (fuel + 1) (',' :: (newline indent ++ text)) =
      some (member :: members, rest) := by
  rw [parseMembers, expect_other rfl (by decide), expect_self rfl]
  show (parseMember _ _).bind _ = _
  rw [first]
  show (parseMembers _ _).bind _ = _
  rw [others]
  rfl

theorem parseMember_newline :
    parseMember fuel (newline indent ++ text) = parseMember fuel text := by
  cases fuel with
  | zero => rfl
  | succ fuel => rw [parseMember, parseMember, expect_newline]

theorem parseMember_pair {key : String} {value : Value Empty}
    (read : parseValue fuel (' ' :: text) = some (value, rest)) :
    parseMember (fuel + 1) ('"' :: (escape key.toList ++ '"' :: (':' :: ' ' :: text))) =
      some ((key, value), rest) := by
  rw [parseMember, expect_self rfl]
  show (parseString _).bind _ = _
  rw [parseString_escape, Option.bind_some]
  show (expect ':' (':' :: ' ' :: text)).bind _ = _
  rw [expect_self rfl]
  show (parseValue fuel (' ' :: text)).bind _ = _
  rw [read]
  show some ((String.ofList key.toList, value), rest) = _
  rw [String.ofList_toList]

end Steps

-- on the value, the rest of an array and that of an object; the fuel covers the text still to read
mutual

theorem parse_print (value : Value Empty) (indent fuel : Nat) (rest : List Char)
    (enough : (print indent value).length ≤ fuel) (ends : Ends rest) :
    parseValue fuel (print indent value ++ rest) = some (value, rest) := by
  cases fuel with
  | zero =>
    obtain ⟨char, chars, shape, -⟩ := print_cons indent value
    simp [shape] at enough
  | succ fuel =>
    cases value with
    | null => rfl
    | boolean value => cases value <;> rfl
    | integer value => exact parseValue_integer ends fuel value
    | double value => exact nomatch value
    | string value =>
      rw [print, printString_append, parseValue, skip_of_visible rfl]
      show (parseString _).map _ = _
      rw [parseString_escape]
      simp
    | array elements =>
      cases elements with
      | nil => rfl
      | cons element elements =>
        simp only [print, List.length_cons, List.length_append, newline] at enough
        simp only [print, List.cons_append, List.append_assoc, List.nil_append]
        refine parseValue_array ?_
          (parse_print element (indent + 4) fuel _ (by omega) (ends_elements _ _ _ _))
          (parse_elements elements (indent + 4) indent fuel rest (by omega))
        obtain ⟨char, chars, shape, visible, different⟩ := print_cons (indent + 4) element
        exact ⟨char, _, by rw [shape, List.cons_append], visible, different⟩
    | object members =>
      cases members with
      | nil => rfl
      | cons member members =>
        simp only [print, List.length_cons, List.length_append, newline] at enough
        have first := parse_member member (indent + 4) fuel _ (by omega)
          (ends_members (indent + 4) indent members ('}' :: rest))
        have others := parse_members members (indent + 4) indent fuel rest (by omega)
        obtain ⟨key, value⟩ := member
        simp only [print, printMember, List.cons_append, List.append_assoc, List.nil_append,
          printString_append] at first ⊢
        exact parseValue_object (parseMember_newline.trans first) others

theorem parse_elements (elements : List (Value Empty)) (indent indent' fuel : Nat)
    (rest : List Char) (enough : (printElements indent elements).length < fuel) :
    parseElements fuel (printElements indent elements ++ (newline indent' ++ ']' :: rest)) =
      some (elements, rest) := by
  cases fuel with
  | zero => exact absurd enough (Nat.not_lt_zero _)
  | succ fuel =>
    cases elements with
    | nil =>
      rw [printElements, List.nil_append, parseElements, expect_newline, expect_self rfl]
    | cons element elements =>
      simp only [printElements, List.length_cons, List.length_append, newline] at enough
      simp only [printElements, List.cons_append, List.append_assoc]
      exact parseElements_cons
        (parse_print element indent fuel _ (by omega) (ends_elements _ _ _ _))
        (parse_elements elements indent indent' fuel rest (by omega))

theorem parse_member (member : String × Value Empty) (indent fuel : Nat)
    (rest : List Char) (enough : (printMember indent member).length ≤ fuel) (ends : Ends rest) :
    parseMember fuel (printMember indent member ++ rest) = some (member, rest) := by
  obtain ⟨key, value⟩ := member
  simp only [printMember, printString, List.length_cons, List.length_append] at enough
  cases fuel with
  | zero => omega
  | succ fuel =>
    simp only [printMember, List.append_assoc, printString_append, List.cons_append]
    exact parseMember_pair ((parseValue_blank _ _).trans
      (parse_print value indent fuel rest (by omega) ends))

theorem parse_members (members : List (String × Value Empty)) (indent indent' fuel : Nat)
    (rest : List Char) (enough : (printMembers indent members).length < fuel) :
    parseMembers fuel (printMembers indent members ++ (newline indent' ++ '}' :: rest)) =
      some (members, rest) := by
  cases fuel with
  | zero => exact absurd enough (Nat.not_lt_zero _)
  | succ fuel =>
    cases members with
    | nil =>
      rw [printMembers, List.nil_append, parseMembers, expect_newline, expect_self rfl]
    | cons member members =>
      simp only [printMembers, List.length_cons, List.length_append, newline] at enough
      simp only [printMembers, List.cons_append, List.append_assoc]
      exact parseMembers_cons
        (parseMember_newline.trans
          (parse_member member indent fuel _ (by omega) (ends_members _ _ _ _)))
        (parse_members members indent indent' fuel rest (by omega))

end

/-- **What is written reads back.** -/
theorem text_lawful (values : Set (Value Empty)) : text.Lawful values := by
  intro value _
  have read := parse_print value 0 ((print 0 value).length + 1) [] (Nat.le_succ _)
    fun _ none => by cases none
  rw [List.append_nil] at read
  show parse (print 0 value) = _
  rw [parse, read]
  rfl

end Inverse

end Json
