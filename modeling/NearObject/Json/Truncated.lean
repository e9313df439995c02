/-
**Truncated JSON texts.**

A text of an array that is cut off somewhere is no text (`Format.Delimited`). For the concrete
reader this is a matter of what it looks at: a value that it has read, and that does not end in a
number at the end of the text, it reads in the same way from any longer text, and with more fuel.

* `reads_longer` — what is read is read from a longer text.
* `text_delimited` — so no proper beginning of the text of an array is read.
-/

import NearObject.Json.Text

namespace Json

/-- The text of an array is not read without its end. -/
def Format.Delimited {Symbol Double : Type} (format : Format (List Symbol) Double) : Prop :=
  ∀ elements text more, format.dump (.array elements) = text ++ more → more ≠ [] →
    ∀ value, format.parse text ≠ .ok value

/-! ### Tokens of a longer text -/

section Tokens

variable {text rest more : List Char} {char : Char}

theorem skip_append (shape : skip text = char :: rest) :
    skip (text ++ more) = char :: (rest ++ more) := by
  induction text with
  | nil => cases shape
  | cons first text ih =>
    rw [List.cons_append, skip]
    unfold skip at shape
    split at shape
    · rename_i space
      rw [if_pos space]
      exact ih shape
    · rename_i visible
      rw [if_neg visible]
      obtain ⟨rfl, rfl⟩ := List.cons.inj shape
      rfl

theorem expect_append (found : expect char text = some rest) :
    expect char (text ++ more) = some (rest ++ more) := by
  unfold expect at found ⊢
  cases shape : skip text with
  | nil =>
    rw [shape] at found
    cases found
  | cons first others =>
    rw [shape] at found
    obtain ⟨same, found⟩ := Option.ite_none_right_eq_some.mp found
    obtain rfl := Option.some.inj found
    rw [skip_append shape]
    exact if_pos same

/-- A text that goes on with another character does so when it is longer. -/
theorem expect_none_append {first : Char} (shape : skip text = first :: rest)
    (missing : expect char text = none) : expect char (text ++ more) = none := by
  simp only [expect, shape, skip_append shape] at missing ⊢
  exact if_neg fun same => by simp [same] at missing

theorem parseString_append {text chars rest more : List Char}
    (read : parseString text = some (chars, rest)) :
    parseString (text ++ more) = some (chars, rest ++ more) := by
  fun_induction parseString text generalizing chars rest with
  | case1 => cases read
  | case2 after =>
    obtain ⟨rfl, rfl⟩ := Prod.mk.inj (Option.some.inj read)
    rfl
  | case3 char after special ih =>
    obtain ⟨⟨tail, others⟩, found, same⟩ := Option.map_eq_some_iff.mp read
    obtain ⟨rfl, rfl⟩ := Prod.mk.inj same
    rw [List.cons_append, List.cons_append, parseString, if_pos special, ih found]
    rfl
  | case4 => cases read
  | case5 char after quote escaped ih =>
    obtain ⟨⟨tail, others⟩, found, same⟩ := Option.map_eq_some_iff.mp read
    obtain ⟨rfl, rfl⟩ := Prod.mk.inj same
    have plain : char ≠ '\\' := by
      intro backslash
      cases after with
      | nil => cases found
      | cons next after => exact escaped next after backslash rfl
    rw [List.cons_append, parseString, ih found]
    · rfl
    · exact quote
    · exact fun _ _ backslash => absurd backslash plain

/-- A number that is followed by something ends there. -/
theorem parseNat_append {value : Nat} (read : parseNat text = some (value, rest))
    (followed : rest ≠ []) : parseNat (text ++ more) = some (value, rest ++ more) := by
  have left : text.dropWhile Char.isDigit = rest := by
    simp only [parseNat] at read
    split at read
    · cases read
    · exact (Prod.mk.inj (Option.some.inj read)).2
  have digits : (text ++ more).takeWhile Char.isDigit = text.takeWhile Char.isDigit := by
    rw [List.takeWhile_append, if_neg]
    intro all
    have whole := congrArg List.length
      (List.takeWhile_append_dropWhile (p := Char.isDigit) (l := text))
    rw [List.length_append, all, left] at whole
    exact followed (List.length_eq_zero_iff.mp (by omega))
  have others : (text ++ more).dropWhile Char.isDigit = rest ++ more := by
    rw [List.dropWhile_append, left, if_neg (by simpa using followed)]
  simp only [parseNat] at read ⊢
  rw [digits, others]
  split at read
  · cases read
  · rename_i nonempty
    obtain ⟨rfl, -⟩ := Prod.mk.inj (Option.some.inj read)
    rfl

theorem parseWord_append {value : Value Empty} (read : parseWord text = some (value, rest)) :
    parseWord (text ++ more) = some (value, rest ++ more) := by
  rw [parseWord.eq_def] at read
  split at read
  · obtain ⟨rfl, rfl⟩ := Prod.mk.inj (Option.some.inj read)
    rfl
  · obtain ⟨rfl, rfl⟩ := Prod.mk.inj (Option.some.inj read)
    rfl
  · obtain ⟨rfl, rfl⟩ := Prod.mk.inj (Option.some.inj read)
    rfl
  · cases read

end Tokens

/-! ### Values of a longer text -/

section Forms

variable {fuel : Nat} {text rest : List Char}

theorem parseElements_succ {elements : List (Value Empty)} :
    parseElements (fuel + 1) text = some (elements, rest) ↔
      (expect ']' text = some rest ∧ elements = []) ∨
      (expect ']' text = none ∧ ∃ comma element after others, expect ',' text = some comma ∧
        parseValue fuel comma = some (element, after) ∧
          parseElements fuel after = some (others, rest) ∧ elements = element :: others) := by
  rw [parseElements]
  cases expect ']' text with
  | some closed => simp [eq_comm (b := elements), and_comm]
  | none => simp [Option.bind_eq_some_iff, eq_comm (b := elements)]

theorem parseMembers_succ {members : List (String × Value Empty)} :
    parseMembers (fuel + 1) text = some (members, rest) ↔
      (expect '}' text = some rest ∧ members = []) ∨
      (expect '}' text = none ∧ ∃ comma member after others, expect ',' text = some comma ∧
        parseMember fuel comma = some (member, after) ∧
          parseMembers fuel after = some (others, rest) ∧ members = member :: others) := by
  rw [parseMembers]
  cases expect '}' text with
  | some closed => simp [eq_comm (b := members), and_comm]
  | none => simp [Option.bind_eq_some_iff, eq_comm (b := members)]

theorem parseMember_succ {member : String × Value Empty} :
    parseMember (fuel + 1) text = some (member, rest) ↔
      ∃ quoted key named colon value, expect '"' text = some quoted ∧
        parseString quoted = some (key, named) ∧ expect ':' named = some colon ∧
          parseValue fuel colon = some (value, rest) ∧ member = (String.ofList key, value) := by
  unfold parseMember
  simp [Option.bind_eq_some_iff, eq_comm (b := member)]

variable {others : List Char} {value : Value Empty}

theorem parseValue_bracket (shape : skip text = '[' :: others) :
    parseValue (fuel + 1) text = some (value, rest) ↔
      (expect ']' others = some rest ∧ value = .array []) ∨
      (expect ']' others = none ∧ ∃ element after elements,
        parseValue fuel others = some (element, after) ∧
          parseElements fuel after = some (elements, rest) ∧
            value = .array (element :: elements)) := by
  simp only [parseValue, shape, if_true]
  cases expect ']' others with
  | some closed => simp [eq_comm (b := value), and_comm]
  | none => simp [Option.bind_eq_some_iff, eq_comm (b := value)]

theorem parseValue_brace (shape : skip text = '{' :: others) :
    parseValue (fuel + 1) text = some (value, rest) ↔
      (expect '}' others = some rest ∧ value = .object []) ∨
      (expect '}' others = none ∧ ∃ member after members,
        parseMember fuel others = some (member, after) ∧
          parseMembers fuel after = some (members, rest) ∧
            value = .object (member :: members)) := by
  simp only [parseValue, shape, if_neg (show '{' ≠ '[' by decide), if_true]
  cases expect '}' others with
  | some closed => simp [eq_comm (b := value), and_comm]
  | none => simp [Option.bind_eq_some_iff, eq_comm (b := value)]

/-- A value that is neither an array nor an object, by its first character. -/
def parseToken (char : Char) (rest : List Char) : Option (Value Empty × List Char) :=
  if char = '"' then
    (parseString rest).map fun (chars, rest) => (.string (String.ofList chars), rest)
  else if char = '-' then (parseNat rest).map fun (value, rest) => (.integer (-value), rest)
  else if char.isDigit then
    (parseNat (char :: rest)).map fun (value, rest) => (.integer value, rest)
  else parseWord (char :: rest)

theorem parseValue_token {char : Char} (shape : skip text = char :: others)
    (bracket : char ≠ '[') (brace : char ≠ '{') :
    parseValue (fuel + 1) text = parseToken char others := by
  simp only [parseValue, shape, if_neg bracket, if_neg brace, parseToken]

end Forms

/-- The value does not end with the text, or shows its own end. -/
def Closed (value : Value Empty) (rest : List Char) : Prop :=
  rest ≠ [] ∨ ∀ number, value ≠ .integer number

/-- A value of one token is read from a longer text. -/
theorem parseToken_append {char : Char} {others rest more : List Char} {value : Value Empty}
    (read : parseToken char others = some (value, rest)) (closed : Closed value rest) :
    parseToken char (others ++ more) = some (value, rest ++ more) := by
  have followed {number : Int} (same : value = .integer number) : rest ≠ [] :=
    closed.resolve_right fun other => other number same
  unfold parseToken at read ⊢
  split at read
  · rename_i quote
    rw [if_pos quote]
    obtain ⟨⟨chars, after⟩, found, same⟩ := Option.map_eq_some_iff.mp read
    obtain ⟨rfl, rfl⟩ := Prod.mk.inj same
    rw [parseString_append found]
    rfl
  · rename_i quote
    rw [if_neg quote]
    split at read
    · rename_i minus
      rw [if_pos minus]
      obtain ⟨⟨number, after⟩, found, same⟩ := Option.map_eq_some_iff.mp read
      obtain ⟨rfl, rfl⟩ := Prod.mk.inj same
      rw [parseNat_append found (followed rfl)]
      rfl
    · rename_i minus
      rw [if_neg minus]
      split at read
      · rename_i digit
        rw [if_pos digit]
        obtain ⟨⟨number, after⟩, found, same⟩ := Option.map_eq_some_iff.mp read
        obtain ⟨rfl, rfl⟩ := Prod.mk.inj same
        rw [← List.cons_append, parseNat_append found (followed rfl)]
        rfl
      · rename_i digit
        rw [if_neg digit]
        exact parseWord_append read

/-- What is read with this fuel is read from a longer text, with more fuel. -/
structure ReadsLonger (fuel : Nat) : Prop where
  value : ∀ {larger : Nat} {text rest more : List Char} {value : Value Empty}, fuel ≤ larger →
    parseValue fuel text = some (value, rest) → Closed value rest →
      parseValue larger (text ++ more) = some (value, rest ++ more)
  elements : ∀ {larger : Nat} {text rest more : List Char} {elements : List (Value Empty)},
    fuel ≤ larger → parseElements fuel text = some (elements, rest) →
      parseElements larger (text ++ more) = some (elements, rest ++ more)
  member : ∀ {larger : Nat} {text rest more : List Char} {member : String × Value Empty},
    fuel ≤ larger → parseMember fuel text = some (member, rest) → rest ≠ [] →
      parseMember larger (text ++ more) = some (member, rest ++ more)
  members : ∀ {larger : Nat} {text rest more : List Char} {members : List (String × Value Empty)},
    fuel ≤ larger → parseMembers fuel text = some (members, rest) →
      parseMembers larger (text ++ more) = some (members, rest ++ more)

section Steps

variable {fuel larger : Nat} {text rest more : List Char}

theorem parseElements_nil : parseElements fuel [] = none := by
  cases fuel <;> rfl

theorem parseMembers_nil : parseMembers fuel [] = none := by
  cases fuel <;> rfl

/-- What goes on with a comma does not close. -/
theorem expect_none_of_comma {char : Char} {comma : List Char}
    (unclosed : expect char text = none) (found : expect ',' text = some comma) :
    expect char (text ++ more) = none := by
  cases shape : skip text with
  | nil => simp [expect, shape] at found
  | cons first others => exact expect_none_append shape unclosed

theorem ReadsLonger.elements_succ (reads : ReadsLonger fuel) {elements : List (Value Empty)}
    (enough : fuel ≤ larger) (read : parseElements (fuel + 1) text = some (elements, rest)) :
    parseElements (larger + 1) (text ++ more) = some (elements, rest ++ more) := by
  rcases parseElements_succ.mp read with ⟨closed, rfl⟩ |
    ⟨unclosed, comma, element, after, others, found, first, tail, rfl⟩
  · exact parseElements_succ.mpr (.inl ⟨expect_append closed, rfl⟩)
  · have followed : after ≠ [] := by
      intro none
      rw [none, parseElements_nil] at tail
      cases tail
    exact parseElements_succ.mpr (.inr ⟨expect_none_of_comma unclosed found, _, _, _, _,
      expect_append found, reads.value enough first (.inl followed), reads.elements enough tail,
      rfl⟩)

theorem ReadsLonger.members_succ (reads : ReadsLonger fuel)
    {members : List (String × Value Empty)} (enough : fuel ≤ larger)
    (read : parseMembers (fuel + 1) text = some (members, rest)) :
    parseMembers (larger + 1) (text ++ more) = some (members, rest ++ more) := by
  rcases parseMembers_succ.mp read with ⟨closed, rfl⟩ |
    ⟨unclosed, comma, member, after, others, found, first, tail, rfl⟩
  · exact parseMembers_succ.mpr (.inl ⟨expect_append closed, rfl⟩)
  · have followed : after ≠ [] := by
      intro none
      rw [none, parseMembers_nil] at tail
      cases tail
    exact parseMembers_succ.mpr (.inr ⟨expect_none_of_comma unclosed found, _, _, _, _,
      expect_append found, reads.member enough first followed, reads.members enough tail, rfl⟩)

theorem ReadsLonger.member_succ (reads : ReadsLonger fuel) {member : String × Value Empty}
    (enough : fuel ≤ larger) (read : parseMember (fuel + 1) text = some (member, rest))
    (followed : rest ≠ []) :
    parseMember (larger + 1) (text ++ more) = some (member, rest ++ more) := by
  obtain ⟨quoted, key, named, colon, value, found, string, colons, valued, rfl⟩ :=
    parseMember_succ.mp read
  exact parseMember_succ.mpr ⟨_, _, _, _, _, expect_append found, parseString_append string,
    expect_append colons, reads.value enough valued (.inl followed), rfl⟩

/-- What is read as a value and does not close at once does not when it is longer. -/
theorem expect_none_of_value {char : Char} {after : List Char} {value : Value Empty}
    (unclosed : expect char text = none) (read : parseValue fuel text = some (value, after)) :
    expect char (text ++ more) = none := by
  cases shape : skip text with
  | nil =>
    cases fuel with
    | zero => cases read
    | succ fuel => simp [parseValue, shape] at read
  | cons first others => exact expect_none_append shape unclosed

theorem expect_none_of_member {char : Char} {after : List Char} {member : String × Value Empty}
    (unclosed : expect char text = none) (read : parseMember fuel text = some (member, after)) :
    expect char (text ++ more) = none := by
  cases fuel with
  | zero => cases read
  | succ fuel =>
    obtain ⟨quoted, _, _, _, _, found, -⟩ := parseMember_succ.mp read
    cases shape : skip text with
    | nil => simp [expect, shape] at found
    | cons first others => exact expect_none_append shape unclosed

theorem ReadsLonger.value_succ (reads : ReadsLonger fuel) {value : Value Empty}
    (enough : fuel ≤ larger) (read : parseValue (fuel + 1) text = some (value, rest))
    (closed : Closed value rest) :
    parseValue (larger + 1) (text ++ more) = some (value, rest ++ more) := by
  cases shape : skip text with
  | nil => simp [parseValue, shape] at read
  | cons char others =>
    by_cases bracket : char = '['
    · obtain rfl := bracket
      rcases (parseValue_bracket shape).mp read with ⟨ends, rfl⟩ |
        ⟨unclosed, element, after, elements, first, tail, rfl⟩
      · exact (parseValue_bracket (skip_append shape)).mpr (.inl ⟨expect_append ends, rfl⟩)
      · have followed : after ≠ [] := by
          intro none
          rw [none, parseElements_nil] at tail
          cases tail
        exact (parseValue_bracket (skip_append shape)).mpr (.inr
          ⟨expect_none_of_value unclosed first, _, _, _, reads.value enough first (.inl followed),
            reads.elements enough tail, rfl⟩)
    · by_cases brace : char = '{'
      · obtain rfl := brace
        rcases (parseValue_brace shape).mp read with ⟨ends, rfl⟩ |
          ⟨unclosed, member, after, members, first, tail, rfl⟩
        · exact (parseValue_brace (skip_append shape)).mpr (.inl ⟨expect_append ends, rfl⟩)
        · have followed : after ≠ [] := by
            intro none
            rw [none, parseMembers_nil] at tail
            cases tail
          exact (parseValue_brace (skip_append shape)).mpr (.inr
            ⟨expect_none_of_member unclosed first, _, _, _, reads.member enough first followed,
              reads.members enough tail, rfl⟩)
      · rw [parseValue_token shape bracket brace] at read
        rw [parseValue_token (skip_append shape) bracket brace]
        exact parseToken_append read closed

end Steps

/-- **What is read is read from a longer text.** -/
theorem reads_longer (fuel : Nat) : ReadsLonger fuel := by
  induction fuel with
  | zero =>
    constructor
    · exact fun _ read => by cases read
    · exact fun _ read => by cases read
    · exact fun _ read => by cases read
    · exact fun _ read => by cases read
  | succ fuel ih =>
    constructor
    · intro larger text rest more value enough read closed
      obtain ⟨larger, rfl⟩ := Nat.exists_eq_add_of_le' enough
      exact ih.value_succ (Nat.le_add_left ..) read closed
    · intro larger text rest more elements enough read
      obtain ⟨larger, rfl⟩ := Nat.exists_eq_add_of_le' enough
      exact ih.elements_succ (Nat.le_add_left ..) read
    · intro larger text rest more member enough read followed
      obtain ⟨larger, rfl⟩ := Nat.exists_eq_add_of_le' enough
      exact ih.member_succ (Nat.le_add_left ..) read followed
    · intro larger text rest more members enough read
      obtain ⟨larger, rfl⟩ := Nat.exists_eq_add_of_le' enough
      exact ih.members_succ (Nat.le_add_left ..) read

/-- **No proper beginning of the text of an array is read.** -/
theorem text_delimited : text.Delimited := by
  intro elements text more whole cut value read
  have printed : print 0 (.array elements) = text ++ more := whole
  cases found : parseValue (text.length + 1) text with
  | none =>
    have failed : parse text = .error .parseError := by rw [parse, found]
    rw [show parse text = .ok value from read] at failed
    cases failed
  | some pair =>
    obtain ⟨value, rest⟩ := pair
    -- the text begins with a bracket, so that what is read shows its own end
    have closed : Closed value rest := by
      cases text with
      | nil => cases found
      | cons char text =>
        have bracket : char = '[' := by
          cases elements <;> exact (List.cons.inj printed).1.symm
        obtain rfl := bracket
        rcases (parseValue_bracket (skip_of_visible rfl text)).mp found with ⟨-, rfl⟩ |
          ⟨-, _, _, _, -, -, rfl⟩
        · exact .inr fun _ same => by cases same
        · exact .inr fun _ same => by cases same
    have longer : parseValue ((text ++ more).length + 1) (text ++ more) =
        some (value, rest ++ more) := by
      refine (reads_longer _).value ?_ found closed
      rw [List.length_append]
      omega
    have all := parse_print (.array elements) 0 ((text ++ more).length + 1) []
      (by rw [printed]; omega) fun _ none => by cases none
    rw [List.append_nil, printed, longer] at all
    have nothing := (Prod.mk.inj (Option.some.inj all)).2
    exact cut (List.append_eq_nil_iff.mp nothing).2

end Json
