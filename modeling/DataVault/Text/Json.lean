/-
Module: DataVault.Text.Json
Layer: Library
Purpose: JSON values with whole numbers, their compact text and the parser of that text; what is written is read back,
  and it has no line break. The parser accepts blanks between tokens; a number with a fraction or an exponent and the
  escape of a surrogate are refused.
Imports: Mathlib.Algebra.GroupWithZero.Nat, Mathlib.Tactic.Common
Trusted boundary: none
Main exports: Json, Json.render, Json.stringify, Json.parse, Json.parse_stringify, Json.field, Json.size,
  Json.size_render, Json.render_visible
-/
import Mathlib.Algebra.GroupWithZero.Nat
import Mathlib.Tactic.Common

namespace DataVault.Text

inductive Json where
  | null
  | bool (value : Bool)
  | number (value : Int)
  | string (text : String)
  | array (items : List Json)
  | object (fields : List (String × Json))

namespace Json

/-! ### Writing -/

/-- A character in a string literal. -/
def escape (c : Char) : List Char :=
  if c = '"' then ['\\', '"']
  else if c = '\\' then ['\\', '\\']
  else if c = '\n' then ['\\', 'n']
  else if c = '\r' then ['\\', 'r']
  else if c = '\t' then ['\\', 't']
  else if c = '\x08' then ['\\', 'b']
  else if c = '\x0c' then ['\\', 'f']
  else if c.toNat < 32 then ['\\', 'u', '0', '0', Nat.digitChar (c.toNat / 16), Nat.digitChar (c.toNat % 16)]
  else [c]

def renderString (text : String) : List Char := '"' :: (text.toList.flatMap escape ++ ['"'])

def renderNumber (value : Int) : List Char :=
  if value < 0 then '-' :: Nat.toDigits 10 value.natAbs else Nat.toDigits 10 value.natAbs

mutual

def render : Json → List Char
  | .null => ['n', 'u', 'l', 'l']
  | .bool true => ['t', 'r', 'u', 'e']
  | .bool false => ['f', 'a', 'l', 's', 'e']
  | .number value => renderNumber value
  | .string text => renderString text
  | .array [] => ['[', ']']
  | .array (item :: items) => '[' :: (render item ++ renderItems items)
  | .object [] => ['{', '}']
  | .object ((name, value) :: fields) =>
      '{' :: (renderString name ++ ':' :: (render value ++ renderFields fields))

/-- The items behind the first one, and the bracket. -/
def renderItems : List Json → List Char
  | [] => [']']
  | item :: items => ',' :: (render item ++ renderItems items)

/-- The fields behind the first one, and the brace. -/
def renderFields : List (String × Json) → List Char
  | [] => ['}']
  | (name, value) :: fields => ',' :: (renderString name ++ ':' :: (render value ++ renderFields fields))

end

/-- `JSON.stringify` -/
def stringify (value : Json) : String := String.ofList (render value)

/-! ### Reading -/

def isBlank (c : Char) : Bool := c = ' ' || c = '\t' || c = '\n' || c = '\r'

def skip (text : List Char) : List Char := text.dropWhile isBlank

def unescape : Char → Option Char
  | '"' => some '"'
  | '\\' => some '\\'
  | '/' => some '/'
  | 'n' => some '\n'
  | 'r' => some '\r'
  | 't' => some '\t'
  | 'b' => some '\x08'
  | 'f' => some '\x0c'
  | _ => none

def hexValue (c : Char) : Option Nat :=
  if '0' ≤ c ∧ c ≤ '9' then some (c.toNat - 48)
  else if 'a' ≤ c ∧ c ≤ 'f' then some (c.toNat - 87)
  else if 'A' ≤ c ∧ c ≤ 'F' then some (c.toNat - 55)
  else none

/-- The character of four hexadecimal digits. -/
def hexChar (a b c d : Char) : Option Char :=
  match hexValue a, hexValue b, hexValue c, hexValue d with
  | some a, some b, some c, some d =>
      let code := ((a * 16 + b) * 16 + c) * 16 + d
      if code.isValidChar then some (Char.ofNat code) else none
  | _, _, _, _ => none

/-- The rest of a string literal behind its first quote. -/
def parseString : List Char → Option (List Char × List Char)
  | [] => none
  | '"' :: rest => some ([], rest)
  | '\\' :: 'u' :: a :: b :: c :: d :: rest =>
      match hexChar a b c d, parseString rest with
      | some c, some (text, rest) => some (c :: text, rest)
      | _, _ => none
  | '\\' :: c :: rest =>
      match unescape c, parseString rest with
      | some c, some (text, rest) => some (c :: text, rest)
      | _, _ => none
  | c :: rest =>
      if c.toNat < 32 then none
      else (parseString rest).map fun read => (c :: read.1, read.2)

/-- A whole number without leading zeros. -/
def parseNatural (text : List Char) : Option (Nat × List Char) :=
  let digits := text.takeWhile Char.isDigit
  let rest := text.dropWhile Char.isDigit
  let value := Nat.ofDigitChars 10 digits 0
  if Nat.toDigits 10 value = digits ∧ rest.head? ≠ some '.' ∧ rest.head? ≠ some 'e' ∧ rest.head? ≠ some 'E' then
    some (value, rest)
  else none

def parseNumber : List Char → Option (Int × List Char)
  | '-' :: rest => (parseNatural rest).map fun read => (-(read.1 : Int), read.2)
  | text => (parseNatural text).map fun read => ((read.1 : Int), read.2)

/-- A literal, a number or a string. -/
def parseScalar : List Char → Option (Json × List Char)
  | 'n' :: 'u' :: 'l' :: 'l' :: rest => some (.null, rest)
  | 't' :: 'r' :: 'u' :: 'e' :: rest => some (.bool true, rest)
  | 'f' :: 'a' :: 'l' :: 's' :: 'e' :: rest => some (.bool false, rest)
  | '"' :: rest => (parseString rest).map fun read => (.string (String.ofList read.1), read.2)
  | text => (parseNumber text).map fun read => (.number read.1, read.2)

/-- The name of a field, its colon, and what `value` reads behind it. -/
def parseField (value : List Char → Option (Json × List Char)) (text : List Char) :
    Option ((String × Json) × List Char) :=
  match skip text with
  | '"' :: rest =>
      match parseString rest with
      | some (name, rest) =>
          match skip rest with
          | ':' :: rest => (value rest).map fun read => ((String.ofList name, read.1), read.2)
          | _ => none
      | none => none
  | _ => none

mutual

def parseValue : Nat → List Char → Option (Json × List Char)
  | 0, _ => none
  | fuel + 1, text =>
      match skip text with
      | '[' :: rest =>
          match skip rest with
          | ']' :: rest => some (.array [], rest)
          | inner =>
              match parseValue fuel inner with
              | some (item, rest) => (parseItems fuel rest).map fun read => (.array (item :: read.1), read.2)
              | none => none
      | '{' :: rest =>
          match skip rest with
          | '}' :: rest => some (.object [], rest)
          | inner =>
              match parseField (parseValue fuel) inner with
              | some (field, rest) => (parseFields fuel rest).map fun read => (.object (field :: read.1), read.2)
              | none => none
      | text => parseScalar text

/-- What follows an item of an array. -/
def parseItems : Nat → List Char → Option (List Json × List Char)
  | 0, _ => none
  | fuel + 1, text =>
      match skip text with
      | ']' :: rest => some ([], rest)
      | ',' :: rest =>
          match parseValue fuel rest with
          | some (item, rest) => (parseItems fuel rest).map fun read => (item :: read.1, read.2)
          | none => none
      | _ => none

/-- What follows a field of an object. -/
def parseFields : Nat → List Char → Option (List (String × Json) × List Char)
  | 0, _ => none
  | fuel + 1, text =>
      match skip text with
      | '}' :: rest => some ([], rest)
      | ',' :: rest =>
          match parseField (parseValue fuel) rest with
          | some (field, rest) => (parseFields fuel rest).map fun read => (field :: read.1, read.2)
          | none => none
      | _ => none

end

/-- `JSON.parse` -/
def parse (text : String) : Option Json :=
  match parseValue (text.toList.length + 1) text.toList with
  | some (value, rest) => if skip rest = [] then some value else none
  | none => none

/-- The value of a field; a later field of the same name counts. -/
def field (name : String) : Json → Option Json
  | .object fields => fields.reverse.lookup name
  | _ => none

/-! ### Strings read back -/

theorem hexValue_digitChar : ∀ digit < 16, hexValue (Nat.digitChar digit) = some digit := by decide

theorem hexChar_control {c : Char} (control : c.toNat < 32) :
    hexChar '0' '0' (Nat.digitChar (c.toNat / 16)) (Nat.digitChar (c.toNat % 16)) = some c := by
  have high := hexValue_digitChar (c.toNat / 16) (by omega)
  have low := hexValue_digitChar (c.toNat % 16) (by omega)
  have code : c.toNat / 16 * 16 + c.toNat % 16 = c.toNat := by omega
  have valid : c.toNat.isValidChar := c.valid
  simp [hexChar, high, low, show hexValue '0' = some 0 by decide, code, valid]

/-- The two ways of reading on behind a character. -/
theorem pair_eq_map {c : Char} (read : Option (List Char × List Char)) :
    (match some c, read with
      | some c, some (text, rest) => some (c :: text, rest)
      | _, _ => none) = read.map fun read => (c :: read.1, read.2) := by
  cases read <;> rfl

theorem parseString_escape (c : Char) (rest : List Char) :
    parseString (escape c ++ rest) = (parseString rest).map fun read => (c :: read.1, read.2) := by
  unfold escape
  split_ifs with quote slash newline return_ tab back feed control
  · subst quote
    exact pair_eq_map (parseString rest)
  · subst slash
    exact pair_eq_map (parseString rest)
  · subst newline
    exact pair_eq_map (parseString rest)
  · subst return_
    exact pair_eq_map (parseString rest)
  · subst tab
    exact pair_eq_map (parseString rest)
  · subst back
    exact pair_eq_map (parseString rest)
  · subst feed
    exact pair_eq_map (parseString rest)
  · simp only [List.cons_append, List.nil_append, parseString, hexChar_control control]
    exact pair_eq_map (parseString rest)
  · rw [List.singleton_append, parseString]
    · rw [if_neg control]
    all_goals simp_all

theorem parseString_text (text rest : List Char) :
    parseString (text.flatMap escape ++ '"' :: rest) = some (text, rest) := by
  induction text with
  | nil => rfl
  | cons c text ih =>
      rw [List.flatMap_cons, List.append_assoc, parseString_escape, ih]
      rfl

/-! ### Numbers read back -/

/-- What stands behind a value in a text. -/
def Delimited (rest : List Char) : Prop :=
  rest = [] ∨ ∃ c tail, rest = c :: tail ∧ (c = ',' ∨ c = ']' ∨ c = '}')

theorem Delimited.cons {c : Char} {tail : List Char} (mark : c = ',' ∨ c = ']' ∨ c = '}') : Delimited (c :: tail) :=
  .inr ⟨c, tail, rfl, mark⟩

theorem Delimited.head {rest : List Char} (delimited : Delimited rest) :
    (∀ c, rest.head? = some c → c.isDigit = false) ∧ rest.head? ≠ some '.' ∧ rest.head? ≠ some 'e' ∧
      rest.head? ≠ some 'E' := by
  rcases delimited with rfl | ⟨c, tail, rfl, rfl | rfl | rfl⟩ <;> simp

theorem digits_isDigit (value : Nat) : ∀ c ∈ Nat.toDigits 10 value, c.isDigit = true :=
  fun _ mem => Nat.isDigit_of_mem_toDigits (by decide) (by decide) mem

theorem parseNatural_digits (value : Nat) {rest : List Char} (delimited : Delimited rest) :
    parseNatural (Nat.toDigits 10 value ++ rest) = some (value, rest) := by
  rcases delimited.head with ⟨stops, point, small, large⟩
  have digits := digits_isDigit value
  have none : rest.takeWhile Char.isDigit = [] := by
    cases rest with
    | nil => rfl
    | cons c tail => simp [stops c rfl]
  have all : rest.dropWhile Char.isDigit = rest := by
    cases rest with
    | nil => rfl
    | cons c tail => simp [stops c rfl]
  have read : (Nat.toDigits 10 value ++ rest).takeWhile Char.isDigit = Nat.toDigits 10 value := by
    rw [List.takeWhile_append_of_pos digits, none, List.append_nil]
  have left : (Nat.toDigits 10 value ++ rest).dropWhile Char.isDigit = rest := by
    rw [List.dropWhile_append_of_pos digits, all]
  simp [parseNatural, read, left, Nat.ofDigitChars_ten_toDigits, point, small, large]

/-- The first digit of a number. -/
theorem digits_cons (value : Nat) : ∃ c tail, Nat.toDigits 10 value = c :: tail ∧ c.isDigit = true := by
  cases shape : Nat.toDigits 10 value with
  | nil => exact absurd shape Nat.toDigits_ne_nil
  | cons c tail => exact ⟨c, tail, rfl, digits_isDigit value c (shape ▸ .head _)⟩

theorem digit_ne {c mark : Char} (digit : c.isDigit = true) (other : mark.isDigit = false) : c ≠ mark := by
  rintro rfl
  rw [digit] at other
  cases other

theorem parseNumber_render (value : Int) {rest : List Char} (delimited : Delimited rest) :
    parseNumber (renderNumber value ++ rest) = some (value, rest) := by
  have read := parseNatural_digits value.natAbs delimited
  unfold renderNumber
  split
  case isTrue negative =>
    rw [List.cons_append, parseNumber, read]
    simp only [Option.map_some]
    congr
    omega
  case isFalse positive =>
    rcases digits_cons value.natAbs with ⟨c, tail, shape, digit⟩
    rw [shape, List.cons_append] at read ⊢
    rw [parseNumber, read]
    · simp only [Option.map_some]
      congr
      omega
    · intro tail same
      cases same
      cases digit

/-! ### Values read back

The induction is on the value that was written, with the rest of the text behind it. What the parser needs of this
rest is that it does not continue a number; a delimiter or the end of the text never does. -/

theorem skip_cons {c : Char} (visible : isBlank c = false) (rest : List Char) : skip (c :: rest) = c :: rest := by
  rw [skip, List.dropWhile_cons_of_neg (by simp [visible])]

/-- A value starts with no blank, and not with a bracket that closes. -/
theorem render_cons (value : Json) :
    ∃ c tail, render value = c :: tail ∧ isBlank c = false ∧ c ≠ ']' ∧ c ≠ '}' := by
  match value with
  | .null | .bool true | .bool false | .array [] | .array (_ :: _) | .object [] | .object (_ :: _) =>
      exact ⟨_, _, by rw [render], by decide, by decide, by decide⟩
  | .string _ => exact ⟨_, _, by rw [render, renderString], by decide, by decide, by decide⟩
  | .number value =>
      rcases digits_cons value.natAbs with ⟨c, tail, shape, digit⟩
      rw [render, renderNumber, shape]
      split
      · exact ⟨_, _, rfl, by decide, by decide, by decide⟩
      · refine ⟨c, tail, rfl, ?_, digit_ne digit (by decide), digit_ne digit (by decide)⟩
        have space : c ≠ ' ' := digit_ne digit (by decide)
        have tab : c ≠ '\t' := digit_ne digit (by decide)
        have newline : c ≠ '\n' := digit_ne digit (by decide)
        have return_ : c ≠ '\r' := digit_ne digit (by decide)
        simp [isBlank, space, tab, newline, return_]

theorem skip_render (value : Json) (rest : List Char) : skip (render value ++ rest) = render value ++ rest := by
  rcases render_cons value with ⟨c, tail, shape, visible, _, _⟩
  rw [shape, List.cons_append, skip_cons visible]

/-- A number starts with its sign or with a digit. -/
theorem renderNumber_cons (value : Int) :
    ∃ c tail, renderNumber value = c :: tail ∧ ∀ mark : Char, mark ≠ '-' → mark.isDigit = false → c ≠ mark := by
  rcases digits_cons value.natAbs with ⟨c, tail, shape, digit⟩
  rw [renderNumber, shape]
  split
  · exact ⟨_, _, rfl, fun mark dash _ => dash.symm⟩
  · exact ⟨_, _, rfl, fun mark _ other => digit_ne digit other⟩

theorem parseScalar_number (value : Int) {rest : List Char} (delimited : Delimited rest) :
    parseScalar (renderNumber value ++ rest) = some (.number value, rest) := by
  have read := parseNumber_render value delimited
  rcases renderNumber_cons value with ⟨c, tail, shape, other⟩
  rw [shape, List.cons_append] at read ⊢
  rw [parseScalar, read]
  · rfl
  all_goals
    intros
    simp_all [other 'n' (by decide) (by decide), other 't' (by decide) (by decide),
      other 'f' (by decide) (by decide), other '"' (by decide) (by decide)]

theorem parseField_render {value : List Char → Option (Json × List Char)} {name : String} {item : Json}
    {inner rest : List Char} (read : value inner = some (item, rest)) :
    parseField value (renderString name ++ ':' :: inner) = some ((name, item), rest) := by
  have text : parseString (name.toList.flatMap escape ++ ('"' :: ':' :: inner)) =
      some (name.toList, ':' :: inner) := parseString_text _ _
  rw [parseField, renderString, List.cons_append, skip_cons (by decide), List.append_assoc]
  simp [text, skip_cons (show isBlank ':' = false by decide), read]

theorem renderItems_delimited (items : List Json) (rest : List Char) : Delimited (renderItems items ++ rest) := by
  cases items with
  | nil => exact .cons (.inr (.inl rfl))
  | cons item items => exact .cons (.inl rfl)

theorem renderFields_delimited (fields : List (String × Json)) (rest : List Char) :
    Delimited (renderFields fields ++ rest) := by
  cases fields with
  | nil => exact .cons (.inr (.inr rfl))
  | cons field fields => exact .cons (.inl rfl)

/-- An array that is not empty. -/
theorem parseValue_array {fuel : Nat} (item : Json) (rest : List Char) :
    parseValue (fuel + 1) ('[' :: (render item ++ rest)) =
      match parseValue fuel (render item ++ rest) with
      | some (item, rest) => (parseItems fuel rest).map fun read => (.array (item :: read.1), read.2)
      | none => none := by
  rcases render_cons item with ⟨c, tail, shape, visible, bracket, _⟩
  rw [parseValue, skip_cons (by decide), shape, List.cons_append]
  simp only [skip_cons visible]
  split
  · rename_i same
    exact absurd (List.cons.inj same).1 bracket
  · rfl

/-- An object that is not empty. -/
theorem parseValue_object {fuel : Nat} (name : String) (rest : List Char) :
    parseValue (fuel + 1) ('{' :: (renderString name ++ rest)) =
      match parseField (parseValue fuel) (renderString name ++ rest) with
      | some (field, rest) => (parseFields fuel rest).map fun read => (.object (field :: read.1), read.2)
      | none => none := by
  rw [parseValue, skip_cons (by decide), renderString, List.cons_append]
  simp only [skip_cons (show isBlank '"' = false by decide)]
  rfl

mutual

theorem parseValue_render : ∀ (value : Json) (fuel : Nat) (rest : List Char), Delimited rest →
    (render value ++ rest).length ≤ fuel → parseValue fuel (render value ++ rest) = some (value, rest)
  | value, 0, rest, _, enough => by
      rcases render_cons value with ⟨c, tail, shape, _⟩
      rw [shape] at enough
      cases enough
  | .null, fuel + 1, rest, _, _ => by
      rw [parseValue, skip_render]
      rfl
  | .bool true, fuel + 1, rest, _, _ => by
      rw [parseValue, skip_render]
      rfl
  | .bool false, fuel + 1, rest, _, _ => by
      rw [parseValue, skip_render]
      rfl
  | .string text, fuel + 1, rest, _, _ => by
      have read := parseString_text text.toList rest
      rw [parseValue, skip_render, render, renderString]
      simp [parseScalar, read]
  | .number value, fuel + 1, rest, delimited, _ => by
      have read := parseScalar_number value delimited
      rcases renderNumber_cons value with ⟨c, tail, shape, other⟩
      rw [parseValue, skip_render, render]
      rw [shape, List.cons_append] at read ⊢
      split
      · rename_i same
        exact absurd (List.cons.inj same).1 (other '[' (by decide) (by decide))
      · rename_i same
        exact absurd (List.cons.inj same).1 (other '{' (by decide) (by decide))
      · exact read
  | .array [], fuel + 1, rest, _, _ => by
      rw [parseValue, skip_render]
      rfl
  | .array (item :: items), fuel + 1, rest, _, enough => by
      rw [render, List.cons_append, List.append_assoc] at enough ⊢
      rw [List.length_cons] at enough
      have here := parseValue_render item fuel _ (renderItems_delimited items rest) (Nat.le_of_succ_le_succ enough)
      have there := parseItems_render items fuel rest (by rw [List.length_append] at enough; omega)
      rw [parseValue_array, here]
      simp only [there, Option.map_some]
  | .object [], fuel + 1, rest, _, _ => by
      rw [parseValue, skip_render]
      rfl
  | .object ((name, item) :: fields), fuel + 1, rest, _, enough => by
      rw [render, List.cons_append, List.append_assoc, List.cons_append, List.append_assoc] at enough ⊢
      simp only [List.length_cons, List.length_append] at enough
      have here := parseValue_render item fuel _ (renderFields_delimited fields rest)
        (by simp only [List.length_append]; omega)
      have there := parseFields_render fields fuel rest (by simp only [List.length_append]; omega)
      rw [parseValue_object, parseField_render here]
      simp only [there, Option.map_some]

theorem parseItems_render : ∀ (items : List Json) (fuel : Nat) (rest : List Char),
    (renderItems items ++ rest).length ≤ fuel → parseItems fuel (renderItems items ++ rest) = some (items, rest)
  | [], 0, rest, enough => by cases enough
  | item :: items, 0, rest, enough => by cases enough
  | [], fuel + 1, rest, _ => rfl
  | item :: items, fuel + 1, rest, enough => by
      rw [renderItems, List.cons_append, List.append_assoc] at enough ⊢
      simp only [List.length_cons, List.length_append] at enough
      have here := parseValue_render item fuel _ (renderItems_delimited items rest)
        (by simp only [List.length_append]; omega)
      have there := parseItems_render items fuel rest (by simp only [List.length_append]; omega)
      rw [parseItems, skip_cons (by decide)]
      simp only [here, there, Option.map_some]

theorem parseFields_render : ∀ (fields : List (String × Json)) (fuel : Nat) (rest : List Char),
    (renderFields fields ++ rest).length ≤ fuel →
      parseFields fuel (renderFields fields ++ rest) = some (fields, rest)
  | [], 0, rest, enough => by cases enough
  | (name, item) :: fields, 0, rest, enough => by cases enough
  | [], fuel + 1, rest, _ => rfl
  | (name, item) :: fields, fuel + 1, rest, enough => by
      rw [renderFields, List.cons_append, List.append_assoc, List.cons_append, List.append_assoc] at enough ⊢
      simp only [List.length_cons, List.length_append] at enough
      have here := parseValue_render item fuel _ (renderFields_delimited fields rest)
        (by simp only [List.length_append]; omega)
      have there := parseFields_render fields fuel rest (by simp only [List.length_append]; omega)
      rw [parseFields, skip_cons (by decide)]
      simp only [parseField_render here, there, Option.map_some]

end

/-- What `JSON.stringify` writes, `JSON.parse` reads. -/
theorem parse_stringify (value : Json) : parse (stringify value) = some value := by
  have read := parseValue_render value ((render value).length + 1) [] (.inl rfl)
    (by rw [List.append_nil]; exact Nat.le_succ _)
  rw [List.append_nil] at read
  rw [parse, stringify, String.toList_ofList, read]
  rfl

/-! ### No line breaks -/

theorem digitChar_visible : ∀ digit < 16, 32 ≤ (Nat.digitChar digit).toNat ∧ (Nat.digitChar digit).utf8Size = 1 := by
  decide

theorem visible_of_all {chars : List Char} (each : chars.all (fun d => 32 ≤ d.toNat) = true) :
    ∀ d ∈ chars, 32 ≤ d.toNat := by
  simpa using each

/-- An escape is visible, and it takes six bytes at most. -/
theorem escape_visible (c : Char) : (∀ d ∈ escape c, 32 ≤ d.toNat) ∧ ((escape c).map Char.utf8Size).sum ≤ 6 := by
  unfold escape
  split_ifs with quote slash newline return_ tab back feed control
  · exact ⟨visible_of_all (by decide), by decide⟩
  · exact ⟨visible_of_all (by decide), by decide⟩
  · exact ⟨visible_of_all (by decide), by decide⟩
  · exact ⟨visible_of_all (by decide), by decide⟩
  · exact ⟨visible_of_all (by decide), by decide⟩
  · exact ⟨visible_of_all (by decide), by decide⟩
  · exact ⟨visible_of_all (by decide), by decide⟩
  · rcases digitChar_visible (c.toNat / 16) (by omega) with ⟨high, highSize⟩
    rcases digitChar_visible (c.toNat % 16) (by omega) with ⟨low, lowSize⟩
    have marks : Char.utf8Size '\\' = 1 ∧ Char.utf8Size 'u' = 1 ∧ Char.utf8Size '0' = 1 := by decide
    simp [high, low, highSize, lowSize, marks]
  · have wide := c.utf8Size_le_four
    simp only [List.mem_singleton, forall_eq, List.map_singleton, List.sum_singleton]
    omega

theorem renderString_visible {text : String} {c : Char} (mem : c ∈ renderString text) : 32 ≤ c.toNat := by
  rw [renderString, List.mem_cons, List.mem_append, List.mem_singleton, List.mem_flatMap] at mem
  rcases mem with rfl | ⟨_, _, escaped⟩ | rfl
  · decide
  · exact (escape_visible _).1 _ escaped
  · decide

theorem renderNumber_visible {value : Int} {c : Char} (mem : c ∈ renderNumber value) : 32 ≤ c.toNat := by
  have digits : ∀ d ∈ Nat.toDigits 10 value.natAbs, 32 ≤ d.toNat := by
    intro d held
    have digit := digits_isDigit _ d held
    simp only [Char.isDigit, Bool.and_eq_true, decide_eq_true_eq, ge_iff_le, UInt32.le_iff_toNat_le] at digit
    exact Nat.le_trans (by decide) digit.1
  unfold renderNumber at mem
  split at mem
  · rcases List.mem_cons.mp mem with rfl | held
    · decide
    · exact digits c held
  · exact digits c mem

mutual

theorem render_visible : ∀ (value : Json) (c : Char), c ∈ render value → 32 ≤ c.toNat
  | .null, c, mem => by
      rw [render] at mem
      simp only [List.mem_cons, List.not_mem_nil, or_false] at mem
      rcases mem with rfl | rfl | rfl | rfl <;> decide
  | .bool true, c, mem => by
      rw [render] at mem
      simp only [List.mem_cons, List.not_mem_nil, or_false] at mem
      rcases mem with rfl | rfl | rfl | rfl <;> decide
  | .bool false, c, mem => by
      rw [render] at mem
      simp only [List.mem_cons, List.not_mem_nil, or_false] at mem
      rcases mem with rfl | rfl | rfl | rfl | rfl <;> decide
  | .number value, c, mem => by
      rw [render] at mem
      exact renderNumber_visible mem
  | .string text, c, mem => by
      rw [render] at mem
      exact renderString_visible mem
  | .array [], c, mem => by
      rw [render] at mem
      simp only [List.mem_cons, List.not_mem_nil, or_false] at mem
      rcases mem with rfl | rfl <;> decide
  | .array (item :: items), c, mem => by
      rw [render, List.mem_cons, List.mem_append] at mem
      rcases mem with rfl | here | there
      · decide
      · exact render_visible item c here
      · exact renderItems_visible items c there
  | .object [], c, mem => by
      rw [render] at mem
      simp only [List.mem_cons, List.not_mem_nil, or_false] at mem
      rcases mem with rfl | rfl <;> decide
  | .object ((name, value) :: fields), c, mem => by
      rw [render, List.mem_cons, List.mem_append, List.mem_cons, List.mem_append] at mem
      rcases mem with rfl | named | rfl | here | there
      · decide
      · exact renderString_visible named
      · decide
      · exact render_visible value c here
      · exact renderFields_visible fields c there

theorem renderItems_visible : ∀ (items : List Json) (c : Char), c ∈ renderItems items → 32 ≤ c.toNat
  | [], c, mem => by
      cases List.mem_singleton.mp mem
      decide
  | item :: items, c, mem => by
      rw [renderItems, List.mem_cons, List.mem_append] at mem
      rcases mem with rfl | here | there
      · decide
      · exact render_visible item c here
      · exact renderItems_visible items c there

theorem renderFields_visible : ∀ (fields : List (String × Json)) (c : Char), c ∈ renderFields fields → 32 ≤ c.toNat
  | [], c, mem => by
      cases List.mem_singleton.mp mem
      decide
  | (name, value) :: fields, c, mem => by
      rw [renderFields, List.mem_cons, List.mem_append, List.mem_cons, List.mem_append] at mem
      rcases mem with rfl | named | rfl | here | there
      · decide
      · exact renderString_visible named
      · decide
      · exact render_visible value c here
      · exact renderFields_visible fields c there

end

/-! ### Sizes -/

/-- The number of bytes of a text in UTF-8. -/
def textSize (text : List Char) : Nat := (text.map Char.utf8Size).sum

theorem textSize_append (front back : List Char) : textSize (front ++ back) = textSize front + textSize back := by
  rw [textSize, List.map_append, List.sum_append, textSize, textSize]

theorem textSize_cons (c : Char) (text : List Char) : textSize (c :: text) = c.utf8Size + textSize text := rfl

mutual

/-- A bound on the bytes of the text of a value: a comma is counted for each item and each field. -/
def size : Json → Nat
  | .null => 4
  | .bool true => 4
  | .bool false => 5
  | .number value => textSize (renderNumber value)
  | .string text => textSize (renderString text)
  | .array items => 2 + itemsSize items
  | .object fields => 2 + fieldsSize fields

def itemsSize : List Json → Nat
  | [] => 0
  | item :: items => 1 + size item + itemsSize items

def fieldsSize : List (String × Json) → Nat
  | [] => 0
  | (name, value) :: fields => 2 + textSize (renderString name) + size value + fieldsSize fields

end

mutual

theorem textSize_render : ∀ value : Json, textSize (render value) ≤ size value
  | .null | .bool true | .bool false | .array [] | .object [] => by
      rw [render, size]
      decide
  | .number value => Nat.le_of_eq (by rw [render, size])
  | .string text => Nat.le_of_eq (by rw [render, size])
  | .array (item :: items) => by
      have here := textSize_render item
      have there := textSize_renderItems items
      have bracket : Char.utf8Size '[' = 1 := rfl
      rw [render, size, itemsSize, textSize_cons, textSize_append]
      omega
  | .object ((name, value) :: fields) => by
      have here := textSize_render value
      have there := textSize_renderFields fields
      have brace : Char.utf8Size '{' = 1 := rfl
      have colon : Char.utf8Size ':' = 1 := rfl
      rw [render, size, fieldsSize, textSize_cons, textSize_append, textSize_cons, textSize_append]
      omega

theorem textSize_renderItems : ∀ items : List Json, textSize (renderItems items) ≤ 1 + itemsSize items
  | [] => by
      rw [renderItems, itemsSize]
      decide
  | item :: items => by
      have here := textSize_render item
      have there := textSize_renderItems items
      have comma : Char.utf8Size ',' = 1 := rfl
      rw [renderItems, itemsSize, textSize_cons, textSize_append]
      omega

theorem textSize_renderFields : ∀ fields : List (String × Json), textSize (renderFields fields) ≤ 1 + fieldsSize fields
  | [] => by
      rw [renderFields, fieldsSize]
      decide
  | (name, value) :: fields => by
      have here := textSize_render value
      have there := textSize_renderFields fields
      have comma : Char.utf8Size ',' = 1 := rfl
      have colon : Char.utf8Size ':' = 1 := rfl
      rw [renderFields, fieldsSize, textSize_cons, textSize_append, textSize_cons, textSize_append]
      omega

end

theorem itemsSize_le (items : List Json) (bound : Nat) (each : ∀ item ∈ items, size item ≤ bound) :
    itemsSize items ≤ items.length * (bound + 1) := by
  induction items with
  | nil => exact Nat.zero_le _
  | cons item items ih =>
      have here := each item (.head _)
      have there := ih fun other mem => each other (.tail _ mem)
      rw [itemsSize, List.length_cons, Nat.succ_mul]
      omega

theorem utf8Size_ascii {c : Char} (ascii : c.toNat < 128) : c.utf8Size = 1 := by
  apply Char.utf8Size_eq_one_iff.mpr
  rw [UInt32.le_iff_toNat_le]
  exact Nat.le_of_lt_succ ascii

theorem textSize_ascii {text : List Char} (ascii : ∀ c ∈ text, c.toNat < 128) : textSize text = text.length := by
  induction text with
  | nil => rfl
  | cons c text ih =>
      rw [textSize_cons, utf8Size_ascii (ascii c (.head _)), ih fun d mem => ascii d (.tail _ mem), List.length_cons,
        Nat.add_comm]

theorem size_number {value digits : Nat} (positive : 0 < digits) (small : value < 10 ^ digits) :
    size (.number value) ≤ digits := by
  have sign : ¬(value : Int) < 0 := by omega
  have ascii : ∀ c ∈ Nat.toDigits 10 value, c.toNat < 128 := by
    intro c mem
    have digit := digits_isDigit _ c mem
    simp only [Char.isDigit, Bool.and_eq_true, decide_eq_true_eq, UInt32.le_iff_toNat_le] at digit
    exact Nat.lt_of_le_of_lt digit.2 (by decide)
  rw [size, renderNumber, if_neg sign, Int.natAbs_natCast, textSize_ascii ascii]
  exact (Nat.length_toDigits_le_iff (by decide) positive).mpr small

/-- Characters that stand for themselves in a string literal, in one byte. -/
def IsPlain (c : Char) : Prop := 32 ≤ c.toNat ∧ c.toNat < 128 ∧ c ≠ '"' ∧ c ≠ '\\'

theorem escape_plain {c : Char} (plain : IsPlain c) : escape c = [c] := by
  rcases plain with ⟨visible, _, quote, slash⟩
  have other : ∀ mark : Char, mark.toNat < 32 → c ≠ mark := by
    rintro mark control rfl
    exact absurd control (Nat.not_lt.mpr visible)
  rw [escape, if_neg quote, if_neg slash, if_neg (other '\n' (by decide)), if_neg (other '\r' (by decide)),
    if_neg (other '\t' (by decide)), if_neg (other '\x08' (by decide)), if_neg (other '\x0c' (by decide)),
    if_neg (Nat.not_lt.mpr visible)]

theorem size_plain {text : String} (plain : ∀ c ∈ text.toList, IsPlain c) :
    size (.string text) = text.toList.length + 2 := by
  have same : text.toList.flatMap escape = text.toList := by
    have single : ∀ chars : List Char, (∀ c ∈ chars, IsPlain c) → chars.flatMap escape = chars := by
      intro chars each
      induction chars with
      | nil => rfl
      | cons c chars ih =>
          rw [List.flatMap_cons, escape_plain (each c (.head _)), ih fun d mem => each d (.tail _ mem)]
          rfl
    exact single _ plain
  have quote : Char.utf8Size '"' = 1 := rfl
  have single : textSize ['"'] = 1 := rfl
  rw [size, renderString, same, textSize_cons, textSize_append, single, quote,
    textSize_ascii fun c mem => (plain c mem).2.1]
  omega

/-- A character takes six bytes at most. -/
theorem size_string (text : String) : size (.string text) ≤ 6 * text.toList.length + 2 := by
  have escaped : ∀ chars : List Char, textSize (chars.flatMap escape) ≤ 6 * chars.length := by
    intro chars
    induction chars with
    | nil => exact Nat.le_refl _
    | cons c chars ih =>
        have here : textSize (escape c) ≤ 6 := (escape_visible c).2
        rw [List.flatMap_cons, textSize_append, List.length_cons]
        omega
  have quote : Char.utf8Size '"' = 1 := rfl
  have single : textSize ['"'] = 1 := rfl
  have bound := escaped text.toList
  rw [size, renderString, textSize_cons, textSize_append, single, quote]
  omega

end Json

end DataVault.Text
