/-
Module: BairuiPlatform.JsonText
Purpose: How PostgreSQL reads the text of a jsonb value, and the literals in which it reads
  arrays.
Trusted boundary: none
Main exports: Json.parse, Json.jsonb, ArrayLiteral, Json.parse_arrayLiteral
-/
import BairuiPlatform.Json

namespace BairuiPlatform

namespace Json

/-! ### Texts of JSON values -/

/-- White space between the tokens of a JSON text. -/
def isSpace (c : Char) : Bool :=
  c = ' ' || c = '\t' || c = '\n' || c = '\r'

/-- The text from its next token on. -/
def skipSpace (text : List Char) : List Char :=
  text.dropWhile isSpace

/-- The value of a hexadecimal digit. -/
def hexValue? (c : Char) : Option Nat :=
  if '0' ≤ c ∧ c ≤ '9' then some (c.toNat - 48)
  else if 'a' ≤ c ∧ c ≤ 'f' then some (c.toNat - 87)
  else if 'A' ≤ c ∧ c ≤ 'F' then some (c.toNat - 55)
  else none

/-- The character behind a backslash that stands for one character. -/
def simpleEscape? (c : Char) : Option Char :=
  if c = '"' ∨ c = '\\' ∨ c = '/' then some c
  else if c = 'b' then some '\x08'
  else if c = 'f' then some '\x0c'
  else if c = 'n' then some '\n'
  else if c = 'r' then some '\r'
  else if c = 't' then some '\t'
  else none

/-- The character with a four-digit code. There is no text of the null character in jsonb,
and half of a surrogate pair is none either. -/
def codeEscape? (digits : List Char) : Option Char := do
  let values ← digits.mapM hexValue?
  let code := values.foldl (fun sofar value => 16 * sofar + value) 0
  if values.length ≠ 4 ∨ code = 0 ∨ (0xd800 ≤ code ∧ code < 0xe000) then none
  else some (Char.ofNat code)

/-- One more character in front of a string. -/
def withChar (c : Char) (parsed : List Char × List Char) : List Char × List Char :=
  (c :: parsed.1, parsed.2)

/-- The characters of a string after its opening quote, and the text behind it. -/
@[grind =] def parseString : List Char → Option (List Char × List Char)
  | [] => none
  | '"' :: rest => some ([], rest)
  | '\\' :: 'u' :: first :: second :: third :: fourth :: rest =>
      (codeEscape? [first, second, third, fourth]).bind fun c =>
        (parseString rest).map (withChar c)
  | '\\' :: escaped :: rest =>
      (simpleEscape? escaped).bind fun c => (parseString rest).map (withChar c)
  | c :: rest => if c.toNat < 32 then none else (parseString rest).map (withChar c)

/-- An integer and the text behind it. -/
def parseNumber (text : List Char) : Option (Json × List Char) :=
  let (negative, text) := if text.head? = some '-' then (true, text.tail) else (false, text)
  let digits := text.takeWhile fun c => '0' ≤ c && c ≤ '9'
  if digits = [] ∨ (digits.head? = some '0' ∧ digits.length ≠ 1) then none
  else
    let value : Nat := digits.foldl (fun sofar c => 10 * sofar + (c.toNat - 48)) 0
    some (.num (if negative then -(value : Int) else value), text.drop digits.length)

/-- The value of a keyword and the text behind it. -/
def parseKeyword (text : List Char) : Option (Json × List Char) :=
  let keyword (word : List Char) (value : Json) : Option (Json × List Char) :=
    if word.isPrefixOf text then some (value, text.drop word.length) else none
  (keyword ['n', 'u', 'l', 'l'] .null).or
    ((keyword ['t', 'r', 'u', 'e'] (.bool true)).or
      (keyword ['f', 'a', 'l', 's', 'e'] (.bool false)))

mutual

/-- The first value of a text, nested at most `depth` deep, and the text behind it. -/
@[grind =] def parseValue : Nat → List Char → Option (Json × List Char)
  | 0, _ => none
  | depth + 1, text =>
      match skipSpace text with
      | [] => none
      | c :: rest =>
          if c = '"' then
            (parseString rest).map fun (text, rest) => (.str (String.ofList text), rest)
          else if c = '[' then
            if (skipSpace rest).head? = some ']' then some (.arr [], (skipSpace rest).tail)
            else (parseItems depth rest).map fun (items, rest) => (.arr items, rest)
          else if c = '\x7b' then
            if (skipSpace rest).head? = some '\x7d' then some (.obj [], (skipSpace rest).tail)
            else (parseFields depth rest).map fun (fields, rest) => (.obj fields, rest)
          else (parseKeyword (c :: rest)).or (parseNumber (c :: rest))

/-- The items of an array up to its closing bracket, and the text behind it. -/
@[grind =] def parseItems : Nat → List Char → Option (List Json × List Char)
  | 0, _ => none
  | depth + 1, text => do
      let (item, rest) ← parseValue depth text
      match skipSpace rest with
      | ',' :: rest => do
          let (items, rest) ← parseItems depth rest
          return (item :: items, rest)
      | ']' :: rest => return ([item], rest)
      | _ => none

/-- The properties of an object up to its closing brace, and the text behind it. -/
@[grind =] def parseFields : Nat → List Char → Option (List (String × Json) × List Char)
  | 0, _ => none
  | depth + 1, text =>
      match skipSpace text with
      | '"' :: rest => do
          let (name, rest) ← parseString rest
          match skipSpace rest with
          | ':' :: rest => do
              let (value, rest) ← parseValue depth rest
              match skipSpace rest with
              | ',' :: rest => do
                  let (fields, rest) ← parseFields depth rest
                  return ((String.ofList name, value) :: fields, rest)
              | '\x7d' :: rest => return ([(String.ofList name, value)], rest)
              | _ => none
          | _ => none
      | _ => none

end

/-- The value of a whole text. -/
def parse (text : List Char) : Option Json := do
  let (value, rest) ← parseValue (text.length + 1) text
  if skipSpace rest = [] then some value else none

/-- The input function of jsonb. -/
def jsonb (text : List Char) : Option Json :=
  parse text

end Json

/-! ### Array literals -/

/-- The inside of a quoted element: quotes and backslashes have a backslash before them. -/
inductive QuotedBody : List Char → Prop where
  | nil : QuotedBody []
  | escaped {c : Char} {body : List Char} (special : c = '"' ∨ c = '\\')
      (rest : QuotedBody body) : QuotedBody ('\\' :: c :: body)
  | plain {c : Char} {body : List Char} (quote : c ≠ '"') (backslash : c ≠ '\\')
      (rest : QuotedBody body) : QuotedBody (c :: body)

mutual

/-- The literal of an array: its elements in braces. -/
inductive ArrayLiteral : List Json → List Char → Prop where
  | empty : ArrayLiteral [] ['\x7b', '\x7d']
  | elements {items : List Json} {text : List Char} (elements : ArrayElements items text) :
      ArrayLiteral items ('\x7b' :: text ++ ['\x7d'])

/-- The elements of an array literal, with commas between them. -/
inductive ArrayElements : List Json → List Char → Prop where
  | last {item : Json} {text : List Char} (element : ArrayElement item text) :
      ArrayElements [item] text
  | more {item : Json} {items : List Json} {text rest : List Char}
      (element : ArrayElement item text) (elements : ArrayElements items rest) :
      ArrayElements (item :: items) (text ++ ',' :: rest)

/-- An element of an array literal: null, a nested array, or a quoted text. -/
inductive ArrayElement : Json → List Char → Prop where
  | null : ArrayElement .null ['N', 'U', 'L', 'L']
  | nested {items : List Json} {text : List Char} (literal : ArrayLiteral items text) :
      ArrayElement (.arr items) text
  | quoted {item : Json} {body : List Char} (quoted : QuotedBody body) :
      ArrayElement item ('"' :: body ++ ['"'])

end

namespace Json

/-- A quoted body is read up to its closing quote, if it is read at all. -/
theorem parseString_quoted {body : List Char} (quoted : QuotedBody body) (tail : List Char) :
    parseString (body ++ '"' :: tail) = none ∨
      ∃ text, parseString (body ++ '"' :: tail) = some (text, tail) := by
  induction quoted with
  | nil => exact .inr ⟨[], rfl⟩
  | @escaped c body special rest ih =>
      have step : parseString ('\\' :: c :: (body ++ '"' :: tail)) =
          (parseString (body ++ '"' :: tail)).map (withChar c) := by
        rcases special with rfl | rfl <;> (rw [parseString]; all_goals simp [simpleEscape?])
      rw [List.cons_append, List.cons_append, step]
      rcases ih with failed | ⟨text, parsed⟩
      · exact .inl (by rw [failed]; rfl)
      · exact .inr ⟨c :: text, by rw [parsed]; rfl⟩
  | @plain c body quote backslash rest ih =>
      have step : parseString (c :: (body ++ '"' :: tail)) =
          if c.toNat < 32 then none
          else (parseString (body ++ '"' :: tail)).map (withChar c) := by
        rw [parseString]
        all_goals simp [quote, backslash]
      rw [List.cons_append, step]
      split
      · exact .inl rfl
      · rcases ih with failed | ⟨text, parsed⟩
        · exact .inl (by rw [failed]; rfl)
        · exact .inr ⟨c :: text, by rw [parsed]; rfl⟩

/-- A text that goes on, after a brace, with anything but a property is none of an object. -/
theorem parseFields_not_quote {depth : Nat} {text : List Char}
    (first : (skipSpace text).head? ≠ some '"') : parseFields depth text = none := by
  cases depth with
  | zero => rfl
  | succ depth =>
      unfold parseFields
      split
      · rename_i rest opens
        rw [opens] at first
        exact absurd rfl first
      · rfl

/-- A quoted text that no colon follows is no property. -/
theorem parseFields_quoted {depth : Nat} {body tail : List Char} (quoted : QuotedBody body)
    (follow : (skipSpace tail).head? ≠ some ':') :
    parseFields depth ('"' :: body ++ '"' :: tail) = none := by
  cases depth with
  | zero => rfl
  | succ depth =>
      have opens : skipSpace ('"' :: body ++ '"' :: tail) = '"' :: (body ++ '"' :: tail) := rfl
      unfold parseFields
      rw [opens]
      rcases parseString_quoted quoted tail with failed | ⟨text, parsed⟩
      · simp only [failed]
        rfl
      · simp only [parsed]
        show (match skipSpace tail with
          | ':' :: rest => _
          | _ => none) = none
        split
        · rename_i rest colon
          rw [colon] at follow
          exact absurd rfl follow
        · rfl

/-- What follows an element of an array literal. -/
def ElementEnd (tail : List Char) : Prop :=
  tail.head? = some ',' ∨ tail.head? = some '\x7d'

theorem ElementEnd.skipSpace_eq {tail : List Char} (ends : ElementEnd tail) :
    skipSpace tail = tail := by
  unfold skipSpace
  cases tail with
  | nil => rfl
  | cons c tail =>
      rcases ends with comma | brace
      · cases comma
        rfl
      · cases brace
        rfl

/-- An element of an array literal does not open a property. -/
theorem parseFields_element {depth : Nat} {item : Json} {text tail : List Char}
    (element : ArrayElement item text) (ends : ElementEnd tail) :
    parseFields depth (text ++ tail) = none := by
  cases element with
  | null => exact parseFields_not_quote (by simp [skipSpace, isSpace])
  | nested literal =>
      cases literal with
      | empty => exact parseFields_not_quote (by simp [skipSpace, isSpace])
      | elements elements => exact parseFields_not_quote (by simp [skipSpace, isSpace])
  | @quoted _ body quoted =>
      have split : ('"' :: body ++ ['"']) ++ tail = '"' :: body ++ '"' :: tail := by simp
      rw [split]
      refine parseFields_quoted quoted ?_
      rw [ends.skipSpace_eq]
      rcases ends with comma | brace
      · rw [comma]
        decide
      · rw [brace]
        decide

/-- The elements of an array literal are not the properties of an object. -/
theorem parseFields_elements {depth : Nat} {items : List Json} {text : List Char}
    (elements : ArrayElements items text) : parseFields depth (text ++ ['\x7d']) = none := by
  cases elements with
  | last element => exact parseFields_element element (.inr rfl)
  | @more item items text rest element elements =>
      rw [List.append_assoc]
      exact parseFields_element element (.inl rfl)

/-- Elements do not begin with white space or a closing brace. -/
theorem skipSpace_elements {items : List Json} {text : List Char}
    (elements : ArrayElements items text) (tail : List Char) :
    (skipSpace (text ++ tail)).head? ≠ some '\x7d' := by
  have element_head : ∀ {item : Json} {text : List Char} (rest : List Char),
      ArrayElement item text → (skipSpace (text ++ rest)).head? ≠ some '\x7d' := by
    intro item text rest element
    cases element with
    | null => simp [skipSpace, isSpace]
    | nested literal =>
        cases literal with
        | empty => simp [skipSpace, isSpace]
        | elements elements => simp [skipSpace, isSpace]
    | quoted quoted => simp [skipSpace, isSpace]
  cases elements with
  | last element => exact element_head tail element
  | more element elements =>
      rw [List.append_assoc]
      exact element_head _ element

/-- The literal of an array is no JSON text, unless the array is empty: then it is the text
of the empty object. -/
theorem parse_arrayLiteral {items : List Json} {text : List Char}
    (literal : ArrayLiteral items text) :
    parse text = if items = [] then some (.obj []) else none := by
  cases literal with
  | empty => rfl
  | @elements items text elements =>
      have nonempty : items ≠ [] := by
        cases elements with
        | last element => exact List.cons_ne_nil _ _
        | more element elements => exact List.cons_ne_nil _ _
      rw [if_neg nonempty]
      have opens : skipSpace ('\x7b' :: text ++ ['\x7d']) = '\x7b' :: (text ++ ['\x7d']) := rfl
      have refused : parseValue (('\x7b' :: text ++ ['\x7d']).length + 1)
          ('\x7b' :: text ++ ['\x7d']) = none := by
        unfold parseValue
        rw [opens]
        simp only [Char.reduceEq, if_false, if_true,
          if_neg (skipSpace_elements elements ['\x7d']), parseFields_elements elements,
          Option.map_none]
      unfold parse
      rw [refused]
      rfl

end Json

end BairuiPlatform
