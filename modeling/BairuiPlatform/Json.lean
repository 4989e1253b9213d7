/-
Module: BairuiPlatform.Json
Purpose: The characters of texts; JSON values, their canonical form and their text.
Trusted boundary: none
Main exports: chars, Json, Json.field?, utf16Length, Json.canonicalize, Json.stringify
-/
import Mathlib.Data.List.Lex
import Mathlib.Data.List.Sort
import Mathlib.Data.Nat.Basic

namespace BairuiPlatform

/-! ### Characters -/

/-- The characters of a text. A text of ASCII characters alone is read off its bytes, which
is cheaper to evaluate than `String.toList`. -/
def chars (text : String) : List Char :=
  let codes := text.toByteArray.data.toList.map UInt8.toNat
  if codes.all fun code => code < 128 then codes.map Char.ofNat else text.toList

/-- A character whose bytes are all below 128 is its only byte. -/
theorem utf8EncodeChar_of_lt {c : Char}
    (ascii : ∀ code ∈ (String.utf8EncodeChar c).map UInt8.toNat, code < 128) :
    (String.utf8EncodeChar c).map UInt8.toNat = [c.toNat] := by
  unfold String.utf8EncodeChar at *
  by_cases small : c.val.toNat ≤ 127
  · rw [if_pos small, List.map_singleton, UInt8.toNat_ofNat']
    exact congrArg (fun code => [code]) (Nat.mod_eq_of_lt (by omega))
  · -- The first byte of a longer encoding is at least 192.
    exfalso
    rw [if_neg small] at ascii
    have first : ∀ {code : Nat} {rest : List UInt8}, 192 ≤ code → code < 256 →
        ¬∀ byte ∈ (UInt8.ofNat code :: rest).map UInt8.toNat, byte < 128 := by
      intro code rest low high all
      have head := all _ (by rw [List.map_cons]; exact List.mem_cons_self)
      rw [UInt8.toNat_ofNat', Nat.mod_eq_of_lt (by omega)] at head
      omega
    split at ascii
    · exact first (by omega) (by omega) ascii
    · split at ascii
      · exact first (by omega) (by omega) ascii
      · exact first (by omega) (by omega) ascii

@[simp] theorem chars_eq_toList (text : String) : chars text = text.toList := by
  obtain ⟨list, rfl⟩ := String.exists_eq_ofList text
  have bytes : (String.ofList list).toByteArray.data.toList =
      list.flatMap String.utf8EncodeChar := by
    simp [String.ofList, List.utf8Encode]
  unfold chars
  rw [bytes, String.toList_ofList]
  simp only [List.all_eq_true, decide_eq_true_eq]
  split
  · rename_i ascii
    clear bytes
    induction list with
    | nil => rfl
    | cons c list ih =>
        rw [List.flatMap_cons, List.map_append] at ascii ⊢
        have first := utf8EncodeChar_of_lt fun code member =>
          ascii code (List.mem_append_left _ member)
        have rest := ih fun code member => ascii code (List.mem_append_right _ member)
        rw [List.map_append, rest, first, List.map_singleton, Char.ofNat_toNat]
        rfl
  · rfl

/-- The white space that `trim` removes. -/
def isTrimmed (c : Char) : Bool :=
  [0x09, 0x0a, 0x0b, 0x0c, 0x0d, 0x20, 0xa0, 0x1680, 0x2028, 0x2029, 0x202f, 0x205f, 0x3000,
    0xfeff].contains c.toNat || (0x2000 ≤ c.toNat && c.toNat ≤ 0x200a)

/-- `value.trim()`. -/
def trim (text : List Char) : List Char :=
  ((text.dropWhile isTrimmed).reverse.dropWhile isTrimmed).reverse

/-! ### Values -/

/-- The characters of a number that is written out. -/
def isNumberChar (c : Char) : Bool :=
  c.isDigit || ['+', '-', '.', 'e'].contains c

/-- The text of a number with a fraction or an exponent. -/
def isDecimalText (text : List Char) : Bool :=
  text.all isNumberChar && (text.contains '.' || text.contains 'e') &&
    text.head?.any fun c => c = '-' || c.isDigit

/-- A finite number that is no integer, or an integer from 10 ^ 21 on, as its text. -/
structure DecimalText where
  text : String
  shaped : isDecimalText (chars text) = true
deriving Repr, DecidableEq

/-- A JSON value. An object lists its properties in the order in which JavaScript
enumerates them. -/
inductive Json where
  | null
  | bool (value : Bool)
  | num (value : Int)
  | dec (value : DecimalText)
  | str (text : String)
  | arr (items : List Json)
  | obj (fields : List (String × Json))
deriving Repr, Inhabited

namespace Json

/-- `value ?? null` for texts. -/
def ofText? : Option String → Json
  | some text => .str text
  | none => .null

/-- `value ?? null` for counters. -/
def ofNat? : Option Nat → Json
  | some value => .num value
  | none => .null

/-- A list of texts. -/
def ofTexts (texts : List String) : Json :=
  .arr (texts.map .str)

/-- The property of an object. -/
def field? (name : String) : Json → Option Json
  | .obj fields => (fields.find? fun field => decide (field.1 = name)).map (·.2)
  | _ => none

/-- The text of a JSON string. -/
def text? : Json → Option String
  | .str text => some text
  | _ => none

/-- The value is the empty array. -/
def isEmptyArray : Json → Bool
  | .arr [] => true
  | _ => false

/-- The value is the empty object. -/
def isEmptyObject : Json → Bool
  | .obj [] => true
  | _ => false

end Json

/-! ### Numbers and texts of callers -/

/-- `Math.max(low, Math.min(Number(value) || missing, high))`. -/
def clamped (low missing high : Nat) : Option Int → Nat
  | none => max low (min missing high)
  | some value =>
      if value = 0 then max low (min missing high) else max low (min value.toNat high)

/-- The UTF-16 code units of a character. -/
def utf16Units (c : Char) : List Nat :=
  if c.toNat < 0x10000 then [c.toNat]
  else
    [0xD800 + (c.toNat - 0x10000) / 0x400, 0xDC00 + (c.toNat - 0x10000) % 0x400]

/-- The UTF-16 code units of a text. -/
def utf16 (text : String) : List Nat :=
  (chars text).flatMap utf16Units

/-- `text.length` in JavaScript. -/
def utf16Length (text : String) : Nat :=
  (utf16 text).length

/-- The first characters of a text that fit in a number of UTF-16 code units. -/
def sliceChars : Nat → List Char → List Char
  | _, [] => []
  | room, c :: cs =>
      if (utf16Units c).length ≤ room then
        c :: sliceChars (room - (utf16Units c).length) cs
      else []

/-- `text.slice(0, room)`. A surrogate pair that the cut would split is dropped. -/
def slice (room : Nat) (text : String) : String :=
  String.ofList (sliceChars room (chars text))

namespace Json

/-- The order of `Array.prototype.sort` on property names: by UTF-16 code units. -/
def nameLe {α : Type} (first second : String × α) : Prop :=
  utf16 first.1 ≤ utf16 second.1

instance {α : Type} : DecidableRel (nameLe (α := α)) := fun first second =>
  inferInstanceAs (Decidable (utf16 first.1 ≤ utf16 second.1))

/-- A property name that JavaScript enumerates as an array index, with its value. -/
def arrayIndex? (name : String) : Option Nat :=
  match chars name with
  | ['0'] => some 0
  | '0' :: _ => none
  | [] => none
  | digits =>
      if digits.all Char.isDigit then
        let value := digits.foldl (fun acc d => acc * 10 + (d.toNat - 48)) 0
        if value < 4294967295 then some value else none
      else none

/-- The order of array indices. -/
def indexLe {α : Type} (first second : String × α) : Prop :=
  (arrayIndex? first.1).getD 0 ≤ (arrayIndex? second.1).getD 0

instance {α : Type} : DecidableRel (indexLe (α := α)) := fun first second =>
  inferInstanceAs (Decidable ((arrayIndex? first.1).getD 0 ≤ (arrayIndex? second.1).getD 0))

/-- The enumeration order of an object made from entries: array indices first, in
ascending order, then the other names in order of insertion. -/
def enumerated {α : Type} (entries : List (String × α)) : List (String × α) :=
  (entries.filter fun entry => (arrayIndex? entry.1).isSome).insertionSort indexLe ++
    entries.filter fun entry => (arrayIndex? entry.1).isNone

mutual

/-- `canonicalize`: property names are sorted at every level. -/
def canonicalize : Json → Json
  | .arr items => .arr (canonicalizeItems items)
  | .obj fields =>
      .obj (enumerated ((canonicalizeFields fields).insertionSort nameLe))
  | value => value

/-- The items of an array, each in canonical form. -/
def canonicalizeItems : List Json → List Json
  | [] => []
  | item :: items => canonicalize item :: canonicalizeItems items

/-- The properties of an object, each value in canonical form. -/
def canonicalizeFields : List (String × Json) → List (String × Json)
  | [] => []
  | (name, value) :: fields => (name, canonicalize value) :: canonicalizeFields fields

end

/-- One hexadecimal digit. -/
def hexDigit (value : Nat) : Char :=
  if value < 10 then Char.ofNat (48 + value) else Char.ofNat (87 + value)

/-- A character inside a JSON text. -/
def quoteChar (c : Char) : List Char :=
  if c = '"' then ['\\', '"']
  else if c = '\\' then ['\\', '\\']
  else if c.toNat = 8 then ['\\', 'b']
  else if c.toNat = 9 then ['\\', 't']
  else if c.toNat = 10 then ['\\', 'n']
  else if c.toNat = 12 then ['\\', 'f']
  else if c.toNat = 13 then ['\\', 'r']
  else if c.toNat < 32 then
    ['\\', 'u', '0', '0', hexDigit (c.toNat / 16), hexDigit (c.toNat % 16)]
  else [c]

/-- A text as a JSON string literal. -/
def quote (text : String) : List Char :=
  '"' :: (chars text).flatMap quoteChar ++ ['"']

mutual

/-- The characters of `JSON.stringify`. -/
def stringifyChars : Json → List Char
  | .null => ['n', 'u', 'l', 'l']
  | .bool true => ['t', 'r', 'u', 'e']
  | .bool false => ['f', 'a', 'l', 's', 'e']
  | .num value => chars (toString value)
  | .dec value => chars value.text
  | .str text => quote text
  | .arr items => '[' :: [','].intercalate (stringifyItems items) ++ [']']
  | .obj fields => '\x7b' :: [','].intercalate (stringifyFields fields) ++ ['\x7d']

/-- The texts of the items of an array. -/
def stringifyItems : List Json → List (List Char)
  | [] => []
  | item :: items => stringifyChars item :: stringifyItems items

/-- The texts of the properties of an object. -/
def stringifyFields : List (String × Json) → List (List Char)
  | [] => []
  | (name, value) :: fields =>
      (quote name ++ ':' :: stringifyChars value) :: stringifyFields fields

end

/-- `JSON.stringify`. -/
def stringify (value : Json) : String :=
  String.ofList value.stringifyChars

example : (canonicalize (.obj [("b", .num 1), ("2", .null), ("a", .str "x")])).stringify =
    "\x7b\"2\":null,\"a\":\"x\",\"b\":1\x7d" := by
  decide +kernel

end Json

end BairuiPlatform
