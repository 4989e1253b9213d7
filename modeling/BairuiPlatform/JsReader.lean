/-
Module: BairuiPlatform.JsReader
Purpose: Bytes as UTF-8 text, and texts as JSON: TextDecoder, JSON.parse, and the texts that
JSON.stringify writes.
Trusted boundary: the reading of number literals
Main exports: decodeUtf8, encodeUtf8, JsData.parse, stringifyTexts, JsData.parse_stringifyTexts
-/
import Mathlib.Algebra.GroupWithZero.Nat
import BairuiPlatform.Foundations.OrderedMap
import BairuiPlatform.JsData

namespace BairuiPlatform

open Foundations

/-! ### UTF-8 -/

namespace Utf8

/-- What a decoder expects: how many bytes of a character are missing, the bits that it has, and
the bounds of the next byte. -/
structure Expected where
  missing : Nat
  code : Nat
  lower : Nat
  upper : Nat

/-- Nothing is begun. -/
def Expected.none : Expected :=
  { missing := 0, code := 0, lower := 0x80, upper := 0xBF }

/-- The UTF-16 code units of a code point. -/
def units (code : Nat) : JsText :=
  if code < 0x10000 then [code]
  else [0xD800 + (code - 0x10000) / 0x400, 0xDC00 + (code - 0x10000) % 0x400]

/-- What the first byte of a character gives, and what is expected after it. -/
def begin? (byte : Nat) : JsText × Expected :=
  if byte < 0x80 then ([byte], .none)
  else if 0xC2 ≤ byte && byte ≤ 0xDF then
    ([], { Expected.none with missing := 1, code := byte - 0xC0 })
  else if 0xE0 ≤ byte && byte ≤ 0xEF then
    ([], { missing := 2, code := byte - 0xE0, lower := if byte = 0xE0 then 0xA0 else 0x80
           upper := if byte = 0xED then 0x9F else 0xBF })
  else if 0xF0 ≤ byte && byte ≤ 0xF4 then
    ([], { missing := 3, code := byte - 0xF0, lower := if byte = 0xF0 then 0x90 else 0x80
           upper := if byte = 0xF4 then 0x8F else 0xBF })
  else ([0xFFFD], .none)

/-- The text of the bytes after what was begun. What is ill-formed becomes U+FFFD. -/
def decodeFrom : Expected → List Nat → JsText
  | expected, [] => if expected.missing = 0 then [] else [0xFFFD]
  | expected, byte :: rest =>
      if expected.missing = 0 then
        (begin? byte).1 ++ decodeFrom (begin? byte).2 rest
      else if byte < expected.lower || expected.upper < byte then
        0xFFFD :: (begin? byte).1 ++ decodeFrom (begin? byte).2 rest
      else if expected.missing = 1 then
        units (expected.code * 64 + (byte - 0x80)) ++ decodeFrom .none rest
      else
        decodeFrom { Expected.none with
          missing := expected.missing - 1, code := expected.code * 64 + (byte - 0x80) } rest

end Utf8

/-- `bytes.toString("utf8")`. -/
def decodeUtf8 (bytes : List UInt8) : JsText :=
  Utf8.decodeFrom .none (bytes.map UInt8.toNat)

/-- `Buffer.from(text, "utf8")`. -/
def encodeUtf8 (text : JsText) : List UInt8 :=
  text.characters.flatMap String.utf8EncodeChar

/-! ### JSON -/

/-- How a number literal is read, which is a matter of floating point. -/
class NumberReader where
  read : JsText → JsData

namespace JsData

def isSpace (unit : Nat) : Bool :=
  unit = 32 || unit = 9 || unit = 10 || unit = 13

/-- The text from its next token on. -/
def skipSpace (text : JsText) : JsText :=
  text.dropWhile isSpace

def isDigit (unit : Nat) : Bool :=
  48 ≤ unit && unit ≤ 57

def hexDigit? (unit : Nat) : Option Nat :=
  if isDigit unit then some (unit - 48)
  else if 97 ≤ unit && unit ≤ 102 then some (unit - 87)
  else if 65 ≤ unit && unit ≤ 70 then some (unit - 55)
  else none

/-- The code unit behind a backslash that stands for one. -/
def escape? (unit : Nat) : Option Nat :=
  if unit = 34 || unit = 92 || unit = 47 then some unit
  else if unit = 98 then some 8
  else if unit = 102 then some 12
  else if unit = 110 then some 10
  else if unit = 114 then some 13
  else if unit = 116 then some 9
  else none

/-- The text of a string after its opening quote, and what is behind it. -/
def parseString : JsText → Option (JsText × JsText)
  | [] => none
  | 34 :: rest => some ([], rest)
  | 92 :: 117 :: first :: second :: third :: fourth :: rest =>
      ([first, second, third, fourth].mapM hexDigit?).bind fun digits =>
        (parseString rest).map fun parsed =>
          (digits.foldl (fun code digit => code * 16 + digit) 0 :: parsed.1, parsed.2)
  | 92 :: escaped :: rest =>
      (escape? escaped).bind fun unit =>
        (parseString rest).map fun parsed => (unit :: parsed.1, parsed.2)
  | unit :: rest =>
      if unit < 32 then none
      else (parseString rest).map fun parsed => (unit :: parsed.1, parsed.2)

/-- The digits of an optional part of a number, after its mark. -/
def digitsAfter (mark : JsText) (text : JsText) : Option (JsText × JsText) :=
  let digits := text.takeWhile isDigit
  if digits = [] then none else some (mark ++ digits, text.dropWhile isDigit)

/-- The literal of a number, and what is behind it. -/
def numberLiteral (text : JsText) : Option (JsText × JsText) := do
  let (sign, unsigned) := match text with
    | 45 :: rest => ([45], rest)
    | text => ([], text)
  let integer := match unsigned with
    | 48 :: _ => [48]
    | unsigned => unsigned.takeWhile isDigit
  if integer = [] then none
  else
    let rest := unsigned.drop integer.length
    let (fraction, rest) ← match rest with
      | 46 :: rest => digitsAfter [46] rest
      | rest => some ([], rest)
    let (exponent, rest) ← match rest with
      | 101 :: 43 :: rest | 69 :: 43 :: rest => digitsAfter [101, 43] rest
      | 101 :: 45 :: rest | 69 :: 45 :: rest => digitsAfter [101, 45] rest
      | 101 :: rest | 69 :: rest => digitsAfter [101] rest
      | rest => some ([], rest)
    return (sign ++ integer ++ fraction ++ exponent, rest)

/-- A keyword or a number, and what is behind it. -/
def parseScalar [NumberReader] (text : JsText) : Option (JsData × JsText) :=
  if (utf16 "null").isPrefixOf text then some (.null, text.drop 4)
  else if (utf16 "true").isPrefixOf text then some (.bool true, text.drop 4)
  else if (utf16 "false").isPrefixOf text then some (.bool false, text.drop 5)
  else (numberLiteral text).map fun parsed => (NumberReader.read parsed.1, parsed.2)

/-- The object of properties, the last value of a name counting. -/
def ofProperties (fields : List (JsText × JsData)) : JsData :=
  .obj (fields.foldl (fun (object : OrderedMap JsText JsData) field =>
    object.set field.1 field.2) .empty).entries

mutual

/-- The first value of a text, nested at most `depth` deep, and what is behind it. -/
def parseValue [NumberReader] : Nat → JsText → Option (JsData × JsText)
  | 0, _ => none
  | depth + 1, text =>
      match skipSpace text with
      | 34 :: rest => (parseString rest).map fun parsed => (.str parsed.1, parsed.2)
      | 91 :: rest =>
          match skipSpace rest with
          | 93 :: rest => some (.arr [], rest)
          | rest => (parseItems depth rest).map fun parsed => (.arr parsed.1, parsed.2)
      | 123 :: rest =>
          match skipSpace rest with
          | 125 :: rest => some (.obj [], rest)
          | rest => (parseFields depth rest).map fun parsed => (ofProperties parsed.1, parsed.2)
      | text => parseScalar text

/-- The items of an array up to its closing bracket, and what is behind it. -/
def parseItems [NumberReader] : Nat → JsText → Option (List JsData × JsText)
  | 0, _ => none
  | depth + 1, text =>
      (parseValue depth text).bind fun item =>
        match skipSpace item.2 with
        | 44 :: rest => (parseItems depth rest).map fun items => (item.1 :: items.1, items.2)
        | 93 :: rest => some ([item.1], rest)
        | _ => none

/-- The properties of an object up to its closing brace, and what is behind it. -/
def parseFields [NumberReader] : Nat → JsText → Option (List (JsText × JsData) × JsText)
  | 0, _ => none
  | depth + 1, text =>
      match skipSpace text with
      | 34 :: rest =>
          (parseString rest).bind fun name =>
            match skipSpace name.2 with
            | 58 :: rest =>
                (parseValue depth rest).bind fun value =>
                  match skipSpace value.2 with
                  | 44 :: rest =>
                      (parseFields depth rest).map fun fields =>
                        ((name.1, value.1) :: fields.1, fields.2)
                  | 125 :: rest => some ([(name.1, value.1)], rest)
                  | _ => none
            | _ => none
      | _ => none

end

/-- `JSON.parse(text)`; nothing where it throws. -/
def parse [NumberReader] (text : JsText) : Option JsData :=
  match parseValue (text.length + 1) text with
  | some (value, rest) => if skipSpace rest = [] then some value else none
  | none => none

end JsData

namespace JsText

/-- Four hexadecimal digits of a code unit. -/
def hexDigits (unit : Nat) : JsText :=
  [12, 8, 4, 0].map fun shift =>
    let digit := (unit >>> shift) % 16
    if digit < 10 then 48 + digit else 87 + digit

/-- How `JSON.stringify` writes a code unit that may not stand as it is. -/
def escaped (unit : Nat) : JsText :=
  if unit = 34 || unit = 92 then [92, unit]
  else if unit = 8 then utf16 "\\b"
  else if unit = 9 then utf16 "\\t"
  else if unit = 10 then utf16 "\\n"
  else if unit = 12 then utf16 "\\f"
  else if unit = 13 then utf16 "\\r"
  else if unit < 32 then utf16 "\\u" ++ hexDigits unit
  else [unit]

/-- The text between the quotes. Half of a surrogate pair is written by its code. -/
def escapedText : JsText → JsText
  | high :: low :: rest =>
      if isHigh high && isLow low then high :: low :: escapedText rest
      else if isSurrogate high then utf16 "\\u" ++ hexDigits high ++ escapedText (low :: rest)
      else escaped high ++ escapedText (low :: rest)
  | [unit] => if isSurrogate unit then utf16 "\\u" ++ hexDigits unit else escaped unit
  | [] => []

/-- `JSON.stringify(text)`. -/
def quote (text : JsText) : JsText :=
  34 :: escapedText text ++ [34]

end JsText

/-- A property of an object of texts, as it is written. -/
def writtenField (field : JsText × JsText) : JsText :=
  field.1.quote ++ 58 :: field.2.quote

/-- `JSON.stringify` of an object of texts. -/
def stringifyTexts (fields : List (JsText × JsText)) : JsText :=
  123 :: [44].intercalate (fields.map writtenField) ++ [125]

/-! ### Plain texts are read back -/

/-- A text of printable ASCII units without quotes and backslashes. -/
def IsPrintable (text : JsText) : Prop :=
  ∀ unit ∈ text, 32 ≤ unit ∧ unit < 128 ∧ unit ≠ 34 ∧ unit ≠ 92

instance : DecidablePred IsPrintable := fun text =>
  inferInstanceAs (Decidable (∀ unit ∈ text, 32 ≤ unit ∧ unit < 128 ∧ unit ≠ 34 ∧ unit ≠ 92))

/-- A character below 128 is its only byte. -/
theorem toNat_utf8EncodeChar {unit : Nat} (small : unit < 128) :
    (String.utf8EncodeChar (.ofNat unit)).map UInt8.toNat = [unit] := by
  have all : ∀ unit < 128, (String.utf8EncodeChar (.ofNat unit)).map UInt8.toNat = [unit] := by
    decide +kernel
  exact all unit small

section Ascii

variable {text : JsText} (ascii : ∀ unit ∈ text, unit < 128)

include ascii

theorem characters_of_ascii : text.characters = text.map Char.ofNat := by
  induction text with
  | nil => rfl
  | cons unit text ih =>
      rw [List.forall_mem_cons] at ascii
      have plain := @JsText.isSurrogate_of_lt unit (by omega)
      cases text with
      | nil =>
          rw [JsText.characters, JsText.replaced_eq_self.mpr plain]
          rfl
      | cons next text =>
          rw [JsText.characters, JsText.not_isHigh_of_plain plain, Bool.false_and,
            if_neg Bool.false_ne_true, JsText.replaced_eq_self.mpr plain, ih ascii.2]
          rfl

theorem toNat_encodeUtf8 : (encodeUtf8 text).map UInt8.toNat = text := by
  unfold encodeUtf8
  rw [characters_of_ascii ascii]
  induction text with
  | nil => rfl
  | cons unit text ih =>
      rw [List.forall_mem_cons] at ascii
      rw [List.map_cons, List.flatMap_cons, List.map_append, ih ascii.2,
        toNat_utf8EncodeChar ascii.1]
      rfl

theorem decodeUtf8_encodeUtf8 : decodeUtf8 (encodeUtf8 text) = text := by
  unfold decodeUtf8
  rw [toNat_encodeUtf8 ascii]
  induction text with
  | nil => rfl
  | cons unit text ih =>
      rw [List.forall_mem_cons] at ascii
      have first : Utf8.begin? unit = ([unit], .none) := if_pos ascii.1
      have nothing : Utf8.Expected.none.missing = 0 := rfl
      rw [Utf8.decodeFrom, if_pos nothing, first, ih ascii.2]
      rfl

end Ascii

section Printable

variable {text : JsText} (printable : IsPrintable text)

include printable

theorem ascii_of_isPrintable : ∀ unit ∈ text, unit < 128 :=
  fun unit member => (printable unit member).2.1

theorem escapedText_of_isPrintable : text.escapedText = text := by
  induction text with
  | nil => rfl
  | cons unit text ih =>
      rw [IsPrintable, List.forall_mem_cons] at printable
      obtain ⟨⟨low, high, quotation, backslash⟩, others⟩ := printable
      have plain := @JsText.isSurrogate_of_lt unit (by omega)
      have itself : JsText.escaped unit = [unit] := by
        have control : ∀ code < 32, unit ≠ code := fun code small same => by omega
        unfold JsText.escaped
        simp [quotation, backslash, control, low]
      cases text with
      | nil =>
          rw [JsText.escapedText, plain, if_neg Bool.false_ne_true]
          exact itself
      | cons next text =>
          rw [JsText.escapedText, JsText.not_isHigh_of_plain plain, Bool.false_and,
            if_neg Bool.false_ne_true, plain, if_neg Bool.false_ne_true, itself, ih others]
          rfl

theorem quote_of_isPrintable : text.quote = 34 :: text ++ [34] := by
  unfold JsText.quote
  rw [escapedText_of_isPrintable printable]

theorem parseString_of_isPrintable (rest : JsText) :
    JsData.parseString (text ++ 34 :: rest) = some (text, rest) := by
  induction text with
  | nil => rfl
  | cons unit text ih =>
      rw [IsPrintable, List.forall_mem_cons] at printable
      obtain ⟨⟨low, high, quotation, backslash⟩, others⟩ := printable
      rw [List.cons_append, JsData.parseString, if_neg (Nat.not_lt.mpr low), ih others]
      · rfl
      · exact quotation
      · exact fun _ _ _ _ _ same _ => backslash same
      · exact fun _ _ same _ => backslash same

end Printable

section WrittenFields

variable {field next : JsText × JsText} {fields : List (JsText × JsText)}

theorem intercalate_singleton :
    [44].intercalate ([field].map writtenField) = writtenField field := by
  simp [List.intercalate]

theorem intercalate_written_cons :
    [44].intercalate ((field :: next :: fields).map writtenField) =
      writtenField field ++ 44 :: [44].intercalate ((next :: fields).map writtenField) := by
  simp [List.intercalate]

/-- Properties begin with the quote of a name, and each has a length. -/
theorem intercalate_writtenField (nonempty : fields ≠ []) :
    ∃ more, [44].intercalate (fields.map writtenField) = 34 :: more ∧
      fields.length ≤ more.length + 1 := by
  induction fields with
  | nil => exact absurd rfl nonempty
  | cons field fields ih =>
      cases fields with
      | nil => exact ⟨_, intercalate_singleton, Nat.le_add_left 1 _⟩
      | cons next fields =>
          obtain ⟨more, same, long⟩ := ih (List.cons_ne_nil _ _)
          refine ⟨field.1.escapedText ++ [34] ++ 58 :: field.2.quote ++ 44 :: 34 :: more, ?_, ?_⟩
          · rw [intercalate_written_cons, same]
            rfl
          · simp only [List.length_append, List.length_cons] at long ⊢
            omega

/-- A property whose name and value are plain texts. -/
def IsPlainField (field : JsText × JsText) : Prop :=
  IsPrintable field.1 ∧ IsPrintable field.2

theorem writtenField_of_isPlainField (plain : IsPlainField field) :
    writtenField field = 34 :: field.1 ++ 34 :: 58 :: 34 :: field.2 ++ [34] := by
  unfold writtenField
  rw [quote_of_isPrintable plain.1, quote_of_isPrintable plain.2]
  simp

/-- Plain properties are written in ASCII. -/
theorem ascii_stringifyTexts (plain : ∀ field ∈ fields, IsPlainField field) :
    ∀ unit ∈ stringifyTexts fields, unit < 128 := by
  have written : ∀ unit ∈ [44].intercalate (fields.map writtenField), unit < 128 := by
    have single {field : JsText × JsText} (plain : IsPlainField field) :
        ∀ unit ∈ writtenField field, unit < 128 := by
      rw [writtenField_of_isPlainField plain]
      simp only [List.forall_mem_append, List.forall_mem_cons]
      have name := ascii_of_isPrintable plain.1
      have value := ascii_of_isPrintable plain.2
      have none (unit : Nat) (member : unit ∈ []) : unit < 128 := absurd member List.not_mem_nil
      exact ⟨⟨⟨by decide, name⟩, by decide, by decide, by decide, value⟩, by decide, none⟩
    induction fields with
    | nil => exact fun unit member => absurd member List.not_mem_nil
    | cons field fields ih =>
        rw [List.forall_mem_cons] at plain
        cases fields with
        | nil =>
            rw [intercalate_singleton]
            exact single plain.1
        | cons next fields =>
            rw [intercalate_written_cons, List.forall_mem_append, List.forall_mem_cons]
            exact ⟨single plain.1, by decide, ih plain.2⟩
  unfold stringifyTexts
  rw [List.forall_mem_append, List.forall_mem_cons]
  exact ⟨⟨by decide, written⟩, by decide⟩

/-- Around the name and the value of each property stand at most six units. -/
theorem length_stringifyTexts (plain : ∀ field ∈ fields, IsPlainField field) :
    (stringifyTexts fields).length ≤
      2 + (fields.map fun field => field.1.length + field.2.length + 6).sum := by
  have written : ([44].intercalate (fields.map writtenField)).length ≤
      (fields.map fun field => field.1.length + field.2.length + 6).sum := by
    have single {field : JsText × JsText} (plain : IsPlainField field) :
        (writtenField field).length = field.1.length + field.2.length + 5 := by
      rw [writtenField_of_isPlainField plain]
      simp only [List.length_append, List.length_cons, List.length_nil]
      omega
    induction fields with
    | nil => exact Nat.le_refl 0
    | cons field fields ih =>
        rw [List.forall_mem_cons] at plain
        have others := ih plain.2
        cases fields with
        | nil =>
            rw [intercalate_singleton, single plain.1, List.map_singleton, List.sum_singleton]
            omega
        | cons next fields =>
            rw [intercalate_written_cons, List.length_append, List.length_cons, single plain.1]
            simp only [List.map_cons, List.sum_cons] at others ⊢
            omega
  unfold stringifyTexts
  simp only [List.length_append, List.length_cons, List.length_nil]
  omega

end WrittenFields

namespace JsData

variable [NumberReader]

theorem parseValue_string (depth : Nat) (text : JsText) :
    parseValue (depth + 1) (34 :: text) =
      (parseString text).map fun parsed => (.str parsed.1, parsed.2) := by
  rw [parseValue]
  rfl

theorem parseValue_object (depth : Nat) (text : JsText) :
    parseValue (depth + 1) (123 :: 34 :: text) =
      (parseFields depth (34 :: text)).map fun parsed => (ofProperties parsed.1, parsed.2) := by
  rw [parseValue]
  rfl

/-- What is read behind a property. -/
def parseMore (depth : Nat) (field : JsText × JsData) (text : JsText) :
    Option (List (JsText × JsData) × JsText) :=
  match skipSpace text with
  | 44 :: rest => (parseFields depth rest).map fun fields => (field :: fields.1, fields.2)
  | 125 :: rest => some ([field], rest)
  | _ => none

theorem parseFields_quote (depth : Nat) (text : JsText) :
    parseFields (depth + 1) (34 :: text) =
      (parseString text).bind fun name =>
        match skipSpace name.2 with
        | 58 :: rest =>
            (parseValue depth rest).bind fun value => parseMore depth (name.1, value.1) value.2
        | _ => none := by
  rw [parseFields]
  rfl

/-- The name of a property, its colon and its value are read. -/
theorem parseFields_writtenField {field : JsText × JsText} (plain : IsPlainField field)
    (depth : Nat) (rest : JsText) :
    parseFields (depth + 2) (writtenField field ++ rest) =
      parseMore (depth + 1) (field.1, .str field.2) rest := by
  have whole : writtenField field ++ rest =
      34 :: (field.1 ++ 34 :: 58 :: 34 :: (field.2 ++ 34 :: rest)) := by
    rw [writtenField_of_isPlainField plain]
    simp
  have value : parseValue (depth + 1) (34 :: (field.2 ++ 34 :: rest)) =
      some (.str field.2, rest) := by
    rw [parseValue_string, parseString_of_isPrintable plain.2]
    rfl
  have read : (parseValue (depth + 1) (34 :: (field.2 ++ 34 :: rest))).bind
      (fun value => parseMore (depth + 1) (field.1, value.1) value.2) =
        parseMore (depth + 1) (field.1, .str field.2) rest := by
    rw [value]
    rfl
  rw [whole, parseFields_quote, parseString_of_isPrintable plain.1, Option.bind_some]
  exact read

/-- The properties of an object of texts are read back, whatever follows. -/
theorem parseFields_intercalate {fields : List (JsText × JsText)} {depth : Nat}
    (deep : fields.length < depth) (nonempty : fields ≠ [])
    (plain : ∀ field ∈ fields, IsPlainField field) (rest : JsText) :
    parseFields depth ([44].intercalate (fields.map writtenField) ++ 125 :: rest) =
      some (fields.map fun field => (field.1, .str field.2), rest) := by
  induction fields generalizing depth with
  | nil => exact absurd rfl nonempty
  | cons field fields ih =>
      rw [List.forall_mem_cons] at plain
      rw [List.length_cons] at deep
      obtain ⟨depth, rfl⟩ : ∃ less, depth = less + 2 := ⟨depth - 2, by omega⟩
      cases fields with
      | nil =>
          rw [intercalate_singleton, parseFields_writtenField plain.1]
          rfl
      | cons next fields =>
          have others := ih (Nat.lt_of_succ_lt_succ deep) (List.cons_ne_nil _ _) plain.2
          have comma (text : JsText) (value : JsText × JsData) :
              parseMore (depth + 1) value (44 :: text) =
                (parseFields (depth + 1) text).map fun fields =>
                  (value :: fields.1, fields.2) := rfl
          rw [intercalate_written_cons, List.append_assoc, parseFields_writtenField plain.1,
            List.cons_append, comma, others]
          rfl

/-- What `JSON.stringify` writes of an object of plain texts, `JSON.parse` reads. -/
theorem parse_stringifyTexts {fields : List (JsText × JsText)} (nonempty : fields ≠ [])
    (apart : Keyed Prod.fst fields) (plain : ∀ field ∈ fields, IsPlainField field) :
    parse (stringifyTexts fields) =
      some (.obj (fields.map fun field => (field.1, .str field.2))) := by
  obtain ⟨more, same, long⟩ := intercalate_writtenField nonempty
  let data : List (JsText × JsData) := fields.map fun field => (field.1, .str field.2)
  have deep : fields.length < (stringifyTexts fields).length := by
    unfold stringifyTexts
    rw [same]
    simp only [List.length_append, List.length_cons]
    omega
  have inner : parseFields (stringifyTexts fields).length (34 :: more ++ [125]) =
      some (data, []) := by
    rw [← same]
    exact parseFields_intercalate deep nonempty plain []
  have properties : ofProperties data = .obj data := by
    have keyed : Keyed Prod.fst data := by
      unfold Keyed
      rw [List.map_map]
      exact apart
    unfold ofProperties
    rw [OrderedMap.entries_foldl_set keyed]
    rfl
  have whole : parseValue ((stringifyTexts fields).length + 1) (stringifyTexts fields) =
      some (.obj data, []) := by
    have opened : stringifyTexts fields = 123 :: 34 :: (more ++ [125]) := by
      unfold stringifyTexts
      rw [same]
      rfl
    have object := parseValue_object (stringifyTexts fields).length (more ++ [125])
    rw [List.cons_append] at inner
    rw [← opened, inner, Option.map_some, properties] at object
    exact object
  unfold parse
  rw [whole]
  rfl

end JsData

end BairuiPlatform
