/-
Module: BairuiPlatform.JsonStorage
Purpose: What becomes of a JSON value that is stored in a jsonb column and read back, and
  what can be told from the text of a value.
Trusted boundary: none
Main exports: Json.stringify_injective, Json.storageOrder, Json.readBack,
  Json.NamesDistinct, Json.canonicalize_readBack
-/
import BairuiPlatform.Foundations.Codes
import BairuiPlatform.Foundations.Table
import BairuiPlatform.JsonText

namespace BairuiPlatform

open Foundations

namespace Json

/-! ### Values can be told from their texts -/

/-- The first character of a quoted text and what it stands for. -/
def unquoteChar : List Char → Option (Char × List Char)
  | '\\' :: 'u' :: _ :: _ :: high :: low :: rest =>
      (hexValue? high).bind fun high => (hexValue? low).map fun low =>
        (Char.ofNat (16 * high + low), rest)
  | '\\' :: escaped :: rest => (simpleEscape? escaped).map fun c => (c, rest)
  | c :: rest => some (c, rest)
  | [] => none

theorem hexValue?_hexDigit : ∀ value < 16, hexValue? (hexDigit value) = some value := by
  decide

theorem unquoteChar_quoteChar (c : Char) (rest : List Char) :
    unquoteChar (quoteChar c ++ rest) = some (c, rest) := by
  have named : ∀ code, c.toNat = code → Char.ofNat code = c := by
    intro code same
    rw [← same, Char.ofNat_toNat]
  unfold quoteChar
  split
  · rename_i quote
    rw [quote]
    rfl
  split
  · rename_i backslash
    rw [backslash]
    rfl
  rename_i backslash
  iterate 5
    split
    · rename_i code
      rw [← named _ code]
      rfl
  split
  · rename_i control
    have high := hexValue?_hexDigit (c.toNat / 16) (by omega)
    have low := hexValue?_hexDigit (c.toNat % 16) (by omega)
    simp only [List.cons_append, List.nil_append, unquoteChar, high, low, Option.bind_some,
      Option.map_some, Nat.div_add_mod, Char.ofNat_toNat]
  · simp [unquoteChar, backslash]

/-- The code of a character in a quoted text does not begin with a quote. -/
theorem quoteChar_opens (c : Char) : ∃ head tail, quoteChar c = head :: tail ∧ head ≠ '"' := by
  unfold quoteChar
  split
  · exact ⟨_, _, rfl, by decide⟩
  rename_i quote
  iterate 7
    split
    · exact ⟨_, _, rfl, by decide⟩
  exact ⟨_, _, rfl, quote⟩

theorem quote_readsBack (text : String) : ReadsBack quote (fun _ => True) text := by
  intro other rest rest' _ _ same
  simp only [quote, List.cons_append, List.append_assoc, List.cons.injEq, true_and] at same
  obtain ⟨letters, ends⟩ := readsBack_flatMap
    (readsBack_of_decoder unquoteChar fun c rest _ => unquoteChar_quoteChar c rest)
    quoteChar_opens _ _ _ _ same
  rw [chars_eq_toList, chars_eq_toList] at letters
  exact ⟨String.toList_inj.mp letters, ends⟩

/-- No character of a number stands at the front of the text. -/
def EndsNumber (rest : List Char) : Prop :=
  ∀ c ∈ rest.head?, isNumberChar c = false

theorem isNumberChar_of_isDigit {c : Char} (digit : c.isDigit = true) : isNumberChar c = true := by
  rw [isNumberChar, digit, Bool.true_or]

/-- The characters of a number end where the number ends. -/
theorem takeWhile_number {text rest : List Char} (number : text.all isNumberChar = true)
    (ends : EndsNumber rest) : (text ++ rest).takeWhile isNumberChar = text := by
  rw [List.takeWhile_append_of_pos (List.all_eq_true.mp number)]
  cases rest with
  | nil => simp
  | cons c rest => simp [ends c rfl]

theorem toDigits_all (number : Nat) : (Nat.toDigits 10 number).all isNumberChar = true := by
  rw [List.all_eq_true]
  intro c member
  exact isNumberChar_of_isDigit (Nat.isDigit_of_mem_toDigits (by decide) (by decide) member)

theorem nat_readsBack (value : Nat) : ReadsBack (Nat.toDigits 10) EndsNumber value := by
  intro other rest rest' ends ends' same
  have numbers : Nat.toDigits 10 value = Nat.toDigits 10 other := by
    rw [← takeWhile_number (toDigits_all value) ends, same,
      takeWhile_number (toDigits_all other) ends']
  have values := congrArg (fun letters => Nat.ofDigitChars 10 letters 0) numbers
  simp only [Nat.ofDigitChars_ten_toDigits] at values
  rw [numbers] at same
  exact ⟨values, List.append_cancel_left same⟩

/-- The text of an integer. -/
theorem chars_toString_int (value : Int) :
    chars (toString value) = match value with
      | .ofNat number => Nat.toDigits 10 number
      | .negSucc number => '-' :: Nat.toDigits 10 (number + 1) := by
  rw [chars_eq_toList]
  cases value with
  | ofNat number => exact Nat.toList_repr
  | negSucc number =>
      show ("-" ++ Nat.repr (number + 1)).toList = _
      rw [String.toList_append, Nat.toList_repr]
      rfl

/-- No digit is a sign. -/
theorem toDigits_ne_sign (number : Nat) (tail rest : List Char) :
    Nat.toDigits 10 number ++ tail ≠ '-' :: rest := by
  intro same
  cases written : Nat.toDigits 10 number with
  | nil => exact Nat.toDigits_ne_nil written
  | cons c digits =>
      have digit : c.isDigit = true :=
        Nat.isDigit_of_mem_toDigits (by decide) (by decide) (written ▸ List.mem_cons_self)
      rw [written] at same
      rw [(List.cons.inj same).1] at digit
      cases digit

theorem int_readsBack (value : Int) :
    ReadsBack (fun value : Int => chars (toString value)) EndsNumber value := by
  intro other rest rest' ends ends' same
  simp only [chars_toString_int] at same
  cases value with
  | ofNat value =>
      cases other with
      | ofNat other =>
          obtain ⟨rfl, tails⟩ := nat_readsBack value other rest rest' ends ends' same
          exact ⟨rfl, tails⟩
      | negSucc other => exact absurd same (toDigits_ne_sign value rest _)
  | negSucc value =>
      cases other with
      | ofNat other => exact absurd same.symm (toDigits_ne_sign other rest' _)
      | negSucc other =>
          obtain ⟨numbers, tails⟩ :=
            nat_readsBack (value + 1) (other + 1) rest rest' ends ends' (List.cons.inj same).2
          rw [Nat.succ_injective numbers]
          exact ⟨rfl, tails⟩

/-- The text of an integer has the characters of a number, and neither point nor exponent. -/
theorem chars_toString_int_all (value : Int) :
    (chars (toString value)).all isNumberChar = true ∧
      (chars (toString value)).contains '.' = false ∧
      (chars (toString value)).contains 'e' = false := by
  have plain : ∀ number, ∀ mark ∈ ['.', 'e'], mark ∉ Nat.toDigits 10 number := by
    intro number mark isMark member
    have digit := Nat.isDigit_of_mem_toDigits (by decide) (by decide) member
    simp only [List.mem_cons, List.not_mem_nil, or_false] at isMark
    rcases isMark with rfl | rfl <;> exact absurd digit (by decide)
  rw [chars_toString_int]
  cases value with
  | ofNat number =>
      exact ⟨toDigits_all number, by simpa using plain number '.' (by decide),
        by simpa using plain number 'e' (by decide)⟩
  | negSucc number =>
      refine ⟨?_, by simpa using plain (number + 1) '.' (by decide),
        by simpa using plain (number + 1) 'e' (by decide)⟩
      rw [List.all_cons, toDigits_all]
      decide

theorem decimal_all (value : DecimalText) : (chars value.text).all isNumberChar = true := by
  have shaped := value.shaped
  simp only [isDecimalText, Bool.and_eq_true] at shaped
  exact shaped.1.1

theorem decimal_readsBack (value : DecimalText) :
    ReadsBack (fun value : DecimalText => chars value.text) EndsNumber value := by
  intro other rest rest' ends ends' same
  have texts : chars value.text = chars other.text := by
    rw [← takeWhile_number (decimal_all value) ends, same,
      takeWhile_number (decimal_all other) ends']
  refine ⟨?_, ?_⟩
  · rw [chars_eq_toList, chars_eq_toList] at texts
    obtain ⟨text, _⟩ := value
    obtain ⟨otherText, _⟩ := other
    cases String.toList_inj.mp texts
    rfl
  · dsimp only at same
    rw [texts] at same
    exact List.append_cancel_left same

/-- No integer has the text of a decimal. -/
theorem int_ne_decimal {value : Int} {other : DecimalText} {rest rest' : List Char}
    (ends : EndsNumber rest) (ends' : EndsNumber rest') :
    chars (toString value) ++ rest ≠ chars other.text ++ rest' := by
  intro same
  obtain ⟨number, point, exponent⟩ := chars_toString_int_all value
  have texts : chars (toString value) = chars other.text := by
    rw [← takeWhile_number number ends, same, takeWhile_number (decimal_all other) ends']
  have shaped := other.shaped
  rw [← texts, isDecimalText, point, exponent] at shaped
  simp at shaped

/-- The kinds of values, by the first characters of their texts. -/
inductive Kind where
  | null
  | bool
  | num
  | str
  | arr
  | obj
deriving DecidableEq

/-- The kind of a value. -/
def kind : Json → Kind
  | .null => .null
  | .bool _ => .bool
  | .num _ => .num
  | .dec _ => .num
  | .str _ => .str
  | .arr _ => .arr
  | .obj _ => .obj

/-- The kind of value that a character begins. -/
def kindOf? (c : Char) : Option Kind :=
  if c = 'n' then some .null
  else if c = 't' ∨ c = 'f' then some .bool
  else if c = '"' then some .str
  else if c = '[' then some .arr
  else if c = '\x7b' then some .obj
  else if c = '-' ∨ c.isDigit then some .num
  else none

theorem kindOf?_digit {c : Char} (digit : c.isDigit = true) : kindOf? c = some .num := by
  have apart : ∀ other ∈ ['n', 't', 'f', '"', '[', '\x7b'], c ≠ other := by
    rintro other member rfl
    revert digit
    simp only [List.mem_cons, List.not_mem_nil, or_false] at member
    rcases member with rfl | rfl | rfl | rfl | rfl | rfl <;> decide
  simp only [List.forall_mem_cons] at apart
  obtain ⟨letterN, letterT, letterF, quote, bracket, brace, -⟩ := apart
  simp [kindOf?, letterN, letterT, letterF, quote, bracket, brace, digit]

/-- The text of a value begins with a character of its kind. -/
theorem stringifyChars_opens (value : Json) :
    ∃ head tail, stringifyChars value = head :: tail ∧ kindOf? head = some value.kind := by
  cases value with
  | null => exact ⟨_, _, rfl, by decide⟩
  | bool value => cases value <;> exact ⟨_, _, rfl, by decide⟩
  | str text => exact ⟨_, _, rfl, rfl⟩
  | arr items => exact ⟨_, _, rfl, rfl⟩
  | obj fields => exact ⟨_, _, rfl, rfl⟩
  | num value =>
      rw [stringifyChars, chars_toString_int]
      cases value with
      | negSucc number => exact ⟨_, _, rfl, rfl⟩
      | ofNat number =>
          cases written : Nat.toDigits 10 number with
          | nil => exact absurd written Nat.toDigits_ne_nil
          | cons c digits =>
              have digit : c.isDigit = true :=
                Nat.isDigit_of_mem_toDigits (by decide) (by decide) (written ▸ List.mem_cons_self)
              exact ⟨c, digits, written, kindOf?_digit digit⟩
  | dec value =>
      have shaped := value.shaped
      rw [stringifyChars]
      cases written : chars value.text with
      | nil =>
          rw [written] at shaped
          cases shaped
      | cons c rest =>
          rw [written] at shaped
          simp only [isDecimalText, List.head?_cons, Option.any_some, Bool.and_eq_true,
            Bool.or_eq_true, decide_eq_true_eq] at shaped
          refine ⟨c, rest, rfl, ?_⟩
          rcases shaped.2 with rfl | digit
          · rfl
          · exact kindOf?_digit digit

/-- Values whose texts begin alike are of one kind. -/
theorem kind_eq_of_append_eq {value other : Json} {rest rest' : List Char}
    (same : stringifyChars value ++ rest = stringifyChars other ++ rest') :
    value.kind = other.kind := by
  obtain ⟨head, tail, begins, kinds⟩ := stringifyChars_opens value
  obtain ⟨head', tail', begins', kinds'⟩ := stringifyChars_opens other
  rw [begins, begins'] at same
  rw [(List.cons.inj same).1] at kinds
  exact Option.some.inj (kinds.symm.trans kinds')

theorem stringifyItems_eq_map (items : List Json) :
    stringifyItems items = items.map stringifyChars := by
  induction items with
  | nil => rfl
  | cons item items ih => rw [stringifyItems, ih, List.map_cons]

/-- The text of a property. -/
def fieldChars (field : String × Json) : List Char :=
  quote field.1 ++ ':' :: stringifyChars field.2

theorem stringifyFields_eq_map (fields : List (String × Json)) :
    stringifyFields fields = fields.map fieldChars := by
  induction fields with
  | nil => rfl
  | cons field fields ih => rw [stringifyFields, ih, List.map_cons, fieldChars]

theorem fieldChars_readsBack {field : String × Json}
    (value : ReadsBack stringifyChars EndsNumber field.2) :
    ReadsBack fieldChars EndsNumber field := by
  intro other rest rest' ends ends' same
  simp only [fieldChars, List.append_assoc, List.cons_append] at same
  obtain ⟨names, behind⟩ := quote_readsBack field.1 other.1 _ _ trivial trivial same
  obtain ⟨values, tails⟩ := value other.2 rest rest' ends ends' (List.cons.inj behind).2
  exact ⟨Prod.ext names values, tails⟩

theorem fieldChars_opens (field : String × Json) :
    ∃ head tail, fieldChars field = head :: tail ∧ head ≠ '\x7d' :=
  ⟨_, _, rfl, by decide⟩

theorem stringifyChars_not_close (value : Json) :
    ∃ head tail, stringifyChars value = head :: tail ∧ head ≠ ']' := by
  obtain ⟨head, tail, begins, kinds⟩ := stringifyChars_opens value
  refine ⟨head, tail, begins, ?_⟩
  rintro rfl
  cases kinds

theorem endsNumber_of_mark {mark : Char} (rest : List Char) (plain : isNumberChar mark = false) :
    EndsNumber (mark :: rest) := by
  intro c head
  cases head
  exact plain

mutual

/-- A value can be told from its text, whatever follows that is no part of a number. -/
theorem stringifyChars_readsBack : ∀ value, ReadsBack stringifyChars EndsNumber value
  | .null => by
      intro other rest rest' _ _ same
      cases other with
      | null => exact ⟨rfl, List.append_cancel_left same⟩
      | _ => cases kind_eq_of_append_eq same
  | .bool value => by
      intro other rest rest' _ _ same
      cases other with
      | bool other =>
          cases value with
          | true =>
              cases other with
              | true => exact ⟨rfl, List.append_cancel_left same⟩
              | false => cases same
          | false =>
              cases other with
              | true => cases same
              | false => exact ⟨rfl, List.append_cancel_left same⟩
      | _ => cases kind_eq_of_append_eq same
  | .num value => by
      intro other rest rest' ends ends' same
      cases other with
      | num other =>
          obtain ⟨rfl, tails⟩ := int_readsBack value other rest rest' ends ends' same
          exact ⟨rfl, tails⟩
      | dec other => exact absurd same (int_ne_decimal ends ends')
      | _ => cases kind_eq_of_append_eq same
  | .dec value => by
      intro other rest rest' ends ends' same
      cases other with
      | dec other =>
          obtain ⟨rfl, tails⟩ := decimal_readsBack value other rest rest' ends ends' same
          exact ⟨rfl, tails⟩
      | num other => exact absurd same.symm (int_ne_decimal ends' ends)
      | _ => cases kind_eq_of_append_eq same
  | .str text => by
      intro other rest rest' _ _ same
      cases other with
      | str other =>
          obtain ⟨rfl, tails⟩ := quote_readsBack text other rest rest' trivial trivial same
          exact ⟨rfl, tails⟩
      | _ => cases kind_eq_of_append_eq same
  | .arr items => by
      intro other rest rest' _ _ same
      cases other with
      | arr others =>
          simp only [stringifyChars, stringifyItems_eq_map, List.cons_append, List.append_assoc,
            List.cons.injEq, true_and] at same
          obtain ⟨rfl, tails⟩ := readsBack_separated (by decide)
            (fun rest => endsNumber_of_mark rest (by decide))
            (fun rest => endsNumber_of_mark rest (by decide)) stringifyChars_not_close items
            (items_readBack items) others rest rest' same
          exact ⟨rfl, tails⟩
      | _ => cases kind_eq_of_append_eq same
  | .obj fields => by
      intro other rest rest' _ _ same
      cases other with
      | obj others =>
          simp only [stringifyChars, stringifyFields_eq_map, List.cons_append,
            List.append_assoc, List.cons.injEq, true_and] at same
          obtain ⟨rfl, tails⟩ := readsBack_separated (by decide)
            (fun rest => endsNumber_of_mark rest (by decide))
            (fun rest => endsNumber_of_mark rest (by decide)) fieldChars_opens fields
            (fields_readBack fields) others rest rest' same
          exact ⟨rfl, tails⟩
      | _ => cases kind_eq_of_append_eq same

theorem items_readBack : ∀ items : List Json, ∀ item ∈ items,
    ReadsBack stringifyChars EndsNumber item
  | [] => fun _ member => absurd member List.not_mem_nil
  | first :: items => by
      intro item member
      rcases List.mem_cons.mp member with same | later
      · rw [same]
        exact stringifyChars_readsBack first
      · exact items_readBack items item later

theorem fields_readBack : ∀ fields : List (String × Json), ∀ field ∈ fields,
    ReadsBack fieldChars EndsNumber field
  | [] => fun _ member => absurd member List.not_mem_nil
  | (name, value) :: fields => by
      intro field member
      rcases List.mem_cons.mp member with same | later
      · rw [same]
        exact fieldChars_readsBack (stringifyChars_readsBack value)
      · exact fields_readBack fields field later

end

/-- Different values have different texts. -/
theorem stringify_injective {value other : Json}
    (same : stringifyChars value = stringifyChars other) : value = other := by
  have nothing : EndsNumber [] := fun c head => by cases head
  refine (stringifyChars_readsBack value other [] [] nothing nothing ?_).1
  rw [same]

/-! ### jsonb columns -/

/-- The bytes of a name in UTF-8. -/
def nameBytes (name : String) : List Nat :=
  name.toByteArray.data.toList.map UInt8.toNat

/-- The order in which jsonb keeps the properties of an object: shorter names first, names
of one length by their bytes. -/
def jsonbLe (first second : String × Json) : Prop :=
  (nameBytes first.1).length < (nameBytes second.1).length ∨
    ((nameBytes first.1).length = (nameBytes second.1).length ∧
      nameBytes first.1 ≤ nameBytes second.1)

instance : DecidableRel jsonbLe := fun first second =>
  inferInstanceAs (Decidable ((nameBytes first.1).length < (nameBytes second.1).length ∨
    ((nameBytes first.1).length = (nameBytes second.1).length ∧
      nameBytes first.1 ≤ nameBytes second.1)))

/-- The properties of an object in the order in which JavaScript enumerates them after they
were read from jsonb. -/
def storageOrder (fields : List (String × Json)) : List (String × Json) :=
  enumerated (fields.insertionSort jsonbLe)

mutual

/-- A value that was stored in a jsonb column and read back. -/
def readBack : Json → Json
  | .arr items => .arr (readBackItems items)
  | .obj fields => .obj (storageOrder (readBackFields fields))
  | value => value

/-- The items of an array, each stored and read back. -/
def readBackItems : List Json → List Json
  | [] => []
  | item :: items => readBack item :: readBackItems items

/-- The properties of an object, each value stored and read back. -/
def readBackFields : List (String × Json) → List (String × Json)
  | [] => []
  | (name, value) :: fields => (name, readBack value) :: readBackFields fields

end

mutual

/-- No object in the value has two properties of one name. -/
def NamesDistinct : Json → Prop
  | .arr items => ItemsDistinct items
  | .obj fields => Keyed Prod.fst fields ∧ FieldsDistinct fields
  | _ => True

/-- The names are distinct in every item. -/
def ItemsDistinct : List Json → Prop
  | [] => True
  | item :: items => item.NamesDistinct ∧ ItemsDistinct items

/-- The names are distinct in the value of every property. -/
def FieldsDistinct : List (String × Json) → Prop
  | [] => True
  | (_, value) :: fields => value.NamesDistinct ∧ FieldsDistinct fields

end

/-! ### The canonical form does not see the storage -/

/-- The first character of a text of UTF-16 code units. -/
def utf16Char : List Nat → Option (Char × List Nat)
  | [] => none
  | unit :: rest =>
      if unit < 0xD800 ∨ 0xE000 ≤ unit then some (Char.ofNat unit, rest)
      else match rest with
        | low :: rest =>
            some (Char.ofNat (0x10000 + (unit - 0xD800) * 0x400 + (low - 0xDC00)), rest)
        | [] => none

theorem char_scalar (c : Char) : c.toNat < 0xD800 ∨ (0xE000 ≤ c.toNat ∧ c.toNat < 0x110000) := by
  have valid := c.valid
  simp only [UInt32.isValidChar, Nat.isValidChar] at valid
  have code : c.toNat = c.val.toNat := rfl
  omega

theorem utf16Char_units (c : Char) (rest : List Nat) :
    utf16Char (utf16Units c ++ rest) = some (c, rest) := by
  have scalar := char_scalar c
  unfold utf16Units
  split
  · have plain : c.toNat < 0xD800 ∨ 0xE000 ≤ c.toNat := by omega
    simp only [List.cons_append, List.nil_append, utf16Char, if_pos plain, Char.ofNat_toNat]
  · have surrogate : ¬(0xD800 + (c.toNat - 0x10000) / 0x400 < 0xD800 ∨
        0xE000 ≤ 0xD800 + (c.toNat - 0x10000) / 0x400) := by omega
    have code : 0x10000 + (0xD800 + (c.toNat - 0x10000) / 0x400 - 0xD800) * 0x400 +
        (0xDC00 + (c.toNat - 0x10000) % 0x400 - 0xDC00) = c.toNat := by omega
    simp only [List.cons_append, List.nil_append, utf16Char, if_neg surrogate, code,
      Char.ofNat_toNat]

/-- Different texts have different code units. -/
theorem utf16_injective {first second : String} (same : utf16 first = utf16 second) :
    first = second := by
  have opens : ∀ c, ∃ head tail, utf16Units c = head :: tail ∧ head ≠ 0xDC00 := by
    intro c
    have scalar := char_scalar c
    unfold utf16Units
    split
    · exact ⟨_, _, rfl, by omega⟩
    · exact ⟨_, _, rfl, by omega⟩
  -- The second half of a surrogate pair closes both texts.
  have closed : (chars first).flatMap utf16Units ++ [0xDC00] =
      (chars second).flatMap utf16Units ++ [0xDC00] := congrArg (· ++ [0xDC00]) same
  have letters := (readsBack_flatMap
    (readsBack_of_decoder utf16Char fun c rest _ => utf16Char_units c rest) opens _ _ _ _
    closed).1
  rw [chars_eq_toList, chars_eq_toList] at letters
  exact String.toList_inj.mp letters

section Names

variable {α : Type}

instance : Std.Total (nameLe (α := α)) :=
  ⟨fun first second => le_total (utf16 first.1) (utf16 second.1)⟩

instance : IsTrans (String × α) nameLe := ⟨fun _ _ _ before after => le_trans before after⟩

/-- Sorting by names does not see in which order properties of distinct names stand. -/
theorem insertionSort_eq_of_perm {first second : List (String × α)}
    (distinct : Keyed Prod.fst first) (permuted : first.Perm second) :
    first.insertionSort nameLe = second.insertionSort nameLe := by
  have sorted : ((first.insertionSort nameLe).Perm (second.insertionSort nameLe)) :=
    (List.perm_insertionSort _ _).trans (permuted.trans (List.perm_insertionSort _ _).symm)
  refine List.Perm.eq_of_pairwise (fun one other oneMem otherMem before after => ?_)
    (List.pairwise_insertionSort _ _) (List.pairwise_insertionSort _ _) sorted
  have inFirst := (List.mem_insertionSort _).mp oneMem
  have alsoFirst := permuted.mem_iff.mpr ((List.mem_insertionSort _).mp otherMem)
  exact distinct.eq_of_key_eq inFirst alsoFirst (utf16_injective (le_antisymm before after))

theorem enumerated_perm (fields : List (String × α)) : (enumerated fields).Perm fields := by
  unfold enumerated
  refine ((List.perm_insertionSort _ _).append_right _).trans ?_
  have kept : (fields.filter fun entry => (arrayIndex? entry.1).isNone) =
      fields.filter fun entry => !(arrayIndex? entry.1).isSome := by
    simp
  rw [kept]
  exact List.filter_append_perm _ fields

end Names

theorem storageOrder_perm (fields : List (String × Json)) :
    (storageOrder fields).Perm fields :=
  (enumerated_perm _).trans (List.perm_insertionSort _ _)

theorem canonicalizeFields_eq_map (fields : List (String × Json)) :
    canonicalizeFields fields = fields.map fun field => (field.1, canonicalize field.2) := by
  induction fields with
  | nil => rfl
  | cons field fields ih => rw [canonicalizeFields, ih, List.map_cons]

theorem readBackFields_names (fields : List (String × Json)) :
    (readBackFields fields).map Prod.fst = fields.map Prod.fst := by
  induction fields with
  | nil => rfl
  | cons field fields ih => rw [readBackFields, List.map_cons, ih, List.map_cons]

mutual

/-- The canonical form of a value is the same after it was stored in a jsonb column. -/
theorem canonicalize_readBack : ∀ value : Json, value.NamesDistinct →
    value.readBack.canonicalize = value.canonicalize
  | .null => fun _ => rfl
  | .bool _ => fun _ => rfl
  | .num _ => fun _ => rfl
  | .dec _ => fun _ => rfl
  | .str _ => fun _ => rfl
  | .arr items => fun distinct => by
      simp only [readBack, canonicalize, canonicalizeItems_readBack items distinct]
  | .obj fields => fun distinct => by
      have values := canonicalizeFields_readBack fields distinct.2
      have permuted : (canonicalizeFields (storageOrder (readBackFields fields))).Perm
          (canonicalizeFields fields) := by
        rw [← values, canonicalizeFields_eq_map, canonicalizeFields_eq_map]
        exact (storageOrder_perm _).map _
      have keyed : Keyed Prod.fst (canonicalizeFields (storageOrder (readBackFields fields))) := by
        refine Keyed.perm ?_ permuted.symm
        unfold Keyed
        rw [canonicalizeFields_eq_map, List.map_map]
        exact distinct.1
      simp only [readBack, canonicalize]
      rw [insertionSort_eq_of_perm keyed permuted]

theorem canonicalizeItems_readBack : ∀ items : List Json, ItemsDistinct items →
    canonicalizeItems (readBackItems items) = canonicalizeItems items
  | [] => fun _ => rfl
  | item :: items => fun distinct => by
      rw [readBackItems, canonicalizeItems, canonicalize_readBack item distinct.1,
        canonicalizeItems_readBack items distinct.2, canonicalizeItems]

theorem canonicalizeFields_readBack : ∀ fields : List (String × Json), FieldsDistinct fields →
    canonicalizeFields (readBackFields fields) = canonicalizeFields fields
  | [] => fun _ => rfl
  | (name, value) :: fields => fun distinct => by
      rw [readBackFields, canonicalizeFields, canonicalize_readBack value distinct.1,
        canonicalizeFields_readBack fields distinct.2, canonicalizeFields]

end

/-- The canonical form of an object has the properties of the object. -/
theorem field?_canonicalize {fields : List (String × Json)} (distinct : Keyed Prod.fst fields)
    {name : String} {value : Json} (stored : (name, value) ∈ fields) :
    (canonicalize (.obj fields)).field? name = some value.canonicalize := by
  have permuted : (enumerated ((canonicalizeFields fields).insertionSort nameLe)).Perm
      (canonicalizeFields fields) :=
    (enumerated_perm _).trans (List.perm_insertionSort _ _)
  have keyed : Keyed Prod.fst (enumerated ((canonicalizeFields fields).insertionSort nameLe)) := by
    refine Keyed.perm ?_ permuted.symm
    unfold Keyed
    rw [canonicalizeFields_eq_map, List.map_map]
    exact distinct
  have member : (name, value.canonicalize) ∈
      enumerated ((canonicalizeFields fields).insertionSort nameLe) := by
    apply permuted.mem_iff.mpr
    rw [canonicalizeFields_eq_map]
    exact List.mem_map.mpr ⟨(name, value), stored, rfl⟩
  rw [canonicalize, field?, keyed.find?_eq_some.mpr ⟨member, rfl⟩]
  rfl

end Json

end BairuiPlatform
