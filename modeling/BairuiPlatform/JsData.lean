/-
Module: BairuiPlatform.JsData
Purpose: JSON values with texts of UTF-16 code units, and what String() makes of them.
Trusted boundary: none
Main exports: JsData, JsData.member, JsData.text, JsText.trim, JsText.replaceAll
-/
import Mathlib.Data.List.DropRight
import BairuiPlatform.JsText

namespace BairuiPlatform

namespace JsText

/-- White space and line terminators, as `trim` knows them. -/
def isBlank (unit : Nat) : Bool :=
  9 ≤ unit && unit ≤ 13 || unit = 32 || unit = 0xA0 || unit = 0x1680 ||
    0x2000 ≤ unit && unit ≤ 0x200A || unit = 0x2028 || unit = 0x2029 || unit = 0x202F ||
    unit = 0x205F || unit = 0x3000 || unit = 0xFEFF

/-- `text.trim()`. -/
def trim (text : JsText) : JsText :=
  (text.dropWhile isBlank).rdropWhile isBlank

/-- What a replacement stands for at one place: `$$`, `$&`, `` $` `` and `$'` are special. -/
def expandReplacement (before matched after : JsText) : JsText → JsText
  | 36 :: 36 :: rest => 36 :: expandReplacement before matched after rest
  | 36 :: 38 :: rest => matched ++ expandReplacement before matched after rest
  | 36 :: 96 :: rest => before ++ expandReplacement before matched after rest
  | 36 :: 39 :: rest => after ++ expandReplacement before matched after rest
  | unit :: rest => unit :: expandReplacement before matched after rest
  | [] => []

/-- The rest of a text with the places of a pattern replaced, after what stands before it; the
first units of the rest may belong to a place that was replaced. -/
def replaceFrom (pattern replacement before : JsText) : Nat → JsText → JsText
  | _, [] => []
  | skipped + 1, unit :: rest =>
      replaceFrom pattern replacement (before ++ [unit]) skipped rest
  | 0, unit :: rest =>
      if pattern.isPrefixOf (unit :: rest) then
        expandReplacement before pattern ((unit :: rest).drop pattern.length) replacement ++
          replaceFrom pattern replacement (before ++ [unit]) (pattern.length - 1) rest
      else unit :: replaceFrom pattern replacement (before ++ [unit]) 0 rest

/-- `text.replaceAll(pattern, replacement)`, for a pattern that is not empty. -/
def replaceAll (text pattern replacement : JsText) : JsText :=
  replaceFrom pattern replacement [] 0 text

end JsText

/-- A JSON value. Integers below 10²¹ stand as such, other numbers as `String` writes them. -/
inductive JsData where
  | null
  | bool (value : Bool)
  | num (value : Int)
  | real (text : JsText)
  | str (text : JsText)
  | arr (items : List JsData)
  | obj (fields : List (JsText × JsData))

namespace JsData

/-- `value[name]` of a value that is no text and no array; nothing stands for undefined. -/
def member (value : JsData) (name : String) : Option JsData :=
  match value with
  | .obj fields => (fields.find? fun field => field.1 = utf16 name).map Prod.snd
  | _ => none

/-- `value && typeof value === "object" && !Array.isArray(value)`. -/
def isObject : JsData → Bool
  | .obj _ => true
  | _ => false

/-- `!value` is false. -/
def isTruthy : JsData → Bool
  | .null => false
  | .bool value => value
  | .num value => value ≠ 0
  | .str text => text ≠ []
  | _ => true

/-- The text that a value is. -/
def text? : JsData → Option JsText
  | .str text => some text
  | _ => none

/-- `Number.isSafeInteger(value)`, with the integer. -/
def safeInteger? : JsData → Option Int
  | .num value => if value.natAbs ≤ 9007199254740991 then some value else none
  | _ => none

/-- `Number.isFinite(value)`. -/
def isFinite : JsData → Bool
  | .num _ => true
  | .real text => text ≠ utf16 "Infinity" && text ≠ utf16 "-Infinity"
  | _ => false

mutual

/-- `String(value)`, where it returns: an object with a `toString` of its own has none. -/
def text : JsData → Option JsText
  | .null => some (utf16 "null")
  | .bool value => some (utf16 (if value then "true" else "false"))
  | .num value => some (utf16 (toString value))
  | .real text => some text
  | .str text => some text
  | .arr items => (itemTexts items).map [44].intercalate
  | .obj fields =>
      if fields.any fun field => field.1 = utf16 "toString" then none
      else some (utf16 "[object Object]")

/-- The items that `join` puts together. -/
def itemTexts : List JsData → Option (List JsText)
  | [] => some []
  | .null :: items => (itemTexts items).map ([] :: ·)
  | item :: items => (text item).bind fun first => (itemTexts items).map (first :: ·)

end

/-- `value ?? other`. -/
def orElse (value other : Option JsData) : Option JsData :=
  match value with
  | none | some .null => other
  | some value => some value

end JsData

namespace JsText

/-- What a replacement stands for is made of what stands there. -/
theorem mem_expandReplacement {before matched after replacement : JsText} {unit : Nat}
    (member : unit ∈ expandReplacement before matched after replacement) :
    unit ∈ before ∨ unit ∈ matched ∨ unit ∈ after ∨ unit ∈ replacement := by
  induction replacement using expandReplacement.induct with
  | case1 rest ih =>
      rw [expandReplacement, List.mem_cons] at member
      simp only [List.mem_cons]
      tauto
  | case2 rest ih =>
      rw [expandReplacement, List.mem_append] at member
      simp only [List.mem_cons]
      tauto
  | case3 rest ih =>
      rw [expandReplacement, List.mem_append] at member
      simp only [List.mem_cons]
      tauto
  | case4 rest ih =>
      rw [expandReplacement, List.mem_append] at member
      simp only [List.mem_cons]
      tauto
  | case5 unit rest _ _ _ _ ih =>
      rw [expandReplacement, List.mem_cons] at member
      · simp only [List.mem_cons]
        tauto
      all_goals assumption
  | case6 => exact absurd member List.not_mem_nil

theorem mem_replaceFrom {pattern replacement before : JsText} {skipped : Nat} {rest : JsText}
    {unit : Nat} (member : unit ∈ replaceFrom pattern replacement before skipped rest) :
    unit ∈ before ++ rest ∨ unit ∈ pattern ∨ unit ∈ replacement := by
  induction rest generalizing before skipped with
  | nil =>
      cases skipped <;> exact absurd member List.not_mem_nil
  | cons first rest ih =>
      have further {skipped : Nat}
          (inside : unit ∈ replaceFrom pattern replacement (before ++ [first]) skipped rest) :
          unit ∈ before ++ first :: rest ∨ unit ∈ pattern ∨ unit ∈ replacement := by
        have found := ih inside
        rwa [List.append_assoc, List.singleton_append] at found
      cases skipped with
      | succ skipped => exact further member
      | zero =>
          rw [replaceFrom] at member
          split at member
          · rcases List.mem_append.mp member with expanded | inside
            · rcases mem_expandReplacement expanded with left | middle | right | new
              · exact .inl (List.mem_append_left _ left)
              · exact .inr (.inl middle)
              · exact .inl (List.mem_append_right _ (List.mem_of_mem_drop right))
              · exact .inr (.inr new)
            · exact further inside
          · rcases List.mem_cons.mp member with rfl | inside
            · exact .inl (List.mem_append_right _ List.mem_cons_self)
            · exact further inside

/-- Replacing brings in nothing but the replacement, and parts of the text and the pattern. -/
theorem mem_replaceAll {text pattern replacement : JsText} {unit : Nat}
    (member : unit ∈ text.replaceAll pattern replacement) :
    unit ∈ text ∨ unit ∈ pattern ∨ unit ∈ replacement :=
  mem_replaceFrom member

theorem mem_trim {text : JsText} {unit : Nat} (member : unit ∈ text.trim) : unit ∈ text :=
  (List.dropWhile_sublist _).mem ((List.rdropWhile_prefix _ _).mem member)

theorem trim_eq_nil {text : JsText} : text.trim = [] ↔ ∀ unit ∈ text, isBlank unit = true := by
  unfold trim
  rw [List.rdropWhile_eq_nil_iff]
  constructor
  · intro all unit member
    rw [← List.takeWhile_append_dropWhile (p := isBlank) (l := text)] at member
    rcases List.mem_append.mp member with first | rest
    · exact List.mem_takeWhile_imp first
    · exact all unit rest
  · intro all unit member
    exact all unit ((List.dropWhile_sublist _).mem member)

/-- A trimmed text that is not empty begins with a unit that is not blank. -/
theorem not_isBlank_of_trim_eq_cons {text rest : JsText} {unit : Nat}
    (trimmed : text.trim = unit :: rest) : isBlank unit = false := by
  have first : (text.dropWhile isBlank).head? = some unit := by
    obtain ⟨others, same⟩ := List.rdropWhile_prefix isBlank (text.dropWhile isBlank)
    unfold trim at trimmed
    rw [← same, trimmed]
    rfl
  have kept := List.head?_dropWhile_not isBlank text
  rw [first] at kept
  exact kept

end JsText

end BairuiPlatform
