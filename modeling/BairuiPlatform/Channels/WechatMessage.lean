/-
Module: BairuiPlatform.Channels.WechatMessage
Purpose: The messages of WeChat as XML: how the adapter reads their fields, and when it reads the
  values that were written.
Trusted boundary: the body of a callback is the text that the platform wrote
Main exports: WechatTag, matchField, xmlValue, parseWechatMessage, WechatMessage,
  WechatMessage.lookalike, WechatMessage.IsUndisturbed, parseWechatMessage_eq_value_iff
-/
import Mathlib.Data.Bool.AllAny
import BairuiPlatform.Foundations.Scan
import BairuiPlatform.Json

namespace BairuiPlatform

open Foundations

/-! ### Reading -/

/-- The fields that `parseWechatMessage` reads. -/
inductive WechatTag where
  | toUserName | fromUserName | createTime | msgType | content | msgId | event | eventKey
deriving Repr, DecidableEq

/-- The name of a field. -/
def WechatTag.name : WechatTag → String
  | toUserName => "ToUserName"
  | fromUserName => "FromUserName"
  | createTime => "CreateTime"
  | msgType => "MsgType"
  | content => "Content"
  | msgId => "MsgId"
  | event => "Event"
  | eventKey => "EventKey"

/-- The comparison of letters in a pattern without case. -/
def sameLetter (c d : Char) : Bool :=
  c.toLower = d.toLower

/-- The rest of a text behind a literal of a pattern without case. -/
def behindLiteral (literal text : List Char) : Option (List Char) :=
  Scan.behindBy sameLetter literal text

/-- `<name>`. -/
def openTag (tag : WechatTag) : List Char :=
  '<' :: (tag.name.toList ++ ['>'])

/-- `</name>`. -/
def closeTag (tag : WechatTag) : List Char :=
  '<' :: '/' :: (tag.name.toList ++ ['>'])

/-- `<![CDATA[`. -/
def sectionStart : List Char :=
  ['<', '!', '[', 'C', 'D', 'A', 'T', 'A', '[']

/-- `]]>`. -/
def sectionEnd : List Char :=
  [']', ']', '>']

/-- What stands before the first place of a literal, as `([\s\S]*?)` reads it. -/
def upTo (literal : List Char) : List Char → Option (List Char)
  | [] => none
  | c :: rest =>
      if (behindLiteral literal (c :: rest)).isSome then some []
      else (upTo literal rest).map (c :: ·)

/-- What the pattern of `xmlValue` captures at the beginning of a text. -/
def matchField (tag : WechatTag) (text : List Char) : Option (List Char) :=
  match behindLiteral (openTag tag) text with
  | none => none
  | some inner =>
      match (behindLiteral sectionStart inner).bind (upTo (sectionEnd ++ closeTag tag)) with
      | some captured => some captured
      | none =>
          if (behindLiteral (closeTag tag) (inner.dropWhile (· ≠ '<'))).isSome then
            some (inner.takeWhile (· ≠ '<'))
          else none

/-- The entities that `xmlValue` replaces, in its order. -/
def entities : List (List Char × Char) :=
  [(['&', 'l', 't', ';'], '<'), (['&', 'g', 't', ';'], '>'), (['&', 'a', 'm', 'p', ';'], '&'),
    (['&', 'q', 'u', 'o', 't', ';'], '"'), (['&', 'a', 'p', 'o', 's', ';'], '\x27')]

/-- The replacements of `xmlValue`. -/
def decodeEntities (text : List Char) : List Char :=
  entities.foldl (fun text entity => Scan.replaceEach entity.1 entity.2 text) text

/-- `xmlValue`. -/
def xmlValue (source : List Char) (tag : WechatTag) : List Char :=
  decodeEntities ((Scan.first (matchField tag) source).getD [])

/-- A declaration at the beginning of a text. -/
def declarationAt (text : List Char) : Option Unit :=
  if (behindLiteral "<!DOCTYPE".toList text).isSome ∨
      (behindLiteral "<!ENTITY".toList text).isSome then some ()
  else none

/-- `/<!DOCTYPE|<!ENTITY/i.test(xml)`. -/
def hasDeclaration (text : List Char) : Bool :=
  (Scan.first declarationAt text).isSome

/-- `/^\s*<xml>[\s\S]*<\/xml>\s*$/i.test(xml)`. -/
def isXmlDocument (text : List Char) : Bool :=
  match behindLiteral "<xml>".toList (text.dropWhile isTrimmed) with
  | none => false
  | some inner =>
      (behindLiteral "</xml>".toList.reverse (inner.reverse.dropWhile isTrimmed)).isSome

/-- `parseWechatMessage`. It throws on a text that is no document of the platform. -/
def parseWechatMessage (source : List Char) : Option (WechatTag → List Char) :=
  if hasDeclaration source ∨ isXmlDocument source = false then none
  else some (xmlValue source)

/-! ### Writing -/

/-- How the platform writes a value. -/
inductive WechatForm where
  | cdata
  | digits
deriving Repr, DecidableEq

/-- A field of a message. -/
structure WechatField where
  tag : WechatTag
  form : WechatForm := .cdata
  value : List Char
deriving Repr, DecidableEq

/-- A value can be written in its form. -/
def WechatField.IsEncodable (field : WechatField) : Prop :=
  match field.form with
  | .cdata => ¬sectionEnd <:+: field.value
  | .digits => ∀ c ∈ field.value, c.isDigit = true

instance (field : WechatField) : Decidable field.IsEncodable :=
  match field with
  | ⟨_, .cdata, value⟩ => inferInstanceAs (Decidable (¬sectionEnd <:+: value))
  | ⟨_, .digits, value⟩ => List.decidableBAll (fun c : Char => c.isDigit = true) value

/-- A field as the platform writes it. -/
def WechatField.encode (field : WechatField) : List Char :=
  match field.form with
  | .cdata =>
      openTag field.tag ++ (sectionStart ++ (field.value ++ (sectionEnd ++ closeTag field.tag)))
  | .digits => openTag field.tag ++ (field.value ++ closeTag field.tag)

/-- A message: its fields in the order in which the platform writes them. -/
structure WechatMessage where
  fields : List WechatField
  distinct : (fields.map (·.tag)).Nodup
  encodable : ∀ field ∈ fields, field.IsEncodable

/-- The fields of a message and its end. -/
def encodeFields (fields : List WechatField) : List Char :=
  fields.flatMap (·.encode) ++ "</xml>".toList

namespace WechatMessage

/-- A message as the platform writes it. -/
def encode (message : WechatMessage) : List Char :=
  "<xml>".toList ++ encodeFields message.fields

/-- The value of a field; a field that a message does not have reads as an empty text. -/
def value (message : WechatMessage) (tag : WechatTag) : List Char :=
  ((message.fields.find? (·.tag = tag)).map (·.value)).getD []

end WechatMessage

/-! ### Values that look like fields -/

/-- A text that looks like a field: tags of the field around a text without tags, or a tag and the
start of a section. -/
inductive Lookalike where
  | text (text : List Char)
  | unclosed
deriving Repr, DecidableEq

/-- A text that begins as a field does. A section is read only where the field is written as one
further behind, which closes it. -/
def lookalikeAt (tag : WechatTag) (closed : Bool) (text : List Char) : Option Lookalike :=
  match behindLiteral (openTag tag) text with
  | none => none
  | some inner =>
      if (behindLiteral sectionStart inner).isSome then if closed then some .unclosed else none
      else if (behindLiteral (closeTag tag) (inner.dropWhile (· ≠ '<'))).isSome then
        some (.text (inner.takeWhile (· ≠ '<')))
      else none

/-- A field is written as a section. -/
def isSectioned (tag : WechatTag) (fields : List WechatField) : Bool :=
  fields.any fun field => field.tag = tag && field.form = .cdata

/-- The first text that looks like a field in the values that are written before it. -/
def lookalikeIn (tag : WechatTag) (closed : Bool) (fields : List WechatField) :
    Option Lookalike :=
  (fields.takeWhile (·.tag ≠ tag)).findSome? fun field =>
    Scan.first (lookalikeAt tag closed) field.value

namespace WechatMessage

/-- The first text that looks like a field of a message before the field itself. -/
def lookalike (message : WechatMessage) (tag : WechatTag) : Option Lookalike :=
  lookalikeIn tag (isSectioned tag message.fields) message.fields

/-- No value of a message is taken for something else: none holds a declaration, and for every
field, either nothing before it looks like it and its value holds no entity, or the first text
that looks like it encloses what reads as its value. -/
structure IsUndisturbed (message : WechatMessage) : Prop where
  undeclared : ∀ field ∈ message.fields, hasDeclaration field.value = false
  plain : ∀ tag, message.lookalike tag = none →
    ∀ entity ∈ entities, ¬entity.1 <:+: message.value tag
  enclosed : ∀ tag text, message.lookalike tag = some (.text text) →
    decodeEntities text = message.value tag
  closed : ∀ tag, message.lookalike tag ≠ some .unclosed

end WechatMessage

/-! ### Literals -/

theorem sameLetter_refl (c : Char) : sameLetter c c = true := by simp [sameLetter]

theorem behindLiteral_self (literal rest : List Char) :
    behindLiteral literal (literal ++ rest) = some rest :=
  Scan.behindBy_self sameLetter_refl literal rest

theorem behindLiteral_append {literal text rest : List Char} {mark : Char}
    (free : ∀ c ∈ literal, sameLetter c mark = false) :
    behindLiteral literal (text ++ mark :: rest) =
      (behindLiteral literal text).map (· ++ mark :: rest) :=
  Scan.behindBy_append free

theorem toNat_toLower (c : Char) :
    c.toLower.toNat = if 65 ≤ c.toNat ∧ c.toNat ≤ 90 then c.toNat + 32 else c.toNat := by
  unfold Char.toLower
  split
  · rename_i upper
    have bounds : 65 ≤ c.toNat ∧ c.toNat ≤ 90 := upper
    have small : c.val.toNat ≤ 90 := bounds.2
    have gap : ('a'.val - 'A'.val).toNat = 32 := rfl
    rw [if_pos bounds]
    change (c.val + ('a'.val - 'A'.val)).toNat = c.val.toNat + 32
    rw [UInt32.toNat_add]
    omega
  · rename_i other
    have bounds : ¬(65 ≤ c.toNat ∧ c.toNat ≤ 90) := other
    rw [if_neg bounds]

/-- A character that is no letter of ASCII. -/
def isSign (c : Char) : Bool :=
  (c.toNat < 65 || 90 < c.toNat) && (c.toNat < 97 || 122 < c.toNat)

/-- A sign is only the same as itself. -/
theorem sameLetter_iff {c d : Char} (sign : isSign c = true) : sameLetter c d = true ↔ d = c := by
  rw [sameLetter, decide_eq_true_eq]
  constructor
  · intro same
    have codes := congrArg Char.toNat same
    rw [toNat_toLower, toNat_toLower] at codes
    simp only [isSign, Bool.and_eq_true, Bool.or_eq_true, decide_eq_true_eq] at sign
    apply Char.toNat_inj.mp
    split at codes <;> split at codes <;> omega
  · rintro rfl
    rfl

/-- A literal that begins with a sign does not stand where another letter does. -/
theorem behindLiteral_of_ne {c d : Char} (sign : isSign c = true) (other : d ≠ c)
    (literal rest : List Char) : behindLiteral (c :: literal) (d :: rest) = none := by
  have differs : ¬sameLetter c d = true := fun same => other ((sameLetter_iff sign).mp same)
  rw [behindLiteral, Scan.behindBy, if_neg differs]

theorem behindLiteral_cons {c : Char} (literal rest : List Char) :
    behindLiteral (c :: literal) (c :: rest) = behindLiteral literal rest := by
  rw [behindLiteral, Scan.behindBy, if_pos (sameLetter_refl c)]
  rfl

theorem openTag_of_ne {tag other : WechatTag} (differs : other ≠ tag) (rest : List Char) :
    behindLiteral (openTag tag) (openTag other ++ rest) = none := by
  cases tag <;> cases other <;> first | rfl | exact absurd rfl differs

theorem closeTag_of_ne {tag other : WechatTag} (differs : other ≠ tag) (rest : List Char) :
    behindLiteral (closeTag tag) (closeTag other ++ rest) = none := by
  cases tag <;> cases other <;> first | rfl | exact absurd rfl differs

theorem openTag_append (tag : WechatTag) (text rest : List Char) :
    behindLiteral (openTag tag) (text ++ ']' :: rest) =
      (behindLiteral (openTag tag) text).map (· ++ ']' :: rest) :=
  behindLiteral_append (List.all_iff_forall_prop.mp (by cases tag <;> decide))

theorem closeTag_append (tag : WechatTag) (text rest : List Char) :
    behindLiteral (closeTag tag) (text ++ ']' :: rest) =
      (behindLiteral (closeTag tag) text).map (· ++ ']' :: rest) :=
  behindLiteral_append (List.all_iff_forall_prop.mp (by cases tag <;> decide))

theorem sectionStart_append (text rest : List Char) :
    behindLiteral sectionStart (text ++ ']' :: rest) =
      (behindLiteral sectionStart text).map (· ++ ']' :: rest) :=
  behindLiteral_append (List.all_iff_forall_prop.mp (by decide))

/-! ### The end of a section -/

/-- The end of a section does not stand in a value that lacks it, nor across its end. -/
theorem sectionEnd_value {value suffix : List Char} (open_ : ¬sectionEnd <:+: value)
    (filled : suffix ≠ []) (inside : suffix <:+ value) (literal rest : List Char) :
    behindLiteral (sectionEnd ++ literal) (suffix ++ (sectionEnd ++ rest)) = none := by
  have sign : isSign ']' = true := by decide
  have sign' : isSign '>' = true := by decide
  cases suffix with
  | nil => exact absurd rfl filled
  | cons a suffix =>
      by_cases first : a = ']'
      · subst first
        cases suffix with
        | nil => rfl
        | cons b suffix =>
            by_cases second : b = ']'
            · subst second
              cases suffix with
              | nil => rfl
              | cons c suffix =>
                  by_cases third : c = '>'
                  · subst third
                    have prefix_ : sectionEnd <+: ']' :: ']' :: '>' :: suffix := ⟨suffix, rfl⟩
                    exact absurd (prefix_.isInfix.trans inside.isInfix) open_
                  · exact behindLiteral_of_ne sign' third _ _
            · exact behindLiteral_of_ne sign second _ _
      · exact behindLiteral_of_ne sign first _ _

theorem upTo_append {literal piece rest : List Char}
    (none_ : ∀ suffix, suffix ≠ [] → suffix <:+ piece →
      behindLiteral literal (suffix ++ rest) = none) :
    upTo literal (piece ++ rest) = (upTo literal rest).map (piece ++ ·) := by
  induction piece with
  | nil => simp
  | cons c piece ih =>
      have later := ih fun suffix filled inside =>
        none_ suffix filled (inside.trans (List.suffix_cons c piece))
      have here := none_ (c :: piece) (List.cons_ne_nil c piece) List.suffix_rfl
      rw [List.cons_append] at here ⊢
      rw [upTo, here, later, Option.map_map]
      rfl

/-- A piece without brackets is passed on the way to the end of a section. -/
theorem upTo_append_of_not_mem {literal piece : List Char} (free : ']' ∉ piece)
    (rest : List Char) :
    upTo (sectionEnd ++ literal) (piece ++ rest) =
      (upTo (sectionEnd ++ literal) rest).map (piece ++ ·) := by
  refine upTo_append fun suffix filled inside => ?_
  cases suffix with
  | nil => exact absurd rfl filled
  | cons c suffix =>
      refine behindLiteral_of_ne (by decide) ?_ _ _
      rintro rfl
      exact free (inside.mem List.mem_cons_self)

theorem upTo_self {c : Char} (literal rest : List Char) :
    upTo (c :: literal) (c :: (literal ++ rest)) = some [] := by
  rw [upTo, ← List.cons_append, behindLiteral_self]
  rfl

/-- A section ends behind its value. -/
theorem upTo_value {value : List Char} (open_ : ¬sectionEnd <:+: value) (tag : WechatTag)
    (rest : List Char) :
    upTo (sectionEnd ++ closeTag tag) (value ++ (sectionEnd ++ (closeTag tag ++ rest))) =
      some value := by
  rw [upTo_append fun suffix filled inside => sectionEnd_value open_ filled inside _ _]
  have ended : upTo (sectionEnd ++ closeTag tag) (sectionEnd ++ (closeTag tag ++ rest)) = some [] :=
    upTo_self _ rest
  rw [ended, Option.map_some, List.append_nil]

/-- The section of another field does not end there. -/
theorem upTo_sectionEnd_of_ne {tag other : WechatTag} (differs : other ≠ tag) (rest : List Char) :
    upTo (sectionEnd ++ closeTag tag) (sectionEnd ++ (closeTag other ++ rest)) =
      (upTo (sectionEnd ++ closeTag tag) rest).map ((sectionEnd ++ closeTag other) ++ ·) := by
  rw [← List.append_assoc]
  refine upTo_append fun suffix filled inside => ?_
  rcases List.suffix_cons_iff.mp inside with rfl | inside
  · exact closeTag_of_ne differs rest
  · rcases List.suffix_cons_iff.mp inside with rfl | inside
    · rfl
    · -- No bracket stands behind the second one.
      have free : ']' ∉ '>' :: closeTag other := by cases other <;> decide
      cases suffix with
      | nil => exact absurd rfl filled
      | cons c suffix =>
          refine behindLiteral_of_ne (by decide) ?_ _ _
          rintro rfl
          exact free (inside.mem List.mem_cons_self)

/-! ### A value between its tags -/

theorem matchField_of_ne (tag : WechatTag) {c : Char} (other : c ≠ '<') (rest : List Char) :
    matchField tag (c :: rest) = none := by
  rw [matchField, openTag, behindLiteral_of_ne (by decide) other]

/-- A piece with one opening bracket that does not begin the field is passed. -/
theorem first_matchField_append {tag : WechatTag} {piece rest : List Char} (free : '<' ∉ piece)
    (here : matchField tag ('<' :: piece ++ rest) = none) :
    Scan.first (matchField tag) ('<' :: piece ++ rest) = Scan.first (matchField tag) rest := by
  rw [List.cons_append] at here ⊢
  rw [Scan.first, here, Option.none_or]
  exact Scan.first_append_of_not_mem (fun c rest other => matchField_of_ne tag other rest) free

theorem behindLiteral_suffix {literal text rest : List Char}
    (found : behindLiteral literal text = some rest) : rest <:+ text := by
  induction literal generalizing text with
  | nil =>
      obtain rfl := Option.some.inj found
      exact List.suffix_rfl
  | cons c literal ih =>
      cases text with
      | nil => cases found
      | cons d text =>
          rw [behindLiteral, Scan.behindBy] at found
          split at found
          · exact (ih found).trans (List.suffix_cons d text)
          · cases found

/-- Where a section starts, no field ends. -/
theorem closeTag_sectionStart (tag : WechatTag) {text inner : List Char}
    (starts : behindLiteral sectionStart text = some inner) (rest : List Char) :
    (text ++ rest).dropWhile (· ≠ '<') = text ++ rest ∧
      behindLiteral (closeTag tag) (text ++ rest) = none := by
  cases text with
  | nil => cases starts
  | cons a text =>
      by_cases first : a = '<'
      · subst first
        refine ⟨rfl, ?_⟩
        rw [sectionStart, behindLiteral_cons] at starts
        cases text with
        | nil => cases starts
        | cons b text =>
            by_cases second : b = '!'
            · subst second
              rfl
            · rw [behindLiteral_of_ne (by decide) second] at starts
              cases starts
      · rw [sectionStart, behindLiteral_of_ne (by decide) first] at starts
        cases starts

/-- What a place that looks like a field is read as. -/
def Reads (captured : List Char) : Lookalike → Prop
  | .text text => captured = text
  | .unclosed => sectionEnd <:+: captured

/-- Within a value of another field the pattern finds what looks like the field, and a section that
starts there ends behind the value. -/
theorem matchField_value {tag other : WechatTag} (differs : other ≠ tag) {value suffix : List Char}
    (open_ : ¬sectionEnd <:+: value) (inside : suffix <:+ value) (rest : List Char) :
    Option.Rel Reads (matchField tag (suffix ++ (sectionEnd ++ (closeTag other ++ rest))))
      (lookalikeAt tag (upTo (sectionEnd ++ closeTag tag) rest).isSome suffix) := by
  have bracket : sectionEnd ++ (closeTag other ++ rest) =
      ']' :: (']' :: '>' :: (closeTag other ++ rest)) := rfl
  unfold matchField lookalikeAt
  rw [bracket, openTag_append]
  cases opened : behindLiteral (openTag tag) suffix with
  | none => exact .none
  | some inner =>
      simp only [Option.map_some]
      rw [sectionStart_append]
      cases starts : behindLiteral sectionStart inner with
      | some written =>
          have within : written <:+ value :=
            ((behindLiteral_suffix starts).trans (behindLiteral_suffix opened)).trans inside
          have ends : upTo (sectionEnd ++ closeTag tag)
                (written ++ ']' :: (']' :: '>' :: (closeTag other ++ rest))) =
              (upTo (sectionEnd ++ closeTag tag) rest).map
                (fun last => written ++ ((sectionEnd ++ closeTag other) ++ last)) := by
            rw [← bracket, upTo_append fun suffix filled own =>
              sectionEnd_value open_ filled (own.trans within) _ _,
              upTo_sectionEnd_of_ne differs, Option.map_map]
            rfl
          rw [Option.map_some, Option.bind_some, ends]
          cases upTo (sectionEnd ++ closeTag tag) rest with
          | some last =>
              exact .some ⟨written, closeTag other ++ last, by simp⟩
          | none =>
              obtain ⟨stays, unclosed⟩ := closeTag_sectionStart tag starts
                (']' :: (']' :: '>' :: (closeTag other ++ rest)))
              simp only [Option.map_none]
              rw [stays, unclosed]
              exact .none
      | none =>
          simp only [Option.map_none, Option.bind_none, Option.isSome_none]
          rw [List.dropWhile_append]
          split
          · -- No bracket is left in the value: the next one belongs to the other field.
            rename_i bare
            rw [List.isEmpty_iff] at bare
            have next : (']' :: ']' :: '>' :: (closeTag other ++ rest)).dropWhile (· ≠ '<') =
                closeTag other ++ rest := by
              cases other <;> rfl
            rw [next, closeTag_of_ne differs, bare]
            exact .none
          · rename_i filled
            rw [closeTag_append, Option.isSome_map]
            split
            · rw [List.takeWhile_append, if_neg]
              · exact .some rfl
              · intro whole
                have lengths := congrArg List.length
                  (List.takeWhile_append_dropWhile (p := (· ≠ '<')) (l := inner))
                rw [List.length_append, whole] at lengths
                exact filled (List.isEmpty_iff_length_eq_zero.mpr (by omega))
            · exact .none

/-! ### The fields of a message -/

theorem matchField_openTag {tag other : WechatTag} (differs : other ≠ tag) (rest : List Char) :
    matchField tag (openTag other ++ rest) = none := by
  rw [matchField, openTag_of_ne differs]

theorem matchField_sectionStart (tag : WechatTag) (rest : List Char) :
    matchField tag (sectionStart ++ rest) = none := by
  cases tag <;> rfl

theorem matchField_closeTag (tag other : WechatTag) (rest : List Char) :
    matchField tag (closeTag other ++ rest) = none := by
  cases tag <;> rfl

theorem first_matchField_openTag {tag other : WechatTag} (differs : other ≠ tag)
    (rest : List Char) :
    Scan.first (matchField tag) (openTag other ++ rest) = Scan.first (matchField tag) rest :=
  first_matchField_append (by cases other <;> decide) (matchField_openTag differs rest)

theorem first_matchField_sectionStart (tag : WechatTag) (rest : List Char) :
    Scan.first (matchField tag) (sectionStart ++ rest) = Scan.first (matchField tag) rest :=
  first_matchField_append (by decide) (matchField_sectionStart tag rest)

theorem first_matchField_closeTag (tag other : WechatTag) (rest : List Char) :
    Scan.first (matchField tag) (closeTag other ++ rest) = Scan.first (matchField tag) rest :=
  first_matchField_append (by cases other <;> decide) (matchField_closeTag tag other rest)

theorem first_matchField_of_not_mem {tag : WechatTag} {piece : List Char} (free : '<' ∉ piece)
    (rest : List Char) :
    Scan.first (matchField tag) (piece ++ rest) = Scan.first (matchField tag) rest :=
  Scan.first_append_of_not_mem (fun _ rest other => matchField_of_ne tag other rest) free

theorem not_mem_of_digits {value : List Char} {c : Char} (digits : ∀ d ∈ value, d.isDigit = true)
    (sign : c.isDigit = false) : c ∉ value := by
  intro member
  rw [digits c member] at sign
  cases sign

/-- A field is read where it stands. -/
theorem matchField_encode {field : WechatField} (encodable : field.IsEncodable)
    (rest : List Char) : matchField field.tag (field.encode ++ rest) = some field.value := by
  obtain ⟨tag, form, value⟩ := field
  cases form with
  | cdata =>
      simp only [WechatField.encode, List.append_assoc, matchField, behindLiteral_self,
        Option.bind_some]
      rw [upTo_value encodable]
  | digits =>
      have free := not_mem_of_digits encodable (show '<'.isDigit = false by decide)
      have plain : ∀ c ∈ value, decide (c ≠ '<') = true := by
        intro c member
        rw [decide_eq_true_eq]
        rintro rfl
        exact free member
      have noSection : behindLiteral sectionStart (value ++ (closeTag tag ++ rest)) = none := by
        cases value with
        | nil => cases tag <;> rfl
        | cons c value =>
            refine behindLiteral_of_ne (by decide) ?_ _ _
            rintro rfl
            exact free List.mem_cons_self
      have next : closeTag tag ++ rest = '<' :: ('/' :: (tag.name.toList ++ ['>']) ++ rest) := rfl
      have stops : (closeTag tag ++ rest).dropWhile (· ≠ '<') = closeTag tag ++ rest := by
        rw [next]
        exact List.dropWhile_cons_of_neg (by decide)
      have begins : (closeTag tag ++ rest).takeWhile (· ≠ '<') = [] := by
        rw [next]
        exact List.takeWhile_cons_of_neg (by decide)
      simp only [WechatField.encode, List.append_assoc, matchField, behindLiteral_self, noSection,
        Option.bind_none]
      rw [List.dropWhile_append_of_pos plain, stops, behindLiteral_self, List.takeWhile_append_of_pos
        plain, begins, List.append_nil]
      rfl

/-- The section of a field ends somewhere in the fields if and only if the field is written as
one. -/
theorem isSome_upTo_encodeFields {fields : List WechatField}
    (encodable : ∀ field ∈ fields, field.IsEncodable) (tag : WechatTag) :
    (upTo (sectionEnd ++ closeTag tag) (encodeFields fields)).isSome = isSectioned tag fields := by
  induction fields with
  | nil => cases tag <;> rfl
  | cons field fields ih =>
      have later := ih fun other member => encodable other (List.mem_cons_of_mem field member)
      have own := encodable field List.mem_cons_self
      have unfolded : encodeFields (field :: fields) = field.encode ++ encodeFields fields := by
        simp [encodeFields]
      have tags : ∀ tag : WechatTag, ']' ∉ openTag tag ∧ ']' ∉ closeTag tag := by
        intro tag
        cases tag <;> decide
      rw [unfolded]
      obtain ⟨other, form, value⟩ := field
      cases form with
      | cdata =>
          simp only [WechatField.encode, List.append_assoc]
          rw [upTo_append_of_not_mem (tags other).1, Option.isSome_map,
            upTo_append_of_not_mem (by decide), Option.isSome_map]
          by_cases same : other = tag
          · subst same
            rw [upTo_value own]
            simp [isSectioned]
          · rw [upTo_append fun suffix filled inside => sectionEnd_value own filled inside _ _,
              Option.isSome_map, upTo_sectionEnd_of_ne same, Option.isSome_map, later]
            simp [isSectioned, same]
      | digits =>
          have free := not_mem_of_digits own (show ']'.isDigit = false by decide)
          simp only [WechatField.encode, List.append_assoc]
          rw [upTo_append_of_not_mem (tags other).1, Option.isSome_map,
            upTo_append_of_not_mem free, Option.isSome_map, upTo_append_of_not_mem (tags other).2,
            Option.isSome_map, later]
          simp [isSectioned]

theorem first_lookalikeAt_of_not_mem (tag : WechatTag) (closed : Bool) {value : List Char}
    (free : '<' ∉ value) : Scan.first (lookalikeAt tag closed) value = none := by
  have fails : ∀ c rest, c ≠ '<' → lookalikeAt tag closed (c :: rest) = none := by
    intro c rest other
    rw [lookalikeAt, openTag, behindLiteral_of_ne (by decide) other]
  rw [← List.append_nil value]
  exact Scan.first_append_of_not_mem fails free

/-- A section that nothing closes is not read. -/
theorem first_lookalikeAt_ne_unclosed (tag : WechatTag) (value : List Char) :
    Scan.first (lookalikeAt tag false) value ≠ some .unclosed := by
  induction value with
  | nil => exact nofun
  | cons c value ih =>
      have here : lookalikeAt tag false (c :: value) ≠ some .unclosed := by
        unfold lookalikeAt
        split
        · exact nofun
        · split
          · exact nofun
          · split <;> exact nofun
      rw [Scan.first]
      cases found : lookalikeAt tag false (c :: value) with
      | none => rwa [Option.none_or]
      | some look => rwa [Option.some_or, ← found]

/-- What the pattern of a field finds in the fields of a message: the first text that looks like
the field, or the field. -/
theorem first_matchField_encodeFields {fields : List WechatField}
    (encodable : ∀ field ∈ fields, field.IsEncodable) (tag : WechatTag) :
    Option.Rel Reads (Scan.first (matchField tag) (encodeFields fields))
      ((lookalikeIn tag (isSectioned tag fields) fields).or
        ((fields.find? (·.tag = tag)).map fun field => .text field.value)) := by
  induction fields with
  | nil =>
      have nothing : Scan.first (matchField tag) (encodeFields []) = none := by cases tag <;> rfl
      rw [nothing]
      exact .none
  | cons field fields ih =>
      have later := ih fun other member => encodable other (List.mem_cons_of_mem field member)
      have own := encodable field List.mem_cons_self
      have unfolded : encodeFields (field :: fields) = field.encode ++ encodeFields fields := by
        simp [encodeFields]
      rw [unfolded]
      by_cases same : field.tag = tag
      · subst same
        have here := matchField_encode own (encodeFields fields)
        have found : Scan.first (matchField field.tag) (field.encode ++ encodeFields fields) =
            some field.value := by
          cases text : field.encode ++ encodeFields fields with
          | nil => rw [text] at here; cases here
          | cons c rest =>
              rw [text] at here
              rw [Scan.first, here, Option.some_or]
        have nothing : lookalikeIn field.tag (isSectioned field.tag (field :: fields))
            (field :: fields) = none := by
          rw [lookalikeIn, List.takeWhile_cons_of_neg (by simp)]
          rfl
        rw [found, nothing, List.find?_cons_of_pos (by simp)]
        exact .some rfl
      · have sectioned : isSectioned tag (field :: fields) = isSectioned tag fields := by
          simp [isSectioned, same]
        have looks : lookalikeIn tag (isSectioned tag fields) (field :: fields) =
            (Scan.first (lookalikeAt tag (isSectioned tag fields)) field.value).or
              (lookalikeIn tag (isSectioned tag fields) fields) := by
          rw [lookalikeIn, List.takeWhile_cons_of_pos (by simp [same]), List.findSome?_cons]
          cases Scan.first (lookalikeAt tag (isSectioned tag fields)) field.value <;> rfl
        rw [sectioned, looks, List.find?_cons_of_neg (by simp [same]), Option.or_assoc]
        obtain ⟨other, form, value⟩ := field
        cases form with
        | cdata =>
            simp only [WechatField.encode, List.append_assoc]
            rw [first_matchField_openTag same, first_matchField_sectionStart]
            refine Scan.first_append_rel (fun suffix _ inside => ?_) ?_
            · rw [← isSome_upTo_encodeFields (fun other member =>
                encodable other (List.mem_cons_of_mem _ member))]
              exact matchField_value same own inside _
            · rw [first_matchField_of_not_mem (by decide), first_matchField_closeTag]
              exact later
        | digits =>
            have free := not_mem_of_digits own (show '<'.isDigit = false by decide)
            simp only [WechatField.encode, List.append_assoc]
            rw [first_matchField_openTag same, first_matchField_of_not_mem free,
              first_matchField_closeTag, first_lookalikeAt_of_not_mem tag _ free, Option.none_or]
            exact later

/-! ### Entities -/

theorem entities_long : ∀ entity ∈ entities, 2 ≤ entity.1.length := by decide

theorem length_foldl_replaceEach_le {entities : List (List Char × Char)}
    (long : ∀ entity ∈ entities, 2 ≤ entity.1.length) (text : List Char) :
    (entities.foldl (fun text entity => Scan.replaceEach entity.1 entity.2 text) text).length ≤
      text.length := by
  induction entities generalizing text with
  | nil => exact Nat.le_refl _
  | cons entity entities ih =>
      have filled : entity.1 ≠ [] := by
        intro empty
        have short := long entity List.mem_cons_self
        rw [empty] at short
        exact absurd short (Nat.not_succ_le_zero 1)
      have later := ih (fun other member => long other (List.mem_cons_of_mem entity member))
        (Scan.replaceEach entity.1 entity.2 text)
      have here := Scan.length_replaceFrom_le entity.2 filled (Nat.zero_le text.length)
      exact later.trans here

/-- Replacements one after the other leave a text as it is if and only if none of them finds
anything. -/
theorem foldl_replaceEach_eq_self_iff {entities : List (List Char × Char)}
    (long : ∀ entity ∈ entities, 2 ≤ entity.1.length) (text : List Char) :
    entities.foldl (fun text entity => Scan.replaceEach entity.1 entity.2 text) text = text ↔
      ∀ entity ∈ entities, ¬entity.1 <:+: text := by
  induction entities with
  | nil => simp
  | cons entity entities ih =>
      have later := ih fun other member => long other (List.mem_cons_of_mem entity member)
      have own := long entity List.mem_cons_self
      rw [List.foldl_cons, List.forall_mem_cons]
      by_cases found : entity.1 <:+: text
      · have shorter := Scan.length_replaceEach_lt entity.2 own found
        have bounded := length_foldl_replaceEach_le
          (fun other member => long other (List.mem_cons_of_mem entity member))
          (Scan.replaceEach entity.1 entity.2 text)
        refine iff_of_false (fun same => ?_) fun free => free.1 found
        rw [same] at bounded
        omega
      · rw [(Scan.replaceEach_eq_self_iff own).mpr found, later]
        exact (and_iff_right found).symm

theorem decodeEntities_eq_self_iff (text : List Char) :
    decodeEntities text = text ↔ ∀ entity ∈ entities, ¬entity.1 <:+: text :=
  foldl_replaceEach_eq_self_iff entities_long text

/-- A letter of no entity keeps its place. -/
theorem decodeEntities_append_cons {mark : Char} (free : ∀ entity ∈ entities, mark ∉ entity.1)
    (text rest : List Char) :
    decodeEntities (text ++ mark :: rest) = decodeEntities text ++ mark :: decodeEntities rest := by
  unfold decodeEntities
  have long := entities_long
  generalize entities = list at free long
  induction list generalizing text rest with
  | nil => rfl
  | cons entity list ih =>
      have filled : entity.1 ≠ [] := by
        intro empty
        have short := long entity List.mem_cons_self
        rw [empty] at short
        exact absurd short (Nat.not_succ_le_zero 1)
      rw [List.foldl_cons, List.foldl_cons, List.foldl_cons,
        Scan.replaceEach_append_cons filled (free entity List.mem_cons_self)]
      exact ih _ _ (fun other member => free other (List.mem_cons_of_mem entity member))
        fun other member => long other (List.mem_cons_of_mem entity member)

/-- The end of a section is still there behind the replacements. -/
theorem sectionEnd_decodeEntities {text : List Char} (holds : sectionEnd <:+: text) :
    sectionEnd <:+: decodeEntities text := by
  obtain ⟨before, after, rfl⟩ := holds
  have bracket : ∀ entity ∈ entities, ']' ∉ entity.1 := by decide
  have closing : ∀ entity ∈ entities, '>' ∉ entity.1 := by decide
  have shape : before ++ sectionEnd ++ after = before ++ ']' :: ([] ++ ']' :: ([] ++ '>' :: after)) := by
    simp [sectionEnd]
  have nothing : decodeEntities [] = [] := rfl
  rw [shape, decodeEntities_append_cons bracket, decodeEntities_append_cons bracket,
    decodeEntities_append_cons closing, nothing]
  exact ⟨decodeEntities before, decodeEntities after, by simp [sectionEnd]⟩

/-! ### Declarations and the document -/

theorem declarationAt_of_ne {c : Char} (other : c ≠ '<') (rest : List Char) :
    declarationAt (c :: rest) = none := by
  have first : behindLiteral "<!DOCTYPE".toList (c :: rest) = none :=
    behindLiteral_of_ne (by decide) other _ _
  have second : behindLiteral "<!ENTITY".toList (c :: rest) = none :=
    behindLiteral_of_ne (by decide) other _ _
  rw [declarationAt, first, second]
  rfl

theorem first_declarationAt_append {piece rest : List Char} (free : '<' ∉ piece)
    (here : declarationAt ('<' :: piece ++ rest) = none) :
    Scan.first declarationAt ('<' :: piece ++ rest) = Scan.first declarationAt rest := by
  rw [List.cons_append] at here ⊢
  rw [Scan.first, here, Option.none_or]
  exact Scan.first_append_of_not_mem (fun c rest other => declarationAt_of_ne other rest) free

theorem declarationAt_value (suffix rest : List Char) :
    declarationAt (suffix ++ (sectionEnd ++ rest)) = declarationAt suffix := by
  change declarationAt (suffix ++ ']' :: (']' :: '>' :: rest)) = declarationAt suffix
  unfold declarationAt
  rw [behindLiteral_append (List.all_iff_forall_prop.mp (by decide)),
    behindLiteral_append (List.all_iff_forall_prop.mp (by decide)), Option.isSome_map,
    Option.isSome_map]

theorem first_declarationAt_openTag (tag : WechatTag) (rest : List Char) :
    Scan.first declarationAt (openTag tag ++ rest) = Scan.first declarationAt rest :=
  first_declarationAt_append (by cases tag <;> decide) (by cases tag <;> rfl)

theorem first_declarationAt_closeTag (tag : WechatTag) (rest : List Char) :
    Scan.first declarationAt (closeTag tag ++ rest) = Scan.first declarationAt rest :=
  first_declarationAt_append (by cases tag <;> decide) (by cases tag <;> rfl)

theorem first_declarationAt_sectionStart (rest : List Char) :
    Scan.first declarationAt (sectionStart ++ rest) = Scan.first declarationAt rest :=
  first_declarationAt_append (by decide) rfl

theorem first_declarationAt_of_not_mem {piece : List Char} (free : '<' ∉ piece)
    (rest : List Char) :
    Scan.first declarationAt (piece ++ rest) = Scan.first declarationAt rest :=
  Scan.first_append_of_not_mem (fun _ rest other => declarationAt_of_ne other rest) free

/-- The fields of a message hold a declaration if and only if one of their values does. -/
theorem hasDeclaration_encodeFields {fields : List WechatField}
    (encodable : ∀ field ∈ fields, field.IsEncodable) :
    hasDeclaration (encodeFields fields) = fields.any fun field => hasDeclaration field.value := by
  induction fields with
  | nil => rfl
  | cons field fields ih =>
      have later := ih fun other member => encodable other (List.mem_cons_of_mem field member)
      have own := encodable field List.mem_cons_self
      have unfolded : encodeFields (field :: fields) = field.encode ++ encodeFields fields := by
        simp [encodeFields]
      rw [List.any_cons, ← later, unfolded]
      obtain ⟨tag, form, value⟩ := field
      unfold hasDeclaration
      cases form with
      | cdata =>
          simp only [WechatField.encode, List.append_assoc]
          rw [first_declarationAt_openTag, first_declarationAt_sectionStart,
            Scan.first_append fun suffix _ _ => declarationAt_value suffix _, Option.isSome_or,
            first_declarationAt_of_not_mem (by decide), first_declarationAt_closeTag]
      | digits =>
          have free := not_mem_of_digits own (show '<'.isDigit = false by decide)
          have none_ : Scan.first declarationAt value = none := by
            rw [← List.append_nil value]
            exact first_declarationAt_of_not_mem free []
          simp only [WechatField.encode, List.append_assoc]
          rw [first_declarationAt_openTag, first_declarationAt_of_not_mem free,
            first_declarationAt_closeTag, none_]
          rfl

theorem isXmlDocument_encode (message : WechatMessage) : isXmlDocument message.encode = true := by
  have text : message.encode.dropWhile isTrimmed = "<xml>".toList ++ encodeFields message.fields := by
    rfl
  have ended : (encodeFields message.fields).reverse.dropWhile isTrimmed =
      "</xml>".toList.reverse ++ (message.fields.flatMap (·.encode)).reverse := by
    rw [encodeFields, List.reverse_append]
    rfl
  rw [isXmlDocument, text, behindLiteral_self]
  simp only [ended, behindLiteral_self, Option.isSome_some]

/-! ### What is read of a message -/

section Message

variable (message : WechatMessage) (tag : WechatTag)

theorem WechatMessage.value_eq_nil_or :
    (message.fields.find? (·.tag = tag) = none ∧ message.value tag = []) ∨
      ∃ field ∈ message.fields, field.tag = tag ∧
        message.fields.find? (·.tag = tag) = some field ∧ message.value tag = field.value := by
  cases found : message.fields.find? (·.tag = tag) with
  | none => exact .inl ⟨rfl, by rw [WechatMessage.value, found]; rfl⟩
  | some field =>
      refine .inr ⟨field, List.mem_of_find?_eq_some found, ?_, rfl, ?_⟩
      · simpa using List.find?_some found
      · rw [WechatMessage.value, found]
        rfl

/-- The value of a field that is written as a section holds no end of a section. -/
theorem WechatMessage.open_of_isSectioned (sectioned : isSectioned tag message.fields = true) :
    ¬sectionEnd <:+: message.value tag := by
  obtain ⟨written, member, isTag⟩ := List.any_eq_true.mp sectioned
  simp only [Bool.and_eq_true, decide_eq_true_eq] at isTag
  rcases message.value_eq_nil_or tag with ⟨missing, -⟩ | ⟨field, known, same, -, value⟩
  · have none_ := List.find?_eq_none.mp missing written member
    simp [isTag.1] at none_
  · obtain rfl : written = field :=
      List.inj_on_of_nodup_map message.distinct member known (isTag.1.trans same.symm)
    have own := message.encodable written member
    rw [WechatField.IsEncodable, isTag.2] at own
    rw [value]
    exact own

/-- A section is only taken for a field where the field is written as one. -/
theorem isSectioned_of_unclosed (unclosed : message.lookalike tag = some .unclosed) :
    isSectioned tag message.fields = true := by
  obtain ⟨field, -, found⟩ := List.exists_of_findSome?_eq_some unclosed
  cases closed : isSectioned tag message.fields with
  | true => rfl
  | false =>
      rw [closed] at found
      exact absurd found (first_lookalikeAt_ne_unclosed tag field.value)

/-- What `xmlValue` reads of a message. -/
theorem xmlValue_encode :
    ∃ captured, xmlValue message.encode tag = decodeEntities captured ∧
      (message.lookalike tag = none → captured = message.value tag) ∧
      (∀ text, message.lookalike tag = some (.text text) → captured = text) ∧
      (message.lookalike tag = some .unclosed → sectionEnd <:+: captured) := by
  have passed : Scan.first (matchField tag) ('<' :: "xml>".toList ++ encodeFields message.fields) =
      Scan.first (matchField tag) (encodeFields message.fields) :=
    first_matchField_append (by decide) (by cases tag <;> rfl)
  have read := first_matchField_encodeFields message.encodable tag
  refine ⟨_, rfl, ?_⟩
  rw [show Scan.first (matchField tag) message.encode = _ from passed]
  change Option.Rel Reads _ ((message.lookalike tag).or _) at read
  cases looks : message.lookalike tag with
  | none =>
      rw [looks, Option.none_or] at read
      refine ⟨fun _ => ?_, nofun, nofun⟩
      rcases message.value_eq_nil_or tag with ⟨missing, value⟩ | ⟨field, -, -, found, value⟩
      · rw [missing] at read
        cases first : Scan.first (matchField tag) (encodeFields message.fields) with
        | none => exact value.symm
        | some _ => rw [first] at read; cases read
      · rw [found] at read
        cases first : Scan.first (matchField tag) (encodeFields message.fields) with
        | none => rw [first] at read; cases read
        | some captured =>
            rw [first] at read
            cases read with
            | some same => exact Eq.trans same value.symm
  | some look =>
      rw [looks, Option.some_or] at read
      cases first : Scan.first (matchField tag) (encodeFields message.fields) with
      | none => rw [first] at read; cases read
      | some captured =>
          rw [first] at read
          cases read with
          | some reads =>
              refine ⟨nofun, fun text same => ?_, fun same => ?_⟩
              · obtain rfl := Option.some.inj same
                exact reads
              · obtain rfl := Option.some.inj same
                exact reads

end Message

/-- A message is read as it was written if and only if none of its values is taken for something
else. -/
theorem parseWechatMessage_eq_value_iff (message : WechatMessage) :
    parseWechatMessage message.encode = some message.value ↔ message.IsUndisturbed := by
  have declared : hasDeclaration message.encode =
      message.fields.any fun field => hasDeclaration field.value := by
    have passed :
        Scan.first declarationAt ('<' :: "xml>".toList ++ encodeFields message.fields) =
          Scan.first declarationAt (encodeFields message.fields) :=
      first_declarationAt_append (by decide) rfl
    rw [← hasDeclaration_encodeFields message.encodable]
    exact congrArg Option.isSome passed
  have undeclared : hasDeclaration message.encode = false ↔
      ∀ field ∈ message.fields, hasDeclaration field.value = false := by
    rw [declared, List.any_eq_false]
    simp
  have parsed : parseWechatMessage message.encode = some message.value ↔
      hasDeclaration message.encode = false ∧
        ∀ tag, xmlValue message.encode tag = message.value tag := by
    rw [parseWechatMessage, isXmlDocument_encode]
    cases hasDeclaration message.encode with
    | true => simp
    | false =>
        simp only [Bool.false_eq_true, Bool.true_eq_false, or_self, if_false, Option.some_inj,
          true_and]
        exact funext_iff
  rw [parsed, undeclared]
  constructor
  · rintro ⟨free, same⟩
    refine ⟨free, ?_, ?_, ?_⟩
    · intro tag absent
      obtain ⟨captured, read, own, -, -⟩ := xmlValue_encode message tag
      rw [← decodeEntities_eq_self_iff, ← own absent, ← read, own absent]
      exact same tag
    · intro tag text looks
      obtain ⟨captured, read, -, enclosed, -⟩ := xmlValue_encode message tag
      rw [← enclosed text looks, ← read]
      exact same tag
    · intro tag looks
      obtain ⟨captured, read, -, -, unclosed⟩ := xmlValue_encode message tag
      have holds := sectionEnd_decodeEntities (unclosed looks)
      rw [← read, same tag] at holds
      exact message.open_of_isSectioned tag (isSectioned_of_unclosed message tag looks) holds
  · intro undisturbed
    refine ⟨undisturbed.undeclared, fun tag => ?_⟩
    obtain ⟨captured, read, own, enclosed, -⟩ := xmlValue_encode message tag
    rw [read]
    cases looks : message.lookalike tag with
    | none =>
        rw [own looks]
        exact (decodeEntities_eq_self_iff _).mpr (undisturbed.plain tag looks)
    | some look =>
        cases look with
        | text text =>
            rw [enclosed text looks]
            exact undisturbed.enclosed tag text looks
        | unclosed => exact absurd looks (undisturbed.closed tag)

/-! ### A content with another message identifier -/

/-- A message whose sender writes a field into the content. -/
def forgedMessage : WechatMessage where
  fields :=
    [{ tag := .toUserName, value := "gh_bot".toList },
      { tag := .fromUserName, value := "openid_user".toList },
      { tag := .createTime, form := .digits, value := "1700000000".toList },
      { tag := .msgType, value := "text".toList },
      { tag := .content, value := "<MsgId>7</MsgId>".toList },
      { tag := .msgId, form := .digits, value := "123456".toList }]
  distinct := by decide
  encodable := by decide +kernel

/-- The content of a message sets the identifier by which repeated messages are recognised. -/
theorem content_sets_message_id :
    ((parseWechatMessage forgedMessage.encode).map fun read => read .msgId) = some ['7'] ∧
      forgedMessage.value .msgId = "123456".toList := by
  decide +kernel

end BairuiPlatform
