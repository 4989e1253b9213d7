/-
Module: BairuiPlatform.Agents.Cards
Purpose: Tavern character cards: what is read of them, and the agent that an import makes.
Trusted boundary: the PNG libraries, JSON.parse and the decoding of UTF-8
Main exports: boundedText, parseTavernCharacterCard, parseTavernCharacterCard_ok
-/
import BairuiPlatform.Foundations.Base64
import BairuiPlatform.Foundations.Sha256
import BairuiPlatform.Foundations.Transaction
import BairuiPlatform.JsData

namespace BairuiPlatform

open Foundations

/-- An error of the import. What the language throws has no code. -/
structure CardError where
  message : String
  code : Option String
  deriving DecidableEq

/-- A chunk of a PNG file. -/
structure PngChunk where
  name : JsText
  data : List UInt8

/-- The content of a text chunk. -/
structure PngText where
  keyword : JsText
  text : JsText

/-- What the import calls: `JSON.parse`, the decoding of UTF-8, `extractChunks` and
`PNGtext.decode`, each with nothing where it throws. -/
class CardHost where
  parse : JsText → Option JsData
  decodeUtf8 : List UInt8 → JsText
  extractChunks : List UInt8 → Option (List PngChunk)
  decodeText : List UInt8 → Option PngText

def MAX_CARD_BYTES : Nat := 8 * 1024 * 1024

def MAX_SOUL_CHARS : Nat := 50000

/-! ### Cleaning -/

/-- What `/[\0\u0001-\u0008\u000b\u000c\u000e-\u001f\u007f]/` matches. -/
def isControl (unit : Nat) : Bool :=
  unit ≤ 8 || unit = 11 || unit = 12 || 14 ≤ unit && unit ≤ 31 || unit = 127

/-- `text.replaceAll("\r\n", "\n")`. -/
def replaceCrLf : JsText → JsText
  | 13 :: 10 :: rest => 10 :: replaceCrLf rest
  | unit :: rest => unit :: replaceCrLf rest
  | [] => []

/-- A text with plain line feeds and without control characters. -/
def cleaned (text : JsText) : JsText :=
  ((replaceCrLf text).map fun unit => if unit = 13 then 10 else unit).filter (!isControl ·)

/-- `boundedText`. -/
def boundedText (value : Option JsData) (maximum : Nat) : Except CardError JsText :=
  match (JsData.orElse value (some (.str []))).bind JsData.text with
  | some text => .ok ((cleaned text).trim.take maximum)
  | none => .error { message := "Cannot convert object to primitive value", code := none }

/-- `stringList`. -/
def stringList (value : Option JsData) (maximumItems maximumChars : Nat) :
    Except CardError (List JsText) :=
  match value with
  | some (.arr items) =>
      ((items.filter fun item => item.text?.isSome).mapM fun item =>
        boundedText (some item) maximumChars).map fun texts =>
          ((texts.filter (· ≠ [])).eraseDups).take maximumItems
  | _ => .ok []

/-! ### Reading -/

/-- `text.toLowerCase()`, as far as it matters to the ASCII texts it is compared with. -/
def asciiLower (text : JsText) : JsText :=
  text.map fun unit => if 65 ≤ unit && unit ≤ 90 then unit + 32 else unit

/-- `content.replace(/^data:image\/png;base64,/i, "")`. -/
def withoutDataUrl (content : JsText) : JsText :=
  if asciiLower (content.take 22) = utf16 "data:image/png;base64," then content.drop 22
  else content

/-- The error of a syntax that `JSON.parse` does not know, or of a broken chunk. -/
def thrown : CardError :=
  { message := "Unexpected token", code := none }

def invalidCard (message : String) : CardError :=
  { message := message, code := some "invalid_character_card" }

/-- `decodePngCard`. -/
def decodePngCard [CardHost] (content : Option JsData) : Except CardError JsData :=
  match content.bind JsData.text? with
  | none | some [] => .error (invalidCard "Character card PNG content is required")
  | some text =>
      let buffer := Base64.decode (withoutDataUrl text).characters
      if buffer = [] || buffer.length > MAX_CARD_BYTES ||
          buffer.take 8 ≠ [137, 80, 78, 71, 13, 10, 26, 10] then
        .error (invalidCard "Character card PNG is invalid")
      else
        match (CardHost.extractChunks buffer).bind fun chunks =>
            (chunks.filter fun chunk => chunk.name = utf16 "tEXt").mapM fun chunk =>
              CardHost.decodeText chunk.data with
        | none => .error thrown
        | some textChunks =>
            let withKeyword (keyword : String) :=
              (textChunks.find? fun chunk => asciiLower chunk.keyword = utf16 keyword).map
                PngText.text
            match withKeyword "ccv3" <|> withKeyword "chara" with
            | none | some [] =>
                .error { message := "PNG does not contain character card metadata"
                         code := some "character_card_metadata_missing" }
            | some encoded =>
                match CardHost.parse
                    (CardHost.decodeUtf8 (Base64.decode encoded.characters)) with
                | some card => .ok card
                | none => .error thrown

/-- `Buffer.byteLength(text, "utf8")`. -/
def byteLength (text : JsText) : Nat :=
  (text.characters.flatMap Sha256.utf8).length

/-- `rawCard`; nothing stands for a content that is missing. -/
def rawCard [CardHost] (input : JsData) : Except CardError (Option JsData) :=
  if input.isObject then
    match (input.member "format").bind JsData.text? with
    | some format =>
        if format = utf16 "png" then (decodePngCard (input.member "content")).map some
        else if format = utf16 "json" then
          match input.member "content" with
          | some (.str text) =>
              if byteLength text > MAX_CARD_BYTES then
                .error { message := "Character card is too large"
                         code := some "character_card_too_large" }
              else
                match CardHost.parse text with
                | some card => .ok (some card)
                | none => .error thrown
          | content => .ok content
        else
          .error { message := "Character card format is not supported"
                   code := some "character_card_format_not_supported" }
    | none =>
        .error { message := "Character card format is not supported"
                 code := some "character_card_format_not_supported" }
  else .error (invalidCard "Character card input is invalid")

/-! ### The card -/

/-- An entry of the book of a card. -/
structure CardBookEntry where
  id : JsData
  name : JsText
  keys : List JsText
  secondaryKeys : List JsText
  content : JsText
  constant : Bool
  insertionOrder : JsData

/-- The book of a card. -/
structure CardBook where
  name : JsText
  description : JsText
  entries : List CardBookEntry

/-- A card after it was read. -/
structure Card where
  spec : String
  specVersion : JsText
  name : JsText
  description : JsText
  personality : JsText
  scenario : JsText
  firstMessage : JsText
  messageExample : JsText
  creatorNotes : JsText
  systemPrompt : JsText
  postHistoryInstructions : JsText
  alternateGreetings : List JsText
  tags : List JsText
  creator : JsText
  characterVersion : JsText
  characterBook : Option CardBook

/-- The version of a card. -/
def cardVersion (card : JsData) : Nat :=
  let spec := (card.member "spec").bind JsData.text?
  if spec = some (utf16 "chara_card_v3") then 3
  else if spec = some (utf16 "chara_card_v2") then 2
  else 1

/-- The part of a card that holds its fields. -/
def cardSource (card : Option JsData) : Except CardError JsData :=
  match card.filter JsData.isObject with
  | none => .error (invalidCard "Character card JSON is invalid")
  | some card =>
      let source := if cardVersion card > 1 then card.member "data" else some card
      match source.filter JsData.isObject with
      | none => .error (invalidCard "Character card data is missing")
      | some source => .ok source

/-- An entry of a book, with its place. -/
def bookEntry (entry : JsData) (index : Nat) : Except CardError CardBookEntry := do
  let name ← boundedText (JsData.orElse (entry.member "name") (entry.member "comment")) 200
  let keys ← stringList (entry.member "keys") 50 200
  let secondaryKeys ← stringList (entry.member "secondary_keys") 50 200
  let content ← boundedText (entry.member "content") 50000
  return {
    id := ((entry.member "id").filter fun id => id.safeInteger?.isSome).getD (.num index)
    name := name
    keys := keys
    secondaryKeys := secondaryKeys
    content := content
    constant := match entry.member "constant" with
      | some (.bool true) => true
      | _ => false
    insertionOrder :=
      ((entry.member "insertion_order").filter JsData.isFinite).getD (.num index) }

/-- The entry is `null` or disabled, or is no object. An array is one. -/
def isSkipped (entry : JsData) : Bool :=
  match entry with
  | .arr _ => false
  | .obj _ =>
      match entry.member "enabled" with
      | some (.bool false) => true
      | _ => false
  | _ => true

/-- The book of a card. -/
def bookOf (source : JsData) : Except CardError (Option CardBook) :=
  match (source.member "character_book").filter JsData.isObject with
  | none => .ok none
  | some book => do
      let name ← boundedText (book.member "name") 200
      let description ← boundedText (book.member "description") 2000
      let entries ← match book.member "entries" with
        | some (.arr items) =>
            (((items.filter (!isSkipped ·)).take 200).zipIdx.mapM fun entry =>
              bookEntry entry.1 entry.2).map fun entries => entries.filter (·.content ≠ [])
        | _ => .ok []
      return some { name := name, description := description, entries := entries }

/-- `normalizedData`. -/
def normalizedData (card : Option JsData) : Except CardError Card := do
  let source ← cardSource card
  let version := cardVersion (card.getD .null)
  let name ← boundedText (source.member "name") 64
  if name = [] then .error (invalidCard "Character card name is required")
  else
    let specVersion ← boundedText
      (JsData.orElse ((card.getD .null).member "spec_version") (some (.num version))) 20
    let description ← boundedText (source.member "description") 12000
    let personality ← boundedText (source.member "personality") 12000
    let scenario ← boundedText (source.member "scenario") 12000
    let firstMessage ← boundedText (source.member "first_mes") 20000
    let messageExample ← boundedText (source.member "mes_example") 30000
    let creatorNotes ← boundedText
      (JsData.orElse (source.member "creator_notes") (source.member "creatorcomment")) 12000
    let systemPrompt ← boundedText (source.member "system_prompt") 20000
    let postHistoryInstructions ←
      boundedText (source.member "post_history_instructions") 12000
    let alternateGreetings ← stringList (source.member "alternate_greetings") 20 20000
    let tags ← stringList (source.member "tags") 50 100
    let creator ← boundedText (source.member "creator") 200
    let characterVersion ← boundedText (source.member "character_version") 100
    let characterBook ← bookOf source
    return {
      spec := if version = 3 then "chara_card_v3" else if version = 2 then "chara_card_v2"
        else "tavern_card_v1"
      specVersion, name, description, personality, scenario, firstMessage, messageExample
      creatorNotes, systemPrompt, postHistoryInstructions, alternateGreetings, tags, creator
      characterVersion, characterBook }

/-! ### The agent -/

/-- `replaceMacros`. -/
def replaceMacros (value name : JsText) : JsText :=
  (value.replaceAll (utf16 "\x7b\x7bchar\x7d\x7d") name).replaceAll
    (utf16 "\x7b\x7buser\x7d\x7d") (utf16 "the user")

/-- `section`. -/
def soulSection (title : String) (value name : JsText) : JsText :=
  let content := (replaceMacros value name).trim
  if content ≠ [] then utf16 "## " ++ utf16 title ++ [10, 10] ++ content else []

/-- `soulMarkdown`. -/
def soulMarkdown (card : Card) : JsText :=
  let parts := [utf16 "# Identity" ++ [10, 10] ++ utf16 "## Name" ++ [10, 10] ++ card.name,
    soulSection "Description" card.description card.name,
    soulSection "Personality" card.personality card.name,
    soulSection "Scenario" card.scenario card.name,
    soulSection "System Guidance" card.systemPrompt card.name,
    soulSection "Conversation Guidance" card.postHistoryInstructions card.name].filter (· ≠ [])
  (([10, 10] : JsText).intercalate parts).take MAX_SOUL_CHARS

/-- The fields of an agent that an import sets. -/
structure ImportedAgent where
  name : JsText
  description : JsText
  soulMarkdown : JsText

/-- What an import makes of a card: the card as it was read, and its agent. -/
structure ImportedCard where
  card : Card
  agent : ImportedAgent

/-- `parseTavernCharacterCard`. -/
def parseTavernCharacterCard [CardHost] (input : JsData) : Except CardError ImportedCard :=
  match (rawCard input).bind normalizedData with
  | .error error =>
      .error (if error.code.isSome then error else invalidCard "Character card cannot be parsed")
  | .ok card =>
      .ok { card := card
            agent := { name := card.name, description := card.description.take 500
                       soulMarkdown := soulMarkdown card } }

/-! ### What an import keeps -/

/-- A text without control characters and carriage returns. -/
def IsClean (text : JsText) : Prop :=
  ∀ unit ∈ text, isControl unit = false ∧ unit ≠ 13

instance : DecidablePred IsClean := fun text =>
  inferInstanceAs (Decidable (∀ unit ∈ text, isControl unit = false ∧ unit ≠ 13))

theorem isClean_cleaned (text : JsText) : IsClean (cleaned text) := by
  intro unit member
  obtain ⟨mapped, plain⟩ := List.mem_filter.mp member
  refine ⟨by rwa [Bool.not_eq_true'] at plain, ?_⟩
  obtain ⟨old, -, rfl⟩ := List.mem_map.mp mapped
  split
  · decide
  · rename_i other
    exact other

theorem IsClean.append {text other : JsText} (clean : IsClean text) (also : IsClean other) :
    IsClean (text ++ other) :=
  List.forall_mem_append.mpr ⟨clean, also⟩

theorem IsClean.trim {text : JsText} (clean : IsClean text) : IsClean text.trim :=
  fun unit member => clean unit (JsText.mem_trim member)

theorem IsClean.take {text : JsText} (clean : IsClean text) (count : Nat) :
    IsClean (text.take count) :=
  fun unit member => clean unit (List.mem_of_mem_take member)

theorem IsClean.replaceAll {text pattern replacement : JsText} (clean : IsClean text)
    (pattern_clean : IsClean pattern) (replacement_clean : IsClean replacement) :
    IsClean (text.replaceAll pattern replacement) := by
  intro unit member
  rcases JsText.mem_replaceAll member with inside | inside | inside
  · exact clean unit inside
  · exact pattern_clean unit inside
  · exact replacement_clean unit inside

theorem IsClean.intercalate {texts : List JsText} (clean : ∀ text ∈ texts, IsClean text)
    {separator : JsText} (separator_clean : IsClean separator) :
    IsClean (separator.intercalate texts) := by
  induction texts with
  | nil => exact fun _ member => absurd member List.not_mem_nil
  | cons text texts ih =>
      rw [List.forall_mem_cons] at clean
      cases texts with
      | nil => rw [List.intercalate_singleton]; exact clean.1
      | cons next texts =>
          rw [List.intercalate_cons_cons]
          exact (clean.1.append separator_clean).append (ih clean.2)

section Bounded

variable {value : Option JsData} {maximum : Nat} {text : JsText}

theorem boundedText_isClean (bounded : boundedText value maximum = .ok text) : IsClean text := by
  unfold boundedText at bounded
  split at bounded
  · cases bounded
    exact ((isClean_cleaned _).trim).take maximum
  · cases bounded

theorem boundedText_length (bounded : boundedText value maximum = .ok text) :
    text.length ≤ maximum := by
  unfold boundedText at bounded
  split at bounded
  · cases bounded
    exact List.length_take_le _ _
  · cases bounded

/-- What is left of a text begins with a unit that is not blank. -/
theorem boundedText_not_blank (bounded : boundedText value maximum = .ok text)
    (nonempty : text ≠ []) : ∃ unit ∈ text, JsText.isBlank unit = false := by
  unfold boundedText at bounded
  split at bounded
  · rename_i given _
    cases bounded
    cases trimmed : (cleaned given).trim with
    | nil =>
        rw [trimmed, List.take_nil] at nonempty
        exact absurd rfl nonempty
    | cons unit rest =>
        rw [trimmed] at nonempty
        cases maximum with
        | zero => exact absurd rfl nonempty
        | succ maximum =>
            exact ⟨unit, List.mem_cons_self, JsText.not_isBlank_of_trim_eq_cons trimmed⟩
  · cases bounded

end Bounded

/-- The fields of a card that go into the agent. -/
theorem normalizedData_ok {raw : Option JsData} {card : Card}
    (normalized : normalizedData raw = .ok card) :
    ∃ source, cardSource raw = .ok source ∧
      boundedText (source.member "name") 64 = .ok card.name ∧ card.name ≠ [] ∧
      IsClean card.description ∧ IsClean card.personality ∧ IsClean card.scenario ∧
      IsClean card.systemPrompt ∧ IsClean card.postHistoryInstructions := by
  unfold normalizedData at normalized
  obtain ⟨source, found, normalized⟩ := bind_eq_ok.mp normalized
  obtain ⟨name, named, normalized⟩ := bind_eq_ok.mp normalized
  split at normalized
  · cases normalized
  · rename_i nonempty
    simp only [bind_eq_ok] at normalized
    obtain ⟨_, -, _, description, _, personality, _, scenario, _, -, _, -, _, -, _, systemPrompt,
      _, postHistory, _, -, _, -, _, -, _, -, _, -, same⟩ := normalized
    cases same
    exact ⟨source, found, named, nonempty, boundedText_isClean description,
      boundedText_isClean personality, boundedText_isClean scenario,
      boundedText_isClean systemPrompt, boundedText_isClean postHistory⟩

theorem isClean_soulSection {title : String} {value name : JsText} (clean : IsClean value)
    (named : IsClean name) (titled : IsClean (utf16 title)) :
    IsClean (soulSection title value name) := by
  unfold soulSection replaceMacros
  dsimp only
  split
  · refine IsClean.append (IsClean.append (IsClean.append (by decide) titled) (by decide)) ?_
    refine IsClean.trim (IsClean.replaceAll ?_ (by decide) (by decide))
    exact clean.replaceAll (by decide) named
  · exact fun _ member => absurd member List.not_mem_nil

/-- What an accepted card gives the agent: a name that is the cleaned name of the card, and a
clean text of bounded length. -/
theorem parseTavernCharacterCard_ok [CardHost] {input : JsData} {imported : ImportedCard}
    (parsed : parseTavernCharacterCard input = .ok imported) :
    ∃ source, (rawCard input).bind cardSource = .ok source ∧
      boundedText (source.member "name") 64 = .ok imported.agent.name ∧
      imported.agent.name ≠ [] ∧ IsClean imported.agent.soulMarkdown ∧
      imported.agent.soulMarkdown.length ≤ MAX_SOUL_CHARS := by
  unfold parseTavernCharacterCard at parsed
  split at parsed
  · cases parsed
  · rename_i card read
    cases parsed
    obtain ⟨raw, isRaw, normalized⟩ := bind_eq_ok.mp read
    obtain ⟨source, found, named, nonempty, description, personality, scenario, systemPrompt,
      postHistory⟩ := normalizedData_ok normalized
    have nameClean := boundedText_isClean named
    refine ⟨source, bind_eq_ok.mpr ⟨raw, isRaw, found⟩, named, nonempty, ?_,
      List.length_take_le _ _⟩
    unfold soulMarkdown
    refine IsClean.take (IsClean.intercalate (fun part member => ?_) (by decide)) _
    have inside := (List.mem_filter.mp member).1
    simp only [List.mem_cons, List.not_mem_nil, or_false] at inside
    rcases inside with rfl | rfl | rfl | rfl | rfl | rfl
    · exact IsClean.append (by decide) nameClean
    · exact isClean_soulSection description nameClean (by decide)
    · exact isClean_soulSection personality nameClean (by decide)
    · exact isClean_soulSection scenario nameClean (by decide)
    · exact isClean_soulSection systemPrompt nameClean (by decide)
    · exact isClean_soulSection postHistory nameClean (by decide)

end BairuiPlatform
