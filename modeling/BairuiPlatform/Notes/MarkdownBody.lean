/-
Module: BairuiPlatform.Notes.MarkdownBody
Purpose: The body that is read back from a document: all of the body that was written, up to a
  heading of links in it.
Trusted boundary: none
Main exports: cutBody, trim_snoc, Unmarked, obsidianBody_markdownOf, obsidianBody_createDocument
-/
import BairuiPlatform.Notes.Markdown

namespace BairuiPlatform

/-! ### Parts of a text -/

theorem mem_of_mem_sliceChars {room : Nat} {text : List Char} {c : Char}
    (member : c ∈ sliceChars room text) : c ∈ text := by
  induction text generalizing room with
  | nil => simp [sliceChars] at member
  | cons d text ih =>
      simp only [sliceChars] at member
      split at member
      · rcases List.mem_cons.mp member with rfl | inside
        · exact List.mem_cons_self
        · exact List.mem_cons_of_mem _ (ih inside)
      · cases member

theorem mem_of_mem_trim {text : List Char} {c : Char} (member : c ∈ trim text) : c ∈ text := by
  simp only [trim, List.mem_reverse] at member
  have inner := (List.dropWhile_sublist _).mem member
  rw [List.mem_reverse] at inner
  exact (List.dropWhile_sublist _).mem inner

theorem head_trim {text : List Char} {c : Char} {rest : List Char}
    (begins : trim text = c :: rest) : isTrimmed c = false := by
  -- The first character of a trimmed text is that of the text without leading white space.
  have leading : trim text <+: text.dropWhile isTrimmed := by
    rw [trim, ← List.reverse_suffix, List.reverse_reverse]
    exact List.dropWhile_suffix _
  obtain ⟨tail, whole⟩ := leading
  rw [begins, List.cons_append] at whole
  have first := List.head?_dropWhile_not isTrimmed text
  rw [← whole] at first
  exact first

theorem getLast?_trim {text : List Char} {c : Char} (ends : (trim text).getLast? = some c) :
    isTrimmed c = false := by
  rw [trim, List.getLast?_reverse] at ends
  have head := List.head?_dropWhile_not isTrimmed (text.dropWhile isTrimmed).reverse
  rw [ends] at head
  simpa using head

/-- White space at the end of a text is not part of it. -/
theorem trim_snoc {text : List Char} {c : Char} (blank : isTrimmed c = true) :
    trim (text ++ [c]) = trim text := by
  simp only [trim, List.dropWhile_append]
  split
  · rename_i empty
    rw [List.isEmpty_iff] at empty
    simp [empty, blank]
  · rw [List.reverse_append, List.reverse_singleton, List.singleton_append,
      List.dropWhile_cons_of_pos blank]

/-! ### The end of the front matter -/

/-- A text without line breaks. -/
def Plain (text : List Char) : Prop :=
  ∀ c ∈ text, c ≠ '\n' ∧ c ≠ '\r'

instance : DecidablePred Plain := fun text => List.decidableBAll _ text

theorem Plain.append {first second : List Char} (left : Plain first) (right : Plain second) :
    Plain (first ++ second) := by
  intro c member
  rcases List.mem_append.mp member with inFirst | inSecond
  · exact left c inFirst
  · exact right c inSecond

/-- A text in which the front matter does not end. -/
def Unmarked (text : List Char) : Prop :=
  ∀ rest, findClosing (text ++ rest) = findClosing rest

theorem Unmarked.nil : Unmarked [] := by
  intro rest
  rfl

theorem Unmarked.append {first second : List Char} (left : Unmarked first)
    (right : Unmarked second) : Unmarked (first ++ second) := by
  intro rest
  rw [List.append_assoc, left, right]

theorem Unmarked.flatMap {α : Type} {items : List α} {text : α → List Char}
    (each : ∀ item, Unmarked (text item)) : Unmarked (items.flatMap text) := by
  induction items with
  | nil => exact .nil
  | cons item items ih =>
      rw [List.flatMap_cons]
      exact (each item).append ih

theorem findClosing_cons {c : Char} {rest : List Char} (open_ : closing (c :: rest) = none) :
    findClosing (c :: rest) = findClosing rest := by
  rw [findClosing, open_]

theorem Plain.unmarked {text : List Char} (plain : Plain text) : Unmarked text := by
  intro rest
  induction text with
  | nil => rfl
  | cons c text ih =>
      have broken := plain c List.mem_cons_self
      rw [List.cons_append, findClosing_cons, ih fun d member =>
        plain d (List.mem_cons_of_mem _ member)]
      simp [closing, lineBreak, broken.1, broken.2]

/-- A line that does not begin with a hyphen does not end the front matter. -/
theorem Plain.line {c : Char} {text : List Char} (plain : Plain (c :: text)) (begins : c ≠ '-') :
    Unmarked ('\n' :: c :: text) := by
  intro rest
  rw [List.cons_append, findClosing_cons, plain.unmarked]
  simp [closing, lineBreak, behind, begins.symm]

/-! ### The lines of the front matter -/

/-- No literal of the front matter holds a line break, and no name begins with a hyphen. -/
theorem plain_literals :
    (Plain "title: ".toList ∧ Plain "bairui-agent".toList ∧ Plain "bairui-user".toList ∧
      Plain [':', ' '] ∧ Plain "  - ".toList ∧ Plain "tags: []".toList ∧ Plain "tags:".toList) ∧
    (∀ name ∈ ["created", "updated", "source", "memory_kind", "importance", "hermes_target",
        "source_ref"], Plain name.toList ∧ name.toList.head?.all (· = '-') = false) ∧
    (∀ kind ∈ [MemoryKind.knowledge, .fact, .preference, .constraint, .procedure, .person,
        .project, .event], Plain kind.name.toList) ∧
    (∀ target ∈ [HermesTarget.auto, .memory, .user, .none], Plain target.name.toList) ∧
    ∀ importance < 6, Plain (toString importance).toList := by
  decide +kernel

theorem plain_quote (text : String) : Plain (Json.quote text) := by
  have hex : ∀ value, value < 16 → Json.hexDigit value ≠ '\n' ∧ Json.hexDigit value ≠ '\r' := by
    decide
  have escaped : ∀ c, Plain (Json.quoteChar c) := by
    intro c d member
    simp only [Json.quoteChar] at member
    split_ifs at member
    all_goals simp only [List.mem_cons, List.not_mem_nil, or_false] at member
    any_goals (rcases member with rfl | rfl <;> decide)
    · -- A control character is written with its number.
      rcases member with rfl | rfl | rfl | rfl | member | member
      · decide
      · decide
      · decide
      · decide
      · rw [member]
        exact hex _ (by omega)
      · rw [member]
        exact hex _ (by omega)
    · rename_i newline _ feed _
      rw [member]
      constructor
      · rintro rfl
        exact newline rfl
      · rintro rfl
        exact feed rfl
  intro c member
  simp only [Json.quote, List.cons_append, List.mem_cons, List.mem_append, List.mem_flatMap,
    List.not_mem_nil, or_false] at member
  rcases member with rfl | ⟨d, -, inside⟩ | rfl
  · decide
  · exact escaped d c inside
  · decide

theorem plain_sourceRefOf (value : Option String) : Plain (sourceRefOf value).toList := by
  have mark : ∀ c, isSourceChar c = true → c ≠ '\n' ∧ c ≠ '\r' := by
    intro c allowed
    constructor
    · rintro rfl
      exact absurd allowed (by decide)
    · rintro rfl
      exact absurd allowed (by decide)
  obtain ⟨⟨-, -, fallback, -⟩, -⟩ := plain_literals
  simp only [sourceRefOf]
  split
  · exact fallback
  · rename_i first rest _
    split
    · rename_i allowed
      rename_i normalized
      simp only [Bool.and_eq_true, List.all_eq_true] at allowed
      rw [String.toList_ofList, normalized]
      intro c member
      rcases List.mem_cons.mp member with rfl | inRest
      · exact mark _ (by simp [isSourceChar, allowed.1.1])
      · exact mark c (allowed.2 c inRest)
    · exact fallback

/-- A property line does not end the front matter. -/
theorem unmarked_frontLine {name : String} {value : List Char} (plainName : Plain name.toList)
    (begins : name.toList.head?.all (· = '-') = false) (plain : Plain value) :
    Unmarked (frontLine name value) := by
  simp only [frontLine, chars_eq_toList]
  cases named : name.toList with
  | nil => simp [named] at begins
  | cons c rest =>
      rw [named] at plainName begins
      have first : c ≠ '-' := by simpa using begins
      obtain ⟨⟨-, -, -, colon, -⟩, -⟩ := plain_literals
      exact ((plainName.append colon).append plain).line first

theorem unmarked_yamlTags (tags : List String) : Unmarked (yamlTags tags) := by
  obtain ⟨⟨-, -, -, -, lead, empty, heading⟩, -⟩ := plain_literals
  have item (tag : String) : Unmarked ("\n  - ".toList ++ Json.quote tag) :=
    (lead.append (plain_quote tag)).line (by decide)
  simp only [yamlTags]
  split
  · exact empty.line (by decide)
  · exact (heading.line (by decide)).append (.flatMap item)

/-- The front matter of a document does not end before its closing line. -/
theorem unmarked_frontMatter {title created updated source : List Char} {importance : Nat}
    (memoryKind : MemoryKind) (hermesTarget : HermesTarget) (tags : List String)
    (plainTitle : Plain title) (plainCreated : Plain created) (plainUpdated : Plain updated)
    (plainSource : Plain source) (atMost : importance ≤ 5) :
    Unmarked (frontMatter title created updated source memoryKind importance hermesTarget
      tags) := by
  obtain ⟨⟨lead, agent, -⟩, names, kinds, targets, numbers⟩ := plain_literals
  have kind : Plain memoryKind.name.toList := kinds memoryKind (by cases memoryKind <;> decide)
  have target : Plain hermesTarget.name.toList :=
    targets hermesTarget (by cases hermesTarget <;> decide)
  have number : Plain (toString importance).toList := numbers importance (by omega)
  have line {name : String} {value : List Char} (plain : Plain value)
      (named : name ∈ ["created", "updated", "source", "memory_kind", "importance",
        "hermes_target", "source_ref"]) : Unmarked (frontLine name value) :=
    unmarked_frontLine (names name named).1 (names name named).2 plain
  apply Unmarked.append _ (unmarked_yamlTags tags)
  apply Unmarked.append _ (line plainSource (by simp))
  apply Unmarked.append _ (line target (by simp))
  apply Unmarked.append _ (line number (by simp))
  apply Unmarked.append _ (line kind (by simp))
  apply Unmarked.append _ (line agent (by simp))
  apply Unmarked.append _ (line plainUpdated (by simp))
  apply Unmarked.append _ (line plainCreated (by simp))
  exact (lead.append plainTitle).unmarked

/-! ### The heading of links -/

/-- What is read back of a body: all of it, or what precedes a heading of links in it. -/
def cutBody (body : List Char) : List Char :=
  trim (cutRelated (body ++ ['\n']))

theorem behind_append {literal text rest : List Char} (inLine : '\n' ∉ literal) :
    behind literal (text ++ '\n' :: rest) =
      (behind literal text).map (· ++ '\n' :: rest) := by
  induction literal generalizing text with
  | nil => rfl
  | cons c literal ih =>
      rw [List.mem_cons, not_or] at inLine
      cases text with
      | nil => simp [behind, Ne.symm inLine.1]
      | cons d text =>
          simp only [List.cons_append, behind, ih inLine.2]
          split <;> rfl

theorem lineBreak_eq_some {text rest : List Char} :
    lineBreak text = some rest ↔ text = '\n' :: rest ∨ text = '\r' :: '\n' :: rest := by
  constructor
  · intro found
    unfold lineBreak at found
    split at found <;> simp_all
  · rintro (rfl | rfl) <;> rfl

theorem isSome_lineBreak_append (text rest other : List Char) :
    (lineBreak (text ++ '\n' :: rest)).isSome = (lineBreak (text ++ '\n' :: other)).isSome := by
  rw [Bool.eq_iff_iff]
  simp only [Option.isSome_iff_exists, lineBreak_eq_some]
  rcases text with _ | ⟨c, _ | ⟨d, text⟩⟩ <;> simp [exists_or]

/-- The last character of a text is no line break. -/
def EndsInLine (text : List Char) : Prop :=
  ∀ c ∈ text.getLast?, c ≠ '\n' ∧ c ≠ '\r'

theorem EndsInLine.tail {c : Char} {text : List Char} (ends : EndsInLine (c :: text)) :
    EndsInLine text := by
  intro d last
  apply ends d
  rw [Option.mem_def] at last ⊢
  cases text with
  | nil => simp at last
  | cons e text => rw [List.getLast?_cons_cons, last]

/-- Behind a line break, the line that ends a text begins with its first character. -/
theorem dropWhile_append_newline {text : List Char} (ends : EndsInLine text)
    (filled : text ≠ []) (rest : List Char) :
    (text ++ '\n' :: rest).dropWhile (· = '\n') =
      text.dropWhile (· = '\n') ++ '\n' :: rest := by
  induction text with
  | nil => exact absurd rfl filled
  | cons c text ih =>
      by_cases newline : c = '\n'
      · have more : text ≠ [] := by
          rintro rfl
          exact (ends c rfl).1 newline
        simpa [newline] using ih ends.tail more
      · simp [newline]

/-- What follows a line does not decide whether a heading of links starts in it. -/
theorem startsRelated_append {text : List Char} (ends : EndsInLine text) (filled : text ≠ [])
    (rest other : List Char) :
    startsRelated (text ++ '\n' :: rest) = startsRelated (text ++ '\n' :: other) := by
  have heading : '\n' ∉ relatedHeading := by decide
  have behindBreak {line : List Char} (lineEnds : EndsInLine line) (lineFilled : line ≠ [])
      (tail : List Char) :
      (behind relatedHeading ((line ++ '\n' :: tail).dropWhile (· = '\n'))).bind lineBreak =
        (behind relatedHeading (line.dropWhile (· = '\n'))).bind
          fun found => lineBreak (found ++ '\n' :: tail) := by
    rw [dropWhile_append_newline lineEnds lineFilled, behind_append heading]
    simp [Option.bind_map]
  have same {line : List Char} (lineEnds : EndsInLine line) (lineFilled : line ≠ []) :
      ((behind relatedHeading ((line ++ '\n' :: rest).dropWhile (· = '\n'))).bind
          lineBreak).isSome =
        ((behind relatedHeading ((line ++ '\n' :: other).dropWhile (· = '\n'))).bind
          lineBreak).isSome := by
    rw [behindBreak lineEnds lineFilled, behindBreak lineEnds lineFilled]
    cases behind relatedHeading (line.dropWhile (· = '\n')) with
    | none => rfl
    | some found => exact isSome_lineBreak_append found rest other
  simp only [startsRelated, lineBreaks]
  rcases text with _ | ⟨c, text⟩
  · exact absurd rfl filled
  · by_cases newline : c = '\n'
    · subst newline
      have more : text ≠ [] := by
        rintro rfl
        exact (ends _ rfl).1 rfl
      exact same ends.tail more
    · by_cases carriage : c = '\r'
      · subst carriage
        rcases text with _ | ⟨d, text⟩
        · exact absurd rfl (ends _ rfl).2
        · by_cases feed : d = '\n'
          · subst feed
            have more : text ≠ [] := by
              rintro rfl
              exact (ends _ rfl).1 rfl
            exact same ends.tail.tail more
          · simp [lineBreak, feed]
      · simp [lineBreak, newline, carriage]

/-- What follows a text that ends in a line is cut with a heading of links in the text, or on
its own. -/
theorem cutRelated_append {text : List Char} (ends : EndsInLine text) :
    (∃ kept, ∀ rest, cutRelated (text ++ '\n' :: rest) = kept) ∨
      ∀ rest, cutRelated (text ++ '\n' :: rest) = text ++ cutRelated ('\n' :: rest) := by
  induction text with
  | nil => exact .inr fun _ => rfl
  | cons c text ih =>
      have starts (rest : List Char) := startsRelated_append ends (List.cons_ne_nil c text) rest []
      by_cases related : startsRelated (c :: text ++ ['\n']) = true
      · left
        exists []
        intro rest
        rw [List.cons_append, cutRelated, if_pos]
        rw [← List.cons_append, starts, related]
      · have step (rest : List Char) :
            cutRelated (c :: text ++ '\n' :: rest) = c :: cutRelated (text ++ '\n' :: rest) := by
          rw [List.cons_append, cutRelated, if_neg]
          rw [← List.cons_append, starts]
          exact related
        rcases ih ends.tail with ⟨kept, cut⟩ | whole
        · left
          exists c :: kept
          intro rest
          rw [step, cut]
        · right
          intro rest
          rw [step, whole, List.cons_append]

/-! ### Documents -/

theorem cutRelated_relatedSection {wikilinks : List String} (linked : wikilinks ≠ []) :
    cutRelated (relatedSection wikilinks ++ ['\n']) = [] := by
  cases wikilinks with
  | nil => exact absurd rfl linked
  | cons link wikilinks =>
      simp only [relatedSection, List.cons_ne_nil, if_false, List.flatMap_cons]
      rfl

/-- The links of a document are not read back with its body. -/
theorem trim_cutRelated_links {body : List Char} (ends : EndsInLine body)
    (wikilinks : List String) :
    trim (cutRelated (body ++ relatedSection wikilinks ++ ['\n'])) = cutBody body := by
  by_cases linked : wikilinks = []
  · simp [linked, relatedSection, cutBody]
  · obtain ⟨section_, opened⟩ :
        ∃ section_, relatedSection wikilinks ++ ['\n'] = '\n' :: section_ := by
      simp only [relatedSection, if_neg linked]
      exact ⟨_, rfl⟩
    rw [List.append_assoc, cutBody, opened]
    rcases cutRelated_append ends with ⟨kept, cut⟩ | whole
    · rw [cut, cut]
    · rw [whole, whole, ← opened, cutRelated_relatedSection linked, List.append_nil]
      exact (trim_snoc (by decide)).symm

theorem findClosing_mark (rest : List Char) :
    findClosing ('\n' :: '-' :: '-' :: '-' :: '\n' :: '\n' :: '#' :: ' ' :: rest) =
      some ('#' :: ' ' :: rest) := by
  have marked : closing ('\n' :: '-' :: '-' :: '-' :: '\n' :: '\n' :: '#' :: ' ' :: rest) =
      some ('#' :: ' ' :: rest) := by
    simp [closing, lineBreak, lineBreaks, behind]
  rw [findClosing, marked]

/-- A document behind its front matter. -/
theorem dropFrontmatter_markdownOf {front : List Char} (unmarked : Unmarked front)
    (title body links : List Char) :
    dropFrontmatter (markdownOf front title body links) =
      '#' :: ' ' :: (title ++ '\n' :: '\n' :: (body ++ links ++ ['\n'])) := by
  have shape : markdownOf front title body links =
      '-' :: '-' :: '-' :: '\n' :: (front ++ ('\n' :: '-' :: '-' :: '-' :: '\n' :: '\n' ::
        '#' :: ' ' :: (title ++ '\n' :: '\n' :: (body ++ links ++ ['\n'])))) := by
    have first : "---\n".toList = ['-', '-', '-', '\n'] := by decide
    have last : "\n---\n\n# ".toList = ['\n', '-', '-', '-', '\n', '\n', '#', ' '] := by
      decide
    unfold markdownOf
    rw [first, last]
    simp
  have found := unmarked ('\n' :: '-' :: '-' :: '-' :: '\n' :: '\n' :: '#' :: ' ' ::
    (title ++ '\n' :: '\n' :: (body ++ links ++ ['\n'])))
  rw [findClosing_mark] at found
  rw [shape, dropFrontmatter]
  simp only [behind, if_true, Option.bind_some, lineBreak, found, Option.getD_some]

/-- The body of a document is read back up to a heading of links. -/
theorem obsidianBody_markdownOf {front title body : List Char} {wikilinks : List String}
    (unmarked : Unmarked front) (inLine : ∀ c ∈ title, isInLine c = true) (titled : title ≠ [])
    (begins : ∀ c ∈ body.head?, c ≠ '\n') (filled : body ≠ []) (ends : EndsInLine body) :
    obsidianBody (markdownOf front title body (relatedSection wikilinks)) = cutBody body := by
  have headed (rest : List Char) :
      (title ++ '\n' :: rest).takeWhile isInLine = title ∧
        (title ++ '\n' :: rest).dropWhile isInLine = '\n' :: rest := by
    constructor
    · rw [List.takeWhile_append_of_pos inLine, List.takeWhile_cons_of_neg (by decide),
        List.append_nil]
    · rw [List.dropWhile_append_of_pos inLine, List.dropWhile_cons_of_neg (by decide)]
  rw [obsidianBody, dropFrontmatter_markdownOf unmarked, dropHeading, (headed _).1, (headed _).2]
  simp only [List.isEmpty_iff, titled, if_false, lineBreaks, lineBreak, Option.map_some,
    Option.getD_some]
  rw [List.dropWhile_cons_of_pos (by decide)]
  cases body with
  | nil => exact absurd rfl filled
  | cons c body =>
      have first := begins c rfl
      rw [List.cons_append, List.cons_append, List.dropWhile_cons_of_neg (by simpa using first),
        ← List.cons_append, ← List.cons_append]
      exact trim_cutRelated_links ends wikilinks

/-- A draft with a title and a body becomes a document. -/
theorem createDocument_of_nonempty [Normalization] {draft : NoteDraft} {now : Nat}
    (title : trim (chars draft.title) ≠ []) (body : trim (chars draft.body) ≠ []) :
    ∃ document, createDocument draft now = some document := by
  unfold createDocument
  dsimp only
  rw [if_neg (not_or.mpr ⟨title, body⟩)]
  exact ⟨_, rfl⟩

/-- A document: its title and its body are trimmed, and its front matter ends where it should. -/
theorem createDocument_markdown [Normalization] {draft : NoteDraft} {now : Nat}
    {document : NoteDocument} (made : createDocument draft now = some document) :
    trim (chars draft.title) ≠ [] ∧ trim (chars draft.body) ≠ [] ∧
      ∃ front wikilinks, Unmarked front ∧ document.markdown =
        markdownOf front (trim (chars draft.title)) (trim (chars draft.body))
          (relatedSection wikilinks) := by
  simp only [createDocument] at made
  split at made
  · cases made
  · rename_i filled
    rw [not_or] at filled
    obtain rfl := Option.some.inj made
    refine ⟨filled.1, filled.2, _, _, ?_, rfl⟩
    apply unmarked_frontMatter
    · exact plain_quote _
    · exact plain_quote _
    · exact plain_quote _
    · exact plain_sourceRefOf _
    · cases draft.importance with
      | none => decide
      | some value =>
          simp only [importanceOf]
          omega

/-- The body of a document whose title is one line is read back up to a heading of links. -/
theorem obsidianBody_createDocument [Normalization] {draft : NoteDraft} {now : Nat}
    {document : NoteDocument} (made : createDocument draft now = some document)
    (inLine : ∀ c ∈ trim (chars draft.title), isInLine c = true) :
    obsidianBody document.markdown = cutBody (trim (chars draft.body)) := by
  obtain ⟨titled, filled, front, wikilinks, unmarked, markdown⟩ := createDocument_markdown made
  have blank : ∀ c, isTrimmed c = false → c ≠ '\n' ∧ c ≠ '\r' := by
    intro c solid
    constructor
    · rintro rfl
      exact absurd solid (by decide)
    · rintro rfl
      exact absurd solid (by decide)
  rw [markdown]
  apply obsidianBody_markdownOf unmarked inLine titled
  · intro c first
    cases begins : trim (chars draft.body) with
    | nil => exact absurd begins filled
    | cons d rest =>
        rw [begins, List.head?_cons, Option.mem_some] at first
        subst first
        exact (blank _ (head_trim begins)).1
  · exact filled
  · intro c last
    exact blank c (getLast?_trim last)

end BairuiPlatform
