/-
Module: BairuiPlatform.Notes.Markdown
Purpose: How a note is written as Markdown, and how its body is read back.
Trusted boundary: the normal form NFKC of a text is a parameter
Main exports: Normalization, obsidianSlug, obsidianBody, NoteDraft, NoteDocument,
  createDocument
-/
import BairuiPlatform.Clock
import BairuiPlatform.Notes.Rows

namespace BairuiPlatform

/-! ### Pieces of text -/

/-- `normalize("NFKC")`. -/
class Normalization where
  nfkc : List Char → List Char

/-- A normal form that leaves every text as it is, as NFKC leaves those of ASCII. -/
@[reducible] def Normalization.ascii : Normalization where
  nfkc := id

/-- The rest of a text behind a literal. -/
@[grind =] def behind : List Char → List Char → Option (List Char)
  | [], text => some text
  | _ :: _, [] => none
  | c :: literal, d :: text => if c = d then behind literal text else none

/-- `\r?\n`. -/
@[grind =] def lineBreak : List Char → Option (List Char)
  | '\n' :: rest => some rest
  | '\r' :: '\n' :: rest => some rest
  | _ => none

/-- `\r?\n+`. -/
def lineBreaks (text : List Char) : Option (List Char) :=
  (lineBreak text).map fun rest => rest.dropWhile (· = '\n')

/-- A run of characters of a class is replaced by one character. -/
@[grind =] def replaceRuns (inClass : Char → Bool) (replacement : Char) : List Char → List Char
  | [] => []
  | [c] => if inClass c then [replacement] else [c]
  | c :: d :: rest =>
      if inClass c then
        if inClass d then replaceRuns inClass replacement (d :: rest)
        else replacement :: replaceRuns inClass replacement (d :: rest)
      else c :: replaceRuns inClass replacement (d :: rest)

/-- `[...new Set(texts)]`. -/
def distinct : List String → List String
  | [] => []
  | text :: texts => text :: (distinct texts).filter fun other => decide (other ≠ text)

/-- `texts.map((item) => String(item).trim()).filter(Boolean)`. -/
def trimmedTexts (texts : List String) : List String :=
  (texts.map fun text => String.ofList (trim (chars text))).filter fun text => decide (text ≠ "")

/-! ### Slugs -/

/-- The characters that a slug replaces. -/
def isReserved (c : Char) : Bool :=
  ['\\', '/', ':', '*', '?', '"', '<', '>', '|', '#', '[', ']', '^'].contains c

/-- `.replace(/^-|-$/g, "")`. -/
def dropOuterHyphens (text : List Char) : List Char :=
  let inner := match text with
    | '-' :: rest => rest
    | other => other
  if inner.getLast? = some '-' then inner.dropLast else inner

/-- `obsidianSlug`. -/
def obsidianSlug [Normalization] (title : String) : String :=
  let text := trim (Normalization.nfkc (chars title))
  let hyphened := replaceRuns (· = '-') '-'
    (replaceRuns isTrimmed '-' (replaceRuns isReserved '-' text))
  let slug := sliceChars 120 (dropOuterHyphens hyphened)
  if slug = [] then "note" else String.ofList slug

/-! ### The body of a note -/

/-- `\r?\n---\r?\n+`. -/
def closing (text : List Char) : Option (List Char) :=
  ((lineBreak text).bind (behind ['-', '-', '-'])).bind lineBreaks

/-- What lies behind the first closing line. -/
@[grind =] def findClosing : List Char → Option (List Char)
  | [] => none
  | c :: rest =>
      match closing (c :: rest) with
      | some found => some found
      | none => findClosing rest

/-- `.replace(/^---\r?\n[\s\S]*?\r?\n---\r?\n+/u, "")`. -/
def dropFrontmatter (text : List Char) : List Char :=
  (((behind ['-', '-', '-'] text).bind lineBreak).bind findClosing).getD text

/-- What `.` matches in a regular expression. -/
def isInLine (c : Char) : Bool :=
  c ≠ '\n' && c ≠ '\r' && c.toNat ≠ 0x2028 && c.toNat ≠ 0x2029

/-- `.replace(/^# .+\r?\n+/u, "")`. -/
def dropHeading (text : List Char) : List Char :=
  match text with
  | '#' :: ' ' :: line =>
      if (line.takeWhile isInLine).isEmpty then text
      else (lineBreaks (line.dropWhile isInLine)).getD text
  | _ => text

/-- The heading of the section that lists the links of a note. -/
def relatedHeading : List Char :=
  ['#', '#', ' ', '关', '联']

/-- `\r?\n+## 关联\r?\n`. -/
@[grind =] def startsRelated (text : List Char) : Bool :=
  (((lineBreaks text).bind (behind relatedHeading)).bind lineBreak).isSome

/-- `.replace(/\r?\n+## 关联\r?\n[\s\S]*$/u, "")`. -/
@[grind =] def cutRelated : List Char → List Char
  | [] => []
  | c :: rest => if startsRelated (c :: rest) then [] else c :: cutRelated rest

/-- `obsidianBody`. -/
def obsidianBody (markdown : List Char) : List Char :=
  trim (cutRelated (dropHeading (dropFrontmatter markdown)))

/-! ### Documents -/

/-- The name of a kind. -/
def MemoryKind.name : MemoryKind → String
  | knowledge => "knowledge"
  | fact => "fact"
  | preference => "preference"
  | constraint => "constraint"
  | procedure => "procedure"
  | person => "person"
  | project => "project"
  | event => "event"

/-- The name of a target. -/
def HermesTarget.name : HermesTarget → String
  | auto => "auto"
  | memory => "memory"
  | user => "user"
  | none => "none"

/-- The argument of `createObsidianNote` of packages/memory. -/
structure NoteDraft where
  title : String
  body : String
  tags : List String := []
  wikilinks : List String := []
  memoryKind : Option MemoryKind := none
  importance : Option Int := none
  hermesTarget : Option HermesTarget := none
  sourceRef : Option String := none
  createdAt : Option Nat := none

/-- What `createObsidianNote` of packages/memory answers. -/
structure NoteDocument where
  title : String
  slug : String
  markdown : List Char
  frontmatter : Json
  wikilinks : List String
  memoryKind : MemoryKind
  importance : Nat
  hermesTarget : HermesTarget
  sourceRef : String

/-- `importanceOf`. -/
def importanceOf : Option Int → Nat
  | some value => max 1 (min 5 value.toNat)
  | none => 3

/-- The characters of a source reference after the first one. -/
def isSourceChar (c : Char) : Bool :=
  c.isAlphanum || ['.', '_', ':', '/', '-'].contains c

/-- `sourceRef`: a reference of at most 256 letters, digits and marks, of which the first is a
letter or a digit, or the reference of the user. -/
@[grind =] def sourceRefOf (value : Option String) : String :=
  let normalized := trim (chars (value.getD "bairui-user"))
  match normalized with
  | [] => "bairui-user"
  | first :: rest =>
      if first.isAlphanum && rest.length ≤ 255 && rest.all isSourceChar then
        String.ofList normalized
      else "bairui-user"

/-- A wiki link at the start of a text: the page that it names, and the text behind it. -/
def wikilink? (text : List Char) : Option (List Char × List Char) := do
  let inner ← behind ['[', '['] text
  let page := inner.takeWhile fun c => c ≠ ']' && c ≠ '|' && c ≠ '#'
  let rest := inner.dropWhile fun c => c ≠ ']' && c ≠ '|' && c ≠ '#'
  let tail := match rest with
    | '|' :: _ | '#' :: _ => rest.dropWhile fun c => c ≠ ']'
    | _ => rest
  let after ← behind [']', ']'] tail
  if page = [] then none else some (page, after)

/-- The pages of the wiki links of a text, in their order. The number bounds the characters
left. -/
def wikilinksIn : Nat → List Char → List String
  | 0, _ => []
  | _, [] => []
  | room + 1, c :: rest =>
      match wikilink? (c :: rest) with
      | some (page, after) => String.ofList (trim page) :: wikilinksIn room after
      | none => wikilinksIn room rest

/-- A property line of the front matter. -/
@[grind =] def frontLine (name : String) (value : List Char) : List Char :=
  '\n' :: chars name ++ [':', ' '] ++ value

/-- The tags in the front matter. -/
def yamlTags (tags : List String) : List Char :=
  if tags = [] then "\ntags: []".toList
  else "\ntags:".toList ++ tags.flatMap fun tag => "\n  - ".toList ++ Json.quote tag

/-- The section that lists links. -/
def relatedSection (wikilinks : List String) : List Char :=
  if wikilinks = [] then []
  else
    ['\n', '\n'] ++ relatedHeading ++ ['\n'] ++ wikilinks.flatMap fun link =>
      ['\n', '-', ' ', '[', '['] ++ (chars link).filter (fun c => c ≠ '[' && c ≠ ']') ++ [']', ']']

/-- The front matter between its two marks. -/
def frontMatter (title created updated source : List Char) (memoryKind : MemoryKind)
    (importance : Nat) (hermesTarget : HermesTarget) (tags : List String) : List Char :=
  "title: ".toList ++ title ++ frontLine "created" created ++ frontLine "updated" updated ++
    frontLine "source" "bairui-agent".toList ++ frontLine "memory_kind" memoryKind.name.toList ++
    frontLine "importance" (toString importance).toList ++
    frontLine "hermes_target" hermesTarget.name.toList ++ frontLine "source_ref" source ++
    yamlTags tags

/-- The Markdown of a note. -/
def markdownOf (front title body links : List Char) : List Char :=
  "---\n".toList ++ front ++ "\n---\n\n# ".toList ++ title ++ ['\n', '\n'] ++ body ++ links ++
    ['\n']

/-- `createObsidianNote` of packages/memory. It throws without a title or a body. -/
def createDocument [Normalization] (draft : NoteDraft) (now : Nat) : Option NoteDocument :=
  let title := trim (chars draft.title)
  let body := trim (chars draft.body)
  if title = [] ∨ body = [] then none
  else
    let tags := (distinct (trimmedTexts draft.tags)).take 20
    let wikilinks :=
      (distinct (trimmedTexts (draft.wikilinks ++ wikilinksIn body.length body))).take 50
    let memoryKind := draft.memoryKind.getD .knowledge
    let importance := importanceOf draft.importance
    let hermesTarget := draft.hermesTarget.getD .auto
    let createdAt := isoString (draft.createdAt.getD now)
    let updatedAt := isoString now
    let source := sourceRefOf draft.sourceRef
    let titleText := String.ofList title
    some
      { title := titleText, slug := obsidianSlug titleText
        markdown := markdownOf
          (frontMatter (Json.quote titleText) (Json.quote createdAt) (Json.quote updatedAt)
            source.toList memoryKind importance hermesTarget tags)
          title body (relatedSection wikilinks)
        frontmatter := .obj [("title", .str titleText), ("created", .str createdAt),
          ("updated", .str updatedAt), ("tags", .ofTexts tags),
          ("source", .str "bairui-agent"), ("memory_kind", .str memoryKind.name),
          ("importance", .num importance), ("hermes_target", .str hermesTarget.name),
          ("source_ref", .str source)]
        wikilinks := wikilinks, memoryKind := memoryKind, importance := importance
        hermesTarget := hermesTarget, sourceRef := source }

end BairuiPlatform
