/-
Module: BairuiPlatform.Notes.RoundTrip
Purpose: When the body of a document is read back as it was written, for every title and body.
Trusted boundary: none
Main exports: exists_rotation, leftover, HoldsHeading, ReadsBack, obsidianBody_eq_body_iff
-/
import BairuiPlatform.Notes.MarkdownBody
import Mathlib.Data.Bool.AllAny
import Mathlib.Data.List.TakeWhile

namespace BairuiPlatform

/-! ### Rotations -/

/-- A word that goes on, behind another one, as it does before a third one makes the third one a
rotation of the other. -/
theorem exists_rotation {α : Type*} {word tail rest : List α} (filled : word ≠ [])
    (same : word ++ rest = rest ++ tail) :
    ∃ first second, word = first ++ second ∧ tail = second ++ first ∧ second ≠ [] ∧
      first <:+ rest := by
  induction length : rest.length using Nat.strong_induction_on generalizing rest with
  | _ count ih =>
      rcases List.append_eq_append_iff.mp same with ⟨later, again, split⟩ | ⟨later, split, again⟩
      · -- The rest begins with the word: drop it once.
        subst again
        have shorter : later.length < count := by
          rw [← length, List.length_append]
          exact Nat.lt_add_of_pos_left (List.length_pos_iff.mpr filled)
        obtain ⟨first, second, parts, rotated, more, suffix⟩ := ih _ shorter split rfl
        exact ⟨first, second, parts, rotated, more, suffix.trans (List.suffix_append word later)⟩
      · by_cases empty : later = []
        · -- The rest is the word itself.
          subst empty
          rw [List.append_nil] at split
          subst split
          refine ⟨[], word, rfl, ?_, filled, List.nil_suffix⟩
          rw [List.append_nil]
          exact again
        · exact ⟨rest, later, split, again, empty, List.suffix_refl rest⟩

/-! ### Blanks at the ends of a text -/

/-- A text that begins and ends with something visible. -/
structure Visible (text : List Char) : Prop where
  head : ∃ c, text.head? = some c ∧ isTrimmed c = false
  last : ∃ c, text.getLast? = some c ∧ isTrimmed c = false

/-- A text of blanks. -/
def Blank (text : List Char) : Prop :=
  ∀ c ∈ text, isTrimmed c = true

theorem dropWhile_blank_append {blank text : List Char} (blanks : Blank blank) :
    (blank ++ text).dropWhile isTrimmed = text.dropWhile isTrimmed :=
  List.dropWhile_append_of_pos blanks

theorem dropWhile_of_head {text : List Char}
    (head : ∃ c, text.head? = some c ∧ isTrimmed c = false) :
    text.dropWhile isTrimmed = text := by
  obtain ⟨c, first, solid⟩ := head
  cases text with
  | nil => cases first
  | cons d text =>
      obtain rfl : d = c := Option.some.inj first
      rw [List.dropWhile_cons_of_neg (by rw [solid]; exact Bool.false_ne_true)]

/-- Blanks around a visible text are trimmed. -/
theorem trim_around {before text after : List Char} (blank : Blank before) (visible : Visible text)
    (blank' : Blank after) : trim (before ++ text ++ after) = text := by
  obtain ⟨c, last, solid⟩ := visible.last
  have head : ∃ d, (text ++ after).head? = some d ∧ isTrimmed d = false := by
    obtain ⟨d, first, solid'⟩ := visible.head
    exact ⟨d, by rw [List.head?_append, first]; rfl, solid'⟩
  have reversed : ∃ d, text.reverse.head? = some d ∧ isTrimmed d = false :=
    ⟨c, by rw [List.head?_reverse]; exact last, solid⟩
  rw [trim, List.append_assoc, dropWhile_blank_append blank, dropWhile_of_head head,
    List.reverse_append, dropWhile_blank_append fun d member => blank' d (List.mem_reverse.mp member),
    dropWhile_of_head reversed, List.reverse_reverse]

/-- A text in which something is visible is that with blanks around it. -/
theorem exists_trim (text : List Char) :
    ∃ before after, Blank before ∧ Blank after ∧ text = before ++ trim text ++ after := by
  have taken (line : List Char) : Blank (line.takeWhile isTrimmed) :=
    fun c member => List.mem_takeWhile_imp member
  refine ⟨text.takeWhile isTrimmed,
    ((text.dropWhile isTrimmed).reverse.takeWhile isTrimmed).reverse, taken text, ?_, ?_⟩
  · intro c member
    exact taken _ c (List.mem_reverse.mp member)
  · rw [trim, List.append_assoc, ← List.reverse_append, List.takeWhile_append_dropWhile,
      List.reverse_reverse, List.takeWhile_append_dropWhile]

theorem visible_trim {text : List Char} (filled : trim text ≠ []) : Visible (trim text) where
  head := by
    cases begins : trim text with
    | nil => exact absurd begins filled
    | cons c rest => exact ⟨c, rfl, head_trim begins⟩
  last := by
    obtain ⟨c, last⟩ := Option.isSome_iff_exists.mp
      (List.getLast?_isSome.mpr filled)
    exact ⟨c, last, getLast?_trim last⟩

theorem Visible.ne_nil {text : List Char} (visible : Visible text) : text ≠ [] := by
  rintro rfl
  obtain ⟨c, first, -⟩ := visible.head
  cases first

theorem Visible.trim_eq {text : List Char} (visible : Visible text) : trim text = text := by
  have trimmed := trim_around (fun _ member => absurd member List.not_mem_nil) visible
    (fun _ member => absurd member List.not_mem_nil : Blank [])
  rwa [List.nil_append, List.append_nil] at trimmed

/-- A text that begins with something visible has blanks only behind it. -/
theorem exists_trim_of_head {text : List Char}
    (head : ∃ c, text.head? = some c ∧ isTrimmed c = false) :
    Visible (trim text) ∧ ∃ after, Blank after ∧ text = trim text ++ after := by
  obtain ⟨c, first, solid⟩ := head
  obtain ⟨before, after, blank, blank', parts⟩ := exists_trim text
  cases before with
  | nil =>
      rw [List.nil_append] at parts
      refine ⟨visible_trim fun empty => ?_, after, blank', parts⟩
      rw [parts, empty, List.nil_append] at first
      have blankFirst := blank' c (List.mem_of_mem_head? first)
      rw [solid] at blankFirst
      cases blankFirst
  | cons d before =>
      rw [parts] at first
      cases first
      have blankFirst := blank c List.mem_cons_self
      rw [solid] at blankFirst
      cases blankFirst

/-- A text that ends in something visible has blanks only before it. -/
theorem exists_trim_of_last {text : List Char}
    (last : ∃ c, text.getLast? = some c ∧ isTrimmed c = false) :
    Visible (trim text) ∧ ∃ before, Blank before ∧ text = before ++ trim text := by
  obtain ⟨c, ends, solid⟩ := last
  obtain ⟨before, after, blank, blank', parts⟩ := exists_trim text
  by_cases empty : after = []
  · rw [empty, List.append_nil] at parts
    refine ⟨visible_trim fun none => ?_, before, blank, parts⟩
    rw [parts, none, List.append_nil] at ends
    have blankLast := blank c (List.mem_of_getLast? ends)
    rw [solid] at blankLast
    cases blankLast
  · rw [parts, List.getLast?_append_of_ne_nil _ empty] at ends
    have blankLast := blank' c (List.mem_of_getLast? ends)
    rw [solid] at blankLast
    cases blankLast

/-- Visible texts with blanks behind them are the same only if the blanks are. -/
theorem eq_of_append_blank {text other after after' : List Char} (visible : Visible text)
    (visible' : Visible other) (blank : Blank after) (blank' : Blank after')
    (same : text ++ after = other ++ after') : text = other ∧ after = after' := by
  have none : Blank [] := fun _ member => absurd member List.not_mem_nil
  have texts : text = other := by
    have trimmed := trim_around none visible blank
    rw [List.nil_append, same] at trimmed
    rw [← trimmed]
    exact trim_around none visible' blank'
  rw [texts] at same
  exact ⟨texts, List.append_cancel_left same⟩

/-! ### Headings of links -/

theorem behind_eq_some {literal text rest : List Char} :
    behind literal text = some rest ↔ text = literal ++ rest := by
  induction literal generalizing text with
  | nil => simp [behind, eq_comm]
  | cons c literal ih =>
      cases text with
      | nil => simp [behind]
      | cons d text =>
          simp only [behind, List.cons_append, List.cons.injEq]
          split
          · rename_i same
            rw [ih, same]
            simp
          · rename_i other
            simp [Ne.symm other]

/-- A line break, in either spelling. -/
def IsBreak (text : List Char) : Prop :=
  text = ['\n'] ∨ text = ['\r', '\n']

theorem lineBreak_eq_some_iff {text rest : List Char} :
    lineBreak text = some rest ↔ ∃ first, IsBreak first ∧ text = first ++ rest := by
  rw [lineBreak_eq_some]
  constructor
  · rintro (rfl | rfl)
    · exact ⟨['\n'], .inl rfl, rfl⟩
    · exact ⟨['\r', '\n'], .inr rfl, rfl⟩
  · rintro ⟨first, rfl | rfl, rfl⟩
    · exact .inl rfl
    · exact .inr rfl

/-- A run of line breaks: one, and more line feeds. -/
structure IsBreaks (text : List Char) : Prop where
  parts : ∃ first more, IsBreak first ∧ (∀ c ∈ more, c = '\n') ∧ text = first ++ more

theorem IsBreaks.blank {text : List Char} (breaks : IsBreaks text) : Blank text := by
  obtain ⟨first, more, isBreak, feeds, rfl⟩ := breaks.parts
  intro c member
  rcases List.mem_append.mp member with inFirst | inMore
  · rcases isBreak with rfl | rfl
    · rw [List.mem_singleton.mp inFirst]
      decide
    · rcases List.mem_cons.mp inFirst with rfl | inFirst
      · decide
      · rw [List.mem_singleton.mp inFirst]
        decide
  · rw [feeds c inMore]
    decide

theorem IsBreaks.ne_nil {text : List Char} (breaks : IsBreaks text) : text ≠ [] := by
  obtain ⟨first, more, rfl | rfl, -, rfl⟩ := breaks.parts
  · exact List.cons_ne_nil _ _
  · exact List.cons_ne_nil _ _

theorem lineBreaks_eq_some {text rest : List Char} :
    lineBreaks text = some rest ↔
      ∃ breaks, IsBreaks breaks ∧ text = breaks ++ rest ∧ rest.head? ≠ some '\n' := by
  unfold lineBreaks
  rw [Option.map_eq_some_iff]
  constructor
  · rintro ⟨broken, found, rfl⟩
    obtain ⟨first, isBreak, rfl⟩ := lineBreak_eq_some_iff.mp found
    refine ⟨first ++ broken.takeWhile (· = '\n'), ⟨first, _, isBreak, ?_, rfl⟩, ?_, ?_⟩
    · intro c member
      have feed := List.mem_takeWhile_imp member
      exact of_decide_eq_true feed
    · rw [List.append_assoc, List.takeWhile_append_dropWhile]
    · intro first
      have other := List.head?_dropWhile_not (fun c => decide (c = '\n')) broken
      rw [first] at other
      exact absurd rfl (of_decide_eq_false other)
  · rintro ⟨breaks, isBreaks, rfl, begins⟩
    obtain ⟨first, more, isBreak, feeds, rfl⟩ := isBreaks.parts
    refine ⟨more ++ rest, lineBreak_eq_some_iff.mpr ⟨first, isBreak, ?_⟩, ?_⟩
    · rw [List.append_assoc]
    · rw [List.dropWhile_append_of_pos fun c member => decide_eq_true (feeds c member)]
      cases rest with
      | nil => rfl
      | cons c rest =>
          rw [List.dropWhile_cons_of_neg]
          intro feed
          exact begins (congrArg some (of_decide_eq_true feed))

/-- A heading of links begins behind line breaks and is a line of its own. -/
theorem startsRelated_iff {text : List Char} :
    startsRelated text = true ↔
      ∃ breaks line rest, IsBreaks breaks ∧ IsBreak line ∧
        text = breaks ++ (relatedHeading ++ (line ++ rest)) := by
  unfold startsRelated
  rw [Option.isSome_iff_exists]
  constructor
  · rintro ⟨rest, found⟩
    obtain ⟨tail, found, ends⟩ := Option.bind_eq_some_iff.mp found
    obtain ⟨after, found, headed⟩ := Option.bind_eq_some_iff.mp found
    obtain ⟨breaks, isBreaks, rfl, -⟩ := lineBreaks_eq_some.mp found
    obtain ⟨line, isLine, rfl⟩ := lineBreak_eq_some_iff.mp ends
    exact ⟨breaks, line, rest, isBreaks, isLine, by rw [behind_eq_some.mp headed]⟩
  · rintro ⟨breaks, line, rest, isBreaks, isLine, rfl⟩
    have begins : (relatedHeading ++ (line ++ rest)).head? ≠ some '\n' := by
      intro first
      cases first
    rw [lineBreaks_eq_some.mpr ⟨breaks, isBreaks, rfl, begins⟩, Option.bind_some,
      behind_eq_some.mpr rfl, Option.bind_some, lineBreak_eq_some_iff.mpr ⟨line, isLine, rfl⟩]
    exact ⟨rest, rfl⟩

/-- A text is cut at a heading of links, or it is not cut. -/
theorem cutRelated_cases (text : List Char) :
    cutRelated text = text ∨
      ∃ before after, text = before ++ after ∧ startsRelated after = true ∧
        cutRelated text = before := by
  induction text with
  | nil => exact .inl rfl
  | cons c text ih =>
      by_cases starts : startsRelated (c :: text) = true
      · refine .inr ⟨[], c :: text, rfl, starts, ?_⟩
        rw [cutRelated, if_pos starts]
      · rw [cutRelated, if_neg starts]
        rcases ih with whole | ⟨before, after, parts, found, cut⟩
        · left
          rw [whole]
        · right
          refine ⟨c :: before, after, ?_, found, ?_⟩
          · rw [parts, List.cons_append]
          · rw [cut]

/-- A text is cut at its first heading of links at the latest. -/
theorem length_cutRelated_le (before : List Char) {after : List Char}
    (starts : startsRelated after = true) :
    (cutRelated (before ++ after)).length ≤ before.length := by
  induction before with
  | nil =>
      cases after with
      | nil => exact Nat.le_refl 0
      | cons c after => rw [List.nil_append, cutRelated, if_pos starts, List.length_nil]
  | cons c before ih =>
      rw [List.cons_append, cutRelated]
      split
      · exact Nat.zero_le _
      · rw [List.length_cons, List.length_cons]
        exact Nat.succ_le_succ ih

/-! ### What is left of a title -/

/-- The last characters of texts that are the same are the same. -/
theorem getLast?_of_append {first second other : List Char} (filled : second ≠ [])
    (same : other = first ++ second) : other.getLast? = second.getLast? := by
  rw [same, List.getLast?_append_of_ne_nil _ filled]

/-- A body that is cut at a heading of links: what precedes the heading, and what follows it in
the body. -/
theorem body_of_cut {body before breaks line rest : List Char} (visible : Visible body)
    (isLine : IsBreak line)
    (cut : body ++ ['\n'] = before ++ (breaks ++ (relatedHeading ++ (line ++ rest)))) :
    ∃ after, body = before ++ (breaks ++ (relatedHeading ++ after)) ∧
      (after = [] ∨ ∃ line rest, IsBreak line ∧ after = line ++ rest) := by
  obtain ⟨c, last, solid⟩ := visible.last
  have snoc (parts : List Char) (d : Char) (same : body ++ ['\n'] = parts ++ [d]) :
      body = parts := List.append_inj_left' same rfl
  rcases List.eq_nil_or_concat rest with rfl | ⟨kept, d, rfl⟩
  · refine ⟨[], ?_, .inl rfl⟩
    rcases isLine with rfl | rfl
    · apply snoc _ '\n'
      rw [cut]
      simp
    · -- A body does not end in a carriage return.
      have ends : body = before ++ (breaks ++ relatedHeading) ++ ['\r'] := by
        apply snoc _ '\n'
        rw [cut]
        simp
      rw [ends, List.getLast?_append_of_ne_nil _ (List.cons_ne_nil _ _)] at last
      cases last
      exact absurd solid (by decide)
  · refine ⟨line ++ kept, ?_, .inr ⟨line, kept, isLine, rfl⟩⟩
    apply snoc _ d
    rw [cut]
    simp

/-- What precedes the first line break and what follows it. -/
theorem isBreak_prefix {line rest before after : List Char} (isLine : IsBreak line)
    (filled : before ≠ []) (last : before.getLast? = some '\n')
    (same : line ++ rest = before ++ after) : ∃ more, before = line ++ more := by
  rcases isLine with rfl | rfl
  · cases before with
    | nil => exact absurd rfl filled
    | cons c before =>
        obtain ⟨rfl, -⟩ := List.cons.inj same
        exact ⟨before, rfl⟩
  · rcases before with _ | ⟨c, _ | ⟨d, before⟩⟩
    · exact absurd rfl filled
    · obtain ⟨rfl, -⟩ := List.cons.inj same
      cases last
    · obtain ⟨carriage, same⟩ := List.cons.inj same
      obtain ⟨feed, -⟩ := List.cons.inj same
      exact ⟨before, by rw [← carriage, ← feed]; rfl⟩

theorem visible_relatedHeading : Visible relatedHeading :=
  ⟨⟨'#', rfl, by decide⟩, ⟨'联', rfl, by decide⟩⟩

/-- A text that is a heading of links at its beginning, with blanks behind it. -/
theorem startsRelated_of_begins {left after gap kept : List Char} (visible : Visible left)
    (blank : Blank gap) (ends : after = [] ∨ ∃ line rest, IsBreak line ∧ after = line ++ rest)
    (same : left ++ ['\n', '\n'] = relatedHeading ++ after ++ gap) :
    startsRelated ('\n' :: (left ++ ['\n', '\n'] ++ kept ++ ['\n'])) = true := by
  have single : IsBreaks ['\n'] :=
    ⟨['\n'], [], .inl rfl, fun _ member => absurd member List.not_mem_nil, rfl⟩
  rw [startsRelated_iff]
  rcases ends with rfl | ⟨line, rest, isLine, rfl⟩
  · have feeds : Blank ['\n', '\n'] := by
      intro c member
      simp only [List.mem_cons, List.not_mem_nil, or_false, or_self] at member
      rw [member]
      decide
    rw [List.append_nil] at same
    obtain ⟨rfl, -⟩ := eq_of_append_blank visible visible_relatedHeading feeds blank same
    exact ⟨['\n'], ['\n'], '\n' :: (kept ++ ['\n']), single, .inl rfl, by simp⟩
  · refine ⟨['\n'], line, rest ++ gap ++ kept ++ ['\n'], single, isLine, ?_⟩
    rw [same]
    simp

/-- A body with a heading of links is not a text, a blank line and what precedes the heading, if
there is no heading in the text and the body does not begin with one. -/
theorem body_ne_of_headless {left body kept gap breaks after : List Char}
    (visibleLeft : Visible left) (visibleBody : Visible body)
    (blank : Blank gap) (isBreaks : IsBreaks breaks)
    (ends : after = [] ∨ ∃ line rest, IsBreak line ∧ after = line ++ rest)
    (cut : body = kept ++ (gap ++ (breaks ++ (relatedHeading ++ after))))
    (headless : ∀ before found, left ++ ['\n', '\n'] = before ++ found →
      startsRelated found = true → left.length ≤ before.length)
    (begins : startsRelated ('\n' :: (body ++ ['\n'])) = false) :
    body ≠ left ++ ['\n', '\n'] ++ kept := by
  intro joined
  have filled : left ++ ['\n', '\n'] ≠ [] := List.append_ne_nil_of_right_ne_nil _
    (List.cons_ne_nil _ _)
  obtain ⟨first, second, parts, rotated, more, -⟩ :=
    exists_rotation filled (joined.symm.trans cut)
  have feed : second.getLast? = some '\n' := by
    rw [← getLast?_of_append more parts, List.getLast?_append_of_ne_nil _ (List.cons_ne_nil _ _)]
    rfl
  -- What is rotated to the end is not empty: the body does not end in a line break.
  have firstFilled : first ≠ [] := by
    rintro rfl
    obtain ⟨c, last, solid⟩ := visibleBody.last
    rw [List.append_nil] at rotated
    rw [getLast?_of_append more (cut.trans (by rw [rotated])), feed] at last
    cases last
    exact absurd solid (by decide)
  have head : ∃ c, first.head? = some c ∧ isTrimmed c = false := by
    obtain ⟨c, begun, solid⟩ := visibleLeft.head
    refine ⟨c, ?_, solid⟩
    have same := congrArg List.head? parts
    rw [List.head?_append_of_ne_nil _ visibleLeft.ne_nil,
      List.head?_append_of_ne_nil _ firstFilled] at same
    rw [← same, begun]
  have blanks : Blank (gap ++ breaks) := fun c member =>
    (List.mem_append.mp member).elim (blank c) (isBreaks.blank c)
  -- The heading cannot be what is rotated: the body would begin with it.
  have apart : ¬(first = relatedHeading ++ after ∧ second = gap ++ breaks) := by
    rintro ⟨rfl, rfl⟩
    rw [joined, startsRelated_of_begins visibleLeft blanks ends parts] at begins
    cases begins
  rw [← List.append_assoc] at rotated
  rcases List.append_eq_append_iff.mp rotated with ⟨beyond, split, rest⟩ | ⟨inside, split, rest⟩
  · by_cases empty : beyond = []
    · rw [empty, List.nil_append] at rest
      rw [empty, List.append_nil] at split
      exact apart ⟨rest.symm, split⟩
    · have last : beyond.getLast? = some '\n' := by
        rw [← getLast?_of_append empty split, feed]
      rcases List.append_eq_append_iff.mp rest with ⟨behind_, tail, rest⟩ | ⟨cutOff, tail, rest⟩
      · have behindFilled : behind_ ≠ [] := by
          rintro rfl
          rw [tail, List.append_nil] at last
          cases last
        have behindLast : behind_.getLast? = some '\n' := by
          rw [← getLast?_of_append behindFilled tail, last]
        rcases ends with rfl | ⟨line, more', isLine, rfl⟩
        · exact behindFilled (List.append_eq_nil_iff.mp rest.symm).1
        · -- A whole heading stands in the text.
          obtain ⟨tail', rfl⟩ := isBreak_prefix isLine behindFilled behindLast rest
          have found := headless (first ++ gap) (breaks ++ (relatedHeading ++ (line ++ tail')))
            (by rw [parts, split, tail]; simp)
            (startsRelated_iff.mpr ⟨breaks, line, tail', isBreaks, isLine, rfl⟩)
          have lengths := congrArg List.length parts
          rw [split, tail] at lengths
          simp only [List.length_append, List.length_cons, List.length_nil] at lengths found
          have heading : relatedHeading.length = 5 := rfl
          omega
      · have member : '\n' ∈ relatedHeading := by
          rw [tail]
          exact List.mem_append_left _ (List.mem_of_getLast? last)
        exact absurd member (by decide)
  · cases inside with
    | nil =>
        rw [List.append_nil] at split
        exact apart ⟨rest, split.symm⟩
    | cons c inside =>
        obtain ⟨d, begun, solid⟩ := head
        rw [rest] at begun
        cases begun
        have blankFirst := blanks c (by rw [split]; simp)
        rw [solid] at blankFirst
        cases blankFirst

/-- A heading of links stands in a text. -/
def HoldsHeading (text : List Char) : Prop :=
  cutRelated (text ++ ['\n']) ≠ text ++ ['\n']

theorem endsInLine_of_last {text : List Char}
    (last : ∃ c, text.getLast? = some c ∧ isTrimmed c = false) : EndsInLine text := by
  obtain ⟨c, ends, solid⟩ := last
  intro d member
  rw [Option.mem_def, ends] at member
  cases member
  constructor
  · rintro rfl
    exact absurd solid (by decide)
  · rintro rfl
    exact absurd solid (by decide)

/-- A text that does not end in a blank is cut whatever follows it if a heading of links stands
in it, and otherwise it is not cut. -/
theorem cutRelated_text {text : List Char} (ends : EndsInLine text) :
    (HoldsHeading text ∧ ∃ kept, ∀ rest, cutRelated (text ++ '\n' :: rest) = kept) ∨
      (¬HoldsHeading text ∧
        ∀ rest, cutRelated (text ++ '\n' :: rest) = text ++ cutRelated ('\n' :: rest)) := by
  rcases cutRelated_append ends with ⟨kept, cut⟩ | whole
  · refine .inl ⟨fun same => ?_, kept, cut⟩
    -- With another character behind it, the text is cut all the same.
    have other := (cut ['#']).trans ((cut []).symm.trans same)
    rcases cutRelated_cases (text ++ '\n' :: ['#']) with all | ⟨before, after, parts, starts, first⟩
    · rw [all] at other
      have lengths := congrArg List.length other
      simp at lengths
    · rw [other] at first
      rw [← first, List.append_assoc] at parts
      have rest := List.append_cancel_left parts
      obtain ⟨-, rest⟩ := List.cons.inj rest
      rw [show after = ['#'] from rest.symm] at starts
      exact absurd starts (by decide)
  · exact .inr ⟨fun holds => holds (whole []), whole⟩

/-- The part of a body before a heading of links in it begins as the body does. -/
theorem head?_cutRelated {body rest : List Char} (visible : Visible body) :
    ∃ c, (cutRelated (body ++ rest)).head? = some c ∧ isTrimmed c = false := by
  obtain ⟨c, first, solid⟩ := visible.head
  cases body with
  | nil => cases first
  | cons d body =>
      cases first
      refine ⟨c, ?_, solid⟩
      rw [List.cons_append, cutRelated, if_neg]
      · rfl
      · intro starts
        obtain ⟨breaks, line, rest, isBreaks, -, parts⟩ := startsRelated_iff.mp starts
        cases breaks with
        | nil => exact isBreaks.ne_nil rfl
        | cons e breaks =>
            obtain ⟨rfl, -⟩ := List.cons.inj parts
            have blank := isBreaks.blank c List.mem_cons_self
            rw [solid] at blank
            cases blank

/-- What is read back of a body is shorter than the body with anything before it. -/
theorem body_ne_joined {left body : List Char} (visibleLeft : Visible left)
    (visible : Visible body)
    (headless : ∀ before found, left ++ ['\n', '\n'] = before ++ found →
      startsRelated found = true → left.length ≤ before.length)
    (begins : startsRelated ('\n' :: (body ++ ['\n'])) = false) :
    body ≠ left ++ ['\n', '\n'] ++ cutBody body := by
  have solid : isTrimmed '\n' = true := by decide
  rcases cutRelated_cases (body ++ ['\n']) with all | ⟨before, found, parts, starts, cut⟩
  · rw [cutBody, all, trim_snoc solid, visible.trim_eq]
    intro joined
    have lengths := congrArg List.length joined
    simp only [List.length_append, List.length_cons, List.length_nil] at lengths
    omega
  · have head : ∃ c, (cutRelated (body ++ ['\n'])).head? = some c ∧ isTrimmed c = false :=
      head?_cutRelated visible
    rw [cut] at head
    obtain ⟨-, gap, blank, kept⟩ := exists_trim_of_head head
    obtain ⟨breaks, line, rest, isBreaks, isLine, rfl⟩ := startsRelated_iff.mp starts
    obtain ⟨after, whole, ends⟩ := body_of_cut visible isLine parts
    rw [cutBody, cut]
    refine body_ne_of_headless visibleLeft visible blank isBreaks ends ?_ headless begins
    rw [← List.append_assoc, ← kept]
    exact whole

/-- What is read back of a text without a heading, a blank line and a body is not the body. -/
theorem trim_cutRelated_ne {left body : List Char} {wikilinks : List String}
    (last : ∃ c, left.getLast? = some c ∧ isTrimmed c = false) (visible : Visible body)
    (whole : ∀ rest, cutRelated (left ++ '\n' :: rest) = left ++ cutRelated ('\n' :: rest))
    (begins : startsRelated ('\n' :: (body ++ ['\n'])) = false) :
    trim (left ++ '\n' :: '\n' :: cutRelated (body ++ relatedSection wikilinks ++ ['\n'])) ≠
      body := by
  obtain ⟨visibleLeft, before, blank, split⟩ := exists_trim_of_last last
  have head : ∃ c, (cutRelated (body ++ relatedSection wikilinks ++ ['\n'])).head? = some c ∧
      isTrimmed c = false := by
    rw [List.append_assoc]
    exact head?_cutRelated visible
  obtain ⟨visibleKept, after, blank', kept⟩ := exists_trim_of_head head
  rw [trim_cutRelated_links (endsInLine_of_last visible.last)] at visibleKept kept
  have joinedVisible : Visible (trim left ++ ['\n', '\n'] ++ cutBody body) := by
    constructor
    · obtain ⟨c, first, solid⟩ := visibleLeft.head
      refine ⟨c, ?_, solid⟩
      rw [List.append_assoc, List.head?_append_of_ne_nil _ visibleLeft.ne_nil, first]
    · obtain ⟨c, ends, solid⟩ := visibleKept.last
      refine ⟨c, ?_, solid⟩
      rw [List.getLast?_append_of_ne_nil _ visibleKept.ne_nil, ends]
  have trimmed : trim (left ++ '\n' :: '\n' ::
      cutRelated (body ++ relatedSection wikilinks ++ ['\n'])) =
        trim left ++ ['\n', '\n'] ++ cutBody body := by
    have around : left ++ '\n' :: '\n' :: cutRelated (body ++ relatedSection wikilinks ++ ['\n']) =
        before ++ (trim left ++ ['\n', '\n'] ++ cutBody body) ++ after := by
      rw [kept]
      nth_rewrite 1 [split]
      simp
    rw [around, trim_around blank joinedVisible blank']
  rw [trimmed]
  apply Ne.symm
  apply body_ne_joined visibleLeft visible _ begins
  intro ahead found parts starts
  have cut := length_cutRelated_le (before ++ ahead) starts
  rw [List.append_assoc, ← parts, ← List.append_assoc, ← split, whole] at cut
  have lengths := congrArg List.length split
  simp only [List.length_append] at cut lengths
  omega

/-! ### Documents with any title -/

/-- What is left of a title when the first line of it is taken for the heading of a document. A
line that ends otherwise than in a line feed is no heading, and the text begins with it. -/
def leftover (title : List Char) : List Char :=
  match title.dropWhile isInLine with
  | [] => []
  | c :: rest => (lineBreaks (c :: rest)).getD ('#' :: ' ' :: title)

/-- How a text goes on does not decide how it is broken, unless it ends in a break. -/
theorem lineBreaks_append {text : List Char} (ends : EndsInLine text) (filled : text ≠ [])
    (rest : List Char) :
    lineBreaks (text ++ '\n' :: rest) = (lineBreaks text).map (· ++ '\n' :: rest) := by
  have broken {line : List Char} (lineEnds : EndsInLine line) (lineFilled : line ≠ []) :
      some ((line ++ '\n' :: rest).dropWhile (· = '\n')) =
        some (line.dropWhile (· = '\n') ++ '\n' :: rest) := by
    rw [dropWhile_append_newline lineEnds lineFilled]
  rcases text with _ | ⟨c, text⟩
  · exact absurd rfl filled
  · by_cases newline : c = '\n'
    · subst newline
      have more : text ≠ [] := by
        rintro rfl
        exact (ends _ rfl).1 rfl
      exact broken ends.tail more
    · by_cases carriage : c = '\r'
      · subst carriage
        rcases text with _ | ⟨d, text⟩
        · exact absurd rfl (ends _ rfl).2
        · by_cases feed : d = '\n'
          · subst feed
            have more : text ≠ [] := by
              rintro rfl
              exact (ends _ rfl).1 rfl
            exact broken ends.tail.tail more
          · simp [lineBreaks, lineBreak, feed]
      · simp [lineBreaks, lineBreak, newline, carriage]

/-- What is left of a title ends as the title does. -/
theorem last_leftover {title : List Char} (visible : Visible title)
    (left : leftover title ≠ []) :
    ∃ c, (leftover title).getLast? = some c ∧ isTrimmed c = false := by
  obtain ⟨c, last, solid⟩ := visible.last
  refine ⟨c, ?_, solid⟩
  have suffix : leftover title <:+ '#' :: ' ' :: title := by
    unfold leftover
    split
    · exact List.nil_suffix
    · rename_i d rest dropped
      have tail : d :: rest <:+ title := by
        rw [← dropped]
        exact List.dropWhile_suffix _
      cases broken : lineBreaks (d :: rest) with
      | none => exact List.suffix_refl _
      | some after =>
          obtain ⟨breaks, -, parts, -⟩ := lineBreaks_eq_some.mp broken
          have inner : after <:+ d :: rest := by
            rw [parts]
            exact List.suffix_append _ _
          exact (inner.trans tail).trans ((List.suffix_cons _ _).trans (List.suffix_cons _ _))
  obtain ⟨before, whole⟩ := suffix
  have tail : '#' :: ' ' :: title = ['#', ' '] ++ title := rfl
  rw [← getLast?_of_append left whole.symm, getLast?_of_append visible.ne_nil tail]
  exact last

/-- A character that is no blank stands in a line. -/
theorem isInLine_of_solid {c : Char} (solid : isTrimmed c = false) : isInLine c = true := by
  by_contra broken
  simp only [isInLine, Bool.and_eq_true, decide_eq_true_eq, not_and_or, not_not] at broken
  have blank : isTrimmed c = true := by
    rcases broken with ((rfl | rfl) | code) | code
    · decide
    · decide
    · simp [isTrimmed, code]
    · simp [isTrimmed, code]
  rw [solid] at blank
  cases blank

/-- The first line of a text and what follows it. -/
theorem span_line {line text : List Char} (inLine : ∀ c ∈ line, isInLine c = true)
    (stops : ∀ c ∈ text.head?, isInLine c = false) :
    (line ++ text).takeWhile isInLine = line ∧ (line ++ text).dropWhile isInLine = text := by
  rw [List.takeWhile_append_of_pos inLine, List.dropWhile_append_of_pos inLine]
  cases text with
  | nil => exact ⟨List.append_nil line, rfl⟩
  | cons c text =>
      have stop : ¬isInLine c = true := by
        rw [stops c rfl]
        exact Bool.false_ne_true
      rw [List.takeWhile_cons_of_neg stop, List.dropWhile_cons_of_neg stop, List.append_nil]
      exact ⟨rfl, rfl⟩

/-- The first line of a title is taken for the heading of the document. -/
theorem dropHeading_line {line text : List Char} (filled : line ≠ [])
    (inLine : ∀ c ∈ line, isInLine c = true) (stops : ∀ c ∈ text.head?, isInLine c = false) :
    dropHeading ('#' :: ' ' :: (line ++ text)) =
      (lineBreaks text).getD ('#' :: ' ' :: (line ++ text)) := by
  obtain ⟨taken, dropped⟩ := span_line inLine stops
  have more : line.isEmpty = false := by
    rw [Bool.eq_false_iff, ne_eq, List.isEmpty_iff]
    exact filled
  simp only [dropHeading, taken, dropped, more, Bool.false_eq_true, if_false]

/-- The heading of a document, for any title. -/
theorem dropHeading_title {title rest : List Char} (visible : Visible title)
    (begins : rest.head? ≠ some '\n') :
    dropHeading ('#' :: ' ' :: (title ++ '\n' :: '\n' :: rest)) =
      if leftover title = [] then rest else leftover title ++ '\n' :: '\n' :: rest := by
  have parts : title.takeWhile isInLine ++ title.dropWhile isInLine = title :=
    List.takeWhile_append_dropWhile
  have inLine : ∀ c ∈ title.takeWhile isInLine, isInLine c = true := fun c member =>
    List.mem_takeWhile_imp member
  have filled : title.takeWhile isInLine ≠ [] := by
    obtain ⟨c, first, solid⟩ := visible.head
    cases title with
    | nil => cases first
    | cons d title =>
        cases first
        rw [List.takeWhile_cons_of_pos (isInLine_of_solid solid)]
        exact List.cons_ne_nil _ _
  have stopped := List.head?_dropWhile_not isInLine title
  have shape : title ++ '\n' :: '\n' :: rest =
      title.takeWhile isInLine ++ (title.dropWhile isInLine ++ '\n' :: '\n' :: rest) := by
    rw [← List.append_assoc, parts]
  cases dropped : title.dropWhile isInLine with
  | nil =>
      have feeds : IsBreaks ['\n', '\n'] :=
        ⟨['\n'], ['\n'], .inl rfl, fun c member => List.mem_singleton.mp member, rfl⟩
      have broken : lineBreaks ('\n' :: '\n' :: rest) = some rest :=
        lineBreaks_eq_some.mpr ⟨['\n', '\n'], feeds, rfl, begins⟩
      rw [dropped, List.nil_append] at shape
      rw [shape, dropHeading_line filled inLine, broken, leftover, dropped]
      · rfl
      · intro c first
        cases first
        rfl
  | cons c tail =>
      rw [dropped] at shape stopped
      have last : ∃ d, (c :: tail).getLast? = some d ∧ isTrimmed d = false := by
        obtain ⟨d, ends, solid⟩ := visible.last
        refine ⟨d, ?_, solid⟩
        rw [← ends, getLast?_of_append (List.cons_ne_nil c tail) (parts.symm.trans (by rw [dropped]))]
      have stops : ∀ d ∈ (c :: tail ++ '\n' :: '\n' :: rest).head?, isInLine d = false := by
        intro d first
        cases first
        exact stopped
      have left : leftover title = (lineBreaks (c :: tail)).getD ('#' :: ' ' :: title) := by
        rw [leftover, dropped]
      rw [shape, dropHeading_line filled inLine stops,
        lineBreaks_append (endsInLine_of_last last) (List.cons_ne_nil c tail), ← shape]
      cases broken : lineBreaks (c :: tail) with
      | none =>
          rw [broken, Option.getD_none] at left
          rw [left, if_neg (List.cons_ne_nil _ _)]
          rfl
      | some after =>
          have more : after ≠ [] := by
            rintro rfl
            obtain ⟨breaks, isBreaks, same, -⟩ := lineBreaks_eq_some.mp broken
            obtain ⟨d, ends, solid⟩ := last
            rw [same, List.append_nil] at ends
            have blank := isBreaks.blank d (List.mem_of_getLast? ends)
            rw [solid] at blank
            cases blank
          rw [broken, Option.getD_some] at left
          rw [left, if_neg more]
          rfl

/-- What is read back of a document, for any title. -/
theorem obsidianBody_of_leftover {front title body : List Char} {wikilinks : List String}
    (unmarked : Unmarked front) (titled : Visible title) (visible : Visible body) :
    obsidianBody (markdownOf front title body (relatedSection wikilinks)) =
      if leftover title = [] then cutBody body
      else trim (cutRelated
        (leftover title ++ '\n' :: '\n' :: (body ++ relatedSection wikilinks ++ ['\n']))) := by
  have begins : (body ++ relatedSection wikilinks ++ ['\n']).head? ≠ some '\n' := by
    obtain ⟨c, first, solid⟩ := visible.head
    rw [List.append_assoc, List.head?_append_of_ne_nil _ visible.ne_nil, first]
    rintro same
    cases same
    exact absurd solid (by decide)
  rw [obsidianBody, dropFrontmatter_markdownOf unmarked, dropHeading_title titled begins]
  split
  · exact trim_cutRelated_links (endsInLine_of_last visible.last) wikilinks
  · rfl

/-- A title and a body that are read back as they were written. A title of one line is taken for
the heading of the document, and the body holds no heading of links. Of another title a part is
left before the body: a heading of links in that part or at the beginning of the body cuts the
body off, and what is left of the title up to that heading happens to be the body. -/
def ReadsBack (title body : List Char) : Prop :=
  if leftover title = [] then ¬HoldsHeading body
  else cutBody (leftover title) = body ∧
    (HoldsHeading (leftover title) ∨ startsRelated ('\n' :: (body ++ ['\n'])) = true)

/-- A body is read back behind a title of one line if and only if no heading of links stands in
it. -/
theorem cutBody_eq_self {body : List Char} (visible : Visible body) :
    cutBody body = body ↔ ¬HoldsHeading body := by
  have solid : isTrimmed '\n' = true := by decide
  unfold HoldsHeading
  rw [not_not]
  constructor
  · intro same
    rcases cutRelated_cases (body ++ ['\n']) with all | ⟨before, found, parts, starts, cut⟩
    · exact all
    · -- What precedes a heading is shorter than the body.
      have head : ∃ c, (cutRelated (body ++ ['\n'])).head? = some c ∧ isTrimmed c = false :=
        head?_cutRelated visible
      obtain ⟨-, gap, -, kept⟩ := exists_trim_of_head head
      obtain ⟨breaks, line, rest, isBreaks, isLine, rfl⟩ := startsRelated_iff.mp starts
      have shape : cutRelated (body ++ ['\n']) = body ++ gap := by
        rw [kept]
        exact congrArg (· ++ gap) same
      rw [cut] at shape
      have lengths := congrArg List.length parts
      rw [shape] at lengths
      simp only [List.length_append, List.length_cons, List.length_nil] at lengths
      have heading : relatedHeading.length = 5 := rfl
      omega
  · intro all
    rw [cutBody, all, trim_snoc solid, visible.trim_eq]

/-- A heading of links at the beginning of a body starts in the blank line before it. -/
theorem startsRelated_body {body : List Char} (visible : Visible body)
    (wikilinks : List String) :
    startsRelated ('\n' :: '\n' :: (body ++ relatedSection wikilinks ++ ['\n'])) =
      startsRelated ('\n' :: (body ++ ['\n'])) := by
  have ends : EndsInLine ('\n' :: body) := by
    intro c last
    rw [Option.mem_def, List.getLast?_cons_of_ne_nil visible.ne_nil] at last
    exact endsInLine_of_last visible.last c last
  obtain ⟨tail, opened⟩ : ∃ tail, relatedSection wikilinks ++ ['\n'] = '\n' :: tail := by
    cases wikilinks with
    | nil => exact ⟨[], rfl⟩
    | cons link wikilinks => exact ⟨_, rfl⟩
  have once : startsRelated ('\n' :: '\n' :: (body ++ relatedSection wikilinks ++ ['\n'])) =
      startsRelated ('\n' :: body ++ '\n' :: tail) := by
    rw [List.append_assoc, opened]
    rfl
  rw [once]
  exact startsRelated_append ends (List.cons_ne_nil _ _) tail []

/-- The body of a document is read back as it was written, without the blanks around it, if and
only if its title and its body allow it. -/
theorem obsidianBody_eq_body_iff [Normalization] {draft : NoteDraft} {now : Nat}
    {document : NoteDocument} (made : createDocument draft now = some document) :
    obsidianBody document.markdown = trim (chars draft.body) ↔
      ReadsBack (trim (chars draft.title)) (trim (chars draft.body)) := by
  obtain ⟨titled, filled, front, wikilinks, unmarked, markdown⟩ := createDocument_markdown made
  have visible := visible_trim filled
  rw [markdown, obsidianBody_of_leftover unmarked (visible_trim titled) visible, ReadsBack]
  by_cases left : leftover (trim (chars draft.title)) = []
  · rw [if_pos left, if_pos left]
    exact cutBody_eq_self visible
  · rw [if_neg left, if_neg left]
    have last := last_leftover (visible_trim titled) left
    rcases cutRelated_text (endsInLine_of_last last) with ⟨holds, kept, cut⟩ | ⟨free, whole⟩
    · rw [cut, cutBody, cut]
      exact ⟨fun same => ⟨same, .inl holds⟩, And.left⟩
    · have solid : isTrimmed '\n' = true := by decide
      have uncut : cutBody (leftover (trim (chars draft.title))) =
          trim (leftover (trim (chars draft.title))) := by
        rw [cutBody, whole, show cutRelated ['\n'] = ['\n'] from rfl, trim_snoc solid]
      rw [whole, uncut, or_iff_right free]
      cases begins : startsRelated ('\n' :: (trim (chars draft.body) ++ ['\n'])) with
      | true =>
          rw [cutRelated, startsRelated_body visible, begins, if_pos rfl, List.append_nil]
          exact (and_iff_left rfl).symm
      | false =>
          have next : startsRelated ('\n' ::
              (trim (chars draft.body) ++ relatedSection wikilinks ++ ['\n'])) = false := by
            rw [← begins, ← startsRelated_body visible wikilinks]
            rfl
          rw [cutRelated, startsRelated_body visible, begins, if_neg Bool.false_ne_true,
            cutRelated, next, if_neg Bool.false_ne_true]
          exact iff_of_false (trim_cutRelated_ne last visible whole begins)
            fun both => Bool.false_ne_true both.2

/-! ### A body that is cut -/

attribute [local instance] Normalization.ascii

/-- A note whose body has a section that is called as the list of links is. -/
def draftWithSection : NoteDraft :=
  { title := "Plan", body := "Ship it.\n\n## 关联\n\nSee the appendix." }

/-- A note with a body that looks like a document. -/
def draftWithMarks : NoteDraft :=
  { title := "# Plan", body := "---\ntitle: x\n---\n\n# Plan\n\nSee [[Appendix]]." }

theorem obsidianBody_eq_body_iff_marks :
    ∃ document, createDocument draftWithMarks 0 = some document ∧
      (obsidianBody document.markdown = trim (chars draftWithMarks.body) ↔
        ReadsBack (trim (chars draftWithMarks.title)) (trim (chars draftWithMarks.body))) := by
  obtain ⟨document, made⟩ : ∃ document, createDocument draftWithMarks 0 = some document :=
    createDocument_of_nonempty (by decide +kernel) (by decide +kernel)
  exact ⟨document, made, obsidianBody_eq_body_iff made⟩

/-- A section of a body that is called as the list of links is not read back. -/
theorem section_not_read_back :
    ∃ document, createDocument draftWithSection 0 = some document ∧
      obsidianBody document.markdown ≠ trim (chars draftWithSection.body) := by
  obtain ⟨document, made⟩ : ∃ document, createDocument draftWithSection 0 = some document :=
    createDocument_of_nonempty (by decide +kernel) (by decide +kernel)
  refine ⟨document, made, ?_⟩
  rw [obsidianBody_createDocument made (List.all_iff_forall_prop.mp (by decide +kernel))]
  decide +kernel

end BairuiPlatform
