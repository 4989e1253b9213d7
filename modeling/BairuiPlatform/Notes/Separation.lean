/-
Module: BairuiPlatform.Notes.Separation
Purpose: When the entries of the memory files can be told apart again, for all notes that are made
  from drafts.
Trusted boundary: a memory file is its entries with the delimiter between them, and an empty file
  has no entries
Main exports: IsEntryText, readEntries, IsSeparable, ObsidianNote.IsDocument, IsProjectable,
  projection_separable_iff
-/
import BairuiPlatform.Notes.Capacity
import BairuiPlatform.Notes.RoundTrip

namespace BairuiPlatform

/-! ### The delimiter of entries -/

/-- A text of one line without the sign of the delimiter. -/
def IsEntryText (text : List Char) : Prop :=
  ∀ c ∈ text, c ≠ '§' ∧ isInLine c = true

instance (text : List Char) : Decidable (IsEntryText text) :=
  List.decidableBAll (fun c => c ≠ '§' ∧ isInLine c = true) text

/-- The entries of a file as one text. -/
@[grind =] def joinEntries : List String → List Char
  | [] => []
  | [content] => chars content
  | content :: next :: rest => chars content ++ '\n' :: '§' :: '\n' :: joinEntries (next :: rest)

/-- A text, split where the delimiter stands in it. -/
@[grind =] def splitEntries : List Char → List (List Char)
  | '\n' :: '§' :: '\n' :: rest => [] :: splitEntries rest
  | c :: rest =>
      match splitEntries rest with
      | [] => [[c]]
      | first :: others => (c :: first) :: others
  | [] => [[]]

/-- The entries of a file that is read back. -/
def readEntries (file : List Char) : List String :=
  if file = [] then [] else (splitEntries file).map String.ofList

/-- The entries of a file can be told apart again. -/
def IsSeparable (contents : List String) : Prop :=
  (∀ content ∈ contents, IsEntryText (chars content)) ∧
    readEntries (joinEntries contents) = contents

theorem splitEntries_cons {c : Char} (inside : c ≠ '\n') (rest : List Char) :
    splitEntries (c :: rest) =
      match splitEntries rest with
      | [] => [[c]]
      | first :: others => (c :: first) :: others := by
  rw [splitEntries]
  intro _ newline
  exact absurd newline inside

theorem IsEntryText.tail {c : Char} {text : List Char} (clean : IsEntryText (c :: text)) :
    c ≠ '\n' ∧ IsEntryText text := by
  refine ⟨?_, fun d member => clean d (List.mem_cons_of_mem c member)⟩
  rintro rfl
  exact absurd (clean '\n' List.mem_cons_self).2 (by decide)

theorem IsEntryText.append {first second : List Char} (left : IsEntryText first)
    (right : IsEntryText second) : IsEntryText (first ++ second) := fun c member =>
  (List.mem_append.mp member).elim (left c) (right c)

/-- The last entry of a file. -/
theorem splitEntries_text {text : List Char} (clean : IsEntryText text) :
    splitEntries text = [text] := by
  induction text with
  | nil => rfl
  | cons c text ih =>
      obtain ⟨inside, rest⟩ := clean.tail
      rw [splitEntries_cons inside, ih rest]

/-- An entry ends at the delimiter behind it. -/
theorem splitEntries_append {text : List Char} (clean : IsEntryText text) (rest : List Char) :
    splitEntries (text ++ '\n' :: '§' :: '\n' :: rest) = text :: splitEntries rest := by
  induction text with
  | nil => rw [List.nil_append, splitEntries]
  | cons c text ih =>
      obtain ⟨inside, later⟩ := clean.tail
      rw [List.cons_append, splitEntries_cons inside, ih later]

theorem splitEntries_joinEntries {contents : List String} (filled : contents ≠ [])
    (clean : ∀ content ∈ contents, IsEntryText (chars content)) :
    splitEntries (joinEntries contents) = contents.map chars := by
  induction contents with
  | nil => exact absurd rfl filled
  | cons content rest ih =>
      have first := clean content List.mem_cons_self
      cases rest with
      | nil => exact splitEntries_text first
      | cons next rest =>
          rw [joinEntries, splitEntries_append first,
            ih (List.cons_ne_nil _ _) fun other member =>
              clean other (List.mem_cons_of_mem _ member)]
          rfl

/-- Clean entries are read back. -/
theorem isSeparable_of_clean {contents : List String} (visible : "" ∉ contents)
    (clean : ∀ content ∈ contents, IsEntryText (chars content)) : IsSeparable contents := by
  refine ⟨clean, ?_⟩
  cases contents with
  | nil => rfl
  | cons content rest =>
      have written : joinEntries (content :: rest) ≠ [] := by
        have letters : chars content ≠ [] := by
          intro empty
          rw [chars_eq_toList, String.toList_eq_nil_iff] at empty
          exact visible (empty ▸ List.mem_cons_self)
        cases rest with
        | nil => exact letters
        | cons next rest => exact List.append_ne_nil_of_left_ne_nil letters _
      rw [readEntries, if_neg written, splitEntries_joinEntries (List.cons_ne_nil _ _) clean,
        List.map_map]
      refine (List.map_congr_left fun other _ => ?_).trans (List.map_id _)
      rw [Function.comp_apply, chars_eq_toList, String.ofList_toList, id]

/-! ### The text of an entry -/

theorem mem_replaceRuns {inClass : Char → Bool} {replacement : Char} {text : List Char} {c : Char}
    (member : c ∈ replaceRuns inClass replacement text) :
    c = replacement ∨ (c ∈ text ∧ inClass c = false) := by
  induction text using replaceRuns.induct inClass with
  | case1 => cases member
  | case2 d blank =>
      rw [replaceRuns, if_pos blank, List.mem_singleton] at member
      exact .inl member
  | case3 d plain =>
      rw [replaceRuns, if_neg plain, List.mem_singleton] at member
      subst member
      exact .inr ⟨List.mem_cons_self, Bool.eq_false_iff.mpr plain⟩
  | case4 d e rest blank blank' ih =>
      rw [replaceRuns, if_pos blank, if_pos blank'] at member
      exact (ih member).imp_right fun inner => ⟨List.mem_cons_of_mem d inner.1, inner.2⟩
  | case5 d e rest blank plain ih =>
      rw [replaceRuns, if_pos blank, if_neg plain] at member
      rcases List.mem_cons.mp member with same | later
      · exact .inl same
      · exact (ih later).imp_right fun inner => ⟨List.mem_cons_of_mem d inner.1, inner.2⟩
  | case6 d e rest plain ih =>
      rw [replaceRuns, if_neg plain] at member
      rcases List.mem_cons.mp member with rfl | later
      · exact .inr ⟨List.mem_cons_self, Bool.eq_false_iff.mpr plain⟩
      · exact (ih later).imp_right fun inner => ⟨List.mem_cons_of_mem d inner.1, inner.2⟩

theorem mem_cutChars {room : Nat} {text : List Char} {c : Char} (member : c ∈ cutChars room text) :
    c ∈ text ∨ c = '\uFFFD' := by
  induction text generalizing room with
  | nil => cases room <;> cases member
  | cons d text ih =>
      cases room with
      | zero => cases member
      | succ room =>
          rw [cutChars] at member
          split at member
          · rcases List.mem_cons.mp member with rfl | inside
            · exact .inl List.mem_cons_self
            · exact (ih inside).imp_left (List.mem_cons_of_mem d)
          · exact .inr (List.mem_singleton.mp member)

theorem isInLine_of_not_isTrimmed {c : Char} (solid : isTrimmed c = false) : isInLine c = true := by
  unfold isTrimmed at solid
  unfold isInLine
  simp only [List.contains_eq_mem, Bool.or_eq_false_iff, decide_eq_false_iff_not, List.mem_cons,
    List.not_mem_nil, or_false, not_or] at solid
  have newline : c ≠ '\n' := by
    rintro rfl
    exact absurd rfl solid.1.2.1
  have return_ : c ≠ '\r' := by
    rintro rfl
    exact absurd rfl solid.1.2.2.2.2.1
  simp [newline, return_, solid.1]

/-- The body of an entry is cleaned, whatever the note holds. -/
theorem isEntryText_compactBody (note : ObsidianNote) : IsEntryText (compactBody note) := by
  intro c member
  have kept := mem_of_mem_trim member
  rw [List.mem_filter, decide_eq_true_eq] at kept
  refine ⟨kept.2, ?_⟩
  rcases mem_replaceRuns kept.1 with rfl | ⟨-, solid⟩
  · decide
  · exact isInLine_of_not_isTrimmed solid

theorem isEntryText_cutChars {text : List Char} (clean : IsEntryText text) (room : Nat) :
    IsEntryText (cutChars room text) := by
  intro c member
  rcases mem_cutChars member with inside | rfl
  · exact clean c inside
  · decide

/-! ### The length of an entry -/

/-- The number of UTF-16 code units of a text. -/
def unitCount (text : List Char) : Nat :=
  (text.flatMap utf16Units).length

@[simp] theorem unitCount_append (first second : List Char) :
    unitCount (first ++ second) = unitCount first + unitCount second := by
  simp [unitCount]

theorem unitCount_cons (c : Char) (text : List Char) :
    unitCount (c :: text) = (utf16Units c).length + unitCount text := by
  simp [unitCount]

theorem unitCount_chars (text : String) : unitCount (chars text) = utf16Length text := rfl

theorem unitCount_cutChars_le (room : Nat) (text : List Char) :
    unitCount (cutChars room text) ≤ room := by
  induction text generalizing room with
  | nil => cases room <;> exact Nat.zero_le _
  | cons c text ih =>
      cases room with
      | zero => exact Nat.zero_le _
      | succ room =>
          rw [cutChars]
          split
          · rename_i fits
            have rest := ih (room + 1 - (utf16Units c).length)
            rw [unitCount_cons]
            omega
          · exact Nat.le_add_left 1 room

/-- What is cut to one unit begins with something visible if the text did. -/
theorem cutChars_one {c : Char} (solid : isTrimmed c = false) (text : List Char) :
    ∃ d, cutChars 1 (c :: text) = [d] ∧ isTrimmed d = false ∧ unitCount [d] = 1 := by
  have positive : 0 < (utf16Units c).length := by
    unfold utf16Units
    split <;> exact Nat.succ_pos _
  rw [cutChars]
  split
  · rename_i fits
    have one : (utf16Units c).length = 1 := by omega
    refine ⟨c, ?_, solid, by rw [unitCount_cons, one]; rfl⟩
    rw [one, cutChars]
  · exact ⟨'\uFFFD', rfl, by decide, by decide⟩

/-! ### The entries of notes that are made from drafts -/

/-- The runtime wrote the text of a note itself. -/
def ObsidianNote.isNative (note : ObsidianNote) : Bool :=
  (behind nativeMark (chars note.sourceRef)).isSome

/-- A note holds what `createObsidianNote` made of a draft. -/
def ObsidianNote.IsDocument [Normalization] (note : ObsidianNote) : Prop :=
  ∃ draft now document, createDocument draft now = some document ∧
    note.title = document.title ∧ note.markdown = String.ofList document.markdown ∧
    note.memoryKind = document.memoryKind ∧ note.importance = document.importance ∧
    note.hermesTarget = document.hermesTarget ∧ note.sourceRef = document.sourceRef

/-- The title of a note stands in the entry of a file that has room for it. -/
structure ShowsTitle (note : ObsidianNote) (target : MemoryTarget) : Prop where
  aimed : targetFor note = some target
  foreign : note.isNative = false
  fits : utf16Length note.title + (if compactBody note = [] then 1 else 3) ≤ target.limit

theorem ObsidianNote.IsDocument.visible_title [Normalization] {note : ObsidianNote}
    (made : note.IsDocument) : Visible (chars note.title) := by
  obtain ⟨draft, now, document, created, title, -⟩ := made
  simp only [createDocument] at created
  split at created
  · cases created
  · rename_i filled
    rw [not_or] at filled
    obtain rfl := Option.some.inj created
    rw [title, chars_eq_toList, String.toList_ofList]
    exact visible_trim filled.1

section Entry

variable {note : ObsidianNote}

theorem chars_compactEntry_native (native : note.isNative = true) :
    chars (compactEntry note) = cutChars (nativeLimit note.hermesTarget) (compactBody note) := by
  unfold ObsidianNote.isNative at native
  rw [compactEntry, if_pos native, chars_eq_toList, String.toList_ofList]

theorem chars_compactEntry (foreign : note.isNative = false) :
    chars (compactEntry note) = trim (chars note.title ++ ':' :: ' ' ::
      cutChars (max 1 (600 - (unitCount (chars note.title) + 2))) (compactBody note)) := by
  unfold ObsidianNote.isNative at foreign
  have start : ((chars note.title ++ [':', ' ']).flatMap utf16Units).length =
      unitCount (chars note.title) + 2 := unitCount_append _ _
  rw [compactEntry, if_neg (by rw [foreign]; exact Bool.false_ne_true)]
  dsimp only
  rw [start, chars_eq_toList, String.toList_ofList, List.append_assoc]
  rfl

/-- An entry begins with the title of its note, and what follows the title is clean. -/
theorem compactEntry_title (visible : Visible (chars note.title))
    (foreign : note.isNative = false) :
    ∃ tail, chars (compactEntry note) = chars note.title ++ ':' :: tail ∧ IsEntryText tail := by
  rw [chars_compactEntry foreign]
  generalize room : max 1 (600 - (unitCount (chars note.title) + 2)) = count
  have space : IsEntryText [' '] := by decide
  have clean : IsEntryText (' ' :: cutChars count (compactBody note)) :=
    space.append (isEntryText_cutChars (isEntryText_compactBody note) count)
  generalize ' ' :: cutChars count (compactBody note) = text at clean
  have head : ∃ c, (chars note.title ++ ':' :: text).head? = some c ∧ isTrimmed c = false := by
    obtain ⟨c, first, solid⟩ := visible.head
    exact ⟨c, by rw [List.head?_append, first]; rfl, solid⟩
  obtain ⟨-, after, blank, parts⟩ := exists_trim_of_head head
  have shape : (chars note.title ++ [':']) ++ text =
      trim (chars note.title ++ ':' :: text) ++ after := by
    rw [← parts, List.append_assoc]
    rfl
  rcases List.append_eq_append_iff.mp shape with ⟨tail, longer, split⟩ | ⟨cut, shorter, split⟩
  · refine ⟨tail, by rw [longer, List.append_assoc]; rfl, ?_⟩
    exact fun c member => clean c (split ▸ List.mem_append_left after member)
  · -- The colon is no blank, so nothing of the title is cut off.
    rcases List.eq_nil_or_concat cut with rfl | ⟨inner, last, rfl⟩
    · refine ⟨[], ?_, fun c member => absurd member List.not_mem_nil⟩
      rw [List.append_nil] at shorter
      exact shorter.symm
    · rw [List.concat_eq_append, ← List.append_assoc] at shorter
      obtain ⟨-, same⟩ := List.append_inj' shorter rfl
      obtain rfl : ':' = last := List.singleton_inj.mp same
      have blankColon := blank ':' (by rw [split]; simp)
      exact absurd blankColon (by decide)

/-- An entry is clean if and only if it does not show a title or the title is clean. -/
theorem isEntryText_compactEntry (visible : Visible (chars note.title)) :
    IsEntryText (chars (compactEntry note)) ↔
      (note.isNative = false → IsEntryText (chars note.title)) := by
  cases native : note.isNative with
  | true =>
      rw [chars_compactEntry_native native]
      exact iff_of_true (isEntryText_cutChars (isEntryText_compactBody note) _)
        fun foreign => absurd foreign Bool.true_eq_false_eq_False
  | false =>
      obtain ⟨tail, written, clean⟩ := compactEntry_title visible native
      rw [written]
      constructor
      · exact fun all _ c member => all c (List.mem_append_left _ member)
      · intro title
        have colon : IsEntryText [':'] := by decide
        exact (title rfl).append (colon.append clean)

/-- Without a body an entry is the title of its note. -/
theorem unitCount_compactEntry_of_nil (visible : Visible (chars note.title))
    (foreign : note.isNative = false) (empty : compactBody note = []) :
    utf16Length (compactEntry note) = utf16Length note.title + 1 := by
  have titled : Visible (chars note.title ++ [':']) := by
    obtain ⟨c, first, solid⟩ := visible.head
    exact ⟨⟨c, by rw [List.head?_append, first]; rfl, solid⟩, ⟨':', by simp, by decide⟩⟩
  have nothing : cutChars (max 1 (600 - (unitCount (chars note.title) + 2))) [] = [] := by
    cases max 1 (600 - (unitCount (chars note.title) + 2)) <;> rfl
  have text : chars (compactEntry note) = chars note.title ++ [':'] := by
    rw [chars_compactEntry foreign, empty, nothing, ← titled.trim_eq]
    have snoc : chars note.title ++ [':', ' '] = (chars note.title ++ [':']) ++ [' '] := by simp
    rw [snoc, trim_snoc (by decide), titled.trim_eq]
  rw [← unitCount_chars, text, unitCount_append, unitCount_chars]
  rfl

/-- Behind a long title one unit of the body is left. -/
theorem unitCount_compactEntry_of_long (visible : Visible (chars note.title))
    (foreign : note.isNative = false) (filled : compactBody note ≠ [])
    (long : 597 ≤ utf16Length note.title) :
    utf16Length (compactEntry note) = utf16Length note.title + 3 := by
  obtain ⟨c, rest, body⟩ := List.exists_cons_of_ne_nil filled
  obtain ⟨d, one, solid, unit⟩ := cutChars_one (head_trim body) rest
  have room : max 1 (600 - (unitCount (chars note.title) + 2)) = 1 := by
    rw [unitCount_chars]
    omega
  have ended : Visible (chars note.title ++ [':', ' ', d]) := by
    obtain ⟨e, first, solid'⟩ := visible.head
    exact ⟨⟨e, by rw [List.head?_append, first]; rfl, solid'⟩, ⟨d, by simp, solid⟩⟩
  have text : chars (compactEntry note) = chars note.title ++ [':', ' ', d] := by
    rw [chars_compactEntry foreign, room, body, one]
    exact ended.trim_eq
  have marks : unitCount [':', ' ', d] = 2 + unitCount [d] := unitCount_append [':', ' '] [d]
  rw [← unitCount_chars, text, unitCount_append, unitCount_chars, marks, unit]

/-- Behind a short title the body is cut so that the entry has 600 units at most. -/
theorem unitCount_compactEntry_of_short (foreign : note.isNative = false)
    (short : utf16Length note.title < 597) : utf16Length (compactEntry note) ≤ 600 := by
  obtain ⟨before, after, -, -, parts⟩ := exists_trim (chars note.title ++ ':' :: ' ' ::
    cutChars (max 1 (600 - (unitCount (chars note.title) + 2))) (compactBody note))
  have whole := congrArg unitCount parts
  have cut := unitCount_cutChars_le (max 1 (600 - (unitCount (chars note.title) + 2)))
    (compactBody note)
  have colon : (utf16Units ':').length = 1 := by decide
  have space : (utf16Units ' ').length = 1 := by decide
  rw [← chars_compactEntry foreign] at whole
  simp only [unitCount_append, unitCount_cons, colon, space, unitCount_chars] at whole cut
  omega

/-- A text alone in a file has room if and only if its title has. -/
theorem compactEntry_fits_iff (visible : Visible (chars note.title))
    (foreign : note.isNative = false) (target : MemoryTarget) :
    utf16Length (compactEntry note) ≤ target.limit ↔
      utf16Length note.title + (if compactBody note = [] then 1 else 3) ≤ target.limit := by
  have limit : 600 ≤ target.limit := by cases target <;> decide
  by_cases empty : compactBody note = []
  · rw [unitCount_compactEntry_of_nil visible foreign empty, if_pos empty]
  · rw [if_neg empty]
    rcases Nat.lt_or_ge (utf16Length note.title) 597 with short | long
    · have fits := unitCount_compactEntry_of_short foreign short
      exact iff_of_true (fits.trans limit) (by omega)
    · rw [unitCount_compactEntry_of_long visible foreign empty long]

end Entry

/-! ### Projections -/

section Projection

variable {notes : List ObsidianNote}

/-- The other notes of a list can be excluded. -/
theorem exists_ranked_singleton (keyed : (notes.map (·.id)).Nodup) {note : ObsidianNote}
    (member : note ∈ notes) : ∃ excludeNoteIds, rankedNotes notes excludeNoteIds = [note] := by
  refine ⟨(notes.map (·.id)).filter fun id => decide (id ≠ note.id), ?_⟩
  generalize excluded : (notes.map (·.id)).filter (fun id => decide (id ≠ note.id)) = excludeNoteIds
  have wanted : note ∈ rankedNotes notes excludeNoteIds := by
    refine mem_rankedNotes.mpr ⟨member, fun listed => ?_⟩
    rw [← excluded, List.mem_filter] at listed
    simp at listed
  have only : ∀ other ∈ rankedNotes notes excludeNoteIds, other = note := by
    intro other ranked
    obtain ⟨known, included⟩ := mem_rankedNotes.mp ranked
    refine List.inj_on_of_nodup_map keyed known member ?_
    by_contra differs
    refine included ?_
    rw [← excluded, List.mem_filter, decide_eq_true_eq]
    exact ⟨List.mem_map_of_mem known, differs⟩
  have once := (rankedNotes_keyed keyed excludeNoteIds).of_map
  rw [List.eq_replicate_of_mem only] at once wanted ⊢
  have length : (rankedNotes notes excludeNoteIds).length = 1 := by
    have positive := List.length_pos_iff.mpr (List.ne_nil_of_mem wanted)
    rw [List.length_replicate] at positive
    have bounded := List.nodup_replicate.mp once
    omega
  rw [length]
  rfl

variable [Normalization]

/-- An entry of a file is the text of a note that shows its title, unless the runtime wrote it. -/
theorem showsTitle_of_mem_file {excludeNoteIds : List String} {target : MemoryTarget}
    {entry : ProjectionEntry} (made : ∀ note ∈ notes, note.IsDocument)
    (member : entry ∈ ((buildHermesMemoryProjection notes excludeNoteIds).file target).entries) :
    ∃ note ∈ notes, entry.content = compactEntry note ∧ compactEntry note ≠ "" ∧
      (note.isNative = false → ∃ target, ShowsTitle note target) := by
  have placed : entry ∈ (buildHermesMemoryProjection notes excludeNoteIds).entries := by
    unfold HermesMemoryProjection.entries
    cases target with
    | memory => exact List.mem_append_left _ member
    | user => exact List.mem_append_right _ member
  obtain ⟨before, note, after, ranked, admitted, rfl⟩ := Placement.mem_entries_placeAll.mp placed
  obtain ⟨aim, aimed, filled, fits⟩ := Placement.admits_iff.mp admitted
  have known : note ∈ notes := by
    have member : note ∈ rankedNotes notes (distinct excludeNoteIds) := by
      rw [ranked]
      simp
    exact (mem_rankedNotes.mp member).1
  refine ⟨note, known, rfl, filled, fun foreign => ⟨aim, aimed, foreign, ?_⟩⟩
  rw [← compactEntry_fits_iff (made note known).visible_title foreign]
  exact (Nat.le_add_left _ _).trans fits

/-- The entries of every projection of some notes can be told apart if and only if every title that
a file has room for is one line without the sign of the delimiter. -/
theorem projection_separable_iff (keyed : (notes.map (·.id)).Nodup)
    (made : ∀ note ∈ notes, note.IsDocument) :
    (∀ excludeNoteIds target, IsSeparable
      ((buildHermesMemoryProjection notes excludeNoteIds).file target).contents) ↔
    ∀ note ∈ notes, ∀ target, ShowsTitle note target → IsEntryText (chars note.title) := by
  constructor
  · intro separable note member target shows
    obtain ⟨excludeNoteIds, ranked⟩ := exists_ranked_singleton keyed member
    have visible := (made note member).visible_title
    have filled : compactEntry note ≠ "" := by
      intro empty
      obtain ⟨tail, written, -⟩ := compactEntry_title visible shows.foreign
      rw [empty] at written
      exact List.append_ne_nil_of_right_ne_nil _ (List.cons_ne_nil ':' tail) written.symm
    have placed : ⟨note.id, compactEntry note⟩ ∈
        (buildHermesMemoryProjection notes excludeNoteIds).entries := by
      refine Placement.mem_entries_placeAll.mpr
        ⟨[], note, [], by rw [rankedNotes_distinct, ranked]; rfl, ?_, rfl⟩
      refine Placement.admits_iff.mpr ⟨target, shows.aimed, filled, ?_⟩
      have alone : (Placement.placeAll []).next target (compactEntry note) =
          utf16Length (compactEntry note) := by
        cases target <;> exact (Nat.zero_add _)
      rw [alone, compactEntry_fits_iff visible shows.foreign]
      exact shows.fits
    have clean : IsEntryText (chars (compactEntry note)) := by
      rcases List.mem_append.mp placed with inMemory | inUser
      · exact (separable excludeNoteIds .memory).1 _ (List.mem_map_of_mem inMemory)
      · exact (separable excludeNoteIds .user).1 _ (List.mem_map_of_mem inUser)
    exact (isEntryText_compactEntry visible).mp clean shows.foreign
  · intro clean excludeNoteIds target
    apply isSeparable_of_clean
    · intro blank
      obtain ⟨entry, member, empty⟩ := List.mem_map.mp blank
      obtain ⟨note, -, content, filled, -⟩ := showsTitle_of_mem_file made member
      exact filled (content.symm.trans empty)
    · intro content member
      obtain ⟨entry, placed, same⟩ := List.mem_map.mp member
      obtain ⟨note, known, text, -, shows⟩ := showsTitle_of_mem_file made placed
      rw [← same, text, isEntryText_compactEntry (made note known).visible_title]
      intro foreign
      obtain ⟨aim, shown⟩ := shows foreign
      exact clean note known aim shown

end Projection

/-! ### A title that splits its entry -/

attribute [local instance] Normalization.ascii

/-- The note of a document. -/
def NoteDocument.note (document : NoteDocument) (id : String) : ObsidianNote :=
  { id := id, organizationId := "org-1", userId := "user-1", agentId := "agent-1"
    title := document.title, slug := document.slug
    markdown := String.ofList document.markdown, frontmatter := document.frontmatter
    wikilinks := document.wikilinks, memoryKind := document.memoryKind
    importance := document.importance, hermesTarget := document.hermesTarget
    sourceRef := document.sourceRef, revision := 1, hermesSyncStatus := .pending
    hermesSyncedRevision := none, hermesSyncedAt := none, createdAt := 0, updatedAt := 0 }

/-- A draft with marks in its body. -/
def draftOfMarks : NoteDraft :=
  { title := "Plan", body := "First.\n§\nSecond." }

/-- A draft with the delimiter in its title. -/
def draftWithDelimiter : NoteDraft :=
  { title := "Plan\n§\nNext", body := "Ship it." }

theorem NoteDocument.isDocument_note {draft : NoteDraft} {now : Nat} {document : NoteDocument}
    (made : createDocument draft now = some document) (id : String) :
    (document.note id).IsDocument :=
  ⟨draft, now, document, made, rfl, rfl, rfl, rfl, rfl, rfl⟩

theorem projection_separable_iff_marks :
    ∃ document, createDocument draftOfMarks 0 = some document ∧
      ((∀ excludeNoteIds target, IsSeparable
        ((buildHermesMemoryProjection [document.note "note-1"] excludeNoteIds).file
          target).contents) ↔
        ∀ note ∈ [document.note "note-1"], ∀ target, ShowsTitle note target →
          IsEntryText (chars note.title)) := by
  obtain ⟨document, made⟩ : ∃ document, createDocument draftOfMarks 0 = some document :=
    createDocument_of_nonempty (by decide +kernel) (by decide +kernel)
  refine ⟨document, made, projection_separable_iff (List.nodup_singleton _) ?_⟩
  intro note member
  rw [List.mem_singleton.mp member]
  exact NoteDocument.isDocument_note made "note-1"

/-- The body of the note of a document, on one line. -/
theorem NoteDocument.compactBody_note (document : NoteDocument) (id : String) :
    compactBody (document.note id) =
      trim ((replaceRuns isTrimmed ' ' (obsidianBody document.markdown)).filter (· ≠ '§')) := by
  rw [compactBody, NoteDocument.note, chars_eq_toList, String.toList_ofList]

/-- A single note that fits is the only entry of its file. -/
theorem contents_singleton {note : ObsidianNote} (aimed : targetFor note = some .memory)
    (filled : compactEntry note ≠ "") (fits : utf16Length (compactEntry note) ≤ 2200) :
    ((buildHermesMemoryProjection [note]).file .memory).contents = [compactEntry note] := by
  have ranked : rankedNotes [note] (distinct []) = [note] := rfl
  have room : ¬MemoryTarget.memory.limit < Placement.next {} .memory (compactEntry note) := by
    have next : Placement.next {} .memory (compactEntry note) = utf16Length (compactEntry note) := by
      simp [Placement.next, Placement.file]
    rw [next]
    exact Nat.not_lt.mpr fits
  simp [buildHermesMemoryProjection, HermesMemoryProjection.file, ranked, Placement.placeAll,
    Placement.place, aimed, filled, room, Placement.push, Placement.file, ProjectionFile.contents]

/-- A title that holds the delimiter makes two entries of one. -/
theorem title_makes_two_entries :
    (createDocument draftWithDelimiter 0).map (fun document =>
      let contents :=
        ((buildHermesMemoryProjection [document.note "note-1"]).file .memory).contents
      (contents, readEntries (joinEntries contents))) =
    some (["Plan\n§\nNext: Next Ship it."], ["Plan", "Next: Next Ship it."]) := by
  obtain ⟨document, made⟩ : ∃ document, createDocument draftWithDelimiter 0 = some document :=
    createDocument_of_nonempty (by decide +kernel) (by decide +kernel)
  have known : (createDocument draftWithDelimiter 0).map (fun document =>
      (document.title, document.sourceRef, targetFor (document.note "note-1"),
        trim ((replaceRuns isTrimmed ' ' (obsidianBody document.markdown)).filter (· ≠ '§')))) =
      some ("Plan\n§\nNext", "bairui-user", some .memory, "Next Ship it.".toList) := by
    decide +kernel
  rw [made, Option.map_some, Option.some.injEq, Prod.mk.injEq, Prod.mk.injEq, Prod.mk.injEq,
    ← NoteDocument.compactBody_note document "note-1"] at known
  obtain ⟨title, source, aimed, body⟩ := known
  have entry : compactEntry (document.note "note-1") = "Plan\n§\nNext: Next Ship it." := by
    have foreign : (document.note "note-1").isNative = false := by
      have written : (document.note "note-1").sourceRef = "bairui-user" := source
      rw [ObsidianNote.isNative, written]
      decide
    have named : (document.note "note-1").title = "Plan\n§\nNext" := title
    rw [← String.toList_inj, ← chars_eq_toList, chars_compactEntry foreign, body, named]
    decide +kernel
  rw [made, Option.map_some, contents_singleton aimed (by rw [entry]; decide) (by rw [entry]; decide),
    entry]
  decide +kernel

end BairuiPlatform
