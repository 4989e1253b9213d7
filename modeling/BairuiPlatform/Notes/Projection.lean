/-
Module: BairuiPlatform.Notes.Projection
Purpose: The projection of the notes of an Agent into the two memory files of its runtime.
Trusted boundary: none
Main exports: MemoryTarget, targetFor, cutChars, compactEntry, HermesMemoryProjection,
  buildHermesMemoryProjection, mem_includedNoteIds, mem_projection_entries
-/
import BairuiPlatform.Foundations.Sha256
import BairuiPlatform.Notes.Markdown

namespace BairuiPlatform

open Foundations

/-! ### Entries -/

/-- The two memory files of a runtime. -/
inductive MemoryTarget where
  | memory
  | user
deriving Repr, DecidableEq

/-- The name of a file. -/
def MemoryTarget.name : MemoryTarget → String
  | memory => "memory"
  | user => "user"

/-- `HERMES_MEMORY_LIMITS`. -/
def MemoryTarget.limit : MemoryTarget → Nat
  | memory => 2200
  | user => 1375

/-- The files in the order in which they are read. -/
def memoryTargets : List MemoryTarget :=
  [.memory, .user]

/-- `targetFor`. -/
def targetFor (note : ObsidianNote) : Option MemoryTarget :=
  match note.hermesTarget with
  | .none => none
  | .memory => some .memory
  | .user => some .user
  | .auto =>
      if [MemoryKind.preference, .person].contains note.memoryKind then some .user
      else some .memory

/-- `HERMES_MEMORY_LIMITS[hermesTarget] ?? 2200`. -/
def nativeLimit : HermesTarget → Nat
  | .user => MemoryTarget.user.limit
  | .memory | .auto | .none => MemoryTarget.memory.limit

/-- The mark of an entry that the runtime wrote itself. -/
def nativeMark : List Char :=
  "hermes-native:".toList

/-- The body of a note on one line. -/
def compactBody (note : ObsidianNote) : List Char :=
  trim ((replaceRuns isTrimmed ' ' (obsidianBody (chars note.markdown))).filter (· ≠ '§'))

/-- `text.slice(0, room)` of a text that is measured afterwards. A cut in the middle of a surrogate
pair leaves its first half, which stands as U+FFFD here, as it does in UTF-8. -/
def cutChars : Nat → List Char → List Char
  | 0, _ => []
  | _ + 1, [] => []
  | room + 1, c :: cs =>
      if (utf16Units c).length ≤ room + 1 then
        c :: cutChars (room + 1 - (utf16Units c).length) cs
      else ['\uFFFD']

/-- `compactEntry`. -/
def compactEntry (note : ObsidianNote) : String :=
  let body := compactBody note
  if (behind nativeMark (chars note.sourceRef)).isSome then
    String.ofList (cutChars (nativeLimit note.hermesTarget) body)
  else
    let start := chars note.title ++ [':', ' ']
    let room := max 1 (600 - (start.flatMap utf16Units).length)
    String.ofList (trim (start ++ cutChars room body))

/-! ### The order of notes -/

/-- `Number(importance) || 3`. -/
def ObsidianNote.rank (note : ObsidianNote) : Nat :=
  if note.importance = 0 then 3 else note.importance

/-- The order of `buildHermesMemoryProjection`. -/
def ranksBefore (left right : ObsidianNote) : Prop :=
  right.rank < left.rank ∨
    (right.rank = left.rank ∧ dateParse right.updatedAt ≤ dateParse left.updatedAt)

instance : DecidableRel ranksBefore := fun left right =>
  inferInstanceAs (Decidable (right.rank < left.rank ∨
    (right.rank = left.rank ∧ dateParse right.updatedAt ≤ dateParse left.updatedAt)))

/-- The notes that may be projected, in their order. -/
def rankedNotes (notes : List ObsidianNote) (excludeNoteIds : List String) :
    List ObsidianNote :=
  (notes.filter fun note => !excludeNoteIds.contains note.id).insertionSort ranksBefore

/-! ### The loop -/

/-- An entry of a projection. -/
structure ProjectionEntry where
  noteId : String
  content : String
deriving Repr, DecidableEq

/-- The entries of a file, with their number of characters. -/
structure ProjectionFile where
  entries : List ProjectionEntry := []
  charCount : Nat := 0

/-- What the loop has placed so far, and the notes that it left out. -/
structure Placement where
  memory : ProjectionFile := {}
  user : ProjectionFile := {}
  capacityExcluded : List String := []

namespace Placement

/-- The file of a target. -/
def file (placement : Placement) : MemoryTarget → ProjectionFile
  | .memory => placement.memory
  | .user => placement.user

/-- The number of characters of a file with one entry more. -/
def next (placement : Placement) (target : MemoryTarget) (content : String) : Nat :=
  (placement.file target).charCount + (if (placement.file target).entries = [] then 0 else 3) +
    utf16Length content

/-- An entry is added to a file. -/
def push (placement : Placement) (target : MemoryTarget) (entry : ProjectionEntry) :
    Placement :=
  let file : ProjectionFile :=
    { entries := (placement.file target).entries ++ [entry]
      charCount := placement.next target entry.content }
  match target with
  | .memory => { placement with memory := file }
  | .user => { placement with user := file }

/-- A note is left out. -/
def exclude (placement : Placement) (noteId : String) : Placement :=
  { placement with capacityExcluded := placement.capacityExcluded ++ [noteId] }

/-- There is room for a note in its file. -/
def admits (placement : Placement) (note : ObsidianNote) : Bool :=
  match targetFor note with
  | none => false
  | some target =>
      compactEntry note ≠ "" && placement.next target (compactEntry note) ≤ target.limit

/-- One iteration of the loop. -/
def place (placement : Placement) (note : ObsidianNote) : Placement :=
  match targetFor note with
  | none => placement.exclude note.id
  | some target =>
      let content := compactEntry note
      if content = "" then placement.exclude note.id
      else if target.limit < placement.next target content then placement.exclude note.id
      else placement.push target { noteId := note.id, content := content }

/-- The loop over the notes in their order. -/
def placeAll (notes : List ObsidianNote) : Placement :=
  notes.foldl place {}

/-- The entries of both files. -/
def entries (placement : Placement) : List ProjectionEntry :=
  placement.memory.entries ++ placement.user.entries

end Placement

/-- What `buildHermesMemoryProjection` answers. -/
structure HermesMemoryProjection where
  schemaVersion : String := "1.0"
  projectionId : String
  memory : ProjectionFile
  user : ProjectionFile
  includedNoteIds : List String
  excludedNoteIds : List String

/-- The entries of a file as JSON. -/
def ProjectionFile.json (file : ProjectionFile) : Json :=
  .arr (file.entries.map fun entry =>
    .obj [("note_id", .str entry.noteId), ("content", .str entry.content)])

/-- The identifier of a projection: a digest of its entries. -/
def projectionIdOf (memory user : ProjectionFile) : String :=
  let stable := Json.stringify (.obj [("memory", memory.json), ("user", user.json)])
  "memory-" ++ slice 24 (sha256 (chars stable))

/-- `buildHermesMemoryProjection`. -/
def buildHermesMemoryProjection (notes : List ObsidianNote)
    (excludeNoteIds : List String := []) : HermesMemoryProjection :=
  let excluded := distinct excludeNoteIds
  let placement := Placement.placeAll (rankedNotes notes excluded)
  { projectionId := projectionIdOf placement.memory placement.user
    memory := placement.memory, user := placement.user
    includedNoteIds := placement.entries.map (·.noteId)
    excludedNoteIds := excluded ++ placement.capacityExcluded }

/-- The entries of both files of a projection. -/
def HermesMemoryProjection.entries (projection : HermesMemoryProjection) :
    List ProjectionEntry :=
  projection.memory.entries ++ projection.user.entries

/-! ### What is placed -/

namespace Placement

variable {placement : Placement} {note : ObsidianNote} {notes : List ObsidianNote}
  {entry : ProjectionEntry}

@[simp] theorem entries_exclude (noteId : String) :
    (placement.exclude noteId).entries = placement.entries := rfl

theorem mem_entries_push {target : MemoryTarget} {added : ProjectionEntry} :
    entry ∈ (placement.push target added).entries ↔
      entry ∈ placement.entries ∨ entry = added := by
  cases target with
  | memory =>
      simp only [entries, push, file, List.mem_append, List.mem_singleton]
      tauto
  | user =>
      simp only [entries, push, file, List.mem_append, List.mem_singleton]
      tauto

/-- An iteration adds the entry of a note for which there is room, and no other. -/
theorem mem_entries_place :
    entry ∈ (placement.place note).entries ↔
      entry ∈ placement.entries ∨
        (placement.admits note = true ∧ entry = ⟨note.id, compactEntry note⟩) := by
  simp only [place, admits]
  split
  · simp
  · split
    · rename_i blank
      simp [blank]
    · rename_i target _ filled
      split
      · rename_i full
        have crowded : ¬placement.next target (compactEntry note) ≤ target.limit := by omega
        simp [crowded]
      · rename_i fits
        have room : placement.next target (compactEntry note) ≤ target.limit := by omega
        rw [mem_entries_push]
        simp [filled, room]

/-- The entries of the loop are those of the notes that found room behind the notes before
them. -/
theorem mem_entries_placeAll :
    entry ∈ (placeAll notes).entries ↔
      ∃ before note after, notes = before ++ note :: after ∧
        (placeAll before).admits note = true ∧ entry = ⟨note.id, compactEntry note⟩ := by
  induction notes using List.reverseRecOn with
  | nil => simp [placeAll, entries]
  | append_singleton notes last ih =>
      have unfolded : placeAll (notes ++ [last]) = (placeAll notes).place last := by
        simp only [placeAll, List.foldl_append, List.foldl_cons, List.foldl_nil]
      rw [unfolded, mem_entries_place, ih]
      constructor
      · rintro (⟨before, note, after, split, admitted, made⟩ | ⟨admitted, made⟩)
        · exact ⟨before, note, after ++ [last], by simp [split], admitted, made⟩
        · exact ⟨notes, last, [], rfl, admitted, made⟩
      · intro ⟨before, note, after, split, admitted, made⟩
        rcases List.eq_nil_or_concat after with rfl | ⟨inner, final, rfl⟩
        · obtain ⟨rfl, ended⟩ := List.append_inj' split rfl
          obtain rfl : last = note := by simpa using ended
          exact .inr ⟨admitted, made⟩
        · have shifted : notes ++ [last] = (before ++ note :: inner) ++ [final] := by
            simpa using split
          obtain ⟨same, -⟩ := List.append_inj' shifted rfl
          exact .inl ⟨before, note, inner, same, admitted, made⟩

end Placement

theorem mem_distinct {texts : List String} {text : String} :
    text ∈ distinct texts ↔ text ∈ texts := by
  induction texts with
  | nil => simp [distinct]
  | cons first rest ih =>
      simp only [distinct, List.mem_cons, List.mem_filter, ih, decide_eq_true_eq]
      by_cases same : text = first <;> simp [same]

theorem mem_rankedNotes {notes : List ObsidianNote} {excludeNoteIds : List String}
    {note : ObsidianNote} :
    note ∈ rankedNotes notes excludeNoteIds ↔ note ∈ notes ∧ note.id ∉ excludeNoteIds := by
  simp [rankedNotes]

section Projection

variable {notes : List ObsidianNote} {excludeNoteIds : List String}

/-- The notes of a projection are those that find room behind the notes that rank before
them. -/
theorem mem_includedNoteIds {noteId : String} :
    noteId ∈ (buildHermesMemoryProjection notes excludeNoteIds).includedNoteIds ↔
      ∃ before note after,
        rankedNotes notes (distinct excludeNoteIds) = before ++ note :: after ∧
          note.id = noteId ∧ (Placement.placeAll before).admits note = true := by
  simp only [buildHermesMemoryProjection, List.mem_map, Placement.mem_entries_placeAll]
  constructor
  · rintro ⟨entry, ⟨before, note, after, ranked, admitted, rfl⟩, same⟩
    exact ⟨before, note, after, ranked, same, admitted⟩
  · rintro ⟨before, note, after, ranked, same, admitted⟩
    exact ⟨_, ⟨before, note, after, ranked, admitted, rfl⟩, same⟩

/-- An entry of a projection holds the text of a note that is not excluded. -/
theorem mem_projection_entries {entry : ProjectionEntry}
    (member : entry ∈ (buildHermesMemoryProjection notes excludeNoteIds).entries) :
    ∃ note ∈ notes, note.id ∉ excludeNoteIds ∧ entry = ⟨note.id, compactEntry note⟩ := by
  obtain ⟨before, note, after, ranked, -, made⟩ := Placement.mem_entries_placeAll.mp member
  have placed : note ∈ rankedNotes notes (distinct excludeNoteIds) := by
    rw [ranked]
    simp
  rw [mem_rankedNotes, mem_distinct] at placed
  exact ⟨note, placed.1, placed.2, made⟩

theorem includedNoteIds_eq :
    (buildHermesMemoryProjection notes excludeNoteIds).includedNoteIds =
      (buildHermesMemoryProjection notes excludeNoteIds).entries.map (·.noteId) := rfl

end Projection

end BairuiPlatform
