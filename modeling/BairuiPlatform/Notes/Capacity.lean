/-
Module: BairuiPlatform.Notes.Capacity
Purpose: The memory files take the notes in their order as long as there is room, and each note is
  either in a file or left out.
Trusted boundary: none
Main exports: joinedLength, HermesMemoryProjection.contentsOf, Placement.place_cases,
  buildHermesMemoryProjection_greedy
-/
import Mathlib.Algebra.GroupWithZero.Nat
import BairuiPlatform.Notes.Projection

namespace BairuiPlatform

/-! ### The length of a file -/

/-- The length of texts with a separator of three characters between them. -/
def joinedLength (contents : List String) : Nat :=
  (contents.map utf16Length).sum + 3 * (contents.length - 1)

theorem joinedLength_append_singleton (contents : List String) (content : String) :
    joinedLength (contents ++ [content]) =
      joinedLength contents + (if contents = [] then 0 else 3) + utf16Length content := by
  cases contents with
  | nil => simp [joinedLength]
  | cons first rest =>
      simp only [joinedLength, List.map_append, List.sum_append, List.map_cons, List.map_nil,
        List.sum_cons, List.sum_nil, List.length_append, List.length_cons, List.length_nil,
        if_neg (List.cons_ne_nil first rest)]
      omega

/-- The contents of a file. -/
def ProjectionFile.contents (file : ProjectionFile) : List String :=
  file.entries.map (·.content)

/-- The file of a target. -/
def HermesMemoryProjection.file (projection : HermesMemoryProjection) :
    MemoryTarget → ProjectionFile
  | .memory => projection.memory
  | .user => projection.user

/-- The contents of a file that come from some of the notes. -/
def HermesMemoryProjection.contentsOf (projection : HermesMemoryProjection)
    (target : MemoryTarget) (notes : List ObsidianNote) : List String :=
  ((projection.file target).entries.filter fun entry =>
    (notes.map (·.id)).contains entry.noteId).map (·.content)

/-! ### The loop -/

namespace Placement

variable {placement : Placement} {note : ObsidianNote} {notes : List ObsidianNote}
  {target other : MemoryTarget} {entry : ProjectionEntry}

theorem file_push_self :
    (placement.push target entry).file target =
      { entries := (placement.file target).entries ++ [entry]
        charCount := placement.next target entry.content } := by
  cases target <;> rfl

theorem file_push_of_ne (distinct : other ≠ target) :
    (placement.push target entry).file other = placement.file other := by
  cases target <;> cases other <;> first | rfl | exact absurd rfl distinct

@[simp] theorem capacityExcluded_push :
    (placement.push target entry).capacityExcluded = placement.capacityExcluded := by
  cases target <;> rfl

@[simp] theorem file_exclude (noteId : String) :
    (placement.exclude noteId).file target = placement.file target := by
  cases target <;> rfl

/-- There is room for a note if and only if its text, which is not empty, fits behind what its
file holds. -/
theorem admits_iff :
    placement.admits note = true ↔ ∃ target, targetFor note = some target ∧
      compactEntry note ≠ "" ∧ placement.next target (compactEntry note) ≤ target.limit := by
  unfold admits
  cases aimed : targetFor note with
  | none => simp
  | some target => simp

/-- An iteration leaves a note out for which there is no room, and adds the entry of any other. -/
theorem place_cases (placement : Placement) (note : ObsidianNote) :
    (placement.admits note = false ∧ placement.place note = placement.exclude note.id) ∨
    ∃ target, targetFor note = some target ∧ placement.admits note = true ∧
      placement.next target (compactEntry note) ≤ target.limit ∧
      placement.place note = placement.push target ⟨note.id, compactEntry note⟩ := by
  unfold place admits
  cases aimed : targetFor note with
  | none => exact .inl ⟨rfl, rfl⟩
  | some target =>
      by_cases blank : compactEntry note = ""
      · exact .inl ⟨by simp [blank], by simp [blank]⟩
      · by_cases fits : placement.next target (compactEntry note) ≤ target.limit
        · exact .inr ⟨target, rfl, by simp [blank, fits], fits, by simp [blank, fits]⟩
        · have full : target.limit < placement.next target (compactEntry note) := by omega
          exact .inl ⟨by simp [fits], by simp [blank, full]⟩

theorem placeAll_append_singleton (notes : List ObsidianNote) (note : ObsidianNote) :
    placeAll (notes ++ [note]) = (placeAll notes).place note := by
  simp only [placeAll, List.foldl_append, List.foldl_cons, List.foldl_nil]

/-- The count of every file is the length of its joined entries, and within its limit. -/
def Measured (placement : Placement) : Prop :=
  ∀ target, (placement.file target).charCount = joinedLength (placement.file target).contents ∧
    (placement.file target).charCount ≤ target.limit

theorem Measured.next_eq (measured : placement.Measured) (target : MemoryTarget)
    (content : String) :
    placement.next target content =
      joinedLength ((placement.file target).contents ++ [content]) := by
  rw [joinedLength_append_singleton, ← (measured target).1, next]
  simp only [ProjectionFile.contents, List.map_eq_nil_iff]

/-- An iteration keeps the counts. -/
theorem Measured.place (measured : placement.Measured) (note : ObsidianNote) :
    (placement.place note).Measured := by
  intro other
  rcases place_cases placement note with ⟨-, left⟩ | ⟨target, -, -, fits, pushed⟩
  · rw [left, file_exclude]
    exact measured other
  · rw [pushed]
    by_cases same : other = target
    · subst same
      rw [file_push_self]
      refine ⟨?_, fits⟩
      rw [measured.next_eq]
      simp only [ProjectionFile.contents, List.map_append, List.map_cons, List.map_nil]
    · rw [file_push_of_ne same]
      exact measured other

theorem measured_placeAll (notes : List ObsidianNote) : (placeAll notes).Measured := by
  induction notes using List.reverseRecOn with
  | nil =>
      intro target
      cases target <;> exact ⟨rfl, Nat.zero_le _⟩
  | append_singleton notes note ih =>
      rw [placeAll_append_singleton]
      exact ih.place note

/-- An iteration places its note once, in a file or among those that are left out. -/
theorem place_perm (placement : Placement) (note : ObsidianNote) :
    ((placement.place note).entries.map (·.noteId) ++ (placement.place note).capacityExcluded).Perm
      (note.id :: (placement.entries.map (·.noteId) ++ placement.capacityExcluded)) := by
  rcases place_cases placement note with ⟨-, left⟩ | ⟨target, -, -, -, pushed⟩
  · rw [left, entries_exclude]
    simp only [exclude, ← List.append_assoc]
    exact List.perm_append_singleton _ _
  · rw [pushed, capacityExcluded_push, ← List.cons_append]
    refine List.Perm.append_right _ ?_
    cases target with
    | memory =>
        simp only [entries, push, file, List.map_append, List.map_cons, List.append_assoc,
          List.cons_append, List.nil_append]
        exact List.perm_middle
    | user =>
        simp only [entries, push, file, List.map_append, List.map_cons, List.map_nil,
          ← List.append_assoc]
        exact List.perm_append_singleton _ _

/-- The loop places every note once. -/
theorem placeAll_perm (notes : List ObsidianNote) :
    ((placeAll notes).entries.map (·.noteId) ++ (placeAll notes).capacityExcluded).Perm
      (notes.map (·.id)) := by
  induction notes using List.reverseRecOn with
  | nil => exact List.Perm.nil
  | append_singleton notes note ih =>
      rw [placeAll_append_singleton, List.map_append]
      exact ((place_perm _ note).trans (ih.cons note.id)).trans
        (List.perm_append_singleton note.id _).symm

/-- What the loop adds to a file behind some notes are entries of the notes that follow. -/
theorem file_placeAll_append (before rest : List ObsidianNote) (target : MemoryTarget) :
    ∃ later, ((placeAll (before ++ rest)).file target).entries =
        ((placeAll before).file target).entries ++ later ∧
      ∀ entry ∈ later, entry.noteId ∈ rest.map (·.id) := by
  induction rest using List.reverseRecOn with
  | nil => exact ⟨[], by simp, by simp⟩
  | append_singleton rest note ih =>
      obtain ⟨later, grown, known⟩ := ih
      rw [← List.append_assoc, placeAll_append_singleton, List.map_append]
      have kept : ∀ entry ∈ later, entry.noteId ∈ rest.map (·.id) ++ [note].map (·.id) :=
        fun entry member => List.mem_append_left _ (known entry member)
      rcases place_cases (placeAll (before ++ rest)) note with ⟨-, left⟩ | ⟨aimed, -, -, -, pushed⟩
      · rw [left, file_exclude]
        exact ⟨later, grown, kept⟩
      · rw [pushed]
        by_cases same : target = aimed
        · subst same
          rw [file_push_self]
          refine ⟨later ++ [⟨note.id, compactEntry note⟩], by rw [grown, List.append_assoc], ?_⟩
          intro entry member
          rcases List.mem_append.mp member with earlier | last
          · exact kept entry earlier
          · rw [List.mem_singleton.mp last]
            simp
        · rw [file_push_of_ne same]
          exact ⟨later, grown, kept⟩

/-- A file holds entries of the notes that the loop went through. -/
theorem noteId_mem_of_file {target : MemoryTarget}
    (member : entry ∈ ((placeAll notes).file target).entries) :
    entry.noteId ∈ notes.map (·.id) := by
  obtain ⟨later, grown, known⟩ := file_placeAll_append [] notes target
  have empty : ((placeAll []).file target).entries = [] := by cases target <;> rfl
  rw [List.nil_append, empty, List.nil_append] at grown
  exact known entry (grown ▸ member)

/-- The entries of the first notes in a file are those that the loop had placed behind them. -/
theorem filter_file_placeAll {before rest : List ObsidianNote}
    (keyed : ((before ++ rest).map (·.id)).Nodup) (target : MemoryTarget) :
    ((placeAll (before ++ rest)).file target).entries.filter
        (fun entry => (before.map (·.id)).contains entry.noteId) =
      ((placeAll before).file target).entries := by
  obtain ⟨later, grown, known⟩ := file_placeAll_append before rest target
  rw [List.map_append] at keyed
  have apart := (List.nodup_append.mp keyed).2.2
  rw [grown, List.filter_append, List.filter_eq_self.mpr, List.filter_eq_nil_iff.mpr,
    List.append_nil]
  · intro entry member
    have foreign : entry.noteId ∉ before.map (·.id) := fun own =>
      apart _ own _ (known entry member) rfl
    simpa using foreign
  · intro entry member
    simpa using noteId_mem_of_file member

end Placement

/-! ### The order -/

instance : Std.Total ranksBefore where
  total left right := by
    unfold ranksBefore
    omega

instance : IsTrans ObsidianNote ranksBefore where
  trans first second third := by
    unfold ranksBefore
    omega

section Projection

variable {notes : List ObsidianNote} {excludeNoteIds : List String}

theorem rankedNotes_perm :
    (rankedNotes notes excludeNoteIds).Perm
      (notes.filter fun note => !excludeNoteIds.contains note.id) :=
  List.perm_insertionSort _ _

theorem rankedNotes_pairwise : (rankedNotes notes excludeNoteIds).Pairwise ranksBefore :=
  List.pairwise_insertionSort _ _

theorem rankedNotes_keyed (keyed : (notes.map (·.id)).Nodup) (excludeNoteIds : List String) :
    ((rankedNotes notes excludeNoteIds).map (·.id)).Nodup := by
  rw [(rankedNotes_perm.map _).nodup_iff]
  exact keyed.sublist (List.filter_sublist.map _)

theorem rankedNotes_distinct :
    rankedNotes notes (distinct excludeNoteIds) = rankedNotes notes excludeNoteIds := by
  unfold rankedNotes
  congr 1
  refine List.filter_congr fun note _ => ?_
  simp [mem_distinct]

/-- A note that is not excluded is placed once. -/
theorem count_included_add_count_excluded (keyed : (notes.map (·.id)).Nodup)
    {note : ObsidianNote} (member : note ∈ notes) (wanted : note.id ∉ excludeNoteIds) :
    (buildHermesMemoryProjection notes excludeNoteIds).includedNoteIds.count note.id +
      (buildHermesMemoryProjection notes excludeNoteIds).excludedNoteIds.count note.id = 1 := by
  have ranked : note.id ∈ (rankedNotes notes (distinct excludeNoteIds)).map (·.id) := by
    rw [rankedNotes_distinct]
    exact List.mem_map_of_mem (mem_rankedNotes.mpr ⟨member, wanted⟩)
  have once := List.count_eq_one_of_mem (rankedNotes_keyed keyed _) ranked
  have placed := (Placement.placeAll_perm (rankedNotes notes (distinct excludeNoteIds))).count_eq
    note.id
  have unwanted : (distinct excludeNoteIds).count note.id = 0 :=
    List.count_eq_zero.mpr fun listed => wanted (mem_distinct.mp listed)
  rw [List.count_append] at placed
  simp only [buildHermesMemoryProjection, List.count_append, unwanted]
  omega

/-- At its turn a note is left out if and only if there is no room for it. -/
theorem mem_excludedNoteIds_iff (keyed : (notes.map (·.id)).Nodup)
    {before after : List ObsidianNote} {note : ObsidianNote}
    (ranked : rankedNotes notes excludeNoteIds = before ++ note :: after) :
    note.id ∈ (buildHermesMemoryProjection notes excludeNoteIds).excludedNoteIds ↔
      (Placement.placeAll before).admits note = false := by
  have placed : note ∈ rankedNotes notes excludeNoteIds := by
    rw [ranked]
    simp
  have rankedKeyed := rankedNotes_keyed keyed excludeNoteIds
  obtain ⟨member, wanted⟩ := mem_rankedNotes.mp placed
  have once := count_included_add_count_excluded keyed member wanted
  have included :
      note.id ∈ (buildHermesMemoryProjection notes excludeNoteIds).includedNoteIds ↔
        (Placement.placeAll before).admits note = true := by
    rw [mem_includedNoteIds, rankedNotes_distinct]
    constructor
    · rintro ⟨before', note', after', ranked', same, admitted⟩
      have placed' : note' ∈ rankedNotes notes excludeNoteIds := by
        rw [ranked']
        simp
      obtain rfl : note' = note := List.inj_on_of_nodup_map rankedKeyed placed' placed same
      rw [ranked, List.map_append, List.map_cons] at rankedKeyed
      have apart := List.nodup_middle.mp rankedKeyed
      have notBefore : note' ∉ before := fun earlier =>
        (List.nodup_cons.mp apart).1
          (List.mem_append_left _ (List.mem_map_of_mem (f := (·.id)) earlier))
      have notAfter : note' ∉ after := fun later =>
        (List.nodup_cons.mp apart).1
          (List.mem_append_right _ (List.mem_map_of_mem (f := (·.id)) later))
      obtain ⟨rfl, -, -⟩ :=
        (List.append_cons_inj_of_notMem notBefore notAfter).mp (ranked.symm.trans ranked')
      exact admitted
    · exact fun admitted => ⟨before, note, after, ranked, rfl, admitted⟩
  rw [← Bool.not_eq_true, ← included, ← List.count_pos_iff, ← List.count_pos_iff]
  omega

/-- The projection is greedy: every note that is not excluded is placed once, the files are
counted with their separators and stay within their limits, and in the order of importance and
then of time a note with a file and a text is left out if and only if its text does not fit
behind the texts of its file that rank before it. -/
theorem buildHermesMemoryProjection_greedy (keyed : (notes.map (·.id)).Nodup) :
    (∀ note ∈ notes, note.id ∉ excludeNoteIds →
      (buildHermesMemoryProjection notes excludeNoteIds).includedNoteIds.count note.id +
        (buildHermesMemoryProjection notes excludeNoteIds).excludedNoteIds.count note.id = 1) ∧
    (∀ target,
      ((buildHermesMemoryProjection notes excludeNoteIds).file target).charCount =
        joinedLength ((buildHermesMemoryProjection notes excludeNoteIds).file target).contents ∧
      ((buildHermesMemoryProjection notes excludeNoteIds).file target).charCount ≤
        target.limit) ∧
    (rankedNotes notes excludeNoteIds).Perm
      (notes.filter fun note => !excludeNoteIds.contains note.id) ∧
    (rankedNotes notes excludeNoteIds).Pairwise ranksBefore ∧
    ∀ before note after, rankedNotes notes excludeNoteIds = before ++ note :: after →
      ∀ target, targetFor note = some target → compactEntry note ≠ "" →
        (note.id ∈ (buildHermesMemoryProjection notes excludeNoteIds).excludedNoteIds ↔
          target.limit < joinedLength
            ((buildHermesMemoryProjection notes excludeNoteIds).contentsOf target before ++
              [compactEntry note])) := by
  have files : ∀ target, (buildHermesMemoryProjection notes excludeNoteIds).file target =
      (Placement.placeAll (rankedNotes notes excludeNoteIds)).file target := by
    intro target
    rw [← rankedNotes_distinct]
    cases target <;> rfl
  refine ⟨fun note member wanted => count_included_add_count_excluded keyed member wanted, ?_,
    rankedNotes_perm, rankedNotes_pairwise, ?_⟩
  · intro target
    rw [files]
    exact Placement.measured_placeAll _ target
  · intro before note after ranked target aimed filled
    have measured := Placement.measured_placeAll before
    have contents :
        (buildHermesMemoryProjection notes excludeNoteIds).contentsOf target before =
          ((Placement.placeAll before).file target).contents := by
      have rankedKeyed := rankedNotes_keyed keyed excludeNoteIds
      rw [ranked] at rankedKeyed
      rw [HermesMemoryProjection.contentsOf, files, ranked,
        Placement.filter_file_placeAll rankedKeyed]
      rfl
    rw [mem_excludedNoteIds_iff keyed ranked, contents, ← measured.next_eq, ← Bool.not_eq_true,
      Placement.admits_iff]
    constructor
    · intro refused
      by_contra fits
      exact refused ⟨target, aimed, filled, Nat.le_of_not_lt fits⟩
    · rintro full ⟨other, aimed', -, fits⟩
      obtain rfl : other = target := Option.some_inj.mp (aimed'.symm.trans aimed)
      omega

end Projection

/-- A note of some importance. -/
def sampleNote (id : String) (importance : Nat) : ObsidianNote :=
  { id := id, organizationId := "org-1", userId := "user-1", agentId := "agent-1"
    title := "Plan", slug := "Plan", markdown := "# Plan\n\nShip it.\n", frontmatter := .null
    wikilinks := [], memoryKind := .fact, importance := importance, hermesTarget := .auto
    sourceRef := "bairui-user", revision := 1, hermesSyncStatus := .pending
    hermesSyncedRevision := none, hermesSyncedAt := none, createdAt := 0, updatedAt := 0 }

theorem buildHermesMemoryProjection_greedy_pair :
    let projection := buildHermesMemoryProjection [sampleNote "note-1" 2, sampleNote "note-2" 5]
      ["note-1"]
    (∀ target, (projection.file target).charCount =
        joinedLength (projection.file target).contents ∧
      (projection.file target).charCount ≤ target.limit) ∧
    projection.includedNoteIds.count "note-2" + projection.excludedNoteIds.count "note-2" = 1 := by
  obtain ⟨once, measured, -⟩ := @buildHermesMemoryProjection_greedy
    [sampleNote "note-1" 2, sampleNote "note-2" 5] ["note-1"] (by decide)
  exact ⟨measured, once (sampleNote "note-2" 5) (by simp) (by decide)⟩

end BairuiPlatform
