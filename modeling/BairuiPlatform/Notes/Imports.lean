/-
Module: BairuiPlatform.Notes.Imports
Purpose: Which entries of a runtime are kept as notes when a projection replaces its memory.
Trusted boundary: the normal form NFKC of a text is a parameter
Main exports: createNote_ok, ImportsKeep, KeepsMemories, ImportsSafely, memories_kept_iff
-/
import BairuiPlatform.Notes.Coordinator
import BairuiPlatform.Notes.MarkdownBody
import BairuiPlatform.Notes.MemoryCalls
import BairuiPlatform.Notes.PostgresCalls

namespace BairuiPlatform

open Foundations

/-! ### Stored notes -/

/-- A note that no call identifies: it is added to the notes, or it replaces the content of the
note with its slug. -/
theorem createNote_ok {repository : Repository} {surroundings : ImportEnv} {input : NoteInput}
    {store final : NoteStore} (unnamed : input.id = none)
    (created : createNote repository surroundings input store = (.ok (), final)) :
    (store.notes.any input.isDuplicate = false ∧
        ∃ now, final.notes =
          store.notes ++ [input.created (surroundings.env.uuids 1) now]) ∨
      (store.notes.any input.isDuplicate = true ∧
        final.notes.length = store.notes.length ∧ ¬store.notes <+: final.notes) := by
  cases repository with
  | memory =>
      simp only [createNote] at created
      split at created
      · rename_i answer last ran
        obtain rfl : last = final := (Prod.mk.inj created).2
        have notes := Memory.queueProjection_notes ran
        by_cases present : store.notes.any input.isDuplicate = true
        · right
          simp only [present, if_true] at notes
          refine ⟨present, ?_, ?_⟩
          · rw [notes, length_updateFirst]
          · rw [notes]
            intro before
            have same := before.eq_of_length (length_updateFirst _ _ _).symm
            obtain ⟨note, member, duplicate⟩ := List.any_eq_true.mp present
            obtain ⟨first, found⟩ := Option.isSome_iff_exists.mp
              (List.find?_isSome.mpr ⟨note, member, duplicate⟩)
            have revised := congrArg ObsidianNote.revision (updateFirst_eq_self same.symm found)
            simp [NoteInput.replaced] at revised
        · left
          rw [Bool.not_eq_true] at present
          refine ⟨present, isoNow surroundings.env.now, ?_⟩
          rw [notes]
          simp [present, unnamed]
      · simp at created
  | postgres =>
      simp only [createNote] at created
      split at created
      · rename_i answer last ran
        obtain rfl : last = final := (Prod.mk.inj created).2
        have notes := Postgres.createObsidianNote_notes (Tx.inTransaction_ok ran)
        by_cases present : store.notes.any input.isDuplicate = true
        · right
          simp only [upsert, if_pos present] at notes
          refine ⟨present, ?_, ?_⟩
          · rw [notes]
            exact List.length_map _
          · rw [notes]
            intro before
            have same := before.eq_of_length (List.length_map _).symm
            obtain ⟨note, member, duplicate⟩ := List.any_eq_true.mp present
            have revised := congrArg ObsidianNote.revision
              (updateWhere_eq_self.mp same.symm note member duplicate)
            simp [NoteInput.replaced] at revised
        · left
          rw [Bool.not_eq_true] at present
          refine ⟨present, surroundings.env.now, ?_⟩
          rw [notes]
          simp [upsert, present, unnamed]
      · simp at created
      · simp at created

/-! ### Imported notes -/

/-- The title of an imported note is one line. -/
theorem nativeTitle_inLine (native : NativeEntry) :
    ∀ c ∈ trim (chars (nativeTitle native)), isInLine c = true := by
  have hexadecimal : ∀ c, isHexDigit c = true → isInLine c = true := by
    intro c digit
    have bounded : c.toNat ≤ 'f'.toNat := by
      simp only [isHexDigit, Bool.or_eq_true, Bool.and_eq_true, decide_eq_true_eq] at digit
      rcases digit with ⟨-, below⟩ | ⟨-, below⟩
      · exact le_trans (Char.le_def.mp below) (by decide)
      · exact Char.le_def.mp below
    have small : c.toNat ≤ 102 := bounded
    have apart : c ≠ '\n' ∧ c ≠ '\r' := by
      constructor
      · rintro rfl
        exact absurd digit (by decide)
      · rintro rfl
        exact absurd digit (by decide)
    simp only [isInLine, Bool.and_eq_true, decide_eq_true_eq]
    exact ⟨⟨apart, by omega⟩, by omega⟩
  intro c member
  have inside := mem_of_mem_trim member
  simp only [nativeTitle, slice, chars_eq_toList, String.toList_append, String.toList_ofList,
    List.mem_append] at inside
  rcases inside with ((lead | name) | middle) | digit
  · exact List.all_eq_true.mp (by decide +kernel : "Hermes ".toList.all isInLine = true) c lead
  · cases target : native.1 with
    | memory =>
        rw [target] at name
        exact List.all_eq_true.mp (by decide +kernel : "memory".toList.all isInLine = true) c name
    | user =>
        rw [target] at name
        exact List.all_eq_true.mp (by decide +kernel : "user".toList.all isInLine = true) c name
  · exact List.all_eq_true.mp (by decide +kernel : " memory ".toList.all isInLine = true) c middle
  · have digits := native.2.sha256.digits
    rw [chars_eq_toList, List.all_eq_true] at digits
    exact hexadecimal c (digits c (mem_of_mem_sliceChars digit))

section Normalized

variable [Normalization]

/-- The slug of an imported note. -/
def nativeSlug (native : NativeEntry) : String :=
  obsidianSlug (String.ofList (trim (chars (nativeTitle native))))

/-- The note of a job's Agent that an import makes. -/
structure IsImport (job : ProjectionJob) (native : NativeEntry) (note : ObsidianNote) : Prop where
  owned : note.isOf job.organizationId job.userId job.agentId = true
  slug : note.slug = nativeSlug native
  body : obsidianBody (chars note.markdown) = cutBody (trim (chars native.2.content))

/-- An import adds a note with the content of its entry, or it replaces the content of a note
that has the slug. -/
theorem importEntry_ok {repository : Repository} {job : ProjectionJob}
    {surroundings : ImportEnv} {native : NativeEntry} {store final : NoteStore}
    (imported : importEntry repository job surroundings native store = (.ok (), final)) :
    ((∀ note ∈ store.notes, note.isOf job.organizationId job.userId job.agentId = true →
        note.slug ≠ nativeSlug native) ∧
      ∃ note, IsImport job native note ∧ final.notes = store.notes ++ [note]) ∨
    ((∃ note ∈ store.notes, note.isOf job.organizationId job.userId job.agentId = true ∧
        note.slug = nativeSlug native) ∧ ¬store.notes <+: final.notes) := by
  simp only [importEntry] at imported
  split at imported
  · simp at imported
  · rename_i document made
    have slug : document.slug = nativeSlug native := by
      have whole := made
      simp only [createDocument] at whole
      split at whole
      · cases whole
      · obtain rfl := Option.some.inj whole
        rfl
    rcases createNote_ok rfl imported with ⟨absent, now, added⟩ | ⟨present, -, replaced⟩
    · left
      constructor
      · intro note member owned same
        rw [List.any_eq_false] at absent
        apply absent note member
        simp only [NoteInput.isDuplicate, Bool.and_eq_true, decide_eq_true_eq]
        exact ⟨owned, same.trans slug.symm⟩
      · refine ⟨_, ⟨?_, slug, ?_⟩, added⟩
        · simp [ObsidianNote.isOf, NoteInput.created, NoteDocument.input]
        · have body := obsidianBody_createDocument made (nativeTitle_inLine native)
          simpa [NoteInput.created, NoteDocument.input, nativeDraft] using body
    · right
      apply And.intro _ replaced
      obtain ⟨note, member, duplicate⟩ := List.any_eq_true.mp present
      simp only [NoteInput.isDuplicate, Bool.and_eq_true, decide_eq_true_eq] at duplicate
      exact ⟨note, member, duplicate.1, duplicate.2.trans slug⟩

/-! ### The imports of a run -/

variable (repository : Repository) (job : ProjectionJob) (surroundings : Nat → ImportEnv)

/-- Every import leaves the notes before it as they were. -/
def ImportsKeep : Nat → List NativeEntry → NoteStore → Prop
  | _, [], _ => True
  | index, native :: rest, store =>
      ∀ after, importEntry repository job (surroundings index) native store = (.ok (), after) →
        store.notes <+: after.notes ∧ ImportsKeep (index + 1) rest after

/-- The slugs of the imports differ, and no note of the Agent has one of them. -/
structure SlugsFree (imports : List NativeEntry) (store : NoteStore) : Prop where
  distinct : (imports.map nativeSlug).Nodup
  free : ∀ native ∈ imports, ∀ note ∈ store.notes,
    note.isOf job.organizationId job.userId job.agentId = true → note.slug ≠ nativeSlug native

variable {repository job surroundings}

theorem importEntries_cons {index : Nat} {native : NativeEntry} {rest : List NativeEntry}
    {store final : NoteStore}
    (ran : importEntries repository job surroundings index (native :: rest) store =
      (.ok (), final)) :
    ∃ after, importEntry repository job (surroundings index) native store = (.ok (), after) ∧
      importEntries repository job surroundings (index + 1) rest after = (.ok (), final) := by
  simp only [importEntries] at ran
  split at ran
  · simp at ran
  · rename_i after entered
    exact ⟨after, entered, ran⟩

theorem slugsFree_cons {native : NativeEntry} {rest : List NativeEntry} {store after : NoteStore}
    {note : ObsidianNote} (made : IsImport job native note)
    (added : after.notes = store.notes ++ [note])
    (absent : ∀ note ∈ store.notes,
      note.isOf job.organizationId job.userId job.agentId = true → note.slug ≠ nativeSlug native) :
    SlugsFree job (native :: rest) store ↔ SlugsFree job rest after := by
  constructor
  · intro free
    have split := free.distinct
    rw [List.map_cons, List.nodup_cons] at split
    apply SlugsFree.mk split.2
    intro other later candidate member owned same
    rw [added, List.mem_append, List.mem_singleton] at member
    rcases member with old | rfl
    · exact free.free other (List.mem_cons_of_mem _ later) candidate old owned same
    · apply split.1
      rw [← made.slug, same]
      exact List.mem_map_of_mem later
  · intro free
    constructor
    case distinct =>
      rw [List.map_cons, List.nodup_cons]
      apply And.intro _ free.distinct
      intro repeated
      obtain ⟨other, later, same⟩ := List.mem_map.mp repeated
      apply free.free other later note
      · simp [added]
      · exact made.owned
      · rw [made.slug, same]
    case free =>
      intro other member candidate old owned
      rcases List.mem_cons.mp member with rfl | later
      · exact absent candidate old owned
      · exact free.free other later candidate (by simp [added, old]) owned

/-- The imports of a run leave the notes as they were if and only if their slugs are free. -/
theorem importsKeep_iff {index : Nat} {imports : List NativeEntry} {store final : NoteStore}
    (ran : importEntries repository job surroundings index imports store = (.ok (), final)) :
    ImportsKeep repository job surroundings index imports store ↔
      SlugsFree job imports store := by
  induction imports generalizing index store with
  | nil =>
      constructor
      · intro _
        exact ⟨List.nodup_nil, fun _ member => absurd member List.not_mem_nil⟩
      · intro _
        trivial
  | cons native rest ih =>
      obtain ⟨after, entered, later⟩ := importEntries_cons ran
      have unfolded : ImportsKeep repository job surroundings index (native :: rest) store ↔
          store.notes <+: after.notes ∧
            ImportsKeep repository job surroundings (index + 1) rest after := by
        constructor
        · intro keep
          exact keep after entered
        · intro keep other answered
          rw [entered, Prod.mk.injEq] at answered
          rw [← answered.2]
          exact keep
      rw [unfolded]
      rcases importEntry_ok entered with ⟨absent, note, made, added⟩ | ⟨present, replaced⟩
      · rw [ih later, slugsFree_cons made added absent, added]
        simp
      · constructor
        · intro keep
          exact absurd keep.1 replaced
        · intro free
          obtain ⟨note, member, owned, same⟩ := present
          exact absurd same (free.free native List.mem_cons_self note member owned)

/-- Imports that leave the notes as they were add a note for each of their entries. -/
theorem imported_of_keep {index : Nat} {imports : List NativeEntry} {store final : NoteStore}
    (ran : importEntries repository job surroundings index imports store = (.ok (), final))
    (keep : ImportsKeep repository job surroundings index imports store) :
    ∃ notes, final.notes = store.notes ++ notes ∧ List.Forall₂ (IsImport job) imports notes := by
  induction imports generalizing index store with
  | nil =>
      simp only [importEntries, Prod.mk.injEq, true_and] at ran
      exact ⟨[], by rw [ran, List.append_nil], .nil⟩
  | cons native rest ih =>
      obtain ⟨after, entered, later⟩ := importEntries_cons ran
      obtain ⟨before, keepRest⟩ := keep after entered
      rcases importEntry_ok entered with ⟨-, note, made, added⟩ | ⟨-, replaced⟩
      · obtain ⟨notes, appended, all⟩ := ih later keepRest
        refine ⟨note :: notes, ?_, .cons made all⟩
        rw [appended, added, List.append_assoc, List.singleton_append]
      · exact absurd before replaced

/-! ### Entries that are kept -/

omit [Normalization] in
theorem exists_of_forall₂_left {α β : Type} {related : α → β → Prop} {firsts : List α}
    {seconds : List β} (all : List.Forall₂ related firsts seconds) {first : α}
    (member : first ∈ firsts) : ∃ second ∈ seconds, related first second := by
  induction all with
  | nil => cases member
  | cons here _ ih =>
      rcases List.mem_cons.mp member with rfl | later
      · exact ⟨_, List.mem_cons_self, here⟩
      · obtain ⟨second, among, holds⟩ := ih later
        exact ⟨second, List.mem_cons_of_mem _ among, holds⟩

omit [Normalization] in
theorem exists_of_forall₂_right {α β : Type} {related : α → β → Prop} {firsts : List α}
    {seconds : List β} (all : List.Forall₂ related firsts seconds) {second : β}
    (member : second ∈ seconds) : ∃ first ∈ firsts, related first second :=
  exists_of_forall₂_left all.flip member

omit [Normalization] in
theorem mem_listNotes {store : NoteStore} {note : ObsidianNote} :
    note ∈ listNotes repository job store ↔
      note ∈ store.notes ∧ note.isOf job.organizationId job.userId job.agentId = true := by
  cases repository with
  | memory => simp [listNotes, Memory.listObsidianNotes]
  | postgres => simp [listNotes, Postgres.listObsidianNotes]

variable (repository job surroundings)

/-- What a run keeps of the memory that its projection replaces. -/
structure KeepsMemories (snapshot : MemorySnapshot) (store final : NoteStore) : Prop where
  /-- An entry that no projection wrote is the body of a note of the Agent. -/
  held : ∀ native ∈ snapshot.files.all, snapshot.isProjected native.2.sha256 = false →
    ∃ note ∈ final.notes, note.isOf job.organizationId job.userId job.agentId = true ∧
      obsidianBody (chars note.markdown) = trim (chars native.2.content)
  /-- No import overwrites a note. -/
  kept : ImportsKeep repository job surroundings 0
    (importsOf snapshot (listNotes repository job store)) store

/-- The slugs of the imports are free, and every entry that no projection wrote is the body of
a note that is there, or what is read back of an entry that is imported. -/
structure ImportsSafely (snapshot : MemorySnapshot) (notes : List ObsidianNote) : Prop where
  distinct : ((importsOf snapshot notes).map nativeSlug).Nodup
  free : ∀ native ∈ importsOf snapshot notes, ∀ note ∈ notes, note.slug ≠ nativeSlug native
  held : ∀ native ∈ snapshot.files.all, snapshot.isProjected native.2.sha256 = false →
    (∃ note ∈ notes, obsidianBody (chars note.markdown) = trim (chars native.2.content)) ∨
      ∃ imported ∈ importsOf snapshot notes,
        cutBody (trim (chars imported.2.content)) = trim (chars native.2.content)

variable {repository job surroundings}

/-- A run that comes to apply its projection keeps the memories of the runtime if and only if
it imports them safely. -/
theorem memories_kept_iff {snapshot : MemorySnapshot} {store final : NoteStore}
    {plan : SyncPlan}
    (prepared : preparePlan repository job surroundings snapshot store = (.ok plan, final)) :
    KeepsMemories repository job surroundings snapshot store final ↔
      ImportsSafely snapshot (listNotes repository job store) := by
  have ran : importEntries repository job surroundings 0
      (importsOf snapshot (listNotes repository job store)) store = (.ok (), final) := by
    simp only [preparePlan] at prepared
    split at prepared
    · simp at prepared
    · rename_i last imported
      rw [Prod.mk.injEq] at prepared
      rw [← prepared.2]
      exact imported
  have slugs : SlugsFree job (importsOf snapshot (listNotes repository job store)) store ↔
      ((importsOf snapshot (listNotes repository job store)).map nativeSlug).Nodup ∧
        ∀ native ∈ importsOf snapshot (listNotes repository job store),
          ∀ note ∈ listNotes repository job store, note.slug ≠ nativeSlug native := by
    constructor
    · intro free
      apply And.intro free.distinct
      intro native member note listed
      rw [mem_listNotes] at listed
      exact free.free native member note listed.1 listed.2
    · intro free
      apply SlugsFree.mk free.1
      intro native member note stored owned
      exact free.2 native member note (mem_listNotes.mpr ⟨stored, owned⟩)
  -- With free slugs, the notes at the end are those of the start and those of the imports.
  have holds (keep : ImportsKeep repository job surroundings 0
      (importsOf snapshot (listNotes repository job store)) store) (body : List Char) :
      (∃ note ∈ final.notes, note.isOf job.organizationId job.userId job.agentId = true ∧
        obsidianBody (chars note.markdown) = body) ↔
      (∃ note ∈ listNotes repository job store, obsidianBody (chars note.markdown) = body) ∨
        ∃ imported ∈ importsOf snapshot (listNotes repository job store),
          cutBody (trim (chars imported.2.content)) = body := by
    obtain ⟨notes, appended, all⟩ := imported_of_keep ran keep
    rw [appended]
    constructor
    · intro ⟨note, member, owned, same⟩
      rcases List.mem_append.mp member with old | new
      · exact .inl ⟨note, mem_listNotes.mpr ⟨old, owned⟩, same⟩
      · obtain ⟨imported, among, made⟩ := exists_of_forall₂_right all new
        exact .inr ⟨imported, among, made.body.symm.trans same⟩
    · rintro (⟨note, listed, same⟩ | ⟨imported, among, same⟩)
      · rw [mem_listNotes] at listed
        exact ⟨note, List.mem_append_left _ listed.1, listed.2, same⟩
      · obtain ⟨note, new, made⟩ := exists_of_forall₂_left all among
        exact ⟨note, List.mem_append_right _ new, made.owned, made.body.trans same⟩
  constructor
  · intro keeps
    obtain ⟨distinct, free⟩ := slugs.mp ((importsKeep_iff ran).mp keeps.kept)
    apply ImportsSafely.mk distinct free
    intro native member unprojected
    exact (holds keeps.kept _).mp (keeps.held native member unprojected)
  · intro safe
    have keep := (importsKeep_iff ran).mpr (slugs.mpr ⟨safe.distinct, safe.free⟩)
    apply KeepsMemories.mk _ keep
    intro native member unprojected
    exact (holds keep _).mpr (safe.held native member unprojected)

end Normalized

end BairuiPlatform
