/-
Module: BairuiPlatform.Notes.Creation
Purpose: Notes that the memory-notes route and the import of a character card create, and when
  they overwrite another note.
Trusted boundary: the normal form NFKC of a text is a parameter; random identifiers are not
  repeated
Main exports: MemoryNoteBody.draft, cardDrafts, NoteRoute, storeDraft, AddsNote, SoundNotes,
  storeDraft_adds_iff
-/
import BairuiPlatform.Agents.Cards
import BairuiPlatform.Notes.Imports

namespace BairuiPlatform

open Foundations

/-! ### Drafts -/

/-- What `POST /memory-notes` is given, with fields that it has checked. -/
structure MemoryNoteBody where
  title : String
  body : String
  tags : List String := []
  wikilinks : List String := []
  memoryKind : Option MemoryKind := none
  importance : Option Int := none
  hermesTarget : Option HermesTarget := none

/-- What `memoryNoteDocument` makes a document of, when there is no note yet. -/
def MemoryNoteBody.draft (body : MemoryNoteBody) : NoteDraft :=
  { title := slice 200 body.title, body := slice 200000 body.body, tags := body.tags
    wikilinks := body.wikilinks, memoryKind := body.memoryKind, importance := body.importance
    hermesTarget := body.hermesTarget, sourceRef := some "bairui-user" }

/-- A text that is stored in UTF-8. -/
def JsText.stored (text : JsText) : String :=
  String.ofList text.characters

/-- A section of `sourceMarkdown`, if there is something in it. -/
def sourceSection (title : String) (value : JsText) : List JsText :=
  if value = [] then [] else [[], utf16 "## " ++ utf16 title, [], value]

/-- `value || other`. -/
def JsText.orElse (value other : JsText) : JsText :=
  if value = [] then other else value

/-- The title of the note that keeps the source of a card. -/
def sourceTitle (card : Card) : JsText :=
  utf16 "Character Card Source - " ++ card.name

/-- `sourceMarkdown`. -/
def sourceMarkdown (card : Card) : JsText :=
  let lines := [utf16 "# " ++ sourceTitle card, [],
      utf16 "- Spec: " ++ utf16 card.spec ++ utf16 " " ++ card.specVersion,
      utf16 "- Creator: " ++ card.creator.orElse (utf16 "unknown"),
      utf16 "- Character version: " ++ card.characterVersion.orElse (utf16 "unknown"),
      utf16 "- Tags: " ++
        JsText.orElse ((utf16 ", ").intercalate card.tags) (utf16 "none")] ++
    sourceSection "First Message" card.firstMessage ++
    sourceSection "Alternate Greetings"
      ((utf16 "\n\n---\n\n").intercalate card.alternateGreetings) ++
    sourceSection "Example Dialogue" card.messageExample ++
    sourceSection "Creator Notes" card.creatorNotes
  (([10] : JsText).intercalate lines).take 200000

/-- `sourceNote`, for the digest of a card. -/
def sourceDraft (digest : String) (card : Card) : NoteDraft :=
  { title := (sourceTitle card).stored, body := (sourceMarkdown card).stored
    tags := (["character-card", "source"] ++ card.tags.map JsText.stored).take 50
    memoryKind := some .knowledge, importance := some 2, hermesTarget := some .none
    sourceRef := some ("character-card:" ++ digest) }

/-- The title of the note of an entry: its name, its first key, or its place in the book. -/
def loreTitle (card : Card) (book : CardBook) (entry : CardBookEntry) (index : Nat) : JsText :=
  entry.name.orElse <| (entry.keys.headD []).orElse <|
    book.name.orElse card.name ++ utf16 (" Lore " ++ toString (index + 1))

/-- A note of `loreNotes`. -/
def loreDraft (digest : String) (card : Card) (book : CardBook) (entry : CardBookEntry)
    (index : Nat) : NoteDraft :=
  { title := (loreTitle card book entry index).stored, body := entry.content.stored
    tags := (distinct (["character-card", "lore"] ++
      (entry.keys ++ entry.secondaryKeys).map JsText.stored)).take 50
    memoryKind := some .knowledge, importance := some (if entry.constant then 4 else 3)
    hermesTarget := some .none, sourceRef := some ("character-card:" ++ digest) }

/-- The notes of an import, in their order. -/
def cardDrafts (digest : String) (card : Card) : List NoteDraft :=
  sourceDraft digest card ::
    match card.characterBook with
    | none => []
    | some book => book.entries.mapIdx fun index entry => loreDraft digest card book entry index

/-- A request that creates notes. -/
inductive NoteRoute where
  | memoryNotes (body : MemoryNoteBody)
  | characterCard (digest : String) (card : Card)

/-- The notes that it creates, one after the other. -/
def NoteRoute.drafts : NoteRoute → List NoteDraft
  | memoryNotes body => [body.draft]
  | characterCard digest card => cardDrafts digest card

/-! ### Storing -/

/-- The Agent of a request, with its user. -/
structure NoteOwner where
  organizationId : String
  userId : String
  agentId : String

/-- The note is one of the Agent. -/
def NoteOwner.owns (owner : NoteOwner) (note : ObsidianNote) : Prop :=
  note.isOf owner.organizationId owner.userId owner.agentId = true

/-- `{ ...note, organizationId, userId, agentId }`. -/
def NoteDocument.inputOf (document : NoteDocument) (owner : NoteOwner) : NoteInput :=
  { organizationId := owner.organizationId, userId := owner.userId, agentId := owner.agentId
    title := document.title, slug := document.slug
    markdown := String.ofList document.markdown, frontmatter := document.frontmatter
    wikilinks := document.wikilinks, memoryKind := some document.memoryKind
    importance := some document.importance, hermesTarget := some document.hermesTarget
    sourceRef := some document.sourceRef }

/-- A draft becomes a document, and the document is stored. -/
def storeDraft [Normalization] (repository : Repository) (owner : NoteOwner)
    (surroundings : ImportEnv) (draft : NoteDraft) (store : NoteStore) :
    Except SyncFailure Unit × NoteStore :=
  match createDocument draft surroundings.written with
  | none => (.error .noteRequired, store)
  | some document => createNote repository surroundings (document.inputOf owner) store

/-- The notes of a request, one after the other. -/
def storeDrafts [Normalization] (repository : Repository) (owner : NoteOwner)
    (surroundings : Nat → ImportEnv) :
    Nat → List NoteDraft → NoteStore → Except SyncFailure Unit × NoteStore
  | _, [], store => (.ok (), store)
  | index, draft :: rest, store =>
      match storeDraft repository owner (surroundings index) draft store with
      | (.error failure, final) => (.error failure, final)
      | (.ok _, final) => storeDrafts repository owner surroundings (index + 1) rest final

/-- A document is added to the notes of an Agent, and the notes that were there keep their
title, body and revision. -/
structure AddsNote (document : NoteDocument) (owner : NoteOwner) (store final : NoteStore) :
    Prop where
  added : ∃ note ∈ final.notes, owner.owns note ∧ note.title = document.title ∧
    note.markdown = String.ofList document.markdown ∧ ∀ old ∈ store.notes, old.id ≠ note.id
  more : final.notes.length = store.notes.length + 1
  kept : ∀ old ∈ store.notes, ∃ note ∈ final.notes, note.id = old.id ∧ note.title = old.title ∧
    note.markdown = old.markdown ∧ note.revision = old.revision

/-! ### Constraints -/

/-- What the indexes and the checks of `obsidian_notes` say of its rows. -/
structure SoundNotes (notes : List ObsidianNote) : Prop where
  ids : Keyed ObsidianNote.id notes
  slugs : Keyed (fun note => (note.organizationId, note.userId, note.agentId, note.slug)) notes
  importance : ∀ note ∈ notes, 1 ≤ note.importance ∧ note.importance ≤ 5

/-- The tables of a database obey their constraints. -/
def SoundTables (repository : Repository) (store : NoteStore) : Prop :=
  repository = .postgres → SoundNotes store.notes ∧ OutboxSound store.outbox

/-- The random identifiers of a call are new. -/
structure FreshIds (env : NoteEnv) (store : NoteStore) : Prop where
  note : ∀ note ∈ store.notes, note.id ≠ env.uuids 1
  job : ∀ job ∈ store.outbox, job.id ≠ env.uuids 0

/-- A note with a new identifier and a slug of its own joins sound notes. -/
theorem SoundNotes.snoc {notes : List ObsidianNote} (sound : SoundNotes notes)
    {note : ObsidianNote} (fresh : ∀ old ∈ notes, old.id ≠ note.id)
    (free : ∀ old ∈ notes,
      old.isOf note.organizationId note.userId note.agentId = true → old.slug ≠ note.slug)
    (importance : 1 ≤ note.importance ∧ note.importance ≤ 5) : SoundNotes (notes ++ [note]) where
  ids := sound.ids.snoc fresh
  slugs := by
    apply sound.slugs.snoc
    intro old member same
    simp only [Prod.mk.injEq] at same
    obtain ⟨organization, user, agent, slug⟩ := same
    refine free old member ?_ slug
    simp [ObsidianNote.isOf, organization, user, agent]
  importance := by
    intro other member
    rcases List.mem_append.mp member with old | new
    · exact sound.importance other old
    · rw [List.mem_singleton.mp new]
      exact importance

namespace Postgres

variable {env : NoteEnv} {store : NoteStore}

/-- Sound notes pass their constraints. -/
theorem noteConstraints_hold {notes : List ObsidianNote} (sound : SoundNotes notes) :
    ∀ constraint ∈ noteConstraints notes, constraint.1 = true := by
  intro constraint member
  simp only [noteConstraints, List.mem_cons, List.not_mem_nil, or_false] at member
  rcases member with rfl | rfl | rfl
  · exact List.all_eq_true.mpr fun note _ => decide_eq_true (sound.ids.countP_le_one note.id)
  · refine List.all_eq_true.mpr fun note _ => decide_eq_true ?_
    refine le_trans (le_of_eq ?_) (sound.slugs.countP_le_one
      (note.organizationId, note.userId, note.agentId, note.slug))
    apply List.countP_congr
    intro other _
    simp [ObsidianNote.isOf, and_assoc]
  · refine List.all_eq_true.mpr fun note member => ?_
    simpa using sound.importance note member

/-- A sound outbox passes its constraints. -/
theorem jobConstraints_hold {outbox : List ProjectionJob} (sound : OutboxSound outbox) :
    ∀ constraint ∈ jobConstraints outbox, constraint.1 = true := by
  intro constraint member
  simp only [jobConstraints, List.mem_cons, List.not_mem_nil, or_false] at member
  rcases member with rfl | rfl | rfl
  · exact List.all_eq_true.mpr fun job _ => decide_eq_true (sound.ids.countP_le_one job.id)
  · refine List.all_eq_true.mpr fun job _ => decide_eq_true ?_
    refine le_trans (le_of_eq ?_) (sound.slots.countP_le_one job.agentId).1
    apply List.countP_congr
    intro other _
    rw [isWaiting_iff, Bool.and_eq_true, decide_eq_true_eq, decide_eq_true_eq]
  · refine List.all_eq_true.mpr fun job _ => decide_eq_true ?_
    refine le_trans (le_of_eq ?_) (sound.slots.countP_le_one job.agentId).2
    apply List.countP_congr
    intro other _
    rw [isRunning_iff, Bool.and_eq_true, decide_eq_true_eq, decide_eq_true_eq]

/-- A statement that leaves the notes sound is executed. -/
theorem writeNotes_of_sound {change : List ObsidianNote → List ObsidianNote}
    (sound : SoundNotes (change store.notes)) :
    (writeNotes change).eval store = .ok ((), { store with notes := change store.notes }) :=
  Tx.eval_insert_ok.mpr ⟨noteConstraints_hold sound, rfl⟩

/-- A statement that leaves the outbox sound is executed. -/
theorem writeOutbox_of_sound {change : List ProjectionJob → List ProjectionJob}
    (sound : OutboxSound (change store.outbox)) :
    (writeOutbox change).eval store = .ok ((), { store with outbox := change store.outbox }) :=
  Tx.eval_insert_ok.mpr ⟨jobConstraints_hold sound, rfl⟩

/-- A request with a usable reason is taken. -/
theorem enqueueMemoryProjection_answers (env : NoteEnv) (input : EnqueueInput)
    (store : NoteStore) (usable : isProjectionReason (input.reason.getD "note-write") = true)
    (sound : OutboxSound store.outbox) (fresh : ∀ job ∈ store.outbox, job.id ≠ env.uuids 0) :
    ∃ answer final, (enqueueMemoryProjection env input).eval store = .ok (answer, final) := by
  have step : JobStep {} store.outbox
      (upsert (ProjectionJob.isWaiting input.agentId)
        (enqueueChange (input.reason.getD "note-write") env.now)
        (input.job (env.uuids 0) (input.reason.getD "note-write") env.now) store.outbox) :=
    upsert_step fresh
  simp only [enqueueMemoryProjection, Tx.eval_bind_ok, Tx.eval_require_ok, Tx.eval_read]
  exact ⟨_, _, (), store, ⟨usable, rfl⟩, (), _, writeOutbox_of_sound (step.sound sound), rfl⟩

/-- A note that leaves the notes sound is stored. -/
theorem createObsidianNote_answers (env : NoteEnv) (input : NoteInput) (store : NoteStore)
    (usable : isProjectionReason (input.projectionReason.getD "note-write") = true)
    (notes : SoundNotes (upsert input.isDuplicate (input.replaced env.now)
      (input.created (input.id.getD (env.uuids 1)) env.now) store.notes))
    (outbox : OutboxSound store.outbox) (fresh : ∀ job ∈ store.outbox, job.id ≠ env.uuids 0) :
    ∃ answer final, (createObsidianNote env input).eval store = .ok (answer, final) := by
  have queued : ∀ written : NoteStore, written.outbox = store.outbox →
      ∃ final, (queueProjection env input).eval written = .ok ((), final) := by
    intro written same
    simp only [queueProjection, Tx.eval_whenever_ok, Tx.eval_bind_ok]
    by_cases queues : input.queues = true
    · obtain ⟨job, final, enqueued⟩ := enqueueMemoryProjection_answers env
        { organizationId := input.organizationId, userId := input.userId
          agentId := input.agentId, reason := some (input.projectionReason.getD "note-write") }
        written usable (same ▸ outbox) (same ▸ fresh)
      exact ⟨final, .inl ⟨queues, job, final, enqueued, rfl⟩⟩
    · exact ⟨written, .inr ⟨queues, rfl⟩⟩
  obtain ⟨final, queued⟩ := queued
    { store with
      notes := upsert input.isDuplicate (input.replaced env.now)
        (input.created (input.id.getD (env.uuids 1)) env.now) store.notes } rfl
  simp only [createObsidianNote, Tx.eval_bind_ok, Tx.eval_read]
  exact ⟨_, final, (), _, writeNotes_of_sound notes, (), final, queued, rfl⟩

end Postgres

/-! ### Notes that are added -/

section Storing

variable {repository : Repository} {owner : NoteOwner} {surroundings : ImportEnv}
  {document : NoteDocument} {store : NoteStore}

/-- A note is in the way of a document when it is one of the Agent and has its slug. -/
theorem isDuplicate_inputOf {note : ObsidianNote} :
    (document.inputOf owner).isDuplicate note = true ↔
      owner.owns note ∧ note.slug = document.slug := by
  simp only [NoteInput.isDuplicate, Bool.and_eq_true, decide_eq_true_eq]
  exact Iff.rfl

/-- No note is in the way of a document. -/
theorem any_isDuplicate_inputOf {notes : List ObsidianNote} :
    notes.any (document.inputOf owner).isDuplicate = false ↔
      ∀ note ∈ notes, owner.owns note → note.slug ≠ document.slug := by
  rw [List.any_eq_false]
  apply forall₂_congr
  intro note _
  rw [isDuplicate_inputOf, not_and]

/-- A document whose slug no note of the Agent has is stored. -/
theorem createNote_answers (connected : surroundings.fault = none)
    (sound : SoundTables repository store) (fresh : FreshIds surroundings.env store)
    (importance : 1 ≤ document.importance ∧ document.importance ≤ 5)
    (free : store.notes.any (document.inputOf owner).isDuplicate = false) :
    ∃ final, createNote repository surroundings (document.inputOf owner) store =
      (.ok (), final) := by
  cases repository with
  | memory => exact ⟨_, rfl⟩
  | postgres =>
      obtain ⟨notes, outbox⟩ := sound rfl
      have usable : isProjectionReason "note-write" = true := by decide
      have joined : SoundNotes (upsert (document.inputOf owner).isDuplicate
          ((document.inputOf owner).replaced surroundings.env.now)
          ((document.inputOf owner).created (surroundings.env.uuids 1) surroundings.env.now)
          store.notes) := by
        unfold upsert
        rw [free, if_neg Bool.false_ne_true]
        refine notes.snoc fresh.note ?_ importance
        intro old member owned
        exact any_isDuplicate_inputOf.mp free old member owned
      obtain ⟨answer, final, ran⟩ := Postgres.createObsidianNote_answers surroundings.env
        (document.inputOf owner) store usable joined outbox fresh.job
      refine ⟨final, ?_⟩
      simp only [createNote, connected, Tx.inTransaction_none_ok ran]

/-- A document that joins the notes is added to them. -/
theorem addsNote_of_snoc {final : NoteStore} {id : String} {now : Nat}
    (fresh : ∀ old ∈ store.notes, old.id ≠ id)
    (joined : final.notes = store.notes ++ [(document.inputOf owner).created id now]) :
    AddsNote document owner store final where
  added := by
    refine ⟨(document.inputOf owner).created id now, ?_, ?_, rfl, rfl, fresh⟩
    · rw [joined]
      exact List.mem_append_right _ (List.mem_singleton_self _)
    · simp [NoteOwner.owns, ObsidianNote.isOf, NoteInput.created, NoteDocument.inputOf]
  more := by
    rw [joined, List.length_append]
    rfl
  kept := by
    intro old member
    refine ⟨old, ?_, rfl, rfl, rfl, rfl⟩
    rw [joined]
    exact List.mem_append_left _ member

end Storing

section Requests

variable [Normalization] {repository : Repository} {owner : NoteOwner}
  {surroundings : Nat → ImportEnv} {draft : NoteDraft} {document : NoteDocument}
  {start store : NoteStore}

/-- The fields of a document that decide where it is stored. -/
theorem createDocument_fields {now : Nat} (made : createDocument draft now = some document) :
    document.title = String.ofList (trim (chars draft.title)) ∧
      document.slug = obsidianSlug document.title ∧
      1 ≤ document.importance ∧ document.importance ≤ 5 := by
  simp only [createDocument] at made
  split at made
  · cases made
  · obtain rfl := Option.some.inj made
    refine ⟨rfl, rfl, ?_⟩
    dsimp only
    unfold importanceOf
    split <;> omega

/-- A draft is stored after those before it. -/
theorem storeDrafts_snoc (index : Nat) (drafts : List NoteDraft) (draft : NoteDraft)
    {first last : NoteStore}
    (ran : storeDrafts repository owner surroundings index drafts first = (.ok (), last)) :
    storeDrafts repository owner surroundings index (drafts ++ [draft]) first =
      storeDraft repository owner (surroundings (index + drafts.length)) draft last := by
  induction drafts generalizing index first with
  | nil =>
      obtain rfl : first = last := (Prod.mk.inj ran).2
      simp only [List.nil_append, storeDrafts, List.length_nil, Nat.add_zero]
      cases storeDraft repository owner (surroundings index) draft first with
      | mk answer final =>
          cases answer with
          | error failure => rfl
          | ok done => rfl
  | cons head rest ih =>
      simp only [storeDrafts] at ran
      split at ran
      · cases (Prod.mk.inj ran).1
      · rename_i done middle stored
        rw [List.cons_append, storeDrafts, stored]
        simp only
        rw [ih (index + 1) ran, List.length_cons, Nat.add_assoc, Nat.add_comm 1]

end Requests

/-! ### Titles with one slug -/

attribute [local instance] Normalization.ascii

/-- The Agent of a user. -/
def sampleOwner : NoteOwner :=
  { organizationId := "org-1", userId := "user-1", agentId := "agent-1" }

/-- A request for a note with a title. -/
def titled (title : String) : NoteRoute :=
  .memoryNotes { title := title, body := "Ship it." }

/-- The clock and the identifiers of a call, by its number. -/
def noteCall (number : Nat) : ImportEnv :=
  { written := 1000000 * number
    env := { now := 1000000 * number
             uuids := fun index => if index = 0 then "job-1" else "note-" ++ toString number } }

/-- Tables without notes. -/
def noNotes : NoteStore :=
  { notes := [], outbox := [] }

theorem noNotes_sound (repository : Repository) : SoundTables repository noNotes :=
  fun _ => ⟨⟨Keyed.nil, Keyed.nil, fun _ member => absurd member List.not_mem_nil⟩,
    OutboxSound.nil⟩

theorem noNotes_fresh (env : NoteEnv) : FreshIds env noNotes :=
  ⟨fun _ member => absurd member List.not_mem_nil,
    fun _ member => absurd member List.not_mem_nil⟩

/-- The draft of such a request. -/
def titledDraft (title : String) : NoteDraft :=
  MemoryNoteBody.draft { title := title, body := "Ship it." }

/-- A note is stored, and the next one, with another title, is not added. -/
def OverwritesAnother (repository : Repository) : Prop :=
  ∃ first second once,
    storeDraft repository sampleOwner (noteCall 1) (titledDraft "Plan A/B") noNotes =
        (.ok (), once) ∧
      createDocument (titledDraft "Plan A/B") 1000000 = some first ∧
      createDocument (titledDraft "Plan A B") 2000000 = some second ∧
      once.notes.map ObsidianNote.title = [first.title] ∧ first.title ≠ second.title ∧
      ¬∃ final, storeDraft repository sampleOwner (noteCall 2) (titledDraft "Plan A B") once =
            (.ok (), final) ∧ AddsNote second sampleOwner once final

theorem overwritesAnother (repository : Repository) : OverwritesAnother repository := by
  obtain ⟨first, made⟩ : ∃ document,
      createDocument (titledDraft "Plan A/B") 1000000 = some document :=
    createDocument_of_nonempty (by decide +kernel) (by decide +kernel)
  obtain ⟨second, remade⟩ : ∃ document,
      createDocument (titledDraft "Plan A B") 2000000 = some document :=
    createDocument_of_nonempty (by decide +kernel) (by decide +kernel)
  obtain ⟨title, slug, importance⟩ := createDocument_fields made
  obtain ⟨title', slug', -⟩ := createDocument_fields remade
  obtain ⟨once, stored⟩ : ∃ once, createNote repository (noteCall 1)
      (first.inputOf sampleOwner) noNotes = (.ok (), once) :=
    createNote_answers rfl (noNotes_sound repository) (noNotes_fresh _) importance rfl
  obtain ⟨now, joined⟩ : ∃ now, once.notes =
      [(first.inputOf sampleOwner).created ((noteCall 1).env.uuids 1) now] := by
    rcases createNote_ok rfl stored with ⟨-, now, joined⟩ | ⟨present, -⟩
    · exact ⟨now, joined⟩
    · cases present
  have same : first.slug = second.slug := by
    rw [slug, title, slug', title']
    decide +kernel
  refine ⟨first, second, once, ?_, made, remade, ?_, ?_, ?_⟩
  · rw [storeDraft, show (noteCall 1).written = 1000000 from rfl, made]
    exact stored
  · rw [joined]
    rfl
  · rw [title, title']
    decide +kernel
  · rintro ⟨final, again, adds⟩
    rw [storeDraft, show (noteCall 2).written = 2000000 from rfl, remade] at again
    rcases createNote_ok rfl again with ⟨absent, -⟩ | ⟨-, length, -⟩
    · rw [joined] at absent
      refine any_isDuplicate_inputOf.mp absent _ (List.mem_singleton_self _) ?_ same
      simp [NoteOwner.owns, ObsidianNote.isOf, NoteInput.created, NoteDocument.inputOf]
    · have more := adds.more
      omega

end BairuiPlatform
