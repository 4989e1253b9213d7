/-
Module: BairuiPlatform.Notes.Postgres
Purpose: The methods of PostgresPlatformRepository on notes and on the outbox of their
  projection.
Trusted boundary: foreign keys to organizations, users and agents hold; rows that a query does
  not order come in the order of the table
Main exports: Postgres.createObsidianNote, Postgres.updateObsidianNote,
  Postgres.deleteObsidianNote, Postgres.markObsidianProjection, Postgres.listObsidianNotes,
  Postgres.enqueueMemoryProjection, Postgres.leaseMemoryProjectionJob,
  Postgres.completeMemoryProjectionJob, Postgres.retryMemoryProjectionJob,
  Postgres.retrySuperseded
-/
import BairuiPlatform.Foundations.Accumulation
import BairuiPlatform.Foundations.Transaction
import BairuiPlatform.Notes.Rows

namespace BairuiPlatform.Postgres

open Foundations

/-- A method on its connection. -/
abbrev NoteMethod (α : Type) := Tx NoteStore NoteFailure α

/-! ### Constraints -/

/-- The unique indexes of `memory_projection_outbox`. -/
def jobConstraints (outbox : List ProjectionJob) : List (Bool × NoteFailure) :=
  [(outbox.all fun job => (outbox.countP fun other => other.id = job.id) ≤ 1,
      .violation "memory_projection_outbox_pkey"),
    (outbox.all fun job => (outbox.countP (ProjectionJob.isWaiting job.agentId)) ≤ 1,
      .violation "memory_projection_outbox_pending_agent_idx"),
    (outbox.all fun job => (outbox.countP (ProjectionJob.isRunning job.agentId)) ≤ 1,
      .violation "memory_projection_outbox_processing_agent_idx")]

/-- A statement on `memory_projection_outbox`. -/
def writeOutbox (change : List ProjectionJob → List ProjectionJob) : NoteMethod Unit :=
  Tx.insert (fun store => jobConstraints (change store.outbox))
    fun store => { store with outbox := change store.outbox }

/-- The unique indexes and the checks of `obsidian_notes`. -/
def noteConstraints (notes : List ObsidianNote) : List (Bool × NoteFailure) :=
  [(notes.all fun note => (notes.countP fun other => other.id = note.id) ≤ 1,
      .violation "obsidian_notes_pkey"),
    (notes.all fun note =>
        (notes.countP fun other =>
          other.isOf note.organizationId note.userId note.agentId && other.slug = note.slug) ≤ 1,
      .violation "obsidian_notes_agent_slug_idx"),
    (notes.all fun note => 1 ≤ note.importance && note.importance ≤ 5,
      .violation "obsidian_notes_importance_check")]

/-- A statement on `obsidian_notes`. -/
def writeNotes (change : List ObsidianNote → List ObsidianNote) : NoteMethod Unit :=
  Tx.insert (fun store => noteConstraints (change store.notes))
    fun store => { store with notes := change store.notes }

/-! ### Notes -/

/-- `enqueueMemoryProjectionWithClient`. -/
def enqueueMemoryProjection (env : NoteEnv) (input : EnqueueInput) :
    NoteMethod (Option ProjectionJob) := do
  let reason := input.reason.getD "note-write"
  Tx.require (isProjectionReason reason = true) invalidReason
  writeOutbox (upsert (ProjectionJob.isWaiting input.agentId) (enqueueChange reason env.now)
    (input.job (env.uuids 0) reason env.now))
  Tx.read fun store => store.outbox.find? (ProjectionJob.isWaiting input.agentId)

/-- The request that a written note makes, unless it says not to. -/
def queueProjection (env : NoteEnv) (input : NoteInput) : NoteMethod Unit :=
  Tx.whenever (input.queues = true) do
    let _ ← enqueueMemoryProjection env
      { organizationId := input.organizationId, userId := input.userId
        agentId := input.agentId, reason := some (input.projectionReason.getD "note-write") }
    return ()

/-- `createObsidianNote`. -/
def createObsidianNote (env : NoteEnv) (input : NoteInput) :
    NoteMethod (Option ObsidianNote) := do
  writeNotes (upsert input.isDuplicate (input.replaced env.now)
    (input.created (input.id.getD (env.uuids 1)) env.now))
  queueProjection env input
  Tx.read fun store => store.notes.find? input.isDuplicate

/-- `updateObsidianNote`. -/
def updateObsidianNote (env : NoteEnv) (noteId : String) (input : NoteInput) :
    NoteMethod (Option ObsidianNote) := do
  let own := ObsidianNote.isNote input.organizationId input.userId input.agentId noteId
  writeNotes (updateWhere own (input.updated env.now))
  let updated ← Tx.read fun store => store.notes.find? own
  Tx.whenever (updated.isSome = true) (queueProjection env input)
  return updated

/-- `deleteObsidianNote`. -/
def deleteObsidianNote (env : NoteEnv) (organizationId userId agentId noteId : String) :
    NoteMethod Bool := do
  let own := ObsidianNote.isNote organizationId userId agentId noteId
  let rowCount ← Tx.read fun store => store.notes.countP own
  Tx.write fun store => { store with notes := store.notes.filter fun note => !own note }
  Tx.whenever (rowCount = 1) do
    let _ ← enqueueMemoryProjection env
      { organizationId := organizationId, userId := userId, agentId := agentId
        reason := some "note-delete" }
    return ()
  return rowCount = 1

/-- The status that a mark gives to a note. -/
def marked (mark : ProjectionMark) (now : Nat) (note : ObsidianNote) : ObsidianNote :=
  let included := mark.includedNoteIds.contains note.id
  { note with
    hermesSyncStatus :=
      if mark.conflictNoteIds.contains note.id then .conflict
      else if included then .materialized else .excluded
    hermesSyncedRevision := if included then some note.revision else note.hermesSyncedRevision
    hermesSyncedAt := if included then some now else note.hermesSyncedAt }

/-- `markObsidianProjection`. -/
def markObsidianProjection (env : NoteEnv) (mark : ProjectionMark) (store : NoteStore) :
    NoteStore :=
  { store with notes := updateWhere mark.concerns (marked mark env.now) store.notes }

/-- `listObsidianNotes` without a search text: the note that was updated last comes first. -/
def listObsidianNotes (organizationId userId agentId : String) (store : NoteStore) :
    List ObsidianNote :=
  (store.notes.filter (ObsidianNote.isOf organizationId userId agentId)).insertionSort
    fun first second => second.updatedAt ≤ first.updatedAt

/-! ### The outbox -/

/-- The first two statements of an iteration: the jobs whose leases ran out are superseded by
jobs that wait, or wait again. -/
def reclaimExpired (env : NoteEnv) : NoteMethod Unit := do
  writeOutbox fun outbox =>
    updateWhere
      (fun job => job.isExpired id env.now && outbox.any (ProjectionJob.isWaiting job.agentId))
      (supersedeChange env.now) outbox
  writeOutbox (updateWhere (ProjectionJob.isExpired id env.now) (reclaimChange env.now))

/-- A job that the query of an iteration selects. -/
def isCandidate (env : NoteEnv) (outbox : List ProjectionJob) (job : ProjectionJob) : Bool :=
  job.isReady id env.now && !env.locked job.id &&
    !outbox.any (ProjectionJob.isRunning job.agentId)

/-- The job that the query of an iteration answers. -/
def candidate? (env : NoteEnv) (outbox : List ProjectionJob) : Option ProjectionJob :=
  ((positionsOf (isCandidate env outbox)
    (fun first second => first.availableAt < second.availableAt ∨
      (first.availableAt = second.availableAt ∧ first.createdAt ≤ second.createdAt))
    1 outbox).filterMap (outbox[·]?)).head?

/-- The other statements of an iteration: the first candidate is leased. -/
def leaseCandidate (env : NoteEnv) (input : JobLeaseInput) :
    NoteMethod (Option ProjectionJob) := do
  let selected ← Tx.read fun store => candidate? env store.outbox
  match selected with
  | none => return none
  | some candidate =>
      writeOutbox (updateWhere (fun job => job.id = candidate.id)
        (leaseChange (env.uuids 0) (env.now + input.seconds * 1000000) env.now))
      Tx.read fun store => store.outbox.find? fun job => job.id = candidate.id

/-- One iteration of the loop of `leaseMemoryProjectionJobs`. -/
def leaseMemoryProjectionJob (env : NoteEnv) (input : JobLeaseInput) :
    NoteMethod (Option ProjectionJob) := do
  reclaimExpired env
  leaseCandidate env input

/-- `completeMemoryProjectionJob`. -/
def completeMemoryProjectionJob (env : NoteEnv) (input : JobCompletion) : NoteMethod Unit :=
  writeOutbox (updateWhere (ProjectionJob.isHeld input.id input.leaseToken)
    (completeChange input env.now))

/-- The transaction of `retryMemoryProjectionJob`. -/
def retryMemoryProjectionJob (env : NoteEnv) (input : JobRetry) : NoteMethod Unit := do
  let held ← Tx.read fun store =>
    store.outbox.find? (ProjectionJob.isHeld input.id input.leaseToken)
  match held with
  | none => return ()
  | some current =>
      let newer ← Tx.read fun store => store.outbox.any fun job =>
        decide (job.id ≠ current.id) && job.isWaiting current.agentId
      writeOutbox
        (updateWhere (fun job => job.id = input.id && job.leaseToken = some input.leaseToken)
          (retryChange input newer env.now (env.now + input.delay * 1000)))

/-- The statement of `retryMemoryProjectionJob` after a unique index was violated. -/
def retrySuperseded (env : NoteEnv) (input : JobRetry) : NoteMethod Unit :=
  writeOutbox fun outbox =>
    updateWhere
      (fun job => job.isHeld input.id input.leaseToken &&
        outbox.any fun newer => decide (newer.id ≠ job.id) && newer.isWaiting job.agentId)
      (fun job => { supersedeChange env.now job with lastErrorCode := input.errorCode }) outbox

end BairuiPlatform.Postgres
