/-
Module: BairuiPlatform.Notes.Memory
Purpose: The methods of MemoryPlatformRepository on notes and on the outbox of their
  projection.
Trusted boundary: none
Main exports: Memory.createObsidianNote, Memory.updateObsidianNote, Memory.deleteObsidianNote,
  Memory.markObsidianProjection, Memory.enqueueMemoryProjection,
  Memory.leaseMemoryProjectionJobs, Memory.completeMemoryProjectionJob,
  Memory.retryMemoryProjectionJob
-/
import BairuiPlatform.Notes.Rows

namespace BairuiPlatform.Memory

open Foundations

/-- What a method answers or throws, and the store after it. -/
abbrev NoteMethod (α : Type) := NoteStore → Except NoteFailure α × NoteStore

/-- The outbox after a request: merged into the job that waits, or with a new job. -/
def enqueued (env : NoteEnv) (input : EnqueueInput) (reason : String)
    (outbox : List ProjectionJob) : List ProjectionJob :=
  let now := isoNow env.now
  if outbox.any (ProjectionJob.isWaiting input.agentId) then
    updateFirst (ProjectionJob.isWaiting input.agentId)
      (fun job => { enqueueChange reason now job with completedAt := none }) outbox
  else outbox ++ [input.job (env.uuids 0) reason now]

/-- `enqueueMemoryProjection`. -/
def enqueueMemoryProjection (env : NoteEnv) (input : EnqueueInput) :
    NoteMethod (Option ProjectionJob) := fun store =>
  let reason := input.reason.getD "note-write"
  if isProjectionReason reason then
    let outbox := enqueued env input reason store.outbox
    (.ok (outbox.find? (ProjectionJob.isWaiting input.agentId)), { store with outbox := outbox })
  else (.error invalidReason, store)

/-- The request that a written note makes, unless it says not to. -/
def queueProjection (env : NoteEnv) (input : NoteInput) (note : Option ObsidianNote) :
    NoteMethod (Option ObsidianNote) := fun store =>
  if input.queues then
    match enqueueMemoryProjection env
        { organizationId := input.organizationId, userId := input.userId
          agentId := input.agentId, reason := some (input.projectionReason.getD "note-write") }
        store with
    | (.ok _, final) => (.ok note, final)
    | (.error failure, final) => (.error failure, final)
  else (.ok note, store)

/-- `createObsidianNote`. -/
def createObsidianNote (env : NoteEnv) (input : NoteInput) :
    NoteMethod (Option ObsidianNote) := fun store =>
  let now := isoNow env.now
  let notes :=
    if store.notes.any input.isDuplicate then
      updateFirst input.isDuplicate
        (fun note =>
          { input.replaced now note with id := input.id.getD note.id, slug := input.slug })
        store.notes
    else store.notes ++ [input.created (input.id.getD (env.uuids 1)) now]
  queueProjection env input (notes.find? input.isDuplicate) { store with notes := notes }

/-- `updateObsidianNote`. -/
def updateObsidianNote (env : NoteEnv) (noteId : String) (input : NoteInput) :
    NoteMethod (Option ObsidianNote) := fun store =>
  let own := ObsidianNote.isNote input.organizationId input.userId input.agentId noteId
  if store.notes.any own then
    let notes := updateFirst own (input.updated (isoNow env.now)) store.notes
    queueProjection env input (notes.find? own) { store with notes := notes }
  else (.ok none, store)

/-- `deleteObsidianNote`. -/
def deleteObsidianNote (env : NoteEnv) (organizationId userId agentId noteId : String) :
    NoteMethod Bool := fun store =>
  let own := ObsidianNote.isNote organizationId userId agentId noteId
  if store.notes.any own then
    let deleted := { store with notes := store.notes.eraseP own }
    match enqueueMemoryProjection env
        { organizationId := organizationId, userId := userId, agentId := agentId
          reason := some "note-delete" }
        deleted with
    | (.ok _, final) => (.ok true, final)
    | (.error failure, final) => (.error failure, final)
  else (.ok false, store)

/-- The status that a mark gives to a note. -/
def marked (mark : ProjectionMark) (now : Nat) (note : ObsidianNote) : ObsidianNote :=
  if mark.conflictNoteIds.contains note.id then { note with hermesSyncStatus := .conflict }
  else if mark.includedNoteIds.contains note.id then
    { note with
      hermesSyncStatus := .materialized, hermesSyncedRevision := some note.revision
      hermesSyncedAt := some now }
  else { note with hermesSyncStatus := .excluded }

/-- `markObsidianProjection`. -/
def markObsidianProjection (env : NoteEnv) (mark : ProjectionMark) (store : NoteStore) :
    NoteStore :=
  { store with notes := updateWhere mark.concerns (marked mark (isoNow env.now)) store.notes }

/-- `listObsidianNotes` without a search text: the latest note first. -/
def listObsidianNotes (organizationId userId agentId : String) (store : NoteStore) :
    List ObsidianNote :=
  (store.notes.filter (ObsidianNote.isOf organizationId userId agentId)).reverse

/-! ### The outbox -/

/-- A job whose lease ran out is superseded by one that waits, or waits again. -/
def reclaim (now : Nat) (outbox : List ProjectionJob) (position : Nat) : List ProjectionJob :=
  match outbox[position]? with
  | none => outbox
  | some expired =>
      let newer := outbox.any fun job =>
        decide (job.id ≠ expired.id) && job.isWaiting expired.agentId
      outbox.modify position
        (if newer then supersedeChange now
          else fun job => { reclaimChange now job with completedAt := none })

/-- The positions of the jobs whose lease ran out. -/
def expiredPositions (now : Nat) (outbox : List ProjectionJob) : List Nat :=
  (outbox.zipIdx.filter fun entry => entry.1.isExpired dateParse now).map (·.2)

/-- The candidates of a lease call in their order. -/
def candidatePositions (now : Nat) (outbox : List ProjectionJob) : List Nat :=
  positionsOf (ProjectionJob.isReady dateParse now)
    (fun first second => dateParse first.availableAt < dateParse second.availableAt ∨
      (dateParse first.availableAt = dateParse second.availableAt ∧
        dateParse first.createdAt ≤ dateParse second.createdAt))
    outbox.length outbox

/-- The loop over the candidates: the positions of the jobs that it leased, and the outbox. -/
def leaseCandidates (env : NoteEnv) (input : JobLeaseInput) :
    List Nat → List Nat → List ProjectionJob → List Nat × List ProjectionJob
  | [], leased, outbox => (leased, outbox)
  | position :: positions, leased, outbox =>
      if input.jobs ≤ leased.length then (leased, outbox)
      else
        match outbox[position]? with
        | none => leaseCandidates env input positions leased outbox
        | some job =>
            if outbox.any (ProjectionJob.isRunning job.agentId) then
              leaseCandidates env input positions leased outbox
            else
              leaseCandidates env input positions (leased ++ [position])
                (outbox.modify position
                  (leaseChange (env.uuids leased.length)
                    (ofMillis (dateNow env.now + input.seconds * 1000)) (isoNow env.now)))

/-- `leaseMemoryProjectionJobs`. -/
def leaseMemoryProjectionJobs (env : NoteEnv) (input : JobLeaseInput) (store : NoteStore) :
    List ProjectionJob × NoteStore :=
  let now := dateNow env.now
  let reclaimed := (expiredPositions now store.outbox).foldl (reclaim (isoNow env.now))
    store.outbox
  let leased := leaseCandidates env input (candidatePositions now reclaimed) [] reclaimed
  (leased.1.filterMap (leased.2[·]?), { store with outbox := leased.2 })

/-- `completeMemoryProjectionJob`. -/
def completeMemoryProjectionJob (env : NoteEnv) (input : JobCompletion) (store : NoteStore) :
    NoteStore :=
  { store with
    outbox := updateFirst (ProjectionJob.isHeld input.id input.leaseToken)
      (completeChange input (isoNow env.now)) store.outbox }

/-- `retryMemoryProjectionJob`. -/
def retryMemoryProjectionJob (env : NoteEnv) (input : JobRetry) (store : NoteStore) : NoteStore :=
  match store.outbox.find? (ProjectionJob.isHeld input.id input.leaseToken) with
  | none => store
  | some current =>
      let newer := store.outbox.any fun job =>
        decide (job.id ≠ current.id) && job.isWaiting current.agentId
      { store with
        outbox := updateFirst (ProjectionJob.isHeld input.id input.leaseToken)
          (retryChange input newer (isoNow env.now) (ofMillis (dateNow env.now + input.delay)))
          store.outbox }

end BairuiPlatform.Memory
