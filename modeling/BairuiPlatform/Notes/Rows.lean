/-
Module: BairuiPlatform.Notes.Rows
Purpose: The notes of an Agent and the outbox of their projection, with the changes that both
  repositories make to the rows.
Trusted boundary: random identifiers are not repeated
Main exports: ObsidianNote, ProjectionJob, NoteStore, NoteInput, enqueueChange, reclaimChange,
  leaseChange, completeChange, retryChange
-/
import BairuiPlatform.Clock
import BairuiPlatform.Foundations.Slots
import BairuiPlatform.Json

namespace BairuiPlatform

open Foundations

/-! ### Notes -/

/-- `MEMORY_KINDS`. -/
inductive MemoryKind where
  | knowledge | fact | preference | constraint | procedure | person | project | event
deriving Repr, DecidableEq

/-- `HERMES_MEMORY_TARGETS`. -/
inductive HermesTarget where
  | auto | memory | user | none
deriving Repr, DecidableEq

/-- `obsidian_notes.hermes_sync_status`. -/
inductive HermesSyncStatus where
  | pending | materialized | excluded | conflict | failed
deriving Repr, DecidableEq

/-- `obsidian_notes`. -/
structure ObsidianNote where
  id : String
  organizationId : String
  userId : String
  agentId : String
  title : String
  slug : String
  markdown : String
  frontmatter : Json
  wikilinks : List String
  memoryKind : MemoryKind
  importance : Nat
  hermesTarget : HermesTarget
  sourceRef : String
  revision : Nat
  hermesSyncStatus : HermesSyncStatus
  hermesSyncedRevision : Option Nat
  hermesSyncedAt : Option Nat
  createdAt : Nat
  updatedAt : Nat
deriving Repr

/-- The argument of `createObsidianNote` and `updateObsidianNote` of a repository. -/
structure NoteInput where
  id : Option String := none
  organizationId : String
  userId : String
  agentId : String
  title : String
  slug : String
  markdown : String
  frontmatter : Json
  wikilinks : List String
  memoryKind : Option MemoryKind := none
  importance : Option Nat := none
  hermesTarget : Option HermesTarget := none
  sourceRef : Option String := none
  queueProjection : Option Bool := none
  projectionReason : Option String := none

/-- A note belongs to an Agent of a user. -/
def ObsidianNote.isOf (organizationId userId agentId : String) (note : ObsidianNote) : Bool :=
  note.organizationId = organizationId && note.userId = userId && note.agentId = agentId

/-- The note that a call names. -/
def ObsidianNote.isNote (organizationId userId agentId noteId : String) (note : ObsidianNote) :
    Bool :=
  note.id = noteId && note.isOf organizationId userId agentId

/-- The note with the slug of an input. -/
def NoteInput.isDuplicate (input : NoteInput) (note : ObsidianNote) : Bool :=
  note.isOf input.organizationId input.userId input.agentId && note.slug = input.slug

/-- `queueProjection !== false`. -/
def NoteInput.queues (input : NoteInput) : Bool :=
  input.queueProjection ≠ some false

/-- The note that an input creates. -/
def NoteInput.created (input : NoteInput) (id : String) (now : Nat) : ObsidianNote :=
  { id := id, organizationId := input.organizationId, userId := input.userId
    agentId := input.agentId, title := input.title, slug := input.slug
    markdown := input.markdown, frontmatter := input.frontmatter, wikilinks := input.wikilinks
    memoryKind := input.memoryKind.getD .knowledge, importance := input.importance.getD 3
    hermesTarget := input.hermesTarget.getD .auto
    sourceRef := input.sourceRef.getD "bairui-user", revision := 1
    hermesSyncStatus := .pending, hermesSyncedRevision := none, hermesSyncedAt := none
    createdAt := now, updatedAt := now }

/-- The note with the slug of an input, after the input replaced its content. -/
def NoteInput.replaced (input : NoteInput) (now : Nat) (note : ObsidianNote) : ObsidianNote :=
  { note with
    title := input.title, markdown := input.markdown, frontmatter := input.frontmatter
    wikilinks := input.wikilinks, memoryKind := input.memoryKind.getD .knowledge
    importance := input.importance.getD 3, hermesTarget := input.hermesTarget.getD .auto
    sourceRef := input.sourceRef.getD "bairui-user", revision := note.revision + 1
    hermesSyncStatus := .pending, updatedAt := now }

/-- A note after an update. -/
def NoteInput.updated (input : NoteInput) (now : Nat) (note : ObsidianNote) : ObsidianNote :=
  { note with
    title := input.title, slug := input.slug, markdown := input.markdown
    frontmatter := input.frontmatter, wikilinks := input.wikilinks
    memoryKind := input.memoryKind.getD note.memoryKind
    importance := input.importance.getD note.importance
    hermesTarget := input.hermesTarget.getD note.hermesTarget
    sourceRef := input.sourceRef.getD note.sourceRef, revision := note.revision + 1
    hermesSyncStatus := .pending, updatedAt := now }

/-- The argument of `markObsidianProjection`. -/
structure ProjectionMark where
  organizationId : String
  userId : String
  agentId : String
  includedNoteIds : List String
  conflictNoteIds : List String
  noteRevisions : List (String × Nat)

/-- `noteRevisions[id]`. -/
def ProjectionMark.revision? (mark : ProjectionMark) (id : String) : Option Nat :=
  (mark.noteRevisions.reverse.find? fun entry => decide (entry.1 = id)).map (·.2)

/-- A note that a mark is about. -/
def ProjectionMark.concerns (mark : ProjectionMark) (note : ObsidianNote) : Bool :=
  note.isOf mark.organizationId mark.userId mark.agentId &&
    mark.revision? note.id = some note.revision

/-! ### The outbox -/

/-- `memory_projection_outbox.state`. -/
inductive JobState where
  | pending | processing | retry | completed | dead
deriving Repr, DecidableEq

/-- The slot of a job. -/
def JobState.phase : JobState → SlotPhase
  | pending | retry => .waiting
  | processing => .running
  | completed | dead => .ended

/-- `memory_projection_outbox`. -/
structure ProjectionJob where
  id : String
  organizationId : String
  userId : String
  agentId : String
  reason : String
  state : JobState
  attempts : Nat
  availableAt : Nat
  leaseToken : Option String
  leaseExpiresAt : Option Nat
  lastErrorCode : Option String
  resultSummary : Json
  createdAt : Nat
  updatedAt : Nat
  completedAt : Option Nat
deriving Repr

/-- The slot that a job occupies. -/
def ProjectionJob.phase (job : ProjectionJob) : SlotPhase :=
  job.state.phase

/-- The tables of notes and of their projection. -/
structure NoteStore where
  notes : List ObsidianNote
  outbox : List ProjectionJob

/-- The argument of `enqueueMemoryProjection`. -/
structure EnqueueInput where
  organizationId : String
  userId : String
  agentId : String
  reason : Option String := none

/-- The argument of `leaseMemoryProjectionJobs`. -/
structure JobLeaseInput where
  limit : Option Int := none
  leaseSeconds : Option Int := none

/-- The argument of `completeMemoryProjectionJob`. -/
structure JobCompletion where
  id : String
  leaseToken : String
  resultSummary : Option Json := none

/-- The argument of `retryMemoryProjectionJob`. -/
structure JobRetry where
  id : String
  leaseToken : String
  errorCode : Option String := none
  maxAttempts : Option Int := none
  delayMs : Option Int := none

/-- The clock and the random values of a call, and the jobs that other transactions have
locked. -/
structure NoteEnv where
  now : Nat
  uuids : Nat → String
  locked : String → Bool := fun _ => false

/-- Why a method on notes throws. -/
inductive NoteFailure where
  | thrown (message : String)
  | violation (constraint : String)
deriving Repr, DecidableEq

/-- `/^[a-z][a-z0-9._-]{0,63}$/`. -/
def isProjectionReason (reason : String) : Bool :=
  match chars reason with
  | [] => false
  | first :: rest =>
      first.isLower && rest.length ≤ 63 &&
        rest.all fun c => c.isLower || c.isDigit || ['.', '_', '-'].contains c

/-- What a call that names an unusable reason throws. -/
def invalidReason : NoteFailure :=
  .thrown "Invalid memory projection reason"

/-- The number of jobs that a lease call may hand out. -/
def JobLeaseInput.jobs (input : JobLeaseInput) : Nat :=
  clamped 1 1 20 input.limit

/-- The lease time of a call, in seconds. -/
def JobLeaseInput.seconds (input : JobLeaseInput) : Nat :=
  clamped 15 60 600 input.leaseSeconds

/-- `Math.max(1, Number(maxAttempts) || 8)`. -/
def JobRetry.attempts (input : JobRetry) : Nat :=
  match input.maxAttempts with
  | some value => if value = 0 then 8 else max 1 value.toNat
  | none => 8

/-- `Math.max(0, Number(delayMs) || 0)`. -/
def JobRetry.delay (input : JobRetry) : Nat :=
  (input.delayMs.getD 0).toNat

/-- `{ status: "superseded" }`. -/
def superseded : Json :=
  .obj [("status", .str "superseded")]

/-- A job of the Agent is pending or waits for its next attempt. -/
def ProjectionJob.isWaiting (agentId : String) (job : ProjectionJob) : Bool :=
  job.agentId = agentId && [JobState.pending, .retry].contains job.state

/-- A job of the Agent is leased. -/
def ProjectionJob.isRunning (agentId : String) (job : ProjectionJob) : Bool :=
  job.agentId = agentId && job.state = .processing

/-- The leased job with the token of a call. -/
def ProjectionJob.isHeld (id leaseToken : String) (job : ProjectionJob) : Bool :=
  job.id = id && job.state = .processing && job.leaseToken = some leaseToken

/-- The lease of a job has run out. -/
def ProjectionJob.isExpired (time : Nat → Nat) (now : Nat) (job : ProjectionJob) : Bool :=
  job.state = .processing && job.leaseExpiresAt.any fun instant => time instant ≤ now

/-- A job that may be leased. -/
def ProjectionJob.isReady (time : Nat → Nat) (now : Nat) (job : ProjectionJob) : Bool :=
  [JobState.pending, .retry].contains job.state && time job.availableAt ≤ now

/-- A new job. -/
def EnqueueInput.job (input : EnqueueInput) (id reason : String) (now : Nat) : ProjectionJob :=
  { id := id, organizationId := input.organizationId, userId := input.userId
    agentId := input.agentId, reason := reason, state := .pending, attempts := 0
    availableAt := now, leaseToken := none, leaseExpiresAt := none, lastErrorCode := none
    resultSummary := .obj [], createdAt := now, updatedAt := now, completedAt := none }

/-- A waiting job after another request was merged into it. -/
def enqueueChange (reason : String) (now : Nat) (job : ProjectionJob) : ProjectionJob :=
  { job with
    reason := reason, state := .pending, attempts := 0, availableAt := now
    lastErrorCode := none, resultSummary := .obj [], updatedAt := now }

/-- A job whose lease ran out, when another job of the Agent waits. -/
def supersedeChange (now : Nat) (job : ProjectionJob) : ProjectionJob :=
  { job with
    state := .completed, resultSummary := superseded, completedAt := some now
    leaseToken := none, leaseExpiresAt := none, updatedAt := now }

/-- A job whose lease ran out, when no other job of the Agent waits. -/
def reclaimChange (now : Nat) (job : ProjectionJob) : ProjectionJob :=
  { job with
    state := .retry, availableAt := now, leaseToken := none, leaseExpiresAt := none
    updatedAt := now }

/-- A job after it was leased. -/
def leaseChange (leaseToken : String) (expiresAt now : Nat) (job : ProjectionJob) :
    ProjectionJob :=
  { job with
    state := .processing, attempts := job.attempts + 1, leaseToken := some leaseToken
    leaseExpiresAt := some expiresAt, updatedAt := now }

/-- A job after its projection was applied. -/
def completeChange (input : JobCompletion) (now : Nat) (job : ProjectionJob) : ProjectionJob :=
  { job with
    state := .completed, leaseToken := none, leaseExpiresAt := none, lastErrorCode := none
    resultSummary := input.resultSummary.getD (.obj []), completedAt := some now
    updatedAt := now }

/-- The state of a job after a failed attempt. -/
def JobRetry.state (input : JobRetry) (newer : Bool) (job : ProjectionJob) : JobState :=
  if newer then .completed else if input.attempts ≤ job.attempts then .dead else .retry

/-- A job after a failed attempt. -/
def retryChange (input : JobRetry) (newer : Bool) (now availableAt : Nat) (job : ProjectionJob) :
    ProjectionJob :=
  let state := input.state newer job
  { job with
    state := state, leaseToken := none, leaseExpiresAt := none
    lastErrorCode := input.errorCode
    resultSummary := if newer then superseded else .obj []
    availableAt := if state = .retry then availableAt else job.availableAt
    completedAt := if [JobState.completed, .dead].contains state then some now else none
    updatedAt := now }

end BairuiPlatform
