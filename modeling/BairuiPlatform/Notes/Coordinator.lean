/-
Module: BairuiPlatform.Notes.Coordinator
Purpose: synchronizeAgentMemory: the snapshot of a runtime, the import of its own entries, the
  projection that is applied and the mark of the notes.
Trusted boundary: the runtime names an entry by the SHA-256 digest of its content
Main exports: HexDigest, MemorySnapshot, conflictsOf, importsOf, importEntries, SyncPlan, planOf,
  RuntimeMemory, preparePlan, SyncPlan.execute, synchronizeAgentMemory
-/
import BairuiPlatform.Notes.Memory
import BairuiPlatform.Notes.Postgres
import BairuiPlatform.Notes.Projection
import BairuiPlatform.Policy
import BairuiPlatform.Schema

namespace BairuiPlatform

open Foundations

/-! ### Snapshots -/

/-- A digest in hexadecimal digits. -/
structure HexDigest where
  text : String
  digits : (chars text).all isHexDigit = true
deriving DecidableEq

/-- An entry of a memory file. -/
structure MemoryEntry where
  content : String
  sha256 : HexDigest
deriving DecidableEq

/-- An entry that an earlier projection wrote. -/
structure ManifestEntry where
  noteId : String
  sha256 : HexDigest
deriving DecidableEq

/-- A list for each memory file. Either may be missing. -/
structure MemoryFiles (α : Type) where
  memory : Option (List α) := none
  user : Option (List α) := none

/-- `files[target]?.entries ?? []`. -/
def MemoryFiles.entries {α : Type} (files : MemoryFiles α) : MemoryTarget → List α
  | .memory => files.memory.getD []
  | .user => files.user.getD []

/-- The entries of both files, with their files. -/
def MemoryFiles.all {α : Type} (files : MemoryFiles α) : List (MemoryTarget × α) :=
  memoryTargets.flatMap fun target => (files.entries target).map fun entry => (target, entry)

/-- The answer to `memory.snapshot`. -/
structure MemorySnapshot where
  digest : String
  projection : Option (MemoryFiles ManifestEntry)
  files : MemoryFiles MemoryEntry

/-- The manifest of a snapshot. -/
def MemorySnapshot.manifest (snapshot : MemorySnapshot) : MemoryFiles ManifestEntry :=
  snapshot.projection.getD {}

/-- An entry with the digest is in a file. -/
def MemorySnapshot.holds (snapshot : MemorySnapshot) (target : MemoryTarget)
    (sha256 : HexDigest) : Bool :=
  (snapshot.files.entries target).any fun entry => entry.sha256 = sha256

/-- An entry of the manifest that its file no longer holds. -/
def MemorySnapshot.isMissing (snapshot : MemorySnapshot)
    (listed : MemoryTarget × ManifestEntry) : Bool :=
  !snapshot.holds listed.1 listed.2.sha256

/-- The notes whose projected entries are missing. -/
def conflictsOf (snapshot : MemorySnapshot) : List String :=
  distinct ((snapshot.manifest.all.filter snapshot.isMissing).map fun listed => listed.2.noteId)

/-- `projectedHashes.has(sha256)`. -/
def MemorySnapshot.isProjected (snapshot : MemorySnapshot) (sha256 : HexDigest) : Bool :=
  snapshot.manifest.all.any fun listed => listed.2.sha256 = sha256

/-! ### Imports -/

/-- An entry with its file. -/
abbrev NativeEntry := MemoryTarget × MemoryEntry

/-- The source reference of an entry that the runtime wrote itself. -/
def nativeSource (found : NativeEntry) : String :=
  "hermes-native:" ++ found.1.name ++ ":" ++ found.2.sha256.text

/-- The entries that a loop imports, when it starts with known sources. -/
def importsFrom (snapshot : MemorySnapshot) :
    List String → List NativeEntry → List NativeEntry
  | _, [] => []
  | known, native :: rest =>
      if snapshot.isProjected native.2.sha256 then importsFrom snapshot known rest
      else if known.contains (nativeSource native) then importsFrom snapshot known rest
      else native :: importsFrom snapshot (nativeSource native :: known) rest

/-- The entries that a run imports. -/
def importsOf (snapshot : MemorySnapshot) (notes : List ObsidianNote) : List NativeEntry :=
  importsFrom snapshot (notes.map (·.sourceRef)) snapshot.files.all

/-- The title of an imported note. -/
def nativeTitle (found : NativeEntry) : String :=
  "Hermes " ++ found.1.name ++ " memory " ++ slice 8 found.2.sha256.text

/-- The target of a note in a file. -/
def MemoryTarget.hermesTarget : MemoryTarget → HermesTarget
  | memory => .memory
  | user => .user

/-- The draft of an imported note. -/
def nativeDraft (native : NativeEntry) : NoteDraft :=
  { title := nativeTitle native, body := native.2.content
    memoryKind := some (if native.1 = .user then .preference else .knowledge)
    importance := some 4, hermesTarget := some native.1.hermesTarget
    sourceRef := some (nativeSource native) }

/-- `{ ...note, organizationId, userId, agentId, queueProjection: false }`. -/
def NoteDocument.input (document : NoteDocument) (job : ProjectionJob) : NoteInput :=
  { organizationId := job.organizationId, userId := job.userId, agentId := job.agentId
    title := document.title, slug := document.slug
    markdown := String.ofList document.markdown, frontmatter := document.frontmatter
    wikilinks := document.wikilinks, memoryKind := some document.memoryKind
    importance := some document.importance, hermesTarget := some document.hermesTarget
    sourceRef := some document.sourceRef, queueProjection := some false }

/-- The clock reading of a document, and the surroundings of the call that stores it. -/
structure ImportEnv where
  written : Nat
  env : NoteEnv
  fault : Option Nat := none

/-- Why a run throws. -/
inductive SyncFailure where
  | runtimeUnavailable
  | ownerMismatch
  | noteRequired
  | note (failure : NoteFailure)
  | lost
  | runtime (code : String)
deriving Repr, DecidableEq

/-- The code of a failure, where it has one. -/
def SyncFailure.code : SyncFailure → Option String
  | runtimeUnavailable => some "runtime_unavailable"
  | ownerMismatch => some "memory_projection_owner_mismatch"
  | runtime code => some code
  | noteRequired | note _ | lost => none

/-- `createObsidianNote` of a repository. -/
def createNote (repository : Repository) (surroundings : ImportEnv) (input : NoteInput)
    (store : NoteStore) : Except SyncFailure Unit × NoteStore :=
  match repository with
  | .memory =>
      match Memory.createObsidianNote surroundings.env input store with
      | (.ok _, final) => (.ok (), final)
      | (.error failure, final) => (.error (.note failure), final)
  | .postgres =>
      match (Postgres.createObsidianNote surroundings.env input).inTransaction
          surroundings.fault store with
      | (.ok _, final) => (.ok (), final)
      | (.error (.raised failure), final) => (.error (.note failure), final)
      | (.error .lost, final) => (.error .lost, final)

/-- `listObsidianNotes` of a repository, for the Agent of a job. -/
def listNotes (repository : Repository) (job : ProjectionJob) (store : NoteStore) :
    List ObsidianNote :=
  match repository with
  | .memory => Memory.listObsidianNotes job.organizationId job.userId job.agentId store
  | .postgres => Postgres.listObsidianNotes job.organizationId job.userId job.agentId store

/-- `markObsidianProjection` of a repository. -/
def markNotes (repository : Repository) (env : NoteEnv) (mark : ProjectionMark)
    (store : NoteStore) : NoteStore :=
  match repository with
  | .memory => Memory.markObsidianProjection env mark store
  | .postgres => Postgres.markObsidianProjection env mark store

section Normalized

variable [Normalization]

/-- The import of an entry. -/
def importEntry (repository : Repository) (job : ProjectionJob) (surroundings : ImportEnv)
    (native : NativeEntry) (store : NoteStore) : Except SyncFailure Unit × NoteStore :=
  match createDocument (nativeDraft native) surroundings.written with
  | none => (.error .noteRequired, store)
  | some document => createNote repository surroundings (document.input job) store

/-- The imports of a run, one after the other. -/
def importEntries (repository : Repository) (job : ProjectionJob)
    (surroundings : Nat → ImportEnv) :
    Nat → List NativeEntry → NoteStore → Except SyncFailure Unit × NoteStore
  | _, [], store => (.ok (), store)
  | index, native :: rest, store =>
      match importEntry repository job (surroundings index) native store with
      | (.error failure, final) => (.error failure, final)
      | (.ok _, final) => importEntries repository job surroundings (index + 1) rest final

end Normalized

/-! ### The projection and its mark -/

/-- What a run applies and marks. -/
structure SyncPlan where
  conflicts : List String
  noteRevisions : List (String × Nat)
  projection : HermesMemoryProjection

/-- The plan of a run, from its snapshot and the notes that it lists. -/
def planOf (snapshot : MemorySnapshot) (notes : List ObsidianNote) : SyncPlan :=
  { conflicts := conflictsOf snapshot
    noteRevisions := notes.map fun note => (note.id, note.revision)
    projection := buildHermesMemoryProjection notes (conflictsOf snapshot) }

/-- The argument of `markObsidianProjection`. -/
def SyncPlan.mark (plan : SyncPlan) (job : ProjectionJob) : ProjectionMark :=
  { organizationId := job.organizationId, userId := job.userId, agentId := job.agentId
    includedNoteIds := plan.projection.includedNoteIds, conflictNoteIds := plan.conflicts
    noteRevisions := plan.noteRevisions }

/-- What `synchronizeAgentMemory` answers. -/
structure SyncSummary where
  status : HermesSyncStatus
  projectionId : String
  imported : Nat
  conflictCount : Nat
  memoryNotes : Nat
  userNotes : Nat
  memoryChars : Nat
  userChars : Nat
  excluded : Nat

/-- The summary of a run. The runtime may have counted the characters itself. -/
def SyncPlan.summary (plan : SyncPlan) (imported : Nat) (memoryChars userChars : Option Nat) :
    SyncSummary :=
  { status := if plan.conflicts = [] then .materialized else .conflict
    projectionId := plan.projection.projectionId, imported := imported
    conflictCount := plan.conflicts.length
    memoryNotes := plan.projection.memory.entries.length
    userNotes := plan.projection.user.entries.length
    memoryChars := memoryChars.getD plan.projection.memory.charCount
    userChars := userChars.getD plan.projection.user.charCount
    excluded := plan.projection.excludedNoteIds.length }

/-! ### The runtime -/

/-- The digest of a content. -/
def digestOf (content : String) : HexDigest where
  text := sha256 (chars content)
  digits := by
    have all : "0123456789abcdef".toList.all isHexDigit = true := by decide +kernel
    rw [chars_eq_toList, List.all_eq_true]
    intro c member
    exact List.all_eq_true.mp all c (mem_sha256Bytes member)

/-- The memory of a runtime: its files, and the manifest of the last projection. -/
structure RuntimeMemory where
  projection : Option (MemoryFiles ManifestEntry)
  files : MemoryFiles MemoryEntry

/-- `memory.snapshot`. -/
def RuntimeMemory.snapshot (runtime : RuntimeMemory) (digest : String) : MemorySnapshot :=
  { digest := digest, projection := runtime.projection, files := runtime.files }

/-- `memory.apply`: the entries of the projection replace those of the files, and they are the
manifest. -/
def HermesMemoryProjection.applied (projection : HermesMemoryProjection) : RuntimeMemory :=
  { projection := some
      { memory := some (projection.memory.entries.map fun entry =>
          ⟨entry.noteId, digestOf entry.content⟩)
        user := some (projection.user.entries.map fun entry =>
          ⟨entry.noteId, digestOf entry.content⟩) }
    files :=
      { memory := some (projection.memory.entries.map fun entry =>
          ⟨entry.content, digestOf entry.content⟩)
        user := some (projection.user.entries.map fun entry =>
          ⟨entry.content, digestOf entry.content⟩) } }

/-! ### The run -/

/-- The columns of an Agent that a run checks. -/
structure AgentOwner where
  organizationId : String
  ownerUserId : String

/-- What came of the call `memory.apply`. The answer of a runtime that applied a projection may
be lost. -/
inductive ApplyOutcome where
  | answered (memoryChars userChars : Option Nat)
  | refused (code : String)
  | lost (code : String)

/-- The surroundings of a run. -/
structure SyncEnv where
  agent : Option AgentOwner
  imports : Nat → ImportEnv
  apply : ApplyOutcome
  mark : NoteEnv
  markFault : Bool := false

/-- The tables and the memory of the runtime. -/
structure SyncState where
  store : NoteStore
  runtime : RuntimeMemory

/-- The Agent belongs to the user of the job. -/
def ProjectionJob.isOwnedBy (job : ProjectionJob) (agent : Option AgentOwner) : Bool :=
  agent.any fun owner =>
    owner.organizationId = job.organizationId && owner.ownerUserId = job.userId

/-- A run up to its plan. -/
def preparePlan [Normalization] (repository : Repository) (job : ProjectionJob)
    (surroundings : Nat → ImportEnv) (snapshot : MemorySnapshot) (store : NoteStore) :
    Except SyncFailure SyncPlan × NoteStore :=
  match importEntries repository job surroundings 0
      (importsOf snapshot (listNotes repository job store)) store with
  | (.error failure, final) => (.error failure, final)
  | (.ok _, final) => (.ok (planOf snapshot (listNotes repository job final)), final)

/-- A run from its plan. -/
def SyncPlan.execute (plan : SyncPlan) (repository : Repository) (job : ProjectionJob)
    (env : SyncEnv) (imported : Nat) (state : SyncState) :
    Except SyncFailure SyncSummary × SyncState :=
  match env.apply with
  | .refused code => (.error (.runtime code), state)
  | .lost code => (.error (.runtime code), { state with runtime := plan.projection.applied })
  | .answered memoryChars userChars =>
      let applied := { state with runtime := plan.projection.applied }
      if repository = .postgres ∧ env.markFault = true then (.error .lost, applied)
      else
        (.ok (plan.summary imported memoryChars userChars),
          { applied with store := markNotes repository env.mark (plan.mark job) applied.store })

/-- `synchronizeAgentMemory`. -/
def synchronizeAgentMemory [Normalization] (repository : Repository) (job : ProjectionJob)
    (env : SyncEnv) (digest : Option String) (state : SyncState) :
    Except SyncFailure SyncSummary × SyncState :=
  match digest with
  | none => (.error .runtimeUnavailable, state)
  | some digest =>
      if job.isOwnedBy env.agent then
        let snapshot := state.runtime.snapshot digest
        let imported := (importsOf snapshot (listNotes repository job state.store)).length
        match preparePlan repository job env.imports snapshot state.store with
        | (.error failure, store) => (.error failure, { state with store := store })
        | (.ok plan, store) =>
            plan.execute repository job env imported { state with store := store }
      else (.error .ownerMismatch, state)

end BairuiPlatform
