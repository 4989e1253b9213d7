/-
Module: BairuiPlatform.Authority.AuditStorage
Purpose: The audit rows of ControlAuthorityRepository with the timestamps as requests spell
  them: which rows verify when they are read back from their columns.
Trusted boundary: none
Main exports: Stamp, AuditedOperation, appendSpelledAudit, AuditRow.recomputed,
  AuditDetails.row_verifies
-/
import BairuiPlatform.JsonStorage
import BairuiPlatform.Foundations.HashChain
import BairuiPlatform.Authority.AuditChain

namespace BairuiPlatform

open Foundations

/-! ### Timestamps -/

/-- A timestamp: its text, and the instant that the text denotes. -/
structure Stamp where
  text : String
  instant : Nat

/-- `new Date().toISOString()`. -/
def Stamp.ofClock (now : Nat) : Stamp :=
  { text := isoString now, instant := isoNow now }

/-- `assertTimestamp`: `new Date(Date.parse(value)).toISOString()`. -/
def Stamp.normalized (stamp : Stamp) : Stamp :=
  { text := isoString stamp.instant, instant := ofMillis (dateParse stamp.instant) }

/-- The text is the one that `toISOString()` gives for the instant. -/
def Stamp.Canonical (stamp : Stamp) : Prop :=
  stamp.text = isoString stamp.instant

/-- A text of milliseconds does not show smaller parts of an instant. -/
theorem isoString_ofMillis (instant : Nat) :
    isoString (ofMillis (instant / 1000)) = isoString instant := by
  have millis : ofMillis (instant / 1000) / 1000 = instant / 1000 := by
    unfold ofMillis
    omega
  unfold isoString
  rw [millis]

theorem Stamp.ofClock_canonical (now : Nat) : (Stamp.ofClock now).Canonical :=
  (isoString_ofMillis now).symm

theorem Stamp.normalized_canonical (stamp : Stamp) : stamp.normalized.Canonical :=
  (isoString_ofMillis stamp.instant).symm

/-! ### The operations that append an audit row -/

/-- The operations of the service that append an audit row, with the timestamp of their
request that becomes the time of the row. -/
inductive AuditedOperation where
  | putDesiredState (createdAt : Stamp)
  | recordObservation (receivedAt : Stamp)
  | requestCommand
  | decideApproval (decidedAt : Stamp)
  | registerReleaseManifest (createdAt : Stamp)
  | registerSecretReference (createdAt : Stamp)
  | expireLease
  | leaseCommand
  | recordReceipt (observedAt : Stamp)
  | verifyCommand (completedAt : Option Stamp)

/-- What the repository hands to `appendAudit` as `createdAt`: the service has normalised
`created_at` and `completed_at`, and hands on the other timestamps as they are spelled. -/
def AuditedOperation.createdAt (now : Nat) : AuditedOperation → Stamp
  | .putDesiredState createdAt => createdAt.normalized
  | .recordObservation receivedAt => receivedAt
  | .requestCommand => .ofClock now
  | .decideApproval decidedAt => decidedAt
  | .registerReleaseManifest createdAt => createdAt.normalized
  | .registerSecretReference createdAt => createdAt.normalized
  | .expireLease => .ofClock now
  | .leaseCommand => .ofClock now
  | .recordReceipt observedAt => observedAt
  | .verifyCommand (some completedAt) => completedAt.normalized
  | .verifyCommand none => .ofClock now

/-- The timestamps that reach the audit row as the request spells them. -/
def AuditedOperation.spelled : AuditedOperation → Option Stamp
  | .recordObservation stamp | .decideApproval stamp | .recordReceipt stamp => some stamp
  | _ => none

/-- The time of a row is canonical unless the request spells it otherwise. -/
theorem AuditedOperation.createdAt_canonical (operation : AuditedOperation) (now : Nat) :
    (operation.createdAt now).Canonical ↔ ∀ stamp ∈ operation.spelled, stamp.Canonical := by
  have unspelled : ∀ {stamp : Stamp}, stamp.Canonical →
      (stamp.Canonical ↔ ∀ other ∈ (none : Option Stamp), other.Canonical) :=
    fun canonical => iff_of_true canonical fun other spelled => by cases spelled
  have verbatim : ∀ {stamp : Stamp},
      (stamp.Canonical ↔ ∀ other ∈ some stamp, other.Canonical) := by
    intro stamp
    constructor
    · rintro canonical other spelled
      cases spelled
      exact canonical
    · intro all
      exact all stamp rfl
  cases operation with
  | putDesiredState createdAt => exact unspelled createdAt.normalized_canonical
  | recordObservation receivedAt => exact verbatim
  | requestCommand => exact unspelled (Stamp.ofClock_canonical now)
  | decideApproval decidedAt => exact verbatim
  | registerReleaseManifest createdAt => exact unspelled createdAt.normalized_canonical
  | registerSecretReference createdAt => exact unspelled createdAt.normalized_canonical
  | expireLease => exact unspelled (Stamp.ofClock_canonical now)
  | leaseCommand => exact unspelled (Stamp.ofClock_canonical now)
  | recordReceipt observedAt => exact verbatim
  | verifyCommand completedAt =>
      cases completedAt with
      | none => exact unspelled (Stamp.ofClock_canonical now)
      | some completedAt => exact unspelled completedAt.normalized_canonical

/-! ### The row that is inserted -/

/-- The argument of `appendAudit` but for its time. The metadata are an object of JavaScript,
whose property names are distinct. -/
structure AuditDetails where
  organizationId : String
  deploymentId : Option String
  actorIdentity : Option String
  action : String
  aggregateType : String
  aggregateId : String
  metadata : Json
  distinct : metadata.NamesDistinct

/-- The object whose digest is the hash of an audit row, with the text of its time. -/
def AuditRow.hashedAs (audit : AuditRow) (createdAt : String) : Json :=
  .obj [("id", .str audit.id), ("organizationId", .str audit.organizationId),
    ("deploymentId", .ofText? audit.deploymentId), ("sequence", .num audit.sequence),
    ("actorIdentity", .ofText? audit.actorIdentity), ("action", .str audit.action),
    ("aggregateType", .str audit.aggregateType), ("aggregateId", .str audit.aggregateId),
    ("metadata", audit.metadata), ("previousHash", .ofText? audit.previousHash),
    ("createdAt", .str createdAt)]

theorem AuditRow.hashedAs_isoString (audit : AuditRow) :
    audit.hashedAs (isoString audit.createdAt) = audit.hashed := rfl

/-- The row that `appendAudit` inserts after the latest one: the hash covers the text of the
time, and the column keeps its instant. -/
def AuditDetails.row (details : AuditDetails) (id : Uuid) (createdAt : Stamp)
    (previous : Option AuditRow) : AuditRow :=
  let unhashed : AuditRow :=
    { id := id.text
      organizationId := details.organizationId
      deploymentId := details.deploymentId
      sequence := (previous.map (·.sequence)).getD 0 + 1
      actorIdentity := details.actorIdentity
      action := details.action
      aggregateType := details.aggregateType
      aggregateId := details.aggregateId
      metadata := (redactControlMetadata 0 details.metadata).1
      previousHash := previous.map (·.eventHash)
      eventHash := ""
      createdAt := createdAt.instant }
  { unhashed with eventHash := digestControlValue (unhashed.hashedAs createdAt.text) }

/-- `appendAudit`, with the time as its caller spells it. -/
def appendSpelledAudit [Host] (id : Uuid) (createdAt : Stamp) (details : AuditDetails) :
    Callback AuditRow := do
  advisoryLock
  let previous ← Tx.read fun db => db.journal.latestAudit details.organizationId
  let audit := details.row id createdAt previous
  checked (assertSafeControlPayload "audit.metadata" audit.metadata)
  Tx.insert
    (fun db =>
      [(bairuiControlJsonIsSafe audit.metadata,
          .violation "control_audit_events_safe_payload"),
        (!found (fun other => other.id = audit.id) db.journal.audits,
          .violation "control_audit_events_pkey"),
        (!found (fun other => other.organizationId = audit.organizationId &&
            other.sequence = audit.sequence) db.journal.audits,
          .violation "control_audit_events_organization_id_sequence_key"),
        (!found (fun other => other.organizationId = audit.organizationId &&
            other.eventHash = audit.eventHash) db.journal.audits,
          .violation "control_audit_events_organization_id_event_hash_key")])
    (fun db => { db with journal.audits := db.journal.audits ++ [audit] })
  return audit

/-- The row adds to the chain of its organization. -/
theorem appendSpelledAudit_ok [Host] {id : Uuid} {createdAt : Stamp} {details : AuditDetails}
    {db db' : Db} {audit : AuditRow}
    (ran : (appendSpelledAudit id createdAt details).eval db = .ok (audit, db')) :
    audit = details.row id createdAt (db.journal.latestAudit details.organizationId) ∧
      db'.journal.audits = db.journal.audits ++ [audit] := by
  simp only [appendSpelledAudit, Tx.eval_bind_ok, advisoryLock_ok, Tx.eval_read, checked_ok,
    Tx.eval_insert_ok, Tx.eval_pure, Except.ok.injEq, Prod.mk.injEq] at ran
  obtain ⟨_, _, rfl, _, _, ⟨rfl, rfl⟩, _, _, ⟨-, rfl⟩, _, _, ⟨-, rfl⟩, rfl, rfl⟩ := ran
  exact ⟨rfl, rfl⟩

/-- With a canonical time it is `appendAudit` as the other operations of the model call it. -/
theorem appendSpelledAudit_eq [Host] {createdAt : Stamp} (canonical : createdAt.Canonical)
    (id : Uuid) (now : Nat) (details : AuditDetails) :
    appendSpelledAudit id createdAt details =
      appendAudit id now
        { organizationId := details.organizationId
          deploymentId := details.deploymentId
          actorIdentity := details.actorIdentity
          action := details.action
          aggregateType := details.aggregateType
          aggregateId := details.aggregateId
          metadata := details.metadata
          createdAt := some createdAt.instant } := by
  unfold appendSpelledAudit appendAudit AuditDetails.row AuditInput.row
  rw [show createdAt.text = isoString createdAt.instant from canonical]
  rfl

/-! ### The row that is read back -/

/-- The hash of a row, computed again from its columns and from the hash of its predecessor:
the metadata come back from jsonb, and the time as a text of `toISOString()`. -/
def AuditRow.recomputed (previousHash : Option String) (audit : AuditRow) : String :=
  digestControlValue
    { audit with metadata := audit.metadata.readBack, previousHash := previousHash }.hashed

/-- No object that redaction leaves has two properties of one name. -/
theorem redactFields_keyed {depth : Nat} {fields : List (String × Json)}
    (keyed : Keyed Prod.fst fields) : Keyed Prod.fst (redactFields depth fields).1 := by
  induction fields with
  | nil => exact Keyed.nil
  | cons field fields ih =>
      obtain ⟨name, value⟩ := field
      obtain ⟨apart, rest⟩ := Keyed.cons.mp keyed
      have new : ∀ other ∈ (redactFields depth fields).1, other.1 ≠ name := by
        intro other member
        obtain ⟨original, originalMem, same⟩ := redactFields_names fields other member
        rw [← same]
        exact apart original originalMem
      rw [redactFields]
      split
      · exact ih rest
      · dsimp only
        split
        · exact ih rest
        · exact Keyed.cons.mpr ⟨new, ih rest⟩

mutual

theorem redactControlMetadata_distinct (depth : Nat) : ∀ value : Json, value.NamesDistinct →
    (redactControlMetadata depth value).1.NamesDistinct
  | .null => fun _ => by
      simp only [redactControlMetadata]
      split <;> trivial
  | .bool _ => fun _ => by
      simp only [redactControlMetadata]
      split <;> trivial
  | .num _ => fun _ => by
      simp only [redactControlMetadata]
      split <;> trivial
  | .dec _ => fun _ => by
      simp only [redactControlMetadata]
      split <;> trivial
  | .str _ => fun _ => by
      rw [redactControlMetadata]
      split
      · trivial
      · split <;> trivial
  | .arr items => fun distinct => by
      rw [redactControlMetadata]
      split
      · trivial
      · exact redactItems_distinct depth 100 items distinct
  | .obj fields => fun distinct => by
      rw [redactControlMetadata]
      split
      · trivial
      · exact ⟨redactFields_keyed distinct.1, redactFields_distinct depth fields distinct.2⟩

theorem redactItems_distinct (depth room : Nat) : ∀ items : List Json,
    Json.ItemsDistinct items → Json.ItemsDistinct (redactItems depth room items).1
  | [] => fun _ => by simp [redactItems, Json.ItemsDistinct]
  | item :: items => fun distinct => by
      cases room with
      | zero => simp [redactItems, Json.ItemsDistinct]
      | succ room =>
          rw [redactItems]
          exact ⟨redactControlMetadata_distinct (depth + 1) item distinct.1,
            redactItems_distinct depth room items distinct.2⟩

theorem redactFields_distinct (depth : Nat) : ∀ fields : List (String × Json),
    Json.FieldsDistinct fields → Json.FieldsDistinct (redactFields depth fields).1
  | [] => fun _ => by simp [redactFields, Json.FieldsDistinct]
  | (name, value) :: fields => fun distinct => by
      have first := redactControlMetadata_distinct (depth + 1) value distinct.1
      have rest := redactFields_distinct depth fields distinct.2
      rw [redactFields]
      split
      · exact rest
      · dsimp only
        split
        · exact rest
        · exact ⟨first, rest⟩

end

/-- SHA-256 does not give the two texts one digest. -/
def Resists (first second : List Char) : Prop :=
  sha256 first = sha256 second → first = second

/-- What is computed again is the digest of the row with its time as `toISOString()` spells
it: the canonical form does not see what jsonb does to the metadata. -/
theorem AuditRow.recomputed_eq {audit : AuditRow} (distinct : audit.metadata.NamesDistinct) :
    audit.recomputed audit.previousHash = digestControlValue audit.hashed := by
  unfold AuditRow.recomputed digestControlValue AuditRow.hashed
  simp only [Json.canonicalize, Json.canonicalizeFields,
    Json.canonicalize_readBack audit.metadata distinct]

/-- The text that is hashed when a row is inserted, and the one that its columns give. -/
def AuditRow.ResistsAt (audit : AuditRow) (createdAt : Stamp) : Prop :=
  Resists (audit.hashedAs createdAt.text).canonicalize.stringifyChars
    audit.hashed.canonicalize.stringifyChars

/-- A row verifies exactly if the time was spelled as it is read back. -/
theorem AuditDetails.row_verifies {details : AuditDetails} {id : Uuid} {createdAt : Stamp}
    {previous : Option AuditRow}
    (resists : (details.row id createdAt previous).ResistsAt createdAt) :
    (details.row id createdAt previous).eventHash =
        (details.row id createdAt previous).recomputed (previous.map (·.eventHash)) ↔
      createdAt.Canonical := by
  have distinct : (details.row id createdAt previous).metadata.NamesDistinct :=
    redactControlMetadata_distinct 0 details.metadata details.distinct
  have stored : (details.row id createdAt previous).eventHash = digestControlValue
      ((details.row id createdAt previous).hashedAs createdAt.text) := rfl
  have before : previous.map (·.eventHash) = (details.row id createdAt previous).previousHash :=
    rfl
  rw [stored, before, AuditRow.recomputed_eq distinct]
  constructor
  · intro same
    have forms := Json.stringify_injective (resists same)
    have read : ∀ text, ((details.row id createdAt previous).hashedAs text).canonicalize.field?
        "createdAt" = some (Json.str text).canonicalize := by
      intro text
      apply Json.field?_canonicalize
      · show List.Nodup _
        simp
      · simp
    have texts := congrArg (Json.field? "createdAt") forms
    rw [← AuditRow.hashedAs_isoString, read, read] at texts
    simp only [Json.canonicalize] at texts
    exact Json.str.inj (Option.some.inj texts)
  · intro canonical
    rw [show createdAt.text = isoString createdAt.instant from canonical,
      ← AuditRow.hashedAs_isoString]
    rfl

end BairuiPlatform
