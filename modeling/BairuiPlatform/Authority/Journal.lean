/-
Module: BairuiPlatform.Authority.Journal
Purpose: The helpers of ControlAuthorityRepository that every mutator shares:
  idempotency records, audit rows, control events and global changes.
Trusted boundary: none
Main exports: Callback, Env, lockIdempotency, saveIdempotency, replayOr,
  appendAudit, appendEvent, appendGlobalChange
-/
import BairuiPlatform.Foundations.Table
import BairuiPlatform.Foundations.Transaction
import BairuiPlatform.Schema

namespace BairuiPlatform

open Foundations

/-- The callback of a control-plane transaction. -/
abbrev Callback (α : Type) := Tx Db Failure α

/-- `throw controlError(code, message, status)` unless the condition holds. -/
def ensure (condition : Prop) [Decidable condition] (code message : String)
    (statusCode : Nat) : Callback Unit :=
  Tx.require condition (.control (controlError code message statusCode))

/-- A policy check inside a callback. -/
def checked (result : Except ControlError Unit) : Callback Unit :=
  Tx.ofExcept .control result

/-- `pg_advisory_xact_lock`. Transactions are atomic, so only the statement is
left of it. -/
def advisoryLock : Callback Unit :=
  Tx.read fun _ => ()

/-- The characters of a UUID. -/
def isUuidChar (c : Char) : Bool :=
  isHexDigit c || c == '-'

/-- A value of `randomUUID()`. -/
structure Uuid where
  text : String
  length_eq : text.toList.length = 36
  shaped : text.toList.all isUuidChar = true
deriving DecidableEq

/-- The values of `randomUUID()` that one pass through a mutator draws. -/
structure Entropy where
  row : Uuid
  token : Uuid
  attempt : Uuid
  event : Uuid
  outbox : Uuid
  audit : Uuid
  idempotency : Uuid

/-- The clock reading of a transaction, and its random values: those of the
mutator itself, and those of each iteration of the two loops over leases. -/
structure Env where
  now : Nat
  entropy : Entropy
  expiries : Nat → Entropy
  grants : Nat → Entropy

/-- `rowCount === 1`, or a found row, of a table that holds the row at most once. -/
def found {ρ : Type} (wanted : ρ → Bool) (rows : List ρ) : Bool :=
  rows.any wanted

/-! ### Idempotency records -/

/-- The argument of `lockIdempotency`. -/
structure IdempotencyScope where
  mutator : String
  organizationId : String
  idempotencyKey : String
  requestHash : String

/-- The record of a scope. -/
def Journal.record? (journal : Journal) (mutator organizationId idempotencyKey : String) :
    Option IdempotencyRow :=
  journal.idempotency.find? fun record =>
    decide (record.mutator = mutator) && decide (record.organizationId = organizationId) &&
      decide (record.idempotencyKey = idempotencyKey)

/-- `lockIdempotency`. -/
def lockIdempotency (input : IdempotencyScope) : Callback (Option IdempotencyRow) := do
  advisoryLock
  let existing ← Tx.read fun db =>
    db.journal.record? input.mutator input.organizationId input.idempotencyKey
  ensure (∀ record ∈ existing, record.requestHash = input.requestHash)
    "idempotency_conflict" "The idempotency key was already used with a different request" 409
  return existing

/-- The argument of `saveIdempotency`. -/
structure IdempotencyInput extends IdempotencyScope where
  deploymentId : Option String := none
  aggregateType : String
  aggregateId : String
  resultRef : Option String := none

/-- The row that `saveIdempotency` inserts. -/
def IdempotencyInput.row (input : IdempotencyInput) (id : Uuid) : IdempotencyRow :=
  { id := id.text
    mutator := input.mutator
    organizationId := input.organizationId
    deploymentId := input.deploymentId
    idempotencyKey := input.idempotencyKey
    requestHash := input.requestHash
    aggregateType := input.aggregateType
    aggregateId := input.aggregateId
    resultRef := input.resultRef }

/-- `saveIdempotency`. -/
def saveIdempotency (id : Uuid) (input : IdempotencyInput) : Callback Unit :=
  Tx.insert
    (fun db =>
      [(!found (fun record => record.id = id.text) db.journal.idempotency,
          .violation "control_idempotency_records_pkey"),
        ((db.journal.record? input.mutator input.organizationId input.idempotencyKey).isNone,
          .violation "control_idempotency_records_namespace_key")])
    (fun db =>
      { db with
        journal.idempotency := db.journal.idempotency ++ [input.row id] })

/-- A mutator under its idempotency record: a recorded request is replayed, any
other one is carried out. -/
def replayOr {α : Type} (scope : IdempotencyScope) (replay : IdempotencyRow → Callback α)
    (fresh : Callback α) : Callback α := do
  match ← lockIdempotency scope with
  | some record => replay record
  | none => fresh

/-! ### Audit rows -/

/-- The argument of `appendAudit`. -/
structure AuditInput where
  organizationId : String
  deploymentId : Option String
  actorIdentity : Option String
  action : String
  aggregateType : String
  aggregateId : String
  metadata : Json
  createdAt : Option Nat

/-- The latest audit row of an organization. -/
def Journal.latestAudit (journal : Journal) (organizationId : String) : Option AuditRow :=
  latestBy AuditRow.sequence
    (journal.audits.filter fun audit => audit.organizationId = organizationId)

/-- The object whose digest is the hash of an audit row. -/
def AuditRow.hashed (audit : AuditRow) : Json :=
  .obj [("id", .str audit.id), ("organizationId", .str audit.organizationId),
    ("deploymentId", .ofText? audit.deploymentId), ("sequence", .num audit.sequence),
    ("actorIdentity", .ofText? audit.actorIdentity), ("action", .str audit.action),
    ("aggregateType", .str audit.aggregateType), ("aggregateId", .str audit.aggregateId),
    ("metadata", audit.metadata), ("previousHash", .ofText? audit.previousHash),
    ("createdAt", .str (isoString audit.createdAt))]

/-- The row that `appendAudit` inserts after the latest one. -/
def AuditInput.row (input : AuditInput) (id : Uuid) (now : Nat)
    (previous : Option AuditRow) : AuditRow :=
  let unhashed : AuditRow :=
    { id := id.text
      organizationId := input.organizationId
      deploymentId := input.deploymentId
      sequence := (previous.map (·.sequence)).getD 0 + 1
      actorIdentity := input.actorIdentity
      action := input.action
      aggregateType := input.aggregateType
      aggregateId := input.aggregateId
      metadata := (redactControlMetadata 0 input.metadata).1
      previousHash := previous.map (·.eventHash)
      eventHash := ""
      createdAt := input.createdAt.getD (isoNow now) }
  { unhashed with eventHash := digestControlValue unhashed.hashed }

/-- `appendAudit`. -/
def appendAudit [Host] (id : Uuid) (now : Nat) (input : AuditInput) :
    Callback AuditRow := do
  advisoryLock
  let previous ← Tx.read fun db => db.journal.latestAudit input.organizationId
  let audit := input.row id now previous
  checked (assertSafeControlPayload "audit.metadata" audit.metadata)
  Tx.insert
    (fun db =>
      [(bairuiControlJsonIsSafe audit.metadata,
          .violation "control_audit_events_safe_payload"),
        (!found (fun other => other.id = audit.id) db.journal.audits,
          .violation "control_audit_events_pkey"),
        (!found (fun other => other.organizationId = audit.organizationId &&
            other.sequence = audit.sequence) db.journal.audits,
          .violation "control_audit_events_organization_id_sequence_key"),
        (!found (fun other => other.organizationId = audit.organizationId &&
            other.eventHash = audit.eventHash) db.journal.audits,
          .violation "control_audit_events_organization_id_event_hash_key")])
    (fun db => { db with journal.audits := db.journal.audits ++ [audit] })
  return audit

/-! ### Control events -/

/-- The argument of `appendEvent`. -/
structure EventInput where
  organizationId : String
  agentId : String
  serverId : Option String
  deploymentId : String
  commandId : Option String := none
  requestId : Option String := none
  correlationId : Option String := none
  idempotencyKey : String
  sourceIdentity : Option String
  attempt : Option Nat := none
  leaseId : Option String := none
  leaseTokenRef : Option String := none
  observationVersion : Option Nat := none
  eventType : String
  state : Option String
  aggregateType : String
  aggregateId : String
  evidenceRefs : List String := []
  summary : List (String × Json)
  occurredAt : Option Nat := none

/-- The row that `appendEvent` inserts. -/
def EventInput.row (input : EventInput) (id : Uuid) (now eventSequence : Nat) : EventRow :=
  { id := id.text
    organizationId := input.organizationId
    agentId := input.agentId
    serverId := input.serverId
    deploymentId := input.deploymentId
    commandId := input.commandId
    requestId := input.requestId.getD id.text
    correlationId := input.correlationId.getD id.text
    idempotencyKey := input.idempotencyKey
    sourceIdentity := input.sourceIdentity
    attempt := input.attempt
    leaseId := input.leaseId
    leaseTokenRef := input.leaseTokenRef
    observationVersion := input.observationVersion
    eventSequence := eventSequence
    eventType := input.eventType
    state := input.state
    summary := (redactControlMetadata 0 (.obj input.summary)).1
    evidenceRefs := input.evidenceRefs
    occurredAt := input.occurredAt.getD (isoNow now) }

/-- `outboxBody` of an event. -/
def EventRow.outboxBody (event : EventRow) : Json :=
  .obj [("schema_version", .str "1.0"), ("event_id", .str event.id),
    ("deployment_id", .str event.deploymentId), ("event_sequence", .num event.eventSequence),
    ("event_type", .str event.eventType), ("state", .ofText? event.state),
    ("evidence_refs", .ofTexts event.evidenceRefs),
    ("occurred_at", .str (isoString event.occurredAt))]

/-- An outbox row as an INSERT leaves it, with the defaults of its columns. -/
def pendingOutbox (id : Uuid) (now : Nat) (organizationId : String)
    (deploymentId eventId : Option String)
    (aggregateType aggregateId eventType idempotencyKey : String) (body : Json) :
    OutboxRow :=
  { id := id.text
    organizationId := organizationId
    deploymentId := deploymentId
    eventId := eventId
    aggregateType := aggregateType
    aggregateId := aggregateId
    eventType := eventType
    idempotencyKey := idempotencyKey
    body := body
    state := .pending
    attempts := 0
    maxAttempts := 8
    availableAt := now
    leaseTokenHash := none
    leaseExpiresAt := none
    lastErrorCode := none
    publishedAt := none
    createdAt := now }

/-- `INSERT INTO control_outbox`. -/
def insertOutbox [Host] (outbox : OutboxRow) : Callback Unit :=
  Tx.insert
    (fun db =>
      [(bairuiControlJsonIsSafe outbox.body, .violation "control_outbox_safe_payload"),
        (!found (fun other => other.id = outbox.id) db.journal.outbox,
          .violation "control_outbox_pkey"),
        (!found (fun other => other.organizationId = outbox.organizationId &&
            other.idempotencyKey = outbox.idempotencyKey) db.journal.outbox,
          .violation "control_outbox_idempotency_idx")])
    (fun db => { db with journal.outbox := db.journal.outbox ++ [outbox] })

/-- An object spread over another one: later values replace earlier ones. -/
def spread (fields : List (String × Json)) : List (String × Json) → List (String × Json)
  | [] => fields
  | (key, value) :: extra =>
      if fields.any (fun field => field.1 = key) then
        spread (fields.map fun field => if field.1 = key then (key, value) else field) extra
      else spread (fields ++ [(key, value)]) extra

/-- `metadata` of the audit row of an event. -/
def EventRow.auditMetadata (event : EventRow) : Json :=
  .obj (spread
    [("event_id", .str event.id), ("event_sequence", .num event.eventSequence),
      ("state", .ofText? event.state)]
    (match event.summary with
      | .obj fields => fields
      | _ => []))

/-- The events of a deployment. -/
def Journal.eventsOf (journal : Journal) (deploymentId : String) : List EventRow :=
  journal.events.filter fun event => event.deploymentId = deploymentId

/-- `appendEvent`. -/
def appendEvent [Host] (entropy : Entropy) (now : Nat) (input : EventInput) :
    Callback EventRow := do
  advisoryLock
  let eventSequence ← Tx.read fun db =>
    maxOf ((db.journal.eventsOf input.deploymentId).map EventRow.eventSequence) + 1
  let event := input.row entropy.event now eventSequence
  checked (assertSafeControlPayload "event.summary" event.summary)
  Tx.insert
    (fun db =>
      [(bairuiControlJsonIsSafe event.summary, .violation "control_events_safe_payload"),
        (!found (fun other => other.id = event.id) db.journal.events,
          .violation "control_events_pkey"),
        (!found (fun other => other.deploymentId = event.deploymentId &&
            other.eventSequence = event.eventSequence) db.journal.events,
          .violation "control_events_deployment_id_event_sequence_key"),
        (!found (fun other => other.organizationId = event.organizationId &&
            other.idempotencyKey = event.idempotencyKey) db.journal.events,
          .violation "control_events_idempotency_idx")])
    (fun db => { db with journal.events := db.journal.events ++ [event] })
  checked (assertSafeControlPayload "outbox.body" event.outboxBody)
  insertOutbox (pendingOutbox entropy.outbox now event.organizationId (some event.deploymentId)
    (some event.id) input.aggregateType input.aggregateId event.eventType
    ("event:" ++ event.id) event.outboxBody)
  let _ ← appendAudit entropy.audit now
    { organizationId := event.organizationId
      deploymentId := some event.deploymentId
      actorIdentity := event.sourceIdentity
      action := event.eventType
      aggregateType := input.aggregateType
      aggregateId := input.aggregateId
      metadata := event.auditMetadata
      createdAt := some event.occurredAt }
  return event

/-! ### Changes outside a deployment -/

/-- The argument of `appendGlobalChange`. -/
structure GlobalChangeInput where
  organizationId : String
  deploymentId : Option String := none
  aggregateType : String
  aggregateId : String
  eventType : String
  idempotencyKey : String
  actorIdentity : Option String
  createdAt : Nat
  body : List (String × Json)

/-- `appendGlobalChange`. -/
def appendGlobalChange [Host] (entropy : Entropy) (now : Nat) (input : GlobalChangeInput) :
    Callback Unit := do
  let body := (redactControlMetadata 0 (.obj input.body)).1
  checked (assertSafeControlPayload "outbox.body" body)
  insertOutbox (pendingOutbox entropy.outbox now input.organizationId input.deploymentId none
    input.aggregateType input.aggregateId input.eventType input.idempotencyKey body)
  let _ ← appendAudit entropy.audit now
    { organizationId := input.organizationId
      deploymentId := input.deploymentId
      actorIdentity := input.actorIdentity
      action := input.eventType
      aggregateType := input.aggregateType
      aggregateId := input.aggregateId
      metadata := body
      createdAt := some input.createdAt }
  return ()

end BairuiPlatform
