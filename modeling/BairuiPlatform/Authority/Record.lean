/-
Module: BairuiPlatform.Authority.Record
Purpose: What the shared helpers of ControlAuthorityRepository do when they succeed:
  one specification for each of them.
Trusted boundary: none
Main exports: lockIdempotency_ok, replayOr_ok, EventEntry, ChangeEntry,
  appendEvent_ok, appendGlobalChange_ok, saveIdempotency_ok
-/
import BairuiPlatform.Authority.Journal

namespace BairuiPlatform

open Foundations

section Statements

variable {db db' : Db}

@[simp] theorem found_eq_true {ρ : Type} {wanted : ρ → Bool} {rows : List ρ} :
    found wanted rows = true ↔ ∃ row ∈ rows, wanted row = true := by
  simp [found]

@[simp] theorem found_eq_false {ρ : Type} {wanted : ρ → Bool} {rows : List ρ} :
    found wanted rows = false ↔ ∀ row ∈ rows, wanted row = false := by
  simp [found]

@[simp] theorem ensure_ok {condition : Prop} [Decidable condition] {code message : String}
    {statusCode : Nat} {answer : Unit} :
    (ensure condition code message statusCode).eval db = .ok (answer, db') ↔
      condition ∧ db' = db :=
  Tx.eval_require_ok

@[simp] theorem checked_ok {result : Except ControlError Unit} {answer : Unit} :
    (checked result).eval db = .ok (answer, db') ↔ result = .ok () ∧ db' = db :=
  Tx.eval_ofExcept_ok

/-- A method whose payload check comes first succeeds when the check and the rest do. -/
theorem checked_bind_ok {α : Type} {result : Except ControlError Unit} {rest : Callback α}
    {value : α} :
    (checked result >>= fun _ => rest).eval db = .ok (value, db') ↔
      result = .ok () ∧ rest.eval db = .ok (value, db') := by
  simp only [Tx.eval_bind_ok, checked_ok]
  constructor
  · rintro ⟨-, _, ⟨passed, rfl⟩, ran⟩
    exact ⟨passed, ran⟩
  · rintro ⟨passed, ran⟩
    exact ⟨(), db, ⟨passed, rfl⟩, ran⟩

@[simp] theorem advisoryLock_ok {answer : Unit} :
    advisoryLock.eval db = .ok (answer, db') ↔ db' = db := by
  simp [advisoryLock, eq_comm]

end Statements

/-! ### Idempotency records -/

/-- The journal with one more idempotency record. -/
def Journal.withRecord (journal : Journal) (record : IdempotencyRow) : Journal :=
  { journal with idempotency := journal.idempotency ++ [record] }

/-- `lockIdempotency` finds the record of the scope, and its hash is the one of the
request. -/
theorem lockIdempotency_ok {input : IdempotencyScope} {db db' : Db}
    {existing : Option IdempotencyRow} :
    (lockIdempotency input).eval db = .ok (existing, db') ↔
      existing = db.journal.record? input.mutator input.organizationId input.idempotencyKey ∧
        (∀ record ∈ existing, record.requestHash = input.requestHash) ∧ db' = db := by
  simp only [lockIdempotency, Tx.eval_bind_ok, advisoryLock_ok, ensure_ok, Tx.eval_read,
    Tx.eval_pure, Except.ok.injEq, Prod.mk.injEq]
  constructor
  · rintro ⟨_, _, rfl, _, _, ⟨rfl, rfl⟩, _, _, ⟨same, rfl⟩, rfl, rfl⟩
    exact ⟨rfl, same, rfl⟩
  · rintro ⟨rfl, same, rfl⟩
    exact ⟨(), _, rfl, _, _, ⟨rfl, rfl⟩, (), _, ⟨same, rfl⟩, rfl, rfl⟩

/-- A mutator replays the record of its scope, or carries out a request that has
none. -/
theorem replayOr_ok {α : Type} {scope : IdempotencyScope}
    {replay : IdempotencyRow → Callback α} {fresh : Callback α} {db db' : Db} {result : α} :
    (replayOr scope replay fresh).eval db = .ok (result, db') ↔
      (∃ record, db.journal.record? scope.mutator scope.organizationId scope.idempotencyKey =
          some record ∧ record.requestHash = scope.requestHash ∧
          (replay record).eval db = .ok (result, db')) ∨
        (db.journal.record? scope.mutator scope.organizationId scope.idempotencyKey = none ∧
          fresh.eval db = .ok (result, db')) := by
  simp only [replayOr, Tx.eval_bind_ok, lockIdempotency_ok]
  constructor
  · rintro ⟨existing, middle, ⟨rfl, same, rfl⟩, ran⟩
    cases recorded : middle.journal.record? scope.mutator scope.organizationId
        scope.idempotencyKey with
    | none => exact .inr ⟨rfl, by simpa [recorded] using ran⟩
    | some record =>
        exact .inl ⟨record, rfl, same record (by simp [recorded]), by simpa [recorded] using ran⟩
  · rintro (⟨record, recorded, same, ran⟩ | ⟨unrecorded, ran⟩)
    · exact ⟨_, db, ⟨rfl, by simpa [recorded] using same, rfl⟩, by simpa [recorded] using ran⟩
    · exact ⟨_, db, ⟨rfl, by simp [unrecorded], rfl⟩, by simpa [unrecorded] using ran⟩

/-- `saveIdempotency` adds the first record of its scope. -/
theorem saveIdempotency_ok {id : Uuid} {input : IdempotencyInput} {db db' : Db}
    {answer : Unit} :
    (saveIdempotency id input).eval db = .ok (answer, db') ↔
      ((∀ record ∈ db.journal.idempotency, record.id ≠ id.text) ∧
        db.journal.record? input.mutator input.organizationId input.idempotencyKey = none) ∧
        db' = { db with journal := db.journal.withRecord (input.row id) } := by
  simp [saveIdempotency, Tx.eval_insert_ok, Journal.withRecord]

/-! ### Audit rows -/

/-- The constraints that a new audit row meets. -/
structure AuditEntry [Host] (journal : Journal) (audit : AuditRow) : Prop where
  payload : assertSafeControlPayload "audit.metadata" audit.metadata = .ok ()
  safe : bairuiControlJsonIsSafe audit.metadata = true
  id_new : ∀ other ∈ journal.audits, other.id ≠ audit.id
  sequence_new : ∀ other ∈ journal.audits,
    other.organizationId = audit.organizationId → other.sequence ≠ audit.sequence
  hash_new : ∀ other ∈ journal.audits,
    other.organizationId = audit.organizationId → other.eventHash ≠ audit.eventHash

/-- The row that `appendAudit` adds to a journal. -/
def AuditInput.entry (input : AuditInput) (id : Uuid) (now : Nat)
    (journal : Journal) : AuditRow :=
  input.row id now (journal.latestAudit input.organizationId)

/-- `appendAudit` adds one row after the latest one of the organization. -/
theorem appendAudit_ok [Host] {id : Uuid} {now : Nat} {input : AuditInput} {db db' : Db}
    {audit : AuditRow} :
    (appendAudit id now input).eval db = .ok (audit, db') ↔
      audit = input.entry id now db.journal ∧ AuditEntry db.journal audit ∧
        db' = { db with
                journal := { db.journal with audits := db.journal.audits ++ [audit] } } := by
  simp only [appendAudit, Tx.eval_bind_ok, advisoryLock_ok, Tx.eval_read, checked_ok,
    Tx.eval_insert_ok, Tx.eval_pure, Except.ok.injEq, Prod.mk.injEq, List.forall_mem_cons,
    List.not_mem_nil, Bool.not_eq_true', found_eq_false, decide_eq_false_iff_not,
    Bool.and_eq_false_imp, decide_eq_true_eq, false_implies, implies_true, and_true]
  constructor
  · rintro ⟨_, _, rfl, _, _, ⟨rfl, rfl⟩, _, _, ⟨payload, rfl⟩, _, _,
      ⟨⟨safe, idNew, sequenceNew, hashNew⟩, rfl⟩, rfl, rfl⟩
    exact ⟨rfl, ⟨payload, safe, idNew, sequenceNew, hashNew⟩, rfl⟩
  · rintro ⟨rfl, entry, rfl⟩
    exact ⟨(), _, rfl, _, _, ⟨rfl, rfl⟩, (), _, ⟨entry.payload, rfl⟩, (), _,
      ⟨⟨entry.safe, entry.id_new, entry.sequence_new, entry.hash_new⟩, rfl⟩, rfl, rfl⟩

/-! ### Outbox entries -/

/-- The constraints that a new outbox entry meets. -/
structure OutboxEntry [Host] (journal : Journal) (outbox : OutboxRow) : Prop where
  safe : bairuiControlJsonIsSafe outbox.body = true
  id_new : ∀ other ∈ journal.outbox, other.id ≠ outbox.id
  key_new : ∀ other ∈ journal.outbox,
    other.organizationId = outbox.organizationId →
      other.idempotencyKey ≠ outbox.idempotencyKey

/-- `INSERT INTO control_outbox` adds one entry. -/
theorem insertOutbox_ok [Host] {outbox : OutboxRow} {db db' : Db} {answer : Unit} :
    (insertOutbox outbox).eval db = .ok (answer, db') ↔
      OutboxEntry db.journal outbox ∧
        db' = { db with
                journal := { db.journal with outbox := db.journal.outbox ++ [outbox] } } := by
  simp only [insertOutbox, Tx.eval_insert_ok, List.forall_mem_cons, List.not_mem_nil,
    Bool.not_eq_true', found_eq_false, decide_eq_false_iff_not, Bool.and_eq_false_imp,
    decide_eq_true_eq, false_implies, implies_true, and_true]
  constructor
  · rintro ⟨⟨safe, idNew, keyNew⟩, rfl⟩
    exact ⟨⟨safe, idNew, keyNew⟩, rfl⟩
  · rintro ⟨entry, rfl⟩
    exact ⟨⟨entry.safe, entry.id_new, entry.key_new⟩, rfl⟩

/-! ### Control events -/

/-- The journal with one more event, outbox entry and audit row. -/
def Journal.withEvent (journal : Journal) (event : EventRow) (outbox : OutboxRow)
    (audit : AuditRow) : Journal :=
  { journal with
    events := journal.events ++ [event]
    outbox := journal.outbox ++ [outbox]
    audits := journal.audits ++ [audit] }

/-- The event that `appendEvent` adds to a journal. -/
def EventInput.entry (input : EventInput) (entropy : Entropy) (now : Nat)
    (journal : Journal) : EventRow :=
  input.row entropy.event now
    (maxOf ((journal.eventsOf input.deploymentId).map EventRow.eventSequence) + 1)

/-- The outbox entry of an event. -/
def EventInput.outbox (input : EventInput) (entropy : Entropy) (now : Nat)
    (event : EventRow) : OutboxRow :=
  pendingOutbox entropy.outbox now event.organizationId (some event.deploymentId)
    (some event.id) input.aggregateType input.aggregateId event.eventType
    ("event:" ++ event.id) event.outboxBody

/-- The argument of `appendAudit` for an event. -/
def EventInput.auditInput (input : EventInput) (event : EventRow) : AuditInput :=
  { organizationId := event.organizationId
    deploymentId := some event.deploymentId
    actorIdentity := event.sourceIdentity
    action := event.eventType
    aggregateType := input.aggregateType
    aggregateId := input.aggregateId
    metadata := event.auditMetadata
    createdAt := some event.occurredAt }

/-- The rows that `appendEvent` adds to a journal, and the constraints they meet. -/
structure EventEntry [Host] (entropy : Entropy) (now : Nat) (input : EventInput)
    (journal : Journal) (event : EventRow) (outbox : OutboxRow) (audit : AuditRow) :
    Prop where
  event_eq : event = input.entry entropy now journal
  outbox_eq : outbox = input.outbox entropy now event
  audit_eq : audit = (input.auditInput event).entry entropy.audit now journal
  payload : assertSafeControlPayload "event.summary" event.summary = .ok ()
  body : assertSafeControlPayload "outbox.body" event.outboxBody = .ok ()
  safe : bairuiControlJsonIsSafe event.summary = true
  id_new : ∀ other ∈ journal.events, other.id ≠ event.id
  sequence_new : ∀ other ∈ journal.events,
    other.deploymentId = event.deploymentId → other.eventSequence ≠ event.eventSequence
  key_new : ∀ other ∈ journal.events,
    other.organizationId = event.organizationId → other.idempotencyKey ≠ event.idempotencyKey
  outboxEntry : OutboxEntry journal outbox
  auditEntry : AuditEntry journal audit

/-- `appendEvent` adds one event, one outbox entry and one audit row. -/
theorem appendEvent_ok [Host] {entropy : Entropy} {now : Nat} {input : EventInput}
    {db db' : Db} {event : EventRow} :
    (appendEvent entropy now input).eval db = .ok (event, db') ↔
      ∃ outbox audit, EventEntry entropy now input db.journal event outbox audit ∧
        db' = { db with journal := db.journal.withEvent event outbox audit } := by
  simp only [appendEvent, Tx.eval_bind_ok, advisoryLock_ok, Tx.eval_read, checked_ok,
    Tx.eval_insert_ok, insertOutbox_ok, appendAudit_ok, Tx.eval_pure, Except.ok.injEq,
    Prod.mk.injEq, List.forall_mem_cons, List.not_mem_nil, Bool.not_eq_true', found_eq_false,
    decide_eq_false_iff_not, Bool.and_eq_false_imp, decide_eq_true_eq, false_implies,
    implies_true, and_true]
  constructor
  · rintro ⟨_, _, rfl, _, _, ⟨rfl, rfl⟩, _, _, ⟨payload, rfl⟩, _, _,
      ⟨⟨safe, idNew, sequenceNew, keyNew⟩, rfl⟩, _, _, ⟨body, rfl⟩, _, _,
      ⟨outboxEntry, rfl⟩, audit, _, ⟨auditEq, auditEntry, rfl⟩, rfl, rfl⟩
    exact ⟨_, audit, ⟨rfl, rfl, auditEq, payload, body, safe, idNew, sequenceNew, keyNew,
      ⟨outboxEntry.safe, outboxEntry.id_new, outboxEntry.key_new⟩,
      ⟨auditEntry.payload, auditEntry.safe, auditEntry.id_new, auditEntry.sequence_new,
        auditEntry.hash_new⟩⟩, rfl⟩
  · rintro ⟨outbox, audit, ⟨eventEq, rfl, auditEq, payload, body, safe, idNew, sequenceNew,
      keyNew, outboxEntry, auditEntry⟩, rfl⟩
    subst eventEq
    exact ⟨(), _, rfl, _, _, ⟨rfl, rfl⟩, (), _, ⟨payload, rfl⟩, (), _,
      ⟨⟨safe, idNew, sequenceNew, keyNew⟩, rfl⟩, (), _, ⟨body, rfl⟩, (), _,
      ⟨⟨outboxEntry.safe, outboxEntry.id_new, outboxEntry.key_new⟩, rfl⟩, audit, _,
      ⟨auditEq, ⟨auditEntry.payload, auditEntry.safe, auditEntry.id_new,
        auditEntry.sequence_new, auditEntry.hash_new⟩, rfl⟩, rfl, rfl⟩

/-- The idempotency record of a mutator is the first of its scope. -/
structure RecordEntry (entropy : Entropy) (input : IdempotencyInput) (journal : Journal) :
    Prop where
  id_new : ∀ record ∈ journal.idempotency, record.id ≠ entropy.idempotency.text
  scope_new : journal.record? input.mutator input.organizationId input.idempotencyKey = none

/-- A mutator of a deployment left one event and one idempotency record. -/
def Journal.Records [Host] (entropy : Entropy) (now : Nat) (input : EventInput)
    (record : EventRow → IdempotencyInput) (before after : Journal) : Prop :=
  ∃ event outbox audit, EventEntry entropy now input before event outbox audit ∧
    RecordEntry entropy (record event) before ∧
    after = (before.withEvent event outbox audit).withRecord
      ((record event).row entropy.idempotency)

/-! ### Changes outside a deployment -/

/-- The journal with one more outbox entry and audit row. -/
def Journal.withChange (journal : Journal) (outbox : OutboxRow) (audit : AuditRow) :
    Journal :=
  { journal with
    outbox := journal.outbox ++ [outbox]
    audits := journal.audits ++ [audit] }

/-- The redacted body of a global change. -/
def GlobalChangeInput.redacted (input : GlobalChangeInput) : Json :=
  (redactControlMetadata 0 (.obj input.body)).1

/-- The outbox entry of a global change. -/
def GlobalChangeInput.outbox (input : GlobalChangeInput) (entropy : Entropy) (now : Nat) :
    OutboxRow :=
  pendingOutbox entropy.outbox now input.organizationId input.deploymentId none
    input.aggregateType input.aggregateId input.eventType input.idempotencyKey input.redacted

/-- The argument of `appendAudit` for a global change. -/
def GlobalChangeInput.auditInput (input : GlobalChangeInput) : AuditInput :=
  { organizationId := input.organizationId
    deploymentId := input.deploymentId
    actorIdentity := input.actorIdentity
    action := input.eventType
    aggregateType := input.aggregateType
    aggregateId := input.aggregateId
    metadata := input.redacted
    createdAt := some input.createdAt }

/-- The rows that `appendGlobalChange` adds to a journal, and the constraints they
meet. -/
structure ChangeEntry [Host] (entropy : Entropy) (now : Nat) (input : GlobalChangeInput)
    (journal : Journal) (outbox : OutboxRow) (audit : AuditRow) : Prop where
  outbox_eq : outbox = input.outbox entropy now
  audit_eq : audit = input.auditInput.entry entropy.audit now journal
  body : assertSafeControlPayload "outbox.body" input.redacted = .ok ()
  outboxEntry : OutboxEntry journal outbox
  auditEntry : AuditEntry journal audit

/-- `appendGlobalChange` adds one outbox entry and one audit row. -/
theorem appendGlobalChange_ok [Host] {entropy : Entropy} {now : Nat}
    {input : GlobalChangeInput} {db db' : Db} {answer : Unit} :
    (appendGlobalChange entropy now input).eval db = .ok (answer, db') ↔
      ∃ outbox audit, ChangeEntry entropy now input db.journal outbox audit ∧
        db' = { db with journal := db.journal.withChange outbox audit } := by
  simp only [appendGlobalChange, Tx.eval_bind_ok, checked_ok, insertOutbox_ok, appendAudit_ok,
    Tx.eval_pure, Except.ok.injEq, Prod.mk.injEq]
  constructor
  · rintro ⟨_, _, ⟨body, rfl⟩, _, _, ⟨outboxEntry, rfl⟩, audit, _,
      ⟨auditEq, auditEntry, rfl⟩, -, rfl⟩
    exact ⟨_, audit, ⟨rfl, auditEq, body, outboxEntry,
      ⟨auditEntry.payload, auditEntry.safe, auditEntry.id_new, auditEntry.sequence_new,
        auditEntry.hash_new⟩⟩, rfl⟩
  · rintro ⟨outbox, audit, ⟨rfl, auditEq, body, outboxEntry, auditEntry⟩, rfl⟩
    exact ⟨(), _, ⟨body, rfl⟩, (), _, ⟨outboxEntry, rfl⟩, audit, _,
      ⟨auditEq, ⟨auditEntry.payload, auditEntry.safe, auditEntry.id_new,
        auditEntry.sequence_new, auditEntry.hash_new⟩, rfl⟩, trivial, rfl⟩

/-- A mutator outside a deployment left one change and one idempotency record. -/
def Journal.RecordsChange [Host] (entropy : Entropy) (now : Nat) (input : GlobalChangeInput)
    (record : IdempotencyInput) (before after : Journal) : Prop :=
  ∃ outbox audit, ChangeEntry entropy now input before outbox audit ∧
    RecordEntry entropy record before ∧
    after = (before.withChange outbox audit).withRecord (record.row entropy.idempotency)

end BairuiPlatform
