/-
Module: BairuiPlatform.Authority.Novelty
Purpose: What of an event and of a receipt must be stored nowhere before the tables take it.
Trusted boundary: none
Main exports: Journal.KeyFree, EventInput.Drawn, ReceiptInput.Fresh, Db.StateFree
-/
import BairuiPlatform.Authority.ReceiptEffects

namespace BairuiPlatform

/-! ### Events -/

/-- No event of an organization is stored under a key. -/
def Journal.KeyFree (journal : Journal) (organizationId key : String) : Prop :=
  ∀ other ∈ journal.events, other.organizationId = organizationId → other.idempotencyKey ≠ key

section Events

variable {entropy : Entropy} {now : Nat} {input : EventInput} {journal : Journal}

/-- The random values of an event, and the hash of its audit row, are stored nowhere. -/
structure EventInput.Drawn (entropy : Entropy) (now : Nat) (input : EventInput)
    (journal : Journal) : Prop where
  event : ∀ other ∈ journal.events, other.id ≠ entropy.event.text
  outbox : ∀ other ∈ journal.outbox, other.id ≠ entropy.outbox.text
  outboxKey : ∀ other ∈ journal.outbox,
    other.idempotencyKey ≠ "event:" ++ entropy.event.text
  audit : ∀ other ∈ journal.audits, other.id ≠ entropy.audit.text
  auditHash : ∀ other ∈ journal.audits, other.eventHash ≠
    ((input.auditInput (input.entry entropy now journal)).entry entropy.audit now
      journal).eventHash

instance : Decidable (input.Drawn entropy now journal) :=
  decidable_of_iff
    ((∀ other ∈ journal.events, other.id ≠ entropy.event.text) ∧
      (∀ other ∈ journal.outbox, other.id ≠ entropy.outbox.text) ∧
      (∀ other ∈ journal.outbox, other.idempotencyKey ≠ "event:" ++ entropy.event.text) ∧
      (∀ other ∈ journal.audits, other.id ≠ entropy.audit.text) ∧
      ∀ other ∈ journal.audits, other.eventHash ≠
        ((input.auditInput (input.entry entropy now journal)).entry entropy.audit now
          journal).eventHash)
    ⟨fun ⟨event, outbox, outboxKey, audit, auditHash⟩ =>
      ⟨event, outbox, outboxKey, audit, auditHash⟩,
      fun drawn => ⟨drawn.event, drawn.outbox, drawn.outboxKey, drawn.audit, drawn.auditHash⟩⟩

end Events

/-- What the outbox body of an event repeats of its input. -/
def EventInput.repeated (input : EventInput) (now : Nat) : Json :=
  .obj [("deployment_id", .str input.deploymentId), ("event_type", .str input.eventType),
    ("state", .ofText? input.state), ("evidence_refs", .ofTexts input.evidenceRefs),
    ("occurred_at", .str (isoString (input.occurredAt.getD (isoNow now))))]

/-! ### Receipts -/

/-- The ids, the idempotency key and the random values of a receipt are stored nowhere. -/
structure ReceiptInput.Fresh (env : Env) (held : HeldLease) (db : Db) (input : ReceiptInput) :
    Prop where
  request : db.journal.record? "command-receipt" input.organizationId input.idempotencyKey = none
  record : ∀ record ∈ db.journal.idempotency, record.id ≠ env.entropy.idempotency.text
  receipt : ∀ other ∈ db.receipts, other.id ≠ input.id
  receiptKey : ∀ other ∈ db.receipts, other.commandId = input.commandId →
    other.idempotencyKey ≠ some input.idempotencyKey
  eventKey : db.journal.KeyFree input.organizationId (input.idempotencyKey ++ ":event")
  drawn : ∀ eventType ∈ input.state.eventType,
    (input.event held.command.deploymentId eventType).Drawn env.entropy env.now db.journal

instance (env : Env) (held : HeldLease) (db : Db) (input : ReceiptInput) :
    Decidable (input.Fresh env held db) :=
  decidable_of_iff
    (db.journal.record? "command-receipt" input.organizationId input.idempotencyKey = none ∧
      (∀ record ∈ db.journal.idempotency, record.id ≠ env.entropy.idempotency.text) ∧
      (∀ other ∈ db.receipts, other.id ≠ input.id) ∧
      (∀ other ∈ db.receipts, other.commandId = input.commandId →
        other.idempotencyKey ≠ some input.idempotencyKey) ∧
      (∀ other ∈ db.journal.events, other.organizationId = input.organizationId →
        other.idempotencyKey ≠ input.idempotencyKey ++ ":event") ∧
      ∀ eventType ∈ input.state.eventType,
        (input.event held.command.deploymentId eventType).Drawn env.entropy env.now db.journal)
    ⟨fun ⟨request, record, receipt, receiptKey, eventKey, drawn⟩ =>
      ⟨request, record, receipt, receiptKey, eventKey, drawn⟩,
      fun fresh => ⟨fresh.request, fresh.record, fresh.receipt, fresh.receiptKey,
        fresh.eventKey, fresh.drawn⟩⟩

/-- No receipt of the attempt in the same state is stored. -/
def Db.StateFree (db : Db) (input : ReceiptInput) : Prop :=
  ∀ receipt ∈ db.receipts, receipt.commandId = input.commandId →
    receipt.attempt = input.attempt → receipt.state ≠ input.state

instance (db : Db) (input : ReceiptInput) : Decidable (db.StateFree input) :=
  inferInstanceAs (Decidable (∀ receipt ∈ db.receipts, receipt.commandId = input.commandId →
    receipt.attempt = input.attempt → receipt.state ≠ input.state))

end BairuiPlatform
