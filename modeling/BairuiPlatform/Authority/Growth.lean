/-
Module: BairuiPlatform.Authority.Growth
Purpose: What every change of the authority does to the journal: it appends the rows of
  one event, those of one change outside a deployment, or it works on the outbox.
Trusted boundary: none
Main exports: Db.Grows, Change.grows
-/
import BairuiPlatform.Authority.System

namespace BairuiPlatform

open Foundations Relation

/-- The aggregates that change outside a deployment. -/
def globalAggregates : List String :=
  ["release_manifest", "secret_reference"]

/-- The event describes an aggregate of a deployment, and its summary leaves the name
that the audit row gives to the event alone. -/
structure EventInput.Local (input : EventInput) : Prop where
  aggregate : input.aggregateType ∉ globalAggregates
  summary : ∀ field ∈ input.summary, field.1 ≠ "event_id"

/-- The change describes an aggregate outside a deployment, and names no event. -/
structure GlobalChangeInput.Global (input : GlobalChangeInput) : Prop where
  aggregate : input.aggregateType ∈ globalAggregates
  body : ∀ field ∈ input.body, field.1 ≠ "event_id"

/-- The aggregates outside a deployment, by type and id. -/
def Db.globals (db : Db) : List (String × String) :=
  (db.releaseManifests.map fun row => ("release_manifest", row.id)) ++
    db.secretReferences.map fun row => ("secret_reference", row.id)

/-- One change of the journal, with the aggregates outside a deployment next to it. -/
inductive Db.Grows [Host] (now : Nat) (before after : Db) : Prop where
  | event {entropy : Entropy} {input : EventInput} {event : EventRow} {outbox : OutboxRow}
      {audit : AuditRow} {records : List IdempotencyRow}
      (entry : EventEntry entropy now input before.journal event outbox audit)
      (isLocal : input.Local)
      (recorded : ∀ record ∈ records, record.aggregateType ∉ globalAggregates)
      (journal : after.journal =
        { before.journal.withEvent event outbox audit with
          idempotency := before.journal.idempotency ++ records })
      (globals : after.globals = before.globals)
  | change {entropy : Entropy} {input : GlobalChangeInput} {record : IdempotencyInput}
      {outbox : OutboxRow} {audit : AuditRow}
      (entry : ChangeEntry entropy now input before.journal outbox audit)
      (isGlobal : input.Global)
      (sameType : record.aggregateType = input.aggregateType)
      (sameId : record.aggregateId = input.aggregateId)
      (new : (input.aggregateType, input.aggregateId) ∉ before.globals)
      (journal : after.journal =
        (before.journal.withChange outbox audit).withRecord (record.row entropy.idempotency))
      (globals : ∀ name, name ∈ after.globals ↔
        name ∈ before.globals ∨ name = (input.aggregateType, input.aggregateId))
  | outbox (change : OutboxChange now before.journal after.journal)
      (globals : after.globals = before.globals)

namespace Db.Grows

variable [Host] {entropy : Entropy} {now : Nat} {before after : Db}

/-- A mutator of a deployment appends the rows of one event. -/
theorem ofRecords {input : EventInput} {record : EventRow → IdempotencyInput}
    (isLocal : input.Local)
    (recorded : ∀ event, (record event).aggregateType ∉ globalAggregates)
    (records : Journal.Records entropy now input record before.journal after.journal)
    (globals : after.globals = before.globals) : Db.Grows now before after := by
  obtain ⟨event, outbox, audit, entry, -, journal⟩ := records
  have kept : ∀ other ∈ [(record event).row entropy.idempotency],
      other.aggregateType ∉ globalAggregates := by
    simpa [IdempotencyInput.row] using recorded event
  exact .event entry isLocal kept journal globals

/-- A loop over leases appends the rows of one event at a time. -/
theorem ofAppends {input : EventInput} (isLocal : input.Local)
    (appends : Journal.Appends entropy now input before.journal after.journal)
    (globals : after.globals = before.globals) : Db.Grows now before after := by
  obtain ⟨event, outbox, audit, entry, journal⟩ := appends
  have unrecorded : ∀ other ∈ ([] : List IdempotencyRow),
      other.aggregateType ∉ globalAggregates := by simp
  exact .event entry isLocal unrecorded (by rw [journal]; simp [Journal.withEvent]) globals

/-- A mutator outside a deployment appends the rows of one change. -/
theorem ofRecordsChange {input : GlobalChangeInput} {record : IdempotencyInput}
    (isGlobal : input.Global) (sameType : record.aggregateType = input.aggregateType)
    (sameId : record.aggregateId = input.aggregateId)
    (records : Journal.RecordsChange entropy now input record before.journal after.journal)
    (new : (input.aggregateType, input.aggregateId) ∉ before.globals)
    (globals : ∀ name, name ∈ after.globals ↔
      name ∈ before.globals ∨ name = (input.aggregateType, input.aggregateId)) :
    Db.Grows now before after := by
  obtain ⟨outbox, audit, entry, -, journal⟩ := records
  exact .change entry isGlobal sameType sameId new journal globals

end Db.Grows

/-- Every change of the authority is one change of the journal. -/
theorem Change.grows [Host] {env : Env} {db db' : Db} (changed : Change env db db') :
    Db.Grows env.now db db' := by
  cases changed with
  | desiredState stores =>
      exact .ofRecords ⟨by simp [DesiredStateInput.event, globalAggregates],
        by simp [DesiredStateInput.event]⟩
        (fun _ => by simp [DesiredStateInput.record, globalAggregates]) stores.journal (by rw [stores.after]; rfl)
  | observation stores =>
      exact .ofRecords ⟨by simp [ObservationInput.event, globalAggregates],
        by simp [ObservationInput.event]⟩
        (fun _ => by simp [ObservationInput.record, globalAggregates]) stores.journal (by rw [stores.after]; rfl)
  | releaseManifest stores =>
      have new := stores.id_new
      rw [stores.id_eq] at new
      refine .ofRecordsChange ⟨by simp [ReleaseManifestInput.change, globalAggregates],
        by simp [ReleaseManifestInput.change]⟩ rfl rfl stores.journal ?_ fun name => ?_
      · simpa [Db.globals, ReleaseManifestInput.change] using new
      · rw [stores.after]
        simp [Db.globals, ReleaseManifestInput.change, stores.id_eq, or_comm, or_left_comm,
          eq_comm]
  | secretReference stores =>
      have new := stores.id_new
      rw [stores.row_eq] at new
      refine .ofRecordsChange ⟨by simp [SecretReferenceInput.change, globalAggregates],
        by simp [SecretReferenceInput.change]⟩ rfl rfl stores.journal ?_ fun name => ?_
      · simpa [Db.globals, SecretReferenceInput.change, SecretReferenceInput.row] using new
      · rw [stores.after]
        simp [Db.globals, SecretReferenceInput.change, stores.row_eq, SecretReferenceInput.row,
          or_assoc, eq_comm]
  | command stores =>
      exact .ofRecords ⟨by simp [CommandInput.event, globalAggregates],
        by simp [CommandInput.event]⟩
        (fun _ => by simp [CommandInput.record, globalAggregates]) stores.journal (by rw [stores.after]; rfl)
  | decision decides =>
      exact .ofRecords ⟨by simp [ApprovalDecisionInput.event, globalAggregates],
        by simp [ApprovalDecisionInput.event]⟩
        (fun _ => by simp [ApprovalDecisionInput.record, globalAggregates]) decides.journal (by rw [decides.after]; rfl)
  | expiry expires =>
      exact .ofAppends ⟨by simp [ExpiredLease.event, globalAggregates],
        by simp [ExpiredLease.event]⟩ expires.journal (by rw [expires.after]; rfl)
  | lease leases =>
      exact .ofAppends ⟨by simp [LeasableCommand.event, globalAggregates],
        by simp [LeasableCommand.event]⟩ leases.grants.journal
        (by rw [leases.grants.after]; rfl)
  | receipt records =>
      exact .ofRecords ⟨by simp [ReceiptInput.event, globalAggregates],
        by simp [ReceiptInput.event]⟩
        (fun _ => by simp [ReceiptInput.record, globalAggregates]) records.journal (by rw [records.after]; rfl)
  | verification verifies =>
      exact .ofRecords ⟨by simp [VerificationInput.event, globalAggregates],
        by simp [VerificationInput.event]⟩
        (fun _ => by simp [VerificationInput.record, globalAggregates]) verifies.journal (by rw [verifies.after]; rfl)
  | outbox change after => exact .outbox change (by rw [after]; rfl)

end BairuiPlatform
