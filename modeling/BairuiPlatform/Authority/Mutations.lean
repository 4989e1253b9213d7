/-
Module: BairuiPlatform.Authority.Mutations
Purpose: The eight mutators that keep an idempotency record, as one: a payload check, a
  replay, and what is carried out once; and the same request under another key.
Trusted boundary: none
Main exports: Mutation, Mutation.scope, Mutation.rekey, Mutation.Succeeds,
  Mutation.succeeds_iff, Mutation.fresh_rekey
-/
import BairuiPlatform.Authority.Admission

namespace BairuiPlatform

open Foundations

/-! ### Mutations -/

/-- The requests that leave an idempotency record. -/
inductive Mutation where
  | createDesiredState (input : DesiredStateInput)
  | recordObservation (input : ObservationInput)
  | createCommand (input : CommandInput)
  | decideApproval (input : ApprovalDecisionInput)
  | createReleaseManifest (input : ReleaseManifestInput)
  | registerSecretReference (input : SecretReferenceInput)
  | recordReceipt (input : ReceiptInput)
  | verifyCommand (input : VerificationInput)

namespace Mutation

/-- The request of a mutation. -/
def request : Mutation → AuthorityRequest
  | .createDesiredState input => .createDesiredState input
  | .recordObservation input => .recordObservation input
  | .createCommand input => .createCommand input
  | .decideApproval input => .decideApproval input
  | .createReleaseManifest input => .createReleaseManifest input
  | .registerSecretReference input => .registerSecretReference input
  | .recordReceipt input => .recordReceipt input
  | .verifyCommand input => .verifyCommand input

/-- The envelope of a mutation. -/
def envelope : Mutation → Envelope
  | .createDesiredState input => input.toEnvelope
  | .recordObservation input => input.toEnvelope
  | .createCommand input => input.toEnvelope
  | .decideApproval input => input.toEnvelope
  | .createReleaseManifest input => input.toEnvelope
  | .registerSecretReference input => input.toEnvelope
  | .recordReceipt input => input.toEnvelope
  | .verifyCommand input => input.toEnvelope

/-- The namespace of the idempotency records of a mutator. -/
def mutator : Mutation → String
  | .createDesiredState _ => "desired-state"
  | .recordObservation _ => "observation"
  | .createCommand _ => "control-command"
  | .decideApproval _ => "approval-decision"
  | .createReleaseManifest _ => "release-manifest"
  | .registerSecretReference _ => "secret-reference"
  | .recordReceipt _ => "command-receipt"
  | .verifyCommand _ => "command-verification"

/-- The digest of a request. -/
def requestHash : Mutation → String
  | .createDesiredState input => digestControlValue input.toJson
  | .recordObservation input => digestControlValue input.toJson
  | .createCommand input => digestControlValue input.toJson
  | .decideApproval input => digestControlValue input.toJson
  | .createReleaseManifest input => digestControlValue input.toJson
  | .registerSecretReference input => digestControlValue input.toJson
  | .recordReceipt input => input.requestHash
  | .verifyCommand input => digestControlValue input.toJson

/-- The idempotency scope of a mutation. -/
def scope (mutation : Mutation) : IdempotencyScope :=
  mutation.envelope.scope mutation.mutator mutation.requestHash

/-- The payload check before the transaction of a mutation. -/
def guard : Mutation → Except ControlError Unit
  | .createDesiredState input => input.guard
  | .recordObservation input => input.guard
  | .createCommand input => input.guard
  | .decideApproval _ => .ok ()
  | .createReleaseManifest input => input.guard
  | .registerSecretReference _ => .ok ()
  | .recordReceipt input => input.guard
  | .verifyCommand input => input.guard

/-- What a replay of a mutation returns. -/
def replay : (mutation : Mutation) → IdempotencyRow → Callback mutation.request.Answer
  | .createDesiredState _, record => Tx.read fun db => db.desiredState? record.aggregateId
  | .recordObservation _, record => Tx.read fun db => db.observation? record.aggregateId
  | .createCommand _, record => Tx.read fun db => db.commandResult record.aggregateId
  | .decideApproval _, record => Tx.read fun db => db.approval? record.aggregateId
  | .createReleaseManifest _, record => Tx.read fun db => db.releaseManifest? record.aggregateId
  | .registerSecretReference _, record =>
      Tx.read fun db => db.secretReference? record.aggregateId
  | .recordReceipt _, record => replayReceipt record
  | .verifyCommand input, record => Tx.read fun db =>
      { verification := db.verification? (replayedVerificationId record input)
        command := db.command? record.aggregateId }

/-- A mutation past its replay branch. -/
def fresh [Host] (env : Env) : (mutation : Mutation) → Callback mutation.request.Answer
  | .createDesiredState input => createDesiredStateFresh env input
  | .recordObservation input => recordObservationFresh env input
  | .createCommand input => createCommandFresh env input
  | .decideApproval input => decideApprovalFresh env input
  | .createReleaseManifest input => createReleaseManifestFresh env input
  | .registerSecretReference input => registerSecretReferenceFresh env input
  | .recordReceipt input => recordReceiptFresh env input
  | .verifyCommand input => verifyCommandFresh env input

/-- A mutation replays a record, or is carried out, once its payload is checked. -/
theorem callback_ok [Host] {env : Env} {mutation : Mutation} {db db' : Db}
    {answer : mutation.request.Answer} :
    (mutation.request.callback env).eval db = .ok (answer, db') ↔
      mutation.guard = .ok () ∧
        (replayOr mutation.scope mutation.replay (mutation.fresh env)).eval db =
          .ok (answer, db') := by
  cases mutation with
  | decideApproval input => exact (and_iff_right rfl).symm
  | registerSecretReference input => exact (and_iff_right rfl).symm
  | createDesiredState input => exact checked_bind_ok
  | recordObservation input => exact checked_bind_ok
  | createCommand input => exact checked_bind_ok
  | createReleaseManifest input => exact checked_bind_ok
  | recordReceipt input => exact checked_bind_ok
  | verifyCommand input => exact checked_bind_ok

/-- The call of a mutation answers, when its connection is kept. -/
def Succeeds [Host] (env : Env) (db : Db) (mutation : Mutation) : Prop :=
  ∃ answer final, Call.execute ⟨env, mutation.request, none⟩ db = (.ok answer, final)

/-- A mutation whose key has no record answers when it can be carried out. -/
theorem succeeds_iff [Host] {env : Env} {mutation : Mutation} {db : Db}
    (unrecorded : db.journal.record? mutation.mutator mutation.envelope.organizationId
      mutation.envelope.idempotencyKey = none) :
    mutation.Succeeds env db ↔
      mutation.guard = .ok () ∧
        ∃ answer final, (mutation.fresh env).eval db = .ok (answer, final) := by
  constructor
  · rintro ⟨answer, final, ran⟩
    obtain ⟨guarded, ran⟩ := callback_ok.mp (Tx.inTransaction_ok ran)
    rcases replayOr_ok.mp ran with ⟨record, recorded, -, -⟩ | ⟨-, carriedOut⟩
    · exact absurd (unrecorded.symm.trans recorded) (by simp)
    · exact ⟨guarded, answer, final, carriedOut⟩
  · rintro ⟨guarded, answer, final, carriedOut⟩
    exact ⟨answer, final, Tx.inTransaction_none_ok
      (callback_ok.mpr ⟨guarded, replayOr_ok.mpr (.inr ⟨unrecorded, carriedOut⟩)⟩)⟩

/-! ### The same request under another key -/

/-- The request with another idempotency key. -/
def rekey (key : String) : Mutation → Mutation
  | .createDesiredState input => .createDesiredState { input with idempotencyKey := key }
  | .recordObservation input => .recordObservation { input with idempotencyKey := key }
  | .createCommand input => .createCommand { input with idempotencyKey := key }
  | .decideApproval input => .decideApproval { input with idempotencyKey := key }
  | .createReleaseManifest input => .createReleaseManifest { input with idempotencyKey := key }
  | .registerSecretReference input =>
      .registerSecretReference { input with idempotencyKey := key }
  | .recordReceipt input => .recordReceipt { input with idempotencyKey := key }
  | .verifyCommand input => .verifyCommand { input with idempotencyKey := key }

@[simp] theorem rekey_self (mutation : Mutation) :
    mutation.rekey mutation.envelope.idempotencyKey = mutation := by
  cases mutation <;> rfl

@[simp] theorem rekey_rekey (mutation : Mutation) (first second : String) :
    (mutation.rekey first).rekey second = mutation.rekey second := by
  cases mutation <;> rfl

@[simp] theorem rekey_mutator (mutation : Mutation) (key : String) :
    (mutation.rekey key).mutator = mutation.mutator := by
  cases mutation <;> rfl

@[simp] theorem rekey_organizationId (mutation : Mutation) (key : String) :
    (mutation.rekey key).envelope.organizationId = mutation.envelope.organizationId := by
  cases mutation <;> rfl

@[simp] theorem rekey_idempotencyKey (mutation : Mutation) (key : String) :
    (mutation.rekey key).envelope.idempotencyKey = key := by
  cases mutation <;> rfl

@[simp] theorem rekey_guard (mutation : Mutation) (key : String) :
    (mutation.rekey key).guard = mutation.guard := by
  cases mutation <;> rfl

/-- The mutators that write a control event of a deployment. -/
def writesEvent : Mutation → Bool
  | .createReleaseManifest _ | .registerSecretReference _ => false
  | _ => true

@[simp] theorem rekey_writesEvent (mutation : Mutation) (key : String) :
    (mutation.rekey key).writesEvent = mutation.writesEvent := by
  cases mutation <;> rfl

/-- No row that the mutator itself writes bears the key in the scope of the request. -/
def RowKeyFree (db : Db) (key : String) : Mutation → Prop
  | .createDesiredState input => ∀ other ∈ db.desiredStates,
      other.organizationId = input.organizationId → other.idempotencyKey ≠ key
  | .recordObservation input => ∀ other ∈ db.observations,
      other.organizationId = input.organizationId → other.idempotencyKey ≠ key
  | .createCommand input => ∀ owned, db.ownedDeployment? input.deploymentId = some owned →
      owned.deployment.organizationId = input.organizationId →
      ∀ other ∈ db.commands,
        other.deploymentId = input.deploymentId → other.idempotencyKey ≠ key
  | .recordReceipt input => ∀ held,
      db.heldLease? input.leaseId input.commandId input.attempt = some held →
      held.inScope input = true →
      ∀ other ∈ db.receipts, other.commandId = input.commandId → other.idempotencyKey ≠ some key
  | .createReleaseManifest input => ∀ other ∈ db.journal.outbox,
      other.organizationId = input.organizationId → other.idempotencyKey ≠ "release:" ++ key
  | .registerSecretReference input => ∀ other ∈ db.journal.outbox,
      other.organizationId = input.organizationId →
        other.idempotencyKey ≠ "secret-reference:" ++ key
  | .decideApproval _ | .verifyCommand _ => True

/-- The key is free for the mutation: its mutator has no record of it, no row of the
mutator bears it, and no event does if the mutator writes one. -/
structure Free (db : Db) (key : String) (mutation : Mutation) : Prop where
  unrecorded : db.journal.record? mutation.mutator mutation.envelope.organizationId key = none
  row : mutation.RowKeyFree db key
  event : mutation.writesEvent = true →
    db.journal.KeyFree mutation.envelope.organizationId (key ++ ":event")

/-- The key is free for a mutation whatever key the mutation bears. -/
theorem Free.rekey {db : Db} {mutation : Mutation} {key other : String}
    (free : mutation.Free db other) :
    (mutation.rekey key).Free db other := by
  cases mutation <;> exact ⟨free.unrecorded, free.row, free.event⟩

end Mutation

section Rekeying

variable [Host] {entropy : Entropy} {now : Nat} {journal : Journal}

/-- Whether an event fits does not depend on its key. -/
theorem EventEntry.rekey {input : EventInput} {event : EventRow} {outbox : OutboxRow}
    {audit : AuditRow} {key : String}
    (entry : EventEntry entropy now input journal event outbox audit)
    (free : journal.KeyFree input.organizationId key) :
    ∃ event outbox audit,
      EventEntry entropy now { input with idempotencyKey := key } journal event outbox audit := by
  have fits := (exists_eventEntry.mp ⟨event, outbox, audit, entry⟩).1
  exact exists_eventEntry.mpr
    ⟨⟨fits.payload, fits.body, fits.safe, fits.id_new, fits.outboxEntry, fits.auditEntry⟩, free⟩

/-- Whether a change outside a deployment is recorded depends on its key only through the
key of its outbox entry. -/
theorem ChangeEntry.rekey {input : GlobalChangeInput} {outbox : OutboxRow} {audit : AuditRow}
    {key : String} (entry : ChangeEntry entropy now input journal outbox audit)
    (free : ∀ other ∈ journal.outbox, other.organizationId = input.organizationId →
      other.idempotencyKey ≠ key) :
    ∃ outbox audit,
      ChangeEntry entropy now { input with idempotencyKey := key } journal outbox audit := by
  obtain rfl := entry.outbox_eq
  obtain rfl := entry.audit_eq
  exact ⟨_, _, rfl, rfl, entry.body,
    ⟨entry.outboxEntry.safe, entry.outboxEntry.id_new, free⟩, entry.auditEntry⟩

variable {env : Env} {db : Db} {key : String}

theorem createDesiredStateFresh_rekey {input : DesiredStateInput}
    (free : (Mutation.createDesiredState input).Free db key)
    {answer : Option DesiredStateRow} {final : Db}
    (ran : (createDesiredStateFresh env input).eval db = .ok (answer, final)) :
    ∃ answer final, (createDesiredStateFresh env { input with idempotencyKey := key }).eval db =
      .ok (answer, final) := by
  simp only [createDesiredStateFresh, Tx.eval_read_bind, Tx.eval_bind_ok,
    getDeploymentForUpdate_ok, ensure_ok, Tx.eval_whenever_ok, Tx.eval_write, insertDesiredState_ok,
    appendEvent_ok, saveIdempotency_ok, Tx.eval_pure, Except.ok.injEq, Prod.mk.injEq,
    and_assoc, exists_and_left, exists_eq_left, exists_const] at ran ⊢
  obtain ⟨deployment, owns, version, sequence, config, release, backup, _, superseded, entry, _,
    desired, event, _, ⟨outbox, audit, eventEntry, rfl⟩, idNew, -, -, -⟩ := ran
  by_cases active : input.lifecycleStatus = .active
  · obtain rfl : _ = _ := by simpa [active] using superseded
    obtain rfl : _ = _ := by simpa [active] using desired
    obtain ⟨event', outbox', audit', eventEntry'⟩ := eventEntry.rekey (free.event rfl)
    exact ⟨_, _, deployment, owns, version, sequence, config, release, backup, _,
      .inl ⟨active, trivial, rfl⟩,
      ⟨entry.deployment, entry.safe, entry.reference, entry.version_pos, entry.id_new,
        entry.version_new, (forall_mem_supersedeActive fun _ => Iff.rfl).mpr free.row⟩, _,
      .inl ⟨active, trivial, rfl⟩, event', _, ⟨outbox', audit', eventEntry', rfl⟩, idNew,
      free.unrecorded, rfl, rfl⟩
  · obtain rfl : _ = _ := by simpa [active] using superseded
    obtain rfl : _ = _ := by simpa [active] using desired
    obtain ⟨event', outbox', audit', eventEntry'⟩ := eventEntry.rekey (free.event rfl)
    exact ⟨_, _, deployment, owns, version, sequence, config, release, backup, _,
      .inr ⟨active, rfl⟩,
      ⟨entry.deployment, entry.safe, entry.reference, entry.version_pos, entry.id_new,
        entry.version_new, free.row⟩, _, .inr ⟨active, rfl⟩, event', _,
      ⟨outbox', audit', eventEntry', rfl⟩, idNew, free.unrecorded, rfl, rfl⟩

theorem recordObservationFresh_rekey {input : ObservationInput}
    (free : (Mutation.recordObservation input).Free db key)
    {answer : Option ObservationRow} {final : Db}
    (ran : (recordObservationFresh env input).eval db = .ok (answer, final)) :
    ∃ answer final, (recordObservationFresh env { input with idempotencyKey := key }).eval db =
      .ok (answer, final) := by
  simp only [recordObservationFresh, Tx.eval_read_bind, Tx.eval_write_bind, Tx.eval_bind_ok,
    getDeploymentForUpdate_ok, ensure_ok, insertObservation_ok, appendEvent_ok,
    saveIdempotency_ok, Tx.eval_pure, Except.ok.injEq, Prod.mk.injEq, and_assoc,
    exists_and_left, exists_eq_left, exists_const] at ran ⊢
  obtain ⟨deployment, owns, version, sequence, desired, freshness, entry, event, _,
    ⟨outbox, audit, eventEntry, rfl⟩, idNew, -, -, -⟩ := ran
  obtain ⟨event', outbox', audit', eventEntry'⟩ := eventEntry.rekey (free.event rfl)
  exact ⟨_, _, deployment, owns, version, sequence, desired, freshness,
    ⟨entry.safe, entry.version_pos, entry.id_new, entry.version_new, free.row⟩, event', _,
    ⟨outbox', audit', eventEntry', rfl⟩, idNew, free.unrecorded, rfl, rfl⟩

theorem createCommandFresh_rekey {input : CommandInput}
    (free : (Mutation.createCommand input).Free db key)
    {answer : CommandResult} {final : Db}
    (ran : (createCommandFresh env input).eval db = .ok (answer, final)) :
    ∃ answer final, (createCommandFresh env { input with idempotencyKey := key }).eval db =
      .ok (answer, final) := by
  simp only [createCommandFresh, Tx.eval_read_bind, Tx.eval_bind_ok, getDeploymentForUpdate_ok,
    ensure_ok, insertCommand_ok, insertApproval?_ok, appendEvent_ok, saveIdempotency_ok,
    Tx.eval_pure, Except.ok.injEq, Prod.mk.injEq, and_assoc, exists_and_left, exists_eq_left,
    exists_const] at ran ⊢
  obtain ⟨deployment, owns, expected, alive, usable, entry, approvalEntry, event, _,
    ⟨outbox, audit, eventEntry, rfl⟩, idNew, -, -, -⟩ := ran
  obtain ⟨event', outbox', audit', eventEntry'⟩ := eventEntry.rekey (free.event rfl)
  have own : ∀ other ∈ db.commands, other.deploymentId = deployment.id →
      other.idempotencyKey ≠ key := by
    rw [owns.id_eq]
    exact free.row _ owns.joined owns.organization
  exact ⟨_, _, deployment, owns, expected, alive, usable,
    ⟨entry.safe, entry.secretRefs, entry.id_new, own⟩,
    fun row member => ⟨(approvalEntry row member).safe, (approvalEntry row member).id_new,
      (approvalEntry row member).key_new⟩,
    event', _, ⟨outbox', audit', eventEntry', rfl⟩, idNew, free.unrecorded, rfl, rfl⟩

theorem decideApprovalFresh_rekey {input : ApprovalDecisionInput}
    (free : (Mutation.decideApproval input).Free db key)
    {answer : Option ApprovalRow} {final : Db}
    (ran : (decideApprovalFresh env input).eval db = .ok (answer, final)) :
    ∃ answer final, (decideApprovalFresh env { input with idempotencyKey := key }).eval db =
      .ok (answer, final) := by
  simp only [decideApprovalFresh, Tx.eval_read_bind, Tx.eval_write_bind, Tx.eval_bind_ok,
    Tx.eval_orRaise_ok, ensure_ok, Tx.eval_whenever_ok, Tx.eval_write, appendEvent_ok,
    saveIdempotency_ok, Tx.eval_pure, Except.ok.injEq, Prod.mk.injEq, Option.filter_eq_some_iff,
    and_assoc, exists_and_left, exists_eq_left, exists_const, true_and] at ran ⊢
  obtain ⟨current, joined, scope, pending, alive, separate, _, rejected, event, _,
    ⟨outbox, audit, eventEntry, rfl⟩, idNew, -, -, -⟩ := ran
  by_cases decision : input.decision = .rejected
  · obtain rfl : _ = _ := by simpa [decision] using rejected
    obtain ⟨event', outbox', audit', eventEntry'⟩ := eventEntry.rekey (free.event rfl)
    exact ⟨_, _, current, joined, scope, pending, alive, separate, _, .inl ⟨decision, rfl⟩,
      event', _, ⟨outbox', audit', eventEntry', rfl⟩, idNew, free.unrecorded, rfl, rfl⟩
  · obtain rfl : _ = _ := by simpa [decision] using rejected
    obtain ⟨event', outbox', audit', eventEntry'⟩ := eventEntry.rekey (free.event rfl)
    exact ⟨_, _, current, joined, scope, pending, alive, separate, _, .inr ⟨decision, rfl⟩,
      event', _, ⟨outbox', audit', eventEntry', rfl⟩, idNew, free.unrecorded, rfl, rfl⟩

theorem createReleaseManifestFresh_rekey {input : ReleaseManifestInput}
    (free : (Mutation.createReleaseManifest input).Free db key)
    {answer : Option ReleaseManifestRow} {final : Db}
    (ran : (createReleaseManifestFresh env input).eval db = .ok (answer, final)) :
    ∃ answer final,
      (createReleaseManifestFresh env { input with idempotencyKey := key }).eval db =
        .ok (answer, final) := by
  simp only [createReleaseManifestFresh, Tx.eval_bind_ok, Tx.eval_orRaise_ok,
    Tx.eval_insert_ok, appendGlobalChange_ok, saveIdempotency_ok, Tx.eval_pure,
    Except.ok.injEq, Prod.mk.injEq, and_assoc, exists_and_left, exists_eq_left,
    exists_const] at ran ⊢
  obtain ⟨imageDigest, digest, constraints, _, ⟨outbox, audit, change, rfl⟩, idNew, -, -, -⟩ :=
    ran
  obtain ⟨outbox', audit', change'⟩ := change.rekey free.row
  exact ⟨_, _, imageDigest, digest, constraints, _, ⟨outbox', audit', change', rfl⟩, idNew,
    free.unrecorded, rfl, rfl⟩

theorem registerSecretReferenceFresh_rekey {input : SecretReferenceInput}
    (free : (Mutation.registerSecretReference input).Free db key)
    {answer : Option SecretReferenceRow} {final : Db}
    (ran : (registerSecretReferenceFresh env input).eval db = .ok (answer, final)) :
    ∃ answer final,
      (registerSecretReferenceFresh env { input with idempotencyKey := key }).eval db =
        .ok (answer, final) := by
  simp only [registerSecretReferenceFresh, Tx.eval_read_bind, Tx.eval_bind_ok, ensure_ok,
    Tx.eval_insert_ok, appendGlobalChange_ok, saveIdempotency_ok, Tx.eval_pure,
    Except.ok.injEq, Prod.mk.injEq, and_assoc, exists_and_left, exists_eq_left,
    exists_const] at ran ⊢
  obtain ⟨agent, deploymentId, _, deployment, constraints, _, ⟨outbox, audit, change, rfl⟩,
    idNew, -, -, -⟩ := ran
  obtain ⟨-, rfl⟩ := secretDeployment_ok deployment
  obtain ⟨outbox', audit', change'⟩ := change.rekey free.row
  exact ⟨agent, _, _, deploymentId, _, deployment, constraints, _,
    ⟨outbox', audit', change', rfl⟩, idNew, free.unrecorded, rfl, rfl⟩

theorem recordReceiptFresh_rekey {input : ReceiptInput}
    (free : (Mutation.recordReceipt input).Free db key)
    {answer : ReceiptResult} {final : Db}
    (ran : (recordReceiptFresh env input).eval db = .ok (answer, final)) :
    ∃ answer final, (recordReceiptFresh env { input with idempotencyKey := key }).eval db =
      .ok (answer, final) := by
  obtain ⟨held, eventType, records, -⟩ := recordReceiptFresh_ok ran
  obtain ⟨event, outbox, audit, eventEntry, record, -⟩ := records.journal
  obtain ⟨event', outbox', audit', eventEntry'⟩ := eventEntry.rekey (free.event rfl)
  have heldBy := records.heldBy
  have entry := records.receiptEntry
  let rekeyed : ReceiptInput := { input with idempotencyKey := key }
  have again : RecordsReceipt env rekeyed held eventType db
      (rekeyed.apply env.now held.command db
        ((db.journal.withEvent event' outbox' audit').withRecord
          ((rekeyed.record held.command.deploymentId event').row env.entropy.idempotency))) :=
    { heldBy := ⟨heldBy.joined, heldBy.scope, heldBy.active, heldBy.alive, heldBy.token⟩
      sequence := records.sequence
      transition := records.transition
      completed := records.completed
      eventType_eq := records.eventType_eq
      receiptEntry := ⟨entry.safe, entry.attempt_pos, entry.version_pos, entry.id_new,
        entry.state_new, fun other member _ own =>
          free.row held heldBy.joined heldBy.scope other member own⟩
      verificationEntry := records.verificationEntry
      journal := ⟨event', outbox', audit', eventEntry', ⟨record.id_new, free.unrecorded⟩, rfl⟩
      after := rfl }
  exact ⟨_, _, again.runs⟩

theorem verifyCommandFresh_rekey {input : VerificationInput}
    (free : (Mutation.verifyCommand input).Free db key)
    {answer : VerificationResult} {final : Db}
    (ran : (verifyCommandFresh env input).eval db = .ok (answer, final)) :
    ∃ answer final, (verifyCommandFresh env { input with idempotencyKey := key }).eval db =
      .ok (answer, final) := by
  simp only [verifyCommandFresh, Tx.eval_read_bind, Tx.eval_write_bind, Tx.eval_bind_ok,
    Tx.eval_orRaise_ok, ensure_ok, Tx.eval_whenever_ok, checkEvidence_ok,
    updateVerification_ok, appendEvent_ok, saveIdempotency_ok, Tx.eval_pure, Except.ok.injEq,
    Prod.mk.injEq, Option.filter_eq_some_iff, decide_eq_true_eq, and_assoc, exists_and_left,
    exists_eq_left, exists_const] at ran ⊢
  obtain ⟨current, joined, idEq, scope, verifying, checking, unsettled, observation, observed,
    _, evidence, safe, positive, event, _, ⟨outbox, audit, eventEntry, rfl⟩, idNew, -, -,
    -⟩ := ran
  rcases evidence with ⟨verified, evidence, rfl⟩ | ⟨unverified, rfl⟩
  · obtain ⟨event', outbox', audit', eventEntry'⟩ := eventEntry.rekey (free.event rfl)
    exact ⟨_, _, current, joined, idEq, scope, verifying, checking, unsettled, observation,
      observed, _, .inl ⟨verified,
        ⟨evidence.healthy, evidence.fresh, evidence.version, evidence.newer, evidence.desired,
          evidence.received, evidence.timely, evidence.receipt_refs, evidence.observation_refs,
          evidence.verification_refs⟩, rfl⟩,
      safe, positive, event', _, ⟨outbox', audit', eventEntry', rfl⟩, idNew,
      free.unrecorded, rfl, rfl⟩
  · obtain ⟨event', outbox', audit', eventEntry'⟩ := eventEntry.rekey (free.event rfl)
    exact ⟨_, _, current, joined, idEq, scope, verifying, checking, unsettled, observation,
      observed, _, .inr ⟨unverified, rfl⟩, safe, positive, event', _,
      ⟨outbox', audit', eventEntry', rfl⟩, idNew, free.unrecorded, rfl, rfl⟩

namespace Mutation

/-- What can be carried out under one key can be carried out under every free one. -/
theorem fresh_rekey {mutation : Mutation} (free : mutation.Free db key)
    {answer : mutation.request.Answer} {final : Db}
    (ran : (mutation.fresh env).eval db = .ok (answer, final)) :
    ∃ answer final, ((mutation.rekey key).fresh env).eval db = .ok (answer, final) := by
  cases mutation with
  | createDesiredState input => exact createDesiredStateFresh_rekey free ran
  | recordObservation input => exact recordObservationFresh_rekey free ran
  | createCommand input => exact createCommandFresh_rekey free ran
  | decideApproval input => exact decideApprovalFresh_rekey free ran
  | createReleaseManifest input => exact createReleaseManifestFresh_rekey free ran
  | registerSecretReference input => exact registerSecretReferenceFresh_rekey free ran
  | recordReceipt input => exact recordReceiptFresh_rekey free ran
  | verifyCommand input => exact verifyCommandFresh_rekey free ran

/-- A mutation answers under every free key when it answers under one. -/
theorem succeeds_rekey_iff {mutation : Mutation}
    (own : mutation.Free db mutation.envelope.idempotencyKey) (free : mutation.Free db key) :
    (mutation.rekey key).Succeeds env db ↔ mutation.Succeeds env db := by
  have unrecorded : db.journal.record? (mutation.rekey key).mutator
      (mutation.rekey key).envelope.organizationId
      (mutation.rekey key).envelope.idempotencyKey = none := by
    simpa using free.unrecorded
  rw [succeeds_iff unrecorded, succeeds_iff own.unrecorded, rekey_guard]
  refine and_congr_right fun _ => ⟨?_, ?_⟩
  · rintro ⟨answer, final, ran⟩
    have back := fresh_rekey (Free.rekey own) ran
    rwa [rekey_rekey, rekey_self] at back
  · rintro ⟨answer, final, ran⟩
    exact fresh_rekey free ran

end Mutation

end Rekeying

end BairuiPlatform
