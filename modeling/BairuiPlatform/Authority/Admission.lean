/-
Module: BairuiPlatform.Authority.Admission
Purpose: Which receipts and events the tables take: recordReceipt succeeds when its checks
  and the constraints of the schema let the receipt pass, and only then.
Trusted boundary: none
Main exports: EventInput.Fits, exists_eventEntry, RecordsReceipt.runs,
  ReceiptInput.Permitted, receipt_recorded_iff
-/
import BairuiPlatform.Authority.AuditChain
import BairuiPlatform.Authority.Success

namespace BairuiPlatform

open Foundations

/-! ### Events that a journal takes -/

/-- A UUID passes the payload check. -/
theorem Uuid.isSafeText (id : Uuid) : IsSafeText id.text := by
  apply isUuidChar_plain.isSafeText id.shaped
  rw [id.length_eq]
  decide

section Events

variable {entropy : Entropy} {now : Nat} {input : EventInput} {journal : Journal}

/-- The event of an input meets the constraints of a journal, that on its key apart. -/
structure EventInput.Fits [Host] (entropy : Entropy) (now : Nat) (input : EventInput)
    (journal : Journal) : Prop where
  payload : assertSafeControlPayload "event.summary"
    (input.entry entropy now journal).summary = .ok ()
  body : assertSafeControlPayload "outbox.body"
    (input.entry entropy now journal).outboxBody = .ok ()
  safe : bairuiControlJsonIsSafe (input.entry entropy now journal).summary = true
  id_new : ∀ other ∈ journal.events, other.id ≠ entropy.event.text
  outboxEntry : OutboxEntry journal
    (input.outbox entropy now (input.entry entropy now journal))
  auditEntry : AuditEntry journal
    ((input.auditInput (input.entry entropy now journal)).entry entropy.audit now journal)

/-- `appendEvent` succeeds when the event fits and its key is free. -/
theorem exists_eventEntry [Host] :
    (∃ event outbox audit, EventEntry entropy now input journal event outbox audit) ↔
      input.Fits entropy now journal ∧
        journal.KeyFree input.organizationId input.idempotencyKey := by
  constructor
  · rintro ⟨event, outbox, audit, entry⟩
    obtain rfl := entry.event_eq
    refine ⟨⟨entry.payload, entry.body, entry.safe, entry.id_new, ?_, ?_⟩, entry.key_new⟩
    · rw [← entry.outbox_eq]
      exact entry.outboxEntry
    · rw [← entry.audit_eq]
      exact entry.auditEntry
  · rintro ⟨fits, free⟩
    refine ⟨_, _, _, rfl, rfl, rfl, fits.payload, fits.body, fits.safe, fits.id_new, ?_, free,
      fits.outboxEntry, fits.auditEntry⟩
    intro other member same
    -- The new sequence number lies above every stored one of the deployment.
    have stored : other ∈ journal.eventsOf input.deploymentId :=
      List.mem_filter.mpr ⟨member, decide_eq_true same⟩
    have bounded := le_maxOf (List.mem_map_of_mem (f := EventRow.eventSequence) stored)
    show other.eventSequence ≠
      maxOf ((journal.eventsOf input.deploymentId).map EventRow.eventSequence) + 1
    omega

/-- The outbox body passes when what it repeats of the input does. -/
theorem EventInput.outboxBody_isSafe
    (repeated : assertSafeControlPayload "outbox.body" (input.repeated now) = .ok ()) :
    (input.entry entropy now journal).outboxBody.IsSafe := by
  rw [assertSafeControlPayload_ok] at repeated
  obtain ⟨-, deployment, -, eventType, -, state, -, refs, -, occurred, -⟩ := repeated
  have version : IsSafeText "1.0" := by
    unfold IsSafeText
    decide
  have names : ∀ name ∈ ["schema_version", "event_id", "deployment_id", "event_sequence",
      "event_type", "state", "evidence_refs", "occurred_at"], isForbiddenKey name = false := by
    decide
  simp only [List.forall_mem_cons] at names
  exact ⟨names.1, version, names.2.1, entropy.event.isSafeText, names.2.2.1, deployment,
    names.2.2.2.1, trivial, names.2.2.2.2.1, eventType, names.2.2.2.2.2.1, state,
    names.2.2.2.2.2.2.1, refs, names.2.2.2.2.2.2.2.1, occurred, trivial⟩

/-- An event of fresh random values fits when what its outbox body repeats of the input
passes the payload check: its summary and its audit row are redacted. -/
theorem EventInput.Drawn.fits [host : Host] (within : host.SpacesWithin)
    (drawn : input.Drawn entropy now journal)
    (repeated : assertSafeControlPayload "outbox.body" (input.repeated now) = .ok ()) :
    input.Fits entropy now journal := by
  have body : (input.entry entropy now journal).outboxBody.IsSafe :=
    EventInput.outboxBody_isSafe repeated
  have summary : (input.entry entropy now journal).summary.IsSafe :=
    redactControlMetadata_isSafe 0 _
  have metadata : ((input.auditInput (input.entry entropy now journal)).entry entropy.audit now
      journal).metadata.IsSafe := redactControlMetadata_isSafe 0 _
  exact
    { payload := (assertSafeControlPayload_ok _ _).mpr summary
      body := (assertSafeControlPayload_ok _ _).mpr body
      safe := bairuiControlJsonIsSafe_of_isSafe within summary
      id_new := drawn.event
      outboxEntry :=
        { safe := bairuiControlJsonIsSafe_of_isSafe within body
          id_new := drawn.outbox
          key_new := fun other member _ => drawn.outboxKey other member }
      auditEntry :=
        { payload := (assertSafeControlPayload_ok _ _).mpr metadata
          safe := bairuiControlJsonIsSafe_of_isSafe within metadata
          id_new := drawn.audit
          sequence_new := by
            intro other member same
            have stored : other ∈ journal.audits.filter fun audit =>
                audit.organizationId = input.organizationId :=
              List.mem_filter.mpr ⟨member, decide_eq_true same⟩
            have bounded := @le_latestBy _ AuditRow.sequence _ _ stored
            show other.sequence ≠
              ((journal.latestAudit input.organizationId).map AuditRow.sequence).getD 0 + 1
            unfold Journal.latestAudit
            omega
          hash_new := fun other member _ => drawn.auditHash other member } }

end Events

/-! ### Numbers and ids of attempts -/

/-- Every lease has a positive attempt number. -/
theorem authority_attempts_positive [Host] {db : Db} (reachable : Reachable controlAuthority db)
    {lease : LeaseRow} (member : lease ∈ db.leases) : 0 < lease.attempt := by
  have fenced := authority_fenced reachable
  exact ((fenced.numbered lease.commandId).le_length (Db.mem_leasesOf.mpr ⟨member, rfl⟩)).1

/-- Every verification has the id that its receipt gives it. -/
def Db.VerificationsNamed (db : Db) : Prop :=
  ∀ verification ∈ db.verifications, verification.id = verificationIdOf verification.receiptId

theorem Db.VerificationsNamed.change [Host] {env : Env} {db db' : Db}
    (named : db.VerificationsNamed) (changed : Change env db db') : db'.VerificationsNamed := by
  intro verification member
  cases changed.control with
  | frame same => exact named verification (same.verifications ▸ member)
  | command stores => exact named verification (by rw [stores.after] at member; exact member)
  | decision decides => exact named verification (by rw [decides.after] at member; exact member)
  | expiry expires => exact named verification (by rw [expires.after] at member; exact member)
  | lease leases =>
      exact named verification (by rw [leases.grants.after] at member; exact member)
  | @receipt input held eventType records =>
      have stored : verification ∈ input.verifications held.command db.verifications := by
        rw [records.after] at member
        exact member
      unfold ReceiptInput.verifications at stored
      split at stored
      · rcases List.mem_append.mp stored with old | new
        · exact named verification old
        · rw [List.mem_singleton.mp new]
          rfl
      · exact named verification stored
  | @verification input current observation verifies =>
      have stored : verification ∈
          updateWhere (fun row => row.id = input.id) (input.settle observation)
            db.verifications := by
        rw [verifies.after] at member
        exact member
      rcases mem_updateWhere.mp stored with ⟨old, oldMem, -, rfl⟩ | ⟨old, -⟩
      · exact named old oldMem
      · exact named verification old

theorem authority_verificationsNamed [Host] {db : Db}
    (reachable : Reachable controlAuthority db) : db.VerificationsNamed := by
  refine authority_invariant reachable Db.VerificationsNamed (fun db blank => ?_)
    fun _ _ _ _ named changed => named.change changed
  intro verification member
  rw [blank.verifications] at member
  cases member

/-! ### Receipts that the tables take -/

/-- What `recordReceipt` returns past its replay branch. -/
def ReceiptInput.answer (input : ReceiptInput) (env : Env) (deploymentId : String) (db' : Db) :
    ReceiptResult :=
  { receipt := input.row env.now deploymentId
    command := db'.command? input.commandId
    verificationId :=
      if input.state = .completionCandidate then some (verificationIdOf input.id) else none }

/-- A receipt that passes every check and constraint is recorded. -/
theorem RecordsReceipt.runs [Host] {env : Env} {input : ReceiptInput} {held : HeldLease}
    {eventType : String} {db db' : Db} (records : RecordsReceipt env input held eventType db db') :
    (recordReceiptFresh env input).eval db =
      .ok (input.answer env held.command.deploymentId db', db') := by
  obtain ⟨event, outbox, audit, eventEntry, record, journal⟩ := records.journal
  have after := records.after
  rw [journal] at after
  have receiptEntry := records.receiptEntry
  have receiptEntry' : ReceiptEntry
      { db with journal := db.journal.withEvent event outbox audit }
      (input.row env.now held.command.deploymentId) :=
    ⟨receiptEntry.safe, receiptEntry.attempt_pos, receiptEntry.version_pos,
      receiptEntry.id_new, receiptEntry.state_new, receiptEntry.key_new⟩
  simp only [recordReceiptFresh, Tx.eval_read_bind, Tx.eval_write_bind, Tx.eval_bind_ok,
    checkHeldLease_ok, ensure_ok, Tx.eval_orRaise_ok, appendEvent_ok, insertReceipt_ok,
    Tx.eval_whenever_ok, Tx.eval_write, insertVerification_ok, saveIdempotency_ok,
    Tx.eval_pure, Except.ok.injEq, Prod.mk.injEq, and_assoc, exists_and_left, exists_eq_left,
    exists_const, true_and]
  refine ⟨held, records.heldBy, records.sequence, records.transition, records.completed,
    eventType, records.eventType_eq, event, _, ⟨outbox, audit, eventEntry, rfl⟩, receiptEntry',
    ?_⟩
  rw [ReceiptInput.apply, ReceiptInput.leases, ReceiptInput.verifications] at after
  by_cases terminal : input.state.terminal = true
  · by_cases candidate : input.state = .completionCandidate
    · have entry := records.verificationEntry candidate
      rw [if_pos terminal, if_pos candidate] at after
      rw [after]
      exact ⟨_, .inl ⟨terminal, rfl⟩, _, .inl ⟨candidate, ⟨entry.safe, entry.attempt_pos,
        entry.version_pos, entry.id_new, entry.attempt_new⟩, rfl⟩, record.id_new,
        record.scope_new, rfl, rfl⟩
    · rw [if_pos terminal, if_neg candidate] at after
      rw [after]
      exact ⟨_, .inl ⟨terminal, rfl⟩, _, .inr ⟨candidate, rfl⟩, record.id_new,
        record.scope_new, rfl, rfl⟩
  · have candidate : input.state ≠ .completionCandidate := by
      intro candidate
      rw [candidate] at terminal
      exact terminal rfl
    rw [if_neg terminal, if_neg candidate] at after
    rw [after]
    exact ⟨_, .inr ⟨terminal, rfl⟩, _, .inr ⟨candidate, rfl⟩, record.id_new,
      record.scope_new, rfl, rfl⟩

/-- The receipt passes the checks of the code: it presents the active unexpired lease, in
the scope of that lease; the transition table allows its state from the current one of the
command; its event sequence is larger than every one before; and nothing of it is stored
yet. -/
structure ReceiptInput.Permitted (env : Env) (held : HeldLease) (db : Db)
    (input : ReceiptInput) : Prop where
  metadata : input.guard = .ok ()
  heldBy : HeldBy env input held db
  sequence : db.receiptSequence input.commandId input.attempt < input.eventSequence
  transition : input.state ∈ receiptTransitions held.command.state
  completed : input.state.terminal = true → input.completedAt.isSome = true
  repeated : ∀ eventType ∈ input.state.eventType, assertSafeControlPayload "outbox.body"
    ((input.event held.command.deploymentId eventType).repeated env.now) = .ok ()
  fresh : input.Fresh env held db

/-- The call answers with the receipt, and the receipt is stored. -/
def ReceiptInput.Recorded [Host] (env : Env) (db : Db) (input : ReceiptInput) : Prop :=
  ∃ result final, (recordReceipt env input).inTransaction none db = (.ok result, final) ∧
    result.receipt.id = input.id ∧ result.receipt ∈ final.receipts

/-- The event of an allowed receipt has a type. -/
theorem eventType_of_transition {state : CommandState} {receipt : ReceiptState}
    (allowed : receipt ∈ receiptTransitions state) :
    ∃ eventType, receipt.eventType = some eventType := by
  cases receipt with
  | succeeded => cases state <;> simp [receiptTransitions] at allowed
  | _ => exact ⟨_, rfl⟩

section Receipts

variable [host : Host] {env : Env} {db : Db} {input : ReceiptInput} {held : HeldLease}

/-- A permitted candidate is the first one of its attempt. -/
theorem ReceiptInput.Permitted.verificationEntry (permitted : input.Permitted env held db)
    (reachable : Reachable controlAuthority db) (positive : 0 < input.attempt)
    (version : ∀ version ∈ input.observationVersion, 0 < version) :
    VerificationEntry db (input.verificationRow held.command) := by
  have sound := authority_sound reachable
  have joined := Db.holds_of_heldLease? permitted.heldBy.joined
  refine ⟨by simp [ReceiptInput.verificationRow, bairuiControlJsonIsSafe, jsonItemsAreSafe],
    positive, version, ?_, ?_⟩
  · intro other member same
    -- The receipt that the id of a stored verification names is stored.
    obtain ⟨⟨command, -, receipt, receiptMem, joins⟩, -⟩ :=
      authority_candidates reachable other member
    have named := authority_verificationsNamed reachable other member
    rw [same] at named
    have sameReceipt : input.id = other.receiptId := by
      have texts := congrArg String.toList named
      simp only [ReceiptInput.verificationRow, verificationIdOf, String.toList_append] at texts
      exact String.toList_inj.mp (List.append_cancel_left texts)
    exact permitted.fresh.receipt receipt receiptMem (joins.receipt_id.trans sameReceipt.symm)
  · intro other member own
    -- A command with a verification is being judged, and no receipt is allowed any more.
    obtain ⟨⟨command, commandMem, receipt, -, joins⟩, -⟩ :=
      authority_candidates reachable other member
    have same : command = held.command := by
      apply sound.commands.eq_of_key_eq commandMem joined.command_mem
      exact joins.command_id.trans (own.trans joined.command_id.symm)
    have judged := joins.judged
    have allowed := isHeld_of_transition permitted.transition
    rw [same] at judged
    intro _
    revert judged allowed
    cases held.command.state <;> simp [CommandState.isJudged, CommandState.isHeld]

/-- A permitted receipt meets the constraints of the schema, but for the two that the code
does not check. -/
theorem ReceiptInput.Permitted.records (permitted : input.Permitted env held db)
    (reachable : Reachable controlAuthority db) (within : host.SpacesWithin)
    (stateFree : db.StateFree input)
    (version : ∀ version ∈ input.observationVersion, 0 < version) :
    ∃ eventType final, RecordsReceipt env input held eventType db final := by
  have joined := Db.holds_of_heldLease? permitted.heldBy.joined
  have positive : 0 < input.attempt := by
    rw [← joined.lease_attempt]
    exact authority_attempts_positive reachable joined.lease_mem
  obtain ⟨eventType, typed⟩ := eventType_of_transition permitted.transition
  have fits := (permitted.fresh.drawn eventType typed).fits within
    (permitted.repeated eventType typed)
  obtain ⟨event, outbox, audit, entry⟩ := exists_eventEntry.mpr ⟨fits, permitted.fresh.eventKey⟩
  have records : Journal.Records env.entropy env.now
      (input.event held.command.deploymentId eventType)
      (fun event => input.record held.command.deploymentId event) db.journal
      ((db.journal.withEvent event outbox audit).withRecord
        ((input.record held.command.deploymentId event).row env.entropy.idempotency)) :=
    ⟨event, outbox, audit, entry, ⟨permitted.fresh.record, permitted.fresh.request⟩, rfl⟩
  exact ⟨eventType, input.apply env.now held.command db _,
    { heldBy := permitted.heldBy
      sequence := permitted.sequence
      transition := permitted.transition
      completed := permitted.completed
      eventType_eq := typed
      receiptEntry :=
        { safe := bairuiControlJsonIsSafe_of_isSafe within
            (assertOperationalMetadata_isSafe permitted.metadata)
          attempt_pos := positive
          version_pos := version
          id_new := permitted.fresh.receipt
          state_new := stateFree
          key_new := fun other member _ own => permitted.fresh.receiptKey other member own }
      verificationEntry := fun _ => permitted.verificationEntry reachable positive version
      journal := records
      after := rfl }⟩

/-- A new receipt that was recorded met the constraints of the schema. -/
theorem ReceiptInput.Recorded.entry (recorded : input.Recorded env db)
    (new : db.journal.record? "command-receipt" input.organizationId input.idempotencyKey = none) :
    db.StateFree input ∧ ∀ version ∈ input.observationVersion, 0 < version := by
  obtain ⟨result, final, ran, -, -⟩ := recorded
  obtain ⟨-, ran⟩ := checked_bind_ok.mp (Tx.inTransaction_ok ran)
  rcases replayOr_ok.mp ran with ⟨record, replayed, -, -⟩ | ⟨-, fresh⟩
  · exact absurd (new.symm.trans replayed) (by simp)
  · obtain ⟨held, eventType, records, -⟩ := recordReceiptFresh_ok fresh
    exact ⟨records.receiptEntry.state_new, records.receiptEntry.version_pos⟩

/-- A permitted receipt is recorded exactly when its attempt has no receipt in the same
state yet, and its observation version, if it has one, is positive. -/
theorem receipt_recorded_iff (within : host.SpacesWithin)
    (reachable : Reachable controlAuthority db) (permitted : input.Permitted env held db) :
    input.Recorded env db ↔
      db.StateFree input ∧ ∀ version ∈ input.observationVersion, 0 < version := by
  constructor
  · intro recorded
    exact recorded.entry permitted.fresh.request
  · rintro ⟨stateFree, version⟩
    obtain ⟨eventType, final, records⟩ :=
      permitted.records reachable within stateFree version
    have fresh := records.runs
    have ran : (recordReceipt env input).eval db =
        .ok (input.answer env held.command.deploymentId final, final) :=
      checked_bind_ok.mpr ⟨permitted.metadata,
        replayOr_ok.mpr (.inr ⟨permitted.fresh.request, fresh⟩)⟩
    refine ⟨_, final, Tx.inTransaction_none_ok ran, rfl, ?_⟩
    rw [records.after]
    exact List.mem_append_right _ List.mem_cons_self

end Receipts

section Sample

attribute [local instance] Host.posix

/-- The environment of the next call. -/
def sampleNext : Env := .numbered 4 5000000

/-- A receipt of the running command. -/
def sampleProgress (state : ReceiptState) : ReceiptInput :=
  sampleReceipt state 3 5000000

/-- Both kinds of progress of the running command pass the checks of the code. -/
theorem sampleProgress_passes :
    ∀ state ∈ [ReceiptState.executing, .running],
      (∃ held ∈ (sampleDb.execute sampleRunning).2.heldLease? (sampleProgress state).leaseId
          "command-1" 1,
        (sampleProgress state).guard = .ok () ∧
        held.inScope (sampleProgress state) = true ∧ held.lease.state = .active ∧
        (∀ column ∈ held.command.leaseExpiresAt,
          dateNow sampleNext.now < dateParseColumn column) ∧
        held.lease.tokenHash = hashToken (sampleProgress state).leaseToken ∧
        (sampleDb.execute sampleRunning).2.receiptSequence "command-1" 1 <
          (sampleProgress state).eventSequence ∧
        state ∈ receiptTransitions held.command.state ∧
        (∀ eventType ∈ state.eventType, assertSafeControlPayload "outbox.body"
          (((sampleProgress state).event held.command.deploymentId eventType).repeated
            sampleNext.now) = .ok ()) ∧
        (sampleProgress state).Fresh sampleNext held (sampleDb.execute sampleRunning).2) ∧
      ((sampleDb.execute sampleRunning).2.StateFree (sampleProgress state) ↔
        state = .executing) := by
  exact sample_reaches.2.2

theorem sampleProgress_permitted (state : ReceiptState)
    (progress : state ∈ [ReceiptState.executing, .running]) :
    ∃ held, (sampleProgress state).Permitted sampleNext held
      (sampleDb.execute sampleRunning).2 := by
  obtain ⟨held, joined, metadata, scope, active, alive, token, sequence, transition, repeated,
    fresh⟩ := (sampleProgress_passes state progress).1
  refine ⟨held, metadata, ⟨joined, scope, active, alive, token⟩, sequence, transition, ?_,
    repeated, fresh⟩
  intro terminal
  simp only [List.mem_cons, List.not_mem_nil, or_false] at progress
  rcases progress with rfl | rfl <;> cases terminal

/-- The first executing receipt of the running command is recorded. -/
theorem receipt_recorded_sample :
    (sampleProgress .executing).Recorded sampleNext (sampleDb.execute sampleRunning).2 := by
  obtain ⟨held, permitted⟩ := sampleProgress_permitted .executing (by simp)
  apply (receipt_recorded_iff posix_spacesWithin (execute_reachable sampleDb_blank _)
    permitted).mpr
  refine ⟨(sampleProgress_passes .executing (by simp)).2.mpr rfl, ?_⟩
  intro version bound
  cases bound

/-- A second running receipt of the attempt is permitted, and the schema rejects it. -/
theorem repeated_running_rejected :
    Reachable controlAuthority (sampleDb.execute sampleRunning).2 ∧
      (∃ held, (sampleProgress .running).Permitted sampleNext held
        (sampleDb.execute sampleRunning).2) ∧
      ¬(sampleProgress .running).Recorded sampleNext (sampleDb.execute sampleRunning).2 := by
  obtain ⟨held, permitted⟩ := sampleProgress_permitted .running (by simp)
  refine ⟨execute_reachable sampleDb_blank _, ⟨held, permitted⟩, ?_⟩
  intro recorded
  have stateFree := (recorded.entry permitted.fresh.request).1
  cases (sampleProgress_passes .running (by simp)).2.mp stateFree

end Sample

end BairuiPlatform
