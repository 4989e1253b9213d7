/-
Module: BairuiPlatform.Authority.ReceiptEffects
Purpose: What recordReceipt and verifyCommand do to the tables when they carry out a
  request, and the checks that the request has passed.
Trusted boundary: none
Main exports: recordReceiptFresh_ok, verifyCommandFresh_ok, RecordsReceipt, Evidence,
  VerifiesCommand
-/
import BairuiPlatform.Authority.CommandEffects

namespace BairuiPlatform

open Foundations

/-! ### Receipts -/

theorem Db.heldLease?_eq_some {db : Db} {leaseId commandId : String} {attempt : Nat}
    {held : HeldLease} :
    db.heldLease? leaseId commandId attempt = some held ↔
      db.leases.find? (fun row =>
          row.id = leaseId && row.commandId = commandId && row.attempt = attempt) =
        some held.lease ∧
      db.commands.find? (fun row => row.id = held.lease.commandId) = some held.command ∧
      db.attempts.find? (fun row =>
          row.commandId = held.lease.commandId && row.attempt = held.lease.attempt) =
        some held.attempt ∧
      db.ownedDeployment? held.lease.deploymentId = some held.deployment := by
  unfold Db.heldLease?
  simp only [Option.bind_eq_bind, Option.bind_eq_some_iff, Option.pure_def, Option.some.injEq]
  constructor
  · rintro ⟨lease, foundLease, command, foundCommand, attempt, foundAttempt, deployment,
      foundDeployment, rfl⟩
    exact ⟨foundLease, foundCommand, foundAttempt, foundDeployment⟩
  · rintro ⟨foundLease, foundCommand, foundAttempt, foundDeployment⟩
    exact ⟨_, foundLease, _, foundCommand, _, foundAttempt, _, foundDeployment, rfl⟩

/-- The rows of a join on one lease are stored, under the keys of the lease. -/
structure Db.Holds (db : Db) (held : HeldLease) (leaseId commandId : String) (attempt : Nat) :
    Prop where
  lease_mem : held.lease ∈ db.leases
  lease_id : held.lease.id = leaseId
  lease_command : held.lease.commandId = commandId
  lease_attempt : held.lease.attempt = attempt
  command_mem : held.command ∈ db.commands
  command_id : held.command.id = commandId
  attempt_mem : held.attempt ∈ db.attempts
  attempt_command : held.attempt.commandId = commandId
  attempt_number : held.attempt.attempt = attempt

theorem Db.holds_of_heldLease? {db : Db} {leaseId commandId : String} {attempt : Nat}
    {held : HeldLease} (joined : db.heldLease? leaseId commandId attempt = some held) :
    db.Holds held leaseId commandId attempt := by
  obtain ⟨foundLease, foundCommand, foundAttempt, -⟩ := Db.heldLease?_eq_some.mp joined
  have leaseKeys := List.find?_some foundLease
  have commandKey := List.find?_some foundCommand
  have attemptKeys := List.find?_some foundAttempt
  simp only [Bool.and_eq_true, decide_eq_true_eq] at leaseKeys commandKey attemptKeys
  exact
    { lease_mem := List.mem_of_find?_eq_some foundLease
      lease_id := leaseKeys.1.1
      lease_command := leaseKeys.1.2
      lease_attempt := leaseKeys.2
      command_mem := List.mem_of_find?_eq_some foundCommand
      command_id := commandKey.trans leaseKeys.1.2
      attempt_mem := List.mem_of_find?_eq_some foundAttempt
      attempt_command := attemptKeys.1.trans leaseKeys.1.2
      attempt_number := attemptKeys.2.trans leaseKeys.2 }

/-- What the checks of `recordReceipt` on the lease establish. -/
structure HeldBy (env : Env) (input : ReceiptInput) (held : HeldLease) (db : Db) :
    Prop where
  joined : db.heldLease? input.leaseId input.commandId input.attempt = some held
  scope : held.inScope input = true
  active : held.lease.state = .active
  alive : ∀ column ∈ held.command.leaseExpiresAt, dateNow env.now < dateParseColumn column
  token : held.lease.tokenHash = hashToken input.leaseToken

theorem checkHeldLease_ok {env : Env} {input : ReceiptInput} {db db' : Db}
    {held : HeldLease} :
    (checkHeldLease env input).eval db = .ok (held, db') ↔
      HeldBy env input held db ∧ db' = db := by
  simp only [checkHeldLease, Tx.eval_read_bind, Tx.eval_bind_ok, Tx.eval_orRaise_ok, ensure_ok,
    Tx.eval_pure, Except.ok.injEq, Prod.mk.injEq, and_assoc, exists_and_left, exists_eq_left,
    exists_const]
  constructor
  · rintro ⟨_, joined, scope, active, alive, token, rfl, rfl⟩
    exact ⟨⟨joined, scope, active, alive, token⟩, rfl⟩
  · rintro ⟨holds, rfl⟩
    exact ⟨held, holds.joined, holds.scope, holds.active, holds.alive, holds.token, rfl, rfl⟩

/-- The constraints that a new receipt meets. -/
structure ReceiptEntry [Host] (db : Db) (row : ReceiptRow) : Prop where
  safe : bairuiControlJsonIsSafe row.resultSummary = true
  attempt_pos : 0 < row.attempt
  version_pos : ∀ version ∈ row.observationVersion, 0 < version
  id_new : ∀ other ∈ db.receipts, other.id ≠ row.id
  state_new : ∀ other ∈ db.receipts, other.commandId = row.commandId →
    other.attempt = row.attempt → other.state ≠ row.state
  key_new : ∀ other ∈ db.receipts, other.idempotencyKey.isSome = true →
    other.commandId = row.commandId → other.idempotencyKey ≠ row.idempotencyKey

theorem insertReceipt_ok [Host] {row : ReceiptRow} {db db' : Db} {answer : Unit} :
    (insertReceipt row).eval db = .ok (answer, db') ↔
      ReceiptEntry db row ∧ db' = { db with receipts := db.receipts ++ [row] } := by
  simp only [insertReceipt, Tx.eval_insert_ok, List.forall_mem_cons, List.not_mem_nil,
    Bool.not_eq_true', found_eq_false, decide_eq_false_iff_not, Bool.and_eq_false_imp,
    Bool.and_eq_true, and_imp, decide_eq_true_eq, Option.all_eq_true, false_implies,
    implies_true, and_true]
  constructor
  · rintro ⟨⟨safe, positive, version, idNew, stateNew, keyNew⟩, rfl⟩
    exact ⟨⟨safe, positive, version, idNew, stateNew, keyNew⟩, rfl⟩
  · rintro ⟨entry, rfl⟩
    exact ⟨⟨entry.safe, entry.attempt_pos, entry.version_pos, entry.id_new, entry.state_new,
      entry.key_new⟩, rfl⟩

/-- The constraints that a new verification meets. -/
structure VerificationEntry [Host] (db : Db) (row : VerificationRow) : Prop where
  safe : bairuiControlJsonIsSafe row.checks = true
  attempt_pos : 0 < row.attempt
  version_pos : ∀ version ∈ row.observationVersion, 0 < version
  id_new : ∀ other ∈ db.verifications, other.id ≠ row.id
  attempt_new : ∀ other ∈ db.verifications, other.commandId = row.commandId →
    other.attempt ≠ row.attempt

theorem insertVerification_ok [Host] {row : VerificationRow} {db db' : Db} {answer : Unit} :
    (insertVerification row).eval db = .ok (answer, db') ↔
      VerificationEntry db row ∧
        db' = { db with verifications := db.verifications ++ [row] } := by
  simp only [insertVerification, Tx.eval_insert_ok, List.forall_mem_cons, List.not_mem_nil,
    Bool.not_eq_true', found_eq_false, decide_eq_false_iff_not, Bool.and_eq_false_imp,
    decide_eq_true_eq, Option.all_eq_true, false_implies, implies_true, and_true]
  constructor
  · rintro ⟨⟨safe, positive, version, idNew, attemptNew⟩, rfl⟩
    exact ⟨⟨safe, positive, version, idNew, attemptNew⟩, rfl⟩
  · rintro ⟨entry, rfl⟩
    exact ⟨⟨entry.safe, entry.attempt_pos, entry.version_pos, entry.id_new,
      entry.attempt_new⟩, rfl⟩

namespace ReceiptInput

/-- The leases after a receipt: a terminal one consumes its lease. -/
def leases (input : ReceiptInput) (now : Nat) (rows : List LeaseRow) : List LeaseRow :=
  if input.state.terminal = true then
    updateWhere (fun row => row.id = input.leaseId && row.state = .active)
      (fun row => row.consume (input.completedAt.getD now)) rows
  else rows

/-- The verifications after a receipt: a completion candidate opens one. -/
def verifications (input : ReceiptInput) (command : CommandRow)
    (rows : List VerificationRow) : List VerificationRow :=
  if input.state = .completionCandidate then rows ++ [input.verificationRow command] else rows

/-- The tables after a receipt, next to a journal. -/
def apply (input : ReceiptInput) (now : Nat) (command : CommandRow) (db : Db)
    (journal : Journal) : Db :=
  { db with
    receipts := db.receipts ++ [input.row now command.deploymentId]
    commands := updateWhere (fun row => row.id = input.commandId)
      (fun row => row.afterReceipt now input.state input.completedAt) db.commands
    attempts := updateWhere
      (fun row => row.commandId = input.commandId && row.attempt = input.attempt)
      (fun row => row.afterReceipt now input) db.attempts
    leases := input.leases now db.leases
    verifications := input.verifications command db.verifications
    journal := journal }

end ReceiptInput

/-- `recordReceipt` recorded the receipt of its input. -/
structure RecordsReceipt [Host] (env : Env) (input : ReceiptInput) (held : HeldLease)
    (eventType : String) (db db' : Db) : Prop where
  heldBy : HeldBy env input held db
  sequence : db.receiptSequence input.commandId input.attempt < input.eventSequence
  transition : input.state ∈ receiptTransitions held.command.state
  completed : input.state.terminal = true → input.completedAt.isSome = true
  eventType_eq : input.state.eventType = some eventType
  receiptEntry : ReceiptEntry db (input.row env.now held.command.deploymentId)
  verificationEntry : input.state = .completionCandidate →
    VerificationEntry db (input.verificationRow held.command)
  journal : Journal.Records env.entropy env.now
    (input.event held.command.deploymentId eventType)
    (fun event => input.record held.command.deploymentId event) db.journal db'.journal
  after : db' = input.apply env.now held.command db db'.journal

theorem recordReceiptFresh_ok [Host] {env : Env} {input : ReceiptInput} {db db' : Db}
    {result : ReceiptResult}
    (ran : (recordReceiptFresh env input).eval db = .ok (result, db')) :
    ∃ held eventType, RecordsReceipt env input held eventType db db' ∧
      result =
        { receipt := input.row env.now held.command.deploymentId
          command := db'.command? input.commandId
          verificationId :=
            if input.state = .completionCandidate then some (verificationIdOf input.id)
            else none } := by
  simp only [recordReceiptFresh, Tx.eval_read_bind, Tx.eval_write_bind, Tx.eval_bind_ok,
    checkHeldLease_ok, ensure_ok, Tx.eval_orRaise_ok, appendEvent_ok, insertReceipt_ok,
    Tx.eval_whenever_ok, Tx.eval_write, insertVerification_ok, saveIdempotency_ok,
    Tx.eval_pure, Except.ok.injEq, Prod.mk.injEq, and_assoc, exists_and_left, exists_eq_left,
    exists_const, true_and] at ran
  obtain ⟨held, heldBy, sequence, transition, completed, eventType, eventTypeEq, event, _,
    ⟨outbox, audit, eventEntry, rfl⟩, receiptEntry, _, consumed, _, verified, idNew, scopeNew,
    rfl, rfl⟩ := ran
  have receiptEntry' : ReceiptEntry db (input.row env.now held.command.deploymentId) :=
    ⟨receiptEntry.safe, receiptEntry.attempt_pos, receiptEntry.version_pos,
      receiptEntry.id_new, receiptEntry.state_new, receiptEntry.key_new⟩
  refine ⟨held, eventType, ?_, rfl⟩
  rcases consumed with ⟨terminal, rfl⟩ | ⟨terminal, rfl⟩ <;>
    rcases verified with ⟨candidate, entry, rfl⟩ | ⟨candidate, rfl⟩
  · exact ⟨heldBy, sequence, transition, completed, eventTypeEq, receiptEntry',
      fun _ => ⟨entry.safe, entry.attempt_pos, entry.version_pos, entry.id_new,
        entry.attempt_new⟩,
      ⟨event, outbox, audit, eventEntry, ⟨idNew, scopeNew⟩, rfl⟩, by
        rw [ReceiptInput.apply, ReceiptInput.leases, ReceiptInput.verifications,
          if_pos terminal, if_pos candidate]⟩
  · exact ⟨heldBy, sequence, transition, completed, eventTypeEq, receiptEntry',
      fun isCandidate => absurd isCandidate candidate,
      ⟨event, outbox, audit, eventEntry, ⟨idNew, scopeNew⟩, rfl⟩, by
        rw [ReceiptInput.apply, ReceiptInput.leases, ReceiptInput.verifications,
          if_pos terminal, if_neg candidate]⟩
  · exact absurd (by rw [candidate]; rfl) terminal
  · exact ⟨heldBy, sequence, transition, completed, eventTypeEq, receiptEntry',
      fun isCandidate => absurd isCandidate candidate,
      ⟨event, outbox, audit, eventEntry, ⟨idNew, scopeNew⟩, rfl⟩, by
        rw [ReceiptInput.apply, ReceiptInput.leases, ReceiptInput.verifications,
          if_neg terminal, if_neg candidate]⟩

/-! ### Verification -/

theorem Db.openVerification?_eq_some {db : Db} {commandId : String} {attempt : Nat}
    {current : OpenVerification} :
    db.openVerification? commandId attempt = some current ↔
      db.verifications.find? (fun row =>
          row.commandId = commandId && row.attempt = attempt) = some current.verification ∧
      db.commands.find? (fun row => row.id = current.verification.commandId) =
        some current.command ∧
      db.receipts.find? (fun row => row.id = current.verification.receiptId) =
        some current.receipt ∧
      db.ownedDeployment? current.verification.deploymentId = some current.deployment := by
  unfold Db.openVerification?
  simp only [Option.bind_eq_bind, Option.bind_eq_some_iff, Option.pure_def, Option.some.injEq]
  constructor
  · rintro ⟨verification, foundVerification, command, foundCommand, receipt, foundReceipt,
      deployment, foundDeployment, rfl⟩
    exact ⟨foundVerification, foundCommand, foundReceipt, foundDeployment⟩
  · rintro ⟨foundVerification, foundCommand, foundReceipt, foundDeployment⟩
    exact ⟨_, foundVerification, _, foundCommand, _, foundReceipt, _, foundDeployment, rfl⟩

/-- The rows of a join on one verification are stored, under the keys of the
verification. -/
structure Db.Awaits (db : Db) (current : OpenVerification) (commandId : String)
    (attempt : Nat) : Prop where
  verification_mem : current.verification ∈ db.verifications
  verification_command : current.verification.commandId = commandId
  verification_attempt : current.verification.attempt = attempt
  command_mem : current.command ∈ db.commands
  command_id : current.command.id = commandId
  receipt_mem : current.receipt ∈ db.receipts
  receipt_id : current.receipt.id = current.verification.receiptId
  deployment_mem : current.deployment.deployment ∈ db.deployments
  deployment_id : current.deployment.deployment.id = current.verification.deploymentId

theorem Db.awaits_of_openVerification? {db : Db} {commandId : String} {attempt : Nat}
    {current : OpenVerification}
    (joined : db.openVerification? commandId attempt = some current) :
    db.Awaits current commandId attempt := by
  obtain ⟨foundVerification, foundCommand, foundReceipt, foundDeployment⟩ :=
    Db.openVerification?_eq_some.mp joined
  have verificationKeys := List.find?_some foundVerification
  have commandKey := List.find?_some foundCommand
  have receiptKey := List.find?_some foundReceipt
  simp only [Bool.and_eq_true, decide_eq_true_eq] at verificationKeys commandKey receiptKey
  exact
    { verification_mem := List.mem_of_find?_eq_some foundVerification
      verification_command := verificationKeys.1
      verification_attempt := verificationKeys.2
      command_mem := List.mem_of_find?_eq_some foundCommand
      command_id := commandKey.trans verificationKeys.1
      receipt_mem := List.mem_of_find?_eq_some foundReceipt
      receipt_id := receiptKey
      deployment_mem := (Db.ownedDeployment?_mem foundDeployment).1
      deployment_id := (Db.ownedDeployment?_mem foundDeployment).2 }

/-- The evidence that `verifyCommand` asks for before it lets a command succeed. -/
structure Evidence (input : VerificationInput) (current : OpenVerification)
    (observation : ObservationRow) : Prop where
  healthy : observation.status = .healthy
  fresh : observation.freshness = .fresh
  version : observation.version = current.verification.observationVersion.getD 0
  newer : current.command.expectedObservationVersion < observation.version
  desired : observation.desiredStateVersion =
    current.deployment.deployment.desiredStateVersion
  received : dateParseColumn (current.receipt.completedAt.getD current.receipt.createdAt) ≤
    dateParseColumn observation.receivedAt
  timely : (dateParse input.completedAt - dateParseColumn observation.observedAt) / 1000 ≤
    input.maxFreshnessSeconds
  receipt_refs : current.verification.evidenceRefs ≠ []
  observation_refs : observation.evidenceRefs ≠ []
  verification_refs : input.evidenceRefs ≠ []

theorem checkEvidence_ok {input : VerificationInput} {current : OpenVerification}
    {observation : ObservationRow} {db db' : Db} {answer : Unit} :
    (checkEvidence input current observation).eval db = .ok (answer, db') ↔
      Evidence input current observation ∧ db' = db := by
  simp only [checkEvidence, Tx.eval_bind_ok, ensure_ok, and_assoc, exists_and_left,
    exists_eq_left, exists_const]
  constructor
  · rintro ⟨healthy, fresh, version, newer, desired, received, timely, receiptRefs,
      observationRefs, verificationRefs, rfl⟩
    exact ⟨⟨healthy, fresh, version, newer, desired, received, timely, receiptRefs,
      observationRefs, verificationRefs⟩, rfl⟩
  · rintro ⟨evidence, rfl⟩
    exact ⟨evidence.healthy, evidence.fresh, evidence.version, evidence.newer,
      evidence.desired, evidence.received, evidence.timely, evidence.receipt_refs,
      evidence.observation_refs, evidence.verification_refs, rfl⟩

theorem updateVerification_ok [Host] {input : VerificationInput}
    {observation : ObservationRow} {db db' : Db} {answer : Unit} :
    (updateVerification input observation).eval db = .ok (answer, db') ↔
      (bairuiControlJsonIsSafe input.checks = true ∧ 0 < observation.version) ∧
        db' = { db with
                verifications := updateWhere (fun row => row.id = input.id)
                  (input.settle observation) db.verifications } := by
  simp only [updateVerification, Tx.eval_insert_ok, List.forall_mem_cons, List.not_mem_nil,
    decide_eq_true_eq, false_implies, implies_true, and_true]

/-- The tables after a verification, next to a journal. -/
def VerificationInput.apply (input : VerificationInput) (observation : ObservationRow)
    (db : Db) (journal : Journal) : Db :=
  { db with
    verifications := updateWhere (fun row => row.id = input.id) (input.settle observation)
      db.verifications
    commands := updateWhere (fun row => row.id = input.commandId) input.finalize db.commands
    journal := journal }

/-- `verifyCommand` settled the verification of its input. -/
structure VerifiesCommand [Host] (env : Env) (input : VerificationInput)
    (current : OpenVerification) (observation : ObservationRow) (db db' : Db) : Prop where
  joined : db.openVerification? input.commandId input.attempt = some current
  id_eq : current.verification.id = input.id
  scope : current.inScope input = true
  verifying : current.command.state = .verifying
  checking : current.command.verificationState = .checking
  unsettled : current.verification.status = .checking
  observed : db.observations.find? (fun row =>
    row.id = input.observationId && row.deploymentId = current.verification.deploymentId) =
      some observation
  evidence : input.status = .verified → Evidence input current observation
  journal : Journal.Records env.entropy env.now
    (input.event current.verification.deploymentId observation)
    (fun _ => input.record current.verification.deploymentId) db.journal db'.journal
  after : db' = input.apply observation db db'.journal

theorem verifyCommandFresh_ok [Host] {env : Env} {input : VerificationInput} {db db' : Db}
    {result : VerificationResult}
    (ran : (verifyCommandFresh env input).eval db = .ok (result, db')) :
    ∃ current observation, VerifiesCommand env input current observation db db' ∧
      result =
        { verification := db'.verification? input.id
          command := db'.command? input.commandId } := by
  simp only [verifyCommandFresh, Tx.eval_read_bind, Tx.eval_write_bind, Tx.eval_bind_ok,
    Tx.eval_orRaise_ok, ensure_ok, Tx.eval_whenever_ok, checkEvidence_ok,
    updateVerification_ok, appendEvent_ok, saveIdempotency_ok, Tx.eval_pure, Except.ok.injEq,
    Prod.mk.injEq, Option.filter_eq_some_iff, decide_eq_true_eq, and_assoc, exists_and_left,
    exists_eq_left, exists_const] at ran
  obtain ⟨current, joined, idEq, scope, verifying, checking, unsettled, observation, observed,
    _, evidence, -, -, event, _, ⟨outbox, audit, eventEntry, rfl⟩, idNew, scopeNew, rfl,
    rfl⟩ := ran
  refine ⟨current, observation, ?_⟩
  rcases evidence with ⟨-, evidence, rfl⟩ | ⟨unverified, rfl⟩
  · exact ⟨⟨joined, idEq, scope, verifying, checking, unsettled, observed, fun _ => evidence,
      ⟨event, outbox, audit, eventEntry, ⟨idNew, scopeNew⟩, rfl⟩, rfl⟩, rfl⟩
  · exact ⟨⟨joined, idEq, scope, verifying, checking, unsettled, observed,
      fun verified => absurd verified unverified,
      ⟨event, outbox, audit, eventEntry, ⟨idNew, scopeNew⟩, rfl⟩, rfl⟩, rfl⟩

end BairuiPlatform
