/-
Module: BairuiPlatform.Authority.Receipts
Purpose: The second half of a command's life in ControlAuthorityRepository: the
  receipts of its holder and the verification of its completion candidate.
Trusted boundary: none
Main exports: recordReceipt, verifyCommand
-/
import BairuiPlatform.Authority.Commands

namespace BairuiPlatform

open Foundations

/-! ### Receipts -/

/-- What `recordReceipt` returns. -/
structure ReceiptResult where
  receipt : ReceiptRow
  command : Option CommandRow
  verificationId : Option String

/-- The payload check before the transaction of `recordReceipt`. -/
def ReceiptInput.guard (input : ReceiptInput) : Except ControlError Unit :=
  assertOperationalMetadata "Receipt.result_summary" 0 input.resultSummary

/-- The request hash of a receipt: the token of the lease is left out of it. -/
def ReceiptInput.requestHash (input : ReceiptInput) : String :=
  digestControlValue { input with leaseToken := "[opaque]" }.toJson

/-- A lease with everything that `recordReceipt` reads next to it. The columns
`lease_server_id`, `lease_expires_at` and `deployment_id` of the command come
later in the select list than those of the lease, and hide them. -/
structure HeldLease where
  lease : LeaseRow
  command : CommandRow
  attempt : AttemptRow
  deployment : OwnedDeployment

/-- `control_command_leases JOIN control_commands JOIN command_attempts JOIN
control_deployments JOIN agents`, for one lease. -/
def Db.heldLease? (db : Db) (leaseId commandId : String) (attempt : Nat) :
    Option HeldLease := do
  let lease ← db.leases.find? fun row =>
    row.id = leaseId && row.commandId = commandId && row.attempt = attempt
  let command ← db.commands.find? fun row => row.id = lease.commandId
  let attempt ← db.attempts.find? fun row =>
    row.commandId = lease.commandId && row.attempt = lease.attempt
  let deployment ← db.ownedDeployment? lease.deploymentId
  return { lease := lease, command := command, attempt := attempt, deployment := deployment }

/-- The receipt comes from the scope of the lease. -/
def HeldLease.inScope (current : HeldLease) (input : ReceiptInput) : Bool :=
  current.deployment.deployment.organizationId = input.organizationId &&
    current.deployment.ownerUserId = input.userId &&
    current.deployment.deployment.agentId = input.agentId &&
    current.deployment.deployment.serverId = some input.serverId &&
    current.command.leaseServerId = some input.serverId &&
    input.sourceIdentity = input.serverId &&
    current.command.deploymentId = input.deploymentId

/-- The table `transitions`. -/
def receiptTransitions : CommandState → List ReceiptState
  | .leased => [.accepted]
  | .accepted => [.running, .executing, .failed, .cancelled, .expired]
  | .running =>
      [.running, .executing, .completionCandidate, .failed, .cancelled, .expired]
  | _ => []

namespace ReceiptState

/-- `terminal`. -/
def terminal : ReceiptState → Bool
  | completionCandidate | failed | cancelled | expired => true
  | _ => false

/-- `authorityState`. -/
def authorityState : ReceiptState → CommandState
  | accepted => .accepted
  | running | executing => .running
  | completionCandidate => .verifying
  | succeeded => .succeeded
  | failed => .failed
  | cancelled => .cancelled
  | expired => .expired

/-- `attemptState`. -/
def attemptState : ReceiptState → AttemptState
  | accepted => .accepted
  | running | executing => .running
  | completionCandidate | succeeded => .succeeded
  | failed => .failed
  | cancelled => .cancelled
  | expired => .expired

/-- `verificationState`. -/
def verificationState : ReceiptState → VerificationState
  | completionCandidate => .checking
  | failed => .failed
  | cancelled | expired => .blocked
  | _ => .pending

/-- `eventType`; the table has no entry for a receipt that claims success. -/
def eventType : ReceiptState → Option String
  | accepted => some "command.accepted"
  | running => some "command.started"
  | executing => some "command.executing"
  | completionCandidate => some "command.verification.started"
  | succeeded => none
  | failed => some "command.failed"
  | cancelled => some "command.cancelled"
  | expired => some "command.expired"

/-- `eventState`. -/
def eventState : ReceiptState → String
  | completionCandidate => "verifying"
  | state => state.name

end ReceiptState

/-- `redactedError`. -/
def ReceiptInput.redactedError (input : ReceiptInput) : Option String :=
  match input.errorCode with
  | some code => if code = "" then none else some ("Control operation failed (" ++ code ++ ")")
  | none => none

/-- The row that `recordReceipt` inserts. -/
def ReceiptInput.row (input : ReceiptInput) (now : Nat) (deploymentId : String) :
    ReceiptRow :=
  { id := input.id
    commandId := input.commandId
    deploymentId := deploymentId
    serverId := input.serverId
    leaseId := some input.leaseId
    attempt := input.attempt
    state := input.state
    idempotencyKey := some input.idempotencyKey
    eventSequence := some input.eventSequence
    evidenceRefs := input.evidenceRefs
    resultRef := input.resultRef
    endpointRef := input.endpointRef
    sourceIdentity := some input.sourceIdentity
    observationVersion := input.observationVersion
    errorCode := input.errorCode
    errorRef := input.errorRef
    errorSummary := input.redactedError
    resultSummary := input.resultSummary
    completionCandidate := input.state = .completionCandidate
    observedAt := some input.observedAt
    completedAt := input.completedAt
    createdAt := now }

/-- `INSERT INTO command_receipts`. -/
def insertReceipt [Host] (row : ReceiptRow) : Callback Unit :=
  Tx.insert
    (fun db =>
      [(bairuiControlJsonIsSafe row.resultSummary, .violation "command_receipts_safe_payload"),
        (decide (0 < row.attempt), .violation "command_receipts_attempt_check"),
        (row.observationVersion.all (0 < ·),
          .violation "command_receipts_observation_version_check"),
        (!found (fun other => other.id = row.id) db.receipts,
          .violation "command_receipts_pkey"),
        (!found (fun other => other.commandId = row.commandId &&
            other.attempt = row.attempt && other.state = row.state) db.receipts,
          .violation "command_receipts_command_id_attempt_state_key"),
        (!found (fun other => other.idempotencyKey.isSome && other.commandId = row.commandId &&
            other.idempotencyKey = row.idempotencyKey) db.receipts,
          .violation "command_receipts_idempotency_idx")])
    (fun db => { db with receipts := db.receipts ++ [row] })

/-- The command row after a receipt. -/
def CommandRow.afterReceipt (row : CommandRow) (now : Nat) (state : ReceiptState)
    (completedAt : Option Nat) : CommandRow :=
  let authorityState := state.authorityState
  { row with
    state := authorityState
    verificationState := state.verificationState
    completionCandidateAt :=
      if authorityState = .verifying then some (completedAt.getD now)
      else row.completionCandidateAt
    finalizedAt :=
      if [.failed, .cancelled, .expired].contains authorityState then
        some (completedAt.getD now)
      else row.finalizedAt
    leaseExpiresAt :=
      if [.accepted, .running].contains authorityState then row.leaseExpiresAt else none }

/-- The attempt row after a receipt. -/
def AttemptRow.afterReceipt (row : AttemptRow) (now : Nat) (input : ReceiptInput) :
    AttemptRow :=
  let attemptState := input.state.attemptState
  { row with
    state := attemptState
    errorCode := input.errorCode
    errorSummary := input.redactedError
    startedAt :=
      if [.accepted, .running].contains attemptState then some (row.startedAt.getD now)
      else row.startedAt
    completedAt :=
      if [.succeeded, .failed, .cancelled, .expired].contains attemptState then
        some (input.completedAt.getD now)
      else row.completedAt
    evidenceRefs := input.evidenceRefs }

/-- A lease whose command is done with it. -/
def LeaseRow.consume (row : LeaseRow) (consumedAt : Nat) : LeaseRow :=
  { row with state := .consumed, consumedAt := some consumedAt }

/-- The id of the verification of a completion candidate. -/
def verificationIdOf (receiptId : String) : String :=
  "verification:" ++ receiptId

/-- The verification row that a completion candidate opens. -/
def ReceiptInput.verificationRow (input : ReceiptInput) (current : CommandRow) :
    VerificationRow :=
  { id := verificationIdOf input.id
    commandId := input.commandId
    deploymentId := current.deploymentId
    attempt := input.attempt
    receiptId := input.id
    observationId := none
    expectedObservationVersion := current.expectedObservationVersion
    observationVersion := input.observationVersion
    status := .checking
    checks := .arr []
    evidenceRefs := input.evidenceRefs
    verifiedBy := none
    completedAt := none }

/-- `INSERT INTO command_verifications`. -/
def insertVerification [Host] (row : VerificationRow) : Callback Unit :=
  Tx.insert
    (fun db =>
      [(bairuiControlJsonIsSafe row.checks, .violation "command_verifications_safe_payload"),
        (decide (0 < row.attempt), .violation "command_verifications_attempt_check"),
        (row.observationVersion.all (0 < ·),
          .violation "command_verifications_observation_version_check"),
        (!found (fun other => other.id = row.id) db.verifications,
          .violation "command_verifications_pkey"),
        (!found (fun other => other.commandId = row.commandId &&
            other.attempt = row.attempt) db.verifications,
          .violation "command_verifications_command_id_attempt_key")])
    (fun db => { db with verifications := db.verifications ++ [row] })

/-- The latest event sequence of the receipts of an attempt. -/
def Db.receiptSequence (db : Db) (commandId : String) (attempt : Nat) : Nat :=
  maxOf ((db.receipts.filter fun row =>
    row.commandId = commandId && row.attempt = attempt).filterMap (·.eventSequence))

/-- The checks of `recordReceipt` on the lease, in their order. -/
def checkHeldLease (env : Env) (input : ReceiptInput) : Callback HeldLease := do
  let candidate ← Tx.read fun db =>
    db.heldLease? input.leaseId input.commandId input.attempt
  let current ← Tx.orRaise
    (.control (controlError "lease_not_found" "Control command lease was not found" 404))
    candidate
  ensure (current.inScope input = true) "owner_mismatch"
    "Receipt owner, deployment, or source scope does not match the lease" 404
  ensure (current.lease.state = .active) "lease_expired"
    "Control command lease is no longer active" 409
  -- `Date.parse(null)` is not a number, and no comparison with it holds.
  ensure (∀ column ∈ current.command.leaseExpiresAt, dateNow env.now < dateParseColumn column)
    "lease_expired" "Control command lease has expired" 409
  ensure (current.lease.tokenHash = hashToken input.leaseToken) "lease_not_found"
    "Control command lease token is invalid" 404
  return current

/-- The event of a receipt. -/
def ReceiptInput.event (input : ReceiptInput) (deploymentId eventType : String) :
    EventInput :=
  { organizationId := input.organizationId
    agentId := input.agentId
    serverId := some input.serverId
    deploymentId := deploymentId
    commandId := some input.commandId
    requestId := some input.requestId
    correlationId := some input.correlationId
    idempotencyKey := input.idempotencyKey ++ ":event"
    sourceIdentity := some input.sourceIdentity
    attempt := some input.attempt
    leaseId := some input.leaseId
    leaseTokenRef := some ("hint:lease-token:" ++ input.leaseId)
    eventType := eventType
    state := some input.state.eventState
    aggregateType := "control_command"
    aggregateId := input.commandId
    evidenceRefs := input.evidenceRefs
    summary := [("receipt_id", .str input.id), ("command_id", .str input.commandId),
      ("attempt", .num input.attempt), ("receipt_state", .str input.state.name),
      ("authority_state", .str input.state.authorityState.name),
      ("error_code", .ofText? input.errorCode), ("error_summary", .ofText? input.redactedError),
      ("result_ref", .ofText? input.resultRef), ("endpoint_ref", .ofText? input.endpointRef)]
    occurredAt := some input.observedAt }

/-- The idempotency record of a receipt. -/
def ReceiptInput.record (input : ReceiptInput) (deploymentId : String)
    (event : EventRow) : IdempotencyInput :=
  { toIdempotencyScope := input.scope "command-receipt" input.requestHash
    deploymentId := some deploymentId
    aggregateType := "command_receipt"
    aggregateId := input.id
    resultRef := some ("ref:control-event:" ++ event.id) }

/-- `recordReceipt` past its replay branch. -/
def recordReceiptFresh [Host] (env : Env) (input : ReceiptInput) : Callback ReceiptResult := do
  let current ← checkHeldLease env input
  let sequence ← Tx.read fun db => db.receiptSequence input.commandId input.attempt
  ensure (sequence < input.eventSequence) "sequence_conflict"
    "Receipt event_sequence is not monotonic" 409
  ensure (input.state ∈ receiptTransitions current.command.state) "receipt_conflict"
    ("Receipt cannot move command from " ++ current.command.state.name ++ " to " ++
      input.state.name) 409
  ensure (input.state.terminal = true → input.completedAt.isSome = true) "missing_field"
    "Terminal receipts require completed_at" 400
  let eventType ← Tx.orRaise (.violation "control_events_event_type_not_null")
    input.state.eventType
  let event ← appendEvent env.entropy env.now
    (input.event current.command.deploymentId eventType)
  let receipt := input.row env.now current.command.deploymentId
  insertReceipt receipt
  Tx.write fun db =>
    { db with
      commands := updateWhere (fun row => row.id = input.commandId)
        (fun row => row.afterReceipt env.now input.state input.completedAt) db.commands }
  Tx.write fun db =>
    { db with
      attempts := updateWhere
        (fun row => row.commandId = input.commandId && row.attempt = input.attempt)
        (fun row => row.afterReceipt env.now input) db.attempts }
  Tx.whenever (input.state.terminal = true) <|
    Tx.write fun db =>
      { db with
        leases := updateWhere (fun row => row.id = input.leaseId && row.state = .active)
          (fun row => row.consume (input.completedAt.getD env.now)) db.leases }
  Tx.whenever (input.state = .completionCandidate) <|
    insertVerification (input.verificationRow current.command)
  saveIdempotency env.entropy.idempotency (input.record current.command.deploymentId event)
  let command ← Tx.read fun db => db.command? input.commandId
  return { receipt := receipt
           command := command
           verificationId :=
             if input.state = .completionCandidate then some (verificationIdOf input.id)
             else none }

/-- The receipt under an id. -/
def Db.receipt? (db : Db) (id : String) : Option ReceiptRow :=
  db.receipts.find? fun row => row.id = id

/-- What a replay of `recordReceipt` returns. -/
def replayReceipt (record : IdempotencyRow) : Callback ReceiptResult := do
  let candidate ← Tx.read fun db => db.receipt? record.aggregateId
  let receipt ← Tx.orRaise (.violation "TypeError") candidate
  let command ← Tx.read fun db => db.command? receipt.commandId
  return { receipt := receipt
           command := command
           verificationId :=
             if receipt.completionCandidate then some (verificationIdOf receipt.id) else none }

/-- `recordReceipt`. -/
def recordReceipt [Host] (env : Env) (input : ReceiptInput) : Callback ReceiptResult := do
  checked input.guard
  replayOr (input.scope "command-receipt" input.requestHash) replayReceipt
    (recordReceiptFresh env input)

/-! ### Verification -/

/-- What `verifyCommand` returns. -/
structure VerificationResult where
  verification : Option VerificationRow
  command : Option CommandRow

/-- The payload check before the transaction of `verifyCommand`. -/
def VerificationInput.guard (input : VerificationInput) : Except ControlError Unit :=
  assertOperationalMetadata "Verification.checks" 0 input.checks

/-- A verification with everything that `verifyCommand` reads next to it. The
column `expected_observation_version` of the command hides the copy in the
verification. -/
structure OpenVerification where
  verification : VerificationRow
  command : CommandRow
  receipt : ReceiptRow
  deployment : OwnedDeployment

/-- `command_verifications JOIN control_commands JOIN command_receipts JOIN
control_deployments JOIN agents`, for one attempt of a command. -/
def Db.openVerification? (db : Db) (commandId : String) (attempt : Nat) :
    Option OpenVerification := do
  let verification ← db.verifications.find? fun row =>
    row.commandId = commandId && row.attempt = attempt
  let command ← db.commands.find? fun row => row.id = verification.commandId
  let receipt ← db.receipts.find? fun row => row.id = verification.receiptId
  let deployment ← db.ownedDeployment? verification.deploymentId
  return { verification := verification
           command := command
           receipt := receipt
           deployment := deployment }

/-- The verification comes from the scope of the command. -/
def OpenVerification.inScope (current : OpenVerification) (input : VerificationInput) : Bool :=
  current.deployment.deployment.organizationId = input.organizationId &&
    current.deployment.ownerUserId = input.userId &&
    current.deployment.deployment.agentId = input.agentId &&
    current.deployment.deployment.serverId = some input.serverId

/-- The checks of `verifyCommand` for a verified command, in their order. -/
def checkEvidence (input : VerificationInput) (current : OpenVerification)
    (observation : ObservationRow) : Callback Unit := do
  let receiptCompletedAt := current.receipt.completedAt.getD current.receipt.createdAt
  let freshnessSeconds :=
    (dateParse input.completedAt - dateParseColumn observation.observedAt) / 1000
  ensure (observation.status = .healthy ∧ observation.freshness = .fresh) "stale_observation"
    "A verified command requires a fresh healthy observation" 409
  ensure (observation.version = current.verification.observationVersion.getD 0)
    "revision_conflict" "Verification observation does not match the completion candidate" 409
  ensure (current.command.expectedObservationVersion < observation.version)
    "revision_conflict"
    "Verification observation is not newer than the command precondition" 409
  ensure (observation.desiredStateVersion = current.deployment.deployment.desiredStateVersion)
    "revision_conflict" "Verification observation does not match the active DesiredState" 409
  ensure (dateParseColumn receiptCompletedAt ≤ dateParseColumn observation.receivedAt ∧
      freshnessSeconds ≤ input.maxFreshnessSeconds)
    "evidence_not_found" "Verification observation is stale" 409
  ensure (current.verification.evidenceRefs ≠ [] ∧ observation.evidenceRefs ≠ [] ∧
      input.evidenceRefs ≠ [])
    "evidence_not_found"
    "Receipt, observation, and verification evidence references are required" 409

/-- The verification row after the decision. -/
def VerificationInput.settle (input : VerificationInput) (observation : ObservationRow)
    (row : VerificationRow) : VerificationRow :=
  { row with
    observationId := some input.observationId
    observationVersion := some observation.version
    status := input.status
    checks := input.checks
    evidenceRefs := input.evidenceRefs
    verifiedBy := some input.verifiedBy
    completedAt := some input.completedAt }

/-- `UPDATE command_verifications`, triggers included. -/
def updateVerification [Host] (input : VerificationInput) (observation : ObservationRow) :
    Callback Unit :=
  Tx.insert
    (fun _ =>
      [(bairuiControlJsonIsSafe input.checks,
          .violation "command_verifications_safe_payload"),
        (decide (0 < observation.version),
          .violation "command_verifications_observation_version_check")])
    (fun db =>
      { db with
        verifications := updateWhere (fun row => row.id = input.id)
          (input.settle observation) db.verifications })

/-- `finalCommandState`. -/
def VerificationInput.finalCommandState (input : VerificationInput) : CommandState :=
  if input.status = .verified then .succeeded else .failed

/-- The command row after the decision. -/
def VerificationInput.finalize (input : VerificationInput) (row : CommandRow) : CommandRow :=
  { row with
    state := input.finalCommandState
    verificationState := input.status
    finalizedAt := some input.completedAt }

/-- The verification under an id. -/
def Db.verification? (db : Db) (id : String) : Option VerificationRow :=
  db.verifications.find? fun row => row.id = id

/-- The event of a verification. -/
def VerificationInput.event (input : VerificationInput) (deploymentId : String)
    (observation : ObservationRow) : EventInput :=
  { organizationId := input.organizationId
    agentId := input.agentId
    serverId := some input.serverId
    deploymentId := deploymentId
    commandId := some input.commandId
    requestId := some input.requestId
    correlationId := some input.correlationId
    idempotencyKey := input.idempotencyKey ++ ":event"
    sourceIdentity := some input.verifiedBy
    attempt := some input.attempt
    observationVersion := some observation.version
    eventType := if input.status = .verified then "command.verified" else "command.failed"
    state := some input.finalCommandState.name
    aggregateType := "control_command"
    aggregateId := input.commandId
    evidenceRefs := input.evidenceRefs
    summary := [("command_id", .str input.commandId), ("verification_id", .str input.id),
      ("verification_status", .str input.status.name),
      ("observation_id", .str input.observationId),
      ("observation_version", .num observation.version)]
    occurredAt := some input.completedAt }

/-- The idempotency record of a verification. -/
def VerificationInput.record (input : VerificationInput) (deploymentId : String) :
    IdempotencyInput :=
  { toIdempotencyScope := input.scope "command-verification"
      (digestControlValue input.toJson)
    deploymentId := some deploymentId
    aggregateType := "control_command"
    aggregateId := input.commandId
    resultRef := some ("ref:verification:" ++ input.id) }

/-- `verifyCommand` past its replay branch. -/
def verifyCommandFresh [Host] (env : Env) (input : VerificationInput) :
    Callback VerificationResult := do
  let candidate ← Tx.read fun db =>
    (db.openVerification? input.commandId input.attempt).filter fun current =>
      current.verification.id = input.id
  let current ← Tx.orRaise
    (.control (controlError "evidence_not_found"
      "Command verification candidate was not found" 404)) candidate
  ensure (current.inScope input = true) "owner_mismatch"
    "Verification owner scope does not match the command" 404
  ensure (current.command.state = .verifying ∧ current.command.verificationState = .checking ∧
      current.verification.status = .checking)
    "receipt_conflict" "Command is not awaiting verification" 409
  let observed ← Tx.read fun db => db.observations.find? fun row =>
    row.id = input.observationId && row.deploymentId = current.verification.deploymentId
  let observation ← Tx.orRaise
    (.control (controlError "evidence_not_found"
      "Verification observation was not found" 404)) observed
  Tx.whenever (input.status = .verified) (checkEvidence input current observation)
  updateVerification input observation
  let verification ← Tx.read fun db => db.verification? input.id
  Tx.write fun db =>
    { db with
      commands := updateWhere (fun row => row.id = input.commandId) input.finalize
        db.commands }
  let _ ← appendEvent env.entropy env.now
    (input.event current.verification.deploymentId observation)
  saveIdempotency env.entropy.idempotency
    (input.record current.verification.deploymentId)
  let command ← Tx.read fun db => db.command? input.commandId
  return { verification := verification, command := command }

/-- `result_ref?.replace(/^ref:verification:/, "") ?? input.id`. -/
def replayedVerificationId (record : IdempotencyRow) (input : VerificationInput) : String :=
  match record.resultRef with
  | some ref =>
      ((afterPrefix "ref:verification:" (chars ref)).map String.ofList).getD ref
  | none => input.id

/-- `verifyCommand`. -/
def verifyCommand [Host] (env : Env) (input : VerificationInput) :
    Callback VerificationResult := do
  checked input.guard
  replayOr (input.scope "command-verification" (digestControlValue input.toJson))
    (fun record => Tx.read fun db =>
      { verification := db.verification? (replayedVerificationId record input)
        command := db.command? record.aggregateId })
    (verifyCommandFresh env input)

end BairuiPlatform
