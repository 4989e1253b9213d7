/-
Module: BairuiPlatform.Authority.Commands
Purpose: Commands of ControlAuthorityRepository up to their lease: creation,
  approval, lease expiry and leasing.
Trusted boundary: none
Main exports: createCommand, decideApproval, expireLeases, leaseCommands
-/
import Mathlib.Data.List.Dedup
import BairuiPlatform.Authority.Aggregates

namespace BairuiPlatform

open Foundations

/-- `control_commands JOIN control_deployments`, for one command. -/
def Db.command? (db : Db) (id : String) : Option CommandRow :=
  (db.commands.find? fun row => row.id = id).filter fun command =>
    found (fun deployment => deployment.id = command.deploymentId) db.deployments

/-- The approval under an id. -/
def Db.approval? (db : Db) (id : String) : Option ApprovalRow :=
  db.approvals.find? fun row => row.id = id

/-! ### Creation -/

/-- What `createCommand` returns. -/
structure CommandResult where
  command : Option CommandRow
  approval : Option ApprovalRow

/-- The payload check before the transaction of `createCommand`. -/
def CommandInput.guard (input : CommandInput) : Except ControlError Unit :=
  assertSafeControlPayload "ControlCommand.arguments" input.arguments

/-- The command row that `createCommand` inserts. -/
def CommandInput.row (input : CommandInput) (deploymentId : String) : CommandRow :=
  { id := input.id
    deploymentId := deploymentId
    idempotencyKey := input.idempotencyKey
    action := input.action
    targetModuleId := input.targetModuleId
    targetInstanceId := input.targetInstanceId
    arguments := input.arguments
    secretRefs := input.secretRefs
    approvalId := input.approval.map (·.id)
    expectedObservationVersion := input.expectedObservationVersion
    state := .queued
    verificationState := .pending
    priority := input.priority
    leaseServerId := none
    leaseExpiresAt := none
    notBefore := input.notBefore
    expiresAt := input.expiresAt
    requestedBy := input.userId
    completionCandidateAt := none
    finalizedAt := none
    createdAt := input.createdAt }

/-- The approval row that `createCommand` inserts next to a high-risk command. -/
def CommandInput.approvalRow (input : CommandInput) (approval : PendingApproval) :
    ApprovalRow :=
  { id := approval.id
    organizationId := some input.organizationId
    commandId := input.id
    idempotencyKey := some approval.idempotencyKey
    action := some input.action
    riskLevel := approval.riskLevel
    requestedBy := approval.requestedBy
    decidedBy := none
    decision := .pending
    reason := approval.reasonCode
    reasonCode := some approval.reasonCode
    reasonRef := some approval.reasonRef
    scope := approval.scope
    expiresAt := approval.expiresAt
    decidedAt := none
    createdAt := approval.createdAt }

/-- `^sr_[A-Za-z0-9_-]{16,128}$`. -/
def isSecretRef (ref : String) : Bool :=
  match afterPrefix "sr_" (chars ref) with
  | some rest => 16 ≤ rest.length && rest.length ≤ 128 && rest.all isKeyChar
  | none => false

/-- `INSERT INTO control_commands`. -/
def insertCommand [Host] (row : CommandRow) : Callback Unit :=
  Tx.insert
    (fun db =>
      [(bairuiControlJsonIsSafe row.arguments, .violation "control_commands_safe_payload"),
        (row.secretRefs.all isSecretRef, .violation "control_commands_secret_refs_check"),
        (!found (fun other => other.id = row.id) db.commands,
          .violation "control_commands_pkey"),
        (!found (fun other => other.deploymentId = row.deploymentId &&
            other.idempotencyKey = row.idempotencyKey) db.commands,
          .violation "control_commands_deployment_id_idempotency_key_key")])
    (fun db => { db with commands := db.commands ++ [row] })

/-- `INSERT INTO control_approvals`. -/
def insertApproval [Host] (row : ApprovalRow) : Callback Unit :=
  Tx.insert
    (fun db =>
      [(bairuiControlJsonIsSafe row.scope, .violation "control_approvals_safe_payload"),
        (!found (fun other => other.id = row.id) db.approvals,
          .violation "control_approvals_pkey"),
        -- A unique index ignores rows in which one of its columns is null.
        (!found (fun other => other.organizationId.isSome && other.idempotencyKey.isSome &&
            other.organizationId = row.organizationId &&
            other.idempotencyKey = row.idempotencyKey) db.approvals,
          .violation "control_approvals_idempotency_idx")])
    (fun db => { db with approvals := db.approvals ++ [row] })

/-- The approval row of a command that comes with one. -/
def insertApproval? [Host] : Option ApprovalRow → Callback Unit
  | some row => insertApproval row
  | none => return ()

/-- The secret references of a command that its agent may use now. -/
def Db.usableSecretRefs (db : Db) (now : Nat) (input : CommandInput) : List String :=
  (db.secretReferences.filter fun row =>
    input.secretRefs.contains row.id && row.organizationId = input.organizationId &&
      row.agentId = input.agentId && row.state = "active" &&
      row.expiresAt.all fun expiresAt => now < expiresAt).map (·.id)

/-- The event of a new command. -/
def CommandInput.event (input : CommandInput) (deploymentId : String) : EventInput :=
  { organizationId := input.organizationId
    agentId := input.agentId
    serverId := some input.serverId
    deploymentId := deploymentId
    commandId := some input.id
    requestId := some input.requestId
    correlationId := some input.correlationId
    idempotencyKey := input.idempotencyKey ++ ":event"
    sourceIdentity := some input.userId
    eventType := "command.queued"
    state := some "queued"
    aggregateType := "control_command"
    aggregateId := input.id
    summary := [("command_id", .str input.id), ("action", .str input.action.name),
      ("expected_observation_version", .num input.expectedObservationVersion),
      ("approval_id", .ofText? (input.approval.map (·.id)))] }

/-- The idempotency record of a new command. -/
def CommandInput.record (input : CommandInput) (deploymentId : String) :
    IdempotencyInput :=
  { toIdempotencyScope := input.scope "control-command" (digestControlValue input.toJson)
    deploymentId := some deploymentId
    aggregateType := "control_command"
    aggregateId := input.id }

/-- `createCommand` past its replay branch. -/
def createCommandFresh [Host] (env : Env) (input : CommandInput) :
    Callback CommandResult := do
  let deployment ← getDeploymentForUpdate input.deploymentId input.organizationId
    input.agentId input.userId input.serverId
  ensure (input.expectedObservationVersion = deployment.observedStateVersion)
    "revision_conflict" "ControlCommand expected_observation_version is stale" 409
  ensure (dateNow env.now < dateParse input.expiresAt) "invalid_timestamp"
    "ControlCommand is already expired" 409
  let usable ← Tx.read fun db => db.usableSecretRefs env.now input
  ensure (usable.dedup.length = input.secretRefs.dedup.length) "owner_mismatch"
    "One or more secret references are unavailable for this Agent" 409
  insertCommand (input.row deployment.id)
  let approval := input.approval.map input.approvalRow
  insertApproval? approval
  let _ ← appendEvent env.entropy env.now (input.event deployment.id)
  saveIdempotency env.entropy.idempotency (input.record deployment.id)
  let command ← Tx.read fun db => db.command? input.id
  return { command := command, approval := approval }

/-- What a replay of `createCommand` returns. -/
def Db.commandResult (db : Db) (commandId : String) : CommandResult :=
  let command := db.command? commandId
  { command := command
    approval := (command.bind (·.approvalId)).bind db.approval? }

/-- `createCommand`. -/
def createCommand [Host] (env : Env) (input : CommandInput) : Callback CommandResult := do
  checked input.guard
  replayOr (input.scope "control-command" (digestControlValue input.toJson))
    (fun record => Tx.read fun db => db.commandResult record.aggregateId)
    (createCommandFresh env input)

/-! ### Approval -/

/-- An approval joined with its command, and the deployment of that command. -/
structure JoinedApproval where
  approval : ApprovalRow
  command : CommandRow
  deployment : OwnedDeployment

/-- `control_approvals JOIN control_commands JOIN control_deployments JOIN agents`. -/
def Db.joinedApproval? (db : Db) (approvalId : String) : Option JoinedApproval := do
  let approval ← db.approval? approvalId
  let command ← db.commands.find? fun row => row.id = approval.commandId
  let deployment ← db.ownedDeployment? command.deploymentId
  return { approval := approval, command := command, deployment := deployment }

/-- The approval lies in the scope that the decision names. -/
def JoinedApproval.inScope (current : JoinedApproval) (input : ApprovalDecisionInput) : Bool :=
  current.deployment.deployment.organizationId = input.organizationId &&
    current.deployment.ownerUserId = input.userId &&
    current.deployment.deployment.agentId = input.agentId &&
    current.deployment.deployment.serverId = some input.serverId &&
    (input.scope.field? "deployment_id").bind Json.text? = some current.command.deploymentId &&
    current.approval.commandId = input.commandId &&
    current.approval.action = some input.action &&
    current.approval.requestedBy = input.requestedBy

/-- The approval row after a decision. -/
def ApprovalDecisionInput.decide (input : ApprovalDecisionInput) (row : ApprovalRow) :
    ApprovalRow :=
  { row with
    decision := input.decision
    decidedBy := some input.decidedBy
    reason := input.reasonCode
    reasonCode := some input.reasonCode
    reasonRef := input.reasonRef
    decidedAt := some input.decidedAt }

/-- The event of a decision. -/
def ApprovalDecisionInput.event (input : ApprovalDecisionInput) (command : CommandRow) :
    EventInput :=
  { organizationId := input.organizationId
    agentId := input.agentId
    serverId := some input.serverId
    deploymentId := command.deploymentId
    commandId := some command.id
    requestId := some input.requestId
    correlationId := some input.correlationId
    idempotencyKey := input.idempotencyKey ++ ":event"
    sourceIdentity := some input.decidedBy
    eventType := "approval." ++ input.decision.name
    state := some input.decision.name
    aggregateType := "control_approval"
    aggregateId := input.approvalId
    summary := [("approval_id", .str input.approvalId),
      ("command_id", .str command.id), ("decision", .str input.decision.name),
      ("reason_code", .str input.reasonCode)]
    occurredAt := some input.decidedAt }

/-- The idempotency record of a decision. -/
def ApprovalDecisionInput.record (input : ApprovalDecisionInput) (command : CommandRow) :
    IdempotencyInput :=
  { toIdempotencyScope := input.toEnvelope.scope "approval-decision" (digestControlValue input.toJson)
    deploymentId := some command.deploymentId
    aggregateType := "control_approval"
    aggregateId := input.approvalId }

/-- A queued command whose approval was rejected. -/
def CommandRow.reject (row : CommandRow) (decidedAt : Nat) : CommandRow :=
  { row with
    state := .cancelled
    verificationState := .blocked
    finalizedAt := some decidedAt }

/-- `decideApproval` past its replay branch. -/
def decideApprovalFresh [Host] (env : Env) (input : ApprovalDecisionInput) :
    Callback (Option ApprovalRow) := do
  let candidate ← Tx.read fun db => (db.joinedApproval? input.approvalId).filter fun current =>
    current.inScope input
  let current ← Tx.orRaise
    (.control (controlError "owner_mismatch"
      "Approval is outside the supplied command and owner scope" 404)) candidate
  ensure (current.approval.decision = .pending ∧
      dateNow env.now < dateParseColumn current.approval.expiresAt)
    "approval_not_valid" "Approval is no longer pending" 409
  ensure (input.decision = .approved → current.approval.requestedBy ≠ input.decidedBy)
    "approval_not_valid" "The requester cannot approve the same high-risk command" 409
  Tx.write fun db =>
    { db with
      approvals := updateWhere (fun row => row.id = input.approvalId) input.decide
        db.approvals }
  let updated ← Tx.read fun db => db.approval? input.approvalId
  Tx.whenever (input.decision = .rejected) <|
    Tx.write fun db =>
      { db with
        commands := updateWhere
          (fun row => row.id = current.command.id && row.state = .queued)
          (fun row => row.reject input.decidedAt) db.commands }
  let _ ← appendEvent env.entropy env.now (input.event current.command)
  saveIdempotency env.entropy.idempotency (input.record current.command)
  return updated

/-- `decideApproval`. -/
def decideApproval [Host] (env : Env) (input : ApprovalDecisionInput) :
    Callback (Option ApprovalRow) :=
  replayOr (input.toEnvelope.scope "approval-decision" (digestControlValue input.toJson))
    (fun record => Tx.read fun db => db.approval? record.aggregateId)
    (decideApprovalFresh env input)

/-! ### Leases -/

/-- An active lease that has run out, with what `expireLeases` reads next to it. -/
structure ExpiredLease where
  lease : LeaseRow
  commandState : CommandState
  organizationId : String
  agentId : String

/-- `control_command_leases JOIN control_commands JOIN control_deployments`. -/
def Db.joinedLease? (db : Db) (lease : LeaseRow) : Option ExpiredLease := do
  let command ← db.commands.find? fun row => row.id = lease.commandId
  let deployment ← db.deployments.find? fun row => row.id = lease.deploymentId
  return { lease := lease
           commandState := command.state
           organizationId := deployment.organizationId
           agentId := deployment.agentId }

/-- The rows that `expireLeases` selects. -/
def Db.expiredLeases (db : Db) (now : Nat) : List ExpiredLease :=
  (db.leases.filter fun lease => lease.state = .active && lease.expiresAt ≤ now).filterMap
    db.joinedLease?

/-- `safeToRetry`: the command was only leased. -/
def ExpiredLease.safeToRetry (row : ExpiredLease) : Bool :=
  row.commandState = .leased

/-- A lease that ran out. -/
def LeaseRow.expire (row : LeaseRow) : LeaseRow :=
  { row with state := .expired }

/-- A command whose lease ran out: one that was only leased is safe to retry. -/
def CommandRow.afterLeaseExpiry (row : CommandRow) (now : Nat) (safeToRetry : Bool) :
    CommandRow :=
  if safeToRetry then
    { row with state := .queued, leaseServerId := none, leaseExpiresAt := none }
  else
    { row with
      state := .expired
      verificationState := .blocked
      leaseServerId := none
      leaseExpiresAt := none
      finalizedAt := some now }

/-- An attempt whose lease ran out. -/
def AttemptRow.afterLeaseExpiry (row : AttemptRow) (now : Nat) : AttemptRow :=
  { row with
    state := .expired
    completedAt := some now
    errorCode := some "lease_expired"
    errorSummary := some "Control command lease expired" }

/-- The event of a lease that ran out. -/
def ExpiredLease.event (row : ExpiredLease) : EventInput :=
  { organizationId := row.organizationId
    agentId := row.agentId
    serverId := some row.lease.serverId
    deploymentId := row.lease.deploymentId
    commandId := some row.lease.commandId
    idempotencyKey := "lease-expired:" ++ row.lease.id
    sourceIdentity := some row.lease.serverId
    attempt := some row.lease.attempt
    leaseId := some row.lease.id
    leaseTokenRef := some ("hint:lease-token:" ++ row.lease.id)
    eventType := "command.lease-expired"
    state := some (if row.safeToRetry then "queued" else "expired")
    aggregateType := "control_command"
    aggregateId := row.lease.commandId
    summary := [("command_id", .str row.lease.commandId), ("lease_id", .str row.lease.id),
      ("attempt", .num row.lease.attempt), ("retryable", .bool row.safeToRetry)] }

/-- One iteration of `expireLeases`. -/
def expireOne [Host] (env : Env) (index : Nat) (row : ExpiredLease) : Callback Unit := do
  let lease := row.lease
  Tx.write fun db =>
    { db with
      leases := updateWhere (fun other => other.id = lease.id) LeaseRow.expire db.leases }
  Tx.write fun db =>
    { db with
      commands := updateWhere (fun other => other.id = lease.commandId)
        (fun other => other.afterLeaseExpiry env.now row.safeToRetry) db.commands }
  Tx.write fun db =>
    { db with
      attempts := updateWhere
        (fun other => other.commandId = lease.commandId && other.attempt = lease.attempt)
        (fun other => other.afterLeaseExpiry env.now) db.attempts }
  let _ ← appendEvent (env.expiries index) env.now row.event
  return ()

/-- `expireLeases`. -/
def expireLeases [Host] (env : Env) : Callback Unit := do
  let rows ← Tx.read fun db => db.expiredLeases env.now
  let _ ← Tx.forEach 0 rows (expireOne env)
  return ()

/-- A command with the columns of its deployment and agent that `leaseCommands`
reads next to it. -/
structure LeasableCommand where
  command : CommandRow
  deployment : OwnedDeployment

/-- The approval clause of `leaseCommands`. -/
def Db.approvalClause (db : Db) (now : Nat) (command : CommandRow) : Bool :=
  (command.action.requiresApproval && command.approvalId.isSome &&
      found (fun approval => some approval.id = command.approvalId &&
        approval.commandId = command.id && approval.action = some command.action &&
        approval.decision = .approved && now < approval.expiresAt) db.approvals) ||
    (!command.action.requiresApproval && command.approvalId.isNone)

/-- The deployment lies in the scope of a lease request. -/
def LeaseInput.covers (input : LeaseInput) (owned : OwnedDeployment) : Bool :=
  owned.deployment.organizationId = input.organizationId &&
    owned.deployment.serverId = some input.serverId &&
    input.agentId.all (fun agentId => owned.deployment.agentId = agentId) &&
    owned.ownerUserId = input.userId

/-- The clauses of `leaseCommands` on the command itself. -/
def Db.isDue (db : Db) (now : Nat) (command : CommandRow) : Bool :=
  command.action ≠ .configApplyUser && command.state = .queued &&
    command.notBefore ≤ now && now < command.expiresAt && db.approvalClause now command

/-- `ORDER BY command.priority, command.created_at`. -/
def LeasableCommand.le (first second : LeasableCommand) : Prop :=
  first.command.priority < second.command.priority ∨
    (first.command.priority = second.command.priority ∧
      first.command.createdAt ≤ second.command.createdAt)

instance : DecidableRel LeasableCommand.le := fun first second =>
  inferInstanceAs (Decidable (first.command.priority < second.command.priority ∨
    (first.command.priority = second.command.priority ∧
      first.command.createdAt ≤ second.command.createdAt)))

/-- The rows of the join that pass the filter of `leaseCommands`. -/
def Db.dueCommands (db : Db) (now : Nat) (input : LeaseInput) : List LeasableCommand :=
  db.commands.filterMap fun command =>
    ((db.ownedDeployment? command.deploymentId).filter fun deployment =>
      input.covers deployment && db.isDue now command).map fun deployment =>
        { command := command, deployment := deployment }

/-- `Math.max(1, Math.min(limit, 50))`. -/
def LeaseInput.boundedLimit (input : LeaseInput) : Nat :=
  max 1 (min input.limit 50)

/-- `Math.max(15, Math.min(leaseSeconds, 300))`. -/
def LeaseInput.boundedSeconds (input : LeaseInput) : Nat :=
  max 15 (min input.leaseSeconds 300)

/-- The rows that `leaseCommands` selects. -/
def Db.leasableCommands (db : Db) (now : Nat) (input : LeaseInput) : List LeasableCommand :=
  ((db.dueCommands now input).insertionSort LeasableCommand.le).take input.boundedLimit

/-- `hashToken`. -/
def hashToken (token : String) : String :=
  sha256 (chars token)

/-- The attempts of a command. -/
def Db.attemptsOf (db : Db) (commandId : String) : List AttemptRow :=
  db.attempts.filter fun row => row.commandId = commandId

/-- A lease that `leaseCommands` hands out. -/
structure LeasedCommand where
  command : CommandRow
  organizationId : String
  ownerUserId : String
  agentId : String
  serverId : Option String
  attempt : Nat
  leaseId : String
  leaseToken : String
  leaseExpiresAt : Nat

/-- When a lease of a command ends: after its seconds, or with the command. -/
def leaseExpiry (now seconds : Nat) (command : CommandRow) : Nat :=
  ofMillis (min (dateNow now + seconds * 1000) (dateParseColumn command.expiresAt))

/-- The lease row that `leaseCommands` inserts. -/
def LeaseInput.leaseRow (input : LeaseInput) (entropy : Entropy) (now : Nat)
    (command : CommandRow) (attempt : Nat) : LeaseRow :=
  { id := entropy.row.text
    commandId := command.id
    deploymentId := command.deploymentId
    serverId := input.serverId
    attempt := attempt
    tokenHash := hashToken ("ref:lease-token:" ++ entropy.token.text)
    state := .active
    issuedAt := now
    expiresAt := leaseExpiry now input.boundedSeconds command
    consumedAt := none }

/-- `INSERT INTO control_command_leases`. -/
def insertLease (row : LeaseRow) : Callback Unit :=
  Tx.insert
    (fun db =>
      [(decide (0 < row.attempt), .violation "control_command_leases_attempt_check"),
        (decide (row.issuedAt < row.expiresAt), .violation "control_command_leases_check"),
        (!found (fun other => other.id = row.id) db.leases,
          .violation "control_command_leases_pkey"),
        (!found (fun other => other.tokenHash = row.tokenHash) db.leases,
          .violation "control_command_leases_token_hash_key"),
        (!found (fun other => other.commandId = row.commandId &&
            other.attempt = row.attempt) db.leases,
          .violation "control_command_leases_command_id_attempt_key"),
        (!found (fun other => other.commandId = row.commandId &&
            other.state = .active) db.leases,
          .violation "control_command_leases_one_active_idx")])
    (fun db => { db with leases := db.leases ++ [row] })

/-- The attempt row that opens with a lease. -/
def leasedAttempt (id : Uuid) (commandId : String) (attempt : Nat) : AttemptRow :=
  { id := id.text
    commandId := commandId
    attempt := attempt
    state := .leased
    errorCode := none
    errorSummary := none
    evidenceRefs := []
    startedAt := none
    completedAt := none }

/-- `INSERT INTO command_attempts`. -/
def insertAttempt (row : AttemptRow) : Callback Unit :=
  Tx.insert
    (fun db =>
      [(decide (0 < row.attempt), .violation "command_attempts_attempt_check"),
        (!found (fun other => other.id = row.id) db.attempts,
          .violation "command_attempts_pkey"),
        (!found (fun other => other.commandId = row.commandId &&
            other.attempt = row.attempt) db.attempts,
          .violation "command_attempts_command_id_attempt_key")])
    (fun db => { db with attempts := db.attempts ++ [row] })

/-- The event of a new lease. -/
def LeasableCommand.event (row : LeasableCommand) (lease : LeaseRow) : EventInput :=
  { organizationId := row.deployment.deployment.organizationId
    agentId := row.deployment.deployment.agentId
    serverId := row.deployment.deployment.serverId
    deploymentId := row.command.deploymentId
    commandId := some row.command.id
    idempotencyKey := "lease:" ++ lease.id
    sourceIdentity := some lease.serverId
    attempt := some lease.attempt
    leaseId := some lease.id
    leaseTokenRef := some ("hint:lease-token:" ++ lease.id)
    eventType := "command.leased"
    state := some "leased"
    aggregateType := "control_command"
    aggregateId := row.command.id
    summary := [("command_id", .str row.command.id), ("lease_id", .str lease.id),
      ("attempt", .num lease.attempt),
      ("lease_expires_at", .str (isoString lease.expiresAt))] }

/-- A command under a new lease. -/
def CommandRow.lease (row : CommandRow) (serverId : String) (expiresAt : Nat) : CommandRow :=
  { row with
    state := .leased
    leaseServerId := some serverId
    leaseExpiresAt := some expiresAt }

/-- One iteration of `leaseCommands`. -/
def leaseOne [Host] (env : Env) (input : LeaseInput) (index : Nat) (row : LeasableCommand) :
    Callback LeasedCommand := do
  let entropy := env.grants index
  let command := row.command
  let owned := row.deployment
  let attempt ← Tx.read fun db =>
    maxOf ((db.attemptsOf command.id).map AttemptRow.attempt) + 1
  let lease := input.leaseRow entropy env.now command attempt
  insertLease lease
  insertAttempt (leasedAttempt entropy.attempt command.id attempt)
  Tx.write fun db =>
    { db with
      commands := updateWhere (fun other => other.id = command.id)
        (fun other => other.lease input.serverId lease.expiresAt) db.commands }
  let _ ← appendEvent entropy env.now (row.event lease)
  return { command := command
           organizationId := owned.deployment.organizationId
           ownerUserId := owned.ownerUserId
           agentId := owned.deployment.agentId
           serverId := owned.deployment.serverId
           attempt := attempt
           leaseId := lease.id
           leaseToken := "ref:lease-token:" ++ entropy.token.text
           leaseExpiresAt := lease.expiresAt }

/-- `leaseCommands`. -/
def leaseCommands [Host] (env : Env) (input : LeaseInput) : Callback (List LeasedCommand) := do
  expireLeases env
  let rows ← Tx.read fun db => db.leasableCommands env.now input
  Tx.forEach 0 rows (leaseOne env input)

end BairuiPlatform
