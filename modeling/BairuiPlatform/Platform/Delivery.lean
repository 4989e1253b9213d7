/-
Module: BairuiPlatform.Platform.Delivery
Purpose: The delivery protocol of PostgresPlatformRepository: its leases, its
  receipts, and their effects on agents, runtimes and deployments.
Trusted boundary: none
Main exports: leaseControlCommands, recordCommandReceipt, receiptEffects
-/
import BairuiPlatform.Authority.Receipts
import BairuiPlatform.Platform.Requests

namespace BairuiPlatform

open Foundations

/-! ### Leases -/

/-- The argument of `leaseControlCommands`. -/
structure ControlLeaseInput where
  serverId : String
  limit : Option Nat
  leaseSeconds : Option Nat

/-- `Math.max(1, Math.min(limit ?? 10, 50))`. -/
def ControlLeaseInput.boundedLimit (input : ControlLeaseInput) : Nat :=
  max 1 (min (input.limit.getD 10) 50)

/-- `Math.max(15, Math.min(leaseSeconds ?? 60, 300))`. -/
def ControlLeaseInput.boundedSeconds (input : ControlLeaseInput) : Nat :=
  max 15 (min (input.leaseSeconds.getD 60) 300)

/-- The command has outlived its own deadline before anyone accepted it. -/
def CommandRow.outlived (row : CommandRow) (now : Nat) : Bool :=
  [.queued, .leased].contains row.state && row.expiresAt ≤ now

/-- The lease of the command has run out while the command is still alive. -/
def CommandRow.abandoned (row : CommandRow) (now : Nat) : Bool :=
  [.leased, .accepted, .running].contains row.state && row.leaseExpiresAt.any (· ≤ now) &&
    now < row.expiresAt

/-- The filter of `leaseControlCommands`. -/
def Db.isDeliverable (db : Db) (now : Nat) (serverId : String) (command : CommandRow) : Bool :=
  found (fun deployment => deployment.id = command.deploymentId &&
      deployment.serverId = some serverId &&
      found (fun runtime => runtime.agentId = deployment.agentId) db.runtimes)
      db.deployments &&
    command.state = .queued && command.notBefore ≤ now && now < command.expiresAt &&
    (command.approvalId.isNone || found (fun approval =>
      some approval.id = command.approvalId && approval.commandId = command.id &&
        approval.decision = .approved && now < approval.expiresAt) db.approvals)

/-- `ORDER BY command.priority, command.created_at`. -/
def CommandRow.le (first second : CommandRow) : Prop :=
  first.priority < second.priority ∨
    (first.priority = second.priority ∧ first.createdAt ≤ second.createdAt)

instance : DecidableRel CommandRow.le := fun first second =>
  inferInstanceAs (Decidable (first.priority < second.priority ∨
    (first.priority = second.priority ∧ first.createdAt ≤ second.createdAt)))

/-- The rows that `leaseControlCommands` selects. -/
def Db.deliverableCommands (db : Db) (now : Nat) (input : ControlLeaseInput) :
    List CommandRow :=
  ((db.commands.filter fun command => db.isDeliverable now input.serverId command)
    |>.insertionSort CommandRow.le).take input.boundedLimit

/-- A command that `leaseControlCommands` hands out. -/
structure DeliveredCommand where
  command : CommandRow
  attempt : Nat
  leaseExpiresAt : Nat

/-- One iteration of `leaseControlCommands`. -/
def deliverOne (env : PlatformEnv) (input : ControlLeaseInput) (index : Nat)
    (command : CommandRow) : Callback DeliveredCommand := do
  let attempt ← Tx.read fun db =>
    maxOf ((db.attemptsOf command.id).map AttemptRow.attempt) + 1
  let leaseExpiresAt := ofMillis (dateNow env.now + input.boundedSeconds * 1000)
  Tx.write fun db =>
    { db with
      commands := updateWhere (fun row => row.id = command.id)
        (fun row => row.lease input.serverId leaseExpiresAt) db.commands }
  insertAttempt (leasedAttempt (env.attempts index) command.id attempt)
  return { command := command, attempt := attempt, leaseExpiresAt := leaseExpiresAt }

/-- `leaseControlCommands`. -/
def leaseControlCommands (env : PlatformEnv) (input : ControlLeaseInput) :
    Callback (List DeliveredCommand) := do
  Tx.write fun db =>
    { db with
      commands := updateWhere (fun row => row.outlived env.now)
        (fun row => { row with state := .expired }) db.commands }
  Tx.write fun db =>
    { db with
      commands := updateWhere (fun row => row.abandoned env.now)
        (fun row =>
          { row with state := .queued, leaseServerId := none, leaseExpiresAt := none })
        db.commands }
  let rows ← Tx.read fun db => db.deliverableCommands env.now input
  Tx.forEach 0 rows (deliverOne env input)

/-! ### Receipts -/

/-- The argument of `recordCommandReceipt`. -/
structure DeliveryReceipt where
  commandId : String
  serverId : String
  attempt : Nat
  state : ReceiptState
  errorCode : Option String
  errorSummary : Option String
  runtimeEndpointRef : Option String
  resultSummary : Json
  evidenceRefs : List String

/-- The table `allowed`. -/
def deliveryTransitions : CommandState → List ReceiptState
  | .leased => [.accepted]
  | .accepted => [.running]
  | .running => [.succeeded, .failed, .cancelled]
  | _ => []

/-- The command state of the same name. -/
def ReceiptState.sameName? : ReceiptState → Option CommandState
  | accepted => some .accepted
  | running => some .running
  | succeeded => some .succeeded
  | failed => some .failed
  | cancelled => some .cancelled
  | expired => some .expired
  | executing | completionCandidate => none

/-- The attempt state of the same name. -/
def CommandState.attemptState : CommandState → AttemptState
  | accepted => .accepted
  | running => .running
  | succeeded => .succeeded
  | failed => .failed
  | cancelled => .cancelled
  | expired => .expired
  | queued | leased | verifying => .leased

/-- The row that `recordCommandReceipt` inserts. -/
def DeliveryReceipt.row (input : DeliveryReceipt) (env : PlatformEnv)
    (command : CommandRow) : ReceiptRow :=
  { id := env.receipt.text
    commandId := command.id
    deploymentId := command.deploymentId
    serverId := input.serverId
    leaseId := none
    attempt := input.attempt
    state := input.state
    idempotencyKey := none
    eventSequence := none
    evidenceRefs := input.evidenceRefs
    resultRef := none
    endpointRef := none
    sourceIdentity := none
    observationVersion := none
    errorCode := input.errorCode
    errorRef := none
    errorSummary := input.errorSummary
    resultSummary := input.resultSummary
    completionCandidate := false
    observedAt := none
    completedAt := none
    createdAt := env.now }

/-- `INSERT INTO command_receipts … ON CONFLICT (command_id, attempt, state) DO NOTHING`. -/
def insertDeliveryReceipt [Host] (row : ReceiptRow) : Callback Unit := do
  let recorded (db : Db) : Bool :=
    found (fun other => other.commandId = row.commandId && other.attempt = row.attempt &&
      other.state = row.state) db.receipts
  Tx.insert
    (fun db =>
      [(bairuiControlJsonIsSafe row.resultSummary, .violation "command_receipts_safe_payload"),
        (recorded db || !found (fun other => other.id = row.id) db.receipts,
          .violation "command_receipts_pkey")])
    (fun db => if recorded db then db else { db with receipts := db.receipts ++ [row] })

/-- The lifecycle columns that a receipt writes: those of the runtimes and agents of
a deployment, and of the deployment itself. -/
structure LifecycleEffect where
  runtime : RuntimeRow → RuntimeRow := id
  agent : AgentRow → AgentRow := id
  deployment : DeploymentRow → DeploymentRow := id

/-- The lifecycle effect of a receipt, by action and state. -/
def lifecycleEffect (now : Nat) (action : Action) (state : ReceiptState)
    (endpointRef : Option String) : LifecycleEffect :=
  match state, action with
  | .succeeded, .deploymentProvision =>
      { runtime := fun row => { row with endpointRef := endpointRef, status := .starting }
        deployment := fun row => { row with status := .active, updatedAt := now } }
  | .succeeded, .deploymentStart | .succeeded, .deploymentResume =>
      { runtime := fun row => { row with status := .starting }
        agent := fun row => { row with status := .starting, desiredRuntimeState := .running } }
  | .succeeded, .deploymentSuspend =>
      { runtime := fun row => { row with status := .suspended }
        agent := fun row =>
          { row with status := .suspended, desiredRuntimeState := .suspended } }
  | .succeeded, .deploymentStop =>
      { runtime := fun row => { row with status := .stopped }
        agent := fun row => { row with status := .stopped, desiredRuntimeState := .stopped } }
  | .succeeded, .deploymentDelete =>
      { runtime := fun row => { row with status := .deleted, endpointRef := none }
        agent := fun row => { row with status := .deleted, desiredRuntimeState := .deleted }
        deployment := fun row => { row with status := .revoked, updatedAt := now } }
  | .failed, .deploymentProvision =>
      { runtime := fun row => { row with status := .failed }
        agent := fun row => { row with status := .failed, initializationStatus := .failed }
        deployment := fun row => { row with status := .degraded, updatedAt := now } }
  | .failed, .deploymentDelete =>
      { runtime := fun row => { row with status := .degraded }
        agent := fun row => { row with status := .degraded, initializationStatus := .failed }
        deployment := fun row => { row with status := .degraded, updatedAt := now } }
  | .failed, .deploymentStart | .failed, .deploymentStop | .failed, .deploymentSuspend
  | .failed, .deploymentResume | .failed, .configApply | .failed, .releaseApply
  | .failed, .releaseRollback | .failed, .serviceRestart | .failed, .credentialRevoke =>
      { agent := fun row => { row with status := .degraded }
        deployment := fun row => { row with status := .degraded, updatedAt := now } }
  | _, _ => {}

/-- An effect on the rows of one deployment. -/
def LifecycleEffect.apply (effect : LifecycleEffect) (deploymentId : String) (db : Db) : Db :=
  let agentIds := (db.deployments.filter fun row => row.id = deploymentId).map (·.agentId)
  { db with
    runtimes := updateWhere (fun row => agentIds.contains row.agentId) effect.runtime
      db.runtimes
    agents := updateWhere (fun row => agentIds.contains row.id) effect.agent db.agents
    deployments := updateWhere (fun row => row.id = deploymentId) effect.deployment
      db.deployments }

/-- The text of a command argument. -/
def CommandRow.argument (command : CommandRow) (name : String) : Option String :=
  (command.arguments.field? name).bind Json.text?

/-- An applied configuration becomes the one of the runtime. -/
def applyConfig (command : CommandRow) (state : ReceiptState) (db : Db) : Db :=
  if state = .succeeded ∧ [Action.configApply, .configApplyUser].contains command.action then
    let agentIds := (db.deployments.filter fun row =>
      row.id = command.deploymentId).map (·.agentId)
    { db with
      runtimes := updateWhere (fun row => agentIds.contains row.agentId)
        (fun row => { row with configRevisionId := command.argument "config_revision_id" })
        db.runtimes }
  else db

/-- The status of a backup record after a receipt: only `verified` is kept of it. -/
def applyBackup (command : CommandRow) (state : ReceiptState) (db : Db) : Db :=
  let verified? : Option Bool :=
    match command.action, state with
    | .backupVerify, .succeeded => some true
    | .backupVerify, .running | .backupCreate, .succeeded => some false
    | .backupVerify, .failed | .backupCreate, .failed => some false
    | .backupExpire, .succeeded | .backupExpire, .failed => some false
    | _, _ => none
  match verified? with
  | some verified =>
      { db with
        backups := updateWhere (fun row => some row.id = command.argument "backup_id")
          (fun row => { row with verified := verified }) db.backups }
  | none => db

/-- `UPDATE release_manifests SET status`, for the release under an argument. -/
def setReleaseStatus (command : CommandRow) (argument status : String) (db : Db) : Db :=
  { db with
    releaseManifests := updateWhere (fun row => some row.id = command.argument argument)
      (fun row => { row with status := status }) db.releaseManifests }

/-- The status of release manifests after a receipt. -/
def applyRelease (command : CommandRow) (state : ReceiptState) (db : Db) : Db :=
  match command.action, state with
  | .releaseStage, .succeeded =>
      { db with
        releaseManifests := updateWhere
          (fun row => some row.id = command.argument "release_id" && row.status = "candidate")
          (fun row => { row with status := "approved" }) db.releaseManifests }
  | .releaseApply, .running => setReleaseStatus command "release_id" "rolling_out" db
  | .releaseApply, .succeeded => setReleaseStatus command "release_id" "released" db
  | .releaseRollback, .succeeded =>
      setReleaseStatus command "rollback_release_id" "released"
        (setReleaseStatus command "release_id" "withdrawn" db)
  | .releaseStage, .failed | .releaseApply, .failed | .releaseRollback, .failed =>
      setReleaseStatus command "release_id" "blocked" db
  | _, _ => db

/-- The effects of a receipt outside the tables of commands. -/
def receiptEffects (now : Nat) (command : CommandRow) (state : ReceiptState)
    (endpointRef : Option String) (db : Db) : Db :=
  applyRelease command state <| applyBackup command state <| applyConfig command state <|
    if [.succeeded, .failed].contains state then
      (lifecycleEffect now command.action state endpointRef).apply command.deploymentId db
    else db

/-- The command row after a receipt of this protocol. -/
def CommandRow.afterDelivery (row : CommandRow) (now : Nat) (state : CommandState) :
    CommandRow :=
  { row with
    state := state
    leaseExpiresAt :=
      if state = .running then some (now + 5 * 60 * 1000000) else row.leaseExpiresAt }

/-- The attempt row after a receipt of this protocol. -/
def AttemptRow.afterDelivery (row : AttemptRow) (now : Nat) (state : AttemptState)
    (input : DeliveryReceipt) : AttemptRow :=
  { row with
    state := state
    errorCode := input.errorCode
    errorSummary := input.errorSummary
    startedAt :=
      if [.accepted, .running].contains state then some (row.startedAt.getD now)
      else row.startedAt
    completedAt :=
      if [.succeeded, .failed, .cancelled, .expired].contains state then some now
      else row.completedAt }

/-- A command leased to the server, with the attempt that the receipt names. -/
def Db.delivered? (db : Db) (input : DeliveryReceipt) : Option CommandRow := do
  let command ← db.commands.find? fun row => row.id = input.commandId
  if command.leaseServerId = some input.serverId &&
      found (fun row => row.commandId = command.id && row.attempt = input.attempt)
        db.attempts then
    some command
  else none

/-- `recordCommandReceipt` for a command that the server holds. -/
def recordDelivery [Host] (env : PlatformEnv) (input : DeliveryReceipt)
    (command : CommandRow) : Callback (Option ReceiptRow) := do
  ensure (input.state.sameName? = some command.state ∨
      input.state ∈ deliveryTransitions command.state)
    "invalid_command_transition"
    ("Invalid command transition: " ++ command.state.name ++ " -> " ++ input.state.name) 409
  let state ← Tx.orRaise (.violation "control_commands_state_check") input.state.sameName?
  insertDeliveryReceipt (input.row env command)
  Tx.write fun db =>
    { db with
      commands := updateWhere (fun row => row.id = command.id)
        (fun row => row.afterDelivery env.now state) db.commands }
  Tx.write fun db =>
    { db with
      attempts := updateWhere
        (fun row => row.commandId = command.id && row.attempt = input.attempt)
        (fun row => row.afterDelivery env.now state.attemptState input) db.attempts }
  ensure (input.state = .succeeded → command.action = .deploymentProvision →
      input.runtimeEndpointRef.any (· ≠ "") = true)
    "runtime_endpoint_required" "Provision receipt requires runtimeEndpointRef" 400
  Tx.write (receiptEffects env.now command input.state input.runtimeEndpointRef)
  Tx.read fun db => db.receipts.find? fun row =>
    row.commandId = command.id && row.attempt = input.attempt && row.state = input.state

/-- `recordCommandReceipt`. -/
def recordCommandReceipt [Host] (env : PlatformEnv) (input : DeliveryReceipt) :
    Callback (Option ReceiptRow) := do
  match ← Tx.read fun db => db.delivered? input with
  | none => return none
  | some command => recordDelivery env input command

end BairuiPlatform
