/-
Module: BairuiPlatform.Platform.Requests
Purpose: The operations of PostgresPlatformRepository that queue control commands
  and decide their approvals.
Trusted boundary: none
Main exports: PlatformEnv, requestAgentProvisioning, requestAgentLifecycle,
  requestControlOperation, decideControlApproval
-/
import BairuiPlatform.Authority.Commands

namespace BairuiPlatform

open Foundations

/-- The clock reading of a transaction of the platform repository, and the values
of `randomUUID()` that it draws. -/
structure PlatformEnv where
  now : Nat
  command : Uuid
  approval : Uuid
  idempotency : Uuid
  config : Uuid
  credential : Uuid
  deployment : Uuid
  desiredState : Uuid
  receipt : Uuid
  attempts : Nat → Uuid

/-- `new Date(Date.now() + minutes * 60_000)`. -/
def minutesFrom (now minutes : Nat) : Nat :=
  ofMillis (dateNow now + minutes * 60000)

/-- A command row as the platform repository inserts it, with the defaults of the
columns that it leaves out. -/
def platformCommand (env : PlatformEnv) (id deploymentId idempotencyKey : String)
    (action : Action) (agentId : String) (arguments : Json) (approvalId : Option String)
    (expectedObservationVersion : Nat) (priority : Int) (expiresAt : Nat)
    (requestedBy : String) : CommandRow :=
  { id := id
    deploymentId := deploymentId
    idempotencyKey := idempotencyKey
    action := action
    targetModuleId := "bairui.supervisor"
    targetInstanceId := some agentId
    arguments := arguments
    secretRefs := []
    approvalId := approvalId
    expectedObservationVersion := expectedObservationVersion
    state := .queued
    verificationState := .pending
    priority := priority
    leaseServerId := none
    leaseExpiresAt := none
    notBefore := env.now
    expiresAt := expiresAt
    requestedBy := requestedBy
    completionCandidateAt := none
    finalizedAt := none
    createdAt := env.now }

/-- An approval row as the platform repository inserts it. The columns that
migration 021 added keep their defaults: the action among them is null. -/
def platformApproval (env : PlatformEnv) (id commandId : String) (riskLevel : RiskLevel)
    (requestedBy : String) (decidedBy : Option String) (decision : Decision)
    (reason : String) (expiresAt : Nat) (decidedAt : Option Nat) : ApprovalRow :=
  { id := id
    organizationId := none
    commandId := commandId
    idempotencyKey := none
    action := none
    riskLevel := riskLevel
    requestedBy := requestedBy
    decidedBy := decidedBy
    decision := decision
    reason := reason
    reasonCode := none
    reasonRef := none
    scope := .obj []
    expiresAt := expiresAt
    decidedAt := decidedAt
    createdAt := env.now }

/-- The runtime of an agent. -/
def Db.runtimeOf? (db : Db) (agentId : String) : Option RuntimeRow :=
  db.runtimes.find? fun row => row.agentId = agentId

/-- `ORDER BY created_at DESC LIMIT 1` on commands. -/
def latestCommand (rows : List CommandRow) : Option CommandRow :=
  latestBy CommandRow.createdAt rows

/-- `ORDER BY created_at DESC LIMIT 1` on deployments. -/
def latestDeployment (rows : List DeploymentRow) : Option DeploymentRow :=
  latestBy DeploymentRow.createdAt rows

/-! ### Provisioning -/

/-- The provider of a provisioning request. -/
structure ProviderInput where
  provider : String
  baseUrl : String
  model : String

/-- The argument of `requestAgentProvisioning`. -/
structure ProvisioningInput where
  agentId : String
  provider : ProviderInput
  skills : List (String × Bool)
  requestedBy : String
  agentCredentialId : Option String
  agentCredentialHash : String

/-- What `requestAgentProvisioning` returns. -/
structure ProvisioningResult where
  agent : AgentRow
  runtime : RuntimeRow
  deployment : Option DeploymentRow
  command : Option CommandRow

/-- `ORDER BY last_seen_at DESC NULLS LAST, created_at`. -/
def ServerRow.le (first second : ServerRow) : Prop :=
  match first.lastSeenAt, second.lastSeenAt with
  | some firstSeen, some secondSeen =>
      secondSeen < firstSeen ∨ (firstSeen = secondSeen ∧ first.createdAt ≤ second.createdAt)
  | some _, none => True
  | none, some _ => False
  | none, none => first.createdAt ≤ second.createdAt

instance : DecidableRel ServerRow.le := fun first second => by
  unfold ServerRow.le
  split <;> infer_instance

/-- The server for an agent without one. -/
def Db.availableServer? (db : Db) (organizationId : String) : Option ServerRow :=
  ((db.servers.filter fun row =>
    row.organizationId = organizationId && row.available).insertionSort ServerRow.le).head?

/-- The order of `Array.prototype.sort` on texts. -/
def textLe (first second : String) : Prop :=
  utf16 first ≤ utf16 second

instance : DecidableRel textLe := fun first second =>
  inferInstanceAs (Decidable (utf16 first ≤ utf16 second))

/-- `disabledSkills`. -/
def ProvisioningInput.disabledSkills (input : ProvisioningInput) : List String :=
  ((input.skills.filter fun skill => skill.2 = false).map (·.1)).insertionSort textLe

/-- `configDocument`. -/
def ProvisioningInput.configDocument (input : ProvisioningInput) (agent : AgentRow)
    (runtime : RuntimeRow) : Json :=
  .obj
    [("agent", .obj [("id", .str agent.id), ("name", .str agent.name),
        ("soul_markdown", .str agent.soulMarkdown)]),
      ("runtime", .obj [("kind", .str "hermes"), ("workspace_ref", .str runtime.workspaceRef)]),
      ("provider", .obj [("provider", .str input.provider.provider),
        ("base_url", .str input.provider.baseUrl), ("model", .str input.provider.model)]),
      ("skills", .obj [("disabled", .ofTexts input.disabledSkills)])]

/-- `INSERT INTO config_revisions`. -/
def insertConfigRevision (row : ConfigRevisionRow) : Callback Unit :=
  Tx.insert
    (fun db =>
      [(!found (fun other => other.id = row.id) db.configRevisions,
          .violation "config_revisions_pkey"),
        (!found (fun other => other.organizationId = row.organizationId &&
            other.revision = row.revision) db.configRevisions,
          .violation "config_revisions_organization_id_revision_key"),
        (!found (fun other => other.organizationId = row.organizationId &&
            other.contentHash = row.contentHash) db.configRevisions,
          .violation "config_revisions_organization_id_content_hash_key")])
    (fun db => { db with configRevisions := db.configRevisions ++ [row] })

/-- The configuration revision of a document: the stored one of the same content,
or a new one. -/
def provisionConfig (env : PlatformEnv) (agent : AgentRow) (document : Json) :
    Callback String := do
  let contentHash := sha256 document.stringifyChars
  let existing ← Tx.read fun db => db.configRevisions.find? fun row =>
    row.organizationId = agent.organizationId && row.contentHash = contentHash
  match existing with
  | some row => return row.id
  | none => do
      let revision ← Tx.read fun db =>
        maxOf ((db.configRevisions.filter fun row =>
          row.organizationId = agent.organizationId).map (·.revision)) + 1
      insertConfigRevision
        { id := env.config.text
          organizationId := agent.organizationId
          agentId := agent.id
          revision := revision
          configDocument := document
          contentHash := contentHash }
      return env.config.text

/-- The active credential of a runtime is revoked and replaced. -/
def replaceCredential (env : PlatformEnv) (input : ProvisioningInput) (agent : AgentRow)
    (runtime : RuntimeRow) : Callback Unit := do
  Tx.write fun db =>
    { db with
      runtimeCredentials := updateWhere
        (fun row => row.runtimeId = runtime.id && row.active)
        (fun row => { row with active := false }) db.runtimeCredentials }
  let row : RuntimeCredentialRow :=
    { id := input.agentCredentialId.getD env.credential.text
      agentId := agent.id
      runtimeId := runtime.id
      keyHash := input.agentCredentialHash
      active := true }
  Tx.insert
    (fun db =>
      [(!found (fun other => other.id = row.id) db.runtimeCredentials,
          .violation "agent_runtime_credentials_pkey"),
        (!found (fun other => other.keyHash = row.keyHash) db.runtimeCredentials,
          .violation "agent_runtime_credentials_key_hash_key"),
        (!found (fun other => other.runtimeId = row.runtimeId && other.active)
            db.runtimeCredentials,
          .violation "agent_runtime_credentials_one_active_idx")])
    (fun db => { db with runtimeCredentials := db.runtimeCredentials ++ [row] })

/-- The error for a runtime whose deployment is gone. -/
def deploymentUnavailable : Failure :=
  .control (controlError "agent_deployment_unavailable" "Agent deployment is unavailable" 409)

/-- The deployment of an agent: the stored one with its counter advanced, or a new
one. -/
def provisionDeployment (env : PlatformEnv) (agent : AgentRow) (runtime : RuntimeRow)
    (server : ServerRow) : Callback DeploymentRow := do
  match runtime.deploymentId with
  | some deploymentId => do
      Tx.write fun db =>
        { db with
          deployments := updateWhere
            (fun row => row.id = deploymentId && row.agentId = agent.id)
            (fun row =>
              { row with
                serverId := some server.id
                name := agent.name
                status := .enrolling
                desiredStateVersion := row.desiredStateVersion + 1
                updatedAt := env.now })
            db.deployments }
      let updated ← Tx.read fun db => db.deployments.find? fun row =>
        row.id = deploymentId && row.agentId = agent.id
      Tx.orRaise deploymentUnavailable updated
  | none => do
      let row : DeploymentRow :=
        { id := env.deployment.text
          organizationId := agent.organizationId
          serverId := some server.id
          agentId := agent.id
          name := agent.name
          status := .enrolling
          desiredStateVersion := 1
          observedStateVersion := 0
          createdAt := env.now
          updatedAt := env.now }
      Tx.insert
        (fun db =>
          [(!found (fun other => other.id = row.id) db.deployments,
              .violation "control_deployments_pkey"),
            (!found (fun other => other.agentId = row.agentId) db.deployments,
              .violation "control_deployments_agent_idx")])
        (fun db => { db with deployments := db.deployments ++ [row] })
      return row

/-- The desired state of a provisioned deployment, with the defaults of its columns
and the values that its trigger fills in. -/
def provisionedState (env : PlatformEnv) (deployment : DeploymentRow) (configId : String)
    (requestedBy : String) : DesiredStateRow :=
  { id := env.desiredState.text
    organizationId := deployment.organizationId
    deploymentId := deployment.id
    idempotencyKey := "legacy:" ++ env.desiredState.text
    version := deployment.desiredStateVersion
    sequence := deployment.desiredStateVersion
    state := .running
    lifecycleStatus := .active
    configRevisionId := some configId
    releaseManifestId := none
    backupId := none
    moduleVersions := .obj [("core-runtime", .str "hermes")]
    modules := .arr []
    createdBy := requestedBy }

/-- The command of a provisioning request. -/
def provisionCommand (env : PlatformEnv) (agent : AgentRow) (runtime : RuntimeRow)
    (deployment : DeploymentRow) (configId requestedBy : String) : CommandRow :=
  platformCommand env env.command.text deployment.id
    (deployment.id ++ "/provision/" ++ configId ++ "/" ++
      toString deployment.desiredStateVersion)
    .deploymentProvision agent.id
    (.obj [("agent_id", .str agent.id), ("workspace_ref", .str runtime.workspaceRef),
      ("config_revision_id", .str configId)])
    none 0 100 (minutesFrom env.now 15) requestedBy

/-- `requestAgentProvisioning` for an agent that is not provisioned. -/
def provisionAgent [Host] (env : PlatformEnv) (input : ProvisioningInput) (agent : AgentRow)
    (runtime : RuntimeRow) : Callback (Option ProvisioningResult) := do
  let candidate ← Tx.read fun db => db.availableServer? agent.organizationId
  let server ← Tx.orRaise
    (.control (controlError "no_agent_capacity"
      "No healthy server is available for this Agent" 409)) candidate
  let configId ← provisionConfig env agent (input.configDocument agent runtime)
  replaceCredential env input agent runtime
  let deployment ← provisionDeployment env agent runtime server
  insertDesiredState (provisionedState env deployment configId input.requestedBy)
  let command := provisionCommand env agent runtime deployment configId input.requestedBy
  insertCommand command
  Tx.write fun db =>
    { db with
      runtimes := updateWhere (fun row => row.id = runtime.id)
        (fun row =>
          { row with
            deploymentId := some deployment.id
            configRevisionId := some configId
            status := .provisioning })
        db.runtimes }
  Tx.write fun db =>
    { db with
      agents := updateWhere (fun row => row.id = agent.id)
        (fun row =>
          { row with
            initializationStatus := .provisioning
            desiredRuntimeState := .running
            status := .provisioning })
        db.agents }
  return some
    { agent :=
        { agent with
          initializationStatus := .provisioning
          desiredRuntimeState := .running
          status := .provisioning }
      runtime :=
        { runtime with
          deploymentId := some deployment.id
          configRevisionId := some configId
          status := .provisioning }
      deployment := some deployment
      command := some command }

/-- The agent and its runtime, or nothing when one of them is missing. -/
def Db.agentWithRuntime? (db : Db) (agentId : String) : Option (AgentRow × RuntimeRow) := do
  let agent ← db.agents.find? fun row => row.id = agentId
  let runtime ← db.runtimeOf? agent.id
  return (agent, runtime)

/-- What `requestAgentProvisioning` returns for an agent that is provisioned. -/
def Db.provisioned (db : Db) (agent : AgentRow) (runtime : RuntimeRow) : ProvisioningResult :=
  let deployment := latestDeployment (db.deployments.filter fun row => row.agentId = agent.id)
  { agent := agent
    runtime := runtime
    deployment := deployment
    command := deployment.bind fun row =>
      latestCommand (db.commands.filter fun command => command.deploymentId = row.id) }

/-- `requestAgentProvisioning`. -/
def requestAgentProvisioning [Host] (env : PlatformEnv) (input : ProvisioningInput) :
    Callback (Option ProvisioningResult) := do
  match ← Tx.read fun db => db.agentWithRuntime? input.agentId with
  | none => return none
  | some (agent, runtime) =>
      if agent.initializationStatus = .provisioning ∨ agent.initializationStatus = .ready then
        Tx.read fun db => some (db.provisioned agent runtime)
      else provisionAgent env input agent runtime

/-! ### Lifecycle requests -/

/-- `input.request` of a lifecycle request. -/
inductive LifecycleRequest where
  | pause | resume | delete
deriving Repr, DecidableEq

namespace LifecycleRequest

/-- `actionByRequest`. -/
def action : LifecycleRequest → Action
  | pause => .deploymentSuspend
  | resume => .deploymentResume
  | delete => .deploymentDelete

/-- `desiredState`. -/
def desiredState : LifecycleRequest → DesiredRuntimeState
  | pause => .suspended
  | resume => .running
  | delete => .deleted

end LifecycleRequest

/-- The argument of `requestAgentLifecycle`. -/
structure LifecycleInput where
  agentId : String
  request : LifecycleRequest
  requestedBy : String
  reason : Option String

/-- `state` of the result of `requestAgentLifecycle`. -/
inductive LifecycleOutcome where
  | done (deleted : Bool)
  | pending (commandId : String) (state : CommandState)
deriving Repr, DecidableEq

/-- `DELETE FROM agents`, with the rows that go with it. Only an agent whose runtime
has no deployment is deleted this way. -/
def Db.dropAgent (db : Db) (agentId : String) : Db :=
  let gone (deploymentId : String) : Bool :=
    found (fun row => row.id = deploymentId && row.agentId = agentId) db.deployments
  let goneCommand (commandId : String) : Bool :=
    found (fun row => row.id = commandId && gone row.deploymentId) db.commands
  { agents := db.agents.filter fun row => row.id ≠ agentId
    runtimes := db.runtimes.filter fun row => row.agentId ≠ agentId
    servers := db.servers
    deployments := db.deployments.filter fun row => row.agentId ≠ agentId
    configRevisions := db.configRevisions.filter fun row => row.agentId ≠ agentId
    releaseManifests := db.releaseManifests
    backups := db.backups.filter fun row => !gone row.deploymentId
    upstreamCandidates := db.upstreamCandidates
    runtimeCredentials := db.runtimeCredentials.filter fun row => row.agentId ≠ agentId
    secretReferences := db.secretReferences.filter fun row => row.agentId ≠ agentId
    desiredStates := db.desiredStates.filter fun row => !gone row.deploymentId
    observations := db.observations.filter fun row => !gone row.deploymentId
    commands := db.commands.filter fun row => !gone row.deploymentId
    approvals := db.approvals.filter fun row => !goneCommand row.commandId
    leases := db.leases.filter fun row => !gone row.deploymentId
    attempts := db.attempts.filter fun row => !goneCommand row.commandId
    receipts := db.receipts.filter fun row => !gone row.deploymentId
    verifications := db.verifications.filter fun row => !gone row.deploymentId
    journal :=
      { events := db.journal.events.filter fun row => row.agentId ≠ agentId
        outbox := db.journal.outbox.filter fun row => !row.deploymentId.any gone
        deadLetters := db.journal.deadLetters.filter fun row => !row.deploymentId.any gone
        audits := db.journal.audits.filter fun row => !row.deploymentId.any gone
        idempotency := db.journal.idempotency.filter fun row => !row.deploymentId.any gone } }

/-- The lifecycle commands of a deployment that are not finished. -/
def Db.lifecycleCommands (db : Db) (deploymentId : String) : List CommandRow :=
  db.commands.filter fun row =>
    row.deploymentId = deploymentId &&
      [.deploymentStart, .deploymentStop, .deploymentSuspend, .deploymentResume,
        .deploymentDelete].contains row.action &&
      [.queued, .leased, .accepted, .running].contains row.state

/-- The command of a lifecycle request. -/
def lifecycleCommand (env : PlatformEnv) (input : LifecycleInput) (deployment : DeploymentRow)
    (approvalId : Option String) : CommandRow :=
  platformCommand env env.command.text deployment.id
    (deployment.id ++ "/" ++ input.request.action.name ++ "/" ++
      toString (deployment.desiredStateVersion + 1))
    input.request.action input.agentId (.obj [("agent_id", .str input.agentId)]) approvalId
    deployment.observedStateVersion 100 (minutesFrom env.now 15) input.requestedBy

/-- The approval that the owner's confirmation of a deletion stands for. -/
def deletionApproval (env : PlatformEnv) (input : LifecycleInput) : ApprovalRow :=
  platformApproval env env.approval.text env.command.text .high input.requestedBy
    (some input.requestedBy) .approved (input.reason.getD "Agent owner confirmed deletion")
    (minutesFrom env.now 15) (some env.now)

/-- `requestAgentLifecycle` once no other lifecycle command is in progress. -/
def queueLifecycle [Host] (env : PlatformEnv) (input : LifecycleInput) (runtime : RuntimeRow)
    (deployment : DeploymentRow) : Callback (Option LifecycleOutcome) := do
  let approval :=
    if input.request = .delete then some (deletionApproval env input) else none
  insertCommand (lifecycleCommand env input deployment (approval.map (·.id)))
  insertApproval? approval
  Tx.write fun db =>
    { db with
      deployments := updateWhere (fun row => row.id = deployment.id)
        (fun row =>
          { row with
            desiredStateVersion := deployment.desiredStateVersion + 1
            updatedAt := env.now })
        db.deployments }
  Tx.write fun db =>
    { db with
      agents := updateWhere (fun row => row.id = input.agentId)
        (fun row =>
          { row with
            desiredRuntimeState := input.request.desiredState
            initializationStatus :=
              if input.request = .delete then .deleting else row.initializationStatus })
        db.agents }
  Tx.whenever (input.request = .delete) <|
    Tx.write fun db =>
      { db with
        runtimes := updateWhere (fun row => row.id = runtime.id)
          (fun row => { row with status := .deleting }) db.runtimes }
  return some (.pending env.command.text .queued)

/-- `requestAgentLifecycle` for an agent with a deployment. -/
def lifecycleOfDeployment [Host] (env : PlatformEnv) (input : LifecycleInput)
    (runtime : RuntimeRow) (deployment : DeploymentRow) :
    Callback (Option LifecycleOutcome) := do
  if input.request = .pause ∧ runtime.status = .suspended then
    return some (.done false)
  else do
    ensure (input.request = .resume → runtime.status = .suspended)
      "invalid_agent_lifecycle_state" "Agent is not suspended" 409
    match ← Tx.read fun db => latestCommand (db.lifecycleCommands deployment.id) with
    | some existing => do
        ensure (existing.action = input.request.action) "agent_lifecycle_in_progress"
          "Another Agent lifecycle command is in progress" 409
        return some (.pending existing.id existing.state)
    | none => queueLifecycle env input runtime deployment

/-- `requestAgentLifecycle`. -/
def requestAgentLifecycle [Host] (env : PlatformEnv) (input : LifecycleInput) :
    Callback (Option LifecycleOutcome) := do
  match ← Tx.read fun db => db.agentWithRuntime? input.agentId with
  | none => return none
  | some (agent, runtime) =>
      match runtime.deploymentId with
      | none => do
          ensure (input.request = .delete) "agent_not_initialized"
            "Agent has not been initialized" 409
          Tx.write fun db => db.dropAgent agent.id
          return some (.done true)
      | some deploymentId => do
          let candidate ← Tx.read fun db =>
            db.deployments.find? fun row => row.id = deploymentId
          let deployment ← Tx.orRaise deploymentUnavailable candidate
          lifecycleOfDeployment env input runtime deployment

/-! ### Control operations -/

/-- The argument of `requestControlOperation`. -/
structure OperationInput where
  organizationId : String
  agentId : String
  action : Action
  arguments : Json
  idempotencyKey : Option String
  commandId : Option String
  approvalRequired : Bool
  approvalId : Option String
  riskLevel : Option RiskLevel
  reason : Option String
  priority : Option Int
  expiresInMs : Option Nat
  requestedBy : String

/-- A text among the arguments of an operation. -/
def OperationInput.argument (input : OperationInput) (name : String) : Option String :=
  (input.arguments.field? name).bind Json.text?

/-- `{ code: "invalid_control_reference", statusCode: 400 }`. -/
def requireReference (condition : Prop) [Decidable condition] (message : String) :
    Callback Unit :=
  ensure condition "invalid_control_reference" message 400

/-- The references among the arguments of an operation exist. Every lookup is made
here, and only those that the action asks for are required to find a row. -/
def checkReferences (input : OperationInput) (deployment : DeploymentRow) :
    Callback Unit := do
  let named (name id : String) : Bool := input.argument name = some id
  let configFound ← Tx.read fun db =>
    found (fun row => named "config_revision_id" row.id &&
      row.organizationId = input.organizationId && row.agentId = input.agentId)
      db.configRevisions
  requireReference
    ([Action.configStage, .configApply, .configApplyUser].contains input.action = true →
      configFound = true)
    "Configuration revision does not belong to this Agent"
  let backups ← Tx.read fun db => db.backups.filter fun row =>
    named "backup_id" row.id && row.deploymentId = deployment.id
  requireReference (input.action = .backupVerify → backups ≠ [])
    "Backup does not belong to this Agent"
  requireReference
    (input.action = .backupRestore → backups.any (fun row => row.verified) = true)
    "Verified backup is unavailable for this Agent"
  let releaseFound ← Tx.read fun db =>
    found (fun row => named "release_id" row.id &&
      ["candidate", "approved", "released"].contains row.status) db.releaseManifests
  requireReference
    ([Action.releaseStage, .releaseApply].contains input.action = true → releaseFound = true)
    "Release manifest is unavailable"
  let manifests ← Tx.read fun db => db.releaseManifests.filter fun row =>
    named "release_id" row.id || named "rollback_release_id" row.id
  requireReference
    (input.action = .releaseRollback → (manifests.map (·.id)).dedup.length = 2)
    "Rollback manifests are unavailable"
  let candidateFound ← Tx.read fun db =>
    found (fun row => named "candidate_id" row.id && named "upstream_id" row.upstreamId)
      db.upstreamCandidates
  requireReference
    (input.action = .upstreamCheck → (input.argument "candidate_id").any (· ≠ "") = true →
      candidateFound = true)
    "Upstream candidate is unavailable"
  let credentialFound ← Tx.read fun db =>
    found (fun row => named "identity_id" row.id && row.agentId = input.agentId && row.active)
      db.runtimeCredentials
  requireReference (input.action = .credentialRevoke → credentialFound = true)
    "Agent credential is unavailable"

/-- The deployment that an operation is for. -/
def Db.operationDeployment? (db : Db) (input : OperationInput) : Option DeploymentRow :=
  latestDeployment (db.deployments.filter fun row =>
    row.agentId = input.agentId && row.organizationId = input.organizationId &&
      row.status ≠ .revoked && found (fun agent => agent.id = row.agentId) db.agents)

/-- When the command of an operation expires. -/
def OperationInput.expiresAt (input : OperationInput) (now : Nat) : Nat :=
  ofMillis (dateNow now +
    max (5 * 60000) (min (input.expiresInMs.getD (30 * 60000)) (24 * 60 * 60000)))

/-- The approval that an operation asks for. -/
def OperationInput.approval (input : OperationInput) (env : PlatformEnv) (commandId : String) :
    Option ApprovalRow :=
  if input.approvalRequired then
    some (platformApproval env (input.approvalId.getD env.approval.text) commandId
      (input.riskLevel.getD .high) input.requestedBy none .pending (input.reason.getD "")
      (input.expiresAt env.now) none)
  else none

/-- The command of an operation. -/
def OperationInput.command (input : OperationInput) (env : PlatformEnv)
    (deployment : DeploymentRow) (idempotencyKey : String) : CommandRow :=
  let id := input.commandId.getD env.command.text
  platformCommand env id deployment.id idempotencyKey input.action input.agentId
    input.arguments ((input.approval env id).map (·.id)) deployment.observedStateVersion
    (input.priority.getD 100) (input.expiresAt env.now) input.requestedBy

/-- The backup record that a backup operation creates. -/
def createBackupRecord (input : OperationInput) (deployment : DeploymentRow) :
    Callback Unit :=
  match input.argument "backup_id" with
  | some backupId =>
      Tx.whenever (input.action = .backupCreate ∧ backupId ≠ "") <|
        Tx.write fun db =>
          if found (fun row => row.id = backupId) db.backups then db
          else
            { db with
              backups := db.backups ++
                [{ id := backupId, deploymentId := deployment.id, verified := false }] }
  | none => return ()

/-- `requestControlOperation`. -/
def requestControlOperation [Host] (env : PlatformEnv) (input : OperationInput) :
    Callback CommandResult := do
  let candidate ← Tx.read fun db => db.operationDeployment? input
  let deployment ← Tx.orRaise deploymentUnavailable candidate
  checkReferences input deployment
  let idempotencyKey := input.idempotencyKey.getD
    (deployment.id ++ "/" ++ input.action.name ++ "/" ++ env.idempotency.text)
  match ← Tx.read fun db => db.commands.find? fun row =>
      row.deploymentId = deployment.id && row.idempotencyKey = idempotencyKey with
  | some existing => do
      let approval ← Tx.read fun db => existing.approvalId.bind db.approval?
      return { command := some existing, approval := approval }
  | none => do
      let command := input.command env deployment idempotencyKey
      let approval := input.approval env command.id
      insertCommand command
      insertApproval? approval
      createBackupRecord input deployment
      return { command := some command, approval := approval }

/-! ### Decisions -/

/-- The argument of `decideControlApproval`. -/
structure PlatformDecision where
  approvalId : String
  organizationId : Option String
  decision : Decision
  decidedBy : String
  reason : String

/-- The approval row after a decision. -/
def PlatformDecision.decide (input : PlatformDecision) (now : Nat) (row : ApprovalRow) :
    ApprovalRow :=
  { row with
    decision := input.decision
    decidedBy := some input.decidedBy
    reason := input.reason
    decidedAt := some now }

/-- `control_approvals JOIN control_commands JOIN control_deployments`, within the
organization of the request when it names one. -/
def Db.decidableApproval? (db : Db) (input : PlatformDecision) : Option ApprovalRow := do
  let approval ← db.approval? input.approvalId
  let command ← db.commands.find? fun row => row.id = approval.commandId
  let deployment ← db.deployments.find? fun row => row.id = command.deploymentId
  if input.organizationId.all fun id => id = "" || deployment.organizationId = id then
    some approval
  else none

/-- `decideControlApproval`. -/
def decideControlApproval (env : PlatformEnv) (input : PlatformDecision) :
    Callback (Option ApprovalRow) := do
  match ← Tx.read fun db => db.decidableApproval? input with
  | none => return none
  | some current => do
      ensure (current.decision = .pending ∧
          dateNow env.now < columnTime current.expiresAt)
        "approval_not_pending" "Approval is no longer pending" 409
      Tx.write fun db =>
        { db with
          approvals := updateWhere (fun row => row.id = input.approvalId)
            (input.decide env.now) db.approvals }
      Tx.whenever (input.decision = .rejected) <|
        Tx.write fun db =>
          { db with
            commands := updateWhere
              (fun row => row.id = current.commandId && row.state = .queued)
              (fun row => { row with state := .cancelled }) db.commands }
      Tx.read fun db => db.approval? input.approvalId

end BairuiPlatform
