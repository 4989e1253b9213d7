/-
Module: BairuiPlatform.Operations.Requests
Purpose: The operations of MemoryPlatformRepository that queue control commands and decide
  their approvals.
Trusted boundary: none
Main exports: MemoryMethod, requestAgentOwnerConfiguration, requestAgentLifecycle,
  requestControlOperation, decideControlApproval
-/
import BairuiPlatform.Foundations.Tickets
import BairuiPlatform.Operations.Rows
import BairuiPlatform.Platform.Delivery

namespace BairuiPlatform

open Foundations

/-! ### Calls -/

/-- The clock reading of a call, and the values of `randomUUID()` that it draws. -/
structure MemoryEnv where
  now : Int
  command : Uuid
  approval : Uuid
  idempotency : Uuid
  config : Uuid
  receipt : Uuid

/-- What a method throws: an error of its own, or a TypeError on a row that is not there. -/
inductive MemoryFailure where
  | control (error : ControlError)
  | typeError
deriving Repr, DecidableEq

/-- What a method answers or throws, and the repository after it. -/
abbrev MemoryMethod (α : Type) := MemoryControl → Except MemoryFailure α × MemoryControl

/-- `throw Object.assign(new Error(message), { code, statusCode })`. -/
def refuse {α : Type} (code message : String) (statusCode : Nat) : MemoryMethod α := fun store =>
  (.error (.control (controlError code message statusCode)), store)

/-- A time some minutes later. -/
def minutesAfter (now minutes : Int) : Int :=
  now + minutes * 60000

namespace MemoryControl

/-- `this.#agents.get(id)`. -/
def agent? (store : MemoryControl) (id : String) : Option AgentRow :=
  store.agents.find? fun row => row.id = id

/-- The first runtime of an agent. -/
def runtimeOf? (store : MemoryControl) (agentId : String) : Option RuntimeRow :=
  store.runtimes.find? fun row => row.agentId = agentId

/-- The deployment under an id. -/
def deployment? (store : MemoryControl) (id : String) : Option DeploymentRow :=
  store.controlDeployments.find? fun row => row.id = id

/-- The configuration revision under an id that may be missing. -/
def config? (store : MemoryControl) (id : Option String) : Option MemoryConfigRevision :=
  store.configRevisions.find? fun row => some row.id = id

/-- The release manifest under an id that may be missing. -/
def manifest? (store : MemoryControl) (id : Option String) : Option ReleaseManifestRow :=
  store.releaseManifests.find? fun row => some row.id = id

end MemoryControl

/-- A text among the arguments of a command. -/
def MemoryCommand.argument (command : MemoryCommand) (name : String) : Option String :=
  (command.arguments.field? name).bind Json.text?

/-- The command is queued, leased, accepted or running. -/
def CommandState.isUnfinished (state : CommandState) : Bool :=
  [.queued, .leased, .accepted, .running].contains state

/-! ### Owner configurations -/

/-- `scope` of an owner configuration. -/
inductive ConfigScope where
  | skills | identity
deriving Repr, DecidableEq

/-- The text of a scope. -/
def ConfigScope.name : ConfigScope → String
  | skills => "skills"
  | identity => "identity"

/-- The argument of `requestAgentOwnerConfiguration`. -/
structure OwnerConfigurationInput where
  organizationId : String
  userId : String
  agentId : String
  requestedBy : String

/-- What `requestAgentOwnerConfiguration` answers. -/
structure OwnerConfiguration where
  revision : Option MemoryConfigRevision
  command : Option MemoryCommand

/-- `configDocument?.owner_change?.scope`. -/
def MemoryConfigRevision.ownerScope (config : MemoryConfigRevision) : Option String :=
  ((config.configDocument.field? "owner_change").bind (Json.field? "scope")).bind Json.text?

/-- The fields of an object. -/
def Json.entries : Json → List (String × Json)
  | .obj fields => fields
  | _ => []

namespace MemoryControl

/-- The skills of an agent that its owner turned off. -/
def disabledSkills (store : MemoryControl) (agentId : String) : List String :=
  ((store.agentSkillPreferences.filter fun row =>
      row.agentId = agentId && row.enabled = false).map SkillPreferenceRow.skillId)
    |>.insertionSort textLe

/-- `revision`: the revisions of an organization are counted. -/
def nextRevision (store : MemoryControl) (organizationId : String) : Nat :=
  (store.configRevisions.filter fun row => row.organizationId = organizationId).length + 1

/-- The revision that an owner asks for. -/
def ownerRevision (store : MemoryControl) (env : MemoryEnv) (input : OwnerConfigurationInput)
    (scope : ConfigScope) (agent : AgentRow) (current : MemoryConfigRevision) :
    MemoryConfigRevision :=
  let revision := store.nextRevision agent.organizationId
  { id := env.config.text
    organizationId := agent.organizationId
    agentId := agent.id
    revision := revision
    configDocument := .obj (spread current.configDocument.entries
      [("agent", .obj [("id", .str agent.id), ("name", .str agent.name),
          ("soul_markdown", .str agent.soulMarkdown)]),
        ("owner_change", .obj [("scope", .str scope.name), ("generation", .num revision)]),
        ("skills", .obj [("disabled", .ofTexts (store.disabledSkills agent.id))])])
    status := "approved"
    createdBy := input.requestedBy }

/-- A queued owner configuration of the agent under the same scope. -/
def isSupersededBy (store : MemoryControl) (agentId : String) (scope : ConfigScope)
    (command : MemoryCommand) : Bool :=
  command.agentId = agentId && command.action = .configApplyUser && command.state = .queued &&
    (store.config? (command.argument "config_revision_id")).any fun config =>
      config.ownerScope = some scope.name

/-- The queued owner configurations of a scope are cancelled, and their revisions superseded. -/
def supersede (store : MemoryControl) (agentId : String) (scope : ConfigScope) : MemoryControl :=
  { store with
    controlCommands := updateWhere (store.isSupersededBy agentId scope)
      (fun command => { command with state := .cancelled }) store.controlCommands
    configRevisions :=
      (store.controlCommands.filter (store.isSupersededBy agentId scope)).foldl
        (fun configs command =>
          updateFirst (fun row => some row.id = command.argument "config_revision_id")
            (fun row => { row with status := "superseded" }) configs)
        store.configRevisions }

/-- The command that applies an owner configuration. -/
def ownerCommand (env : MemoryEnv) (input : OwnerConfigurationInput) (agent : AgentRow)
    (deployment : DeploymentRow) : MemoryCommand :=
  { id := env.command.text
    organizationId := some agent.organizationId
    deploymentId := deployment.id
    agentId := agent.id
    idempotencyKey := some (deployment.id ++ "/config.apply-user/" ++ env.config.text)
    action := .configApplyUser
    arguments := .obj [("config_revision_id", .str env.config.text)]
    approvalId := none
    expectedObservationVersion := deployment.observedStateVersion
    state := .queued
    priority := 200
    attempt := 0
    leaseServerId := none
    leaseExpiresAt := none
    requestedBy := some input.requestedBy
    expiresAt := minutesAfter env.now 30
    createdAt := env.now }

/-- `requestAgentOwnerConfiguration`. -/
def requestAgentOwnerConfiguration (env : MemoryEnv) (input : OwnerConfigurationInput)
    (scope : ConfigScope) : MemoryMethod (Option OwnerConfiguration) := fun store =>
  match store.agent? input.agentId, store.runtimeOf? input.agentId with
  | some agent, some runtime =>
      if agent.organizationId ≠ input.organizationId ∨ agent.ownerUserId ≠ input.userId then
        (.ok none, store)
      else
        match runtime.deploymentId, runtime.configRevisionId with
        | some deploymentId, some configId =>
            let current? := store.configRevisions.find? fun row =>
              row.id = configId && row.agentId = agent.id
            let deployment? := store.controlDeployments.find? fun row =>
              row.id = deploymentId && row.status ≠ .revoked
            match current?, deployment? with
            | some current, some deployment =>
                let config := store.ownerRevision env input scope agent current
                let command := ownerCommand env input agent deployment
                let superseded :=
                  { store with configRevisions := store.configRevisions ++ [config] }.supersede
                    agent.id scope
                (.ok (some { revision := some config, command := some command }),
                  { superseded with
                    controlCommands := superseded.controlCommands ++ [command] })
            | _, _ =>
                refuse "agent_configuration_unavailable" "Agent configuration is unavailable" 409
                  store
        | _, _ => (.ok (some { revision := none, command := none }), store)
  | _, _ => (.ok none, store)

end MemoryControl

/-! ### Lifecycle requests -/

namespace MemoryControl

/-- `lifecycleActions`. -/
def lifecycleActions : List Action :=
  [.deploymentStart, .deploymentStop, .deploymentSuspend, .deploymentResume, .deploymentDelete]

/-- The command of a lifecycle request. -/
def lifecycleCommand (env : MemoryEnv) (input : LifecycleInput) (agent : AgentRow)
    (deploymentId : String) (approvalId : Option String) : MemoryCommand :=
  { id := env.command.text
    organizationId := none
    deploymentId := deploymentId
    agentId := agent.id
    idempotencyKey := none
    action := input.request.action
    arguments := .obj [("agent_id", .str agent.id)]
    approvalId := approvalId
    expectedObservationVersion := 0
    state := .queued
    priority := 100
    attempt := 0
    leaseServerId := none
    leaseExpiresAt := none
    requestedBy := none
    expiresAt := minutesAfter env.now 15
    createdAt := env.now }

/-- The approval that the owner's confirmation of a deletion stands for. -/
def deletionApproval (env : MemoryEnv) (input : LifecycleInput) (agent : AgentRow) :
    MemoryApproval :=
  { id := env.approval.text
    organizationId := agent.organizationId
    commandId := env.command.text
    action := .deploymentDelete
    riskLevel := .high
    requestedBy := input.requestedBy
    decidedBy := some input.requestedBy
    decision := .approved
    reason := input.reason.getD "Agent owner confirmed deletion"
    expiresAt := minutesAfter env.now 15
    decidedAt := some env.now
    createdAt := env.now }

/-- `requestAgentLifecycle` once no other lifecycle command is in progress. -/
def queueLifecycle (env : MemoryEnv) (input : LifecycleInput) (agent : AgentRow)
    (runtime : RuntimeRow) (deploymentId : String) : MemoryMethod (Option LifecycleOutcome) :=
  fun store =>
    let deleting := decide (input.request = .delete)
    let approvals := if deleting then [deletionApproval env input agent] else []
    let command := lifecycleCommand env input agent deploymentId
      (if deleting then some env.approval.text else none)
    (.ok (some (.pending command.id .queued)),
      { store with
        controlCommands := store.controlCommands ++ [command]
        controlApprovals := store.controlApprovals ++ approvals
        agents := updateFirst (fun row => row.id = agent.id)
          (fun row =>
            { row with
              desiredRuntimeState := input.request.desiredState
              initializationStatus := if deleting then .deleting else row.initializationStatus })
          store.agents
        runtimes := updateFirst (fun row => deleting && row.agentId = runtime.agentId)
          (fun row => { row with status := .deleting }) store.runtimes })

/-- The latest lifecycle command of a deployment that is not finished. -/
def lifecycleCommand? (store : MemoryControl) (deploymentId : String) : Option MemoryCommand :=
  store.controlCommands.reverse.find? fun command =>
    command.deploymentId = deploymentId && lifecycleActions.contains command.action &&
      command.state.isUnfinished

/-- `requestAgentLifecycle`. -/
def requestAgentLifecycle (env : MemoryEnv) (input : LifecycleInput) :
    MemoryMethod (Option LifecycleOutcome) := fun store =>
  match store.agent? input.agentId, store.runtimeOf? input.agentId with
  | some agent, some runtime =>
      match runtime.deploymentId with
      | none =>
          if input.request = .delete then
            (.ok (some (.done true)),
              { store with
                agents := store.agents.filter fun row => row.id ≠ agent.id
                runtimes := store.runtimes.filter fun row => row.id ≠ runtime.id })
          else refuse "agent_not_initialized" "Agent has not been initialized" 409 store
      | some deploymentId =>
          if input.request = .pause ∧ runtime.status = .suspended then
            (.ok (some (.done false)), store)
          else if input.request = .resume ∧ runtime.status ≠ .suspended then
            refuse "invalid_agent_lifecycle_state" "Agent is not suspended" 409 store
          else
            match store.lifecycleCommand? deploymentId with
            | some existing =>
                if existing.action = input.request.action then
                  (.ok (some (.pending existing.id existing.state)), store)
                else
                  refuse "agent_lifecycle_in_progress"
                    "Another Agent lifecycle command is in progress" 409 store
            | none => queueLifecycle env input agent runtime deploymentId store
  | _, _ => (.ok none, store)

end MemoryControl

/-! ### Control operations -/

/-- What `requestControlOperation` answers. -/
structure MemoryOperation where
  command : MemoryCommand
  approval : Option MemoryApproval

namespace MemoryControl

/-- The deployment that an operation is for: the last one of the agent that is not revoked. -/
def operationDeployment? (store : MemoryControl) (input : OperationInput) :
    Option DeploymentRow :=
  store.controlDeployments.reverse.find? fun row =>
    row.agentId = input.agentId && row.organizationId = input.organizationId &&
      row.status ≠ .revoked

/-- The message for the first reference among the arguments of an operation that is not
there. -/
def missingReference? (store : MemoryControl) (input : OperationInput)
    (deployment : DeploymentRow) : Option String :=
  let named (name id : String) : Bool := input.argument name = some id
  if [Action.configStage, .configApply, .configApplyUser].contains input.action &&
      !store.configRevisions.any fun row => named "config_revision_id" row.id &&
        row.organizationId = input.organizationId && row.agentId = input.agentId then
    some "Configuration revision does not belong to this Agent"
  else if input.action = .backupVerify && !store.backupRecords.any fun row =>
      named "backup_id" row.id && row.deploymentId = deployment.id then
    some "Backup does not belong to this Agent"
  else if input.action = .backupRestore && !store.backupRecords.any fun row =>
      named "backup_id" row.id && row.deploymentId = deployment.id &&
        row.status = .verified then
    some "Verified backup is unavailable for this Agent"
  else if [Action.releaseStage, .releaseApply].contains input.action &&
      !store.releaseManifests.any fun row => named "release_id" row.id &&
        ["candidate", "approved", "released"].contains row.status then
    some "Release manifest is unavailable"
  else if input.action = .releaseRollback && !(["release_id", "rollback_release_id"].all fun name =>
      store.releaseManifests.any fun row => named name row.id) then
    some "Rollback manifests are unavailable"
  else if input.action = .upstreamCheck && (input.argument "candidate_id").any (· ≠ "") &&
      !store.upstreamCandidates.any fun row => named "candidate_id" row.id &&
        named "upstream_id" row.upstreamId then
    some "Upstream candidate is unavailable"
  else if input.action = .credentialRevoke && !store.runtimeCredentials.any fun row =>
      named "identity_id" row.id && row.agentId = input.agentId && row.active then
    some "Agent credential is unavailable"
  else none

/-- When the command of an operation expires. -/
def operationExpiry (env : MemoryEnv) (input : OperationInput) : Int :=
  env.now + max (5 * 60000) (min (input.expiresInMs.getD (30 * 60000)) (24 * 60 * 60000))

/-- The id of the approval that an operation asks for. -/
def operationApprovalId (env : MemoryEnv) (input : OperationInput) : Option String :=
  if input.approvalRequired then some (input.approvalId.getD env.approval.text) else none

/-- The command of an operation. -/
def operationCommand (env : MemoryEnv) (input : OperationInput) (deployment : DeploymentRow)
    (idempotencyKey : String) : MemoryCommand :=
  { id := input.commandId.getD env.command.text
    organizationId := some input.organizationId
    deploymentId := deployment.id
    agentId := input.agentId
    idempotencyKey := some idempotencyKey
    action := input.action
    arguments := input.arguments
    approvalId := operationApprovalId env input
    expectedObservationVersion := deployment.observedStateVersion
    state := .queued
    priority := input.priority.getD 100
    attempt := 0
    leaseServerId := none
    leaseExpiresAt := none
    requestedBy := some input.requestedBy
    expiresAt := operationExpiry env input
    createdAt := env.now }

/-- The approval of an operation. -/
def operationApproval? (env : MemoryEnv) (input : OperationInput) : Option MemoryApproval :=
  (operationApprovalId env input).map fun id =>
    { id := id
      organizationId := input.organizationId
      commandId := input.commandId.getD env.command.text
      action := input.action
      riskLevel := input.riskLevel.getD .high
      requestedBy := input.requestedBy
      decidedBy := none
      decision := .pending
      reason := input.reason.getD ""
      expiresAt := operationExpiry env input
      decidedAt := none
      createdAt := env.now }

/-- The backup record that an operation creates. -/
def operationBackups (env : MemoryEnv) (input : OperationInput) (deployment : DeploymentRow) :
    List MemoryBackup :=
  match input.argument "backup_id" with
  | some backupId =>
      if input.action = .backupCreate ∧ backupId ≠ "" then
        [{ id := backupId, deploymentId := deployment.id, status := .creating
           createdAt := some env.now }]
      else []
  | none => []

/-- The restore that an operation starts. -/
def operationRestores (env : MemoryEnv) (input : OperationInput) (deployment : DeploymentRow) :
    List MemoryRestore :=
  if input.action = .backupRestore then
    [{ id := input.argument "restore_id"
       backupId := input.argument "backup_id"
       deploymentId := deployment.id
       commandId := input.commandId.getD env.command.text
       status := .requested
       requestedBy := input.requestedBy }]
  else []

/-- `requestControlOperation` for a deployment, with the rows that it pushes. -/
def queueOperation (env : MemoryEnv) (input : OperationInput) (deployment : DeploymentRow)
    (idempotencyKey : String) : MemoryMethod MemoryOperation := fun store =>
  let command := operationCommand env input deployment idempotencyKey
  let approval := operationApproval? env input
  (.ok { command := command, approval := approval },
    { store with
      controlCommands := store.controlCommands ++ [command]
      controlApprovals := store.controlApprovals ++ approval.toList
      backupRecords := store.backupRecords ++ operationBackups env input deployment
      backupRestoreRuns := store.backupRestoreRuns ++ operationRestores env input deployment })

/-- `requestControlOperation`. -/
def requestControlOperation (env : MemoryEnv) (input : OperationInput) :
    MemoryMethod MemoryOperation := fun store =>
  match store.operationDeployment? input with
  | none =>
      refuse "agent_deployment_unavailable" "Agent deployment is unavailable" 409 store
  | some deployment =>
      match store.missingReference? input deployment with
      | some message => refuse "invalid_control_reference" message 400 store
      | none =>
          let idempotencyKey := input.idempotencyKey.getD
            (deployment.id ++ "/" ++ input.action.name ++ "/" ++ env.idempotency.text)
          match store.controlCommands.find? fun command =>
              command.deploymentId = deployment.id &&
                command.idempotencyKey = some idempotencyKey with
          | some existing =>
              (.ok
                { command := existing
                  approval := store.controlApprovals.find? fun row =>
                    row.commandId = existing.id },
                store)
          | none => queueOperation env input deployment idempotencyKey store

end MemoryControl

/-! ### Decisions -/

namespace MemoryControl

/-- The effect of a rejection: the command of the approval does not run, and the first restore
of that command is cancelled. -/
def reject (store : MemoryControl) (approval : MemoryApproval) : MemoryControl :=
  match store.controlCommands.find? fun command => command.id = approval.commandId with
  | none => store
  | some command =>
      { store with
        controlCommands := updateFirst (fun row => row.id = approval.commandId)
          (fun row => if row.state = .queued then { row with state := .cancelled } else row)
          store.controlCommands
        backupRestoreRuns :=
          if command.action = .backupRestore then
            updateFirst (fun row => row.commandId = command.id)
              (fun row => { row with status := .cancelled }) store.backupRestoreRuns
          else store.backupRestoreRuns }

/-- `decideControlApproval`. -/
def decideControlApproval (env : MemoryEnv) (input : PlatformDecision) :
    MemoryMethod (Option MemoryApproval) := fun store =>
  let wanted (row : MemoryApproval) : Bool :=
    row.id = input.approvalId && input.organizationId.all fun organizationId =>
      organizationId = "" || row.organizationId = organizationId
  match store.controlApprovals.find? wanted with
  | none => (.ok none, store)
  | some approval =>
      if approval.decision ≠ .pending ∨ approval.expiresAt ≤ env.now then
        refuse "approval_not_pending" "Approval is no longer pending" 409 store
      else
        let decide (row : MemoryApproval) : MemoryApproval :=
          { row with
            decision := input.decision
            decidedBy := some input.decidedBy
            reason := input.reason
            decidedAt := some env.now }
        let decided :=
          { store with
            controlApprovals := updateFirst wanted decide store.controlApprovals }
        (.ok (some (decide approval)),
          if input.decision = .rejected then decided.reject approval else decided)

end MemoryControl

end BairuiPlatform
