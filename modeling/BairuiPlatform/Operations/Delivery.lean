/-
Module: BairuiPlatform.Operations.Delivery
Purpose: The delivery protocol of MemoryPlatformRepository: its leases, its receipts, and
  their effects on agents, configurations, backups and releases.
Trusted boundary: none
Main exports: leaseControlCommands, recordCommandReceipt, receiptEffects
-/
import Mathlib.Data.List.Sort
import BairuiPlatform.Operations.Requests

namespace BairuiPlatform

open Foundations

/-! ### Leases -/

/-- The order in which commands are leased. -/
def MemoryCommand.le (first second : MemoryCommand) : Prop :=
  first.priority < second.priority ∨
    (first.priority = second.priority ∧ first.createdAt ≤ second.createdAt)

instance : DecidableRel MemoryCommand.le := fun first second =>
  inferInstanceAs (Decidable (first.priority < second.priority ∨
    (first.priority = second.priority ∧ first.createdAt ≤ second.createdAt)))

/-- What a leased command is handed out with. -/
structure MemoryHandout where
  command : MemoryCommand
  deployment : DeploymentRow
  runtime : RuntimeRow
  config : Option MemoryConfigRevision
  release : Option ReleaseManifestRow
  rollback : Option ReleaseManifestRow

namespace MemoryCommand

/-- A command whose lease ran out is queued again. It keeps the server and the attempt of its
last lease. -/
def requeue (command : MemoryCommand) (now : Int) : MemoryCommand :=
  if [CommandState.leased, .accepted, .running].contains command.state &&
      command.leaseExpiresAt.any (· ≤ now) then
    { command with state := .queued }
  else command

/-- The command waits past its own deadline. -/
def isLate (command : MemoryCommand) (now : Int) : Bool :=
  command.state = .queued && command.expiresAt ≤ now

/-- The lease of a command. -/
def lease (command : MemoryCommand) (input : ControlLeaseInput) (now : Int) : MemoryCommand :=
  { command with
    state := .leased
    leaseServerId := some input.serverId
    leaseExpiresAt := some (now + input.leaseSeconds.getD 60 * 1000)
    attempt := command.attempt + 1 }

end MemoryCommand

namespace MemoryControl

/-- The deployment of a command, if it is placed on the server. -/
def placed? (store : MemoryControl) (serverId : String) (command : MemoryCommand) :
    Option DeploymentRow :=
  store.controlDeployments.reverse.find? fun row =>
    row.id = command.deploymentId && row.serverId = some serverId

/-- What the expiry of a command does to restores and backups. -/
def expire (store : MemoryControl) (command : MemoryCommand) : MemoryControl :=
  { store with
    backupRestoreRuns :=
      if command.action = .backupRestore then
        updateFirst (fun row => row.commandId = command.id && row.status = .requested)
          (fun row => { row with status := .cancelled }) store.backupRestoreRuns
      else store.backupRestoreRuns
    backupRecords :=
      if command.action = .backupExpire then
        updateFirst (fun row => some row.id = command.argument "backup_id" &&
            row.status = .expiring)
          (fun row => { row with status := .failed }) store.backupRecords
      else store.backupRecords }

/-- The command asks for no approval, or the approval that it names was given for it. -/
def isApproved (store : MemoryControl) (now : Int) (command : MemoryCommand) : Bool :=
  command.approvalId.all fun id =>
    (store.controlApprovals.find? fun row => row.id = id && row.commandId = command.id).any
      fun approval => approval.decision = .approved && now < approval.expiresAt

/-- What one iteration of `leaseControlCommands` makes of a command of the server: the command
and the repository after it, and whether the command is leased. -/
def visit (store : MemoryControl) (input : ControlLeaseInput) (now : Int)
    (command : MemoryCommand) : MemoryCommand × MemoryControl × Bool :=
  let command := command.requeue now
  if command.isLate now then ({ command with state := .expired }, store.expire command, false)
  else if command.state = .queued && store.isApproved now command then
    (command.lease input now, store, true)
  else (command, store, false)

/-- The envelope of a leased command. -/
def handout (store : MemoryControl) (command : MemoryCommand) (deployment : DeploymentRow)
    (runtime : RuntimeRow) : MemoryHandout :=
  { command := command
    deployment := deployment
    runtime := runtime
    config := store.config? (command.argument "config_revision_id")
    release := store.manifest? (command.argument "release_id")
    rollback := store.manifest? (command.argument "rollback_release_id") }

/-- The loop of `leaseControlCommands`: the commands before the iteration are done, and those
behind it are left. The loop stops with a TypeError where a leased command has no runtime. -/
def leaseEach (input : ControlLeaseInput) (now : Int) (leased : List MemoryHandout)
    (done : List MemoryCommand) : List MemoryCommand → MemoryMethod (List MemoryHandout)
  | [], store => (.ok leased, { store with controlCommands := done })
  | command :: rest, store =>
      match store.placed? input.serverId command with
      | some deployment =>
          if input.limit.getD 10 ≤ leased.length then
            leaseEach input now leased (done ++ [command]) rest store
          else
            let (visited, after, taken) := store.visit input now command
            if taken then
              match after.runtimeOf? deployment.agentId with
              | some runtime =>
                  leaseEach input now (leased ++ [after.handout visited deployment runtime])
                    (done ++ [visited]) rest after
              | none =>
                  (.error .typeError,
                    { after with controlCommands := done ++ visited :: rest })
            else leaseEach input now leased (done ++ [visited]) rest after
      | none => leaseEach input now leased (done ++ [command]) rest store

/-- `leaseControlCommands`: the commands stay sorted. -/
def leaseControlCommands (env : MemoryEnv) (input : ControlLeaseInput) :
    MemoryMethod (List MemoryHandout) := fun store =>
  leaseEach input env.now [] [] (store.controlCommands.insertionSort MemoryCommand.le) store

end MemoryControl

/-! ### Receipts -/

/-- The argument of `recordCommandReceipt`. -/
structure MemoryReceiptInput where
  commandId : String
  serverId : String
  attempt : Nat
  state : DeliveryState
  runtimeEndpointRef : Option String

/-- What a receipt changes in the rows of a deployment. A missing agent matters only where the
agent changes. -/
structure DeploymentEffect where
  runtime : RuntimeRow → RuntimeRow
  agent : Option (AgentRow → AgentRow)
  deployment : DeploymentRow → DeploymentRow

/-- The lifecycle effect of a receipt, by state and action. -/
def MemoryReceiptInput.lifecycleEffect? (input : MemoryReceiptInput) (action : Action) :
    Option DeploymentEffect :=
  match input.state, action with
  | .succeeded, .deploymentProvision => some
      { runtime := fun row =>
          { row with endpointRef := input.runtimeEndpointRef, status := .starting }
        agent := none
        deployment := fun row => { row with status := .active } }
  | .succeeded, .deploymentStart | .succeeded, .deploymentResume => some
      { runtime := fun row => { row with status := .starting }
        agent := some fun row =>
          { row with status := .starting, desiredRuntimeState := .running }
        deployment := id }
  | .succeeded, .deploymentSuspend => some
      { runtime := fun row => { row with status := .suspended }
        agent := some fun row =>
          { row with status := .suspended, desiredRuntimeState := .suspended }
        deployment := id }
  | .succeeded, .deploymentDelete => some
      { runtime := fun row => { row with status := .deleted, endpointRef := none }
        agent := some fun row =>
          { row with status := .deleted, desiredRuntimeState := .deleted }
        deployment := fun row => { row with status := .revoked } }
  | .failed, .deploymentProvision => some
      { runtime := fun row => { row with status := .failed }
        agent := some fun row =>
          { row with status := .failed, initializationStatus := .failed }
        deployment := fun row => { row with status := .degraded } }
  | .failed, .deploymentDelete => some
      { runtime := fun row => { row with status := .degraded }
        agent := some fun row =>
          { row with status := .degraded, initializationStatus := .failed }
        deployment := fun row => { row with status := .degraded } }
  | .failed, .deploymentStart | .failed, .deploymentStop | .failed, .deploymentSuspend
  | .failed, .deploymentResume | .failed, .configApply | .failed, .releaseApply
  | .failed, .releaseRollback | .failed, .serviceRestart | .failed, .credentialRevoke => some
      { runtime := id
        agent := some fun row => { row with status := .degraded }
        deployment := fun row => { row with status := .degraded } }
  | _, _ => none

namespace MemoryControl

/-- The runtime of a deployment is changed; without one, the assignment throws. -/
def assignRuntime (agentId : String) (change : RuntimeRow → RuntimeRow) : MemoryMethod Unit :=
  fun store =>
    match store.runtimeOf? agentId with
    | none => (.error .typeError, store)
    | some _ =>
        (.ok (), { store with
          runtimes := updateFirst (fun row => row.agentId = agentId) change store.runtimes })

/-- An agent is changed; without one, the assignment throws. -/
def assignAgent (agentId : String) (change : AgentRow → AgentRow) : MemoryMethod Unit :=
  fun store =>
    match store.agent? agentId with
    | none => (.error .typeError, store)
    | some _ =>
        (.ok (), { store with
          agents := updateFirst (fun row => row.id = agentId) change store.agents })

/-- A deployment that was found is changed. -/
def assignDeployment (id : String) (change : DeploymentRow → DeploymentRow) :
    MemoryMethod Unit := fun store =>
  (.ok (), { store with
    controlDeployments := updateFirst (fun row => row.id = id) change store.controlDeployments })

end MemoryControl

/-- A method, and another one unless it throws. -/
def MemoryMethod.andThen {α : Type} (first : MemoryMethod Unit) (second : MemoryMethod α) :
    MemoryMethod α := fun store =>
  match first store with
  | (.ok (), after) => second after
  | (.error failure, after) => (.error failure, after)

/-- A method that answers nothing and changes the repository. -/
def MemoryMethod.change (change : MemoryControl → MemoryControl) : MemoryMethod Unit :=
  fun store => (.ok (), change store)

namespace MemoryControl

/-- The lifecycle effect of a receipt. -/
def applyLifecycle (command : MemoryCommand) (input : MemoryReceiptInput) : MemoryMethod Unit :=
  fun store =>
    match input.lifecycleEffect? command.action with
    | none => (.ok (), store)
    | some effect =>
        match store.deployment? command.deploymentId with
        | none => (.error .typeError, store)
        | some deployment =>
            (assignRuntime deployment.agentId effect.runtime).andThen
              ((match effect.agent with
                | some change => assignAgent deployment.agentId change
                | none => MemoryMethod.change id).andThen
                (assignDeployment deployment.id effect.deployment)) store

/-- `config.status` after a receipt. -/
def configStatus? (action : Action) (state : DeliveryState) : Option String :=
  match state, action with
  | .running, .configApply | .running, .configApplyUser => some "applying"
  | .succeeded, .configStage => some "staged"
  | .succeeded, .configApply | .succeeded, .configApplyUser
  | .succeeded, .deploymentProvision => some "applied"
  | .failed, .configStage | .failed, .configApply | .failed, .configApplyUser => some "failed"
  | _, _ => none

/-- A receipt applies a configuration. -/
def appliesConfig (action : Action) (state : DeliveryState) : Bool :=
  state = .succeeded && [Action.configApply, .configApplyUser].contains action

/-- The effect of a receipt on the configuration that its command names. -/
def applyConfig (command : MemoryCommand) (input : MemoryReceiptInput) : MemoryMethod Unit :=
  fun store =>
    match store.config? (command.argument "config_revision_id") with
    | none => (.ok (), store)
    | some config =>
        let marked :=
          match configStatus? command.action input.state with
          | some status =>
              { store with
                configRevisions := updateFirst (fun row => row.id = config.id)
                  (fun row => { row with status := status }) store.configRevisions }
          | none => store
        if appliesConfig command.action input.state then
          match marked.deployment? command.deploymentId with
          | none => (.error .typeError, marked)
          | some deployment =>
              assignRuntime deployment.agentId
                (fun row => { row with configRevisionId := some config.id }) marked
        else (.ok (), marked)

/-- `backup.status` after a receipt. -/
def backupStatus? (action : Action) (state : DeliveryState) : Option BackupStatus :=
  match action, state with
  | .backupVerify, .running => some .verifying
  | .backupCreate, .succeeded => some .created
  | .backupVerify, .succeeded => some .verified
  | .backupExpire, .succeeded => some .expired
  | .backupCreate, .failed | .backupVerify, .failed | .backupExpire, .failed => some .failed
  | _, _ => none

/-- The effect of a receipt on the backup that its command names. -/
def applyBackup (command : MemoryCommand) (state : DeliveryState) (store : MemoryControl) :
    MemoryControl :=
  match backupStatus? command.action state with
  | some status =>
      { store with
        backupRecords := updateFirst (fun row => some row.id = command.argument "backup_id")
          (fun row => { row with status := status }) store.backupRecords }
  | none => store

/-- `restore.status` after a receipt. -/
def restoreStatus? : DeliveryState → Option RestoreStatus
  | .running => some .running
  | .succeeded => some .succeeded
  | .failed => some .failed
  | .cancelled => some .cancelled
  | .accepted | .expired => none

/-- The effect of a receipt on the restore of its command. -/
def applyRestore (command : MemoryCommand) (state : DeliveryState) (store : MemoryControl) :
    MemoryControl :=
  match restoreStatus? state with
  | some status =>
      { store with
        backupRestoreRuns :=
          if command.action = .backupRestore then
            updateFirst (fun row => row.id = command.argument "restore_id" &&
                row.commandId = command.id)
              (fun row => { row with status := status }) store.backupRestoreRuns
          else store.backupRestoreRuns }
  | none => store

/-- The status of a release manifest under an argument of a command. -/
def setManifestStatus (command : MemoryCommand) (name status : String) (store : MemoryControl) :
    MemoryControl :=
  { store with
    releaseManifests := updateFirst (fun row => some row.id = command.argument name)
      (fun row => { row with status := status }) store.releaseManifests }

/-- The effect of a receipt on release manifests. -/
def applyRelease (command : MemoryCommand) (state : DeliveryState) (store : MemoryControl) :
    MemoryControl :=
  match command.action, state with
  | .releaseStage, .succeeded => store.setManifestStatus command "release_id" "approved"
  | .releaseApply, .running => store.setManifestStatus command "release_id" "rolling_out"
  | .releaseApply, .succeeded => store.setManifestStatus command "release_id" "released"
  | .releaseRollback, .succeeded =>
      (store.setManifestStatus command "release_id" "withdrawn").setManifestStatus command
        "rollback_release_id" "released"
  | .releaseStage, .failed | .releaseApply, .failed | .releaseRollback, .failed =>
      store.setManifestStatus command "release_id" "blocked"
  | _, _ => store

/-- The effects of a receipt outside the arrays of commands and receipts. -/
def receiptEffects (command : MemoryCommand) (input : MemoryReceiptInput) : MemoryMethod Unit :=
  (applyLifecycle command input).andThen
    ((applyConfig command input).andThen
      (MemoryMethod.change fun store =>
        applyRelease command input.state
          (applyRestore command input.state (applyBackup command input.state store))))

/-- The command after a receipt. -/
def received (env : MemoryEnv) (input : MemoryReceiptInput) (command : MemoryCommand) :
    MemoryCommand :=
  { command with
    state := input.state.command
    leaseExpiresAt :=
      if input.state = .running then some (minutesAfter env.now 5) else command.leaseExpiresAt }

/-- The receipt that is pushed. -/
def receiptRow (env : MemoryEnv) (input : MemoryReceiptInput) (command : MemoryCommand) :
    MemoryReceipt :=
  { id := env.receipt.text
    commandId := input.commandId
    deploymentId := command.deploymentId
    serverId := input.serverId
    attempt := input.attempt
    state := input.state
    createdAt := env.now }

/-- The receipt that was recorded for the same command, attempt and state. -/
def recorded? (store : MemoryControl) (input : MemoryReceiptInput) : Option MemoryReceipt :=
  store.commandReceipts.find? fun row =>
    row.commandId = input.commandId && row.attempt = input.attempt && row.state = input.state

/-- The command of a receipt, if it was leased last to the server and under the attempt of the
receipt. -/
def delivered? (store : MemoryControl) (input : MemoryReceiptInput) : Option MemoryCommand :=
  (store.controlCommands.find? fun row => row.id = input.commandId).filter fun command =>
    command.leaseServerId = some input.serverId && command.attempt = input.attempt

/-- `recordCommandReceipt`. -/
def recordCommandReceipt (env : MemoryEnv) (input : MemoryReceiptInput) :
    MemoryMethod (Option MemoryReceipt) := fun store =>
  match store.delivered? input with
  | none => (.ok none, store)
  | some command =>
      match store.recorded? input with
      | some duplicate => (.ok (some duplicate), store)
      | none =>
          let receipt := receiptRow env input command
          (receiptEffects (received env input command) input).andThen
            (fun store => (.ok (some receipt), store))
            { store with
              commandReceipts := store.commandReceipts ++ [receipt]
              controlCommands := updateFirst (fun row => row.id = input.commandId)
                (received env input) store.controlCommands }

end MemoryControl

end BairuiPlatform
