/-
Module: BairuiPlatform.Supervisor.Restore
Purpose: The restore of a backup over the data and the environment of an agent, with its
  compensation.
Trusted boundary: the container runtime, the archiver and the file system: how each of their
  operations ends is given
Main exports: AgentDisk, RestoreWorld, checkListing, runContainers, restoreBackup, IsRestored,
  IsRecoverable, restoreBackup_restores_iff
-/
import BairuiPlatform.Supervisor.Apply
import BairuiPlatform.Supervisor.Envelope

namespace BairuiPlatform.Supervisor

open Foundations

/-! ### Agents and containers -/

/-- The containers of an agent. -/
inductive Container where
  | hermes | dashboard | runtime
  deriving DecidableEq

/-- An entry of the data directory of an agent. -/
inductive DataEntry where
  | directory
  | file (content : List UInt8)

/-- The entries of a data directory, by their paths in it. -/
abbrev DataTree := Files JsText DataEntry

/-- The data directory of an agent, if there is one, and its files of variables. -/
structure AgentDisk where
  data : Option DataTree
  env : ConfigFiles

/-- The files of variables of an agent. -/
def ConfigFile.environments : List ConfigFile :=
  [.hermesEnv, .dashboardEnv, .runtimeEnv]

/-- An agent while a backup is restored over it: its disk, the containers that were stopped or
removed, and those that were to be started. -/
structure RestoreState extends AgentDisk where
  halted : List Container
  started : List Container

/-- An agent before a restore. -/
def AgentDisk.start (disk : AgentDisk) : RestoreState :=
  { disk with halted := [], started := [] }

/-- How the stop of a container ends: there is none of the name, it is stopped, or the stop throws
with the container stopped or not. -/
inductive StopOutcome where
  | absent
  | stopped
  | failed (error : SupervisorError) (isStopped : Bool)

/-- How a container is replaced: the removal of the old one throws with it removed or not; or it
is removed, if there is one, and the new one does not start, or starts. -/
inductive ReplaceOutcome where
  | unremoved (error : SupervisorError) (isRemoved : Bool)
  | refused (error : SupervisorError) (isRemoved : Bool)
  | started (isRemoved : Bool)

/-- How an operation on the data directory ends. -/
abbrev DataOutcome := Outcome SupervisorError DataTree

/-- What happens while the containers of an agent are run. -/
structure ContainerRun where
  runtimeWrite : FileOutcome
  dashboardWrite : FileOutcome
  prepareData : DataOutcome
  network : Except SupervisorError Unit
  replace : Container → ReplaceOutcome

/-- An operation of a restore. -/
abbrev RestoreStep := RestoreState → Except SupervisorError Unit × RestoreState

/-- `replaceContainer`. -/
def replaceContainer (run : ContainerRun) (container : Container) : RestoreStep := fun state =>
  match run.replace container with
  | .unremoved error isRemoved =>
      (.error error, { state with
        halted := if isRemoved then container :: state.halted else state.halted })
  | .refused error isRemoved =>
      (.error error, { state with
        halted := if isRemoved then container :: state.halted else state.halted
        started := container :: state.started })
  | .started isRemoved =>
      (.ok (), { state with
        halted := if isRemoved then container :: state.halted else state.halted
        started := container :: state.started })

/-- `prepareHermesDataDirectory`, as far as it changes what is in the directory: the directory of
the memories is made. -/
def prepareHermesDataDirectory (data : Option DataTree) : DataTree :=
  let tree := data.getD fun _ => none
  Function.update tree (utf16 "memories") (some ((tree (utf16 "memories")).getD .directory))

/-- Something is written in the place of the data directory. -/
def putData (data : Option DataTree) (outcome : DataOutcome) : RestoreStep := fun state =>
  match outcome with
  | .done => (.ok (), { state with data := data })
  | .failed error left => (.error error, { state with data := left })

/-- An operation on the files of variables. -/
def onEnv (step : ConfigFiles → Except SupervisorError Unit × ConfigFiles) : RestoreStep :=
  fun state => ((step state.env).1, { state with env := (step state.env).2 })

/-- `runContainers`. -/
def runContainers (metadata : InstanceMetadata) (run : ContainerRun) : RestoreStep :=
  andThen (onEnv (ensureManagementFiles metadata run.runtimeWrite run.dashboardWrite)) <|
  andThen (fun state =>
    putData (some (prepareHermesDataDirectory state.data)) run.prepareData state) <|
  andThen (fun state => (run.network, state)) <|
  andThen (replaceContainer run .hermes) <|
  andThen (replaceContainer run .dashboard) (replaceContainer run .runtime)

/-! ### The content of a backup -/

/-- An entry in the listing of an archive, without what stands for the current directory and for
a directory. -/
def cleanEntry (item : JsText) : JsText :=
  let stripped := match item with
    | 46 :: 47 :: rest => rest.dropWhile (· = 47)
    | item => item
  if stripped.getLast? = some 47 then stripped.dropLast else stripped

/-- What an archive may hold at its top. -/
def archiveNames : List JsText :=
  ["hermes-data", "instance.json", "hermes.env", "dashboard.env", "runtime.env"].map utf16

/-- An entry that leaves the directory where an archive is unpacked, or is not in a backup. -/
def isUnsafeEntry (entry : JsText) : Bool :=
  entry.head? = some 47 || entry.contains 92 || (entry.splitOn 47).contains (utf16 "..") ||
    !archiveNames.contains ((entry.splitOn 47).headD [])

/-- The check of the listing of an archive. -/
def checkListing (stdout : JsText) : Except SupervisorError Unit :=
  let entries := (stdout.lines.map cleanEntry).filter (· ≠ [])
  if entries.isEmpty || entries.any isUnsafeEntry then
    .error { message := utf16 "Backup archive contains an unsafe path"
             code := "unsafe_backup_content" }
  else .ok ()

/-- What an archive was unpacked to: what the checks of its entries and the reading of its
`instance.json` throw, and the data and variables in it. -/
structure UnpackedBackup extends AgentDisk where
  safeTree : Except SupervisorError Unit
  instanceFile : Except SupervisorError JsData

/-- The checks of an unpacked archive. -/
def UnpackedBackup.check (unpacked : UnpackedBackup) (agentId : JsText) :
    Except SupervisorError Unit := do
  unpacked.safeTree
  match ← unpacked.instanceFile with
  | .null => .error (typeError "Cannot read properties of null (reading 'agentId')")
  | archived =>
      if textAt archived "agentId" ≠ some agentId then
        .error { message := utf16 "Backup Agent identity does not match"
                 code := "backup_identity_mismatch" }
      else if unpacked.data.isNone ||
          ConfigFile.environments.any fun name => (unpacked.env name).isNone then
        .error (invalidBackup "Backup content is incomplete")
      else .ok ()

/-! ### The restore -/

/-- What happens while a backup is restored: what is at the paths of the instance file and of the
backup, and how the operations of the restore, of its compensation and of the clean-up end. -/
structure RestoreWorld where
  metadata : Except SupervisorError AgentMetadata
  backup : BackupFile
  prepare : Except SupervisorError Unit
  listing : Except SupervisorError JsText
  unpack : Except SupervisorError UnpackedBackup
  history : Except SupervisorError Unit
  saveData : Except SupervisorError Unit
  saveEnv : ConfigFile → FileOutcome
  stop : Container → StopOutcome
  removeData : DataOutcome
  moveData : DataOutcome
  copyEnv : ConfigFile → FileOutcome
  run : ContainerRun
  undoRemove : DataOutcome
  undoData : DataOutcome
  undoEnv : ConfigFile → FileOutcome
  undoRun : ContainerRun
  cleanup : Except SupervisorError Unit

/-- A restore that was requested, with its backup. -/
structure RestoreRequest where
  metadata : AgentMetadata
  agentId : JsText
  backupId : JsText
  restoreId : JsText
  opened : OpenedBackup

section Requests

variable [NumberReader] [BackupHost]

open BackupHost

/-- What `restoreBackup` checks before it writes. -/
def requestRestore (backupKey : Option Key) (command : JsData) (world : RestoreWorld) :
    Except SupervisorError RestoreRequest := do
  if !(command.member "approval_id").any JsData.isTruthy then
    .error { message := utf16 "Backup restore requires approval", code := "approval_required" }
  else
    let agentId ← commandAgentId command
    let metadata ← world.metadata
    let backupId ← identifierOf (memberOf (command.member "arguments") "backup_id") "backup_id"
    let restoreId ← identifierOf (memberOf (command.member "arguments") "restore_id") "restore_id"
    let opened ← readBackup backupKey world.backup backupId agentId
    return { metadata := metadata, agentId := agentId, backupId := backupId
             restoreId := restoreId, opened := opened }

end Requests

/-- The archive is listed, unpacked and checked. -/
def unpackBackup (world : RestoreWorld) (agentId : JsText) :
    Except SupervisorError UnpackedBackup := do
  checkListing (← world.listing)
  let unpacked ← world.unpack
  unpacked.check agentId
  return unpacked

/-- The copies of the data and of the variables that there are. -/
def saveHistory (world : RestoreWorld) (disk : AgentDisk) :
    Except SupervisorError Unit × AgentDisk :=
  match world.history with
  | .error error => (.error error, { data := none, env := fun _ => none })
  | .ok () =>
      match if disk.data.isSome then world.saveData else .ok () with
      | .error error => (.error error, { data := none, env := fun _ => none })
      | .ok () =>
          let copied := copyAll disk.env notFound world.saveEnv
            (ConfigFile.environments.filter fun name => (disk.env name).isSome) fun _ => none
          (copied.1, { data := disk.data, env := copied.2 })

/-- A container is stopped, if there is one of the name. -/
def stopContainer (stop : Container → StopOutcome) (container : Container) : RestoreStep :=
  fun state =>
    match stop container with
    | .absent => (.ok (), state)
    | .stopped => (.ok (), { state with halted := container :: state.halted })
    | .failed error isStopped =>
        (.error error, { state with
          halted := if isStopped then container :: state.halted else state.halted })

/-- The containers are stopped one after another. -/
def stopContainers (stop : Container → StopOutcome) : List Container → RestoreStep
  | [] => fun state => (.ok (), state)
  | container :: rest => andThen (stopContainer stop container) (stopContainers stop rest)

/-- The order in which the containers are stopped. -/
def Container.stopOrder : List Container :=
  [.runtime, .dashboard, .hermes]

/-- The swap: the unpacked data and variables in the place of those of the agent, and the
containers with them. -/
def swapBackup (metadata : InstanceMetadata) (unpacked : UnpackedBackup) (world : RestoreWorld) :
    RestoreStep :=
  andThen (putData none world.removeData) <|
  andThen (putData unpacked.data world.moveData) <|
  andThen (onEnv (copyAll unpacked.env notFound world.copyEnv ConfigFile.environments))
    (runContainers metadata world.run)

/-- The saved data and variables back in their place; what was not there is removed. -/
def putBack (saved : AgentDisk) (world : RestoreWorld) : RestoreStep :=
  andThen (putData none world.undoRemove) <|
  andThen (fun state =>
    if saved.data.isSome then putData saved.data world.undoData state else (.ok (), state))
    (onEnv (putAll saved.env world.undoEnv ConfigFile.environments))

/-- The compensation: what was saved back in its place, and the containers with it if there were
all the files of variables. What the containers throw is not told. -/
def compensate (metadata : InstanceMetadata) (saved : AgentDisk) (world : RestoreWorld) :
    RestoreStep := fun state =>
  andThen (putBack saved world) (fun state =>
    if ConfigFile.environments.all fun name => (saved.env name).isSome then
      (.ok (), (runContainers metadata world.undoRun state).2)
    else (.ok (), state)) state

/-- The restore of an archive that was unpacked. -/
def restoreUnpacked (metadata : InstanceMetadata) (unpacked : UnpackedBackup)
    (world : RestoreWorld) : RestoreStep := fun state =>
  match saveHistory world state.toAgentDisk with
  | (.error error, _) => (.error error, state)
  | (.ok (), saved) =>
      match stopContainers world.stop Container.stopOrder state with
      | (.error error, stopped) => (.error error, stopped)
      | (.ok (), stopped) =>
          match swapBackup metadata unpacked world stopped with
          | (.ok (), swapped) => (.ok (), swapped)
          | (.error error, swapped) =>
              match compensate metadata saved world swapped with
              | (.error failure, after) => (.error failure, after)
              | (.ok (), after) => (.error error, after)

/-- The restore of a backup that was read, up to the clean-up. -/
def restoreRead (request : RestoreRequest) (world : RestoreWorld) : RestoreStep := fun state =>
  match unpackBackup world request.agentId with
  | .error error => (.error error, state)
  | .ok unpacked =>
      restoreUnpacked request.metadata.toInstanceMetadata unpacked world state

/-- The evidence of a restore. -/
def RestoreRequest.evidence (request : RestoreRequest) : List JsText :=
  [utf16 "backup:" ++ request.backupId ++ utf16 ":restored",
    utf16 "restore:" ++ request.restoreId ++ utf16 ":succeeded",
    utf16 "plaintext-sha256:" ++ request.opened.digest,
    utf16 "restore-history:" ++ request.restoreId]

/-- What a clean-up throws takes the place of what was thrown before. -/
def cleanUp {α : Type} (cleanup : Except SupervisorError Unit) (result : Except SupervisorError α) :
    Except SupervisorError α :=
  match cleanup with
  | .error failure => .error failure
  | .ok () => result

section Restores

variable [NumberReader] [BackupHost]

open BackupHost

/-- `restoreBackup`: the evidence that it returns, and the agent afterwards. -/
def restoreBackup (backupKey : Option Key) (command : JsData) (world : RestoreWorld)
    (disk : AgentDisk) : Except SupervisorError (List JsText) × RestoreState :=
  match requestRestore backupKey command world with
  | .error error => (.error error, disk.start)
  | .ok request =>
      match world.prepare with
      | .error error => (.error error, disk.start)
      | .ok () =>
          let restored := restoreRead request world disk.start
          (cleanUp world.cleanup (restored.1.map fun _ => request.evidence), restored.2)

end Restores

/-! ### What a failure leaves -/

/-- Every container that was running and was stopped or removed was to be started. -/
def RestoreState.HasStarts (running : Container → Bool) (state : RestoreState) : Prop :=
  ∀ container ∈ state.halted, running container = true → container ∈ state.started

/-- The data and the variables are those from before, and what was running is started. -/
structure IsRestored (running : Container → Bool) (disk : AgentDisk) (after : RestoreState) :
    Prop where
  disk : after.toAgentDisk = disk
  started : after.HasStarts running

/-- The compensation does not fail itself. -/
structure RestoreWorld.Compensates (world : RestoreWorld) : Prop where
  remove : world.undoRemove = .done
  data : world.undoData = .done
  env : ∀ name, world.undoEnv name = .done
  runtimeWrite : world.undoRun.runtimeWrite = .done
  dashboardWrite : world.undoRun.dashboardWrite = .done
  prepareData : world.undoRun.prepareData = .done
  network : world.undoRun.network = .ok ()
  replace : ∀ container, ∃ isRemoved, world.undoRun.replace container = .started isRemoved

/-- There are all files of variables. -/
def AgentDisk.IsComplete (disk : AgentDisk) : Prop :=
  ∀ name ∈ ConfigFile.environments, (disk.env name).isSome = true

/-- The containers run with what is on the disk as it is: the variables are complete and as
`ensureManagementConfiguration` wants them, and the data directory has the one of the memories. -/
def AgentDisk.IsRunnable (metadata : InstanceMetadata) (disk : AgentDisk) : Prop :=
  disk.IsComplete ∧ ensureManagementFiles metadata .done .done disk.env = (.ok (), disk.env) ∧
    disk.data = some (prepareHermesDataDirectory disk.data)

/-- No container is run with what is on the disk: a file of variables is missing, or
`ensureManagementConfiguration` refuses them. -/
def AgentDisk.IsIdle (metadata : InstanceMetadata) (disk : AgentDisk) : Prop :=
  disk.IsComplete → ∃ error,
    ensureManagementFiles metadata .done .done disk.env = (.error error, disk.env)

/-- The containers that are stopped, up to the first stop that fails. -/
def haltedBy (stop : Container → StopOutcome) : List Container → List Container
  | [] => []
  | container :: rest =>
      match stop container with
      | .absent => haltedBy stop rest
      | .stopped => container :: haltedBy stop rest
      | .failed _ isStopped => if isStopped then [container] else []

/-- A disk with the data and the variables of an archive, as the containers are run with them. -/
def AgentDisk.overwrite (metadata : InstanceMetadata) (unpacked : UnpackedBackup)
    (disk : AgentDisk) : AgentDisk where
  data := some (prepareHermesDataDirectory unpacked.data)
  env := (ensureManagementFiles metadata .done .done fun name =>
    if name ∈ ConfigFile.environments then unpacked.env name else disk.env name).2

/-- Where a stop fails, no running container has been stopped; where the swap fails, the
containers run with what was on the disk as it was, or none is run and every running one that was
stopped or removed was to be started before; and where only the clean-up fails, the archive holds
what was on the disk. -/
structure IsRecoverable (running : Container → Bool) (metadata : InstanceMetadata)
    (unpacked : UnpackedBackup) (world : RestoreWorld) (disk : AgentDisk) : Prop where
  stops : ∀ saved container error isStopped, saveHistory world disk = (.ok (), saved) →
    world.stop container = .failed error isStopped →
    ∀ halted ∈ haltedBy world.stop Container.stopOrder, running halted = false
  swaps : ∀ saved stopped error swapped, saveHistory world disk = (.ok (), saved) →
    stopContainers world.stop Container.stopOrder disk.start = (.ok (), stopped) →
    swapBackup metadata unpacked world stopped = (.error error, swapped) →
    disk.IsRunnable metadata ∨ disk.IsIdle metadata ∧ swapped.HasStarts running
  ends : ∀ failure saved stopped swapped, world.cleanup = .error failure →
    saveHistory world disk = (.ok (), saved) →
    stopContainers world.stop Container.stopOrder disk.start = (.ok (), stopped) →
    swapBackup metadata unpacked world stopped = (.ok (), swapped) →
    disk.overwrite metadata unpacked = disk

section Proofs

variable {running : Container → Bool} {metadata : InstanceMetadata} {unpacked : UnpackedBackup}
  {world : RestoreWorld} {disk saved : AgentDisk} {run : ContainerRun}
  {state after : RestoreState}

theorem isRestored_start : IsRestored running disk disk.start :=
  ⟨rfl, fun _ member => absurd member List.not_mem_nil⟩

/-! #### The stops -/

/-- The stops leave the disk as it is, and stop the containers up to the first that fails. -/
theorem stopContainers_eq (stop : Container → StopOutcome) (names : List Container)
    (state : RestoreState) : (stopContainers stop names state).2 =
      { state with halted := (haltedBy stop names).reverse ++ state.halted } := by
  induction names generalizing state with
  | nil => rfl
  | cons container rest ih =>
      rw [stopContainers, haltedBy]
      cases stops : stop container with
      | absent =>
          rw [andThen_of_ok (by rw [stopContainer, stops]), ih]
      | stopped =>
          rw [andThen_of_ok (by rw [stopContainer, stops]), ih, List.reverse_cons,
            List.append_assoc]
          rfl
      | failed error isStopped =>
          rw [andThen, stopContainer, stops]
          cases isStopped <;> rfl

/-- The stops fail if and only if one of them does. -/
theorem stopContainers_eq_ok (stop : Container → StopOutcome) (names : List Container)
    (state : RestoreState) : (stopContainers stop names state).1 = .ok () ↔
      ∀ container ∈ names, ∀ error isStopped, stop container ≠ .failed error isStopped := by
  induction names generalizing state with
  | nil => exact ⟨fun _ _ member => absurd member List.not_mem_nil, fun _ => rfl⟩
  | cons container rest ih =>
      rw [stopContainers, List.forall_mem_cons]
      cases stops : stop container with
      | absent =>
          rw [andThen_of_ok (by rw [stopContainer, stops]), ih]
          exact ⟨fun later => ⟨fun _ _ => by simp, later⟩, And.right⟩
      | stopped =>
          rw [andThen_of_ok (by rw [stopContainer, stops]), ih]
          exact ⟨fun later => ⟨fun _ _ => by simp, later⟩, And.right⟩
      | failed error isStopped =>
          rw [andThen, stopContainer, stops]
          constructor
          · intro succeeded
            cases succeeded
          · intro fails
            exact absurd rfl (fails.1 error isStopped)

/-! #### The swap -/

/-- The management writes no file but those of the runtime and of the dashboard. -/
theorem ensureManagementFiles_of_other {runtimeWrite dashboardWrite : FileOutcome}
    {files : ConfigFiles} {name : ConfigFile} (notRuntime : name ≠ .runtimeEnv)
    (notDashboard : name ≠ .dashboardEnv) :
    (ensureManagementFiles metadata runtimeWrite dashboardWrite files).2 name = files name := by
  have put_other {target : ConfigFile} (other : name ≠ target) (content : Option JsText)
      (outcome : FileOutcome) (files : ConfigFiles) :
      (put target content outcome files).2 name = files name := by
    cases outcome <;> exact Function.update_of_ne other _ _
  have runtime (values : Environment) :
      (writeRuntimeEnv values runtimeWrite files).2 name = files name := by
    unfold writeRuntimeEnv
    split
    · rfl
    · split
      · rfl
      · exact put_other notRuntime _ _ _
  have dashboard (values : Environment) (files : ConfigFiles) :
      (writeDashboardEnv values dashboardWrite files).2 name = files name := by
    unfold writeDashboardEnv
    split
    · rfl
    · split
      · rfl
      · exact put_other notDashboard _ _ _
  unfold ensureManagementFiles
  split
  · rfl
  · rename_i management _
    have written := runtime management.runtimeUpdated
    split
    · rename_i same
      rw [same] at written
      exact written
    · rename_i updated same
      rw [same] at written
      exact (dashboard management.dashboard updated).trans written

theorem putData_done {data : Option DataTree} :
    putData data .done state = (.ok (), { state with data := data }) :=
  rfl

theorem putData_env {data : Option DataTree} {outcome : DataOutcome} (state : RestoreState) :
    (putData data outcome state).2.env = state.env := by
  unfold putData
  split <;> rfl

theorem replaceContainer_disk (run : ContainerRun) (container : Container)
    (state : RestoreState) :
    (replaceContainer run container state).2.toAgentDisk = state.toAgentDisk := by
  unfold replaceContainer
  split <;> rfl

/-- The swap writes no file but those of variables. -/
theorem swapBackup_of_other {name : ConfigFile} (other : name ∉ ConfigFile.environments) :
    (swapBackup metadata unpacked world state).2.env name = state.env name := by
  have replaced (container : Container) (before : RestoreState)
      (kept : before.env name = state.env name) :
      (replaceContainer world.run container before).2.env name = state.env name := by
    rw [← kept]
    exact congrFun (congrArg AgentDisk.env (replaceContainer_disk _ _ before)) name
  have written {data : Option DataTree} {outcome : DataOutcome} (before : RestoreState)
      (kept : before.env name = state.env name) :
      (putData data outcome before).2.env name = state.env name := by
    rw [putData_env]
    exact kept
  have managed (before : RestoreState) (kept : before.env name = state.env name) :
      (onEnv (ensureManagementFiles metadata world.run.runtimeWrite world.run.dashboardWrite)
        before).2.env name = state.env name := by
    rw [← kept]
    refine ensureManagementFiles_of_other ?_ ?_
    · rintro rfl
      exact other (by decide)
    · rintro rfl
      exact other (by decide)
  unfold swapBackup runContainers
  refine andThen_keeps written (fun _ kept => andThen_keeps written (fun _ kept =>
    andThen_keeps ?_ (fun _ kept => andThen_keeps managed (fun _ kept => andThen_keeps
      (fun before kept => written before kept) (fun _ kept => andThen_keeps (fun _ kept => kept)
        (fun _ kept => andThen_keeps (replaced .hermes) (fun _ kept => andThen_keeps
          (replaced .dashboard) (replaced .runtime) kept) kept) kept) kept) kept) kept) kept) rfl
  intro before kept
  rw [← kept]
  exact copyAll_of_notMem other

theorem replaceContainer_started {container : Container}
    (replaced : replaceContainer run container state = (.ok (), after)) :
    after.started = container :: state.started := by
  unfold replaceContainer at replaced
  split at replaced
  · cases replaced
  · cases replaced
  · cases replaced
    rfl

/-- Containers that are run are started. -/
theorem runContainers_started (ran : runContainers metadata run state = (.ok (), after))
    (container : Container) : container ∈ after.started := by
  unfold runContainers at ran
  obtain ⟨_, -, ran⟩ := andThen_eq_ok.mp ran
  obtain ⟨_, -, ran⟩ := andThen_eq_ok.mp ran
  obtain ⟨_, -, ran⟩ := andThen_eq_ok.mp ran
  obtain ⟨_, hermes, ran⟩ := andThen_eq_ok.mp ran
  obtain ⟨_, dashboard, runtime⟩ := andThen_eq_ok.mp ran
  rw [replaceContainer_started runtime, replaceContainer_started dashboard,
    replaceContainer_started hermes]
  cases container <;> simp

theorem swapBackup_started (swapped : swapBackup metadata unpacked world state = (.ok (), after))
    (container : Container) : container ∈ after.started := by
  unfold swapBackup at swapped
  obtain ⟨_, -, swapped⟩ := andThen_eq_ok.mp swapped
  obtain ⟨_, -, swapped⟩ := andThen_eq_ok.mp swapped
  obtain ⟨_, -, ran⟩ := andThen_eq_ok.mp swapped
  exact runContainers_started ran container

/-- A management that succeeds writes what it writes where no write fails. -/
theorem ensureManagementFiles_eq_ok {runtimeWrite dashboardWrite : FileOutcome}
    {files written : ConfigFiles}
    (ensured : ensureManagementFiles metadata runtimeWrite dashboardWrite files =
      (.ok (), written)) : ensureManagementFiles metadata .done .done files = (.ok (), written) := by
  have put_ok {name : ConfigFile} {content : Option JsText} {outcome : FileOutcome}
      {files written : ConfigFiles} (succeeded : put name content outcome files = (.ok (), written)) :
      put name content (.done : FileOutcome) files = (.ok (), written) := by
    cases outcome with
    | done => exact succeeded
    | failed error left => cases succeeded
  have runtime {values : Environment} {files updated : ConfigFiles}
      (succeeded : writeRuntimeEnv values runtimeWrite files = (.ok (), updated)) :
      writeRuntimeEnv values .done files = (.ok (), updated) := by
    unfold writeRuntimeEnv at succeeded ⊢
    split
    · rename_i current
      rwa [if_pos current] at succeeded
    · rename_i stale
      rw [if_neg stale] at succeeded
      cases formatted : envFile values with
      | error error =>
          rw [formatted] at succeeded
          cases succeeded
      | ok text =>
          rw [formatted] at succeeded
          exact put_ok succeeded
  have dashboard {values : Environment} {files updated : ConfigFiles}
      (succeeded : writeDashboardEnv values dashboardWrite files = (.ok (), updated)) :
      writeDashboardEnv values .done files = (.ok (), updated) := by
    unfold writeDashboardEnv at succeeded ⊢
    split
    · rename_i present
      rwa [if_pos present] at succeeded
    · rename_i absent
      rw [if_neg absent] at succeeded
      cases formatted : envFile values with
      | error error =>
          rw [formatted] at succeeded
          cases succeeded
      | ok text =>
          rw [formatted] at succeeded
          exact put_ok succeeded
  unfold ensureManagementFiles at ensured ⊢
  cases managed : managementOf metadata (readEnvironmentFile (files .runtimeEnv)) with
  | error error =>
      rw [managed] at ensured
      cases ensured
  | ok management =>
      rw [managed] at ensured
      dsimp only at ensured ⊢
      split at ensured
      · cases ensured
      · rename_i updated ran
        rw [runtime ran]
        exact dashboard ensured

theorem putData_eq_ok {data : Option DataTree} {outcome : DataOutcome}
    (succeeded : putData data outcome state = (.ok (), after)) :
    after = { state with data := data } := by
  unfold putData at succeeded
  split at succeeded
  · exact (Prod.mk.inj succeeded).2.symm
  · cases succeeded

theorem onEnv_eq_ok {step : ConfigFiles → Except SupervisorError Unit × ConfigFiles}
    (succeeded : onEnv step state = (.ok (), after)) :
    ∃ env, step state.env = (.ok (), env) ∧ after = { state with env := env } := by
  obtain ⟨done, rfl⟩ := Prod.mk.inj succeeded
  exact ⟨(step state.env).2, Prod.ext done rfl, rfl⟩

/-- A replacement leaves the disk as it is. -/
theorem replaceContainer_toAgentDisk {container : Container}
    (replaced : replaceContainer run container state = (.ok (), after)) :
    after.toAgentDisk = state.toAgentDisk := by
  have kept := replaceContainer_disk run container state
  rwa [replaced] at kept

/-- After a swap that succeeds, the disk has what the archive held. -/
theorem swapBackup_disk (swapped : swapBackup metadata unpacked world state = (.ok (), after)) :
    after.toAgentDisk = state.toAgentDisk.overwrite metadata unpacked := by
  unfold swapBackup at swapped
  obtain ⟨emptied, remove, swapped⟩ := andThen_eq_ok.mp swapped
  obtain ⟨moved, move, swapped⟩ := andThen_eq_ok.mp swapped
  obtain ⟨copied, copy, ran⟩ := andThen_eq_ok.mp swapped
  obtain ⟨env, copyEnv, rfl⟩ := onEnv_eq_ok copy
  obtain rfl := putData_eq_ok move
  obtain rfl := putData_eq_ok remove
  obtain ⟨present, done⟩ := copyAll_eq_ok (congrArg Prod.fst copyEnv)
  rw [copyAll_of_done present done] at copyEnv
  obtain rfl := (Prod.mk.inj copyEnv).2
  unfold runContainers at ran
  obtain ⟨managed, manage, ran⟩ := andThen_eq_ok.mp ran
  obtain ⟨prepared, prepare, ran⟩ := andThen_eq_ok.mp ran
  obtain ⟨connected, connect, ran⟩ := andThen_eq_ok.mp ran
  obtain ⟨_, hermes, ran⟩ := andThen_eq_ok.mp ran
  obtain ⟨_, dashboard, runtime⟩ := andThen_eq_ok.mp ran
  rw [replaceContainer_toAgentDisk runtime, replaceContainer_toAgentDisk dashboard,
    replaceContainer_toAgentDisk hermes]
  obtain ⟨written, ensured, rfl⟩ := onEnv_eq_ok manage
  obtain rfl := putData_eq_ok prepare
  obtain rfl := (Prod.mk.inj connect).2
  rw [AgentDisk.overwrite, ensureManagementFiles_eq_ok ensured]

/-! #### The compensation -/

/-- What was saved is what there was. -/
theorem saveHistory_eq_ok (isSaved : saveHistory world disk = (.ok (), saved)) :
    saved.data = disk.data ∧ ∀ name ∈ ConfigFile.environments, saved.env name = disk.env name := by
  unfold saveHistory at isSaved
  split at isSaved
  · cases isSaved
  · split at isSaved
    · cases isSaved
    · obtain ⟨copied, rfl⟩ := Prod.mk.inj isSaved
      refine ⟨rfl, fun name member => ?_⟩
      obtain ⟨present, done⟩ := copyAll_eq_ok copied
      dsimp only
      rw [copyAll_of_done present done]
      dsimp only
      cases stored : disk.env name with
      | none => rw [if_neg (by simp [stored])]
      | some content => rw [if_pos (by simp [stored, member])]

/-- A compensation that does not fail puts everything back. -/
theorem putBack_of_works (works : world.Compensates) (data : saved.data = disk.data)
    (env : ∀ name ∈ ConfigFile.environments, saved.env name = disk.env name)
    (others : ∀ name, name ∉ ConfigFile.environments → state.env name = disk.env name) :
    putBack saved world state = (.ok (), { state with toAgentDisk := disk }) := by
  have emptied : putData none world.undoRemove state = (.ok (), { state with data := none }) := by
    rw [works.remove, putData_done]
  have filled : (fun before : RestoreState =>
      if saved.data.isSome then putData saved.data world.undoData before else (.ok (), before))
        { state with data := none } = (.ok (), { state with data := disk.data }) := by
    dsimp only
    rw [works.data, putData_done, data]
    cases disk.data <;> rfl
  unfold putBack
  rw [andThen_of_ok emptied, andThen_of_ok filled, onEnv,
    putAll_of_done fun name _ => works.env name]
  have same : (fun name => if name ∈ ConfigFile.environments then saved.env name
      else state.env name) = disk.env := by
    funext name
    split
    · rename_i member
      exact env name member
    · rename_i other
      exact others name other
  rw [same]

/-- Containers that are run where no operation fails. -/
theorem runContainers_of_works (works : world.Compensates) :
    (∃ error, (ensureManagementFiles metadata .done .done state.env).1 = .error error ∧
      (runContainers metadata world.undoRun state).2 =
        { state with env := (ensureManagementFiles metadata .done .done state.env).2 }) ∨
    (ensureManagementFiles metadata .done .done state.env).1 = .ok () ∧
      (runContainers metadata world.undoRun state).2.toAgentDisk =
        { data := some (prepareHermesDataDirectory state.data)
          env := (ensureManagementFiles metadata .done .done state.env).2 } ∧
      ∀ container, container ∈ (runContainers metadata world.undoRun state).2.started := by
  have replaced (container : Container) (before : RestoreState) :
      ∃ halted, replaceContainer world.undoRun container before =
        (.ok (), { before with halted := halted, started := container :: before.started }) := by
    obtain ⟨isRemoved, done⟩ := works.replace container
    rw [replaceContainer, done]
    exact ⟨_, rfl⟩
  have managed : onEnv (ensureManagementFiles metadata world.undoRun.runtimeWrite
      world.undoRun.dashboardWrite) state =
      ((ensureManagementFiles metadata .done .done state.env).1,
        { state with env := (ensureManagementFiles metadata .done .done state.env).2 }) := by
    rw [onEnv, works.runtimeWrite, works.dashboardWrite]
  unfold runContainers
  cases ensured : (ensureManagementFiles metadata .done .done state.env).1 with
  | error error =>
      rw [ensured] at managed
      refine .inl ⟨error, rfl, ?_⟩
      rw [andThen, managed]
  | ok _ =>
      rw [ensured] at managed
      refine .inr ⟨rfl, ?_⟩
      rw [andThen_of_ok managed]
      have prepared (before : RestoreState) :
          putData (some (prepareHermesDataDirectory before.data)) world.undoRun.prepareData before =
            (.ok (), { before with data := some (prepareHermesDataDirectory before.data) }) := by
        rw [works.prepareData, putData_done]
      have connected (before : RestoreState) :
          ((world.undoRun.network, before) : Except SupervisorError Unit × RestoreState) =
            (.ok (), before) := by
        rw [works.network]
      rw [andThen_of_forall_ok prepared, andThen_of_forall_ok connected]
      obtain ⟨first, hermes⟩ := replaced .hermes { state with
        data := some (prepareHermesDataDirectory state.data)
        env := (ensureManagementFiles metadata .done .done state.env).2 }
      rw [andThen_of_ok hermes]
      obtain ⟨second, dashboard⟩ := replaced .dashboard { state with
        data := some (prepareHermesDataDirectory state.data)
        env := (ensureManagementFiles metadata .done .done state.env).2
        halted := first, started := .hermes :: state.started }
      rw [andThen_of_ok dashboard]
      obtain ⟨third, runtime⟩ := replaced .runtime { state with
        data := some (prepareHermesDataDirectory state.data)
        env := (ensureManagementFiles metadata .done .done state.env).2
        halted := second, started := .dashboard :: .hermes :: state.started }
      rw [runtime]
      refine ⟨rfl, fun container => ?_⟩
      cases container <;> simp

/-- A compensation that does not fail restores the agent if and only if its containers run with
what was on the disk as it was, or none is run and what was stopped was to be started before. -/
theorem compensate_restores_iff (works : world.Compensates) (data : saved.data = disk.data)
    (env : ∀ name ∈ ConfigFile.environments, saved.env name = disk.env name)
    (others : ∀ name, name ∉ ConfigFile.environments → state.env name = disk.env name) :
    (compensate metadata saved world state).1 = .ok () ∧
      (IsRestored running disk (compensate metadata saved world state).2 ↔
        disk.IsRunnable metadata ∨ disk.IsIdle metadata ∧ state.HasStarts running) := by
  have back : putBack saved world state = (.ok (), { state with toAgentDisk := disk }) :=
    putBack_of_works works data env others
  have complete : (ConfigFile.environments.all fun name => (saved.env name).isSome) = true ↔
      disk.IsComplete := by
    rw [List.all_eq_true]
    constructor
    · intro all name member
      rw [← env name member]
      exact all name member
    · intro all name member
      rw [env name member]
      exact all name member
  unfold compensate
  rw [andThen_of_ok back]
  by_cases whole : disk.IsComplete
  · rw [if_pos (complete.mpr whole)]
    refine ⟨rfl, ?_⟩
    rcases @runContainers_of_works metadata world { state with toAgentDisk := disk } works with
      ⟨error, ensured, ran⟩ | ⟨ensured, ran, started⟩
    · -- The variables are refused, and no container is run.
      dsimp only at ensured ran ⊢
      rw [ran]
      constructor
      · intro restored
        exact .inr ⟨fun _ => ⟨error, Prod.ext ensured (congrArg AgentDisk.env restored.disk)⟩,
          restored.started⟩
      · rintro (⟨-, same, -⟩ | ⟨idle, starts⟩)
        · rw [same] at ensured
          cases ensured
        · obtain ⟨_, same⟩ := idle whole
          refine ⟨?_, starts⟩
          rw [same]
    · -- The containers are run.
      dsimp only at ensured ran started ⊢
      constructor
      · intro restored
        have same := ran.symm.trans restored.disk
        exact .inl ⟨whole, Prod.ext ensured (congrArg AgentDisk.env same),
          (congrArg AgentDisk.data same).symm⟩
      · rintro (⟨-, same, prepared⟩ | ⟨idle, -⟩)
        · refine ⟨?_, fun container _ _ => started container⟩
          rw [ran, same, ← prepared]
        · obtain ⟨_, same⟩ := idle whole
          rw [same] at ensured
          cases ensured
  · rw [if_neg fun all => whole (complete.mp all)]
    refine ⟨rfl, ?_⟩
    constructor
    · intro restored
      exact .inr ⟨fun all => absurd all whole, restored.started⟩
    · rintro (⟨all, -⟩ | ⟨-, starts⟩)
      · exact absurd all whole
      · exact ⟨rfl, starts⟩

/-! #### The restore -/

/-- A failure of an unpacked restore, or of the clean-up after one, leaves the agent as it was if
and only if the restore is recoverable. -/
theorem restoreUnpacked_restores_iff (works : world.Compensates) :
    (∀ error, (restoreUnpacked metadata unpacked world disk.start).1 = .error error ∨
        world.cleanup = .error error →
      IsRestored running disk (restoreUnpacked metadata unpacked world disk.start).2) ↔
      IsRecoverable running metadata unpacked world disk := by
  have stopped_eq := stopContainers_eq world.stop Container.stopOrder disk.start
  have stopped_ok := stopContainers_eq_ok world.stop Container.stopOrder disk.start
  have ordered (container : Container) : container ∈ Container.stopOrder := by
    cases container <;> decide
  unfold restoreUnpacked
  cases isSaved : saveHistory world disk.start.toAgentDisk with
  | mk result saved =>
  cases result with
  | error error =>
      -- Nothing was stopped.
      refine iff_of_true (fun _ _ => isRestored_start) ⟨?_, ?_, ?_⟩
      · intro _ _ _ _ succeeded
        cases isSaved.symm.trans succeeded
      · intro _ _ _ _ succeeded
        cases isSaved.symm.trans succeeded
      · intro _ _ _ _ _ succeeded
        cases isSaved.symm.trans succeeded
  | ok _ =>
  obtain ⟨data, env⟩ := saveHistory_eq_ok isSaved
  cases stops : stopContainers world.stop Container.stopOrder disk.start with
  | mk result stopped =>
  rw [stops] at stopped_eq stopped_ok
  dsimp only at stopped_eq stopped_ok ⊢
  have kept : stopped.toAgentDisk = disk := congrArg RestoreState.toAgentDisk stopped_eq
  have halted_iff (container : Container) :
      container ∈ stopped.halted ↔ container ∈ haltedBy world.stop Container.stopOrder := by
    simp [stopped_eq, AgentDisk.start]
  cases result with
  | error error =>
      -- Some stop failed, and nothing is put back.
      constructor
      · intro restored
        refine ⟨fun _ _ _ _ _ _ halted member => ?_, ?_, ?_⟩
        · rw [← Bool.not_eq_true]
          intro runs
          have started := (restored error (.inl rfl)).started halted
            ((halted_iff halted).mpr member) runs
          rw [stopped_eq] at started
          cases started
        · intro _ _ _ _ _ succeeded
          cases stops.symm.trans succeeded
        · intro _ _ _ _ _ _ succeeded
          cases stops.symm.trans succeeded
      · intro recoverable _ _
        refine ⟨kept, fun container halted runs => ?_⟩
        have failed : ¬∀ container ∈ Container.stopOrder, ∀ error isStopped,
            world.stop container ≠ .failed error isStopped := by
          rw [← stopped_ok]
          intro succeeded
          cases succeeded
        push Not at failed
        obtain ⟨stuck, -, error, isStopped, stuckFailed⟩ := failed
        rw [recoverable.stops saved stuck error isStopped isSaved stuckFailed container
          ((halted_iff container).mp halted)] at runs
        cases runs
  | ok _ =>
  have noneFails := stopped_ok.mp rfl
  dsimp only
  cases swaps : swapBackup metadata unpacked world stopped with
  | mk result swapped =>
  cases result with
  | error error =>
      -- The swap failed, and the compensation puts back what was saved.
      have others (name : ConfigFile) (other : name ∉ ConfigFile.environments) :
          swapped.env name = disk.env name := by
        have unchanged := @swapBackup_of_other metadata unpacked world stopped name other
        rw [swaps] at unchanged
        rw [unchanged, kept]
      obtain ⟨undone, back⟩ := @compensate_restores_iff running metadata world disk saved swapped
        works data env others
      dsimp only
      cases compensated : compensate metadata saved world swapped with
      | mk result after =>
      rw [compensated] at undone back
      obtain rfl : result = .ok () := undone
      dsimp only at back ⊢
      constructor
      · intro restored
        refine ⟨?_, fun _ _ _ _ _ sameStops sameSwap => ?_, ?_⟩
        · intro _ container error isStopped _ failed
          exact absurd failed (noneFails container (ordered container) error isStopped)
        · cases stops.symm.trans sameStops
          cases swaps.symm.trans sameSwap
          exact back.mp (restored error (.inl rfl))
        · intro _ _ _ _ _ _ sameStops sameSwap
          cases stops.symm.trans sameStops
          cases swaps.symm.trans sameSwap
      · intro recoverable _ _
        exact back.mpr (recoverable.swaps saved stopped error swapped isSaved stops swaps)
  | ok _ =>
      -- Only the clean-up can fail.
      have overwritten : swapped.toAgentDisk = disk.overwrite metadata unpacked := by
        rw [swapBackup_disk swaps, kept]
      constructor
      · intro restored
        refine ⟨?_, ?_, fun failure _ _ _ cleanup _ _ _ => ?_⟩
        · intro _ container error isStopped _ failed
          exact absurd failed (noneFails container (ordered container) error isStopped)
        · intro _ _ _ _ _ sameStops sameSwap
          cases stops.symm.trans sameStops
          cases swaps.symm.trans sameSwap
        · exact overwritten.symm.trans (restored failure (.inr cleanup)).disk
      · rintro recoverable error (failed | cleanup)
        · cases failed
        · refine ⟨?_, fun container _ _ => swapBackup_started swaps container⟩
          exact overwritten.trans
            (recoverable.ends error saved stopped swapped cleanup isSaved stops swaps)

theorem cleanUp_error {cleanup result : Except SupervisorError Unit} {error : SupervisorError}
    {α : Type} (evidence : Unit → α) (failed : result = .error error ∨ cleanup = .error error) :
    ∃ failure, cleanUp cleanup (result.map evidence) = .error failure := by
  cases cleanup with
  | error failure => exact ⟨failure, rfl⟩
  | ok _ =>
      rcases failed with rfl | failed
      · exact ⟨error, rfl⟩
      · cases failed

theorem error_of_cleanUp {cleanup result : Except SupervisorError Unit} {failure : SupervisorError}
    {α : Type} {evidence : Unit → α}
    (thrown : cleanUp cleanup (result.map evidence) = .error failure) :
    ∃ error, result = .error error ∨ cleanup = .error error := by
  cases cleanup with
  | error error => exact ⟨error, .inr rfl⟩
  | ok _ =>
      cases result with
      | error error => exact ⟨error, .inl rfl⟩
      | ok _ => cases thrown

theorem requestRestore_of_ok [NumberReader] [BackupHost] {backupKey : Option BackupHost.Key}
    {command : JsData} {found : AgentMetadata} {agentId backupId restoreId : JsText}
    {opened : OpenedBackup}
    (approved : (command.member "approval_id").any JsData.isTruthy = true)
    (agent : commandAgentId command = .ok agentId) (stored : world.metadata = .ok found)
    (backup : identifierOf (memberOf (command.member "arguments") "backup_id") "backup_id" =
      .ok backupId)
    (restore : identifierOf (memberOf (command.member "arguments") "restore_id") "restore_id" =
      .ok restoreId)
    (read : readBackup backupKey world.backup backupId agentId = .ok opened) :
    requestRestore backupKey command world =
      .ok { metadata := found, agentId := agentId, backupId := backupId, restoreId := restoreId
            opened := opened } := by
  unfold requestRestore
  rw [approved, agent, stored, backup, restore]
  dsimp only [bind, Except.bind]
  rw [read]
  rfl

theorem restoreBackup_of_read [NumberReader] [BackupHost] {backupKey : Option BackupHost.Key}
    {command : JsData} {request : RestoreRequest}
    (requested : requestRestore backupKey command world = .ok request)
    (prepared : world.prepare = .ok ()) (cleaned : world.cleanup = .ok ()) :
    restoreBackup backupKey command world disk =
      ((restoreRead request world disk.start).1.map fun _ => request.evidence,
        (restoreRead request world disk.start).2) := by
  unfold restoreBackup
  rw [requested, prepared, cleaned]
  rfl

/-- A restore that fails leaves the agent as it was if and only if, once the backup was read and
unpacked, it is recoverable. -/
theorem restoreBackup_restores_iff [NumberReader] [BackupHost] {backupKey : Option BackupHost.Key}
    {command : JsData} (works : world.Compensates) :
    (∀ error, (restoreBackup backupKey command world disk).1 = .error error →
        IsRestored running disk (restoreBackup backupKey command world disk).2) ↔
      ∀ request unpacked, requestRestore backupKey command world = .ok request →
        world.prepare = .ok () → unpackBackup world request.agentId = .ok unpacked →
        IsRecoverable running request.metadata.toInstanceMetadata unpacked world disk := by
  unfold restoreBackup
  cases requested : requestRestore backupKey command world with
  | error error =>
      refine iff_of_true (fun _ _ => isRestored_start) fun _ _ succeeded => ?_
      cases succeeded
  | ok request =>
  cases prepared : world.prepare with
  | error error =>
      refine iff_of_true (fun _ _ => isRestored_start) fun _ _ _ succeeded => ?_
      cases succeeded
  | ok _ =>
  dsimp only
  have whole : (∀ unpacked, unpackBackup world request.agentId = .ok unpacked →
      IsRecoverable running request.metadata.toInstanceMetadata unpacked world disk) ↔
      ∀ error, (restoreRead request world disk.start).1 = .error error ∨
          world.cleanup = .error error →
        IsRestored running disk (restoreRead request world disk.start).2 := by
    unfold restoreRead
    cases unpackBackup world request.agentId with
    | error error =>
        refine iff_of_true (fun _ succeeded => ?_) fun _ _ => isRestored_start
        cases succeeded
    | ok unpacked =>
        dsimp only
        rw [restoreUnpacked_restores_iff works]
        constructor
        · intro recoverable
          exact recoverable unpacked rfl
        · rintro recoverable _ ⟨⟩
          exact recoverable
  constructor
  · rintro restored _ unpacked ⟨⟩ -
    refine whole.mpr (fun error failed => ?_) unpacked
    obtain ⟨failure, thrown⟩ := cleanUp_error (fun _ => request.evidence) failed
    exact restored failure thrown
  · intro recoverable failure thrown
    obtain ⟨error, failed⟩ := error_of_cleanUp thrown
    exact whole.mp (fun unpacked => recoverable request unpacked rfl rfl) error failed

end Proofs

section Sample

attribute [local instance] BackupHost.sample NumberReader.sample

def sampleRestoreCommand : JsData :=
  .obj [(utf16 "approval_id", .str (utf16 "approval-1")),
    (utf16 "arguments", .obj [(utf16 "agent_id", .str (utf16 "agent-1")),
      (utf16 "backup_id", .str (utf16 "backup-1")),
      (utf16 "restore_id", .str (utf16 "restore-1"))])]

def stopFailed : SupervisorError :=
  { message := utf16 "container did not stop", code := "container_failed" }

/-- The containers are removed and start again. -/
def sampleRun : ContainerRun where
  runtimeWrite := .done
  dashboardWrite := .done
  prepareData := .done
  network := .ok ()
  replace _ := .started true

/-- Everything goes well but the stops. -/
def sampleRestoreWorld (stop : Container → StopOutcome) : RestoreWorld where
  metadata := .ok sampleMetadata
  backup := .content sampleBackupCall.created.output
  prepare := .ok ()
  listing := .ok (utf16 "hermes-data/\ninstance.json\n")
  unpack := .ok
    { data := some fun _ => none
      env := fun _ => some []
      safeTree := .ok ()
      instanceFile := .ok (.obj [(utf16 "agentId", .str (utf16 "agent-1"))]) }
  history := .ok ()
  saveData := .ok ()
  saveEnv _ := .done
  stop := stop
  removeData := .done
  moveData := .done
  copyEnv _ := .done
  run := sampleRun
  undoRemove := .done
  undoData := .done
  undoEnv _ := .done
  undoRun := sampleRun
  cleanup := .ok ()

/-- An agent with data and all its files of variables. -/
def sampleDisk : AgentDisk where
  data := some fun _ => none
  env _ := some []

theorem compensates_sample (stop : Container → StopOutcome) :
    (sampleRestoreWorld stop).Compensates :=
  ⟨rfl, rfl, fun _ => rfl, rfl, rfl, rfl, rfl, fun _ => ⟨true, rfl⟩⟩

theorem requestRestore_sample (stop : Container → StopOutcome) :
    ∃ request, requestRestore (some ()) sampleRestoreCommand (sampleRestoreWorld stop) =
      .ok request ∧ request.agentId = utf16 "agent-1" := by
  obtain ⟨opened, read, -⟩ :=
    @readBackup_file BackupHost.sample _ () sampleArchive (List.cons_ne_nil _ _) rfl
  have agent : commandAgentId sampleRestoreCommand = .ok sampleArchive.agentId := rfl
  have backup : identifierOf (memberOf (sampleRestoreCommand.member "arguments") "backup_id")
      "backup_id" = .ok sampleArchive.backupId := rfl
  have file : (sampleRestoreWorld stop).backup = .content (sampleArchive.file ()) := rfl
  exact ⟨_, requestRestore_of_ok rfl agent rfl backup rfl (file ▸ read), rfl⟩

/-- The sample comes to the stops. -/
theorem restoreBackup_sample (stop : Container → StopOutcome) {error : SupervisorError}
    {stopped : RestoreState}
    (stops : stopContainers stop Container.stopOrder sampleDisk.start = (.error error, stopped)) :
    restoreBackup (some ()) sampleRestoreCommand (sampleRestoreWorld stop) sampleDisk =
      (.error error, stopped) := by
  obtain ⟨request, requested, agent⟩ := requestRestore_sample stop
  obtain ⟨unpacked, content⟩ : ∃ unpacked,
      unpackBackup (sampleRestoreWorld stop) (utf16 "agent-1") = .ok unpacked := ⟨_, rfl⟩
  have failed : restoreRead request (sampleRestoreWorld stop) sampleDisk.start =
      (.error error, stopped) := by
    unfold restoreRead
    rw [agent, content]
    unfold restoreUnpacked
    have isSaved : saveHistory (sampleRestoreWorld stop) sampleDisk.start.toAgentDisk =
      (.ok (), { data := sampleDisk.data, env := _ }) := rfl
    rw [isSaved]
    dsimp only
    rw [show stopContainers (sampleRestoreWorld stop).stop Container.stopOrder sampleDisk.start =
      (.error error, stopped) from stops]
  rw [restoreBackup_of_read requested rfl rfl, failed]
  rfl

/-- The first stop fails. -/
def firstStopFails : RestoreWorld :=
  sampleRestoreWorld fun _ => .failed stopFailed false

/-- The second stop fails. -/
def secondStopFails : RestoreWorld :=
  sampleRestoreWorld fun
    | .runtime => .stopped
    | _ => .failed stopFailed false

theorem restoreBackup_restores_iff_sample :
    (restoreBackup (some ()) sampleRestoreCommand firstStopFails sampleDisk).1.toBool = false ∧
      ∀ error, (restoreBackup (some ()) sampleRestoreCommand firstStopFails sampleDisk).1 =
          .error error →
        IsRestored (fun _ => true) sampleDisk
          (restoreBackup (some ()) sampleRestoreCommand firstStopFails sampleDisk).2 := by
  constructor
  · rw [firstStopFails, restoreBackup_sample _ rfl]
    rfl
  · refine (restoreBackup_restores_iff (compensates_sample _)).mpr fun request unpacked _ _ _ => ?_
    refine ⟨?_, ?_, ?_⟩
    · intro _ _ _ _ _ _ halted member
      cases member
    · intro _ _ _ _ _ stops
      cases stops
    · intro _ _ _ _ _ _ stops
      cases stops

/-- A stop that fails leaves the containers stopped that were stopped before it. -/
theorem stopped_container_not_started : secondStopFails.Compensates ∧
    (restoreBackup (some ()) sampleRestoreCommand secondStopFails sampleDisk).1.toBool = false ∧
    ¬IsRestored (fun _ => true) sampleDisk
      (restoreBackup (some ()) sampleRestoreCommand secondStopFails sampleDisk).2 := by
  refine ⟨compensates_sample _, ?_⟩
  rw [secondStopFails, restoreBackup_sample _ rfl]
  refine ⟨rfl, fun restored => ?_⟩
  have started := restored.started .runtime List.mem_cons_self rfl
  cases started

end Sample

end BairuiPlatform.Supervisor
