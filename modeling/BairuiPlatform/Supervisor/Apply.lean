/-
Module: BairuiPlatform.Supervisor.Apply
Purpose: The application of a configuration to an agent, with its rollback.
Trusted boundary: the container runtime, and the YAML library
Main exports: applyConfiguration, applyUserConfiguration, configuration_restored_iff
-/
import BairuiPlatform.Supervisor.Configuration

namespace BairuiPlatform.Supervisor

open Foundations

/-- What the instance file of an agent says, as far as a configuration is applied with it. -/
structure AgentMetadata extends InstanceMetadata where
  configRevisionId : Option JsText

/-- The configuration files of an agent, and the copies that are kept of them under the names of
earlier revisions. -/
structure AgentFiles where
  active : ConfigFiles
  history : JsText → ConfigFiles

/-- How an operation on a configuration file ends. -/
abbrev FileOutcome := Outcome SupervisorError JsText

/-- A file that is missing. -/
def notFound : SupervisorError :=
  { message := utf16 "ENOENT: no such file or directory", code := "ENOENT" }

/-! ### The environment of a runtime -/

/-- The variables of a runtime are written, if they are not up to date. -/
def writeRuntimeEnv (runtimeUpdated : Environment) (outcome : FileOutcome) (files : ConfigFiles) :
    Except SupervisorError Unit × ConfigFiles :=
  if (readEnvironmentFile (files .runtimeEnv)).entries = runtimeUpdated.entries then
    (.ok (), files)
  else
    match envFile runtimeUpdated with
    | .error error => (.error error, files)
    | .ok text => put .runtimeEnv (some text.toWellFormed) outcome files

/-- The variables of a dashboard are written, if there is no file of them. -/
def writeDashboardEnv (dashboard : Environment) (outcome : FileOutcome) (files : ConfigFiles) :
    Except SupervisorError Unit × ConfigFiles :=
  if (files .dashboardEnv).isSome then (.ok (), files)
  else
    match envFile dashboard with
    | .error error => (.error error, files)
    | .ok text => put .dashboardEnv (some text.toWellFormed) outcome files

/-- `ensureManagementConfiguration` of the files of an agent, with what becomes of its writes. -/
def ensureManagementFiles (metadata : InstanceMetadata) (runtimeWrite dashboardWrite : FileOutcome)
    (files : ConfigFiles) : Except SupervisorError Unit × ConfigFiles :=
  match managementOf metadata (readEnvironmentFile (files .runtimeEnv)) with
  | .error error => (.error error, files)
  | .ok management =>
      match writeRuntimeEnv management.runtimeUpdated runtimeWrite files with
      | (.error error, updated) => (.error error, updated)
      | (.ok (), updated) => writeDashboardEnv management.dashboard dashboardWrite updated

/-! ### Configurations of the platform -/

/-- What happens while a configuration is applied: what the instance file says, how the writes
end, and what the containers and the writing of the instance file throw. -/
structure ApplyWorld where
  metadata : Except SupervisorError AgentMetadata
  stage : Except SupervisorError Unit
  save : ConfigFile → FileOutcome
  swap : ConfigFile → FileOutcome
  runtimeWrite : FileOutcome
  dashboardWrite : FileOutcome
  restart : Except SupervisorError Unit
  record : Except SupervisorError Unit
  rollback : ConfigFile → FileOutcome
  rollbackRuntimeWrite : FileOutcome
  rollbackDashboardWrite : FileOutcome

/-- A configuration that was staged. -/
structure StagedConfiguration where
  metadata : AgentMetadata
  revisionId : JsText
  staged : ConfigFiles

/-- The name under which the active files are saved. -/
def StagedConfiguration.rollbackName (configuration : StagedConfiguration) : JsText :=
  configuration.metadata.configRevisionId.getD (utf16 "before-" ++ configuration.revisionId)

/-- `stageConfiguration`, with what is checked before it. -/
def stageConfiguration (settings : SupervisorSettings) (command : JsData) (world : ApplyWorld) :
    Except SupervisorError StagedConfiguration := do
  if !(command.member "approval_id").any JsData.isTruthy then
    .error { message := utf16 "Configuration apply requires approval"
             code := "approval_required" }
  else
    let _ ← commandAgentId command
    let metadata ← world.metadata
    let revisionId ← identifierOf
      (memberOf (command.member "arguments") "config_revision_id") "config_revision_id"
    let staged ← stagedFiles settings command metadata.names
    world.stage
    return { metadata := metadata, revisionId := revisionId, staged := staged }

/-- The copies of the active files that there are. -/
def saveFiles (world : ApplyWorld) (active saved : ConfigFiles) :
    Except SupervisorError Unit × ConfigFiles :=
  copyAll active notFound world.save
    (ConfigFile.applied.filter fun name => (active name).isSome) saved

/-- The swap: the staged files over the active ones, and the containers with them. -/
def swapConfiguration (configuration : StagedConfiguration) (world : ApplyWorld)
    (active : ConfigFiles) : Except SupervisorError Unit × ConfigFiles :=
  match copyAll configuration.staged notFound world.swap ConfigFile.applied active with
  | (.error error, files) => (.error error, files)
  | (.ok (), files) =>
      match ensureManagementFiles configuration.metadata.toInstanceMetadata world.runtimeWrite
          world.dashboardWrite files with
      | (.error error, files) => (.error error, files)
      | (.ok (), files) => (world.restart.bind fun _ => world.record, files)

/-- The rollback: the saved files over the active ones if there are all of them, and the
containers with them. What the containers throw is not told. -/
def rollBack (configuration : StagedConfiguration) (world : ApplyWorld) (saved active : ConfigFiles) :
    Except SupervisorError Unit × ConfigFiles :=
  if ConfigFile.applied.all fun name => (saved name).isSome then
    match copyAll saved notFound world.rollback ConfigFile.applied active with
    | (.error error, files) => (.error error, files)
    | (.ok (), files) =>
        (.ok (), (ensureManagementFiles configuration.metadata.toInstanceMetadata
          world.rollbackRuntimeWrite world.rollbackDashboardWrite files).2)
  else (.ok (), active)

/-- The evidence of a configuration that was applied. -/
def appliedEvidence (configuration : StagedConfiguration) : List JsText :=
  [utf16 "config:" ++ configuration.revisionId ++ utf16 ":applied",
    utf16 "config:" ++ configuration.metadata.configRevisionId.getD (utf16 "initial") ++
      utf16 ":rollback-ready"]

/-- `applyConfiguration`: the evidence that it returns, and the files of the agent afterwards. -/
def applyConfiguration (settings : SupervisorSettings) (command : JsData) (world : ApplyWorld)
    (files : AgentFiles) : Except SupervisorError (List JsText) × AgentFiles :=
  match stageConfiguration settings command world with
  | .error error => (.error error, files)
  | .ok configuration =>
      let save := saveFiles world files.active (files.history configuration.rollbackName)
      let kept : AgentFiles := { files with
        history := Function.update files.history configuration.rollbackName save.2 }
      match save.1 with
      | .error error => (.error error, kept)
      | .ok () =>
          match swapConfiguration configuration world files.active with
          | (.ok (), active) =>
              (.ok (appliedEvidence configuration), { kept with active := active })
          | (.error error, active) =>
              match rollBack configuration world save.2 active with
              | (.error failure, active) => (.error failure, { kept with active := active })
              | (.ok (), active) => (.error error, { kept with active := active })

/-! ### Configurations of owners -/

/-- How the replacement of a file by a new one ends: it fails before the new file has the name,
or afterwards, when its mode is set. -/
inductive Replacement where
  | done
  | refused (error : SupervisorError)
  | unsecured (error : SupervisorError)

/-- What happens while the configuration of an owner is applied. -/
structure OwnerWorld where
  metadata : Except SupervisorError AgentMetadata
  containerStatus : Except SupervisorError JsText
  prepare : Except SupervisorError Unit
  save : FileOutcome
  replace : Replacement
  restart : JsText → Except SupervisorError Unit
  record : Except SupervisorError Unit
  rollback : FileOutcome

/-- A file is replaced by `fs.writeFileSync`, `fs.renameSync` and `fs.chmodSync`. -/
def replaceFile (name : ConfigFile) (content : JsText) (replacement : Replacement)
    (files : ConfigFiles) : Except SupervisorError Unit × ConfigFiles :=
  match replacement with
  | .done => (.ok (), Function.update files name (some content))
  | .refused error => (.error error, files)
  | .unsecured error => (.error error, Function.update files name (some content))

/-- A command of an owner that was checked. -/
structure OwnerChange where
  agentId : JsText
  metadata : AgentMetadata
  revisionId : JsText
  scope : OwnerScope
  previousStatus : JsText

/-- The name under which the active file is saved. -/
def OwnerChange.rollbackName (change : OwnerChange) : JsText :=
  change.metadata.configRevisionId.getD (utf16 "before-" ++ change.revisionId)

/-- What `applyUserConfiguration` checks before it touches a file. -/
def checkOwnerChange (command : JsData) (world : OwnerWorld) :
    Except SupervisorError OwnerChange := do
  let agentId ← commandAgentId command
  let metadata ← world.metadata
  let revisionId ← identifierOf
    (memberOf (command.member "arguments") "config_revision_id") "config_revision_id"
  let scope ← ownerScope command
  let previousStatus ← world.containerStatus
  world.prepare
  return { agentId := agentId, metadata := metadata, revisionId := revisionId, scope := scope
           previousStatus := previousStatus }

/-- The copy of the active file, if there is one. -/
def saveOwnerFile (world : OwnerWorld) (scope : OwnerScope) (active saved : ConfigFiles) :
    Except SupervisorError Unit × ConfigFiles :=
  match active scope.file with
  | none => (.ok (), saved)
  | some content => put scope.file (some content) world.save saved

/-- The file as it was before: the saved copy, or none. -/
def rollBackOwnerFile (world : OwnerWorld) (scope : OwnerScope) (hadFile : Bool)
    (saved active : ConfigFiles) : Except SupervisorError Unit × ConfigFiles :=
  if hadFile && (saved scope.file).isSome then put scope.file (saved scope.file) world.rollback active
  else put scope.file none world.rollback active

/-- The evidence of a change of an owner that was applied. -/
def ownerEvidence (change : OwnerChange) (content : OwnerContent) : List JsText :=
  [utf16 "config:" ++ change.revisionId ++ utf16 ":applied", content.digest,
    utf16 "config:" ++ change.metadata.configRevisionId.getD (utf16 "initial") ++
      utf16 ":rollback-ready"]

/-- `applyUserConfiguration`: the evidence that it returns, and the files of the agent
afterwards. -/
def applyUserConfiguration [YamlHost] (command : JsData) (world : OwnerWorld)
    (files : AgentFiles) : Except SupervisorError (List JsText) × AgentFiles :=
  match checkOwnerChange command world with
  | .error error => (.error error, files)
  | .ok change =>
      let active := files.active
      let save := saveOwnerFile world change.scope active (files.history change.rollbackName)
      let kept (active : ConfigFiles) : AgentFiles :=
        { active := active
          history := Function.update files.history change.rollbackName save.2 }
      match save.1 with
      | .error error => (.error error, kept active)
      | .ok () =>
          match ownerContent command change.agentId change.scope (active change.scope.file) with
          | .error error => (.error error, kept active)
          | .ok content =>
              match replaceFile change.scope.file content.content world.replace active with
              -- The configuration does not count as changed where the replacement throws.
              | (.error error, changed) => (.error error, kept changed)
              | (.ok (), changed) =>
                  match (world.restart change.previousStatus).bind fun _ => world.record with
                  | .ok () => (.ok (ownerEvidence change content), kept changed)
                  | .error error =>
                      match rollBackOwnerFile world change.scope
                          (active change.scope.file).isSome save.2 changed with
                      | (.error failure, restored) => (.error failure, kept restored)
                      | (.ok (), restored) => (.error error, kept restored)

/-! ### All or nothing -/

/-- After a failure the active files are those from before, and after a success they carry what
was to be applied. -/
def IsAllOrNothing (before : ConfigFiles) (carries : ConfigFiles → Prop)
    (outcome : Except SupervisorError (List JsText) × AgentFiles) : Prop :=
  match outcome.1 with
  | .error _ => outcome.2.active = before
  | .ok _ => carries outcome.2.active

/-- A failure that leaves a file with another content is not all or nothing. -/
theorem not_isAllOrNothing {before : ConfigFiles} {carries : ConfigFiles → Prop}
    {outcome : Except SupervisorError (List JsText) × AgentFiles} {name : ConfigFile}
    (failed : outcome.1.toBool = false) (changed : outcome.2.active name ≠ before name) :
    ¬IsAllOrNothing before carries outcome := by
  intro restored
  obtain ⟨result, after⟩ := outcome
  cases result with
  | error error => exact changed (congrFun restored name)
  | ok _ => cases failed

section Management

variable {metadata : InstanceMetadata} {runtimeWrite dashboardWrite : FileOutcome}
  {files : ConfigFiles}

/-- The management writes no file but those of the runtime and of a dashboard that has none. -/
theorem ensureManagementFiles_of_ne {name : ConfigFile} (notRuntime : name ≠ .runtimeEnv)
    (present : (files .dashboardEnv).isSome = true) :
    (ensureManagementFiles metadata runtimeWrite dashboardWrite files).2 name = files name := by
  have runtime (runtimeUpdated : Environment) {name : ConfigFile} (other : name ≠ .runtimeEnv) :
      (writeRuntimeEnv runtimeUpdated runtimeWrite files).2 name = files name := by
    unfold writeRuntimeEnv
    split
    · rfl
    · split
      · rfl
      · cases runtimeWrite with
        | done => exact Function.update_of_ne other _ _
        | failed error left => exact Function.update_of_ne other _ _
  unfold ensureManagementFiles
  split
  · rfl
  · rename_i management _
    split
    · rename_i written
      rw [← runtime management.runtimeUpdated notRuntime, written]
    · rename_i updated written
      have there : (updated .dashboardEnv).isSome = true := by
        have same := @runtime management.runtimeUpdated .dashboardEnv (by decide)
        rw [written] at same
        exact (congrArg Option.isSome same).trans present
      rw [writeDashboardEnv, if_pos there, ← runtime management.runtimeUpdated notRuntime, written]

/-- Where its write does not fail, the file of the runtime becomes what
`ensureManagementConfiguration` makes of it. -/
theorem ensureManagementFiles_runtimeEnv (present : (files .dashboardEnv).isSome = true) :
    (ensureManagementFiles metadata .done dashboardWrite files).2 .runtimeEnv =
      (ensureManagementConfiguration metadata true
        ⟨files .runtimeEnv, files .dashboardEnv⟩).1.runtimeEnv := by
  have dashboard (values : Environment) {updated : ConfigFiles}
      (same : updated .dashboardEnv = files .dashboardEnv) :
      (writeDashboardEnv values dashboardWrite updated).2 = updated := by
    rw [writeDashboardEnv, if_pos (same ▸ present)]
  unfold ensureManagementFiles ensureManagementConfiguration
  dsimp only
  cases managementOf metadata (readEnvironmentFile (files .runtimeEnv)) with
  | error error => rfl
  | ok management =>
      unfold writeRuntimeEnv updateRuntimeEnv updateDashboardEnv
      dsimp only
      by_cases current : (readEnvironmentFile (files .runtimeEnv)).entries =
          management.runtimeUpdated.entries
      · simp only [if_pos current, present, Bool.and_self, if_true]
        rw [dashboard _ rfl]
      · cases text : envFile management.runtimeUpdated with
        | error error => simp only [if_neg current, Except.map]
        | ok text =>
            simp only [if_neg current, Except.map, put_done, present, Bool.and_self, if_true]
            rw [dashboard _ (Function.update_of_ne (by decide) _ _), Function.update_self]

/-- Files whose runtime needs no update are left as they are. -/
theorem ensureManagementFiles_eq_self (present : (files .dashboardEnv).isSome = true)
    (current : ∀ management, managementOf metadata (readEnvironmentFile (files .runtimeEnv)) =
      .ok management → management.runtimeUpdated = readEnvironmentFile (files .runtimeEnv)) :
    (ensureManagementFiles metadata runtimeWrite dashboardWrite files).2 = files := by
  unfold ensureManagementFiles
  split
  · rfl
  · rename_i management managed
    have unchanged : writeRuntimeEnv management.runtimeUpdated runtimeWrite files =
        (.ok (), files) := by
      rw [writeRuntimeEnv, current management managed, if_pos rfl]
    rw [unchanged]
    dsimp only
    rw [writeDashboardEnv, if_pos present]

end Management

/-- The rollback does not fail itself. -/
structure ApplyWorld.RollsBack (world : ApplyWorld) : Prop where
  copies : ∀ name, world.rollback name = .done
  runtimeWrite : world.rollbackRuntimeWrite = .done

/-- The staged files of a command are the active ones. -/
def CarriesConfiguration (settings : SupervisorSettings) (command : JsData) (world : ApplyWorld)
    (after : ConfigFiles) : Prop :=
  ∃ configuration, stageConfiguration settings command world = .ok configuration ∧
    ∀ name ∈ ConfigFile.applied,
      (configuration.staged name).isSome = true ∧ after name = configuration.staged name

/-- `ensureManagementConfiguration` finds nothing to write in the file of a runtime. -/
def KeepsRuntimeEnv (metadata : InstanceMetadata) (files : ConfigFiles) : Prop :=
  (ensureManagementConfiguration metadata true
    ⟨files .runtimeEnv, files .dashboardEnv⟩).1.runtimeEnv = files .runtimeEnv

/-- Where the swap fails, there were all five files before and the management keeps the file of
the runtime; or nothing was changed yet and there is nothing to go back to. -/
def IsRestorable (settings : SupervisorSettings) (command : JsData) (world : ApplyWorld)
    (files : AgentFiles) : Prop :=
  ∀ configuration saved error swapped,
    stageConfiguration settings command world = .ok configuration →
    saveFiles world files.active (files.history configuration.rollbackName) = (.ok (), saved) →
    swapConfiguration configuration world files.active = (.error error, swapped) →
    (∀ name ∈ ConfigFile.applied, (files.active name).isSome = true) ∧
        KeepsRuntimeEnv configuration.metadata.toInstanceMetadata files.active ∨
      (∃ name ∈ ConfigFile.applied, files.active name = none ∧
          files.history configuration.rollbackName name = none) ∧
        swapped = files.active

section Apply

variable {settings : SupervisorSettings} {command : JsData} {world : ApplyWorld}
  {configuration : StagedConfiguration} {active history saved swapped : ConfigFiles}

theorem stageConfiguration_staged
    (staged : stageConfiguration settings command world = .ok configuration) :
    stagedFiles settings command configuration.metadata.names = .ok configuration.staged := by
  unfold stageConfiguration at staged
  split at staged
  · cases staged
  · obtain ⟨_, -, staged⟩ := bind_eq_ok.mp staged
    obtain ⟨metadata, -, staged⟩ := bind_eq_ok.mp staged
    obtain ⟨revisionId, -, staged⟩ := bind_eq_ok.mp staged
    obtain ⟨files, isStaged, staged⟩ := bind_eq_ok.mp staged
    obtain ⟨_, -, staged⟩ := bind_eq_ok.mp staged
    cases staged
    exact isStaged

/-- The saved copies are the active files, and older copies of those that are missing. -/
theorem saveFiles_ok (isSaved : saveFiles world active history = (.ok (), saved))
    {name : ConfigFile} (member : name ∈ ConfigFile.applied) :
    saved name = if (active name).isSome then active name else history name := by
  have succeeded : (saveFiles world active history).1 = .ok () := by rw [isSaved]
  unfold saveFiles at isSaved succeeded
  obtain ⟨present, copied⟩ := copyAll_eq_ok succeeded
  rw [copyAll_of_done present copied, Prod.mk.injEq] at isSaved
  rw [← isSaved.2]
  by_cases there : (active name).isSome = true
  · have inside : name ∈ ConfigFile.applied.filter fun name => (active name).isSome :=
      List.mem_filter.mpr ⟨member, there⟩
    dsimp only
    rw [if_pos inside, if_pos there]
  · have outside : name ∉ ConfigFile.applied.filter fun name => (active name).isSome :=
      fun inside => there (List.mem_filter.mp inside).2
    dsimp only
    rw [if_neg outside, if_neg there]

/-- After a swap that succeeds, the staged files are the active ones. -/
theorem swapConfiguration_ok
    (staged : stagedFiles settings command configuration.metadata.names = .ok configuration.staged)
    (isSwapped : swapConfiguration configuration world active = (.ok (), swapped)) :
    ∀ name ∈ ConfigFile.applied,
      (configuration.staged name).isSome = true ∧ swapped name = configuration.staged name := by
  unfold swapConfiguration at isSwapped
  cases copying : copyAll configuration.staged notFound world.swap ConfigFile.applied active with
  | mk result files =>
      rw [copying] at isSwapped
      cases result with
      | error error => cases isSwapped
      | ok _ =>
          have succeeded : (copyAll configuration.staged notFound world.swap ConfigFile.applied
              active).1 = .ok () := by rw [copying]
          obtain ⟨present, copied⟩ := copyAll_eq_ok succeeded
          rw [copyAll_of_done present copied, Prod.mk.injEq] at copying
          have carried {name : ConfigFile} (member : name ∈ ConfigFile.applied) :
              files name = configuration.staged name := by
            rw [← copying.2]
            exact if_pos member
          have kept : (ensureManagementFiles configuration.metadata.toInstanceMetadata
              world.runtimeWrite world.dashboardWrite files).2 = files := by
            apply ensureManagementFiles_eq_self
            · rw [carried (by decide)]
              exact present _ (by decide)
            · rw [carried (by decide)]
              exact fun management => runtimeUpdated_staged staged
          dsimp only at isSwapped
          cases ensuring : ensureManagementFiles configuration.metadata.toInstanceMetadata
              world.runtimeWrite world.dashboardWrite files with
          | mk result ensured =>
              rw [ensuring] at isSwapped kept
              cases kept
              cases result with
              | error error => cases isSwapped
              | ok _ =>
                  cases (Prod.mk.inj isSwapped).2
                  exact fun name member => ⟨present name member, carried member⟩

/-- A swap changes none but its five files. -/
theorem swapConfiguration_skills :
    (swapConfiguration configuration world active).2 .skills = active .skills := by
  have kept := @copyAll_of_notMem _ _ _ _ configuration.staged active notFound world.swap
    ConfigFile.applied .skills (by decide)
  unfold swapConfiguration
  cases copying : copyAll configuration.staged notFound world.swap ConfigFile.applied active with
  | mk result files =>
      rw [copying] at kept
      cases result with
      | error error => exact kept
      | ok _ =>
          have succeeded : (copyAll configuration.staged notFound world.swap ConfigFile.applied
              active).1 = .ok () := by rw [copying]
          obtain ⟨present, copied⟩ := copyAll_eq_ok succeeded
          rw [copyAll_of_done present copied, Prod.mk.injEq] at copying
          have there : (files .dashboardEnv).isSome = true := by
            rw [← copying.2]
            exact present _ (by decide)
          have untouched := @ensureManagementFiles_of_ne
            configuration.metadata.toInstanceMetadata world.runtimeWrite world.dashboardWrite files
            .skills (by decide) there
          dsimp only at kept ⊢
          rw [← kept, ← untouched]
          split
          · rename_i ensured
            rw [ensured]
          · rename_i ensured
            rw [ensured]

/-- A rollback that does not fail brings the saved files back and updates the runtime's. -/
theorem rollBack_of_saved (works : world.RollsBack)
    (complete : ∀ name ∈ ConfigFile.applied, (saved name).isSome = true) :
    ∃ restored : ConfigFiles, (∀ name ∈ ConfigFile.applied, restored name = saved name) ∧
      restored .skills = swapped .skills ∧
      rollBack configuration world saved swapped =
        (.ok (), (ensureManagementFiles configuration.metadata.toInstanceMetadata .done
          world.rollbackDashboardWrite restored).2) := by
  unfold rollBack
  rw [if_pos (List.all_eq_true.mpr complete),
    copyAll_of_done complete fun name _ => works.copies name, works.runtimeWrite]
  exact ⟨_, fun name member => if_pos member, rfl, rfl⟩

/-- With the five files there before, a rollback leaves all as it was if and only if the
management keeps the file of the runtime. -/
theorem rollBack_of_present (present : ∀ name ∈ ConfigFile.applied, (active name).isSome = true)
    (same : ∀ name ∈ ConfigFile.applied, saved name = active name)
    (skills : swapped .skills = active .skills) (works : world.RollsBack) :
    (rollBack configuration world saved swapped).1 = .ok () ∧
      ((rollBack configuration world saved swapped).2 = active ↔
        KeepsRuntimeEnv configuration.metadata.toInstanceMetadata active) := by
  have complete : ∀ name ∈ ConfigFile.applied, (saved name).isSome = true := by
    intro name member
    rw [same name member]
    exact present name member
  obtain ⟨restored, brought, other, rolled⟩ :=
    @rollBack_of_saved _ configuration saved swapped works complete
  obtain rfl : restored = active := by
    funext name
    by_cases member : name ∈ ConfigFile.applied
    · rw [brought name member, same name member]
    · cases name with
      | skills => rw [other, skills]
      | _ => exact absurd (by decide) member
  have dashboard := present .dashboardEnv (by decide)
  rw [rolled]
  refine ⟨rfl, ?_⟩
  unfold KeepsRuntimeEnv
  rw [← @ensureManagementFiles_runtimeEnv _ world.rollbackDashboardWrite _ dashboard]
  constructor
  · intro whole
    rw [whole]
  · intro kept
    funext name
    by_cases runtime : name = .runtimeEnv
    · rw [runtime]
      exact kept
    · exact ensureManagementFiles_of_ne runtime dashboard

/-- A rollback to a saved copy of a file that was missing leaves that file. -/
theorem rollBack_of_missing (complete : ∀ name ∈ ConfigFile.applied, (saved name).isSome = true)
    {name : ConfigFile} (member : name ∈ ConfigFile.applied) (missing : active name = none)
    (works : world.RollsBack) :
    (rollBack configuration world saved swapped).1 = .ok () ∧
      (rollBack configuration world saved swapped).2 ≠ active := by
  obtain ⟨restored, brought, -, rolled⟩ :=
    @rollBack_of_saved _ configuration saved swapped works complete
  have there : ∀ name ∈ ConfigFile.applied, (restored name).isSome = true := by
    intro name member
    rw [brought name member]
    exact complete name member
  have dashboard := there .dashboardEnv (by decide)
  rw [rolled]
  refine ⟨rfl, fun same => ?_⟩
  have left := congrFun same name
  dsimp only at left
  rw [missing] at left
  by_cases runtime : name = .runtimeEnv
  · rw [runtime, ensureManagementFiles_runtimeEnv dashboard] at left
    rcases ensureManagementConfiguration_runtimeEnv configuration.metadata.toInstanceMetadata true
        ⟨restored .runtimeEnv, restored .dashboardEnv⟩ with kept | ⟨management, -, -, written⟩
    · rw [kept] at left
      have runtimeThere := there .runtimeEnv (by decide)
      dsimp only at left
      rw [left] at runtimeThere
      cases runtimeThere
    · rw [written] at left
      cases left
  · rw [ensureManagementFiles_of_ne runtime dashboard] at left
    have nameThere := there name member
    rw [left] at nameThere
    cases nameThere

/-- When a rollback restores the files: there were all five of them, or nothing was changed. -/
theorem rollBack_restores_iff (works : world.RollsBack)
    (isSaved : saveFiles world active history = (.ok (), saved))
    (skills : swapped .skills = active .skills) :
    (rollBack configuration world saved swapped).1 = .ok () ∧
      ((rollBack configuration world saved swapped).2 = active ↔
        (∀ name ∈ ConfigFile.applied, (active name).isSome = true) ∧
            KeepsRuntimeEnv configuration.metadata.toInstanceMetadata active ∨
          (∃ name ∈ ConfigFile.applied, active name = none ∧ history name = none) ∧
            swapped = active) := by
  have copies {name : ConfigFile} (member : name ∈ ConfigFile.applied) :=
    saveFiles_ok isSaved member
  by_cases present : ∀ name ∈ ConfigFile.applied, (active name).isSome = true
  · obtain ⟨rolled, restores⟩ := @rollBack_of_present world configuration active saved swapped
      present (fun name member => by rw [copies member, if_pos (present name member)]) skills works
    refine ⟨rolled, restores.trans ⟨fun keeps => .inl ⟨present, keeps⟩, ?_⟩⟩
    rintro (⟨-, keeps⟩ | ⟨⟨name, member, missing, -⟩, -⟩)
    · exact keeps
    · have there := present name member
      rw [missing] at there
      cases there
  by_cases complete : ∀ name ∈ ConfigFile.applied, (saved name).isSome = true
  · push Not at present
    obtain ⟨name, member, missing⟩ := present
    have none : active name = none := by
      rwa [ne_eq, Option.not_isSome_iff_eq_none] at missing
    obtain ⟨rolled, other⟩ := @rollBack_of_missing world configuration active saved swapped
      complete _ member none works
    refine ⟨rolled, iff_of_false other ?_⟩
    rintro (⟨present, -⟩ | ⟨⟨other, memberToo, missingToo, unsaved⟩, -⟩)
    · exact missing (present name member)
    · have there := complete other memberToo
      rw [copies memberToo, missingToo, unsaved] at there
      cases there
  · have kept : rollBack configuration world saved swapped = (.ok (), swapped) := by
      rw [rollBack, if_neg fun all => complete (List.all_eq_true.mp all)]
    rw [kept]
    refine ⟨rfl, fun same => .inr ⟨?_, same⟩, ?_⟩
    · push Not at complete
      obtain ⟨name, member, unsaved⟩ := complete
      rw [copies member] at unsaved
      by_cases there : (active name).isSome = true
      · rw [if_pos there] at unsaved
        exact absurd there unsaved
      · rw [if_neg there, ne_eq, Option.not_isSome_iff_eq_none] at unsaved
        exact ⟨name, member, Option.not_isSome_iff_eq_none.mp there, unsaved⟩
    · rintro (⟨all, -⟩ | ⟨-, same⟩)
      · exact absurd all present
      · exact same

/-- Where the rollback does not fail itself, an application of a configuration is all or nothing
if and only if it can be restored. -/
theorem applyConfiguration_isAllOrNothing_iff (works : world.RollsBack) (files : AgentFiles) :
    IsAllOrNothing files.active (CarriesConfiguration settings command world)
        (applyConfiguration settings command world files) ↔
      IsRestorable settings command world files := by
  unfold applyConfiguration
  cases staging : stageConfiguration settings command world with
  | error error =>
      refine iff_of_true rfl fun configuration saved error swapped staged => ?_
      rw [staging] at staged
      cases staged
  | ok configuration =>
      dsimp only
      cases saving : saveFiles world files.active (files.history configuration.rollbackName) with
      | mk result saved =>
          cases result with
          | error error =>
              refine iff_of_true rfl fun other saved error swapped staged isSaved => ?_
              cases staging.symm.trans staged
              cases saving.symm.trans isSaved
          | ok _ =>
              dsimp only
              cases swapping : swapConfiguration configuration world files.active with
              | mk result swapped =>
                  cases result with
                  | ok _ =>
                      refine iff_of_true ?_ fun other saved error swapped staged _ isSwapped => ?_
                      · exact ⟨configuration, staging,
                          swapConfiguration_ok (stageConfiguration_staged staging) swapping⟩
                      · cases staging.symm.trans staged
                        cases swapping.symm.trans isSwapped
                  | error error =>
                      have skills : swapped .skills = files.active .skills := by
                        have kept := @swapConfiguration_skills world configuration files.active
                        rwa [swapping] at kept
                      obtain ⟨rolled, restores⟩ := @rollBack_restores_iff world configuration
                        files.active _ saved swapped works saving skills
                      cases rolling : rollBack configuration world saved swapped with
                      | mk result restored =>
                          rw [rolling] at rolled restores
                          cases rolled
                          dsimp only
                          rw [rolling]
                          refine restores.trans ⟨?_, ?_⟩
                          · intro restorable other saved' error' swapped' staged isSaved isSwapped
                            cases staging.symm.trans staged
                            cases saving.symm.trans isSaved
                            cases swapping.symm.trans isSwapped
                            exact restorable
                          · intro restorable
                            exact restorable configuration saved error swapped staging saving swapping

end Apply

/-- The file of the scope of an owner's change is what the change writes. -/
def CarriesOwnerChange [YamlHost] (command : JsData) (world : OwnerWorld) (files : AgentFiles)
    (after : ConfigFiles) : Prop :=
  ∃ change content, checkOwnerChange command world = .ok change ∧
    ownerContent command change.agentId change.scope (files.active change.scope.file) =
      .ok content ∧
    after change.scope.file = some content.content

/-- Where the new file has its name and its mode cannot be set, it is the same as before. -/
def IsReplaceable [YamlHost] (command : JsData) (world : OwnerWorld) (files : AgentFiles) : Prop :=
  ∀ change content saved error,
    checkOwnerChange command world = .ok change →
    saveOwnerFile world change.scope files.active (files.history change.rollbackName) =
      (.ok (), saved) →
    ownerContent command change.agentId change.scope (files.active change.scope.file) =
      .ok content →
    world.replace = .unsecured error →
    files.active change.scope.file = some content.content

section Owner

variable {world : OwnerWorld} {scope : OwnerScope} {active history saved : ConfigFiles}

/-- A rollback that does not fail gives a file back that was replaced. -/
theorem rollBackOwnerFile_restores (works : world.rollback = .done)
    (isSaved : saveOwnerFile world scope active history = (.ok (), saved)) (content : JsText) :
    rollBackOwnerFile world scope (active scope.file).isSome saved
      (Function.update active scope.file (some content)) = (.ok (), active) := by
  unfold rollBackOwnerFile
  unfold saveOwnerFile at isSaved
  cases had : active scope.file with
  | none =>
      rw [Option.isSome_none, Bool.false_and, if_neg Bool.false_ne_true, works, put_done,
        Function.update_idem, ← had, Function.update_eq_self]
  | some old =>
      rw [had] at isSaved
      cases saving : world.save with
      | failed error left =>
          rw [saving] at isSaved
          cases isSaved
      | done =>
          rw [saving] at isSaved
          cases isSaved
          rw [Function.update_self, works, put_done, Function.update_idem, ← had,
            Function.update_eq_self, had]
          rfl

/-- Where the rollback does not fail itself, a change of an owner is all or nothing if and only
if it does not fail between the name and the mode of a new file. -/
theorem applyUserConfiguration_isAllOrNothing_iff [YamlHost] {command : JsData}
    (works : world.rollback = .done) (files : AgentFiles) :
    IsAllOrNothing files.active (CarriesOwnerChange command world files)
        (applyUserConfiguration command world files) ↔
      IsReplaceable command world files := by
  unfold applyUserConfiguration
  cases checking : checkOwnerChange command world with
  | error error =>
      refine iff_of_true rfl fun change content saved error checked => ?_
      rw [checking] at checked
      cases checked
  | ok change =>
      dsimp only
      cases saving : saveOwnerFile world change.scope files.active
          (files.history change.rollbackName) with
      | mk result saved =>
          cases result with
          | error error =>
              refine iff_of_true rfl fun other content saved error checked isSaved => ?_
              cases checking.symm.trans checked
              cases saving.symm.trans isSaved
          | ok _ =>
              dsimp only
              cases making : ownerContent command change.agentId change.scope
                  (files.active change.scope.file) with
              | error error =>
                  refine iff_of_true rfl fun other content saved error checked _ made => ?_
                  cases checking.symm.trans checked
                  cases making.symm.trans made
              | ok content =>
                  have secured (notUnsecured : ∀ error, world.replace ≠ .unsecured error) :
                      IsReplaceable command world files :=
                    fun _ _ _ error _ _ _ unsecured => absurd unsecured (notUnsecured error)
                  dsimp only
                  cases replacing : world.replace with
                  | refused error =>
                      exact iff_of_true rfl (secured fun _ same => by rw [replacing] at same; cases same)
                  | unsecured error =>
                      constructor
                      · intro restored other otherContent _ _ checked _ made _
                        cases checking.symm.trans checked
                        cases making.symm.trans made
                        have same := congrFun restored change.scope.file
                        exact same.symm.trans (Function.update_self _ _ _)
                      · intro replaceable
                        have same := replaceable change content saved error checking saving making
                          replacing
                        show Function.update _ _ _ = _
                        rw [← same, Function.update_eq_self]
                  | done =>
                      refine iff_of_true ?_ (secured fun _ same => by rw [replacing] at same; cases same)
                      dsimp only [replaceFile]
                      cases (world.restart change.previousStatus).bind fun _ => world.record with
                      | ok _ => exact ⟨change, content, checking, making, Function.update_self _ _ _⟩
                      | error error =>
                          dsimp only
                          rw [rollBackOwnerFile_restores works saving]
                          rfl

end Owner

/-- Applied configurations are all or nothing if and only if, for those of the platform, a swap
that fails had all five files before it and a file of the runtime that the management keeps, or
had changed nothing and has nothing to go back to; and, for those of owners, no new file fails
between its name and its mode. -/
theorem configuration_restored_iff [YamlHost] (settings : SupervisorSettings) (command : JsData)
    (files : AgentFiles) :
    (∀ world : ApplyWorld, world.RollsBack →
      (IsAllOrNothing files.active (CarriesConfiguration settings command world)
          (applyConfiguration settings command world files) ↔
        IsRestorable settings command world files)) ∧
    ∀ world : OwnerWorld, world.rollback = .done →
      (IsAllOrNothing files.active (CarriesOwnerChange command world files)
          (applyUserConfiguration command world files) ↔
        IsReplaceable command world files) :=
  ⟨fun _ works => applyConfiguration_isAllOrNothing_iff works files,
    fun _ works => applyUserConfiguration_isAllOrNothing_iff works files⟩

section Sample

/-- A YAML library for documents that list disabled skills. -/
@[reducible] def YamlHost.sample : YamlHost where
  Document := List JsText
  parseDocument text := if text = utf16 "{}\n" then some [] else none
  hasErrors _ := false
  skillsNode _ := .absent
  setDisabled _ disabled := some disabled
  text disabled :=
    if disabled = [] then utf16 "skills:\n  disabled: []\n"
    else utf16 "skills:\n  disabled:\n" ++
      disabled.flatMap fun skill => utf16 "    - " ++ skill ++ [10]

attribute [local instance] YamlHost.sample

def sampleSecret (unit : Nat) : JsData :=
  .str (List.replicate 32 unit)

/-- A command that brings a configuration, and a change of an owner in it. -/
def sampleCommand : JsData :=
  .obj [(utf16 "approval_id", .str (utf16 "approval-1")),
    (utf16 "arguments", .obj [(utf16 "agent_id", .str (utf16 "agent-1")),
      (utf16 "config_revision_id", .str (utf16 "revision-2"))]),
    (utf16 "placement", .obj [(utf16 "agent_id", .str (utf16 "agent-1")),
      (utf16 "organization_id", .str (utf16 "organization-1")),
      (utf16 "user_id", .str (utf16 "user-1")),
      (utf16 "runtime_id", .str (utf16 "runtime-1"))]),
    (utf16 "config", .obj [
      (utf16 "document", .obj [
        (utf16 "provider", .obj [(utf16 "base_url", .str (utf16 "https://provider")),
          (utf16 "model", .str (utf16 "model-1"))]),
        (utf16 "owner_change", .obj [(utf16 "scope", .str (utf16 "skills")),
          (utf16 "generation", .num 1)]),
        (utf16 "skills", .obj [(utf16 "disabled", .arr [.str (utf16 "web")])])]),
      (utf16 "secrets", .obj [(utf16 "hermes_api_server_key", sampleSecret 97),
        (utf16 "runtime_shared_secret", sampleSecret 98),
        (utf16 "agent_control_token", sampleSecret 99),
        (utf16 "provider_api_key", .str (utf16 "key"))])])]

def sampleSettings : SupervisorSettings where
  platformUrl := some (.str (utf16 "https://platform"))

def sampleMetadata : AgentMetadata where
  agentId := utf16 "agent-1"
  organizationId := some (utf16 "organization-1")
  userId := some (utf16 "user-1")
  workspaceRef := none
  names := names (utf16 "agent-1")
  named := rfl
  configRevisionId := some (utf16 "revision-1")

/-- The containers do not start again. -/
def restartFailed : SupervisorError :=
  { message := utf16 "container did not start", code := "container_failed" }

/-- Everything goes well but the restart of the containers. -/
def sampleWorld : ApplyWorld where
  metadata := .ok sampleMetadata
  stage := .ok ()
  save _ := .done
  swap _ := .done
  runtimeWrite := .done
  dashboardWrite := .done
  restart := .error restartFailed
  record := .ok ()
  rollback _ := .done
  rollbackRuntimeWrite := .done
  rollbackDashboardWrite := .done

def sampleOwnerWorld : OwnerWorld where
  metadata := .ok sampleMetadata
  containerStatus := .ok (utf16 "running")
  prepare := .ok ()
  save := .done
  replace := .done
  restart _ := .error restartFailed
  record := .ok ()
  rollback := .done

/-- The files of an agent before its first configuration, without those that are missing. -/
def sampleFiles (missing : List ConfigFile) : AgentFiles where
  active name := if name ∈ missing then none else some []
  history _ _ := none

theorem configuration_restored_iff_sample :
    IsAllOrNothing (sampleFiles [.skills]).active
        (CarriesConfiguration sampleSettings sampleCommand sampleWorld)
        (applyConfiguration sampleSettings sampleCommand sampleWorld (sampleFiles [.skills])) ∧
      IsAllOrNothing (sampleFiles [.skills]).active
        (CarriesOwnerChange sampleCommand sampleOwnerWorld (sampleFiles [.skills]))
        (applyUserConfiguration sampleCommand sampleOwnerWorld (sampleFiles [.skills])) := by
  have restorable : IsRestorable sampleSettings sampleCommand sampleWorld
      (sampleFiles [.skills]) := by
    unfold IsRestorable
    intro configuration saved error swapped _ _ _
    have present : ∀ name ∈ ConfigFile.applied,
        ((sampleFiles [.skills]).active name).isSome = true := by decide
    have noSecret : machineSecret ((readEnvironmentFile (some [])).get?
        (utf16 "HERMES_API_SERVER_KEY")) (utf16 "hermes_api_server_key") =
          .error { message := utf16 "hermes_api_server_key is invalid"
                   code := "invalid_supervisor_config" } := rfl
    refine .inl ⟨present, ?_⟩
    unfold KeepsRuntimeEnv ensureManagementConfiguration managementOf
    have runtimeEnv : (sampleFiles [.skills]).active .runtimeEnv = some [] := rfl
    rw [runtimeEnv, noSecret]
    rfl
  have replaceable : IsReplaceable sampleCommand sampleOwnerWorld (sampleFiles [.skills]) := by
    unfold IsReplaceable
    intro change content saved error _ _ _ unsecured
    cases unsecured
  have works : sampleWorld.RollsBack := ⟨fun _ => rfl, rfl⟩
  have both := configuration_restored_iff sampleSettings sampleCommand (sampleFiles [.skills])
  have platform := both.1 sampleWorld works
  have owner := both.2 sampleOwnerWorld rfl
  rw [platform, owner]
  exact And.intro restorable replaceable

/-- Without the file of a dashboard, a restart that fails leaves the new configuration and a file
that was not there. -/
theorem missing_file_not_restored : ∃ settings command world files,
    ApplyWorld.RollsBack world ∧
      ¬IsAllOrNothing files.active (CarriesConfiguration settings command world)
        (applyConfiguration settings command world files) := by
  refine ⟨sampleSettings, sampleCommand, sampleWorld, sampleFiles [.dashboardEnv, .skills],
    ⟨fun _ => rfl, rfl⟩, @not_isAllOrNothing _ _ _ .dashboardEnv ?_ ?_⟩
  · decide +kernel
  · decide +kernel

end Sample

end BairuiPlatform.Supervisor
