/-
Module: BairuiPlatform.Operations.Retention
Purpose: What enforceRetentionPolicies of MemoryPlatformRepository removes, which backups it
  expires, and that a second run at the same time finds nothing left to do.
Trusted boundary: none
Main exports: enforceRetentionPolicies, RetentionOutcome, enforceRetentionPolicies_exact
-/
import Mathlib.Data.List.Perm.Basic
import BairuiPlatform.Authority.Execution
import BairuiPlatform.Operations.Rows

namespace BairuiPlatform

open Foundations

/-! ### Cutoffs -/

/-- `DEFAULT_RETENTION`. -/
def defaultRetention : RetentionPolicy :=
  { telemetryDays := 30, usageDays := 400, auditDays := 365, sensitiveAccessEventDays := 365
    backupDays := 30, updatedBy := none }

/-- `{ ...DEFAULT_RETENTION, ...(this.#retentionPolicies.get(id) ?? {}) }`. -/
def MemoryControl.policyOf (store : MemoryControl) (organizationId : String) : RetentionPolicy :=
  (store.retentionPolicies organizationId).getD defaultRetention

/-- The milliseconds of a number of days. -/
def dayMillis (days : Nat) : Int :=
  days * (24 * 60 * 60000)

/-- `retentionCutoffs`. -/
def retentionCutoffs (policy : RetentionPolicy) (now : Int) : RetentionCutoffs :=
  { telemetry := now - dayMillis policy.telemetryDays
    usage := now - dayMillis policy.usageDays
    audit := now - dayMillis policy.auditDays
    sensitiveAccess := now - dayMillis policy.sensitiveAccessEventDays
    backup := now - dayMillis policy.backupDays }

/-- `recent`: a time that is no date is recent. -/
def recent (value : ParsedTime) (cutoff : Int) : Bool :=
  value.all fun time => cutoff ≤ time

/-! ### One organization -/

/-- The argument of `enforceRetentionPolicies`. -/
structure RetentionInput where
  organizationId : Option String
  now : Int
  actorUserId : Option String
  reason : String

/-- The values of `randomUUID()` that a call draws: those of the run and of the audit row of an
organization, by its position, and those of its commands. -/
structure RetentionEnv where
  run : Nat → Uuid
  audit : Nat → Uuid
  command : Nat → Nat → Uuid

/-- The cutoffs of an organization. -/
def MemoryControl.cutoffsOf (store : MemoryControl) (now : Int) (organizationId : String) :
    RetentionCutoffs :=
  retentionCutoffs (store.policyOf organizationId) now

/-- The predicate of `purge`: the row is the organization's, and older than its cutoff. -/
def MemoryControl.overdue (store : MemoryControl) (now : Int) (organizationId : String)
    (kind : RetainedKind) (row : kind.Row) : Bool :=
  kind.organizationId row = organizationId &&
    !recent (kind.stamp row) (kind.cutoff (store.cutoffsOf now organizationId))

/-- A restore of the backup is requested or running. -/
def MemoryControl.isRestoring (store : MemoryControl) (backup : MemoryBackup) : Bool :=
  store.backupRestoreRuns.any fun restore => restore.backupId = some backup.id &&
    [.requested, .running].contains restore.status

/-- The deployment of a backup that the organization expires now. -/
def MemoryControl.expiring? (store : MemoryControl) (now : Int) (organizationId : String)
    (backup : MemoryBackup) : Option DeploymentRow :=
  (store.controlDeployments.find? fun deployment => deployment.id = backup.deploymentId &&
      deployment.organizationId = organizationId).filter fun _ =>
    !store.isRestoring backup &&
      [BackupStatus.created, .verified, .failed].contains backup.status &&
      !recent backup.createdAt (store.cutoffsOf now organizationId).backup

/-- The command that deletes the files of a backup. -/
def expireCommand (id runId : Uuid) (now : Int) (organizationId : String)
    (requestedBy : Option String) (backup : MemoryBackup) (deployment : DeploymentRow) :
    MemoryCommand :=
  { id := id.text
    organizationId := some organizationId
    deploymentId := deployment.id
    agentId := deployment.agentId
    idempotencyKey := some
      (deployment.id ++ "/backup.expire/" ++ backup.id ++ "/" ++ runId.text)
    action := .backupExpire
    arguments := .obj [("backup_id", .str backup.id)]
    approvalId := none
    expectedObservationVersion := deployment.observedStateVersion
    state := .queued
    priority := 200
    attempt := 0
    leaseServerId := none
    leaseExpiresAt := none
    requestedBy := requestedBy
    expiresAt := now + 24 * 60 * 60000
    createdAt := now }

/-- The commands for the backups that the organization expires. -/
def MemoryControl.expireCommands (store : MemoryControl) (env : RetentionEnv) (position : Nat)
    (now : Int) (organizationId : String) : Nat → List MemoryBackup → List MemoryCommand
  | _, [] => []
  | index, backup :: backups =>
      match store.expiring? now organizationId backup with
      | some deployment =>
          expireCommand (env.command position index) (env.run position) now organizationId
              (store.policyOf organizationId).updatedBy backup deployment ::
            store.expireCommands env position now organizationId (index + 1) backups
      | none => store.expireCommands env position now organizationId (index + 1) backups

/-- `purge`: the rows that stay. -/
def MemoryControl.purged (store : MemoryControl) (now : Int) (organizationId : String)
    (kind : RetainedKind) : List kind.Row :=
  (store.retained kind).filter fun row => !store.overdue now organizationId kind row

/-- The run of one organization. -/
def MemoryControl.retentionRun (store : MemoryControl) (env : RetentionEnv) (position : Nat)
    (now : Int) (organizationId : String) : RetentionRun :=
  { id := (env.run position).text
    organizationId := organizationId
    cutoffs := store.cutoffsOf now organizationId
    deletedCounts := fun kind =>
      (store.retained kind).length - (store.purged now organizationId kind).length
    backupExpirationCommands :=
      (store.expireCommands env position now organizationId 0 store.backupRecords).length
    startedAt := now }

/-- The audit row of a run. -/
def RetentionRun.audit (run : RetentionRun) (id : Uuid) (input : RetentionInput) :
    MemoryAuditRow :=
  { id := id.text
    organizationId := run.organizationId
    actorUserId := input.actorUserId
    action := "retention.enforced"
    targetType := "retention_run"
    targetId := some run.id
    metadata := .retention input.reason run.deletedCounts run.backupExpirationCommands run.cutoffs
    createdAt := some input.now }

/-- An audit row behind the others. -/
def pushAudit (retained : (kind : RetainedKind) → List kind.Row) (row : MemoryAuditRow) :
    (kind : RetainedKind) → List kind.Row
  | .auditEvents => retained .auditEvents ++ [row]
  | .heartbeats => retained .heartbeats
  | .resourceSamples => retained .resourceSamples
  | .telemetryEvents => retained .telemetryEvents
  | .usageRollups => retained .usageRollups
  | .sensitiveAccessEvents => retained .sensitiveAccessEvents

/-- One iteration of `enforceRetentionPolicies`: the six arrays are purged, the backups that
are due get a command, and the run is audited. -/
def MemoryControl.enforceOne (store : MemoryControl) (env : RetentionEnv) (position : Nat)
    (input : RetentionInput) (organizationId : String) : MemoryControl :=
  let run := store.retentionRun env position input.now organizationId
  { store with
    retained := pushAudit (store.purged input.now organizationId)
      (run.audit (env.audit position) input)
    retentionRuns := store.retentionRuns ++ [run]
    controlCommands := store.controlCommands ++
      store.expireCommands env position input.now organizationId 0 store.backupRecords
    backupRecords := store.backupRecords.map fun backup =>
      if (store.expiring? input.now organizationId backup).isSome then
        { backup with status := .expiring }
      else backup }

/-! ### The call -/

/-- The organizations that a call covers: all of them, or the one that it names. -/
def MemoryControl.covered (store : MemoryControl) (input : RetentionInput) : List String :=
  store.organizations.filter fun id =>
    input.organizationId.all fun named => named = "" || id = named

/-- The loop of `enforceRetentionPolicies`. -/
def enforceEach (env : RetentionEnv) (input : RetentionInput) :
    Nat → List String → MemoryControl → List RetentionRun × MemoryControl
  | _, [], store => ([], store)
  | position, organizationId :: rest, store =>
      let run := store.retentionRun env position input.now organizationId
      let others := enforceEach env input (position + 1) rest
        (store.enforceOne env position input organizationId)
      (run :: others.1, others.2)

/-- `enforceRetentionPolicies`. -/
def enforceRetentionPolicies (env : RetentionEnv) (input : RetentionInput)
    (store : MemoryControl) : List RetentionRun × MemoryControl :=
  enforceEach env input 0 (store.covered input) store

/-! ### What one iteration does -/

section One

variable {store : MemoryControl} {env : RetentionEnv} {input : RetentionInput} {position : Nat}
  {organizationId : String}

/-- A row of the time of the call is older than no cutoff. -/
theorem MemoryControl.overdue_now (kind : RetainedKind) {row : kind.Row} {now : Int}
    (stamped : kind.stamp row = some now) : store.overdue now organizationId kind row = false := by
  have reached : ∀ days : Nat, now - dayMillis days ≤ now := by
    intro days
    unfold dayMillis
    omega
  have old : recent (kind.stamp row) (kind.cutoff (store.cutoffsOf now organizationId)) = true := by
    rw [stamped, recent, Option.all_some, decide_eq_true_eq]
    cases kind <;> exact reached _
  unfold MemoryControl.overdue
  rw [old]
  simp

/-- A row is overdue for its own organization only. -/
theorem MemoryControl.overdue_apart {kind : RetainedKind} {row : kind.Row} {now : Int}
    {other : String} (overdue : store.overdue now organizationId kind row = true)
    (apart : other ≠ organizationId) : store.overdue now other kind row = false := by
  unfold MemoryControl.overdue at overdue ⊢
  simp only [Bool.and_eq_true, decide_eq_true_eq] at overdue
  rw [overdue.1]
  simp [Ne.symm apart]

/-- The rows of the other arrays after an iteration. -/
theorem MemoryControl.enforceOne_retained {kind : RetainedKind} (other : kind ≠ .auditEvents) :
    (store.enforceOne env position input organizationId).retained kind =
      store.purged input.now organizationId kind := by
  cases kind with
  | auditEvents => exact absurd rfl other
  | heartbeats => rfl
  | resourceSamples => rfl
  | telemetryEvents => rfl
  | usageRollups => rfl
  | sensitiveAccessEvents => rfl

/-- How many rows `purge` counts. -/
theorem MemoryControl.retentionRun_counts (kind : RetainedKind) :
    (store.retentionRun env position input.now organizationId).deletedCounts kind =
      ((store.retained kind).filter fun row =>
        store.overdue input.now organizationId kind row).length := by
  have parts : (store.retained kind).length =
      ((store.retained kind).filter fun row =>
        store.overdue input.now organizationId kind row).length +
      (store.purged input.now organizationId kind).length :=
    List.length_eq_length_filter_add (store.overdue input.now organizationId kind)
  show (store.retained kind).length - (store.purged input.now organizationId kind).length = _
  rw [parts, Nat.add_sub_cancel]

/-- A backup that expires has a status that allows it. -/
theorem MemoryControl.expiring?_status {now : Int} {backup : MemoryBackup}
    {deployment : DeploymentRow}
    (due : store.expiring? now organizationId backup = some deployment) :
    [BackupStatus.created, .verified, .failed].contains backup.status = true := by
  obtain ⟨-, allowed⟩ := Option.filter_eq_some_iff.mp due
  simp only [Bool.and_eq_true] at allowed
  exact allowed.1.2

/-- The backup that a command names. -/
def MemoryCommand.backupId (command : MemoryCommand) : Option String :=
  (command.arguments.field? "backup_id").bind Json.text?

/-- The commands of an iteration name the backups that expire. -/
theorem MemoryControl.expireCommands_backups {now : Int} (backups : List MemoryBackup) :
    ∀ index, (store.expireCommands env position now organizationId index backups).map
        MemoryCommand.backupId =
      (backups.filter fun backup => (store.expiring? now organizationId backup).isSome).map
        fun backup => some backup.id := by
  induction backups with
  | nil => exact fun _ => rfl
  | cons backup backups ih =>
      intro index
      rw [MemoryControl.expireCommands, List.filter_cons]
      cases due : store.expiring? now organizationId backup with
      | none => simpa [due] using ih (index + 1)
      | some deployment =>
          have named : (expireCommand (env.command position index) (env.run position) now
              organizationId (store.policyOf organizationId).updatedBy backup
              deployment).backupId = some backup.id := by
            simp [MemoryCommand.backupId, expireCommand, Json.field?, Json.text?]
          simpa [due, named] using ih (index + 1)

/-- What the commands of an iteration have in common. -/
theorem MemoryControl.mem_expireCommands {now : Int} {command : MemoryCommand}
    {backups : List MemoryBackup} : ∀ {index : Nat},
    command ∈ store.expireCommands env position now organizationId index backups →
      command.organizationId = some organizationId ∧ command.action = .backupExpire ∧
        command.state = .queued := by
  induction backups with
  | nil => exact fun member => absurd member List.not_mem_nil
  | cons backup backups ih =>
      intro index member
      rw [MemoryControl.expireCommands] at member
      split at member
      · rcases List.mem_cons.mp member with rfl | later
        · exact ⟨rfl, rfl, rfl⟩
        · exact ih later
      · exact ih member

end One

/-! ### What the loop does -/

/-- Some of the organizations removes the row. -/
def MemoryControl.removedBy (store : MemoryControl) (now : Int) (ids : List String)
    (kind : RetainedKind) (row : kind.Row) : Bool :=
  ids.any fun id => store.overdue now id kind row

/-- Some of the organizations expires the backup. -/
def MemoryControl.expiredBy (store : MemoryControl) (now : Int) (ids : List String)
    (backup : MemoryBackup) : Bool :=
  ids.any fun id => (store.expiring? now id backup).isSome

/-- A backup that expires. -/
def MemoryBackup.expire (backup : MemoryBackup) : MemoryBackup :=
  { backup with status := .expiring }

section Loop

variable (env : RetentionEnv) (input : RetentionInput)

/-- The rows that a longer list of organizations leaves. -/
theorem MemoryControl.filter_removedBy_cons {store : MemoryControl} {now : Int} {id : String}
    {ids : List String} {kind : RetainedKind} {rows : List kind.Row} :
    (rows.filter fun row => !store.removedBy now (id :: ids) kind row) =
      (rows.filter fun row => !store.overdue now id kind row).filter fun row =>
        !store.removedBy now ids kind row := by
  rw [List.filter_filter]
  refine List.filter_congr fun row _ => ?_
  rw [MemoryControl.removedBy, List.any_cons, Bool.not_or, Bool.and_comm]
  rfl

/-- The rows of the other arrays after the loop. -/
theorem enforceEach_retained {kind : RetainedKind} (other : kind ≠ .auditEvents) :
    ∀ (ids : List String) (position : Nat) (store : MemoryControl),
      (enforceEach env input position ids store).2.retained kind =
        (store.retained kind).filter fun row => !store.removedBy input.now ids kind row := by
  intro ids
  induction ids with
  | nil =>
      intro position store
      simp [enforceEach, MemoryControl.removedBy]
  | cons id ids ih =>
      intro position store
      rw [MemoryControl.filter_removedBy_cons]
      show (enforceEach env input (position + 1) ids _).2.retained kind = _
      rw [ih, MemoryControl.enforceOne_retained other]
      rfl

/-- The audit rows after the loop: those that stay, and one for each run. -/
theorem enforceEach_audits :
    ∀ (ids : List String) (position : Nat) (store : MemoryControl),
      (enforceEach env input position ids store).2.retained .auditEvents =
        ((store.retained .auditEvents).filter fun row =>
          !store.removedBy input.now ids .auditEvents row) ++
        ((enforceEach env input position ids store).1.mapIdx fun index run =>
          run.audit (env.audit (position + index)) input) := by
  intro ids
  induction ids with
  | nil =>
      intro position store
      simp [enforceEach, MemoryControl.removedBy]
  | cons id ids ih =>
      intro position store
      -- The row of this run is too young for the runs that follow.
      have young : ∀ row : MemoryAuditRow, row.createdAt = some input.now →
          store.removedBy input.now ids .auditEvents row = false := by
        intro row stamped
        rw [MemoryControl.removedBy, List.any_eq_false]
        intro other _
        rw [MemoryControl.overdue_now .auditEvents stamped]
        exact Bool.false_ne_true
      have rows : (store.enforceOne env position input id).retained .auditEvents =
          store.purged input.now id .auditEvents ++
            [(store.retentionRun env position input.now id).audit (env.audit position) input] :=
        rfl
      have same : ∀ row : MemoryAuditRow,
          (store.enforceOne env position input id).removedBy input.now ids .auditEvents row =
            store.removedBy input.now ids .auditEvents row := fun _ => rfl
      rw [MemoryControl.filter_removedBy_cons]
      show (enforceEach env input (position + 1) ids _).2.retained .auditEvents = _ ++
        (store.retentionRun env position input.now id ::
          (enforceEach env input (position + 1) ids _).1).mapIdx _
      rw [ih, rows, List.filter_append, List.filter_singleton, same, young _ rfl, List.mapIdx_cons,
        List.append_assoc]
      simp only [same, MemoryControl.purged, Nat.add_zero, Nat.add_right_comm, Nat.add_assoc]
      rfl

/-- One run for each organization, in their order. -/
theorem enforceEach_runs :
    ∀ (ids : List String) (position : Nat) (store : MemoryControl),
      (enforceEach env input position ids store).1.map RetentionRun.organizationId = ids := by
  intro ids
  induction ids with
  | nil => exact fun _ _ => rfl
  | cons id ids ih =>
      intro position store
      exact congrArg (id :: ·) (ih _ _)

/-- What the loop keeps, and what it adds to the list of runs. -/
theorem enforceEach_frame :
    ∀ (ids : List String) (position : Nat) (store : MemoryControl),
      (enforceEach env input position ids store).2 =
        { store with
          retained := (enforceEach env input position ids store).2.retained
          retentionRuns := store.retentionRuns ++ (enforceEach env input position ids store).1
          controlCommands := (enforceEach env input position ids store).2.controlCommands
          backupRecords := (enforceEach env input position ids store).2.backupRecords } := by
  intro ids
  induction ids with
  | nil =>
      intro position store
      simp [enforceEach]
  | cons id ids ih =>
      intro position store
      have later := ih (position + 1) (store.enforceOne env position input id)
      simp only [enforceEach]
      rw [later]
      simp only [MemoryControl.enforceOne, List.append_assoc, List.singleton_append]

/-- What another organization removes, and the audit row of its run, do not change what is
overdue. -/
theorem MemoryControl.filter_overdue_enforceOne (store : MemoryControl) (position : Nat)
    {id other : String} (apart : id ≠ other) (kind : RetainedKind) :
    (((store.enforceOne env position input other).retained kind).filter fun row =>
        store.overdue input.now id kind row) =
      (store.retained kind).filter fun row => store.overdue input.now id kind row := by
  have purged : ((store.purged input.now other kind).filter fun row =>
      store.overdue input.now id kind row) =
        (store.retained kind).filter fun row => store.overdue input.now id kind row := by
    unfold MemoryControl.purged
    rw [List.filter_filter]
    refine List.filter_congr fun row _ => ?_
    cases overdue : store.overdue input.now id kind row with
    | false => rfl
    | true =>
        rw [MemoryControl.overdue_apart overdue apart.symm]
        rfl
  by_cases audit : kind = .auditEvents
  · subst audit
    have rows : (store.enforceOne env position input other).retained .auditEvents =
        store.purged input.now other .auditEvents ++
          [(store.retentionRun env position input.now other).audit (env.audit position) input] :=
      rfl
    rw [rows, List.filter_append, List.filter_singleton,
      MemoryControl.overdue_now .auditEvents rfl, purged]
    exact List.append_nil _
  · rw [MemoryControl.enforceOne_retained audit, purged]

/-- The counts of every run. -/
theorem enforceEach_counts (kind : RetainedKind) :
    ∀ (ids : List String) (position : Nat) (store : MemoryControl), ids.Nodup →
      ∀ run ∈ (enforceEach env input position ids store).1,
        run.deletedCounts kind = ((store.retained kind).filter fun row =>
          store.overdue input.now run.organizationId kind row).length := by
  intro ids
  induction ids with
  | nil => exact fun _ _ _ run member => absurd member List.not_mem_nil
  | cons id ids ih =>
      intro position store nodup run member
      obtain ⟨new, rest⟩ := List.nodup_cons.mp nodup
      rcases List.mem_cons.mp member with rfl | later
      · exact MemoryControl.retentionRun_counts kind
      · have inside : run.organizationId ∈ ids := by
          have names := enforceEach_runs env input ids (position + 1)
            (store.enforceOne env position input id)
          exact names ▸ List.mem_map_of_mem later
        have apart : run.organizationId ≠ id := fun same => new (same ▸ inside)
        rw [ih _ _ rest run later]
        exact congrArg List.length
          (MemoryControl.filter_overdue_enforceOne env input store position apart kind)

/-- A backup that expires is not expired again. -/
theorem MemoryControl.expiring?_expire {store : MemoryControl} {now : Int} {id : String}
    {backup : MemoryBackup} : store.expiring? now id backup.expire = none := by
  unfold MemoryControl.expiring? MemoryBackup.expire
  rw [Option.filter_eq_none_iff]
  intro deployment _
  simp

/-- The backups after an iteration. -/
theorem MemoryControl.enforceOne_backups {store : MemoryControl} {position : Nat} {id : String} :
    (store.enforceOne env position input id).backupRecords = store.backupRecords.map fun backup =>
      if (store.expiring? input.now id backup).isSome then backup.expire else backup := rfl

/-- What later iterations make of a backup. -/
theorem MemoryControl.expiredBy_expire {store : MemoryControl} {now : Int} {ids : List String}
    {backup : MemoryBackup} : store.expiredBy now ids backup.expire = false := by
  rw [MemoryControl.expiredBy, List.any_eq_false]
  intro id _
  rw [MemoryControl.expiring?_expire]
  exact Bool.false_ne_true

/-- The backups after the loop. -/
theorem enforceEach_backups :
    ∀ (ids : List String) (position : Nat) (store : MemoryControl),
      (enforceEach env input position ids store).2.backupRecords =
        store.backupRecords.map fun backup =>
          if store.expiredBy input.now ids backup then backup.expire else backup := by
  intro ids
  induction ids with
  | nil =>
      intro position store
      simp [enforceEach, MemoryControl.expiredBy]
  | cons id ids ih =>
      intro position store
      have same : (store.enforceOne env position input id).expiredBy input.now ids =
          store.expiredBy input.now ids := rfl
      show (enforceEach env input (position + 1) ids _).2.backupRecords = _
      rw [ih, same, MemoryControl.enforceOne_backups, List.map_map]
      refine List.map_congr_left fun backup _ => ?_
      have first : store.expiredBy input.now (id :: ids) backup =
          ((store.expiring? input.now id backup).isSome || store.expiredBy input.now ids backup) :=
        List.any_cons
      rw [Function.comp_apply, first]
      cases (store.expiring? input.now id backup).isSome with
      | true => simp [MemoryControl.expiredBy_expire]
      | false => simp

/-- The commands of the loop: they are new, they name the backups that expire, and each belongs
to the run that counts it. -/
structure MemoryControl.Commanded (store : MemoryControl) (now : Int) (ids : List String)
    (runs : List RetentionRun) (commands : List MemoryCommand) : Prop where
  backups : (commands.map MemoryCommand.backupId).Perm
    ((store.backupRecords.filter fun backup => store.expiredBy now ids backup).map
      fun backup => some backup.id)
  shaped : ∀ command ∈ commands, command.action = .backupExpire ∧ command.state = .queued ∧
    ∃ id ∈ ids, command.organizationId = some id
  counted : ∀ run ∈ runs, run.backupExpirationCommands =
    (commands.filter fun command => command.organizationId = some run.organizationId).length

/-- The backups that some organizations expire: those that the first one does, and those that
the others expire afterwards. -/
theorem MemoryControl.expiredBy_perm (store : MemoryControl) (position : Nat) (id : String)
    (ids : List String) :
    (((store.backupRecords.filter fun backup =>
          (store.expiring? input.now id backup).isSome).map fun backup => some backup.id) ++
        (((store.enforceOne env position input id).backupRecords.filter fun backup =>
          store.expiredBy input.now ids backup).map fun backup => some backup.id)).Perm
      ((store.backupRecords.filter fun backup =>
        store.expiredBy input.now (id :: ids) backup).map fun backup => some backup.id) := by
  have afterwards : ((store.enforceOne env position input id).backupRecords.filter fun backup =>
        store.expiredBy input.now ids backup).map (fun backup => some backup.id) =
      (store.backupRecords.filter fun backup =>
        !(store.expiring? input.now id backup).isSome &&
          store.expiredBy input.now ids backup).map fun backup => some backup.id := by
    rw [MemoryControl.enforceOne_backups, List.filter_map, List.map_map]
    have chosen : (store.backupRecords.filter ((fun backup =>
          store.expiredBy input.now ids backup) ∘ fun backup =>
            if (store.expiring? input.now id backup).isSome then backup.expire else backup)) =
        store.backupRecords.filter fun backup =>
          !(store.expiring? input.now id backup).isSome &&
            store.expiredBy input.now ids backup := by
      refine List.filter_congr fun backup _ => ?_
      rw [Function.comp_apply]
      cases (store.expiring? input.now id backup).isSome with
      | true => simp [MemoryControl.expiredBy_expire]
      | false => simp
    rw [chosen]
    refine List.map_congr_left fun backup _ => ?_
    rw [Function.comp_apply]
    split
    · rfl
    · rfl
  have first : ∀ backup, store.expiredBy input.now (id :: ids) backup =
      ((store.expiring? input.now id backup).isSome || store.expiredBy input.now ids backup) :=
    fun _ => List.any_cons
  rw [afterwards, ← List.map_append]
  apply List.Perm.map
  simp only [first]
  have parts := List.filter_append_perm
    (fun backup => (store.expiring? input.now id backup).isSome)
    (store.backupRecords.filter fun backup =>
      (store.expiring? input.now id backup).isSome || store.expiredBy input.now ids backup)
  rw [List.filter_filter, List.filter_filter] at parts
  convert parts using 3
  · funext backup
    cases (store.expiring? input.now id backup).isSome <;> simp
  · funext backup
    cases (store.expiring? input.now id backup).isSome <;> simp

/-- The commands of an iteration, before those of the later ones. -/
theorem MemoryControl.Commanded.cons {store : MemoryControl} {position : Nat} {id : String}
    {ids : List String} {runs : List RetentionRun} {commands : List MemoryCommand}
    (new : id ∉ ids) (named : ∀ run ∈ runs, run.organizationId ∈ ids)
    (later : (store.enforceOne env position input id).Commanded input.now ids runs commands) :
    store.Commanded input.now (id :: ids) (store.retentionRun env position input.now id :: runs)
      (store.expireCommands env position input.now id 0 store.backupRecords ++ commands) := by
  have own : ∀ command ∈ store.expireCommands env position input.now id 0 store.backupRecords,
      command.organizationId = some id ∧ command.action = .backupExpire ∧
        command.state = .queued :=
    fun _ member => MemoryControl.mem_expireCommands member
  refine ⟨?_, ?_, ?_⟩
  · rw [List.map_append, MemoryControl.expireCommands_backups]
    exact (later.backups.append_left _).trans
      (MemoryControl.expiredBy_perm env input store position id ids)
  · intro command member
    rcases List.mem_append.mp member with first | rest
    · obtain ⟨owner, action, state⟩ := own command first
      exact ⟨action, state, id, List.mem_cons_self, owner⟩
    · obtain ⟨action, state, other, inside, owner⟩ := later.shaped command rest
      exact ⟨action, state, other, List.mem_cons_of_mem _ inside, owner⟩
  · intro run member
    rw [List.filter_append, List.length_append]
    rcases List.mem_cons.mp member with rfl | rest
    · have all : (store.expireCommands env position input.now id 0 store.backupRecords).filter
          (fun command => command.organizationId = some id) =
            store.expireCommands env position input.now id 0 store.backupRecords :=
        List.filter_eq_self.mpr fun command member => decide_eq_true (own command member).1
      have none : (commands.filter fun command => command.organizationId = some id) = [] := by
        rw [List.filter_eq_nil_iff]
        intro command member same
        obtain ⟨-, -, other, inside, owner⟩ := later.shaped command member
        rw [owner, decide_eq_true_eq, Option.some.injEq] at same
        exact new (same ▸ inside)
      show (store.expireCommands env position input.now id 0 store.backupRecords).length = _
      rw [show (store.retentionRun env position input.now id).organizationId = id from rfl, all,
        none, List.length_nil, Nat.add_zero]
    · have none : ((store.expireCommands env position input.now id 0 store.backupRecords).filter
          fun command => command.organizationId = some run.organizationId) = [] := by
        rw [List.filter_eq_nil_iff]
        intro command member same
        rw [(own command member).1, decide_eq_true_eq, Option.some.injEq] at same
        exact new (same ▸ named run rest)
      rw [none, List.length_nil, Nat.zero_add]
      exact later.counted run rest

/-- The commands after the loop. -/
theorem enforceEach_commands :
    ∀ (ids : List String) (position : Nat) (store : MemoryControl), ids.Nodup →
      ∃ commands, (enforceEach env input position ids store).2.controlCommands =
          store.controlCommands ++ commands ∧
        store.Commanded input.now ids (enforceEach env input position ids store).1 commands := by
  intro ids
  induction ids with
  | nil =>
      intro position store _
      refine ⟨[], (List.append_nil _).symm, ⟨?_, ?_, ?_⟩⟩
      · simp [MemoryControl.expiredBy]
      · exact fun command member => absurd member List.not_mem_nil
      · exact fun run member => absurd member List.not_mem_nil
  | cons id ids ih =>
      intro position store nodup
      obtain ⟨new, rest⟩ := List.nodup_cons.mp nodup
      obtain ⟨commands, added, later⟩ :=
        ih (position + 1) (store.enforceOne env position input id) rest
      have named : ∀ run ∈ (enforceEach env input (position + 1) ids
          (store.enforceOne env position input id)).1, run.organizationId ∈ ids := by
        intro run member
        have names := enforceEach_runs env input ids (position + 1)
          (store.enforceOne env position input id)
        exact names ▸ List.mem_map_of_mem member
      refine ⟨_, ?_, MemoryControl.Commanded.cons env input new named later⟩
      show (enforceEach env input (position + 1) ids _).2.controlCommands = _
      rw [added, ← List.append_assoc]
      rfl

end Loop

/-! ### Exactness -/

/-- The call removes the row: it belongs to a covered organization and is older than the cutoff
of that organization. -/
def MemoryControl.removes (store : MemoryControl) (input : RetentionInput) (kind : RetainedKind)
    (row : kind.Row) : Bool :=
  store.removedBy input.now (store.covered input) kind row

/-- What a call does to the repository and what it reports. -/
structure RetentionOutcome (env : RetentionEnv) (input : RetentionInput)
    (store after : MemoryControl) (runs : List RetentionRun) : Prop where
  covers : runs.map RetentionRun.organizationId = store.covered input
  removed : ∀ kind, kind ≠ .auditEvents → after.retained kind =
    (store.retained kind).filter fun row => !store.removes input kind row
  audited : after.retained .auditEvents =
    ((store.retained .auditEvents).filter fun row => !store.removes input .auditEvents row) ++
      runs.mapIdx fun index run => run.audit (env.audit index) input
  counted : ∀ run ∈ runs, ∀ kind, run.deletedCounts kind =
    ((store.retained kind).filter fun row =>
      store.overdue input.now run.organizationId kind row).length
  backups : after.backupRecords = store.backupRecords.map fun backup =>
    if store.expiredBy input.now (store.covered input) backup then backup.expire else backup
  commands : ∃ commands, after.controlCommands = store.controlCommands ++ commands ∧
    store.Commanded input.now (store.covered input) runs commands
  frame : after =
    { store with
      retained := after.retained
      retentionRuns := store.retentionRuns ++ runs
      controlCommands := after.controlCommands
      backupRecords := after.backupRecords }

theorem enforceRetentionPolicies_outcome (env : RetentionEnv) (input : RetentionInput)
    (store : MemoryControl) :
    RetentionOutcome env input store (enforceRetentionPolicies env input store).2
      (enforceRetentionPolicies env input store).1 := by
  have nodup : (store.covered input).Nodup := store.organizations_nodup.filter _
  refine ⟨enforceEach_runs env input _ 0 store, ?_, ?_, ?_, enforceEach_backups env input _ 0 store,
    enforceEach_commands env input _ 0 store nodup, enforceEach_frame env input _ 0 store⟩
  · exact fun kind other => enforceEach_retained env input other _ 0 store
  · have rows := enforceEach_audits env input (store.covered input) 0 store
    simp only [Nat.zero_add] at rows
    exact rows
  · exact fun run member kind => enforceEach_counts env input kind _ 0 store nodup run member

/-- A repository in which a call at some time finds nothing to do. -/
structure MemoryControl.Settled (store : MemoryControl) (input : RetentionInput) : Prop where
  rows : ∀ kind, ∀ row ∈ store.retained kind, store.removes input kind row = false
  backups : ∀ backup ∈ store.backupRecords,
    store.expiredBy input.now (store.covered input) backup = false

/-- After a call there is nothing left to do at its time. -/
theorem RetentionOutcome.settled {env : RetentionEnv} {input : RetentionInput}
    {store after : MemoryControl} {runs : List RetentionRun}
    (outcome : RetentionOutcome env input store after runs) : after.Settled input := by
  have removes : ∀ kind row, after.removes input kind row = store.removes input kind row := by
    intro kind row
    rw [outcome.frame]
    rfl
  have expires : ∀ backup, after.expiredBy input.now (after.covered input) backup =
      store.expiredBy input.now (store.covered input) backup := by
    intro backup
    rw [outcome.frame]
    rfl
  constructor
  · intro kind row member
    rw [removes]
    by_cases audit : kind = .auditEvents
    · subst audit
      rw [outcome.audited] at member
      rcases List.mem_append.mp member with old | new
      · simpa using (List.mem_filter.mp old).2
      · obtain ⟨index, inside, same⟩ := List.mem_mapIdx.mp new
        unfold MemoryControl.removes MemoryControl.removedBy
        rw [List.any_eq_false]
        intro id _
        rw [MemoryControl.overdue_now .auditEvents (by rw [← same]; rfl)]
        exact Bool.false_ne_true
    · rw [outcome.removed kind audit] at member
      simpa using (List.mem_filter.mp member).2
  · intro backup member
    rw [expires]
    rw [outcome.backups] at member
    obtain ⟨old, -, rfl⟩ := List.mem_map.mp member
    split
    · exact MemoryControl.expiredBy_expire
    · rename_i skipped
      simpa using skipped

/-- What a call does where there is nothing to do: it reports zeros, and adds an audit row for
each run. -/
structure RetentionIdle (env : RetentionEnv) (input : RetentionInput)
    (store after : MemoryControl) (runs : List RetentionRun) : Prop where
  rows : ∀ kind, kind ≠ .auditEvents → after.retained kind = store.retained kind
  audits : after.retained .auditEvents = store.retained .auditEvents ++
    runs.mapIdx fun index run => run.audit (env.audit index) input
  backups : after.backupRecords = store.backupRecords
  commands : after.controlCommands = store.controlCommands
  counts : ∀ run ∈ runs, (∀ kind, run.deletedCounts kind = 0) ∧ run.backupExpirationCommands = 0

theorem RetentionOutcome.idle {env : RetentionEnv} {input : RetentionInput}
    {store after : MemoryControl} {runs : List RetentionRun}
    (outcome : RetentionOutcome env input store after runs) (settled : store.Settled input) :
    RetentionIdle env input store after runs := by
  have kept : ∀ kind, ((store.retained kind).filter fun row =>
      !store.removes input kind row) = store.retained kind := by
    intro kind
    rw [List.filter_eq_self]
    intro row member
    rw [settled.rows kind row member]
    rfl
  have none : (store.backupRecords.filter fun backup =>
      store.expiredBy input.now (store.covered input) backup) = [] := by
    rw [List.filter_eq_nil_iff]
    intro backup member
    rw [settled.backups backup member]
    exact Bool.false_ne_true
  obtain ⟨commands, added, commanded⟩ := outcome.commands
  have noCommands : commands = [] := by
    have names := commanded.backups
    rw [none] at names
    exact List.map_eq_nil_iff.mp names.eq_nil
  refine ⟨?_, ?_, ?_, ?_, ?_⟩
  · intro kind other
    rw [outcome.removed kind other, kept]
  · rw [outcome.audited, kept]
  · rw [outcome.backups]
    conv_rhs => rw [← List.map_id store.backupRecords]
    refine List.map_congr_left fun backup member => ?_
    rw [settled.backups backup member]
    rfl
  · rw [added, noCommands, List.append_nil]
  · intro run member
    constructor
    · intro kind
      rw [outcome.counted run member kind, List.length_eq_zero_iff, List.filter_eq_nil_iff]
      intro row stored overdue
      have covered : run.organizationId ∈ store.covered input :=
        outcome.covers ▸ List.mem_map_of_mem member
      have free := settled.rows kind row stored
      unfold MemoryControl.removes MemoryControl.removedBy at free
      rw [List.any_eq_false] at free
      exact free _ covered overdue
    · rw [commanded.counted run member, noCommands]
      rfl

/-- A call removes exactly the rows of the six kinds that belong to a covered organization and
are older than its cutoff, by the policy of the organization or by the default one, and expires
exactly the backups that are due; it counts what it removes, and leaves everything else. A
second call at the same time removes nothing and issues no command. -/
theorem enforceRetentionPolicies_exact (env env' : RetentionEnv) (input : RetentionInput)
    (actorUserId : Option String) (reason : String) (store : MemoryControl) :
    let (runs, after) := enforceRetentionPolicies env input store
    let again := { input with actorUserId := actorUserId, reason := reason }
    let (runs', after') := enforceRetentionPolicies env' again after
    RetentionOutcome env input store after runs ∧
      RetentionIdle env' again after after' runs' := by
  have outcome := enforceRetentionPolicies_outcome env input store
  have settled := outcome.settled
  exact ⟨outcome, (enforceRetentionPolicies_outcome env' _ _).idle
    ⟨settled.rows, settled.backups⟩⟩

/-! ### Organizations without a policy -/

/-- One organization, which set no policy, and its heartbeat of the first day. -/
def sampleRetention : MemoryControl :=
  { organizations := ["org-1"]
    organizations_nodup := by decide
    retentionPolicies := fun _ => none
    retained := fun kind =>
      match kind with
      | .heartbeats => [{ id := "heartbeat-1", organizationId := "org-1", receivedAt := some 0 }]
      | .resourceSamples => []
      | .telemetryEvents => []
      | .usageRollups => []
      | .sensitiveAccessEvents => []
      | .auditEvents => []
    retentionRuns := []
    agents := []
    runtimes := []
    agentSkillPreferences := []
    controlDeployments := []
    configRevisions := []
    controlCommands := []
    controlApprovals := []
    commandReceipts := []
    backupRecords := []
    backupRestoreRuns := []
    releaseManifests := []
    upstreamCandidates := []
    runtimeCredentials := [] }

/-- Random values for a call on one organization. -/
def sampleRetentionEnv : RetentionEnv :=
  { run := fun index => .numbered (3 * index)
    audit := fun index => .numbered (3 * index + 1)
    command := fun index _ => .numbered (3 * index + 2) }

/-- A scheduled call, 31 days later. -/
def sampleRetentionInput : RetentionInput :=
  { organizationId := none, now := 31 * (24 * 60 * 60000), actorUserId := none
    reason := "Scheduled retention enforcement" }

/-- The heartbeat of an organization without a policy is removed under the default policy. -/
theorem retention_without_policy :
    sampleRetention.retentionPolicies "org-1" = none ∧
      sampleRetention.retained .heartbeats ≠ [] ∧
      (enforceRetentionPolicies sampleRetentionEnv sampleRetentionInput
        sampleRetention).2.retained .heartbeats = [] := by
  refine ⟨rfl, List.cons_ne_nil _ _, ?_⟩
  rw [(enforceRetentionPolicies_outcome _ _ _).removed .heartbeats (by decide)]
  decide

end BairuiPlatform
