/-
Module: BairuiPlatform.Operations.Rows
Purpose: The arrays and maps of MemoryPlatformRepository that control operations, their
  delivery and the retention policies read and write.
Trusted boundary: none
Main exports: RetainedKind, RetentionPolicy, MemoryCommand, MemoryBackup, MemoryControl
-/
import BairuiPlatform.Schema

namespace BairuiPlatform

open Foundations

/-! ### Times -/

/-- `Date.parse` of a text, in milliseconds. A text that is no date gives none (`NaN`). -/
abbrev ParsedTime := Option Int

/-! ### Rows that retention removes -/

/-- `DEFAULT_RETENTION` and the policies that organizations set. -/
structure RetentionPolicy where
  telemetryDays : Nat
  usageDays : Nat
  auditDays : Nat
  sensitiveAccessEventDays : Nat
  backupDays : Nat
  updatedBy : Option String
deriving Repr, DecidableEq

/-- What `retentionCutoffs` returns. -/
structure RetentionCutoffs where
  telemetry : Int
  usage : Int
  audit : Int
  sensitiveAccess : Int
  backup : Int
deriving Repr, DecidableEq

/-- The fields of `deletedCounts`, one for each array that is purged. -/
inductive RetainedKind where
  | heartbeats | resourceSamples | telemetryEvents | usageRollups | sensitiveAccessEvents
  | auditEvents
deriving Repr, DecidableEq

/-- A heartbeat or a resource sample. -/
structure MemoryReceivedRow where
  id : String
  organizationId : String
  receivedAt : ParsedTime
deriving Repr, DecidableEq

/-- A telemetry event. Its source may not say when it occurred. -/
structure MemoryTelemetryRow where
  id : String
  organizationId : String
  occurredAt : Option ParsedTime
  receivedAt : ParsedTime
deriving Repr, DecidableEq

/-- A usage rollup. -/
structure MemoryRollupRow where
  id : String
  organizationId : String
  bucketStart : ParsedTime
deriving Repr, DecidableEq

/-- An access to sensitive content. -/
structure MemorySensitiveAccessRow where
  id : String
  organizationId : String
  createdAt : ParsedTime
deriving Repr, DecidableEq

/-- The metadata of an audit row: those of a retention run, or any others. -/
inductive AuditMetadata where
  | retention (reason : String) (deletedCounts : RetainedKind → Nat)
      (backupExpirationCommands : Nat) (cutoffs : RetentionCutoffs)
  | other (value : Json)

/-- An audit row of the memory repository. -/
structure MemoryAuditRow where
  id : String
  organizationId : String
  actorUserId : Option String
  action : String
  targetType : String
  targetId : Option String
  metadata : AuditMetadata
  createdAt : ParsedTime

namespace RetainedKind

/-- The rows of a kind. -/
abbrev Row : RetainedKind → Type
  | heartbeats => MemoryReceivedRow
  | resourceSamples => MemoryReceivedRow
  | telemetryEvents => MemoryTelemetryRow
  | usageRollups => MemoryRollupRow
  | sensitiveAccessEvents => MemorySensitiveAccessRow
  | auditEvents => MemoryAuditRow

/-- The organization of a row. -/
def organizationId : (kind : RetainedKind) → kind.Row → String
  | heartbeats => MemoryReceivedRow.organizationId
  | resourceSamples => MemoryReceivedRow.organizationId
  | telemetryEvents => MemoryTelemetryRow.organizationId
  | usageRollups => MemoryRollupRow.organizationId
  | sensitiveAccessEvents => MemorySensitiveAccessRow.organizationId
  | auditEvents => MemoryAuditRow.organizationId

/-- The time that retention compares: `receivedAt`, `occurredAt ?? receivedAt`, `bucketStart`
or `createdAt`. -/
def stamp : (kind : RetainedKind) → kind.Row → ParsedTime
  | heartbeats => MemoryReceivedRow.receivedAt
  | resourceSamples => MemoryReceivedRow.receivedAt
  | telemetryEvents => fun row : MemoryTelemetryRow => row.occurredAt.getD row.receivedAt
  | usageRollups => MemoryRollupRow.bucketStart
  | sensitiveAccessEvents => MemorySensitiveAccessRow.createdAt
  | auditEvents => MemoryAuditRow.createdAt

/-- The cutoff that a row is compared with. -/
def cutoff : RetainedKind → RetentionCutoffs → Int
  | heartbeats => RetentionCutoffs.telemetry
  | resourceSamples => RetentionCutoffs.telemetry
  | telemetryEvents => RetentionCutoffs.telemetry
  | usageRollups => RetentionCutoffs.usage
  | sensitiveAccessEvents => RetentionCutoffs.sensitiveAccess
  | auditEvents => RetentionCutoffs.audit

end RetainedKind

/-- A retention run that succeeded. -/
structure RetentionRun where
  id : String
  organizationId : String
  cutoffs : RetentionCutoffs
  deletedCounts : RetainedKind → Nat
  backupExpirationCommands : Nat
  startedAt : Int

/-! ### Control operations -/

/-- A configuration revision. The document keeps what an owner changed: the scope. -/
structure MemoryConfigRevision where
  id : String
  organizationId : String
  agentId : String
  revision : Nat
  configDocument : Json
  status : String
  createdBy : String

/-- A control command. Those of lifecycle requests name no organization, key or requester. -/
structure MemoryCommand where
  id : String
  organizationId : Option String
  deploymentId : String
  agentId : String
  idempotencyKey : Option String
  action : Action
  arguments : Json
  approvalId : Option String
  expectedObservationVersion : Nat
  state : CommandState
  priority : Int
  attempt : Nat
  leaseServerId : Option String
  leaseExpiresAt : Option Int
  requestedBy : Option String
  expiresAt : Int
  createdAt : Int

/-- A control approval. -/
structure MemoryApproval where
  id : String
  organizationId : String
  commandId : String
  action : Action
  riskLevel : RiskLevel
  requestedBy : String
  decidedBy : Option String
  decision : Decision
  reason : String
  expiresAt : Int
  decidedAt : Option Int
  createdAt : Int

/-- The states of the delivery protocol that a receipt reports. -/
inductive DeliveryState where
  | accepted | running | succeeded | failed | cancelled | expired
deriving Repr, DecidableEq

/-- `command.state = input.state`. -/
def DeliveryState.command : DeliveryState → CommandState
  | accepted => .accepted
  | running => .running
  | succeeded => .succeeded
  | failed => .failed
  | cancelled => .cancelled
  | expired => .expired

/-- A receipt of a command. -/
structure MemoryReceipt where
  id : String
  commandId : String
  deploymentId : String
  serverId : String
  attempt : Nat
  state : DeliveryState
  createdAt : Int

/-- `backup.status`. -/
inductive BackupStatus where
  | creating | created | verifying | verified | failed | expiring | expired
deriving Repr, DecidableEq

/-- A backup record. -/
structure MemoryBackup where
  id : String
  deploymentId : String
  status : BackupStatus
  createdAt : ParsedTime
deriving Repr, DecidableEq

/-- `restore.status`. -/
inductive RestoreStatus where
  | requested | running | succeeded | failed | cancelled
deriving Repr, DecidableEq

/-- A restore of a backup. -/
structure MemoryRestore where
  id : Option String
  backupId : Option String
  deploymentId : String
  commandId : String
  status : RestoreStatus
  requestedBy : String
deriving Repr, DecidableEq

/-- A skill that the owner of an agent turned on or off. -/
structure SkillPreferenceRow where
  agentId : String
  skillId : String
  enabled : Bool
deriving Repr, DecidableEq

/-! ### The repository -/

/-- The fields of MemoryPlatformRepository. The keys of a map are distinct. -/
structure MemoryControl where
  organizations : List String
  organizations_nodup : organizations.Nodup
  retentionPolicies : String → Option RetentionPolicy
  retained : (kind : RetainedKind) → List kind.Row
  retentionRuns : List RetentionRun
  agents : List AgentRow
  runtimes : List RuntimeRow
  agentSkillPreferences : List SkillPreferenceRow
  controlDeployments : List DeploymentRow
  configRevisions : List MemoryConfigRevision
  controlCommands : List MemoryCommand
  controlApprovals : List MemoryApproval
  commandReceipts : List MemoryReceipt
  backupRecords : List MemoryBackup
  backupRestoreRuns : List MemoryRestore
  releaseManifests : List ReleaseManifestRow
  upstreamCandidates : List UpstreamCandidateRow
  runtimeCredentials : List RuntimeCredentialRow

end BairuiPlatform
