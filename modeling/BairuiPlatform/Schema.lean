/-
Module: BairuiPlatform.Schema
Purpose: The rows of the control-plane tables after migration 021, and the
  database that holds them.
Trusted boundary: none
Main exports: the enumerations of the CHECK constraints, the row types, Journal, Db
-/
import BairuiPlatform.Clock
import BairuiPlatform.Policy

namespace BairuiPlatform

/-! ### Enumerations of the CHECK constraints -/

/-- `control_deployments.status`. -/
inductive DeploymentStatus where
  | enrolling | active | degraded | offline | revoked
deriving Repr, DecidableEq

/-- The two repositories of the platform. -/
inductive Repository where
  | memory
  | postgres
deriving Repr, DecidableEq

/-- `agents.initialization_status`. -/
inductive InitializationStatus where
  | uninitialized | provisioning | ready | degraded | failed | deleting
deriving Repr, DecidableEq

/-- `agents.desired_runtime_state`. -/
inductive DesiredRuntimeState where
  | running | stopped | suspended | deleted
deriving Repr, DecidableEq

/-- `agent_runtimes.status`, and the values that `agents.status` takes in the
control paths. -/
inductive RuntimeStatus where
  | uninitialized | provisioning | starting | ready | degraded | stopped
  | suspended | failed | deleting | deleted
deriving Repr, DecidableEq

/-- `desired_states.state`. -/
inductive TargetState where
  | provisioned | running | stopped | suspended | deleted
deriving Repr, DecidableEq

/-- The text of a target state. -/
def TargetState.name : TargetState → String
  | provisioned => "provisioned"
  | running => "running"
  | stopped => "stopped"
  | suspended => "suspended"
  | deleted => "deleted"

/-- `desired_states.lifecycle_status`. -/
inductive LifecycleStatus where
  | proposed | accepted | active | superseded | rejected
deriving Repr, DecidableEq

/-- The text of a lifecycle status. -/
def LifecycleStatus.name : LifecycleStatus → String
  | proposed => "proposed"
  | accepted => "accepted"
  | active => "active"
  | superseded => "superseded"
  | rejected => "rejected"

/-- `observations.status`. -/
inductive ObservationStatus where
  | healthy | degraded | unhealthy | unknown
deriving Repr, DecidableEq

/-- The text of an observation status. -/
def ObservationStatus.name : ObservationStatus → String
  | healthy => "healthy"
  | degraded => "degraded"
  | unhealthy => "unhealthy"
  | unknown => "unknown"

/-- `observations.freshness`. -/
inductive Freshness where
  | fresh | stale | invalid
deriving Repr, DecidableEq

/-- The text of a freshness. -/
def Freshness.name : Freshness → String
  | fresh => "fresh"
  | stale => "stale"
  | invalid => "invalid"

/-- `control_commands.state`. -/
inductive CommandState where
  | queued | leased | accepted | running | verifying
  | succeeded | failed | cancelled | expired
deriving Repr, DecidableEq

/-- The text of a command state. -/
def CommandState.name : CommandState → String
  | queued => "queued"
  | leased => "leased"
  | accepted => "accepted"
  | running => "running"
  | verifying => "verifying"
  | succeeded => "succeeded"
  | failed => "failed"
  | cancelled => "cancelled"
  | expired => "expired"

/-- `control_commands.verification_state` and `command_verifications.status`. -/
inductive VerificationState where
  | pending | checking | verified | failed | stale | blocked
deriving Repr, DecidableEq

/-- The text of a verification state. -/
def VerificationState.name : VerificationState → String
  | pending => "pending"
  | checking => "checking"
  | verified => "verified"
  | failed => "failed"
  | stale => "stale"
  | blocked => "blocked"

/-- `control_command_leases.state`. -/
inductive LeaseState where
  | active | consumed | expired | revoked
deriving Repr, DecidableEq

/-- `command_attempts.state`. -/
inductive AttemptState where
  | leased | accepted | running | succeeded | failed | cancelled | expired
deriving Repr, DecidableEq

/-- `command_receipts.state`. -/
inductive ReceiptState where
  | accepted | running | executing | completionCandidate
  | succeeded | failed | cancelled | expired
deriving Repr, DecidableEq

/-- The text of a receipt state. -/
def ReceiptState.name : ReceiptState → String
  | accepted => "accepted"
  | running => "running"
  | executing => "executing"
  | completionCandidate => "completion_candidate"
  | succeeded => "succeeded"
  | failed => "failed"
  | cancelled => "cancelled"
  | expired => "expired"

/-- `control_approvals.risk_level`. -/
inductive RiskLevel where
  | low | medium | high | critical
deriving Repr, DecidableEq

/-- The text of a risk level. -/
def RiskLevel.name : RiskLevel → String
  | low => "low"
  | medium => "medium"
  | high => "high"
  | critical => "critical"

/-- `control_approvals.decision`. -/
inductive Decision where
  | pending | approved | rejected | expired
deriving Repr, DecidableEq

/-- The text of a decision. -/
def Decision.name : Decision → String
  | pending => "pending"
  | approved => "approved"
  | rejected => "rejected"
  | expired => "expired"

/-- `control_outbox.state`. -/
inductive OutboxState where
  | pending | processing | retry | published | deadLetter
deriving Repr, DecidableEq

/-! ### Rows -/

/-- `agents`. -/
structure AgentRow where
  id : String
  organizationId : String
  ownerUserId : String
  name : String
  soulMarkdown : String
  status : RuntimeStatus
  initializationStatus : InitializationStatus
  desiredRuntimeState : DesiredRuntimeState
deriving Repr, DecidableEq

/-- `agent_runtimes`. -/
structure RuntimeRow where
  id : String
  organizationId : String
  ownerUserId : String
  agentId : String
  deploymentId : Option String
  workspaceRef : String
  status : RuntimeStatus
  configRevisionId : Option String
  endpointRef : Option String
deriving Repr, DecidableEq

/-- `servers`. -/
structure ServerRow where
  id : String
  organizationId : String
  available : Bool
  lastSeenAt : Option Nat
  createdAt : Nat
deriving Repr, DecidableEq

/-- `control_deployments`. -/
structure DeploymentRow where
  id : String
  organizationId : String
  serverId : Option String
  agentId : String
  name : String
  status : DeploymentStatus
  desiredStateVersion : Nat
  observedStateVersion : Nat
  createdAt : Nat
  updatedAt : Nat
deriving Repr, DecidableEq

/-- `config_revisions`. -/
structure ConfigRevisionRow where
  id : String
  organizationId : String
  agentId : String
  revision : Nat
  configDocument : Json
  contentHash : String
deriving Repr

/-- `release_manifests`. -/
structure ReleaseManifestRow where
  id : String
  version : String
  imageDigest : String
  status : String
  immutable : Bool
  channel : String
  contractsVersion : String
  artifacts : Json
  compatibility : Json
  createdAt : Nat
deriving Repr

/-- `backup_records`. -/
structure BackupRow where
  id : String
  deploymentId : String
  verified : Bool
deriving Repr, DecidableEq

/-- `upstream_candidates`. -/
structure UpstreamCandidateRow where
  id : String
  upstreamId : String
deriving Repr, DecidableEq

/-- `agent_runtime_credentials`. -/
structure RuntimeCredentialRow where
  id : String
  agentId : String
  runtimeId : String
  keyHash : String
  active : Bool
deriving Repr, DecidableEq

/-- `control_secret_references`. -/
structure SecretReferenceRow where
  id : String
  organizationId : String
  deploymentId : Option String
  agentId : String
  purpose : String
  version : Nat
  state : String
  masked : String
  fingerprint : String
  authorizedIdentity : Option String
  lastVerifiedAt : Option Nat
  expiresAt : Option Nat
  createdAt : Nat
deriving Repr, DecidableEq

/-- `desired_states`. -/
structure DesiredStateRow where
  id : String
  organizationId : String
  deploymentId : String
  idempotencyKey : String
  version : Nat
  sequence : Nat
  state : TargetState
  lifecycleStatus : LifecycleStatus
  configRevisionId : Option String
  releaseManifestId : Option String
  backupId : Option String
  moduleVersions : Json
  modules : Json
  createdBy : String
deriving Repr

/-- `observations`. -/
structure ObservationRow where
  id : String
  organizationId : String
  deploymentId : String
  idempotencyKey : String
  version : Nat
  sequence : Nat
  desiredStateVersion : Nat
  status : ObservationStatus
  freshness : Freshness
  freshnessSeconds : Nat
  summary : Json
  modules : Json
  evidenceRefs : List String
  sourceIdentity : String
  observedAt : Nat
  receivedAt : Nat
deriving Repr

/-- `control_commands`. -/
structure CommandRow where
  id : String
  deploymentId : String
  idempotencyKey : String
  action : Action
  targetModuleId : String
  targetInstanceId : Option String
  arguments : Json
  secretRefs : List String
  approvalId : Option String
  expectedObservationVersion : Nat
  state : CommandState
  verificationState : VerificationState
  priority : Int
  leaseServerId : Option String
  leaseExpiresAt : Option Nat
  notBefore : Nat
  expiresAt : Nat
  requestedBy : String
  completionCandidateAt : Option Nat
  finalizedAt : Option Nat
  createdAt : Nat
deriving Repr

/-- `control_approvals`. -/
structure ApprovalRow where
  id : String
  organizationId : Option String
  commandId : String
  idempotencyKey : Option String
  action : Option Action
  riskLevel : RiskLevel
  requestedBy : String
  decidedBy : Option String
  decision : Decision
  reason : String
  reasonCode : Option String
  reasonRef : Option String
  scope : Json
  expiresAt : Nat
  decidedAt : Option Nat
  createdAt : Nat
deriving Repr

/-- `control_command_leases`. -/
structure LeaseRow where
  id : String
  commandId : String
  deploymentId : String
  serverId : String
  attempt : Nat
  tokenHash : String
  state : LeaseState
  issuedAt : Nat
  expiresAt : Nat
  consumedAt : Option Nat
deriving Repr, DecidableEq

/-- `command_attempts`. -/
structure AttemptRow where
  id : String
  commandId : String
  attempt : Nat
  state : AttemptState
  errorCode : Option String
  errorSummary : Option String
  evidenceRefs : List String
  startedAt : Option Nat
  completedAt : Option Nat
deriving Repr, DecidableEq

/-- `command_receipts`. -/
structure ReceiptRow where
  id : String
  commandId : String
  deploymentId : String
  serverId : String
  leaseId : Option String
  attempt : Nat
  state : ReceiptState
  idempotencyKey : Option String
  eventSequence : Option Nat
  evidenceRefs : List String
  resultRef : Option String
  endpointRef : Option String
  sourceIdentity : Option String
  observationVersion : Option Nat
  errorCode : Option String
  errorRef : Option String
  errorSummary : Option String
  resultSummary : Json
  completionCandidate : Bool
  observedAt : Option Nat
  completedAt : Option Nat
  createdAt : Nat
deriving Repr

/-- `command_verifications`. -/
structure VerificationRow where
  id : String
  commandId : String
  deploymentId : String
  attempt : Nat
  receiptId : String
  observationId : Option String
  expectedObservationVersion : Nat
  observationVersion : Option Nat
  status : VerificationState
  checks : Json
  evidenceRefs : List String
  verifiedBy : Option String
  completedAt : Option Nat
deriving Repr

/-- `control_events`. -/
structure EventRow where
  id : String
  organizationId : String
  agentId : String
  serverId : Option String
  deploymentId : String
  commandId : Option String
  requestId : String
  correlationId : String
  idempotencyKey : String
  sourceIdentity : Option String
  attempt : Option Nat
  leaseId : Option String
  leaseTokenRef : Option String
  observationVersion : Option Nat
  eventSequence : Nat
  eventType : String
  state : Option String
  summary : Json
  evidenceRefs : List String
  occurredAt : Nat
deriving Repr

/-- `control_outbox`. -/
structure OutboxRow where
  id : String
  organizationId : String
  deploymentId : Option String
  eventId : Option String
  aggregateType : String
  aggregateId : String
  eventType : String
  idempotencyKey : String
  body : Json
  state : OutboxState
  attempts : Nat
  maxAttempts : Nat
  availableAt : Nat
  leaseTokenHash : Option String
  leaseExpiresAt : Option Nat
  lastErrorCode : Option String
  publishedAt : Option Nat
  createdAt : Nat
deriving Repr

/-- `control_dead_letters`. -/
structure DeadLetterRow where
  id : String
  outboxId : String
  organizationId : String
  deploymentId : Option String
  eventType : String
  body : Json
  errorCode : String
  errorSummary : String
deriving Repr

/-- `control_audit_events`. -/
structure AuditRow where
  id : String
  organizationId : String
  deploymentId : Option String
  sequence : Nat
  actorIdentity : Option String
  action : String
  aggregateType : String
  aggregateId : String
  metadata : Json
  previousHash : Option String
  eventHash : String
  createdAt : Nat
deriving Repr

/-- `control_idempotency_records`. -/
structure IdempotencyRow where
  id : String
  mutator : String
  organizationId : String
  deploymentId : Option String
  idempotencyKey : String
  requestHash : String
  aggregateType : String
  aggregateId : String
  resultRef : Option String
deriving Repr, DecidableEq

/-! ### The database -/

/-- The tables that every state change of the Authority appends to. -/
structure Journal where
  events : List EventRow
  outbox : List OutboxRow
  deadLetters : List DeadLetterRow
  audits : List AuditRow
  idempotency : List IdempotencyRow
deriving Repr

/-- The tables of the control plane. Rows stand in the order of their insertion. -/
structure Db where
  agents : List AgentRow
  runtimes : List RuntimeRow
  servers : List ServerRow
  deployments : List DeploymentRow
  configRevisions : List ConfigRevisionRow
  releaseManifests : List ReleaseManifestRow
  backups : List BackupRow
  upstreamCandidates : List UpstreamCandidateRow
  runtimeCredentials : List RuntimeCredentialRow
  secretReferences : List SecretReferenceRow
  desiredStates : List DesiredStateRow
  observations : List ObservationRow
  commands : List CommandRow
  approvals : List ApprovalRow
  leases : List LeaseRow
  attempts : List AttemptRow
  receipts : List ReceiptRow
  verifications : List VerificationRow
  journal : Journal
deriving Repr

/-- Why a statement or a check of a callback failed: an error of the code, or a
violated constraint or trigger of the schema. -/
inductive Failure where
  | control (error : ControlError)
  | violation (constraint : String)
deriving Repr, DecidableEq

end BairuiPlatform
