/-
Module: BairuiPlatform.Authority.Requests
Purpose: The arguments of the mutators of ControlAuthorityRepository, and the JSON
  value of each that its request hash digests.
Trusted boundary: none
Main exports: Envelope, DesiredStateInput, ObservationInput, CommandInput,
  ApprovalDecisionInput, ReleaseManifestInput, SecretReferenceInput, LeaseInput,
  ReceiptInput, VerificationInput
-/
import BairuiPlatform.Schema

namespace BairuiPlatform

/-- The text of an instant, or null. -/
def Json.ofInstant? : Option Nat → Json
  | some instant => .str (isoString instant)
  | none => .null

/-- The fields that `normalizeEnvelope` passes on with every mutation. -/
structure Envelope where
  schemaVersion : String
  organizationId : String
  userId : String
  agentId : String
  serverId : String
  requestId : String
  correlationId : String
  idempotencyKey : String
  createdAt : Nat
  revision : Nat
  sequence : Nat

/-- The fields of an envelope as JSON properties. -/
def Envelope.fields (envelope : Envelope) : List (String × Json) :=
  [("schemaVersion", .str envelope.schemaVersion),
    ("organizationId", .str envelope.organizationId), ("userId", .str envelope.userId),
    ("agentId", .str envelope.agentId), ("serverId", .str envelope.serverId),
    ("requestId", .str envelope.requestId), ("correlationId", .str envelope.correlationId),
    ("idempotencyKey", .str envelope.idempotencyKey),
    ("createdAt", .str (isoString envelope.createdAt)), ("revision", .num envelope.revision),
    ("sequence", .num envelope.sequence)]

/-- The argument of `createDesiredState`. -/
structure DesiredStateInput extends Envelope where
  deploymentId : String
  version : Nat
  lifecycleStatus : LifecycleStatus
  state : TargetState
  configRevisionId : Option String
  releaseManifestId : Option String
  backupId : Option String
  moduleVersions : Json
  modules : Json
  validFrom : Nat
  expiresAt : Option Nat
  updatedAt : Nat
  createdBy : String

/-- The request as a JSON value. -/
def DesiredStateInput.toJson (input : DesiredStateInput) : Json :=
  .obj (input.fields ++
    [("deploymentId", .str input.deploymentId), ("version", .num input.version),
      ("lifecycleStatus", .str input.lifecycleStatus.name), ("state", .str input.state.name),
      ("configRevisionId", .ofText? input.configRevisionId),
      ("releaseManifestId", .ofText? input.releaseManifestId),
      ("backupId", .ofText? input.backupId), ("moduleVersions", input.moduleVersions),
      ("modules", input.modules), ("validFrom", .str (isoString input.validFrom)),
      ("expiresAt", .ofInstant? input.expiresAt), ("updatedAt", .str (isoString input.updatedAt)),
      ("createdBy", .str input.createdBy)])

/-- The argument of `recordObservation`. -/
structure ObservationInput extends Envelope where
  id : String
  deploymentId : String
  version : Nat
  desiredStateVersion : Nat
  status : ObservationStatus
  freshness : Freshness
  modules : Json
  summary : Json
  evidenceRefs : List String
  redactionStatus : String
  observedAt : Nat
  receivedAt : Nat
  freshnessSeconds : Nat
  sourceIdentity : String

/-- The request as a JSON value. -/
def ObservationInput.toJson (input : ObservationInput) : Json :=
  .obj (input.fields ++
    [("id", .str input.id), ("deploymentId", .str input.deploymentId),
      ("version", .num input.version), ("desiredStateVersion", .num input.desiredStateVersion),
      ("status", .str input.status.name), ("freshness", .str input.freshness.name),
      ("modules", input.modules), ("summary", input.summary),
      ("evidenceRefs", .ofTexts input.evidenceRefs),
      ("redactionStatus", .str input.redactionStatus),
      ("observedAt", .str (isoString input.observedAt)),
      ("receivedAt", .str (isoString input.receivedAt)),
      ("freshnessSeconds", .num input.freshnessSeconds),
      ("sourceIdentity", .str input.sourceIdentity)])

/-- The pending approval that comes with a high-risk command. -/
structure PendingApproval where
  id : String
  riskLevel : RiskLevel
  reasonCode : String
  reasonRef : String
  expiresAt : Nat
  createdAt : Nat
  sequence : Nat
  idempotencyKey : String
  requestedBy : String
  scope : Json

/-- The pending approval as a JSON value. -/
def PendingApproval.toJson (approval : PendingApproval) : Json :=
  .obj [("id", .str approval.id), ("riskLevel", .str approval.riskLevel.name),
    ("reasonCode", .str approval.reasonCode), ("reasonRef", .str approval.reasonRef),
    ("expiresAt", .str (isoString approval.expiresAt)),
    ("createdAt", .str (isoString approval.createdAt)), ("sequence", .num approval.sequence),
    ("idempotencyKey", .str approval.idempotencyKey),
    ("requestedBy", .str approval.requestedBy), ("scope", approval.scope)]

/-- The argument of `createCommand`. -/
structure CommandInput extends Envelope where
  id : String
  deploymentId : String
  targetModuleId : String
  targetInstanceId : Option String
  action : Action
  arguments : Json
  expectedObservationVersion : Nat
  priority : Int
  notBefore : Nat
  expiresAt : Nat
  approval : Option PendingApproval
  secretRefs : List String

/-- The request as a JSON value. -/
def CommandInput.toJson (input : CommandInput) : Json :=
  .obj (input.fields ++
    [("id", .str input.id), ("deploymentId", .str input.deploymentId),
      ("targetModuleId", .str input.targetModuleId),
      ("targetInstanceId", .ofText? input.targetInstanceId),
      ("action", .str input.action.name), ("arguments", input.arguments),
      ("expectedObservationVersion", .num input.expectedObservationVersion),
      ("priority", .num input.priority), ("notBefore", .str (isoString input.notBefore)),
      ("expiresAt", .str (isoString input.expiresAt)),
      ("approval", (input.approval.map (·.toJson)).getD .null),
      ("secretRefs", .ofTexts input.secretRefs)])

/-- The argument of `decideApproval`; `decision` is approved or rejected. -/
structure ApprovalDecisionInput extends Envelope where
  approvalId : String
  commandId : String
  action : Action
  decision : Decision
  reasonCode : String
  reasonRef : Option String
  requestedBy : String
  decidedAt : Nat
  decidedBy : String
  scope : Json

/-- The request as a JSON value. -/
def ApprovalDecisionInput.toJson (input : ApprovalDecisionInput) : Json :=
  .obj (input.fields ++
    [("approvalId", .str input.approvalId), ("commandId", .str input.commandId),
      ("action", .str input.action.name), ("decision", .str input.decision.name),
      ("reasonCode", .str input.reasonCode), ("reasonRef", .ofText? input.reasonRef),
      ("requestedBy", .str input.requestedBy),
      ("decidedAt", .str (isoString input.decidedAt)), ("decidedBy", .str input.decidedBy),
      ("scope", input.scope)])

/-- The argument of `createReleaseManifest`. -/
structure ReleaseManifestInput extends Envelope where
  id : String
  version : String
  channel : String
  status : String
  contractsVersion : String
  agentCommit : String
  artifacts : List Json
  sbomRef : Option String
  provenanceRef : Option String
  attestationRef : Option String
  migrationRef : Option String
  compatibility : Json
  releaseNotesRef : Option String
  createdBy : String

/-- The request as a JSON value. -/
def ReleaseManifestInput.toJson (input : ReleaseManifestInput) : Json :=
  .obj (input.fields ++
    [("id", .str input.id), ("version", .str input.version), ("channel", .str input.channel),
      ("status", .str input.status), ("contractsVersion", .str input.contractsVersion),
      ("immutable", .bool true), ("agentCommit", .str input.agentCommit),
      ("artifacts", .arr input.artifacts), ("sbomRef", .ofText? input.sbomRef),
      ("provenanceRef", .ofText? input.provenanceRef),
      ("attestationRef", .ofText? input.attestationRef),
      ("migrationRef", .ofText? input.migrationRef), ("compatibility", input.compatibility),
      ("releaseNotesRef", .ofText? input.releaseNotesRef),
      ("createdBy", .str input.createdBy)])

/-- The argument of `registerSecretReference`. -/
structure SecretReferenceInput extends Envelope where
  id : String
  deploymentId : Option String
  purpose : String
  version : Nat
  state : String
  masked : String
  fingerprint : String
  authorizedIdentity : Option String
  lastVerifiedAt : Option Nat
  expiresAt : Option Nat

/-- The request as a JSON value. -/
def SecretReferenceInput.toJson (input : SecretReferenceInput) : Json :=
  .obj (input.fields ++
    [("id", .str input.id), ("deploymentId", .ofText? input.deploymentId),
      ("purpose", .str input.purpose), ("version", .num input.version),
      ("state", .str input.state), ("masked", .str input.masked),
      ("fingerprint", .str input.fingerprint),
      ("authorizedIdentity", .ofText? input.authorizedIdentity),
      ("lastVerifiedAt", .ofInstant? input.lastVerifiedAt),
      ("expiresAt", .ofInstant? input.expiresAt)])

/-- The argument of `leaseCommands`. -/
structure LeaseInput where
  organizationId : String
  userId : String
  agentId : Option String
  serverId : String
  limit : Nat
  leaseSeconds : Nat

/-- The argument of `recordReceipt`. -/
structure ReceiptInput extends Envelope where
  id : String
  deploymentId : String
  leaseId : String
  leaseToken : String
  commandId : String
  attempt : Nat
  state : ReceiptState
  eventSequence : Nat
  sourceIdentity : String
  observationVersion : Option Nat
  observedAt : Nat
  completedAt : Option Nat
  evidenceRefs : List String
  resultRef : Option String
  endpointRef : Option String
  errorCode : Option String
  errorRef : Option String
  errorSummary : Option String
  resultSummary : Json

/-- The request as a JSON value. -/
def ReceiptInput.toJson (input : ReceiptInput) : Json :=
  .obj (input.fields ++
    [("id", .str input.id), ("deploymentId", .str input.deploymentId),
      ("leaseId", .str input.leaseId), ("leaseToken", .str input.leaseToken),
      ("commandId", .str input.commandId), ("attempt", .num input.attempt),
      ("state", .str input.state.name), ("eventSequence", .num input.eventSequence),
      ("sourceIdentity", .str input.sourceIdentity),
      ("observationVersion", .ofNat? input.observationVersion),
      ("observedAt", .str (isoString input.observedAt)),
      ("completedAt", .ofInstant? input.completedAt),
      ("evidenceRefs", .ofTexts input.evidenceRefs), ("resultRef", .ofText? input.resultRef),
      ("endpointRef", .ofText? input.endpointRef), ("errorCode", .ofText? input.errorCode),
      ("errorRef", .ofText? input.errorRef), ("errorSummary", .ofText? input.errorSummary),
      ("resultSummary", input.resultSummary)])

/-- The argument of `verifyCommand`; `status` is verified, failed, stale or blocked. -/
structure VerificationInput extends Envelope where
  id : String
  commandId : String
  attempt : Nat
  observationId : String
  status : VerificationState
  checks : Json
  evidenceRefs : List String
  verifiedBy : String
  completedAt : Nat
  maxFreshnessSeconds : Nat

/-- The request as a JSON value. -/
def VerificationInput.toJson (input : VerificationInput) : Json :=
  .obj (input.fields ++
    [("id", .str input.id), ("commandId", .str input.commandId),
      ("attempt", .num input.attempt), ("observationId", .str input.observationId),
      ("status", .str input.status.name), ("checks", input.checks),
      ("evidenceRefs", .ofTexts input.evidenceRefs), ("verifiedBy", .str input.verifiedBy),
      ("completedAt", .str (isoString input.completedAt)),
      ("maxFreshnessSeconds", .num input.maxFreshnessSeconds)])

end BairuiPlatform
