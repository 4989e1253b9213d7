/-
Module: BairuiPlatform.Authority.Aggregates
Purpose: Desired states, observations, release manifests and secret references:
  the mutators of ControlAuthorityRepository that do not touch commands.
Trusted boundary: none
Main exports: getDeploymentForUpdate, prepareDesiredStateRevision,
  createDesiredState, recordObservation, createReleaseManifest,
  registerSecretReference
-/
import BairuiPlatform.Authority.Journal
import BairuiPlatform.Authority.Requests

namespace BairuiPlatform

open Foundations

/-- A deployment together with the owner of its agent. -/
structure OwnedDeployment where
  deployment : DeploymentRow
  ownerUserId : String

/-- `control_deployments JOIN agents`, for one deployment. -/
def Db.ownedDeployment? (db : Db) (deploymentId : String) : Option OwnedDeployment := do
  let deployment ← db.deployments.find? fun row => row.id = deploymentId
  let agent ← db.agents.find? fun row => row.id = deployment.agentId
  return { deployment := deployment, ownerUserId := agent.ownerUserId }

/-- The error of `getDeploymentForUpdate` for a deployment outside the scope. -/
def deploymentScopeError : ControlError :=
  controlError "owner_mismatch"
    "Control deployment does not belong to the supplied owner scope" 404

/-- `getDeploymentForUpdate`. -/
def getDeploymentForUpdate (deploymentId organizationId agentId userId serverId : String) :
    Callback DeploymentRow := do
  let candidate ← Tx.read fun db =>
    (db.ownedDeployment? deploymentId).filter fun owned =>
      owned.deployment.organizationId = organizationId &&
        owned.deployment.agentId = agentId && owned.ownerUserId = userId
  let owned ← Tx.orRaise (.control deploymentScopeError) candidate
  -- `input.serverId` is compared only when it is a non-empty text.
  ensure (serverId = "" ∨ owned.deployment.serverId = some serverId) "server_mismatch"
    "Control deployment is assigned to another server" 409
  return owned.deployment

/-- The idempotency scope of a mutator. -/
def Envelope.scope (envelope : Envelope) (mutator requestHash : String) :
    IdempotencyScope :=
  { mutator := mutator
    organizationId := envelope.organizationId
    idempotencyKey := envelope.idempotencyKey
    requestHash := requestHash }

/-! ### Desired states -/

/-- The revision is the active one of the deployment. -/
def DesiredStateRow.isActiveOf (row : DesiredStateRow) (deploymentId : String) : Bool :=
  row.deploymentId = deploymentId && row.lifecycleStatus = .active

/-- The active revision of a deployment is superseded. -/
def supersedeActive (deploymentId : String) (rows : List DesiredStateRow) :
    List DesiredStateRow :=
  updateWhere (fun row => row.isActiveOf deploymentId)
    (fun row => { row with lifecycleStatus := .superseded }) rows

/-- The trigger `bairui_prepare_desired_state_revision`: an active revision
supersedes the one that was active. -/
def prepareDesiredStateRevision (row : DesiredStateRow) (rows : List DesiredStateRow) :
    List DesiredStateRow :=
  if row.lifecycleStatus = .active then supersedeActive row.deploymentId rows else rows

/-- `INSERT INTO desired_states`, triggers included. -/
def insertDesiredState [Host] (row : DesiredStateRow) : Callback Unit :=
  Tx.insert
    (fun db =>
      let rows := prepareDesiredStateRevision row db.desiredStates
      [(found (fun deployment => deployment.id = row.deploymentId) db.deployments,
          .violation "desired_states_prepare_revision"),
        (bairuiControlJsonIsSafe row.moduleVersions && bairuiControlJsonIsSafe row.modules,
          .violation "desired_states_safe_payload"),
        (row.lifecycleStatus ≠ .active || row.configRevisionId.isSome ||
            row.releaseManifestId.isSome || row.backupId.isSome ||
            !row.moduleVersions.isEmptyObject || !row.modules.isEmptyArray,
          .violation "desired_states_active_reference_check"),
        (decide (0 < row.version), .violation "desired_states_version_check"),
        (!found (fun other => other.id = row.id) rows,
          .violation "desired_states_pkey"),
        (!found (fun other => other.deploymentId = row.deploymentId &&
            other.version = row.version) rows,
          .violation "desired_states_deployment_id_version_key"),
        (!(row.lifecycleStatus = .active &&
            found (fun other => other.isActiveOf row.deploymentId) rows),
          .violation "desired_states_active_idx"),
        (!found (fun other => other.organizationId = row.organizationId &&
            other.idempotencyKey = row.idempotencyKey) rows,
          .violation "desired_states_idempotency_idx")])
    (fun db =>
      { db with
        desiredStates := prepareDesiredStateRevision row db.desiredStates ++ [row] })

/-- The revisions of a deployment. -/
def Db.desiredStatesOf (db : Db) (deploymentId : String) : List DesiredStateRow :=
  db.desiredStates.filter fun row => row.deploymentId = deploymentId

/-- The row that `createDesiredState` inserts. -/
def DesiredStateInput.row (input : DesiredStateInput) (id : Uuid) (deploymentId : String) :
    DesiredStateRow :=
  { id := id.text
    organizationId := input.organizationId
    deploymentId := deploymentId
    idempotencyKey := input.idempotencyKey
    version := input.version
    sequence := input.sequence
    state := input.state
    lifecycleStatus := input.lifecycleStatus
    configRevisionId := input.configRevisionId
    releaseManifestId := input.releaseManifestId
    backupId := input.backupId
    moduleVersions := input.moduleVersions
    modules := input.modules
    createdBy := input.createdBy }

/-- The row under an id that a replay returns. The record was written with it. -/
def Db.desiredState? (db : Db) (id : String) : Option DesiredStateRow :=
  db.desiredStates.find? fun row => row.id = id

/-- The payload checks before the transaction of `createDesiredState`. -/
def DesiredStateInput.guard (input : DesiredStateInput) : Except ControlError Unit := do
  assertSafeControlPayload "DesiredState.module_versions" input.moduleVersions
  assertSafeControlPayload "DesiredState.modules" input.modules

/-- The event of a new desired state. -/
def DesiredStateInput.event (input : DesiredStateInput) (row : DesiredStateRow) : EventInput :=
  { organizationId := input.organizationId
    agentId := input.agentId
    serverId := some input.serverId
    deploymentId := row.deploymentId
    requestId := some input.requestId
    correlationId := some input.correlationId
    idempotencyKey := input.idempotencyKey ++ ":event"
    sourceIdentity := some input.userId
    eventType := "desired.changed"
    state := some input.lifecycleStatus.name
    aggregateType := "desired_state"
    aggregateId := row.id
    summary := [("desired_state_id", .str row.id),
      ("desired_state_version", .num input.version),
      ("lifecycle_status", .str input.lifecycleStatus.name),
      ("target_state", .str input.state.name)]
    occurredAt := some input.createdAt }

/-- The idempotency record of a new desired state. -/
def DesiredStateInput.record (input : DesiredStateInput) (row : DesiredStateRow) :
    IdempotencyInput :=
  { toIdempotencyScope := input.scope "desired-state" (digestControlValue input.toJson)
    deploymentId := some row.deploymentId
    aggregateType := "desired_state"
    aggregateId := row.id }

/-- A deployment whose counter of desired states is set. -/
def DeploymentRow.desire (row : DeploymentRow) (version now : Nat) : DeploymentRow :=
  { row with desiredStateVersion := version, updatedAt := now }

/-- `createDesiredState` past its replay branch. -/
def createDesiredStateFresh [Host] (env : Env) (input : DesiredStateInput) :
    Callback (Option DesiredStateRow) := do
  let deployment ← getDeploymentForUpdate input.deploymentId input.organizationId
    input.agentId input.userId input.serverId
  let next ← Tx.read fun db =>
    let rows := db.desiredStatesOf deployment.id
    (maxOf (rows.map (·.version)) + 1, maxOf (rows.map (·.sequence)) + 1)
  ensure (next.1 = input.version) "revision_conflict"
    "DesiredState.version is not the next deployment revision" 409
  ensure (next.2 = input.sequence) "sequence_conflict"
    "DesiredState.sequence is not monotonic" 409
  let configFound ← Tx.read fun db =>
    input.configRevisionId.all fun id =>
      found (fun row => row.id = id && row.organizationId = input.organizationId &&
        row.agentId = input.agentId) db.configRevisions
  ensure (configFound = true) "owner_mismatch"
    "DesiredState config revision is outside the deployment scope" 409
  let releaseFound ← Tx.read fun db =>
    input.releaseManifestId.all fun id =>
      found (fun row => row.id = id && row.immutable) db.releaseManifests
  ensure (releaseFound = true) "release_not_immutable"
    "DesiredState release manifest is unavailable or mutable" 409
  let backupFound ← Tx.read fun db =>
    input.backupId.all fun id =>
      found (fun row => row.id = id && row.deploymentId = deployment.id) db.backups
  ensure (backupFound = true) "owner_mismatch"
    "DesiredState backup is outside the deployment scope" 409
  Tx.whenever (input.lifecycleStatus = .active) <|
    Tx.write fun db =>
      { db with desiredStates := supersedeActive deployment.id db.desiredStates }
  let row := input.row env.entropy.row deployment.id
  insertDesiredState row
  Tx.whenever (input.lifecycleStatus = .active) <|
    Tx.write fun db =>
      { db with
        deployments := updateWhere (fun other => other.id = deployment.id)
          (fun other => other.desire input.version env.now) db.deployments }
  let _ ← appendEvent env.entropy env.now (input.event row)
  saveIdempotency env.entropy.idempotency (input.record row)
  return some row

/-- `createDesiredState`. -/
def createDesiredState [Host] (env : Env) (input : DesiredStateInput) :
    Callback (Option DesiredStateRow) := do
  checked input.guard
  replayOr (input.scope "desired-state" (digestControlValue input.toJson))
    (fun record => Tx.read fun db => db.desiredState? record.aggregateId)
    (createDesiredStateFresh env input)

/-! ### Observations -/

/-- The observations of a deployment. -/
def Db.observationsOf (db : Db) (deploymentId : String) : List ObservationRow :=
  db.observations.filter fun row => row.deploymentId = deploymentId

/-- The observation under an id. -/
def Db.observation? (db : Db) (id : String) : Option ObservationRow :=
  db.observations.find? fun row => row.id = id

/-- The row that `recordObservation` inserts. -/
def ObservationInput.row (input : ObservationInput) (deploymentId : String) :
    ObservationRow :=
  { id := input.id
    organizationId := input.organizationId
    deploymentId := deploymentId
    idempotencyKey := input.idempotencyKey
    version := input.version
    sequence := input.sequence
    desiredStateVersion := input.desiredStateVersion
    status := input.status
    freshness := input.freshness
    freshnessSeconds := input.freshnessSeconds
    summary := input.summary
    modules := input.modules
    evidenceRefs := input.evidenceRefs
    sourceIdentity := input.sourceIdentity
    observedAt := input.observedAt
    receivedAt := input.receivedAt }

/-- The payload checks before the transaction of `recordObservation`. -/
def ObservationInput.guard (input : ObservationInput) : Except ControlError Unit := do
  assertOperationalMetadata "Observation.summary" 0 input.summary
  assertSafeControlPayload "Observation.modules" input.modules

/-- `calculatedFreshness`: whole seconds between two instants, never negative. -/
def calculatedFreshness (receivedAt observedAt : Nat) : Nat :=
  (dateParse receivedAt - dateParse observedAt) / 1000

/-- The event of a new observation. -/
def ObservationInput.event (input : ObservationInput) (deploymentId : String) : EventInput :=
  { organizationId := input.organizationId
    agentId := input.agentId
    serverId := some input.serverId
    deploymentId := deploymentId
    requestId := some input.requestId
    correlationId := some input.correlationId
    idempotencyKey := input.idempotencyKey ++ ":event"
    sourceIdentity := some input.sourceIdentity
    observationVersion := some input.version
    eventType := "observation.received"
    state := some input.status.name
    aggregateType := "observation"
    aggregateId := input.id
    evidenceRefs := input.evidenceRefs
    summary := [("observation_id", .str input.id),
      ("observation_version", .num input.version),
      ("desired_state_version", .num input.desiredStateVersion),
      ("freshness", .str input.freshness.name),
      ("freshness_seconds", .num input.freshnessSeconds)]
    occurredAt := some input.receivedAt }

/-- The idempotency record of a new observation. -/
def ObservationInput.record (input : ObservationInput) (deploymentId : String) :
    IdempotencyInput :=
  { toIdempotencyScope := input.scope "observation" (digestControlValue input.toJson)
    deploymentId := some deploymentId
    aggregateType := "observation"
    aggregateId := input.id }

/-- A deployment after an observation. -/
def DeploymentRow.observe (row : DeploymentRow) (input : ObservationInput) (now : Nat) :
    DeploymentRow :=
  { row with
    observedStateVersion := input.version
    status := match input.status with
      | .healthy => .active
      | .unknown => row.status
      | _ => .degraded
    updatedAt := now }

/-- `INSERT INTO observations`. -/
def insertObservation [Host] (row : ObservationRow) : Callback Unit :=
  Tx.insert
    (fun db =>
      [(bairuiControlJsonIsSafe row.summary && bairuiControlJsonIsSafe row.modules,
          .violation "observations_safe_payload"),
        (decide (0 < row.version), .violation "observations_version_check"),
        (!found (fun other => other.id = row.id) db.observations,
          .violation "observations_pkey"),
        (!found (fun other => other.deploymentId = row.deploymentId &&
            other.version = row.version) db.observations,
          .violation "observations_deployment_id_version_key"),
        (!found (fun other => other.organizationId = row.organizationId &&
            other.idempotencyKey = row.idempotencyKey) db.observations,
          .violation "observations_idempotency_idx")])
    (fun db => { db with observations := db.observations ++ [row] })

/-- `recordObservation` past its replay branch. -/
def recordObservationFresh [Host] (env : Env) (input : ObservationInput) :
    Callback (Option ObservationRow) := do
  let deployment ← getDeploymentForUpdate input.deploymentId input.organizationId
    input.agentId input.userId input.serverId
  let latest ← Tx.read fun db =>
    let rows := db.observationsOf deployment.id
    (maxOf (rows.map (·.version)), maxOf (rows.map (·.sequence)))
  ensure (latest.1 < input.version) "revision_conflict" "Observation.version is stale" 409
  ensure (latest.2 < input.sequence) "sequence_conflict" "Observation.sequence is stale" 409
  ensure (input.desiredStateVersion ≤ deployment.desiredStateVersion) "revision_conflict"
    "Observation references a future DesiredState" 409
  ensure (calculatedFreshness input.receivedAt input.observedAt ≤ input.freshnessSeconds)
    "stale_observation" "Observation freshness_seconds understates its signed timestamps" 409
  let row := input.row deployment.id
  insertObservation row
  Tx.write fun db =>
    { db with
      deployments := updateWhere (fun other => other.id = deployment.id)
        (fun other => other.observe input env.now) db.deployments }
  let _ ← appendEvent env.entropy env.now (input.event deployment.id)
  saveIdempotency env.entropy.idempotency (input.record deployment.id)
  return some row

/-- `recordObservation`. -/
def recordObservation [Host] (env : Env) (input : ObservationInput) :
    Callback (Option ObservationRow) := do
  checked input.guard
  replayOr (input.scope "observation" (digestControlValue input.toJson))
    (fun record => Tx.read fun db => db.observation? record.aggregateId)
    (recordObservationFresh env input)

/-! ### Release manifests -/

/-- The release manifest under an id. -/
def Db.releaseManifest? (db : Db) (id : String) : Option ReleaseManifestRow :=
  db.releaseManifests.find? fun row => row.id = id

/-- The digest of the first artifact. -/
def ReleaseManifestInput.primaryDigest (input : ReleaseManifestInput) : Option String :=
  ((input.artifacts.head?).bind (Json.field? "digest")).bind Json.text?

/-- The row that `createReleaseManifest` inserts. -/
def ReleaseManifestInput.row (input : ReleaseManifestInput) (imageDigest : String) :
    ReleaseManifestRow :=
  { id := input.id
    version := input.version
    imageDigest := imageDigest
    status := input.status
    immutable := true
    channel := input.channel
    contractsVersion := input.contractsVersion
    artifacts := .arr input.artifacts
    compatibility := input.compatibility
    createdAt := input.createdAt }

/-- The payload checks before the transaction of `createReleaseManifest`. -/
def ReleaseManifestInput.guard (input : ReleaseManifestInput) :
    Except ControlError Unit := do
  assertSafeControlPayload "ReleaseManifest.artifacts" (.arr input.artifacts)
  assertOperationalMetadata "ReleaseManifest.compatibility" 0 input.compatibility

/-- The change that a new release manifest is published as. -/
def ReleaseManifestInput.change (input : ReleaseManifestInput) : GlobalChangeInput :=
  { organizationId := input.organizationId
    aggregateType := "release_manifest"
    aggregateId := input.id
    eventType := "release.manifest.registered"
    idempotencyKey := "release:" ++ input.idempotencyKey
    actorIdentity := some input.userId
    createdAt := input.createdAt
    body := [("release_id", .str input.id), ("version", .str input.version),
      ("channel", .str input.channel), ("status", .str input.status),
      ("contracts_version", .str input.contractsVersion),
      ("artifact_digests", .arr (input.artifacts.map fun item =>
        ((item.field? "digest")).getD .null))] }

/-- The idempotency record of a new release manifest. -/
def ReleaseManifestInput.record (input : ReleaseManifestInput) : IdempotencyInput :=
  { toIdempotencyScope := input.scope "release-manifest" (digestControlValue input.toJson)
    aggregateType := "release_manifest"
    aggregateId := input.id }

/-- `createReleaseManifest` past its replay branch. -/
def createReleaseManifestFresh [Host] (env : Env) (input : ReleaseManifestInput) :
    Callback (Option ReleaseManifestRow) := do
  let imageDigest ← Tx.orRaise (.violation "release_manifests_image_digest_not_null")
    input.primaryDigest
  let row := input.row imageDigest
  Tx.insert
    (fun db =>
      [(bairuiControlJsonIsSafe row.artifacts && bairuiControlJsonIsSafe row.compatibility,
          .violation "release_manifests_safe_payload"),
        (["stable", "prerelease", "canary"].contains row.channel,
          .violation "release_manifests_channel_check"),
        (["candidate", "approved", "rolling_out", "released", "blocked", "withdrawn"].contains
            row.status,
          .violation "release_manifests_status_check"),
        (!found (fun other => other.id = row.id) db.releaseManifests,
          .violation "release_manifests_pkey"),
        (!found (fun other => other.version = row.version) db.releaseManifests,
          .violation "release_manifests_version_key"),
        (!found (fun other => other.imageDigest = row.imageDigest) db.releaseManifests,
          .violation "release_manifests_image_digest_key")])
    (fun db => { db with releaseManifests := db.releaseManifests ++ [row] })
  appendGlobalChange env.entropy env.now input.change
  saveIdempotency env.entropy.idempotency input.record
  return some row

/-- `createReleaseManifest`. -/
def createReleaseManifest [Host] (env : Env) (input : ReleaseManifestInput) :
    Callback (Option ReleaseManifestRow) := do
  checked input.guard
  replayOr (input.scope "release-manifest" (digestControlValue input.toJson))
    (fun record => Tx.read fun db => db.releaseManifest? record.aggregateId)
    (createReleaseManifestFresh env input)

/-! ### Secret references -/

/-- The secret reference under an id. -/
def Db.secretReference? (db : Db) (id : String) : Option SecretReferenceRow :=
  db.secretReferences.find? fun row => row.id = id

/-- The row that `registerSecretReference` inserts. -/
def SecretReferenceInput.row (input : SecretReferenceInput)
    (deploymentId : Option String) : SecretReferenceRow :=
  { id := input.id
    organizationId := input.organizationId
    deploymentId := deploymentId
    agentId := input.agentId
    purpose := input.purpose
    version := input.version
    state := input.state
    masked := input.masked
    fingerprint := input.fingerprint
    authorizedIdentity := input.authorizedIdentity
    lastVerifiedAt := input.lastVerifiedAt
    expiresAt := input.expiresAt
    createdAt := input.createdAt }

/-- The change that a new secret reference is published as. -/
def SecretReferenceInput.change (input : SecretReferenceInput) (deploymentId : Option String) :
    GlobalChangeInput :=
  { organizationId := input.organizationId
    deploymentId := deploymentId
    aggregateType := "secret_reference"
    aggregateId := input.id
    eventType := "secret-reference.registered"
    idempotencyKey := "secret-reference:" ++ input.idempotencyKey
    actorIdentity := some input.userId
    createdAt := input.createdAt
    body := [("secret_ref", .str input.id), ("agent_id", .str input.agentId),
      ("purpose", .str input.purpose), ("version", .num input.version),
      ("state", .str input.state), ("masked", .str input.masked),
      ("fingerprint", .str input.fingerprint)] }

/-- The idempotency record of a new secret reference. -/
def SecretReferenceInput.record (input : SecretReferenceInput)
    (deploymentId : Option String) : IdempotencyInput :=
  { toIdempotencyScope := input.scope "secret-reference" (digestControlValue input.toJson)
    deploymentId := deploymentId
    aggregateType := "secret_reference"
    aggregateId := input.id }

/-- The deployment of a secret reference, checked when there is one. -/
def secretDeployment (input : SecretReferenceInput) : Callback (Option String) :=
  match input.deploymentId with
  | none => return none
  | some deploymentId => do
      let deployment ← getDeploymentForUpdate deploymentId input.organizationId input.agentId
        input.userId input.serverId
      return some deployment.id

/-- `registerSecretReference` past its replay branch. -/
def registerSecretReferenceFresh [Host] (env : Env) (input : SecretReferenceInput) :
    Callback (Option SecretReferenceRow) := do
  let agentFound ← Tx.read fun db =>
    found (fun agent => agent.id = input.agentId &&
      agent.organizationId = input.organizationId) db.agents
  ensure (agentFound = true) "owner_mismatch"
    "Secret reference Agent is outside the organization scope" 404
  let deploymentId ← secretDeployment input
  let row := input.row deploymentId
  Tx.insert
    (fun db =>
      [(["pending", "active", "rotating", "revoked", "expired"].contains row.state,
          .violation "control_secret_references_state_check"),
        (!found (fun other => other.id = row.id) db.secretReferences,
          .violation "control_secret_references_pkey"),
        (!found (fun other => other.organizationId = row.organizationId &&
            other.agentId = row.agentId && other.purpose = row.purpose &&
            other.version = row.version) db.secretReferences,
          .violation "control_secret_references_purpose_version_key"),
        (!found (fun other => other.organizationId = row.organizationId &&
            other.fingerprint = row.fingerprint) db.secretReferences,
          .violation "control_secret_references_fingerprint_key")])
    (fun db => { db with secretReferences := db.secretReferences ++ [row] })
  appendGlobalChange env.entropy env.now (input.change deploymentId)
  saveIdempotency env.entropy.idempotency (input.record deploymentId)
  return some row

/-- `registerSecretReference`. -/
def registerSecretReference [Host] (env : Env) (input : SecretReferenceInput) :
    Callback (Option SecretReferenceRow) :=
  replayOr (input.scope "secret-reference" (digestControlValue input.toJson))
    (fun record => Tx.read fun db => db.secretReference? record.aggregateId)
    (registerSecretReferenceFresh env input)

end BairuiPlatform
