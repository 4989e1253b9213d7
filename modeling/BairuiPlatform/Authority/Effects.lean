/-
Module: BairuiPlatform.Authority.Effects
Purpose: What each mutator of ControlAuthorityRepository does to the tables when it
  carries out a request.
Trusted boundary: none
Main exports: Db.Owns, createDesiredStateFresh_ok, recordObservationFresh_ok,
  createReleaseManifestFresh_ok, registerSecretReferenceFresh_ok
-/
import BairuiPlatform.Authority.Record
import BairuiPlatform.Authority.Receipts

namespace BairuiPlatform

open Foundations

/-! ### Deployments -/

/-- The deployment is the one that the scope of a request names. -/
structure Db.Owns (db : Db) (deployment : DeploymentRow)
    (deploymentId organizationId agentId userId serverId : String) : Prop where
  joined : db.ownedDeployment? deploymentId = some ⟨deployment, userId⟩
  organization : deployment.organizationId = organizationId
  agent : deployment.agentId = agentId
  server : serverId = "" ∨ deployment.serverId = some serverId

theorem Db.ownedDeployment?_eq_some {db : Db} {deploymentId : String} {owned : OwnedDeployment} :
    db.ownedDeployment? deploymentId = some owned ↔
      db.deployments.find? (fun row => row.id = deploymentId) = some owned.deployment ∧
        ∃ agent, db.agents.find? (fun row => row.id = owned.deployment.agentId) = some agent ∧
          agent.ownerUserId = owned.ownerUserId := by
  unfold Db.ownedDeployment?
  simp only [Option.bind_eq_bind, Option.bind_eq_some_iff, Option.pure_def, Option.some.injEq]
  constructor
  · rintro ⟨deployment, foundDeployment, agent, foundAgent, rfl⟩
    exact ⟨foundDeployment, agent, foundAgent, rfl⟩
  · rintro ⟨foundDeployment, agent, foundAgent, owner⟩
    exact ⟨owned.deployment, foundDeployment, agent, foundAgent, by rw [owner]⟩

/-- The deployment of a join is a stored row under the id that was asked for. -/
theorem Db.ownedDeployment?_mem {db : Db} {deploymentId : String} {owned : OwnedDeployment}
    (joined : db.ownedDeployment? deploymentId = some owned) :
    owned.deployment ∈ db.deployments ∧ owned.deployment.id = deploymentId := by
  have foundDeployment := (Db.ownedDeployment?_eq_some.mp joined).1
  exact ⟨List.mem_of_find?_eq_some foundDeployment,
    by simpa using List.find?_some foundDeployment⟩

theorem Db.Owns.mem {db : Db} {deployment : DeploymentRow}
    {deploymentId organizationId agentId userId serverId : String}
    (owns : db.Owns deployment deploymentId organizationId agentId userId serverId) :
    deployment ∈ db.deployments :=
  (Db.ownedDeployment?_mem owns.joined).1

theorem Db.Owns.id_eq {db : Db} {deployment : DeploymentRow}
    {deploymentId organizationId agentId userId serverId : String}
    (owns : db.Owns deployment deploymentId organizationId agentId userId serverId) :
    deployment.id = deploymentId :=
  (Db.ownedDeployment?_mem owns.joined).2

theorem getDeploymentForUpdate_ok
    {deploymentId organizationId agentId userId serverId : String} {db db' : Db}
    {deployment : DeploymentRow} :
    (getDeploymentForUpdate deploymentId organizationId agentId userId serverId).eval db =
        .ok (deployment, db') ↔
      db.Owns deployment deploymentId organizationId agentId userId serverId ∧ db' = db := by
  simp only [getDeploymentForUpdate, Tx.eval_read_bind, Tx.eval_bind_ok, Tx.eval_orRaise_ok,
    ensure_ok, Tx.eval_pure, Except.ok.injEq, Prod.mk.injEq, Option.filter_eq_some_iff,
    Bool.and_eq_true, decide_eq_true_eq, and_assoc, exists_and_left, exists_eq_left, exists_const]
  constructor
  · rintro ⟨owned, joined, organization, agent, rfl, server, rfl, rfl⟩
    exact ⟨⟨joined, organization, agent, server⟩, rfl⟩
  · rintro ⟨owns, rfl⟩
    exact ⟨_, owns.joined, owns.organization, owns.agent, rfl, owns.server, rfl, rfl⟩

/-! ### Desired states -/

@[simp] theorem DesiredStateRow.isActiveOf_eq_true {row : DesiredStateRow}
    {deploymentId : String} :
    row.isActiveOf deploymentId = true ↔
      row.deploymentId = deploymentId ∧ row.lifecycleStatus = .active := by
  simp [DesiredStateRow.isActiveOf]

/-- After the active revision is superseded there is none. -/
theorem not_active_of_mem_supersedeActive {deploymentId : String}
    {rows : List DesiredStateRow} {row : DesiredStateRow}
    (member : row ∈ supersedeActive deploymentId rows) :
    row.isActiveOf deploymentId = false := by
  rcases mem_updateWhere.mp member with ⟨old, -, -, rfl⟩ | ⟨-, skipped⟩
  · simp [DesiredStateRow.isActiveOf]
  · exact skipped

/-- Superseding the active revision twice is superseding it once. -/
theorem supersedeActive_supersedeActive (deploymentId : String)
    (rows : List DesiredStateRow) :
    supersedeActive deploymentId (supersedeActive deploymentId rows) =
      supersedeActive deploymentId rows :=
  updateWhere_of_none fun _ member => not_active_of_mem_supersedeActive member

/-- The constraints that a new desired state meets, next to the rows that its trigger
has prepared. -/
structure DesiredEntry [Host] (db : Db) (row : DesiredStateRow) : Prop where
  deployment : ∃ deployment ∈ db.deployments, deployment.id = row.deploymentId
  safe : bairuiControlJsonIsSafe row.moduleVersions = true ∧
    bairuiControlJsonIsSafe row.modules = true
  reference : row.lifecycleStatus ≠ .active ∨ row.configRevisionId.isSome = true ∨
    row.releaseManifestId.isSome = true ∨ row.backupId.isSome = true ∨
    row.moduleVersions.isEmptyObject = false ∨ row.modules.isEmptyArray = false
  version_pos : 0 < row.version
  id_new : ∀ other ∈ db.desiredStates, other.id ≠ row.id
  version_new : ∀ other ∈ db.desiredStates,
    other.deploymentId = row.deploymentId → other.version ≠ row.version
  key_new : ∀ other ∈ db.desiredStates,
    other.organizationId = row.organizationId → other.idempotencyKey ≠ row.idempotencyKey

/-- What holds of the keys of all rows holds of them after the active one is
superseded. -/
theorem forall_mem_supersedeActive {deploymentId : String} {rows : List DesiredStateRow}
    {holds : DesiredStateRow → Prop}
    (keeps : ∀ other, holds { other with lifecycleStatus := .superseded } ↔ holds other) :
    (∀ other ∈ supersedeActive deploymentId rows, holds other) ↔
      ∀ other ∈ rows, holds other := by
  unfold supersedeActive updateWhere
  rw [List.forall_mem_map]
  refine forall₂_congr fun other _ => ?_
  split
  · exact keeps other
  · rfl

theorem forall_mem_prepareDesiredStateRevision {row : DesiredStateRow}
    {rows : List DesiredStateRow} {holds : DesiredStateRow → Prop}
    (keeps : ∀ other, holds { other with lifecycleStatus := .superseded } ↔ holds other) :
    (∀ other ∈ prepareDesiredStateRevision row rows, holds other) ↔
      ∀ other ∈ rows, holds other := by
  unfold prepareDesiredStateRevision
  split
  · exact forall_mem_supersedeActive keeps
  · rfl

theorem insertDesiredState_ok [Host] {row : DesiredStateRow} {db db' : Db} {answer : Unit} :
    (insertDesiredState row).eval db = .ok (answer, db') ↔
      DesiredEntry db row ∧
        db' = { db with
                desiredStates := prepareDesiredStateRevision row db.desiredStates ++ [row] } := by
  have inactive : row.lifecycleStatus = .active →
      ∀ other ∈ prepareDesiredStateRevision row db.desiredStates,
        other.isActiveOf row.deploymentId = false := by
    intro active other member
    rw [prepareDesiredStateRevision, if_pos active] at member
    exact not_active_of_mem_supersedeActive member
  simp only [insertDesiredState, Tx.eval_insert_ok, List.forall_mem_cons, List.not_mem_nil,
    Bool.not_eq_true', found_eq_false, found_eq_true, decide_eq_false_iff_not,
    Bool.and_eq_false_imp, decide_eq_true_eq, false_implies, implies_true, and_true,
    Bool.and_eq_true, Bool.or_eq_true, decide_not]
  constructor
  · rintro ⟨⟨deployment, safe, reference, versionPos, idNew, versionNew, -, keyNew⟩, rfl⟩
    refine ⟨⟨deployment, safe, ?_, versionPos, ?_, ?_, ?_⟩, rfl⟩
    · tauto
    · exact (forall_mem_prepareDesiredStateRevision fun _ => Iff.rfl).mp idNew
    · exact (forall_mem_prepareDesiredStateRevision fun _ => Iff.rfl).mp versionNew
    · exact (forall_mem_prepareDesiredStateRevision fun _ => Iff.rfl).mp keyNew
  · rintro ⟨entry, rfl⟩
    refine ⟨⟨entry.deployment, entry.safe, ?_, entry.version_pos, ?_, ?_, inactive, ?_⟩, rfl⟩
    · have := entry.reference
      tauto
    · exact (forall_mem_prepareDesiredStateRevision fun _ => Iff.rfl).mpr entry.id_new
    · exact (forall_mem_prepareDesiredStateRevision fun _ => Iff.rfl).mpr entry.version_new
    · exact (forall_mem_prepareDesiredStateRevision fun _ => Iff.rfl).mpr entry.key_new

/-- The deployments after a desired state of the input was stored. -/
def DesiredStateInput.deployments (input : DesiredStateInput) (now : Nat)
    (rows : List DeploymentRow) : List DeploymentRow :=
  if input.lifecycleStatus = .active then
    updateWhere (fun other => other.id = input.deploymentId)
      (fun other => other.desire input.version now) rows
  else rows

/-- `createDesiredState` stored the desired state of its input. -/
structure StoresDesiredState [Host] (env : Env) (input : DesiredStateInput)
    (deployment : DeploymentRow) (row : DesiredStateRow) (db db' : Db) : Prop where
  row_eq : row = input.row env.entropy.row input.deploymentId
  owns : db.Owns deployment input.deploymentId input.organizationId input.agentId input.userId
    input.serverId
  version : maxOf ((db.desiredStatesOf input.deploymentId).map (·.version)) + 1 =
    input.version
  sequence : maxOf ((db.desiredStatesOf input.deploymentId).map (·.sequence)) + 1 =
    input.sequence
  entry : DesiredEntry db row
  journal : Journal.Records env.entropy env.now (input.event row) (fun _ => input.record row)
    db.journal db'.journal
  after : db' =
    { db with
      desiredStates := prepareDesiredStateRevision row db.desiredStates ++ [row]
      deployments := input.deployments env.now db.deployments
      journal := db'.journal }

/-- The constraints on a desired state do not see whether the active revision is
already superseded. -/
theorem DesiredEntry.of_superseded [Host] {db : Db} {row : DesiredStateRow}
    {deploymentId : String}
    (entry : DesiredEntry
      { db with desiredStates := supersedeActive deploymentId db.desiredStates } row) :
    DesiredEntry db row where
  deployment := entry.deployment
  safe := entry.safe
  reference := entry.reference
  version_pos := entry.version_pos
  id_new := (forall_mem_supersedeActive fun _ => Iff.rfl).mp entry.id_new
  version_new := (forall_mem_supersedeActive fun _ => Iff.rfl).mp entry.version_new
  key_new := (forall_mem_supersedeActive fun _ => Iff.rfl).mp entry.key_new

theorem createDesiredStateFresh_ok [Host] {env : Env} {input : DesiredStateInput} {db db' : Db}
    {result : Option DesiredStateRow}
    (ran : (createDesiredStateFresh env input).eval db = .ok (result, db')) :
    ∃ deployment row, result = some row ∧
      StoresDesiredState env input deployment row db db' := by
  simp only [createDesiredStateFresh, Tx.eval_read_bind, Tx.eval_bind_ok,
    getDeploymentForUpdate_ok, ensure_ok, Tx.eval_whenever_ok, Tx.eval_write, insertDesiredState_ok,
    appendEvent_ok, saveIdempotency_ok, Tx.eval_pure, Except.ok.injEq, Prod.mk.injEq,
    and_assoc, exists_and_left, exists_eq_left, exists_const] at ran
  obtain ⟨deployment, owns, version, sequence, -, -, -, _, superseded, entry, _, desired, event,
    _, ⟨outbox, audit, eventEntry, rfl⟩, idNew, scopeNew, rfl, rfl⟩ := ran
  rw [owns.id_eq] at *
  refine ⟨deployment, _, rfl, ?_⟩
  by_cases active : input.lifecycleStatus = .active
  · obtain rfl : _ = _ := by simpa [active] using superseded
    obtain rfl : _ = _ := by simpa [active] using desired
    exact ⟨rfl, owns, version, sequence, entry.of_superseded,
      ⟨event, outbox, audit, eventEntry, ⟨idNew, scopeNew⟩, rfl⟩, by
        simp [DesiredStateInput.deployments, active, prepareDesiredStateRevision,
          DesiredStateInput.row, supersedeActive_supersedeActive]⟩
  · obtain rfl : _ = _ := by simpa [active] using superseded
    obtain rfl : _ = _ := by simpa [active] using desired
    exact ⟨rfl, owns, version, sequence, entry,
      ⟨event, outbox, audit, eventEntry, ⟨idNew, scopeNew⟩, rfl⟩, by
        simp [DesiredStateInput.deployments, active]⟩

/-! ### Observations -/

/-- The constraints that a new observation meets. -/
structure ObservationEntry [Host] (db : Db) (row : ObservationRow) : Prop where
  safe : bairuiControlJsonIsSafe row.summary = true ∧ bairuiControlJsonIsSafe row.modules = true
  version_pos : 0 < row.version
  id_new : ∀ other ∈ db.observations, other.id ≠ row.id
  version_new : ∀ other ∈ db.observations,
    other.deploymentId = row.deploymentId → other.version ≠ row.version
  key_new : ∀ other ∈ db.observations,
    other.organizationId = row.organizationId → other.idempotencyKey ≠ row.idempotencyKey

theorem insertObservation_ok [Host] {row : ObservationRow} {db db' : Db} {answer : Unit} :
    (insertObservation row).eval db = .ok (answer, db') ↔
      ObservationEntry db row ∧ db' = { db with observations := db.observations ++ [row] } := by
  simp only [insertObservation, Tx.eval_insert_ok, List.forall_mem_cons, List.not_mem_nil,
    Bool.not_eq_true', found_eq_false, decide_eq_false_iff_not, Bool.and_eq_false_imp,
    decide_eq_true_eq, false_implies, implies_true, and_true, Bool.and_eq_true]
  constructor
  · rintro ⟨⟨safe, versionPos, idNew, versionNew, keyNew⟩, rfl⟩
    exact ⟨⟨safe, versionPos, idNew, versionNew, keyNew⟩, rfl⟩
  · rintro ⟨entry, rfl⟩
    exact ⟨⟨entry.safe, entry.version_pos, entry.id_new, entry.version_new, entry.key_new⟩,
      rfl⟩

/-- `recordObservation` stored the observation of its input. -/
structure StoresObservation [Host] (env : Env) (input : ObservationInput)
    (deployment : DeploymentRow) (row : ObservationRow) (db db' : Db) : Prop where
  row_eq : row = input.row input.deploymentId
  owns : db.Owns deployment input.deploymentId input.organizationId input.agentId input.userId
    input.serverId
  version : maxOf ((db.observationsOf input.deploymentId).map (·.version)) < input.version
  desired : input.desiredStateVersion ≤ deployment.desiredStateVersion
  entry : ObservationEntry db row
  journal : Journal.Records env.entropy env.now (input.event input.deploymentId)
    (fun _ => input.record input.deploymentId) db.journal db'.journal
  after : db' =
    { db with
      observations := db.observations ++ [row]
      deployments := updateWhere (fun other => other.id = input.deploymentId)
        (fun other => other.observe input env.now) db.deployments
      journal := db'.journal }

theorem recordObservationFresh_ok [Host] {env : Env} {input : ObservationInput} {db db' : Db}
    {result : Option ObservationRow}
    (ran : (recordObservationFresh env input).eval db = .ok (result, db')) :
    ∃ deployment row, result = some row ∧
      StoresObservation env input deployment row db db' := by
  simp only [recordObservationFresh, Tx.eval_read_bind, Tx.eval_write_bind, Tx.eval_bind_ok,
    getDeploymentForUpdate_ok, ensure_ok, insertObservation_ok, appendEvent_ok,
    saveIdempotency_ok, Tx.eval_pure, Except.ok.injEq, Prod.mk.injEq, and_assoc,
    exists_and_left, exists_eq_left, exists_const] at ran
  obtain ⟨deployment, owns, version, -, desired, -, entry, event, _,
    ⟨outbox, audit, eventEntry, rfl⟩, idNew, scopeNew, rfl, rfl⟩ := ran
  rw [owns.id_eq] at *
  exact ⟨deployment, _, rfl, ⟨rfl, owns, version, desired, entry,
    ⟨event, outbox, audit, eventEntry, ⟨idNew, scopeNew⟩, rfl⟩, rfl⟩⟩

/-! ### Release manifests and secret references -/

/-- `createReleaseManifest` stored the manifest of its input. -/
structure StoresReleaseManifest [Host] (env : Env) (input : ReleaseManifestInput)
    (row : ReleaseManifestRow) (db db' : Db) : Prop where
  id_eq : row.id = input.id
  id_new : ∀ other ∈ db.releaseManifests, other.id ≠ row.id
  journal : Journal.RecordsChange env.entropy env.now input.change input.record
    db.journal db'.journal
  after : db' =
    { db with
      releaseManifests := db.releaseManifests ++ [row]
      journal := db'.journal }

theorem createReleaseManifestFresh_ok [Host] {env : Env} {input : ReleaseManifestInput}
    {db db' : Db} {result : Option ReleaseManifestRow}
    (ran : (createReleaseManifestFresh env input).eval db = .ok (result, db')) :
    ∃ row, result = some row ∧ StoresReleaseManifest env input row db db' := by
  simp only [createReleaseManifestFresh, Tx.eval_bind_ok, Tx.eval_orRaise_ok,
    Tx.eval_insert_ok, appendGlobalChange_ok, saveIdempotency_ok, Tx.eval_pure,
    Except.ok.injEq, Prod.mk.injEq, and_assoc, exists_and_left, exists_eq_left, exists_const,
    List.forall_mem_cons, List.not_mem_nil, Bool.not_eq_true', found_eq_false,
    decide_eq_false_iff_not, false_implies, implies_true, and_true] at ran
  obtain ⟨imageDigest, -, -, -, -, idNew, -, -, _, ⟨outbox, audit, change, rfl⟩, recordNew,
    scopeNew, rfl, rfl⟩ := ran
  exact ⟨_, rfl, ⟨rfl, idNew, ⟨outbox, audit, change, ⟨recordNew, scopeNew⟩, rfl⟩, rfl⟩⟩

theorem secretDeployment_ok {input : SecretReferenceInput} {db db' : Db}
    {deploymentId : Option String}
    (ran : (secretDeployment input).eval db = .ok (deploymentId, db')) :
    deploymentId = input.deploymentId ∧ db' = db := by
  unfold secretDeployment at ran
  split at ran
  · rename_i absent
    simp only [Tx.eval_pure, Except.ok.injEq, Prod.mk.injEq] at ran
    exact ⟨ran.1 ▸ absent.symm, ran.2.symm⟩
  · rename_i named present
    simp only [Tx.eval_bind_ok, getDeploymentForUpdate_ok, Tx.eval_pure, Except.ok.injEq,
      Prod.mk.injEq] at ran
    obtain ⟨deployment, _, ⟨owns, rfl⟩, rfl, rfl⟩ := ran
    exact ⟨by rw [owns.id_eq, present], rfl⟩

/-- `registerSecretReference` stored the reference of its input. -/
structure StoresSecretReference [Host] (env : Env) (input : SecretReferenceInput)
    (row : SecretReferenceRow) (db db' : Db) : Prop where
  row_eq : row = input.row input.deploymentId
  id_new : ∀ other ∈ db.secretReferences, other.id ≠ row.id
  journal : Journal.RecordsChange env.entropy env.now (input.change input.deploymentId)
    (input.record input.deploymentId) db.journal db'.journal
  after : db' =
    { db with
      secretReferences := db.secretReferences ++ [row]
      journal := db'.journal }

theorem registerSecretReferenceFresh_ok [Host] {env : Env} {input : SecretReferenceInput}
    {db db' : Db} {result : Option SecretReferenceRow}
    (ran : (registerSecretReferenceFresh env input).eval db = .ok (result, db')) :
    ∃ row, result = some row ∧ StoresSecretReference env input row db db' := by
  simp only [registerSecretReferenceFresh, Tx.eval_read_bind, Tx.eval_bind_ok, ensure_ok,
    Tx.eval_insert_ok, appendGlobalChange_ok, saveIdempotency_ok, Tx.eval_pure,
    Except.ok.injEq, Prod.mk.injEq, and_assoc, exists_and_left, exists_eq_left, exists_const,
    List.forall_mem_cons, List.not_mem_nil, Bool.not_eq_true', found_eq_false,
    decide_eq_false_iff_not, false_implies, implies_true, and_true] at ran
  obtain ⟨-, deploymentId, _, deployment, -, idNew, -, -, _, ⟨outbox, audit, change, rfl⟩,
    recordNew, scopeNew, rfl, rfl⟩ := ran
  obtain ⟨rfl, rfl⟩ := secretDeployment_ok deployment
  exact ⟨_, rfl, ⟨rfl, idNew, ⟨outbox, audit, change, ⟨recordNew, scopeNew⟩, rfl⟩, rfl⟩⟩

end BairuiPlatform
