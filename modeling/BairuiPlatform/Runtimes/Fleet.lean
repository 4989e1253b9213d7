/-
Module: BairuiPlatform.Runtimes.Fleet
Purpose: Heartbeats and lifecycle receipts in any order, over either repository, and what a
  heartbeat that a repository saves changes.
Trusted boundary: any lifecycle receipt may be accepted at any time
Main exports: Repository, saveHeartbeat, HeartbeatEffect, saveHeartbeat_cases,
  lifecycleWrite, FleetEvent, fleet
-/
import BairuiPlatform.Foundations.Transition
import BairuiPlatform.Platform.Delivery
import BairuiPlatform.Runtimes.Heartbeats

namespace BairuiPlatform

open Foundations

/-! ### Saving a heartbeat -/

/-- Whether a call of `saveAgentHeartbeat` is answered with a row, and the tables after it.
The connection to Postgres may be lost before a statement. -/
def saveHeartbeat (repository : Repository) (env : HeartbeatEnv) (fault : Option Nat)
    (input : HeartbeatInput) (store : RuntimeStore) : Bool × RuntimeStore :=
  match repository with
  | .memory =>
      let answer := Memory.saveAgentHeartbeat env input store
      (answer.1.isSome, answer.2)
  | .postgres =>
      match (Postgres.saveAgentHeartbeat env input).inTransaction fault store with
      | (.ok _, final) => (true, final)
      | (.error _, final) => (false, final)

/-- The usage of a heartbeat in either repository. -/
def heartbeatUsage : Repository → HeartbeatInput → List UsageRow → List UsageRow
  | .memory => Memory.heartbeatUsage
  | .postgres => Postgres.heartbeatUsage

/-- What a saved heartbeat does to the tables that the theorems are about. -/
structure HeartbeatEffect (repository : Repository) (env : HeartbeatEnv)
    (input : HeartbeatInput) (store store' : RuntimeStore) : Prop where
  heartbeats : store'.heartbeats =
    if input.stored store.heartbeats then store.heartbeats
    else store.heartbeats ++ [input.row env]
  runtimes : store'.runtimes = input.runtimes store.runtimes
  agents : store'.agents = input.agents store.agents
  telemetry : ∃ rows : List TelemetryRow, rows.length = input.events.length ∧
    store'.telemetryEvents = store.telemetryEvents ++ rows
  usage : store'.usageRollups = heartbeatUsage repository input store.usageRollups
  configRevisions : store'.configRevisions = store.configRevisions

/-- The conditions under which a repository saves a heartbeat. -/
def canSave (repository : Repository) (input : HeartbeatInput) (store : RuntimeStore) : Bool :=
  match repository with
  | .memory =>
      store.runtimes.any input.isRuntime && store.agents.any fun row => row.id = input.agentId
  | .postgres =>
      (Postgres.heartbeatConstraints input store).all (·.1) &&
        input.usage.all fun usage => [60, 300, 3600, 86400].contains usage.bucketSeconds

/-- What the statements of Postgres do when no constraint is violated. -/
theorem Postgres.saveAgentHeartbeat_ok {env : HeartbeatEnv} {input : HeartbeatInput}
    {store final : RuntimeStore} {answer : Option HeartbeatRow}
    (ran : (Postgres.saveAgentHeartbeat env input).eval store = .ok (answer, final)) :
    canSave .postgres input store = true ∧ HeartbeatEffect .postgres env input store final := by
  simp only [Postgres.saveAgentHeartbeat, Tx.eval_bind_ok, Tx.eval_insert_ok,
    Tx.eval_write_bind] at ran
  obtain ⟨_, _, ⟨fits, rfl⟩, _, _, ⟨bucket, rfl⟩, read⟩ := ran
  obtain ⟨-, rfl⟩ : _ ∧ _ = final := by
    simpa [Tx.read, Tx.eval] using read
  refine ⟨?_, ?_⟩
  · have seconds := bucket _ List.mem_cons_self
    simp only [canSave, Bool.and_eq_true, List.all_eq_true]
    exact ⟨fits, seconds⟩
  · exact {
      heartbeats := rfl
      runtimes := rfl
      agents := rfl
      telemetry := ⟨_, by simp [HeartbeatInput.telemetry], rfl⟩
      usage := rfl
      configRevisions := rfl }

/-- The statements run through when the constraints hold. -/
theorem Postgres.saveAgentHeartbeat_runs (env : HeartbeatEnv) {input : HeartbeatInput}
    {store : RuntimeStore} (fits : canSave .postgres input store = true) :
    ∃ answer final, (Postgres.saveAgentHeartbeat env input).eval store = .ok (answer, final) := by
  simp only [canSave, Bool.and_eq_true, List.all_eq_true] at fits
  simp only [Postgres.saveAgentHeartbeat, Tx.eval_bind_ok, Tx.eval_insert_ok,
    Tx.eval_write_bind]
  refine ⟨_, _, (), _, ⟨fits.1, rfl⟩, (), _, ⟨?_, rfl⟩, rfl⟩
  intro constraint member
  rw [List.mem_singleton.mp member]
  exact fits.2

/-- A heartbeat is saved with its effect, or nothing changes. -/
theorem saveHeartbeat_cases (repository : Repository) (env : HeartbeatEnv) (fault : Option Nat)
    (input : HeartbeatInput) (store : RuntimeStore) :
    ((saveHeartbeat repository env fault input store).1 = true ∧
        canSave repository input store = true ∧
        HeartbeatEffect repository env input store
          (saveHeartbeat repository env fault input store).2) ∨
      ((saveHeartbeat repository env fault input store).1 = false ∧
        (saveHeartbeat repository env fault input store).2 = store) := by
  cases repository with
  | memory =>
      simp only [saveHeartbeat, Memory.saveAgentHeartbeat]
      split
      · rename_i known
        refine Or.inl ⟨rfl, known, ?_⟩
        exact {
          heartbeats := rfl
          runtimes := rfl
          agents := rfl
          telemetry := ⟨_, by simp [HeartbeatInput.telemetry], rfl⟩
          usage := rfl
          configRevisions := rfl }
      · exact Or.inr ⟨rfl, rfl⟩
  | postgres =>
      rcases Tx.inTransaction_cases (Postgres.saveAgentHeartbeat env input) fault store with
        ⟨answer, final, ran, executed⟩ | ⟨interruption, executed⟩
      · obtain ⟨fits, effect⟩ := Postgres.saveAgentHeartbeat_ok ran
        simp only [saveHeartbeat, executed]
        exact Or.inl ⟨trivial, fits, effect⟩
      · simp only [saveHeartbeat, executed]
        exact Or.inr ⟨trivial, trivial⟩

/-- With the connection kept, the conditions are enough. -/
theorem saveHeartbeat_of_canSave {repository : Repository} (env : HeartbeatEnv)
    {input : HeartbeatInput} {store : RuntimeStore}
    (fits : canSave repository input store = true) :
    (saveHeartbeat repository env none input store).1 = true := by
  cases repository with
  | memory =>
      simp only [canSave] at fits
      simp only [saveHeartbeat, Memory.saveAgentHeartbeat, fits, if_true]
      rfl
  | postgres =>
      obtain ⟨answer, final, ran⟩ := Postgres.saveAgentHeartbeat_runs env fits
      simp only [saveHeartbeat, Tx.inTransaction_none_ok ran]

/-! ### Lifecycle receipts -/

/-- The columns that an accepted receipt writes: the status of the runtime, and the status
and the initialization status of the agent. -/
structure LifecycleWrite where
  runtime : Option RuntimeStatus := none
  agent : Option RuntimeStatus := none
  initialization : Option InitializationStatus := none
deriving Repr, DecidableEq

/-- The lifecycle branches of `recordCommandReceipt`. The one in memory has none for a
stopped deployment. -/
def lifecycleWrite (repository : Repository) (action : Action) (state : ReceiptState) :
    LifecycleWrite :=
  match state, action with
  | .succeeded, .deploymentProvision => { runtime := some .starting }
  | .succeeded, .deploymentStart | .succeeded, .deploymentResume =>
      { runtime := some .starting, agent := some .starting }
  | .succeeded, .deploymentSuspend => { runtime := some .suspended, agent := some .suspended }
  | .succeeded, .deploymentStop =>
      match repository with
      | .memory => {}
      | .postgres => { runtime := some .stopped, agent := some .stopped }
  | .succeeded, .deploymentDelete => { runtime := some .deleted, agent := some .deleted }
  | .failed, .deploymentProvision =>
      { runtime := some .failed, agent := some .failed, initialization := some .failed }
  | .failed, .deploymentDelete =>
      { runtime := some .degraded, agent := some .degraded, initialization := some .failed }
  | .failed, .deploymentStart | .failed, .deploymentStop | .failed, .deploymentSuspend
  | .failed, .deploymentResume | .failed, .configApply | .failed, .releaseApply
  | .failed, .releaseRollback | .failed, .serviceRestart | .failed, .credentialRevoke =>
      { agent := some .degraded }
  | _, _ => {}

/-- In Postgres these are the statuses that the receipt gives to the rows of the control
plane. -/
theorem lifecycleWrite_eq (now : Nat) (action : Action) (state : ReceiptState)
    (endpointRef : Option String) (runtime : RuntimeRow) (agent : AgentRow) :
    let effect := lifecycleEffect now action state endpointRef
    let written := lifecycleWrite .postgres action state
    (effect.runtime runtime).status = written.runtime.getD runtime.status ∧
      (effect.agent agent).status = written.agent.getD agent.status ∧
      (effect.agent agent).initializationStatus =
        written.initialization.getD agent.initializationStatus := by
  cases state <;> cases action <;> exact ⟨rfl, rfl, rfl⟩

/-- The tables after a receipt for the deployment of an agent. -/
def recordLifecycle (repository : Repository) (agentId : String) (action : Action)
    (state : ReceiptState) (store : RuntimeStore) : RuntimeStore :=
  let written := lifecycleWrite repository action state
  { store with
    runtimes := updateWhere (fun row => row.agentId = agentId)
      (fun row => { row with status := written.runtime.getD row.status }) store.runtimes
    agents := updateWhere (fun row => row.id = agentId)
      (fun row =>
        { row with
          status := (written.agent.map AgentStatus.of).getD row.status
          initializationStatus := written.initialization.getD row.initializationStatus })
      store.agents }

/-! ### The system -/

/-- A heartbeat that comes in, or a lifecycle receipt that is accepted. -/
inductive FleetEvent where
  | heartbeat (env : HeartbeatEnv) (fault : Option Nat) (input : HeartbeatInput)
  | receipt (agentId : String) (action : Action) (state : ReceiptState)

/-- The tables after an event. -/
def FleetEvent.after (repository : Repository) (store : RuntimeStore) :
    FleetEvent → RuntimeStore
  | .heartbeat env fault input => (saveHeartbeat repository env fault input store).2
  | .receipt agentId action state => recordLifecycle repository agentId action state store

/-- Heartbeats and receipts in any order, over agents and runtimes without telemetry. -/
def fleet (repository : Repository) : TransitionSystem RuntimeStore FleetEvent where
  initial store :=
    Keyed FleetRuntimeRow.id store.runtimes ∧ Keyed FleetAgentRow.id store.agents ∧
      store.heartbeats = [] ∧ store.telemetryEvents = [] ∧ store.usageRollups = []
  step before event after := after = event.after repository before

/-- A heartbeat that was saved, with the clock and the random value of the call. -/
structure HeartbeatDelivery where
  env : HeartbeatEnv
  input : HeartbeatInput

/-- The heartbeat that a step saves. -/
def delivered (repository : Repository) (transition : Transition RuntimeStore FleetEvent) :
    Option HeartbeatDelivery :=
  match transition.label with
  | .heartbeat env fault input =>
      if (saveHeartbeat repository env fault input transition.before).1 then some ⟨env, input⟩
      else none
  | .receipt _ _ _ => none

/-- The heartbeats that a run saved, the latest first. -/
def deliveries (repository : Repository) (history : List (Transition RuntimeStore FleetEvent)) :
    List HeartbeatDelivery :=
  history.filterMap (delivered repository)

/-- A step saves a heartbeat with its effect, and it could, or it leaves telemetry alone. -/
theorem delivered_cases (repository : Repository) (event : FleetEvent) (store : RuntimeStore) :
    (∃ env fault input, event = .heartbeat env fault input ∧
        delivered repository ⟨store, event, event.after repository store⟩ = some ⟨env, input⟩ ∧
        canSave repository input store = true ∧
        HeartbeatEffect repository env input store (event.after repository store)) ∨
      (delivered repository ⟨store, event, event.after repository store⟩ = none ∧
        (event.after repository store = store ∨
          ∃ agentId action state, event = .receipt agentId action state)) := by
  cases event with
  | heartbeat env fault input =>
      simp only [delivered, FleetEvent.after]
      rcases saveHeartbeat_cases repository env fault input store with
        ⟨saved, fits, effect⟩ | ⟨refused, same⟩
      · refine Or.inl ⟨env, fault, input, rfl, ?_, fits, effect⟩
        rw [saved]
        rfl
      · refine Or.inr ⟨?_, Or.inl same⟩
        rw [refused]
        rfl
  | receipt agentId action state =>
      exact Or.inr ⟨rfl, Or.inr ⟨agentId, action, state, rfl⟩⟩

/-- Runtimes and agents keep their identifiers. -/
theorem FleetEvent.after_identifiers (repository : Repository) (event : FleetEvent)
    (store : RuntimeStore) :
    let final := event.after repository store
    final.runtimes.map (fun row => (row.id, row.agentId)) =
        store.runtimes.map (fun row => (row.id, row.agentId)) ∧
      final.agents.map FleetAgentRow.id = store.agents.map FleetAgentRow.id ∧
      final.configRevisions = store.configRevisions := by
  cases event with
  | heartbeat env fault input =>
      simp only [FleetEvent.after]
      rcases saveHeartbeat_cases repository env fault input store with
        ⟨-, -, effect⟩ | ⟨-, same⟩
      · refine ⟨?_, ?_, effect.configRevisions⟩
        · rw [effect.runtimes]
          exact map_updateWhere fun _ => rfl
        · rw [effect.agents]
          exact map_updateWhere fun _ => rfl
      · rw [same]
        exact ⟨rfl, rfl, rfl⟩
  | receipt agentId action state =>
      exact ⟨map_updateWhere fun _ => rfl, map_updateWhere fun _ => rfl, rfl⟩

/-- What a repository can save it can save later as well. -/
theorem canSave_after {repository : Repository} {input : HeartbeatInput} {store : RuntimeStore}
    (event : FleetEvent) (fits : canSave repository input store = true) :
    canSave repository input (event.after repository store) = true := by
  obtain ⟨runtimes, agents, configRevisions⟩ := event.after_identifiers repository store
  have runtimeIds : (event.after repository store).runtimes.map FleetRuntimeRow.id =
      store.runtimes.map FleetRuntimeRow.id := by
    have ids := congrArg (List.map Prod.fst) runtimes
    rw [List.map_map, List.map_map] at ids
    exact ids
  have sameAgents : ((event.after repository store).agents.any fun row =>
      row.id = input.agentId) = store.agents.any fun row => row.id = input.agentId := by
    have mapped := congrArg (List.any · fun id => decide (id = input.agentId)) agents
    rw [List.any_map, List.any_map] at mapped
    exact mapped
  have sameIds : ((event.after repository store).runtimes.any fun row =>
      row.id = input.runtimeId) = store.runtimes.any fun row => row.id = input.runtimeId := by
    have mapped := congrArg (List.any · fun id => decide (id = input.runtimeId)) runtimeIds
    rw [List.any_map, List.any_map] at mapped
    exact mapped
  have sameRuntimes : (event.after repository store).runtimes.any input.isRuntime =
      store.runtimes.any input.isRuntime := by
    have mapped := congrArg
      (List.any · fun key => decide (key.1 = input.runtimeId) && decide (key.2 = input.agentId))
      runtimes
    rw [List.any_map, List.any_map] at mapped
    exact mapped
  cases repository with
  | memory => simpa only [canSave, sameRuntimes, sameAgents] using fits
  | postgres =>
      simpa only [canSave, Postgres.heartbeatConstraints, sameAgents, sameIds, configRevisions]
        using fits

/-! ### A sample -/

/-- A runtime that is starting. -/
def sampleFleet : RuntimeStore :=
  { agents := [{ id := "agent-1", status := .of .starting, initializationStatus := .provisioning }]
    runtimes :=
      [{ id := "runtime-1", agentId := "agent-1", status := .starting, hermesVersion := none
         boundaryVersion := none, configRevisionId := none, lastHeartbeatAt := none }]
    configRevisions := [], heartbeats := [], components := [], telemetryEvents := []
    usageRollups := [], alerts := [] }

/-- A heartbeat with ten input tokens. -/
def sampleHeartbeat : HeartbeatInput :=
  { organizationId := "org-1", userId := "user-1", agentId := "agent-1"
    runtimeId := "runtime-1", sequence := 1, status := .healthy, runtimeVersion := none
    boundaryVersion := none, configRevisionId := none, queueDepth := 0, activeRuns := 0
    failedRuns := 0, observedAt := 100, components := [], events := []
    usage := some { bucketStart := 0, bucketSeconds := 60, model := none
                    amounts := fun counter => if counter = .inputTokens then 10 else 0 } }

/-- The clock at its delivery. -/
def sampleDelivery : HeartbeatEnv :=
  { now := 101, id := "heartbeat-1" }

/-- The runtime after the first delivery. -/
def sampleDelivered (repository : Repository) : RuntimeStore :=
  (saveHeartbeat repository sampleDelivery none sampleHeartbeat sampleFleet).2

/-- The first delivery. -/
def sampleDeliveryStep (repository : Repository) : Transition RuntimeStore FleetEvent :=
  ⟨sampleFleet, .heartbeat sampleDelivery none sampleHeartbeat, sampleDelivered repository⟩

theorem sampleDelivery_run (repository : Repository) :
    Run (fleet repository) [sampleDeliveryStep repository] (sampleDelivered repository) :=
  Run.step (Run.start ⟨List.nodup_singleton _, List.nodup_singleton _, rfl, rfl, rfl⟩) rfl

end BairuiPlatform
