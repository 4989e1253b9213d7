/-
Module: BairuiPlatform.Runtimes.Heartbeats
Purpose: saveAgentHeartbeat of both repositories, with the rows that it writes.
Trusted boundary: costs are counted in units of the column, random identifiers are not
  repeated
Main exports: HeartbeatInput, RuntimeStore, Memory.saveAgentHeartbeat,
  Postgres.saveAgentHeartbeat
-/
import BairuiPlatform.Foundations.Accumulation
import BairuiPlatform.Foundations.Tickets
import BairuiPlatform.Foundations.Transaction
import BairuiPlatform.Schema
import Mathlib.Algebra.Group.Pi.Basic
import Mathlib.Algebra.GroupWithZero.Nat

namespace BairuiPlatform

open Foundations

/-! ### Rows -/

/-- The counters of a usage report. -/
inductive UsageCounter where
  | inputTokens | outputTokens | estimatedCostUsd | runCount | failedRunCount | latencySumMs
deriving Repr, DecidableEq

/-- An amount for every counter. Costs are in units of the last decimal place of
`usage_rollups.estimated_cost_usd`. -/
abbrev UsageAmounts := UsageCounter → Nat

/-- The field `usage` of a heartbeat. -/
structure UsageInput where
  bucketStart : Nat
  bucketSeconds : Nat
  model : Option String
  amounts : UsageAmounts

/-- `usage_rollups`. -/
structure UsageRow where
  organizationId : String
  userId : String
  agentId : String
  runtimeId : String
  bucketStart : Nat
  bucketSeconds : Nat
  model : Option String
  amounts : UsageAmounts

/-- `CONTROL_LAYERS`. -/
inductive ControlLayer where
  | coreRuntime | serviceIntegration | dataStorage | channelBridge | uiExposure
deriving Repr, DecidableEq

/-- `TELEMETRY_SEVERITIES`. -/
inductive TelemetrySeverity where
  | debug | info | warning | error | critical
deriving Repr, DecidableEq

/-- An entry of the field `events` of a heartbeat. -/
structure TelemetryInput where
  layer : Option ControlLayer
  componentId : Option String
  eventType : String
  severity : TelemetrySeverity
  traceId : Option String
  metrics : Json
  occurredAt : Option Nat

/-- `telemetry_events`. -/
structure TelemetryRow where
  organizationId : String
  userId : String
  agentId : String
  runtimeId : String
  event : TelemetryInput
  receivedAt : Nat

/-- An entry of the field `components` of a heartbeat. -/
structure ComponentInput where
  layer : ControlLayer
  moduleId : String
  status : ObservationStatus
  version : Option String
  upstreamRef : Option String
  capabilities : List String
  metrics : Json
  observedAt : Option Nat

/-- `agent_components`. -/
structure ComponentRow where
  organizationId : String
  agentId : String
  runtimeId : String
  component : ComponentInput
  updatedAt : Nat

/-- The states of an alert. -/
inductive AlertStatus where
  | open | acknowledged | resolved | closed
deriving Repr, DecidableEq

/-- `alerts`. -/
structure AlertRow where
  organizationId : String
  agentId : String
  runtimeId : String
  code : String
  severity : String
  status : AlertStatus
  title : String
  summary : String
  firstSeenAt : Nat
  lastSeenAt : Nat
  resolvedAt : Option Nat
deriving Repr, DecidableEq

/-- The argument of `saveAgentHeartbeat`. -/
structure HeartbeatInput where
  organizationId : String
  userId : String
  agentId : String
  runtimeId : String
  sequence : Nat
  status : ObservationStatus
  runtimeVersion : Option String
  boundaryVersion : Option String
  configRevisionId : Option String
  queueDepth : Nat
  activeRuns : Nat
  failedRuns : Nat
  observedAt : Nat
  components : List ComponentInput
  events : List TelemetryInput
  usage : Option UsageInput

/-- `heartbeats`. -/
structure HeartbeatRow where
  id : String
  organizationId : String
  userId : String
  agentId : String
  runtimeId : String
  sequence : Nat
  status : ObservationStatus
  runtimeVersion : Option String
  boundaryVersion : Option String
  configRevisionId : Option String
  queueDepth : Nat
  activeRuns : Nat
  failedRuns : Nat
  observedAt : Nat
  receivedAt : Nat
deriving Repr, DecidableEq

/-- The values of `agents.status`: `active`, or the status of a runtime. -/
inductive AgentStatus where
  | active
  | of (status : RuntimeStatus)
deriving Repr, DecidableEq

/-- The columns of `agents` that heartbeats and receipts write. -/
structure FleetAgentRow where
  id : String
  status : AgentStatus
  initializationStatus : InitializationStatus
deriving Repr, DecidableEq

/-- The columns of `agent_runtimes` that heartbeats and receipts write. -/
structure FleetRuntimeRow where
  id : String
  agentId : String
  status : RuntimeStatus
  hermesVersion : Option String
  boundaryVersion : Option String
  configRevisionId : Option String
  lastHeartbeatAt : Option Nat
deriving Repr, DecidableEq

/-- The tables of runtimes and their telemetry. -/
structure RuntimeStore where
  agents : List FleetAgentRow
  runtimes : List FleetRuntimeRow
  configRevisions : List String
  heartbeats : List HeartbeatRow
  components : List ComponentRow
  telemetryEvents : List TelemetryRow
  usageRollups : List UsageRow
  alerts : List AlertRow

/-! ### What a heartbeat writes -/

/-- The clock and the random value of a call. -/
structure HeartbeatEnv where
  now : Nat
  id : String

/-- `runtimeStatus`. -/
def heartbeatRuntimeStatus : ObservationStatus → RuntimeStatus
  | .healthy => .ready
  | .unhealthy => .failed
  | .degraded | .unknown => .degraded

/-- `initializationStatus`. -/
def heartbeatInitializationStatus : ObservationStatus → InitializationStatus
  | .healthy => .ready
  | .unhealthy => .failed
  | .degraded | .unknown => .degraded

/-- The status of the agent. -/
def heartbeatAgentStatus : ObservationStatus → AgentStatus
  | .healthy => .active
  | .unhealthy => .of .failed
  | .degraded | .unknown => .of .degraded

namespace HeartbeatInput

/-- The row of a heartbeat. -/
def row (input : HeartbeatInput) (env : HeartbeatEnv) : HeartbeatRow :=
  { id := env.id, organizationId := input.organizationId, userId := input.userId
    agentId := input.agentId, runtimeId := input.runtimeId, sequence := input.sequence
    status := input.status, runtimeVersion := input.runtimeVersion
    boundaryVersion := input.boundaryVersion, configRevisionId := input.configRevisionId
    queueDepth := input.queueDepth, activeRuns := input.activeRuns
    failedRuns := input.failedRuns, observedAt := input.observedAt, receivedAt := env.now }

/-- The heartbeat of a runtime with a sequence is stored. -/
def stored (input : HeartbeatInput) (rows : List HeartbeatRow) : Bool :=
  rows.any fun row => row.runtimeId = input.runtimeId && row.sequence = input.sequence

/-- The runtime that a heartbeat is about. -/
def isRuntime (input : HeartbeatInput) (row : FleetRuntimeRow) : Bool :=
  row.id = input.runtimeId && row.agentId = input.agentId

/-- The columns of the runtime after a heartbeat. -/
def updateRuntime (input : HeartbeatInput) (row : FleetRuntimeRow) : FleetRuntimeRow :=
  { row with
    status := heartbeatRuntimeStatus input.status
    hermesVersion := input.runtimeVersion.or row.hermesVersion
    boundaryVersion := input.boundaryVersion.or row.boundaryVersion
    configRevisionId := input.configRevisionId.or row.configRevisionId
    lastHeartbeatAt := some input.observedAt }

/-- The columns of the agent after a heartbeat. -/
def updateAgent (input : HeartbeatInput) (row : FleetAgentRow) : FleetAgentRow :=
  { row with
    status := heartbeatAgentStatus input.status
    initializationStatus := heartbeatInitializationStatus input.status }

/-- The rows of the runtimes after a heartbeat. -/
def runtimes (input : HeartbeatInput) : List FleetRuntimeRow → List FleetRuntimeRow :=
  updateWhere input.isRuntime input.updateRuntime

/-- The rows of the agents after a heartbeat. -/
def agents (input : HeartbeatInput) : List FleetAgentRow → List FleetAgentRow :=
  updateWhere (fun row => row.id = input.agentId) input.updateAgent

/-- The telemetry of a heartbeat. -/
def telemetry (input : HeartbeatInput) (now : Nat) : List TelemetryRow :=
  input.events.map fun event =>
    { organizationId := input.organizationId, userId := input.userId, agentId := input.agentId
      runtimeId := input.runtimeId, event := event, receivedAt := now }

end HeartbeatInput

/-- An alert that somebody still has to deal with. -/
def AlertRow.isActive (row : AlertRow) : Bool :=
  [AlertStatus.open, .acknowledged].contains row.status

/-- The severity, the title and the summary of the alert about a heartbeat. -/
def AlertRow.report (input : HeartbeatInput) (row : AlertRow) : AlertRow :=
  { row with
    severity := if input.status = .unhealthy then "critical" else "medium"
    title := if input.status = .unhealthy then "Agent Runtime 不健康" else "Agent Runtime 降级"
    summary := "Runtime 上报状态：" ++ input.status.name
    lastSeenAt := input.observedAt }

/-- A new alert about a heartbeat. -/
def HeartbeatInput.alert (input : HeartbeatInput) : AlertRow :=
  AlertRow.report input
    { organizationId := input.organizationId, agentId := input.agentId
      runtimeId := input.runtimeId, code := "runtime.health", severity := "", status := .open
      title := "", summary := "", firstSeenAt := input.observedAt, lastSeenAt := 0
      resolvedAt := none }

/-! ### `MemoryPlatformRepository` -/

namespace Memory

/-- The alerts after a heartbeat. -/
def heartbeatAlerts (input : HeartbeatInput) (now : Nat) (alerts : List AlertRow) :
    List AlertRow :=
  let isHealth (row : AlertRow) : Bool :=
    row.agentId = input.agentId && row.code = "runtime.health" && row.isActive
  match input.status with
  | .degraded | .unhealthy =>
      if alerts.any isHealth then updateFirst isHealth (AlertRow.report input) alerts
      else alerts ++ [input.alert]
  | .healthy =>
      updateWhere
        (fun row => row.agentId = input.agentId &&
          ["runtime.health", "runtime.offline"].contains row.code && row.isActive)
        (fun row => { row with status := .resolved, resolvedAt := some now }) alerts
  | .unknown => alerts

/-- The components after a heartbeat: a map keyed by the runtime and the module. -/
def heartbeatComponents (input : HeartbeatInput) (now : Nat) (rows : List ComponentRow) :
    List ComponentRow :=
  input.components.foldl
    (fun rows component =>
      let new : ComponentRow :=
        { organizationId := input.organizationId, agentId := input.agentId
          runtimeId := input.runtimeId, component := component, updatedAt := now }
      upsert
        (fun row => row.runtimeId ++ ":" ++ row.component.moduleId =
          input.runtimeId ++ ":" ++ component.moduleId)
        (fun _ => new) new rows)
    rows

/-- The usage of a heartbeat, which is added as a row of its own. -/
def heartbeatUsage (input : HeartbeatInput) (rows : List UsageRow) : List UsageRow :=
  match input.usage with
  | some usage =>
      rows ++
        [{ organizationId := input.organizationId, userId := input.userId
           agentId := input.agentId, runtimeId := input.runtimeId
           bucketStart := usage.bucketStart, bucketSeconds := usage.bucketSeconds
           model := usage.model, amounts := usage.amounts }]
  | none => rows

/-- `saveAgentHeartbeat`. -/
def saveAgentHeartbeat (env : HeartbeatEnv) (input : HeartbeatInput) (store : RuntimeStore) :
    Option HeartbeatRow × RuntimeStore :=
  if store.runtimes.any input.isRuntime && store.agents.any (fun row => row.id = input.agentId)
  then
    (some (input.row env),
      { store with
        heartbeats :=
          if input.stored store.heartbeats then store.heartbeats
          else store.heartbeats ++ [input.row env]
        runtimes := input.runtimes store.runtimes
        agents := input.agents store.agents
        alerts := heartbeatAlerts input env.now store.alerts
        components := heartbeatComponents input env.now store.components
        telemetryEvents := store.telemetryEvents ++ input.telemetry env.now
        usageRollups := heartbeatUsage input store.usageRollups })
  else (none, store)

end Memory

/-! ### `PostgresPlatformRepository` -/

namespace Postgres

/-- The alerts after a heartbeat. -/
def heartbeatAlerts (input : HeartbeatInput) (now : Nat) (alerts : List AlertRow) :
    List AlertRow :=
  match input.status with
  | .degraded | .unhealthy =>
      upsert
        (fun row => row.agentId = input.agentId && row.code = "runtime.health" && row.isActive)
        (AlertRow.report input) input.alert alerts
  | .healthy =>
      updateWhere
        (fun row => row.agentId = input.agentId && row.runtimeId = input.runtimeId &&
          ["runtime.health", "runtime.offline"].contains row.code && row.isActive)
        (fun row =>
          { row with status := .resolved, resolvedAt := some (row.resolvedAt.getD now) }) alerts
  | .unknown => alerts

/-- The components after a heartbeat. -/
def heartbeatComponents (input : HeartbeatInput) (now : Nat) (rows : List ComponentRow) :
    List ComponentRow :=
  input.components.foldl
    (fun rows component =>
      let measured : ComponentInput :=
        { component with observedAt := some (component.observedAt.getD input.observedAt) }
      upsert
        (fun row => row.runtimeId = input.runtimeId &&
          row.component.moduleId = component.moduleId)
        (fun row => { row with component := measured, updatedAt := now })
        { organizationId := input.organizationId, agentId := input.agentId
          runtimeId := input.runtimeId, component := measured, updatedAt := now } rows)
    rows

/-- The primary key of `usage_rollups`. -/
def UsageInput.isBucket (usage : UsageInput) (agentId : String) (row : UsageRow) : Bool :=
  row.agentId = agentId && row.bucketStart = usage.bucketStart &&
    row.bucketSeconds = usage.bucketSeconds && row.model = some (usage.model.getD "unknown")

/-- The usage of a heartbeat, which is added to the row of its bucket. -/
def heartbeatUsage (input : HeartbeatInput) (rows : List UsageRow) : List UsageRow :=
  match input.usage with
  | some usage =>
      upsert (UsageInput.isBucket usage input.agentId)
        (fun row => { row with amounts := row.amounts + usage.amounts })
        { organizationId := input.organizationId, userId := input.userId
          agentId := input.agentId, runtimeId := input.runtimeId
          bucketStart := usage.bucketStart, bucketSeconds := usage.bucketSeconds
          model := some (usage.model.getD "unknown"), amounts := usage.amounts } rows
  | none => rows

/-- The constraints of `heartbeats` and `usage_rollups`. -/
def heartbeatConstraints (input : HeartbeatInput) (store : RuntimeStore) :
    List (Bool × String) :=
  [(store.agents.any fun row => row.id = input.agentId, "heartbeats_agent_id_fkey"),
    (store.runtimes.any fun row => row.id = input.runtimeId, "heartbeats_runtime_id_fkey"),
    (input.configRevisionId.all store.configRevisions.contains,
      "heartbeats_config_revision_id_fkey"),
    (0 < input.sequence, "heartbeats_sequence_check")]

/-- `saveAgentHeartbeat`. -/
def saveAgentHeartbeat (env : HeartbeatEnv) (input : HeartbeatInput) :
    Tx RuntimeStore String (Option HeartbeatRow) := do
  Tx.insert (heartbeatConstraints input) fun store =>
    { store with
      heartbeats :=
        if input.stored store.heartbeats then store.heartbeats
        else store.heartbeats ++ [input.row env] }
  Tx.write fun store => { store with runtimes := input.runtimes store.runtimes }
  Tx.write fun store => { store with agents := input.agents store.agents }
  Tx.write fun store => { store with alerts := heartbeatAlerts input env.now store.alerts }
  Tx.write fun store =>
    { store with components := heartbeatComponents input env.now store.components }
  Tx.write fun store =>
    { store with telemetryEvents := store.telemetryEvents ++
        (input.telemetry env.now).map fun row =>
          { row with
            event :=
              { row.event with
                occurredAt := some (row.event.occurredAt.getD input.observedAt) } } }
  Tx.insert
    (fun _ => [(input.usage.all fun usage =>
      [60, 300, 3600, 86400].contains usage.bucketSeconds, "usage_rollups_bucket_seconds_check")])
    fun store => { store with usageRollups := heartbeatUsage input store.usageRollups }
  Tx.read fun store => store.heartbeats.find? fun row =>
    row.runtimeId = input.runtimeId && row.sequence = input.sequence

end Postgres

end BairuiPlatform
