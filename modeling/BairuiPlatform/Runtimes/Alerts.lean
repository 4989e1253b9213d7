/-
Module: BairuiPlatform.Runtimes.Alerts
Purpose: The alerts of MemoryPlatformRepository: what heartbeats, resource samples and the
  offline sweep raise and resolve, and the status that an operator gives them.
Trusted boundary: measurements are exact numbers, the clock stands still during a call
Main exports: Alert, AlertStore, saveAgentHeartbeat, saveAgentResourceSamples,
  evaluateOfflineAlerts, updateAlertStatus, alertSystem, one_live_alert_iff
-/
import BairuiPlatform.Foundations.Slots
import BairuiPlatform.Foundations.Transition
import BairuiPlatform.Runtimes.Heartbeats
import Mathlib.Data.Rat.Floor

namespace BairuiPlatform

open Foundations

/-! ### Rows -/

/-- An alert of `MemoryPlatformRepository`. -/
structure Alert extends AlertRow where
  id : String
  createdAt : Nat
  acknowledgedBy : Option String
deriving Repr, DecidableEq

/-- The fields of an agent that alerts depend on. -/
structure WatchedAgent extends FleetAgentRow where
  organizationId : String
  ownerUserId : String
  desiredRuntimeState : DesiredRuntimeState
deriving Repr, DecidableEq

/-- The fields of a runtime that alerts depend on. -/
structure WatchedRuntime extends FleetRuntimeRow where
  organizationId : String
  deploymentId : Option String
deriving Repr, DecidableEq

/-- The fields of a deployment that a sample is checked against. -/
structure WatchedDeployment where
  id : String
  serverId : String
  agentId : String
  environment : String
deriving Repr, DecidableEq

/-- The fields of a server that a sample is checked against. -/
structure WatchedServer where
  id : String
  organizationId : String
deriving Repr, DecidableEq

/-- A sample of the resources of an agent, as a server reports it. -/
structure SampleInput where
  agentId : String
  runtimeId : String
  deploymentId : String
  sequence : Nat
  cpuPercent : Option Rat
  cpuCount : Option Nat
  memoryUsedBytes : Option Nat
  memoryLimitBytes : Option Nat
  hostStorageUsedBytes : Option Nat
  hostStorageLimitBytes : Option Nat
  observedAt : Nat
deriving Repr, DecidableEq

/-- A stored sample. -/
structure ResourceSample extends SampleInput where
  id : String
  organizationId : String
  userId : String
  serverId : String
  environment : String
  receivedAt : Nat
deriving Repr, DecidableEq

/-- The maps and lists of `MemoryPlatformRepository` that alerts depend on. -/
structure AlertStore where
  agents : List WatchedAgent
  runtimes : List WatchedRuntime
  deployments : List WatchedDeployment
  servers : List WatchedServer
  resourceSamples : List ResourceSample
  alerts : List Alert

namespace Alert

/-- An alert that is open or acknowledged. -/
def isLive (alert : Alert) : Bool :=
  alert.toAlertRow.isActive

/-- What an alert is about: its agent and its code. -/
def cause (alert : Alert) : String × String :=
  (alert.agentId, alert.code)

/-- A live alert of an agent with a code. -/
def isAbout (agentId code : String) (alert : Alert) : Bool :=
  alert.agentId = agentId && alert.code = code && alert.isLive

/-- `Object.assign(alert, { status: "resolved", resolvedAt })`. -/
def resolve (now : Nat) (alert : Alert) : Alert :=
  { alert with status := .resolved, resolvedAt := some now }

end Alert

/-- A live alert about the cause is updated; where there is none, a new one is. -/
def raise (agentId code : String) (report : Alert → Alert) (new : Alert)
    (alerts : List Alert) : List Alert :=
  if alerts.any (Alert.isAbout agentId code) then
    updateFirst (Alert.isAbout agentId code) report alerts
  else alerts ++ [report new]

namespace Memory

/-! ### Heartbeats -/

/-- The severity, the title, the summary and the time of the alert about a heartbeat. -/
def reportHealth (input : HeartbeatInput) (alert : Alert) : Alert :=
  { alert with toAlertRow := AlertRow.report input alert.toAlertRow }

/-- A new alert about a heartbeat. -/
def newHealthAlert (env : HeartbeatEnv) (alertId : String) (input : HeartbeatInput) : Alert :=
  { input.alert with id := alertId, createdAt := env.now, acknowledgedBy := none }

/-- The alerts after a heartbeat. -/
def healthAlerts (env : HeartbeatEnv) (alertId : String) (input : HeartbeatInput)
    (alerts : List Alert) : List Alert :=
  match input.status with
  | .degraded | .unhealthy =>
      raise input.agentId "runtime.health" (reportHealth input)
        (newHealthAlert env alertId input) alerts
  | .healthy =>
      updateWhere
        (fun alert => alert.agentId = input.agentId &&
          ["runtime.health", "runtime.offline"].contains alert.code && alert.isLive)
        (Alert.resolve env.now) alerts
  | .unknown => alerts

/-- The rows of the alerts are those of `heartbeatAlerts`. -/
theorem map_healthAlerts (env : HeartbeatEnv) (alertId : String) (input : HeartbeatInput)
    (alerts : List Alert) :
    (healthAlerts env alertId input alerts).map Alert.toAlertRow =
      heartbeatAlerts input env.now (alerts.map Alert.toAlertRow) := by
  have raised : (raise input.agentId "runtime.health" (reportHealth input)
      (newHealthAlert env alertId input) alerts).map Alert.toAlertRow =
      let isHealth (row : AlertRow) : Bool :=
        row.agentId = input.agentId && row.code = "runtime.health" && row.isActive
      if (alerts.map Alert.toAlertRow).any isHealth then
        updateFirst isHealth (AlertRow.report input) (alerts.map Alert.toAlertRow)
      else alerts.map Alert.toAlertRow ++ [input.alert] := by
    have same : (alerts.map Alert.toAlertRow).any (fun row =>
        row.agentId = input.agentId && row.code = "runtime.health" && row.isActive) =
          alerts.any (Alert.isAbout input.agentId "runtime.health") := List.any_map
    unfold raise
    dsimp only
    rw [same]
    split
    · exact map_updateFirst (fun _ => rfl) fun _ => rfl
    · rw [List.map_append]
      rfl
  unfold healthAlerts heartbeatAlerts
  cases input.status with
  | degraded => exact raised
  | unhealthy => exact raised
  | healthy => exact map_updateWhere_of_respects (fun _ => rfl) fun _ => rfl
  | unknown => rfl

/-- `saveAgentHeartbeat`, with what it writes to runtimes, agents and alerts. -/
def reportHeartbeat (env : HeartbeatEnv) (alertId : String) (input : HeartbeatInput)
    (store : AlertStore) : Option HeartbeatRow × AlertStore :=
  if store.runtimes.any (fun row => input.isRuntime row.toFleetRuntimeRow) &&
      store.agents.any (fun row => row.id = input.agentId)
  then
    (some (input.row env),
      { store with
        runtimes := updateWhere (fun row => input.isRuntime row.toFleetRuntimeRow)
          (fun row => { row with toFleetRuntimeRow := input.updateRuntime row.toFleetRuntimeRow })
          store.runtimes
        agents := updateWhere (fun row => row.id = input.agentId)
          (fun row => { row with toFleetAgentRow := input.updateAgent row.toFleetAgentRow })
          store.agents
        alerts := healthAlerts env alertId input store.alerts })
  else (none, store)

/-! ### Resource samples -/

/-- `value.toFixed(1)` of a number that is not negative. -/
def toFixed1 (value : Rat) : String :=
  let tenths := (value * 10 + 1 / 2).floor.toNat
  toString (tenths / 10) ++ "." ++ toString (tenths % 10)

/-- One of the `checks` of a sample. -/
structure ResourceCheck where
  code : String
  value : Option Rat
  threshold : Nat
  severity : String
  title : String

/-- The part of a limit that is used, in percent; nothing without a limit. A missing figure
counts as zero in the division. -/
def usedPercent (used limit : Option Nat) : Option Rat :=
  match limit with
  | some limit => if 0 < limit then some ((used.getD 0 : Rat) / limit * 100) else none
  | none => none

/-- `checks`. -/
def resourceChecks (resource : ResourceSample) : List ResourceCheck :=
  [{ code := "resource.cpu.high"
     value := resource.cpuPercent.map fun percent =>
      percent / (max 1 (resource.cpuCount.getD 1) : Nat)
     threshold := 90, severity := "high", title := "Agent CPU 使用率过高" },
    { code := "resource.memory.high"
      value := usedPercent resource.memoryUsedBytes resource.memoryLimitBytes
      threshold := 90, severity := "high", title := "Agent 内存使用率过高" },
    { code := "resource.storage.high"
      value := usedPercent resource.hostStorageUsedBytes resource.hostStorageLimitBytes
      threshold := 90, severity := "critical", title := "Agent 主机存储使用率过高" }]

/-- What a check assigns to the alert when its value reaches the threshold. -/
def reportResource (resource : ResourceSample) (check : ResourceCheck) (value : Rat)
    (alert : Alert) : Alert :=
  { alert with
    severity := check.severity
    title := check.title
    summary := "当前使用率 " ++ toFixed1 value ++ "%，阈值 " ++ toString check.threshold ++ "%"
    lastSeenAt := resource.observedAt }

/-- A new alert of a check. -/
def newResourceAlert (alertId : String) (resource : ResourceSample) (check : ResourceCheck) :
    Alert :=
  { organizationId := resource.organizationId, agentId := resource.agentId
    runtimeId := resource.runtimeId, code := check.code, severity := "", status := .open
    title := "", summary := "", firstSeenAt := resource.observedAt, lastSeenAt := 0
    resolvedAt := none, id := alertId, createdAt := resource.receivedAt
    acknowledgedBy := none }

/-- One round of the loop of `#evaluateResourceAlerts`. -/
def evaluateCheck (alertId : String → String) (resource : ResourceSample) (alerts : List Alert)
    (check : ResourceCheck) : List Alert :=
  match check.value with
  | some value =>
      if (check.threshold : Rat) ≤ value then
        raise resource.agentId check.code (reportResource resource check value)
          (newResourceAlert (alertId check.code) resource check) alerts
      else
        updateFirst (Alert.isAbout resource.agentId check.code)
          (Alert.resolve resource.receivedAt) alerts
  | none =>
      updateFirst (Alert.isAbout resource.agentId check.code)
        (Alert.resolve resource.receivedAt) alerts

/-- `#evaluateResourceAlerts`. -/
def evaluateResourceAlerts (alertId : String → String) (resource : ResourceSample)
    (alerts : List Alert) : List Alert :=
  (resourceChecks resource).foldl (evaluateCheck alertId resource) alerts

/-- The clock and the random values of a sample. -/
structure SampleEnv where
  now : Nat
  id : String
  alertId : String → String

/-- The sample with the fields that the repository adds, if it belongs to a deployment of the
server. -/
def resourceOf (env : SampleEnv) (serverId : String) (sample : SampleInput)
    (store : AlertStore) : Option ResourceSample := do
  let deployment ← store.deployments.find? fun row =>
    row.id = sample.deploymentId && row.serverId = serverId && row.agentId = sample.agentId
  let runtime ← store.runtimes.find? fun row => row.id = sample.runtimeId
  let agent ← store.agents.find? fun row => row.id = sample.agentId
  let _ ← store.servers.find? fun row =>
    row.id = serverId && row.organizationId = agent.organizationId
  if runtime.agentId = agent.id && runtime.deploymentId = some deployment.id then
    some
      { sample with
        id := env.id, organizationId := agent.organizationId, userId := agent.ownerUserId
        serverId := serverId, environment := deployment.environment, receivedAt := env.now }
  else none

/-- A sample is stored in the place of an earlier one with its sequence, under the id of
that. -/
def storeSample (resource : ResourceSample) (samples : List ResourceSample) :
    List ResourceSample :=
  let isSame (row : ResourceSample) : Bool :=
    row.runtimeId = resource.runtimeId && row.sequence = resource.sequence
  if samples.any isSame then
    updateFirst isSame (fun row => { resource with id := row.id }) samples
  else samples ++ [resource]

/-- `saveAgentResourceSamples`. The samples before one that does not belong to the server stay
saved. -/
def saveAgentResourceSamples (serverId : String) :
    List (SampleEnv × SampleInput) → AlertStore → Except String (List ResourceSample) × AlertStore
  | [], store => (.ok [], store)
  | (env, sample) :: rest, store =>
      match resourceOf env serverId sample store with
      | none => (.error "resource_identity_mismatch", store)
      | some resource =>
          let answer := saveAgentResourceSamples serverId rest
            { store with
              resourceSamples := storeSample resource store.resourceSamples
              alerts := evaluateResourceAlerts env.alertId resource store.alerts }
          (answer.1.map (resource :: ·), answer.2)

/-! ### The offline sweep -/

/-- The argument of `evaluateOfflineAlerts`. -/
structure SweepInput where
  organizationId : Option String
  staleAfterMs : Nat

/-- The clock of a sweep in milliseconds, and its random value for each runtime. -/
structure SweepEnv where
  now : Nat
  alertId : String → String

/-- No heartbeat is expected of the runtime. -/
def isExempt (agents : List WatchedAgent) (runtime : WatchedRuntime) : Bool :=
  match agents.find? fun row => row.id = runtime.agentId with
  | none => true
  | some agent =>
      agent.desiredRuntimeState ≠ .running ||
        [RuntimeStatus.uninitialized, .stopped, .suspended, .deleting, .deleted].contains
          runtime.status

/-- `stale`. -/
def isStale (input : SweepInput) (env : SweepEnv) (runtime : WatchedRuntime) : Bool :=
  runtime.lastHeartbeatAt.all fun last => last + input.staleAfterMs < env.now

/-- What a sweep assigns to the alert of a runtime. -/
def reportOffline (input : SweepInput) (env : SweepEnv) (alert : Alert) : Alert :=
  { alert with
    summary := "超过 " ++ toString ((input.staleAfterMs + 500) / 1000) ++ " 秒未收到心跳"
    lastSeenAt := env.now }

/-- A new alert of a sweep. -/
def newOfflineAlert (env : SweepEnv) (runtime : WatchedRuntime) : Alert :=
  { organizationId := runtime.organizationId, agentId := runtime.agentId
    runtimeId := runtime.id, code := "runtime.offline", severity := "high", status := .open
    title := "Agent Runtime 离线", summary := "", firstSeenAt := env.now, lastSeenAt := 0
    resolvedAt := none, id := env.alertId runtime.id, createdAt := env.now
    acknowledgedBy := none }

/-- One round of the loop of `evaluateOfflineAlerts`: the places of `results`, and the
alerts. -/
def sweepRuntime (input : SweepInput) (env : SweepEnv) (agents : List WatchedAgent)
    (swept : List Nat × List Alert) (runtime : WatchedRuntime) : List Nat × List Alert :=
  let isExisting := Alert.isAbout runtime.agentId "runtime.offline"
  if input.organizationId.any (· ≠ runtime.organizationId) then swept
  else if !isExempt agents runtime && isStale input env runtime then
    (swept.1 ++ [(swept.2.findIdx? isExisting).getD swept.2.length],
      raise runtime.agentId "runtime.offline" (reportOffline input env)
        (newOfflineAlert env runtime) swept.2)
  else (swept.1, updateFirst isExisting (Alert.resolve env.now) swept.2)

/-- `evaluateOfflineAlerts`, which answers with the alerts that it raised or updated. -/
def evaluateOfflineAlerts (input : SweepInput) (env : SweepEnv) (store : AlertStore) :
    List Alert × AlertStore :=
  let swept := store.runtimes.foldl (sweepRuntime input env store.agents) ([], store.alerts)
  (swept.1.filterMap (swept.2[·]?), { store with alerts := swept.2 })

/-! ### The status of an alert -/

/-- The argument of `updateAlertStatus`. -/
structure AlertStatusInput where
  alertId : String
  status : AlertStatus
  actorUserId : String
deriving Repr, DecidableEq

/-- What `updateAlertStatus` writes. -/
def setStatus (input : AlertStatusInput) (now : Nat) (alert : Alert) : Alert :=
  { alert with
    status := input.status
    acknowledgedBy :=
      if input.status = .acknowledged then some input.actorUserId else alert.acknowledgedBy
    resolvedAt :=
      if [AlertStatus.resolved, .closed].contains input.status then some now
      else alert.resolvedAt }

/-- `updateAlertStatus`. -/
def updateAlertStatus (input : AlertStatusInput) (now : Nat) (store : AlertStore) :
    Option Alert × AlertStore :=
  let isNamed (alert : Alert) : Bool := alert.id = input.alertId
  ((store.alerts.find? isNamed).map (setStatus input now),
    { store with alerts := updateFirst isNamed (setStatus input now) store.alerts })

/-- The statuses that the route lets through. -/
def routeStatuses : List AlertStatus :=
  [.acknowledged, .resolved]

end Memory

/-! ### At most one live alert about a cause -/

/-- What an operation keeps of an alert that is there: its cause, and that it is over. -/
def Alert.Follows (old new : Alert) : Prop :=
  new.cause = old.cause ∧ (new.isLive = true → old.isLive = true)

theorem Alert.Follows.refl (alert : Alert) : Alert.Follows alert alert :=
  ⟨rfl, fun live => live⟩

theorem Alert.resolve_follows (now : Nat) (alert : Alert) :
    Alert.Follows alert (alert.resolve now) :=
  ⟨rfl, fun live => by simp [Alert.isLive, Alert.resolve, AlertRow.isActive] at live⟩

theorem Alert.isAbout_eq_true {agentId code : String} {alert : Alert} :
    alert.isAbout agentId code = true ↔ alert.isLive = true ∧ alert.cause = (agentId, code) := by
  simp only [Alert.isAbout, Alert.cause, Bool.and_eq_true, decide_eq_true_eq, Prod.mk.injEq]
  tauto

/-- No two live alerts have one cause. -/
abbrev SoleAlerts (alerts : List Alert) : Prop :=
  Sole Alert.isLive Alert.cause alerts

namespace SoleAlerts

variable {alerts : List Alert}

/-- Alerts that are updated in place. -/
theorem updateFirst (sole : SoleAlerts alerts) {selected : Alert → Bool} {change : Alert → Alert}
    (follows : ∀ alert, Alert.Follows alert (change alert)) :
    SoleAlerts (Foundations.updateFirst selected change alerts) :=
  Sole.grown sole (Grown.updateFirst Alert.Follows.refl fun alert _ => follows alert)

/-- A cause that is raised. -/
theorem raise (sole : SoleAlerts alerts) {agentId code : String} {report : Alert → Alert}
    {new : Alert} (follows : ∀ alert, Alert.Follows alert (report alert))
    (about : new.cause = (agentId, code)) :
    SoleAlerts (BairuiPlatform.raise agentId code report new alerts) := by
  unfold BairuiPlatform.raise
  split
  · exact sole.updateFirst follows
  · rename_i absent
    apply Sole.snoc sole
    intro other member live same
    apply absent
    apply List.any_eq_true.mpr
    refine ⟨other, member, Alert.isAbout_eq_true.mpr ⟨live, ?_⟩⟩
    exact same.trans ((follows new).1.trans about)

theorem healthAlerts (sole : SoleAlerts alerts) (env : HeartbeatEnv) (alertId : String)
    (input : HeartbeatInput) : SoleAlerts (Memory.healthAlerts env alertId input alerts) := by
  unfold Memory.healthAlerts
  split
  · exact sole.raise (fun _ => ⟨rfl, fun live => live⟩) rfl
  · exact sole.raise (fun _ => ⟨rfl, fun live => live⟩) rfl
  · exact Sole.grown sole
      (Grown.updateWhere Alert.Follows.refl fun alert _ _ => alert.resolve_follows env.now)
  · exact sole

theorem evaluateCheck (sole : SoleAlerts alerts) (alertId : String → String)
    (resource : ResourceSample) (check : Memory.ResourceCheck) :
    SoleAlerts (Memory.evaluateCheck alertId resource alerts check) := by
  unfold Memory.evaluateCheck
  split
  · split
    · exact sole.raise (fun _ => ⟨rfl, fun live => live⟩) rfl
    · exact sole.updateFirst (Alert.resolve_follows _)
  · exact sole.updateFirst (Alert.resolve_follows _)

theorem evaluateResourceAlerts (sole : SoleAlerts alerts) (alertId : String → String)
    (resource : ResourceSample) :
    SoleAlerts (Memory.evaluateResourceAlerts alertId resource alerts) := by
  unfold Memory.evaluateResourceAlerts
  induction Memory.resourceChecks resource generalizing alerts with
  | nil => exact sole
  | cons check checks ih => exact ih (sole.evaluateCheck alertId resource check)

theorem saveAgentResourceSamples {store : AlertStore} (sole : SoleAlerts store.alerts)
    (serverId : String) (reports : List (Memory.SampleEnv × SampleInput)) :
    SoleAlerts (Memory.saveAgentResourceSamples serverId reports store).2.alerts := by
  induction reports generalizing store with
  | nil => exact sole
  | cons report rest ih =>
      rw [Memory.saveAgentResourceSamples]
      split
      · exact sole
      · exact ih (sole.evaluateResourceAlerts _ _)

theorem sweepRuntime {swept : List Nat × List Alert} (sole : SoleAlerts swept.2)
    (input : Memory.SweepInput) (env : Memory.SweepEnv) (agents : List WatchedAgent)
    (runtime : WatchedRuntime) :
    SoleAlerts (Memory.sweepRuntime input env agents swept runtime).2 := by
  unfold Memory.sweepRuntime
  dsimp only
  split
  · exact sole
  · split
    · exact sole.raise (fun _ => ⟨rfl, fun live => live⟩) rfl
    · exact sole.updateFirst (Alert.resolve_follows _)

theorem evaluateOfflineAlerts {store : AlertStore} (sole : SoleAlerts store.alerts)
    (input : Memory.SweepInput) (env : Memory.SweepEnv) :
    SoleAlerts (Memory.evaluateOfflineAlerts input env store).2.alerts := by
  unfold Memory.evaluateOfflineAlerts
  suffices all : ∀ swept : List Nat × List Alert, SoleAlerts swept.2 →
      SoleAlerts (store.runtimes.foldl (Memory.sweepRuntime input env store.agents) swept).2 from
    all ([], store.alerts) sole
  induction store.runtimes with
  | nil => exact fun swept kept => kept
  | cons runtime runtimes ih =>
      intro swept kept
      exact ih _ (kept.sweepRuntime input env store.agents runtime)

end SoleAlerts

/-! ### Runs -/

/-- A call that can change the alerts, or one that changes nothing but other tables. -/
inductive AlertCall where
  | heartbeat (env : HeartbeatEnv) (alertId : String) (input : HeartbeatInput)
  | samples (serverId : String) (reports : List (Memory.SampleEnv × SampleInput))
  | sweep (input : Memory.SweepInput) (env : Memory.SweepEnv)
  | status (input : Memory.AlertStatusInput) (now : Nat)
  | elsewhere (tables : AlertStore)

namespace AlertCall

/-- The store after a call. -/
def after (call : AlertCall) (store : AlertStore) : AlertStore :=
  match call with
  | heartbeat env alertId input => (Memory.reportHeartbeat env alertId input store).2
  | samples serverId reports => (Memory.saveAgentResourceSamples serverId reports store).2
  | sweep input env => (Memory.evaluateOfflineAlerts input env store).2
  | status input now => (Memory.updateAlertStatus input now store).2
  | elsewhere tables => { tables with alerts := store.alerts }

/-- The route lets the status of the call through. -/
def Admitted : AlertCall → Prop
  | status input _ => input.status ∈ Memory.routeStatuses
  | _ => True

/-- The call acknowledges an alert that is over while another one about its cause is live. -/
def Revives (call : AlertCall) (store : AlertStore) : Prop :=
  match call with
  | status input _ =>
      input.status = .acknowledged ∧
        ∃ alert, store.alerts.find? (fun alert => alert.id = input.alertId) = some alert ∧
          alert.isLive = false ∧
            ∃ other ∈ store.alerts, other.isLive = true ∧ other.cause = alert.cause
  | _ => False

end AlertCall

/-- The repository from its start, under calls in any order. -/
def alertSystem : TransitionSystem AlertStore AlertCall where
  initial store := store.alerts = []
  step before call after := call.Admitted ∧ call.after before = after

theorem Foundations.Run.call {history : List (Transition AlertStore AlertCall)}
    {store : AlertStore} (run : Run alertSystem history store) (call : AlertCall)
    (admitted : call.Admitted) :
    Run alertSystem (⟨store, call, call.after store⟩ :: history) (call.after store) :=
  run.step ⟨admitted, rfl⟩

/-- For each agent and code at most one alert is open or acknowledged. -/
def AlertStore.OneLive (store : AlertStore) : Prop :=
  ∀ agentId code, store.alerts.countP (Alert.isAbout agentId code) ≤ 1

theorem AlertStore.oneLive_iff {store : AlertStore} :
    store.OneLive ↔ SoleAlerts store.alerts := by
  have same : ∀ agentId code, Alert.isAbout agentId code =
      fun alert => alert.isLive && alert.cause = (agentId, code) := by
    intro agentId code
    funext alert
    rw [Bool.eq_iff_iff, Alert.isAbout_eq_true, Bool.and_eq_true, decide_eq_true_eq]
  refine Iff.trans ?_ Sole.iff_countP.symm
  simp only [AlertStore.OneLive, same, Prod.forall]

/-- A status that the route lets through breaks the uniqueness just if it revives an alert. -/
theorem soleAlerts_updateAlertStatus {store : AlertStore} (sole : SoleAlerts store.alerts)
    {input : Memory.AlertStatusInput} {now : Nat} (admitted : input.status ∈ Memory.routeStatuses) :
    SoleAlerts (Memory.updateAlertStatus input now store).2.alerts ↔
      ¬ (AlertCall.status input now).Revives store := by
  have live_iff : ∀ alert : Alert,
      (Memory.setStatus input now alert).isLive = true ↔ input.status = .acknowledged := by
    intro alert
    have either : input.status = .acknowledged ∨ input.status = .resolved := by
      simpa [Memory.routeStatuses] using admitted
    rcases either with acknowledged | resolved
    · simp [Alert.isLive, Memory.setStatus, AlertRow.isActive, acknowledged]
    · simp [Alert.isLive, Memory.setStatus, AlertRow.isActive, resolved]
  unfold Memory.updateAlertStatus AlertCall.Revives
  dsimp only
  cases found : store.alerts.find? fun alert => alert.id = input.alertId with
  | none =>
      rw [updateFirst_of_none found]
      refine iff_of_true sole ?_
      rintro ⟨-, alert, named, -⟩
      cases named
  | some alert =>
      have replaced : Replaced alert (Memory.setStatus input now alert) store.alerts _ :=
        replaced_updateFirst found
      refine (Sole.replaced_iff sole replaced rfl).trans ?_
      rw [live_iff]
      constructor
      · rintro kept ⟨acknowledged, named, found, ended, other, member, live, same⟩
        cases found
        rcases kept acknowledged with was | free
        · rw [ended] at was
          cases was
        · exact free other member live same
      · intro kept acknowledged
        cases was : alert.isLive with
        | true => exact .inl rfl
        | false =>
            refine .inr fun other member live same => kept ?_
            exact ⟨acknowledged, alert, rfl, was, other, member, live, same⟩

/-- A call breaks the uniqueness just if it revives an alert. -/
theorem AlertCall.soleAlerts_after {call : AlertCall} {store : AlertStore}
    (sole : SoleAlerts store.alerts) (admitted : call.Admitted) :
    SoleAlerts (call.after store).alerts ↔ ¬ call.Revives store := by
  cases call with
  | heartbeat env alertId input =>
      refine iff_of_true ?_ id
      unfold AlertCall.after Memory.reportHeartbeat
      dsimp only
      split
      · exact sole.healthAlerts env alertId input
      · exact sole
  | samples serverId reports =>
      exact iff_of_true (sole.saveAgentResourceSamples serverId reports) id
  | sweep input env => exact iff_of_true (sole.evaluateOfflineAlerts input env) id
  | status input now => exact soleAlerts_updateAlertStatus sole admitted
  | elsewhere tables => exact iff_of_true sole id

/-- Throughout a run at most one alert about a cause is live, if and only if no call of the
run acknowledges an alert that is over while another one about its cause is live. -/
theorem one_live_alert_iff {history : List (Transition AlertStore AlertCall)}
    {store : AlertStore} (run : Run alertSystem history store) :
    (∀ transition ∈ history, transition.after.OneLive) ↔
      ∀ transition ∈ history, ¬ transition.label.Revives transition.before := by
  apply run.always_iff AlertStore.OneLive
    (fun transition => ¬ transition.label.Revives transition.before)
  · intro start initial
    have empty : start.alerts = [] := initial
    rw [AlertStore.oneLive_iff, empty]
    exact Sole.nil
  · rintro earlier before call after ran one ⟨admitted, rfl⟩
    rw [AlertStore.oneLive_iff] at one ⊢
    exact AlertCall.soleAlerts_after one admitted

/-! ### An alert that is acknowledged late -/

/-- A repository with an agent and its runtime. -/
def sampleAlerts : AlertStore :=
  { agents :=
      [{ id := "agent", status := .active, initializationStatus := .ready
         organizationId := "org", ownerUserId := "owner", desiredRuntimeState := .running }]
    runtimes :=
      [{ id := "runtime", agentId := "agent", status := .ready, hermesVersion := none
         boundaryVersion := none, configRevisionId := none, lastHeartbeatAt := none
         organizationId := "org", deploymentId := some "deployment" }]
    deployments := [], servers := [], resourceSamples := [], alerts := [] }

/-- A heartbeat of the runtime. -/
def sampleBeat (sequence : Nat) (status : ObservationStatus) (alertId : String) : AlertCall :=
  .heartbeat { now := sequence, id := "heartbeat" } alertId
    { organizationId := "org", userId := "owner", agentId := "agent", runtimeId := "runtime"
      sequence := sequence, status := status, runtimeVersion := none, boundaryVersion := none
      configRevisionId := none, queueDepth := 0, activeRuns := 0, failedRuns := 0
      observedAt := sequence, components := [], events := [], usage := none }

/-- An operator acknowledges the first alert. -/
def sampleAcknowledgement : AlertCall :=
  .status { alertId := "first", status := .acknowledged, actorUserId := "admin" } 4

/-- The first alert, which nobody has dealt with yet. -/
def sampleRaised : AlertStore :=
  (sampleBeat 1 .unhealthy "first").after sampleAlerts

theorem sampleRaised_run :
    Run alertSystem [⟨sampleAlerts, sampleBeat 1 .unhealthy "first", sampleRaised⟩]
      sampleRaised := by
  have start : Run alertSystem [] sampleAlerts := .start rfl
  exact start.call _ trivial

theorem sampleAcknowledgement_admitted : sampleAcknowledgement.Admitted := by
  simp [AlertCall.Admitted, sampleAcknowledgement, Memory.routeStatuses]

/-- An alert is acknowledged while it is open. -/
theorem one_live_alert_iff_sample :
    (∀ transition ∈
      [Transition.mk sampleRaised sampleAcknowledgement
          (sampleAcknowledgement.after sampleRaised),
        ⟨sampleAlerts, sampleBeat 1 .unhealthy "first", sampleRaised⟩],
      transition.after.OneLive) ↔
    ∀ transition ∈
      [Transition.mk sampleRaised sampleAcknowledgement
          (sampleAcknowledgement.after sampleRaised),
        ⟨sampleAlerts, sampleBeat 1 .unhealthy "first", sampleRaised⟩],
      ¬ transition.label.Revives transition.before :=
  one_live_alert_iff (sampleRaised_run.call _ sampleAcknowledgement_admitted)

/-- The runtime recovers and fails again, and then the first alert is acknowledged: both
alerts are live. -/
theorem late_acknowledgement_revives_alert :
    ¬ ∀ history store, Run alertSystem history store →
      ∀ transition ∈ history, transition.after.OneLive := by
  intro unique
  have recovered := sampleRaised_run.call (sampleBeat 2 .healthy "none") trivial
  have failed := recovered.call (sampleBeat 3 .unhealthy "second") trivial
  have acknowledged := failed.call sampleAcknowledgement sampleAcknowledgement_admitted
  have few := unique _ _ acknowledged _ List.mem_cons_self "agent" "runtime.health"
  exact absurd few (by decide +kernel)

end BairuiPlatform
