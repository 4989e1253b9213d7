/-
Module: BairuiPlatform.Runtimes.Usage
Purpose: What repeated heartbeats do to usage and telemetry, over every run and in either
  repository.
Trusted boundary: counters do not overflow their columns
Main exports: usageTotal, saveAgain, usageTotal_eq, heartbeat_replay_iff
-/
import BairuiPlatform.Runtimes.Fleet

namespace BairuiPlatform

open Foundations

/-! ### Sums -/

/-- What a heartbeat reports. -/
def HeartbeatInput.amounts (input : HeartbeatInput) : UsageAmounts :=
  match input.usage with
  | some usage => usage.amounts
  | none => 0

/-- The usage of an agent by the rows of `usage_rollups`. -/
def usageTotal (agentId : String) (rows : List UsageRow) : UsageAmounts :=
  (rows.map fun row => if row.agentId = agentId then row.amounts else 0).sum

/-- The usage that an agent reported in some heartbeats. -/
def reportedUsage (agentId : String) (reports : List HeartbeatDelivery) : UsageAmounts :=
  (reports.map fun report =>
    if report.input.agentId = agentId then report.input.amounts else 0).sum

/-- The key under which heartbeats are stored once. -/
def HeartbeatDelivery.key (report : HeartbeatDelivery) : String × Nat :=
  (report.input.runtimeId, report.input.sequence)

/-- Amounts that add up to nothing are nothing. -/
theorem sum_eq_zero_iff {amounts : List UsageAmounts} :
    amounts.sum = 0 ↔ ∀ amount ∈ amounts, amount = 0 := by
  induction amounts with
  | nil => simp
  | cons amount amounts ih =>
      rw [List.sum_cons, List.forall_mem_cons, ← ih]
      constructor
      · intro nothing
        have each : ∀ counter, amount counter = 0 ∧ amounts.sum counter = 0 := by
          intro counter
          have at_counter := congrFun nothing counter
          simp only [Pi.add_apply, Pi.zero_apply] at at_counter
          omega
        exact ⟨funext fun counter => (each counter).1, funext fun counter => (each counter).2⟩
      · intro ⟨first, rest⟩
        rw [first, rest, add_zero]

/-- Heartbeats without usage for the agent. -/
theorem reportedUsage_eq_zero {agentId : String} {reports : List HeartbeatDelivery} :
    reportedUsage agentId reports = 0 ↔
      ∀ report ∈ reports, report.input.agentId = agentId → report.input.amounts = 0 := by
  unfold reportedUsage
  rw [sum_eq_zero_iff, List.forall_mem_map]
  apply forall₂_congr
  intro report member
  split
  · rename_i same
    exact ⟨fun nothing _ => nothing, fun nothing => nothing same⟩
  · rename_i different
    exact ⟨fun _ same => absurd same different, fun _ => rfl⟩

/-! ### One heartbeat -/

/-- The primary key of `usage_rollups`. -/
def UsageRow.bucket (row : UsageRow) : String × Nat × Nat × Option String :=
  (row.agentId, row.bucketStart, row.bucketSeconds, row.model)

/-- The row of the usage of a heartbeat is there: Postgres has one for each bucket. -/
def HasBucket (repository : Repository) (input : HeartbeatInput) (rows : List UsageRow) : Prop :=
  repository = .postgres → ∀ usage, input.usage = some usage →
    rows.any (Postgres.UsageInput.isBucket usage input.agentId) = true

/-- Postgres keeps one row for each bucket. -/
def BucketsKeyed (repository : Repository) (rows : List UsageRow) : Prop :=
  repository = .postgres → Keyed UsageRow.bucket rows

theorem isBucket_iff {usage : UsageInput} {agentId : String} {row : UsageRow} :
    Postgres.UsageInput.isBucket usage agentId row = true ↔
      row.bucket =
        (agentId, usage.bucketStart, usage.bucketSeconds, some (usage.model.getD "unknown")) := by
  simp only [Postgres.UsageInput.isBucket, UsageRow.bucket, Bool.and_eq_true,
    decide_eq_true_eq, Prod.mk.injEq, and_assoc]

/-- A heartbeat adds what it reports to the usage of its agent. -/
theorem usageTotal_heartbeatUsage {repository : Repository} {input : HeartbeatInput}
    {rows : List UsageRow} (keyed : BucketsKeyed repository rows) (agentId : String) :
    usageTotal agentId (heartbeatUsage repository input rows) =
      usageTotal agentId rows + if input.agentId = agentId then input.amounts else 0 := by
  unfold usageTotal
  cases reported : input.usage with
  | none =>
      have nothing : input.amounts = 0 := by
        simp only [HeartbeatInput.amounts, reported]
      cases repository <;>
        simp only [heartbeatUsage, Memory.heartbeatUsage, Postgres.heartbeatUsage, reported,
          nothing, ite_self, add_zero]
  | some usage =>
      have amounts : input.amounts = usage.amounts := by
        simp only [HeartbeatInput.amounts, reported]
      rw [amounts]
      cases repository with
      | memory =>
          simp only [heartbeatUsage, Memory.heartbeatUsage, reported, List.map_append,
            List.sum_append, List.map_singleton, List.sum_singleton]
      | postgres =>
          simp only [heartbeatUsage, Postgres.heartbeatUsage, reported]
          apply sum_upsert (keyed rfl)
          · intro other
            exact isBucket_iff
          · intro other same
            have agent : other.agentId = input.agentId := congrArg Prod.fst same
            simp only [agent]
            split
            · rfl
            · exact (add_zero 0).symm

/-- One row for each bucket stays one row for each bucket. -/
theorem BucketsKeyed.heartbeatUsage {repository : Repository} {rows : List UsageRow}
    (keyed : BucketsKeyed repository rows) (input : HeartbeatInput) :
    BucketsKeyed repository (heartbeatUsage repository input rows) := by
  intro postgres
  subst postgres
  simp only [BairuiPlatform.heartbeatUsage, Postgres.heartbeatUsage]
  split
  · apply Keyed.upsert (keyed rfl)
    · intro other
      rfl
    · intro other same
      exact isBucket_iff.mpr same
  · exact keyed rfl

/-- Usage that was reported has its row afterwards. -/
theorem hasBucket_heartbeatUsage (repository : Repository) (input : HeartbeatInput)
    (rows : List UsageRow) :
    HasBucket repository input (heartbeatUsage repository input rows) := by
  intro postgres usage reported
  subst postgres
  simp only [heartbeatUsage, Postgres.heartbeatUsage, reported]
  apply any_upsert
  · intro other inBucket
    exact inBucket
  · exact isBucket_iff.mpr rfl

/-- A row of a bucket stays. -/
theorem HasBucket.heartbeatUsage {repository : Repository} {input : HeartbeatInput}
    {rows : List UsageRow} (has : HasBucket repository input rows) (other : HeartbeatInput) :
    HasBucket repository input (heartbeatUsage repository other rows) := by
  intro postgres usage reported
  have present := has postgres usage reported
  subst postgres
  simp only [BairuiPlatform.heartbeatUsage, Postgres.heartbeatUsage]
  split
  · apply any_upsert_of_any _ present
    intro row
    rfl
  · exact present

/-- A heartbeat whose usage changes no row when its bucket exists. -/
def addsNoUsage (repository : Repository) (input : HeartbeatInput) : Prop :=
  match repository with
  | .memory => input.usage = none
  | .postgres => input.amounts = 0

/-- The usage of a heartbeat changes no row exactly when there is none: in memory none at all,
in Postgres none above zero. -/
theorem heartbeatUsage_eq_self {repository : Repository} {input : HeartbeatInput}
    {rows : List UsageRow} (has : HasBucket repository input rows) :
    heartbeatUsage repository input rows = rows ↔ addsNoUsage repository input := by
  cases repository with
  | memory =>
      simp only [heartbeatUsage, Memory.heartbeatUsage, addsNoUsage]
      split
      · rename_i usage reported
        simp only [reported, reduceCtorEq, iff_false]
        intro same
        have longer := congrArg List.length same
        simp only [List.length_append, List.length_singleton] at longer
        omega
      · rename_i reported
        simp only [reported]
  | postgres =>
      cases reported : input.usage with
      | none =>
          simp only [heartbeatUsage, Postgres.heartbeatUsage, addsNoUsage,
            HeartbeatInput.amounts, reported]
      | some usage =>
          have present := has rfl usage reported
          simp only [heartbeatUsage, Postgres.heartbeatUsage, addsNoUsage,
            HeartbeatInput.amounts, reported, upsert, present, if_true]
          rw [updateWhere_eq_self]
          constructor
          · intro same
            obtain ⟨row, member, inBucket⟩ := List.any_eq_true.mp present
            have kept := congrArg UsageRow.amounts (same row member inBucket)
            exact add_left_cancel (kept.trans (add_zero _).symm)
          · intro nothing row member inBucket
            rw [nothing, add_zero]

/-! ### Runs -/

/-- What the usage of a run is made of. -/
structure UsageAccounted (repository : Repository)
    (history : List (Transition RuntimeStore FleetEvent)) (store : RuntimeStore) : Prop where
  keyed : BucketsKeyed repository store.usageRollups
  total : ∀ agentId, usageTotal agentId store.usageRollups =
    reportedUsage agentId (deliveries repository history)
  buckets : ∀ report ∈ deliveries repository history,
    HasBucket repository report.input store.usageRollups
  savable : ∀ report ∈ deliveries repository history,
    canSave repository report.input store = true

/-- Every run accounts for the heartbeats that it saved, each as often as it was saved. -/
theorem usage_accounted {repository : Repository}
    {history : List (Transition RuntimeStore FleetEvent)} {store : RuntimeStore}
    (run : Run (fleet repository) history store) :
    UsageAccounted repository history store := by
  apply run.history_invariant (UsageAccounted repository)
  · intro store initial
    obtain ⟨-, -, -, -, empty⟩ := initial
    exact {
      keyed := fun _ => by rw [empty]; exact Keyed.nil
      total := fun agentId => by rw [empty]; rfl
      buckets := fun report member => by cases member
      savable := fun report member => by cases member }
  · intro history before event after run accounted taken
    rw [show after = event.after repository before from taken]
    rcases delivered_cases repository event before with
      ⟨env, fault, input, rfl, saves, fits, effect⟩ | ⟨saves, unchanged⟩
    · have grows : deliveries repository (⟨before, .heartbeat env fault input,
          FleetEvent.after repository before (.heartbeat env fault input)⟩ :: history) =
          ⟨env, input⟩ :: deliveries repository history :=
        List.filterMap_cons_some saves
      exact {
        keyed := by
          rw [effect.usage]
          exact accounted.keyed.heartbeatUsage input
        total := by
          intro agentId
          rw [effect.usage, usageTotal_heartbeatUsage accounted.keyed, accounted.total, grows,
            add_comm]
          simp only [reportedUsage, List.map_cons, List.sum_cons]
        buckets := by
          intro report member
          rw [effect.usage]
          rw [grows] at member
          rcases List.mem_cons.mp member with rfl | earlier
          · exact hasBucket_heartbeatUsage repository input before.usageRollups
          · exact (accounted.buckets report earlier).heartbeatUsage input
        savable := by
          intro report member
          apply canSave_after
          rw [grows] at member
          rcases List.mem_cons.mp member with rfl | earlier
          · exact fits
          · exact accounted.savable report earlier }
    · have same : deliveries repository
          (⟨before, event, event.after repository before⟩ :: history) =
          deliveries repository history :=
        List.filterMap_cons_none saves
      have usage : (event.after repository before).usageRollups = before.usageRollups := by
        rcases unchanged with unchanged | ⟨agentId, action, state, rfl⟩
        · rw [unchanged]
        · rfl
      exact {
        keyed := by rw [usage]; exact accounted.keyed
        total := by rw [usage, same]; exact accounted.total
        buckets := by rw [usage, same]; exact accounted.buckets
        savable := by
          rw [same]
          exact fun report member => canSave_after event (accounted.savable report member) }

/-- The tables after more deliveries of a heartbeat. -/
def saveAgain (repository : Repository) (input : HeartbeatInput) (store : RuntimeStore)
    (attempts : List (HeartbeatEnv × Option Nat)) : RuntimeStore :=
  attempts.foldl
    (fun store attempt => (saveHeartbeat repository attempt.1 attempt.2 input store).2) store

/-- A heartbeat that reports nothing but its own figures. -/
def reportsNothing (repository : Repository) (input : HeartbeatInput) : Prop :=
  input.events = [] ∧ addsNoUsage repository input

/-- Deliveries of a heartbeat that reports nothing change neither usage nor telemetry. -/
theorem saveAgain_of_reportsNothing {repository : Repository} {input : HeartbeatInput}
    (nothing : reportsNothing repository input) (attempts : List (HeartbeatEnv × Option Nat))
    {store : RuntimeStore} (has : HasBucket repository input store.usageRollups) :
    (saveAgain repository input store attempts).usageRollups = store.usageRollups ∧
      (saveAgain repository input store attempts).telemetryEvents = store.telemetryEvents := by
  induction attempts generalizing store with
  | nil => exact ⟨rfl, rfl⟩
  | cons attempt attempts ih =>
      simp only [saveAgain, List.foldl_cons] at ih ⊢
      rcases saveHeartbeat_cases repository attempt.1 attempt.2 input store with
        ⟨-, -, effect⟩ | ⟨-, same⟩
      · obtain ⟨rows, counted, telemetry⟩ := effect.telemetry
        rw [nothing.1, List.length_nil, List.length_eq_zero_iff] at counted
        have usage := effect.usage.trans ((heartbeatUsage_eq_self has).mpr nothing.2)
        have later := ih (usage ▸ has)
        rw [usage, telemetry, counted, List.append_nil] at later
        exact later
      · rw [same]
        exact ih has

/-- The runtime after the same heartbeat was delivered again. -/
def sampleRedelivered (repository : Repository) : RuntimeStore :=
  saveAgain repository sampleHeartbeat (sampleDelivered repository) [(sampleDelivery, none)]

end BairuiPlatform
