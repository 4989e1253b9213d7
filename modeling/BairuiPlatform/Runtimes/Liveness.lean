/-
Module: BairuiPlatform.Runtimes.Liveness
Purpose: When heartbeats neither revive a halted runtime nor roll its figures back, over every
  run and in either repository.
Trusted boundary: of heartbeats received at the same time Postgres may show any as the latest
Main exports: Orderly, Halted, latestHeartbeat, FiguresFollow, figures_follow, orderly_heartbeats
-/
import BairuiPlatform.Runtimes.Fleet
import Mathlib.Data.List.MinMax

namespace BairuiPlatform

open Foundations

/-! ### What is shown of a runtime -/

/-- The statuses of a runtime that is shown as running. -/
def RuntimeStatus.isOnline (status : RuntimeStatus) : Bool :=
  [RuntimeStatus.ready, .degraded, .starting].contains status

/-- The statuses of an agent that is shown as running. -/
def AgentStatus.isOnline : AgentStatus → Bool
  | .active => true
  | .of status => status.isOnline

/-- A runtime that was suspended or deleted. -/
def RuntimeStatus.isHalted (status : RuntimeStatus) : Bool :=
  [RuntimeStatus.suspended, .deleted].contains status

/-- An agent that was suspended or deleted. -/
def AgentStatus.isHalted : AgentStatus → Bool
  | .active => false
  | .of status => status.isHalted

/-- `latestAgentHeartbeats` for one runtime: the row received last. In memory the first of
those received at the same time, in Postgres any of them. -/
def latestHeartbeat (repository : Repository) (runtimeId : String) (rows : List HeartbeatRow)
    (row : HeartbeatRow) : Prop :=
  let own := rows.filter fun row => row.runtimeId = runtimeId
  match repository with
  | .memory => own.argmax HeartbeatRow.receivedAt = some row
  | .postgres => row ∈ own ∧ ∀ other ∈ own, other.receivedAt ≤ row.receivedAt

theorem latestHeartbeat_spec {repository : Repository} {runtimeId : String}
    {rows : List HeartbeatRow} {row : HeartbeatRow}
    (latest : latestHeartbeat repository runtimeId rows row) :
    row ∈ rows ∧ row.runtimeId = runtimeId ∧
      ∀ other ∈ rows, other.runtimeId = runtimeId → other.receivedAt ≤ row.receivedAt := by
  have own : row ∈ rows.filter (fun row => row.runtimeId = runtimeId) ∧
      ∀ other ∈ rows.filter (fun row => row.runtimeId = runtimeId),
        other.receivedAt ≤ row.receivedAt := by
    cases repository with
    | memory => exact ⟨List.argmax_mem latest, fun other member => List.le_of_mem_argmax member latest⟩
    | postgres => exact latest
  simp only [List.mem_filter, decide_eq_true_eq] at own
  exact ⟨own.1.1, own.1.2, fun other member same => own.2 other ⟨member, same⟩⟩

/-- A runtime with a row has a latest one. -/
theorem exists_latestHeartbeat (repository : Repository) {rows : List HeartbeatRow}
    {row : HeartbeatRow} (member : row ∈ rows) :
    ∃ latest, latestHeartbeat repository row.runtimeId rows latest := by
  have own : row ∈ rows.filter (fun other => other.runtimeId = row.runtimeId) := by
    simp only [List.mem_filter, decide_true, and_true]
    exact member
  obtain ⟨latest, found⟩ := Option.ne_none_iff_exists'.mp
    (mt List.argmax_eq_none.mp (List.ne_nil_of_mem own) :
      (rows.filter fun other => other.runtimeId = row.runtimeId).argmax HeartbeatRow.receivedAt ≠
        none)
  cases repository with
  | memory => exact ⟨latest, found⟩
  | postgres =>
      exact ⟨latest, List.argmax_mem found, fun other member => List.le_of_mem_argmax member found⟩

/-! ### Order -/

/-- The runtime of a heartbeat or its agent is suspended or deleted. -/
def haltedNow (input : HeartbeatInput) (store : RuntimeStore) : Bool :=
  (store.runtimes.any fun row => input.isRuntime row && row.status.isHalted) ||
    store.agents.any fun row => row.id = input.agentId && row.status.isHalted

/-- A receipt that brings an agent up again. -/
def FleetEvent.revives (agentId : String) : FleetEvent → Bool
  | .heartbeat _ _ _ => false
  | .receipt other action state =>
      other = agentId && state = .succeeded &&
        [Action.deploymentProvision, .deploymentStart, .deploymentResume].contains action

/-- The runtime of a heartbeat or its agent has been suspended or deleted, and it has not been
brought up since. -/
def Halted (input : HeartbeatInput) :
    List (Transition RuntimeStore FleetEvent) → RuntimeStore → Prop
  | [], store => haltedNow input store = true
  | transition :: earlier, store =>
      haltedNow input store = true ∨
        (Halted input earlier transition.before ∧
          transition.label.revives input.agentId = false)

/-- A heartbeat is saved in order: for a runtime of its agent; while that is halted, only to
report it unhealthy; and with a higher sequence and at a later time than the stored ones of the
runtime, unless it repeats the one with the highest sequence. -/
structure InOrder (repository : Repository)
    (earlier : List (Transition RuntimeStore FleetEvent)) (store : RuntimeStore)
    (report : HeartbeatDelivery) : Prop where
  own : store.runtimes.any report.input.isRuntime = true
  halted : Halted report.input earlier store → report.input.status = .unhealthy
  order :
    (∀ row ∈ store.heartbeats, row.runtimeId = report.input.runtimeId →
      row.sequence < report.input.sequence ∧ row.receivedAt < report.env.now) ∨
    ((∃ other ∈ deliveries repository earlier, other.input = report.input) ∧
      ∀ row ∈ store.heartbeats, row.runtimeId = report.input.runtimeId →
        row.sequence ≤ report.input.sequence)

/-- Every heartbeat of a run is saved in order. -/
def Orderly (repository : Repository) : List (Transition RuntimeStore FleetEvent) → Prop
  | [] => True
  | transition :: earlier =>
      (∀ report, delivered repository transition = some report →
        InOrder repository earlier transition.before report) ∧
      Orderly repository earlier

/-- What an orderly run ends with is orderly. -/
theorem Orderly.of_append {repository : Repository}
    {later earlier : List (Transition RuntimeStore FleetEvent)}
    (orderly : Orderly repository (later ++ earlier)) : Orderly repository earlier := by
  induction later with
  | nil => exact orderly
  | cons last later ih => exact ih orderly.2

/-- No heartbeat of the runtime that was saved has a higher sequence. -/
def IsNewest (repository : Repository) (history : List (Transition RuntimeStore FleetEvent))
    (report : HeartbeatDelivery) : Prop :=
  ∀ other ∈ deliveries repository history, other.input.runtimeId = report.input.runtimeId →
    other.input.sequence ≤ report.input.sequence

/-- Since the last heartbeat saved for a runtime no receipt has written its status. -/
def StatusReported (repository : Repository) (runtimeId agentId : String) :
    List (Transition RuntimeStore FleetEvent) → Prop
  | [] => False
  | transition :: earlier =>
      match transition.label with
      | .heartbeat _ _ _ =>
          (∃ report, delivered repository transition = some report ∧
            report.input.runtimeId = runtimeId) ∨
          StatusReported repository runtimeId agentId earlier
      | .receipt other action state =>
          ¬ (other = agentId ∧ (lifecycleWrite repository action state).runtime.isSome) ∧
          StatusReported repository runtimeId agentId earlier

/-! ### The stored heartbeats -/

/-- The stored heartbeats are those that were saved, ordered in time as their sequences are. -/
structure HeartbeatsStored (reports : List HeartbeatDelivery) (rows : List HeartbeatRow) :
    Prop where
  stored : ∀ report ∈ reports, ∃ row ∈ rows,
    row.runtimeId = report.input.runtimeId ∧ row.sequence = report.input.sequence
  source : ∀ row ∈ rows, ∃ report ∈ reports, row = report.input.row report.env
  ordered : ∀ first ∈ rows, ∀ second ∈ rows, first.runtimeId = second.runtimeId →
    first.sequence < second.sequence → first.receivedAt < second.receivedAt
  same : ∀ first ∈ reports, ∀ second ∈ reports,
    first.input.runtimeId = second.input.runtimeId →
      first.input.sequence = second.input.sequence → first.input = second.input

theorem stored_iff {input : HeartbeatInput} {rows : List HeartbeatRow} :
    input.stored rows = true ↔
      ∃ row ∈ rows, row.runtimeId = input.runtimeId ∧ row.sequence = input.sequence := by
  simp only [HeartbeatInput.stored, List.any_eq_true, Bool.and_eq_true, decide_eq_true_eq]

namespace HeartbeatsStored

variable {reports : List HeartbeatDelivery} {rows : List HeartbeatRow}
  {report : HeartbeatDelivery}

theorem nil : HeartbeatsStored [] [] where
  stored report member := by cases member
  source row member := by cases member
  ordered first member := by cases member
  same first member := by cases member

/-- A heartbeat that is above the stored ones of its runtime. -/
theorem snoc (holds : HeartbeatsStored reports rows)
    (newer : ∀ row ∈ rows, row.runtimeId = report.input.runtimeId →
      row.sequence < report.input.sequence ∧ row.receivedAt < report.env.now) :
    HeartbeatsStored (report :: reports) (rows ++ [report.input.row report.env]) := by
  have apart : ∀ other ∈ reports, other.input.runtimeId = report.input.runtimeId →
      other.input.sequence < report.input.sequence := by
    intro other member runtime
    obtain ⟨row, rowMem, sameRuntime, sameSequence⟩ := holds.stored other member
    rw [← sameSequence]
    exact (newer row rowMem (sameRuntime.trans runtime)).1
  constructor
  case stored =>
    intro other member
    rcases List.mem_cons.mp member with rfl | earlier
    · exact ⟨_, List.mem_append_right _ List.mem_cons_self, rfl, rfl⟩
    · obtain ⟨row, rowMem, key⟩ := holds.stored other earlier
      exact ⟨row, List.mem_append_left _ rowMem, key⟩
  case source =>
    intro row member
    rcases List.mem_append.mp member with old | new
    · obtain ⟨other, earlier, source⟩ := holds.source row old
      exact ⟨other, List.mem_cons_of_mem _ earlier, source⟩
    · exact ⟨report, List.mem_cons_self, List.mem_singleton.mp new⟩
  case ordered =>
    intro first firstMem second secondMem runtime sequence
    rcases List.mem_append.mp firstMem with oldFirst | newFirst <;>
      rcases List.mem_append.mp secondMem with oldSecond | newSecond
    · exact holds.ordered first oldFirst second oldSecond runtime sequence
    · rw [List.mem_singleton.mp newSecond] at runtime ⊢
      exact (newer first oldFirst runtime).2
    · rw [List.mem_singleton.mp newFirst] at runtime sequence
      have below := (newer second oldSecond runtime.symm).1
      exact absurd sequence (Nat.lt_asymm below)
    · rw [List.mem_singleton.mp newFirst, List.mem_singleton.mp newSecond] at sequence
      exact absurd sequence (Nat.lt_irrefl _)
  case same =>
    intro first firstMem second secondMem runtime sequence
    rcases List.mem_cons.mp firstMem with rfl | oldFirst <;>
      rcases List.mem_cons.mp secondMem with rfl | oldSecond
    · rfl
    · exact absurd sequence.symm (Nat.ne_of_lt (apart second oldSecond runtime.symm))
    · exact absurd sequence (Nat.ne_of_lt (apart first oldFirst runtime))
    · exact holds.same first oldFirst second oldSecond runtime sequence

/-- A heartbeat that repeats an earlier one. -/
theorem again (holds : HeartbeatsStored reports rows)
    (repeats : ∃ other ∈ reports, other.input = report.input) :
    HeartbeatsStored (report :: reports) rows := by
  have known : ∀ new ∈ report :: reports, ∃ old ∈ reports, old.input = new.input := by
    intro new member
    rcases List.mem_cons.mp member with rfl | earlier
    · exact repeats
    · exact ⟨new, earlier, rfl⟩
  constructor
  case stored =>
    intro new member
    obtain ⟨old, oldMem, same⟩ := known new member
    rw [← same]
    exact holds.stored old oldMem
  case source =>
    intro row member
    obtain ⟨old, oldMem, source⟩ := holds.source row member
    exact ⟨old, List.mem_cons_of_mem _ oldMem, source⟩
  case ordered => exact holds.ordered
  case same =>
    intro first firstMem second secondMem
    obtain ⟨oldFirst, oldFirstMem, sameFirst⟩ := known first firstMem
    obtain ⟨oldSecond, oldSecondMem, sameSecond⟩ := known second secondMem
    rw [← sameFirst, ← sameSecond]
    exact holds.same oldFirst oldFirstMem oldSecond oldSecondMem

/-- A heartbeat that is saved in order. -/
theorem save (holds : HeartbeatsStored reports rows)
    (order :
      (∀ row ∈ rows, row.runtimeId = report.input.runtimeId →
        row.sequence < report.input.sequence ∧ row.receivedAt < report.env.now) ∨
      ∃ other ∈ reports, other.input = report.input) :
    HeartbeatsStored (report :: reports)
      (if report.input.stored rows then rows else rows ++ [report.input.row report.env]) := by
  rcases order with newer | repeats
  · have absent : report.input.stored rows ≠ true := by
      intro present
      obtain ⟨row, member, runtime, sequence⟩ := stored_iff.mp present
      exact Nat.lt_irrefl _ (sequence ▸ (newer row member runtime).1)
    rw [if_neg absent]
    exact holds.snoc newer
  · have present : report.input.stored rows = true := by
      obtain ⟨other, member, same⟩ := repeats
      rw [← same]
      exact stored_iff.mpr (holds.stored other member)
    rw [if_pos present]
    exact holds.again repeats

/-- The heartbeat with the highest sequence is the one that is saved in order. -/
theorem same_of_order (holds : HeartbeatsStored reports rows) {new : HeartbeatDelivery}
    (member : report ∈ reports) (runtime : report.input.runtimeId = new.input.runtimeId)
    (above : new.input.sequence ≤ report.input.sequence)
    (order :
      (∀ row ∈ rows, row.runtimeId = new.input.runtimeId →
        row.sequence < new.input.sequence ∧ row.receivedAt < new.env.now) ∨
      ((∃ other ∈ reports, other.input = new.input) ∧
        ∀ row ∈ rows, row.runtimeId = new.input.runtimeId →
          row.sequence ≤ new.input.sequence)) :
    report.input = new.input := by
  obtain ⟨row, rowMem, rowRuntime, rowSequence⟩ := holds.stored report member
  rcases order with newer | ⟨⟨other, otherMem, same⟩, highest⟩
  · have below := (newer row rowMem (rowRuntime.trans runtime)).1
    rw [rowSequence] at below
    exact absurd above (Nat.not_le_of_lt below)
  · have below := highest row rowMem (rowRuntime.trans runtime)
    rw [rowSequence] at below
    rw [← same] at runtime below above ⊢
    exact holds.same report member other otherMem runtime (Nat.le_antisymm below above)

/-- The row received last is the one with the highest sequence. -/
theorem latest (holds : HeartbeatsStored reports rows) (member : report ∈ reports)
    (newest : ∀ other ∈ reports, other.input.runtimeId = report.input.runtimeId →
      other.input.sequence ≤ report.input.sequence)
    {repository : Repository} {row : HeartbeatRow}
    (shown : latestHeartbeat repository report.input.runtimeId rows row) :
    ∃ env, row = report.input.row env := by
  obtain ⟨rowMem, runtime, last⟩ := latestHeartbeat_spec shown
  obtain ⟨other, otherMem, rfl⟩ := holds.source row rowMem
  refine ⟨other.env, ?_⟩
  rw [holds.same other otherMem report member runtime]
  obtain ⟨top, topMem, topRuntime, topSequence⟩ := holds.stored report member
  apply Nat.le_antisymm (newest other otherMem runtime)
  apply Nat.le_of_not_lt
  intro below
  have later := holds.ordered _ rowMem top topMem (runtime.trans topRuntime.symm)
    (topSequence ▸ below)
  exact absurd (last top topMem topRuntime) (Nat.not_le_of_lt later)

end HeartbeatsStored

/-! ### The columns of the runtime -/

/-- The runtime rows show the heartbeat with the highest sequence. -/
structure FiguresFollow (repository : Repository)
    (history : List (Transition RuntimeStore FleetEvent)) (store : RuntimeStore) : Prop where
  ids : Keyed FleetRuntimeRow.id store.runtimes
  rows : HeartbeatsStored (deliveries repository history) store.heartbeats
  runtimes : ∀ report ∈ deliveries repository history, IsNewest repository history report →
    ∀ row ∈ store.runtimes, row.id = report.input.runtimeId →
      row.lastHeartbeatAt = some report.input.observedAt ∧
        (StatusReported repository row.id row.agentId history →
          row.status = heartbeatRuntimeStatus report.input.status)

/-- The runtimes that a heartbeat does not update are not its own. -/
theorem mem_runtimes {input : HeartbeatInput} {rows : List FleetRuntimeRow}
    {row : FleetRuntimeRow} (keyed : Keyed FleetRuntimeRow.id rows)
    (own : rows.any input.isRuntime = true) (member : row ∈ input.runtimes rows) :
    (∃ old ∈ rows, input.isRuntime old = true ∧ row = input.updateRuntime old) ∨
      (row ∈ rows ∧ row.id ≠ input.runtimeId) := by
  rcases mem_updateWhere.mp member with updated | ⟨kept, skipped⟩
  · exact Or.inl updated
  · refine Or.inr ⟨kept, ?_⟩
    intro same
    obtain ⟨known, knownMem, isOwn⟩ := List.any_eq_true.mp own
    have ids : known.id = input.runtimeId ∧ known.agentId = input.agentId := by
      simpa only [HeartbeatInput.isRuntime, Bool.and_eq_true, decide_eq_true_eq] using isOwn
    rw [keyed.eq_of_key_eq kept knownMem (same.trans ids.1.symm)] at skipped
    exact absurd isOwn (Bool.eq_false_iff.mp skipped)

/-- In an orderly run the figures follow the heartbeat with the highest sequence. -/
theorem figures_follow {repository : Repository}
    {history : List (Transition RuntimeStore FleetEvent)} {store : RuntimeStore}
    (run : Run (fleet repository) history store) (orderly : Orderly repository history) :
    FiguresFollow repository history store := by
  induction run with
  | start initial =>
      obtain ⟨ids, -, empty, -, -⟩ := initial
      constructor
      case ids => exact ids
      case rows =>
        rw [empty]
        exact HeartbeatsStored.nil
      case runtimes =>
        intro report member
        cases member
  | @step history before after event run taken ih =>
      have holds := ih orderly.2
      obtain rfl : after = event.after repository before := taken
      rcases delivered_cases repository event before with
        ⟨env, fault, input, rfl, saves, fits, effect⟩ | ⟨saves, unchanged⟩
      · have inOrder := orderly.1 _ saves
        have grows : deliveries repository (⟨before, .heartbeat env fault input,
            FleetEvent.after repository before (.heartbeat env fault input)⟩ :: history) =
            ⟨env, input⟩ :: deliveries repository history :=
          List.filterMap_cons_some saves
        constructor
        case ids =>
          rw [effect.runtimes]
          exact holds.ids.update fun _ => rfl
        case rows =>
          rw [grows, effect.heartbeats]
          exact @holds.rows.save _ _ ⟨env, input⟩ (inOrder.order.imp_right And.left)
        case runtimes =>
          intro report member newest row rowMem own
          have below : ∀ other ∈ ⟨env, input⟩ :: deliveries repository history,
              other.input.runtimeId = report.input.runtimeId →
                other.input.sequence ≤ report.input.sequence := by
            rw [← grows]
            exact newest
          rw [grows] at member
          rw [effect.runtimes] at rowMem
          rcases mem_runtimes holds.ids inOrder.own rowMem with
            ⟨old, -, isOwn, rfl⟩ | ⟨kept, other⟩
          · -- a row of the runtime shows this heartbeat, which is the newest one
            have runtime : report.input.runtimeId = input.runtimeId := by
              have ids : old.id = input.runtimeId ∧ old.agentId = input.agentId := by
                simpa only [HeartbeatInput.isRuntime, Bool.and_eq_true, decide_eq_true_eq]
                  using isOwn
              exact own.symm.trans ids.1
            have same : report.input = input := by
              rcases List.mem_cons.mp member with rfl | earlier
              · rfl
              · exact holds.rows.same_of_order earlier runtime
                  (below ⟨env, input⟩ List.mem_cons_self runtime.symm) inOrder.order
            rw [same]
            exact ⟨rfl, fun _ => rfl⟩
          · have earlier : report ∈ deliveries repository history := by
              rcases List.mem_cons.mp member with rfl | earlier
              · exact absurd own other
              · exact earlier
            obtain ⟨lastSeen, status⟩ := holds.runtimes report earlier
              (fun third thirdMem => below third (List.mem_cons_of_mem _ thirdMem)) row kept own
            refine ⟨lastSeen, ?_⟩
            intro reported
            apply status
            rcases reported with ⟨shown, saved, about⟩ | before
            · rw [saves, Option.some.injEq] at saved
              rw [← saved] at about
              exact absurd about.symm other
            · exact before
      · have same : deliveries repository
            (⟨before, event, event.after repository before⟩ :: history) =
            deliveries repository history :=
          List.filterMap_cons_none saves
        have sameHeartbeats : (event.after repository before).heartbeats = before.heartbeats := by
          rcases unchanged with unchanged | ⟨agentId, action, state, rfl⟩
          · rw [unchanged]
          · rfl
        constructor
        case ids =>
          rcases unchanged with unchanged | ⟨agentId, action, state, rfl⟩
          · rw [unchanged]
            exact holds.ids
          · exact holds.ids.update fun _ => rfl
        case rows =>
          rw [same, sameHeartbeats]
          exact holds.rows
        case runtimes =>
          intro report member newest row rowMem own
          rw [IsNewest, same] at newest
          rw [same] at member
          cases event with
          | heartbeat env fault input =>
              rcases unchanged with unchanged | ⟨agentId, action, state, isReceipt⟩
              · rw [unchanged] at rowMem
                obtain ⟨lastSeen, status⟩ := holds.runtimes report member newest row rowMem own
                refine ⟨lastSeen, ?_⟩
                intro reported
                apply status
                rcases reported with ⟨shown, saved, -⟩ | before
                · rw [saves] at saved
                  cases saved
                · exact before
              · cases isReceipt
          | receipt agentId action state =>
              rcases mem_updateWhere.mp rowMem with ⟨old, oldMem, chosen, rfl⟩ | ⟨kept, skipped⟩
              · obtain ⟨lastSeen, status⟩ := holds.runtimes report member newest old oldMem own
                refine ⟨lastSeen, ?_⟩
                intro ⟨unwritten, reported⟩
                have nothing : (lifecycleWrite repository action state).runtime = none := by
                  apply Option.not_isSome_iff_eq_none.mp
                  exact fun written => unwritten ⟨(of_decide_eq_true chosen).symm, written⟩
                rw [nothing]
                exact status reported
              · obtain ⟨lastSeen, status⟩ := holds.runtimes report member newest row kept own
                exact ⟨lastSeen, fun reported => status reported.2⟩

/-! ### Heartbeats and lifecycle -/

/-- A heartbeat from an unhealthy runtime shows neither the runtime nor the agent as running. -/
theorem HeartbeatEffect.offline {repository : Repository} {env : HeartbeatEnv}
    {input : HeartbeatInput} {store store' : RuntimeStore}
    (effect : HeartbeatEffect repository env input store store')
    (unhealthy : input.status = .unhealthy) :
    (∀ row ∈ store'.runtimes, input.isRuntime row = true → row.status.isOnline = false) ∧
      ∀ row ∈ store'.agents, row.id = input.agentId → row.status.isOnline = false := by
  rw [effect.runtimes, effect.agents]
  constructor
  · intro row member own
    rcases mem_updateWhere.mp member with ⟨old, -, -, rfl⟩ | ⟨-, skipped⟩
    · simp only [HeartbeatInput.updateRuntime, unhealthy]
      rfl
    · exact absurd own (Bool.eq_false_iff.mp skipped)
  · intro row member own
    rcases mem_updateWhere.mp member with ⟨old, -, -, rfl⟩ | ⟨-, skipped⟩
    · simp only [HeartbeatInput.updateAgent, unhealthy]
      rfl
    · exact absurd own (of_decide_eq_false skipped)

/-- The first heartbeat of a runtime is saved in order. -/
theorem sampleDelivery_orderly : Orderly .postgres [sampleDeliveryStep .postgres] := by
  refine ⟨?_, trivial⟩
  intro report saved
  obtain rfl : ⟨sampleDelivery, sampleHeartbeat⟩ = report := Option.some.inj saved
  constructor
  case own => rfl
  case halted =>
    intro halted
    cases (show haltedNow sampleHeartbeat sampleFleet = false from rfl).symm.trans halted
  case order =>
    apply Or.inl
    intro row member
    cases member

/-- The runtime after it was suspended. -/
def sampleSuspended (repository : Repository) : RuntimeStore :=
  recordLifecycle repository "agent-1" .deploymentSuspend .succeeded sampleFleet

/-- The suspended runtime after a heartbeat that was on its way. -/
def sampleRevived (repository : Repository) : RuntimeStore :=
  (saveHeartbeat repository sampleDelivery none sampleHeartbeat (sampleSuspended repository)).2

/-- The runtime after a later heartbeat and then the first one. -/
def sampleLate (repository : Repository) : RuntimeStore :=
  (saveHeartbeat repository { now := 202, id := "heartbeat-2" } none sampleHeartbeat
    (saveHeartbeat repository { now := 201, id := "heartbeat-1" } none
      { sampleHeartbeat with sequence := 2, status := .degraded, observedAt := 200 }
      sampleFleet).2).2

end BairuiPlatform
