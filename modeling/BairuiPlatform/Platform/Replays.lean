/-
Module: BairuiPlatform.Platform.Replays
Purpose: The delivery of PostgresPlatformRepository with the columns that its receipts also
  write, and which superseded and replayed receipts change nothing.
Trusted boundary: no two transactions that change one command read the same time
Main exports: DeliveryStore, deliverySystem, Db.Admits, receipts_inert_iff
-/
import BairuiPlatform.Operations.Rows
import BairuiPlatform.Platform.Deadlines

namespace BairuiPlatform

open Foundations

/-! ### The tables -/

/-- `provider_channels`. -/
structure ProviderChannelRow where
  id : String
  organizationId : String
  provider : String
  baseUrl : String
  model : String
  status : String
deriving Repr, DecidableEq

/-- The tables of the delivery: next to those of the other operations, the column
`control_commands.updated_at`, the provider channels, and `backup_records.status`. -/
structure DeliveryStore where
  db : Db
  updatedAt : String → Nat
  channels : List ProviderChannelRow
  backupStatus : String → Option BackupStatus

/-! ### What a receipt writes in them -/

/-- A text inside a configuration document. -/
def ConfigRevisionRow.provider? (row : ConfigRevisionRow) (name : String) : Option String :=
  ((row.configDocument.field? "provider").bind (·.field? name)).bind Json.text?

/-- The channel is the one that the configuration names. -/
def ProviderChannelRow.isOf (channel : ProviderChannelRow) (row : ConfigRevisionRow) : Bool :=
  channel.organizationId = row.organizationId &&
    row.provider? "provider" = some channel.provider &&
    row.provider? "base_url" = some channel.baseUrl && row.provider? "model" = some channel.model

/-- `UPDATE provider_channels` for a configuration that was applied. -/
def applyChannels (db : Db) (command : CommandRow) (state : ReceiptState)
    (channels : List ProviderChannelRow) : List ProviderChannelRow :=
  if state = .succeeded ∧ [Action.deploymentProvision, .configApply].contains command.action then
    updateWhere
      (fun channel => found (fun row =>
        some row.id = command.argument "config_revision_id" && channel.isOf row)
        db.configRevisions)
      (fun channel => { channel with status := "applied" }) channels
  else channels

/-- The status of a backup after a receipt. -/
def backupStatusAfter : Action → ReceiptState → Option BackupStatus
  | .backupVerify, .running => some .verifying
  | .backupCreate, .succeeded => some .created
  | .backupVerify, .succeeded => some .verified
  | .backupCreate, .failed | .backupVerify, .failed | .backupExpire, .failed => some .failed
  | .backupExpire, .succeeded => some .expired
  | _, _ => none

/-- `UPDATE backup_records SET status`. -/
def applyBackupStatus (command : CommandRow) (state : ReceiptState)
    (status : String → Option BackupStatus) : String → Option BackupStatus :=
  fun id =>
    if some id = command.argument "backup_id" ∧ (status id).isSome then
      (backupStatusAfter command.action state).or (status id)
    else status id

/-- `recordCommandReceipt`: the store after a receipt. -/
def DeliveryStore.receive [Host] (store : DeliveryStore) (env : PlatformEnv)
    (input : DeliveryReceipt) : DeliveryStore :=
  match store.db.delivered? input,
      (recordCommandReceipt env input).inTransaction none store.db with
  | some command, (.ok (some _), db) =>
      { db := db
        updatedAt := Function.update store.updatedAt command.id env.now
        channels := applyChannels store.db command input.state store.channels
        backupStatus := applyBackupStatus command input.state store.backupStatus }
  | _, (_, db) => { store with db := db }

/-! ### What the other calls write in them -/

/-- The columns of a command that leases and requests write. -/
def Db.progress? (db : Db) (id : String) : Option (CommandState × Option String × Option Nat) :=
  (db.commands.find? fun row => row.id = id).map fun row =>
    (row.state, row.leaseServerId, row.leaseExpiresAt)

/-- `updated_at` after a call: a command that the call inserts or changes carries its time. -/
def DeliveryStore.touched (store : DeliveryStore) (now : Nat) (after : Db) (id : String) : Nat :=
  if store.db.progress? id = after.progress? id then store.updatedAt id else now

/-- `INSERT INTO backup_records … ON CONFLICT (id) DO NOTHING`. -/
def DeliveryStore.withBackups (store : DeliveryStore) (after : Db) (id : String) :
    Option BackupStatus :=
  (store.backupStatus id).or
    (if found (fun row => row.id = id) after.backups then some .creating else none)

/-- The backups whose deletion expired with its command fail. -/
def DeliveryStore.withExpired (store : DeliveryStore) (after : Db) (id : String) :
    Option BackupStatus :=
  if store.backupStatus id = some .expiring ∧ found (fun row => row.action = .backupExpire &&
      row.state = .expired && row.argument "backup_id" = some id) after.commands then
    some .failed
  else store.backupStatus id

/-- A call of the repository, or a transaction of somebody else with the tables after it. -/
inductive DeliveryCall where
  | lifecycle (env : PlatformEnv) (input : LifecycleInput)
  | operation (env : PlatformEnv) (input : OperationInput)
  | lease (env : PlatformEnv) (input : ControlLeaseInput)
  | receipt (env : PlatformEnv) (input : DeliveryReceipt)
  | elsewhere (after : DeliveryStore)

/-- A call, and whether its connection is lost before it is committed. -/
structure DeliveryLabel where
  call : DeliveryCall
  lost : Bool

/-- The store after a call that keeps its connection. -/
def DeliveryCall.after [Host] (store : DeliveryStore) : DeliveryCall → DeliveryStore
  | .lifecycle env input =>
      let db := ((requestAgentLifecycle env input).inTransaction none store.db).2
      { store with db := db, updatedAt := store.touched env.now db }
  | .operation env input =>
      let db := ((requestControlOperation env input).inTransaction none store.db).2
      { store with
        db := db, updatedAt := store.touched env.now db, backupStatus := store.withBackups db }
  | .lease env input =>
      let db := ((leaseControlCommands env input).inTransaction none store.db).2
      { store with
        db := db, updatedAt := store.touched env.now db, backupStatus := store.withExpired db }
  | .receipt env input => store.receive env input
  | .elsewhere after => after

/-- The store after a call. -/
def DeliveryLabel.after [Host] (label : DeliveryLabel) (store : DeliveryStore) : DeliveryStore :=
  if label.lost then store else label.call.after store

/-- The time of a receipt is not the one that its command carries already. -/
def DeliveryLabel.Timely (label : DeliveryLabel) (store : DeliveryStore) : Prop :=
  ∀ env input, label.call = .receipt env input → store.updatedAt input.commandId ≠ env.now

/-- The repository from any tables, under calls in any order. -/
def deliverySystem [Host] : TransitionSystem DeliveryStore DeliveryLabel where
  initial _ := True
  step before label after := label.Timely before ∧ label.after before = after

/-! ### Receipts that are carried out -/

section Receipts

variable [Host]

/-- The guards of `recordCommandReceipt` let the receipt through: the command is leased to the
server and has the attempt, its state is the one of the receipt or leads to it, and the row
meets the constraints. -/
structure Db.Admits (db : Db) (env : PlatformEnv) (input : DeliveryReceipt)
    (command : CommandRow) : Prop where
  held : db.delivered? input = some command
  allowed : input.state.sameName? = some command.state ∨
    input.state ∈ deliveryTransitions command.state
  safe : bairuiControlJsonIsSafe input.resultSummary = true
  id_new : (found (fun other => other.commandId = command.id && other.attempt = input.attempt &&
      other.state = input.state) db.receipts ||
    !found (fun other => other.id = env.receipt.text) db.receipts) = true
  endpoint : input.state = .succeeded → command.action = .deploymentProvision →
    input.runtimeEndpointRef.any (· ≠ "") = true

omit [Host] in
/-- The effects of a receipt leave the receipts alone. -/
theorem receiptEffects_receipts (now : Nat) (command : CommandRow) (state : ReceiptState)
    (endpointRef : Option String) (db : Db) :
    (receiptEffects now command state endpointRef db).receipts = db.receipts := by
  have config : ∀ db, (applyConfig command state db).receipts = db.receipts := by
    intro db
    unfold applyConfig
    split
    · rfl
    · rfl
  have backup : ∀ db, (applyBackup command state db).receipts = db.receipts := by
    intro db
    unfold applyBackup
    dsimp only
    split
    · rfl
    · rfl
  have release : ∀ db, (applyRelease command state db).receipts = db.receipts := by
    intro db
    unfold applyRelease
    split <;> rfl
  unfold receiptEffects
  rw [release, backup, config]
  split
  · rfl
  · rfl

omit [Host] in
/-- A state that the table of transitions names is the state of a command. -/
theorem deliveryTransitions_named {current : CommandState} {state : ReceiptState}
    (listed : state ∈ deliveryTransitions current) : ∃ next, state.sameName? = some next := by
  cases current <;> simp only [deliveryTransitions, List.mem_cons, List.not_mem_nil, or_false] at listed
  · exact ⟨_, by rw [listed]; rfl⟩
  · exact ⟨_, by rw [listed]; rfl⟩
  · rcases listed with rfl | rfl | rfl <;> exact ⟨_, rfl⟩

/-- The tables after `INSERT INTO command_receipts … ON CONFLICT DO NOTHING`. -/
def Db.withReceipt (db : Db) (row : ReceiptRow) : Db :=
  if found (fun other => other.commandId = row.commandId && other.attempt = row.attempt &&
      other.state = row.state) db.receipts then
    db
  else { db with receipts := db.receipts ++ [row] }

/-- The tables after a receipt that was let through. -/
def Db.afterReceipt (db : Db) (env : PlatformEnv) (input : DeliveryReceipt)
    (command : CommandRow) (state : CommandState) : Db :=
  let inserted := db.withReceipt (input.row env command)
  receiptEffects env.now command input.state input.runtimeEndpointRef
    { inserted with
      commands := updateWhere (fun row => row.id = command.id)
        (fun row => row.afterDelivery env.now state) inserted.commands
      attempts := updateWhere
        (fun row => row.commandId = command.id && row.attempt = input.attempt)
        (fun row => row.afterDelivery env.now state.attemptState input) inserted.attempts }

/-- The receipt with the command, the attempt and the state. -/
def Db.deliveredReceipt? (db : Db) (input : DeliveryReceipt) (command : CommandRow) : Option ReceiptRow :=
  db.receipts.find? fun row =>
    row.commandId = command.id && row.attempt = input.attempt && row.state = input.state

theorem recordDelivery_ok {db final : Db} {env : PlatformEnv} {input : DeliveryReceipt}
    {command : CommandRow} {answer : Option ReceiptRow} (held : db.delivered? input = some command) :
    (recordDelivery env input command).eval db = .ok (answer, final) ↔
      db.Admits env input command ∧ ∃ state, input.state.sameName? = some state ∧
        final = db.afterReceipt env input command state ∧
        answer = final.deliveredReceipt? input command := by
  simp only [recordDelivery, insertDeliveryReceipt, Tx.eval_bind_ok, ensure_ok,
    Tx.eval_orRaise_ok, Tx.eval_insert_ok, Tx.eval_write, Tx.eval_read, Except.ok.injEq,
    Prod.mk.injEq, List.forall_mem_cons, List.not_mem_nil, false_implies, implies_true, and_true]
  constructor
  · rintro ⟨_, _, ⟨allowed, rfl⟩, state, _, ⟨named, rfl⟩, _, _,
      ⟨⟨safe, new⟩, rfl⟩, _, _, ⟨-, rfl⟩, _, _, ⟨-, rfl⟩, _, _, ⟨endpoint, rfl⟩, _, _, ⟨-, rfl⟩,
      rfl, rfl⟩
    exact ⟨⟨held, allowed, safe, new, endpoint⟩, state, named, rfl, rfl⟩
  · rintro ⟨admits, state, named, rfl, rfl⟩
    exact ⟨(), db, ⟨admits.allowed, rfl⟩, state, db, ⟨named, rfl⟩, (), _,
      ⟨⟨admits.safe, admits.id_new⟩, rfl⟩, (), _, ⟨trivial, rfl⟩, (), _, ⟨trivial, rfl⟩, (), _,
      ⟨admits.endpoint, rfl⟩, (), _, ⟨trivial, rfl⟩, rfl, rfl⟩

omit [Host] in
/-- A receipt that was let through is stored. -/
theorem Db.deliveredReceipt?_afterReceipt (db : Db) (env : PlatformEnv) (input : DeliveryReceipt)
    (command : CommandRow) (state : CommandState) :
    ∃ receipt, (db.afterReceipt env input command state).deliveredReceipt? input command =
      some receipt := by
  have rows : (db.afterReceipt env input command state).receipts =
      (db.withReceipt (input.row env command)).receipts := by
    unfold Db.afterReceipt
    rw [receiptEffects_receipts]
  unfold Db.deliveredReceipt?
  rw [rows]
  apply Option.isSome_iff_exists.mp
  rw [List.find?_isSome]
  unfold Db.withReceipt
  split
  · rename_i recorded
    obtain ⟨row, member, same⟩ := List.any_eq_true.mp recorded
    exact ⟨row, member, same⟩
  · refine ⟨input.row env command, by simp, ?_⟩
    simp [DeliveryReceipt.row]

/-- The command that the guards let through is the one that the receipt names. -/
theorem Db.Admits.id_eq {db : Db} {env : PlatformEnv} {input : DeliveryReceipt}
    {command : CommandRow} (admits : db.Admits env input command) :
    command.id = input.commandId := by
  have held := admits.held
  unfold Db.delivered? at held
  simp only [Option.bind_eq_bind, Option.bind_eq_some_iff] at held
  obtain ⟨row, stored, same⟩ := held
  split at same
  · cases same
    simpa using List.find?_some stored
  · cases same

/-- A receipt that is let through stamps its command. -/
theorem DeliveryStore.receive_admitted {store : DeliveryStore} {env : PlatformEnv}
    {input : DeliveryReceipt} {command : CommandRow}
    (admits : store.db.Admits env input command) :
    (store.receive env input).updatedAt input.commandId = env.now := by
  obtain ⟨state, named⟩ : ∃ state, input.state.sameName? = some state := by
    rcases admits.allowed with same | listed
    · exact ⟨_, same⟩
    · exact deliveryTransitions_named listed
  obtain ⟨receipt, stored⟩ := store.db.deliveredReceipt?_afterReceipt env input command state
  have answered : (recordCommandReceipt env input).eval store.db =
      .ok (some receipt, store.db.afterReceipt env input command state) := by
    unfold recordCommandReceipt
    rw [Tx.eval_read_bind, admits.held]
    exact (recordDelivery_ok admits.held).mpr ⟨admits, state, named, rfl, stored.symm⟩
  unfold DeliveryStore.receive
  rw [Tx.inTransaction_none_ok answered, admits.held, ← admits.id_eq]
  exact Function.update_self _ _ _

/-- A receipt that is not let through changes nothing. -/
theorem DeliveryStore.receive_refused {store : DeliveryStore} {env : PlatformEnv}
    {input : DeliveryReceipt} (refused : ∀ command, ¬store.db.Admits env input command) :
    store.receive env input = store := by
  unfold DeliveryStore.receive
  cases held : store.db.delivered? input with
  | none =>
      have answered : (recordCommandReceipt env input).eval store.db = .ok (none, store.db) := by
        unfold recordCommandReceipt
        rw [Tx.eval_read_bind, held]
        rfl
      rw [Tx.inTransaction_none_ok answered]
  | some command =>
      cases ran : (recordCommandReceipt env input).eval store.db with
      | error error => rw [Tx.inTransaction_none_error ran]
      | ok answer =>
          have delivery : (recordDelivery env input command).eval store.db = .ok answer := by
            rw [← ran]
            unfold recordCommandReceipt
            rw [Tx.eval_read_bind, held]
          exact absurd ((recordDelivery_ok held).mp delivery).1 (refused command)

/-- A receipt that changes what its command carries was let through. -/
theorem DeliveryStore.admitted_of_stamped {store : DeliveryStore} {env : PlatformEnv}
    {input : DeliveryReceipt}
    (stamped : (store.receive env input).updatedAt input.commandId ≠
      store.updatedAt input.commandId) :
    ∃ command, store.db.Admits env input command := by
  by_contra refused
  apply stamped
  rw [DeliveryStore.receive_refused fun command admits => refused ⟨command, admits⟩]

end Receipts

/-! ### Superseded and replayed receipts -/

/-- The receipt names an attempt below the current one of its command. -/
def Db.Supersedes (db : Db) (input : DeliveryReceipt) : Prop :=
  input.attempt < maxOf ((db.attemptsOf input.commandId).map AttemptRow.attempt)

section Runs

variable [Host]

/-- The receipt was let through earlier in the run. -/
def Replays (earlier : List (Transition DeliveryStore DeliveryLabel)) (input : DeliveryReceipt) :
    Prop :=
  ∃ transition ∈ earlier, ∃ env command, transition.label = ⟨.receipt env input, false⟩ ∧
    transition.before.db.Admits env input command

/-- The two stores have the same commands, agents, runtimes, channels and backups. -/
structure DeliveryStore.Alike (first second : DeliveryStore) : Prop where
  commands : first.db.commands = second.db.commands
  updatedAt : first.updatedAt = second.updatedAt
  agents : first.db.agents = second.db.agents
  runtimes : first.db.runtimes = second.db.runtimes
  channels : first.channels = second.channels
  backups : first.db.backups = second.db.backups
  backupStatus : first.backupStatus = second.backupStatus

/-- A superseded receipt changes neither its command nor anything that the command acts on,
and a replayed one changes nothing at all. -/
def Inert (earlier : List (Transition DeliveryStore DeliveryLabel))
    (transition : Transition DeliveryStore DeliveryLabel) : Prop :=
  ∀ env input, transition.label.call = .receipt env input →
    (transition.before.db.Supersedes input → transition.before.Alike transition.after) ∧
      (Replays earlier input → transition.after = transition.before)

/-- A superseded or replayed receipt is refused by the guards, or its connection is lost. -/
def Refused (earlier : List (Transition DeliveryStore DeliveryLabel))
    (transition : Transition DeliveryStore DeliveryLabel) : Prop :=
  ∀ env input, transition.label.call = .receipt env input →
    transition.before.db.Supersedes input ∨ Replays earlier input →
      transition.label.lost = true ∨ ∀ command, ¬transition.before.db.Admits env input command

/-- In every run all superseded and replayed receipts are inert exactly if all of them are
refused. -/
theorem receipts_inert_iff {history : List (Transition DeliveryStore DeliveryLabel)}
    {store : DeliveryStore} (run : Run deliverySystem history store) :
    (∀ later transition earlier, history = later ++ transition :: earlier →
      Inert earlier transition) ↔
    ∀ later transition earlier, history = later ++ transition :: earlier →
      Refused earlier transition := by
  refine forall_congr' fun later => forall_congr' fun transition => forall_congr' fun earlier =>
    forall_congr' fun split => ?_
  obtain ⟨-, timely, same⟩ := (split ▸ run).before_of_split
  refine forall_congr' fun env => forall_congr' fun input => forall_congr' fun call => ?_
  have late := timely env input call
  constructor
  · rintro ⟨superseded, replayed⟩ kind
    by_contra admitted
    rw [not_or, not_forall] at admitted
    obtain ⟨kept, command, admits⟩ := admitted
    have admits := not_not.mp admits
    have stamped : transition.after.updatedAt input.commandId = env.now := by
      rw [← same, DeliveryLabel.after, if_neg kept, call]
      exact DeliveryStore.receive_admitted admits
    rcases kind with below | again
    · have unchanged := (superseded below).updatedAt
      rw [unchanged, stamped] at late
      exact late rfl
    · rw [← replayed again, stamped] at late
      exact late rfl
  · intro refused
    have inert : transition.before.db.Supersedes input ∨ Replays earlier input →
        transition.after = transition.before := by
      intro kind
      rw [← same, DeliveryLabel.after]
      split
      · rfl
      · rename_i kept
        rw [call]
        exact DeliveryStore.receive_refused ((refused kind).resolve_left kept)
    constructor
    · intro below
      rw [inert (.inl below)]
      exact ⟨rfl, rfl, rfl, rfl, rfl, rfl, rfl⟩
    · exact fun again => inert (.inr again)

/-- Where all receipts are inert, one that was let through before changes nothing. -/
theorem replay_keeps
    (inert : ∀ history store, Run deliverySystem history store →
      ∀ later transition earlier, history = later ++ transition :: earlier →
        Inert earlier transition)
    {history : List (Transition DeliveryStore DeliveryLabel)} {before after : DeliveryStore}
    {label : DeliveryLabel} {env : PlatformEnv} {input : DeliveryReceipt}
    (run : Run deliverySystem history before) (taken : deliverySystem.step before label after)
    (call : label.call = .receipt env input) (again : Replays history input) : after = before :=
  (inert _ _ (run.step taken) [] _ _ rfl env input call).2 again

end Runs

/-! ### An agent that is suspended again -/

section Sample

attribute [local instance] Host.posix

/-- The check of a step: the time of a receipt is not the one that its command carries. -/
def DeliveryLabel.timely (label : DeliveryLabel) (store : DeliveryStore) : Bool :=
  match label.call with
  | .receipt env input => store.updatedAt input.commandId ≠ env.now
  | _ => true

theorem DeliveryLabel.taken {label : DeliveryLabel} {store : DeliveryStore}
    (timely : label.timely store = true) :
    deliverySystem.step store label (label.after store) := by
  refine ⟨fun env input call => ?_, rfl⟩
  rw [DeliveryLabel.timely, call] at timely
  exact of_decide_eq_true timely

/-- The tables of an agent whose runtime works. -/
def sampleDeliveryStore : DeliveryStore :=
  { db := samplePlatform, updatedAt := fun _ => 0, channels := [], backupStatus := fun _ => none }

/-- A call at a time in seconds that keeps its connection. -/
def deliveryCall (call : DeliveryCall) : DeliveryLabel :=
  { call := call, lost := false }

/-- The owner wants the agent paused or resumed. -/
def sampleCommandRequest (number seconds : Nat) (request : LifecycleRequest) : DeliveryLabel :=
  deliveryCall (.lifecycle (.numbered number (seconds * 1000000))
    { agentId := "agent-1", request := request, requestedBy := "user-1", reason := none })

/-- The server polls. -/
def sampleHandout (number seconds : Nat) : DeliveryLabel :=
  deliveryCall (.lease (.numbered number (seconds * 1000000)) samplePollInput)

/-- A receipt of the first attempt of the command of a call. -/
def sampleHandoff (creation : Nat) (state : ReceiptState) : DeliveryReceipt :=
  { commandId := (PlatformEnv.numbered creation 0).command.text, serverId := "server-1"
    attempt := 1, state := state, errorCode := none, errorSummary := none
    runtimeEndpointRef := none, resultSummary := .obj [], evidenceRefs := [] }

/-- The server reports the first attempt of the command of a call. -/
def sampleReceiptCall (number seconds creation : Nat) (state : ReceiptState) : DeliveryLabel :=
  deliveryCall (.receipt (.numbered number (seconds * 1000000)) (sampleHandoff creation state))

/-- The agent is suspended and resumed. -/
def sampleResumption : List DeliveryLabel :=
  [sampleCommandRequest 0 1 .pause, sampleHandout 1 2, sampleReceiptCall 2 3 0 .accepted,
    sampleReceiptCall 3 4 0 .running, sampleReceiptCall 4 5 0 .succeeded, sampleCommandRequest 5 6 .resume,
    sampleHandout 6 7, sampleReceiptCall 7 8 5 .accepted, sampleReceiptCall 8 9 5 .running,
    sampleReceiptCall 9 10 5 .succeeded]

/-- The history of the calls, and the store after them. -/
def sampleResumed : List (Transition DeliveryStore DeliveryLabel) × DeliveryStore :=
  play DeliveryLabel.after [] sampleDeliveryStore sampleResumption

/-- The receipt of the suspension arrives once more. -/
def sampleReplay : DeliveryLabel :=
  sampleReceiptCall 10 11 0 .succeeded

theorem sampleResumed_run : Run deliverySystem sampleResumed.1 sampleResumed.2 := by
  have passes : playable DeliveryLabel.timely DeliveryLabel.after sampleDeliveryStore
      sampleResumption = true := by decide +kernel
  exact Run.play_of_playable (fun _ _ => DeliveryLabel.taken) (.start trivial) passes

theorem receipts_inert_sample :
    (∀ later transition earlier, sampleResumed.1 = later ++ transition :: earlier →
      Inert earlier transition) ↔
    ∀ later transition earlier, sampleResumed.1 = later ++ transition :: earlier →
      Refused earlier transition :=
  receipts_inert_iff sampleResumed_run

/-- The store in which the server reports that the agent is suspended. -/
def sampleSuspending : DeliveryStore :=
  (play DeliveryLabel.after [] sampleDeliveryStore (sampleResumption.take 4)).2

/-- The command is leased to the server again, after its first lease ran out. -/
def sampleReleased : DeliveryStore :=
  (play DeliveryLabel.after [] sampleDeliveryStore
    [sampleCommandRequest 0 1 .pause, sampleHandout 1 2, sampleHandout 2 100]).2

/-- What the owner sees of the agent. -/
def DeliveryStore.lifecycle (store : DeliveryStore) :
    List (RuntimeStatus × DesiredRuntimeState) :=
  store.db.agents.map fun agent => (agent.status, agent.desiredRuntimeState)

/-- The receipt of the suspension, sent again after the resumption, suspends the agent again,
and a receipt of the first attempt accepts the command that is leased a second time. -/
theorem superseded_and_replayed_receipts_act :
    (¬ ∀ history store, Run deliverySystem history store →
      ∀ later transition earlier, history = later ++ transition :: earlier →
        Inert earlier transition) ∧
    (sampleResumed.2.lifecycle = [(.starting, .running)] ∧
      (sampleReplay.after sampleResumed.2).lifecycle = [(.suspended, .suspended)]) ∧
    (sampleReleased.db.Supersedes (sampleHandoff 0 .accepted) ∧
      sampleReleased.db.commands.map CommandRow.state = [.leased] ∧
      ((sampleReceiptCall 3 101 0 .accepted).after sampleReleased).db.commands.map CommandRow.state =
        [.accepted]) := by
  have before : sampleResumed.2.lifecycle = [(.starting, .running)] := by decide +kernel
  have after : (sampleReplay.after sampleResumed.2).lifecycle = [(.suspended, .suspended)] := by
    decide +kernel
  refine ⟨fun inert => ?_, ⟨before, after⟩, ?_, ?_, ?_⟩
  · have timely : sampleReplay.timely sampleResumed.2 = true := by decide +kernel
    have admitted := DeliveryStore.admitted_of_stamped
      (show (sampleSuspending.receive (.numbered 4 5000000) (sampleHandoff 0 .succeeded)).updatedAt
          (sampleHandoff 0 .succeeded).commandId ≠
        sampleSuspending.updatedAt (sampleHandoff 0 .succeeded).commandId by decide +kernel)
    obtain ⟨command, admits⟩ := admitted
    have earlier : Replays sampleResumed.1 (sampleHandoff 0 .succeeded) :=
      ⟨⟨sampleSuspending, sampleReceiptCall 4 5 0 .succeeded,
          (sampleReceiptCall 4 5 0 .succeeded).after sampleSuspending⟩,
        List.mem_of_getElem? (i := 5) rfl, _, command, rfl, admits⟩
    have call : sampleReplay.call =
        .receipt (.numbered 10 (11 * 1000000)) (sampleHandoff 0 .succeeded) := rfl
    have same := replay_keeps inert sampleResumed_run (DeliveryLabel.taken timely) call earlier
    rw [same, before] at after
    exact absurd after (by decide)
  · unfold Db.Supersedes
    decide +kernel
  · decide +kernel
  · decide +kernel

end Sample

end BairuiPlatform
