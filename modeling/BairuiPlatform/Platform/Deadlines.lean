/-
Module: BairuiPlatform.Platform.Deadlines
Purpose: Which commands whose lease and whose own deadline have passed a poll of their server
  releases, and which it leaves in the way of the lifecycle of their agent.
Trusted boundary: the clocks of the process and of the database agree
Main exports: CommandRow.isDead, Db.Released, leaseControlCommands_dead_iff,
  dead_commands_released_iff
-/
import BairuiPlatform.Authority.Execution
import BairuiPlatform.Platform.System

namespace BairuiPlatform

open Foundations

/-! ### Dead commands -/

/-- A command in the hands of an executor, past its lease and past its own deadline. -/
def CommandRow.isDead (row : CommandRow) (now : Nat) : Bool :=
  [.leased, .accepted, .running].contains row.state && row.leaseExpiresAt.any (· ≤ now) &&
    row.expiresAt ≤ now

/-- The executor has taken the command on. -/
def CommandRow.isTaken (row : CommandRow) : Bool :=
  [.accepted, .running].contains row.state

/-- A command of the server: leased to it, or for a deployment on it. -/
def Db.isOfServer (db : Db) (serverId : String) (row : CommandRow) : Bool :=
  row.leaseServerId = some serverId ||
    found (fun deployment => deployment.id = row.deploymentId &&
      deployment.serverId = some serverId) db.deployments

/-- No command of the server is dead, so that none of those in the way of a lifecycle request
for one of its deployments is. -/
structure Db.Released (db : Db) (serverId : String) (now : Nat) : Prop where
  released : ∀ row ∈ db.commands, db.isOfServer serverId row = true → row.isDead now = false
  unblocked : ∀ deploymentId, ∀ row ∈ db.lifecycleCommands deploymentId,
    db.isOfServer serverId row = true → row.isDead now = false

theorem Db.released_iff {db : Db} {serverId : String} {now : Nat} :
    db.Released serverId now ↔
      ∀ row ∈ db.commands, db.isOfServer serverId row = true → row.isDead now = false := by
  constructor
  · exact fun released => released.released
  · intro none
    exact ⟨none, fun deploymentId row member => none row (List.mem_of_mem_filter member)⟩

/-! ### What a poll does to them -/

theorem CommandRow.isDead_eq_true {row : CommandRow} {now : Nat} :
    row.isDead now = true ↔
      (row.state = .leased ∨ row.state = .accepted ∨ row.state = .running) ∧
        (∃ deadline, row.leaseExpiresAt = some deadline ∧ deadline ≤ now) ∧
          row.expiresAt ≤ now := by
  simp only [isDead, Bool.and_eq_true, List.contains_iff_mem, List.mem_cons, List.not_mem_nil,
    or_false, decide_eq_true_eq, Option.any_eq_true, and_assoc]

/-- What is neither queued, leased nor alive stays as it is in the first two statements. -/
theorem CommandRow.isDead_taken {row : CommandRow} {now : Nat} (dead : row.isDead now = true)
    (taken : row.isTaken = true) : row.outlived now = false ∧ row.abandoned now = false := by
  obtain ⟨-, -, late⟩ := isDead_eq_true.mp dead
  simp only [isTaken, List.contains_iff_mem, List.mem_cons, List.not_mem_nil, or_false] at taken
  constructor
  · rcases taken with accepted | running
    · simp [outlived, accepted]
    · simp [outlived, running]
  · simp only [abandoned, Bool.and_eq_false_iff, decide_eq_false_iff_not]
    exact .inr (by omega)

/-- The commands after the first two statements of a poll. -/
def Db.swept (db : Db) (now : Nat) : Db :=
  { db with
    commands :=
      updateWhere (fun row => row.abandoned now)
        (fun row => { row with state := .queued, leaseServerId := none, leaseExpiresAt := none })
        (updateWhere (fun row => row.outlived now) (fun row => { row with state := .expired })
          db.commands) }

/-- The dead commands that the first two statements leave are those taken on. -/
theorem Db.mem_swept_of_dead {db : Db} {now : Nat} {row : CommandRow}
    (dead : row.isDead now = true) :
    row ∈ (db.swept now).commands ↔ row ∈ db.commands ∧ row.isTaken = true := by
  constructor
  · intro member
    rcases mem_updateWhere.mp member with ⟨old, -, -, rfl⟩ | ⟨kept, -⟩
    · simp [CommandRow.isDead] at dead
    · rcases mem_updateWhere.mp kept with ⟨old, -, -, rfl⟩ | ⟨stored, young⟩
      · simp [CommandRow.isDead] at dead
      · refine ⟨stored, ?_⟩
        obtain ⟨held, -, late⟩ := CommandRow.isDead_eq_true.mp dead
        rcases held with leased | accepted | running
        · simp [CommandRow.outlived, leased, late] at young
        · simp [CommandRow.isTaken, accepted]
        · simp [CommandRow.isTaken, running]
  · rintro ⟨stored, taken⟩
    obtain ⟨young, held⟩ := row.isDead_taken dead taken
    exact mem_updateWhere.mpr (.inr ⟨mem_updateWhere.mpr (.inr ⟨stored, young⟩), held⟩)

theorem Db.CommandsKeyed.swept {db : Db} (keyed : db.CommandsKeyed) (now : Nat) :
    (db.swept now).CommandsKeyed := by
  have first : Keyed CommandRow.id (updateWhere (fun row => row.outlived now)
      (fun row => { row with state := .expired }) db.commands) :=
    Keyed.update keyed fun _ => rfl
  unfold Db.CommandsKeyed Db.swept
  exact first.update fun _ => rfl

/-- A lease ends after it was granted. -/
theorem ControlLeaseInput.lt_leaseEnd (input : ControlLeaseInput) (now : Nat) :
    now < ofMillis (dateNow now + input.boundedSeconds * 1000) := by
  have long : 15 ≤ input.boundedSeconds := Nat.le_max_left _ _
  unfold ofMillis dateNow
  omega

theorem deliverOne_ok {env : PlatformEnv} {input : ControlLeaseInput} {index : Nat}
    {command : CommandRow} {db final : Db} {delivered : DeliveredCommand}
    (ran : (deliverOne env input index command).eval db = .ok (delivered, final)) :
    ∃ attempts, final =
      { db with
        commands := updateWhere (fun row => row.id = command.id)
          (fun row => row.lease input.serverId
            (ofMillis (dateNow env.now + input.boundedSeconds * 1000))) db.commands
        attempts := attempts } := by
  simp only [deliverOne, insertAttempt, Tx.eval_read_bind, Tx.eval_write_bind, Tx.eval_bind_ok,
    Tx.eval_insert_ok, Tx.eval_pure, Except.ok.injEq, Prod.mk.injEq] at ran
  obtain ⟨_, middle, ⟨-, rfl⟩, -, rfl⟩ := ran
  exact ⟨_, rfl⟩

/-- A poll that is answered leases, from the swept commands on, commands that are queued. -/
theorem leaseControlCommands_ok {env : PlatformEnv} {input : ControlLeaseInput} {db final : Db}
    {rows : List DeliveredCommand}
    (ran : (leaseControlCommands env input).eval db = .ok (rows, final)) :
    (Tx.forEach 0 ((db.swept env.now).deliverableCommands env.now input)
      (deliverOne env input)).eval (db.swept env.now) = .ok (rows, final) := by
  simp only [leaseControlCommands, Tx.eval_write_bind, Tx.eval_read_bind] at ran
  exact ran

theorem Db.queued_of_deliverable {db : Db} {now : Nat} {input : ControlLeaseInput}
    {command : CommandRow} (member : command ∈ db.deliverableCommands now input) :
    command ∈ db.commands ∧ command.state = .queued := by
  have sorted := List.mem_of_mem_take member
  rw [List.mem_insertionSort, List.mem_filter] at sorted
  obtain ⟨stored, deliverable⟩ := sorted
  refine ⟨stored, ?_⟩
  simp only [isDeliverable, Bool.and_eq_true, decide_eq_true_eq] at deliverable
  exact deliverable.1.1.1.2

/-- After a poll exactly those commands are dead that were dead before and taken on. -/
theorem leaseControlCommands_dead_iff {env : PlatformEnv} {input : ControlLeaseInput}
    {db final : Db} {rows : List DeliveredCommand} (keyed : db.CommandsKeyed)
    (ran : (leaseControlCommands env input).eval db = .ok (rows, final)) {row : CommandRow}
    (dead : row.isDead env.now = true) :
    row ∈ final.commands ↔ row ∈ db.commands ∧ row.isTaken = true := by
  rw [← Db.mem_swept_of_dead dead]
  have loop := leaseControlCommands_ok ran
  have sweptKeyed := keyed.swept env.now
  constructor
  · -- A command that the loop leases is not dead.
    intro member
    have kept : ∀ row ∈ final.commands, row.isDead env.now = true →
        row ∈ (db.swept env.now).commands := by
      apply Tx.forEach_invariant
        (fun (current : Db) => ∀ row ∈ current.commands, row.isDead env.now = true →
          row ∈ (db.swept env.now).commands) _ (fun _ stored _ => stored) loop
      intro index command current delivered next _ before step row member dead
      obtain ⟨attempts, rfl⟩ := deliverOne_ok step
      rcases mem_updateWhere.mp member with ⟨old, -, -, rfl⟩ | ⟨stored, -⟩
      · obtain ⟨-, ⟨deadline, ends, passed⟩, -⟩ := CommandRow.isDead_eq_true.mp dead
        cases ends
        exact absurd passed (Nat.not_le_of_lt (input.lt_leaseEnd env.now))
      · exact before row stored dead
    exact kept row member dead
  · -- The loop leaves a command that is taken on, as no queued command has its id.
    intro member
    have taken := ((Db.mem_swept_of_dead dead).mp member).2
    apply Tx.forEach_invariant (fun (current : Db) => row ∈ current.commands) _ member loop
    intro index command current delivered next item before step
    obtain ⟨attempts, rfl⟩ := deliverOne_ok step
    refine mem_updateWhere.mpr (.inr ⟨before, ?_⟩)
    obtain ⟨stored, queued⟩ := Db.queued_of_deliverable item
    simp only [decide_eq_false_iff_not]
    intro same
    have equal := sweptKeyed.eq_of_key_eq member stored same
    rw [equal] at taken
    simp [CommandRow.isTaken, queued] at taken

/-- A poll leaves the deployments. -/
theorem leaseControlCommands_deployments {env : PlatformEnv} {input : ControlLeaseInput}
    {db final : Db} {rows : List DeliveredCommand}
    (ran : (leaseControlCommands env input).eval db = .ok (rows, final)) :
    final.deployments = db.deployments := by
  apply Tx.forEach_invariant (fun (current : Db) => current.deployments = db.deployments) _
    (show (db.swept env.now).deployments = db.deployments from rfl) (leaseControlCommands_ok ran)
  intro index command current delivered next _ before step
  obtain ⟨attempts, rfl⟩ := deliverOne_ok step
  exact before

/-- A poll releases the dead commands of its server if and only if none of them was taken
on. -/
theorem leaseControlCommands_released_iff {env : PlatformEnv} {input : ControlLeaseInput}
    {db final : Db} {rows : List DeliveredCommand} (keyed : db.CommandsKeyed)
    (ran : (leaseControlCommands env input).eval db = .ok (rows, final)) :
    final.Released input.serverId env.now ↔
      ∀ row ∈ db.commands, db.isOfServer input.serverId row = true → row.isTaken = true →
        row.isDead env.now = false := by
  have same : ∀ row, final.isOfServer input.serverId row = db.isOfServer input.serverId row := by
    intro row
    unfold Db.isOfServer
    rw [leaseControlCommands_deployments ran]
  rw [Db.released_iff]
  simp only [same]
  constructor
  · intro released row member owned taken
    by_contra alive
    have dead : row.isDead env.now = true := by simpa using alive
    have stays := (leaseControlCommands_dead_iff keyed ran dead).mpr ⟨member, taken⟩
    exact alive (released row stays owned)
  · intro free row member owned
    by_contra alive
    have dead : row.isDead env.now = true := by simpa using alive
    obtain ⟨stored, taken⟩ := (leaseControlCommands_dead_iff keyed ran dead).mp member
    exact alive (free row stored owned taken)

/-! ### Runs -/

section Runs

variable [Host]

/-- The transition is a poll that is answered. -/
def Foundations.Transition.IsPoll (transition : Transition Db PlatformLabel) (env : PlatformEnv)
    (input : ControlLeaseInput) : Prop :=
  ∃ fault rows, transition.label = ⟨.lease env input, fault⟩ ∧
    (leaseControlCommands env input).inTransaction fault transition.before =
      (.ok rows, transition.after)

theorem Foundations.Transition.isPoll_of_answered {env : PlatformEnv} {input : ControlLeaseInput}
    {fault : Option Nat} {before : Db}
    (answered : ((leaseControlCommands env input).inTransaction fault before).1.isOk = true) :
    Transition.IsPoll
      ⟨before, ⟨.lease env input, fault⟩, PlatformLabel.after ⟨.lease env input, fault⟩ before⟩
      env input := by
  refine ⟨fault, ?_⟩
  cases ran : (leaseControlCommands env input).inTransaction fault before with
  | mk answer after =>
      rw [ran] at answered
      cases answer with
      | error interruption => cases answered
      | ok rows => exact ⟨rows, rfl, by simp [PlatformLabel.after, ran]⟩

/-- In every run each poll that is answered leaves no command of its server dead, if and only
if at each of them no command of the server was accepted or running past both its lease and its
own deadline. -/
theorem dead_commands_released_iff {history : List (Transition Db PlatformLabel)} {db : Db}
    (run : Run platformSystem history db) :
    (∀ transition ∈ history, ∀ env input, transition.IsPoll env input →
      transition.after.Released input.serverId env.now) ↔
    ∀ transition ∈ history, ∀ env input, transition.IsPoll env input →
      ∀ row ∈ transition.before.commands,
        transition.before.isOfServer input.serverId row = true → row.isTaken = true →
          row.isDead env.now = false := by
  refine forall₂_congr fun transition member => ?_
  refine forall₂_congr fun env input => forall_congr' fun poll => ?_
  obtain ⟨fault, rows, -, answered⟩ := poll
  obtain ⟨earlier, ran, -, -⟩ := run.before_of_mem member
  exact leaseControlCommands_released_iff (commands_keyed ran) (Tx.inTransaction_ok answered)

end Runs

/-! ### An executor that vanishes -/

section Sample

attribute [local instance] Host.posix

/-- Random values that no other number gives. -/
def PlatformEnv.numbered (number now : Nat) : PlatformEnv :=
  let draw (index : Nat) : Uuid := .numbered (16 * number + index)
  { now := now, command := draw 0, approval := draw 1, idempotency := draw 2, config := draw 3
    credential := draw 4, deployment := draw 5, desiredState := draw 6, receipt := draw 7
    attempts := fun index => draw (8 + index) }

/-- The tables of an agent whose runtime works. -/
def samplePlatform : Db :=
  { sampleDb with
    runtimes :=
      [{ id := "runtime-1", organizationId := "org-1", ownerUserId := "user-1"
         agentId := "agent-1", deploymentId := some "deployment-1", workspaceRef := "workspace"
         status := .ready, configRevisionId := none, endpointRef := none }] }

/-- A call at a time in seconds that keeps its connection. -/
def platformCall (call : PlatformCall) : PlatformLabel :=
  { call := call, fault := none }

/-- The owner wants the agent paused or deleted. -/
def sampleLifecycle (number seconds : Nat) (request : LifecycleRequest) : PlatformLabel :=
  platformCall (.lifecycle (.numbered number (seconds * 1000000))
    { agentId := "agent-1", request := request, requestedBy := "user-1", reason := none })

/-- What a poll of the server asks for. -/
def samplePollInput : ControlLeaseInput :=
  { serverId := "server-1", limit := none, leaseSeconds := none }

/-- The server polls. -/
def samplePoll (number seconds : Nat) : PlatformLabel :=
  platformCall (.lease (.numbered number (seconds * 1000000)) samplePollInput)

/-- The server accepts the first attempt of the command of a call. -/
def sampleAcceptance (number seconds creation : Nat) : PlatformLabel :=
  platformCall (.receipt (.numbered number (seconds * 1000000))
    { commandId := (PlatformEnv.numbered creation 0).command.text, serverId := "server-1"
      attempt := 1, state := .accepted, errorCode := none, errorSummary := none
      runtimeEndpointRef := none, resultSummary := .obj [], evidenceRefs := [] })

/-- The command is queued, leased and accepted; the server falls silent, and polls again when
the command is past its deadline. -/
def sampleSilence : List PlatformLabel :=
  [sampleLifecycle 0 1 .pause, samplePoll 1 2, sampleAcceptance 2 3 0, samplePoll 3 2000]

/-- The history of the calls, and the tables after them. -/
def sampleSilent : List (Transition Db PlatformLabel) × Db :=
  play PlatformLabel.after [] samplePlatform sampleSilence

theorem sampleSilent_run : Run platformSystem sampleSilent.1 sampleSilent.2 := by
  have keyed : samplePlatform.CommandsKeyed := Keyed.nil
  refine Run.play (.start keyed) fun label member db => PlatformLabel.taken ?_ db
  simp only [sampleSilence, List.mem_cons, List.not_mem_nil, or_false] at member
  rcases member with rfl | rfl | rfl | rfl <;> exact fun tables => nofun

theorem dead_commands_released_sample :
    (∀ transition ∈ sampleSilent.1, ∀ env input, transition.IsPoll env input →
      transition.after.Released input.serverId env.now) ↔
    ∀ transition ∈ sampleSilent.1, ∀ env input, transition.IsPoll env input →
      ∀ row ∈ transition.before.commands,
        transition.before.isOfServer input.serverId row = true → row.isTaken = true →
          row.isDead env.now = false :=
  dead_commands_released_iff sampleSilent_run

/-- The tables before the last poll. -/
def sampleForgotten : Db :=
  (play PlatformLabel.after [] samplePlatform
    [sampleLifecycle 0 1 .pause, samplePoll 1 2, sampleAcceptance 2 3 0]).2

/-- The error that a deletion of the agent raises. -/
def deletionError (db : Db) : Option Failure :=
  match (requestAgentLifecycle (.numbered 4 2001000000)
    { agentId := "agent-1", request := .delete, requestedBy := "user-1", reason := none }).eval db
  with
  | .error error => some error
  | .ok _ => none

/-- The last poll leaves the command, which then is in the way of the deletion of its agent. -/
theorem vanished_executor_blocks_agent :
    (¬ ∀ history db, Run platformSystem history db → ∀ transition ∈ history, ∀ env input,
      transition.IsPoll env input → transition.after.Released input.serverId env.now) ∧
    deletionError sampleSilent.2 =
      some (.control (controlError "agent_lifecycle_in_progress"
        "Another Agent lifecycle command is in progress" 409)) := by
  constructor
  · intro released
    have answered : ((leaseControlCommands (.numbered 3 2000000000) samplePollInput).inTransaction
        none sampleForgotten).1.isOk = true := by decide +kernel
    have free := (released _ _ sampleSilent_run _ List.mem_cons_self _ _
      (Transition.isPoll_of_answered answered)).released
    have dead : ∃ row ∈ sampleSilent.2.commands,
        sampleSilent.2.isOfServer "server-1" row = true ∧ row.isDead 2000000000 = true := by
      decide +kernel
    obtain ⟨row, member, owned, dead⟩ := dead
    have alive : row.isDead 2000000000 = false := free row member owned
    rw [dead] at alive
    cases alive
  · decide +kernel

end Sample

end BairuiPlatform
