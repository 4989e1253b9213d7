/-
Module: BairuiPlatform.Authority.CommandEffects
Purpose: What the mutators of ControlAuthorityRepository do to commands, approvals,
  leases and attempts when they carry out a request.
Trusted boundary: none
Main exports: createCommandFresh_ok, decideApprovalFresh_ok, expireOne_ok,
  leaseOne_ok, expireLeases_ok, leaseCommands_ok
-/
import BairuiPlatform.Authority.Effects

namespace BairuiPlatform

open Foundations

/-! ### Creation -/

/-- The constraints that a new command meets. -/
structure CommandEntry [Host] (db : Db) (row : CommandRow) : Prop where
  safe : bairuiControlJsonIsSafe row.arguments = true
  secretRefs : row.secretRefs.all isSecretRef = true
  id_new : ∀ other ∈ db.commands, other.id ≠ row.id
  key_new : ∀ other ∈ db.commands,
    other.deploymentId = row.deploymentId → other.idempotencyKey ≠ row.idempotencyKey

theorem insertCommand_ok [Host] {row : CommandRow} {db db' : Db} {answer : Unit} :
    (insertCommand row).eval db = .ok (answer, db') ↔
      CommandEntry db row ∧ db' = { db with commands := db.commands ++ [row] } := by
  simp only [insertCommand, Tx.eval_insert_ok, List.forall_mem_cons, List.not_mem_nil,
    Bool.not_eq_true', found_eq_false, decide_eq_false_iff_not, Bool.and_eq_false_imp,
    decide_eq_true_eq, false_implies, implies_true, and_true]
  constructor
  · rintro ⟨⟨safe, secretRefs, idNew, keyNew⟩, rfl⟩
    exact ⟨⟨safe, secretRefs, idNew, keyNew⟩, rfl⟩
  · rintro ⟨entry, rfl⟩
    exact ⟨⟨entry.safe, entry.secretRefs, entry.id_new, entry.key_new⟩, rfl⟩

/-- The constraints that a new approval meets. -/
structure ApprovalEntry [Host] (db : Db) (row : ApprovalRow) : Prop where
  safe : bairuiControlJsonIsSafe row.scope = true
  id_new : ∀ other ∈ db.approvals, other.id ≠ row.id
  key_new : ∀ other ∈ db.approvals,
    other.organizationId.isSome = true → other.idempotencyKey.isSome = true →
      other.organizationId = row.organizationId → other.idempotencyKey ≠ row.idempotencyKey

theorem insertApproval_ok [Host] {row : ApprovalRow} {db db' : Db} {answer : Unit} :
    (insertApproval row).eval db = .ok (answer, db') ↔
      ApprovalEntry db row ∧ db' = { db with approvals := db.approvals ++ [row] } := by
  simp only [insertApproval, Tx.eval_insert_ok, List.forall_mem_cons, List.not_mem_nil,
    Bool.not_eq_true', found_eq_false, decide_eq_false_iff_not, Bool.and_eq_false_imp,
    Bool.and_eq_true, and_imp, decide_eq_true_eq, false_implies, implies_true, and_true]
  constructor
  · rintro ⟨⟨safe, idNew, keyNew⟩, rfl⟩
    exact ⟨⟨safe, idNew, keyNew⟩, rfl⟩
  · rintro ⟨entry, rfl⟩
    exact ⟨⟨entry.safe, entry.id_new, entry.key_new⟩, rfl⟩

theorem insertApproval?_ok [Host] {candidate : Option ApprovalRow} {db db' : Db}
    {answer : Unit} :
    (insertApproval? candidate).eval db = .ok (answer, db') ↔
      (∀ row ∈ candidate, ApprovalEntry db row) ∧
        db' = { db with approvals := db.approvals ++ candidate.toList } := by
  cases candidate with
  | none =>
      simp only [insertApproval?, Tx.eval_pure, Except.ok.injEq, Prod.mk.injEq, true_and,
        Option.not_mem_none, false_implies, implies_true, Option.toList_none, List.append_nil]
      exact eq_comm
  | some row => simp [insertApproval?, insertApproval_ok]

/-- `createCommand` stored the command of its input. -/
structure StoresCommand [Host] (env : Env) (input : CommandInput)
    (deployment : DeploymentRow) (db db' : Db) : Prop where
  owns : db.Owns deployment input.deploymentId input.organizationId input.agentId input.userId
    input.serverId
  expected : input.expectedObservationVersion = deployment.observedStateVersion
  alive : dateNow env.now < dateParse input.expiresAt
  entry : CommandEntry db (input.row input.deploymentId)
  approvalEntry : ∀ row ∈ input.approval.map input.approvalRow, ApprovalEntry db row
  journal : Journal.Records env.entropy env.now (input.event input.deploymentId)
    (fun _ => input.record input.deploymentId) db.journal db'.journal
  after : db' =
    { db with
      commands := db.commands ++ [input.row input.deploymentId]
      approvals := db.approvals ++ (input.approval.map input.approvalRow).toList
      journal := db'.journal }

theorem createCommandFresh_ok [Host] {env : Env} {input : CommandInput} {db db' : Db}
    {result : CommandResult}
    (ran : (createCommandFresh env input).eval db = .ok (result, db')) :
    ∃ deployment, StoresCommand env input deployment db db' ∧
      result =
        { command := db'.command? input.id
          approval := input.approval.map input.approvalRow } := by
  simp only [createCommandFresh, Tx.eval_read_bind, Tx.eval_bind_ok, getDeploymentForUpdate_ok,
    ensure_ok, insertCommand_ok, insertApproval?_ok, appendEvent_ok, saveIdempotency_ok,
    Tx.eval_pure, Except.ok.injEq, Prod.mk.injEq, and_assoc, exists_and_left, exists_eq_left,
    exists_const] at ran
  obtain ⟨deployment, owns, expected, alive, -, entry, approvalEntry, event, _,
    ⟨outbox, audit, eventEntry, rfl⟩, idNew, scopeNew, rfl, rfl⟩ := ran
  rw [owns.id_eq] at *
  exact ⟨deployment, ⟨owns, expected, alive, entry,
    fun row member => ⟨(approvalEntry row member).safe, (approvalEntry row member).id_new,
      (approvalEntry row member).key_new⟩,
    ⟨event, outbox, audit, eventEntry, ⟨idNew, scopeNew⟩, rfl⟩, rfl⟩, rfl⟩

/-! ### Decisions -/

theorem Db.joinedApproval?_eq_some {db : Db} {approvalId : String} {joined : JoinedApproval} :
    db.joinedApproval? approvalId = some joined ↔
      db.approvals.find? (fun row => row.id = approvalId) = some joined.approval ∧
        db.commands.find? (fun row => row.id = joined.approval.commandId) =
          some joined.command ∧
        db.ownedDeployment? joined.command.deploymentId = some joined.deployment := by
  unfold Db.joinedApproval? Db.approval?
  simp only [Option.bind_eq_bind, Option.bind_eq_some_iff, Option.pure_def, Option.some.injEq]
  constructor
  · rintro ⟨approval, foundApproval, command, foundCommand, deployment, foundDeployment, rfl⟩
    exact ⟨foundApproval, foundCommand, foundDeployment⟩
  · rintro ⟨foundApproval, foundCommand, foundDeployment⟩
    exact ⟨_, foundApproval, _, foundCommand, _, foundDeployment, rfl⟩

/-- The commands after a decision: a rejected command that is still queued is
cancelled. -/
def ApprovalDecisionInput.commands (input : ApprovalDecisionInput) (commandId : String)
    (rows : List CommandRow) : List CommandRow :=
  if input.decision = .rejected then
    updateWhere (fun row => row.id = commandId && row.state = .queued)
      (fun row => row.reject input.decidedAt) rows
  else rows

/-- `decideApproval` decided the approval of its input. -/
structure DecidesApproval [Host] (env : Env) (input : ApprovalDecisionInput)
    (current : JoinedApproval) (db db' : Db) : Prop where
  joined : db.joinedApproval? input.approvalId = some current
  scope : current.inScope input = true
  pending : current.approval.decision = .pending
  alive : dateNow env.now < dateParseColumn current.approval.expiresAt
  separate : input.decision = .approved → current.approval.requestedBy ≠ input.decidedBy
  journal : Journal.Records env.entropy env.now (input.event current.command)
    (fun _ => input.record current.command) db.journal db'.journal
  after : db' =
    { db with
      approvals := updateWhere (fun row => row.id = input.approvalId) input.decide db.approvals
      commands := input.commands current.command.id db.commands
      journal := db'.journal }

theorem decideApprovalFresh_ok [Host] {env : Env} {input : ApprovalDecisionInput} {db db' : Db}
    {result : Option ApprovalRow}
    (ran : (decideApprovalFresh env input).eval db = .ok (result, db')) :
    ∃ current, DecidesApproval env input current db db' ∧
      result = db'.approval? input.approvalId := by
  simp only [decideApprovalFresh, Tx.eval_read_bind, Tx.eval_write_bind, Tx.eval_bind_ok,
    Tx.eval_orRaise_ok, ensure_ok, Tx.eval_whenever_ok, Tx.eval_write, appendEvent_ok,
    saveIdempotency_ok, Tx.eval_pure, Except.ok.injEq, Prod.mk.injEq, Option.filter_eq_some_iff,
    and_assoc, exists_and_left, exists_eq_left, exists_const, true_and] at ran
  obtain ⟨current, joined, scope, pending, alive, separate, _, rejected, event, _,
    ⟨outbox, audit, eventEntry, rfl⟩, idNew, scopeNew, rfl, rfl⟩ := ran
  refine ⟨current, ?_⟩
  by_cases decision : input.decision = .rejected
  · obtain rfl : _ = _ := by simpa [decision] using rejected
    exact ⟨⟨joined, scope, pending, alive, separate,
      ⟨event, outbox, audit, eventEntry, ⟨idNew, scopeNew⟩, rfl⟩, by
        simp [ApprovalDecisionInput.commands, decision]⟩, rfl⟩
  · obtain rfl : _ = _ := by simpa [decision] using rejected
    exact ⟨⟨joined, scope, pending, alive, separate,
      ⟨event, outbox, audit, eventEntry, ⟨idNew, scopeNew⟩, rfl⟩, by
        simp [ApprovalDecisionInput.commands, decision]⟩, rfl⟩

/-! ### Lease expiry -/

theorem Db.joinedLease?_eq_some {db : Db} {lease : LeaseRow} {joined : ExpiredLease} :
    db.joinedLease? lease = some joined ↔
      joined.lease = lease ∧
        ∃ command deployment,
          db.commands.find? (fun row => row.id = lease.commandId) = some command ∧
            db.deployments.find? (fun row => row.id = lease.deploymentId) = some deployment ∧
            joined.commandState = command.state ∧
            joined.organizationId = deployment.organizationId ∧
            joined.agentId = deployment.agentId := by
  unfold Db.joinedLease?
  simp only [Option.bind_eq_bind, Option.bind_eq_some_iff, Option.pure_def, Option.some.injEq]
  constructor
  · rintro ⟨command, foundCommand, deployment, foundDeployment, rfl⟩
    exact ⟨rfl, command, deployment, foundCommand, foundDeployment, rfl, rfl, rfl⟩
  · rintro ⟨rfl, command, deployment, foundCommand, foundDeployment, state, organization, agent⟩
    exact ⟨command, foundCommand, deployment, foundDeployment, by
      cases joined
      simp_all⟩

/-- The selected rows are the active leases that have run out. -/
theorem Db.mem_expiredLeases {db : Db} {now : Nat} {row : ExpiredLease} :
    row ∈ db.expiredLeases now ↔
      row.lease ∈ db.leases ∧ row.lease.state = .active ∧ row.lease.expiresAt ≤ now ∧
        db.joinedLease? row.lease = some row := by
  unfold Db.expiredLeases
  simp only [List.mem_filterMap, List.mem_filter, Bool.and_eq_true, decide_eq_true_eq]
  constructor
  · rintro ⟨lease, ⟨member, active, expired⟩, joined⟩
    obtain rfl := (Db.joinedLease?_eq_some.mp joined).1
    exact ⟨member, active, expired, joined⟩
  · rintro ⟨member, active, expired, joined⟩
    exact ⟨row.lease, ⟨member, active, expired⟩, joined⟩

/-- The tables after one lease ran out, next to a journal. -/
def Db.expireLease (db : Db) (now : Nat) (row : ExpiredLease) (journal : Journal) : Db :=
  { db with
    leases := updateWhere (fun other => other.id = row.lease.id) LeaseRow.expire db.leases
    commands := updateWhere (fun other => other.id = row.lease.commandId)
      (fun other => other.afterLeaseExpiry now row.safeToRetry) db.commands
    attempts := updateWhere
      (fun other => other.commandId = row.lease.commandId && other.attempt = row.lease.attempt)
      (fun other => other.afterLeaseExpiry now) db.attempts
    journal := journal }

/-- A journal with the entries of one event. -/
def Journal.Appends [Host] (entropy : Entropy) (now : Nat) (input : EventInput)
    (before after : Journal) : Prop :=
  ∃ event outbox audit, EventEntry entropy now input before event outbox audit ∧
    after = before.withEvent event outbox audit

theorem expireOne_ok [Host] {env : Env} {index : Nat} {row : ExpiredLease} {db db' : Db}
    {answer : Unit} :
    (expireOne env index row).eval db = .ok (answer, db') ↔
      ∃ journal, Journal.Appends (env.expiries index) env.now row.event db.journal journal ∧
        db' = db.expireLease env.now row journal := by
  simp only [expireOne, Tx.eval_write_bind, Tx.eval_bind_ok, appendEvent_ok, Tx.eval_pure,
    Except.ok.injEq, Prod.mk.injEq]
  constructor
  · rintro ⟨event, _, ⟨outbox, audit, entry, rfl⟩, -, rfl⟩
    exact ⟨_, ⟨event, outbox, audit, entry, rfl⟩, rfl⟩
  · rintro ⟨_, ⟨event, outbox, audit, entry, rfl⟩, rfl⟩
    exact ⟨event, _, ⟨outbox, audit, entry, rfl⟩, trivial, rfl⟩

theorem expireLeases_ok [Host] {env : Env} {db db' : Db} {answer : Unit} :
    (expireLeases env).eval db = .ok (answer, db') ↔
      ∃ results,
        (Tx.forEach 0 (db.expiredLeases env.now) (expireOne env)).eval db =
          .ok (results, db') := by
  simp only [expireLeases, Tx.eval_read_bind, Tx.eval_bind_ok, Tx.eval_pure, Except.ok.injEq,
    Prod.mk.injEq]
  constructor
  · rintro ⟨results, _, ran, -, rfl⟩
    exact ⟨results, ran⟩
  · rintro ⟨results, ran⟩
    exact ⟨results, _, ran, trivial, rfl⟩

/-! ### Leasing -/

/-- The constraints that a new lease meets. -/
structure LeaseEntry (db : Db) (row : LeaseRow) : Prop where
  attempt_pos : 0 < row.attempt
  lasts : row.issuedAt < row.expiresAt
  id_new : ∀ other ∈ db.leases, other.id ≠ row.id
  token_new : ∀ other ∈ db.leases, other.tokenHash ≠ row.tokenHash
  attempt_new : ∀ other ∈ db.leases, other.commandId = row.commandId →
    other.attempt ≠ row.attempt
  one_active : ∀ other ∈ db.leases, other.commandId = row.commandId → other.state ≠ .active

theorem insertLease_ok {row : LeaseRow} {db db' : Db} {answer : Unit} :
    (insertLease row).eval db = .ok (answer, db') ↔
      LeaseEntry db row ∧ db' = { db with leases := db.leases ++ [row] } := by
  simp only [insertLease, Tx.eval_insert_ok, List.forall_mem_cons, List.not_mem_nil,
    Bool.not_eq_true', found_eq_false, decide_eq_false_iff_not, Bool.and_eq_false_imp,
    decide_eq_true_eq, false_implies, implies_true, and_true]
  constructor
  · rintro ⟨⟨positive, lasts, idNew, tokenNew, attemptNew, oneActive⟩, rfl⟩
    exact ⟨⟨positive, lasts, idNew, tokenNew, attemptNew, oneActive⟩, rfl⟩
  · rintro ⟨entry, rfl⟩
    exact ⟨⟨entry.attempt_pos, entry.lasts, entry.id_new, entry.token_new, entry.attempt_new,
      entry.one_active⟩, rfl⟩

/-- The constraints that a new attempt meets. -/
structure AttemptEntry (db : Db) (row : AttemptRow) : Prop where
  attempt_pos : 0 < row.attempt
  id_new : ∀ other ∈ db.attempts, other.id ≠ row.id
  attempt_new : ∀ other ∈ db.attempts, other.commandId = row.commandId →
    other.attempt ≠ row.attempt

theorem insertAttempt_ok {row : AttemptRow} {db db' : Db} {answer : Unit} :
    (insertAttempt row).eval db = .ok (answer, db') ↔
      AttemptEntry db row ∧ db' = { db with attempts := db.attempts ++ [row] } := by
  simp only [insertAttempt, Tx.eval_insert_ok, List.forall_mem_cons, List.not_mem_nil,
    Bool.not_eq_true', found_eq_false, decide_eq_false_iff_not, Bool.and_eq_false_imp,
    decide_eq_true_eq, false_implies, implies_true, and_true]
  constructor
  · rintro ⟨⟨positive, idNew, attemptNew⟩, rfl⟩
    exact ⟨⟨positive, idNew, attemptNew⟩, rfl⟩
  · rintro ⟨entry, rfl⟩
    exact ⟨⟨entry.attempt_pos, entry.id_new, entry.attempt_new⟩, rfl⟩

/-- The number of the next attempt of a command. -/
def Db.nextAttempt (db : Db) (commandId : String) : Nat :=
  maxOf ((db.attemptsOf commandId).map AttemptRow.attempt) + 1

/-- The lease that an iteration of `leaseCommands` grants. -/
def LeaseInput.granted (input : LeaseInput) (env : Env) (index : Nat)
    (command : CommandRow) (db : Db) : LeaseRow :=
  input.leaseRow (env.grants index) env.now command (db.nextAttempt command.id)

/-- The tables after a lease of a command was granted, next to a journal. -/
def Db.grantLease (db : Db) (lease : LeaseRow) (attempt : AttemptRow) (journal : Journal) : Db :=
  { db with
    leases := db.leases ++ [lease]
    attempts := db.attempts ++ [attempt]
    commands := updateWhere (fun other => other.id = lease.commandId)
      (fun other => other.lease lease.serverId lease.expiresAt) db.commands
    journal := journal }

/-- What `leaseCommands` hands out for a granted lease. -/
def LeasableCommand.handOut (row : LeasableCommand) (lease : LeaseRow) (token : Uuid) :
    LeasedCommand :=
  { command := row.command
    organizationId := row.deployment.deployment.organizationId
    ownerUserId := row.deployment.ownerUserId
    agentId := row.deployment.deployment.agentId
    serverId := row.deployment.deployment.serverId
    attempt := lease.attempt
    leaseId := lease.id
    leaseToken := "ref:lease-token:" ++ token.text
    leaseExpiresAt := lease.expiresAt }

/-- One iteration of `leaseCommands` granted this lease. -/
structure GrantsLease [Host] (env : Env) (input : LeaseInput) (index : Nat)
    (row : LeasableCommand) (lease : LeaseRow) (db db' : Db) : Prop where
  lease_eq : lease = input.granted env index row.command db
  leaseEntry : LeaseEntry db lease
  attemptEntry : AttemptEntry db
    (leasedAttempt (env.grants index).attempt row.command.id lease.attempt)
  journal : Journal.Appends (env.grants index) env.now (row.event lease) db.journal db'.journal
  after : db' = db.grantLease lease
    (leasedAttempt (env.grants index).attempt row.command.id lease.attempt) db'.journal

theorem leaseOne_ok [Host] {env : Env} {input : LeaseInput} {index : Nat}
    {row : LeasableCommand} {db db' : Db} {result : LeasedCommand} :
    (leaseOne env input index row).eval db = .ok (result, db') ↔
      ∃ lease, GrantsLease env input index row lease db db' ∧
        result = row.handOut lease (env.grants index).token := by
  simp only [leaseOne, Tx.eval_read_bind, Tx.eval_write_bind, Tx.eval_bind_ok, insertLease_ok,
    insertAttempt_ok, appendEvent_ok, Tx.eval_pure, Except.ok.injEq, Prod.mk.injEq,
    and_assoc, exists_and_left, exists_eq_left, exists_const]
  constructor
  · rintro ⟨leaseEntry, attemptEntry, event, _, ⟨outbox, audit, entry, rfl⟩, rfl, rfl⟩
    exact ⟨_, ⟨rfl, leaseEntry,
      ⟨attemptEntry.attempt_pos, attemptEntry.id_new, attemptEntry.attempt_new⟩,
      ⟨event, outbox, audit, entry, rfl⟩, rfl⟩, rfl⟩
  · rintro ⟨_, ⟨rfl, leaseEntry, attemptEntry, ⟨event, outbox, audit, entry, journal⟩, after⟩,
      rfl⟩
    rw [journal] at after
    exact ⟨leaseEntry,
      ⟨attemptEntry.attempt_pos, attemptEntry.id_new, attemptEntry.attempt_new⟩,
      event, _, ⟨outbox, audit, entry, rfl⟩, rfl, after.symm⟩

theorem leaseCommands_ok [Host] {env : Env} {input : LeaseInput} {db db' : Db}
    {result : List LeasedCommand} :
    (leaseCommands env input).eval db = .ok (result, db') ↔
      ∃ middle, (expireLeases env).eval db = .ok ((), middle) ∧
        (Tx.forEach 0 (middle.leasableCommands env.now input) (leaseOne env input)).eval middle =
          .ok (result, db') := by
  simp only [leaseCommands, Tx.eval_bind_ok, Tx.eval_read_bind]
  constructor
  · rintro ⟨⟨⟩, middle, expired, ran⟩
    exact ⟨middle, expired, ran⟩
  · rintro ⟨middle, expired, ran⟩
    exact ⟨(), middle, expired, ran⟩

end BairuiPlatform
