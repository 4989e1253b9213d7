/-
Module: BairuiPlatform.Authority.Changes
Purpose: The elementary changes that the mutators of ControlAuthorityRepository are
  made of, and the keys of the tables that every change keeps.
Trusted boundary: none
Main exports: Db.Sound, OutboxChange, ExpiresLease, LeasesCommand, Change, ControlChange,
  Change.control, Db.Sound.change
-/
import BairuiPlatform.Authority.ReceiptEffects
import BairuiPlatform.Authority.Outbox

namespace BairuiPlatform

open Foundations

/-! ### The keys of the tables -/

/-- The primary keys and partial unique indexes of the tables that the mutators join. -/
structure Db.Sound (db : Db) : Prop where
  agents : Keyed AgentRow.id db.agents
  deployments : Keyed DeploymentRow.id db.deployments
  desiredStates : Keyed DesiredStateRow.id db.desiredStates
  observations : Keyed ObservationRow.id db.observations
  releaseManifests : Keyed ReleaseManifestRow.id db.releaseManifests
  secretReferences : Keyed SecretReferenceRow.id db.secretReferences
  commands : Keyed CommandRow.id db.commands
  approvals : Keyed ApprovalRow.id db.approvals
  leases : Keyed LeaseRow.id db.leases
  one_active : ∀ first ∈ db.leases, ∀ second ∈ db.leases, first.state = .active →
    second.state = .active → first.commandId = second.commandId → first = second
  attempts : Keyed (fun row => (row.commandId, row.attempt)) db.attempts
  receipts : Keyed ReceiptRow.id db.receipts
  verifications : Keyed VerificationRow.id db.verifications
  verified_once : Keyed (fun row => (row.commandId, row.attempt)) db.verifications
  outbox : Keyed OutboxRow.id db.journal.outbox

/-! ### Changes of the outbox -/

/-- The entry is being processed under a lease that `settleOutbox` accepts. -/
structure OutboxRow.Settles (row : OutboxRow) (now : Nat) : Prop where
  processing : row.state = .processing
  live : ∀ column ∈ row.leaseExpiresAt, dateNow now < dateParseColumn column

/-- The elementary changes of the outbox and its dead letters. -/
inductive OutboxChange (now : Nat) : Journal → Journal → Prop where
  | reclaim {journal : Journal} :
      OutboxChange now journal
        { journal with
          outbox := updateWhere (fun row => row.lapsed now) (fun row => row.released now)
            journal.outbox }
  | hold {journal : Journal} {row : OutboxRow} {tokenHash : String} {leaseExpiresAt : Nat}
      (member : row ∈ journal.outbox) (ready : row.ready now = true)
      (later : now < leaseExpiresAt) :
      OutboxChange now journal
        { journal with
          outbox := updateWhere (fun other => other.id = row.id)
            (fun other => other.held tokenHash leaseExpiresAt) journal.outbox }
  | publish {journal : Journal} {row : OutboxRow}
      (member : row ∈ journal.outbox) (settles : row.Settles now) :
      OutboxChange now journal
        { journal with
          outbox := updateWhere (fun other => other.id = row.id)
            (fun other => other.publish now) journal.outbox }
  | abandon {journal : Journal} {row : OutboxRow} {deadLetter : DeadLetterRow} {code : String}
      (member : row ∈ journal.outbox) (settles : row.Settles now)
      (exhausted : row.maxAttempts ≤ row.attempts) (letter : deadLetter.outboxId = row.id) :
      OutboxChange now journal
        { journal with
          deadLetters := journal.deadLetters ++ [deadLetter]
          outbox := updateWhere (fun other => other.id = row.id)
            (fun other => other.abandon code) journal.outbox }
  | postpone {journal : Journal} {row : OutboxRow} {availableAt : Nat} {code : String}
      (member : row ∈ journal.outbox) (settles : row.Settles now)
      (left : row.attempts < row.maxAttempts) :
      OutboxChange now journal
        { journal with
          outbox := updateWhere (fun other => other.id = row.id)
            (fun other => other.postpone availableAt code) journal.outbox }

/-- What an entry is about: an event, and an aggregate. -/
def OutboxRow.subject (row : OutboxRow) : Option String × String × String :=
  (row.eventId, row.aggregateType, row.aggregateId)

namespace OutboxChange

variable {now : Nat} {before after : Journal}

theorem outbox_ids (change : OutboxChange now before after) :
    after.outbox.map OutboxRow.id = before.outbox.map OutboxRow.id := by
  cases change <;> exact map_updateWhere fun _ => rfl

/-- What an entry is about does not change. -/
theorem outbox_subjects (change : OutboxChange now before after) :
    after.outbox.map OutboxRow.subject = before.outbox.map OutboxRow.subject := by
  cases change <;> exact map_updateWhere fun _ => rfl

/-- The outbox changes nothing else in the journal. -/
theorem frame (change : OutboxChange now before after) :
    after.events = before.events ∧ after.audits = before.audits ∧
      after.idempotency = before.idempotency := by
  cases change <;> exact ⟨rfl, rfl, rfl⟩

end OutboxChange

/-- `UPDATE control_outbox` of one entry. -/
theorem updateOutbox_ok {id : String} {change : OutboxRow → OutboxRow} {db db' : Db}
    {result : Option OutboxRow} :
    (updateOutbox id change).eval db = .ok (result, db') ↔
      db' = { db with
              journal := { db.journal with
                outbox := updateWhere (fun row => row.id = id) change db.journal.outbox } } ∧
        result = db'.journal.outbox.find? fun row => row.id = id := by
  simp only [updateOutbox, Tx.eval_write_bind, Tx.eval_read, Except.ok.injEq, Prod.mk.injEq]
  constructor
  · rintro ⟨rfl, rfl⟩
    exact ⟨rfl, rfl⟩
  · rintro ⟨rfl, rfl⟩
    exact ⟨rfl, rfl⟩

/-- A settlement is one change of the outbox. -/
theorem settleOutbox_ok [Host] {env : Env} {input : OutboxSettlement} {db db' : Db}
    {result : Option OutboxRow} (ran : (settleOutbox env input).eval db = .ok (result, db')) :
    OutboxChange env.now db.journal db'.journal ∧ db' = { db with journal := db'.journal } := by
  simp only [settleOutbox, Tx.eval_read_bind, Tx.eval_bind_ok, Tx.eval_orRaise_ok, ensure_ok,
    Option.filter_eq_some_iff, Bool.and_eq_true, decide_eq_true_eq, and_assoc, exists_and_left,
    exists_eq_left, exists_const] at ran
  obtain ⟨current, foundCurrent, processing, -, live, ran⟩ := ran
  have settles : current.Settles env.now := ⟨processing, live⟩
  have member := List.mem_of_find?_eq_some foundCurrent
  have same : current.id = input.id := by simpa using List.find?_some foundCurrent
  rw [← same] at ran
  split at ran
  · obtain ⟨rfl, -⟩ := updateOutbox_ok.mp ran
    exact ⟨.publish member settles, rfl⟩
  · split at ran
    · rename_i exhausted
      simp only [insertDeadLetter, Tx.eval_bind_ok, Tx.eval_insert_ok, updateOutbox_ok] at ran
      obtain ⟨-, _, ⟨-, rfl⟩, rfl, -⟩ := ran
      exact ⟨.abandon member settles exhausted rfl, rfl⟩
    · rename_i left
      obtain ⟨rfl, -⟩ := updateOutbox_ok.mp ran
      exact ⟨.postpone member settles (Nat.lt_of_not_le left), rfl⟩

/-- A lease of an outbox entry lies in the future. -/
theorem OutboxLeaseInput.lasts (input : OutboxLeaseInput) (now : Nat) :
    now < ofMillis (dateNow now + input.boundedSeconds * 1000) := by
  have atLeast : 15 ≤ input.boundedSeconds := Nat.le_max_left _ _
  unfold ofMillis dateNow
  omega

/-! ### Changes of leases -/

/-- `expireLeases` expired this lease. -/
structure ExpiresLease [Host] (env : Env) (index : Nat) (row : ExpiredLease) (db db' : Db) :
    Prop where
  selected : row ∈ db.expiredLeases env.now
  journal : Journal.Appends (env.expiries index) env.now row.event db.journal db'.journal
  after : db' = db.expireLease env.now row db'.journal

/-- The clauses of `leaseCommands` on a command. -/
structure Db.Due (db : Db) (now : Nat) (command : CommandRow) : Prop where
  action : command.action ≠ .configApplyUser
  queued : command.state = .queued
  started : command.notBefore ≤ now
  alive : now < command.expiresAt
  approved : db.approvalClause now command = true

theorem Db.isDue_eq_true {db : Db} {now : Nat} {command : CommandRow} :
    db.isDue now command = true ↔ db.Due now command := by
  simp only [Db.isDue, Bool.and_eq_true, decide_eq_true_eq]
  constructor
  · rintro ⟨⟨⟨⟨action, queued⟩, started⟩, alive⟩, approved⟩
    exact ⟨action, queued, started, alive, approved⟩
  · rintro ⟨action, queued, started, alive, approved⟩
    exact ⟨⟨⟨⟨action, queued⟩, started⟩, alive⟩, approved⟩

theorem Db.mem_dueCommands {db : Db} {now : Nat} {input : LeaseInput} {row : LeasableCommand} :
    row ∈ db.dueCommands now input ↔
      row.command ∈ db.commands ∧
        db.ownedDeployment? row.command.deploymentId = some row.deployment ∧
        input.covers row.deployment = true ∧ db.Due now row.command := by
  unfold Db.dueCommands
  simp only [List.mem_filterMap, Option.map_eq_some_iff, Option.filter_eq_some_iff,
    Bool.and_eq_true, Db.isDue_eq_true]
  constructor
  · rintro ⟨command, member, deployment, ⟨joined, covers, due⟩, rfl⟩
    exact ⟨member, joined, covers, due⟩
  · rintro ⟨member, joined, covers, due⟩
    exact ⟨_, member, _, ⟨joined, covers, due⟩, rfl⟩

/-- `leaseCommands` granted a lease of a command that was due. -/
structure LeasesCommand [Host] (env : Env) (input : LeaseInput) (index : Nat)
    (row : LeasableCommand) (lease : LeaseRow) (db db' : Db) : Prop where
  due : row ∈ db.dueCommands env.now input
  grants : GrantsLease env input index row lease db db'

/-! ### All changes -/

/-- The elementary changes under one clock reading and one supply of random values. -/
inductive Change [Host] (env : Env) : Db → Db → Prop where
  | desiredState {input : DesiredStateInput} {deployment : DeploymentRow}
      {row : DesiredStateRow} {db db' : Db}
      (stores : StoresDesiredState env input deployment row db db') : Change env db db'
  | observation {input : ObservationInput} {deployment : DeploymentRow}
      {row : ObservationRow} {db db' : Db}
      (stores : StoresObservation env input deployment row db db') : Change env db db'
  | releaseManifest {input : ReleaseManifestInput} {row : ReleaseManifestRow} {db db' : Db}
      (stores : StoresReleaseManifest env input row db db') : Change env db db'
  | secretReference {input : SecretReferenceInput} {row : SecretReferenceRow} {db db' : Db}
      (stores : StoresSecretReference env input row db db') : Change env db db'
  | command {input : CommandInput} {deployment : DeploymentRow} {db db' : Db}
      (stores : StoresCommand env input deployment db db') : Change env db db'
  | decision {input : ApprovalDecisionInput} {current : JoinedApproval} {db db' : Db}
      (decides : DecidesApproval env input current db db') : Change env db db'
  | expiry {index : Nat} {row : ExpiredLease} {db db' : Db}
      (expires : ExpiresLease env index row db db') : Change env db db'
  | lease {input : LeaseInput} {index : Nat} {row : LeasableCommand} {lease : LeaseRow}
      {db db' : Db} (leases : LeasesCommand env input index row lease db db') :
      Change env db db'
  | receipt {input : ReceiptInput} {held : HeldLease} {eventType : String} {db db' : Db}
      (records : RecordsReceipt env input held eventType db db') : Change env db db'
  | verification {input : VerificationInput} {current : OpenVerification}
      {observation : ObservationRow} {db db' : Db}
      (verifies : VerifiesCommand env input current observation db db') : Change env db db'
  | outbox {db db' : Db} (change : OutboxChange env.now db.journal db'.journal)
      (after : db' = { db with journal := db'.journal }) : Change env db db'

/-- The tables that hold the life of a command are the same. -/
structure Db.SameControl (db db' : Db) : Prop where
  commands : db'.commands = db.commands
  leases : db'.leases = db.leases
  attempts : db'.attempts = db.attempts
  receipts : db'.receipts = db.receipts
  verifications : db'.verifications = db.verifications

/-- The changes as the life of a command sees them. -/
inductive ControlChange [Host] (env : Env) (db db' : Db) : Prop where
  | frame (same : db.SameControl db')
  | command {input : CommandInput} {deployment : DeploymentRow}
      (stores : StoresCommand env input deployment db db')
  | decision {input : ApprovalDecisionInput} {current : JoinedApproval}
      (decides : DecidesApproval env input current db db')
  | expiry {index : Nat} {row : ExpiredLease} (expires : ExpiresLease env index row db db')
  | lease {input : LeaseInput} {index : Nat} {row : LeasableCommand} {lease : LeaseRow}
      (leases : LeasesCommand env input index row lease db db')
  | receipt {input : ReceiptInput} {held : HeldLease} {eventType : String}
      (records : RecordsReceipt env input held eventType db db')
  | verification {input : VerificationInput} {current : OpenVerification}
      {observation : ObservationRow}
      (verifies : VerifiesCommand env input current observation db db')

/-- A change that does not concern a command leaves the life of every command alone. -/
theorem Change.control [Host] {env : Env} {db db' : Db} (changed : Change env db db') :
    ControlChange env db db' := by
  cases changed with
  | desiredState stores => exact .frame (by rw [stores.after]; constructor <;> rfl)
  | observation stores => exact .frame (by rw [stores.after]; constructor <;> rfl)
  | releaseManifest stores => exact .frame (by rw [stores.after]; constructor <;> rfl)
  | secretReference stores => exact .frame (by rw [stores.after]; constructor <;> rfl)
  | command stores => exact .command stores
  | decision decides => exact .decision decides
  | expiry expires => exact .expiry expires
  | lease leases => exact .lease leases
  | receipt records => exact .receipt records
  | verification verifies => exact .verification verifies
  | outbox change after => exact .frame (by rw [after]; constructor <;> rfl)

/-! ### Every change keeps the keys -/

section Outbox

variable [Host] {entropy : Entropy} {now : Nat} {before after : Journal}

theorem Journal.Appends.outbox_keyed {input : EventInput}
    (appends : Journal.Appends entropy now input before after)
    (keyed : Keyed OutboxRow.id before.outbox) : Keyed OutboxRow.id after.outbox := by
  obtain ⟨event, outbox, audit, entry, rfl⟩ := appends
  exact keyed.snoc entry.outboxEntry.id_new

theorem Journal.Records.outbox_keyed {input : EventInput}
    {record : EventRow → IdempotencyInput}
    (records : Journal.Records entropy now input record before after)
    (keyed : Keyed OutboxRow.id before.outbox) : Keyed OutboxRow.id after.outbox := by
  obtain ⟨event, outbox, audit, entry, -, rfl⟩ := records
  exact keyed.snoc entry.outboxEntry.id_new

theorem Journal.RecordsChange.outbox_keyed {input : GlobalChangeInput}
    {record : IdempotencyInput}
    (records : Journal.RecordsChange entropy now input record before after)
    (keyed : Keyed OutboxRow.id before.outbox) : Keyed OutboxRow.id after.outbox := by
  obtain ⟨outbox, audit, entry, -, rfl⟩ := records
  exact keyed.snoc entry.outboxEntry.id_new

end Outbox

/-- An update that leaves no changed row active keeps the one active lease of each
command. -/
theorem one_active_update {rows : List LeaseRow} {selected : LeaseRow → Bool}
    {change : LeaseRow → LeaseRow} (inactive : ∀ row, (change row).state ≠ .active)
    (one : ∀ first ∈ rows, ∀ second ∈ rows, first.state = .active →
      second.state = .active → first.commandId = second.commandId → first = second) :
    ∀ first ∈ updateWhere selected change rows, ∀ second ∈ updateWhere selected change rows,
      first.state = .active → second.state = .active → first.commandId = second.commandId →
      first = second := by
  intro first firstMem second secondMem firstActive secondActive same
  rcases mem_updateWhere.mp firstMem with ⟨old, -, -, rfl⟩ | ⟨firstOld, -⟩
  · exact absurd firstActive (inactive old)
  · rcases mem_updateWhere.mp secondMem with ⟨old, -, -, rfl⟩ | ⟨secondOld, -⟩
    · exact absurd secondActive (inactive old)
    · exact one first firstOld second secondOld firstActive secondActive same

namespace Db.Sound

variable [Host] {env : Env} {db db' : Db}

theorem storesDesiredState {input : DesiredStateInput} {deployment : DeploymentRow}
    {row : DesiredStateRow} (sound : db.Sound)
    (stores : StoresDesiredState env input deployment row db db') : db'.Sound := by
  have outbox := stores.journal.outbox_keyed sound.outbox
  rw [stores.after]
  exact
    { sound with
      deployments := by
        show Keyed DeploymentRow.id (input.deployments env.now db.deployments)
        unfold DesiredStateInput.deployments
        split
        · exact sound.deployments.update fun _ => rfl
        · exact sound.deployments
      desiredStates := by
        show Keyed DesiredStateRow.id (prepareDesiredStateRevision row db.desiredStates ++ [row])
        refine Keyed.snoc ?_ ((forall_mem_prepareDesiredStateRevision fun _ => Iff.rfl).mpr
          stores.entry.id_new)
        unfold prepareDesiredStateRevision
        split
        · exact sound.desiredStates.update fun _ => rfl
        · exact sound.desiredStates
      outbox := outbox }

theorem storesObservation {input : ObservationInput} {deployment : DeploymentRow}
    {row : ObservationRow} (sound : db.Sound)
    (stores : StoresObservation env input deployment row db db') : db'.Sound := by
  have outbox := stores.journal.outbox_keyed sound.outbox
  rw [stores.after]
  exact
    { sound with
      deployments := sound.deployments.update fun _ => rfl
      observations := sound.observations.snoc stores.entry.id_new
      outbox := outbox }

theorem storesReleaseManifest {input : ReleaseManifestInput} {row : ReleaseManifestRow}
    (sound : db.Sound) (stores : StoresReleaseManifest env input row db db') : db'.Sound := by
  have outbox := stores.journal.outbox_keyed sound.outbox
  rw [stores.after]
  exact
    { sound with
      releaseManifests := sound.releaseManifests.snoc stores.id_new
      outbox := outbox }

theorem storesSecretReference {input : SecretReferenceInput} {row : SecretReferenceRow}
    (sound : db.Sound) (stores : StoresSecretReference env input row db db') : db'.Sound := by
  have outbox := stores.journal.outbox_keyed sound.outbox
  rw [stores.after]
  exact
    { sound with
      secretReferences := sound.secretReferences.snoc stores.id_new
      outbox := outbox }

theorem approvals_append (sound : db.Sound) {candidate : Option ApprovalRow}
    (entry : ∀ row ∈ candidate, ApprovalEntry db row) :
    Keyed ApprovalRow.id (db.approvals ++ candidate.toList) := by
  cases candidate with
  | none => simpa using sound.approvals
  | some row => exact sound.approvals.snoc (entry row rfl).id_new

theorem storesCommand {input : CommandInput} {deployment : DeploymentRow} (sound : db.Sound)
    (stores : StoresCommand env input deployment db db') : db'.Sound := by
  have outbox := stores.journal.outbox_keyed sound.outbox
  rw [stores.after]
  exact
    { sound with
      commands := sound.commands.snoc stores.entry.id_new
      approvals := sound.approvals_append stores.approvalEntry
      outbox := outbox }

theorem decidesApproval {input : ApprovalDecisionInput} {current : JoinedApproval}
    (sound : db.Sound) (decides : DecidesApproval env input current db db') : db'.Sound := by
  have outbox := decides.journal.outbox_keyed sound.outbox
  rw [decides.after]
  exact
    { sound with
      approvals := sound.approvals.update fun _ => rfl
      commands := by
        show Keyed CommandRow.id (input.commands current.command.id db.commands)
        unfold ApprovalDecisionInput.commands
        split
        · exact sound.commands.update fun _ => rfl
        · exact sound.commands
      outbox := outbox }

theorem expiresLease {index : Nat} {row : ExpiredLease} (sound : db.Sound)
    (expires : ExpiresLease env index row db db') : db'.Sound := by
  have outbox := expires.journal.outbox_keyed sound.outbox
  rw [expires.after]
  exact
    { sound with
      leases := sound.leases.update fun _ => rfl
      one_active := one_active_update (fun _ => by simp [LeaseRow.expire]) sound.one_active
      commands := sound.commands.update fun command => by
        unfold CommandRow.afterLeaseExpiry
        split <;> rfl
      attempts := sound.attempts.update fun _ => rfl
      outbox := outbox }

theorem leasesCommand {input : LeaseInput} {index : Nat} {row : LeasableCommand}
    {lease : LeaseRow} (sound : db.Sound)
    (leases : LeasesCommand env input index row lease db db') : db'.Sound := by
  have outbox := leases.grants.journal.outbox_keyed sound.outbox
  have entry := leases.grants.leaseEntry
  have command : row.command.id = lease.commandId := by rw [leases.grants.lease_eq]; rfl
  rw [leases.grants.after]
  refine
    { sound with
      leases := sound.leases.snoc entry.id_new
      one_active := ?_
      commands := sound.commands.update fun _ => rfl
      attempts := sound.attempts.snoc ?_
      outbox := outbox }
  · intro first firstMem second secondMem firstActive secondActive same
    rcases List.mem_append.mp firstMem with firstOld | firstNew <;>
      rcases List.mem_append.mp secondMem with secondOld | secondNew
    · exact sound.one_active first firstOld second secondOld firstActive secondActive same
    · obtain rfl := List.mem_singleton.mp secondNew
      exact absurd firstActive (entry.one_active first firstOld same)
    · obtain rfl := List.mem_singleton.mp firstNew
      exact absurd secondActive (entry.one_active second secondOld same.symm)
    · rw [List.mem_singleton.mp firstNew, List.mem_singleton.mp secondNew]
  · intro other member same
    rw [Prod.mk.injEq] at same
    exact leases.grants.attemptEntry.attempt_new other member same.1 same.2

theorem recordsReceipt {input : ReceiptInput} {held : HeldLease} {eventType : String}
    (sound : db.Sound) (records : RecordsReceipt env input held eventType db db') :
    db'.Sound := by
  have outbox := records.journal.outbox_keyed sound.outbox
  rw [records.after]
  refine
    { sound with
      receipts := sound.receipts.snoc records.receiptEntry.id_new
      leases := ?_
      one_active := ?_
      commands := sound.commands.update fun _ => rfl
      attempts := sound.attempts.update fun _ => rfl
      verifications := ?_
      verified_once := ?_
      outbox := outbox }
  · show Keyed LeaseRow.id (input.leases env.now db.leases)
    unfold ReceiptInput.leases
    split
    · exact sound.leases.update fun _ => rfl
    · exact sound.leases
  · show ∀ first ∈ input.leases env.now db.leases, ∀ second ∈ input.leases env.now db.leases, _
    unfold ReceiptInput.leases
    split
    · exact one_active_update (fun _ => by simp [LeaseRow.consume]) sound.one_active
    · exact sound.one_active
  · show Keyed VerificationRow.id (input.verifications held.command db.verifications)
    unfold ReceiptInput.verifications
    split
    · rename_i candidate
      exact sound.verifications.snoc (records.verificationEntry candidate).id_new
    · exact sound.verifications
  · show Keyed (fun row => (row.commandId, row.attempt))
      (input.verifications held.command db.verifications)
    unfold ReceiptInput.verifications
    split
    · rename_i candidate
      refine sound.verified_once.snoc fun other member same => ?_
      rw [Prod.mk.injEq] at same
      exact (records.verificationEntry candidate).attempt_new other member same.1 same.2
    · exact sound.verified_once

theorem verifiesCommand {input : VerificationInput} {current : OpenVerification}
    {observation : ObservationRow} (sound : db.Sound)
    (verifies : VerifiesCommand env input current observation db db') : db'.Sound := by
  have outbox := verifies.journal.outbox_keyed sound.outbox
  rw [verifies.after]
  exact
    { sound with
      commands := sound.commands.update fun _ => rfl
      verifications := sound.verifications.update fun _ => rfl
      verified_once := sound.verified_once.update fun _ => rfl
      outbox := outbox }

/-- Every change keeps the keys of the tables. -/
theorem change (sound : db.Sound) (changed : Change env db db') : db'.Sound := by
  cases changed with
  | desiredState stores => exact sound.storesDesiredState stores
  | observation stores => exact sound.storesObservation stores
  | releaseManifest stores => exact sound.storesReleaseManifest stores
  | secretReference stores => exact sound.storesSecretReference stores
  | command stores => exact sound.storesCommand stores
  | decision decides => exact sound.decidesApproval decides
  | expiry expires => exact sound.expiresLease expires
  | lease leases => exact sound.leasesCommand leases
  | receipt records => exact sound.recordsReceipt records
  | verification verifies => exact sound.verifiesCommand verifies
  | outbox change after =>
      have outbox : Keyed OutboxRow.id db'.journal.outbox := by
        unfold Keyed
        rw [change.outbox_ids]
        exact sound.outbox
      rw [after]
      exact { sound with outbox := outbox }

end Db.Sound

end BairuiPlatform