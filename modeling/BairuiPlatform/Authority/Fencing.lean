/-
Module: BairuiPlatform.Authority.Fencing
Purpose: One active lease fences each command that a server holds: the joint invariant
  of commands, leases and attempts, and the receipts that pass it.
Trusted boundary: none
Main exports: CommandState.isHeld, LeaseRow.Holds, Db.Fenced, Db.Fenced.change,
  authority_fenced
-/
import BairuiPlatform.Authority.Execution

namespace BairuiPlatform

open Foundations

/-! ### The invariant -/

/-- A server holds the command. -/
def CommandState.isHeld : CommandState → Bool
  | leased | accepted | running => true
  | _ => false

/-- A receipt is accepted only while the command is held. -/
theorem isHeld_of_transition {state : CommandState} {receipt : ReceiptState}
    (allowed : receipt ∈ receiptTransitions state) : state.isHeld = true := by
  cases state <;> first | rfl | simp [receiptTransitions] at allowed

/-- An accepted receipt keeps the command held exactly when it is not terminal. -/
theorem isHeld_authorityState {state : CommandState} {receipt : ReceiptState}
    (allowed : receipt ∈ receiptTransitions state) :
    receipt.authorityState.isHeld = !receipt.terminal := by
  cases receipt with
  | succeeded => cases state <;> simp [receiptTransitions] at allowed
  | _ => rfl

/-- The leases of a command. -/
def Db.leasesOf (db : Db) (commandId : String) : List LeaseRow :=
  db.leases.filter fun row => row.commandId = commandId

/-- The command is held under this lease. -/
structure LeaseRow.Holds (lease : LeaseRow) (command : CommandRow) : Prop where
  command_id : command.id = lease.commandId
  deployment : command.deploymentId = lease.deploymentId
  server : command.leaseServerId = some lease.serverId
  deadline : command.leaseExpiresAt = some lease.expiresAt
  bounded : lease.expiresAt ≤ command.expiresAt
  held : command.state.isHeld = true

/-- Active leases and held commands belong together, and the leases of a command are
numbered as its attempts are: 1, 2, 3, … -/
structure Db.Fenced (db : Db) : Prop where
  holds : ∀ lease ∈ db.leases, lease.state = .active → ∃ command ∈ db.commands,
    lease.Holds command
  leased : ∀ command ∈ db.commands, command.state.isHeld = true → ∃ lease ∈ db.leases,
    lease.state = .active ∧ lease.commandId = command.id
  numbered : ∀ commandId, Numbered LeaseRow.attempt (db.leasesOf commandId)
  attempts : ∀ commandId, (db.attemptsOf commandId).map AttemptRow.attempt =
    (db.leasesOf commandId).map LeaseRow.attempt

/-! ### The invariant under each kind of write -/

/-- The columns that a lease is about are the same in two versions of a command. -/
structure CommandRow.SameHold (old new : CommandRow) : Prop where
  id : new.id = old.id
  deployment : new.deploymentId = old.deploymentId
  server : new.leaseServerId = old.leaseServerId
  deadline : new.leaseExpiresAt = old.leaseExpiresAt
  expiresAt : new.expiresAt = old.expiresAt
  held : new.state.isHeld = old.state.isHeld

theorem LeaseRow.Holds.of_same {lease : LeaseRow} {old new : CommandRow}
    (holds : lease.Holds old) (same : old.SameHold new) : lease.Holds new where
  command_id := same.id.trans holds.command_id
  deployment := same.deployment.trans holds.deployment
  server := same.server.trans holds.server
  deadline := same.deadline.trans holds.deadline
  bounded := by
    rw [same.expiresAt]
    exact holds.bounded
  held := same.held.trans holds.held

namespace Db.Fenced

variable {db : Db}

/-- Only commands, leases and attempts matter. -/
theorem of_tables {db' : Db} (fenced : db.Fenced) (commands : db'.commands = db.commands)
    (leases : db'.leases = db.leases) (attempts : db'.attempts = db.attempts) : db'.Fenced where
  holds := by
    rw [commands, leases]
    exact fenced.holds
  leased := by
    rw [commands, leases]
    exact fenced.leased
  numbered := by
    unfold Db.leasesOf
    rw [leases]
    exact fenced.numbered
  attempts := by
    unfold Db.leasesOf Db.attemptsOf
    rw [leases, attempts]
    exact fenced.attempts

/-- Commands that are rewritten in columns that no lease is about. -/
theorem rewrite {commands : List CommandRow} (fenced : db.Fenced)
    (versions : Versions CommandRow.SameHold db.commands commands) :
    Db.Fenced { db with commands := commands } where
  holds lease member active := by
    obtain ⟨old, oldMem, holds⟩ := fenced.holds lease member active
    obtain ⟨new, newMem, same⟩ := versions.later old oldMem
    exact ⟨new, newMem, holds.of_same same⟩
  leased new member held := by
    obtain ⟨old, oldMem, same⟩ := versions.earlier new member
    obtain ⟨lease, leaseMem, active, command⟩ :=
      fenced.leased old oldMem (same.held.symm.trans held)
    exact ⟨lease, leaseMem, active, command.trans same.id.symm⟩
  numbered := fenced.numbered
  attempts := fenced.attempts

/-- An update of commands in columns that no lease is about. -/
theorem update {selected : CommandRow → Bool} {change : CommandRow → CommandRow}
    (fenced : db.Fenced)
    (same : ∀ row ∈ db.commands, selected row = true → row.SameHold (change row)) :
    Db.Fenced { db with commands := updateWhere selected change db.commands } :=
  fenced.rewrite (.update (fun _ => ⟨rfl, rfl, rfl, rfl, rfl, rfl⟩) same)

/-- A new command that no server holds. -/
theorem create (row : CommandRow) (fenced : db.Fenced) (free : row.state.isHeld = false) :
    Db.Fenced { db with commands := db.commands ++ [row] } where
  holds lease member active := by
    obtain ⟨command, commandMem, holds⟩ := fenced.holds lease member active
    exact ⟨command, List.mem_append_left _ commandMem, holds⟩
  leased command member held := by
    rcases List.mem_append.mp member with old | new
    · exact fenced.leased command old held
    · rw [List.mem_singleton.mp new, free] at held
      cases held
  numbered := fenced.numbered
  attempts := fenced.attempts

/-- An update of attempts that keeps their numbers. -/
theorem updateAttempts (selected : AttemptRow → Bool) (change : AttemptRow → AttemptRow)
    (fenced : db.Fenced)
    (keeps : ∀ row, (change row).commandId = row.commandId ∧ (change row).attempt = row.attempt) :
    Db.Fenced { db with attempts := updateWhere selected change db.attempts } where
  holds := fenced.holds
  leased := fenced.leased
  numbered := fenced.numbered
  attempts commandId := by
    refine Eq.trans ?_ (fenced.attempts commandId)
    show ((updateWhere selected change db.attempts).filter _).map _ = _
    rw [filter_updateWhere fun row => by rw [(keeps row).1],
      map_updateWhere fun row => (keeps row).2]
    rfl

/-- The active lease of a command ends, and the server no longer holds the command. -/
theorem release {lease : LeaseRow} (ends : LeaseRow → Bool) (finish : LeaseRow → LeaseRow)
    (change : CommandRow → CommandRow) (fenced : db.Fenced) (sound : db.Sound)
    (member : lease ∈ db.leases) (active : lease.state = .active)
    (selected : ∀ row ∈ db.leases, row.state = .active → (ends row = true ↔ row.id = lease.id))
    (keeps : ∀ row, (finish row).commandId = row.commandId ∧ (finish row).attempt = row.attempt)
    (inactive : ∀ row, (finish row).state ≠ .active)
    (free : ∀ row ∈ db.commands, row.id = lease.commandId → (change row).state.isHeld = false) :
    Db.Fenced
      { db with
        leases := updateWhere ends finish db.leases
        commands := updateWhere (fun row => row.id = lease.commandId) change db.commands } where
  holds other otherMem otherActive := by
    rcases mem_updateWhere.mp otherMem with ⟨old, -, -, rfl⟩ | ⟨old, kept⟩
    · exact absurd otherActive (inactive old)
    · obtain ⟨command, commandMem, holds⟩ := fenced.holds other old otherActive
      refine ⟨command, mem_updateWhere.mpr (.inr ⟨commandMem, ?_⟩), holds⟩
      apply decide_eq_false
      intro same
      have one := sound.one_active other old lease member otherActive active
        (holds.command_id.symm.trans same)
      have chosen := (selected other old otherActive).mpr (congrArg LeaseRow.id one)
      rw [kept] at chosen
      cases chosen
  leased command commandMem held := by
    rcases mem_updateWhere.mp commandMem with ⟨old, oldMem, chosen, rfl⟩ | ⟨old, skipped⟩
    · rw [free old oldMem (of_decide_eq_true chosen)] at held
      cases held
    · obtain ⟨other, otherMem, otherActive, same⟩ := fenced.leased command old held
      refine ⟨other, mem_updateWhere.mpr (.inr ⟨otherMem, ?_⟩), otherActive, same⟩
      apply Bool.eq_false_iff.mpr
      intro chosen
      have sameLease := sound.leases.eq_of_key_eq otherMem member
        ((selected other otherMem otherActive).mp chosen)
      apply of_decide_eq_false skipped
      rw [← same, sameLease]
  numbered commandId := by
    show Numbered LeaseRow.attempt ((updateWhere ends finish db.leases).filter _)
    rw [filter_updateWhere fun row => by rw [(keeps row).1]]
    exact (fenced.numbered commandId).update fun row => (keeps row).2
  attempts commandId := by
    refine (fenced.attempts commandId).trans ?_
    show _ = ((updateWhere ends finish db.leases).filter _).map _
    rw [filter_updateWhere fun row => by rw [(keeps row).1],
      map_updateWhere fun row => (keeps row).2]
    rfl

/-- A new lease of a command that no server holds. -/
theorem grant (lease : LeaseRow) (attempt : AttemptRow) {command : CommandRow}
    (fenced : db.Fenced) (sound : db.Sound) (member : command ∈ db.commands)
    (free : command.state.isHeld = false) (same : lease.commandId = command.id)
    (deployment : lease.deploymentId = command.deploymentId)
    (bounded : lease.expiresAt ≤ command.expiresAt) (state : lease.state = .active)
    (number : lease.attempt = db.nextAttempt command.id)
    (recorded : attempt.commandId = command.id ∧ attempt.attempt = lease.attempt) :
    Db.Fenced
      { db with
        leases := db.leases ++ [lease]
        attempts := db.attempts ++ [attempt]
        commands := updateWhere (fun row => row.id = lease.commandId)
          (fun row => row.lease lease.serverId lease.expiresAt) db.commands } where
  holds other otherMem active := by
    have grantedHolds : lease.Holds (command.lease lease.serverId lease.expiresAt) :=
      ⟨same.symm, deployment.symm, rfl, rfl, bounded, rfl⟩
    have grantedMem : command.lease lease.serverId lease.expiresAt ∈
        updateWhere (fun row => row.id = lease.commandId)
          (fun row : CommandRow => row.lease lease.serverId lease.expiresAt) db.commands :=
      mem_updateWhere.mpr (.inl ⟨command, member, decide_eq_true same.symm, rfl⟩)
    rcases List.mem_append.mp otherMem with old | new
    · obtain ⟨held, heldMem, holds⟩ := fenced.holds other old active
      refine ⟨held, mem_updateWhere.mpr (.inr ⟨heldMem, ?_⟩), holds⟩
      apply decide_eq_false
      intro sameCommand
      have one := sound.commands.eq_of_key_eq heldMem member (sameCommand.trans same)
      have isHeld := holds.held
      rw [one, free] at isHeld
      cases isHeld
    · rw [List.mem_singleton.mp new]
      exact ⟨_, grantedMem, grantedHolds⟩
  leased row rowMem held := by
    rcases mem_updateWhere.mp rowMem with ⟨old, -, chosen, rfl⟩ | ⟨old, -⟩
    · exact ⟨lease, List.mem_append_right _ (List.mem_singleton_self _), state,
        (of_decide_eq_true chosen).symm⟩
    · obtain ⟨other, otherMem, active, otherSame⟩ := fenced.leased row old held
      exact ⟨other, List.mem_append_left _ otherMem, active, otherSame⟩
  numbered commandId := by
    show Numbered LeaseRow.attempt ((db.leases ++ [lease]).filter _)
    rw [List.filter_append]
    by_cases own : lease.commandId = commandId
    · rw [List.filter_cons_of_pos (by simpa using own), List.filter_nil]
      apply (fenced.numbered commandId).snoc
      rw [number, Db.nextAttempt, ← same, own, fenced.attempts commandId]
    · rw [List.filter_cons_of_neg (by simpa using own), List.filter_nil, List.append_nil]
      exact fenced.numbered commandId
  attempts commandId := by
    show ((db.attempts ++ [attempt]).filter _).map _ = ((db.leases ++ [lease]).filter _).map _
    rw [List.filter_append, List.filter_append, List.map_append, List.map_append]
    refine congrArg₂ (· ++ ·) (fenced.attempts commandId) ?_
    by_cases own : command.id = commandId
    · simp [recorded, same, own]
    · simp [recorded, same, own]

/-! ### The invariant under every change -/

/-- The deadline of a granted lease does not lie past that of its command. -/
theorem leaseExpiry_le (now seconds : Nat) (command : CommandRow) :
    leaseExpiry now seconds command ≤ command.expiresAt := by
  calc leaseExpiry now seconds command
      ≤ ofMillis (dateParseColumn command.expiresAt) :=
        Nat.mul_le_mul_right 1000 (Nat.min_le_right _ _)
    _ ≤ command.expiresAt := dateParseColumn_le command.expiresAt

variable [Host] {env : Env} {db' : Db}

theorem storesCommand {input : CommandInput} {deployment : DeploymentRow} (fenced : db.Fenced)
    (stores : StoresCommand env input deployment db db') : db'.Fenced := by
  rw [stores.after]
  exact (create (input.row input.deploymentId) fenced rfl).of_tables rfl rfl rfl

theorem decidesApproval {input : ApprovalDecisionInput} {current : JoinedApproval}
    (fenced : db.Fenced) (decides : DecidesApproval env input current db db') : db'.Fenced := by
  rw [decides.after]
  by_cases rejected : input.decision = .rejected
  · have queued : ∀ row ∈ db.commands,
        (decide (row.id = current.command.id) && decide (row.state = .queued)) = true →
          row.SameHold (row.reject input.decidedAt) := by
      intro row _ chosen
      simp only [Bool.and_eq_true, decide_eq_true_eq] at chosen
      exact ⟨rfl, rfl, rfl, rfl, rfl, by rw [chosen.2]; rfl⟩
    exact (fenced.update queued).of_tables
      (by simp [ApprovalDecisionInput.commands, rejected]) rfl rfl
  · exact fenced.of_tables (by simp [ApprovalDecisionInput.commands, rejected]) rfl rfl

theorem expiresLease {index : Nat} {row : ExpiredLease} (fenced : db.Fenced) (sound : db.Sound)
    (expires : ExpiresLease env index row db db') : db'.Fenced := by
  obtain ⟨member, active, -, -⟩ := Db.mem_expiredLeases.mp expires.selected
  rw [expires.after]
  have released := release (fun other => other.id = row.lease.id) LeaseRow.expire
    (fun other => other.afterLeaseExpiry env.now row.safeToRetry) fenced sound member active
    (fun _ _ _ => decide_eq_true_iff) (fun _ => ⟨rfl, rfl⟩) (fun _ => by simp [LeaseRow.expire])
    (fun other _ _ => by unfold CommandRow.afterLeaseExpiry; split <;> rfl)
  exact (updateAttempts
    (fun other => other.commandId = row.lease.commandId && other.attempt = row.lease.attempt)
    (fun other => other.afterLeaseExpiry env.now) released fun _ => ⟨rfl, rfl⟩).of_tables
    rfl rfl rfl

theorem leasesCommand {input : LeaseInput} {index : Nat} {row : LeasableCommand}
    {lease : LeaseRow} (fenced : db.Fenced) (sound : db.Sound)
    (leases : LeasesCommand env input index row lease db db') : db'.Fenced := by
  obtain ⟨member, -, -, due⟩ := Db.mem_dueCommands.mp leases.due
  have grants := leases.grants
  have granted := grants.lease_eq
  rw [grants.after]
  have free : row.command.state.isHeld = false := by
    rw [due.queued]
    rfl
  refine (grant lease (leasedAttempt (env.grants index).attempt row.command.id lease.attempt)
    fenced sound member free ?_ ?_ ?_ ?_ ?_ ⟨rfl, rfl⟩).of_tables rfl rfl rfl
  · rw [granted]; rfl
  · rw [granted]; rfl
  · rw [granted]
    exact leaseExpiry_le env.now input.boundedSeconds row.command
  · rw [granted]; rfl
  · rw [granted]; rfl

theorem recordsReceipt {input : ReceiptInput} {held : HeldLease} {eventType : String}
    (fenced : db.Fenced) (sound : db.Sound)
    (records : RecordsReceipt env input held eventType db db') : db'.Fenced := by
  have joined := Db.holds_of_heldLease? records.heldBy.joined
  have settle : ∀ {before : Db}, before.Fenced → _ := fun fenced => updateAttempts
    (fun row => row.commandId = input.commandId && row.attempt = input.attempt)
    (fun row => row.afterReceipt env.now input) fenced fun _ => ⟨rfl, rfl⟩
  rw [records.after]
  by_cases terminal : input.state.terminal = true
  · have ended : ∀ row ∈ db.leases, row.state = .active →
        ((decide (row.id = input.leaseId) && decide (row.state = .active)) = true ↔
          row.id = held.lease.id) := by
      intro row _ active
      simp [active, joined.lease_id]
    have released := release (fun row => row.id = input.leaseId && row.state = .active)
      (fun row => row.consume (input.completedAt.getD env.now))
      (fun row => row.afterReceipt env.now input.state input.completedAt) fenced sound
      joined.lease_mem records.heldBy.active ended (fun _ => ⟨rfl, rfl⟩)
      (fun _ => by simp [LeaseRow.consume])
      (fun row _ _ => by
        show input.state.authorityState.isHeld = false
        rw [isHeld_authorityState records.transition, terminal]
        rfl)
    rw [joined.lease_command] at released
    exact (settle released).of_tables rfl
      (by simp [ReceiptInput.apply, ReceiptInput.leases, terminal]) rfl
  · have continued : ∀ row ∈ db.commands, decide (row.id = input.commandId) = true →
        row.SameHold (row.afterReceipt env.now input.state input.completedAt) := by
      intro row rowMem chosen
      have one := sound.commands.eq_of_key_eq rowMem joined.command_mem
        ((of_decide_eq_true chosen).trans joined.command_id.symm)
      have held : input.state.authorityState.isHeld = true := by
        rw [isHeld_authorityState records.transition, Bool.eq_false_iff.mpr terminal]
        rfl
      refine ⟨rfl, rfl, rfl, ?_, rfl, ?_⟩
      · have kept : [CommandState.accepted, .running].contains input.state.authorityState := by
          revert held
          cases input.state <;> simp [ReceiptState.authorityState, CommandState.isHeld]
        simp only [CommandRow.afterReceipt, kept, if_true]
      · rw [one, isHeld_of_transition records.transition]
        exact held
    exact (settle (fenced.update continued)).of_tables rfl
      (by simp [ReceiptInput.apply, ReceiptInput.leases, terminal]) rfl

theorem verifiesCommand {input : VerificationInput} {current : OpenVerification}
    {observation : ObservationRow} (fenced : db.Fenced) (sound : db.Sound)
    (verifies : VerifiesCommand env input current observation db db') : db'.Fenced := by
  have awaits := Db.awaits_of_openVerification? verifies.joined
  rw [verifies.after]
  have settled : ∀ row ∈ db.commands, decide (row.id = input.commandId) = true →
      row.SameHold (input.finalize row) := by
    intro row rowMem chosen
    have one := sound.commands.eq_of_key_eq rowMem awaits.command_mem
      ((of_decide_eq_true chosen).trans awaits.command_id.symm)
    refine ⟨rfl, rfl, rfl, rfl, rfl, ?_⟩
    rw [one, verifies.verifying]
    unfold VerificationInput.finalize VerificationInput.finalCommandState
    split <;> rfl
  exact (fenced.update settled).of_tables rfl rfl rfl

/-- Every change keeps the fences. -/
theorem change (fenced : db.Fenced) (sound : db.Sound) (changed : Change env db db') :
    db'.Fenced := by
  cases changed.control with
  | frame same => exact fenced.of_tables same.commands same.leases same.attempts
  | command stores => exact fenced.storesCommand stores
  | decision decides => exact fenced.decidesApproval decides
  | expiry expires => exact fenced.expiresLease sound expires
  | lease leases => exact fenced.leasesCommand sound leases
  | receipt records => exact fenced.recordsReceipt sound records
  | verification verifies => exact fenced.verifiesCommand sound verifies

end Db.Fenced

theorem Db.Blank.fenced {db : Db} (blank : db.Blank) : db.Fenced := by
  constructor
  · simp [blank.leases]
  · simp [blank.commands]
  · simp [Db.leasesOf, blank.leases]
  · simp [Db.leasesOf, Db.attemptsOf, blank.leases, blank.attempts]

/-- The fences stand in every reachable state. -/
theorem authority_fenced [Host] {db : Db} (reachable : Reachable controlAuthority db) :
    db.Fenced :=
  authority_invariant reachable Db.Fenced (fun _ blank => blank.fenced)
    fun _ _ _ sound fenced changed => fenced.change sound changed

/-! ### Receipts that pass the fence -/

/-- The receipt presents the token, the id and the attempt of the one active lease of its
command, in time and from the scope of that lease. -/
structure Db.Presents (db : Db) (now : Nat) (input : ReceiptInput) (lease : LeaseRow) :
    Prop where
  id : lease.id = input.leaseId
  attempt : lease.attempt = input.attempt
  token : lease.tokenHash = hashToken input.leaseToken
  active : lease.state = .active
  only : ∀ other ∈ db.leasesOf input.commandId, other.state = .active → other = lease
  alive : now < lease.expiresAt
  server : lease.serverId = input.serverId ∧ input.sourceIdentity = input.serverId
  deployment : lease.deploymentId = input.deploymentId
  owner : ∃ owned, db.ownedDeployment? lease.deploymentId = some owned ∧
    owned.deployment.organizationId = input.organizationId ∧
    owned.deployment.agentId = input.agentId ∧
    owned.deployment.serverId = some input.serverId ∧ owned.ownerUserId = input.userId

theorem Db.mem_leasesOf {db : Db} {commandId : String} {lease : LeaseRow} :
    lease ∈ db.leasesOf commandId ↔ lease ∈ db.leases ∧ lease.commandId = commandId := by
  simp [Db.leasesOf]

/-- A recorded receipt has presented the active lease of its command. -/
theorem Db.Fenced.presents [Host] {env : Env} {db db' : Db} {input : ReceiptInput}
    {held : HeldLease} {eventType : String} (fenced : db.Fenced) (sound : db.Sound)
    (records : RecordsReceipt env input held eventType db db') :
    ∃ lease ∈ db.leasesOf input.commandId, db.Presents env.now input lease := by
  have heldBy := records.heldBy
  have joined := Db.holds_of_heldLease? heldBy.joined
  obtain ⟨command, commandMem, holds⟩ :=
    fenced.holds held.lease joined.lease_mem heldBy.active
  -- The command of the active lease is the one that the query joined.
  have same : command = held.command := by
    apply sound.commands.eq_of_key_eq commandMem joined.command_mem
    rw [holds.command_id, joined.lease_command, joined.command_id]
  subst same
  have scope := heldBy.scope
  simp only [HeldLease.inScope, Bool.and_eq_true, decide_eq_true_eq] at scope
  obtain ⟨⟨⟨⟨⟨⟨organization, owner⟩, agent⟩, server⟩, holder⟩, source⟩, deployment⟩ := scope
  refine ⟨held.lease, Db.mem_leasesOf.mpr ⟨joined.lease_mem, joined.lease_command⟩,
    { id := joined.lease_id
      attempt := joined.lease_attempt
      token := heldBy.token
      active := heldBy.active
      only := ?_
      alive := lt_of_dateNow_lt_dateParseColumn (heldBy.alive _ holds.deadline)
      server := ⟨Option.some.inj (holds.server.symm.trans holder), source⟩
      deployment := holds.deployment.symm.trans deployment
      owner := ?_ }⟩
  · intro other otherMem active
    obtain ⟨stored, otherCommand⟩ := Db.mem_leasesOf.mp otherMem
    exact sound.one_active other stored held.lease joined.lease_mem active heldBy.active
      (otherCommand.trans joined.lease_command.symm)
  · obtain ⟨-, -, -, owned⟩ := Db.heldLease?_eq_some.mp heldBy.joined
    exact ⟨held.deployment, owned, organization, agent, server, owner⟩

/-- At most one lease of a command is active. -/
theorem Db.Sound.activeLeases_le_one {db : Db} (sound : db.Sound) (commandId : String) :
    ((db.leasesOf commandId).filter fun lease => lease.state = .active).length ≤ 1 := by
  apply ((sound.leases.filter _).filter _).length_le_one
  have unfolded : ∀ lease ∈ (db.leasesOf commandId).filter fun lease => lease.state = .active,
      (lease ∈ db.leases ∧ lease.commandId = commandId) ∧ lease.state = .active := by
    intro lease member
    obtain ⟨stored, active⟩ := List.mem_filter.mp member
    exact ⟨Db.mem_leasesOf.mp stored, of_decide_eq_true active⟩
  intro first firstMem second secondMem
  obtain ⟨⟨firstStored, firstCommand⟩, firstActive⟩ := unfolded first firstMem
  obtain ⟨⟨secondStored, secondCommand⟩, secondActive⟩ := unfolded second secondMem
  exact sound.one_active first firstStored second secondStored firstActive secondActive
    (firstCommand.trans secondCommand.symm)

/-- Each lease of a command has exactly one attempt. -/
theorem Db.Fenced.one_attempt {db : Db} (fenced : db.Fenced) {commandId : String}
    {lease : LeaseRow} (member : lease ∈ db.leasesOf commandId) :
    ((db.attemptsOf commandId).filter fun row => row.attempt = lease.attempt).length = 1 := by
  have same := fenced.attempts commandId
  have count : (db.attemptsOf commandId).length = (db.leasesOf commandId).length := by
    have lengths := congrArg List.length same
    simpa using lengths
  have numbered : Numbered AttemptRow.attempt (db.attemptsOf commandId) := by
    unfold Numbered
    rw [same, fenced.numbered commandId, count]
  apply numbered.filter_length_eq_one
  rw [same]
  exact List.mem_map_of_mem member

/-- In every reachable state a command has at most one active lease, and has one exactly
while it is leased, accepted or running; its leases are numbered 1, 2, 3, … and each has
one attempt; and a receipt that does not present the active lease changes nothing. -/
theorem fenced_of_reachable [Host] {db : Db} (reachable : Reachable controlAuthority db) :
    (∀ commandId,
        ((db.leasesOf commandId).filter fun lease => lease.state = .active).length ≤ 1) ∧
      (∀ command ∈ db.commands,
        (∃ lease ∈ db.leasesOf command.id, lease.state = .active) ↔
          command.state.isHeld = true) ∧
      (∀ commandId, Numbered LeaseRow.attempt (db.leasesOf commandId) ∧
        ∀ lease ∈ db.leasesOf commandId,
          ((db.attemptsOf commandId).filter fun row => row.attempt = lease.attempt).length = 1) ∧
      ∀ (env : Env) (input : ReceiptInput) (fault : Option Nat),
        (Call.execute ⟨env, .recordReceipt input, fault⟩ db).2 = db ∨
          ∃ lease ∈ db.leasesOf input.commandId, db.Presents env.now input lease := by
  have sound := authority_sound reachable
  have fenced := authority_fenced reachable
  refine ⟨sound.activeLeases_le_one, ?_, ?_, ?_⟩
  · intro command member
    constructor
    · rintro ⟨lease, leaseMem, active⟩
      obtain ⟨stored, same⟩ := Db.mem_leasesOf.mp leaseMem
      obtain ⟨holder, holderMem, holds⟩ := fenced.holds lease stored active
      rw [← sound.commands.eq_of_key_eq holderMem member (holds.command_id.trans same)]
      exact holds.held
    · intro held
      obtain ⟨lease, leaseMem, active, same⟩ := fenced.leased command member held
      exact ⟨lease, Db.mem_leasesOf.mpr ⟨leaseMem, same⟩, active⟩
  · intro commandId
    exact ⟨fenced.numbered commandId, fun lease member => fenced.one_attempt member⟩
  · intro env input fault
    have taken : controlAuthority.step db ⟨env, .recordReceipt input, fault⟩ _ := rfl
    rcases Call.step_cases sound taken with same | ⟨held, eventType, records⟩
    · exact .inl same
    · exact .inr (fenced.presents sound records)

section Sample

attribute [local instance] Host.posix

/-- After a command was leased, one lease fences it. -/
theorem fenced_sample :
    (sampleDb.execute sampleLeasing).2.commands.map CommandRow.state = [.leased] ∧
      (∀ command ∈ (sampleDb.execute sampleLeasing).2.commands,
        (∃ lease ∈ (sampleDb.execute sampleLeasing).2.leasesOf command.id,
          lease.state = .active) ↔ command.state.isHeld = true) ∧
      Numbered LeaseRow.attempt ((sampleDb.execute sampleLeasing).2.leasesOf "command-1") := by
  have fenced := fenced_of_reachable (execute_reachable sampleDb_blank sampleLeasing)
  exact ⟨sampleLeasing_reaches.1, fenced.2.1, (fenced.2.2.1 "command-1").1⟩

end Sample

end BairuiPlatform
