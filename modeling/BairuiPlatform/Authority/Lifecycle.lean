/-
Module: BairuiPlatform.Authority.Lifecycle
Purpose: The state machine of a command: what every change of the authority may do to the
  row of a command, and the states that no change leaves.
Trusted boundary: none
Main exports: commandTransitions, CommandRow.Follows, Db.Fenced.advances,
  CommandState.isTerminal, terminal_absorbing
-/
import BairuiPlatform.Authority.Fencing

namespace BairuiPlatform

open Foundations Relation

/-! ### The state machine -/

/-- The states that a command may enter next. -/
def commandTransitions : CommandState → List CommandState
  | .queued => [.leased, .cancelled]
  | .leased => [.queued, .accepted]
  | .accepted => [.running, .failed, .cancelled, .expired]
  | .running => [.verifying, .failed, .cancelled, .expired]
  | .verifying => [.succeeded, .failed]
  | .succeeded | .failed | .cancelled | .expired => []

/-- The command is done. -/
def CommandState.isTerminal : CommandState → Bool
  | succeeded | failed | cancelled | expired => true
  | _ => false

/-- Nothing comes after a terminal state. -/
theorem commandTransitions_of_terminal {state : CommandState}
    (terminal : state.isTerminal = true) : commandTransitions state = [] := by
  cases state <;> first | rfl | cases terminal

/-- A later version of the row of a command: what was asked for is the same, and the state
is the same or a next one. -/
structure CommandRow.Follows (old new : CommandRow) : Prop where
  id : new.id = old.id
  deployment : new.deploymentId = old.deploymentId
  action : new.action = old.action
  approval : new.approvalId = old.approvalId
  expected : new.expectedObservationVersion = old.expectedObservationVersion
  notBefore : new.notBefore = old.notBefore
  expiresAt : new.expiresAt = old.expiresAt
  requestedBy : new.requestedBy = old.requestedBy
  state : new.state = old.state ∨ new.state ∈ commandTransitions old.state

theorem CommandRow.Follows.refl (row : CommandRow) : row.Follows row :=
  ⟨rfl, rfl, rfl, rfl, rfl, rfl, rfl, rfl, .inl rfl⟩

/-- Commands after a change: each is a later version of an old one, or new and queued. -/
structure Db.Advances (now : Nat) (db db' : Db) : Prop where
  later : ∀ old ∈ db.commands, ∃ new ∈ db'.commands, old.Follows new
  earlier : ∀ new ∈ db'.commands, (∃ old ∈ db.commands, old.Follows new) ∨
    (new.state = .queued ∧ now < new.expiresAt ∧ ∀ old ∈ db.commands, old.id ≠ new.id)

namespace Db.Advances

variable {now : Nat} {db db' : Db}

theorem of_versions (versions : Versions CommandRow.Follows db.commands db'.commands) :
    db.Advances now db' where
  later := versions.later
  earlier new member := .inl (versions.earlier new member)

theorem of_eq (same : db'.commands = db.commands) : db.Advances now db' := by
  apply of_versions
  rw [same]
  exact .refl CommandRow.Follows.refl

theorem of_update {selected : CommandRow → Bool} {change : CommandRow → CommandRow}
    (updated : db'.commands = updateWhere selected change db.commands)
    (follows : ∀ row ∈ db.commands, selected row = true → row.Follows (change row)) :
    db.Advances now db' := by
  apply of_versions
  rw [updated]
  exact .update CommandRow.Follows.refl follows

theorem of_create {row : CommandRow} (created : db'.commands = db.commands ++ [row])
    (queued : row.state = .queued) (alive : now < row.expiresAt)
    (new : ∀ old ∈ db.commands, old.id ≠ row.id) : db.Advances now db' where
  later old member := ⟨old, created ▸ List.mem_append_left _ member, .refl old⟩
  earlier row' member := by
    rw [created] at member
    rcases List.mem_append.mp member with old | isNew
    · exact .inl ⟨row', old, .refl row'⟩
    · rw [List.mem_singleton.mp isNew]
      exact .inr ⟨queued, alive, new⟩

end Db.Advances

/-! ### Every change follows the state machine -/

/-- An accepted receipt moves the command along its state machine. -/
theorem authorityState_follows {state : CommandState} {receipt : ReceiptState}
    (allowed : receipt ∈ receiptTransitions state) :
    receipt.authorityState = state ∨ receipt.authorityState ∈ commandTransitions state := by
  cases state <;> simp only [receiptTransitions, List.mem_cons, List.not_mem_nil, or_false] at allowed
  · rw [allowed]
    exact .inr (by decide)
  · rcases allowed with rfl | rfl | rfl | rfl | rfl <;> exact .inr (by decide)
  · rcases allowed with rfl | rfl | rfl | rfl | rfl | rfl <;> decide

/-- What `expireLeases` may make of the state of a command. -/
inductive ExpiryOutcome : CommandState → CommandState → Prop where
  | keep (state : CommandState) : ExpiryOutcome state state
  | requeue : ExpiryOutcome .leased .queued
  | giveUp {state : CommandState} (held : state.isHeld = true) (started : state ≠ .leased) :
      ExpiryOutcome state .expired

namespace ExpiryOutcome

theorem trans {first second third : CommandState} (before : ExpiryOutcome first second)
    (after : ExpiryOutcome second third) : ExpiryOutcome first third := by
  cases before with
  | keep => exact after
  | requeue =>
      cases after with
      | keep => exact .requeue
      | giveUp held => cases held
  | giveUp held started =>
      cases after with
      | keep => exact .giveUp held started
      | giveUp impossible => cases impossible

/-- The outcomes of an expiry lie on the state machine. -/
theorem follows {old new : CommandState} (outcome : ExpiryOutcome old new) :
    new = old ∨ new ∈ commandTransitions old := by
  cases outcome with
  | keep => exact .inl rfl
  | requeue => exact .inr List.mem_cons_self
  | giveUp held started =>
      right
      revert held started
      cases old <;> simp [CommandState.isHeld, commandTransitions]

end ExpiryOutcome

namespace Db.Fenced

variable [Host] {env : Env} {db db' : Db}

/-- What the expiry of a lease makes of the state of its command. -/
theorem expiry_outcome {index : Nat} {row : ExpiredLease} (fenced : db.Fenced)
    (sound : db.Sound) (expires : ExpiresLease env index row db db') {command : CommandRow}
    (member : command ∈ db.commands) (own : command.id = row.lease.commandId) :
    ExpiryOutcome command.state (command.afterLeaseExpiry env.now row.safeToRetry).state := by
  obtain ⟨leaseMem, active, -, joined⟩ := Db.mem_expiredLeases.mp expires.selected
  obtain ⟨-, found, -, foundCommand, -, state, -⟩ := Db.joinedLease?_eq_some.mp joined
  have foundId : found.id = row.lease.commandId := by
    simpa using List.find?_some foundCommand
  -- The joined command and the holder of the lease are this command.
  obtain ⟨holder, holderMem, holds⟩ := fenced.holds row.lease leaseMem active
  obtain rfl := sound.commands.eq_of_key_eq (List.mem_of_find?_eq_some foundCommand) member
    (foundId.trans own.symm)
  obtain rfl := sound.commands.eq_of_key_eq holderMem member (holds.command_id.trans own.symm)
  unfold CommandRow.afterLeaseExpiry
  by_cases leased : holder.state = .leased
  · have retry : row.safeToRetry = true := decide_eq_true (state.trans leased)
    rw [if_pos retry, leased]
    exact .requeue
  · have giveUp : ¬row.safeToRetry = true := by
      intro retry
      exact leased (state.symm.trans (of_decide_eq_true retry))
    rw [if_neg giveUp]
    exact .giveUp holds.held leased

/-- Every change follows the state machine of commands. -/
theorem advances (fenced : db.Fenced) (sound : db.Sound) (changed : Change env db db') :
    db.Advances env.now db' := by
  cases changed.control with
  | frame same => exact .of_eq same.commands
  | @command input deployment stores =>
      have alive : env.now < input.expiresAt := by
        have later := stores.alive
        unfold dateNow dateParse at later
        omega
      rw [stores.after]
      exact .of_create rfl rfl alive stores.entry.id_new
  | @decision input current decides =>
      rw [decides.after]
      by_cases rejected : input.decision = .rejected
      · refine .of_update (by simp only [ApprovalDecisionInput.commands, if_pos rejected]; rfl)
          fun row _ chosen => ?_
        simp only [Bool.and_eq_true, decide_eq_true_eq] at chosen
        refine ⟨rfl, rfl, rfl, rfl, rfl, rfl, rfl, rfl, .inr ?_⟩
        rw [chosen.2]
        exact List.mem_cons_of_mem _ List.mem_cons_self
      · exact .of_eq (by simp only [ApprovalDecisionInput.commands, if_neg rejected])
  | @expiry index row expires =>
      rw [expires.after]
      refine .of_update rfl fun candidate member chosen => ?_
      have outcome := fenced.expiry_outcome sound expires member (of_decide_eq_true chosen)
      refine ⟨?_, ?_, ?_, ?_, ?_, ?_, ?_, ?_, outcome.follows⟩ <;>
        (unfold CommandRow.afterLeaseExpiry; split <;> rfl)
  | @lease input index row lease leases =>
      obtain ⟨member, -, -, due⟩ := Db.mem_dueCommands.mp leases.due
      have own : lease.commandId = row.command.id := by rw [leases.grants.lease_eq]; rfl
      rw [leases.grants.after]
      refine .of_update rfl fun candidate candidateMem chosen => ?_
      have one := sound.commands.eq_of_key_eq candidateMem member
        ((of_decide_eq_true chosen).trans own)
      refine ⟨rfl, rfl, rfl, rfl, rfl, rfl, rfl, rfl, .inr ?_⟩
      rw [one, due.queued]
      exact List.mem_cons_self
  | @receipt input held eventType records =>
      have joined := Db.holds_of_heldLease? records.heldBy.joined
      rw [records.after]
      refine .of_update rfl fun candidate candidateMem chosen => ?_
      have one := sound.commands.eq_of_key_eq candidateMem joined.command_mem
        ((of_decide_eq_true chosen).trans joined.command_id.symm)
      refine ⟨rfl, rfl, rfl, rfl, rfl, rfl, rfl, rfl, ?_⟩
      rw [one]
      exact authorityState_follows records.transition
  | @verification input current observation verifies =>
      have awaits := Db.awaits_of_openVerification? verifies.joined
      rw [verifies.after]
      refine .of_update rfl fun candidate candidateMem chosen => ?_
      have one := sound.commands.eq_of_key_eq candidateMem awaits.command_mem
        ((of_decide_eq_true chosen).trans awaits.command_id.symm)
      refine ⟨rfl, rfl, rfl, rfl, rfl, rfl, rfl, rfl, .inr ?_⟩
      rw [one, verifies.verifying]
      show input.finalCommandState ∈ _
      unfold VerificationInput.finalCommandState
      split <;> decide

end Db.Fenced

/-- The fences stand after every chain of changes. -/
theorem Db.Fenced.chain [Host] {env : Env} {db db' : Db} (fenced : db.Fenced)
    (sound : db.Sound) (changes : ReflTransGen (Change env) db db') : db'.Fenced :=
  sound.keeps changes Db.Fenced (fun _ _ sound fenced changed => fenced.change sound changed)
    fenced

/-! ### Terminal states -/

/-- The command under an id is in this state. -/
def Db.CommandIs (db : Db) (id : String) (state : CommandState) : Prop :=
  ∃ command ∈ db.commands, command.id = id ∧ command.state = state

/-- What every change keeps on sound and fenced tables, every sequence of calls keeps. -/
theorem keeps_of_advances [Host] {allowed : Call → Prop} {db db' : Db}
    (reachable : Reachable controlAuthority db) (leads : controlAuthority.Leads allowed db db')
    (Keep : Db → Prop)
    (step : ∀ env before after, before.Sound → before.Fenced → Keep before →
      Change env before after → Keep after)
    (holds : Keep db) : Keep db' := by
  have start : db.Sound ∧ db.Fenced ∧ Keep db :=
    ⟨authority_sound reachable, authority_fenced reachable, holds⟩
  refine (leads.keeps (fun db => db.Sound ∧ db.Fenced ∧ Keep db) ?_ start).2.2
  rintro before call after ⟨sound, fenced, keep⟩ - taken
  have changes := Call.chain sound taken
  refine ⟨sound.chain changes, fenced.chain sound changes, ?_⟩
  exact (sound.keeps changes (fun db => db.Fenced ∧ Keep db)
    (fun _ _ sound both changed =>
      ⟨both.1.change sound changed, step _ _ _ sound both.1 both.2 changed⟩)
    ⟨fenced, keep⟩).2

/-- A command in a terminal state stays in it. -/
theorem terminal_absorbing [Host] {allowed : Call → Prop} {db db' : Db} {id : String}
    {state : CommandState} (reachable : Reachable controlAuthority db)
    (leads : controlAuthority.Leads allowed db db') (terminal : state.isTerminal = true)
    (ended : db.CommandIs id state) : db'.CommandIs id state := by
  refine keeps_of_advances reachable leads (fun db => db.CommandIs id state) ?_ ended
  rintro env before after sound fenced ⟨command, member, sameId, sameState⟩ changed
  obtain ⟨new, newMem, follows⟩ := (fenced.advances sound changed).later command member
  refine ⟨new, newMem, follows.id.trans sameId, ?_⟩
  rcases follows.state with same | next
  · exact same.trans sameState
  · rw [sameState, commandTransitions_of_terminal terminal] at next
    cases next

end BairuiPlatform
