/-
Module: BairuiPlatform.Authority.Success
Purpose: A command succeeds only on evidence: the verification, the candidate receipt and
  the observation behind every success.
Trusted boundary: none
Main exports: Db.LatestHeld, Db.Candidates, Db.Proves, success_needs_evidence
-/
import BairuiPlatform.Authority.Lifecycle

namespace BairuiPlatform

open Foundations Relation

/-! ### Attempts and active leases -/

/-- The numbers of the attempts of a command. -/
def Db.attemptNumbers (db : Db) (commandId : String) : List Nat :=
  (db.attemptsOf commandId).map AttemptRow.attempt

theorem Db.nextAttempt_of_numbers {db db' : Db} {commandId : String}
    (same : db'.attemptNumbers commandId = db.attemptNumbers commandId) :
    db'.nextAttempt commandId = db.nextAttempt commandId := by
  unfold Db.nextAttempt
  exact congrArg (fun numbers => maxOf numbers + 1) same

/-- A number that continues the numbering is the largest one. -/
theorem maxOf_snoc {values : List Nat} {value : Nat} (next : value = maxOf values + 1) :
    maxOf (values ++ [value]) = value := by
  refine Nat.le_antisymm (maxOf_le fun other member => ?_) (le_maxOf (by simp))
  rcases List.mem_append.mp member with old | new
  · have bounded := le_maxOf old
    omega
  · exact (List.mem_singleton.mp new).le

theorem Db.attemptNumbers_of_eq {db db' : Db} (same : db'.attempts = db.attempts)
    (commandId : String) : db'.attemptNumbers commandId = db.attemptNumbers commandId := by
  unfold Db.attemptNumbers Db.attemptsOf
  rw [same]

/-- An update of attempts that keeps their commands and numbers. -/
theorem Db.attemptNumbers_update {db db' : Db} (selected : AttemptRow → Bool)
    (change : AttemptRow → AttemptRow)
    (updated : db'.attempts = updateWhere selected change db.attempts)
    (keeps : ∀ row, (change row).commandId = row.commandId ∧ (change row).attempt = row.attempt)
    (commandId : String) : db'.attemptNumbers commandId = db.attemptNumbers commandId := by
  unfold Db.attemptNumbers Db.attemptsOf
  rw [updated, filter_updateWhere fun row => by rw [(keeps row).1],
    map_updateWhere fun row => (keeps row).2]

/-- A new attempt is seen by its own command alone. -/
theorem Db.attemptNumbers_snoc {db db' : Db} {attempt : AttemptRow}
    (opened : db'.attempts = db.attempts ++ [attempt]) (commandId : String) :
    db'.attemptNumbers commandId =
      if attempt.commandId = commandId then db.attemptNumbers commandId ++ [attempt.attempt]
      else db.attemptNumbers commandId := by
  unfold Db.attemptNumbers Db.attemptsOf
  rw [opened, List.filter_append]
  by_cases own : attempt.commandId = commandId
  · simp [own]
  · simp [own]

/-- The active lease of a command belongs to its latest attempt. -/
def Db.LatestHeld (db : Db) : Prop :=
  ∀ lease ∈ db.leases, lease.state = .active →
    db.nextAttempt lease.commandId = lease.attempt + 1

/-- No lease becomes active, and no attempt is opened. -/
theorem Db.LatestHeld.of_kept {db db' : Db} (latest : db.LatestHeld)
    (kept : ∀ lease ∈ db'.leases, lease.state = .active → lease ∈ db.leases)
    (attempts : ∀ commandId, db'.attemptNumbers commandId = db.attemptNumbers commandId) :
    db'.LatestHeld := by
  intro lease member active
  rw [Db.nextAttempt_of_numbers (attempts _)]
  exact latest lease (kept lease member active) active

/-- An active row of an update after which no changed row is active. -/
theorem active_of_update {rows : List LeaseRow} {selected : LeaseRow → Bool}
    {change : LeaseRow → LeaseRow} (inactive : ∀ row, (change row).state ≠ .active) :
    ∀ lease ∈ updateWhere selected change rows, lease.state = .active → lease ∈ rows := by
  intro lease member active
  rcases mem_updateWhere.mp member with ⟨old, -, -, rfl⟩ | ⟨old, -⟩
  · exact absurd active (inactive old)
  · exact old

section Steps

variable [Host] {env : Env} {db db' : Db}

/-- A change activates no lease and opens no attempt, or it leases a command. -/
theorem Change.leases_cases (changed : Change env db db') :
    ((∀ lease ∈ db'.leases, lease.state = .active → lease ∈ db.leases) ∧
        ∀ commandId, db'.attemptNumbers commandId = db.attemptNumbers commandId) ∨
      ∃ input index row lease, LeasesCommand env input index row lease db db' := by
  have frame : db'.leases = db.leases → db'.attempts = db.attempts →
      (∀ lease ∈ db'.leases, lease.state = .active → lease ∈ db.leases) ∧
        ∀ commandId, db'.attemptNumbers commandId = db.attemptNumbers commandId :=
    fun leases attempts =>
      ⟨fun lease member _ => leases ▸ member, Db.attemptNumbers_of_eq attempts⟩
  cases changed.control with
  | frame same => exact .inl (frame same.leases same.attempts)
  | command stores => exact .inl (frame (by rw [stores.after]) (by rw [stores.after]))
  | decision decides => exact .inl (frame (by rw [decides.after]) (by rw [decides.after]))
  | verification verifies =>
      exact .inl (frame (by rw [verifies.after]; rfl) (by rw [verifies.after]; rfl))
  | @expiry index row expires =>
      refine .inl ⟨?_, ?_⟩
      · rw [expires.after]
        exact active_of_update fun _ => by simp [LeaseRow.expire]
      · exact Db.attemptNumbers_update
          (fun other => other.commandId = row.lease.commandId && other.attempt = row.lease.attempt)
          (fun other => other.afterLeaseExpiry env.now) (by rw [expires.after]; rfl)
          (fun _ => ⟨rfl, rfl⟩)
  | @receipt input held eventType records =>
      refine .inl ⟨?_, ?_⟩
      · rw [records.after]
        show ∀ lease ∈ input.leases env.now db.leases, _
        unfold ReceiptInput.leases
        split
        · exact active_of_update fun _ => by simp [LeaseRow.consume]
        · exact fun lease member _ => member
      · exact Db.attemptNumbers_update
          (fun other => other.commandId = input.commandId && other.attempt = input.attempt)
          (fun other => other.afterReceipt env.now input) (by rw [records.after]; rfl)
          (fun _ => ⟨rfl, rfl⟩)
  | lease leases => exact .inr ⟨_, _, _, _, leases⟩

/-- A lease opens an attempt for its own command. -/
theorem LeasesCommand.attemptNumbers {input : LeaseInput} {index : Nat} {row : LeasableCommand}
    {lease : LeaseRow} (leases : LeasesCommand env input index row lease db db')
    (commandId : String) :
    db'.attemptNumbers commandId =
      if row.command.id = commandId then db.attemptNumbers commandId ++ [lease.attempt]
      else db.attemptNumbers commandId := by
  have opened : db'.attempts = db.attempts ++
      [leasedAttempt (env.grants index).attempt row.command.id lease.attempt] := by
    rw [leases.grants.after]
    rfl
  exact Db.attemptNumbers_snoc opened commandId

/-- An attempt is opened only for a queued command. -/
theorem Change.attemptNumbers_cases (changed : Change env db db') (commandId : String) :
    db'.attemptNumbers commandId = db.attemptNumbers commandId ∨
      ∃ command ∈ db.commands, command.id = commandId ∧ command.state = .queued := by
  rcases changed.leases_cases with ⟨-, same⟩ | ⟨input, index, row, lease, leases⟩
  · exact .inl (same commandId)
  · obtain ⟨member, -, -, due⟩ := Db.mem_dueCommands.mp leases.due
    by_cases own : row.command.id = commandId
    · exact .inr ⟨row.command, member, own, due.queued⟩
    · rw [leases.attemptNumbers commandId]
      exact .inl (if_neg own)

/-- Every change keeps the active leases at the latest attempts. -/
theorem Db.LatestHeld.change (latest : db.LatestHeld) (changed : Change env db db') :
    db'.LatestHeld := by
  rcases changed.leases_cases with ⟨kept, same⟩ | ⟨input, index, row, lease, leases⟩
  · exact latest.of_kept kept same
  · have granted := leases.grants.lease_eq
    have own : lease.commandId = row.command.id := by rw [granted]; rfl
    have number : lease.attempt = maxOf (db.attemptNumbers row.command.id) + 1 := by
      rw [granted]; rfl
    intro other member active
    have stored : other ∈ db.leases ∨ other = lease := by
      rw [leases.grants.after] at member
      exact (List.mem_append.mp member).imp_right List.mem_singleton.mp
    rcases stored with old | rfl
    · -- The command of another active lease is another command.
      have apart : ¬row.command.id = other.commandId := by
        intro same
        exact leases.grants.leaseEntry.one_active other old (same.symm.trans own.symm) active
      have same : db'.attemptNumbers other.commandId = db.attemptNumbers other.commandId := by
        rw [leases.attemptNumbers]
        exact if_neg apart
      rw [Db.nextAttempt_of_numbers same]
      exact latest other old active
    · show maxOf (db'.attemptNumbers other.commandId) + 1 = other.attempt + 1
      rw [leases.attemptNumbers, if_pos own.symm, own, maxOf_snoc number]

end Steps

/-! ### Candidates -/

/-- The states of a command that has a verification. -/
def CommandState.isJudged : CommandState → Bool
  | verifying | succeeded | failed => true
  | _ => false

/-- A judged command stays judged, and comes to wait for its verdict only once. -/
theorem isJudged_of_follows {old new : CommandState}
    (follows : new = old ∨ new ∈ commandTransitions old) (judged : old.isJudged = true) :
    new.isJudged = true ∧ (new = .verifying → old = .verifying) := by
  rcases follows with rfl | next
  · exact ⟨judged, id⟩
  · revert next judged
    cases old <;> cases new <;> decide

/-- A verification belongs to a command that is being judged and to the candidate receipt
of the same attempt, and carries what the receipt says until the verdict. -/
structure VerificationRow.Joins (verification : VerificationRow) (command : CommandRow)
    (receipt : ReceiptRow) : Prop where
  command_id : command.id = verification.commandId
  deployment : command.deploymentId = verification.deploymentId
  judged : command.state.isJudged = true
  receipt_id : receipt.id = verification.receiptId
  receipt_command : receipt.commandId = verification.commandId
  receipt_attempt : receipt.attempt = verification.attempt
  receipt_state : receipt.state = .completionCandidate
  pending : command.state = .verifying →
    receipt.observationVersion = verification.observationVersion ∧
      receipt.evidenceRefs = verification.evidenceRefs

/-- A verification is one of a candidate: it joins its command and receipt, and belongs to
the latest attempt. -/
def Db.Candidate (db : Db) (verification : VerificationRow) : Prop :=
  (∃ command ∈ db.commands, ∃ receipt ∈ db.receipts, verification.Joins command receipt) ∧
    db.nextAttempt verification.commandId = verification.attempt + 1

/-- Every verification is one of a candidate. -/
def Db.Candidates (db : Db) : Prop :=
  ∀ verification ∈ db.verifications, db.Candidate verification

section Candidates

variable [Host] {env : Env} {db db' : Db}

/-- No receipt is ever removed. -/
theorem Change.keeps_receipts (changed : Change env db db') :
    ∀ receipt ∈ db.receipts, receipt ∈ db'.receipts := by
  intro receipt member
  cases changed.control with
  | frame same => rw [same.receipts]; exact member
  | command stores => rw [stores.after]; exact member
  | decision decides => rw [decides.after]; exact member
  | expiry expires => rw [expires.after]; exact member
  | lease leases => rw [leases.grants.after]; exact member
  | receipt records => rw [records.after]; exact List.mem_append_left _ member
  | verification verifies => rw [verifies.after]; exact member

/-- No observation is ever removed. -/
theorem Change.keeps_observations (changed : Change env db db') :
    ∀ observation ∈ db.observations, observation ∈ db'.observations := by
  intro observation member
  cases changed with
  | desiredState stores => rw [stores.after]; exact member
  | observation stores => rw [stores.after]; exact List.mem_append_left _ member
  | releaseManifest stores => rw [stores.after]; exact member
  | secretReference stores => rw [stores.after]; exact member
  | command stores => rw [stores.after]; exact member
  | decision decides => rw [decides.after]; exact member
  | expiry expires => rw [expires.after]; exact member
  | lease leases => rw [leases.grants.after]; exact member
  | receipt records => rw [records.after]; exact member
  | verification verifies => rw [verifies.after]; exact member
  | outbox change after => rw [after]; exact member

/-- The latest attempt of a command that does not wait in the queue stays the latest. -/
theorem Change.keeps_nextAttempt (changed : Change env db db') (sound : db.Sound)
    {command : CommandRow} (member : command ∈ db.commands)
    (started : command.state ≠ .queued) :
    db'.nextAttempt command.id = db.nextAttempt command.id := by
  rcases changed.attemptNumbers_cases command.id with same | ⟨other, otherMem, same, queued⟩
  · exact Db.nextAttempt_of_numbers same
  · obtain rfl := sound.commands.eq_of_key_eq otherMem member same
    exact absurd queued started

/-- A candidate stays one while its row does not change. -/
theorem Db.Candidate.change {verification : VerificationRow}
    (candidate : db.Candidate verification) (fenced : db.Fenced) (sound : db.Sound)
    (changed : Change env db db') : db'.Candidate verification := by
  obtain ⟨⟨command, member, receipt, receiptMem, joins⟩, latest⟩ := candidate
  obtain ⟨new, newMem, follows⟩ := (fenced.advances sound changed).later command member
  obtain ⟨judged, verdict⟩ := isJudged_of_follows follows.state joins.judged
  have started : command.state ≠ .queued := by
    intro queued
    have judgedBefore := joins.judged
    rw [queued] at judgedBefore
    cases judgedBefore
  refine ⟨⟨new, newMem, receipt, changed.keeps_receipts receipt receiptMem,
    { joins with
      command_id := follows.id.trans joins.command_id
      deployment := follows.deployment.trans joins.deployment
      judged := judged
      pending := fun waits => joins.pending (verdict waits) }⟩, ?_⟩
  rw [← joins.command_id, changed.keeps_nextAttempt sound member started, joins.command_id]
  exact latest

/-- A candidate receipt opens a candidate. -/
theorem RecordsReceipt.candidate {input : ReceiptInput} {held : HeldLease} {eventType : String}
    (records : RecordsReceipt env input held eventType db db') (latest : db.LatestHeld)
    (isCandidate : input.state = .completionCandidate) :
    db'.Candidate (input.verificationRow held.command) := by
  have joined := Db.holds_of_heldLease? records.heldBy.joined
  refine ⟨⟨held.command.afterReceipt env.now input.state input.completedAt, ?_,
    input.row env.now held.command.deploymentId, ?_, ?_⟩, ?_⟩
  · rw [records.after]
    exact mem_updateWhere.mpr
      (.inl ⟨held.command, joined.command_mem, decide_eq_true joined.command_id, rfl⟩)
  · rw [records.after]
    exact List.mem_append_right _ List.mem_cons_self
  · refine ⟨joined.command_id, rfl, ?_, rfl, rfl, rfl, isCandidate, fun _ => ⟨rfl, rfl⟩⟩
    simp only [CommandRow.afterReceipt, isCandidate]
    rfl
  · have number := latest held.lease joined.lease_mem records.heldBy.active
    rw [joined.lease_command, joined.lease_attempt] at number
    refine Eq.trans (Db.nextAttempt_of_numbers ?_) number
    exact Db.attemptNumbers_update
      (fun other => other.commandId = input.commandId && other.attempt = input.attempt)
      (fun other => other.afterReceipt env.now input) (by rw [records.after]; rfl)
      (fun _ => ⟨rfl, rfl⟩) input.commandId

/-- After a verdict the command no longer waits for one. -/
theorem VerifiesCommand.not_verifying {input : VerificationInput} {current : OpenVerification}
    {observation : ObservationRow} (verifies : VerifiesCommand env input current observation db db')
    {command : CommandRow} (member : command ∈ db'.commands)
    (own : command.id = input.commandId) : command.state ≠ .verifying := by
  rw [verifies.after] at member
  rcases mem_updateWhere.mp member with ⟨old, -, -, rfl⟩ | ⟨-, skipped⟩
  · show input.finalCommandState ≠ .verifying
    unfold VerificationInput.finalCommandState
    split <;> decide
  · exact absurd own (of_decide_eq_false skipped)

/-- Every change keeps the candidates. -/
theorem Db.Candidates.change (candidates : db.Candidates) (latest : db.LatestHeld)
    (fenced : db.Fenced) (sound : db.Sound) (changed : Change env db db') :
    db'.Candidates := by
  have kept : ∀ verification ∈ db.verifications, db'.Candidate verification :=
    fun verification member => (candidates verification member).change fenced sound changed
  intro verification member
  cases changed.control with
  | frame same => exact kept verification (same.verifications ▸ member)
  | command stores => exact kept verification (by rw [stores.after] at member; exact member)
  | decision decides => exact kept verification (by rw [decides.after] at member; exact member)
  | expiry expires => exact kept verification (by rw [expires.after] at member; exact member)
  | lease leases =>
      exact kept verification (by rw [leases.grants.after] at member; exact member)
  | @receipt input held eventType records =>
      have stored : verification ∈ input.verifications held.command db.verifications := by
        rw [records.after] at member
        exact member
      unfold ReceiptInput.verifications at stored
      split at stored
      · rename_i isCandidate
        rcases List.mem_append.mp stored with old | new
        · exact kept verification old
        · rw [List.mem_singleton.mp new]
          exact records.candidate latest isCandidate
      · exact kept verification stored
  | @verification input current observation verifies =>
      have stored : verification ∈
          updateWhere (fun row => row.id = input.id) (input.settle observation)
            db.verifications := by
        rw [verifies.after] at member
        exact member
      rcases mem_updateWhere.mp stored with ⟨old, oldMem, chosen, rfl⟩ | ⟨old, -⟩
      · obtain ⟨⟨command, commandMem, receipt, receiptMem, joins⟩, number⟩ := kept old oldMem
        have awaits := Db.awaits_of_openVerification? verifies.joined
        -- The settled row is the joined one, so its command has its verdict.
        have one := sound.verifications.eq_of_key_eq oldMem awaits.verification_mem
          ((of_decide_eq_true chosen).trans verifies.id_eq.symm)
        refine ⟨⟨command, commandMem, receipt, receiptMem,
          { joins with pending := fun waits => ?_ }⟩, number⟩
        exfalso
        have own : command.id = input.commandId := by
          rw [joins.command_id]
          exact (congrArg VerificationRow.commandId one).trans awaits.verification_command
        exact verifies.not_verifying commandMem own waits
      · exact kept verification old

end Candidates

/-! ### Success -/

/-- The evidence of a success that the tables hold: the verification of the latest attempt,
its candidate receipt, and the observation that it is bound to. -/
structure Db.Proves (db : Db) (command : CommandRow) (verification : VerificationRow)
    (receipt : ReceiptRow) (observation : ObservationRow) : Prop where
  verification_mem : verification ∈ db.verifications
  verification_command : verification.commandId = command.id
  latest : db.nextAttempt command.id = verification.attempt + 1
  verified : verification.status = .verified
  receipt_mem : receipt ∈ db.receipts
  receipt_id : receipt.id = verification.receiptId
  receipt_command : receipt.commandId = command.id
  receipt_attempt : receipt.attempt = verification.attempt
  candidate : receipt.state = .completionCandidate
  observation_mem : observation ∈ db.observations
  bound : verification.observationId = some observation.id
  deployment : observation.deploymentId = command.deploymentId
  healthy : observation.status = .healthy
  fresh : observation.freshness = .fresh
  version : receipt.observationVersion = some observation.version
  newer : command.expectedObservationVersion < observation.version
  receipt_refs : receipt.evidenceRefs ≠ []
  observation_refs : observation.evidenceRefs ≠ []
  verification_refs : verification.evidenceRefs ≠ []

/-- The call verified an attempt of the command, against an observation of the version that
its deployment then desired. -/
def Verifies (transition : Transition Db Call) (command : CommandRow)
    (verification : VerificationRow) (observation : ObservationRow) : Prop :=
  (∃ input, transition.label.request = .verifyCommand input ∧ input.commandId = command.id ∧
      input.attempt = verification.attempt ∧ input.status = .verified ∧
      input.observationId = observation.id) ∧
    ∃ deployment ∈ transition.before.deployments, deployment.id = command.deploymentId ∧
      observation.desiredStateVersion = deployment.desiredStateVersion

/-- A command that succeeded afterwards had succeeded before. -/
def Db.AddsNoSuccess (db db' : Db) : Prop :=
  ∀ new ∈ db'.commands, new.state = .succeeded →
    ∃ old ∈ db.commands, old.id = new.id ∧ old.state = .succeeded

theorem Db.AddsNoSuccess.of_eq {db db' : Db} (same : db'.commands = db.commands) : db.AddsNoSuccess db' :=
  fun new member succeeded => ⟨new, same ▸ member, rfl, succeeded⟩

theorem Db.AddsNoSuccess.trans {first second third : Db} (before : first.AddsNoSuccess second)
    (after : second.AddsNoSuccess third) : first.AddsNoSuccess third := by
  intro new member succeeded
  obtain ⟨middle, middleMem, middleId, middleState⟩ := after new member succeeded
  obtain ⟨old, oldMem, oldId, oldState⟩ := before middle middleMem middleState
  exact ⟨old, oldMem, oldId.trans middleId, oldState⟩

/-- An update of commands whose changed rows have not succeeded. -/
theorem Db.AddsNoSuccess.of_update {db db' : Db} {selected : CommandRow → Bool}
    {change : CommandRow → CommandRow}
    (updated : db'.commands = updateWhere selected change db.commands)
    (unfinished : ∀ row, (change row).state ≠ .succeeded) : db.AddsNoSuccess db' := by
  intro new member succeeded
  rw [updated] at member
  rcases mem_updateWhere.mp member with ⟨old, -, -, rfl⟩ | ⟨old, -⟩
  · exact absurd succeeded (unfinished old)
  · exact ⟨new, old, rfl, succeeded⟩

/-- Chains of steps that add no success add none. -/
theorem Db.AddsNoSuccess.of_chain {db db' : Db} {Step : Db → Db → Prop}
    (step : ∀ before after, Step before after → before.AddsNoSuccess after)
    (chain : ReflTransGen Step db db') : db.AddsNoSuccess db' :=
  keeps_of_chain (fun other => db.AddsNoSuccess other)
    (fun before after sofar taken => sofar.trans (step before after taken)) chain
    (.of_eq rfl)

/-- No accepted receipt means success. -/
theorem authorityState_ne_succeeded {state : CommandState} {receipt : ReceiptState}
    (allowed : receipt ∈ receiptTransitions state) : receipt.authorityState ≠ .succeeded := by
  revert allowed
  cases state <;> cases receipt <;> decide

section Success

variable [Host] {env : Env} {db db' : Db}

/-- The row of a verification with a verdict does not change. -/
theorem Change.keeps_verified (changed : Change env db db') (sound : db.Sound)
    {verification : VerificationRow} (member : verification ∈ db.verifications)
    (verified : verification.status = .verified) : verification ∈ db'.verifications := by
  cases changed.control with
  | frame same => rw [same.verifications]; exact member
  | command stores => rw [stores.after]; exact member
  | decision decides => rw [decides.after]; exact member
  | expiry expires => rw [expires.after]; exact member
  | lease leases => rw [leases.grants.after]; exact member
  | @receipt input held eventType records =>
      rw [records.after]
      show verification ∈ input.verifications held.command db.verifications
      unfold ReceiptInput.verifications
      split
      · exact List.mem_append_left _ member
      · exact member
  | @verification input current observation verifies =>
      have awaits := Db.awaits_of_openVerification? verifies.joined
      rw [verifies.after]
      refine mem_updateWhere.mpr (.inr ⟨member, decide_eq_false fun same => ?_⟩)
      have one := sound.verifications.eq_of_key_eq member awaits.verification_mem
        (same.trans verifies.id_eq.symm)
      rw [one, verifies.unsettled] at verified
      cases verified

/-- The evidence of a success outlasts every change. -/
theorem Db.Proves.change {command : CommandRow} {verification : VerificationRow}
    {receipt : ReceiptRow} {observation : ObservationRow}
    (proves : db.Proves command verification receipt observation) (fenced : db.Fenced)
    (sound : db.Sound) (changed : Change env db db') (member : command ∈ db.commands)
    (succeeded : command.state = .succeeded) :
    ∃ new ∈ db'.commands, new.id = command.id ∧ new.deploymentId = command.deploymentId ∧
      new.state = .succeeded ∧ db'.Proves new verification receipt observation := by
  obtain ⟨new, newMem, follows⟩ := (fenced.advances sound changed).later command member
  have state : new.state = .succeeded := by
    rcases follows.state with same | next
    · exact same.trans succeeded
    · rw [succeeded] at next
      cases next
  have started : command.state ≠ .queued := by rw [succeeded]; decide
  refine ⟨new, newMem, follows.id, follows.deployment, state,
    { proves with
      verification_mem := changed.keeps_verified sound proves.verification_mem proves.verified
      verification_command := proves.verification_command.trans follows.id.symm
      latest := ?_
      receipt_mem := changed.keeps_receipts receipt proves.receipt_mem
      receipt_command := proves.receipt_command.trans follows.id.symm
      observation_mem := changed.keeps_observations observation proves.observation_mem
      deployment := proves.deployment.trans follows.deployment.symm
      newer := ?_ }⟩
  · rw [follows.id, changed.keeps_nextAttempt sound member started]
    exact proves.latest
  · rw [follows.expected]
    exact proves.newer

/-- A verdict of success leaves its evidence in the tables. -/
theorem VerifiesCommand.proves {input : VerificationInput} {current : OpenVerification}
    {observation : ObservationRow} (verifies : VerifiesCommand env input current observation db db')
    (candidates : db.Candidates) (sound : db.Sound) (verified : input.status = .verified) :
    ∃ verification receipt deployment,
      db'.Proves (input.finalize current.command) verification receipt observation ∧
        verification.attempt = input.attempt ∧ observation.id = input.observationId ∧
        deployment ∈ db.deployments ∧ deployment.id = current.command.deploymentId ∧
        observation.desiredStateVersion = deployment.desiredStateVersion := by
  have evidence := verifies.evidence verified
  have awaits := Db.awaits_of_openVerification? verifies.joined
  obtain ⟨⟨command, commandMem, receipt, receiptMem, joins⟩, latest⟩ :=
    candidates current.verification awaits.verification_mem
  obtain rfl := sound.commands.eq_of_key_eq commandMem awaits.command_mem
    (joins.command_id.trans (awaits.verification_command.trans awaits.command_id.symm))
  obtain ⟨sameVersion, sameRefs⟩ := joins.pending verifies.verifying
  have observed := List.find?_some verifies.observed
  simp only [Bool.and_eq_true, decide_eq_true_eq] at observed
  -- The version of the candidate is that of an observation newer than the precondition.
  have version : current.verification.observationVersion = some observation.version := by
    have same := evidence.version
    have newer := evidence.newer
    cases bound : current.verification.observationVersion with
    | none =>
        rw [bound] at same
        simp at same
        omega
    | some number =>
        rw [bound] at same
        rw [same]
        rfl
  refine ⟨input.settle observation current.verification, receipt, current.deployment.deployment,
    { verification_mem := ?_
      verification_command := joins.command_id.symm
      latest := ?_
      verified := verified
      receipt_mem := ?_
      receipt_id := joins.receipt_id
      receipt_command := joins.receipt_command.trans joins.command_id.symm
      receipt_attempt := joins.receipt_attempt
      candidate := joins.receipt_state
      observation_mem := ?_
      bound := congrArg some observed.1.symm
      deployment := observed.2.trans joins.deployment.symm
      healthy := evidence.healthy
      fresh := evidence.fresh
      version := sameVersion.trans version
      newer := evidence.newer
      receipt_refs := by rw [sameRefs]; exact evidence.receipt_refs
      observation_refs := evidence.observation_refs
      verification_refs := evidence.verification_refs },
    awaits.verification_attempt, observed.1, awaits.deployment_mem,
    awaits.deployment_id.trans joins.deployment.symm, evidence.desired⟩
  · rw [verifies.after]
    exact mem_updateWhere.mpr
      (.inl ⟨current.verification, awaits.verification_mem, decide_eq_true verifies.id_eq, rfl⟩)
  · rw [verifies.after]
    show db.nextAttempt current.command.id = _
    rw [joins.command_id]
    exact latest
  · rw [verifies.after]
    exact receiptMem
  · rw [verifies.after]
    exact List.mem_of_find?_eq_some verifies.observed

/-- The evidence of a success outlasts every chain of changes. -/
theorem Db.Proves.chain {command : CommandRow} {verification : VerificationRow}
    {receipt : ReceiptRow} {observation : ObservationRow}
    (proves : db.Proves command verification receipt observation) (fenced : db.Fenced)
    (sound : db.Sound) (changes : ReflTransGen (Change env) db db')
    (member : command ∈ db.commands) (succeeded : command.state = .succeeded) :
    ∃ new ∈ db'.commands, new.id = command.id ∧ new.deploymentId = command.deploymentId ∧
      db'.Proves new verification receipt observation := by
  have kept := sound.keeps changes
    (fun db => db.Fenced ∧ ∃ new ∈ db.commands, new.id = command.id ∧
      new.deploymentId = command.deploymentId ∧ new.state = .succeeded ∧
      db.Proves new verification receipt observation)
    (fun before after sound both changed => ?_)
    ⟨fenced, command, member, rfl, rfl, succeeded, proves⟩
  · obtain ⟨-, new, newMem, id, deployment, -, proves⟩ := kept
    exact ⟨new, newMem, id, deployment, proves⟩
  · obtain ⟨fenced, old, oldMem, id, deployment, succeeded, proves⟩ := both
    obtain ⟨new, newMem, newId, newDeployment, state, proves⟩ :=
      proves.change fenced sound changed oldMem succeeded
    exact ⟨fenced.change sound changed, new, newMem, newId.trans id,
      newDeployment.trans deployment, state, proves⟩

theorem ExpiresLease.addsNoSuccess {index : Nat} {row : ExpiredLease}
    (expires : ExpiresLease env index row db db') : db.AddsNoSuccess db' := by
  refine .of_update (by rw [expires.after]; rfl) fun command => ?_
  unfold CommandRow.afterLeaseExpiry
  intro succeeded
  split at succeeded <;> cases succeeded

theorem LeasesCommand.addsNoSuccess {input : LeaseInput} {index : Nat} {row : LeasableCommand}
    {lease : LeaseRow} (leases : LeasesCommand env input index row lease db db') :
    db.AddsNoSuccess db' := by
  refine .of_update (by rw [leases.grants.after]; rfl) fun command => ?_
  intro succeeded
  cases succeeded

theorem RecordsReceipt.addsNoSuccess {input : ReceiptInput} {held : HeldLease}
    {eventType : String} (records : RecordsReceipt env input held eventType db db') :
    db.AddsNoSuccess db' :=
  .of_update (by rw [records.after]; rfl) fun _ => authorityState_ne_succeeded records.transition

theorem DecidesApproval.addsNoSuccess {input : ApprovalDecisionInput}
    {current : JoinedApproval} (decides : DecidesApproval env input current db db') :
    db.AddsNoSuccess db' := by
  by_cases rejected : input.decision = .rejected
  · refine .of_update
      (by rw [decides.after]; simp only [ApprovalDecisionInput.commands, if_pos rejected]; rfl)
      fun command => ?_
    intro succeeded
    cases succeeded
  · refine .of_eq ?_
    rw [decides.after]
    simp only [ApprovalDecisionInput.commands, if_neg rejected]

theorem StoresCommand.addsNoSuccess {input : CommandInput} {deployment : DeploymentRow}
    (stores : StoresCommand env input deployment db db') : db.AddsNoSuccess db' := by
  intro new member succeeded
  rw [stores.after] at member
  rcases List.mem_append.mp member with old | isNew
  · exact ⟨new, old, rfl, succeeded⟩
  · rw [List.mem_singleton.mp isNew] at succeeded
    cases succeeded

/-- Only a verification makes a command succeed. -/
theorem AuthorityRequest.CarriesOut.addsNoSuccess {request : AuthorityRequest}
    (carriesOut : request.CarriesOut env db db')
    (other : ∀ input, request ≠ .verifyCommand input) : db.AddsNoSuccess db' := by
  have expiry : ∀ before after, ExpiresOne env before after → before.AddsNoSuccess after :=
    fun _ _ ⟨_, _, expires⟩ => expires.addsNoSuccess
  cases request with
  | createDesiredState input =>
      obtain ⟨deployment, row, stores⟩ := carriesOut
      exact .of_eq (by rw [stores.after])
  | recordObservation input =>
      obtain ⟨deployment, row, stores⟩ := carriesOut
      exact .of_eq (by rw [stores.after])
  | createReleaseManifest input =>
      obtain ⟨row, stores⟩ := carriesOut
      exact .of_eq (by rw [stores.after])
  | registerSecretReference input =>
      obtain ⟨row, stores⟩ := carriesOut
      exact .of_eq (by rw [stores.after])
  | createCommand input =>
      obtain ⟨deployment, stores⟩ := carriesOut
      exact stores.addsNoSuccess
  | decideApproval input =>
      obtain ⟨current, decides⟩ := carriesOut
      exact decides.addsNoSuccess
  | expireLeases => exact .of_chain expiry carriesOut
  | leaseCommands input =>
      obtain ⟨middle, expiries, grants⟩ := carriesOut
      refine (Db.AddsNoSuccess.of_chain expiry expiries).trans (.of_chain ?_ grants)
      intro before after ⟨index, row, lease, leases⟩
      exact leases.addsNoSuccess
  | recordReceipt input =>
      obtain ⟨held, eventType, records⟩ := carriesOut
      exact records.addsNoSuccess
  | verifyCommand input => exact absurd rfl (other input)
  | leaseOutbox input =>
      refine .of_chain ?_ carriesOut
      intro before after ⟨change, after⟩
      exact .of_eq (by rw [after])
  | settleOutbox input => exact .of_eq (by rw [carriesOut.2])

end Success

/-- The active leases of a reachable state belong to the latest attempts. -/
theorem authority_latestHeld [Host] {db : Db} (reachable : Reachable controlAuthority db) :
    db.LatestHeld := by
  refine authority_invariant reachable Db.LatestHeld (fun db blank => ?_)
    fun _ _ _ _ latest changed => latest.change changed
  intro lease member
  rw [blank.leases] at member
  cases member

/-- The verifications of a reachable state are those of candidates. -/
theorem authority_candidates [Host] {db : Db} (reachable : Reachable controlAuthority db) :
    db.Candidates := by
  refine (authority_invariant reachable (fun db => db.Candidates ∧ db.LatestHeld ∧ db.Fenced)
    (fun db blank => ⟨?_, ?_, ?_⟩) ?_).1
  · intro verification member
    rw [blank.verifications] at member
    cases member
  · intro lease member
    rw [blank.leases] at member
    cases member
  · exact blank.fenced
  · intro env before after sound ⟨candidates, latest, fenced⟩ changed
    exact ⟨candidates.change latest fenced sound changed, latest.change changed,
      fenced.change sound changed⟩

/-- A command that succeeded has its evidence in the tables, and the history has the call
that verified it. -/
def Evident (history : List (Transition Db Call)) (db : Db) : Prop :=
  ∀ command ∈ db.commands, command.state = .succeeded →
    ∃ verification receipt observation, db.Proves command verification receipt observation ∧
      ∃ transition ∈ history, Verifies transition command verification observation

/-- A call after which every success was one before keeps the evidence. -/
theorem Evident.kept [Host] {history : List (Transition Db Call)} {before after : Db}
    {call : Call} (evident : Evident history before) (fenced : before.Fenced)
    (sound : before.Sound) (changes : ReflTransGen (Change call.env) before after)
    {command : CommandRow} (member : command ∈ after.commands)
    {old : CommandRow} (oldMem : old ∈ before.commands) (sameId : old.id = command.id)
    (succeeded : old.state = .succeeded) :
    ∃ verification receipt observation, after.Proves command verification receipt observation ∧
      ∃ transition ∈ (⟨before, call, after⟩ : Transition Db Call) :: history,
        Verifies transition command verification observation := by
  obtain ⟨verification, receipt, observation, proves, transition, past, verifies⟩ :=
    evident old oldMem succeeded
  obtain ⟨new, newMem, newId, deployment, proves⟩ :=
    proves.chain fenced sound changes oldMem succeeded
  obtain rfl := (sound.chain changes).commands.eq_of_key_eq newMem member (newId.trans sameId)
  obtain ⟨⟨input, request, own, verdict⟩, desired⟩ := verifies
  refine ⟨verification, receipt, observation, proves, transition,
    List.mem_cons_of_mem _ past, ⟨input, request, own.trans sameId, verdict⟩, ?_⟩
  rw [deployment]
  exact desired

/-- A verdict leaves every success evident. -/
theorem Evident.verify [Host] {history : List (Transition Db Call)} {before after : Db}
    {call : Call} {input : VerificationInput} {current : OpenVerification}
    {observation : ObservationRow} (evident : Evident history before)
    (reachable : Reachable controlAuthority before)
    (request : call.request = .verifyCommand input)
    (verifies : VerifiesCommand call.env input current observation before after) :
    Evident (⟨before, call, after⟩ :: history) after := by
  have sound := authority_sound reachable
  intro command member succeeded
  have stored := member
  rw [verifies.after] at stored
  rcases mem_updateWhere.mp stored with ⟨old, oldMem, chosen, rfl⟩ | ⟨oldMem, -⟩
  · have awaits := Db.awaits_of_openVerification? verifies.joined
    obtain rfl := sound.commands.eq_of_key_eq oldMem awaits.command_mem
      ((of_decide_eq_true chosen).trans awaits.command_id.symm)
    have verified : input.status = .verified := by
      have final : input.finalCommandState = .succeeded := succeeded
      unfold VerificationInput.finalCommandState at final
      split at final
      · assumption
      · cases final
    obtain ⟨verification, receipt, deployment, proves, attempt, bound, deploymentMem, own,
      desired⟩ := verifies.proves (authority_candidates reachable) sound verified
    exact ⟨verification, receipt, observation, proves, _, List.mem_cons_self,
      ⟨input, request, awaits.command_id.symm, attempt.symm, verified, bound.symm⟩,
      deployment, deploymentMem, own, desired⟩
  · exact evident.kept (authority_fenced reachable) sound (.single (.verification verifies))
      member oldMem rfl succeeded

/-- Every success of every run is evident. -/
theorem evident_of_run [Host] {history : List (Transition Db Call)} {db : Db}
    (run : Run controlAuthority history db) : Evident history db := by
  refine run.history_invariant Evident (fun db blank => ?_) ?_
  · intro command member
    rw [blank.commands] at member
    cases member
  · intro history before call after run evident taken
    have reachable := run.reachable
    have sound := authority_sound reachable
    have fenced := authority_fenced reachable
    rcases Call.step_cases sound taken with rfl | carriesOut
    · intro command member succeeded
      exact evident.kept fenced sound .refl member member rfl succeeded
    · by_cases verdict : ∃ input, call.request = .verifyCommand input
      · obtain ⟨input, request⟩ := verdict
        rw [request] at carriesOut
        obtain ⟨current, observation, verifies⟩ := carriesOut
        exact evident.verify reachable request verifies
      · intro command member succeeded
        obtain ⟨old, oldMem, sameId, oldState⟩ :=
          carriesOut.addsNoSuccess (fun input same => verdict ⟨input, same⟩)
            command member succeeded
        exact evident.kept fenced sound carriesOut.chain member oldMem sameId oldState

/-- Receipts alone make no command succeed. -/
theorem receipts_add_no_success [Host] {db db' : Db} (reachable : Reachable controlAuthority db)
    (leads : controlAuthority.Leads
      (fun call => ∃ input, call.request = .recordReceipt input) db db') :
    db.AddsNoSuccess db' := by
  refine (leads.keeps (fun other => other.Sound ∧ db.AddsNoSuccess other) ?_
    ⟨authority_sound reachable, .of_eq rfl⟩).2
  intro before call after ⟨sound, sofar⟩ ⟨input, request⟩ taken
  refine ⟨sound.chain (Call.chain sound taken), sofar.trans ?_⟩
  rcases Call.step_cases sound taken with rfl | carriesOut
  · exact .of_eq rfl
  · refine carriesOut.addsNoSuccess fun other same => ?_
    rw [request] at same
    cases same

/-- A command succeeds only on evidence: the tables hold the verification of its latest
attempt with the candidate receipt and the observation it is bound to, and some call verified
it against the desired state of that moment. Receipts alone make no command succeed, and no
sequence of calls leads out of a terminal state. -/
theorem success_needs_evidence [Host] {history : List (Transition Db Call)} {db : Db}
    (run : Run controlAuthority history db) :
    Evident history db ∧
      (∀ db', controlAuthority.Leads
          (fun call => ∃ input, call.request = .recordReceipt input) db db' →
        db.AddsNoSuccess db') ∧
      ∀ db' command state, controlAuthority.Leads (fun _ => True) db db' →
        CommandState.isTerminal state = true → db.CommandIs command state →
        db'.CommandIs command state :=
  ⟨evident_of_run run, fun _ leads => receipts_add_no_success run.reachable leads,
    fun _ _ _ leads terminal ended => terminal_absorbing run.reachable leads terminal ended⟩

section Sample

attribute [local instance] Host.posix

/-- A command that ran to its end and was verified succeeded, with its evidence. -/
theorem success_sample :
    (sampleDb.execute sampleVerifying).2.commands.map CommandRow.state = [.succeeded] ∧
      Evident (sampleDb.execute sampleVerifying).1 (sampleDb.execute sampleVerifying).2 := by
  refine ⟨?_, (success_needs_evidence (execute_run sampleDb_blank _)).1⟩
  rw [sampleVerifying, Db.execute_snoc]
  exact sampleVerifying_reaches.2.2.2

end Sample

end BairuiPlatform
