/-
Module: BairuiPlatform.Authority.Outbox
Purpose: The publishing side of the control outbox in ControlAuthorityRepository.
Trusted boundary: none
Main exports: leaseOutbox, settleOutbox
-/
import BairuiPlatform.Authority.Commands

namespace BairuiPlatform

open Foundations

/-! ### Leases of outbox entries -/

/-- The argument of `leaseOutbox`. -/
structure OutboxLeaseInput where
  limit : Option Nat
  leaseSeconds : Option Nat

/-- `Math.max(1, Math.min(limit ?? 100, 500))`. -/
def OutboxLeaseInput.boundedLimit (input : OutboxLeaseInput) : Nat :=
  max 1 (min (input.limit.getD 100) 500)

/-- `Math.max(15, Math.min(leaseSeconds ?? 60, 300))`. -/
def OutboxLeaseInput.boundedSeconds (input : OutboxLeaseInput) : Nat :=
  max 15 (min (input.leaseSeconds.getD 60) 300)

/-- The entry is held under a lease that has run out. -/
def OutboxRow.lapsed (row : OutboxRow) (now : Nat) : Bool :=
  row.state = .processing && row.leaseExpiresAt.any (· ≤ now)

/-- An entry whose publisher lost its lease. -/
def OutboxRow.released (row : OutboxRow) (now : Nat) : OutboxRow :=
  { row with
    state := .retry
    leaseTokenHash := none
    leaseExpiresAt := none
    availableAt := now
    lastErrorCode := some "publisher_lease_expired" }

/-- The filter of `leaseOutbox`. -/
def OutboxRow.ready (row : OutboxRow) (now : Nat) : Bool :=
  (row.state = .pending || row.state = .retry) && row.availableAt ≤ now &&
    row.attempts < row.maxAttempts

/-- `ORDER BY available_at, created_at`. -/
def OutboxRow.le (first second : OutboxRow) : Prop :=
  first.availableAt < second.availableAt ∨
    (first.availableAt = second.availableAt ∧ first.createdAt ≤ second.createdAt)

instance : DecidableRel OutboxRow.le := fun first second =>
  inferInstanceAs (Decidable (first.availableAt < second.availableAt ∨
    (first.availableAt = second.availableAt ∧ first.createdAt ≤ second.createdAt)))

/-- The rows that `leaseOutbox` selects. -/
def Db.readyOutbox (db : Db) (now : Nat) (input : OutboxLeaseInput) : List OutboxRow :=
  ((db.journal.outbox.filter fun row => row.ready now).insertionSort OutboxRow.le).take
    input.boundedLimit

/-- An entry under a new lease. -/
def OutboxRow.held (row : OutboxRow) (tokenHash : String) (leaseExpiresAt : Nat) : OutboxRow :=
  { row with
    state := .processing
    attempts := row.attempts + 1
    leaseTokenHash := some tokenHash
    leaseExpiresAt := some leaseExpiresAt }

/-- `UPDATE control_outbox` of one entry. -/
def updateOutbox (id : String) (change : OutboxRow → OutboxRow) : Callback (Option OutboxRow) := do
  Tx.write fun db =>
    { db with journal.outbox := updateWhere (fun row => row.id = id) change db.journal.outbox }
  Tx.read fun db => db.journal.outbox.find? fun row => row.id = id

/-- What `leaseOutbox` returns for an entry. -/
structure LeasedOutbox where
  row : Option OutboxRow
  leaseToken : String

/-- One iteration of `leaseOutbox`. -/
def leaseOutboxOne (env : Env) (input : OutboxLeaseInput) (index : Nat)
    (row : OutboxRow) : Callback LeasedOutbox := do
  let leaseToken := "ref:outbox-token:" ++ (env.grants index).token.text
  let leaseExpiresAt := ofMillis (dateNow env.now + input.boundedSeconds * 1000)
  let updated ← updateOutbox row.id fun other =>
    other.held (hashToken leaseToken) leaseExpiresAt
  return { row := updated, leaseToken := leaseToken }

/-- `leaseOutbox`. -/
def leaseOutbox (env : Env) (input : OutboxLeaseInput) :
    Callback (List LeasedOutbox) := do
  Tx.write fun db =>
    { db with
      journal.outbox := updateWhere (fun row => row.lapsed env.now)
        (fun row => row.released env.now) db.journal.outbox }
  let rows ← Tx.read fun db => db.readyOutbox env.now input
  Tx.forEach 0 rows (leaseOutboxOne env input)

/-! ### Settlement -/

/-- `outcome` of a settlement. -/
inductive OutboxOutcome where
  | published | retry
deriving Repr, DecidableEq

/-- The argument of `settleOutbox`. -/
structure OutboxSettlement where
  id : String
  leaseToken : String
  outcome : OutboxOutcome
  errorCode : Option String
  errorSummary : Option String
  retryDelaySeconds : Nat

/-- `errorCode ?? "outbox_delivery_failed"`. -/
def OutboxSettlement.code (input : OutboxSettlement) : String :=
  input.errorCode.getD "outbox_delivery_failed"

/-- `redactedError`. -/
def OutboxSettlement.redactedError (input : OutboxSettlement) : String :=
  match input.errorSummary with
  | some summary => ((redactControlMetadata 0 (.str summary)).1.text?).getD ""
  | none => "Outbox delivery failed"

/-- `Math.max(1, Math.min(retryDelaySeconds, 3600))`. -/
def OutboxSettlement.boundedDelay (input : OutboxSettlement) : Nat :=
  max 1 (min input.retryDelaySeconds 3600)

/-- An entry that was published. -/
def OutboxRow.publish (row : OutboxRow) (now : Nat) : OutboxRow :=
  { row with
    state := .published
    publishedAt := some now
    leaseTokenHash := none
    leaseExpiresAt := none
    lastErrorCode := none }

/-- An entry that ran out of attempts. -/
def OutboxRow.abandon (row : OutboxRow) (code : String) : OutboxRow :=
  { row with
    state := .deadLetter
    leaseTokenHash := none
    leaseExpiresAt := none
    lastErrorCode := some code }

/-- An entry that is to be tried again. -/
def OutboxRow.postpone (row : OutboxRow) (availableAt : Nat) (code : String) : OutboxRow :=
  { row with
    state := .retry
    availableAt := availableAt
    leaseTokenHash := none
    leaseExpiresAt := none
    lastErrorCode := some code }

/-- The dead letter of an entry. -/
def OutboxSettlement.deadLetter (input : OutboxSettlement) (id : Uuid) (row : OutboxRow) :
    DeadLetterRow :=
  { id := id.text
    outboxId := row.id
    organizationId := row.organizationId
    deploymentId := row.deploymentId
    eventType := row.eventType
    body := row.body
    errorCode := input.code
    errorSummary := input.redactedError }

/-- `INSERT INTO control_dead_letters`. -/
def insertDeadLetter [Host] (row : DeadLetterRow) : Callback Unit :=
  Tx.insert
    (fun db =>
      [(bairuiControlJsonIsSafe row.body, .violation "control_dead_letters_safe_payload"),
        (!found (fun other => other.id = row.id) db.journal.deadLetters,
          .violation "control_dead_letters_pkey")])
    (fun db => { db with journal.deadLetters := db.journal.deadLetters ++ [row] })

/-- `settleOutbox`. -/
def settleOutbox [Host] (env : Env) (input : OutboxSettlement) :
    Callback (Option OutboxRow) := do
  let candidate ← Tx.read fun db =>
    (db.journal.outbox.find? fun row => row.id = input.id).filter fun row =>
      row.state = .processing && row.leaseTokenHash = some (hashToken input.leaseToken)
  let current ← Tx.orRaise
    (.control (controlError "lease_not_found" "Outbox lease was not found" 404)) candidate
  -- `Date.parse(null)` is not a number, and no comparison with it holds.
  ensure (∀ column ∈ current.leaseExpiresAt, dateNow env.now < dateParseColumn column)
    "lease_expired" "Outbox lease has expired" 409
  if input.outcome = .published then
    updateOutbox input.id fun row => row.publish env.now
  else if current.maxAttempts ≤ current.attempts then do
    insertDeadLetter (input.deadLetter env.entropy.row current)
    updateOutbox input.id fun row => row.abandon input.code
  else
    updateOutbox input.id fun row =>
      row.postpone (env.now + input.boundedDelay * 1000000) input.code

end BairuiPlatform
