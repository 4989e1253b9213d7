/-
Module: BairuiPlatform.Authority.Execution
Purpose: Sequences of calls as runs of the authority, and a small installation to
  execute them on.
Trusted boundary: none
Main exports: Db.execute, execute_run, Uuid.numbered, Env.numbered, sampleDb,
  sampleEnvelope, sampleCommand, sampleLease, sampleReceipt, callAt,
  sampleLeasing_reaches, sampleVerifying_reaches
-/
import BairuiPlatform.Authority.System
import BairuiPlatform.Authority.Novelty

namespace BairuiPlatform

open Foundations

/-! ### Sequences of calls -/

/-- The history and the tables after a sequence of calls. -/
def Db.execute [Host] (db : Db) (calls : List Call) : List (Transition Db Call) × Db :=
  calls.foldl
    (fun reached call =>
      let after := (call.execute reached.2).2
      (⟨reached.2, call, after⟩ :: reached.1, after))
    ([], db)

/-- A sequence of calls from blank tables is a run. -/
theorem execute_run [Host] {db : Db} (blank : db.Blank) (calls : List Call) :
    Run controlAuthority (db.execute calls).1 (db.execute calls).2 := by
  have continues : ∀ (calls : List Call) (history : List (Transition Db Call)) (reached : Db),
      Run controlAuthority history reached →
        let last := calls.foldl
          (fun reached call =>
            let after := (call.execute reached.2).2
            (⟨reached.2, call, after⟩ :: reached.1, after))
          (history, reached)
        Run controlAuthority last.1 last.2 := by
    intro calls
    induction calls with
    | nil => exact fun _ _ run => run
    | cons call calls ih => exact fun history reached run => ih _ _ (run.step rfl)
  exact continues calls [] db (.start blank)

/-- The tables after a sequence of calls are those after its last call. -/
theorem Db.execute_snoc [Host] (db : Db) (calls : List Call) (call : Call) :
    (db.execute (calls ++ [call])).2 = (call.execute (db.execute calls).2).2 := by
  unfold Db.execute
  rw [List.foldl_append]
  rfl

/-- The last call of a sequence is the latest transition. -/
theorem Db.execute_snoc_history [Host] (db : Db) (calls : List Call) (call : Call) :
    (db.execute (calls ++ [call])).1 =
      ⟨(db.execute calls).2, call, (call.execute (db.execute calls).2).2⟩ ::
        (db.execute calls).1 := by
  unfold Db.execute
  rw [List.foldl_append]
  rfl

theorem execute_reachable [Host] {db : Db} (blank : db.Blank) (calls : List Call) :
    Reachable controlAuthority (db.execute calls).2 :=
  (execute_run blank calls).reachable

/-- An answer that is not there is an error. -/
theorem Except.eq_error_of_isOk_eq_false {ε α : Type} {answer : Except ε α}
    (failed : answer.isOk = false) : ∃ error, answer = .error error := by
  cases answer with
  | error error => exact ⟨error, rfl⟩
  | ok value => cases failed

/-! ### Random values -/

/-- The character of a hexadecimal digit. -/
def hexChar (digit : Fin 16) : Char :=
  ("0123456789abcdef".toList).getD digit '0'

theorem isUuidChar_hexChar (digit : Fin 16) : isUuidChar (hexChar digit) = true := by
  revert digit
  decide

/-- A digit of a number in base 16. -/
def hexDigitOf (number place : Nat) : Fin 16 :=
  Fin.ofNat 16 (number / 16 ^ place)

/-- The UUID that ends in the last six hexadecimal digits of a number. -/
def Uuid.numbered (number : Nat) : Uuid :=
  let digits := [5, 4, 3, 2, 1, 0].map fun place => hexChar (hexDigitOf number place)
  { text := String.ofList ("00000000-0000-4000-8000-000000".toList ++ digits)
    length_eq := by
      rw [String.toList_ofList, List.length_append]
      rfl
    shaped := by
      rw [String.toList_ofList, List.all_append, Bool.and_eq_true]
      refine ⟨by decide, ?_⟩
      simp [digits, isUuidChar_hexChar] }

/-- Random values that no other number gives. -/
def Entropy.numbered (number : Nat) : Entropy :=
  let draw (index : Nat) : Uuid := .numbered (8 * number + index)
  { row := draw 0, token := draw 1, attempt := draw 2, event := draw 3, outbox := draw 4
    audit := draw 5, idempotency := draw 6 }

/-- A clock reading with random values that no other number gives, as long as the loops
take at most fifteen iterations. -/
def Env.numbered (number now : Nat) : Env :=
  { now := now
    entropy := .numbered (32 * number)
    expiries := fun index => .numbered (32 * number + 1 + index)
    grants := fun index => .numbered (32 * number + 16 + index) }

/-! ### A small installation -/

/-- Tables without a row. -/
def Db.empty : Db :=
  { agents := [], runtimes := [], servers := [], deployments := [], configRevisions := []
    releaseManifests := [], backups := [], upstreamCandidates := [], runtimeCredentials := []
    secretReferences := [], desiredStates := [], observations := [], commands := []
    approvals := [], leases := [], attempts := [], receipts := [], verifications := []
    journal := ⟨[], [], [], [], []⟩ }

/-- One agent, on one server, in one organization. -/
def sampleAgent : AgentRow :=
  { id := "agent-1", organizationId := "org-1", ownerUserId := "user-1", name := "Agent"
    soulMarkdown := "", status := .ready, initializationStatus := .ready
    desiredRuntimeState := .running }

/-- The deployment of the agent. -/
def sampleDeployment : DeploymentRow :=
  { id := "deployment-1", organizationId := "org-1", serverId := some "server-1"
    agentId := "agent-1", name := "Agent", status := .active, desiredStateVersion := 0
    observedStateVersion := 0, createdAt := 0, updatedAt := 0 }

/-- An installation with one deployed agent. -/
def sampleDb : Db :=
  { Db.empty with agents := [sampleAgent], deployments := [sampleDeployment] }

theorem sampleDb_blank : sampleDb.Blank := by
  refine ⟨?_, ?_, ?_, ?_, rfl, rfl, rfl, rfl, rfl, rfl, rfl, rfl, rfl⟩ <;>
    simp [sampleDb, Db.empty, Keyed]

/-- The envelope of a request of the owner of the agent. -/
def sampleEnvelope (idempotencyKey : String) (createdAt sequence : Nat) : Envelope :=
  { schemaVersion := "1.0", organizationId := "org-1", userId := "user-1", agentId := "agent-1"
    serverId := "server-1", requestId := "request-1", correlationId := "correlation-1"
    idempotencyKey := idempotencyKey, createdAt := createdAt, revision := 1
    sequence := sequence }

/-- A probe of the agent, which needs no approval. -/
def sampleCommand (id : String) (createdAt expiresAt : Nat) : CommandInput :=
  { sampleEnvelope ("create:" ++ id) createdAt 1 with
    id := id, deploymentId := "deployment-1", targetModuleId := "runtime"
    targetInstanceId := none, action := .probeRun, arguments := .obj []
    expectedObservationVersion := 0, priority := 100, notBefore := createdAt
    expiresAt := expiresAt, approval := none, secretRefs := [] }

/-- The server of the agent asks for its commands. -/
def sampleLease : LeaseInput :=
  { organizationId := "org-1", userId := "user-1", agentId := some "agent-1"
    serverId := "server-1", limit := 10, leaseSeconds := 60 }

/-- A receipt of the server for the first attempt of the command, under the first lease
that the call with number 1 grants. -/
def sampleReceipt (state : ReceiptState) (sequence observedAt : Nat) : ReceiptInput :=
  let number := toString sequence
  let granted := (Env.numbered 1 0).grants 0
  { sampleEnvelope ("receipt:" ++ number) observedAt sequence with
    id := "receipt-" ++ number, deploymentId := "deployment-1", leaseId := granted.row.text
    leaseToken := "ref:lease-token:" ++ granted.token.text, commandId := "command-1"
    attempt := 1, state := state, eventSequence := sequence, sourceIdentity := "server-1"
    observationVersion := if state = .completionCandidate then some 1 else none
    observedAt := observedAt, completedAt := if state.terminal then some observedAt else none
    evidenceRefs := ["evidence-1"], resultRef := none, endpointRef := none
    errorCode := none, errorRef := none, errorSummary := none, resultSummary := .obj [] }

/-- A healthy observation of the deployment. -/
def sampleObservation (observedAt receivedAt : Nat) : ObservationInput :=
  { sampleEnvelope "observation:1" observedAt 1 with
    id := "observation-1", deploymentId := "deployment-1", version := 1
    desiredStateVersion := 0, status := .healthy, freshness := .fresh, modules := .arr []
    summary := .obj [], evidenceRefs := ["evidence-1"], redactionStatus := "redacted"
    observedAt := observedAt, receivedAt := receivedAt, freshnessSeconds := 60
    sourceIdentity := "server-1" }

/-- The verdict that the command worked, on the observation. -/
def sampleVerification (completedAt : Nat) : VerificationInput :=
  { sampleEnvelope "verification:1" completedAt 1 with
    id := "verification:receipt-3", commandId := "command-1", attempt := 1
    observationId := "observation-1", status := .verified, checks := .arr []
    evidenceRefs := ["evidence-1"], verifiedBy := "verifier-1", completedAt := completedAt
    maxFreshnessSeconds := 60 }

/-- A call that keeps its connection. -/
def callAt (number now : Nat) (request : AuthorityRequest) : Call :=
  { env := .numbered number now, request := request, fault := none }

/-- A command is created. -/
def sampleCreation : List Call :=
  [callAt 0 1000000 (.createCommand (sampleCommand "command-1" 1000000 600000000))]

/-- A command is created and leased. -/
def sampleLeasing : List Call :=
  sampleCreation ++ [callAt 1 2000000 (.leaseCommands sampleLease)]

/-- The command is accepted and runs. -/
def sampleRunning : List Call :=
  sampleLeasing ++
    [callAt 2 3000000 (.recordReceipt (sampleReceipt .accepted 1 3000000)),
      callAt 3 4000000 (.recordReceipt (sampleReceipt .running 2 4000000))]

/-- The deployment is observed, and the command is done. -/
def sampleCandidate : List Call :=
  sampleRunning ++
    [callAt 4 5200000 (.recordObservation (sampleObservation 5000000 5100000)),
      callAt 5 6000000 (.recordReceipt (sampleReceipt .completionCandidate 3 5900000))]

/-- The verifier finds that the command worked. -/
def sampleVerdict : Call :=
  callAt 6 7000000 (.verifyCommand (sampleVerification 7000000))

/-- The command is verified. -/
def sampleVerifying : List Call :=
  sampleCandidate ++ [sampleVerdict]

section Sample

attribute [local instance] Host.posix

/-- The tables along the calls, and what a third receipt finds in those of the running command.
All calls are executed once, for what follows. -/
theorem sample_reaches :
    ((sampleDb.execute sampleLeasing).2.commands.map CommandRow.state = [.leased] ∧
      (sampleDb.execute sampleLeasing).2.journal.events.map EventRow.eventSequence = [1, 2]) ∧
    ((sampleDb.execute sampleCandidate).2.commands.map CommandRow.state = [.verifying] ∧
      (∃ verification ∈ (sampleDb.execute sampleCandidate).2.verifications,
        verification.commandId = "command-1" ∧ verification.attempt = 1 ∧
        ∃ receipt ∈ (sampleDb.execute sampleCandidate).2.receipts,
          verification.receiptId = receipt.id ∧ receipt.state = .completionCandidate ∧
          receipt.completedAt = some 5900000) ∧
      (∃ observation ∈ (sampleDb.execute sampleCandidate).2.observations,
        observation.id = "observation-1" ∧ observation.receivedAt = 5100000) ∧
      (sampleVerdict.execute (sampleDb.execute sampleCandidate).2).2.commands.map
        CommandRow.state = [.succeeded]) ∧
    ∀ state ∈ [ReceiptState.executing, .running],
      (∃ held ∈ (sampleDb.execute sampleRunning).2.heldLease?
          (sampleReceipt state 3 5000000).leaseId "command-1" 1,
        (sampleReceipt state 3 5000000).guard = .ok () ∧
        held.inScope (sampleReceipt state 3 5000000) = true ∧ held.lease.state = .active ∧
        (∀ column ∈ held.command.leaseExpiresAt,
          dateNow (Env.numbered 4 5000000).now < dateParseColumn column) ∧
        held.lease.tokenHash = hashToken (sampleReceipt state 3 5000000).leaseToken ∧
        (sampleDb.execute sampleRunning).2.receiptSequence "command-1" 1 <
          (sampleReceipt state 3 5000000).eventSequence ∧
        state ∈ receiptTransitions held.command.state ∧
        (∀ eventType ∈ state.eventType, assertSafeControlPayload "outbox.body"
          (((sampleReceipt state 3 5000000).event held.command.deploymentId eventType).repeated
            (Env.numbered 4 5000000).now) = .ok ()) ∧
        (sampleReceipt state 3 5000000).Fresh (.numbered 4 5000000) held
          (sampleDb.execute sampleRunning).2) ∧
      ((sampleDb.execute sampleRunning).2.StateFree (sampleReceipt state 3 5000000) ↔
        state = .executing) := by
  decide +kernel

/-- The command is leased, and two events of its deployment are on record. -/
theorem sampleLeasing_reaches :
    (sampleDb.execute sampleLeasing).2.commands.map CommandRow.state = [.leased] ∧
      (sampleDb.execute sampleLeasing).2.journal.events.map EventRow.eventSequence = [1, 2] :=
  sample_reaches.1

/-- A candidate that was completed after the observation was received, in the same second,
is verified. -/
theorem sampleVerifying_reaches :
    (sampleDb.execute sampleCandidate).2.commands.map CommandRow.state = [.verifying] ∧
      (∃ verification ∈ (sampleDb.execute sampleCandidate).2.verifications,
        verification.commandId = "command-1" ∧ verification.attempt = 1 ∧
        ∃ receipt ∈ (sampleDb.execute sampleCandidate).2.receipts,
          verification.receiptId = receipt.id ∧ receipt.state = .completionCandidate ∧
          receipt.completedAt = some 5900000) ∧
      (∃ observation ∈ (sampleDb.execute sampleCandidate).2.observations,
        observation.id = "observation-1" ∧ observation.receivedAt = 5100000) ∧
      (sampleVerdict.execute (sampleDb.execute sampleCandidate).2).2.commands.map
        CommandRow.state = [.succeeded] :=
  sample_reaches.2.1

end Sample

end BairuiPlatform
