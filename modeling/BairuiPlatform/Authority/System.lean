/-
Module: BairuiPlatform.Authority.System
Purpose: ControlAuthorityRepository as a transition system: its calls, in any order and
  from any number of clients, each one transaction that may lose its connection.
Trusted boundary: none
Main exports: AuthorityRequest, Call, controlAuthority, AuthorityRequest.CarriesOut,
  Call.step_cases, Call.chain, authority_invariant, authority_sound
-/
import BairuiPlatform.Authority.Loops

namespace BairuiPlatform

open Foundations Relation

/-! ### Requests -/

/-- The requests that ControlAuthorityRepository serves. -/
inductive AuthorityRequest where
  | createDesiredState (input : DesiredStateInput)
  | recordObservation (input : ObservationInput)
  | createReleaseManifest (input : ReleaseManifestInput)
  | registerSecretReference (input : SecretReferenceInput)
  | createCommand (input : CommandInput)
  | decideApproval (input : ApprovalDecisionInput)
  | expireLeases
  | leaseCommands (input : LeaseInput)
  | recordReceipt (input : ReceiptInput)
  | verifyCommand (input : VerificationInput)
  | leaseOutbox (input : OutboxLeaseInput)
  | settleOutbox (input : OutboxSettlement)

namespace AuthorityRequest

/-- What the method of a request returns. -/
def Answer : AuthorityRequest → Type
  | .createDesiredState _ => Option DesiredStateRow
  | .recordObservation _ => Option ObservationRow
  | .createReleaseManifest _ => Option ReleaseManifestRow
  | .registerSecretReference _ => Option SecretReferenceRow
  | .createCommand _ => CommandResult
  | .decideApproval _ => Option ApprovalRow
  | .expireLeases => Unit
  | .leaseCommands _ => List LeasedCommand
  | .recordReceipt _ => ReceiptResult
  | .verifyCommand _ => VerificationResult
  | .leaseOutbox _ => List LeasedOutbox
  | .settleOutbox _ => Option OutboxRow

/-- The method of a request. -/
def callback [Host] (env : Env) : (request : AuthorityRequest) → Callback request.Answer
  | .createDesiredState input => BairuiPlatform.createDesiredState env input
  | .recordObservation input => BairuiPlatform.recordObservation env input
  | .createReleaseManifest input => BairuiPlatform.createReleaseManifest env input
  | .registerSecretReference input => BairuiPlatform.registerSecretReference env input
  | .createCommand input => BairuiPlatform.createCommand env input
  | .decideApproval input => BairuiPlatform.decideApproval env input
  | .expireLeases => BairuiPlatform.expireLeases env
  | .leaseCommands input => BairuiPlatform.leaseCommands env input
  | .recordReceipt input => BairuiPlatform.recordReceipt env input
  | .verifyCommand input => BairuiPlatform.verifyCommand env input
  | .leaseOutbox input => BairuiPlatform.leaseOutbox env input
  | .settleOutbox input => BairuiPlatform.settleOutbox env input

end AuthorityRequest

/-- One call of a method: when it happens, which random values it draws, and before
which statement its connection is lost, if it is. -/
structure Call where
  env : Env
  request : AuthorityRequest
  fault : Option Nat

/-- The answer of a call and the tables after it. -/
def Call.execute [Host] (call : Call) (db : Db) :
    Except (Interruption Failure) call.request.Answer × Db :=
  (call.request.callback call.env).inTransaction call.fault db

/-- The tables before the first request: the registry of agents, servers and
deployments, and no row that a control command leaves. -/
structure Db.Blank (db : Db) : Prop where
  agents : Keyed AgentRow.id db.agents
  deployments : Keyed DeploymentRow.id db.deployments
  releaseManifests : Keyed ReleaseManifestRow.id db.releaseManifests
  secretReferences : Keyed SecretReferenceRow.id db.secretReferences
  desiredStates : db.desiredStates = []
  observations : db.observations = []
  commands : db.commands = []
  approvals : db.approvals = []
  leases : db.leases = []
  attempts : db.attempts = []
  receipts : db.receipts = []
  verifications : db.verifications = []
  journal : db.journal = ⟨[], [], [], [], []⟩

/-- ControlAuthorityRepository on its database. -/
def controlAuthority [Host] : TransitionSystem Db Call where
  initial := Db.Blank
  step before call after := after = (call.execute before).2

/-! ### What a call does -/

/-- The effect of a request that is carried out. -/
def AuthorityRequest.CarriesOut [Host] (env : Env) : AuthorityRequest → Db → Db → Prop
  | .createDesiredState input, db, db' =>
      ∃ deployment row, StoresDesiredState env input deployment row db db'
  | .recordObservation input, db, db' =>
      ∃ deployment row, StoresObservation env input deployment row db db'
  | .createReleaseManifest input, db, db' => ∃ row, StoresReleaseManifest env input row db db'
  | .registerSecretReference input, db, db' => ∃ row, StoresSecretReference env input row db db'
  | .createCommand input, db, db' => ∃ deployment, StoresCommand env input deployment db db'
  | .decideApproval input, db, db' => ∃ current, DecidesApproval env input current db db'
  | .expireLeases, db, db' => ReflTransGen (ExpiresOne env) db db'
  | .leaseCommands input, db, db' =>
      ∃ middle, ReflTransGen (ExpiresOne env) db middle ∧
        ReflTransGen (GrantsOne env input) middle db'
  | .recordReceipt input, db, db' =>
      ∃ held eventType, RecordsReceipt env input held eventType db db'
  | .verifyCommand input, db, db' =>
      ∃ current observation, VerifiesCommand env input current observation db db'
  | .leaseOutbox _, db, db' => ReflTransGen (ChangesOutbox env.now) db db'
  | .settleOutbox _, db, db' => ChangesOutbox env.now db db'

/-- A mutator that answered replayed a record and changed nothing, or carried its
request out. -/
theorem replayOr_cases {α : Type} {scope : IdempotencyScope}
    {replay : IdempotencyRow → Callback α} {fresh : Callback α} {db db' : Db} {result : α}
    (reads : ∀ record answer final, (replay record).eval db = .ok (answer, final) → final = db)
    (ran : (replayOr scope replay fresh).eval db = .ok (result, db')) :
    db' = db ∨ fresh.eval db = .ok (result, db') := by
  rcases replayOr_ok.mp ran with ⟨record, -, -, replayed⟩ | ⟨-, carriedOut⟩
  · exact .inl (reads record result db' replayed)
  · exact .inr carriedOut

/-- A replay that reads one value changes nothing. -/
theorem read_keeps {α : Type} {select : Db → α} {db final : Db} {answer : α}
    (ran : (Tx.read select : Callback α).eval db = .ok (answer, final)) : final = db := by
  simp only [Tx.eval_read, Except.ok.injEq, Prod.mk.injEq] at ran
  exact ran.2.symm

/-- A replay of a receipt changes nothing. -/
theorem replayReceipt_keeps {record : IdempotencyRow} {db final : Db}
    {answer : ReceiptResult} (ran : (replayReceipt record).eval db = .ok (answer, final)) :
    final = db := by
  simp only [replayReceipt, Tx.eval_read_bind, Tx.eval_bind_ok, Tx.eval_orRaise_ok, Tx.eval_pure,
    Except.ok.injEq, Prod.mk.injEq] at ran
  obtain ⟨receipt, _, ⟨-, rfl⟩, -, rfl⟩ := ran
  rfl

/-- A method that answered changed nothing, or carried its request out. -/
theorem AuthorityRequest.callback_ok [Host] {env : Env} {request : AuthorityRequest}
    {db db' : Db} {answer : request.Answer} (sound : db.Sound)
    (ran : (request.callback env).eval db = .ok (answer, db')) :
    db' = db ∨ request.CarriesOut env db db' := by
  cases request with
  | createDesiredState input =>
      obtain ⟨-, ran⟩ := checked_bind_ok.mp ran
      refine (replayOr_cases (fun _ _ _ => read_keeps) ran).imp_right fun fresh => ?_
      obtain ⟨deployment, row, -, stores⟩ := createDesiredStateFresh_ok fresh
      exact ⟨deployment, row, stores⟩
  | recordObservation input =>
      obtain ⟨-, ran⟩ := checked_bind_ok.mp ran
      refine (replayOr_cases (fun _ _ _ => read_keeps) ran).imp_right fun fresh => ?_
      obtain ⟨deployment, row, -, stores⟩ := recordObservationFresh_ok fresh
      exact ⟨deployment, row, stores⟩
  | createReleaseManifest input =>
      obtain ⟨-, ran⟩ := checked_bind_ok.mp ran
      refine (replayOr_cases (fun _ _ _ => read_keeps) ran).imp_right fun fresh => ?_
      obtain ⟨row, -, stores⟩ := createReleaseManifestFresh_ok fresh
      exact ⟨row, stores⟩
  | registerSecretReference input =>
      refine (replayOr_cases (fun _ _ _ => read_keeps) ran).imp_right fun fresh => ?_
      obtain ⟨row, -, stores⟩ := registerSecretReferenceFresh_ok fresh
      exact ⟨row, stores⟩
  | createCommand input =>
      obtain ⟨-, ran⟩ := checked_bind_ok.mp ran
      refine (replayOr_cases (fun _ _ _ => read_keeps) ran).imp_right fun fresh => ?_
      obtain ⟨deployment, stores, -⟩ := createCommandFresh_ok fresh
      exact ⟨deployment, stores⟩
  | decideApproval input =>
      refine (replayOr_cases (fun _ _ _ => read_keeps) ran).imp_right fun fresh => ?_
      obtain ⟨current, decides, -⟩ := decideApprovalFresh_ok fresh
      exact ⟨current, decides⟩
  | expireLeases => exact .inr (expireLeases_chain sound ran).1
  | leaseCommands input =>
      obtain ⟨middle, expired, granted⟩ := leaseCommands_chain sound ran
      exact .inr ⟨middle, (expireLeases_chain sound expired).1, granted⟩
  | recordReceipt input =>
      obtain ⟨-, ran⟩ := checked_bind_ok.mp ran
      refine (replayOr_cases (fun _ _ _ => replayReceipt_keeps) ran).imp_right fun fresh => ?_
      obtain ⟨held, eventType, records, -⟩ := recordReceiptFresh_ok fresh
      exact ⟨held, eventType, records⟩
  | verifyCommand input =>
      obtain ⟨-, ran⟩ := checked_bind_ok.mp ran
      refine (replayOr_cases (fun _ _ _ => read_keeps) ran).imp_right fun fresh => ?_
      obtain ⟨current, observation, verifies, -⟩ := verifyCommandFresh_ok fresh
      exact ⟨current, observation, verifies⟩
  | leaseOutbox input => exact .inr (leaseOutbox_chain sound ran)
  | settleOutbox input => exact .inr (settleOutbox_ok ran)

/-- A call changes nothing, or answers and carries its request out. -/
theorem Call.step_cases [Host] {call : Call} {before after : Db} (sound : before.Sound)
    (taken : controlAuthority.step before call after) :
    after = before ∨ call.request.CarriesOut call.env before after := by
  have taken : after = (call.execute before).2 := taken
  rcases Tx.inTransaction_cases (call.request.callback call.env) call.fault before with
    ⟨answer, final, ran, executed⟩ | ⟨interruption, executed⟩
  · rw [taken, Call.execute, executed]
    exact call.request.callback_ok sound ran
  · exact .inl (by rw [taken, Call.execute, executed])

/-- What a request does is a chain of elementary changes. -/
theorem AuthorityRequest.CarriesOut.chain [Host] {env : Env} {request : AuthorityRequest}
    {db db' : Db} (carriesOut : request.CarriesOut env db db') :
    ReflTransGen (Change env) db db' := by
  have expiry : ∀ before after, ExpiresOne env before after → Change env before after :=
    fun _ _ ⟨_, _, expires⟩ => .expiry expires
  cases request with
  | createDesiredState input =>
      obtain ⟨deployment, row, stores⟩ := carriesOut
      exact .single (.desiredState stores)
  | recordObservation input =>
      obtain ⟨deployment, row, stores⟩ := carriesOut
      exact .single (.observation stores)
  | createReleaseManifest input =>
      obtain ⟨row, stores⟩ := carriesOut
      exact .single (.releaseManifest stores)
  | registerSecretReference input =>
      obtain ⟨row, stores⟩ := carriesOut
      exact .single (.secretReference stores)
  | createCommand input =>
      obtain ⟨deployment, stores⟩ := carriesOut
      exact .single (.command stores)
  | decideApproval input =>
      obtain ⟨current, decides⟩ := carriesOut
      exact .single (.decision decides)
  | expireLeases => exact ReflTransGen.mono expiry _ _ carriesOut
  | leaseCommands input =>
      obtain ⟨middle, expiries, grants⟩ := carriesOut
      have grant : ∀ before after, GrantsOne env input before after → Change env before after :=
        fun _ _ ⟨_, _, _, leases⟩ => .lease leases
      exact (ReflTransGen.mono expiry _ _ expiries).trans (ReflTransGen.mono grant _ _ grants)
  | recordReceipt input =>
      obtain ⟨held, eventType, records⟩ := carriesOut
      exact .single (.receipt records)
  | verifyCommand input =>
      obtain ⟨current, observation, verifies⟩ := carriesOut
      exact .single (.verification verifies)
  | leaseOutbox input =>
      have outbox : ∀ before after, ChangesOutbox env.now before after → Change env before after :=
        fun _ _ ⟨change, after⟩ => .outbox change after
      exact ReflTransGen.mono outbox _ _ carriesOut
  | settleOutbox input => exact .single (.outbox carriesOut.1 carriesOut.2)

/-- What a call does is a chain of elementary changes. -/
theorem Call.chain [Host] {call : Call} {before after : Db} (sound : before.Sound)
    (taken : controlAuthority.step before call after) :
    ReflTransGen (Change call.env) before after := by
  rcases Call.step_cases sound taken with rfl | carriesOut
  · exact .refl
  · exact carriesOut.chain

/-! ### Invariants of the authority -/

theorem Db.Blank.sound {db : Db} (blank : db.Blank) : db.Sound where
  agents := blank.agents
  deployments := blank.deployments
  desiredStates := by simp [blank.desiredStates]
  observations := by simp [blank.observations]
  releaseManifests := blank.releaseManifests
  secretReferences := blank.secretReferences
  commands := by simp [blank.commands]
  approvals := by simp [blank.approvals]
  leases := by simp [blank.leases]
  one_active := by simp [blank.leases]
  attempts := by simp [blank.attempts]
  receipts := by simp [blank.receipts]
  verifications := by simp [blank.verifications]
  verified_once := by simp [blank.verifications]
  outbox := by simp [blank.journal]

/-- The keys of the tables hold before and after every chain of changes. -/
theorem Db.Sound.chain [Host] {env : Env} {db db' : Db} (sound : db.Sound)
    (changes : ReflTransGen (Change env) db db') : db'.Sound :=
  keeps_of_chain Db.Sound (fun _ _ sound changed => sound.change changed) changes sound

/-- The keys of the tables hold in every reachable state. -/
theorem authority_sound [Host] {db : Db} (reachable : Reachable controlAuthority db) :
    db.Sound :=
  reachable.invariant Db.Sound (fun _ blank => blank.sound)
    fun _ _ _ sound taken => sound.chain (Call.chain sound taken)

/-- What every change keeps on sound tables, a chain of changes keeps. -/
theorem Db.Sound.keeps [Host] {env : Env} {db db' : Db} (sound : db.Sound)
    (changes : ReflTransGen (Change env) db db') (Inv : Db → Prop)
    (step : ∀ before after, before.Sound → Inv before → Change env before after → Inv after)
    (holds : Inv db) : Inv db' :=
  (keeps_of_chain (fun db => db.Sound ∧ Inv db)
    (fun _ _ both changed => ⟨both.1.change changed, step _ _ both.1 both.2 changed⟩)
    changes ⟨sound, holds⟩).2

/-- What every change keeps holds in every reachable state. -/
theorem authority_invariant [Host] {db : Db} (reachable : Reachable controlAuthority db)
    (Inv : Db → Prop) (start : ∀ db : Db, db.Blank → Inv db)
    (step : ∀ env before after, before.Sound → Inv before → Change env before after → Inv after) :
    Inv db := by
  refine (reachable.invariant (fun db => db.Sound ∧ Inv db)
    (fun db blank => ⟨blank.sound, start db blank⟩)
    fun before call after both taken => ?_).2
  have changes := Call.chain both.1 taken
  exact ⟨both.1.chain changes,
    both.1.keeps changes Inv (fun before after => step call.env before after) both.2⟩

end BairuiPlatform
