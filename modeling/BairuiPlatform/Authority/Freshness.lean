/-
Module: BairuiPlatform.Authority.Freshness
Purpose: How old the evidence of a verdict may be, to the millisecond, when the times of
  the tables are compared in whole seconds.
Trusted boundary: none
Main exports: VerificationInput.InTime, VerificationInput.SubsecondsAgree,
  Evidence.inTime_iff, verified_in_time_iff
-/
import BairuiPlatform.Authority.Success

namespace BairuiPlatform

open Foundations Relation

/-! ### Whole seconds -/

/-- The whole seconds of an instant. -/
def wholeSeconds (instant : Nat) : Nat := instant / 1000000

/-- The milliseconds of an instant past its whole seconds. -/
def subsecondMillis (instant : Nat) : Nat := instant / 1000 % 1000

theorem columnTime_eq (instant : Nat) :
    columnTime instant = wholeSeconds instant * 1000 + subsecondMillis instant := by
  unfold columnTime wholeSeconds subsecondMillis
  omega

theorem subsecondMillis_lt (instant : Nat) : subsecondMillis instant < 1000 := by
  unfold subsecondMillis
  omega

theorem dateParseColumn_eq (column : Nat) : dateParseColumn column = wholeSeconds column * 1000 :=
  rfl

/-- An order of whole seconds is one of milliseconds, unless the seconds are the same. -/
theorem columnTime_le_iff {first second delay : Nat}
    (ordered : wholeSeconds first ≤ wholeSeconds second + delay) :
    columnTime first ≤ columnTime second + delay * 1000 ↔
      (wholeSeconds first = wholeSeconds second + delay →
        subsecondMillis first ≤ subsecondMillis second) := by
  rw [columnTime_eq, columnTime_eq]
  have firstBound := subsecondMillis_lt first
  have secondBound := subsecondMillis_lt second
  constructor
  · intro inTime same
    omega
  · intro agree
    by_cases same : wholeSeconds first = wholeSeconds second + delay
    · have within := agree same
      omega
    · omega

/-! ### Verdicts -/

/-- The candidate receipt and the observation that a verdict is about. -/
structure Db.Judged (db : Db) (input : VerificationInput) (receipt : ReceiptRow)
    (observation : ObservationRow) : Prop where
  verification : ∃ verification ∈ db.verifications,
    verification.commandId = input.commandId ∧ verification.attempt = input.attempt ∧
      verification.receiptId = receipt.id
  receipt_mem : receipt ∈ db.receipts
  candidate : receipt.state = .completionCandidate
  observation_mem : observation ∈ db.observations
  observation_id : observation.id = input.observationId

/-- To the millisecond, the observation was received after the action was completed, and
the verdict came within the freshness bound of the observation. -/
structure VerificationInput.InTime (input : VerificationInput) (receipt : ReceiptRow)
    (observation : ObservationRow) : Prop where
  received : ∃ completedAt, receipt.completedAt = some completedAt ∧
    columnTime completedAt ≤ columnTime observation.receivedAt
  fresh : columnTime input.completedAt ≤
    columnTime observation.observedAt + input.maxFreshnessSeconds * 1000

/-- Where the whole seconds leave an order open, the milliseconds decide it the right way. -/
structure VerificationInput.SubsecondsAgree (input : VerificationInput) (receipt : ReceiptRow)
    (observation : ObservationRow) : Prop where
  received : ∀ completedAt, receipt.completedAt = some completedAt →
    wholeSeconds completedAt = wholeSeconds observation.receivedAt →
    subsecondMillis completedAt ≤ subsecondMillis observation.receivedAt
  fresh : wholeSeconds input.completedAt =
      wholeSeconds observation.observedAt + input.maxFreshnessSeconds →
    subsecondMillis input.completedAt ≤ subsecondMillis observation.observedAt

/-- The transition records the verdict that a command worked. -/
structure Transition.RecordsVerified (transition : Transition Db Call)
    (input : VerificationInput) : Prop where
  request : transition.label.request = .verifyCommand input
  verified : input.status = .verified
  changed : transition.after ≠ transition.before

theorem Transition.RecordsVerified.of_call {before after : Db} {call : Call}
    {input : VerificationInput} (request : call.request = .verifyCommand input)
    (verified : input.status = .verified) (changed : after ≠ before) :
    Transition.RecordsVerified ⟨before, call, after⟩ input :=
  ⟨request, verified, changed⟩

/-- Every verdict of the history that a command worked came in time. -/
def VerifiedInTime (history : List (Transition Db Call)) : Prop :=
  ∀ transition ∈ history, ∀ input receipt observation,
    Transition.RecordsVerified transition input →
    transition.before.Judged input receipt observation → input.InTime receipt observation

/-- What a history of verdicts in time says about its latest transition. -/
theorem VerifiedInTime.latest {history : List (Transition Db Call)} {before after : Db}
    {call : Call} {input : VerificationInput} {receipt : ReceiptRow}
    {observation : ObservationRow} (inTime : VerifiedInTime (⟨before, call, after⟩ :: history))
    (records : Transition.RecordsVerified ⟨before, call, after⟩ input)
    (judged : before.Judged input receipt observation) : input.InTime receipt observation :=
  inTime _ List.mem_cons_self input receipt observation records judged

/-- Candidate receipts say when the action was completed. -/
def Db.CandidatesCompleted (db : Db) : Prop :=
  ∀ receipt ∈ db.receipts, receipt.state = .completionCandidate →
    ∃ completedAt, receipt.completedAt = some completedAt

/-- What the check of the evidence leaves open is the order within a second. -/
theorem Evidence.inTime_iff {input : VerificationInput} {current : OpenVerification}
    {observation : ObservationRow} {completedAt : Nat}
    (evidence : Evidence input current observation)
    (completed : current.receipt.completedAt = some completedAt) :
    input.InTime current.receipt observation ↔
      input.SubsecondsAgree current.receipt observation := by
  have received : wholeSeconds completedAt ≤ wholeSeconds observation.receivedAt + 0 := by
    have checked := evidence.received
    rw [completed, Option.getD_some, dateParseColumn_eq, dateParseColumn_eq] at checked
    omega
  have timely : wholeSeconds input.completedAt ≤
      wholeSeconds observation.observedAt + input.maxFreshnessSeconds := by
    have checked := evidence.timely
    rw [dateParseColumn_eq] at checked
    unfold dateParse at checked
    unfold wholeSeconds at checked ⊢
    omega
  have receivedIff := columnTime_le_iff received
  have freshIff := columnTime_le_iff timely
  constructor
  · intro inTime
    obtain ⟨column, stored, ordered⟩ := inTime.received
    refine ⟨fun instant known => ?_, freshIff.mp inTime.fresh⟩
    obtain rfl := Option.some.inj (completed.symm.trans known)
    obtain rfl := Option.some.inj (completed.symm.trans stored)
    exact receivedIff.mp ordered
  · intro agree
    exact ⟨⟨completedAt, completed, receivedIff.mpr (agree.received completedAt completed)⟩,
      freshIff.mpr agree.fresh⟩

section Verdicts

variable [Host] {env : Env} {db db' : Db}

theorem Db.CandidatesCompleted.change (completed : db.CandidatesCompleted)
    (changed : Change env db db') : db'.CandidatesCompleted := by
  have kept : db'.receipts = db.receipts → db'.CandidatesCompleted := by
    intro same receipt member
    rw [same] at member
    exact completed receipt member
  cases changed.control with
  | frame same => exact kept same.receipts
  | command stores => exact kept (by rw [stores.after])
  | decision decides => exact kept (by rw [decides.after])
  | expiry expires => exact kept (by rw [expires.after]; rfl)
  | lease leases => exact kept (by rw [leases.grants.after]; rfl)
  | verification verifies => exact kept (by rw [verifies.after]; rfl)
  | @receipt input held eventType records =>
      intro receipt member candidate
      rw [records.after] at member
      rcases List.mem_append.mp member with old | new
      · exact completed receipt old candidate
      · rw [List.mem_singleton.mp new] at candidate ⊢
        have terminal : input.state.terminal = true := by
          have isCandidate : input.state = .completionCandidate := candidate
          rw [isCandidate]
          rfl
        exact Option.isSome_iff_exists.mp (records.completed terminal)

/-- Candidate receipts of reachable states say when the action was completed. -/
theorem authority_candidatesCompleted (reachable : Reachable controlAuthority db) :
    db.CandidatesCompleted := by
  refine authority_invariant reachable Db.CandidatesCompleted (fun db blank => ?_)
    fun _ _ _ _ completed changed => completed.change changed
  intro receipt member
  rw [blank.receipts] at member
  cases member

/-- The receipt and the observation of a recorded verdict are those that were checked. -/
theorem VerifiesCommand.judged_iff {input : VerificationInput} {current : OpenVerification}
    {observation : ObservationRow}
    (verifies : VerifiesCommand env input current observation db db')
    (reachable : Reachable controlAuthority db) (receipt : ReceiptRow)
    (other : ObservationRow) :
    db.Judged input receipt other ↔ receipt = current.receipt ∧ other = observation := by
  have sound := authority_sound reachable
  have awaits := Db.awaits_of_openVerification? verifies.joined
  have observed := List.find?_some verifies.observed
  simp only [Bool.and_eq_true, decide_eq_true_eq] at observed
  have observationMem := List.mem_of_find?_eq_some verifies.observed
  constructor
  · intro judged
    obtain ⟨verification, member, command, attempt, receiptId⟩ := judged.verification
    have one : verification = current.verification := by
      refine sound.verified_once.eq_of_key_eq member awaits.verification_mem ?_
      rw [command, attempt, awaits.verification_command, awaits.verification_attempt]
    constructor
    · refine sound.receipts.eq_of_key_eq judged.receipt_mem awaits.receipt_mem ?_
      rw [← receiptId, one, awaits.receipt_id]
    · exact sound.observations.eq_of_key_eq judged.observation_mem observationMem
        (judged.observation_id.trans observed.1.symm)
  · rintro ⟨rfl, rfl⟩
    obtain ⟨⟨command, -, stored, storedMem, joins⟩, -⟩ :=
      authority_candidates reachable current.verification awaits.verification_mem
    have same := sound.receipts.eq_of_key_eq storedMem awaits.receipt_mem
      (joins.receipt_id.trans awaits.receipt_id.symm)
    refine ⟨⟨current.verification, awaits.verification_mem, awaits.verification_command,
      awaits.verification_attempt, awaits.receipt_id.symm⟩, awaits.receipt_mem, ?_,
      observationMem, observed.1⟩
    rw [← same]
    exact joins.receipt_state

end Verdicts

/-- Every recorded verdict that a command worked is about one candidate receipt and one
observation, and it came in time exactly if the milliseconds agree with the whole seconds. -/
theorem verified_in_time_iff [Host] {history : List (Transition Db Call)} {db : Db}
    (run : Run controlAuthority history db) :
    ∀ transition ∈ history, ∀ input, Transition.RecordsVerified transition input →
      ∃ receipt observation, transition.before.Judged input receipt observation ∧
        (∀ receipt' observation', transition.before.Judged input receipt' observation' →
          receipt' = receipt ∧ observation' = observation) ∧
        (input.InTime receipt observation ↔ input.SubsecondsAgree receipt observation) := by
  intro transition member input records
  obtain ⟨earlier, ranEarlier, taken, -⟩ := run.before_of_mem member
  have reachable := ranEarlier.reachable
  rcases Call.step_cases (authority_sound reachable) taken with same | carriesOut
  · exact absurd same records.changed
  · rw [records.request] at carriesOut
    obtain ⟨current, observation, verifies⟩ := carriesOut
    have evidence := verifies.evidence records.verified
    have judged := (verifies.judged_iff reachable current.receipt observation).mpr ⟨rfl, rfl⟩
    obtain ⟨completedAt, completed⟩ :=
      authority_candidatesCompleted reachable current.receipt judged.receipt_mem judged.candidate
    exact ⟨current.receipt, observation, judged,
      fun receipt other => (verifies.judged_iff reachable receipt other).mp,
      evidence.inTime_iff completed⟩

section Sample

attribute [local instance] Host.posix

/-- The verdict is recorded. -/
theorem sampleVerdict_records :
    Transition.RecordsVerified
      ⟨(sampleDb.execute sampleCandidate).2, sampleVerdict,
        (sampleVerdict.execute (sampleDb.execute sampleCandidate).2).2⟩
      (sampleVerification 7000000) := by
  refine .of_call rfl rfl fun same => ?_
  have states := congrArg (fun db => db.commands.map CommandRow.state) same
  have final := sampleVerifying_reaches.2.2.2.symm.trans
    (states.trans sampleVerifying_reaches.1)
  cases final

/-- The verdict of the run is about one receipt and one observation, and the milliseconds
decide whether it came in time. -/
theorem verified_in_time_sample :
    ∃ transition ∈ (sampleDb.execute sampleVerifying).1, ∃ receipt observation,
      transition.before.Judged (sampleVerification 7000000) receipt observation ∧
        (∀ receipt' observation',
          transition.before.Judged (sampleVerification 7000000) receipt' observation' →
          receipt' = receipt ∧ observation' = observation) ∧
        ((sampleVerification 7000000).InTime receipt observation ↔
          (sampleVerification 7000000).SubsecondsAgree receipt observation) := by
  have settled := verified_in_time_iff (execute_run sampleDb_blank sampleVerifying)
  rw [sampleVerifying, Db.execute_snoc_history] at settled ⊢
  exact ⟨_, List.mem_cons_self, settled _ List.mem_cons_self _ sampleVerdict_records⟩

/-- The observation was received at 5.1 s and the action completed at 5.9 s; the verdict that
rests on them is recorded. -/
theorem late_evidence_verified :
    Run controlAuthority (sampleDb.execute sampleVerifying).1
        (sampleDb.execute sampleVerifying).2 ∧
      ¬ VerifiedInTime (sampleDb.execute sampleVerifying).1 := by
  refine ⟨execute_run sampleDb_blank sampleVerifying, fun inTime => ?_⟩
  obtain ⟨-, ⟨verification, verificationMem, command, attempt, receipt, receiptMem, receiptId,
    candidate, completed⟩, ⟨observation, observationMem, observationId, received⟩, -⟩ :=
    sampleVerifying_reaches
  rw [sampleVerifying, Db.execute_snoc_history] at inTime
  have late := inTime.latest sampleVerdict_records
    ⟨⟨verification, verificationMem, command, attempt, receiptId⟩, receiptMem, candidate,
      observationMem, observationId⟩
  obtain ⟨completedAt, stored, ordered⟩ := late.received
  obtain rfl := Option.some.inj (completed.symm.trans stored)
  rw [received] at ordered
  exact absurd ordered (by decide)

end Sample

end BairuiPlatform
