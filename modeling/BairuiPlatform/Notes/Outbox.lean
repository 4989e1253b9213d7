/-
Module: BairuiPlatform.Notes.Outbox
Purpose: What a call may do to the outbox of the projection, whichever repository runs it, and
  what all of it keeps.
Trusted boundary: none
Main exports: ProjectionLease, JobChange, JobStep, JobSteps, OutboxSound, JobSteps.sound,
  JobSteps.waits, JobSteps.held, JobSteps.completed
-/
import BairuiPlatform.Foundations.Transition
import BairuiPlatform.Notes.Rows

namespace BairuiPlatform

open Foundations

/-- A job that was handed out, with the token of the lease. -/
structure ProjectionLease where
  id : String
  leaseToken : String
  agentId : String
deriving Repr, DecidableEq

/-- The lease of a job. -/
def ProjectionJob.lease? (job : ProjectionJob) : Option ProjectionLease :=
  job.leaseToken.map fun token =>
    { id := job.id, leaseToken := token, agentId := job.agentId }

/-- What a call may do besides merging, reclaiming and retrying: hand out leases, and complete
the job that it names. -/
structure JobEffect where
  taken : List ProjectionLease := []
  completes : Bool := false

/-- What may happen to a job in place. -/
structure JobChange (effect : JobEffect) (outbox : List ProjectionJob) (old new : ProjectionJob) :
    Prop where
  id : new.id = old.id
  agentId : new.agentId = old.agentId
  slot : SlotChange ProjectionJob.agentId ProjectionJob.phase outbox old new
  final : old.state = .completed → new = old
  token : new.state = .processing → new = old ∨
    ∃ lease ∈ effect.taken, new.lease? = some lease
  completed : new.state = .completed → old.state = .completed ∨ effect.completes = true ∨
    (old.state = .processing ∧ new.resultSummary = superseded ∧
      Waits ProjectionJob.agentId ProjectionJob.phase old.agentId outbox)

/-- A job that stays. -/
theorem JobChange.refl {effect : JobEffect} {outbox : List ProjectionJob} (job : ProjectionJob) :
    JobChange effect outbox job job where
  id := rfl
  agentId := rfl
  slot := .keep rfl
  final _ := rfl
  token _ := Or.inl rfl
  completed done := Or.inl done

namespace JobChange

variable {effect : JobEffect} {outbox : List ProjectionJob} {old new : ProjectionJob}

/-- A request that is merged into a job that waits. -/
theorem merge (id : new.id = old.id) (agentId : new.agentId = old.agentId)
    (waited : old.phase = .waiting) (pending : new.state = .pending) :
    JobChange effect outbox old new where
  id := id
  agentId := agentId
  slot := by
    apply SlotChange.keep
    rw [waited, ProjectionJob.phase, pending]
    rfl
  final done := by
    rw [ProjectionJob.phase, done] at waited
    cases waited
  token processing := by
    rw [pending] at processing
    cases processing
  completed done := by
    rw [pending] at done
    cases done

/-- A job that is handed out. -/
theorem lease (id : new.id = old.id) (agentId : new.agentId = old.agentId)
    (waited : old.phase = .waiting) (processing : new.state = .processing)
    (free : ¬ Runs ProjectionJob.agentId ProjectionJob.phase old.agentId outbox)
    (issued : ∃ lease ∈ effect.taken, new.lease? = some lease) :
    JobChange effect outbox old new where
  id := id
  agentId := agentId
  slot := by
    apply SlotChange.take waited _ free
    rw [ProjectionJob.phase, processing]
    rfl
  final done := by
    rw [ProjectionJob.phase, done] at waited
    cases waited
  token _ := Or.inr issued
  completed done := by
    rw [processing] at done
    cases done

/-- A job that ran and waits again. -/
theorem requeue (id : new.id = old.id) (agentId : new.agentId = old.agentId)
    (ran : old.state = .processing) (retries : new.state = .retry)
    (free : ¬ Waits ProjectionJob.agentId ProjectionJob.phase old.agentId outbox) :
    JobChange effect outbox old new where
  id := id
  agentId := agentId
  slot := by
    apply SlotChange.requeue _ _ free
    · rw [ProjectionJob.phase, ran]
      rfl
    · rw [ProjectionJob.phase, retries]
      rfl
  final done := by
    rw [ran] at done
    cases done
  token processing := by
    rw [retries] at processing
    cases processing
  completed done := by
    rw [retries] at done
    cases done

/-- A job that ran and ends. -/
theorem finish (id : new.id = old.id) (agentId : new.agentId = old.agentId)
    (ran : old.state = .processing) (ended : new.phase = .ended)
    (completed : new.state = .completed → effect.completes = true ∨
      (new.resultSummary = superseded ∧
        Waits ProjectionJob.agentId ProjectionJob.phase old.agentId outbox)) :
    JobChange effect outbox old new where
  id := id
  agentId := agentId
  slot := by
    apply SlotChange.finish _ ended
    rw [ProjectionJob.phase, ran]
    rfl
  final done := by
    rw [ran] at done
    cases done
  token processing := by
    rw [ProjectionJob.phase, processing] at ended
    cases ended
  completed done := Or.inr ((completed done).imp_right fun ⟨summary, waits⟩ =>
    ⟨ran, summary, waits⟩)

end JobChange

/-- One statement or assignment: jobs change in place, or a job joins. -/
inductive JobStep (effect : JobEffect) (outbox outbox' : List ProjectionJob) : Prop where
  | change (grown : Grown (JobChange effect outbox) (fun _ => False) outbox outbox')
  | join {job : ProjectionJob} (pending : job.state = .pending)
      (free : ¬ Waits ProjectionJob.agentId ProjectionJob.phase job.agentId outbox)
      (fresh : ∀ other ∈ outbox, other.id ≠ job.id) (joined : outbox' = outbox ++ [job])

/-- What a call does to the outbox. -/
abbrev JobSteps (effect : JobEffect) : List ProjectionJob → List ProjectionJob → Prop :=
  Relation.ReflTransGen (JobStep effect)

/-- The outbox between two statements. -/
structure OutboxSound (outbox : List ProjectionJob) : Prop where
  slots : Slots ProjectionJob.agentId ProjectionJob.phase outbox
  ids : Keyed ProjectionJob.id outbox

@[simp] theorem OutboxSound.nil : OutboxSound [] where
  slots := Slots.nil
  ids := Keyed.nil

/-! ### Jobs by their predicates -/

theorem waiting_iff {state : JobState} :
    [JobState.pending, .retry].contains state = true ↔ state.phase = .waiting := by
  cases state <;> decide

theorem isWaiting_iff {agentId : String} {job : ProjectionJob} :
    job.isWaiting agentId = true ↔ job.agentId = agentId ∧ job.phase = .waiting := by
  simp only [ProjectionJob.isWaiting, ProjectionJob.phase, Bool.and_eq_true, decide_eq_true_eq,
    waiting_iff]

theorem isRunning_iff {agentId : String} {job : ProjectionJob} :
    job.isRunning agentId = true ↔ job.agentId = agentId ∧ job.phase = .running := by
  simp only [ProjectionJob.isRunning, ProjectionJob.phase, Bool.and_eq_true, decide_eq_true_eq]
  cases job.state <;> simp [JobState.phase]

theorem isHeld_iff {id leaseToken : String} {job : ProjectionJob} :
    job.isHeld id leaseToken = true ↔
      job.id = id ∧ job.state = .processing ∧ job.leaseToken = some leaseToken := by
  simp only [ProjectionJob.isHeld, Bool.and_eq_true, decide_eq_true_eq, and_assoc]

theorem any_isWaiting {agentId : String} {outbox : List ProjectionJob} :
    outbox.any (ProjectionJob.isWaiting agentId) = true ↔
      Waits ProjectionJob.agentId ProjectionJob.phase agentId outbox := by
  rw [List.any_eq_true]
  exact exists_congr fun job => and_congr_right fun _ => isWaiting_iff

theorem any_isRunning {agentId : String} {outbox : List ProjectionJob} :
    outbox.any (ProjectionJob.isRunning agentId) = true ↔
      Runs ProjectionJob.agentId ProjectionJob.phase agentId outbox := by
  rw [List.any_eq_true]
  exact exists_congr fun job => and_congr_right fun _ => isRunning_iff

/-- Another job of the Agent waits: a job that runs is not the one that waits. -/
theorem any_newer {outbox : List ProjectionJob} (ids : Keyed ProjectionJob.id outbox)
    {job : ProjectionJob} (member : job ∈ outbox) (runs : job.state = .processing) :
    (outbox.any fun other => decide (other.id ≠ job.id) && other.isWaiting job.agentId) = true ↔
      Waits ProjectionJob.agentId ProjectionJob.phase job.agentId outbox := by
  rw [← any_isWaiting, List.any_eq_true, List.any_eq_true]
  apply exists_congr
  intro other
  apply and_congr_right
  intro otherMem
  rw [Bool.and_eq_true, decide_eq_true_eq, and_iff_right_iff_imp]
  intro waits same
  have one := ids.eq_of_key_eq otherMem member same
  rw [one, isWaiting_iff, ProjectionJob.phase, runs] at waits
  cases waits.2

/-- What a failed attempt makes of the job that it names. -/
theorem retryChange_change {effect : JobEffect} {outbox : List ProjectionJob} {input : JobRetry}
    {now availableAt : Nat} {job : ProjectionJob} (ids : Keyed ProjectionJob.id outbox)
    (member : job ∈ outbox) (runs : job.state = .processing) :
    JobChange effect outbox job
      (retryChange input
        (outbox.any fun other => decide (other.id ≠ job.id) && other.isWaiting job.agentId)
        now availableAt job) := by
  have newer := any_newer ids member runs
  cases waits : outbox.any fun other =>
      decide (other.id ≠ job.id) && other.isWaiting job.agentId with
  | true => exact JobChange.finish rfl rfl runs rfl fun _ => Or.inr ⟨rfl, newer.mp waits⟩
  | false =>
      have free := mt newer.mpr (Bool.eq_false_iff.mp waits)
      by_cases dead : input.attempts ≤ job.attempts
      · have state : (retryChange input false now availableAt job).state = .dead := by
          simp only [retryChange, JobRetry.state, dead, if_true, Bool.false_eq_true, if_false]
        refine JobChange.finish ?_ ?_ runs ?_ ?_
        · rfl
        · rfl
        · rw [ProjectionJob.phase, state]
          rfl
        · intro completed
          rw [state] at completed
          cases completed
      · refine JobChange.requeue ?_ ?_ runs ?_ free
        · rfl
        · rfl
        · simp only [retryChange, JobRetry.state, dead, Bool.false_eq_true, if_false]

/-! ### What the steps keep -/

variable {effect : JobEffect} {outbox outbox' : List ProjectionJob}

theorem JobStep.slot (step : JobStep effect outbox outbox') :
    SlotStep ProjectionJob.agentId ProjectionJob.phase outbox outbox' := by
  cases step with
  | change grown =>
      exact .change (grown.mono (fun _ _ _ _ change => ⟨change.agentId, change.slot⟩)
        fun _ _ new => new)
  | join pending free _ joined =>
      apply SlotStep.join _ free joined
      rw [ProjectionJob.phase, pending]
      rfl

theorem JobStep.sound (step : JobStep effect outbox outbox') (sound : OutboxSound outbox) :
    OutboxSound outbox' := by
  constructor
  · exact sound.slots.step step.slot
  · cases step with
    | change grown =>
        unfold Keyed
        rw [grown.map_eq fun _ _ change => change.id]
        exact sound.ids
    | join _ _ fresh joined =>
        rw [joined]
        exact sound.ids.snoc fresh

theorem JobSteps.sound (steps : JobSteps effect outbox outbox') (sound : OutboxSound outbox) :
    OutboxSound outbox' :=
  keeps_of_chain OutboxSound (fun _ _ sound step => step.sound sound) steps sound

/-- A waiting job goes on waiting until its Agent gets a lease. -/
theorem JobStep.waits (step : JobStep effect outbox outbox') {agentId : String}
    (waits : Waits ProjectionJob.agentId ProjectionJob.phase agentId outbox) :
    Waits ProjectionJob.agentId ProjectionJob.phase agentId outbox' ∨
      ∃ lease ∈ effect.taken, lease.agentId = agentId := by
  rcases step.slot.waits waits with still | ⟨index, old, new, before, after, owned, waited, runs⟩
  · exact Or.inl still
  · cases step with
    | change grown =>
        obtain ⟨later, stored, change⟩ := grown.kept index old before
        obtain rfl : later = new := Option.some.inj (stored.symm.trans after)
        have processing : later.state = .processing :=
          (of_decide_eq_true (Bool.and_eq_true_iff.mp (isRunning_iff.mpr ⟨rfl, runs⟩)).2)
        rcases change.token processing with same | ⟨lease, taken, issued⟩
        · rw [same, waited] at runs
          cases runs
        · refine Or.inr ⟨lease, taken, ?_⟩
          obtain ⟨token, -, rfl⟩ := Option.map_eq_some_iff.mp issued
          exact change.agentId.trans owned
    | join pending free fresh joined =>
        subst joined
        rw [List.getElem?_append_left (List.getElem?_eq_some_iff.mp before).1, before] at after
        obtain rfl : old = new := Option.some.inj after
        rw [waited] at runs
        cases runs

theorem JobSteps.waits (steps : JobSteps effect outbox outbox') {agentId : String}
    (waits : Waits ProjectionJob.agentId ProjectionJob.phase agentId outbox) :
    Waits ProjectionJob.agentId ProjectionJob.phase agentId outbox' ∨
      ∃ lease ∈ effect.taken, lease.agentId = agentId := by
  induction steps with
  | refl => exact Or.inl waits
  | tail _ step ih =>
      rcases ih with still | taken
      · exact step.waits still
      · exact Or.inr taken

/-- Some job is held under a token. -/
def Held (id leaseToken : String) (outbox : List ProjectionJob) : Prop :=
  ∃ job ∈ outbox, job.isHeld id leaseToken = true

/-- A job that is held under a token was held under it before, or got the lease. -/
theorem JobStep.held (step : JobStep effect outbox outbox') {id leaseToken : String}
    (held : Held id leaseToken outbox') :
    Held id leaseToken outbox ∨ ∃ lease ∈ effect.taken, lease.leaseToken = leaseToken := by
  obtain ⟨job, member, isHeld⟩ := held
  cases step with
  | change grown =>
      rcases grown.cases_of_mem member with ⟨old, oldMem, change⟩ | impossible
      · obtain ⟨-, processing, token⟩ := isHeld_iff.mp isHeld
        rcases change.token processing with rfl | ⟨lease, taken, issued⟩
        · exact Or.inl ⟨job, oldMem, isHeld⟩
        · refine Or.inr ⟨lease, taken, ?_⟩
          rw [ProjectionJob.lease?, token, Option.map_some, Option.some.injEq] at issued
          rw [← issued]
      · exact impossible.elim
  | join pending _ _ joined =>
      subst joined
      rcases List.mem_append.mp member with old | new
      · exact Or.inl ⟨job, old, isHeld⟩
      · rw [List.mem_singleton.mp new, isHeld_iff, pending] at isHeld
        cases isHeld.2.1

theorem JobSteps.held (steps : JobSteps effect outbox outbox') {id leaseToken : String}
    (held : Held id leaseToken outbox') :
    Held id leaseToken outbox ∨ ∃ lease ∈ effect.taken, lease.leaseToken = leaseToken := by
  induction steps with
  | refl => exact Or.inl held
  | tail _ step ih =>
      rcases step.held held with before | taken
      · exact ih before
      · exact Or.inr taken

/-- A later job of an Agent than the one at a position. -/
def HasNewer (index : Nat) (agentId : String) (outbox : List ProjectionJob) : Prop :=
  ∃ (later : Nat) (newer : ProjectionJob), index < later ∧ outbox[later]? = some newer ∧
    newer.agentId = agentId

/-- Jobs stay where they are. -/
theorem JobStep.hasNewer (step : JobStep effect outbox outbox') {index : Nat} {agentId : String}
    (newer : HasNewer index agentId outbox) : HasNewer index agentId outbox' := by
  obtain ⟨later, job, after, stored, owned⟩ := newer
  cases step with
  | change grown =>
      obtain ⟨job', stored', change⟩ := grown.kept later job stored
      exact ⟨later, job', after, stored', change.agentId.trans owned⟩
  | join _ _ _ joined =>
      subst joined
      exact ⟨later, job, after,
        (List.getElem?_append_left (List.getElem?_eq_some_iff.mp stored).1).trans stored, owned⟩

/-- The job of an Agent that waits comes after the one that runs. -/
theorem OutboxSound.hasNewer (sound : OutboxSound outbox) {index : Nat} {job : ProjectionJob}
    (stored : outbox[index]? = some job) (runs : job.state = .processing)
    (waits : Waits ProjectionJob.agentId ProjectionJob.phase job.agentId outbox) :
    HasNewer index job.agentId outbox := by
  obtain ⟨newer, member, owned, waiting⟩ := waits
  obtain ⟨later, storedNewer⟩ := List.mem_iff_getElem?.mp member
  have notAfter := sound.slots.last later index newer job ⟨storedNewer, stored, owned⟩ waiting
  refine ⟨later, newer, ?_, storedNewer, owned⟩
  apply Nat.lt_of_le_of_ne notAfter
  intro same
  rw [same, storedNewer, Option.some.injEq] at stored
  rw [ProjectionJob.phase, stored, runs] at waiting
  cases waiting

/-- What a call completes besides the job that it names is superseded by a later job. -/
theorem JobSteps.completed (steps : JobSteps effect outbox outbox') (sound : OutboxSound outbox)
    (other : effect.completes = false) {index : Nat} {new : ProjectionJob}
    (stored : outbox'[index]? = some new) (done : new.state = .completed) :
    (∃ old, outbox[index]? = some old ∧ old.state = .completed) ∨
      (new.resultSummary = superseded ∧ HasNewer index new.agentId outbox') := by
  induction steps generalizing new with
  | refl => exact Or.inl ⟨new, stored, done⟩
  | @tail middle last steps step ih =>
      have middleSound := JobSteps.sound steps sound
      have later : ∀ job, middle[index]? = some job → job.state = .completed → new = job →
          (∃ old, outbox[index]? = some old ∧ old.state = .completed) ∨
            (new.resultSummary = superseded ∧ HasNewer index new.agentId last) := by
        intro job before completed same
        rcases ih before completed with old | ⟨summary, newer⟩
        · exact Or.inl old
        · rw [same]
          exact Or.inr ⟨summary, step.hasNewer newer⟩
      cases step with
      | change grown =>
          obtain ⟨job, before, change⟩ := grown.before stored
          rcases change.completed done with completed | completes | ⟨ran, summary, waits⟩
          · exact later job before completed (change.final completed)
          · rw [other] at completes
            cases completes
          · have newer := middleSound.hasNewer before ran waits
            rw [← change.agentId] at newer
            exact Or.inr ⟨summary, (JobStep.change grown).hasNewer newer⟩
      | join pending free fresh joined =>
          subst joined
          rcases getElem?_snoc stored with before | ⟨-, rfl⟩
          · exact later new before done rfl
          · rw [pending] at done
            cases done

/-- More leases allow more. -/
theorem JobStep.mono {effect' : JobEffect} (step : JobStep effect outbox outbox')
    (taken : ∀ lease ∈ effect.taken, lease ∈ effect'.taken)
    (completes : effect.completes = true → effect'.completes = true) :
    JobStep effect' outbox outbox' := by
  cases step with
  | change grown =>
      apply JobStep.change
      apply grown.mono _ fun _ _ new => new
      intro old _ new _ change
      exact {
        id := change.id
        agentId := change.agentId
        slot := change.slot
        final := change.final
        token := fun processing => (change.token processing).imp_right
          fun ⟨lease, member, issued⟩ => ⟨lease, taken lease member, issued⟩
        completed := fun done => (change.completed done).imp_right (Or.imp_left completes) }
  | join pending free fresh joined => exact .join pending free fresh joined

theorem JobSteps.mono {effect' : JobEffect} (steps : JobSteps effect outbox outbox')
    (taken : ∀ lease ∈ effect.taken, lease ∈ effect'.taken)
    (completes : effect.completes = true → effect'.completes = true) :
    JobSteps effect' outbox outbox' := by
  induction steps with
  | refl => exact .refl
  | tail _ step ih => exact ih.tail (step.mono taken completes)

end BairuiPlatform
