/-
Module: BairuiPlatform.Notes.PostgresCalls
Purpose: The effect on the outbox of every transaction of PostgresPlatformRepository.
Trusted boundary: none
Main exports: Postgres.enqueueMemoryProjection_ok, Postgres.leaseMemoryProjectionJob_ok,
  Postgres.completeMemoryProjectionJob_ok, Postgres.retryMemoryProjectionJob_ok,
  Postgres.retrySuperseded_ok
-/
import BairuiPlatform.Notes.Outbox
import BairuiPlatform.Notes.Postgres

namespace BairuiPlatform.Postgres

open Foundations

variable {effect : JobEffect} {env : NoteEnv} {store final : NoteStore}

theorem writeOutbox_ok {change : List ProjectionJob → List ProjectionJob} {answer : Unit}
    (ran : (writeOutbox change).eval store = .ok (answer, final)) :
    final = { store with outbox := change store.outbox } :=
  (Tx.eval_insert_ok.mp ran).2

theorem writeNotes_ok {change : List ObsidianNote → List ObsidianNote} {answer : Unit}
    (ran : (writeNotes change).eval store = .ok (answer, final)) :
    final = { store with notes := change store.notes } :=
  (Tx.eval_insert_ok.mp ran).2

/-! ### Requests -/

/-- A request is merged into the job that waits, or joins as a new job. -/
theorem upsert_step {input : EnqueueInput} {reason : String} {outbox : List ProjectionJob}
    (fresh : ∀ job ∈ outbox, job.id ≠ env.uuids 0) :
    JobStep effect outbox
      (upsert (ProjectionJob.isWaiting input.agentId) (enqueueChange reason env.now)
        (input.job (env.uuids 0) reason env.now) outbox) := by
  unfold upsert
  split
  · apply JobStep.change
    apply Grown.updateWhere JobChange.refl
    intro job _ waiting
    exact JobChange.merge rfl rfl (isWaiting_iff.mp waiting).2 rfl
  · rename_i free
    exact JobStep.join rfl (mt any_isWaiting.mpr free) fresh rfl

/-- The outbox after a request. -/
theorem enqueueMemoryProjection_ok {input : EnqueueInput} {answer : Option ProjectionJob}
    (ran : (enqueueMemoryProjection env input).eval store = .ok (answer, final))
    (fresh : ∀ job ∈ store.outbox, job.id ≠ env.uuids 0) :
    JobSteps effect store.outbox final.outbox ∧
      Waits ProjectionJob.agentId ProjectionJob.phase input.agentId final.outbox := by
  simp only [enqueueMemoryProjection, Tx.eval_bind_ok, Tx.eval_require_ok] at ran
  obtain ⟨_, first, ⟨-, unchanged⟩, _, middle, wrote, read⟩ := ran
  obtain rfl : store = first := unchanged.symm
  obtain rfl : middle = final := by
    simp only [Tx.eval_read, Except.ok.injEq, Prod.mk.injEq] at read
    exact read.2
  rw [writeOutbox_ok wrote]
  dsimp only
  refine ⟨Relation.ReflTransGen.single (upsert_step fresh), ?_⟩
  apply any_isWaiting.mp
  apply any_upsert
  · intro job waiting
    exact isWaiting_iff.mpr ⟨(isWaiting_iff.mp waiting).1, rfl⟩
  · exact isWaiting_iff.mpr ⟨rfl, rfl⟩

/-- A request leaves the notes. -/
theorem enqueueMemoryProjection_notes {input : EnqueueInput} {answer : Option ProjectionJob}
    (ran : (enqueueMemoryProjection env input).eval store = .ok (answer, final)) :
    final.notes = store.notes := by
  simp only [enqueueMemoryProjection, Tx.eval_bind_ok, Tx.eval_require_ok, Tx.eval_read] at ran
  obtain ⟨_, first, ⟨-, rfl⟩, _, middle, wrote, read⟩ := ran
  obtain ⟨-, rfl⟩ := Prod.mk.inj (Except.ok.inj read)
  rw [writeOutbox_ok wrote]

/-- The notes after a note was created. -/
theorem createObsidianNote_notes {input : NoteInput} {answer : Option ObsidianNote}
    (ran : (createObsidianNote env input).eval store = .ok (answer, final)) :
    final.notes = upsert input.isDuplicate (input.replaced env.now)
      (input.created (input.id.getD (env.uuids 1)) env.now) store.notes := by
  simp only [createObsidianNote, Tx.eval_bind_ok, Tx.eval_read] at ran
  obtain ⟨_, middle, wrote, _, last, queued, read⟩ := ran
  obtain ⟨-, rfl⟩ := Prod.mk.inj (Except.ok.inj read)
  have notes : last.notes = middle.notes := by
    simp only [queueProjection, Tx.eval_whenever_ok, Tx.eval_bind_ok] at queued
    rcases queued with ⟨-, job, after, enqueued, done⟩ | ⟨-, same⟩
    · obtain ⟨-, rfl⟩ := Prod.mk.inj (Except.ok.inj done)
      exact enqueueMemoryProjection_notes enqueued
    · rw [same]
  rw [notes, writeNotes_ok wrote]

/-- The outbox after a note was written. -/
theorem queueProjection_ok {input : NoteInput} {answer : Unit}
    (ran : (queueProjection env input).eval store = .ok (answer, final))
    (fresh : ∀ job ∈ store.outbox, job.id ≠ env.uuids 0) :
    JobSteps effect store.outbox final.outbox ∧
      (input.queues = true →
        Waits ProjectionJob.agentId ProjectionJob.phase input.agentId final.outbox) := by
  simp only [queueProjection, Tx.eval_whenever_ok, Tx.eval_bind_ok] at ran
  rcases ran with ⟨-, job, middle, enqueued, done⟩ | ⟨silent, rfl⟩
  · obtain rfl : middle = final := by
      simp only [Tx.eval_pure, Except.ok.injEq, Prod.mk.injEq] at done
      exact done.2
    obtain ⟨steps, waits⟩ := enqueueMemoryProjection_ok enqueued fresh
    exact ⟨steps, fun _ => waits⟩
  · exact ⟨.refl, fun queues => absurd queues silent⟩

/-- The outbox after a note was created. -/
theorem createObsidianNote_ok {input : NoteInput} {answer : Option ObsidianNote}
    (ran : (createObsidianNote env input).eval store = .ok (answer, final))
    (fresh : ∀ job ∈ store.outbox, job.id ≠ env.uuids 0) :
    JobSteps effect store.outbox final.outbox ∧
      (input.queues = true →
        Waits ProjectionJob.agentId ProjectionJob.phase input.agentId final.outbox) := by
  simp only [createObsidianNote, Tx.eval_bind_ok] at ran
  obtain ⟨_, middle, wrote, _, last, queued, read⟩ := ran
  obtain rfl : last = final := by
    simp only [Tx.eval_read, Except.ok.injEq, Prod.mk.injEq] at read
    exact read.2
  rw [writeNotes_ok wrote] at queued
  obtain ⟨steps, waits⟩ := queueProjection_ok queued fresh
  exact ⟨steps, waits⟩

/-- The outbox after a note was updated, if it was there. -/
theorem updateObsidianNote_ok {noteId : String} {input : NoteInput}
    {answer : Option ObsidianNote}
    (ran : (updateObsidianNote env noteId input).eval store = .ok (answer, final))
    (fresh : ∀ job ∈ store.outbox, job.id ≠ env.uuids 0) :
    JobSteps effect store.outbox final.outbox ∧
      (answer.isSome = true → input.queues = true →
        Waits ProjectionJob.agentId ProjectionJob.phase input.agentId final.outbox) := by
  simp only [updateObsidianNote, Tx.eval_bind_ok] at ran
  obtain ⟨_, middle, wrote, updated, middle', read, _, last, queued, done⟩ := ran
  simp only [Tx.eval_read, Except.ok.injEq, Prod.mk.injEq] at read
  obtain ⟨-, rfl⟩ := read
  simp only [Tx.eval_pure, Except.ok.injEq, Prod.mk.injEq] at done
  obtain ⟨rfl, rfl⟩ := done
  rw [writeNotes_ok wrote] at queued
  rcases Tx.eval_whenever_ok.mp queued with ⟨-, ran⟩ | ⟨missing, rfl⟩
  · obtain ⟨steps, waits⟩ := queueProjection_ok ran fresh
    exact ⟨steps, fun _ => waits⟩
  · exact ⟨.refl, fun found => absurd found missing⟩

/-- The outbox after a note was deleted, if it was there. -/
theorem deleteObsidianNote_ok {organizationId userId agentId noteId : String} {answer : Bool}
    (ran : (deleteObsidianNote env organizationId userId agentId noteId).eval store =
      .ok (answer, final))
    (fresh : ∀ job ∈ store.outbox, job.id ≠ env.uuids 0) :
    JobSteps effect store.outbox final.outbox ∧
      (answer = true →
        Waits ProjectionJob.agentId ProjectionJob.phase agentId final.outbox) := by
  simp only [deleteObsidianNote, Tx.eval_read_bind, Tx.eval_write_bind, Tx.eval_bind_ok,
    Tx.eval_whenever_ok] at ran
  obtain ⟨_, last, deleted, done⟩ := ran
  simp only [Tx.eval_pure, Except.ok.injEq, Prod.mk.injEq] at done
  obtain ⟨rfl, rfl⟩ := done
  rcases deleted with ⟨-, job, middle, enqueued, done⟩ | ⟨missing, rfl⟩
  · obtain rfl : middle = last := by
      simp only [Tx.eval_pure, Except.ok.injEq, Prod.mk.injEq] at done
      exact done.2
    obtain ⟨steps, waits⟩ := enqueueMemoryProjection_ok enqueued fresh
    exact ⟨steps, fun _ => waits⟩
  · exact ⟨.refl, fun found => absurd (of_decide_eq_true found) missing⟩

/-! ### Leases -/

theorem isExpired_processing {time : Nat → Nat} {now : Nat} {job : ProjectionJob}
    (expired : job.isExpired time now = true) : job.state = .processing := by
  simp only [ProjectionJob.isExpired, Bool.and_eq_true, decide_eq_true_eq] at expired
  exact expired.1

/-- The statement that supersedes the jobs whose leases ran out while another job waits. -/
def supersedeExpired (now : Nat) (outbox : List ProjectionJob) : List ProjectionJob :=
  updateWhere
    (fun job => job.isExpired id now && outbox.any (ProjectionJob.isWaiting job.agentId))
    (supersedeChange now) outbox

theorem supersedeExpired_step (now : Nat) (outbox : List ProjectionJob) :
    JobStep effect outbox (supersedeExpired now outbox) := by
  apply JobStep.change
  apply Grown.updateWhere JobChange.refl
  intro job _ chosen
  obtain ⟨expired, waits⟩ := Bool.and_eq_true_iff.mp chosen
  exact JobChange.finish rfl rfl (isExpired_processing expired) rfl
    fun _ => Or.inr ⟨rfl, any_isWaiting.mp waits⟩

/-- Where a lease ran out and the job was not superseded, no job of the Agent waits. -/
theorem free_of_supersedeExpired {now : Nat} {outbox : List ProjectionJob} {job : ProjectionJob}
    (member : job ∈ supersedeExpired now outbox) (expired : job.isExpired id now = true) :
    ¬ Waits ProjectionJob.agentId ProjectionJob.phase job.agentId
      (supersedeExpired now outbox) := by
  intro ⟨other, otherMem, owned, waits⟩
  rcases mem_updateWhere.mp otherMem with ⟨old, -, -, rfl⟩ | ⟨kept, -⟩
  · cases waits
  · rcases mem_updateWhere.mp member with ⟨old, -, -, rfl⟩ | ⟨-, skipped⟩
    · cases isExpired_processing expired
    · rw [expired, Bool.true_and, ← Bool.not_eq_true] at skipped
      exact skipped (any_isWaiting.mpr ⟨other, kept, owned, waits⟩)

/-- The jobs whose leases ran out. -/
theorem reclaimExpired_ok {answer : Unit}
    (ran : (reclaimExpired env).eval store = .ok (answer, final)) :
    JobSteps effect store.outbox final.outbox := by
  simp only [reclaimExpired, Tx.eval_bind_ok] at ran
  obtain ⟨_, middle, superseded, reclaimed⟩ := ran
  obtain rfl := writeOutbox_ok superseded
  rw [writeOutbox_ok reclaimed]
  refine Relation.ReflTransGen.tail (.single (supersedeExpired_step env.now store.outbox)) ?_
  apply JobStep.change
  apply Grown.updateWhere JobChange.refl
  intro job member expired
  exact JobChange.requeue rfl rfl (isExpired_processing expired) rfl
    (free_of_supersedeExpired member expired)

/-- The job that the query answers waits, and no job of its Agent runs. -/
theorem candidate?_spec {outbox : List ProjectionJob} {job : ProjectionJob}
    (selected : candidate? env outbox = some job) :
    job ∈ outbox ∧ job.phase = .waiting ∧
      ¬ Runs ProjectionJob.agentId ProjectionJob.phase job.agentId outbox := by
  obtain ⟨position, member, stored⟩ := List.mem_filterMap.mp (List.mem_of_head? selected)
  obtain ⟨candidate, found, chosen⟩ := ready_of_mem_positionsOf member
  obtain rfl : candidate = job := Option.some.inj (found.symm.trans stored)
  simp only [isCandidate, ProjectionJob.isReady, Bool.and_eq_true, Bool.not_eq_true',
    waiting_iff, and_assoc] at chosen
  obtain ⟨waits, -, -, free⟩ := chosen
  exact ⟨List.mem_of_getElem? stored, waits,
    fun runs => absurd (any_isRunning.mpr runs) (Bool.eq_false_iff.mp free)⟩

/-- The job that is leased. -/
theorem leaseCandidate_ok {input : JobLeaseInput} {answer : Option ProjectionJob}
    (ran : (leaseCandidate env input).eval store = .ok (answer, final))
    (ids : Keyed ProjectionJob.id store.outbox) :
    JobSteps { taken := answer.toList.filterMap ProjectionJob.lease? } store.outbox
        final.outbox ∧
      ∀ job ∈ answer, job.leaseToken = some (env.uuids 0) := by
  simp only [leaseCandidate, Tx.eval_read_bind] at ran
  split at ran
  · simp only [Tx.eval_pure, Except.ok.injEq, Prod.mk.injEq] at ran
    obtain ⟨rfl, rfl⟩ := ran
    exact ⟨.refl, fun job member => by cases member⟩
  · rename_i candidate selected
    obtain ⟨member, waits, free⟩ := candidate?_spec selected
    simp only [Tx.eval_bind_ok] at ran
    obtain ⟨_, middle, wrote, read⟩ := ran
    simp only [Tx.eval_read, Except.ok.injEq, Prod.mk.injEq] at read
    obtain ⟨answered, rfl⟩ := read
    rw [writeOutbox_ok wrote] at answered ⊢
    dsimp only at answered ⊢
    -- the answer is the job that was leased, read back by its key
    have keeps : ∀ other, decide ((leaseChange (env.uuids 0)
        (env.now + input.seconds * 1000000) env.now other).id = candidate.id) =
          decide (other.id = candidate.id) := fun _ => rfl
    rw [find?_updateWhere_map keeps, ids.find?_eq_some.mpr ⟨member, rfl⟩, Option.map_some,
      if_pos (decide_eq_true rfl)] at answered
    rw [← answered]
    constructor
    · apply Relation.ReflTransGen.single
      apply JobStep.change
      apply Grown.updateWhere JobChange.refl
      intro job jobMem same
      obtain rfl : job = candidate := ids.eq_of_key_eq jobMem member (of_decide_eq_true same)
      refine JobChange.lease ?_ ?_ waits ?_ free ?_
      · rfl
      · rfl
      · rfl
      · exact ⟨_, List.mem_cons_self, rfl⟩
    · intro job isAnswer
      rw [← Option.some.inj isAnswer]
      rfl

/-- One iteration of a lease call hands out the job that it answers. -/
theorem leaseMemoryProjectionJob_ok {input : JobLeaseInput} {answer : Option ProjectionJob}
    (ran : (leaseMemoryProjectionJob env input).eval store = .ok (answer, final))
    (sound : OutboxSound store.outbox) :
    JobSteps { taken := answer.toList.filterMap ProjectionJob.lease? } store.outbox
        final.outbox ∧
      ∀ job ∈ answer, job.leaseToken = some (env.uuids 0) := by
  simp only [leaseMemoryProjectionJob, Tx.eval_bind_ok] at ran
  obtain ⟨_, middle, reclaimed, leased⟩ := ran
  have early : JobSteps { taken := answer.toList.filterMap ProjectionJob.lease? } store.outbox
      middle.outbox := reclaimExpired_ok reclaimed
  obtain ⟨steps, tokens⟩ := leaseCandidate_ok leased (early.sound sound).ids
  exact ⟨early.trans steps, tokens⟩

/-! ### Reports -/

/-- A completed job ends. -/
theorem completeMemoryProjectionJob_ok {input : JobCompletion} {answer : Unit}
    (ran : (completeMemoryProjectionJob env input).eval store = .ok (answer, final)) :
    JobSteps { completes := true } store.outbox final.outbox := by
  rw [writeOutbox_ok ran]
  apply Relation.ReflTransGen.single
  apply JobStep.change
  apply Grown.updateWhere JobChange.refl
  intro job _ held
  exact JobChange.finish rfl rfl (isHeld_iff.mp held).2.1 rfl fun _ => Or.inl rfl

/-- A failed attempt ends the job, or lets it wait again when no other job of the Agent
waits. -/
theorem retryMemoryProjectionJob_ok {input : JobRetry} {answer : Unit}
    (ran : (retryMemoryProjectionJob env input).eval store = .ok (answer, final))
    (ids : Keyed ProjectionJob.id store.outbox) :
    JobSteps effect store.outbox final.outbox := by
  simp only [retryMemoryProjectionJob, Tx.eval_read_bind] at ran
  split at ran
  · simp only [Tx.eval_pure, Except.ok.injEq, Prod.mk.injEq] at ran
    obtain ⟨-, rfl⟩ := ran
    exact .refl
  · rename_i current found
    have member := List.mem_of_find?_eq_some found
    obtain ⟨own, processing, token⟩ := isHeld_iff.mp (List.find?_some found)
    rw [writeOutbox_ok ran]
    apply Relation.ReflTransGen.single
    apply JobStep.change
    apply Grown.updateWhere JobChange.refl
    intro job jobMem chosen
    have same := of_decide_eq_true (Bool.and_eq_true_iff.mp chosen).1
    obtain rfl : job = current := ids.eq_of_key_eq jobMem member (same.trans own.symm)
    exact retryChange_change ids member processing

/-- A job whose retry met another one is superseded by it. -/
theorem retrySuperseded_ok {input : JobRetry} {answer : Unit}
    (ran : (retrySuperseded env input).eval store = .ok (answer, final))
    (ids : Keyed ProjectionJob.id store.outbox) :
    JobSteps effect store.outbox final.outbox := by
  rw [writeOutbox_ok ran]
  apply Relation.ReflTransGen.single
  apply JobStep.change
  apply Grown.updateWhere JobChange.refl
  intro job member chosen
  obtain ⟨held, newer⟩ := Bool.and_eq_true_iff.mp chosen
  have processing := (isHeld_iff.mp held).2.1
  exact JobChange.finish rfl rfl processing rfl
    fun _ => Or.inr ⟨rfl, (any_newer ids member processing).mp newer⟩

end BairuiPlatform.Postgres
