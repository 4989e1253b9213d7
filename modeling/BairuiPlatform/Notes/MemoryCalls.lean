/-
Module: BairuiPlatform.Notes.MemoryCalls
Purpose: The effect on the outbox of every method of MemoryPlatformRepository.
Trusted boundary: none
Main exports: Memory.enqueued_steps, Memory.leaseMemoryProjectionJobs_steps,
  Memory.completeMemoryProjectionJob_steps, Memory.retryMemoryProjectionJob_steps
-/
import BairuiPlatform.Notes.Memory
import BairuiPlatform.Notes.Outbox

namespace BairuiPlatform.Memory

open Foundations

variable {effect : JobEffect} {env : NoteEnv} {outbox : List ProjectionJob}

/-! ### Requests -/

/-- A request is merged into the job that waits, or joins as a new job. -/
theorem enqueued_steps {input : EnqueueInput} {reason : String}
    (fresh : ∀ job ∈ outbox, job.id ≠ env.uuids 0) :
    JobSteps effect outbox (enqueued env input reason outbox) := by
  apply Relation.ReflTransGen.single
  unfold enqueued
  dsimp only
  split
  · apply JobStep.change
    apply Grown.updateFirst JobChange.refl
    intro job found
    exact JobChange.merge rfl rfl (isWaiting_iff.mp (List.find?_some found)).2 rfl
  · rename_i free
    exact JobStep.join rfl (mt any_isWaiting.mpr free) fresh rfl

/-- After a request a job of the Agent waits. -/
theorem waits_enqueued {input : EnqueueInput} {reason : String}
    (fresh : ∀ job ∈ outbox, job.id ≠ env.uuids 0) :
    Waits ProjectionJob.agentId ProjectionJob.phase input.agentId
      (enqueued env input reason outbox) := by
  by_cases waits : Waits ProjectionJob.agentId ProjectionJob.phase input.agentId outbox
  · have steps : JobSteps {} outbox (enqueued env input reason outbox) := enqueued_steps fresh
    rcases steps.waits waits with still | ⟨lease, taken, -⟩
    · exact still
    · cases taken
  · have none : outbox.any (ProjectionJob.isWaiting input.agentId) ≠ true :=
      mt any_isWaiting.mp waits
    unfold enqueued
    dsimp only
    rw [if_neg none]
    exact ⟨_, List.mem_append_right _ List.mem_cons_self, rfl, rfl⟩

/-! ### Leases -/

/-- The request that a written note makes leaves the notes. -/
theorem queueProjection_notes {input : NoteInput} {note answer : Option ObsidianNote}
    {store final : NoteStore} (ran : queueProjection env input note store = (.ok answer, final)) :
    final.notes = store.notes := by
  simp only [queueProjection, enqueueMemoryProjection] at ran
  split at ran
  · split at ran
    · rename_i enqueued
      rw [(Prod.mk.inj ran).2] at enqueued
      split at enqueued
      · rw [← (Prod.mk.inj enqueued).2]
      · cases (Prod.mk.inj enqueued).1
    · cases (Prod.mk.inj ran).1
  · rw [(Prod.mk.inj ran).2]

/-- A job whose lease ran out is superseded or waits again. -/
theorem reclaim_steps (now : Nat) {position : Nat} {job : ProjectionJob}
    (ids : Keyed ProjectionJob.id outbox) (stored : outbox[position]? = some job)
    (runs : job.state = .processing) :
    JobSteps effect outbox (reclaim now outbox position) := by
  apply Relation.ReflTransGen.single
  apply JobStep.change
  simp only [reclaim, stored]
  apply Grown.modify JobChange.refl
  intro other found
  obtain rfl : job = other := Option.some.inj (stored.symm.trans found)
  have newer := any_newer ids (List.mem_of_getElem? stored) runs
  split
  · rename_i waits
    exact JobChange.finish rfl rfl runs rfl fun _ => Or.inr ⟨rfl, newer.mp waits⟩
  · rename_i free
    exact JobChange.requeue rfl rfl runs rfl (mt newer.mpr free)

/-- The other jobs stay as they are. -/
theorem getElem?_reclaim_of_ne {now position other : Nat} (apart : position ≠ other) :
    (reclaim now outbox position)[other]? = outbox[other]? := by
  unfold reclaim
  split
  · rfl
  · exact List.getElem?_modify_ne _ _ apart

/-- The loop over the jobs whose leases ran out. -/
theorem foldl_reclaim_steps (now : Nat) {positions : List Nat} (sound : OutboxSound outbox)
    (distinct : positions.Nodup)
    (running : ∀ position ∈ positions, ∃ job, outbox[position]? = some job ∧
      job.state = .processing) :
    JobSteps effect outbox (positions.foldl (reclaim now) outbox) := by
  induction positions generalizing outbox with
  | nil => exact .refl
  | cons position positions ih =>
      obtain ⟨absent, rest⟩ := List.nodup_cons.mp distinct
      obtain ⟨job, stored, runs⟩ := running position List.mem_cons_self
      have first : JobSteps effect outbox (reclaim now outbox position) :=
        reclaim_steps now sound.ids stored runs
      rw [List.foldl_cons]
      apply first.trans
      apply ih (first.sound sound) rest
      intro other member
      have apart : position ≠ other := fun same => absent (same ▸ member)
      rw [getElem?_reclaim_of_ne apart]
      exact running other (List.mem_cons_of_mem _ member)

theorem expiredPositions_spec (now : Nat) (outbox : List ProjectionJob) :
    (expiredPositions now outbox).Nodup ∧
      ∀ position ∈ expiredPositions now outbox, ∃ job, outbox[position]? = some job ∧
        job.state = .processing := by
  constructor
  · have indices : (outbox.zipIdx.map Prod.snd).Nodup := by
      rw [List.zipIdx_map_snd]
      exact List.nodup_range'
    exact List.Nodup.sublist (List.filter_sublist.map Prod.snd) indices
  · intro position member
    obtain ⟨⟨job, index⟩, selected, rfl⟩ := List.mem_map.mp member
    obtain ⟨entry, expired⟩ := List.mem_filter.mp selected
    simp only [ProjectionJob.isExpired, Bool.and_eq_true, decide_eq_true_eq] at expired
    exact ⟨job, List.mem_zipIdx_iff_getElem?.mp entry, expired.1⟩

/-- What the loop over the candidates comes to: it hands out the jobs that it answers, and
leaves the jobs that run as they are. -/
structure HandsOut (env : NoteEnv) (leased : List Nat) (outbox : List ProjectionJob)
    (more : List Nat) (result : List Nat × List ProjectionJob) : Prop where
  answer : result.1 = leased ++ more
  tokens : ∀ job ∈ more.filterMap (result.2[·]?), ∃ index,
    job.leaseToken = some (env.uuids index)
  steps : JobSteps
    { taken := (more.filterMap (result.2[·]?)).filterMap ProjectionJob.lease? } outbox result.2
  running : ∀ (position : Nat) (job : ProjectionJob), outbox[position]? = some job →
    job.phase = .running → result.2[position]? = some job

theorem HandsOut.idle {leased : List Nat} : HandsOut env leased outbox [] (leased, outbox) where
  answer := (List.append_nil leased).symm
  tokens job member := by cases member
  steps := .refl
  running _ _ stored _ := stored

/-- A job that waits is handed out. -/
theorem HandsOut.cons {leased more : List Nat} {result : List Nat × List ProjectionJob}
    {position expiresAt now index : Nat} {job : ProjectionJob}
    (stored : outbox[position]? = some job) (waits : job.phase = .waiting)
    (free : ¬ Runs ProjectionJob.agentId ProjectionJob.phase job.agentId outbox)
    (rest : HandsOut env (leased ++ [position])
      (outbox.modify position (leaseChange (env.uuids index) expiresAt now)) more result) :
    HandsOut env leased outbox (position :: more) result := by
  have handed : (outbox.modify position
      (leaseChange (env.uuids index) expiresAt now))[position]? =
        some (leaseChange (env.uuids index) expiresAt now job) := by
    rw [List.getElem?_modify_eq, stored]
    rfl
  have final := rest.running position _ handed rfl
  have taken : (position :: more).filterMap (result.2[·]?) =
      leaseChange (env.uuids index) expiresAt now job :: more.filterMap (result.2[·]?) :=
    List.filterMap_cons_some final
  constructor
  case answer => rw [rest.answer, List.append_assoc, List.singleton_append]
  case tokens =>
    intro other member
    rw [taken] at member
    rcases List.mem_cons.mp member with rfl | later
    · exact ⟨index, rfl⟩
    · exact rest.tokens other later
  case steps =>
    have issued : (leaseChange (env.uuids index) expiresAt now job).lease? =
        some { id := job.id, leaseToken := env.uuids index, agentId := job.agentId } := rfl
    rw [taken, List.filterMap_cons_some issued]
    refine Relation.ReflTransGen.head ?_
      (rest.steps.mono (fun lease member => List.mem_cons_of_mem _ member) id)
    apply JobStep.change
    apply Grown.modify JobChange.refl
    intro other found
    obtain rfl : job = other := Option.some.inj (stored.symm.trans found)
    exact JobChange.lease rfl rfl waits rfl free ⟨_, List.mem_cons_self, issued⟩
  case running =>
    intro other running storedOther runs
    apply rest.running other running _ runs
    have apart : position ≠ other := by
      intro same
      rw [same, storedOther, Option.some.injEq] at stored
      rw [← stored, runs] at waits
      cases waits
    rw [List.getElem?_modify_ne _ _ apart]
    exact storedOther

/-- The loop over candidates that wait, unless they were handed out already. -/
theorem leaseCandidates_handsOut (env : NoteEnv) (input : JobLeaseInput) {positions : List Nat}
    (leased : List Nat)
    (candidates : ∀ position ∈ positions, ∀ job, outbox[position]? = some job →
      job.phase = .waiting ∨ job.phase = .running) :
    ∃ more, HandsOut env leased outbox more
      (leaseCandidates env input positions leased outbox) := by
  induction positions generalizing leased outbox with
  | nil => exact ⟨[], HandsOut.idle⟩
  | cons position positions ih =>
      have rest : ∀ other ∈ positions, ∀ job, outbox[other]? = some job →
          job.phase = .waiting ∨ job.phase = .running :=
        fun other member => candidates other (List.mem_cons_of_mem _ member)
      unfold leaseCandidates
      split
      · exact ⟨[], HandsOut.idle⟩
      · split
        · exact ih leased rest
        · rename_i job stored
          split
          · exact ih leased rest
          · rename_i notRunning
            have free : ¬ Runs ProjectionJob.agentId ProjectionJob.phase job.agentId outbox :=
              mt any_isRunning.mpr notRunning
            have waits : job.phase = .waiting := by
              rcases candidates position List.mem_cons_self job stored with waits | runs
              · exact waits
              · exact absurd ⟨job, List.mem_of_getElem? stored, rfl, runs⟩ free
            have later : ∀ other ∈ positions, ∀ candidate,
                (outbox.modify position
                  (leaseChange (env.uuids leased.length)
                    (ofMillis (dateNow env.now + input.seconds * 1000))
                    (isoNow env.now)))[other]? = some candidate →
                  candidate.phase = .waiting ∨ candidate.phase = .running := by
              intro other member candidate found
              rw [List.getElem?_modify] at found
              obtain ⟨old, before, changed⟩ := Option.map_eq_some_iff.mp found
              split at changed
              · rw [← changed]
                exact Or.inr rfl
              · rw [← changed]
                exact rest other member old before
            obtain ⟨more, handed⟩ := ih (leased ++ [position]) later
            exact ⟨position :: more, handed.cons stored waits free⟩

/-- The candidates of a lease call wait. -/
theorem candidatePositions_spec {now position : Nat} {job : ProjectionJob}
    (member : position ∈ candidatePositions now outbox) (stored : outbox[position]? = some job) :
    job.phase = .waiting := by
  obtain ⟨candidate, found, ready⟩ := ready_of_mem_positionsOf member
  obtain rfl : candidate = job := Option.some.inj (found.symm.trans stored)
  simp only [ProjectionJob.isReady, Bool.and_eq_true, waiting_iff] at ready
  exact ready.1

/-- A lease call hands out the jobs that it answers, under new tokens. -/
theorem leaseMemoryProjectionJobs_steps (env : NoteEnv) (input : JobLeaseInput)
    {store : NoteStore} (sound : OutboxSound store.outbox) :
    JobSteps
        { taken :=
            (leaseMemoryProjectionJobs env input store).1.filterMap ProjectionJob.lease? }
        store.outbox (leaseMemoryProjectionJobs env input store).2.outbox ∧
      ∀ job ∈ (leaseMemoryProjectionJobs env input store).1, ∃ index,
        job.leaseToken = some (env.uuids index) := by
  obtain ⟨distinct, running⟩ := expiredPositions_spec (dateNow env.now) store.outbox
  simp only [leaseMemoryProjectionJobs]
  generalize reclaimed : (expiredPositions (dateNow env.now) store.outbox).foldl
    (reclaim (isoNow env.now)) store.outbox = outbox
  obtain ⟨more, handed⟩ := leaseCandidates_handsOut env input []
    fun position (member : position ∈ candidatePositions (dateNow env.now) outbox) job stored =>
      Or.inl (candidatePositions_spec member stored)
  have answered := handed.answer
  rw [List.nil_append] at answered
  rw [answered]
  refine ⟨Relation.ReflTransGen.trans ?_ handed.steps, handed.tokens⟩
  rw [← reclaimed]
  exact foldl_reclaim_steps (isoNow env.now) sound distinct running

/-! ### Reports -/

/-- A completed job ends. -/
theorem completeMemoryProjectionJob_steps (env : NoteEnv) (input : JobCompletion)
    (store : NoteStore) :
    JobSteps { completes := true } store.outbox
      (completeMemoryProjectionJob env input store).outbox := by
  apply Relation.ReflTransGen.single
  apply JobStep.change
  apply Grown.updateFirst JobChange.refl
  intro job found
  obtain ⟨-, processing, -⟩ := isHeld_iff.mp (List.find?_some found)
  exact JobChange.finish rfl rfl processing rfl fun _ => Or.inl rfl

/-- A failed attempt ends the job, or lets it wait again when no other job of the Agent
waits. -/
theorem retryMemoryProjectionJob_steps (env : NoteEnv) (input : JobRetry) {store : NoteStore}
    (sound : OutboxSound store.outbox) :
    JobSteps effect store.outbox (retryMemoryProjectionJob env input store).outbox := by
  unfold retryMemoryProjectionJob
  split
  · exact .refl
  · rename_i current found
    apply Relation.ReflTransGen.single
    apply JobStep.change
    apply Grown.updateFirst JobChange.refl
    intro job same
    obtain rfl : current = job := Option.some.inj (found.symm.trans same)
    obtain ⟨-, processing, -⟩ := isHeld_iff.mp (List.find?_some found)
    exact retryChange_change sound.ids (List.mem_of_find?_eq_some found) processing

end BairuiPlatform.Memory
