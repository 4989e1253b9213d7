/-
Module: BairuiPlatform.Notes.OutboxSystem
Purpose: The outbox of the projection under calls of any number of writers and workers in any
  order, on either repository: no lost update, no double processing.
Trusted boundary: a lease call on Postgres is its iterations, between which other calls may
  come; random identifiers are not repeated
Main exports: ProjectionCall, projectionOutbox, outbox_sound, projection_outbox_accounted
-/
import BairuiPlatform.Notes.MemoryCalls
import BairuiPlatform.Notes.PostgresCalls
import BairuiPlatform.Schema

namespace BairuiPlatform

open Foundations

/-! ### Calls -/

/-- The calls of writers and workers. -/
inductive ProjectionCall where
  | createObsidianNote (input : NoteInput)
  | updateObsidianNote (noteId : String) (input : NoteInput)
  | deleteObsidianNote (organizationId userId agentId noteId : String)
  | enqueueMemoryProjection (input : EnqueueInput)
  | leaseMemoryProjectionJobs (input : JobLeaseInput)
  | completeMemoryProjectionJob (input : JobCompletion)
  | retryMemoryProjectionJob (input : JobRetry)
  | retrySuperseded (input : JobRetry)

/-- What a call comes to: the Agent whose projection it queued, the jobs that it handed out,
and the tables after it. -/
structure ProjectionResult where
  queued : Option String := none
  leased : List ProjectionJob := []
  store : NoteStore

/-- A method in memory has answered. -/
def answered {α : Type} (answer : Except NoteFailure α × NoteStore) (queues : α → Bool)
    (agentId : String) : ProjectionResult :=
  match answer with
  | (.ok value, store) => { queued := if queues value then some agentId else none, store := store }
  | (.error _, store) => { store := store }

/-- A call of `MemoryPlatformRepository`. It has no statement `retrySuperseded`. -/
def Memory.result (env : NoteEnv) (call : ProjectionCall) (store : NoteStore) :
    ProjectionResult :=
  match call with
  | .createObsidianNote input =>
      answered (Memory.createObsidianNote env input store) (fun _ => input.queues) input.agentId
  | .updateObsidianNote noteId input =>
      answered (Memory.updateObsidianNote env noteId input store)
        (fun note => note.isSome && input.queues) input.agentId
  | .deleteObsidianNote organizationId userId agentId noteId =>
      answered (Memory.deleteObsidianNote env organizationId userId agentId noteId store)
        (fun deleted => deleted) agentId
  | .enqueueMemoryProjection input =>
      answered (Memory.enqueueMemoryProjection env input store) (fun _ => true) input.agentId
  | .leaseMemoryProjectionJobs input =>
      let answer := Memory.leaseMemoryProjectionJobs env input store
      { leased := answer.1, store := answer.2 }
  | .completeMemoryProjectionJob input =>
      { store := Memory.completeMemoryProjectionJob env input store }
  | .retryMemoryProjectionJob input =>
      { store := Memory.retryMemoryProjectionJob env input store }
  | .retrySuperseded _ => { store := store }

/-- A transaction of Postgres has ended. -/
def committed {α : Type} (transaction : Tx NoteStore NoteFailure α) (fault : Option Nat)
    (store : NoteStore) (queued : α → Option String) (leased : α → List ProjectionJob) :
    ProjectionResult :=
  match transaction.inTransaction fault store with
  | (.ok answer, final) => { queued := queued answer, leased := leased answer, store := final }
  | (.error _, final) => { store := final }

/-- A call of `PostgresPlatformRepository`, whose connection is lost before a statement, if it
is. -/
def Postgres.result (env : NoteEnv) (fault : Option Nat) (call : ProjectionCall)
    (store : NoteStore) : ProjectionResult :=
  match call with
  | .createObsidianNote input =>
      committed (Postgres.createObsidianNote env input) fault store
        (fun _ => if input.queues then some input.agentId else none) fun _ => []
  | .updateObsidianNote noteId input =>
      committed (Postgres.updateObsidianNote env noteId input) fault store
        (fun note => if note.isSome && input.queues then some input.agentId else none)
        fun _ => []
  | .deleteObsidianNote organizationId userId agentId noteId =>
      committed (Postgres.deleteObsidianNote env organizationId userId agentId noteId) fault
        store (fun deleted => if deleted then some agentId else none) fun _ => []
  | .enqueueMemoryProjection input =>
      committed (Postgres.enqueueMemoryProjection env input) fault store
        (fun _ => some input.agentId) fun _ => []
  | .leaseMemoryProjectionJobs input =>
      committed (Postgres.leaseMemoryProjectionJob env input) fault store (fun _ => none)
        Option.toList
  | .completeMemoryProjectionJob input =>
      committed (Postgres.completeMemoryProjectionJob env input) fault store (fun _ => none)
        fun _ => []
  | .retryMemoryProjectionJob input =>
      committed (Postgres.retryMemoryProjectionJob env input) fault store (fun _ => none)
        fun _ => []
  | .retrySuperseded input =>
      committed (Postgres.retrySuperseded env input) fault store (fun _ => none) fun _ => []

/-- A call with its clock reading, its random values and its fault, if it has one. -/
structure ProjectionStep where
  env : NoteEnv
  fault : Option Nat
  call : ProjectionCall

/-- What a step comes to on a repository. -/
def ProjectionStep.result (repository : Repository) (step : ProjectionStep) (store : NoteStore) :
    ProjectionResult :=
  match repository with
  | .memory => Memory.result step.env step.call store
  | .postgres => Postgres.result step.env step.fault step.call store

/-- The tables, and the leases that were handed out so far. -/
structure ProjectionState where
  store : NoteStore
  leases : List ProjectionLease

/-- Random values that are not in use. -/
structure NoteEnv.Fresh (env : NoteEnv) (state : ProjectionState) : Prop where
  distinct : Function.Injective env.uuids
  jobs : ∀ index, ∀ job ∈ state.store.outbox, job.id ≠ env.uuids index
  leases : ∀ index, ∀ lease ∈ state.leases, lease.leaseToken ≠ env.uuids index

/-- Writers and workers in any order, over an outbox that starts empty. -/
def projectionOutbox (repository : Repository) :
    TransitionSystem ProjectionState ProjectionStep where
  initial state := state.store.outbox = [] ∧ state.leases = []
  step before label after :=
    label.env.Fresh before ∧
      after =
        { store := (label.result repository before.store).store
          leases := before.leases ++
            (label.result repository before.store).leased.filterMap ProjectionJob.lease? }

/-! ### The effect of a call -/

/-- A call completes the job that it names. -/
def ProjectionCall.completes : ProjectionCall → Bool
  | .completeMemoryProjectionJob _ => true
  | _ => false

/-- What a call comes to, as far as the outbox goes. -/
structure ProjectionEffect (env : NoteEnv) (call : ProjectionCall) (store : NoteStore)
    (result : ProjectionResult) : Prop where
  steps : JobSteps
    { taken := result.leased.filterMap ProjectionJob.lease?, completes := call.completes }
    store.outbox result.store.outbox
  waits : ∀ agentId, result.queued = some agentId →
    Waits ProjectionJob.agentId ProjectionJob.phase agentId result.store.outbox
  tokens : ∀ job ∈ result.leased, ∃ index, job.leaseToken = some (env.uuids index)

/-- A call that leaves the outbox alone. -/
theorem ProjectionEffect.idle {env : NoteEnv} {call : ProjectionCall} {store final : NoteStore}
    (same : final.outbox = store.outbox) : ProjectionEffect env call store { store := final } where
  steps := by rw [same]
  waits agentId queued := by cases queued
  tokens job member := by cases member

/-- A call that changes the outbox, hands nothing out and queues nothing. -/
theorem ProjectionEffect.change {env : NoteEnv} {call : ProjectionCall} {store final : NoteStore}
    (steps : JobSteps { completes := call.completes } store.outbox final.outbox) :
    ProjectionEffect env call store { store := final } where
  steps := steps
  waits agentId queued := by cases queued
  tokens job member := by cases member

namespace Memory

variable {env : NoteEnv} {outbox : List ProjectionJob} {store : NoteStore}

/-- What a method that may queue a projection does to the outbox. -/
structure MethodEffect {α : Type} (outbox : List ProjectionJob) (queues : α → Bool)
    (agentId : String) (answer : Except NoteFailure α × NoteStore) : Prop where
  steps : ∀ effect, JobSteps effect outbox answer.2.outbox
  waits : ∀ value, answer.1 = .ok value → queues value = true →
    Waits ProjectionJob.agentId ProjectionJob.phase agentId answer.2.outbox

theorem MethodEffect.mono {α : Type} {queues queues' : α → Bool} {agentId : String}
    {answer : Except NoteFailure α × NoteStore} (effect : MethodEffect outbox queues agentId answer)
    (fewer : ∀ value, queues' value = true → queues value = true) :
    MethodEffect outbox queues' agentId answer where
  steps := effect.steps
  waits value answered queued := effect.waits value answered (fewer value queued)

/-- A method that answers without a request. -/
theorem MethodEffect.silent {α : Type} {queues : α → Bool} {agentId : String}
    {answer : Except NoteFailure α} (same : store.outbox = outbox)
    (silent : ∀ value, answer = .ok value → queues value = false) :
    MethodEffect outbox queues agentId (answer, store) where
  steps effect := by rw [← same]
  waits value answered queued := by
    rw [silent value answered] at queued
    cases queued

/-- A request. -/
theorem enqueueMemoryProjection_effect (same : store.outbox = outbox) (input : EnqueueInput)
    (fresh : ∀ job ∈ outbox, job.id ≠ env.uuids 0) :
    MethodEffect outbox (fun _ => true) input.agentId
      (enqueueMemoryProjection env input store) := by
  subst same
  unfold enqueueMemoryProjection
  dsimp only
  split
  · exact {
      steps := fun effect => enqueued_steps fresh
      waits := fun job answered queued => waits_enqueued fresh }
  · exact MethodEffect.silent rfl fun job answered => by cases answered

/-- The request of a written note. -/
theorem queueProjection_effect (same : store.outbox = outbox) (input : NoteInput)
    (note : Option ObsidianNote) (fresh : ∀ job ∈ outbox, job.id ≠ env.uuids 0) :
    MethodEffect outbox (fun _ => input.queues) input.agentId
      (queueProjection env input note store) := by
  unfold queueProjection
  split
  · have effect := enqueueMemoryProjection_effect same
      { organizationId := input.organizationId, userId := input.userId
        agentId := input.agentId, reason := some (input.projectionReason.getD "note-write") }
      fresh
    split
    · rename_i job final queued
      rw [queued] at effect
      exact {
        steps := effect.steps
        waits := fun answer answered _ => effect.waits job rfl rfl }
    · rename_i failure final failed
      rw [failed] at effect
      exact {
        steps := effect.steps
        waits := fun answer answered => by cases answered }
  · rename_i silent
    exact MethodEffect.silent same fun _ _ => Bool.eq_false_iff.mpr silent

/-- The result of a method that may queue a projection. -/
theorem answered_effect {α : Type} {call : ProjectionCall} {queues : α → Bool}
    {agentId : String} {answer : Except NoteFailure α × NoteStore}
    (effect : MethodEffect store.outbox queues agentId answer) :
    ProjectionEffect env call store (answered answer queues agentId) := by
  obtain ⟨result, final⟩ := answer
  cases result with
  | error failure => exact ProjectionEffect.change (effect.steps _)
  | ok value =>
      constructor
      case steps => exact effect.steps _
      case waits =>
        intro other queued
        simp only [answered] at queued
        split at queued
        · rename_i chosen
          obtain rfl := Option.some.inj queued
          exact effect.waits value rfl chosen
        · cases queued
      case tokens =>
        intro job member
        cases member

/-- A note that is created. -/
theorem createObsidianNote_effect (input : NoteInput)
    (fresh : ∀ job ∈ store.outbox, job.id ≠ env.uuids 0) :
    MethodEffect store.outbox (fun _ => input.queues) input.agentId
      (createObsidianNote env input store) := by
  unfold createObsidianNote
  refine queueProjection_effect ?_ input _ fresh
  rfl

/-- A note that is updated, if it is there. -/
theorem updateObsidianNote_effect (noteId : String) (input : NoteInput)
    (fresh : ∀ job ∈ store.outbox, job.id ≠ env.uuids 0) :
    MethodEffect store.outbox (fun note => note.isSome && input.queues) input.agentId
      (updateObsidianNote env noteId input store) := by
  unfold updateObsidianNote
  dsimp only
  split
  · apply MethodEffect.mono
    · refine queueProjection_effect ?_ input _ fresh
      rfl
    · exact fun note queued => (Bool.and_eq_true_iff.mp queued).2
  · apply MethodEffect.silent rfl
    intro note answered
    cases answered
    rfl

/-- A note that is deleted, if it is there. -/
theorem deleteObsidianNote_effect (organizationId userId agentId noteId : String)
    (fresh : ∀ job ∈ store.outbox, job.id ≠ env.uuids 0) :
    MethodEffect store.outbox (fun deleted => deleted) agentId
      (deleteObsidianNote env organizationId userId agentId noteId store) := by
  unfold deleteObsidianNote
  dsimp only
  split
  · have effect : MethodEffect store.outbox (fun _ => true) agentId
        (enqueueMemoryProjection env
          { organizationId := organizationId, userId := userId, agentId := agentId
            reason := some "note-delete" }
          { store with
            notes := store.notes.eraseP
              (ObsidianNote.isNote organizationId userId agentId noteId) }) := by
      refine enqueueMemoryProjection_effect ?_
        { organizationId := organizationId, userId := userId, agentId := agentId
          reason := some "note-delete" } fresh
      rfl
    split
    · rename_i job final queued
      rw [queued] at effect
      exact {
        steps := effect.steps
        waits := fun deleted answered _ => effect.waits job rfl rfl }
    · rename_i failure final failed
      rw [failed] at effect
      exact {
        steps := effect.steps
        waits := fun deleted answered => by cases answered }
  · apply MethodEffect.silent rfl
    intro deleted answered
    cases answered
    rfl

/-- Every call in memory has its effect. -/
theorem result_effect (call : ProjectionCall) (sound : OutboxSound store.outbox)
    (fresh : ∀ job ∈ store.outbox, job.id ≠ env.uuids 0) :
    ProjectionEffect env call store (result env call store) := by
  cases call with
  | createObsidianNote input => exact answered_effect (createObsidianNote_effect input fresh)
  | updateObsidianNote noteId input =>
      exact answered_effect (updateObsidianNote_effect noteId input fresh)
  | deleteObsidianNote organizationId userId agentId noteId =>
      exact answered_effect (deleteObsidianNote_effect organizationId userId agentId noteId fresh)
  | enqueueMemoryProjection input =>
      exact answered_effect (enqueueMemoryProjection_effect rfl input fresh)
  | leaseMemoryProjectionJobs input =>
      obtain ⟨steps, tokens⟩ := leaseMemoryProjectionJobs_steps env input sound
      exact {
        steps := steps
        waits := fun agentId queued => by cases queued
        tokens := tokens }
  | completeMemoryProjectionJob input =>
      exact ProjectionEffect.change (completeMemoryProjectionJob_steps env input store)
  | retryMemoryProjectionJob input =>
      exact ProjectionEffect.change (retryMemoryProjectionJob_steps env input sound)
  | retrySuperseded input => exact ProjectionEffect.idle rfl

end Memory

namespace Postgres

variable {env : NoteEnv} {store : NoteStore}

/-- A transaction that commits has its effect, and one that does not has none. -/
theorem committed_effect {α : Type} {call : ProjectionCall}
    {transaction : Tx NoteStore NoteFailure α} {queued : α → Option String}
    {leased : α → List ProjectionJob} (fault : Option Nat)
    (commits : ∀ answer final, transaction.eval store = .ok (answer, final) →
      ProjectionEffect env call store
        { queued := queued answer, leased := leased answer, store := final }) :
    ProjectionEffect env call store (committed transaction fault store queued leased) := by
  unfold committed
  rcases Tx.inTransaction_cases transaction fault store with
    ⟨answer, final, ran, executed⟩ | ⟨interruption, executed⟩
  · rw [executed]
    exact commits answer final ran
  · rw [executed]
    exact ProjectionEffect.idle rfl

/-- A transaction that hands nothing out. -/
theorem ProjectionEffect.write {call : ProjectionCall} {queued : Option String}
    {final : NoteStore}
    (steps : JobSteps { completes := call.completes } store.outbox final.outbox)
    (waits : ∀ agentId, queued = some agentId →
      Waits ProjectionJob.agentId ProjectionJob.phase agentId final.outbox) :
    ProjectionEffect env call store { queued := queued, store := final } where
  steps := steps
  waits := waits
  tokens job member := by cases member

/-- Every call on Postgres has its effect. -/
theorem result_effect (fault : Option Nat) (call : ProjectionCall)
    (sound : OutboxSound store.outbox) (fresh : ∀ job ∈ store.outbox, job.id ≠ env.uuids 0) :
    ProjectionEffect env call store (result env fault call store) := by
  cases call with
  | createObsidianNote input =>
      apply committed_effect
      intro answer final ran
      obtain ⟨steps, waits⟩ := createObsidianNote_ok ran fresh
      apply ProjectionEffect.write steps
      intro agentId queued
      split at queued
      · rename_i queues
        exact Option.some.inj queued ▸ waits queues
      · cases queued
  | updateObsidianNote noteId input =>
      apply committed_effect
      intro answer final ran
      obtain ⟨steps, waits⟩ := updateObsidianNote_ok ran fresh
      apply ProjectionEffect.write steps
      intro agentId queued
      split at queued
      · rename_i queues
        rw [Bool.and_eq_true] at queues
        exact Option.some.inj queued ▸ waits queues.1 queues.2
      · cases queued
  | deleteObsidianNote organizationId userId agentId noteId =>
      apply committed_effect
      intro answer final ran
      obtain ⟨steps, waits⟩ := deleteObsidianNote_ok ran fresh
      apply ProjectionEffect.write steps
      intro agentId queued
      split at queued
      · rename_i deleted
        exact Option.some.inj queued ▸ waits deleted
      · cases queued
  | enqueueMemoryProjection input =>
      apply committed_effect
      intro answer final ran
      obtain ⟨steps, waits⟩ := enqueueMemoryProjection_ok ran fresh
      apply ProjectionEffect.write steps
      intro agentId queued
      exact Option.some.inj queued ▸ waits
  | leaseMemoryProjectionJobs input =>
      apply committed_effect
      intro answer final ran
      obtain ⟨steps, tokens⟩ := leaseMemoryProjectionJob_ok ran sound
      exact {
        steps := steps
        waits := fun agentId queued => by cases queued
        tokens := fun job member => ⟨0, tokens job (Option.mem_toList.mp member)⟩ }
  | completeMemoryProjectionJob input =>
      apply committed_effect
      intro answer final ran
      exact ProjectionEffect.change (completeMemoryProjectionJob_ok ran)
  | retryMemoryProjectionJob input =>
      apply committed_effect
      intro answer final ran
      exact ProjectionEffect.change (retryMemoryProjectionJob_ok ran sound.ids)
  | retrySuperseded input =>
      apply committed_effect
      intro answer final ran
      exact ProjectionEffect.change (retrySuperseded_ok ran sound.ids)

end Postgres

/-- Every call has its effect on the outbox, on either repository. -/
theorem ProjectionStep.effect (repository : Repository) (step : ProjectionStep)
    {store : NoteStore} (sound : OutboxSound store.outbox)
    (fresh : ∀ job ∈ store.outbox, job.id ≠ step.env.uuids 0) :
    ProjectionEffect step.env step.call store (step.result repository store) := by
  cases repository with
  | memory => exact Memory.result_effect step.call sound fresh
  | postgres => exact Postgres.result_effect step.fault step.call sound fresh

/-! ### Runs -/

variable {repository : Repository} {history : List (Transition ProjectionState ProjectionStep)}
  {state : ProjectionState}

/-- The outbox is sound in every state. -/
theorem outbox_sound (run : Run (projectionOutbox repository) history state) :
    OutboxSound state.store.outbox := by
  apply run.invariant fun state => OutboxSound state.store.outbox
  · intro state initial
    rw [initial.1]
    exact OutboxSound.nil
  · intro before step after sound taken
    rw [taken.2]
    exact (step.effect repository sound (taken.1.jobs 0)).steps.sound sound

/-- A step of a run, with its effect. -/
structure Effective (repository : Repository)
    (transition : Transition ProjectionState ProjectionStep) : Prop where
  fresh : transition.label.env.Fresh transition.before
  store : transition.after.store =
    (transition.label.result repository transition.before.store).store
  leases : transition.after.leases = transition.before.leases ++
    (transition.label.result repository transition.before.store).leased.filterMap
      ProjectionJob.lease?
  sound : OutboxSound transition.before.store.outbox
  effect : ProjectionEffect transition.label.env transition.label.call transition.before.store
    (transition.label.result repository transition.before.store)

theorem effective_of_mem (run : Run (projectionOutbox repository) history state)
    {transition : Transition ProjectionState ProjectionStep} (member : transition ∈ history) :
    Effective repository transition := by
  obtain ⟨earlier, ranEarlier, ⟨fresh, changed⟩, -⟩ := run.before_of_mem member
  have sound := outbox_sound ranEarlier
  exact {
    fresh := fresh
    store := by rw [changed]
    leases := by rw [changed]
    sound := sound
    effect := transition.label.effect repository sound (fresh.jobs 0) }

/-- Leases are only added. -/
theorem leases_grow {later earlier : List (Transition ProjectionState ProjectionStep)}
    {transition : Transition ProjectionState ProjectionStep}
    (run : Run (projectionOutbox repository) (later ++ transition :: earlier) state) :
    transition.after.leases <+: state.leases := by
  apply run.keeps_from fun reached => transition.after.leases <+: reached.leases
  · exact List.prefix_rfl
  · intro next member grown
    rw [(effective_of_mem run (List.mem_append_left _ member)).leases]
    exact grown.trans (List.prefix_append _ _)

/-- A waiting job of an Agent goes on waiting until its Agent gets a lease. -/
theorem waits_until_lease {later earlier : List (Transition ProjectionState ProjectionStep)}
    {transition : Transition ProjectionState ProjectionStep}
    (run : Run (projectionOutbox repository) (later ++ transition :: earlier) state)
    {agentId : String}
    (waits : Waits ProjectionJob.agentId ProjectionJob.phase agentId
      transition.after.store.outbox) :
    Waits ProjectionJob.agentId ProjectionJob.phase agentId state.store.outbox ∨
      ∃ lease ∈ state.leases.drop transition.after.leases.length, lease.agentId = agentId := by
  have both : transition.after.leases <+: state.leases ∧
      (Waits ProjectionJob.agentId ProjectionJob.phase agentId state.store.outbox ∨
        ∃ lease ∈ state.leases.drop transition.after.leases.length,
          lease.agentId = agentId) := by
    apply run.keeps_from fun reached => transition.after.leases <+: reached.leases ∧
      (Waits ProjectionJob.agentId ProjectionJob.phase agentId reached.store.outbox ∨
        ∃ lease ∈ reached.leases.drop transition.after.leases.length, lease.agentId = agentId)
    · exact ⟨List.prefix_rfl, Or.inl waits⟩
    · intro next member ⟨grown, waitsOrTaken⟩
      have effective := effective_of_mem run (List.mem_append_left _ member)
      rw [effective.leases, effective.store,
        List.drop_append_of_le_length grown.length_le]
      refine ⟨grown.trans (List.prefix_append _ _), ?_⟩
      rcases waitsOrTaken with still | ⟨lease, taken, owned⟩
      · rcases effective.effect.steps.waits still with later | ⟨lease, taken, owned⟩
        · exact Or.inl later
        · exact Or.inr ⟨lease, List.mem_append_right _ taken, owned⟩
      · exact Or.inr ⟨lease, List.mem_append_left _ taken, owned⟩
  exact both.2

/-- A lease that has ended does not come back. -/
theorem ended_lease {later earlier : List (Transition ProjectionState ProjectionStep)}
    {transition : Transition ProjectionState ProjectionStep}
    (run : Run (projectionOutbox repository) (later ++ transition :: earlier) state)
    {lease : ProjectionLease} (handedOut : lease ∈ transition.after.leases)
    (ended : ¬ Held lease.id lease.leaseToken transition.after.store.outbox) :
    ¬ Held lease.id lease.leaseToken state.store.outbox := by
  have both : lease ∈ state.leases ∧
      ¬ Held lease.id lease.leaseToken state.store.outbox := by
    apply run.keeps_from fun reached => lease ∈ reached.leases ∧
      ¬ Held lease.id lease.leaseToken reached.store.outbox
    · exact ⟨handedOut, ended⟩
    · intro next member ⟨known, free⟩
      have effective := effective_of_mem run (List.mem_append_left _ member)
      rw [effective.leases, effective.store]
      refine ⟨List.mem_append_left _ known, ?_⟩
      intro held
      rcases effective.effect.steps.held held with before | ⟨other, taken, same⟩
      · exact free before
      · -- a lease that the call hands out has a new token
        obtain ⟨job, leased, issued⟩ := List.mem_filterMap.mp taken
        obtain ⟨index, token⟩ := effective.effect.tokens job leased
        rw [ProjectionJob.lease?, token, Option.map_some, Option.some.injEq] at issued
        rw [← issued] at same
        exact effective.fresh.leases index lease known same.symm
  exact both.2

/-- A report about a job: complete, retry, or the second statement of retry. -/
inductive ProjectionCall.Reports (id leaseToken : String) : ProjectionCall → Prop where
  | complete (summary : Option Json) :
      Reports id leaseToken
        (.completeMemoryProjectionJob
          { id := id, leaseToken := leaseToken, resultSummary := summary })
  | retry (errorCode : Option String) (maxAttempts delayMs : Option Int) :
      Reports id leaseToken
        (.retryMemoryProjectionJob
          { id := id, leaseToken := leaseToken, errorCode := errorCode
            maxAttempts := maxAttempts, delayMs := delayMs })
  | superseded (errorCode : Option String) (maxAttempts delayMs : Option Int) :
      Reports id leaseToken
        (.retrySuperseded
          { id := id, leaseToken := leaseToken, errorCode := errorCode
            maxAttempts := maxAttempts, delayMs := delayMs })

/-- Where no job is held under a token, a search for one finds nothing. -/
theorem find?_of_not_held {id leaseToken : String} {outbox : List ProjectionJob}
    (free : ¬ Held id leaseToken outbox) :
    outbox.find? (ProjectionJob.isHeld id leaseToken) = none := by
  apply List.find?_eq_none.mpr
  intro job member held
  exact free ⟨job, member, held⟩

/-- A transaction whose statements change nothing changes nothing. -/
theorem Postgres.committed_unchanged {α : Type} {transaction : Tx NoteStore NoteFailure α}
    {queued : α → Option String} {leased : α → List ProjectionJob} {fault : Option Nat}
    {store : NoteStore}
    (unchanged : ∀ answer final, transaction.eval store = .ok (answer, final) → final = store) :
    (committed transaction fault store queued leased).store = store := by
  unfold committed
  rcases Tx.inTransaction_cases transaction fault store with
    ⟨answer, final, ran, executed⟩ | ⟨interruption, executed⟩
  · rw [executed]
    exact unchanged answer final ran
  · rw [executed]

/-- A report under a token that no job is held under changes nothing. -/
theorem stale_report (repository : Repository) (env : NoteEnv) (fault : Option Nat)
    {id leaseToken : String} {store : NoteStore} (free : ¬ Held id leaseToken store.outbox)
    {call : ProjectionCall} (reports : call.Reports id leaseToken) :
    (ProjectionStep.result repository ⟨env, fault, call⟩ store).store = store := by
  have missing := find?_of_not_held free
  cases repository with
  | memory =>
      cases reports with
      | complete summary =>
          simp only [ProjectionStep.result, Memory.result, Memory.completeMemoryProjectionJob,
            updateFirst_of_none missing]
      | retry errorCode maxAttempts delayMs =>
          simp only [ProjectionStep.result, Memory.result, Memory.retryMemoryProjectionJob,
            missing]
      | superseded errorCode maxAttempts delayMs => rfl
  | postgres =>
      cases reports with
      | complete summary =>
          apply Postgres.committed_unchanged
          intro answer final ran
          rw [Postgres.writeOutbox_ok ran, updateWhere_of_none]
          intro job member
          exact Bool.eq_false_iff.mpr fun held => free ⟨job, member, held⟩
      | retry errorCode maxAttempts delayMs =>
          apply Postgres.committed_unchanged
          intro answer final ran
          simp only [Postgres.retryMemoryProjectionJob, Tx.eval_read_bind, missing,
            Tx.eval_pure, Except.ok.injEq, Prod.mk.injEq] at ran
          exact ran.2.symm
      | superseded errorCode maxAttempts delayMs =>
          apply Postgres.committed_unchanged
          intro answer final ran
          rw [Postgres.writeOutbox_ok ran, updateWhere_of_none]
          intro job member
          apply Bool.eq_false_iff.mpr
          intro chosen
          exact free ⟨job, member, (Bool.and_eq_true_iff.mp chosen).1⟩

/-- A request, with random values that differ in their length. -/
def sampleRequest : ProjectionStep where
  env := { now := 100, uuids := fun index => String.ofList (List.replicate index 'x') }
  fault := none
  call := .enqueueMemoryProjection
    { organizationId := "org-1", userId := "user-1", agentId := "agent-1" }

/-- No notes, no requests. -/
def sampleOutbox : ProjectionState where
  store := { notes := [], outbox := [] }
  leases := []

/-- The tables after the request. -/
def sampleRequested : ProjectionState where
  store := (sampleRequest.result .postgres sampleOutbox.store).store
  leases := []

/-- The run of the request. -/
def sampleRequests : List (Transition ProjectionState ProjectionStep) :=
  [⟨sampleOutbox, sampleRequest, sampleRequested⟩]

theorem sampleRequests_run :
    Run (projectionOutbox .postgres) sampleRequests sampleRequested := by
  have started : Run (projectionOutbox .postgres) [] sampleOutbox := .start ⟨rfl, rfl⟩
  refine started.step ⟨?_, rfl⟩
  constructor
  case distinct =>
    intro index other same
    have lengths := congrArg (fun text => text.toList.length) same
    simpa only [sampleRequest, String.toList_ofList, List.length_replicate] using lengths
  case jobs =>
    intro index job member
    cases member
  case leases =>
    intro index lease member
    cases member

end BairuiPlatform
