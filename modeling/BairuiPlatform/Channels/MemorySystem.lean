/-
Module: BairuiPlatform.Channels.MemorySystem
Purpose: The channel methods of MemoryPlatformRepository as a transition system, and the
  effect of every call on the queues.
Trusted boundary: none
Main exports: Memory.Call, Memory.Call.effect, memoryChannels, memory_sound
-/
import BairuiPlatform.Channels.Memory
import BairuiPlatform.Channels.System
import BairuiPlatform.Foundations.Transition

namespace BairuiPlatform

open Foundations

namespace Memory

/-- A call of a method, when it happens, and the random values it draws. -/
structure Call where
  env : ChannelEnv
  request : ChannelRequest

/-- The store after a method. -/
def after {α : Type} (method : Method α) (store : ChannelStore) : ChannelStore :=
  match method store with
  | .ok (_, final) => final
  | .error _ => store

/-- The store after a call. -/
def Call.after (call : Call) (store : ChannelStore) : ChannelStore :=
  match call.request with
  | .upsertAgentChannelBinding input =>
      Memory.after (upsertAgentChannelBinding call.env input) store
  | .acceptChannelIngress input => Memory.after (acceptChannelIngress call.env input) store
  | .ensureChannelConversation input =>
      Memory.after (ensureChannelConversation call.env input) store
  | .leaseChannelIngress input => Memory.after (leaseChannelIngress call.env input) store
  | .completeChannelIngress input => Memory.after (completeChannelIngress call.env input) store
  | .failChannelIngress input => Memory.after (failChannelIngress call.env input) store
  | .leaseChannelDeliveries input => Memory.after (leaseChannelDeliveries call.env input) store
  | .recordChannelDeliveryReceipt input =>
      Memory.after (recordChannelDeliveryReceipt call.env input) store
  | .saveChannelHealthReport input =>
      Memory.after (saveChannelHealthReport call.env input) store

/-- The time of a call on the clock of the repository, in milliseconds. -/
def Call.now (call : Call) : Nat := dateNow call.env.now

/-- The lease that a call opens, if it opens one. -/
def Call.leaseId (call : Call) : Option String := call.request.leaseId? call.env

/-- A method that keeps the queues, or throws, has no effect. -/
theorem idle_after {α : Type} {time : Nat → Nat} {now : Nat} {arrival : Arrival} {leaseId : Option String}
    {method : Method α} {store : ChannelStore}
    (keeps : ∀ answer final, method store = .ok (answer, final) →
      QueueEffect time now arrival leaseId store final) :
    QueueEffect time now arrival leaseId store (after method store) := by
  unfold after
  cases ran : method store with
  | error error => exact .idle rfl rfl rfl rfl
  | ok result => exact keeps result.1 result.2 ran

section Effects

variable {arrival : Arrival} {leaseId : Option String} {env : ChannelEnv} {store final : ChannelStore}

/-- The effect of an accepted message. -/
theorem accept_effect {input : IngressInput} {answer : Option IngressAnswer}
    (ran : acceptChannelIngress env input store = .ok (answer, final)) :
    QueueEffect dateParse (dateNow env.now) input.arrival leaseId store final := by
  unfold acceptChannelIngress at ran
  dsimp only at ran
  split at ran
  · cases ran
    exact .idle rfl rfl rfl rfl
  · split at ran
    · cases ran
      exact .idle rfl rfl rfl rfl
    · rename_i binding _ fresh
      cases ran
      exact .accept ⟨rfl, rfl, rfl, rfl⟩ (messageKey_ne_of_find? fresh) rfl rfl rfl rfl

/-- The time that a lease ends lies ahead. -/
theorem now_le_leaseEnd (leaseSeconds : Option Int) :
    dateNow env.now ≤ dateParse (leaseEnd env leaseSeconds) := by
  unfold leaseEnd dateParse ofMillis
  omega

/-- The effect of a lease of inbound messages. -/
theorem leaseInbox_effect {input : IngressLease} :
    QueueEffect dateParse (dateNow env.now) arrival (some (input.leaseId.getD (env.uuids 0))) store
      (after (leaseChannelIngress env input) store) := by
  have inbox : Grown
      (fun old new => new = old ∨
        ((old.ticket dateParse).Ready (dateNow env.now) ∧
          new = inboxLease (input.leaseId.getD (env.uuids 0)) (leaseEnd env input.leaseSeconds)
            (isoNow env.now) old))
      (fun _ => False) store.inbox (after (leaseChannelIngress env input) store).inbox := by
    refine updateAt_grown.mono (fun old _ new _ later => ?_) fun _ _ => False.elim
    exact later.imp_right fun ⟨ready, changed⟩ =>
      ⟨ChannelInboxRow.ready_iff.mp ready, changed⟩
  exact .leaseInbox rfl (now_le_leaseEnd input.leaseSeconds) inbox rfl rfl rfl

/-- A reply is new, and the first one to its message. -/
theorem replyOf_ok {input : Option OutboundInput} {inbox : ChannelInboxRow}
    {reply : Option ChannelOutboxRow} (made : replyOf env input inbox store = .ok reply) :
    ∀ row ∈ reply, row.IsNew (.ofReply input) ∧ row.inboxId = inbox.id ∧
      ∀ other ∈ store.outbox, other.inboxId ≠ inbox.id := by
  intro row member
  unfold replyOf at made
  split at made
  · cases made
    cases member
  · split at made
    · cases made
      cases member
    · rename_i unanswered
      split at made
      · cases made
      · cases made
        cases member
        refine ⟨⟨rfl, rfl, rfl, rfl⟩, rfl, fun other otherMem same => unanswered ?_⟩
        exact List.any_eq_true.mpr ⟨other, otherMem, decide_eq_true same⟩

/-- The effect of a processed message. -/
theorem complete_effect {input : IngressCompletion} {answer : Option CompletionAnswer}
    (ran : completeChannelIngress env input store = .ok (answer, final)) :
    QueueEffect dateParse (dateNow env.now) (.ofReply input.outbound) leaseId store final := by
  unfold completeChannelIngress at ran
  dsimp only at ran
  split at ran
  · cases ran
    exact .idle rfl rfl rfl rfl
  · rename_i inbox found
    split at ran
    · cases ran
    · rename_i reply made
      cases ran
      exact .complete (leased_of_inboxHeld (List.find?_some found)) (replaced_updateFirst found)
        rfl (replyOf_ok made) rfl rfl

/-- The effect of a failed message. -/
theorem fail_effect {input : IngressFailure} {answer : Option ChannelInboxRow}
    (ran : failChannelIngress env input store = .ok (answer, final)) :
    QueueEffect dateParse (dateNow env.now) arrival leaseId store final := by
  unfold failChannelIngress at ran
  dsimp only at ran
  split at ran
  · cases ran
    exact .idle rfl rfl rfl rfl
  · rename_i inbox found
    cases ran
    exact .fail (leased_of_inboxHeld (List.find?_some found)) (replaced_updateFirst found)
      rfl rfl rfl rfl

/-- A message that the query selects is ready. -/
theorem ready_of_outboxReady {now : Nat} {input : DeliveryLease} {row : ChannelOutboxRow}
    (ready : outboxReady now input row = true) : (row.ticket dateParse).Ready now := by
  unfold outboxReady at ready
  rw [Bool.and_assoc, Bool.and_eq_true] at ready
  exact ChannelOutboxRow.ready_iff.mp ready.2

/-- The effect of a lease of outbound messages. -/
theorem leaseOutbox_effect {input : DeliveryLease} :
    QueueEffect dateParse (dateNow env.now) arrival (some (input.leaseId.getD (env.uuids 0))) store
      (after (leaseChannelDeliveries env input) store) := by
  have outbox : Grown
      (fun old new => new = old ∨
        ((old.ticket dateParse).Ready (dateNow env.now) ∧
          new = outboxLease input.workerId (input.leaseId.getD (env.uuids 0))
            (leaseEnd env input.leaseSeconds) (isoNow env.now) old))
      (fun _ => False) store.outbox (after (leaseChannelDeliveries env input) store).outbox := by
    refine updateAt_grown.mono (fun old _ new _ later => ?_) fun _ _ => False.elim
    exact later.imp_right fun ⟨ready, changed⟩ => ⟨ready_of_outboxReady ready, changed⟩
  exact .leaseOutbox rfl (now_le_leaseEnd input.leaseSeconds) rfl outbox rfl rfl

/-- The effect of a receipt. -/
theorem receipt_effect {input : ChannelReceiptInput} {answer : Option ChannelReceiptAnswer}
    (ran : recordChannelDeliveryReceipt env input store = .ok (answer, final)) :
    QueueEffect dateParse (dateNow env.now) arrival leaseId store final := by
  unfold recordChannelDeliveryReceipt at ran
  split at ran
  · split at ran
    · cases ran
    · cases ran
      exact .idle rfl rfl rfl rfl
  · rename_i fresh
    split at ran
    · cases ran
      exact .idle rfl rfl rfl rfl
    · rename_i outbound found
      cases ran
      have held := List.find?_some found
      unfold outboxHeld at held
      simp only [Bool.and_eq_true, decide_eq_true_eq] at held
      obtain ⟨⟨⟨⟨⟨⟨own, -⟩, -⟩, -⟩, leased⟩, -⟩, -⟩ := held
      have source : (outboundLetter (env.uuids 1) (isoNow env.now) input.errorCode
          outbound).sourceKey = (.outbound, outbound.id) := rfl
      refine .receipt leased rfl (replaced_updateFirst found) ?_ rfl source ?_
      · have unseen := attemptKey_ne_of_find? fresh
        rw [← own] at unseen
        exact unseen
      · exact if_congr buried_iff rfl rfl

end Effects

/-- Every call has an effect on the queues. -/
theorem Call.effect (call : Call) (store : ChannelStore) :
    QueueEffect dateParse call.now call.request.arrival call.leaseId store (call.after store) := by
  obtain ⟨env, request⟩ := call
  cases request with
  | upsertAgentChannelBinding input => exact .idle rfl rfl rfl rfl
  | acceptChannelIngress input => exact idle_after fun _ _ => accept_effect
  | ensureChannelConversation input =>
      refine idle_after fun answer final ran => ?_
      unfold ensureChannelConversation at ran
      dsimp only at ran
      split at ran <;> (cases ran; exact .idle rfl rfl rfl rfl)
  | leaseChannelIngress input => exact leaseInbox_effect
  | completeChannelIngress input => exact idle_after fun _ _ => complete_effect
  | failChannelIngress input => exact idle_after fun _ _ => fail_effect
  | leaseChannelDeliveries input => exact leaseOutbox_effect
  | recordChannelDeliveryReceipt input => exact idle_after fun _ _ => receipt_effect
  | saveChannelHealthReport input =>
      refine idle_after fun answer final ran => ?_
      unfold saveChannelHealthReport at ran
      dsimp only at ran
      split at ran <;> (cases ran; exact .idle rfl rfl rfl rfl)

end Memory

/-- The channel methods of MemoryPlatformRepository. -/
def memoryChannels : TransitionSystem ChannelStore Memory.Call where
  initial := ChannelStore.Blank
  step before call after := after = call.after before

/-- The store after some calls, the latest one first. -/
def Memory.afterCalls : List Memory.Call → ChannelStore → ChannelStore
  | [], store => store
  | call :: earlier, store => call.after (Memory.afterCalls earlier store)

/-- The transitions of some calls, the latest one first. -/
def Memory.historyOf : List Memory.Call → ChannelStore →
    List (Transition ChannelStore Memory.Call)
  | [], _ => []
  | call :: earlier, store =>
      let before := Memory.afterCalls earlier store
      ⟨before, call, call.after before⟩ :: Memory.historyOf earlier store

/-- Any calls in a row are a run. -/
theorem Memory.run_historyOf {store : ChannelStore} (blank : store.Blank)
    (calls : List Memory.Call) :
    Run memoryChannels (Memory.historyOf calls store) (Memory.afterCalls calls store) := by
  induction calls with
  | nil => exact .start blank
  | cons call earlier ih => exact .step ih rfl

/-- The invariants of the queues hold in every reachable store. -/
theorem memory_sound {store : ChannelStore} (reachable : Reachable memoryChannels store) :
    store.Sound dateParse := by
  refine reachable.invariant (ChannelStore.Sound dateParse) (fun _ blank => blank.sound) ?_
  rintro before call after sound rfl
  exact sound.effect (call.effect before)

/-! ### Samples -/

/-- The sample message, accepted. -/
def sampleAccept : Memory.Call :=
  { env := { now := 0, uuids := fun _ => "uuid" }
    request := .acceptChannelIngress sampleIngress }

/-- A lease of inbound messages, at a time in seconds. -/
def sampleIngressLease (leaseId : String) (seconds : Nat) : Memory.Call :=
  { env := { now := seconds * 1000000, uuids := fun _ => leaseId }
    request := .leaseChannelIngress { leaseId := none, limit := none, leaseSeconds := none } }

end BairuiPlatform
