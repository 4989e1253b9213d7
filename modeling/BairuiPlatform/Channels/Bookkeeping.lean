/-
Module: BairuiPlatform.Channels.Bookkeeping
Purpose: The books that MemoryPlatformRepository keeps of messages: one row, one reply, one
  receipt and one dead letter for each key, ends that last, and reports that come too late.
Trusted boundary: none
Main exports: ChannelStore.InboxHolds, ChannelStore.OutboxHolds, QueueEffect.inboxHolds,
  QueueEffect.outboxHolds, Memory.Bookkeeping, memory_bookkeeping
-/
import BairuiPlatform.Channels.MemorySystem

namespace BairuiPlatform

open Foundations

/-! ### Tokens -/

/-- Some inbound message is leased with a token. -/
def ChannelStore.InboxHolds (store : ChannelStore) (id leaseToken : String) : Prop :=
  ∃ row ∈ store.inbox, row.id = id ∧ row.state = .leased ∧ row.leaseToken = some leaseToken

/-- Some outbound message is leased with a token, for an attempt. -/
def ChannelStore.OutboxHolds (store : ChannelStore) (id leaseToken : String) (attempt : Nat) :
    Prop :=
  ∃ row ∈ store.outbox, row.id = id ∧ row.state = .leased ∧
    row.leaseToken = some leaseToken ∧ row.attempts = attempt

namespace QueueEffect

variable {time : Nat → Nat} {now : Nat} {arrival : Arrival} {leaseId : Option String}
  {store store' : ChannelStore} {lease id : String}

/-- Only the lease call itself hands out its tokens for inbound messages. -/
theorem inboxHolds (effect : QueueEffect time now arrival leaseId store store')
    (other : leaseId ≠ some lease) (holds : store'.InboxHolds id (leaseTokenOf lease id)) :
    store.InboxHolds id (leaseTokenOf lease id) := by
  obtain ⟨row, member, own, leased, token⟩ := holds
  have before (stored : row ∈ store.inbox) : store.InboxHolds id (leaseTokenOf lease id) :=
    ⟨row, stored, own, leased, token⟩
  have same (inbox : store'.inbox = store.inbox) :
      store.InboxHolds id (leaseTokenOf lease id) := before (inbox ▸ member)
  cases effect with
  | idle inbox => exact same inbox
  | accept new first inbox =>
      rw [inbox] at member
      rcases List.mem_append.mp member with stored | added
      · exact before stored
      · rw [List.mem_singleton.mp added, new.state] at leased
        cases leased
  | leaseInbox opened lasts inbox =>
      rcases inbox.cases_of_mem member with ⟨old, oldMem, rfl | ⟨ready, rfl⟩⟩ | impossible
      · exact before oldMem
      · -- The message has a token of this call, which is another one.
        have tokens := Option.some.inj token
        rw [← own] at tokens
        have lease := leaseTokenOf_injective tokens
        rw [opened, lease] at other
        exact absurd rfl other
      · exact impossible.elim
  | complete held inbox =>
      rcases inbox.cases_of_mem member with rfl | stored
      · cases leased
      · exact before stored
  | fail held inbox =>
      rcases inbox.cases_of_mem member with rfl | stored
      · simp only [inboxFail] at token
        cases token
      · exact before stored
  | leaseOutbox opened lasts inbox => exact same inbox
  | receipt held inbox => exact same inbox

/-- Only the lease call itself hands out its tokens for outbound messages. -/
theorem outboxHolds {attempt : Nat} (effect : QueueEffect time now arrival leaseId store store')
    (other : leaseId ≠ some lease)
    (holds : store'.OutboxHolds id (leaseTokenOf lease id) attempt) :
    store.OutboxHolds id (leaseTokenOf lease id) attempt := by
  obtain ⟨row, member, own, leased, token, attempts⟩ := holds
  have before (stored : row ∈ store.outbox) :
      store.OutboxHolds id (leaseTokenOf lease id) attempt :=
    ⟨row, stored, own, leased, token, attempts⟩
  have same (outbox : store'.outbox = store.outbox) :
      store.OutboxHolds id (leaseTokenOf lease id) attempt := before (outbox ▸ member)
  cases effect with
  | idle inbox outbox => exact same outbox
  | accept new first inbox outbox => exact same outbox
  | leaseInbox opened lasts inbox outbox => exact same outbox
  | complete held inbox outbox first =>
      rw [outbox] at member
      rcases List.mem_append.mp member with stored | added
      · exact before stored
      · rw [(first row (Option.mem_toList.mp added)).1.state] at leased
        cases leased
  | fail held inbox outbox => exact same outbox
  | leaseOutbox opened lasts inbox outbox =>
      rcases outbox.cases_of_mem member with ⟨old, oldMem, rfl | ⟨ready, rfl⟩⟩ | impossible
      · exact before oldMem
      · have tokens := Option.some.inj token
        rw [← own] at tokens
        have lease := leaseTokenOf_injective tokens
        rw [opened, lease] at other
        exact absurd rfl other
      · exact impossible.elim
  | receipt held inbox outbox =>
      rcases outbox.cases_of_mem member with rfl | stored
      · simp only [outboxSettle] at token
        cases token
      · exact before stored

end QueueEffect

/-! ### Late reports -/

namespace Memory

variable {env : ChannelEnv} {store : ChannelStore}

/-- A search by a token that no message holds finds none. -/
theorem find?_inboxHeld_eq_none {id leaseToken : String}
    (late : ¬store.InboxHolds id leaseToken) :
    store.inbox.find? (inboxHeld id leaseToken) = none := by
  apply List.find?_eq_none.mpr
  intro row member held
  apply late
  unfold inboxHeld at held
  simp only [Bool.and_eq_true, decide_eq_true_eq] at held
  exact ⟨row, member, held.1.1, held.1.2, held.2⟩

/-- A completion with a token that no message holds changes nothing. -/
theorem completeChannelIngress_of_not_holds {input : IngressCompletion}
    (late : ¬store.InboxHolds input.id input.leaseToken) :
    after (completeChannelIngress env input) store = store := by
  unfold after completeChannelIngress
  simp only [find?_inboxHeld_eq_none late]

/-- A failure with a token that no message holds changes nothing. -/
theorem failChannelIngress_of_not_holds {input : IngressFailure}
    (late : ¬store.InboxHolds input.id input.leaseToken) :
    after (failChannelIngress env input) store = store := by
  unfold after failChannelIngress
  simp only [find?_inboxHeld_eq_none late]

/-- A receipt with a token that no message holds for its attempt changes nothing. -/
theorem recordChannelDeliveryReceipt_of_not_holds {input : ChannelReceiptInput}
    (late : ¬store.OutboxHolds input.outboundId input.leaseToken input.attempt) :
    after (recordChannelDeliveryReceipt env input) store = store := by
  have none : store.outbox.find? (outboxHeld input) = none := by
    apply List.find?_eq_none.mpr
    intro row member held
    apply late
    unfold outboxHeld at held
    simp only [Bool.and_eq_true, decide_eq_true_eq] at held
    obtain ⟨⟨⟨⟨⟨⟨own, -⟩, -⟩, -⟩, leased⟩, token⟩, attempt⟩ := held
    exact ⟨row, member, own, leased, token, attempt⟩
  unfold after recordChannelDeliveryReceipt
  split
  · rename_i answer final ran
    split at ran
    · split at ran
      · cases ran
      · cases ran
        rfl
    · rw [none] at ran
      cases ran
      rfl
  · rfl

/-! ### Superseded tokens -/

/-- The leases that the calls of a run opened. -/
def leaseIds (history : List (Transition ChannelStore Call)) : List String :=
  history.filterMap fun transition => transition.label.leaseId

/-- A token of a lease of the run, which after some later call no message with its id held. -/
def InboxSuperseded (history : List (Transition ChannelStore Call)) (id leaseToken : String) :
    Prop :=
  ∃ later transition earlier lease, history = later ++ transition :: earlier ∧
    lease ∈ leaseIds (transition :: earlier) ∧ leaseToken = leaseTokenOf lease id ∧
    ¬transition.after.InboxHolds id leaseToken

/-- A token of a lease of the run and an attempt, which after some later call no message with
its id held. -/
def OutboxSuperseded (history : List (Transition ChannelStore Call)) (id leaseToken : String)
    (attempt : Nat) : Prop :=
  ∃ later transition earlier lease, history = later ++ transition :: earlier ∧
    lease ∈ leaseIds (transition :: earlier) ∧ leaseToken = leaseTokenOf lease id ∧
    ¬transition.after.OutboxHolds id leaseToken attempt

/-- What no call but a lease brings about is not brought about after the lease. -/
theorem stays_of_lease {history : List (Transition ChannelStore Call)} {store : ChannelStore}
    (run : Run memoryChannels history store) (distinct : (leaseIds history).Nodup)
    {later earlier : List (Transition ChannelStore Call)}
    {transition : Transition ChannelStore Call} {lease : String}
    (split : history = later ++ transition :: earlier)
    (opened : lease ∈ leaseIds (transition :: earlier)) (Held : ChannelStore → Prop)
    (step : ∀ (call : Call) (before : ChannelStore), call.leaseId ≠ some lease →
      Held (call.after before) → Held before)
    (lost : ¬Held transition.after) : ¬Held store := by
  induction later generalizing history store with
  | nil =>
      subst split
      cases run
      exact lost
  | cons next later ih =>
      subst split
      cases run with
      | @step _ before after call ran taken =>
          cases taken
          have leases := distinct
          unfold leaseIds at leases
          rw [List.cons_append, List.filterMap_cons] at leases
          have rest : (leaseIds (later ++ transition :: earlier)).Nodup := by
            split at leases
            · exact leases
            · exact (List.nodup_cons.mp leases).2
          have other : call.leaseId ≠ some lease := by
            intro same
            simp only [same] at leases
            apply (List.nodup_cons.mp leases).1
            unfold leaseIds at opened
            rw [List.filterMap_append]
            exact List.mem_append_right _ opened
          exact fun held => ih ran rest rfl (step call before other held)

/-- A superseded token is held by no inbound message any more. -/
theorem InboxSuperseded.not_holds {history : List (Transition ChannelStore Call)}
    {store : ChannelStore} {id leaseToken : String}
    (superseded : InboxSuperseded history id leaseToken)
    (run : Run memoryChannels history store) (distinct : (leaseIds history).Nodup) :
    ¬store.InboxHolds id leaseToken := by
  obtain ⟨later, transition, earlier, lease, split, opened, rfl, lost⟩ := superseded
  apply stays_of_lease run distinct split opened
    (fun store => store.InboxHolds id (leaseTokenOf lease id))
  · intro call before other held
    exact (call.effect before).inboxHolds other held
  · exact lost

/-- A superseded token is held by no outbound message any more. -/
theorem OutboxSuperseded.not_holds {history : List (Transition ChannelStore Call)}
    {store : ChannelStore} {id leaseToken : String} {attempt : Nat}
    (superseded : OutboxSuperseded history id leaseToken attempt)
    (run : Run memoryChannels history store) (distinct : (leaseIds history).Nodup) :
    ¬store.OutboxHolds id leaseToken attempt := by
  obtain ⟨later, transition, earlier, lease, split, opened, rfl, lost⟩ := superseded
  apply stays_of_lease run distinct split opened
    (fun store => store.OutboxHolds id (leaseTokenOf lease id) attempt)
  · intro call before other held
    exact (call.effect before).outboxHolds other held
  · exact lost

/-- An outbound message that has ended stays in its place as it is. -/
theorem ended_stays {store final : ChannelStore}
    (leads : memoryChannels.Leads (fun _ => True) store final) {index : Nat}
    {row : ChannelOutboxRow} (stored : store.outbox[index]? = some row)
    (ended : row.state.phase.isFinal = true) : final.outbox[index]? = some row := by
  apply leads.keeps (fun store => store.outbox[index]? = some row)
  · intro before call after kept _ taken
    cases taken
    obtain ⟨row', stored', follows⟩ := (call.effect before).outbox_grown.kept index row kept
    rw [stored', follows.ended ended]
  · exact stored

/-! ### The books -/

/-- The books on messages in the state that a run reaches. -/
structure Bookkeeping (history : List (Transition ChannelStore Call)) (store : ChannelStore) :
    Prop where
  messages : Keyed ChannelInboxRow.messageKey store.inbox
  replies : Keyed ChannelOutboxRow.inboxId store.outbox
  receipts : Keyed ChannelReceipt.attemptKey store.receipts
  lateCompletion : ∀ env input,
    ¬store.InboxHolds input.id input.leaseToken ∨
      InboxSuperseded history input.id input.leaseToken →
      after (completeChannelIngress env input) store = store
  lateFailure : ∀ env input,
    ¬store.InboxHolds input.id input.leaseToken ∨
      InboxSuperseded history input.id input.leaseToken →
      after (failChannelIngress env input) store = store
  lateReceipt : ∀ env input,
    ¬store.OutboxHolds input.outboundId input.leaseToken input.attempt ∨
      OutboxSuperseded history input.outboundId input.leaseToken input.attempt →
      after (recordChannelDeliveryReceipt env input) store = store
  ended : ∀ final, memoryChannels.Leads (fun _ => True) store final →
    ∀ (index : Nat) row, store.outbox[index]? = some row → row.state.phase.isFinal = true →
      final.outbox[index]? = some row
  deadLetters : Keyed ChannelDeadLetter.sourceKey store.deadLetters
  inboundLetters : ∀ id, store.HasLetter .inbound id ↔ store.InboundBuried id
  outboundLetters : ∀ id, store.HasLetter .outbound id ↔ store.OutboundBuried id

end Memory

/-- The books are kept in every run whose leases have different ids. -/
theorem memory_bookkeeping {history : List (Transition ChannelStore Memory.Call)}
    {store : ChannelStore} (run : Run memoryChannels history store)
    (distinct : (Memory.leaseIds history).Nodup) : Memory.Bookkeeping history store := by
  have sound := memory_sound run.reachable
  have inboxLate {id leaseToken : String}
      (late : ¬store.InboxHolds id leaseToken ∨ Memory.InboxSuperseded history id leaseToken) :
      ¬store.InboxHolds id leaseToken :=
    late.elim (fun absent => absent) fun superseded => superseded.not_holds run distinct
  have outboxLate {id leaseToken : String} {attempt : Nat}
      (late : ¬store.OutboxHolds id leaseToken attempt ∨
        Memory.OutboxSuperseded history id leaseToken attempt) :
      ¬store.OutboxHolds id leaseToken attempt :=
    late.elim (fun absent => absent) fun superseded => superseded.not_holds run distinct
  exact
    { messages := sound.messages
      replies := sound.replies
      receipts := sound.receipts
      lateCompletion := fun _ _ late =>
        Memory.completeChannelIngress_of_not_holds (inboxLate late)
      lateFailure := fun _ _ late => Memory.failChannelIngress_of_not_holds (inboxLate late)
      lateReceipt := fun _ _ late =>
        Memory.recordChannelDeliveryReceipt_of_not_holds (outboxLate late)
      ended := fun _ leads _ _ stored ended => Memory.ended_stays leads stored ended
      deadLetters := sound.deadLetters
      inboundLetters := sound.inboundLetters
      outboundLetters := sound.outboundLetters }

/-- The sample message is leased twice. -/
def sampleLeases : List Memory.Call :=
  [sampleIngressLease "second" 61, sampleIngressLease "first" 0, sampleAccept]

theorem memory_bookkeeping_sample :
    Memory.Bookkeeping (Memory.historyOf sampleLeases sampleChannels)
      (Memory.afterCalls sampleLeases sampleChannels) :=
  memory_bookkeeping (Memory.run_historyOf sampleChannels_blank _) (by decide)

end BairuiPlatform
