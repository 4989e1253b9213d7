/-
Module: BairuiPlatform.Channels.PostgresSystem
Purpose: The channel methods of PostgresPlatformRepository as a transition system, and the
  effect of every call on the queues.
Trusted boundary: none
Main exports: Postgres.Call, Postgres.Primary, Postgres.Call.affects, postgresChannels,
  postgres_sound
-/
import BairuiPlatform.Channels.Postgres
import BairuiPlatform.Channels.System
import BairuiPlatform.Foundations.Transition

namespace BairuiPlatform

open Foundations

namespace Postgres

/-- A call of a method: when it happens, which random values it draws, and before which
statement its connection is lost, if it is. -/
structure Call where
  env : PgEnv
  request : ChannelRequest
  fault : Option Nat

/-- The tables after a call. -/
def Call.after [PgDriver] (call : Call) (store : ChannelStore) : ChannelStore :=
  let env := call.env.toChannelEnv
  match call.request with
  | .upsertAgentChannelBinding input =>
      ((upsertAgentChannelBinding env input).inTransaction call.fault store).2
  | .acceptChannelIngress input =>
      ((acceptChannelIngress env input).inTransaction call.fault store).2
  | .ensureChannelConversation input =>
      ((ensureChannelConversation env input).inTransaction call.fault store).2
  | .leaseChannelIngress input =>
      ((leaseChannelIngress call.env input).inTransaction call.fault store).2
  | .completeChannelIngress input =>
      ((completeChannelIngress env input).inTransaction call.fault store).2
  | .failChannelIngress input =>
      ((failChannelIngress env input).inTransaction call.fault store).2
  | .leaseChannelDeliveries input =>
      ((leaseChannelDeliveries call.env input).inTransaction call.fault store).2
  | .recordChannelDeliveryReceipt input =>
      ((recordChannelDeliveryReceipt env input).inTransaction call.fault store).2
  | .saveChannelHealthReport input =>
      ((saveChannelHealthReport env input).inTransaction call.fault store).2

/-- The time of a call on the clock of the database, in microseconds. -/
def Call.now (call : Call) : Nat := call.env.now

/-- The lease that a call opens, if it opens one. -/
def Call.leaseId (call : Call) : Option String :=
  call.request.leaseId? call.env.toChannelEnv

/-- The primary keys of the queues. -/
structure Primary (store : ChannelStore) : Prop where
  inbox : Keyed ChannelInboxRow.id store.inbox
  outbox : Keyed ChannelOutboxRow.id store.outbox

theorem Primary.of_ids {store final : ChannelStore} (primary : Primary store)
    (inbox : final.inbox.map ChannelInboxRow.id = store.inbox.map ChannelInboxRow.id)
    (outbox : final.outbox.map ChannelOutboxRow.id = store.outbox.map ChannelOutboxRow.id) :
    Primary final := by
  obtain ⟨inboxKeyed, outboxKeyed⟩ := primary
  unfold Keyed at inboxKeyed outboxKeyed
  constructor <;> unfold Keyed
  · rw [inbox]
    exact inboxKeyed
  · rw [outbox]
    exact outboxKeyed

/-- How a message comes into the tables: with the default of `max_attempts`, and with what the
driver and jsonb make of a list of attachments. -/
def arrival : Arrival :=
  { maxAttempts := 8
    attachments := .obj [] }

/-- The effect of a call on the queues, with their primary keys. -/
structure Affects (now : Nat) (leaseId : Option String) (store final : ChannelStore) : Prop where
  effect : QueueEffect id now arrival leaseId store final
  primary : Primary final

theorem Affects.idle {now : Nat} {leaseId : Option String} {store final : ChannelStore}
    (primary : Primary store) (inbox : final.inbox = store.inbox)
    (outbox : final.outbox = store.outbox) (receipts : final.receipts = store.receipts)
    (deadLetters : final.deadLetters = store.deadLetters) : Affects now leaseId store final :=
  ⟨.idle inbox outbox receipts deadLetters, primary.of_ids (by rw [inbox]) (by rw [outbox])⟩

/-- A transaction that commits has its effect, and one that does not has none. -/
theorem affects_of_transaction {α : Type} {now : Nat} {leaseId : Option String} {store : ChannelStore}
    (primary : Primary store) (method : Method α) (fault : Option Nat)
    (commits : ∀ answer final, method.eval store = .ok (answer, final) →
      Affects now leaseId store final) :
    Affects now leaseId store (method.inTransaction fault store).2 := by
  rcases Tx.inTransaction_cases method fault store with
    ⟨answer, final, ran, executed⟩ | ⟨interruption, executed⟩
  · rw [executed]
    exact commits answer final ran
  · rw [executed]
    exact .idle primary rfl rfl rfl rfl

theorem jsonbParam_ok [PgDriver] {value stored : Json} {store final : ChannelStore} :
    (jsonbParam value).eval store = .ok (stored, final) ↔
      (PgDriver.bind value).bind Json.jsonb = some stored ∧ final = store :=
  Tx.eval_orRaise_ok

/-- A list of attachments can be stored if it is empty, and then it is not a list. -/
theorem arrayParam_ok [PgDriver] {items : List Json} {stored : Json}
    {store final : ChannelStore} :
    (jsonbParam (.arr items)).eval store = .ok (stored, final) ↔
      items = [] ∧ stored = .obj [] ∧ final = store := by
  rw [jsonbParam_ok]
  obtain ⟨text, bound, literal⟩ := PgDriver.array items
  rw [bound, Option.bind_some, Json.jsonb, Json.parse_arrayLiteral literal]
  by_cases empty : items = []
  · rw [if_pos empty, Option.some.injEq]
    simp only [empty, true_and, eq_comm]
  · rw [if_neg empty]
    simp [empty]

section Effects

variable {leaseId : Option String} {env : ChannelEnv} {store final : ChannelStore}

/-- The effect of an accepted message. -/
theorem accept_affects [PgDriver] (primary : Primary store) {input : IngressInput}
    {answer : Option IngressAnswer}
    (ran : (acceptChannelIngress env input).eval store = .ok (answer, final)) :
    Affects env.now leaseId store final := by
  simp only [acceptChannelIngress, Tx.eval_read_bind] at ran
  split at ran
  · cases ran
    exact .idle primary rfl rfl rfl rfl
  · rename_i binding _
    simp only [Tx.eval_bind_ok, Tx.eval_read_bind, arrayParam_ok] at ran
    simp only [jsonbParam_ok, and_assoc, exists_and_left, exists_eq_left] at ran
    obtain ⟨sender, -, content, -, -, trace, -, ran⟩ := ran
    split at ran
    · cases ran
      exact .idle primary rfl rfl rfl rfl
    · rename_i fresh
      simp only [Tx.eval_bind_ok, Tx.eval_write_bind, insertInbox, Tx.eval_insert_ok,
        Tx.eval_pure, Except.ok.injEq, Prod.mk.injEq] at ran
      obtain ⟨_, _, ⟨unused, rfl⟩, -, rfl⟩ := ran
      refine ⟨.accept ⟨rfl, rfl, rfl, rfl⟩ (messageKey_ne_of_find? fresh) rfl rfl rfl rfl, ?_, ?_⟩
      · refine primary.inbox.snoc fun other member same => ?_
        simp only [List.mem_singleton, forall_eq, Bool.not_eq_true', List.any_eq_false,
          decide_eq_true_eq] at unused
        exact unused other member same
      · exact primary.outbox

/-- The time that a lease ends lies ahead. -/
theorem now_le_leaseEnd (leaseSeconds : Option Int) :
    env.now ≤ id (leaseEnd env leaseSeconds) := by
  unfold leaseEnd
  rw [id_eq]
  omega

/-- The effect of a lease of inbound messages. -/
theorem leaseInbox_affects {env : PgEnv} (primary : Primary store) {input : IngressLease}
    {answer : List ChannelInboxRow}
    (ran : (leaseChannelIngress env input).eval store = .ok (answer, final)) :
    Affects env.now (some (input.leaseId.getD (env.uuids 0))) store final := by
  simp only [leaseChannelIngress, Tx.eval_read_bind, Tx.eval_write_bind, Tx.eval_read] at ran
  have inbox : Grown
      (fun old new => new = old ∨
        ((old.ticket id).Ready env.now ∧
          new = inboxLease (input.leaseId.getD (env.uuids 0))
            (leaseEnd env.toChannelEnv input.leaseSeconds) env.now old))
      (fun _ => False) store.inbox final.inbox := by
    cases ran
    refine updateAt_grown.mono (fun old _ new _ later => ?_) fun _ _ => False.elim
    refine later.imp_right fun step => ⟨?_, step.2⟩
    have ready := step.1
    rw [Bool.and_eq_true] at ready
    exact ChannelInboxRow.ready_iff.mp ready.1
  have ids : final.inbox.map ChannelInboxRow.id = store.inbox.map ChannelInboxRow.id := by
    refine inbox.map_eq fun old new later => ?_
    rcases later with rfl | ⟨-, rfl⟩ <;> rfl
  cases ran
  exact ⟨.leaseInbox rfl (now_le_leaseEnd input.leaseSeconds) inbox rfl rfl rfl,
    primary.of_ids ids rfl⟩

/-- A reply is queued once, as a new message. -/
theorem queueReply_ok [PgDriver] {inbox : ChannelInboxRow} {input : Option OutboundInput}
    {answer : Option ChannelOutboxRow}
    (ran : (queueReply env inbox input).eval store = .ok (answer, final)) :
    ∃ reply : Option ChannelOutboxRow,
      final = { store with outbox := store.outbox ++ reply.toList } ∧
        (∀ row ∈ reply, row.IsNew arrival ∧ row.inboxId = inbox.id ∧
          ∀ other ∈ store.outbox, other.inboxId ≠ inbox.id) ∧
        ∀ row ∈ reply, ∀ other ∈ store.outbox, other.id ≠ row.id := by
  cases input with
  | none =>
      cases ran
      refine ⟨none, ?_, fun row member => ?_, fun row member => ?_⟩
      · rw [Option.toList_none, List.append_nil]
      · cases member
      · cases member
  | some reply =>
      simp only [queueReply, storedReply, Tx.eval_read_bind, Tx.eval_bind_ok,
        Tx.eval_orRaise_ok, arrayParam_ok] at ran
      simp only [jsonbParam_ok, Tx.eval_read_bind, and_assoc, exists_and_left, exists_eq_left,
        Tx.eval_pure, Except.ok.injEq, Prod.mk.injEq, insertReply] at ran
      obtain ⟨conversation, -, row, middle, ⟨content, -, -, trace, -, rfl, rfl⟩,
        stored, _, inserted, -, rfl⟩ := ran
      split at inserted
      · cases inserted
        refine ⟨none, ?_, fun row member => ?_, fun row member => ?_⟩
        · rw [Option.toList_none, List.append_nil]
        · cases member
        · cases member
      · rename_i unanswered
        simp only [Tx.eval_bind_ok, Tx.eval_insert_ok, Tx.eval_pure, Except.ok.injEq,
          Prod.mk.injEq] at inserted
        obtain ⟨_, _, ⟨unused, rfl⟩, -, rfl⟩ := inserted
        refine ⟨some _, rfl, ?_, ?_⟩
        · intro row member
          cases member
          refine ⟨⟨rfl, rfl, rfl, rfl⟩, rfl, fun other member same => ?_⟩
          have absent := List.find?_eq_none.mp unanswered other member
          exact absent (decide_eq_true same)
        · intro row member other stored same
          cases member
          simp only [List.mem_singleton, forall_eq, Bool.not_eq_true', List.any_eq_false,
            decide_eq_true_eq] at unused
          exact unused other stored same

/-- The only message with an id is replaced by its changed version. -/
theorem replaced_inbox (primary : Primary store) {row : ChannelInboxRow}
    (member : row ∈ store.inbox) (change : ChannelInboxRow → ChannelInboxRow) :
    Replaced row (change row) store.inbox
      (updateWhere (fun other => other.id = row.id) change store.inbox) :=
  .of_keyed primary.inbox member (decide_eq_true rfl) fun _ same => of_decide_eq_true same

theorem replaced_outbox (primary : Primary store) {row : ChannelOutboxRow}
    (member : row ∈ store.outbox) (change : ChannelOutboxRow → ChannelOutboxRow) :
    Replaced row (change row) store.outbox
      (updateWhere (fun other => other.id = row.id) change store.outbox) :=
  .of_keyed primary.outbox member (decide_eq_true rfl) fun _ same => of_decide_eq_true same

/-- The effect of a processed message. -/
theorem complete_affects [PgDriver] (primary : Primary store) {input : IngressCompletion}
    {answer : Option CompletionAnswer}
    (ran : (completeChannelIngress env input).eval store = .ok (answer, final)) :
    Affects env.now leaseId store final := by
  simp only [completeChannelIngress, Tx.eval_read_bind] at ran
  split at ran
  · cases ran
    exact .idle primary rfl rfl rfl rfl
  · rename_i inbox found
    simp only [Tx.eval_bind_ok, Tx.eval_write_bind, Tx.eval_pure, Except.ok.injEq,
      Prod.mk.injEq] at ran
    obtain ⟨outbound, middle, queued, -, rfl⟩ := ran
    obtain ⟨reply, rfl, first, unused⟩ := queueReply_ok queued
    have member := List.mem_of_find?_eq_some found
    refine ⟨.complete (leased_of_inboxHeld (List.find?_some found))
      (replaced_inbox primary member (inboxComplete env.now)) rfl first rfl rfl, ?_, ?_⟩
    · exact primary.inbox.update fun _ => rfl
    · show Keyed ChannelOutboxRow.id (store.outbox ++ reply.toList)
      cases reply with
      | none =>
          rw [Option.toList_none, List.append_nil]
          exact primary.outbox
      | some row => exact primary.outbox.snoc (unused row rfl)

theorem insertLetter_ok {letter : ChannelDeadLetter} {answer : Unit}
    (ran : (insertLetter letter).eval store = .ok (answer, final)) :
    final = { store with deadLetters := bury letter store.deadLetters } := by
  rw [insertLetter, Tx.eval_insert_ok] at ran
  exact ran.2

/-- The effect of a failed message. -/
theorem fail_affects (primary : Primary store) {input : IngressFailure}
    {answer : Option ChannelInboxRow}
    (ran : (failChannelIngress env input).eval store = .ok (answer, final)) :
    Affects env.now leaseId store final := by
  simp only [failChannelIngress, Tx.eval_read_bind] at ran
  split at ran
  · cases ran
    exact .idle primary rfl rfl rfl rfl
  · rename_i inbox found
    simp only [Tx.eval_bind_ok, Tx.eval_write_bind, Tx.eval_whenever_ok, Tx.eval_pure,
      Except.ok.injEq, Prod.mk.injEq] at ran
    obtain ⟨_, _, buried, -, rfl⟩ := ran
    have member := List.mem_of_find?_eq_some found
    have source : (inboundLetter (env.uuids 0) env.now input.errorCode inbox).sourceKey =
        (.inbound, inbox.id) := rfl
    rcases buried with ⟨spent, inserted⟩ | ⟨left, rfl⟩
    · rw [insertLetter_ok inserted]
      refine ⟨.fail (leased_of_inboxHeld (List.find?_some found))
        (replaced_inbox primary member _) rfl rfl source (if_pos spent).symm, ?_, primary.outbox⟩
      exact primary.inbox.update fun _ => rfl
    · refine ⟨.fail (leased_of_inboxHeld (List.find?_some found))
        (replaced_inbox primary member _) rfl rfl source (if_neg left).symm, ?_, primary.outbox⟩
      exact primary.inbox.update fun _ => rfl

/-- A message that the query selects is ready. -/
theorem ready_of_outboxReady {now : Nat} {input : DeliveryLease} {row : ChannelOutboxRow}
    (ready : outboxReady now input row = true) : (row.ticket id).Ready now := by
  unfold outboxReady at ready
  rw [Bool.and_assoc, Bool.and_eq_true] at ready
  exact ChannelOutboxRow.ready_iff.mp ready.2

/-- The effect of a lease of outbound messages. -/
theorem leaseOutbox_affects {env : PgEnv} (primary : Primary store) {input : DeliveryLease}
    {answer : DeliveriesAnswer}
    (ran : (leaseChannelDeliveries env input).eval store = .ok (answer, final)) :
    Affects env.now (some (input.leaseId.getD (env.uuids 0))) store final := by
  simp only [leaseChannelDeliveries, Tx.eval_read_bind, Tx.eval_write_bind, Tx.eval_pure,
    Except.ok.injEq, Prod.mk.injEq] at ran
  have outbox : Grown
      (fun old new => new = old ∨
        ((old.ticket id).Ready env.now ∧
          new = outboxLease input.workerId (input.leaseId.getD (env.uuids 0))
            (leaseEnd env.toChannelEnv input.leaseSeconds) env.now old))
      (fun _ => False) store.outbox final.outbox := by
    rw [← ran.2]
    refine updateAt_grown.mono (fun old _ new _ later => ?_) fun _ _ => False.elim
    refine later.imp_right fun step => ⟨?_, step.2⟩
    have ready := step.1
    rw [Bool.and_eq_true] at ready
    exact ready_of_outboxReady ready.1
  have ids : final.outbox.map ChannelOutboxRow.id = store.outbox.map ChannelOutboxRow.id := by
    refine outbox.map_eq fun old new later => ?_
    rcases later with rfl | ⟨-, rfl⟩ <;> rfl
  obtain ⟨-, rfl⟩ := ran
  exact ⟨.leaseOutbox rfl (now_le_leaseEnd input.leaseSeconds) rfl outbox rfl rfl,
    primary.of_ids rfl ids⟩

/-- The effect of a receipt. -/
theorem receipt_affects (primary : Primary store) {input : ChannelReceiptInput}
    {answer : Option ChannelReceiptAnswer}
    (ran : (recordChannelDeliveryReceipt env input).eval store = .ok (answer, final)) :
    Affects env.now leaseId store final := by
  simp only [recordChannelDeliveryReceipt, Tx.eval_read_bind] at ran
  split at ran
  · simp only [Tx.eval_bind_ok, Tx.eval_require_ok, Tx.eval_read_bind, Tx.eval_pure,
      Except.ok.injEq, Prod.mk.injEq] at ran
    obtain ⟨_, _, ⟨-, rfl⟩, -, rfl⟩ := ran
    exact .idle primary rfl rfl rfl rfl
  · rename_i fresh
    rw [Tx.eval_read_bind] at ran
    split at ran
    · cases ran
      exact .idle primary rfl rfl rfl rfl
    · rename_i outbound found
      simp only [Tx.eval_bind_ok, Tx.eval_write_bind, insertReceipt, Tx.eval_insert_ok,
        Tx.eval_whenever_ok, Tx.eval_write, Tx.eval_pure, Except.ok.injEq,
        Prod.mk.injEq] at ran
      obtain ⟨_, _, ⟨-, rfl⟩, _, _, buried, _, _, delivered, -, rfl⟩ := ran
      have member := List.mem_of_find?_eq_some found
      have held := List.find?_some found
      unfold outboxHeld at held
      simp only [Bool.and_eq_true, decide_eq_true_eq] at held
      obtain ⟨⟨⟨⟨⟨⟨own, -⟩, -⟩, -⟩, leased⟩, -⟩, -⟩ := held
      have unseen : ∀ other ∈ store.receipts, other.attemptKey ≠
          (receiptOf (input.receiptId.getD (env.uuids 0)) input outbound).attemptKey := by
        rw [ChannelReceipt.attemptKey, receiptOf, own]
        exact attemptKey_ne_of_find? fresh
      have source : (outboundLetter (env.uuids 1) env.now input.errorCode outbound).sourceKey =
          (.outbound, outbound.id) := rfl
      -- Past the receipt and the message, only letters and bindings change.
      have settled : ∀ last : ChannelStore, last.inbox = store.inbox →
          last.outbox = updateWhere (fun row => row.id = outbound.id)
            (outboxSettle env env.now input) store.outbox →
          last.receipts = store.receipts ++
            [receiptOf (input.receiptId.getD (env.uuids 0)) input outbound] →
          (last.deadLetters =
            if (nextState input.status outbound).phase = .buried then
              bury (outboundLetter (env.uuids 1) env.now input.errorCode outbound)
                store.deadLetters
            else store.deadLetters) →
          Affects env.now leaseId store last := by
        intro last inbox outbox receipts letters
        have settles : Replaced outbound (outboxSettle env env.now input outbound)
            store.outbox last.outbox := by
          rw [outbox]
          exact replaced_outbox primary member _
        refine ⟨.receipt leased inbox settles unseen receipts source letters, ?_, ?_⟩
        · rw [inbox]
          exact primary.inbox
        · rw [outbox]
          exact primary.outbox.update fun _ => rfl
      rw [buried_iff] at buried
      rcases buried with ⟨ends, inserted⟩ | ⟨goesOn, rfl⟩
      · rw [insertLetter_ok inserted] at delivered
        rcases delivered with ⟨-, -, rfl⟩ | ⟨-, rfl⟩ <;>
          exact settled _ rfl rfl rfl (if_pos ends).symm
      · rcases delivered with ⟨-, -, rfl⟩ | ⟨-, rfl⟩ <;>
          exact settled _ rfl rfl rfl (if_neg goesOn).symm

/-- The effect of a binding that is written. -/
theorem upsert_affects (primary : Primary store) {input : BindingInput}
    {answer : ChannelBinding}
    (ran : (upsertAgentChannelBinding env input).eval store = .ok (answer, final)) :
    Affects env.now leaseId store final := by
  simp only [upsertAgentChannelBinding, Tx.eval_read_bind] at ran
  split at ran
  · cases ran
    exact .idle primary rfl rfl rfl rfl
  · simp only [Tx.eval_bind_ok, Tx.eval_insert_ok, Tx.eval_pure, Except.ok.injEq,
      Prod.mk.injEq] at ran
    obtain ⟨_, _, ⟨-, rfl⟩, -, rfl⟩ := ran
    exact .idle primary rfl rfl rfl rfl

/-- The effect of a conversation that is opened or touched. -/
theorem conversation_affects (primary : Primary store) {input : ConversationInput}
    {answer : ChannelConversation}
    (ran : (ensureChannelConversation env input).eval store = .ok (answer, final)) :
    Affects env.now leaseId store final := by
  simp only [ensureChannelConversation, Tx.eval_read_bind] at ran
  split at ran
  · cases ran
    exact .idle primary rfl rfl rfl rfl
  · simp only [Tx.eval_bind_ok, Tx.eval_insert_ok, Tx.eval_pure, Except.ok.injEq,
      Prod.mk.injEq] at ran
    obtain ⟨_, _, ⟨-, rfl⟩, -, rfl⟩ := ran
    exact .idle primary rfl rfl rfl rfl

/-- The effect of a health report. -/
theorem health_affects (primary : Primary store) {input : HealthReport}
    {answer : Option HealthAnswer}
    (ran : (saveChannelHealthReport env input).eval store = .ok (answer, final)) :
    Affects env.now leaseId store final := by
  simp only [saveChannelHealthReport, Tx.eval_read_bind] at ran
  split at ran
  · cases ran
    exact .idle primary rfl rfl rfl rfl
  · simp only [insertObservation, Tx.eval_bind_ok, Tx.eval_insert_ok, Tx.eval_write_bind,
      Tx.eval_read_bind, Tx.eval_pure, Except.ok.injEq, Prod.mk.injEq] at ran
    obtain ⟨_, _, ⟨-, rfl⟩, -, rfl⟩ := ran
    exact .idle primary rfl rfl rfl rfl

end Effects

/-- Every call has an effect on the queues and keeps their primary keys. -/
theorem Call.affects [PgDriver] (call : Call) {store : ChannelStore} (primary : Primary store) :
    Affects call.now call.leaseId store (call.after store) := by
  obtain ⟨env, request, fault⟩ := call
  cases request with
  | upsertAgentChannelBinding input =>
      exact affects_of_transaction primary _ fault fun _ _ => upsert_affects primary
  | acceptChannelIngress input =>
      exact affects_of_transaction primary _ fault fun _ _ => accept_affects primary
  | ensureChannelConversation input =>
      exact affects_of_transaction primary _ fault fun _ _ => conversation_affects primary
  | leaseChannelIngress input =>
      exact affects_of_transaction primary _ fault fun _ _ => leaseInbox_affects primary
  | completeChannelIngress input =>
      exact affects_of_transaction primary _ fault fun _ _ => complete_affects primary
  | failChannelIngress input =>
      exact affects_of_transaction primary _ fault fun _ _ => fail_affects primary
  | leaseChannelDeliveries input =>
      exact affects_of_transaction primary _ fault fun _ _ => leaseOutbox_affects primary
  | recordChannelDeliveryReceipt input =>
      exact affects_of_transaction primary _ fault fun _ _ => receipt_affects primary
  | saveChannelHealthReport input =>
      exact affects_of_transaction primary _ fault fun _ _ => health_affects primary

end Postgres

/-- The channel methods of PostgresPlatformRepository. -/
def postgresChannels [PgDriver] : TransitionSystem ChannelStore Postgres.Call where
  initial := ChannelStore.Blank
  step before call after := after = call.after before

/-- The invariants of the queues and their primary keys hold in every reachable store. -/
theorem postgres_sound [PgDriver] {store : ChannelStore}
    (reachable : Reachable postgresChannels store) :
    store.Sound id ∧ Postgres.Primary store := by
  apply reachable.invariant fun store => store.Sound id ∧ Postgres.Primary store
  · intro store blank
    refine ⟨blank.sound, ?_, ?_⟩
    · simp [blank.inbox, Keyed]
    · simp [blank.outbox, Keyed]
  · intro before call after holds taken
    obtain ⟨sound, primary⟩ := holds
    cases taken
    obtain ⟨effect, kept⟩ := call.affects primary
    exact ⟨sound.effect effect, kept⟩

end BairuiPlatform
