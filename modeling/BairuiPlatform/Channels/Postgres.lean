/-
Module: BairuiPlatform.Channels.Postgres
Purpose: The channel methods of PostgresPlatformRepository over the tables of migration 018,
  with the parameters as the driver of the database binds them.
Trusted boundary: PgDriver, the parameter binding of the pg package
Main exports: PgDriver, PgDriver.literal, Postgres.acceptChannelIngress,
  Postgres.ensureChannelConversation, Postgres.leaseChannelIngress,
  Postgres.completeChannelIngress,
  Postgres.failChannelIngress, Postgres.leaseChannelDeliveries,
  Postgres.recordChannelDeliveryReceipt, Postgres.saveChannelHealthReport
-/
import BairuiPlatform.Channels.Rows
import BairuiPlatform.Foundations.Table
import BairuiPlatform.Foundations.Transaction
import BairuiPlatform.JsonText

namespace BairuiPlatform

open Foundations

/-- How the driver binds the values of parameters: an object as its JSON text, an array as an
array literal. The text of null is none. -/
class PgDriver where
  bind : Json → Option (List Char)
  object : ∀ fields, bind (.obj fields) = some (Json.obj fields).stringifyChars
  array : ∀ items, ∃ text, bind (.arr items) = some text ∧ ArrayLiteral items text

/-- Why a statement or a check of a channel method failed. -/
inductive ChannelFailure where
  | thrown (error : ChannelError)
  | violation (constraint : String)
deriving Repr, DecidableEq

/-- A clock reading and random values, with the messages that other transactions have
locked. -/
structure PgEnv extends ChannelEnv where
  locked : String → Bool

namespace Postgres

/-- A method on its connection. -/
abbrev Method (α : Type) := Tx ChannelStore ChannelFailure α

/-- A parameter for a jsonb column that may not be null. -/
def jsonbParam [PgDriver] (value : Json) : Method Json :=
  Tx.orRaise (.violation "invalid input syntax for type json")
    ((PgDriver.bind value).bind Json.jsonb)

/-- `GREATEST(COALESCE(current, value), value)`. -/
def greatest (current : Option Nat) (value : Nat) : Nat :=
  max (current.getD value) value

/-- `GREATEST(current, value)`, which skips nulls. -/
def greatest? : Option Nat → Option Nat → Option Nat
  | some current, some value => some (max current value)
  | some current, none => some current
  | none, value => value

/-! ### Bindings -/

/-- The binding that `upsertAgentChannelBinding` inserts. -/
def bindingOf (env : ChannelEnv) (input : BindingInput) : ChannelBinding :=
  { id := input.id.getD (env.uuids 0)
    organizationId := input.organizationId
    userId := input.userId
    agentId := input.agentId
    channel := input.channel
    displayName := input.displayName
    status := input.status.getD .pending
    credentialEnvelope := input.credentialEnvelope
    credentialHint := input.credentialHint
    metadata := input.metadata.getD (.obj [])
    connectionGeneration := if (truthy input.credentialEnvelope).isSome then 1 else 0
    capabilities := []
    adapterVersion := none
    lastErrorCode := input.lastErrorCode
    lastSeenAt := none
    lastHealthAt := none
    lastInboundAt := none
    lastOutboundAt := none
    createdAt := env.now
    updatedAt := env.now }

/-- `ON CONFLICT (agent_id, channel) DO UPDATE`. -/
def mergeBinding (now : Nat) (excluded row : ChannelBinding) : ChannelBinding :=
  let renewed := excluded.credentialEnvelope.isSome
  { row with
    displayName := excluded.displayName
    status := excluded.status
    credentialEnvelope := excluded.credentialEnvelope.or row.credentialEnvelope
    credentialHint := excluded.credentialHint.or row.credentialHint
    metadata := excluded.metadata
    lastErrorCode := excluded.lastErrorCode
    connectionGeneration := row.connectionGeneration + if renewed then 1 else 0
    capabilities := if renewed then [] else row.capabilities
    adapterVersion := if renewed then none else row.adapterVersion
    lastHealthAt := if renewed then none else row.lastHealthAt
    updatedAt := now }

/-- `upsertAgentChannelBinding`. -/
def upsertAgentChannelBinding (env : ChannelEnv) (input : BindingInput) :
    Method ChannelBinding := do
  let own (row : ChannelBinding) : Bool :=
    row.agentId = input.agentId && row.channel = input.channel
  let excluded := bindingOf env input
  let existing ← Tx.read fun store => store.bindings.find? own
  match existing with
  | some row =>
      Tx.write fun store =>
        { store with bindings := updateWhere own (mergeBinding env.now excluded) store.bindings }
      return mergeBinding env.now excluded row
  | none =>
      Tx.insert
        (fun store => [(!store.bindings.any (·.id = excluded.id),
          .violation "agent_channel_bindings_pkey")])
        fun store => { store with bindings := store.bindings ++ [excluded] }
      return excluded

/-! ### Inbound messages -/

/-- `INSERT INTO channel_inbox`, past the conflict with an earlier message. -/
def insertInbox (row : ChannelInboxRow) : Method Unit :=
  Tx.insert
    (fun store => [(!store.inbox.any (·.id = row.id), .violation "channel_inbox_pkey")])
    fun store => { store with inbox := store.inbox ++ [row] }

/-- `acceptChannelIngress`. -/
def acceptChannelIngress [PgDriver] (env : ChannelEnv) (input : IngressInput) :
    Method (Option IngressAnswer) := do
  let own := isBindingOf input.bindingId input.agentId input.channel
  let found ← Tx.read fun store => store.bindings.find? own
  match found.filter (·.status.accepts) with
  | none => return none
  | some binding =>
      let sender ← jsonbParam input.sender
      let content ← jsonbParam input.content
      let attachments ← jsonbParam (.arr (input.attachments.getD []))
      let trace ← jsonbParam input.trace
      let earlier ← Tx.read fun store =>
        store.inbox.find? (isMessageOf binding.id input.externalMessageId)
      match earlier with
      | some duplicate => return some ⟨.duplicate, binding, duplicate⟩
      | none =>
          let inbox :=
            { inboxRowOf (input.id.getD (env.uuids 0)) env.now 8 input binding with
              sender := sender, content := content, attachments := attachments
              trace := trace }
          insertInbox inbox
          Tx.write fun store =>
            { store with
              bindings := updateWhere (fun row => row.id = binding.id)
                (fun row =>
                  { row with
                    lastInboundAt := some input.receivedAt
                    lastSeenAt := some (greatest row.lastSeenAt input.receivedAt)
                    updatedAt := env.now })
                store.bindings }
          return some ⟨.accepted, binding, inbox⟩

/-- `ensureChannelConversation`. -/
def ensureChannelConversation (env : ChannelEnv) (input : ConversationInput) :
    Method ChannelConversation := do
  let own := isConversationOf input.bindingId input.channelConversationId
  let touch (row : ChannelConversation) : ChannelConversation :=
    { row with
      conversationKind := input.conversationKind
      lastMessageAt := input.lastMessageAt.getD (isoNow env.now)
      updatedAt := env.now }
  let existing ← Tx.read fun store => store.conversations.find? own
  match existing with
  | some row =>
      Tx.write fun store =>
        { store with conversations := updateWhere own touch store.conversations }
      return touch row
  | none =>
      let conversation : ChannelConversation :=
        { id := input.id.getD (env.uuids 0)
          organizationId := input.organizationId
          userId := input.userId
          agentId := input.agentId
          bindingId := input.bindingId
          channel := input.channel
          channelConversationId := input.channelConversationId
          conversationKind := input.conversationKind
          runtimeConversationId := input.runtimeConversationId.getD (env.uuids 1)
          lastMessageAt := input.lastMessageAt.getD (isoNow env.now)
          createdAt := env.now
          updatedAt := env.now }
      Tx.insert
        (fun store => [(!store.conversations.any (·.id = conversation.id),
          .violation "channel_conversations_pkey")])
        fun store => { store with conversations := store.conversations ++ [conversation] }
      return conversation

/-- The end of a lease of a call. -/
def leaseEnd (env : ChannelEnv) (leaseSeconds : Option Int) : Nat :=
  env.now + leaseSecondsOf leaseSeconds * 1000000

/-- The condition of the query of `leaseChannelIngress`. -/
def inboxReady (now : Nat) (row : ChannelInboxRow) : Bool :=
  row.attempts < row.maxAttempts &&
    (([.pending, .retry].contains row.state && row.availableAt ≤ now) ||
      (row.state = .leased && row.leaseExpiresAt.any (· < now)))

/-- `leaseChannelIngress`. -/
def leaseChannelIngress (env : PgEnv) (input : IngressLease) :
    Method (List ChannelInboxRow) := do
  let leaseId := input.leaseId.getD (env.uuids 0)
  let positions ← Tx.read fun store =>
    positionsOf (fun row => inboxReady env.now row && !env.locked row.id)
      (fun first second => first.receivedAt < second.receivedAt ∨
        (first.receivedAt = second.receivedAt ∧ first.id ≤ second.id))
      (leaseLimitOf input.limit) store.inbox
  Tx.write fun store =>
    { store with
      inbox := updateAt positions
        (inboxLease leaseId (leaseEnd env.toChannelEnv input.leaseSeconds) env.now) store.inbox }
  Tx.read fun store => positions.filterMap (store.inbox[·]?)

/-- The row of a reply with its parameters as the driver binds them. -/
def storedReply [PgDriver] (env : ChannelEnv) (reply : OutboundInput)
    (inbox : ChannelInboxRow) (runtimeConversationId : String) : Method ChannelOutboxRow := do
  let content ← jsonbParam reply.content
  let attachments ← jsonbParam (.arr (reply.attachments.getD []))
  let trace ← jsonbParam (reply.trace.getD inbox.trace)
  let row := outboxRowOf (reply.id.getD (env.uuids 0)) env.now 8 reply inbox
    runtimeConversationId
  return { row with content := content, attachments := attachments, trace := trace }

/-- `INSERT INTO channel_outbox … ON CONFLICT (inbox_id) DO UPDATE … RETURNING *`. -/
def insertReply (row : ChannelOutboxRow) : Method ChannelOutboxRow := do
  let earlier ← Tx.read fun store => store.outbox.find? (isReplyTo row.inboxId)
  match earlier with
  | some reply => return reply
  | none =>
      Tx.insert
        (fun store => [(!store.outbox.any (·.id = row.id), .violation "channel_outbox_pkey")])
        fun store => { store with outbox := store.outbox ++ [row] }
      return row

/-- The part of `completeChannelIngress` that queues a reply. -/
def queueReply [PgDriver] (env : ChannelEnv) (inbox : ChannelInboxRow) :
    Option OutboundInput → Method (Option ChannelOutboxRow)
  | none => return none
  | some reply => do
      let candidate ← Tx.read fun store => store.conversations.find?
        (isConversationOf inbox.bindingId inbox.conversation.channelConversationId)
      let conversation ← Tx.orRaise (.thrown conversationScopeUnavailable) candidate
      let row ← storedReply env reply inbox conversation.runtimeConversationId
      let stored ← insertReply row
      return some stored

/-- `completeChannelIngress`. -/
def completeChannelIngress [PgDriver] (env : ChannelEnv) (input : IngressCompletion) :
    Method (Option CompletionAnswer) := do
  let held ← Tx.read fun store => store.inbox.find? (inboxHeld input.id input.leaseToken)
  match held with
  | none => return none
  | some inbox =>
      let outbound ← queueReply env inbox input.outbound
      Tx.write fun store =>
        { store with
          inbox := updateWhere (fun row => row.id = inbox.id) (inboxComplete env.now)
            store.inbox }
      return some ⟨inboxComplete env.now inbox, outbound⟩

/-- `INSERT INTO channel_dead_letters … ON CONFLICT (direction, source_id) DO NOTHING`. -/
def insertLetter (letter : ChannelDeadLetter) : Method Unit :=
  Tx.insert
    (fun store =>
      [(store.deadLetters.any (isLetterOf letter.direction letter.sourceId) ||
          !store.deadLetters.any (·.id = letter.id), .violation "channel_dead_letters_pkey"),
        (decide (0 < letter.attempts), .violation "channel_dead_letters_attempts_check")])
    fun store => { store with deadLetters := bury letter store.deadLetters }

/-- `failChannelIngress`. -/
def failChannelIngress (env : ChannelEnv) (input : IngressFailure) :
    Method (Option ChannelInboxRow) := do
  let held ← Tx.read fun store => store.inbox.find? (inboxHeld input.id input.leaseToken)
  match held with
  | none => return none
  | some inbox =>
      let fail := inboxFail (input.availableAt.getD (isoNow env.now)) env.now input.errorCode
      Tx.write fun store =>
        { store with
          inbox := updateWhere (fun row => row.id = inbox.id) fail store.inbox }
      Tx.whenever (inbox.maxAttempts ≤ inbox.attempts) <|
        insertLetter (inboundLetter (env.uuids 0) env.now input.errorCode inbox)
      return some (fail inbox)

/-! ### Outbound messages -/

/-- The condition of the query of `leaseChannelDeliveries`. -/
def outboxReady (now : Nat) (input : DeliveryLease) (row : ChannelOutboxRow) : Bool :=
  input.agentId.all (· = row.agentId) && input.organizationId.all (· = row.organizationId) &&
    input.channels.contains row.channel &&
    ((input.bindingIds.getD []).isEmpty || (input.bindingIds.getD []).contains row.bindingId) &&
    row.attempts < row.maxAttempts &&
    (([.pending, .retry].contains row.state && row.availableAt ≤ now) ||
      (row.state = .leased && row.leaseExpiresAt.any (· < now)))

/-- `ORDER BY available_at, created_at, id`. -/
def deliveredBefore (first second : ChannelOutboxRow) : Prop :=
  first.availableAt < second.availableAt ∨
    (first.availableAt = second.availableAt ∧
      (first.createdAt < second.createdAt ∨
        (first.createdAt = second.createdAt ∧ first.id ≤ second.id)))

instance : DecidableRel deliveredBefore := fun first second => by
  unfold deliveredBefore
  infer_instance

/-- `leaseChannelDeliveries`. -/
def leaseChannelDeliveries (env : PgEnv) (input : DeliveryLease) :
    Method DeliveriesAnswer := do
  let leaseId := input.leaseId.getD (env.uuids 0)
  let positions ← Tx.read fun store =>
    positionsOf (fun row => outboxReady env.now input row && !env.locked row.id) deliveredBefore
      (leaseLimitOf input.limit) store.outbox
  Tx.write fun store =>
    { store with
      outbox := updateAt positions
        (outboxLease input.workerId leaseId (leaseEnd env.toChannelEnv input.leaseSeconds)
          env.now) store.outbox }
  let deliveries ← Tx.read fun store => positions.filterMap (store.outbox[·]?)
  return ⟨leaseId, deliveries⟩

/-- The outbound message that a receipt is about. -/
def outboxHeld (input : ChannelReceiptInput) (row : ChannelOutboxRow) : Bool :=
  row.id = input.outboundId && row.bindingId = input.bindingId && row.agentId = input.agentId &&
    input.workerId.all (fun workerId => row.workerId = some workerId) &&
    row.state = .leased && row.leaseToken = some input.leaseToken && row.attempts = input.attempt

/-- `INSERT INTO channel_delivery_receipts`. -/
def insertReceipt (receipt : ChannelReceipt) : Method Unit :=
  Tx.insert
    (fun store =>
      [(receipt.workerId.isSome, .violation "channel_delivery_receipts_worker_id_not_null"),
        (decide (0 < receipt.attempt), .violation "channel_delivery_receipts_attempt_check"),
        (!store.receipts.any (·.id = receipt.id), .violation "channel_delivery_receipts_pkey"),
        (!store.receipts.any (isReceiptOf receipt.outboundId receipt.attempt),
          .violation "channel_delivery_receipts_outbound_id_attempt_key")])
    fun store => { store with receipts := store.receipts ++ [receipt] }

/-- `recordChannelDeliveryReceipt`. -/
def recordChannelDeliveryReceipt (env : ChannelEnv) (input : ChannelReceiptInput) :
    Method (Option ChannelReceiptAnswer) := do
  let existing ← Tx.read fun store =>
    store.receipts.find? (isReceiptOf input.outboundId input.attempt)
  match existing with
  | some previous =>
      Tx.require (contradicts input previous = false) (.thrown receiptConflict)
      let outbound ← Tx.read fun store => store.outbox.find? fun row => row.id = input.outboundId
      return some ⟨previous, outbound⟩
  | none =>
      let held ← Tx.read fun store => store.outbox.find? (outboxHeld input)
      match held with
      | none => return none
      | some outbound =>
          let state := nextState input.status outbound
          let receipt := receiptOf (input.receiptId.getD (env.uuids 0)) input outbound
          insertReceipt receipt
          Tx.write fun store =>
            { store with
              outbox := updateWhere (fun row => row.id = outbound.id)
                (outboxSettle env env.now input) store.outbox }
          Tx.whenever ([.dead, .failed].contains state = true) <|
            insertLetter (outboundLetter (env.uuids 1) env.now input.errorCode outbound)
          Tx.whenever (state = .delivered) <|
            Tx.write fun store =>
              { store with
                bindings := updateWhere (fun row => row.id = outbound.bindingId)
                  (fun row =>
                    { row with
                      lastOutboundAt := some input.observedAt
                      lastSeenAt := some (greatest row.lastSeenAt input.observedAt)
                      updatedAt := env.now })
                  store.bindings }
          return some ⟨receipt, some (outboxSettle env env.now input outbound)⟩

/-! ### Health -/

/-- The report is not older than the health of the binding. -/
def isCurrent (input : HealthReport) (binding : ChannelBinding) : Bool :=
  binding.lastHealthAt.all (· ≤ input.observedAt)

/-- The binding after a health report. -/
def afterReport (env : ChannelEnv) (input : HealthReport) (binding : ChannelBinding) :
    ChannelBinding :=
  withHealth env.now input
    (if input.status = .connected then some (greatest binding.lastSeenAt input.observedAt)
      else binding.lastSeenAt)
    (greatest? binding.lastInboundAt input.lastInboundAt)
    (greatest? binding.lastOutboundAt input.lastOutboundAt) binding

/-- The statuses of `channel_health_observations.status`. -/
def reportable : ChannelStatus → Bool
  | .unconfigured | .unavailable => false
  | _ => true

/-- `INSERT INTO channel_health_observations … ON CONFLICT DO NOTHING`. -/
def insertObservation (row : HealthObservation) (earlier : Option HealthObservation) :
    Method Unit :=
  Tx.insert
    (fun store =>
      [(decide (0 < row.sequence), .violation "channel_health_observations_sequence_check"),
        (reportable row.status, .violation "channel_health_observations_status_check"),
        (earlier.isSome || !store.healthObservations.any (·.id = row.id),
          .violation "channel_health_observations_pkey")])
    fun store =>
      { store with
        healthObservations :=
          if earlier.isSome then store.healthObservations
          else store.healthObservations ++ [row] }

/-- `saveChannelHealthReport`. -/
def saveChannelHealthReport (env : ChannelEnv) (input : HealthReport) :
    Method (Option HealthAnswer) := do
  let own := isBindingOf input.bindingId input.agentId input.channel
  let found ← Tx.read fun store => store.bindings.find? own
  match found with
  | none => return none
  | some binding =>
      let fresh := observationOf (input.id.getD (env.uuids 0)) env.now input binding
      let earlier ← Tx.read fun store => store.healthObservations.find?
        (isObservationOf binding.id input.workerId input.sequence)
      insertObservation fresh earlier
      Tx.write fun store =>
        { store with
          bindings := updateWhere (fun row => row.id = binding.id && isCurrent input row)
            (afterReport env input) store.bindings }
      let after ← Tx.read fun store => store.bindings.find? (·.id = binding.id)
      return some ⟨earlier.getD fresh, after.getD binding⟩

end Postgres

end BairuiPlatform
