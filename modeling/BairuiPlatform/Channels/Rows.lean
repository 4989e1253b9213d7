/-
Module: BairuiPlatform.Channels.Rows
Purpose: What the channel methods write: the rows they add and the changes they make to rows,
  at the time that the clock of a repository gives.
Trusted boundary: none
Main exports: inboxRowOf, outboxRowOf, inboxLease, inboxComplete, inboxFail, outboxLease,
  nextState, outboxSettle, receiptOf, bury, withHealth
-/
import BairuiPlatform.Channels.Schema

namespace BairuiPlatform

open Foundations

/-- The clock reading of a call and the values of `randomUUID()` in it, in their order. -/
structure ChannelEnv where
  now : Nat
  uuids : Nat → String

/-- An error that a channel method throws. -/
structure ChannelError where
  code : String
  message : String
  statusCode : Option Nat
deriving Repr, DecidableEq

/-- The error of a receipt that contradicts an earlier one. -/
def receiptConflict : ChannelError :=
  { code := "channel_receipt_conflict", message := "Conflicting channel delivery receipt"
    statusCode := some 409 }

/-- The error of a reply without a Runtime conversation. -/
def conversationScopeUnavailable : ChannelError :=
  { code := "channel_conversation_scope_unavailable"
    message := "Channel conversation does not have a Runtime scope"
    statusCode := none }

/-- How `acceptChannelIngress` took a message. -/
inductive IngressStatus where
  | accepted | duplicate
deriving Repr, DecidableEq

/-- What `acceptChannelIngress` returns. -/
structure IngressAnswer where
  status : IngressStatus
  binding : ChannelBinding
  inbox : ChannelInboxRow

/-- What `completeChannelIngress` returns. -/
structure CompletionAnswer where
  inbox : ChannelInboxRow
  outbound : Option ChannelOutboxRow

/-- What `leaseChannelDeliveries` returns. -/
structure DeliveriesAnswer where
  leaseId : String
  deliveries : List ChannelOutboxRow

/-- What `recordChannelDeliveryReceipt` returns. -/
structure ChannelReceiptAnswer where
  receipt : ChannelReceipt
  outbound : Option ChannelOutboxRow

/-- What `saveChannelHealthReport` returns. -/
structure HealthAnswer where
  observation : HealthObservation
  binding : ChannelBinding

/-- A text that is there and not empty, as a condition of JavaScript has it. -/
def truthy : Option String → Option String
  | some text => if text = "" then none else some text
  | none => none

/-! ### Rows by what a request names -/

/-- The binding of a request, by its id, agent and channel. -/
def isBindingOf (bindingId agentId : String) (channel : Channel) (row : ChannelBinding) : Bool :=
  row.id = bindingId && row.agentId = agentId && row.channel = channel

/-- The inbound message with the id that a channel gave it. -/
def isMessageOf (bindingId externalMessageId : String) (row : ChannelInboxRow) : Bool :=
  row.bindingId = bindingId && row.externalMessageId = externalMessageId

/-- The inbound message that a report of its processing is about. -/
def inboxHeld (id leaseToken : String) (row : ChannelInboxRow) : Bool :=
  row.id = id && row.state = .leased && row.leaseToken = some leaseToken

/-- The reply to an inbound message. -/
def isReplyTo (inboxId : String) (row : ChannelOutboxRow) : Bool :=
  row.inboxId = inboxId

/-- The conversation of a message. -/
def isConversationOf (bindingId channelConversationId : String) (row : ChannelConversation) :
    Bool :=
  row.bindingId = bindingId && row.channelConversationId = channelConversationId

/-- The receipt of a delivery attempt. -/
def isReceiptOf (outboundId : String) (attempt : Nat) (row : ChannelReceipt) : Bool :=
  row.outboundId = outboundId && row.attempt = attempt

/-- The dead letter of a message. -/
def isLetterOf (direction : Direction) (sourceId : String) (row : ChannelDeadLetter) : Bool :=
  row.direction = direction && row.sourceId = sourceId

/-- The health observation of a worker with a sequence number. -/
def isObservationOf (bindingId workerId : String) (sequence : Nat) (row : HealthObservation) :
    Bool :=
  row.bindingId = bindingId && row.workerId = workerId && row.sequence = sequence

/-! ### Inbound messages -/

/-- The row of an accepted message. -/
def inboxRowOf (id : String) (now maxAttempts : Nat) (input : IngressInput)
    (binding : ChannelBinding) : ChannelInboxRow :=
  { id := id
    organizationId := binding.organizationId
    userId := binding.userId
    agentId := binding.agentId
    bindingId := binding.id
    channel := binding.channel
    channelAccountId := input.channelAccountId
    externalMessageId := input.externalMessageId
    sender := input.sender
    conversation := input.conversation
    content := input.content
    attachments := .arr (input.attachments.getD [])
    replyToMessageId := input.replyToMessageId
    trace := input.trace
    state := .pending
    attempts := 0
    maxAttempts := maxAttempts
    availableAt := now
    leaseToken := none
    leaseExpiresAt := none
    lastErrorCode := none
    receivedAt := input.receivedAt
    completedAt := none
    createdAt := now
    updatedAt := now }

/-- An inbound message that is handed out. -/
def inboxLease (leaseId : String) (leaseExpiresAt now : Nat) (row : ChannelInboxRow) :
    ChannelInboxRow :=
  { row with
    state := .leased
    attempts := row.attempts + 1
    leaseToken := some (leaseTokenOf leaseId row.id)
    leaseExpiresAt := some leaseExpiresAt
    updatedAt := now }

/-- An inbound message that was processed. -/
def inboxComplete (now : Nat) (row : ChannelInboxRow) : ChannelInboxRow :=
  { row with
    state := .completed
    leaseToken := none
    leaseExpiresAt := none
    lastErrorCode := none
    completedAt := some now
    updatedAt := now }

/-- An inbound message whose processing failed. -/
def inboxFail (availableAt now : Nat) (errorCode : String) (row : ChannelInboxRow) :
    ChannelInboxRow :=
  { row with
    state := if row.maxAttempts ≤ row.attempts then .dead else .retry
    availableAt := availableAt
    leaseToken := none
    leaseExpiresAt := none
    lastErrorCode := some errorCode
    updatedAt := now }

/-! ### Outbound messages -/

/-- The row of a reply to an inbound message. -/
def outboxRowOf (id : String) (now maxAttempts : Nat) (input : OutboundInput)
    (inbox : ChannelInboxRow) (runtimeConversationId : String) : ChannelOutboxRow :=
  { id := id
    organizationId := inbox.organizationId
    userId := inbox.userId
    agentId := inbox.agentId
    bindingId := inbox.bindingId
    inboxId := inbox.id
    channel := inbox.channel
    channelAccountId := inbox.channelAccountId
    conversation :=
      { input.conversation.getD inbox.conversation with
        runtimeConversationId := some runtimeConversationId }
    content := input.content
    attachments := .arr (input.attachments.getD [])
    replyToMessageId := some (input.replyToMessageId.getD inbox.externalMessageId)
    trace := input.trace.getD inbox.trace
    state := .pending
    attempts := 0
    maxAttempts := maxAttempts
    availableAt := now
    workerId := none
    leaseToken := none
    leaseExpiresAt := none
    channelMessageId := none
    lastErrorCode := none
    deliveredAt := none
    createdAt := now
    updatedAt := now }

/-- An outbound message that is handed out. -/
def outboxLease (workerId leaseId : String) (leaseExpiresAt now : Nat)
    (row : ChannelOutboxRow) : ChannelOutboxRow :=
  { row with
    state := .leased
    attempts := row.attempts + 1
    workerId := some workerId
    leaseToken := some (leaseTokenOf leaseId row.id)
    leaseExpiresAt := some leaseExpiresAt
    updatedAt := now }

/-- `nextState`. -/
def nextState (status : DeliveryStatus) (row : ChannelOutboxRow) : ChannelOutboxState :=
  match status with
  | .delivered => .delivered
  | .retryable => if row.maxAttempts ≤ row.attempts then .dead else .retry
  | .failed => .failed

/-- The time before which a message is not handed out again. -/
def retryAt (env : ChannelEnv) (retryAfterMs : Option Int) : Nat :=
  ofMillis (dateNow env.now + (max 0 (retryAfterMs.getD 0)).toNat)

/-- An outbound message with a receipt. -/
def outboxSettle (env : ChannelEnv) (now : Nat) (input : ChannelReceiptInput)
    (row : ChannelOutboxRow) : ChannelOutboxRow :=
  let state := nextState input.status row
  { row with
    state := state
    availableAt := if state = .retry then retryAt env input.retryAfterMs else row.availableAt
    workerId := none
    leaseToken := none
    leaseExpiresAt := none
    channelMessageId := input.channelMessageId.or row.channelMessageId
    lastErrorCode := input.errorCode
    deliveredAt := if state = .delivered then some input.observedAt else row.deliveredAt
    updatedAt := now }

/-- The receipt that `recordChannelDeliveryReceipt` stores. -/
def receiptOf (id : String) (input : ChannelReceiptInput) (row : ChannelOutboxRow) :
    ChannelReceipt :=
  { id := id
    outboundId := row.id
    bindingId := row.bindingId
    workerId := row.workerId
    attempt := input.attempt
    status := input.status
    channelMessageId := input.channelMessageId
    errorCode := input.errorCode
    observedAt := input.observedAt }

/-- A receipt for an attempt that has another one contradicts it. -/
def contradicts (input : ChannelReceiptInput) (previous : ChannelReceipt) : Bool :=
  (truthy input.workerId).any (fun workerId => previous.workerId ≠ some workerId) ||
    previous.status ≠ input.status

/-! ### Dead letters -/

/-- The dead letter of an inbound message. -/
def inboundLetter (id : String) (now : Nat) (errorCode : String) (row : ChannelInboxRow) :
    ChannelDeadLetter :=
  { id := id
    organizationId := row.organizationId
    agentId := row.agentId
    bindingId := row.bindingId
    direction := .inbound
    sourceId := row.id
    attempts := row.attempts
    errorCode := errorCode
    deadAt := now }

/-- The dead letter of an outbound message. -/
def outboundLetter (id : String) (now : Nat) (errorCode : Option String)
    (row : ChannelOutboxRow) : ChannelDeadLetter :=
  { id := id
    organizationId := row.organizationId
    agentId := row.agentId
    bindingId := row.bindingId
    direction := .outbound
    sourceId := row.id
    attempts := row.attempts
    errorCode := errorCode.getD "delivery_failed"
    deadAt := now }

/-- The dead letters with one more, unless its message has one. -/
def bury (letter : ChannelDeadLetter) (letters : List ChannelDeadLetter) :
    List ChannelDeadLetter :=
  if letters.any (isLetterOf letter.direction letter.sourceId) then letters
  else letters ++ [letter]

/-! ### Health -/

/-- The observation that `saveChannelHealthReport` stores. -/
def observationOf (id : String) (now : Nat) (input : HealthReport) (binding : ChannelBinding) :
    HealthObservation :=
  { id := id
    organizationId := binding.organizationId
    agentId := binding.agentId
    bindingId := binding.id
    channel := binding.channel
    workerId := input.workerId
    sequence := input.sequence
    status := input.status
    capabilities := input.capabilities.getD []
    adapterVersion := input.adapterVersion
    latencyMs := input.latencyMs
    lastInboundAt := input.lastInboundAt
    lastOutboundAt := input.lastOutboundAt
    errorCode := input.errorCode
    observedAt := input.observedAt
    createdAt := now }

/-- The columns of a binding that a health report replaces; the times of the last messages
are merged as the repository merges them. -/
def withHealth (now : Nat) (input : HealthReport)
    (lastSeenAt lastInboundAt lastOutboundAt : Option Nat) (binding : ChannelBinding) :
    ChannelBinding :=
  { binding with
    status := input.status
    capabilities := input.capabilities.getD []
    adapterVersion := input.adapterVersion
    lastErrorCode := input.errorCode
    lastHealthAt := some input.observedAt
    lastSeenAt := lastSeenAt
    lastInboundAt := lastInboundAt
    lastOutboundAt := lastOutboundAt
    updatedAt := now }

end BairuiPlatform
