/-
Module: BairuiPlatform.Channels.Schema
Purpose: The rows of the channel bridge: bindings, the inbox and the outbox of messages,
  delivery receipts, dead letters and health observations.
Trusted boundary: none
Main exports: the enumerations of migration 018, the row types, ChannelStore
-/
import BairuiPlatform.Clock
import BairuiPlatform.Foundations.Tickets
import BairuiPlatform.Json

namespace BairuiPlatform

open Foundations

/-! ### Enumerations of the CHECK constraints -/

/-- `channel_inbox.channel`. -/
inductive Channel where
  | web | cli | feishu | wechat | qq
deriving Repr, DecidableEq

/-- `agent_channel_bindings.status`. -/
inductive ChannelStatus where
  | unconfigured | pending | connected | degraded | error | disconnected | disabled
  | unavailable
deriving Repr, DecidableEq

/-- `channel_inbox.state`. -/
inductive ChannelInboxState where
  | pending | leased | retry | completed | dead
deriving Repr, DecidableEq

/-- How far an inbound message has come. -/
def ChannelInboxState.phase : ChannelInboxState → Phase
  | pending | retry => .waiting
  | leased => .held
  | completed => .done
  | dead => .buried

/-- `channel_outbox.state`. -/
inductive ChannelOutboxState where
  | pending | leased | retry | delivered | failed | dead
deriving Repr, DecidableEq

/-- How far an outbound message has come. -/
def ChannelOutboxState.phase : ChannelOutboxState → Phase
  | pending | retry => .waiting
  | leased => .held
  | delivered => .done
  | failed | dead => .buried

/-- `channel_delivery_receipts.status`. -/
inductive DeliveryStatus where
  | delivered | retryable | failed
deriving Repr, DecidableEq

/-- `channel_dead_letters.direction`. -/
inductive Direction where
  | inbound | outbound
deriving Repr, DecidableEq

/-! ### Rows -/

/-- `agent_channel_bindings`. -/
structure ChannelBinding where
  id : String
  organizationId : String
  userId : String
  agentId : String
  channel : Channel
  displayName : String
  status : ChannelStatus
  credentialEnvelope : Option String
  credentialHint : Option String
  metadata : Json
  connectionGeneration : Nat
  capabilities : List String
  adapterVersion : Option String
  lastErrorCode : Option String
  lastSeenAt : Option Nat
  lastHealthAt : Option Nat
  lastInboundAt : Option Nat
  lastOutboundAt : Option Nat
  createdAt : Nat
  updatedAt : Nat
deriving Repr

/-- The conversation of a message on its channel; the Runtime conversation is known for
outbound messages. -/
structure Conversation where
  channelConversationId : String
  kind : String
  runtimeConversationId : Option String
deriving Repr, DecidableEq

/-- The columns by which messages are handed out. -/
structure QueueColumns where
  attempts : Nat
  maxAttempts : Nat
  availableAt : Nat
  leaseToken : Option String
  leaseExpiresAt : Option Nat
deriving Repr, DecidableEq

/-- `channel_inbox`. -/
structure ChannelInboxRow extends QueueColumns where
  id : String
  organizationId : String
  userId : String
  agentId : String
  bindingId : String
  channel : Channel
  channelAccountId : String
  externalMessageId : String
  sender : Json
  conversation : Conversation
  content : Json
  attachments : Json
  replyToMessageId : Option String
  trace : Json
  state : ChannelInboxState
  lastErrorCode : Option String
  receivedAt : Nat
  completedAt : Option Nat
  createdAt : Nat
  updatedAt : Nat
deriving Repr

/-- `channel_outbox`. -/
structure ChannelOutboxRow extends QueueColumns where
  id : String
  organizationId : String
  userId : String
  agentId : String
  bindingId : String
  inboxId : String
  channel : Channel
  channelAccountId : String
  conversation : Conversation
  content : Json
  attachments : Json
  replyToMessageId : Option String
  trace : Json
  state : ChannelOutboxState
  workerId : Option String
  channelMessageId : Option String
  lastErrorCode : Option String
  deliveredAt : Option Nat
  createdAt : Nat
  updatedAt : Nat
deriving Repr

/-- `channel_conversations`. -/
structure ChannelConversation where
  id : String
  organizationId : String
  userId : String
  agentId : String
  bindingId : String
  channel : Channel
  channelConversationId : String
  conversationKind : String
  runtimeConversationId : String
  lastMessageAt : Nat
  createdAt : Nat
  updatedAt : Nat
deriving Repr

/-- `channel_delivery_receipts`. -/
structure ChannelReceipt where
  id : String
  outboundId : String
  bindingId : String
  workerId : Option String
  attempt : Nat
  status : DeliveryStatus
  channelMessageId : Option String
  errorCode : Option String
  observedAt : Nat
deriving Repr, DecidableEq

/-- `channel_dead_letters`. -/
structure ChannelDeadLetter where
  id : String
  organizationId : String
  agentId : String
  bindingId : String
  direction : Direction
  sourceId : String
  attempts : Nat
  errorCode : String
  deadAt : Nat
deriving Repr, DecidableEq

/-- `channel_health_observations`. -/
structure HealthObservation where
  id : String
  organizationId : String
  agentId : String
  bindingId : String
  channel : Channel
  workerId : String
  sequence : Nat
  status : ChannelStatus
  capabilities : List String
  adapterVersion : Option String
  latencyMs : Option Nat
  lastInboundAt : Option Nat
  lastOutboundAt : Option Nat
  errorCode : Option String
  observedAt : Nat
  createdAt : Nat
deriving Repr

/-- What the channel methods of a repository read and write. -/
structure ChannelStore where
  bindings : List ChannelBinding
  inbox : List ChannelInboxRow
  conversations : List ChannelConversation
  outbox : List ChannelOutboxRow
  receipts : List ChannelReceipt
  deadLetters : List ChannelDeadLetter
  healthObservations : List HealthObservation
deriving Repr

/-! ### Requests -/

/-- The argument of `upsertAgentChannelBinding`. -/
structure BindingInput where
  id : Option String
  organizationId : String
  userId : String
  agentId : String
  channel : Channel
  displayName : String
  status : Option ChannelStatus
  credentialEnvelope : Option String
  credentialHint : Option String
  metadata : Option Json
  lastErrorCode : Option String
deriving Repr

/-- The argument of `acceptChannelIngress`. -/
structure IngressInput where
  id : Option String
  bindingId : String
  agentId : String
  channel : Channel
  channelAccountId : String
  externalMessageId : String
  sender : Json
  conversation : Conversation
  content : Json
  attachments : Option (List Json)
  replyToMessageId : Option String
  trace : Json
  maxAttempts : Option Nat
  receivedAt : Nat
deriving Repr

/-- The argument of `ensureChannelConversation`. -/
structure ConversationInput where
  id : Option String
  organizationId : String
  userId : String
  agentId : String
  bindingId : String
  channel : Channel
  channelConversationId : String
  conversationKind : String
  runtimeConversationId : Option String
  lastMessageAt : Option Nat
deriving Repr

/-- The argument of `leaseChannelIngress`. -/
structure IngressLease where
  leaseId : Option String
  limit : Option Int
  leaseSeconds : Option Int
deriving Repr

/-- The reply that comes with a completed inbound message. -/
structure OutboundInput where
  id : Option String
  conversation : Option Conversation
  content : Json
  attachments : Option (List Json)
  replyToMessageId : Option String
  trace : Option Json
  maxAttempts : Option Nat
deriving Repr

/-- The argument of `completeChannelIngress`. -/
structure IngressCompletion where
  id : String
  leaseToken : String
  outbound : Option OutboundInput
deriving Repr

/-- The argument of `failChannelIngress`. -/
structure IngressFailure where
  id : String
  leaseToken : String
  availableAt : Option Nat
  errorCode : String
deriving Repr

/-- The argument of `leaseChannelDeliveries`. -/
structure DeliveryLease where
  agentId : Option String
  organizationId : Option String
  channels : List Channel
  bindingIds : Option (List String)
  workerId : String
  leaseId : Option String
  limit : Option Int
  leaseSeconds : Option Int
deriving Repr

/-- The argument of `recordChannelDeliveryReceipt`. -/
structure ChannelReceiptInput where
  receiptId : Option String
  outboundId : String
  bindingId : String
  agentId : String
  workerId : Option String
  leaseToken : String
  status : DeliveryStatus
  attempt : Nat
  channelMessageId : Option String
  errorCode : Option String
  retryAfterMs : Option Int
  observedAt : Nat
deriving Repr

/-- The argument of `saveChannelHealthReport`. -/
structure HealthReport where
  id : Option String
  bindingId : String
  agentId : String
  channel : Channel
  workerId : String
  sequence : Nat
  status : ChannelStatus
  capabilities : Option (List String)
  adapterVersion : Option String
  latencyMs : Option Nat
  lastInboundAt : Option Nat
  lastOutboundAt : Option Nat
  errorCode : Option String
  observedAt : Nat
deriving Repr

/-- The lease time of a request, in seconds. -/
def leaseSecondsOf (requested : Option Int) : Nat :=
  clamped 5 60 300 requested

/-- The number of messages that a lease call may hand out. -/
def leaseLimitOf (requested : Option Int) : Nat :=
  clamped 1 10 100 requested

theorem leaseSecondsOf_pos (requested : Option Int) : 5 ≤ leaseSecondsOf requested := by
  unfold leaseSecondsOf clamped
  split
  · decide
  · split <;> exact Nat.le_max_left _ _

/-- Whether a message may be accepted on a binding. -/
def ChannelStatus.accepts : ChannelStatus → Bool
  | disabled | unconfigured => false
  | _ => true

/-- The token of a message in a lease. -/
def leaseTokenOf (leaseId id : String) : String :=
  leaseId ++ ":" ++ id

/-- The tokens of one message in different leases are different. -/
theorem leaseTokenOf_injective {first second id : String}
    (same : leaseTokenOf first id = leaseTokenOf second id) : first = second := by
  unfold leaseTokenOf at same
  exact (String.append_left_inj _).mp ((String.append_left_inj _).mp same)

/-- The columns of an inbound message as a ticket, on the clock of a repository. -/
def ChannelInboxRow.ticket (time : Nat → Nat) (row : ChannelInboxRow) : Ticket :=
  { phase := row.state.phase
    attempts := row.attempts
    maxAttempts := row.maxAttempts
    availableAt := time row.availableAt
    heldUntil := row.leaseExpiresAt.map time }

/-- The columns of an outbound message as a ticket, on the clock of a repository. -/
def ChannelOutboxRow.ticket (time : Nat → Nat) (row : ChannelOutboxRow) : Ticket :=
  { phase := row.state.phase
    attempts := row.attempts
    maxAttempts := row.maxAttempts
    availableAt := time row.availableAt
    heldUntil := row.leaseExpiresAt.map time }

end BairuiPlatform
