/-
Module: BairuiPlatform.Channels.System
Purpose: The requests to the channel methods, and what the searches and filters of both
  repositories say about the queues.
Trusted boundary: none
Main exports: ChannelRequest, ChannelStore.Blank, ChannelInboxRow.ready_iff,
  ChannelOutboxRow.ready_iff
-/
import BairuiPlatform.Channels.Effects

namespace BairuiPlatform

open Foundations

/-! ### Requests -/

/-- The requests to the channel methods of a repository. -/
inductive ChannelRequest where
  | upsertAgentChannelBinding (input : BindingInput)
  | acceptChannelIngress (input : IngressInput)
  | ensureChannelConversation (input : ConversationInput)
  | leaseChannelIngress (input : IngressLease)
  | completeChannelIngress (input : IngressCompletion)
  | failChannelIngress (input : IngressFailure)
  | leaseChannelDeliveries (input : DeliveryLease)
  | recordChannelDeliveryReceipt (input : ChannelReceiptInput)
  | saveChannelHealthReport (input : HealthReport)

/-- The lease that a call opens, if it opens one. -/
def ChannelRequest.leaseId? (env : ChannelEnv) : ChannelRequest → Option String
  | .leaseChannelIngress input => some (input.leaseId.getD (env.uuids 0))
  | .leaseChannelDeliveries input => some (input.leaseId.getD (env.uuids 0))
  | _ => none

/-- The status that a call saves a binding with, if it saves one. -/
def ChannelRequest.declared : ChannelRequest → Option ChannelStatus
  | .upsertAgentChannelBinding input => some (input.status.getD .pending)
  | _ => none

/-- How an accepted message comes into the inbox. -/
def IngressInput.arrival (input : IngressInput) : Arrival :=
  { maxAttempts := input.maxAttempts.getD 8
    attachments := .arr (input.attachments.getD []) }

/-- How a reply comes into the outbox, if there is one. -/
def Arrival.ofReply (input : Option OutboundInput) : Arrival :=
  { maxAttempts := (input.bind OutboundInput.maxAttempts).getD 8
    attachments := .arr ((input.bind OutboundInput.attachments).getD []) }

/-- How a call queues its message, as the request has it. -/
def ChannelRequest.arrival : ChannelRequest → Arrival
  | .acceptChannelIngress input => input.arrival
  | .completeChannelIngress input => .ofReply input.outbound
  | _ => .ofReply none

/-- No message yet: any bindings and conversations, and empty queues. -/
structure ChannelStore.Blank (store : ChannelStore) : Prop where
  inbox : store.inbox = []
  outbox : store.outbox = []
  receipts : store.receipts = []
  deadLetters : store.deadLetters = []

theorem ChannelStore.Blank.sound {time : Nat → Nat} {store : ChannelStore}
    (blank : store.Blank) : store.Sound time where
  inbox := by simp [blank.inbox]
  outbox := by simp [blank.outbox]
  messages := by simp [blank.inbox, Keyed]
  replies := by simp [blank.outbox, Keyed]
  receipts := by simp [blank.receipts, Keyed]
  deadLetters := by simp [blank.deadLetters, Keyed]
  inboundLetters := by simp [ChannelStore.HasLetter, ChannelStore.InboundBuried,
    blank.deadLetters, blank.inbox]
  outboundLetters := by simp [ChannelStore.HasLetter, ChannelStore.OutboundBuried,
    blank.deadLetters, blank.outbox]

/-- The filter of a lease call on inbound messages reads their tickets. -/
theorem ChannelInboxRow.ready_iff {time : Nat → Nat} {now : Nat} {row : ChannelInboxRow} :
    (row.attempts < row.maxAttempts &&
      (([.pending, .retry].contains row.state && time row.availableAt ≤ now) ||
        (row.state = .leased && row.leaseExpiresAt.any fun instant => time instant < now))) =
      true ↔ (row.ticket time).Ready now := by
  unfold Ticket.Ready Ticket.Lapsed ChannelInboxRow.ticket
  cases state : row.state <;> cases expiry : row.leaseExpiresAt <;>
    simp [ChannelInboxState.phase]

/-- The part of the filter on outbound messages that reads their tickets. -/
theorem ChannelOutboxRow.ready_iff {time : Nat → Nat} {now : Nat} {row : ChannelOutboxRow} :
    (row.attempts < row.maxAttempts &&
      (([.pending, .retry].contains row.state && time row.availableAt ≤ now) ||
        (row.state = .leased && row.leaseExpiresAt.any fun instant => time instant < now))) =
      true ↔ (row.ticket time).Ready now := by
  unfold Ticket.Ready Ticket.Lapsed ChannelOutboxRow.ticket
  cases state : row.state <;> cases expiry : row.leaseExpiresAt <;>
    simp [ChannelOutboxState.phase]

/-- No message of a list has a key that no search found. -/
theorem messageKey_ne_of_find? {bindingId externalMessageId : String}
    {rows : List ChannelInboxRow}
    (none : rows.find? (isMessageOf bindingId externalMessageId) = none) :
    ∀ other ∈ rows, other.messageKey ≠ (bindingId, externalMessageId) := by
  intro other member same
  have absent := List.find?_eq_none.mp none other member
  unfold ChannelInboxRow.messageKey at same
  unfold isMessageOf at absent
  simp_all

/-- No receipt of a list has a key that no search found. -/
theorem attemptKey_ne_of_find? {outboundId : String} {attempt : Nat}
    {rows : List ChannelReceipt}
    (none : rows.find? (isReceiptOf outboundId attempt) = none) :
    ∀ other ∈ rows, other.attemptKey ≠ (outboundId, attempt) := by
  intro other member same
  have absent := List.find?_eq_none.mp none other member
  unfold ChannelReceipt.attemptKey at same
  unfold isReceiptOf at absent
  simp_all

/-- The report is about a leased message. -/
theorem leased_of_inboxHeld {id leaseToken : String} {row : ChannelInboxRow}
    (held : inboxHeld id leaseToken row = true) : row.state = .leased := by
  unfold inboxHeld at held
  simp only [Bool.and_eq_true, decide_eq_true_eq] at held
  exact held.1.2

/-- The states for which a dead letter is written are those of a burial. -/
theorem buried_iff {state : ChannelOutboxState} :
    [ChannelOutboxState.dead, .failed].contains state = true ↔ state.phase = .buried := by
  cases state <;> decide

/-! ### Samples -/

/-- A binding of a Feishu account. -/
def sampleBinding : ChannelBinding :=
  { id := "binding"
    organizationId := "org"
    userId := "user"
    agentId := "agent"
    channel := .feishu
    displayName := "Feishu"
    status := .connected
    credentialEnvelope := some "envelope"
    credentialHint := none
    metadata := .obj []
    connectionGeneration := 1
    capabilities := ["receive", "send"]
    adapterVersion := none
    lastErrorCode := none
    lastSeenAt := none
    lastHealthAt := none
    lastInboundAt := none
    lastOutboundAt := none
    createdAt := 0
    updatedAt := 0 }

/-- A store with one binding and no message. -/
def sampleChannels : ChannelStore :=
  { bindings := [sampleBinding]
    inbox := []
    conversations := []
    outbox := []
    receipts := []
    deadLetters := []
    healthObservations := [] }

theorem sampleChannels_blank : sampleChannels.Blank :=
  ⟨rfl, rfl, rfl, rfl⟩

/-- A message on the channel of the sample binding. -/
def sampleIngress : IngressInput :=
  { id := some "message"
    bindingId := "binding"
    agentId := "agent"
    channel := .feishu
    channelAccountId := "account"
    externalMessageId := "om_1"
    sender := .obj []
    conversation :=
      { channelConversationId := "chat", kind := "direct", runtimeConversationId := none }
    content := .obj [("text", .str "hello")]
    attachments := none
    replyToMessageId := none
    trace := .obj []
    maxAttempts := none
    receivedAt := 0 }

end BairuiPlatform
