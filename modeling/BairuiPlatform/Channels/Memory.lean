/-
Module: BairuiPlatform.Channels.Memory
Purpose: The channel methods of MemoryPlatformRepository.
Trusted boundary: none
Main exports: Memory.upsertAgentChannelBinding, Memory.acceptChannelIngress,
  Memory.ensureChannelConversation, Memory.leaseChannelIngress,
  Memory.completeChannelIngress, Memory.failChannelIngress,
  Memory.leaseChannelDeliveries, Memory.recordChannelDeliveryReceipt,
  Memory.saveChannelHealthReport
-/
import BairuiPlatform.Channels.Rows

namespace BairuiPlatform.Memory

open Foundations

/-- What a method answers, and the store after it; a method that throws has not changed
the store yet. -/
abbrev Method (α : Type) := ChannelStore → Except ChannelError (α × ChannelStore)

/-! ### Bindings -/

/-- The binding that `upsertAgentChannelBinding` writes. -/
def bindingOf (env : ChannelEnv) (input : BindingInput) (existing : Option ChannelBinding) :
    ChannelBinding :=
  let now := isoNow env.now
  let renewed := (truthy input.credentialEnvelope).isSome
  { id := ((existing.map ChannelBinding.id).or input.id).getD (env.uuids 0)
    organizationId := input.organizationId
    userId := input.userId
    agentId := input.agentId
    channel := input.channel
    displayName := input.displayName
    status := input.status.getD .pending
    credentialEnvelope :=
      input.credentialEnvelope.or (existing.bind ChannelBinding.credentialEnvelope)
    credentialHint := input.credentialHint.or (existing.bind ChannelBinding.credentialHint)
    metadata := input.metadata.getD (.obj [])
    connectionGeneration :=
      (existing.map ChannelBinding.connectionGeneration).getD 0 + if renewed then 1 else 0
    capabilities :=
      if renewed then [] else (existing.map ChannelBinding.capabilities).getD []
    adapterVersion :=
      if renewed then none else existing.bind ChannelBinding.adapterVersion
    lastErrorCode := input.lastErrorCode
    lastSeenAt := existing.bind ChannelBinding.lastSeenAt
    lastHealthAt := if renewed then none else existing.bind ChannelBinding.lastHealthAt
    lastInboundAt := existing.bind ChannelBinding.lastInboundAt
    lastOutboundAt := existing.bind ChannelBinding.lastOutboundAt
    createdAt := (existing.map ChannelBinding.createdAt).getD now
    updatedAt := now }

/-- `upsertAgentChannelBinding`. -/
def upsertAgentChannelBinding (env : ChannelEnv) (input : BindingInput) :
    Method ChannelBinding := fun store =>
  let own (row : ChannelBinding) : Bool :=
    row.agentId = input.agentId && row.channel = input.channel
  let existing := store.bindings.find? own
  let value := bindingOf env input existing
  .ok (value,
    { store with
      bindings :=
        if existing.isSome then updateFirst own (fun _ => value) store.bindings
        else store.bindings ++ [value] })

/-! ### Inbound messages -/

/-- `acceptChannelIngress`. -/
def acceptChannelIngress (env : ChannelEnv) (input : IngressInput) :
    Method (Option IngressAnswer) := fun store =>
  let own := isBindingOf input.bindingId input.agentId input.channel
  match (store.bindings.find? own).filter (·.status.accepts) with
  | none => .ok (none, store)
  | some binding =>
      match store.inbox.find? (isMessageOf binding.id input.externalMessageId) with
      | some duplicate => .ok (some ⟨.duplicate, binding, duplicate⟩, store)
      | none =>
          let now := isoNow env.now
          let inbox := inboxRowOf (input.id.getD (env.uuids 0)) now (input.maxAttempts.getD 8)
            input binding
          let seen (row : ChannelBinding) : ChannelBinding :=
            { row with
              lastInboundAt := some input.receivedAt
              lastSeenAt := some input.receivedAt
              updatedAt := now }
          .ok (some ⟨.accepted, seen binding, inbox⟩,
            { store with
              inbox := store.inbox ++ [inbox]
              bindings := updateFirst own seen store.bindings })

/-- `ensureChannelConversation`. -/
def ensureChannelConversation (env : ChannelEnv) (input : ConversationInput) :
    Method ChannelConversation := fun store =>
  let now := isoNow env.now
  let own := isConversationOf input.bindingId input.channelConversationId
  let touch (row : ChannelConversation) : ChannelConversation :=
    { row with
      conversationKind := input.conversationKind
      lastMessageAt := input.lastMessageAt.getD now
      updatedAt := now }
  match store.conversations.find? own with
  | some existing =>
      .ok (touch existing,
        { store with conversations := updateFirst own touch store.conversations })
  | none =>
      let conversation : ChannelConversation :=
        { id := input.id.getD (env.uuids 0)
          organizationId := input.organizationId
          userId := input.userId
          agentId := input.agentId
          bindingId := input.bindingId
          channel := input.channel
          channelConversationId := input.channelConversationId
          conversationKind := input.conversationKind
          runtimeConversationId := input.runtimeConversationId.getD (env.uuids 1)
          lastMessageAt := input.lastMessageAt.getD now
          createdAt := now
          updatedAt := now }
      .ok (conversation, { store with conversations := store.conversations ++ [conversation] })

/-- The end of a lease of a call. -/
def leaseEnd (env : ChannelEnv) (leaseSeconds : Option Int) : Nat :=
  ofMillis (dateNow env.now + leaseSecondsOf leaseSeconds * 1000)

/-- The filter of `leaseChannelIngress`; `now` is `Date.now()`. -/
def inboxReady (now : Nat) (row : ChannelInboxRow) : Bool :=
  row.attempts < row.maxAttempts &&
    (([.pending, .retry].contains row.state && dateParse row.availableAt ≤ now) ||
      (row.state = .leased && row.leaseExpiresAt.any fun instant => dateParse instant < now))

/-- `leaseChannelIngress`. -/
def leaseChannelIngress (env : ChannelEnv) (input : IngressLease) :
    Method (List ChannelInboxRow) := fun store =>
  let leaseId := input.leaseId.getD (env.uuids 0)
  let positions := positionsOf (inboxReady (dateNow env.now))
    (fun first second => dateParse first.receivedAt ≤ dateParse second.receivedAt)
    (leaseLimitOf input.limit) store.inbox
  let inbox := updateAt positions
    (inboxLease leaseId (leaseEnd env input.leaseSeconds) (isoNow env.now)) store.inbox
  .ok (positions.filterMap (inbox[·]?), { store with inbox := inbox })

/-- The reply that `completeChannelIngress` adds to the outbox, if there is one to add. -/
def replyOf (env : ChannelEnv) (input : Option OutboundInput) (inbox : ChannelInboxRow)
    (store : ChannelStore) : Except ChannelError (Option ChannelOutboxRow) :=
  match input with
  | none => .ok none
  | some reply =>
      if store.outbox.any (isReplyTo inbox.id) then .ok none
      else
        match store.conversations.find?
            (isConversationOf inbox.bindingId inbox.conversation.channelConversationId) with
        | none => .error conversationScopeUnavailable
        | some conversation =>
            .ok (some (outboxRowOf (reply.id.getD (env.uuids 0)) (isoNow env.now)
              (reply.maxAttempts.getD 8) reply inbox conversation.runtimeConversationId))

/-- `completeChannelIngress`. -/
def completeChannelIngress (env : ChannelEnv) (input : IngressCompletion) :
    Method (Option CompletionAnswer) := fun store =>
  let own := inboxHeld input.id input.leaseToken
  match store.inbox.find? own with
  | none => .ok (none, store)
  | some inbox =>
      match replyOf env input.outbound inbox store with
      | .error error => .error error
      | .ok reply =>
          let outbox := store.outbox ++ reply.toList
          .ok
            (some
              { inbox := inboxComplete (isoNow env.now) inbox
                outbound := outbox.find? (isReplyTo inbox.id) },
              { store with
                outbox := outbox
                inbox := updateFirst own (inboxComplete (isoNow env.now)) store.inbox })

/-- `failChannelIngress`. -/
def failChannelIngress (env : ChannelEnv) (input : IngressFailure) :
    Method (Option ChannelInboxRow) := fun store =>
  let now := isoNow env.now
  let own := inboxHeld input.id input.leaseToken
  let fail := inboxFail (input.availableAt.getD now) now input.errorCode
  match store.inbox.find? own with
  | none => .ok (none, store)
  | some inbox =>
      .ok (some (fail inbox),
        { store with
          inbox := updateFirst own fail store.inbox
          deadLetters :=
            if inbox.maxAttempts ≤ inbox.attempts then
              bury (inboundLetter (env.uuids 0) now input.errorCode inbox) store.deadLetters
            else store.deadLetters })

/-! ### Outbound messages -/

/-- The filter of `leaseChannelDeliveries`; `now` is `Date.now()`. -/
def outboxReady (now : Nat) (input : DeliveryLease) (row : ChannelOutboxRow) : Bool :=
  (truthy input.agentId).all (· = row.agentId) &&
    (truthy input.organizationId).all (· = row.organizationId) &&
    input.channels.contains row.channel &&
    ((input.bindingIds.getD []).isEmpty || (input.bindingIds.getD []).contains row.bindingId) &&
    row.attempts < row.maxAttempts &&
    (([.pending, .retry].contains row.state && dateParse row.availableAt ≤ now) ||
      (row.state = .leased && row.leaseExpiresAt.any fun instant => dateParse instant < now))

/-- `leaseChannelDeliveries`. -/
def leaseChannelDeliveries (env : ChannelEnv) (input : DeliveryLease) :
    Method DeliveriesAnswer := fun store =>
  let leaseId := input.leaseId.getD (env.uuids 0)
  let positions := positionsOf (outboxReady (dateNow env.now) input)
    (fun first second => dateParse first.availableAt ≤ dateParse second.availableAt)
    (leaseLimitOf input.limit) store.outbox
  let outbox := updateAt positions
    (outboxLease input.workerId leaseId (leaseEnd env input.leaseSeconds) (isoNow env.now))
    store.outbox
  .ok (⟨leaseId, positions.filterMap (outbox[·]?)⟩, { store with outbox := outbox })

/-- The outbound message that a receipt is about. -/
def outboxHeld (input : ChannelReceiptInput) (row : ChannelOutboxRow) : Bool :=
  row.id = input.outboundId && row.bindingId = input.bindingId && row.agentId = input.agentId &&
    (truthy input.workerId).all (fun workerId => row.workerId = some workerId) &&
    row.state = .leased && row.leaseToken = some input.leaseToken && row.attempts = input.attempt

/-- `recordChannelDeliveryReceipt`. -/
def recordChannelDeliveryReceipt (env : ChannelEnv) (input : ChannelReceiptInput) :
    Method (Option ChannelReceiptAnswer) := fun store =>
  match store.receipts.find? (isReceiptOf input.outboundId input.attempt) with
  | some previous =>
      if contradicts input previous then .error receiptConflict
      else
        .ok (some ⟨previous, store.outbox.find? fun row => row.id = input.outboundId⟩, store)
  | none =>
      match store.outbox.find? (outboxHeld input) with
      | none => .ok (none, store)
      | some outbound =>
          let now := isoNow env.now
          let state := nextState input.status outbound
          let receipt := receiptOf (input.receiptId.getD (env.uuids 0)) input outbound
          .ok (some ⟨receipt, some (outboxSettle env now input outbound)⟩,
            { store with
              receipts := store.receipts ++ [receipt]
              outbox := updateFirst (outboxHeld input) (outboxSettle env now input) store.outbox
              deadLetters :=
                if [.dead, .failed].contains state then
                  bury (outboundLetter (env.uuids 1) now input.errorCode outbound)
                    store.deadLetters
                else store.deadLetters
              bindings :=
                if state = .delivered then
                  updateFirst (fun row => row.id = outbound.bindingId)
                    (fun row =>
                      { row with
                        lastOutboundAt := some input.observedAt
                        lastSeenAt := some input.observedAt
                        updatedAt := now })
                    store.bindings
                else store.bindings })

/-! ### Health -/

/-- The report is not older than the health of the binding. -/
def isCurrent (input : HealthReport) (binding : ChannelBinding) : Bool :=
  binding.lastHealthAt.all fun instant => dateParse instant ≤ dateParse input.observedAt

/-- The binding after a health report. -/
def afterReport (env : ChannelEnv) (input : HealthReport) (binding : ChannelBinding) :
    ChannelBinding :=
  if isCurrent input binding then
    withHealth (isoNow env.now) input
      (if input.status = .connected then some input.observedAt else binding.lastSeenAt)
      (input.lastInboundAt.or binding.lastInboundAt)
      (input.lastOutboundAt.or binding.lastOutboundAt) binding
  else binding

/-- `saveChannelHealthReport`. -/
def saveChannelHealthReport (env : ChannelEnv) (input : HealthReport) :
    Method (Option HealthAnswer) := fun store =>
  let own := isBindingOf input.bindingId input.agentId input.channel
  match store.bindings.find? own with
  | none => .ok (none, store)
  | some binding =>
      let stored := store.healthObservations.find?
        (isObservationOf binding.id input.workerId input.sequence)
      let observation := stored.getD
        (observationOf (input.id.getD (env.uuids 0)) (isoNow env.now) input binding)
      .ok (some ⟨observation, afterReport env input binding⟩,
        { store with
          healthObservations :=
            if stored.isSome then store.healthObservations
            else store.healthObservations ++ [observation]
          bindings := updateFirst own (afterReport env input) store.bindings })

end BairuiPlatform.Memory
