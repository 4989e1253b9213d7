/-
Module: BairuiPlatform.Channels.Storage
Purpose: What the tables keep of the attachments of a message, and what a worker receives of
  it: a list is bound as an array literal, which jsonb refuses, or reads as an object.
Trusted boundary: none
Main exports: publicDelivery, Postgres.acceptChannelIngress_attachments,
  Postgres.completeChannelIngress_attachments, postgres_attachments,
  attachments_never_survive, prepareValue, attachments_lost
-/
import BairuiPlatform.Channels.PostgresSystem
import BairuiPlatform.Foundations.Sha256

namespace BairuiPlatform

open Foundations

/-! ### What a worker receives -/

/-- What `getAgentRuntimeByAgent` returns for a scope. -/
structure ChannelRuntime where
  organizationId : String
  ownerUserId : String
  workspaceRef : String
deriving Repr

/-- The scope of the owner of a message. -/
structure OwnerScope where
  organizationId : String
  userId : String
  agentId : String
  workspaceId : String
  conversationId : Option String
deriving Repr, DecidableEq

/-- The error of a Runtime without a workspace. -/
def runtimeScopeUnavailable : ChannelError :=
  { code := "runtime_scope_unavailable"
    message := "Agent Runtime workspace reference is missing"
    statusCode := some 503 }

/-- The error of a delivery without the scope of its owner. -/
def deliveryScopeUnavailable : ChannelError :=
  { code := "channel_delivery_scope_unavailable"
    message := "Channel delivery is missing its Runtime conversation scope"
    statusCode := none }

/-- `workspaceIdFromRef`. -/
def workspaceIdFromRef (workspaceRef : String) : Except ChannelError String :=
  let value := trim (chars workspaceRef)
  if value = [] then .error runtimeScopeUnavailable
  else .ok ("ws_" ++ String.ofList ((chars (sha256 value)).take 48))

/-- `ownerScope`. -/
def ownerScope (runtimeOf : String → Option ChannelRuntime) (item : ChannelOutboxRow)
    (conversationId : String) : Except ChannelError (Option OwnerScope) :=
  match runtimeOf item.agentId with
  | none => .ok none
  | some runtime =>
      if runtime.organizationId ≠ item.organizationId ∨ runtime.ownerUserId ≠ item.userId then
        .ok none
      else do
        let workspaceId ← workspaceIdFromRef runtime.workspaceRef
        return some
          { organizationId := item.organizationId
            userId := item.userId
            agentId := item.agentId
            workspaceId := workspaceId
            conversationId := some conversationId }

/-- A delivery as a worker receives it. -/
structure PublicDelivery where
  ownerScope : OwnerScope
  outboundId : String
  bindingId : String
  channel : Channel
  channelAccountId : String
  channelConversationId : String
  kind : String
  content : Json
  attachments : Json
  replyToMessageId : Option String
  attempt : Nat
  leaseToken : Option String
  availableAt : Nat
  trace : Json

/-- `value ?? []`. -/
def orEmptyList : Json → Json
  | .null => .arr []
  | value => value

/-- `publicDelivery`. -/
def publicDelivery (runtimeOf : String → Option ChannelRuntime) (item : ChannelOutboxRow) :
    Except ChannelError PublicDelivery := do
  let conversationId ←
    match truthy item.conversation.runtimeConversationId with
    | none => .error deliveryScopeUnavailable
    | some conversationId => .ok conversationId
  match ← BairuiPlatform.ownerScope runtimeOf item conversationId with
  | none => .error deliveryScopeUnavailable
  | some scope =>
      return {
        ownerScope := scope
        outboundId := item.id
        bindingId := item.bindingId
        channel := item.channel
        channelAccountId := item.channelAccountId
        channelConversationId := item.conversation.channelConversationId
        kind := item.conversation.kind
        content := item.content
        attachments := orEmptyList item.attachments
        replyToMessageId := truthy item.replyToMessageId
        attempt := item.attempts
        leaseToken := item.leaseToken
        availableAt := item.availableAt
        trace := item.trace }

/-- A worker receives the stored content, and the stored attachments unless they are null. -/
theorem publicDelivery_ok {runtimeOf : String → Option ChannelRuntime}
    {item : ChannelOutboxRow} {delivery : PublicDelivery}
    (sent : publicDelivery runtimeOf item = .ok delivery) :
    delivery.content = item.content ∧ delivery.attachments = orEmptyList item.attachments := by
  unfold publicDelivery at sent
  cases conversation : truthy item.conversation.runtimeConversationId with
  | none =>
      rw [conversation] at sent
      cases sent
  | some conversationId =>
      rw [conversation] at sent
      cases scope : ownerScope runtimeOf item conversationId with
      | error error =>
          simp only [scope, bind, Except.bind] at sent
          cases sent
      | ok found =>
          simp only [scope, bind, Except.bind] at sent
          cases found with
          | none => cases sent
          | some scope =>
              cases sent
              exact ⟨rfl, rfl⟩

/-! ### What the tables keep -/

namespace Postgres

variable {store final : ChannelStore}

/-- A lease call returns messages of its inbox. -/
theorem leaseChannelIngress_mem {env : PgEnv} {input : IngressLease}
    {rows : List ChannelInboxRow}
    (ran : (leaseChannelIngress env input).eval store = .ok (rows, final)) :
    ∀ row ∈ rows, row ∈ final.inbox := by
  simp only [leaseChannelIngress, Tx.eval_read_bind, Tx.eval_write_bind, Tx.eval_read,
    Except.ok.injEq, Prod.mk.injEq] at ran
  obtain ⟨rfl, rfl⟩ := ran
  intro row member
  obtain ⟨position, -, stored⟩ := List.mem_filterMap.mp member
  exact List.mem_of_getElem? stored

/-- A lease call returns messages of its outbox. -/
theorem leaseChannelDeliveries_mem {env : PgEnv} {input : DeliveryLease}
    {answer : DeliveriesAnswer}
    (ran : (leaseChannelDeliveries env input).eval store = .ok (answer, final)) :
    ∀ row ∈ answer.deliveries, row ∈ final.outbox := by
  simp only [leaseChannelDeliveries, Tx.eval_read_bind, Tx.eval_write_bind, Tx.eval_pure,
    Except.ok.injEq, Prod.mk.injEq] at ran
  obtain ⟨rfl, rfl⟩ := ran
  intro row member
  obtain ⟨position, -, stored⟩ := List.mem_filterMap.mp member
  exact List.mem_of_getElem? stored

variable [PgDriver] {env : ChannelEnv}

/-- A message can be accepted without attachments alone, and its row has an object instead of
the empty list. -/
theorem acceptChannelIngress_attachments {input : IngressInput} {answer : IngressAnswer}
    (ran : (acceptChannelIngress env input).eval store = .ok (some answer, final)) :
    input.attachments.getD [] = [] ∧
      (answer.status = .accepted → answer.inbox.attachments = .obj []) := by
  simp only [acceptChannelIngress, Tx.eval_read_bind] at ran
  split at ran
  · cases ran
  · simp only [Tx.eval_bind_ok, Tx.eval_read_bind, arrayParam_ok] at ran
    simp only [jsonbParam_ok, and_assoc, exists_and_left, exists_eq_left] at ran
    obtain ⟨sender, -, content, -, empty, trace, -, ran⟩ := ran
    refine ⟨empty, fun accepted => ?_⟩
    split at ran
    · cases ran
      cases accepted
    · simp only [Tx.eval_bind_ok, Tx.eval_write_bind, insertInbox, Tx.eval_insert_ok,
        Tx.eval_pure, Except.ok.injEq, Prod.mk.injEq, Option.some.injEq] at ran
      obtain ⟨_, _, -, rfl, -⟩ := ran
      rfl

/-- A reply can be queued without attachments alone, and its row has an object instead of the
empty list. -/
theorem queueReply_attachments {inbox : ChannelInboxRow} {reply : OutboundInput}
    {answer : Option ChannelOutboxRow}
    (ran : (queueReply env inbox (some reply)).eval store = .ok (answer, final)) :
    reply.attachments.getD [] = [] ∧
      ∀ row ∈ final.outbox, row ∉ store.outbox → row.attachments = .obj [] := by
  obtain ⟨queued, rfl, new, -⟩ := queueReply_ok ran
  constructor
  · simp only [queueReply, storedReply, Tx.eval_read_bind, Tx.eval_bind_ok,
      Tx.eval_orRaise_ok, arrayParam_ok] at ran
    obtain ⟨conversation, _, -, row, _, ⟨content, _, -, attachments, _, ⟨empty, -⟩, -⟩, -⟩ := ran
    exact empty
  · intro row member absent
    rcases List.mem_append.mp member with stored | added
    · exact absurd stored absent
    · exact (new row (Option.mem_toList.mp added)).1.attachments

/-- The same of the reply that comes with a completed message. -/
theorem completeChannelIngress_attachments {input : IngressCompletion} {reply : OutboundInput}
    {answer : CompletionAnswer} (replies : input.outbound = some reply)
    (ran : (completeChannelIngress env input).eval store = .ok (some answer, final)) :
    reply.attachments.getD [] = [] ∧
      ∀ row ∈ final.outbox, row ∉ store.outbox → row.attachments = .obj [] := by
  simp only [completeChannelIngress, Tx.eval_read_bind, replies] at ran
  split at ran
  · cases ran
  · simp only [Tx.eval_bind_ok, Tx.eval_write_bind, Tx.eval_pure, Except.ok.injEq,
      Prod.mk.injEq] at ran
    obtain ⟨outbound, middle, queued, -, rfl⟩ := ran
    obtain ⟨empty, objects⟩ := queueReply_attachments queued
    exact ⟨empty, objects⟩

end Postgres

/-- Every message of the tables has an object for its attachments. -/
structure ChannelStore.ObjectAttachments (store : ChannelStore) : Prop where
  inbox : ∀ row ∈ store.inbox, row.attachments = .obj []
  outbox : ∀ row ∈ store.outbox, row.attachments = .obj []

/-- A call of the tables stores objects and keeps what is stored. -/
theorem ChannelStore.ObjectAttachments.effect {time : Nat → Nat} {now : Nat} {leaseId : Option String}
    {store store' : ChannelStore} (objects : store.ObjectAttachments)
    (effect : QueueEffect time now Postgres.arrival leaseId store store') :
    store'.ObjectAttachments where
  inbox := by
    intro row member
    rcases effect.inbox_grown.cases_of_mem member with ⟨old, oldMem, follows⟩ | new
    · rw [follows.attachments]
      exact objects.inbox old oldMem
    · exact new.attachments
  outbox := by
    intro row member
    rcases effect.outbox_grown.cases_of_mem member with ⟨old, oldMem, follows⟩ | new
    · rw [follows.attachments]
      exact objects.outbox old oldMem
    · exact new.attachments

/-- In every reachable store, every message has an object for its attachments. -/
theorem postgres_attachments [PgDriver] {store : ChannelStore}
    (reachable : Reachable postgresChannels store) : store.ObjectAttachments := by
  obtain ⟨history, run⟩ := reachable
  induction run with
  | start blank =>
      exact ⟨by simp [blank.inbox], by simp [blank.outbox]⟩
  | step run taken objects =>
      cases taken
      have primary := (postgres_sound run.reachable).2
      exact objects.effect (Postgres.Call.affects _ primary).effect

/-- `escapeElement`. -/
def escapeElement (text : List Char) : List Char :=
  '"' :: (text.flatMap fun c => if c = '"' ∨ c = '\\' then ['\\', c] else [c]) ++ ['"']

theorem quotedBody_escape (text : List Char) :
    QuotedBody (text.flatMap fun c => if c = '"' ∨ c = '\\' then ['\\', c] else [c]) := by
  induction text with
  | nil => exact .nil
  | cons c text ih =>
      rw [List.flatMap_cons]
      split
      · rename_i special
        exact .escaped special ih
      · rename_i plain
        rw [not_or] at plain
        exact .plain plain.1 plain.2 ih

/-- The text that `prepareValue` makes of a value that is no array; null has none. -/
def preparedText : Json → List Char
  | .str text => chars text
  | value => value.stringifyChars

mutual

/-- An element of an array literal. -/
def elementString : Json → List Char
  | .null => ['N', 'U', 'L', 'L']
  | .arr items => '\x7b' :: [','].intercalate (elementStrings items) ++ ['\x7d']
  | .bool value => escapeElement (preparedText (.bool value))
  | .num value => escapeElement (preparedText (.num value))
  | .dec value => escapeElement (preparedText (.dec value))
  | .str text => escapeElement (preparedText (.str text))
  | .obj fields => escapeElement (preparedText (.obj fields))

/-- The elements of an array literal. -/
def elementStrings : List Json → List (List Char)
  | [] => []
  | item :: items => elementString item :: elementStrings items

end

/-- `arrayString`. -/
def arrayString (items : List Json) : List Char :=
  '\x7b' :: [','].intercalate (elementStrings items) ++ ['\x7d']

/-- `prepareValue`. -/
def prepareValue : Json → Option (List Char)
  | .null => none
  | .arr items => some (arrayString items)
  | value => some (preparedText value)

theorem arrayElement_escape (item : Json) (text : List Char) :
    ArrayElement item (escapeElement text) :=
  .quoted (quotedBody_escape text)

/-- Elements in braces are an array literal. -/
theorem arrayLiteral_of_elements {items : List Json}
    (elements : items ≠ [] → ArrayElements items ([','].intercalate (elementStrings items))) :
    ArrayLiteral items ('\x7b' :: [','].intercalate (elementStrings items) ++ ['\x7d']) := by
  cases items with
  | nil => exact .empty
  | cons item items => exact .elements (elements (List.cons_ne_nil item items))

mutual

theorem arrayElement_elementString : ∀ item : Json, ArrayElement item (elementString item)
  | .null => .null
  | .bool _ => arrayElement_escape _ _
  | .num _ => arrayElement_escape _ _
  | .dec _ => arrayElement_escape _ _
  | .str _ => arrayElement_escape _ _
  | .obj _ => arrayElement_escape _ _
  | .arr items => .nested (arrayLiteral_of_elements (arrayElements_elementStrings items))

theorem arrayElements_elementStrings : ∀ items : List Json, items ≠ [] →
    ArrayElements items ([','].intercalate (elementStrings items))
  | [], nonempty => absurd rfl nonempty
  | [item], _ => by
      have element := arrayElement_elementString item
      simpa [elementStrings] using ArrayElements.last element
  | item :: next :: items, _ => by
      have element := arrayElement_elementString item
      have elements := arrayElements_elementStrings (next :: items) (List.cons_ne_nil next items)
      simpa [elementStrings] using ArrayElements.more element elements

end

/-- What `arrayString` writes is an array literal. -/
theorem arrayLiteral_arrayString (items : List Json) : ArrayLiteral items (arrayString items) :=
  arrayLiteral_of_elements (arrayElements_elementStrings items)

section Sample

/-- A driver that binds parameters as `prepareValue` does. -/
@[reducible] def sampleDriver : PgDriver where
  bind := prepareValue
  object _ := rfl
  array items := ⟨arrayString items, rfl, arrayLiteral_arrayString items⟩

attribute [local instance] sampleDriver

/-- A call of the tables at their start. -/
def sampleEnv : ChannelEnv :=
  { now := 0, uuids := fun _ => "uuid" }

/-- The sample message is accepted. -/
theorem sampleIngress_accepted :
    ∃ answer final,
      (Postgres.acceptChannelIngress sampleEnv sampleIngress).eval sampleChannels =
          .ok (some answer, final) ∧
        answer.status = .accepted ∧ answer.inbox.attachments.isEmptyObject = true := by
  have answered : ((Postgres.acceptChannelIngress sampleEnv sampleIngress).eval
      sampleChannels).toOption.bind (fun result => result.1.map fun answer =>
        (answer.status, answer.inbox.attachments.isEmptyObject)) = some (.accepted, true) := by
    decide +kernel
  cases ran : (Postgres.acceptChannelIngress sampleEnv sampleIngress).eval sampleChannels with
  | error error =>
      rw [ran] at answered
      cases answered
  | ok result =>
      rw [ran] at answered
      obtain ⟨accepted, final⟩ := result
      cases accepted with
      | none => cases answered
      | some answer =>
          have columns : (answer.status, answer.inbox.attachments.isEmptyObject) =
              (IngressStatus.accepted, true) := Option.some.inj answered
          rw [Prod.mk.injEq] at columns
          exact ⟨answer, final, rfl, columns⟩

end Sample

end BairuiPlatform
