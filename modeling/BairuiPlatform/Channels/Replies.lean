/-
Module: BairuiPlatform.Channels.Replies
Purpose: The identifiers that the adapters of QQ, Feishu and WeChat submit, and whether a reply that
  carries them goes to the conversation and the message that it answers.
Trusted boundary: the vendors write identifiers as texts, and WeChat its times as seconds
Main exports: stableIdentifier, VendorMessage, QQ.normalizeEvent, QQ.deliveryTarget, Submission,
  ChannelAdapter, ChannelAdapter.deliver, reply_answers_iff
-/
import BairuiPlatform.Foundations.Sha256
import BairuiPlatform.JsReader

namespace BairuiPlatform

open Foundations

/-! ### Identifiers -/

/-- A letter or a digit of ASCII. -/
def isAlphanumericUnit (unit : Nat) : Bool :=
  65 ≤ unit && unit ≤ 90 || 97 ≤ unit && unit ≤ 122 || 48 ≤ unit && unit ≤ 57

/-- `IDENTIFIER.test(text)`. -/
def isChannelIdentifier : JsText → Bool
  | first :: rest =>
      isAlphanumericUnit first && rest.length ≤ 255 &&
        rest.all fun unit => isAlphanumericUnit unit || (utf16 "._:/-").contains unit
  | [] => false

/-- `createHash("sha256").update(text).digest("hex")`. -/
def textDigest (text : JsText) : JsText :=
  (sha256 text.characters).toList.map Char.toNat

/-- `stableIdentifier`. -/
def stableIdentifier (kind : String) (value : JsText) : JsText :=
  if isChannelIdentifier value then value else utf16 kind ++ 58 :: textDigest value

/-! ### Messages of the vendors -/

/-- The kinds of conversations of QQ. -/
inductive QQTargetType where
  | c2c | group | channel | dm
deriving Repr, DecidableEq

/-- The name of a kind. -/
def QQTargetType.name : QQTargetType → String
  | c2c => "c2c"
  | group => "group"
  | channel => "channel"
  | dm => "dm"

/-- The conversation that a vendor knows. -/
inductive VendorTarget where
  | qq (type : QQTargetType) (id : JsText)
  | feishu (chatId : JsText)
  | wechat (openId : JsText)
deriving Repr, DecidableEq

/-- The conversation as a text of the adapter. -/
def VendorTarget.text : VendorTarget → JsText
  | qq type id => utf16 type.name ++ 58 :: id
  | feishu chatId => chatId
  | wechat openId => openId

/-- The kinds of conversations of the platform. -/
inductive ConversationKind where
  | direct
  | group
deriving Repr, DecidableEq

/-- What an adapter reads of an event. -/
structure VendorMessage where
  target : VendorTarget
  messageId : JsText
  sender : JsText
  identity : Option JsText := none
  kind : ConversationKind
  content : JsText
deriving Repr, DecidableEq

/-- A text that is given and not empty. -/
def given (value : Option JsText) : Option JsText :=
  value.filter (· ≠ [])

/-! ### QQ -/

namespace QQ

/-- `MESSAGE_EVENTS`. -/
inductive EventType where
  | c2cMessageCreate | groupAtMessageCreate | groupMessageCreate | atMessageCreate
  | directMessageCreate
deriving Repr, DecidableEq

/-- The event of a message. -/
structure Event where
  id : Option JsText := none
  content : Option JsText := none
  authorUserOpenid : Option JsText := none
  authorMemberOpenid : Option JsText := none
  authorId : Option JsText := none
  groupOpenid : Option JsText := none
  guildId : Option JsText := none
  channelId : Option JsText := none

/-- The length of a mention at the beginning of a text: `<@!?[^>]+>`, where an exclamation mark
alone is a name. -/
def mentionLength : JsText → Option Nat
  | 60 :: 64 :: rest =>
      let name := rest.takeWhile (· ≠ 62)
      if name ≠ [] ∧ name.length < rest.length then some (name.length + 3) else none
  | _ => none

/-- `text.replace(/<@!?[^>]+>/g, "")`. The count is the number of units that still belong to the
last mention. -/
def dropMentions : Nat → JsText → JsText
  | _, [] => []
  | pending + 1, _ :: rest => dropMentions pending rest
  | 0, unit :: rest =>
      match mentionLength (unit :: rest) with
      | some length => dropMentions (length - 1) rest
      | none => unit :: dropMentions 0 rest

/-- `normalizeEvent`. -/
def normalizeEvent (type : EventType) (event : Event) : Option VendorMessage := do
  let content := (dropMentions 0 (event.content.getD [])).trim
  let messageId ← given event.id
  let content ← given (some content)
  match type with
  | .c2cMessageCreate =>
      let sender ← given (event.authorUserOpenid.or event.authorId)
      return { target := .qq .c2c sender, messageId, sender, kind := .direct, content }
  | .groupAtMessageCreate | .groupMessageCreate =>
      let sender ← given (event.authorMemberOpenid.or event.authorId)
      let group ← given event.groupOpenid
      return { target := .qq .group group, messageId, sender, kind := .group, content }
  | .directMessageCreate =>
      let sender ← given event.authorId
      let guild ← given event.guildId
      return { target := .qq .dm guild, messageId, sender, kind := .direct, content }
  | .atMessageCreate =>
      let sender ← given event.authorId
      let channel ← given event.channelId
      return { target := .qq .channel channel, messageId, sender, kind := .group, content }

/-- What `.` matches in a pattern. -/
def isInLine (unit : Nat) : Bool :=
  unit ≠ 10 && unit ≠ 13 && unit ≠ 0x2028 && unit ≠ 0x2029

/-- The rest of a text behind the name of a kind and a colon, if `.+$` matches it. -/
def targetOf (value : JsText) (type : QQTargetType) : Option VendorTarget :=
  let start := utf16 type.name ++ [58]
  let id := value.drop start.length
  if start.isPrefixOf value ∧ id ≠ [] ∧ id.all isInLine then some (.qq type id) else none

/-- `deliveryTarget`. -/
def deliveryTarget (value : JsText) : Except String VendorTarget :=
  match [QQTargetType.c2c, .group, .channel, .dm].findSome? (targetOf value) with
  | some target => .ok target
  | none => .error "invalid_qq_target"

end QQ

/-! ### Feishu -/

namespace Feishu

/-- The event of a message. -/
structure Event where
  messageId : Option JsText := none
  chatId : Option JsText := none
  chatType : Option JsText := none
  messageType : Option JsText := none
  content : Option JsText := none
  openId : Option JsText := none
  userId : Option JsText := none
  unionId : Option JsText := none

/-- `messageText`. -/
def messageText [NumberReader] (event : Event) : JsText :=
  if (given event.messageType).any (· ≠ utf16 "text") then []
  else
    match JsData.parse (event.content.getD [123, 125]) with
    | none => []
    | some content =>
        match JsData.orElse (content.member "text") (some (.str [])) with
        | none => []
        | some value => (value.text.getD []).trim

/-- What `inbound` reads of an event. -/
def read [NumberReader] (event : Event) : Option VendorMessage := do
  let messageId ← given event.messageId
  let sender ← given (event.openId.or event.userId)
  let chatId ← given event.chatId
  let content ← given (some (messageText event))
  return { target := .feishu chatId, messageId, sender, identity := given event.unionId
           kind := if event.chatType = some (utf16 "p2p") then .direct else .group, content }

end Feishu

/-! ### WeChat -/

namespace Wechat

/-- The fields of a message that `parseWechatMessage` read, with the time in seconds. -/
structure Event where
  fromUserName : JsText := []
  createTime : Option Nat := none
  msgType : JsText := []
  content : JsText := []
  msgId : JsText := []
  event : JsText := []

/-- The identifier of a message, or a digest of what tells it from others. -/
def sourceId (event : Event) : JsText :=
  if event.msgId ≠ [] then event.msgId
  else
    textDigest (event.fromUserName ++ 10 ::
      (utf16 (toString (event.createTime.getD 0)) ++ 10 :: (event.msgType ++ 10 ::
        (event.content ++ 10 :: event.event))))

/-- The text of a message that is submitted. -/
def textOf (event : Event) : JsText :=
  if event.msgType = utf16 "text" ∧ event.content ≠ [] then event.content
  else
    91 :: ((if event.msgType = [] then utf16 "unknown" else event.msgType) ++ 58 ::
      ((if event.event = [] then utf16 "message" else event.event) ++ [93]))

/-- What `handle` reads of a message. A time that no `Date` holds throws before the submission. -/
def read (event : Event) : Option VendorMessage := do
  let sender ← given (some event.fromUserName)
  let createTime ← event.createTime
  if createTime = 0 ∨ 8640000000000 < createTime then none
  else
    return { target := .wechat sender, messageId := sourceId event, sender, kind := .direct
             content := textOf event }

end Wechat

/-! ### Submissions and deliveries -/

/-- The identifiers and the text that an adapter submits. -/
structure Submission where
  ingressId : JsText
  channelAccountId : JsText
  messageId : JsText
  channelUserId : JsText
  identityId : Option JsText
  conversationId : JsText
  kind : ConversationKind
  content : JsText
  correlationId : JsText

/-- The channels that have an adapter. -/
inductive AdapterChannel where
  | qq | feishu | wechat
deriving Repr, DecidableEq

/-- The name of a channel. -/
def AdapterChannel.name : AdapterChannel → String
  | qq => "qq"
  | feishu => "feishu"
  | wechat => "wechat"

/-- The name of a conversation in the identifiers of a channel. -/
def AdapterChannel.conversationName : AdapterChannel → String
  | qq => "qq-conversation"
  | feishu => "feishu-chat"
  | wechat => "wechat-conversation"

/-- What an adapter is made with. -/
structure ChannelAdapter where
  channel : AdapterChannel
  bindingId : JsText
  appId : JsText

/-- An event of a vendor. -/
inductive VendorEvent where
  | qq (type : QQ.EventType) (event : QQ.Event)
  | feishu (event : Feishu.Event)
  | wechat (event : Wechat.Event)

/-- The channel of an event. -/
def VendorEvent.channel : VendorEvent → AdapterChannel
  | qq _ _ => .qq
  | feishu _ => .feishu
  | wechat _ => .wechat

/-- What the adapter of its channel reads of an event. -/
def VendorEvent.read [NumberReader] : VendorEvent → Option VendorMessage
  | qq type event => QQ.normalizeEvent type event
  | feishu event => Feishu.read event
  | wechat event => Wechat.read event

/-- A message that is delivered: the identifiers of a conversation and of the message that it
answers. -/
structure OutboundReply where
  conversationId : JsText
  replyToMessageId : Option JsText
  text : JsText

/-- What a vendor is asked to send. -/
structure VendorRequest where
  target : VendorTarget
  replyTo : Option JsText
  text : JsText
deriving Repr, DecidableEq

namespace ChannelAdapter

/-- The submission of a message. -/
def submission (adapter : ChannelAdapter) (message : VendorMessage) : Submission :=
  let name := adapter.channel.name
  { ingressId := stableIdentifier (name ++ "-ingress")
      (utf16 name ++ 58 :: (adapter.bindingId ++ 58 :: message.messageId))
    channelAccountId := stableIdentifier (name ++ "-account") adapter.appId
    messageId := stableIdentifier (name ++ "-message") message.messageId
    channelUserId := stableIdentifier (name ++ "-user") message.sender
    identityId := message.identity.map (stableIdentifier (name ++ "-union"))
    conversationId := stableIdentifier adapter.channel.conversationName message.target.text
    kind := message.kind
    content := message.content
    correlationId := stableIdentifier (name ++ "-trace") message.messageId }

/-- `inbound`, and what `handle` of WeChat submits. -/
def inbound [NumberReader] (adapter : ChannelAdapter) (event : VendorEvent) :
    Option Submission :=
  event.read.map adapter.submission

/-- `deliver`, up to the request to the vendor. Only QQ is asked to answer a message. -/
def deliver (adapter : ChannelAdapter) (delivery : OutboundReply) :
    Except String VendorRequest := do
  match adapter.channel with
  | .qq =>
      let target ← QQ.deliveryTarget delivery.conversationId
      return { target, replyTo := given delivery.replyToMessageId, text := delivery.text }
  | .feishu =>
      return { target := .feishu delivery.conversationId, replyTo := none, text := delivery.text }
  | .wechat =>
      return { target := .wechat delivery.conversationId, replyTo := none, text := delivery.text }

end ChannelAdapter

/-- A message that answers a submission. -/
def Submission.reply (submission : Submission) (text : JsText) : OutboundReply :=
  { conversationId := submission.conversationId
    replyToMessageId := some submission.messageId, text := text }

/-- A request goes to the conversation of a message, and answers no other message. -/
structure VendorRequest.Answers (request : VendorRequest) (message : VendorMessage) : Prop where
  target : request.target = message.target
  replyTo : ∀ id ∈ request.replyTo, id = message.messageId

/-- The identifiers of a message that a reply needs are submitted as they are. -/
structure VendorMessage.IsAddressable (message : VendorMessage) (channel : AdapterChannel) :
    Prop where
  conversation : isChannelIdentifier message.target.text = true
  messageId : channel = .qq → isChannelIdentifier message.messageId = true

/-! ### Digests -/

theorem isAlphanumericUnit_of_hex {unit : Nat} (digit : unit ∈ "0123456789abcdef".toList.map Char.toNat) :
    isAlphanumericUnit unit = true := by
  have all : ∀ unit ∈ "0123456789abcdef".toList.map Char.toNat, isAlphanumericUnit unit = true := by
    decide
  exact all unit digit

theorem mem_textDigest {text : JsText} {unit : Nat} (member : unit ∈ textDigest text) :
    isAlphanumericUnit unit = true := by
  obtain ⟨c, digit, rfl⟩ := List.mem_map.mp member
  exact isAlphanumericUnit_of_hex (List.mem_map_of_mem (mem_sha256Bytes digit))

theorem length_textDigest (text : JsText) : (textDigest text).length = 64 := by
  rw [textDigest, List.length_map]
  exact length_sha256Bytes _

/-- A digest behind a short name is an identifier. -/
theorem isChannelIdentifier_digest {kind : String}
    (named : isChannelIdentifier (utf16 kind) = true) (short : (utf16 kind).length ≤ 191)
    (value : JsText) : isChannelIdentifier (utf16 kind ++ 58 :: textDigest value) = true := by
  cases letters : utf16 kind with
  | nil =>
      rw [letters] at named
      cases named
  | cons first rest =>
      rw [letters] at named short
      have length := length_textDigest value
      simp only [isChannelIdentifier, Bool.and_eq_true, decide_eq_true_eq, List.all_eq_true]
        at named
      simp only [List.cons_append, isChannelIdentifier, Bool.and_eq_true, decide_eq_true_eq,
        List.all_eq_true, List.length_append, List.length_cons]
      rw [List.length_cons] at short
      refine ⟨⟨named.1.1, by omega⟩, fun unit member => ?_⟩
      rcases List.mem_append.mp member with inside | digits
      · exact named.2 unit inside
      · rcases List.mem_cons.mp digits with rfl | digit
        · decide
        · rw [mem_textDigest digit]
          rfl

/-- An identifier is submitted as it is, and no other text is. -/
theorem stableIdentifier_eq_self_iff {kind : String}
    (named : isChannelIdentifier (utf16 kind) = true) (short : (utf16 kind).length ≤ 191)
    (value : JsText) : stableIdentifier kind value = value ↔ isChannelIdentifier value = true := by
  unfold stableIdentifier
  constructor
  · intro same
    by_contra other
    rw [if_neg other] at same
    have digest := isChannelIdentifier_digest named short value
    rw [same] at digest
    exact other digest
  · exact fun identifier => if_pos identifier

/-! ### What is read -/

theorem mem_given {value : Option JsText} {text : JsText} (found : given value = some text) :
    text ≠ [] := by
  unfold given at found
  rw [Option.filter_eq_some_iff] at found
  simpa using found.2

/-- The conversation of a message belongs to the channel of its event. -/
def VendorTarget.IsOf (target : VendorTarget) : AdapterChannel → Prop
  | .qq => ∃ type id, target = .qq type id ∧ id ≠ []
  | .feishu => ∃ chatId, target = .feishu chatId
  | .wechat => ∃ openId, target = .wechat openId

theorem QQ.normalizeEvent_isOf {type : QQ.EventType} {event : QQ.Event} {message : VendorMessage}
    (read : QQ.normalizeEvent type event = some message) :
    message.target.IsOf .qq ∧ message.messageId ≠ [] := by
  unfold QQ.normalizeEvent at read
  obtain ⟨messageId, identified, read⟩ := Option.bind_eq_some_iff.mp read
  obtain ⟨content, -, read⟩ := Option.bind_eq_some_iff.mp read
  cases type with
  | c2cMessageCreate =>
      obtain ⟨sender, sent, read⟩ := Option.bind_eq_some_iff.mp read
      cases read
      exact ⟨⟨_, _, rfl, mem_given sent⟩, mem_given identified⟩
  | groupAtMessageCreate | groupMessageCreate | directMessageCreate | atMessageCreate =>
      obtain ⟨sender, -, read⟩ := Option.bind_eq_some_iff.mp read
      obtain ⟨place, placed, read⟩ := Option.bind_eq_some_iff.mp read
      cases read
      exact ⟨⟨_, _, rfl, mem_given placed⟩, mem_given identified⟩

theorem VendorEvent.read_isOf [NumberReader] {event : VendorEvent} {message : VendorMessage}
    (read : event.read = some message) :
    message.target.IsOf event.channel ∧ (event.channel = .qq → message.messageId ≠ []) := by
  cases event with
  | qq type event =>
      obtain ⟨isOf, identified⟩ := QQ.normalizeEvent_isOf read
      exact ⟨isOf, fun _ => identified⟩
  | feishu event =>
      obtain ⟨messageId, -, read⟩ := Option.bind_eq_some_iff.mp read
      obtain ⟨sender, -, read⟩ := Option.bind_eq_some_iff.mp read
      obtain ⟨chatId, -, read⟩ := Option.bind_eq_some_iff.mp read
      obtain ⟨content, -, read⟩ := Option.bind_eq_some_iff.mp read
      cases read
      exact ⟨⟨chatId, rfl⟩, nofun⟩
  | wechat event =>
      obtain ⟨sender, -, read⟩ := Option.bind_eq_some_iff.mp read
      obtain ⟨createTime, -, read⟩ := Option.bind_eq_some_iff.mp read
      split at read
      · cases read
      · cases read
        exact ⟨⟨sender, rfl⟩, nofun⟩

/-! ### Conversations of QQ -/

theorem isInLine_of_isAlphanumericUnit {unit : Nat}
    (plain : (isAlphanumericUnit unit || (utf16 "._:/-").contains unit) = true) :
    QQ.isInLine unit = true := by
  have signs : ∀ unit ∈ utf16 "._:/-", QQ.isInLine unit = true := by decide
  rcases Bool.or_eq_true_iff.mp plain with letter | sign
  · unfold isAlphanumericUnit at letter
    unfold QQ.isInLine
    simp only [Bool.or_eq_true, Bool.and_eq_true, decide_eq_true_eq] at letter ⊢
    omega
  · exact signs unit (List.contains_iff_mem.mp sign)

theorem QQ.targetOf_text {type : QQTargetType} {id : JsText} (filled : id ≠ [])
    (inLine : id.all QQ.isInLine = true) (other : QQTargetType) :
    QQ.targetOf (utf16 type.name ++ 58 :: id) other =
      if other = type then some (.qq type id) else none := by
  by_cases same : other = type
  · subst same
    have shape : utf16 other.name ++ 58 :: id = (utf16 other.name ++ [58]) ++ id := by simp
    rw [if_pos rfl, QQ.targetOf, shape, List.drop_left, if_pos]
    exact ⟨List.isPrefixOf_iff_prefix.mpr (List.prefix_append _ _), filled, inLine⟩
  · rw [if_neg same, QQ.targetOf, if_neg]
    rintro ⟨start, -⟩
    cases other <;> cases type <;> first | exact absurd rfl same | cases start

/-- An identifier of a conversation leads back to the conversation. -/
theorem QQ.deliveryTarget_text {type : QQTargetType} {id : JsText} (filled : id ≠ [])
    (identifier : isChannelIdentifier (utf16 type.name ++ 58 :: id) = true) :
    QQ.deliveryTarget (utf16 type.name ++ 58 :: id) = .ok (.qq type id) := by
  have inLine : id.all QQ.isInLine = true := by
    rw [List.all_eq_true]
    intro unit member
    have letters : ∃ first rest, utf16 type.name ++ 58 :: id = first :: rest ∧ unit ∈ rest := by
      cases type <;> exact ⟨_, _, rfl, by simp [member]⟩
    obtain ⟨first, rest, shape, inside⟩ := letters
    rw [shape, isChannelIdentifier, Bool.and_eq_true, List.all_eq_true] at identifier
    exact isInLine_of_isAlphanumericUnit (identifier.2 unit inside)
  have found : [QQTargetType.c2c, .group, .channel, .dm].findSome?
      (QQ.targetOf (utf16 type.name ++ 58 :: id)) = some (.qq type id) := by
    simp only [List.findSome?, QQ.targetOf_text filled inLine]
    cases type <;> rfl
  rw [QQ.deliveryTarget, found]

/-- A digest leads to no conversation. -/
theorem QQ.deliveryTarget_digest (digest : JsText) :
    QQ.deliveryTarget (utf16 "qq-conversation" ++ 58 :: digest) = .error "invalid_qq_target" := by
  rfl

/-! ### Replies -/

theorem isChannelIdentifier_names (channel : AdapterChannel) :
    (isChannelIdentifier (utf16 (channel.name ++ "-message")) = true ∧
      (utf16 (channel.name ++ "-message")).length ≤ 191) ∧
    isChannelIdentifier (utf16 channel.conversationName) = true ∧
      (utf16 channel.conversationName).length ≤ 191 := by
  cases channel <;> decide

theorem stableIdentifier_ne_nil (kind : String) (value : JsText) :
    stableIdentifier kind value ≠ [] := by
  unfold stableIdentifier
  split
  · rename_i identifier
    rintro rfl
    cases identifier
  · exact List.append_ne_nil_of_right_ne_nil _ (List.cons_ne_nil _ _)

section Replies

variable {adapter : ChannelAdapter} {message : VendorMessage}

/-- What a reply becomes at QQ. -/
theorem deliver_reply_qq (isQQ : adapter.channel = .qq) {type : QQTargetType} {id : JsText}
    (filled : id ≠ []) (target : message.target = .qq type id) (text : JsText) :
    adapter.deliver ((adapter.submission message).reply text) =
      if isChannelIdentifier message.target.text = true then
        .ok { target := .qq type id
              replyTo := some (stableIdentifier "qq-message" message.messageId), text := text }
      else .error "invalid_qq_target" := by
  have replies : given (some (stableIdentifier "qq-message" message.messageId)) =
      some (stableIdentifier "qq-message" message.messageId) := by
    rw [given, Option.filter_some, if_pos (by simpa using stableIdentifier_ne_nil _ _)]
  have conversation : ((adapter.submission message).reply text).conversationId =
      stableIdentifier "qq-conversation" message.target.text := by
    simp only [ChannelAdapter.submission, Submission.reply, isQQ]
    rfl
  have answered : given ((adapter.submission message).reply text).replyToMessageId =
      some (stableIdentifier "qq-message" message.messageId) := by
    rw [← replies]
    simp only [ChannelAdapter.submission, Submission.reply, isQQ]
    rfl
  have sent : ((adapter.submission message).reply text).text = text := rfl
  rw [ChannelAdapter.deliver, isQQ]
  simp only [conversation, answered, sent]
  split
  · rename_i identifier
    rw [stableIdentifier, if_pos identifier, target]
    rw [target] at identifier
    rw [show VendorTarget.text (.qq type id) = utf16 type.name ++ 58 :: id from rfl,
      QQ.deliveryTarget_text filled identifier]
    rfl
  · rename_i other
    rw [stableIdentifier, if_neg other, QQ.deliveryTarget_digest]
    rfl

/-- What a reply becomes at Feishu. -/
theorem deliver_reply_feishu (isFeishu : adapter.channel = .feishu) (text : JsText) :
    adapter.deliver ((adapter.submission message).reply text) =
      .ok { target := .feishu (stableIdentifier "feishu-chat" message.target.text)
            replyTo := none, text := text } := by
  rw [ChannelAdapter.deliver, isFeishu]
  simp only [ChannelAdapter.submission, Submission.reply, isFeishu]
  rfl

/-- What a reply becomes at WeChat. -/
theorem deliver_reply_wechat (isWechat : adapter.channel = .wechat) (text : JsText) :
    adapter.deliver ((adapter.submission message).reply text) =
      .ok { target := .wechat (stableIdentifier "wechat-conversation" message.target.text)
            replyTo := none, text := text } := by
  rw [ChannelAdapter.deliver, isWechat]
  simp only [ChannelAdapter.submission, Submission.reply, isWechat]
  rfl

variable [NumberReader] {event : VendorEvent}

/-- A reply that carries the identifiers of a submission goes to the conversation of the event, and
answers its message, if and only if the identifiers are submitted as they are. -/
theorem reply_answers_iff (own : event.channel = adapter.channel)
    (read : event.read = some message) (text : JsText) :
    (∃ submission request, adapter.inbound event = some submission ∧
      adapter.deliver (submission.reply text) = .ok request ∧ request.Answers message) ↔
      message.IsAddressable adapter.channel := by
  obtain ⟨isOf, identified⟩ := VendorEvent.read_isOf read
  obtain ⟨⟨named, short⟩, named', short'⟩ := isChannelIdentifier_names adapter.channel
  have messageSame := stableIdentifier_eq_self_iff named short message.messageId
  have conversationSame := stableIdentifier_eq_self_iff named' short' message.target.text
  rw [own] at isOf identified
  have submitted : adapter.inbound event = some (adapter.submission message) := by
    rw [ChannelAdapter.inbound, read]
    rfl
  have answered : (∃ submission request, adapter.inbound event = some submission ∧
      adapter.deliver (submission.reply text) = .ok request ∧ request.Answers message) ↔
      ∃ request, adapter.deliver ((adapter.submission message).reply text) = .ok request ∧
        request.Answers message := by
    rw [submitted]
    simp only [Option.some_inj, exists_eq_left', exists_and_left]
  rw [answered]
  cases channel : adapter.channel with
  | qq =>
      rw [channel] at isOf messageSame
      obtain ⟨type, id, target, filled⟩ := isOf
      rw [deliver_reply_qq channel filled target]
      by_cases identifier : isChannelIdentifier message.target.text = true
      · rw [if_pos identifier]
        constructor
        · rintro ⟨request, sent, answers⟩
          cases sent
          exact ⟨identifier, fun _ => messageSame.mp (answers.replyTo _ rfl)⟩
        · intro addressable
          refine ⟨_, rfl, target.symm, ?_⟩
          rintro id ⟨⟩
          exact messageSame.mpr (addressable.messageId rfl)
      · rw [if_neg identifier]
        refine iff_of_false ?_ fun addressable => identifier addressable.conversation
        rintro ⟨request, sent, -⟩
        cases sent
  | feishu =>
      rw [channel] at isOf conversationSame
      obtain ⟨chatId, target⟩ := isOf
      rw [deliver_reply_feishu channel]
      constructor
      · rintro ⟨request, sent, answers⟩
        cases sent
        have same := answers.target
        rw [target] at same
        refine ⟨conversationSame.mp ?_, nofun⟩
        rw [target]
        exact VendorTarget.feishu.inj same
      · intro addressable
        refine ⟨_, rfl, ?_, nofun⟩
        have same := conversationSame.mpr addressable.conversation
        rw [target] at same ⊢
        exact congrArg VendorTarget.feishu same
  | wechat =>
      rw [channel] at isOf conversationSame
      obtain ⟨openId, target⟩ := isOf
      rw [deliver_reply_wechat channel]
      constructor
      · rintro ⟨request, sent, answers⟩
        cases sent
        have same := answers.target
        rw [target] at same
        refine ⟨conversationSame.mp ?_, nofun⟩
        rw [target]
        exact VendorTarget.wechat.inj same
      · intro addressable
        refine ⟨_, rfl, ?_, nofun⟩
        have same := conversationSame.mpr addressable.conversation
        rw [target] at same ⊢
        exact congrArg VendorTarget.wechat same

end Replies

/-! ### An identifier that is not kept -/

/-- An adapter of QQ. -/
def qqAdapter : ChannelAdapter where
  channel := .qq
  bindingId := utf16 "binding-1"
  appId := utf16 "app-1"

/-- A message from a user with this identifier. -/
def directEvent (sender : String) : VendorEvent :=
  .qq .c2cMessageCreate
    { id := some (utf16 "message-1"), content := some (utf16 "hello")
      authorUserOpenid := some (utf16 sender) }

/-- A reader of the numbers of JSON that reads none. -/
@[reducible] def NumberReader.blind : NumberReader where
  read _ := .null

attribute [local instance] NumberReader.blind

theorem reply_answers_iff_direct :
    ∃ message, (directEvent "user-1").read = some message ∧
      ((∃ submission request, qqAdapter.inbound (directEvent "user-1") = some submission ∧
        qqAdapter.deliver (submission.reply (utf16 "hi")) = .ok request ∧
        request.Answers message) ↔ message.IsAddressable qqAdapter.channel) := by
  obtain ⟨message, read⟩ : ∃ message, (directEvent "user-1").read = some message :=
    Option.isSome_iff_exists.mp (by decide)
  exact ⟨message, read, reply_answers_iff rfl read (utf16 "hi")⟩

/-- The reply to a user whose identifier holds another sign than those that are kept is refused. -/
theorem reply_to_padded_identifier_fails :
    (qqAdapter.inbound (directEvent "user+1=")).map (fun submission =>
      qqAdapter.deliver (submission.reply (utf16 "hi"))) = some (.error "invalid_qq_target") := by
  rfl

end BairuiPlatform
