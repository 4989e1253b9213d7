/-
Module: BairuiPlatform.Channels.Effects
Purpose: What a channel method may do to the two queues, whichever repository runs it, and
  the invariants that all of it keeps.
Trusted boundary: none
Main exports: QueueEffect, QueueEffect.inbox_grown, QueueEffect.outbox_grown,
  ChannelStore.Sound, ChannelStore.Sound.effect
-/
import BairuiPlatform.Channels.Rows

namespace BairuiPlatform

open Foundations

/-! ### Effects -/

/-- How a message comes into a queue: how often it may be handed out, and what is stored of
its attachments. -/
structure Arrival where
  maxAttempts : Nat
  attachments : Json

/-- An inbound message that was not handed out yet. -/
structure ChannelInboxRow.IsNew (arrival : Arrival) (row : ChannelInboxRow) : Prop where
  state : row.state = .pending
  attempts : row.attempts = 0
  maxAttempts : row.maxAttempts = arrival.maxAttempts
  attachments : row.attachments = arrival.attachments

/-- An outbound message that was not handed out yet. -/
structure ChannelOutboxRow.IsNew (arrival : Arrival) (row : ChannelOutboxRow) : Prop where
  state : row.state = .pending
  attempts : row.attempts = 0
  maxAttempts : row.maxAttempts = arrival.maxAttempts
  attachments : row.attachments = arrival.attachments

/-- The key that a channel gives to a message. -/
def ChannelInboxRow.messageKey (row : ChannelInboxRow) : String × String :=
  (row.bindingId, row.externalMessageId)

/-- The key of a receipt. -/
def ChannelReceipt.attemptKey (row : ChannelReceipt) : String × Nat :=
  (row.outboundId, row.attempt)

/-- The key of a dead letter. -/
def ChannelDeadLetter.sourceKey (row : ChannelDeadLetter) : Direction × String :=
  (row.direction, row.sourceId)

/-- What a method does to the queues at a time, where `time` reads the columns on the clock of
the repository, `arrival` is how the call queues a message, and `leaseId` is the lease that it
opens, if it opens one. -/
inductive QueueEffect (time : Nat → Nat) (now : Nat) (arrival : Arrival) (leaseId : Option String)
    (store store' : ChannelStore) : Prop where
  | idle (inbox : store'.inbox = store.inbox) (outbox : store'.outbox = store.outbox)
      (receipts : store'.receipts = store.receipts)
      (deadLetters : store'.deadLetters = store.deadLetters)
  | accept {row : ChannelInboxRow} (new : row.IsNew arrival)
      (first : ∀ other ∈ store.inbox, other.messageKey ≠ row.messageKey)
      (inbox : store'.inbox = store.inbox ++ [row]) (outbox : store'.outbox = store.outbox)
      (receipts : store'.receipts = store.receipts)
      (deadLetters : store'.deadLetters = store.deadLetters)
  | leaseInbox {lease : String} {heldUntil stamp : Nat} (opened : leaseId = some lease)
      (lasts : now ≤ time heldUntil)
      (inbox : Grown
        (fun old new => new = old ∨
          ((old.ticket time).Ready now ∧ new = inboxLease lease heldUntil stamp old))
        (fun _ => False) store.inbox store'.inbox)
      (outbox : store'.outbox = store.outbox) (receipts : store'.receipts = store.receipts)
      (deadLetters : store'.deadLetters = store.deadLetters)
  | complete {old : ChannelInboxRow} {stamp : Nat} {reply : Option ChannelOutboxRow}
      (held : old.state = .leased)
      (inbox : Replaced old (inboxComplete stamp old) store.inbox store'.inbox)
      (outbox : store'.outbox = store.outbox ++ reply.toList)
      (first : ∀ row ∈ reply, row.IsNew arrival ∧ row.inboxId = old.id ∧
        ∀ other ∈ store.outbox, other.inboxId ≠ old.id)
      (receipts : store'.receipts = store.receipts)
      (deadLetters : store'.deadLetters = store.deadLetters)
  | fail {old : ChannelInboxRow} {availableAt stamp : Nat} {errorCode : String}
      {letter : ChannelDeadLetter} (held : old.state = .leased)
      (inbox : Replaced old (inboxFail availableAt stamp errorCode old) store.inbox store'.inbox)
      (outbox : store'.outbox = store.outbox) (receipts : store'.receipts = store.receipts)
      (source : letter.sourceKey = (.inbound, old.id))
      (deadLetters : store'.deadLetters =
        if old.maxAttempts ≤ old.attempts then bury letter store.deadLetters
        else store.deadLetters)
  | leaseOutbox {workerId lease : String} {heldUntil stamp : Nat}
      (opened : leaseId = some lease) (lasts : now ≤ time heldUntil)
      (inbox : store'.inbox = store.inbox)
      (outbox : Grown
        (fun old new => new = old ∨
          ((old.ticket time).Ready now ∧
            new = outboxLease workerId lease heldUntil stamp old))
        (fun _ => False) store.outbox store'.outbox)
      (receipts : store'.receipts = store.receipts)
      (deadLetters : store'.deadLetters = store.deadLetters)
  | receipt {old : ChannelOutboxRow} {env : ChannelEnv} {stamp : Nat}
      {input : ChannelReceiptInput} {receipt : ChannelReceipt} {letter : ChannelDeadLetter}
      (held : old.state = .leased) (inbox : store'.inbox = store.inbox)
      (outbox : Replaced old (outboxSettle env stamp input old) store.outbox store'.outbox)
      (first : ∀ other ∈ store.receipts, other.attemptKey ≠ receipt.attemptKey)
      (receipts : store'.receipts = store.receipts ++ [receipt])
      (source : letter.sourceKey = (.outbound, old.id))
      (deadLetters : store'.deadLetters =
        if (nextState input.status old).phase = .buried then bury letter store.deadLetters
        else store.deadLetters)

/-! ### Tickets of the queues -/

/-- A later version of an inbound message: the same message, after a step of its ticket. -/
structure ChannelInboxRow.Follows (time : Nat → Nat) (now : Nat) (old new : ChannelInboxRow) :
    Prop where
  id : new.id = old.id
  message : new.messageKey = old.messageKey
  maxAttempts : new.maxAttempts = old.maxAttempts
  attachments : new.attachments = old.attachments
  ended : old.state.phase.isFinal = true → new = old
  step : (old.ticket time).Step now (new.ticket time)

/-- A later version of an outbound message. -/
structure ChannelOutboxRow.Follows (time : Nat → Nat) (now : Nat)
    (old new : ChannelOutboxRow) : Prop where
  id : new.id = old.id
  inbox : new.inboxId = old.inboxId
  maxAttempts : new.maxAttempts = old.maxAttempts
  attachments : new.attachments = old.attachments
  ended : old.state.phase.isFinal = true → new = old
  step : (old.ticket time).Step now (new.ticket time)

theorem ChannelInboxRow.Follows.refl {time : Nat → Nat} {now : Nat} (row : ChannelInboxRow) :
    row.Follows time now row :=
  ⟨rfl, rfl, rfl, rfl, fun _ => rfl, .stay _⟩

theorem ChannelOutboxRow.Follows.refl {time : Nat → Nat} {now : Nat} (row : ChannelOutboxRow) :
    row.Follows time now row :=
  ⟨rfl, rfl, rfl, rfl, fun _ => rfl, .stay _⟩

/-- The ticket of a message is held while the message is leased. -/
theorem ChannelInboxRow.ticket_held {time : Nat → Nat} {row : ChannelInboxRow}
    (leased : row.state = .leased) : (row.ticket time).phase = .held := by
  unfold ChannelInboxRow.ticket
  rw [leased]
  rfl

theorem ChannelOutboxRow.ticket_held {time : Nat → Nat} {row : ChannelOutboxRow}
    (leased : row.state = .leased) : (row.ticket time).phase = .held := by
  unfold ChannelOutboxRow.ticket
  rw [leased]
  rfl

/-- A leased message has not ended. -/
theorem ChannelInboxRow.not_final {row : ChannelInboxRow} (leased : row.state = .leased) :
    ¬row.state.phase.isFinal = true := by
  rw [leased]
  exact Bool.false_ne_true

theorem ChannelOutboxRow.not_final {row : ChannelOutboxRow} (leased : row.state = .leased) :
    ¬row.state.phase.isFinal = true := by
  rw [leased]
  exact Bool.false_ne_true

/-- A failed message is released for another attempt, or buried after its last one. -/
theorem inboxFail_step {time : Nat → Nat} {now availableAt stamp : Nat} {errorCode : String}
    {row : ChannelInboxRow} (leased : row.state = .leased) :
    (row.ticket time).Step now ((inboxFail availableAt stamp errorCode row).ticket time) := by
  have held : (row.ticket time).phase = .held := ChannelInboxRow.ticket_held leased
  by_cases spent : row.maxAttempts ≤ row.attempts
  · have ticket : (inboxFail availableAt stamp errorCode row).ticket time =
        { row.ticket time with
          phase := .buried, availableAt := time availableAt, heldUntil := none } := by
      simp only [inboxFail, ChannelInboxRow.ticket, if_pos spent]
      rfl
    rw [ticket]
    exact .bury held
  · have ticket : (inboxFail availableAt stamp errorCode row).ticket time =
        { row.ticket time with
          phase := .waiting, availableAt := time availableAt, heldUntil := none } := by
      simp only [inboxFail, ChannelInboxRow.ticket, if_neg spent]
      rfl
    rw [ticket]
    exact .release held (Nat.lt_of_not_le spent)

/-- A receipt finishes a message, releases it for another attempt, or buries it. -/
theorem outboxSettle_step {time : Nat → Nat} {now stamp : Nat} {env : ChannelEnv}
    {input : ChannelReceiptInput} {row : ChannelOutboxRow} (leased : row.state = .leased) :
    (row.ticket time).Step now ((outboxSettle env stamp input row).ticket time) := by
  have held : (row.ticket time).phase = .held := ChannelOutboxRow.ticket_held leased
  have ticket : ∀ state, nextState input.status row = state →
      (outboxSettle env stamp input row).ticket time =
        { row.ticket time with
          phase := state.phase
          availableAt :=
            time (if state = .retry then retryAt env input.retryAfterMs else row.availableAt)
          heldUntil := none } := by
    rintro state rfl
    rfl
  cases status : input.status with
  | delivered =>
      rw [ticket .delivered (by rw [status]; rfl)]
      exact .finish held
  | failed =>
      rw [ticket .failed (by rw [status]; rfl)]
      exact .bury held
  | retryable =>
      by_cases spent : row.maxAttempts ≤ row.attempts
      · rw [ticket .dead (by rw [status]; exact if_pos spent)]
        exact .bury held
      · rw [ticket .retry (by rw [status]; exact if_neg spent)]
        exact .release held (Nat.lt_of_not_le spent)

namespace QueueEffect

variable {time : Nat → Nat} {now : Nat} {arrival : Arrival} {leaseId : Option String}
  {store store' : ChannelStore}

/-- Every effect takes the inbound messages a step further, and adds new ones at the end. -/
theorem inbox_grown (effect : QueueEffect time now arrival leaseId store store') :
    Grown (fun old new => old.Follows time now new) (ChannelInboxRow.IsNew arrival) store.inbox
      store'.inbox := by
  have same : store'.inbox = store.inbox →
      Grown (fun old new => old.Follows time now new) (ChannelInboxRow.IsNew arrival) store.inbox
        store'.inbox := by
    intro inbox
    rw [inbox]
    exact .refl fun row _ => .refl row
  cases effect with
  | idle inbox => exact same inbox
  | accept new first inbox =>
      rw [inbox]
      exact .snoc (fun row _ => .refl row) new
  | leaseInbox opened lasts inbox =>
      refine inbox.mono (fun old _ new _ later => ?_) fun _ _ => False.elim
      rcases later with rfl | ⟨ready, rfl⟩
      · exact .refl new
      · exact ⟨rfl, rfl, rfl, rfl, fun final => absurd final ready.not_final, .hold ready lasts⟩
  | complete held inbox =>
      refine inbox.grown.mono (fun old _ new _ later => ?_) fun _ _ => False.elim
      rcases later with rfl | ⟨rfl, rfl⟩
      · exact .refl new
      · exact ⟨rfl, rfl, rfl, rfl, fun final => absurd final (ChannelInboxRow.not_final held),
          .finish (ChannelInboxRow.ticket_held held)⟩
  | fail held inbox =>
      refine inbox.grown.mono (fun old _ new _ later => ?_) fun _ _ => False.elim
      rcases later with rfl | ⟨rfl, rfl⟩
      · exact .refl new
      · exact ⟨rfl, rfl, rfl, rfl, fun final => absurd final (ChannelInboxRow.not_final held),
          inboxFail_step held⟩
  | leaseOutbox opened lasts inbox => exact same inbox
  | receipt held inbox => exact same inbox

/-- Every effect takes the outbound messages a step further, and adds new ones at the end. -/
theorem outbox_grown (effect : QueueEffect time now arrival leaseId store store') :
    Grown (fun old new => old.Follows time now new) (ChannelOutboxRow.IsNew arrival) store.outbox
      store'.outbox := by
  have same : store'.outbox = store.outbox →
      Grown (fun old new => old.Follows time now new) (ChannelOutboxRow.IsNew arrival) store.outbox
        store'.outbox := by
    intro outbox
    rw [outbox]
    exact .refl fun row _ => .refl row
  cases effect with
  | idle inbox outbox => exact same outbox
  | accept new first inbox outbox => exact same outbox
  | leaseInbox opened lasts inbox outbox => exact same outbox
  | @complete old stamp reply held inbox outbox first =>
      rw [outbox]
      cases reply with
      | none =>
          rw [Option.toList_none, List.append_nil]
          exact .refl fun row _ => .refl row
      | some row => exact .snoc (fun row _ => .refl row) (first row rfl).1
  | fail held inbox outbox => exact same outbox
  | leaseOutbox opened lasts inbox outbox =>
      refine outbox.mono (fun old _ new _ later => ?_) fun _ _ => False.elim
      rcases later with rfl | ⟨ready, rfl⟩
      · exact .refl new
      · exact ⟨rfl, rfl, rfl, rfl, fun final => absurd final ready.not_final, .hold ready lasts⟩
  | receipt held inbox outbox =>
      refine outbox.grown.mono (fun old _ new _ later => ?_) fun _ _ => False.elim
      rcases later with rfl | ⟨rfl, rfl⟩
      · exact .refl new
      · exact ⟨rfl, rfl, rfl, rfl, fun final => absurd final (ChannelOutboxRow.not_final held),
          outboxSettle_step held⟩

end QueueEffect

/-! ### Dead letters -/

/-- A message has a dead letter. -/
def ChannelStore.HasLetter (store : ChannelStore) (direction : Direction) (id : String) : Prop :=
  ∃ letter ∈ store.deadLetters, letter.sourceKey = (direction, id)

theorem isLetterOf_iff {direction : Direction} {id : String} {letter : ChannelDeadLetter} :
    isLetterOf direction id letter = true ↔ letter.sourceKey = (direction, id) := by
  unfold isLetterOf ChannelDeadLetter.sourceKey
  rw [Bool.and_eq_true, decide_eq_true_eq, decide_eq_true_eq, Prod.mk.injEq]

/-- After a burial the message of the letter has one, and no other message gained one. -/
theorem exists_bury_iff {letter : ChannelDeadLetter} {letters : List ChannelDeadLetter}
    {key : Direction × String} :
    (∃ row ∈ bury letter letters, row.sourceKey = key) ↔
      letter.sourceKey = key ∨ ∃ row ∈ letters, row.sourceKey = key := by
  unfold bury
  split
  · rename_i buried
    obtain ⟨row, member, same⟩ := List.any_eq_true.mp buried
    have own := isLetterOf_iff.mp same
    constructor
    · exact .inr
    · rintro (rfl | stored)
      · exact ⟨row, member, own⟩
      · exact stored
  · constructor
    · rintro ⟨row, member, own⟩
      rcases List.mem_append.mp member with old | new
      · exact .inr ⟨row, old, own⟩
      · rw [List.mem_singleton.mp new] at own
        exact .inl own
    · rintro (own | ⟨row, member, own⟩)
      · exact ⟨letter, List.mem_append_right _ List.mem_cons_self, own⟩
      · exact ⟨row, List.mem_append_left _ member, own⟩

/-- A burial leaves one letter for each message. -/
theorem keyed_bury {letter : ChannelDeadLetter} {letters : List ChannelDeadLetter}
    (keyed : Keyed ChannelDeadLetter.sourceKey letters) :
    Keyed ChannelDeadLetter.sourceKey (bury letter letters) := by
  unfold bury
  split
  · exact keyed
  · rename_i unburied
    refine keyed.snoc fun other member same => unburied ?_
    exact List.any_eq_true.mpr ⟨other, member, isLetterOf_iff.mpr same⟩

/-! ### The invariants -/

/-- An inbound message ended without success. -/
def ChannelStore.InboundBuried (store : ChannelStore) (id : String) : Prop :=
  ∃ row ∈ store.inbox, row.id = id ∧ row.state.phase = .buried

/-- An outbound message ended without success. -/
def ChannelStore.OutboundBuried (store : ChannelStore) (id : String) : Prop :=
  ∃ row ∈ store.outbox, row.id = id ∧ row.state.phase = .buried

/-- What every method keeps of the queues, on the clock of a repository. -/
structure ChannelStore.Sound (time : Nat → Nat) (store : ChannelStore) : Prop where
  inbox : ∀ row ∈ store.inbox, (row.ticket time).Sound
  outbox : ∀ row ∈ store.outbox, (row.ticket time).Sound
  messages : Keyed ChannelInboxRow.messageKey store.inbox
  replies : Keyed ChannelOutboxRow.inboxId store.outbox
  receipts : Keyed ChannelReceipt.attemptKey store.receipts
  deadLetters : Keyed ChannelDeadLetter.sourceKey store.deadLetters
  inboundLetters : ∀ id, store.HasLetter .inbound id ↔ store.InboundBuried id
  outboundLetters : ∀ id, store.HasLetter .outbound id ↔ store.OutboundBuried id

theorem ChannelInboxRow.IsNew.sound {time : Nat → Nat} {arrival : Arrival}
    {row : ChannelInboxRow} (new : row.IsNew arrival) : (row.ticket time).Sound := by
  refine ⟨fun _ => .inl new.attempts, fun held => ?_⟩
  unfold ChannelInboxRow.ticket at held
  rw [new.state] at held
  cases held

theorem ChannelOutboxRow.IsNew.sound {time : Nat → Nat} {arrival : Arrival}
    {row : ChannelOutboxRow} (new : row.IsNew arrival) : (row.ticket time).Sound := by
  refine ⟨fun _ => .inl new.attempts, fun held => ?_⟩
  unfold ChannelOutboxRow.ticket at held
  rw [new.state] at held
  cases held

namespace ChannelStore.Sound

variable {time : Nat → Nat} {now : Nat} {arrival : Arrival} {leaseId : Option String}
  {store store' : ChannelStore}

/-- Every effect keeps the keys of the inbound messages. -/
theorem messages_effect (sound : store.Sound time)
    (effect : QueueEffect time now arrival leaseId store store') :
    Keyed ChannelInboxRow.messageKey store'.inbox := by
  have same : store'.inbox.map ChannelInboxRow.messageKey =
      store.inbox.map ChannelInboxRow.messageKey →
      Keyed ChannelInboxRow.messageKey store'.inbox := by
    intro columns
    unfold Keyed
    rw [columns]
    exact sound.messages
  cases effect with
  | idle inbox => exact same (by rw [inbox])
  | accept new first inbox =>
      rw [inbox]
      exact sound.messages.snoc first
  | leaseInbox opened lasts inbox =>
      refine same (inbox.map_eq fun old new later => ?_)
      rcases later with rfl | ⟨-, rfl⟩ <;> rfl
  | complete held inbox =>
      refine same (inbox.grown.map_eq fun old new later => ?_)
      rcases later with rfl | ⟨rfl, rfl⟩ <;> rfl
  | fail held inbox =>
      refine same (inbox.grown.map_eq fun old new later => ?_)
      rcases later with rfl | ⟨rfl, rfl⟩ <;> rfl
  | leaseOutbox opened lasts inbox => exact same (by rw [inbox])
  | receipt held inbox => exact same (by rw [inbox])

/-- Every effect keeps one reply to each inbound message. -/
theorem replies_effect (sound : store.Sound time)
    (effect : QueueEffect time now arrival leaseId store store') :
    Keyed ChannelOutboxRow.inboxId store'.outbox := by
  have same : store'.outbox.map ChannelOutboxRow.inboxId =
      store.outbox.map ChannelOutboxRow.inboxId →
      Keyed ChannelOutboxRow.inboxId store'.outbox := by
    intro columns
    unfold Keyed
    rw [columns]
    exact sound.replies
  cases effect with
  | idle inbox outbox => exact same (by rw [outbox])
  | accept new first inbox outbox => exact same (by rw [outbox])
  | leaseInbox opened lasts inbox outbox => exact same (by rw [outbox])
  | @complete old stamp reply held inbox outbox first =>
      rw [outbox]
      cases reply with
      | none =>
          rw [Option.toList_none, List.append_nil]
          exact sound.replies
      | some row =>
          obtain ⟨-, own, unanswered⟩ := first row rfl
          exact sound.replies.snoc fun other member => own ▸ unanswered other member
  | fail held inbox outbox => exact same (by rw [outbox])
  | leaseOutbox opened lasts inbox outbox =>
      refine same (outbox.map_eq fun old new later => ?_)
      rcases later with rfl | ⟨-, rfl⟩ <;> rfl
  | receipt held inbox outbox =>
      refine same (outbox.grown.map_eq fun old new later => ?_)
      rcases later with rfl | ⟨rfl, rfl⟩ <;> rfl

/-- Every effect keeps one receipt for each attempt. -/
theorem receipts_effect (sound : store.Sound time)
    (effect : QueueEffect time now arrival leaseId store store') :
    Keyed ChannelReceipt.attemptKey store'.receipts := by
  have same : store'.receipts = store.receipts → Keyed ChannelReceipt.attemptKey store'.receipts :=
    fun receipts => receipts ▸ sound.receipts
  cases effect with
  | idle inbox outbox receipts => exact same receipts
  | accept new first inbox outbox receipts => exact same receipts
  | leaseInbox opened lasts inbox outbox receipts => exact same receipts
  | complete held inbox outbox first receipts => exact same receipts
  | fail held inbox outbox receipts => exact same receipts
  | leaseOutbox opened lasts inbox outbox receipts => exact same receipts
  | receipt held inbox outbox first receipts =>
      rw [receipts]
      exact sound.receipts.snoc first

/-- Every effect keeps one dead letter for each message. -/
theorem deadLetters_effect (sound : store.Sound time)
    (effect : QueueEffect time now arrival leaseId store store') :
    Keyed ChannelDeadLetter.sourceKey store'.deadLetters := by
  have same : store'.deadLetters = store.deadLetters →
      Keyed ChannelDeadLetter.sourceKey store'.deadLetters :=
    fun letters => letters ▸ sound.deadLetters
  cases effect with
  | idle inbox outbox receipts letters => exact same letters
  | accept new first inbox outbox receipts letters => exact same letters
  | leaseInbox opened lasts inbox outbox receipts letters => exact same letters
  | complete held inbox outbox first receipts letters => exact same letters
  | fail held inbox outbox receipts source letters =>
      rw [letters]
      split
      · exact keyed_bury sound.deadLetters
      · exact sound.deadLetters
  | leaseOutbox opened lasts inbox outbox receipts letters => exact same letters
  | receipt held inbox outbox first receipts source letters =>
      rw [letters]
      split
      · exact keyed_bury sound.deadLetters
      · exact sound.deadLetters

/-- An effect that keeps the dead letters, and buries no message, keeps the correspondence. -/
theorem letters_of_eq (letters : store'.deadLetters = store.deadLetters)
    {direction : Direction} {id : String} {before after : Prop}
    (corresponds : store.HasLetter direction id ↔ before) (same : after ↔ before) :
    store'.HasLetter direction id ↔ after := by
  rw [same, ← corresponds]
  unfold ChannelStore.HasLetter
  rw [letters]

/-- Every effect buries exactly the inbound messages that it writes a letter for. -/
theorem inboundLetters_effect (sound : store.Sound time)
    (effect : QueueEffect time now arrival leaseId store store') (id : String) :
    store'.HasLetter .inbound id ↔ store'.InboundBuried id := by
  have corresponds := sound.inboundLetters id
  have kept : store'.inbox = store.inbox → (store'.InboundBuried id ↔ store.InboundBuried id) := by
    intro inbox
    unfold ChannelStore.InboundBuried
    rw [inbox]
  cases effect with
  | idle inbox outbox receipts letters => exact letters_of_eq letters corresponds (kept inbox)
  | @accept row new first inbox outbox receipts letters =>
      refine letters_of_eq letters corresponds ?_
      unfold ChannelStore.InboundBuried
      rw [inbox]
      constructor
      · rintro ⟨other, member, own, buried⟩
        rcases List.mem_append.mp member with old | isNew
        · exact ⟨other, old, own, buried⟩
        · rw [List.mem_singleton.mp isNew, new.state] at buried
          cases buried
      · rintro ⟨other, member, buried⟩
        exact ⟨other, List.mem_append_left _ member, buried⟩
  | leaseInbox opened lasts inbox outbox receipts letters =>
      refine letters_of_eq letters corresponds (inbox.exists_iff fun old new later => ?_)
      rcases later with rfl | ⟨ready, rfl⟩
      · exact Iff.rfl
      · -- A message that is handed out is not buried, before or after.
        constructor
        · rintro ⟨-, buried⟩
          cases buried
        · rintro ⟨-, buried⟩
          have phase : (old.ticket time).phase = .buried := buried
          rcases ready.2 with ⟨waiting, -⟩ | ⟨held, -⟩
          · rw [phase] at waiting
            cases waiting
          · rw [phase] at held
            cases held
  | @complete old stamp reply held inbox outbox first receipts letters =>
      refine letters_of_eq letters corresponds ?_
      unfold ChannelStore.InboundBuried
      rw [inbox.exists_iff (by rintro ⟨-, buried⟩; rw [held] at buried; cases buried)]
      constructor
      · rintro (⟨-, buried⟩ | stored)
        · cases buried
        · exact stored
      · exact .inr
  | @fail old availableAt stamp errorCode letter held inbox outbox receipts source letters =>
      have buriedIff : store'.InboundBuried id ↔
          (old.id = id ∧ old.maxAttempts ≤ old.attempts) ∨ store.InboundBuried id := by
        unfold ChannelStore.InboundBuried
        rw [inbox.exists_iff (by rintro ⟨-, buried⟩; rw [held] at buried; cases buried)]
        refine or_congr_left (and_congr_right fun _ => ?_)
        by_cases spent : old.maxAttempts ≤ old.attempts
        · simp [inboxFail, spent, ChannelInboxState.phase]
        · simp [inboxFail, spent, ChannelInboxState.phase]
      rw [buriedIff, ← corresponds]
      unfold ChannelStore.HasLetter
      rw [letters]
      by_cases spent : old.maxAttempts ≤ old.attempts
      · rw [if_pos spent, exists_bury_iff, source, Prod.mk.injEq]
        simp [spent]
      · rw [if_neg spent]
        simp [spent]
  | leaseOutbox opened lasts inbox outbox receipts letters =>
      exact letters_of_eq letters corresponds (kept inbox)
  | receipt held inbox outbox first receipts source letters =>
      rw [kept inbox, ← corresponds]
      unfold ChannelStore.HasLetter
      rw [letters]
      split
      · rw [exists_bury_iff, source]
        simp
      · rfl

/-- Every effect buries exactly the outbound messages that it writes a letter for. -/
theorem outboundLetters_effect (sound : store.Sound time)
    (effect : QueueEffect time now arrival leaseId store store') (id : String) :
    store'.HasLetter .outbound id ↔ store'.OutboundBuried id := by
  have corresponds := sound.outboundLetters id
  have kept : store'.outbox = store.outbox →
      (store'.OutboundBuried id ↔ store.OutboundBuried id) := by
    intro outbox
    unfold ChannelStore.OutboundBuried
    rw [outbox]
  cases effect with
  | idle inbox outbox receipts letters => exact letters_of_eq letters corresponds (kept outbox)
  | accept new first inbox outbox receipts letters =>
      exact letters_of_eq letters corresponds (kept outbox)
  | leaseInbox opened lasts inbox outbox receipts letters =>
      exact letters_of_eq letters corresponds (kept outbox)
  | @complete old stamp reply held inbox outbox first receipts letters =>
      refine letters_of_eq letters corresponds ?_
      unfold ChannelStore.OutboundBuried
      rw [outbox]
      constructor
      · rintro ⟨other, member, own, buried⟩
        rcases List.mem_append.mp member with before | isNew
        · exact ⟨other, before, own, buried⟩
        · rw [(first other (Option.mem_toList.mp isNew)).1.state] at buried
          cases buried
      · rintro ⟨other, member, buried⟩
        exact ⟨other, List.mem_append_left _ member, buried⟩
  | fail held inbox outbox receipts source letters =>
      rw [kept outbox, ← corresponds]
      unfold ChannelStore.HasLetter
      rw [letters]
      split
      · rw [exists_bury_iff, source]
        simp
      · rfl
  | leaseOutbox opened lasts inbox outbox receipts letters =>
      refine letters_of_eq letters corresponds (outbox.exists_iff fun old new later => ?_)
      rcases later with rfl | ⟨ready, rfl⟩
      · exact Iff.rfl
      · constructor
        · rintro ⟨-, buried⟩
          cases buried
        · rintro ⟨-, buried⟩
          have phase : (old.ticket time).phase = .buried := buried
          rcases ready.2 with ⟨waiting, -⟩ | ⟨held, -⟩
          · rw [phase] at waiting
            cases waiting
          · rw [phase] at held
            cases held
  | @receipt old env stamp input receipt letter held inbox outbox first receipts source letters =>
      have buriedIff : store'.OutboundBuried id ↔
          (old.id = id ∧ (nextState input.status old).phase = .buried) ∨
            store.OutboundBuried id := by
        unfold ChannelStore.OutboundBuried
        rw [outbox.exists_iff (by rintro ⟨-, buried⟩; rw [held] at buried; cases buried)]
        rfl
      rw [buriedIff, ← corresponds]
      unfold ChannelStore.HasLetter
      rw [letters]
      by_cases ends : (nextState input.status old).phase = .buried
      · rw [if_pos ends, exists_bury_iff, source, Prod.mk.injEq]
        simp [ends]
      · rw [if_neg ends]
        simp [ends]

/-- Every effect keeps the invariants of the queues. -/
theorem effect (sound : store.Sound time) (effect : QueueEffect time now arrival leaseId store store') :
    store'.Sound time where
  inbox := by
    intro row member
    rcases effect.inbox_grown.cases_of_mem member with ⟨old, oldMem, follows⟩ | new
    · exact (sound.inbox old oldMem).step follows.step
    · exact new.sound
  outbox := by
    intro row member
    rcases effect.outbox_grown.cases_of_mem member with ⟨old, oldMem, follows⟩ | new
    · exact (sound.outbox old oldMem).step follows.step
    · exact new.sound
  messages := sound.messages_effect effect
  replies := sound.replies_effect effect
  receipts := sound.receipts_effect effect
  deadLetters := sound.deadLetters_effect effect
  inboundLetters := sound.inboundLetters_effect effect
  outboundLetters := sound.outboundLetters_effect effect

end ChannelStore.Sound

end BairuiPlatform
