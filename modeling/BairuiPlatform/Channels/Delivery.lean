/-
Module: BairuiPlatform.Channels.Delivery
Purpose: What becomes of a message: it ends, it is held, or some later call may lease it. A
  message falls out of that account exactly when its last lease runs out unreported.
Trusted boundary: none
Main exports: ChannelRules, ChannelStore.Accounted, ChannelStore.Abandoned,
  ChannelStore.Sound.accounted_iff, channel_accounted_iff, memory_abandons
-/
import BairuiPlatform.Channels.MemorySystem
import BairuiPlatform.Channels.Storage

namespace BairuiPlatform

open Foundations

/-! ### The account of a message -/

/-- How a repository reads its clock, and which messages its lease calls select at a time. -/
structure ChannelRules where
  time : Nat → Nat
  inboxReady : Nat → ChannelInboxRow → Bool
  outboxReady : Nat → DeliveryLease → ChannelOutboxRow → Bool

/-- The rules of MemoryPlatformRepository; its clock counts milliseconds. -/
def Memory.rules : ChannelRules where
  time := dateParse
  inboxReady := Memory.inboxReady
  outboxReady := Memory.outboxReady

/-- The rules of PostgresPlatformRepository; the clock of the database counts microseconds. -/
def Postgres.rules : ChannelRules where
  time := id
  inboxReady := Postgres.inboxReady
  outboxReady := Postgres.outboxReady

/-- The number of dead letters of a message. -/
def ChannelStore.letterCount (store : ChannelStore) (direction : Direction) (id : String) : Nat :=
  store.deadLetters.countP (isLetterOf direction id)

/-- What has become of an accepted message. -/
inductive ChannelInboxRow.Accounted (rules : ChannelRules) (store : ChannelStore) (now : Nat)
    (row : ChannelInboxRow) : Prop where
  | completed (state : row.state = .completed)
  | dead (state : row.state = .dead) (letter : store.letterCount .inbound row.id = 1)
  | held {heldUntil : Nat} (state : row.state = .leased)
      (expiry : row.leaseExpiresAt = some heldUntil) (lasts : now ≤ rules.time heldUntil)
  | eligible {later : Nat} (ahead : now ≤ later) (ready : rules.inboxReady later row = true)

/-- What has become of a queued message. -/
inductive ChannelOutboxRow.Accounted (rules : ChannelRules) (store : ChannelStore) (now : Nat)
    (row : ChannelOutboxRow) : Prop where
  | delivered (state : row.state = .delivered)
  | failed (state : row.state = .failed ∨ row.state = .dead)
      (letter : store.letterCount .outbound row.id = 1)
  | held {heldUntil : Nat} (state : row.state = .leased)
      (expiry : row.leaseExpiresAt = some heldUntil) (lasts : now ≤ rules.time heldUntil)
  | eligible {later : Nat} {input : DeliveryLease} (ahead : now ≤ later)
      (ready : rules.outboxReady later input row = true)

/-- No message is lost at a time. -/
structure ChannelStore.Accounted (rules : ChannelRules) (now : Nat) (store : ChannelStore) :
    Prop where
  inbox : ∀ row ∈ store.inbox, row.Accounted rules store now
  outbox : ∀ row ∈ store.outbox, row.Accounted rules store now

/-- Some message has used up its attempts, and nobody holds it: the lease of its last attempt
has run out, or it was queued without any attempt. -/
def ChannelStore.Abandoned (time : Nat → Nat) (now : Nat) (store : ChannelStore) : Prop :=
  (∃ row ∈ store.inbox, (row.ticket time).Stuck now) ∨
    ∃ row ∈ store.outbox, (row.ticket time).Stuck now

/-! ### The exact condition -/

/-- A message that has a dead letter has exactly one. -/
theorem ChannelStore.letterCount_eq_one {store : ChannelStore} {direction : Direction}
    {id : String} (keyed : Keyed ChannelDeadLetter.sourceKey store.deadLetters)
    (has : store.HasLetter direction id) : store.letterCount direction id = 1 := by
  obtain ⟨letter, member, source⟩ := has
  have count : store.letterCount direction id =
      (store.deadLetters.map ChannelDeadLetter.sourceKey).count (direction, id) := by
    unfold ChannelStore.letterCount List.count
    rw [List.countP_map]
    refine List.countP_congr fun row _ => ?_
    rw [isLetterOf_iff, Function.comp_apply, beq_iff_eq]
  rw [count]
  apply List.count_eq_one_of_mem keyed
  rw [← source]
  exact List.mem_map_of_mem member

namespace ChannelRules

/-- The lease calls of a repository may select every ready message. -/
structure Faithful (rules : ChannelRules) : Prop where
  inbox : ∀ now row, rules.inboxReady now row = true ↔ (row.ticket rules.time).Ready now
  outbox : ∀ now row,
    (∃ input, rules.outboxReady now input row = true) ↔ (row.ticket rules.time).Ready now

end ChannelRules

/-- A lease call without conditions, for the channel of a message. -/
def ChannelOutboxRow.openLease (row : ChannelOutboxRow) : DeliveryLease :=
  { agentId := none
    organizationId := none
    channels := [row.channel]
    bindingIds := none
    workerId := ""
    leaseId := none
    limit := none
    leaseSeconds := none }

theorem Memory.rules_faithful : Memory.rules.Faithful where
  inbox _ _ := ChannelInboxRow.ready_iff
  outbox now row := by
    constructor
    · rintro ⟨input, ready⟩
      exact Memory.ready_of_outboxReady ready
    · intro ready
      have ticket : (row.ticket dateParse).Ready now := ready
      refine ⟨row.openLease, Eq.trans ?_ (ChannelOutboxRow.ready_iff.mpr ticket)⟩
      simp [Memory.rules, Memory.outboxReady, ChannelOutboxRow.openLease, truthy]

theorem Postgres.rules_faithful : Postgres.rules.Faithful where
  inbox now row := by
    have reads (ready : (row.ticket id).Ready now) : Postgres.inboxReady now row = true :=
      ChannelInboxRow.ready_iff.mpr ready
    exact ⟨fun ready => ChannelInboxRow.ready_iff.mp ready, reads⟩
  outbox now row := by
    constructor
    · rintro ⟨input, ready⟩
      exact Postgres.ready_of_outboxReady ready
    · intro ready
      have ticket : (row.ticket id).Ready now := ready
      refine ⟨row.openLease, Eq.trans ?_ (ChannelOutboxRow.ready_iff.mpr ticket)⟩
      simp only [id_eq]
      simp [Postgres.rules, Postgres.outboxReady, ChannelOutboxRow.openLease]

section Condition

variable {rules : ChannelRules} {store : ChannelStore} {now : Nat}

/-- An inbound message is accounted for unless it is stuck. -/
theorem ChannelStore.Sound.messages_accounted_iff (faithful : rules.Faithful)
    (sound : store.Sound rules.time) {row : ChannelInboxRow} (member : row ∈ store.inbox) :
    row.Accounted rules store now ↔ ¬(row.ticket rules.time).Stuck now := by
  rw [← (sound.inbox row member).accounted_iff now]
  constructor
  · intro accounted
    cases accounted with
    | completed state => exact .inl (by rw [ChannelInboxRow.ticket, state]; rfl)
    | dead state letter => exact .inl (by rw [ChannelInboxRow.ticket, state]; rfl)
    | @held heldUntil state expiry lasts =>
        exact .inr (.inl ⟨ChannelInboxRow.ticket_held state, rules.time heldUntil,
          congrArg (Option.map rules.time) expiry, lasts⟩)
    | @eligible later ahead ready =>
        exact .inr (.inr ⟨later, ahead, (faithful.inbox later row).mp ready⟩)
  · rintro (final | ⟨held, heldUntil, expiry, lasts⟩ | ⟨later, ahead, ready⟩)
    · unfold ChannelInboxRow.ticket at final
      cases state : row.state with
      | completed => exact .completed state
      | dead =>
          refine .dead state (ChannelStore.letterCount_eq_one sound.deadLetters ?_)
          exact (sound.inboundLetters row.id).mpr ⟨row, member, rfl, by rw [state]; rfl⟩
      | pending => rw [state] at final; cases final
      | leased => rw [state] at final; cases final
      | retry => rw [state] at final; cases final
    · obtain ⟨instant, stored, rfl⟩ := Option.map_eq_some_iff.mp expiry
      refine .held ?_ stored lasts
      cases state : row.state with
      | leased => rfl
      | completed => rw [ChannelInboxRow.ticket, state] at held; cases held
      | dead => rw [ChannelInboxRow.ticket, state] at held; cases held
      | pending => rw [ChannelInboxRow.ticket, state] at held; cases held
      | retry => rw [ChannelInboxRow.ticket, state] at held; cases held
    · exact .eligible ahead ((faithful.inbox later row).mpr ready)

/-- An outbound message is accounted for unless it is stuck. -/
theorem ChannelStore.Sound.deliveries_accounted_iff (faithful : rules.Faithful)
    (sound : store.Sound rules.time) {row : ChannelOutboxRow} (member : row ∈ store.outbox) :
    row.Accounted rules store now ↔ ¬(row.ticket rules.time).Stuck now := by
  rw [← (sound.outbox row member).accounted_iff now]
  have letter (buried : row.state.phase = .buried) :
      store.letterCount .outbound row.id = 1 := by
    apply ChannelStore.letterCount_eq_one sound.deadLetters
    exact (sound.outboundLetters row.id).mpr ⟨row, member, rfl, buried⟩
  constructor
  · intro accounted
    cases accounted with
    | delivered state => exact .inl (by rw [ChannelOutboxRow.ticket, state]; rfl)
    | failed state letter =>
        rcases state with failed | dead
        · exact .inl (by rw [ChannelOutboxRow.ticket, failed]; rfl)
        · exact .inl (by rw [ChannelOutboxRow.ticket, dead]; rfl)
    | @held heldUntil state expiry lasts =>
        exact .inr (.inl ⟨ChannelOutboxRow.ticket_held state, rules.time heldUntil,
          congrArg (Option.map rules.time) expiry, lasts⟩)
    | @eligible later input ahead ready =>
        exact .inr (.inr ⟨later, ahead, (faithful.outbox later row).mp ⟨input, ready⟩⟩)
  · rintro (final | ⟨held, heldUntil, expiry, lasts⟩ | ⟨later, ahead, ready⟩)
    · unfold ChannelOutboxRow.ticket at final
      cases state : row.state with
      | delivered => exact .delivered state
      | failed => exact .failed (.inl state) (letter (by rw [state]; rfl))
      | dead => exact .failed (.inr state) (letter (by rw [state]; rfl))
      | pending => rw [state] at final; cases final
      | leased => rw [state] at final; cases final
      | retry => rw [state] at final; cases final
    · obtain ⟨instant, stored, rfl⟩ := Option.map_eq_some_iff.mp expiry
      refine .held ?_ stored lasts
      cases state : row.state with
      | leased => rfl
      | delivered => rw [ChannelOutboxRow.ticket, state] at held; cases held
      | failed => rw [ChannelOutboxRow.ticket, state] at held; cases held
      | dead => rw [ChannelOutboxRow.ticket, state] at held; cases held
      | pending => rw [ChannelOutboxRow.ticket, state] at held; cases held
      | retry => rw [ChannelOutboxRow.ticket, state] at held; cases held
    · obtain ⟨input, selected⟩ := (faithful.outbox later row).mpr ready
      exact .eligible ahead selected

/-- Every message is accounted for unless one is abandoned. -/
theorem ChannelStore.Sound.accounted_iff (faithful : rules.Faithful)
    (sound : store.Sound rules.time) :
    store.Accounted rules now ↔ ¬store.Abandoned rules.time now := by
  constructor
  · rintro accounted (⟨row, member, stuck⟩ | ⟨row, member, stuck⟩)
    · exact (sound.messages_accounted_iff faithful member).mp (accounted.inbox row member) stuck
    · exact (sound.deliveries_accounted_iff faithful member).mp (accounted.outbox row member) stuck
  · intro kept
    constructor
    · intro row member
      rw [sound.messages_accounted_iff faithful member]
      exact fun stuck => kept (.inl ⟨row, member, stuck⟩)
    · intro row member
      rw [sound.deliveries_accounted_iff faithful member]
      exact fun stuck => kept (.inr ⟨row, member, stuck⟩)

end Condition

/-! ### Leases of last attempts -/

/-- The lease of the last attempt of some message has run out, and nobody reported what became
of the message. -/
def ChannelStore.LeaseLost (time : Nat → Nat) (now : Nat) (store : ChannelStore) : Prop :=
  (∃ row ∈ store.inbox, row.maxAttempts ≤ row.attempts ∧ (row.ticket time).Lapsed now) ∨
    ∃ row ∈ store.outbox, row.maxAttempts ≤ row.attempts ∧ (row.ticket time).Lapsed now

/-- Every message was queued with an attempt. -/
structure ChannelStore.Attemptable (store : ChannelStore) : Prop where
  inbox : ∀ row ∈ store.inbox, row.maxAttempts ≠ 0
  outbox : ∀ row ∈ store.outbox, row.maxAttempts ≠ 0

section Runs

variable {time : Nat → Nat} {now : Nat} {arrival : Arrival} {leaseId : Option String}
  {store store' : ChannelStore}

theorem ChannelStore.Blank.attemptable (blank : store.Blank) : store.Attemptable where
  inbox := by simp [blank.inbox]
  outbox := by simp [blank.outbox]

/-- A call that queues its message with an attempt leaves every message with one. -/
theorem ChannelStore.Attemptable.effect (attemptable : store.Attemptable)
    (effect : QueueEffect time now arrival leaseId store store') (attempt : arrival.maxAttempts ≠ 0) :
    store'.Attemptable where
  inbox := by
    intro row member
    rcases effect.inbox_grown.cases_of_mem member with ⟨old, oldMem, follows⟩ | new
    · rw [follows.maxAttempts]
      exact attemptable.inbox old oldMem
    · rw [new.maxAttempts]
      exact attempt
  outbox := by
    intro row member
    rcases effect.outbox_grown.cases_of_mem member with ⟨old, oldMem, follows⟩ | new
    · rw [follows.maxAttempts]
      exact attemptable.outbox old oldMem
    · rw [new.maxAttempts]
      exact attempt

/-- Where every message has an attempt, one is abandoned only by the lease of its last. -/
theorem ChannelStore.Sound.abandoned_iff (sound : store.Sound time)
    (attemptable : store.Attemptable) : store.Abandoned time now ↔ store.LeaseLost time now := by
  unfold ChannelStore.Abandoned ChannelStore.LeaseLost
  apply or_congr
  · apply exists_congr
    intro row
    apply and_congr_right
    intro member
    exact (sound.inbox row member).stuck_iff (attemptable.inbox row member)
  · apply exists_congr
    intro row
    apply and_congr_right
    intro member
    exact (sound.outbox row member).stuck_iff (attemptable.outbox row member)

/-- A call abandons no message at its own time. -/
theorem QueueEffect.not_abandoned (effect : QueueEffect time now arrival leaseId store store')
    (attemptable : store'.Attemptable) (kept : ¬store.Abandoned time now) :
    ¬store'.Abandoned time now := by
  rintro (⟨row, member, stuck⟩ | ⟨row, member, stuck⟩)
  · rcases effect.inbox_grown.cases_of_mem member with ⟨old, oldMem, follows⟩ | new
    · exact follows.step.not_stuck (fun before => kept (.inl ⟨old, oldMem, before⟩)) stuck
    · have lapsed := ((new.sound).stuck_iff (attemptable.inbox row member)).mp stuck
      have pending : row.state.phase = .held := lapsed.2.1
      rw [new.state] at pending
      cases pending
  · rcases effect.outbox_grown.cases_of_mem member with ⟨old, oldMem, follows⟩ | new
    · exact follows.step.not_stuck (fun before => kept (.inr ⟨old, oldMem, before⟩)) stuck
    · have lapsed := ((new.sound).stuck_iff (attemptable.outbox row member)).mp stuck
      have pending : row.state.phase = .held := lapsed.2.1
      rw [new.state] at pending
      cases pending

end Runs

/-! ### Runs without a lost lease -/

/-- In a store of PostgresPlatformRepository every message has eight attempts. -/
theorem postgres_attemptable [PgDriver] {store : ChannelStore}
    (reachable : Reachable postgresChannels store) : store.Attemptable := by
  obtain ⟨history, run⟩ := reachable
  induction run with
  | start blank => exact blank.attemptable
  | step run taken attemptable =>
      cases taken
      have primary := (postgres_sound run.reachable).2
      exact attemptable.effect (Postgres.Call.affects _ primary).effect (by decide)

/-- A call queues its message with an attempt, and comes before the lease of a last attempt
has run out. -/
structure Memory.Timely (transition : Transition ChannelStore Memory.Call) : Prop where
  attempt : transition.label.request.arrival.maxAttempts ≠ 0
  reported : ¬transition.before.LeaseLost dateParse transition.label.now

/-- A call comes before the lease of a last attempt has run out. -/
def Postgres.Timely (transition : Transition ChannelStore Postgres.Call) : Prop :=
  ¬transition.before.LeaseLost id transition.label.now

theorem memory_attemptable {history : List (Transition ChannelStore Memory.Call)}
    {store : ChannelStore} (run : Run memoryChannels history store)
    (timely : ∀ transition ∈ history, Memory.Timely transition) : store.Attemptable := by
  apply run.guarded_invariant Memory.Timely ChannelStore.Attemptable
  · intro store blank
    exact blank.attemptable
  · intro before call after attemptable taken timely
    cases taken
    exact attemptable.effect (call.effect before) timely.attempt
  · exact timely

/-- Where no last lease was lost before a call, the call loses none, and every message is
accounted for at its time. -/
theorem accounted_of_effect {rules : ChannelRules} (faithful : rules.Faithful) {now : Nat}
    {arrival : Arrival} {leaseId : Option String} {store store' : ChannelStore} (sound : store.Sound rules.time)
    (attemptable : store.Attemptable) (attempt : arrival.maxAttempts ≠ 0)
    (effect : QueueEffect rules.time now arrival leaseId store store')
    (reported : ¬store.LeaseLost rules.time now) : store'.Accounted rules now := by
  have kept : ¬store.Abandoned rules.time now := by
    rw [sound.abandoned_iff attemptable]
    exact reported
  apply ((sound.effect effect).accounted_iff faithful).mpr
  exact effect.not_abandoned (attemptable.effect effect attempt) kept

/-- Messages are accounted for at a time unless one is abandoned then; in the tables, unless
the lease of a last attempt is lost. After every call of a run in which every call comes
before such a lease has run out, they are. -/
theorem channel_accounted_iff [PgDriver] :
    (∀ store now, Reachable memoryChannels store →
        (store.Accounted Memory.rules now ↔ ¬store.Abandoned dateParse now)) ∧
      (∀ store now, Reachable postgresChannels store →
        (store.Accounted Postgres.rules now ↔ ¬store.LeaseLost id now)) ∧
      (∀ history store, Run memoryChannels history store →
        (∀ transition ∈ history, Memory.Timely transition) →
          ∀ transition ∈ history,
            transition.after.Accounted Memory.rules transition.label.now) ∧
      ∀ history store, Run postgresChannels history store →
        (∀ transition ∈ history, Postgres.Timely transition) →
          ∀ transition ∈ history,
            transition.after.Accounted Postgres.rules transition.label.now := by
  refine ⟨?_, ?_, ?_, ?_⟩
  · intro store now reachable
    exact (memory_sound reachable).accounted_iff Memory.rules_faithful
  · intro store now reachable
    have sound := (postgres_sound reachable).1
    rw [sound.accounted_iff Postgres.rules_faithful]
    exact not_congr (sound.abandoned_iff (postgres_attemptable reachable))
  · intro history store run timely transition member
    obtain ⟨earlier, ran, taken, included⟩ := run.before_of_mem member
    have attemptable := memory_attemptable ran fun other otherMem =>
      timely other (included other otherMem)
    have step : transition.after = transition.label.after transition.before := taken
    have effect := transition.label.effect transition.before
    rw [← step] at effect
    exact accounted_of_effect Memory.rules_faithful (memory_sound ran.reachable) attemptable
      (timely transition member).attempt effect (timely transition member).reported
  · intro history store run timely transition member
    obtain ⟨earlier, ran, taken, -⟩ := run.before_of_mem member
    obtain ⟨sound, primary⟩ := postgres_sound ran.reachable
    have step : transition.after = transition.label.after transition.before := taken
    have effect := (transition.label.affects primary).effect
    rw [← step] at effect
    exact accounted_of_effect Postgres.rules_faithful sound
      (postgres_attemptable ran.reachable) (by decide) effect (timely transition member)

section Sample

attribute [local instance] sampleDriver

/-- The sample message is accounted for while it waits. -/
theorem waiting_accounted :
    (Memory.afterCalls [sampleAccept] sampleChannels).Accounted Memory.rules 0 := by
  have reachable : Reachable memoryChannels (Memory.afterCalls [sampleAccept] sampleChannels) :=
    (Memory.run_historyOf sampleChannels_blank _).reachable
  apply (channel_accounted_iff.1 _ 0 reachable).mpr
  rintro (⟨row, member, spent, -⟩ | ⟨row, member, -⟩)
  · have left : ∀ row ∈ (Memory.afterCalls [sampleAccept] sampleChannels).inbox,
        row.attempts < row.maxAttempts := by decide
    exact absurd (left row member) (Nat.not_lt_of_le spent)
  · cases member

end Sample

/-! ### A worker that crashes -/

/-- The sample message is leased eight times by workers that crash. -/
def sampleCrashes : List Memory.Call :=
  [427, 366, 305, 244, 183, 122, 61, 0].map (sampleIngressLease "lease") ++ [sampleAccept]

/-- The message stays leased for good: its attempts are used up and nobody writes a letter. -/
theorem crashes_lose_message :
    Reachable memoryChannels (Memory.afterCalls sampleCrashes sampleChannels) ∧
      ¬(Memory.afterCalls sampleCrashes sampleChannels).Accounted Memory.rules 488000 := by
  have reachable : Reachable memoryChannels (Memory.afterCalls sampleCrashes sampleChannels) :=
    (Memory.run_historyOf sampleChannels_blank _).reachable
  have columns : (Memory.afterCalls sampleCrashes sampleChannels).inbox.map (fun row =>
      (row.state, row.attempts, row.maxAttempts, row.leaseExpiresAt)) =
        [(.leased, 8, 8, some 487000000)] := by decide
  refine ⟨reachable, fun accounted => ?_⟩
  apply ((memory_sound reachable).accounted_iff Memory.rules_faithful).mp accounted
  obtain ⟨row, rows, same⟩ := List.map_eq_singleton_iff.mp columns
  simp only [Prod.mk.injEq] at same
  obtain ⟨leased, attempts, maxAttempts, expiry⟩ := same
  refine .inl ⟨row, ?_, ?_, .inr ⟨ChannelInboxRow.ticket_held leased, 487000, ?_, by decide⟩⟩
  · rw [rows]
    exact List.mem_cons_self
  · show row.maxAttempts ≤ row.attempts
    omega
  · show row.leaseExpiresAt.map dateParse = some 487000
    rw [expiry]
    rfl

end BairuiPlatform
