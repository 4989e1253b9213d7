/-
Module: BairuiPlatform.Authority.AuditChain
Purpose: Every change of the authority is numbered, published once and audited once, and
  the audit rows of an organization form a chain.
Trusted boundary: none
Main exports: AuditRow.eventId?, Journal.Chained, Db.Chronicled, authority_chronicled
-/
import Mathlib.Data.List.Chain
import BairuiPlatform.Payload
import BairuiPlatform.Authority.Execution
import BairuiPlatform.Authority.Growth

namespace BairuiPlatform

open Foundations

/-! ### Redaction leaves identifiers of events alone -/

/-- No character of a UUID is a letter that the secret patterns need. -/
theorem isUuidChar_plain : IsPlainClass isUuidChar where
  ascii c shaped := by
    simp only [isUuidChar, isHexDigit, Bool.or_eq_true, Bool.and_eq_true, decide_eq_true_eq,
      beq_iff_eq, Char.le_def, UInt32.le_iff_toNat_le] at shaped
    rcases shaped with (⟨-, upper⟩ | ⟨-, upper⟩) | rfl
    · exact lt_of_le_of_lt upper (by decide)
    · exact lt_of_le_of_lt upper (by decide)
    · decide
  apart := by decide

/-- A short text of ASCII characters is its own slice. -/
theorem sliceChars_eq {room : Nat} : ∀ text : List Char, text.all isUuidChar = true →
    text.length ≤ room → sliceChars room text = text := by
  intro text
  induction text generalizing room with
  | nil => exact fun _ _ => by cases room <;> rfl
  | cons c rest ih =>
      intro inside short
      rw [List.all_cons, Bool.and_eq_true] at inside
      rw [List.length_cons] at short
      rw [sliceChars, isUuidChar_plain.units_length inside.1, if_pos (by omega),
        ih inside.2 (by omega)]

/-- Redaction keeps a UUID. -/
theorem redact_uuid (id : Uuid) {depth : Nat} (shallow : depth ≤ 8) :
    (redactControlMetadata depth (.str id.text)).1 = .str id.text := by
  have safe : isSecretText id.text = false := by
    rw [isSecretText, chars_eq_toList]
    exact isUuidChar_plain.secretIn _ id.shaped
  have short : id.text.toList.length ≤ 512 := by rw [id.length_eq]; decide
  rw [redactControlMetadata, if_neg (by omega), safe]
  simp [slice, sliceChars_eq _ id.shaped short]

/-- Redaction of an object makes no new property. -/
theorem redactFields_names {depth : Nat} :
    ∀ (fields : List (String × Json)) (field : String × Json),
      field ∈ (redactFields depth fields).1 → ∃ original ∈ fields, original.1 = field.1 := by
  intro fields
  induction fields with
  | nil => simp [redactFields]
  | cons first rest ih =>
      intro field member
      have later : field ∈ (redactFields depth rest).1 →
          ∃ original ∈ first :: rest, original.1 = field.1 := by
        intro old
        obtain ⟨original, originalMem, same⟩ := ih field old
        exact ⟨original, List.mem_cons_of_mem _ originalMem, same⟩
      obtain ⟨key, value⟩ := first
      rw [redactFields] at member
      split at member
      · exact later member
      · simp only at member
        split at member
        · exact later member
        · rcases List.mem_cons.mp member with rfl | old
          · exact ⟨(key, value), List.mem_cons_self, rfl⟩
          · exact later old

/-! ### The event of an audit row -/

/-- The event that the metadata of an audit row name. -/
def AuditRow.eventId? (audit : AuditRow) : Option String :=
  (audit.metadata.field? "event_id").bind Json.text?

/-- Later fields of another name leave the first field of an object in place. -/
theorem spread_head {name : String} (value : Json) :
    ∀ (extra : List (String × Json)) (rest : List (String × Json)),
      (∀ field ∈ extra, field.1 ≠ name) →
        ∃ others, spread ((name, value) :: rest) extra = (name, value) :: others := by
  intro extra
  induction extra with
  | nil => exact fun rest _ => ⟨rest, rfl⟩
  | cons field extra ih =>
      intro rest apart
      have first : field.1 ≠ name := apart field List.mem_cons_self
      have later := fun other member => apart other (List.mem_cons_of_mem _ member)
      obtain ⟨key, replacement⟩ := field
      rw [spread]
      split
      · rw [List.map_cons, if_neg (Ne.symm first)]
        exact ih _ later
      · exact ih _ later

section Rows

variable [Host] {entropy : Entropy} {now : Nat} {journal : Journal} {outbox : OutboxRow}
  {audit : AuditRow}

/-- The audit row of an event names it. -/
theorem EventEntry.audit_eventId {input : EventInput} {event : EventRow}
    (entry : EventEntry entropy now input journal event outbox audit) (isLocal : input.Local) :
    audit.eventId? = some event.id := by
  have named : event.id = entropy.event.text := by rw [entry.event_eq]; rfl
  have summary : event.summary = .obj (redactFields 0 input.summary).1 := by
    rw [entry.event_eq]
    simp [EventInput.entry, EventInput.row, redactControlMetadata]
  have apart : ∀ field ∈ (redactFields 0 input.summary).1, field.1 ≠ "event_id" := by
    intro field member
    obtain ⟨original, originalMem, same⟩ := redactFields_names _ _ member
    rw [← same]
    exact isLocal.summary original originalMem
  obtain ⟨others, spreaded⟩ := spread_head (.str event.id) _
    [("event_sequence", .num event.eventSequence), ("state", .ofText? event.state)] apart
  have metadata : audit.metadata =
      (redactControlMetadata 0 (.obj (("event_id", .str event.id) :: others))).1 := by
    rw [entry.audit_eq, ← spreaded]
    show (redactControlMetadata 0 event.auditMetadata).1 = _
    rw [EventRow.auditMetadata, summary]
  have allowed : isForbiddenKey "event_id" = false := by decide
  rw [AuditRow.eventId?, metadata, redactControlMetadata, if_neg (by decide), redactFields,
    allowed, named]
  simp [redact_uuid, Json.field?, Json.text?]

/-- The audit row of a change outside a deployment names no event. -/
theorem ChangeEntry.audit_eventId {input : GlobalChangeInput}
    (entry : ChangeEntry entropy now input journal outbox audit) (isGlobal : input.Global) :
    audit.eventId? = none := by
  have metadata : audit.metadata =
      .obj (redactFields 0 (redactFields 0 input.body).1).1 := by
    rw [entry.audit_eq]
    show (redactControlMetadata 0 (redactControlMetadata 0 (.obj input.body)).1).1 = _
    simp [redactControlMetadata]
  have missing : ((redactFields 0 (redactFields 0 input.body).1).1.find? fun field =>
      decide (field.1 = "event_id")) = none := by
    rw [List.find?_eq_none]
    intro field member
    obtain ⟨once, onceMem, sameOnce⟩ := redactFields_names _ _ member
    obtain ⟨original, originalMem, same⟩ := redactFields_names _ _ onceMem
    rw [decide_eq_true_eq, ← sameOnce, ← same]
    exact isGlobal.body original originalMem
  rw [AuditRow.eventId?, metadata, Json.field?, missing]
  rfl

end Rows

/-! ### The chain of an organization -/

/-- The audit rows of an organization. -/
def Journal.auditsOf (journal : Journal) (organizationId : String) : List AuditRow :=
  journal.audits.filter fun audit => audit.organizationId = organizationId

/-- Each row carries the hash of the row before it, and the first one carries none. -/
def Linked (audits : List AuditRow) : Prop :=
  audits.IsChain (fun previous audit => audit.previousHash = some previous.eventHash) ∧
    ∀ first ∈ audits.head?, first.previousHash = none

/-- A row that carries the hash of the latest one continues the chain. -/
theorem Linked.snoc {audits : List AuditRow} {audit : AuditRow} (linked : Linked audits)
    (next : audit.previousHash = audits.getLast?.map AuditRow.eventHash) :
    Linked (audits ++ [audit]) := by
  refine ⟨?_, ?_⟩
  · apply List.isChain_append.mpr
    refine ⟨linked.1, List.isChain_singleton audit, ?_⟩
    intro previous isLast row isFirst
    obtain rfl : audit = row := Option.some.inj isFirst
    rw [next, show audits.getLast? = some previous from isLast]
    rfl
  · intro first isFirst
    cases audits with
    | nil =>
        obtain rfl : audit = first := Option.some.inj isFirst
        exact next
    | cons head rest => exact linked.2 first isFirst

/-- The audit rows of every organization are numbered and linked. -/
def Journal.AuditsChained (journal : Journal) : Prop :=
  ∀ organizationId, Numbered AuditRow.sequence (journal.auditsOf organizationId) ∧
    Linked (journal.auditsOf organizationId)

/-- The row that `appendAudit` adds continues the chain of its organization. -/
theorem Journal.AuditsChained.snoc {before after : Journal} {input : AuditInput} {id : Uuid}
    {now : Nat} (chained : before.AuditsChained)
    (audits : after.audits = before.audits ++ [input.entry id now before]) :
    after.AuditsChained := by
  intro organizationId
  obtain ⟨numbered, linked⟩ := chained organizationId
  have split_audits : after.auditsOf organizationId = before.auditsOf organizationId ++
      if input.organizationId = organizationId then [input.entry id now before] else [] := by
    unfold Journal.auditsOf
    rw [audits, List.filter_append, List.filter_singleton]
    show _ ++ (bif decide (input.organizationId = organizationId) then _ else _) = _
    by_cases same : input.organizationId = organizationId <;> simp [same]
  rw [split_audits]
  by_cases same : input.organizationId = organizationId
  · have latest : before.latestAudit input.organizationId =
        (before.auditsOf organizationId).getLast? := by
      rw [Journal.latestAudit, same]
      exact numbered.latestBy_eq.1
    rw [if_pos same]
    refine ⟨numbered.snoc ?_, linked.snoc ?_⟩
    · show ((before.latestAudit input.organizationId).map (·.sequence)).getD 0 + 1 = _
      rw [latest, numbered.maxOf_eq]
      cases last : (before.auditsOf organizationId).getLast? with
      | none => rw [List.getLast?_eq_none_iff.mp last]; rfl
      | some row => simp [numbered.latestBy_eq.2 row last]
    · show (before.latestAudit input.organizationId).map (·.eventHash) = _
      rw [latest]
  · rw [if_neg same, List.append_nil]
    exact ⟨numbered, linked⟩

/-! ### The chronicle -/

/-- The outbox row publishes the event. -/
def publishesEvent (event : EventRow) (row : OutboxRow) : Bool :=
  row.eventId = some event.id

/-- The audit row names the event. -/
def auditsEvent (event : EventRow) (row : AuditRow) : Bool :=
  row.eventId? = some event.id

/-- The outbox row is about the aggregate of the record. -/
def publishesChange (record : IdempotencyRow) (row : OutboxRow) : Bool :=
  (row.aggregateType, row.aggregateId) = (record.aggregateType, record.aggregateId)

/-- The audit row is about the aggregate of the record. -/
def auditsChange (record : IdempotencyRow) (row : AuditRow) : Bool :=
  (row.aggregateType, row.aggregateId) = (record.aggregateType, record.aggregateId)

/-- The records of the changes outside a deployment. -/
def Journal.globalRecords (journal : Journal) : List IdempotencyRow :=
  journal.idempotency.filter fun record => globalAggregates.contains record.aggregateType

/-- What the journal says about the changes of the authority: the events of a deployment
are numbered from 1, every event and every change outside a deployment has exactly one
outbox row and one audit row, and the audit rows of an organization form a chain. -/
structure Journal.Chronicle (journal : Journal) : Prop where
  sequenced : ∀ deploymentId, Numbered EventRow.eventSequence (journal.eventsOf deploymentId)
  event_published : OnceEach publishesEvent journal.events journal.outbox
  event_audited : OnceEach auditsEvent journal.events journal.audits
  change_published : OnceEach publishesChange journal.globalRecords journal.outbox
  change_audited : OnceEach auditsChange journal.globalRecords journal.audits
  audits_chained : journal.AuditsChained

/-- The chronicle, and the names that its rows carry. -/
structure Db.Chronicled (db : Db) : Prop where
  chronicle : db.journal.Chronicle
  outbox_events : ∀ row ∈ db.journal.outbox, ∀ id ∈ row.eventId,
    ∃ event ∈ db.journal.events, event.id = id
  audit_events : ∀ row ∈ db.journal.audits, ∀ id ∈ row.eventId?,
    ∃ event ∈ db.journal.events, event.id = id
  outbox_globals : ∀ row ∈ db.journal.outbox, row.aggregateType ∈ globalAggregates →
    (row.aggregateType, row.aggregateId) ∈ db.globals
  audit_globals : ∀ row ∈ db.journal.audits, row.aggregateType ∈ globalAggregates →
    (row.aggregateType, row.aggregateId) ∈ db.globals
  record_globals : ∀ record ∈ db.journal.globalRecords,
    (record.aggregateType, record.aggregateId) ∈ db.globals

/-- The events of a deployment stay numbered when one is appended. -/
theorem Journal.Chronicle.sequenced_snoc {before after : Journal} {input : EventInput}
    {entropy : Entropy} {now : Nat} (chronicle : before.Chronicle)
    (events : after.events = before.events ++ [input.entry entropy now before])
    (deploymentId : String) :
    Numbered EventRow.eventSequence (after.eventsOf deploymentId) := by
  have split_events : after.eventsOf deploymentId = before.eventsOf deploymentId ++
      if input.deploymentId = deploymentId then [input.entry entropy now before] else [] := by
    unfold Journal.eventsOf
    rw [events, List.filter_append, List.filter_singleton]
    show _ ++ (bif decide (input.deploymentId = deploymentId) then _ else _) = _
    by_cases same : input.deploymentId = deploymentId <;> simp [same]
  rw [split_events]
  by_cases same : input.deploymentId = deploymentId
  · rw [if_pos same]
    apply (chronicle.sequenced deploymentId).snoc
    rw [← same]
    rfl
  · rw [if_neg same, List.append_nil]
    exact chronicle.sequenced deploymentId

/-- What holds of the rows of a table and of a new row holds of all of them. -/
theorem forall_mem_snoc {ρ : Type} {holds : ρ → Prop} {rows : List ρ} {row : ρ}
    (old : ∀ other ∈ rows, holds other) (new : holds row) :
    ∀ other ∈ rows ++ [row], holds other := by
  intro other member
  rcases List.mem_append.mp member with earlier | last
  · exact old other earlier
  · rw [List.mem_singleton.mp last]
    exact new

section Step

variable {entropy : Entropy} {now : Nat} {before after : Db}

/-- An event keeps the chronicle. -/
theorem Db.Chronicled.event [Host] {input : EventInput} {event : EventRow} {outbox : OutboxRow}
    {audit : AuditRow} {records : List IdempotencyRow} (chronicled : before.Chronicled)
    (entry : EventEntry entropy now input before.journal event outbox audit)
    (isLocal : input.Local)
    (recorded : ∀ record ∈ records, record.aggregateType ∉ globalAggregates)
    (journal : after.journal =
      { before.journal.withEvent event outbox audit with
        idempotency := before.journal.idempotency ++ records })
    (globals : after.globals = before.globals) : after.Chronicled := by
  have outboxEvent : outbox.eventId = some event.id := by rw [entry.outbox_eq]; rfl
  have outboxLocal : outbox.aggregateType ∉ globalAggregates := by
    rw [entry.outbox_eq]
    exact isLocal.aggregate
  have auditEvent : audit.eventId? = some event.id := entry.audit_eventId isLocal
  have auditLocal : audit.aggregateType ∉ globalAggregates := by
    rw [entry.audit_eq]
    exact isLocal.aggregate
  have sameRecords : after.journal.globalRecords = before.journal.globalRecords := by
    unfold Journal.globalRecords
    rw [journal, List.filter_append, List.append_right_eq_self, List.filter_eq_nil_iff]
    intro record member
    simpa using recorded record member
  have globalType : ∀ record ∈ before.journal.globalRecords,
      record.aggregateType ∈ globalAggregates := by
    intro record member
    simpa using (List.mem_filter.mp member).2
  have stillKnown : ∀ id, (∃ other ∈ before.journal.events, other.id = id) →
      ∃ other ∈ before.journal.events ++ [event], other.id = id := by
    intro id known
    obtain ⟨other, otherMem, same⟩ := known
    exact ⟨other, List.mem_append_left _ otherMem, same⟩
  have nowKnown : ∃ other ∈ before.journal.events ++ [event], other.id = event.id :=
    ⟨event, List.mem_append_right _ (List.mem_singleton_self event), rfl⟩
  have chronicle := chronicled.chronicle
  refine ⟨⟨?_, ?_, ?_, ?_, ?_, ?_⟩, ?_, ?_, ?_, ?_, ?_⟩
  · apply chronicle.sequenced_snoc
    rw [journal, ← entry.event_eq]
    rfl
  · rw [journal]
    apply chronicle.event_published.snoc
    · intro other member
      simpa [publishesEvent, outboxEvent] using (entry.id_new other member).symm
    · intro row member
      apply decide_eq_false
      intro named
      obtain ⟨other, otherMem, same⟩ := chronicled.outbox_events row member event.id named
      exact entry.id_new other otherMem same
    · simp [publishesEvent, outboxEvent]
  · rw [journal]
    apply chronicle.event_audited.snoc
    · intro other member
      simpa [auditsEvent, auditEvent] using (entry.id_new other member).symm
    · intro row member
      apply decide_eq_false
      intro named
      obtain ⟨other, otherMem, same⟩ := chronicled.audit_events row member event.id named
      exact entry.id_new other otherMem same
    · simp [auditsEvent, auditEvent]
  · rw [sameRecords, journal]
    apply chronicle.change_published.skip
    intro record member
    apply decide_eq_false
    intro same
    rw [Prod.mk.injEq] at same
    exact outboxLocal (same.1 ▸ globalType record member)
  · rw [sameRecords, journal]
    apply chronicle.change_audited.skip
    intro record member
    apply decide_eq_false
    intro same
    rw [Prod.mk.injEq] at same
    exact auditLocal (same.1 ▸ globalType record member)
  · apply chronicle.audits_chained.snoc
    rw [journal, ← entry.audit_eq]
    rfl
  · rw [journal]
    apply forall_mem_snoc
    · intro row member id named
      exact stillKnown id (chronicled.outbox_events row member id named)
    · intro id named
      obtain rfl : event.id = id := Option.some.inj (outboxEvent.symm.trans named)
      exact nowKnown
  · rw [journal]
    apply forall_mem_snoc
    · intro row member id named
      exact stillKnown id (chronicled.audit_events row member id named)
    · intro id named
      obtain rfl : event.id = id := Option.some.inj (auditEvent.symm.trans named)
      exact nowKnown
  · rw [journal, globals]
    exact forall_mem_snoc chronicled.outbox_globals fun isGlobal => absurd isGlobal outboxLocal
  · rw [journal, globals]
    exact forall_mem_snoc chronicled.audit_globals fun isGlobal => absurd isGlobal auditLocal
  · rw [sameRecords, globals]
    exact chronicled.record_globals

/-- A change outside a deployment keeps the chronicle. -/
theorem Db.Chronicled.change [Host] {input : GlobalChangeInput} {record : IdempotencyInput}
    {outbox : OutboxRow} {audit : AuditRow} (chronicled : before.Chronicled)
    (entry : ChangeEntry entropy now input before.journal outbox audit)
    (isGlobal : input.Global) (sameType : record.aggregateType = input.aggregateType)
    (sameId : record.aggregateId = input.aggregateId)
    (new : (input.aggregateType, input.aggregateId) ∉ before.globals)
    (journal : after.journal =
      (before.journal.withChange outbox audit).withRecord (record.row entropy.idempotency))
    (globals : ∀ name, name ∈ after.globals ↔
      name ∈ before.globals ∨ name = (input.aggregateType, input.aggregateId)) :
    after.Chronicled := by
  have outboxEvent : outbox.eventId = none := by rw [entry.outbox_eq]; rfl
  have outboxName : (outbox.aggregateType, outbox.aggregateId) =
      (input.aggregateType, input.aggregateId) := by rw [entry.outbox_eq]; rfl
  have auditEvent : audit.eventId? = none := entry.audit_eventId isGlobal
  have auditName : (audit.aggregateType, audit.aggregateId) =
      (input.aggregateType, input.aggregateId) := by rw [entry.audit_eq]; rfl
  have moreRecords : after.journal.globalRecords =
      before.journal.globalRecords ++ [record.row entropy.idempotency] := by
    unfold Journal.globalRecords
    rw [journal]
    show (before.journal.idempotency ++ [record.row entropy.idempotency]).filter _ = _
    rw [List.filter_append, List.filter_singleton]
    have kept : globalAggregates.contains (record.row entropy.idempotency).aggregateType = true := by
      rw [List.contains_iff_mem]
      show record.aggregateType ∈ globalAggregates
      rw [sameType]
      exact isGlobal.aggregate
    rw [kept]
    rfl
  have apart : ∀ {name : String × String}, name ∈ before.globals →
      name ≠ (input.aggregateType, input.aggregateId) := by
    intro name known same
    exact new (same ▸ known)
  have recordName : ((record.row entropy.idempotency).aggregateType,
      (record.row entropy.idempotency).aggregateId) =
        (input.aggregateType, input.aggregateId) := by
    show (record.aggregateType, record.aggregateId) = _
    rw [sameType, sameId]
  have chronicle := chronicled.chronicle
  refine ⟨⟨?_, ?_, ?_, ?_, ?_, ?_⟩, ?_, ?_, ?_, ?_, ?_⟩
  · rw [journal]
    exact chronicle.sequenced
  · rw [journal]
    apply chronicle.event_published.skip
    intro event _
    simp [publishesEvent, outboxEvent]
  · rw [journal]
    apply chronicle.event_audited.skip
    intro event _
    simp [auditsEvent, auditEvent]
  · rw [moreRecords, journal]
    apply chronicle.change_published.snoc
    · intro other member
      apply decide_eq_false
      rw [outboxName]
      exact (apart (chronicled.record_globals other member)).symm
    · intro row member
      apply decide_eq_false
      rw [recordName]
      intro same
      have isType := (Prod.mk.inj same).1 ▸ isGlobal.aggregate
      exact apart (chronicled.outbox_globals row member isType) same
    · rw [publishesChange, recordName, outboxName, decide_eq_true_eq]
  · rw [moreRecords, journal]
    apply chronicle.change_audited.snoc
    · intro other member
      apply decide_eq_false
      rw [auditName]
      exact (apart (chronicled.record_globals other member)).symm
    · intro row member
      apply decide_eq_false
      rw [recordName]
      intro same
      have isType := (Prod.mk.inj same).1 ▸ isGlobal.aggregate
      exact apart (chronicled.audit_globals row member isType) same
    · rw [auditsChange, recordName, auditName, decide_eq_true_eq]
  · apply chronicle.audits_chained.snoc
    rw [journal, ← entry.audit_eq]
    rfl
  · rw [journal]
    apply forall_mem_snoc chronicled.outbox_events
    intro id named
    cases outboxEvent.symm.trans named
  · rw [journal]
    apply forall_mem_snoc chronicled.audit_events
    intro id named
    cases auditEvent.symm.trans named
  · rw [journal]
    apply forall_mem_snoc
    · intro row member isType
      exact (globals _).mpr (.inl (chronicled.outbox_globals row member isType))
    · intro _
      exact (globals _).mpr (.inr outboxName)
  · rw [journal]
    apply forall_mem_snoc
    · intro row member isType
      exact (globals _).mpr (.inl (chronicled.audit_globals row member isType))
    · intro _
      exact (globals _).mpr (.inr auditName)
  · rw [moreRecords]
    apply forall_mem_snoc
    · intro other member
      exact (globals _).mpr (.inl (chronicled.record_globals other member))
    · exact (globals _).mpr (.inr recordName)

/-- A change of the outbox keeps the chronicle. -/
theorem Db.Chronicled.outbox (chronicled : before.Chronicled)
    (change : OutboxChange now before.journal after.journal)
    (globals : after.globals = before.globals) : after.Chronicled := by
  obtain ⟨events, audits, idempotency⟩ := change.frame
  have subjects := change.outbox_subjects
  have known : ∀ row ∈ after.journal.outbox, ∃ old ∈ before.journal.outbox,
      old.subject = row.subject := by
    intro row member
    apply List.mem_map.mp
    rw [← subjects]
    exact List.mem_map_of_mem member
  have sameRecords : after.journal.globalRecords = before.journal.globalRecords := by
    unfold Journal.globalRecords
    rw [idempotency]
  have chronicle := chronicled.chronicle
  refine ⟨⟨?_, ?_, ?_, ?_, ?_, ?_⟩, ?_, ?_, ?_, ?_, ?_⟩
  · intro deploymentId
    unfold Journal.eventsOf
    rw [events]
    exact chronicle.sequenced deploymentId
  · rw [events]
    exact OnceEach.of_map OutboxRow.subject
      (fun (event : EventRow) subject => decide (subject.1 = some event.id))
      chronicle.event_published subjects
  · rw [events, audits]
    exact chronicle.event_audited
  · rw [sameRecords]
    exact OnceEach.of_map OutboxRow.subject
      (fun (record : IdempotencyRow) subject =>
        decide (subject.2 = (record.aggregateType, record.aggregateId)))
      chronicle.change_published subjects
  · rw [sameRecords, audits]
    exact chronicle.change_audited
  · intro organizationId
    unfold Journal.auditsOf
    rw [audits]
    exact chronicle.audits_chained organizationId
  · intro row member id named
    obtain ⟨old, oldMem, same⟩ := known row member
    rw [events]
    apply chronicled.outbox_events old oldMem id
    rw [show old.eventId = row.eventId from congrArg (·.1) same]
    exact named
  · rw [events, audits]
    exact chronicled.audit_events
  · intro row member isType
    obtain ⟨old, oldMem, same⟩ := known row member
    have sameName := chronicled.outbox_globals old oldMem
    rw [show old.aggregateType = row.aggregateType from congrArg (·.2.1) same,
      show old.aggregateId = row.aggregateId from congrArg (·.2.2) same] at sameName
    rw [globals]
    exact sameName isType
  · rw [audits, globals]
    exact chronicled.audit_globals
  · rw [sameRecords, globals]
    exact chronicled.record_globals

/-- Every change of the authority keeps the chronicle. -/
theorem Db.Chronicled.grows [Host] (chronicled : before.Chronicled)
    (grows : Db.Grows now before after) :
    after.Chronicled := by
  cases grows with
  | event entry isLocal recorded journal globals =>
      exact chronicled.event entry isLocal recorded journal globals
  | change entry isGlobal sameType sameId new journal globals =>
      exact chronicled.change entry isGlobal sameType sameId new journal globals
  | outbox change globals => exact chronicled.outbox change globals

end Step

theorem Db.Blank.chronicled {db : Db} (blank : db.Blank) : db.Chronicled := by
  have journal := blank.journal
  refine ⟨⟨?_, ?_, ?_, ?_, ?_, ?_⟩, ?_, ?_, ?_, ?_, ?_⟩ <;>
    simp [journal, Journal.globalRecords, Journal.eventsOf, Journal.AuditsChained,
      Journal.auditsOf, Linked]

/-- The chronicle holds in every reachable state. -/
theorem authority_chronicled [Host] {db : Db} (reachable : Reachable controlAuthority db) :
    db.Chronicled :=
  authority_invariant reachable Db.Chronicled (fun _ blank => blank.chronicled)
    fun _ _ _ _ chronicled changed => chronicled.grows changed.grows

/-- In every reachable state the journal is a chronicle, and a call that fails, at
whichever statement, leaves the tables as they are. -/
theorem chronicle_of_reachable [Host] {db : Db} (reachable : Reachable controlAuthority db) :
    db.journal.Chronicle ∧
      ∀ (call : Call) (interruption : Interruption Failure),
        (call.execute db).1 = .error interruption → (call.execute db).2 = db := by
  refine ⟨(authority_chronicled reachable).chronicle, ?_⟩
  intro call interruption failed
  apply Tx.inTransaction_error
  exact Prod.ext failed rfl

section Sample

attribute [local instance] Host.posix

/-- A lease of the created command loses its connection before the ninth statement. -/
def interruptedLease : Call :=
  { env := .numbered 1 2000000, request := .leaseCommands sampleLease, fault := some 8 }

/-- Two events of a deployment are on record after a command was leased, and an interrupted
lease adds none. -/
theorem chronicle_sample :
    (sampleDb.execute sampleLeasing).2.journal.events.map EventRow.eventSequence = [1, 2] ∧
      (sampleDb.execute sampleLeasing).2.journal.Chronicle ∧
      (interruptedLease.execute (sampleDb.execute sampleCreation).2).2 =
        (sampleDb.execute sampleCreation).2 := by
  have leased := chronicle_of_reachable (execute_reachable sampleDb_blank sampleLeasing)
  have created := chronicle_of_reachable (execute_reachable sampleDb_blank sampleCreation)
  have interrupted :
      (interruptedLease.execute (sampleDb.execute sampleCreation).2).1.isOk = false := by
    decide +kernel
  obtain ⟨interruption, failed⟩ := Except.eq_error_of_isOk_eq_false interrupted
  exact ⟨sampleLeasing_reaches.2, leased.1, created.2 interruptedLease interruption failed⟩

end Sample

end BairuiPlatform
