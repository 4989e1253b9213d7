/-
Module: BairuiPlatform.Platform.Audits
Purpose: The audit events and the hash chain of PostgresPlatformRepository, and when the
  chains of both repositories verify from their stored columns.
Trusted boundary: none
Main exports: PlatformAudits, appendPlatformAudit, AuditStores, auditSystem,
  audit_chains_verify_iff
-/
import BairuiPlatform.Authority.AuditStorage
import BairuiPlatform.Foundations.Transition

namespace BairuiPlatform

open Foundations

/-! ### The tables -/

/-- `audit_events`. -/
structure AuditEventRow where
  id : String
  organizationId : String
  actorUserId : Option String
  action : String
  targetType : String
  targetId : Option String
  metadata : Json
  createdAt : Nat

/-- `audit_hash_chain`. -/
structure AuditLinkRow where
  id : String
  organizationId : String
  auditEventId : String
  sequence : Nat
  previousHash : Option String
  eventHash : String
  createdAt : Nat

/-- The tables of the audit of the platform. -/
structure PlatformAudits where
  events : List AuditEventRow
  links : List AuditLinkRow

/-- `SELECT … FROM audit_hash_chain WHERE organization_id=$1 ORDER BY sequence DESC LIMIT 1`. -/
def PlatformAudits.latestLink (audits : PlatformAudits) (organizationId : String) :
    Option AuditLinkRow :=
  latestBy AuditLinkRow.sequence
    (chainOf AuditLinkRow.organizationId organizationId audits.links)

/-! ### `appendAudit` -/

/-- The argument of `appendAudit`. The id is drawn when the caller gives none, and missing
metadata are the empty object. -/
structure PlatformAuditInput where
  id : Option String
  organizationId : String
  actorUserId : Option String
  action : String
  targetType : String
  targetId : Option String
  metadata : Option Json

/-- The clock reading of `appendAudit`, and the values of `randomUUID()` that it draws. -/
structure PlatformAuditEnv where
  now : Nat
  event : Uuid
  link : Uuid

/-- The row of `audit_events`. -/
def PlatformAuditInput.event (input : PlatformAuditInput) (env : PlatformAuditEnv) :
    AuditEventRow :=
  { id := input.id.getD env.event.text
    organizationId := input.organizationId
    actorUserId := input.actorUserId
    action := input.action
    targetType := input.targetType
    targetId := input.targetId
    metadata := input.metadata.getD (.obj [])
    createdAt := isoNow env.now }

/-- The object whose text is hashed. -/
def AuditEventRow.hashed (event : AuditEventRow) (previousHash : Option String) : Json :=
  .obj [("id", .str event.id), ("organizationId", .str event.organizationId),
    ("actorUserId", .ofText? event.actorUserId), ("action", .str event.action),
    ("targetType", .str event.targetType), ("targetId", .ofText? event.targetId),
    ("metadata", event.metadata), ("createdAt", .str (isoString event.createdAt)),
    ("previousHash", .ofText? previousHash)]

/-- The row of `audit_hash_chain` after the latest one. -/
def AuditEventRow.link (event : AuditEventRow) (id : Uuid) (previous : Option AuditLinkRow) :
    AuditLinkRow :=
  { id := id.text
    organizationId := event.organizationId
    auditEventId := event.id
    sequence := (previous.map (·.sequence)).getD 0 + 1
    previousHash := previous.map (·.eventHash)
    eventHash := sha256 (event.hashed (previous.map (·.eventHash))).stringifyChars
    createdAt := event.createdAt }

/-- `appendAudit` of PostgresPlatformRepository. -/
def appendPlatformAudit (env : PlatformAuditEnv) (input : PlatformAuditInput) :
    Tx PlatformAudits Failure AuditEventRow := do
  Tx.read fun _ => ()
  let event := input.event env
  Tx.insert
    (fun audits =>
      [(!found (fun other => other.id = event.id) audits.events,
          .violation "audit_events_pkey")])
    (fun audits => { audits with events := audits.events ++ [event] })
  let previous ← Tx.read fun audits => audits.latestLink input.organizationId
  let link := event.link env.link previous
  Tx.insert
    (fun audits =>
      [(!found (fun other => other.id = link.id) audits.links,
          .violation "audit_hash_chain_pkey"),
        (!found (fun other => other.organizationId = link.organizationId &&
            other.sequence = link.sequence) audits.links,
          .violation "audit_hash_chain_organization_id_sequence_key"),
        (!found (fun other => other.organizationId = link.organizationId &&
            other.eventHash = link.eventHash) audits.links,
          .violation "audit_hash_chain_organization_id_event_hash_key")])
    (fun audits => { audits with links := audits.links ++ [link] })
  return event

/-- An event under a new id, and its link after the latest one of the organization. -/
theorem appendPlatformAudit_ok {env : PlatformAuditEnv} {input : PlatformAuditInput}
    {audits audits' : PlatformAudits} {event : AuditEventRow}
    (ran : (appendPlatformAudit env input).eval audits = .ok (event, audits')) :
    event = input.event env ∧ (∀ other ∈ audits.events, other.id ≠ event.id) ∧
      audits'.events = audits.events ++ [event] ∧
      audits'.links = audits.links ++
        [event.link env.link (audits.latestLink input.organizationId)] := by
  simp only [appendPlatformAudit, Tx.eval_bind_ok, Tx.eval_read, Tx.eval_insert_ok, Tx.eval_pure,
    Except.ok.injEq, Prod.mk.injEq, List.forall_mem_cons, List.not_mem_nil, Bool.not_eq_true',
    found_eq_false, decide_eq_false_iff_not, false_implies, implies_true, and_true] at ran
  obtain ⟨_, _, ⟨-, rfl⟩, _, _, ⟨new, rfl⟩, _, _, ⟨rfl, rfl⟩, _, _, ⟨-, rfl⟩, rfl, rfl⟩ := ran
  exact ⟨rfl, new, rfl, rfl⟩

/-! ### The rows that are read back -/

/-- The hash of a link, computed again from the columns of its event and from the hash of its
predecessor; there is none without the event. -/
def PlatformAudits.recomputed (audits : PlatformAudits) (previousHash : Option String)
    (link : AuditLinkRow) : String :=
  match audits.events.find? fun event => event.id = link.auditEventId with
  | some event =>
      sha256 ({ event with metadata := event.metadata.readBack }.hashed
        previousHash).stringifyChars
  | none => ""

/-- Every link names an event. -/
def PlatformAudits.Joined (audits : PlatformAudits) : Prop :=
  ∀ link ∈ audits.links, ∃ event,
    audits.events.find? (fun event => event.id = link.auditEventId) = some event

/-- The text that is hashed for an event, and the one that its columns give. -/
def AuditEventRow.ResistsAfter (event : AuditEventRow) (previousHash : Option String) : Prop :=
  Resists (event.hashed previousHash).stringifyChars
    ({ event with metadata := event.metadata.readBack }.hashed previousHash).stringifyChars

/-- A link verifies exactly if jsonb keeps the order of the metadata. -/
theorem AuditEventRow.link_verifies {event : AuditEventRow} (id : Uuid)
    {previous : Option AuditLinkRow} {audits : PlatformAudits}
    (stored : audits.events.find? (fun other => other.id = event.id) = some event)
    (resists : event.ResistsAfter (previous.map (·.eventHash))) :
    (event.link id previous).eventHash =
        audits.recomputed (previous.map (·.eventHash)) (event.link id previous) ↔
      event.metadata.readBack = event.metadata := by
  have again : audits.recomputed (previous.map (·.eventHash)) (event.link id previous) =
      sha256 ({ event with metadata := event.metadata.readBack }.hashed
        (previous.map AuditLinkRow.eventHash)).stringifyChars := by
    unfold PlatformAudits.recomputed
    rw [show (event.link id previous).auditEventId = event.id from rfl, stored]
  have first : (event.link id previous).eventHash =
      sha256 (event.hashed (previous.map (·.eventHash))).stringifyChars := rfl
  rw [again, first]
  constructor
  · intro same
    have values := Json.stringify_injective (resists same)
    simp only [AuditEventRow.hashed, Json.obj.injEq, List.cons.injEq, Prod.mk.injEq, true_and,
      and_true] at values
    exact values.symm
  · intro kept
    rw [kept]

/-- Another event does not change what is computed for the links that are there. -/
theorem PlatformAudits.recomputed_snoc {audits audits' : PlatformAudits} {event : AuditEventRow}
    (events : audits'.events = audits.events ++ [event]) {link : AuditLinkRow}
    (joined : ∃ event, audits.events.find? (fun event => event.id = link.auditEventId) =
      some event) (previousHash : Option String) :
    audits'.recomputed previousHash link = audits.recomputed previousHash link := by
  obtain ⟨own, found⟩ := joined
  unfold PlatformAudits.recomputed
  rw [events, List.find?_append, found, Option.some_or]

/-- The event that was inserted is found under its id. -/
theorem find?_snoc_new {events : List AuditEventRow} {event : AuditEventRow}
    (new : ∀ other ∈ events, other.id ≠ event.id) :
    (events ++ [event]).find? (fun other => other.id = event.id) = some event := by
  have missing : events.find? (fun other => other.id = event.id) = none := by
    rw [List.find?_eq_none]
    intro other member
    simpa using new other member
  rw [List.find?_append, missing]
  simp

/-! ### Both stores -/

/-- The tables of the authority and of the platform. -/
structure AuditStores where
  authority : Db
  platform : PlatformAudits

/-- What happens to the stores: an operation of the authority or of the platform appends an
audit row, or other tables change. -/
inductive AuditLabel where
  | authority (operation : AuditedOperation) (now : Nat) (id : Uuid) (details : AuditDetails)
  | platform (env : PlatformAuditEnv) (input : PlatformAuditInput)
  | other

/-- What a step does. A transaction that fails changes nothing and is no step. -/
inductive AuditLabel.Leads [Host] : AuditLabel → AuditStores → AuditStores → Prop where
  | authority {operation : AuditedOperation} {now : Nat} {id : Uuid} {details : AuditDetails}
      {stores : AuditStores} {fault : Option Nat} {audit : AuditRow} {db : Db}
      (committed : (appendSpelledAudit id (operation.createdAt now) details).inTransaction fault
        stores.authority = (.ok audit, db)) :
      Leads (.authority operation now id details) stores { stores with authority := db }
  | platform {env : PlatformAuditEnv} {input : PlatformAuditInput} {stores : AuditStores}
      {fault : Option Nat} {event : AuditEventRow} {audits : PlatformAudits}
      (committed : (appendPlatformAudit env input).inTransaction fault stores.platform =
        (.ok event, audits)) :
      Leads (.platform env input) stores { stores with platform := audits }
  | other {stores : AuditStores} {db : Db}
      (kept : db.journal.audits = stores.authority.journal.audits) :
      Leads .other stores { stores with authority := db }

/-- The stores from their first audit row on. -/
def auditSystem [Host] : TransitionSystem AuditStores AuditLabel where
  initial stores := stores.authority.journal.audits = [] ∧ stores.platform.events = [] ∧
    stores.platform.links = []
  step before label after := label.Leads before after

/-- Every chain of both stores verifies from its columns. -/
structure AuditStores.Verify (stores : AuditStores) : Prop where
  authority : ChainsVerify AuditRow.organizationId AuditRow.eventHash AuditRow.recomputed
    stores.authority.journal.audits
  platform : ChainsVerify AuditLinkRow.organizationId AuditLinkRow.eventHash
    stores.platform.recomputed stores.platform.links

/-- The rows of both stores are numbered, and every link names an event. -/
structure AuditStores.WellFormed (stores : AuditStores) : Prop where
  authority : ChainsNumbered AuditRow.organizationId AuditRow.sequence
    stores.authority.journal.audits
  platform : ChainsNumbered AuditLinkRow.organizationId AuditLinkRow.sequence
    stores.platform.links
  joined : stores.platform.Joined

/-- What the operation hands over reads back from its columns as it is: the request spells its
time as `toISOString()` does, or jsonb keeps the order of the metadata. -/
def AuditLabel.ReadsBack : AuditLabel → Prop
  | .authority operation _ _ _ => ∀ stamp ∈ operation.spelled, stamp.Canonical
  | .platform env input => (input.event env).metadata.readBack = (input.event env).metadata
  | .other => True

/-- SHA-256 does not collide on the text that is hashed and the one that the columns give. -/
def AuditLabel.Resists (stores : AuditStores) : AuditLabel → Prop
  | .authority operation now id details =>
      (details.row id (operation.createdAt now)
        (stores.authority.journal.latestAudit details.organizationId)).ResistsAt
        (operation.createdAt now)
  | .platform env input =>
      (input.event env).ResistsAfter
        ((stores.platform.latestLink input.organizationId).map (·.eventHash))
  | .other => True

section Steps

variable [Host] {before after : AuditStores} {label : AuditLabel}

theorem AuditLabel.Leads.wellFormed (formed : before.WellFormed) (taken : label.Leads before after) :
    after.WellFormed := by
  cases taken with
  | authority committed =>
      obtain ⟨rfl, rows⟩ := appendSpelledAudit_ok (Tx.inTransaction_ok committed)
      refine ⟨?_, formed.platform, formed.joined⟩
      rw [rows]
      exact formed.authority.snoc rfl
  | platform committed =>
      obtain ⟨rfl, new, events, links⟩ := appendPlatformAudit_ok (Tx.inTransaction_ok committed)
      refine ⟨formed.authority, ?_, ?_⟩
      · rw [links]
        exact formed.platform.snoc rfl
      · intro link member
        rw [links] at member
        rw [events]
        rcases List.mem_append.mp member with old | last
        · obtain ⟨event, found⟩ := formed.joined link old
          exact ⟨event, by rw [List.find?_append, found, Option.some_or]⟩
        · rw [List.mem_singleton.mp last]
          exact ⟨_, find?_snoc_new new⟩
  | other kept =>
      refine ⟨?_, formed.platform, formed.joined⟩
      rw [kept]
      exact formed.authority

/-- Chains that verify go on to do so after a step exactly if what the operation hands over
reads back as it is. -/
theorem AuditLabel.Leads.verify_iff (formed : before.WellFormed) (verify : before.Verify)
    (resists : label.Resists before) (taken : label.Leads before after) :
    after.Verify ↔ label.ReadsBack := by
  cases taken with
  | @authority operation now id details _ _ _ _ committed =>
      obtain ⟨rfl, rows⟩ := appendSpelledAudit_ok (Tx.inTransaction_ok committed)
      show _ ↔ ∀ stamp ∈ operation.spelled, stamp.Canonical
      rw [← operation.createdAt_canonical now, ← AuditDetails.row_verifies resists]
      constructor
      · intro kept
        have chains := kept.authority
        rw [rows] at chains
        exact ((chainsVerify_snoc formed.authority).mp chains).2
      · intro own
        refine ⟨?_, verify.platform⟩
        rw [rows]
        exact (chainsVerify_snoc formed.authority).mpr ⟨verify.authority, own⟩
  | @platform env input _ _ _ audits committed =>
      obtain ⟨rfl, new, events, links⟩ := appendPlatformAudit_ok (Tx.inTransaction_ok committed)
      have stored : audits.events.find? (fun other => other.id = (input.event env).id) =
          some (input.event env) := by
        rw [events]
        exact find?_snoc_new new
      have old : ChainsVerify AuditLinkRow.organizationId AuditLinkRow.eventHash
          audits.recomputed before.platform.links := by
        intro organizationId
        refine (verifiesFrom_congr fun link member previous => ?_).mp
          (verify.platform organizationId)
        have joined := formed.joined link (List.mem_of_mem_filter member)
        exact (PlatformAudits.recomputed_snoc events joined previous).symm
      show _ ↔ (input.event env).metadata.readBack = (input.event env).metadata
      rw [← AuditEventRow.link_verifies env.link stored resists]
      constructor
      · intro kept
        have chains := kept.platform
        rw [links] at chains
        exact ((chainsVerify_snoc formed.platform).mp chains).2
      · intro own
        refine ⟨verify.authority, ?_⟩
        rw [links]
        exact (chainsVerify_snoc formed.platform).mpr ⟨old, own⟩
  | other kept =>
      refine iff_of_true ⟨?_, verify.platform⟩ trivial
      rw [kept]
      exact verify.authority

/-- The stores of every run are well formed. -/
theorem auditStores_wellFormed {history : List (Transition AuditStores AuditLabel)}
    {stores : AuditStores} (run : Run auditSystem history stores) : stores.WellFormed := by
  refine run.invariant AuditStores.WellFormed ?_
    fun before label after formed (taken : label.Leads before after) => taken.wellFormed formed
  rintro stores ⟨audits, events, links⟩
  refine ⟨?_, ?_, ?_⟩
  · rw [audits]
    exact fun _ => Numbered.nil
  · rw [links]
    exact fun _ => Numbered.nil
  · unfold PlatformAudits.Joined
    rw [links]
    exact fun link member => absurd member List.not_mem_nil

/-- In every run the chains of both stores verify after each step, if and only if every
operation of the authority spelled its time as `toISOString()` does and every operation of the
platform wrote its metadata in the order in which jsonb keeps them. -/
theorem audit_chains_verify_iff {history : List (Transition AuditStores AuditLabel)}
    {stores : AuditStores} (run : Run auditSystem history stores)
    (resists : ∀ transition ∈ history, transition.label.Resists transition.before) :
    (∀ transition ∈ history, transition.after.Verify) ↔
      ∀ transition ∈ history, transition.label.ReadsBack := by
  refine run.guarded_always_iff (fun transition => transition.label.Resists transition.before)
    AuditStores.Verify (fun transition => transition.label.ReadsBack) ?_ ?_ resists
  · rintro stores ⟨audits, events, links⟩
    constructor
    · rw [audits]
      exact fun _ => trivial
    · rw [links]
      exact fun _ => trivial
  · intro history before label after earlier verify taken resists
    exact AuditLabel.Leads.verify_iff (auditStores_wellFormed earlier) verify resists taken

end Steps

/-! ### Rows that verify and rows that do not -/

section Sample

attribute [local instance] Host.posix

/-- The stores before the first audit row. -/
def sampleAuditStores : AuditStores :=
  { authority := Db.empty, platform := { events := [], links := [] } }

theorem sampleAuditStores_run : Run auditSystem [] sampleAuditStores :=
  .start ⟨rfl, rfl, rfl⟩

/-- The audit row of an observation. -/
def sampleAuditDetails : AuditDetails :=
  { organizationId := "org-1"
    deploymentId := some "deployment-1"
    actorIdentity := some "server-1"
    action := "observation.received"
    aggregateType := "observation"
    aggregateId := "observation-1"
    metadata := .obj
      [("event_id", .str "event-1"), ("event_sequence", .num 1), ("state", .str "healthy"),
        ("observation_id", .str "observation-1"), ("observation_version", .num 1),
        ("desired_state_version", .num 0), ("freshness", .str "fresh"),
        ("freshness_seconds", .num 1)]
    distinct := by
      refine ⟨?_, ?_⟩
      · show List.Nodup _
        decide
      · simp [Json.FieldsDistinct, Json.NamesDistinct] }

/-- The platform received the observation two seconds after midnight. -/
def sampleReceivedAt (text : String) : Stamp :=
  { text := text, instant := 1784332802000000 }

/-- The operation that appends the row. -/
def sampleObservationAudit (receivedAt : String) : AuditLabel :=
  .authority (.recordObservation (sampleReceivedAt receivedAt)) 1784332803000000 (.numbered 0)
    sampleAuditDetails

/-- The clock and the random values of a change of role. -/
def sampleRoleEnv : PlatformAuditEnv :=
  { now := 1784332804000000, event := .numbered 1, link := .numbered 2 }

/-- An administrator changes the role of a user; the metadata name both roles. -/
def sampleRoleInput (first second : String) : PlatformAuditInput :=
  { id := none
    organizationId := "org-1"
    actorUserId := some "user-1"
    action := "user.role.update"
    targetType := "user"
    targetId := some "user-2"
    metadata := some (.obj [(first, .str "org_member"), (second, .str "org_admin")]) }

theorem AuditLabel.Leads.of_authority {operation : AuditedOperation} {now : Nat} {id : Uuid}
    {details : AuditDetails} {stores : AuditStores}
    (committed : ((appendSpelledAudit id (operation.createdAt now) details).inTransaction none
      stores.authority).1.isOk = true) :
    ∃ db, AuditLabel.Leads (.authority operation now id details) stores
      { stores with authority := db } := by
  cases ran : (appendSpelledAudit id (operation.createdAt now) details).inTransaction none
      stores.authority with
  | mk answer db =>
      rw [ran] at committed
      cases answer with
      | error interruption => cases committed
      | ok audit => exact ⟨db, .authority ran⟩

theorem AuditLabel.Leads.of_platform (env : PlatformAuditEnv) (input : PlatformAuditInput)
    (stores : AuditStores)
    (committed : ((appendPlatformAudit env input).inTransaction none
      stores.platform).1.isOk = true) :
    ∃ audits, AuditLabel.Leads (.platform env input) stores
      { stores with platform := audits } := by
  cases ran : (appendPlatformAudit env input).inTransaction none stores.platform with
  | mk answer audits =>
      rw [ran] at committed
      cases answer with
      | error interruption => cases committed
      | ok event => exact ⟨audits, .platform ran⟩

/-- An observation received at "…02.000Z", and a role change whose metadata name the shorter
property first: both rows verify. -/
theorem audit_chains_verify_sample :
    ∃ history stores, Run auditSystem history stores ∧
      history.map Transition.label =
        [.platform sampleRoleEnv (sampleRoleInput "to" "from"),
          sampleObservationAudit "2026-07-18T00:00:02.000Z"] ∧
      ∀ transition ∈ history, transition.after.Verify := by
  obtain ⟨db, first⟩ : ∃ db, (sampleObservationAudit "2026-07-18T00:00:02.000Z").Leads
      sampleAuditStores { sampleAuditStores with authority := db } :=
    AuditLabel.Leads.of_authority (by decide +kernel)
  obtain ⟨audits, second⟩ := AuditLabel.Leads.of_platform sampleRoleEnv
    (sampleRoleInput "to" "from") { sampleAuditStores with authority := db }
    (show ((appendPlatformAudit sampleRoleEnv (sampleRoleInput "to" "from")).inTransaction none
      ⟨[], []⟩).1.isOk = true by decide +kernel)
  have spelled : (sampleReceivedAt "2026-07-18T00:00:02.000Z").Canonical := by
    unfold Stamp.Canonical
    decide
  have kept : ((sampleRoleInput "to" "from").event sampleRoleEnv).metadata.readBack =
      ((sampleRoleInput "to" "from").event sampleRoleEnv).metadata :=
    Json.stringify_injective (by decide +kernel)
  have run := (sampleAuditStores_run.step first).step second
  refine ⟨_, _, run, rfl, (audit_chains_verify_iff run ?_).mpr ?_⟩
  · refine List.forall_mem_cons.mpr ⟨?_, List.forall_mem_cons.mpr ⟨?_, List.forall_mem_nil _⟩⟩
    · show AuditEventRow.ResistsAfter _ _
      unfold AuditEventRow.ResistsAfter
      rw [kept]
      exact fun _ => rfl
    · show AuditRow.ResistsAt _ (sampleReceivedAt _)
      unfold AuditRow.ResistsAt
      rw [show (sampleReceivedAt "2026-07-18T00:00:02.000Z").text = isoString _ from spelled]
      exact fun _ => rfl
  · refine List.forall_mem_cons.mpr ⟨kept, List.forall_mem_cons.mpr ⟨?_, List.forall_mem_nil _⟩⟩
    intro stamp spelledOut
    cases spelledOut
    exact spelled

/-- An observation received at "…02Z", and a role change whose metadata name the longer
property first: neither row verifies. -/
theorem respelled_audits_do_not_verify :
    (∃ after, (sampleObservationAudit "2026-07-18T00:00:02Z").Leads sampleAuditStores after ∧
        ¬after.Verify) ∧
      ∃ after, (AuditLabel.platform sampleRoleEnv (sampleRoleInput "from" "to")).Leads
        sampleAuditStores after ∧ ¬after.Verify := by
  have formed := auditStores_wellFormed sampleAuditStores_run
  have empty : sampleAuditStores.Verify := ⟨fun _ => trivial, fun _ => trivial⟩
  constructor
  · obtain ⟨db, taken⟩ : ∃ db, (sampleObservationAudit "2026-07-18T00:00:02Z").Leads
        sampleAuditStores { sampleAuditStores with authority := db } :=
      AuditLabel.Leads.of_authority (by decide +kernel)
    refine ⟨_, taken, fun verify => ?_⟩
    have resists : (sampleObservationAudit "2026-07-18T00:00:02Z").Resists sampleAuditStores :=
      fun same => absurd same (by decide +kernel)
    have spelled := (taken.verify_iff formed empty resists).mp verify _ rfl
    exact absurd spelled (by unfold Stamp.Canonical; decide)
  · obtain ⟨audits, taken⟩ := AuditLabel.Leads.of_platform sampleRoleEnv
      (sampleRoleInput "from" "to") sampleAuditStores (by decide +kernel)
    refine ⟨_, taken, fun verify => ?_⟩
    have resists : (AuditLabel.platform sampleRoleEnv (sampleRoleInput "from" "to")).Resists
        sampleAuditStores :=
      fun same => absurd same (by decide +kernel)
    have kept := (taken.verify_iff formed empty resists).mp verify
    exact absurd (congrArg Json.stringifyChars kept) (by decide +kernel)

end Sample

end BairuiPlatform
