/-
Module: BairuiPlatform.Authority.Leasing
Purpose: When leaseCommands leases every command that it selects, at the precision of the
  clock, of the columns and of their text forms.
Trusted boundary: none
Main exports: Db.LeaseKeys, Db.Leasable, LeaseInput.Drawn, LeaseInput.LeasesAll,
  leaseOne_overdue, leases_all_iff
-/
import BairuiPlatform.Authority.Keys
import BairuiPlatform.Authority.Lifecycle

namespace BairuiPlatform

open Foundations Relation

/-! ### The events of leases -/

theorem Journal.Records.event_cases [Host] {entropy : Entropy} {now : Nat} {input : EventInput}
    {record : EventRow → IdempotencyInput} {before after : Journal} {event : EventRow}
    (records : Journal.Records entropy now input record before after)
    (member : event ∈ after.events) :
    event ∈ before.events ∨ event.idempotencyKey = input.idempotencyKey := by
  obtain ⟨stored, outbox, audit, entry, -, rfl⟩ := records
  rcases List.mem_append.mp member with old | new
  · exact .inl old
  · rw [List.mem_singleton.mp new, entry.event_eq]
    exact .inr rfl

theorem Journal.Appends.event_cases [Host] {entropy : Entropy} {now : Nat} {input : EventInput}
    {before after : Journal} {event : EventRow}
    (appends : Journal.Appends entropy now input before after)
    (member : event ∈ after.events) :
    event ∈ before.events ∨ event.idempotencyKey = input.idempotencyKey := by
  obtain ⟨stored, outbox, audit, entry, rfl⟩ := appends
  rcases List.mem_append.mp member with old | new
  · exact .inl old
  · rw [List.mem_singleton.mp new, entry.event_eq]
    exact .inr rfl

section Changes

variable [Host] {env : Env} {db db' : Db}

/-- An event that a change writes has the key of a request, or that of a lease. -/
theorem Change.event_cases (changed : Change env db db') {event : EventRow}
    (member : event ∈ db'.journal.events) :
    event ∈ db.journal.events ∨ (∃ key, event.idempotencyKey = key ++ ":event") ∨
      (∃ index row, ExpiresLease env index row db db' ∧
        event.idempotencyKey = "lease-expired:" ++ row.lease.id) ∨
      ∃ input index row lease, LeasesCommand env input index row lease db db' ∧
        event.idempotencyKey = "lease:" ++ lease.id := by
  cases changed with
  | desiredState stores =>
      exact (stores.journal.event_cases member).imp_right fun key => .inl ⟨_, key⟩
  | observation stores =>
      exact (stores.journal.event_cases member).imp_right fun key => .inl ⟨_, key⟩
  | releaseManifest stores =>
      obtain ⟨outbox, audit, -, -, journal⟩ := stores.journal
      rw [journal] at member
      exact .inl member
  | secretReference stores =>
      obtain ⟨outbox, audit, -, -, journal⟩ := stores.journal
      rw [journal] at member
      exact .inl member
  | command stores =>
      exact (stores.journal.event_cases member).imp_right fun key => .inl ⟨_, key⟩
  | decision decides =>
      exact (decides.journal.event_cases member).imp_right fun key => .inl ⟨_, key⟩
  | expiry expires =>
      exact (expires.journal.event_cases member).imp_right
        fun key => .inr (.inl ⟨_, _, expires, key⟩)
  | lease leases =>
      exact (leases.grants.journal.event_cases member).imp_right
        fun key => .inr (.inr ⟨_, _, _, _, leases, key⟩)
  | receipt records =>
      exact (records.journal.event_cases member).imp_right fun key => .inl ⟨_, key⟩
  | verification verifies =>
      exact (verifies.journal.event_cases member).imp_right fun key => .inl ⟨_, key⟩
  | outbox change after =>
      rw [change.frame.1] at member
      exact .inl member

/-- A change keeps the ids of leases, and activates none of them again. -/
theorem Change.keeps_leases (changed : Change env db db') :
    ∀ lease ∈ db.leases, ∃ later ∈ db'.leases, later.id = lease.id ∧
      (later.state = .active → lease.state = .active) := by
  have kept : db'.leases = db.leases → ∀ lease ∈ db.leases, ∃ later ∈ db'.leases,
      later.id = lease.id ∧ (later.state = .active → lease.state = .active) :=
    fun same lease member => ⟨lease, same ▸ member, rfl, id⟩
  have updated : ∀ (selected : LeaseRow → Bool) (change : LeaseRow → LeaseRow),
      (∀ row, (change row).id = row.id ∧ (change row).state ≠ .active) →
      ∀ lease ∈ db.leases, ∃ later ∈ updateWhere selected change db.leases,
        later.id = lease.id ∧ (later.state = .active → lease.state = .active) := by
    intro selected change ends lease member
    cases chosen : selected lease with
    | true =>
        exact ⟨change lease, mem_updateWhere.mpr (.inl ⟨lease, member, chosen, rfl⟩),
          (ends lease).1, fun active => absurd active (ends lease).2⟩
    | false => exact ⟨lease, mem_updateWhere.mpr (.inr ⟨member, chosen⟩), rfl, id⟩
  cases changed.control with
  | frame same => exact kept same.leases
  | command stores => exact kept (by rw [stores.after])
  | decision decides => exact kept (by rw [decides.after])
  | verification verifies => exact kept (by rw [verifies.after]; rfl)
  | expiry expires =>
      rw [expires.after]
      exact updated _ LeaseRow.expire fun _ => ⟨rfl, by simp [LeaseRow.expire]⟩
  | lease leases =>
      rw [leases.grants.after]
      exact fun lease member => ⟨lease, List.mem_append_left _ member, rfl, id⟩
  | @receipt input held eventType records =>
      rw [records.after]
      show ∀ lease ∈ db.leases, ∃ later ∈ input.leases env.now db.leases, _
      unfold ReceiptInput.leases
      split
      · exact updated _ _ fun _ => ⟨rfl, by simp [LeaseRow.consume]⟩
      · exact fun lease member => ⟨lease, member, rfl, id⟩

/-- A lease after a change has the id of a lease before it, or was just granted. -/
theorem Change.lease_cases (changed : Change env db db') {lease : LeaseRow}
    (member : lease ∈ db'.leases) :
    (∃ old ∈ db.leases, old.id = lease.id) ∨
      ∃ input index row, LeasesCommand env input index row lease db db' := by
  have updated : ∀ (selected : LeaseRow → Bool) (change : LeaseRow → LeaseRow),
      (∀ row, (change row).id = row.id) → lease ∈ updateWhere selected change db.leases →
      ∃ old ∈ db.leases, old.id = lease.id := by
    intro selected change keeps stored
    rcases mem_updateWhere.mp stored with ⟨old, oldMem, -, rfl⟩ | ⟨old, -⟩
    · exact ⟨old, oldMem, (keeps old).symm⟩
    · exact ⟨lease, old, rfl⟩
  cases changed.control with
  | frame same => exact .inl ⟨lease, same.leases ▸ member, rfl⟩
  | command stores => exact .inl ⟨lease, by rw [stores.after] at member; exact member, rfl⟩
  | decision decides => exact .inl ⟨lease, by rw [decides.after] at member; exact member, rfl⟩
  | verification verifies =>
      exact .inl ⟨lease, by rw [verifies.after] at member; exact member, rfl⟩
  | expiry expires =>
      rw [expires.after] at member
      exact .inl (updated _ LeaseRow.expire (fun _ => rfl) member)
  | @receipt input held eventType records =>
      have stored : lease ∈ input.leases env.now db.leases := by
        rw [records.after] at member
        exact member
      unfold ReceiptInput.leases at stored
      split at stored
      · exact .inl (updated _ (fun row => row.consume (input.completedAt.getD env.now))
          (fun _ => rfl) stored)
      · exact .inl ⟨lease, stored, rfl⟩
  | @lease input index row granted leases =>
      have stored : lease ∈ db.leases ++ [granted] := by
        rw [leases.grants.after] at member
        exact member
      rcases List.mem_append.mp stored with old | new
      · exact .inl ⟨lease, old, rfl⟩
      · rw [List.mem_singleton.mp new]
        exact .inr ⟨input, index, row, leases⟩

end Changes

/-- The ids of leases are UUIDs, and the events under the keys of leases go with leases that
were granted, and with leases that ran out. -/
structure Db.LeaseKeys (db : Db) : Prop where
  uuids : ∀ lease ∈ db.leases, ∃ id : Uuid, lease.id = id.text
  granted : ∀ event ∈ db.journal.events, ∀ id : Uuid,
    event.idempotencyKey = "lease:" ++ id.text → ∃ lease ∈ db.leases, lease.id = id.text
  expired : ∀ event ∈ db.journal.events, ∀ id : Uuid,
    event.idempotencyKey = "lease-expired:" ++ id.text →
      ∃ lease ∈ db.leases, lease.id = id.text ∧ lease.state ≠ .active

/-- A lease that was granted and one that ran out have different keys. -/
theorem lease_key_ne_expired (first second : String) :
    "lease:" ++ first ≠ "lease-expired:" ++ second := by
  intro same
  have letters := congrArg String.toList same
  simp [String.toList_append] at letters

theorem append_left_cancel {lead first second : String} (same : lead ++ first = lead ++ second) :
    first = second := by
  have letters := congrArg String.toList same
  rw [String.toList_append, String.toList_append] at letters
  exact String.toList_inj.mp (List.append_cancel_left letters)

theorem Db.LeaseKeys.change [Host] {env : Env} {db db' : Db} (keys : db.LeaseKeys)
    (changed : Change env db db') : db'.LeaseKeys where
  uuids lease member := by
    rcases changed.lease_cases member with ⟨old, oldMem, same⟩ | ⟨input, index, row, leases⟩
    · rw [← same]
      exact keys.uuids old oldMem
    · rw [leases.grants.lease_eq]
      exact ⟨(env.grants index).row, rfl⟩
  granted event member id key := by
    rcases changed.event_cases member with
      old | ⟨own, request⟩ | ⟨index, row, -, expiry⟩ | ⟨input, index, row, lease, leases, grant⟩
    · obtain ⟨lease, leaseMem, same⟩ := keys.granted event old id key
      obtain ⟨later, laterMem, laterSame, -⟩ := changed.keeps_leases lease leaseMem
      exact ⟨later, laterMem, laterSame.trans same⟩
    · exact absurd (key.symm.trans request) (isForeign_append_uuid _ id own)
    · exact absurd (key.symm.trans expiry) (lease_key_ne_expired _ _)
    · refine ⟨lease, ?_, append_left_cancel (grant.symm.trans key)⟩
      rw [leases.grants.after]
      exact List.mem_append_right _ List.mem_cons_self
  expired event member id key := by
    rcases changed.event_cases member with
      old | ⟨own, request⟩ | ⟨index, row, expires, expiry⟩ |
        ⟨input, index, row, lease, leases, grant⟩
    · obtain ⟨lease, leaseMem, same, ended⟩ := keys.expired event old id key
      obtain ⟨later, laterMem, laterSame, wasActive⟩ := changed.keeps_leases lease leaseMem
      exact ⟨later, laterMem, laterSame.trans same, fun active => ended (wasActive active)⟩
    · exact absurd (key.symm.trans request) (isForeign_append_uuid _ id own)
    · obtain ⟨leaseMem, -, -, -⟩ := Db.mem_expiredLeases.mp expires.selected
      refine ⟨row.lease.expire, ?_, append_left_cancel (expiry.symm.trans key), by
        simp [LeaseRow.expire]⟩
      rw [expires.after]
      exact mem_updateWhere.mpr (.inl ⟨row.lease, leaseMem, decide_eq_true rfl, rfl⟩)
    · exact absurd (grant.symm.trans key) (lease_key_ne_expired _ _)

/-! ### The deployments of commands -/

/-- The deployments of commands have ids that pass the payload check. -/
def Db.DeploymentsSafe (db : Db) : Prop :=
  ∀ command ∈ db.commands, IsSafeText command.deploymentId

theorem Db.DeploymentsSafe.change [Host] {env : Env} {db db' : Db} (safe : db.DeploymentsSafe)
    (changed : Change env db db') : db'.DeploymentsSafe := by
  have kept : db'.commands = db.commands → db'.DeploymentsSafe :=
    fun same command member => safe command (same ▸ member)
  have updated : ∀ (selected : CommandRow → Bool) (change : CommandRow → CommandRow),
      (∀ row, (change row).deploymentId = row.deploymentId) →
      ∀ command ∈ updateWhere selected change db.commands, IsSafeText command.deploymentId := by
    intro selected change keeps command member
    rcases mem_updateWhere.mp member with ⟨old, oldMem, -, rfl⟩ | ⟨old, -⟩
    · rw [keeps]
      exact safe old oldMem
    · exact safe command old
  cases changed.control with
  | frame same => exact kept same.commands
  | @command input deployment stores =>
      rw [stores.after]
      intro command member
      rcases List.mem_append.mp member with old | new
      · exact safe command old
      · rw [List.mem_singleton.mp new]
        -- The body of the outbox entry repeats the deployment, and was checked.
        obtain ⟨event, outbox, audit, entry, -, -⟩ := stores.journal
        have body := (assertSafeControlPayload_ok _ _).mp entry.body
        rw [entry.event_eq] at body
        exact body.2.2.2.2.2.1
  | @decision input current decides =>
      rw [decides.after]
      show ∀ command ∈ input.commands current.command.id db.commands, _
      unfold ApprovalDecisionInput.commands
      split
      · exact updated _ _ fun _ => rfl
      · exact safe
  | expiry expires =>
      rw [expires.after]
      refine updated _ _ fun row => ?_
      unfold CommandRow.afterLeaseExpiry
      split <;> rfl
  | lease leases =>
      rw [leases.grants.after]
      exact updated _ _ fun _ => rfl
  | receipt records =>
      rw [records.after]
      exact updated _ _ fun _ => rfl
  | verification verifies =>
      rw [verifies.after]
      exact updated _ _ fun _ => rfl

/-! ### States from which leases can be granted -/

/-- What every reachable state offers to a call that grants leases. -/
structure Db.Leasable (db : Db) : Prop where
  sound : db.Sound
  fenced : db.Fenced
  keys : db.LeaseKeys
  deployments : db.DeploymentsSafe

theorem Db.Leasable.change [Host] {env : Env} {db db' : Db} (leasable : db.Leasable)
    (changed : Change env db db') : db'.Leasable where
  sound := leasable.sound.change changed
  fenced := leasable.fenced.change leasable.sound changed
  keys := leasable.keys.change changed
  deployments := leasable.deployments.change changed

theorem authority_leasable [Host] {db : Db} (reachable : Reachable controlAuthority db) :
    db.Leasable := by
  refine authority_invariant reachable Db.Leasable (fun db blank => ?_)
    fun _ _ _ _ leasable changed => leasable.change changed
  refine ⟨blank.sound, blank.fenced, ⟨?_, ?_, ?_⟩, ?_⟩
  · simp [blank.leases]
  · simp [blank.journal]
  · simp [blank.journal]
  · simp [Db.DeploymentsSafe, blank.commands]

/-- What the body of an outbox entry repeats of an event about a lease passes the payload
check. -/
theorem EventInput.repeated_ok {now : Nat} {input : EventInput}
    (clock : now ≤ dateLimit) (deployment : IsSafeText input.deploymentId)
    (eventType : input.eventType ∈ ["command.leased", "command.lease-expired"])
    (state : ∀ text ∈ input.state, text ∈ ["queued", "leased", "expired"])
    (refs : input.evidenceRefs = []) (occurred : input.occurredAt = none) :
    assertSafeControlPayload "outbox.body" (input.repeated now) = .ok () := by
  have known : ∀ text ∈ ["command.leased", "command.lease-expired", "queued", "leased",
      "expired"], IsSafeText text := by
    unfold IsSafeText
    decide
  have names : ∀ name ∈ ["deployment_id", "event_type", "state", "evidence_refs",
      "occurred_at"], isForbiddenKey name = false := by
    decide
  simp only [List.forall_mem_cons] at names
  obtain ⟨deploymentName, typeName, stateName, refsName, occurredName, -⟩ := names
  have typeSafe : IsSafeText input.eventType :=
    known _ (List.mem_append_left ["queued", "leased", "expired"] eventType)
  have stateSafe : (Json.ofText? input.state).IsSafe := by
    cases named : input.state with
    | none => trivial
    | some text =>
        exact known text (List.mem_append_right ["command.leased", "command.lease-expired"]
          (state text named))
  have instant : IsSafeText (isoString (isoNow now)) := by
    apply isSafeText_isoString
    unfold isoNow ofMillis dateNow
    omega
  rw [assertSafeControlPayload_ok, EventInput.repeated, refs, occurred]
  exact ⟨deploymentName, deployment, typeName, typeSafe, stateName, stateSafe, refsName,
    ⟨Nat.zero_le _, trivial⟩, occurredName, instant, trivial⟩

/-! ### Leases that run out -/

section Expiry

variable [host : Host] {env : Env} {db : Db}

/-- The random values of an expiry are stored nowhere. -/
def ExpiredLease.Drawn (env : Env) (index : Nat) (row : ExpiredLease) (db : Db) : Prop :=
  row.event.Drawn (env.expiries index) env.now db.journal

instance (env : Env) (index : Nat) (row : ExpiredLease) (db : Db) :
    Decidable (row.Drawn env index db) :=
  inferInstanceAs (Decidable (row.event.Drawn (env.expiries index) env.now db.journal))

/-- A lease that ran out is taken back when the random values are new. -/
theorem Db.Leasable.expireOne_runs (leasable : db.Leasable) (within : host.SpacesWithin)
    (clock : env.now ≤ dateLimit) {index : Nat} {row : ExpiredLease}
    (selected : row ∈ db.expiredLeases env.now) (drawn : row.Drawn env index db) :
    ∃ db', (expireOne env index row).eval db = .ok ((), db') ∧
      ExpiresLease env index row db db' := by
  obtain ⟨member, active, -, -⟩ := Db.mem_expiredLeases.mp selected
  obtain ⟨command, commandMem, holds⟩ := leasable.fenced.holds row.lease member active
  have deployment : IsSafeText row.lease.deploymentId := by
    rw [← holds.deployment]
    exact leasable.deployments command commandMem
  have repeated : assertSafeControlPayload "outbox.body" (row.event.repeated env.now) = .ok () := by
    refine EventInput.repeated_ok clock deployment (by simp [ExpiredLease.event]) ?_ rfl rfl
    intro text named
    rw [← Option.mem_some.mp named]
    split <;> simp
  have free : db.journal.KeyFree row.event.organizationId row.event.idempotencyKey := by
    intro event eventMem _ key
    obtain ⟨id, named⟩ := leasable.keys.uuids row.lease member
    have keyed : event.idempotencyKey = "lease-expired:" ++ id.text := by
      rw [key, ← named]
      rfl
    obtain ⟨lease, leaseMem, same, ended⟩ := leasable.keys.expired event eventMem id keyed
    apply ended
    rw [leasable.sound.leases.eq_of_key_eq leaseMem member (same.trans named.symm)]
    exact active
  have fits := EventInput.Drawn.fits within drawn repeated
  obtain ⟨event, outbox, audit, entry⟩ := exists_eventEntry.mpr ⟨fits, free⟩
  have appends : Journal.Appends (env.expiries index) env.now row.event db.journal
      (db.journal.withEvent event outbox audit) := ⟨event, outbox, audit, entry, rfl⟩
  exact ⟨_, expireOne_ok.mpr ⟨_, appends, rfl⟩, selected, appends, rfl⟩

/-- The random values of the leases that run out are stored nowhere. -/
def Db.ExpiriesDrawn (env : Env) (db : Db) : Prop :=
  Tx.ReadyThroughout (ExpiredLease.Drawn env) (expireOne env) 0 (db.expiredLeases env.now) db

instance (env : Env) (db : Db) : Decidable (db.ExpiriesDrawn env) :=
  inferInstanceAs (Decidable (Tx.ReadyThroughout (ExpiredLease.Drawn env) (expireOne env) 0
    (db.expiredLeases env.now) db))

/-- The tables that `leaseCommands` selects from: those that `expireLeases` leaves. -/
def Db.afterExpiry (env : Env) (db : Db) : Db :=
  match (expireLeases env).eval db with
  | .ok (_, middle) => middle
  | .error _ => db

/-- `expireLeases` succeeds when the random values are new. -/
theorem Db.Leasable.expireLeases_runs (leasable : db.Leasable) (within : host.SpacesWithin)
    (clock : env.now ≤ dateLimit) (drawn : db.ExpiriesDrawn env) :
    (expireLeases env).eval db = .ok ((), db.afterExpiry env) ∧
      (db.afterExpiry env).Leasable := by
  obtain ⟨results, middle, ran, last⟩ := Tx.forEach_succeeds
    (fun remaining db => db.Expires env.now remaining ∧ db.Leasable)
    (fun index row rest before both ready => by
      have selected := (both.1.selected row).mpr List.mem_cons_self
      obtain ⟨after, ranOne, expires⟩ := both.2.expireOne_runs within clock selected ready
      exact ⟨(), after, ranOne, both.1.tail expires, both.2.change (.expiry expires)⟩)
    ⟨leasable.sound.expires env.now, leasable⟩ drawn
  have expired : (expireLeases env).eval db = .ok ((), middle) :=
    expireLeases_ok.mpr ⟨results, ran⟩
  have same : db.afterExpiry env = middle := by
    rw [Db.afterExpiry, expired]
  rw [same]
  exact ⟨expired, last.2⟩

end Expiry

/-! ### Leases that are granted -/

/-- The random values of a grant are stored nowhere. -/
structure LeasableCommand.Drawn (env : Env) (input : LeaseInput) (index : Nat)
    (row : LeasableCommand) (db : Db) : Prop where
  lease : ∀ other ∈ db.leases, other.id ≠ (env.grants index).row.text
  token : ∀ other ∈ db.leases, other.tokenHash ≠
    hashToken ("ref:lease-token:" ++ (env.grants index).token.text)
  attempt : ∀ other ∈ db.attempts, other.id ≠ (env.grants index).attempt.text
  event : (row.event (input.granted env index row.command db)).Drawn (env.grants index) env.now
    db.journal

instance (env : Env) (input : LeaseInput) (index : Nat) (row : LeasableCommand) (db : Db) :
    Decidable (row.Drawn env input index db) :=
  decidable_of_iff
    ((∀ other ∈ db.leases, other.id ≠ (env.grants index).row.text) ∧
      (∀ other ∈ db.leases, other.tokenHash ≠
        hashToken ("ref:lease-token:" ++ (env.grants index).token.text)) ∧
      (∀ other ∈ db.attempts, other.id ≠ (env.grants index).attempt.text) ∧
      (row.event (input.granted env index row.command db)).Drawn (env.grants index) env.now
        db.journal)
    ⟨fun ⟨lease, token, attempt, event⟩ => ⟨lease, token, attempt, event⟩,
      fun drawn => ⟨drawn.lease, drawn.token, drawn.attempt, drawn.event⟩⟩

/-- The command lives on past the second of the clock in which it ends: its end, cut to
whole seconds, is still to come. -/
def CommandRow.Outlasts (command : CommandRow) (now : Nat) : Prop :=
  now < ofMillis (dateParseColumn command.expiresAt)

instance (command : CommandRow) (now : Nat) : Decidable (command.Outlasts now) :=
  inferInstanceAs (Decidable (now < ofMillis (dateParseColumn command.expiresAt)))

/-- A lease lasts exactly when its command outlasts the clock. -/
theorem lt_leaseExpiry_iff {now seconds : Nat} {command : CommandRow} (long : 15 ≤ seconds) :
    now < leaseExpiry now seconds command ↔ command.Outlasts now := by
  have soon : now < ofMillis (dateNow now + seconds * 1000) := by
    unfold ofMillis dateNow
    omega
  unfold leaseExpiry CommandRow.Outlasts
  constructor
  · intro lasts
    exact lt_of_lt_of_le lasts (Nat.mul_le_mul_right 1000 (Nat.min_le_right _ _))
  · intro outlasts
    rcases Nat.le_total (dateNow now + seconds * 1000) (dateParseColumn command.expiresAt) with
      first | second
    · rw [Nat.min_eq_left first]
      exact soon
    · rw [Nat.min_eq_right second]
      exact outlasts

theorem LeaseInput.boundedSeconds_ge (input : LeaseInput) : 15 ≤ input.boundedSeconds :=
  Nat.le_max_left _ _

section Grants

variable [host : Host] {env : Env} {input : LeaseInput} {index : Nat} {row : LeasableCommand}
  {db : Db}

/-- A due command that outlasts the clock is leased when the random values are new. -/
theorem Db.Leasable.leaseOne_runs (leasable : db.Leasable) (within : host.SpacesWithin)
    (clock : env.now ≤ dateLimit) (due : row ∈ db.dueCommands env.now input)
    (drawn : row.Drawn env input index db) (outlasts : row.command.Outlasts env.now) :
    ∃ result db' lease, (leaseOne env input index row).eval db = .ok (result, db') ∧
      LeasesCommand env input index row lease db db' := by
  obtain ⟨member, -, -, clauses⟩ := Db.mem_dueCommands.mp due
  let lease := input.granted env index row.command db
  have numbers : ∀ other ∈ db.attempts, other.commandId = row.command.id →
      other.attempt < db.nextAttempt row.command.id := by
    intro other otherMem own
    have stored : other ∈ db.attemptsOf row.command.id :=
      List.mem_filter.mpr ⟨otherMem, decide_eq_true own⟩
    exact Nat.lt_succ_of_le (le_maxOf (List.mem_map_of_mem stored))
  have leaseEntry : LeaseEntry db lease :=
    { attempt_pos := Nat.succ_pos _
      lasts := (lt_leaseExpiry_iff input.boundedSeconds_ge).mpr outlasts
      id_new := drawn.lease
      token_new := drawn.token
      attempt_new := by
        intro other otherMem own
        -- The leases of a command are numbered as its attempts are.
        have numbered : other.attempt ∈ (db.attemptsOf row.command.id).map AttemptRow.attempt := by
          rw [leasable.fenced.attempts]
          exact List.mem_map_of_mem (Db.mem_leasesOf.mpr ⟨otherMem, own⟩)
        obtain ⟨attempt, attemptMem, same⟩ := List.mem_map.mp numbered
        obtain ⟨stored, attemptOwn⟩ := List.mem_filter.mp attemptMem
        rw [← same]
        exact Nat.ne_of_lt (numbers attempt stored (of_decide_eq_true attemptOwn))
      one_active := by
        intro other otherMem own active
        obtain ⟨command, commandMem, holds⟩ := leasable.fenced.holds other otherMem active
        have same := leasable.sound.commands.eq_of_key_eq commandMem member
          (holds.command_id.trans own)
        have held := holds.held
        rw [same, clauses.queued] at held
        cases held }
  have attemptEntry : AttemptEntry db
      (leasedAttempt (env.grants index).attempt row.command.id lease.attempt) :=
    { attempt_pos := Nat.succ_pos _
      id_new := drawn.attempt
      attempt_new := fun other otherMem own => Nat.ne_of_lt (numbers other otherMem own) }
  have repeated : assertSafeControlPayload "outbox.body" ((row.event lease).repeated env.now) =
      .ok () := by
    refine EventInput.repeated_ok clock (leasable.deployments row.command member)
      (by simp [LeasableCommand.event]) ?_ rfl rfl
    intro text named
    rw [← Option.mem_some.mp named]
    simp
  have free : db.journal.KeyFree (row.event lease).organizationId
      (row.event lease).idempotencyKey := by
    intro event eventMem _ key
    obtain ⟨other, otherMem, same⟩ :=
      leasable.keys.granted event eventMem (env.grants index).row key
    exact drawn.lease other otherMem same
  obtain ⟨event, outbox, audit, entry⟩ :=
    exists_eventEntry.mpr ⟨EventInput.Drawn.fits within drawn.event repeated, free⟩
  have grants : GrantsLease env input index row lease db
      (db.grantLease lease
        (leasedAttempt (env.grants index).attempt row.command.id lease.attempt)
        (db.journal.withEvent event outbox audit)) :=
    { lease_eq := rfl
      leaseEntry := leaseEntry
      attemptEntry := attemptEntry
      journal := ⟨event, outbox, audit, entry, rfl⟩
      after := rfl }
  exact ⟨_, _, lease, leaseOne_ok.mpr ⟨lease, grants, rfl⟩, due, grants⟩

/-- A due command in the last second of its life fails the check of its lease. -/
theorem leaseOne_overdue (overdue : ¬row.command.Outlasts env.now) :
    (leaseOne env input index row).eval db =
      .error (.violation "control_command_leases_check") := by
  have ends : ¬env.now < leaseExpiry env.now input.boundedSeconds row.command :=
    fun lasts => overdue ((lt_leaseExpiry_iff input.boundedSeconds_ge).mp lasts)
  have rejected : ∀ attempt, (insertLease (input.leaseRow (env.grants index) env.now row.command
      (attempt + 1))).eval db = .error (.violation "control_command_leases_check") := by
    intro attempt
    simp [insertLease, Tx.insert, Tx.eval, LeaseInput.leaseRow, ends]
  rw [leaseOne, Tx.eval_read_bind]
  exact Tx.eval_bind_error.mpr (.inl (rejected _))

end Grants

/-! ### Calls that lease every command -/

/-- A lease that a call grants to a command. -/
structure LeasableCommand.Grants (env : Env) (input : LeaseInput) (row : LeasableCommand)
    (lease : LeaseRow) : Prop where
  command : lease.commandId = row.command.id
  issued : lease.issuedAt = env.now
  lasts : lease.issuedAt < lease.expiresAt
  expires : lease.expiresAt = leaseExpiry env.now input.boundedSeconds row.command

/-- The rows that `leaseCommands` selects. -/
def Db.selected [Host] (env : Env) (input : LeaseInput) (db : Db) : List LeasableCommand :=
  (db.afterExpiry env).leasableCommands env.now input

/-- The lease is stored by a call that leads from one state of the tables to another. -/
def Db.Issues (db db' : Db) (lease : LeaseRow) : Prop :=
  lease ∈ db'.leases ∧ ∀ old ∈ db.leases, old.id ≠ lease.id

/-- The constraints of `control_command_leases`. -/
def leaseConstraints : List String :=
  ["control_command_leases_attempt_check", "control_command_leases_check",
    "control_command_leases_pkey", "control_command_leases_token_hash_key",
    "control_command_leases_command_id_attempt_key", "control_command_leases_one_active_idx"]

/-- The random values of the call are stored nowhere. -/
structure LeaseInput.Drawn [Host] (env : Env) (input : LeaseInput) (db : Db) : Prop where
  expiries : db.ExpiriesDrawn env
  grants : Tx.ReadyThroughout (LeasableCommand.Drawn env input) (leaseOne env input) 0
    (db.selected env input) (db.afterExpiry env)

/-- The call violates no constraint of the leases, the leases that it issues lie within the
life of their commands, and it leases all the commands that it selects. -/
structure LeaseInput.LeasesAll [Host] (env : Env) (input : LeaseInput) (db : Db) : Prop where
  unviolated : ∀ constraint ∈ leaseConstraints,
    ((leaseCommands env input).inTransaction none db).1 ≠ .error (.raised (.violation constraint))
  fitting : ∀ lease, db.Issues ((leaseCommands env input).inTransaction none db).2 lease →
    ∃ row ∈ db.selected env input, lease.commandId = row.command.id ∧
      lease.issuedAt < lease.expiresAt ∧ lease.expiresAt ≤ row.command.expiresAt
  answered : ∃ results, ((leaseCommands env input).inTransaction none db).1 = .ok results ∧
    results.map LeasedCommand.command = (db.selected env input).map LeasableCommand.command
  leased : ∀ row ∈ db.selected env input, ∃ lease,
    db.Issues ((leaseCommands env input).inTransaction none db).2 lease ∧
      lease.commandId = row.command.id

/-- The rows are leased by these leases, which are none of the old ones. -/
structure LeaseInput.GrantsAll (env : Env) (input : LeaseInput) (rows : List LeasableCommand)
    (granted old : List LeaseRow) : Prop where
  rows_leased : ∀ row ∈ rows, ∃ lease ∈ granted, row.Grants env input lease
  all_granted : ∀ lease ∈ granted, ∃ row ∈ rows, row.Grants env input lease
  new : ∀ lease ∈ granted, ∀ other ∈ old, other.id ≠ lease.id

theorem LeaseInput.GrantsAll.snoc {env : Env} {input : LeaseInput}
    {rows : List LeasableCommand} {granted old : List LeaseRow} {row : LeasableCommand}
    {lease : LeaseRow} (all : input.GrantsAll env rows granted old)
    (grants : row.Grants env input lease) (new : ∀ other ∈ old, other.id ≠ lease.id) :
    input.GrantsAll env (rows ++ [row]) (granted ++ [lease]) old := by
  constructor
  · intro other member
    rcases List.mem_append.mp member with earlier | latest
    · obtain ⟨given, givenMem, fits⟩ := all.rows_leased other earlier
      exact ⟨given, List.mem_append_left _ givenMem, fits⟩
    · rw [List.mem_singleton.mp latest]
      exact ⟨lease, List.mem_append_right _ List.mem_cons_self, grants⟩
  · intro other member
    rcases List.mem_append.mp member with earlier | latest
    · obtain ⟨leased, leasedMem, fits⟩ := all.all_granted other earlier
      exact ⟨leased, List.mem_append_left _ leasedMem, fits⟩
    · rw [List.mem_singleton.mp latest]
      exact ⟨row, List.mem_append_right _ List.mem_cons_self, grants⟩
  · intro other member
    rcases List.mem_append.mp member with earlier | latest
    · exact all.new other earlier
    · rw [List.mem_singleton.mp latest]
      exact new

section Calls

variable [host : Host] {env : Env} {input : LeaseInput} {db : Db}

/-- The expiry of leases changes the id of none. -/
theorem expireLeases_lease_ids {db' : Db} (sound : db.Sound)
    (ran : (expireLeases env).eval db = .ok ((), db')) :
    db'.leases.map LeaseRow.id = db.leases.map LeaseRow.id := by
  refine keeps_of_chain (fun reached => reached.leases.map LeaseRow.id = db.leases.map LeaseRow.id)
    (fun before after same step => ?_) (expireLeases_chain sound ran).1 rfl
  obtain ⟨index, row, expires⟩ := step
  have ended : after.leases =
      updateWhere (fun other => other.id = row.lease.id) LeaseRow.expire before.leases := by
    rw [expires.after]
    rfl
  rw [ended]
  have kept : ∀ lease : LeaseRow, lease.expire.id = lease.id := fun _ => rfl
  exact (map_updateWhere kept).trans same

/-- The loop of `leaseCommands` grants a new lease for each of its commands. -/
theorem grants_of_forEach {rows : List LeasableCommand} {results : List LeasedCommand}
    {final : Db} (ran : (Tx.forEach 0 rows (leaseOne env input)).eval db = .ok (results, final)) :
    ∃ granted, final.leases = db.leases ++ granted ∧
      input.GrantsAll env rows granted db.leases ∧
      results.map LeasedCommand.command = rows.map LeasableCommand.command := by
  have start : input.GrantsAll env [] [] db.leases := by
    constructor <;> simp
  have last := Tx.forEach_rule
    (fun items (earlier : List LeasedCommand) store => ∃ leased granted, rows = leased ++ items ∧
      store.leases = db.leases ++ granted ∧ input.GrantsAll env leased granted db.leases ∧
      earlier.map LeasedCommand.command = leased.map LeasableCommand.command)
    (fun index row items earlier store result store' before ranOne => by
      obtain ⟨leased, granted, split, leases, all, commands⟩ := before
      obtain ⟨lease, grants, rfl⟩ := leaseOne_ok.mp ranOne
      have entry := grants.leaseEntry
      have grantsLease : row.Grants env input lease := by
        refine ⟨?_, ?_, entry.lasts, ?_⟩ <;> rw [grants.lease_eq] <;> rfl
      have added : store'.leases = store.leases ++ [lease] := by
        rw [grants.after]
        rfl
      refine ⟨leased ++ [row], granted ++ [lease], by rw [split, List.append_assoc]; rfl,
        by rw [added, leases, List.append_assoc], all.snoc grantsLease ?_,
        by rw [List.map_append, List.map_append, commands]; rfl⟩
      intro old oldMem
      exact entry.id_new old (leases ▸ List.mem_append_left _ oldMem))
    ⟨[], [], rfl, (List.append_nil _).symm, start, by rw [List.map_nil, List.map_nil]⟩ ran
  obtain ⟨leased, granted, split, leases, all, commands⟩ := last
  rw [List.append_nil] at split
  rw [List.nil_append] at commands
  rw [split]
  exact ⟨granted, leases, all, commands⟩

/-- A call that succeeds leases every command that it selects, and each of them outlasts the
clock. -/
theorem leasesAll_of_ok {results : List LeasedCommand} {final : Db} (sound : db.Sound)
    (ran : (leaseCommands env input).eval db = .ok (results, final)) :
    input.LeasesAll env db ∧
      ∀ row ∈ db.selected env input, row.command.Outlasts env.now := by
  obtain ⟨middle, expired, ranGrants⟩ := leaseCommands_ok.mp ran
  have same : db.afterExpiry env = middle := by
    rw [Db.afterExpiry, expired]
  have ids := expireLeases_lease_ids sound expired
  obtain ⟨granted, leases, all, commands⟩ := grants_of_forEach ranGrants
  have selected : db.selected env input = middle.leasableCommands env.now input := by
    rw [Db.selected, same]
  have outcome : (leaseCommands env input).inTransaction none db = (.ok results, final) :=
    Tx.inTransaction_none_ok ran
  have isNew : ∀ lease ∈ granted, ∀ old ∈ db.leases, old.id ≠ lease.id := by
    intro lease member old oldMem sameId
    obtain ⟨later, laterMem, laterId⟩ := List.mem_map.mp (ids ▸ List.mem_map_of_mem oldMem)
    exact all.new lease member later laterMem (laterId.trans sameId)
  refine ⟨⟨?_, ?_, ?_, ?_⟩, ?_⟩
  · intro constraint _ failed
    rw [outcome] at failed
    cases failed
  · rintro lease ⟨member, unknown⟩
    rw [outcome] at member
    rw [leases] at member
    rcases List.mem_append.mp member with old | isGranted
    · obtain ⟨earlier, earlierMem, earlierId⟩ :=
        List.mem_map.mp (ids ▸ List.mem_map_of_mem old)
      exact absurd earlierId (unknown earlier earlierMem)
    · obtain ⟨row, rowMem, grants⟩ := all.all_granted lease isGranted
      refine ⟨row, selected ▸ rowMem, grants.command, grants.lasts, ?_⟩
      rw [grants.expires]
      exact Db.Fenced.leaseExpiry_le env.now input.boundedSeconds row.command
  · rw [outcome, selected]
    exact ⟨results, rfl, commands⟩
  · intro row rowMem
    rw [selected] at rowMem
    obtain ⟨lease, leaseMem, grants⟩ := all.rows_leased row rowMem
    rw [outcome]
    exact ⟨lease, ⟨leases ▸ List.mem_append_right _ leaseMem, isNew lease leaseMem⟩,
      grants.command⟩
  · intro row rowMem
    rw [selected] at rowMem
    obtain ⟨lease, leaseMem, grants⟩ := all.rows_leased row rowMem
    have lasts := grants.lasts
    rw [grants.issued, grants.expires] at lasts
    exact (lt_leaseExpiry_iff input.boundedSeconds_ge).mp lasts

/-- A call that leases all the commands that it selects comes before the ends of their lives. -/
theorem LeaseInput.LeasesAll.outlasts (all : input.LeasesAll env db)
    (reachable : Reachable controlAuthority db) :
    ∀ row ∈ db.selected env input, row.command.Outlasts env.now := by
  obtain ⟨results, answered, -⟩ := all.answered
  have ran := Tx.inTransaction_ok (Prod.ext_iff.mpr ⟨answered, rfl⟩)
  exact (leasesAll_of_ok (authority_leasable reachable).sound ran).2

/-- The loop of `leaseCommands` goes through a command that outlasts the clock. -/
theorem Db.Leasable.leaseOne_continues {index : Nat} {row : LeasableCommand}
    {rest : List LeasableCommand} (within : host.SpacesWithin) (clock : env.now ≤ dateLimit)
    (both : db.Offers env.now input (row :: rest) ∧ db.Leasable)
    (drawn : row.Drawn env input index db) (outlasts : row.command.Outlasts env.now) :
    ∃ result db', (leaseOne env input index row).eval db = .ok (result, db') ∧
      db'.Offers env.now input rest ∧ db'.Leasable := by
  obtain ⟨result, db', lease, ran, leases⟩ := both.2.leaseOne_runs within clock
    (both.1.due row List.mem_cons_self) drawn outlasts
  exact ⟨result, db', ran, both.1.tail leases, both.2.change (.lease leases)⟩

/-- A call with new random values succeeds when every command that it selects outlasts the
clock. -/
theorem Db.Leasable.leaseCommands_runs (leasable : db.Leasable) (within : host.SpacesWithin)
    (clock : env.now ≤ dateLimit) (drawn : input.Drawn env db)
    (outlast : ∀ row ∈ db.selected env input, row.command.Outlasts env.now) :
    ∃ results final, (leaseCommands env input).eval db = .ok (results, final) := by
  obtain ⟨expired, middle⟩ := leasable.expireLeases_runs within clock drawn.expiries
  obtain ⟨results, final, ran, -⟩ := Tx.forEach_succeeds
    (fun remaining reached => (reached.Offers env.now input remaining ∧ reached.Leasable) ∧
      ∀ row ∈ remaining, row.command.Outlasts env.now)
    (fun index row rest before both ready => by
      obtain ⟨result, after, ranOne, next⟩ := Db.Leasable.leaseOne_continues within clock both.1
        ready (both.2 row List.mem_cons_self)
      exact ⟨result, after, ranOne, next,
        fun other member => both.2 other (List.mem_cons_of_mem _ member)⟩)
    ⟨⟨middle.sound.offers env.now input, middle⟩, outlast⟩ drawn.grants
  exact ⟨results, final, leaseCommands_ok.mpr ⟨_, expired, ran⟩⟩

/-- A call with new random values fails on the check of the leases as soon as it selects one
command that does not outlast the clock. -/
theorem Db.Leasable.leaseCommands_fails (leasable : db.Leasable) (within : host.SpacesWithin)
    (clock : env.now ≤ dateLimit) (drawn : input.Drawn env db)
    (overdue : ∃ row ∈ db.selected env input, ¬row.command.Outlasts env.now) :
    (leaseCommands env input).inTransaction none db =
      (.error (.raised (.violation "control_command_leases_check")), db) := by
  obtain ⟨expired, middle⟩ := leasable.expireLeases_runs within clock drawn.expiries
  have failed := Tx.forEach_fails
    (fun remaining reached => reached.Offers env.now input remaining ∧ reached.Leasable)
    (fun row => ¬row.command.Outlasts env.now)
    (fun index row rest before both ready fine =>
      Db.Leasable.leaseOne_continues within clock both ready (not_not.mp fine))
    (fun _ _ _ bad => leaseOne_overdue bad)
    ⟨middle.sound.offers env.now input, middle⟩ drawn.grants overdue
  apply Tx.inTransaction_none_error
  refine Tx.eval_bind_error.mpr (.inr ⟨(), _, expired, ?_⟩)
  rw [Tx.eval_read_bind]
  exact failed

/-- In every reachable state, with random values that are stored nowhere: a call violates no
constraint of the leases, issues only leases that lie within the life of their commands, and
leases every command that it selects, exactly when the end of each of these commands, cut to
whole seconds, is still to come. Otherwise it fails on the check of the leases, and leases
none of them. -/
theorem leases_all_iff (within : host.SpacesWithin) (reachable : Reachable controlAuthority db)
    (clock : env.now ≤ dateLimit) (drawn : input.Drawn env db) :
    (input.LeasesAll env db ↔
      ∀ row ∈ db.selected env input,
        env.now < ofMillis (dateParseColumn row.command.expiresAt)) ∧
      (¬input.LeasesAll env db → (leaseCommands env input).inTransaction none db =
        (.error (.raised (.violation "control_command_leases_check")), db)) := by
  have leasable := authority_leasable reachable
  have outlast_iff : input.LeasesAll env db ↔
      ∀ row ∈ db.selected env input, row.command.Outlasts env.now := by
    constructor
    · intro all
      obtain ⟨results, answered, -⟩ := all.answered
      have ran := Tx.inTransaction_ok (Prod.ext_iff.mpr ⟨answered, rfl⟩)
      exact (leasesAll_of_ok leasable.sound ran).2
    · intro outlast
      obtain ⟨results, final, ran⟩ := leasable.leaseCommands_runs within clock drawn outlast
      exact (leasesAll_of_ok leasable.sound ran).1
  refine ⟨outlast_iff, fun fails => ?_⟩
  apply leasable.leaseCommands_fails within clock drawn
  by_contra none_overdue
  apply fails
  apply outlast_iff.mpr
  intro row member
  by_contra overdue
  exact none_overdue ⟨row, member, overdue⟩

end Calls

section Sample

attribute [local instance] Host.posix

/-- The random values of the next call are new, and the command outlasts its clock. -/
theorem sampleCreation_offers :
    (sampleDb.execute sampleCreation).2.ExpiriesDrawn (.numbered 1 599999999) ∧
      Tx.ReadyThroughout (LeasableCommand.Drawn (.numbered 1 599999999) sampleLease)
        (leaseOne (.numbered 1 599999999) sampleLease) 0
        ((sampleDb.execute sampleCreation).2.selected (.numbered 1 599999999) sampleLease)
        ((sampleDb.execute sampleCreation).2.afterExpiry (.numbered 1 599999999)) ∧
      ∀ row ∈ (sampleDb.execute sampleCreation).2.selected (.numbered 1 599999999) sampleLease,
        599999999 < ofMillis (dateParseColumn row.command.expiresAt) := by
  have known : (sampleDb.execute sampleCreation).2.ExpiriesDrawn (.numbered 1 599999999) ∧
      ((sampleDb.execute sampleCreation).2.selected (.numbered 1 599999999)
        sampleLease).length ≤ 1 ∧
      (∀ row ∈ (sampleDb.execute sampleCreation).2.selected (.numbered 1 599999999) sampleLease,
        LeasableCommand.Drawn (.numbered 1 599999999) sampleLease 0 row
          ((sampleDb.execute sampleCreation).2.afterExpiry (.numbered 1 599999999))) ∧
      ∀ row ∈ (sampleDb.execute sampleCreation).2.selected (.numbered 1 599999999) sampleLease,
        599999999 < ofMillis (dateParseColumn row.command.expiresAt) := by
    decide +kernel
  exact ⟨known.1, Tx.readyThroughout_single known.2.1 known.2.2.1, known.2.2.2⟩

/-- The command is leased a microsecond before the end of its life. -/
theorem leases_all_sample :
    sampleLease.LeasesAll (.numbered 1 599999999) (sampleDb.execute sampleCreation).2 :=
  have offers := sampleCreation_offers
  (leases_all_iff posix_spacesWithin (execute_reachable sampleDb_blank _) (by decide)
    ⟨offers.1, offers.2.1⟩).1.mpr offers.2.2

/-- Two commands of the agent, one of which ends half a second past a whole one. -/
def sampleQueue : List Call :=
  [callAt 0 1000000 (.createCommand (sampleCommand "command-1" 1000000 900000000)),
    callAt 1 1000000 (.createCommand (sampleCommand "command-2" 1000000 600500000))]

/-- In the last half second of the shorter command the call fails, and the other command is
not leased either. -/
theorem last_second_blocks_leases :
    Reachable controlAuthority (sampleDb.execute sampleQueue).2 ∧
      ¬sampleLease.LeasesAll (.numbered 2 600200000) (sampleDb.execute sampleQueue).2 := by
  refine ⟨execute_reachable sampleDb_blank _, fun all => ?_⟩
  have ends : ∃ row ∈ (sampleDb.execute sampleQueue).2.selected (.numbered 2 600200000) sampleLease,
      ¬600200000 < ofMillis (dateParseColumn row.command.expiresAt) := by
    decide +kernel
  obtain ⟨row, selected, ended⟩ := ends
  exact ended (all.outlasts (execute_reachable sampleDb_blank sampleQueue) row selected)

end Sample

end BairuiPlatform
