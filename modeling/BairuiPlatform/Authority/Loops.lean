/-
Module: BairuiPlatform.Authority.Loops
Purpose: The loops of expireLeases, leaseCommands and leaseOutbox take one elementary
  change for each row that their query selected.
Trusted boundary: none
Main exports: expireLeases_chain, leaseCommands_chain, leaseOutbox_chain
-/
import BairuiPlatform.Authority.Changes
import BairuiPlatform.Foundations.Transition

namespace BairuiPlatform

open Foundations Relation

/-! ### The expiry of leases -/

/-- The active leases that ran out, each with the tables around it. -/
structure Db.Expires (db : Db) (now : Nat) (remaining : List ExpiredLease) : Prop where
  sound : db.Sound
  keyed : Keyed (fun row : ExpiredLease => row.lease.id) remaining
  selected : ∀ row, row ∈ db.expiredLeases now ↔ row ∈ remaining

theorem Db.Sound.expires {db : Db} (sound : db.Sound) (now : Nat) :
    db.Expires now (db.expiredLeases now) where
  sound := sound
  keyed := by
    unfold Db.expiredLeases
    refine (sound.leases.filter _).filterMap fun lease joined same => ?_
    rw [(Db.joinedLease?_eq_some.mp same).1]
  selected _ := Iff.rfl

/-- The join of a lease of another command does not see that one lease ran out. -/
theorem Db.joinedLease?_expireLease {db : Db} {now : Nat} {row : ExpiredLease}
    {journal : Journal} {lease : LeaseRow} (other : lease.commandId ≠ row.lease.commandId) :
    (db.expireLease now row journal).joinedLease? lease = db.joinedLease? lease := by
  have command : (db.expireLease now row journal).commands.find?
      (fun candidate => candidate.id = lease.commandId) =
        db.commands.find? (fun candidate => candidate.id = lease.commandId) := by
    refine find?_updateWhere (fun candidate => ?_) fun candidate _ wanted => ?_
    · unfold CommandRow.afterLeaseExpiry
      split <;> rfl
    · simp only [decide_eq_true_eq] at wanted
      simpa [wanted] using other
  unfold Db.joinedLease?
  rw [command]
  rfl

/-- Once a lease ran out, the other selected leases are the selected ones. -/
theorem Db.mem_expiredLeases_expireLease {db : Db} {now : Nat} {row other : ExpiredLease}
    {journal : Journal} (sound : db.Sound) (selected : row ∈ db.expiredLeases now) :
    other ∈ (db.expireLease now row journal).expiredLeases now ↔
      other ∈ db.expiredLeases now ∧ other.lease.id ≠ row.lease.id := by
  obtain ⟨rowMem, rowActive, -, -⟩ := Db.mem_expiredLeases.mp selected
  have separate : ∀ lease ∈ db.leases, lease.state = .active → lease.id ≠ row.lease.id →
      lease.commandId ≠ row.lease.commandId := by
    intro lease member active apart same
    exact apart (congrArg LeaseRow.id
      (sound.one_active lease member row.lease rowMem active rowActive same))
  have mem_leases : other.lease ∈ (db.expireLease now row journal).leases →
      other.lease.state = .active → other.lease ∈ db.leases ∧ other.lease.id ≠ row.lease.id := by
    intro member active
    rcases mem_updateWhere.mp member with ⟨old, -, -, same⟩ | ⟨old, skipped⟩
    · rw [same] at active
      simp [LeaseRow.expire] at active
    · exact ⟨old, by simpa using skipped⟩
  rw [Db.mem_expiredLeases, Db.mem_expiredLeases]
  constructor
  · rintro ⟨member, active, expired, joined⟩
    obtain ⟨old, apart⟩ := mem_leases member active
    rw [Db.joinedLease?_expireLease (separate _ old active apart)] at joined
    exact ⟨⟨old, active, expired, joined⟩, apart⟩
  · rintro ⟨⟨old, active, expired, joined⟩, apart⟩
    refine ⟨mem_updateWhere.mpr (.inr ⟨old, by simpa using apart⟩), active, expired, ?_⟩
    rw [Db.joinedLease?_expireLease (separate _ old active apart)]
    exact joined

/-- One lease runs out under `expireLeases`. -/
def ExpiresOne [Host] (env : Env) (before after : Db) : Prop :=
  ∃ index row, ExpiresLease env index row before after

/-- Once the first of the leases ran out, the others are left. -/
theorem Db.Expires.tail [Host] {env : Env} {index : Nat} {row : ExpiredLease}
    {rest : List ExpiredLease} {before after : Db}
    (expires : before.Expires env.now (row :: rest))
    (step : ExpiresLease env index row before after) : after.Expires env.now rest := by
  obtain ⟨apart, keyed⟩ := Keyed.cons.mp expires.keyed
  refine ⟨expires.sound.expiresLease step, keyed, fun other => ?_⟩
  rw [step.after, Db.mem_expiredLeases_expireLease expires.sound step.selected,
    expires.selected, List.mem_cons]
  constructor
  · rintro ⟨rfl | member, other⟩
    · exact absurd rfl other
    · exact member
  · intro member
    exact ⟨.inr member, apart other member⟩

/-- `expireLeases` takes one change for each active lease that ran out, and leaves none. -/
theorem expireLeases_chain [Host] {env : Env} {db db' : Db} {answer : Unit} (sound : db.Sound)
    (ran : (expireLeases env).eval db = .ok (answer, db')) :
    ReflTransGen (ExpiresOne env) db db' ∧ db'.expiredLeases env.now = [] := by
  obtain ⟨results, ran⟩ := expireLeases_ok.mp ran
  have chain : ReflTransGen (ExpiresOne env) db db' ∧ db'.Expires env.now [] := Tx.forEach_leads
    (fun remaining db => db.Expires env.now remaining)
    (fun index row rest before _ after expires ranOne => by
      obtain ⟨journal, appends, rfl⟩ := expireOne_ok.mp ranOne
      have selected := (expires.selected row).mpr List.mem_cons_self
      have step : ExpiresLease env index row before
          (before.expireLease env.now row journal) := ⟨selected, appends, rfl⟩
      exact ⟨⟨index, row, step⟩, expires.tail step⟩)
    (sound.expires env.now) ran
  exact ⟨chain.1, List.eq_nil_iff_forall_not_mem.mpr fun row member =>
    List.not_mem_nil ((chain.2.selected row).mp member)⟩

/-- `expireLeases` keeps the keys of the tables. -/
theorem Db.Sound.expireLeases [Host] {env : Env} {db db' : Db} {answer : Unit}
    (sound : db.Sound) (ran : (expireLeases env).eval db = .ok (answer, db')) : db'.Sound :=
  keeps_of_chain Db.Sound (fun _ _ sound ⟨_, _, expires⟩ => sound.expiresLease expires)
    (expireLeases_chain sound ran).1 sound

/-! ### The grants of leases -/

/-- The commands that are still to be leased are due. -/
structure Db.Offers (db : Db) (now : Nat) (input : LeaseInput)
    (remaining : List LeasableCommand) : Prop where
  sound : db.Sound
  keyed : Keyed (fun row : LeasableCommand => row.command.id) remaining
  due : ∀ row ∈ remaining, row ∈ db.dueCommands now input

theorem Db.Sound.dueCommands_keyed {db : Db} (sound : db.Sound) (now : Nat)
    (input : LeaseInput) :
    Keyed (fun row : LeasableCommand => row.command.id) (db.dueCommands now input) := by
  refine sound.commands.filterMap fun command joined same => ?_
  simp only [Option.map_eq_some_iff] at same
  obtain ⟨deployment, -, rfl⟩ := same
  rfl

theorem Db.Sound.offers {db : Db} (sound : db.Sound) (now : Nat) (input : LeaseInput) :
    db.Offers now input (db.leasableCommands now input) where
  sound := sound
  keyed := (sound.dueCommands_keyed now input).take_insertionSort _ _
  due _ member :=
    (List.mem_insertionSort _).mp (List.mem_of_mem_take member)

/-- A lease of one command leaves the other commands due. -/
theorem Db.mem_dueCommands_grantLease {db : Db} {now : Nat} {input : LeaseInput}
    {row : LeasableCommand} {lease : LeaseRow} {attempt : AttemptRow} {journal : Journal}
    (due : row ∈ db.dueCommands now input) (other : row.command.id ≠ lease.commandId) :
    row ∈ (db.grantLease lease attempt journal).dueCommands now input := by
  rw [Db.mem_dueCommands] at due ⊢
  obtain ⟨member, joined, covers, clauses⟩ := due
  exact ⟨mem_updateWhere.mpr (.inr ⟨member, by simpa using other⟩), joined, covers,
    ⟨clauses.action, clauses.queued, clauses.started, clauses.alive, clauses.approved⟩⟩

/-- Once the first of the commands is leased, the others are due. -/
theorem Db.Offers.tail [Host] {env : Env} {input : LeaseInput} {index : Nat}
    {row : LeasableCommand} {rest : List LeasableCommand} {lease : LeaseRow} {before after : Db}
    (offers : before.Offers env.now input (row :: rest))
    (leases : LeasesCommand env input index row lease before after) :
    after.Offers env.now input rest := by
  obtain ⟨apart, keyed⟩ := Keyed.cons.mp offers.keyed
  refine ⟨offers.sound.leasesCommand leases, keyed, fun other member => ?_⟩
  rw [leases.grants.after]
  refine Db.mem_dueCommands_grantLease (offers.due other (List.mem_cons_of_mem _ member)) ?_
  rw [leases.grants.lease_eq]
  exact apart other member

/-- One command is leased under `leaseCommands`. -/
def GrantsOne [Host] (env : Env) (input : LeaseInput) (before after : Db) : Prop :=
  ∃ index row lease, LeasesCommand env input index row lease before after

/-- `leaseCommands` lets every lease that ran out expire, and then grants one lease for
each command that its query selected. -/
theorem leaseCommands_chain [Host] {env : Env} {input : LeaseInput} {db db' : Db}
    {result : List LeasedCommand} (sound : db.Sound)
    (ran : (leaseCommands env input).eval db = .ok (result, db')) :
    ∃ middle, (expireLeases env).eval db = .ok ((), middle) ∧
      ReflTransGen (GrantsOne env input) middle db' := by
  obtain ⟨middle, expired, ran⟩ := leaseCommands_ok.mp ran
  refine ⟨middle, expired, ?_⟩
  refine (Tx.forEach_leads (fun remaining db => db.Offers env.now input remaining)
    (fun index row rest before _ after offers ranOne => ?_)
    ((sound.expireLeases expired).offers env.now input) ran).1
  obtain ⟨lease, grants, -⟩ := leaseOne_ok.mp ranOne
  have leases : LeasesCommand env input index row lease before after :=
    ⟨offers.due row List.mem_cons_self, grants⟩
  exact ⟨⟨index, row, lease, leases⟩, offers.tail leases⟩

/-! ### The leases of outbox entries -/

/-- The entries that are still to be leased are ready. -/
structure Journal.Offers (journal : Journal) (now : Nat) (remaining : List OutboxRow) :
    Prop where
  keyed : Keyed OutboxRow.id remaining
  ready : ∀ row ∈ remaining, row ∈ journal.outbox ∧ row.ready now = true

/-- A change of the outbox alone. -/
def ChangesOutbox (now : Nat) (before after : Db) : Prop :=
  OutboxChange now before.journal after.journal ∧
    after = { before with journal := after.journal }

/-- `leaseOutbox` releases the entries whose publisher is gone, and then holds each entry
that its query selected. -/
theorem leaseOutbox_chain {env : Env} {input : OutboxLeaseInput} {db db' : Db}
    {result : List LeasedOutbox} (sound : db.Sound)
    (ran : (leaseOutbox env input).eval db = .ok (result, db')) :
    ReflTransGen (ChangesOutbox env.now) db db' := by
  simp only [leaseOutbox, Tx.eval_read_bind, Tx.eval_write_bind] at ran
  have released : ChangesOutbox env.now db
      { db with
        journal.outbox := updateWhere (fun row => row.lapsed env.now)
          (fun row => row.released env.now) db.journal.outbox } := ⟨.reclaim, rfl⟩
  refine .head released ?_
  refine (Tx.forEach_leads
    (fun remaining db => db.journal.Offers env.now remaining)
    (fun index row rest before _ after offers ranOne => ?_) ⟨?_, ?_⟩ ran).1
  · simp only [leaseOutboxOne, Tx.eval_bind_ok, updateOutbox_ok, Tx.eval_pure, Except.ok.injEq,
      Prod.mk.injEq] at ranOne
    obtain ⟨_, _, ⟨rfl, -⟩, -, rfl⟩ := ranOne
    obtain ⟨apart, keyed⟩ := Keyed.cons.mp offers.keyed
    obtain ⟨rowMem, rowReady⟩ := offers.ready row List.mem_cons_self
    refine ⟨⟨.hold rowMem rowReady (input.lasts env.now), rfl⟩, keyed, fun other member => ?_⟩
    obtain ⟨otherMem, otherReady⟩ := offers.ready other (List.mem_cons_of_mem _ member)
    exact ⟨mem_updateWhere.mpr (.inr ⟨otherMem, by simpa using apart other member⟩), otherReady⟩
  · unfold Db.readyOutbox
    refine Keyed.take_insertionSort (Keyed.filter ?_ _) _ _
    exact sound.outbox.update fun _ => rfl
  · intro row member
    have selected := (List.mem_insertionSort _).mp (List.mem_of_mem_take member)
    exact ⟨(List.mem_filter.mp selected).1, (List.mem_filter.mp selected).2⟩

end BairuiPlatform
