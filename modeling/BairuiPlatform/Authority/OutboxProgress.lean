/-
Module: BairuiPlatform.Authority.OutboxProgress
Purpose: Every outbox entry with an attempt left is returned by some later call of
  leaseOutbox, and one that lost its last attempt by none.
Trusted boundary: none
Main exports: leaseOutbox_drains, Db.Sound.returns, Db.Sound.not_returns_of_lost,
  outbox_accounted_iff
-/
import BairuiPlatform.Authority.Execution
import BairuiPlatform.Authority.OutboxDelivery

namespace BairuiPlatform

open Foundations Relation

/-! ### Entries that some call returns -/

/-- The tables after `leaseOutbox` released the entries whose publisher is gone. -/
def Db.reclaimed (db : Db) (now : Nat) : Db :=
  { db with
    journal.outbox := updateWhere (fun row => row.lapsed now) (fun row => row.released now)
      db.journal.outbox }

/-- The state of the loop of `leaseOutbox`: which of the selected entries are still to
come, and what became of the others. -/
structure Drains (now : Nat) (start : List OutboxRow) (selected remaining : List OutboxRow)
    (answers : List LeasedOutbox) (current : List OutboxRow) : Prop where
  keyed : Keyed OutboxRow.id current
  remaining_keyed : Keyed OutboxRow.id remaining
  remaining_mem : ∀ row ∈ remaining, row ∈ selected ∧ row ∈ current
  returned : ∀ row ∈ selected, row ∈ remaining ∨
    ∃ leased ∈ answers, ∃ answered ∈ leased.row, answered.id = row.id
  answered : ∀ leased ∈ answers, ∀ answered ∈ leased.row, ∃ row ∈ selected,
    row.id = answered.id
  ready : ∀ row ∈ current, row.ready now = true →
    row ∈ start ∧ (row ∈ selected → row ∈ remaining)
  kept : ∀ row ∈ start, row ∉ selected → row ∈ current
  live : ∀ row ∈ current, row.lapsed now = false

theorem Drains.step {now : Nat} {start selected rest current : List OutboxRow}
    {answers : List LeasedOutbox} {row : OutboxRow} {tokenHash leaseToken : String}
    {leaseExpiresAt : Nat} (later : now < leaseExpiresAt)
    (drains : Drains now start selected (row :: rest) answers current) :
    Drains now start selected rest
      (answers ++ [{
        row := (updateWhere (fun other => other.id = row.id)
          (fun other => other.held tokenHash leaseExpiresAt) current).find?
            fun other => other.id = row.id
        leaseToken := leaseToken }])
      (updateWhere (fun other => other.id = row.id)
        (fun other => other.held tokenHash leaseExpiresAt) current) := by
  obtain ⟨apart, restKeyed⟩ := Keyed.cons.mp drains.remaining_keyed
  obtain ⟨rowSelected, rowMem⟩ := drains.remaining_mem row List.mem_cons_self
  have keyed : Keyed OutboxRow.id (updateWhere (fun other => other.id = row.id)
      (fun other => other.held tokenHash leaseExpiresAt) current) :=
    drains.keyed.update fun _ => rfl
  have foundRow := keyed.find?_eq_some.mpr
    ⟨mem_updateWhere.mpr (.inl ⟨row, rowMem, by simp, rfl⟩), rfl⟩
  rw [show (row.held tokenHash leaseExpiresAt).id = row.id from rfl] at foundRow
  have cases_mem : ∀ other ∈ updateWhere (fun other => other.id = row.id)
      (fun other => other.held tokenHash leaseExpiresAt) current,
      other = row.held tokenHash leaseExpiresAt ∨ (other ∈ current ∧ other.id ≠ row.id) := by
    intro other member
    rcases mem_updateWhere.mp member with ⟨old, oldMem, same, rfl⟩ | ⟨oldMem, skipped⟩
    · rw [drains.keyed.eq_of_key_eq oldMem rowMem (by simpa using same)]
      exact .inl rfl
    · exact .inr ⟨oldMem, by simpa using skipped⟩
  have stays : ∀ other ∈ current, other.id ≠ row.id →
      other ∈ updateWhere (fun other => other.id = row.id)
        (fun other => other.held tokenHash leaseExpiresAt) current := by
    intro other member different
    exact mem_updateWhere.mpr (.inr ⟨member, by simpa using different⟩)
  rw [foundRow]
  refine ⟨keyed, restKeyed, ?_, ?_, ?_, ?_, ?_, ?_⟩
  · intro other member
    obtain ⟨otherSelected, otherMem⟩ :=
      drains.remaining_mem other (List.mem_cons_of_mem _ member)
    exact ⟨otherSelected, stays other otherMem (apart other member)⟩
  · intro other member
    rcases drains.returned other member with waits | ⟨leased, leasedMem, answered, isRow, same⟩
    · rcases List.mem_cons.mp waits with rfl | later
      · exact .inr ⟨_, List.mem_append_right _ (List.mem_singleton_self _), _, rfl, rfl⟩
      · exact .inl later
    · exact .inr ⟨leased, List.mem_append_left _ leasedMem, answered, isRow, same⟩
  · intro leased leasedMem answered isRow
    rcases List.mem_append.mp leasedMem with old | new
    · exact drains.answered leased old answered isRow
    · obtain rfl := List.mem_singleton.mp new
      obtain rfl : row.held tokenHash leaseExpiresAt = answered := Option.some.inj isRow
      exact ⟨row, rowSelected, rfl⟩
  · intro other member ready
    rcases cases_mem other member with rfl | ⟨old, different⟩
    · simp [OutboxRow.ready, OutboxRow.held] at ready
    · obtain ⟨atStart, waits⟩ := drains.ready other old ready
      refine ⟨atStart, fun otherSelected => ?_⟩
      rcases List.mem_cons.mp (waits otherSelected) with rfl | later
      · exact absurd rfl different
      · exact later
  · intro other member unselected
    refine stays other (drains.kept other member unselected) fun same => unselected ?_
    rw [drains.keyed.eq_of_key_eq (drains.kept other member unselected) rowMem same]
    exact rowSelected
  · intro other member
    rcases cases_mem other member with rfl | ⟨old, -⟩
    · simpa [OutboxRow.lapsed, OutboxRow.held] using later
    · exact drains.live other old

/-- No entry is lapsed once the lapsed ones are released. -/
theorem Db.reclaimed_live {db : Db} {now : Nat} :
    ∀ row ∈ (db.reclaimed now).journal.outbox, row.lapsed now = false := by
  intro row member
  rcases mem_updateWhere.mp member with ⟨old, -, -, rfl⟩ | ⟨-, skipped⟩
  · simp [OutboxRow.lapsed, OutboxRow.released]
  · exact skipped

theorem Db.reclaimed_keyed {db : Db} {now : Nat} (keyed : Keyed OutboxRow.id db.journal.outbox) :
    Keyed OutboxRow.id (db.reclaimed now).journal.outbox :=
  keyed.update fun _ => rfl

/-- The rows that `leaseOutbox` selects are ready. -/
theorem Db.mem_readyOutbox {db : Db} {now : Nat} {input : OutboxLeaseInput} {row : OutboxRow}
    (selected : row ∈ db.readyOutbox now input) :
    row ∈ db.journal.outbox ∧ row.ready now = true :=
  List.mem_filter.mp ((List.mem_insertionSort _).mp (List.mem_of_mem_take selected))

/-- `leaseOutbox` holds and returns exactly the entries that it selected. -/
theorem leaseOutbox_drains [Host] {env : Env} {input : OutboxLeaseInput} {db db' : Db}
    {answers : List LeasedOutbox} (keyed : Keyed OutboxRow.id db.journal.outbox)
    (ran : (leaseOutbox env input).eval db = .ok (answers, db')) :
    Drains env.now (db.reclaimed env.now).journal.outbox
      ((db.reclaimed env.now).readyOutbox env.now input) [] answers db'.journal.outbox := by
  simp only [leaseOutbox, Tx.eval_read_bind, Tx.eval_write_bind] at ran
  have startKeyed : Keyed OutboxRow.id (db.reclaimed env.now).journal.outbox :=
    Db.reclaimed_keyed keyed
  refine @Tx.forEach_rule _ _ _ _ (leaseOutboxOne env input)
    (fun remaining answers current => Drains env.now (db.reclaimed env.now).journal.outbox
      ((db.reclaimed env.now).readyOutbox env.now input) remaining answers current.journal.outbox)
    (fun index row rest answers before answer after drains ranOne => ?_) _ 0 [] _ _ _ ?_ ran
  · simp only [leaseOutboxOne, Tx.eval_bind_ok, updateOutbox_ok, Tx.eval_pure, Except.ok.injEq,
      Prod.mk.injEq] at ranOne
    obtain ⟨_, _, ⟨rfl, rfl⟩, rfl, rfl⟩ := ranOne
    exact drains.step (input.lasts env.now)
  · refine ⟨startKeyed, ?_, ?_, ?_, by simp, ?_, ?_, Db.reclaimed_live⟩
    · exact (startKeyed.filter _).take_insertionSort _ _
    · intro row selected
      exact ⟨selected, (Db.mem_readyOutbox selected).1⟩
    · intro row selected
      exact .inl selected
    · intro row member _
      exact ⟨member, id⟩
    · intro row member _
      exact member

/-- A query that finds a ready entry selects one. -/
theorem Db.readyOutbox_ne_nil {db : Db} {now : Nat} {input : OutboxLeaseInput}
    {row : OutboxRow} (member : row ∈ db.journal.outbox) (ready : row.ready now = true) :
    db.readyOutbox now input ≠ [] := by
  have sorted : row ∈ (db.journal.outbox.filter fun row => row.ready now).insertionSort
      OutboxRow.le :=
    (List.mem_insertionSort _).mpr (List.mem_filter.mpr ⟨member, ready⟩)
  have limit : 1 ≤ input.boundedLimit := Nat.le_max_left _ _
  unfold Db.readyOutbox
  rw [Ne, List.take_eq_nil_iff, not_or]
  exact ⟨by omega, List.ne_nil_of_mem sorted⟩

/-- A loop that selected an entry leaves fewer entries ready. -/
theorem Drains.fewer_ready {now : Nat} {start selected current : List OutboxRow}
    {answers : List LeasedOutbox} (drains : Drains now start selected [] answers current)
    (some_selected : selected ≠ [])
    (included : ∀ row ∈ selected, row ∈ start ∧ row.ready now = true) :
    (current.filter (·.ready now)).length < (start.filter (·.ready now)).length := by
  obtain ⟨first, firstSelected⟩ := List.exists_mem_of_ne_nil selected some_selected
  have unready : first ∉ current.filter (·.ready now) := by
    intro member
    obtain ⟨inCurrent, ready⟩ := List.mem_filter.mp member
    exact List.not_mem_nil ((drains.ready first inCurrent ready).2 firstSelected)
  have distinct : (first :: current.filter (·.ready now)).Nodup :=
    List.nodup_cons.mpr ⟨unready, (drains.keyed.filter _).of_map _⟩
  have subset : first :: current.filter (·.ready now) ⊆ start.filter (·.ready now) := by
    intro row member
    rcases List.mem_cons.mp member with rfl | waits
    · exact List.mem_filter.mpr (included row firstSelected)
    · obtain ⟨inCurrent, ready⟩ := List.mem_filter.mp waits
      exact List.mem_filter.mpr ⟨(drains.ready row inCurrent ready).1, ready⟩
  exact (List.subperm_of_subset distinct subset).length_le

/-- `leaseOutbox` never fails. -/
theorem leaseOutbox_total [Host] (env : Env) (input : OutboxLeaseInput) (db : Db) :
    ∃ answers db', (leaseOutbox env input).eval db = .ok (answers, db') := by
  simp only [leaseOutbox, Tx.eval_read_bind, Tx.eval_write_bind]
  refine Tx.forEach_total (fun index row store => ⟨_, _, rfl⟩) _ _ _

/-- An entry that is ready at some instant from now on is returned: every call of
`leaseOutbox` leaves fewer entries before it. -/
theorem Db.returns_of_ready [Host] {now instant : Nat} {id : String} (later : now ≤ instant) :
    ∀ (count : Nat) (db : Db), db.Sound →
      (∃ row ∈ (db.reclaimed instant).journal.outbox, row.id = id ∧ row.ready instant = true) →
      ((db.reclaimed instant).journal.outbox.filter (·.ready instant)).length ≤ count →
      db.Returns now id := by
  intro count
  induction count with
  | zero =>
      intro db _ ⟨row, member, _, ready⟩ none
      have inFilter : row ∈ (db.reclaimed instant).journal.outbox.filter (·.ready instant) :=
        List.mem_filter.mpr ⟨member, ready⟩
      rw [List.eq_nil_of_length_eq_zero (Nat.le_zero.mp none)] at inFilter
      exact absurd inFilter List.not_mem_nil
  | succ count ih =>
      intro db sound ⟨row, member, named, ready⟩ counted
      obtain ⟨answers, after, ran⟩ := leaseOutbox_total (.numbered 0 instant) ⟨none, none⟩ db
      have drains : Drains instant (db.reclaimed instant).journal.outbox
          ((db.reclaimed instant).readyOutbox instant ⟨none, none⟩) [] answers
          after.journal.outbox := leaseOutbox_drains sound.outbox ran
      by_cases selected : row ∈ (db.reclaimed instant).readyOutbox instant ⟨none, none⟩
      · rcases drains.returned row selected with waits | ⟨leased, answered, other, isRow, same⟩
        · exact absurd waits List.not_mem_nil
        · exact ⟨db, .refl, .numbered 0 instant, ⟨none, none⟩, answers, after, later,
            Tx.inTransaction_none_ok ran, leased, answered, other, isRow, same.trans named⟩
      · have reclaimed : (after.reclaimed instant).journal.outbox = after.journal.outbox :=
          updateWhere_of_none drains.live
        have afterSound : after.Sound :=
          keeps_of_chain Db.Sound
            (fun _ _ sound ⟨change, eq⟩ => sound.change (.outbox change eq))
            (leaseOutbox_chain sound ran) sound
        have fewer := drains.fewer_ready
          (Db.readyOutbox_ne_nil member ready) fun _ => Db.mem_readyOutbox
        rw [← reclaimed] at fewer
        obtain ⟨last, leads, returns⟩ := ih after afterSound
          ⟨row, by rw [reclaimed]; exact drains.kept row member selected, named, ready⟩ (by omega)
        let call : Call :=
          { env := .numbered 0 instant, request := .leaseOutbox ⟨none, none⟩, fault := none }
        have taken : controlAuthority.step db call after := by
          show after = (call.execute db).2
          rw [show call.execute db = (.ok answers, after) from Tx.inTransaction_none_ok ran]
        exact ⟨last, .head ⟨call, later, taken⟩ leads, returns⟩

/-- A free entry with an attempt left is returned by some call from now on. -/
theorem Db.Sound.returns [Host] {db : Db} (sound : db.Sound) {now : Nat} {row : OutboxRow}
    (delivers : db.journal.Delivers) (safe : db.journal.AttemptsSafe now)
    (member : row ∈ db.journal.outbox) (free : row.Free now) : db.Returns now row.id := by
  let instant := max now row.availableAt
  have later : now ≤ instant := Nat.le_max_left _ _
  have available : row.availableAt ≤ instant := Nat.le_max_right _ _
  refine Db.returns_of_ready later _ db sound ?_ le_rfl
  obtain ⟨unpublished, alive, unheld⟩ := free
  have waits_or : (row.state = .pending ∨ row.state = .retry) ∨ row.state = .processing := by
    cases state : row.state <;> simp_all
  rcases waits_or with waits | processing
  · have live : row.lapsed instant = false := by
      rcases waits with pending | retry
      · simp [OutboxRow.lapsed, pending]
      · simp [OutboxRow.lapsed, retry]
    exact ⟨row, mem_updateWhere.mpr (.inr ⟨member, live⟩), rfl,
      OutboxRow.ready_iff.mpr ⟨waits, available, delivers.waiting row member waits⟩⟩
  · obtain ⟨lease, leased⟩ := Option.isSome_iff_exists.mp (delivers.leased row member processing)
    have ended : lease ≤ now := by
      by_contra running
      exact unheld ⟨processing, lease, leased, Nat.lt_of_not_le running⟩
    have lapsed : row.lapsed instant = true :=
      OutboxRow.lapsed_iff.mpr ⟨processing, lease, leased, ended.trans later⟩
    have left : row.attempts < row.maxAttempts := by
      by_contra exhausted
      exact unheld (safe row member processing (Nat.le_of_not_lt exhausted))
    exact ⟨row.released instant, mem_updateWhere.mpr (.inl ⟨row, member, lapsed, rfl⟩), rfl,
      OutboxRow.ready_iff.mpr ⟨.inr rfl, le_rfl, left⟩⟩

/-- Every entry of an outbox that delivers is accounted for. -/
theorem Db.Sound.accounted [Host] {db : Db} (sound : db.Sound) {now : Nat}
    (delivers : db.journal.Delivers) (safe : db.journal.AttemptsSafe now) : db.Accounted now := by
  intro row member
  have placed : ∃ place, db.Places now row place := by
    by_cases published : row.state = .published
    · exact ⟨.published, published⟩
    by_cases dead : row.state = .deadLetter
    · exact ⟨.deadLettered, dead, delivers.letter row member dead⟩
    by_cases held : row.Held now
    · exact ⟨.held, held⟩
    · have free : row.Free now := ⟨published, dead, held⟩
      exact ⟨.eligible, free, sound.returns delivers safe member free⟩
  refine ⟨?_, ?_⟩
  · obtain ⟨place, inPlace⟩ := placed
    exact ⟨place, inPlace, fun other inOther => Db.places_unique inOther inPlace⟩
  · rintro ⟨retry | processing, unheld, exhausted⟩
    · exact absurd (delivers.waiting row member (.inr retry)) (Nat.not_lt.mpr exhausted)
    · exact unheld (safe row member processing exhausted)

/-- Where every entry is accounted for, no last attempt is lost. -/
theorem Db.Accounted.safe [Host] {db : Db} {now : Nat} (accounted : db.Accounted now) :
    db.journal.AttemptsSafe now := by
  intro row member processing exhausted
  by_contra unheld
  exact (accounted row member).2 ⟨.inr processing, unheld, exhausted⟩

/-! ### Lost entries -/

/-- The entry lost the publisher of its last attempt. -/
def Journal.Lost (journal : Journal) (now : Nat) (id : String) : Prop :=
  ∃ row ∈ journal.outbox, row.id = id ∧ row.maxAttempts ≤ row.attempts ∧
    (row.state = .retry ∨
      row.state = .processing ∧ ∃ instant ∈ row.leaseExpiresAt, instant ≤ now)

/-- A change of other entries, or one that leaves the state of a lost entry as it is,
keeps it lost. -/
theorem Journal.Lost.update {before after : Journal} {now : Nat} {id : String}
    (lost : before.Lost now id) {selected : OutboxRow → Bool} {change : OutboxRow → OutboxRow}
    (unselected : ∀ row ∈ before.outbox, selected row = true → row.maxAttempts ≤ row.attempts →
      row.state = .retry ∨
        row.state = .processing ∧ (∃ instant ∈ row.leaseExpiresAt, instant ≤ now) → False)
    (outbox : after.outbox = updateWhere selected change before.outbox) : after.Lost now id := by
  obtain ⟨row, member, named, exhausted, waits⟩ := lost
  refine ⟨row, ?_, named, exhausted, waits⟩
  rw [outbox]
  refine mem_updateWhere.mpr (.inr ⟨member, ?_⟩)
  cases chosen : selected row with
  | true => exact (unselected row member chosen exhausted waits).elim
  | false => rfl

/-- A lost entry has no lease that a publisher could settle. -/
theorem OutboxRow.Settles.not_lost {row : OutboxRow} {now later : Nat}
    (settles : row.Settles later) (ordered : now ≤ later)
    (waits : row.state = .retry ∨
      row.state = .processing ∧ ∃ instant ∈ row.leaseExpiresAt, instant ≤ now) : False := by
  rcases waits with retry | ⟨-, instant, leased, ended⟩
  · rw [settles.processing] at retry
    cases retry
  · have := lt_of_dateNow_lt_dateParseColumn (settles.live instant leased)
    omega

/-- A lost entry stays lost. -/
theorem Journal.Lost.outboxChange {before after : Journal} {now later : Nat} {id : String}
    (lost : before.Lost now id) (keyed : Keyed OutboxRow.id before.outbox) (ordered : now ≤ later)
    (change : OutboxChange later before after) : after.Lost now id := by
  have settled : ∀ {row other : OutboxRow}, row ∈ before.outbox → row.Settles later →
      other ∈ before.outbox → decide (other.id = row.id) = true →
      (other.state = .retry ∨
        other.state = .processing ∧ ∃ instant ∈ other.leaseExpiresAt, instant ≤ now) → False := by
    intro row other member settles otherMem same waits
    rw [keyed.eq_of_key_eq otherMem member (by simpa using same)] at waits
    exact settles.not_lost ordered waits
  cases change with
  | reclaim =>
      obtain ⟨row, member, named, exhausted, waits⟩ := lost
      rcases waits with retry | ⟨processing, instant, leased, ended⟩
      · exact ⟨row, mem_updateWhere.mpr (.inr ⟨member, by simp [OutboxRow.lapsed, retry]⟩), named,
          exhausted, .inl retry⟩
      · have lapsed : row.lapsed later = true :=
          OutboxRow.lapsed_iff.mpr ⟨processing, instant, leased, ended.trans ordered⟩
        exact ⟨row.released later, mem_updateWhere.mpr (.inl ⟨row, member, lapsed, rfl⟩), named,
          exhausted, .inl rfl⟩
  | @hold row tokenHash leaseExpiresAt member ready later =>
      refine lost.update (fun other otherMem same exhausted _ => ?_) rfl
      rw [keyed.eq_of_key_eq otherMem member (by simpa using same)] at exhausted
      exact absurd (OutboxRow.ready_iff.mp ready).2.2 (Nat.not_lt.mpr exhausted)
  | publish member settles =>
      exact lost.update (fun other otherMem same _ => settled member settles otherMem same) rfl
  | abandon member settles =>
      exact lost.update (fun other otherMem same _ => settled member settles otherMem same) rfl
  | postpone member settles =>
      exact lost.update (fun other otherMem same _ => settled member settles otherMem same) rfl

/-- A lost entry stays lost when the journal grows. -/
theorem Journal.Lost.grows [Host] {before after : Db} {now later : Nat} {id : String}
    (lost : before.journal.Lost now id) (keyed : Keyed OutboxRow.id before.journal.outbox)
    (ordered : now ≤ later) (grows : Db.Grows later before after) :
    after.journal.Lost now id := by
  obtain ⟨row, member, rest⟩ := lost
  cases grows with
  | event _ _ _ journal =>
      rw [journal]
      exact ⟨row, List.mem_append_left _ member, rest⟩
  | change _ _ _ _ _ journal =>
      rw [journal]
      exact ⟨row, List.mem_append_left _ member, rest⟩
  | outbox change => exact Journal.Lost.outboxChange ⟨row, member, rest⟩ keyed ordered change

/-- No call from now on returns a lost entry. -/
theorem Db.Sound.not_returns_of_lost [Host] {db : Db} (sound : db.Sound) {now : Nat} {id : String}
    (lost : db.journal.Lost now id) : ¬ db.Returns now id := by
  rintro ⟨later, leads, env, input, answers, final, ordered, ran, leased, leasedMem, answered,
    isRow, named⟩
  have kept := leads.keeps (fun db => db.Sound ∧ db.journal.Lost now id)
    (fun before call after both allowed taken => by
      have changes := Call.chain both.1 taken
      refine ⟨both.1.chain changes, both.1.keeps changes (fun db => db.journal.Lost now id) ?_ both.2⟩
      intro before after sound lost changed
      exact lost.grows sound.outbox allowed changed.grows) ⟨sound, lost⟩
  obtain ⟨laterSound, laterLost⟩ := kept
  have drains := leaseOutbox_drains laterSound.outbox (Tx.inTransaction_ok ran)
  obtain ⟨row, selected, same⟩ := drains.answered leased leasedMem answered isRow
  obtain ⟨rowMem, ready⟩ := Db.mem_readyOutbox selected
  have released : OutboxChange env.now later.journal (later.reclaimed env.now).journal := .reclaim
  obtain ⟨other, otherMem, otherId, exhausted, -⟩ :=
    laterLost.outboxChange laterSound.outbox ordered released
  have sameRow : other = row :=
    (Db.reclaimed_keyed laterSound.outbox).eq_of_key_eq otherMem rowMem
      (otherId.trans (named.symm.trans same.symm))
  rw [sameRow] at exhausted
  exact absurd (OutboxRow.ready_iff.mp ready).2.2 (Nat.not_lt.mpr exhausted)

/-! ### The outbox over whole runs -/

/-- What can be read along a run: the tables before each call, when it happens, and the
last tables at some instant. -/
def readings (history : List (Transition Db Call)) (db : Db) (now : Nat) : List (Db × Nat) :=
  (db, now) :: history.map fun transition => (transition.before, transition.label.env.now)

/-- Along a run every outbox entry is accounted for exactly when no publisher lets the
lease of a last attempt run out. -/
theorem outbox_accounted_iff [Host] {history : List (Transition Db Call)} {db : Db}
    (run : Run controlAuthority history db) (now : Nat) :
    (∀ reading ∈ readings history db now, reading.1.Accounted reading.2) ↔
      ∀ reading ∈ readings history db now, reading.1.journal.AttemptsSafe reading.2 := by
  constructor
  · intro accounted reading member
    exact (accounted reading member).safe
  · intro safe reading member
    have transitions : ∀ transition ∈ history,
        transition.before.journal.AttemptsSafe transition.label.env.now := fun transition taken =>
      safe (transition.before, transition.label.env.now)
        (List.mem_cons_of_mem _ (List.mem_map_of_mem
          (f := fun transition : Transition Db Call =>
            (transition.before, transition.label.env.now)) taken))
    rcases List.mem_cons.mp member with rfl | earlier
    · obtain ⟨sound, delivers⟩ := delivers_of_run run transitions
      exact sound.accounted delivers (safe _ member)
    · obtain ⟨transition, taken, rfl⟩ := List.mem_map.mp earlier
      obtain ⟨before, ranBefore, -, included⟩ := run.before_of_mem taken
      obtain ⟨sound, delivers⟩ := delivers_of_run ranBefore fun other otherMem =>
        transitions other (included other otherMem)
      exact sound.accounted delivers (safe _ member)

section Sample

attribute [local instance] Host.posix

/-- A release manifest, the registration of which leaves one outbox entry. -/
def sampleManifest : ReleaseManifestInput :=
  { sampleEnvelope "manifest-1" 1000000 1 with
    id := "release-1", version := "1.0.0", channel := "stable", status := "approved"
    contractsVersion := "1.0", agentCommit := "commit-1"
    artifacts := [.obj [("digest", .str "sha256:0123")]]
    sbomRef := none, provenanceRef := none, attestationRef := none, migrationRef := none
    compatibility := .obj [], releaseNotesRef := none, createdBy := "user-1" }

/-- A release is registered, and publishers lease its outbox entry again and again
without settling it. -/
def crashingPublishers (count : Nat) : List Call :=
  callAt 0 1000000 (.createReleaseManifest sampleManifest) ::
    (List.range count).map fun number =>
      callAt (number + 1) ((number + 1) * 100000000) (.leaseOutbox ⟨none, none⟩)

/-- After seven publishers that disappeared the entry is accounted for. -/
theorem outbox_accounted_seven :
    (sampleDb.execute (crashingPublishers 7)).2.journal.outbox.length = 1 ∧
      ∀ reading ∈ readings (sampleDb.execute (crashingPublishers 7)).1
          (sampleDb.execute (crashingPublishers 7)).2 900000000,
        reading.1.Accounted reading.2 := by
  refine ⟨by decide +kernel, ?_⟩
  apply (outbox_accounted_iff (execute_run sampleDb_blank (crashingPublishers 7)) 900000000).mpr
  unfold Journal.AttemptsSafe
  decide +kernel

/-- After eight publishers that disappeared the entry is in no place, and stuck. -/
theorem outbox_lost_eight :
    Reachable controlAuthority (sampleDb.execute (crashingPublishers 8)).2 ∧
      ∃ row ∈ (sampleDb.execute (crashingPublishers 8)).2.journal.outbox,
        row.Stuck 900000000 ∧
          ∀ place, ¬ (sampleDb.execute (crashingPublishers 8)).2.Places 900000000 row place := by
  have reachable := execute_reachable sampleDb_blank (crashingPublishers 8)
  have stuck : ∃ row ∈ (sampleDb.execute (crashingPublishers 8)).2.journal.outbox,
      row.state = .processing ∧ row.maxAttempts ≤ row.attempts ∧ ¬ row.Held 900000000 ∧
        row.leaseExpiresAt = some 860000000 := by
    decide +kernel
  obtain ⟨row, member, processing, exhausted, unheld, leased⟩ := stuck
  refine ⟨reachable, row, member, ⟨.inr processing, unheld, exhausted⟩, fun place inPlace => ?_⟩
  cases place with
  | published => simp [Db.Places, processing] at inPlace
  | deadLettered => simp [Db.Places, processing] at inPlace
  | held => exact unheld inPlace
  | eligible =>
      refine (authority_sound reachable).not_returns_of_lost ?_ inPlace.2
      exact ⟨row, member, rfl, exhausted, .inr ⟨processing, 860000000, leased, by decide⟩⟩

end Sample

end BairuiPlatform
