/-
Module: BairuiPlatform.Authority.OutboxDelivery
Purpose: Where an outbox entry is at any time, and the invariant of the outbox and its
  dead letters.
Trusted boundary: none
Main exports: OutboxPlace, Db.Accounted, Journal.AttemptsSafe, Journal.Delivers,
  delivers_of_run
-/
import BairuiPlatform.Authority.Growth

namespace BairuiPlatform

open Foundations Relation

/-! ### Places -/

/-- Where an outbox entry can be. -/
inductive OutboxPlace where
  | published | deadLettered | held | eligible
deriving Repr, DecidableEq

/-- The entry is being processed under a lease that has not run out. -/
def OutboxRow.Held (row : OutboxRow) (now : Nat) : Prop :=
  row.state = .processing ∧ ∃ instant ∈ row.leaseExpiresAt, now < instant

instance (row : OutboxRow) (now : Nat) : Decidable (row.Held now) :=
  decidable_of_iff (row.state = .processing ∧ row.leaseExpiresAt.any (now < ·) = true) <| by
    simp [OutboxRow.Held, Option.any_eq_true]

/-- No publisher holds the entry, and it is neither published nor abandoned. -/
def OutboxRow.Free (row : OutboxRow) (now : Nat) : Prop :=
  row.state ≠ .published ∧ row.state ≠ .deadLetter ∧ ¬ row.Held now

/-- The dead letters of an entry. -/
def Journal.lettersOf (journal : Journal) (outboxId : String) : List DeadLetterRow :=
  journal.deadLetters.filter fun letter => letter.outboxId = outboxId

/-- A call of `leaseOutbox` returns the entry. -/
def ReturnsEntry [Host] (db : Db) (now : Nat) (id : String) : Prop :=
  ∃ env input answers final, now ≤ env.now ∧
    (leaseOutbox env input).inTransaction none db = (.ok answers, final) ∧
      ∃ leased ∈ answers, ∃ row ∈ leased.row, row.id = id

/-- Some call of `leaseOutbox` from now on, after any calls in between, returns the
entry. -/
def Db.Returns [Host] (db : Db) (now : Nat) (id : String) : Prop :=
  ∃ later, controlAuthority.Leads (fun call => now ≤ call.env.now) db later ∧
    ReturnsEntry later now id

/-- The entry is in a place. -/
def Db.Places [Host] (db : Db) (now : Nat) (row : OutboxRow) : OutboxPlace → Prop
  | .published => row.state = .published
  | .deadLettered => row.state = .deadLetter ∧ (db.journal.lettersOf row.id).length = 1
  | .held => row.Held now
  | .eligible => row.Free now ∧ db.Returns now row.id

/-- The entry waits for a publisher, or lost the one it had, with no attempt left. -/
def OutboxRow.Stuck (row : OutboxRow) (now : Nat) : Prop :=
  (row.state = .retry ∨ row.state = .processing) ∧ ¬ row.Held now ∧
    row.maxAttempts ≤ row.attempts

/-- Every entry is in exactly one place, and none is stuck. -/
def Db.Accounted [Host] (db : Db) (now : Nat) : Prop :=
  ∀ row ∈ db.journal.outbox, (∃! place, db.Places now row place) ∧ ¬ row.Stuck now

theorem OutboxRow.lapsed_iff {row : OutboxRow} {now : Nat} :
    row.lapsed now = true ↔
      row.state = .processing ∧ ∃ instant ∈ row.leaseExpiresAt, instant ≤ now := by
  simp [OutboxRow.lapsed, Option.any_eq_true]

theorem OutboxRow.ready_iff {row : OutboxRow} {now : Nat} :
    row.ready now = true ↔
      (row.state = .pending ∨ row.state = .retry) ∧ row.availableAt ≤ now ∧
        row.attempts < row.maxAttempts := by
  simp [OutboxRow.ready, and_assoc]

/-- An entry is in at most one place. -/
theorem Db.places_unique [Host] {db : Db} {now : Nat} {row : OutboxRow}
    {first second : OutboxPlace} (inFirst : db.Places now row first)
    (inSecond : db.Places now row second) : first = second := by
  have placed : ∀ place, db.Places now row place →
      place = (if row.state = .published then .published
        else if row.state = .deadLetter then .deadLettered
        else if row.Held now then .held else .eligible) := by
    intro place inPlace
    cases place with
    | published => simp [show row.state = .published from inPlace]
    | deadLettered => simp [inPlace.1]
    | held => simp [show row.Held now from inPlace, inPlace.1]
    | eligible => simp [inPlace.1.1, inPlace.1.2.1, inPlace.1.2.2]
  rw [placed first inFirst, placed second inSecond]

/-! ### The invariant of the outbox -/

/-- What the outbox and its dead letters keep as long as no last attempt is lost. -/
structure Journal.Delivers (journal : Journal) : Prop where
  waiting : ∀ row ∈ journal.outbox, row.state = .pending ∨ row.state = .retry →
    row.attempts < row.maxAttempts
  leased : ∀ row ∈ journal.outbox, row.state = .processing → row.leaseExpiresAt.isSome = true
  letter : ∀ row ∈ journal.outbox, row.state = .deadLetter →
    (journal.lettersOf row.id).length = 1
  origin : ∀ letter ∈ journal.deadLetters, ∃ row ∈ journal.outbox,
    row.id = letter.outboxId ∧ row.state = .deadLetter

/-- No publisher has let the lease of a last attempt run out. -/
def Journal.AttemptsSafe (journal : Journal) (now : Nat) : Prop :=
  ∀ row ∈ journal.outbox, row.state = .processing → row.maxAttempts ≤ row.attempts →
    row.Held now

/-- The letters of an entry that is not a dead letter are none. -/
theorem Journal.Delivers.no_letter {journal : Journal} (delivers : journal.Delivers)
    (keyed : Keyed OutboxRow.id journal.outbox) {row : OutboxRow}
    (member : row ∈ journal.outbox) (alive : row.state ≠ .deadLetter) :
    journal.lettersOf row.id = [] := by
  refine List.filter_eq_nil_iff.mpr fun letter letterMem same => alive ?_
  obtain ⟨other, otherMem, named, dead⟩ := delivers.origin letter letterMem
  have sameId : other.id = row.id := named.trans (by simpa using same)
  rw [← keyed.eq_of_key_eq otherMem member sameId]
  exact dead

/-- A new entry keeps the invariant. -/
theorem Journal.Delivers.insert {before after : Journal} (delivers : before.Delivers)
    {row : OutboxRow} (pending : row.state = .pending) (left : row.attempts < row.maxAttempts)
    (outbox : after.outbox = before.outbox ++ [row])
    (deadLetters : after.deadLetters = before.deadLetters) : after.Delivers := by
  have member : ∀ other ∈ after.outbox, other ∈ before.outbox ∨ other = row := by
    rw [outbox]
    simp
  have letters : ∀ id, after.lettersOf id = before.lettersOf id := by
    intro id
    unfold Journal.lettersOf
    rw [deadLetters]
  refine ⟨?_, ?_, ?_, ?_⟩
  · intro other otherMem waits
    rcases member other otherMem with old | rfl
    · exact delivers.waiting other old waits
    · exact left
  · intro other otherMem processing
    rcases member other otherMem with old | rfl
    · exact delivers.leased other old processing
    · simp [pending] at processing
  · intro other otherMem dead
    rcases member other otherMem with old | rfl
    · rw [letters]
      exact delivers.letter other old dead
    · simp [pending] at dead
  · intro letter letterMem
    rw [deadLetters] at letterMem
    obtain ⟨other, otherMem, named, dead⟩ := delivers.origin letter letterMem
    exact ⟨other, by rw [outbox]; exact List.mem_append_left _ otherMem, named, dead⟩

/-- A change of one entry that leaves the dead letters alone keeps the invariant. -/
theorem Journal.Delivers.update {before after : Journal} (delivers : before.Delivers)
    {selected : OutboxRow → Bool} {change : OutboxRow → OutboxRow}
    (alive : ∀ row ∈ before.outbox, selected row = true → row.state ≠ .deadLetter)
    (waiting : ∀ row ∈ before.outbox, selected row = true →
      (change row).state = .pending ∨ (change row).state = .retry →
        (change row).attempts < (change row).maxAttempts)
    (leased : ∀ row ∈ before.outbox, selected row = true →
      (change row).state = .processing → (change row).leaseExpiresAt.isSome = true)
    (letter : ∀ row, (change row).state ≠ .deadLetter)
    (outbox : after.outbox = updateWhere selected change before.outbox)
    (deadLetters : after.deadLetters = before.deadLetters) : after.Delivers := by
  have letters : ∀ id, after.lettersOf id = before.lettersOf id := by
    intro id
    unfold Journal.lettersOf
    rw [deadLetters]
  refine ⟨?_, ?_, ?_, ?_⟩
  · intro row member waits
    rw [outbox] at member
    rcases mem_updateWhere.mp member with ⟨old, oldMem, chosen, rfl⟩ | ⟨oldMem, -⟩
    · exact waiting old oldMem chosen waits
    · exact delivers.waiting row oldMem waits
  · intro row member processing
    rw [outbox] at member
    rcases mem_updateWhere.mp member with ⟨old, oldMem, chosen, rfl⟩ | ⟨oldMem, -⟩
    · exact leased old oldMem chosen processing
    · exact delivers.leased row oldMem processing
  · intro row member dead
    rw [outbox] at member
    rcases mem_updateWhere.mp member with ⟨old, oldMem, chosen, rfl⟩ | ⟨oldMem, -⟩
    · exact absurd dead (letter old)
    · rw [letters]
      exact delivers.letter row oldMem dead
  · intro letter letterMem
    rw [deadLetters] at letterMem
    obtain ⟨row, member, named, dead⟩ := delivers.origin letter letterMem
    refine ⟨row, ?_, named, dead⟩
    rw [outbox]
    refine mem_updateWhere.mpr (.inr ⟨member, ?_⟩)
    cases chosen : selected row with
    | true => exact absurd dead (alive row member chosen)
    | false => rfl

/-- No lease of a last attempt runs out by a change of the outbox. -/
theorem Journal.AttemptsSafe.update {before after : Journal} {now : Nat}
    (safe : before.AttemptsSafe now) {selected : OutboxRow → Bool}
    {change : OutboxRow → OutboxRow}
    (held : ∀ row, (change row).state = .processing → (change row).Held now)
    (outbox : after.outbox = updateWhere selected change before.outbox) :
    after.AttemptsSafe now := by
  intro row member processing exhausted
  rw [outbox] at member
  rcases mem_updateWhere.mp member with ⟨old, -, -, rfl⟩ | ⟨oldMem, -⟩
  · exact held old processing
  · exact safe row oldMem processing exhausted

section OutboxChange

variable {now : Nat} {before after : Journal}

/-- A change of the outbox lets no lease of a last attempt run out. -/
theorem Journal.AttemptsSafe.outboxChange (safe : before.AttemptsSafe now)
    (change : OutboxChange now before after) : after.AttemptsSafe now := by
  cases change with
  | reclaim => exact safe.update (by simp [OutboxRow.released]) rfl
  | hold member ready later =>
      exact safe.update (fun row _ => ⟨rfl, _, rfl, later⟩) rfl
  | publish => exact safe.update (by simp [OutboxRow.publish]) rfl
  | abandon => exact safe.update (by simp [OutboxRow.abandon]) rfl
  | postpone => exact safe.update (by simp [OutboxRow.postpone]) rfl

/-- An entry that ran out of attempts leaves exactly one dead letter. -/
theorem Journal.Delivers.abandon (delivers : before.Delivers)
    (keyed : Keyed OutboxRow.id before.outbox) {row : OutboxRow} {letter : DeadLetterRow}
    {code : String} (member : row ∈ before.outbox) (alive : row.state ≠ .deadLetter)
    (named : letter.outboxId = row.id)
    (outbox : after.outbox =
      updateWhere (fun other => other.id = row.id) (fun other => other.abandon code)
        before.outbox)
    (deadLetters : after.deadLetters = before.deadLetters ++ [letter]) : after.Delivers := by
  have cases_mem : ∀ other ∈ after.outbox,
      other = row.abandon code ∨ (other ∈ before.outbox ∧ other.id ≠ row.id) := by
    intro other otherMem
    rw [outbox] at otherMem
    rcases mem_updateWhere.mp otherMem with ⟨old, oldMem, same, rfl⟩ | ⟨oldMem, apart⟩
    · rw [keyed.eq_of_key_eq oldMem member (by simpa using same)]
      exact .inl rfl
    · exact .inr ⟨oldMem, by simpa using apart⟩
  have letters : ∀ id, after.lettersOf id =
      before.lettersOf id ++ if row.id = id then [letter] else [] := by
    intro id
    unfold Journal.lettersOf
    rw [deadLetters, List.filter_append, List.filter_singleton, named]
    by_cases same : row.id = id <;> simp [same]
  refine ⟨?_, ?_, ?_, ?_⟩
  · intro other otherMem waits
    rcases cases_mem other otherMem with rfl | ⟨old, -⟩
    · simp [OutboxRow.abandon] at waits
    · exact delivers.waiting other old waits
  · intro other otherMem processing
    rcases cases_mem other otherMem with rfl | ⟨old, -⟩
    · simp [OutboxRow.abandon] at processing
    · exact delivers.leased other old processing
  · intro other otherMem dead
    rcases cases_mem other otherMem with rfl | ⟨old, apart⟩
    · rw [letters]
      simp [OutboxRow.abandon, delivers.no_letter keyed member alive]
    · rw [letters, if_neg (Ne.symm apart), List.append_nil]
      exact delivers.letter other old dead
  · intro other otherMem
    rw [deadLetters] at otherMem
    rcases List.mem_append.mp otherMem with old | new
    · obtain ⟨entry, entryMem, entryId, dead⟩ := delivers.origin other old
      refine ⟨entry, ?_, entryId, dead⟩
      rw [outbox]
      refine mem_updateWhere.mpr (.inr ⟨entryMem, ?_⟩)
      simp only [decide_eq_false_iff_not]
      intro same
      rw [keyed.eq_of_key_eq entryMem member same] at dead
      exact alive dead
    · obtain rfl := List.mem_singleton.mp new
      refine ⟨row.abandon code, ?_, named.symm, rfl⟩
      rw [outbox]
      exact mem_updateWhere.mpr (.inl ⟨row, member, by simp, rfl⟩)

/-- A change of the outbox keeps the invariant while no last attempt is lost. -/
theorem Journal.Delivers.outboxChange (delivers : before.Delivers)
    (keyed : Keyed OutboxRow.id before.outbox) (safe : before.AttemptsSafe now)
    (change : OutboxChange now before after) : after.Delivers := by
  have same_row : ∀ {row other : OutboxRow}, row ∈ before.outbox → other ∈ before.outbox →
      decide (other.id = row.id) = true → other = row := fun member otherMem same =>
    keyed.eq_of_key_eq otherMem member (by simpa using same)
  cases change with
  | reclaim =>
      refine delivers.update ?_ ?_ ?_ (by simp [OutboxRow.released]) rfl rfl
      · intro row _ lapsed
        simp [(OutboxRow.lapsed_iff.mp lapsed).1]
      · intro row member lapsed _
        obtain ⟨processing, instant, leased, ended⟩ := OutboxRow.lapsed_iff.mp lapsed
        by_contra exhausted
        obtain ⟨-, other, otherLeased, later⟩ :=
          safe row member processing (Nat.le_of_not_lt exhausted)
        obtain rfl : instant = other := Option.mem_unique leased otherLeased
        omega
      · intro row _ _ processing
        simp [OutboxRow.released] at processing
  | @hold row tokenHash leaseExpiresAt member ready later =>
      refine delivers.update ?_ ?_ ?_ (by simp [OutboxRow.held]) rfl rfl
      · intro other otherMem same
        rw [same_row member otherMem same]
        rcases (OutboxRow.ready_iff.mp ready).1 with pending | retry
        · simp [pending]
        · simp [retry]
      · intro other _ _ waits
        simp [OutboxRow.held] at waits
      · intro other _ _ _
        rfl
  | @publish row member settles =>
      refine delivers.update ?_ ?_ ?_ (by simp [OutboxRow.publish]) rfl rfl
      · intro other otherMem same
        rw [same_row member otherMem same]
        simp [settles.processing]
      · intro other _ _ waits
        simp [OutboxRow.publish] at waits
      · intro other _ _ processing
        simp [OutboxRow.publish] at processing
  | @abandon row letter code member settles exhausted named =>
      exact delivers.abandon keyed member (by simp [settles.processing]) named rfl rfl
  | @postpone row availableAt code member settles left =>
      refine delivers.update ?_ ?_ ?_ (by simp [OutboxRow.postpone]) rfl rfl
      · intro other otherMem same
        rw [same_row member otherMem same]
        simp [settles.processing]
      · intro other otherMem same _
        rw [same_row member otherMem same]
        exact left
      · intro other _ _ processing
        simp [OutboxRow.postpone] at processing

end OutboxChange

/-- A new entry is not on its last attempt. -/
theorem Journal.AttemptsSafe.insert {before after : Journal} {now : Nat}
    (safe : before.AttemptsSafe now) {row : OutboxRow} (pending : row.state = .pending)
    (outbox : after.outbox = before.outbox ++ [row]) : after.AttemptsSafe now := by
  intro other member processing exhausted
  rw [outbox] at member
  rcases List.mem_append.mp member with old | new
  · exact safe other old processing exhausted
  · rw [List.mem_singleton.mp new, pending] at processing
    cases processing

/-- What one change of the authority does to the deliveries. -/
theorem Journal.Delivers.grows [Host] {now : Nat} {before after : Db}
    (delivers : before.journal.Delivers) (keyed : Keyed OutboxRow.id before.journal.outbox)
    (safe : before.journal.AttemptsSafe now) (grows : Db.Grows now before after) :
    after.journal.Delivers ∧ after.journal.AttemptsSafe now := by
  cases grows with
  | @event _ _ _ outbox _ _ entry _ _ journal =>
      have pending : outbox.state = .pending := by rw [entry.outbox_eq]; rfl
      have left : outbox.attempts < outbox.maxAttempts := by
        rw [entry.outbox_eq]
        exact Nat.zero_lt_succ 7
      rw [journal]
      exact ⟨delivers.insert pending left rfl rfl, safe.insert pending rfl⟩
  | @change _ _ _ outbox _ entry _ _ _ _ journal =>
      have pending : outbox.state = .pending := by rw [entry.outbox_eq]; rfl
      have left : outbox.attempts < outbox.maxAttempts := by
        rw [entry.outbox_eq]
        exact Nat.zero_lt_succ 7
      rw [journal]
      exact ⟨delivers.insert pending left rfl rfl, safe.insert pending rfl⟩
  | outbox change =>
      exact ⟨delivers.outboxChange keyed safe change, safe.outboxChange change⟩

/-- In a run in which no call finds a lost last attempt, the outbox delivers. -/
theorem delivers_of_run [Host] {history : List (Transition Db Call)} {db : Db}
    (run : Run controlAuthority history db)
    (safe : ∀ transition ∈ history,
      transition.before.journal.AttemptsSafe transition.label.env.now) :
    db.Sound ∧ db.journal.Delivers := by
  refine run.guarded_invariant
    (fun transition => transition.before.journal.AttemptsSafe transition.label.env.now)
    (fun db => db.Sound ∧ db.journal.Delivers) ?_ ?_ safe
  · intro db blank
    refine ⟨blank.sound, ?_⟩
    rw [blank.journal]
    exact ⟨by simp, by simp, by simp, by simp⟩
  · intro before call after ⟨sound, delivers⟩ taken safe
    have changes := Call.chain sound taken
    refine ⟨sound.chain changes, ?_⟩
    exact (sound.keeps changes
      (fun db => db.journal.Delivers ∧ db.journal.AttemptsSafe call.env.now)
      (fun _ _ sound both changed => both.1.grows sound.outbox both.2 changed.grows)
      ⟨delivers, safe⟩).1

end BairuiPlatform
