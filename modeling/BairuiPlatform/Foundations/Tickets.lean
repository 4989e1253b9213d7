/-
Module: BairuiPlatform.Foundations.Tickets
Purpose: Queues whose entries are handed out for a time and a bounded number of attempts:
  the life of an entry, and tables that grow in place.
Trusted boundary: none
Main exports: Ticket, Ticket.ready, Ticket.Step, Ticket.Sound, Ticket.accounted_iff,
  Grown, Replaced, updateFirst, updateAt, positionsOf
-/
import BairuiPlatform.Foundations.Table

namespace BairuiPlatform.Foundations

/-! ### Tickets -/

/-- How far an entry of a queue has come. -/
inductive Phase where
  | waiting | held | done | buried
deriving Repr, DecidableEq

/-- Nothing more happens to the entry. -/
def Phase.isFinal : Phase → Bool
  | done | buried => true
  | _ => false

/-- An entry of a queue: how often it was handed out and how often it may be, from when on it
may be handed out, and until when it is held. -/
structure Ticket where
  phase : Phase
  attempts : Nat
  maxAttempts : Nat
  availableAt : Nat
  heldUntil : Option Nat
deriving Repr, DecidableEq

namespace Ticket

/-- The holder of the ticket has run out of time. -/
def Lapsed (now : Nat) (ticket : Ticket) : Prop :=
  ticket.phase = .held ∧ ∃ heldUntil, ticket.heldUntil = some heldUntil ∧ heldUntil < now

/-- The ticket may be handed out. -/
def Ready (now : Nat) (ticket : Ticket) : Prop :=
  ticket.attempts < ticket.maxAttempts ∧
    ((ticket.phase = .waiting ∧ ticket.availableAt ≤ now) ∨ ticket.Lapsed now)

/-- What a queue does with a ticket. -/
inductive Step (now : Nat) : Ticket → Ticket → Prop where
  | stay (ticket : Ticket) : Step now ticket ticket
  | hold {ticket : Ticket} {heldUntil : Nat} (ready : ticket.Ready now)
      (lasts : now ≤ heldUntil) :
      Step now ticket
        { ticket with phase := .held, attempts := ticket.attempts + 1,
                      heldUntil := some heldUntil }
  | finish {ticket : Ticket} (held : ticket.phase = .held) :
      Step now ticket { ticket with phase := .done, heldUntil := none }
  | release {ticket : Ticket} {availableAt : Nat} (held : ticket.phase = .held)
      (left : ticket.attempts < ticket.maxAttempts) :
      Step now ticket
        { ticket with phase := .waiting, availableAt := availableAt, heldUntil := none }
  | bury {ticket : Ticket} {availableAt : Nat} (held : ticket.phase = .held) :
      Step now ticket
        { ticket with phase := .buried, availableAt := availableAt, heldUntil := none }

/-- What every step keeps: a waiting ticket is new or has attempts left, and a held one has
a time that it is held until. -/
structure Sound (ticket : Ticket) : Prop where
  waiting : ticket.phase = .waiting →
    ticket.attempts = 0 ∨ ticket.attempts < ticket.maxAttempts
  held : ticket.phase = .held → ticket.heldUntil.isSome = true

theorem Sound.step {now : Nat} {old new : Ticket} (sound : old.Sound) (step : old.Step now new) :
    new.Sound := by
  cases step with
  | stay => exact sound
  | hold ready lasts => exact ⟨fun waiting => Phase.noConfusion waiting, fun _ => rfl⟩
  | finish held =>
      exact ⟨fun waiting => Phase.noConfusion waiting, fun held => Phase.noConfusion held⟩
  | release held left => exact ⟨fun _ => .inr left, fun held => Phase.noConfusion held⟩
  | bury held =>
      exact ⟨fun waiting => Phase.noConfusion waiting, fun held => Phase.noConfusion held⟩

/-- A ticket that may be handed out has not ended. -/
theorem Ready.not_final {now : Nat} {ticket : Ticket} (ready : ticket.Ready now) :
    ¬ticket.phase.isFinal = true := by
  intro final
  rcases ready.2 with ⟨waiting, -⟩ | ⟨held, -⟩
  · rw [waiting] at final
    cases final
  · rw [held] at final
    cases final

/-- A ticket that nobody holds any more and that no one can take: the time of its last
attempt ran out, or it never had an attempt. -/
def Stuck (now : Nat) (ticket : Ticket) : Prop :=
  ticket.maxAttempts ≤ ticket.attempts ∧
    (ticket.phase = .waiting ∨ ticket.Lapsed now)

/-- A ticket with an attempt is stuck only past its last one. -/
theorem Sound.stuck_iff {ticket : Ticket} (sound : ticket.Sound) (attempt : ticket.maxAttempts ≠ 0)
    {now : Nat} : ticket.Stuck now ↔ ticket.maxAttempts ≤ ticket.attempts ∧ ticket.Lapsed now := by
  constructor
  · rintro ⟨spent, waiting | lapsed⟩
    · rcases sound.waiting waiting with new | left
      · omega
      · omega
    · exact ⟨spent, lapsed⟩
  · rintro ⟨spent, lapsed⟩
    exact ⟨spent, .inr lapsed⟩

/-- No step at a time leaves a ticket stuck at that time. -/
theorem Step.not_stuck {now : Nat} {old new : Ticket} (step : old.Step now new)
    (free : ¬old.Stuck now) : ¬new.Stuck now := by
  cases step with
  | stay => exact free
  | hold ready lasts =>
      rintro ⟨-, waiting | ⟨-, heldUntil, stored, lapsed⟩⟩
      · cases waiting
      · cases stored
        omega
  | finish held =>
      rintro ⟨-, waiting | ⟨held, -⟩⟩
      · cases waiting
      · cases held
  | release held left =>
      rintro ⟨spent, -⟩
      exact absurd left (Nat.not_lt_of_le spent)
  | bury held =>
      rintro ⟨-, waiting | ⟨held, -⟩⟩
      · cases waiting
      · cases held

/-- A sound ticket is in a final phase, is held, or will be ready, unless it is stuck. -/
theorem Sound.accounted_iff {ticket : Ticket} (sound : ticket.Sound) (now : Nat) :
    (ticket.phase.isFinal = true ∨
        (ticket.phase = .held ∧ ∃ heldUntil, ticket.heldUntil = some heldUntil ∧
          now ≤ heldUntil) ∨
        ∃ later, now ≤ later ∧ ticket.Ready later) ↔
      ¬ticket.Stuck now := by
  constructor
  · rintro (final | ⟨held, heldUntil, stored, lasts⟩ | ⟨later, -, left, -⟩) ⟨spent, open'⟩
    · rcases open' with waiting | ⟨held, -⟩
      · rw [waiting] at final
        cases final
      · rw [held] at final
        cases final
    · rcases open' with waiting | ⟨-, other, otherStored, lapsed⟩
      · rw [waiting] at held
        cases held
      · rw [stored] at otherStored
        cases otherStored
        omega
    · omega
  · intro free
    cases phase : ticket.phase with
    | done => exact .inl rfl
    | buried => exact .inl rfl
    | waiting =>
        right; right
        by_cases spent : ticket.maxAttempts ≤ ticket.attempts
        · exact absurd ⟨spent, .inl phase⟩ free
        · exact ⟨max now ticket.availableAt, Nat.le_max_left _ _, Nat.lt_of_not_le spent,
            .inl ⟨phase, Nat.le_max_right _ _⟩⟩
    | held =>
        right
        obtain ⟨heldUntil, stored⟩ := Option.isSome_iff_exists.mp (sound.held phase)
        by_cases lasts : now ≤ heldUntil
        · exact .inl ⟨rfl, heldUntil, stored, lasts⟩
        · have lapsed : ticket.Lapsed now := ⟨phase, heldUntil, stored, Nat.lt_of_not_le lasts⟩
          by_cases spent : ticket.maxAttempts ≤ ticket.attempts
          · exact absurd ⟨spent, .inr lapsed⟩ free
          · exact .inr ⟨now, Nat.le_refl now, Nat.lt_of_not_le spent, .inr lapsed⟩

end Ticket

/-! ### Tables that grow in place -/

variable {ρ : Type*}

/-- Rows after a step: each old row has a later version in its place, and new rows come
after them. -/
structure Grown (Later : ρ → ρ → Prop) (New : ρ → Prop) (rows rows' : List ρ) : Prop where
  kept : ∀ (index : Nat) (row : ρ), rows[index]? = some row →
    ∃ row', rows'[index]? = some row' ∧ Later row row'
  added : ∀ (index : Nat) (row' : ρ), rows'[index]? = some row' → rows[index]? = none → New row'

namespace Grown

variable {Later : ρ → ρ → Prop} {New : ρ → Prop} {rows rows' : List ρ}

theorem refl (same : ∀ row ∈ rows, Later row row) : Grown Later New rows rows where
  kept index row stored := ⟨row, stored, same row (List.mem_of_getElem? stored)⟩
  added index row' stored missing := by
    rw [stored] at missing
    cases missing

theorem snoc {row : ρ} (same : ∀ row ∈ rows, Later row row) (new : New row) :
    Grown Later New rows (rows ++ [row]) where
  kept index old stored := by
    obtain ⟨bound, -⟩ := List.getElem?_eq_some_iff.mp stored
    exact ⟨old, (List.getElem?_append_left bound).trans stored,
      same old (List.mem_of_getElem? stored)⟩
  added index row' stored missing := by
    have bound := List.getElem?_eq_none_iff.mp missing
    rw [List.getElem?_append_right bound] at stored
    rw [List.mem_singleton.mp (List.mem_of_getElem? stored)]
    exact new

theorem mono {Later' : ρ → ρ → Prop} {New' : ρ → Prop} (grown : Grown Later New rows rows')
    (later : ∀ old ∈ rows, ∀ new ∈ rows', Later old new → Later' old new)
    (new : ∀ row ∈ rows', New row → New' row) : Grown Later' New' rows rows' where
  kept index row stored := by
    obtain ⟨row', stored', step⟩ := grown.kept index row stored
    exact ⟨row', stored', later row (List.mem_of_getElem? stored) row'
      (List.mem_of_getElem? stored') step⟩
  added index row' stored missing :=
    new row' (List.mem_of_getElem? stored) (grown.added index row' stored missing)

/-- Every row after a step is a later version of one before, or new. -/
theorem cases_of_mem (grown : Grown Later New rows rows') {row' : ρ}
    (member : row' ∈ rows') : (∃ row ∈ rows, Later row row') ∨ New row' := by
  obtain ⟨index, stored⟩ := List.mem_iff_getElem?.mp member
  cases before : rows[index]? with
  | none => exact .inr (grown.added index row' stored before)
  | some row =>
      obtain ⟨later, storedLater, step⟩ := grown.kept index row before
      rw [stored] at storedLater
      cases storedLater
      exact .inl ⟨row, List.mem_of_getElem? before, step⟩

/-- Every row has a later version. -/
theorem later_of_mem (grown : Grown Later New rows rows') {row : ρ}
    (member : row ∈ rows) : ∃ row' ∈ rows', Later row row' := by
  obtain ⟨index, stored⟩ := List.mem_iff_getElem?.mp member
  obtain ⟨row', stored', step⟩ := grown.kept index row stored
  exact ⟨row', List.mem_of_getElem? stored', step⟩

end Grown

/-- Where no row is new and a column is kept, the column reads the same. -/
theorem Grown.map_eq {κ : Type*} {Later : ρ → ρ → Prop} {rows rows' : List ρ}
    (grown : Grown Later (fun _ => False) rows rows') {column : ρ → κ}
    (keeps : ∀ old new, Later old new → column new = column old) :
    rows'.map column = rows.map column := by
  refine List.ext_getElem? fun index => ?_
  rw [List.getElem?_map, List.getElem?_map]
  cases before : rows[index]? with
  | some row =>
      obtain ⟨row', stored, later⟩ := grown.kept index row before
      rw [stored, Option.map_some, Option.map_some, keeps row row' later]
  | none =>
      cases after : rows'[index]? with
      | none => rfl
      | some row' => exact (grown.added index row' after before).elim

/-- Where no row is new and a property is kept both ways, some row has it if some row had. -/
theorem Grown.exists_iff {Later : ρ → ρ → Prop} {rows rows' : List ρ}
    (grown : Grown Later (fun _ => False) rows rows') {P : ρ → Prop}
    (keeps : ∀ old new, Later old new → (P new ↔ P old)) :
    (∃ row ∈ rows', P row) ↔ ∃ row ∈ rows, P row := by
  constructor
  · rintro ⟨row', member, holds⟩
    rcases grown.cases_of_mem member with ⟨row, old, later⟩ | impossible
    · exact ⟨row, old, (keeps row row' later).mp holds⟩
    · exact impossible.elim
  · rintro ⟨row, member, holds⟩
    obtain ⟨row', new, later⟩ := grown.later_of_mem member
    exact ⟨row', new, (keeps row row' later).mpr holds⟩

/-- One row has another one in its place. -/
def Replaced (old new : ρ) (rows rows' : List ρ) : Prop :=
  ∃ before after, rows = before ++ old :: after ∧ rows' = before ++ new :: after

namespace Replaced

variable {old new : ρ} {rows rows' : List ρ}

theorem old_mem (replaced : Replaced old new rows rows') : old ∈ rows := by
  obtain ⟨before, after, rfl, rfl⟩ := replaced
  exact List.mem_append_right _ List.mem_cons_self

theorem new_mem (replaced : Replaced old new rows rows') : new ∈ rows' := by
  obtain ⟨before, after, rfl, rfl⟩ := replaced
  exact List.mem_append_right _ List.mem_cons_self

theorem cases_of_mem (replaced : Replaced old new rows rows') {row : ρ} (member : row ∈ rows') :
    row = new ∨ row ∈ rows := by
  obtain ⟨before, after, rfl, rfl⟩ := replaced
  rcases List.mem_append.mp member with early | late
  · exact .inr (List.mem_append_left _ early)
  · rcases List.mem_cons.mp late with same | late
    · exact .inl same
    · exact .inr (List.mem_append_right _ (List.mem_cons_of_mem _ late))

theorem mem_of_ne (replaced : Replaced old new rows rows') {row : ρ} (member : row ∈ rows)
    (other : row ≠ old) : row ∈ rows' := by
  obtain ⟨before, after, rfl, rfl⟩ := replaced
  rcases List.mem_append.mp member with early | late
  · exact List.mem_append_left _ early
  · rcases List.mem_cons.mp late with same | late
    · exact absurd same other
    · exact List.mem_append_right _ (List.mem_cons_of_mem _ late)

/-- Some row has a property after the replacement if the new row has it or some row had. -/
theorem exists_iff (replaced : Replaced old new rows rows') {P : ρ → Prop} (lacks : ¬P old) :
    (∃ row ∈ rows', P row) ↔ P new ∨ ∃ row ∈ rows, P row := by
  constructor
  · rintro ⟨row, member, holds⟩
    rcases replaced.cases_of_mem member with rfl | before
    · exact .inl holds
    · exact .inr ⟨row, before, holds⟩
  · rintro (holds | ⟨row, member, holds⟩)
    · exact ⟨new, replaced.new_mem, holds⟩
    · refine ⟨row, replaced.mem_of_ne member fun same => ?_, holds⟩
      rw [same] at holds
      exact lacks holds

theorem grown (replaced : Replaced old new rows rows') :
    Grown (fun first second => second = first ∨ (first = old ∧ second = new)) (fun _ => False)
      rows rows' := by
  obtain ⟨before, after, rfl, rfl⟩ := replaced
  induction before with
  | nil =>
      refine ⟨fun index row stored => ?_, fun index row' stored missing => ?_⟩
      · cases index with
        | zero =>
            cases stored
            exact ⟨new, rfl, .inr ⟨rfl, rfl⟩⟩
        | succ index => exact ⟨row, stored, .inl rfl⟩
      · cases index with
        | zero => cases missing
        | succ index => exact absurd (stored.symm.trans missing) (by simp)
  | cons first before ih =>
      refine ⟨fun index row stored => ?_, fun index row' stored missing => ?_⟩
      · cases index with
        | zero =>
            cases stored
            exact ⟨first, rfl, .inl rfl⟩
        | succ index => exact ih.kept index row stored
      · cases index with
        | zero => cases missing
        | succ index => exact ih.added index row' stored missing

/-- An update of the only row with its key. -/
theorem of_keyed {κ : Type*} {key : ρ → κ} (keyed : Keyed key rows) {selected : ρ → Bool}
    {change : ρ → ρ} {row : ρ} (member : row ∈ rows) (chosen : selected row = true)
    (only : ∀ other, selected other = true → key other = key row) :
    Replaced row (change row) rows (updateWhere selected change rows) := by
  obtain ⟨before, after, rfl⟩ := List.append_of_mem member
  -- Every other row of the table has another key.
  have apart : ∀ other ∈ before ++ after, selected other = false := by
    intro other otherMem
    by_contra taken
    have same := only other (by simpa using taken)
    have distinct : ((before ++ row :: after).map key).Nodup := keyed
    rw [List.map_append, List.map_cons, List.nodup_middle] at distinct
    apply (List.nodup_cons.mp distinct).1
    rw [← same, ← List.map_append]
    exact List.mem_map_of_mem otherMem
  refine ⟨before, after, rfl, ?_⟩
  unfold updateWhere
  rw [List.map_append, List.map_cons, if_pos chosen]
  congr 1
  · refine (List.map_congr_left fun other otherMem => ?_).trans (List.map_id before)
    simp [apart other (List.mem_append_left _ otherMem)]
  · congr 1
    refine (List.map_congr_left fun other otherMem => ?_).trans (List.map_id after)
    simp [apart other (List.mem_append_right _ otherMem)]

end Replaced

/-- The first selected row is changed in place, as by `Object.assign` to what `find`
returned. -/
@[grind =] def updateFirst (selected : ρ → Bool) (change : ρ → ρ) : List ρ → List ρ
  | [] => []
  | row :: rows =>
      if selected row then change row :: rows else row :: updateFirst selected change rows

section UpdateFirst

variable {selected : ρ → Bool} {change : ρ → ρ} {rows : List ρ}

/-- What `find?` returned is replaced by its changed version. -/
theorem replaced_updateFirst {row : ρ} (found : rows.find? selected = some row) :
    Replaced row (change row) rows (updateFirst selected change rows) := by
  induction rows with
  | nil => cases found
  | cons first rows ih =>
      unfold updateFirst
      rw [List.find?_cons] at found
      split at found
      · rename_i chosen
        cases found
        rw [if_pos chosen]
        exact ⟨[], rows, rfl, rfl⟩
      · rename_i skipped
        rw [if_neg (by simp [skipped])]
        obtain ⟨before, after, split, updated⟩ := ih found
        exact ⟨first :: before, after, congrArg (first :: ·) split,
          congrArg (first :: ·) updated⟩

theorem updateFirst_of_none (none : rows.find? selected = none) :
    updateFirst selected change rows = rows := by
  induction rows with
  | nil => rfl
  | cons row rows ih =>
      rw [List.find?_cons] at none
      unfold updateFirst
      split at none
      · cases none
      · rename_i skipped
        rw [if_neg (by simp [skipped]), ih none]

theorem updateFirst_eq_self {row : ρ}
    (same : updateFirst selected change rows = rows)
    (found : rows.find? selected = some row) : change row = row := by
  induction rows with
  | nil => simp at found
  | cons first rows ih =>
      simp only [updateFirst] at same
      by_cases chosen : selected first = true
      · rw [if_pos chosen, List.cons.injEq] at same
        rw [List.find?_cons_of_pos chosen, Option.some.injEq] at found
        rw [← found, same.1]
      · rw [if_neg chosen, List.cons.injEq] at same
        rw [List.find?_cons_of_neg chosen] at found
        exact ih same.2 found

/-- A projection that the selection and the change respect commutes with the update. -/
theorem map_updateFirst {ρ' : Type*} {selected' : ρ' → Bool} {change' : ρ' → ρ'}
    {project : ρ → ρ'} (selects : ∀ row, selected' (project row) = selected row)
    (changes : ∀ row, project (change row) = change' (project row)) :
    (updateFirst selected change rows).map project =
      updateFirst selected' change' (rows.map project) := by
  induction rows with
  | nil => rfl
  | cons row rows ih =>
      simp only [updateFirst, List.map_cons, selects]
      split
      · rw [List.map_cons, changes]
      · rw [List.map_cons, ih]

theorem length_updateFirst (selected : ρ → Bool) (change : ρ → ρ) (rows : List ρ) :
    (updateFirst selected change rows).length = rows.length := by
  induction rows with
  | nil => rfl
  | cons first rows ih =>
      simp only [updateFirst]
      split
      · rfl
      · simp [ih]

/-- Rows with the first selected one changed, if there is one. -/
theorem Grown.updateFirst {Later : ρ → ρ → Prop} {New : ρ → Prop} (same : ∀ row, Later row row)
    (changes : ∀ row, rows.find? selected = some row → Later row (change row)) :
    Grown Later New rows (updateFirst selected change rows) := by
  cases found : rows.find? selected with
  | none =>
      rw [updateFirst_of_none found]
      exact .refl fun row _ => same row
  | some row =>
      refine (replaced_updateFirst found).grown.mono (fun old _ new _ later => ?_)
        fun _ _ => False.elim
      rcases later with rfl | ⟨rfl, rfl⟩
      · exact same new
      · exact changes old found

/-- Rows with the selected ones among them changed. -/
theorem Grown.updateWhere {Later : ρ → ρ → Prop} {New : ρ → Prop} (same : ∀ row, Later row row)
    (changes : ∀ row ∈ rows, selected row = true → Later row (change row)) :
    Grown Later New rows (updateWhere selected change rows) where
  kept index row stored := by
    unfold Foundations.updateWhere
    rw [List.getElem?_map, stored]
    refine ⟨_, rfl, ?_⟩
    dsimp only
    split
    · rename_i chosen
      exact changes row (List.mem_of_getElem? stored) chosen
    · exact same row
  added index row' stored missing := by
    unfold Foundations.updateWhere at stored
    rw [List.getElem?_map, missing] at stored
    cases stored

end UpdateFirst

/-- The rows at the listed positions are changed in place. -/
@[grind =] def updateAt (positions : List Nat) (change : ρ → ρ) (rows : List ρ) : List ρ :=
  rows.mapIdx fun index row => if positions.contains index then change row else row

/-- The positions of the first ready rows in an order. -/
@[grind =] def positionsOf (ready : ρ → Bool) (le : ρ → ρ → Prop) [DecidableRel le] (limit : Nat)
    (rows : List ρ) : List Nat :=
  (((rows.zipIdx.filter fun entry => ready entry.1).insertionSort
    fun first second => le first.1 second.1).take limit).map fun entry => entry.2

section UpdateAt

variable {ready : ρ → Bool} {le : ρ → ρ → Prop} [DecidableRel le] {limit : Nat}
  {change : ρ → ρ} {rows : List ρ}

theorem ready_of_mem_positionsOf {index : Nat} (member : index ∈ positionsOf ready le limit rows) :
    ∃ row, rows[index]? = some row ∧ ready row = true := by
  obtain ⟨⟨row, index⟩, selected, rfl⟩ := List.mem_map.mp member
  have sorted := List.mem_of_mem_take selected
  rw [List.mem_insertionSort] at sorted
  obtain ⟨entry, isReady⟩ := List.mem_filter.mp sorted
  exact ⟨row, List.mem_zipIdx_iff_getElem?.mp entry, isReady⟩

theorem updateAt_grown :
    Grown (fun old new => new = old ∨ (ready old = true ∧ new = change old)) (fun _ => False) rows
      (updateAt (positionsOf ready le limit rows) change rows) where
  kept index row stored := by
    unfold updateAt
    rw [List.getElem?_mapIdx, stored]
    refine ⟨_, rfl, ?_⟩
    by_cases chosen : index ∈ positionsOf ready le limit rows
    · obtain ⟨other, otherStored, isReady⟩ := ready_of_mem_positionsOf chosen
      rw [stored] at otherStored
      cases otherStored
      exact .inr ⟨isReady, by simp [chosen]⟩
    · exact .inl (by simp [chosen])
  added index row' stored missing := by
    unfold updateAt at stored
    rw [List.getElem?_mapIdx, missing] at stored
    cases stored

end UpdateAt

end BairuiPlatform.Foundations
