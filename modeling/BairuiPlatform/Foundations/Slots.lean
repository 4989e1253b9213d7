/-
Module: BairuiPlatform.Foundations.Slots
Purpose: Queues in which every owner has one slot for waiting work and one for running work,
  and new work is merged into what waits; lists with one counting entry for each key.
Trusted boundary: none
Main exports: SlotPhase, Slots, SlotChange, SlotStep, Slots.step, SlotStep.waits, Sole,
  Sole.grown, Sole.snoc, Sole.iff_countP, Sole.replaced_iff
-/
import BairuiPlatform.Foundations.Tickets

namespace BairuiPlatform.Foundations

/-- The slot that an entry occupies, if it has not ended. -/
inductive SlotPhase where
  | waiting | running | ended
deriving Repr, DecidableEq

variable {ρ κ : Type*} {owner : ρ → κ} {phase : ρ → SlotPhase} {rows rows' : List ρ}

/-- Some entry of the owner waits. -/
@[grind =] def Waits (owner : ρ → κ) (phase : ρ → SlotPhase) (who : κ) (rows : List ρ) : Prop :=
  ∃ row ∈ rows, owner row = who ∧ phase row = .waiting

/-- Some entry of the owner runs. -/
@[grind =] def Runs (owner : ρ → κ) (phase : ρ → SlotPhase) (who : κ) (rows : List ρ) : Prop :=
  ∃ row ∈ rows, owner row = who ∧ phase row = .running

/-- Two entries of one owner, by their positions. -/
structure Together (owner : ρ → κ) (rows : List ρ) (first second : Nat) (one other : ρ) :
    Prop where
  first : rows[first]? = some one
  second : rows[second]? = some other
  owner : owner one = owner other

/-- Every owner has at most one entry that waits and one that runs; the one that waits is the
last entry of its owner, and after the one that runs only the one that waits comes. -/
structure Slots (owner : ρ → κ) (phase : ρ → SlotPhase) (rows : List ρ) : Prop where
  waiting : ∀ i j one other, Together owner rows i j one other →
    phase one = .waiting → phase other = .waiting → i = j
  running : ∀ i j one other, Together owner rows i j one other →
    phase one = .running → phase other = .running → i = j
  last : ∀ i j one other, Together owner rows i j one other → phase one = .waiting → j ≤ i
  after : ∀ i j one other, Together owner rows i j one other → phase one = .running → i < j →
    phase other = .waiting

/-- What may happen to an entry in place. -/
inductive SlotChange (owner : ρ → κ) (phase : ρ → SlotPhase) (rows : List ρ) (old new : ρ) :
    Prop where
  | keep (same : phase new = phase old)
  | take (waited : phase old = .waiting) (running : phase new = .running)
      (free : ¬ Runs owner phase (owner old) rows)
  | finish (ran : phase old = .running) (ended : phase new = .ended)
  | requeue (ran : phase old = .running) (waiting : phase new = .waiting)
      (free : ¬ Waits owner phase (owner old) rows)

/-- One step of the queue: entries change in place, or an entry joins that nothing of its
owner waits beside. -/
inductive SlotStep (owner : ρ → κ) (phase : ρ → SlotPhase) (rows rows' : List ρ) : Prop where
  | change (grown : Grown
      (fun old new => owner new = owner old ∧ SlotChange owner phase rows old new)
      (fun _ => False) rows rows')
  | join {row : ρ} (waiting : phase row = .waiting)
      (free : ¬ Waits owner phase (owner row) rows) (joined : rows' = rows ++ [row])

/-- The step takes an entry of the owner. -/
def Takes (owner : ρ → κ) (phase : ρ → SlotPhase) (who : κ) (rows rows' : List ρ) : Prop :=
  ∃ (index : Nat) (old new : ρ), rows[index]? = some old ∧ rows'[index]? = some new ∧
    owner old = who ∧ phase old = .waiting ∧ phase new = .running

@[simp] theorem Slots.nil : Slots owner phase [] where
  waiting i j one other together := by cases together.first
  running i j one other together := by cases together.first
  last i j one other together := by cases together.first
  after i j one other together := by cases together.first

/-- Rows with the one at a position changed. -/
theorem Grown.modify {Later : ρ → ρ → Prop} {New : ρ → Prop} {change : ρ → ρ} {position : Nat}
    (same : ∀ row, Later row row)
    (changes : ∀ row, rows[position]? = some row → Later row (change row)) :
    Grown Later New rows (rows.modify position change) where
  kept index row stored := by
    rw [List.getElem?_modify, stored]
    refine ⟨_, rfl, ?_⟩
    dsimp only
    split
    · rename_i here
      exact changes row (here ▸ stored)
    · exact same row
  added index row' stored missing := by
    rw [List.getElem?_modify, missing] at stored
    cases stored

/-- The entry before an entry of a queue that grew in place. -/
theorem Grown.before {Later : ρ → ρ → Prop} (grown : Grown Later (fun _ => False) rows rows')
    {index : Nat} {new : ρ} (stored : rows'[index]? = some new) :
    ∃ old, rows[index]? = some old ∧ Later old new := by
  cases before : rows[index]? with
  | none => exact (grown.added index new stored before).elim
  | some old =>
      obtain ⟨later, storedLater, step⟩ := grown.kept index old before
      rw [stored] at storedLater
      cases storedLater
      exact ⟨old, rfl, step⟩

/-- Two entries of one owner were two entries of that owner before. -/
theorem Together.before {Change : ρ → ρ → Prop}
    (grown : Grown (fun old new => owner new = owner old ∧ Change old new) (fun _ => False)
      rows rows')
    {i j : Nat} {one other : ρ} (together : Together owner rows' i j one other) :
    ∃ oldOne oldOther, Together owner rows i j oldOne oldOther ∧ Change oldOne one ∧
      Change oldOther other := by
  obtain ⟨oldOne, oneBefore, oneOwner, oneChange⟩ := grown.before together.first
  obtain ⟨oldOther, otherBefore, otherOwner, otherChange⟩ := grown.before together.second
  refine ⟨oldOne, oldOther, ⟨oneBefore, otherBefore, ?_⟩, oneChange, otherChange⟩
  rw [← oneOwner, ← otherOwner]
  exact together.owner

theorem Together.waits {i j : Nat} {one other : ρ} (together : Together owner rows i j one other)
    (waiting : phase other = .waiting) : Waits owner phase (owner one) rows :=
  ⟨other, List.mem_of_getElem? together.second, together.owner.symm, waiting⟩

theorem Together.runs {i j : Nat} {one other : ρ} (together : Together owner rows i j one other)
    (running : phase other = .running) : Runs owner phase (owner one) rows :=
  ⟨other, List.mem_of_getElem? together.second, together.owner.symm, running⟩

theorem Together.symm {i j : Nat} {one other : ρ} (together : Together owner rows i j one other) :
    Together owner rows j i other one :=
  ⟨together.second, together.first, together.owner.symm⟩

/-- What waits after a change waited before, or it ran and nothing of its owner waited. -/
theorem SlotChange.of_waiting {old new : ρ} (change : SlotChange owner phase rows old new)
    (waiting : phase new = .waiting) :
    phase old = .waiting ∨ (phase old = .running ∧ ¬ Waits owner phase (owner old) rows) := by
  cases change with
  | keep same => exact Or.inl (same.symm.trans waiting)
  | take waited running => rw [running] at waiting; cases waiting
  | finish ran ended => rw [ended] at waiting; cases waiting
  | requeue ran _ free => exact Or.inr ⟨ran, free⟩

/-- What runs after a change ran before, or it waited and nothing of its owner ran. -/
theorem SlotChange.of_running {old new : ρ} (change : SlotChange owner phase rows old new)
    (running : phase new = .running) :
    phase old = .running ∨ (phase old = .waiting ∧ ¬ Runs owner phase (owner old) rows) := by
  cases change with
  | keep same => exact Or.inl (same.symm.trans running)
  | take waited _ free => exact Or.inr ⟨waited, free⟩
  | finish ran ended => rw [ended] at running; cases running
  | requeue ran waiting => rw [waiting] at running; cases running

/-- Changes in place keep the slots. -/
theorem Slots.change (slots : Slots owner phase rows)
    (grown : Grown (fun old new => owner new = owner old ∧ SlotChange owner phase rows old new)
      (fun _ => False) rows rows') : Slots owner phase rows' := by
  constructor
  case waiting =>
    intro i j one other together oneWaits otherWaits
    obtain ⟨oldOne, oldOther, before, oneChange, otherChange⟩ := together.before grown
    rcases oneChange.of_waiting oneWaits with oneWaited | ⟨oneRan, oneFree⟩ <;>
      rcases otherChange.of_waiting otherWaits with otherWaited | ⟨otherRan, otherFree⟩
    · exact slots.waiting i j _ _ before oneWaited otherWaited
    · exact absurd (before.symm.waits oneWaited) otherFree
    · exact absurd (before.waits otherWaited) oneFree
    · exact slots.running i j _ _ before oneRan otherRan
  case running =>
    intro i j one other together oneRuns otherRuns
    obtain ⟨oldOne, oldOther, before, oneChange, otherChange⟩ := together.before grown
    rcases oneChange.of_running oneRuns with oneRan | ⟨oneWaited, oneFree⟩ <;>
      rcases otherChange.of_running otherRuns with otherRan | ⟨otherWaited, otherFree⟩
    · exact slots.running i j _ _ before oneRan otherRan
    · exact absurd (before.symm.runs oneRan) otherFree
    · exact absurd (before.runs otherRan) oneFree
    · exact slots.waiting i j _ _ before oneWaited otherWaited
  case last =>
    intro i j one other together oneWaits
    obtain ⟨oldOne, oldOther, before, oneChange, -⟩ := together.before grown
    rcases oneChange.of_waiting oneWaits with oneWaited | ⟨oneRan, oneFree⟩
    · exact slots.last i j _ _ before oneWaited
    · apply Nat.le_of_not_lt
      intro later
      exact oneFree (before.waits (slots.after i j _ _ before oneRan later))
  case after =>
    intro i j one other together oneRuns later
    obtain ⟨oldOne, oldOther, before, oneChange, otherChange⟩ := together.before grown
    rcases oneChange.of_running oneRuns with oneRan | ⟨oneWaited, -⟩
    · have otherWaited := slots.after i j _ _ before oneRan later
      cases otherChange with
      | keep same => exact same.trans otherWaited
      | take waited running free => exact absurd (before.symm.runs oneRan) free
      | finish ran ended => rw [ran] at otherWaited; cases otherWaited
      | requeue ran waiting free => exact waiting
    · exact absurd (slots.last i j _ _ before oneWaited) (Nat.not_le_of_lt later)

/-- The entries of a longer queue. -/
theorem getElem?_snoc {row entry : ρ} {index : Nat}
    (stored : (rows ++ [row])[index]? = some entry) :
    rows[index]? = some entry ∨ (index = rows.length ∧ entry = row) := by
  rcases Nat.lt_or_ge index rows.length with early | late
  · rw [List.getElem?_append_left early] at stored
    exact Or.inl stored
  · rw [List.getElem?_append_right late] at stored
    obtain ⟨bound, -⟩ := List.getElem?_eq_some_iff.mp stored
    have first : index - rows.length = 0 := by
      rw [List.length_singleton] at bound
      omega
    rw [first, List.getElem?_cons_zero, Option.some.injEq] at stored
    exact Or.inr ⟨by omega, stored.symm⟩

/-- An entry that joins keeps the slots. -/
theorem Slots.join (slots : Slots owner phase rows) {row : ρ} (waiting : phase row = .waiting)
    (free : ¬ Waits owner phase (owner row) rows) : Slots owner phase (rows ++ [row]) := by
  have bound : ∀ {index : Nat} {entry : ρ}, rows[index]? = some entry → index < rows.length :=
    fun stored => (List.getElem?_eq_some_iff.mp stored).1
  have apart : ∀ {index : Nat} {entry : ρ}, rows[index]? = some entry →
      owner entry = owner row → phase entry ≠ .waiting :=
    fun stored same waits => free ⟨_, List.mem_of_getElem? stored, same, waits⟩
  constructor
  case waiting =>
    intro i j one other together oneWaits otherWaits
    rcases getElem?_snoc together.first with oneOld | ⟨oneLast, rfl⟩ <;>
      rcases getElem?_snoc together.second with otherOld | ⟨otherLast, rfl⟩
    · exact slots.waiting i j one other ⟨oneOld, otherOld, together.owner⟩ oneWaits otherWaits
    · exact absurd oneWaits (apart oneOld together.owner)
    · exact absurd otherWaits (apart otherOld together.owner.symm)
    · exact oneLast.trans otherLast.symm
  case running =>
    intro i j one other together oneRuns otherRuns
    rcases getElem?_snoc together.first with oneOld | ⟨oneLast, rfl⟩ <;>
      rcases getElem?_snoc together.second with otherOld | ⟨otherLast, rfl⟩
    · exact slots.running i j one other ⟨oneOld, otherOld, together.owner⟩ oneRuns otherRuns
    · rw [waiting] at otherRuns
      cases otherRuns
    · rw [waiting] at oneRuns
      cases oneRuns
    · exact oneLast.trans otherLast.symm
  case last =>
    intro i j one other together oneWaits
    rcases getElem?_snoc together.first with oneOld | ⟨oneLast, rfl⟩ <;>
      rcases getElem?_snoc together.second with otherOld | ⟨otherLast, rfl⟩
    · exact slots.last i j one other ⟨oneOld, otherOld, together.owner⟩ oneWaits
    · exact absurd oneWaits (apart oneOld together.owner)
    · rw [oneLast]
      exact Nat.le_of_lt (bound otherOld)
    · exact Nat.le_of_eq (otherLast.trans oneLast.symm)
  case after =>
    intro i j one other together oneRuns later
    rcases getElem?_snoc together.first with oneOld | ⟨oneLast, rfl⟩ <;>
      rcases getElem?_snoc together.second with otherOld | ⟨otherLast, rfl⟩
    · exact slots.after i j one other ⟨oneOld, otherOld, together.owner⟩ oneRuns later
    · exact waiting
    · rw [waiting] at oneRuns
      cases oneRuns
    · exact waiting

/-- Every step keeps the slots. -/
theorem Slots.step (slots : Slots owner phase rows) (step : SlotStep owner phase rows rows') :
    Slots owner phase rows' := by
  cases step with
  | change grown => exact slots.change grown
  | join waiting free joined =>
      subst joined
      exact slots.join waiting free

/-- What waits goes on waiting until it is taken. -/
theorem SlotStep.waits (step : SlotStep owner phase rows rows') {who : κ}
    (waits : Waits owner phase who rows) :
    Waits owner phase who rows' ∨ Takes owner phase who rows rows' := by
  obtain ⟨row, member, owned, waiting⟩ := waits
  cases step with
  | change grown =>
      obtain ⟨index, stored⟩ := List.mem_iff_getElem?.mp member
      obtain ⟨new, storedNew, sameOwner, change⟩ := grown.kept index row stored
      cases change with
      | keep same =>
          exact Or.inl ⟨new, List.mem_of_getElem? storedNew, sameOwner.trans owned,
            same.trans waiting⟩
      | take waited running free =>
          exact Or.inr ⟨index, row, new, stored, storedNew, owned, waiting, running⟩
      | finish ran ended => rw [waiting] at ran; cases ran
      | requeue ran waits free => rw [waiting] at ran; cases ran
  | join _ _ joined =>
      subst joined
      exact Or.inl ⟨row, List.mem_append_left _ member, owned, waiting⟩

/-- Entries that only one position has are at most one. -/
theorem countP_le_one {wanted : ρ → Bool}
    (unique : ∀ (i j : Nat) (one other : ρ), rows[i]? = some one → rows[j]? = some other →
      wanted one = true → wanted other = true → i = j) : rows.countP wanted ≤ 1 := by
  induction rows with
  | nil => exact Nat.zero_le 1
  | cons row rows ih =>
      cases chosen : wanted row with
      | false =>
          rw [List.countP_cons_of_neg (by rw [chosen]; exact Bool.false_ne_true)]
          apply ih
          intro i j one other first second oneWanted otherWanted
          have same := unique (i + 1) (j + 1) one other first second oneWanted otherWanted
          omega
      | true =>
          have none : rows.countP wanted = 0 := by
            apply List.countP_eq_zero.mpr
            intro other member otherWanted
            obtain ⟨index, stored⟩ := List.mem_iff_getElem?.mp member
            have same := unique 0 (index + 1) row other rfl stored chosen otherWanted
            omega
          rw [List.countP_cons_of_pos chosen, none]

/-- Of the entries of an owner at most one waits and at most one runs. -/
theorem Slots.countP_le_one [DecidableEq κ] (slots : Slots owner phase rows) (who : κ) :
    (rows.countP fun row => owner row = who && phase row = .waiting) ≤ 1 ∧
      (rows.countP fun row => owner row = who && phase row = .running) ≤ 1 := by
  constructor
  · apply Foundations.countP_le_one
    intro i j one other first second oneWaits otherWaits
    simp only [Bool.and_eq_true, decide_eq_true_eq] at oneWaits otherWaits
    exact slots.waiting i j one other ⟨first, second, oneWaits.1.trans otherWaits.1.symm⟩
      oneWaits.2 otherWaits.2
  · apply Foundations.countP_le_one
    intro i j one other first second oneRuns otherRuns
    simp only [Bool.and_eq_true, decide_eq_true_eq] at oneRuns otherRuns
    exact slots.running i j one other ⟨first, second, oneRuns.1.trans otherRuns.1.symm⟩
      oneRuns.2 otherRuns.2

/-! ### One entry for each key among those that count -/

/-- Of the entries that count, no two have one key. -/
def Sole (counts : ρ → Bool) (key : ρ → κ) (rows : List ρ) : Prop :=
  ∀ (i j : Nat) (one other : ρ), rows[i]? = some one → rows[j]? = some other →
    counts one = true → counts other = true → key one = key other → i = j

namespace Sole

variable {counts : ρ → Bool} {key : ρ → κ}

theorem nil : Sole counts key [] := by
  intro i j one other first
  cases first

/-- Changes in place that keep the keys and bring no entry back. -/
theorem grown (sole : Sole counts key rows)
    (grown : Grown (fun old new => key new = key old ∧ (counts new = true → counts old = true))
      (fun _ => False) rows rows') : Sole counts key rows' := by
  intro i j one other first second oneCounts otherCounts same
  obtain ⟨oldOne, oneBefore, oneKey, oneCounted⟩ := grown.before first
  obtain ⟨oldOther, otherBefore, otherKey, otherCounted⟩ := grown.before second
  apply sole i j oldOne oldOther oneBefore otherBefore (oneCounted oneCounts)
    (otherCounted otherCounts)
  rw [← oneKey, ← otherKey]
  exact same

/-- An entry joins that has no counting entry of its key beside it. -/
theorem snoc (sole : Sole counts key rows) {row : ρ}
    (free : ∀ other ∈ rows, counts other = true → key other ≠ key row) :
    Sole counts key (rows ++ [row]) := by
  have bound : ∀ {index : Nat} {entry : ρ}, rows[index]? = some entry → entry ∈ rows :=
    fun stored => List.mem_of_getElem? stored
  intro i j one other first second oneCounts otherCounts same
  rcases getElem?_snoc first with oneOld | ⟨oneLast, rfl⟩ <;>
    rcases getElem?_snoc second with otherOld | ⟨otherLast, rfl⟩
  · exact sole i j one other oneOld otherOld oneCounts otherCounts same
  · exact absurd same (free one (bound oneOld) oneCounts)
  · exact absurd same.symm (free other (bound otherOld) otherCounts)
  · exact oneLast.trans otherLast.symm

/-- Of the entries that count there is at most one for each key. -/
theorem iff_countP [DecidableEq κ] : Sole counts key rows ↔
    ∀ who, (rows.countP fun row => counts row && key row = who) ≤ 1 := by
  constructor
  · intro sole who
    apply Foundations.countP_le_one
    intro i j one other first second oneWanted otherWanted
    simp only [Bool.and_eq_true, decide_eq_true_eq] at oneWanted otherWanted
    exact sole i j one other first second oneWanted.1 otherWanted.1
      (oneWanted.2.trans otherWanted.2.symm)
  · intro few i j one other first second oneCounts otherCounts same
    have apart : ∀ {i j : Nat} {one other : ρ}, rows[i]? = some one → rows[j]? = some other →
        counts one = true → counts other = true → key one = key other → ¬ i < j := by
      intro i j one other first second oneCounts otherCounts same before
      have pair : [one, other].Sublist rows := by
        obtain ⟨bound, rfl⟩ := List.getElem?_eq_some_iff.mp second
        obtain ⟨early, rfl⟩ := List.getElem?_eq_some_iff.mp first
        have ordered : List.Pairwise (· < ·) [(⟨i, early⟩ : Fin rows.length), ⟨j, bound⟩] := by
          simpa using before
        exact List.map_getElem_sublist ordered
      have two : [one, other].countP (fun row => counts row && key row = key other) = 2 := by
        simp [oneCounts, otherCounts, same]
      have most := (pair.countP_le (p := fun row => counts row && key row = key other)).trans
        (few (key other))
      omega
    rcases Nat.lt_trichotomy i j with before | equal | after
    · exact absurd before (apart first second oneCounts otherCounts same)
    · exact equal
    · exact absurd after (apart second first otherCounts oneCounts same.symm)

/-- An entry replaced by one of the same key: the new one counts only where the old one did,
or nothing of its key does. -/
theorem replaced_iff [DecidableEq κ] (sole : Sole counts key rows) {row row' : ρ}
    (replaced : Replaced row row' rows rows') (keeps : key row' = key row) :
    Sole counts key rows' ↔
      (counts row' = true → counts row = true ∨
        ∀ other ∈ rows, counts other = true → key other ≠ key row) := by
  obtain ⟨before, after, rfl, rfl⟩ := replaced
  rw [iff_countP] at sole ⊢
  simp only [List.countP_append, List.countP_cons, keeps] at sole ⊢
  constructor
  · intro few counted
    cases was : counts row with
    | true => exact .inl rfl
    | false =>
        refine .inr fun other member otherCounts same => ?_
        have beside : other ∈ before ∨ other ∈ after := by
          rcases List.mem_append.mp member with left | right
          · exact .inl left
          · rcases List.mem_cons.mp right with rfl | right
            · rw [was] at otherCounts
              cases otherCounts
            · exact .inr right
        have chosen : (counts other && key other = key row) = true := by
          simp [otherCounts, same]
        have counted_in : ∀ part : List ρ, other ∈ part →
            0 < part.countP fun entry => counts entry && key entry = key row :=
          fun part inside => List.countP_pos_iff.mpr ⟨other, inside, chosen⟩
        have most := few (key row)
        rw [counted, if_pos (by simp)] at most
        rcases beside with left | right
        · have some := counted_in before left
          omega
        · have some := counted_in after right
          omega
  · intro allowed who
    have most := sole who
    split
    · rename_i chosen
      simp only [Bool.and_eq_true, decide_eq_true_eq] at chosen
      obtain ⟨counted, rfl⟩ := chosen
      rcases allowed counted with was | free
      · rw [was, if_pos (by simp)] at most
        exact most
      · have none : ∀ part : List ρ, (∀ other ∈ part, other ∈ before ++ row :: after) →
            part.countP (fun other => counts other && key other = key row) = 0 := by
          intro part included
          apply List.countP_eq_zero.mpr
          intro other member wanted
          simp only [Bool.and_eq_true, decide_eq_true_eq] at wanted
          exact free other (included other member) wanted.1 wanted.2
        rw [none before fun other member => List.mem_append_left _ member,
          none after fun other member =>
            List.mem_append_right _ (List.mem_cons_of_mem _ member)]
    · omega

end Sole

end BairuiPlatform.Foundations
