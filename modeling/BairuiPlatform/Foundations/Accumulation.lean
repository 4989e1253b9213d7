/-
Module: BairuiPlatform.Foundations.Accumulation
Purpose: Tables that accumulate amounts: rows that are inserted or updated under a key, their
  sum, and the part of a sum that comes from repeated keys.
Trusted boundary: none
Main exports: upsert, Keyed.upsert, sum_upsert, firstBy, repeatsBy, sum_firstBy_add_repeatsBy
-/
import BairuiPlatform.Foundations.Table
import Mathlib.Algebra.BigOperators.Group.List.Basic
import Mathlib.Data.List.Pairwise

namespace BairuiPlatform.Foundations

variable {ρ κ M : Type*}

/-! ### Inserting or updating -/

/-- `INSERT … ON CONFLICT … DO UPDATE`, where the rows in conflict are those of a test. -/
def upsert (conflicts : ρ → Bool) (change : ρ → ρ) (row : ρ) (rows : List ρ) : List ρ :=
  if rows.any conflicts then updateWhere conflicts change rows else rows ++ [row]

/-- The key of the table stays unique. -/
theorem Keyed.upsert {key : ρ → κ} {rows : List ρ} (keyed : Keyed key rows)
    {conflicts : ρ → Bool} {change : ρ → ρ} {row : ρ}
    (keeps : ∀ other, key (change other) = key other)
    (tests : ∀ other, key other = key row → conflicts other = true) :
    Keyed key (Foundations.upsert conflicts change row rows) := by
  unfold Foundations.upsert
  split
  · exact keyed.update keeps
  · rename_i absent
    apply keyed.snoc
    intro other member same
    exact absent (List.any_eq_true.mpr ⟨other, member, tests other same⟩)

/-- Some row of the table satisfies the test afterwards. -/
theorem any_upsert {conflicts : ρ → Bool} {change : ρ → ρ} {row : ρ} {rows : List ρ}
    (keeps : ∀ other, conflicts other = true → conflicts (change other) = true)
    (tests : conflicts row = true) :
    (upsert conflicts change row rows).any conflicts = true := by
  unfold upsert
  split
  · rename_i present
    obtain ⟨other, member, chosen⟩ := List.any_eq_true.mp present
    apply List.any_eq_true.mpr
    exact ⟨change other, mem_updateWhere.mpr (.inl ⟨other, member, chosen, rfl⟩),
      keeps other chosen⟩
  · rw [List.any_append, List.any_cons, tests, Bool.true_or, Bool.or_true]

/-- A test that a row already satisfies is satisfied afterwards. -/
theorem any_upsert_of_any {conflicts test : ρ → Bool} {change : ρ → ρ} {row : ρ} {rows : List ρ}
    (keeps : ∀ other, test (change other) = test other) (present : rows.any test = true) :
    (upsert conflicts change row rows).any test = true := by
  unfold upsert
  split
  · have columns : (updateWhere conflicts change rows).map test = rows.map test :=
      map_updateWhere keeps
    have mapped := congrArg (List.any · id) columns
    rw [List.any_map, List.any_map] at mapped
    exact mapped.trans present
  · rw [List.any_append, present, Bool.true_or]

section Sums

variable [AddCommMonoid M]

/-- An amount that is added to the only row of a test is added to the sum. -/
theorem sum_updateWhere {key : ρ → κ} {rows : List ρ} (keyed : Keyed key rows)
    {selected : ρ → Bool} {change : ρ → ρ} {amount : ρ → M} {value : κ} {added : M}
    (tests : ∀ row, selected row = true ↔ key row = value)
    (adds : ∀ row, key row = value → amount (change row) = amount row + added)
    (present : rows.any selected = true) :
    ((updateWhere selected change rows).map amount).sum = (rows.map amount).sum + added := by
  induction rows with
  | nil => cases present
  | cons row rows ih =>
      obtain ⟨apart, rest⟩ := Keyed.cons.mp keyed
      cases chosen : selected row with
      | true =>
          have unchanged : updateWhere selected change rows = rows := by
            apply updateWhere_of_none
            intro other member
            apply Bool.eq_false_iff.mpr
            intro alsoChosen
            exact apart other member
              (((tests other).mp alsoChosen).trans ((tests row).mp chosen).symm)
          unfold updateWhere at unchanged ⊢
          rw [List.map_cons, unchanged, if_pos chosen, List.map_cons, List.map_cons,
            List.sum_cons, List.sum_cons, adds row ((tests row).mp chosen), add_right_comm]
      | false =>
          have later : rows.any selected = true := by
            rw [List.any_cons, chosen, Bool.false_or] at present
            exact present
          have summed := ih rest later
          unfold updateWhere at summed ⊢
          rw [List.map_cons, if_neg (by rw [chosen]; exact Bool.false_ne_true), List.map_cons,
            List.map_cons, List.sum_cons, List.sum_cons, summed, add_assoc]

/-- Inserting a row with an amount, or adding the amount to the row of its key, adds it to the
sum. -/
theorem sum_upsert {key : ρ → κ} {rows : List ρ} (keyed : Keyed key rows)
    {conflicts : ρ → Bool} {change : ρ → ρ} {amount : ρ → M} {row : ρ}
    (tests : ∀ other, conflicts other = true ↔ key other = key row)
    (adds : ∀ other, key other = key row → amount (change other) = amount other + amount row) :
    ((upsert conflicts change row rows).map amount).sum = (rows.map amount).sum + amount row := by
  unfold upsert
  split
  · rename_i present
    exact sum_updateWhere keyed tests adds present
  · rw [List.map_append, List.sum_append, List.map_singleton, List.sum_singleton]

/-! ### Repeated keys -/

variable [DecidableEq κ]

/-- The rows of a list, the latest first, whose key no earlier row has. -/
def firstBy (key : ρ → κ) (rows : List ρ) : List ρ :=
  rows.pwFilter fun row earlier => key row ≠ key earlier

/-- The rows of a list, the latest first, whose key an earlier row has. -/
def repeatsBy (key : ρ → κ) : List ρ → List ρ
  | [] => []
  | row :: earlier =>
      if ∀ other ∈ earlier, key row ≠ key other then repeatsBy key earlier
      else row :: repeatsBy key earlier

/-- A row is new when its key is not among the first rows. -/
theorem forall_mem_firstBy {key : ρ → κ} {row : ρ} {earlier : List ρ} :
    (∀ other ∈ firstBy key earlier, key row ≠ key other) ↔
      ∀ other ∈ earlier, key row ≠ key other := by
  apply List.forall_mem_pwFilter
  intro first second third apart
  by_cases same : key first = key second
  · exact Or.inr (same ▸ apart)
  · exact Or.inl same

/-- A sum is the sum over the first rows and the sum over the repeats. -/
theorem sum_firstBy_add_repeatsBy (key : ρ → κ) (amount : ρ → M) (rows : List ρ) :
    ((firstBy key rows).map amount).sum + ((repeatsBy key rows).map amount).sum =
      (rows.map amount).sum := by
  induction rows with
  | nil => exact add_zero 0
  | cons row earlier ih =>
      rw [List.map_cons, List.sum_cons, ← ih]
      by_cases new : ∀ other ∈ earlier, key row ≠ key other
      · have first : firstBy key (row :: earlier) = row :: firstBy key earlier :=
          List.pwFilter_cons_of_pos (forall_mem_firstBy.mpr new)
        rw [first, repeatsBy, if_pos new, List.map_cons, List.sum_cons, add_assoc]
      · have first : firstBy key (row :: earlier) = firstBy key earlier :=
          List.pwFilter_cons_of_neg fun apart => new (forall_mem_firstBy.mp apart)
        rw [first, repeatsBy, if_neg new, List.map_cons, List.sum_cons, add_left_comm]

end Sums

end BairuiPlatform.Foundations
