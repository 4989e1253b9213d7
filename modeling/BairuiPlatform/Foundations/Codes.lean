/-
Module: BairuiPlatform.Foundations.Codes
Purpose: Codes that can be told from whatever text follows them: of characters in a text
  with a closing mark, and of the elements of a list between separators.
Trusted boundary: none
Main exports: ReadsBack, readsBack_of_decoder, readsBack_flatMap, readsBack_separated
-/
import Mathlib.Data.List.Basic

namespace BairuiPlatform.Foundations

variable {α τ : Type}

/-- The code of a value can be told from the text behind it: no other value and no other
text give the same whole. Only texts of a certain kind are put behind it. -/
def ReadsBack (code : α → List τ) (Ends : List τ → Prop) (value : α) : Prop :=
  ∀ other rest rest', Ends rest → Ends rest' → code value ++ rest = code other ++ rest' →
    value = other ∧ rest = rest'

/-- A code that a decoder reads off the front of a text can be told from the text. -/
theorem readsBack_of_decoder {code : α → List τ} {Ends : List τ → Prop}
    (decode : List τ → Option (α × List τ))
    (decodes : ∀ value rest, Ends rest → decode (code value ++ rest) = some (value, rest))
    (value : α) : ReadsBack code Ends value := by
  intro other rest rest' ends ends' same
  have read : some (value, rest) = some (other, rest') := by
    rw [← decodes value rest ends, same, decodes other rest' ends']
  cases read
  exact ⟨rfl, rfl⟩

/-- Characters whose codes can be told from any text make up a text that can be told from
the rest, when a closing mark follows that begins no code. -/
theorem readsBack_flatMap {code : α → List τ} {close : τ}
    (reads : ∀ value, ReadsBack code (fun _ => True) value)
    (opens : ∀ value, ∃ head tail, code value = head :: tail ∧ head ≠ close) :
    ∀ (values others : List α) (rest rest' : List τ),
      values.flatMap code ++ close :: rest = others.flatMap code ++ close :: rest' →
      values = others ∧ rest = rest' := by
  have nonempty : ∀ value (values : List α) (rest rest' : List τ),
      (value :: values).flatMap code ++ close :: rest ≠ close :: rest' := by
    intro value values rest rest' same
    obtain ⟨head, tail, begins, apart⟩ := opens value
    rw [List.flatMap_cons, begins] at same
    exact apart (List.cons.inj same).1
  intro values
  induction values with
  | nil =>
      intro others rest rest' same
      cases others with
      | nil => exact ⟨rfl, (List.cons.inj same).2⟩
      | cons other others => exact absurd same.symm (nonempty other others rest' rest)
  | cons value values ih =>
      intro others rest rest' same
      cases others with
      | nil => exact absurd same (nonempty value values rest rest')
      | cons other others =>
          rw [List.flatMap_cons, List.flatMap_cons, List.append_assoc, List.append_assoc] at same
          obtain ⟨rfl, later⟩ := reads value other _ _ trivial trivial same
          obtain ⟨rfl, rfl⟩ := ih others rest rest' later
          exact ⟨rfl, rfl⟩

theorem intercalate_cons_cons {separator : τ} (first second : List τ) (rest : List (List τ)) :
    [separator].intercalate (first :: second :: rest) =
      first ++ separator :: [separator].intercalate (second :: rest) := by
  simp [List.intercalate]

/-- A list whose elements can be told from a separator and from a closing mark can be told
from the rest. -/
theorem readsBack_separated {code : α → List τ} {Ends : List τ → Prop} {separator close : τ}
    (apart : separator ≠ close) (separates : ∀ rest, Ends (separator :: rest))
    (closes : ∀ rest, Ends (close :: rest))
    (opens : ∀ value, ∃ head tail, code value = head :: tail ∧ head ≠ close) :
    ∀ values : List α, (∀ value ∈ values, ReadsBack code Ends value) →
      ∀ others rest rest',
        [separator].intercalate (values.map code) ++ close :: rest =
          [separator].intercalate (others.map code) ++ close :: rest' →
        values = others ∧ rest = rest' := by
  -- What stands behind an element begins with a separator or with the closing mark.
  have follow : ∀ (values : List α) (rest : List τ), ∃ next,
      (∀ value, [separator].intercalate ((value :: values).map code) ++ close :: rest =
        code value ++ next) ∧ Ends next ∧
      next = match values with
        | [] => close :: rest
        | later :: values =>
            separator :: ([separator].intercalate ((later :: values).map code) ++ close :: rest) := by
    intro values rest
    cases values with
    | nil => exact ⟨close :: rest, fun value => by simp [List.intercalate], closes rest, rfl⟩
    | cons later values =>
        refine ⟨_, fun value => ?_, separates _, rfl⟩
        rw [List.map_cons, List.map_cons, intercalate_cons_cons, List.append_assoc]
        rfl
  have nonempty : ∀ value (values : List α) (rest rest' : List τ),
      [separator].intercalate ((value :: values).map code) ++ close :: rest ≠
        close :: rest' := by
    intro value values rest rest' same
    obtain ⟨next, begins, -, -⟩ := follow values rest
    obtain ⟨head, tail, opening, other⟩ := opens value
    rw [begins value, opening] at same
    exact other (List.cons.inj same).1
  intro values
  induction values with
  | nil =>
      intro _ others rest rest' same
      cases others with
      | nil => exact ⟨rfl, (List.cons.inj same).2⟩
      | cons other others => exact absurd same.symm (nonempty other others rest' rest)
  | cons value values ih =>
      intro reads others rest rest' same
      cases others with
      | nil => exact absurd same (nonempty value values rest rest')
      | cons other others =>
          obtain ⟨next, begins, ends, next_eq⟩ := follow values rest
          obtain ⟨next', begins', ends', next_eq'⟩ := follow others rest'
          rw [begins value, begins' other] at same
          obtain ⟨rfl, behind⟩ :=
            reads value List.mem_cons_self other next next' ends ends' same
          have readsRest := fun later member => reads later (List.mem_cons_of_mem value member)
          rw [next_eq, next_eq'] at behind
          cases values with
          | nil =>
              cases others with
              | nil => exact ⟨rfl, (List.cons.inj behind).2⟩
              | cons later others => exact absurd (List.cons.inj behind).1.symm apart
          | cons second values =>
              cases others with
              | nil => exact absurd (List.cons.inj behind).1 apart
              | cons later others =>
                  obtain ⟨tails, rfl⟩ :=
                    ih readsRest (later :: others) rest rest' (List.cons.inj behind).2
                  rw [tails]
                  exact ⟨rfl, rfl⟩

end BairuiPlatform.Foundations
