/-
Module: BairuiPlatform.Foundations.Scan
Purpose: The first place of a text at which a test succeeds, literals that are compared letter by
  letter, and texts in which a literal is replaced.
Trusted boundary: none
Main exports: first, first_append, first_append_rel, behindBy, behindBy_append, replaceEach,
  replaceEach_eq_self_iff, replaceEach_append_cons
-/
import Mathlib.Data.List.Infix

namespace BairuiPlatform

namespace Foundations

namespace Scan

variable {α β : Type*}

/-! ### The first match -/

/-- What a test finds at the first place at which it succeeds. -/
@[grind =] def first (test : List α → Option β) : List α → Option β
  | [] => none
  | c :: rest => (test (c :: rest)).or (first test rest)

/-- In a text with two parts a test looks at the places of the first part, each with the second
part behind it, and then at those of the second. -/
theorem first_append {test inner : List α → Option β} {text rest : List α}
    (local_ : ∀ suffix, suffix ≠ [] → suffix <:+ text → test (suffix ++ rest) = inner suffix) :
    first test (text ++ rest) = (first inner text).or (first test rest) := by
  induction text with
  | nil => rfl
  | cons c text ih =>
      have later := ih fun suffix filled inside =>
        local_ suffix filled (inside.trans (List.suffix_cons c text))
      have here := local_ (c :: text) (List.cons_ne_nil c text) List.suffix_rfl
      rw [List.cons_append] at here ⊢
      rw [first, here, later, first, Option.or_assoc]

/-- Two tests that agree up to a relation at every place of a text, of which one looks further
behind the text, find results that are related. -/
theorem first_append_rel {γ : Type*} {related : β → γ → Prop} {test : List α → Option β}
    {other : List α → Option γ} {text rest : List α} {behind : Option γ}
    (local_ : ∀ suffix, suffix ≠ [] → suffix <:+ text →
      Option.Rel related (test (suffix ++ rest)) (other suffix))
    (last : Option.Rel related (first test rest) behind) :
    Option.Rel related (first test (text ++ rest)) ((first other text).or behind) := by
  induction text with
  | nil => exact last
  | cons c text ih =>
      have later := ih fun suffix filled inside =>
        local_ suffix filled (inside.trans (List.suffix_cons c text))
      have here := local_ (c :: text) (List.cons_ne_nil c text) List.suffix_rfl
      rw [List.cons_append] at here ⊢
      rw [first, first, Option.or_assoc]
      cases found : test (c :: (text ++ rest)) with
      | none =>
          rw [found] at here
          cases met : other (c :: text) with
          | none => exact later
          | some _ => rw [met] at here; cases here
      | some value =>
          rw [found] at here
          cases met : other (c :: text) with
          | none => rw [met] at here; cases here
          | some _ => rw [met] at here; exact here

/-- A part of a text without a match is passed. -/
theorem first_append_of_none {test : List α → Option β} {text rest : List α}
    (none_ : ∀ suffix, suffix ≠ [] → suffix <:+ text → test (suffix ++ rest) = none) :
    first test (text ++ rest) = first test rest := by
  have nothing (text : List α) : first (fun _ => (none : Option β)) text = none := by
    induction text with
    | nil => rfl
    | cons c text ih => rw [first, ih]; rfl
  rw [first_append none_, nothing]
  rfl

/-- A test that fails at every place that does not begin with one letter passes a text without
it. -/
theorem first_append_of_not_mem {test : List α → Option β} {mark : α} {text rest : List α}
    (begins : ∀ c rest, c ≠ mark → test (c :: rest) = none) (free : mark ∉ text) :
    first test (text ++ rest) = first test rest := by
  refine first_append_of_none fun suffix filled inside => ?_
  cases suffix with
  | nil => exact absurd rfl filled
  | cons c suffix =>
      refine begins c _ ?_
      rintro rfl
      exact free (inside.mem List.mem_cons_self)

/-! ### Literals -/

/-- The rest of a text behind a literal. -/
@[grind =] def behindBy (same : α → α → Bool) : List α → List α → Option (List α)
  | [], text => some text
  | _ :: _, [] => none
  | c :: literal, d :: text => if same c d then behindBy same literal text else none

/-- A literal ends before a letter that it does not hold. -/
theorem behindBy_append {same : α → α → Bool} {literal text rest : List α} {mark : α}
    (free : ∀ c ∈ literal, same c mark = false) :
    behindBy same literal (text ++ mark :: rest) =
      (behindBy same literal text).map (· ++ mark :: rest) := by
  induction literal generalizing text with
  | nil => rfl
  | cons c literal ih =>
      have later := fun text => @ih text fun d member =>
        free d (List.mem_cons_of_mem c member)
      cases text with
      | nil => simp [behindBy, free c List.mem_cons_self]
      | cons d text =>
          rw [List.cons_append, behindBy, behindBy, later]
          split <;> rfl

theorem behindBy_self {same : α → α → Bool} (refl : ∀ c, same c c = true)
    (literal rest : List α) : behindBy same literal (literal ++ rest) = some rest := by
  induction literal with
  | nil => rfl
  | cons c literal ih => rw [List.cons_append, behindBy, if_pos (refl c), ih]

/-! ### Replacements -/

variable [DecidableEq α]

/-- The places of a literal in a text are replaced by one letter, from left to right. The count is
the number of letters that still belong to the last place. -/
@[grind =] def replaceFrom (literal : List α) (letter : α) : Nat → List α → List α
  | _, [] => []
  | pending + 1, _ :: rest => replaceFrom literal letter pending rest
  | 0, c :: rest =>
      if literal.isPrefixOf (c :: rest) then
        letter :: replaceFrom literal letter (literal.length - 1) rest
      else c :: replaceFrom literal letter 0 rest

/-- The places of a literal in a text are replaced by one letter. -/
def replaceEach (literal : List α) (letter : α) (text : List α) : List α :=
  replaceFrom literal letter 0 text

section Replacement

variable {literal : List α} {letter mark : α}

theorem length_replaceFrom_le (letter : α) (filled : literal ≠ []) {pending : Nat}
    {text : List α} (inside : pending ≤ text.length) :
    (replaceFrom literal letter pending text).length + pending ≤ text.length := by
  induction text generalizing pending with
  | nil =>
      obtain rfl := Nat.le_zero.mp inside
      rfl
  | cons c text ih =>
      cases pending with
      | succ pending =>
          have later := ih (Nat.le_of_succ_le_succ inside)
          rw [replaceFrom, List.length_cons]
          omega
      | zero =>
          rw [replaceFrom]
          split
          · rename_i found
            have bounded := (List.isPrefixOf_iff_prefix.mp found).length_le
            have positive := List.length_pos_iff.mpr filled
            rw [List.length_cons] at bounded
            have later := ih (show literal.length - 1 ≤ text.length by omega)
            simp only [List.length_cons]
            omega
          · have later := ih (Nat.zero_le _)
            simp only [List.length_cons]
            omega

/-- A text becomes shorter where a literal of two letters or more is replaced. -/
theorem length_replaceEach_lt (letter : α) (long : 2 ≤ literal.length) {text : List α}
    (found : literal <:+: text) : (replaceEach literal letter text).length < text.length := by
  have filled : literal ≠ [] := by
    rintro rfl
    exact absurd long (Nat.not_succ_le_zero 1)
  unfold replaceEach
  induction text with
  | nil =>
      rw [List.infix_nil] at found
      exact absurd found filled
  | cons c text ih =>
      rw [replaceFrom]
      split
      · rename_i begins
        have bounded := (List.isPrefixOf_iff_prefix.mp begins).length_le
        rw [List.length_cons] at bounded
        have later := length_replaceFrom_le letter filled
          (show literal.length - 1 ≤ text.length by omega)
        simp only [List.length_cons]
        omega
      · rename_i elsewhere
        rw [List.isPrefixOf_iff_prefix] at elsewhere
        have later := ih ((List.infix_cons_iff.mp found).resolve_left elsewhere)
        simp only [List.length_cons]
        omega

/-- A text that does not hold the literal stays as it is. -/
theorem replaceEach_eq_self_of_not_infix {text : List α} (free : ¬literal <:+: text) :
    replaceEach literal letter text = text := by
  unfold replaceEach
  induction text with
  | nil => rfl
  | cons c text ih =>
      rw [List.infix_cons_iff, not_or] at free
      rw [replaceFrom, if_neg (by rw [List.isPrefixOf_iff_prefix]; exact free.1), ih free.2]

theorem replaceEach_eq_self_iff (long : 2 ≤ literal.length) {text : List α} :
    replaceEach literal letter text = text ↔ ¬literal <:+: text := by
  constructor
  · intro same found
    have shorter := length_replaceEach_lt letter long found
    rw [same] at shorter
    exact absurd shorter (Nat.lt_irrefl _)
  · exact replaceEach_eq_self_of_not_infix

theorem replaceFrom_append_cons (filled : literal ≠ []) (free : mark ∉ literal) {pending : Nat}
    {text : List α} (inside : pending ≤ text.length) (rest : List α) :
    replaceFrom literal letter pending (text ++ mark :: rest) =
      replaceFrom literal letter pending text ++ mark :: replaceFrom literal letter 0 rest := by
  induction text generalizing pending with
  | nil =>
      obtain rfl := Nat.le_zero.mp inside
      obtain ⟨c, tail, rfl⟩ := List.exists_cons_of_ne_nil filled
      have other : ¬(c :: tail).isPrefixOf (mark :: rest) := by
        rw [List.isPrefixOf_iff_prefix, List.cons_prefix_cons]
        rintro ⟨rfl, -⟩
        exact free List.mem_cons_self
      show replaceFrom (c :: tail) letter 0 (mark :: rest) = _
      rw [replaceFrom.eq_3, if_neg other]
      rfl
  | cons c text ih =>
      cases pending with
      | succ pending =>
          rw [List.cons_append, replaceFrom, replaceFrom, ih (Nat.le_of_succ_le_succ inside)]
      | zero =>
          -- The literal ends before the mark, so it begins here if it begins without the rest.
          have same : literal.isPrefixOf (c :: text ++ mark :: rest) =
              literal.isPrefixOf (c :: text) := by
            rw [Bool.eq_iff_iff, List.isPrefixOf_iff_prefix, List.isPrefixOf_iff_prefix]
            constructor
            · intro begins
              rcases Nat.le_total literal.length (c :: text).length with short | longer
              · exact List.prefix_of_prefix_length_le begins (List.prefix_append _ _) short
              · rcases Nat.eq_or_lt_of_le longer with equal | further
                · exact List.prefix_of_prefix_length_le begins (List.prefix_append _ _)
                    (Nat.le_of_eq equal.symm)
                · have holds : c :: text ++ [mark] <+: literal := by
                    have inside : c :: text ++ [mark] <+: c :: text ++ mark :: rest :=
                      ⟨rest, by simp⟩
                    refine List.prefix_of_prefix_length_le inside begins ?_
                    rw [List.length_append]
                    exact further
                  exact absurd (holds.mem (by simp)) free
            · exact fun begins => begins.trans (List.prefix_append _ _)
          rw [List.cons_append] at same
          rw [List.cons_append, replaceFrom, replaceFrom, same]
          split
          · rename_i begins
            have bounded := (List.isPrefixOf_iff_prefix.mp begins).length_le
            rw [List.length_cons] at bounded
            rw [ih (show literal.length - 1 ≤ text.length by omega), List.cons_append]
          · rw [ih (Nat.zero_le _), List.cons_append]

/-- A letter that the literal does not hold stands between two texts of which each is replaced
alone. -/
theorem replaceEach_append_cons (filled : literal ≠ []) (free : mark ∉ literal)
    (text rest : List α) :
    replaceEach literal letter (text ++ mark :: rest) =
      replaceEach literal letter text ++ mark :: replaceEach literal letter rest :=
  replaceFrom_append_cons filled free (Nat.zero_le _) rest

end Replacement

end Scan

end Foundations

end BairuiPlatform
