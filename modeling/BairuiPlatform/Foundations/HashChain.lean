/-
Module: BairuiPlatform.Foundations.HashChain
Purpose: Rows that are numbered from 1 and carry a digest of their contents and of the hash
  of the row before them.
Trusted boundary: none
Main exports: VerifiesFrom, verifiesFrom_snoc, ChainsVerify, chainsVerify_snoc
-/
import BairuiPlatform.Foundations.Table

namespace BairuiPlatform.Foundations

variable {ρ η : Type} {number : ρ → Nat} {hash : ρ → η} {digest : Option η → ρ → η}

/-- The hash of every row is the digest of the row and of the hash of the row before it. -/
@[grind =] def VerifiesFrom (hash : ρ → η) (digest : Option η → ρ → η) : Option η → List ρ → Prop
  | _, [] => True
  | previous, row :: rows =>
      hash row = digest previous row ∧ VerifiesFrom hash digest (some (hash row)) rows

/-- A row continues a chain that verifies exactly if its own hash does. -/
theorem verifiesFrom_snoc {previous : Option η} {rows : List ρ} {row : ρ} :
    VerifiesFrom hash digest previous (rows ++ [row]) ↔
      VerifiesFrom hash digest previous rows ∧
        hash row = digest ((rows.getLast?.map hash).or previous) row := by
  induction rows generalizing previous with
  | nil => simp [VerifiesFrom]
  | cons first rows ih =>
      have last : (((first :: rows).getLast?.map hash).or previous) =
          ((rows.getLast?.map hash).or (some (hash first))) := by
        cases rows with
        | nil => rfl
        | cons second rows =>
            rw [List.getLast?_cons_cons]
            cases found : (second :: rows).getLast? with
            | none => simp at found
            | some row => rfl
      rw [List.cons_append, VerifiesFrom, VerifiesFrom, ih, last, and_assoc]

/-- Two digests that agree on the rows verify the same chains. -/
theorem verifiesFrom_congr {other : Option η → ρ → η} {rows : List ρ} :
    ∀ {previous : Option η}, (∀ row ∈ rows, ∀ before, digest before row = other before row) →
      (VerifiesFrom hash digest previous rows ↔ VerifiesFrom hash other previous rows) := by
  induction rows with
  | nil => exact fun _ => Iff.rfl
  | cons row rows ih =>
      intro previous agree
      rw [VerifiesFrom, VerifiesFrom, agree row List.mem_cons_self,
        ih fun later member => agree later (List.mem_cons_of_mem _ member)]

/-! ### The chains of a table -/

section Chains

variable {κ : Type} [DecidableEq κ] {owner : ρ → κ}

/-- The rows of one owner. -/
@[grind =] def chainOf (owner : ρ → κ) (mine : κ) (rows : List ρ) : List ρ :=
  rows.filter fun row => owner row = mine

/-- The rows of every owner are numbered from 1. -/
def ChainsNumbered (owner : ρ → κ) (number : ρ → Nat) (rows : List ρ) : Prop :=
  ∀ mine, Numbered number (chainOf owner mine rows)

/-- The chain of every owner verifies from its first row on. -/
def ChainsVerify (owner : ρ → κ) (hash : ρ → η) (digest : Option η → ρ → η)
    (rows : List ρ) : Prop :=
  ∀ mine, VerifiesFrom hash digest none (chainOf owner mine rows)

theorem chainOf_snoc (mine : κ) (rows : List ρ) (row : ρ) :
    chainOf owner mine (rows ++ [row]) =
      chainOf owner mine rows ++ if owner row = mine then [row] else [] := by
  unfold chainOf
  rw [List.filter_append, List.filter_singleton]
  by_cases same : owner row = mine <;> simp [same]

variable {rows : List ρ} {row : ρ}

/-- A row numbered after the latest one of its owner continues the numbers. -/
theorem ChainsNumbered.snoc (numbered : ChainsNumbered owner number rows)
    (next : number row =
      ((latestBy number (chainOf owner (owner row) rows)).map number).getD 0 + 1) :
    ChainsNumbered owner number (rows ++ [row]) := by
  intro mine
  rw [chainOf_snoc]
  by_cases same : owner row = mine
  · rw [if_pos same]
    apply (numbered mine).snoc
    obtain ⟨latest, last⟩ := (numbered mine).latestBy_eq
    rw [next, same, latest, (numbered mine).maxOf_eq]
    cases final : (chainOf owner mine rows).getLast? with
    | none =>
        rw [List.getLast?_eq_none_iff.mp final]
        rfl
    | some row => simp [last row final]
  · rw [if_neg same, List.append_nil]
    exact numbered mine

/-- With one more row all chains verify exactly if they did, and if the hash of the row is the
digest after the latest row of its owner. -/
theorem chainsVerify_snoc (numbered : ChainsNumbered owner number rows) :
    ChainsVerify owner hash digest (rows ++ [row]) ↔
      ChainsVerify owner hash digest rows ∧
        hash row = digest ((latestBy number (chainOf owner (owner row) rows)).map hash) row := by
  have latest := (numbered (owner row)).latestBy_eq.1
  constructor
  · intro verify
    refine ⟨fun mine => ?_, ?_⟩
    · have chain := verify mine
      rw [chainOf_snoc] at chain
      by_cases same : owner row = mine
      · rw [if_pos same] at chain
        exact (verifiesFrom_snoc.mp chain).1
      · rw [if_neg same, List.append_nil] at chain
        exact chain
    · have chain := verify (owner row)
      rw [chainOf_snoc, if_pos rfl] at chain
      rw [latest, ← Option.or_none (o := (chainOf owner (owner row) rows).getLast?.map hash)]
      exact (verifiesFrom_snoc.mp chain).2
  · rintro ⟨verify, own⟩ mine
    rw [chainOf_snoc]
    by_cases same : owner row = mine
    · rw [if_pos same]
      apply verifiesFrom_snoc.mpr
      refine ⟨verify mine, ?_⟩
      rw [Option.or_none, own, latest, same]
    · rw [if_neg same, List.append_nil]
      exact verify mine

end Chains

end BairuiPlatform.Foundations
