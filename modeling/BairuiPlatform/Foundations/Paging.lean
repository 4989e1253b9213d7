/-
Module: BairuiPlatform.Foundations.Paging
Purpose: Keyset paging: rows in descending order of a key are read page by page, each page
  behind a mark that the last row of the page before it left.
Trusted boundary: none
Main exports: remaining, nextMark, follow, Seamless, follow_remaining
-/
import Mathlib.Data.List.Basic
import Mathlib.Order.Lattice

namespace BairuiPlatform.Foundations

variable {ρ κ : Type*}

section Definitions

variable [LT κ] [DecidableLT κ] (key mark : ρ → κ) (limit : Nat)

/-- The rows behind a mark, or all of them. -/
def remaining (rows : List ρ) : Option κ → List ρ
  | none => rows
  | some bound => rows.filter fun row => key row < bound

/-- The mark that a page leaves: that of its last row, while there are more rows. -/
def nextMark (left : List ρ) : Option κ :=
  if limit < left.length then (left.take limit).getLast?.map mark else none

/-- The pages from a mark on, one behind the other, for a number of requests. -/
def follow (rows : List ρ) : Nat → Option κ → Option (List ρ)
  | 0, _ => none
  | fuel + 1, cursor =>
      let left := remaining key rows cursor
      match nextMark mark limit left with
      | none => some (left.take limit)
      | some bound => (follow rows fuel (some bound)).map (left.take limit ++ ·)

/-- Behind the last row of every page the next row lies below the mark. -/
def Seamless (rows : List ρ) : Prop :=
  ∀ before last next rest, rows = before ++ last :: next :: rest → limit ∣ before.length + 1 →
    key next < mark last

end Definitions

section Exact

variable [LinearOrder κ] {key mark : ρ → κ} {limit : Nat}

/-- A page and the rows behind it are seamless when the boundary between them is, and the rows
behind it are. -/
theorem seamless_append {page tail : List ρ} {last next : ρ} {rest : List ρ}
    (full : page.length + 1 = limit) (begins : tail = next :: rest) :
    Seamless key mark limit (page ++ last :: tail) ↔
      key next < mark last ∧ Seamless key mark limit tail := by
  subst begins
  constructor
  · intro seamless
    refine ⟨seamless page last next rest rfl (full ▸ Nat.dvd_refl _), ?_⟩
    intro before last' next' rest' split divides
    refine seamless (page ++ last :: before) last' next' rest' ?_ ?_
    · rw [split]
      simp
    · -- The boundaries behind the page are shifted by one whole page.
      have shifted : (page ++ last :: before).length + 1 = limit + (before.length + 1) := by
        simp only [List.length_append, List.length_cons]
        omega
      rw [shifted]
      exact (Nat.dvd_add_right (Nat.dvd_refl _)).mpr divides
  · rintro ⟨boundary, seamless⟩ before last' next' rest' split divides
    have reaches : limit ≤ before.length + 1 := Nat.le_of_dvd (Nat.succ_pos _) divides
    rcases List.append_eq_append_iff.mp split with ⟨middle, beyond, tails⟩ | ⟨middle, within, tails⟩
    · cases middle with
      | nil =>
          simp only [List.nil_append, List.cons.injEq] at tails
          obtain ⟨rfl, rfl, -⟩ := tails
          exact boundary
      | cons first middle =>
          simp only [List.cons_append, List.cons.injEq] at tails
          refine seamless middle last' next' rest' tails.2 ?_
          have shifted : before.length + 1 = limit + (middle.length + 1) := by
            rw [beyond]
            simp only [List.length_append, List.length_cons]
            omega
          rw [shifted] at divides
          exact (Nat.dvd_add_right (Nat.dvd_refl _)).mp divides
    · -- The page is too short for a boundary inside it.
      have short : before.length + middle.length = page.length := by
        rw [within, List.length_append]
      cases middle with
      | nil =>
          simp only [List.nil_append, List.cons.injEq] at tails
          obtain ⟨rfl, rfl, -⟩ := tails
          exact boundary
      | cons first middle =>
          simp only [List.length_cons] at short
          omega

/-- In rows that fit on one page there is no boundary. -/
theorem seamless_of_length_le {rows : List ρ} (fits : rows.length ≤ limit) :
    Seamless key mark limit rows := by
  intro before last next rest split divides
  have reaches : limit ≤ before.length + 1 := Nat.le_of_dvd (Nat.succ_pos _) divides
  rw [split] at fits
  simp only [List.length_append, List.length_cons] at fits
  omega

/-- What is left behind the mark of a row among the rows that are left. -/
theorem remaining_mark {rows : List ρ} {cursor : Option κ} {page tail : List ρ} {last : ρ}
    (marks : mark last ≤ key last)
    (ordered : (remaining key rows cursor).Pairwise fun first second => key second < key first)
    (split : remaining key rows cursor = page ++ last :: tail) :
    remaining key rows (some (mark last)) = tail.filter fun row => key row < mark last := by
  have narrowed : remaining key rows (some (mark last)) =
      (remaining key rows cursor).filter fun row => key row < mark last := by
    cases cursor with
    | none => rfl
    | some bound =>
        have below : key last < bound := by
          have member : last ∈ remaining key rows (some bound) := by
            rw [split]
            exact List.mem_append_right _ List.mem_cons_self
          exact of_decide_eq_true (List.mem_filter.mp member).2
        simp only [remaining, List.filter_filter]
        refine List.filter_congr fun row _ => ?_
        by_cases before : key row < mark last
        · simp [before, before.trans (lt_of_le_of_lt marks below)]
        · simp [before]
  rw [split] at ordered
  rw [narrowed, split, List.filter_append, List.filter_cons]
  have early : page.filter (fun row => decide (key row < mark last)) = [] := by
    rw [List.filter_eq_nil_iff]
    intro row member
    have above := (List.pairwise_append.mp ordered).2.2 row member last List.mem_cons_self
    simpa using marks.trans above.le
  simp [early, marks]

/-- The rows behind the boundary are all left exactly when the first of them is. -/
theorem filter_eq_self_iff_head {bound : κ} {next : ρ} {rest : List ρ}
    (ordered : (next :: rest).Pairwise fun first second => key second < key first) :
    ((next :: rest).filter fun row => key row < bound) = next :: rest ↔ key next < bound := by
  rw [List.filter_eq_self]
  constructor
  · exact fun all => of_decide_eq_true (all next List.mem_cons_self)
  · intro first row member
    rcases List.mem_cons.mp member with rfl | later
    · exact decide_eq_true first
    · exact decide_eq_true (((List.pairwise_cons.mp ordered).1 row later).trans first)

/-- Following the marks ends, it visits no row twice and keeps the order, and it visits every
row exactly when the pages are seamless. -/
theorem follow_remaining (positive : 0 < limit) (marks : ∀ row, mark row ≤ key row)
    {rows : List ρ} (ordered : rows.Pairwise fun first second => key second < key first) :
    ∀ (fuel : Nat) (cursor : Option κ), (remaining key rows cursor).length < fuel →
      ∃ visited, follow key mark limit rows fuel cursor = some visited ∧
        visited.Sublist (remaining key rows cursor) ∧
        (visited = remaining key rows cursor ↔
          Seamless key mark limit (remaining key rows cursor)) := by
  intro fuel
  induction fuel with
  | zero => exact fun cursor short => absurd short (Nat.not_lt_zero _)
  | succ fuel ih =>
      intro cursor enough
      have sorted : (remaining key rows cursor).Pairwise
          fun first second => key second < key first := by
        cases cursor with
        | none => exact ordered
        | some bound => exact ordered.sublist List.filter_sublist
      by_cases more : limit < (remaining key rows cursor).length
      · -- A full page, its last row, and at least one row behind it.
        obtain ⟨page, last, next, rest, split, full⟩ : ∃ page last next rest,
            remaining key rows cursor = page ++ last :: next :: rest ∧
              page.length + 1 = limit := by
          refine ⟨(remaining key rows cursor).take (limit - 1),
            (remaining key rows cursor)[limit - 1], (remaining key rows cursor)[limit],
            (remaining key rows cursor).drop (limit + 1), ?_, ?_⟩
          · have step : (remaining key rows cursor)[limit] ::
                (remaining key rows cursor).drop (limit + 1) =
                (remaining key rows cursor).drop (limit - 1 + 1) := by
              rw [Nat.sub_add_cancel positive, List.drop_eq_getElem_cons more]
            rw [step, ← List.drop_eq_getElem_cons (by omega), List.take_append_drop]
          · rw [List.length_take]
            omega
        have taken : (remaining key rows cursor).take limit = page ++ [last] := by
          rw [split, ← full, List.append_cons page last]
          exact List.take_left' (by simp)
        have marked : nextMark mark limit (remaining key rows cursor) = some (mark last) := by
          rw [nextMark, if_pos more, taken, List.getLast?_concat, Option.map_some]
        have behind := remaining_mark (marks last) sorted split
        have tailSorted : (next :: rest).Pairwise fun first second => key second < key first := by
          rw [split] at sorted
          exact (List.pairwise_append.mp sorted).2.1.of_cons
        have shorter : (remaining key rows (some (mark last))).length < fuel := by
          have cut := List.length_filter_le (fun row => decide (key row < mark last)) (next :: rest)
          rw [split, List.length_append, List.length_cons] at enough
          rw [behind]
          omega
        obtain ⟨visited, followed, included, exact_iff⟩ := ih (some (mark last)) shorter
        have inTail : visited.Sublist (next :: rest) := by
          rw [behind] at included
          exact included.trans List.filter_sublist
        refine ⟨page ++ [last] ++ visited, ?_, ?_, ?_⟩
        · simp only [follow, marked, taken, followed, Option.map_some]
        · rw [split, List.append_assoc]
          exact (inTail.cons_cons last).append_left page
        · rw [split, seamless_append full rfl, List.append_assoc, List.append_cancel_left_eq,
            List.singleton_append, List.cons_inj_right]
          constructor
          · intro same
            subst same
            have whole : remaining key rows (some (mark last)) = next :: rest := by
              rw [behind] at included ⊢
              exact List.filter_sublist.antisymm included
            rw [whole] at exact_iff
            exact ⟨(filter_eq_self_iff_head tailSorted).mp (behind.symm.trans whole),
              exact_iff.mp rfl⟩
          · rintro ⟨boundary, seamless⟩
            have whole : remaining key rows (some (mark last)) = next :: rest :=
              behind.trans ((filter_eq_self_iff_head tailSorted).mpr boundary)
            rw [whole] at exact_iff
            exact exact_iff.mpr seamless
      · have fits := Nat.le_of_not_lt more
        refine ⟨remaining key rows cursor, ?_, List.Sublist.refl _, ?_⟩
        · simp only [follow, nextMark, if_neg more, List.take_of_length_le fits]
        · exact ⟨fun _ => seamless_of_length_le fits, fun _ => rfl⟩

end Exact

end BairuiPlatform.Foundations
