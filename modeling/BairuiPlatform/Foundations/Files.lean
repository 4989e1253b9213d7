/-
Module: BairuiPlatform.Foundations.Files
Purpose: Named files, operations on them that may fail half way, and copies of several files one
after another.
Trusted boundary: none
Main exports: Files, Outcome, put, copyAll, copyAll_of_done, copyAll_eq_ok
-/
import Mathlib.Logic.Function.Basic

namespace BairuiPlatform.Foundations

/-- The contents of files, with nothing for a file that is missing. -/
abbrev Files (ι α : Type) := ι → Option α

/-- How an operation on a file ends. One that fails leaves something of the file. -/
inductive Outcome (ε α : Type) where
  | done
  | failed (error : ε) (left : Option α)
  deriving DecidableEq

section Files

variable {ι ε α : Type} [DecidableEq ι]

/-- A file is given a content, or it is removed. -/
@[grind =] def put (name : ι) (content : Option α) (outcome : Outcome ε α) (files : Files ι α) :
    Except ε Unit × Files ι α :=
  match outcome with
  | .done => (.ok (), Function.update files name content)
  | .failed error left => (.error error, Function.update files name left)

/-- Files are copied from their sources one after another, up to the first failure. -/
@[grind =] def copyAll (source : Files ι α) (missing : ε) (outcome : ι → Outcome ε α) :
    List ι → Files ι α → Except ε Unit × Files ι α
  | [], files => (.ok (), files)
  | name :: names, files =>
      match source name with
      | none => (.error missing, files)
      | some content =>
          match put name (some content) (outcome name) files with
          | (.ok (), copied) => copyAll source missing outcome names copied
          | (.error error, copied) => (.error error, copied)

variable {source files : Files ι α} {missing : ε} {outcome : ι → Outcome ε α} {names : List ι}
  {name : ι}

theorem put_done {content : Option α} :
    put name content (.done : Outcome ε α) files = (.ok (), Function.update files name content) :=
  rfl

theorem copyAll_cons_done {content : Option α} (stored : source name = content)
    (present : content.isSome = true) (copied : outcome name = .done) :
    copyAll source missing outcome (name :: names) files =
      copyAll source missing outcome names (Function.update files name content) := by
  cases content with
  | none => cases present
  | some content =>
      rw [copyAll, stored]
      dsimp only
      rw [copied, put_done]

/-- A copy changes nothing but the files that it names. -/
theorem copyAll_of_notMem (other : name ∉ names) :
    (copyAll source missing outcome names files).2 name = files name := by
  induction names generalizing files with
  | nil => rfl
  | cons first names ih =>
      rw [List.mem_cons, not_or] at other
      rw [copyAll]
      cases source first with
      | none => rfl
      | some content =>
          cases outcome first with
          | done => exact (ih other.2).trans (Function.update_of_ne other.1 _ _)
          | failed error left => exact Function.update_of_ne other.1 _ _

/-- Where every source is there and no copy fails, the files are those of the source. -/
theorem copyAll_of_done (present : ∀ name ∈ names, (source name).isSome = true)
    (copied : ∀ name ∈ names, outcome name = .done) :
    copyAll source missing outcome names files =
      (.ok (), fun name => if name ∈ names then source name else files name) := by
  induction names generalizing files with
  | nil =>
      rw [copyAll]
      congr
  | cons first names ih =>
      rw [List.forall_mem_cons] at present copied
      rw [copyAll_cons_done rfl present.1 copied.1, ih present.2 copied.2]
      congr
      funext name
      by_cases later : name ∈ names
      · rw [if_pos later, if_pos (List.mem_cons_of_mem _ later)]
      · rw [if_neg later]
        by_cases same : name = first
        · rw [same, Function.update_self, if_pos List.mem_cons_self]
        · rw [Function.update_of_ne same, if_neg]
          simp [same, later]

/-- A copy that succeeds had every source and failed nowhere. -/
theorem copyAll_eq_ok (succeeded : (copyAll source missing outcome names files).1 = .ok ()) :
    (∀ name ∈ names, (source name).isSome = true) ∧ ∀ name ∈ names, outcome name = .done := by
  induction names generalizing files with
  | nil => exact ⟨fun _ member => absurd member List.not_mem_nil,
      fun _ member => absurd member List.not_mem_nil⟩
  | cons first names ih =>
      rw [copyAll] at succeeded
      cases stored : source first with
      | none =>
          rw [stored] at succeeded
          cases succeeded
      | some content =>
          cases copied : outcome first with
          | failed error left =>
              rw [stored, copied] at succeeded
              cases succeeded
          | done =>
              rw [stored, copied] at succeeded
              obtain ⟨present, done⟩ := ih succeeded
              rw [List.forall_mem_cons, List.forall_mem_cons, stored]
              exact ⟨⟨rfl, present⟩, copied, done⟩

end Files

/-! ### Operations one after another -/

/-- An operation, and another one where it succeeds. -/
@[grind =] def andThen {ε σ : Type} (first second : σ → Except ε Unit × σ) (state : σ) : Except ε Unit × σ :=
  match first state with
  | (.error error, after) => (.error error, after)
  | (.ok (), after) => second after

/-- Files are given what a source holds, or removed, one after another. -/
def putAll {ι ε α : Type} [DecidableEq ι] (source : Files ι α) (outcome : ι → Outcome ε α) :
    List ι → Files ι α → Except ε Unit × Files ι α
  | [] => fun files => (.ok (), files)
  | name :: names =>
      andThen (put name (source name) (outcome name)) (putAll source outcome names)

section Sequences

variable {ι ε α σ : Type} {first second : σ → Except ε Unit × σ} {state between : σ}

theorem andThen_of_ok (succeeded : first state = (.ok (), between)) :
    andThen first second state = second between := by
  unfold andThen
  rw [succeeded]

/-- An operation that fails nowhere only changes the state for the next one. -/
theorem andThen_of_forall_ok {change : σ → σ}
    (succeeds : ∀ state, first state = (.ok (), change state)) :
    andThen first second state = second (change state) :=
  andThen_of_ok (succeeds state)

theorem andThen_eq_ok {after : σ} : andThen first second state = (.ok (), after) ↔
    ∃ between, first state = (.ok (), between) ∧ second between = (.ok (), after) := by
  unfold andThen
  constructor
  · intro succeeded
    split at succeeded
    · cases succeeded
    · rename_i between ran
      exact ⟨between, ran, succeeded⟩
  · rintro ⟨between, ran, succeeded⟩
    rw [ran]
    exact succeeded

/-- What both operations keep, the sequence of them keeps, wherever it fails. -/
theorem andThen_keeps {Keep : σ → Prop} (one : ∀ state, Keep state → Keep (first state).2)
    (two : ∀ state, Keep state → Keep (second state).2) (holds : Keep state) :
    Keep (andThen first second state).2 := by
  have kept := one state holds
  unfold andThen
  split
  · rename_i error after ran
    rw [ran] at kept
    exact kept
  · rename_i after ran
    rw [ran] at kept
    exact two after kept

/-- Where none fails, the files are those of the source. -/
theorem putAll_of_done [DecidableEq ι] {source files : Files ι α} {outcome : ι → Outcome ε α}
    {names : List ι} (done : ∀ name ∈ names, outcome name = .done) :
    putAll source outcome names files =
      (.ok (), fun name => if name ∈ names then source name else files name) := by
  induction names generalizing files with
  | nil =>
      rw [putAll]
      congr
  | cons first names ih =>
      rw [List.forall_mem_cons] at done
      rw [putAll, done.1, andThen_of_ok put_done, ih done.2]
      congr
      funext name
      by_cases later : name ∈ names
      · rw [if_pos later, if_pos (List.mem_cons_of_mem _ later)]
      · rw [if_neg later]
        by_cases same : name = first
        · rw [same, Function.update_self, if_pos List.mem_cons_self]
        · rw [Function.update_of_ne same, if_neg]
          simp [same, later]

end Sequences

end BairuiPlatform.Foundations
