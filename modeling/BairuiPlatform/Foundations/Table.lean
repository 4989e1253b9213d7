/-
Module: BairuiPlatform.Foundations.Table
Purpose: Tables as lists of rows: conditional updates, keys, and numbering by the
  successor of the largest stored value.
Trusted boundary: none
Main exports: updateWhere, Versions, Keyed, maxOf, Numbered, Numbered.snoc, OnceEach
-/
import Mathlib.Data.List.Nodup
import Mathlib.Data.List.Range
import Mathlib.Data.List.Sort

namespace BairuiPlatform.Foundations

variable {ρ κ : Type*}

/-! ### Conditional updates -/

/-- `UPDATE … SET change WHERE selected`. -/
@[grind =] def updateWhere (selected : ρ → Bool) (change : ρ → ρ) (rows : List ρ) : List ρ :=
  rows.map fun row => if selected row then change row else row

@[simp] theorem updateWhere_nil (selected : ρ → Bool) (change : ρ → ρ) :
    updateWhere selected change [] = [] := rfl

theorem mem_updateWhere {selected : ρ → Bool} {change : ρ → ρ} {rows : List ρ}
    {row : ρ} :
    row ∈ updateWhere selected change rows ↔
      (∃ old ∈ rows, selected old = true ∧ row = change old) ∨
        (row ∈ rows ∧ selected row = false) := by
  unfold updateWhere
  rw [List.mem_map]
  constructor
  · rintro ⟨old, member, rfl⟩
    cases chosen : selected old with
    | true => exact .inl ⟨old, member, chosen, by simp⟩
    | false => exact .inr (by simpa [chosen] using member)
  · rintro (⟨old, member, chosen, rfl⟩ | ⟨member, skipped⟩)
    · exact ⟨old, member, by simp [chosen]⟩
    · exact ⟨row, member, by simp [skipped]⟩

/-- A column that the change keeps reads the same after the update. -/
theorem map_updateWhere {selected : ρ → Bool} {change : ρ → ρ} {rows : List ρ}
    {column : ρ → κ} (keeps : ∀ row, column (change row) = column row) :
    (updateWhere selected change rows).map column = rows.map column := by
  unfold updateWhere
  rw [List.map_map]
  refine List.map_congr_left fun row _ => ?_
  show column (if selected row then change row else row) = column row
  split
  · exact keeps row
  · rfl

/-- A projection that the selection and the change respect commutes with the update. -/
theorem map_updateWhere_of_respects {ρ' : Type*} {selected : ρ → Bool} {change : ρ → ρ}
    {selected' : ρ' → Bool} {change' : ρ' → ρ'} {project : ρ → ρ'} {rows : List ρ}
    (selects : ∀ row, selected' (project row) = selected row)
    (changes : ∀ row, project (change row) = change' (project row)) :
    (updateWhere selected change rows).map project =
      updateWhere selected' change' (rows.map project) := by
  unfold updateWhere
  rw [List.map_map, List.map_map]
  refine List.map_congr_left fun row _ => ?_
  show project (if selected row then change row else row) =
    if selected' (project row) then change' (project row) else project row
  rw [selects]
  split
  · exact changes row
  · rfl

/-- A filter on columns that the change keeps commutes with the update. -/
theorem filter_updateWhere {selected : ρ → Bool} {change : ρ → ρ} {rows : List ρ}
    {wanted : ρ → Bool} (keeps : ∀ row, wanted (change row) = wanted row) :
    (updateWhere selected change rows).filter wanted =
      updateWhere selected change (rows.filter wanted) := by
  induction rows with
  | nil => rfl
  | cons row rows ih =>
      have same : wanted (if selected row then change row else row) = wanted row := by
        split
        · exact keeps row
        · rfl
      unfold updateWhere at ih ⊢
      rw [List.map_cons, List.filter_cons, List.filter_cons, same]
      cases wanted row with
      | true => simp [ih]
      | false => simpa using ih

/-- A row that the update does not select is found as before. -/
theorem find?_updateWhere {selected wanted : ρ → Bool} {change : ρ → ρ} {rows : List ρ}
    (keeps : ∀ row, wanted (change row) = wanted row)
    (apart : ∀ row ∈ rows, wanted row = true → selected row = false) :
    (updateWhere selected change rows).find? wanted = rows.find? wanted := by
  induction rows with
  | nil => rfl
  | cons row rows ih =>
      have rest := ih fun other member => apart other (List.mem_cons_of_mem _ member)
      have first := apart row List.mem_cons_self
      unfold updateWhere at rest ⊢
      rw [List.map_cons]
      cases chosen : wanted row with
      | true => rw [first chosen]; simp [chosen]
      | false =>
          have skipped : wanted (if selected row then change row else row) = false := by
            split
            · rw [keeps, chosen]
            · exact chosen
          rw [List.find?_cons, List.find?_cons, skipped, chosen]
          exact rest

/-- What an update makes of the row that is found. -/
theorem find?_updateWhere_map {selected wanted : ρ → Bool} {change : ρ → ρ} {rows : List ρ}
    (keeps : ∀ row, wanted (change row) = wanted row) :
    (updateWhere selected change rows).find? wanted =
      (rows.find? wanted).map fun row => if selected row then change row else row := by
  unfold updateWhere
  rw [List.find?_map]
  congr 2
  funext row
  show wanted (if selected row then change row else row) = wanted row
  split
  · exact keeps row
  · rfl

/-- An update that selects no row changes nothing. -/
theorem updateWhere_of_none {selected : ρ → Bool} {change : ρ → ρ} {rows : List ρ}
    (none_selected : ∀ row ∈ rows, selected row = false) :
    updateWhere selected change rows = rows := by
  unfold updateWhere
  refine (List.map_congr_left fun row member => ?_).trans (List.map_id rows)
  simp [none_selected row member]

/-- An update changes nothing when it leaves each row that it selects as it is. -/
theorem updateWhere_eq_self {selected : ρ → Bool} {change : ρ → ρ} {rows : List ρ} :
    updateWhere selected change rows = rows ↔
      ∀ row ∈ rows, selected row = true → change row = row := by
  have pointwise : updateWhere selected change rows = rows.map id ↔
      ∀ row ∈ rows, (if selected row then change row else row) = id row :=
    List.map_inj_left
  rw [List.map_id] at pointwise
  rw [pointwise]
  apply forall₂_congr
  intro row member
  split
  · rename_i chosen
    exact ⟨fun same _ => same, fun same => same chosen⟩
  · rename_i skipped
    exact ⟨fun _ chosen => absurd chosen skipped, fun _ => rfl⟩

/-- Two versions of a table: each row has a later version, and each row an earlier one. -/
structure Versions (Later : ρ → ρ → Prop) (rows rows' : List ρ) : Prop where
  later : ∀ old ∈ rows, ∃ new ∈ rows', Later old new
  earlier : ∀ new ∈ rows', ∃ old ∈ rows, Later old new

namespace Versions

variable {Later : ρ → ρ → Prop} {rows rows' : List ρ}

theorem refl (same : ∀ row, Later row row) : Versions Later rows rows :=
  ⟨fun row member => ⟨row, member, same row⟩, fun row member => ⟨row, member, same row⟩⟩

/-- A version of a version. -/
theorem trans {First Second : ρ → ρ → Prop} {rows'' : List ρ} (first : Versions First rows rows')
    (second : Versions Second rows' rows'')
    (compose : ∀ old middle new, middle ∈ rows' → First old middle → Second middle new →
      Later old new) : Versions Later rows rows'' where
  later old member := by
    obtain ⟨middle, middleMem, before⟩ := first.later old member
    obtain ⟨new, newMem, after⟩ := second.later middle middleMem
    exact ⟨new, newMem, compose old middle new middleMem before after⟩
  earlier new member := by
    obtain ⟨middle, middleMem, after⟩ := second.earlier new member
    obtain ⟨old, oldMem, before⟩ := first.earlier middle middleMem
    exact ⟨old, oldMem, compose old middle new middleMem before after⟩

/-- An update that turns the rows it selects into later versions. -/
theorem update {selected : ρ → Bool} {change : ρ → ρ} (same : ∀ row, Later row row)
    (follows : ∀ row ∈ rows, selected row = true → Later row (change row)) :
    Versions Later rows (updateWhere selected change rows) where
  later old member := by
    cases chosen : selected old with
    | true =>
        exact ⟨change old, mem_updateWhere.mpr (.inl ⟨old, member, chosen, rfl⟩),
          follows old member chosen⟩
    | false => exact ⟨old, mem_updateWhere.mpr (.inr ⟨member, chosen⟩), same old⟩
  earlier new member := by
    rcases mem_updateWhere.mp member with ⟨old, oldMem, chosen, rfl⟩ | ⟨oldMem, -⟩
    · exact ⟨old, oldMem, follows old oldMem chosen⟩
    · exact ⟨new, oldMem, same new⟩

end Versions

/-! ### Keys -/

/-- The column is a unique key of the table. -/
def Keyed (key : ρ → κ) (rows : List ρ) : Prop :=
  (rows.map key).Nodup

namespace Keyed

variable {key : ρ → κ} {rows : List ρ}

@[simp] theorem nil : Keyed key [] := List.nodup_nil

theorem cons {row : ρ} :
    Keyed key (row :: rows) ↔ (∀ other ∈ rows, key other ≠ key row) ∧ Keyed key rows := by
  unfold Keyed
  rw [List.map_cons, List.nodup_cons, List.mem_map, not_exists]
  simp only [not_and]

theorem eq_of_key_eq (keyed : Keyed key rows) {first second : ρ}
    (firstMem : first ∈ rows) (secondMem : second ∈ rows)
    (same : key first = key second) : first = second :=
  List.inj_on_of_nodup_map keyed firstMem secondMem same

theorem update (keyed : Keyed key rows) {selected : ρ → Bool} {change : ρ → ρ}
    (keeps : ∀ row, key (change row) = key row) :
    Keyed key (updateWhere selected change rows) := by
  unfold Keyed
  rw [map_updateWhere keeps]
  exact keyed

theorem snoc (keyed : Keyed key rows) {row : ρ}
    (fresh : ∀ other ∈ rows, key other ≠ key row) : Keyed key (rows ++ [row]) := by
  unfold Keyed at keyed ⊢
  rw [List.map_append, List.nodup_append]
  refine ⟨keyed, List.nodup_singleton _, ?_⟩
  intro first firstMem second secondMem
  obtain ⟨other, otherMem, rfl⟩ := List.mem_map.mp firstMem
  simp only [List.map_cons, List.map_nil, List.mem_singleton] at secondMem
  subst secondMem
  exact fresh other otherMem

theorem filter (keyed : Keyed key rows) (wanted : ρ → Bool) :
    Keyed key (rows.filter wanted) :=
  List.Nodup.sublist ((List.filter_sublist).map key) keyed

theorem sublist (keyed : Keyed key rows) {part : List ρ} (included : part.Sublist rows) :
    Keyed key part :=
  List.Nodup.sublist (included.map key) keyed

theorem perm (keyed : Keyed key rows) {other : List ρ} (permuted : rows.Perm other) :
    Keyed key other :=
  (permuted.map key).nodup_iff.mp keyed

/-- At most one row has a key. -/
theorem countP_le_one [DecidableEq κ] (keyed : Keyed key rows) (value : κ) :
    (rows.countP fun row => key row = value) ≤ 1 := by
  have counted : (rows.countP fun row => key row = value) = (rows.map key).count value := by
    rw [List.count, List.countP_map]
    exact List.countP_congr fun row _ => by simp
  rw [counted]
  exact List.nodup_iff_count_le_one.mp keyed value

/-- Rows that are all the same are at most one. -/
theorem length_le_one (keyed : Keyed key rows)
    (same : ∀ first ∈ rows, ∀ second ∈ rows, first = second) : rows.length ≤ 1 := by
  match rows with
  | [] => exact Nat.zero_le _
  | [_] => exact Nat.le_refl _
  | first :: second :: rest =>
      have one := same first List.mem_cons_self second (List.mem_cons_of_mem _ List.mem_cons_self)
      obtain ⟨apart, -⟩ := cons.mp keyed
      exact absurd (congrArg key one.symm) (apart second List.mem_cons_self)

/-- Sorting and cutting a selection keeps its key. -/
theorem take_insertionSort (keyed : Keyed key rows) (le : ρ → ρ → Prop) [DecidableRel le]
    (limit : Nat) : Keyed key ((rows.insertionSort le).take limit) :=
  (keyed.perm (List.perm_insertionSort le rows).symm).sublist (List.take_sublist _ _)

/-- Rows joined to the rows of a keyed table are keyed by the same key. -/
theorem filterMap (keyed : Keyed key rows) {ρ' : Type*} {join : ρ → Option ρ'} {key' : ρ' → κ}
    (keeps : ∀ row joined, join row = some joined → key' joined = key row) :
    Keyed key' (rows.filterMap join) := by
  induction rows with
  | nil => exact List.nodup_nil
  | cons row rows ih =>
      unfold Keyed at keyed ih ⊢
      rw [List.map_cons, List.nodup_cons] at keyed
      have rest := ih keyed.2
      cases joined : join row with
      | none => rwa [List.filterMap_cons_none joined]
      | some row' =>
          rw [List.filterMap_cons_some joined, List.map_cons, List.nodup_cons]
          refine ⟨?_, rest⟩
          intro member
          obtain ⟨other', otherMem, same⟩ := List.mem_map.mp member
          obtain ⟨other, otherRow, otherJoined⟩ := List.mem_filterMap.mp otherMem
          apply keyed.1
          rw [← keeps row row' joined, ← same, keeps other other' otherJoined]
          exact List.mem_map_of_mem otherRow

/-- The row found under a key is the row of that key. -/
theorem find?_eq_some [DecidableEq κ] (keyed : Keyed key rows) {value : κ} {row : ρ} :
    rows.find? (fun candidate => decide (key candidate = value)) = some row ↔
      row ∈ rows ∧ key row = value := by
  constructor
  · intro found
    exact ⟨List.mem_of_find?_eq_some found, by simpa using List.find?_some found⟩
  · rintro ⟨member, rfl⟩
    cases found : rows.find? (fun candidate => decide (key candidate = key row)) with
    | none =>
        rw [List.find?_eq_none] at found
        exact absurd (decide_eq_true rfl) (found row member)
    | some other =>
        have sameKey : key other = key row := by simpa using List.find?_some found
        rw [keyed.eq_of_key_eq (List.mem_of_find?_eq_some found) member sameKey]

/-- A row is found under its key in whatever order the rows stand. -/
theorem find?_perm [DecidableEq κ] (keyed : Keyed key rows) {others : List ρ}
    (permuted : rows.Perm others) (value : κ) :
    rows.find? (fun candidate => decide (key candidate = value)) =
      others.find? (fun candidate => decide (key candidate = value)) := by
  refine Option.ext fun row => ?_
  rw [keyed.find?_eq_some, (keyed.perm permuted).find?_eq_some, permuted.mem_iff]

end Keyed

/-! ### Numbering by `COALESCE(MAX(column), 0) + 1` -/

/-- `COALESCE(MAX(column), 0)`. -/
@[grind =] def maxOf (values : List Nat) : Nat :=
  values.foldr max 0

theorem le_maxOf {values : List Nat} {value : Nat} (member : value ∈ values) :
    value ≤ maxOf values := by
  induction values with
  | nil => simp at member
  | cons first rest ih =>
      simp only [maxOf, List.foldr_cons] at ih ⊢
      rcases List.mem_cons.mp member with rfl | later
      · exact Nat.le_max_left _ _
      · exact (ih later).trans (Nat.le_max_right _ _)

theorem maxOf_le {values : List Nat} {bound : Nat}
    (bounded : ∀ value ∈ values, value ≤ bound) : maxOf values ≤ bound := by
  induction values with
  | nil => exact Nat.zero_le _
  | cons first rest ih =>
      simp only [maxOf, List.foldr_cons] at ih ⊢
      exact Nat.max_le.mpr ⟨bounded first List.mem_cons_self,
        ih fun value member => bounded value (List.mem_cons_of_mem _ member)⟩

/-- The next number is not yet in use. -/
theorem succ_maxOf_not_mem (values : List Nat) : maxOf values + 1 ∉ values := by
  intro member
  have := le_maxOf member
  omega

/-- `ORDER BY number DESC LIMIT 1`. -/
@[grind =] def latestBy (number : ρ → Nat) : List ρ → Option ρ
  | [] => none
  | row :: rows =>
      match latestBy number rows with
      | none => some row
      | some best => if number best < number row then some row else some best

theorem latestBy_snoc {number : ρ → Nat} {rows : List ρ} {row : ρ}
    (below : ∀ other ∈ rows, number other ≤ number row) :
    latestBy number (rows ++ [row]) = some row := by
  induction rows with
  | nil => rfl
  | cons first rest ih =>
      have last := ih fun other member => below other (List.mem_cons_of_mem _ member)
      have firstBelow := below first List.mem_cons_self
      rw [List.cons_append, latestBy, last]
      simp only [ite_eq_right_iff, Option.some.injEq]
      omega

/-- The latest row is one of the rows. -/
theorem mem_of_latestBy {number : ρ → Nat} {rows : List ρ} {row : ρ}
    (latest : latestBy number rows = some row) : row ∈ rows := by
  induction rows generalizing row with
  | nil => cases latest
  | cons first rest ih =>
      rw [latestBy] at latest
      cases later : latestBy number rest with
      | none =>
          simp only [later, Option.some.injEq] at latest
          exact latest ▸ List.mem_cons_self
      | some best =>
          simp only [later] at latest
          split at latest
          · exact Option.some.inj latest ▸ List.mem_cons_self
          · exact Option.some.inj latest ▸ List.mem_cons_of_mem _ (ih later)

/-- No row has a larger number than the latest one. -/
theorem le_latestBy {number : ρ → Nat} {rows : List ρ} {row : ρ} (member : row ∈ rows) :
    number row ≤ ((latestBy number rows).map number).getD 0 := by
  induction rows with
  | nil => cases member
  | cons first rest ih =>
      rw [latestBy]
      cases latest : latestBy number rest with
      | none =>
          rw [latest] at ih
          rcases List.mem_cons.mp member with rfl | later
          · exact Nat.le_refl _
          · exact (ih later).trans (Nat.zero_le _)
      | some best =>
          rw [latest] at ih
          simp only [Option.map_some, Option.getD_some] at ih ⊢
          rcases List.mem_cons.mp member with rfl | later
          · split
            · exact Nat.le_refl _
            · rename_i largest
              exact Nat.le_of_not_lt largest
          · split
            · rename_i smaller
              exact (ih later).trans (Nat.le_of_lt smaller)
            · exact ih later

/-- The numbers of the rows are 1, 2, 3, … in the order of the table. -/
def Numbered (number : ρ → Nat) (rows : List ρ) : Prop :=
  rows.map number = List.range' 1 rows.length

namespace Numbered

variable {number : ρ → Nat} {rows : List ρ}

@[simp] theorem nil : Numbered number [] := rfl

theorem maxOf_eq (numbered : Numbered number rows) :
    maxOf (rows.map number) = rows.length := by
  rw [numbered]
  refine Nat.le_antisymm (maxOf_le fun value member => ?_) ?_
  · rw [List.mem_range'_1] at member
    omega
  · cases rows with
    | nil => exact Nat.zero_le _
    | cons row rows =>
        refine le_maxOf ?_
        rw [List.mem_range'_1]
        simp only [List.length_cons]
        omega

/-- A row numbered by the successor of the largest number continues the
numbering. -/
theorem snoc (numbered : Numbered number rows) {row : ρ}
    (next : number row = maxOf (rows.map number) + 1) :
    Numbered number (rows ++ [row]) := by
  have count := numbered.maxOf_eq
  unfold Numbered at numbered ⊢
  rw [List.map_append, numbered, List.length_append, List.length_singleton,
    List.range'_1_concat, List.map_singleton, next, count, Nat.add_comm 1]

theorem update (numbered : Numbered number rows) {selected : ρ → Bool}
    {change : ρ → ρ} (keeps : ∀ row, number (change row) = number row) :
    Numbered number (updateWhere selected change rows) := by
  unfold Numbered at numbered ⊢
  rw [map_updateWhere keeps, numbered]
  simp [updateWhere]

theorem nodup (numbered : Numbered number rows) : Keyed number rows := by
  unfold Keyed
  rw [numbered]
  exact List.nodup_range'

/-- Exactly one row carries a number of the table. -/
theorem filter_length_eq_one (numbered : Numbered number rows) {value : Nat}
    (member : value ∈ rows.map number) :
    (rows.filter fun row => number row = value).length = 1 := by
  have counted : rows.countP (fun row => number row = value) = (rows.map number).count value := by
    rw [List.count, List.countP_map]
    exact List.countP_congr fun row _ => by simp
  rw [← List.countP_eq_length_filter, counted]
  exact List.count_eq_one_of_mem numbered.nodup member

/-- The latest row is the last one, and it carries the number of rows. -/
theorem latestBy_eq (numbered : Numbered number rows) :
    latestBy number rows = rows.getLast? ∧
      ∀ row, rows.getLast? = some row → number row = rows.length := by
  rcases List.eq_nil_or_concat rows with rfl | ⟨earlier, last, rfl⟩
  · exact ⟨rfl, by simp⟩
  · rw [List.concat_eq_append] at numbered ⊢
    have counted : number last = (earlier ++ [last]).length := by
      have atEnd := congrArg List.getLast? numbered
      simpa [List.getLast?_range'] using atEnd
    refine ⟨?_, ?_⟩
    · rw [latestBy_snoc, List.getLast?_concat]
      intro other member
      have inRange := List.mem_map_of_mem (f := number) (List.mem_append_left [last] member)
      rw [numbered, List.mem_range'_1] at inRange
      omega
    · intro row isLast
      simp only [List.getLast?_concat, Option.some.injEq] at isLast
      rw [← isLast]
      exact counted

theorem le_length (numbered : Numbered number rows) {row : ρ} (member : row ∈ rows) :
    1 ≤ number row ∧ number row ≤ rows.length := by
  have inRange := List.mem_map_of_mem (f := number) member
  rw [numbered, List.mem_range'_1] at inRange
  omega

end Numbered

/-! ### Keys that each want one row -/

/-- Each key wants exactly one of the rows. -/
def OnceEach (wanted : κ → ρ → Bool) (keys : List κ) (rows : List ρ) : Prop :=
  ∀ key ∈ keys, rows.countP (wanted key) = 1

namespace OnceEach

variable {wanted : κ → ρ → Bool} {keys : List κ} {rows : List ρ}

@[simp] theorem nil : OnceEach wanted [] rows := by
  intro key member
  cases member

/-- A row that no key wants changes nothing. -/
theorem skip (once : OnceEach wanted keys rows) {row : ρ}
    (unwanted : ∀ key ∈ keys, wanted key row = false) :
    OnceEach wanted keys (rows ++ [row]) := by
  intro key member
  rw [List.countP_append, List.countP_singleton, once key member, unwanted key member]
  rfl

/-- A new key and the only row that it wants. -/
theorem snoc (once : OnceEach wanted keys rows) {key : κ} {row : ρ}
    (unwanted : ∀ other ∈ keys, wanted other row = false)
    (absent : ∀ other ∈ rows, wanted key other = false) (present : wanted key row = true) :
    OnceEach wanted (keys ++ [key]) (rows ++ [row]) := by
  intro other member
  rcases List.mem_append.mp member with old | new
  · exact once.skip unwanted other old
  · rw [List.mem_singleton.mp new]
    have none_before : rows.countP (wanted key) = 0 := by
      apply List.countP_eq_zero.mpr
      intro row' rowMem
      rw [absent row' rowMem]
      exact Bool.false_ne_true
    rw [List.countP_append, List.countP_singleton, none_before, present]
    rfl

/-- Rows that read the same in the columns that the keys look at. -/
theorem of_map {σ : Type*} (column : ρ → σ) (test : κ → σ → Bool) {rows' : List ρ}
    (once : OnceEach (fun key row => test key (column row)) keys rows)
    (same : rows'.map column = rows.map column) :
    OnceEach (fun key row => test key (column row)) keys rows' := by
  intro key member
  have counted : ∀ list : List ρ, list.countP (fun row => test key (column row)) =
      (list.map column).countP (test key) := by
    intro list
    rw [List.countP_map]
    rfl
  rw [counted, same, ← counted]
  exact once key member

end OnceEach

end BairuiPlatform.Foundations
