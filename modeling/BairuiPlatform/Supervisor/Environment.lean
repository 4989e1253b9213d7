/-
Module: BairuiPlatform.Supervisor.Environment
Purpose: The environment files of an agent: how they are written and read back.
Trusted boundary: none
Main exports: envFile, readEnvironmentFile, IsPlain, readEnvironmentFile_eq_self
-/
import BairuiPlatform.Foundations.Codes
import BairuiPlatform.Foundations.OrderedMap
import BairuiPlatform.Supervisor.Instances

namespace BairuiPlatform.Supervisor

open Foundations

/-- The variables of a file, under their names. -/
abbrev Environment := OrderedMap JsText JsText

/-! ### Writing -/

/-- What `/[\r\n\0]/` matches. -/
def isBreak (unit : Nat) : Bool :=
  unit = 13 || unit = 10 || unit = 0

/-- `envValue`, of a value that is a text or none. -/
def envValue (value : Option JsText) (name : JsText) : Except SupervisorError JsText :=
  let text := value.getD []
  if text = [] || text.any isBreak then
    .error { message := name ++ utf16 " is invalid", code := "invalid_supervisor_config" }
  else .ok text

/-- `machineSecret`. -/
def machineSecret (value : Option JsText) (name : JsText) : Except SupervisorError JsText :=
  (envValue value name).bind fun text =>
    if text.length < 32 then
      .error { message := name ++ utf16 " must contain at least 32 characters"
               code := "invalid_supervisor_config" }
    else .ok text

/-- `workspaceIdFromRef`. -/
def workspaceIdFromRef (value : Option JsText) : Except SupervisorError JsText :=
  (envValue value (utf16 "workspace_ref")).map fun workspaceRef =>
    utf16 "ws_" ++ (hexDigest workspaceRef).take 48

/-- The line of a variable. -/
def envLine (entry : JsText × JsText) : JsText :=
  entry.1 ++ 61 :: entry.2

/-- `envFile`. -/
def envFile (values : Environment) : Except SupervisorError JsText :=
  (values.entries.mapM fun entry =>
    (envValue (some entry.2) entry.1).map fun value => envLine (entry.1, value)).map
      fun lines => [10].intercalate lines ++ [10]

/-! ### Reading -/

def isCapital (unit : Nat) : Bool :=
  65 ≤ unit && unit ≤ 90

/-- What `[A-Z0-9_]` matches. -/
def isNameUnit (unit : Nat) : Bool :=
  isCapital unit || 48 ≤ unit && unit ≤ 57 || unit = 95

/-- The text matches `[A-Z][A-Z0-9_]*`. -/
def isVariableName : JsText → Bool
  | first :: rest => isCapital first && rest.all isNameUnit
  | [] => false

/-- What `.` does not match. -/
def isLineTerminator (unit : Nat) : Bool :=
  unit = 10 || unit = 13 || unit = 0x2028 || unit = 0x2029

/-- `line.match(/^([A-Z][A-Z0-9_]*)=(.*)$/)`. -/
def matchVariable (line : JsText) : Option (JsText × JsText) :=
  match line.dropWhile isNameUnit with
  | 61 :: value =>
      if isVariableName (line.takeWhile isNameUnit) && value.all (!isLineTerminator ·) then
        some (line.takeWhile isNameUnit, value)
      else none
  | _ => none

/-- `readEnvironmentFile`, of a file with its text. -/
def readEnvironmentFile (file : Option JsText) : Environment :=
  match file with
  | none => .empty
  | some text =>
      (text.lines.filterMap matchVariable).foldl
        (fun values entry => values.set entry.1 entry.2) .empty

/-! ### What is written is read -/

/-- A value that `envValue` accepts. -/
def IsAccepted (value : JsText) : Prop :=
  value ≠ [] ∧ ∀ unit ∈ value, isBreak unit = false

theorem envValue_eq_ok {value name text : JsText} :
    envValue (some value) name = .ok text ↔ IsAccepted value ∧ text = value := by
  unfold envValue IsAccepted
  rw [Option.getD_some]
  by_cases refused : (value = [] || value.any isBreak) = true
  · rw [if_pos refused]
    refine ⟨fun ok => (nomatch ok), ?_⟩
    rintro ⟨⟨nonempty, unbroken⟩, -⟩
    exfalso
    rw [Bool.or_eq_true, decide_eq_true_eq] at refused
    rcases refused with empty | broken
    · exact nonempty empty
    · obtain ⟨unit, member, breaks⟩ := List.any_eq_true.mp broken
      rw [unbroken unit member] at breaks
      exact Bool.false_ne_true breaks
  · rw [if_neg refused]
    simp only [Bool.or_eq_true, decide_eq_true_eq, List.any_eq_true, not_or, not_exists,
      not_and, Bool.not_eq_true] at refused
    constructor
    · intro ok
      cases ok
      exact ⟨refused, rfl⟩
    · rintro ⟨-, rfl⟩
      rfl

/-- The text of a file of entries. -/
def fileText (entries : List (JsText × JsText)) : JsText :=
  [10].intercalate (entries.map envLine) ++ [10]

theorem mapM_envLine {entries : List (JsText × JsText)} {lines : List JsText} :
    (entries.mapM fun entry =>
      (envValue (some entry.2) entry.1).map fun value => envLine (entry.1, value)) = .ok lines ↔
      (∀ entry ∈ entries, IsAccepted entry.2) ∧ lines = entries.map envLine := by
  induction entries generalizing lines with
  | nil =>
      rw [List.mapM_nil]
      constructor
      · intro ok
        cases ok
        exact ⟨fun _ member => absurd member List.not_mem_nil, rfl⟩
      · rintro ⟨-, rfl⟩
        rfl
  | cons entry entries ih =>
      rw [List.mapM_cons, List.forall_mem_cons]
      constructor
      · intro ok
        cases first : envValue (some entry.2) entry.1 with
        | error error => rw [first] at ok; cases ok
        | ok value =>
            rw [first] at ok
            obtain ⟨accepted, rfl⟩ := envValue_eq_ok.mp first
            cases rest : entries.mapM fun entry =>
                (envValue (some entry.2) entry.1).map fun value => envLine (entry.1, value) with
            | error error => rw [rest] at ok; cases ok
            | ok others =>
                rw [rest] at ok
                cases ok
                obtain ⟨acceptedOthers, rfl⟩ := ih.mp rest
                exact ⟨⟨accepted, acceptedOthers⟩, rfl⟩
      · rintro ⟨⟨accepted, acceptedOthers⟩, rfl⟩
        rw [envValue_eq_ok.mpr ⟨accepted, rfl⟩, ih.mpr ⟨acceptedOthers, rfl⟩]
        rfl

theorem envFile_eq_ok {values : Environment} {text : JsText} :
    envFile values = .ok text ↔
      (∀ entry ∈ values.entries, IsAccepted entry.2) ∧ text = fileText values.entries := by
  unfold envFile
  constructor
  · intro ok
    cases written : values.entries.mapM fun entry =>
        (envValue (some entry.2) entry.1).map fun value => envLine (entry.1, value) with
    | error error => rw [written] at ok; cases ok
    | ok lines =>
        rw [written] at ok
        cases ok
        obtain ⟨accepted, rfl⟩ := mapM_envLine.mp written
        exact ⟨accepted, rfl⟩
  · rintro ⟨accepted, rfl⟩
    rw [mapM_envLine.mpr ⟨accepted, rfl⟩]
    rfl

theorem toWellFormed_fileText (lines : List JsText) :
    JsText.toWellFormed ([10].intercalate lines ++ [10]) =
      [10].intercalate (lines.map JsText.toWellFormed) ++ [10] := by
  induction lines with
  | nil => rfl
  | cons line lines ih =>
      cases lines with
      | nil =>
          have written : JsText.toWellFormed (line ++ [10]) = line.toWellFormed ++ [10] :=
            JsText.toWellFormed_append_cons line rfl []
          rw [List.intercalate_singleton, List.map_singleton, List.intercalate_singleton, written]
      | cons next lines =>
          rw [intercalate_cons_cons, List.append_assoc, List.cons_append,
            JsText.toWellFormed_append_cons line rfl, ih, List.map_cons, List.map_cons,
            List.map_cons, intercalate_cons_cons, List.append_assoc, List.cons_append]

theorem lines_fileText {lines : List JsText} (closed : ∀ line ∈ lines, ∀ unit ∈ line,
    unit ≠ 10 ∧ unit ≠ 13) (nonempty : lines ≠ []) :
    JsText.lines ([10].intercalate lines ++ [10]) = lines ++ [[]] := by
  induction lines with
  | nil => exact absurd rfl nonempty
  | cons line lines ih =>
      rw [List.forall_mem_cons] at closed
      cases lines with
      | nil =>
          rw [List.intercalate_singleton, JsText.lines_append closed.1, JsText.lines]
          rfl
      | cons next lines =>
          rw [intercalate_cons_cons, List.append_assoc, List.cons_append,
            JsText.lines_append closed.1, ih closed.2 (List.cons_ne_nil _ _)]
          rfl

theorem isSurrogate_of_isNameUnit {unit : Nat} (named : isNameUnit unit = true) :
    JsText.isSurrogate unit = false := by
  simp only [isNameUnit, isCapital, Bool.or_eq_true, Bool.and_eq_true, decide_eq_true_eq] at named
  exact JsText.isSurrogate_of_lt (by omega)

theorem isNameUnit_of_isVariableName {name : JsText} (named : isVariableName name = true) :
    ∀ unit ∈ name, isNameUnit unit = true := by
  cases name with
  | nil => exact fun _ member => absurd member List.not_mem_nil
  | cons first rest =>
      rw [isVariableName, Bool.and_eq_true, List.all_eq_true] at named
      rw [List.forall_mem_cons]
      refine ⟨?_, named.2⟩
      unfold isNameUnit
      rw [named.1, Bool.true_or, Bool.true_or]

/-- What is read of a line is its name and its value, unless the value ends a line. -/
theorem matchVariable_envLine {name : JsText} (named : isVariableName name = true)
    (value : JsText) : matchVariable (envLine (name, value)) =
      if value.all (!isLineTerminator ·) then some (name, value) else none := by
  have units := isNameUnit_of_isVariableName named
  unfold matchVariable envLine
  dsimp only
  rw [List.dropWhile_append_of_pos units, List.takeWhile_append_of_pos units,
    List.dropWhile_cons_of_neg (by decide), List.takeWhile_cons_of_neg (by decide),
    List.append_nil]
  simp only [named, Bool.true_and]

theorem toWellFormed_envLine {name : JsText} (named : isVariableName name = true)
    (value : JsText) :
    JsText.toWellFormed (envLine (name, value)) = envLine (name, value.toWellFormed) := by
  unfold envLine
  dsimp only
  rw [JsText.toWellFormed_append fun unit member =>
    isSurrogate_of_isNameUnit (isNameUnit_of_isVariableName named unit member),
    JsText.toWellFormed_cons rfl]

/-- The names of the variables are names that the reader knows. -/
def HasNames (entries : List (JsText × JsText)) : Prop :=
  ∀ entry ∈ entries, isVariableName entry.1 = true

section File

variable {entries : List (JsText × JsText)}

/-- What comes of a variable that is written to a file and read. -/
def readBack (entry : JsText × JsText) : Option (JsText × JsText) :=
  if entry.2.toWellFormed.all (!isLineTerminator ·) then some (entry.1, entry.2.toWellFormed)
  else none

theorem eq_of_readBack {entry other : JsText × JsText} (same : readBack entry = some other) :
    other = (entry.1, entry.2.toWellFormed) := by
  unfold readBack at same
  split at same
  · cases same
    rfl
  · cases same

theorem closed_of_isAccepted {value : JsText} (accepted : IsAccepted value) :
    ∀ unit ∈ value.toWellFormed, unit ≠ 10 ∧ unit ≠ 13 := by
  intro unit member
  rcases JsText.mem_toWellFormed member with inside | rfl
  · have unbroken := accepted.2 unit inside
    simp only [isBreak, Bool.or_eq_false_iff, decide_eq_false_iff_not] at unbroken
    exact ⟨unbroken.1.2, unbroken.1.1⟩
  · decide

/-- The lines of a written file, as far as anything is read of them. -/
theorem filterMap_lines_fileText {σ : Type} {read : JsText → Option σ} (empty : read [] = none)
    (named : HasNames entries) (accepted : ∀ entry ∈ entries, IsAccepted entry.2) :
    (fileText entries).toWellFormed.lines.filterMap read =
      entries.filterMap fun entry => read (envLine (entry.1, entry.2.toWellFormed)) := by
  have wellFormed : (entries.map envLine).map JsText.toWellFormed =
      entries.map fun entry => envLine (entry.1, entry.2.toWellFormed) := by
    rw [List.map_map]
    exact List.map_congr_left fun entry member => toWellFormed_envLine (named entry member) _
  unfold fileText
  rw [toWellFormed_fileText, wellFormed]
  cases entries with
  | nil =>
      show [[], []].filterMap read = []
      rw [List.filterMap_cons_none empty, List.filterMap_cons_none empty, List.filterMap_nil]
  | cons first rest =>
      rw [lines_fileText, List.filterMap_append, List.filterMap_cons_none empty,
        List.filterMap_nil, List.append_nil, List.filterMap_map]
      · rfl
      · intro line member unit inside
        obtain ⟨entry, stored, rfl⟩ := List.mem_map.mp member
        rcases List.mem_append.mp inside with name | value
        · have plain := isNameUnit_of_isVariableName (named entry stored) unit name
          constructor
          · rintro rfl
            exact absurd plain (by decide)
          · rintro rfl
            exact absurd plain (by decide)
        · rcases List.mem_cons.mp value with rfl | value
          · decide
          · exact closed_of_isAccepted (accepted entry stored) unit value
      · exact List.cons_ne_nil _ _

/-- What is read of a written file. -/
theorem readEnvironmentFile_fileText {values : Environment} (named : HasNames values.entries)
    (accepted : ∀ entry ∈ values.entries, IsAccepted entry.2) :
    (readEnvironmentFile (some (fileText values.entries).toWellFormed)).entries =
      values.entries.filterMap readBack := by
  have read : (fileText values.entries).toWellFormed.lines.filterMap matchVariable =
      values.entries.filterMap readBack := by
    rw [filterMap_lines_fileText rfl named accepted]
    exact List.filterMap_congr fun entry member => matchVariable_envLine (named entry member) _
  have keyed : Keyed Prod.fst (values.entries.filterMap readBack) := by
    apply values.keyed.filterMap
    intro entry other same
    rw [eq_of_readBack same]
  unfold readEnvironmentFile
  dsimp only
  rw [read, OrderedMap.entries_foldl_set keyed]
  rfl

/-- Variables that survive are written alike before and after they were read. -/
theorem map_filter_readBack {wanted : JsText × JsText → Bool}
    (byName : ∀ entry value, wanted (entry.1, value) = wanted entry)
    (survive : ∀ entry ∈ entries, wanted entry = true →
      readBack entry = some (entry.1, entry.2.toWellFormed)) :
    ((entries.filterMap readBack).filter wanted).map
        (fun entry => (entry.1, entry.2.toWellFormed)) =
      (entries.filter wanted).map fun entry => (entry.1, entry.2.toWellFormed) := by
  induction entries with
  | nil => rfl
  | cons entry entries ih =>
      rw [List.forall_mem_cons] at survive
      by_cases asked : wanted entry = true
      · have askedAfter : wanted (entry.1, entry.2.toWellFormed) = true := by rw [byName, asked]
        rw [List.filterMap_cons_some (survive.1 asked), List.filter_cons_of_pos askedAfter,
          List.filter_cons_of_pos asked, List.map_cons, List.map_cons, ih survive.2,
          JsText.toWellFormed_eq_self.mpr (JsText.isWellFormed_toWellFormed _)]
      · rw [List.filter_cons_of_neg asked, ← ih survive.2]
        cases read : readBack entry with
        | none => rw [List.filterMap_cons_none read]
        | some other =>
            rw [← byName entry, ← eq_of_readBack read] at asked
            rw [List.filterMap_cons_some read, List.filter_cons_of_neg asked]

/-- A value without a half of a surrogate pair and without the line terminators that
`envValue` does not know. -/
def IsPlain (value : JsText) : Prop :=
  value.isWellFormed = true ∧ ∀ unit ∈ value, unit ≠ 0x2028 ∧ unit ≠ 0x2029

instance : DecidablePred IsPlain := fun value =>
  inferInstanceAs (Decidable
    (value.isWellFormed = true ∧ ∀ unit ∈ value, unit ≠ 0x2028 ∧ unit ≠ 0x2029))

theorem readBack_eq_self {entry : JsText × JsText} (accepted : IsAccepted entry.2) :
    readBack entry = some entry ↔ IsPlain entry.2 := by
  unfold readBack IsPlain
  constructor
  · intro same
    split at same
    · rename_i ended
      have kept : entry.2.toWellFormed = entry.2 := congrArg Prod.snd (Option.some.inj same)
      rw [kept] at ended
      refine ⟨JsText.toWellFormed_eq_self.mp kept, fun unit member => ?_⟩
      have inside := List.all_eq_true.mp ended unit member
      simp only [isLineTerminator, Bool.not_eq_true', Bool.or_eq_false_iff,
        decide_eq_false_iff_not] at inside
      exact ⟨inside.1.2, inside.2⟩
    · cases same
  · rintro ⟨wellFormed, plain⟩
    have kept := JsText.toWellFormed_eq_self.mpr wellFormed
    rw [kept, if_pos]
    rw [List.all_eq_true]
    intro unit member
    obtain ⟨lineFeed, carriageReturn⟩ := closed_of_isAccepted accepted unit (by rwa [kept])
    simp [isLineTerminator, lineFeed, carriageReturn, plain unit member]

/-- A filter that may change what it keeps gives back a list if and only if it keeps each item
as it is. -/
theorem filterMap_eq_self {σ : Type} {keep : σ → Option σ} {items : List σ} :
    items.filterMap keep = items ↔ ∀ item ∈ items, keep item = some item := by
  induction items with
  | nil => exact ⟨fun _ _ member => absurd member List.not_mem_nil, fun _ => rfl⟩
  | cons item items ih =>
      rw [List.forall_mem_cons]
      cases kept : keep item with
      | none =>
          rw [List.filterMap_cons_none kept]
          refine ⟨fun same => ?_, fun same => (nomatch same.1)⟩
          have shorter := List.length_filterMap_le keep items
          rw [same, List.length_cons] at shorter
          omega
      | some other =>
          rw [List.filterMap_cons_some kept, List.cons.injEq, ih, Option.some.injEq]

/-- The file of some variables is read back as it was written if and only if their values are
plain. -/
theorem readEnvironmentFile_eq_self {values : Environment} (named : HasNames values.entries)
    (accepted : ∀ entry ∈ values.entries, IsAccepted entry.2) :
    readEnvironmentFile (some (fileText values.entries).toWellFormed) = values ↔
      ∀ entry ∈ values.entries, IsPlain entry.2 := by
  have entries : readEnvironmentFile (some (fileText values.entries).toWellFormed) = values ↔
      values.entries.filterMap readBack = values.entries := by
    rw [← readEnvironmentFile_fileText named accepted]
    exact ⟨congrArg _, OrderedMap.ext_entries⟩
  rw [entries, filterMap_eq_self]
  exact forall₂_congr fun entry member => readBack_eq_self (accepted entry member)

end File

end BairuiPlatform.Supervisor
