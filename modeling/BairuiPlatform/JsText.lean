/-
Module: BairuiPlatform.JsText
Purpose: Texts of JavaScript as UTF-16 code units, what UTF-8 makes of them, and their lines.
Trusted boundary: none
Main exports: JsText, JsText.toWellFormed, JsText.isWellFormed, JsText.lines
-/
import BairuiPlatform.Json

namespace BairuiPlatform

/-- A text of JavaScript, in UTF-16 code units. -/
abbrev JsText := List Nat

namespace JsText

/-- The first half of a surrogate pair. -/
def isHigh (unit : Nat) : Bool :=
  0xD800 ≤ unit && unit < 0xDC00

/-- The second half of a surrogate pair. -/
def isLow (unit : Nat) : Bool :=
  0xDC00 ≤ unit && unit < 0xE000

/-- Half of a surrogate pair. -/
def isSurrogate (unit : Nat) : Bool :=
  isHigh unit || isLow unit

/-- What a code unit without its other half becomes in UTF-8. -/
def replaced (unit : Nat) : Nat :=
  if isSurrogate unit then 0xFFFD else unit

/-- What is read of a text that was written in UTF-8. -/
@[grind =] def toWellFormed : JsText → JsText
  | high :: low :: rest =>
      if isHigh high && isLow low then high :: low :: toWellFormed rest
      else replaced high :: toWellFormed (low :: rest)
  | [unit] => [replaced unit]
  | [] => []

/-- No half of a surrogate pair stands alone. -/
@[grind =] def isWellFormed : JsText → Bool
  | high :: low :: rest =>
      if isHigh high && isLow low then isWellFormed rest
      else !isSurrogate high && isWellFormed (low :: rest)
  | [unit] => !isSurrogate unit
  | [] => true

/-- The characters that UTF-8 holds of a text. -/
def characters : JsText → List Char
  | high :: low :: rest =>
      if isHigh high && isLow low then
        .ofNat (0x10000 + (high - 0xD800) * 0x400 + (low - 0xDC00)) :: characters rest
      else .ofNat (replaced high) :: characters (low :: rest)
  | [unit] => [.ofNat (replaced unit)]
  | [] => []

/-- `text.split(/\r?\n/)`. -/
def lines : JsText → List JsText
  | 13 :: 10 :: rest => [] :: lines rest
  | 10 :: rest => [] :: lines rest
  | unit :: rest =>
      match lines rest with
      | line :: others => (unit :: line) :: others
      | [] => [[unit]]
  | [] => [[]]

theorem replaced_eq_self {unit : Nat} : replaced unit = unit ↔ isSurrogate unit = false := by
  unfold replaced
  constructor
  · intro same
    by_contra surrogate
    rw [if_pos (Bool.eq_true_of_not_eq_false surrogate)] at same
    rw [← same] at surrogate
    exact surrogate rfl
  · intro plain
    rw [plain, if_neg Bool.false_ne_true]

/-- A text survives UTF-8 if and only if every half of a surrogate pair has its other half. -/
theorem toWellFormed_eq_self {text : JsText} :
    text.toWellFormed = text ↔ text.isWellFormed = true := by
  induction text using toWellFormed.induct with
  | case1 high low rest pair ih =>
      rw [toWellFormed, isWellFormed, if_pos pair, if_pos pair, List.cons.injEq, List.cons.injEq]
      simpa using ih
  | case2 high low rest apart ih =>
      rw [toWellFormed, isWellFormed, if_neg apart, if_neg apart, List.cons.injEq,
        replaced_eq_self, ih, Bool.and_eq_true, Bool.not_eq_true']
  | case3 unit =>
      rw [toWellFormed, isWellFormed, List.cons.injEq, replaced_eq_self, Bool.not_eq_true']
      exact and_iff_left rfl
  | case4 => exact ⟨fun _ => rfl, fun _ => rfl⟩

theorem isSurrogate_of_lt {unit : Nat} (small : unit < 0xD800) : isSurrogate unit = false := by
  simp only [isSurrogate, isHigh, isLow, Bool.or_eq_false_iff, Bool.and_eq_false_iff,
    decide_eq_false_iff_not]
  omega

theorem not_isLow_of_plain {unit : Nat} (plain : isSurrogate unit = false) :
    isLow unit = false := by
  unfold isSurrogate at plain
  exact (Bool.or_eq_false_iff.mp plain).2

theorem not_isHigh_of_plain {unit : Nat} (plain : isSurrogate unit = false) :
    isHigh unit = false := by
  unfold isSurrogate at plain
  exact (Bool.or_eq_false_iff.mp plain).1

theorem toWellFormed_cons {unit : Nat} (plain : isSurrogate unit = false) (rest : JsText) :
    toWellFormed (unit :: rest) = unit :: toWellFormed rest := by
  cases rest with
  | nil => rw [toWellFormed, toWellFormed, replaced_eq_self.mpr plain]
  | cons next rest =>
      rw [toWellFormed, not_isHigh_of_plain plain, Bool.false_and, if_neg Bool.false_ne_true,
        replaced_eq_self.mpr plain]

/-- A code unit that is no surrogate separates what stands before it from what follows. -/
theorem toWellFormed_append_cons (text : JsText) {unit : Nat} (plain : isSurrogate unit = false)
    (rest : JsText) :
    toWellFormed (text ++ unit :: rest) = toWellFormed text ++ unit :: toWellFormed rest := by
  induction text using toWellFormed.induct with
  | case1 high low text pair ih =>
      rw [List.cons_append, List.cons_append, toWellFormed, toWellFormed, if_pos pair,
        if_pos pair, ih]
      rfl
  | case2 high low text apart ih =>
      rw [List.cons_append] at ih
      rw [List.cons_append, List.cons_append, toWellFormed, toWellFormed, if_neg apart,
        if_neg apart, ih]
      rfl
  | case3 first =>
      rw [List.singleton_append, toWellFormed, toWellFormed, not_isLow_of_plain plain,
        Bool.and_false, if_neg Bool.false_ne_true, toWellFormed_cons plain]
      rfl
  | case4 => exact toWellFormed_cons plain rest

/-- Text of plain code units survives in front of anything. -/
theorem toWellFormed_append {text : JsText} (plain : ∀ unit ∈ text, isSurrogate unit = false)
    (rest : JsText) : toWellFormed (text ++ rest) = text ++ toWellFormed rest := by
  induction text with
  | nil => rfl
  | cons unit text ih =>
      rw [List.forall_mem_cons] at plain
      rw [List.cons_append, toWellFormed_cons plain.1, ih plain.2, List.cons_append]

theorem isWellFormed_of_plain {text : JsText} (plain : ∀ unit ∈ text, isSurrogate unit = false) :
    text.isWellFormed = true := by
  have kept := toWellFormed_append plain []
  rw [List.append_nil, toWellFormed, List.append_nil] at kept
  exact toWellFormed_eq_self.mp kept

theorem isHigh_replaced (unit : Nat) : isHigh (replaced unit) = false := by
  unfold replaced
  split
  · rfl
  · rename_i plain
    exact not_isHigh_of_plain (Bool.eq_false_of_not_eq_true plain)

theorem isSurrogate_replaced (unit : Nat) : isSurrogate (replaced unit) = false := by
  unfold replaced
  split
  · rfl
  · rename_i plain
    exact Bool.eq_false_of_not_eq_true plain

/-- What was read once is read again as it is. -/
theorem isWellFormed_toWellFormed (text : JsText) : text.toWellFormed.isWellFormed = true := by
  induction text using toWellFormed.induct with
  | case1 high low rest pair ih => rw [toWellFormed, if_pos pair, isWellFormed, if_pos pair, ih]
  | case2 high low rest apart ih =>
      rw [toWellFormed, if_neg apart]
      have kept := toWellFormed_eq_self.mpr ih
      rw [← toWellFormed_eq_self, toWellFormed_cons (isSurrogate_replaced high), kept]
  | case3 unit => rw [toWellFormed, isWellFormed, isSurrogate_replaced]; rfl
  | case4 => rfl

/-- Reading what was written changes nothing but surrogates. -/
theorem mem_toWellFormed {text : JsText} {unit : Nat} (member : unit ∈ text.toWellFormed) :
    unit ∈ text ∨ unit = 0xFFFD := by
  have single {first : Nat} (same : unit = replaced first) : unit = first ∨ unit = 0xFFFD := by
    unfold replaced at same
    split at same
    · exact .inr same
    · exact .inl same
  induction text using toWellFormed.induct with
  | case1 high low rest pair ih =>
      rw [toWellFormed, if_pos pair, List.mem_cons, List.mem_cons] at member
      rw [List.mem_cons, List.mem_cons]
      rcases member with rfl | rfl | inside
      · exact .inl (.inl rfl)
      · exact .inl (.inr (.inl rfl))
      · exact (ih inside).imp_left fun inside => .inr (.inr inside)
  | case2 high low rest apart ih =>
      rw [toWellFormed, if_neg apart, List.mem_cons] at member
      rw [List.mem_cons]
      rcases member with same | inside
      · exact (single same).imp_left .inl
      · exact (ih inside).imp_left .inr
  | case3 first =>
      rw [toWellFormed, List.mem_singleton] at member
      rw [List.mem_singleton]
      exact single member
  | case4 => exact absurd member List.not_mem_nil

/-- A code unit stays, or it is half of a surrogate pair and makes room for U+FFFD. -/
theorem mem_toWellFormed_of_mem {text : JsText} {unit : Nat} (member : unit ∈ text) :
    unit ∈ text.toWellFormed ∨ isSurrogate unit = true ∧ 0xFFFD ∈ text.toWellFormed := by
  have single {first : Nat} (same : unit = first) :
      unit = replaced first ∨ isSurrogate unit = true ∧ 0xFFFD = replaced first := by
    subst same
    unfold replaced
    split
    · rename_i half
      exact .inr ⟨half, rfl⟩
    · exact .inl rfl
  induction text using toWellFormed.induct with
  | case1 high low rest pair ih =>
      rw [toWellFormed, if_pos pair]
      simp only [List.mem_cons] at member ⊢
      rcases member with rfl | rfl | inside
      · exact .inl (.inl rfl)
      · exact .inl (.inr (.inl rfl))
      · exact (ih inside).imp (fun kept => .inr (.inr kept))
          (And.imp_right fun kept => .inr (.inr kept))
  | case2 high low rest apart ih =>
      rw [toWellFormed, if_neg apart, List.mem_cons, List.mem_cons]
      rcases List.mem_cons.mp member with same | inside
      · exact (single same).imp .inl (And.imp_right .inl)
      · exact (ih inside).imp .inr (And.imp_right .inr)
  | case3 first =>
      rw [toWellFormed, List.mem_singleton, List.mem_singleton]
      exact single (List.mem_singleton.mp member)
  | case4 => exact absurd member List.not_mem_nil

theorem length_toWellFormed (text : JsText) : text.toWellFormed.length = text.length := by
  induction text using toWellFormed.induct with
  | case1 high low rest pair ih =>
      rw [toWellFormed, if_pos pair, List.length_cons, List.length_cons, ih]
      rfl
  | case2 high low rest apart ih =>
      rw [toWellFormed, if_neg apart, List.length_cons, ih]
      rfl
  | case3 unit => rfl
  | case4 => rfl

/-- A line that holds no end of a line is the first of what it stands in. -/
theorem lines_append {line : JsText} (closed : ∀ unit ∈ line, unit ≠ 10 ∧ unit ≠ 13)
    (rest : JsText) : lines (line ++ 10 :: rest) = line :: lines rest := by
  induction line with
  | nil => rw [List.nil_append, lines]
  | cons unit line ih =>
      rw [List.forall_mem_cons] at closed
      rw [List.cons_append, lines, ih closed.2]
      · intro _ same _
        exact closed.1.2 same
      · exact closed.1.1

end JsText

end BairuiPlatform
