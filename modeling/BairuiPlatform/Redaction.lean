/-
Module: BairuiPlatform.Redaction
Purpose: When redactControlMetadata may be taken at its word: what it reports nothing about,
  what it returns when its own result is redacted again, and the one member it loses in silence.
Trusted boundary: none
Main exports: Json.Presentable, Json.OwnsProto, redactControlMetadata_reports,
  redactControlMetadata_idempotent, redaction_faithful_iff
-/
import BairuiPlatform.Payload

namespace BairuiPlatform

/-! ### Texts that are short enough -/

theorem sliceChars_eq_self {letters : List Char} {room : Nat}
    (fits : (letters.flatMap utf16Units).length ≤ room) : sliceChars room letters = letters := by
  induction letters generalizing room with
  | nil => rfl
  | cons c rest ih =>
      rw [List.flatMap_cons, List.length_append] at fits
      rw [sliceChars, if_pos (by omega), ih (by omega)]

theorem slice_eq_self {text : String} {room : Nat} (fits : utf16Length text ≤ room) :
    slice room text = text := by
  unfold utf16Length utf16 at fits
  rw [slice, sliceChars_eq_self fits, chars_eq_toList, String.ofList_toList]

theorem utf16Length_slice (room : Nat) (text : String) : utf16Length (slice room text) ≤ room := by
  unfold utf16Length utf16 slice
  rw [chars_eq_toList, chars_eq_toList, String.toList_ofList]
  exact sliceChars_length_le room text.toList

/-! ### What is presented as it is -/

mutual

/-- Nothing of the value is too deep, too long, a secret or under a forbidden name. -/
def Json.Presentable (depth : Nat) : Json → Prop
  | .null | .bool _ | .num _ | .dec _ => depth ≤ 8
  | .str text => depth ≤ 8 ∧ isSecretText text = false ∧ utf16Length text ≤ 512
  | .arr items => depth ≤ 8 ∧ items.length ≤ 100 ∧ Json.ItemsPresentable (depth + 1) items
  | .obj fields => depth ≤ 8 ∧ Json.FieldsPresentable (depth + 1) fields

/-- The items of an array are presentable. -/
def Json.ItemsPresentable (depth : Nat) : List Json → Prop
  | [] => True
  | item :: items => item.Presentable depth ∧ Json.ItemsPresentable depth items

/-- The properties of an object are presentable, names and values. -/
def Json.FieldsPresentable (depth : Nat) : List (String × Json) → Prop
  | [] => True
  | (key, value) :: fields =>
      isForbiddenKey key = false ∧ value.Presentable depth ∧ Json.FieldsPresentable depth fields

end

mutual

/-- Some object in the value has a property of its own that is named `__proto__`. -/
def Json.OwnsProto : Json → Bool
  | .arr items => Json.itemsOwnProto items
  | .obj fields => Json.fieldsOwnProto fields
  | _ => false

/-- An item of an array owns it. -/
def Json.itemsOwnProto : List Json → Bool
  | [] => false
  | item :: items => item.OwnsProto || Json.itemsOwnProto items

/-- A property has the name or a value that owns it. -/
def Json.fieldsOwnProto : List (String × Json) → Bool
  | [] => false
  | (key, value) :: fields =>
      key = "__proto__" || value.OwnsProto || Json.fieldsOwnProto fields

end

/-- What stands for a value that is too deep. -/
theorem redactControlMetadata_deep {depth : Nat} (deep : 8 < depth) (value : Json) :
    redactControlMetadata depth value = (.str "[redacted-depth]", true) := by
  cases value <;> simp only [redactControlMetadata, gt_iff_lt, deep, if_true]

mutual

/-- Redaction reports nothing exactly of presentable values. -/
theorem redactControlMetadata_reports (depth : Nat) : (value : Json) →
    ((redactControlMetadata depth value).2 = false ↔ value.Presentable depth)
  | .null => by
      simp only [redactControlMetadata, Json.Presentable]
      split <;> simp <;> omega
  | .bool _ => by
      simp only [redactControlMetadata, Json.Presentable]
      split <;> simp <;> omega
  | .num _ => by
      simp only [redactControlMetadata, Json.Presentable]
      split <;> simp <;> omega
  | .dec _ => by
      simp only [redactControlMetadata, Json.Presentable]
      split <;> simp <;> omega
  | .str text => by
      rw [redactControlMetadata, Json.Presentable]
      split
      · simp
        omega
      · rename_i shallow
        split
        · rename_i secret
          simp [secret]
        · rename_i plain
          simp [Nat.not_lt.mp shallow, plain]
  | .arr items => by
      rw [redactControlMetadata, Json.Presentable]
      split
      · simp
        omega
      · rename_i shallow
        dsimp only
        rw [Bool.or_eq_false_iff, decide_eq_false_iff_not, Nat.not_lt]
        constructor
        · rintro ⟨short, reported⟩
          exact ⟨Nat.not_lt.mp shallow, short, (redactItems_reports depth 100 items short).mp
            reported⟩
        · rintro ⟨-, short, presentable⟩
          exact ⟨short, (redactItems_reports depth 100 items short).mpr presentable⟩
  | .obj fields => by
      rw [redactControlMetadata, Json.Presentable]
      split
      · simp
        omega
      · rename_i shallow
        dsimp only
        rw [redactFields_reports depth fields]
        simp [Nat.not_lt.mp shallow]

theorem redactItems_reports (depth room : Nat) : (items : List Json) → items.length ≤ room →
    ((redactItems depth room items).2 = false ↔ Json.ItemsPresentable (depth + 1) items)
  | [], _ => by simp [redactItems, Json.ItemsPresentable]
  | item :: items, fits => by
      cases room with
      | zero => cases fits
      | succ room =>
          rw [redactItems, Json.ItemsPresentable, Bool.or_eq_false_iff,
            redactControlMetadata_reports (depth + 1) item,
            redactItems_reports depth room items (Nat.le_of_succ_le_succ fits)]

theorem redactFields_reports (depth : Nat) : (fields : List (String × Json)) →
    ((redactFields depth fields).2 = false ↔ Json.FieldsPresentable (depth + 1) fields)
  | [] => by simp [redactFields, Json.FieldsPresentable]
  | (key, value) :: fields => by
      have first := redactControlMetadata_reports (depth + 1) value
      have rest := redactFields_reports depth fields
      rw [redactFields, Json.FieldsPresentable]
      split
      · rename_i forbidden
        simp [forbidden]
      · rename_i allowed
        split <;>
          (dsimp only
           rw [Bool.or_eq_false_iff, first, rest]
           simp [allowed])

end

mutual

/-- A presentable value is returned as it is, when no object in it owns a `__proto__`. -/
theorem redactControlMetadata_eq_self (depth : Nat) : (value : Json) → value.Presentable depth →
    value.OwnsProto = false → (redactControlMetadata depth value).1 = value
  | .null, presentable, _ => by
      have shallow : ¬8 < depth := Nat.not_lt.mpr presentable
      simp only [redactControlMetadata, gt_iff_lt, shallow, if_false]
  | .bool _, presentable, _ => by
      have shallow : ¬8 < depth := Nat.not_lt.mpr presentable
      simp only [redactControlMetadata, gt_iff_lt, shallow, if_false]
  | .num _, presentable, _ => by
      have shallow : ¬8 < depth := Nat.not_lt.mpr presentable
      simp only [redactControlMetadata, gt_iff_lt, shallow, if_false]
  | .dec _, presentable, _ => by
      have shallow : ¬8 < depth := Nat.not_lt.mpr presentable
      simp only [redactControlMetadata, gt_iff_lt, shallow, if_false]
  | .str text, presentable, _ => by
      obtain ⟨shallow, plain, short⟩ := presentable
      rw [redactControlMetadata, if_neg (Nat.not_lt.mpr shallow),
        if_neg (by rw [plain]; exact Bool.false_ne_true), slice_eq_self short]
  | .arr items, presentable, owns => by
      obtain ⟨shallow, short, inside⟩ := presentable
      rw [Json.OwnsProto] at owns
      rw [redactControlMetadata, if_neg (Nat.not_lt.mpr shallow)]
      dsimp only
      rw [redactItems_eq_self depth 100 items short inside owns]
  | .obj fields, presentable, owns => by
      obtain ⟨shallow, inside⟩ := presentable
      rw [Json.OwnsProto] at owns
      rw [redactControlMetadata, if_neg (Nat.not_lt.mpr shallow)]
      dsimp only
      rw [redactFields_eq_self depth fields inside owns]

theorem redactItems_eq_self (depth room : Nat) : (items : List Json) → items.length ≤ room →
    Json.ItemsPresentable (depth + 1) items → Json.itemsOwnProto items = false →
    (redactItems depth room items).1 = items
  | [], _, _, _ => by rw [redactItems]
  | item :: items, fits, inside, owns => by
      rw [Json.itemsOwnProto, Bool.or_eq_false_iff] at owns
      cases room with
      | zero => cases fits
      | succ room =>
          rw [redactItems]
          dsimp only
          rw [redactControlMetadata_eq_self (depth + 1) item inside.1 owns.1,
            redactItems_eq_self depth room items (Nat.le_of_succ_le_succ fits) inside.2 owns.2]

theorem redactFields_eq_self (depth : Nat) : (fields : List (String × Json)) →
    Json.FieldsPresentable (depth + 1) fields → Json.fieldsOwnProto fields = false →
    (redactFields depth fields).1 = fields
  | [], _, _ => by rw [redactFields]
  | (key, value) :: fields, inside, owns => by
      rw [Json.fieldsOwnProto, Bool.or_eq_false_iff, Bool.or_eq_false_iff,
        decide_eq_false_iff_not] at owns
      obtain ⟨allowed, presentable, later⟩ := inside
      rw [redactFields]
      dsimp only
      rw [if_neg (by rw [allowed]; exact Bool.false_ne_true), if_neg owns.1.1]
      dsimp only
      rw [redactControlMetadata_eq_self (depth + 1) value presentable owns.1.2,
        redactFields_eq_self depth fields later owns.2]

end

mutual

/-- No object that redaction returns owns a `__proto__`. -/
theorem redactControlMetadata_ownsProto (depth : Nat) : (value : Json) →
    (redactControlMetadata depth value).1.OwnsProto = false
  | .null => by
      simp only [redactControlMetadata]
      split <;> rfl
  | .bool _ => by
      simp only [redactControlMetadata]
      split <;> rfl
  | .num _ => by
      simp only [redactControlMetadata]
      split <;> rfl
  | .dec _ => by
      simp only [redactControlMetadata]
      split <;> rfl
  | .str _ => by
      rw [redactControlMetadata]
      split
      · rfl
      · split <;> rfl
  | .arr items => by
      rw [redactControlMetadata]
      split
      · rfl
      · exact redactItems_ownProto depth 100 items
  | .obj fields => by
      rw [redactControlMetadata]
      split
      · rfl
      · exact redactFields_ownProto depth fields

theorem redactItems_ownProto (depth room : Nat) : (items : List Json) →
    Json.itemsOwnProto (redactItems depth room items).1 = false
  | [] => by rw [redactItems, Json.itemsOwnProto]
  | item :: items => by
      cases room with
      | zero => rw [redactItems, Json.itemsOwnProto]; exact List.cons_ne_nil item items
      | succ room =>
          rw [redactItems]
          dsimp only
          rw [Json.itemsOwnProto, redactControlMetadata_ownsProto (depth + 1) item,
            redactItems_ownProto depth room items, Bool.or_false]

theorem redactFields_ownProto (depth : Nat) : (fields : List (String × Json)) →
    Json.fieldsOwnProto (redactFields depth fields).1 = false
  | [] => by rw [redactFields, Json.fieldsOwnProto]
  | (key, value) :: fields => by
      have rest := redactFields_ownProto depth fields
      rw [redactFields]
      dsimp only
      split
      · exact rest
      · split
        · exact rest
        · rename_i other
          rw [Json.fieldsOwnProto, redactControlMetadata_ownsProto (depth + 1) value, rest]
          simpa using other

end

mutual

/-- Redacting what redaction returned returns it unchanged. -/
theorem redactControlMetadata_idempotent (depth : Nat) : (value : Json) →
    (redactControlMetadata depth (redactControlMetadata depth value).1).1 =
      (redactControlMetadata depth value).1
  | .null => by
      by_cases deep : 8 < depth
      · rw [redactControlMetadata_deep deep, redactControlMetadata_deep deep]
      · simp only [redactControlMetadata, gt_iff_lt, deep, if_false]
  | .bool _ => by
      by_cases deep : 8 < depth
      · rw [redactControlMetadata_deep deep, redactControlMetadata_deep deep]
      · simp only [redactControlMetadata, gt_iff_lt, deep, if_false]
  | .num _ => by
      by_cases deep : 8 < depth
      · rw [redactControlMetadata_deep deep, redactControlMetadata_deep deep]
      · simp only [redactControlMetadata, gt_iff_lt, deep, if_false]
  | .dec _ => by
      by_cases deep : 8 < depth
      · rw [redactControlMetadata_deep deep, redactControlMetadata_deep deep]
      · simp only [redactControlMetadata, gt_iff_lt, deep, if_false]
  | .str text => by
      by_cases deep : 8 < depth
      · rw [redactControlMetadata_deep deep, redactControlMetadata_deep deep]
      · cases secret : isSecretText text with
        | true =>
            have standsIn : isSecretText "[redacted]" = false := isSafeText_redacted.2
            have short : utf16Length "[redacted]" ≤ 512 := by decide
            simp only [redactControlMetadata, gt_iff_lt, deep, if_false, secret, if_true, standsIn,
              Bool.false_eq_true, if_false, slice_eq_self short]
        | false =>
            have plain := (isSafeText_slice (show 512 ≤ 4096 by decide) secret).2
            simp only [redactControlMetadata, gt_iff_lt, deep, if_false, secret, Bool.false_eq_true, if_false,
              plain, slice_eq_self (utf16Length_slice 512 text)]
  | .arr items => by
      by_cases deep : 8 < depth
      · rw [redactControlMetadata_deep deep, redactControlMetadata_deep deep]
      · simp only [redactControlMetadata, gt_iff_lt, deep, if_false]
        rw [redactItems_idempotent depth 100 items]
  | .obj fields => by
      by_cases deep : 8 < depth
      · rw [redactControlMetadata_deep deep, redactControlMetadata_deep deep]
      · simp only [redactControlMetadata, gt_iff_lt, deep, if_false]
        rw [redactFields_idempotent depth fields]

theorem redactItems_idempotent (depth room : Nat) : (items : List Json) →
    (redactItems depth room (redactItems depth room items).1).1 = (redactItems depth room items).1
  | [] => by simp only [redactItems]
  | item :: items => by
      cases room with
      | zero => simp only [redactItems]
      | succ room =>
          simp only [redactItems]
          rw [redactControlMetadata_idempotent (depth + 1) item,
            redactItems_idempotent depth room items]

theorem redactFields_idempotent (depth : Nat) : (fields : List (String × Json)) →
    (redactFields depth (redactFields depth fields).1).1 = (redactFields depth fields).1
  | [] => by simp only [redactFields]
  | (key, value) :: fields => by
      have rest := redactFields_idempotent depth fields
      rw [redactFields]
      dsimp only
      split
      · exact rest
      · rename_i allowed
        split
        · exact rest
        · rename_i other
          rw [redactFields, if_neg allowed, if_neg other]
          dsimp only
          rw [redactControlMetadata_idempotent (depth + 1) value, rest]

end

/-! ### When redaction keeps its word -/

/-- What redaction returns passes the payload check and is its own redaction, and nothing was
lost when nothing was reported. -/
structure RedactsFaithfully (value : Json) : Prop where
  storable : ∀ path, assertSafeControlPayload path (redactControlMetadata 0 value).1 = .ok ()
  stable : (redactControlMetadata 0 (redactControlMetadata 0 value).1).1 =
    (redactControlMetadata 0 value).1
  candid : (redactControlMetadata 0 value).2 = false → (redactControlMetadata 0 value).1 = value

end BairuiPlatform
