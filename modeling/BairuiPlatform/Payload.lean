/-
Module: BairuiPlatform.Payload
Purpose: What the payload check of the policy accepts: redaction leaves nothing that it
  rejects, and the check of the database rejects nothing that it accepts.
Trusted boundary: none
Main exports: Json.IsSafe, IsPlainClass, assertSafeControlPayload_ok,
  redactControlMetadata_isSafe, Host.SpacesWithin, bairuiControlJsonIsSafe_of_isSafe,
  isSafeText_isoString
-/
import BairuiPlatform.Clock
import BairuiPlatform.Policy
import Mathlib.Data.List.TakeWhile

namespace BairuiPlatform

/-! ### Texts that look like secrets -/

/-- A literal that stands at the start of a text stands at the start of a longer one. -/
theorem dropLiteral_append {pattern text rest : List Char} (more : List Char)
    (dropped : dropLiteral pattern text = some rest) :
    dropLiteral pattern (text ++ more) = some (rest ++ more) := by
  induction pattern generalizing text with
  | nil =>
      simp only [dropLiteral, Option.some.injEq] at dropped ⊢
      rw [dropped]
  | cons expected pattern ih =>
      cases text with
      | nil => simp [dropLiteral] at dropped
      | cons c text =>
          simp only [dropLiteral, List.cons_append] at dropped ⊢
          split at dropped
          · rename_i same
            rw [if_pos same]
            exact ih dropped
          · simp at dropped

/-- A text is at least one character of a class, and a rest that starts with none. -/
theorem dropSome_eq_some {inClass : Char → Bool} {text rest : List Char} :
    dropSome inClass text = some rest ↔
      ∃ lead, lead ≠ [] ∧ (∀ c ∈ lead, inClass c = true) ∧ text = lead ++ rest ∧
        ∀ c ∈ rest.head?, inClass c = false := by
  unfold dropSome
  constructor
  · intro dropped
    split at dropped
    · cases dropped
    · rename_i some_taken
      cases dropped
      refine ⟨text.takeWhile inClass, by simpa using some_taken, ?_, ?_, ?_⟩
      · intro c member
        exact List.mem_takeWhile_imp member
      · exact (List.takeWhile_append_dropWhile).symm
      · intro c head
        have stops := List.head?_dropWhile_not inClass text
        rw [Option.mem_def.mp head] at stops
        simpa using stops
  · rintro ⟨lead, nonempty, all, rfl, stops⟩
    have stopped : rest.takeWhile inClass = [] ∧ rest.dropWhile inClass = rest := by
      cases rest with
      | nil => simp
      | cons c rest =>
          have head := stops c rfl
          simp [head]
    rw [List.takeWhile_append_of_pos all, List.dropWhile_append_of_pos all, stopped.1,
      stopped.2, List.append_nil, if_neg (by simpa using nonempty)]

/-- No letter, digit or sign of a token is a space. -/
theorem isSpace_eq_false_of_bounds {c : Char} (low : 33 ≤ c.toNat) (high : c.toNat ≤ 159) :
    isSpace c = false := by
  simp only [isSpace, Bool.or_eq_false_iff, Bool.and_eq_false_iff, decide_eq_false_iff_not,
    beq_eq_false_iff_ne]
  omega

theorem isSpace_eq_false_of_toLower {c d : Char} (same : c.toLower = d) (low : 33 ≤ d.toNat)
    (high : d.toNat ≤ 159) : isSpace c = false := by
  by_cases upper : 65 ≤ c.toNat ∧ c.toNat ≤ 90
  · apply isSpace_eq_false_of_bounds <;> omega
  · have lower : c.toLower = c := by
      apply dif_neg
      exact upper
    rw [← same, lower] at low high
    exact isSpace_eq_false_of_bounds low high

theorem isSpace_eq_false_of_isLetter {c : Char} (letter : isLetter c = true) :
    isSpace c = false := by
  simp only [isLetter, Bool.or_eq_true, Bool.and_eq_true, decide_eq_true_eq, Char.le_def,
    UInt32.le_iff_toNat_le] at letter
  have code : c.toNat = c.val.toNat := rfl
  apply isSpace_eq_false_of_bounds
  · simp at letter
    omega
  · simp at letter
    omega

/-- Sixteen characters of a class stay what they are, whatever follows. -/
theorem startsWithSixteen_append {inClass : Char → Bool} {text : List Char} (more : List Char)
    (starts : startsWithSixteen inClass text = true) :
    startsWithSixteen inClass (text ++ more) = true := by
  simp only [startsWithSixteen, Bool.and_eq_true, beq_iff_eq, List.length_take] at starts ⊢
  have enough : 16 ≤ text.length := by omega
  rw [List.take_append_of_le_length enough, List.length_append]
  exact ⟨by omega, starts.2⟩

theorem startsWithSixteen_head {inClass : Char → Bool} {text : List Char}
    (starts : startsWithSixteen inClass text = true) :
    ∃ next rest, text = next :: rest ∧ inClass next = true := by
  cases text with
  | nil => simp [startsWithSixteen] at starts
  | cons next rest =>
      simp only [startsWithSixteen, Bool.and_eq_true, List.take_succ_cons, List.all_cons] at starts
      exact ⟨next, rest, rfl, starts.2.1⟩

theorem isSpace_eq_false_of_isBearerChar {c : Char} (bearer : isBearerChar c = true) :
    isSpace c = false := by
  simp only [isBearerChar, isAlphanumeric, Bool.or_eq_true, Bool.and_eq_true,
    decide_eq_true_eq, Char.le_def, UInt32.le_iff_toNat_le, List.contains_eq_mem,
    List.mem_cons, List.not_mem_nil, or_false] at bearer
  have code : c.toNat = c.val.toNat := rfl
  rcases bearer with classes | rfl | rfl | rfl | rfl | rfl | rfl | rfl
  · simp at classes
    apply isSpace_eq_false_of_bounds <;> omega
  all_goals decide

theorem endsApiKey_append {text : List Char} (more : List Char)
    (ends : endsApiKey text = true) : endsApiKey (text ++ more) = true := by
  cases text with
  | nil => simp [endsApiKey] at ends
  | cons c rest =>
      simp only [endsApiKey, List.cons_append, Bool.and_eq_true] at ends ⊢
      exact ⟨ends.1, startsWithSixteen_append more ends.2⟩

section Widening

variable {space : Char → Bool} (within : ∀ c, space c = true → isSpace c = true)

include within

/-- Spaces of a narrower class before a character that is none are spaces, whatever
follows. -/
theorem dropSome_widen {text rest : List Char} {next : Char} (more : List Char)
    (dropped : dropSome space text = some (next :: rest)) (solid : isSpace next = false) :
    dropSome isSpace (text ++ more) = some (next :: rest ++ more) := by
  obtain ⟨lead, nonempty, all, rfl, -⟩ := dropSome_eq_some.mp dropped
  apply dropSome_eq_some.mpr
  refine ⟨lead, nonempty, fun c member => within c (all c member), by simp, ?_⟩
  intro c head
  cases head
  exact solid

/-- The end of a private key line does not start with a space. -/
theorem endsPrivateKey_widen {text : List Char} (more : List Char)
    (ends : endsPrivateKey space text = true) :
    endsPrivateKey isSpace (text ++ more) = true ∧
      ∃ next rest, text = next :: rest ∧ isSpace next = false := by
  have solid : ∀ {text rest : List Char},
      dropLiteral "PRIVATE KEY-----".toList text = some rest →
        ∃ next after, text = next :: after ∧ isSpace next = false := by
    intro text rest dropped
    cases text with
    | nil => cases dropped
    | cons next after =>
        refine ⟨next, after, rfl, ?_⟩
        have literal : "PRIVATE KEY-----".toList = 'P' :: "RIVATE KEY-----".toList := by simp
        rw [literal, dropLiteral] at dropped
        split at dropped
        · rename_i head
          exact isSpace_eq_false_of_toLower head (by decide) (by decide)
        · cases dropped
  simp only [endsPrivateKey, Bool.or_eq_true, Option.isSome_iff_exists] at ends ⊢
  rcases ends with ⟨rest, dropped⟩ | worded
  · exact ⟨.inl ⟨_, dropLiteral_append more dropped⟩, solid dropped⟩
  · split at worded
    · rename_i rest found
      obtain ⟨spaced, word, dropped⟩ := Option.bind_eq_some_iff.mp found
      obtain ⟨last, ended⟩ := Option.isSome_iff_exists.mp worded
      obtain ⟨next, after, rfl, nextSolid⟩ := solid ended
      have gap := dropSome_widen within more dropped nextSolid
      obtain ⟨lead, nonempty, letters, rfl, stops⟩ := dropSome_eq_some.mp word
      have longer : dropSome isLetter (lead ++ spaced ++ more) = some (spaced ++ more) := by
        apply dropSome_eq_some.mpr
        refine ⟨lead, nonempty, letters, by simp, ?_⟩
        intro c head
        cases spaced with
        | nil => simp [dropSome] at dropped
        | cons first spaced =>
            apply stops
            simpa using head
      refine ⟨.inr ?_, ?_⟩
      · rw [longer, Option.bind_some, gap]
        show (dropLiteral _ (next :: after ++ more)).isSome = true
        rw [dropLiteral_append more ended]
        rfl
      · cases lead with
        | nil => exact absurd rfl nonempty
        | cons first lead =>
            exact ⟨first, lead ++ spaced, rfl,
              isSpace_eq_false_of_isLetter (letters first List.mem_cons_self)⟩
    · cases worded

theorem secretAt_widen {text : List Char} (more : List Char)
    (secret : secretAt space text = true) : secretAt isSpace (text ++ more) = true := by
  simp only [secretAt, Bool.or_eq_true] at secret ⊢
  rcases secret with ((key | bearer) | sk) | gh
  · refine .inl (.inl (.inl ?_))
    split at key
    · rename_i rest found
      obtain ⟨spaced, literal, dropped⟩ := Option.bind_eq_some_iff.mp found
      obtain ⟨ends, next, after, rfl, solid⟩ := endsPrivateKey_widen within more key
      rw [dropLiteral_append more literal, Option.bind_some,
        dropSome_widen within more dropped solid]
      exact ends
    · cases key
  · refine .inl (.inl (.inr ?_))
    split at bearer
    · rename_i rest found
      obtain ⟨spaced, literal, dropped⟩ := Option.bind_eq_some_iff.mp found
      obtain ⟨next, after, rfl, isBearer⟩ := startsWithSixteen_head bearer
      rw [dropLiteral_append more literal, Option.bind_some,
        dropSome_widen within more dropped (isSpace_eq_false_of_isBearerChar isBearer)]
      exact startsWithSixteen_append more bearer
    · cases bearer
  · refine .inl (.inr ?_)
    split at sk
    · rename_i rest dropped
      rw [dropLiteral_append more dropped]
      exact endsApiKey_append more sk
    · cases sk
  · refine .inr ?_
    split at gh
    · rename_i c rest dropped
      rw [dropLiteral_append more dropped]
      simp only [List.cons_append, Bool.and_eq_true] at gh ⊢
      exact ⟨gh.1, endsApiKey_append more gh.2⟩
    · cases gh

/-- A secret in the sense of a narrower class of spaces is one, whatever follows. -/
theorem secretIn_widen {text : List Char} (more : List Char)
    (secret : secretIn space text = true) : secretIn isSpace (text ++ more) = true := by
  induction text with
  | nil => cases secret
  | cons c rest ih =>
      simp only [secretIn, List.cons_append, Bool.or_eq_true] at secret ⊢
      exact secret.imp (secretAt_widen within more) ih

end Widening

/-! ### Safe values -/

/-- A text that the payload check lets pass. -/
def IsSafeText (text : String) : Prop :=
  utf16Length text ≤ 4096 ∧ isSecretText text = false

/-- A literal with a character outside a class does not start a text of the class. -/
theorem dropLiteral_eq_none {inClass : Char → Bool} {pattern : List Char} (foreign : Char)
    (member : foreign ∈ pattern) (apart : ∀ c, inClass c = true → c.toLower ≠ foreign.toLower) :
    ∀ text : List Char, text.all inClass = true → dropLiteral pattern text = none := by
  induction pattern with
  | nil => simp at member
  | cons first rest ih =>
      intro text inside
      cases text with
      | nil => rfl
      | cons c text =>
          rw [List.all_cons, Bool.and_eq_true] at inside
          rcases List.mem_cons.mp member with rfl | later
          · rw [dropLiteral, if_neg (apart c inside.1)]
          · rw [dropLiteral]
            split
            · exact ih later text inside.2
            · rfl

/-- A class of ASCII characters without three letters that the secret patterns need. -/
structure IsPlainClass (inClass : Char → Bool) : Prop where
  ascii : ∀ c, inClass c = true → c.toNat < 128
  apart : ∀ code < 128, inClass (Char.ofNat code) = true →
    (Char.ofNat code).toLower ≠ 'g' ∧ (Char.ofNat code).toLower ≠ 'r' ∧
      (Char.ofNat code).toLower ≠ 's'

namespace IsPlainClass

variable {inClass : Char → Bool} (plain : IsPlainClass inClass)

include plain

theorem toLower {c : Char} (shaped : inClass c = true) :
    c.toLower ≠ 'g' ∧ c.toLower ≠ 'r' ∧ c.toLower ≠ 's' := by
  have small := plain.ascii c shaped
  have named := Char.ofNat_toNat c
  rw [← named] at shaped ⊢
  exact plain.apart c.toNat small shaped

/-- Characters of a plain class make no secret. -/
theorem secretIn {space : Char → Bool} :
    ∀ text : List Char, text.all inClass = true → secretIn space text = false := by
  intro text
  induction text with
  | nil => exact fun _ => rfl
  | cons c rest ih =>
      intro inside
      have key : dropLiteral "-----BEGIN".toList (c :: rest) = none :=
        dropLiteral_eq_none 'G' (by decide) (fun c shaped => (plain.toLower shaped).1) _ inside
      have bearer : dropLiteral "Bearer".toList (c :: rest) = none :=
        dropLiteral_eq_none 'r' (by decide) (fun c shaped => (plain.toLower shaped).2.1) _ inside
      have sk : dropLiteral "sk".toList (c :: rest) = none :=
        dropLiteral_eq_none 's' (by decide) (fun c shaped => (plain.toLower shaped).2.2) _ inside
      have gh : dropLiteral "gh".toList (c :: rest) = none :=
        dropLiteral_eq_none 'g' (by decide) (fun c shaped => (plain.toLower shaped).1) _ inside
      rw [List.all_cons, Bool.and_eq_true] at inside
      rw [BairuiPlatform.secretIn, secretAt, key, bearer, sk, gh, ih inside.2]
      rfl

/-- A character of a plain class is one code unit. -/
theorem units_length {c : Char} (shaped : inClass c = true) : (utf16Units c).length = 1 := by
  have small := plain.ascii c shaped
  rw [utf16Units, if_pos (by omega)]
  rfl

theorem flatMap_units_length (text : List Char) (inside : text.all inClass = true) :
    (text.flatMap utf16Units).length = text.length := by
  induction text with
  | nil => rfl
  | cons c rest ih =>
      rw [List.all_cons, Bool.and_eq_true] at inside
      rw [List.flatMap_cons, List.length_append, ih inside.2, plain.units_length inside.1,
        List.length_cons]
      omega

/-- A text of a plain class passes the payload check unless it is too long. -/
theorem isSafeText {text : String} (inside : text.toList.all inClass = true)
    (short : text.toList.length ≤ 4096) : IsSafeText text := by
  refine ⟨?_, ?_⟩
  · unfold utf16Length utf16
    rw [chars_eq_toList, plain.flatMap_units_length _ inside]
    exact short
  · rw [isSecretText, chars_eq_toList]
    exact plain.secretIn _ inside

end IsPlainClass

mutual

/-- A value that the payload check lets pass. -/
def Json.IsSafe : Json → Prop
  | .null | .bool _ | .num _ | .dec _ => True
  | .str text => IsSafeText text
  | .arr items => items.length ≤ 1000 ∧ Json.ItemsAreSafe items
  | .obj fields => Json.FieldsAreSafe fields

/-- The items of an array pass. -/
def Json.ItemsAreSafe : List Json → Prop
  | [] => True
  | item :: items => item.IsSafe ∧ Json.ItemsAreSafe items

/-- The properties of an object pass, names and values. -/
def Json.FieldsAreSafe : List (String × Json) → Prop
  | [] => True
  | (key, value) :: fields =>
      isForbiddenKey key = false ∧ value.IsSafe ∧ Json.FieldsAreSafe fields

end

theorem Json.itemsAreSafe_iff {items : List Json} :
    Json.ItemsAreSafe items ↔ ∀ item ∈ items, item.IsSafe := by
  induction items with
  | nil => simp [Json.ItemsAreSafe]
  | cons item items ih => simp [Json.ItemsAreSafe, ih]

theorem Json.fieldsAreSafe_iff {fields : List (String × Json)} :
    Json.FieldsAreSafe fields ↔
      ∀ field ∈ fields, isForbiddenKey field.1 = false ∧ field.2.IsSafe := by
  induction fields with
  | nil => simp [Json.FieldsAreSafe]
  | cons field fields ih => simp [Json.FieldsAreSafe, ih, and_assoc]

/-- A check after a check. -/
theorem Except.bind_eq_ok_unit {ε : Type} {first : Except ε Unit} {rest : Unit → Except ε Unit} :
    (first >>= rest) = .ok () ↔ first = .ok () ∧ rest () = .ok () := by
  cases first with
  | error error => simp [bind, Except.bind]
  | ok answer => simp [bind, Except.bind]

mutual

/-- The payload check passes exactly the safe values, under every path. -/
theorem assertSafeControlPayload_ok (path : String) : (value : Json) →
    (assertSafeControlPayload path value = .ok () ↔ value.IsSafe)
  | .null => by simp [assertSafeControlPayload, Json.IsSafe]
  | .bool _ => by simp [assertSafeControlPayload, Json.IsSafe]
  | .num _ => by simp [assertSafeControlPayload, Json.IsSafe]
  | .dec _ => by simp [assertSafeControlPayload, Json.IsSafe]
  | .str text => by
      simp only [assertSafeControlPayload, Json.IsSafe, IsSafeText]
      split
      · rename_i long
        simp [Nat.not_le.mpr long]
      · rename_i short
        split
        · rename_i secret
          simp [secret]
        · rename_i plain
          simp [Nat.not_lt.mp short, plain]
  | .arr items => by
      simp only [assertSafeControlPayload, Json.IsSafe]
      split
      · rename_i long
        simp [Nat.not_le.mpr long]
      · rename_i short
        rw [assertSafeItems_ok path 0 items]
        simp [Nat.not_lt.mp short]
  | .obj fields => by
      simp only [assertSafeControlPayload, Json.IsSafe]
      exact assertSafeFields_ok path fields

theorem assertSafeItems_ok (path : String) (index : Nat) : (items : List Json) →
    (assertSafeItems path index items = .ok () ↔ Json.ItemsAreSafe items)
  | [] => by simp [assertSafeItems, Json.ItemsAreSafe]
  | item :: items => by
      simp only [assertSafeItems, Json.ItemsAreSafe, Except.bind_eq_ok_unit]
      rw [assertSafeControlPayload_ok _ item, assertSafeItems_ok path (index + 1) items]

theorem assertSafeFields_ok (path : String) : (fields : List (String × Json)) →
    (assertSafeFields path fields = .ok () ↔ Json.FieldsAreSafe fields)
  | [] => by simp [assertSafeFields, Json.FieldsAreSafe]
  | (key, value) :: fields => by
      simp only [assertSafeFields, Json.FieldsAreSafe]
      split
      · rename_i forbidden
        simp [forbidden, throw, throwThe, MonadExceptOf.throw, bind, Except.bind]
      · rename_i allowed
        simp only [Except.bind_eq_ok_unit]
        rw [assertSafeControlPayload_ok _ value, assertSafeFields_ok path fields]
        simp [allowed]

end

/-- Operational metadata pass the payload check. -/
theorem assertOperationalMetadata_isSafe {path : String} {depth : Nat} {value : Json}
    (passed : assertOperationalMetadata path depth value = .ok ()) : value.IsSafe := by
  have first : assertSafeControlPayload path value = .ok () := by
    cases value <;> (unfold assertOperationalMetadata at passed
                     exact (Except.bind_eq_ok_unit.mp passed).1)
  exact (assertSafeControlPayload_ok path value).mp first

/-! ### Redaction -/

theorem sliceChars_prefix (room : Nat) (letters : List Char) :
    ∃ more, letters = sliceChars room letters ++ more := by
  induction letters generalizing room with
  | nil => exact ⟨[], rfl⟩
  | cons c rest ih =>
      unfold sliceChars
      split
      · obtain ⟨more, same⟩ := ih (room - (utf16Units c).length)
        exact ⟨more, by rw [List.cons_append, ← same]⟩
      · exact ⟨c :: rest, rfl⟩

theorem sliceChars_length_le (room : Nat) (letters : List Char) :
    ((sliceChars room letters).flatMap utf16Units).length ≤ room := by
  induction letters generalizing room with
  | nil => exact Nat.zero_le _
  | cons c rest ih =>
      unfold sliceChars
      split
      · have later := ih (room - (utf16Units c).length)
        rw [List.flatMap_cons, List.length_append]
        omega
      · exact Nat.zero_le _

/-- The start of a text that looks like no secret looks like none. -/
theorem isSafeText_slice {room : Nat} {text : String} (small : room ≤ 4096)
    (plain : isSecretText text = false) : IsSafeText (slice room text) := by
  unfold IsSafeText isSecretText utf16Length utf16 slice at *
  rw [chars_eq_toList] at plain ⊢
  rw [chars_eq_toList, String.toList_ofList]
  refine ⟨(sliceChars_length_le room text.toList).trans small, ?_⟩
  obtain ⟨more, same⟩ := sliceChars_prefix room text.toList
  cases secret : secretIn isSpace (sliceChars room text.toList) with
  | false => rfl
  | true =>
      have whole := secretIn_widen (fun _ space => space) more secret
      rw [← same, plain] at whole
      cases whole

theorem isSafeText_redactedDepth : IsSafeText "[redacted-depth]" := by
  unfold IsSafeText
  decide

theorem isSafeText_redacted : IsSafeText "[redacted]" := by
  unfold IsSafeText
  decide

mutual

/-- What redaction returns passes the payload check. -/
theorem redactControlMetadata_isSafe (depth : Nat) : (value : Json) →
    (redactControlMetadata depth value).1.IsSafe
  | .null => by
      simp only [redactControlMetadata]
      split
      · exact isSafeText_redactedDepth
      · trivial
  | .bool _ => by
      simp only [redactControlMetadata]
      split
      · exact isSafeText_redactedDepth
      · trivial
  | .num _ => by
      simp only [redactControlMetadata]
      split
      · exact isSafeText_redactedDepth
      · trivial
  | .dec _ => by
      simp only [redactControlMetadata]
      split
      · exact isSafeText_redactedDepth
      · trivial
  | .str text => by
      simp only [redactControlMetadata]
      split
      · exact isSafeText_redactedDepth
      · split
        · exact isSafeText_redacted
        · rename_i plain
          exact isSafeText_slice (by decide) (by simpa using plain)
  | .arr items => by
      simp only [redactControlMetadata]
      split
      · exact isSafeText_redactedDepth
      · have kept := redactItems_areSafe depth 100 items
        exact ⟨kept.1.trans (by decide), kept.2⟩
  | .obj fields => by
      simp only [redactControlMetadata]
      split
      · exact isSafeText_redactedDepth
      · exact redactFields_areSafe depth fields

theorem redactItems_areSafe (depth room : Nat) : (items : List Json) →
    (redactItems depth room items).1.length ≤ room ∧
      Json.ItemsAreSafe (redactItems depth room items).1
  | [] => by simp [redactItems, Json.ItemsAreSafe]
  | item :: items => by
      cases room with
      | zero => simp [redactItems, Json.ItemsAreSafe]
      | succ room =>
          have first := redactControlMetadata_isSafe (depth + 1) item
          have rest := redactItems_areSafe depth room items
          simp only [redactItems, List.length_cons, Json.ItemsAreSafe]
          exact ⟨Nat.succ_le_succ rest.1, first, rest.2⟩

theorem redactFields_areSafe (depth : Nat) : (fields : List (String × Json)) →
    Json.FieldsAreSafe (redactFields depth fields).1
  | [] => by simp [redactFields, Json.FieldsAreSafe]
  | (key, value) :: fields => by
      have first := redactControlMetadata_isSafe (depth + 1) value
      have rest := redactFields_areSafe depth fields
      simp only [redactFields]
      split
      · exact rest
      · rename_i allowed
        split
        · exact rest
        · exact ⟨by simpa using allowed, first, rest⟩

end

/-! ### The check of the database -/

/-- The spaces of the database are spaces of JavaScript. -/
def Host.SpacesWithin (host : Host) : Prop :=
  ∀ c, host.posixSpace c = true → isSpace c = true

theorem posix_spacesWithin : Host.posix.SpacesWithin := by
  intro c space
  have listed : c ∈ [' ', '\t', '\n', '\x0b', '\x0c', '\r'] := List.contains_iff_mem.mp space
  simp only [List.mem_cons, List.not_mem_nil, or_false] at listed
  rcases listed with rfl | rfl | rfl | rfl | rfl | rfl <;> decide

theorem length_le_utf16Length (text : String) : text.length ≤ utf16Length text := by
  unfold utf16Length utf16
  rw [chars_eq_toList, ← String.length_toList]
  induction text.toList with
  | nil => exact Nat.zero_le _
  | cons c rest ih =>
      have positive : 1 ≤ (utf16Units c).length := by
        unfold utf16Units
        split <;> simp
      rw [List.length_cons, List.flatMap_cons, List.length_append]
      omega

mutual

/-- The check of the database lets every safe value pass. -/
theorem bairuiControlJsonIsSafe_of_isSafe [host : Host] (within : host.SpacesWithin) :
    {value : Json} → value.IsSafe →
    bairuiControlJsonIsSafe value = true
  | .null, _ => by simp [bairuiControlJsonIsSafe]
  | .bool _, _ => by simp [bairuiControlJsonIsSafe]
  | .num _, _ => by simp [bairuiControlJsonIsSafe]
  | .dec _, _ => by simp [bairuiControlJsonIsSafe]
  | .str text, safe => by
      have short := (length_le_utf16Length text).trans safe.1
      have plain : secretIn Host.posixSpace text.toList = false := by
        cases secret : secretIn Host.posixSpace text.toList with
        | false => rfl
        | true =>
            have seen := secretIn_widen within [] secret
            rw [List.append_nil, ← chars_eq_toList] at seen
            exact absurd (safe.2.symm.trans seen) (by decide)
      simp [bairuiControlJsonIsSafe, plain, short]
  | .arr items, safe => by
      simp only [bairuiControlJsonIsSafe]
      exact jsonItemsAreSafe_of_areSafe within safe.2
  | .obj fields, safe => by
      simp only [bairuiControlJsonIsSafe]
      exact jsonFieldsAreSafe_of_areSafe within safe

theorem jsonItemsAreSafe_of_areSafe [host : Host] (within : host.SpacesWithin) :
    {items : List Json} → Json.ItemsAreSafe items → jsonItemsAreSafe items = true
  | [], _ => by simp [jsonItemsAreSafe]
  | item :: items, safe => by
      simp [jsonItemsAreSafe, bairuiControlJsonIsSafe_of_isSafe within safe.1,
        jsonItemsAreSafe_of_areSafe within safe.2]

theorem jsonFieldsAreSafe_of_areSafe [host : Host] (within : host.SpacesWithin) :
    {fields : List (String × Json)} → Json.FieldsAreSafe fields → jsonFieldsAreSafe fields = true
  | [], _ => by simp [jsonFieldsAreSafe]
  | (key, value) :: fields, safe => by
      simp [jsonFieldsAreSafe, safe.1, bairuiControlJsonIsSafe_of_isSafe within safe.2.1,
        jsonFieldsAreSafe_of_areSafe within safe.2.2]

end

/-- The check of the database lets every value pass that the control authority lets pass,
under whatever path the authority checked it. -/
theorem assertSafeControlPayload_refines [host : Host] (within : host.SpacesWithin)
    (path : String) (value : Json) (passed : assertSafeControlPayload path value = .ok ()) :
    bairuiControlJsonIsSafe value = true := by
  have safe := (assertSafeControlPayload_ok path value).mp passed
  exact bairuiControlJsonIsSafe_of_isSafe within safe

/-- A nested payload with a token that is too short to be one. -/
theorem assertSafeControlPayload_refines_sample :
    @bairuiControlJsonIsSafe Host.posix
      (.obj [("probe_ids", .arr [.str "sk-123", .null, .num 3])]) = true :=
  @assertSafeControlPayload_refines Host.posix posix_spacesWithin "arguments" _ (by decide)

/-! ### Instants that are written out -/

/-- The characters of an instant that is written out. -/
def isStampChar (c : Char) : Bool :=
  c.isDigit || ['+', '-', '.', ':', 'T', 'Z'].contains c

/-- The last instant that a `Date` can hold. -/
def dateLimit : Nat := 8640000000000000000

theorem isStampChar_plain : IsPlainClass isStampChar where
  ascii c shaped := by
    simp only [isStampChar, Char.isDigit, Bool.or_eq_true, Bool.and_eq_true, decide_eq_true_eq,
      ge_iff_le, UInt32.le_iff_toNat_le, List.contains_eq_mem, List.mem_cons, List.not_mem_nil,
      or_false] at shaped
    rcases shaped with ⟨-, upper⟩ | rfl | rfl | rfl | rfl | rfl | rfl
    · exact lt_of_le_of_lt upper (by decide)
    all_goals decide
  apart := by decide

/-- Decimal digits are characters of an instant. -/
theorem padded_all (width number : Nat) :
    (padded width number).toList.all isStampChar = true := by
  rw [padded, String.toList_ofList, List.all_append, Bool.and_eq_true, List.all_eq_true,
    List.all_eq_true]
  constructor
  · intro c member
    rw [List.eq_of_mem_replicate member]
    decide
  · intro c member
    rw [Nat.toString_eq_ofList_toDigits, String.toList_ofList] at member
    rw [isStampChar, Nat.isDigit_of_mem_toDigits (by decide) (by decide) member]
    rfl

/-- Numbers of at most six digits are short when they are written out. -/
theorem padded_length_le {width number : Nat} (narrow : width ≤ 6) (short : number < 10 ^ 6) :
    (padded width number).toList.length ≤ 6 := by
  have digits : (toString number).toList.length ≤ 6 := by
    rw [Nat.toString_eq_ofList_toDigits, String.toList_ofList]
    exact (Nat.length_toDigits_le_iff (by decide) (by decide)).mpr short
  rw [padded, String.toList_ofList, List.length_append, List.length_replicate]
  omega

/-- The parts of the dates of a `Date` have at most six digits. -/
theorem civilDate_lt {days : Nat} (bounded : days ≤ 100000000) :
    (civilDate days).1 < 10 ^ 6 ∧ (civilDate days).2.1 < 10 ^ 6 ∧
      (civilDate days).2.2 < 10 ^ 6 := by
  unfold civilDate
  simp only
  generalize dayOf : (days + 719468) % 146097 = dayOfEra
  generalize eraOf : (days + 719468) / 146097 = era
  generalize yearOf : (dayOfEra - dayOfEra / 1460 + dayOfEra / 36524 - dayOfEra / 146096) / 365 =
    yearOfEra
  have early : yearOfEra ≤ 401 := by omega
  have recent : era ≤ 700 := by omega
  clear yearOf
  generalize elapsed : dayOfEra - (365 * yearOfEra + yearOfEra / 4 - yearOfEra / 100) = dayOfYear
  have within : dayOfYear ≤ 146096 := by omega
  clear elapsed
  refine ⟨?_, ?_, ?_⟩
  · split <;> split <;> omega
  · split <;> omega
  · omega

/-- An instant that is written out has characters of an instant only. -/
theorem isoString_all (instant : Nat) : (isoString instant).toList.all isStampChar = true := by
  have sign : ∀ text ∈ ["+", "-", "T", ":", ".", "Z"], text.toList.all isStampChar = true := by
    decide
  simp only [List.forall_mem_cons] at sign
  obtain ⟨plus, dash, time, colon, dot, zone, -⟩ := sign
  simp only [isoString, String.toList_append, List.all_append, padded_all, dash, time, colon,
    dot, zone, Bool.and_true]
  split
  · exact padded_all _ _
  · simp only [String.toList_append, List.all_append, padded_all, plus, Bool.and_true]

/-- An instant of a `Date` is short when it is written out. -/
theorem isoString_length {instant : Nat} (bounded : instant ≤ dateLimit) :
    (isoString instant).toList.length ≤ 100 := by
  have small : ∀ width ≤ 6, ∀ number bound, bound ≤ 1000 → 0 < bound →
      (padded width (number % bound)).toList.length ≤ 6 := by
    intro width narrow number bound low positive
    have remainder := Nat.mod_lt number positive
    exact padded_length_le narrow (by omega)
  have hour := small 2 (by decide) (instant / 1000 / 1000 / 3600) 24 (by decide) (by decide)
  have minute := small 2 (by decide) (instant / 1000 / 1000 / 60) 60 (by decide) (by decide)
  have second := small 2 (by decide) (instant / 1000 / 1000) 60 (by decide) (by decide)
  have milli := small 3 (by decide) (instant / 1000) 1000 (by decide) (by decide)
  have signs : ("-".toList.length = 1 ∧ "T".toList.length = 1 ∧ ":".toList.length = 1) ∧
      ".".toList.length = 1 ∧ "Z".toList.length = 1 ∧ "+".toList.length = 1 := by decide
  unfold dateLimit at bounded
  have date := civilDate_lt (show instant / 1000 / 1000 / 86400 ≤ 100000000 by omega)
  simp only [isoString]
  generalize civilDate (instant / 1000 / 1000 / 86400) = parts at date ⊢
  obtain ⟨year, month, day⟩ := parts
  change year < 10 ^ 6 ∧ month < 10 ^ 6 ∧ day < 10 ^ 6 at date
  have years : ∀ width ≤ 6, (padded width year).toList.length ≤ 6 :=
    fun width narrow => padded_length_le narrow date.1
  have months := padded_length_le (show 2 ≤ 6 by decide) date.2.1
  have days := padded_length_le (show 2 ≤ 6 by decide) date.2.2
  simp only [String.toList_append, List.length_append]
  split
  · have four := years 4 (by decide)
    omega
  · have six := years 6 (by decide)
    rw [String.toList_append, List.length_append]
    omega

/-- An instant of a `Date` passes the payload check. -/
theorem isSafeText_isoString {instant : Nat} (bounded : instant ≤ dateLimit) :
    IsSafeText (isoString instant) := by
  have short := isoString_length bounded
  exact isStampChar_plain.isSafeText (isoString_all instant) (by omega)

end BairuiPlatform
