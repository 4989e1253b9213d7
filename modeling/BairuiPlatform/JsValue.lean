/-
Module: BairuiPlatform.JsValue
Purpose: JavaScript data as it stands before JSON.stringify and behind JSON.parse, with undefined
  members and numbers beyond the range of a double; equality up to the order of members.
Trusted boundary: none
Main exports: JsValue, JsValue.toJson, Json.toJs, JsValue.Reordered, JsValue.IsParsed,
  JsValue.canonicalValue, JsValue.canonicalValue_eq_iff
-/
import BairuiPlatform.JsonStorage

namespace BairuiPlatform

open Foundations

/-- A number that JSON has no text for. The text `1e999` is read as infinity. -/
inductive NonFinite where
  | nan
  | infinity
  | negativeInfinity
deriving Repr, DecidableEq

/-- A value of plain JavaScript data. -/
inductive JsValue where
  | undefined
  | null
  | bool (value : Bool)
  | num (value : Int)
  | dec (value : DecimalText)
  | nonFinite (value : NonFinite)
  | str (text : String)
  | arr (items : List JsValue)
  | obj (fields : List (String × JsValue))
deriving Repr, Inhabited

namespace JsValue

/-- `value === undefined`. -/
def isUndefined : JsValue → Bool
  | .undefined => true
  | _ => false

/-- A member is not undefined. -/
def isDefined (field : String × JsValue) : Bool :=
  !field.2.isUndefined

/-- The text of a value that is one. -/
def text? : JsValue → Option String
  | .str text => some text
  | _ => none

/-- `value[name]`, as far as it is a property of an object. -/
def member (name : String) : JsValue → JsValue
  | .obj fields => ((fields.find? fun field => field.1 = name).map Prod.snd).getD .undefined
  | _ => .undefined

mutual

/-- What the text of `JSON.stringify` says: undefined members are left out, undefined items and
numbers without a text are null. -/
def toJson : JsValue → Json
  | .undefined | .null | .nonFinite _ => .null
  | .bool value => .bool value
  | .num value => .num value
  | .dec value => .dec value
  | .str text => .str text
  | .arr items => .arr (itemsToJson items)
  | .obj fields => .obj (fieldsToJson fields)

/-- The items of an array. -/
def itemsToJson : List JsValue → List Json
  | [] => []
  | item :: items => toJson item :: itemsToJson items

/-- The members of an object that are not undefined. -/
def fieldsToJson : List (String × JsValue) → List (String × Json)
  | [] => []
  | (name, value) :: fields =>
      if value.isUndefined then fieldsToJson fields
      else (name, toJson value) :: fieldsToJson fields

end

mutual

/-- What is no array and no object in the value. -/
def leaves : JsValue → List JsValue
  | .arr items => itemLeaves items
  | .obj fields => fieldLeaves fields
  | value => [value]

/-- The leaves of the items of an array. -/
def itemLeaves : List JsValue → List JsValue
  | [] => []
  | item :: items => leaves item ++ itemLeaves items

/-- The leaves of the members of an object. -/
def fieldLeaves : List (String × JsValue) → List JsValue
  | [] => []
  | (_, value) :: fields => leaves value ++ fieldLeaves fields

end

mutual

/-- No object in the value has two members of one name. -/
def NamesDistinct : JsValue → Prop
  | .arr items => ItemsDistinct items
  | .obj fields => Keyed Prod.fst fields ∧ FieldsDistinct fields
  | _ => True

/-- The names are distinct in every item. -/
def ItemsDistinct : List JsValue → Prop
  | [] => True
  | item :: items => item.NamesDistinct ∧ ItemsDistinct items

/-- The names are distinct in every member. -/
def FieldsDistinct : List (String × JsValue) → Prop
  | [] => True
  | (_, value) :: fields => value.NamesDistinct ∧ FieldsDistinct fields

end

/-- A value that `JSON.parse` can return. -/
structure IsParsed (value : JsValue) : Prop where
  distinct : value.NamesDistinct
  defined : .undefined ∉ value.leaves
  numeric : .nonFinite .nan ∉ value.leaves

mutual

/-- `canonicalValue`: sorted names, without undefined members, at every level. -/
def canonicalValue : JsValue → JsValue
  | .arr items => .arr (canonicalItems items)
  | .obj fields =>
      .obj (Json.enumerated
        (((canonicalFields fields).insertionSort Json.nameLe).filter isDefined))
  | value => value

/-- The items of an array, each in canonical form. -/
def canonicalItems : List JsValue → List JsValue
  | [] => []
  | item :: items => canonicalValue item :: canonicalItems items

/-- The members of an object, each in canonical form. -/
def canonicalFields : List (String × JsValue) → List (String × JsValue)
  | [] => []
  | (name, value) :: fields => (name, canonicalValue value) :: canonicalFields fields

end

/-- The value is written as null, or left out. -/
def readsAsNull : JsValue → Bool
  | .undefined | .null | .nonFinite _ => true
  | _ => false

mutual

/-- The value with another value in the place of everything that is written as null. -/
def forNulls (other : JsValue) : JsValue → JsValue
  | .undefined | .null | .nonFinite _ => other
  | .arr items => .arr (itemsForNulls other items)
  | .obj fields => .obj (fieldsForNulls other fields)
  | value => value

/-- The items of an array. -/
def itemsForNulls (other : JsValue) : List JsValue → List JsValue
  | [] => []
  | item :: items => forNulls other item :: itemsForNulls other items

/-- The members of an object. -/
def fieldsForNulls (other : JsValue) : List (String × JsValue) → List (String × JsValue)
  | [] => []
  | (name, value) :: fields => (name, forNulls other value) :: fieldsForNulls other fields

end

/-- Nothing in the value is written as null: it holds neither null nor a number that JSON has no
text for. -/
def IsSolid (value : JsValue) : Prop :=
  ∀ leaf ∈ value.leaves, leaf.readsAsNull = false

/-- `JSON.stringify`, of a value that is not undefined. -/
def stringify (value : JsValue) : List Char :=
  value.toJson.stringifyChars

/-- The members of objects were put in another order, somewhere in the value. -/
inductive Reordered : JsValue → JsValue → Prop where
  | refl (value : JsValue) : Reordered value value
  | trans {first second third : JsValue} :
      Reordered first second → Reordered second third → Reordered first third
  | item {value other : JsValue} (before after : List JsValue) : Reordered value other →
      Reordered (.arr (before ++ value :: after)) (.arr (before ++ other :: after))
  | value {value other : JsValue} (name : String) (before after : List (String × JsValue)) :
      Reordered value other →
      Reordered (.obj (before ++ (name, value) :: after)) (.obj (before ++ (name, other) :: after))
  | members {fields others : List (String × JsValue)} : fields.Perm others →
      Reordered (.obj fields) (.obj others)

end JsValue

namespace Json

mutual

/-- What `JSON.parse` makes of the text of a value. -/
def toJs : Json → JsValue
  | .null => .null
  | .bool value => .bool value
  | .num value => .num value
  | .dec value => .dec value
  | .str text => .str text
  | .arr items => .arr (itemsToJs items)
  | .obj fields => .obj (fieldsToJs fields)

/-- The items of an array. -/
def itemsToJs : List Json → List JsValue
  | [] => []
  | item :: items => toJs item :: itemsToJs items

/-- The members of an object. -/
def fieldsToJs : List (String × Json) → List (String × JsValue)
  | [] => []
  | (name, value) :: fields => (name, toJs value) :: fieldsToJs fields

end

end Json

namespace JsValue

/-! ### Lists of items and members -/

theorem itemsToJson_eq_map (items : List JsValue) : itemsToJson items = items.map toJson := by
  induction items with
  | nil => rfl
  | cons item items ih => rw [itemsToJson, ih, List.map_cons]

theorem fieldsToJson_eq_map (fields : List (String × JsValue)) :
    fieldsToJson fields =
      (fields.filter isDefined).map fun field => (field.1, field.2.toJson) := by
  induction fields with
  | nil => rfl
  | cons field fields ih =>
      cases undefined : field.2.isUndefined <;>
        simp [fieldsToJson, isDefined, undefined, ih]

theorem itemLeaves_eq_flatMap (items : List JsValue) : itemLeaves items = items.flatMap leaves := by
  induction items with
  | nil => rfl
  | cons item items ih => rw [itemLeaves, ih, List.flatMap_cons]

theorem fieldLeaves_eq_flatMap (fields : List (String × JsValue)) :
    fieldLeaves fields = fields.flatMap fun field => field.2.leaves := by
  induction fields with
  | nil => rfl
  | cons field fields ih => rw [fieldLeaves, ih, List.flatMap_cons]

theorem itemsDistinct_iff {items : List JsValue} :
    ItemsDistinct items ↔ ∀ item ∈ items, item.NamesDistinct := by
  induction items with
  | nil => simp [ItemsDistinct]
  | cons item items ih => simp [ItemsDistinct, ih]

theorem fieldsDistinct_iff {fields : List (String × JsValue)} :
    FieldsDistinct fields ↔ ∀ field ∈ fields, field.2.NamesDistinct := by
  induction fields with
  | nil => simp [FieldsDistinct]
  | cons field fields ih => simp [FieldsDistinct, ih]

theorem canonicalItems_eq_map (items : List JsValue) :
    canonicalItems items = items.map canonicalValue := by
  induction items with
  | nil => rfl
  | cons item items ih => rw [canonicalItems, ih, List.map_cons]

theorem canonicalFields_eq_map (fields : List (String × JsValue)) :
    canonicalFields fields = fields.map fun field => (field.1, field.2.canonicalValue) := by
  induction fields with
  | nil => rfl
  | cons field fields ih => rw [canonicalFields, ih, List.map_cons]

@[simp] theorem isUndefined_canonicalValue (value : JsValue) :
    value.canonicalValue.isUndefined = value.isUndefined := by
  cases value <;> simp only [canonicalValue, isUndefined]

/-! ### What reordering keeps -/

namespace Reordered

theorem symm {value other : JsValue} (reordered : Reordered value other) :
    Reordered other value := by
  induction reordered with
  | refl value => exact .refl value
  | trans _ _ first second => exact second.trans first
  | item before after _ ih => exact ih.item before after
  | value name before after _ ih => exact ih.value name before after
  | members permuted => exact .members permuted.symm

/-- Reordering moves the leaves of a value, and keeps them. -/
theorem leaves_perm {value other : JsValue} (reordered : Reordered value other) :
    value.leaves.Perm other.leaves := by
  induction reordered with
  | refl value => exact .refl _
  | trans _ _ first second => exact first.trans second
  | item before after _ ih =>
      simp only [leaves, itemLeaves_eq_flatMap, List.flatMap_append, List.flatMap_cons]
      exact (ih.append_right _).append_left _
  | value name before after _ ih =>
      simp only [leaves, fieldLeaves_eq_flatMap, List.flatMap_append, List.flatMap_cons]
      exact (ih.append_right _).append_left _
  | members permuted =>
      simp only [leaves, fieldLeaves_eq_flatMap]
      exact permuted.flatMap_right _

theorem namesDistinct {value other : JsValue} (reordered : Reordered value other) :
    value.NamesDistinct → other.NamesDistinct := by
  induction reordered with
  | refl value => exact id
  | trans _ _ first second => exact second ∘ first
  | item before after _ ih =>
      simp only [NamesDistinct, itemsDistinct_iff, List.forall_mem_append, List.forall_mem_cons]
      rintro ⟨front, here, behind⟩
      exact ⟨front, ih here, behind⟩
  | value name before after _ ih =>
      simp only [NamesDistinct, fieldsDistinct_iff, List.forall_mem_append, List.forall_mem_cons,
        Keyed, List.map_append, List.map_cons]
      rintro ⟨keyed, front, here, behind⟩
      exact ⟨keyed, front, ih here, behind⟩
  | members permuted =>
      simp only [NamesDistinct, fieldsDistinct_iff]
      rintro ⟨keyed, all⟩
      exact ⟨Keyed.perm keyed permuted, fun field member =>
        all field (permuted.mem_iff.mpr member)⟩

/-- The members of reordered objects are reordered. -/
theorem member {value other : JsValue} (name : String) (reordered : Reordered value other) :
    value.NamesDistinct → Reordered (value.member name) (other.member name) := by
  induction reordered with
  | refl value => exact fun _ => .refl _
  | trans one _ first second =>
      exact fun distinct => (first distinct).trans (second (one.namesDistinct distinct))
  | item before after _ _ => exact fun _ => .refl _
  | value label before after inner _ =>
      intro _
      simp only [JsValue.member, List.find?_append, List.find?_cons]
      cases before.find? fun field => field.1 = name with
      | some field => exact .refl _
      | none =>
          by_cases here : label = name
          · simpa [here] using inner
          · simpa [here] using Reordered.refl _
  | members permuted =>
      intro distinct
      simp only [JsValue.member]
      rw [Keyed.find?_perm distinct.1 permuted name]
      exact .refl _

/-- A text stays where it is found. -/
theorem eq_of_str {text : String} {value other : JsValue} (reordered : Reordered value other)
    (isText : value = .str text) : other = .str text := by
  induction reordered with
  | refl value => exact isText
  | trans _ _ first second => exact second (first isText)
  | item before after _ _ => cases isText
  | value name before after _ _ => cases isText
  | members permuted => cases isText

/-- An object stays an object. -/
theorem eq_obj {value other : JsValue} (reordered : Reordered value other)
    (isObject : ∃ fields, value = .obj fields) : ∃ fields, other = .obj fields := by
  induction reordered with
  | refl value => exact isObject
  | trans _ _ first second => exact second (first isObject)
  | item before after _ _ =>
      obtain ⟨_, isArray⟩ := isObject
      cases isArray
  | value name before after _ _ => exact ⟨_, rfl⟩
  | members permuted => exact ⟨_, rfl⟩

/-- Items may be reordered one by one. -/
theorem items {items others : List JsValue} (each : List.Forall₂ Reordered items others) :
    ∀ before, Reordered (.arr (before ++ items)) (.arr (before ++ others)) := by
  induction each with
  | nil => exact fun before => .refl _
  | @cons item other items others first _ ih =>
      intro before
      have later := ih (before ++ [other])
      rw [List.append_assoc, List.append_assoc] at later
      exact (first.item before items).trans later

/-- Members may be reordered one by one. -/
theorem fields {fields others : List (String × JsValue)}
    (each : List.Forall₂ (fun field other => field.1 = other.1 ∧ Reordered field.2 other.2)
      fields others) :
    ∀ before, Reordered (.obj (before ++ fields)) (.obj (before ++ others)) := by
  induction each with
  | nil => exact fun before => .refl _
  | @cons field other fields others first _ ih =>
      intro before
      obtain ⟨name, value⟩ := field
      obtain ⟨otherName, other⟩ := other
      obtain ⟨rfl, inner⟩ := first
      have later := ih (before ++ [(name, other)])
      rw [List.append_assoc, List.append_assoc] at later
      exact (inner.value name before fields).trans later

end Reordered

/-! ### Canonical forms -/

theorem canonicalFields_keyed {fields : List (String × JsValue)}
    (distinct : Keyed Prod.fst fields) : Keyed Prod.fst (canonicalFields fields) := by
  unfold Keyed
  rw [canonicalFields_eq_map, List.map_map]
  exact distinct

/-- The canonical form, without its undefined members, of an object. -/
theorem canonicalValue_obj {fields : List (String × JsValue)}
    (distinct : Keyed Prod.fst fields) :
    canonicalValue (.obj fields) = .obj (Json.enumerated
      (((canonicalFields fields).filter isDefined).insertionSort Json.nameLe)) := by
  have keyed := canonicalFields_keyed distinct
  rw [canonicalValue]
  congr 2
  refine List.Perm.eq_of_pairwise (fun one other oneMem otherMem before after => ?_)
    ((List.pairwise_insertionSort Json.nameLe _).sublist List.filter_sublist)
    (List.pairwise_insertionSort Json.nameLe _)
    (((List.perm_insertionSort _ _).filter _).trans (List.perm_insertionSort _ _).symm)
  have inList := (List.mem_insertionSort _).mp (List.mem_filter.mp oneMem).1
  have alsoInList := (List.mem_filter.mp ((List.mem_insertionSort _).mp otherMem)).1
  exact keyed.eq_of_key_eq inList alsoInList (Json.utf16_injective (le_antisymm before after))

/-- The canonical form of an object depends on which members are not undefined, and not on
their order. -/
theorem canonicalValue_obj_congr {fields others : List (String × JsValue)}
    (distinct : Keyed Prod.fst fields) (distinct' : Keyed Prod.fst others)
    (permuted : ((canonicalFields fields).filter isDefined).Perm
      ((canonicalFields others).filter isDefined)) :
    canonicalValue (.obj fields) = canonicalValue (.obj others) := by
  rw [canonicalValue_obj distinct, canonicalValue_obj distinct',
    Json.insertionSort_eq_of_perm ((canonicalFields_keyed distinct).filter _) permuted]

/-- The canonical form does not see a reordering. -/
theorem Reordered.canonicalValue_eq {value other : JsValue} (reordered : Reordered value other) :
    value.NamesDistinct → value.canonicalValue = other.canonicalValue := by
  induction reordered with
  | refl value => exact fun _ => rfl
  | trans one _ first second =>
      exact fun distinct => (first distinct).trans (second (one.namesDistinct distinct))
  | item before after _ ih =>
      intro distinct
      simp only [NamesDistinct, itemsDistinct_iff, List.forall_mem_append,
        List.forall_mem_cons] at distinct
      simp only [canonicalValue, canonicalItems_eq_map, List.map_append, List.map_cons,
        ih distinct.2.1]
  | value name before after _ ih =>
      intro distinct
      simp only [NamesDistinct, fieldsDistinct_iff, List.forall_mem_append,
        List.forall_mem_cons] at distinct
      simp only [canonicalValue, canonicalFields_eq_map, List.map_append, List.map_cons,
        ih distinct.2.2.1]
  | members permuted =>
      intro distinct
      refine canonicalValue_obj_congr distinct.1 (Keyed.perm distinct.1 permuted) ?_
      rw [canonicalFields_eq_map, canonicalFields_eq_map]
      exact (permuted.map _).filter _

/-- Sorting and enumerating look at names only. -/
theorem enumerated_map {α β : Type} (change : α → β) (fields : List (String × α)) :
    Json.enumerated (fields.map fun field => (field.1, change field.2)) =
      (Json.enumerated fields).map fun field => (field.1, change field.2) := by
  unfold Json.enumerated
  rw [List.map_append, List.filter_map, List.filter_map]
  congr 1
  exact (List.map_insertionSort Json.indexLe Json.indexLe
    (fun field : String × α => (field.1, change field.2)) _ fun _ _ _ _ => Iff.rfl).symm

theorem insertionSort_map {α β : Type} (change : α → β) (fields : List (String × α)) :
    (fields.map fun field => (field.1, change field.2)).insertionSort Json.nameLe =
      (fields.insertionSort Json.nameLe).map fun field => (field.1, change field.2) :=
  (List.map_insertionSort Json.nameLe Json.nameLe
    (fun field : String × α => (field.1, change field.2)) fields fun _ _ _ _ => Iff.rfl).symm

mutual

/-- The canonical form of the signature and the canonical form of the control authority agree
on what is written. -/
theorem toJson_canonicalValue : ∀ value : JsValue, value.NamesDistinct →
    value.canonicalValue.toJson = value.toJson.canonicalize
  | .undefined, _ => rfl
  | .null, _ => rfl
  | .nonFinite _, _ => rfl
  | .bool _, _ => rfl
  | .num _, _ => rfl
  | .dec _, _ => rfl
  | .str _, _ => rfl
  | .arr items, distinct => by
      rw [canonicalValue, toJson, toJson, Json.canonicalize,
        itemsToJson_canonicalItems items distinct]
  | .obj fields, distinct => by
      have inner := fieldsToJson_canonicalFields fields distinct.2
      rw [canonicalValue_obj distinct.1, toJson, toJson, Json.canonicalize, ← inner,
        fieldsToJson_eq_map, fieldsToJson_eq_map, insertionSort_map, enumerated_map]
      congr 2
      refine List.filter_eq_self.mpr fun field member => ?_
      have sorted := (Json.enumerated_perm _).mem_iff.mp member
      exact (List.mem_filter.mp ((List.mem_insertionSort _).mp sorted)).2

theorem itemsToJson_canonicalItems : ∀ items : List JsValue, ItemsDistinct items →
    itemsToJson (canonicalItems items) = Json.canonicalizeItems (itemsToJson items)
  | [], _ => rfl
  | item :: items, distinct => by
      rw [canonicalItems, itemsToJson, itemsToJson, Json.canonicalizeItems,
        toJson_canonicalValue item distinct.1, itemsToJson_canonicalItems items distinct.2]

theorem fieldsToJson_canonicalFields : ∀ fields : List (String × JsValue), FieldsDistinct fields →
    fieldsToJson (canonicalFields fields) = Json.canonicalizeFields (fieldsToJson fields)
  | [], _ => rfl
  | (name, value) :: fields, distinct => by
      have rest := fieldsToJson_canonicalFields fields distinct.2
      rw [canonicalFields, fieldsToJson, fieldsToJson, isUndefined_canonicalValue]
      split
      · exact rest
      · rw [toJson_canonicalValue value distinct.1, rest, Json.canonicalizeFields]

end

mutual

/-- A value without undefined members is its canonical form up to the order of members. -/
theorem reordered_canonicalValue : ∀ value : JsValue, value.NamesDistinct →
    .undefined ∉ value.leaves → Reordered value value.canonicalValue
  | .undefined, _, _ => .refl _
  | .null, _, _ => .refl _
  | .nonFinite _, _, _ => .refl _
  | .bool _, _, _ => .refl _
  | .num _, _, _ => .refl _
  | .dec _, _, _ => .refl _
  | .str _, _, _ => .refl _
  | .arr items, distinct, defined => by
      rw [canonicalValue]
      exact Reordered.items (forall₂_canonicalItems items distinct defined) []
  | .obj fields, distinct, defined => by
      rw [canonicalValue_obj distinct.1]
      refine (Reordered.fields (forall₂_canonicalFields fields distinct.2 defined) []).trans
        (.members ?_)
      have all : (canonicalFields fields).filter isDefined = canonicalFields fields := by
        refine List.filter_eq_self.mpr fun field member => ?_
        rw [canonicalFields_eq_map] at member
        obtain ⟨source, sourceMem, rfl⟩ := List.mem_map.mp member
        rw [leaves, fieldLeaves_eq_flatMap] at defined
        have present : source.2.isUndefined = false := by
          cases isIt : source.2 with
          | undefined =>
              refine absurd (List.mem_flatMap.mpr ⟨source, sourceMem, ?_⟩) defined
              simp only [isIt, leaves, List.mem_singleton]
          | _ => rfl
        simp [isDefined, present]
      rw [all]
      exact (List.perm_insertionSort _ _).symm.trans (Json.enumerated_perm _).symm

theorem forall₂_canonicalItems : ∀ items : List JsValue, ItemsDistinct items →
    .undefined ∉ itemLeaves items → List.Forall₂ Reordered items (canonicalItems items)
  | [], _, _ => .nil
  | item :: items, distinct, defined => by
      rw [itemLeaves, List.mem_append, not_or] at defined
      exact .cons (reordered_canonicalValue item distinct.1 defined.1)
        (forall₂_canonicalItems items distinct.2 defined.2)

theorem forall₂_canonicalFields : ∀ fields : List (String × JsValue), FieldsDistinct fields →
    .undefined ∉ fieldLeaves fields →
    List.Forall₂ (fun field other => field.1 = other.1 ∧ Reordered field.2 other.2) fields
      (canonicalFields fields)
  | [], _, _ => .nil
  | (name, value) :: fields, distinct, defined => by
      rw [fieldLeaves, List.mem_append, not_or] at defined
      exact .cons ⟨rfl, reordered_canonicalValue value distinct.1 defined.1⟩
        (forall₂_canonicalFields fields distinct.2 defined.2)

end

/-- Values without undefined members have one canonical form exactly when they are equal up to
the order of members. -/
theorem canonicalValue_eq_iff {value other : JsValue} (distinct : value.NamesDistinct)
    (distinct' : other.NamesDistinct) (defined : .undefined ∉ value.leaves)
    (defined' : .undefined ∉ other.leaves) :
    value.canonicalValue = other.canonicalValue ↔ Reordered value other := by
  constructor
  · intro same
    have ends := (reordered_canonicalValue other distinct' defined').symm
    rw [← same] at ends
    exact (reordered_canonicalValue value distinct defined).trans ends
  · exact fun reordered => reordered.canonicalValue_eq distinct

/-! ### What is written and read -/

theorem isUndefined_eq_false {value : JsValue} (defined : .undefined ∉ value.leaves) :
    value.isUndefined = false := by
  cases value with
  | undefined => simp only [leaves, List.mem_singleton, not_true_eq_false] at defined
  | _ => rfl

theorem fieldsToJs_eq_map (fields : List (String × Json)) :
    Json.fieldsToJs fields = fields.map fun field => (field.1, field.2.toJs) := by
  induction fields with
  | nil => rfl
  | cons field fields ih => rw [Json.fieldsToJs, ih, List.map_cons]

@[simp] theorem isUndefined_toJs (value : Json) : value.toJs.isUndefined = false := by
  cases value <;> rfl

mutual

/-- What was read is written as it was. -/
theorem toJson_toJs : ∀ value : Json, value.toJs.toJson = value
  | .null => rfl
  | .bool _ => rfl
  | .num _ => rfl
  | .dec _ => rfl
  | .str _ => rfl
  | .arr items => by rw [Json.toJs, toJson, itemsToJson_itemsToJs items]
  | .obj fields => by rw [Json.toJs, toJson, fieldsToJson_fieldsToJs fields]

theorem itemsToJson_itemsToJs : ∀ items : List Json, itemsToJson (Json.itemsToJs items) = items
  | [] => rfl
  | item :: items => by
      rw [Json.itemsToJs, itemsToJson, toJson_toJs item, itemsToJson_itemsToJs items]

theorem fieldsToJson_fieldsToJs : ∀ fields : List (String × Json),
    fieldsToJson (Json.fieldsToJs fields) = fields
  | [] => rfl
  | (name, value) :: fields => by
      rw [Json.fieldsToJs, fieldsToJson, isUndefined_toJs, if_neg Bool.false_ne_true,
        toJson_toJs value, fieldsToJson_fieldsToJs fields]

end

mutual

/-- The leaves of a value that was written and read. -/
theorem leaves_toJs_toJson : ∀ value : JsValue, .undefined ∉ value.leaves →
    value.toJson.toJs.leaves = value.leaves.map fun leaf => leaf.toJson.toJs
  | .undefined, _ => by simp only [toJson, Json.toJs, leaves, List.map_cons, List.map_nil]
  | .null, _ => by simp only [toJson, Json.toJs, leaves, List.map_cons, List.map_nil]
  | .nonFinite _, _ => by simp only [toJson, Json.toJs, leaves, List.map_cons, List.map_nil]
  | .bool _, _ => by simp only [toJson, Json.toJs, leaves, List.map_cons, List.map_nil]
  | .num _, _ => by simp only [toJson, Json.toJs, leaves, List.map_cons, List.map_nil]
  | .dec _, _ => by simp only [toJson, Json.toJs, leaves, List.map_cons, List.map_nil]
  | .str _, _ => by simp only [toJson, Json.toJs, leaves, List.map_cons, List.map_nil]
  | .arr items, defined => by
      rw [toJson, Json.toJs, leaves, leaves, itemLeaves_written items defined]
  | .obj fields, defined => by
      rw [toJson, Json.toJs, leaves, leaves, fieldLeaves_written fields defined]

theorem itemLeaves_written : ∀ items : List JsValue, .undefined ∉ itemLeaves items →
    itemLeaves (Json.itemsToJs (itemsToJson items)) =
      (itemLeaves items).map fun leaf => leaf.toJson.toJs
  | [], _ => rfl
  | item :: items, defined => by
      rw [itemLeaves, List.mem_append, not_or] at defined
      rw [itemsToJson, Json.itemsToJs, itemLeaves, itemLeaves, List.map_append,
        leaves_toJs_toJson item defined.1, itemLeaves_written items defined.2]

theorem fieldLeaves_written : ∀ fields : List (String × JsValue), .undefined ∉ fieldLeaves fields →
    fieldLeaves (Json.fieldsToJs (fieldsToJson fields)) =
      (fieldLeaves fields).map fun leaf => leaf.toJson.toJs
  | [], _ => rfl
  | (name, value) :: fields, defined => by
      rw [fieldLeaves, List.mem_append, not_or] at defined
      rw [fieldsToJson, isUndefined_eq_false defined.1, if_neg Bool.false_ne_true,
        Json.fieldsToJs, fieldLeaves, fieldLeaves, List.map_append,
        leaves_toJs_toJson value defined.1, fieldLeaves_written fields defined.2]

end

mutual

/-- A value whose leaves are read as they were written is read as it was. -/
theorem toJs_toJson : ∀ value : JsValue, (∀ leaf ∈ value.leaves, leaf.toJson.toJs = leaf) →
    value.toJson.toJs = value
  | .undefined, same => same _ (by simp only [leaves, List.mem_singleton])
  | .null, _ => rfl
  | .nonFinite _, same => same _ (by simp only [leaves, List.mem_singleton])
  | .bool _, _ => rfl
  | .num _, _ => rfl
  | .dec _, _ => rfl
  | .str _, _ => rfl
  | .arr items, same => by
      rw [leaves] at same
      rw [toJson, Json.toJs, itemsToJs_itemsToJson items same]
  | .obj fields, same => by
      rw [leaves] at same
      rw [toJson, Json.toJs, fieldsToJs_fieldsToJson fields same]

theorem itemsToJs_itemsToJson : ∀ items : List JsValue,
    (∀ leaf ∈ itemLeaves items, leaf.toJson.toJs = leaf) →
    Json.itemsToJs (itemsToJson items) = items
  | [], _ => rfl
  | item :: items, same => by
      rw [itemLeaves, List.forall_mem_append] at same
      rw [itemsToJson, Json.itemsToJs, toJs_toJson item same.1, itemsToJs_itemsToJson items same.2]

theorem fieldsToJs_fieldsToJson : ∀ fields : List (String × JsValue),
    (∀ leaf ∈ fieldLeaves fields, leaf.toJson.toJs = leaf) →
    Json.fieldsToJs (fieldsToJson fields) = fields
  | [], _ => rfl
  | (name, value) :: fields, same => by
      rw [fieldLeaves, List.forall_mem_append] at same
      have defined : value.isUndefined = false := by
        have read := toJs_toJson value same.1
        rw [← read]
        exact isUndefined_toJs _
      rw [fieldsToJson, defined, if_neg Bool.false_ne_true, Json.fieldsToJs,
        toJs_toJson value same.1, fieldsToJs_fieldsToJson fields same.2]

end

/-- The members of an object that was written and read. -/
theorem written_obj (fields : List (String × JsValue)) :
    (JsValue.obj fields).toJson.toJs =
      .obj ((fields.filter isDefined).map fun field => (field.1, field.2.toJson.toJs)) := by
  rw [toJson, Json.toJs, fieldsToJson_eq_map, fieldsToJs_eq_map, List.map_map]
  rfl

/-! ### Changes that the text does not show -/

theorem itemsForNulls_eq_map (other : JsValue) (items : List JsValue) :
    itemsForNulls other items = items.map (forNulls other) := by
  induction items with
  | nil => rfl
  | cons item items ih => rw [itemsForNulls, ih, List.map_cons]

theorem fieldsForNulls_eq_map (other : JsValue) (fields : List (String × JsValue)) :
    fieldsForNulls other fields =
      fields.map fun field => (field.1, other.forNulls field.2) := by
  induction fields with
  | nil => rfl
  | cons field fields ih => rw [fieldsForNulls, ih, List.map_cons]

section Nulls

variable {other : JsValue}

mutual

theorem leaves_forNulls (leaf : other.leaves = [other]) : ∀ value : JsValue,
    (other.forNulls value).leaves =
      value.leaves.map fun leaf => if leaf.readsAsNull then other else leaf
  | .undefined => by simp [forNulls, leaves, readsAsNull, leaf]
  | .null => by simp [forNulls, leaves, readsAsNull, leaf]
  | .nonFinite _ => by simp [forNulls, leaves, readsAsNull, leaf]
  | .bool _ => by simp [forNulls, leaves, readsAsNull]
  | .num _ => by simp [forNulls, leaves, readsAsNull]
  | .dec _ => by simp [forNulls, leaves, readsAsNull]
  | .str _ => by simp [forNulls, leaves, readsAsNull]
  | .arr items => by rw [forNulls, leaves, leaves, itemLeaves_forNulls leaf items]
  | .obj fields => by rw [forNulls, leaves, leaves, fieldLeaves_forNulls leaf fields]

theorem itemLeaves_forNulls (leaf : other.leaves = [other]) : ∀ items : List JsValue,
    itemLeaves (itemsForNulls other items) =
      (itemLeaves items).map fun leaf => if leaf.readsAsNull then other else leaf
  | [] => rfl
  | item :: items => by
      rw [itemsForNulls, itemLeaves, itemLeaves, List.map_append, leaves_forNulls leaf item,
        itemLeaves_forNulls leaf items]

theorem fieldLeaves_forNulls (leaf : other.leaves = [other]) :
    ∀ fields : List (String × JsValue), fieldLeaves (fieldsForNulls other fields) =
      (fieldLeaves fields).map fun leaf => if leaf.readsAsNull then other else leaf
  | [] => rfl
  | (name, value) :: fields => by
      rw [fieldsForNulls, fieldLeaves, fieldLeaves, List.map_append, leaves_forNulls leaf value,
        fieldLeaves_forNulls leaf fields]

end

mutual

/-- Values that are written as null may change places without a trace in the text. -/
theorem toJson_forNulls (written : other.toJson = .null) (present : other.isUndefined = false) :
    ∀ value : JsValue, .undefined ∉ value.leaves → (other.forNulls value).toJson = value.toJson
  | .undefined, defined => by simp only [leaves, List.mem_singleton, not_true_eq_false] at defined
  | .null, _ => by rw [forNulls, written, toJson]
  | .nonFinite _, _ => by rw [forNulls, written, toJson]
  | .bool _, _ => by simp only [forNulls]
  | .num _, _ => by simp only [forNulls]
  | .dec _, _ => by simp only [forNulls]
  | .str _, _ => by simp only [forNulls]
  | .arr items, defined => by
      rw [forNulls, toJson, toJson, itemsToJson_forNulls written present items defined]
  | .obj fields, defined => by
      rw [forNulls, toJson, toJson, fieldsToJson_forNulls written present fields defined]

theorem itemsToJson_forNulls (written : other.toJson = .null)
    (present : other.isUndefined = false) : ∀ items : List JsValue,
    .undefined ∉ itemLeaves items →
    itemsToJson (itemsForNulls other items) = itemsToJson items
  | [], _ => rfl
  | item :: items, defined => by
      rw [itemLeaves, List.mem_append, not_or] at defined
      rw [itemsForNulls, itemsToJson, itemsToJson,
        toJson_forNulls written present item defined.1,
        itemsToJson_forNulls written present items defined.2]

theorem fieldsToJson_forNulls (written : other.toJson = .null)
    (present : other.isUndefined = false) : ∀ fields : List (String × JsValue),
    .undefined ∉ fieldLeaves fields →
    fieldsToJson (fieldsForNulls other fields) = fieldsToJson fields
  | [], _ => rfl
  | (name, value) :: fields, defined => by
      rw [fieldLeaves, List.mem_append, not_or] at defined
      have kept : (other.forNulls value).isUndefined = false := by
        cases value <;> simp_all [forNulls, isUndefined, leaves]
      rw [fieldsForNulls, fieldsToJson, fieldsToJson, kept, isUndefined_eq_false defined.1,
        toJson_forNulls written present value defined.1,
        fieldsToJson_forNulls written present fields defined.2]

end

mutual

theorem namesDistinct_forNulls (leaf : other.NamesDistinct) : ∀ value : JsValue,
    value.NamesDistinct → (other.forNulls value).NamesDistinct
  | .undefined, _ => by simpa only [forNulls] using leaf
  | .null, _ => by simpa only [forNulls] using leaf
  | .nonFinite _, _ => by simpa only [forNulls] using leaf
  | .bool _, _ => by simp only [forNulls, NamesDistinct]
  | .num _, _ => by simp only [forNulls, NamesDistinct]
  | .dec _, _ => by simp only [forNulls, NamesDistinct]
  | .str _, _ => by simp only [forNulls, NamesDistinct]
  | .arr items, distinct => by
      rw [forNulls, NamesDistinct]
      exact itemsDistinct_forNulls leaf items distinct
  | .obj fields, distinct => by
      rw [forNulls, NamesDistinct]
      refine ⟨?_, fieldsDistinct_forNulls leaf fields distinct.2⟩
      unfold Keyed
      rw [fieldsForNulls_eq_map, List.map_map]
      exact distinct.1

theorem itemsDistinct_forNulls (leaf : other.NamesDistinct) : ∀ items : List JsValue,
    ItemsDistinct items → ItemsDistinct (other.itemsForNulls items)
  | [], _ => trivial
  | item :: items, distinct => by
      rw [itemsForNulls, ItemsDistinct]
      exact ⟨namesDistinct_forNulls leaf item distinct.1,
        itemsDistinct_forNulls leaf items distinct.2⟩

theorem fieldsDistinct_forNulls (leaf : other.NamesDistinct) :
    ∀ fields : List (String × JsValue), FieldsDistinct fields →
    FieldsDistinct (other.fieldsForNulls fields)
  | [], _ => trivial
  | (name, value) :: fields, distinct => by
      rw [fieldsForNulls, FieldsDistinct]
      exact ⟨namesDistinct_forNulls leaf value distinct.1,
        fieldsDistinct_forNulls leaf fields distinct.2⟩

end

end Nulls

/-- Infinity and null, whichever of them a reader can tell from what the value holds. -/
def standIn (value : JsValue) : JsValue :=
  if value.leaves.any fun leaf => leaf matches .null then .nonFinite .infinity else .null

/-- A value that holds a null or a number beyond the range has a twin of the same text. -/
theorem not_reordered_forNulls {value : JsValue} (defined : .undefined ∉ value.leaves)
    {leaf : JsValue} (inside : leaf ∈ value.leaves) (null : leaf.readsAsNull = true) :
    ¬Reordered value (value.standIn.forNulls value) := by
  intro reordered
  have moved := reordered.leaves_perm
  unfold standIn at moved
  split at moved
  · rename_i holds
    obtain ⟨found, foundMem, isNull⟩ := List.any_eq_true.mp holds
    have nullMem : JsValue.null ∈ value.leaves := by
      cases found <;> simp_all
    rw [leaves_forNulls (by simp only [leaves])] at moved
    obtain ⟨source, -, turned⟩ := List.mem_map.mp (moved.mem_iff.mp nullMem)
    split at turned
    · cases turned
    · rename_i written
      rw [turned] at written
      exact written rfl
  · rename_i without
    rw [leaves_forNulls (by simp only [leaves])] at moved
    have nullMem : JsValue.null ∈ value.leaves :=
      moved.mem_iff.mpr (List.mem_map.mpr ⟨leaf, inside, by rw [if_pos null]⟩)
    exact without (List.any_eq_true.mpr ⟨.null, nullMem, rfl⟩)

mutual

/-- The names are distinct in what was written and read. -/
theorem namesDistinct_written : ∀ value : JsValue, value.NamesDistinct →
    value.toJson.toJs.NamesDistinct
  | .undefined, _ => trivial
  | .null, _ => trivial
  | .nonFinite _, _ => trivial
  | .bool _, _ => trivial
  | .num _, _ => trivial
  | .dec _, _ => trivial
  | .str _, _ => trivial
  | .arr items, distinct => by
      rw [toJson, Json.toJs, NamesDistinct]
      exact itemsDistinct_written items distinct
  | .obj fields, distinct => by
      rw [toJson, Json.toJs, NamesDistinct]
      refine ⟨?_, fieldsDistinct_written fields distinct.2⟩
      have names : ∀ fields : List (String × Json),
          (Json.fieldsToJs fields).map Prod.fst = fields.map Prod.fst := by
        intro fields
        induction fields with
        | nil => rfl
        | cons field fields ih => rw [Json.fieldsToJs, List.map_cons, ih, List.map_cons]
      unfold Keyed
      rw [names, fieldsToJson_eq_map, List.map_map]
      exact distinct.1.filter _

theorem itemsDistinct_written : ∀ items : List JsValue, ItemsDistinct items →
    ItemsDistinct (Json.itemsToJs (itemsToJson items))
  | [], _ => trivial
  | item :: items, distinct => by
      rw [itemsToJson, Json.itemsToJs, ItemsDistinct]
      exact ⟨namesDistinct_written item distinct.1, itemsDistinct_written items distinct.2⟩

theorem fieldsDistinct_written : ∀ fields : List (String × JsValue), FieldsDistinct fields →
    FieldsDistinct (Json.fieldsToJs (fieldsToJson fields))
  | [], _ => trivial
  | (name, value) :: fields, distinct => by
      have rest := fieldsDistinct_written fields distinct.2
      rw [fieldsToJson]
      split
      · exact rest
      · rw [Json.fieldsToJs, FieldsDistinct]
        exact ⟨namesDistinct_written value distinct.1, rest⟩

end

/-! ### Parts of objects -/

/-- The members of an object whose names are selected. -/
def select (chosen : String → Bool) : JsValue → JsValue
  | .obj fields => .obj (fields.filter fun field => chosen field.1)
  | value => value

/-- An object with one more member. -/
def withFirst (field : String × JsValue) : JsValue → JsValue
  | .obj fields => .obj (field :: fields)
  | value => value

theorem Reordered.select {value other : JsValue} (chosen : String → Bool)
    (reordered : Reordered value other) :
    Reordered (value.select chosen) (other.select chosen) := by
  induction reordered with
  | refl value => exact .refl _
  | trans _ _ first second => exact first.trans second
  | item before after inner _ => exact inner.item before after
  | value name before after inner _ =>
      simp only [JsValue.select, List.filter_append, List.filter_cons]
      split
      · exact inner.value name _ _
      · exact .refl _
  | members permuted => exact .members (permuted.filter _)

theorem Reordered.withFirst {value other : JsValue} (field : String × JsValue)
    (reordered : Reordered value other) :
    Reordered (value.withFirst field) (other.withFirst field) := by
  induction reordered with
  | refl value => exact .refl _
  | trans _ _ first second => exact first.trans second
  | item before after inner _ => exact inner.item before after
  | value name before after inner _ => exact inner.value name (field :: before) after
  | members permuted => exact .members (permuted.cons field)

theorem leaves_select_subset (chosen : String → Bool) (value : JsValue) :
    (value.select chosen).leaves ⊆ value.leaves := by
  cases value with
  | obj fields =>
      simp only [select, leaves, fieldLeaves_eq_flatMap]
      intro leaf member
      obtain ⟨field, kept, inside⟩ := List.mem_flatMap.mp member
      exact List.mem_flatMap.mpr ⟨field, (List.mem_filter.mp kept).1, inside⟩
  | _ => exact fun _ => id

theorem NamesDistinct.select {value : JsValue} (distinct : value.NamesDistinct)
    (chosen : String → Bool) : (value.select chosen).NamesDistinct := by
  cases value with
  | obj fields =>
      refine ⟨distinct.1.filter _, fieldsDistinct_iff.mpr fun field member => ?_⟩
      exact fieldsDistinct_iff.mp distinct.2 field (List.mem_filter.mp member).1
  | _ => exact distinct

theorem forNulls_select (other : JsValue) (chosen : String → Bool)
    (fields : List (String × JsValue)) :
    other.forNulls ((JsValue.obj fields).select chosen) =
      (other.forNulls (.obj fields)).select chosen := by
  simp only [select, forNulls, fieldsForNulls_eq_map, List.filter_map]
  rfl

/-! ### Values that their texts determine -/

mutual

/-- No leaf is an array or an object. -/
theorem leaf_of_mem_leaves : ∀ (value : JsValue) {leaf : JsValue}, leaf ∈ value.leaves →
    leaf.readsAsNull = true ∨ leaf.toJson.toJs = leaf
  | .undefined, _, inside => by
      simp only [leaves, List.mem_singleton] at inside
      exact .inl (inside ▸ rfl)
  | .null, _, inside => by
      simp only [leaves, List.mem_singleton] at inside
      exact .inl (inside ▸ rfl)
  | .nonFinite _, _, inside => by
      simp only [leaves, List.mem_singleton] at inside
      exact .inl (inside ▸ rfl)
  | .bool _, _, inside => by
      simp only [leaves, List.mem_singleton] at inside
      exact .inr (inside ▸ rfl)
  | .num _, _, inside => by
      simp only [leaves, List.mem_singleton] at inside
      exact .inr (inside ▸ rfl)
  | .dec _, _, inside => by
      simp only [leaves, List.mem_singleton] at inside
      exact .inr (inside ▸ rfl)
  | .str _, _, inside => by
      simp only [leaves, List.mem_singleton] at inside
      exact .inr (inside ▸ rfl)
  | .arr items, _, inside => leaf_of_mem_itemLeaves items inside
  | .obj fields, _, inside => leaf_of_mem_fieldLeaves fields inside

theorem leaf_of_mem_itemLeaves : ∀ (items : List JsValue) {leaf : JsValue},
    leaf ∈ itemLeaves items → leaf.readsAsNull = true ∨ leaf.toJson.toJs = leaf
  | [], _, inside => absurd inside List.not_mem_nil
  | item :: items, _, inside => by
      rw [itemLeaves, List.mem_append] at inside
      exact inside.elim (leaf_of_mem_leaves item) (leaf_of_mem_itemLeaves items)

theorem leaf_of_mem_fieldLeaves : ∀ (fields : List (String × JsValue)) {leaf : JsValue},
    leaf ∈ fieldLeaves fields → leaf.readsAsNull = true ∨ leaf.toJson.toJs = leaf
  | [], _, inside => absurd inside List.not_mem_nil
  | (_, value) :: fields, _, inside => by
      rw [fieldLeaves, List.mem_append] at inside
      exact inside.elim (leaf_of_mem_leaves value) (leaf_of_mem_fieldLeaves fields)

end

/-- A solid value is read as it was written. -/
theorem IsSolid.written {value : JsValue} (solid : value.IsSolid) :
    value.toJson.toJs = value := by
  refine toJs_toJson value fun leaf inside => ?_
  refine (leaf_of_mem_leaves value inside).resolve_left ?_
  rw [solid leaf inside]
  exact Bool.false_ne_true

/-- A value that is written like a solid one, up to the order of members, is solid. -/
theorem IsSolid.of_reordered {value other : JsValue} (solid : value.IsSolid)
    (defined : .undefined ∉ other.leaves) (reordered : Reordered value other.toJson.toJs) :
    other.IsSolid := by
  intro leaf inside
  rw [← Bool.not_eq_true]
  intro null
  have found : leaf.toJson.toJs ∈ other.toJson.toJs.leaves := by
    rw [leaves_toJs_toJson other defined]
    exact List.mem_map_of_mem inside
  have isNull : leaf.toJson.toJs = .null := by
    cases leaf <;> first | rfl | cases null
  have seen := solid _ (reordered.leaves_perm.mem_iff.mpr found)
  rw [isNull] at seen
  cases seen

/-- A solid value is the only one with its text. -/
theorem eq_of_toJson_eq {value other : JsValue} (solid : value.IsSolid)
    (defined : .undefined ∉ other.leaves) (same : value.toJson = other.toJson) :
    value = other := by
  have read := solid.written
  have reordered : Reordered value other.toJson.toJs := by
    rw [← same, read]
    exact .refl _
  rw [← read, same, (solid.of_reordered defined reordered).written]

/-! ### Parsed and solid values -/

theorem isSolid_arr {items : List JsValue} :
    (JsValue.arr items).IsSolid ↔ ∀ item ∈ items, item.IsSolid := by
  simp only [IsSolid, leaves, itemLeaves_eq_flatMap, List.mem_flatMap]
  exact ⟨fun solid item member leaf inside => solid leaf ⟨item, member, inside⟩,
    fun solid leaf ⟨item, member, inside⟩ => solid item member leaf inside⟩

theorem isSolid_obj {fields : List (String × JsValue)} :
    (JsValue.obj fields).IsSolid ↔ ∀ field ∈ fields, field.2.IsSolid := by
  simp only [IsSolid, leaves, fieldLeaves_eq_flatMap, List.mem_flatMap]
  exact ⟨fun solid field member leaf inside => solid leaf ⟨field, member, inside⟩,
    fun solid leaf ⟨field, member, inside⟩ => solid field member leaf inside⟩

theorem isSolid_str (text : String) : (JsValue.str text).IsSolid := by
  simp [IsSolid, leaves, readsAsNull]

theorem isParsed_str (text : String) : (JsValue.str text).IsParsed := by
  constructor <;> simp [leaves, NamesDistinct]

theorem isParsed_arr {items : List JsValue} (parsed : ∀ item ∈ items, item.IsParsed) :
    (JsValue.arr items).IsParsed where
  distinct := itemsDistinct_iff.mpr fun item member => (parsed item member).distinct
  defined inside := by
    rw [leaves, itemLeaves_eq_flatMap] at inside
    obtain ⟨item, member, found⟩ := List.mem_flatMap.mp inside
    exact (parsed item member).defined found
  numeric inside := by
    rw [leaves, itemLeaves_eq_flatMap] at inside
    obtain ⟨item, member, found⟩ := List.mem_flatMap.mp inside
    exact (parsed item member).numeric found

theorem isParsed_obj {fields : List (String × JsValue)} (keyed : Keyed Prod.fst fields)
    (parsed : ∀ field ∈ fields, field.2.IsParsed) : (JsValue.obj fields).IsParsed where
  distinct := ⟨keyed, fieldsDistinct_iff.mpr fun field member => (parsed field member).distinct⟩
  defined inside := by
    rw [leaves, fieldLeaves_eq_flatMap] at inside
    obtain ⟨field, member, found⟩ := List.mem_flatMap.mp inside
    exact (parsed field member).defined found
  numeric inside := by
    rw [leaves, fieldLeaves_eq_flatMap] at inside
    obtain ⟨field, member, found⟩ := List.mem_flatMap.mp inside
    exact (parsed field member).numeric found

theorem IsParsed.item {items : List JsValue} (parsed : (JsValue.arr items).IsParsed)
    {item : JsValue} (member : item ∈ items) : item.IsParsed where
  distinct := itemsDistinct_iff.mp parsed.distinct item member
  defined inside := parsed.defined (by
    rw [leaves, itemLeaves_eq_flatMap]
    exact List.mem_flatMap.mpr ⟨item, member, inside⟩)
  numeric inside := parsed.numeric (by
    rw [leaves, itemLeaves_eq_flatMap]
    exact List.mem_flatMap.mpr ⟨item, member, inside⟩)

/-- A member of a parsed value is parsed, if it is there. -/
theorem IsParsed.member {value : JsValue} (parsed : value.IsParsed) (name : String) :
    value.member name = .undefined ∨ (value.member name).IsParsed := by
  cases value with
  | obj fields =>
      rw [JsValue.member]
      cases found : fields.find? fun field => field.1 = name with
      | none => exact .inl rfl
      | some field =>
          have stored := List.mem_of_find?_eq_some found
          refine .inr ⟨fieldsDistinct_iff.mp parsed.distinct.2 field stored, ?_, ?_⟩
          · intro inside
            refine parsed.defined ?_
            rw [leaves, fieldLeaves_eq_flatMap]
            exact List.mem_flatMap.mpr ⟨field, stored, inside⟩
          · intro inside
            refine parsed.numeric ?_
            rw [leaves, fieldLeaves_eq_flatMap]
            exact List.mem_flatMap.mpr ⟨field, stored, inside⟩
  | _ => exact .inl rfl

/-- What was written and read is parsed. -/
theorem IsParsed.written {value : JsValue} (parsed : value.IsParsed) :
    value.toJson.toJs.IsParsed := by
  have absent : ∀ leaf : JsValue, leaf = .undefined ∨ leaf = .nonFinite .nan →
      leaf ∉ value.toJson.toJs.leaves := by
    intro leaf odd inside
    rw [leaves_toJs_toJson value parsed.defined] at inside
    obtain ⟨source, -, turned⟩ := List.mem_map.mp inside
    rcases odd with rfl | rfl <;> cases source <;> cases turned
  exact ⟨namesDistinct_written value parsed.distinct, absent _ (.inl rfl), absent _ (.inr rfl)⟩

/-- What can stand for the nulls of a value. -/
structure StandsIn (other : JsValue) : Prop where
  leaf : other.leaves = [other]
  written : other.toJson = .null
  distinct : other.NamesDistinct
  present : other ≠ .undefined
  numeric : other ≠ .nonFinite .nan

theorem standIn_standsIn (value : JsValue) : value.standIn.StandsIn := by
  have shape : value.standIn = .null ∨ value.standIn = .nonFinite .infinity := by
    rw [standIn]
    split
    · exact .inr rfl
    · exact .inl rfl
  rcases shape with same | same <;> rw [same] <;>
    exact ⟨by simp only [leaves], rfl, trivial, by simp, by simp⟩

/-- A value with something else for its nulls is parsed and written like the value. -/
theorem IsParsed.forNulls {value other : JsValue} (parsed : value.IsParsed)
    (stands : other.StandsIn) :
    (other.forNulls value).IsParsed ∧ (other.forNulls value).toJson = value.toJson := by
  have absent : ∀ leaf, leaf ∉ value.leaves → other ≠ leaf →
      leaf ∉ (other.forNulls value).leaves := by
    intro leaf missing apart inside
    rw [leaves_forNulls stands.leaf] at inside
    obtain ⟨source, sourceMem, turned⟩ := List.mem_map.mp inside
    split at turned
    · exact apart turned
    · exact missing (turned ▸ sourceMem)
  have present : other.isUndefined = false := by
    cases other <;> first | rfl | exact absurd rfl stands.present
  exact ⟨⟨namesDistinct_forNulls stands.distinct value parsed.distinct,
    absent _ parsed.defined stands.present, absent _ parsed.numeric stands.numeric⟩,
    toJson_forNulls stands.written present value parsed.defined⟩

end JsValue

end BairuiPlatform
