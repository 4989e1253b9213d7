/-
Module: BairuiPlatform.Accounts.License
Purpose: The licenses of packages/license/license.mjs and the route that issues them: which of
  them are valid exactly while they are authentic and unexpired.
Trusted boundary: Ed25519, Date.parse, String of values and Buffer.from of other values than
  texts are parameters
Main exports: licenseCanonical, issueLicense, verifyLicense, licenseRoute, LawfulLicense,
  license_lawful_iff
-/
import BairuiPlatform.Clock
import BairuiPlatform.Foundations.Base64
import BairuiPlatform.JsValue

namespace BairuiPlatform

open Foundations

/-! ### The canonical text -/

mutual

/-- `canonical` of `license.mjs`. -/
def licenseCanonical : JsValue → List Char
  | .undefined => chars "undefined"
  | .arr items => '[' :: [','].intercalate (itemTexts items) ++ [']']
  | .obj fields =>
      '\x7b' :: [','].intercalate (((memberTexts fields).insertionSort Json.nameLe).map
        fun member => Json.quote member.1 ++ ':' :: member.2) ++ ['\x7d']
  | value => value.stringify

/-- The texts that `join` puts together: an undefined item has none. -/
def itemTexts : List JsValue → List (List Char)
  | [] => []
  | item :: items => (if item.isUndefined then [] else licenseCanonical item) :: itemTexts items

/-- The names of the members of an object with their texts. -/
def memberTexts : List (String × JsValue) → List (String × List Char)
  | [] => []
  | (name, value) :: fields => (name, licenseCanonical value) :: memberTexts fields

end

/-! ### Issuing -/

/-- The bytes of an Ed25519 signature. -/
abbrev LicenseSignature := { bytes : List UInt8 // bytes.length = 64 }

/-- What the runtime supplies: Ed25519, `Buffer.from(value, "base64url")` of a value that is no
text, `String(value)` and `Date.parse(value)`, where these return. -/
class LicenseHost where
  PrivateKey : Type
  PublicKey : Type
  sign : PrivateKey → List Char → LicenseSignature
  verify : PublicKey → List Char → List UInt8 → Bool
  bytesOf : JsValue → Option (List UInt8)
  text : JsValue → Option String
  dateParse : JsValue → Option Int

/-- The argument of `issueLicense`. -/
structure LicenseInput where
  licenseId : JsValue
  organizationId : JsValue
  plan : JsValue
  features : JsValue
  limits : JsValue
  issuedAt : JsValue
  expiresAt : JsValue

/-- `value ?? other`. -/
def JsValue.orElse (value other : JsValue) : JsValue :=
  match value with
  | .undefined | .null => other
  | value => value

/-- `!value` is false. -/
def JsValue.isTruthy : JsValue → Bool
  | .undefined | .null | .nonFinite .nan => false
  | .bool value => value
  | .num value => value ≠ 0
  | .str text => text ≠ ""
  | _ => true

/-- The values are one member of a `Set`. Arrays and objects that were read are all different. -/
def sameValueZero : JsValue → JsValue → Bool
  | .undefined, .undefined => true
  | .null, .null => true
  | .bool value, .bool other => value = other
  | .num value, .num other => value = other
  | .dec value, .dec other => value = other
  | .nonFinite value, .nonFinite other => value = other
  | .str text, .str other => text = other
  | _, _ => false

/-- `[...new Set(items)]`. -/
def distinctValues : List JsValue → List JsValue
  | [] => []
  | item :: items =>
      item :: (distinctValues items).filter fun other => !sameValueZero item other

/-- The order of `sort()`: by the code units of `String(value)`. -/
def featureLe [LicenseHost] (first second : JsValue) : Prop :=
  utf16 ((LicenseHost.text first).getD "") ≤ utf16 ((LicenseHost.text second).getD "")

instance [LicenseHost] : DecidableRel featureLe := fun first second =>
  inferInstanceAs (Decidable
    (utf16 ((LicenseHost.text first).getD "") ≤ utf16 ((LicenseHost.text second).getD "")))

/-- The members of `new Set(features ?? [])`: the items of an array, the characters of a text. -/
def featureItems (features : JsValue) : Except String (List JsValue) :=
  match features with
  | .undefined | .null => .ok []
  | .arr items => .ok (distinctValues items)
  | .str text => .ok (distinctValues ((chars text).map fun c => .str (String.singleton c)))
  | _ => .error "features is not iterable"

/-- `[...new Set(features ?? [])].sort()`. -/
def sortedFeatures [LicenseHost] (features : JsValue) : Except String (List JsValue) :=
  (featureItems features).bind fun items =>
    if 2 ≤ items.length ∧ items.any fun item => (LicenseHost.text item).isNone then
      .error "Cannot convert object to primitive value"
    else .ok (items.insertionSort featureLe)

/-- The payload of a license. -/
def licensePayload (input : LicenseInput) (features : List JsValue) (uuid : String) (now : Nat) :
    JsValue :=
  .obj [("schemaVersion", .str "1.0"), ("licenseId", input.licenseId.orElse (.str uuid)),
    ("organizationId", input.organizationId), ("plan", input.plan), ("features", .arr features),
    ("limits", input.limits.orElse (.obj [])),
    ("issuedAt", input.issuedAt.orElse (.str (isoString (ofMillis now)))),
    ("expiresAt", input.expiresAt), ("issuer", .str "bairui")]

/-- A license over a payload. -/
def licenseDocument (payload : JsValue) (signature : List UInt8) : JsValue :=
  .obj [("payload", payload), ("signature", .str (String.ofList (Base64.encode signature))),
    ("algorithm", .str "Ed25519")]

/-- `issueLicense`, with the value of `randomUUID()` and the time in milliseconds. -/
def issueLicense [LicenseHost] (input : LicenseInput) (uuid : String) (now : Nat)
    (privateKey : Option LicenseHost.PrivateKey) : Except String JsValue :=
  match privateKey with
  | none => .error "License private key is required"
  | some key =>
      (sortedFeatures input.features).bind fun features =>
        let payload := licensePayload input features uuid now
        if input.organizationId.isTruthy && input.plan.isTruthy && input.expiresAt.isTruthy then
          .ok (licenseDocument payload (LicenseHost.sign key (licenseCanonical payload)).val)
        else .error "organizationId, plan, and expiresAt are required"

/-- What the license route passes on of a body. -/
def routeInput (body : JsValue) : LicenseInput :=
  { licenseId := .undefined, organizationId := body.member "organizationId"
    plan := body.member "plan", features := body.member "features"
    limits := body.member "limits", issuedAt := .undefined
    expiresAt := body.member "expiresAt" }

/-- What the license route answers. -/
inductive LicenseAnswer where
  | unavailable
  | organizationNotFound
  | failed (message : String)
  | created (document : JsValue)

/-- `POST /api/admin/licenses` over the memory repository, with the ids of the stored
organizations. -/
def licenseRoute [LicenseHost] (organizations : List String) (body : JsValue) (uuid : String)
    (now : Nat) (privateKey : Option LicenseHost.PrivateKey) : LicenseAnswer :=
  match privateKey, body with
  | none, _ => .unavailable
  | some _, .null => .failed "Cannot read properties of null"
  | some _, _ =>
      if organizations.any fun id => (body.member "organizationId").text? = some id then
        match issueLicense (routeInput body) uuid now privateKey with
        | .ok document => .created document
        | .error message => .failed message
      else .organizationNotFound

/-! ### Verifying -/

/-- What `verifyLicense` returns. -/
inductive LicenseVerdict where
  | invalid (reason : String)
  | valid (payload : JsValue)

/-- `Buffer.from(value, "base64url")`, where it returns. -/
def signatureBytes [LicenseHost] : JsValue → Option (List UInt8)
  | .str text => some (Base64.decode (chars text))
  | value => LicenseHost.bytesOf value

/-- `verifyLicense`, at a time in milliseconds; nothing where it throws. -/
def verifyLicense [LicenseHost] (document : JsValue) (publicKey : LicenseHost.PublicKey)
    (now : Int) : Option LicenseVerdict :=
  let payload := document.member "payload"
  let signature := document.member "signature"
  if payload.isTruthy && signature.isTruthy &&
      (document.member "algorithm").text? = some "Ed25519" then
    (signatureBytes signature).map fun bytes =>
      if LicenseHost.verify publicKey (licenseCanonical payload) bytes then
        if (LicenseHost.dateParse (payload.member "expiresAt")).any fun expiry => expiry ≤ now then
          .invalid "expired"
        else .valid payload
      else .invalid "invalid_signature"
  else some (.invalid "invalid_document")

/-! ### The canonical text determines what is written -/

namespace Json

mutual

/-- The names of every object are sorted. -/
def sortNames : Json → Json
  | .arr items => .arr (sortItemNames items)
  | .obj fields => .obj ((sortFieldNames fields).insertionSort nameLe)
  | value => value

/-- The items of an array. -/
def sortItemNames : List Json → List Json
  | [] => []
  | item :: items => sortNames item :: sortItemNames items

/-- The members of an object. -/
def sortFieldNames : List (String × Json) → List (String × Json)
  | [] => []
  | (name, value) :: fields => (name, sortNames value) :: sortFieldNames fields

end

end Json

mutual

/-- The canonical text is the text of the value with sorted names. -/
theorem licenseCanonical_eq : ∀ value : JsValue, .undefined ∉ value.leaves →
    licenseCanonical value = value.toJson.sortNames.stringifyChars
  | .undefined, defined => by
      simp only [JsValue.leaves, List.mem_singleton, not_true_eq_false] at defined
  | .null, _ => rfl
  | .nonFinite _, _ => rfl
  | .bool _, _ => rfl
  | .num _, _ => rfl
  | .dec _, _ => rfl
  | .str _, _ => rfl
  | .arr items, defined => by
      rw [licenseCanonical, JsValue.toJson, Json.sortNames, Json.stringifyChars,
        itemTexts_eq items defined]
  | .obj fields, defined => by
      rw [licenseCanonical, JsValue.toJson, Json.sortNames, Json.stringifyChars,
        memberTexts_eq fields defined, Json.stringifyFields_eq_map, JsValue.insertionSort_map,
        List.map_map]
      rfl

theorem itemTexts_eq : ∀ items : List JsValue, .undefined ∉ JsValue.itemLeaves items →
    itemTexts items = Json.stringifyItems (Json.sortItemNames (JsValue.itemsToJson items))
  | [], _ => rfl
  | item :: items, defined => by
      rw [JsValue.itemLeaves, List.mem_append, not_or] at defined
      rw [itemTexts, JsValue.isUndefined_eq_false defined.1, if_neg Bool.false_ne_true,
        licenseCanonical_eq item defined.1, itemTexts_eq items defined.2, JsValue.itemsToJson,
        Json.sortItemNames, Json.stringifyItems]

theorem memberTexts_eq : ∀ fields : List (String × JsValue),
    .undefined ∉ JsValue.fieldLeaves fields →
    memberTexts fields = (Json.sortFieldNames (JsValue.fieldsToJson fields)).map fun field =>
      (field.1, field.2.stringifyChars)
  | [], _ => rfl
  | (name, value) :: fields, defined => by
      rw [JsValue.fieldLeaves, List.mem_append, not_or] at defined
      rw [memberTexts, licenseCanonical_eq value defined.1, memberTexts_eq fields defined.2,
        JsValue.fieldsToJson, JsValue.isUndefined_eq_false defined.1, if_neg Bool.false_ne_true,
        Json.sortFieldNames, List.map_cons]

end

mutual

/-- Sorting the names of a value reorders it. -/
theorem reordered_sortNames : ∀ value : Json, JsValue.Reordered value.toJs value.sortNames.toJs
  | .null => .refl _
  | .bool _ => .refl _
  | .num _ => .refl _
  | .dec _ => .refl _
  | .str _ => .refl _
  | .arr items => JsValue.Reordered.items (forall₂_sortItemNames items) []
  | .obj fields => by
      rw [Json.sortNames, Json.toJs, Json.toJs]
      refine (JsValue.Reordered.fields (forall₂_sortFieldNames fields) []).trans (.members ?_)
      rw [List.nil_append, JsValue.fieldsToJs_eq_map, JsValue.fieldsToJs_eq_map]
      exact (List.perm_insertionSort _ _).symm.map _

theorem forall₂_sortItemNames : ∀ items : List Json,
    List.Forall₂ JsValue.Reordered (Json.itemsToJs items)
      (Json.itemsToJs (Json.sortItemNames items))
  | [] => .nil
  | item :: items => .cons (reordered_sortNames item) (forall₂_sortItemNames items)

theorem forall₂_sortFieldNames : ∀ fields : List (String × Json),
    List.Forall₂ (fun field other => field.1 = other.1 ∧ JsValue.Reordered field.2 other.2)
      (Json.fieldsToJs fields) (Json.fieldsToJs (Json.sortFieldNames fields))
  | [] => .nil
  | (_, value) :: fields => .cons ⟨rfl, reordered_sortNames value⟩ (forall₂_sortFieldNames fields)

end

/-- Two values with one canonical text are written alike, up to the order of members. -/
theorem reordered_of_licenseCanonical {value other : JsValue} (defined : .undefined ∉ value.leaves)
    (defined' : .undefined ∉ other.leaves) (same : licenseCanonical value = licenseCanonical other) :
    JsValue.Reordered value.toJson.toJs other.toJson.toJs := by
  rw [licenseCanonical_eq value defined, licenseCanonical_eq other defined'] at same
  have sorted := reordered_sortNames other.toJson
  rw [← Json.stringify_injective same] at sorted
  exact (reordered_sortNames value.toJson).trans sorted.symm

/-- Values that are written alike have one canonical text. -/
theorem licenseCanonical_congr {value other : JsValue} (defined : .undefined ∉ value.leaves)
    (defined' : .undefined ∉ other.leaves) (same : value.toJson = other.toJson) :
    licenseCanonical value = licenseCanonical other := by
  rw [licenseCanonical_eq value defined, licenseCanonical_eq other defined', same]

/-! ### Lawful licenses -/

/-- The values that a request supplies. -/
def LicenseInput.values (input : LicenseInput) : List JsValue :=
  [input.licenseId, input.organizationId, input.plan, input.features, input.limits,
    input.issuedAt, input.expiresAt]

/-- The values of an input were read from JSON or are missing. -/
def LicenseInput.IsReceived (input : LicenseInput) : Prop :=
  ∀ value ∈ input.values, value = .undefined ∨ value.IsParsed

/-- Nothing that goes into the payload holds a null or a number beyond the range of a double. -/
def LicenseInput.IsSolid (input : LicenseInput) : Prop :=
  (∀ value ∈ [input.organizationId, input.plan, input.expiresAt], value.IsSolid) ∧
    ∀ value ∈ [input.licenseId, input.features, input.limits, input.issuedAt],
      value = .undefined ∨ value = .null ∨ value.IsSolid

/-- What came of the license on the wire is valid exactly before its expiry, and what is
accepted has its payload, unless a signature of another text was accepted. -/
structure LawfulLicense [LicenseHost] (document : JsValue) (publicKey : LicenseHost.PublicKey) :
    Prop where
  expires : ∃ expiry : Int, ∀ now, verifyLicense document.toJson.toJs publicKey now =
    some (if now < expiry then .valid (document.toJson.toJs.member "payload")
      else .invalid "expired")
  bound : ∀ (other payload : JsValue) (now : Int), other.IsParsed →
    (∀ bytes, signatureBytes (other.member "signature") = some bytes →
      LicenseHost.verify publicKey (licenseCanonical (other.member "payload")) bytes = true →
      licenseCanonical (other.member "payload") =
        licenseCanonical (document.member "payload")) →
    verifyLicense other publicKey now = some (.valid payload) →
    JsValue.Reordered (document.toJson.toJs.member "payload") payload

section Input

variable {input : LicenseInput} {uuid : String} {now : Nat} {features : List JsValue}

theorem sameValueZero_eq {value other : JsValue} (same : sameValueZero value other = true) :
    value = other := by
  unfold sameValueZero at same
  split at same <;> simp_all

theorem mem_distinctValues {items : List JsValue} {item : JsValue} :
    item ∈ distinctValues items ↔ item ∈ items := by
  induction items with
  | nil => simp [distinctValues]
  | cons first items ih =>
      rw [distinctValues, List.mem_cons, List.mem_cons, List.mem_filter, ih]
      constructor
      · exact fun inside => inside.imp id And.left
      · rintro (rfl | inside)
        · exact .inl rfl
        · cases same : sameValueZero first item with
          | true => exact .inl (sameValueZero_eq same).symm
          | false => exact .inr ⟨inside, rfl⟩

/-- What the features of a license are made of. -/
theorem mem_sortedFeatures [LicenseHost] {value : JsValue}
    (sorted : sortedFeatures value = .ok features) :
    (value = .undefined ∨ value = .null) ∧ features = [] ∨
      (∃ items, value = .arr items ∧ ∀ item, item ∈ features ↔ item ∈ items) ∨
      ∃ text, value = .str text ∧ ∀ item ∈ features, ∃ part, item = .str part := by
  have permuted : ∃ items, featureItems value = .ok items ∧ features.Perm items := by
    unfold sortedFeatures at sorted
    cases made : featureItems value with
    | error error => simp [made, Except.bind] at sorted
    | ok items =>
        simp only [made, Except.bind] at sorted
        split at sorted
        · cases sorted
        · cases sorted
          exact ⟨items, rfl, List.perm_insertionSort _ _⟩
  obtain ⟨items, made, same⟩ := permuted
  unfold featureItems at made
  split at made
  · cases made
    exact .inl ⟨.inl rfl, same.eq_nil⟩
  · cases made
    exact .inl ⟨.inr rfl, same.eq_nil⟩
  · rename_i source
    cases made
    exact .inr (.inl ⟨source, rfl, fun item => same.mem_iff.trans mem_distinctValues⟩)
  · rename_i text
    cases made
    refine .inr (.inr ⟨text, rfl, fun item inside => ?_⟩)
    have part := mem_distinctValues.mp (same.mem_iff.mp inside)
    obtain ⟨c, -, rfl⟩ := List.mem_map.mp part
    exact ⟨_, rfl⟩
  · cases made

theorem orElse_isParsed {value other : JsValue} (received : value = .undefined ∨ value.IsParsed)
    (parsed : other.IsParsed) : (value.orElse other).IsParsed := by
  rcases received with rfl | isParsed
  · exact parsed
  · cases value <;> first | exact parsed | exact isParsed

theorem orElse_isSolid {value other : JsValue} (solid : other.IsSolid) :
    (value.orElse other).IsSolid ↔ value = .undefined ∨ value = .null ∨ value.IsSolid := by
  cases value <;> simp [JsValue.orElse, solid]

theorem isParsed_of_isTruthy {value : JsValue} (received : value = .undefined ∨ value.IsParsed)
    (truthy : value.isTruthy = true) : value.IsParsed := by
  refine received.resolve_left ?_
  rintro rfl
  cases truthy

theorem licensePayload_keyed (input : LicenseInput) (features : List JsValue) (uuid : String)
    (now : Nat) : ∃ fields, licensePayload input features uuid now = .obj fields ∧
      Keyed Prod.fst fields :=
  ⟨_, rfl, by unfold Keyed; simp⟩

/-- The payload of an accepted request is a value as it is read from JSON. -/
theorem licensePayload_isParsed [LicenseHost] (received : input.IsReceived)
    (sorted : sortedFeatures input.features = .ok features)
    (organizationId : input.organizationId.isTruthy = true) (plan : input.plan.isTruthy = true)
    (expiresAt : input.expiresAt.isTruthy = true) :
    (licensePayload input features uuid now).IsParsed := by
  simp only [LicenseInput.IsReceived, LicenseInput.values, List.forall_mem_cons] at received
  obtain ⟨licenseId, organization, planned, featured, limited, issued, expiring, -⟩ := received
  have items : (JsValue.arr features).IsParsed := by
    refine JsValue.isParsed_arr fun item inside => ?_
    rcases mem_sortedFeatures sorted with ⟨-, rfl⟩ | ⟨source, isArray, same⟩ | ⟨text, -, parts⟩
    · cases inside
    · rw [isArray] at featured
      exact (featured.resolve_left (by simp)).item ((same item).mp inside)
    · obtain ⟨part, rfl⟩ := parts item inside
      exact JsValue.isParsed_str part
  have empty : (JsValue.obj []).IsParsed :=
    JsValue.isParsed_obj List.nodup_nil fun _ member => absurd member List.not_mem_nil
  refine JsValue.isParsed_obj (by unfold Keyed; simp) ?_
  simp only [List.forall_mem_cons]
  exact ⟨JsValue.isParsed_str _, orElse_isParsed licenseId (JsValue.isParsed_str _),
    isParsed_of_isTruthy organization organizationId, isParsed_of_isTruthy planned plan, items,
    orElse_isParsed limited empty, orElse_isParsed issued (JsValue.isParsed_str _),
    isParsed_of_isTruthy expiring expiresAt, JsValue.isParsed_str _,
    fun _ member => absurd member List.not_mem_nil⟩

/-- The payload is solid when what goes into it is. -/
theorem licensePayload_isSolid [LicenseHost]
    (sorted : sortedFeatures input.features = .ok features) :
    (licensePayload input features uuid now).IsSolid ↔ input.IsSolid := by
  have items : (JsValue.arr features).IsSolid ↔
      input.features = .undefined ∨ input.features = .null ∨ input.features.IsSolid := by
    rw [JsValue.isSolid_arr]
    rcases mem_sortedFeatures sorted with ⟨missing, rfl⟩ | ⟨source, isArray, same⟩ |
      ⟨text, isText, parts⟩
    · rcases missing with missing | missing <;> simp [missing]
    · rw [isArray, JsValue.isSolid_arr]
      simp [same]
    · rw [isText]
      constructor
      · exact fun _ => .inr (.inr (JsValue.isSolid_str text))
      · intro _ item inside
        obtain ⟨part, rfl⟩ := parts item inside
        exact JsValue.isSolid_str part
  have empty : (JsValue.obj []).IsSolid :=
    JsValue.isSolid_obj.mpr fun _ member => absurd member List.not_mem_nil
  rw [licensePayload, JsValue.isSolid_obj]
  simp only [List.forall_mem_cons, orElse_isSolid empty, orElse_isSolid (JsValue.isSolid_str _),
    items, JsValue.isSolid_str, LicenseInput.IsSolid]
  constructor
  · rintro ⟨-, licenseId, organizationId, plan, features, limits, issuedAt, expiresAt, -, last⟩
    exact ⟨⟨organizationId, plan, expiresAt, fun _ member => absurd member List.not_mem_nil⟩,
      licenseId, features, limits, issuedAt, fun _ member => absurd member List.not_mem_nil⟩
  · rintro ⟨⟨organizationId, plan, expiresAt, -⟩, licenseId, features, limits, issuedAt, -⟩
    exact ⟨trivial, licenseId, organizationId, plan, features, limits, issuedAt, expiresAt, trivial,
      fun _ member => absurd member List.not_mem_nil⟩

end Input

/-- An issued license on the wire. -/
theorem licenseDocument_written (fields : List (String × JsValue)) (bytes : List UInt8) :
    (licenseDocument (.obj fields) bytes).toJson.toJs =
      licenseDocument (JsValue.obj fields).toJson.toJs bytes := by
  simp [licenseDocument, JsValue.toJson, JsValue.fieldsToJson, JsValue.isUndefined, Json.toJs,
    Json.fieldsToJs]

theorem member_payload (payload : JsValue) (bytes : List UInt8) :
    (licenseDocument payload bytes).member "payload" = payload := by
  simp [licenseDocument, JsValue.member]

/-- The document of an issued license is a value as it is read from JSON when its payload is. -/
theorem licenseDocument_isParsed {payload : JsValue} (parsed : payload.IsParsed) (bytes : List UInt8) :
    (licenseDocument payload bytes).IsParsed := by
  refine JsValue.isParsed_obj (by unfold Keyed; simp) ?_
  simp only [List.forall_mem_cons]
  exact ⟨parsed, JsValue.isParsed_str _, JsValue.isParsed_str _,
    fun _ member => absurd member List.not_mem_nil⟩

section Lawful

variable [LicenseHost] {signature : LicenseSignature}
  {publicKey : LicenseHost.PublicKey}

/-- The verdict over a license document whose payload is an object. -/
theorem verifyLicense_document {fields : List (String × JsValue)} (now : Int)
    (authentic : LicenseHost.verify publicKey (licenseCanonical (.obj fields)) signature.val = true) :
    verifyLicense (licenseDocument (.obj fields) signature.val) publicKey now =
      some (if (LicenseHost.dateParse ((JsValue.obj fields).member "expiresAt")).any
          (fun expiry => expiry ≤ now) then .invalid "expired" else .valid (.obj fields)) := by
  have nonempty : signature.val ≠ [] := by
    intro empty
    have length := signature.property
    rw [empty] at length
    cases length
  have text : (JsValue.str (String.ofList (Base64.encode signature.val))).isTruthy = true := by
    have letters : String.ofList (Base64.encode signature.val) ≠ "" := by
      intro same
      have none := congrArg String.toList same
      rw [String.toList_ofList] at none
      exact Base64.encode_ne_nil nonempty none
    simpa [JsValue.isTruthy] using letters
  have payloadOf : (licenseDocument (.obj fields) signature.val).member "payload" =
      .obj fields := by simp [licenseDocument, JsValue.member]
  have signatureOf : (licenseDocument (.obj fields) signature.val).member "signature" =
      .str (String.ofList (Base64.encode signature.val)) := by
    simp [licenseDocument, JsValue.member]
  have algorithmOf : (licenseDocument (.obj fields) signature.val).member "algorithm" =
      .str "Ed25519" := by simp [licenseDocument, JsValue.member]
  have truthy : (JsValue.obj fields).isTruthy = true := rfl
  simp only [verifyLicense, payloadOf, signatureOf, algorithmOf, truthy, text, JsValue.text?,
    signatureBytes, chars_eq_toList, String.toList_ofList, Base64.decode_encode, authentic,
    decide_true, Bool.and_self, if_true, Option.map_some]

/-- What an accepted license shows. -/
theorem verifyLicense_valid {other accepted : JsValue} {now : Int}
    (valid : verifyLicense other publicKey now = some (.valid accepted)) :
    accepted = other.member "payload" ∧ accepted.isTruthy = true ∧
      ∃ bytes, signatureBytes (other.member "signature") = some bytes ∧
        LicenseHost.verify publicKey (licenseCanonical accepted) bytes = true := by
  unfold verifyLicense at valid
  simp only at valid
  split at valid
  · rename_i shaped
    simp only [Bool.and_eq_true] at shaped
    obtain ⟨bytes, isBytes, verdict⟩ := Option.map_eq_some_iff.mp valid
    split at verdict
    · rename_i authentic
      split at verdict
      · cases verdict
      · cases verdict
        exact ⟨rfl, shaped.1.1, bytes, isBytes, authentic⟩
    · cases verdict
  · cases valid

/-- The verdict over an issued license on the wire. -/
theorem verifyLicense_written {fields : List (String × JsValue)} (now : Int)
    (parsed : (JsValue.obj fields).IsParsed)
    (authentic : LicenseHost.verify publicKey (licenseCanonical (.obj fields)) signature.val = true) :
    verifyLicense (licenseDocument (.obj fields) signature.val).toJson.toJs publicKey now =
      some (if (LicenseHost.dateParse ((JsValue.obj fields).toJson.toJs.member "expiresAt")).any
          (fun expiry => expiry ≤ now) then .invalid "expired"
        else .valid (JsValue.obj fields).toJson.toJs) := by
  have sameText := licenseCanonical_congr parsed.written.defined parsed.defined
    (JsValue.toJson_toJs _)
  rw [licenseDocument_written]
  rw [JsValue.written_obj] at sameText ⊢
  rw [← sameText] at authentic
  exact verifyLicense_document now authentic

/-- A license is lawful if and only if its expiry, as it is read from the wire, is a date and
nothing in its payload is written as null. -/
theorem lawfulLicense_iff {fields : List (String × JsValue)} (parsed : (JsValue.obj fields).IsParsed)
    (authentic : LicenseHost.verify publicKey (licenseCanonical (.obj fields)) signature.val = true) :
    LawfulLicense (licenseDocument (.obj fields) signature.val) publicKey ↔
      (∃ expiry, LicenseHost.dateParse ((JsValue.obj fields).toJson.toJs.member "expiresAt") =
        some expiry) ∧ (JsValue.obj fields).IsSolid := by
  obtain ⟨read, isRead⟩ : ∃ read, (JsValue.obj fields).toJson.toJs = .obj read :=
    ⟨_, JsValue.written_obj fields⟩
  have written : (JsValue.obj read).toJson = (JsValue.obj fields).toJson := by
    rw [← isRead, JsValue.toJson_toJs]
  have readParsed : (JsValue.obj read).IsParsed := isRead ▸ parsed.written
  have wire := licenseDocument_written fields signature.val
  rw [isRead] at wire
  have verdict := fun now => verifyLicense_written now parsed authentic
  rw [isRead] at verdict ⊢
  constructor
  · intro lawful
    constructor
    · obtain ⟨expiry, always⟩ := lawful.expires
      cases isDate : LicenseHost.dateParse ((JsValue.obj read).member "expiresAt") with
      | some date => exact ⟨date, rfl⟩
      | none =>
          -- At the time of the expiry the license would be valid.
          have late := always expiry
          rw [verdict expiry, isDate] at late
          simp at late
    · have readSolid : (JsValue.obj read).IsSolid := by
        intro leaf inside
        rw [← Bool.not_eq_true]
        intro null
        -- The twin of the payload is accepted under the same signature.
        have apart := JsValue.not_reordered_forNulls readParsed.defined inside null
        have stands := (JsValue.obj read).standIn_standsIn
        generalize (JsValue.obj read).standIn = value at apart stands
        obtain ⟨twinParsed, twinWritten⟩ := readParsed.forNulls stands
        rw [JsValue.forNulls] at apart twinParsed twinWritten
        have twinText := licenseCanonical_congr twinParsed.defined parsed.defined
          (twinWritten.trans written)
        have twinAuthentic := authentic
        rw [← twinText] at twinAuthentic
        obtain ⟨now, early⟩ : ∃ now : Int, (LicenseHost.dateParse
            ((JsValue.obj (value.fieldsForNulls read)).member "expiresAt")).any
              (fun expiry => expiry ≤ now) = false := by
          cases LicenseHost.dateParse
              ((JsValue.obj (value.fieldsForNulls read)).member "expiresAt") with
          | none => exact ⟨0, rfl⟩
          | some expiry =>
              refine ⟨expiry - 1, ?_⟩
              rw [Option.any_some, decide_eq_false_iff_not]
              omega
        have accepted := verifyLicense_document now twinAuthentic
        rw [early, if_neg Bool.false_ne_true] at accepted
        have same := lawful.bound _ _ now (licenseDocument_isParsed twinParsed _)
          (fun _ _ _ => by rw [member_payload, member_payload, twinText]) accepted
        rw [wire, member_payload] at same
        exact apart same
      exact readSolid.of_reordered parsed.defined (isRead ▸ .refl _)
  · rintro ⟨⟨expiry, isDate⟩, solid⟩
    have same : JsValue.obj read = .obj fields := isRead.symm.trans solid.written
    refine ⟨⟨expiry, fun now => ?_⟩, ?_⟩
    · rw [verdict now, isDate, wire, member_payload]
      by_cases early : now < expiry
      · simp [early]
      · simp [early, not_lt.mp early]
    · intro other accepted now otherParsed onlySigned valid
      obtain ⟨rfl, truthy, bytes, isBytes, verified⟩ := verifyLicense_valid valid
      have texts := onlySigned bytes isBytes verified
      rw [member_payload] at texts
      have acceptedParsed := isParsed_of_isTruthy (otherParsed.member "payload") truthy
      have reordered := reordered_of_licenseCanonical parsed.defined acceptedParsed.defined texts.symm
      rw [solid.written] at reordered
      have acceptedSolid := solid.of_reordered acceptedParsed.defined reordered
      rw [acceptedSolid.written] at reordered
      rw [wire, member_payload, same]
      exact reordered

/-- What `issueLicense` accepts, and what it returns. -/
theorem issueLicense_ok {input : LicenseInput} {uuid : String} {now : Nat}
    {privateKey : Option LicenseHost.PrivateKey} {document : JsValue}
    (issued : issueLicense input uuid now privateKey = .ok document) :
    ∃ key features, privateKey = some key ∧ sortedFeatures input.features = .ok features ∧
      input.organizationId.isTruthy = true ∧ input.plan.isTruthy = true ∧
      input.expiresAt.isTruthy = true ∧
      document = licenseDocument (licensePayload input features uuid now)
        (LicenseHost.sign key
          (licenseCanonical (licensePayload input features uuid now))).val := by
  cases privateKey with
  | none => cases issued
  | some key =>
      cases sorted : sortedFeatures input.features with
      | error error => simp [issueLicense, sorted, Except.bind] at issued
      | ok features =>
          simp only [issueLicense, sorted, Except.bind] at issued
          split at issued
          · rename_i required
            simp only [Bool.and_eq_true] at required
            cases issued
            exact ⟨key, features, rfl, rfl, required.1.1, required.1.2, required.2, rfl⟩
          · cases issued

/-- What an accepted request must be for its license to be lawful. -/
theorem issued_lawful_iff {input : LicenseInput} {uuid : String} {now : Nat}
    {privateKey : LicenseHost.PrivateKey} {document : JsValue}
    (keys : ∀ message, LicenseHost.verify publicKey message
      (LicenseHost.sign privateKey message).val = true)
    (received : input.IsReceived)
    (issued : issueLicense input uuid now (some privateKey) = .ok document) :
    LawfulLicense document publicKey ↔
      (∃ expiry, LicenseHost.dateParse input.expiresAt = some expiry) ∧ input.IsSolid := by
  obtain ⟨key, features, same, sorted, organizationId, plan, expiresAt, rfl⟩ :=
    issueLicense_ok issued
  cases same
  have parsed : (licensePayload input features uuid now).IsParsed :=
    licensePayload_isParsed received sorted organizationId
      plan expiresAt
  have solid : (licensePayload input features uuid now).IsSolid ↔ input.IsSolid :=
    licensePayload_isSolid sorted
  have expiring : (licensePayload input features uuid now).member "expiresAt" =
      input.expiresAt := by simp [licensePayload, JsValue.member]
  obtain ⟨fields, isObject⟩ : ∃ fields, licensePayload input features uuid now = .obj fields :=
    ⟨_, rfl⟩
  rw [isObject] at parsed solid expiring ⊢
  rw [lawfulLicense_iff parsed (keys _), solid]
  refine and_congr_left fun inputSolid => ?_
  rw [(solid.mpr inputSolid).written, expiring]

end Lawful

theorem routeInput_isReceived {body : JsValue} (parsed : body.IsParsed) :
    (routeInput body).IsReceived := by
  simp only [LicenseInput.IsReceived, LicenseInput.values, routeInput, List.forall_mem_cons]
  exact ⟨.inl trivial, parsed.member _, parsed.member _, parsed.member _, parsed.member _,
    .inl trivial, parsed.member _, fun _ member => absurd member List.not_mem_nil⟩

/-- The signatures of two payloads, as the real function gives them under one key. -/
def sampleLicenseSignature (canonical : List Char) : LicenseSignature :=
  if String.ofList canonical = "\x7b\"expiresAt\":\"infinity\"," ++
      "\"features\":[\"runtime\",\"web\"],\"issuedAt\":\"2026-07-18T00:00:00.000Z\"," ++
      "\"issuer\":\"bairui\",\"licenseId\":\"license-1\",\"limits\":\x7b\x7d," ++
      "\"organizationId\":\"org-1\",\"plan\":\"business\",\"schemaVersion\":\"1.0\"\x7d" then
    ⟨[226, 115, 219, 41, 181, 139, 43, 162, 70, 228, 196, 154, 87, 82, 72, 127, 94,
      222, 0, 71, 220, 172, 225, 109, 200, 68, 48, 58, 130, 219, 162, 154, 249, 73,
      210, 205, 94, 231, 239, 139, 74, 108, 50, 166, 255, 141, 43, 237, 40, 226, 209,
      232, 133, 168, 238, 103, 39, 246, 241, 234, 106, 137, 212, 0], rfl⟩
  else
    ⟨[182, 94, 153, 213, 89, 69, 138, 5, 214, 111, 186, 133, 169, 57, 227, 169, 72,
      188, 102, 29, 32, 188, 246, 103, 155, 40, 162, 98, 164, 207, 90, 75, 219, 20,
      190, 204, 57, 94, 71, 70, 147, 54, 13, 63, 81, 94, 15, 46, 56, 212, 40, 94, 242,
      104, 43, 167, 252, 168, 87, 122, 196, 126, 160, 2], rfl⟩

/-- A runtime with one key pair and one instant. -/
@[reducible] def LicenseHost.sample : LicenseHost where
  PrivateKey := Unit
  PublicKey := Unit
  sign _ canonical := sampleLicenseSignature canonical
  verify _ canonical bytes := bytes == (sampleLicenseSignature canonical).val
  bytesOf _ := none
  text := JsValue.text?
  dateParse value :=
    if value.text? = some "2030-01-01T00:00:00.000Z" then some 1893456000000 else none

section Sample

attribute [local instance] LicenseHost.sample

/-- A request for a license. -/
def sampleLicenseBody (expiresAt : String) : JsValue :=
  .obj [("organizationId", .str "org-1"), ("plan", .str "business"),
    ("features", .arr [.str "web", .str "runtime", .str "web"]), ("expiresAt", .str expiresAt)]

theorem sampleLicenseBody_isParsed (expiresAt : String) :
    (sampleLicenseBody expiresAt).IsParsed := by
  refine JsValue.isParsed_obj (by unfold Keyed; simp) ?_
  simp only [List.forall_mem_cons]
  refine ⟨JsValue.isParsed_str _, JsValue.isParsed_str _, JsValue.isParsed_arr ?_,
    JsValue.isParsed_str _, fun _ member => absurd member List.not_mem_nil⟩
  simp only [List.forall_mem_cons]
  exact ⟨JsValue.isParsed_str _, JsValue.isParsed_str _, JsValue.isParsed_str _,
    fun _ member => absurd member List.not_mem_nil⟩

end Sample

end BairuiPlatform
