/-
Module: BairuiPlatform.Machines.Mutations
Purpose: The signatures of packages/security/control-mutation.mjs: they survive the wire, and
  what of a document they cover.
Trusted boundary: HMAC-SHA-256 and Date.parse are parameters
Main exports: controlMutationCanonical, signControlMutation, verifyControlMutationSignature,
  JsValue.stripped, BindsWhole, control_mutations_bound_iff
-/
import BairuiPlatform.Clock
import BairuiPlatform.Foundations.Base64
import BairuiPlatform.JsValue
import BairuiPlatform.Machines.Credentials

namespace BairuiPlatform

open Foundations

/-! ### Keys -/

/-- `deriveMachineKey`. -/
def deriveMachineKey (token : String) : Except String String :=
  if utf16Length token < 32 then .error "Machine token must contain at least 32 characters"
  else .ok (sha256 (chars token))

/-- The options that name a key. -/
structure KeyOptions where
  keyHash : Option String
  token : Option String
deriving Repr, DecidableEq

/-- `keyBuffer`, the key as the hexadecimal digits that are read. -/
def keyBuffer (options : KeyOptions) : Except String String :=
  let keyHash : Except String (Option String) :=
    match options.keyHash, options.token with
    | some keyHash, _ => .ok (some keyHash)
    | none, some token => if token = "" then .ok none else (deriveMachineKey token).map some
    | none, none => .ok none
  keyHash.bind fun
    | some keyHash =>
        if isKeyHash keyHash then .ok keyHash
        else .error "A derived control mutation key is required"
    | none => .error "A derived control mutation key is required"

/-! ### Canonical documents -/

/-- `{ ...fields, [name]: value }`. -/
def setMember (name : String) (value : JsValue) (fields : List (String × JsValue)) :
    List (String × JsValue) :=
  if fields.any fun field => field.1 = name then
    fields.map fun field => if field.1 = name then (name, value) else field
  else fields ++ [(name, value)]

/-- The members of a signature that it covers itself. -/
def coveredNames : List String :=
  ["algorithm", "key_id", "signed_at"]

/-- The signature of the unsigned document. -/
def coveredSignature (signature : JsValue) : JsValue :=
  .obj (coveredNames.map fun name => (name, signature.member name))

/-- The document with the covered members of its signature. -/
def JsValue.unsigned : JsValue → JsValue
  | .obj fields =>
      .obj (setMember "signature" (coveredSignature ((JsValue.obj fields).member "signature")) fields)
  | value => value

/-- `controlMutationCanonical`. -/
def controlMutationCanonical (value : JsValue) : Except String (List Char) :=
  match value with
  | .obj _ =>
      match value.member "signature" with
      | .obj _ => .ok value.unsigned.canonicalValue.stringify
      | _ => .error "Control mutation signature metadata is required"
  | _ => .error "Control mutation must be an object"

/-! ### Signing and verifying -/

/-- The bytes of a digest. -/
abbrev MutationDigest := { bytes : List UInt8 // bytes.length = 32 }

/-- What the runtime of the server supplies: `hmacSha256 key text` is a digest under a key in
hexadecimal, `dateParse value` is `Date.parse(value)` where that is a number. -/
class MutationHost where
  hmacSha256 : String → List Char → MutationDigest
  dateParse : JsValue → Option Int

/-- The options of `signControlMutation`. The key id may be missing, and the time is
`options.now ?? Date.now()`. -/
structure SignOptions where
  key : KeyOptions
  keyId : Option String
  signedAt : Option String
  now : Nat

/-- `options.signedAt ?? new Date(now).toISOString()`. -/
def SignOptions.signingTime (options : SignOptions) : String :=
  options.signedAt.getD (isoString (ofMillis options.now))

/-- The signature of an envelope. -/
def signatureOf (keyId signedAt value : String) : JsValue :=
  .obj [("algorithm", .str "hmac-sha256"), ("key_id", .str keyId), ("signed_at", .str signedAt),
    ("value", .str value)]

/-- `signControlMutation`. -/
def signControlMutation [MutationHost] (value : JsValue) (options : SignOptions) :
    Except String JsValue :=
  match value, options.keyId with
  | .obj fields, some keyId =>
      if keyId = "" then .error "Control mutation key id is required"
      else
        let signature := signatureOf keyId options.signingTime
        let envelope := setMember "signature" (signature "pending-control-signature") fields
        (keyBuffer options.key).bind fun key =>
        (controlMutationCanonical (.obj envelope)).map fun canonical =>
          let digest := MutationHost.hmacSha256 key canonical
          .obj (setMember "signature"
            (signature (String.ofList (Base64.encode digest.val))) envelope)
  | .obj _, none => .error "Control mutation key id is required"
  | _, _ => .error "Control mutation must be an object"

/-- The options of `verifyControlMutationSignature`, with `Number(now ?? Date.now())`. -/
structure VerifyOptions where
  key : KeyOptions
  expectedKeyId : Option String
  now : Int
  maxAgeMs : Option Int

/-- `MAX_SIGNATURE_AGE_MS`. -/
def maxSignatureAgeMs : Int := 5 * 60000

/-- The key id is the one that is asked for, if one is. -/
def VerifyOptions.admitsKeyId (options : VerifyOptions) (keyId : JsValue) : Bool :=
  options.expectedKeyId.all fun expected => expected = "" || keyId.text? = some expected

/-- The signing time is not before the creation of the document, nor too far away. -/
def VerifyOptions.inWindow [MutationHost] (options : VerifyOptions) (signedAt createdAt : JsValue) :
    Bool :=
  match MutationHost.dateParse signedAt, MutationHost.dateParse createdAt with
  | some signedAt, some createdAt =>
      createdAt ≤ signedAt &&
        ((options.now - signedAt).natAbs : Int) ≤ options.maxAgeMs.getD maxSignatureAgeMs
  | _, _ => false

/-- `verifyControlMutationSignature`. -/
def verifyControlMutationSignature [MutationHost] (value : JsValue) (options : VerifyOptions) :
    Except String Bool :=
  let signature := value.member "signature"
  match (signature.member "algorithm").text?, (signature.member "value").text? with
  | some algorithm, some text =>
      if algorithm = "hmac-sha256" && options.admitsKeyId (signature.member "key_id") &&
          options.inWindow (signature.member "signed_at") (value.member "created_at") then
        (keyBuffer options.key).bind fun key =>
        (controlMutationCanonical value).map fun canonical =>
          Base64.decode (chars text) == (MutationHost.hmacSha256 key canonical).val
      else .ok false
  | _, _ => .ok false

/-! ### What a signature covers -/

namespace JsValue

/-- A document with an object for its signature. -/
def IsSigned (value : JsValue) : Prop :=
  ∃ fields members, value = .obj fields ∧ value.member "signature" = .obj members

/-- The document without those members of its signature that the signature does not cover. -/
def stripped : JsValue → JsValue
  | .obj fields => .obj (fields.map fun field =>
      if field.1 = "signature" then (field.1, field.2.select fun name => name ∈ coveredNames)
      else field)
  | value => value

end JsValue

/-- The signature of a document binds the whole of it: another document has the same canonical
form just when it is the same but for the order of members and what is stripped, and another
document that is accepted under the same signature and key is the same unless digests collide. -/
structure BindsWhole [MutationHost] (document : JsValue) : Prop where
  canonical : ∀ other : JsValue, other.IsParsed → other.IsSigned →
    (controlMutationCanonical document = controlMutationCanonical other ↔
      JsValue.Reordered document.stripped other.stripped)
  unforgeable : ∀ (other : JsValue) (options others : VerifyOptions), other.IsParsed →
    other.IsSigned → keyBuffer options.key = keyBuffer others.key →
    verifyControlMutationSignature document options = .ok true →
    verifyControlMutationSignature other others = .ok true →
    (other.member "signature").member "value" = (document.member "signature").member "value" →
    (∀ key canonical canonical', keyBuffer options.key = .ok key →
      controlMutationCanonical document = .ok canonical →
      controlMutationCanonical other = .ok canonical' →
      MutationHost.hmacSha256 key canonical = MutationHost.hmacSha256 key canonical' →
      canonical = canonical') →
    JsValue.Reordered document.stripped other.stripped

/-! ### Members -/

section Members

variable {name : String} {value : JsValue} {fields : List (String × JsValue)}

theorem setMember_cons_ne {field : String × JsValue} (apart : field.1 ≠ name) :
    setMember name value (field :: fields) = field :: setMember name value fields := by
  unfold setMember
  rw [List.any_cons, decide_eq_false apart, Bool.false_or]
  split
  · rw [List.map_cons, if_neg apart]
  · rw [List.cons_append]

/-- A member that is set stands among the other members. -/
theorem setMember_perm (distinct : Keyed Prod.fst fields) :
    (setMember name value fields).Perm
      ((name, value) :: fields.filter fun field => field.1 ≠ name) := by
  induction fields with
  | nil => exact .refl _
  | cons field rest ih =>
      obtain ⟨fresh, distinctRest⟩ := Keyed.cons.mp distinct
      by_cases here : field.1 = name
      · -- No other member has the name.
        have others : ∀ other ∈ rest, other.1 ≠ name := here ▸ fresh
        have unchanged : rest.map (fun other => if other.1 = name then (name, value) else other) =
            rest := by
          refine (List.map_congr_left fun other member => ?_).trans (List.map_id rest)
          exact if_neg (others other member)
        have kept : rest.filter (fun other => other.1 ≠ name) = rest :=
          List.filter_eq_self.mpr fun other member => decide_eq_true (others other member)
        simp only [setMember, List.any_cons, here, decide_true, Bool.true_or, if_true,
          List.map_cons, unchanged, List.filter_cons, ne_eq, not_true_eq_false, decide_false,
          Bool.false_eq_true, if_false]
        rw [kept]
      · rw [setMember_cons_ne here, List.filter_cons, if_pos (decide_eq_true here)]
        exact ((ih distinctRest).cons field).trans (.swap _ _ _)

theorem setMember_keyed (distinct : Keyed Prod.fst fields) :
    Keyed Prod.fst (setMember name value fields) := by
  refine Keyed.perm (Keyed.cons.mpr ⟨?_, distinct.filter _⟩) (setMember_perm distinct).symm
  exact fun other kept => of_decide_eq_true (List.mem_filter.mp kept).2

theorem setMember_setMember (other : JsValue) :
    setMember name value (setMember name other fields) = setMember name value fields := by
  induction fields with
  | nil => simp [setMember]
  | cons field rest ih =>
      by_cases here : field.1 = name
      · simp only [setMember, List.any_cons, here, decide_true, Bool.true_or, if_true,
          List.map_cons, List.map_map]
        congr 1
        refine List.map_congr_left fun other _ => ?_
        by_cases same : other.1 = name <;> simp [same]
      · rw [setMember_cons_ne here, setMember_cons_ne here, setMember_cons_ne here, ih]

theorem member_setMember : (JsValue.obj (setMember name value fields)).member name = value := by
  induction fields with
  | nil => simp [setMember, JsValue.member]
  | cons field rest ih =>
      by_cases here : field.1 = name
      · simp [setMember, JsValue.member, here]
      · rw [setMember_cons_ne here]
        simpa [JsValue.member, List.find?_cons, here] using ih

theorem member_setMember_ne {other : String} (apart : other ≠ name) :
    (JsValue.obj (setMember name value fields)).member other =
      (JsValue.obj fields).member other := by
  induction fields with
  | nil => simp [setMember, JsValue.member, apart.symm]
  | cons field rest ih =>
      by_cases here : field.1 = name
      · have kept : ∀ list : List (String × JsValue),
            (list.map fun field => if field.1 = name then (name, value) else field).find?
                (fun field => decide (field.1 = other)) =
              list.find? fun field => decide (field.1 = other) := by
          intro list
          induction list with
          | nil => rfl
          | cons first list ih =>
              rw [List.map_cons, List.find?_cons, List.find?_cons, ih]
              by_cases named : first.1 = name
              · simp [named, apart.symm]
              · simp [named]
        have any : (field :: rest).any (fun field => field.1 = name) = true := by simp [here]
        rw [setMember, if_pos any, JsValue.member, JsValue.member, kept]
      · rw [setMember_cons_ne here]
        simp only [JsValue.member, List.find?_cons] at ih ⊢
        split
        · rfl
        · exact ih

/-- A member that is not undefined is one of the properties. -/
theorem member_eq_iff (distinct : Keyed Prod.fst fields) (defined : value.isUndefined = false) :
    (JsValue.obj fields).member name = value ↔ (name, value) ∈ fields := by
  rw [JsValue.member]
  constructor
  · intro same
    cases found : fields.find? fun field => field.1 = name with
    | none =>
        rw [found] at same
        subst same
        cases defined
    | some field =>
        obtain ⟨stored, named⟩ := distinct.find?_eq_some.mp found
        rw [found] at same
        rw [← named, ← same]
        exact stored
  · intro stored
    rw [distinct.find?_eq_some.mpr ⟨stored, rfl⟩]
    rfl

theorem namesDistinct_member (distinct : value.NamesDistinct) (name : String) :
    (value.member name).NamesDistinct := by
  cases value with
  | obj fields =>
      rw [JsValue.member]
      cases found : fields.find? fun field => field.1 = name with
      | none => trivial
      | some field =>
          exact JsValue.fieldsDistinct_iff.mp distinct.2 field (List.mem_of_find?_eq_some found)
  | _ => trivial

end Members

/-! ### Unsigned and stripped documents -/

namespace JsValue

theorem coveredSignature_reordered {signature other : JsValue} (distinct : signature.NamesDistinct)
    (reordered : Reordered signature other) :
    Reordered (coveredSignature signature) (coveredSignature other) := by
  have each : ∀ names : List String,
      List.Forall₂ (fun field other => field.1 = other.1 ∧ Reordered field.2 other.2)
        (names.map fun name => (name, signature.member name))
        (names.map fun name => (name, other.member name)) := by
    intro names
    induction names with
    | nil => exact .nil
    | cons name names ih => exact .cons ⟨rfl, reordered.member name distinct⟩ ih
  exact Reordered.fields (each coveredNames) []

/-- The unsigned document, with its signature in front. -/
theorem unsigned_reordered {fields : List (String × JsValue)} (distinct : Keyed Prod.fst fields) :
    Reordered (unsigned (.obj fields))
      (((JsValue.obj fields).select fun name => name ≠ "signature").withFirst
        ("signature", coveredSignature ((JsValue.obj fields).member "signature"))) :=
  .members (setMember_perm distinct)

theorem unsigned_namesDistinct {value : JsValue} (distinct : value.NamesDistinct) :
    value.unsigned.NamesDistinct := by
  cases value with
  | obj fields =>
      refine ⟨setMember_keyed distinct.1, fieldsDistinct_iff.mpr fun field member => ?_⟩
      rcases List.mem_cons.mp ((setMember_perm distinct.1).mem_iff.mp member) with rfl | kept
      · have inner := namesDistinct_member distinct "signature"
        have each := fun name => namesDistinct_member inner name
        exact ⟨by unfold Keyed coveredNames; simp, each _, each _, each _, trivial⟩
      · exact fieldsDistinct_iff.mp distinct.2 field (List.mem_filter.mp kept).1
  | _ => exact distinct

/-- The unsigned document does not see a reordering of the document. -/
theorem Reordered.unsigned {value other : JsValue} (distinct : value.NamesDistinct)
    (signed : ∃ fields, value = .obj fields) (reordered : Reordered value other) :
    Reordered value.unsigned other.unsigned := by
  obtain ⟨others, rfl⟩ := reordered.eq_obj signed
  obtain ⟨fields, rfl⟩ := signed
  have covered := coveredSignature_reordered (namesDistinct_member distinct "signature")
    (reordered.member "signature" distinct)
  have rest := reordered.select fun name => name ≠ "signature"
  refine (unsigned_reordered distinct.1).trans (.trans ?_
    (unsigned_reordered (reordered.namesDistinct distinct).1).symm)
  exact (covered.value "signature" [] _).trans (rest.withFirst _)

/-- The covered members of a signature are those that stripping keeps. -/
theorem canonicalValue_coveredSignature {members : List (String × JsValue)}
    (distinct : Keyed Prod.fst members) :
    (coveredSignature (.obj members)).canonicalValue =
      ((JsValue.obj members).select fun name => name ∈ coveredNames).canonicalValue := by
  have keyed : Keyed Prod.fst
      (coveredNames.map fun name => (name, (JsValue.obj members).member name)) := by
    unfold Keyed coveredNames
    simp
  have keeps : ∀ fields : List (String × JsValue), (canonicalFields fields).filter isDefined =
      canonicalFields (fields.filter isDefined) := by
    intro fields
    rw [canonicalFields_eq_map, canonicalFields_eq_map, List.filter_map]
    congr 1
    refine List.filter_congr fun field _ => ?_
    simp [isDefined]
  refine canonicalValue_obj_congr keyed (distinct.filter _) ?_
  rw [keeps, keeps, canonicalFields_eq_map, canonicalFields_eq_map]
  refine List.Perm.map _ ((List.perm_ext_iff_of_nodup (List.Nodup.of_map _ (keyed.filter _))
    (List.Nodup.of_map _ ((distinct.filter _).filter _))).mpr ?_)
  rintro ⟨name, value⟩
  simp only [List.mem_filter, List.mem_map, Prod.mk.injEq, isDefined, Bool.not_eq_true',
    decide_eq_true_eq]
  constructor
  · rintro ⟨⟨label, listed, rfl, rfl⟩, defined⟩
    exact ⟨⟨(member_eq_iff distinct defined).mp rfl, listed⟩, defined⟩
  · rintro ⟨⟨stored, listed⟩, defined⟩
    exact ⟨⟨name, listed, rfl, (member_eq_iff distinct defined).mpr stored⟩, defined⟩

/-- The canonical form of the unsigned document is that of the stripped one. -/
theorem canonicalValue_unsigned {value : JsValue} (distinct : value.NamesDistinct)
    (signed : value.IsSigned) : value.unsigned.canonicalValue = value.stripped.canonicalValue := by
  obtain ⟨fields, members, rfl, isSignature⟩ := signed
  have inner := namesDistinct_member distinct "signature"
  rw [isSignature] at inner
  have stored : ("signature", JsValue.obj members) ∈ fields :=
    (member_eq_iff distinct.1 rfl).mp isSignature
  have present : fields.any (fun field => field.1 = "signature") = true :=
    List.any_eq_true.mpr ⟨_, stored, decide_eq_true rfl⟩
  rw [unsigned, stripped, isSignature, setMember, if_pos present, canonicalValue, canonicalValue,
    canonicalFields_eq_map, canonicalFields_eq_map, List.map_map, List.map_map]
  congr 4
  refine List.map_congr_left fun field member => ?_
  by_cases here : field.1 = "signature"
  · have same : field = ("signature", .obj members) := distinct.1.eq_of_key_eq member stored here
    subst same
    simp only [Function.comp_apply, if_true]
    rw [canonicalValue_coveredSignature inner.1]
  · simp only [Function.comp_apply, if_neg here]

theorem stripped_namesDistinct {value : JsValue} (distinct : value.NamesDistinct) :
    value.stripped.NamesDistinct := by
  cases value with
  | obj fields =>
      refine ⟨?_, fieldsDistinct_iff.mpr fun field member => ?_⟩
      · unfold Keyed
        rw [List.map_map]
        have names : (Prod.fst ∘ fun field : String × JsValue =>
            if field.1 = "signature" then
              (field.1, field.2.select fun name => name ∈ coveredNames)
            else field) = Prod.fst := by
          funext field
          simp only [Function.comp_apply]
          split <;> rfl
        rw [names]
        exact distinct.1
      · obtain ⟨source, stored, rfl⟩ := List.mem_map.mp member
        have inner := fieldsDistinct_iff.mp distinct.2 source stored
        split
        · exact inner.select fun name => decide (name ∈ coveredNames)
        · exact inner
  | _ => exact distinct

theorem leaves_stripped_subset (value : JsValue) : value.stripped.leaves ⊆ value.leaves := by
  cases value with
  | obj fields =>
      simp only [stripped, leaves, fieldLeaves_eq_flatMap, List.flatMap_map]
      intro leaf inside
      obtain ⟨field, stored, found⟩ := List.mem_flatMap.mp inside
      refine List.mem_flatMap.mpr ⟨field, stored, ?_⟩
      split at found
      · exact leaves_select_subset (fun name => decide (name ∈ coveredNames)) field.2 found
      · exact found
  | _ => exact fun _ => id

/-- The canonical form of a signed document. -/
theorem controlMutationCanonical_eq {value : JsValue} (distinct : value.NamesDistinct)
    (signed : value.IsSigned) :
    controlMutationCanonical value = .ok value.stripped.canonicalValue.stringify := by
  rw [← canonicalValue_unsigned distinct signed]
  obtain ⟨fields, members, rfl, isSignature⟩ := signed
  rw [controlMutationCanonical, isSignature]

/-- Documents have one canonical form when their stripped canonical forms are written alike. -/
theorem controlMutationCanonical_eq_iff {value other : JsValue} (distinct : value.NamesDistinct)
    (signed : value.IsSigned) (distinct' : other.NamesDistinct) (signed' : other.IsSigned) :
    controlMutationCanonical value = controlMutationCanonical other ↔
      value.stripped.canonicalValue.toJson = other.stripped.canonicalValue.toJson := by
  rw [controlMutationCanonical_eq distinct signed, controlMutationCanonical_eq distinct' signed',
    Except.ok.injEq]
  exact ⟨Json.stringify_injective, fun same => by rw [stringify, stringify, same]⟩

/-! ### The wire -/

/-- A member that is read as it was written is a member of what was read. -/
theorem member_written {fields : List (String × JsValue)} {name : String} {value : JsValue}
    (distinct : (JsValue.obj fields).NamesDistinct)
    (isMember : (JsValue.obj fields).member name = value)
    (same : value.toJson.toJs = value) :
    (JsValue.obj fields).toJson.toJs.member name = value := by
  have defined : value.isUndefined = false := by
    rw [← same]
    exact isUndefined_toJs _
  have stored := (member_eq_iff distinct.1 defined).mp isMember
  have kept := namesDistinct_written _ distinct
  rw [written_obj] at kept ⊢
  refine (member_eq_iff kept.1 defined).mpr (List.mem_map.mpr ⟨(name, value), ?_, ?_⟩)
  · exact List.mem_filter.mpr ⟨stored, by simp [isDefined, defined]⟩
  · rw [same]

/-- It makes no difference whether a document is written and read before or after its signature
is reduced to the covered members, when these and the signature are read as they were written. -/
theorem written_unsigned {fields : List (String × JsValue)} {signature : JsValue}
    (distinct : (JsValue.obj fields).NamesDistinct)
    (isSignature : (JsValue.obj fields).member "signature" = signature)
    (same : signature.toJson.toJs = signature)
    (covered : (coveredSignature signature).toJson.toJs = coveredSignature signature) :
    Reordered (JsValue.obj fields).unsigned.toJson.toJs (JsValue.obj fields).toJson.toJs.unsigned := by
  have kept := member_written distinct isSignature same
  have keyed := (namesDistinct_written _ distinct)
  rw [written_obj] at kept keyed ⊢
  rw [unsigned, unsigned, kept, isSignature, written_obj]
  refine .members (.trans ?_ (setMember_perm keyed.1).symm)
  refine (((setMember_perm distinct.1).filter isDefined).map _).trans ?_
  have isKept : isDefined ("signature", coveredSignature signature) = true := rfl
  rw [List.filter_cons, if_pos isKept, List.map_cons, covered, List.filter_map, List.filter_filter,
    List.filter_filter]
  refine .cons _ (.of_eq ?_)
  congr 1
  refine List.filter_congr fun field _ => ?_
  exact Bool.and_comm _ _

end JsValue

/-- The members of a signature are texts, which are read as they were written. -/
theorem signatureOf_written (keyId signedAt text : String) :
    (signatureOf keyId signedAt text).toJson.toJs = signatureOf keyId signedAt text := by
  refine JsValue.toJs_toJson _ fun leaf inside => ?_
  simp only [signatureOf, JsValue.leaves, JsValue.fieldLeaves, List.append_nil, List.cons_append,
    List.nil_append, List.mem_cons, List.not_mem_nil, or_false] at inside
  rcases inside with rfl | rfl | rfl | rfl <;> rfl

theorem coveredSignature_signatureOf (keyId signedAt text : String) :
    coveredSignature (signatureOf keyId signedAt text) =
      .obj [("algorithm", .str "hmac-sha256"), ("key_id", .str keyId),
        ("signed_at", .str signedAt)] := by
  simp [coveredSignature, coveredNames, signatureOf, JsValue.member]

theorem coveredSignature_written (keyId signedAt text : String) :
    (coveredSignature (signatureOf keyId signedAt text)).toJson.toJs =
      coveredSignature (signatureOf keyId signedAt text) := by
  rw [coveredSignature_signatureOf]
  refine JsValue.toJs_toJson _ fun leaf inside => ?_
  simp only [JsValue.leaves, JsValue.fieldLeaves, List.append_nil, List.cons_append,
    List.nil_append, List.mem_cons, List.not_mem_nil, or_false] at inside
  rcases inside with rfl | rfl | rfl <;> rfl

theorem setMember_namesDistinct {name : String} {other : JsValue}
    {fields : List (String × JsValue)} (distinct : (JsValue.obj fields).NamesDistinct)
    (inner : other.NamesDistinct) :
    (JsValue.obj (setMember name other fields)).NamesDistinct := by
  refine ⟨setMember_keyed distinct.1, JsValue.fieldsDistinct_iff.mpr fun field member => ?_⟩
  rcases List.mem_cons.mp ((setMember_perm distinct.1).mem_iff.mp member) with rfl | kept
  · exact inner
  · exact JsValue.fieldsDistinct_iff.mp distinct.2 field (List.mem_filter.mp kept).1

theorem signatureOf_namesDistinct (keyId signedAt text : String) :
    (signatureOf keyId signedAt text).NamesDistinct :=
  ⟨by unfold Keyed; simp, trivial, trivial, trivial, trivial, trivial⟩

/-- The canonical form of a document with a signature of texts is the same on the other side of
the wire. -/
theorem controlMutationCanonical_wire {fields : List (String × JsValue)} {wire : JsValue}
    {keyId signedAt text : String} (distinct : (JsValue.obj fields).NamesDistinct)
    (isSignature : (JsValue.obj fields).member "signature" = signatureOf keyId signedAt text)
    (received : JsValue.Reordered (JsValue.obj fields).toJson.toJs wire) :
    controlMutationCanonical wire = controlMutationCanonical (.obj fields) := by
  have written := signatureOf_written keyId signedAt text
  have kept := JsValue.member_written distinct isSignature written
  have distinctRead := JsValue.namesDistinct_written _ distinct
  have isObject : ∃ others, (JsValue.obj fields).toJson.toJs = .obj others :=
    ⟨_, JsValue.written_obj fields⟩
  have unsigned := received.unsigned distinctRead isObject
  have moved := JsValue.written_unsigned distinct isSignature written
    (coveredSignature_written keyId signedAt text)
  have distinctMoved := JsValue.namesDistinct_written _ (JsValue.unsigned_namesDistinct distinct)
  obtain ⟨others, rfl⟩ := received.eq_obj isObject
  have found := received.member "signature" distinctRead
  rw [kept] at found
  obtain ⟨members, isMembers⟩ := found.eq_obj ⟨_, rfl⟩
  have same : (JsValue.obj others).unsigned.canonicalValue.toJson =
      (JsValue.obj fields).unsigned.canonicalValue.toJson := by
    rw [← unsigned.canonicalValue_eq (moved.namesDistinct distinctMoved),
      ← moved.canonicalValue_eq distinctMoved, JsValue.toJson_canonicalValue _ distinctMoved,
      JsValue.toJson_toJs,
      JsValue.toJson_canonicalValue _ (JsValue.unsigned_namesDistinct distinct)]
  rw [controlMutationCanonical, controlMutationCanonical, isMembers, isSignature, signatureOf,
    JsValue.stringify, JsValue.stringify, same]

section Sign

variable [MutationHost] {value signed : JsValue} {options : SignOptions}

/-- What signing returns: the object with a signature over its canonical form. -/
theorem signControlMutation_ok (distinct : value.NamesDistinct)
    (answered : signControlMutation value options = .ok signed) :
    ∃ fields keyId key canonical, value = .obj fields ∧ options.keyId = some keyId ∧
      keyBuffer options.key = .ok key ∧ controlMutationCanonical signed = .ok canonical ∧
      signed = .obj (setMember "signature" (signatureOf keyId options.signingTime
        (String.ofList (Base64.encode (MutationHost.hmacSha256 key canonical).val))) fields) := by
  cases value with
  | obj fields =>
      cases named : options.keyId with
      | none => simp [signControlMutation, named] at answered
      | some keyId =>
          simp only [signControlMutation, named] at answered
          split at answered
          · cases answered
          · cases keyed : keyBuffer options.key with
            | error error => simp [keyed, Except.bind] at answered
            | ok key =>
                cases written : controlMutationCanonical (.obj (setMember "signature"
                    (signatureOf keyId options.signingTime "pending-control-signature")
                    fields)) with
                | error error => simp [keyed, written, Except.bind, Except.map] at answered
                | ok canonical =>
                    simp only [keyed, written, Except.bind, Except.map, Except.ok.injEq,
                      setMember_setMember] at answered
                    refine ⟨fields, keyId, key, canonical, rfl, rfl, rfl, ?_, answered.symm⟩
                    rw [← written, ← answered, controlMutationCanonical, controlMutationCanonical]
                    simp only [JsValue.unsigned, member_setMember, setMember_setMember]
                    rfl
  | _ => simp [signControlMutation] at answered

/-- A signed mutation is accepted on the other side of the wire. -/
theorem verify_of_sign {wire : JsValue} {others : VerifyOptions} {created : String}
    {createdAt signedAt : Int} (distinct : value.NamesDistinct)
    (answered : signControlMutation value options = .ok signed)
    (creation : value.member "created_at" = .str created)
    (isCreation : MutationHost.dateParse (.str created) = some createdAt)
    (isSigning : MutationHost.dateParse (.str options.signingTime) = some signedAt)
    (ordered : createdAt ≤ signedAt)
    (received : JsValue.Reordered signed.toJson.toJs wire)
    (sameKey : keyBuffer others.key = keyBuffer options.key)
    (expected : ∀ keyId, others.expectedKeyId = some keyId →
      keyId = "" ∨ options.keyId = some keyId)
    (inTime : ((others.now - signedAt).natAbs : Int) ≤ others.maxAgeMs.getD maxSignatureAgeMs) :
    verifyControlMutationSignature wire others = .ok true := by
  obtain ⟨fields, keyId, key, canonical, rfl, named, keyed, written, rfl⟩ :=
    signControlMutation_ok distinct answered
  generalize isText : String.ofList (Base64.encode
    (MutationHost.hmacSha256 key canonical).val) = text at *
  have distinctSigned := @setMember_namesDistinct "signature" _ _ distinct
    (signatureOf_namesDistinct keyId options.signingTime text)
  have isSignature :=
    @member_setMember "signature" (signatureOf keyId options.signingTime text) fields
  have distinctRead := JsValue.namesDistinct_written _ distinctSigned
  have sameText := controlMutationCanonical_wire distinctSigned isSignature received
  have creationKept : wire.member "created_at" = .str created := by
    have before := (@member_setMember_ne "signature"
      (signatureOf keyId options.signingTime text) fields "created_at" (by decide)).trans creation
    have read := JsValue.member_written distinctSigned before rfl
    exact (received.member "created_at" distinctRead).eq_of_str read
  have found := received.member "signature" distinctRead
  rw [JsValue.member_written distinctSigned isSignature (signatureOf_written _ _ _)] at found
  have inside : ∀ name text', (signatureOf keyId options.signingTime text).member name =
      .str text' → (wire.member "signature").member name = .str text' :=
    fun name text' isMember => (found.member name (signatureOf_namesDistinct _ _ _)).eq_of_str
      isMember
  have algorithm := inside "algorithm" "hmac-sha256" (by simp [signatureOf, JsValue.member])
  have keyName := inside "key_id" keyId (by simp [signatureOf, JsValue.member])
  have time := inside "signed_at" options.signingTime (by simp [signatureOf, JsValue.member])
  have proof := inside "value" text (by simp [signatureOf, JsValue.member])
  have admitted : others.admitsKeyId (.str keyId) = true := by
    unfold VerifyOptions.admitsKeyId
    cases asked : others.expectedKeyId with
    | none => rfl
    | some wanted =>
        rcases expected wanted asked with rfl | same
        · simp
        · rw [named] at same
          cases same
          simp [JsValue.text?]
  have windowed : others.inWindow (.str options.signingTime) (.str created) = true := by
    simp only [VerifyOptions.inWindow, isSigning, isCreation, Bool.and_eq_true,
      decide_eq_true_eq]
    exact ⟨ordered, inTime⟩
  have decoded : Base64.decode (chars text) = (MutationHost.hmacSha256 key canonical).val := by
    rw [← isText, chars_eq_toList, String.toList_ofList, Base64.decode_encode]
  simp only [verifyControlMutationSignature, algorithm, keyName, time, proof, creationKept,
    JsValue.text?, admitted, windowed, sameKey, keyed, sameText, written, Except.bind, Except.map,
    decoded, decide_true, Bool.and_self, if_true, beq_self_eq_true]

end Sign

/-! ### What changes a signature does not bear -/

section Bind

variable {document other : JsValue}

/-- Where the text of a stripped canonical form determines it, the canonical form of documents
determines them up to the order of members. -/
theorem canonical_eq_iff_of_determined (parsed : document.IsParsed) (signed : document.IsSigned)
    (parsed' : other.IsParsed) (signed' : other.IsSigned)
    (determined : document.stripped.canonicalValue.toJson = other.stripped.canonicalValue.toJson →
      document.stripped.canonicalValue = other.stripped.canonicalValue) :
    controlMutationCanonical document = controlMutationCanonical other ↔
      JsValue.Reordered document.stripped other.stripped := by
  have defined : ∀ value : JsValue, value.IsParsed → .undefined ∉ value.stripped.leaves :=
    fun value parsed inside => parsed.defined (value.leaves_stripped_subset inside)
  rw [JsValue.controlMutationCanonical_eq_iff parsed.distinct signed parsed'.distinct signed',
    ← JsValue.canonicalValue_eq_iff (JsValue.stripped_namesDistinct parsed.distinct)
      (JsValue.stripped_namesDistinct parsed'.distinct) (defined _ parsed) (defined _ parsed')]
  exact ⟨determined, congrArg JsValue.toJson⟩

theorem leaves_canonicalValue (parsed : document.IsParsed) :
    document.stripped.leaves.Perm document.stripped.canonicalValue.leaves :=
  (JsValue.reordered_canonicalValue _ (JsValue.stripped_namesDistinct parsed.distinct)
    fun inside => parsed.defined (document.leaves_stripped_subset inside)).leaves_perm

/-- A document in which nothing that is covered is written as null is told by its canonical
form from every other document. -/
theorem canonical_eq_iff_of_solid (parsed : document.IsParsed) (signed : document.IsSigned)
    (solid : document.stripped.IsSolid)
    (parsed' : other.IsParsed) (signed' : other.IsSigned) :
    controlMutationCanonical document = controlMutationCanonical other ↔
      JsValue.Reordered document.stripped other.stripped := by
  refine canonical_eq_iff_of_determined parsed signed parsed' signed' fun same => ?_
  refine JsValue.eq_of_toJson_eq (fun leaf inside => ?_) (fun inside => ?_) same
  · exact solid leaf ((leaves_canonicalValue parsed).mem_iff.mpr inside)
  · exact parsed'.defined (other.leaves_stripped_subset
      ((leaves_canonicalValue parsed').mem_iff.mpr inside))

/-- The covered numbers of a document are finite. -/
def JsValue.IsFinite (document : JsValue) : Prop :=
  ∀ number, .nonFinite number ∉ document.stripped.leaves

/-- Documents of finite numbers are told apart by their canonical forms. -/
theorem canonical_eq_iff_of_finite (parsed : document.IsParsed) (signed : document.IsSigned)
    (finite : document.IsFinite) (parsed' : other.IsParsed) (signed' : other.IsSigned)
    (finite' : other.IsFinite) :
    controlMutationCanonical document = controlMutationCanonical other ↔
      JsValue.Reordered document.stripped other.stripped := by
  have stable : ∀ value : JsValue, value.IsParsed → value.IsFinite →
      value.stripped.canonicalValue.toJson.toJs = value.stripped.canonicalValue := by
    intro value parsed finite
    refine JsValue.toJs_toJson _ fun leaf inside => ?_
    have before := (leaves_canonicalValue parsed).mem_iff.mpr inside
    cases leaf with
    | undefined => exact absurd (value.leaves_stripped_subset before) parsed.defined
    | nonFinite number => exact absurd before (finite number)
    | null => rfl
    | _ =>
        refine (JsValue.leaf_of_mem_leaves _ inside).resolve_left ?_
        simp [JsValue.readsAsNull]
  refine canonical_eq_iff_of_determined parsed signed parsed' signed' fun same => ?_
  rw [← stable document parsed finite, same, stable other parsed' finite']

/-- What an accepted document shows: a signature over its canonical form. -/
theorem verify_ok [MutationHost] {options : VerifyOptions}
    (accepted : verifyControlMutationSignature document options = .ok true) :
    ∃ text key canonical, ((document.member "signature").member "value").text? = some text ∧
      keyBuffer options.key = .ok key ∧ controlMutationCanonical document = .ok canonical ∧
      Base64.decode (chars text) = (MutationHost.hmacSha256 key canonical).val := by
  unfold verifyControlMutationSignature at accepted
  simp only at accepted
  split at accepted
  · rename_i algorithm text _ isText
    split at accepted
    · cases keyed : keyBuffer options.key with
      | error error => simp [keyed, Except.bind] at accepted
      | ok key =>
          cases written : controlMutationCanonical document with
          | error error => simp [keyed, written, Except.bind, Except.map] at accepted
          | ok canonical =>
              simp only [keyed, written, Except.bind, Except.map, Except.ok.injEq,
                beq_iff_eq] at accepted
              exact ⟨text, key, canonical, isText, rfl, rfl, accepted⟩
    · cases accepted
  · cases accepted

/-- A document whose canonical form tells it from all others is bound by its signature. -/
theorem bindsWhole_of_canonical [MutationHost]
    (canonical : ∀ other : JsValue, other.IsParsed → other.IsSigned →
      (controlMutationCanonical document = controlMutationCanonical other ↔
        JsValue.Reordered document.stripped other.stripped)) : BindsWhole document where
  canonical := canonical
  unforgeable other options others parsed signed sameKey accepted accepted' sameValue
      collisionFree := by
    obtain ⟨text, key, form, isText, keyed, written, decoded⟩ := verify_ok accepted
    obtain ⟨text', key', form', isText', keyed', written', decoded'⟩ := verify_ok accepted'
    rw [sameValue, isText] at isText'
    cases isText'
    rw [← sameKey, keyed] at keyed'
    cases keyed'
    have digests := Subtype.ext (decoded.symm.trans decoded')
    have forms := collisionFree key form form' keyed written written' digests
    refine (canonical other parsed signed).mp ?_
    rw [written, written', forms]

/-- A stripped document with another value for its nulls. -/
theorem stripped_forNulls (value : JsValue) (fields : List (String × JsValue))
    (inner : ∀ field ∈ fields, field.1 = "signature" → ∃ members, field.2 = .obj members) :
    (value.forNulls (.obj fields)).stripped = value.forNulls (JsValue.obj fields).stripped := by
  rw [JsValue.forNulls, JsValue.stripped, JsValue.stripped, JsValue.forNulls,
    JsValue.fieldsForNulls_eq_map, JsValue.fieldsForNulls_eq_map, List.map_map, List.map_map]
  congr 1
  refine List.map_congr_left fun field member => ?_
  by_cases here : field.1 = "signature"
  · obtain ⟨members, isObject⟩ := inner field member here
    simp only [Function.comp_apply, here, if_true, isObject]
    rw [JsValue.forNulls_select]
  · simp only [Function.comp_apply, here, if_false]

/-- A document with a covered value that is written as null has a twin: another document with
the same canonical form. -/
theorem exists_twin (parsed : document.IsParsed) (signed : document.IsSigned) {leaf : JsValue}
    (inside : leaf ∈ document.stripped.leaves) (null : leaf.readsAsNull = true) :
    ∃ other : JsValue, other.IsParsed ∧ other.IsSigned ∧
      controlMutationCanonical document = controlMutationCanonical other ∧
      ¬JsValue.Reordered document.stripped other.stripped := by
  have defined : .undefined ∉ document.stripped.leaves :=
    fun within => parsed.defined (document.leaves_stripped_subset within)
  have apart := JsValue.not_reordered_forNulls defined inside null
  have stands := document.stripped.standIn_standsIn
  generalize document.stripped.standIn = value at apart stands
  obtain ⟨fields, members, rfl, isSignature⟩ := signed
  have stored : ("signature", JsValue.obj members) ∈ fields :=
    (member_eq_iff parsed.distinct.1 rfl).mp isSignature
  have inner : ∀ field ∈ fields, field.1 = "signature" → ∃ members, field.2 = .obj members := by
    intro field member here
    have same : field = ("signature", .obj members) :=
      parsed.distinct.1.eq_of_key_eq member stored here
    exact ⟨members, by rw [same]⟩
  have twin := (parsed.forNulls stands).1
  have signedTwin : (value.forNulls (.obj fields)).IsSigned := by
    refine ⟨value.fieldsForNulls fields, value.fieldsForNulls members, by rw [JsValue.forNulls], ?_⟩
    have distinctTwin := twin.distinct
    rw [JsValue.forNulls] at distinctTwin ⊢
    refine (member_eq_iff distinctTwin.1 rfl).mpr ?_
    rw [JsValue.fieldsForNulls_eq_map]
    exact List.mem_map.mpr ⟨_, stored, by rw [JsValue.forNulls]⟩
  have present : value.isUndefined = false := by
    cases value <;> first | rfl | exact absurd rfl stands.present
  refine ⟨value.forNulls (.obj fields), twin, signedTwin, ?_, ?_⟩
  · have distinctStripped := JsValue.stripped_namesDistinct parsed.distinct
    rw [JsValue.controlMutationCanonical_eq_iff parsed.distinct ⟨fields, members, rfl, isSignature⟩
        twin.distinct signedTwin,
      JsValue.toJson_canonicalValue _ distinctStripped,
      JsValue.toJson_canonicalValue _ (JsValue.stripped_namesDistinct twin.distinct),
      stripped_forNulls value fields inner, JsValue.toJson_forNulls stands.written present _ defined]
  · rw [stripped_forNulls value fields inner]
    exact apart

end Bind

/-- A signed mutation is accepted behind the wire with the same key at every time of the window.
Canonical forms tell apart documents of finite numbers. A signature binds the whole of a document
if and only if no covered value of it is written as null: a null of the document can be exchanged
for a number beyond the range of a double, and such a number for null. -/
theorem control_mutations_bound_iff [MutationHost] :
    (∀ (value signed wire : JsValue) (options : SignOptions) (others : VerifyOptions)
      (created : String) (createdAt signedAt : Int), value.NamesDistinct →
      signControlMutation value options = .ok signed →
      value.member "created_at" = .str created →
      MutationHost.dateParse (.str created) = some createdAt →
      MutationHost.dateParse (.str options.signingTime) = some signedAt →
      createdAt ≤ signedAt →
      JsValue.Reordered signed.toJson.toJs wire →
      keyBuffer others.key = keyBuffer options.key →
      (∀ keyId, others.expectedKeyId = some keyId → keyId = "" ∨ options.keyId = some keyId) →
      ((others.now - signedAt).natAbs : Int) ≤ others.maxAgeMs.getD maxSignatureAgeMs →
      verifyControlMutationSignature wire others = .ok true) ∧
    (∀ document other : JsValue, document.IsParsed → document.IsSigned → document.IsFinite →
      other.IsParsed → other.IsSigned → other.IsFinite →
      (controlMutationCanonical document = controlMutationCanonical other ↔
        JsValue.Reordered document.stripped other.stripped)) ∧
    ∀ document : JsValue, document.IsParsed → document.IsSigned →
      (BindsWhole document ↔ document.stripped.IsSolid) := by
  refine ⟨?_, ?_, ?_⟩
  · intro value signed wire options others created createdAt signedAt distinct answered creation
      isCreation isSigning ordered received sameKey expected inTime
    exact verify_of_sign distinct answered creation isCreation isSigning ordered received sameKey
      expected inTime
  · intro document other parsed signed finite parsed' signed' finite'
    exact canonical_eq_iff_of_finite parsed signed finite parsed' signed' finite'
  · intro document parsed signed
    constructor
    · intro binds leaf inside
      rw [← Bool.not_eq_true]
      intro null
      obtain ⟨other, parsed', signed', same, apart⟩ := exists_twin parsed signed inside null
      exact apart ((binds.canonical other parsed' signed').mp same)
    · intro solid
      exact bindsWhole_of_canonical fun other parsed' signed' =>
        canonical_eq_iff_of_solid parsed signed solid parsed' signed'

/-- The digest that the sample mutation needs, as the real function gives it, and one instant. -/
@[reducible] def MutationHost.sample : MutationHost where
  hmacSha256 key canonical :=
    if key = "ebbfc2a43563b0ac4070b978cfadff67950f9511b58b11476b5d1982e60a76da" ∧
        String.ofList canonical = "\x7b\"created_at\":\"2026-07-18T00:00:00.000Z\"," ++
          "\"sequence\":1,\"signature\":\x7b\"algorithm\":\"hmac-sha256\"," ++
          "\"key_id\":\"server-1\",\"signed_at\":\"2026-07-18T00:00:00.000Z\"\x7d\x7d" then
      ⟨[67, 89, 52, 18, 29, 37, 78, 248, 205, 84, 255, 80, 9, 27, 130, 183, 202, 183, 235, 35, 93,
      167, 199, 248, 219, 98, 222, 238, 236, 19, 76, 21], rfl⟩
    else ⟨List.replicate 32 0, rfl⟩
  dateParse value :=
    if value.text? = some "2026-07-18T00:00:00.000Z" then some 1784332800000 else none

section Sample

attribute [local instance] MutationHost.sample

/-- A mutation before it is signed, with a member that is undefined. -/
def sampleMutation : JsValue :=
  .obj [("created_at", .str "2026-07-18T00:00:00.000Z"), ("sequence", .num 1),
    ("trace", .undefined)]

/-- The key of the server. -/
def sampleSigningKey : KeyOptions :=
  { keyHash := some "ebbfc2a43563b0ac4070b978cfadff67950f9511b58b11476b5d1982e60a76da", token := none }

/-- The options of the signer. -/
def sampleSignOptions : SignOptions :=
  { key := sampleSigningKey, keyId := some "server-1"
    signedAt := some "2026-07-18T00:00:00.000Z", now := 1784332800000 }

/-- The options of a reader, at the end of the window. -/
def sampleVerifyOptions : VerifyOptions :=
  { key := sampleSigningKey, expectedKeyId := some "server-1", now := 1784333100000
    maxAgeMs := none }

/-- The signed mutation. -/
def sampleSignedMutation : JsValue :=
  .obj [("created_at", .str "2026-07-18T00:00:00.000Z"), ("sequence", .num 1),
    ("trace", .undefined),
    ("signature", signatureOf "server-1" "2026-07-18T00:00:00.000Z"
      "Q1k0Eh0lTvjNVP9QCRuCt8q36yNdp8f422Le7uwTTBU")]

theorem sampleMutation_signed :
    signControlMutation sampleMutation sampleSignOptions = .ok sampleSignedMutation := by
  have keyed : keyBuffer sampleSigningKey =
      .ok "ebbfc2a43563b0ac4070b978cfadff67950f9511b58b11476b5d1982e60a76da" := by
    decide +kernel
  obtain ⟨canonical, written, encoded⟩ : ∃ canonical,
      controlMutationCanonical (.obj (setMember "signature"
        (signatureOf "server-1" "2026-07-18T00:00:00.000Z" "pending-control-signature")
        [("created_at", .str "2026-07-18T00:00:00.000Z"), ("sequence", .num 1),
          ("trace", .undefined)])) = .ok canonical ∧
      String.ofList (Base64.encode (MutationHost.hmacSha256
        "ebbfc2a43563b0ac4070b978cfadff67950f9511b58b11476b5d1982e60a76da" canonical).val) =
          "Q1k0Eh0lTvjNVP9QCRuCt8q36yNdp8f422Le7uwTTBU" :=
    ⟨_, rfl, by decide +kernel⟩
  simp only [signControlMutation, sampleMutation, sampleSignOptions, SignOptions.signingTime,
    Option.getD_some, keyed, written, Except.bind, Except.map, encoded]
  rfl

/-- The signed mutation is accepted at the end of the window. -/
theorem control_mutations_bound_iff_sample :
    verifyControlMutationSignature sampleSignedMutation.toJson.toJs sampleVerifyOptions =
      .ok true :=
  control_mutations_bound_iff.1 sampleMutation sampleSignedMutation _ sampleSignOptions
    sampleVerifyOptions "2026-07-18T00:00:00.000Z" 1784332800000 1784332800000
    ⟨by unfold Keyed; decide, trivial, trivial, trivial, trivial⟩ sampleMutation_signed rfl rfl rfl
    (le_refl _) (.refl _) rfl (fun _ same => .inr same) (by decide)

end Sample

/-- A document with a null. -/
def sampleDocument (target : JsValue) : JsValue :=
  .obj [("created_at", .str "2026-07-18T00:00:00.000Z"), ("target_instance_id", target),
    ("signature", signatureOf "server-1" "2026-07-18T00:00:00.000Z" "signature")]

/-- The documents of the texts `null` and `1e999` for a member are not the same, and whatever
signature is accepted for one of them is accepted for the other. -/
theorem infinity_accepted_for_null :
    controlMutationCanonical (sampleDocument .null) =
        controlMutationCanonical (sampleDocument (.nonFinite .infinity)) ∧
      ¬JsValue.Reordered (sampleDocument .null).stripped
        (sampleDocument (.nonFinite .infinity)).stripped ∧
      ∀ (_ : MutationHost) (options : VerifyOptions),
        verifyControlMutationSignature (sampleDocument .null) options =
          verifyControlMutationSignature (sampleDocument (.nonFinite .infinity)) options := by
  have same : controlMutationCanonical (sampleDocument .null) =
      controlMutationCanonical (sampleDocument (.nonFinite .infinity)) := by
    decide +kernel
  refine ⟨same, ?_, ?_⟩
  · intro reordered
    have moved := reordered.leaves_perm
    have inside : JsValue.null ∈ (sampleDocument .null).stripped.leaves := by
      simp [sampleDocument, JsValue.stripped, JsValue.leaves, JsValue.fieldLeaves]
    have found := moved.mem_iff.mp inside
    revert found
    simp [sampleDocument, JsValue.stripped, JsValue.leaves, JsValue.fieldLeaves, signatureOf,
      JsValue.select, coveredNames]
  · intro _ options
    unfold verifyControlMutationSignature
    rw [same]
    rfl

end BairuiPlatform
