/-
Module: BairuiPlatform.Supervisor.Instances
Purpose: What the supervisor derives from an agent: the key of its instance, the names of its
containers, and the secrets it shares with them.
Trusted boundary: none
Main exports: identifier, instanceKey, names, derivedSecret, workspaceIdFromRef, InstanceMetadata
-/
import Mathlib.Data.Bool.AllAny
import BairuiPlatform.Foundations.Base64
import BairuiPlatform.Foundations.Sha256
import BairuiPlatform.JsData

namespace BairuiPlatform.Supervisor

open Foundations

/-- An error of the supervisor. -/
structure SupervisorError where
  message : JsText
  code : String
  deriving DecidableEq

/-- An error that the language throws; it has no code. -/
def typeError (message : String) : SupervisorError :=
  { message := utf16 message, code := "" }

/-- `String(value)` of a property that may be missing. -/
def stringOf (value : Option JsData) : Except SupervisorError JsText :=
  match value with
  | none => .ok (utf16 "undefined")
  | some value =>
      match value.text with
      | some text => .ok text
      | none => .error (typeError "Cannot convert object to primitive value")

/-! ### Identifiers and digests -/

def isLetterOrDigit (unit : Nat) : Bool :=
  65 ≤ unit && unit ≤ 90 || 97 ≤ unit && unit ≤ 122 || 48 ≤ unit && unit ≤ 57

/-- The text matches `IDENTIFIER`. -/
def isIdentifier : JsText → Bool
  | first :: rest =>
      isLetterOrDigit first && rest.length ≤ 127 &&
        rest.all fun unit => isLetterOrDigit unit || (utf16 "._:-").contains unit
  | [] => false

/-- `identifier`, of a value that is a text or none. -/
def identifier (value : Option JsText) (name : String) : Except SupervisorError JsText :=
  match value.filter isIdentifier with
  | some value => .ok value
  | none =>
      .error { message := utf16 (name ++ " is invalid"), code := "invalid_supervisor_input" }

/-- `createHash("sha256").update(text, "utf8").digest("hex")`. -/
def hexDigest (text : JsText) : JsText :=
  (chars (sha256 text.characters)).map Char.toNat

/-- The value of a hexadecimal digit in lower case. -/
def hexValue (unit : Nat) : Nat :=
  if unit < 58 then unit - 48 else unit - 87

/-- The bytes of hexadecimal digits. -/
def hexBytes : JsText → List UInt8
  | high :: low :: rest => .ofNat (hexValue high * 16 + hexValue low) :: hexBytes rest
  | _ => []

/-- `createHash("sha256").update(text, "utf8").digest("base64url")`. -/
def base64Digest (text : JsText) : JsText :=
  (Base64.encode (hexBytes (hexDigest text))).map Char.toNat

/-- `derivedSecret`. -/
def derivedSecret (value : JsText) (purpose : String) : JsText :=
  base64Digest (utf16 purpose ++ 0 :: value)

/-- `instanceKey`. -/
def instanceKey (agentId : JsText) : JsText :=
  (hexDigest agentId).take 16

/-! ### Names -/

/-- The network and the containers of an agent. -/
structure Names where
  key : JsText
  network : JsText
  hermes : JsText
  dashboard : JsText
  runtime : JsText
  deriving DecidableEq

/-- `names`. -/
def names (agentId : JsText) : Names :=
  let key := instanceKey agentId
  { key := key
    network := utf16 "bairui-agent-" ++ key
    hermes := utf16 "bairui-hermes-" ++ key
    dashboard := utf16 "bairui-hermes-dashboard-" ++ key
    runtime := utf16 "bairui-runtime-" ++ key }

/-- What `instance.json` says of an agent and its workspace. Only `provision` gives names. -/
structure InstanceMetadata where
  agentId : JsText
  organizationId : Option JsText
  userId : Option JsText
  workspaceRef : Option JsText
  names : Names
  named : names = Supervisor.names agentId

/-! ### The digits of digests -/

/-- A digest is written in ASCII. -/
theorem hexDigest_lt {text : JsText} : ∀ unit ∈ hexDigest text, unit < 128 := by
  intro unit member
  unfold hexDigest at member
  obtain ⟨c, inside, rfl⟩ := List.mem_map.mp member
  unfold sha256 at inside
  rw [chars_eq_toList] at inside
  have all : ∀ c ∈ "0123456789abcdef".toList, c.toNat < 128 :=
    List.all_iff_forall_prop.mp (by decide)
  exact all c (mem_sha256Bytes inside)

theorem base64Digest_lt {text : JsText} : ∀ unit ∈ base64Digest text, unit < 128 := by
  intro unit member
  unfold base64Digest at member
  obtain ⟨c, inside, rfl⟩ := List.mem_map.mp member
  have all : ∀ c ∈ Base64.alphabet, c.toNat < 128 := List.all_iff_forall_prop.mp (by decide)
  exact all c (Base64.mem_alphabet inside)

end BairuiPlatform.Supervisor
