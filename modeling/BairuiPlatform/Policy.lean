/-
Module: BairuiPlatform.Policy
Purpose: The control-plane policy of packages/control-authority/policy.mjs: the
  approval actions, the payload checks, redaction and the request digest.
Trusted boundary: the locale of the database is a parameter
Main exports: Action, Action.requiresApproval, ControlError,
  assertSafeControlPayload, assertOperationalMetadata, redactControlMetadata,
  Host, digestControlValue, bairuiControlJsonIsSafe
-/
import BairuiPlatform.Foundations.Sha256
import BairuiPlatform.Json

namespace BairuiPlatform

/-- The actions that the column `control_commands.action` admits. -/
inductive Action where
  | snapshotCollect
  | deploymentProvision
  | deploymentStart
  | deploymentStop
  | deploymentSuspend
  | deploymentResume
  | deploymentDelete
  | credentialRevoke
  | probeRun
  | contractTest
  | smokeTest
  | upstreamCheck
  | configStage
  | configApply
  | configApplyUser
  | backupCreate
  | backupVerify
  | backupRestore
  | backupExpire
  | releaseStage
  | releaseApply
  | releaseRollback
  | serviceRestart
deriving Repr, Inhabited, DecidableEq

namespace Action

/-- The text of an action. -/
def name : Action → String
  | snapshotCollect => "snapshot.collect"
  | deploymentProvision => "deployment.provision"
  | deploymentStart => "deployment.start"
  | deploymentStop => "deployment.stop"
  | deploymentSuspend => "deployment.suspend"
  | deploymentResume => "deployment.resume"
  | deploymentDelete => "deployment.delete"
  | credentialRevoke => "credential.revoke"
  | probeRun => "probe.run"
  | contractTest => "contract.test"
  | smokeTest => "smoke.test"
  | upstreamCheck => "upstream.check"
  | configStage => "config.stage"
  | configApply => "config.apply"
  | configApplyUser => "config.apply-user"
  | backupCreate => "backup.create"
  | backupVerify => "backup.verify"
  | backupRestore => "backup.restore"
  | backupExpire => "backup.expire"
  | releaseStage => "release.stage"
  | releaseApply => "release.apply"
  | releaseRollback => "release.rollback"
  | serviceRestart => "service.restart"

/-- `APPROVAL_ACTIONS.has(action)`. -/
def requiresApproval : Action → Bool
  | configApply | backupRestore | releaseApply | releaseRollback
  | serviceRestart | deploymentDelete | credentialRevoke => true
  | _ => false

end Action

/-- An error made by `controlError`. -/
structure ControlError where
  code : String
  message : String
  statusCode : Nat
deriving Repr, DecidableEq

/-- `controlError(code, message)` with its default status. -/
def controlError (code message : String) (statusCode : Nat := 400) : ControlError :=
  { code := code, message := message, statusCode := statusCode }

/-! ### Keys and texts that the control plane rejects -/

/-- `FORBIDDEN_KEYS`. -/
def forbiddenKeys : List String :=
  ["prompt", "systemprompt", "chat", "conversation", "conversations", "message",
    "messages", "task", "tasks", "model", "models", "provider", "providers", "tool",
    "tools", "skill", "skills", "memory", "memories", "password", "token",
    "accesstoken", "refreshtoken", "apikey", "accesskey", "secret", "secrets",
    "secretvalue", "secretenvelope", "credential", "credentials", "authorization",
    "shell", "script", "sql"]

/-- An ASCII letter or digit. -/
def isAlphanumeric (c : Char) : Bool :=
  ('a' ≤ c && c ≤ 'z') || ('A' ≤ c && c ≤ 'Z') || ('0' ≤ c && c ≤ '9')

/-- `normalizeKey`: only ASCII letters and digits, in lower case. -/
def normalizeKey (key : String) : String :=
  String.ofList (((chars key).filter isAlphanumeric).map Char.toLower)

/-- `FORBIDDEN_KEYS.has(normalizeKey(key))`. -/
def isForbiddenKey (key : String) : Bool :=
  forbiddenKeys.contains (normalizeKey key)

/-- The class `\s` of JavaScript regular expressions. -/
def isSpace (c : Char) : Bool :=
  let code := c.toNat
  (9 ≤ code && code ≤ 13) || code == 32 || code == 0xA0 || code == 0x1680 ||
    (0x2000 ≤ code && code ≤ 0x200A) || code == 0x2028 || code == 0x2029 ||
    code == 0x202F || code == 0x205F || code == 0x3000 || code == 0xFEFF

/-- An ASCII letter. -/
def isLetter (c : Char) : Bool :=
  ('a' ≤ c && c ≤ 'z') || ('A' ≤ c && c ≤ 'Z')

/-- Drop a literal prefix, ignoring the case of ASCII letters. -/
def dropLiteral : List Char → List Char → Option (List Char)
  | [], rest => some rest
  | _ :: _, [] => none
  | expected :: pattern, c :: rest =>
      if c.toLower = expected.toLower then dropLiteral pattern rest else none

/-- Drop at least one character of a class, and as many as possible. -/
def dropSome (inClass : Char → Bool) (text : List Char) : Option (List Char) :=
  if (text.takeWhile inClass).isEmpty then none else some (text.dropWhile inClass)

/-- `PRIVATE KEY-----` after the spaces, with or without a word before it. -/
def endsPrivateKey (space : Char → Bool) (text : List Char) : Bool :=
  (dropLiteral "PRIVATE KEY-----".toList text).isSome ||
    (match (dropSome isLetter text).bind (dropSome space) with
      | some rest => (dropLiteral "PRIVATE KEY-----".toList rest).isSome
      | none => false)

/-- A text that starts with at least sixteen characters of a class. -/
def startsWithSixteen (inClass : Char → Bool) (text : List Char) : Bool :=
  (text.take 16).length == 16 && (text.take 16).all inClass

/-- The class of a bearer token. -/
def isBearerChar (c : Char) : Bool :=
  isAlphanumeric c || ['.', '_', '~', '+', '/', '=', '-'].contains c

/-- The class of an API key. -/
def isKeyChar (c : Char) : Bool :=
  isAlphanumeric c || c == '_' || c == '-'

/-- `[-_]` and at least sixteen characters of an API key. -/
def endsApiKey : List Char → Bool
  | c :: rest => (c == '-' || c == '_') && startsWithSixteen isKeyChar rest
  | [] => false

/-- `SECRET_TEXT` matches at the start of the text, for one class of spaces. -/
def secretAt (space : Char → Bool) (text : List Char) : Bool :=
  (match (dropLiteral "-----BEGIN".toList text).bind (dropSome space) with
    | some rest => endsPrivateKey space rest
    | none => false) ||
  (match (dropLiteral "Bearer".toList text).bind (dropSome space) with
    | some rest => startsWithSixteen isBearerChar rest
    | none => false) ||
  (match dropLiteral "sk".toList text with
    | some rest => endsApiKey rest
    | none => false) ||
  (match dropLiteral "gh".toList text with
    | some (c :: rest) => ['o', 'p', 'r', 's', 'u'].contains c.toLower && endsApiKey rest
    | _ => false)

/-- `SECRET_TEXT` matches somewhere in the text, for one class of spaces. -/
def secretIn (space : Char → Bool) : List Char → Bool
  | [] => false
  | c :: rest => secretAt space (c :: rest) || secretIn space rest

/-- `SECRET_TEXT.test(text)`. -/
def isSecretText (text : String) : Bool :=
  secretIn isSpace (chars text)

/-! ### `assertSafeControlPayload` -/

mutual

/-- `assertSafeControlPayload`. -/
def assertSafeControlPayload (path : String) : Json → Except ControlError Unit
  | .null | .bool _ | .num _ | .dec _ => .ok ()
  | .str text =>
      if utf16Length text > 4096 then
        .error (controlError "forbidden_field"
          (path ++ " exceeds the control-plane text limit"))
      else if isSecretText text then
        .error (controlError "raw_secret_not_allowed"
          (path ++ " contains secret material"))
      else .ok ()
  | .arr items =>
      if items.length > 1000 then
        .error (controlError "forbidden_field"
          (path ++ " exceeds the control-plane item limit"))
      else assertSafeItems path 0 items
  | .obj fields => assertSafeFields path fields

/-- The items of an array, from one index on. -/
def assertSafeItems (path : String) (index : Nat) :
    List Json → Except ControlError Unit
  | [] => .ok ()
  | item :: items => do
      assertSafeControlPayload (path ++ "[" ++ toString index ++ "]") item
      assertSafeItems path (index + 1) items

/-- The properties of an object, in enumeration order. -/
def assertSafeFields (path : String) :
    List (String × Json) → Except ControlError Unit
  | [] => .ok ()
  | (key, value) :: fields => do
      if isForbiddenKey key then
        throw (controlError "forbidden_field"
          (path ++ "." ++ key ++ " is forbidden in the control plane"))
      assertSafeControlPayload (path ++ "." ++ key) value
      assertSafeFields path fields

end

/-! ### `assertOperationalMetadata` -/

/-- The class `[A-Za-z0-9.:/_-]`. -/
def isIdentifierChar (c : Char) : Bool :=
  isAlphanumeric c || ['.', '_', ':', '/', '-'].contains c

/-- `[A-Za-z0-9][A-Za-z0-9.:/_-]{0,255}`, the whole text. -/
def isIdentifierText : List Char → Bool
  | c :: rest => isAlphanumeric c && rest.length ≤ 255 && rest.all isIdentifierChar
  | [] => false

/-- A lower-case hexadecimal digit. -/
def isHexDigit (c : Char) : Bool :=
  ('0' ≤ c && c ≤ '9') || ('a' ≤ c && c ≤ 'f')

/-- A literal prefix, then the rest of the text. -/
def afterPrefix (lead : String) (text : List Char) : Option (List Char) :=
  if lead.toList.isPrefixOf text then some (text.drop lead.toList.length) else none

/-- `OPERATIONAL_TEXT.test(text)`. -/
def isOperationalText (text : String) : Bool :=
  let characters := chars text
  ["ref:", "id:", "hint:"].any
      (fun lead => ((afterPrefix lead characters).map isIdentifierText).getD false) ||
    ((afterPrefix "sha256:" characters).map
      (fun rest => rest.length == 64 && rest.all isHexDigit)).getD false ||
    isIdentifierText characters

/-- `/^[a-z][a-z0-9_]{0,63}$/`. -/
def isMetadataKey (key : String) : Bool :=
  match chars key with
  | c :: rest =>
      ('a' ≤ c && c ≤ 'z') && rest.length ≤ 63 &&
        rest.all fun d => ('a' ≤ d && d ≤ 'z') || ('0' ≤ d && d ≤ '9') || d == '_'
  | [] => false

mutual

/-- `assertOperationalMetadata`. -/
def assertOperationalMetadata (path : String) (depth : Nat) :
    Json → Except ControlError Unit
  | .arr items => do
      assertSafeControlPayload path (.arr items)
      if depth > 8 then
        throw (controlError "forbidden_field" (path ++ " exceeds the metadata depth limit"))
      if items.length > 100 then
        throw (controlError "forbidden_field" (path ++ " exceeds the metadata item limit"))
      assertOperationalItems path depth 0 items
  | .obj fields => do
      assertSafeControlPayload path (.obj fields)
      if depth > 8 then
        throw (controlError "forbidden_field" (path ++ " exceeds the metadata depth limit"))
      if fields.length > 100 then
        throw (controlError "forbidden_field" (path ++ " exceeds the metadata field limit"))
      assertOperationalFields path depth fields
  | .str text => do
      assertSafeControlPayload path (.str text)
      if depth > 8 then
        throw (controlError "forbidden_field" (path ++ " exceeds the metadata depth limit"))
      if !isOperationalText text then
        throw (controlError "forbidden_field"
          (path ++ " must contain an identifier, digest, timestamp, or opaque reference"))
  | value => do
      assertSafeControlPayload path value
      if depth > 8 then
        throw (controlError "forbidden_field" (path ++ " exceeds the metadata depth limit"))

/-- The items of an array, from one index on. -/
def assertOperationalItems (path : String) (depth index : Nat) :
    List Json → Except ControlError Unit
  | [] => .ok ()
  | item :: items => do
      assertOperationalMetadata (path ++ "[" ++ toString index ++ "]") (depth + 1) item
      assertOperationalItems path depth (index + 1) items

/-- The properties of an object, in enumeration order. -/
def assertOperationalFields (path : String) (depth : Nat) :
    List (String × Json) → Except ControlError Unit
  | [] => .ok ()
  | (key, value) :: fields => do
      if !isMetadataKey key then
        throw (controlError "forbidden_field"
          (path ++ "." ++ key ++ " is not an operational metadata field"))
      assertOperationalMetadata (path ++ "." ++ key) (depth + 1) value
      assertOperationalFields path depth fields

end

/-! ### `redactControlMetadata` -/

mutual

/-- `redactControlMetadata`: the redacted value, and whether anything was
redacted. -/
def redactControlMetadata (depth : Nat) : Json → Json × Bool
  | .arr items =>
      if depth > 8 then (.str "[redacted-depth]", true)
      else
        let output := redactItems depth 100 items
        (.arr output.1, decide (items.length > 100) || output.2)
  | .obj fields =>
      if depth > 8 then (.str "[redacted-depth]", true)
      else
        let output := redactFields depth fields
        (.obj output.1, output.2)
  | .str text =>
      if depth > 8 then (.str "[redacted-depth]", true)
      else if isSecretText text then (.str "[redacted]", true)
      else (.str (slice 512 text), decide (utf16Length text > 512))
  | value => if depth > 8 then (.str "[redacted-depth]", true) else (value, false)

/-- The first items of an array, as many as there is room for. -/
def redactItems (depth : Nat) : Nat → List Json → List Json × Bool
  | _, [] => ([], false)
  | 0, _ => ([], false)
  | room + 1, item :: items =>
      let first := redactControlMetadata (depth + 1) item
      let rest := redactItems depth room items
      (first.1 :: rest.1, first.2 || rest.2)

/-- The properties of an object without the forbidden ones. Assigning the name
`__proto__` makes no property of its own. -/
def redactFields (depth : Nat) :
    List (String × Json) → List (String × Json) × Bool
  | [] => ([], false)
  | (key, value) :: fields =>
      let rest := redactFields depth fields
      if isForbiddenKey key then (rest.1, true)
      else
        let first := redactControlMetadata (depth + 1) value
        if key = "__proto__" then (rest.1, first.2 || rest.2)
        else ((key, first.1) :: rest.1, first.2 || rest.2)

end

/-! ### Digests and the check of the database -/

/-- `digestControlValue`. -/
def digestControlValue (value : Json) : String :=
  Foundations.sha256 value.canonicalize.stringifyChars

/-- What the installation supplies: the characters of the class `[[:space:]]` in the
locale of the database. -/
class Host where
  posixSpace : Char → Bool

/-- The white space of the C locale. -/
@[reducible] def Host.posix : Host :=
  { posixSpace := fun c => [' ', '\t', '\n', '\x0b', '\x0c', '\r'].contains c }

mutual

/-- The SQL function `bairui_control_json_is_safe`. -/
def bairuiControlJsonIsSafe [Host] : Json → Bool
  | .null | .bool _ | .num _ | .dec _ => true
  | .str text =>
      !decide (text.length > 4096) && !secretIn Host.posixSpace (chars text)
  | .arr items => jsonItemsAreSafe items
  | .obj fields => jsonFieldsAreSafe fields

/-- The elements of a `jsonb` array. -/
def jsonItemsAreSafe [Host] : List Json → Bool
  | [] => true
  | item :: items => bairuiControlJsonIsSafe item && jsonItemsAreSafe items

/-- The entries of a `jsonb` object. -/
def jsonFieldsAreSafe [Host] : List (String × Json) → Bool
  | [] => true
  | (key, value) :: fields =>
      !isForbiddenKey key && bairuiControlJsonIsSafe value && jsonFieldsAreSafe fields

end

end BairuiPlatform
