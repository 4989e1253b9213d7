/-
Module: BairuiPlatform.Supervisor.Configuration
Purpose: The files that the supervisor makes of a configuration command, and what owners may
change of them.
Trusted boundary: the YAML library
Main exports: configurationValues, stagedFiles, disabledSkills, userContent
-/
import BairuiPlatform.Foundations.Files
import BairuiPlatform.Foundations.Transaction
import BairuiPlatform.JsReader
import BairuiPlatform.Supervisor.Identity
import BairuiPlatform.Supervisor.Management

namespace BairuiPlatform.Supervisor

open Foundations

/-! ### Values of commands -/

/-- `value?.name`. -/
def memberOf (value : Option JsData) (name : String) : Option JsData :=
  value.bind fun value => value.member name

/-- `value ?? undefined`: neither undefined nor null. -/
def given (value : Option JsData) : Option JsData :=
  JsData.orElse value none

/-- `String(value ?? "")`. -/
def jsonText (value : Option JsData) : Except SupervisorError JsText :=
  stringOf (JsData.orElse value (some (.str [])))

/-- `identifier`, of a value of a command. -/
def identifierOf (value : Option JsData) (name : String) : Except SupervisorError JsText :=
  identifier (value.bind JsData.text?) name

/-- `commandAgentId`. -/
def commandAgentId (command : JsData) : Except SupervisorError JsText :=
  identifierOf (JsData.orElse (memberOf (command.member "arguments") "agent_id")
    (memberOf (command.member "placement") "agent_id")) "agent_id"

/-- `machineSecret`, of a value of a command. -/
def machineSecretOf (value : Option JsData) (name : String) : Except SupervisorError JsText :=
  (jsonText value).bind fun text => machineSecret (some text) (utf16 name)

/-! ### The values of a configuration -/

/-- Variables as `configurationValues` lists them. -/
abbrev Variables := List (JsText × Option JsData)

/-- What `configurationValues` returns. -/
structure ConfigurationValues where
  hermes : Variables
  dashboard : Variables
  runtime : Variables
  soul : JsText
  agentControlToken : JsText

/-- A variable whose value is a text. -/
def textVariable (name : String) (value : JsText) : JsText × Option JsData :=
  (utf16 name, some (.str value))

/-- A variable whose value is taken from the command. -/
def givenVariable (name : String) (value : Option JsData) : JsText × Option JsData :=
  (utf16 name, value)

/-- The reference to the workspace that a command gives, or the one of its user and agent. -/
def workspaceRefOf (command : JsData) : Except SupervisorError JsText :=
  let placement := command.member "placement"
  match given (memberOf placement "workspace_ref") <|>
      given (memberOf (command.member "arguments") "workspace_ref") <|>
      given (memberOf (memberOf (memberOf (command.member "config") "document") "runtime")
        "workspace_ref") with
  | some value => stringOf (some value)
  | none => do
      let organizationId ← stringOf (memberOf placement "organization_id")
      let userId ← stringOf (memberOf placement "user_id")
      let agentId ← stringOf (memberOf placement "agent_id")
      return utf16 "hermes:" ++ organizationId ++ utf16 ":" ++ userId ++ utf16 ":" ++ agentId

/-- What a supervisor puts into the variables of every runtime. -/
structure SupervisorSettings where
  platformUrl : Option JsData

/-- The variables of a runtime. -/
def runtimeVariables (settings : SupervisorSettings) (command : JsData) (names : Names)
    (hermesApiKey runtimeSecret dashboardPassword workspaceId agentControlToken : JsText) :
    Variables :=
  let placement := command.member "placement"
  [textVariable "HERMES_API_URL" (utf16 "http://" ++ names.hermes ++ utf16 ":8642"),
    textVariable "HERMES_MANAGEMENT_URL" (utf16 "http://" ++ names.dashboard ++ utf16 ":9119"),
    textVariable "HERMES_API_SERVER_KEY" hermesApiKey,
    textVariable "HERMES_DASHBOARD_USERNAME" (utf16 "bairui-runtime"),
    textVariable "HERMES_DASHBOARD_PASSWORD" dashboardPassword,
    textVariable "BAIRUI_HERMES_DATA_PATH" (utf16 "/opt/data"),
    textVariable "BAIRUI_RUNTIME_SHARED_SECRET" runtimeSecret,
    givenVariable "BAIRUI_PLATFORM_URL" settings.platformUrl,
    givenVariable "BAIRUI_ORGANIZATION_ID" (memberOf placement "organization_id"),
    givenVariable "BAIRUI_USER_ID" (memberOf placement "user_id"),
    givenVariable "BAIRUI_AGENT_ID" (memberOf placement "agent_id"),
    givenVariable "BAIRUI_RUNTIME_ID" (memberOf placement "runtime_id"),
    textVariable "BAIRUI_WORKSPACE_ID" workspaceId,
    givenVariable "BAIRUI_CONFIG_REVISION_ID"
      (memberOf (command.member "arguments") "config_revision_id"),
    textVariable "BAIRUI_AGENT_CONTROL_TOKEN" agentControlToken,
    textVariable "BAIRUI_RUNTIME_HOST" (utf16 "0.0.0.0"),
    textVariable "BAIRUI_RUNTIME_PORT" (utf16 "8787")]

/-- `configurationValues`. -/
def configurationValues (settings : SupervisorSettings) (command : JsData) (names : Names) :
    Except SupervisorError ConfigurationValues := do
  let document := memberOf (command.member "config") "document"
  let secrets := memberOf (command.member "config") "secrets"
  let incomplete : SupervisorError :=
    { message := utf16 "Configuration command bundle is incomplete"
      code := "invalid_config_bundle" }
  if !document.any JsData.isTruthy || !secrets.any JsData.isTruthy then .error incomplete
  else
    let agentId ← commandAgentId command
    if (memberOf (command.member "placement") "agent_id").bind JsData.text? ≠ some agentId then
      .error incomplete
    else
      let provider := memberOf document "provider"
      let hermesApiKey ← machineSecretOf (memberOf secrets "hermes_api_server_key")
        "hermes_api_server_key"
      let runtimeSecret ← machineSecretOf (memberOf secrets "runtime_shared_secret")
        "runtime_shared_secret"
      let agentControlToken ← machineSecretOf (memberOf secrets "agent_control_token")
        "agent_control_token"
      let dashboardPassword := derivedSecret hermesApiKey "hermes-dashboard-password"
      let dashboardSecret := derivedSecret runtimeSecret "hermes-dashboard-session"
      let workspaceRef ← workspaceRefOf command
      let workspaceId ← workspaceIdFromRef (some workspaceRef)
      let soul ← jsonText (memberOf (memberOf document "agent") "soul_markdown")
      return {
        hermes := [textVariable "API_SERVER_ENABLED" (utf16 "true"),
          textVariable "API_SERVER_HOST" (utf16 "0.0.0.0"),
          textVariable "API_SERVER_KEY" hermesApiKey,
          givenVariable "OPENAI_API_KEY" (memberOf secrets "provider_api_key"),
          givenVariable "OPENAI_BASE_URL" (memberOf provider "base_url"),
          givenVariable "MODEL" (memberOf provider "model")]
        dashboard := [textVariable "HERMES_HOME" (utf16 "/opt/data"),
          textVariable "HERMES_DASHBOARD_BASIC_AUTH_USERNAME" (utf16 "bairui-runtime"),
          textVariable "HERMES_DASHBOARD_BASIC_AUTH_PASSWORD" dashboardPassword,
          textVariable "HERMES_DASHBOARD_BASIC_AUTH_SECRET" dashboardSecret,
          textVariable "HERMES_DASHBOARD_BASIC_AUTH_TTL_SECONDS" (utf16 "43200")]
        runtime := runtimeVariables settings command names hermesApiKey runtimeSecret
          dashboardPassword workspaceId agentControlToken
        soul := soul
        agentControlToken := agentControlToken }

/-- `envFile`, of variables whose values are not yet texts. -/
def envFileOf (values : Variables) : Except SupervisorError JsText :=
  (values.mapM fun entry =>
    (jsonText entry.2).bind fun text =>
      (envValue (some text) entry.1).map fun value => envLine (entry.1, value)).map
        fun lines => [10].intercalate lines ++ [10]

/-! ### The files of an agent -/

/-- The configuration files of an agent. -/
inductive ConfigFile where
  | hermesEnv
  | dashboardEnv
  | runtimeEnv
  | soul
  | controlToken
  | skills
  deriving DecidableEq

/-- The files of `applyConfiguration`, in its order. -/
def ConfigFile.applied : List ConfigFile :=
  [.hermesEnv, .dashboardEnv, .runtimeEnv, .soul, .controlToken]

/-- The configuration files, each with its text as it is read back. -/
abbrev ConfigFiles := Files ConfigFile JsText

/-- The files that `stageConfiguration` makes of a command. -/
def stagedFiles (settings : SupervisorSettings) (command : JsData) (names : Names) :
    Except SupervisorError ConfigFiles := do
  let values ← configurationValues settings command names
  let hermes ← envFileOf values.hermes
  let dashboard ← envFileOf values.dashboard
  let runtime ← envFileOf values.runtime
  return fun
    | .hermesEnv => some hermes.toWellFormed
    | .dashboardEnv => some dashboard.toWellFormed
    | .runtimeEnv => some runtime.toWellFormed
    | .soul => some values.soul.toWellFormed
    | .controlToken => some values.agentControlToken.toWellFormed
    | .skills => none

/-! ### What owners change -/

/-- What `document.get("skills", true)` finds in a document. -/
inductive SkillsNode where
  | absent
  | map
  | other

/-- What the supervisor calls of the YAML library: `parseDocument`, with nothing where it throws,
`document.errors.length`, `document.get`, `document.setIn(["skills", "disabled"], disabled)` with
nothing where it throws, and `String(document)`. -/
class YamlHost where
  Document : Type
  parseDocument : JsText → Option Document
  hasErrors : Document → Bool
  skillsNode : Document → SkillsNode
  setDisabled : Document → List JsText → Option Document
  text : Document → JsText

/-- The text matches `SKILL_ID`. -/
def isSkillId : JsText → Bool
  | first :: rest =>
      isLetterOrDigit first && rest.length ≤ 199 &&
        rest.all fun unit => isLetterOrDigit unit || (utf16 "._:/-").contains unit
  | [] => false

/-- The items of an array that are all texts. -/
def textItems (items : List JsData) : Option (List JsText) :=
  items.mapM JsData.text?

/-- `disabledSkills` of a document of an owner. -/
def disabledSkills (configDocument : JsData) : Except SupervisorError (List JsText) :=
  if configDocument.isObject then
    (ownerChange configDocument "skills").bind fun _ =>
      let skills := (given (configDocument.member "skills")).getD
        (.obj [(utf16 "disabled", .arr [])])
      match skills.member "disabled" with
      | some (.arr disabled) =>
          if !skills.isObject || !hasOnly skills ["disabled"] || disabled.length > 500 then
            .error (invalidScope "Skill preference structure is invalid")
          else
            match textItems disabled with
            | none => .error (invalidScope "Skill identifier is invalid")
            | some values =>
                if values.all isSkillId then .ok (values.eraseDups.mergeSort (· ≤ ·))
                else .error (invalidScope "Skill identifier is invalid")
      | _ => .error (invalidScope "Skill preference structure is invalid")
  else .error (invalidScope "Skill configuration document is invalid")

def invalidHermesConfig (message : String) : SupervisorError :=
  { message := utf16 message, code := "invalid_hermes_config" }

/-- What `mergeSkillConfiguration` writes over a file. -/
def mergedSkills [YamlHost] (file : Option JsText) (disabled : List JsText) :
    Except SupervisorError JsText :=
  match YamlHost.parseDocument (file.getD (utf16 "{}\n")) with
  | none => .error (invalidHermesConfig "Hermes configuration cannot be parsed")
  | some document =>
      if YamlHost.hasErrors document then
        .error (invalidHermesConfig "Hermes configuration contains YAML errors")
      else
        match YamlHost.skillsNode document with
        | .other => .error (invalidHermesConfig "Hermes skills configuration is not a map")
        | _ =>
            match YamlHost.setDisabled document disabled with
            | none => .error (typeError "Expected YAML collection")
            | some changed => .ok (YamlHost.text changed)

/-- The parts of a configuration that an owner may change. -/
inductive OwnerScope where
  | skills
  | identity
  deriving DecidableEq

/-- The scope that a command names. -/
def ownerScope (command : JsData) : Except SupervisorError OwnerScope :=
  let change := memberOf (memberOf (command.member "config") "document") "owner_change"
  let scope := (memberOf change "scope").bind JsData.text?
  if scope = some (utf16 "skills") then .ok .skills
  else if scope = some (utf16 "identity") then .ok .identity
  else .error (invalidScope "Owner configuration scope is invalid")

/-- The file of a scope. -/
def OwnerScope.file : OwnerScope → ConfigFile
  | .skills => .skills
  | .identity => .soul

/-- What is written over the file of a scope, and the evidence of it. -/
structure OwnerContent where
  content : JsText
  digest : JsText

/-- What a command of an owner writes over the file of its scope. -/
def ownerContent [YamlHost] (command : JsData) (agentId : JsText) (scope : OwnerScope)
    (file : Option JsText) : Except SupervisorError OwnerContent :=
  let document := (memberOf (command.member "config") "document").getD .null
  match scope with
  | .skills => do
      let disabled ← disabledSkills document
      let merged ← mergedSkills file disabled
      let listed := 91 :: [44].intercalate (disabled.map JsText.quote) ++ [93]
      return { content := merged.toWellFormed
               digest := utf16 "skills-sha256:" ++ hexDigest listed }
  | .identity => do
      let identity ← identityDocument document agentId
      return { content := identity.soulMarkdown.toWellFormed
               digest := utf16 "soul-sha256:" ++ hexDigest identity.soulMarkdown }

/-! ### The variables of a runtime are those that its management needs -/

/-- Variables that were written are texts that were accepted, under the same names. -/
theorem envFileOf_eq_ok {values : Variables} {text : JsText} (written : envFileOf values = .ok text) :
    ∃ entries : List (JsText × JsText), text = fileText entries ∧
      entries.map Prod.fst = values.map Prod.fst ∧ (∀ entry ∈ entries, IsAccepted entry.2) ∧
      ∀ name value, textVariable name value ∈ values → (utf16 name, value) ∈ entries := by
  have lines {lines : List JsText} (mapped : (values.mapM fun entry =>
      (jsonText entry.2).bind fun text =>
        (envValue (some text) entry.1).map fun value => envLine (entry.1, value)) = .ok lines) :
      ∃ entries : List (JsText × JsText), lines = entries.map envLine ∧
        entries.map Prod.fst = values.map Prod.fst ∧ (∀ entry ∈ entries, IsAccepted entry.2) ∧
        ∀ name value, textVariable name value ∈ values → (utf16 name, value) ∈ entries := by
    clear written
    induction values generalizing lines with
    | nil =>
        cases mapped
        exact ⟨[], rfl, rfl, fun _ member => absurd member List.not_mem_nil,
          fun _ _ member => absurd member List.not_mem_nil⟩
    | cons first values ih =>
        rw [List.mapM_cons] at mapped
        obtain ⟨line, isLine, mapped⟩ := bind_eq_ok.mp mapped
        obtain ⟨others, areLines, mapped⟩ := bind_eq_ok.mp mapped
        obtain ⟨entries, rfl, names, accepted, texts⟩ := ih areLines
        obtain ⟨text, isText, isLine⟩ := bind_eq_ok.mp isLine
        cases value : envValue (some text) first.1 with
        | error error =>
            rw [value] at isLine
            cases isLine
        | ok value' =>
            rw [value] at isLine
            obtain ⟨isAccepted, rfl⟩ := envValue_eq_ok.mp value
            cases isLine
            cases mapped
            refine ⟨(first.1, value') :: entries, rfl, ?_, List.forall_mem_cons.mpr
              ⟨isAccepted, accepted⟩, fun name other member => ?_⟩
            · rw [List.map_cons, List.map_cons, names]
            · rcases List.mem_cons.mp member with rfl | later
              · cases isText
                exact List.mem_cons_self
              · exact List.mem_cons_of_mem _ (texts name other later)
  unfold envFileOf at written
  cases mapped : values.mapM fun entry => (jsonText entry.2).bind fun text =>
      (envValue (some text) entry.1).map fun value => envLine (entry.1, value) with
  | error error =>
      rw [mapped] at written
      cases written
  | ok texts =>
      rw [mapped] at written
      cases written
      obtain ⟨entries, rfl, others⟩ := lines mapped
      exact ⟨entries, rfl, others⟩

section Staged

variable {settings : SupervisorSettings} {command : JsData} {staged : ConfigFiles}

/-- The names of the variables of a runtime. -/
def runtimeVariableNames : List JsText :=
  ["HERMES_API_URL", "HERMES_MANAGEMENT_URL", "HERMES_API_SERVER_KEY",
    "HERMES_DASHBOARD_USERNAME", "HERMES_DASHBOARD_PASSWORD", "BAIRUI_HERMES_DATA_PATH",
    "BAIRUI_RUNTIME_SHARED_SECRET", "BAIRUI_PLATFORM_URL", "BAIRUI_ORGANIZATION_ID",
    "BAIRUI_USER_ID", "BAIRUI_AGENT_ID", "BAIRUI_RUNTIME_ID", "BAIRUI_WORKSPACE_ID",
    "BAIRUI_CONFIG_REVISION_ID", "BAIRUI_AGENT_CONTROL_TOKEN", "BAIRUI_RUNTIME_HOST",
    "BAIRUI_RUNTIME_PORT"].map utf16

theorem names_runtimeVariables (names : Names) (hermesApiKey runtimeSecret dashboardPassword
    workspaceId agentControlToken : JsText) :
    (runtimeVariables settings command names hermesApiKey runtimeSecret dashboardPassword
      workspaceId agentControlToken).map Prod.fst = runtimeVariableNames := rfl

/-- The runtime's file of a staged configuration. -/
theorem runtimeEnv_staged {names : Names} (isStaged : stagedFiles settings command names = .ok staged) :
    ∃ hermesApiKey runtimeSecret apiKey reference agentControlToken text,
      envFileOf (runtimeVariables settings command names hermesApiKey runtimeSecret
        (derivedSecret apiKey "hermes-dashboard-password")
        (utf16 "ws_" ++ (hexDigest reference).take 48) agentControlToken) = .ok text ∧
      staged .runtimeEnv = some text.toWellFormed := by
  unfold stagedFiles at isStaged
  obtain ⟨values, isValues, isStaged⟩ := bind_eq_ok.mp isStaged
  obtain ⟨hermes, -, isStaged⟩ := bind_eq_ok.mp isStaged
  obtain ⟨dashboard, -, isStaged⟩ := bind_eq_ok.mp isStaged
  obtain ⟨runtime, isRuntime, isStaged⟩ := bind_eq_ok.mp isStaged
  cases isStaged
  unfold configurationValues at isValues
  dsimp only at isValues
  split at isValues
  · cases isValues
  · obtain ⟨agentId, -, isValues⟩ := bind_eq_ok.mp isValues
    split at isValues
    · cases isValues
    · obtain ⟨hermesApiKey, -, isValues⟩ := bind_eq_ok.mp isValues
      obtain ⟨runtimeSecret, -, isValues⟩ := bind_eq_ok.mp isValues
      obtain ⟨agentControlToken, -, isValues⟩ := bind_eq_ok.mp isValues
      obtain ⟨workspaceRef, -, isValues⟩ := bind_eq_ok.mp isValues
      obtain ⟨workspaceId, isWorkspace, isValues⟩ := bind_eq_ok.mp isValues
      obtain ⟨soul, -, isValues⟩ := bind_eq_ok.mp isValues
      cases isValues
      unfold workspaceIdFromRef at isWorkspace
      cases value : envValue (some workspaceRef) (utf16 "workspace_ref") with
      | error error =>
          rw [value] at isWorkspace
          cases isWorkspace
      | ok reference =>
          rw [value] at isWorkspace
          cases isWorkspace
          exact ⟨_, _, _, _, _, runtime, isRuntime, rfl⟩

/-- What is read of the runtime's file of a staged configuration needs no update. -/
theorem runtimeUpdated_staged {metadata : InstanceMetadata} {management : Management}
    (isStaged : stagedFiles settings command metadata.names = .ok staged)
    (managed : managementOf metadata (readEnvironmentFile (staged .runtimeEnv)) =
      .ok management) :
    management.runtimeUpdated = readEnvironmentFile (staged .runtimeEnv) := by
  obtain ⟨hermesApiKey, runtimeSecret, apiKey, reference, agentControlToken, text, written, same⟩ :=
    runtimeEnv_staged isStaged
  obtain ⟨entries, rfl, names, accepted, texts⟩ := envFileOf_eq_ok written
  have keyed : Keyed Prod.fst entries := by
    unfold Keyed
    rw [names, names_runtimeVariables]
    decide
  have hasNames : HasNames entries := by
    have all : ∀ name ∈ entries.map Prod.fst, isVariableName name = true := by
      rw [names, names_runtimeVariables]
      decide
    exact fun entry member => all entry.1 (List.mem_map_of_mem member)
  have read : (readEnvironmentFile (staged .runtimeEnv)).entries = entries.filterMap readBack := by
    rw [same]
    exact @readEnvironmentFile_fileText ⟨entries, keyed⟩ hasNames accepted
  have kept (name : String) (value : JsText) (plain : IsPlain value)
      (written : textVariable name value ∈ runtimeVariables settings command metadata.names
        hermesApiKey runtimeSecret (derivedSecret apiKey "hermes-dashboard-password")
        (utf16 "ws_" ++ (hexDigest reference).take 48) agentControlToken) :
      (readEnvironmentFile (staged .runtimeEnv)).get? (utf16 name) = some value := by
    rw [OrderedMap.get?_eq_some, read, List.mem_filterMap]
    have member := texts name value written
    exact ⟨_, member, (readBack_eq_self (accepted _ member)).mpr plain⟩
  refine runtimeUpdated_eq_self managed
    (kept "HERMES_MANAGEMENT_URL" _ (isPlain_managementUrl metadata) ?_)
    (kept "HERMES_DASHBOARD_USERNAME" (utf16 "bairui-runtime") (by decide) ?_)
    (kept "HERMES_DASHBOARD_PASSWORD" (derivedSecret apiKey "hermes-dashboard-password")
      (isPlain_of_lt base64Digest_lt) ?_)
    (kept "BAIRUI_HERMES_DATA_PATH" (utf16 "/opt/data") (by decide) ?_)
    (kept "BAIRUI_WORKSPACE_ID" _ (isPlain_workspaceId reference) ?_)
  all_goals
    unfold runtimeVariables
    simp only [List.mem_cons, eq_self, true_or, or_true]

end Staged

end BairuiPlatform.Supervisor
