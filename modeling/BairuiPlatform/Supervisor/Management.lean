/-
Module: BairuiPlatform.Supervisor.Management
Purpose: The update of an agent's environment files for the management of its containers.
Trusted boundary: none
Main exports: ensureManagementConfiguration, LawfulEnvironment, environment_lawful_iff
-/
import BairuiPlatform.Foundations.Transaction
import BairuiPlatform.Supervisor.Environment

namespace BairuiPlatform.Supervisor

open Foundations

/-- The environment files that `ensureManagementConfiguration` touches, each with its text as it
is read back. -/
structure EnvironmentFiles where
  runtimeEnv : Option JsText
  dashboardEnv : Option JsText

/-- What the management of an agent needs of its runtime variables. -/
structure Management where
  runtimeUpdated : Environment
  dashboard : Environment

/-- A text in a template. -/
def templateText (value : Option JsText) : JsText :=
  value.getD (utf16 "undefined")

/-- The variables of a dashboard. -/
def dashboardValues (username password secret : JsText) : Environment :=
  ((((OrderedMap.empty.set (utf16 "HERMES_HOME") (utf16 "/opt/data")).set
    (utf16 "HERMES_DASHBOARD_BASIC_AUTH_USERNAME") username).set
    (utf16 "HERMES_DASHBOARD_BASIC_AUTH_PASSWORD") password).set
    (utf16 "HERMES_DASHBOARD_BASIC_AUTH_SECRET") secret).set
    (utf16 "HERMES_DASHBOARD_BASIC_AUTH_TTL_SECONDS") (utf16 "43200")

/-- The part of `ensureManagementConfiguration` before it writes. -/
def managementOf (metadata : InstanceMetadata) (runtimeValues : Environment) :
    Except SupervisorError Management := do
  let apiKey ← machineSecret (runtimeValues.get? (utf16 "HERMES_API_SERVER_KEY"))
    (utf16 "hermes_api_server_key")
  let runtimeSecret ← machineSecret (runtimeValues.get? (utf16 "BAIRUI_RUNTIME_SHARED_SECRET"))
    (utf16 "runtime_shared_secret")
  let organizationId := runtimeValues.get? (utf16 "BAIRUI_ORGANIZATION_ID") <|>
    metadata.organizationId
  let userId := runtimeValues.get? (utf16 "BAIRUI_USER_ID") <|> metadata.userId
  let agentId := runtimeValues.get? (utf16 "BAIRUI_AGENT_ID") <|> some metadata.agentId
  let workspaceRef := runtimeValues.get? (utf16 "BAIRUI_WORKSPACE_REF") <|>
    metadata.workspaceRef <|>
    some (utf16 "hermes:" ++ templateText organizationId ++ utf16 ":" ++ templateText userId ++
      utf16 ":" ++ templateText agentId)
  let dashboardUsername := (runtimeValues.get? (utf16 "HERMES_DASHBOARD_USERNAME")).getD
    (utf16 "bairui-runtime")
  let dashboardPassword := (runtimeValues.get? (utf16 "HERMES_DASHBOARD_PASSWORD")).getD
    (derivedSecret apiKey "hermes-dashboard-password")
  let workspaceId ← match runtimeValues.get? (utf16 "BAIRUI_WORKSPACE_ID") with
    | some workspaceId => .ok workspaceId
    | none => workspaceIdFromRef workspaceRef
  return {
    runtimeUpdated := ((((runtimeValues.set (utf16 "HERMES_MANAGEMENT_URL")
      (utf16 "http://" ++ metadata.names.dashboard ++ utf16 ":9119")).set
      (utf16 "HERMES_DASHBOARD_USERNAME") dashboardUsername).set
      (utf16 "HERMES_DASHBOARD_PASSWORD") dashboardPassword).set
      (utf16 "BAIRUI_HERMES_DATA_PATH") (utf16 "/opt/data")).set
      (utf16 "BAIRUI_WORKSPACE_ID") workspaceId
    dashboard := dashboardValues dashboardUsername dashboardPassword
      (derivedSecret runtimeSecret "hermes-dashboard-session") }

/-- The names that `ensureManagementConfiguration` sets. -/
def managedNames : List JsText :=
  [utf16 "HERMES_MANAGEMENT_URL", utf16 "HERMES_DASHBOARD_USERNAME",
    utf16 "HERMES_DASHBOARD_PASSWORD", utf16 "BAIRUI_HERMES_DATA_PATH",
    utf16 "BAIRUI_WORKSPACE_ID"]

/-- The files after the runtime's variables were written, if they were not up to date. -/
def updateRuntimeEnv (files : EnvironmentFiles) (runtimeUpdated : Environment) :
    Except SupervisorError EnvironmentFiles :=
  -- The texts of two such objects are equal if and only if they list the same variables.
  if (readEnvironmentFile files.runtimeEnv).entries = runtimeUpdated.entries then .ok files
  else (envFile runtimeUpdated).map fun text =>
    { files with runtimeEnv := some text.toWellFormed }

/-- The files after the dashboard's variables were written, if its file was not named or is
missing. -/
def updateDashboardEnv (named : Bool) (files : EnvironmentFiles) (dashboard : Environment) :
    Except SupervisorError EnvironmentFiles :=
  if named && files.dashboardEnv.isSome then .ok files
  else (envFile dashboard).map fun text =>
    { files with dashboardEnv := some text.toWellFormed }

/-- `ensureManagementConfiguration`: the files afterwards, also where it throws. The file of the
dashboard is named by the caller or not. -/
def ensureManagementConfiguration (metadata : InstanceMetadata) (named : Bool)
    (files : EnvironmentFiles) : EnvironmentFiles × Except SupervisorError Unit :=
  match managementOf metadata (readEnvironmentFile files.runtimeEnv) with
  | .error error => (files, .error error)
  | .ok management =>
      match updateRuntimeEnv files management.runtimeUpdated with
      | .error error => (files, .error error)
      | .ok updated =>
          match updateDashboardEnv named updated management.dashboard with
          | .error error => (updated, .error error)
          | .ok ensured => (ensured, .ok ())

/-! ### The update for the management -/

/-- The variable of a line, as the container runtime reads it: cut at the first sign of
equality. -/
def cutLine (line : JsText) : Option (JsText × JsText) :=
  match line.dropWhile (· ≠ 61) with
  | 61 :: value => some (line.takeWhile (· ≠ 61), value)
  | _ => none

/-- The variables of a file that `ensureManagementConfiguration` does not manage, as the
container runtime reads them. -/
def unmanagedVariables (file : Option JsText) : List (JsText × JsText) :=
  ((file.getD []).lines.filterMap cutLine).filter fun entry => !managedNames.contains entry.1

theorem cutLine_envLine {name : JsText} (named : isVariableName name = true) (value : JsText) :
    cutLine (envLine (name, value)) = some (name, value) := by
  have apart : ∀ unit ∈ name, decide (unit ≠ 61) = true := by
    intro unit member
    rw [decide_eq_true_eq]
    rintro rfl
    exact absurd (isNameUnit_of_isVariableName named 61 member) (by decide)
  unfold cutLine envLine
  dsimp only
  rw [List.dropWhile_append_of_pos apart, List.takeWhile_append_of_pos apart,
    List.dropWhile_cons_of_neg (by decide), List.takeWhile_cons_of_neg (by decide),
    List.append_nil]
  rfl

/-- The variables of a written file that are not managed. -/
theorem unmanagedVariables_fileText {entries : List (JsText × JsText)}
    (named : HasNames entries) (accepted : ∀ entry ∈ entries, IsAccepted entry.2) :
    unmanagedVariables (some (fileText entries).toWellFormed) =
      (entries.filter fun entry => !managedNames.contains entry.1).map fun entry =>
        (entry.1, entry.2.toWellFormed) := by
  unfold unmanagedVariables
  rw [Option.getD_some, filterMap_lines_fileText rfl named accepted,
    List.filterMap_congr fun entry member => cutLine_envLine (named entry member) _,
    List.filterMap_eq_map', List.filter_map]
  rfl

section Management

variable {metadata : InstanceMetadata} {runtimeValues : Environment} {management : Management}

/-- What the management needs of the runtime's variables: two secrets, and a workspace. -/
theorem managementOf_ok (managed : managementOf metadata runtimeValues = .ok management) :
    ∃ apiKey runtimeSecret username password workspaceId,
      machineSecret (runtimeValues.get? (utf16 "HERMES_API_SERVER_KEY"))
        (utf16 "hermes_api_server_key") = .ok apiKey ∧
      machineSecret (runtimeValues.get? (utf16 "BAIRUI_RUNTIME_SHARED_SECRET"))
        (utf16 "runtime_shared_secret") = .ok runtimeSecret ∧
      username = (runtimeValues.get? (utf16 "HERMES_DASHBOARD_USERNAME")).getD
        (utf16 "bairui-runtime") ∧
      password = (runtimeValues.get? (utf16 "HERMES_DASHBOARD_PASSWORD")).getD
        (derivedSecret apiKey "hermes-dashboard-password") ∧
      (runtimeValues.get? (utf16 "BAIRUI_WORKSPACE_ID") = some workspaceId ∨
        ∃ reference, workspaceId = utf16 "ws_" ++ (hexDigest reference).take 48) ∧
      management.runtimeUpdated = ((((runtimeValues.set (utf16 "HERMES_MANAGEMENT_URL")
        (utf16 "http://" ++ metadata.names.dashboard ++ utf16 ":9119")).set
        (utf16 "HERMES_DASHBOARD_USERNAME") username).set
        (utf16 "HERMES_DASHBOARD_PASSWORD") password).set
        (utf16 "BAIRUI_HERMES_DATA_PATH") (utf16 "/opt/data")).set
        (utf16 "BAIRUI_WORKSPACE_ID") workspaceId ∧
      management.dashboard = dashboardValues username password
        (derivedSecret runtimeSecret "hermes-dashboard-session") := by
  unfold managementOf at managed
  cases key : machineSecret (runtimeValues.get? (utf16 "HERMES_API_SERVER_KEY"))
      (utf16 "hermes_api_server_key") with
  | error error => rw [key] at managed; cases managed
  | ok apiKey =>
      rw [key] at managed
      cases secret : machineSecret (runtimeValues.get? (utf16 "BAIRUI_RUNTIME_SHARED_SECRET"))
          (utf16 "runtime_shared_secret") with
      | error error => rw [secret] at managed; cases managed
      | ok runtimeSecret =>
          rw [secret] at managed
          cases workspace : runtimeValues.get? (utf16 "BAIRUI_WORKSPACE_ID") with
          | some workspaceId =>
              rw [workspace] at managed
              cases managed
              exact ⟨apiKey, runtimeSecret, _, _, workspaceId, rfl, rfl, rfl, rfl, .inl rfl, rfl,
                rfl⟩
          | none =>
              rw [workspace] at managed
              simp only [bind, Except.bind, workspaceIdFromRef, Except.map] at managed
              split at managed
              · cases managed
              · rename_i derived
                split at derived
                · cases derived
                · cases derived
                  cases managed
                  exact ⟨apiKey, runtimeSecret, _, _, _, rfl, rfl, rfl, rfl, .inr ⟨_, rfl⟩, rfl,
                    rfl⟩

/-- The update leaves the variables that are not managed. -/
theorem filter_runtimeUpdated (managed : managementOf metadata runtimeValues = .ok management) :
    (management.runtimeUpdated.entries.filter fun entry => !managedNames.contains entry.1) =
      runtimeValues.entries.filter fun entry => !managedNames.contains entry.1 := by
  obtain ⟨_, _, _, _, _, -, -, -, -, -, updated, -⟩ := managementOf_ok managed
  have kept (values : Environment) {name : JsText} (value : JsText)
      (own : (!managedNames.contains name) = false) :
      ((values.set name value).entries.filter fun entry => !managedNames.contains entry.1) =
        values.entries.filter fun entry => !managedNames.contains entry.1 :=
    OrderedMap.filter_entries_set (fun name => !managedNames.contains name) own
  rw [updated, kept _ _ (by decide), kept _ _ (by decide), kept _ _ (by decide),
    kept _ _ (by decide), kept _ _ (by decide)]

theorem HasNames.set {values : Environment} (named : HasNames values.entries)
    {name : JsText} {value : JsText} (own : isVariableName name = true) :
    HasNames (values.set name value).entries :=
  OrderedMap.forall_mem_set named own

theorem hasNames_runtimeUpdated (managed : managementOf metadata runtimeValues = .ok management)
    (named : HasNames runtimeValues.entries) : HasNames management.runtimeUpdated.entries := by
  obtain ⟨_, _, _, _, _, -, -, -, -, -, updated, -⟩ := managementOf_ok managed
  rw [updated]
  refine HasNames.set ?_ (by decide)
  refine HasNames.set ?_ (by decide)
  refine HasNames.set ?_ (by decide)
  refine HasNames.set ?_ (by decide)
  exact HasNames.set named (by decide)

theorem isPlain_of_lt {value : JsText} (ascii : ∀ unit ∈ value, unit < 128) : IsPlain value := by
  constructor
  · apply JsText.isWellFormed_of_plain
    intro unit member
    exact JsText.isSurrogate_of_lt ((ascii unit member).trans (by decide))
  · intro unit member
    have small := ascii unit member
    omega

theorem isPlain_getD (plain : ∀ entry ∈ runtimeValues.entries, IsPlain entry.2) {name : JsText}
    {other : JsText} (default : IsPlain other) :
    IsPlain ((runtimeValues.get? name).getD other) := by
  cases held : runtimeValues.get? name with
  | none => exact default
  | some value => exact plain _ (OrderedMap.get?_eq_some.mp held)

theorem isPlain_managementUrl (metadata : InstanceMetadata) :
    IsPlain (utf16 "http://" ++ metadata.names.dashboard ++ utf16 ":9119") := by
  rw [metadata.named]
  apply isPlain_of_lt
  simp only [names, List.forall_mem_append]
  refine ⟨⟨by decide, by decide, ?_⟩, by decide⟩
  exact fun unit member => hexDigest_lt unit (List.mem_of_mem_take member)

theorem isPlain_workspaceId (reference : JsText) :
    IsPlain (utf16 "ws_" ++ (hexDigest reference).take 48) := by
  apply isPlain_of_lt
  rw [List.forall_mem_append]
  exact ⟨by decide, fun unit member => hexDigest_lt unit (List.mem_of_mem_take member)⟩

/-- The update keeps the values plain. -/
theorem isPlain_runtimeUpdated (managed : managementOf metadata runtimeValues = .ok management)
    (plain : ∀ entry ∈ runtimeValues.entries, IsPlain entry.2) :
    ∀ entry ∈ management.runtimeUpdated.entries, IsPlain entry.2 := by
  obtain ⟨apiKey, _, username, password, workspaceId, -, -, rfl, rfl, workspace, updated, -⟩ :=
    managementOf_ok managed
  have workspacePlain : IsPlain workspaceId := by
    rcases workspace with held | ⟨reference, rfl⟩
    · exact plain _ (OrderedMap.get?_eq_some.mp held)
    · exact isPlain_workspaceId reference
  rw [updated]
  refine OrderedMap.forall_mem_set ?_ workspacePlain
  refine OrderedMap.forall_mem_set ?_ (isPlain_of_lt (by decide))
  refine OrderedMap.forall_mem_set ?_ (isPlain_getD plain (isPlain_of_lt base64Digest_lt))
  refine OrderedMap.forall_mem_set ?_ (isPlain_getD plain (isPlain_of_lt (by decide)))
  exact OrderedMap.forall_mem_set plain (isPlain_managementUrl metadata)

/-- Variables that have what the management sets need no update. -/
theorem runtimeUpdated_eq_self (managed : managementOf metadata runtimeValues = .ok management)
    {username password workspaceId : JsText}
    (url : runtimeValues.get? (utf16 "HERMES_MANAGEMENT_URL") =
      some (utf16 "http://" ++ metadata.names.dashboard ++ utf16 ":9119"))
    (usernameSet : runtimeValues.get? (utf16 "HERMES_DASHBOARD_USERNAME") = some username)
    (passwordSet : runtimeValues.get? (utf16 "HERMES_DASHBOARD_PASSWORD") = some password)
    (dataPath : runtimeValues.get? (utf16 "BAIRUI_HERMES_DATA_PATH") = some (utf16 "/opt/data"))
    (workspace : runtimeValues.get? (utf16 "BAIRUI_WORKSPACE_ID") = some workspaceId) :
    management.runtimeUpdated = runtimeValues := by
  unfold managementOf at managed
  obtain ⟨apiKey, -, managed⟩ := bind_eq_ok.mp managed
  obtain ⟨runtimeSecret, -, managed⟩ := bind_eq_ok.mp managed
  rw [workspace] at managed
  cases managed
  rw [usernameSet, passwordSet]
  dsimp only [Option.getD_some]
  rw [OrderedMap.set_eq_self url, OrderedMap.set_eq_self usernameSet,
    OrderedMap.set_eq_self passwordSet, OrderedMap.set_eq_self dataPath,
    OrderedMap.set_eq_self workspace]

/-- The updated variables need no update. -/
theorem managementOf_runtimeUpdated (managed : managementOf metadata runtimeValues = .ok management) :
    managementOf metadata management.runtimeUpdated = .ok management := by
  obtain ⟨apiKey, runtimeSecret, username, password, workspaceId, key, secret, -, -, -, updated,
    dashboard⟩ := managementOf_ok managed
  have kept {name : JsText} (other : name ∉ managedNames) :
      management.runtimeUpdated.get? name = runtimeValues.get? name := by
    simp only [managedNames, List.mem_cons, List.not_mem_nil, or_false, not_or] at other
    obtain ⟨url, username, password, dataPath, workspace⟩ := other
    rw [updated, OrderedMap.get?_set_of_ne workspace, OrderedMap.get?_set_of_ne dataPath,
      OrderedMap.get?_set_of_ne password, OrderedMap.get?_set_of_ne username,
      OrderedMap.get?_set_of_ne url]
  have url : management.runtimeUpdated.get? (utf16 "HERMES_MANAGEMENT_URL") =
      some (utf16 "http://" ++ metadata.names.dashboard ++ utf16 ":9119") := by
    rw [updated, OrderedMap.get?_set_of_ne (by decide), OrderedMap.get?_set_of_ne (by decide),
      OrderedMap.get?_set_of_ne (by decide), OrderedMap.get?_set_of_ne (by decide),
      OrderedMap.get?_set_self]
  have usernameSet : management.runtimeUpdated.get? (utf16 "HERMES_DASHBOARD_USERNAME") =
      some username := by
    rw [updated, OrderedMap.get?_set_of_ne (by decide), OrderedMap.get?_set_of_ne (by decide),
      OrderedMap.get?_set_of_ne (by decide), OrderedMap.get?_set_self]
  have passwordSet : management.runtimeUpdated.get? (utf16 "HERMES_DASHBOARD_PASSWORD") =
      some password := by
    rw [updated, OrderedMap.get?_set_of_ne (by decide), OrderedMap.get?_set_of_ne (by decide),
      OrderedMap.get?_set_self]
  have dataPath : management.runtimeUpdated.get? (utf16 "BAIRUI_HERMES_DATA_PATH") =
      some (utf16 "/opt/data") := by
    rw [updated, OrderedMap.get?_set_of_ne (by decide), OrderedMap.get?_set_self]
  have workspaceSet : management.runtimeUpdated.get? (utf16 "BAIRUI_WORKSPACE_ID") =
      some workspaceId := by
    rw [updated, OrderedMap.get?_set_self]
  unfold managementOf
  rw [kept (by decide), kept (by decide), key, secret, usernameSet, passwordSet, workspaceSet]
  simp only [bind, Except.bind, Option.getD_some, OrderedMap.set_eq_self url,
    OrderedMap.set_eq_self usernameSet, OrderedMap.set_eq_self passwordSet,
    OrderedMap.set_eq_self dataPath, OrderedMap.set_eq_self workspaceSet, ← dashboard]
  rfl

end Management

section Ensure

variable {values : Environment} {files : EnvironmentFiles} {metadata : InstanceMetadata}
  {management : Management} {named : Bool}

/-- What is read of a written file is plain and has names that the reader knows. -/
theorem read_fileText (hasNames : HasNames values.entries)
    (accepted : ∀ entry ∈ values.entries, IsAccepted entry.2) :
    HasNames (readEnvironmentFile (some (fileText values.entries).toWellFormed)).entries ∧
      ∀ entry ∈ (readEnvironmentFile (some (fileText values.entries).toWellFormed)).entries,
        IsPlain entry.2 := by
  unfold HasNames
  rw [readEnvironmentFile_fileText hasNames accepted, ← forall₂_and]
  intro entry member
  obtain ⟨written, stored, same⟩ := List.mem_filterMap.mp member
  unfold readBack at same
  split at same
  · rename_i ended
    cases same
    refine ⟨hasNames written stored, JsText.isWellFormed_toWellFormed _, fun unit inside => ?_⟩
    have open_ := List.all_eq_true.mp ended unit inside
    simp only [isLineTerminator, Bool.not_eq_true', Bool.or_eq_false_iff,
      decide_eq_false_iff_not] at open_
    exact ⟨open_.1.2, open_.2⟩
  · cases same

/-- Once the runtime's file was brought up to date, it is up to date. -/
theorem updateRuntimeEnv_settles (hasNames : HasNames values.entries)
    (accepted : ∀ entry ∈ values.entries, IsAccepted entry.2)
    (written : files.runtimeEnv = some (fileText values.entries).toWellFormed)
    (managed : managementOf metadata (readEnvironmentFile files.runtimeEnv) = .ok management)
    {updated : EnvironmentFiles}
    (update : updateRuntimeEnv files management.runtimeUpdated = .ok updated)
    {other : EnvironmentFiles} (same : other.runtimeEnv = updated.runtimeEnv) :
    managementOf metadata (readEnvironmentFile other.runtimeEnv) = .ok management ∧
      updateRuntimeEnv other management.runtimeUpdated = .ok other := by
  unfold updateRuntimeEnv at update ⊢
  split at update
  · rename_i current
    cases update
    rw [same]
    exact ⟨managed, if_pos current⟩
  · cases text : envFile management.runtimeUpdated with
    | error error => rw [text] at update; cases update
    | ok content =>
        rw [text] at update
        cases update
        obtain ⟨updatedAccepted, rfl⟩ := envFile_eq_ok.mp text
        rw [written] at managed
        obtain ⟨names, plain⟩ := read_fileText hasNames accepted
        have read := (readEnvironmentFile_eq_self (hasNames_runtimeUpdated managed names)
          updatedAccepted).mpr (isPlain_runtimeUpdated managed plain)
        rw [same]
        dsimp only
        rw [read, if_pos rfl]
        exact ⟨managementOf_runtimeUpdated managed, rfl⟩

theorem updateDashboardEnv_settles {dashboard : Environment} {ensured : EnvironmentFiles}
    (update : updateDashboardEnv named files dashboard = .ok ensured) :
    ensured.runtimeEnv = files.runtimeEnv ∧
      updateDashboardEnv named ensured dashboard = .ok ensured := by
  unfold updateDashboardEnv at update ⊢
  split at update
  · rename_i current
    cases update
    exact ⟨rfl, if_pos current⟩
  · cases text : envFile dashboard with
    | error error => rw [text] at update; cases update
    | ok content =>
        rw [text] at update
        cases update
        refine ⟨rfl, ?_⟩
        split
        · rfl
        · rfl

/-- A second call changes nothing. -/
theorem ensureManagementConfiguration_settles (hasNames : HasNames values.entries)
    (accepted : ∀ entry ∈ values.entries, IsAccepted entry.2)
    (written : files.runtimeEnv = some (fileText values.entries).toWellFormed) :
    (ensureManagementConfiguration metadata named
        (ensureManagementConfiguration metadata named files).1).1 =
      (ensureManagementConfiguration metadata named files).1 := by
  cases managed : managementOf metadata (readEnvironmentFile files.runtimeEnv) with
  | error error => simp only [ensureManagementConfiguration, managed]
  | ok management =>
      cases update : updateRuntimeEnv files management.runtimeUpdated with
      | error error => simp only [ensureManagementConfiguration, managed, update]
      | ok updated =>
          have settles {other : EnvironmentFiles} (same : other.runtimeEnv = updated.runtimeEnv) :=
            updateRuntimeEnv_settles hasNames accepted written managed update same
          cases last : updateDashboardEnv named updated management.dashboard with
          | error error =>
              simp only [ensureManagementConfiguration, managed, update, last,
                (settles rfl).1, (settles rfl).2]
          | ok ensured =>
              obtain ⟨same, again⟩ := updateDashboardEnv_settles last
              simp only [ensureManagementConfiguration, managed, update, last,
                (settles same).1, (settles same).2, again]

/-- The runtime's file is left or written with the updated variables. -/
theorem ensureManagementConfiguration_runtimeEnv (metadata : InstanceMetadata) (named : Bool)
    (files : EnvironmentFiles) :
    (ensureManagementConfiguration metadata named files).1.runtimeEnv = files.runtimeEnv ∨
      ∃ management, managementOf metadata (readEnvironmentFile files.runtimeEnv) =
          .ok management ∧
        (∀ entry ∈ management.runtimeUpdated.entries, IsAccepted entry.2) ∧
        (ensureManagementConfiguration metadata named files).1.runtimeEnv =
          some (fileText management.runtimeUpdated.entries).toWellFormed := by
  cases managed : managementOf metadata (readEnvironmentFile files.runtimeEnv) with
  | error error => exact .inl (by simp only [ensureManagementConfiguration, managed])
  | ok management =>
      cases update : updateRuntimeEnv files management.runtimeUpdated with
      | error error => exact .inl (by simp only [ensureManagementConfiguration, managed, update])
      | ok updated =>
          have same : (ensureManagementConfiguration metadata named files).1.runtimeEnv =
              updated.runtimeEnv := by
            cases last : updateDashboardEnv named updated management.dashboard with
            | error error => simp only [ensureManagementConfiguration, managed, update, last]
            | ok ensured =>
                simp only [ensureManagementConfiguration, managed, update, last]
                exact (updateDashboardEnv_settles last).1
          rw [same]
          unfold updateRuntimeEnv at update
          split at update
          · cases update
            exact .inl rfl
          · cases text : envFile management.runtimeUpdated with
            | error error => rw [text] at update; cases update
            | ok content =>
                rw [text] at update
                cases update
                obtain ⟨updatedAccepted, rfl⟩ := envFile_eq_ok.mp text
                exact .inr ⟨management, rfl, updatedAccepted, rfl⟩

/-- The variables that are not managed stay, unless the value of one ends a line for the
reader alone. -/
theorem ensureManagementConfiguration_keeps (hasNames : HasNames values.entries)
    (accepted : ∀ entry ∈ values.entries, IsAccepted entry.2)
    (written : files.runtimeEnv = some (fileText values.entries).toWellFormed)
    (survive : ∀ entry ∈ values.entries, entry.1 ∉ managedNames →
      readBack entry = some (entry.1, entry.2.toWellFormed)) :
    unmanagedVariables (ensureManagementConfiguration metadata named files).1.runtimeEnv =
      unmanagedVariables files.runtimeEnv := by
  rcases ensureManagementConfiguration_runtimeEnv metadata named files with
    same | ⟨management, managed, updatedAccepted, same⟩
  · rw [same]
  · rw [written] at managed
    have readNames := (read_fileText hasNames accepted).1
    rw [same, written, unmanagedVariables_fileText (hasNames_runtimeUpdated managed readNames)
      updatedAccepted, unmanagedVariables_fileText hasNames accepted,
      filter_runtimeUpdated managed, readEnvironmentFile_fileText hasNames accepted]
    refine map_filter_readBack (fun _ _ => rfl) ?_
    intro entry member wanted
    apply survive entry member
    rw [Bool.not_eq_true', List.contains_eq_mem, decide_eq_false_iff_not] at wanted
    exact wanted

end Ensure

/-- A written file is read back as it was written, the update for the management keeps the
variables that it does not manage, and a second update changes nothing. -/
structure LawfulEnvironment (values : Environment) (text : JsText) : Prop where
  roundTrip : readEnvironmentFile (some text.toWellFormed) = values
  keeps : ∀ (metadata : InstanceMetadata) (named : Bool) (dashboardEnv : Option JsText),
    unmanagedVariables (ensureManagementConfiguration metadata named
        ⟨some text.toWellFormed, dashboardEnv⟩).1.runtimeEnv =
      unmanagedVariables (some text.toWellFormed)
  settles : ∀ (metadata : InstanceMetadata) (named : Bool) (dashboardEnv : Option JsText),
    (ensureManagementConfiguration metadata named
        (ensureManagementConfiguration metadata named
          ⟨some text.toWellFormed, dashboardEnv⟩).1).1 =
      (ensureManagementConfiguration metadata named ⟨some text.toWellFormed, dashboardEnv⟩).1

/-- Environment files are lawful if and only if no value holds a half of a surrogate pair, a
line separator or a paragraph separator. -/
theorem environment_lawful_iff {values : Environment} {text : JsText}
    (named : ∀ entry ∈ values.entries, isVariableName entry.1 = true)
    (written : envFile values = .ok text) :
    LawfulEnvironment values text ↔ ∀ entry ∈ values.entries, IsPlain entry.2 := by
  obtain ⟨accepted, rfl⟩ := envFile_eq_ok.mp written
  constructor
  · intro lawful
    exact (readEnvironmentFile_eq_self named accepted).mp lawful.roundTrip
  · intro plain
    refine ⟨(readEnvironmentFile_eq_self named accepted).mpr plain, ?_, ?_⟩
    · intro metadata given dashboardEnv
      refine ensureManagementConfiguration_keeps named accepted rfl ?_
      intro entry member _
      rw [(readBack_eq_self (accepted entry member)).mpr (plain entry member),
        JsText.toWellFormed_eq_self.mpr (plain entry member).1]
    · intro metadata given dashboardEnv
      exact ensureManagementConfiguration_settles named accepted rfl

/-- The variables of a runtime. -/
def sampleEnvironment (url : JsText) : Environment :=
  ((OrderedMap.empty.set (utf16 "HERMES_API_SERVER_KEY") (List.replicate 32 97)).set
    (utf16 "BAIRUI_RUNTIME_SHARED_SECRET") (List.replicate 32 98)).set
    (utf16 "BAIRUI_PLATFORM_URL") url

theorem environment_lawful_iff_sample : ∃ text,
    envFile (sampleEnvironment (utf16 "https://platform?a=b")) = .ok text ∧
      LawfulEnvironment (sampleEnvironment (utf16 "https://platform?a=b")) text :=
  ⟨_, rfl, (environment_lawful_iff (by decide) rfl).mpr (by decide)⟩

/-- A line separator in a value is accepted. The variable is not read back, and the update
for the management removes it from the file. -/
theorem line_separator_lost : ∃ text metadata,
    envFile (sampleEnvironment (utf16 "https://platform" ++ [0x2028])) = .ok text ∧
      readEnvironmentFile (some text.toWellFormed) ≠
        sampleEnvironment (utf16 "https://platform" ++ [0x2028]) ∧
      unmanagedVariables (ensureManagementConfiguration metadata true
          ⟨some text.toWellFormed, none⟩).1.runtimeEnv ≠
        unmanagedVariables (some text.toWellFormed) := by
  refine ⟨_, ⟨utf16 "agent-1", none, none, none, names (utf16 "agent-1"), rfl⟩, rfl, ?_, ?_⟩
  · intro same
    exact absurd (congrArg OrderedMap.entries same) (by decide)
  · decide +kernel

end BairuiPlatform.Supervisor
