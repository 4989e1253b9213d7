/-
Module: BairuiPlatform.Scenes.Client
Purpose: What the browser keeps of a scene, and what it makes of the answers and events that
  reach it.
Trusted boundary: none
Main exports: ClientScene, sceneFromSnapshot, ClientScene.receive, ClientScene.command,
  sceneFromSnapshot_message, receive_patch
-/
import BairuiPlatform.Scenes.Stream

namespace BairuiPlatform

/-- The revision and the view of `BairuiSceneTransport`. The revision is missing where it is no
number. -/
structure ClientScene where
  revision : Option Int
  view : Json
deriving Repr

/-- `sceneFromSnapshot`. -/
def sceneFromSnapshot (snapshot : Json) : ClientScene :=
  let inner := (snapshot.field? "data").bind (Json.present? "scene")
  let scene := (inner.or (snapshot.present? "scene")).getD snapshot
  { revision :=
      (((scene.present? "revision").or (snapshot.present? "revision")).getD (.num 0)).number?
    view :=
      ((scene.present? "view").or (snapshot.present? "view")).getD SceneView.blank.json }

/-- An operation of a patch, as far as it is one. -/
def operationOf? (value : Json) : Option SceneOperation := do
  let op ← (value.field? "op").bind Json.text?
  let path ← (value.field? "path").bind Json.text?
  let content ← value.field? "value"
  return { op := op, path := path, value := content }

/-- `patch.operations || []`. An operation without its properties leaves the view. -/
def operationsOf (patch : Json) : List SceneOperation :=
  match patch.field? "operations" with
  | some (.arr operations) => operations.filterMap operationOf?
  | _ => []

namespace ClientScene

/-- The listener for `scene.patch`. A patch that does not start at the client's revision asks
for a snapshot, and leaves the scene. -/
def receivePatch (patch : Json) (client : ClientScene) : ClientScene :=
  match (patch.field? "base").bind Json.number? with
  | none => client
  | some base =>
      if some base ≠ client.revision then client
      else
        let view := (operationsOf patch).foldl applyOperation client.view
        sceneFromSnapshot
          (Json.ofFields [("revision", patch.field? "rev"), ("view", some view)])

/-- An event of the stream. -/
def receive (message : StreamEvent) (client : ClientScene) : ClientScene :=
  if message.event = "scene" then sceneFromSnapshot message.data
  else if message.event = "scene.patch" then client.receivePatch message.data
  else client

/-- What `command` does with the answer of the server. -/
def command (result : Json) (client : ClientScene) : ClientScene :=
  match (result.present? "snapshot").or (result.present? "scene") with
  | some snapshot => sceneFromSnapshot snapshot
  | none =>
      match (result.field? "revision").bind Json.number? with
      | some revision => { client with revision := some revision }
      | none => client

end ClientScene

/-! ### Answers of the server -/

/-- A panel that shows a scene, with what its answers tell besides the scene. -/
structure ScenePanel where
  id : String
  state : String
  reason : Json
  data : List (String × Json)
deriving Repr

/-- `{ ...data, scene }`. -/
def ScenePanel.withScene (panel : ScenePanel) (scene : Json) : Json :=
  .obj ((panel.data.filter fun field => decide (field.1 ≠ "scene")) ++ [("scene", scene)])

/-- `panelSnapshotBody`. -/
def panelSnapshotBody (scope : SceneScope) (trace generatedAt : String) (panel : ScenePanel)
    (scene : AgentScene) : Json :=
  .obj [("schema_version", .str "bairui.panel-snapshot.v1"), ("panel_id", .str panel.id),
    ("owner_scope", scope.json), ("state", .str panel.state), ("reason", panel.reason),
    ("revision", .num scene.revision), ("generated_at", .str generatedAt),
    ("data", panel.withScene (sceneSnapshot scope trace scene))]

/-- The answer to a command. Only some commands answer a snapshot of the panel or a patch. -/
def panelCommandResult (scope : SceneScope) (trace commandId status : String)
    (panel : ScenePanel) (snapshot patch : Option Json) (scene : AgentScene) : Json :=
  Json.ofFields [("schema_version", some (.str "bairui.panel-command-result.v1")),
    ("command_id", some (.str commandId)), ("panel_id", some (.str panel.id)),
    ("owner_scope", some scope.json), ("status", some (.str status)),
    ("revision", some (.num scene.revision)),
    ("scene", some (sceneSnapshot scope trace scene)), ("snapshot", snapshot),
    ("patch", patch)]

/-! ### What the client makes of them -/

/-- The scene that a row tells. -/
def AgentScene.shown (scene : AgentScene) : ClientScene where
  revision := some scene.revision
  view := scene.view.json

section

variable (scope : SceneScope) (trace : String) (scene : AgentScene)

theorem sceneSnapshot_revision :
    (sceneSnapshot scope trace scene).present? "revision" = some (.num scene.revision) := by
  simp [sceneSnapshot, Json.present?, Json.field?]

theorem sceneSnapshot_view :
    (sceneSnapshot scope trace scene).present? "view" = some scene.view.json := by
  simp [sceneSnapshot, Json.present?, Json.field?, SceneView.json]

/-- Where the scene of a document is found, it is shown with its revision. -/
theorem sceneFromSnapshot_of_found {document : Json}
    (found : (((document.field? "data").bind (Json.present? "scene")).or
      (document.present? "scene")).getD document = sceneSnapshot scope trace scene) :
    sceneFromSnapshot document = scene.shown := by
  simp only [sceneFromSnapshot, found, sceneSnapshot_revision, sceneSnapshot_view,
    Option.some_or, Option.getD_some, Json.number?, AgentScene.shown]

/-- A snapshot is shown with its revision. -/
theorem sceneFromSnapshot_snapshot :
    sceneFromSnapshot (sceneSnapshot scope trace scene) = scene.shown := by
  apply sceneFromSnapshot_of_found scope trace scene
  simp [sceneSnapshot, Json.field?, Json.present?]

/-- The last of two parts of an object has the property that the first part lacks. -/
theorem field?_withScene (panel : ScenePanel) (value : Json) :
    (panel.withScene value).field? "scene" = some value := by
  have missing : (panel.data.filter fun field => decide (field.1 ≠ "scene")).find?
      (fun field => decide (field.1 = "scene")) = none := by
    apply List.find?_eq_none.mpr
    intro field member same
    have apart := of_decide_eq_true (List.mem_filter.mp member).2
    exact apart (of_decide_eq_true same)
  rw [ScenePanel.withScene, Json.field?, List.find?_append, missing]
  rfl

/-- The snapshot of a panel is shown with its revision. -/
theorem sceneFromSnapshot_panel (generatedAt : String) (panel : ScenePanel) :
    sceneFromSnapshot (panelSnapshotBody scope trace generatedAt panel scene) = scene.shown := by
  apply sceneFromSnapshot_of_found scope trace scene
  have data : (panelSnapshotBody scope trace generatedAt panel scene).field? "data" =
      some (panel.withScene (sceneSnapshot scope trace scene)) := by
    simp [panelSnapshotBody, Json.field?]
  have inner : (panel.withScene (sceneSnapshot scope trace scene)).present? "scene" =
      some (sceneSnapshot scope trace scene) := by
    rw [Json.present?, field?_withScene]
    rfl
  rw [data, Option.bind_some, inner, Option.some_or, Option.getD_some]

/-- The message of a snapshot is shown without its revision. -/
theorem sceneFromSnapshot_message :
    sceneFromSnapshot (sceneEventMessage (sceneSnapshot scope trace scene)) =
      { revision := some 0, view := scene.view.json } := by
  rw [sceneEventMessage_snapshot]
  simp [sceneFromSnapshot, Json.field?, Json.present?, Json.number?, SceneView.json]

/-- After the answer to a command the client shows the scene of the answer. -/
theorem command_shown (commandId status : String) (panel : ScenePanel)
    (snapshot patch : Option Json) (client : ClientScene)
    (described : ∀ body, snapshot = some body → ∃ trace' generatedAt,
      body = panelSnapshotBody scope trace' generatedAt panel scene) :
    client.command
        (panelCommandResult scope trace commandId status panel snapshot patch scene) =
      scene.shown := by
  have inner : (panelCommandResult scope trace commandId status panel snapshot patch
      scene).present? "scene" = some (sceneSnapshot scope trace scene) := by
    simp [panelCommandResult, Json.present?, Json.field?, Json.ofFields, sceneSnapshot]
  cases snapshot with
  | none =>
      have none : (panelCommandResult scope trace commandId status panel none patch
          scene).present? "snapshot" = none := by
        cases patch with
        | none => simp [panelCommandResult, Json.present?, Json.field?, Json.ofFields]
        | some patch => simp [panelCommandResult, Json.present?, Json.field?, Json.ofFields]
      rw [ClientScene.command, none, inner]
      exact sceneFromSnapshot_snapshot scope trace scene
  | some body =>
      obtain ⟨trace', generatedAt, rfl⟩ := described body rfl
      have present : (panelCommandResult scope trace commandId status panel
          (some (panelSnapshotBody scope trace' generatedAt panel scene)) patch
          scene).present? "snapshot" =
            some (panelSnapshotBody scope trace' generatedAt panel scene) := by
        simp [panelCommandResult, Json.present?, Json.field?, Json.ofFields, panelSnapshotBody]
      rw [ClientScene.command, present, Option.some_or]
      exact sceneFromSnapshot_panel scope trace' scene generatedAt panel

/-- An operation reads as it was written. -/
theorem operationOf?_json (operation : SceneOperation) :
    operationOf? operation.json = some operation := by
  simp [operationOf?, SceneOperation.json, Json.field?, Json.text?]

/-- A patch that the client takes leads it to the revision and the view of the event; another
one leaves it. -/
theorem receivePatch_cases (client : ClientScene) {event : SceneEvent} {view : SceneView}
    (replaces : event.operations = [replaceView view]) :
    client.receivePatch (sceneEventMessage (scenePatch scope trace event)) = client ∨
      client.receivePatch (sceneEventMessage (scenePatch scope trace event)) =
        { revision := some event.revision, view := view.json } := by
  rw [sceneEventMessage_patch, replaces]
  have operations : operationsOf (.obj [("v", .num 1), ("type", .str "scene.patch"),
      ("base", .num event.baseRevision), ("rev", .num event.revision),
      ("operations", .arr ([replaceView view].map SceneOperation.json))]) =
        [replaceView view] := by
    simp [operationsOf, Json.field?, operationOf?_json]
  simp only [ClientScene.receivePatch, operations, List.foldl_cons, List.foldl_nil,
    applyOperation_replaceView]
  split
  · exact Or.inl rfl
  · split
    · exact Or.inl rfl
    · apply Or.inr
      simp [sceneFromSnapshot, Json.ofFields, Json.field?, Json.present?, Json.number?,
        SceneView.json]

end

end BairuiPlatform
