/-
Module: BairuiPlatform.Scenes.Stream
Purpose: The documents that describe a scene, and the server's side of a connection that
  streams its events.
Trusted boundary: the validators of scene documents return what they are given
Main exports: sceneSnapshot, scenePatch, sceneEventMessage, SceneConnection,
  SceneConnection.openStream, SceneConnection.emitNext, SceneConnection.Linked
-/
import BairuiPlatform.Clock
import BairuiPlatform.Scenes.Rows

namespace BairuiPlatform

/-! ### Documents -/

namespace Json

/-- An object literal. Undefined properties do not reach the JSON text. -/
def ofFields (fields : List (String × Option Json)) : Json :=
  .obj (fields.filterMap fun field => field.2.map fun value => (field.1, value))

/-- `value?.name ?? …` goes on with the property, unless it is missing or null. -/
def present? (name : String) (value : Json) : Option Json :=
  match value.field? name with
  | some .null | none => none
  | some found => some found

/-- `Number(value)`, where it is a number. -/
def number? : Json → Option Int
  | .num value => some value
  | _ => none

end Json

/-- The owner of a scene in its documents. -/
structure SceneScope where
  organizationId : String
  userId : String
  agentId : String
  workspaceId : String
deriving Repr

/-- The owner as a JSON object. -/
def SceneScope.json (scope : SceneScope) : Json :=
  .obj [("organization_id", .str scope.organizationId), ("user_id", .str scope.userId),
    ("agent_id", .str scope.agentId), ("workspace_id", .str scope.workspaceId)]

/-- `sceneSnapshot`. -/
def sceneSnapshot (scope : SceneScope) (trace : String) (scene : AgentScene) : Json :=
  .obj [("schema_version", .str "2.0"), ("scene_id", .str scene.sceneId),
    ("owner_scope", scope.json), ("revision", .num scene.revision),
    ("view", scene.view.json), ("generated_at", .str (isoString scene.updatedAt)),
    ("trace", .obj [("correlation_id", .str trace)])]

/-- An operation as a JSON object. -/
def SceneOperation.json (operation : SceneOperation) : Json :=
  .obj [("op", .str operation.op), ("path", .str operation.path), ("value", operation.value)]

/-- `scenePatch`. -/
def scenePatch (scope : SceneScope) (trace : String) (event : SceneEvent) : Json :=
  .obj [("schema_version", .str "2.0"), ("scene_id", .str event.sceneId),
    ("owner_scope", scope.json), ("base_revision", .num event.baseRevision),
    ("revision", .num event.revision),
    ("operations", .arr (event.operations.map SceneOperation.json)),
    ("generated_at", .str (isoString event.createdAt)),
    ("trace", .obj [("correlation_id", .str trace)])]

/-- `value?.schema_version && Object.hasOwn(value, "base_revision")`. -/
def isScenePatch (value : Json) : Bool :=
  ((value.present? "schema_version").bind Json.text?).any (fun version => version ≠ "") &&
    (value.field? "base_revision").isSome

/-- `sceneEventMessage`. -/
def sceneEventMessage (value : Json) : Json :=
  if isScenePatch value then
    Json.ofFields [("v", some (.num 1)), ("type", some (.str "scene.patch")),
      ("base", value.field? "base_revision"), ("rev", value.field? "revision"),
      ("operations", value.field? "operations")]
  else
    Json.ofFields [("v", some (.num 1)), ("type", some (.str "scene")),
      ("rev", value.field? "revision"), ("view", value.field? "view")]

/-- The message of a snapshot names its revision `rev`. -/
theorem sceneEventMessage_snapshot (scope : SceneScope) (trace : String) (scene : AgentScene) :
    sceneEventMessage (sceneSnapshot scope trace scene) =
      .obj [("v", .num 1), ("type", .str "scene"), ("rev", .num scene.revision),
        ("view", scene.view.json)] := by
  simp [sceneEventMessage, sceneSnapshot, isScenePatch, Json.field?, Json.ofFields]

/-- The message of a patch. -/
theorem sceneEventMessage_patch (scope : SceneScope) (trace : String) (event : SceneEvent) :
    sceneEventMessage (scenePatch scope trace event) =
      .obj [("v", .num 1), ("type", .str "scene.patch"), ("base", .num event.baseRevision),
        ("rev", .num event.revision),
        ("operations", .arr (event.operations.map SceneOperation.json))] := by
  simp [sceneEventMessage, scenePatch, isScenePatch, Json.present?, Json.field?, Json.text?,
    Json.ofFields]

/-! ### Connections -/

/-- An event of the stream: its name, its data and its id. -/
structure StreamEvent where
  event : String
  data : Json
  id : Nat
deriving Repr

/-- What `streamSceneEvents` keeps of a connection, with the events that it has written and the
number of those that the client has processed. -/
structure SceneConnection where
  resumed : Nat
  cursor : Nat
  pending : List SceneEvent := []
  emitted : List StreamEvent := []
  received : Nat := 0

namespace SceneConnection

variable (scope : SceneScope) (trace : String)

/-- An event is written, and the cursor moves to it. -/
def emit (message : StreamEvent) (connection : SceneConnection) : SceneConnection :=
  { connection with cursor := message.id, emitted := connection.emitted ++ [message] }

/-- `emitSnapshot`. -/
def emitSnapshot (scene : AgentScene) (connection : SceneConnection) : SceneConnection :=
  connection.emit
    { event := "scene", data := sceneEventMessage (sceneSnapshot scope trace scene)
      id := scene.revision }

/-- The write of a patch. -/
def emitPatch (event : SceneEvent) (connection : SceneConnection) : SceneConnection :=
  connection.emit
    { event := "scene.patch", data := sceneEventMessage (scenePatch scope trace event)
      id := event.revision }

/-- `streamSceneEvents` up to its loop. -/
def openStream (afterRevision : Nat) (scene : AgentScene) : SceneConnection :=
  let connection := { resumed := afterRevision, cursor := afterRevision }
  if afterRevision = 0 ∨ scene.revision < afterRevision then
    emitSnapshot scope trace scene connection
  else connection

/-- The body of the loop over a page of events. After a gap the rest of the page is dropped. -/
def emitNext (latest : Option AgentScene) (connection : SceneConnection) : SceneConnection :=
  match connection.pending with
  | [] => connection
  | event :: rest =>
      if event.baseRevision ≠ connection.cursor then
        match latest with
        | some scene => { emitSnapshot scope trace scene connection with pending := [] }
        | none => { connection with pending := [] }
      else { emitPatch scope trace event connection with pending := rest }

end SceneConnection

/-- The patches among events start where the event before them left off. -/
def LinkedFrom : Nat → List StreamEvent → Prop
  | _, [] => True
  | last, message :: rest =>
      (message.event = "scene.patch" → message.data.field? "base" = some (.num last)) ∧
        LinkedFrom message.id rest

/-- The last revision of events. -/
def lastRevision : Nat → List StreamEvent → Nat
  | last, [] => last
  | _, message :: rest => lastRevision message.id rest

/-- One more event. -/
theorem LinkedFrom.snoc {last : Nat} {messages : List StreamEvent} {message : StreamEvent}
    (linked : LinkedFrom last messages)
    (starts : message.event = "scene.patch" →
      message.data.field? "base" = some (.num (lastRevision last messages))) :
    LinkedFrom last (messages ++ [message]) ∧
      lastRevision last (messages ++ [message]) = message.id := by
  induction messages generalizing last with
  | nil => exact ⟨⟨starts, trivial⟩, rfl⟩
  | cons first rest ih =>
      obtain ⟨follows, reached⟩ := ih linked.2 starts
      exact ⟨⟨linked.1, follows⟩, reached⟩

/-- Each patch of a connection starts at the last snapshot or patch, and the first one where
the client resumed. -/
structure SceneConnection.Linked (connection : SceneConnection) : Prop where
  emitted : LinkedFrom connection.resumed connection.emitted
  cursor : connection.cursor = lastRevision connection.resumed connection.emitted

namespace SceneConnection

variable {scope : SceneScope} {trace : String} {connection : SceneConnection}

theorem Linked.emit {message : StreamEvent} (linked : connection.Linked)
    (starts : message.event = "scene.patch" →
      message.data.field? "base" = some (.num connection.cursor)) :
    (connection.emit message).Linked := by
  rw [linked.cursor] at starts
  obtain ⟨follows, reached⟩ := linked.emitted.snoc starts
  exact { emitted := follows, cursor := reached.symm }

/-- A snapshot starts anywhere. -/
theorem Linked.emitSnapshot (linked : connection.Linked) (scene : AgentScene) :
    (SceneConnection.emitSnapshot scope trace scene connection).Linked := by
  apply linked.emit
  intro patch
  have apart : "scene" ≠ "scene.patch" := by decide
  exact absurd patch apart

/-- A new connection is linked. -/
theorem openStream_linked (afterRevision : Nat) (scene : AgentScene) :
    (openStream scope trace afterRevision scene).Linked := by
  have fresh : SceneConnection.Linked { resumed := afterRevision, cursor := afterRevision } :=
    { emitted := trivial, cursor := rfl }
  unfold openStream
  dsimp only
  split
  · exact fresh.emitSnapshot scene
  · exact fresh

/-- A patch is written only where its base is the cursor. -/
theorem Linked.emitNext (linked : connection.Linked) (latest : Option AgentScene) :
    (emitNext scope trace latest connection).Linked := by
  unfold SceneConnection.emitNext
  split
  · exact linked
  · rename_i event rest pending
    split
    · split
      · rename_i scene
        have written : (SceneConnection.emitSnapshot scope trace scene connection).Linked :=
          linked.emitSnapshot scene
        exact { emitted := written.emitted, cursor := written.cursor }
      · exact { emitted := linked.emitted, cursor := linked.cursor }
    · rename_i follows
      have written : (emitPatch scope trace event connection).Linked := by
        apply linked.emit
        intro _
        rw [sceneEventMessage_patch, ← not_not.mp follows]
        rfl
      exact { emitted := written.emitted, cursor := written.cursor }

end SceneConnection

end BairuiPlatform
