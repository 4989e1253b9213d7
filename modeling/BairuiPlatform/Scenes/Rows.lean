/-
Module: BairuiPlatform.Scenes.Rows
Purpose: The scenes of an Agent and the events that changed them, with the arguments of the
  methods on them.
Trusted boundary: a view is a JSON object
Main exports: SceneView, AgentScene, SceneEvent, SceneStore, SceneIntentInput, applyOperation,
  SceneQuery.page
-/
import BairuiPlatform.Foundations.EventChain
import BairuiPlatform.Foundations.Table
import BairuiPlatform.Json

namespace BairuiPlatform

open Foundations

/-! ### Rows -/

/-- The view of a scene: an object with its surfaces. -/
structure SceneView where
  fields : List (String × Json)
deriving Repr

/-- A view as a JSON value. -/
def SceneView.json (view : SceneView) : Json :=
  .obj view.fields

/-- `{ surfaces: [] }`. -/
def SceneView.blank : SceneView where
  fields := [("surfaces", .arr [])]

/-- `agent_scenes`. -/
structure AgentScene where
  organizationId : String
  userId : String
  agentId : String
  sceneId : String
  revision : Nat
  view : SceneView
  createdAt : Nat
  updatedAt : Nat
deriving Repr

/-- The primary key of a scene. -/
def AgentScene.key (scene : AgentScene) : String × String :=
  (scene.agentId, scene.sceneId)

/-- An operation of a patch. -/
structure SceneOperation where
  op : String
  path : String
  value : Json
deriving Repr

/-- The operation that puts a view in the place of the one before it. -/
def replaceView (view : SceneView) : SceneOperation where
  op := "replace"
  path := "/view"
  value := view.json

/-- `agent_scene_events`. -/
structure SceneEvent where
  id : String
  organizationId : String
  userId : String
  agentId : String
  sceneId : String
  baseRevision : Nat
  revision : Nat
  operations : List SceneOperation
  createdAt : Nat
deriving Repr

/-- The scene that an event is about. -/
def SceneEvent.key (event : SceneEvent) : String × String :=
  (event.agentId, event.sceneId)

/-- An Agent, as far as its scenes go. -/
structure SceneAgent where
  id : String
  organizationId : String
  ownerUserId : String
deriving Repr

/-- The tables of scenes. -/
structure SceneStore where
  agents : List SceneAgent
  scenes : List AgentScene
  events : List SceneEvent

/-- The events of a scene. -/
def SceneStore.eventsOf (store : SceneStore) (key : String × String) : List SceneEvent :=
  store.events.filter fun event => decide (event.key = key)

/-! ### Arguments and answers -/

/-- A scene and its owner, as a caller names them. -/
structure SceneQuery where
  organizationId : String
  userId : String
  agentId : String
  sceneId : String
deriving Repr, DecidableEq

/-- The scene that a caller names. -/
def SceneQuery.key (query : SceneQuery) : String × String :=
  (query.agentId, query.sceneId)

/-- The row that a caller names. -/
def SceneQuery.isScene (query : SceneQuery) (scene : AgentScene) : Bool :=
  scene.organizationId = query.organizationId && scene.userId = query.userId &&
    scene.agentId = query.agentId && scene.sceneId = query.sceneId

/-- An event of the scene that a caller names. -/
def SceneQuery.isEvent (query : SceneQuery) (event : SceneEvent) : Bool :=
  event.organizationId = query.organizationId && event.userId = query.userId &&
    event.agentId = query.agentId && event.sceneId = query.sceneId

/-- The Agent that a caller names, if it is the caller's. -/
def SceneQuery.isAgent (query : SceneQuery) (agent : SceneAgent) : Bool :=
  agent.id = query.agentId && agent.organizationId = query.organizationId &&
    agent.ownerUserId = query.userId

/-- The argument of `ensureAgentScene`. -/
structure SceneInput extends SceneQuery where
  view : Option SceneView := none

/-- The actions of an intent. -/
inductive SceneAction where
  | navigate | command | refresh | resync
deriving Repr, DecidableEq

/-- The argument of `applyAgentSceneIntent`. -/
structure SceneIntentInput extends SceneQuery where
  action : SceneAction
  view : Option SceneView := none
  eventId : Option String := none
  expectedRevision : Option Int := none

/-- `expectedRevision !== undefined && Number(expectedRevision) !== revision`. -/
def SceneIntentInput.conflicts (input : SceneIntentInput) (scene : AgentScene) : Bool :=
  input.expectedRevision.any fun expected => decide (expected ≠ (scene.revision : Int))

/-- What `applyAgentSceneIntent` answers about a scene. -/
structure SceneAnswer where
  conflict : Bool := false
  scene : AgentScene
  patch : Option SceneEvent
deriving Repr

/-- The scene that `ensureAgentScene` creates. -/
def SceneInput.created (input : SceneInput) (view : SceneView) (now : Nat) : AgentScene where
  organizationId := input.organizationId
  userId := input.userId
  agentId := input.agentId
  sceneId := input.sceneId
  revision := 0
  view := view
  createdAt := now
  updatedAt := now

/-- A scene after an intent. -/
def AgentScene.advance (view : SceneView) (now : Nat) (scene : AgentScene) : AgentScene :=
  { scene with revision := scene.revision + 1, view := view, updatedAt := now }

/-- The event of an intent. -/
def AgentScene.event (scene : AgentScene) (id : String) (operations : List SceneOperation)
    (now : Nat) : SceneEvent where
  id := id
  organizationId := scene.organizationId
  userId := scene.userId
  agentId := scene.agentId
  sceneId := scene.sceneId
  baseRevision := scene.revision
  revision := scene.revision + 1
  operations := operations
  createdAt := now

/-- The clock and the random identifier of a call. -/
structure SceneEnv where
  now : Nat
  uuid : String

/-- The argument of `listAgentSceneEvents`. -/
structure SceneEventsInput extends SceneQuery where
  afterRevision : Option Int := none
  limit : Option Int := none

/-- `Math.max(0, Number(afterRevision) || 0)`. -/
def SceneEventsInput.cursor (input : SceneEventsInput) : Nat :=
  (input.afterRevision.getD 0).toNat

/-- `Math.max(1, Math.min(Number(limit) || 100, 500))`. -/
def SceneEventsInput.pageSize (input : SceneEventsInput) : Nat :=
  clamped 1 100 500 input.limit

/-! ### Replay -/

/-- `operation.value && typeof operation.value === "object"`. -/
def Json.isObject : Json → Bool
  | .arr _ | .obj _ => true
  | _ => false

/-- `applyOperation`. -/
def applyOperation (view : Json) (operation : SceneOperation) : Json :=
  if operation.path ≠ "/view" then view
  else if operation.op ≠ "replace" ∧ operation.op ≠ "add" then view
  else if operation.value.isObject then operation.value else view

/-- A view after the operations of an event. -/
def applyEvent (view : Json) (event : SceneEvent) : Json :=
  event.operations.foldl applyOperation view

/-- An operation that replaces the view leaves its own. -/
@[simp] theorem applyOperation_replaceView (view : Json) (next : SceneView) :
    applyOperation view (replaceView next) = next.json := by
  simp only [applyOperation, replaceView, ne_eq, not_true_eq_false, if_false, false_and,
    SceneView.json, Json.isObject, if_true]

end BairuiPlatform
