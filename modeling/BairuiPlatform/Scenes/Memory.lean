/-
Module: BairuiPlatform.Scenes.Memory
Purpose: The methods of MemoryPlatformRepository on scenes.
Trusted boundary: none
Main exports: Memory.ensureAgentScene, Memory.getAgentScene, Memory.applyAgentSceneIntent,
  Memory.listAgentSceneEvents
-/
import BairuiPlatform.Foundations.Tickets
import BairuiPlatform.Scenes.Rows

namespace BairuiPlatform.Memory

open Foundations

/-- The key of a scene in `#agentScenes`. -/
def sceneKey (agentId sceneId : String) : String :=
  agentId ++ ":" ++ sceneId

/-- The scene that `#agentScenes` has under the key of a query. -/
def isKeyed (query : SceneQuery) (scene : AgentScene) : Bool :=
  sceneKey scene.agentId scene.sceneId = sceneKey query.agentId query.sceneId

/-- The scene belongs to the caller. -/
def isOwned (query : SceneQuery) (scene : AgentScene) : Bool :=
  scene.organizationId = query.organizationId && scene.userId = query.userId

/-- `ensureAgentScene`. -/
def ensureAgentScene (env : SceneEnv) (input : SceneInput) (store : SceneStore) :
    Option AgentScene × SceneStore :=
  match store.agents.find? fun agent => decide (agent.id = input.agentId) with
  | none => (none, store)
  | some agent =>
      if agent.organizationId ≠ input.organizationId ∨ agent.ownerUserId ≠ input.userId then
        (none, store)
      else
        match store.scenes.find? (isKeyed input.toSceneQuery) with
        | some existing => (some existing, store)
        | none =>
            let scene := input.created (input.view.getD .blank) env.now
            (some scene, { store with scenes := store.scenes ++ [scene] })

/-- `getAgentScene`. -/
def getAgentScene (query : SceneQuery) (store : SceneStore) : Option AgentScene :=
  (store.scenes.find? (isKeyed query)).filter (isOwned query)

/-- `applyAgentSceneIntent`. -/
def applyAgentSceneIntent (env : SceneEnv) (input : SceneIntentInput) (store : SceneStore) :
    Option SceneAnswer × SceneStore :=
  match getAgentScene input.toSceneQuery store with
  | none => (none, store)
  | some scene =>
      if input.action = .resync then (some { scene := scene, patch := none }, store)
      else if input.conflicts scene then
        (some { conflict := true, scene := scene, patch := none }, store)
      else
        let view := input.view.getD scene.view
        let patch := scene.event (input.eventId.getD env.uuid) [replaceView view] env.now
        (some { scene := scene.advance view env.now, patch := some patch },
          { store with
            scenes := updateFirst (isKeyed input.toSceneQuery) (AgentScene.advance view env.now)
              store.scenes
            events := store.events ++ [patch] })

/-- `listAgentSceneEvents`. -/
def listAgentSceneEvents (input : SceneEventsInput) (store : SceneStore) : List SceneEvent :=
  (store.events.filter fun event =>
    input.isEvent event && decide (input.cursor < event.revision)).take input.pageSize

end BairuiPlatform.Memory
