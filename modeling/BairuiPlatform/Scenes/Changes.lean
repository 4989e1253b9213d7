/-
Module: BairuiPlatform.Scenes.Changes
Purpose: What a call does to the tables of scenes, whichever repository runs it, and what all
  of it keeps.
Trusted boundary: none
Main exports: SceneChange, SceneSound, SceneChange.sound, Memory.sceneResult,
  Postgres.sceneResult, sceneResult_change
-/
import BairuiPlatform.Scenes.Memory
import BairuiPlatform.Scenes.Postgres
import BairuiPlatform.Schema

namespace BairuiPlatform

open Foundations

/-! ### Calls -/

/-- The calls of writers. -/
inductive SceneCall where
  | ensureAgentScene (input : SceneInput)
  | applyAgentSceneIntent (input : SceneIntentInput)

/-- What a call does: nothing, a new scene, or a scene that goes on by one event. -/
inductive SceneChange (store store' : SceneStore) : SceneCall → Option SceneEvent → Prop where
  | idle {call : SceneCall} (same : store' = store) : SceneChange store store' call none
  | create {input : SceneInput} {scene : AgentScene} (fresh : scene.revision = 0)
      (free : ∀ other ∈ store.scenes, other.key ≠ scene.key)
      (scenes : store'.scenes = store.scenes ++ [scene]) (events : store'.events = store.events) :
      SceneChange store store' (.ensureAgentScene input) none
  | apply {input : SceneIntentInput} {scene : AgentScene} {view : SceneView} {now : Nat}
      {id : String} (follows : ¬input.conflicts scene = true)
      (scenes : Replaced scene (scene.advance view now) store.scenes store'.scenes)
      (events : store'.events = store.events ++ [scene.event id [replaceView view] now]) :
      SceneChange store store' (.applyAgentSceneIntent input)
        (some (scene.event id [replaceView view] now))

/-- The events of a scene are a chain from its creation to its revision. -/
structure SceneSound (store : SceneStore) : Prop where
  keys : Keyed AgentScene.key store.scenes
  owned : ∀ event ∈ store.events, ∃ scene ∈ store.scenes, scene.key = event.key ∧
    scene.organizationId = event.organizationId ∧ scene.userId = event.userId
  chains : ∀ scene ∈ store.scenes,
    Chain SceneEvent.baseRevision SceneEvent.revision 0 (store.eventsOf scene.key) scene.revision

@[simp] theorem AgentScene.advance_key (view : SceneView) (now : Nat) (scene : AgentScene) :
    (scene.advance view now).key = scene.key := rfl

@[simp] theorem AgentScene.event_key (scene : AgentScene) (id : String)
    (operations : List SceneOperation) (now : Nat) :
    (scene.event id operations now).key = scene.key := rfl

/-- A patch that replaces the view leaves its own. -/
@[simp] theorem applyEvent_event (view : Json) (scene : AgentScene) (id : String)
    (next : SceneView) (now : Nat) :
    applyEvent view (scene.event id [replaceView next] now) = next.json := by
  simp only [applyEvent, AgentScene.event, List.foldl_cons, List.foldl_nil,
    applyOperation_replaceView]

section Events

variable {store store' : SceneStore} {event : SceneEvent}

theorem eventsOf_same (events : store'.events = store.events) (key : String × String) :
    store'.eventsOf key = store.eventsOf key := by
  rw [SceneStore.eventsOf, events]
  rfl

/-- A new event of a scene is its last one. -/
theorem eventsOf_own (events : store'.events = store.events ++ [event]) :
    store'.eventsOf event.key = store.eventsOf event.key ++ [event] := by
  rw [SceneStore.eventsOf, events, List.filter_append]
  congr 1
  exact List.filter_cons_of_pos (decide_eq_true rfl)

/-- Other scenes do not get the event. -/
theorem eventsOf_other (events : store'.events = store.events ++ [event])
    {key : String × String} (apart : event.key ≠ key) :
    store'.eventsOf key = store.eventsOf key := by
  rw [SceneStore.eventsOf, events, List.filter_append]
  have none : [event].filter (fun event => decide (event.key = key)) = [] :=
    List.filter_cons_of_neg (by simpa using apart)
  rw [none, List.append_nil]
  rfl

end Events

/-- Every change keeps the chains. -/
theorem SceneChange.sound {store store' : SceneStore} {call : SceneCall}
    {patch : Option SceneEvent} (change : SceneChange store store' call patch)
    (sound : SceneSound store) :
    SceneSound store' := by
  cases change with
  | idle same =>
      rw [same]
      exact sound
  | @create input scene fresh free scenes events =>
      constructor
      case keys =>
        rw [scenes]
        exact sound.keys.snoc free
      case owned =>
        intro event member
        rw [events] at member
        obtain ⟨owner, ownerMem, owns⟩ := sound.owned event member
        rw [scenes]
        exact ⟨owner, List.mem_append_left _ ownerMem, owns⟩
      case chains =>
        intro other member
        rw [eventsOf_same events]
        rw [scenes] at member
        rcases List.mem_append.mp member with old | new
        · exact sound.chains other old
        · obtain rfl := List.mem_singleton.mp new
          have none : store.eventsOf other.key = [] := by
            apply List.filter_eq_nil_iff.mpr
            intro event eventMem own
            obtain ⟨owner, ownerMem, same, -⟩ := sound.owned event eventMem
            exact free owner ownerMem (same.trans (of_decide_eq_true own))
          rw [none, fresh]
          exact .done 0
  | @apply input scene view now id follows scenes events =>
      have keys : Keyed AgentScene.key store'.scenes := by
        unfold Keyed
        rw [scenes.grown.map_eq]
        · exact sound.keys
        · intro old new later
          rcases later with rfl | ⟨rfl, rfl⟩
          · rfl
          · exact AgentScene.advance_key view now _
      constructor
      case keys => exact keys
      case owned =>
        intro event member
        rw [events] at member
        rcases List.mem_append.mp member with old | new
        · obtain ⟨owner, ownerMem, owns⟩ := sound.owned event old
          by_cases advanced : owner = scene
          · subst advanced
            exact ⟨_, scenes.new_mem, owns⟩
          · exact ⟨owner, scenes.mem_of_ne ownerMem advanced, owns⟩
        · obtain rfl := List.mem_singleton.mp new
          exact ⟨_, scenes.new_mem, rfl, rfl, rfl⟩
      case chains =>
        intro other member
        by_cases same : other.key = scene.key
        · have advanced := keys.eq_of_key_eq member scenes.new_mem same
          have grown := eventsOf_own events
          rw [AgentScene.event_key] at grown
          rw [advanced, AgentScene.advance_key, grown]
          exact (sound.chains scene scenes.old_mem).snoc rfl rfl
        · rw [eventsOf_other events (Ne.symm same)]
          rcases scenes.cases_of_mem member with advanced | old
          · rw [advanced] at same
            exact absurd rfl same
          · exact sound.chains other old

/-! ### Results -/

/-- What a call comes to: the event that it answered with, and the tables after it. -/
structure SceneResult where
  patch : Option SceneEvent := none
  store : SceneStore

/-- A call of `MemoryPlatformRepository`. -/
def Memory.sceneResult (env : SceneEnv) (call : SceneCall) (store : SceneStore) : SceneResult :=
  match call with
  | .ensureAgentScene input => { store := (ensureAgentScene env input store).2 }
  | .applyAgentSceneIntent input =>
      let answer := applyAgentSceneIntent env input store
      { patch := answer.1.bind SceneAnswer.patch, store := answer.2 }

/-- A call of `PostgresPlatformRepository`, whose connection is lost before a statement, if it
is. -/
def Postgres.sceneResult (env : SceneEnv) (fault : Option Nat) (call : SceneCall)
    (store : SceneStore) : SceneResult :=
  match call with
  | .ensureAgentScene input =>
      { store := ((ensureAgentScene env input).inTransaction fault store).2 }
  | .applyAgentSceneIntent input =>
      match (applyAgentSceneIntent env input).inTransaction fault store with
      | (.ok answer, final) => { patch := answer.bind SceneAnswer.patch, store := final }
      | (.error _, final) => { store := final }

/-- A call with its clock reading, its random identifier and its fault, if it has one. -/
structure SceneStep where
  env : SceneEnv
  fault : Option Nat
  call : SceneCall

/-- What a step comes to on a repository. -/
def SceneStep.result (repository : Repository) (step : SceneStep) (store : SceneStore) :
    SceneResult :=
  match repository with
  | .memory => Memory.sceneResult step.env step.call store
  | .postgres => Postgres.sceneResult step.env step.fault step.call store

namespace Memory

variable {env : SceneEnv} {store : SceneStore}

theorem isKeyed_of_key {query : SceneQuery} {scene : AgentScene} (same : scene.key = query.key) :
    isKeyed query scene = true := by
  obtain ⟨agent, id⟩ := Prod.mk.inj same
  exact decide_eq_true (by rw [agent, id])

theorem ensureAgentScene_change (input : SceneInput) :
    SceneChange store (ensureAgentScene env input store).2
      (.ensureAgentScene input) none := by
  unfold ensureAgentScene
  split
  · exact .idle rfl
  · split
    · exact .idle rfl
    · split
      · exact .idle rfl
      · rename_i missing
        have free : ∀ other ∈ store.scenes,
            other.key ≠ (input.created (input.view.getD .blank) env.now).key := by
          intro other member same
          exact List.find?_eq_none.mp missing other member (isKeyed_of_key same)
        exact .create rfl free rfl rfl

theorem applyAgentSceneIntent_change (input : SceneIntentInput) :
    SceneChange store (applyAgentSceneIntent env input store).2 (.applyAgentSceneIntent input)
      ((applyAgentSceneIntent env input store).1.bind SceneAnswer.patch) := by
  unfold applyAgentSceneIntent
  split
  · exact .idle rfl
  · rename_i scene found
    obtain ⟨keyed, -⟩ := Option.filter_eq_some_iff.mp found
    split
    · exact .idle rfl
    · split
      · exact .idle rfl
      · rename_i follows
        exact .apply follows (replaced_updateFirst keyed) rfl

end Memory

namespace Postgres

variable {env : SceneEnv} {store final : SceneStore}

/-- What jsonb keeps of an operation that replaces the view. -/
theorem stored?_replaceView {view kept : SceneView} {operation : SceneOperation}
    (column : view.stored? = some kept)
    (stored : (replaceView view).stored? = some operation) : operation = replaceView kept := by
  obtain ⟨fields, read, rfl⟩ := Option.map_eq_some_iff.mp column
  have value : view.json.stored? =
      some (SceneView.json { fields := fields.insertionSort Json.storedLe }) := by
    rw [SceneView.json, Json.stored?, read]
    rfl
  have op : Json.storedText? "replace" = some "replace" := by decide
  have path : Json.storedText? "/view" = some "/view" := by decide
  simp only [SceneOperation.stored?, replaceView, op, path, value, Option.bind_eq_bind,
    Option.bind_some, Option.pure_def, Option.some.injEq] at stored
  exact stored.symm

/-- A row that a caller names has the key. -/
theorem key_of_isScene {query : SceneQuery} {scene : AgentScene}
    (named : query.isScene scene = true) : scene.key = query.key := by
  simp only [SceneQuery.isScene, Bool.and_eq_true, decide_eq_true_eq] at named
  obtain ⟨⟨-, agent⟩, id⟩ := named
  rw [AgentScene.key, agent, id]
  rfl

theorem ensureAgentScene_change {input : SceneInput} {answer : Option AgentScene}
    (ran : (ensureAgentScene env input).eval store = .ok (answer, final)) :
    SceneChange store final (.ensureAgentScene input) none := by
  unfold ensureAgentScene at ran
  simp only [Tx.eval_read_bind] at ran
  split at ran
  · cases ran
    exact .idle rfl
  · simp only [Tx.eval_bind_ok, Tx.eval_orRaise_ok, Tx.eval_insert_ok] at ran
    obtain ⟨view, store, ⟨-, rfl⟩, _, _, ⟨-, rfl⟩, read⟩ := ran
    cases read
    split
    · exact .idle rfl
    · rename_i missing
      have free : ∀ other ∈ store.scenes, other.key ≠ (input.created view env.now).key := by
        intro other member same
        exact missing (List.any_eq_true.mpr ⟨other, member, decide_eq_true same⟩)
      exact .create rfl free rfl rfl

theorem applyAgentSceneIntent_change {input : SceneIntentInput} {answer : Option SceneAnswer}
    (keys : Keyed AgentScene.key store.scenes)
    (ran : (applyAgentSceneIntent env input).eval store = .ok (answer, final)) :
    SceneChange store final (.applyAgentSceneIntent input) (answer.bind SceneAnswer.patch) := by
  unfold applyAgentSceneIntent at ran
  simp only [Tx.eval_read_bind] at ran
  split at ran
  · cases ran
    exact .idle rfl
  · rename_i scene found
    split at ran
    · cases ran
      exact .idle rfl
    · split at ran
      · cases ran
        exact .idle rfl
      · rename_i follows
        simp only [Tx.eval_bind_ok, Tx.eval_orRaise_ok, Tx.eval_write_bind, insertEvent,
          Tx.eval_insert_ok] at ran
        obtain ⟨kept, _, ⟨column, rfl⟩, operation, _, ⟨stored, rfl⟩, _, _, ⟨-, rfl⟩, done⟩ := ran
        cases done
        obtain rfl := stored?_replaceView column stored
        have named := List.find?_some found
        have only : ∀ other, input.isScene other = true → other.key = scene.key := by
          intro other chosen
          exact (key_of_isScene chosen).trans (key_of_isScene named).symm
        exact .apply follows (.of_keyed keys (List.mem_of_find?_eq_some found) named only) rfl

end Postgres

/-! ### Steps -/

/-- What a step does to the tables. -/
theorem sceneResult_change (repository : Repository) (step : SceneStep) {store : SceneStore}
    (sound : SceneSound store) :
    SceneChange store (step.result repository store).store step.call
      (step.result repository store).patch := by
  obtain ⟨env, fault, call⟩ := step
  cases repository with
  | memory =>
      cases call with
      | ensureAgentScene input => exact Memory.ensureAgentScene_change input
      | applyAgentSceneIntent input => exact Memory.applyAgentSceneIntent_change input
  | postgres =>
      cases call with
      | ensureAgentScene input =>
          simp only [SceneStep.result, Postgres.sceneResult]
          rcases Tx.inTransaction_cases (Postgres.ensureAgentScene env input) fault store with
            ⟨answer, final, ran, ended⟩ | ⟨interruption, ended⟩
          · rw [ended]
            exact Postgres.ensureAgentScene_change ran
          · rw [ended]
            exact .idle rfl
      | applyAgentSceneIntent input =>
          simp only [SceneStep.result, Postgres.sceneResult]
          rcases Tx.inTransaction_cases (Postgres.applyAgentSceneIntent env input) fault store with
            ⟨answer, final, ran, ended⟩ | ⟨interruption, ended⟩
          · rw [ended]
            exact Postgres.applyAgentSceneIntent_change sound.keys ran
          · rw [ended]
            exact .idle rfl

end BairuiPlatform
