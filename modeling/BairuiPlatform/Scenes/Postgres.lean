/-
Module: BairuiPlatform.Scenes.Postgres
Purpose: The methods of PostgresPlatformRepository on scenes.
Trusted boundary: foreign keys to organizations and users hold; jsonb keeps the values of an
  object and refuses the null character
Main exports: Json.stored?, Postgres.ensureAgentScene, Postgres.getAgentScene,
  Postgres.applyAgentSceneIntent, Postgres.listAgentSceneEvents
-/
import BairuiPlatform.Foundations.Transaction
import BairuiPlatform.Scenes.Rows

namespace BairuiPlatform

open Foundations

/-! ### Columns -/

namespace Json

/-- The order of property names in jsonb: by length, then by their bytes. -/
def storedLe (first second : String × Json) : Prop :=
  first.1.utf8ByteSize < second.1.utf8ByteSize ∨
    (first.1.utf8ByteSize = second.1.utf8ByteSize ∧ first.1 ≤ second.1)

instance : DecidableRel storedLe := fun first second =>
  inferInstanceAs (Decidable (first.1.utf8ByteSize < second.1.utf8ByteSize ∨
    (first.1.utf8ByteSize = second.1.utf8ByteSize ∧ first.1 ≤ second.1)))

/-- A text that jsonb has: there is no null character in it. -/
def storedText? (text : String) : Option String :=
  if (chars text).contains '\x00' then none else some text

mutual

/-- What a jsonb column has of a value that the driver sent as its text. -/
def stored? : Json → Option Json
  | .str text => (storedText? text).map .str
  | .arr items => (storedItems? items).map .arr
  | .obj fields => (storedFields? fields).map fun kept => .obj (kept.insertionSort storedLe)
  | value => some value

/-- The items of an array in a jsonb column. -/
def storedItems? : List Json → Option (List Json)
  | [] => some []
  | item :: items => do
      let kept ← stored? item
      let rest ← storedItems? items
      return kept :: rest

/-- The properties of an object in a jsonb column, in the order of the text. -/
def storedFields? : List (String × Json) → Option (List (String × Json))
  | [] => some []
  | (name, value) :: fields => do
      let keptName ← storedText? name
      let kept ← stored? value
      let rest ← storedFields? fields
      return (keptName, kept) :: rest

end

end Json

/-- A view in a jsonb column. -/
def SceneView.stored? (view : SceneView) : Option SceneView :=
  (Json.storedFields? view.fields).map fun kept => { fields := kept.insertionSort Json.storedLe }

/-- An operation in a jsonb column. Its properties are ordered as the column orders them. -/
def SceneOperation.stored? (operation : SceneOperation) : Option SceneOperation := do
  let op ← Json.storedText? operation.op
  let path ← Json.storedText? operation.path
  let value ← operation.value.stored?
  return { op := op, path := path, value := value }

/-- Why a method on scenes throws. -/
inductive SceneFailure where
  | violation (constraint : String)
deriving Repr, DecidableEq

/-- A text that jsonb refuses. -/
def unsupportedUnicode : SceneFailure :=
  .violation "unsupported Unicode escape sequence"

/-- The check of `scene_id`: at most 256 letters, digits and marks, of which the first is a
letter or a digit. -/
def isSceneId (sceneId : String) : Bool :=
  match chars sceneId with
  | [] => false
  | first :: rest =>
      first.isAlphanum && rest.length ≤ 255 &&
        rest.all fun c => c.isAlphanum || ['.', '_', ':', '/', '-'].contains c

namespace Postgres

/-- A method on its connection. -/
abbrev SceneMethod (α : Type) := Tx SceneStore SceneFailure α

/-- `ensureAgentScene`. -/
def ensureAgentScene (env : SceneEnv) (input : SceneInput) : SceneMethod (Option AgentScene) := do
  let owner ← Tx.read fun store => store.agents.find? input.isAgent
  match owner with
  | none => return none
  | some _ =>
      let view ← Tx.orRaise unsupportedUnicode (input.view.getD .blank).stored?
      Tx.insert
        (fun _ => [(isSceneId input.sceneId, .violation "agent_scenes_scene_id_check")])
        fun store =>
          if store.scenes.any fun scene => decide (scene.key = input.key) then store
          else { store with scenes := store.scenes ++ [input.created view env.now] }
      Tx.read fun store => store.scenes.find? input.isScene

/-- `getAgentScene`. -/
def getAgentScene (query : SceneQuery) (store : SceneStore) : Option AgentScene :=
  store.scenes.find? query.isScene

/-- The statement that adds an event. -/
def insertEvent (event : SceneEvent) : SceneMethod Unit :=
  Tx.insert
    (fun store =>
      [(store.events.all fun other => decide (other.id ≠ event.id),
          .violation "agent_scene_events_pkey"),
        (store.events.all fun other =>
            decide (¬(other.key = event.key ∧ other.revision = event.revision)),
          .violation "agent_scene_events_agent_id_scene_id_revision_key")])
    fun store => { store with events := store.events ++ [event] }

/-- `applyAgentSceneIntent`. The row stays locked until the transaction ends. -/
def applyAgentSceneIntent (env : SceneEnv) (input : SceneIntentInput) :
    SceneMethod (Option SceneAnswer) := do
  let current ← Tx.read fun store => store.scenes.find? input.isScene
  match current with
  | none => return none
  | some current =>
      if input.action = .resync then return some { scene := current, patch := none }
      else if input.conflicts current then
        return some { conflict := true, scene := current, patch := none }
      else
        let view := input.view.getD current.view
        let kept ← Tx.orRaise unsupportedUnicode view.stored?
        Tx.write fun store =>
          { store with
            scenes := updateWhere input.isScene (AgentScene.advance kept env.now) store.scenes }
        let operation ← Tx.orRaise unsupportedUnicode (replaceView view).stored?
        let patch := current.event (input.eventId.getD env.uuid) [operation] env.now
        insertEvent patch
        return some { scene := current.advance kept env.now, patch := some patch }

/-- `listAgentSceneEvents`. -/
def listAgentSceneEvents (input : SceneEventsInput) (store : SceneStore) : List SceneEvent :=
  ((store.events.filter fun event =>
      input.isEvent event && decide (input.cursor < event.revision)).insertionSort
    fun first second => first.revision ≤ second.revision).take input.pageSize

end Postgres

end BairuiPlatform
