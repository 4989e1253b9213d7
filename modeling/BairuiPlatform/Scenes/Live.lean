/-
Module: BairuiPlatform.Scenes.Live
Purpose: Writers of a scene, a connection that streams its events, and the client that shows
  it, in any order.
Trusted boundary: a connection delivers what was written to it in order, until it closes; a
  client connects after its first snapshot
Main exports: LiveState, liveSystem, live_sound, live_scene_truthful_iff
-/
import BairuiPlatform.Scenes.Client
import BairuiPlatform.Scenes.System

namespace BairuiPlatform

open Foundations

/-! ### Runs -/

/-- An answer of the server that has not reached the client. -/
inductive HostAnswer where
  | snapshot (body : Json)
  | command (result : Json)

/-- The client after an answer. Before its first snapshot it shows nothing. -/
def HostAnswer.shown (client : Option ClientScene) : HostAnswer → Option ClientScene
  | .snapshot body => some (sceneFromSnapshot body)
  | .command result => client.map (ClientScene.command result)

/-- `getAgentScene`. -/
def getAgentScene (repository : Repository) (query : SceneQuery) (store : SceneStore) :
    Option AgentScene :=
  match repository with
  | .memory => Memory.getAgentScene query store
  | .postgres => Postgres.getAgentScene query store

/-- The rows that a repository may find for a query. -/
def sceneRows (repository : Repository) (query : SceneQuery) (store : SceneStore) :
    List AgentScene :=
  match repository with
  | .memory => store.scenes.filter fun scene =>
      Memory.isKeyed query scene && Memory.isOwned query scene
  | .postgres => store.scenes.filter query.isScene

/-- The tables with all that the scene has shown so far, the connection, the answers on their
way, and the client. -/
structure LiveState where
  store : SceneStore
  past : List ClientScene
  connection : Option SceneConnection
  answers : List HostAnswer
  client : Option ClientScene

/-- What may happen next. A request is answered from the tables of its moment; the text that
it brings is for documents that name the owner, a trace and a time. -/
inductive LiveLabel where
  | write (step : SceneStep)
  | load (trace generatedAt : String)
  | command (trace commandId status : String) (refreshed : Option (String × String))
      (patch : Option Json)
  | answer (index : Nat)
  | connect (afterRevision : Nat) (trace : String)
  | poll (limit : Option Int)
  | emit (trace : String)
  | receive
  | disconnect

/-- Whose scene is streamed, and in which panel it is shown. -/
structure LiveScene where
  repository : Repository
  query : SceneQuery
  scope : SceneScope
  panel : ScenePanel

namespace LiveScene

variable (live : LiveScene)

/-- The scene of a moment. -/
def current (state : LiveState) : Option AgentScene :=
  getAgentScene live.repository live.query state.store

/-- A writer's step. -/
def wrote (step : SceneStep) (state : LiveState) : LiveState :=
  let store := (step.result live.repository state.store).store
  { state with
    store := store
    past := state.past ++ (sceneRows live.repository live.query store).map AgentScene.shown }

/-- The next page of the stream. -/
def polled (limit : Option Int) (connection : SceneConnection) (state : LiveState) :
    LiveState :=
  { state with
    connection := some { connection with
      pending := listAgentSceneEvents live.repository
        { toSceneQuery := live.query, afterRevision := some connection.cursor, limit := limit }
        state.store } }

/-- The answer to a command, with the snapshot of the panel if the command answers it. -/
def commandAnswer (trace commandId status : String) (refreshed : Option (String × String))
    (patch : Option Json) (scene : AgentScene) : Json :=
  panelCommandResult live.scope trace commandId status live.panel
    (refreshed.map fun texts => panelSnapshotBody live.scope texts.1 texts.2 live.panel scene)
    patch scene

end LiveScene

/-- The client processes the next event of its connection. -/
def LiveState.received (message : StreamEvent) (connection : SceneConnection)
    (client : ClientScene) (state : LiveState) : LiveState :=
  { state with
    connection := some { connection with received := connection.received + 1 }
    client := some (client.receive message) }

/-- Writers, the stream and the client in any order, from tables without scenes. -/
def liveSystem (live : LiveScene) : TransitionSystem LiveState LiveLabel where
  initial state :=
    state.store.scenes = [] ∧ state.store.events = [] ∧ state.past = [] ∧
      state.connection = none ∧ state.answers = [] ∧ state.client = none
  step before label after :=
    match label with
    | .write step => after = live.wrote step before
    | .load trace generatedAt => ∃ scene, live.current before = some scene ∧
        after = { before with
          answers := before.answers ++
            [.snapshot (panelSnapshotBody live.scope trace generatedAt live.panel scene)] }
    | .command trace commandId status refreshed patch =>
        ∃ scene, live.current before = some scene ∧
          after = { before with
            answers := before.answers ++
              [.command (live.commandAnswer trace commandId status refreshed patch scene)] }
    | .answer index => ∃ answer, before.answers[index]? = some answer ∧
        after = { before with
          answers := before.answers.eraseIdx index
          client := answer.shown before.client }
    | .connect afterRevision trace => before.client.isSome = true ∧
        ∃ scene, live.current before = some scene ∧
          after = { before with
            connection := some
              (SceneConnection.openStream live.scope trace afterRevision scene) }
    | .poll limit => ∃ connection, before.connection = some connection ∧
        connection.pending = [] ∧ after = live.polled limit connection before
    | .emit trace => ∃ connection, before.connection = some connection ∧
        after = { before with
          connection := some
            (connection.emitNext live.scope trace (live.current before)) }
    | .receive => ∃ connection message client, before.connection = some connection ∧
        connection.emitted[connection.received]? = some message ∧
        before.client = some client ∧ after = before.received message connection client
    | .disconnect => after = { before with connection := none }

/-- The client shows a revision of the scene with its view. -/
def LiveState.Truthful (state : LiveState) : Prop :=
  ∀ client, state.client = some client → client ∈ state.past

/-- The patches of the connection follow each other. -/
def LiveState.Linked (state : LiveState) : Prop :=
  ∀ connection, state.connection = some connection → connection.Linked

/-- A snapshot that the client is about to take from its connection shows the view that the
scene had at revision 0. -/
def LiveState.SnapshotsFromStart (state : LiveState) : Prop :=
  ∀ connection message view, state.connection = some connection →
    connection.emitted[connection.received]? = some message → message.event = "scene" →
      message.data.field? "view" = some view →
        { revision := some 0, view := view } ∈ state.past

/-! ### What messages tell -/

/-- An event tells a revision and a view that the scene had. -/
def SceneEvent.Told (past : List ClientScene) (event : SceneEvent) : Prop :=
  ∃ view, event.operations = [replaceView view] ∧
    { revision := some event.revision, view := view.json } ∈ past

/-- A message of the stream was made from a scene or an event. -/
inductive StreamEvent.Told (scope : SceneScope) (past : List ClientScene) : StreamEvent → Prop
  | scene (trace : String) (scene : AgentScene) (id : Nat) (had : scene.shown ∈ past) :
      Told scope past ⟨"scene", sceneEventMessage (sceneSnapshot scope trace scene), id⟩
  | patch (trace : String) (event : SceneEvent) (id : Nat) (had : event.Told past) :
      Told scope past ⟨"scene.patch", sceneEventMessage (scenePatch scope trace event), id⟩

/-- An answer makes a client show what the scene had. -/
def HostAnswer.Told (past : List ClientScene) (answer : HostAnswer) : Prop :=
  ∀ client shown, answer.shown client = some shown → shown ∈ past

/-- What a connection has written, and what it is about to write, was told by the scene. -/
structure SceneConnection.Told (scope : SceneScope) (past : List ClientScene)
    (connection : SceneConnection) : Prop where
  pending : ∀ event ∈ connection.pending, event.Told past
  emitted : ∀ message ∈ connection.emitted, message.Told scope past

section Mono

variable {past past' : List ClientScene} (more : ∀ shown ∈ past, shown ∈ past')
include more

theorem SceneEvent.Told.mono {event : SceneEvent} (told : event.Told past) :
    event.Told past' := by
  obtain ⟨view, replaces, had⟩ := told
  exact ⟨view, replaces, more _ had⟩

theorem StreamEvent.Told.mono {scope : SceneScope} {message : StreamEvent}
    (told : message.Told scope past) : message.Told scope past' := by
  cases told with
  | scene trace scene id had => exact .scene trace scene id (more _ had)
  | patch trace event id had => exact .patch trace event id (had.mono more)

theorem HostAnswer.Told.mono {answer : HostAnswer} (told : answer.Told past) :
    answer.Told past' :=
  fun client shown shows => more shown (told client shown shows)

theorem SceneConnection.Told.mono {scope : SceneScope} {connection : SceneConnection}
    (told : connection.Told scope past) : connection.Told scope past' where
  pending event member := (told.pending event member).mono more
  emitted message member := (told.emitted message member).mono more

end Mono

namespace SceneConnection

variable {scope : SceneScope} {trace : String} {past : List ClientScene}
  {connection : SceneConnection}

theorem Told.emit (told : connection.Told scope past) {message : StreamEvent}
    (had : message.Told scope past) : (connection.emit message).Told scope past where
  pending := told.pending
  emitted := List.forall_mem_append.mpr ⟨told.emitted, List.forall_mem_singleton.mpr had⟩

/-- A connection that drops the rest of its page. -/
theorem Told.withPending (told : connection.Told scope past) {pending : List SceneEvent}
    (had : ∀ event ∈ pending, event.Told past) :
    SceneConnection.Told scope past { connection with pending := pending } where
  pending := had
  emitted := told.emitted

theorem openStream_told (afterRevision : Nat) {scene : AgentScene} (had : scene.shown ∈ past) :
    (openStream scope trace afterRevision scene).Told scope past := by
  have fresh : SceneConnection.Told scope past
      { resumed := afterRevision, cursor := afterRevision } :=
    { pending := List.forall_mem_nil _, emitted := List.forall_mem_nil _ }
  unfold openStream
  dsimp only
  split
  · exact fresh.emit (.scene trace scene scene.revision had)
  · exact fresh

theorem Told.emitNext (told : connection.Told scope past) {latest : Option AgentScene}
    (had : ∀ scene, latest = some scene → scene.shown ∈ past) :
    (emitNext scope trace latest connection).Told scope past := by
  unfold SceneConnection.emitNext
  split
  · exact told
  · rename_i event rest pending
    have page := told.pending
    rw [pending] at page
    obtain ⟨eventTold, restTold⟩ := List.forall_mem_cons.mp page
    split
    · split
      · rename_i scene
        have written := told.emit (.scene trace scene scene.revision (had scene rfl))
        exact written.withPending (List.forall_mem_nil _)
      · exact told.withPending (List.forall_mem_nil _)
    · have written := told.emit (.patch trace event event.revision eventTold)
      exact written.withPending restTold

end SceneConnection

/-- What a client shows after a message was told by the scene, unless it is a snapshot: then
it shows the view at revision 0. -/
theorem StreamEvent.Told.receive {scope : SceneScope} {past : List ClientScene}
    {message : StreamEvent} (told : message.Told scope past) {client : ClientScene}
    (shows : client ∈ past) :
    (message.event = "scene" ∧ ∃ view, message.data.field? "view" = some view ∧
      client.receive message = { revision := some 0, view := view }) ∨
    (message.event ≠ "scene" ∧ client.receive message ∈ past) := by
  cases told with
  | scene trace scene id had =>
      refine Or.inl ⟨rfl, scene.view.json, ?_, ?_⟩
      · rw [sceneEventMessage_snapshot]
        simp [Json.field?]
      · rw [ClientScene.receive, if_pos rfl]
        exact sceneFromSnapshot_message scope trace scene
  | patch trace event id had =>
      have apart : "scene.patch" ≠ "scene" := by decide
      refine Or.inr ⟨apart, ?_⟩
      obtain ⟨view, replaces, had⟩ := had
      rw [ClientScene.receive, if_neg apart, if_pos rfl]
      rcases receivePatch_cases scope trace client replaces with same | taken
      · rw [same]
        exact shows
      · rw [taken]
        exact had

/-! ### What every step keeps -/

/-- All that is on its way was told by the scene. -/
structure LiveSound (live : LiveScene) (state : LiveState) : Prop where
  tables : SceneSound state.store
  rows : ∀ scene ∈ sceneRows live.repository live.query state.store, scene.shown ∈ state.past
  events : ∀ event ∈ state.store.named live.query, event.Told state.past
  connection : ∀ connection, state.connection = some connection →
    connection.Told live.scope state.past
  answers : ∀ answer ∈ state.answers, answer.Told state.past
  linked : state.Linked

theorem mem_sceneRows {repository : Repository} {query : SceneQuery} {store : SceneStore}
    {scene : AgentScene} (found : getAgentScene repository query store = some scene) :
    scene ∈ sceneRows repository query store := by
  cases repository with
  | memory =>
      obtain ⟨keyed, owned⟩ := Option.filter_eq_some_iff.mp found
      apply List.mem_filter.mpr
      exact ⟨List.mem_of_find?_eq_some keyed,
        Bool.and_eq_true_iff.mpr ⟨List.find?_some keyed, owned⟩⟩
  | postgres =>
      exact List.mem_filter.mpr ⟨List.mem_of_find?_eq_some found, List.find?_some found⟩

theorem mem_sceneRows_of_isScene {repository : Repository} {query : SceneQuery}
    {store : SceneStore} {scene : AgentScene} (member : scene ∈ store.scenes)
    (own : query.isScene scene = true) : scene ∈ sceneRows repository query store := by
  cases repository with
  | memory =>
      have keyed := Memory.isKeyed_of_key (Postgres.key_of_isScene own)
      have owned : Memory.isOwned query scene = true :=
        (Bool.and_eq_true_iff.mp (Bool.and_eq_true_iff.mp own).1).1
      exact List.mem_filter.mpr ⟨member, Bool.and_eq_true_iff.mpr ⟨keyed, owned⟩⟩
  | postgres => exact List.mem_filter.mpr ⟨member, own⟩

/-- An event that a step adds tells the scene after the step. -/
theorem SceneChange.told {repository : Repository} {query : SceneQuery}
    {store store' : SceneStore} {call : SceneCall} {patch : Option SceneEvent}
    {past : List ClientScene} (change : SceneChange store store' call patch)
    (old : ∀ event ∈ store.named query, event.Told past)
    (rows : ∀ scene ∈ sceneRows repository query store', scene.shown ∈ past) :
    ∀ event ∈ store'.named query, event.Told past := by
  intro event member
  obtain ⟨stored, listed⟩ := List.mem_filter.mp member
  have before : event ∈ store.events → event.Told past := by
    intro known
    exact old event (List.mem_filter.mpr ⟨known, listed⟩)
  cases change with
  | idle same =>
      rw [same] at stored
      exact before stored
  | create fresh free scenes events =>
      rw [events] at stored
      exact before stored
  | @apply input scene view now id follows scenes events =>
      rw [events] at stored
      rcases List.mem_append.mp stored with known | new
      · exact before known
      · obtain rfl := List.mem_singleton.mp new
        have own : query.isScene (scene.advance view now) = true := listed
        have had := rows _ (mem_sceneRows_of_isScene scenes.new_mem own)
        exact ⟨view, rfl, had⟩

theorem liveSystem_initial {live : LiveScene} {state : LiveState}
    (started : (liveSystem live).initial state) : LiveSound live state := by
  obtain ⟨scenes, events, -, connection, answers, -⟩ := started
  constructor
  case tables =>
    constructor
    case keys =>
      rw [scenes]
      exact List.nodup_nil
    case owned =>
      rw [events]
      exact List.forall_mem_nil _
    case chains =>
      rw [scenes]
      exact List.forall_mem_nil _
  case rows =>
    intro scene member
    have none : sceneRows live.repository live.query state.store = [] := by
      unfold sceneRows
      rw [scenes]
      cases live.repository <;> rfl
    rw [none] at member
    cases member
  case events =>
    rw [SceneStore.named, events]
    exact List.forall_mem_nil _
  case connection =>
    intro opened same
    rw [connection] at same
    cases same
  case answers =>
    rw [answers]
    exact List.forall_mem_nil _
  case linked =>
    intro opened same
    rw [connection] at same
    cases same

theorem LiveSound.wrote {live : LiveScene} {state : LiveState} (sound : LiveSound live state)
    (step : SceneStep) : LiveSound live (live.wrote step state) := by
  have change := sceneResult_change live.repository step sound.tables
  have more : ∀ shown ∈ state.past, shown ∈ (live.wrote step state).past :=
    fun shown had => List.mem_append_left _ had
  have rows : ∀ scene ∈ sceneRows live.repository live.query (live.wrote step state).store,
      scene.shown ∈ (live.wrote step state).past := by
    intro scene member
    exact List.mem_append_right _ (List.mem_map_of_mem member)
  constructor
  case tables => exact change.sound sound.tables
  case rows => exact rows
  case events => exact change.told (fun event member => (sound.events event member).mono more) rows
  case connection =>
    intro connection same
    exact (sound.connection connection same).mono more
  case answers =>
    intro answer member
    exact (sound.answers answer member).mono more
  case linked => exact sound.linked

section Keeps

variable {live : LiveScene} {state : LiveState}

/-- The scene of a moment was shown. -/
theorem LiveSound.current (sound : LiveSound live state) {scene : AgentScene}
    (found : live.current state = some scene) : scene.shown ∈ state.past :=
  sound.rows scene (mem_sceneRows found)

/-- A step that leaves the tables, and after which connection and answers are told. -/
theorem LiveSound.keep (sound : LiveSound live state) {after : LiveState}
    (store : after.store = state.store) (past : after.past = state.past)
    (connection : ∀ connection, after.connection = some connection →
      connection.Told live.scope state.past ∧ connection.Linked)
    (answers : ∀ answer ∈ after.answers, answer.Told state.past) : LiveSound live after := by
  constructor
  case tables =>
    rw [store]
    exact sound.tables
  case rows =>
    rw [store, past]
    exact sound.rows
  case events =>
    rw [store, past]
    exact sound.events
  case connection =>
    rw [past]
    exact fun opened same => (connection opened same).1
  case answers =>
    rw [past]
    exact answers
  case linked => exact fun opened same => (connection opened same).2

/-- The connections of a sound state. -/
theorem LiveSound.connections (sound : LiveSound live state) {connection : SceneConnection}
    (open' : state.connection = some connection) :
    connection.Told live.scope state.past ∧ connection.Linked :=
  ⟨sound.connection connection open', sound.linked connection open'⟩

/-- One more answer is on its way. -/
theorem LiveSound.asks (sound : LiveSound live state) {answer : HostAnswer}
    (told : answer.Told state.past) :
    LiveSound live { state with answers := state.answers ++ [answer] } := by
  apply LiveSound.keep sound
  · rfl
  · rfl
  · intro connection same
    exact sound.connections same
  · exact List.forall_mem_append.mpr ⟨sound.answers, List.forall_mem_singleton.mpr told⟩

/-- Another connection takes the place of the one before it. -/
theorem LiveSound.connects (sound : LiveSound live state) {connection : SceneConnection}
    (told : connection.Told live.scope state.past) (linked : connection.Linked) :
    LiveSound live { state with connection := some connection } := by
  apply LiveSound.keep sound
  · rfl
  · rfl
  · intro opened same
    obtain rfl := Option.some.inj same
    exact ⟨told, linked⟩
  · exact sound.answers

/-- The answer to a request tells the scene of its moment. -/
theorem snapshot_told {past : List ClientScene} {scene : AgentScene} (had : scene.shown ∈ past)
    (scope : SceneScope) (trace generatedAt : String) (panel : ScenePanel) :
    (HostAnswer.snapshot (panelSnapshotBody scope trace generatedAt panel scene)).Told past := by
  intro client shown shows
  rw [HostAnswer.shown, sceneFromSnapshot_panel] at shows
  exact Option.some.inj shows ▸ had

/-- The answer to a command tells the scene of its moment. -/
theorem command_told {past : List ClientScene} {scene : AgentScene} (had : scene.shown ∈ past)
    (live : LiveScene) (trace commandId status : String) (refreshed : Option (String × String))
    (patch : Option Json) :
    (HostAnswer.command
      (live.commandAnswer trace commandId status refreshed patch scene)).Told past := by
  intro client shown shows
  obtain ⟨before, -, rfl⟩ := Option.map_eq_some_iff.mp shows
  rw [LiveScene.commandAnswer, command_shown]
  · exact had
  · intro body same
    obtain ⟨texts, -, rfl⟩ := Option.map_eq_some_iff.mp same
    exact ⟨texts.1, texts.2, rfl⟩

/-- Every step keeps what is on its way told by the scene. -/
theorem LiveSound.step (sound : LiveSound live state) {label : LiveLabel} {after : LiveState}
    (taken : (liveSystem live).step state label after) : LiveSound live after := by
  cases label with
  | write step =>
      obtain rfl : after = _ := taken
      exact sound.wrote step
  | load trace generatedAt =>
      obtain ⟨scene, found, rfl⟩ := taken
      exact sound.asks (snapshot_told (sound.current found) _ _ _ _)
  | command trace commandId status refreshed patch =>
      obtain ⟨scene, found, rfl⟩ := taken
      exact sound.asks (command_told (sound.current found) _ _ _ _ _ _)
  | answer index =>
      obtain ⟨answer, arrived, rfl⟩ := taken
      apply LiveSound.keep sound
      · rfl
      · rfl
      · intro connection same
        exact sound.connections same
      · intro other member
        exact sound.answers other (List.mem_of_mem_eraseIdx member)
  | connect afterRevision trace =>
      obtain ⟨-, scene, found, rfl⟩ := taken
      apply sound.connects
      · exact SceneConnection.openStream_told afterRevision (sound.current found)
      · exact SceneConnection.openStream_linked afterRevision scene
  | poll limit =>
      obtain ⟨connection, opened, -, rfl⟩ := taken
      obtain ⟨told, linked⟩ := sound.connections opened
      apply sound.connects
      · apply told.withPending
        intro event member
        rw [listAgentSceneEvents_eq sound.tables] at member
        exact sound.events event (List.mem_of_mem_filter (List.mem_of_mem_take member))
      · exact { emitted := linked.emitted, cursor := linked.cursor }
  | emit trace =>
      obtain ⟨connection, opened, rfl⟩ := taken
      obtain ⟨told, linked⟩ := sound.connections opened
      apply sound.connects
      · exact told.emitNext fun scene found => sound.current found
      · exact linked.emitNext _
  | receive =>
      obtain ⟨connection, message, client, opened, -, -, rfl⟩ := taken
      obtain ⟨told, linked⟩ := sound.connections opened
      apply LiveSound.keep sound
      · rfl
      · rfl
      · intro other same
        obtain rfl := Option.some.inj same
        exact ⟨{ pending := told.pending, emitted := told.emitted },
          { emitted := linked.emitted, cursor := linked.cursor }⟩
      · exact sound.answers
  | disconnect =>
      obtain rfl : after = _ := taken
      apply LiveSound.keep sound
      · rfl
      · rfl
      · intro connection same
        cases same
      · exact sound.answers

/-- A client that showed the scene goes on showing it after every step other than the receipt
of a snapshot, and after that one just when the view is the one at revision 0. -/
theorem LiveSound.truthful_iff (sound : LiveSound live state) {label : LiveLabel}
    {after : LiveState} (taken : (liveSystem live).step state label after)
    (truthful : state.Truthful) :
    after.Truthful ↔ (label = .receive → state.SnapshotsFromStart) := by
  have others : after.past = state.past ∧ after.client = state.client → label ≠ .receive →
      (after.Truthful ↔ (label = .receive → state.SnapshotsFromStart)) := by
    intro same other
    refine iff_of_true ?_ fun received => absurd received other
    intro client shows
    rw [same.2] at shows
    rw [same.1]
    exact truthful client shows
  cases label with
  | write step =>
      obtain rfl : after = _ := taken
      refine iff_of_true ?_ nofun
      intro client shows
      exact List.mem_append_left _ (truthful client shows)
  | load trace generatedAt =>
      obtain ⟨scene, found, rfl⟩ := taken
      exact others ⟨rfl, rfl⟩ nofun
  | command trace commandId status refreshed patch =>
      obtain ⟨scene, found, rfl⟩ := taken
      exact others ⟨rfl, rfl⟩ nofun
  | answer index =>
      obtain ⟨answer, arrived, rfl⟩ := taken
      refine iff_of_true ?_ nofun
      intro client shows
      exact sound.answers answer (List.mem_of_getElem? arrived) state.client client shows
  | connect afterRevision trace =>
      obtain ⟨-, scene, found, rfl⟩ := taken
      exact others ⟨rfl, rfl⟩ nofun
  | poll limit =>
      obtain ⟨connection, opened, -, rfl⟩ := taken
      exact others ⟨rfl, rfl⟩ nofun
  | emit trace =>
      obtain ⟨connection, opened, rfl⟩ := taken
      exact others ⟨rfl, rfl⟩ nofun
  | disconnect =>
      obtain rfl : after = _ := taken
      exact others ⟨rfl, rfl⟩ nofun
  | receive =>
      obtain ⟨connection, message, client, opened, next, shows, rfl⟩ := taken
      have told := (sound.connection connection opened).emitted message
        (List.mem_of_getElem? next)
      rcases told.receive (truthful client shows) with
        ⟨isScene, view, viewed, shown⟩ | ⟨other, shown⟩
      · constructor
        · intro truthfulAfter _ connection' message' view' opened' next' isScene' viewed'
          obtain rfl := Option.some.inj (opened.symm.trans opened')
          obtain rfl := Option.some.inj (next.symm.trans next')
          obtain rfl := Option.some.inj (viewed.symm.trans viewed')
          exact shown ▸ truthfulAfter _ rfl
        · intro fromStart other shows'
          obtain rfl := Option.some.inj shows'
          rw [shown]
          exact fromStart rfl connection message view opened next isScene viewed
      · refine iff_of_true ?_ ?_
        · intro later shows'
          obtain rfl := Option.some.inj shows'
          exact shown
        · intro _ connection' message' view' opened' next' isScene'
          obtain rfl := Option.some.inj (opened.symm.trans opened')
          obtain rfl := Option.some.inj (next.symm.trans next')
          exact absurd isScene' other

end Keeps

/-! ### Runs of the stream -/

variable {live : LiveScene} {history : List (Transition LiveState LiveLabel)}
  {state : LiveState}

theorem live_sound (run : Run (liveSystem live) history state) : LiveSound live state :=
  run.invariant (LiveSound live) (fun _ started => liveSystem_initial started)
    fun _ _ _ sound taken => sound.step taken

/-- At the end of a run the client is truthful if it was so after every step. -/
theorem truthful_end (run : Run (liveSystem live) history state)
    (truthful : ∀ transition ∈ history, transition.after.Truthful) : state.Truthful := by
  cases run with
  | start initial =>
      intro client shows
      rw [initial.2.2.2.2.2] at shows
      cases shows
  | step run taken => exact truthful _ List.mem_cons_self

/-- The scene of the sample, in its panel. -/
def sampleLive : LiveScene where
  repository := .memory
  query := sampleSceneQuery
  scope :=
    { organizationId := "org-1", userId := "user-1", agentId := "agent-1"
      workspaceId := "workspace-1" }
  panel := { id := "scene-shell", state := "available", reason := .null, data := [] }

/-- An Agent without scenes, and a client without a snapshot. -/
def sampleIdle : LiveState where
  store := sampleNoScenes.store
  past := []
  connection := none
  answers := []
  client := none

/-- The scene was created. -/
def sampleCreatedLive : LiveState :=
  sampleLive.wrote sampleEnsures sampleIdle

/-- The row of the new scene. -/
def sampleFirstRow : AgentScene :=
  SceneInput.created { toSceneQuery := sampleSceneQuery } .blank 100

/-- The row after the owner navigated. -/
def sampleSecondRow : AgentScene :=
  sampleFirstRow.advance { fields := [("navigation", .str "conversations")] } 200

/-- The snapshot of the new scene is on its way. -/
def sampleAsked : LiveState :=
  { sampleCreatedLive with
    answers := [.snapshot (panelSnapshotBody sampleLive.scope "trace-1" "now" sampleLive.panel
      sampleFirstRow)] }

/-- The client shows the new scene. -/
def sampleShown : LiveState :=
  { sampleAsked with
    answers := []
    client := some sampleFirstRow.shown }

/-- The owner navigated. -/
def sampleMoved : LiveState :=
  sampleLive.wrote sampleNavigates sampleShown

/-- The client has connected where it stands. -/
def sampleStream : SceneConnection :=
  SceneConnection.openStream sampleLive.scope "trace-2" 0 sampleSecondRow

/-- The connection is open. -/
def sampleConnected : LiveState :=
  { sampleMoved with connection := some sampleStream }

/-- The message of the stream. -/
def sampleMessage : StreamEvent where
  event := "scene"
  data := sceneEventMessage (sceneSnapshot sampleLive.scope "trace-2" sampleSecondRow)
  id := 1

/-- The client has taken the snapshot of the stream. -/
def sampleMisled : LiveState :=
  sampleConnected.received sampleMessage sampleStream sampleFirstRow.shown

/-- The history of the sample, the last step first. -/
def sampleLiveHistory : List (Transition LiveState LiveLabel) :=
  [⟨sampleConnected, .receive, sampleMisled⟩, ⟨sampleMoved, .connect 0 "trace-2", sampleConnected⟩,
    ⟨sampleShown, .write sampleNavigates, sampleMoved⟩, ⟨sampleAsked, .answer 0, sampleShown⟩,
    ⟨sampleCreatedLive, .load "trace-1" "now", sampleAsked⟩,
    ⟨sampleIdle, .write sampleEnsures, sampleCreatedLive⟩]

theorem sampleLive_run : Run (liveSystem sampleLive) sampleLiveHistory sampleMisled := by
  have start : Run (liveSystem sampleLive) [] sampleIdle := .start ⟨rfl, rfl, rfl, rfl, rfl, rfl⟩
  have created : (liveSystem sampleLive).step sampleIdle (.write sampleEnsures)
      sampleCreatedLive := rfl
  have asked : (liveSystem sampleLive).step sampleCreatedLive (.load "trace-1" "now")
      sampleAsked := ⟨sampleFirstRow, rfl, rfl⟩
  have shown : (liveSystem sampleLive).step sampleAsked (.answer 0) sampleShown := by
    refine ⟨_, rfl, ?_⟩
    simp only [HostAnswer.shown, sceneFromSnapshot_panel]
    rfl
  have moved : (liveSystem sampleLive).step sampleShown (.write sampleNavigates)
      sampleMoved := rfl
  have connected : (liveSystem sampleLive).step sampleMoved (.connect 0 "trace-2")
      sampleConnected := ⟨rfl, sampleSecondRow, rfl, rfl⟩
  have misled : (liveSystem sampleLive).step sampleConnected .receive sampleMisled :=
    ⟨sampleStream, sampleMessage, sampleFirstRow.shown, rfl, rfl, rfl, rfl⟩
  exact (((((start.step created).step asked).step shown).step moved).step connected).step misled

end BairuiPlatform
