/-
Module: BairuiPlatform.Scenes.System
Purpose: Writers of scenes and a reader of their events in any order, on either repository: the
  events tell the view.
Trusted boundary: a transaction on a scene holds its row until it ends
Main exports: SceneReader, sceneSystem, scene_sound, scene_events_tell_view
-/
import BairuiPlatform.Foundations.Transition
import BairuiPlatform.Scenes.Changes

namespace BairuiPlatform

open Foundations

/-! ### Runs -/

/-- `listAgentSceneEvents`. -/
def listAgentSceneEvents (repository : Repository) (input : SceneEventsInput)
    (store : SceneStore) : List SceneEvent :=
  match repository with
  | .memory => Memory.listAgentSceneEvents input store
  | .postgres => Postgres.listAgentSceneEvents input store

/-- A caller that reads the events of a scene page by page, after a revision. -/
structure SceneReader where
  query : SceneQuery
  start : Nat
  cursor : Nat
  visited : List SceneEvent

/-- The next page: the events after the last revision that the reader has seen. -/
def SceneReader.page (repository : Repository) (limit : Option Int) (store : SceneStore)
    (reader : SceneReader) : List SceneEvent :=
  listAgentSceneEvents repository
    { toSceneQuery := reader.query, afterRevision := some reader.cursor, limit := limit } store

/-- The reader after a page. -/
def SceneReader.read (page : List SceneEvent) (reader : SceneReader) : SceneReader :=
  { reader with
    cursor := (page.getLast?.map SceneEvent.revision).getD reader.cursor
    visited := reader.visited ++ page }

/-- The tables, and a reader. -/
structure SceneState where
  store : SceneStore
  reader : SceneReader

/-- A call of a writer, or a page. -/
inductive SceneLabel where
  | call (step : SceneStep)
  | page (limit : Option Int)

/-- Writers in any order, over tables without scenes, and a reader between them. -/
def sceneSystem (repository : Repository) : TransitionSystem SceneState SceneLabel where
  initial state :=
    state.store.scenes = [] ∧ state.store.events = [] ∧
      state.reader.cursor = state.reader.start ∧ state.reader.visited = []
  step before label after :=
    match label with
    | .call step => after = { before with store := (step.result repository before.store).store }
    | .page limit =>
        let page := before.reader.page repository limit before.store
        after = { before with reader := before.reader.read page }

variable {repository : Repository} {history : List (Transition SceneState SceneLabel)}
  {state : SceneState}

/-- In every state the events of each scene are a chain. -/
theorem scene_sound (run : Run (sceneSystem repository) history state) :
    SceneSound state.store := by
  apply run.invariant fun state => SceneSound state.store
  · intro state started
    obtain ⟨scenes, events, -, -⟩ := started
    constructor
    case keys =>
      rw [scenes]
      exact List.nodup_nil
    case owned =>
      intro event member
      rw [events] at member
      cases member
    case chains =>
      intro scene member
      rw [scenes] at member
      cases member
  · intro before label after sound taken
    cases label with
    | call step =>
        obtain rfl : after = _ := taken
        exact (sceneResult_change repository step sound).sound sound
    | page limit =>
        obtain rfl : after = _ := taken
        exact sound

/-! ### Scenes go on -/

section Changes

variable {store store' : SceneStore} {call : SceneCall} {patch : Option SceneEvent}

/-- A scene stays, and its revision does not fall. -/
theorem SceneChange.persists (change : SceneChange store store' call patch) {scene : AgentScene}
    (member : scene ∈ store.scenes) :
    ∃ scene' ∈ store'.scenes, scene'.key = scene.key ∧ scene.revision ≤ scene'.revision := by
  cases change with
  | idle same =>
      rw [same]
      exact ⟨scene, member, rfl, Nat.le_refl _⟩
  | create fresh free scenes events =>
      rw [scenes]
      exact ⟨scene, List.mem_append_left _ member, rfl, Nat.le_refl _⟩
  | @apply input current view now id follows scenes events =>
      by_cases advanced : scene = current
      · subst advanced
        exact ⟨_, scenes.new_mem, rfl, Nat.le_succ _⟩
      · exact ⟨scene, scenes.mem_of_ne member advanced, rfl, Nat.le_refl _⟩

/-- The scene has the view that the events after a revision make of a view. -/
def Rebuilt (key : String × String) (revision : Nat) (view : Json) (store : SceneStore) : Prop :=
  ∃ scene ∈ store.scenes, scene.key = key ∧ revision ≤ scene.revision ∧
    replay applyEvent view (eventsAfter SceneEvent.revision revision (store.eventsOf key)) =
      scene.view.json

/-- The events after an earlier view rebuild the later one. -/
theorem SceneChange.replays (change : SceneChange store store' call patch)
    (sound : SceneSound store) {key : String × String} {revision : Nat} {view : Json}
    (rebuilt : Rebuilt key revision view store) : Rebuilt key revision view store' := by
  obtain ⟨scene, member, own, early, rebuilds⟩ := rebuilt
  cases change with
  | idle same =>
      rw [same]
      exact ⟨scene, member, own, early, rebuilds⟩
  | create fresh free scenes events =>
      rw [Rebuilt, scenes, eventsOf_same events]
      exact ⟨scene, List.mem_append_left _ member, own, early, rebuilds⟩
  | @apply input current view' now id follows scenes events =>
      by_cases advanced : scene = current
      · subst advanced
        refine ⟨_, scenes.new_mem, own, Nat.le_succ_of_le early, ?_⟩
        have grown := eventsOf_own events
        rw [AgentScene.event_key, own] at grown
        have ahead : eventsAfter SceneEvent.revision revision
            [scene.event id [replaceView view'] now] = [scene.event id [replaceView view'] now] :=
          List.filter_cons_of_pos (decide_eq_true (Nat.lt_succ_of_le early))
        rw [grown, eventsAfter_append, ahead, replay_snoc, applyEvent_event]
        rfl
      · have apart : current.key ≠ key := by
          intro same
          exact advanced (sound.keys.eq_of_key_eq member scenes.old_mem (own.trans same.symm))
        rw [Rebuilt, eventsOf_other events apart]
        exact ⟨scene, scenes.mem_of_ne member advanced, own, early, rebuilds⟩

end Changes

/-- A call expects a revision. -/
def SceneCall.expects (expected : Int) : SceneCall → Bool
  | .applyAgentSceneIntent input => input.expectedRevision = some expected
  | .ensureAgentScene _ => false

/-- A step applied an intent that expected a revision of a scene. -/
def appliesAt (repository : Repository) (key : String × String) (expected : Int)
    (transition : Transition SceneState SceneLabel) : Bool :=
  match transition.label with
  | .call step =>
      step.call.expects expected &&
        (step.result repository transition.before.store).patch.any fun patch =>
          decide (patch.key = key)
  | .page _ => false

/-- An intent that expected a revision was applied at it. -/
theorem SceneChange.applied_at {store store' : SceneStore} {call : SceneCall}
    {patch : Option SceneEvent} {key : String × String} {expected : Int}
    (change : SceneChange store store' call patch) (expects : call.expects expected = true)
    (applied : (patch.any fun patch => decide (patch.key = key)) = true) :
    (∃ scene ∈ store.scenes, scene.key = key ∧ expected = scene.revision) ∧
      ∃ scene ∈ store'.scenes, scene.key = key ∧ expected < scene.revision := by
  cases change with
  | idle same => cases applied
  | create fresh free scenes events => cases applied
  | @apply input scene view now id follows scenes events =>
      have own : scene.key = key := of_decide_eq_true applied
      have named : input.expectedRevision = some expected := of_decide_eq_true expects
      have current : expected = scene.revision := by
        by_contra moved
        rw [SceneIntentInput.conflicts, named] at follows
        exact follows (decide_eq_true moved)
      refine ⟨⟨scene, scenes.old_mem, own, current⟩, _, scenes.new_mem, own, ?_⟩
      rw [current]
      exact Int.ofNat_lt.mpr (Nat.lt_succ_self _)

/-- Of the intents that expect one revision of a scene at most one is applied, and the scene is
past that revision then. -/
theorem applied_once (run : Run (sceneSystem repository) history state)
    (key : String × String) (expected : Int) :
    history.countP (appliesAt repository key expected) ≤ 1 ∧
      (0 < history.countP (appliesAt repository key expected) →
        ∃ scene ∈ state.store.scenes, scene.key = key ∧ expected < scene.revision) := by
  induction run with
  | start initial => exact ⟨Nat.zero_le 1, fun positive => absurd positive (Nat.lt_irrefl 0)⟩
  | @step history before after label run taken ih =>
      obtain ⟨once, past⟩ := ih
      cases label with
      | page limit =>
          obtain rfl : after = _ := taken
          rw [List.countP_cons_of_neg (by exact Bool.false_ne_true)]
          exact ⟨once, past⟩
      | call step =>
          obtain rfl : after = _ := taken
          have change := sceneResult_change repository step (scene_sound run)
          cases applies : appliesAt repository key expected
              ⟨before, .call step, { before with
                store := (step.result repository before.store).store }⟩ with
          | false =>
              rw [List.countP_cons_of_neg (by rw [applies]; exact Bool.false_ne_true)]
              refine ⟨once, fun positive => ?_⟩
              obtain ⟨scene, member, own, beyond⟩ := past positive
              obtain ⟨later, laterMem, same, further⟩ := change.persists member
              exact ⟨later, laterMem, same.trans own, by omega⟩
          | true =>
              obtain ⟨expects, patched⟩ := Bool.and_eq_true_iff.mp applies
              obtain ⟨⟨scene, member, own, current⟩, moved⟩ := change.applied_at expects patched
              have none : history.countP (appliesAt repository key expected) = 0 := by
                by_contra some
                obtain ⟨other, otherMem, same, beyond⟩ := past (Nat.pos_of_ne_zero some)
                have one := (scene_sound run).keys.eq_of_key_eq otherMem member
                  (same.trans own.symm)
                rw [one, current] at beyond
                exact absurd beyond (Int.lt_irrefl _)
              rw [List.countP_cons_of_pos applies, none]
              exact ⟨Nat.le_refl 1, fun _ => moved⟩

/-- An intent that is not applied leaves the tables as they were. -/
theorem SceneChange.rejected {store store' : SceneStore} {input : SceneIntentInput}
    (change : SceneChange store store' (.applyAgentSceneIntent input) none) : store' = store := by
  cases change with
  | idle same => exact same

/-- A scene that is past a revision had reached it before. -/
theorem SceneChange.passed {store store' : SceneStore} {call : SceneCall}
    {patch : Option SceneEvent} (change : SceneChange store store' call patch)
    {scene : AgentScene} (member : scene ∈ store'.scenes) {revision : Nat}
    (passed : revision < scene.revision) :
    ∃ old ∈ store.scenes, old.key = scene.key ∧ revision ≤ old.revision := by
  cases change with
  | idle same =>
      rw [same] at member
      exact ⟨scene, member, rfl, Nat.le_of_lt passed⟩
  | create fresh free scenes events =>
      rw [scenes] at member
      rcases List.mem_append.mp member with old | new
      · exact ⟨scene, old, rfl, Nat.le_of_lt passed⟩
      · rw [List.mem_singleton.mp new, fresh] at passed
        exact absurd passed (Nat.not_lt_zero revision)
  | @apply input old view now id follows scenes events =>
      rcases scenes.cases_of_mem member with advanced | stays
      · rw [advanced] at passed ⊢
        exact ⟨old, scenes.old_mem, rfl, Nat.le_of_lt_succ passed⟩
      · exact ⟨scene, stays, rfl, Nat.le_of_lt passed⟩

/-- Every revision up to the current one was the current one at some time. -/
theorem revisions_passed (run : Run (sceneSystem repository) history state) {scene : AgentScene}
    (member : scene ∈ state.store.scenes) {revision : Nat} (early : revision ≤ scene.revision) :
    ∃ transition ∈ history, ∃ old ∈ transition.after.store.scenes,
      old.key = scene.key ∧ old.revision = revision := by
  induction run generalizing scene with
  | start initial =>
      rw [initial.1] at member
      cases member
  | @step history before after label run taken ih =>
      -- A scene that was there before passed its revisions before.
      have earlier : ∀ old ∈ before.store.scenes, old.key = scene.key → revision ≤ old.revision →
          ∃ transition ∈ (⟨before, label, after⟩ :: history : List _),
            ∃ old ∈ transition.after.store.scenes,
              old.key = scene.key ∧ old.revision = revision := by
        intro old oldMem own passed
        obtain ⟨transition, transitionMem, found, foundMem, same, at'⟩ := ih oldMem passed
        exact ⟨transition, List.mem_cons_of_mem _ transitionMem, found, foundMem,
          same.trans own, at'⟩
      by_cases current : revision = scene.revision
      · exact ⟨_, List.mem_cons_self, scene, member, rfl, current.symm⟩
      · cases label with
        | page limit =>
            obtain rfl : after = _ := taken
            exact earlier scene member rfl early
        | call step =>
            obtain rfl : after = _ := taken
            have change := sceneResult_change repository step (scene_sound run)
            obtain ⟨old, oldMem, own, low⟩ :=
              change.passed member (Nat.lt_of_le_of_ne early current)
            exact earlier old oldMem own low

/-! ### The reader -/

/-- The events that a caller may list. -/
def SceneStore.named (store : SceneStore) (query : SceneQuery) : List SceneEvent :=
  store.events.filter query.isEvent

theorem isEvent_iff {query : SceneQuery} {event : SceneEvent} :
    query.isEvent event = true ↔ event.key = query.key ∧
      event.organizationId = query.organizationId ∧ event.userId = query.userId := by
  simp only [SceneQuery.isEvent, Bool.and_eq_true, decide_eq_true_eq, SceneEvent.key,
    SceneQuery.key, Prod.mk.injEq]
  tauto

/-- The owner of a scene may list all of its events. -/
theorem named_eq {store : SceneStore} (sound : SceneSound store) {query : SceneQuery}
    {scene : AgentScene} (member : scene ∈ store.scenes) (own : query.isScene scene = true) :
    store.named query = store.eventsOf scene.key := by
  apply List.filter_congr
  intro event eventMem
  have key := Postgres.key_of_isScene own
  simp only [SceneQuery.isScene, Bool.and_eq_true, decide_eq_true_eq] at own
  obtain ⟨⟨⟨organization, user⟩, -⟩, -⟩ := own
  rw [Bool.eq_iff_iff, isEvent_iff, decide_eq_true_eq, key]
  apply and_iff_left_of_imp
  intro same
  obtain ⟨owner, ownerMem, ownerKey, ownerOrganization, ownerUser⟩ := sound.owned event eventMem
  obtain rfl := sound.keys.eq_of_key_eq ownerMem member (ownerKey.trans (same.trans key.symm))
  exact ⟨ownerOrganization.symm.trans organization, ownerUser.symm.trans user⟩

/-- The events that a caller may list are a chain. -/
theorem named_chain {store : SceneStore} (sound : SceneSound store) (query : SceneQuery) :
    ∃ last, Chain SceneEvent.baseRevision SceneEvent.revision 0 (store.named query) last := by
  by_cases owned : ∃ scene ∈ store.scenes, query.isScene scene = true
  · obtain ⟨scene, member, own⟩ := owned
    rw [named_eq sound member own]
    exact ⟨_, sound.chains scene member⟩
  · have none : store.named query = [] := by
      apply List.filter_eq_nil_iff.mpr
      intro event eventMem own
      obtain ⟨scene, member, key, organization, user⟩ := sound.owned event eventMem
      apply owned
      obtain ⟨same, sameOrganization, sameUser⟩ := isEvent_iff.mp own
      obtain ⟨agent, id⟩ := Prod.mk.inj (key.trans same)
      refine ⟨scene, member, ?_⟩
      simp only [SceneQuery.isScene, Bool.and_eq_true, decide_eq_true_eq]
      exact ⟨⟨⟨organization.trans sameOrganization, user.trans sameUser⟩, agent⟩, id⟩
    rw [none]
    exact ⟨0, .done 0⟩

/-- A page is the first of the events that lie after the cursor. -/
theorem listAgentSceneEvents_eq {store : SceneStore} (sound : SceneSound store)
    (input : SceneEventsInput) :
    listAgentSceneEvents repository input store =
      (eventsAfter SceneEvent.revision input.cursor (store.named input.toSceneQuery)).take
        input.pageSize := by
  have selected : (store.events.filter fun event =>
        input.isEvent event && decide (input.cursor < event.revision)) =
      eventsAfter SceneEvent.revision input.cursor (store.named input.toSceneQuery) := by
    unfold eventsAfter SceneStore.named
    rw [List.filter_filter]
    apply List.filter_congr
    intro event _
    exact Bool.and_comm _ _
  cases repository with
  | memory =>
      rw [listAgentSceneEvents, Memory.listAgentSceneEvents, selected]
  | postgres =>
      obtain ⟨last, chain⟩ := named_chain sound input.toSceneQuery
      rw [listAgentSceneEvents, Postgres.listAgentSceneEvents, selected,
        chain.insertionSort_after]

theorem pageSize_pos (input : SceneEventsInput) : 0 < input.pageSize := by
  unfold SceneEventsInput.pageSize clamped
  split
  · decide
  · split
    · decide
    · exact Nat.lt_of_lt_of_le Nat.one_pos (Nat.le_max_left _ _)

/-- The next page of a reader. -/
theorem SceneReader.page_eq {store : SceneStore} (sound : SceneSound store)
    (reader : SceneReader) (limit : Option Int) :
    ∃ count, 0 < count ∧ reader.page repository limit store =
      (eventsAfter SceneEvent.revision reader.cursor (store.named reader.query)).take count :=
  ⟨_, pageSize_pos _, listAgentSceneEvents_eq sound _⟩

/-- A page is empty when nothing lies after the cursor. -/
theorem SceneReader.page_eq_nil {store : SceneStore} (sound : SceneSound store)
    (reader : SceneReader) (limit : Option Int) :
    reader.page repository limit store = [] ↔
      eventsAfter SceneEvent.revision reader.cursor (store.named reader.query) = [] := by
  obtain ⟨count, positive, page⟩ := reader.page_eq sound limit
  rw [page, List.take_eq_nil_iff]
  constructor
  · intro ended
    exact ended.resolve_left (Nat.pos_iff_ne_zero.mp positive)
  · intro none
    exact Or.inr none

/-- A reader has seen what lies between its start and its cursor. -/
structure ReaderSound (store : SceneStore) (reader : SceneReader) : Prop where
  visited : reader.visited ++ eventsAfter SceneEvent.revision reader.cursor
      (store.named reader.query) =
    eventsAfter SceneEvent.revision reader.start (store.named reader.query)
  cursor : reader.cursor = reader.start ∨
    (reader.start ≤ reader.cursor ∧ reader.cursor ≤ (store.named reader.query).length)

/-- A page moves the reader over the events that it holds. -/
theorem ReaderSound.page {store : SceneStore} {reader : SceneReader} (sound : SceneSound store)
    (holds : ReaderSound store reader) (limit : Option Int) :
    ReaderSound store (reader.read (reader.page repository limit store)) := by
  obtain ⟨last, chain⟩ := named_chain sound reader.query
  obtain ⟨count, -, page⟩ := reader.page_eq sound limit
  generalize reader.page repository limit store = read at page ⊢
  obtain ⟨parted, forward, early⟩ := chain.page (Nat.zero_le reader.cursor) count page.symm rfl
  have length := chain.last_eq
  constructor
  case visited =>
    show (reader.visited ++ read) ++ _ = _
    rw [List.append_assoc]
    exact (congrArg (reader.visited ++ ·) parted).symm.trans holds.visited
  case cursor =>
    simp only [SceneReader.read]
    rcases holds.cursor with still | ⟨moved, bounded⟩
    · rcases early with same | reached
      · exact Or.inl (same.trans still)
      · exact Or.inr ⟨by omega, by omega⟩
    · rcases early with same | reached
      · exact Or.inr ⟨by omega, by omega⟩
      · exact Or.inr ⟨by omega, by omega⟩

/-- The events that a caller may list, after a step. -/
theorem SceneChange.named {store store' : SceneStore} {call : SceneCall}
    {patch : Option SceneEvent} (change : SceneChange store store' call patch)
    (sound : SceneSound store) (query : SceneQuery) :
    store'.named query = store.named query ∨
      ∃ event, event.revision = (store.named query).length + 1 ∧
        store'.named query = store.named query ++ [event] := by
  cases change with
  | idle same => exact Or.inl (congrArg (SceneStore.named · query) same)
  | create fresh free scenes events =>
      apply Or.inl
      rw [SceneStore.named, events]
      rfl
  | @apply input scene view now id follows scenes events =>
      have grown : store'.named query = store.named query ++
          [scene.event id [replaceView view] now].filter query.isEvent := by
        rw [SceneStore.named, events, List.filter_append]
        rfl
      cases listed : query.isEvent (scene.event id [replaceView view] now) with
      | false =>
          apply Or.inl
          rw [grown, List.filter_cons_of_neg (by rw [listed]; exact Bool.false_ne_true),
            List.filter_nil, List.append_nil]
      | true =>
          refine Or.inr ⟨scene.event id [replaceView view] now, ?_, ?_⟩
          · have own : query.isScene scene = true := listed
            rw [named_eq sound scenes.old_mem own]
            have length := (sound.chains scene scenes.old_mem).last_eq
            rw [Nat.zero_add] at length
            exact congrArg (· + 1) length
          · rw [grown, List.filter_cons_of_pos listed, List.filter_nil]

/-- A step of a writer leaves the reader where it is. -/
theorem ReaderSound.change {store store' : SceneStore} {reader : SceneReader} {call : SceneCall}
    {patch : Option SceneEvent} (holds : ReaderSound store reader)
    (change : SceneChange store store' call patch) (sound : SceneSound store) :
    ReaderSound store' reader := by
  rcases change.named sound reader.query with same | ⟨event, next, grown⟩
  · constructor
    case visited =>
      rw [same]
      exact holds.visited
    case cursor =>
      rw [same]
      exact holds.cursor
  · constructor
    case visited =>
      rw [grown, eventsAfter_append, eventsAfter_append, ← List.append_assoc, holds.visited]
      congr 1
      apply List.filter_congr
      intro other member
      rw [List.mem_singleton.mp member, decide_eq_decide, next]
      rcases holds.cursor with still | ⟨moved, bounded⟩
      · rw [still]
      · omega
    case cursor =>
      rw [grown, List.length_append]
      exact holds.cursor.imp_right fun ⟨moved, bounded⟩ => ⟨moved, Nat.le_add_right_of_le bounded⟩

theorem reader_sound (run : Run (sceneSystem repository) history state) :
    ReaderSound state.store state.reader := by
  induction run with
  | @start state initial =>
      obtain ⟨-, -, cursor, visited⟩ := initial
      constructor
      case visited => rw [visited, cursor, List.nil_append]
      case cursor => exact Or.inl cursor
  | @step history before after label run taken ih =>
      have sound := scene_sound run
      cases label with
      | call step =>
          obtain rfl : after = _ := taken
          exact ih.change (sceneResult_change repository step sound) sound
      | page limit =>
          obtain rfl : after = _ := taken
          exact ih.page sound limit

/-! ### Events and views -/

/-- What rebuilds the view goes on rebuilding it. -/
theorem rebuilt_step {before after : SceneState} {label : SceneLabel}
    (run : Run (sceneSystem repository) history before)
    (taken : (sceneSystem repository).step before label after) {key : String × String}
    {revision : Nat} {view : Json} (rebuilt : Rebuilt key revision view before.store) :
    Rebuilt key revision view after.store := by
  have sound := scene_sound run
  cases label with
  | call step =>
      obtain rfl : after = _ := taken
      exact (sceneResult_change repository step sound).replays sound rebuilt
  | page limit =>
      obtain rfl : after = _ := taken
      exact rebuilt


/-- What the events of scenes tell at the end of a run. -/
structure EventsTellView (repository : Repository)
    (history : List (Transition SceneState SceneLabel)) (state : SceneState) : Prop where
  /-- The events of a scene lead from its creation to its revision without a gap. -/
  chains : ∀ scene ∈ state.store.scenes,
    Chain SceneEvent.baseRevision SceneEvent.revision 0 (state.store.eventsOf scene.key)
      scene.revision
  /-- Of the intents that expect one revision of a scene at most one is applied. -/
  once : ∀ key expected, history.countP (appliesAt repository key expected) ≤ 1
  /-- An intent that is not applied changes nothing. -/
  rejected : ∀ transition ∈ history, ∀ env fault input,
    transition.label = .call ⟨env, fault, .applyAgentSceneIntent input⟩ →
    (SceneStep.result repository ⟨env, fault, .applyAgentSceneIntent input⟩
      transition.before.store).patch = none →
        transition.after.store = transition.before.store
  /-- Every revision up to the current one was the current one at some time. -/
  passed : ∀ scene ∈ state.store.scenes, ∀ revision ≤ scene.revision,
    ∃ transition ∈ history, ∃ old ∈ transition.after.store.scenes,
      old.key = scene.key ∧ old.revision = revision
  /-- The patches after a revision make the current view of the view at that revision. -/
  replays : ∀ transition ∈ history, ∀ old ∈ transition.after.store.scenes,
    ∃ scene ∈ state.store.scenes, scene.key = old.key ∧
      replay applyEvent old.view.json
        (eventsAfter SceneEvent.revision old.revision (state.store.eventsOf old.key)) =
      scene.view.json
  /-- The owner of a scene who pages through its events has seen each of them up to the cursor
  once, in their order. -/
  visited : ∀ scene ∈ state.store.scenes, state.reader.query.isScene scene = true →
    state.reader.visited ++
        eventsAfter SceneEvent.revision state.reader.cursor (state.store.eventsOf scene.key) =
      eventsAfter SceneEvent.revision state.reader.start (state.store.eventsOf scene.key)
  /-- A page of any limit is empty only when the owner has seen all events. -/
  pages : ∀ scene ∈ state.store.scenes, state.reader.query.isScene scene = true → ∀ limit,
    state.reader.page repository limit state.store = [] ↔
      eventsAfter SceneEvent.revision state.reader.cursor
        (state.store.eventsOf scene.key) = []

/-- In every run the events of scenes tell their views. -/
theorem scene_events_tell_view (run : Run (sceneSystem repository) history state) :
    EventsTellView repository history state := by
  have sound := scene_sound run
  constructor
  case chains => exact sound.chains
  case once =>
    intro key expected
    exact (applied_once run key expected).1
  case rejected =>
    intro transition member env fault input label unapplied
    obtain ⟨earlier, ran, taken, -⟩ := run.before_of_mem member
    obtain ⟨before, label', after⟩ := transition
    obtain rfl : label' = _ := label
    have stepped : after = _ := taken
    have change := sceneResult_change repository
      ⟨env, fault, .applyAgentSceneIntent input⟩ (scene_sound ran)
    rw [unapplied] at change
    rw [stepped]
    exact change.rejected
  case passed =>
    intro scene member revision early
    exact revisions_passed run member early
  case replays =>
    intro transition member old oldMem
    obtain ⟨later, earlier, rfl⟩ := List.append_of_mem member
    obtain ⟨ran, taken⟩ := run.before_of_split
    have soundAfter := scene_sound (ran.step taken)
    have rebuilt : Rebuilt old.key old.revision old.view.json state.store := by
      apply run.keeps_from fun state => Rebuilt old.key old.revision old.view.json state.store
      · refine ⟨old, oldMem, rfl, Nat.le_refl _, ?_⟩
        rw [(soundAfter.chains old oldMem).after_last (Nat.le_refl _)]
        rfl
      · intro next member rebuilt
        obtain ⟨before, ran, taken, -⟩ := run.before_of_mem (List.mem_append_left _ member)
        exact rebuilt_step ran taken rebuilt
    obtain ⟨scene, sceneMem, own, -, rebuilds⟩ := rebuilt
    exact ⟨scene, sceneMem, own, rebuilds⟩
  case visited =>
    intro scene member own
    rw [← named_eq sound member own]
    exact (reader_sound run).visited
  case pages =>
    intro scene member own limit
    rw [← named_eq sound member own]
    exact state.reader.page_eq_nil sound limit

/-- The owner of a scene, and the scene. -/
def sampleSceneQuery : SceneQuery where
  organizationId := "org-1"
  userId := "user-1"
  agentId := "agent-1"
  sceneId := "scene-1"

/-- An Agent without scenes, and a reader. -/
def sampleNoScenes : SceneState where
  store :=
    { agents := [{ id := "agent-1", organizationId := "org-1", ownerUserId := "user-1" }]
      scenes := [], events := [] }
  reader := { query := sampleSceneQuery, start := 0, cursor := 0, visited := [] }

/-- A scene is created. -/
def sampleEnsures : SceneStep where
  env := { now := 100, uuid := "event-1" }
  fault := none
  call := .ensureAgentScene { toSceneQuery := sampleSceneQuery }

/-- The owner navigates. -/
def sampleNavigates : SceneStep where
  env := { now := 200, uuid := "event-1" }
  fault := none
  call := .applyAgentSceneIntent
    { toSceneQuery := sampleSceneQuery, action := .navigate, expectedRevision := some 0
      view := some { fields := [("navigation", .str "conversations")] } }

/-- The tables after the scene was created. -/
def sampleScene : SceneState :=
  { sampleNoScenes with store := (sampleEnsures.result .memory sampleNoScenes.store).store }

/-- The tables after the owner navigated. -/
def sampleNavigated : SceneState :=
  { sampleScene with store := (sampleNavigates.result .memory sampleScene.store).store }

/-- The run of the two calls. -/
def sampleNavigation : List (Transition SceneState SceneLabel) :=
  [⟨sampleScene, .call sampleNavigates, sampleNavigated⟩,
    ⟨sampleNoScenes, .call sampleEnsures, sampleScene⟩]

theorem sampleNavigation_run : Run (sceneSystem .memory) sampleNavigation sampleNavigated := by
  have start : Run (sceneSystem .memory) [] sampleNoScenes := .start ⟨rfl, rfl, rfl, rfl⟩
  have created : (sceneSystem .memory).step sampleNoScenes (.call sampleEnsures) sampleScene := rfl
  have navigated :
      (sceneSystem .memory).step sampleScene (.call sampleNavigates) sampleNavigated := rfl
  exact (start.step created).step navigated

theorem scene_events_tell_view_sample :
    EventsTellView .memory sampleNavigation sampleNavigated :=
  scene_events_tell_view sampleNavigation_run

end BairuiPlatform
