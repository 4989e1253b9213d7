/-
Module: BairuiPlatform.Channels.WorkerRefresh
Purpose: What a refresh of the inventory leaves running, whatever resolution, construction and
  start of each binding do, and that the steps of the worker compute it.
Trusted boundary: none
Main exports: Inventory, refresh_isolates_iff, failing_binding_stops_others,
  ChannelWorker.refresh_refines
-/
import BairuiPlatform.Channels.WorkerDelivery

namespace BairuiPlatform

open Foundations

/-! ### Inventories -/

/-- The bindings of a worker, by their ids. -/
structure Inventory where
  descriptors : List BindingDescriptor
  ids : Keyed BindingDescriptor.id descriptors

namespace StartOutcomes

variable (outcomes : StartOutcomes) (workerId : String)

/-- The resolution, the construction and the start of a binding succeed. -/
def Succeeds (descriptor : BindingDescriptor) : Prop :=
  ∃ adapter, outcomes.build workerId descriptor = .ok adapter ∧
    outcomes.start adapter = .ok ()

/-- The resolution of a binding throws or answers another binding, or its factory throws. -/
def Breaks (descriptor : BindingDescriptor) : Prop :=
  ∃ error, outcomes.build workerId descriptor = .error error

end StartOutcomes

/-! ### The second loop -/

namespace Fleet

variable {fleet : Fleet} {descriptor other : BindingDescriptor} {bindingId : String}

/-- Two pairs of maps agree on a binding. -/
def SameAt (bindingId : String) (first second : Fleet) : Prop :=
  first.adapters.get? bindingId = second.adapters.get? bindingId ∧
    first.generations.get? bindingId = second.generations.get? bindingId

theorem SameAt.runs {first second : Fleet} (same : SameAt descriptor.id first second) :
    first.runs descriptor = second.runs descriptor := by
  unfold Fleet.runs OrderedMap.has
  rw [same.1, same.2]

theorem SameAt.trans {first second third : Fleet} (one : SameAt bindingId first second)
    (two : SameAt bindingId second third) : SameAt bindingId first third :=
  ⟨one.1.trans two.1, one.2.trans two.2⟩

/-- An adapter that was entered and dated runs. -/
theorem runs_date_enter (adapter : Adapter) :
    ((fleet.enter descriptor.id adapter).date descriptor).runs descriptor = true := by
  unfold Fleet.runs Fleet.date Fleet.enter OrderedMap.has
  simp

/-- Other bindings do not notice that an adapter is entered and dated. -/
theorem sameAt_date_enter (adapter : Adapter) (distinct : bindingId ≠ descriptor.id) :
    SameAt bindingId ((fleet.enter descriptor.id adapter).date descriptor) fleet :=
  ⟨OrderedMap.get?_set_of_ne distinct, OrderedMap.get?_set_of_ne distinct⟩

end Fleet

section Launch

variable {outcomes : StartOutcomes} {workerId : String} {fleet : Fleet}
  {descriptor : BindingDescriptor} {rest : List BindingDescriptor}

/-- What `startAdapter` does for a descriptor, by the outcomes of its steps. -/
inductive Launched (outcomes : StartOutcomes) (workerId : String)
    (descriptor : BindingDescriptor) (rest : List BindingDescriptor) (fleet : Fleet) :
    Fleet × Option AdapterError → Prop where
  | running (runs : fleet.runs descriptor = true) :
      Launched outcomes workerId descriptor rest fleet
        (launchAll outcomes workerId rest fleet)
  | broken {error : AdapterError} (idle : fleet.runs descriptor = false)
      (built : outcomes.build workerId descriptor = .error error) :
      Launched outcomes workerId descriptor rest fleet (fleet, some error)
  | started {adapter : Adapter} (idle : fleet.runs descriptor = false)
      (built : outcomes.build workerId descriptor = .ok adapter)
      (ran : outcomes.start adapter = .ok ()) :
      Launched outcomes workerId descriptor rest fleet
        (launchAll outcomes workerId rest
          ((fleet.enter descriptor.id adapter).date descriptor))
  | failed {adapter : Adapter} {error : AdapterError} (idle : fleet.runs descriptor = false)
      (built : outcomes.build workerId descriptor = .ok adapter)
      (threw : outcomes.start adapter = .error error) :
      Launched outcomes workerId descriptor rest fleet
        (launchAll outcomes workerId rest fleet)

/-- The second loop treats its first descriptor in one of four ways. -/
theorem launchAll_cons :
    Launched outcomes workerId descriptor rest fleet
      (launchAll outcomes workerId (descriptor :: rest) fleet) := by
  rw [launchAll]
  by_cases runs : fleet.runs descriptor = true
  · rw [if_pos runs]
    exact .running runs
  · rw [if_neg runs]
    rw [Bool.not_eq_true] at runs
    unfold startAdapter
    cases built : outcomes.build workerId descriptor with
    | error error => exact .broken runs built
    | ok adapter =>
        dsimp only
        cases ran : outcomes.start adapter with
        | ok done => exact .started runs built ran
        | error error => exact .failed runs built ran

/-- The second loop leaves the bindings alone that it has no descriptor of. -/
theorem launchAll_sameAt {bindingId : String} {descriptors : List BindingDescriptor}
    (absent : ∀ descriptor ∈ descriptors, bindingId ≠ descriptor.id) :
    Fleet.SameAt bindingId (launchAll outcomes workerId descriptors fleet).1 fleet := by
  induction descriptors generalizing fleet with
  | nil => exact ⟨rfl, rfl⟩
  | cons descriptor rest ih =>
      have others := fun other member => absent other (List.mem_cons_of_mem _ member)
      have launched : Launched outcomes workerId descriptor rest fleet _ := launchAll_cons
      generalize launchAll outcomes workerId (descriptor :: rest) fleet = result at launched ⊢
      cases launched with
      | running runs => exact ih others
      | broken idle built => exact ⟨rfl, rfl⟩
      | started idle built ran =>
          exact (ih others).trans
            (Fleet.sameAt_date_enter _ (absent descriptor List.mem_cons_self))
      | failed idle built threw => exact ih others

/-- No binding that breaks and is not running comes before one that succeeds and is not
running. -/
def Undisturbed (outcomes : StartOutcomes) (workerId : String) (fleet : Fleet)
    (descriptors : List BindingDescriptor) : Prop :=
  descriptors.Pairwise fun earlier later =>
    outcomes.Breaks workerId earlier → fleet.runs earlier = false →
      outcomes.Succeeds workerId later → fleet.runs later = true

theorem undisturbed_congr {first second : Fleet} {descriptors : List BindingDescriptor}
    (same : ∀ descriptor ∈ descriptors, first.runs descriptor = second.runs descriptor) :
    Undisturbed outcomes workerId first descriptors ↔
      Undisturbed outcomes workerId second descriptors := by
  unfold Undisturbed
  apply List.Pairwise.iff_of_mem
  intro earlier later earlierMem laterMem
  rw [same earlier earlierMem, same later laterMem]

/-- After the second loop every binding runs whose own steps succeed, exactly if none was
disturbed. -/
theorem launchAll_runs_iff {descriptors : List BindingDescriptor}
    (ids : Keyed BindingDescriptor.id descriptors) :
    (∀ descriptor ∈ descriptors, outcomes.Succeeds workerId descriptor →
        (launchAll outcomes workerId descriptors fleet).1.runs descriptor = true) ↔
      Undisturbed outcomes workerId fleet descriptors := by
  induction descriptors generalizing fleet with
  | nil => simp [Undisturbed]
  | cons descriptor rest ih =>
      obtain ⟨fresh, restIds⟩ := List.nodup_cons.mp ids
      have distinct : ∀ other ∈ rest, descriptor.id ≠ other.id := by
        intro other member same
        apply fresh
        rw [same]
        exact List.mem_map_of_mem member
      have headTail : Undisturbed outcomes workerId fleet (descriptor :: rest) ↔
          (∀ later ∈ rest, outcomes.Breaks workerId descriptor →
            fleet.runs descriptor = false → outcomes.Succeeds workerId later →
              fleet.runs later = true) ∧ Undisturbed outcomes workerId fleet rest :=
        List.pairwise_cons
      rw [List.forall_mem_cons, headTail]
      have launched : Launched outcomes workerId descriptor rest fleet _ := launchAll_cons
      generalize launchAll outcomes workerId (descriptor :: rest) fleet = result at launched ⊢
      cases launched with
      | running runs =>
          rw [ih restIds]
          refine and_congr_left fun _ => ⟨fun _ later _ _ idle => ?_, fun _ _ => ?_⟩
          · rw [runs] at idle
            cases idle
          · rw [(launchAll_sameAt distinct).runs]
            exact runs
      | @broken error idle built =>
          have breaks : outcomes.Breaks workerId descriptor := ⟨error, built⟩
          constructor
          · intro reached
            refine ⟨fun later member _ _ succeeds => reached.2 later member succeeds, ?_⟩
            exact List.pairwise_of_forall_mem_list fun earlier _ later member _ _ succeeds =>
              reached.2 later member succeeds
          · intro undisturbed
            refine ⟨fun succeeds => ?_, fun later member => ?_⟩
            · obtain ⟨adapter, made, -⟩ := succeeds
              rw [built] at made
              cases made
            · exact undisturbed.1 later member breaks idle
      | @started adapter idle built ran =>
          have unbroken : ¬outcomes.Breaks workerId descriptor := by
            intro breaks
            obtain ⟨error, threw⟩ := breaks
            rw [built] at threw
            cases threw
          rw [ih restIds, undisturbed_congr fun other member =>
            (Fleet.sameAt_date_enter adapter (distinct other member).symm).runs]
          refine and_congr_left fun _ => ⟨fun _ _ _ breaks => absurd breaks unbroken, ?_⟩
          intro _ _
          rw [(launchAll_sameAt distinct).runs]
          exact Fleet.runs_date_enter adapter
      | @failed adapter error idle built threw =>
          rw [ih restIds]
          refine and_congr_left fun _ => ⟨fun _ _ _ breaks => ?_, fun _ succeeds => ?_⟩
          · obtain ⟨other, broke⟩ := breaks
            rw [built] at broke
            cases broke
          · obtain ⟨other, made, ran⟩ := succeeds
            rw [built] at made
            cases made
            rw [threw] at ran
            cases ran

end Launch

/-! ### The first loop -/

section Sweep

variable {fleet : Fleet} {discovered : List BindingDescriptor} {bindingId : String}
  {bindingIds : List String}

theorem Fleet.SameAt.keeps {first second : Fleet} (same : SameAt bindingId first second) :
    first.keeps discovered bindingId = second.keeps discovered bindingId := by
  unfold Fleet.keeps
  rw [same.2]

/-- The generation of the only descriptor of a binding decides whether its adapter is kept. -/
theorem keeps_descriptor {descriptor : BindingDescriptor}
    (ids : Keyed BindingDescriptor.id discovered) (member : descriptor ∈ discovered) :
    fleet.keeps discovered descriptor.id =
      decide (fleet.generations.get? descriptor.id = some descriptor.connectionGeneration) := by
  have found : discovered.reverse.find? (fun other => other.id = descriptor.id) =
      some descriptor := by
    cases search : discovered.reverse.find? fun other => other.id = descriptor.id with
    | none =>
        have absent := List.find?_eq_none.mp search descriptor (List.mem_reverse.mpr member)
        simp at absent
    | some other =>
        have stored := List.mem_reverse.mp (List.mem_of_find?_eq_some search)
        have same := List.find?_some search
        rw [decide_eq_true_eq] at same
        rw [ids.eq_of_key_eq stored member same]
  unfold Fleet.keeps
  rw [found, Option.any_some]

/-- A binding that no descriptor names is not kept. -/
theorem keeps_unnamed (unnamed : ∀ descriptor ∈ discovered, descriptor.id ≠ bindingId) :
    fleet.keeps discovered bindingId = false := by
  have none : (discovered.reverse.find? fun other => other.id = bindingId) = none := by
    rw [List.find?_eq_none]
    intro other member
    simpa using unnamed other (List.mem_reverse.mp member)
  unfold Fleet.keeps
  rw [none, Option.any_none]

/-- What the first loop does at a binding. -/
inductive Swept (discovered : List BindingDescriptor) (bindingId : String)
    (rest : List String) (fleet : Fleet) : Fleet × List Adapter → Prop where
  | kept (stays : fleet.adapters.get? bindingId = none ∨
        fleet.keeps discovered bindingId = true) :
      Swept discovered bindingId rest fleet (sweepAll discovered rest fleet)
  | removed {adapter : Adapter} (stored : fleet.adapters.get? bindingId = some adapter)
      (outdated : fleet.keeps discovered bindingId = false) :
      Swept discovered bindingId rest fleet
        ((sweepAll discovered rest (fleet.remove bindingId)).1,
          adapter :: (sweepAll discovered rest (fleet.remove bindingId)).2)

theorem sweepAll_cons :
    Swept discovered bindingId bindingIds fleet
      (sweepAll discovered (bindingId :: bindingIds) fleet) := by
  rw [sweepAll]
  cases stored : fleet.adapters.get? bindingId with
  | none => exact .kept (.inl stored)
  | some adapter =>
      dsimp only
      by_cases keeps : fleet.keeps discovered bindingId = true
      · rw [if_pos keeps]
        exact .kept (.inr keeps)
      · rw [if_neg keeps]
        rw [Bool.not_eq_true] at keeps
        exact .removed stored keeps

/-- The first loop leaves a binding alone that it keeps or has no adapter of. -/
theorem sweepAll_sameAt (stays : fleet.adapters.get? bindingId = none ∨
      fleet.keeps discovered bindingId = true) :
    Fleet.SameAt bindingId (sweepAll discovered bindingIds fleet).1 fleet := by
  induction bindingIds generalizing fleet with
  | nil => exact ⟨rfl, rfl⟩
  | cons first rest ih =>
      have swept : Swept discovered first rest fleet _ := sweepAll_cons
      generalize sweepAll discovered (first :: rest) fleet = result at swept ⊢
      cases swept with
      | kept => exact ih stays
      | removed stored outdated =>
          have distinct : bindingId ≠ first := by
            intro same
            rw [same, stored, outdated] at stays
            simp at stays
          have same : Fleet.SameAt bindingId (fleet.remove first) fleet :=
            ⟨OrderedMap.get?_delete_of_ne distinct, OrderedMap.get?_delete_of_ne distinct⟩
          refine (ih ?_).trans same
          rw [same.1, same.keeps]
          exact stays

/-- The first loop stops an outdated adapter that it visits, and removes it. -/
theorem sweepAll_removes {adapter : Adapter} (visited : bindingId ∈ bindingIds)
    (stored : fleet.adapters.get? bindingId = some adapter)
    (outdated : fleet.keeps discovered bindingId = false) :
    (sweepAll discovered bindingIds fleet).1.adapters.get? bindingId = none ∧
      adapter ∈ (sweepAll discovered bindingIds fleet).2 := by
  induction bindingIds generalizing fleet with
  | nil => cases visited
  | cons first rest ih =>
      have swept : Swept discovered first rest fleet _ := sweepAll_cons
      generalize sweepAll discovered (first :: rest) fleet = result at swept ⊢
      by_cases same : bindingId = first
      · rw [same] at stored outdated ⊢
        cases swept with
        | kept stays =>
            rw [stored, outdated] at stays
            simp at stays
        | removed stored' _ =>
            rw [stored] at stored'
            cases stored'
            have gone : (fleet.remove first).adapters.get? first = none :=
              OrderedMap.get?_delete_self _ _
            have stays : Fleet.SameAt first
                (sweepAll discovered rest (fleet.remove first)).1 (fleet.remove first) :=
              sweepAll_sameAt (.inl gone)
            exact ⟨stays.1.trans gone, List.mem_cons_self⟩
      · have later : bindingId ∈ rest := (List.mem_cons.mp visited).resolve_left same
        cases swept with
        | kept => exact ih later stored outdated
        | removed _ _ =>
            have kept : Fleet.SameAt bindingId (fleet.remove first) fleet :=
              ⟨OrderedMap.get?_delete_of_ne same, OrderedMap.get?_delete_of_ne same⟩
            obtain ⟨gone, stopped⟩ := ih later (kept.1.trans stored) (kept.keeps.trans outdated)
            exact ⟨gone, List.mem_cons_of_mem _ stopped⟩

/-- The first loop stops no adapter that runs at the generation of its descriptor. -/
theorem sweepAll_runs {descriptor : BindingDescriptor}
    (ids : Keyed BindingDescriptor.id discovered) (member : descriptor ∈ discovered) :
    (sweepAll discovered fleet.adapters.keys fleet).1.runs descriptor =
      fleet.runs descriptor := by
  cases stored : fleet.adapters.get? descriptor.id with
  | none => exact (sweepAll_sameAt (.inl stored)).runs
  | some adapter =>
      by_cases keeps : fleet.keeps discovered descriptor.id = true
      · exact (sweepAll_sameAt (.inr keeps)).runs
      · rw [Bool.not_eq_true] at keeps
        have visited : descriptor.id ∈ fleet.adapters.keys := by
          apply OrderedMap.has_eq_true.mp
          unfold OrderedMap.has
          rw [stored]
          exact Option.isSome_some
        obtain ⟨gone, -⟩ := sweepAll_removes visited stored keeps
        rw [keeps_descriptor ids member] at keeps
        unfold Fleet.runs OrderedMap.has
        rw [gone, keeps, Bool.and_false, Option.isSome_none, Bool.false_and]

end Sweep

/-! ### Isolation -/

/-- For every inventory, every set of running adapters and every outcome of each step: after a
refresh every binding of the inventory whose own steps succeed runs at its generation, and every
other adapter was stopped, exactly if no binding whose resolution or construction fails comes
before one that succeeds, where both are not yet running at their generations. -/
theorem refresh_isolates_iff (outcomes : StartOutcomes) (workerId : String)
    (inventory : Inventory) (fleet : Fleet) :
    ((∀ descriptor ∈ inventory.descriptors, outcomes.Succeeds workerId descriptor →
        (fleet.refresh outcomes workerId inventory.descriptors).fleet.runs descriptor = true) ∧
      ∀ bindingId adapter, fleet.adapters.get? bindingId = some adapter →
        (∀ descriptor ∈ inventory.descriptors, descriptor.id ≠ bindingId) →
          adapter ∈ (fleet.refresh outcomes workerId inventory.descriptors).stopped ∧
            (fleet.refresh outcomes workerId inventory.descriptors).fleet.adapters.has
              bindingId = false) ↔
      inventory.descriptors.Pairwise fun earlier later =>
        outcomes.Breaks workerId earlier → fleet.runs earlier = false →
          outcomes.Succeeds workerId later → fleet.runs later = true := by
  have launched : (∀ descriptor ∈ inventory.descriptors, outcomes.Succeeds workerId descriptor →
      (fleet.refresh outcomes workerId inventory.descriptors).fleet.runs descriptor = true) ↔
        Undisturbed outcomes workerId fleet inventory.descriptors := by
    rw [← undisturbed_congr fun descriptor member => sweepAll_runs inventory.ids member]
    exact launchAll_runs_iff inventory.ids
  have stopped : ∀ bindingId adapter, fleet.adapters.get? bindingId = some adapter →
      (∀ descriptor ∈ inventory.descriptors, descriptor.id ≠ bindingId) →
        adapter ∈ (fleet.refresh outcomes workerId inventory.descriptors).stopped ∧
          (fleet.refresh outcomes workerId inventory.descriptors).fleet.adapters.has
            bindingId = false := by
    intro bindingId adapter stored unnamed
    have visited : bindingId ∈ fleet.adapters.keys := by
      apply OrderedMap.has_eq_true.mp
      unfold OrderedMap.has
      rw [stored]
      exact Option.isSome_some
    obtain ⟨gone, stops⟩ := sweepAll_removes visited stored (keeps_unnamed unnamed)
    refine ⟨stops, ?_⟩
    have kept : Fleet.SameAt bindingId
        (fleet.refresh outcomes workerId inventory.descriptors).fleet
        (sweepAll inventory.descriptors fleet.adapters.keys fleet).1 :=
      launchAll_sameAt fun descriptor member => (unnamed descriptor member).symm
    unfold OrderedMap.has
    rw [kept.1, gone, Option.isSome_none]
  rw [launched]
  exact and_iff_left stopped

/-! ### A binding that fails -/

/-- The first of two bindings cannot be resolved; every other step succeeds. -/
def sampleOutcomes : StartOutcomes :=
  { resolve := fun descriptor =>
      if descriptor.id = "first" then .error ⟨some "channel_binding_not_found", none⟩
      else .ok ⟨descriptor.id, descriptor.channel, descriptor.ownerScope, .obj []⟩
    factory := fun config => .ok ⟨0, config.binding⟩
    start := fun _ => .ok () }

/-- A binding of the sample inventory. -/
def sampleListed (id : String) : BindingDescriptor :=
  { id := id
    channel := .qq
    generation := some 1
    ownerScope := ⟨none, none, none, none⟩ }

/-- Two bindings, of which the first fails. -/
def sampleInventory : Inventory :=
  { descriptors := [sampleListed "first", sampleListed "second"]
    ids := by
      unfold Keyed
      decide }

/-- The second binding does not run, although each of its own steps succeeds. -/
theorem failing_binding_stops_others :
    sampleListed "second" ∈ sampleInventory.descriptors ∧
      sampleOutcomes.Succeeds "worker" (sampleListed "second") ∧
      (Fleet.refresh sampleOutcomes "worker" sampleInventory.descriptors
        ⟨.empty, .empty⟩).fleet.runs (sampleListed "second") = false := by
  refine ⟨List.mem_cons_of_mem _ (List.mem_singleton_self _), ?_, by decide⟩
  exact ⟨⟨0, "second", .qq, "worker", ⟨none, none, none, none⟩⟩, rfl, rfl⟩

/-! ### The steps of the worker -/

/-- In a refresh, the platform, the factories and the adapters answer the outcomes; other calls
and answers may come in between, except that nobody stops the worker. -/
def WorkerEvent.Answers (outcomes : StartOutcomes) (discovered : List BindingDescriptor)
    (worker : ChannelWorker) : WorkerEvent → Prop
  | .refreshInventory => worker.refresh.isSome = true
  | .inventoried answer => answer = .ok discovered
  | .resolved answer factory =>
      ∃ descriptor rest, worker.refresh = some (.resolving descriptor rest) ∧
        answer = outcomes.resolve descriptor ∧ factory = outcomes.factory
  | .adapterStarted answer =>
      ∃ descriptor adapter rest, worker.refresh = some (.starting descriptor adapter rest) ∧
        answer = outcomes.start adapter
  | .stop | .stopSettled => False
  | _ => True

/-- A step in which the outcomes are answered. -/
def RefreshStep (outcomes : StartOutcomes) (discovered : List BindingDescriptor)
    (before after : ChannelWorker) : Prop :=
  ∃ event calls, event.Answers outcomes discovered before ∧
    before.step event = some (after, calls)

section Steps

variable {outcomes : StartOutcomes} {workerId : String} {discovered : List BindingDescriptor}
  {worker : ChannelWorker} {target : Fleet}

/-- The maps that a refresh leaves, from what it waits for on. -/
def RefreshTask.finish (outcomes : StartOutcomes) (workerId : String)
    (discovered : List BindingDescriptor) (fleet : Fleet) : RefreshTask → Fleet
  | .inventory => (fleet.refresh outcomes workerId discovered).fleet
  | .stopping listed bindingId rest =>
      (launchAll outcomes workerId listed
        (sweepAll listed rest (fleet.remove bindingId)).1).1
  | .resolving descriptor rest =>
      match startAdapter outcomes workerId descriptor fleet with
      | .error _ => fleet
      | .ok (entered, true) =>
          (launchAll outcomes workerId rest (entered.date descriptor)).1
      | .ok (kept, false) => (launchAll outcomes workerId rest kept).1
  | .starting descriptor adapter rest =>
      match outcomes.start adapter with
      | .ok () =>
          (launchAll outcomes workerId rest
            ((fleet.enter descriptor.id adapter).date descriptor)).1
      | .error _ => (launchAll outcomes workerId rest fleet).1
  | .cleaning rest => (launchAll outcomes workerId rest fleet).1
  | .started descriptor rest => (launchAll outcomes workerId rest (fleet.date descriptor)).1

/-- A refresh of the worker will leave these maps, or has left them. -/
structure ChannelWorker.Heads (outcomes : StartOutcomes) (workerId : String)
    (discovered : List BindingDescriptor) (target : Fleet) (worker : ChannelWorker) : Prop where
  own : worker.options.workerId = workerId
  ended : worker.refresh = none → worker.toFleet = target
  ahead : ∀ task, worker.refresh = some task →
    task.finish outcomes workerId discovered worker.toFleet = target

namespace ChannelWorker

/-- A worker with the same maps, options and refresh heads for the same maps. -/
theorem Heads.same {after : ChannelWorker}
    (heads : worker.Heads outcomes workerId discovered target)
    (same : worker.SameRefresh after) :
    after.Heads outcomes workerId discovered target := by
  constructor
  · rw [same.options]
    exact heads.own
  · rw [same.fleet, same.refresh]
    exact heads.ended
  · rw [same.fleet, same.refresh]
    exact heads.ahead

/-- The second loop heads for what it computes as one call. -/
theorem heads_launch {rest : List BindingDescriptor}
    (own : worker.options.workerId = workerId)
    (computed : (launchAll outcomes workerId rest worker.toFleet).1 = target) :
    (worker.launch rest).1.Heads outcomes workerId discovered target := by
  induction rest with
  | nil => exact ⟨own, fun _ => computed, fun task waits => by cases waits⟩
  | cons descriptor rest ih =>
      rw [launchAll] at computed
      rw [launch]
      by_cases runs : worker.runs descriptor = true
      · rw [if_pos runs] at computed ⊢
        exact ih computed
      · rw [if_neg runs] at computed ⊢
        refine ⟨own, fun none => ?_, fun task waits => ?_⟩
        · cases none
        · cases waits
          unfold RefreshTask.finish
          rw [← computed]
          dsimp only
          cases startAdapter outcomes workerId descriptor worker.toFleet with
          | error error => rfl
          | ok answer =>
              obtain ⟨kept, entered⟩ := answer
              cases entered with
              | true => rfl
              | false => rfl

/-- The first loop heads for what both loops compute as one call. -/
theorem heads_sweep {listed : List BindingDescriptor} {bindingIds : List String}
    (own : worker.options.workerId = workerId)
    (computed : (launchAll outcomes workerId listed
      (sweepAll listed bindingIds worker.toFleet).1).1 = target) :
    (worker.sweep listed bindingIds).1.Heads outcomes workerId discovered target := by
  induction bindingIds with
  | nil => exact heads_launch own computed
  | cons bindingId rest ih =>
      rw [sweepAll] at computed
      rw [sweep]
      cases stored : worker.adapters.get? bindingId with
      | none =>
          rw [stored] at computed
          exact ih computed
      | some adapter =>
          rw [stored] at computed
          dsimp only at computed ⊢
          by_cases keeps : worker.keeps listed bindingId = true
          · rw [if_pos keeps] at computed ⊢
            exact ih computed
          · rw [if_neg keeps] at computed ⊢
            refine ⟨own, fun none => ?_, fun task waits => ?_⟩
            · cases none
            · cases waits
              exact computed

/-- A step of the refresh itself heads for the same maps. -/
theorem Heads.stepRefresh {event : WorkerEvent} {after : ChannelWorker}
    {calls : List WorkerCall} (heads : worker.Heads outcomes workerId discovered target)
    (answers : event.Answers outcomes discovered worker)
    (taken : worker.stepRefresh event = some (after, calls)) :
    after.Heads outcomes workerId discovered target := by
  have own := heads.own
  unfold ChannelWorker.stepRefresh at taken
  split at taken
  · rename_i listed waits
    obtain ⟨rfl, -⟩ := parts_of_some taken
    cases answers
    exact heads_sweep own (heads.ahead _ waits)
  · cases answers
  · rename_i listed bindingId rest waits
    obtain ⟨rfl, -⟩ := parts_of_some taken
    exact heads_sweep own (heads.ahead _ waits)
  · rename_i answer factory descriptor rest waits
    obtain ⟨same, others, resolving, rfl, rfl⟩ := answers
    rw [waits] at resolving
    cases resolving
    have computed := heads.ahead _ waits
    unfold RefreshTask.finish startAdapter StartOutcomes.build at computed
    dsimp only at computed
    rw [own] at taken
    split at taken
    · rename_i error broken
      obtain ⟨rfl, -⟩ := parts_of_some taken
      rw [broken] at computed
      refine ⟨own, fun _ => computed, fun task waiting => ?_⟩
      cases waiting
    · rename_i adapter built
      obtain ⟨rfl, -⟩ := parts_of_some taken
      rw [built] at computed
      refine ⟨own, fun none => ?_, fun task starts => ?_⟩
      · cases none
      · cases starts
        unfold RefreshTask.finish
        rw [← computed]
        dsimp only
        cases outcomes.start adapter with
        | ok done => rfl
        | error error => rfl
  · rename_i descriptor adapter rest waits
    obtain ⟨rfl, -⟩ := parts_of_some taken
    obtain ⟨same, entered, others, starting, ran⟩ := answers
    rw [waits] at starting
    cases starting
    have computed := heads.ahead _ waits
    unfold RefreshTask.finish at computed
    dsimp only at computed
    rw [← ran] at computed
    refine ⟨own, fun none => ?_, fun task starts => ?_⟩
    · cases none
    · cases starts
      exact computed
  · rename_i error descriptor adapter rest waits
    obtain ⟨rfl, -⟩ := parts_of_some taken
    obtain ⟨same, entered, others, starting, threw⟩ := answers
    rw [waits] at starting
    cases starting
    have computed := heads.ahead _ waits
    unfold RefreshTask.finish at computed
    dsimp only at computed
    rw [← threw] at computed
    refine ⟨own, fun none => ?_, fun task cleans => ?_⟩
    · cases none
    · cases cleans
      exact computed
  · rename_i descriptor rest waits
    obtain ⟨rfl, -⟩ := parts_of_some taken
    exact heads_launch own (heads.ahead _ waits)
  · rename_i rest waits
    obtain ⟨rfl, -⟩ := parts_of_some taken
    exact heads_launch own (heads.ahead _ waits)
  · cases taken

/-- Every step in which the outcomes are answered heads for the same maps. -/
theorem Heads.step {after : ChannelWorker}
    (heads : worker.Heads outcomes workerId discovered target)
    (stepped : RefreshStep outcomes discovered worker after) :
    after.Heads outcomes workerId discovered target := by
  obtain ⟨event, calls, answers, taken⟩ := stepped
  have idle {answer : ChannelWorker × List WorkerCall}
      (same : some answer = some (after, calls)) (kept : worker.SameRefresh answer.1) :
      after.Heads outcomes workerId discovered target := by
    obtain ⟨rfl, -⟩ := parts_of_some same
    exact heads.same kept
  cases event with
  | refreshInventory =>
      have refreshing : worker.refresh.isSome = true := answers
      unfold ChannelWorker.step at taken
      dsimp only at taken
      rw [refreshing, Bool.true_or, if_pos rfl] at taken
      exact idle taken ⟨rfl, rfl, rfl⟩
  | runOnce =>
      unfold ChannelWorker.step at taken
      dsimp only at taken
      split at taken
      · exact idle taken ⟨rfl, rfl, rfl⟩
      · exact idle taken ⟨rfl, rfl, rfl⟩
  | leased env answer =>
      unfold ChannelWorker.step at taken
      dsimp only at taken
      split at taken
      · exact idle taken ⟨rfl, rfl, rfl⟩
      · rename_i items leasing
        have kept := deliverAll_keeps env items { worker with
          run := some (.delivering (List.range' worker.nextTask items.length) false) }
        exact idle taken ⟨kept.fleet, kept.options, kept.refresh⟩
      · cases taken
  | runEnded =>
      unfold ChannelWorker.step at taken
      dsimp only at taken
      split at taken
      · split at taken
        · exact idle taken ⟨rfl, rfl, rfl⟩
        · cases taken
      · cases taken
  | deliver env item => exact idle taken (deliver_keeps env item worker)
  | delivered env number answer =>
      unfold ChannelWorker.step at taken
      dsimp only at taken
      split at taken
      · split at taken
        · refine idle taken ?_
          unfold answered
          split <;> exact ⟨rfl, rfl, rfl⟩
        · cases taken
      · cases taken
  | acknowledged number accepted =>
      unfold ChannelWorker.step at taken
      dsimp only at taken
      split at taken
      · split at taken
        · cases taken
        · exact idle taken ⟨rfl, rfl, rfl⟩
      · cases taken
  | stop => exact answers.elim
  | stopSettled => exact answers.elim
  | inventoried | adapterStopped | resolved | adapterStarted | adapterEntered |
      adapterCleaned => exact heads.stepRefresh answers taken

/-- However the steps of a refresh interleave with deliveries, what it leaves when it ends is
what `refreshInventory` computes as one call. -/
theorem refresh_refines {first begun last : ChannelWorker} {calls : List WorkerCall}
    (idle : first.refresh = none) (live : first.stopped = false)
    (source : first.options.platformInventory = false → first.options.bindings = discovered)
    (called : first.step .refreshInventory = some (begun, calls))
    (steps : Relation.ReflTransGen (RefreshStep outcomes discovered) begun last)
    (ended : last.refresh = none) :
    last.toFleet =
      (first.toFleet.refresh outcomes first.options.workerId discovered).fleet := by
  have heads : begun.Heads outcomes first.options.workerId discovered
      (first.toFleet.refresh outcomes first.options.workerId discovered).fleet := by
    unfold ChannelWorker.step at called
    dsimp only at called
    rw [idle, live, Option.isSome_none, Bool.or_false, if_neg Bool.false_ne_true] at called
    split at called
    · obtain ⟨rfl, -⟩ := parts_of_some called
      refine ⟨rfl, fun none => ?_, fun task waits => ?_⟩
      · cases none
      · cases waits
        rfl
    · rename_i static
      rw [source (Bool.eq_false_iff.mpr static)] at called
      obtain ⟨rfl, -⟩ := parts_of_some called
      exact heads_sweep rfl rfl
  have reached := keeps_of_chain
    (ChannelWorker.Heads outcomes first.options.workerId discovered _)
    (fun before after heads stepped => heads.step stepped) steps heads
  exact reached.ended ended

end ChannelWorker

end Steps

end BairuiPlatform
