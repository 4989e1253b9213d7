/-
Module: BairuiPlatform.Channels.WorkerLifetime
Purpose: The channel worker with its timers and the adapters that run: `start`, the two loops of
  timers, `stop`, and when a stopped worker leaves nothing running.
Trusted boundary: an adapter runs from the call of its `start` to the next call of its `stop`; two
  adapters with one serial number are one object
Main exports: WorkerLoop, ArmedTimer, TimedWorker, TimedEvent, TimedWorker.next, timedWorker,
  TimedWorker.Quiet, StopsClean, timedWorker_quiet
-/
import BairuiPlatform.Channels.WorkerDelivery

namespace BairuiPlatform

open Foundations

/-! ### Timers -/

/-- The two loops of timers that `start` begins. -/
inductive WorkerLoop where
  | tick | refresh
deriving Repr, DecidableEq

/-- A timer that has not fired and was not cleared. -/
structure ArmedTimer where
  id : Nat
  loop : WorkerLoop
deriving Repr, DecidableEq

/-- Who awaits the refresh under way: a caller from outside, `start`, or the loop of the
inventory timer. -/
inductive RefreshCaller where
  | caller | start | loop
deriving Repr, DecidableEq

/-- A worker with its timers; the calls of `start` and of the loops whose await is over and that go
on; the adapters on which `start` was called and `stop` was not called since; and whether a call
of `stop` has resolved. -/
structure TimedWorker where
  worker : ChannelWorker
  refreshFor : RefreshCaller := .caller
  runForTick : Bool := false
  starting : Nat := 0
  looping : List WorkerLoop := []
  armed : List ArmedTimer := []
  timer : Option Nat := none
  inventoryTimer : Option Nat := none
  nextTimer : Nat := 0
  live : List Adapter := []
  settled : Bool := false

/-- A call of a method or an answer; `start`; a call of `start` that goes on after its refresh; a
timer that fires; and a loop that goes on after its call. -/
inductive TimedEvent where
  | worker (event : WorkerEvent)
  | start
  | startResumed
  | fired (id : Nat)
  | resumed (loop : WorkerLoop)

/-- The adapter whose start a refresh awaits. -/
def RefreshTask.startee : RefreshTask → Option Adapter
  | .starting _ adapter _ => some adapter
  | _ => none

/-- The binding whose adapter a refresh stops. -/
def RefreshTask.stoppee : RefreshTask → Option String
  | .stopping _ bindingId _ => some bindingId
  | _ => none

/-- The adapters that run after some calls. -/
def liveAfter (live : List Adapter) : List WorkerCall → List Adapter
  | [] => live
  | .start adapter :: calls => liveAfter (adapter :: live) calls
  | .stop adapter :: calls =>
      liveAfter (live.filter fun other => other.serial ≠ adapter.serial) calls
  | _ :: calls => liveAfter live calls

/-- A refresh that ends in a step with this event throws. The adapter that is made for a resolved
binding is awaited, so only an error ends a refresh there. -/
def WorkerEvent.breaksRefresh : WorkerEvent → Bool
  | .inventoried (.error _) => true
  | .resolved _ _ => true
  | _ => false

namespace TimedWorker

/-- The timer of a loop that the worker can clear. -/
def handle (state : TimedWorker) : WorkerLoop → Option Nat
  | .tick => state.timer
  | .refresh => state.inventoryTimer

/-- `setTimeout`, for a loop. -/
def arm (loop : WorkerLoop) (state : TimedWorker) : TimedWorker :=
  let armed : List ArmedTimer := { id := state.nextTimer, loop := loop } :: state.armed
  match loop with
  | .tick =>
      { state with
        armed := armed
        timer := some state.nextTimer
        nextTimer := state.nextTimer + 1 }
  | .refresh =>
      { state with
        armed := armed
        inventoryTimer := some state.nextTimer
        nextTimer := state.nextTimer + 1 }

/-- `clearTimeout`, for both timers. -/
def clearTimers (state : TimedWorker) : TimedWorker :=
  { state with
    armed := state.armed.filter fun timer =>
      some timer.id ≠ state.timer && some timer.id ≠ state.inventoryTimer
    timer := none
    inventoryTimer := none }

/-- What the worker answers to an event. -/
def follow (state : TimedWorker) (answer : ChannelWorker × List WorkerCall) : TimedWorker :=
  { state with
    worker := answer.1
    live := liveAfter state.live answer.2 }

/-- A call of `refreshInventory` has ended. -/
def refreshed (awaiting : RefreshCaller) (broke : Bool) (state : TimedWorker) : TimedWorker :=
  match awaiting with
  | .caller => state
  | .start => if broke then state else { state with starting := state.starting + 1 }
  | .loop => { state with looping := .refresh :: state.looping }

/-- A call of `runOnce` has ended. -/
def ran (forTick : Bool) (state : TimedWorker) : TimedWorker :=
  if forTick then { state with looping := .tick :: state.looping } else state

/-- `refreshInventory`, called by `start`, by a loop or from outside. -/
def callRefresh (awaiting : RefreshCaller) (state : TimedWorker) : Option TimedWorker :=
  (state.worker.step .refreshInventory).map fun answer =>
    if state.worker.refresh.isNone && answer.1.refresh.isSome then
      { state.follow answer with refreshFor := awaiting }
    else (state.follow answer).refreshed awaiting false

/-- `runOnce`, called by a tick or from outside. -/
def callRun (forTick : Bool) (state : TimedWorker) : Option TimedWorker :=
  (state.worker.step .runOnce).map fun answer =>
    if state.worker.run.isNone && answer.1.run.isSome then
      { state.follow answer with runForTick := forTick }
    else (state.follow answer).ran forTick

/-- An answer that the worker waits for, or a delivery. A refresh or a run that ends goes back to
its caller. -/
def receive (event : WorkerEvent) (state : TimedWorker) : Option TimedWorker :=
  (state.worker.step event).map fun answer =>
    let followed := state.follow answer
    let returned :=
      if state.worker.refresh.isSome && answer.1.refresh.isNone then
        followed.refreshed state.refreshFor event.breaksRefresh
      else followed
    if state.worker.run.isSome && answer.1.run.isNone then returned.ran state.runForTick
    else returned

/-- The state after an event. -/
def next (state : TimedWorker) : TimedEvent → Option TimedWorker
  | .worker .refreshInventory => state.callRefresh .caller
  | .worker .runOnce => state.callRun false
  | .worker .stop => (state.receive .stop).map clearTimers
  | .worker .stopSettled =>
      (state.receive .stopSettled).map fun after => { after with settled := true }
  | .worker event => state.receive event
  | .start => state.callRefresh .start
  | .startResumed =>
      if state.starting = 0 then none
      else some (({ state with starting := state.starting - 1 }.arm .tick).arm .refresh)
  | .fired id =>
      match state.armed.find? fun timer => timer.id = id with
      | none => none
      | some timer =>
          let rest := { state with armed := state.armed.filter fun other => other.id ≠ id }
          match timer.loop with
          | .tick => rest.callRun true
          | .refresh => rest.callRefresh .loop
  | .resumed loop =>
      if state.looping.contains loop then
        let rest := { state with looping := state.looping.erase loop }
        if state.worker.stopped then some rest else some (rest.arm loop)
      else none

end TimedWorker

/-- A channel worker from its construction on, with its timers. -/
def timedWorker : TransitionSystem TimedWorker TimedEvent where
  initial state := ∃ options, state = { worker := .new options }
  step before event after := before.next event = some after

/-! ### A stop that leaves nothing -/

/-- After a stop has resolved no adapter runs and no timer is armed. -/
def TimedWorker.Quiet (state : TimedWorker) : Prop :=
  state.settled = true → state.live = [] ∧ state.armed = []

/-- An event that starts nothing behind a stop: an adapter is only started, and its start only
succeeds, while the worker is not stopped, the latter for a binding without an adapter; and no
adapter is being started when a stop resolves. -/
structure ChannelWorker.StartsClean (worker : ChannelWorker) (event : WorkerEvent) : Prop where
  starts : ∀ answer factory descriptor rest adapter, event = .resolved answer factory →
    worker.refresh = some (.resolving descriptor rest) →
    buildAdapter worker.options.workerId descriptor answer factory = .ok adapter →
    worker.stopped = false
  enters : ∀ descriptor adapter rest, event = .adapterStarted (.ok ()) →
    worker.refresh = some (.starting descriptor adapter rest) →
    worker.stopped = false ∧ worker.adapters.has descriptor.id = false
  resolves : event = .stopSettled → worker.refresh.bind RefreshTask.startee = none

/-- A step that leaves nothing behind a stop: its event starts no adapter there; `start` arms its
timers while the worker is not stopped and none is armed; and a loop arms its timer while no other
of the loop is. -/
structure StopsClean (step : Transition TimedWorker TimedEvent) : Prop where
  starts : ∀ event, step.label = .worker event → step.before.worker.StartsClean event
  opens : step.label = .startResumed →
    step.before.worker.stopped = false ∧ step.before.armed = []
  rearms : ∀ loop, step.label = .resumed loop → step.before.worker.stopped = false →
    ∀ timer ∈ step.before.armed, timer.loop ≠ loop

/-! ### What every run keeps -/

namespace ChannelWorker

variable {worker : ChannelWorker} {live : List Adapter} {settled : Bool}

/-- The map holds an adapter. -/
def Holds (worker : ChannelWorker) (adapter : Adapter) : Prop :=
  ∃ entry ∈ worker.adapters.entries, entry.2.serial = adapter.serial

/-- The refresh awaits the start of an adapter. -/
def Starts (worker : ChannelWorker) (adapter : Adapter) : Prop :=
  ∃ started, worker.refresh.bind RefreshTask.startee = some started ∧
    started.serial = adapter.serial

/-- What is known of a worker and the adapters that run while no adapter is being started: the
map holds them, and there is none once the worker is stopped. -/
structure Between (worker : ChannelWorker) (live : List Adapter) (settled : Bool) : Prop where
  held : ∀ adapter ∈ live, worker.Holds adapter
  halted : worker.stopped = true → live = []
  closing : worker.closing ≠ 0 → worker.stopped = true
  settled : settled = true → worker.stopped = true

/-- What is known of a worker and the adapters that run in every state. -/
structure Watches (worker : ChannelWorker) (live : List Adapter) (settled : Bool) : Prop where
  held : ∀ adapter ∈ live, worker.Holds adapter ∨ worker.Starts adapter
  stopping : ∀ bindingId adapter, worker.refresh.bind RefreshTask.stoppee = some bindingId →
    worker.adapters.get? bindingId = some adapter →
    ∀ other ∈ live, other.serial ≠ adapter.serial
  halted : worker.stopped = true → ∀ adapter ∈ live, worker.Starts adapter
  closing : worker.closing ≠ 0 → worker.stopped = true
  settled : settled = true → worker.stopped = true ∧
    worker.refresh.bind RefreshTask.startee = none

theorem mem_liveAfter_stops {adapters : List Adapter} {adapter : Adapter}
    (runs : adapter ∈ liveAfter live (adapters.map .stop)) :
    adapter ∈ live ∧ ∀ stopped ∈ adapters, adapter.serial ≠ stopped.serial := by
  induction adapters generalizing live with
  | nil => exact ⟨runs, nofun⟩
  | cons first rest ih =>
      obtain ⟨member, others⟩ := ih runs
      rw [List.mem_filter, decide_eq_true_eq] at member
      exact ⟨member.1, List.forall_mem_cons.mpr ⟨member.2, others⟩⟩

/-- Calls that start and stop no adapter. -/
theorem liveAfter_of_silent {calls : List WorkerCall}
    (silent : ∀ call ∈ calls, ∀ adapter, call ≠ .start adapter ∧ call ≠ .stop adapter) :
    liveAfter live calls = live := by
  induction calls with
  | nil => rfl
  | cons call calls ih =>
      rw [List.forall_mem_cons] at silent
      have rest := ih silent.2
      cases call with
      | start adapter => exact absurd rfl (silent.1 adapter).1
      | stop adapter => exact absurd rfl (silent.1 adapter).2
      | inventory | resolveBinding | lease | receipt | report | deliver => exact rest

theorem not_starts (waits : worker.refresh.bind RefreshTask.startee = none) (adapter : Adapter) :
    ¬worker.Starts adapter := by
  rintro ⟨started, starting, -⟩
  rw [waits] at starting
  cases starting

/-- No start of an adapter is awaited. -/
theorem Watches.idle (watches : worker.Watches live settled)
    (starts : worker.refresh.bind RefreshTask.startee = none) :
    worker.Between live settled := by
  refine ⟨?_, ?_, watches.closing, fun done => (watches.settled done).1⟩
  · intro adapter runs
    exact (watches.held adapter runs).resolve_right (not_starts starts adapter)
  · intro stopped
    rw [List.eq_nil_iff_forall_not_mem]
    exact fun adapter runs => not_starts starts adapter (watches.halted stopped adapter runs)

theorem Watches.between {task : RefreshTask} (watches : worker.Watches live settled)
    (waits : worker.refresh = some task) (other : task.startee = none) :
    worker.Between live settled := by
  apply watches.idle
  rw [waits]
  exact other

/-- A worker with the same maps and flags. -/
theorem Between.same {after : ChannelWorker} (between : worker.Between live settled)
    (adapters : after.adapters = worker.adapters) (stopped : after.stopped = worker.stopped)
    (closing : after.closing = worker.closing) : after.Between live settled := by
  refine ⟨?_, ?_, ?_, ?_⟩
  · unfold Holds
    rw [adapters]
    exact between.held
  · rw [stopped]
    exact between.halted
  · rw [closing, stopped]
    exact between.closing
  · rw [stopped]
    exact between.settled

/-- A worker whose refresh starts no adapter and stops none. -/
theorem Between.watches (between : worker.Between live settled)
    (starts : worker.refresh.bind RefreshTask.startee = none)
    (stops : worker.refresh.bind RefreshTask.stoppee = none) :
    worker.Watches live settled where
  held adapter runs := .inl (between.held adapter runs)
  stopping bindingId adapter stopping := by
    rw [stops] at stopping
    cases stopping
  halted stopped adapter runs := by
    rw [between.halted stopped] at runs
    cases runs
  closing := between.closing
  settled done := ⟨between.settled done, starts⟩

/-- The worker waits for a task of the refresh that starts no adapter and stops none. -/
theorem Between.awaits (between : worker.Between live settled) (task : Option RefreshTask)
    (starts : task.bind RefreshTask.startee = none)
    (stops : task.bind RefreshTask.stoppee = none) :
    { worker with refresh := task }.Watches live settled := by
  have same : { worker with refresh := task }.Between live settled :=
    between.same rfl rfl rfl
  exact same.watches starts stops

/-! #### The loops of a refresh -/

theorem launch_watches {rest : List BindingDescriptor}
    (between : worker.Between live settled) :
    (worker.launch rest).1.Watches (liveAfter live (worker.launch rest).2) settled := by
  induction rest with
  | nil => exact between.awaits none rfl rfl
  | cons descriptor rest ih =>
      rw [launch]
      split
      · exact ih
      · exact between.awaits (some (.resolving descriptor rest)) rfl rfl

theorem sweep_watches {discovered : List BindingDescriptor} {bindingIds : List String}
    (between : worker.Between live settled) :
    (worker.sweep discovered bindingIds).1.Watches
      (liveAfter live (worker.sweep discovered bindingIds).2) settled := by
  induction bindingIds with
  | nil => exact launch_watches between
  | cons bindingId rest ih =>
      rw [sweep]
      cases stored : worker.adapters.get? bindingId with
      | none => exact ih
      | some adapter =>
          dsimp only
          split
          · exact ih
          · -- The stop of the adapter is awaited before the map loses it.
            refine ⟨?_, ?_, ?_, between.closing, ?_⟩
            · intro other runs
              exact .inl (between.held other (List.mem_of_mem_filter runs))
            · intro stopped held waits found other runs
              cases waits
              rw [stored] at found
              cases found
              simpa using (List.mem_filter.mp runs).2
            · intro stopped other runs
              have member := List.mem_of_mem_filter runs
              rw [between.halted stopped] at member
              cases member
            · exact fun done => ⟨between.settled done, rfl⟩

/-! #### The steps of a refresh -/

/-- The map without an adapter that does not run. -/
theorem Between.remove {bindingId : String} (between : worker.Between live settled)
    (idle : ∀ adapter, worker.adapters.get? bindingId = some adapter →
      ∀ other ∈ live, other.serial ≠ adapter.serial) :
    { worker with toFleet := worker.remove bindingId }.Between live settled := by
  refine ⟨?_, between.halted, between.closing, between.settled⟩
  intro adapter runs
  obtain ⟨entry, member, same⟩ := between.held adapter runs
  refine ⟨entry, List.mem_filter.mpr ⟨member, decide_eq_true ?_⟩, same⟩
  intro own
  have found : worker.adapters.get? bindingId = some entry.2 :=
    OrderedMap.get?_eq_some.mpr (own ▸ member)
  exact idle entry.2 found adapter runs same.symm

theorem Watches.stepRefresh {event : WorkerEvent} {after : ChannelWorker}
    {calls : List WorkerCall} (watches : worker.Watches live settled)
    (clean : worker.StartsClean event) (taken : worker.stepRefresh event = some (after, calls)) :
    after.Watches (liveAfter live calls) settled := by
  unfold ChannelWorker.stepRefresh at taken
  split at taken
  · -- The inventory has come.
    rename_i listed waits
    obtain ⟨rfl, rfl⟩ := parts_of_some taken
    have between := watches.between waits rfl
    exact sweep_watches (between.same rfl rfl rfl)
  · rename_i error waits
    obtain ⟨rfl, rfl⟩ := parts_of_some taken
    exact (watches.between waits rfl).awaits none rfl rfl
  · -- An adapter has stopped.
    rename_i listed bindingId rest waits
    obtain ⟨rfl, rfl⟩ := parts_of_some taken
    have between := watches.between waits rfl
    refine sweep_watches (between.remove fun adapter => watches.stopping bindingId adapter ?_)
    rw [waits]
    rfl
  · -- A binding is resolved.
    rename_i answer factory descriptor rest waits
    have between := watches.between waits rfl
    split at taken
    · obtain ⟨rfl, rfl⟩ := parts_of_some taken
      exact between.awaits none rfl rfl
    · rename_i adapter built
      obtain ⟨rfl, rfl⟩ := parts_of_some taken
      have running := clean.starts _ _ _ _ _ rfl waits built
      refine ⟨?_, ?_, ?_, between.closing, ?_⟩
      · refine List.forall_mem_cons.mpr ⟨.inr ⟨_, rfl, rfl⟩, ?_⟩
        exact fun other runs => .inl (between.held other runs)
      · intro _ _ waits
        cases waits
      · intro stopped
        exact absurd stopped (Bool.eq_false_iff.mp running)
      · intro done
        exact absurd (between.settled done) (Bool.eq_false_iff.mp running)
  · -- The adapter enters the map.
    rename_i descriptor adapter rest waits
    obtain ⟨rfl, rfl⟩ := parts_of_some taken
    obtain ⟨running, fresh⟩ := clean.enters _ _ _ rfl waits
    have entries : (worker.adapters.set descriptor.id adapter).entries =
        worker.adapters.entries ++ [(descriptor.id, adapter)] := by
      unfold OrderedMap.set
      rw [dif_pos fresh]
    refine ⟨?_, ?_, ?_, watches.closing, ?_⟩
    · intro other runs
      left
      unfold Holds Fleet.enter
      rw [entries]
      rcases watches.held other runs with ⟨entry, member, same⟩ | ⟨started, starting, same⟩
      · exact ⟨entry, List.mem_append_left _ member, same⟩
      · rw [waits] at starting
        cases starting
        exact ⟨_, List.mem_append_right _ (List.mem_singleton_self _), same⟩
    · intro _ _ waits
      cases waits
    · intro stopped
      exact absurd stopped (Bool.eq_false_iff.mp running)
    · intro done
      exact absurd (watches.settled done).1 (Bool.eq_false_iff.mp running)
  · -- The start has failed, and the adapter is stopped.
    rename_i error descriptor adapter rest waits
    obtain ⟨rfl, rfl⟩ := parts_of_some taken
    have spared (other : Adapter) (runs : other ∈ liveAfter live
        [.stop adapter, .report adapter error]) : other ∈ live ∧ ¬worker.Starts other := by
      have inside := List.mem_filter.mp runs
      refine ⟨inside.1, ?_⟩
      rintro ⟨started, starting, same⟩
      rw [waits] at starting
      cases starting
      exact of_decide_eq_true inside.2 same.symm
    have between : worker.Between
        (liveAfter live [.stop adapter, .report adapter error]) settled := by
      refine ⟨?_, ?_, watches.closing, fun done => (watches.settled done).1⟩
      · intro other runs
        obtain ⟨before, starts⟩ := spared other runs
        exact (watches.held other before).resolve_right starts
      · intro stopped
        rw [List.eq_nil_iff_forall_not_mem]
        intro other runs
        obtain ⟨before, starts⟩ := spared other runs
        exact starts (watches.halted stopped other before)
    exact between.awaits (some (.cleaning rest)) rfl rfl
  · rename_i descriptor rest waits
    obtain ⟨rfl, rfl⟩ := parts_of_some taken
    have between := watches.between waits rfl
    exact launch_watches (between.same rfl rfl rfl)
  · rename_i rest waits
    obtain ⟨rfl, rfl⟩ := parts_of_some taken
    exact launch_watches (watches.between waits rfl)
  · cases taken

/-! #### The steps of a worker -/

/-- A worker with the same maps, refresh and flags is known as well. -/
theorem Watches.same {after : ChannelWorker} (watches : worker.Watches live settled)
    (adapters : after.adapters = worker.adapters) (refresh : after.refresh = worker.refresh)
    (stopped : after.stopped = worker.stopped) (closing : after.closing = worker.closing) :
    after.Watches live settled := by
  constructor
  · unfold Holds Starts
    rw [adapters, refresh]
    exact watches.held
  · rw [adapters, refresh]
    exact watches.stopping
  · unfold Starts
    rw [stopped, refresh]
    exact watches.halted
  · rw [closing, stopped]
    exact watches.closing
  · rw [stopped, refresh]
    exact watches.settled

/-- A batch of deliveries stops no worker and no adapter, and starts none. -/
theorem deliverAll_silent (env : ChannelEnv) (items : List DeliveryItem)
    (worker : ChannelWorker) :
    (worker.deliverAll env items).1.stopped = worker.stopped ∧
      (worker.deliverAll env items).1.closing = worker.closing ∧
      ∀ call ∈ (worker.deliverAll env items).2, ∀ adapter,
        call ≠ .start adapter ∧ call ≠ .stop adapter := by
  induction items generalizing worker with
  | nil => exact ⟨rfl, rfl, List.forall_mem_nil _⟩
  | cons item rest ih =>
      have first : (worker.deliver env item).1.stopped = worker.stopped ∧
          (worker.deliver env item).1.closing = worker.closing ∧
          ∀ call ∈ (worker.deliver env item).2, ∀ adapter,
            call ≠ .start adapter ∧ call ≠ .stop adapter := by
        unfold deliver
        dsimp only
        split
        · exact ⟨rfl, rfl, List.forall_mem_singleton.mpr fun _ =>
            ⟨WorkerCall.noConfusion, WorkerCall.noConfusion⟩⟩
        · exact ⟨rfl, rfl, List.forall_mem_singleton.mpr fun _ =>
            ⟨WorkerCall.noConfusion, WorkerCall.noConfusion⟩⟩
      obtain ⟨stopped, closing, silent⟩ := ih (worker.deliver env item).1
      refine ⟨stopped.trans first.1, closing.trans first.2.1, ?_⟩
      exact List.forall_mem_append.mpr ⟨first.2.2, silent⟩

/-- A stop calls the stop of every adapter of the map. -/
theorem Watches.stop (watches : worker.Watches live settled) :
    { worker with stopped := true, closing := worker.closing + 1 }.Watches
      (liveAfter live (worker.adapters.values.map .stop)) settled := by
  have spared (adapter : Adapter)
      (runs : adapter ∈ liveAfter live (worker.adapters.values.map .stop)) :
      adapter ∈ live ∧ worker.Starts adapter := by
    obtain ⟨before, others⟩ := mem_liveAfter_stops runs
    refine ⟨before, (watches.held adapter before).resolve_left ?_⟩
    rintro ⟨entry, member, same⟩
    exact others entry.2 (List.mem_map_of_mem member) same.symm
  refine ⟨?_, ?_, ?_, fun _ => rfl, fun done => ⟨rfl, (watches.settled done).2⟩⟩
  · exact fun adapter runs => .inr (spared adapter runs).2
  · intro bindingId adapter waits found other runs
    exact watches.stopping bindingId adapter waits found other (spared other runs).1
  · exact fun _ adapter runs => (spared adapter runs).2

/-- When a stop resolves no adapter runs. -/
theorem Watches.settle (watches : worker.Watches live settled) (closes : worker.closing ≠ 0)
    (resolves : worker.refresh.bind RefreshTask.startee = none) :
    { worker with
      adapters := .empty, generations := .empty, closing := worker.closing - 1 }.Watches
        live true := by
  have stopped := watches.closing closes
  have nothing : live = [] := by
    rw [List.eq_nil_iff_forall_not_mem]
    exact fun adapter runs => not_starts resolves adapter (watches.halted stopped adapter runs)
  rw [nothing]
  exact ⟨nofun, fun _ _ _ _ => nofun, fun _ => nofun, fun _ => stopped,
    fun _ => ⟨stopped, resolves⟩⟩

/-- A call of `stop` has resolved, with this event or before it. -/
def settledAfter (settled : Bool) : WorkerEvent → Bool
  | .stopSettled => true
  | _ => settled

theorem Watches.step {event : WorkerEvent} {after : ChannelWorker} {calls : List WorkerCall}
    (watches : worker.Watches live settled) (clean : worker.StartsClean event)
    (taken : worker.step event = some (after, calls)) :
    after.Watches (liveAfter live calls) (settledAfter settled event) := by
  cases event with
  | refreshInventory =>
      unfold ChannelWorker.step at taken
      dsimp only at taken
      split at taken
      · obtain ⟨rfl, rfl⟩ := parts_of_some taken
        exact watches
      · rename_i called
        have ended : worker.refresh = none := by
          cases waits : worker.refresh with
          | none => rfl
          | some task => simp [waits] at called
        have between : worker.Between live settled := by
          apply watches.idle
          rw [ended]
          rfl
        split at taken
        · obtain ⟨rfl, rfl⟩ := parts_of_some taken
          exact between.awaits (some .inventory) rfl rfl
        · obtain ⟨rfl, rfl⟩ := parts_of_some taken
          exact sweep_watches (between.same rfl rfl rfl)
  | runOnce =>
      unfold ChannelWorker.step at taken
      dsimp only at taken
      split at taken
      · obtain ⟨rfl, rfl⟩ := parts_of_some taken
        exact watches
      · obtain ⟨rfl, rfl⟩ := parts_of_some taken
        exact watches.same rfl rfl rfl rfl
  | leased env answer =>
      unfold ChannelWorker.step at taken
      dsimp only at taken
      split at taken
      · obtain ⟨rfl, rfl⟩ := parts_of_some taken
        exact watches.same rfl rfl rfl rfl
      · rename_i items leasing
        obtain ⟨rfl, rfl⟩ := parts_of_some taken
        let leased : ChannelWorker := { worker with
          run := some (.delivering (List.range' worker.nextTask items.length) false) }
        have kept := deliverAll_keeps env items leased
        obtain ⟨stopped, closing, silent⟩ := deliverAll_silent env items leased
        rw [liveAfter_of_silent silent]
        exact watches.same (congrArg Fleet.adapters kept.fleet) kept.refresh stopped closing
      · cases taken
  | runEnded =>
      unfold ChannelWorker.step at taken
      dsimp only at taken
      split at taken
      · split at taken
        · obtain ⟨rfl, rfl⟩ := parts_of_some taken
          exact watches.same rfl rfl rfl rfl
        · cases taken
      · cases taken
  | deliver env item =>
      unfold ChannelWorker.step deliver at taken
      dsimp only at taken
      split at taken
      · obtain ⟨rfl, rfl⟩ := parts_of_some taken
        exact watches.same rfl rfl rfl rfl
      · obtain ⟨rfl, rfl⟩ := parts_of_some taken
        exact watches.same rfl rfl rfl rfl
  | delivered env number answer =>
      unfold ChannelWorker.step at taken
      dsimp only at taken
      split at taken
      · split at taken
        · unfold answered at taken
          split at taken
          · obtain ⟨rfl, rfl⟩ := parts_of_some taken
            exact watches.same rfl rfl rfl rfl
          · obtain ⟨rfl, rfl⟩ := parts_of_some taken
            exact watches.same rfl rfl rfl rfl
        · cases taken
      · cases taken
  | acknowledged number accepted =>
      unfold ChannelWorker.step at taken
      dsimp only at taken
      split at taken
      · split at taken
        · cases taken
        · obtain ⟨rfl, rfl⟩ := parts_of_some taken
          exact watches.same rfl rfl rfl rfl
      · cases taken
  | stop =>
      unfold ChannelWorker.step at taken
      obtain ⟨rfl, rfl⟩ := parts_of_some taken
      exact watches.stop
  | stopSettled =>
      unfold ChannelWorker.step at taken
      dsimp only at taken
      split at taken
      · cases taken
      · rename_i closes
        obtain ⟨rfl, rfl⟩ := parts_of_some taken
        exact watches.settle closes (clean.resolves rfl)
  | inventoried | adapterStopped | resolved | adapterStarted | adapterEntered |
      adapterCleaned => exact watches.stepRefresh clean taken

theorem launch_stopped (rest : List BindingDescriptor) :
    (worker.launch rest).1.stopped = worker.stopped := by
  induction rest with
  | nil => rfl
  | cons descriptor rest ih =>
      rw [launch]
      split
      · exact ih
      · rfl

theorem sweep_stopped (discovered : List BindingDescriptor) (bindingIds : List String) :
    (worker.sweep discovered bindingIds).1.stopped = worker.stopped := by
  induction bindingIds with
  | nil => exact launch_stopped discovered
  | cons bindingId rest ih =>
      rw [sweep]
      split
      · exact ih
      · split
        · exact ih
        · rfl

theorem stepRefresh_stopped {event : WorkerEvent} {after : ChannelWorker}
    {calls : List WorkerCall} (taken : worker.stepRefresh event = some (after, calls)) :
    after.stopped = worker.stopped := by
  unfold ChannelWorker.stepRefresh at taken
  split at taken
  · obtain ⟨rfl, -⟩ := parts_of_some taken
    exact sweep_stopped _ _
  · obtain ⟨rfl, -⟩ := parts_of_some taken
    rfl
  · obtain ⟨rfl, -⟩ := parts_of_some taken
    exact sweep_stopped _ _
  · split at taken
    · obtain ⟨rfl, -⟩ := parts_of_some taken
      rfl
    · obtain ⟨rfl, -⟩ := parts_of_some taken
      rfl
  · obtain ⟨rfl, -⟩ := parts_of_some taken
    rfl
  · obtain ⟨rfl, -⟩ := parts_of_some taken
    rfl
  · obtain ⟨rfl, -⟩ := parts_of_some taken
    exact launch_stopped _
  · obtain ⟨rfl, -⟩ := parts_of_some taken
    exact launch_stopped _
  · cases taken

/-- Only a call of `stop` stops a worker. -/
theorem step_stopped {event : WorkerEvent} {after : ChannelWorker} {calls : List WorkerCall}
    (other : event ≠ .stop) (taken : worker.step event = some (after, calls)) :
    after.stopped = worker.stopped := by
  have kept {answer : ChannelWorker × List WorkerCall}
      (same : some answer = some (after, calls)) (flag : answer.1.stopped = worker.stopped) :
      after.stopped = worker.stopped := by
    obtain ⟨rfl, -⟩ := parts_of_some same
    exact flag
  cases event with
  | refreshInventory =>
      unfold ChannelWorker.step at taken
      dsimp only at taken
      split at taken
      · exact kept taken rfl
      · split at taken
        · exact kept taken rfl
        · exact kept taken (sweep_stopped _ _)
  | runOnce =>
      unfold ChannelWorker.step at taken
      dsimp only at taken
      split at taken
      · exact kept taken rfl
      · exact kept taken rfl
  | leased env answer =>
      unfold ChannelWorker.step at taken
      dsimp only at taken
      split at taken
      · exact kept taken rfl
      · exact kept taken (deliverAll_silent _ _ _).1
      · cases taken
  | runEnded =>
      unfold ChannelWorker.step at taken
      dsimp only at taken
      split at taken
      · split at taken
        · exact kept taken rfl
        · cases taken
      · cases taken
  | deliver env item =>
      unfold ChannelWorker.step deliver at taken
      dsimp only at taken
      split at taken
      · exact kept taken rfl
      · exact kept taken rfl
  | delivered env number answer =>
      unfold ChannelWorker.step at taken
      dsimp only at taken
      split at taken
      · split at taken
        · unfold answered at taken
          split at taken
          · exact kept taken rfl
          · exact kept taken rfl
        · cases taken
      · cases taken
  | acknowledged number accepted =>
      unfold ChannelWorker.step at taken
      dsimp only at taken
      split at taken
      · split at taken
        · cases taken
        · exact kept taken rfl
      · cases taken
  | stop => exact absurd rfl other
  | stopSettled =>
      unfold ChannelWorker.step at taken
      dsimp only at taken
      split at taken
      · cases taken
      · exact kept taken rfl
  | inventoried | adapterStopped | resolved | adapterStarted | adapterEntered |
      adapterCleaned => exact stepRefresh_stopped taken

end ChannelWorker

namespace TimedWorker

variable {state after : TimedWorker} {event : WorkerEvent}

/-- What is known of a worker with its timers in every state: the handles of the worker name the
timers that are armed, and none is once the worker is stopped. -/
structure Known (state : TimedWorker) : Prop where
  watches : state.worker.Watches state.live state.settled
  timers : ∀ timer ∈ state.armed, state.handle timer.loop = some timer.id
  halted : state.worker.stopped = true → state.armed = []

theorem Known.quiet (known : state.Known) : state.Quiet := by
  intro done
  obtain ⟨stopped, starts⟩ := known.watches.settled done
  exact ⟨(known.watches.idle starts).halted stopped, known.halted stopped⟩

/-- The state after an event of the worker, with the same timers. -/
structure Follows (state : TimedWorker) (event : WorkerEvent) (after : TimedWorker) : Prop where
  answers : ∃ answer, state.worker.step event = some answer ∧ after.worker = answer.1 ∧
    after.live = liveAfter state.live answer.2
  settled : after.settled = state.settled
  armed : after.armed = state.armed
  handle : after.handle = state.handle

theorem refreshed_follows {awaiting : RefreshCaller} {broke : Bool}
    (follows : state.Follows event after) :
    state.Follows event (after.refreshed awaiting broke) := by
  cases awaiting with
  | caller => exact follows
  | start =>
      cases broke with
      | false => exact ⟨follows.answers, follows.settled, follows.armed, follows.handle⟩
      | true => exact follows
  | loop => exact ⟨follows.answers, follows.settled, follows.armed, follows.handle⟩

theorem ran_follows {forTick : Bool} (follows : state.Follows event after) :
    state.Follows event (after.ran forTick) := by
  cases forTick with
  | false => exact follows
  | true => exact ⟨follows.answers, follows.settled, follows.armed, follows.handle⟩

theorem follow_follows {answer : ChannelWorker × List WorkerCall}
    (taken : state.worker.step event = some answer) :
    state.Follows event (state.follow answer) :=
  ⟨⟨answer, taken, rfl, rfl⟩, rfl, rfl, rfl⟩

theorem callRefresh_follows {awaiting : RefreshCaller}
    (called : state.callRefresh awaiting = some after) :
    state.Follows .refreshInventory after := by
  obtain ⟨answer, taken, rfl⟩ := Option.map_eq_some_iff.mp called
  have follows := follow_follows taken
  split
  · exact ⟨follows.answers, rfl, rfl, rfl⟩
  · exact refreshed_follows follows

theorem callRun_follows {forTick : Bool} (called : state.callRun forTick = some after) :
    state.Follows .runOnce after := by
  obtain ⟨answer, taken, rfl⟩ := Option.map_eq_some_iff.mp called
  have follows := follow_follows taken
  split
  · exact ⟨follows.answers, rfl, rfl, rfl⟩
  · exact ran_follows follows

theorem receive_follows (received : state.receive event = some after) :
    state.Follows event after := by
  obtain ⟨answer, taken, rfl⟩ := Option.map_eq_some_iff.mp received
  have follows := follow_follows taken
  dsimp only
  split
  · split
    · exact ran_follows (refreshed_follows follows)
    · exact ran_follows follows
  · split
    · exact refreshed_follows follows
    · exact follows

/-- An event of the worker keeps what is known of its adapters. -/
theorem Follows.watches (follows : state.Follows event after) (known : state.Known)
    (clean : state.worker.StartsClean event) :
    after.worker.Watches after.live (ChannelWorker.settledAfter state.settled event) := by
  obtain ⟨answer, taken, worker, live⟩ := follows.answers
  rw [worker, live]
  exact known.watches.step clean taken

/-- An event that neither is a stop nor resolves one. -/
theorem Follows.known (follows : state.Follows event after) (known : state.Known)
    (clean : state.worker.StartsClean event) (unstopped : event ≠ .stop)
    (unsettled : ChannelWorker.settledAfter state.settled event = state.settled) :
    after.Known := by
  refine ⟨?_, ?_, ?_⟩
  · rw [follows.settled, ← unsettled]
    exact follows.watches known clean
  · rw [follows.armed, follows.handle]
    exact known.timers
  · obtain ⟨answer, taken, worker, -⟩ := follows.answers
    rw [worker, ChannelWorker.step_stopped unstopped taken, follows.armed]
    exact known.halted

/-- Calls of the methods start no adapter by themselves. -/
theorem startsClean_refreshInventory (worker : ChannelWorker) :
    worker.StartsClean .refreshInventory := by
  refine ⟨?_, ?_, ?_⟩
  · intro _ _ _ _ _ same
    cases same
  · intro _ _ _ same
    cases same
  · intro same
    cases same

theorem startsClean_runOnce (worker : ChannelWorker) : worker.StartsClean .runOnce := by
  refine ⟨?_, ?_, ?_⟩
  · intro _ _ _ _ _ same
    cases same
  · intro _ _ _ same
    cases same
  · intro same
    cases same

/-- A loop arms its timer while no other of the loop is. -/
theorem Known.arm {loop : WorkerLoop} (known : state.Known)
    (running : state.worker.stopped = false)
    (alone : ∀ timer ∈ state.armed, timer.loop ≠ loop) : (state.arm loop).Known := by
  have watches : (state.arm loop).worker.Watches (state.arm loop).live
      (state.arm loop).settled := by
    cases loop <;> exact known.watches
  have stopped : (state.arm loop).worker.stopped = false := by
    cases loop <;> exact running
  refine ⟨watches, ?_, fun halted => absurd halted (Bool.eq_false_iff.mp stopped)⟩
  cases loop with
  | tick =>
      refine List.forall_mem_cons.mpr ⟨rfl, fun timer member => ?_⟩
      have named := known.timers timer member
      cases own : timer.loop with
      | tick => exact absurd own (alone timer member)
      | refresh =>
          rw [own] at named
          exact named
  | refresh =>
      refine List.forall_mem_cons.mpr ⟨rfl, fun timer member => ?_⟩
      have named := known.timers timer member
      cases own : timer.loop with
      | tick =>
          rw [own] at named
          exact named
      | refresh => exact absurd own (alone timer member)

/-- A stop clears every timer that is armed. -/
theorem Known.stop (known : state.Known) (clean : state.worker.StartsClean .stop)
    (follows : state.Follows .stop after) : after.clearTimers.Known := by
  have cleared : after.clearTimers.armed = [] := by
    refine List.filter_eq_nil_iff.mpr fun timer member => ?_
    rw [follows.armed] at member
    have named := known.timers timer member
    rw [← follows.handle] at named
    cases own : timer.loop with
    | tick =>
        rw [own] at named
        have handle : after.timer = some timer.id := named
        simp [handle]
    | refresh =>
        rw [own] at named
        have handle : after.inventoryTimer = some timer.id := named
        simp [handle]
  refine ⟨?_, ?_, fun _ => cleared⟩
  · have watches : after.worker.Watches after.live state.settled := follows.watches known clean
    rw [← follows.settled] at watches
    exact watches
  · rw [cleared]
    nofun

/-- Every clean step keeps what is known of a worker with its timers. -/
theorem Known.next {event : TimedEvent} (known : state.Known)
    (taken : state.next event = some after)
    (clean : StopsClean ⟨state, event, after⟩) : after.Known := by
  cases event with
  | start =>
      have follows := callRefresh_follows taken
      exact follows.known known (startsClean_refreshInventory _) nofun rfl
  | startResumed =>
      obtain ⟨running, unarmed⟩ := clean.opens rfl
      unfold TimedWorker.next at taken
      dsimp only at taken
      split at taken
      · cases taken
      · cases taken
        have rest : { state with starting := state.starting - 1 }.Known :=
          ⟨known.watches, known.timers, known.halted⟩
        have ticks := @Known.arm _ .tick rest running (by
          intro timer member
          have none : timer ∈ state.armed := member
          rw [unarmed] at none
          cases none)
        refine @Known.arm _ .refresh ticks running ?_
        refine List.forall_mem_cons.mpr ⟨WorkerLoop.noConfusion, ?_⟩
        rw [unarmed]
        nofun
  | fired id =>
      unfold TimedWorker.next at taken
      dsimp only at taken
      split at taken
      · cases taken
      · rename_i timer found
        have rest : { state with
            armed := state.armed.filter fun other => other.id ≠ id }.Known := by
          refine ⟨known.watches, ?_, ?_⟩
          · exact fun other member => known.timers other (List.mem_of_mem_filter member)
          · intro stopped
            exact List.filter_eq_nil_iff.mpr (by rw [known.halted stopped]; nofun)
        split at taken
        · have follows := callRun_follows taken
          exact follows.known rest (startsClean_runOnce _) nofun rfl
        · have follows := callRefresh_follows taken
          exact follows.known rest (startsClean_refreshInventory _) nofun rfl
  | resumed loop =>
      unfold TimedWorker.next at taken
      dsimp only at taken
      split at taken
      · have rest : { state with looping := state.looping.erase loop }.Known :=
          ⟨known.watches, known.timers, known.halted⟩
        split at taken
        · cases taken
          exact rest
        · rename_i running
          cases taken
          have runs := Bool.eq_false_iff.mpr running
          exact rest.arm runs (clean.rearms loop rfl runs)
      · cases taken
  | worker event =>
      have starts := clean.starts event rfl
      cases event with
      | refreshInventory =>
          exact (callRefresh_follows taken).known known starts nofun rfl
      | runOnce => exact (callRun_follows taken).known known starts nofun rfl
      | stop =>
          have stops : (state.receive .stop).map clearTimers = some after := taken
          obtain ⟨received, receives, rfl⟩ := Option.map_eq_some_iff.mp stops
          exact known.stop starts (receive_follows receives)
      | stopSettled =>
          have settles : (state.receive .stopSettled).map
              (fun received => { received with settled := true }) = some after := taken
          obtain ⟨received, receives, rfl⟩ := Option.map_eq_some_iff.mp settles
          have follows := receive_follows receives
          refine ⟨follows.watches known starts, ?_, ?_⟩
          · have timers := known.timers
            rw [← follows.armed, ← follows.handle] at timers
            exact timers
          · obtain ⟨answer, answers, worker, -⟩ := follows.answers
            have armed : received.armed = state.armed := follows.armed
            intro stopped
            have before : state.worker.stopped = true := by
              have other : WorkerEvent.stopSettled ≠ .stop := WorkerEvent.noConfusion
              have same := ChannelWorker.step_stopped other answers
              rw [← same, ← worker]
              exact stopped
            exact armed.trans (known.halted before)
      | inventoried | adapterStopped | resolved | adapterStarted | adapterEntered |
          adapterCleaned | leased | runEnded | deliver | delivered | acknowledged =>
          exact (receive_follows taken).known known starts nofun rfl

end TimedWorker

/-- In a run whose steps all start nothing behind a stop, no adapter runs and no timer is armed
from the first stop that resolves on. -/
theorem timedWorker_quiet {history : List (Transition TimedWorker TimedEvent)}
    {state : TimedWorker} (run : Run timedWorker history state)
    (clean : ∀ step ∈ history, StopsClean step) : state.Quiet := by
  suffices known : state.Known from known.quiet
  refine @Run.guarded_invariant _ _ timedWorker history state StopsClean TimedWorker.Known ?_ ?_
    run clean
  · rintro state ⟨options, rfl⟩
    exact ⟨⟨nofun, nofun, nofun, nofun, nofun⟩, nofun, nofun⟩
  · exact fun before event after known taken clean => known.next taken clean

/-! ### A stop behind a start -/

/-- The adapter of the sample binding is started. -/
def sampleAdapterStart : List TimedEvent :=
  [.worker (.inventoried (.ok [sampleDescriptor 1])),
    .worker (.resolved (.ok ⟨"binding", .feishu, sampleScope, .obj []⟩)
      fun config => .ok ⟨0, config.binding⟩),
    .worker (.adapterStarted (.ok ())), .worker .adapterEntered, .startResumed]

/-- A worker that is stopped after its start is over. -/
def orderlyStop : List TimedEvent :=
  .start :: sampleAdapterStart ++ [.worker .stop, .worker .stopSettled]

/-- A worker that is stopped while its start awaits the inventory. -/
def hastyStop : List TimedEvent :=
  [.start, .worker .stop, .worker .stopSettled] ++ sampleAdapterStart

/-- A check of a step that starts nothing behind a stop. -/
def checksClean (step : Transition TimedWorker TimedEvent) : Bool :=
  match step.label with
  | .startResumed => !step.before.worker.stopped && step.before.armed.isEmpty
  | .resumed loop => step.before.armed.all fun timer => timer.loop ≠ loop
  | .worker (.resolved _ _) => !step.before.worker.stopped
  | .worker (.adapterStarted _) =>
      !step.before.worker.stopped && step.before.worker.adapters.keys.isEmpty
  | .worker .stopSettled => (step.before.worker.refresh.bind RefreshTask.startee).isNone
  | _ => true

theorem StopsClean.of_check {step : Transition TimedWorker TimedEvent}
    (checked : checksClean step = true) : StopsClean step := by
  obtain ⟨before, label, after⟩ := step
  refine ⟨?_, ?_, ?_⟩
  · rintro event rfl
    refine ⟨?_, ?_, ?_⟩
    · rintro answer factory descriptor rest adapter rfl _ _
      simpa [checksClean] using checked
    · rintro descriptor adapter rest rfl _
      simp only [checksClean, Bool.and_eq_true, Bool.not_eq_true', List.isEmpty_iff] at checked
      refine ⟨checked.1, ?_⟩
      rw [← Bool.not_eq_true, OrderedMap.has_eq_true, checked.2]
      exact List.not_mem_nil
    · rintro rfl
      simpa [checksClean] using checked
  · rintro rfl
    simpa [checksClean] using checked
  · rintro loop rfl _ timer member
    simp only [checksClean, List.all_eq_true, decide_eq_true_eq] at checked
    exact checked timer member

/-- The state after an event that the worker takes. -/
def TimedWorker.afterEvent (event : TimedEvent) (state : TimedWorker) : TimedWorker :=
  (state.next event).getD state

/-- The history and the state after some events of a new worker. -/
def playTimed (events : List TimedEvent) :
    List (Transition TimedWorker TimedEvent) × TimedWorker :=
  play TimedWorker.afterEvent [] { worker := .new sampleOptions } events

theorem run_playTimed {events : List TimedEvent}
    (takes : playable (fun event state => (state.next event).isSome) TimedWorker.afterEvent
      { worker := .new sampleOptions } events = true) :
    Run timedWorker (playTimed events).1 (playTimed events).2 := by
  have started : Run timedWorker [] { worker := .new sampleOptions } :=
    .start ⟨sampleOptions, rfl⟩
  refine started.play_of_playable ?_ takes
  intro event state taken
  obtain ⟨after, reached⟩ := Option.isSome_iff_exists.mp taken
  have next : TimedWorker.afterEvent event state = after := by
    unfold TimedWorker.afterEvent
    rw [reached, Option.getD_some]
  rw [next]
  exact reached

theorem timedWorker_quiet_orderly : (playTimed orderlyStop).2.Quiet := by
  refine timedWorker_quiet (run_playTimed (by decide +kernel)) ?_
  have checked : (playTimed orderlyStop).1.all checksClean = true := by decide +kernel
  exact fun step member => StopsClean.of_check (List.all_eq_true.mp checked step member)

/-- An adapter and two timers are started after the stop of a worker has resolved. -/
theorem stopped_worker_starts_adapter :
    ∃ history state, Run timedWorker history state ∧ state.settled = true ∧
      state.live.map (·.serial) = [0] ∧ state.armed.length = 2 ∧ ¬state.Quiet := by
  refine ⟨_, _, @run_playTimed hastyStop (by decide +kernel), ?_⟩
  have settled : (playTimed hastyStop).2.settled = true := by decide +kernel
  have running : (playTimed hastyStop).2.live.map (·.serial) = [0] := by decide +kernel
  refine ⟨settled, running, by decide +kernel, ?_⟩
  intro quiet
  rw [(quiet settled).1] at running
  cases running

end BairuiPlatform
