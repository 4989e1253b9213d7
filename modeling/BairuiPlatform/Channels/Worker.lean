/-
Module: BairuiPlatform.Channels.Worker
Purpose: The channel worker: the maps of its adapters, a refresh of the inventory, the
  deliveries of a leased batch, and its steps from one await to the next.
Trusted boundary: none
Main exports: BindingDescriptor, Adapter, Fleet, ChannelWorker, WorkerEvent, WorkerCall,
  ChannelWorker.step, Fleet.refresh, channelWorker
-/
import BairuiPlatform.Channels.Rows
import BairuiPlatform.Foundations.OrderedMap
import BairuiPlatform.Foundations.Transition

namespace BairuiPlatform

open Foundations

/-! ### Bindings and adapters -/

/-- The fields of an owner scope that `sameOwnerScope` compares. -/
structure BindingScope where
  organizationId : Option String
  userId : Option String
  agentId : Option String
  workspaceId : Option String
deriving Repr, DecidableEq

/-- A binding of the inventory. -/
structure BindingDescriptor where
  id : String
  channel : Channel
  generation : Option Nat
  ownerScope : BindingScope
deriving Repr, DecidableEq

/-- `descriptor.generation ?? 0`. -/
def BindingDescriptor.connectionGeneration (descriptor : BindingDescriptor) : Nat :=
  descriptor.generation.getD 0

/-- What `resolveBinding` answers. -/
structure ResolvedBinding where
  id : String
  channel : Channel
  ownerScope : BindingScope
  values : Json

/-- The binding that an adapter is made for. -/
structure AdapterBinding where
  id : String
  channel : Channel
  workerId : String
  ownerScope : BindingScope

/-- The argument of an adapter factory. -/
structure AdapterConfig where
  binding : AdapterBinding
  credentials : Json

/-- An adapter; the serial number tells the objects apart that factories made. -/
structure Adapter where
  serial : Nat
  binding : AdapterBinding

/-- An error that a worker catches. -/
structure AdapterError where
  code : Option String
  retryable : Option Bool

/-- The binding that the platform resolved is not the one of the inventory. -/
def scopeMismatch : AdapterError :=
  { code := some "channel_binding_scope_mismatch"
    retryable := none }

/-- An adapter for a descriptor, from what `resolveBinding` answers and the factory makes. -/
def buildAdapter (workerId : String) (descriptor : BindingDescriptor)
    (answer : Except AdapterError ResolvedBinding)
    (factory : AdapterConfig → Except AdapterError Adapter) : Except AdapterError Adapter :=
  match answer with
  | .error error => .error error
  | .ok resolved =>
      if resolved.id ≠ descriptor.id ∨ resolved.channel ≠ descriptor.channel ∨
          resolved.ownerScope ≠ descriptor.ownerScope then
        .error scopeMismatch
      else
        factory
          { binding :=
              { id := descriptor.id
                channel := descriptor.channel
                workerId := workerId
                ownerScope := descriptor.ownerScope }
            credentials := resolved.values }

/-! ### Deliveries -/

/-- A leased delivery, as far as the worker reads it. -/
structure DeliveryItem where
  ownerScope : BindingScope
  outboundId : String
  bindingId : String
  leaseToken : String
  attempt : Nat
  trace : Option Json

/-- What an adapter says about a delivery. -/
structure DeliveryResult where
  status : DeliveryStatus
  channelMessageId : Option String
  errorCode : Option String
  retryAfterMs : Option Int

/-- The receipt that a worker sends. -/
structure WorkerReceipt where
  schemaVersion : String
  ownerScope : BindingScope
  outboundId : String
  bindingId : String
  leaseToken : String
  status : DeliveryStatus
  attempt : Nat
  channelMessageId : Option String
  errorCode : Option String
  retryAfterMs : Option Nat
  observedAt : Nat
  trace : Json

/-- The units of a character in an error code: a letter, a digit and some marks are kept, and
every other unit becomes an underscore. A character outside the basic plane is two units. -/
def codeUnits (char : Char) : List Char :=
  if char.isAlphanum || ['.', '_', ':', '/', '-'].contains char then [char]
  else if char.toNat ≤ 0xffff then ['_']
  else ['_', '_']

/-- `adapterErrorCode`. -/
def adapterErrorCode (code : Option String) (fallback : String) : String :=
  let cleaned := String.ofList (((code.getD fallback).toList.flatMap codeUnits).take 200)
  if cleaned = "" then fallback else cleaned

/-- The result of a delivery whose adapter is not in the map. -/
def adapterNotRunning : DeliveryResult :=
  { status := .failed
    channelMessageId := none
    errorCode := some "channel_adapter_not_running"
    retryAfterMs := none }

/-- The result of a delivery that an adapter answers, if there is one to read. -/
def deliveryResult : Except AdapterError (Option DeliveryResult) → Option DeliveryResult
  | .ok result => result
  | .error error =>
      some
        { status := if error.retryable = some false then .failed else .retryable
          channelMessageId := none
          errorCode := some (adapterErrorCode error.code "channel_delivery_failed")
          retryAfterMs := some 5000 }

/-- The receipt of a delivery. -/
def workerReceipt (schemaVersion : String) (env : ChannelEnv) (number : Nat)
    (item : DeliveryItem) (result : DeliveryResult) : WorkerReceipt :=
  { schemaVersion := schemaVersion
    ownerScope := item.ownerScope
    outboundId := item.outboundId
    bindingId := item.bindingId
    leaseToken := item.leaseToken
    status := result.status
    attempt := item.attempt
    channelMessageId := truthy result.channelMessageId
    errorCode := (truthy result.errorCode).map fun code =>
      adapterErrorCode (some code) "channel_adapter_failed"
    retryAfterMs := result.retryAfterMs.map fun millis => min millis.toNat 86400000
    observedAt := isoNow env.now
    trace := item.trace.getD (.obj [("correlation_id", .str (env.uuids number))]) }

/-! ### The maps of a worker -/

/-- The maps `adapters` and `generations` of a worker. -/
structure Fleet where
  adapters : OrderedMap String Adapter
  generations : OrderedMap String Nat

namespace Fleet

/-- The adapter of a descriptor runs at the generation of the descriptor. -/
def runs (fleet : Fleet) (descriptor : BindingDescriptor) : Bool :=
  fleet.adapters.has descriptor.id &&
    fleet.generations.get? descriptor.id = some descriptor.connectionGeneration

/-- The adapter of a binding need not stop; `next.get` finds the last descriptor of an id. -/
def keeps (fleet : Fleet) (discovered : List BindingDescriptor) (bindingId : String) : Bool :=
  (discovered.reverse.find? fun descriptor => descriptor.id = bindingId).any fun descriptor =>
    fleet.generations.get? bindingId = some descriptor.connectionGeneration

/-- The maps without a binding. -/
def remove (fleet : Fleet) (bindingId : String) : Fleet :=
  { adapters := fleet.adapters.delete bindingId
    generations := fleet.generations.delete bindingId }

/-- The maps after `adapters.set`. -/
def enter (fleet : Fleet) (bindingId : String) (adapter : Adapter) : Fleet :=
  { fleet with adapters := fleet.adapters.set bindingId adapter }

/-- The maps after `generations.set`. -/
def date (fleet : Fleet) (descriptor : BindingDescriptor) : Fleet :=
  { fleet with
    generations := fleet.generations.set descriptor.id descriptor.connectionGeneration }

end Fleet

/-! ### A refresh as one call -/

/-- What the platform, the factories and the adapters do in a refresh. -/
structure StartOutcomes where
  resolve : BindingDescriptor → Except AdapterError ResolvedBinding
  factory : AdapterConfig → Except AdapterError Adapter
  start : Adapter → Except AdapterError Unit

/-- The adapter that a refresh makes for a descriptor. -/
def StartOutcomes.build (outcomes : StartOutcomes) (workerId : String)
    (descriptor : BindingDescriptor) : Except AdapterError Adapter :=
  buildAdapter workerId descriptor (outcomes.resolve descriptor) outcomes.factory

/-- `startAdapter`. -/
def startAdapter (outcomes : StartOutcomes) (workerId : String)
    (descriptor : BindingDescriptor) (fleet : Fleet) : Except AdapterError (Fleet × Bool) :=
  match outcomes.build workerId descriptor with
  | .error error => .error error
  | .ok adapter =>
      match outcomes.start adapter with
      | .ok () => .ok (fleet.enter descriptor.id adapter, true)
      | .error _ => .ok (fleet, false)

/-- The second loop of `refreshInventory`, with the error that ended it. -/
def launchAll (outcomes : StartOutcomes) (workerId : String) :
    List BindingDescriptor → Fleet → Fleet × Option AdapterError
  | [], fleet => (fleet, none)
  | descriptor :: rest, fleet =>
      if fleet.runs descriptor then launchAll outcomes workerId rest fleet
      else
        match startAdapter outcomes workerId descriptor fleet with
        | .error error => (fleet, some error)
        | .ok (started, true) =>
            launchAll outcomes workerId rest (started.date descriptor)
        | .ok (started, false) => launchAll outcomes workerId rest started

/-- The first loop of `refreshInventory`, with the adapters that it stops. -/
def sweepAll (discovered : List BindingDescriptor) :
    List String → Fleet → Fleet × List Adapter
  | [], fleet => (fleet, [])
  | bindingId :: rest, fleet =>
      match fleet.adapters.get? bindingId with
      | none => sweepAll discovered rest fleet
      | some adapter =>
          if fleet.keeps discovered bindingId then sweepAll discovered rest fleet
          else
            let swept := sweepAll discovered rest (fleet.remove bindingId)
            (swept.1, adapter :: swept.2)

/-- What a refresh leaves. -/
structure Refreshed where
  fleet : Fleet
  stopped : List Adapter
  error : Option AdapterError

/-- `refreshInventory`, from the inventory on. -/
def Fleet.refresh (outcomes : StartOutcomes) (workerId : String)
    (discovered : List BindingDescriptor) (fleet : Fleet) : Refreshed :=
  let swept := sweepAll discovered fleet.adapters.keys fleet
  let launched := launchAll outcomes workerId discovered swept.1
  { fleet := launched.1
    stopped := swept.2
    error := launched.2 }

/-! ### The worker between two awaits -/

/-- The options of a worker. -/
structure WorkerOptions where
  schemaVersion : String
  workerId : String
  channels : List Channel
  bindings : List BindingDescriptor
  platformInventory : Bool
  batchSize : Option Int
  leaseSeconds : Option Int

/-- What a refresh waits for. -/
inductive RefreshTask where
  | inventory
  | stopping (discovered : List BindingDescriptor) (bindingId : String) (rest : List String)
  | resolving (descriptor : BindingDescriptor) (rest : List BindingDescriptor)
  | starting (descriptor : BindingDescriptor) (adapter : Adapter)
      (rest : List BindingDescriptor)
  | cleaning (rest : List BindingDescriptor)
  | started (descriptor : BindingDescriptor) (rest : List BindingDescriptor)

/-- What `runOnce` waits for: the lease, or the deliveries of the batch that are not done. -/
inductive RunTask where
  | leasing
  | delivering (waiting : List Nat) (rejected : Bool)

/-- The run after one of its deliveries is done. -/
def RunTask.settle (number : Nat) (accepted : Bool) : RunTask → RunTask
  | .leasing => .leasing
  | .delivering waiting rejected =>
      .delivering (waiting.filter (· ≠ number))
        (rejected || (waiting.contains number && !accepted))

/-- What a delivery waits for. -/
inductive DeliveryStage where
  | delivering (adapter : Adapter)
  | reporting

/-- A call of `deliver`. -/
structure DeliveryTask where
  number : Nat
  item : DeliveryItem
  stage : DeliveryStage

/-- A channel worker. -/
structure ChannelWorker extends Fleet where
  options : WorkerOptions
  refresh : Option RefreshTask
  run : Option RunTask
  tasks : List DeliveryTask
  nextTask : Nat
  inventoryReady : Bool
  stopped : Bool
  closing : Nat

/-- A call that the worker makes to the platform or to an adapter. -/
inductive WorkerCall where
  | inventory (workerId : String) (channels : List Channel)
  | resolveBinding (bindingId : String) (ownerScope : BindingScope)
  | lease (workerId : String) (channels : List Channel) (bindingIds : List String)
      (limit : Nat) (leaseSeconds : Nat)
  | receipt (receipt : WorkerReceipt)
  | start (adapter : Adapter)
  | stop (adapter : Adapter)
  | report (adapter : Adapter) (error : AdapterError)
  | deliver (adapter : Adapter) (item : DeliveryItem)

/-- A call of a method of the worker, or an answer that it waits for. -/
inductive WorkerEvent where
  | refreshInventory
  | inventoried (answer : Except AdapterError (List BindingDescriptor))
  | adapterStopped
  | resolved (answer : Except AdapterError ResolvedBinding)
      (factory : AdapterConfig → Except AdapterError Adapter)
  | adapterStarted (answer : Except AdapterError Unit)
  | adapterEntered
  | adapterCleaned
  | runOnce
  | leased (env : ChannelEnv) (answer : Except AdapterError (List DeliveryItem))
  | runEnded
  | deliver (env : ChannelEnv) (item : DeliveryItem)
  | delivered (env : ChannelEnv) (number : Nat)
      (answer : Except AdapterError (Option DeliveryResult))
  | acknowledged (number : Nat) (accepted : Bool)
  | stop
  | stopSettled

namespace ChannelWorker

/-- A worker that was just made. -/
def new (options : WorkerOptions) : ChannelWorker :=
  { adapters := .empty
    generations := .empty
    options := options
    refresh := none
    run := none
    tasks := []
    nextTask := 0
    inventoryReady := false
    stopped := false
    closing := 0 }

/-- The second loop, up to the next await. -/
def launch : List BindingDescriptor → ChannelWorker → ChannelWorker × List WorkerCall
  | [], worker => ({ worker with refresh := none }, [])
  | descriptor :: rest, worker =>
      if worker.runs descriptor then launch rest worker
      else
        ({ worker with refresh := some (.resolving descriptor rest) },
          [.resolveBinding descriptor.id descriptor.ownerScope])

/-- The first loop, up to the next await. -/
def sweep (discovered : List BindingDescriptor) :
    List String → ChannelWorker → ChannelWorker × List WorkerCall
  | [], worker => worker.launch discovered
  | bindingId :: rest, worker =>
      match worker.adapters.get? bindingId with
      | none => sweep discovered rest worker
      | some adapter =>
          if worker.keeps discovered bindingId then sweep discovered rest worker
          else
            ({ worker with refresh := some (.stopping discovered bindingId rest) },
              [.stop adapter])

/-- A refresh that has the inventory. -/
def survey (discovered : List BindingDescriptor) (worker : ChannelWorker) :
    ChannelWorker × List WorkerCall :=
  sweep discovered worker.adapters.keys { worker with inventoryReady := true }

/-- `deliver`, up to its first await. -/
def deliver (env : ChannelEnv) (item : DeliveryItem) (worker : ChannelWorker) :
    ChannelWorker × List WorkerCall :=
  let task (stage : DeliveryStage) : DeliveryTask :=
    { number := worker.nextTask
      item := item
      stage := stage }
  match worker.adapters.get? item.bindingId with
  | some adapter =>
      ({ worker with
          tasks := task (.delivering adapter) :: worker.tasks
          nextTask := worker.nextTask + 1 },
        [.deliver adapter item])
  | none =>
      ({ worker with
          tasks := task .reporting :: worker.tasks
          nextTask := worker.nextTask + 1 },
        [.receipt (workerReceipt worker.options.schemaVersion env worker.nextTask item
          adapterNotRunning)])

/-- `deliver` on every item of a batch. -/
def deliverAll (env : ChannelEnv) : List DeliveryItem → ChannelWorker →
    ChannelWorker × List WorkerCall
  | [], worker => (worker, [])
  | item :: rest, worker =>
      let first := worker.deliver env item
      let others := deliverAll env rest first.1
      (others.1, first.2 ++ others.2)


/-- The worker after a delivery is done. -/
def finish (number : Nat) (accepted : Bool) (worker : ChannelWorker) : ChannelWorker :=
  { worker with
    tasks := worker.tasks.filter fun task => task.number ≠ number
    run := worker.run.map (RunTask.settle number accepted) }

/-- The call of `runOnce` to the platform. -/
def leaseCall (worker : ChannelWorker) : WorkerCall :=
  .lease worker.options.workerId
    (worker.adapters.values.map fun adapter => adapter.binding.channel).eraseDups
    worker.adapters.keys (clamped 1 20 100 worker.options.batchSize)
    (clamped 5 60 300 worker.options.leaseSeconds)

/-- A delivery whose adapter has answered. -/
def answered (env : ChannelEnv) (task : DeliveryTask)
    (answer : Except AdapterError (Option DeliveryResult)) (worker : ChannelWorker) :
    ChannelWorker × List WorkerCall :=
  match deliveryResult answer with
  -- The status of a result that is undefined cannot be read: `deliver` throws.
  | none => (worker.finish task.number false, [])
  | some result =>
      ({ worker with
          tasks := worker.tasks.map fun other =>
            if other.number = task.number then { other with stage := .reporting } else other },
        [.receipt (workerReceipt worker.options.schemaVersion env task.number task.item result)])

/-- A call of a refresh, or an answer that a refresh waits for. -/
def stepRefresh (worker : ChannelWorker) (event : WorkerEvent) :
    Option (ChannelWorker × List WorkerCall) :=
  match event, worker.refresh with
  | .inventoried (.ok discovered), some .inventory => some (worker.survey discovered)
  | .inventoried (.error _), some .inventory => some ({ worker with refresh := none }, [])
  | .adapterStopped, some (.stopping discovered bindingId rest) =>
      some (sweep discovered rest { worker with toFleet := worker.remove bindingId })
  | .resolved answer factory, some (.resolving descriptor rest) =>
      match buildAdapter worker.options.workerId descriptor answer factory with
      | .error _ => some ({ worker with refresh := none }, [])
      | .ok adapter =>
          some ({ worker with refresh := some (.starting descriptor adapter rest) },
            [.start adapter])
  | .adapterStarted (.ok ()), some (.starting descriptor adapter rest) =>
      some
        ({ worker with
            toFleet := worker.enter descriptor.id adapter
            refresh := some (.started descriptor rest) }, [])
  | .adapterStarted (.error error), some (.starting _ adapter rest) =>
      some ({ worker with refresh := some (.cleaning rest) },
        [.stop adapter, .report adapter error])
  | .adapterEntered, some (.started descriptor rest) =>
      some (launch rest { worker with toFleet := worker.date descriptor })
  | .adapterCleaned, some (.cleaning rest) => some (launch rest worker)
  | _, _ => none

/-- One step of the worker: a call of a method, or an answer that it waits for, up to the next
await, with the calls that it makes. -/
def step (worker : ChannelWorker) (event : WorkerEvent) :
    Option (ChannelWorker × List WorkerCall) :=
  match event with
  | .refreshInventory =>
      if worker.refresh.isSome || worker.stopped then some (worker, [])
      else if worker.options.platformInventory then
        some ({ worker with refresh := some .inventory },
          [.inventory worker.options.workerId worker.options.channels])
      else some (worker.survey worker.options.bindings)
  | .runOnce =>
      if worker.run.isSome || worker.stopped || worker.adapters.keys.isEmpty then
        some (worker, [])
      else some ({ worker with run := some .leasing }, [worker.leaseCall])
  | .leased env answer =>
      match worker.run, answer with
      | some .leasing, .error _ => some ({ worker with run := none }, [])
      | some .leasing, .ok items =>
          let numbers := List.range' worker.nextTask items.length
          some (deliverAll env items { worker with run := some (.delivering numbers false) })
      | _, _ => none
  | .runEnded =>
      match worker.run with
      | some (.delivering waiting rejected) =>
          if waiting.isEmpty || rejected then some ({ worker with run := none }, []) else none
      | _ => none
  | .deliver env item => some (worker.deliver env item)
  | .delivered env number answer =>
      match worker.tasks.find? fun task => task.number = number with
      | some task =>
          match task.stage with
          | .delivering _ => some (worker.answered env task answer)
          | .reporting => none
      | none => none
  | .acknowledged number accepted =>
      match worker.tasks.find? fun task => task.number = number with
      | some task =>
          match task.stage with
          | .delivering _ => none
          | .reporting => some (worker.finish number accepted, [])
      | none => none
  | .stop =>
      some ({ worker with stopped := true, closing := worker.closing + 1 },
        worker.adapters.values.map .stop)
  | .stopSettled =>
      if worker.closing = 0 then none
      else
        some
          ({ worker with
              adapters := .empty
              generations := .empty
              closing := worker.closing - 1 }, [])
  | event => worker.stepRefresh event

/-- What a step answers, part by part. -/
theorem parts_of_some {after : ChannelWorker} {calls : List WorkerCall}
    {answer : ChannelWorker × List WorkerCall} (taken : some answer = some (after, calls)) :
    answer.1 = after ∧ answer.2 = calls := by
  rw [Option.some.inj taken]
  exact ⟨rfl, rfl⟩

end ChannelWorker

/-- A step of a worker: the event, and the calls that the worker makes. -/
structure WorkerStep where
  event : WorkerEvent
  calls : List WorkerCall

/-- A channel worker from its construction on, with the platform and the adapters free to
answer as they like. -/
def channelWorker : TransitionSystem ChannelWorker WorkerStep where
  initial worker := ∃ options, worker = .new options
  step before label after := before.step label.event = some (after, label.calls)

end BairuiPlatform
