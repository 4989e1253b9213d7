/-
Module: BairuiPlatform.Channels.WorkerDelivery
Purpose: The receipts of the channel worker, and the runs in which a delivery fails for good
  only on the word of its adapter.
Trusted boundary: none
Main exports: ChannelWorker.receipt_of_step, RejectedByAdapter, failed_iff_adapter_present,
  restart_fails_delivery
-/
import BairuiPlatform.Channels.Worker

namespace BairuiPlatform

open Foundations

/-! ### The deliveries of a step -/

/-- The items that an event hands to `deliver`. -/
def WorkerEvent.items : WorkerEvent → List DeliveryItem
  | .leased _ (.ok items) => items
  | .deliver _ item => [item]
  | _ => []

/-- The answer of an adapter that a delivery fails for good. -/
def Permanent : Except AdapterError (Option DeliveryResult) → Prop
  | .ok result => ∃ read, result = some read ∧ read.status = .failed
  | .error error => error.retryable = some false

/-- The worker reports a failure for good as the adapter classified it. -/
theorem deliveryResult_failed_iff {answer : Except AdapterError (Option DeliveryResult)}
    {result : DeliveryResult} (read : deliveryResult answer = some result) :
    result.status = .failed ↔ Permanent answer := by
  cases answer with
  | ok answered =>
      change answered = some result at read
      rw [read]
      constructor
      · intro failed
        exact ⟨result, rfl, failed⟩
      · intro permanent
        obtain ⟨other, same, failed⟩ := permanent
        cases same
        exact failed
  | error error =>
      cases read
      unfold Permanent
      by_cases permanent : error.retryable = some false
      · simp [permanent]
      · simp [permanent]

namespace ChannelWorker

variable {worker after : ChannelWorker} {calls : List WorkerCall} {receipt : WorkerReceipt}

/-- The second loop sends no receipt. -/
theorem launch_sends_none (discovered : List BindingDescriptor) :
    .receipt receipt ∉ (worker.launch discovered).2 := by
  induction discovered with
  | nil => exact List.not_mem_nil
  | cons descriptor rest ih =>
      unfold launch
      split
      · exact ih
      · simp

/-- The first loop sends no receipt. -/
theorem sweep_sends_none (discovered : List BindingDescriptor) (bindingIds : List String) :
    .receipt receipt ∉ (worker.sweep discovered bindingIds).2 := by
  induction bindingIds with
  | nil => exact launch_sends_none discovered
  | cons bindingId rest ih =>
      unfold sweep
      split
      · exact ih
      · split
        · exact ih
        · simp

/-- A refresh sends no receipt. -/
theorem stepRefresh_sends_none {event : WorkerEvent}
    (taken : worker.stepRefresh event = some (after, calls)) : .receipt receipt ∉ calls := by
  have sent {answer : ChannelWorker × List WorkerCall}
      (same : some answer = some (after, calls)) (silent : .receipt receipt ∉ answer.2) :
      .receipt receipt ∉ calls := by
    obtain ⟨-, rfl⟩ := parts_of_some same
    exact silent
  unfold stepRefresh at taken
  split at taken
  · exact sent taken (sweep_sends_none _ _)
  · exact sent taken List.not_mem_nil
  · exact sent taken (sweep_sends_none _ _)
  · split at taken
    · exact sent taken List.not_mem_nil
    · exact sent taken (by simp)
  · exact sent taken List.not_mem_nil
  · exact sent taken (by simp)
  · exact sent taken (launch_sends_none _)
  · exact sent taken (launch_sends_none _)
  · cases taken

/-- Two workers with the same maps, options and refresh. -/
structure SameRefresh (before after : ChannelWorker) : Prop where
  fleet : after.toFleet = before.toFleet
  options : after.options = before.options
  refresh : after.refresh = before.refresh

/-- A delivery leaves the maps, the options and the refresh of the worker alone. -/
theorem deliver_keeps (env : ChannelEnv) (item : DeliveryItem) (worker : ChannelWorker) :
    worker.SameRefresh (worker.deliver env item).1 := by
  unfold deliver
  dsimp only
  split <;> exact ⟨rfl, rfl, rfl⟩

theorem deliverAll_keeps (env : ChannelEnv) (items : List DeliveryItem)
    (worker : ChannelWorker) : worker.SameRefresh (worker.deliverAll env items).1 := by
  induction items generalizing worker with
  | nil => exact ⟨rfl, rfl, rfl⟩
  | cons item rest ih =>
      have first := deliver_keeps env item worker
      have others := ih (worker.deliver env item).1
      exact ⟨others.fleet.trans first.fleet, others.options.trans first.options,
        others.refresh.trans first.refresh⟩

/-- The receipt of an item that finds no adapter. -/
def Unserved (worker : ChannelWorker) (item : DeliveryItem) (receipt : WorkerReceipt) : Prop :=
  worker.adapters.has item.bindingId = false ∧
    ∃ env number, receipt =
      workerReceipt worker.options.schemaVersion env number item adapterNotRunning

/-- The receipts that `deliver` sends before its first await. -/
theorem mem_deliver {env : ChannelEnv} {item : DeliveryItem}
    (sent : .receipt receipt ∈ (worker.deliver env item).2) : worker.Unserved item receipt := by
  unfold deliver at sent
  dsimp only at sent
  split at sent
  · simp at sent
  · rename_i absent
    refine ⟨?_, env, worker.nextTask, by simpa using sent⟩
    unfold OrderedMap.has
    rw [absent]
    exact Option.isSome_none

/-- An item that finds no adapter is reported at once. -/
theorem deliver_of_absent {item : DeliveryItem} (env : ChannelEnv)
    (absent : worker.adapters.has item.bindingId = false) :
    ∃ receipt, .receipt receipt ∈ (worker.deliver env item).2 ∧
      worker.Unserved item receipt := by
  unfold deliver
  dsimp only
  have missing : worker.adapters.get? item.bindingId = none := by
    unfold OrderedMap.has at absent
    simpa using absent
  rw [missing]
  exact ⟨_, List.mem_singleton_self _, absent, env, worker.nextTask, rfl⟩

/-- A batch sends the receipts of the items that find no adapter, and no others. -/
theorem mem_deliverAll {env : ChannelEnv} {items : List DeliveryItem}
    (sent : .receipt receipt ∈ (worker.deliverAll env items).2) :
    ∃ item ∈ items, worker.Unserved item receipt := by
  induction items generalizing worker with
  | nil => cases sent
  | cons item rest ih =>
      obtain ⟨fleet, options, -⟩ := deliver_keeps env item worker
      rcases List.mem_append.mp sent with first | others
      · exact ⟨item, List.mem_cons_self, mem_deliver first⟩
      · obtain ⟨other, member, unserved⟩ := ih others
        unfold Unserved at unserved
        rw [fleet, options] at unserved
        exact ⟨other, List.mem_cons_of_mem _ member, unserved⟩

/-- An item of a batch that finds no adapter is reported at once. -/
theorem deliverAll_of_absent {items : List DeliveryItem} {item : DeliveryItem}
    (env : ChannelEnv) (member : item ∈ items)
    (absent : worker.adapters.has item.bindingId = false) :
    ∃ receipt, .receipt receipt ∈ (worker.deliverAll env items).2 ∧
      worker.Unserved item receipt := by
  induction items generalizing worker with
  | nil => cases member
  | cons first rest ih =>
      obtain ⟨fleet, options, -⟩ := deliver_keeps env first worker
      rcases List.mem_cons.mp member with rfl | later
      · obtain ⟨receipt, sent, unserved⟩ := deliver_of_absent env absent
        exact ⟨receipt, List.mem_append_left _ sent, unserved⟩
      · rw [← fleet] at absent
        obtain ⟨receipt, sent, unserved⟩ := ih later absent
        unfold Unserved at unserved
        rw [fleet, options] at unserved
        exact ⟨receipt, List.mem_append_right _ sent, unserved⟩

/-- The receipt of a delivery whose adapter has answered. -/
structure AnsweredReceipt (worker : ChannelWorker) (event : WorkerEvent)
    (receipt : WorkerReceipt) (env : ChannelEnv) (task : DeliveryTask) (adapter : Adapter)
    (answer : Except AdapterError (Option DeliveryResult)) (result : DeliveryResult) :
    Prop where
  event : event = .delivered env task.number answer
  waiting : task ∈ worker.tasks
  stage : task.stage = .delivering adapter
  read : deliveryResult answer = some result
  receipt : receipt =
    workerReceipt worker.options.schemaVersion env task.number task.item result

/-- A receipt that a step sends: an item found no adapter, or an adapter has answered. -/
theorem receipt_of_step {event : WorkerEvent} (taken : worker.step event = some (after, calls))
    (sent : .receipt receipt ∈ calls) :
    (∃ item ∈ event.items, worker.Unserved item receipt) ∨
      ∃ env task adapter answer result,
        worker.AnsweredReceipt event receipt env task adapter answer result := by
  have silent {answer : ChannelWorker × List WorkerCall} (none : .receipt receipt ∉ answer.2)
      (same : some answer = some (after, calls)) : False := by
    obtain ⟨-, rfl⟩ := parts_of_some same
    exact none sent
  cases event with
  | refreshInventory =>
      exfalso
      unfold step at taken
      dsimp only at taken
      split at taken
      · exact silent List.not_mem_nil taken
      · split at taken
        · exact silent (by simp) taken
        · exact silent (sweep_sends_none _ _) taken
  | runOnce =>
      exfalso
      unfold step at taken
      dsimp only at taken
      split at taken
      · exact silent List.not_mem_nil taken
      · exact silent (by simp [leaseCall]) taken
  | leased env answer =>
      left
      unfold step at taken
      dsimp only at taken
      split at taken
      · exact (silent List.not_mem_nil taken).elim
      · obtain ⟨-, rfl⟩ := parts_of_some taken
        obtain ⟨item, member, unserved⟩ := mem_deliverAll sent
        exact ⟨item, member, unserved⟩
      · cases taken
  | runEnded =>
      exfalso
      unfold step at taken
      dsimp only at taken
      split at taken
      · split at taken
        · exact silent List.not_mem_nil taken
        · cases taken
      · cases taken
  | deliver env item =>
      left
      unfold step at taken
      dsimp only at taken
      obtain ⟨-, rfl⟩ := parts_of_some taken
      exact ⟨item, List.mem_singleton_self _, mem_deliver sent⟩
  | delivered env number answer =>
      right
      unfold step at taken
      dsimp only at taken
      split at taken
      · rename_i task found
        have own := List.find?_some found
        rw [decide_eq_true_eq] at own
        split at taken
        · rename_i adapter stage
          obtain ⟨-, rfl⟩ := parts_of_some taken
          unfold answered at sent
          split at sent
          · cases sent
          · rename_i result read
            refine ⟨env, task, adapter, answer, result, ?_, List.mem_of_find?_eq_some found,
              stage, read, by simpa using sent⟩
            rw [own]
        · cases taken
      · cases taken
  | acknowledged number accepted =>
      exfalso
      unfold step at taken
      dsimp only at taken
      split at taken
      · split at taken
        · cases taken
        · exact silent List.not_mem_nil taken
      · cases taken
  | stop =>
      exfalso
      unfold step at taken
      exact silent (by simp) taken
  | stopSettled =>
      exfalso
      unfold step at taken
      dsimp only at taken
      split at taken
      · cases taken
      · exact silent List.not_mem_nil taken
  | inventoried | adapterStopped | resolved | adapterStarted | adapterEntered |
      adapterCleaned =>
      exact absurd sent (stepRefresh_sends_none taken)

/-- An item that a step hands out and that finds no adapter is reported in this step. -/
theorem step_reports_absent {event : WorkerEvent} {item : DeliveryItem}
    (taken : worker.step event = some (after, calls)) (member : item ∈ event.items)
    (absent : worker.adapters.has item.bindingId = false) :
    ∃ receipt, .receipt receipt ∈ calls ∧ worker.Unserved item receipt := by
  cases event with
  | deliver env other =>
      rw [List.mem_singleton.mp member] at absent ⊢
      obtain ⟨receipt, sent, unserved⟩ := deliver_of_absent env absent
      unfold step at taken
      obtain ⟨rfl, rfl⟩ := parts_of_some taken
      exact ⟨receipt, sent, unserved⟩
  | leased env answer =>
      unfold step at taken
      dsimp only at taken
      split at taken
      · cases member
      · rename_i items leasing
        obtain ⟨rfl, rfl⟩ := parts_of_some taken
        let leased : ChannelWorker := { worker with
          run := some (.delivering (List.range' worker.nextTask items.length) false) }
        have missing : leased.adapters.has item.bindingId = false := absent
        exact deliverAll_of_absent env member missing
      · cases taken
  | _ => cases member

/-! ### What adapters work on -/

/-- The second loop leaves the deliveries alone. -/
theorem launch_tasks (discovered : List BindingDescriptor) :
    (worker.launch discovered).1.tasks = worker.tasks := by
  induction discovered with
  | nil => rfl
  | cons descriptor rest ih =>
      unfold launch
      split
      · exact ih
      · rfl

/-- The first loop leaves the deliveries alone. -/
theorem sweep_tasks (discovered : List BindingDescriptor) (bindingIds : List String) :
    (worker.sweep discovered bindingIds).1.tasks = worker.tasks := by
  induction bindingIds with
  | nil => exact launch_tasks discovered
  | cons bindingId rest ih =>
      unfold sweep
      split
      · exact ih
      · split
        · exact ih
        · rfl

/-- A refresh leaves the deliveries alone. -/
theorem stepRefresh_tasks {event : WorkerEvent}
    (taken : worker.stepRefresh event = some (after, calls)) : after.tasks = worker.tasks := by
  have kept {answer : ChannelWorker × List WorkerCall}
      (same : some answer = some (after, calls)) (tasks : answer.1.tasks = worker.tasks) :
      after.tasks = worker.tasks := by
    obtain ⟨rfl, -⟩ := parts_of_some same
    exact tasks
  unfold stepRefresh at taken
  split at taken
  · exact kept taken (sweep_tasks _ _)
  · exact kept taken rfl
  · exact kept taken (sweep_tasks _ _)
  · split at taken
    · exact kept taken rfl
    · exact kept taken rfl
  · exact kept taken rfl
  · exact kept taken rfl
  · exact kept taken (launch_tasks _)
  · exact kept taken (launch_tasks _)
  · cases taken

/-- The adapters that work on a delivery of the worker. -/
def Working (worker : ChannelWorker) (adapter : Adapter) (item : DeliveryItem) : Prop :=
  ∃ task ∈ worker.tasks, task.item = item ∧ task.stage = .delivering adapter

/-- An adapter works on a delivery after `deliver` because it did before or was called. -/
theorem working_of_deliver {env : ChannelEnv} {item other : DeliveryItem} {adapter : Adapter}
    (working : (worker.deliver env item).1.Working adapter other) :
    worker.Working adapter other ∨ .deliver adapter other ∈ (worker.deliver env item).2 := by
  obtain ⟨task, member, own, stage⟩ := working
  unfold deliver at member ⊢
  dsimp only at member ⊢
  split at member
  · rcases List.mem_cons.mp member with rfl | stored
    · cases stage
      right
      rw [← own]
      exact List.mem_singleton_self _
    · exact .inl ⟨task, stored, own, stage⟩
  · rcases List.mem_cons.mp member with rfl | stored
    · cases stage
    · exact .inl ⟨task, stored, own, stage⟩

theorem working_of_deliverAll {env : ChannelEnv} {items : List DeliveryItem}
    {other : DeliveryItem} {adapter : Adapter}
    (working : (worker.deliverAll env items).1.Working adapter other) :
    worker.Working adapter other ∨ .deliver adapter other ∈ (worker.deliverAll env items).2 := by
  induction items generalizing worker with
  | nil => exact .inl working
  | cons item rest ih =>
      rcases ih working with before | called
      · rcases working_of_deliver before with earlier | called
        · exact .inl earlier
        · exact .inr (List.mem_append_left _ called)
      · exact .inr (List.mem_append_right _ called)

/-- A delivery that is done gives no adapter work. -/
theorem working_of_finish {number : Nat} {accepted : Bool} {item : DeliveryItem}
    {adapter : Adapter} (working : (worker.finish number accepted).Working adapter item) :
    worker.Working adapter item := by
  obtain ⟨task, member, own, stage⟩ := working
  exact ⟨task, List.mem_of_mem_filter member, own, stage⟩

/-- A delivery that an adapter has answered gives no adapter work. -/
theorem working_of_answered {env : ChannelEnv} {answeredTask : DeliveryTask}
    {answer : Except AdapterError (Option DeliveryResult)} {item : DeliveryItem}
    {adapter : Adapter}
    (working : (worker.answered env answeredTask answer).1.Working adapter item) :
    worker.Working adapter item := by
  unfold answered at working
  split at working
  · exact working_of_finish working
  · obtain ⟨task, member, own, stage⟩ := working
    obtain ⟨old, stored, changed⟩ := List.mem_map.mp member
    split at changed
    · rw [← changed] at stage
      cases stage
    · rw [changed] at stored
      exact ⟨task, stored, own, stage⟩

/-- An adapter that works on a delivery worked on it before the step, or the step called it. -/
theorem working_of_step {event : WorkerEvent} {item : DeliveryItem} {adapter : Adapter}
    (taken : worker.step event = some (after, calls)) (working : after.Working adapter item) :
    worker.Working adapter item ∨ .deliver adapter item ∈ calls := by
  have kept (tasks : after.tasks = worker.tasks) : worker.Working adapter item := by
    unfold Working at working ⊢
    rw [← tasks]
    exact working
  have same {answer : ChannelWorker × List WorkerCall}
      (result : some answer = some (after, calls)) (tasks : answer.1.tasks = worker.tasks) :
      after.tasks = worker.tasks := by
    obtain ⟨rfl, -⟩ := parts_of_some result
    exact tasks
  cases event with
  | refreshInventory =>
      left
      unfold step at taken
      dsimp only at taken
      split at taken
      · exact kept (same taken rfl)
      · split at taken
        · exact kept (same taken rfl)
        · exact kept (same taken (sweep_tasks _ _))
  | runOnce =>
      left
      unfold step at taken
      dsimp only at taken
      split at taken
      · exact kept (same taken rfl)
      · exact kept (same taken rfl)
  | leased env answer =>
      unfold step at taken
      dsimp only at taken
      split at taken
      · exact .inl (kept (same taken rfl))
      · obtain ⟨rfl, rfl⟩ := parts_of_some taken
        exact working_of_deliverAll working
      · cases taken
  | runEnded =>
      left
      unfold step at taken
      dsimp only at taken
      split at taken
      · split at taken
        · exact kept (same taken rfl)
        · cases taken
      · cases taken
  | deliver env other =>
      unfold step at taken
      obtain ⟨rfl, rfl⟩ := parts_of_some taken
      exact working_of_deliver working
  | delivered env number answer =>
      left
      unfold step at taken
      dsimp only at taken
      split at taken
      · split at taken
        · obtain ⟨rfl, -⟩ := parts_of_some taken
          exact working_of_answered working
        · cases taken
      · cases taken
  | acknowledged number accepted =>
      left
      unfold step at taken
      dsimp only at taken
      split at taken
      · split at taken
        · cases taken
        · obtain ⟨rfl, -⟩ := parts_of_some taken
          exact working_of_finish working
      · cases taken
  | stop =>
      left
      unfold step at taken
      exact kept (same taken rfl)
  | stopSettled =>
      left
      unfold step at taken
      dsimp only at taken
      split at taken
      · cases taken
      · exact kept (same taken rfl)
  | inventoried | adapterStopped | resolved | adapterStarted | adapterEntered |
      adapterCleaned => exact .inl (kept (stepRefresh_tasks taken))

/-- In a run, an adapter that works on a delivery was called with it. -/
theorem called_of_run {history : List (Transition ChannelWorker WorkerStep)}
    (run : Run channelWorker history worker) {adapter : Adapter} {item : DeliveryItem}
    (working : worker.Working adapter item) :
    ∃ earlier ∈ history, .deliver adapter item ∈ earlier.label.calls := by
  induction run with
  | start initial =>
      obtain ⟨options, rfl⟩ := initial
      obtain ⟨task, member, -⟩ := working
      cases member
  | step run taken ih =>
      rcases working_of_step taken working with before | called
      · obtain ⟨earlier, member, called⟩ := ih before
        exact ⟨earlier, List.mem_cons_of_mem _ member, called⟩
      · exact ⟨_, List.mem_cons_self, called⟩

end ChannelWorker

/-! ### Failures for good -/

/-- The receipt of a transition tells that a delivery failed for good because an adapter, which
was called with the item before, classified the failure so. -/
def RejectedByAdapter (earlier : List (Transition ChannelWorker WorkerStep))
    (transition : Transition ChannelWorker WorkerStep) (receipt : WorkerReceipt) : Prop :=
  ∃ env task adapter answer result,
    transition.before.AnsweredReceipt transition.label.event receipt env task adapter answer
        result ∧
      (∃ call ∈ earlier, .deliver adapter task.item ∈ call.label.calls) ∧ Permanent answer

/-- An item that finds no adapter is reported as failed for good, on no adapter's word. -/
theorem not_rejected_of_absent {transition : Transition ChannelWorker WorkerStep}
    {item : DeliveryItem} (taken : channelWorker.Takes transition)
    (handed : item ∈ transition.label.event.items)
    (absent : transition.before.adapters.has item.bindingId = false) :
    ∃ receipt, .receipt receipt ∈ transition.label.calls ∧ receipt.status = .failed ∧
      ∀ earlier, ¬RejectedByAdapter earlier transition receipt := by
  obtain ⟨receipt, sent, -, env, number, made⟩ :=
    ChannelWorker.step_reports_absent taken handed absent
  refine ⟨receipt, sent, ?_, fun earlier rejected => ?_⟩
  · rw [made]
    exact Eq.refl DeliveryStatus.failed
  · obtain ⟨_, _, _, _, _, answered, -⟩ := rejected
    -- A step in which an adapter answers hands out no item.
    rw [answered.event] at handed
    cases handed

/-- In every run, the worker reports failures for good only on the word of adapters that were
called, exactly if every item that it delivers finds its adapter in the map. -/
theorem failed_iff_adapter_present (history : List (Transition ChannelWorker WorkerStep))
    (worker : ChannelWorker) (run : Run channelWorker history worker) :
    (∀ later transition earlier, history = later ++ transition :: earlier →
        ∀ receipt, .receipt receipt ∈ transition.label.calls → receipt.status = .failed →
          RejectedByAdapter earlier transition receipt) ↔
      ∀ transition ∈ history, ∀ item ∈ transition.label.event.items,
        transition.before.adapters.has item.bindingId = true := by
  constructor
  · intro rejected transition member item handed
    by_contra absent
    rw [Bool.not_eq_true] at absent
    obtain ⟨later, earlier, split⟩ := List.append_of_mem member
    rw [split] at run
    obtain ⟨-, taken⟩ := run.before_of_split
    obtain ⟨receipt, sent, failed, unrejected⟩ := not_rejected_of_absent taken handed absent
    exact unrejected earlier (rejected later transition earlier split receipt sent failed)
  · intro present later transition earlier split receipt sent failed
    have member : transition ∈ history := by
      rw [split]
      exact List.mem_append_right _ List.mem_cons_self
    rw [split] at run
    obtain ⟨before, taken⟩ := run.before_of_split
    rcases ChannelWorker.receipt_of_step taken sent with
      ⟨item, handed, absent, -⟩ | ⟨env, task, adapter, answer, result, answered⟩
    · rw [present transition member item handed] at absent
      cases absent
    · refine ⟨env, task, adapter, answer, result, answered, ?_, ?_⟩
      · exact ChannelWorker.called_of_run before ⟨task, answered.waiting, rfl, answered.stage⟩
      · apply (deliveryResult_failed_iff answered.read).mp
        rw [answered.receipt] at failed
        exact failed

/-! ### Samples -/

/-- The transitions of some events, the latest one first, and the worker after them. -/
def ChannelWorker.play (options : WorkerOptions) :
    List WorkerEvent → Option (List (Transition ChannelWorker WorkerStep) × ChannelWorker)
  | [] => some ([], .new options)
  | event :: earlier =>
      match play options earlier with
      | none => none
      | some (history, before) =>
          (before.step event).map fun answer =>
            (⟨before, ⟨event, answer.2⟩, answer.1⟩ :: history, answer.1)

/-- Events that the worker takes in a row are a run. -/
theorem ChannelWorker.run_play {options : WorkerOptions} {events : List WorkerEvent}
    {history : List (Transition ChannelWorker WorkerStep)} {worker : ChannelWorker}
    (played : play options events = some (history, worker)) :
    Run channelWorker history worker := by
  induction events generalizing history worker with
  | nil =>
      cases played
      exact .start ⟨options, rfl⟩
  | cons event earlier ih =>
      unfold play at played
      split at played
      · cases played
      · rename_i past before ran
        obtain ⟨answer, taken, same⟩ := Option.map_eq_some_iff.mp played
        cases same
        exact .step (ih ran) taken

/-- Options of a worker. -/
def sampleOptions : WorkerOptions :=
  { schemaVersion := "2.0"
    workerId := "worker"
    channels := [.feishu]
    bindings := []
    platformInventory := true
    batchSize := none
    leaseSeconds := none }

/-- The scope of the sample binding. -/
def sampleScope : BindingScope :=
  { organizationId := some "org"
    userId := some "user"
    agentId := some "agent"
    workspaceId := none }

/-- The sample binding in an inventory. -/
def sampleDescriptor (generation : Nat) : BindingDescriptor :=
  { id := "binding"
    channel := .feishu
    generation := some generation
    ownerScope := sampleScope }

/-- A delivery for the sample binding. -/
def sampleItem : DeliveryItem :=
  { ownerScope := sampleScope
    outboundId := "outbound"
    bindingId := "binding"
    leaseToken := "token"
    attempt := 1
    trace := none }

/-- The worker starts the adapter of the sample binding and asks for deliveries; the latest
event comes first. -/
def sampleStart : List WorkerEvent :=
  [.runOnce, .adapterEntered, .adapterStarted (.ok ()),
    .resolved (.ok ⟨"binding", .feishu, sampleScope, .obj []⟩)
      (fun config => .ok ⟨0, config.binding⟩),
    .inventoried (.ok [sampleDescriptor 1]), .refreshInventory]

/-- The vendor rejects the delivery. -/
def sampleRejection : List WorkerEvent :=
  .delivered ⟨0, fun _ => "uuid"⟩ 0 (.error ⟨some "rejected", some false⟩) ::
    .leased ⟨0, fun _ => "uuid"⟩ (.ok [sampleItem]) :: sampleStart

/-- The credentials change while the worker waits for the lease: its adapter was stopped, and
the new one has not started yet. -/
def sampleRestart : List WorkerEvent :=
  [.adapterStopped, .inventoried (.ok [sampleDescriptor 2]), .refreshInventory] ++ sampleStart

/-- What the vendor rejects is reported on the word of its adapter. -/
theorem rejection_by_adapter :
    ∃ history worker, ChannelWorker.play sampleOptions sampleRejection = some (history, worker) ∧
      ∀ later transition earlier, history = later ++ transition :: earlier →
        ∀ receipt, .receipt receipt ∈ transition.label.calls → receipt.status = .failed →
          RejectedByAdapter earlier transition receipt := by
  have present : ∀ played ∈ ChannelWorker.play sampleOptions sampleRejection,
      ∀ transition ∈ played.1, ∀ item ∈ transition.label.event.items,
        transition.before.adapters.has item.bindingId = true := by decide
  have plays : (ChannelWorker.play sampleOptions sampleRejection).isSome = true := by decide
  obtain ⟨⟨history, worker⟩, played⟩ := Option.isSome_iff_exists.mp plays
  refine ⟨history, worker, played, ?_⟩
  apply (failed_iff_adapter_present history worker (ChannelWorker.run_play played)).mpr
  exact present (history, worker) played

/-! ### A restart -/

/-- A delivery that is leased while its adapter restarts is reported as failed for good. -/
theorem restart_fails_delivery :
    ∃ history worker, Run channelWorker history worker ∧
      ∃ later transition earlier, history = later ++ transition :: earlier ∧
        ∃ receipt, .receipt receipt ∈ transition.label.calls ∧ receipt.status = .failed ∧
          ¬RejectedByAdapter earlier transition receipt := by
  have absent : ∀ played ∈ ChannelWorker.play sampleOptions sampleRestart,
      played.2.adapters.has sampleItem.bindingId = false := by decide
  have plays : (ChannelWorker.play sampleOptions
      (.leased ⟨0, fun _ => "uuid"⟩ (.ok [sampleItem]) :: sampleRestart)).isSome = true := by
    decide
  obtain ⟨⟨history, worker⟩, played⟩ := Option.isSome_iff_exists.mp plays
  have run := ChannelWorker.run_play played
  unfold ChannelWorker.play at played
  split at played
  · cases played
  · rename_i past before ran
    obtain ⟨answer, taken, same⟩ := Option.map_eq_some_iff.mp played
    cases same
    have takes : channelWorker.Takes ⟨before,
        ⟨.leased ⟨0, fun _ => "uuid"⟩ (.ok [sampleItem]), answer.2⟩, answer.1⟩ := taken
    obtain ⟨receipt, sent, failed, unrejected⟩ := not_rejected_of_absent takes
      (List.mem_singleton_self sampleItem) (absent (past, before) ran)
    exact ⟨_, _, run, [], _, past, rfl, receipt, sent, failed, unrejected past⟩

end BairuiPlatform
