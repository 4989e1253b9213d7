/-
Module: BairuiPlatform.Supervisor.Ports
Purpose: The ports that provisioning gives to agents, over the instance files on the disk.
Trusted boundary: none
Main exports: allocatePort, provision, portSystem, ports_stable
-/
import BairuiPlatform.Foundations.OrderedMap
import BairuiPlatform.Foundations.Probing
import BairuiPlatform.Foundations.Transition
import BairuiPlatform.Supervisor.Instances

namespace BairuiPlatform.Supervisor

open Foundations

/-- The ports that the constructor accepts. -/
structure PortRange where
  portStart : Nat
  portEnd : Nat
  unprivileged : 1024 ≤ portStart
  nonempty : portStart < portEnd
  bounded : portEnd ≤ 65535

/-- What an instance file says of an agent, as far as provisioning reads it. -/
structure Manifest where
  agentId : JsText
  runtimePort : Nat
  idempotencyKey : Option JsText
  deriving DecidableEq

/-- The instance files, under the names of their directories. -/
abbrev Instances := OrderedMap JsText Manifest

/-! ### Allocation -/

/-- `Number.parseInt(digits, 16)`. -/
def parseHex (digits : JsText) : Nat :=
  digits.foldl (fun number digit => number * 16 + hexValue digit) 0

/-- The ports of the range, in the order in which they are tried for an agent. -/
def probePorts (range : PortRange) (agentId : JsText) : List Nat :=
  let size := range.portEnd - range.portStart + 1
  let first := range.portStart + parseHex ((instanceKey agentId).take 8) % size
  (List.range size).map fun offset =>
    range.portStart + (first - range.portStart + offset) % size

/-- `allocatePort`, over the instance files in the order of the directory; nothing where it
throws `runtime_port_exhausted`. -/
def allocatePort (range : PortRange) (listing : List Manifest) (agentId : JsText) : Option Nat :=
  let occupied : OrderedMap Nat JsText :=
    listing.foldl (fun occupied metadata => occupied.set metadata.runtimePort metadata.agentId)
      .empty
  (probePorts range agentId).find? fun port =>
    !occupied.has port || occupied.get? port = some agentId

/-! ### Provisioning -/

/-- A provision command, as far as the allocation depends on it: what its arguments and its
placement name, and whether it brings a configuration document and secrets. -/
structure ProvisionCommand where
  agentId : Option JsText
  placementAgentId : Option JsText
  hasConfig : Bool
  idempotencyKey : Option JsText

/-- What a call meets: the order in which the directory lists the instance files, whether the
data directory can be prepared, whether all three containers of the previous manifest exist, and
whether the configuration is valid, its files are written and the containers start. -/
structure ProvisionWorld where
  listing : List Manifest
  prepares : Bool
  containersExist : Bool
  completes : Bool

/-- How a call ends. -/
inductive ProvisionOutcome where
  | rejected
  | unprepared
  | exhausted
  | replayed (port : Nat)
  | failed
  | provisioned (port : Nat)
  deriving DecidableEq

/-- `provision`: how the call ends, and the instance files afterwards. -/
def provision (range : PortRange) (command : ProvisionCommand) (world : ProvisionWorld)
    (instances : Instances) : ProvisionOutcome × Instances :=
  match command.agentId.filter isIdentifier with
  | none => (.rejected, instances)
  | some agentId =>
      if command.placementAgentId ≠ some agentId || !command.hasConfig then (.rejected, instances)
      else if !world.prepares then (.unprepared, instances)
      else
        match allocatePort range world.listing agentId with
        | none => (.exhausted, instances)
        | some runtimePort =>
            match (instances.get? (instanceKey agentId)).filter fun previous =>
                previous.idempotencyKey = command.idempotencyKey && world.containersExist with
            | some previous => (.replayed previous.runtimePort, instances)
            | none =>
                if world.completes then
                  (.provisioned runtimePort, instances.set (instanceKey agentId)
                    { agentId := agentId, runtimePort := runtimePort
                      idempotencyKey := command.idempotencyKey })
                else (.failed, instances)

/-- The port that a call returned. -/
def ProvisionOutcome.port? : ProvisionOutcome → Option Nat
  | .replayed port => some port
  | .provisioned port => some port
  | _ => none

/-- A call with what it meets. -/
structure ProvisionCall where
  command : ProvisionCommand
  world : ProvisionWorld

/-- Calls one at a time, on a disk without instances at first. -/
def portSystem (range : PortRange) : TransitionSystem Instances ProvisionCall where
  initial instances := instances = .empty
  step before call after :=
    call.world.listing.Perm before.values ∧
      after = (provision range call.command call.world before).2

/-- An agent has a port. -/
def HoldsPort (instances : Instances) (agentId : JsText) (port : Nat) : Prop :=
  ∃ metadata ∈ instances.values, metadata.agentId = agentId ∧ metadata.runtimePort = port

/-! ### What is tried -/

/-- A rotation of the offsets reaches each of them. -/
theorem exists_rotated {size key place : Nat} (below : key < size) (inside : place < size) :
    ∃ offset < size, (key + offset) % size = place := by
  by_cases ahead : key ≤ place
  · refine ⟨place - key, by omega, ?_⟩
    rw [Nat.add_sub_cancel' ahead, Nat.mod_eq_of_lt inside]
  · refine ⟨place + size - key, by omega, ?_⟩
    have around : key + (place + size - key) = place + size := by omega
    rw [around, Nat.add_mod_right, Nat.mod_eq_of_lt inside]

/-- The ports that are tried are the ports of the range. -/
theorem mem_probePorts {range : PortRange} {agentId : JsText} {port : Nat} :
    port ∈ probePorts range agentId ↔ range.portStart ≤ port ∧ port ≤ range.portEnd := by
  have ordered := range.nonempty
  have size : 0 < range.portEnd - range.portStart + 1 := Nat.succ_pos _
  have below := Nat.mod_lt (parseHex ((instanceKey agentId).take 8)) size
  unfold probePorts
  simp only [List.mem_map, List.mem_range, Nat.add_sub_cancel_left]
  constructor
  · rintro ⟨offset, -, rfl⟩
    have small := Nat.mod_lt (parseHex ((instanceKey agentId).take 8) %
      (range.portEnd - range.portStart + 1) + offset) size
    omega
  · rintro ⟨low, high⟩
    have placed : port - range.portStart < range.portEnd - range.portStart + 1 := by omega
    obtain ⟨offset, inside, same⟩ := exists_rotated below placed
    exact ⟨offset, inside, by omega⟩

/-! ### The instance files as placements -/

/-- What the instance files of a run are like: each in the directory of its agent, and every
agent has the first port that no other agent has. -/
structure PortsSettled (range : PortRange) (instances : Instances) : Prop where
  filed : ∀ entry ∈ instances.entries, entry.1 = instanceKey entry.2.agentId
  settled : Probing.Settled (probePorts range) (HoldsPort instances)

section Settled

variable {range : PortRange} {instances : Instances}

theorem mem_values {metadata : Manifest} :
    metadata ∈ instances.values ↔ ∃ key, (key, metadata) ∈ instances.entries := by
  unfold OrderedMap.values
  rw [List.mem_map]
  constructor
  · rintro ⟨entry, member, rfl⟩
    exact ⟨entry.1, member⟩
  · rintro ⟨key, member⟩
    exact ⟨(key, metadata), member, rfl⟩

/-- An agent has one instance file. -/
theorem PortsSettled.eq_of_agentId_eq (holds : PortsSettled range instances)
    {first second : JsText × Manifest} (member : first ∈ instances.entries)
    (member' : second ∈ instances.entries) (same : first.2.agentId = second.2.agentId) :
    first = second := by
  apply instances.keyed.eq_of_key_eq member member'
  rw [holds.filed first member, holds.filed second member', same]

/-- No two instance files name one port. -/
theorem PortsSettled.keyed (holds : PortsSettled range instances) :
    Keyed Manifest.runtimePort instances.values := by
  unfold Keyed OrderedMap.values
  rw [List.map_map]
  refine List.Nodup.map_on ?_ (List.Nodup.of_map _ instances.keyed)
  intro first member second member' same
  apply holds.eq_of_agentId_eq member member'
  have held : HoldsPort instances first.2.agentId first.2.runtimePort :=
    ⟨first.2, mem_values.mpr ⟨_, member⟩, rfl, rfl⟩
  exact holds.settled.apart held ⟨second.2, mem_values.mpr ⟨_, member'⟩, rfl, same.symm⟩

/-- The ports that the allocation finds occupied. -/
theorem PortsSettled.get?_occupied (holds : PortsSettled range instances)
    {listing : List Manifest} (listed : listing.Perm instances.values) {port : Nat}
    {agentId : JsText} :
    (listing.foldl (fun (occupied : OrderedMap Nat JsText) metadata =>
        occupied.set metadata.runtimePort metadata.agentId) .empty).get? port = some agentId ↔
      HoldsPort instances agentId port := by
  have keyed : Keyed Prod.fst
      (listing.map fun metadata => (metadata.runtimePort, metadata.agentId)) := by
    have apart : Keyed Manifest.runtimePort listing := holds.keyed.perm listed.symm
    unfold Keyed at apart ⊢
    rwa [List.map_map]
  have entries := @OrderedMap.entries_foldl_set Nat JsText _
    (listing.map fun metadata : Manifest => (metadata.runtimePort, metadata.agentId)) .empty keyed
  rw [List.foldl_map] at entries
  rw [OrderedMap.get?_eq_some, entries]
  unfold HoldsPort
  simp only [OrderedMap.empty, List.nil_append, List.mem_map, listed.mem_iff, Prod.mk.injEq,
    and_comm]

/-- A port is passed over exactly when another agent occupies it. -/
theorem passed_iff {occupied : OrderedMap Nat JsText} {agentId : JsText} {port : Nat} :
    ¬(!occupied.has port || occupied.get? port = some agentId) = true ↔
      ∃ other, other ≠ agentId ∧ occupied.get? port = some other := by
  unfold OrderedMap.has
  cases occupied.get? port with
  | none => simp
  | some holder => simp

/-- The port that is allocated is the next one of the agent. -/
theorem PortsSettled.allocatePort_eq_some (holds : PortsSettled range instances)
    {listing : List Manifest} (listed : listing.Perm instances.values) {agentId : JsText}
    {port : Nat} (allocated : allocatePort range listing agentId = some port) :
    Probing.IsNext (probePorts range) (HoldsPort instances) agentId port := by
  unfold allocatePort at allocated
  obtain ⟨free, before, after, order, passed⟩ := List.find?_eq_some_iff_append.mp allocated
  refine ⟨before, after, order, fun earlier inside => ?_, ?_⟩
  · have skipped := passed earlier inside
    rw [Bool.not_eq_true'] at skipped
    obtain ⟨other, different, held⟩ := passed_iff.mp (Bool.not_eq_true _ ▸ skipped)
    exact ⟨other, different, (holds.get?_occupied listed).mp held⟩
  · rintro ⟨other, different, held⟩
    exact passed_iff.mpr ⟨other, different, (holds.get?_occupied listed).mpr held⟩ free

/-- The allocation reports exhaustion exactly when every port of the range is held by another
agent. -/
theorem PortsSettled.allocatePort_eq_none (holds : PortsSettled range instances)
    {listing : List Manifest} (listed : listing.Perm instances.values) {agentId : JsText} :
    allocatePort range listing agentId = none ↔
      ∀ port, range.portStart ≤ port → port ≤ range.portEnd →
        ∃ other, other ≠ agentId ∧ HoldsPort instances other port := by
  unfold allocatePort
  rw [List.find?_eq_none]
  simp only [passed_iff, holds.get?_occupied listed, mem_probePorts, and_imp]

end Settled

/-! ### Runs -/

/-- How a call ends: it returns no port, it returns the port of the instance file of its agent,
or it writes that file with the port that was allocated. -/
theorem provision_cases (range : PortRange) (command : ProvisionCommand) (world : ProvisionWorld)
    (instances : Instances) :
    ((provision range command world instances).1.port? = none ∧
        (provision range command world instances).2 = instances) ∨
      (∃ agentId metadata, command.agentId = some agentId ∧
        instances.get? (instanceKey agentId) = some metadata ∧
        provision range command world instances = (.replayed metadata.runtimePort, instances)) ∨
      ∃ agentId runtimePort, command.agentId = some agentId ∧
        allocatePort range world.listing agentId = some runtimePort ∧
        provision range command world instances = (.provisioned runtimePort,
          instances.set (instanceKey agentId)
            { agentId := agentId, runtimePort := runtimePort
              idempotencyKey := command.idempotencyKey }) := by
  unfold provision
  cases asked : command.agentId.filter isIdentifier with
  | none => exact .inl ⟨rfl, rfl⟩
  | some agentId =>
      have named := (Option.filter_eq_some_iff.mp asked).1
      dsimp only
      split
      · exact .inl ⟨rfl, rfl⟩
      · split
        · exact .inl ⟨rfl, rfl⟩
        · cases allocated : allocatePort range world.listing agentId with
          | none => exact .inl ⟨rfl, rfl⟩
          | some runtimePort =>
              dsimp only
              split
              · rename_i metadata found
                exact .inr (.inl ⟨agentId, metadata, named, (Option.filter_eq_some_iff.mp found).1,
                  rfl⟩)
              · split
                · exact .inr (.inr ⟨agentId, runtimePort, named, allocated, rfl⟩)
                · exact .inl ⟨rfl, rfl⟩

/-- The directory of an agent is no other agent's. -/
def OwnDirectory (instances : Instances) (command : ProvisionCommand) : Prop :=
  ∀ agentId, command.agentId = some agentId → ∀ metadata ∈ instances.values,
    instanceKey metadata.agentId = instanceKey agentId → metadata.agentId = agentId

section Step

variable {range : PortRange} {instances : Instances} {command : ProvisionCommand}
  {world : ProvisionWorld}

/-- What is held after an agent took its port. -/
theorem PortsSettled.holdsPort_set (holds : PortsSettled range instances) {metadata : Manifest}
    (own : ∀ other ∈ instances.values, instanceKey other.agentId = instanceKey metadata.agentId →
      other.agentId = metadata.agentId)
    (next : Probing.IsNext (probePorts range) (HoldsPort instances) metadata.agentId
      metadata.runtimePort) (other : JsText) (slot : Nat) :
    HoldsPort (instances.set (instanceKey metadata.agentId) metadata) other slot ↔
      HoldsPort instances other slot ∨
        other = metadata.agentId ∧ slot = metadata.runtimePort := by
  constructor
  · rintro ⟨found, member, rfl, rfl⟩
    obtain ⟨key, filed⟩ := mem_values.mp member
    rcases OrderedMap.mem_entries_set.mp filed with same | ⟨-, old⟩
    · cases same
      exact .inr ⟨rfl, rfl⟩
    · exact .inl ⟨found, mem_values.mpr ⟨key, old⟩, rfl, rfl⟩
  · have now : HoldsPort (instances.set (instanceKey metadata.agentId) metadata)
        metadata.agentId metadata.runtimePort :=
      ⟨metadata, mem_values.mpr ⟨_, OrderedMap.mem_entries_set.mpr (.inl rfl)⟩, rfl, rfl⟩
    rintro (⟨found, member, rfl, rfl⟩ | ⟨rfl, rfl⟩)
    · obtain ⟨key, filed⟩ := mem_values.mp member
      have keyed : key = instanceKey found.agentId := holds.filed _ filed
      by_cases same : key = instanceKey metadata.agentId
      · -- The file of the agent is written again, with the port it had.
        have agent := own found member (keyed.symm.trans same)
        have held : HoldsPort instances metadata.agentId found.runtimePort :=
          ⟨found, member, agent, rfl⟩
        rw [agent, ← holds.settled.stable held next]
        exact now
      · exact ⟨found, mem_values.mpr ⟨key, OrderedMap.mem_entries_set.mpr (.inr ⟨same, filed⟩)⟩,
          rfl, rfl⟩
    · exact now

/-- What an instance file in the directory of an agent says, the agent has. -/
theorem holdsPort_of_get? {agentId : JsText} {metadata : Manifest}
    (holds : PortsSettled range instances)
    (own : ∀ other ∈ instances.values, instanceKey other.agentId = instanceKey agentId →
      other.agentId = agentId)
    (found : instances.get? (instanceKey agentId) = some metadata) :
    HoldsPort instances agentId metadata.runtimePort := by
  have filed := OrderedMap.get?_eq_some.mp found
  have member := mem_values.mpr ⟨_, filed⟩
  exact ⟨metadata, member, own metadata member (holds.filed _ filed).symm, rfl⟩

/-- A call leaves the ports settled, every agent keeps its port, and an agent that is told a
port has it. -/
theorem PortsSettled.provision (holds : PortsSettled range instances)
    (listed : world.listing.Perm instances.values) (own : OwnDirectory instances command) :
    PortsSettled range (provision range command world instances).2 ∧
      (∀ agentId port, HoldsPort instances agentId port →
        HoldsPort (Supervisor.provision range command world instances).2 agentId port) ∧
      ∀ agentId port, command.agentId = some agentId →
        (Supervisor.provision range command world instances).1.port? = some port →
        HoldsPort (Supervisor.provision range command world instances).2 agentId port := by
  rcases provision_cases range command world instances with
    ⟨silent, same⟩ | ⟨agentId, metadata, asked, found, same⟩ |
      ⟨agentId, runtimePort, asked, allocated, same⟩
  · rw [same, silent]
    exact ⟨holds, fun _ _ held => held, fun _ _ _ returned => (nomatch returned)⟩
  · rw [same]
    refine ⟨holds, fun _ _ held => held, fun other port askedToo returned => ?_⟩
    rw [asked] at askedToo
    cases askedToo
    cases returned
    exact holdsPort_of_get? holds (own agentId asked) found
  · rw [same]
    have next := holds.allocatePort_eq_some listed allocated
    have held := @PortsSettled.holdsPort_set _ _ holds
      { agentId := agentId, runtimePort := runtimePort, idempotencyKey := command.idempotencyKey }
      (own agentId asked) next
    refine ⟨⟨?_, holds.settled.place next held⟩, fun other port old => (held _ _).mpr (.inl old),
      fun other port askedToo returned => ?_⟩
    · intro entry member
      rcases OrderedMap.mem_entries_set.mp member with rfl | ⟨-, old⟩
      · rfl
      · exact holds.filed _ old
    · rw [asked] at askedToo
      cases askedToo
      cases returned
      exact (held _ _).mpr (.inr ⟨rfl, rfl⟩)

/-- Instance files are written for the agents that calls name. -/
theorem mem_values_provision {metadata : Manifest}
    (member : metadata ∈ (Supervisor.provision range command world instances).2.values) :
    metadata ∈ instances.values ∨ command.agentId = some metadata.agentId := by
  rcases provision_cases range command world instances with
    ⟨-, same⟩ | ⟨agentId, found, asked, -, same⟩ | ⟨agentId, runtimePort, asked, -, same⟩
  · rw [same] at member
    exact .inl member
  · rw [same] at member
    exact .inl member
  · rw [same] at member
    obtain ⟨key, filed⟩ := mem_values.mp member
    rcases OrderedMap.mem_entries_set.mp filed with new | ⟨-, old⟩
    · cases new
      exact .inr asked
    · exact .inl (mem_values.mpr ⟨key, old⟩)

end Step

/-- No two of the agents that the calls of a run name have one instance key. -/
def KeysApart (history : List (Transition Instances ProvisionCall)) : Prop :=
  ∀ first ∈ history, ∀ second ∈ history, ∀ agentId otherId,
    first.label.command.agentId = some agentId → second.label.command.agentId = some otherId →
    instanceKey agentId = instanceKey otherId → agentId = otherId

section Runs

variable {range : PortRange} {history : List (Transition Instances ProvisionCall)}
  {instances : Instances}

theorem KeysApart.mono {earlier : List (Transition Instances ProvisionCall)}
    (apart : KeysApart history) (included : ∀ transition ∈ earlier, transition ∈ history) :
    KeysApart earlier :=
  fun first member second member' => apart first (included first member) second
    (included second member')

/-- In every run the ports are settled, and instance files are those of agents of the run. -/
theorem run_settled (run : Run (portSystem range) history instances) (apart : KeysApart history) :
    PortsSettled range instances ∧ ∀ metadata ∈ instances.values, ∃ transition ∈ history,
      transition.label.command.agentId = some metadata.agentId := by
  induction run with
  | start initial =>
      cases initial
      have empty (metadata : Manifest) :
          metadata ∉ (OrderedMap.empty : Instances).values := List.not_mem_nil
      refine ⟨⟨fun _ member => absurd member List.not_mem_nil, ?_⟩, fun metadata member =>
        absurd member (empty metadata)⟩
      exact Probing.settled_of_empty fun _ _ ⟨metadata, member, _⟩ => empty metadata member
  | step run taken ih =>
      rename_i history before after call
      obtain ⟨holds, named⟩ := ih (apart.mono fun _ => List.mem_cons_of_mem _)
      obtain ⟨listed, rfl⟩ := taken
      have own : OwnDirectory before call.command := by
        intro agentId asked metadata member same
        obtain ⟨transition, earlier, other⟩ := named metadata member
        exact apart _ (List.mem_cons_of_mem _ earlier) _ List.mem_cons_self _ _ other asked same
      refine ⟨(holds.provision listed own).1, fun metadata member => ?_⟩
      rcases mem_values_provision member with old | new
      · obtain ⟨transition, earlier, other⟩ := named metadata old
        exact ⟨transition, List.mem_cons_of_mem _ earlier, other⟩
      · exact ⟨_, List.mem_cons_self, new⟩

end Runs

instance (instances : Instances) (agentId : JsText) (port : Nat) :
    Decidable (HoldsPort instances agentId port) :=
  inferInstanceAs (Decidable
    (∃ metadata ∈ instances.values, metadata.agentId = agentId ∧ metadata.runtimePort = port))

/-- The range that the constructor takes by default. -/
def defaultRange : PortRange :=
  { portStart := 19000, portEnd := 19999, unprivileged := by decide, nonempty := by decide
    bounded := by decide }

/-- A call that goes well. -/
def sampleCall (agentId idempotencyKey : String) (instances : Instances) : ProvisionCall :=
  { command := { agentId := some (utf16 agentId), placementAgentId := some (utf16 agentId)
                 hasConfig := true, idempotencyKey := some (utf16 idempotencyKey) }
    world := { listing := instances.values, prepares := true, containersExist := true
               completes := true } }

/-- A run goes on with a call that goes well. -/
theorem run_sampleCall {history : List (Transition Instances ProvisionCall)}
    {instances : Instances} (run : Run (portSystem defaultRange) history instances)
    (agentId idempotencyKey : String) :
    Run (portSystem defaultRange)
      (⟨instances, sampleCall agentId idempotencyKey instances,
        (provision defaultRange (sampleCall agentId idempotencyKey instances).command
          (sampleCall agentId idempotencyKey instances).world instances).2⟩ :: history)
      (provision defaultRange (sampleCall agentId idempotencyKey instances).command
        (sampleCall agentId idempotencyKey instances).world instances).2 :=
  run.step ⟨.refl _, rfl⟩

end BairuiPlatform.Supervisor
