/-
Module: BairuiPlatform.Channels.Gateway
Purpose: The gateway connection of the QQ adapter: connects that are under way, the events of its
  sockets, the reconnect timer and `stop`, in any order.
Trusted boundary: a payload is given as what `JSON.parse` makes of it
Main exports: GatewayPayload, GatewayConnect, GatewayTimer, GatewayState, GatewayLabel, qqGateway,
  GatewayState.Single, ConnectsAlone, qqGateway_single_iff
-/
import BairuiPlatform.Foundations.Transition

namespace BairuiPlatform

open Foundations

/-! ### Payloads -/

/-- What a payload of the gateway asks for, by its `op` and the event that it dispatches. -/
inductive PayloadKind where
  | hello
  | ready (sessionId : Option String)
  | resumed
  | dispatch
  | reconnect
  | invalidSession (resumable : Bool)
  | other
deriving Repr, DecidableEq

/-- A payload, with its sequence number if this is a safe integer. -/
structure GatewayPayload where
  sequence : Option Int
  kind : PayloadKind
deriving Repr, DecidableEq

/-! ### States -/

/-- What a call of `connect` waits for. -/
inductive ConnectStage where
  | token | address
deriving Repr, DecidableEq

/-- A call of `connect`, by the reconnect timer or by `start`. -/
structure GatewayConnect where
  id : Nat
  stage : ConnectStage
  reconnecting : Bool
deriving Repr, DecidableEq

/-- A reconnect timer that has not fired and was not cleared. -/
structure GatewayTimer where
  id : Nat
  delay : Nat
deriving Repr, DecidableEq

/-- The connection of an adapter, with the calls of `connect` that are under way and the timers
that are armed; the sockets that were opened and neither the adapter nor the peer has closed; and
those that were opened after a call of `stop`. -/
structure GatewayState where
  sessionId : Option String := none
  lastSequence : Option Int := none
  socket : Option Nat := none
  heartbeat : Option Nat := none
  reconnectTimer : Option Nat := none
  reconnectAttempt : Nat := 0
  stopped : Bool := false
  connects : List GatewayConnect := []
  armed : List GatewayTimer := []
  nextId : Nat := 0
  openSockets : List Nat := []
  late : List Nat := []
deriving Repr, DecidableEq

/-- What happens to the connection: `start` calls `connect`; the token or the address of the
gateway comes, or does not; a socket delivers a payload, closes or fails; a timer fires; and
`stop`. -/
inductive GatewayLabel where
  | connect
  | token (id : Nat) (granted : Bool)
  | address (id : Nat) (found : Bool)
  | payload (socket : Nat) (payload : GatewayPayload)
  | closed (socket : Nat)
  | failed (socket : Nat)
  | fired (id : Nat)
  | stop
deriving Repr, DecidableEq

/-- The delays of `scheduleReconnect`. -/
def reconnectDelays : List Nat := [1000, 2000, 5000, 10000, 30000, 60000]

namespace GatewayState

/-- `clearConnection`. -/
def clearConnection (state : GatewayState) : GatewayState :=
  { state with
    heartbeat := none
    socket := none
    openSockets := state.openSockets.filter fun socket => state.socket ≠ some socket }

/-- `scheduleReconnect`. -/
def scheduleReconnect (state : GatewayState) : GatewayState :=
  if state.stopped || state.reconnectTimer.isSome then state
  else
    let delay := reconnectDelays.getD (min state.reconnectAttempt (reconnectDelays.length - 1)) 0
    { state with
      reconnectAttempt := state.reconnectAttempt + 1
      reconnectTimer := some state.nextId
      armed := { id := state.nextId, delay := delay } :: state.armed
      nextId := state.nextId + 1 }

/-- `handlePayload`, on a payload of a socket. -/
def handlePayload (socket : Nat) (payload : GatewayPayload) (state : GatewayState) :
    GatewayState :=
  let state := { state with lastSequence := payload.sequence.or state.lastSequence }
  match payload.kind with
  | .hello => { state with heartbeat := some socket }
  | .ready sessionId => { state with sessionId := sessionId, reconnectAttempt := 0 }
  | .resumed => { state with reconnectAttempt := 0 }
  | .dispatch => state
  | .reconnect => state.clearConnection.scheduleReconnect
  | .invalidSession true => state.clearConnection.scheduleReconnect
  | .invalidSession false =>
      { state with sessionId := none, lastSequence := none }.clearConnection.scheduleReconnect
  | .other => state

/-- A call of `connect` begins. -/
def connect (reconnecting : Bool) (state : GatewayState) : GatewayState :=
  { state with
    connects := { id := state.nextId, stage := .token, reconnecting := reconnecting } ::
      state.connects
    nextId := state.nextId + 1 }

/-- A call of `connect` that waits for something. -/
def call? (state : GatewayState) (id : Nat) (stage : ConnectStage) : Option GatewayConnect :=
  state.connects.find? fun call => call.id = id && call.stage = stage

/-- A call of `connect` ends. -/
def leave (call : GatewayConnect) (state : GatewayState) : GatewayState :=
  { state with connects := state.connects.filter fun other => other.id ≠ call.id }

/-- A call of `connect` throws. -/
def abandon (call : GatewayConnect) (state : GatewayState) : GatewayState :=
  if call.reconnecting then (state.leave call).scheduleReconnect else state.leave call

/-- The token has come, or not. -/
def token (id : Nat) (granted : Bool) (state : GatewayState) : GatewayState :=
  match state.call? id .token with
  | none => state
  | some call =>
      if granted then
        { state with
          connects := { call with stage := .address } ::
            state.connects.filter fun other => other.id ≠ call.id }
      else state.abandon call

/-- The address of the gateway has come and the socket is opened, or not. -/
def address (id : Nat) (found : Bool) (state : GatewayState) : GatewayState :=
  match state.call? id .address with
  | none => state
  | some call =>
      if found then
        { state.leave call with
          socket := some state.nextId
          nextId := state.nextId + 1
          openSockets := state.nextId :: state.openSockets
          late := if state.stopped then state.nextId :: state.late else state.late }
      else state.abandon call

/-- A socket is closed by its peer, or what the adapter has closed ends. -/
def closed (socket : Nat) (state : GatewayState) : GatewayState :=
  let state := { state with openSockets := state.openSockets.filter fun other => other ≠ socket }
  if state.socket ≠ some socket || state.stopped then state
  else state.clearConnection.scheduleReconnect

/-- The reconnect timer fires. -/
def fired (id : Nat) (state : GatewayState) : GatewayState :=
  match state.armed.find? fun timer => timer.id = id with
  | none => state
  | some _ =>
      { state with
        armed := state.armed.filter fun timer => timer.id ≠ id
        reconnectTimer := none }.connect true

/-- `stop`. -/
def stop (state : GatewayState) : GatewayState :=
  { state with
    stopped := true
    armed := state.armed.filter fun timer => state.reconnectTimer ≠ some timer.id
    reconnectTimer := none }.clearConnection

/-- The state after a step. -/
def next : GatewayLabel → GatewayState → GatewayState
  | .connect, state => state.connect false
  | .token id granted, state => state.token id granted
  | .address id found, state => state.address id found
  | .payload socket payload, state => state.handlePayload socket payload
  | .closed socket, state => state.closed socket
  | .failed _, state => state
  | .fired id, state => state.fired id
  | .stop, state => state.stop

end GatewayState

/-- The connection of an adapter that was just made, and whatever happens to it. -/
def qqGateway : TransitionSystem GatewayState GatewayLabel where
  initial state := state = {}
  step before label after := after = before.next label

/-! ### One connection -/

/-- At most one socket is open and at most one reconnect timer armed, none after a stop, and no
socket was opened after one. -/
structure GatewayState.Single (state : GatewayState) : Prop where
  sockets : state.openSockets.length ≤ 1
  timers : state.armed.length ≤ 1
  unarmed : state.stopped = true → state.armed = []
  late : state.late = []

/-- When the address of the gateway comes and the socket is opened, the adapter is not stopped, and
it has no socket. -/
def ConnectsAlone (step : Transition GatewayState GatewayLabel) : Prop :=
  ∀ id call, step.label = .address id true → step.before.call? id .address = some call →
    step.before.stopped = false ∧ step.before.socket = none

/-! ### What every run keeps -/

namespace GatewayState

variable {state : GatewayState}

/-- What is known of the connection in every state. -/
structure Kept (state : GatewayState) : Prop where
  handle : ∀ timer ∈ state.armed, state.reconnectTimer = some timer.id
  timers : state.armed.length ≤ 1
  unarmed : state.stopped = true → state.armed = []
  current : ∀ socket, state.socket = some socket → state.stopped = false →
    socket ∈ state.openSockets

/-- What is known of the sockets while every address comes to an adapter without one. -/
structure Alone (state : GatewayState) : Prop where
  current : ∀ socket ∈ state.openSockets, state.socket = some socket
  sockets : state.openSockets.length ≤ 1
  late : state.late = []

theorem Alone.single (alone : state.Alone) (kept : state.Kept) : state.Single :=
  ⟨alone.sockets, kept.timers, kept.unarmed, alone.late⟩

/-! #### The timer -/

theorem Kept.clearConnection (kept : state.Kept) : state.clearConnection.Kept :=
  ⟨kept.handle, kept.timers, kept.unarmed, nofun⟩

theorem Kept.scheduleReconnect (kept : state.Kept) : state.scheduleReconnect.Kept := by
  unfold GatewayState.scheduleReconnect
  split
  · exact kept
  · rename_i idle
    rw [Bool.or_eq_true, not_or, Bool.not_eq_true, Bool.not_eq_true,
      Option.isSome_eq_false_iff, Option.isNone_iff_eq_none] at idle
    have none : state.armed = [] := by
      rw [List.eq_nil_iff_forall_not_mem]
      intro timer member
      have handle := kept.handle timer member
      rw [idle.2] at handle
      cases handle
    refine ⟨?_, ?_, fun stopped => ?_, kept.current⟩
    · rw [none]
      exact List.forall_mem_singleton.mpr rfl
    · rw [none]
      exact Nat.le_refl 1
    · exact absurd stopped (Bool.eq_false_iff.mp idle.1)

theorem Kept.handlePayload (kept : state.Kept) (socket : Nat) (payload : GatewayPayload) :
    (state.handlePayload socket payload).Kept := by
  have read : { state with lastSequence := payload.sequence.or state.lastSequence }.Kept :=
    ⟨kept.handle, kept.timers, kept.unarmed, kept.current⟩
  unfold GatewayState.handlePayload
  dsimp only
  split
  · exact ⟨kept.handle, kept.timers, kept.unarmed, kept.current⟩
  · exact ⟨kept.handle, kept.timers, kept.unarmed, kept.current⟩
  · exact ⟨kept.handle, kept.timers, kept.unarmed, kept.current⟩
  · exact read
  · exact read.clearConnection.scheduleReconnect
  · exact read.clearConnection.scheduleReconnect
  · have cleared : { state with sessionId := none, lastSequence := none }.Kept :=
      ⟨kept.handle, kept.timers, kept.unarmed, kept.current⟩
    exact cleared.clearConnection.scheduleReconnect
  · exact read

theorem Kept.abandon (kept : state.Kept) (call : GatewayConnect) : (state.abandon call).Kept := by
  have others : (state.leave call).Kept :=
    ⟨kept.handle, kept.timers, kept.unarmed, kept.current⟩
  unfold GatewayState.abandon
  split
  · exact others.scheduleReconnect
  · exact others

theorem Kept.closed (kept : state.Kept) (socket : Nat) : (state.closed socket).Kept := by
  unfold GatewayState.closed
  dsimp only
  split
  · rename_i stale
    refine ⟨kept.handle, kept.timers, kept.unarmed, fun current holds running => ?_⟩
    refine List.mem_filter.mpr ⟨kept.current current holds running, ?_⟩
    rw [holds, running, Bool.or_false] at stale
    simpa using stale
  · have emptied : { state with
        openSockets := state.openSockets.filter fun other => other ≠ socket }.clearConnection.Kept :=
      ⟨kept.handle, kept.timers, kept.unarmed, nofun⟩
    exact emptied.scheduleReconnect

theorem Kept.next (kept : state.Kept) (label : GatewayLabel) : (state.next label).Kept := by
  cases label with
  | connect => exact ⟨kept.handle, kept.timers, kept.unarmed, kept.current⟩
  | token id granted =>
      simp only [GatewayState.next, GatewayState.token]
      split
      · exact kept
      · split
        · exact ⟨kept.handle, kept.timers, kept.unarmed, kept.current⟩
        · exact kept.abandon _
  | address id found =>
      simp only [GatewayState.next, GatewayState.address]
      split
      · exact kept
      · split
        · refine ⟨kept.handle, kept.timers, kept.unarmed, ?_⟩
          rintro socket ⟨⟩ _
          exact List.mem_cons_self
        · exact kept.abandon _
  | payload socket payload => exact kept.handlePayload socket payload
  | closed socket => exact kept.closed socket
  | failed socket => exact kept
  | fired id =>
      simp only [GatewayState.next, GatewayState.fired]
      split
      · exact kept
      · rename_i timer found
        have own := List.find?_some found
        rw [decide_eq_true_eq] at own
        have handle := kept.handle timer (List.mem_of_find?_eq_some found)
        have none : (state.armed.filter fun other => other.id ≠ id) = [] := by
          refine List.filter_eq_nil_iff.mpr fun other member => ?_
          have same := kept.handle other member
          rw [handle, Option.some.injEq, own] at same
          simp [same]
        refine ⟨?_, ?_, fun _ => none, kept.current⟩
        · intro other member
          have inside : other ∈ state.armed.filter fun other => other.id ≠ id := member
          rw [none] at inside
          cases inside
        · exact Nat.le_trans (List.length_filter_le _ _) kept.timers
  | stop =>
      have none : (state.armed.filter fun timer => state.reconnectTimer ≠ some timer.id) = [] := by
        refine List.filter_eq_nil_iff.mpr fun timer member => ?_
        simp [kept.handle timer member]
      refine ⟨?_, ?_, fun _ => none, nofun⟩
      · intro timer member
        have inside : timer ∈ state.armed.filter fun timer =>
          state.reconnectTimer ≠ some timer.id := member
        rw [none] at inside
        cases inside
      · exact Nat.le_trans (List.length_filter_le _ _) kept.timers

/-! #### The sockets -/

theorem Alone.scheduleReconnect (alone : state.Alone) : state.scheduleReconnect.Alone := by
  unfold GatewayState.scheduleReconnect
  split
  · exact alone
  · exact ⟨alone.current, alone.sockets, alone.late⟩

/-- The adapter closes the only socket that is open. -/
theorem Alone.clearConnection (alone : state.Alone) : state.clearConnection.Alone := by
  have none : state.clearConnection.openSockets = [] := by
    refine List.filter_eq_nil_iff.mpr fun socket member => ?_
    simp [alone.current socket member]
  refine ⟨?_, ?_, alone.late⟩
  · rw [none]
    nofun
  · rw [none]
    exact Nat.zero_le 1

theorem Alone.handlePayload (alone : state.Alone) (socket : Nat) (payload : GatewayPayload) :
    (state.handlePayload socket payload).Alone := by
  have read : { state with lastSequence := payload.sequence.or state.lastSequence }.Alone :=
    ⟨alone.current, alone.sockets, alone.late⟩
  unfold GatewayState.handlePayload
  dsimp only
  split
  · exact ⟨alone.current, alone.sockets, alone.late⟩
  · exact ⟨alone.current, alone.sockets, alone.late⟩
  · exact ⟨alone.current, alone.sockets, alone.late⟩
  · exact read
  · exact read.clearConnection.scheduleReconnect
  · exact read.clearConnection.scheduleReconnect
  · have cleared : { state with sessionId := none, lastSequence := none }.Alone :=
      ⟨alone.current, alone.sockets, alone.late⟩
    exact cleared.clearConnection.scheduleReconnect
  · exact read

theorem Alone.abandon (alone : state.Alone) (call : GatewayConnect) :
    (state.abandon call).Alone := by
  have others : (state.leave call).Alone := ⟨alone.current, alone.sockets, alone.late⟩
  unfold GatewayState.abandon
  split
  · exact others.scheduleReconnect
  · exact others

theorem Alone.closed (alone : state.Alone) (socket : Nat) : (state.closed socket).Alone := by
  have fewer : { state with
      openSockets := state.openSockets.filter fun other => other ≠ socket }.Alone :=
    ⟨fun other member => alone.current other (List.mem_filter.mp member).1,
      Nat.le_trans (List.length_filter_le _ _) alone.sockets, alone.late⟩
  unfold GatewayState.closed
  dsimp only
  split
  · exact fewer
  · exact fewer.clearConnection.scheduleReconnect

theorem Alone.next {label : GatewayLabel} (alone : state.Alone)
    (connects : ConnectsAlone ⟨state, label, state.next label⟩) : (state.next label).Alone := by
  cases label with
  | connect => exact ⟨alone.current, alone.sockets, alone.late⟩
  | token id granted =>
      simp only [GatewayState.next, GatewayState.token]
      split
      · exact alone
      · split
        · exact ⟨alone.current, alone.sockets, alone.late⟩
        · exact alone.abandon _
  | address id found =>
      simp only [GatewayState.next, GatewayState.address]
      cases waits : state.call? id .address with
      | none => exact alone
      | some call =>
          dsimp only
          cases found with
          | false =>
              rw [if_neg Bool.false_ne_true]
              exact alone.abandon call
          | true =>
              obtain ⟨running, free⟩ := connects id call rfl waits
              have none : state.openSockets = [] := by
                rw [List.eq_nil_iff_forall_not_mem]
                intro socket member
                have current := alone.current socket member
                rw [free] at current
                cases current
              rw [if_pos rfl, none, running, if_neg Bool.false_ne_true]
              exact ⟨List.forall_mem_singleton.mpr rfl, Nat.le_refl 1, alone.late⟩
  | payload socket payload => exact alone.handlePayload socket payload
  | closed socket => exact alone.closed socket
  | failed socket => exact alone
  | fired id =>
      simp only [GatewayState.next, GatewayState.fired]
      split
      · exact alone
      · exact ⟨alone.current, alone.sockets, alone.late⟩
  | stop =>
      have halted : { state with
          stopped := true
          armed := state.armed.filter fun timer => state.reconnectTimer ≠ some timer.id
          reconnectTimer := none }.Alone := ⟨alone.current, alone.sockets, alone.late⟩
      exact halted.clearConnection

end GatewayState

section Runs

variable {history : List (Transition GatewayState GatewayLabel)} {state : GatewayState}

theorem qqGateway_kept (run : Run qqGateway history state) : state.Kept := by
  refine run.invariant GatewayState.Kept ?_ ?_
  · rintro state rfl
    exact ⟨nofun, Nat.zero_le 1, fun _ => rfl, nofun⟩
  · rintro before label after kept rfl
    exact kept.next label

theorem qqGateway_alone (run : Run qqGateway history state)
    (connects : ∀ step ∈ history, ConnectsAlone step) : state.Alone := by
  refine @Run.guarded_invariant _ _ qqGateway history state ConnectsAlone GatewayState.Alone ?_ ?_
    run connects
  · rintro state rfl
    exact ⟨nofun, Nat.zero_le 1, rfl⟩
  · rintro before label after alone rfl connects
    exact alone.next connects

/-- A step that opens a socket for an adapter that is stopped or has one leaves too much. -/
theorem connectsAlone_of_single {step : Transition GatewayState GatewayLabel}
    (kept : step.before.Kept) (taken : qqGateway.Takes step) (single : step.after.Single) :
    ConnectsAlone step := by
  obtain ⟨before, label, after⟩ := step
  rintro id call rfl waits
  have reached : after = before.address id true := taken
  unfold GatewayState.address at reached
  rw [waits] at reached
  dsimp only at reached waits kept ⊢
  rw [if_pos rfl] at reached
  have running : before.stopped = false := by
    cases stopped : before.stopped with
    | false => rfl
    | true =>
        have late := single.late
        rw [reached] at late
        dsimp only at late
        rw [if_pos stopped] at late
        cases late
  refine ⟨running, ?_⟩
  have sockets := single.sockets
  rw [reached] at sockets
  have none : before.openSockets = [] := by
    rw [← List.length_eq_zero_iff]
    exact Nat.le_zero.mp (Nat.le_of_succ_le_succ sockets)
  cases current : before.socket with
  | none => rfl
  | some socket =>
      have member := kept.current socket current running
      rw [none] at member
      cases member

/-- A run keeps one connection, and none after a stop, exactly when each of its addresses comes to
an adapter that is not stopped and has no socket. -/
theorem qqGateway_single_iff (run : Run qqGateway history state) :
    (∀ step ∈ history, step.after.Single) ↔ ∀ step ∈ history, ConnectsAlone step := by
  constructor
  · intro single step member
    obtain ⟨earlier, before, taken, -⟩ := run.before_of_mem member
    exact connectsAlone_of_single (qqGateway_kept before) taken (single step member)
  · intro connects step member
    obtain ⟨earlier, before, taken, included⟩ := run.before_of_mem member
    have after : Run qqGateway (⟨step.before, step.label, step.after⟩ :: earlier) step.after :=
      before.step taken
    refine (qqGateway_alone after ?_).single (qqGateway_kept after)
    exact List.forall_mem_cons.mpr
      ⟨connects step member, fun other inside => connects other (included other inside)⟩

end Runs

/-! ### Connections that overlap -/

/-- The adapter connects, the gateway asks for a reconnect, and the adapter is stopped. -/
def singleGateway : List GatewayLabel :=
  [.connect, .token 0 true, .address 0 true, .payload 1 ⟨some 1, .ready (some "session")⟩,
    .payload 1 ⟨some 2, .reconnect⟩, .fired 2, .token 3 true, .address 3 true, .stop]

/-- A stop that comes while the adapter connects. -/
def stoppedGateway : List GatewayLabel :=
  [.connect, .token 0 true, .stop, .address 0 true]

theorem run_play_gateway (labels : List GatewayLabel) :
    Run qqGateway (play GatewayState.next [] {} labels).1 (play GatewayState.next [] {} labels).2 := by
  have started : Run qqGateway [] {} := .start rfl
  exact started.play fun _ _ _ => rfl

/-- A check of a step whose address comes to an adapter without a socket. -/
def checksAlone (step : Transition GatewayState GatewayLabel) : Bool :=
  match step.label with
  | .address id true =>
      (step.before.call? id .address).isNone ||
        !step.before.stopped && step.before.socket.isNone
  | _ => true

theorem connectsAlone_of_check {step : Transition GatewayState GatewayLabel}
    (checked : checksAlone step = true) : ConnectsAlone step := by
  obtain ⟨before, label, after⟩ := step
  rintro id call rfl waits
  dsimp only at waits ⊢
  simpa [checksAlone, waits] using checked

theorem qqGateway_single_reconnect :
    (play GatewayState.next [] {} singleGateway).2.stopped = true ∧
      ∀ step ∈ (play GatewayState.next [] {} singleGateway).1, step.after.Single := by
  refine ⟨by decide +kernel, (qqGateway_single_iff (run_play_gateway singleGateway)).mpr ?_⟩
  have checked : (play GatewayState.next [] {} singleGateway).1.all checksAlone = true := by
    decide +kernel
  exact fun step member => connectsAlone_of_check (List.all_eq_true.mp checked step member)

/-- The socket of a connect that was under way is opened after the stop, and stays open. -/
theorem stopped_gateway_opens_socket :
    ∃ history state, Run qqGateway history state ∧ state.stopped = true ∧
      state.openSockets = [1] ∧ state.late = [1] ∧ ¬state.Single := by
  refine ⟨_, _, run_play_gateway stoppedGateway, ?_⟩
  have late : (play GatewayState.next [] {} stoppedGateway).2.late = [1] := by decide +kernel
  refine ⟨by decide +kernel, by decide +kernel, late, fun single => ?_⟩
  rw [single.late] at late
  cases late

end BairuiPlatform
