/-
Module: BairuiPlatform.Channels.Callbacks
Purpose: Signed callbacks of WeChat that are verified, submitted and recorded in any order: when
  each of them is submitted once.
Trusted boundary: the message of a callback, what the platform answers and the clock are given with
  the steps; a timestamp is written in decimal digits
Main exports: CallbackKey, CallbackConfig, CallbackState, CallbackLabel, wechatCallbacks,
  CallbackState.Sound, KeepsRecords, wechatCallbacks_sound
-/
import BairuiPlatform.Foundations.Transition
import BairuiPlatform.JsText
import Mathlib.Data.List.Sort

namespace BairuiPlatform

open Foundations

/-! ### Signatures -/

/-- The timestamp of a callback in seconds, and its nonce: the key of its record. -/
structure CallbackKey where
  timestamp : Nat
  nonce : JsText
deriving Repr, DecidableEq

/-- The timestamp on the clock of the server. -/
def CallbackKey.time (key : CallbackKey) : Int :=
  key.timestamp * 1000

/-- A request with the signature of a callback. -/
structure CallbackRequest where
  key : CallbackKey
  signature : JsText

/-- The token of an adapter and the hash of its signatures, in hexadecimal digits. -/
structure CallbackConfig where
  token : JsText
  sha1 : JsText → JsText

/-- `SIGNATURE_WINDOW_MS`. -/
def signatureWindow : Int := 300000

/-- `signature`. -/
def CallbackConfig.signature (config : CallbackConfig) (key : CallbackKey) : JsText :=
  config.sha1 ([config.token, utf16 (toString key.timestamp), key.nonce].insertionSort
    (· ≤ ·)).flatten

/-- The signature of a request is right, and its timestamp near the clock. -/
def CallbackConfig.accepts (config : CallbackConfig) (request : CallbackRequest) (now : Int) :
    Bool :=
  request.signature ≠ [] && request.key.nonce ≠ [] &&
    request.key.time - now ≤ signatureWindow && now - request.key.time ≤ signatureWindow &&
    config.signature request.key = request.signature

/-! ### States -/

/-- What has happened to the callbacks: those that were submitted, those that were recorded with
the clock, and the readings of the clock. -/
structure CallbackRecord where
  submitted : List CallbackKey := []
  marked : List (CallbackKey × Int) := []
  readings : List Int := []

/-- Where a request that passed `verify` stands: it waits for its body, for the platform to take
its message, or for the report behind the first message. -/
inductive CallbackStage where
  | reading | submitting | reporting
deriving Repr, DecidableEq

/-- A request that is handled. -/
structure CallbackCall where
  id : Nat
  key : CallbackKey
  stage : CallbackStage
deriving Repr, DecidableEq

/-- What a request is answered. -/
inductive CallbackAnswer where
  | success | forbidden | invalid | failed
deriving Repr, DecidableEq

/-- A request that was answered. -/
structure AnsweredCallback where
  id : Nat
  key : CallbackKey
  answer : CallbackAnswer
deriving Repr, DecidableEq

/-- The adapter with its requests, what has happened, the requests whose submission failed, and the
answers. -/
structure CallbackState where
  replays : List (CallbackKey × Int) := []
  handshakeVerified : Bool := false
  calls : List CallbackCall := []
  nextId : Nat := 0
  record : CallbackRecord := {}
  failed : List Nat := []
  answers : List AnsweredCallback := []

/-- What the body of a request comes to: a message to submit, an invalid request, or a time that no
`Date` holds. -/
inductive BodyOutcome where
  | message | invalid | thrown
deriving Repr, DecidableEq

/-- What happens to the requests of callbacks. A request is known by its number. -/
inductive CallbackLabel where
  | post (request : CallbackRequest) (now purged : Int)
  | body (id : Nat) (outcome : BodyOutcome)
  | submitted (id : Nat) (accepted : Bool) (now : Int)
  | reported (id : Nat) (accepted : Bool) (now : Int)

namespace CallbackState

/-- `this.replays.has(key)`. -/
def hasReplay (state : CallbackState) (key : CallbackKey) : Bool :=
  state.replays.any fun replay => replay.1 = key

/-- A request under way. -/
def call? (state : CallbackState) (id : Nat) (stage : CallbackStage) : Option CallbackCall :=
  state.calls.find? fun call => call.id = id && call.stage = stage

/-- A request is answered and ends. -/
@[grind =] def answer (state : CallbackState) (call : CallbackCall) (answer : CallbackAnswer) :
    CallbackState :=
  { state with
    calls := state.calls.filter fun other => other.id ≠ call.id
    answers := { id := call.id, key := call.key, answer := answer } :: state.answers }

/-- A request whose handling throws. -/
@[grind =] def fail (state : CallbackState) (call : CallbackCall) : CallbackState :=
  { state.answer call .failed with failed := call.id :: state.failed }

/-- A request goes on. -/
@[grind =] def advance (state : CallbackState) (call : CallbackCall) (stage : CallbackStage) :
    CallbackState :=
  { state with
    calls := { call with stage := stage } :: state.calls.filter fun other => other.id ≠ call.id }

/-- The platform has taken the message of a request. -/
@[grind =] def take (state : CallbackState) (call : CallbackCall) : CallbackState :=
  { state with
    record := { state.record with submitted := call.key :: state.record.submitted } }

/-- `markReplay`. -/
@[grind =] def markReplay (state : CallbackState) (key : CallbackKey) (now : Int) : CallbackState :=
  { state with
    replays := (key, now + signatureWindow) :: state.replays.filter fun replay => replay.1 ≠ key
    record :=
      { state.record with
        marked := (key, now) :: state.record.marked, readings := now :: state.record.readings } }

/-- The records that have expired are dropped. -/
@[grind =] def purge (state : CallbackState) (now purged : Int) : CallbackState :=
  { state with
    replays := state.replays.filter fun replay => !decide (replay.2 < purged)
    record := { state.record with readings := purged :: now :: state.record.readings } }

/-- A request comes in: `verify`, which looks at the records before it drops those that have
expired, and `handle` up to the body of the request. -/
@[grind =] def post (config : CallbackConfig) (state : CallbackState) (request : CallbackRequest)
    (now purged : Int) : CallbackState :=
  if config.accepts request now then
    if state.hasReplay request.key then
      { state.purge now purged with
        nextId := state.nextId + 1
        answers :=
          { id := state.nextId, key := request.key, answer := .success } :: state.answers }
    else
      { state.purge now purged with
        nextId := state.nextId + 1
        calls :=
          { id := state.nextId, key := request.key, stage := .reading } :: state.calls }
  else
    { state with
      nextId := state.nextId + 1
      answers :=
        { id := state.nextId, key := request.key, answer := .forbidden } :: state.answers }

/-- The body of a request has been read. -/
def body (state : CallbackState) (id : Nat) (outcome : BodyOutcome) : CallbackState :=
  match state.call? id .reading with
  | none => state
  | some call =>
      match outcome with
      | .message => state.advance call .submitting
      | .invalid => state.answer call .invalid
      | .thrown => state.fail call

/-- The platform has answered a submission. -/
def submitted (state : CallbackState) (id : Nat) (accepted : Bool) (now : Int) : CallbackState :=
  match state.call? id .submitting with
  | none => state
  | some call =>
      if accepted then
        if state.handshakeVerified then
          ((state.take call).markReplay call.key now).answer call .success
        else
          { (state.take call).advance call .reporting with handshakeVerified := true }
      else state.fail call

/-- The platform has answered the report behind the first message. -/
def reported (state : CallbackState) (id : Nat) (accepted : Bool) (now : Int) : CallbackState :=
  match state.call? id .reporting with
  | none => state
  | some call =>
      if accepted then (state.markReplay call.key now).answer call .success
      else state.fail call

/-- The state after a step. -/
@[grind =] def next (config : CallbackConfig) : CallbackLabel → CallbackState → CallbackState
  | .post request now purged, state => state.post config request now purged
  | .body id outcome, state => state.body id outcome
  | .submitted id accepted now, state => state.submitted id accepted now
  | .reported id accepted now, state => state.reported id accepted now

end CallbackState

/-- Requests of callbacks that come in and go on in any order, with any readings of the clock. -/
def wechatCallbacks (config : CallbackConfig) : TransitionSystem CallbackState CallbackLabel where
  initial state := ∃ handshakeVerified, state = { handshakeVerified := handshakeVerified }
  step before label after := after = before.next config label

/-! ### Callbacks that are submitted once -/

/-- Every callback was submitted once at most, none is answered as a success that was not
submitted, a request whose submission failed is not, and a callback that was not submitted is not
taken for a repetition, so that it can be sent again. -/
structure CallbackState.Sound (state : CallbackState) : Prop where
  once : state.record.submitted.Nodup
  credited : ∀ answered ∈ state.answers, answered.answer = .success →
    answered.key ∈ state.record.submitted
  failed : ∀ id ∈ state.failed, ∀ answered ∈ state.answers, answered.id = id →
    answered.answer ≠ .success
  retriable : ∀ key, key ∉ state.record.submitted → state.hasReplay key = false

/-- The record that a step writes: the callback of a request that is answered as a success, and the
clock. -/
def CallbackState.marking (state : CallbackState) : CallbackLabel → Option (CallbackKey × Int)
  | .submitted id true now =>
      if state.handshakeVerified then (state.call? id .submitting).map fun call => (call.key, now)
      else none
  | .reported id true now => (state.call? id .reporting).map fun call => (call.key, now)
  | _ => none

/-- A step in which nothing comes between a submission and its record, and no record is written
before its time: when the platform takes the message of a request, no other request of the callback
is under way; while its report is awaited, none is accepted, and the report is taken; the record is
written at the timestamp of the callback or later; and the clock by which a request is accepted is
not set back behind an earlier reading. -/
structure KeepsRecords (config : CallbackConfig) (step : Transition CallbackState CallbackLabel) :
    Prop where
  alone : ∀ id now call, step.label = .submitted id true now →
    step.before.call? id .submitting = some call →
    ∀ other ∈ step.before.calls, other.key = call.key → other.id = call.id
  waits : ∀ request now purged, step.label = .post request now purged →
    config.accepts request now = true →
    ∀ call ∈ step.before.calls, call.stage = .reporting → call.key ≠ request.key
  reports : ∀ id now, step.label = .reported id false now →
    step.before.call? id .reporting = none
  inTime : ∀ key now, step.before.marking step.label = some (key, now) → key.time ≤ now
  forward : ∀ request now purged, step.label = .post request now purged →
    config.accepts request now = true →
    ∀ reading ∈ step.before.record.readings, reading ≤ now

/-! ### What every run keeps -/

/-- A record of a callback has been dropped by a later reading of the clock. -/
def CallbackRecord.HasExpired (record : CallbackRecord) (key : CallbackKey) : Prop :=
  ∃ marked reading, (key, marked) ∈ record.marked ∧ reading ∈ record.readings ∧
    marked + signatureWindow < reading

/-- What is known of the records in every state. -/
structure CallbackState.Recorded (state : CallbackState) : Prop where
  replays : ∀ replay ∈ state.replays, ∃ marked, (replay.1, marked) ∈ state.record.marked ∧
    replay.2 = marked + signatureWindow
  kept : ∀ entry ∈ state.record.marked,
    state.hasReplay entry.1 = true ∨ state.record.HasExpired entry.1
  marked : ∀ entry ∈ state.record.marked, entry.1 ∈ state.record.submitted
  reporting : ∀ call ∈ state.calls, call.stage = .reporting → call.key ∈ state.record.submitted
  credited : ∀ answered ∈ state.answers, answered.answer = .success →
    answered.key ∈ state.record.submitted

/-- What is known of the numbers of the requests in every state. -/
structure CallbackState.Numbered (state : CallbackState) : Prop where
  distinct : (state.calls.map (·.id)).Nodup
  calls : ∀ call ∈ state.calls, call.id < state.nextId
  answers : ∀ answered ∈ state.answers,
    answered.id < state.nextId ∧ answered.id ∉ state.calls.map (·.id)
  failed : ∀ id ∈ state.failed, id < state.nextId ∧ id ∉ state.calls.map (·.id) ∧
    ∀ answered ∈ state.answers, answered.id = id → answered.answer ≠ .success

namespace CallbackState

variable {state : CallbackState} {call : CallbackCall}

theorem mem_of_call? {id : Nat} {stage : CallbackStage}
    (found : state.call? id stage = some call) :
    call ∈ state.calls ∧ call.id = id ∧ call.stage = stage := by
  refine ⟨List.mem_of_find?_eq_some found, ?_⟩
  simpa using List.find?_some found

theorem hasReplay_iff {key : CallbackKey} :
    state.hasReplay key = true ↔ ∃ replay ∈ state.replays, replay.1 = key := by
  simp [hasReplay]

/-! Each part of a step keeps the records. -/

theorem Recorded.answer (recorded : state.Recorded) (answer : CallbackAnswer)
    (honest : answer = .success → call.key ∈ state.record.submitted) :
    (state.answer call answer).Recorded where
  replays := recorded.replays
  kept := recorded.kept
  marked := recorded.marked
  reporting other member := recorded.reporting other (List.mem_of_mem_filter member)
  credited := List.forall_mem_cons.mpr ⟨honest, recorded.credited⟩

theorem Recorded.fail (recorded : state.Recorded) (call : CallbackCall) :
    (state.fail call).Recorded := by
  have answered : (state.answer call .failed).Recorded := recorded.answer .failed nofun
  exact { answered with }

theorem Recorded.advance (recorded : state.Recorded) {stage : CallbackStage}
    (reporting : stage = .reporting → call.key ∈ state.record.submitted) :
    (state.advance call stage).Recorded where
  replays := recorded.replays
  kept := recorded.kept
  marked := recorded.marked
  reporting := List.forall_mem_cons.mpr
    ⟨reporting, fun other inside => recorded.reporting other (List.mem_of_mem_filter inside)⟩
  credited := recorded.credited

theorem Recorded.take (recorded : state.Recorded) : (state.take call).Recorded where
  replays := recorded.replays
  kept := recorded.kept
  marked entry member := List.mem_cons_of_mem _ (recorded.marked entry member)
  reporting other member reports := List.mem_cons_of_mem _ (recorded.reporting other member reports)
  credited answered member success :=
    List.mem_cons_of_mem _ (recorded.credited answered member success)

theorem HasExpired.mono {record record' : CallbackRecord} {key : CallbackKey}
    (expired : record.HasExpired key) (marked : ∀ entry ∈ record.marked, entry ∈ record'.marked)
    (readings : ∀ reading ∈ record.readings, reading ∈ record'.readings) :
    record'.HasExpired key := by
  obtain ⟨at_, reading, recorded, read, passed⟩ := expired
  exact ⟨at_, reading, marked _ recorded, readings _ read, passed⟩

theorem Recorded.markReplay (recorded : state.Recorded) {key : CallbackKey}
    (submitted : key ∈ state.record.submitted) (now : Int) :
    (state.markReplay key now).Recorded where
  replays := by
    refine List.forall_mem_cons.mpr ⟨⟨now, List.mem_cons_self, rfl⟩, fun replay member => ?_⟩
    obtain ⟨at_, marked, expiry⟩ := recorded.replays replay (List.mem_of_mem_filter member)
    exact ⟨at_, List.mem_cons_of_mem _ marked, expiry⟩
  kept := by
    have here : (state.markReplay key now).hasReplay key = true :=
      hasReplay_iff.mpr ⟨_, List.mem_cons_self, rfl⟩
    refine List.forall_mem_cons.mpr ⟨.inl here, fun entry member => ?_⟩
    by_cases same : entry.1 = key
    · rw [same]
      exact .inl here
    · refine (recorded.kept entry member).imp (fun kept => ?_) fun expired =>
        HasExpired.mono expired (fun _ => List.mem_cons_of_mem _) fun _ => List.mem_cons_of_mem _
      obtain ⟨replay, inside, isKey⟩ := hasReplay_iff.mp kept
      refine hasReplay_iff.mpr ⟨replay, List.mem_cons_of_mem _ ?_, isKey⟩
      exact List.mem_filter.mpr ⟨inside, by simpa [isKey] using same⟩
  marked := List.forall_mem_cons.mpr ⟨submitted, recorded.marked⟩
  reporting := recorded.reporting
  credited := recorded.credited

theorem Recorded.purge (recorded : state.Recorded) (now purged : Int) :
    (state.purge now purged).Recorded where
  replays replay member := recorded.replays replay (List.mem_of_mem_filter member)
  kept := by
    intro entry member
    rcases recorded.kept entry member with kept | expired
    · obtain ⟨replay, inside, isKey⟩ := hasReplay_iff.mp kept
      by_cases passed : replay.2 < purged
      · obtain ⟨at_, marked, expiry⟩ := recorded.replays replay inside
        refine .inr ⟨at_, purged, isKey ▸ marked, List.mem_cons_self, ?_⟩
        rw [← expiry]
        exact passed
      · exact .inl (hasReplay_iff.mpr
          ⟨replay, List.mem_filter.mpr ⟨inside, by simp [passed]⟩, isKey⟩)
    · exact .inr (HasExpired.mono expired (fun _ member => member) fun reading read =>
        List.mem_cons_of_mem _ (List.mem_cons_of_mem _ read))
  marked := recorded.marked
  reporting := recorded.reporting
  credited := recorded.credited

/-- What is taken for a repetition was submitted. -/
theorem Recorded.mem_submitted (recorded : state.Recorded) {key : CallbackKey}
    (replay : state.hasReplay key = true) : key ∈ state.record.submitted := by
  obtain ⟨replay, inside, isKey⟩ := hasReplay_iff.mp replay
  obtain ⟨at_, marked, -⟩ := recorded.replays replay inside
  have known := recorded.marked (replay.1, at_) marked
  rw [← isKey]
  exact known

theorem Recorded.post (recorded : state.Recorded) (config : CallbackConfig)
    (request : CallbackRequest) (now purged : Int) :
    (state.post config request now purged).Recorded := by
  have purged_ := recorded.purge now purged
  unfold CallbackState.post
  split
  · split
    · rename_i replay
      exact { purged_ with
        credited := List.forall_mem_cons.mpr
          ⟨fun _ => recorded.mem_submitted replay, recorded.credited⟩ }
    · exact { purged_ with
        reporting := List.forall_mem_cons.mpr ⟨nofun, recorded.reporting⟩ }
  · exact { recorded with credited := List.forall_mem_cons.mpr ⟨nofun, recorded.credited⟩ }

/-- A step keeps the records. -/
theorem Recorded.next (recorded : state.Recorded) (config : CallbackConfig)
    (label : CallbackLabel) : (CallbackState.next config label state).Recorded := by
  cases label with
  | post request now purged => exact recorded.post config request now purged
  | body id outcome =>
      simp only [CallbackState.next, CallbackState.body]
      cases found : state.call? id .reading with
      | none => exact recorded
      | some call =>
          cases outcome with
          | message => exact recorded.advance nofun
          | invalid => exact recorded.answer .invalid nofun
          | thrown => exact recorded.fail call
  | submitted id accepted now =>
      simp only [CallbackState.next, CallbackState.submitted]
      cases found : state.call? id .submitting with
      | none => exact recorded
      | some call =>
          have taken : (state.take call).Recorded := recorded.take
          have credited : call.key ∈ (state.take call).record.submitted := List.mem_cons_self
          dsimp only
          split
          · split
            · exact (taken.markReplay credited now).answer .success fun _ => credited
            · have advanced : ((state.take call).advance call .reporting).Recorded :=
                taken.advance fun _ => credited
              exact { advanced with }
          · exact recorded.fail call
  | reported id accepted now =>
      simp only [CallbackState.next, CallbackState.reported]
      cases found : state.call? id .reporting with
      | none => exact recorded
      | some call =>
          obtain ⟨member, -, stage⟩ := mem_of_call? found
          have submitted := recorded.reporting call member stage
          dsimp only
          split
          · exact (recorded.markReplay submitted now).answer .success fun _ => submitted
          · exact recorded.fail call

/-! Each part of a step keeps the numbers. -/

theorem mem_ids_filter {calls : List CallbackCall} {id other : Nat}
    (member : other ∈ (calls.filter fun call => call.id ≠ id).map (·.id)) :
    other ∈ calls.map (·.id) ∧ other ≠ id := by
  obtain ⟨call, inside, rfl⟩ := List.mem_map.mp member
  obtain ⟨known, differs⟩ := List.mem_filter.mp inside
  exact ⟨List.mem_map_of_mem known, by simpa using differs⟩

theorem mem_ids_advance (member : call ∈ state.calls) {stage : CallbackStage} {id : Nat}
    (known : id ∈ (state.advance call stage).calls.map (·.id)) : id ∈ state.calls.map (·.id) := by
  rcases List.mem_cons.mp known with same | later
  · have own : call.id ∈ state.calls.map (·.id) := List.mem_map_of_mem member
    rw [same]
    exact own
  · exact (mem_ids_filter later).1

theorem Numbered.answer (numbered : state.Numbered) (member : call ∈ state.calls)
    (answer : CallbackAnswer) : (state.answer call answer).Numbered where
  distinct := numbered.distinct.sublist (List.filter_sublist.map _)
  calls other inside := numbered.calls other (List.mem_of_mem_filter inside)
  answers := List.forall_mem_cons.mpr
    ⟨⟨numbered.calls call member, fun inside => (mem_ids_filter inside).2 rfl⟩,
      fun answered inside => ⟨(numbered.answers answered inside).1, fun known =>
        (numbered.answers answered inside).2 (mem_ids_filter known).1⟩⟩
  failed id inside := by
    obtain ⟨early, ended, honest⟩ := numbered.failed id inside
    refine ⟨early, fun known => ended (mem_ids_filter known).1,
      List.forall_mem_cons.mpr ⟨fun same => ?_, honest⟩⟩
    exact absurd (same ▸ List.mem_map_of_mem member) ended

theorem Numbered.fail (numbered : state.Numbered) (member : call ∈ state.calls) :
    (state.fail call).Numbered := by
  have answered := numbered.answer member .failed
  refine { answered with failed := List.forall_mem_cons.mpr ⟨?_, answered.failed⟩ }
  refine ⟨numbered.calls call member, fun inside => (mem_ids_filter inside).2 rfl,
    List.forall_mem_cons.mpr ⟨nofun, fun other inside same => ?_⟩⟩
  exact absurd (same ▸ List.mem_map_of_mem member) (numbered.answers other inside).2

theorem Numbered.advance (numbered : state.Numbered) (member : call ∈ state.calls)
    (stage : CallbackStage) : (state.advance call stage).Numbered where
  distinct := by
    refine List.nodup_cons.mpr ⟨fun inside => (mem_ids_filter inside).2 rfl, ?_⟩
    exact numbered.distinct.sublist (List.filter_sublist.map _)
  calls := List.forall_mem_cons.mpr ⟨numbered.calls call member,
    fun other inside => numbered.calls other (List.mem_of_mem_filter inside)⟩
  answers answered inside := by
    obtain ⟨early, ended⟩ := numbered.answers answered inside
    exact ⟨early, fun known => ended (mem_ids_advance member known)⟩
  failed id inside := by
    obtain ⟨early, ended, honest⟩ := numbered.failed id inside
    exact ⟨early, fun known => ended (mem_ids_advance member known), honest⟩

/-- A new number is given to every request that comes in. -/
theorem Numbered.post (numbered : state.Numbered) (config : CallbackConfig)
    (request : CallbackRequest) (now purged : Int) :
    (state.post config request now purged).Numbered := by
  have calls : ∀ call ∈ state.calls, call.id < state.nextId + 1 := fun call member =>
    Nat.lt_succ_of_lt (numbered.calls call member)
  have unused : state.nextId ∉ state.calls.map (·.id) := by
    intro member
    obtain ⟨call, inside, same⟩ := List.mem_map.mp member
    exact absurd (numbered.calls call inside) (by rw [same]; exact Nat.lt_irrefl _)
  have answers : ∀ answered ∈ state.answers,
      answered.id < state.nextId + 1 ∧ answered.id ∉ state.calls.map (·.id) := fun answered member =>
    ⟨Nat.lt_succ_of_lt (numbered.answers answered member).1, (numbered.answers answered member).2⟩
  -- A request that is answered at once has a number that no failed request has.
  have failed (key : CallbackKey) (answer : CallbackAnswer) : ∀ id ∈ state.failed,
      id < state.nextId + 1 ∧ id ∉ state.calls.map (·.id) ∧
        ∀ answered ∈ { id := state.nextId, key := key, answer := answer } :: state.answers,
          answered.id = id → answered.answer ≠ .success := by
    intro id member
    obtain ⟨early, ended, honest⟩ := numbered.failed id member
    refine ⟨Nat.lt_succ_of_lt early, ended, List.forall_mem_cons.mpr ⟨fun same => ?_, honest⟩⟩
    exact absurd early (by rw [← same]; exact Nat.lt_irrefl _)
  unfold CallbackState.post
  split
  · split
    · exact ⟨numbered.distinct, calls,
        List.forall_mem_cons.mpr ⟨⟨Nat.lt_succ_self _, unused⟩, answers⟩, failed _ _⟩
    · refine ⟨List.nodup_cons.mpr ⟨unused, numbered.distinct⟩,
        List.forall_mem_cons.mpr ⟨Nat.lt_succ_self _, calls⟩, fun answered member => ?_,
        fun id member => ?_⟩
      · obtain ⟨early, ended⟩ := numbered.answers answered member
        refine ⟨Nat.lt_succ_of_lt early, fun known => ?_⟩
        exact (List.mem_cons.mp known).elim (Nat.ne_of_lt early) ended
      · obtain ⟨early, ended, honest⟩ := numbered.failed id member
        refine ⟨Nat.lt_succ_of_lt early, fun known => ?_, honest⟩
        exact (List.mem_cons.mp known).elim (Nat.ne_of_lt early) ended
  · exact ⟨numbered.distinct, calls,
      List.forall_mem_cons.mpr ⟨⟨Nat.lt_succ_self _, unused⟩, answers⟩, failed _ _⟩

/-- A step keeps the numbers. -/
theorem Numbered.next (numbered : state.Numbered) (config : CallbackConfig)
    (label : CallbackLabel) : (CallbackState.next config label state).Numbered := by
  cases label with
  | post request now purged => exact numbered.post config request now purged
  | body id outcome =>
      simp only [CallbackState.next, CallbackState.body]
      cases found : state.call? id .reading with
      | none => exact numbered
      | some call =>
          have member := (mem_of_call? found).1
          cases outcome with
          | message => exact numbered.advance member .submitting
          | invalid => exact numbered.answer member .invalid
          | thrown => exact numbered.fail member
  | submitted id accepted now =>
      simp only [CallbackState.next, CallbackState.submitted]
      cases found : state.call? id .submitting with
      | none => exact numbered
      | some call =>
          have member := (mem_of_call? found).1
          dsimp only
          split
          · split
            · exact { numbered.answer member .success with }
            · exact { numbered.advance member .reporting with }
          · exact numbered.fail member
  | reported id accepted now =>
      simp only [CallbackState.next, CallbackState.reported]
      cases found : state.call? id .reporting with
      | none => exact numbered
      | some call =>
          have member := (mem_of_call? found).1
          dsimp only
          split
          · exact { numbered.answer member .success with }
          · exact numbered.fail member

end CallbackState

section Runs

variable {config : CallbackConfig} {history : List (Transition CallbackState CallbackLabel)}
  {state : CallbackState}

theorem recorded_of_run (run : Run (wechatCallbacks config) history state) : state.Recorded := by
  refine run.invariant CallbackState.Recorded ?_ ?_
  · rintro state ⟨handshakeVerified, rfl⟩
    exact ⟨nofun, nofun, nofun, nofun, nofun⟩
  · rintro before label after recorded rfl
    exact recorded.next config label

theorem numbered_of_run (run : Run (wechatCallbacks config) history state) : state.Numbered := by
  refine run.invariant CallbackState.Numbered ?_ ?_
  · rintro state ⟨handshakeVerified, rfl⟩
    exact ⟨List.nodup_nil, nofun, nofun, nofun⟩
  · rintro before label after numbered rfl
    exact numbered.next config label

/-- In every run only the number of submissions is in question. -/
theorem sound_iff_once (run : Run (wechatCallbacks config) history state) :
    state.Sound ↔ state.record.submitted.Nodup := by
  have recorded := recorded_of_run run
  have numbered := numbered_of_run run
  refine ⟨CallbackState.Sound.once, fun once => ⟨once, recorded.credited,
    fun id member => (numbered.failed id member).2.2, fun key new => ?_⟩⟩
  rw [← Bool.not_eq_true]
  exact fun replay => new (recorded.mem_submitted replay)

end Runs

/-! ### Runs that keep the records -/

/-- What is known of the callbacks as long as the steps keep the records: a request that was not
taken is of a callback that was not submitted, and a callback that was submitted is recorded, at its
timestamp or later, or its report is awaited. -/
structure CallbackState.Guarded (state : CallbackState) : Prop where
  once : state.record.submitted.Nodup
  fresh : ∀ call ∈ state.calls, call.stage ≠ .reporting → call.key ∉ state.record.submitted
  written : ∀ key ∈ state.record.submitted,
    (∃ call ∈ state.calls, call.stage = .reporting ∧ call.key = key) ∨
      ∃ now, (key, now) ∈ state.record.marked
  inTime : ∀ entry ∈ state.record.marked, entry.1.time ≤ entry.2

namespace CallbackState

variable {config : CallbackConfig} {state : CallbackState} {call : CallbackCall}

/-- The end of a request leaves those in another stage. -/
theorem Numbered.mem_filter (numbered : state.Numbered) (member : call ∈ state.calls)
    {other : CallbackCall} (inside : other ∈ state.calls) (differs : other.stage ≠ call.stage) :
    other ∈ state.calls.filter fun other => other.id ≠ call.id := by
  refine List.mem_filter.mpr ⟨inside, decide_eq_true fun same => differs ?_⟩
  rw [List.inj_on_of_nodup_map numbered.distinct inside member same]

/-- A request that is not awaiting its report ends without a submission. -/
theorem Guarded.drop (guarded : state.Guarded) (numbered : state.Numbered)
    (member : call ∈ state.calls) (stage : call.stage ≠ .reporting) (answer : CallbackAnswer) :
    (state.answer call answer).Guarded where
  once := guarded.once
  fresh other inside := guarded.fresh other (List.mem_of_mem_filter inside)
  written key submitted := by
    refine (guarded.written key submitted).imp_left ?_
    rintro ⟨other, inside, reports, isKey⟩
    refine ⟨other, numbered.mem_filter member inside ?_, reports, isKey⟩
    rw [reports]
    exact stage.symm
  inTime := guarded.inTime

theorem Guarded.fail (guarded : state.Guarded) (numbered : state.Numbered)
    (member : call ∈ state.calls) (stage : call.stage ≠ .reporting) : (state.fail call).Guarded := by
  have dropped := guarded.drop numbered member stage .failed
  exact { dropped with }

/-- A callback that is accepted and not recorded was not submitted. -/
theorem Guarded.not_mem_submitted (guarded : state.Guarded) (recorded : state.Recorded)
    {request : CallbackRequest} {now : Int} (accepted : config.accepts request now = true)
    (new : state.hasReplay request.key ≠ true)
    (waits : ∀ call ∈ state.calls, call.stage = .reporting → call.key ≠ request.key)
    (forward : ∀ reading ∈ state.record.readings, reading ≤ now) :
    request.key ∉ state.record.submitted := by
  intro submitted
  rcases guarded.written _ submitted with ⟨call, inside, reports, isKey⟩ | ⟨at_, marked⟩
  · exact waits call inside reports isKey
  · -- Its record has expired, so the timestamp is too old.
    have expired : state.record.HasExpired request.key := (recorded.kept _ marked).resolve_left new
    obtain ⟨first, reading, entry, read, passed⟩ := expired
    have late : request.key.time ≤ first := guarded.inTime (request.key, first) entry
    have early := forward reading read
    simp only [CallbackConfig.accepts, Bool.and_eq_true, decide_eq_true_eq] at accepted
    have near := accepted.1.2
    omega

theorem Guarded.post (guarded : state.Guarded) (recorded : state.Recorded)
    {request : CallbackRequest} {now : Int} (purged : Int)
    (waits : config.accepts request now = true →
      ∀ call ∈ state.calls, call.stage = .reporting → call.key ≠ request.key)
    (forward : config.accepts request now = true →
      ∀ reading ∈ state.record.readings, reading ≤ now) :
    (state.post config request now purged).Guarded := by
  unfold CallbackState.post
  split
  · rename_i accepted
    split
    · exact { guarded with }
    · rename_i new
      have unsubmitted := guarded.not_mem_submitted recorded accepted new (waits accepted)
        (forward accepted)
      refine { guarded with
        fresh := List.forall_mem_cons.mpr ⟨fun _ => unsubmitted, guarded.fresh⟩
        written := fun key submitted => (guarded.written key submitted).imp_left ?_ }
      rintro ⟨call, inside, reports⟩
      exact ⟨call, List.mem_cons_of_mem _ inside, reports⟩
  · exact { guarded with }

/-- The body of a request is a message. -/
theorem Guarded.advance (guarded : state.Guarded) (numbered : state.Numbered)
    (member : call ∈ state.calls) (stage : call.stage ≠ .reporting) :
    (state.advance call .submitting).Guarded where
  once := guarded.once
  fresh := List.forall_mem_cons.mpr ⟨fun _ => guarded.fresh call member stage,
    fun other inside => guarded.fresh other (List.mem_of_mem_filter inside)⟩
  written key submitted := by
    refine (guarded.written key submitted).imp_left ?_
    rintro ⟨other, inside, reports, isKey⟩
    refine ⟨other, List.mem_cons_of_mem _ (numbered.mem_filter member inside ?_), reports, isKey⟩
    rw [reports]
    exact stage.symm
  inTime := guarded.inTime

section Taken

variable (guarded : state.Guarded) (numbered : state.Numbered) (member : call ∈ state.calls)
  (stage : call.stage = .submitting)
  (alone : ∀ other ∈ state.calls, other.key = call.key → other.id = call.id)

include guarded member stage in
theorem Guarded.once_take : (state.take call).record.submitted.Nodup :=
  List.nodup_cons.mpr ⟨guarded.fresh call member (by rw [stage]; exact nofun), guarded.once⟩

include guarded alone in
/-- The other requests are of callbacks that were not submitted. -/
theorem Guarded.fresh_take : ∀ other ∈ state.calls.filter (fun other => other.id ≠ call.id),
    other.stage ≠ .reporting → other.key ∉ (state.take call).record.submitted := by
  intro other inside waiting submitted
  obtain ⟨known, differs⟩ := List.mem_filter.mp inside
  rcases List.mem_cons.mp submitted with same | earlier
  · exact of_decide_eq_true differs (alone other known same)
  · exact guarded.fresh other known waiting earlier

include guarded numbered member stage in
/-- The callbacks that were submitted before are still recorded, or their reports awaited. -/
theorem Guarded.written_take : ∀ key ∈ state.record.submitted,
    (∃ other ∈ state.calls.filter (fun other => other.id ≠ call.id),
      other.stage = .reporting ∧ other.key = key) ∨ ∃ now, (key, now) ∈ state.record.marked := by
  intro key submitted
  refine (guarded.written key submitted).imp_left ?_
  rintro ⟨other, inside, reports, isKey⟩
  refine ⟨other, numbered.mem_filter member inside ?_, reports, isKey⟩
  rw [reports, stage]
  exact nofun

include guarded numbered member stage alone in
/-- A message is taken, and its callback recorded. -/
theorem Guarded.take_mark {now : Int} (inTime : call.key.time ≤ now) :
    (((state.take call).markReplay call.key now).answer call .success).Guarded where
  once := guarded.once_take member stage
  fresh := guarded.fresh_take alone
  written := List.forall_mem_cons.mpr ⟨.inr ⟨now, List.mem_cons_self⟩, fun key submitted =>
    (guarded.written_take numbered member stage key submitted).imp_right
      fun ⟨at_, marked⟩ => ⟨at_, List.mem_cons_of_mem _ marked⟩⟩
  inTime := List.forall_mem_cons.mpr ⟨inTime, guarded.inTime⟩

include guarded numbered member stage alone in
/-- A message is taken, and the report behind it awaited. -/
theorem Guarded.take_report : ((state.take call).advance call .reporting).Guarded where
  once := guarded.once_take member stage
  fresh := List.forall_mem_cons.mpr ⟨fun waiting => absurd rfl waiting, guarded.fresh_take alone⟩
  written := List.forall_mem_cons.mpr ⟨.inl ⟨_, List.mem_cons_self, rfl, rfl⟩,
    fun key submitted => (guarded.written_take numbered member stage key submitted).imp_left
      fun ⟨other, inside, reports⟩ => ⟨other, List.mem_cons_of_mem _ inside, reports⟩⟩
  inTime := guarded.inTime

end Taken

/-- A report is taken, and its callback recorded. -/
theorem Guarded.report_mark (guarded : state.Guarded) (numbered : state.Numbered)
    (member : call ∈ state.calls) {now : Int} (inTime : call.key.time ≤ now) :
    ((state.markReplay call.key now).answer call .success).Guarded where
  once := guarded.once
  fresh other inside := guarded.fresh other (List.mem_of_mem_filter inside)
  written key submitted := by
    by_cases own : key = call.key
    · exact .inr ⟨now, own ▸ List.mem_cons_self⟩
    · rcases guarded.written key submitted with ⟨other, inside, reports, isKey⟩ | ⟨at_, marked⟩
      · refine .inl ⟨other, List.mem_filter.mpr ⟨inside, decide_eq_true fun same => own ?_⟩,
          reports, isKey⟩
        rw [← isKey, List.inj_on_of_nodup_map numbered.distinct inside member same]
      · exact .inr ⟨at_, List.mem_cons_of_mem _ marked⟩
  inTime := List.forall_mem_cons.mpr ⟨inTime, guarded.inTime⟩

/-- A step that keeps the records keeps what is known of the callbacks. -/
theorem Guarded.next (guarded : state.Guarded) (recorded : state.Recorded)
    (numbered : state.Numbered) {label : CallbackLabel} {after : CallbackState}
    (keeps : KeepsRecords config ⟨state, label, after⟩) :
    (CallbackState.next config label state).Guarded := by
  cases label with
  | post request now purged =>
      exact guarded.post recorded purged (keeps.waits request now purged rfl)
        (keeps.forward request now purged rfl)
  | body id outcome =>
      simp only [CallbackState.next, CallbackState.body]
      cases found : state.call? id .reading with
      | none => exact guarded
      | some call =>
          obtain ⟨member, -, stage⟩ := mem_of_call? found
          have waiting : call.stage ≠ .reporting := by
            rw [stage]
            exact nofun
          cases outcome with
          | message => exact guarded.advance numbered member waiting
          | invalid => exact guarded.drop numbered member waiting .invalid
          | thrown => exact guarded.fail numbered member waiting
  | submitted id accepted now =>
      simp only [CallbackState.next, CallbackState.submitted]
      cases found : state.call? id .submitting with
      | none => exact guarded
      | some call =>
          obtain ⟨member, -, stage⟩ := mem_of_call? found
          dsimp only
          cases accepted with
          | false =>
              rw [if_neg Bool.false_ne_true]
              exact guarded.fail numbered member (by rw [stage]; exact nofun)
          | true =>
              have alone := keeps.alone id now call rfl found
              rw [if_pos rfl]
              split
              · rename_i verified
                have inTime := keeps.inTime call.key now (by
                  simp only [marking, found, if_pos verified, Option.map_some])
                exact guarded.take_mark numbered member stage alone inTime
              · have taken := guarded.take_report numbered member stage alone
                exact { taken with }
  | reported id accepted now =>
      simp only [CallbackState.next, CallbackState.reported]
      cases found : state.call? id .reporting with
      | none => exact guarded
      | some call =>
          have member := (mem_of_call? found).1
          dsimp only
          cases accepted with
          | false => exact absurd (keeps.reports id now rfl) (by rw [found]; exact nofun)
          | true =>
              have inTime := keeps.inTime call.key now (by
                simp only [marking, found, Option.map_some])
              rw [if_pos rfl]
              exact guarded.report_mark numbered member inTime

end CallbackState

/-- The adapter of a token, with the hash of the callback below. -/
def sampleConfig : CallbackConfig where
  token := utf16 "verify_wechat"
  sha1 _ := utf16 "1b6c02cf74fbc395a97c5e63cf58cd724689f3b7"

/-- A request of a callback. -/
def sampleCallback : CallbackRequest where
  key := { timestamp := 1700000000, nonce := utf16 "nonce_1" }
  signature := utf16 "1b6c02cf74fbc395a97c5e63cf58cd724689f3b7"

/-- A callback that is submitted and recorded. -/
def singleCallback : List CallbackLabel :=
  [.post sampleCallback 1700000001000 1700000001000, .body 0 .message,
    .submitted 0 true 1700000002000]

/-- A callback that comes in again while it is submitted. -/
def repeatedCallback : List CallbackLabel :=
  [.post sampleCallback 1700000001000 1700000001000, .body 0 .message,
    .post sampleCallback 1700000001500 1700000001500, .body 1 .message,
    .submitted 0 true 1700000002000, .submitted 1 true 1700000002500]

theorem run_play_callbacks (labels : List CallbackLabel) :
    Run (wechatCallbacks sampleConfig)
      (play (CallbackState.next sampleConfig) [] { handshakeVerified := true } labels).1
      (play (CallbackState.next sampleConfig) [] { handshakeVerified := true } labels).2 := by
  have started : Run (wechatCallbacks sampleConfig) [] { handshakeVerified := true } :=
    .start ⟨true, rfl⟩
  exact started.play fun _ _ _ => rfl

end BairuiPlatform
