/-
Module: BairuiPlatform.Runtimes.AgentRuns
Purpose: Runs of an agent: their rows, and synchronizeAgentRun calls that read a run, wait for
  the runtime and write its answer, in any order.
Trusted boundary: the agent of a run and its owner exist
Main exports: AgentRunStatus, AgentRun, createAgentRun, getAgentRun, updateAgentRun,
  agentRunError, AgentRunPoll, agentRuns, EndsOnce, Repeats, agentRuns_end_once_iff
-/
import BairuiPlatform.Clock
import BairuiPlatform.Foundations.Table
import BairuiPlatform.Foundations.Transition
import BairuiPlatform.JsData
import BairuiPlatform.Schema

namespace BairuiPlatform

open Foundations

/-! ### Rows -/

/-- `AGENT_RUN_STATUSES`. -/
inductive AgentRunStatus where
  | started | queued | running | waitingForApproval | stopping | completed | failed | cancelled
  | unknown
deriving Repr, DecidableEq

/-- The text of a status. -/
def AgentRunStatus.name : AgentRunStatus → String
  | started => "started"
  | queued => "queued"
  | running => "running"
  | waitingForApproval => "waiting_for_approval"
  | stopping => "stopping"
  | completed => "completed"
  | failed => "failed"
  | cancelled => "cancelled"
  | unknown => "unknown"

/-- The statuses, in the order of the source. -/
def agentRunStatuses : List AgentRunStatus :=
  [.started, .queued, .running, .waitingForApproval, .stopping, .completed, .failed, .cancelled,
    .unknown]

/-- `AGENT_RUN_STATUSES.has(value)`, with the status. -/
def AgentRunStatus.of? (value : Option JsData) : Option AgentRunStatus := do
  let text ← value.bind JsData.text?
  agentRunStatuses.find? fun status => utf16 status.name = text

/-- `TERMINAL_AGENT_RUN_STATUSES.has(status)`. -/
def AgentRunStatus.isTerminal : AgentRunStatus → Bool
  | completed | failed | cancelled => true
  | _ => false

/-- `agent_runs`. -/
structure AgentRun where
  id : JsText
  organizationId : String
  userId : String
  agentId : String
  parentRunId : Option JsText
  inputText : JsText
  model : Option JsText
  status : AgentRunStatus
  lastError : Option JsText
  createdAt : Nat
  updatedAt : Nat
  completedAt : Option Nat
deriving DecidableEq

/-- What a run has come to. -/
structure RunOutcome where
  status : AgentRunStatus
  lastError : Option JsText
  completedAt : Option Nat
deriving DecidableEq

/-- What the row tells of it. -/
def AgentRun.outcome (run : AgentRun) : RunOutcome :=
  { status := run.status, lastError := run.lastError, completedAt := run.completedAt }

/-! ### The repositories -/

/-- A text as the repository keeps it. A column refuses the null character. -/
def Repository.kept? (repository : Repository) (text : JsText) : Option JsText :=
  match repository with
  | .memory => some text
  | .postgres => if text.contains 0 then none else some text.toWellFormed

/-- A text or null as the repository keeps it. -/
def Repository.keptOrNull? (repository : Repository) : Option JsText → Option (Option JsText)
  | none => some none
  | some text => (repository.kept? text).map some

/-- What `createAgentRun` is given. -/
structure AgentRunInput where
  id : JsText
  organizationId : String
  userId : String
  agentId : String
  parentRunId : Option JsText := none
  inputText : JsText
  model : Option JsText := none
  status : Option AgentRunStatus := none
  lastError : Option JsText := none
  completedAt : Option Nat := none

/-- The reference from a run to the run that it tries again. -/
def parentExists (repository : Repository) (parentRunId : Option JsText) (runs : List AgentRun) :
    Bool :=
  match repository, parentRunId with
  | .postgres, some parent => runs.any fun run => run.id = parent
  | _, _ => true

/-- `createAgentRun`: the run and the table, or nothing when it throws. -/
def createAgentRun (repository : Repository) (now : Nat) (input : AgentRunInput)
    (runs : List AgentRun) : Option (AgentRun × List AgentRun) := do
  let id ← repository.kept? input.id
  let parentRunId ← repository.keptOrNull? input.parentRunId
  let inputText ← repository.kept? input.inputText
  let model ← repository.keptOrNull? input.model
  let lastError ← repository.keptOrNull? input.lastError
  if runs.any (fun run => run.id = id) then none
  else if parentExists repository parentRunId runs then
    let value : AgentRun :=
      { id := id, organizationId := input.organizationId, userId := input.userId
        agentId := input.agentId, parentRunId := parentRunId, inputText := inputText
        model := model, status := input.status.getD .started, lastError := lastError
        createdAt := now, updatedAt := now, completedAt := input.completedAt }
    some (value, runs ++ [value])
  else none

/-- Which run a request means: a run of an agent of its user. The path of a request is in
ASCII. -/
structure AgentRunQuery where
  organizationId : String
  userId : String
  agentId : String
  runId : JsText
deriving DecidableEq

/-- The run is the one that the request means. -/
def AgentRunQuery.isRun (query : AgentRunQuery) (run : AgentRun) : Bool :=
  run.id = query.runId && run.organizationId = query.organizationId &&
    run.userId = query.userId && run.agentId = query.agentId

/-- `getAgentRun`. -/
def getAgentRun (query : AgentRunQuery) (runs : List AgentRun) : Option AgentRun :=
  runs.find? query.isRun

/-- What `updateAgentRun` is given. A field may be undefined, and two may be null. -/
structure AgentRunUpdate where
  query : AgentRunQuery
  status : Option AgentRunStatus := none
  lastError : Option (Option JsText) := none
  completedAt : Option (Option Nat) := none

/-- The run after an update, given the error as the repository keeps it. -/
def AgentRunUpdate.apply (input : AgentRunUpdate) (lastError : Option (Option JsText)) (now : Nat)
    (run : AgentRun) : AgentRun :=
  { run with
    status := input.status.getD run.status
    lastError := lastError.getD run.lastError
    completedAt := input.completedAt.getD run.completedAt
    updatedAt := now }

/-- The error of an update as the repository keeps it. -/
def AgentRunUpdate.keptError? (repository : Repository) (input : AgentRunUpdate) :
    Option (Option (Option JsText)) :=
  match input.lastError with
  | none => some none
  | some lastError => (repository.keptOrNull? lastError).map some

/-- `updateAgentRun`: the run, if there is one, and the table, or nothing when it throws. -/
def updateAgentRun (repository : Repository) (now : Nat) (input : AgentRunUpdate)
    (runs : List AgentRun) : Option (Option AgentRun × List AgentRun) := do
  let lastError ← input.keptError? repository
  let written := updateWhere input.query.isRun (input.apply lastError now) runs
  return (getAgentRun input.query written, written)

/-! ### Calls -/

/-- `agentRunError`. -/
def agentRunError (value : JsData) : Option JsText :=
  let error := value.member "error"
  match error with
  | some (.str text) => some (text.take 1000)
  | _ => ((error.bind fun fields => fields.member "message").bind JsData.text?).map (·.take 1000)

/-- The status that an answer of the runtime tells. -/
def answeredStatus (upstream : JsData) : AgentRunStatus :=
  (AgentRunStatus.of? (upstream.member "status")).getD .unknown

/-- What `synchronizeAgentRun` has of the answer when it writes: the answer, the completion time
of the record that it read, and the clock. -/
structure AgentRunAnswer where
  upstream : JsData
  completedAt : Option Nat
  clock : Nat

/-- What `synchronizeAgentRun` writes. -/
def AgentRunAnswer.update (query : AgentRunQuery) (answer : AgentRunAnswer) : AgentRunUpdate :=
  let status := answeredStatus answer.upstream
  { query := query, status := some status, lastError := some (agentRunError answer.upstream)
    completedAt := some
      (if status.isTerminal then some (answer.completedAt.getD (isoNow answer.clock))
        else answer.completedAt) }

/-- Where a call of `synchronizeAgentRun` stands: it waits for the runtime with the record that
it read, or it has asked the repository to write. -/
inductive AgentRunPhase where
  | asked (record : AgentRun)
  | answered (answer : AgentRunAnswer)

/-- A call of `synchronizeAgentRun`. -/
structure AgentRunPoll where
  call : Nat
  query : AgentRunQuery
  phase : AgentRunPhase

/-- `record.completedAt`. In memory the record is the stored run itself. -/
def recordCompletedAt (repository : Repository) (query : AgentRunQuery) (record : AgentRun)
    (runs : List AgentRun) : Option Nat :=
  match repository with
  | .memory => ((getAgentRun query runs).getD record).completedAt
  | .postgres => record.completedAt

/-- `publicAgentRun`: the run without its input, and how the input begins. -/
structure PublicAgentRun where
  run : AgentRun
  inputPreview : JsText

/-- `publicAgentRun`. -/
def publicAgentRun (run : AgentRun) : PublicAgentRun :=
  { run := { run with inputText := [] }, inputPreview := run.inputText.take 500 }

/-- `synchronizeAgentRun` from the answer of the runtime to its own: what it returns and the
table, or nothing when it throws. -/
def writeAnswer (repository : Repository) (now : Nat) (query : AgentRunQuery)
    (answer : AgentRunAnswer) (runs : List AgentRun) :
    Option ((JsData × Option PublicAgentRun) × List AgentRun) := do
  let (updated, written) ← updateAgentRun repository now (answer.update query) runs
  return ((answer.upstream, updated.map publicAgentRun), written)

/-- The table and the calls under way. -/
structure RunState where
  runs : List AgentRun
  polls : List AgentRunPoll

/-- What happens to runs. A call is known by its number. -/
inductive RunLabel where
  | create (now : Nat) (input : AgentRunInput)
  | ask (call : Nat) (query : AgentRunQuery)
  | answer (call : Nat) (upstream : JsData) (clock : Nat)
  | lose (call : Nat)
  | write (call : Nat) (now : Nat)
  | request (now : Nat) (query : AgentRunQuery) (stop : Bool)

/-- A call under way. -/
def RunState.poll? (state : RunState) (call : Nat) : Option AgentRunPoll :=
  state.polls.find? fun poll => poll.call = call

/-- The calls but one. -/
def RunState.otherPolls (state : RunState) (call : Nat) : List AgentRunPoll :=
  state.polls.filter fun poll => poll.call ≠ call

/-- `synchronizeAgentRun` up to its call of the runtime. It throws when there is no run. -/
def RunState.ask (state : RunState) (call : Nat) (query : AgentRunQuery) : RunState :=
  match state.poll? call, getAgentRun query state.runs with
  | none, some record =>
      { state with polls := { call := call, query := query, phase := .asked record } :: state.polls }
  | _, _ => state

/-- The runtime answers a call. -/
def RunState.answer (repository : Repository) (state : RunState) (call : Nat) (upstream : JsData)
    (clock : Nat) : RunState :=
  match state.poll? call with
  | some { query := query, phase := .asked record, .. } =>
      { state with
        polls :=
          { call := call, query := query
            phase := .answered
              { upstream := upstream, clock := clock
                completedAt := recordCompletedAt repository query record state.runs } } ::
            state.otherPolls call }
  | _ => state

/-- The repository writes for a call, and the call ends. -/
def RunState.write (repository : Repository) (state : RunState) (call : Nat) (now : Nat) :
    RunState :=
  match state.poll? call with
  | some { query := query, phase := .answered answer, .. } =>
      { polls := state.otherPolls call
        runs := ((writeAnswer repository now query answer state.runs).map Prod.snd).getD
          state.runs }
  | _ => state

/-- What the routes `approval` and `stop` write after the runtime has taken the request. -/
def requestUpdate (query : AgentRunQuery) (stop : Bool) : AgentRunUpdate :=
  { query := query, status := some (if stop then .stopping else .running) }

/-- The state after a step. -/
def RunState.next (repository : Repository) : RunLabel → RunState → RunState
  | .create now input, state =>
      { state with
        runs := ((createAgentRun repository now input state.runs).map Prod.snd).getD state.runs }
  | .ask call query, state => state.ask call query
  | .answer call upstream clock, state => state.answer repository call upstream clock
  | .lose call, state => { state with polls := state.otherPolls call }
  | .write call now, state => state.write repository call now
  | .request now query stop, state =>
      { state with
        runs := ((updateAgentRun repository now (requestUpdate query stop) state.runs).map
          Prod.snd).getD state.runs }

/-- Runs that are created, polled, approved and stopped in any order, over an empty table. -/
def agentRuns (repository : Repository) : TransitionSystem RunState RunLabel where
  initial state := state.runs = [] ∧ state.polls = []
  step before label after := after = before.next repository label

/-! ### Runs that have ended -/

/-- What the table tells of a run. -/
def RunState.outcome? (state : RunState) (id : JsText) : Option RunOutcome :=
  (state.runs.find? fun run => run.id = id).map AgentRun.outcome

/-- A request to approve or to stop the run. -/
def RunLabel.requests (id : JsText) : RunLabel → Bool
  | .request _ query _ => query.runId = id
  | _ => false

/-- When a run is stored as ended, it stays as it is in every later state, at least until a
request to approve or to stop it. The history lists the latest step first. -/
def EndsOnce (history : List (Transition RunState RunLabel)) : Prop :=
  ∀ latest last middle first earlier, history = latest ++ last :: (middle ++ first :: earlier) →
    ∀ id outcome, first.after.outcome? id = some outcome → outcome.status.isTerminal = true →
      (∀ step ∈ last :: middle, step.label.requests id = false) →
        last.after.outcome? id = some outcome

/-- What is written for an answer to a run that has ended repeats how it has ended: the answer
tells the status and the error of the run, and the completion time that the call read, or else
the clock when the answer came, is the time of the run. -/
def Repeats (repository : Repository) (step : Transition RunState RunLabel) : Prop :=
  ∀ call now query answer run lastError, step.label = .write call now →
    step.before.poll? call = some { call := call, query := query, phase := .answered answer } →
    getAgentRun query step.before.runs = some run → run.status.isTerminal = true →
    repository.keptOrNull? (agentRunError answer.upstream) = some lastError →
      answeredStatus answer.upstream = run.status ∧ lastError = run.lastError ∧
        some (answer.completedAt.getD (isoNow answer.clock)) = run.completedAt

section Steps

variable {repository : Repository} {state : RunState}

/-- A run that is created has an identifier of its own, and the others stay. -/
theorem createAgentRun_some {now : Nat} {input : AgentRunInput} {runs written : List AgentRun}
    {run : AgentRun} (created : createAgentRun repository now input runs = some (run, written)) :
    written = runs ++ [run] ∧ ∀ other ∈ runs, other.id ≠ run.id := by
  simp only [createAgentRun, Option.bind_eq_bind, Option.bind_eq_some_iff] at created
  obtain ⟨id, -, parentRunId, -, inputText, -, model, -, lastError, -, chosen⟩ := created
  split at chosen
  · cases chosen
  · rename_i free
    split at chosen
    · obtain ⟨rfl, rfl⟩ := Prod.mk.inj (Option.some.inj chosen)
      refine ⟨rfl, fun other member same => free ?_⟩
      exact List.any_eq_true.mpr ⟨other, member, decide_eq_true same⟩
    · cases chosen

/-- An update whose error the repository keeps writes the runs that it selects. -/
theorem updateAgentRun_of_kept {now : Nat} {input : AgentRunUpdate} {runs : List AgentRun}
    {lastError : Option (Option JsText)} (kept : input.keptError? repository = some lastError) :
    (updateAgentRun repository now input runs).map Prod.snd =
      some (updateWhere input.query.isRun (input.apply lastError now) runs) := by
  simp only [updateAgentRun, kept, Option.bind_eq_bind, Option.bind_some, Option.pure_def,
    Option.map_some]

/-- An update that the repository refuses writes nothing. -/
theorem updateAgentRun_of_refused {now : Nat} {input : AgentRunUpdate} {runs : List AgentRun}
    (refused : input.keptError? repository = none) :
    updateAgentRun repository now input runs = none := by
  simp only [updateAgentRun, refused, Option.bind_eq_bind, Option.bind_none]

/-- What the repository writes for an answer. -/
theorem map_writeAnswer (now : Nat) (query : AgentRunQuery) (answer : AgentRunAnswer)
    (runs : List AgentRun) :
    (writeAnswer repository now query answer runs).map Prod.snd =
      (updateAgentRun repository now (answer.update query) runs).map Prod.snd := by
  unfold writeAnswer
  cases updateAgentRun repository now (answer.update query) runs with
  | none => rfl
  | some result => rfl

/-- The error of an answer as the repository keeps it. -/
theorem keptError?_update (query : AgentRunQuery) (answer : AgentRunAnswer) :
    (answer.update query).keptError? repository =
      (repository.keptOrNull? (agentRunError answer.upstream)).map some := rfl

/-- What a step does to the table. -/
inductive RunsChange (repository : Repository) (state : RunState) :
    RunLabel → List AgentRun → Prop where
  | idle (label : RunLabel) : RunsChange repository state label state.runs
  | create (now : Nat) (input : AgentRunInput) {run : AgentRun}
      (fresh : ∀ other ∈ state.runs, other.id ≠ run.id) :
      RunsChange repository state (.create now input) (state.runs ++ [run])
  | write {call : Nat} (now : Nat) {query : AgentRunQuery} {answer : AgentRunAnswer}
      {lastError : Option JsText}
      (answered : state.poll? call =
        some { call := call, query := query, phase := .answered answer })
      (kept : repository.keptOrNull? (agentRunError answer.upstream) = some lastError) :
      RunsChange repository state (.write call now)
        (updateWhere query.isRun ((answer.update query).apply (some lastError) now) state.runs)
  | request (now : Nat) (query : AgentRunQuery) (stop : Bool) :
      RunsChange repository state (.request now query stop)
        (updateWhere query.isRun ((requestUpdate query stop).apply none now) state.runs)

/-- A call is found under its number. -/
theorem RunState.call_of_poll? {call : Nat} {poll : AgentRunPoll}
    (found : state.poll? call = some poll) : poll.call = call := by
  have same := List.find?_some found
  exact of_decide_eq_true same

/-- The table after a write for an answered call. -/
theorem runs_write {call : Nat} {query : AgentRunQuery} {answer : AgentRunAnswer}
    {lastError : Option JsText}
    (answered : state.poll? call =
      some { call := call, query := query, phase := .answered answer })
    (kept : repository.keptOrNull? (agentRunError answer.upstream) = some lastError) (now : Nat) :
    (state.write repository call now).runs =
      updateWhere query.isRun ((answer.update query).apply (some lastError) now) state.runs := by
  have keeps : (answer.update query).keptError? repository = some (some lastError) := by
    rw [keptError?_update, kept, Option.map_some]
  simp only [RunState.write, answered, map_writeAnswer, updateAgentRun_of_kept keeps,
    Option.getD_some]
  rfl

/-- Every step does one of these to the table. -/
theorem runsChange_next (repository : Repository) (label : RunLabel) (state : RunState) :
    RunsChange repository state label (state.next repository label).runs := by
  cases label with
  | create now input =>
      simp only [RunState.next]
      cases created : createAgentRun repository now input state.runs with
      | none => exact .idle _
      | some result =>
          obtain ⟨run, written⟩ := result
          obtain ⟨rfl, fresh⟩ := createAgentRun_some created
          exact .create now input fresh
  | ask call query =>
      simp only [RunState.next, RunState.ask]
      split
      · exact .idle _
      · exact .idle _
  | answer call upstream clock =>
      simp only [RunState.next, RunState.answer]
      split
      · exact .idle _
      · exact .idle _
  | lose call => exact .idle _
  | write call now =>
      simp only [RunState.next]
      match found : state.poll? call with
      | some { call := number, query := query, phase := .answered answer } =>
          obtain rfl : number = call := state.call_of_poll? found
          cases kept : repository.keptOrNull? (agentRunError answer.upstream) with
          | some lastError =>
              rw [runs_write found kept]
              exact .write now found kept
          | none =>
              have refused : (answer.update query).keptError? repository = none := by
                rw [keptError?_update, kept, Option.map_none]
              simp only [RunState.write, found, map_writeAnswer,
                updateAgentRun_of_refused refused, Option.map_none, Option.getD_none]
              exact .idle _
      | some { call := number, query := query, phase := .asked record } =>
          simp only [RunState.write, found]
          exact .idle _
      | none =>
          simp only [RunState.write, found]
          exact .idle _
  | request now query stop =>
      have keeps : (requestUpdate query stop).keptError? repository = some none := rfl
      simp only [RunState.next, updateAgentRun_of_kept keeps, Option.getD_some]
      exact .request now query stop

/-- The runs have identifiers of their own. -/
theorem keyed_next (label : RunLabel) (keyed : Keyed AgentRun.id state.runs) :
    Keyed AgentRun.id (state.next repository label).runs := by
  have change := runsChange_next repository label state
  generalize (state.next repository label).runs = written at change ⊢
  cases change with
  | idle => exact keyed
  | create now input fresh => exact keyed.snoc fresh
  | write now answered kept => exact keyed.update fun _ => rfl
  | request now query stop => exact keyed.update fun _ => rfl

/-- A run that a request means has the identifier of the request. -/
theorem AgentRunQuery.id_of_isRun {query : AgentRunQuery} {run : AgentRun}
    (means : query.isRun run = true) : run.id = query.runId := by
  unfold AgentRunQuery.isRun at means
  simp only [Bool.and_eq_true, decide_eq_true_eq] at means
  exact means.1.1.1

/-- The run that a request means is the one with its identifier and its owner. -/
theorem getAgentRun_eq_some {query : AgentRunQuery} {run : AgentRun} {runs : List AgentRun}
    (keyed : Keyed AgentRun.id runs) :
    getAgentRun query runs = some run ↔ run ∈ runs ∧ query.isRun run = true := by
  constructor
  · intro found
    exact ⟨List.mem_of_find?_eq_some found, List.find?_some found⟩
  · rintro ⟨member, means⟩
    obtain ⟨other, found⟩ := Option.isSome_iff_exists.mp
      (List.find?_isSome.mpr ⟨run, member, means⟩)
    have otherMeans : query.isRun other = true := List.find?_some found
    have same : other = run := by
      apply keyed.eq_of_key_eq (List.mem_of_find?_eq_some found) member
      rw [query.id_of_isRun otherMeans, query.id_of_isRun means]
    rw [← same]
    exact found

/-- The run with an identifier after an update. -/
theorem find?_apply (query : AgentRunQuery) (input : AgentRunUpdate)
    (lastError : Option (Option JsText)) (now : Nat) (runs : List AgentRun) (id : JsText) :
    (updateWhere query.isRun (input.apply lastError now) runs).find? (fun run => run.id = id) =
      (runs.find? fun run => run.id = id).map fun run =>
        if query.isRun run then input.apply lastError now run else run :=
  find?_updateWhere_map fun _ => rfl

/-- An answer that repeats how the run has ended leaves its outcome. -/
theorem outcome_apply {query : AgentRunQuery} {answer : AgentRunAnswer} {run : AgentRun}
    {lastError : Option JsText} (now : Nat) (terminal : run.status.isTerminal = true)
    (status : answeredStatus answer.upstream = run.status) :
    ((answer.update query).apply (some lastError) now run).outcome = run.outcome ↔
      lastError = run.lastError ∧
        some (answer.completedAt.getD (isoNow answer.clock)) = run.completedAt := by
  simp only [AgentRun.outcome, AgentRunUpdate.apply, AgentRunAnswer.update, status, terminal,
    if_true, Option.getD_some, RunOutcome.mk.injEq, true_and]

/-- A run that has ended stays as it is, if no request of its own is written and what is written
for an answer repeats how it has ended. -/
theorem outcome?_next {label : RunLabel} {id : JsText} {outcome : RunOutcome}
    (keyed : Keyed AgentRun.id state.runs)
    (repeats : Repeats repository ⟨state, label, state.next repository label⟩)
    (quiet : label.requests id = false) (ended : state.outcome? id = some outcome)
    (terminal : outcome.status.isTerminal = true) :
    (state.next repository label).outcome? id = some outcome := by
  obtain ⟨run, found, rfl⟩ := Option.map_eq_some_iff.mp ended
  obtain ⟨member, named⟩ := keyed.find?_eq_some.mp found
  unfold RunState.outcome?
  have change := runsChange_next repository label state
  generalize (state.next repository label).runs = written at change ⊢
  cases change with
  | idle =>
      rw [found]
      rfl
  | create now input fresh =>
      rw [List.find?_append, found]
      rfl
  | write now answered kept =>
      rename_i call query answer lastError
      rw [find?_apply, found, Option.map_some, Option.map_some]
      cases means : query.isRun run with
      | false => rw [if_neg Bool.false_ne_true]
      | true =>
          rw [if_pos rfl]
          have meant := (getAgentRun_eq_some keyed).mpr ⟨member, means⟩
          obtain ⟨status, same⟩ :=
            repeats call now query answer run lastError rfl answered meant terminal kept
          rw [(outcome_apply now terminal status).mpr same]
  | request now query stop =>
      rw [find?_apply, found, Option.map_some, Option.map_some]
      cases means : query.isRun run with
      | false => rw [if_neg Bool.false_ne_true]
      | true =>
          refine absurd ?_ (of_decide_eq_false quiet)
          rw [← query.id_of_isRun means, named]

/-- A step after which the runs that had ended are as they were repeats how they have ended. -/
theorem repeats_of_outcome? {label : RunLabel} (keyed : Keyed AgentRun.id state.runs)
    (stays : ∀ id outcome, state.outcome? id = some outcome → outcome.status.isTerminal = true →
      label.requests id = false → (state.next repository label).outcome? id = some outcome) :
    Repeats repository ⟨state, label, state.next repository label⟩ := by
  intro call now query answer run lastError written answered meant terminal kept
  obtain rfl : label = .write call now := written
  obtain ⟨member, means⟩ := (getAgentRun_eq_some keyed).mp meant
  have found : (state.runs.find? fun other => other.id = run.id) = some run :=
    keyed.find?_eq_some.mpr ⟨member, rfl⟩
  have ended : state.outcome? run.id = some run.outcome := by
    unfold RunState.outcome?
    rw [found, Option.map_some]
  have same := stays run.id run.outcome ended terminal rfl
  unfold RunState.outcome? at same
  rw [RunState.next, runs_write answered kept, find?_apply, found,
    Option.map_some, Option.map_some, means, if_pos rfl] at same
  have outcome := Option.some.inj same
  have status : answeredStatus answer.upstream = run.status := congrArg RunOutcome.status outcome
  exact ⟨status, (outcome_apply now terminal status).mp outcome⟩

end Steps

section Runs

variable {repository : Repository} {history : List (Transition RunState RunLabel)}
  {state : RunState}

/-- In every state the runs have identifiers of their own. -/
theorem agentRuns_keyed (run : Run (agentRuns repository) history state) :
    Keyed AgentRun.id state.runs := by
  apply run.invariant fun state => Keyed AgentRun.id state.runs
  · intro state started
    rw [started.1]
    exact Keyed.nil
  · intro before label after keyed taken
    obtain rfl : after = before.next repository label := taken
    exact keyed_next label keyed

end Runs

/-! ### A run that goes on -/

/-- A run of an agent. -/
def sampleRunQuery : AgentRunQuery :=
  { organizationId := "org-1", userId := "user-1", agentId := "agent-1", runId := utf16 "run-1" }

/-- An answer of the runtime with a status. -/
def statusAnswer (status : String) : JsData :=
  .obj [(utf16 "status", .str (utf16 status))]

/-- The run is created and polled twice at a time. The answers differ, and the older one is
written last. -/
def overlappingPolls : List RunLabel :=
  [.create 1000
      { id := utf16 "run-1", organizationId := "org-1", userId := "user-1", agentId := "agent-1"
        inputText := utf16 "hello", status := some .running },
    .ask 1 sampleRunQuery, .answer 1 (statusAnswer "running") 2000, .ask 2 sampleRunQuery,
    .answer 2 (statusAnswer "completed") 3000, .write 2 4000, .write 1 5000]

/-- The history of the two polls. -/
def overlappingHistory (repository : Repository) : List (Transition RunState RunLabel) :=
  (play (RunState.next repository) [] { runs := [], polls := [] } overlappingPolls).1

theorem overlappingHistory_run (repository : Repository) :
    Run (agentRuns repository) (overlappingHistory repository)
      (play (RunState.next repository) [] { runs := [], polls := [] } overlappingPolls).2 := by
  have start : Run (agentRuns repository) [] { runs := [], polls := [] } := Run.start ⟨rfl, rfl⟩
  exact start.play fun _ _ _ => rfl

/-- A run that has been stored as completed is running again when the older answer is written. -/
theorem completed_run_continues (repository : Repository) :
    ∃ last first earlier,
      overlappingHistory repository = last :: first :: earlier ∧
        first.after.outcome? (utf16 "run-1") =
          some { status := .completed, lastError := none, completedAt := some 3000 } ∧
        last.label.requests (utf16 "run-1") = false ∧
        (last.after.outcome? (utf16 "run-1")).map RunOutcome.status = some .running := by
  refine ⟨_, _, _, rfl, ?_, rfl, ?_⟩
  · cases repository <;> decide +kernel
  · cases repository <;> decide +kernel

theorem exists_end_that_does_not_last (repository : Repository) :
    ∃ history state, Run (agentRuns repository) history state ∧ ¬EndsOnce history := by
  refine ⟨_, _, overlappingHistory_run repository, fun endsOnce => ?_⟩
  obtain ⟨last, first, earlier, split, ended, quiet, continues⟩ :=
    completed_run_continues repository
  have stays := endsOnce [] last [] first earlier split _ _ ended rfl fun step single => by
    obtain rfl := List.mem_singleton.mp single
    exact quiet
  rw [stays] at continues
  cases continues

end BairuiPlatform
