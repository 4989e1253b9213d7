/-
Module: BairuiPlatform.Authority.Expiry
Purpose: What leaseCommands does to the commands whose time is over: it ends those that a
  server works on, and leaves those that wait.
Trusted boundary: none
Main exports: Db.inScope, Db.Settled, leaseCommands_outcome, expired_ended_iff
-/
import BairuiPlatform.Authority.Lifecycle

namespace BairuiPlatform

open Foundations Relation

/-! ### Scope and states -/

/-- The command lies in the scope of a lease request. -/
def Db.inScope (db : Db) (input : LeaseInput) (command : CommandRow) : Bool :=
  (db.ownedDeployment? command.deploymentId).any input.covers

theorem Db.inScope_eq_true {db : Db} {input : LeaseInput} {command : CommandRow} :
    db.inScope input command = true ↔
      ∃ owned, db.ownedDeployment? command.deploymentId = some owned ∧
        input.covers owned = true := by
  unfold Db.inScope
  cases db.ownedDeployment? command.deploymentId <;> simp

namespace CommandState

/-- The command waits for a server to work on it. -/
def isWaiting : CommandState → Bool
  | queued | leased => true
  | _ => false

/-- The command is queued, leased, accepted or running. -/
def isOpen : CommandState → Bool
  | queued | leased | accepted | running => true
  | _ => false

end CommandState

/-- No command of a scope is open past its time. -/
def Db.Settled (db : Db) (input : LeaseInput) (time : Nat) : Prop :=
  ∀ command ∈ db.commands, db.inScope input command = true → command.expiresAt ≤ time →
    command.state.isOpen = false

/-! ### The outcome of one `leaseCommands` -/

/-- What `expireLeases` may make of the row of a command. -/
structure CommandRow.Expires (old new : CommandRow) : Prop where
  id : new.id = old.id
  deployment : new.deploymentId = old.deploymentId
  expiresAt : new.expiresAt = old.expiresAt
  outcome : ExpiryOutcome old.state new.state

theorem CommandRow.Expires.refl (row : CommandRow) : row.Expires row :=
  ⟨rfl, rfl, rfl, .keep _⟩

theorem CommandRow.Expires.trans {old middle new : CommandRow} (before : old.Expires middle)
    (after : middle.Expires new) : old.Expires new :=
  ⟨after.id.trans before.id, after.deployment.trans before.deployment,
    after.expiresAt.trans before.expiresAt, before.outcome.trans after.outcome⟩

/-- A row whose state is the same if its time is over. -/
structure CommandRow.Passes (now : Nat) (old new : CommandRow) : Prop where
  id : new.id = old.id
  deployment : new.deploymentId = old.deploymentId
  expiresAt : new.expiresAt = old.expiresAt
  state : old.expiresAt ≤ now → new.state = old.state

theorem CommandRow.Passes.refl (now : Nat) (row : CommandRow) : row.Passes now row :=
  ⟨rfl, rfl, rfl, fun _ => rfl⟩

theorem CommandRow.Passes.trans {now : Nat} {old middle new : CommandRow}
    (before : old.Passes now middle) (after : middle.Passes now new) : old.Passes now new where
  id := after.id.trans before.id
  deployment := after.deployment.trans before.deployment
  expiresAt := after.expiresAt.trans before.expiresAt
  state late := (after.state (before.expiresAt.symm ▸ late)).trans (before.state late)

/-- The states of a command past its time before and after `leaseCommands`. -/
theorem ExpiryOutcome.swept {old new : CommandState} (outcome : ExpiryOutcome old new)
    (free : new.isHeld = false) :
    new.isOpen = old.isWaiting ∧
      (old.isOpen = true → old.isWaiting = false → new.isTerminal = true) := by
  cases outcome with
  | keep =>
      revert free
      cases old <;> decide
  | requeue => decide
  | giveUp held started =>
      revert held started
      cases old <;> decide

/-- Deployments and agents stay as they are. -/
def Db.SameOwners (db db' : Db) : Prop :=
  db'.deployments = db.deployments ∧ db'.agents = db.agents

theorem Db.SameOwners.owned {db db' : Db} (same : db.SameOwners db') (id : String) :
    db'.ownedDeployment? id = db.ownedDeployment? id := by
  unfold Db.ownedDeployment?
  rw [same.1, same.2]

theorem Db.SameOwners.inScope {db db' : Db} (same : db.SameOwners db') (input : LeaseInput)
    {old new : CommandRow} (deployment : new.deploymentId = old.deploymentId) :
    db'.inScope input new = db.inScope input old := by
  unfold Db.inScope
  rw [deployment, same.owned]

/-- A held command past its time, in the scope of some request, has a lease that ran out. -/
theorem Db.Fenced.expired_of_held {db : Db} {now : Nat} {input : LeaseInput} {command : CommandRow}
    (fenced : db.Fenced) (sound : db.Sound) (member : command ∈ db.commands)
    (held : command.state.isHeld = true) (covered : db.inScope input command = true)
    (late : command.expiresAt ≤ now) : db.expiredLeases now ≠ [] := by
  obtain ⟨lease, leaseMem, active, own⟩ := fenced.leased command member held
  obtain ⟨holder, holderMem, holds⟩ := fenced.holds lease leaseMem active
  obtain rfl := sound.commands.eq_of_key_eq holderMem member (holds.command_id.trans own)
  obtain ⟨owned, joined, -⟩ := Db.inScope_eq_true.mp covered
  obtain ⟨foundDeployment, -⟩ := Db.ownedDeployment?_eq_some.mp joined
  rw [holds.deployment] at foundDeployment
  have foundCommand : db.commands.find? (fun row => row.id = lease.commandId) = some holder :=
    sound.commands.find?_eq_some.mpr ⟨holderMem, holds.command_id⟩
  intro none
  have selected : (⟨lease, holder.state, owned.deployment.organizationId,
      owned.deployment.agentId⟩ : ExpiredLease) ∈ db.expiredLeases now := by
    refine Db.mem_expiredLeases.mpr ⟨leaseMem, active, holds.bounded.trans late, ?_⟩
    exact Db.joinedLease?_eq_some.mpr
      ⟨rfl, holder, owned.deployment, foundCommand, foundDeployment, rfl, rfl, rfl⟩
  rw [none] at selected
  cases selected

section Steps

variable [Host] {env : Env} {db db' : Db}

/-- A lease that runs out changes its command as expiry may. -/
theorem ExpiresOne.versions (fenced : db.Fenced) (sound : db.Sound)
    (expires : ExpiresOne env db db') :
    Versions CommandRow.Expires db.commands db'.commands := by
  obtain ⟨index, row, expires⟩ := expires
  rw [expires.after]
  refine .update CommandRow.Expires.refl fun candidate member chosen => ?_
  have outcome := fenced.expiry_outcome sound expires member (of_decide_eq_true chosen)
  refine ⟨?_, ?_, ?_, outcome⟩ <;>
    (unfold CommandRow.afterLeaseExpiry; split <;> rfl)

/-- A chain of expiries keeps what the tables are, and makes of each command what expiry
may. -/
theorem expiries_outcome {start : Db} (fenced : start.Fenced) (sound : start.Sound)
    (chain : ReflTransGen (ExpiresOne env) start db') :
    db'.Fenced ∧ db'.Sound ∧ start.SameOwners db' ∧
      Versions CommandRow.Expires start.commands db'.commands := by
  refine keeps_of_chain (fun db => db.Fenced ∧ db.Sound ∧ start.SameOwners db ∧
    Versions CommandRow.Expires start.commands db.commands) ?_ chain
    ⟨fenced, sound, ⟨rfl, rfl⟩, .refl CommandRow.Expires.refl⟩
  rintro before after ⟨fenced, sound, owners, versions⟩ expires
  have more := ExpiresOne.versions fenced sound expires
  obtain ⟨index, row, expires⟩ := expires
  refine ⟨fenced.expiresLease sound expires, sound.expiresLease expires, ?_,
    versions.trans more fun _ _ _ _ => CommandRow.Expires.trans⟩
  rw [expires.after]
  exact owners

/-- A chain of grants leaves the commands past their time alone. -/
theorem grants_outcome {start : Db} {input : LeaseInput} (sound : start.Sound)
    (chain : ReflTransGen (GrantsOne env input) start db') :
    start.SameOwners db' ∧ Versions (CommandRow.Passes env.now) start.commands db'.commands := by
  refine (keeps_of_chain (fun db => db.Sound ∧ start.SameOwners db ∧
    Versions (CommandRow.Passes env.now) start.commands db.commands) ?_ chain
    ⟨sound, ⟨rfl, rfl⟩, .refl (CommandRow.Passes.refl _)⟩).2
  rintro before after ⟨sound, owners, versions⟩ ⟨index, row, lease, leases⟩
  obtain ⟨member, -, -, due⟩ := Db.mem_dueCommands.mp leases.due
  have own : lease.commandId = row.command.id := by rw [leases.grants.lease_eq]; rfl
  refine ⟨sound.leasesCommand leases, ?_, ?_⟩
  · rw [leases.grants.after]
    exact owners
  · rw [leases.grants.after]
    refine versions.trans (.update (CommandRow.Passes.refl _) ?_)
      fun _ _ _ _ => CommandRow.Passes.trans
    intro candidate candidateMem chosen
    refine ⟨rfl, rfl, rfl, fun late => ?_⟩
    have one := sound.commands.eq_of_key_eq candidateMem member
      ((of_decide_eq_true chosen).trans own)
    have alive := due.alive
    rw [← one] at alive
    omega

/-- What `leaseCommands` makes of a command in its scope past its time: it is open exactly
when it waited before, and done when it was open and did not wait. -/
structure CommandRow.Swept (db : Db) (input : LeaseInput) (now : Nat) (old new : CommandRow) :
    Prop where
  id : new.id = old.id
  deployment : new.deploymentId = old.deploymentId
  expiresAt : new.expiresAt = old.expiresAt
  isOpen : db.inScope input old = true → old.expiresAt ≤ now →
    new.state.isOpen = old.state.isWaiting
  ended : db.inScope input old = true → old.expiresAt ≤ now → old.state.isOpen = true →
    old.state.isWaiting = false → new.state.isTerminal = true

/-- The commands after `leaseCommands`. -/
theorem leaseCommands_outcome {input : LeaseInput} {result : List LeasedCommand}
    (fenced : db.Fenced) (sound : db.Sound)
    (ran : (leaseCommands env input).eval db = .ok (result, db')) :
    db.SameOwners db' ∧
      Versions (CommandRow.Swept db input env.now) db.commands db'.commands := by
  obtain ⟨middle, expired, granted⟩ := leaseCommands_chain sound ran
  obtain ⟨expiries, noneLeft⟩ := expireLeases_chain sound expired
  obtain ⟨fencedMiddle, soundMiddle, owners, expires⟩ := expiries_outcome fenced sound expiries
  obtain ⟨owners', passes⟩ := grants_outcome soundMiddle granted
  refine ⟨⟨owners'.1.trans owners.1, owners'.2.trans owners.2⟩, ?_⟩
  refine expires.trans passes fun old between new member before after => ?_
  have swept : db.inScope input old = true → old.expiresAt ≤ env.now →
      new.state.isOpen = old.state.isWaiting ∧
        (old.state.isOpen = true → old.state.isWaiting = false →
          new.state.isTerminal = true) := by
    intro covered late
    have overBetween : between.expiresAt ≤ env.now := by
      rw [before.expiresAt]
      exact late
    rw [after.state overBetween]
    apply before.outcome.swept
    -- No lease that ran out is left, so no server holds the command.
    apply Bool.eq_false_iff.mpr
    intro held
    have coveredBetween : middle.inScope input between = true := by
      rw [owners.inScope input before.deployment]
      exact covered
    exact fencedMiddle.expired_of_held soundMiddle member held coveredBetween overBetween
      noneLeft
  exact ⟨after.id.trans before.id, after.deployment.trans before.deployment,
    after.expiresAt.trans before.expiresAt, fun covered late => (swept covered late).1,
    fun covered late => (swept covered late).2⟩

end Steps

/-! ### The scope of a command over time -/

/-- Updates of deployments in columns that no scope reads keep the scopes. -/
theorem inScope_updateDeployments {db db' : Db} (selected : DeploymentRow → Bool)
    (change : DeploymentRow → DeploymentRow) {input : LeaseInput} {old new : CommandRow}
    (agents : db'.agents = db.agents)
    (deployments : db'.deployments = updateWhere selected change db.deployments)
    (keeps : ∀ row, (change row).id = row.id ∧ (change row).organizationId = row.organizationId ∧
      (change row).serverId = row.serverId ∧ (change row).agentId = row.agentId)
    (same : new.deploymentId = old.deploymentId) :
    db'.inScope input new = db.inScope input old := by
  have found : (updateWhere selected change db.deployments).find?
      (fun row => row.id = old.deploymentId) = _ :=
    find?_updateWhere_map fun row => by rw [(keeps row).1]
  unfold Db.inScope Db.ownedDeployment?
  rw [same, deployments, agents, found]
  cases db.deployments.find? fun row => row.id = old.deploymentId with
  | none => rfl
  | some row =>
      have columns : ∀ row' : DeploymentRow, row'.organizationId = row.organizationId →
          row'.serverId = row.serverId → row'.agentId = row.agentId →
          ((db.agents.find? fun agent : AgentRow => agent.id = row'.agentId).bind fun agent =>
            some (⟨row', agent.ownerUserId⟩ : OwnedDeployment)).any input.covers =
          ((db.agents.find? fun agent : AgentRow => agent.id = row.agentId).bind fun agent =>
            some (⟨row, agent.ownerUserId⟩ : OwnedDeployment)).any input.covers := by
        intro row' organization server agent
        rw [agent]
        cases db.agents.find? fun agent : AgentRow => agent.id = row.agentId with
        | none => rfl
        | some found =>
            show input.covers _ = input.covers _
            unfold LeaseInput.covers
            rw [organization, server, agent]
      obtain ⟨-, organization, server, agent⟩ := keeps row
      by_cases chosen : selected row = true
      · simpa [chosen] using columns (change row) organization server agent
      · simp [chosen]

/-- No change moves a command out of a scope or into it. -/
theorem Change.inScope [Host] {env : Env} {db db' : Db} (changed : Change env db db')
    (input : LeaseInput) {old new : CommandRow} (same : new.deploymentId = old.deploymentId) :
    db'.inScope input new = db.inScope input old := by
  have owners : db.SameOwners db' → db'.inScope input new = db.inScope input old :=
    fun owners => owners.inScope input same
  cases changed with
  | @desiredState wanted deployment row db db' stores =>
      by_cases active : wanted.lifecycleStatus = .active
      · refine inScope_updateDeployments (fun other => other.id = wanted.deploymentId)
          (fun other => other.desire wanted.version env.now) (by rw [stores.after]) ?_
          (fun _ => ⟨rfl, rfl, rfl, rfl⟩) same
        rw [stores.after]
        simp [DesiredStateInput.deployments, active]
      · apply owners
        rw [stores.after]
        simp [Db.SameOwners, DesiredStateInput.deployments, active]
  | @observation observed deployment row db db' stores =>
      exact inScope_updateDeployments (fun other => other.id = observed.deploymentId)
        (fun other => other.observe observed env.now) (by rw [stores.after])
        (by rw [stores.after]) (fun _ => ⟨rfl, rfl, rfl, rfl⟩) same
  | releaseManifest stores => exact owners (by rw [stores.after]; exact ⟨rfl, rfl⟩)
  | secretReference stores => exact owners (by rw [stores.after]; exact ⟨rfl, rfl⟩)
  | command stores => exact owners (by rw [stores.after]; exact ⟨rfl, rfl⟩)
  | decision decides => exact owners (by rw [decides.after]; exact ⟨rfl, rfl⟩)
  | expiry expires => exact owners (by rw [expires.after]; exact ⟨rfl, rfl⟩)
  | lease leases => exact owners (by rw [leases.grants.after]; exact ⟨rfl, rfl⟩)
  | receipt records => exact owners (by rw [records.after]; exact ⟨rfl, rfl⟩)
  | verification verifies => exact owners (by rw [verifies.after]; exact ⟨rfl, rfl⟩)
  | outbox change after => exact owners (by rw [after]; exact ⟨rfl, rfl⟩)

/-- Commands that are settled stay settled while the clock does not run back. -/
theorem Db.Settled.change [Host] {env : Env} {db db' : Db} {input : LeaseInput} {time : Nat}
    (settled : db.Settled input time) (fenced : db.Fenced) (sound : db.Sound)
    (changed : Change env db db') (later : time ≤ env.now) : db'.Settled input time := by
  intro new member covered late
  rcases (fenced.advances sound changed).earlier new member with
    ⟨old, oldMem, follows⟩ | ⟨-, alive, -⟩
  · rw [changed.inScope input follows.deployment] at covered
    have closed := settled old oldMem covered (follows.expiresAt ▸ late)
    rcases follows.state with same | next
    · rw [same]
      exact closed
    · revert next closed
      cases old.state <;> cases new.state <;> decide
  · omega

/-! ### Runs -/

/-- The clock does not run back along a history, which lists the latest call first. -/
def Nondecreasing (history : List (Transition Db Call)) : Prop :=
  history.Pairwise fun later earlier => earlier.label.env.now ≤ later.label.env.now

/-- The call is a `leaseCommands` that answered. -/
def Call.AnswersLease [Host] (call : Call) (db : Db) (input : LeaseInput) : Prop :=
  call.request = .leaseCommands input ∧ (call.execute db).1.isOk = true

/-- After the call no command of its scope lingers past its time: those that were open have
ended, and neither the tables after the call nor those at the end of the run have an open
one. -/
structure EndsExpired (transition : Transition Db Call) (input : LeaseInput) (last : Db) :
    Prop where
  ended : ∀ command ∈ transition.before.commands,
    transition.before.inScope input command = true →
    command.expiresAt ≤ transition.label.env.now → command.state.isOpen = true →
      ∃ new ∈ transition.after.commands, new.id = command.id ∧ new.state.isTerminal = true
  after : transition.after.Settled input transition.label.env.now
  last : last.Settled input transition.label.env.now

/-- Before the call no command of its scope waits past its time. -/
def NoneWaits (transition : Transition Db Call) (input : LeaseInput) : Prop :=
  ∀ command ∈ transition.before.commands, transition.before.inScope input command = true →
    command.expiresAt ≤ transition.label.env.now → command.state.isWaiting = false

section Runs

variable [Host] {history : List (Transition Db Call)} {db : Db}

/-- What an answered `leaseCommands` makes of the commands. -/
theorem Call.AnswersLease.outcome {call : Call} {before after : Db} {input : LeaseInput}
    (answers : call.AnswersLease before input) (fenced : before.Fenced) (sound : before.Sound)
    (taken : controlAuthority.step before call after) :
    before.SameOwners after ∧
      Versions (CommandRow.Swept before input call.env.now) before.commands after.commands := by
  obtain ⟨env, request, fault⟩ := call
  obtain ⟨rfl, answered⟩ := answers
  have taken : after = (Call.execute ⟨env, .leaseCommands input, fault⟩ before).2 := taken
  rcases Tx.inTransaction_cases (leaseCommands env input) fault before with
    ⟨result, final, ran, executed⟩ | ⟨interruption, executed⟩
  · have final_eq : after = final := taken.trans (congrArg Prod.snd executed)
    rw [final_eq]
    exact leaseCommands_outcome fenced sound ran
  · have failed := congrArg (fun answer => answer.1.isOk) executed
    have impossible : true = false := answered.symm.trans failed
    cases impossible

/-- Nothing waited, so everything past its time has ended. -/
theorem Call.AnswersLease.settles {call : Call} {before after : Db} {input : LeaseInput}
    (answers : call.AnswersLease before input) (fenced : before.Fenced) (sound : before.Sound)
    (taken : controlAuthority.step before call after)
    (none : NoneWaits ⟨before, call, after⟩ input) :
    EndsExpired ⟨before, call, after⟩ input after := by
  obtain ⟨owners, swept⟩ := answers.outcome fenced sound taken
  have settled : after.Settled input call.env.now := by
    intro new member covered late
    obtain ⟨old, oldMem, follows⟩ := swept.earlier new member
    rw [owners.inScope input follows.deployment] at covered
    rw [follows.isOpen covered (follows.expiresAt ▸ late)]
    exact none old oldMem covered (follows.expiresAt ▸ late)
  refine ⟨?_, settled, settled⟩
  intro command member covered late isOpen
  obtain ⟨new, newMem, follows⟩ := swept.later command member
  exact ⟨new, newMem, follows.id,
    follows.ended covered late isOpen (none command member covered late)⟩

/-- A command that waited is still open after the call. -/
theorem EndsExpired.none_waits {transition : Transition Db Call} {input : LeaseInput}
    {last : Db} (ends : EndsExpired transition input last)
    (answers : transition.label.AnswersLease transition.before input)
    (fenced : transition.before.Fenced) (sound : transition.before.Sound)
    (taken : controlAuthority.Takes transition) : NoneWaits transition input := by
  intro command member covered late
  obtain ⟨owners, swept⟩ := answers.outcome fenced sound taken
  obtain ⟨new, newMem, follows⟩ := swept.later command member
  rw [← follows.isOpen covered late]
  apply ends.after new newMem
  · rw [owners.inScope input follows.deployment]
    exact covered
  · rw [follows.expiresAt]
    exact late

/-- Commands settled at a time stay settled under a later call. -/
theorem Db.Settled.call {call : Call} {before after : Db} {input : LeaseInput} {time : Nat}
    (settled : before.Settled input time) (fenced : before.Fenced) (sound : before.Sound)
    (taken : controlAuthority.step before call after) (later : time ≤ call.env.now) :
    after.Settled input time :=
  (sound.keeps (Call.chain sound taken) (fun db => db.Fenced ∧ db.Settled input time)
    (fun _ _ sound both changed => ⟨both.1.change sound changed,
      both.2.change both.1 sound changed later⟩) ⟨fenced, settled⟩).2

/-- In a run whose clock does not run back, commands past their time never linger after an
answered `leaseCommands` of their scope if and only if none of them waits, queued or leased,
before any such call. -/
theorem expired_ended_iff (run : Run controlAuthority history db)
    (clock : Nondecreasing history) :
    (∀ transition ∈ history, ∀ input,
        transition.label.AnswersLease transition.before input →
          EndsExpired transition input db) ↔
      ∀ transition ∈ history, ∀ input,
        transition.label.AnswersLease transition.before input → NoneWaits transition input := by
  constructor
  · intro ends transition member input answers
    obtain ⟨earlier, ran, taken, -⟩ := run.before_of_mem member
    exact (ends transition member input answers).none_waits answers
      (authority_fenced ran.reachable) (authority_sound ran.reachable) taken
  · induction run with
    | start initial => exact fun _ _ member => absurd member List.not_mem_nil
    | @step history before after call run taken ih =>
        intro none transition member input answers
        have fenced := authority_fenced run.reachable
        have sound := authority_sound run.reachable
        obtain ⟨latest, earlier⟩ := List.pairwise_cons.mp clock
        rcases List.mem_cons.mp member with rfl | old
        · exact answers.settles fenced sound taken (none _ List.mem_cons_self input answers)
        · have ended := ih earlier (fun other otherMem =>
            none other (List.mem_cons_of_mem _ otherMem)) transition old input answers
          exact ⟨ended.ended, ended.after,
            ended.last.call fenced sound taken (latest transition old)⟩

end Runs

section Sample

attribute [local instance] Host.posix

/-- A lease request long after the time of the created command is over. -/
def lateLease : Call :=
  callAt 1 700000000 (.leaseCommands sampleLease)

/-- The created command is still queued after a lease request in its scope that comes after
its time. -/
theorem queued_command_lingers :
    lateLease.AnswersLease (sampleDb.execute sampleCreation).2 sampleLease ∧
      ∃ command ∈ (lateLease.execute (sampleDb.execute sampleCreation).2).2.commands,
        (lateLease.execute (sampleDb.execute sampleCreation).2).2.inScope sampleLease command =
          true ∧
        command.expiresAt ≤ 700000000 ∧ command.state = .queued := by
  refine ⟨⟨rfl, ?_⟩, ?_⟩
  · decide +kernel
  · decide +kernel

/-- A run in which the command is leased in time. -/
theorem expired_ended_sample :
    Nondecreasing (sampleDb.execute sampleLeasing).1 ∧
      ((∀ transition ∈ (sampleDb.execute sampleLeasing).1, ∀ input,
          transition.label.AnswersLease transition.before input →
            EndsExpired transition input (sampleDb.execute sampleLeasing).2) ↔
        ∀ transition ∈ (sampleDb.execute sampleLeasing).1, ∀ input,
          transition.label.AnswersLease transition.before input →
            NoneWaits transition input) := by
  have clock : Nondecreasing (sampleDb.execute sampleLeasing).1 := by
    apply List.pairwise_cons.mpr
    refine ⟨?_, List.pairwise_singleton _ _⟩
    intro earlier member
    rw [List.mem_singleton.mp member]
    decide
  exact ⟨clock, expired_ended_iff (execute_run sampleDb_blank sampleLeasing) clock⟩

end Sample

end BairuiPlatform
