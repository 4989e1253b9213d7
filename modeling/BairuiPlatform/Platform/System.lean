/-
Module: BairuiPlatform.Platform.System
Purpose: Runs of PostgresPlatformRepository: its calls in any order, each in a transaction of its
  own, between other transactions on the same tables.
Trusted boundary: the clocks of the process and of the database agree
Main exports: PlatformCall, PlatformLabel, platformSystem, Db.CommandsKeyed, commands_keyed
-/
import BairuiPlatform.Foundations.Transition
import BairuiPlatform.Platform.Delivery

namespace BairuiPlatform

open Foundations

/-- A call of the repository, or a transaction of somebody else with the tables after it. -/
inductive PlatformCall where
  | lifecycle (env : PlatformEnv) (input : LifecycleInput)
  | operation (env : PlatformEnv) (input : OperationInput)
  | lease (env : PlatformEnv) (input : ControlLeaseInput)
  | receipt (env : PlatformEnv) (input : DeliveryReceipt)
  | elsewhere (after : Db)

/-- A call, and the statement before which its connection is lost, if it is. -/
structure PlatformLabel where
  call : PlatformCall
  fault : Option Nat

/-- The tables after a call. -/
def PlatformLabel.after [Host] (label : PlatformLabel) (db : Db) : Db :=
  match label.call with
  | .lifecycle env input => ((requestAgentLifecycle env input).inTransaction label.fault db).2
  | .operation env input => ((requestControlOperation env input).inTransaction label.fault db).2
  | .lease env input => ((leaseControlCommands env input).inTransaction label.fault db).2
  | .receipt env input => ((recordCommandReceipt env input).inTransaction label.fault db).2
  | .elsewhere after => after

/-- `control_commands_pkey`. -/
def Db.CommandsKeyed (db : Db) : Prop :=
  Keyed CommandRow.id db.commands

/-- The repository from any tables, under calls in any order. What others write satisfies the
primary key of the commands. -/
def platformSystem [Host] : TransitionSystem Db PlatformLabel where
  initial db := db.CommandsKeyed
  step before label after :=
    (∀ tables, label.call = .elsewhere tables → tables.CommandsKeyed) ∧
      label.after before = after

/-- A call of the repository itself is a step. -/
theorem PlatformLabel.taken [Host] {label : PlatformLabel}
    (own : ∀ tables, label.call ≠ .elsewhere tables) (db : Db) :
    platformSystem.step db label (label.after db) :=
  ⟨fun tables same => absurd same (own tables), rfl⟩

/-! ### The primary key of the commands -/

section Keys

variable [Host]

theorem keeps_commandsKeyed_of_eq {update : Db → Db}
    (same : ∀ db, (update db).commands = db.commands) :
    Tx.Keeps Db.CommandsKeyed (Tx.write update : Callback Unit) := by
  apply Tx.Keeps.write
  intro db keyed
  unfold Db.CommandsKeyed
  rw [same]
  exact keyed

/-- An update that keeps the ids of the commands. -/
theorem keeps_commandsKeyed_of_update {selected : Db → CommandRow → Bool}
    {change : Db → CommandRow → CommandRow} (keeps : ∀ db row, (change db row).id = row.id) :
    Tx.Keeps Db.CommandsKeyed (Tx.write fun db =>
      { db with commands := updateWhere (selected db) (change db) db.commands } :
        Callback Unit) := by
  apply Tx.Keeps.write
  intro db keyed
  exact Keyed.update keyed (keeps db)

theorem keeps_commandsKeyed_of_insert {constraints : Db → List (Bool × Failure)} {add : Db → Db}
    (same : ∀ db, (add db).commands = db.commands) :
    Tx.Keeps Db.CommandsKeyed (Tx.insert constraints add : Callback Unit) := by
  apply Tx.Keeps.insert
  intro db keyed _
  unfold Db.CommandsKeyed
  rw [same]
  exact keyed

theorem insertCommand_keyed (row : CommandRow) :
    Tx.Keeps Db.CommandsKeyed (insertCommand row) := by
  apply Tx.Keeps.insert
  intro db keyed allowed
  apply Keyed.snoc keyed
  intro other member same
  have free := allowed (!found (fun other => other.id = row.id) db.commands,
    .violation "control_commands_pkey") (by simp)
  simp only [found, Bool.not_eq_true', List.any_eq_false, decide_eq_true_eq] at free
  exact free other member same

theorem insertApproval?_keyed (row : Option ApprovalRow) :
    Tx.Keeps Db.CommandsKeyed (insertApproval? row) := by
  cases row with
  | none => exact .pure ()
  | some row => exact keeps_commandsKeyed_of_insert fun _ => rfl

theorem ensure_keyed (condition : Prop) [Decidable condition] (code message : String)
    (statusCode : Nat) : Tx.Keeps Db.CommandsKeyed (ensure condition code message statusCode) :=
  .require condition _

theorem requestAgentLifecycle_keyed (env : PlatformEnv) (input : LifecycleInput) :
    Tx.Keeps Db.CommandsKeyed (requestAgentLifecycle env input) := by
  have queue : ∀ runtime deployment,
      Tx.Keeps Db.CommandsKeyed (queueLifecycle env input runtime deployment) := by
    intro runtime deployment
    refine .bind (insertCommand_keyed _) fun _ => ?_
    refine .bind (insertApproval?_keyed _) fun _ => ?_
    refine .bind (keeps_commandsKeyed_of_eq fun _ => rfl) fun _ => ?_
    refine .bind (keeps_commandsKeyed_of_eq fun _ => rfl) fun _ => ?_
    refine .bind (.whenever (keeps_commandsKeyed_of_eq fun _ => rfl)) fun _ => ?_
    exact .pure _
  refine .bind (.read _) fun identity => ?_
  cases identity with
  | none => exact .pure _
  | some identity =>
      obtain ⟨agent, runtime⟩ := identity
      dsimp only
      cases runtime.deploymentId with
      | none =>
          refine .bind (ensure_keyed _ _ _ _) fun _ => ?_
          refine .bind (.write fun db keyed => Keyed.filter keyed _) fun _ => .pure _
      | some deploymentId =>
          refine .bind (.read _) fun candidate => ?_
          refine .bind (.orRaise _ _) fun deployment => ?_
          unfold lifecycleOfDeployment
          split
          · exact .pure _
          · refine .bind (ensure_keyed _ _ _ _) fun _ => ?_
            refine .bind (.read _) fun existing => ?_
            cases existing with
            | none => exact queue _ _
            | some existing => exact .bind (ensure_keyed _ _ _ _) fun _ => .pure _

theorem requestControlOperation_keyed (env : PlatformEnv) (input : OperationInput) :
    Tx.Keeps Db.CommandsKeyed (requestControlOperation env input) := by
  have references : ∀ deployment,
      Tx.Keeps Db.CommandsKeyed (checkReferences input deployment) := by
    intro deployment
    refine .bind (.read _) fun _ => .bind (ensure_keyed _ _ _ _) fun _ => ?_
    refine .bind (.read _) fun _ => .bind (ensure_keyed _ _ _ _) fun _ => ?_
    refine .bind (ensure_keyed _ _ _ _) fun _ => ?_
    refine .bind (.read _) fun _ => .bind (ensure_keyed _ _ _ _) fun _ => ?_
    refine .bind (.read _) fun _ => .bind (ensure_keyed _ _ _ _) fun _ => ?_
    refine .bind (.read _) fun _ => .bind (ensure_keyed _ _ _ _) fun _ => ?_
    exact .bind (.read _) fun _ => ensure_keyed _ _ _ _
  refine .bind (.read _) fun candidate => ?_
  refine .bind (.orRaise _ _) fun deployment => ?_
  refine .bind (references deployment) fun _ => ?_
  refine .bind (.read _) fun existing => ?_
  cases existing with
  | some existing => exact .bind (.read _) fun _ => .pure _
  | none =>
      refine .bind (insertCommand_keyed _) fun _ => ?_
      refine .bind (insertApproval?_keyed _) fun _ => ?_
      refine .bind ?_ fun _ => .pure _
      unfold createBackupRecord
      split
      · apply Tx.Keeps.whenever
        apply keeps_commandsKeyed_of_eq
        intro db
        split
        · rfl
        · rfl
      · exact .pure _

theorem deliverOne_keyed (env : PlatformEnv) (input : ControlLeaseInput) (index : Nat)
    (command : CommandRow) : Tx.Keeps Db.CommandsKeyed (deliverOne env input index command) := by
  refine .bind (.read _) fun attempt => ?_
  refine .bind (keeps_commandsKeyed_of_update fun _ _ => rfl) fun _ => ?_
  exact .bind (keeps_commandsKeyed_of_insert fun _ => rfl) fun _ => .pure _

theorem leaseControlCommands_keyed (env : PlatformEnv) (input : ControlLeaseInput) :
    Tx.Keeps Db.CommandsKeyed (leaseControlCommands env input) := by
  refine .bind (keeps_commandsKeyed_of_update fun _ _ => rfl) fun _ => ?_
  refine .bind (keeps_commandsKeyed_of_update fun _ _ => rfl) fun _ => ?_
  refine .bind (.read _) fun rows => ?_
  exact .forEach 0 fun index command => deliverOne_keyed env input index command

theorem receiptEffects_commands (now : Nat) (command : CommandRow) (state : ReceiptState)
    (endpointRef : Option String) (db : Db) :
    (receiptEffects now command state endpointRef db).commands = db.commands := by
  have config : ∀ db, (applyConfig command state db).commands = db.commands := by
    intro db
    unfold applyConfig
    split
    · rfl
    · rfl
  have backup : ∀ db, (applyBackup command state db).commands = db.commands := by
    intro db
    unfold applyBackup
    dsimp only
    split
    · rfl
    · rfl
  have release : ∀ db, (applyRelease command state db).commands = db.commands := by
    intro db
    unfold applyRelease
    split <;> rfl
  unfold receiptEffects
  rw [release, backup, config]
  split
  · rfl
  · rfl

theorem recordCommandReceipt_keyed (env : PlatformEnv) (input : DeliveryReceipt) :
    Tx.Keeps Db.CommandsKeyed (recordCommandReceipt env input) := by
  refine .bind (.read _) fun delivered => ?_
  cases delivered with
  | none => exact .pure _
  | some command =>
      refine .bind (ensure_keyed _ _ _ _) fun _ => ?_
      refine .bind (.orRaise _ _) fun state => ?_
      refine .bind (keeps_commandsKeyed_of_insert fun db => ?_) fun _ => ?_
      · dsimp only
        split
        · rfl
        · rfl
      refine .bind (keeps_commandsKeyed_of_update fun _ _ => rfl) fun _ => ?_
      refine .bind (keeps_commandsKeyed_of_eq fun _ => rfl) fun _ => ?_
      refine .bind (ensure_keyed _ _ _ _) fun _ => ?_
      refine .bind (keeps_commandsKeyed_of_eq (receiptEffects_commands _ _ _ _)) fun _ => ?_
      exact .read _

/-- The ids of the commands stay apart in every run. -/
theorem commands_keyed {history : List (Transition Db PlatformLabel)} {db : Db}
    (run : Run platformSystem history db) : db.CommandsKeyed := by
  apply run.invariant Db.CommandsKeyed
  · exact fun _ initial => initial
  · rintro before ⟨call, fault⟩ after keyed ⟨others, rfl⟩
    cases call with
    | lifecycle env input => exact (requestAgentLifecycle_keyed env input).inTransaction fault keyed
    | operation env input =>
        exact (requestControlOperation_keyed env input).inTransaction fault keyed
    | lease env input => exact (leaseControlCommands_keyed env input).inTransaction fault keyed
    | receipt env input => exact (recordCommandReceipt_keyed env input).inTransaction fault keyed
    | elsewhere tables => exact others tables rfl

end Keys

end BairuiPlatform
