/-
Module: BairuiPlatform.Channels.HealthEvidence
Purpose: What the calls of both repositories do to the health of bindings, and the runs in
  which a connected binding has evidence about its current credentials.
Trusted boundary: none
Main exports: memoryHealth, memoryHealth_lawful, postgresHealth, postgresHealth_lawful,
  ChannelBinding.Evident, connected_on_evidence, report_connects, stale_report_connects
-/
import BairuiPlatform.Channels.Health
import BairuiPlatform.Channels.MemorySystem
import BairuiPlatform.Channels.Storage

namespace BairuiPlatform

open Foundations

/-! ### The memory repository -/

namespace Memory

/-- The report that a call takes, if it takes one. -/
def Call.taken (call : Call) (store : ChannelStore) : Option HealthReport :=
  match call.request with
  | .saveChannelHealthReport input =>
      match saveChannelHealthReport call.env input store with
      | .ok (some _, _) => some input
      | _ => none
  | _ => none

section Effects

variable {env : ChannelEnv} {store final : ChannelStore} {declared : Option ChannelStatus}

/-- A method that keeps the bindings, or throws, has no effect on their health. -/
theorem quiet_after {α : Type} {method : Method α}
    (keeps : ∀ answer final, method store = .ok (answer, final) →
      Grown ChannelBinding.SameHealth (fun _ => False) store.bindings final.bindings) :
    BindingEffect dateParse declared none store (after method store) := by
  refine .quiet rfl ?_
  unfold after
  cases ran : method store with
  | error error => exact .refl fun row _ => .refl row
  | ok result => exact keeps result.1 result.2 ran

/-- The effect of a binding that is saved. -/
theorem upsert_effect {input : BindingInput} :
    BindingEffect dateParse (some (input.status.getD .pending)) none store
      (after (upsertAgentChannelBinding env input) store) := by
  unfold after upsertAgentChannelBinding
  dsimp only
  cases found : store.bindings.find? fun row =>
      row.agentId = input.agentId && row.channel = input.channel with
  | none =>
      refine .opened rfl rfl ?_ ?_ rfl
      · unfold bindingOf
        dsimp only
        split <;> rfl
      · intro other member same
        have absent := List.find?_eq_none.mp found other member
        unfold ChannelBinding.bindingKey bindingOf at same
        simp_all
  | some old =>
      have own := List.find?_some found
      rw [Bool.and_eq_true, decide_eq_true_eq, decide_eq_true_eq] at own
      have saved : old.Saved (input.status.getD .pending)
          (truthy input.credentialEnvelope).isSome (bindingOf env input (some old)) :=
        ⟨⟨rfl, own.1.symm, own.2.symm⟩, rfl, rfl, rfl, rfl, rfl⟩
      exact .saved rfl rfl saved (replaced_updateFirst found)

/-- A binding admits the reports that the repository finds current. -/
theorem isCurrent_iff {input : HealthReport} {binding : ChannelBinding} :
    isCurrent input binding = true ↔ binding.Admits dateParse input := by
  unfold isCurrent ChannelBinding.Admits
  cases binding.lastHealthAt <;> simp

/-- The effect of a health report. -/
theorem report_effect {input : HealthReport} :
    BindingEffect dateParse declared
      (Call.taken ⟨env, .saveChannelHealthReport input⟩ store) store
      (after (saveChannelHealthReport env input) store) := by
  unfold Call.taken after saveChannelHealthReport
  dsimp only
  cases found : store.bindings.find?
      (isBindingOf input.bindingId input.agentId input.channel) with
  | none => exact .quiet rfl (.refl fun row _ => .refl row)
  | some old =>
      have about : input.About old := List.find?_some found
      have replaced : Replaced old (afterReport env input old) store.bindings
          (updateFirst (isBindingOf input.bindingId input.agentId input.channel)
            (afterReport env input) store.bindings) := replaced_updateFirst found
      by_cases current : isCurrent input old = true
      · have shown : (afterReport env input old).Shows input ∧
            old.SameBinding (afterReport env input old) ∧
            (afterReport env input old).connectionGeneration = old.connectionGeneration := by
          unfold afterReport
          rw [if_pos current]
          exact ⟨⟨rfl, rfl, rfl, rfl, rfl⟩, ⟨rfl, rfl, rfl⟩, rfl⟩
        exact .reported rfl about (isCurrent_iff.mp current) shown.2.1 shown.2.2 shown.1 replaced
      · have kept : afterReport env input old = old := if_neg current
        rw [kept] at replaced
        refine .late rfl (List.mem_of_find?_eq_some found) about ?_ ?_
        · rw [← isCurrent_iff]
          exact current
        · obtain ⟨before, rest, split, updated⟩ := replaced
          exact updated.trans split.symm

/-- Every call has an effect on the health of the bindings. -/
theorem Call.health (call : Call) (store : ChannelStore) :
    BindingEffect dateParse call.request.declared (call.taken store) store
      (call.after store) := by
  obtain ⟨env, request⟩ := call
  cases request with
  | upsertAgentChannelBinding input => exact upsert_effect
  | acceptChannelIngress input =>
      refine quiet_after fun answer final ran => ?_
      unfold acceptChannelIngress at ran
      dsimp only at ran
      split at ran
      · cases ran
        exact .refl fun row _ => .refl row
      · split at ran
        · cases ran
          exact .refl fun row _ => .refl row
        · cases ran
          exact Grown.updateFirst .refl fun row _ =>
            ⟨⟨rfl, rfl, rfl⟩, rfl, rfl, rfl, rfl, rfl, rfl⟩
  | ensureChannelConversation input =>
      refine quiet_after fun answer final ran => ?_
      unfold ensureChannelConversation at ran
      dsimp only at ran
      split at ran <;> (cases ran; exact .refl fun row _ => .refl row)
  | leaseChannelIngress input => exact .quiet rfl (.refl fun row _ => .refl row)
  | completeChannelIngress input =>
      refine quiet_after fun answer final ran => ?_
      unfold completeChannelIngress at ran
      dsimp only at ran
      split at ran
      · cases ran
        exact .refl fun row _ => .refl row
      · split at ran
        · cases ran
        · cases ran
          exact .refl fun row _ => .refl row
  | failChannelIngress input =>
      refine quiet_after fun answer final ran => ?_
      unfold failChannelIngress at ran
      dsimp only at ran
      split at ran <;> (cases ran; exact .refl fun row _ => .refl row)
  | leaseChannelDeliveries input => exact .quiet rfl (.refl fun row _ => .refl row)
  | recordChannelDeliveryReceipt input =>
      refine quiet_after fun answer final ran => ?_
      unfold recordChannelDeliveryReceipt at ran
      split at ran
      · split at ran
        · cases ran
        · cases ran
          exact .refl fun row _ => .refl row
      · split at ran
        · cases ran
          exact .refl fun row _ => .refl row
        · cases ran
          dsimp only
          split
          · exact Grown.updateFirst .refl
              fun row _ => ⟨⟨rfl, rfl, rfl⟩, rfl, rfl, rfl, rfl, rfl, rfl⟩
          · exact .refl fun row _ => .refl row
  | saveChannelHealthReport input => exact report_effect

end Effects

end Memory

/-- MemoryPlatformRepository, as its calls act on the health of bindings. -/
def memoryHealth : HealthRules Memory.Call where
  time := dateParse
  after call := call.after
  declared call := call.request.declared
  taken call := call.taken

theorem memoryHealth_lawful :
    memoryHealth.Lawful fun store => Keyed ChannelBinding.bindingKey store.bindings where
  start store blank := by simp [blank]
  keyed _ keyed := keyed
  effect call store _ := call.health store
  kept call store keyed := (call.health store).keyed keyed

/-! ### The tables -/

namespace Postgres

/-- The report that a call takes, if it takes one. -/
def Call.taken (call : Call) (store : ChannelStore) : Option HealthReport :=
  match call.request with
  | .saveChannelHealthReport input =>
      match ((saveChannelHealthReport call.env.toChannelEnv input).inTransaction call.fault
          store).1 with
      | .ok (some _) => some input
      | _ => none
  | _ => none

/-- The unique columns of the bindings. -/
structure BindingKeys (store : ChannelStore) : Prop where
  ids : Keyed ChannelBinding.id store.bindings
  keys : Keyed ChannelBinding.bindingKey store.bindings

section Effects

variable {env : ChannelEnv} {store final : ChannelStore} {declared : Option ChannelStatus}

/-- A method that keeps the bindings has no effect on their health. -/
theorem quiet_of_transaction {α : Type} {method : Method α} {fault : Option Nat}
    (keeps : ∀ answer final, method.eval store = .ok (answer, final) →
      Grown ChannelBinding.SameHealth (fun _ => False) store.bindings final.bindings) :
    BindingEffect id declared none store (method.inTransaction fault store).2 := by
  refine .quiet rfl ?_
  rcases Tx.inTransaction_cases method fault store with
    ⟨answer, final, ran, executed⟩ | ⟨interruption, executed⟩
  · rw [executed]
    exact keeps answer final ran
  · rw [executed]
    exact .refl fun row _ => .refl row

/-- The effect of a binding that is saved. -/
theorem upsert_health {input : BindingInput} {answer : ChannelBinding}
    (keys : BindingKeys store)
    (ran : (upsertAgentChannelBinding env input).eval store = .ok (answer, final)) :
    BindingEffect id (some (input.status.getD .pending)) none store final ∧
      Keyed ChannelBinding.id final.bindings := by
  simp only [upsertAgentChannelBinding, Tx.eval_read_bind] at ran
  split at ran
  · rename_i old found
    cases ran
    have own := List.find?_some found
    rw [Bool.and_eq_true, decide_eq_true_eq, decide_eq_true_eq] at own
    have saved : old.Saved (input.status.getD .pending) input.credentialEnvelope.isSome
        (mergeBinding env.now (bindingOf env input) old) :=
      ⟨⟨rfl, rfl, rfl⟩, rfl, rfl, rfl, rfl, rfl⟩
    refine ⟨.saved rfl rfl saved ?_, keys.ids.update fun _ => rfl⟩
    apply Replaced.of_keyed keys.keys (List.mem_of_find?_eq_some found)
      (List.find?_some found)
    intro other same
    rw [Bool.and_eq_true, decide_eq_true_eq, decide_eq_true_eq] at same
    unfold ChannelBinding.bindingKey
    rw [same.1, same.2, own.1, own.2]
  · rename_i absent
    simp only [Tx.eval_bind_ok, Tx.eval_insert_ok, Tx.eval_pure, Except.ok.injEq,
      Prod.mk.injEq] at ran
    obtain ⟨_, _, ⟨unused, rfl⟩, -, rfl⟩ := ran
    refine ⟨.opened rfl rfl rfl ?_ rfl, keys.ids.snoc fun other member same => ?_⟩
    · intro other member same
      have none := List.find?_eq_none.mp absent other member
      unfold ChannelBinding.bindingKey bindingOf at same
      simp_all
    · simp only [List.mem_singleton, forall_eq, Bool.not_eq_true', List.any_eq_false,
        decide_eq_true_eq] at unused
      exact unused other member same

/-- A binding admits the reports that the query finds current. -/
theorem isCurrent_iff {input : HealthReport} {binding : ChannelBinding} :
    isCurrent input binding = true ↔ binding.Admits id input := by
  unfold isCurrent ChannelBinding.Admits
  cases binding.lastHealthAt <;> simp

/-- The effect of a health report that was taken. -/
theorem report_health {input : HealthReport} {answer : HealthAnswer} (keys : BindingKeys store)
    (ran : (saveChannelHealthReport env input).eval store = .ok (some answer, final)) :
    BindingEffect id declared (some input) store final := by
  simp only [saveChannelHealthReport, Tx.eval_read_bind] at ran
  split at ran
  · cases ran
  · rename_i old found
    simp only [insertObservation, Tx.eval_bind_ok, Tx.eval_insert_ok, Tx.eval_write_bind,
      Tx.eval_read_bind, Tx.eval_pure, Except.ok.injEq, Prod.mk.injEq] at ran
    obtain ⟨_, _, ⟨-, rfl⟩, -, rfl⟩ := ran
    have member := List.mem_of_find?_eq_some found
    have about : input.About old := List.find?_some found
    by_cases current : isCurrent input old = true
    · have replaced : Replaced old (afterReport env input old) store.bindings
          (updateWhere (fun row => row.id = old.id && isCurrent input row)
            (afterReport env input) store.bindings) := by
        apply Replaced.of_keyed keys.ids member
        · rw [current, Bool.and_true, decide_eq_true_eq]
        · intro other same
          rw [Bool.and_eq_true, decide_eq_true_eq] at same
          exact same.1
      have shown : (afterReport env input old).Shows input := ⟨rfl, rfl, rfl, rfl, rfl⟩
      have same : old.SameBinding (afterReport env input old) := ⟨rfl, rfl, rfl⟩
      exact .reported rfl about (isCurrent_iff.mp current) same rfl shown replaced
    · refine .late rfl member about ?_ (updateWhere_of_none fun row stored => ?_)
      · rw [← isCurrent_iff]
        exact current
      · by_cases own : row.id = old.id
        · rw [keys.ids.eq_of_key_eq stored member own]
          simpa using current
        · simp [own]

/-- The effect of a health report. -/
theorem report_effect {env : PgEnv} {input : HealthReport} {fault : Option Nat}
    (keys : BindingKeys store) :
    BindingEffect id declared (Call.taken ⟨env, .saveChannelHealthReport input, fault⟩ store)
      store ((saveChannelHealthReport env.toChannelEnv input).inTransaction fault store).2 := by
  unfold Call.taken
  dsimp only
  rcases Tx.inTransaction_cases (saveChannelHealthReport env.toChannelEnv input) fault store
    with ⟨answer, final, ran, executed⟩ | ⟨interruption, executed⟩
  · rw [executed]
    cases answer with
    | some answer => exact report_health keys ran
    | none =>
        simp only [saveChannelHealthReport, Tx.eval_read_bind] at ran
        split at ran
        · cases ran
          exact .quiet rfl (.refl fun row _ => .refl row)
        · simp only [insertObservation, Tx.eval_bind_ok, Tx.eval_write_bind,
            Tx.eval_read_bind, Tx.eval_pure, Except.ok.injEq, Prod.mk.injEq] at ran
          obtain ⟨_, _, -, impossible, -⟩ := ran
          cases impossible
  · rw [executed]
    exact .quiet rfl (.refl fun row _ => .refl row)

/-- The bindings after a call that keeps their health. -/
def KeepsHealth (store final : ChannelStore) : Prop :=
  Grown ChannelBinding.SameHealth (fun _ => False) store.bindings final.bindings

theorem KeepsHealth.of_eq (same : final.bindings = store.bindings) : KeepsHealth store final := by
  unfold KeepsHealth
  rw [same]
  exact .refl fun row _ => .refl row

theorem accept_keeps [PgDriver] {input : IngressInput} {answer : Option IngressAnswer}
    (ran : (acceptChannelIngress env input).eval store = .ok (answer, final)) :
    KeepsHealth store final := by
  simp only [acceptChannelIngress, Tx.eval_read_bind] at ran
  split at ran
  · cases ran
    exact .of_eq rfl
  · simp only [Tx.eval_bind_ok, jsonbParam_ok, Tx.eval_read_bind, and_assoc,
      exists_and_left, exists_eq_left] at ran
    obtain ⟨sender, -, content, -, attachments, -, trace, -, ran⟩ := ran
    split at ran
    · cases ran
      exact .of_eq rfl
    · simp only [Tx.eval_bind_ok, Tx.eval_write_bind, insertInbox, Tx.eval_insert_ok,
        Tx.eval_pure, Except.ok.injEq, Prod.mk.injEq] at ran
      obtain ⟨_, _, ⟨-, rfl⟩, -, rfl⟩ := ran
      exact Grown.updateWhere .refl fun row _ _ =>
        ⟨⟨rfl, rfl, rfl⟩, rfl, rfl, rfl, rfl, rfl, rfl⟩

theorem conversation_keeps {input : ConversationInput} {answer : ChannelConversation}
    (ran : (ensureChannelConversation env input).eval store = .ok (answer, final)) :
    KeepsHealth store final := by
  simp only [ensureChannelConversation, Tx.eval_read_bind] at ran
  split at ran
  · cases ran
    exact .of_eq rfl
  · simp only [Tx.eval_bind_ok, Tx.eval_insert_ok, Tx.eval_pure, Except.ok.injEq,
      Prod.mk.injEq] at ran
    obtain ⟨_, _, ⟨-, rfl⟩, -, rfl⟩ := ran
    exact .of_eq rfl

theorem complete_keeps [PgDriver] {input : IngressCompletion} {answer : Option CompletionAnswer}
    (ran : (completeChannelIngress env input).eval store = .ok (answer, final)) :
    KeepsHealth store final := by
  simp only [completeChannelIngress, Tx.eval_read_bind] at ran
  split at ran
  · cases ran
    exact .of_eq rfl
  · simp only [Tx.eval_bind_ok, Tx.eval_write_bind, Tx.eval_pure, Except.ok.injEq,
      Prod.mk.injEq] at ran
    obtain ⟨outbound, middle, queued, -, rfl⟩ := ran
    obtain ⟨reply, rfl, -⟩ := queueReply_ok queued
    exact .of_eq rfl

theorem fail_keeps {input : IngressFailure} {answer : Option ChannelInboxRow}
    (ran : (failChannelIngress env input).eval store = .ok (answer, final)) :
    KeepsHealth store final := by
  simp only [failChannelIngress, Tx.eval_read_bind] at ran
  split at ran
  · cases ran
    exact .of_eq rfl
  · simp only [Tx.eval_bind_ok, Tx.eval_write_bind, Tx.eval_whenever_ok, Tx.eval_pure,
      Except.ok.injEq, Prod.mk.injEq] at ran
    obtain ⟨_, _, buried, -, rfl⟩ := ran
    rcases buried with ⟨-, inserted⟩ | ⟨-, rfl⟩
    · rw [insertLetter_ok inserted]
      exact .of_eq rfl
    · exact .of_eq rfl

theorem receipt_keeps {input : ChannelReceiptInput} {answer : Option ChannelReceiptAnswer}
    (ran : (recordChannelDeliveryReceipt env input).eval store = .ok (answer, final)) :
    KeepsHealth store final := by
  simp only [recordChannelDeliveryReceipt, Tx.eval_read_bind] at ran
  split at ran
  · simp only [Tx.eval_bind_ok, Tx.eval_require_ok, Tx.eval_read_bind, Tx.eval_pure,
      Except.ok.injEq, Prod.mk.injEq] at ran
    obtain ⟨_, _, ⟨-, rfl⟩, -, rfl⟩ := ran
    exact .of_eq rfl
  · rw [Tx.eval_read_bind] at ran
    split at ran
    · cases ran
      exact .of_eq rfl
    · simp only [Tx.eval_bind_ok, Tx.eval_write_bind, insertReceipt, Tx.eval_insert_ok,
        Tx.eval_whenever_ok, Tx.eval_write, Tx.eval_pure, Except.ok.injEq,
        Prod.mk.injEq] at ran
      obtain ⟨_, _, ⟨-, rfl⟩, _, middle, buried, _, _, delivered, -, rfl⟩ := ran
      -- A dead letter leaves the bindings alone; a delivery stamps one of them.
      have bindings : middle.bindings = store.bindings := by
        rcases buried with ⟨-, inserted⟩ | ⟨-, rfl⟩
        · rw [insertLetter_ok inserted]
        · rfl
      rcases delivered with ⟨-, -, rfl⟩ | ⟨-, rfl⟩
      · unfold KeepsHealth
        rw [← bindings]
        exact Grown.updateWhere .refl fun row _ _ =>
          ⟨⟨rfl, rfl, rfl⟩, rfl, rfl, rfl, rfl, rfl, rfl⟩
      · exact .of_eq bindings

end Effects

/-- Every call has an effect on the health of the bindings, and keeps their keys. -/
theorem Call.health [PgDriver] (call : Call) {store : ChannelStore} (keys : BindingKeys store) :
    BindingEffect id call.request.declared (call.taken store) store (call.after store) ∧
      BindingKeys (call.after store) := by
  have keeps (effect : BindingEffect id call.request.declared (call.taken store) store
      (call.after store)) (unsaved : call.request.declared = none) :
      BindingEffect id call.request.declared (call.taken store) store (call.after store) ∧
        BindingKeys (call.after store) := by
    refine ⟨effect, ?_, effect.keyed keys.keys⟩
    rw [unsaved] at effect
    unfold Keyed
    rw [effect.ids]
    exact keys.ids
  obtain ⟨env, request, fault⟩ := call
  cases request with
  | upsertAgentChannelBinding input =>
      rcases Tx.inTransaction_cases (upsertAgentChannelBinding env.toChannelEnv input) fault
        store with ⟨answer, final, ran, executed⟩ | ⟨interruption, executed⟩
      · obtain ⟨effect, ids⟩ := upsert_health keys ran
        have after : Call.after ⟨env, .upsertAgentChannelBinding input, fault⟩ store = final :=
          congrArg Prod.snd executed
        rw [after]
        exact ⟨effect, ids, effect.keyed keys.keys⟩
      · have after : Call.after ⟨env, .upsertAgentChannelBinding input, fault⟩ store = store :=
          congrArg Prod.snd executed
        rw [after]
        exact ⟨.quiet rfl (.refl fun row _ => .refl row), keys⟩
  | acceptChannelIngress input =>
      exact keeps (quiet_of_transaction fun _ _ => accept_keeps) rfl
  | ensureChannelConversation input =>
      exact keeps (quiet_of_transaction fun _ _ => conversation_keeps) rfl
  | leaseChannelIngress input =>
      refine keeps (quiet_of_transaction fun answer final ran => ?_) rfl
      simp only [leaseChannelIngress, Tx.eval_read_bind, Tx.eval_write_bind, Tx.eval_read] at ran
      cases ran
      exact KeepsHealth.of_eq rfl
  | completeChannelIngress input =>
      exact keeps (quiet_of_transaction fun _ _ => complete_keeps) rfl
  | failChannelIngress input =>
      exact keeps (quiet_of_transaction fun _ _ => fail_keeps) rfl
  | leaseChannelDeliveries input =>
      refine keeps (quiet_of_transaction fun answer final ran => ?_) rfl
      simp only [leaseChannelDeliveries, Tx.eval_read_bind, Tx.eval_write_bind,
        Tx.eval_pure] at ran
      cases ran
      exact KeepsHealth.of_eq rfl
  | recordChannelDeliveryReceipt input =>
      exact keeps (quiet_of_transaction fun _ _ => receipt_keeps) rfl
  | saveChannelHealthReport input => exact keeps (report_effect keys) rfl

end Postgres

/-- PostgresPlatformRepository, as its calls act on the health of bindings. -/
def postgresHealth [PgDriver] : HealthRules Postgres.Call where
  time := id
  after call := call.after
  declared call := call.request.declared
  taken call := call.taken

theorem postgresHealth_lawful [PgDriver] : postgresHealth.Lawful Postgres.BindingKeys where
  start store blank := ⟨by simp [blank], by simp [blank]⟩
  keyed _ keys := keys.keys
  effect call _ keys := (call.health keys).1
  kept call _ keys := (call.health keys).2

/-! ### Evidence -/

/-- Of the reports that were taken on a binding from adapters with its current credentials, the
report is one that no other is later than. -/
def ProducedReport.Latest (time : Nat → Nat) (reports : List ProducedReport)
    (binding : ChannelBinding) (produced : ProducedReport) : Prop :=
  produced ∈ reports ∧ produced.report.About binding ∧
    produced.generation = binding.connectionGeneration ∧
    ∀ other ∈ reports, other.report.About binding →
      other.generation = binding.connectionGeneration →
      time other.report.observedAt ≤ time produced.report.observedAt

/-- A binding is connected only if the latest report from an adapter with its current
credentials says so, and then it has the health that this report tells. In any status, its
health columns are those of the latest such report, if there is one. -/
structure ChannelBinding.Evident (time : Nat → Nat) (reports : List ProducedReport)
    (binding : ChannelBinding) : Prop where
  connected : binding.status = .connected → ∃ produced : ProducedReport,
    produced.Latest time reports binding ∧ produced.report.status = .connected ∧
      binding.Shows produced.report
  reported : ∀ instant, binding.lastHealthAt = some instant → ∃ produced : ProducedReport,
    produced.Latest time reports binding ∧ produced.report.observedAt = instant ∧
      binding.capabilities = produced.report.capabilities.getD [] ∧
      binding.adapterVersion = produced.report.adapterVersion
  unreported : binding.lastHealthAt = none → ∀ produced ∈ reports,
    produced.report.About binding → produced.generation ≠ binding.connectionGeneration

/-- A binding that displays the latest report of its generation is evident. -/
theorem ChannelBinding.Attested.evident {time : Nat → Nat} {reports : List ProducedReport}
    {binding : ChannelBinding} (attested : binding.Attested time reports) :
    binding.Evident time reports := by
  obtain ⟨gauge, displays, shows'⟩ := attested
  have latest : ∀ shown ∈ gauge.latest, ∃ produced : ProducedReport,
      produced.Latest time reports binding ∧ produced.report = shown.2 := by
    intro shown member
    obtain ⟨⟨reading, known, own, same⟩, newest⟩ := shows'.latest shown member
    obtain ⟨produced, taken, about, rfl⟩ := mem_readingsOf.mp known
    rw [← same] at newest ⊢
    refine ⟨produced, ⟨taken, about, own.trans displays.epoch, ?_⟩, rfl⟩
    intro other otherTaken named sameGeneration
    exact newest (other.reading time) (mem_readingsOf.mpr ⟨other, otherTaken, named, rfl⟩)
      (sameGeneration.trans displays.epoch.symm)
  constructor
  · intro connected
    obtain ⟨shown, member, health⟩ := displays.connected connected
    obtain ⟨produced, newest, same⟩ := latest shown member
    rw [← same] at health
    exact ⟨produced, newest, health.status.symm.trans connected, health⟩
  · intro instant stored
    cases entry : gauge.latest with
    | none =>
        rw [displays.blank entry] at stored
        cases stored
    | some shown =>
        obtain ⟨-, observed, capabilities, adapterVersion⟩ := displays.latest shown entry
        obtain ⟨produced, newest, same⟩ := latest shown entry
        rw [stored, ← same, Option.some.injEq] at observed
        rw [← same] at capabilities adapterVersion
        exact ⟨produced, newest, observed.symm, capabilities, adapterVersion⟩
  · intro blank produced taken about same
    cases entry : gauge.latest with
    | none =>
        exact shows'.blank entry (produced.reading time)
          (mem_readingsOf.mpr ⟨produced, taken, about, rfl⟩) (same.trans displays.epoch.symm)
    | some shown =>
        obtain ⟨-, observed, -⟩ := displays.latest shown entry
        rw [blank] at observed
        cases observed

/-- In both repositories, every binding is evident in a run in which no call saves a binding as
connected, and the reports that change a binding come from adapters with its current
credentials. -/
theorem connected_on_evidence [PgDriver] :
    (∀ history store, Run memoryHealth.system history store →
        (∀ transition ∈ history, memoryHealth.Current transition) →
          ∀ binding ∈ store.bindings,
            binding.Evident dateParse (memoryHealth.reports history)) ∧
      ∀ history store, Run postgresHealth.system history store →
        (∀ transition ∈ history, postgresHealth.Current transition) →
          ∀ binding ∈ store.bindings,
            binding.Evident id (postgresHealth.reports history) := by
  constructor
  · intro history store run isCurrent binding member
    have attests := HealthRules.attests_of_run memoryHealth_lawful run isCurrent
    exact (attests.attested binding member).evident
  · intro history store run isCurrent binding member
    have attests := HealthRules.attests_of_run postgresHealth_lawful run isCurrent
    exact (attests.attested binding member).evident

section Sample

attribute [local instance] sampleDriver

/-- An upsert of the sample binding with some credentials, pending. -/
def sampleSave (credentialEnvelope : String) : HealthCall Memory.Call :=
  { call :=
      { env := { now := 0, uuids := fun _ => "binding" }
        request := .upsertAgentChannelBinding
          { id := none
            organizationId := "org"
            userId := "user"
            agentId := "agent"
            channel := .feishu
            displayName := "Feishu"
            status := none
            credentialEnvelope := some credentialEnvelope
            credentialHint := none
            metadata := none
            lastErrorCode := none } }
    generation := 0 }

/-- A report that an adapter with the first credentials is connected. -/
def sampleReport : HealthCall Memory.Call :=
  { call :=
      { env := { now := 0, uuids := fun _ => "report" }
        request := .saveChannelHealthReport
          { id := none
            bindingId := "binding"
            agentId := "agent"
            channel := .feishu
            workerId := "worker"
            sequence := 1
            status := .connected
            capabilities := none
            adapterVersion := none
            latencyMs := none
            lastInboundAt := none
            lastOutboundAt := none
            errorCode := none
            observedAt := 0 } }
    generation := 1 }

/-- The store after some calls, the latest one first. -/
def sampleHealth : List (HealthCall Memory.Call) → ChannelStore
  | [] => { sampleChannels with bindings := [] }
  | label :: earlier => memoryHealth.after label.call (sampleHealth earlier)

/-- The transitions of some calls, the latest one first. -/
def sampleHealthHistory : List (HealthCall Memory.Call) →
    List (Transition ChannelStore (HealthCall Memory.Call))
  | [] => []
  | label :: earlier =>
      ⟨sampleHealth earlier, label, sampleHealth (label :: earlier)⟩ ::
        sampleHealthHistory earlier

theorem sampleHealth_saves (envelopes : List String) :
    Run memoryHealth.system (sampleHealthHistory (envelopes.map sampleSave))
      (sampleHealth (envelopes.map sampleSave)) := by
  induction envelopes with
  | nil => exact .start rfl
  | cons envelope earlier ih =>
      refine .step ih ⟨rfl, fun input takes => ?_⟩
      cases takes

/-- The sample report takes the binding of a store whose generations have begun. -/
theorem sampleHealth_report {calls : List (HealthCall Memory.Call)}
    (run : Run memoryHealth.system (sampleHealthHistory calls) (sampleHealth calls))
    (begun : ∀ binding ∈ (sampleHealth calls).bindings, 1 ≤ binding.connectionGeneration) :
    Run memoryHealth.system (sampleHealthHistory (sampleReport :: calls))
      (sampleHealth (sampleReport :: calls)) :=
  .step run ⟨rfl, fun _ _ binding member _ => begun binding member⟩

/-- A report of the credentials that were saved makes the binding connected. -/
theorem report_connects :
    ∀ binding ∈ (sampleHealth [sampleReport, sampleSave "first"]).bindings,
      binding.Evident dateParse (memoryHealth.reports
        (sampleHealthHistory [sampleReport, sampleSave "first"])) := by
  apply connected_on_evidence.1
  · exact sampleHealth_report (sampleHealth_saves ["first"]) (by decide)
  · intro transition member
    have cases := List.mem_cons.mp member
    rcases cases with rfl | member
    · refine ⟨by decide, fun input takes binding stored _ _ => ?_⟩
      have own : ∀ binding ∈ (sampleHealth [sampleSave "first"]).bindings,
          1 = binding.connectionGeneration := by decide
      exact own binding stored
    · rw [List.mem_singleton.mp member]
      exact ⟨by decide, fun input takes => by cases takes⟩

end Sample

/-! ### A late report -/

/-- A report of the first credentials that arrives after the second ones were saved makes the
binding connected, and no report of the second credentials was ever taken. -/
theorem stale_report_connects :
    Run memoryHealth.system
        (sampleHealthHistory [sampleReport, sampleSave "second", sampleSave "first"])
        (sampleHealth [sampleReport, sampleSave "second", sampleSave "first"]) ∧
      ∃ binding ∈ (sampleHealth
          [sampleReport, sampleSave "second", sampleSave "first"]).bindings,
        binding.status = .connected ∧ ¬binding.Evident dateParse (memoryHealth.reports
          (sampleHealthHistory [sampleReport, sampleSave "second", sampleSave "first"])) := by
  refine ⟨sampleHealth_report (sampleHealth_saves ["second", "first"]) (by decide), ?_⟩
  have columns : (sampleHealth [sampleReport, sampleSave "second", sampleSave "first"]).bindings.map
      (fun binding => (binding.status, binding.connectionGeneration)) = [(.connected, 2)] := by
    decide
  have produced : (memoryHealth.reports (sampleHealthHistory
      [sampleReport, sampleSave "second", sampleSave "first"])).map
        ProducedReport.generation = [1] := by decide
  obtain ⟨binding, rows, same⟩ := List.map_eq_singleton_iff.mp columns
  obtain ⟨connected, generation⟩ := Prod.mk.inj same
  refine ⟨binding, ?_, connected, fun evident => ?_⟩
  · rw [rows]
    exact List.mem_cons_self
  · obtain ⟨report, ⟨taken, -, current, -⟩, -⟩ := evident.connected connected
    have known := List.mem_map_of_mem (f := ProducedReport.generation) taken
    rw [produced, current, generation] at known
    revert known
    decide

end BairuiPlatform
