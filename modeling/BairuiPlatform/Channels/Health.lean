/-
Module: BairuiPlatform.Channels.Health
Purpose: Bindings as gauges of the health reports on their credentials: what a call does to
  the health of a binding, and the runs in which it shows the latest report of its generation.
Trusted boundary: none
Main exports: BindingEffect, HealthRules, HealthRules.Lawful, ChannelBinding.Attested,
  HealthRules.attested_of_run
-/
import BairuiPlatform.Channels.System
import BairuiPlatform.Foundations.Gauge
import BairuiPlatform.Foundations.Transition

namespace BairuiPlatform

open Foundations

/-! ### What a call does to a binding -/

/-- The agent and the channel of a binding. -/
def ChannelBinding.bindingKey (binding : ChannelBinding) : String × Channel :=
  (binding.agentId, binding.channel)

/-- The report names the binding. -/
def HealthReport.About (report : HealthReport) (binding : ChannelBinding) : Prop :=
  isBindingOf report.bindingId report.agentId report.channel binding = true

/-- The report is not older than the health of the binding. -/
def ChannelBinding.Admits (time : Nat → Nat) (report : HealthReport)
    (binding : ChannelBinding) : Prop :=
  ∀ instant ∈ binding.lastHealthAt, time instant ≤ time report.observedAt

/-- The same binding. -/
structure ChannelBinding.SameBinding (old new : ChannelBinding) : Prop where
  id : new.id = old.id
  agentId : new.agentId = old.agentId
  channel : new.channel = old.channel

/-- The same binding with the same health. -/
structure ChannelBinding.SameHealth (old new : ChannelBinding) : Prop
    extends old.SameBinding new where
  status : new.status = old.status
  generation : new.connectionGeneration = old.connectionGeneration
  capabilities : new.capabilities = old.capabilities
  adapterVersion : new.adapterVersion = old.adapterVersion
  lastErrorCode : new.lastErrorCode = old.lastErrorCode
  lastHealthAt : new.lastHealthAt = old.lastHealthAt

/-- A binding that is saved again, with new credentials or without. -/
structure ChannelBinding.Saved (status : ChannelStatus) (renewed : Bool)
    (old new : ChannelBinding) : Prop extends old.SameBinding new where
  status : new.status = status
  generation : new.connectionGeneration = old.connectionGeneration + if renewed then 1 else 0
  capabilities : new.capabilities = if renewed then [] else old.capabilities
  adapterVersion : new.adapterVersion = if renewed then none else old.adapterVersion
  lastHealthAt : new.lastHealthAt = if renewed then none else old.lastHealthAt

/-- A binding has the health that a report tells. -/
structure ChannelBinding.Shows (report : HealthReport) (binding : ChannelBinding) : Prop where
  status : binding.status = report.status
  capabilities : binding.capabilities = report.capabilities.getD []
  adapterVersion : binding.adapterVersion = report.adapterVersion
  lastErrorCode : binding.lastErrorCode = report.errorCode
  lastHealthAt : binding.lastHealthAt = some report.observedAt

/-- What a call does to the bindings, where `declared` is the status that it saves a binding
with, and `taken` is the report that it takes. -/
inductive BindingEffect (time : Nat → Nat) (declared : Option ChannelStatus)
    (taken : Option HealthReport) (store store' : ChannelStore) : Prop where
  | quiet (nothing : taken = none)
      (bindings : Grown ChannelBinding.SameHealth (fun _ => False) store.bindings
        store'.bindings)
  | opened {row : ChannelBinding} (nothing : taken = none)
      (status : declared = some row.status) (unreported : row.lastHealthAt = none)
      (first : ∀ other ∈ store.bindings, other.bindingKey ≠ row.bindingKey)
      (bindings : store'.bindings = store.bindings ++ [row])
  | saved {status : ChannelStatus} {renewed : Bool} {old new : ChannelBinding}
      (nothing : taken = none) (status' : declared = some status)
      (saved : old.Saved status renewed new)
      (bindings : Replaced old new store.bindings store'.bindings)
  | reported {input : HealthReport} {old new : ChannelBinding} (takes : taken = some input)
      (about : input.About old) (admitted : old.Admits time input)
      (same : old.SameBinding new)
      (generation : new.connectionGeneration = old.connectionGeneration)
      (shows' : new.Shows input) (bindings : Replaced old new store.bindings store'.bindings)
  | late {input : HealthReport} {old : ChannelBinding} (takes : taken = some input)
      (member : old ∈ store.bindings) (about : input.About old)
      (refused : ¬old.Admits time input) (bindings : store'.bindings = store.bindings)

theorem ChannelBinding.SameHealth.refl (binding : ChannelBinding) :
    binding.SameHealth binding :=
  ⟨⟨rfl, rfl, rfl⟩, rfl, rfl, rfl, rfl, rfl, rfl⟩

theorem ChannelBinding.SameBinding.about_iff {old new : ChannelBinding}
    (same : old.SameBinding new) (report : HealthReport) :
    report.About new ↔ report.About old := by
  unfold HealthReport.About isBindingOf
  rw [same.id, same.agentId, same.channel]

theorem ChannelBinding.SameBinding.bindingKey {old new : ChannelBinding}
    (same : old.SameBinding new) : new.bindingKey = old.bindingKey := by
  unfold ChannelBinding.bindingKey
  rw [same.agentId, same.channel]

/-- A report names the agent and the channel of its binding. -/
theorem HealthReport.About.bindingKey {report : HealthReport} {binding : ChannelBinding}
    (about : report.About binding) : binding.bindingKey = (report.agentId, report.channel) := by
  unfold HealthReport.About isBindingOf at about
  simp only [Bool.and_eq_true, decide_eq_true_eq] at about
  unfold ChannelBinding.bindingKey
  rw [about.1.2, about.2]

/-- A call that saves no binding keeps the ids of the bindings. -/
theorem BindingEffect.ids {time : Nat → Nat} {taken : Option HealthReport}
    {store store' : ChannelStore} (effect : BindingEffect time none taken store store') :
    store'.bindings.map ChannelBinding.id = store.bindings.map ChannelBinding.id := by
  cases effect with
  | quiet nothing bindings => exact bindings.map_eq fun old new same => same.id
  | opened nothing status => cases status
  | saved nothing status => cases status
  | reported takes about admitted binding generation shows' bindings =>
      refine bindings.grown.map_eq fun first second later => ?_
      rcases later with rfl | ⟨rfl, rfl⟩
      · rfl
      · exact binding.id
  | late takes member about refused bindings => rw [bindings]

/-- Every call keeps the keys of the bindings. -/
theorem BindingEffect.keyed {time : Nat → Nat} {declared : Option ChannelStatus}
    {taken : Option HealthReport} {store store' : ChannelStore}
    (effect : BindingEffect time declared taken store store')
    (keyed : Keyed ChannelBinding.bindingKey store.bindings) :
    Keyed ChannelBinding.bindingKey store'.bindings := by
  have same (columns : store'.bindings.map ChannelBinding.bindingKey =
      store.bindings.map ChannelBinding.bindingKey) :
      Keyed ChannelBinding.bindingKey store'.bindings := by
    unfold Keyed
    rw [columns]
    exact keyed
  have replaced {old new : ChannelBinding} (binding : old.SameBinding new)
      (bindings : Replaced old new store.bindings store'.bindings) :
      Keyed ChannelBinding.bindingKey store'.bindings := by
    refine same (bindings.grown.map_eq fun first second later => ?_)
    rcases later with rfl | ⟨rfl, rfl⟩
    · rfl
    · exact binding.bindingKey
  cases effect with
  | quiet nothing bindings =>
      exact same (bindings.map_eq fun old new same => same.toSameBinding.bindingKey)
  | opened nothing status unreported first bindings =>
      rw [bindings]
      exact keyed.snoc first
  | saved nothing status saved bindings => exact replaced saved.toSameBinding bindings
  | reported takes about admitted binding generation shows' bindings =>
      exact replaced binding bindings
  | late takes member about refused bindings => exact same (by rw [bindings])

/-! ### Reports -/

/-- A health report that a repository took, and the generation of the binding whose
credentials the adapter held that produced it. -/
structure ProducedReport where
  report : HealthReport
  generation : Nat

/-- A report as a reading of its generation. -/
def ProducedReport.reading (time : Nat → Nat) (produced : ProducedReport) :
    Reading Nat HealthReport :=
  { epoch := produced.generation
    time := time produced.report.observedAt
    value := produced.report }

/-- The readings of a binding. -/
def readingsOf (time : Nat → Nat) (reports : List ProducedReport) (binding : ChannelBinding) :
    List (Reading Nat HealthReport) :=
  (reports.filter fun produced =>
    isBindingOf produced.report.bindingId produced.report.agentId produced.report.channel
      binding).map (ProducedReport.reading time)

section Readings

variable {time : Nat → Nat} {reports : List ProducedReport} {binding : ChannelBinding}

theorem readingsOf_same {new : ChannelBinding} (same : binding.SameBinding new) :
    readingsOf time reports new = readingsOf time reports binding := by
  unfold readingsOf isBindingOf
  rw [same.id, same.agentId, same.channel]

theorem readingsOf_cons_about {produced : ProducedReport}
    (about : produced.report.About binding) :
    readingsOf time (produced :: reports) binding =
      produced.reading time :: readingsOf time reports binding := by
  unfold HealthReport.About at about
  unfold readingsOf
  rw [List.filter_cons, if_pos about, List.map_cons]

theorem readingsOf_cons_other {produced : ProducedReport}
    (other : ¬produced.report.About binding) :
    readingsOf time (produced :: reports) binding = readingsOf time reports binding := by
  unfold HealthReport.About at other
  unfold readingsOf
  rw [List.filter_cons, if_neg other]

theorem readingsOf_eq_nil (unnamed : ∀ produced ∈ reports, ¬produced.report.About binding) :
    readingsOf time reports binding = [] := by
  unfold readingsOf
  rw [List.filter_eq_nil_iff.mpr unnamed, List.map_nil]

theorem mem_readingsOf {reading : Reading Nat HealthReport} :
    reading ∈ readingsOf time reports binding ↔
      ∃ produced ∈ reports, produced.report.About binding ∧ produced.reading time = reading := by
  unfold readingsOf HealthReport.About
  simp only [List.mem_map, List.mem_filter, and_assoc]

end Readings

/-! ### Bindings as gauges -/

/-- The columns of a binding display a gauge of the reports on it. -/
structure ChannelBinding.Displays (time : Nat → Nat) (binding : ChannelBinding)
    (gauge : Gauge Nat HealthReport) : Prop where
  epoch : gauge.epoch = binding.connectionGeneration
  latest : ∀ shown ∈ gauge.latest, shown.1 = time shown.2.observedAt ∧
    binding.lastHealthAt = some shown.2.observedAt ∧
    binding.capabilities = shown.2.capabilities.getD [] ∧
    binding.adapterVersion = shown.2.adapterVersion
  blank : gauge.latest = none → binding.lastHealthAt = none
  connected : binding.status = .connected → ∃ shown ∈ gauge.latest, binding.Shows shown.2

/-- A binding displays the latest report of its generation. -/
def ChannelBinding.Attested (time : Nat → Nat) (reports : List ProducedReport)
    (binding : ChannelBinding) : Prop :=
  ∃ gauge, binding.Displays time gauge ∧ gauge.Shows (readingsOf time reports binding)

namespace ChannelBinding

variable {time : Nat → Nat} {binding old new : ChannelBinding}
  {gauge : Gauge Nat HealthReport} {reports : List ProducedReport}

/-- A binding admits the reports that its gauge admits. -/
theorem Displays.admits_iff (displays : binding.Displays time gauge) (report : HealthReport) :
    gauge.Admits (time report.observedAt) ↔ binding.Admits time report := by
  unfold Gauge.Admits ChannelBinding.Admits
  cases latest : gauge.latest with
  | none =>
      rw [displays.blank latest]
      constructor
      · intro _ instant member
        cases member
      · intro _ shown member
        cases member
  | some shown =>
      obtain ⟨instant, stored, -⟩ := displays.latest shown latest
      rw [stored]
      constructor
      · intro admitted other member
        cases member
        rw [← instant]
        exact admitted shown rfl
      · intro admitted other member
        cases member
        rw [instant]
        exact admitted _ rfl

/-- A binding with the same health displays the same gauge. -/
theorem Displays.same (displays : old.Displays time gauge) (same : old.SameHealth new) :
    new.Displays time gauge where
  epoch := displays.epoch.trans same.generation.symm
  latest shown member := by
    rw [same.lastHealthAt, same.capabilities, same.adapterVersion]
    exact displays.latest shown member
  blank missing := same.lastHealthAt.trans (displays.blank missing)
  connected connected := by
    obtain ⟨shown, member, shows'⟩ := displays.connected (same.status.symm.trans connected)
    exact ⟨shown, member, same.status.trans shows'.status,
      same.capabilities.trans shows'.capabilities,
      same.adapterVersion.trans shows'.adapterVersion,
      same.lastErrorCode.trans shows'.lastErrorCode,
      same.lastHealthAt.trans shows'.lastHealthAt⟩

theorem Attested.same (attested : old.Attested time reports) (same : old.SameHealth new) :
    new.Attested time reports := by
  obtain ⟨gauge, displays, shows'⟩ := attested
  refine ⟨gauge, displays.same same, ?_⟩
  rw [readingsOf_same same.toSameBinding]
  exact shows'

/-- A report on another binding changes nothing. -/
theorem Attested.other {produced : ProducedReport} (attested : binding.Attested time reports)
    (other : ¬produced.report.About binding) : binding.Attested time (produced :: reports) := by
  unfold ChannelBinding.Attested
  rw [readingsOf_cons_other other]
  exact attested

/-- A binding that is saved without the status connected. -/
theorem Attested.saved {status : ChannelStatus} {renewed : Bool}
    (attested : old.Attested time reports) (saved : old.Saved status renewed new)
    (modest : status ≠ .connected) : new.Attested time reports := by
  obtain ⟨gauge, displays, shows'⟩ := attested
  have unconnected : ¬new.status = .connected := by
    rw [saved.status]
    exact modest
  unfold ChannelBinding.Attested
  rw [readingsOf_same saved.toSameBinding]
  cases renewed with
  | true =>
      refine ⟨⟨gauge.epoch + 1, none⟩, ?_, shows'.step (.renew gauge) (by simp)⟩
      refine ⟨?_, by simp, fun _ => saved.lastHealthAt, fun connected => ?_⟩
      · rw [displays.epoch]
        exact saved.generation.symm
      · exact absurd connected unconnected
  | false =>
      refine ⟨gauge, ?_, shows'⟩
      refine ⟨displays.epoch.trans saved.generation.symm, fun shown member => ?_,
        fun missing => saved.lastHealthAt.trans (displays.blank missing), fun connected => ?_⟩
      · rw [saved.lastHealthAt, saved.capabilities, saved.adapterVersion]
        exact displays.latest shown member
      · exact absurd connected unconnected

/-- A binding with a report of its generation that it admits. -/
theorem Attested.reported {produced : ProducedReport} (attested : old.Attested time reports)
    (about : produced.report.About old) (admitted : old.Admits time produced.report)
    (own : produced.generation = old.connectionGeneration) (same : old.SameBinding new)
    (generation : new.connectionGeneration = old.connectionGeneration)
    (shows' : new.Shows produced.report) : new.Attested time (produced :: reports) := by
  obtain ⟨gauge, displays, showsGauge⟩ := attested
  have epoch : (produced.reading time).epoch = gauge.epoch := own.trans displays.epoch.symm
  have step := showsGauge.step
    (.accept epoch ((displays.admits_iff produced.report).mpr admitted))
    (fun reading member => by cases member; exact Nat.le_of_eq epoch)
  unfold ChannelBinding.Attested
  rw [readingsOf_same same, readingsOf_cons_about about]
  refine ⟨_, ?_, step⟩
  refine ⟨displays.epoch.trans generation.symm, fun shown member => ?_, fun missing => ?_,
    fun _ => ⟨_, rfl, shows'⟩⟩
  · cases member
    exact ⟨rfl, shows'.lastHealthAt, shows'.capabilities, shows'.adapterVersion⟩
  · cases missing

/-- A binding with a report that it does not admit. -/
theorem Attested.late {produced : ProducedReport} (attested : binding.Attested time reports)
    (about : produced.report.About binding) (refused : ¬binding.Admits time produced.report)
    (possible : produced.generation ≤ binding.connectionGeneration) :
    binding.Attested time (produced :: reports) := by
  obtain ⟨gauge, displays, shows'⟩ := attested
  have late : ¬gauge.Admits (produced.reading time).time := by
    intro admitted
    exact refused ((displays.admits_iff produced.report).mp admitted)
  unfold ChannelBinding.Attested
  rw [readingsOf_cons_about about]
  refine ⟨gauge, displays, shows'.step (.ignore late) fun reading member => ?_⟩
  cases member
  rw [displays.epoch]
  exact possible

/-- A binding that no report named before and that is not connected. -/
theorem Attested.opened (unconnected : binding.status ≠ .connected)
    (unreported : binding.lastHealthAt = none)
    (unnamed : ∀ produced ∈ reports, ¬produced.report.About binding) :
    binding.Attested time reports := by
  unfold ChannelBinding.Attested
  rw [readingsOf_eq_nil unnamed]
  refine ⟨⟨binding.connectionGeneration, none⟩, ?_, .new _⟩
  exact ⟨rfl, by simp, fun _ => unreported, fun connected => absurd connected unconnected⟩

end ChannelBinding

/-! ### Runs -/

/-- How the calls of a repository act on the health of bindings. -/
structure HealthRules (Call : Type) where
  time : Nat → Nat
  after : Call → ChannelStore → ChannelStore
  declared : Call → Option ChannelStatus
  taken : Call → ChannelStore → Option HealthReport

/-- A call, and the generation whose credentials the adapter held that produced its report, if
it has one. -/
structure HealthCall (Call : Type) where
  call : Call
  generation : Nat

namespace HealthRules

variable {Call : Type} (rules : HealthRules Call)

/-- The calls of a repository as a transition system, from a store without bindings. An adapter
has no credentials of a generation that is yet to come. -/
def system : TransitionSystem ChannelStore (HealthCall Call) where
  initial store := store.bindings = []
  step before label after :=
    after = rules.after label.call before ∧
      ∀ input ∈ rules.taken label.call before, ∀ binding ∈ before.bindings,
        input.About binding → label.generation ≤ binding.connectionGeneration

/-- The reports that were taken in a run, the latest one first. -/
def reports (history : List (Transition ChannelStore (HealthCall Call))) :
    List ProducedReport :=
  history.filterMap fun transition =>
    (rules.taken transition.label.call transition.before).map fun report =>
      ⟨report, transition.label.generation⟩

/-- The effects of the calls, with the keys of the bindings that they keep. -/
structure Lawful (Kept : ChannelStore → Prop) : Prop where
  start : ∀ store, store.bindings = [] → Kept store
  keyed : ∀ store, Kept store → Keyed ChannelBinding.bindingKey store.bindings
  effect : ∀ call store, Kept store →
    BindingEffect rules.time (rules.declared call) (rules.taken call store) store
      (rules.after call store)
  kept : ∀ call store, Kept store → Kept (rules.after call store)

/-- A call does not save a binding as connected, and a report that changes a binding comes from
an adapter that holds its current credentials. -/
structure Current (transition : Transition ChannelStore (HealthCall Call)) : Prop where
  modest : rules.declared transition.label.call ≠ some .connected
  current : ∀ input ∈ rules.taken transition.label.call transition.before,
    ∀ binding ∈ transition.before.bindings, input.About binding →
      binding.Admits rules.time input →
      transition.label.generation = binding.connectionGeneration

variable {rules}

/-- What holds in a run whose calls are current. -/
structure Attests (rules : HealthRules Call) (Kept : ChannelStore → Prop)
    (history : List (Transition ChannelStore (HealthCall Call))) (store : ChannelStore) :
    Prop where
  kept : Kept store
  named : ∀ produced ∈ rules.reports history,
    ∃ binding ∈ store.bindings, produced.report.About binding
  attested : ∀ binding ∈ store.bindings,
    binding.Attested rules.time (rules.reports history)

/-- Every call keeps the bindings that reports named. -/
theorem named_of_effect {declared : Option ChannelStatus} {taken : Option HealthReport}
    {store store' : ChannelStore}
    (effect : BindingEffect rules.time declared taken store store') {report : HealthReport}
    (named : ∃ binding ∈ store.bindings, report.About binding) :
    ∃ binding ∈ store'.bindings, report.About binding := by
  obtain ⟨binding, member, about⟩ := named
  have replaced {old new : ChannelBinding} (same : old.SameBinding new)
      (bindings : Replaced old new store.bindings store'.bindings) :
      ∃ binding ∈ store'.bindings, report.About binding := by
    by_cases own : binding = old
    · refine ⟨new, bindings.new_mem, (same.about_iff report).mpr ?_⟩
      rw [← own]
      exact about
    · exact ⟨binding, bindings.mem_of_ne member own, about⟩
  cases effect with
  | quiet nothing bindings =>
      obtain ⟨new, newMem, same⟩ := bindings.later_of_mem member
      exact ⟨new, newMem, (same.toSameBinding.about_iff report).mpr about⟩
  | opened nothing status unreported first bindings =>
      rw [bindings]
      exact ⟨binding, List.mem_append_left _ member, about⟩
  | saved nothing status saved bindings => exact replaced saved.toSameBinding bindings
  | reported takes about admitted same generation shows' bindings =>
      exact replaced same bindings
  | late takes known aboutOld refused bindings =>
      rw [bindings]
      exact ⟨binding, member, about⟩

/-- A call that takes a report found the binding that it is about. -/
theorem found_of_taken {declared : Option ChannelStatus} {taken : Option HealthReport}
    {store store' : ChannelStore}
    (effect : BindingEffect rules.time declared taken store store') {report : HealthReport}
    (took : taken = some report) : ∃ binding ∈ store.bindings, report.About binding := by
  cases effect with
  | quiet nothing => rw [nothing] at took; cases took
  | opened nothing => rw [nothing] at took; cases took
  | saved nothing => rw [nothing] at took; cases took
  | @reported input old new takes about _ _ _ _ bindings =>
      rw [takes] at took
      cases took
      exact ⟨old, bindings.old_mem, about⟩
  | @late input old takes member about =>
      rw [takes] at took
      cases took
      exact ⟨old, member, about⟩

/-- A call that is current keeps every binding attested. -/
theorem attested_of_effect {Kept : ChannelStore → Prop} (lawful : rules.Lawful Kept)
    {history : List (Transition ChannelStore (HealthCall Call))} {before : ChannelStore}
    {label : HealthCall Call} (attests : rules.Attests Kept history before)
    (possible : ∀ input ∈ rules.taken label.call before, ∀ binding ∈ before.bindings,
      input.About binding → label.generation ≤ binding.connectionGeneration)
    (isCurrent : rules.Current ⟨before, label, rules.after label.call before⟩) :
    ∀ binding ∈ (rules.after label.call before).bindings, binding.Attested rules.time
      (rules.reports (⟨before, label, rules.after label.call before⟩ :: history)) := by
  obtain ⟨kept, named, attested⟩ := attests
  obtain ⟨modest, current⟩ := isCurrent
  have keyed := lawful.keyed before kept
  have keyed' := lawful.keyed _ (lawful.kept label.call before kept)
  have untaken (nothing : rules.taken label.call before = none) :
      rules.reports (⟨before, label, rules.after label.call before⟩ :: history) =
        rules.reports history := by
    unfold HealthRules.reports
    rw [List.filterMap_cons, nothing, Option.map_none]
  have taking {input : HealthReport} (takes : rules.taken label.call before = some input) :
      rules.reports (⟨before, label, rules.after label.call before⟩ :: history) =
        ⟨input, label.generation⟩ :: rules.reports history := by
    unfold HealthRules.reports
    rw [List.filterMap_cons, takes, Option.map_some]
  intro binding member
  cases lawful.effect label.call before kept with
  | quiet nothing bindings =>
      rw [untaken nothing]
      rcases bindings.cases_of_mem member with ⟨old, oldMem, same⟩ | impossible
      · exact (attested old oldMem).same same
      · exact impossible.elim
  | @opened row nothing status unreported first bindings =>
      rw [untaken nothing]
      rw [bindings] at member
      rcases List.mem_append.mp member with stored | added
      · exact attested binding stored
      · rw [List.mem_singleton.mp added]
        refine .opened (fun connected => modest ?_) unreported fun produced known about => ?_
        · rw [status, connected]
        · obtain ⟨other, otherMem, aboutOther⟩ := named produced known
          exact first other otherMem (aboutOther.bindingKey.trans about.bindingKey.symm)
  | @saved status renewed old new nothing status' saved bindings =>
      rw [untaken nothing]
      rcases bindings.cases_of_mem member with own | stored
      · rw [own]
        refine (attested old bindings.old_mem).saved saved fun connected => modest ?_
        rw [status', connected]
      · exact attested binding stored
  | @reported input old new takes about admitted same generation shows' bindings =>
      rw [taking takes]
      by_cases names : input.About binding
      · have own : binding = new := by
          apply keyed'.eq_of_key_eq member bindings.new_mem
          rw [same.bindingKey, names.bindingKey, about.bindingKey]
        rw [own]
        have oldMem := bindings.old_mem
        exact (attested old oldMem).reported about admitted
          (current input takes old oldMem about admitted) same generation shows'
      · rcases bindings.cases_of_mem member with own | stored
        · rw [own, same.about_iff] at names
          exact absurd about names
        · exact (attested binding stored).other names
  | @late input old takes oldMem about refused bindings =>
      rw [taking takes]
      rw [bindings] at member
      by_cases names : input.About binding
      · have own : binding = old := by
          apply keyed.eq_of_key_eq member oldMem
          rw [names.bindingKey, about.bindingKey]
        rw [own]
        exact (attested old oldMem).late about refused
          (possible input takes old oldMem about)
      · exact (attested binding member).other names

/-- In a run whose calls are current, every binding is attested. -/
theorem attests_of_run {Kept : ChannelStore → Prop} (lawful : rules.Lawful Kept)
    {history : List (Transition ChannelStore (HealthCall Call))} {store : ChannelStore}
    (run : Run rules.system history store)
    (isCurrent : ∀ transition ∈ history, rules.Current transition) :
    rules.Attests Kept history store := by
  induction run with
  | @start store blank =>
      have none : store.bindings = [] := blank
      exact ⟨lawful.start store blank, by simp [HealthRules.reports], by simp [none]⟩
  | @step history before after label run taken ih =>
      obtain ⟨rfl, possible⟩ := taken
      have attests := ih fun transition member =>
        isCurrent transition (List.mem_cons_of_mem _ member)
      have effect := lawful.effect label.call before attests.kept
      refine ⟨lawful.kept label.call before attests.kept, fun produced member => ?_,
        attested_of_effect lawful attests possible (isCurrent _ List.mem_cons_self)⟩
      unfold HealthRules.reports at member
      rw [List.filterMap_cons] at member
      split at member
      · exact named_of_effect effect (attests.named produced member)
      · rename_i new taken
        rcases List.mem_cons.mp member with rfl | known
        · obtain ⟨report, took, rfl⟩ := Option.map_eq_some_iff.mp taken
          exact named_of_effect effect (found_of_taken effect took)
        · exact named_of_effect effect (attests.named produced known)

end HealthRules

end BairuiPlatform
