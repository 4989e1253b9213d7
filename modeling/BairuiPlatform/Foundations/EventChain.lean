/-
Module: BairuiPlatform.Foundations.EventChain
Purpose: Events that lead from version to version, each by one; what lies after a version, its
  pages, and the value that a replay rebuilds.
Trusted boundary: none
Main exports: Chain, eventsAfter, Chain.page, replay, replay_snoc
-/
import Mathlib.Data.List.Sort

namespace BairuiPlatform.Foundations

variable {ε ν : Type*}

/-- Events from one version to another without a gap: each starts where the one before it
ended. -/
inductive Chain (base version : ε → Nat) : Nat → List ε → Nat → Prop where
  | done (current : Nat) : Chain base version current [] current
  | next {first last : Nat} {event : ε} {events : List ε} (starts : base event = first)
      (ends : version event = first + 1) (rest : Chain base version (first + 1) events last) :
      Chain base version first (event :: events) last

/-- The events after a version. -/
def eventsAfter (version : ε → Nat) (current : Nat) (events : List ε) : List ε :=
  events.filter fun event => current < version event

variable {base version : ε → Nat} {first last : Nat} {events : List ε}

/-- Of the events after a version, those after a later one. -/
theorem eventsAfter_eventsAfter {current later : Nat} (forward : current ≤ later) :
    eventsAfter version later (eventsAfter version current events) =
      eventsAfter version later events := by
  unfold eventsAfter
  rw [List.filter_filter]
  apply List.filter_congr
  intro event _
  rw [Bool.and_eq_left_iff_imp]
  intro ahead
  have := of_decide_eq_true ahead
  exact decide_eq_true (by omega)

theorem eventsAfter_append {current : Nat} {early late : List ε} :
    eventsAfter version current (early ++ late) =
      eventsAfter version current early ++ eventsAfter version current late :=
  List.filter_append early late

namespace Chain

/-- A chain is as long as the distance of its ends. -/
theorem last_eq (chain : Chain base version first events last) :
    last = first + events.length := by
  induction chain with
  | done current => rfl
  | next starts ends rest ih =>
      rw [ih, List.length_cons]
      omega

/-- One more event. -/
theorem snoc {event : ε} (chain : Chain base version first events last)
    (starts : base event = last) (ends : version event = last + 1) :
    Chain base version first (events ++ [event]) (last + 1) := by
  induction chain with
  | done current => exact .next starts ends (.done (current + 1))
  | next fromFirst toNext rest ih => exact .next fromFirst toNext (ih starts ends)

/-- The events of a chain lie between its ends. -/
theorem bounds (chain : Chain base version first events last) {event : ε}
    (member : event ∈ events) :
    version event = base event + 1 ∧ first < version event ∧ version event ≤ last := by
  induction chain with
  | done current => cases member
  | next starts ends rest ih =>
      have reached := rest.last_eq
      rcases List.mem_cons.mp member with rfl | later
      · refine ⟨?_, ?_, ?_⟩
        · rw [ends, starts]
        · omega
        · omega
      · obtain ⟨step, low, high⟩ := ih later
        exact ⟨step, by omega, high⟩

/-- Later events of a chain have larger versions. -/
theorem pairwise (chain : Chain base version first events last) :
    events.Pairwise fun one other => version one < version other := by
  induction chain with
  | done current => exact List.Pairwise.nil
  | next starts ends rest ih =>
      apply List.Pairwise.cons
      · intro other member
        rw [ends]
        exact (rest.bounds member).2.1
      · exact ih

/-- Nothing lies after the end. -/
theorem after_last (chain : Chain base version first events last) {current : Nat}
    (reached : last ≤ current) : eventsAfter version current events = [] := by
  apply List.filter_eq_nil_iff.mpr
  intro event member later
  have bound := (chain.bounds member).2.2
  have := of_decide_eq_true later
  omega

/-- Everything lies after the start. -/
theorem after_first (chain : Chain base version first events last) {current : Nat}
    (before : current ≤ first) : eventsAfter version current events = events := by
  apply List.filter_eq_self.mpr
  intro event member
  have bound := (chain.bounds member).2.1
  exact decide_eq_true (by omega)

/-- What lies after a version is a chain from there on. -/
theorem chain_after (chain : Chain base version first events last) {current : Nat}
    (started : first ≤ current) (reached : current ≤ last) :
    Chain base version current (eventsAfter version current events) last := by
  induction chain with
  | done last =>
      obtain rfl := Nat.le_antisymm reached started
      exact .done current
  | @next first last event events starts ends rest ih =>
      rcases Nat.lt_or_ge first current with passed | early
      · have dropped : eventsAfter version current (event :: events) =
            eventsAfter version current events := by
          apply List.filter_cons_of_neg
          rw [decide_eq_true_eq, ends]
          omega
        rw [dropped]
        exact ih passed reached
      · obtain rfl := Nat.le_antisymm early started
        rw [(Chain.next starts ends rest).after_first (Nat.le_refl _)]
        exact .next starts ends rest

/-- A chain may be parted anywhere. -/
theorem split {early late : List ε} (chain : Chain base version first (early ++ late) last) :
    ∃ middle, Chain base version first early middle ∧ Chain base version middle late last := by
  induction early generalizing first with
  | nil => exact ⟨first, .done first, chain⟩
  | cons event early ih =>
      cases chain with
      | next starts ends rest =>
          obtain ⟨middle, reached, goesOn⟩ := ih rest
          exact ⟨middle, .next starts ends reached, goesOn⟩

/-- The last event of a chain ends where the chain does. -/
theorem last_version (chain : Chain base version first events last) :
    (events.getLast?.map version).getD first = last := by
  induction chain with
  | done current => rfl
  | @next first last event events starts ends rest ih =>
      cases events with
      | nil =>
          cases rest
          exact ends
      | cons second events =>
          rw [List.getLast?_cons_cons]
          rw [List.getLast?_eq_some_getLast (List.cons_ne_nil second events)] at ih ⊢
          exact ih

/-- A chain is in the order of its versions, and so is what lies after a version. -/
theorem insertionSort_after (chain : Chain base version first events last) (current : Nat) :
    (eventsAfter version current events).insertionSort
        (fun one other => version one ≤ version other) =
      eventsAfter version current events := by
  apply List.Pairwise.insertionSort_eq
  exact (chain.pairwise.filter _).imp Nat.le_of_lt

/-- A page holds the next events: what lies after its last one is what it left out. -/
theorem page (chain : Chain base version first events last) {current : Nat}
    (started : first ≤ current) (count : Nat) {read : List ε} {next : Nat}
    (reads : (eventsAfter version current events).take count = read)
    (moves : (read.getLast?.map version).getD current = next) :
    eventsAfter version current events = read ++ eventsAfter version next events ∧
      current ≤ next ∧ (next = current ∨ next ≤ last) := by
  rcases Nat.lt_or_ge last current with passed | ahead
  · have none := chain.after_last (Nat.le_of_lt passed)
    rw [none, List.take_nil] at reads
    subst reads
    obtain rfl : current = next := moves
    exact ⟨rfl, Nat.le_refl current, Or.inl rfl⟩
  · have parted := List.take_append_drop count (eventsAfter version current events)
    rw [reads] at parted
    have rest := chain.chain_after started ahead
    rw [← parted] at rest
    obtain ⟨middle, reached, goesOn⟩ := rest.split
    obtain rfl : middle = next := reached.last_version.symm.trans moves
    have forward : current ≤ middle := by
      have length := reached.last_eq
      omega
    have early : middle ≤ last := by
      have length := goesOn.last_eq
      omega
    refine ⟨?_, forward, Or.inr early⟩
    -- What the page left out is what lies after its end.
    have left : eventsAfter version middle (eventsAfter version current events) =
        (eventsAfter version current events).drop count := by
      rw [← parted, eventsAfter_append, reached.after_last (Nat.le_refl middle),
        goesOn.after_first (Nat.le_refl middle), List.nil_append, parted]
    rw [eventsAfter_eventsAfter forward] at left
    rw [left, parted]

end Chain

/-- The value that a replay rebuilds. -/
def replay (apply : ν → ε → ν) (start : ν) (events : List ε) : ν :=
  events.foldl apply start

theorem replay_snoc {apply : ν → ε → ν} {start : ν} {event : ε} :
    replay apply start (events ++ [event]) = apply (replay apply start events) event := by
  unfold replay
  rw [List.foldl_append, List.foldl_cons, List.foldl_nil]

end BairuiPlatform.Foundations
