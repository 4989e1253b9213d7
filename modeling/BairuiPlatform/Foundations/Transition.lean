/-
Module: BairuiPlatform.Foundations.Transition
Purpose: Labelled transition systems, their runs with the history of steps, and
  the rules that lift a step property to every run.
Trusted boundary: none
Main exports: TransitionSystem, Transition, Run, Run.invariant,
  Run.history_invariant, Run.guarded_invariant, Run.always_iff, play, Run.play
-/
import Mathlib.Logic.Relation

namespace BairuiPlatform.Foundations

/-- Initial states and labelled steps. -/
structure TransitionSystem (State Label : Type*) where
  initial : State → Prop
  step : State → Label → State → Prop

/-- One step of a run, with the states around it. -/
structure Transition (State Label : Type*) where
  before : State
  label : Label
  after : State

variable {State Label : Type*}

/-- The system takes this transition. -/
def TransitionSystem.Takes (system : TransitionSystem State Label)
    (transition : Transition State Label) : Prop :=
  system.step transition.before transition.label transition.after

/-- Finite runs; the history lists the latest transition first. -/
inductive Run (system : TransitionSystem State Label) :
    List (Transition State Label) → State → Prop where
  | start {state : State} (initial : system.initial state) : Run system [] state
  | step {history : List (Transition State Label)} {before after : State}
      {label : Label} (run : Run system history before)
      (taken : system.step before label after) :
      Run system (⟨before, label, after⟩ :: history) after

/-- Some run ends in the state. -/
def Reachable (system : TransitionSystem State Label) (state : State) : Prop :=
  ∃ history, Run system history state

/-- The history and the state after labels whose steps a function computes, the first label
first. -/
def play (after : Label → State → State) (history : List (Transition State Label))
    (state : State) : List Label → List (Transition State Label) × State
  | [] => (history, state)
  | label :: labels =>
      play after (⟨state, label, after label state⟩ :: history) (after label state) labels

/-- Labels whose steps pass a check where they are taken. -/
def playable (check : Label → State → Bool) (after : Label → State → State) (state : State) :
    List Label → Bool
  | [] => true
  | label :: labels => check label state && playable check after (after label state) labels

namespace Run

variable {system : TransitionSystem State Label}
  {history : List (Transition State Label)} {state : State}

theorem reachable (run : Run system history state) : Reachable system state :=
  ⟨history, run⟩

/-- An invariant over the history and the current state: true of every initial
state, and kept by every step that extends the history. -/
theorem history_invariant
    (Inv : List (Transition State Label) → State → Prop)
    (start : ∀ state, system.initial state → Inv [] state)
    (step : ∀ history before label after, Run system history before →
      Inv history before → system.step before label after →
      Inv (⟨before, label, after⟩ :: history) after)
    (run : Run system history state) : Inv history state := by
  induction run with
  | start initial => exact start _ initial
  | step run taken ih => exact step _ _ _ _ run ih taken

/-- Labels whose steps the system takes are played as a run. -/
theorem play {after : Label → State → State} {labels : List Label}
    (run : Run system history state)
    (steps : ∀ label ∈ labels, ∀ state, system.step state label (after label state)) :
    Run system (Foundations.play after history state labels).1
      (Foundations.play after history state labels).2 := by
  induction labels generalizing history state with
  | nil => exact run
  | cons label labels ih =>
      apply ih (run.step (steps label List.mem_cons_self state))
      exact fun other member => steps other (List.mem_cons_of_mem _ member)

/-- Labels whose steps pass a check that the system demands are played as a run. -/
theorem play_of_playable {after : Label → State → State} {check : Label → State → Bool}
    (sound : ∀ label state, check label state = true →
      system.step state label (after label state)) {labels : List Label}
    (run : Run system history state) (passes : playable check after state labels = true) :
    Run system (Foundations.play after history state labels).1
      (Foundations.play after history state labels).2 := by
  induction labels generalizing history state with
  | nil => exact run
  | cons label labels ih =>
      obtain ⟨first, rest⟩ := Bool.and_eq_true_iff.mp passes
      exact ih (run.step (sound label state first)) rest

/-- An invariant of the state alone. -/
theorem invariant (Inv : State → Prop)
    (start : ∀ state, system.initial state → Inv state)
    (step : ∀ before label after, Inv before → system.step before label after →
      Inv after)
    (run : Run system history state) : Inv state :=
  run.history_invariant (fun _ state => Inv state) start
    fun _ before label after _ holds taken => step before label after holds taken

/-- An invariant of the runs whose transitions all meet a condition. -/
theorem guarded_invariant (Condition : Transition State Label → Prop)
    (Inv : State → Prop)
    (start : ∀ state, system.initial state → Inv state)
    (step : ∀ before label after, Inv before → system.step before label after →
      Condition ⟨before, label, after⟩ → Inv after)
    (run : Run system history state)
    (meets : ∀ transition ∈ history, Condition transition) : Inv state := by
  induction run with
  | start initial => exact start _ initial
  | step run taken ih =>
      refine step _ _ _ (ih ?_) taken (meets _ List.mem_cons_self)
      exact fun transition member => meets transition (List.mem_cons_of_mem _ member)

/-- What holds at the start, and what a step from a state where it holds keeps exactly when
the step is a fine one, holds throughout a run exactly when all its steps are fine. The
transitions of the run meet a condition. -/
theorem guarded_always_iff (Condition : Transition State Label → Prop) (Good : State → Prop)
    (Fine : Transition State Label → Prop)
    (start : ∀ state, system.initial state → Good state)
    (step : ∀ history before label after, Run system history before → Good before →
      system.step before label after → Condition ⟨before, label, after⟩ →
      (Good after ↔ Fine ⟨before, label, after⟩))
    (run : Run system history state)
    (meets : ∀ transition ∈ history, Condition transition) :
    (∀ transition ∈ history, Good transition.after) ↔
      ∀ transition ∈ history, Fine transition := by
  suffices all : ((∀ transition ∈ history, Good transition.after) ↔
      ∀ transition ∈ history, Fine transition) ∧
      ((∀ transition ∈ history, Good transition.after) → Good state) from all.1
  induction run with
  | start initial =>
      exact ⟨iff_of_true (List.forall_mem_nil _) (List.forall_mem_nil _),
        fun _ => start _ initial⟩
  | step run taken ih =>
      rw [List.forall_mem_cons] at meets
      obtain ⟨same, good⟩ := ih meets.2
      rw [List.forall_mem_cons, List.forall_mem_cons]
      refine ⟨?_, fun all => all.1⟩
      constructor
      · rintro ⟨last, earlier⟩
        exact ⟨(step _ _ _ _ run (good earlier) taken meets.1).mp last, same.mp earlier⟩
      · rintro ⟨last, earlier⟩
        have before := good (same.mpr earlier)
        exact ⟨(step _ _ _ _ run before taken meets.1).mpr last, same.mpr earlier⟩

/-- The same for a run whose transitions meet no further condition. -/
theorem always_iff (Good : State → Prop) (Fine : Transition State Label → Prop)
    (start : ∀ state, system.initial state → Good state)
    (step : ∀ history before label after, Run system history before → Good before →
      system.step before label after → (Good after ↔ Fine ⟨before, label, after⟩))
    (run : Run system history state) :
    (∀ transition ∈ history, Good transition.after) ↔
      ∀ transition ∈ history, Fine transition :=
  run.guarded_always_iff (fun _ => True) Good Fine start
    (fun history before label after earlier good taken _ =>
      step history before label after earlier good taken)
    fun _ _ => trivial

/-- Every transition of the history was taken from a state that a run with an
earlier history reaches. -/
theorem before_of_mem {transition : Transition State Label}
    (run : Run system history state) (member : transition ∈ history) :
    ∃ earlier, Run system earlier transition.before ∧
      system.Takes transition ∧ ∀ other ∈ earlier, other ∈ history := by
  induction run with
  | start initial => simp at member
  | step run taken ih =>
      rcases List.mem_cons.mp member with rfl | earlierMember
      · exact ⟨_, run, taken, fun other => List.mem_cons_of_mem _⟩
      · obtain ⟨earlier, ranEarlier, taken', included⟩ := ih earlierMember
        exact ⟨earlier, ranEarlier, taken', fun other member' =>
          List.mem_cons_of_mem _ (included other member')⟩

/-- The part of a run before one of its transitions. -/
theorem before_of_split {later earlier : List (Transition State Label)}
    {transition : Transition State Label}
    (run : Run system (later ++ transition :: earlier) state) :
    Run system earlier transition.before ∧ system.Takes transition := by
  induction later generalizing state with
  | nil =>
      cases run with
      | step run taken => exact ⟨run, taken⟩
  | cons last later ih =>
      cases run with
      | step run taken => exact ih run

/-- What holds after a step of a run, and what the later steps keep, holds at the end. -/
theorem keeps_from {later earlier : List (Transition State Label)}
    {transition : Transition State Label}
    (run : Run system (later ++ transition :: earlier) state) (Holds : State → Prop)
    (first : Holds transition.after)
    (step : ∀ next ∈ later, Holds next.before → Holds next.after) : Holds state := by
  induction later generalizing state with
  | nil =>
      cases run with
      | step run taken => exact first
  | cons last later ih =>
      cases run with
      | step run taken =>
          apply step _ List.mem_cons_self
          apply ih run
          exact fun next member => step next (List.mem_cons_of_mem _ member)

end Run

/-- An invariant of every reachable state. -/
theorem Reachable.invariant {system : TransitionSystem State Label} {state : State}
    (reachable : Reachable system state) (Inv : State → Prop)
    (start : ∀ state, system.initial state → Inv state)
    (step : ∀ before label after, Inv before → system.step before label after →
      Inv after) : Inv state := by
  obtain ⟨history, run⟩ := reachable
  exact run.invariant Inv start step

/-- What every step keeps, every chain of steps keeps. -/
theorem keeps_of_chain {Step : State → State → Prop} {first last : State} (Keep : State → Prop)
    (step : ∀ before after, Keep before → Step before after → Keep after)
    (chain : Relation.ReflTransGen Step first last) (holds : Keep first) : Keep last := by
  induction chain with
  | refl => exact holds
  | tail _ taken ih => exact step _ _ ih taken

/-- The relation between two states that some sequence of steps connects, each
step taken under the label condition. -/
def TransitionSystem.Leads (system : TransitionSystem State Label)
    (allowed : Label → Prop) : State → State → Prop :=
  Relation.ReflTransGen fun before after =>
    ∃ label, allowed label ∧ system.step before label after

/-- What every allowed step keeps, every sequence of allowed steps keeps. -/
theorem TransitionSystem.Leads.keeps {system : TransitionSystem State Label}
    {allowed : Label → Prop} {first last : State}
    (leads : system.Leads allowed first last) (Keep : State → Prop)
    (step : ∀ before label after, Keep before → allowed label →
      system.step before label after → Keep after)
    (holds : Keep first) : Keep last := by
  induction leads with
  | refl => exact holds
  | tail _ taken ih =>
      obtain ⟨label, labelAllowed, stepTaken⟩ := taken
      exact step _ label _ ih labelAllowed stepTaken

end BairuiPlatform.Foundations
