/-
Module: BairuiPlatform.Foundations.Transaction
Purpose: Programs of database statements, run inside one atomic transaction that
  may lose its connection before any statement.
Trusted boundary: none
Main exports: Tx, Tx.eval, Tx.run, Tx.inTransaction, Tx.eval_bind_ok,
  Tx.forEach_rule, Tx.Keeps, Tx.inTransaction_cases
-/
import Mathlib.Logic.Relation

namespace BairuiPlatform.Foundations

/-- A computation succeeds if and only if each of its parts does. -/
theorem bind_eq_ok {ε α β : Type} {first : Except ε α} {next : α → Except ε β} {result : β} :
    (first >>= next) = .ok result ↔ ∃ value, first = .ok value ∧ next value = .ok result := by
  cases first with
  | error error => simp [Bind.bind, Except.bind]
  | ok value => simp [Bind.bind, Except.bind]

/-- Why a transaction was rolled back: the callback raised an error, or the
connection was lost before a statement. -/
inductive Interruption (ε : Type) where
  | raised (error : ε)
  | lost
deriving Repr, DecidableEq

/-- A callback of a transaction: a sequence of statements on the working copy of
the store, each of which returns rows, changes the copy, or raises. -/
inductive Tx (σ ε α : Type) : Type 1 where
  | done (value : α)
  | raise (error : ε)
  | query {β : Type} (statement : σ → Except ε (β × σ)) (next : β → Tx σ ε α)

namespace Tx

variable {σ ε α β : Type}

/-- Sequential composition. -/
def bind : Tx σ ε α → (α → Tx σ ε β) → Tx σ ε β
  | .done value, next => next value
  | .raise error, _ => .raise error
  | .query statement rest, next =>
      .query statement fun answer => (rest answer).bind next

instance : Monad (Tx σ ε) where
  pure := .done
  bind := bind

/-- A statement that only reads. -/
def read (select : σ → α) : Tx σ ε α :=
  .query (fun store => .ok (select store, store)) .done

/-- A statement that changes rows and violates no constraint. -/
def write (update : σ → σ) : Tx σ ε Unit :=
  .query (fun store => .ok ((), update store)) .done

/-- A statement that adds rows unless one of the listed constraints is violated.
The first violated one names the error. -/
def insert (constraints : σ → List (Bool × ε)) (add : σ → σ) : Tx σ ε Unit :=
  .query
    (fun store =>
      match (constraints store).find? (fun constraint => !constraint.1) with
      | some violated => .error violated.2
      | none => .ok ((), add store))
    .done

/-- A check of the callback itself: no statement is sent. -/
def require (condition : Prop) [Decidable condition] (error : ε) :
    Tx σ ε Unit :=
  if condition then .done () else .raise error

/-- A step of the callback taken only under a condition. -/
def whenever (condition : Prop) [Decidable condition] (body : Tx σ ε Unit) :
    Tx σ ε Unit :=
  if condition then body else .done ()

/-- The value of a nullable answer, or an error. -/
def orRaise (error : ε) : Option α → Tx σ ε α
  | some value => .done value
  | none => .raise error

/-- A check whose errors are embedded in those of the callback. -/
def ofExcept {δ : Type} (embed : δ → ε) : Except δ α → Tx σ ε α
  | .ok value => .done value
  | .error error => .raise (embed error)

/-- A loop over the rows of an earlier answer; `index` counts the iterations. -/
@[grind =] def forEach (index : Nat) : List α → (Nat → α → Tx σ ε β) → Tx σ ε (List β)
  | [], _ => .done []
  | item :: items, body =>
      (body index item).bind fun result =>
        (forEach (index + 1) items body).bind fun results =>
          .done (result :: results)

/-- Run a callback on its working copy without losing the connection. -/
@[grind =] def eval : Tx σ ε α → σ → Except ε (α × σ)
  | .done value, store => .ok (value, store)
  | .raise error, _ => .error error
  | .query statement next, store =>
      match statement store with
      | .ok (answer, store') => (next answer).eval store'
      | .error error => .error error

/-- Run a callback whose connection is lost before statement number `fault`
(counted from zero), when there is one. -/
@[grind =] def run : Tx σ ε α → Option Nat → σ → Except (Interruption ε) (α × σ)
  | .done value, _, store => .ok (value, store)
  | .raise error, _, _ => .error (.raised error)
  | .query _ _, some 0, _ => .error .lost
  | .query statement next, fault, store =>
      match statement store with
      | .ok (answer, store') => (next answer).run (fault.map (· - 1)) store'
      | .error error => .error (.raised error)

/-- `BEGIN`, the callback, `COMMIT`. -/
def bracket (callback : Tx σ ε α) : Tx σ ε α :=
  (read fun _ => ()).bind fun _ =>
    callback.bind fun result =>
      (read fun _ => ()).bind fun _ => .done result

/-- One transaction on the committed store: its working copy replaces the store
when every statement went through, and is dropped otherwise. -/
@[grind =] def inTransaction (callback : Tx σ ε α) (fault : Option Nat) (store : σ) :
    Except (Interruption ε) α × σ :=
  match callback.bracket.run fault store with
  | .ok (result, working) => (.ok result, working)
  | .error interruption => (.error interruption, store)

/-! ### Evaluation of the constructors -/

@[simp] theorem eval_pure (value : α) (store : σ) :
    (pure value : Tx σ ε α).eval store = .ok (value, store) := rfl

@[simp] theorem eval_done (value : α) (store : σ) :
    (done value : Tx σ ε α).eval store = .ok (value, store) := rfl

@[simp] theorem eval_raise (error : ε) (store : σ) :
    (raise error : Tx σ ε α).eval store = .error error := rfl

theorem eval_bind' (tx : Tx σ ε α) (next : α → Tx σ ε β) (store : σ) :
    (tx.bind next).eval store =
      match tx.eval store with
      | .ok (value, store') => (next value).eval store'
      | .error error => .error error := by
  induction tx generalizing store with
  | done value => rfl
  | raise error => rfl
  | query statement rest ih =>
      simp only [Tx.bind, eval]
      cases statement store with
      | error error => rfl
      | ok answer => exact ih answer.1 answer.2

/-- A sequence succeeds exactly when its first part does and the second part
succeeds from where the first one ended. -/
theorem eval_bind_ok {tx : Tx σ ε α} {next : α → Tx σ ε β} {store : σ}
    {result : β} {final : σ} :
    (tx >>= next).eval store = .ok (result, final) ↔
      ∃ value middle, tx.eval store = .ok (value, middle) ∧
        (next value).eval middle = .ok (result, final) := by
  show (tx.bind next).eval store = _ ↔ _
  rw [eval_bind']
  cases tx.eval store with
  | error error => simp
  | ok answer =>
      obtain ⟨value, middle⟩ := answer
      constructor
      · intro ran
        exact ⟨value, middle, rfl, ran⟩
      · rintro ⟨_, _, same, ran⟩
        cases same
        exact ran

/-- A sequence raises when its first part does, or when its second part does
from where the first one ended. -/
theorem eval_bind_error {tx : Tx σ ε α} {next : α → Tx σ ε β} {store : σ}
    {error : ε} :
    (tx >>= next).eval store = .error error ↔
      tx.eval store = .error error ∨
        ∃ value middle, tx.eval store = .ok (value, middle) ∧
          (next value).eval middle = .error error := by
  show (tx.bind next).eval store = _ ↔ _
  rw [eval_bind']
  cases tx.eval store with
  | error other => simp
  | ok answer =>
      obtain ⟨value, middle⟩ := answer
      constructor
      · intro ran
        exact .inr ⟨value, middle, rfl, ran⟩
      · rintro (raised | ⟨_, _, same, ran⟩)
        · cases raised
        · cases same
          exact ran

@[simp] theorem eval_read (select : σ → α) (store : σ) :
    (read select : Tx σ ε α).eval store = .ok (select store, store) := rfl

@[simp] theorem eval_write (update : σ → σ) (store : σ) :
    (write update : Tx σ ε Unit).eval store = .ok ((), update store) := rfl

@[simp] theorem eval_read_bind (select : σ → α) (next : α → Tx σ ε β) (store : σ) :
    (read select >>= next).eval store = (next (select store)).eval store := rfl

@[simp] theorem eval_write_bind (update : σ → σ) (next : Unit → Tx σ ε β) (store : σ) :
    (write update >>= next).eval store = (next ()).eval (update store) := rfl

theorem eval_insert_ok {constraints : σ → List (Bool × ε)} {add : σ → σ}
    {store : σ} {answer : Unit} {final : σ} :
    (insert constraints add).eval store = .ok (answer, final) ↔
      (∀ constraint ∈ constraints store, constraint.1 = true) ∧
        final = add store := by
  simp only [insert, eval]
  cases found : (constraints store).find? (fun constraint => !constraint.1) with
  | some violated =>
      have violatedMem := List.mem_of_find?_eq_some found
      have violatedFalse := List.find?_some found
      simp only [Bool.not_eq_true'] at violatedFalse
      simp only [reduceCtorEq, false_iff, not_and]
      intro allHold
      simp [allHold violated violatedMem] at violatedFalse
  | none =>
      rw [List.find?_eq_none] at found
      simp only [Bool.not_eq_true', Bool.not_eq_false] at found
      simp only [Except.ok.injEq, Prod.mk.injEq, true_and]
      constructor
      · rintro rfl
        exact ⟨found, rfl⟩
      · rintro ⟨-, rfl⟩
        rfl

theorem eval_require_ok {condition : Prop} [Decidable condition] {error : ε}
    {store : σ} {answer : Unit} {final : σ} :
    (require condition error : Tx σ ε Unit).eval store = .ok (answer, final) ↔
      condition ∧ final = store := by
  unfold require
  split
  · rename_i holds
    simp [holds, eq_comm]
  · rename_i fails
    simp [fails]

theorem eval_orRaise_ok {error : ε} {candidate : Option α} {store : σ}
    {value : α} {final : σ} :
    (orRaise error candidate : Tx σ ε α).eval store = .ok (value, final) ↔
      candidate = some value ∧ final = store := by
  cases candidate with
  | none => simp [orRaise]
  | some found => simp [orRaise, eq_comm (a := final)]

theorem eval_ofExcept_ok {δ : Type} {embed : δ → ε} {checked : Except δ α}
    {store : σ} {value : α} {final : σ} :
    (ofExcept embed checked : Tx σ ε α).eval store = .ok (value, final) ↔
      checked = .ok value ∧ final = store := by
  cases checked with
  | error error => simp [ofExcept]
  | ok found => simp [ofExcept, eq_comm (a := final)]

theorem eval_whenever_ok {condition : Prop} [Decidable condition]
    {body : Tx σ ε Unit} {store : σ} {answer : Unit} {final : σ} :
    (whenever condition body).eval store = .ok (answer, final) ↔
      (condition ∧ body.eval store = .ok (answer, final)) ∨
        (¬ condition ∧ final = store) := by
  unfold whenever
  split
  · rename_i holds
    simp [holds]
  · rename_i fails
    simp [fails, eq_comm]

@[simp] theorem eval_forEach_nil (index : Nat) (body : Nat → α → Tx σ ε β)
    (store : σ) :
    (forEach index [] body).eval store = .ok ([], store) := rfl

theorem eval_forEach_cons_ok {index : Nat} {item : α} {items : List α}
    {body : Nat → α → Tx σ ε β} {store final : σ} {results : List β} :
    (forEach index (item :: items) body).eval store = .ok (results, final) ↔
      ∃ first middle rest, (body index item).eval store = .ok (first, middle) ∧
        (forEach (index + 1) items body).eval middle = .ok (rest, final) ∧
        results = first :: rest := by
  show ((body index item) >>= fun result =>
    (forEach (index + 1) items body) >>= fun rest =>
      pure (result :: rest)).eval store = _ ↔ _
  simp only [eval_bind_ok, eval_pure, Except.ok.injEq, Prod.mk.injEq]
  constructor
  · rintro ⟨first, middle, ran, rest, last, ranRest, rfl, rfl⟩
    exact ⟨first, middle, rest, ran, ranRest, rfl⟩
  · rintro ⟨first, middle, rest, ran, ranRest, rfl⟩
    exact ⟨first, middle, ran, rest, final, ranRest, rfl, rfl⟩

/-! ### The loop rule -/

/-- What every iteration keeps, the whole loop keeps. The invariant sees the
items that are still to come and the results so far. -/
theorem forEach_rule {body : Nat → α → Tx σ ε β}
    (Inv : List α → List β → σ → Prop)
    (step : ∀ index item items earlier store result store',
      Inv (item :: items) earlier store →
      (body index item).eval store = .ok (result, store') →
      Inv items (earlier ++ [result]) store') :
    ∀ {items : List α} {index : Nat} {earlier : List β} {store : σ}
      {results : List β} {final : σ},
      Inv items earlier store →
      (forEach index items body).eval store = .ok (results, final) →
      Inv [] (earlier ++ results) final
  | [], index, earlier, store, results, final, holds, ran => by
      simp only [eval_forEach_nil, Except.ok.injEq, Prod.mk.injEq] at ran
      obtain ⟨rfl, rfl⟩ := ran
      simpa using holds
  | item :: items, index, earlier, store, results, final, holds, ran => by
      obtain ⟨first, middle, rest, ranFirst, ranRest, rfl⟩ :=
        eval_forEach_cons_ok.mp ran
      have next := step index item items earlier store first middle holds ranFirst
      have last := forEach_rule Inv step next ranRest
      simpa using last

/-- The loop rule for an invariant of the store alone. -/
theorem forEach_invariant {body : Nat → α → Tx σ ε β} {items : List α}
    {index : Nat} {store : σ} {results : List β} {final : σ}
    (Inv : σ → Prop)
    (step : ∀ index item store result store', item ∈ items → Inv store →
      (body index item).eval store = .ok (result, store') → Inv store')
    (holds : Inv store)
    (ran : (forEach index items body).eval store = .ok (results, final)) :
    Inv final := by
  have kept : ∀ index item remaining (earlier : List β) current result next,
      (∀ other ∈ item :: remaining, other ∈ items) ∧ Inv current →
      (body index item).eval current = .ok (result, next) →
      (∀ other ∈ remaining, other ∈ items) ∧ Inv next :=
    fun index item remaining _ current result next before ranItem =>
      ⟨fun other member => before.1 other (List.mem_cons_of_mem item member),
        step index item current result next (before.1 item List.mem_cons_self)
          before.2 ranItem⟩
  have last := @forEach_rule _ _ _ _ body
    (fun remaining _ current => (∀ item ∈ remaining, item ∈ items) ∧ Inv current) kept
    items index [] store results final ⟨fun _ member => member, holds⟩ ran
  exact last.2

/-- The loop rule for a relation on stores: a loop whose iterations are steps of the
relation leads from its first store to its last one. -/
theorem forEach_leads {body : Nat → α → Tx σ ε β} {Step : σ → σ → Prop}
    (Inv : List α → σ → Prop)
    (step : ∀ index item items store result store', Inv (item :: items) store →
      (body index item).eval store = .ok (result, store') →
      Step store store' ∧ Inv items store')
    {items : List α} {index : Nat} {store : σ} {results : List β} {final : σ}
    (holds : Inv items store)
    (ran : (forEach index items body).eval store = .ok (results, final)) :
    Relation.ReflTransGen Step store final ∧ Inv [] final := by
  have kept : ∀ index item remaining (earlier : List β) current result next,
      Relation.ReflTransGen Step store current ∧ Inv (item :: remaining) current →
      (body index item).eval current = .ok (result, next) →
      Relation.ReflTransGen Step store next ∧ Inv remaining next := by
    intro index item remaining _ current result next before ranItem
    have stepped := step index item remaining current result next before.2 ranItem
    exact ⟨before.1.tail stepped.1, stepped.2⟩
  exact @forEach_rule _ _ _ _ body
    (fun remaining _ current => Relation.ReflTransGen Step store current ∧ Inv remaining current)
    kept items index [] store results final ⟨.refl, holds⟩ ran

/-- A loop whose body always succeeds succeeds. -/
theorem forEach_total {body : Nat → α → Tx σ ε β}
    (total : ∀ index item store, ∃ result store',
      (body index item).eval store = .ok (result, store')) :
    ∀ (items : List α) (index : Nat) (store : σ), ∃ results final,
      (forEach index items body).eval store = .ok (results, final)
  | [], index, store => ⟨[], store, rfl⟩
  | item :: items, index, store => by
      obtain ⟨first, middle, ranFirst⟩ := total index item store
      obtain ⟨rest, final, ranRest⟩ := forEach_total total items (index + 1) middle
      exact ⟨first :: rest, final,
        eval_forEach_cons_ok.mpr ⟨first, middle, rest, ranFirst, ranRest, rfl⟩⟩

/-! ### Loops that succeed -/

/-- Every iteration that a loop comes to is ready when it starts. -/
@[grind =] def ReadyThroughout (ready : Nat → α → σ → Prop) (body : Nat → α → Tx σ ε β) :
    Nat → List α → σ → Prop
  | _, [], _ => True
  | index, item :: items, store =>
      ready index item store ∧
        match (body index item).eval store with
        | .ok (_, store') => ReadyThroughout ready body (index + 1) items store'
        | .error _ => True

instance decidableReadyThroughout (ready : Nat → α → σ → Prop) (body : Nat → α → Tx σ ε β)
    [∀ index item store, Decidable (ready index item store)] :
    ∀ index items store, Decidable (ReadyThroughout ready body index items store)
  | _, [], _ => .isTrue trivial
  | index, item :: items, store =>
      match ran : (body index item).eval store with
      | .ok (_, store') =>
          have := decidableReadyThroughout ready body (index + 1) items store'
          decidable_of_iff
            (ready index item store ∧ ReadyThroughout ready body (index + 1) items store')
            (by rw [ReadyThroughout, ran])
      | .error _ =>
          decidable_of_iff (ready index item store) (by rw [ReadyThroughout, ran, and_true])

/-- A loop over at most one item is ready when the item is. -/
theorem readyThroughout_single {ready : Nat → α → σ → Prop} {body : Nat → α → Tx σ ε β}
    {index : Nat} {items : List α} {store : σ} (few : items.length ≤ 1)
    (each : ∀ item ∈ items, ready index item store) :
    ReadyThroughout ready body index items store := by
  cases items with
  | nil => trivial
  | cons item rest =>
      have alone : rest = [] :=
        List.length_eq_zero_iff.mp (Nat.le_zero.mp (Nat.le_of_succ_le_succ few))
      subst alone
      refine ⟨each item List.mem_cons_self, ?_⟩
      cases (body index item).eval store with
      | error error => trivial
      | ok outcome => trivial

section Ready

variable {ready : Nat → α → σ → Prop} {body : Nat → α → Tx σ ε β} (Inv : List α → σ → Prop)

/-- A loop succeeds when each of its iterations does, once it is ready. -/
theorem forEach_succeeds
    (step : ∀ index item items store, Inv (item :: items) store → ready index item store →
      ∃ result store', (body index item).eval store = .ok (result, store') ∧ Inv items store') :
    ∀ {items : List α} {index : Nat} {store : σ}, Inv items store →
      ReadyThroughout ready body index items store →
      ∃ results final, (forEach index items body).eval store = .ok (results, final) ∧
        Inv [] final
  | [], _, store, holds, _ => ⟨[], store, rfl, holds⟩
  | item :: items, index, store, holds, readied => by
      rw [ReadyThroughout] at readied
      obtain ⟨first, middle, ranFirst, next⟩ := step index item items store holds readied.1
      rw [ranFirst] at readied
      obtain ⟨rest, final, ranRest, last⟩ := forEach_succeeds step next readied.2
      exact ⟨first :: rest, final,
        eval_forEach_cons_ok.mpr ⟨first, middle, rest, ranFirst, ranRest, rfl⟩, last⟩

/-- A loop fails when one of its items does, and no iteration before it raises another
error. -/
theorem forEach_fails (Bad : α → Prop) {error : ε}
    (step : ∀ index item items store, Inv (item :: items) store → ready index item store →
      ¬Bad item →
      ∃ result store', (body index item).eval store = .ok (result, store') ∧ Inv items store')
    (fails : ∀ index item store, Bad item → (body index item).eval store = .error error) :
    ∀ {items : List α} {index : Nat} {store : σ}, Inv items store →
      ReadyThroughout ready body index items store → (∃ item ∈ items, Bad item) →
      (forEach index items body).eval store = .error error
  | [], _, _, _, _, some_bad => by
      obtain ⟨item, member, -⟩ := some_bad
      cases member
  | item :: items, index, store, holds, readied, some_bad => by
      rw [forEach, eval_bind']
      by_cases bad : Bad item
      · rw [fails index item store bad]
      · rw [ReadyThroughout] at readied
        obtain ⟨first, middle, ranFirst, next⟩ := step index item items store holds readied.1 bad
        rw [ranFirst] at readied
        obtain ⟨other, member, otherBad⟩ := some_bad
        have later : other ∈ items := by
          rcases List.mem_cons.mp member with rfl | later
          · exact absurd otherBad bad
          · exact later
        have failed := forEach_fails Bad step fails next readied.2 ⟨other, later, otherBad⟩
        simp only [ranFirst, eval_bind', failed]

end Ready

/-! ### Callbacks that keep an invariant -/

/-- A callback that succeeds from a store with the invariant ends in one. -/
def Keeps (Inv : σ → Prop) (callback : Tx σ ε α) : Prop :=
  ∀ store result final, Inv store → callback.eval store = .ok (result, final) → Inv final

namespace Keeps

variable {Inv : σ → Prop}

theorem pure (value : α) : Keeps Inv (pure value : Tx σ ε α) := by
  intro store result final holds ran
  cases ran
  exact holds

theorem raise (error : ε) : Keeps Inv (raise error : Tx σ ε α) := by
  intro store result final holds ran
  cases ran

theorem read (select : σ → α) : Keeps Inv (read select : Tx σ ε α) := by
  intro store result final holds ran
  cases ran
  exact holds

theorem write {update : σ → σ} (keeps : ∀ store, Inv store → Inv (update store)) :
    Keeps Inv (write update : Tx σ ε Unit) := by
  intro store result final holds ran
  cases ran
  exact keeps store holds

theorem insert {constraints : σ → List (Bool × ε)} {add : σ → σ}
    (keeps : ∀ store, Inv store → (∀ constraint ∈ constraints store, constraint.1 = true) →
      Inv (add store)) : Keeps Inv (insert constraints add) := by
  intro store result final holds ran
  obtain ⟨allowed, rfl⟩ := eval_insert_ok.mp ran
  exact keeps store holds allowed

theorem require (condition : Prop) [Decidable condition] (error : ε) :
    Keeps Inv (require condition error : Tx σ ε Unit) := by
  unfold Tx.require
  split
  · exact pure ()
  · exact raise error

theorem orRaise (error : ε) (candidate : Option α) :
    Keeps Inv (orRaise error candidate : Tx σ ε α) := by
  cases candidate with
  | none => exact raise error
  | some value => exact pure value

theorem whenever {condition : Prop} [Decidable condition] {body : Tx σ ε Unit}
    (keeps : Keeps Inv body) : Keeps Inv (whenever condition body) := by
  unfold Tx.whenever
  split
  · exact keeps
  · exact pure ()

theorem bind {first : Tx σ ε α} {next : α → Tx σ ε β} (keeps : Keeps Inv first)
    (rest : ∀ value, Keeps Inv (next value)) : Keeps Inv (first >>= next) := by
  intro store result final holds ran
  obtain ⟨value, middle, ranFirst, ranRest⟩ := eval_bind_ok.mp ran
  exact rest value middle result final (keeps store value middle holds ranFirst) ranRest

theorem forEach {items : List α} {body : Nat → α → Tx σ ε β} (index : Nat)
    (keeps : ∀ index item, Keeps Inv (body index item)) :
    Keeps Inv (forEach index items body) := by
  intro store results final holds ran
  apply forEach_invariant Inv _ holds ran
  intro index item store result store' _ before ranItem
  exact keeps index item store result store' before ranItem

end Keeps

/-! ### Lost connections and commit -/

/-- A run that reached its end did what the undisturbed callback does. -/
theorem run_ok {tx : Tx σ ε α} {fault : Option Nat} {store : σ}
    {answer : α × σ} (ran : tx.run fault store = .ok answer) :
    tx.eval store = .ok answer := by
  induction tx generalizing fault store with
  | done value => simpa [run, eval] using ran
  | raise error => simp [run] at ran
  | query statement rest ih =>
      cases fault with
      | none =>
          simp only [run, eval] at ran ⊢
          cases stepped : statement store with
          | error error => simp [stepped] at ran
          | ok middle =>
              simp only [stepped] at ran ⊢
              exact ih middle.1 ran
      | some remaining =>
          cases remaining with
          | zero => simp [run] at ran
          | succ remaining =>
              simp only [run, eval] at ran ⊢
              cases stepped : statement store with
              | error error => simp [stepped] at ran
              | ok middle =>
                  simp only [stepped] at ran ⊢
                  exact ih middle.1 ran

/-- Without a fault a run is the evaluation of the callback. -/
theorem run_none (tx : Tx σ ε α) (store : σ) :
    tx.run none store =
      match tx.eval store with
      | .ok answer => .ok answer
      | .error error => .error (.raised error) := by
  induction tx generalizing store with
  | done value => rfl
  | raise error => rfl
  | query statement rest ih =>
      simp only [run, eval]
      cases statement store with
      | error error => rfl
      | ok middle => exact ih middle.1 middle.2

theorem eval_bracket (callback : Tx σ ε α) (store : σ) :
    callback.bracket.eval store = callback.eval store := by
  unfold bracket
  rw [eval_bind', eval_read]
  simp only
  rw [eval_bind']
  cases callback.eval store with
  | error error => rfl
  | ok answer => rfl

/-- A transaction either publishes what the callback did on the whole, or leaves
the store as it was. -/
theorem inTransaction_cases (callback : Tx σ ε α) (fault : Option Nat)
    (store : σ) :
    (∃ result final, callback.eval store = .ok (result, final) ∧
        callback.inTransaction fault store = (.ok result, final)) ∨
      (∃ interruption,
        callback.inTransaction fault store = (.error interruption, store)) := by
  unfold inTransaction
  cases ran : callback.bracket.run fault store with
  | error interruption => exact .inr ⟨interruption, rfl⟩
  | ok answer =>
      refine .inl ⟨answer.1, answer.2, ?_, rfl⟩
      rw [← eval_bracket]
      exact run_ok ran

/-- A transaction keeps what its callback keeps. -/
theorem Keeps.inTransaction {Inv : σ → Prop} {callback : Tx σ ε α} (keeps : Keeps Inv callback)
    (fault : Option Nat) {store : σ} (holds : Inv store) :
    Inv (callback.inTransaction fault store).2 := by
  rcases inTransaction_cases callback fault store with
    ⟨result, final, evaluated, same⟩ | ⟨interruption, same⟩
  · rw [same]
    exact keeps store result final holds evaluated
  · rw [same]
    exact holds

/-- A transaction that answered published the callback's final store. -/
theorem inTransaction_ok {callback : Tx σ ε α} {fault : Option Nat}
    {store final : σ} {result : α}
    (ran : callback.inTransaction fault store = (.ok result, final)) :
    callback.eval store = .ok (result, final) := by
  rcases inTransaction_cases callback fault store with
    ⟨other, last, evaluated, same⟩ | ⟨interruption, same⟩
  · rw [same] at ran
    simp only [Prod.mk.injEq, Except.ok.injEq] at ran
    obtain ⟨rfl, rfl⟩ := ran
    exact evaluated
  · simp [same] at ran

/-- A transaction that did not answer left the store as it was. -/
theorem inTransaction_error {callback : Tx σ ε α} {fault : Option Nat}
    {store final : σ} {interruption : Interruption ε}
    (ran : callback.inTransaction fault store = (.error interruption, final)) :
    final = store := by
  rcases inTransaction_cases callback fault store with
    ⟨other, last, evaluated, same⟩ | ⟨other, same⟩
  · simp [same] at ran
  · rw [same] at ran
    simp only [Prod.mk.injEq] at ran
    exact ran.2.symm

/-- With the connection kept, a callback that succeeds is committed. -/
theorem inTransaction_none_ok {callback : Tx σ ε α} {store final : σ}
    {result : α} (evaluated : callback.eval store = .ok (result, final)) :
    callback.inTransaction none store = (.ok result, final) := by
  unfold inTransaction
  rw [run_none, eval_bracket, evaluated]

/-- With the connection kept, a callback that raises is rolled back. -/
theorem inTransaction_none_error {callback : Tx σ ε α} {store : σ} {error : ε}
    (evaluated : callback.eval store = .error error) :
    callback.inTransaction none store = (.error (.raised error), store) := by
  unfold inTransaction
  rw [run_none, eval_bracket, evaluated]

end Tx

end BairuiPlatform.Foundations
