/-
Module: BairuiPlatform.Authority.Listing
Purpose: The pages of listDeploymentAggregates, and when following their cursors visits every
  deployment of an organization.
Trusted boundary: the order of texts in the database (Collation)
Main exports: listDeploymentAggregates, Db.followListing, Db.CutsApart, listing_visits_all_iff
-/
import Mathlib.Data.List.Sort
import Mathlib.Data.Prod.Lex
import Mathlib.Data.String.Basic
import Mathlib.Order.Lex
import BairuiPlatform.Authority.Execution
import BairuiPlatform.Foundations.Paging

namespace BairuiPlatform

open Foundations

/-! ### Pages -/

/-- The order of texts in the database: texts are compared by their weights, and only equal
texts have equal weights. -/
class Collation where
  Weight : Type
  order : LinearOrder Weight
  weight : String → Weight
  injective : Function.Injective weight

attribute [reducible, instance] Collation.order

/-- A cursor of the listing. The text of its instant may be no date. -/
structure DeploymentCursor where
  updatedAt : Option Nat
  id : String
deriving Repr, DecidableEq

/-- The argument of `listDeploymentAggregates`. -/
structure ListingInput where
  organizationId : String
  limit : Option Int
  cursor : Option DeploymentCursor

/-- `command_counts`. -/
structure CommandCounts where
  queued : Nat
  verifying : Nat
  failed : Nat
deriving Repr, DecidableEq

/-- An item of the listing. -/
structure DeploymentAggregate where
  id : String
  organizationId : String
  ownerUserId : String
  agentId : String
  serverId : Option String
  name : String
  status : DeploymentStatus
  desiredStateVersion : Nat
  observedStateVersion : Nat
  desiredState : Option DesiredStateRow
  observation : Option ObservationRow
  commandCounts : CommandCounts
  updatedAt : Nat

/-- A page of the listing. -/
structure ListingPage where
  items : List DeploymentAggregate
  nextCursor : Option DeploymentCursor

/-- `Math.max(1, Math.min(limit ?? 50, 200))`. -/
def listingLimit (limit : Option Int) : Nat :=
  (max 1 (min (limit.getD 50) 200)).toNat

theorem listingLimit_pos (limit : Option Int) : 0 < listingLimit limit := by
  unfold listingLimit
  omega

/-- The lateral join of the commands of a deployment. -/
def Db.commandCounts (db : Db) (deploymentId : String) : CommandCounts :=
  let count (state : CommandState) : Nat :=
    db.commands.countP fun row => row.deploymentId = deploymentId && row.state = state
  { queued := count .queued, verifying := count .verifying, failed := count .failed }

/-- The item of a deployment and its agent. -/
def Db.aggregate (db : Db) (deployment : DeploymentRow) (agent : AgentRow) :
    DeploymentAggregate :=
  { id := deployment.id
    organizationId := deployment.organizationId
    ownerUserId := agent.ownerUserId
    agentId := deployment.agentId
    serverId := deployment.serverId
    name := deployment.name
    status := deployment.status
    desiredStateVersion := deployment.desiredStateVersion
    observedStateVersion := deployment.observedStateVersion
    desiredState := latestBy DesiredStateRow.version
      (db.desiredStates.filter fun row => row.deploymentId = deployment.id)
    observation := latestBy ObservationRow.version
      (db.observations.filter fun row => row.deploymentId = deployment.id)
    commandCounts := db.commandCounts deployment.id
    updatedAt := ofMillis (columnTime deployment.updatedAt) }

section Pages

variable [Collation]

/-- `(deployment.updated_at, deployment.id)`, as rows are compared. -/
def DeploymentRow.listingKey (row : DeploymentRow) : Nat ×ₗ Collation.Weight :=
  toLex (row.updatedAt, Collation.weight row.id)

/-- The row of a cursor: its instant has no more than milliseconds. -/
def DeploymentRow.cursorKey (row : DeploymentRow) : Nat ×ₗ Collation.Weight :=
  toLex (ofMillis (columnTime row.updatedAt), Collation.weight row.id)

/-- `ORDER BY deployment.updated_at DESC, deployment.id DESC`. -/
def DeploymentRow.listedBefore (first second : DeploymentRow) : Prop :=
  second.listingKey ≤ first.listingKey

instance : DecidableRel DeploymentRow.listedBefore := fun first second =>
  inferInstanceAs (Decidable (second.listingKey ≤ first.listingKey))

/-- The rows that the query selects, before its limit: deployments of the organization behind
the cursor, joined with their agents. -/
def Db.listingRows (db : Db) (organizationId : String)
    (bound : Option (Nat ×ₗ Collation.Weight)) : List (DeploymentRow × AgentRow) :=
  ((db.deployments.filter fun row =>
      row.organizationId = organizationId && bound.all fun key => row.listingKey < key)
    |>.insertionSort DeploymentRow.listedBefore).filterMap fun row =>
      (db.agents.find? fun agent => agent.id = row.agentId).map fun agent => (row, agent)

/-- `nextCursor`. -/
def nextCursor (items : List DeploymentAggregate) (hasMore : Bool) : Option DeploymentCursor :=
  if hasMore then
    items.getLast?.map fun last => { updatedAt := some last.updatedAt, id := last.id }
  else none

/-- The refusal of a cursor. -/
def invalidCursor : ControlError :=
  controlError "invalid_cursor" "Deployment query cursor is invalid"

/-- The row that a cursor stands for. -/
def listingBound : Option DeploymentCursor → Except ControlError (Option (Nat ×ₗ Collation.Weight))
  | none => .ok none
  | some ⟨none, _⟩ => .error invalidCursor
  | some ⟨some updatedAt, id⟩ =>
      if id = "" then .error invalidCursor
      else .ok (some (toLex (updatedAt, Collation.weight id)))

/-- `listDeploymentAggregates`. -/
def listDeploymentAggregates (db : Db) (input : ListingInput) :
    Except ControlError ListingPage :=
  (listingBound input.cursor).map fun bound =>
    let limit := listingLimit input.limit
    let rows := (db.listingRows input.organizationId bound).take (limit + 1)
    let items := (rows.take limit).map fun row => db.aggregate row.1 row.2
    { items := items, nextCursor := nextCursor items (rows.length > limit) }

/-- The items of the pages from a cursor on, until there is no next cursor, for a number of
calls. -/
def Db.followListing (db : Db) (organizationId : String) (limit : Option Int) :
    Nat → Option DeploymentCursor → Option (List DeploymentAggregate)
  | 0, _ => none
  | calls + 1, cursor =>
      match listDeploymentAggregates db ⟨organizationId, limit, cursor⟩ with
      | .error _ => none
      | .ok page =>
          match page.nextCursor with
          | none => some page.items
          | some next =>
              (db.followListing organizationId limit calls (some next)).map (page.items ++ ·)

/-- The deployments of an organization in the order of the listing. -/
def Db.listing (db : Db) (organizationId : String) : List DeploymentRow :=
  (db.deployments.filter fun row => row.organizationId = organizationId).insertionSort
    DeploymentRow.listedBefore

end Pages

/-- What holds of every stored deployment: the ids are a key, and being made by `randomUUID` they
are no empty texts, and each deployment has its agent. -/
structure Db.Listable (db : Db) : Prop where
  keyed : Keyed DeploymentRow.id db.deployments
  named : ∀ row ∈ db.deployments, row.id ≠ ""
  owned : ∀ row ∈ db.deployments, ∃ agent ∈ db.agents, agent.id = row.agentId

/-! ### Pages as keyset pages -/

theorem map_append_map {α β : Type*} (column : α → β) (front : List α)
    (behind : Option (List α)) :
    (behind.map (front ++ ·)).map (List.map column) =
      (behind.map (List.map column)).map (front.map column ++ ·) := by
  cases behind with
  | none => rfl
  | some rest => exact congrArg some List.map_append

section Exact

variable [Collation] {db : Db}

theorem DeploymentRow.cursorKey_le (row : DeploymentRow) : row.cursorKey ≤ row.listingKey := by
  unfold cursorKey listingKey
  rw [Prod.Lex.toLex_le_toLex]
  have cut : ofMillis (columnTime row.updatedAt) ≤ row.updatedAt := by
    unfold ofMillis columnTime
    omega
  rcases Nat.lt_or_eq_of_le cut with earlier | same
  · exact .inl earlier
  · exact .inr ⟨same, le_refl _⟩

theorem DeploymentRow.listingKey_ne {first second : DeploymentRow} (apart : first.id ≠ second.id) :
    first.listingKey ≠ second.listingKey := by
  intro same
  have weights := congrArg (fun key => (ofLex key).2) same
  exact apart (Collation.injective weights)

theorem listedBefore_sorted (rows : List DeploymentRow) :
    (rows.insertionSort DeploymentRow.listedBefore).Pairwise DeploymentRow.listedBefore :=
  haveI : Std.Total DeploymentRow.listedBefore :=
    ⟨fun first second => le_total second.listingKey first.listingKey⟩
  haveI : IsTrans DeploymentRow DeploymentRow.listedBefore :=
    ⟨fun _ _ _ one other => le_trans other one⟩
  List.pairwise_insertionSort _ _

/-- The listing is in strictly descending order. -/
theorem Db.Listable.listing_pairwise (listable : db.Listable) (organizationId : String) :
    (db.listing organizationId).Pairwise fun first second =>
      second.listingKey < first.listingKey := by
  have sorted : (db.listing organizationId).Pairwise DeploymentRow.listedBefore :=
    listedBefore_sorted _
  have keyed : Keyed DeploymentRow.id (db.listing organizationId) :=
    (listable.keyed.filter _).perm (List.perm_insertionSort _ _).symm
  unfold Keyed at keyed
  rw [List.Nodup, List.pairwise_map] at keyed
  exact (sorted.and keyed).imp fun both => lt_of_le_of_ne both.1
    (DeploymentRow.listingKey_ne both.2).symm

/-- The rows behind a bound are the rows of the listing behind it, each with its agent. -/
theorem Db.Listable.listingRows_fst (listable : db.Listable) (organizationId : String)
    (bound : Option (Nat ×ₗ Collation.Weight)) :
    (db.listingRows organizationId bound).map Prod.fst =
      remaining DeploymentRow.listingKey (db.listing organizationId) bound := by
  have sorted := listable.listing_pairwise organizationId
  have joined : ∀ rows : List DeploymentRow, (∀ row ∈ rows, row ∈ db.deployments) →
      (rows.filterMap fun row =>
        (db.agents.find? fun agent => agent.id = row.agentId).map fun agent =>
          (row, agent)).map Prod.fst = rows := by
    intro rows inside
    induction rows with
    | nil => rfl
    | cons row rows ih =>
        obtain ⟨agent, agentMem, own⟩ := listable.owned row (inside row List.mem_cons_self)
        have stored : (db.agents.find? fun agent => agent.id = row.agentId).isSome = true :=
          List.find?_isSome.mpr ⟨agent, agentMem, decide_eq_true own⟩
        obtain ⟨found, isFound⟩ := Option.isSome_iff_exists.mp stored
        have rest := ih fun other member => inside other (List.mem_cons_of_mem _ member)
        rw [List.filterMap_cons_some (by rw [isFound]; rfl), List.map_cons, rest]
  have filtered : ((db.deployments.filter fun row =>
        row.organizationId = organizationId && bound.all fun key => row.listingKey < key)
      |>.insertionSort DeploymentRow.listedBefore) =
        remaining DeploymentRow.listingKey (db.listing organizationId) bound := by
    have behind : remaining DeploymentRow.listingKey (db.listing organizationId) bound =
        (db.listing organizationId).filter fun row =>
          bound.all fun key => decide (row.listingKey < key) := by
      cases bound with
      | none => exact (List.filter_eq_self.mpr fun _ _ => rfl).symm
      | some key => rfl
    rw [behind]
    refine List.Perm.eq_of_pairwise (fun one other oneMem otherMem before after => ?_)
      (listedBefore_sorted _) ((sorted.sublist List.filter_sublist).imp fun below => below.le) ?_
    · -- Two rows of the table that stand before each other are one row.
      have inTable := (List.mem_filter.mp ((List.mem_insertionSort _).mp oneMem)).1
      have alsoInTable := (List.mem_filter.mp
        ((List.mem_insertionSort _).mp (List.mem_filter.mp otherMem).1)).1
      by_contra apart
      refine DeploymentRow.listingKey_ne (fun same => apart ?_) (le_antisymm after before)
      exact listable.keyed.eq_of_key_eq inTable alsoInTable same
    · refine (List.perm_insertionSort _ _).trans ?_
      rw [← List.filter_filter, List.filter_comm]
      exact ((List.perm_insertionSort DeploymentRow.listedBefore _).symm).filter _
  unfold Db.listingRows
  rw [joined _ fun row member =>
    (List.mem_filter.mp ((List.mem_insertionSort _).mp member)).1]
  exact filtered

/-- The cursor that a page leaves whose last row this is. -/
def DeploymentRow.cursor (row : DeploymentRow) : DeploymentCursor :=
  { updatedAt := some (ofMillis (columnTime row.updatedAt)), id := row.id }

/-- A page holds the first rows behind its bound, and its cursor is that of its last row. -/
theorem Db.Listable.page (listable : db.Listable) {organizationId : String} {limit : Option Int}
    {cursor : Option DeploymentCursor} {bound : Option (Nat ×ₗ Collation.Weight)}
    (bounded : listingBound cursor = .ok bound) :
    ∃ page, listDeploymentAggregates db ⟨organizationId, limit, cursor⟩ = .ok page ∧
      page.items.map DeploymentAggregate.id =
        ((remaining DeploymentRow.listingKey (db.listing organizationId) bound).take
          (listingLimit limit)).map DeploymentRow.id ∧
      page.nextCursor = nextMark DeploymentRow.cursor (listingLimit limit)
        (remaining DeploymentRow.listingKey (db.listing organizationId) bound) := by
  have rows := listable.listingRows_fst organizationId bound
  refine ⟨_, by rw [listDeploymentAggregates, bounded]; rfl, ?_, ?_⟩
  · dsimp only
    rw [← rows, List.take_take, Nat.min_eq_left (Nat.le_succ _), List.map_map, ← List.map_take,
      List.map_map]
    rfl
  · have more : ((db.listingRows organizationId bound).take (listingLimit limit + 1)).length >
        listingLimit limit ↔ listingLimit limit < (db.listingRows organizationId bound).length := by
      rw [List.length_take]
      omega
    dsimp only
    unfold nextCursor nextMark
    rw [← rows, List.take_take, Nat.min_eq_left (Nat.le_succ _), List.length_map, ← List.map_take,
      List.getLast?_map, List.getLast?_map, Option.map_map, Option.map_map]
    simp only [decide_eq_true_eq, more]
    rfl

/-- Following the cursors of the listing is following the marks of its rows. -/
theorem Db.Listable.followListing_ids (listable : db.Listable) (organizationId : String)
    (limit : Option Int) :
    ∀ (calls : Nat) (cursor : Option DeploymentCursor)
      (bound : Option (Nat ×ₗ Collation.Weight)), listingBound cursor = .ok bound →
      (db.followListing organizationId limit calls cursor).map
          (List.map DeploymentAggregate.id) =
        (follow DeploymentRow.listingKey DeploymentRow.cursorKey (listingLimit limit)
          (db.listing organizationId) calls bound).map (List.map DeploymentRow.id) := by
  intro calls
  induction calls with
  | zero => exact fun _ _ _ => rfl
  | succ calls ih =>
      intro cursor bound bounded
      obtain ⟨page, read, items, next⟩ :=
        @Db.Listable.page _ db listable organizationId limit cursor bound bounded
      rw [Db.followListing, read, follow]
      dsimp only
      rw [next]
      unfold nextMark
      by_cases more : listingLimit limit <
          (remaining DeploymentRow.listingKey (db.listing organizationId) bound).length
      · cases isLast : ((remaining DeploymentRow.listingKey (db.listing organizationId)
            bound).take (listingLimit limit)).getLast? with
        | none =>
            simp only [if_pos more, Option.map_none, Option.map_some, items]
        | some last =>
            have stored : last ∈ db.deployments := by
              have onPage := List.mem_of_mem_take (List.mem_of_getLast? isLast)
              have listed : last ∈ db.listing organizationId := by
                cases bound with
                | none => exact onPage
                | some key => exact (List.mem_filter.mp onPage).1
              exact (List.mem_filter.mp ((List.mem_insertionSort _).mp listed)).1
            have onward := ih (some last.cursor) (some last.cursorKey)
              (if_neg (listable.named last stored))
            simp only [if_pos more, Option.map_some]
            rw [map_append_map, map_append_map, onward, items]
      · simp only [if_neg more, Option.map_some, items]

/-- The condition under which the cursors lose nothing: behind the last deployment of each page
the next one was updated before the millisecond of that deployment begins, or at its very
beginning and then has the smaller id. -/
def Db.CutsApart (db : Db) (organizationId : String) (limit : Option Int) : Prop :=
  ∀ before last next rest, db.listing organizationId = before ++ last :: next :: rest →
    listingLimit limit ∣ before.length + 1 →
    next.updatedAt < ofMillis (columnTime last.updatedAt) ∨
      (next.updatedAt = ofMillis (columnTime last.updatedAt) ∧
        Collation.weight next.id < Collation.weight last.id)

theorem Db.cutsApart_iff {organizationId : String} {limit : Option Int} :
    db.CutsApart organizationId limit ↔
      Seamless DeploymentRow.listingKey DeploymentRow.cursorKey (listingLimit limit)
        (db.listing organizationId) := by
  unfold Db.CutsApart Seamless DeploymentRow.listingKey DeploymentRow.cursorKey
  simp only [Prod.Lex.toLex_lt_toLex]

/-- Following `nextCursor` from the start comes to an end, and it visits every deployment of the
organization exactly once, in descending order, if and only if no cursor cuts off the deployment
behind its page. -/
theorem listing_visits_all_iff (listable : db.Listable) (organizationId : String)
    (limit : Option Int) :
    ∃ visited, db.followListing organizationId limit (db.deployments.length + 1) none =
        some visited ∧
      (visited.map DeploymentAggregate.id =
          (db.listing organizationId).map DeploymentRow.id ↔
        db.CutsApart organizationId limit) := by
  have sorted := listable.listing_pairwise organizationId
  have enough : (db.listing organizationId).length < db.deployments.length + 1 := by
    have fewer := List.length_filter_le
      (fun row : DeploymentRow => decide (row.organizationId = organizationId)) db.deployments
    rw [Db.listing, List.length_insertionSort]
    omega
  obtain ⟨rows, followed, included, exact_iff⟩ :=
    follow_remaining (listingLimit_pos limit) DeploymentRow.cursorKey_le sorted
      (db.deployments.length + 1) none enough
  have ids := listable.followListing_ids organizationId limit (db.deployments.length + 1) none none
    rfl
  rw [followed, Option.map_some] at ids
  obtain ⟨visited, read, same⟩ := Option.map_eq_some_iff.mp ids
  refine ⟨visited, read, ?_⟩
  have all_iff : rows = db.listing organizationId ↔
      Seamless DeploymentRow.listingKey DeploymentRow.cursorKey (listingLimit limit)
        (db.listing organizationId) := exact_iff
  have listed : rows.Sublist (db.listing organizationId) := included
  rw [same, Db.cutsApart_iff, ← all_iff]
  constructor
  · intro whole
    have counted := congrArg List.length whole
    rw [List.length_map, List.length_map] at counted
    exact listed.eq_of_length counted
  · intro whole
    rw [whole]

end Exact

/-- Texts in the order of their code points. -/
@[reducible] def codePoints : Collation :=
  { Weight := String, order := inferInstance, weight := id, injective := fun _ _ same => same }

/-- Two deployments, the second updated a few microseconds before the first. -/
def samplePagesDb (first second : Nat) : Db :=
  { sampleDb with
    deployments := [{ sampleDeployment with updatedAt := first },
      { sampleDeployment with id := "deployment-2", updatedAt := second }] }

theorem samplePagesDb_listable (first second : Nat) : (samplePagesDb first second).Listable := by
  constructor <;> simp [samplePagesDb, sampleDb, Db.empty, Keyed, sampleDeployment, sampleAgent]

theorem listing_visits_all_iff_samplePagesDb :
    haveI := codePoints
    ∃ visited, (samplePagesDb 2500 900).followListing "org-1" (some 1) 3 none = some visited ∧
      (visited.map DeploymentAggregate.id =
          ((samplePagesDb 2500 900).listing "org-1").map DeploymentRow.id ↔
        (samplePagesDb 2500 900).CutsApart "org-1" (some 1)) :=
  @listing_visits_all_iff codePoints _ (samplePagesDb_listable 2500 900) "org-1" (some 1)

/-- Both deployments were updated in one millisecond. The cursor of the first page cuts off the
second deployment, and no page shows it. -/
theorem deployment_in_same_millisecond_not_visited :
    haveI := codePoints
    ((samplePagesDb 900 500).followListing "org-1" (some 1) 3 none).map
        (List.map DeploymentAggregate.id) = some ["deployment-1"] ∧
      ((samplePagesDb 900 500).listing "org-1").map DeploymentRow.id =
        ["deployment-1", "deployment-2"] := by
  decide +kernel

end BairuiPlatform
