/-
Module: BairuiPlatform.Accounts.Roles
Purpose: The route that changes the role of a user, and what requests of others than platform
  administrators do to the set of platform administrators.
Trusted boundary: none
Main exports: Population, principalFor, updateRole, roleUpdates, platformAdmins_of_run,
  platform_admins_unchanged_iff
-/
import BairuiPlatform.Accounts.Authorization
import BairuiPlatform.Foundations.Table
import BairuiPlatform.Foundations.Transaction
import BairuiPlatform.Foundations.Transition

namespace BairuiPlatform

open Foundations

/-! ### Users -/

/-- `users`. -/
structure UserRow where
  id : String
  organizationId : String
  role : Role
  active : Bool
deriving Repr, DecidableEq

/-- The users of an installation, one for each id. -/
structure Population where
  rows : List UserRow
  keyed : Keyed UserRow.id rows

namespace Population

/-- `getUser`. -/
def getUser (users : Population) (id : String) : Option UserRow :=
  users.rows.find? fun row => row.id = id

/-- `updateUserRole`. -/
def updateUserRole (users : Population) (id : String) (role : Role) : Population where
  rows := updateWhere (fun row => row.id = id) (fun row => { row with role := role }) users.rows
  keyed := users.keyed.update fun _ => rfl

/-- The ids of the platform administrators. -/
def platformAdmins (users : Population) : Set String :=
  { id | ∃ row ∈ users.rows, row.id = id ∧ row.role = .platformAdmin }

theorem mem_platformAdmins {users : Population} {id : String} :
    id ∈ users.platformAdmins ↔ ∃ row ∈ users.rows, row.id = id ∧ row.role = .platformAdmin :=
  Iff.rfl

/-- A user whose role becomes another one leaves the platform administrators. -/
theorem platformAdmins_updateUserRole {users : Population} {id : String} {role : Role}
    (lower : role ≠ .platformAdmin) :
    (users.updateUserRole id role).platformAdmins = users.platformAdmins \ {id} := by
  ext other
  rw [Set.mem_sdiff, Set.mem_singleton_iff, mem_platformAdmins, mem_platformAdmins]
  constructor
  · rintro ⟨row, member, rfl, admin⟩
    rcases mem_updateWhere.mp member with ⟨old, -, -, rfl⟩ | ⟨old, apart⟩
    · exact absurd admin lower
    · exact ⟨⟨row, old, rfl, admin⟩, by simpa using apart⟩
  · rintro ⟨⟨row, member, rfl, admin⟩, apart⟩
    exact ⟨row, mem_updateWhere.mpr (.inr ⟨member, by simpa using apart⟩), rfl, admin⟩

end Population

/-! ### The route -/

/-- What a verified session token says. -/
structure Session where
  userId : String
  organizationId : String
deriving Repr, DecidableEq

/-- `principalFor`: the session speaks for an active user of its organization, in the role
that the user has now. -/
def principalFor (users : Population) (session : Option Session) : Option Principal := do
  let session ← session
  let user ← users.getUser session.userId
  if user.active && user.organizationId = session.organizationId then
    some { userId := user.id, organizationId := user.organizationId, role := user.role }
  else none

/-- The audit row of a change of a role. -/
structure RoleAudit where
  organizationId : String
  actorUserId : String
  action : String
  targetType : String
  targetId : String
  metadata : Json

/-- The tables that the route writes. -/
structure AccountStore where
  users : Population
  audits : List RoleAudit

/-- `PATCH /api/admin/users/:id/role`. -/
structure RoleUpdate where
  session : Option Session
  targetId : String
  body : Json

/-- `body.role`. -/
def RoleUpdate.role? (request : RoleUpdate) : Option Role :=
  (request.body.field? "role").bind Role.ofJson?

/-- The audit row that the route records. -/
def roleAudit (principal : Principal) (target : UserRow) (role : Role) : RoleAudit :=
  { organizationId := target.organizationId, actorUserId := principal.userId
    action := "user.role.update", targetType := "user", targetId := target.id
    metadata := .obj [("from", .str target.role.name), ("to", .str role.name)] }

/-- The permission to give a user a role. -/
def requireRoleChange (principal : Principal) (target : UserRow) (role : Role) :
    Except RouteError Unit := do
  if principal.role = .platformAdmin then
    let _ ← requirePermission principal .platformUsersManage {}
  else
    let _ ← requirePermission principal .orgMembersManage
      { organizationId := target.organizationId }
    if role = .platformAdmin then
      throw authorizationError

/-- The role update route. -/
def updateRole (request : RoleUpdate) (store : AccountStore) :
    Except RouteError (UserRow × AccountStore) := do
  let principal ← requireLogin (principalFor store.users request.session)
  match store.users.getUser request.targetId with
  | none => throw { statusCode := 404, message := "user_not_found" }
  | some target =>
      match request.role? with
      | none => throw { statusCode := 400, message := "invalid_role" }
      | some role =>
          requireRoleChange principal target role
          return ({ target with role := role },
            { users := store.users.updateUserRole target.id role
              audits := store.audits ++ [roleAudit principal target role] })

/-- Someone else than a platform administrator who may give a role gives a lower one. -/
theorem requireRoleChange_lower {principal : Principal} {target : UserRow} {role : Role}
    (other : principal.role ≠ .platformAdmin)
    (allowed : requireRoleChange principal target role = .ok ()) : role ≠ .platformAdmin := by
  rintro rfl
  rw [requireRoleChange, if_neg other, bind_eq_ok] at allowed
  obtain ⟨_, -, raised⟩ := allowed
  cases raised

/-- What a request that the route accepts does. -/
theorem updateRole_ok {request : RoleUpdate} {store after : AccountStore} {updated : UserRow}
    (accepted : updateRole request store = .ok (updated, after)) :
    ∃ principal target role, principalFor store.users request.session = some principal ∧
      store.users.getUser request.targetId = some target ∧ request.role? = some role ∧
      requireRoleChange principal target role = .ok () ∧
      after.users = store.users.updateUserRole request.targetId role := by
  simp only [updateRole, bind_eq_ok] at accepted
  obtain ⟨principal, loggedIn, rest⟩ := accepted
  have speaks : principalFor store.users request.session = some principal := by
    cases found : principalFor store.users request.session with
    | none => rw [found] at loggedIn; cases loggedIn
    | some other => rw [found] at loggedIn; cases loggedIn; rfl
  cases foundTarget : store.users.getUser request.targetId with
  | none => rw [foundTarget] at rest; cases rest
  | some target =>
      cases foundRole : request.role? with
      | none => rw [foundTarget, foundRole] at rest; cases rest
      | some role =>
          rw [foundTarget, foundRole] at rest
          simp only [bind_eq_ok] at rest
          obtain ⟨_, allowed, answered⟩ := rest
          have own : target.id = request.targetId := by
            simpa using List.find?_some foundTarget
          cases answered
          exact ⟨principal, target, role, speaks, rfl, rfl, allowed, by rw [own]⟩

/-! ### Requests of others than platform administrators -/

/-- The session of the request does not speak for a platform administrator. -/
def RoleUpdate.ByOthers (request : RoleUpdate) (users : Population) : Prop :=
  ∀ principal, principalFor users request.session = some principal →
    principal.role ≠ .platformAdmin

/-- The route under requests that it accepts, none of them from a platform administrator. -/
def roleUpdates (start : Population) : TransitionSystem AccountStore RoleUpdate where
  initial store := store.users = start
  step before request after :=
    request.ByOthers before.users ∧ ∃ updated, updateRole request before = .ok (updated, after)

/-- An accepted request takes its target out of the platform administrators. -/
theorem platformAdmins_of_step {start : Population} {before after : AccountStore}
    {request : RoleUpdate} (taken : (roleUpdates start).step before request after) :
    after.users.platformAdmins = before.users.platformAdmins \ {request.targetId} := by
  obtain ⟨others, updated, accepted⟩ := taken
  obtain ⟨principal, target, role, speaks, -, -, allowed, changed⟩ := updateRole_ok accepted
  rw [changed]
  exact Population.platformAdmins_updateUserRole
    (requireRoleChange_lower (others principal speaks) allowed)

/-- The users that the requests of a history name. -/
def targetsOf (history : List (Transition AccountStore RoleUpdate)) : Set String :=
  { id | ∃ transition ∈ history, transition.label.targetId = id }

/-- After a run the platform administrators are those from before that no request named. -/
theorem platformAdmins_of_run {start : Population}
    {history : List (Transition AccountStore RoleUpdate)} {store : AccountStore}
    (run : Run (roleUpdates start) history store) :
    store.users.platformAdmins = start.platformAdmins \ targetsOf history := by
  induction run with
  | start initial =>
      have none : targetsOf [] = ∅ := by simp [targetsOf]
      rw [show _ = start from initial, none, Set.sdiff_empty]
  | @step history before after request run taken ih =>
      have more : targetsOf (⟨before, request, after⟩ :: history) =
          targetsOf history ∪ {request.targetId} := by
        ext id
        simp only [targetsOf, List.mem_cons, exists_eq_or_imp, Set.mem_ofPred_eq,
          Set.mem_union, Set.mem_singleton_iff]
        rw [or_comm, eq_comm (a := id)]
      rw [platformAdmins_of_step taken, ih, more, Set.sdiff_sdiff]

/-- Accepted requests of others than platform administrators leave the set of platform
administrators as it was if and only if none of them names one of its members. -/
theorem platform_admins_unchanged_iff {start : Population}
    {history : List (Transition AccountStore RoleUpdate)} {store : AccountStore}
    (run : Run (roleUpdates start) history store) :
    store.users.platformAdmins = start.platformAdmins ↔
      ∀ transition ∈ history, transition.label.targetId ∉ start.platformAdmins := by
  rw [platformAdmins_of_run run, sdiff_eq_left, Set.disjoint_left]
  constructor
  · intro apart transition member admin
    exact apart admin ⟨transition, member, rfl⟩
  · rintro apart id admin ⟨transition, member, rfl⟩
    exact apart transition member admin

/-! ### A small organization -/

/-- An organization with the platform administrator, an administrator of its own and a
user. -/
def sampleUsers : Population where
  rows :=
    [{ id := "admin", organizationId := "org_bairui", role := .platformAdmin, active := true },
      { id := "manager", organizationId := "org_bairui", role := .orgAdmin, active := true },
      { id := "member", organizationId := "org_bairui", role := .user, active := true }]
  keyed := by simp [Keyed]

/-- The session of the administrator of the organization. -/
def sampleSession : Option Session :=
  some { userId := "manager", organizationId := "org_bairui" }

/-- The administrator of the organization gives someone the role of a user. -/
def sampleDemotion (targetId : String) : RoleUpdate :=
  { session := sampleSession
    targetId := targetId, body := .obj [("role", .str "user")] }

/-- The tables after the demotion. -/
def demoted (targetId : String) : AccountStore :=
  match updateRole (sampleDemotion targetId) ⟨sampleUsers, []⟩ with
  | .ok (_, after) => after
  | .error _ => ⟨sampleUsers, []⟩

/-- The demotion of a user of the organization is a run. -/
theorem demoted_run (targetId : String) (updated : UserRow)
    (accepted : updateRole (sampleDemotion targetId) ⟨sampleUsers, []⟩ =
      .ok (updated, demoted targetId)) :
    Run (roleUpdates sampleUsers)
      [⟨⟨sampleUsers, []⟩, sampleDemotion targetId, demoted targetId⟩] (demoted targetId) := by
  apply Run.step (.start rfl)
  refine ⟨?_, updated, accepted⟩
  intro principal speaks
  have manager : principalFor sampleUsers sampleSession =
      some ⟨"manager", "org_bairui", .orgAdmin⟩ := by decide
  have speaks : principalFor sampleUsers sampleSession = some principal := speaks
  rw [manager] at speaks
  cases speaks
  decide

/-- The role of another member may change. -/
theorem platform_admins_unchanged_sample :
    (demoted "member").users.platformAdmins = sampleUsers.platformAdmins ↔
      ∀ transition ∈
        [Transition.mk ⟨sampleUsers, []⟩ (sampleDemotion "member") (demoted "member")],
        transition.label.targetId ∉ sampleUsers.platformAdmins :=
  platform_admins_unchanged_iff
    (demoted_run "member" ⟨"member", "org_bairui", .user, true⟩ rfl)

/-- An administrator of an organization can take the platform administrator's role. -/
theorem org_admin_demotes_platform_admin :
    ∃ history store, Run (roleUpdates sampleUsers) history store ∧
      store.users.platformAdmins ≠ sampleUsers.platformAdmins := by
  have run := demoted_run "admin" ⟨"admin", "org_bairui", .user, true⟩ rfl
  refine ⟨_, _, run, ?_⟩
  intro same
  have admin : "admin" ∈ sampleUsers.platformAdmins :=
    ⟨⟨"admin", "org_bairui", .platformAdmin, true⟩, by decide, rfl, rfl⟩
  rw [← same, platformAdmins_of_run run] at admin
  exact admin.2 ⟨_, List.mem_cons_self, rfl⟩

end BairuiPlatform
