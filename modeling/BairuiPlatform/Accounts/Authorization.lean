/-
Module: BairuiPlatform.Accounts.Authorization
Purpose: Roles, permissions, and the check of a permission that the routes make.
Trusted boundary: none
Main exports: Role, Permission, grants, Principal, Resource, can, requirePermission
-/
import BairuiPlatform.Json

namespace BairuiPlatform

/-- `ROLES`. -/
inductive Role where
  | user | orgAdmin | platformAdmin
deriving Repr, DecidableEq

/-- The text of a role. -/
def Role.name : Role → String
  | user => "user"
  | orgAdmin => "org_admin"
  | platformAdmin => "platform_admin"

/-- `isRole`, with the role that the value names. -/
def Role.ofJson? (value : Json) : Option Role :=
  [user, orgAdmin, platformAdmin].find? fun role => value.text? = some role.name

/-- `PERMISSIONS`. -/
inductive Permission where
  | selfRead | agentCreate | agentRead | agentManageOwn | agentUse | conversationRead
  | conversationWrite | orgMembersManage | orgAgentsManage | orgAuditRead
  | platformOverviewRead | platformUsersManage | platformOrgsManage | platformLicensesManage
  | platformServersManage | platformReleasesManage | platformProviderSettingsManage
  | controlPlaneRead | controlPlaneManage | dataGovernanceManage | sensitiveAccessManage
  | controlPlaneIngest
deriving Repr, DecidableEq

/-- The permissions of a user. -/
def userGrants : List Permission :=
  [.selfRead, .agentCreate, .agentRead, .agentManageOwn, .agentUse, .conversationRead,
    .conversationWrite]

/-- `grants.get(role)?.has(permission)`. A platform administrator has every permission. -/
def grants (role : Role) (permission : Permission) : Bool :=
  match role with
  | .user => userGrants.contains permission
  | .orgAdmin =>
      (userGrants ++ [Permission.orgMembersManage, .orgAgentsManage, .orgAuditRead, .controlPlaneRead,
        .controlPlaneManage, .dataGovernanceManage]).contains permission
  | .platformAdmin => true

/-- The user that a session speaks for. -/
structure Principal where
  userId : String
  organizationId : String
  role : Role
deriving Repr, DecidableEq

/-- What a permission is asked for. A field that is missing is empty. -/
structure Resource where
  organizationId : String := ""
  userId : String := ""

/-- `can`. -/
def can (principal : Principal) (permission : Permission) (resource : Resource) : Bool :=
  if !grants principal.role permission then false
  else if principal.role = .platformAdmin then true
  else if resource.organizationId ≠ "" ∧ resource.organizationId ≠ principal.organizationId then
    false
  else if principal.role = .user ∧ resource.userId ≠ "" ∧
      resource.userId ≠ principal.userId then false
  else true

/-- An error that a route turns into a response: `error.statusCode` and `error.message`. -/
structure RouteError where
  statusCode : Nat
  message : String
deriving Repr, DecidableEq

/-- `AuthorizationError`. -/
def authorizationError : RouteError :=
  { statusCode := 403, message := "Forbidden" }

/-- `requireLogin`. -/
def requireLogin (principal : Option Principal) : Except RouteError Principal :=
  match principal with
  | some principal => .ok principal
  | none => .error { statusCode := 401, message := "Authentication required" }

/-- `requirePermission`. -/
def requirePermission (principal : Principal) (permission : Permission) (resource : Resource) :
    Except RouteError Principal :=
  if can principal permission resource then .ok principal else .error authorizationError

end BairuiPlatform
