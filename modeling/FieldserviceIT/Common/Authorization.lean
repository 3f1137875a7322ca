import FieldserviceIT.Common.Users

/-!
Permissions and permission scopes as the tables record them, and the two places
that load them for a request: the permissions guard and the global search. Texts
are compared by the database, so the comparison is a parameter.
-/

namespace FieldserviceIT.Common

def tenantAdminDefaultPermissions : List String :=
  ["access-requests.create", "access-requests.manage", "ai-agent.use", "assets.create",
    "assets.delete", "assets.edit", "assets.export", "assets.view", "audit-logs.view",
    "authorization-tests.manage", "billing.approve", "billing.create", "billing.edit",
    "billing.export", "billing.manage", "billing.sensitive.view", "billing.view",
    "catalog.create", "catalog.manage", "catalog.view", "companies.view",
    "contextual-access.manage", "dispatch.create", "dispatch.edit", "dispatch.view",
    "email-operations.manage", "email-operations.view", "inventory.manage", "inventory.view",
    "invoices.approve", "invoices.create", "invoices.edit", "invoices.export", "invoices.view",
    "knowledge-base.manage", "knowledge-base.view", "maintenance.manage", "maintenance.view",
    "network.actions.run", "network.config.manage", "network.credentials.manage",
    "network.credentials.view", "network.monitoring.view", "operations.manage",
    "operations.view", "patches.deploy", "patches.manage", "patches.view",
    "permissions.governance.manage", "permissions.governance.view", "platform-security.manage",
    "platform-security.view", "policy-bundles.manage", "quotes.approve", "quotes.create",
    "quotes.edit", "quotes.export", "quotes.view", "remote-access.launch",
    "remote-access.manage", "remote-access.view", "reports.export", "reports.view",
    "roles.manage", "roles.view", "security-center.manage", "security-center.view",
    "settings.manage", "settings.view", "tickets.approve", "tickets.create", "tickets.delete",
    "tickets.edit", "tickets.export", "tickets.sensitive.view", "tickets.view",
    "topology.manage", "topology.view", "users.create", "users.delete", "users.manage",
    "users.view", "workflows.manage", "workflows.view"]

structure RoleRow where
  id : String
  name : String
  slug : String
  isSystem : Bool

structure TemporaryGrant where
  userId : String
  slug : String
  startsAt : Int
  expiresAt : Int
  revoked : Bool

structure ScopeRow where
  companyId : Option String
  roleId : Option String
  userId : Option String
  scope : PermissionScope

structure PermissionTables where
  roles : List RoleRow
  /-- `(userId, roleId)` -/
  userRoles : List (String × String)
  /-- `(roleId, slug of the permission)` -/
  rolePermissions : List (String × String)
  temporaryGrants : List TemporaryGrant
  scopes : List ScopeRow

namespace Role

def name : Role → String
  | superAdmin => "SUPER_ADMIN"
  | globalTech => "GLOBAL_TECH"
  | tenantAdmin => "TENANT_ADMIN"
  | technician => "TECHNICIAN"
  | dispatcher => "DISPATCHER"
  | client => "CLIENT"
  | readOnly => "READ_ONLY"
  | other name => name

/-- `name.toLowerCase().replace(/_/g, '-')` -/
def slug (role : Role) : String :=
  String.ofList (role.name.toList.map fun c => if c = '_' then '-' else c.toLower)

end Role

namespace PermissionTables

variable (same : String → String → Bool) (tables : PermissionTables) (now : Int)
variable (user : CurrentUser)

def permissionsOf (role : RoleRow) : List (String × String) :=
  tables.rolePermissions.filter fun p => same p.1 role.id

def findUserRolePermissions : List (String × String) :=
  (tables.userRoles.filter fun a => same a.1 user.id).flatMap fun a =>
    (tables.roles.filter fun r => same r.id a.2).flatMap (tables.permissionsOf same)

def findSystemRolePermissions : List (String × String) :=
  (tables.roles.filter fun r =>
    r.isSystem && (same r.name user.role.name || same r.slug user.role.slug)).flatMap
      (tables.permissionsOf same)

def activeGrants : List String :=
  (tables.temporaryGrants.filter fun g =>
    same g.userId user.id && !g.revoked && decide (g.startsAt ≤ now) && decide (now < g.expiresAt)).map
      (·.slug)

def userPermissionSlugs : List String :=
  (if user.role = .tenantAdmin then tenantAdminDefaultPermissions else []) ++
    (tables.findUserRolePermissions same user).map (·.2) ++
    (tables.findSystemRolePermissions same user).map (·.2) ++ tables.activeGrants same now user

def effectiveRoleIds : List String :=
  (tables.findUserRolePermissions same user ++ tables.findSystemRolePermissions same user).map (·.1)

def guardScopes : List PermissionScope :=
  (tables.scopes.filter fun row =>
    (row.userId.any (same · user.id) ||
        row.roleId.any fun id => (tables.effectiveRoleIds same user).any (same id)) &&
      row.companyId.all fun company => user.companyId.any (same company)).map (·.scope)

/-- `PermissionsGuard.canActivate` for signed-in users: the user it leaves on
the request, `none` when it refuses. A super administrator passes with nothing
loaded. `allowed` is the verdict of the contextual policies. -/
def permissionsGuard (required : List String) (allowed : Bool) : Option CurrentUser :=
  if user.role = .superAdmin then some user
  else if required.all (tables.userPermissionSlugs same now user).contains && allowed then
    some { user with
      permissionScopes := some (tables.guardScopes same user)
      permissionSlugs := some (tables.userPermissionSlugs same now user) }
  else none

/-- `SearchService.effectivePermissions` on a user no guard has loaded them for. -/
def searchPermissions : List String :=
  if user.role = .superAdmin then
    ["tickets.view", "assets.view", "users.view", "knowledge-base.view"]
  else
    (tables.findUserRolePermissions same user).map (·.2) ++
      (tables.findSystemRolePermissions same user).map (·.2) ++ tables.activeGrants same now user

/-- `SearchService.permissionScopes`: by user and assigned role, of any company. -/
def searchScopes : List PermissionScope :=
  (tables.scopes.filter fun row =>
    row.userId.any (same · user.id) ||
      row.roleId.any fun id =>
        (tables.userRoles.filter fun a => same a.1 user.id).any fun a => same id a.2).map (·.scope)

end PermissionTables
end FieldserviceIT.Common
