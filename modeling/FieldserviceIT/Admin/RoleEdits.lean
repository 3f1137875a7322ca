import FieldserviceIT.Admin.AdminTables

/-!
Roles and their permissions as an administrator writes them: a new role, a change of a role, and the
way back to an earlier version of its permissions. Each is a sequence of statements of its own, and
the permissions of a role are deleted before the new ones are looked up.
-/

namespace FieldserviceIT.Admin.RoleEdits

open Common Lib Attempt AdminTables

/-- Where a role is read. -/
inductive Place where
  | scope
  | before
  | analysisScope
  | analysis
  | updated
  | created
  | rollback
  deriving DecidableEq

inductive RoleStatement where
  | findRoles
  | insertRole
  | readInserted
  | readRole (place : Place)
  | readPermissions (place : Place)
  | readActiveUsers
  | deletePermissions
  | findPermissions
  | insertPermission (permissionId : String)
  | updateRole
  | insertAudit
  | readUsers
  | revokeSessions
  | bumpUsers
  | findHistory
  deriving DecidableEq

/-- What the database refuses, and the identifiers that are drawn. -/
structure RoleServer where
  refuses : RoleStatement → Bool
  roleId : String
  auditId : String

structure RoleView where
  role : TenantRole
  permissionSlugs : List String

section Reading

variable (R : RoleServer)

def ask {α : Type} (statement : RoleStatement) (answer : AdminTables → α) : AdminCall α :=
  demand (R.refuses statement) .database (gets answer)

def write (statement : RoleStatement) (change : AdminTables → AdminTables) : AdminCall Unit :=
  demand (R.refuses statement) .database (modify change)

def roleNotFound : AdminError :=
  .notFound "Role not found"

def readRole (place : Place) (roleId : String) : AdminCall TenantRole := do
  let role ← ask R (.readRole place) fun t => t.roles.find roleId
  match role with
  | none => throw roleNotFound
  | some role => pure role

def assertRoleScope (place : Place) (roleId : String) (actor : CurrentUser) (requireEditable : Bool) :
    AdminCall TenantRole := do
  let role ← readRole R place roleId
  if actor.role = .superAdmin then pure role
  else if requireEditable && role.isSystem then
    throw (.forbidden "System roles can only be changed by a super admin")
  else if truthy role.companyId && role.companyId ≠ actor.companyId then
    throw (.forbidden "Role is outside your tenant")
  else if requireEditable && role.companyId ≠ actor.companyId then
    throw (.forbidden "Only tenant-owned roles can be changed")
  else pure role

def getRole (place : Place) (roleId : String) : AdminCall RoleView := do
  let role ← readRole R place roleId
  let slugs ← ask R (.readPermissions place) fun t => t.carried roleId
  pure ⟨role, slugs⟩

def activeUsers (t : AdminTables) (roleId : String) : List String :=
  (t.users.filter fun user => t.userRoles.contains (user.id, roleId) && user.isActive &&
    !user.isDeleted).map (·.id)

def analysisOf (role : TenantRole) (before after affectedUsers : List String) : PermissionAnalysis :=
  let removed := before.eraseDups.filter fun slug => !(after.contains slug)
  let criticalRemoved := removed.filter fun slug => criticalPermissionSlugs.contains slug
  { roleId := role.id
    roleName := role.name
    removed := removed
    criticalRemoved := criticalRemoved
    affectedUsers := affectedUsers
    requiresAcknowledgement := !criticalRemoved.isEmpty && !affectedUsers.isEmpty }

/-- The risks and missing dependencies of the new permissions, which are told too, are left out. -/
def analyzePermissionChange (roleId : String) (permissionSlugs : List String) (actor : CurrentUser) :
    AdminCall PermissionAnalysis := do
  let role ← assertRoleScope R .analysisScope roleId actor true
  let current ← getRole R .analysis roleId
  let users ← ask R .readActiveUsers fun t => activeUsers t roleId
  pure (analysisOf role current.permissionSlugs permissionSlugs users)

def findPermissionsBySlugs (slugs : List String) : AdminCall (List (String × String)) := do
  let uniqueSlugs := (slugs.filter (· ≠ "")).eraseDups
  if uniqueSlugs.isEmpty then pure []
  else do
    let permissions ← ask R .findPermissions fun t =>
      t.permissions.rows.filter fun permission => uniqueSlugs.contains permission.2
    let missing := uniqueSlugs.filter fun slug => !(permissions.any fun permission => permission.2 = slug)
    if missing.isEmpty then pure permissions
    else throw (.badRequest ("Unknown permission(s): " ++ ", ".intercalate missing))

end Reading

section Writing

variable (R : RoleServer)

def insertRolePermission (roleId permissionId : String) : AdminCall Unit := do
  let entries ← gets (·.rolePermissions)
  if entries.contains (roleId, permissionId) then throw .database
  else
    write R (.insertPermission permissionId) fun t =>
      { t with rolePermissions := t.rolePermissions ++ [(roleId, permissionId)] }

/-- `rolePermission.createMany` -/
def createMany (roleId : String) : List String → AdminCall Unit
  | [] => pure ()
  | permissionId :: rest => do
      insertRolePermission R roleId permissionId
      createMany roleId rest

/-- Look the permissions up and put them on the role, if there are any. -/
def addPermissions (roleId : String) (permissionSlugs : List String) : AdminCall Unit :=
  if permissionSlugs.isEmpty then pure ()
  else do
    let permissions ← findPermissionsBySlugs R permissionSlugs
    createMany R roleId (permissions.map (·.1))

def insertRole (role : TenantRole) : AdminCall Unit := do
  let roles ← gets (·.roles)
  if roles.refuses role then throw .database
  else write R .insertRole fun t => { t with roles := t.roles.insert role }

def createRole (dto : RoleDto) : AdminCall RoleView := do
  let existing ← ask R .findRoles fun t => t.roles.rows.any fun role =>
    role.slug = dto.slug && role.companyId = orNull dto.companyId
  if existing then throw (.badRequest "Role slug already exists for this company")
  else do
    insertRole R
      { id := R.roleId
        companyId := orNull dto.companyId
        isSystem := false
        name := dto.name
        slug := dto.slug
        description := dto.description }
    ask R .readInserted fun _ => ()
    addPermissions R R.roleId dto.permissionSlugs
    getRole R .created R.roleId

def replacePermissions (roleId : String) (permissionSlugs : List String) : AdminCall Unit := do
  write R .deletePermissions fun t =>
    { t with rolePermissions := t.rolePermissions.filter fun entry => entry.1 ≠ roleId }
  addPermissions R roleId permissionSlugs

/-- The `UPDATE` is left out when there is nothing to set. -/
def setRow (roleId : String) (dto : UpdateRoleDto) : AdminCall Unit :=
  if truthy dto.name || dto.description.isSome then
    write R .updateRole fun t =>
      { t with roles := t.roles.rename roleId (orNull dto.name) dto.description }
  else pure ()

def readUpdated (roleId : String) : AdminCall (Option RoleView) := do
  let role ← ask R (.readRole .updated) fun t => t.roles.find roleId
  match role with
  | none => pure none
  | some role => do
      let slugs ← ask R (.readPermissions .updated) fun t => t.carried role.id
      pure (some ⟨role, slugs⟩)

/-- `role.update`; the role is read again in any case. -/
def updateRow (roleId : String) (dto : UpdateRoleDto) : AdminCall (Option RoleView) := do
  setRow R roleId dto
  readUpdated R roleId

def recordPermissionAudit (actor : CurrentUser) (role : TenantRole) (action : String)
    (diff : PermissionDiff) : AdminCall Unit :=
  write R .insertAudit fun t =>
    { t with
      auditLog := t.auditLog ++
        [{  id := R.auditId
            companyId := (orElse role.companyId (orElse actor.companyId (some "platform"))).getD ""
            actorId := actor.id
            action := action
            resourceType := "ROLE_PERMISSIONS"
            resourceId := role.id
            diff := some diff }] }

/-- What follows when an administrator has changed the permissions of a role. -/
def afterwards (actor : CurrentUser) (role : TenantRole) (before after : List String) :
    AdminCall Unit := do
  recordPermissionAudit R actor role "ROLE_PERMISSIONS_UPDATED"
    { roleName := role.name
      before := some before
      after := after
      added := after.filter fun slug => !(before.contains slug)
      removed := before.filter fun slug => !(after.contains slug) }
  let affected ← ask R .readUsers fun t =>
    (t.userRoles.filter fun assignment => assignment.2 = role.id).map (·.1)
  AdminTables.revokeSessionsForUsers (R.refuses .revokeSessions) (R.refuses .bumpUsers) affected
    actor.id "role-permissions-changed"

def assertAcknowledged (roleId : String) (permissionSlugs : List String) (acknowledged : Bool)
    (actor : CurrentUser) : AdminCall Unit := do
  let analysis ← analyzePermissionChange R roleId permissionSlugs actor
  if analysis.requiresAcknowledgement && !acknowledged then
    throw (.criticalPermissionRemoval
      "Removing critical permissions from a role with active users requires acknowledgement" analysis)
  else pure ()

def onBehalf (actor : Option CurrentUser) (call : CurrentUser → AdminCall Unit) : AdminCall Unit :=
  match actor with
  | some actor => call actor
  | none => pure ()

/-- The order of `sort` on texts. -/
def sorted (slugs : List String) : List String :=
  slugs.mergeSort fun a b => a ≤ b

def editedRole (roleId : String) : Option CurrentUser → AdminCall TenantRole
  | some actor => assertRoleScope R .scope roleId actor true
  | none => readRole R .scope roleId

def updateRole (roleId : String) (dto : UpdateRoleDto) (actor : Option CurrentUser) :
    AdminCall (Option RoleView) := do
  let role ← editedRole R roleId actor
  match dto.permissionSlugs with
  | none => updateRow R roleId dto
  | some slugs => do
      let before ← getRole R .before roleId
      onBehalf actor fun actor =>
        assertAcknowledged R roleId slugs dto.acknowledgeCriticalRemoval actor
      replacePermissions R roleId slugs
      let updated ← updateRow R roleId dto
      onBehalf actor fun actor =>
        afterwards R actor role (sorted before.permissionSlugs) (sorted slugs)
      pure updated

def rollbackRolePermissions (roleId historyId : String) (actor : CurrentUser) :
    AdminCall (Option RoleView) := do
  let _ ← assertRoleScope R .rollback roleId actor true
  let entry ← ask R .findHistory fun t => t.auditLog.find? fun entry =>
    entry.id = historyId && entry.resourceType = "ROLE_PERMISSIONS" && entry.resourceId = roleId
  match entry with
  | none => throw (.notFound "Permission history version not found")
  | some entry =>
    if actor.role ≠ .superAdmin && some entry.companyId ≠ actor.companyId then
      throw (.forbidden "Permission history version is outside your tenant")
    else
      match entry.diff.bind (·.before) with
      | none => throw (.badRequest "Permission history version cannot be restored")
      | some before =>
        updateRole R roleId
          { name := none
            description := none
            permissionSlugs := some before
            acknowledgeCriticalRemoval := true }
          (some actor)

end Writing
end FieldserviceIT.Admin.RoleEdits
