import FieldserviceIT.Admin.Scim
import FieldserviceIT.Admin.TemporaryAccess
import FieldserviceIT.Common.Authorization
import Mathlib.Data.List.Nodup

/-!
What an administrator hands on: roles with their permissions, assignments of roles,
service accounts, temporary grants, imported policies and reviewed requests for
access. The last are the programs of their own module, on their part of the store.
Audit entries, alerts, snapshots and the ends of sessions are no part of it, nor is
what an import does besides the roles: none of it decides about permissions.
-/

namespace FieldserviceIT.Admin

open Common Lib

structure TenantRole extends AssignableRole where
  name : String
  slug : String
  description : Option String

/-- The key of the table is `id`. -/
structure RoleTable where
  rows : List TenantRole
  distinct : (rows.map (·.id)).Nodup

namespace RoleTable

variable (t : RoleTable)

def find (id : String) : Option TenantRole :=
  t.rows.find? fun role => role.id = id

/-- The keys `id` and `(slug, companyId)`; the second one ignores missing companies. -/
def refuses (role : TenantRole) : Bool :=
  t.rows.any fun other => other.id = role.id ||
    other.slug = role.slug && other.companyId.isSome && other.companyId = role.companyId

theorem id_ne_of_not_refuses {t : RoleTable} {role : TenantRole} (h : ¬ t.refuses role = true) :
    ∀ other ∈ t.rows, other.id ≠ role.id := by
  intro other hmem hid
  apply h
  exact List.any_eq_true.mpr ⟨other, hmem, by simp [hid]⟩

def insert (role : TenantRole) : RoleTable :=
  if h : t.refuses role = true then t
  else
    { rows := t.rows ++ [role]
      distinct := by
        rw [List.map_append, List.nodup_append]
        refine ⟨t.distinct, by simp, ?_⟩
        intro id hid id' hid'
        obtain ⟨other, hmem, rfl⟩ := List.mem_map.mp hid
        obtain rfl := List.mem_singleton.mp hid'
        exact id_ne_of_not_refuses h other hmem }

/-- `UPDATE Role SET name, description WHERE id = ?`, each of them if it is given. -/
def rename (id : String) (name : Option String) (description : Option (Option String)) : RoleTable where
  rows := t.rows.map fun role =>
    if role.id = id then
      { role with
        name := name.getD role.name
        description := description.getD role.description }
    else role
  distinct := by
    have hids : (t.rows.map fun role : TenantRole => if role.id = id then
        { role with
          name := name.getD role.name
          description := description.getD role.description }
        else role).map (·.id) = t.rows.map (·.id) := by
      rw [List.map_map]
      apply List.map_congr_left
      intro role _
      simp only [Function.comp_apply]
      split <;> rfl
    rw [hids]
    exact t.distinct

section Rows

variable {t : RoleTable} {role : TenantRole}

theorem eq_of_id {other : TenantRole} (hrole : role ∈ t.rows) (hother : other ∈ t.rows)
    (hid : role.id = other.id) : role = other :=
  List.inj_on_of_nodup_map t.distinct hrole hother hid

theorem mem_insert {row : TenantRole} :
    role ∈ (t.insert row).rows → role ∈ t.rows ∨ role = row := by
  rw [insert]
  split
  · exact .inl
  · intro h
    simpa using h

theorem mem_insert_of_mem (row : TenantRole) (h : role ∈ t.rows) : role ∈ (t.insert row).rows := by
  rw [insert]
  split
  · exact h
  · exact List.mem_append_left _ h

theorem mem_rename {id : String} {name : Option String} {description : Option (Option String)}
    (h : role ∈ (t.rename id name description).rows) :
    role ∈ t.rows ∨ ∃ old ∈ t.rows, old.id = id ∧ role.isSystem = old.isSystem := by
  obtain ⟨old, hold, rfl⟩ := List.mem_map.mp h
  split
  · next hid => exact .inr ⟨old, hold, hid, rfl⟩
  · exact .inl hold

theorem exists_rename (id : String) (name : Option String) (description : Option (Option String))
    (h : role ∈ t.rows) :
    ∃ row ∈ (t.rename id name description).rows, row.id = role.id ∧ row.isSystem = role.isSystem := by
  refine ⟨_, List.mem_map.mpr ⟨role, h, rfl⟩, ?_⟩
  split
  · exact ⟨rfl, rfl⟩
  · exact ⟨rfl, rfl⟩

end Rows

end RoleTable

structure ServiceAccount where
  id : String
  companyId : Option String
  name : String
  permissionSlugs : List String
  scopeType : String
  scopeValues : List String
  expiresAt : Option Int
  isActive : Bool
  createdById : String

/-- Grants that are revoked are left out. -/
structure RoleStore where
  now : Int
  drawn : Nat
  accounts : List Account
  /-- Identifiers and slugs. -/
  permissions : List (String × String)
  roles : RoleTable
  /-- Identifiers of roles and of permissions. -/
  rolePermissions : List (String × String)
  /-- Identifiers of users and of roles. -/
  userRoles : List (String × String)
  grants : List PermissionGrant
  serviceAccounts : List ServiceAccount
  elevations : List ElevationRequest
  accessRequests : List AccessRequest
  relationships : List Relationship
  underReview : List RequestKey
  results : List Result

namespace RoleStore

variable (s : RoleStore)

def access : AccessStore where
  now := s.now
  drawn := s.drawn
  accounts := s.accounts
  permissions := s.permissions
  roles := s.roles.rows.map (·.toAssignableRole)
  elevations := s.elevations
  accessRequests := s.accessRequests
  grants := s.grants
  userRoles := s.userRoles
  relationships := s.relationships
  underReview := s.underReview
  results := s.results

/-- A review changes neither accounts nor roles nor what they carry. -/
def withAccess (a : AccessStore) : RoleStore :=
  { s with
    drawn := a.drawn
    grants := a.grants
    userRoles := a.userRoles
    elevations := a.elevations
    accessRequests := a.accessRequests
    relationships := a.relationships
    underReview := a.underReview
    results := a.results }

def slugsOf (permissionId : String) : List String :=
  (s.permissions.filter fun permission => permission.1 = permissionId).map (·.2)

def carried (roleId : String) : List String :=
  (s.rolePermissions.filter fun entry => entry.1 = roleId).flatMap fun entry => s.slugsOf entry.2

def tables : PermissionTables where
  roles := s.roles.rows.map fun role => ⟨role.id, role.name, role.slug, role.isSystem⟩
  userRoles := s.userRoles
  rolePermissions := s.rolePermissions.flatMap fun entry =>
    (s.slugsOf entry.2).map fun slug => (entry.1, slug)
  temporaryGrants := s.grants.flatMap fun grant =>
    (s.slugsOf grant.permissionId).map fun slug =>
      ⟨grant.userId, slug, grant.startsAt, grant.expiresAt, false⟩
  scopes := []

end RoleStore

def sameText (a b : String) : Bool :=
  a = b

def Account.signedIn (account : Account) : CurrentUser where
  id := account.id
  role := account.role
  userType := .businessUser
  companyId := account.companyId
  effectiveCompanyId := none
  location := none
  permissionScopes := none
  permissionSlugs := none

/-- Who can have permissions. -/
inductive Holder where
  | user (account : Account)
  | role (id : String)
  | serviceAccount (id : String)

/-- The permissions that are in effect at a time: the guard's for a user, those of the
table for a role, those of its row for a service account that can sign in. -/
def RoleStore.effective (s : RoleStore) (now : Int) : Holder → List String
  | .user account => s.tables.userPermissionSlugs sameText now account.signedIn
  | .role id => s.carried id
  | .serviceAccount id =>
    (s.serviceAccounts.filter fun account => account.id = id && account.isActive &&
      account.expiresAt.all (now < ·)).flatMap (·.permissionSlugs)

inductive RoleOp where
  | read
  | insertRole (row : TenantRole)
  | updateRole (id : String) (name : Option String) (description : Option (Option String))
  | deleteRolePermissions (roleId : String)
  | insertRolePermission (roleId permissionId : String)
  /-- `INSERT IGNORE INTO RolePermission SELECT ... FROM Permission WHERE slug = ?` -/
  | importRolePermission (roleId slug : String)
  | insertUserRole (userId roleId : String)
  | insertServiceAccount (row : ServiceAccount)
  | insertGrant (row : PermissionGrant)
  | access (op : AccessOp)

section Statements

variable (uuid : Nat → String)

def execRole (op : RoleOp) (s : RoleStore) : RoleStore :=
  match op with
  | .read => s
  | .insertRole row =>
    { s with
      drawn := s.drawn + 1
      roles := s.roles.insert { row with id := uuid s.drawn } }
  | .updateRole id name description => { s with roles := s.roles.rename id name description }
  | .deleteRolePermissions roleId =>
    { s with rolePermissions := s.rolePermissions.filter fun entry => entry.1 ≠ roleId }
  | .insertRolePermission roleId permissionId =>
    if s.rolePermissions.contains (roleId, permissionId) then s
    else { s with rolePermissions := s.rolePermissions ++ [(roleId, permissionId)] }
  | .importRolePermission roleId slug =>
    let entries := (s.permissions.filter fun permission => permission.2 = slug).map fun permission =>
      (roleId, permission.1)
    { s with
      rolePermissions := s.rolePermissions ++
        entries.filter fun entry => !(s.rolePermissions.contains entry) }
  | .insertUserRole userId roleId =>
    if s.userRoles.contains (userId, roleId) then s
    else { s with userRoles := s.userRoles ++ [(userId, roleId)] }
  | .insertServiceAccount row =>
    { s with
      drawn := s.drawn + 1
      serviceAccounts :=
        if s.serviceAccounts.any fun other => other.id = uuid s.drawn then s.serviceAccounts
        else s.serviceAccounts ++ [{ row with id := uuid s.drawn }] }
  | .insertGrant row =>
    { s with
      drawn := s.drawn + 1
      grants :=
        if s.grants.any fun other => other.id = uuid s.drawn then s.grants
        else s.grants ++ [{ row with id := uuid s.drawn }] }
  | .access op => s.withAccess (execAccess uuid op s.access)

end Statements

abbrev RoleProgram := Prog RoleStore RoleOp

section Lookups

/-- `none` when a slug is of no permission. -/
def findPermissionsBySlugs (permissions : List (String × String)) (slugs : List String) :
    Option (List (String × String)) :=
  let uniqueSlugs := (slugs.filter (· ≠ "")).eraseDups
  let found := permissions.filter fun permission => uniqueSlugs.contains permission.2
  if uniqueSlugs.all fun slug => found.any fun permission => permission.2 = slug then some found
  else none

def assertRoleScope (roles : RoleTable) (roleId : String) (actor : CurrentUser)
    (requireEditable : Bool) : Option TenantRole :=
  (roles.find roleId).filter fun role =>
    actor.role = .superAdmin ||
      !(requireEditable && role.isSystem) &&
        !(truthy role.companyId && role.companyId ≠ actor.companyId) &&
        !(requireEditable && role.companyId ≠ actor.companyId)

def getRole (roleId : String) (go : List String → RoleProgram) : RoleProgram :=
  .step .read fun s =>
    if (s.roles.find roleId).isNone then .fail
    else .step .read fun s' => go (s'.carried roleId)

def criticalPermissionSlugs : List String :=
  ["users.manage", "roles.manage", "billing.manage", "platform-security.manage",
    "audit-logs.view", "backups.manage"]

/-- `analyzePermissionChange`, as far as `requiresAcknowledgement` goes. -/
def analyzePermissionChange (roleId : String) (permissionSlugs : List String) (actor : CurrentUser)
    (go : Bool → RoleProgram) : RoleProgram :=
  .step .read fun s =>
    match assertRoleScope s.roles roleId actor true with
    | none => .fail
    | some _ =>
      getRole roleId fun before =>
        .step .read fun s' =>
          let affected := s'.userRoles.any fun assignment => assignment.2 = roleId &&
            s'.accounts.any fun user => user.id = assignment.1 && user.isActive && !user.isDeleted
          go (affected && before.any fun slug =>
            !(permissionSlugs.contains slug) && criticalPermissionSlugs.contains slug)

end Lookups

section Requests

variable (uuid : Nat → String)

/-- `rolePermission.createMany`: one `INSERT` after another, until a key refuses one. -/
def insertRolePermissions (roleId : String) (go : RoleProgram) : List String → RoleProgram
  | [] => go
  | permissionId :: rest =>
    .step (.insertRolePermission roleId permissionId) fun s =>
      if s.rolePermissions.contains (roleId, permissionId) then .fail
      else insertRolePermissions roleId go rest

def addPermissions (roleId : String) (slugs : List String) (go : RoleProgram) : RoleProgram :=
  if slugs.isEmpty then go
  else
    .step .read fun s =>
      match findPermissionsBySlugs s.permissions slugs with
      | none => .fail
      | some found => insertRolePermissions roleId go (found.map (·.1))

structure RoleDto where
  name : String
  slug : String
  description : Option String
  companyId : Option String
  permissionSlugs : List String

def createRole (dto : RoleDto) : RoleProgram :=
  .step .read fun s =>
    if s.roles.rows.any fun role => role.slug = dto.slug && role.companyId = orNull dto.companyId then
      .fail
    else
      let role : TenantRole :=
        { id := ""
          companyId := orNull dto.companyId
          isSystem := false
          name := dto.name
          slug := dto.slug
          description := dto.description }
      .step (.insertRole role) fun s' =>
        if s'.roles.refuses { role with id := uuid s'.drawn } then .fail
        else addPermissions (uuid s'.drawn) dto.permissionSlugs .done

structure CloneDto where
  name : String
  slug : String
  description : Option String

def cloneRole (roleId : String) (dto : CloneDto) (actor : CurrentUser) : RoleProgram :=
  .step .read fun s =>
    match assertRoleScope s.roles roleId actor false with
    | none => .fail
    | some source =>
      getRole roleId fun slugs =>
        createRole uuid
          { name := dto.name
            slug := dto.slug
            description := dto.description
            companyId :=
              if actor.role = .superAdmin then orElse source.companyId actor.companyId
              else actor.companyId
            permissionSlugs := slugs }

/-- `permissionSlugs` and `description` are `none` when they are not given. -/
structure UpdateRoleDto where
  name : Option String
  description : Option (Option String)
  permissionSlugs : Option (List String)
  acknowledgeCriticalRemoval : Bool

/-- The `UPDATE` at the end, if there is something to set. -/
def updateRoleRow (roleId : String) (dto : UpdateRoleDto) : RoleProgram :=
  if truthy dto.name || dto.description.isSome then
    .step (.updateRole roleId (orNull dto.name) dto.description) fun _ => .done
  else .done

def updateRole (roleId : String) (dto : UpdateRoleDto) (actor : CurrentUser) : RoleProgram :=
  .step .read fun s =>
    match assertRoleScope s.roles roleId actor true with
    | none => .fail
    | some _ =>
      match dto.permissionSlugs with
      | none => updateRoleRow roleId dto
      | some slugs =>
        getRole roleId fun _ =>
          analyzePermissionChange roleId slugs actor fun requiresAcknowledgement =>
            if requiresAcknowledgement && !dto.acknowledgeCriticalRemoval then .fail
            else
              .step (.deleteRolePermissions roleId) fun _ =>
                addPermissions roleId slugs (updateRoleRow roleId dto)

def assignUserRole (userId roleId : String) (actor : CurrentUser) : RoleProgram :=
  .step .read fun s =>
    match s.accounts.find? fun user => user.id = userId with
    | none => .fail
    | some user =>
      if actor.role ≠ .superAdmin && user.companyId ≠ actor.companyId then .fail
      else
        .step .read fun s' =>
          match assertRoleScope s'.roles roleId actor false with
          | none => .fail
          | some role =>
            if truthy role.companyId && role.companyId ≠ user.companyId then .fail
            else
              .step .read fun s'' =>
                if s''.userRoles.contains (userId, roleId) then .done
                else .step (.insertUserRole userId roleId) fun _ => .done

structure ServiceAccountDto where
  name : Option String
  companyId : Option String
  permissionSlugs : List String
  scopeType : Option String
  scopeValues : List String
  expiresAt : Option Int

def createServiceAccount (dto : ServiceAccountDto) (actor : CurrentUser) : RoleProgram :=
  .step .read fun s =>
    match findPermissionsBySlugs s.permissions dto.permissionSlugs with
    | none => .fail
    | some found =>
      if isBlank dto.name then .fail
      else
        .step
          (.insertServiceAccount
            { id := ""
              companyId :=
                if actor.role = .superAdmin then orNull dto.companyId else actor.companyId
              name := trimmed (dto.name.getD "")
              permissionSlugs := found.map (·.2)
              scopeType := (orElse dto.scopeType (some "ALL")).getD ""
              scopeValues := dto.scopeValues
              expiresAt := dto.expiresAt
              isActive := true
              createdById := actor.id })
          fun _ => .done

/-- `expiresAt` is `none` when it is no date. -/
structure GrantDto where
  userId : String
  permissionSlug : String
  scopeType : Option String
  scopeValue : Option String
  reason : Option String
  startsAt : Option Int
  expiresAt : Option Int

def createTemporaryPermissionGrant (dto : GrantDto) (actor : CurrentUser) : RoleProgram :=
  .step .read fun s =>
    match assertUserScope s.accounts dto.userId actor with
    | none => .fail
    | some user =>
      .step .read fun s' =>
        match findPermissionsBySlugs s'.permissions [dto.permissionSlug], dto.expiresAt with
        | some (permission :: _), some expiresAt =>
          if expiresAt ≤ s'.now then .fail
          else
            .step
              (.insertGrant
                { id := ""
                  companyId := orElse user.companyId (orNull actor.companyId)
                  userId := user.id
                  permissionId := permission.1
                  grantedById := actor.id
                  scopeType := (orElse dto.scopeType (some "ALL")).getD ""
                  scopeValue := orNull dto.scopeValue
                  reason := (orNull dto.reason).getD ""
                  startsAt := dto.startsAt.getD s'.now
                  expiresAt := expiresAt })
              fun _ => .done
        | _, _ => .fail

structure BundleRole where
  slug : Option String
  permissionSlugs : List String

structure PolicyBundle where
  schemaVersion : Option Int
  companyId : Option String
  roles : List BundleRole

/-- The role of a bundle is found among the system roles and those of the company. -/
def findBundleRole (roles : RoleTable) (slug companyId : Option String) : Option TenantRole :=
  roles.rows.find? fun role => some role.slug = slug && (role.isSystem || role.companyId = companyId)

def importRolePermissions (roleId : String) (go : RoleProgram) : List String → RoleProgram
  | [] => go
  | slug :: rest =>
    .step (.importRolePermission roleId slug) fun _ => importRolePermissions roleId go rest

def importRoles (companyId : Option String) (actor : CurrentUser) : List BundleRole → RoleProgram
  | [] => .done
  | role :: rest =>
    .step .read fun s =>
      match findBundleRole s.roles role.slug companyId with
      | none => importRoles companyId actor rest
      | some target =>
        if actor.role ≠ .superAdmin && target.isSystem then importRoles companyId actor rest
        else
          .step (.deleteRolePermissions target.id) fun _ =>
            importRolePermissions target.id (importRoles companyId actor rest)
              role.permissionSlugs

def importPolicyBundle (bundle : PolicyBundle) (actor : CurrentUser) : RoleProgram :=
  if bundle.schemaVersion ≠ some 1 then .fail
  else
    importRoles (if actor.role = .superAdmin then orNull bundle.companyId else actor.companyId) actor
      bundle.roles

/-- The roles guard and the permissions guard in front of a route. -/
def guarded (roles : List Role) (permission : String) (actor : CurrentUser) (go : RoleProgram) :
    RoleProgram :=
  if actor.role ≠ .superAdmin && !roles.contains actor.role then .fail
  else
    .step .read fun s =>
      if (s.tables.permissionsGuard sameText s.now actor [permission] true).isSome then go
      else .fail

inductive RoleRequest where
  | createRole (dto : RoleDto) (actor : CurrentUser)
  | cloneRole (roleId : String) (dto : CloneDto) (actor : CurrentUser)
  | updateRole (roleId : String) (dto : UpdateRoleDto) (actor : CurrentUser)
  | assignUserRole (userId roleId : String) (actor : CurrentUser)
  | createServiceAccount (dto : ServiceAccountDto) (actor : CurrentUser)
  | createTemporaryPermissionGrant (dto : GrantDto) (actor : CurrentUser)
  | importPolicyBundle (bundle : PolicyBundle) (actor : CurrentUser)
  | access (call : AccessCall)

def AccessCall.actor : AccessCall → CurrentUser
  | requestElevation _ actor | reviewElevation _ _ actor | createAccessRequest _ actor
  | reviewAccessRequest _ _ actor => actor

def accessProgram (call : AccessCall) : RoleProgram :=
  (call.handler uuid).embed RoleStore.access .access

namespace RoleRequest

def actor : RoleRequest → CurrentUser
  | createRole _ actor | cloneRole _ _ actor | updateRole _ _ actor | assignUserRole _ _ actor
  | createServiceAccount _ actor | createTemporaryPermissionGrant _ actor
  | importPolicyBundle _ actor => actor
  | access call => call.actor

def isFiling : RoleRequest → Bool
  | access (.requestElevation _ _) | access (.createAccessRequest _ _) => true
  | _ => false

/-- A route is open to super administrators everywhere; the list names who else may
come. Only the filing of access requests has no list. -/
def handler : RoleRequest → RoleProgram
  | createRole dto actor => guarded [] "roles.manage" actor (Admin.createRole uuid dto)
  | cloneRole roleId dto actor =>
    guarded [.tenantAdmin] "roles.manage" actor (Admin.cloneRole uuid roleId dto actor)
  | updateRole roleId dto actor =>
    guarded [.tenantAdmin] "roles.manage" actor (Admin.updateRole roleId dto actor)
  | assignUserRole userId roleId actor =>
    guarded [.tenantAdmin] "roles.manage" actor (Admin.assignUserRole userId roleId actor)
  | createServiceAccount dto actor =>
    guarded [.tenantAdmin] "permissions.governance.manage" actor
      (Admin.createServiceAccount dto actor)
  | createTemporaryPermissionGrant dto actor =>
    guarded [.tenantAdmin] "permissions.governance.manage" actor
      (Admin.createTemporaryPermissionGrant dto actor)
  | importPolicyBundle bundle actor =>
    guarded [.tenantAdmin] "policy-bundles.manage" actor (Admin.importPolicyBundle bundle actor)
  | access (.createAccessRequest dto actor) =>
    guarded [actor.role] "access-requests.create" actor
      (accessProgram uuid (.createAccessRequest dto actor))
  | access (.reviewAccessRequest id decision actor) =>
    guarded [.tenantAdmin] "access-requests.manage" actor
      (accessProgram uuid (.reviewAccessRequest id decision actor))
  | access call =>
    guarded [.tenantAdmin] "permissions.governance.manage" call.actor (accessProgram uuid call)

end RoleRequest

def delegationSystem (actor : CurrentUser) : System RoleStore RoleOp RoleRequest where
  exec := execRole uuid
  tick s := { s with now := s.now + 1 }
  handler := RoleRequest.handler uuid
  sendable _ req := req.isFiling = true ∨ req.actor = actor

end Requests
end FieldserviceIT.Admin
