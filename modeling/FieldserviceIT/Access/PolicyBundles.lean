import FieldserviceIT.Access.AccessTools
import FieldserviceIT.Lib.Batches
import FieldserviceIT.Lib.Tables
import Mathlib.Data.List.Sort

/-!
The policy of a company as a bundle: what an export lists, and how an import writes it, one
section after the other and every entry by itself. Roles are found by their slugs,
relationships and group mappings are written over those with the same key, all other entries
are inserted. A permission goes by its slug, which is unique, and texts are compared exactly.
Snapshots and alerts are no part of the policy.
-/

namespace FieldserviceIT.Access

open Admin Common Lib Sql

section Rows

/-- A row of `PermissionScope`. -/
structure ScopeRecord where
  companyId : Option String
  roleId : Option String
  userId : Option String
  permissionSlug : String
  scopeType : String
  scopeValues : Js
  createdById : String

/-- The unique key of `AuthorizationRelationship`. -/
structure RelationshipKey where
  subjectType : String
  subjectId : String
  relationName : String
  resourceType : String
  resourceId : String
  deriving DecidableEq

/-- What a relationship says. -/
structure Relation extends RelationshipKey where
  companyId : Option String
  expiresAt : Option Int

structure RelationshipRow extends Relation where
  createdById : String

/-- The unique key of `ScimGroupRoleMapping`. -/
structure MappingKey where
  companyId : String
  externalGroupId : String
  deriving DecidableEq

/-- What a group is mapped to. -/
structure GroupMapping extends MappingKey where
  externalGroupName : Option String
  roleId : Option String
  presetKey : Option String
  priority : Int

structure MappingRow extends GroupMapping where
  isActive : Bool
  createdById : String

/-- What an import leaves as it is. -/
structure Surroundings where
  now : Int
  users : List User
  /-- The slugs of the permissions. -/
  catalog : List String
  roles : RoleTable
  userRoles : List (String × String)
  grants : List TemporaryGrant

/-- Rows stand in the order in which they were created. -/
structure PolicyStore extends Surroundings where
  drawn : Nat
  /-- Identifiers of roles and slugs of permissions. -/
  rolePermissions : List (String × String)
  scopes : List ScopeRecord
  relationships : List RelationshipRow
  policies : List ContextualPolicy
  tests : List AuthorizationTest
  mappings : List MappingRow

/-- What the guard and the tests decide by. Scopes do not keep a request from passing. -/
def PolicyStore.tables (s : PolicyStore) : AccessTables where
  now := s.now
  users := s.users
  catalog := s.catalog
  permissions :=
    { roles := s.roles.rows.map fun role => ⟨role.id, role.name, role.slug, role.isSystem⟩
      userRoles := s.userRoles
      rolePermissions := s.rolePermissions
      temporaryGrants := s.grants
      scopes := [] }
  policies := s.policies
  tests := s.tests

end Rows

section Bundles

structure ScopeEntry where
  roleId : Option String
  userId : Option String
  permissionSlug : Option String
  scopeType : Option String
  scopeValues : Js

structure RelationshipEntry where
  companyId : Option String
  subjectType : Option String
  subjectId : Option String
  relationName : Option String
  resourceType : Option String
  resourceId : Option String
  expiresAt : Option Int

structure PolicyEntry where
  name : Option String
  targetType : Option String
  targetValue : Option String
  conditions : Js
  effect : Option String

structure TestEntry where
  name : Option String
  principalType : Option String
  principalId : Option String
  permissionSlug : Option String
  resourceType : Option String
  resourceId : Option String
  expectedDecision : Option String

structure MappingEntry where
  externalGroupId : Option String
  externalGroupName : Option String
  roleId : Option String
  presetKey : Option String
  priority : Option Int

/-- Texts that are missing or `null` are `none`, as is an entry that is `null`. -/
structure Bundle where
  schemaVersion : Option Int
  roles : List (Option BundleRole)
  scopes : List (Option ScopeEntry)
  relationships : List (Option RelationshipEntry)
  contextualPolicies : List (Option PolicyEntry)
  authorizationTests : List (Option TestEntry)
  scimGroupMappings : List (Option MappingEntry)

inductive BundleEntry where
  | null
  | role (entry : BundleRole)
  | scope (entry : ScopeEntry)
  | relationship (entry : RelationshipEntry)
  | policy (entry : PolicyEntry)
  | test (entry : TestEntry)
  | mapping (entry : MappingEntry)

def entryOf {α : Type} (kind : α → BundleEntry) : Option α → BundleEntry
  | none => .null
  | some entry => kind entry

def Bundle.entries (bundle : Bundle) : List BundleEntry :=
  bundle.roles.map (entryOf .role) ++ bundle.scopes.map (entryOf .scope) ++
    bundle.relationships.map (entryOf .relationship) ++
    bundle.contextualPolicies.map (entryOf .policy) ++
    bundle.authorizationTests.map (entryOf .test) ++
    bundle.scimGroupMappings.map (entryOf .mapping)

end Bundles

section Export

/-- `precedes` is the order of the collation, `maxLength` what the server has for
`group_concat_max_len`. -/
structure Listing where
  precedes : String → String → Bool
  maxLength : Nat

variable (listing : Listing) (s : PolicyStore) (actor : CurrentUser)

/-- Whole characters, as long as they fit into the number of bytes. -/
def cutAt : Nat → List Char → List Char
  | _, [] => []
  | bytes, c :: cs => if c.utf8Size ≤ bytes then c :: cutAt (bytes - c.utf8Size) cs else []

/-- `GROUP_CONCAT(... SEPARATOR ',')` -/
def groupConcat (texts : List String) : String :=
  String.ofList (cutAt listing.maxLength (List.intercalate [','] (texts.map String.toList)))

/-- The company an export is about; without one it is about all of them. -/
def exportCompany : Option String :=
  if actor.role = .superAdmin then none else orNull actor.companyId

def exportedRoles : List TenantRole :=
  (s.roles.rows.filter fun role =>
    (exportCompany actor).all fun companyId => role.companyId = some companyId || role.isSystem).insertionSort
      fun a b => listing.precedes a.name b.name = true

/-- The permissions of a role as the export reads them off the one text they come in. -/
def exportedSlugs (role : TenantRole) : List String :=
  let slugs := (s.rolePermissions.filter fun entry => entry.1 = role.id).map (·.2)
  (segments ',' (groupConcat listing
    (slugs.insertionSort fun a b => listing.precedes a b = true))).filter (· ≠ "")

def exportedScopes : List ScopeRecord :=
  s.scopes.filter fun scope => (exportCompany actor).all fun id => scope.companyId = some id

def exportedRelationships : List RelationshipRow :=
  s.relationships.filter fun row => (exportCompany actor).all fun id => row.companyId = some id

def listContextualPolicies : List ContextualPolicy :=
  (s.policies.filter fun policy => listedFor actor policy.companyId).reverse

def listScimGroupMappings : List MappingRow :=
  (s.mappings.filter fun row => listedFor actor (some row.companyId)).insertionSort
    fun a b => a.priority ≤ b.priority

def ScopeRecord.entry (scope : ScopeRecord) : ScopeEntry where
  roleId := scope.roleId
  userId := scope.userId
  permissionSlug := some scope.permissionSlug
  scopeType := some scope.scopeType
  scopeValues := scope.scopeValues

def RelationshipRow.entry (row : RelationshipRow) : RelationshipEntry where
  companyId := row.companyId
  subjectType := some row.subjectType
  subjectId := some row.subjectId
  relationName := some row.relationName
  resourceType := some row.resourceType
  resourceId := some row.resourceId
  expiresAt := row.expiresAt

def ContextualPolicy.entry (policy : ContextualPolicy) : PolicyEntry where
  name := some policy.name
  targetType := some policy.targetType
  targetValue := some policy.targetValue
  conditions := policy.conditions
  effect := some policy.effect

def AuthorizationTest.entry (test : AuthorizationTest) : TestEntry where
  name := some test.name
  principalType := some test.principalType
  principalId := some test.principalId
  permissionSlug := some test.permissionSlug
  resourceType := test.resourceType
  resourceId := test.resourceId
  expectedDecision := some test.expectedDecision

def MappingRow.entry (row : MappingRow) : MappingEntry where
  externalGroupId := some row.externalGroupId
  externalGroupName := row.externalGroupName
  roleId := row.roleId
  presetKey := row.presetKey
  priority := some row.priority

/-- `AccessGovernanceService.exportPolicyBundle` -/
def exportPolicyBundle : Bundle where
  schemaVersion := some 1
  roles := (exportedRoles listing s actor).map fun role =>
    some ⟨some role.slug, exportedSlugs listing s role⟩
  scopes := (exportedScopes s actor).map fun scope => some scope.entry
  relationships := (exportedRelationships s actor).map fun row => some row.entry
  contextualPolicies := (listContextualPolicies s actor).map fun policy => some policy.entry
  authorizationTests :=
    ((listAuthorizationTests s.tables actor).reverse).map fun test => some test.entry
  scimGroupMappings := (listScimGroupMappings s actor).map fun row => some row.entry

end Export

section Import

variable (T : TextReading) (uuid : Nat → String) (refused : BundleEntry → Bool)
variable (companyId : Option String) (actor : CurrentUser)

/-- `a || b`, where `b` is a text. -/
def orText (value : Option String) (other : String) : String :=
  (orElse value (some other)).getD other

def companyOf : Option String :=
  if actor.role = .superAdmin then orNull companyId else actor.companyId

section EachEntry

def targetRole (roles : RoleTable) (slug : Option String) : Option TenantRole :=
  (findBundleRole roles slug (companyOf companyId actor)).filter fun target =>
    actor.role = .superAdmin || !target.isSystem

def importRole (role : BundleRole) (s : PolicyStore) : PolicyStore :=
  match targetRole companyId actor s.roles role.slug with
  | none => s
  | some target =>
    { s with
      rolePermissions :=
        (role.permissionSlugs.filter s.catalog.contains).foldl
          (fun rows slug => insertIgnore (target.id, slug) rows)
          (s.rolePermissions.filter fun entry => entry.1 ≠ target.id) }

def scopeRow (entry : ScopeEntry) : Option ScopeRecord :=
  entry.permissionSlug.map fun permissionSlug =>
    { companyId := companyOf companyId actor
      roleId := orNull entry.roleId
      userId := orNull entry.userId
      permissionSlug := permissionSlug
      scopeType := orText entry.scopeType "ALL"
      scopeValues := eitherOf entry.scopeValues .null
      createdById := actor.id }

def insertScope (entry : ScopeEntry) (s : PolicyStore) : Option PolicyStore :=
  (scopeRow companyId actor entry).map fun row => { s with scopes := s.scopes ++ [row] }

def relationOf (entry : RelationshipEntry) : Option Relation :=
  let subjectType := T.toUpperCase (orText entry.subjectType "USER")
  if !(["USER", "SERVICE_ACCOUNT", "ROLE"].contains subjectType) then none
  else
    match entry.subjectId, entry.resourceId with
    | some subjectId, some resourceId =>
      some
        { subjectType := subjectType
          subjectId := subjectId
          relationName := T.toLowerCase (orText entry.relationName "viewer")
          resourceType := T.toUpperCase (entry.resourceType.getD "")
          resourceId := resourceId
          companyId :=
            if actor.role = .superAdmin then orElse entry.companyId actor.companyId
            else actor.companyId
          expiresAt := entry.expiresAt }
    | _, _ => none

def addRelationship (entry : RelationshipEntry) (s : PolicyStore) : Option PolicyStore :=
  (relationOf T actor entry).map fun relation =>
    { s with
      relationships :=
        insertOrUpdate (·.toRelationshipKey) ⟨relation, actor.id⟩
          (fun row => { row with expiresAt := relation.expiresAt, companyId := relation.companyId })
          s.relationships }

def policyRow (id : String) (entry : PolicyEntry) : Option ContextualPolicy :=
  match entry.name, entry.targetValue with
  | some name, some targetValue =>
    some
      { id := id
        companyId := companyOf companyId actor
        name := name
        targetType := orText entry.targetType "PERMISSION"
        targetValue := targetValue
        conditions := eitherOf entry.conditions (.object [])
        effect := orText entry.effect "DENY"
        isActive := true
        createdById := actor.id }
  | _, _ => none

def createContextualPolicy (entry : PolicyEntry) (s : PolicyStore) : Option PolicyStore :=
  (policyRow companyId actor (uuid s.drawn) entry).map fun row =>
    { s with drawn := s.drawn + 1, policies := s.policies ++ [row] }

def testRow (id : String) (entry : TestEntry) : Option AuthorizationTest :=
  match entry.name, entry.principalId, entry.permissionSlug with
  | some name, some principalId, some permissionSlug =>
    some
      { id := id
        companyId := companyOf companyId actor
        name := name
        principalType := orText entry.principalType "ROLE"
        principalId := principalId
        permissionSlug := permissionSlug
        resourceType := orNull entry.resourceType
        resourceId := orNull entry.resourceId
        expectedDecision := orText entry.expectedDecision "DENY"
        isActive := true
        createdById := actor.id }
  | _, _, _ => none

def createAuthorizationTest (entry : TestEntry) (s : PolicyStore) : Option PolicyStore :=
  (testRow companyId actor (uuid s.drawn) entry).map fun row =>
    { s with drawn := s.drawn + 1, tests := s.tests ++ [row] }

def mappingOf (entry : MappingEntry) : Option GroupMapping :=
  match orNull (companyOf companyId actor), entry.externalGroupId with
  | some companyId, some externalGroupId =>
    some
      { companyId := companyId
        externalGroupId := externalGroupId
        externalGroupName := orNull entry.externalGroupName
        roleId := orNull entry.roleId
        presetKey := orNull entry.presetKey
        priority := if entry.priority.getD 0 = 0 then 100 else entry.priority.getD 0 }
  | _, _ => none

def createScimGroupMapping (entry : MappingEntry) (s : PolicyStore) : Option PolicyStore :=
  (mappingOf companyId actor entry).map fun mapping =>
    { s with
      mappings :=
        insertOrUpdate (·.toMappingKey) ⟨mapping, true, actor.id⟩
          (fun row => { row with toGroupMapping := mapping }) s.mappings }

end EachEntry

/-- One turn of a loop. `refused` are the entries whose `INSERT` the database turns down, for
a value that is too long or of another type; a scope that is turned down is passed over. -/
def importEntry (entry : BundleEntry) (s : PolicyStore) : Option PolicyStore :=
  match entry with
  | .null => none
  | .role role => some (importRole companyId actor role s)
  | .scope scope =>
    some (if refused entry then s else (insertScope companyId actor scope s).getD s)
  | .relationship relationship =>
    if refused entry then none else addRelationship T actor relationship s
  | .policy policy =>
    if refused entry then none else createContextualPolicy uuid companyId actor policy s
  | .test test =>
    if refused entry then none else createAuthorizationTest uuid companyId actor test s
  | .mapping mapping =>
    if refused entry then none else createScimGroupMapping companyId actor mapping s

/-- `AccessGovernanceService.importPolicyBundle` for a body with the company: the store it
leaves, and whether it has returned. -/
def importPolicyBundle (bundle : Bundle) (s : PolicyStore) : PolicyStore × Bool :=
  if bundle.schemaVersion ≠ some 1 then (s, false)
  else carryOut (importEntry T uuid refused companyId actor) bundle.entries s

end Import
end FieldserviceIT.Access
