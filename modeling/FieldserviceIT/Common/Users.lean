/-!
The signed-in user as the guards leave it on the request, and what the guards
ask of it.
-/

namespace FieldserviceIT.Common

inductive Role where
  | superAdmin
  | globalTech
  | tenantAdmin
  | technician
  | dispatcher
  | client
  | readOnly
  | other (name : String)
  deriving DecidableEq

inductive UserType where
  | publicUser
  | businessUser
  deriving DecidableEq

inductive ScopeType where
  | all
  | assigned
  | department
  | location
  | customers
  | relationship
  deriving DecidableEq

/-- A row of `PermissionScope`; `scopeValues` is the list its JSON text holds. -/
structure PermissionScope where
  permissionSlug : String
  scopeType : ScopeType
  scopeValues : List String
  deriving DecidableEq

/-- `permissionScopes` and `permissionSlugs` are absent until a guard loads them. -/
structure CurrentUser where
  id : String
  role : Role
  userType : UserType
  companyId : Option String
  effectiveCompanyId : Option String
  location : Option String
  permissionScopes : Option (List PermissionScope)
  permissionSlugs : Option (List String)

def truthy (value : Option String) : Bool :=
  value.any (· ≠ "")

/-- `a || b` on optional texts. -/
def orElse (a b : Option String) : Option String :=
  if truthy a then a else b

namespace CurrentUser

variable (user : CurrentUser)

def isGlobalAdmin : Bool :=
  user.role = .superAdmin && !truthy user.companyId

def isGlobalTech : Bool :=
  user.role = .globalTech

def isPublic : Bool :=
  user.userType = .publicUser

/-- `TenantGuard`: administrators and global technicians pass, public users
need no company, everybody else does. -/
def passesTenantGuard : Bool :=
  user.role = .superAdmin || user.role = .globalTech || user.isPublic || truthy user.companyId

/-- `RolesGuard`: a super administrator has every role. -/
def passesRolesGuard (roles : List Role) : Bool :=
  user.role = .superAdmin || roles.contains user.role

def hasSlug (slug : String) : Bool :=
  (user.permissionSlugs.getD []).contains slug

end CurrentUser

/-- The scopes that speak about a resource family such as `tickets.`. -/
def matchingScopes (family : String) (scopes : Option (List PermissionScope)) :
    List PermissionScope :=
  (scopes.getD []).filter fun scope => family.toList.isPrefixOf scope.permissionSlug.toList

/-- Some scope speaks about the family and none of them grants all of it. -/
def restrictedBy (family : String) (scopes : Option (List PermissionScope)) : Bool :=
  !(matchingScopes family scopes).isEmpty &&
    !(matchingScopes family scopes).any (·.scopeType = .all)

end FieldserviceIT.Common
