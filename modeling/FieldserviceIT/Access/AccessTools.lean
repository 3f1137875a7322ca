import FieldserviceIT.Access.ContextualPolicies
import FieldserviceIT.Admin.Delegation

/-!
What administrators are told about permissions, beside what the permissions guard makes of
a request: the report of effective permissions, the simulation of a proposed policy, and
the authorization tests. Each of them reads the tables in its own way.
-/

namespace FieldserviceIT.Access

open Admin Common

section Model

/-- A row of `AuthorizationTestCase`. -/
structure AuthorizationTest where
  id : String
  companyId : Option String
  name : String
  principalType : String
  principalId : String
  permissionSlug : String
  resourceType : Option String
  resourceId : Option String
  expectedDecision : String
  isActive : Bool
  createdById : String

/-- What the tools and the guard read; `catalog` are the slugs of the permissions. -/
structure AccessTables where
  now : Int
  users : List User
  catalog : List String
  permissions : PermissionTables
  policies : List ContextualPolicy
  tests : List AuthorizationTest

def signedIn (user : User) : CurrentUser :=
  { user.toAccount.signedIn with location := user.location }

variable (T : TextReading) (isoTime : Int → String) (same : String → String → Bool)
variable (tables : AccessTables)

/-- `PermissionsGuard.canActivate` for a request of the user that needs the permission. -/
def guardAllows (user : User) (slug : String) (ctx : RequestContext) : Bool :=
  (tables.permissions.permissionsGuard same tables.now (signedIn user) [slug]
    (enforceContextualPolicies T same (signedIn user) ctx [slug] tables.policies)).isSome

section Report

structure RoleAssignment where
  role : RoleRow
  permissions : List String

/-- The assignments of a user; one to a role that is gone has nothing to put the
permissions in. -/
def findAssignments (userId : String) : Option (List RoleAssignment) :=
  (tables.permissions.userRoles.filter fun a => same a.1 userId).mapM fun a =>
    (tables.permissions.roles.find? fun role => same role.id a.2).map fun role =>
      ⟨role, (tables.permissions.permissionsOf same role).map (·.2)⟩

def findUser (userId : String) : Option User :=
  tables.users.find? fun user => same user.id userId

/-- `AdminService.getUserRoles`. Without an actor the company of the user, which may be
`null`, is compared with `undefined`. -/
def getUserRoles (userId : String) (actor : Option CurrentUser) : Option (List RoleAssignment) :=
  if actor.map (·.role) ≠ some .superAdmin then
    match findUser same tables userId with
    | none => none
    | some user =>
      if some user.companyId ≠ actor.map (·.companyId) then none
      else findAssignments same tables userId
  else findAssignments same tables userId

structure EffectivePermission where
  slug : String
  roles : List String

/-- The report; permissions stand in the order in which they were found. -/
structure EffectivePermissions where
  user : User
  supersededBySuperAdmin : Bool
  roles : List (String × String)
  permissions : List EffectivePermission
  temporaryGrants : List TemporaryGrant
  scopes : List PermissionScope

/-- `permissionMap.get(slug)`, with one more role. -/
def addSource (source : String) (map : List EffectivePermission) (slug : String) :
    List EffectivePermission :=
  if map.any fun entry => entry.slug = slug then
    map.map fun entry =>
      if entry.slug = slug then { entry with roles := entry.roles ++ [source] } else entry
  else map ++ [⟨slug, [source]⟩]

def grantsInEffect (userId : String) : List TemporaryGrant :=
  tables.permissions.temporaryGrants.filter fun grant =>
    same grant.userId userId && !grant.revoked && decide (grant.startsAt ≤ tables.now) &&
      decide (tables.now < grant.expiresAt)

def effectiveOf (user : User) (assignments : List RoleAssignment) : EffectivePermissions :=
  let overridden : List EffectivePermission :=
    if user.role = .superAdmin then
      tables.catalog.map fun slug => ⟨slug, ["SUPER_ADMIN override"]⟩
    else []
  let assigned :=
    assignments.foldl
      (fun map assignment => assignment.permissions.foldl (addSource assignment.role.name) map)
      overridden
  let grants := grantsInEffect same tables user.id
  { user := user
    supersededBySuperAdmin := user.role = .superAdmin
    roles := assignments.map fun assignment => (assignment.role.id, assignment.role.name)
    permissions :=
      grants.foldl
        (fun map grant => addSource ("Temporary until " ++ isoTime grant.expiresAt) map grant.slug)
        assigned
    temporaryGrants := grants
    scopes := tables.permissions.searchScopes same (signedIn user) }

/-- `AdminService.getEffectivePermissions` -/
def getEffectivePermissions (userId : String) (actor : CurrentUser) :
    Option EffectivePermissions :=
  match (findUser same tables userId).filter (!·.isDeleted) with
  | none => none
  | some user =>
    if actor.role ≠ .superAdmin && user.companyId ≠ actor.companyId then none
    else (getUserRoles same tables userId none).map (effectiveOf isoTime same tables user)

def EffectivePermissions.allows (report : EffectivePermissions) (slug : String) : Bool :=
  report.supersededBySuperAdmin || report.permissions.any fun entry => entry.slug = slug

end Report

section Simulation

structure ProposedScope where
  permissionSlug : String
  scopeType : String

structure PolicyCheck where
  permissionSlug : String
  requiredScope : Option String

structure PolicyProposal where
  userId : String
  permissionSlugs : List String
  scopes : List ProposedScope
  checks : List PolicyCheck

structure CheckResult extends PolicyCheck where
  allowed : Bool
  reason : String

def PolicyProposal.proposes (proposal : PolicyProposal) (slug : String) : Bool :=
  proposal.permissionSlugs.contains slug

def PolicyProposal.scopeAllowed (proposal : PolicyProposal) (check : PolicyCheck) : Bool :=
  !truthy check.requiredScope || check.requiredScope = some "ALL" ||
    proposal.scopes.any fun scope => scope.permissionSlug = check.permissionSlug &&
      (check.requiredScope = some scope.scopeType || check.requiredScope = some "ALL")

def checkResult (proposal : PolicyProposal) (user : User) (check : PolicyCheck) : CheckResult :=
  let permissionAllowed := user.role = .superAdmin || proposal.proposes check.permissionSlug
  let scopeAllowed := proposal.scopeAllowed check
  { check with
    allowed := permissionAllowed && scopeAllowed
    reason :=
      if !permissionAllowed then "MISSING_PERMISSION"
      else if !scopeAllowed then "SCOPE_MISMATCH" else "ALLOWED" }

/-- `AccessGovernanceService.simulatePolicy`: the user, and the checks with their results. -/
def simulatePolicy (proposal : PolicyProposal) (actor : CurrentUser) :
    Option (User × List CheckResult) :=
  match (findUser same tables proposal.userId).filter fun user =>
      !user.isDeleted && (actor.role = .superAdmin || user.companyId = actor.companyId) with
  | none => none
  | some user => some (user, proposal.checks.map (checkResult proposal user))

end Simulation

section Tests

structure TestResult extends AuthorizationTest where
  actualDecision : String
  passed : Bool

/-- Permissions of a role by its identifier, whatever has become of the role. -/
def roleCarries (roleId slug : String) : Bool :=
  tables.permissions.rolePermissions.any fun p => same p.1 roleId && same p.2 slug

def userCarries (userId slug : String) : Bool :=
  tables.permissions.userRoles.any fun a => same a.1 userId && roleCarries same tables a.2 slug

def actualDecision (test : AuthorizationTest) : String :=
  if test.principalType = "ROLE" then
    if roleCarries same tables test.principalId test.permissionSlug then "ALLOW" else "DENY"
  else if test.principalType = "USER" then
    if userCarries same tables test.principalId test.permissionSlug then "ALLOW" else "DENY"
  else "DENY"

def runAuthorizationTest (test : AuthorizationTest) : TestResult :=
  { test with
    actualDecision := actualDecision same tables test
    passed := actualDecision same tables test = test.expectedDecision }

/-- Rows of the company of the actor; a super administrator has them all. -/
def listedFor (actor : CurrentUser) (companyId : Option String) : Bool :=
  actor.role = .superAdmin || companyId.any fun id => actor.companyId = some id

def listAuthorizationTests (actor : CurrentUser) : List AuthorizationTest :=
  tables.tests.filter fun test => listedFor actor test.companyId

/-- `AccessGovernanceService.runAuthorizationTests` -/
def runAuthorizationTests (actor : CurrentUser) : List TestResult :=
  ((listAuthorizationTests tables actor).filter (·.isActive)).map
    (runAuthorizationTest same tables)

end Tests
end Model
section Agreement

variable (T : TextReading) (isoTime : Int → String) (same : String → String → Bool)
variable (tables : AccessTables) (user : User) (actor : CurrentUser) (slug : String)
variable (ctx : RequestContext)

section Sources

def defaultGives : Bool :=
  user.role = .tenantAdmin && tenantAdminDefaultPermissions.contains slug

def assignedGives : Bool :=
  (tables.permissions.findUserRolePermissions same (signedIn user)).any fun p => p.2 = slug

def systemRoleGives : Bool :=
  (tables.permissions.findSystemRolePermissions same (signedIn user)).any fun p => p.2 = slug

def grantGives : Bool :=
  (grantsInEffect same tables user.id).any fun grant => grant.slug = slug

/-- Some source of the guard's gives the permission, and no policy blocks the request. -/
def grantedInContext : Bool :=
  (defaultGives user slug || assignedGives same tables user slug ||
      systemRoleGives same tables user slug || grantGives same tables user slug) &&
    enforceContextualPolicies T same (signedIn user) ctx [slug] tables.policies

end Sources

def ReportAgrees : Prop :=
  ∃ report, getEffectivePermissions isoTime same tables user.id actor = some report ∧
    report.allows slug = guardAllows T same tables user slug ctx

def SimulationAgrees (proposal : PolicyProposal) : Prop :=
  ∀ user results, simulatePolicy same tables proposal actor = some (user, results) →
    ∀ result ∈ results, result.allowed = guardAllows T same tables user result.permissionSlug ctx

/-- The test is about the user, or about a role the user is assigned. -/
def AuthorizationTest.concerns (test : AuthorizationTest) : Bool :=
  test.principalType = "USER" && test.principalId = user.id ||
    test.principalType = "ROLE" &&
      tables.permissions.userRoles.contains (user.id, test.principalId)

/-- Every active test about the user finds what the guard decides. -/
def TestsAgree : Prop :=
  ∀ result ∈ runAuthorizationTests same tables actor,
    result.concerns tables user = true →
      (result.actualDecision = "ALLOW" ↔
        guardAllows T same tables user result.permissionSlug ctx = true)

/-- What is found beforehand fits the guard: everything for a super administrator, for others
just what they are granted in the context. -/
def fits (found : Bool) : Bool :=
  if user.role = .superAdmin then found else found = grantedInContext T same tables user slug ctx

/-- The proposal gives a permission, with the scope a check asks for, where the sources do. -/
def proposalFits (proposal : PolicyProposal) : Bool :=
  (simulatePolicy same tables proposal actor).all fun simulated =>
    proposal.checks.all fun check =>
      fits T same tables simulated.1 check.permissionSlug ctx
        ((simulated.1.role = .superAdmin || proposal.proposes check.permissionSlug) &&
          proposal.scopeAllowed check)

/-- A role by its identifier, or one of the roles of the user, carries a permission where the
sources give it. -/
def testsFit : Bool :=
  (listAuthorizationTests tables actor).all fun test =>
    !test.isActive || !test.concerns tables user ||
      fits T same tables user test.permissionSlug ctx
        (if test.principalType = "ROLE" then
          roleCarries same tables test.principalId test.permissionSlug
        else userCarries same tables test.principalId test.permissionSlug)

variable {T isoTime same tables user actor slug ctx}

theorem contains_userPermissionSlugs :
    (tables.permissions.userPermissionSlugs same tables.now (signedIn user)).contains slug =
      (defaultGives user slug || assignedGives same tables user slug ||
        systemRoleGives same tables user slug || grantGives same tables user slug) := by
  have hdefault : (if (signedIn user).role = .tenantAdmin then tenantAdminDefaultPermissions
      else []).contains slug = defaultGives user slug := by
    have hrole : (signedIn user).role = user.role := rfl
    rw [hrole, defaultGives]
    by_cases htenant : user.role = .tenantAdmin <;> simp [htenant]
  have hmap : ∀ grants : List (String × String),
      (grants.map (·.2)).contains slug = grants.any fun p => p.2 = slug := by
    intro grants
    rw [Bool.eq_iff_iff]
    simp
  have hgrants : (tables.permissions.activeGrants same tables.now (signedIn user)).contains slug =
      grantGives same tables user slug := by
    rw [Bool.eq_iff_iff, grantGives, grantsInEffect, PermissionTables.activeGrants]
    simp only [List.contains_iff_mem, List.mem_map, List.any_eq_true, decide_eq_true_eq]
    rfl
  rw [PermissionTables.userPermissionSlugs, List.contains_append, List.contains_append,
    List.contains_append, hdefault, hmap, hmap, hgrants]
  rfl

theorem guardAllows_eq : guardAllows T same tables user slug ctx =
    (user.role = .superAdmin || grantedInContext T same tables user slug ctx) := by
  rw [guardAllows, PermissionTables.permissionsGuard, grantedInContext,
    ← contains_userPermissionSlugs]
  change Option.isSome (if user.role = .superAdmin then _ else _) = _
  by_cases hrole : user.role = .superAdmin
  · simp [hrole]
  · simp only [hrole, if_false, List.all_cons, List.all_nil, Bool.and_true, decide_false,
      Bool.false_or]
    split
    next h => exact h.symm
    next h => exact (Bool.eq_false_iff.mpr h).symm

theorem getUserRoles_none (userId : String) : getUserRoles same tables userId none = none := by
  rw [getUserRoles, if_pos (by simp)]
  cases findUser same tables userId with
  | none => rfl
  | some user => exact if_pos (by simp)

theorem getEffectivePermissions_none (userId : String) :
    getEffectivePermissions isoTime same tables userId actor = none := by
  rw [getEffectivePermissions, getUserRoles_none]
  split
  · rfl
  · split <;> rfl

theorem fits_iff {found : Bool} :
    fits T same tables user slug ctx found = true ↔
      found = guardAllows T same tables user slug ctx := by
  rw [fits, guardAllows_eq]
  by_cases hrole : user.role = .superAdmin <;> simp [hrole]

theorem simulationAgrees_iff {proposal : PolicyProposal} :
    SimulationAgrees T same tables actor ctx proposal ↔
      proposalFits T same tables actor ctx proposal = true := by
  rw [SimulationAgrees, proposalFits, simulatePolicy]
  generalize (findUser same tables proposal.userId).filter _ = found
  cases found with
  | none =>
    refine iff_of_true (fun user results h => ?_) rfl
    cases h
  | some user =>
    simp only [Option.all_some, List.all_eq_true, fits_iff]
    constructor
    · intro h check hcheck
      exact h user _ rfl _ (List.mem_map_of_mem hcheck)
    · intro h other results hresults result hresult
      obtain ⟨rfl, rfl⟩ := Prod.mk.inj (Option.some.inj hresults)
      obtain ⟨check, hcheck, rfl⟩ := List.mem_map.mp hresult
      exact h check hcheck

theorem actualDecision_iff {test : AuthorizationTest} (h : test.concerns tables user = true) :
    actualDecision same tables test = "ALLOW" ↔
      (if test.principalType = "ROLE" then
        roleCarries same tables test.principalId test.permissionSlug
      else userCarries same tables test.principalId test.permissionSlug) = true := by
  have hallow : ∀ carried : Bool, (if carried then "ALLOW" else "DENY") = "ALLOW" ↔
      carried = true := by decide
  rw [actualDecision]
  split
  · exact hallow _
  next hrole =>
    have huser : test.principalType = "USER" := by
      simp only [AuthorizationTest.concerns, hrole, decide_false, Bool.false_and, Bool.or_false,
        Bool.and_eq_true, decide_eq_true_eq] at h
      exact h.1
    rw [if_pos huser]
    exact hallow _

theorem testsAgree_iff : TestsAgree T same tables user actor ctx ↔
    testsFit T same tables user actor ctx = true := by
  have htest : ∀ test : AuthorizationTest, test.concerns tables user = true →
      ((actualDecision same tables test = "ALLOW" ↔
        guardAllows T same tables user test.permissionSlug ctx = true) ↔
      fits T same tables user test.permissionSlug ctx
        (if test.principalType = "ROLE" then
          roleCarries same tables test.principalId test.permissionSlug
        else userCarries same tables test.principalId test.permissionSlug) = true) := by
    intro test hconcerns
    rw [fits_iff, actualDecision_iff hconcerns]
    exact Bool.eq_iff_iff.symm
  simp only [TestsAgree, testsFit, runAuthorizationTests, List.mem_map, List.mem_filter,
    List.all_eq_true, Bool.or_eq_true, Bool.not_eq_eq_eq_not, Bool.not_true]
  constructor
  · intro h test hlisted
    cases hactive : test.isActive with
    | false => exact .inl (.inl rfl)
    | true =>
      cases hconcerns : test.concerns tables user with
      | false => exact .inl (.inr rfl)
      | true =>
        exact .inr ((htest test hconcerns).mp (h _ ⟨test, ⟨hlisted, hactive⟩, rfl⟩ hconcerns))
  · rintro h _ ⟨test, ⟨hlisted, hactive⟩, rfl⟩ hconcerns
    refine (htest test hconcerns).mpr ?_
    obtain (hinactive | helse) | hfits := h test hlisted
    · rw [hactive] at hinactive
      cases hinactive
    · have hconcerns' : test.concerns tables user = true := hconcerns
      rw [hconcerns'] at helse
      cases helse
    · exact hfits

variable (T isoTime same tables user actor slug ctx)

/-- The report of effective permissions never comes about; simulations and tests agree with
the guard exactly where what they go by fits what the user is granted in the context. -/
theorem access_tools_agree (proposal : PolicyProposal) :
    ¬ReportAgrees T isoTime same tables user actor slug ctx ∧
      (SimulationAgrees T same tables actor ctx proposal ↔
        proposalFits T same tables actor ctx proposal = true) ∧
      (TestsAgree T same tables user actor ctx ↔ testsFit T same tables user actor ctx = true) := by
  refine ⟨?_, simulationAgrees_iff, testsAgree_iff⟩
  rintro ⟨report, hreport, -⟩
  rw [getEffectivePermissions_none] at hreport
  cases hreport

end Agreement

section Samples

def sampleReading : TextReading where
  number _ := .notANumber
  toLowerCase := lowerCased
  toUpperCase text := upperCased (some text)

def sampleContext : RequestContext where
  ip := none
  forwardedFor := none
  countryCode := none
  cfIpCountry := none
  authAssurance := none
  deviceTrust := none
  department := none
  utcHour := 12

def sampleAdministrator : User where
  id := "ann"
  companyId := some "acme"
  role := .tenantAdmin
  isActive := true
  mfaEnabled := false
  isBreakGlass := false
  breakGlassReason := none
  authVersion := 0
  isDeleted := false
  email := "ann@acme.test"
  firstName := "Ann"
  lastName := "User"
  userType := .businessUser
  location := none
  scimExternalId := none
  scimManaged := false

def sampleAccess : AccessTables where
  now := 0
  users := [sampleAdministrator]
  catalog := ["tickets.view"]
  permissions := ⟨[], [], [], [], []⟩
  policies := []
  tests :=
    [⟨"t1", some "acme", "tickets", "USER", "ann", "tickets.view", none, none, "ALLOW", true, "ann"⟩]

/-- The guard lets an administrator see tickets, and a test that expects it fails. -/
theorem tools_disagree : ¬ ∀ (tables : AccessTables) (user : User) (actor : CurrentUser)
    (slug : String) (ctx : RequestContext) (proposal : PolicyProposal),
    ReportAgrees sampleReading toString sameText tables user actor slug ctx ∧
      SimulationAgrees sampleReading sameText tables actor ctx proposal ∧
      TestsAgree sampleReading sameText tables user actor ctx := by
  intro h
  obtain ⟨-, -, htests⟩ := h sampleAccess sampleAdministrator (signedIn sampleAdministrator)
    "tickets.view" sampleContext ⟨"ann", [], [], []⟩
  have hrun : (runAuthorizationTests sameText sampleAccess (signedIn sampleAdministrator)).any
      (fun result => result.concerns sampleAccess sampleAdministrator &&
        result.actualDecision = "DENY" && result.permissionSlug = "tickets.view") = true := by
    decide
  obtain ⟨result, hresult, hcheck⟩ := List.any_eq_true.mp hrun
  simp only [Bool.and_eq_true, decide_eq_true_eq] at hcheck
  obtain ⟨⟨hconcerns, hdenied⟩, hslug⟩ := hcheck
  have hguard : guardAllows sampleReading sameText sampleAccess sampleAdministrator "tickets.view"
      sampleContext = true := by
    decide
  have hallowed := (htests result hresult hconcerns).mpr (by rw [hslug]; exact hguard)
  rw [hdenied] at hallowed
  revert hallowed
  decide

end Samples
end FieldserviceIT.Access
