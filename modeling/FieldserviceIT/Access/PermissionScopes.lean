import FieldserviceIT.Cmdb.Assets
import FieldserviceIT.Common.Authorization

/-!
The permissions guard together with the lists its scopes narrow. The guard reads
role permissions, temporary grants and permission scopes one after the other, and
a read that fails counts as one that found nothing. Ticket and asset filters take
the scopes of their family from what the guard has left on the user.
-/

namespace FieldserviceIT.Access

open Common Database Sql Tickets

/-- A temporary grant as it is stored, with the scope it is given for. -/
structure ScopedGrant extends TemporaryGrant where
  scopeType : Option ScopeType
  scopeValue : Option String

structure AuthorizationTables where
  roles : List RoleRow
  userRoles : List (String × String)
  rolePermissions : List (String × String)
  grants : List ScopedGrant
  scopes : List ScopeRow

namespace AuthorizationTables

/-- The guard selects the scope of a grant and does not look at it. -/
def permissions (tables : AuthorizationTables) : PermissionTables where
  roles := tables.roles
  userRoles := tables.userRoles
  rolePermissions := tables.rolePermissions
  temporaryGrants := tables.grants.map (·.toTemporaryGrant)
  scopes := tables.scopes

def addScope (tables : AuthorizationTables) (row : ScopeRow) : AuthorizationTables :=
  { tables with scopes := row :: tables.scopes }

end AuthorizationTables

/-- Which of the reads that may fail have succeeded. -/
structure Loads where
  systemRoles : Bool
  grants : Bool
  scopes : Bool

section Guard

variable (same : String → String → Bool) (tables : AuthorizationTables) (loads : Loads) (now : Int)
variable (user : CurrentUser)

def roleGrants : List (String × String) :=
  tables.permissions.findUserRolePermissions same user ++
    if loads.systemRoles then tables.permissions.findSystemRolePermissions same user else []

def standingSlugs : List String :=
  (if user.role = .tenantAdmin then tenantAdminDefaultPermissions else []) ++
    (roleGrants same tables loads user).map (·.2)

def permissionSlugs : List String :=
  standingSlugs same tables loads user ++
    if loads.grants then tables.permissions.activeGrants same now user else []

/-- The scopes of the user and of the roles the user has a permission from. -/
def appliedScopes : List PermissionScope :=
  (tables.scopes.filter fun row =>
    (row.userId.any (same · user.id) ||
        row.roleId.any fun id => ((roleGrants same tables loads user).map (·.1)).any (same id)) &&
      row.companyId.all fun company => user.companyId.any (same company)).map (·.scope)

/-- What the guard leaves on a user it has found the permissions of. -/
def loadedUser : CurrentUser :=
  { user with
    permissionScopes := some (if loads.scopes then appliedScopes same tables loads user else [])
    permissionSlugs := some (permissionSlugs same tables loads now user) }

/-- `PermissionsGuard.canActivate` for signed-in users; `allowed` is the verdict
of the contextual policies. -/
def canActivate (required : List String) (allowed : Bool) : Option CurrentUser :=
  if required.isEmpty then some user
  else if user.role = .superAdmin then some user
  else if required.all (permissionSlugs same tables loads now user).contains && allowed then
    some (loadedUser same tables loads now user)
  else none

end Guard

section Reached

/-- The two readers of tickets the scopes narrow. -/
inductive TicketRead where
  | list (query : ListQuery)
  | detail (id : String)

variable (same : String → String → Bool) (tables : AuthorizationTables) (loads : Loads) (now : Int)
variable (required : List String) (allowed : Bool)
variable (comparison : Comparison) (objectLiteral : Js → Option Scalar) (db : Db)

def TicketRead.filter (read : TicketRead) (user : CurrentUser) : Filter :=
  match read with
  | list query => findAllWhere (server comparison objectLiteral) db now user query
  | detail id => findOneWhere (server comparison objectLiteral) db now id user

def Finds (read : TicketRead) (user : CurrentUser) (row : Row) : Prop :=
  ∃ rows, Query.ticket.rows (server comparison objectLiteral) db
    (Filter.fields (read.filter now comparison objectLiteral db user)) = some rows ∧ row ∈ rows

/-- The guard lets the user through, and the reader finds the ticket. -/
def ReachesTicket (user : CurrentUser) (read : TicketRead) (row : Row) : Prop :=
  ∃ guarded, canActivate same tables loads now user required allowed = some guarded ∧
    Finds now comparison objectLiteral db read guarded row

def ReachesAsset (user : CurrentUser) (companyId : String) (query : Cmdb.AssetQuery)
    (email : Option String) (row : Row) : Prop :=
  ∃ guarded, canActivate same tables loads now user required allowed = some guarded ∧
    Cmdb.Lists comparison objectLiteral db companyId query guarded email row

def ticketInScope (user : CurrentUser) (scope : PermissionScope) (row : Row) : Bool :=
  scope.scopeType = .all ||
    (scopeAlternatives (server comparison objectLiteral) db now user scope).any
      (Filter.holds comparison db row)

def assetInScope (user : CurrentUser) (email : Option String) (scope : PermissionScope)
    (row : Row) : Bool :=
  scope.scopeType = .all ||
    (Cmdb.scopeAlternatives user email scope).any (Filter.holds comparison db row)

end Reached

section Restricted

variable {comparison : Comparison} {objectLiteral : Js → Option Scalar} {db : Db} {now : Int}
variable {user : CurrentUser} {row : Row}

theorem unrestricted_of_finds {read : TicketRead}
    (h : Finds now comparison objectLiteral db read user row) :
    restrictedBy "tickets." user.permissionScopes = false := by
  obtain ⟨rows, hrows, -⟩ := h
  cases hscopes : restrictedBy "tickets." user.permissionScopes with
  | false => rfl
  | true =>
    cases read with
    | list query =>
      rw [TicketRead.filter, findAllWhere_rows_restricted comparison objectLiteral db now
        hscopes] at hrows
      cases hrows
    | detail id =>
      obtain ⟨⟨parts, hand⟩, hover⟩ := scopedWhere_restricted (server comparison objectLiteral)
        db now [.column "id" (.equals (.text id)), .column "deletedAt" .isNull] hscopes
        (by simp [Entry.isOver, columns, ticketColumns]) (by simp [Entry.key])
      rw [TicketRead.filter, findOneWhere,
        rows_of_and comparison objectLiteral db hand hover] at hrows
      cases hrows

theorem applies_of_unrestricted {family : String} {scopes : Option (List PermissionScope)}
    (h : restrictedBy family scopes = false) :
    matchingScopes family scopes = [] ∨
      ∃ scope ∈ matchingScopes family scopes, scope.scopeType = .all := by
  rw [restrictedBy, Bool.and_eq_false_iff] at h
  obtain hnone | hall := h
  · exact .inl (by simpa using hnone)
  · exact .inr (by simpa using hall)

theorem filter_of_unrestricted (read : TicketRead) {scopes : Option (List PermissionScope)}
    (h : restrictedBy "tickets." user.permissionScopes = false)
    (h' : restrictedBy "tickets." scopes = false) :
    read.filter now comparison objectLiteral db { user with permissionScopes := scopes } =
      read.filter now comparison objectLiteral db user := by
  have hsame : ∀ where_ : Filter, (∀ e ∈ where_, e.key = "id" ∨ e.key = "deletedAt") →
      scopedWhere (server comparison objectLiteral) db now where_
          { user with permissionScopes := scopes } =
        scopedWhere (server comparison objectLiteral) db now where_ user := by
    intro where_ hkeys
    rw [scopedWhere_unrestricted _ _ _ _ h hkeys, scopedWhere_unrestricted _ _ _ _ h' hkeys]
    rfl
  cases read with
  | list query =>
    rw [TicketRead.filter, TicketRead.filter, findAllWhere, findAllWhere,
      hsame _ (by simp [Entry.key])]
  | detail id =>
    rw [TicketRead.filter, TicketRead.filter, findOneWhere, findOneWhere,
      hsame _ (by simp [Entry.key])]

theorem unrestricted_of_more {family : String} {more scopes : List PermissionScope}
    (hmore : ∀ scope ∈ more, scope.scopeType ≠ .all)
    (h : restrictedBy family (some (more ++ scopes)) = false) :
    restrictedBy family (some scopes) = false := by
  have hmatching : matchingScopes family (some (more ++ scopes)) =
      matchingScopes family (some more) ++ matchingScopes family (some scopes) :=
    List.filter_append _ _
  rw [restrictedBy, Bool.and_eq_false_iff, Bool.not_eq_false', Bool.not_eq_false']
  obtain hnone | ⟨scope, hmem, hall⟩ := applies_of_unrestricted h
  · rw [hmatching, List.append_eq_nil_iff] at hnone
    exact .inl (List.isEmpty_iff.mpr hnone.2)
  · rw [hmatching, List.mem_append] at hmem
    obtain hmem | hmem := hmem
    · exact absurd hall (hmore scope (List.mem_filter.mp hmem).1)
    · exact .inr (List.any_eq_true.mpr ⟨scope, hmem, decide_eq_true hall⟩)

end Restricted

section Monotone

variable {same : String → String → Bool} {tables : AuthorizationTables} {loads : Loads} {now : Int}
variable {required : List String} {allowed : Bool} {user guarded : CurrentUser}
variable {comparison : Comparison} {objectLiteral : Js → Option Scalar} {db : Db} {row : Row}

theorem canActivate_some
    (h : canActivate same tables loads now user required allowed = some guarded) :
    (guarded = user ∧ (required.isEmpty = true ∨ user.role = .superAdmin)) ∨
      guarded = loadedUser same tables loads now user := by
  rw [canActivate] at h
  split at h
  · next hempty => exact .inl ⟨(Option.some.inj h).symm, .inl hempty⟩
  · split at h
    · next hrole => exact .inl ⟨(Option.some.inj h).symm, .inr hrole⟩
    · split at h
      · exact .inr (Option.some.inj h).symm
      · cases h

theorem appliedScopes_addScope (scopeRow : ScopeRow) :
    ∃ more, (∀ scope ∈ more, scope = scopeRow.scope) ∧
      appliedScopes same (tables.addScope scopeRow) loads user =
        more ++ appliedScopes same tables loads user := by
  simp only [appliedScopes, AuthorizationTables.addScope, List.filter_cons]
  split
  · exact ⟨[scopeRow.scope], fun scope hmem => List.mem_singleton.mp hmem, rfl⟩
  · exact ⟨[], fun scope hmem => absurd hmem List.not_mem_nil, rfl⟩

theorem canActivate_addScope {scopeRow : ScopeRow}
    (h : canActivate same (tables.addScope scopeRow) loads now user required allowed =
      some guarded) :
    ∃ scopes, canActivate same tables loads now user required allowed =
        some { guarded with permissionScopes := scopes } ∧
      (scopes = guarded.permissionScopes ∨ ∃ more applied, (∀ scope ∈ more, scope = scopeRow.scope) ∧
        guarded.permissionScopes = some (more ++ applied) ∧ scopes = some applied) := by
  have hslugs : permissionSlugs same (tables.addScope scopeRow) loads now user =
      permissionSlugs same tables loads now user := rfl
  rw [canActivate, hslugs] at h
  rw [canActivate]
  split at h
  · next hempty =>
      obtain rfl := Option.some.inj h
      exact ⟨_, if_pos hempty, .inl rfl⟩
  · next hempty =>
      rw [if_neg hempty]
      split at h
      · next hrole =>
          obtain rfl := Option.some.inj h
          exact ⟨_, if_pos hrole, .inl rfl⟩
      · next hrole =>
          rw [if_neg hrole]
          split at h
          · next hpasses =>
              obtain rfl := Option.some.inj h
              rw [if_pos hpasses]
              refine ⟨_, rfl, ?_⟩
              obtain ⟨more, hmore, happlied⟩ : ∃ more, (∀ scope ∈ more, scope = scopeRow.scope) ∧
                  appliedScopes same (tables.addScope scopeRow) loads user =
                    more ++ appliedScopes same tables loads user :=
                appliedScopes_addScope scopeRow
              cases hloads : loads.scopes with
              | false =>
                left
                simp only [loadedUser, hloads]
                rfl
              | true =>
                refine .inr ⟨more, appliedScopes same tables loads user, hmore, ?_, rfl⟩
                simp only [loadedUser, hloads, happlied, if_true]
          · cases h

theorem unrestricted_without {family : String} {scopes : Option (List PermissionScope)}
    {scopeRow : ScopeRow} (hall : scopeRow.scope.scopeType ≠ .all)
    (hscopes : scopes = guarded.permissionScopes ∨ ∃ more applied,
      (∀ scope ∈ more, scope = scopeRow.scope) ∧
        guarded.permissionScopes = some (more ++ applied) ∧ scopes = some applied)
    (h : restrictedBy family guarded.permissionScopes = false) :
    restrictedBy family scopes = false := by
  obtain rfl | ⟨more, applied, hmore, hguarded, rfl⟩ := hscopes
  · exact h
  · refine unrestricted_of_more (fun scope hmem => ?_) (hguarded ▸ h)
    rw [hmore scope hmem]
    exact hall

theorem reachesTicket_of_addScope {scopeRow : ScopeRow} (hall : scopeRow.scope.scopeType ≠ .all)
    {read : TicketRead}
    (h : ReachesTicket same (tables.addScope scopeRow) loads now required allowed comparison
      objectLiteral db user read row) :
    ReachesTicket same tables loads now required allowed comparison objectLiteral db user read
      row := by
  obtain ⟨guarded, hguarded, hfinds⟩ := h
  obtain ⟨scopes, hpasses, hscopes⟩ := canActivate_addScope hguarded
  have hfree := unrestricted_of_finds hfinds
  refine ⟨_, hpasses, ?_⟩
  rw [Finds, filter_of_unrestricted read hfree (unrestricted_without hall hscopes hfree)]
  exact hfinds

theorem reachesAsset_of_addScope {scopeRow : ScopeRow} (hall : scopeRow.scope.scopeType ≠ .all)
    {companyId : String} {query : Cmdb.AssetQuery} {email : Option String}
    (h : ReachesAsset same (tables.addScope scopeRow) loads now required allowed comparison
      objectLiteral db user companyId query email row) :
    ReachesAsset same tables loads now required allowed comparison objectLiteral db user companyId
      query email row := by
  obtain ⟨guarded, hguarded, hlists⟩ := h
  obtain ⟨scopes, hpasses, hscopes⟩ := canActivate_addScope hguarded
  refine ⟨_, hpasses, Cmdb.lists_of_fewer hlists (fun scope hmem => ?_)
    (unrestricted_without hall hscopes)⟩
  obtain rfl | ⟨more, applied, -, hguarded', rfl⟩ := hscopes
  · exact hmem
  · rw [hguarded']
    obtain ⟨hmem, hfamily⟩ := List.mem_filter.mp hmem
    exact List.mem_filter.mpr ⟨List.mem_append_right _ hmem, hfamily⟩

end Monotone

section Main

variable {same : String → String → Bool} {tables : AuthorizationTables} {loads : Loads} {now : Int}
variable {required : List String} {allowed : Bool} {user : CurrentUser}
variable {comparison : Comparison} {objectLiteral : Js → Option Scalar} {db : Db}

theorem permissionScopes_of_canActivate {guarded : CurrentUser} (hrequired : required ≠ [])
    (hrole : user.role ≠ .superAdmin) (hloads : loads.scopes = true)
    (h : canActivate same tables loads now user required allowed = some guarded) :
    guarded.permissionScopes = some (appliedScopes same tables loads user) := by
  obtain ⟨-, hempty | hsuper⟩ | rfl := canActivate_some h
  · exact absurd (List.isEmpty_iff.mp hempty) hrequired
  · exact absurd hsuper hrole
  · simp only [loadedUser, hloads, if_true]

/-- Permission scopes only restrict: a ticket or an asset that is reached is in a
scope that applies, unless none does; and a scope that is not for all adds nothing. -/
theorem scopes_only_restrict (hrequired : required ≠ []) (hrole : user.role ≠ .superAdmin)
    (hloads : loads.scopes = true) :
    (∀ read row, ReachesTicket same tables loads now required allowed comparison objectLiteral db
        user read row →
      matchingScopes "tickets." (some (appliedScopes same tables loads user)) = [] ∨
        ∃ scope ∈ matchingScopes "tickets." (some (appliedScopes same tables loads user)),
          ticketInScope now comparison objectLiteral db user scope row = true) ∧
      (∀ companyId query email row, ReachesAsset same tables loads now required allowed comparison
          objectLiteral db user companyId query email row →
        matchingScopes "assets." (some (appliedScopes same tables loads user)) = [] ∨
          (∃ scope ∈ matchingScopes "assets." (some (appliedScopes same tables loads user)),
            assetInScope comparison db user email scope row = true) ∨
          Cmdb.isDenied comparison row = true) ∧
        ∀ scopeRow : ScopeRow, scopeRow.scope.scopeType ≠ .all →
          (∀ read row, ReachesTicket same (tables.addScope scopeRow) loads now required allowed
              comparison objectLiteral db user read row →
            ReachesTicket same tables loads now required allowed comparison objectLiteral db user
              read row) ∧
            ∀ companyId query email row, ReachesAsset same (tables.addScope scopeRow) loads now
                required allowed comparison objectLiteral db user companyId query email row →
              ReachesAsset same tables loads now required allowed comparison objectLiteral db user
                companyId query email row := by
  refine ⟨fun read row h => ?_, fun companyId query email row h => ?_, fun scopeRow hall =>
    ⟨fun _ _ => reachesTicket_of_addScope hall, fun _ _ _ _ => reachesAsset_of_addScope hall⟩⟩
  · obtain ⟨guarded, hguarded, hfinds⟩ := h
    have hfree := unrestricted_of_finds hfinds
    rw [permissionScopes_of_canActivate hrequired hrole hloads hguarded] at hfree
    refine (applies_of_unrestricted hfree).imp_right fun ⟨scope, hmem, hscope⟩ => ?_
    exact ⟨scope, hmem, by simp [ticketInScope, hscope]⟩
  · obtain ⟨guarded, hguarded, hlists⟩ := h
    have hscopes := permissionScopes_of_canActivate hrequired hrole hloads hguarded
    cases hrestricted : restrictedBy "assets." guarded.permissionScopes with
    | true => exact .inr (.inr (Cmdb.restricted_of_lists hlists hrestricted).2)
    | false =>
      rw [hscopes] at hrestricted
      obtain hnone | ⟨scope, hmem, hscope⟩ := applies_of_unrestricted hrestricted
      · exact .inl hnone
      · exact .inr (.inl ⟨scope, hmem, by simp [assetInScope, hscope]⟩)

end Main

section Enlarged

variable (same : String → String → Bool) (now : Int) (comparison : Comparison)
variable (objectLiteral : Js → Option Scalar) (db : Db)

def ScopedGrant.scope (grant : ScopedGrant) (scopeType : ScopeType) : PermissionScope where
  permissionSlug := grant.slug
  scopeType := scopeType
  scopeValues := grant.scopeValue.toList

/-- Whoever has a permission from scoped grants alone reaches what is in one of
their scopes. -/
def GrantsRestrict : Prop :=
  ∀ (tables : AuthorizationTables) (loads : Loads) (user : CurrentUser) (permission : String)
    (allowed : Bool) (read : TicketRead) (row : Row),
    user.role ≠ .superAdmin → permission ∉ standingSlugs same tables loads user →
      (∀ grant ∈ tables.grants, grant.scopeType ≠ none) →
        ReachesTicket same tables loads now [permission] allowed comparison objectLiteral db user
          read row →
          ∃ grant ∈ tables.grants, ∃ scopeType, grant.scopeType = some scopeType ∧
            ticketInScope now comparison objectLiteral db user (grant.scope scopeType) row = true

def AddingRestricts : Prop :=
  ∀ (tables : AuthorizationTables) (loads : Loads) (required : List String) (user : CurrentUser)
    (allowed : Bool) (scopeRow : ScopeRow) (read : TicketRead) (row : Row),
    ReachesTicket same (tables.addScope scopeRow) loads now required allowed comparison
      objectLiteral db user read row →
      ReachesTicket same tables loads now required allowed comparison objectLiteral db user read row

def FailureRestricts : Prop :=
  ∀ (tables : AuthorizationTables) (loads : Loads) (required : List String) (user : CurrentUser)
    (allowed : Bool) (read : TicketRead) (row : Row),
    ReachesTicket same tables { loads with scopes := false } now required allowed comparison
      objectLiteral db user read row →
      ReachesTicket same tables { loads with scopes := true } now required allowed comparison
        objectLiteral db user read row

def reachesSome (tables : AuthorizationTables) (loads : Loads) (required : List String)
    (user : CurrentUser) (read : TicketRead) (check : Row → Bool) : Bool :=
  (canActivate same tables loads now user required true).any fun guarded =>
    (Query.ticket.rows (server comparison objectLiteral) db
      (Filter.fields (read.filter now comparison objectLiteral db guarded))).any fun rows =>
        rows.any check

theorem exists_of_reachesSome {same now comparison objectLiteral db} {tables : AuthorizationTables}
    {loads : Loads} {required : List String} {user : CurrentUser} {read : TicketRead}
    {check : Row → Bool}
    (h : reachesSome same now comparison objectLiteral db tables loads required user read check =
      true) :
    ∃ row, ReachesTicket same tables loads now required true comparison objectLiteral db user read
      row ∧ check row = true := by
  obtain ⟨guarded, hguarded, hany⟩ := (Option.any_eq_true _ _).mp h
  obtain ⟨rows, hrows, hany⟩ := (Option.any_eq_true _ _).mp hany
  obtain ⟨row, hrow, hcheck⟩ := List.any_eq_true.mp hany
  exact ⟨row, ⟨guarded, hguarded, rows, hrows, hrow⟩, hcheck⟩

end Enlarged

section Samples

def sampleTicket : Row := fun column =>
  if column = "id" then some (.text "ticket-1")
  else if column = "companyId" then some (.text "acme")
  else none

def sampleDb : Db := fun table =>
  if table = "Ticket" then [sampleTicket] else []

def sampleTechnician : CurrentUser where
  id := "tech-1"
  role := .technician
  userType := .businessUser
  companyId := some "acme"
  effectiveCompanyId := none
  location := none
  permissionScopes := none
  permissionSlugs := none

def sampleScope (scopeType : ScopeType) : ScopeRow where
  companyId := none
  roleId := none
  userId := some "tech-1"
  scope := ⟨"tickets.view", scopeType, []⟩

/-- A technician with a role of the company that may look at tickets. -/
def sampleTables (scopes : List ScopeRow) : AuthorizationTables where
  roles := [⟨"role-1", "Technicians", "technicians", false⟩]
  userRoles := [("tech-1", "role-1")]
  rolePermissions := [("role-1", "tickets.view")]
  grants := []
  scopes := scopes

/-- A technician with a temporary grant for the tickets of one customer. -/
def sampleGrants : AuthorizationTables where
  roles := []
  userRoles := []
  rolePermissions := []
  grants := [{ userId := "tech-1", slug := "tickets.view", startsAt := 0, expiresAt := 100,
               revoked := false, scopeType := some .customers, scopeValue := some "globex" }]
  scopes := []

def sampleRead : TicketRead :=
  .detail "ticket-1"

abbrev sampleSame (a b : String) : Bool := a == b

theorem scopes_only_restrict_sample : ∃ row,
    ReachesTicket sampleSame (sampleTables [sampleScope .all, sampleScope .assigned])
      ⟨true, true, true⟩ 1 ["tickets.view"] true Comparison.binary (fun _ => none) sampleDb
      sampleTechnician sampleRead row ∧
    (matchingScopes "tickets." (some (appliedScopes sampleSame
        (sampleTables [sampleScope .all, sampleScope .assigned]) ⟨true, true, true⟩
        sampleTechnician)) = [] ∨
      ∃ scope ∈ matchingScopes "tickets." (some (appliedScopes sampleSame
          (sampleTables [sampleScope .all, sampleScope .assigned]) ⟨true, true, true⟩
          sampleTechnician)),
        ticketInScope 1 Comparison.binary (fun _ => none) sampleDb sampleTechnician scope row =
          true) := by
  have hreaches : reachesSome sampleSame 1 Comparison.binary (fun _ => none) sampleDb
      (sampleTables [sampleScope .all, sampleScope .assigned]) ⟨true, true, true⟩ ["tickets.view"]
      sampleTechnician sampleRead (fun _ => true) = true := by
    decide
  obtain ⟨row, hrow, -⟩ := exists_of_reachesSome hreaches
  exact ⟨row, hrow, (scopes_only_restrict (by decide) (by decide) rfl).1 sampleRead row hrow⟩

theorem not_reaches_assigned (read : TicketRead) (row : Row) :
    ¬ ReachesTicket sampleSame (sampleTables [sampleScope .assigned]) ⟨true, true, true⟩ 1
      ["tickets.view"] true Comparison.binary (fun _ => none) sampleDb sampleTechnician read row := by
  rintro ⟨guarded, hguarded, hfinds⟩
  have hfree := unrestricted_of_finds hfinds
  rw [permissionScopes_of_canActivate (by decide) (by decide) rfl hguarded] at hfree
  exact absurd hfree (by decide)

/-- A row for all lifts the scopes beside it, scopes that could not be read restrict
nothing, and the scope of a temporary grant is not looked at. -/
theorem scopes_enlarge : ¬ AddingRestricts sampleSame 1 Comparison.binary (fun _ => none) sampleDb ∧
    ¬ FailureRestricts sampleSame 1 Comparison.binary (fun _ => none) sampleDb ∧
      ¬ GrantsRestrict sampleSame 1 Comparison.binary (fun _ => none) sampleDb := by
  refine ⟨fun hadding => ?_, fun hfailure => ?_, fun hgrants => ?_⟩
  · have hreaches : reachesSome sampleSame 1 Comparison.binary (fun _ => none) sampleDb
        ((sampleTables [sampleScope .assigned]).addScope (sampleScope .all)) ⟨true, true, true⟩
        ["tickets.view"] sampleTechnician sampleRead (fun _ => true) = true := by
      decide
    obtain ⟨row, hrow, -⟩ := exists_of_reachesSome hreaches
    exact not_reaches_assigned sampleRead row (hadding _ _ _ _ _ _ _ _ hrow)
  · have hreaches : reachesSome sampleSame 1 Comparison.binary (fun _ => none) sampleDb
        (sampleTables [sampleScope .assigned]) ⟨true, true, false⟩
        ["tickets.view"] sampleTechnician sampleRead (fun _ => true) = true := by
      decide
    obtain ⟨row, hrow, -⟩ := exists_of_reachesSome hreaches
    exact not_reaches_assigned sampleRead row
      (hfailure _ ⟨true, true, true⟩ _ _ _ _ _ hrow)
  · have hreaches : reachesSome sampleSame 1 Comparison.binary (fun _ => none) sampleDb
        sampleGrants ⟨true, true, true⟩ ["tickets.view"] sampleTechnician sampleRead
        (fun row => !ticketInScope 1 Comparison.binary (fun _ => none) sampleDb sampleTechnician
          ⟨"tickets.view", .customers, ["globex"]⟩ row) = true := by
      decide
    obtain ⟨row, hrow, houtside⟩ := exists_of_reachesSome hreaches
    obtain ⟨grant, hgrant, scopeType, hscope, hinside⟩ := hgrants sampleGrants ⟨true, true, true⟩
      sampleTechnician "tickets.view" true sampleRead row (by decide) (by decide)
      (by decide) hrow
    obtain rfl := List.mem_singleton.mp hgrant
    obtain rfl := Option.some.inj hscope
    rw [Bool.not_eq_true'] at houtside
    exact absurd (hinside.symm.trans houtside) (by decide)

end Samples

end FieldserviceIT.Access
