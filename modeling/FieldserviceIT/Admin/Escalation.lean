import FieldserviceIT.Admin.Delegation
import FieldserviceIT.Lib.Rights

/-!
What comes of the work of an administrator who is no super administrator: whether
anybody in the company ends up with a permission that was not the administrator's to
hand on. The routes check whose role and whose user it is. None of them looks at the
permissions, so that is what the condition on the statements is about.
-/

namespace FieldserviceIT.Admin

open Common Lib

section Authority

def IsPrimary (role : TenantRole) (primary : Role) : Prop :=
  role.isSystem = true ∧ (role.name = primary.name ∨ role.slug = primary.slug)

def Holds (s : RoleStore) (actor : CurrentUser) (role : TenantRole) : Prop :=
  (actor.id, role.id) ∈ s.userRoles ∨ IsPrimary role actor.role

/-- Not the actor's to hand on: reserved to the platform, or carried by system roles
only, none of which the actor holds. The defaults of tenant administrators are theirs. -/
def Withheld (reserved : String → Bool) (actor : CurrentUser) (s : RoleStore) (slug : String) :
    Prop :=
  reserved slug = true ∨
    ((∃ role ∈ s.roles.rows, slug ∈ s.carried role.id) ∧
      (∀ role ∈ s.roles.rows, slug ∈ s.carried role.id →
        role.isSystem = true ∧ ¬ Holds s actor role) ∧
      ¬ (actor.role = .tenantAdmin ∧ slug ∈ tenantAdminDefaultPermissions))

def OfCompany (s : RoleStore) (companyId : Option String) : Holder → Prop
  | .user account => account ∈ s.accounts ∧ account.companyId = companyId
  | .role id => ∃ role ∈ s.roles.rows, role.id = id ∧ role.companyId = companyId
  | .serviceAccount id =>
    ∃ account ∈ s.serviceAccounts, account.id = id ∧ account.companyId = companyId

variable (reserved : String → Bool) (actor : CurrentUser) (s₀ : RoleStore)

/-- Whatever was withheld from the actor at the start is in effect only where it would be
had the actor done nothing. -/
def NoEscalation (s : RoleStore) : Prop :=
  ∀ holder, OfCompany s actor.companyId holder → ∀ slug ∈ s.effective s.now holder,
    Withheld reserved actor s₀ slug → slug ∈ s₀.effective s.now holder

/-- The permission is the actor's to hand on, or the role has had it from the start and
only those who had the role then have it now. -/
def MayCarry (s : RoleStore) (roleId slug : String) : Prop :=
  ¬ Withheld reserved actor s₀ slug ∨
    (slug ∈ s₀.carried roleId ∧ ∀ assignment ∈ s.userRoles, assignment.2 = roleId →
      assignment ∈ s₀.userRoles)

/-- The assignment is there already, or the role carries only what is the actor's to hand on. -/
def MayAssign (s : RoleStore) (userId roleId : String) : Prop :=
  (userId, roleId) ∈ s.userRoles ∨ ∀ slug ∈ s.carried roleId, ¬ Withheld reserved actor s₀ slug

def KeepsToAuthority (op : RoleOp) (s : RoleStore) : Prop :=
  match op with
  | .insertRolePermission roleId permissionId =>
    ∀ slug ∈ s.slugsOf permissionId, MayCarry reserved actor s₀ s roleId slug
  | .importRolePermission roleId slug =>
    ∀ permission ∈ s.permissions, permission.2 = slug →
      ∀ slug' ∈ s.slugsOf permission.1, MayCarry reserved actor s₀ s roleId slug'
  | .insertUserRole userId roleId => MayAssign reserved actor s₀ s userId roleId
  | .access (.assignRole _ roleId request) =>
    MayAssign reserved actor s₀ s request.requesterId roleId
  | .insertServiceAccount row => ∀ slug ∈ row.permissionSlugs, ¬ Withheld reserved actor s₀ slug
  | .insertGrant row =>
    ∀ slug ∈ s.slugsOf row.permissionId, ¬ Withheld reserved actor s₀ slug
  | .access (.grant _ permissionId _) =>
    ∀ slug ∈ s.slugsOf permissionId, ¬ Withheld reserved actor s₀ slug
  | _ => True

def AssignsRoles (s : RoleStore) : Prop :=
  ∀ assignment ∈ s.userRoles, ∃ role ∈ s.roles.rows, role.id = assignment.2

end Authority

section Effect

def RoleStore.rights (s : RoleStore) (now : Int) : Rights Holder String String where
  assigned holder roleId :=
    match holder with
    | .user account => (account.id, roleId) ∈ s.userRoles ∨
        ∃ role ∈ s.roles.rows, role.id = roleId ∧ IsPrimary role account.role
    | .role id => id = roleId
    | .serviceAccount _ => False
  carries roleId slug := slug ∈ s.carried roleId
  direct holder slug :=
    match holder with
    | .user account => (account.role = .tenantAdmin ∧ slug ∈ tenantAdminDefaultPermissions) ∨
        ∃ grant ∈ s.grants, (grant.userId = account.id ∧ grant.startsAt ≤ now ∧
          now < grant.expiresAt) ∧ slug ∈ s.slugsOf grant.permissionId
    | .role _ => False
    | .serviceAccount id => ∃ account ∈ s.serviceAccounts, (account.id = id ∧
        account.isActive = true ∧ account.expiresAt.all (now < ·) = true) ∧
          slug ∈ account.permissionSlugs

variable {s : RoleStore} {now : Int} {slug : String}

theorem mem_permissionsOf (role : RoleRow) :
    slug ∈ (s.tables.permissionsOf sameText role).map (·.2) ↔ slug ∈ s.carried role.id := by
  simp only [PermissionTables.permissionsOf, RoleStore.tables, RoleStore.carried, sameText,
    List.mem_map, List.mem_filter, List.mem_flatMap, decide_eq_true_eq]
  constructor
  · rintro ⟨_, ⟨⟨entry, hentry, slug', hslug', rfl⟩, hrole⟩, rfl⟩
    exact ⟨entry, ⟨hentry, hrole⟩, hslug'⟩
  · rintro ⟨entry, ⟨hentry, hrole⟩, hslug⟩
    exact ⟨(entry.1, slug), ⟨⟨entry, hentry, slug, hslug, rfl⟩, hrole⟩, rfl⟩

theorem mem_findUserRolePermissions (user : CurrentUser) :
    slug ∈ (s.tables.findUserRolePermissions sameText user).map (·.2) ↔
      ∃ role ∈ s.roles.rows, (user.id, role.id) ∈ s.userRoles ∧ slug ∈ s.carried role.id := by
  rw [PermissionTables.findUserRolePermissions, List.map_flatMap, List.mem_flatMap]
  constructor
  · rintro ⟨assignment, hassignment, hslug⟩
    rw [List.map_flatMap, List.mem_flatMap] at hslug
    obtain ⟨row, hrow, hslug⟩ := hslug
    simp only [RoleStore.tables, sameText, List.mem_filter, List.mem_map, decide_eq_true_eq]
      at hassignment hrow
    obtain ⟨⟨role, hrole, rfl⟩, hid⟩ := hrow
    refine ⟨role, hrole, ?_, (mem_permissionsOf _).mp hslug⟩
    have hid' : role.id = assignment.2 := hid
    rw [← hassignment.2, hid']
    exact hassignment.1
  · rintro ⟨role, hrole, hassigned, hslug⟩
    refine ⟨(user.id, role.id), by simp [RoleStore.tables, sameText, hassigned], ?_⟩
    rw [List.map_flatMap, List.mem_flatMap]
    refine ⟨⟨role.id, role.name, role.slug, role.isSystem⟩, ?_, (mem_permissionsOf _).mpr hslug⟩
    simp only [RoleStore.tables, sameText, List.mem_filter, List.mem_map, decide_true, and_true]
    exact ⟨role, hrole, rfl⟩

theorem mem_findSystemRolePermissions (user : CurrentUser) :
    slug ∈ (s.tables.findSystemRolePermissions sameText user).map (·.2) ↔
      ∃ role ∈ s.roles.rows, IsPrimary role user.role ∧ slug ∈ s.carried role.id := by
  rw [PermissionTables.findSystemRolePermissions, List.map_flatMap, List.mem_flatMap]
  constructor
  · rintro ⟨row, hrow, hslug⟩
    simp only [RoleStore.tables, sameText, List.mem_filter, List.mem_map, Bool.and_eq_true,
      Bool.or_eq_true, decide_eq_true_eq] at hrow
    obtain ⟨⟨role, hrole, rfl⟩, hprimary⟩ := hrow
    exact ⟨role, hrole, hprimary, (mem_permissionsOf _).mp hslug⟩
  · rintro ⟨role, hrole, hprimary, hslug⟩
    refine ⟨⟨role.id, role.name, role.slug, role.isSystem⟩, ?_, (mem_permissionsOf _).mpr hslug⟩
    simp only [RoleStore.tables, sameText, List.mem_filter, List.mem_map, Bool.and_eq_true,
      Bool.or_eq_true, decide_eq_true_eq]
    exact ⟨⟨role, hrole, rfl⟩, hprimary⟩

theorem mem_activeGrants (user : CurrentUser) :
    slug ∈ s.tables.activeGrants sameText now user ↔
      ∃ grant ∈ s.grants, (grant.userId = user.id ∧ grant.startsAt ≤ now ∧
        now < grant.expiresAt) ∧ slug ∈ s.slugsOf grant.permissionId := by
  simp only [PermissionTables.activeGrants, RoleStore.tables, sameText, List.mem_map,
    List.mem_filter, List.mem_flatMap, Bool.and_eq_true, decide_eq_true_eq, Bool.not_eq_true']
  constructor
  · rintro ⟨_, ⟨⟨grant, hgrant, slug', hslug', rfl⟩, ⟨⟨huser, -⟩, hstarts⟩, hexpires⟩, rfl⟩
    exact ⟨grant, hgrant, ⟨huser, hstarts, hexpires⟩, hslug'⟩
  · rintro ⟨grant, hgrant, ⟨huser, hstarts, hexpires⟩, hslug⟩
    exact ⟨_, ⟨⟨grant, hgrant, slug, hslug, rfl⟩, ⟨⟨huser, rfl⟩, hstarts⟩, hexpires⟩, rfl⟩

theorem inEffect_of_mem {holder : Holder} (h : slug ∈ s.effective now holder) :
    (s.rights now).InEffect holder slug := by
  cases holder with
  | user account =>
    simp only [RoleStore.effective, PermissionTables.userPermissionSlugs, List.mem_append,
      mem_findUserRolePermissions, mem_findSystemRolePermissions, mem_activeGrants] at h
    obtain ((hdefault | ⟨role, -, hassigned, hslug⟩) | ⟨role, hrole, hprimary, hslug⟩) | hgrant := h
    · split at hdefault
      · next htenant => exact .inl (.inl ⟨htenant, hdefault⟩)
      · exact absurd hdefault List.not_mem_nil
    · exact .inr ⟨role.id, .inl hassigned, hslug⟩
    · exact .inr ⟨role.id, .inr ⟨role, hrole, rfl, hprimary⟩, hslug⟩
    · exact .inl (.inr hgrant)
  | role id => exact .inr ⟨id, rfl, h⟩
  | serviceAccount id =>
    simp only [RoleStore.effective, List.mem_flatMap, List.mem_filter, Bool.and_eq_true,
      decide_eq_true_eq] at h
    obtain ⟨account, ⟨hmem, ⟨hid, hactive⟩, hexpires⟩, hslug⟩ := h
    exact .inl ⟨account, hmem, ⟨hid, hactive, hexpires⟩, hslug⟩

theorem mem_of_inEffect (hroles : AssignsRoles s) {holder : Holder}
    (h : (s.rights now).InEffect holder slug) : slug ∈ s.effective now holder := by
  cases holder with
  | user account =>
    simp only [RoleStore.effective, PermissionTables.userPermissionSlugs, List.mem_append,
      mem_findUserRolePermissions, mem_findSystemRolePermissions, mem_activeGrants]
    obtain (⟨htenant, hdefault⟩ | hgrant) | ⟨roleId, hassigned | ⟨role, hrole, rfl, hprimary⟩, hslug⟩ := h
    · refine .inl (.inl (.inl ?_))
      rw [if_pos (show account.signedIn.role = .tenantAdmin from htenant)]
      exact hdefault
    · exact .inr hgrant
    · obtain ⟨role, hrole, rfl⟩ := hroles _ hassigned
      exact .inl (.inl (.inr ⟨role, hrole, hassigned, hslug⟩))
    · exact .inl (.inr ⟨role, hrole, hprimary, hslug⟩)
  | role id =>
    obtain hnone | ⟨_, rfl, hslug⟩ := h
    · exact hnone.elim
    · exact hslug
  | serviceAccount id =>
    obtain ⟨account, hmem, ⟨hid, hactive, hexpires⟩, hslug⟩ | ⟨_, hnone, -⟩ := h
    · simp only [RoleStore.effective, List.mem_flatMap, List.mem_filter, Bool.and_eq_true,
        decide_eq_true_eq]
      exact ⟨account, ⟨hmem, ⟨hid, hactive⟩, hexpires⟩, hslug⟩
    · exact hnone.elim

end Effect

section Steps

variable {uuid : Nat → String} {reserved : String → Bool} {actor : CurrentUser} {s₀ s s' : RoleStore}

/-- What was withheld has stayed where it was, and no system role is new. -/
structure Sealed (reserved : String → Bool) (actor : CurrentUser) (s₀ s : RoleStore) : Prop where
  confined : ∀ now,
    (s₀.rights now).Confined (Withheld reserved actor s₀) (s.rights now)
  systemRoles : ∀ role ∈ s.roles.rows, role.isSystem = true → role ∈ s₀.roles.rows

theorem sealed_start : Sealed reserved actor s₀ s₀ :=
  ⟨fun _ => Rights.confined_self, fun _ h _ => h⟩

/-- What a statement may change in the tables that decide about permissions. -/
structure Permitted (reserved : String → Bool) (actor : CurrentUser) (s₀ s s' : RoleStore) :
    Prop where
  permissions : s'.permissions = s.permissions
  systemRoles : ∀ role ∈ s'.roles.rows, role.isSystem = true → role ∈ s.roles.rows
  carried : ∀ roleId, ∀ slug ∈ s'.carried roleId,
    slug ∈ s.carried roleId ∨ MayCarry reserved actor s₀ s roleId slug
  userRoles : ∀ assignment ∈ s'.userRoles, assignment ∈ s.userRoles ∨
    ∀ slug ∈ s'.carried assignment.2, ¬ Withheld reserved actor s₀ slug
  grants : ∀ grant ∈ s'.grants, grant ∈ s.grants ∨
    ∀ slug ∈ s.slugsOf grant.permissionId, ¬ Withheld reserved actor s₀ slug
  serviceAccounts : ∀ account ∈ s'.serviceAccounts, account ∈ s.serviceAccounts ∨
    ∀ slug ∈ account.permissionSlugs, ¬ Withheld reserved actor s₀ slug

theorem permitted_self (s : RoleStore) : Permitted reserved actor s₀ s s :=
  ⟨rfl, fun _ h _ => h, fun _ _ h => .inl h, fun _ h => .inl h, fun _ h => .inl h,
    fun _ h => .inl h⟩

theorem Sealed.step (h : Sealed reserved actor s₀ s)
    (hpermitted : Permitted reserved actor s₀ s s') : Sealed reserved actor s₀ s' := by
  refine ⟨fun now => (h.confined now).step ⟨?_, ?_, ?_⟩, fun role hrole hsystem =>
    h.systemRoles role (hpermitted.systemRoles role hrole hsystem) hsystem⟩
  · intro holder slug hdirect
    cases holder with
    | user account =>
      obtain hdefault | ⟨grant, hgrant, hactive, hslug⟩ := hdirect
      · exact .inl (.inl hdefault)
      · rw [RoleStore.slugsOf, hpermitted.permissions] at hslug
        obtain hold | hfree := hpermitted.grants grant hgrant
        · exact .inl (.inr ⟨grant, hold, hactive, hslug⟩)
        · exact .inr (hfree slug hslug)
    | role id => exact hdirect.elim
    | serviceAccount id =>
      obtain ⟨account, haccount, hactive, hslug⟩ := hdirect
      obtain hold | hfree := hpermitted.serviceAccounts account haccount
      · exact .inl ⟨account, hold, hactive, hslug⟩
      · exact .inr (hfree slug hslug)
  · intro roleId slug hcarries
    obtain hold | hfree | ⟨hstart, honly⟩ := hpermitted.carried roleId slug hcarries
    · exact .inl hold
    · exact .inr (.inl hfree)
    · refine .inr (.inr ⟨hstart, fun holder hassigned => ?_⟩)
      cases holder with
      | user account =>
        obtain hassigned | ⟨role, hrole, hid, hprimary⟩ := hassigned
        · exact .inl (honly _ hassigned rfl)
        · exact .inr ⟨role, h.systemRoles role hrole hprimary.1, hid, hprimary⟩
      | role id => exact hassigned
      | serviceAccount id => exact hassigned.elim
  · intro holder roleId hassigned
    cases holder with
    | user account =>
      obtain hassigned | ⟨role, hrole, hid, hprimary⟩ := hassigned
      · obtain hold | hfree := hpermitted.userRoles _ hassigned
        · exact .inl (.inl hold)
        · exact .inr (.inr hfree)
      · exact .inl (.inr ⟨role, hpermitted.systemRoles role hrole hprimary.1, hid, hprimary⟩)
    | role id => exact .inl hassigned
    | serviceAccount id => exact hassigned.elim

theorem noEscalation_of_sealed (hroles : AssignsRoles s₀) (h : Sealed reserved actor s₀ s) :
    NoEscalation reserved actor s₀ s := by
  intro holder _ slug hslug hwithheld
  have heffect := inEffect_of_mem hslug
  exact mem_of_inEffect hroles ((h.confined s.now).inEffect hwithheld heffect)

theorem mem_carried {s : RoleStore} {roleId slug : String} :
    slug ∈ s.carried roleId ↔
      ∃ permissionId, (roleId, permissionId) ∈ s.rolePermissions ∧ slug ∈ s.slugsOf permissionId := by
  simp only [RoleStore.carried, List.mem_flatMap, List.mem_filter, decide_eq_true_eq]
  constructor
  · rintro ⟨entry, ⟨hentry, rfl⟩, hslug⟩
    exact ⟨entry.2, hentry, hslug⟩
  · rintro ⟨permissionId, hentry, hslug⟩
    exact ⟨_, ⟨hentry, rfl⟩, hslug⟩

theorem permitted_carry {entries : List (String × String)}
    (h : ∀ entry ∈ entries, entry ∈ s.rolePermissions ∨
      ∀ slug ∈ s.slugsOf entry.2, MayCarry reserved actor s₀ s entry.1 slug) :
    Permitted reserved actor s₀ s { s with rolePermissions := entries } := by
  refine { permitted_self s with
    carried := fun roleId slug hslug => ?_
    userRoles := fun _ h => .inl h }
  obtain ⟨permissionId, hentry, hslug'⟩ := mem_carried.mp hslug
  obtain hold | hnew := h _ hentry
  · exact .inl (mem_carried.mpr ⟨permissionId, hold, hslug'⟩)
  · exact .inr (hnew slug hslug')

theorem permitted_assign {userId roleId : String} {assignments : List (String × String)}
    (hmay : MayAssign reserved actor s₀ s userId roleId)
    (h : ∀ assignment ∈ assignments, assignment ∈ s.userRoles ∨ assignment = (userId, roleId)) :
    Permitted reserved actor s₀ s { s with userRoles := assignments } := by
  refine { permitted_self s with userRoles := fun assignment hassignment => ?_ }
  obtain hold | rfl := h assignment hassignment
  · exact .inl hold
  · exact hmay

end Steps

section Statements

variable {uuid : Nat → String} {reserved : String → Bool} {actor : CurrentUser} {s₀ s : RoleStore}

def IsTenantRole (s : RoleStore) (id : String) : Prop :=
  ∃ role ∈ s.roles.rows, role.id = id ∧ role.isSystem = false

/-- The statement renames only roles that may be edited and adds no system role. -/
def RoleOp.Edits (editable : String → Prop) : RoleOp → Prop
  | .updateRole id _ _ => editable id
  | .insertRole row => row.isSystem = false
  | _ => True

theorem mem_grants_execAccess {op : AccessOp} {a : AccessStore} {grant : PermissionGrant}
    (h : grant ∈ (execAccess uuid op a).grants) :
    grant ∈ a.grants ∨ ∃ actorId request, op = .grant actorId grant.permissionId request := by
  cases op with
  | grant actorId permissionId request =>
    obtain h | h := List.mem_append.mp h
    · exact .inl h
    · obtain rfl := List.mem_singleton.mp h
      exact .inr ⟨actorId, request, rfl⟩
  | insertElevation row onBehalf =>
    left
    rw [execAccess] at h
    split at h
    · exact h
    · cases onBehalf <;> exact h
  | insertAccessRequest row | takeElevation id actor | takeAccessRequest id actor =>
    left
    rw [execAccess] at h
    split at h
    · exact h
    · exact h
  | _ => exact .inl h

theorem mem_userRoles_execAccess {op : AccessOp} {a : AccessStore} {assignment : String × String}
    (h : assignment ∈ (execAccess uuid op a).userRoles) :
    assignment ∈ a.userRoles ∨ ∃ actorId roleId request, op = .assignRole actorId roleId request ∧
      assignment = (request.requesterId, roleId) := by
  cases op with
  | assignRole actorId roleId request =>
    rw [execAccess] at h
    simp only [AccessStore.record] at h
    split at h
    · exact .inl h
    · obtain h | h := List.mem_append.mp h
      · exact .inl h
      · exact .inr ⟨actorId, roleId, request, rfl, List.mem_singleton.mp h⟩
  | insertElevation row onBehalf =>
    left
    rw [execAccess] at h
    split at h
    · exact h
    · cases onBehalf <;> exact h
  | insertAccessRequest row | takeElevation id actor | takeAccessRequest id actor =>
    left
    rw [execAccess] at h
    split at h
    · exact h
    · exact h
  | _ => exact .inl h

theorem permitted_access {op : AccessOp} (h : KeepsToAuthority reserved actor s₀ (.access op) s) :
    Permitted reserved actor s₀ s (execRole uuid (.access op) s) := by
  refine { permitted_self s with
    userRoles := fun assignment hassignment => ?_
    grants := fun grant hgrant => ?_ }
  · obtain hold | ⟨actorId, roleId, request, rfl, rfl⟩ := mem_userRoles_execAccess hassignment
    · exact .inl hold
    · exact h
  · obtain hold | ⟨actorId, request, rfl⟩ := mem_grants_execAccess hgrant
    · exact .inl hold
    · exact .inr h

theorem permitted_exec {op : RoleOp} (h : KeepsToAuthority reserved actor s₀ op s)
    (hedits : op.Edits (IsTenantRole s)) :
    Permitted reserved actor s₀ s (execRole uuid op s) := by
  cases op with
  | read => exact permitted_self s
  | insertRole row =>
    refine { permitted_self s with systemRoles := fun role hrole hsystem => ?_ }
    obtain hold | rfl := RoleTable.mem_insert hrole
    · exact hold
    · exact absurd hsystem (Bool.eq_false_iff.mp hedits)
  | updateRole id name description =>
    refine { permitted_self s with systemRoles := fun role hrole hsystem => ?_ }
    obtain hold | ⟨old, hold, hid, hsame⟩ := RoleTable.mem_rename hrole
    · exact hold
    · obtain ⟨tenantRole, hmem, hid', htenant⟩ := hedits
      obtain rfl := RoleTable.eq_of_id hold hmem (hid.trans hid'.symm)
      exact absurd (hsame.symm.trans hsystem) (Bool.eq_false_iff.mp htenant)
  | deleteRolePermissions roleId =>
    refine permitted_carry fun entry hentry => ?_
    exact .inl (List.mem_of_mem_filter hentry)
  | insertRolePermission roleId permissionId =>
    rw [execRole]
    split
    · exact permitted_self s
    · refine permitted_carry fun entry hentry => ?_
      obtain hold | hnew := List.mem_append.mp hentry
      · exact .inl hold
      · obtain rfl := List.mem_singleton.mp hnew
        exact .inr h
  | importRolePermission roleId slug =>
    refine permitted_carry fun entry hentry => ?_
    obtain hold | hnew := List.mem_append.mp hentry
    · exact .inl hold
    · obtain ⟨permission, hpermission, rfl⟩ := List.mem_map.mp (List.mem_of_mem_filter hnew)
      obtain ⟨hmem, hslug⟩ := List.mem_filter.mp hpermission
      exact .inr (h permission hmem (of_decide_eq_true hslug))
  | insertUserRole userId roleId =>
    rw [execRole]
    split
    · exact permitted_self s
    · refine permitted_assign h fun assignment hassignment => ?_
      obtain hold | hnew := List.mem_append.mp hassignment
      · exact .inl hold
      · exact .inr (List.mem_singleton.mp hnew)
  | insertServiceAccount row =>
    refine { permitted_self s with serviceAccounts := fun account haccount => ?_ }
    simp only [execRole] at haccount
    split at haccount
    · exact .inl haccount
    · obtain hold | hnew := List.mem_append.mp haccount
      · exact .inl hold
      · obtain rfl := List.mem_singleton.mp hnew
        exact .inr h
  | insertGrant row =>
    refine { permitted_self s with grants := fun grant hgrant => ?_ }
    simp only [execRole] at hgrant
    split at hgrant
    · exact .inl hgrant
    · obtain hold | hnew := List.mem_append.mp hgrant
      · exact .inl hold
      · obtain rfl := List.mem_singleton.mp hnew
        exact .inr h
  | access op => exact permitted_access h

end Statements

section Programs

variable {uuid : Nat → String} {editable : String → Prop} {go : RoleProgram} {roleId : String}

/-- What is asked of every statement of a program. -/
abbrev EditsOnly (editable : String → Prop) (p : RoleProgram) : Prop :=
  p.All (RoleOp.Edits editable)

theorem edits_getRole {go : List String → RoleProgram} (h : ∀ slugs, EditsOnly editable (go slugs)) :
    EditsOnly editable (getRole roleId go) := by
  refine Prog.all_step trivial fun s => ?_
  split
  · trivial
  · exact Prog.all_step trivial fun s' => h _

theorem edits_analyzePermissionChange {slugs : List String} {actor : CurrentUser}
    {go : Bool → RoleProgram} (h : ∀ required, EditsOnly editable (go required)) :
    EditsOnly editable (analyzePermissionChange roleId slugs actor go) := by
  refine Prog.all_step trivial fun s => ?_
  split
  · trivial
  · refine edits_getRole fun before => ?_
    exact Prog.all_step trivial fun s' => h _

theorem edits_insertRolePermissions (h : EditsOnly editable go) (permissionIds : List String) :
    EditsOnly editable (insertRolePermissions roleId go permissionIds) := by
  induction permissionIds with
  | nil => exact h
  | cons permissionId rest ih =>
    refine Prog.all_step trivial fun s => ?_
    split
    · trivial
    · exact ih

theorem edits_addPermissions (h : EditsOnly editable go) (slugs : List String) :
    EditsOnly editable (addPermissions roleId slugs go) := by
  rw [addPermissions]
  split
  · exact h
  · refine Prog.all_step trivial fun s => ?_
    split
    · trivial
    · exact edits_insertRolePermissions h _

theorem edits_createRole (dto : RoleDto) : EditsOnly editable (createRole uuid dto) := by
  refine Prog.all_step trivial fun s => ?_
  split
  · trivial
  · refine Prog.all_step rfl fun s' => ?_
    split
    · trivial
    · exact edits_addPermissions (show EditsOnly editable .done from trivial) _

theorem edits_cloneRole (dto : CloneDto) (actor : CurrentUser) :
    EditsOnly editable (cloneRole uuid roleId dto actor) := by
  refine Prog.all_step trivial fun s => ?_
  split
  · trivial
  · exact edits_getRole fun slugs => edits_createRole _

theorem edits_updateRoleRow (roleId : String) (dto : UpdateRoleDto) :
    EditsOnly (· = roleId) (updateRoleRow roleId dto) := by
  rw [updateRoleRow]
  split
  · exact Prog.all_step rfl fun s => trivial
  · trivial

theorem edits_assignUserRole (userId : String) (actor : CurrentUser) :
    EditsOnly editable (assignUserRole userId roleId actor) := by
  refine Prog.all_step trivial fun s => ?_
  split
  · trivial
  · split
    · trivial
    · refine Prog.all_step trivial fun s' => ?_
      split
      · trivial
      · split
        · trivial
        · refine Prog.all_step trivial fun s'' => ?_
          split
          · trivial
          · exact Prog.all_step trivial fun _ => trivial

theorem edits_createServiceAccount (dto : ServiceAccountDto) (actor : CurrentUser) :
    EditsOnly editable (createServiceAccount dto actor) := by
  refine Prog.all_step trivial fun s => ?_
  split
  · trivial
  · split
    · trivial
    · exact Prog.all_step trivial fun _ => trivial

theorem edits_createTemporaryPermissionGrant (dto : GrantDto) (actor : CurrentUser) :
    EditsOnly editable (createTemporaryPermissionGrant dto actor) := by
  refine Prog.all_step trivial fun s => ?_
  split
  · trivial
  · refine Prog.all_step trivial fun s' => ?_
    split
    · split
      · trivial
      · exact Prog.all_step trivial fun _ => trivial
    · trivial

theorem edits_importRolePermissions (h : EditsOnly editable go) (slugs : List String) :
    EditsOnly editable (importRolePermissions roleId go slugs) := by
  induction slugs with
  | nil => exact h
  | cons slug rest ih => exact Prog.all_step trivial fun _ => ih

theorem edits_importRoles (companyId : Option String) (actor : CurrentUser)
    (roles : List BundleRole) : EditsOnly editable (importRoles companyId actor roles) := by
  induction roles with
  | nil => trivial
  | cons role rest ih =>
    refine Prog.all_step trivial fun s => ?_
    split
    · exact ih
    · split
      · exact ih
      · refine Prog.all_step trivial fun _ => ?_
        exact edits_importRolePermissions ih _

theorem edits_importPolicyBundle (bundle : PolicyBundle) (actor : CurrentUser) :
    EditsOnly editable (importPolicyBundle bundle actor) := by
  rw [importPolicyBundle]
  split
  · trivial
  · exact edits_importRoles _ _ _

theorem edits_access (call : AccessCall) : EditsOnly editable (accessProgram uuid call) :=
  Prog.all_embed (Prog.all_of_forall (fun _ => trivial) _)

end Programs

section Runs

variable {uuid : Nat → String} {reserved : String → Bool} {actor : CurrentUser}
variable {s₀ s s' : RoleStore}

def RolesKept (s s' : RoleStore) : Prop :=
  ∀ role ∈ s.roles.rows, ∃ row ∈ s'.roles.rows,
    row.id = role.id ∧ row.isSystem = role.isSystem

theorem rolesKept_self (s : RoleStore) : RolesKept s s :=
  fun role h => ⟨role, h, rfl, rfl⟩

theorem RolesKept.trans {s'' : RoleStore} (h : RolesKept s s') (h' : RolesKept s' s'') :
    RolesKept s s'' := by
  intro role hrole
  obtain ⟨row, hrow, hid, hsystem⟩ := h role hrole
  obtain ⟨row', hrow', hid', hsystem'⟩ := h' row hrow
  exact ⟨row', hrow', hid'.trans hid, hsystem'.trans hsystem⟩

theorem rolesKept_exec (op : RoleOp) (s : RoleStore) : RolesKept s (execRole uuid op s) := by
  cases op with
  | insertRole row => exact fun role h => ⟨role, RoleTable.mem_insert_of_mem _ h, rfl, rfl⟩
  | updateRole id name description =>
    exact fun role h => RoleTable.exists_rename id name description h
  | insertRolePermission roleId permissionId | insertUserRole userId roleId =>
    rw [execRole]
    split
    · exact rolesKept_self s
    · exact fun role h => ⟨role, h, rfl, rfl⟩
  | _ => exact fun role h => ⟨role, h, rfl, rfl⟩

theorem IsTenantRole.later {id : String} (hkept : RolesKept s s') (h : IsTenantRole s id) :
    IsTenantRole s' id := by
  obtain ⟨role, hrole, hid, htenant⟩ := h
  obtain ⟨row, hrow, hid', hsame⟩ := hkept role hrole
  exact ⟨row, hrow, hid'.trans hid, hsame.trans htenant⟩

theorem RoleOp.Edits.mono {editable editable' : String → Prop} {op : RoleOp}
    (h : op.Edits editable) (hle : ∀ id, editable id → editable' id) : op.Edits editable' := by
  cases op with
  | updateRole id name description => exact hle id h
  | insertRole row => exact h
  | _ => trivial

/-- From this store on the program renames no system role, whatever else goes on. -/
abbrev Orderly (uuid : Nat → String) (reserved : String → Bool) (actor : CurrentUser)
    (s₀ : RoleStore) (p : RoleProgram) (s : RoleStore) : Prop :=
  p.Safe (delegationSystem uuid actor) (KeepsToAuthority reserved actor s₀)
    (Sealed reserved actor s₀) RolesKept (fun op s => op.Edits (IsTenantRole s)) (fun _ => True) s

theorem orderly_of_edits {editable : String → Prop} {p : RoleProgram} (h : EditsOnly editable p)
    (hroles : ∀ id, editable id → IsTenantRole s id) : Orderly uuid reserved actor s₀ p s := by
  refine Prog.safe_under (fun s => ∀ id, editable id → IsTenantRole s id)
    (fun hkept hfact id hid => (hfact id hid).later hkept)
    (fun {op} {s} _ _ _ => rolesKept_exec op s) ?_ hroles
  exact Prog.All.mono (fun op hop s hfact => hop.mono hfact) h

theorem orderly_read {next : RoleStore → RoleProgram}
    (h : ∀ s', Orderly uuid reserved actor s₀ (next s') s') :
    Orderly uuid reserved actor s₀ (.step .read next) s :=
  fun s' _ _ _ => ⟨trivial, h s'⟩

theorem orderly_fail : Orderly uuid reserved actor s₀ .fail s :=
  fun _ _ _ => trivial

theorem orderly_guarded {roles : List Role} {permission : String} {user : CurrentUser}
    {go : RoleProgram} (h : ∀ s', Orderly uuid reserved actor s₀ go s') :
    Orderly uuid reserved actor s₀ (guarded roles permission user go) s := by
  rw [guarded]
  split
  · exact orderly_fail
  · refine orderly_read fun s' => ?_
    split
    · exact h s'
    · exact orderly_fail

theorem tenantRole_of_scope {roleId : String} {role : TenantRole} (hactor : actor.role ≠ .superAdmin)
    (h : assertRoleScope s.roles roleId actor true = some role) : IsTenantRole s roleId := by
  rw [assertRoleScope, Option.filter_eq_some_iff] at h
  obtain ⟨hfind, hscope⟩ := h
  have hid := List.find?_some hfind
  simp only [hactor, decide_false, Bool.false_or, Bool.true_and, Bool.and_eq_true,
    Bool.not_eq_true'] at hscope
  exact ⟨role, List.mem_of_find?_eq_some hfind, of_decide_eq_true hid, hscope.1.1⟩

theorem orderly_updateRole {roleId : String} {dto : UpdateRoleDto}
    (hactor : actor.role ≠ .superAdmin) :
    Orderly uuid reserved actor s₀ (updateRole roleId dto actor) s := by
  refine orderly_read fun s' => ?_
  split
  · exact orderly_fail
  · next role hrole =>
      have htenant : ∀ id, id = roleId → IsTenantRole s' id := by
        intro id hid
        rw [hid]
        exact tenantRole_of_scope hactor hrole
      split
      · exact orderly_of_edits (edits_updateRoleRow roleId dto) htenant
      · next slugs _ =>
          refine orderly_of_edits (edits_getRole fun _ => ?_) htenant
          refine edits_analyzePermissionChange fun required => ?_
          split
          · trivial
          · refine Prog.all_step trivial fun _ => ?_
            exact edits_addPermissions (edits_updateRoleRow roleId dto) slugs

theorem orderly_handler (hactor : actor.role ≠ .superAdmin) {req : RoleRequest}
    (hsend : (delegationSystem uuid actor).sendable s req) :
    Orderly uuid reserved actor s₀ (req.handler uuid) s := by
  have hnone : ∀ {s' : RoleStore} (id : String), False → IsTenantRole s' id := fun _ h => h.elim
  cases req with
  | createRole dto user =>
    exact orderly_guarded fun s' => orderly_of_edits (edits_createRole dto) hnone
  | cloneRole roleId dto user =>
    exact orderly_guarded fun s' => orderly_of_edits (edits_cloneRole dto user) hnone
  | updateRole roleId dto user =>
    obtain hfiling | rfl := hsend
    · cases hfiling
    · exact orderly_guarded fun s' => orderly_updateRole hactor
  | assignUserRole userId roleId user =>
    exact orderly_guarded fun s' => orderly_of_edits (edits_assignUserRole userId user) hnone
  | createServiceAccount dto user =>
    exact orderly_guarded fun s' => orderly_of_edits (edits_createServiceAccount dto user) hnone
  | createTemporaryPermissionGrant dto user =>
    exact orderly_guarded fun s' =>
      orderly_of_edits (edits_createTemporaryPermissionGrant dto user) hnone
  | importPolicyBundle bundle user =>
    exact orderly_guarded fun s' => orderly_of_edits (edits_importPolicyBundle bundle user) hnone
  | access call =>
    cases call <;> exact orderly_guarded fun s' => orderly_of_edits (edits_access _) hnone

theorem delegation_cooperation (hactor : actor.role ≠ .superAdmin) :
    Cooperation (delegationSystem uuid actor) (KeepsToAuthority reserved actor s₀)
      (Sealed reserved actor s₀) RolesKept (fun op s => op.Edits (IsTenantRole s)) where
  refl := rolesKept_self
  trans := RolesKept.trans
  exec hsealed hmay hedits := ⟨hsealed.step (permitted_exec hmay hedits), rolesKept_exec _ _⟩
  tick hsealed := ⟨⟨hsealed.confined, hsealed.systemRoles⟩, rolesKept_self _⟩
  handler _ hsend := orderly_handler hactor hsend

end Runs

section Samples

def sampleAccount : Account :=
  ⟨"user-1", some "acme", .client, true, false, false, none, 0, false⟩

/-- The platform's own role, a tenant's role, and a permission each carries. -/
def sampleRoles : RoleStore where
  now := 0
  drawn := 0
  accounts := [⟨"admin-1", some "acme", .tenantAdmin, true, false, false, none, 0, false⟩,
    sampleAccount]
  permissions := [("perm-1", "companies.manage"), ("perm-2", "tickets.view")]
  roles :=
    { rows := [⟨⟨"role-1", none, true⟩, "SUPER_ADMIN", "super-admin", none⟩,
        ⟨⟨"role-2", some "acme", false⟩, "Desk", "desk", none⟩]
      distinct := by decide }
  rolePermissions := [("role-1", "perm-1"), ("role-2", "perm-2")]
  userRoles := []
  grants := []
  serviceAccounts := []
  elevations := []
  accessRequests := []
  relationships := []
  underReview := []
  results := []

instance (role : TenantRole) (primary : Role) : Decidable (IsPrimary role primary) :=
  inferInstanceAs (Decidable (_ ∧ _))

instance (s : RoleStore) (actor : CurrentUser) (role : TenantRole) : Decidable (Holds s actor role) :=
  inferInstanceAs (Decidable (_ ∨ _))

section Decisions

variable (reserved : String → Bool) (actor : CurrentUser) (s₀ s : RoleStore)

instance (slug : String) : Decidable (Withheld reserved actor s slug) :=
  inferInstanceAs (Decidable (_ ∨ _))

instance (roleId slug : String) : Decidable (MayCarry reserved actor s₀ s roleId slug) :=
  inferInstanceAs (Decidable (_ ∨ _))

instance (userId roleId : String) : Decidable (MayAssign reserved actor s₀ s userId roleId) :=
  inferInstanceAs (Decidable (_ ∨ _))

instance (op : RoleOp) : Decidable (KeepsToAuthority reserved actor s₀ op s) :=
  match op with
  | .insertRolePermission _ permissionId =>
    inferInstanceAs (Decidable (∀ slug ∈ s.slugsOf permissionId, _))
  | .importRolePermission _ slug =>
    inferInstanceAs (Decidable (∀ permission ∈ s.permissions, permission.2 = slug →
      ∀ slug' ∈ s.slugsOf permission.1, _))
  | .insertUserRole userId roleId =>
    inferInstanceAs (Decidable (MayAssign reserved actor s₀ s userId roleId))
  | .access (.assignRole _ roleId request) =>
    inferInstanceAs (Decidable (MayAssign reserved actor s₀ s request.requesterId roleId))
  | .insertServiceAccount row => inferInstanceAs (Decidable (∀ slug ∈ row.permissionSlugs, _))
  | .insertGrant row => inferInstanceAs (Decidable (∀ slug ∈ s.slugsOf row.permissionId, _))
  | .access (.grant _ permissionId _) =>
    inferInstanceAs (Decidable (∀ slug ∈ s.slugsOf permissionId, _))
  | .read | .insertRole _ | .updateRole .. | .deleteRolePermissions _ | .access .read
  | .access (.insertAccessRequest _) | .access (.insertElevation ..) | .access (.takeElevation ..)
  | .access (.takeAccessRequest ..) | .access (.relate ..) | .access (.closeElevation ..)
  | .access (.closeAccessRequest ..) | .access (.giveUp _) => isTrue trivial

end Decisions

def sampleAssignment (roleId : String) : RoleRequest :=
  .assignUserRole "user-1" roleId (sampleActor "admin-1")

def sampleAssigned (roleId : String) : Config RoleStore RoleOp :=
  ⟨sampleRoles, [(sampleAssignment roleId).handler sampleUuid]⟩

theorem run_sampleAssigned {allowed : RoleOp → RoleStore → Prop} {roleId : String}
    {c : Config RoleStore RoleOp}
    (h : (delegationSystem sampleUuid (sampleActor "admin-1")).Run allowed (sampleAssigned roleId) c) :
    (delegationSystem sampleUuid (sampleActor "admin-1")).Run allowed ⟨sampleRoles, []⟩ c := by
  have hsend : (delegationSystem sampleUuid (sampleActor "admin-1")).sendable sampleRoles
      (sampleAssignment roleId) := Or.inr rfl
  exact (System.Run.tail .refl (.start (sampleAssignment roleId) hsend)).trans h

def hasSlug (slug : String) (s : RoleStore) : Bool :=
  s.accounts.contains sampleAccount && (s.effective s.now (.user sampleAccount)).contains slug

end Samples

end FieldserviceIT.Admin
