import FieldserviceIT.Admin.RoleEdits

/-!
What an edit of a role leaves behind when it throws. What comes of an edit is worked out from its
statements backwards: for each of them, what has to hold before it so that the edit ends as it
should after it.
-/

namespace FieldserviceIT.Admin.RoleEdits

open Common Lib Attempt AdminTables

section Whole

/-- The roles are the same, and the role has the same permissions. -/
structure Unchanged (roleId : String) (t t' : AdminTables) : Prop where
  roles : t'.roles = t.roles
  permissions : ∀ permissionId,
    permissionId ∈ t'.permissionIds roleId ↔ permissionId ∈ t.permissionIds roleId

/-- An empty slug requests nothing; without a request the permissions are those the role had. -/
def IsRequested (requested : Option (List String)) (had : List String) (slug : String) : Prop :=
  match requested with
  | none => slug ∈ had
  | some slugs => slug ∈ slugs ∧ slug ≠ ""

/-- There is the role, with the requested permissions and no others. -/
structure Granted (roleId : String) (requested : Option (List String)) (t t' : AdminTables) :
    Prop where
  exists_role : ∃ role ∈ t'.roles.rows, role.id = roleId
  permissions : ∀ slug, slug ∈ t'.carried roleId ↔ IsRequested requested (t.carried roleId) slug

inductive RoleEdit where
  | create (dto : RoleDto)
  | update (roleId : String) (dto : UpdateRoleDto) (actor : Option CurrentUser)
  | rollback (roleId historyId : String) (actor : CurrentUser)

/-- The permissions of an earlier version, if the actor may go back to it. -/
def restorable (t : AdminTables) (roleId historyId : String) (actor : CurrentUser) :
    Option (List String) :=
  ((t.auditLog.find? fun entry => entry.id = historyId && entry.resourceType = "ROLE_PERMISSIONS" &&
      entry.resourceId = roleId).filter fun entry =>
    actor.role = .superAdmin || some entry.companyId = actor.companyId).bind fun entry =>
      entry.diff.bind (·.before)

namespace RoleEdit

def perform (R : RoleServer) : RoleEdit → AdminCall Unit
  | create dto => do
      let _ ← createRole R dto
      pure ()
  | update roleId dto actor => do
      let _ ← updateRole R roleId dto actor
      pure ()
  | rollback roleId historyId actor => do
      let _ ← rollbackRolePermissions R roleId historyId actor
      pure ()

def roleId (R : RoleServer) : RoleEdit → String
  | create _ => R.roleId
  | update roleId _ _ | rollback roleId _ _ => roleId

def requested (t : AdminTables) : RoleEdit → Option (List String)
  | create dto => some dto.permissionSlugs
  | update _ dto _ => dto.permissionSlugs
  | rollback roleId historyId actor => restorable t roleId historyId actor

/-- An edit that throws has changed nothing, and one that returns has done what it was asked for. -/
def AllOrNothing (R : RoleServer) (edit : RoleEdit) (t : AdminTables) : Prop :=
  (edit.perform R).Ends (fun _ t' => Granted (edit.roleId R) (edit.requested t) t t')
    (Unchanged (edit.roleId R) t) t

end RoleEdit
end Whole

section Conditions

variable (R : RoleServer) (t : AdminTables)

/-- The permissions of the slugs; `none` where a slug is of none, or the database refuses to say. -/
def lookup (slugs : List String) : Option (List String) :=
  if slugs.any (· ≠ "") && R.refuses .findPermissions then none
  else (Admin.findPermissionsBySlugs t.permissions.rows slugs).map fun found => found.map (·.1)

def bringsAll (permissionIds : List String) : Bool :=
  permissionIds.all fun permissionId => !R.refuses (.insertPermission permissionId)

/-- The permissions that are on the role when the database refuses one. -/
def putBack (permissionIds : List String) : List String :=
  permissionIds.takeWhile fun permissionId => !R.refuses (.insertPermission permissionId)

def sameSet (ids others : List String) : Bool :=
  (ids.all fun id => others.contains id) && others.all fun id => ids.contains id

def setsRow (dto : UpdateRoleDto) : Bool :=
  truthy dto.name || dto.description.isSome

def changesRow (roleId : String) (dto : UpdateRoleDto) : Bool :=
  (t.roles.find roleId).any fun role =>
    (orNull dto.name).any (· ≠ role.name) || dto.description.any (· ≠ role.description)

def readsBack : Bool :=
  !R.refuses (.readRole .updated) && !R.refuses (.readPermissions .updated)

/-- The audit entry and the users of the role go through, where there is an actor. -/
def followsUp (actor : Option CurrentUser) : Bool :=
  actor.all fun _ => !R.refuses .insertAudit && !R.refuses .readUsers

/-- Some critical permission would be taken from users who are at work. -/
def requiresAcknowledgement (roleId : String) (slugs : List String) : Bool :=
  ((t.carried roleId).any fun slug => !(slugs.contains slug) && criticalPermissionSlugs.contains slug) &&
    !(activeUsers t roleId).isEmpty

def isInScope (roleId : String) : Option CurrentUser → Bool
  | some actor => (Admin.assertRoleScope t.roles roleId actor true).isSome
  | none => (t.roles.find roleId).isSome

/-- The analysis goes through, and what it finds is acknowledged. -/
def isAcknowledged (roleId : String) (slugs : List String) (acknowledged : Bool) : Bool :=
  !R.refuses (.readRole .analysisScope) && !R.refuses (.readRole .analysis) &&
    !R.refuses (.readPermissions .analysis) && !R.refuses .readActiveUsers &&
      (!requiresAcknowledgement t roleId slugs || acknowledged)

def isAdmitted (roleId : String) (dto : UpdateRoleDto) (actor : Option CurrentUser) : Bool :=
  !R.refuses (.readRole .scope) && isInScope t roleId actor &&
    dto.permissionSlugs.all fun slugs =>
      !R.refuses (.readRole .before) && !R.refuses (.readPermissions .before) &&
        actor.all fun _ => isAcknowledged R t roleId slugs dto.acknowledgeCriticalRemoval

/-- New permissions: from the deletion on nothing goes wrong, or what has been written by then is
what was there. -/
def isReplacementKept (roleId : String) (slugs : List String) (dto : UpdateRoleDto)
    (actor : Option CurrentUser) : Bool :=
  let old := t.permissionIds roleId
  R.refuses .deletePermissions ||
    match lookup R t slugs with
    | none => old.isEmpty
    | some ids =>
      if !bringsAll R ids then sameSet (putBack R ids) old
      else if setsRow dto && R.refuses .updateRole then sameSet ids old
      else readsBack R && followsUp R actor || sameSet ids old && !changesRow t roleId dto

def isUpdateKept (roleId : String) (dto : UpdateRoleDto) (actor : Option CurrentUser) : Bool :=
  !isAdmitted R t roleId dto actor ||
    match dto.permissionSlugs with
    | none => setsRow dto && R.refuses .updateRole || readsBack R || !changesRow t roleId dto
    | some slugs => isReplacementKept R t roleId slugs dto actor

def isCreationKept (dto : RoleDto) : Bool :=
  R.refuses .findRoles ||
    (t.roles.rows.any fun role => role.slug = dto.slug && role.companyId = orNull dto.companyId) ||
      (t.roles.rows.any fun role => role.id = R.roleId) || R.refuses .insertRole ||
        !R.refuses .readInserted && (lookup R t dto.permissionSlugs).any (bringsAll R) &&
          !R.refuses (.readRole .created) && !R.refuses (.readPermissions .created)

def RoleEdit.isKept : RoleEdit → Bool
  | create dto => isCreationKept R t dto
  | update roleId dto actor => isUpdateKept R t roleId dto actor
  | rollback roleId historyId actor =>
    R.refuses (.readRole .rollback) || !isInScope t roleId (some actor) ||
      R.refuses .findHistory || (restorable t roleId historyId actor).all fun before =>
        isUpdateKept R t roleId
          { name := none
            description := none
            permissionSlugs := some before
            acknowledgeCriticalRemoval := true }
          (some actor)

end Conditions

section Reading

variable {R : RoleServer} {t : AdminTables} {thrown : AdminTables → Prop}

theorem ends_ask {α : Type} {statement : RoleStatement} {answer : AdminTables → α}
    {returned : α → AdminTables → Prop} : (ask R statement answer).Ends returned thrown t ↔
      if R.refuses statement then thrown t else returned (answer t) t := by
  exact ends_demand

theorem ends_write {statement : RoleStatement} {change : AdminTables → AdminTables}
    {returned : Unit → AdminTables → Prop} : (write R statement change).Ends returned thrown t ↔
      if R.refuses statement then thrown t else returned () (change t) := by
  exact ends_demand

theorem forall_some {α : Type} {a : α} {P : α → Prop} : (∀ b, some a = some b → P b) ↔ P a :=
  ⟨fun h => h a rfl, fun h _ hb => Option.some.inj hb ▸ h⟩

theorem ends_ask_of_thrown {α : Type} {statement : RoleStatement} {answer : AdminTables → α}
    {returned : α → AdminTables → Prop} (hthrown : thrown t) :
    (ask R statement answer).Ends returned thrown t ↔
      (R.refuses statement = false → returned (answer t) t) := by
  rw [ends_ask]
  cases R.refuses statement with
  | false => exact ⟨fun h _ => h, fun h => h rfl⟩
  | true => exact iff_of_true hthrown (fun h => by cases h)

theorem ends_readRole {place : Place} {roleId : String} {returned : TenantRole → AdminTables → Prop}
    (hthrown : thrown t) : (readRole R place roleId).Ends returned thrown t ↔
      (R.refuses (.readRole place) = false → ∀ role, t.roles.find roleId = some role → returned role t) := by
  rw [readRole, ends_bind, ends_ask_of_thrown hthrown]
  refine imp_congr_right fun _ => ?_
  cases t.roles.find roleId with
  | none => exact iff_of_true hthrown (fun role h => by cases h)
  | some role => simp

theorem ends_getRole {place : Place} {roleId : String} {returned : RoleView → AdminTables → Prop}
    (hthrown : thrown t) : (getRole R place roleId).Ends returned thrown t ↔
      (R.refuses (.readRole place) = false → R.refuses (.readPermissions place) = false →
        ∀ role, t.roles.find roleId = some role → returned ⟨role, t.carried roleId⟩ t) := by
  rw [getRole, ends_bind, ends_readRole hthrown]
  simp only [ends_bind, ends_ask_of_thrown hthrown, ends_pure]
  exact imp_congr_right fun _ => ⟨fun h hread role hrole => h role hrole hread,
    fun h role hrole hread => h hread role hrole⟩

theorem ends_assertRoleScope {place : Place} {roleId : String} {actor : CurrentUser}
    {requireEditable : Bool} {returned : TenantRole → AdminTables → Prop} (hthrown : thrown t) :
    (assertRoleScope R place roleId actor requireEditable).Ends returned thrown t ↔
      (R.refuses (.readRole place) = false → ∀ role,
        Admin.assertRoleScope t.roles roleId actor requireEditable = some role → returned role t) := by
  rw [assertRoleScope, ends_bind, ends_readRole hthrown, Admin.assertRoleScope]
  refine imp_congr_right fun _ => ?_
  cases t.roles.find roleId with
  | none => exact iff_of_true (fun role h => by cases h) (fun role h => by cases h)
  | some role =>
    rw [Option.filter_some, forall_some]
    by_cases hsuper : actor.role = .superAdmin
    · rw [if_pos hsuper, decide_eq_true hsuper, Bool.true_or, if_pos rfl, ends_pure, forall_some]
    rw [if_neg hsuper, decide_eq_false hsuper, Bool.false_or]
    generalize (requireEditable && role.isSystem) = system
    generalize (truthy role.companyId && decide (role.companyId ≠ actor.companyId)) = foreign
    generalize (requireEditable && decide (role.companyId ≠ actor.companyId)) = unowned
    cases system with
    | true => exact iff_of_true hthrown (fun other h => by cases h)
    | false =>
      cases foreign with
      | true => exact iff_of_true hthrown (fun other h => by cases h)
      | false =>
        cases unowned with
        | true => exact iff_of_true hthrown (fun other h => by cases h)
        | false => exact (@forall_some _ role fun role => returned role t).symm

theorem critical_removed (before after : List String) :
    (!(((before.eraseDups.filter fun slug => !(after.contains slug)).filter fun slug =>
      criticalPermissionSlugs.contains slug).isEmpty)) =
        before.any fun slug => !(after.contains slug) && criticalPermissionSlugs.contains slug := by
  rw [List.filter_filter, Bool.eq_iff_iff, List.any_eq_true, Bool.not_eq_true', Bool.eq_false_iff,
    ne_eq, List.isEmpty_iff, List.filter_eq_nil_iff]
  constructor
  · intro h
    by_contra hnone
    refine h fun slug hslug hcritical => hnone ⟨slug, List.mem_eraseDups.mp hslug, ?_⟩
    rwa [Bool.and_comm]
  · rintro ⟨slug, hslug, hcritical⟩ h
    rw [Bool.and_comm] at hcritical
    exact h slug (List.mem_eraseDups.mpr hslug) hcritical

theorem ends_assertAcknowledged {roleId : String} {slugs : List String} {acknowledged : Bool}
    {actor : CurrentUser} {returned : AdminTables → Prop} (hthrown : thrown t)
    (hscope : isInScope t roleId (some actor) = true) :
    (assertAcknowledged R roleId slugs acknowledged actor).Ends (fun _ => returned) thrown t ↔
      (isAcknowledged R t roleId slugs acknowledged = true → returned t) := by
  obtain ⟨role, hrole⟩ := Option.isSome_iff_exists.mp hscope
  have hfound : t.roles.find roleId = some role := (Option.filter_eq_some_iff.mp hrole).1
  rw [assertAcknowledged, analyzePermissionChange, ends_bind, ends_bind, ends_assertRoleScope hthrown,
    hrole, forall_some, ends_bind, ends_getRole hthrown, hfound, forall_some, ends_bind,
    ends_ask_of_thrown hthrown, ends_pure, analysisOf]
  dsimp only
  rw [critical_removed, ← requiresAcknowledgement, isAcknowledged]
  cases R.refuses (.readRole .analysisScope) with
  | true => simp
  | false =>
    cases R.refuses (.readRole .analysis) with
    | true => simp
    | false =>
      cases R.refuses (.readPermissions .analysis) with
      | true => simp
      | false =>
        cases R.refuses .readActiveUsers with
        | true => simp
        | false =>
          cases requiresAcknowledgement t roleId slugs with
          | false => simp
          | true =>
            cases acknowledged with
            | false => simpa using hthrown
            | true => simp

end Reading

section Writing

variable {R : RoleServer} {t : AdminTables} {returned thrown : AdminTables → Prop}

theorem unique_isEmpty (slugs : List String) :
    (slugs.filter (· ≠ "")).eraseDups.isEmpty = !(slugs.any (· ≠ "")) := by
  rw [Bool.eq_iff_iff, List.isEmpty_iff, Bool.not_eq_true', List.any_eq_false,
    List.eq_nil_iff_forall_not_mem]
  constructor
  · intro h slug hslug hne
    exact h slug (List.mem_eraseDups.mpr (List.mem_filter.mpr ⟨hslug, hne⟩))
  · intro h slug hslug
    obtain ⟨hmem, hne⟩ := List.mem_filter.mp (List.mem_eraseDups.mp hslug)
    exact h slug hmem hne

theorem missing_isEmpty (slugs : List String) (found : List (String × String)) :
    (slugs.filter fun slug => !(found.any fun permission => permission.2 = slug)).isEmpty =
      slugs.all fun slug => found.any fun permission => permission.2 = slug := by
  rw [Bool.eq_iff_iff, List.isEmpty_iff, List.filter_eq_nil_iff, List.all_eq_true]
  exact forall₂_congr fun slug _ => by rw [Bool.not_eq_true', Bool.not_eq_false]

theorem ends_findPermissionsBySlugs {slugs : List String} {P : List String → AdminTables → Prop} :
    (findPermissionsBySlugs R slugs).Ends (fun permissions => P (permissions.map (·.1))) thrown t ↔
      (lookup R t slugs = none → thrown t) ∧ ∀ ids, lookup R t slugs = some ids → P ids t := by
  rw [findPermissionsBySlugs, lookup, Admin.findPermissionsBySlugs]
  dsimp only
  rw [unique_isEmpty]
  by_cases hany : (slugs.any (· ≠ "")) = true
  · rw [hany, Bool.not_true, if_neg Bool.false_ne_true, Bool.true_and, ends_bind, ends_ask]
    cases R.refuses .findPermissions with
    | true => simp
    | false =>
      rw [if_neg Bool.false_ne_true, if_neg Bool.false_ne_true, missing_isEmpty]
      split
      next => simp
      next => simp
  · have hnone : (slugs.filter (· ≠ "")).eraseDups = [] := by
      rw [← List.isEmpty_iff, unique_isEmpty, Bool.not_eq_true', ← Bool.not_eq_true]
      exact hany
    rw [Bool.not_eq_true] at hany
    rw [hany, hnone]
    simp

theorem ends_addPermissions {roleId : String} {slugs : List String} :
    (addPermissions R roleId slugs).Ends (fun _ => returned) thrown t ↔
      (lookup R t slugs = none → thrown t) ∧ ∀ ids, lookup R t slugs = some ids →
        (createMany R roleId ids).Ends (fun _ => returned) thrown t := by
  rw [addPermissions]
  cases slugs with
  | nil =>
    have hlookup : lookup R t [] = some [] := by
      rw [lookup, Admin.findPermissionsBySlugs]
      simp
    rw [hlookup, forall_some]
    exact (and_iff_right (fun h => by cases h)).symm
  | cons slug slugs =>
    rw [List.isEmpty_cons, if_neg Bool.false_ne_true, ends_bind]
    exact @ends_findPermissionsBySlugs R t thrown _
      fun ids t => (createMany R roleId ids).Ends (fun _ => returned) thrown t

def withPermissions (t : AdminTables) (roleId : String) (ids : List String) : AdminTables :=
  { t with rolePermissions := t.rolePermissions ++ ids.map fun id => (roleId, id) }

theorem ends_insertRolePermission {roleId id : String} (hnew : (roleId, id) ∉ t.rolePermissions) :
    (insertRolePermission R roleId id).Ends (fun _ => returned) thrown t ↔
      if R.refuses (.insertPermission id) then thrown t else returned (withPermissions t roleId [id]) := by
  rw [insertRolePermission, ends_bind, ends_gets, if_neg (by rwa [List.contains_iff_mem]), ends_write]
  rfl

theorem ends_createMany {roleId : String} {ids : List String} (hdistinct : ids.Nodup)
    (hnew : ∀ id ∈ ids, (roleId, id) ∉ t.rolePermissions) :
    (createMany R roleId ids).Ends (fun _ => returned) thrown t ↔
      if bringsAll R ids then returned (withPermissions t roleId ids)
      else thrown (withPermissions t roleId (putBack R ids)) := by
  induction ids generalizing t with
  | nil => simp [createMany, bringsAll, withPermissions]
  | cons id rest ih =>
    obtain ⟨hhead, hrest⟩ := List.nodup_cons.mp hdistinct
    rw [createMany, ends_bind, ends_insertRolePermission (hnew id (.head _)), bringsAll,
      List.all_cons, putBack, List.takeWhile_cons]
    cases R.refuses (.insertPermission id) with
    | true => simp [withPermissions]
    | false =>
      have hfresh : ∀ other ∈ rest, (roleId, other) ∉ (withPermissions t roleId [id]).rolePermissions := by
        intro other hother
        simp only [withPermissions, List.map_singleton, List.mem_append, List.mem_singleton,
          Prod.mk.injEq, true_and, not_or]
        exact ⟨hnew other (.tail _ hother), fun heq => hhead (heq ▸ hother)⟩
      rw [if_neg Bool.false_ne_true, ih hrest hfresh, Bool.not_false, Bool.true_and, if_pos rfl,
        ← bringsAll, ← putBack]
      simp only [withPermissions, List.append_assoc, List.map_cons, List.map_nil,
        List.singleton_append]

def withRow (t : AdminTables) (roleId : String) (dto : UpdateRoleDto) : AdminTables :=
  { t with roles := t.roles.rename roleId (orNull dto.name) dto.description }

theorem map_same {rows : List TenantRole} {change : TenantRole → TenantRole}
    (h : ∀ role ∈ rows, change role = role) : rows.map change = rows :=
  (List.map_congr_left h).trans (List.map_id rows)

theorem table_eq {a b : RoleTable} (h : a.rows = b.rows) : a = b := by
  cases a
  cases b
  cases h
  rfl

theorem withRow_of_not_setsRow {roleId : String} {dto : UpdateRoleDto} (h : setsRow dto = false) :
    withRow t roleId dto = t := by
  rw [setsRow, Bool.or_eq_false_iff] at h
  obtain ⟨hname, hdescription⟩ := h
  have hroles : t.roles.rename roleId (orNull dto.name) dto.description = t.roles := by
    refine table_eq (map_same fun role _ => ?_)
    rw [orNull, hname, if_neg Bool.false_ne_true, Option.isSome_eq_false_iff.mp hdescription |>
      Option.isNone_iff_eq_none.mp]
    split
    · rfl
    · rfl
  rw [withRow, hroles]

theorem find_rename_isSome {roles : RoleTable} {roleId : String} {name : Option String}
    {description : Option (Option String)} (h : (roles.find roleId).isSome = true) :
    ((roles.rename roleId name description).find roleId).isSome = true := by
  obtain ⟨role, hrole⟩ := Option.isSome_iff_exists.mp h
  obtain ⟨row, hrow, hid, -⟩ := RoleTable.exists_rename roleId name description
    (List.mem_of_find?_eq_some hrole)
  have hroleId : role.id = roleId := by
    have hsome := List.find?_some hrole
    exact of_decide_eq_true hsome
  rw [RoleTable.find, List.find?_isSome]
  exact ⟨row, hrow, decide_eq_true (hid.trans hroleId)⟩

theorem ends_readUpdated {roleId : String} (hrole : (t.roles.find roleId).isSome = true) :
    (readUpdated R roleId).Ends (fun _ => returned) thrown t ↔
      if readsBack R then returned t else thrown t := by
  obtain ⟨role, hfound⟩ := Option.isSome_iff_exists.mp hrole
  rw [readUpdated, ends_bind, ends_ask, hfound, readsBack]
  dsimp only
  rw [ends_bind, ends_ask]
  cases R.refuses (.readRole .updated) with
  | true => exact Iff.rfl
  | false =>
    cases R.refuses (.readPermissions .updated) with
    | true => exact Iff.rfl
    | false => exact Iff.rfl

theorem ends_updateRow {roleId : String} {dto : UpdateRoleDto}
    (hrole : (t.roles.find roleId).isSome = true) :
    (updateRow R roleId dto).Ends (fun _ => returned) thrown t ↔
      if setsRow dto && R.refuses .updateRole then thrown t
      else if readsBack R then returned (withRow t roleId dto)
      else thrown (withRow t roleId dto) := by
  rw [updateRow, ends_bind, setRow, ← setsRow]
  cases hsets : setsRow dto with
  | false =>
    rw [if_neg Bool.false_ne_true, Bool.false_and, if_neg Bool.false_ne_true, ends_pure,
      ends_readUpdated hrole, withRow_of_not_setsRow hsets]
  | true =>
    rw [if_pos rfl, Bool.true_and, ends_write]
    cases R.refuses .updateRole with
    | true => exact Iff.rfl
    | false => exact ends_readUpdated (find_rename_isSome hrole)

theorem ends_afterwards {actor : CurrentUser} {role : TenantRole} {before after : List String}
    (hreturned : ∀ users sessions auditLog, returned
      { t with
        users := users
        sessions := sessions
        auditLog := auditLog } ↔ returned t)
    (hthrown : ∀ auditLog, thrown { t with auditLog := auditLog } ↔ thrown t) :
    (afterwards R actor role before after).Ends (fun _ => returned) thrown t ↔
      if followsUp R (some actor) then returned t else thrown t := by
  rw [afterwards, recordPermissionAudit, ends_bind, ends_write, ends_bind, ends_ask, followsUp,
    Option.all_some]
  cases R.refuses .insertAudit with
  | true => exact Iff.rfl
  | false =>
    cases R.refuses .readUsers with
    | true => exact hthrown _
    | false =>
      refine (ends_revokeSessionsForUsers fun users sessions => ?_).trans
        (hreturned t.users t.sessions _)
      exact (hreturned users sessions _).trans (hreturned t.users t.sessions _).symm

def replaced (t : AdminTables) (roleId : String) (ids : List String) : AdminTables :=
  withPermissions
    { t with rolePermissions := t.rolePermissions.filter fun entry => entry.1 ≠ roleId } roleId ids

theorem lookup_nodup {slugs ids : List String} (h : lookup R t slugs = some ids) : ids.Nodup := by
  rw [lookup] at h
  split at h
  · cases h
  · obtain ⟨found, hfound, rfl⟩ := Option.map_eq_some_iff.mp h
    rw [Admin.findPermissionsBySlugs] at hfound
    split at hfound
    · obtain rfl := Option.some.inj hfound
      exact t.permissions.distinctIds.sublist (List.filter_sublist.map _)
    · cases hfound

theorem ends_replacePermissions {roleId : String} {slugs : List String} :
    (replacePermissions R roleId slugs).Ends (fun _ => returned) thrown t ↔
      if R.refuses .deletePermissions then thrown t
      else (lookup R t slugs = none → thrown (replaced t roleId [])) ∧
        ∀ ids, lookup R t slugs = some ids →
          if bringsAll R ids then returned (replaced t roleId ids)
          else thrown (replaced t roleId (putBack R ids)) := by
  rw [replacePermissions, ends_bind, ends_write]
  cases R.refuses .deletePermissions with
  | true => exact Iff.rfl
  | false =>
    rw [if_neg Bool.false_ne_true, if_neg Bool.false_ne_true, ends_addPermissions]
    refine and_congr ?_ (forall_congr' fun ids => forall_congr' fun hlookup => ?_)
    · rw [replaced, withPermissions, List.map_nil, List.append_nil]
      exact Iff.rfl
    · refine ends_createMany (lookup_nodup hlookup) fun id _ hmem => ?_
      exact absurd rfl (of_decide_eq_true (List.mem_filter.mp hmem).2)

theorem mem_permissionIds {roleId id : String} :
    id ∈ t.permissionIds roleId ↔ (roleId, id) ∈ t.rolePermissions := by
  rw [permissionIds, List.mem_map]
  constructor
  · rintro ⟨⟨role, id'⟩, hentry, rfl⟩
    obtain ⟨hmem, hrole⟩ := List.mem_filter.mp hentry
    exact of_decide_eq_true hrole ▸ hmem
  · intro h
    exact ⟨(roleId, id), List.mem_filter.mpr ⟨h, decide_eq_true rfl⟩, rfl⟩

theorem mem_permissionIds_with {roleId id : String} {ids : List String} :
    id ∈ (withPermissions t roleId ids).permissionIds roleId ↔ id ∈ t.permissionIds roleId ∨ id ∈ ids := by
  rw [mem_permissionIds, mem_permissionIds, withPermissions, List.mem_append, List.mem_map]
  refine or_congr_right ⟨?_, fun h => ⟨id, h, rfl⟩⟩
  rintro ⟨id', hid, heq⟩
  exact (Prod.mk.inj heq).2 ▸ hid

theorem mem_permissionIds_replaced {roleId id : String} {ids : List String} :
    id ∈ (replaced t roleId ids).permissionIds roleId ↔ id ∈ ids := by
  rw [replaced, mem_permissionIds_with, or_iff_right]
  intro h
  exact absurd rfl (of_decide_eq_true (List.mem_filter.mp (mem_permissionIds.mp h)).2)

theorem mem_carried {roleId slug : String} : slug ∈ t.carried roleId ↔
    ∃ id ∈ t.permissionIds roleId, (id, slug) ∈ t.permissions.rows := by
  rw [carried, List.mem_flatMap]
  refine exists_congr fun id => and_congr_right fun _ => ?_
  rw [List.mem_map]
  constructor
  · rintro ⟨⟨id', slug'⟩, hrow, rfl⟩
    obtain ⟨hmem, hid⟩ := List.mem_filter.mp hrow
    exact of_decide_eq_true hid ▸ hmem
  · intro h
    exact ⟨(id, slug), List.mem_filter.mpr ⟨h, decide_eq_true rfl⟩, rfl⟩

theorem exists_lookup_iff {slugs ids : List String} (h : lookup R t slugs = some ids) (slug : String) :
    (∃ id ∈ ids, (id, slug) ∈ t.permissions.rows) ↔ slug ∈ slugs ∧ slug ≠ "" := by
  rw [lookup] at h
  split at h
  · cases h
  obtain ⟨found, hfound, rfl⟩ := Option.map_eq_some_iff.mp h
  rw [Admin.findPermissionsBySlugs] at hfound
  split at hfound
  next hall =>
    obtain rfl := Option.some.inj hfound
    have hunique : ∀ slug, slug ∈ (slugs.filter (· ≠ "")).eraseDups ↔ slug ∈ slugs ∧ slug ≠ "" := by
      intro slug
      rw [List.mem_eraseDups, List.mem_filter, decide_eq_true_eq]
    constructor
    · rintro ⟨id, hid, hrow⟩
      obtain ⟨⟨id', slug'⟩, hmem, rfl⟩ := List.mem_map.mp hid
      obtain ⟨hrow', hcontains⟩ := List.mem_filter.mp hmem
      have hsame := List.inj_on_of_nodup_map t.permissions.distinctIds hrow hrow' rfl
      rw [(Prod.mk.inj hsame).2, ← hunique]
      exact List.contains_iff_mem.mp hcontains
    · intro hrequested
      have hany := List.all_eq_true.mp hall slug ((hunique slug).mpr hrequested)
      obtain ⟨⟨id, slug'⟩, hmem, hslug⟩ := List.any_eq_true.mp hany
      obtain rfl : slug' = slug := of_decide_eq_true hslug
      exact ⟨id, List.mem_map.mpr ⟨_, hmem, rfl⟩, (List.mem_filter.mp hmem).1⟩
  next => cases hfound

end Writing

section Leaving

variable {R : RoleServer} {t : AdminTables} {roleId : String} {dto : UpdateRoleDto}

theorem sameSet_iff {ids others : List String} :
    sameSet ids others = true ↔ ∀ id, id ∈ ids ↔ id ∈ others := by
  simp only [sameSet, Bool.and_eq_true, List.all_eq_true, List.contains_iff_mem]
  constructor
  · intro h id
    exact ⟨h.1 id, h.2 id⟩
  · intro h
    exact ⟨fun id => (h id).mp, fun id => (h id).mpr⟩

theorem find_iff {role : TenantRole} :
    t.roles.find roleId = some role ↔ role ∈ t.roles.rows ∧ role.id = roleId := by
  constructor
  · intro h
    have hsome := List.find?_some h
    exact ⟨List.mem_of_find?_eq_some h, of_decide_eq_true hsome⟩
  · rintro ⟨hmem, rfl⟩
    have hfound : (t.roles.find role.id).isSome = true :=
      List.find?_isSome.mpr ⟨role, hmem, decide_eq_true rfl⟩
    obtain ⟨other, hother⟩ := Option.isSome_iff_exists.mp hfound
    have hsome := List.find?_some hother
    rw [hother, RoleTable.eq_of_id (List.mem_of_find?_eq_some hother) hmem (of_decide_eq_true hsome)]

theorem withRow_roles_iff :
    (withRow t roleId dto).roles = t.roles ↔ changesRow t roleId dto = false := by
  have hrows : (withRow t roleId dto).roles = t.roles ↔
      (withRow t roleId dto).roles.rows = t.roles.rows := ⟨congrArg _, table_eq⟩
  rw [hrows, changesRow, Bool.eq_false_iff, ne_eq, Option.any_eq_true]
  have hmap : (withRow t roleId dto).roles.rows = t.roles.rows ↔ ∀ role ∈ t.roles.rows,
      (if role.id = roleId then
        { role with
          name := (orNull dto.name).getD role.name
          description := dto.description.getD role.description }
      else role) = role := by
    have hinj := @List.map_inj_left _ _ t.roles.rows (fun role : TenantRole => if role.id = roleId then
        { role with
          name := (orNull dto.name).getD role.name
          description := dto.description.getD role.description }
      else role) id
    rw [List.map_id] at hinj
    exact hinj
  rw [hmap]
  constructor
  · rintro h ⟨role, hfound, hchanges⟩
    obtain ⟨hmem, hid⟩ := find_iff.mp hfound
    have hsame := h role hmem
    rw [if_pos hid] at hsame
    have hname : (orNull dto.name).getD role.name = role.name := congrArg TenantRole.name hsame
    have hdescription : dto.description.getD role.description = role.description :=
      congrArg TenantRole.description hsame
    obtain hchanges | hchanges := Bool.or_eq_true _ _ |>.mp hchanges
    · obtain ⟨name, hgiven, hne⟩ := (Option.any_eq_true _ _).mp hchanges
      rw [hgiven, Option.getD_some] at hname
      exact absurd hname (of_decide_eq_true hne)
    · obtain ⟨description, hgiven, hne⟩ := (Option.any_eq_true _ _).mp hchanges
      rw [hgiven, Option.getD_some] at hdescription
      exact absurd hdescription (of_decide_eq_true hne)
  · intro h role hmem
    split
    next hid =>
      have hsame : ((orNull dto.name).any (· ≠ role.name) ||
          dto.description.any (· ≠ role.description)) = false :=
        Bool.eq_false_iff.mpr fun hchanges => h ⟨role, find_iff.mpr ⟨hmem, hid⟩, hchanges⟩
      obtain ⟨hname, hdescription⟩ := Bool.or_eq_false_iff.mp hsame
      have hname' : (orNull dto.name).getD role.name = role.name := by
        cases hgiven : orNull dto.name with
        | none => rfl
        | some name =>
          rw [hgiven, Option.any_some, decide_eq_false_iff_not, not_not] at hname
          exact hname
      have hdescription' : dto.description.getD role.description = role.description := by
        cases hgiven : dto.description with
        | none => rfl
        | some description =>
          rw [hgiven, Option.any_some, decide_eq_false_iff_not, not_not] at hdescription
          exact hdescription
      rw [hname', hdescription']
    next => rfl

theorem unchanged_refl : Unchanged roleId t t :=
  ⟨rfl, fun _ => Iff.rfl⟩

theorem unchanged_replaced_iff {ids : List String} :
    Unchanged roleId t (replaced t roleId ids) ↔ sameSet ids (t.permissionIds roleId) = true := by
  rw [sameSet_iff]
  constructor
  · intro h id
    exact mem_permissionIds_replaced.symm.trans (h.permissions id)
  · intro h
    exact ⟨rfl, fun id => mem_permissionIds_replaced.trans (h id)⟩

theorem unchanged_withRow_iff :
    Unchanged roleId t (withRow t roleId dto) ↔ changesRow t roleId dto = false := by
  rw [← withRow_roles_iff]
  exact ⟨fun h => h.roles, fun h => ⟨h, fun _ => Iff.rfl⟩⟩

theorem unchanged_withRow_replaced_iff {ids : List String} :
    Unchanged roleId t (withRow (replaced t roleId ids) roleId dto) ↔
      sameSet ids (t.permissionIds roleId) = true ∧ changesRow t roleId dto = false := by
  rw [← withRow_roles_iff, ← unchanged_replaced_iff]
  constructor
  · intro h
    exact ⟨⟨rfl, h.permissions⟩, h.roles⟩
  · rintro ⟨hreplaced, hroles⟩
    exact ⟨hroles, hreplaced.permissions⟩

theorem exists_withRow (hrole : (t.roles.find roleId).isSome = true) :
    ∃ role ∈ (withRow t roleId dto).roles.rows, role.id = roleId := by
  obtain ⟨role, hfound⟩ := Option.isSome_iff_exists.mp hrole
  obtain ⟨hmem, hid⟩ := find_iff.mp hfound
  obtain ⟨row, hrow, hsame, -⟩ :=
    RoleTable.exists_rename roleId (orNull dto.name) dto.description hmem
  exact ⟨row, hrow, hsame.trans hid⟩

theorem granted_withRow (hrole : (t.roles.find roleId).isSome = true) :
    Granted roleId none t (withRow t roleId dto) :=
  ⟨exists_withRow hrole, fun _ => Iff.rfl⟩

theorem granted_replaced {slugs ids : List String} (hlookup : lookup R t slugs = some ids)
    (hrole : (t.roles.find roleId).isSome = true) :
    Granted roleId (some slugs) t (withRow (replaced t roleId ids) roleId dto) := by
  refine ⟨exists_withRow hrole, fun slug => mem_carried.trans ?_⟩
  rw [IsRequested, ← exists_lookup_iff hlookup slug]
  exact exists_congr fun id => and_congr_left fun _ => mem_permissionIds_replaced

end Leaving
end FieldserviceIT.Admin.RoleEdits
