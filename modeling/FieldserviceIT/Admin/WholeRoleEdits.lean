import FieldserviceIT.Admin.RoleEditOutcomes

/-!
When an edit of a role is all or nothing: exactly if it is turned away before it writes, if nothing
goes wrong after that, or if what has been written when something does is what was there before.
-/

namespace FieldserviceIT.Admin.RoleEdits

open Common Lib Attempt AdminTables

section Updates

variable {R : RoleServer} {t : AdminTables} {returned thrown : AdminTables → Prop} {roleId : String}
  {dto : UpdateRoleDto}

theorem ends_editedRole {actor : Option CurrentUser} {P : TenantRole → AdminTables → Prop}
    (hthrown : thrown t) : (editedRole R roleId actor).Ends P thrown t ↔
      (R.refuses (.readRole .scope) = false → isInScope t roleId actor = true →
        ∀ role, t.roles.find roleId = some role → P role t) := by
  cases actor with
  | none =>
    rw [editedRole, ends_readRole hthrown]
    refine imp_congr_right fun _ => ⟨fun h _ => h, fun h role hrole => h ?_ role hrole⟩
    rw [isInScope, hrole, Option.isSome_some]
  | some actor =>
    rw [editedRole, ends_assertRoleScope hthrown]
    refine imp_congr_right fun _ => ?_
    rw [isInScope, Admin.assertRoleScope]
    constructor
    · intro h hscope role hrole
      refine h role ?_
      rw [hrole] at hscope ⊢
      obtain ⟨role', hrole'⟩ := Option.isSome_iff_exists.mp hscope
      obtain rfl := Option.some.inj (Option.filter_eq_some_iff.mp hrole').1
      exact hrole'
    · intro h role hrole
      exact h (hrole ▸ rfl) role (Option.filter_eq_some_iff.mp hrole).1

theorem find_of_isInScope {actor : Option CurrentUser} (h : isInScope t roleId actor = true) :
    (t.roles.find roleId).isSome = true := by
  cases actor with
  | none => exact h
  | some actor =>
    obtain ⟨role, hrole⟩ := Option.isSome_iff_exists.mp h
    rw [(Option.filter_eq_some_iff.mp hrole).1]
    rfl

theorem ends_onBehalf_afterwards {actor : Option CurrentUser} {role : TenantRole}
    {before after : List String} {view : Option RoleView}
    (hreturned : ∀ users sessions auditLog, returned
      { t with
        users := users
        sessions := sessions
        auditLog := auditLog } ↔ returned t)
    (hthrown : ∀ auditLog, thrown { t with auditLog := auditLog } ↔ thrown t) :
    ((onBehalf actor fun actor => afterwards R actor role before after) >>= fun _ =>
      (pure view : AdminCall (Option RoleView))).Ends (fun _ => returned) thrown t ↔
        if followsUp R actor then returned t else thrown t := by
  rw [ends_bind]
  cases actor with
  | none => exact Iff.rfl
  | some actor => exact ends_afterwards hreturned hthrown

theorem ends_onBehalf_assertAcknowledged {actor : Option CurrentUser} {slugs : List String}
    {acknowledged : Bool} (hthrown : thrown t) (hscope : isInScope t roleId actor = true) :
    (onBehalf actor fun actor => assertAcknowledged R roleId slugs acknowledged actor).Ends
      (fun _ => returned) thrown t ↔
        ((actor.all fun _ => isAcknowledged R t roleId slugs acknowledged) = true → returned t) := by
  cases actor with
  | none => exact ⟨fun h _ => h, fun h => h rfl⟩
  | some actor => exact ends_assertAcknowledged hthrown hscope

theorem ends_updateRole {actor : Option CurrentUser}
    (hreturned : ∀ t users sessions auditLog, returned
      { t with
        users := users
        sessions := sessions
        auditLog := auditLog } ↔ returned t)
    (hstable : ∀ t auditLog, thrown { t with auditLog := auditLog } ↔ thrown t) (hthrown : thrown t) :
    (updateRole R roleId dto actor).Ends (fun _ => returned) thrown t ↔
      (isAdmitted R t roleId dto actor = true →
        (dto.permissionSlugs = none →
          (updateRow R roleId dto).Ends (fun _ => returned) thrown t) ∧
        ∀ slugs, dto.permissionSlugs = some slugs →
          (replacePermissions R roleId slugs).Ends (fun _ t' => (updateRow R roleId dto).Ends
            (fun _ t'' => if followsUp R actor then returned t'' else thrown t'') thrown t') thrown t) := by
  rw [updateRole, ends_bind, ends_editedRole hthrown, isAdmitted]
  cases R.refuses (.readRole .scope) with
  | true => simp
  | false =>
    cases hscope : isInScope t roleId actor with
    | false => simp
    | true =>
      obtain ⟨role, hrole⟩ := Option.isSome_iff_exists.mp (find_of_isInScope hscope)
      rw [hrole, forall_some]
      cases dto.permissionSlugs with
      | none => simp
      | some slugs =>
        have hrest : ∀ (before : List String) (t' : AdminTables),
            ((updateRow R roleId dto >>= fun updated =>
              (onBehalf actor fun actor => afterwards R actor role
                (sorted before) (sorted slugs)) >>= fun _ =>
                  (pure updated : AdminCall (Option RoleView))).Ends
                    (fun _ => returned) thrown t') ↔
              (updateRow R roleId dto).Ends
                (fun _ t'' => if followsUp R actor then returned t'' else thrown t'') thrown t' := by
          intro before t'
          rw [ends_bind]
          simp only [ends_onBehalf_afterwards (hreturned _) (hstable _)]
        dsimp only
        rw [ends_bind, ends_getRole hthrown, hrole, forall_some, ends_bind,
          ends_onBehalf_assertAcknowledged hthrown hscope, ends_bind, forall_some]
        simp only [hrest, Option.all_some]
        cases R.refuses (.readRole .before) with
        | true => simp
        | false =>
          cases R.refuses (.readPermissions .before) with
          | true => simp
          | false => simp

theorem granted_stable {requested : Option (List String)} (t' : AdminTables) (users : List User)
    (sessions : List UserSession) (auditLog : List AuditEntry) :
    Granted roleId requested t
      { t' with
        users := users
        sessions := sessions
        auditLog := auditLog } ↔ Granted roleId requested t t' :=
  ⟨fun h => ⟨h.exists_role, h.permissions⟩, fun h => ⟨h.exists_role, h.permissions⟩⟩

theorem unchanged_stable (t' : AdminTables) (auditLog : List AuditEntry) :
    Unchanged roleId t { t' with auditLog := auditLog } ↔ Unchanged roleId t t' :=
  ⟨fun h => ⟨h.roles, h.permissions⟩, fun h => ⟨h.roles, h.permissions⟩⟩

theorem row_kept_iff (hrole : (t.roles.find roleId).isSome = true) :
    (updateRow R roleId dto).Ends (fun _ => Granted roleId none t) (Unchanged roleId t) t ↔
      (setsRow dto && R.refuses .updateRole || readsBack R || !changesRow t roleId dto) = true := by
  rw [ends_updateRow hrole]
  cases setsRow dto && R.refuses .updateRole with
  | true => exact iff_of_true unchanged_refl rfl
  | false =>
    cases readsBack R with
    | true => exact iff_of_true (granted_withRow hrole) rfl
    | false =>
      rw [if_neg Bool.false_ne_true, if_neg Bool.false_ne_true, unchanged_withRow_iff]
      simp

theorem replaced_kept_iff {actor : Option CurrentUser} {slugs ids : List String}
    (hlookup : lookup R t slugs = some ids) (hrole : (t.roles.find roleId).isSome = true) :
    (updateRow R roleId dto).Ends
      (fun _ t'' => if followsUp R actor then Granted roleId (some slugs) t t'' else Unchanged roleId t t'')
      (Unchanged roleId t) (replaced t roleId ids) ↔
        (if setsRow dto && R.refuses .updateRole then sameSet ids (t.permissionIds roleId)
        else readsBack R && followsUp R actor ||
          sameSet ids (t.permissionIds roleId) && !changesRow t roleId dto) = true := by
  rw [@ends_updateRow R (replaced t roleId ids) _ _ roleId dto hrole]
  cases setsRow dto && R.refuses .updateRole with
  | true => exact unchanged_replaced_iff
  | false =>
    have hleft := @unchanged_withRow_replaced_iff t roleId dto ids
    rw [if_neg Bool.false_ne_true, if_neg Bool.false_ne_true]
    cases readsBack R with
    | false =>
      rw [if_neg Bool.false_ne_true, hleft]
      simp
    | true =>
      cases followsUp R actor with
      | true => exact iff_of_true (granted_replaced hlookup hrole) rfl
      | false =>
        rw [if_pos rfl, if_neg Bool.false_ne_true, hleft]
        simp

theorem replacement_kept_iff {actor : Option CurrentUser} {slugs : List String}
    (hrole : (t.roles.find roleId).isSome = true) :
    (replacePermissions R roleId slugs).Ends (fun _ t' => (updateRow R roleId dto).Ends
        (fun _ t'' =>
          if followsUp R actor then Granted roleId (some slugs) t t'' else Unchanged roleId t t'')
        (Unchanged roleId t) t') (Unchanged roleId t) t ↔
      isReplacementKept R t roleId slugs dto actor = true := by
  rw [@ends_replacePermissions R t _ (Unchanged roleId t) roleId slugs, isReplacementKept]
  cases R.refuses .deletePermissions with
  | true => exact iff_of_true unchanged_refl rfl
  | false =>
    rw [if_neg Bool.false_ne_true, Bool.false_or]
    cases hlookup : lookup R t slugs with
    | none =>
      have hempty : sameSet [] (t.permissionIds roleId) = (t.permissionIds roleId).isEmpty := by
        cases t.permissionIds roleId with
        | nil => rfl
        | cons id ids => rfl
      dsimp only
      rw [unchanged_replaced_iff, hempty]
      exact ⟨fun h => h.1 rfl, fun h => ⟨fun _ => h, fun ids hids => by cases hids⟩⟩
    | some ids =>
      rw [forall_some, and_iff_right (fun h => by cases h)]
      dsimp only
      cases bringsAll R ids with
      | false =>
        rw [if_neg Bool.false_ne_true, unchanged_replaced_iff]
        exact Iff.rfl
      | true => exact replaced_kept_iff hlookup hrole

theorem update_kept_iff {actor : Option CurrentUser} :
    (updateRole R roleId dto actor).Ends (fun _ => Granted roleId dto.permissionSlugs t)
      (Unchanged roleId t) t ↔ isUpdateKept R t roleId dto actor = true := by
  rw [ends_updateRole (fun t' => granted_stable t') (fun t' => unchanged_stable t') unchanged_refl,
    isUpdateKept]
  cases hadmitted : isAdmitted R t roleId dto actor with
  | false => exact iff_of_true (fun h => by cases h) rfl
  | true =>
    have hrole : (t.roles.find roleId).isSome = true := by
      rw [isAdmitted, Bool.and_eq_true, Bool.and_eq_true] at hadmitted
      exact find_of_isInScope hadmitted.1.2
    rw [imp_iff_right rfl, Bool.not_true, Bool.false_or]
    cases dto.permissionSlugs with
    | none =>
      dsimp only
      rw [row_kept_iff hrole]
      exact ⟨fun h => h.1 rfl, fun h => ⟨fun _ => h, fun slugs hslugs => by cases hslugs⟩⟩
    | some slugs =>
      rw [forall_some, and_iff_right (fun h => by cases h)]
      exact replacement_kept_iff hrole

end Updates

section Creations

variable {R : RoleServer} {t : AdminTables} {dto : RoleDto}

def newRole (R : RoleServer) (dto : RoleDto) : TenantRole where
  id := R.roleId
  companyId := orNull dto.companyId
  isSystem := false
  name := dto.name
  slug := dto.slug
  description := dto.description

def withRole (t : AdminTables) (role : TenantRole) : AdminTables :=
  { t with roles := t.roles.insert role }

theorem rows_insert {roles : RoleTable} {role : TenantRole} (h : roles.refuses role = false) :
    (roles.insert role).rows = roles.rows ++ [role] := by
  rw [RoleTable.insert, dif_neg (by rw [h]; exact Bool.false_ne_true)]

theorem changed_of_roles {roleId : String} {role : TenantRole} {t' : AdminTables}
    (h : t.roles.refuses role = false) (hroles : t'.roles = t.roles.insert role) :
    ¬Unchanged roleId t t' := by
  intro hunchanged
  have hrows := congrArg RoleTable.rows (hroles.symm.trans hunchanged.roles)
  rw [rows_insert h] at hrows
  have hlength := congrArg List.length hrows
  simp at hlength

theorem refuses_newRole (hexisting : (t.roles.rows.any fun role =>
      role.slug = dto.slug && role.companyId = orNull dto.companyId) = false) :
    t.roles.refuses (newRole R dto) = t.roles.rows.any fun role => role.id = R.roleId := by
  rw [Bool.eq_iff_iff, RoleTable.refuses, List.any_eq_true, List.any_eq_true]
  refine exists_congr fun role => and_congr_right fun hmem => ?_
  have hnone := List.any_eq_false.mp hexisting role hmem
  have hkeys : (decide (role.id = R.roleId) || decide (role.slug = dto.slug) &&
      role.companyId.isSome && decide (role.companyId = orNull dto.companyId)) = true ↔
        decide (role.id = R.roleId) = true := by
    simp only [Bool.and_eq_true, Bool.or_eq_true, decide_eq_true_eq] at hnone ⊢
    constructor
    · rintro (hid | ⟨⟨hslug, -⟩, hcompany⟩)
      · exact hid
      · exact absurd ⟨hslug, hcompany⟩ hnone
    · exact .inl
  exact hkeys

theorem ends_getRole_found {place : Place} {roleId : String} {returned thrown : AdminTables → Prop}
    (hrole : (t.roles.find roleId).isSome = true) :
    (getRole R place roleId).Ends (fun _ => returned) thrown t ↔
      if !R.refuses (.readRole place) && !R.refuses (.readPermissions place) then returned t
      else thrown t := by
  obtain ⟨role, hfound⟩ := Option.isSome_iff_exists.mp hrole
  rw [getRole, readRole, ends_bind, ends_bind, ends_ask, hfound]
  dsimp only
  rw [ends_pure, ends_bind, ends_ask]
  cases R.refuses (.readRole place) with
  | true => exact Iff.rfl
  | false =>
    cases R.refuses (.readPermissions place) with
    | true => exact Iff.rfl
    | false => exact Iff.rfl

theorem granted_created {ids slugs : List String} (hfresh : ∀ entry ∈ t.rolePermissions, entry.1 ≠ R.roleId)
    (hlookup : lookup R t slugs = some ids) (hinserted : t.roles.refuses (newRole R dto) = false) :
    Granted R.roleId (some slugs) t
      (withPermissions (withRole t (newRole R dto)) R.roleId ids) := by
  refine ⟨⟨newRole R dto, ?_, rfl⟩, fun slug => mem_carried.trans ?_⟩
  · have hrows : (withPermissions (withRole t (newRole R dto)) R.roleId ids).roles.rows =
        t.roles.rows ++ [newRole R dto] := rows_insert hinserted
    rw [hrows]
    exact List.mem_append_right _ (.head _)
  · rw [IsRequested, ← exists_lookup_iff hlookup slug]
    refine exists_congr fun id => and_congr_left fun _ => mem_permissionIds_with.trans (or_iff_right ?_)
    intro hmem
    exact hfresh _ (mem_permissionIds.mp hmem) rfl

theorem inserted_kept_iff (hfresh : ∀ entry ∈ t.rolePermissions, entry.1 ≠ R.roleId)
    (hinserted : t.roles.refuses (newRole R dto) = false) :
    (ask R .readInserted (fun _ => ()) >>= fun _ =>
      addPermissions R R.roleId dto.permissionSlugs >>= fun _ => getRole R .created R.roleId).Ends
        (fun _ => Granted R.roleId (some dto.permissionSlugs) t) (Unchanged R.roleId t)
        (withRole t (newRole R dto)) ↔
      (!R.refuses .readInserted && (lookup R t dto.permissionSlugs).any (bringsAll R) &&
        !R.refuses (.readRole .created) && !R.refuses (.readPermissions .created)) = true := by
  have hrole : ¬Unchanged R.roleId t (withRole t (newRole R dto)) := changed_of_roles hinserted rfl
  have hchanged : ∀ ids,
      ¬Unchanged R.roleId t (withPermissions (withRole t (newRole R dto)) R.roleId ids) := fun ids =>
    changed_of_roles hinserted rfl
  have hcreated : ∀ ids, ((withPermissions (withRole t (newRole R dto)) R.roleId ids).roles.find
      R.roleId).isSome = true := by
    intro ids
    refine List.find?_isSome.mpr ⟨newRole R dto, ?_, decide_eq_true rfl⟩
    rw [withPermissions, withRole]
    dsimp only
    rw [rows_insert hinserted]
    exact List.mem_append_right _ (.head _)
  have hsame : lookup R (withRole t (newRole R dto)) dto.permissionSlugs =
      lookup R t dto.permissionSlugs := rfl
  rw [ends_bind, ends_ask, ends_bind, ends_addPermissions, hsame]
  cases R.refuses .readInserted with
  | true => exact iff_of_false hrole Bool.false_ne_true
  | false =>
    rw [if_neg Bool.false_ne_true]
    cases hlookup : lookup R t dto.permissionSlugs with
    | none => exact iff_of_false (fun h => hrole (h.1 rfl)) Bool.false_ne_true
    | some ids =>
      rw [forall_some, and_iff_right (fun h => by cases h),
        @ends_createMany R (withRole t (newRole R dto)) _ _ R.roleId ids (lookup_nodup hlookup)
          (fun id _ hmem => hfresh _ hmem rfl),
        Option.any_some]
      cases bringsAll R ids with
      | false => exact iff_of_false (hchanged _) Bool.false_ne_true
      | true =>
        rw [if_pos rfl, ends_getRole_found (hcreated ids)]
        cases R.refuses (.readRole .created) with
        | true => exact iff_of_false (hchanged _) Bool.false_ne_true
        | false =>
          cases R.refuses (.readPermissions .created) with
          | true => exact iff_of_false (hchanged _) Bool.false_ne_true
          | false => exact iff_of_true (granted_created hfresh hlookup hinserted) rfl

theorem creation_kept_iff (hfresh : ∀ entry ∈ t.rolePermissions, entry.1 ≠ R.roleId) :
    (createRole R dto).Ends (fun _ => Granted R.roleId (some dto.permissionSlugs) t)
      (Unchanged R.roleId t) t ↔ isCreationKept R t dto = true := by
  rw [createRole, ends_bind, ends_ask, isCreationKept]
  cases R.refuses .findRoles with
  | true => exact iff_of_true unchanged_refl rfl
  | false =>
    rw [if_neg Bool.false_ne_true, Bool.false_or]
    cases hexisting : t.roles.rows.any fun role =>
      role.slug = dto.slug && role.companyId = orNull dto.companyId with
    | true => exact iff_of_true unchanged_refl rfl
    | false =>
      rw [if_neg Bool.false_ne_true, Bool.false_or, ← @refuses_newRole R t dto hexisting, ends_bind,
        insertRole, ends_bind, ends_gets, ← newRole]
      cases hinserted : t.roles.refuses (newRole R dto) with
      | true => exact iff_of_true unchanged_refl rfl
      | false =>
        rw [if_neg Bool.false_ne_true, Bool.false_or, ends_write]
        cases R.refuses .insertRole with
        | true => exact iff_of_true unchanged_refl rfl
        | false => exact inserted_kept_iff hfresh hinserted

end Creations

section Edits

variable {R : RoleServer} {t : AdminTables}

theorem rollback_kept_iff {roleId historyId : String} {actor : CurrentUser} :
    (rollbackRolePermissions R roleId historyId actor).Ends
      (fun _ => Granted roleId (restorable t roleId historyId actor) t) (Unchanged roleId t) t ↔
        (RoleEdit.rollback roleId historyId actor).isKept R t = true := by
  rw [rollbackRolePermissions, ends_bind, ends_assertRoleScope unchanged_refl, RoleEdit.isKept, isInScope]
  cases R.refuses (.readRole .rollback) with
  | true => exact iff_of_true (fun h => by cases h) rfl
  | false =>
    rw [imp_iff_right rfl, Bool.false_or]
    cases Admin.assertRoleScope t.roles roleId actor true with
    | none => exact iff_of_true (fun role h => by cases h) rfl
    | some role =>
      rw [forall_some, ends_bind, ends_ask, restorable, Option.isSome_some, Bool.not_true,
        Bool.false_or]
      cases R.refuses .findHistory with
      | true => exact iff_of_true unchanged_refl rfl
      | false =>
        rw [if_neg Bool.false_ne_true, Bool.false_or]
        cases t.auditLog.find? fun entry => entry.id = historyId &&
          entry.resourceType = "ROLE_PERMISSIONS" && entry.resourceId = roleId with
        | none => exact iff_of_true unchanged_refl rfl
        | some entry =>
          have hforeign : (actor.role ≠ .superAdmin && some entry.companyId ≠ actor.companyId) =
              !(actor.role = .superAdmin || some entry.companyId = actor.companyId) := by
            simp
          dsimp only
          rw [hforeign, Option.filter_some]
          cases actor.role = .superAdmin || some entry.companyId = actor.companyId with
          | false => exact iff_of_true unchanged_refl rfl
          | true =>
            rw [Bool.not_true, if_neg Bool.false_ne_true, if_pos rfl, Option.bind_some]
            cases entry.diff.bind (·.before) with
            | none => exact iff_of_true unchanged_refl rfl
            | some before => exact update_kept_iff

theorem ends_discard {α : Type} {call : AdminCall α} {returned thrown : AdminTables → Prop} :
    (call >>= fun _ => (pure () : AdminCall Unit)).Ends (fun _ => returned) thrown t ↔
      call.Ends (fun _ => returned) thrown t := by
  rw [ends_bind]
  exact Iff.rfl

/-- An edit of a role is all or nothing exactly if it is turned away before it writes, if nothing goes
wrong after that, or if what is written when something does is what was there. -/
theorem allOrNothing_iff (R : RoleServer) (edit : RoleEdit) (t : AdminTables)
    (hfresh : ∀ entry ∈ t.rolePermissions, entry.1 ≠ R.roleId) :
    edit.AllOrNothing R t ↔ edit.isKept R t = true := by
  rw [RoleEdit.AllOrNothing]
  cases edit with
  | create dto =>
    rw [RoleEdit.perform, ends_discard]
    exact creation_kept_iff hfresh
  | update roleId dto actor =>
    rw [RoleEdit.perform, ends_discard]
    exact update_kept_iff
  | rollback roleId historyId actor =>
    rw [RoleEdit.perform, ends_discard]
    exact rollback_kept_iff

def willing : RoleServer where
  refuses _ := false
  roleId := "role-2"
  auditId := "audit-1"

def sampleTables : AdminTables where
  users := []
  companies := []
  roles := ⟨[⟨⟨"role-1", some "company-1", false⟩, "Dispatch", "dispatch", none⟩], by decide⟩
  permissions := ⟨[("permission-1", "tickets.view"), ("permission-2", "tickets.edit")], by decide, by decide⟩
  rolePermissions := [("role-1", "permission-1")]
  userRoles := []
  sessions := []
  auditLog := []
  companyAssignments := []
  userUpdates := []

def sampleEdit (slugs : List String) : RoleEdit :=
  .update "role-1"
    { name := none
      description := none
      permissionSlugs := some slugs
      acknowledgeCriticalRemoval := false }
    none

theorem allOrNothing_known : (sampleEdit ["tickets.edit"]).AllOrNothing willing sampleTables :=
  (allOrNothing_iff willing (sampleEdit ["tickets.edit"]) sampleTables (by decide)).mpr
    (by decide)

/-- The role has lost its permissions when an unknown one is found out. -/
theorem not_allOrNothing_unknown :
    ¬(sampleEdit ["tickets.aprove"]).AllOrNothing willing sampleTables := by
  intro h
  have hlost : Unchanged "role-1" sampleTables (replaced sampleTables "role-1" []) := h
  have hpermission := (hlost.permissions "permission-1").mpr (by decide)
  exact absurd hpermission (by decide)

end Edits
end FieldserviceIT.Admin.RoleEdits
