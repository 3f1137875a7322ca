import FieldserviceIT.Access.PolicyStates

/-!
What comes of a policy that is exported and imported again, of a bundle that is imported
twice, and of an import that throws.
-/

namespace FieldserviceIT.Access

open Admin Common Lib Sql

section Decisions

variable (T : TextReading) in
/-- Requests of the users are let pass as before, and tests find what they found. -/
structure SameDecisions (s s' : PolicyStore) : Prop where
  requests : ∀ user ∈ s.users, ∀ slug ctx,
    guardAllows T sameText s'.tables user slug ctx = guardAllows T sameText s.tables user slug ctx
  tests : ∀ test, actualDecision sameText s'.tables test = actualDecision sameText s.tables test

variable {T} {s s' : PolicyStore}

theorem roleCarries_tables (roleId slug : String) :
    roleCarries sameText s.tables roleId slug = s.carries roleId slug := by
  rw [Bool.eq_iff_iff, roleCarries, PolicyStore.carries, List.contains_iff_mem, List.any_eq_true]
  constructor
  · rintro ⟨⟨_, _⟩, hmem, hsame⟩
    simp only [sameText, Bool.and_eq_true, decide_eq_true_eq] at hsame
    obtain ⟨rfl, rfl⟩ := hsame
    exact hmem
  · intro hmem
    exact ⟨_, hmem, by simp [sameText]⟩

theorem any_permissionsOf (role : RoleRow) (slug : String) :
    ((s.tables.permissions.permissionsOf sameText role).any fun p => p.2 = slug) =
      s.carries role.id slug := by
  rw [PermissionTables.permissionsOf, List.any_filter, ← roleCarries_tables]
  rfl

/-- The guard finds a permission of the user, in whatever source. -/
def PolicyStore.gives (s : PolicyStore) (user : User) (slug : String) : Bool :=
  defaultGives user slug || assignedGives sameText s.tables user slug ||
    systemRoleGives sameText s.tables user slug || grantGives sameText s.tables user slug

theorem gives_congr (haround : s'.toSurroundings = s.toSurroundings) (hcarries : s'.carries = s.carries)
    (user : User) (slug : String) : s'.gives user slug = s.gives user slug := by
  obtain ⟨around, _, _, _, _, _, _, _⟩ := s
  obtain ⟨around', _, _, _, _, _, _, _⟩ := s'
  subst haround
  simp only [PolicyStore.gives, assignedGives, systemRoleGives, grantGives,
    PermissionTables.findUserRolePermissions, PermissionTables.findSystemRolePermissions,
    List.any_flatMap, any_permissionsOf, hcarries]
  rfl

theorem enforce_withoutId (user : CurrentUser) (ctx : RequestContext) (slugs : List String)
    (policies : List ContextualPolicy) :
    enforceContextualPolicies T sameText user ctx slugs (policies.map (·.withoutId)) =
      enforceContextualPolicies T sameText user ctx slugs policies := by
  rw [enforceContextualPolicies, List.all_map]
  rfl

theorem enforce_append (user : CurrentUser) (ctx : RequestContext) (slugs : List String)
    (policies more : List ContextualPolicy) :
    enforceContextualPolicies T sameText user ctx slugs (policies ++ more) =
      (enforceContextualPolicies T sameText user ctx slugs policies &&
        enforceContextualPolicies T sameText user ctx slugs more) :=
  List.all_append

theorem guardAllows_tables (user : User) (slug : String) (ctx : RequestContext) :
    guardAllows T sameText s.tables user slug ctx =
      (user.role = .superAdmin || s.gives user slug &&
        enforceContextualPolicies T sameText (signedIn user) ctx [slug] s.policies) :=
  guardAllows_eq

theorem carries_eq_of_tests (h : ∀ test,
    actualDecision sameText s'.tables test = actualDecision sameText s.tables test) :
    s'.carries = s.carries := by
  have hallow : ∀ carried : Bool, (if carried then "ALLOW" else "DENY") = "ALLOW" ↔
      carried = true := by decide
  funext roleId slug
  have htest := h ⟨"", none, "", "ROLE", roleId, slug, none, none, "", true, ""⟩
  simp only [actualDecision, if_true, roleCarries_tables] at htest
  rw [Bool.eq_iff_iff, ← hallow, ← hallow (s.carries roleId slug), htest]

theorem tests_of_carries (haround : s'.toSurroundings = s.toSurroundings)
    (hcarries : s'.carries = s.carries) (test : AuthorizationTest) :
    actualDecision sameText s'.tables test = actualDecision sameText s.tables test := by
  have huserRoles : s'.tables.permissions.userRoles = s.tables.permissions.userRoles :=
    congrArg Surroundings.userRoles haround
  simp only [actualDecision, userCarries, roleCarries_tables, hcarries, huserRoles]

variable {refused companyId actor} {entries : List BundleEntry}

/-- An import changes no decision just where the roles it writes to carry what they are given,
and no policy it adds stands against a request that was let pass. -/
theorem sameDecisions_iff
    (hstate : s'.state = s.state.imported T refused companyId actor entries) :
    SameDecisions T s s' ↔
      (roleWrites companyId actor s.toSurroundings).Stays (entries.filterMap (·.writtenRole))
          s.state.permissions ∧
        ∀ user ∈ s.users, ∀ slug ctx, user.role ≠ .superAdmin →
          guardAllows T sameText s.tables user slug ctx = true →
          enforceContextualPolicies T sameText (signedIn user) ctx [slug]
            (entries.filterMap (·.writtenPolicy refused companyId actor)) = true := by
  have haround : s'.toSurroundings = s.toSurroundings := congrArg PolicyState.toSurroundings hstate
  have hpolicies : ∀ user ctx slugs,
      enforceContextualPolicies T sameText user ctx slugs s'.policies =
        (enforceContextualPolicies T sameText user ctx slugs s.policies &&
          enforceContextualPolicies T sameText user ctx slugs
            (entries.filterMap (·.writtenPolicy refused companyId actor))) := by
    intro user ctx slugs
    rw [← enforce_withoutId user ctx slugs s'.policies, ← enforce_withoutId user ctx slugs s.policies,
      ← enforce_append]
    exact congrArg _ (congrArg PolicyState.policies hstate)
  have hpermissions : (roleWrites companyId actor s.toSurroundings).Stays
      (entries.filterMap (·.writtenRole)) s.state.permissions ↔ s'.carries = s.carries := by
    rw [← Writes.foldl_write_eq_self]
    have hafter : s'.state.permissions = _ := congrArg PolicyState.permissions hstate
    constructor
    · intro h
      funext roleId
      exact Option.some.inj (congrFun (hafter.trans h) roleId)
    · intro h
      refine hafter.symm.trans ?_
      funext roleId
      exact congrArg some (congrFun h roleId)
  rw [hpermissions]
  constructor
  · intro h
    have hcarries := carries_eq_of_tests h.tests
    refine ⟨hcarries, fun user huser slug ctx hrole hallowed => ?_⟩
    have hafter := h.requests user huser slug ctx
    rw [hallowed, guardAllows_tables, hpolicies] at hafter
    simp only [hrole, decide_false, Bool.false_or, Bool.and_eq_true] at hafter
    exact hafter.2.2
  · rintro ⟨hcarries, hblocks⟩
    refine ⟨fun user huser slug ctx => ?_, tests_of_carries haround hcarries⟩
    by_cases hrole : user.role = .superAdmin
    · simp [guardAllows_tables, hrole]
    · rw [guardAllows_tables, gives_congr haround hcarries, hpolicies, ← Bool.and_assoc]
      have hbefore := guardAllows_tables (T := T) (s := s) user slug ctx
      simp only [hrole, decide_false, Bool.false_or] at hbefore ⊢
      cases hallowed : guardAllows T sameText s.tables user slug ctx with
      | false => rw [← hbefore, hallowed, Bool.false_and]
      | true => rw [← hbefore, hallowed, Bool.true_and, hblocks user huser slug ctx hrole hallowed]

end Decisions

section RoundTrip

variable (T : TextReading) (uuid : Nat → String) (refused : BundleEntry → Bool)
variable (companyId : Option String) (actor : CurrentUser) (listing : Listing) (s : PolicyStore)

/-- The policy of the actor's company, exported and imported again. -/
def reimported : PolicyStore × Bool :=
  importPolicyBundle T uuid refused companyId actor (exportPolicyBundle listing s actor) s

def Importable : Prop :=
  (exportPolicyBundle listing s actor).admitted T refused companyId actor = true

def RoundTrips : Prop :=
  (reimported T uuid refused companyId actor listing s).2 = true →
    SameDecisions T s (reimported T uuid refused companyId actor listing s).1

/-- Importing the export once more leaves the policy as the first import has left it. -/
def TwiceAsOnce : Prop :=
  (reimported T uuid refused companyId actor listing s).2 = true →
    (importPolicyBundle T uuid refused companyId actor (exportPolicyBundle listing s actor)
        (reimported T uuid refused companyId actor listing s).1).1.state =
      (reimported T uuid refused companyId actor listing s).1.state

def Atomic (bundle : Bundle) : Prop :=
  (importPolicyBundle T uuid refused companyId actor bundle s).2 = false →
    (importPolicyBundle T uuid refused companyId actor bundle s).1.state = s.state

section Conditions

def lastExported (roleId : String) : Option TenantRole :=
  (exportedRoles listing s actor).reverse.find? fun role =>
    (targetRole companyId actor s.roles (some role.slug)).map (·.id) = some roleId

/-- The last role exported for a role is exported with the permissions of that role. -/
def RolesReturn : Prop :=
  ∀ roleId role, lastExported companyId actor listing s roleId = some role → ∀ slug,
    s.carries roleId slug =
      ((exportedSlugs listing s role).contains slug && s.catalog.contains slug)

/-- The policy as it comes back: active, with the defaults for what it leaves empty. -/
def ContextualPolicy.restored (policy : ContextualPolicy) : ContextualPolicy :=
  { policy with
    id := ""
    companyId := companyOf companyId actor
    targetType := orText (some policy.targetType) "PERMISSION"
    conditions := eitherOf policy.conditions (.object [])
    effect := orText (some policy.effect) "DENY"
    isActive := true
    createdById := actor.id }

/-- No exported policy, active again, stands against a request that is let pass. -/
def PoliciesReturn : Prop :=
  ∀ user ∈ s.users, ∀ slug ctx, user.role ≠ .superAdmin →
    guardAllows T sameText s.tables user slug ctx = true →
    ∀ policy ∈ listContextualPolicies s actor,
      (policy.restored companyId actor).concerns sameText (signedIn user) slug = true →
      (policy.restored companyId actor).denies T (signedIn user) ctx = false

/-- The export has no policies, no tests, and no scopes but such as the database refuses. -/
def NothingInserted : Prop :=
  (∀ scope ∈ exportedScopes s actor, refused (.scope scope.entry) = true) ∧
    listContextualPolicies s actor = [] ∧ listAuthorizationTests s.tables actor = []

end Conditions

variable {T uuid refused companyId actor listing s}

section Sections

theorem exported_roles : (exportPolicyBundle listing s actor).entries.filterMap (·.writtenRole) =
    (exportedRoles listing s actor).map fun role =>
      ⟨some role.slug, exportedSlugs listing s role⟩ := by
  simp [exportPolicyBundle, Bundle.entries, Function.comp_def, entryOf, BundleEntry.writtenRole]

theorem exported_scopes :
    (exportPolicyBundle listing s actor).entries.filterMap
        (·.writtenScope refused companyId actor) =
      (exportedScopes s actor).filterMap fun scope =>
        (BundleEntry.scope scope.entry).writtenScope refused companyId actor := by
  simp [exportPolicyBundle, Bundle.entries, Function.comp_def, entryOf, BundleEntry.writtenScope]

theorem exported_policies :
    (exportPolicyBundle listing s actor).entries.filterMap
        (·.writtenPolicy refused companyId actor) =
      (listContextualPolicies s actor).filterMap fun policy =>
        (BundleEntry.policy policy.entry).writtenPolicy refused companyId actor := by
  simp [exportPolicyBundle, Bundle.entries, Function.comp_def, entryOf, BundleEntry.writtenPolicy]

theorem exported_tests :
    (exportPolicyBundle listing s actor).entries.filterMap
        (·.writtenTest refused companyId actor) =
      (listAuthorizationTests s.tables actor).reverse.filterMap fun test =>
        (BundleEntry.test test.entry).writtenTest refused companyId actor := by
  simp [exportPolicyBundle, Bundle.entries, Function.comp_def, entryOf, BundleEntry.writtenTest]

theorem admitted_of_importable (h : Importable T refused companyId actor listing s)
    {entry : BundleEntry} (hentry : entry ∈ (exportPolicyBundle listing s actor).entries) :
    entry.admitted T refused companyId actor = true := by
  rw [Importable, Bundle.admitted, Bool.and_eq_true] at h
  exact List.all_eq_true.mp h.2 entry hentry

theorem policy_written (h : Importable T refused companyId actor listing s)
    {policy : ContextualPolicy} (hpolicy : policy ∈ listContextualPolicies s actor) :
    (BundleEntry.policy policy.entry).writtenPolicy refused companyId actor =
      some (policy.restored companyId actor) := by
  have hentry : BundleEntry.policy policy.entry ∈ (exportPolicyBundle listing s actor).entries := by
    simp only [exportPolicyBundle, Bundle.entries, List.map_map, List.mem_append, List.mem_map]
    exact .inl (.inl (.inr ⟨policy, hpolicy, rfl⟩))
  have hadmitted := admitted_of_importable h hentry
  rw [BundleEntry.admitted, BundleEntry.writtenPolicy] at hadmitted
  rw [BundleEntry.writtenPolicy]
  split
  next hrefused =>
    rw [if_pos hrefused] at hadmitted
    cases hadmitted
  next => rfl

theorem test_written (h : Importable T refused companyId actor listing s)
    {test : AuthorizationTest} (htest : test ∈ listAuthorizationTests s.tables actor) :
    ((BundleEntry.test test.entry).writtenTest refused companyId actor).isSome = true := by
  have hentry : BundleEntry.test test.entry ∈ (exportPolicyBundle listing s actor).entries := by
    simp only [exportPolicyBundle, Bundle.entries, List.map_map, List.mem_append, List.mem_map]
    exact .inl (.inr ⟨test, List.mem_reverse.mpr htest, rfl⟩)
  exact admitted_of_importable h hentry

end Sections

theorem last_exported (roleId : String) :
    (roleWrites companyId actor s.toSurroundings).last
        ((exportPolicyBundle listing s actor).entries.filterMap (·.writtenRole)) roleId =
      (lastExported companyId actor listing s roleId).map fun role =>
        ⟨some role.slug, exportedSlugs listing s role⟩ := by
  rw [exported_roles, Writes.last_map]
  rfl

theorem rolesReturn_iff :
    (roleWrites companyId actor s.toSurroundings).Stays
        ((exportPolicyBundle listing s actor).entries.filterMap (·.writtenRole))
        s.state.permissions ↔
      RolesReturn companyId actor listing s := by
  have hvalue : ∀ (role : BundleRole) (old : Option (String → Bool)) slug,
      (roleWrites companyId actor s.toSurroundings).value role old slug =
        (role.permissionSlugs.contains slug && s.catalog.contains slug) := fun _ _ _ => rfl
  have hcarries : ∀ roleId, s.state.permissions roleId = some (s.carries roleId) := fun _ => rfl
  simp only [Writes.Stays, RolesReturn, last_exported, Option.map_eq_some_iff, hcarries,
    Option.some_inj, funext_iff, hvalue]
  constructor
  · intro h roleId role hlast
    exact h roleId ⟨some role.slug, exportedSlugs listing s role⟩ ⟨role, hlast, rfl⟩
  · rintro h roleId _ ⟨role, hlast, rfl⟩
    exact h roleId role hlast

theorem policiesReturn_iff (h : Importable T refused companyId actor listing s) :
    (∀ user ∈ s.users, ∀ slug ctx, user.role ≠ .superAdmin →
      guardAllows T sameText s.tables user slug ctx = true →
      enforceContextualPolicies T sameText (signedIn user) ctx [slug]
        ((exportPolicyBundle listing s actor).entries.filterMap
          (·.writtenPolicy refused companyId actor)) = true) ↔
      PoliciesReturn T companyId actor s := by
  have hmap : (exportPolicyBundle listing s actor).entries.filterMap
      (·.writtenPolicy refused companyId actor) =
      (listContextualPolicies s actor).map (·.restored companyId actor) := by
    rw [exported_policies, ← List.filterMap_eq_map]
    exact List.filterMap_congr fun policy hpolicy => policy_written h hpolicy
  have hactive : ∀ policy : ContextualPolicy, (policy.restored companyId actor).isActive = true :=
    fun _ => rfl
  simp only [hmap, enforceContextualPolicies, List.all_map, List.all_eq_true, Function.comp_apply,
    hactive, Bool.true_and, List.any_cons, List.any_nil, Bool.or_false, PoliciesReturn]
  have hblock : ∀ concerns denies : Bool,
      (!concerns || !denies) = true ↔ (concerns = true → denies = false) := by decide
  simp only [hblock]

theorem nothingInserted_iff (h : Importable T refused companyId actor listing s) :
    ((exportPolicyBundle listing s actor).entries.filterMap
          (·.writtenScope refused companyId actor) = [] ∧
        (exportPolicyBundle listing s actor).entries.filterMap
          (·.writtenPolicy refused companyId actor) = [] ∧
        (exportPolicyBundle listing s actor).entries.filterMap
          (·.writtenTest refused companyId actor) = []) ↔
      NothingInserted refused actor s := by
  rw [exported_scopes, exported_policies, exported_tests, NothingInserted]
  simp only [List.filterMap_eq_nil_iff, List.mem_reverse]
  refine and_congr (forall₂_congr fun scope _ => ?_) (and_congr ?_ ?_)
  · rw [BundleEntry.writtenScope]
    split
    next hrefused => exact iff_of_true rfl hrefused
    next hrefused => exact iff_of_false (Option.some_ne_none _) hrefused
  · constructor
    · intro hnone
      refine List.eq_nil_iff_forall_not_mem.mpr fun policy hpolicy => ?_
      exact Option.some_ne_none _ ((policy_written h hpolicy).symm.trans (hnone policy hpolicy))
    · intro hnil policy hpolicy
      rw [hnil] at hpolicy
      cases hpolicy
  · constructor
    · intro hnone
      refine List.eq_nil_iff_forall_not_mem.mpr fun test htest => ?_
      have hsome := test_written h htest
      rw [hnone test htest] at hsome
      cases hsome
    · intro hnil test htest
      rw [hnil] at htest
      cases htest

theorem reimported_returns : (reimported T uuid refused companyId actor listing s).2 = true ↔
    Importable T refused companyId actor listing s := by
  rw [reimported, (import_state _ s).2, Importable]

theorem reimported_state (h : Importable T refused companyId actor listing s) :
    (reimported T uuid refused companyId actor listing s).1.state =
      s.state.imported T refused companyId actor (exportPolicyBundle listing s actor).entries := by
  rw [reimported, (import_state _ s).1, written_of_admitted h]

variable (T uuid refused companyId actor listing s)

/-- A policy survives the round trip exactly if each role is exported last with its own
permissions, and no policy that is active again stands against what was let pass; importing
it a second time changes nothing exactly if nothing is inserted; and an import that throws
changes nothing exactly if there was already what the entries before it write. -/
theorem policy_bundles (bundle : Bundle) :
    (RoundTrips T uuid refused companyId actor listing s ↔
        (Importable T refused companyId actor listing s →
          RolesReturn companyId actor listing s ∧ PoliciesReturn T companyId actor s)) ∧
      (TwiceAsOnce T uuid refused companyId actor listing s ↔
        (Importable T refused companyId actor listing s → NothingInserted refused actor s)) ∧
      (Atomic T uuid refused companyId actor s bundle ↔
        (bundle.admitted T refused companyId actor = false →
          s.state.Has T refused companyId actor (bundle.written T refused companyId actor))) := by
  refine ⟨?_, ?_, ?_⟩
  · rw [RoundTrips, reimported_returns]
    refine imp_congr_right fun h => ?_
    rw [sameDecisions_iff (reimported_state h), rolesReturn_iff, policiesReturn_iff h]
  · rw [TwiceAsOnce, reimported_returns]
    refine imp_congr_right fun h => ?_
    rw [(import_state _ _).1, written_of_admitted h, reimported_state h, imported_eq_self,
      imported_has, nothingInserted_iff h]
  · rw [Atomic, (import_state bundle s).2, (import_state bundle s).1, imported_eq_self]

end RoundTrip

section Samples

def samplePolicies : PolicyStore where
  now := 0
  users := [sampleAdministrator]
  catalog := ["tickets.view"]
  roles := ⟨[], by decide⟩
  userRoles := []
  grants := []
  drawn := 0
  rolePermissions := []
  scopes := []
  relationships := []
  policies := [⟨"p1", some "acme", "No tickets", "PERMISSION", "tickets.view", .object [], "DENY",
    false, "ann"⟩]
  tests := []
  mappings := []

def sampleListing : Listing where
  precedes a b := a ≤ b
  maxLength := 1024

/-- The policy comes back active, and the administrator sees no tickets any more. -/
theorem inactive_policy_comes_back : ¬ ∀ (s : PolicyStore) (bundle : Bundle),
    RoundTrips sampleReading sampleUuid (fun _ => false) none (signedIn sampleAdministrator)
        sampleListing s ∧
      TwiceAsOnce sampleReading sampleUuid (fun _ => false) none (signedIn sampleAdministrator)
        sampleListing s ∧
      Atomic sampleReading sampleUuid (fun _ => false) none (signedIn sampleAdministrator) s bundle := by
  intro h
  obtain ⟨hround, -, -⟩ := h samplePolicies ⟨some 1, [], [], [], [], [], []⟩
  have hreturns : (reimported sampleReading sampleUuid (fun _ => false) none
      (signedIn sampleAdministrator) sampleListing samplePolicies).2 = true := by
    decide
  have hsame := (hround hreturns).requests sampleAdministrator (by simp [samplePolicies])
    "tickets.view" sampleContext
  revert hsame
  decide

end Samples
end FieldserviceIT.Access
