import FieldserviceIT.Access.PolicyBundles
import Mathlib.Data.List.TakeWhile

/-!
A policy by what it says, without identifiers, the creators of rows and the places they stand
in, and what the entries of a bundle do to it. The tables an import leaves say just that.
-/

namespace FieldserviceIT.Access

open Admin Common Lib Sql

section PolicyState

/-- The permissions of a role are a test of slugs, a mapping stands with its `isActive`. -/
structure PolicyState extends Surroundings where
  permissions : String → Option (String → Bool)
  scopes : List ScopeRecord
  relationships : RelationshipKey → Option Relation
  policies : List ContextualPolicy
  tests : List AuthorizationTest
  mappings : MappingKey → Option (GroupMapping × Bool)

def ContextualPolicy.withoutId (policy : ContextualPolicy) : ContextualPolicy :=
  { policy with id := "" }

def AuthorizationTest.withoutId (test : AuthorizationTest) : AuthorizationTest :=
  { test with id := "" }

namespace PolicyStore

variable (s : PolicyStore)

def carries (roleId slug : String) : Bool :=
  s.rolePermissions.contains (roleId, slug)

def relation (key : RelationshipKey) : Option Relation :=
  (s.relationships.find? fun row => row.toRelationshipKey = key).map (·.toRelation)

def mapping (key : MappingKey) : Option (GroupMapping × Bool) :=
  (s.mappings.find? fun row => row.toMappingKey = key).map fun row =>
    (row.toGroupMapping, row.isActive)

def state : PolicyState where
  toSurroundings := s.toSurroundings
  permissions roleId := some (s.carries roleId)
  scopes := s.scopes
  relationships := s.relation
  policies := s.policies.map (·.withoutId)
  tests := s.tests.map (·.withoutId)
  mappings := s.mapping

end PolicyStore

variable (T : TextReading) (uuid : Nat → String) (refused : BundleEntry → Bool)
variable (companyId : Option String) (actor : CurrentUser)

section Entries

/-- An entry gives its role just what it lists of the permissions there are. -/
def roleWrites (around : Surroundings) : Writes BundleRole String (String → Bool) where
  key role := (targetRole companyId actor around.roles role.slug).map (·.id)
  value role _ slug := role.permissionSlugs.contains slug && around.catalog.contains slug
  absorbs _ _ _ := rfl

def relationWrites : Writes Relation RelationshipKey Relation where
  key relation := some relation.toRelationshipKey
  value relation _ := relation
  absorbs _ _ _ := rfl

def mappingWrites : Writes GroupMapping MappingKey (GroupMapping × Bool) where
  key mapping := some mapping.toMappingKey
  value mapping old := (mapping, (old.map (·.2)).getD true)
  absorbs _ _ _ := rfl

namespace BundleEntry

variable (entry : BundleEntry)

def writtenRole : Option BundleRole :=
  match entry with
  | .role given => some given
  | _ => none

def writtenScope : Option ScopeRecord :=
  match entry with
  | .scope given => if refused entry then none else scopeRow companyId actor given
  | _ => none

def writtenRelation : Option Relation :=
  match entry with
  | .relationship given => if refused entry then none else relationOf T actor given
  | _ => none

def writtenPolicy : Option ContextualPolicy :=
  match entry with
  | .policy given => if refused entry then none else policyRow companyId actor "" given
  | _ => none

def writtenTest : Option AuthorizationTest :=
  match entry with
  | .test given => if refused entry then none else testRow companyId actor "" given
  | _ => none

def writtenMapping : Option GroupMapping :=
  match entry with
  | .mapping given => if refused entry then none else mappingOf companyId actor given
  | _ => none

def admitted : Bool :=
  match entry with
  | .null => false
  | .role _ | .scope _ => true
  | .relationship _ => (entry.writtenRelation T refused actor).isSome
  | .policy _ => (entry.writtenPolicy refused companyId actor).isSome
  | .test _ => (entry.writtenTest refused companyId actor).isSome
  | .mapping _ => (entry.writtenMapping refused companyId actor).isSome

end BundleEntry

def PolicyState.imported (p : PolicyState) (entries : List BundleEntry) : PolicyState :=
  { p with
    permissions :=
      (entries.filterMap (·.writtenRole)).foldl
        (roleWrites companyId actor p.toSurroundings).write p.permissions
    scopes := p.scopes ++ entries.filterMap (·.writtenScope refused companyId actor)
    relationships :=
      (entries.filterMap (·.writtenRelation T refused actor)).foldl relationWrites.write
        p.relationships
    policies := p.policies ++ entries.filterMap (·.writtenPolicy refused companyId actor)
    tests := p.tests ++ entries.filterMap (·.writtenTest refused companyId actor)
    mappings :=
      (entries.filterMap (·.writtenMapping refused companyId actor)).foldl mappingWrites.write
        p.mappings }

/-- Importing the entries changes nothing: what they set is set already, and there is none that
is inserted. -/
structure PolicyState.Has (p : PolicyState) (entries : List BundleEntry) : Prop where
  roles : (roleWrites companyId actor p.toSurroundings).Stays
    (entries.filterMap (·.writtenRole)) p.permissions
  scopes : entries.filterMap (·.writtenScope refused companyId actor) = []
  relationships : relationWrites.Stays (entries.filterMap (·.writtenRelation T refused actor))
    p.relationships
  policies : entries.filterMap (·.writtenPolicy refused companyId actor) = []
  tests : entries.filterMap (·.writtenTest refused companyId actor) = []
  mappings : mappingWrites.Stays (entries.filterMap (·.writtenMapping refused companyId actor))
    p.mappings

end Entries

section Laws

variable {T refused companyId actor} {p : PolicyState} {entries : List BundleEntry}

theorem imported_append (more : List BundleEntry) :
    p.imported T refused companyId actor (entries ++ more) =
      (p.imported T refused companyId actor entries).imported T refused companyId actor more := by
  simp only [PolicyState.imported, List.filterMap_append, List.foldl_append, List.append_assoc]

theorem foldl_imported (entries : List BundleEntry) (p : PolicyState) :
    entries.foldl (fun p entry => p.imported T refused companyId actor [entry]) p =
      p.imported T refused companyId actor entries := by
  induction entries generalizing p with
  | nil => simp [PolicyState.imported]
  | cons entry entries ih => rw [List.foldl_cons, ih, ← imported_append, List.singleton_append]

theorem imported_singleton (entry : BundleEntry) : p.imported T refused companyId actor [entry] =
    { p with
      permissions := entry.writtenRole.elim p.permissions
        ((roleWrites companyId actor p.toSurroundings).write p.permissions)
      scopes := p.scopes ++ (entry.writtenScope refused companyId actor).toList
      relationships := (entry.writtenRelation T refused actor).elim p.relationships
        (relationWrites.write p.relationships)
      policies := p.policies ++ (entry.writtenPolicy refused companyId actor).toList
      tests := p.tests ++ (entry.writtenTest refused companyId actor).toList
      mappings := (entry.writtenMapping refused companyId actor).elim p.mappings
        (mappingWrites.write p.mappings) } := by
  have hlist : ∀ {α : Type} (f : BundleEntry → Option α), [entry].filterMap f = (f entry).toList := by
    intro α f
    rw [List.filterMap_cons]
    cases f entry <;> rfl
  have hfold : ∀ {α β : Type} (f : β → α → β) (start : β) (given : Option α),
      given.toList.foldl f start = given.elim start (f start) := by
    intro α β f start given
    cases given <;> rfl
  simp only [PolicyState.imported, hlist, hfold]

theorem imported_eq_self : p.imported T refused companyId actor entries = p ↔
    p.Has T refused companyId actor entries := by
  constructor
  · intro h
    have hscopes := congrArg PolicyState.scopes h
    have hpolicies := congrArg PolicyState.policies h
    have htests := congrArg PolicyState.tests h
    exact
      { roles := Writes.foldl_write_eq_self.mp (congrArg PolicyState.permissions h)
        scopes := List.append_right_eq_self.mp hscopes
        relationships := Writes.foldl_write_eq_self.mp (congrArg PolicyState.relationships h)
        policies := List.append_right_eq_self.mp hpolicies
        tests := List.append_right_eq_self.mp htests
        mappings := Writes.foldl_write_eq_self.mp (congrArg PolicyState.mappings h) }
  · intro h
    simp only [PolicyState.imported, Writes.foldl_write_eq_self.mpr h.roles, h.scopes,
      Writes.foldl_write_eq_self.mpr h.relationships, h.policies, h.tests,
      Writes.foldl_write_eq_self.mpr h.mappings, List.append_nil]

theorem imported_has : (p.imported T refused companyId actor entries).Has T refused companyId actor
      entries ↔
    entries.filterMap (·.writtenScope refused companyId actor) = [] ∧
      entries.filterMap (·.writtenPolicy refused companyId actor) = [] ∧
      entries.filterMap (·.writtenTest refused companyId actor) = [] := by
  constructor
  · intro h
    exact ⟨h.scopes, h.policies, h.tests⟩
  · rintro ⟨hscopes, hpolicies, htests⟩
    exact
      { roles := Writes.stays_foldl
        scopes := hscopes
        relationships := Writes.stays_foldl
        policies := hpolicies
        tests := htests
        mappings := Writes.stays_foldl }

end Laws

section Refinement

variable {T uuid refused companyId actor} {s s' : PolicyStore}

theorem carries_importRole (role : BundleRole) (roleId slug : String) :
    (importRole companyId actor role s).carries roleId slug =
      if (targetRole companyId actor s.roles role.slug).map (·.id) = some roleId then
        role.permissionSlugs.contains slug && s.catalog.contains slug
      else s.carries roleId slug := by
  rw [importRole]
  cases htarget : targetRole companyId actor s.roles role.slug with
  | none => rfl
  | some target =>
    rw [Bool.eq_iff_iff]
    simp only [PolicyStore.carries, List.contains_iff_mem, mem_foldl_insertIgnore,
      List.mem_filter, Option.map_some, Option.some_inj, Prod.mk.injEq]
    by_cases hrole : target.id = roleId
    · subst hrole
      simp
    · have hother : roleId ≠ target.id := Ne.symm hrole
      simp [hrole, hother]

theorem exists_importRole (role : BundleRole) :
    ∃ rows, importRole companyId actor role s = { s with rolePermissions := rows } := by
  rw [importRole]
  split
  · exact ⟨s.rolePermissions, rfl⟩
  · exact ⟨_, rfl⟩

theorem state_importRole (role : BundleRole) : (importRole companyId actor role s).state =
    { s.state with
      permissions := (roleWrites companyId actor s.toSurroundings).write s.state.permissions role } := by
  have hpermissions : (importRole companyId actor role s).state.permissions =
      (roleWrites companyId actor s.toSurroundings).write s.state.permissions role := by
    funext roleId
    change some _ = if (targetRole companyId actor s.roles role.slug).map (·.id) = some roleId then
      some _ else some (s.carries roleId)
    rw [← apply_ite some]
    refine congrArg some (funext fun slug => ?_)
    rw [carries_importRole]
    split <;> rfl
  rw [← hpermissions]
  have hrows : ∃ rows, importRole companyId actor role s = { s with rolePermissions := rows } :=
    exists_importRole role
  obtain ⟨rows, hrows⟩ := hrows
  rw [hrows]
  rfl

theorem relation_insertOrUpdate (relation : Relation) (createdById : String)
    (rows : List RelationshipRow) :
    (fun key => ((insertOrUpdate (·.toRelationshipKey) ⟨relation, createdById⟩
      (fun row => { row with expiresAt := relation.expiresAt, companyId := relation.companyId })
      rows).find? fun row : RelationshipRow => row.toRelationshipKey = key).map (·.toRelation)) =
    relationWrites.write
      (fun key => (rows.find? fun row => row.toRelationshipKey = key).map (·.toRelation)) relation := by
  funext key
  rw [find_insertOrUpdate (fun row : RelationshipRow => row.toRelationshipKey) (by exact fun _ h => h),
    Writes.write]
  by_cases hkey : relation.toRelationshipKey = key
  · subst hkey
    have hwritten : relationWrites.key relation = some relation.toRelationshipKey := rfl
    rw [if_pos rfl, if_pos hwritten]
    cases hfound : rows.find? fun row => row.toRelationshipKey = relation.toRelationshipKey with
    | none => rfl
    | some row =>
      have hrow : row.toRelationshipKey = relation.toRelationshipKey := by
        simpa using List.find?_some hfound
      simp only [Option.map_some, Option.getD_some, hrow]
      rfl
  · have hother : relationWrites.key relation ≠ some key := fun h => hkey (Option.some.inj h)
    rw [if_neg hkey, if_neg hother]

theorem mapping_insertOrUpdate (mapping : GroupMapping) (createdById : String)
    (rows : List MappingRow) :
    (fun key => ((insertOrUpdate (·.toMappingKey) ⟨mapping, true, createdById⟩
      (fun row => { row with toGroupMapping := mapping }) rows).find? fun row : MappingRow =>
        row.toMappingKey = key).map fun row => (row.toGroupMapping, row.isActive)) =
    mappingWrites.write
      (fun key => (rows.find? fun row => row.toMappingKey = key).map fun row =>
        (row.toGroupMapping, row.isActive)) mapping := by
  funext key
  rw [find_insertOrUpdate (fun row : MappingRow => row.toMappingKey) (by exact fun _ _ => rfl),
    Writes.write]
  by_cases hkey : mapping.toMappingKey = key
  · subst hkey
    have hwritten : mappingWrites.key mapping = some mapping.toMappingKey := rfl
    rw [if_pos rfl, if_pos hwritten]
    cases rows.find? fun row => row.toMappingKey = mapping.toMappingKey with
    | none => rfl
    | some row => rfl
  · have hother : mappingWrites.key mapping ≠ some key := fun h => hkey (Option.some.inj h)
    rw [if_neg hkey, if_neg hother]

theorem policyRow_withoutId (id : String) (given : PolicyEntry) :
    policyRow companyId actor "" given =
      (policyRow companyId actor id given).map (·.withoutId) := by
  rw [policyRow, policyRow]
  split <;> rfl

theorem testRow_withoutId (id : String) (given : TestEntry) :
    testRow companyId actor "" given = (testRow companyId actor id given).map (·.withoutId) := by
  rw [testRow, testRow]
  split <;> rfl

theorem importEntry_isSome (entry : BundleEntry) (s : PolicyStore) :
    (importEntry T uuid refused companyId actor entry s).isSome =
      entry.admitted T refused companyId actor := by
  cases entry with
  | null | role _ | scope _ => rfl
  | relationship given =>
    simp only [importEntry, BundleEntry.admitted, BundleEntry.writtenRelation, addRelationship]
    split
    · rfl
    · exact Option.isSome_map
  | policy given =>
    simp only [importEntry, BundleEntry.admitted, BundleEntry.writtenPolicy,
      createContextualPolicy, policyRow_withoutId (uuid s.drawn)]
    split
    · rfl
    · rw [Option.isSome_map, Option.isSome_map]
  | test given =>
    simp only [importEntry, BundleEntry.admitted, BundleEntry.writtenTest,
      createAuthorizationTest, testRow_withoutId (uuid s.drawn)]
    split
    · rfl
    · rw [Option.isSome_map, Option.isSome_map]
  | mapping given =>
    simp only [importEntry, BundleEntry.admitted, BundleEntry.writtenMapping,
      createScimGroupMapping]
    split
    · rfl
    · exact Option.isSome_map

theorem importEntry_state {entry : BundleEntry}
    (h : importEntry T uuid refused companyId actor entry s = some s') :
    s'.state = s.state.imported T refused companyId actor [entry] := by
  rw [imported_singleton]
  cases entry with
  | null => cases h
  | role given =>
    obtain rfl := Option.some.inj h
    rw [state_importRole]
    simp only [BundleEntry.writtenRole, BundleEntry.writtenScope, BundleEntry.writtenRelation,
      BundleEntry.writtenPolicy, BundleEntry.writtenTest, BundleEntry.writtenMapping,
      Option.elim_some, Option.elim_none, Option.toList_none, List.append_nil]
    rfl
  | scope given =>
    obtain rfl := Option.some.inj h
    simp only [BundleEntry.writtenRole, BundleEntry.writtenScope, BundleEntry.writtenRelation,
      BundleEntry.writtenPolicy, BundleEntry.writtenTest, BundleEntry.writtenMapping,
      Option.elim_none, Option.toList_none, List.append_nil, insertScope]
    split
    next => simp only [Option.toList_none, List.append_nil]
    next =>
      cases scopeRow companyId actor given with
      | none => simp only [Option.map_none, Option.getD_none, Option.toList_none, List.append_nil]
      | some row => rfl
  | relationship given =>
    rw [importEntry] at h
    split at h
    next => cases h
    next haccepted =>
      obtain ⟨relation, hrelation, rfl⟩ := Option.map_eq_some_iff.mp h
      simp only [BundleEntry.writtenRole, BundleEntry.writtenScope, BundleEntry.writtenRelation,
        BundleEntry.writtenPolicy, BundleEntry.writtenTest, BundleEntry.writtenMapping,
        Option.elim_none, Option.elim_some, Option.toList_none, List.append_nil, if_neg haccepted,
        hrelation]
      exact congrArg (fun relations => { s.state with relationships := relations })
        (relation_insertOrUpdate relation actor.id s.relationships)
  | policy given =>
    rw [importEntry] at h
    split at h
    next => cases h
    next haccepted =>
      obtain ⟨row, hrow, rfl⟩ := Option.map_eq_some_iff.mp h
      simp only [BundleEntry.writtenRole, BundleEntry.writtenScope, BundleEntry.writtenRelation,
        BundleEntry.writtenPolicy, BundleEntry.writtenTest, BundleEntry.writtenMapping,
        Option.elim_none, Option.toList_none, List.append_nil, if_neg haccepted,
        policyRow_withoutId (uuid s.drawn), hrow, Option.map_some, Option.toList_some]
      exact congrArg (fun policies => { s.state with policies := policies }) List.map_append
  | test given =>
    rw [importEntry] at h
    split at h
    next => cases h
    next haccepted =>
      obtain ⟨row, hrow, rfl⟩ := Option.map_eq_some_iff.mp h
      simp only [BundleEntry.writtenRole, BundleEntry.writtenScope, BundleEntry.writtenRelation,
        BundleEntry.writtenPolicy, BundleEntry.writtenTest, BundleEntry.writtenMapping,
        Option.elim_none, Option.toList_none, List.append_nil, if_neg haccepted,
        testRow_withoutId (uuid s.drawn), hrow, Option.map_some, Option.toList_some]
      exact congrArg (fun tests => { s.state with tests := tests }) List.map_append
  | mapping given =>
    rw [importEntry] at h
    split at h
    next => cases h
    next haccepted =>
      obtain ⟨mapping, hmapping, rfl⟩ := Option.map_eq_some_iff.mp h
      simp only [BundleEntry.writtenRole, BundleEntry.writtenScope, BundleEntry.writtenRelation,
        BundleEntry.writtenPolicy, BundleEntry.writtenTest, BundleEntry.writtenMapping,
        Option.elim_none, Option.elim_some, Option.toList_none, List.append_nil, if_neg haccepted,
        hmapping]
      exact congrArg (fun mappings => { s.state with mappings := mappings })
        (mapping_insertOrUpdate mapping actor.id s.mappings)

variable (T uuid refused companyId actor) in
def Bundle.written (bundle : Bundle) : List BundleEntry :=
  if bundle.schemaVersion ≠ some 1 then []
  else bundle.entries.takeWhile (·.admitted T refused companyId actor)

variable (T uuid refused companyId actor) in
def Bundle.admitted (bundle : Bundle) : Bool :=
  bundle.schemaVersion = some 1 && bundle.entries.all (·.admitted T refused companyId actor)

theorem import_state (bundle : Bundle) (s : PolicyStore) :
    (importPolicyBundle T uuid refused companyId actor bundle s).1.state =
        s.state.imported T refused companyId actor (bundle.written T refused companyId actor) ∧
      (importPolicyBundle T uuid refused companyId actor bundle s).2 =
        bundle.admitted T refused companyId actor := by
  rw [importPolicyBundle, Bundle.written, Bundle.admitted]
  by_cases hversion : bundle.schemaVersion = some 1
  · rw [if_neg (not_not_intro hversion), if_neg (not_not_intro hversion), ← foldl_imported]
    simp only [hversion, decide_true, Bool.true_and]
    exact carryOut_view importEntry_isSome importEntry_state bundle.entries s
  · rw [if_pos hversion, if_pos hversion]
    simp only [hversion, decide_false, Bool.false_and, and_true]
    exact foldl_imported [] s.state

theorem written_of_admitted {bundle : Bundle} (h : bundle.admitted T refused companyId actor = true) :
    bundle.written T refused companyId actor = bundle.entries := by
  rw [Bundle.admitted, Bool.and_eq_true, decide_eq_true_eq] at h
  rw [Bundle.written, if_neg (not_not_intro h.1), List.takeWhile_eq_self_iff]
  exact List.all_eq_true.mp h.2

end Refinement

end PolicyState
end FieldserviceIT.Access
