import FieldserviceIT.Tickets.Isolation

/-!
The asset list of the configuration database: the tenant's assets, narrowed by
the permission scopes on the caller and by what the query asks for.
-/

namespace FieldserviceIT.Cmdb

open Common Database Sql Tickets

/-- What one permission scope admits; `email` is the caller's. -/
def scopeAlternatives (user : CurrentUser) (email : Option String) (scope : PermissionScope) :
    List Filter :=
  match scope.scopeType with
  | .assigned => [[.column "assignedUser" (valueOrNull (orElse email (some user.id)))]]
  | .location =>
    match user.location with
    | some place => if place = "" then [] else [[.column "location" (.equals (.text place))]]
    | none => []
  | .customers =>
    if scope.scopeValues.isEmpty then []
    else [[.column "companyId" (anyOfTexts scope.scopeValues)]]
  | .all | .department | .relationship => []

def applyAssetScopes (where_ : Filter) (scopes : Option (List PermissionScope))
    (user : CurrentUser) (email : Option String) : Filter :=
  if restrictedBy "assets." scopes then
    let alternatives := (matchingScopes "assets." scopes).flatMap (scopeAlternatives user email)
    let restriction : Filter := if alternatives.isEmpty then
        [.column "id" (.equals (.text "__scope_denied__"))]
      else [.or alternatives]
    assign (.and (partsOf where_ ++ [restriction])) where_
  else where_

structure AssetQuery where
  assetType : Option String
  deviceCategory : Option String
  enrollmentStatus : Option String
  complianceStatus : Option String
  ownership : Option String
  search : Option String

/-- `if (query[name]) where[name] = query[name]` -/
def withColumn (name : String) (value : Option String) (where_ : Filter) : Filter :=
  if truthy value then assign (.column name (valueOrNull value)) where_ else where_

def assetSearch (search : String) : Entry :=
  .or [[.column "name" (.contains search)], [.column "serialNumber" (.contains search)],
    [.column "ipAddress" (.contains search)], [.column "imei" (.contains search)],
    [.column "assignedUser" (.contains search)]]

/-- The filter of `CmdbService.findAll`. -/
def findAllWhere (companyId : String) (query : AssetQuery) (user : CurrentUser)
    (email : Option String) : Filter :=
  let where_ : Filter := [.column "companyId" (.equals (.text companyId)), .column "deletedAt" .isNull]
  let restricted := applyAssetScopes where_ user.permissionScopes user email
  let narrowed :=
    withColumn "ownership" query.ownership <|
      withColumn "complianceStatus" query.complianceStatus <|
        withColumn "enrollmentStatus" query.enrollmentStatus <|
          withColumn "deviceCategory" query.deviceCategory <|
            withColumn "assetType" query.assetType restricted
  if truthy query.search then assign (assetSearch (query.search.getD "")) narrowed else narrowed

section Where

def columnEntry (name : String) (value : Option String) : Filter :=
  if truthy value then [.column name (valueOrNull value)] else []

def searchEntry (search : Option String) : Filter :=
  if truthy search then [assetSearch (search.getD "")] else []

def scopeEntry (user : CurrentUser) (email : Option String) : Filter :=
  if restrictedBy "assets." user.permissionScopes then
    let alternatives := (matchingScopes "assets." user.permissionScopes).flatMap
      (scopeAlternatives user email)
    [.and [if alternatives.isEmpty then [.column "id" (.equals (.text "__scope_denied__"))]
      else [.or alternatives]]]
  else []

def KeysIn (keys : List String) (f : Filter) : Prop :=
  ∀ e ∈ f, e.key ∈ keys

theorem assign_eq {keys : List String} {f : Filter} {x : Entry} (h : KeysIn keys f)
    (hkey : x.key ∉ keys) : assign x f = f ++ [x] :=
  assign_fresh fun e he heq => hkey (heq ▸ h e he)

theorem keysIn_columnEntry {keys : List String} {f : Filter} (name : String)
    (value : Option String) (h : KeysIn keys f) :
    KeysIn (name :: keys) (f ++ columnEntry name value) := by
  intro e he
  obtain he | he := List.mem_append.mp he
  · exact List.mem_cons_of_mem _ (h e he)
  · rw [columnEntry] at he
    split at he
    · obtain rfl := List.mem_singleton.mp he
      exact List.mem_cons_self
    · exact absurd he List.not_mem_nil

theorem withColumn_eq {keys : List String} {name : String} (value : Option String)
    {where_ : Filter} (h : KeysIn keys where_) (hname : name ∉ keys) :
    withColumn name value where_ = where_ ++ columnEntry name value := by
  rw [withColumn, columnEntry]
  split
  · exact assign_eq h hname
  · rw [List.append_nil]

def queryEntries (query : AssetQuery) : Filter :=
  columnEntry "assetType" query.assetType ++ columnEntry "deviceCategory" query.deviceCategory ++
    columnEntry "enrollmentStatus" query.enrollmentStatus ++
      columnEntry "complianceStatus" query.complianceStatus ++
        columnEntry "ownership" query.ownership ++ searchEntry query.search

theorem findAllWhere_eq (companyId : String) (query : AssetQuery) (user : CurrentUser)
    (email : Option String) :
    findAllWhere companyId query user email =
      [.column "companyId" (.equals (.text companyId)), .column "deletedAt" .isNull] ++
        scopeEntry user email ++ queryEntries query := by
  have hbase : applyAssetScopes
      [.column "companyId" (.equals (.text companyId)), .column "deletedAt" .isNull]
      user.permissionScopes user email =
        [.column "companyId" (.equals (.text companyId)), .column "deletedAt" .isNull] ++
          scopeEntry user email := by
    rw [applyAssetScopes, scopeEntry]
    split
    · simp only [partsOf, List.nil_append]
      exact assign_fresh (by simp [Entry.key])
    · rw [List.append_nil]
  have hkeys : KeysIn ["companyId", "deletedAt", "AND"]
      ([.column "companyId" (.equals (.text companyId)), .column "deletedAt" .isNull] ++
        scopeEntry user email) := by
    intro e he
    simp only [List.cons_append, List.nil_append, List.mem_cons] at he
    obtain rfl | rfl | he := he
    · simp [Entry.key]
    · simp [Entry.key]
    · rw [scopeEntry] at he
      split at he
      · obtain rfl := List.mem_singleton.mp he
        simp [Entry.key]
      · exact absurd he List.not_mem_nil
  have hasset := keysIn_columnEntry "assetType" query.assetType hkeys
  have hdevice := keysIn_columnEntry "deviceCategory" query.deviceCategory hasset
  have henrollment := keysIn_columnEntry "enrollmentStatus" query.enrollmentStatus hdevice
  have hcompliance := keysIn_columnEntry "complianceStatus" query.complianceStatus henrollment
  have hownership := keysIn_columnEntry "ownership" query.ownership hcompliance
  simp only [findAllWhere, hbase]
  rw [withColumn_eq _ hkeys (by decide), withColumn_eq _ hasset (by decide),
    withColumn_eq _ hdevice (by decide), withColumn_eq _ henrollment (by decide),
    withColumn_eq _ hcompliance (by decide), queryEntries, searchEntry]
  split
  · rw [assign_eq hownership (by simp [assetSearch, Entry.key])]
    simp only [List.append_assoc]
  · simp only [List.append_assoc, List.append_nil]

theorem columnEntry_isOver {name : String} (value : Option String) (h : name ∈ columns "Asset") :
    Filter.isOver "Asset" (columnEntry name value) = true := by
  rw [columnEntry]
  split
  · simp [Filter.isOver, Entry.isOver, h]
  · rfl

theorem scopeAlternatives_isOver (user : CurrentUser) (email : Option String)
    (scope : PermissionScope) {f : Filter} (hf : f ∈ scopeAlternatives user email scope) :
    Filter.isOver "Asset" f = true := by
  rw [scopeAlternatives] at hf
  split at hf
  · obtain rfl := List.mem_singleton.mp hf
    exact Filter.isOver_column (by decide) _
  · split at hf
    · split at hf
      · exact absurd hf List.not_mem_nil
      · obtain rfl := List.mem_singleton.mp hf
        exact Filter.isOver_column (by decide) _
    · exact absurd hf List.not_mem_nil
  · split at hf
    · exact absurd hf List.not_mem_nil
    · obtain rfl := List.mem_singleton.mp hf
      exact Filter.isOver_column (by decide) _
  all_goals exact absurd hf List.not_mem_nil

theorem scopeEntry_isOver (user : CurrentUser) (email : Option String) :
    Filter.isOver "Asset" (scopeEntry user email) = true := by
  rw [scopeEntry]
  split
  · simp only [Filter.isOver, Entry.isOver, Filter.allOver, Bool.and_true]
    split
    · exact Filter.isOver_column (by decide) _
    · simp only [Filter.isOver, Entry.isOver, Filter.allOver_eq, Bool.and_true, List.all_eq_true]
      intro f hf
      obtain ⟨scope, -, hscope⟩ := List.mem_flatMap.mp hf
      exact scopeAlternatives_isOver user email scope hscope
  · rfl

theorem findAllWhere_isOver (companyId : String) (query : AssetQuery) (user : CurrentUser)
    (email : Option String) :
    Filter.isOver "Asset" (findAllWhere companyId query user email) = true := by
  have hcolumns : ∀ name ∈ ["assetType", "deviceCategory", "enrollmentStatus", "complianceStatus",
      "ownership"], name ∈ columns "Asset" := by
    decide
  have hsearch : Filter.isOver "Asset" (searchEntry query.search) = true := by
    rw [searchEntry]
    split
    · simp [assetSearch, Filter.isOver, Entry.isOver, Filter.allOver, columns, assetColumns]
    · rfl
  rw [findAllWhere_eq, queryEntries]
  refine Filter.isOver_append (Filter.isOver_append ?_ (scopeEntry_isOver user email)) ?_
  · simp [Filter.isOver, Entry.isOver, columns, assetColumns]
  · refine Filter.isOver_append (Filter.isOver_append (Filter.isOver_append (Filter.isOver_append (Filter.isOver_append ?_ ?_) ?_) ?_) ?_) hsearch
    all_goals exact columnEntry_isOver _ (hcolumns _ (by simp))

end Where

section Listed

variable (comparison : Comparison) (objectLiteral : Js → Option Scalar) (db : Db)

def Lists (companyId : String) (query : AssetQuery) (user : CurrentUser) (email : Option String)
    (row : Row) : Prop :=
  ∃ rows, Query.assetFindMany.rows (server comparison objectLiteral) db
      (Filter.fields (findAllWhere companyId query user email)) = some rows ∧ row ∈ rows

def isDenied (row : Row) : Bool :=
  (ColumnTest.equals (.text "__scope_denied__")).holds comparison (row "id")

variable {comparison objectLiteral db} {companyId : String} {query : AssetQuery}
variable {user : CurrentUser} {email : Option String} {row : Row}

theorem restricted_of_lists (hlists : Lists comparison objectLiteral db companyId query user email row)
    (hscopes : restrictedBy "assets." user.permissionScopes = true) :
    (matchingScopes "assets." user.permissionScopes).flatMap (scopeAlternatives user email) = [] ∧
      isDenied comparison row = true := by
  obtain ⟨rows, hrows, hrow⟩ := hlists
  have hover := findAllWhere_isOver companyId query user email
  have hmem : ∀ e, scopeEntry user email = [e] → e ∈ findAllWhere companyId query user email := by
    intro e he
    rw [findAllWhere_eq, he]
    simp
  cases halternatives : (matchingScopes "assets." user.permissionScopes).flatMap
      (scopeAlternatives user email) with
  | nil =>
    have hentry : scopeEntry user email =
        [.and [[.column "id" (.equals (.text "__scope_denied__"))]]] := by
      simp [scopeEntry, hscopes, halternatives]
    have hholds := (Query.assetFindMany.holds_of_mem_rows hover hrows hrow (hmem _ hentry) rfl).2
    refine ⟨rfl, ?_⟩
    rw [isDenied]
    simpa [Entry.holds, Filter.allHold, Filter.holds] using hholds
  | cons f alternatives =>
    have hentry : scopeEntry user email = [.and [[.or (f :: alternatives)]]] := by
      simp [scopeEntry, hscopes, halternatives]
    have hbreaks : Query.assetFindMany.refuses (findAllWhere companyId query user email) = true := by
      have hany : (findAllWhere companyId query user email).any
          Query.assetFindMany.breaksOn = true :=
        List.any_eq_true.mpr ⟨_, hmem _ hentry, rfl⟩
      rw [Query.refuses, hany, findAllWhere_eq]
      rfl
    rw [Query.rows_of_refuses comparison objectLiteral .assetFindMany db hover hbreaks] at hrows
    cases hrows

theorem lists_of_fewer {scopes : Option (List PermissionScope)}
    (hlists : Lists comparison objectLiteral db companyId query user email row)
    (hfewer : ∀ scope ∈ matchingScopes "assets." scopes,
      scope ∈ matchingScopes "assets." user.permissionScopes)
    (hfree : restrictedBy "assets." user.permissionScopes = false →
      restrictedBy "assets." scopes = false) :
    Lists comparison objectLiteral db companyId query { user with permissionScopes := scopes } email
      row := by
  have hsame : scopeEntry { user with permissionScopes := scopes } email = scopeEntry user email →
      Lists comparison objectLiteral db companyId query { user with permissionScopes := scopes }
        email row := by
    intro hentry
    rw [Lists, findAllWhere_eq, hentry, ← findAllWhere_eq]
    exact hlists
  cases hscopes : restrictedBy "assets." user.permissionScopes with
  | false =>
    refine hsame ?_
    rw [scopeEntry, scopeEntry, hscopes, hfree hscopes]
    rfl
  | true =>
    obtain ⟨hnone, -⟩ := restricted_of_lists hlists hscopes
    cases hless : restrictedBy "assets." scopes with
    | true =>
      have hnone' : (matchingScopes "assets." scopes).flatMap
          (scopeAlternatives { user with permissionScopes := scopes } email) = [] := by
        rw [List.flatMap_eq_nil_iff] at hnone ⊢
        exact fun scope hmem => hnone scope (hfewer scope hmem)
      refine hsame ?_
      simp only [scopeEntry, hscopes, hless, hnone, hnone']
    | false =>
      obtain ⟨rows, hrows, hrow⟩ := hlists
      refine Query.assetFindMany.mem_rows_of_subset
        (findAllWhere_isOver companyId query user email) (fun e he => ?_) ?_ hrows hrow
      · have hentry : scopeEntry { user with permissionScopes := scopes } email = [] := by
          simp [scopeEntry, hless]
        rw [findAllWhere_eq, hentry, List.append_nil] at he
        rw [findAllWhere_eq]
        obtain he | he := List.mem_append.mp he
        · simp only [List.mem_append]
          exact .inl (.inl he)
        · exact List.mem_append_right _ he
      · rw [findAllWhere_eq]
        rfl

end Listed

end FieldserviceIT.Cmdb
