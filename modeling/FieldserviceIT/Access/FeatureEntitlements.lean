import FieldserviceIT.Common.Users
import FieldserviceIT.Sql.Value
import Mathlib.Tactic.Tauto

/-!
Plan features: the guard in front of a route that requires one, and the list of
features a user is shown. Both start from the same three JSON texts. With a plan
they resolve the maps with the same function, without one each in its own way,
and only the guard asks for the state of the bill.
-/

namespace FieldserviceIT.Access.Features

open Common Sql

/-- What is used of JavaScript: `JSON.parse`, `none` where it throws, and
`toUpperCase`. -/
structure JsRuntime where
  parse : String → Option Js
  toUpperCase : String → String

/-- A key a route can require; an empty one requires nothing. -/
structure FeatureKey where
  name : String
  named : name ≠ ""

abbrev FeatureMap := List (String × Bool)

structure FeaturePlan where
  id : String
  name : String
  features : Js

structure CompanyPlanRow where
  companyId : String
  planId : String
  status : Option String
  gracePeriodEndsAt : Option Int

structure FeatureCompany where
  id : String
  settings : Option String

structure FeatureUser where
  id : String
  companyId : Option String
  isDeleted : Bool
  featureOverrides : Option String
  deriving DecidableEq

structure FeatureStore where
  now : Int
  users : List FeatureUser
  companies : List FeatureCompany
  companyPlans : List CompanyPlanRow
  plans : List FeaturePlan

/-- The features of each plan of `PRODUCT_CATALOG`, all of them included. -/
def productCatalog : List (List String) :=
  [["tickets", "emailNotifications", "publicSubmit"],
    ["tickets", "dispatch", "assets", "emailNotifications", "publicSubmit", "csvExport",
      "apiAccess"],
    ["tickets", "dispatch", "assets", "emailNotifications", "publicSubmit", "csvExport",
      "apiAccess", "rmmIntegration", "slaManagement", "workflows", "reporting", "auditLogs",
      "branding", "timeTracking", "contracts", "kb", "catalogRequests", "network", "aiAgent",
      "billing"]]

def alwaysAvailableFeatures : List String := ["billing"]

section Maps

variable (rt : JsRuntime)

def booleanEntry : String × Js → Option (String × Bool)
  | (key, .scalar (.flag enabled)) => some (key, enabled)
  | _ => none

/-- Texts are parsed, and of an object the boolean entries are kept. -/
def parseFeatureMap : Js → FeatureMap
  | .scalar (.text text) =>
    if text = "" then []
    else match rt.parse text with
      | some (.object fields) => fields.filterMap booleanEntry
      | _ => []
  | .object fields => fields.filterMap booleanEntry
  | _ => []

def FeatureMap.toJs (features : FeatureMap) : Js :=
  .object (features.map fun entry => (entry.1, .scalar (.flag entry.2)))

def resolvedFeature (plan company user : FeatureMap) (feature : String) : Bool :=
  alwaysAvailableFeatures.contains feature ||
    plan.lookup feature = some true && company.lookup feature ≠ some false &&
      user.lookup feature ≠ some false

/-- Assigning to `__proto__` adds no property. -/
def resolveFeatureMap (planFeatures companyOverrides userOverrides : Js)
    (knownFeatures : List String) : FeatureMap :=
  let plan := parseFeatureMap rt planFeatures
  let company := parseFeatureMap rt companyOverrides
  let user := parseFeatureMap rt userOverrides
  let keys := (knownFeatures ++ plan.map (·.1) ++ company.map (·.1) ++ user.map (·.1)).eraseDups
  (keys.filter (· ≠ "__proto__")).map fun feature =>
    (feature, resolvedFeature plan company user feature)

def isFeatureEnabled (feature : String) (planFeatures companyOverrides userOverrides : Js) : Bool :=
  (resolveFeatureMap rt planFeatures companyOverrides userOverrides [feature]).lookup feature =
    some true

/-- `{ ...a, ...b }` -/
def spread (a b : FeatureMap) : FeatureMap :=
  (a.map fun entry => (entry.1, (b.lookup entry.1).getD entry.2)) ++
    b.filter fun entry => (a.lookup entry.1).isNone

end Maps

namespace FeatureStore

variable (s : FeatureStore)

def company (id : String) : Option FeatureCompany :=
  s.companies.find? fun company => company.id = id

def companyPlan (companyId : String) : Option CompanyPlanRow :=
  s.companyPlans.find? fun row => row.companyId = companyId

/-- `parsePlanRow`: a text is parsed, one that cannot be is left as it is. -/
def planFeatures (rt : JsRuntime) (plan : FeaturePlan) : Js :=
  match plan.features with
  | .scalar (.text text) => (rt.parse text).getD plan.features
  | features => features

def plan (row : CompanyPlanRow) : Option FeaturePlan :=
  s.plans.find? fun plan => plan.id = row.planId

def user (id : String) : Option FeatureUser :=
  s.users.find? fun user => user.id = id

end FeatureStore

section Guard

variable (rt : JsRuntime) (s : FeatureStore)

inductive Refusal where
  | forbidden (message : String)
  | typeError
  deriving DecidableEq

def entitled (row : CompanyPlanRow) : Bool :=
  let status := rt.toUpperCase (if truthy row.status then row.status.getD "" else "ACTIVE")
  ["ACTIVE", "TRIALING"].contains status ||
    status = "PAST_DUE" && decide (s.now < row.gracePeriodEndsAt.getD 0)

/-- `parseJson` -/
def parseJson (value : Option String) : Js :=
  if truthy value then (rt.parse (value.getD "")).getD (.object []) else .object []

/-- `value || {}` -/
def orEmptyObject : Js → Js
  | .null | .undefined | .scalar (.text "") | .scalar (.number 0) | .scalar (.flag false) =>
    .object []
  | value => value

/-- Member access of an array by index, or of anything else by name. -/
def member (name : String) : Js → Js
  | .array items => ((items.zipIdx.find? fun item => toString item.2 = name).map (·.1)).getD .undefined
  | value => value.property name

def isFalse : Js → Bool
  | .scalar (.flag false) => true
  | _ => false

/-- A capital letter starts a word, and the first letter becomes one. -/
def label (feature : String) : String :=
  let words := feature.toList.flatMap fun c =>
    if 'A' ≤ c ∧ c ≤ 'Z' then [' ', c] else [c]
  match words with
  | [] => ""
  | c :: rest => rt.toUpperCase (String.singleton c) ++ String.ofList rest

/-- `FeatureAccessGuard.canActivate` -/
def canActivate (feature : Option FeatureKey) (user : FeatureUser) : Except Refusal Unit :=
  match feature with
  | none => .ok ()
  | some feature =>
    if !truthy user.companyId then .ok ()
    else
      let companyId := user.companyId.getD ""
      let companyPlan := s.companyPlan companyId
      if companyPlan.any fun row => !entitled rt s row && feature.name ≠ "billing" then
        .error (.forbidden "Billing access is required to continue using this function")
      else
        match parseJson rt ((s.company companyId).bind (·.settings)) with
        | .null => .error .typeError
        | companySettings =>
          let companyOverrides := orEmptyObject (companySettings.property "featureOverrides")
          let userOverrides := parseFeatureMap rt
            (.ofOption (((s.user user.id).bind (·.featureOverrides)).map .text))
          match companyPlan.bind s.plan with
          | some plan =>
            if isFeatureEnabled rt feature.name (FeatureStore.planFeatures rt plan)
                companyOverrides userOverrides.toJs then .ok ()
            else .error (.forbidden
              (label rt feature.name ++ " is not included or is disabled for this account"))
          | none =>
            if userOverrides.lookup feature.name = some false ||
                isFalse (member feature.name companyOverrides) then
              .error (.forbidden (label rt feature.name ++ " is disabled for this account"))
            else .ok ()

end Guard

section Report

variable (rt : JsRuntime) (s : FeatureStore)

structure EffectiveFeatures where
  companyId : Option String
  plan : Option String
  features : FeatureMap
  userOverrides : FeatureMap
  companyOverrides : FeatureMap

/-- `parseJsonObject` -/
def parseJsonObject (value : Option String) : Js :=
  if truthy value then
    match rt.parse (value.getD "") with
    | some (.object fields) => .object fields
    | _ => .object []
  else .object []

def knownFeatures : List String :=
  (productCatalog.flatMap id).eraseDups

/-- `getEffectiveFeatures`, where the user is found. -/
def getEffectiveFeatures (userId : String) : Option EffectiveFeatures :=
  ((s.user userId).filter fun user => !user.isDeleted).map fun user =>
    let company := if truthy user.companyId then s.company (user.companyId.getD "") else none
    let companySettings := parseJsonObject rt (company.bind (·.settings))
    let userOverrides := parseFeatureMap rt (.ofOption (user.featureOverrides.map .text))
    let companyOverrides := parseFeatureMap rt (companySettings.property "featureOverrides")
    let companyPlan :=
      if truthy user.companyId then s.companyPlan (user.companyId.getD "") else none
    let plan := companyPlan.bind s.plan
    { companyId := user.companyId
      plan := plan.bind fun plan => if plan.name = "" then none else some plan.name
      features := match plan with
        | some plan => resolveFeatureMap rt (FeatureStore.planFeatures rt plan)
            companyOverrides.toJs userOverrides.toJs knownFeatures
        | none => spread companyOverrides userOverrides
      userOverrides := userOverrides
      companyOverrides := companyOverrides }

end Report

section Lookup

variable {α : Type} (feature : String)

theorem lookup_map_key (g : String → α) (keys : List String) :
    (keys.map fun key => (key, g key)).lookup feature =
      if feature ∈ keys then some (g feature) else none := by
  induction keys with
  | nil => simp
  | cons key keys ih =>
    by_cases h : feature = key
    · subst h
      simp
    · have hbeq : (feature == key) = false := beq_false_of_ne h
      rw [List.map_cons, List.lookup_cons, hbeq, ih]
      simp [h]

theorem lookup_map_value (g : String → α → α) (entries : List (String × α)) :
    (entries.map fun entry => (entry.1, g entry.1 entry.2)).lookup feature =
      (entries.lookup feature).map (g feature) := by
  induction entries with
  | nil => rfl
  | cons entry entries ih =>
    obtain ⟨key, value⟩ := entry
    rw [List.map_cons, List.lookup_cons, List.lookup_cons, ih]
    by_cases h : feature = key
    · subst h
      simp
    · have hbeq : (feature == key) = false := beq_false_of_ne h
      rw [hbeq]

theorem lookup_filter_key (p : String → Bool) (entries : List (String × α)) :
    (entries.filter fun entry => p entry.1).lookup feature =
      if p feature then entries.lookup feature else none := by
  induction entries with
  | nil => simp
  | cons entry entries ih =>
    obtain ⟨key, value⟩ := entry
    rw [List.lookup_cons]
    by_cases h : feature = key
    · subst h
      cases hp : p feature
      · rw [List.filter_cons, if_neg (by simp [hp]), ih, hp]
        rfl
      · rw [List.filter_cons, if_pos hp, List.lookup_cons_self, beq_self_eq_true, if_pos rfl]
    · have hbeq : (feature == key) = false := beq_false_of_ne h
      rw [List.filter_cons, hbeq]
      split
      · rw [List.lookup_cons, hbeq, ih]
      · rw [ih]

theorem mem_keys_of_lookup {entries : List (String × α)} {value : α}
    (h : entries.lookup feature = some value) : feature ∈ entries.map (·.1) := by
  obtain ⟨before, after, rfl, -⟩ := List.lookup_eq_some_iff.mp h
  simp

end Lookup

section Maps

variable (rt : JsRuntime) {plan company user : FeatureMap} {feature : String}

@[simp] theorem parseFeatureMap_toJs (features : FeatureMap) :
    parseFeatureMap rt features.toJs = features := by
  induction features with
  | nil => rfl
  | cons entry features ih =>
    simp only [parseFeatureMap, FeatureMap.toJs] at ih
    simp only [parseFeatureMap, FeatureMap.toJs, List.map_cons, List.filterMap_cons, booleanEntry,
      ih]

@[simp] theorem parseFeatureMap_orEmptyObject (value : Js) :
    parseFeatureMap rt (orEmptyObject value) = parseFeatureMap rt value := by
  unfold orEmptyObject
  split <;> rfl

theorem lookup_spread (a b : FeatureMap) (feature : String) :
    (spread a b).lookup feature = (b.lookup feature).or (a.lookup feature) := by
  have hfirst := lookup_map_value feature (fun key value => (b.lookup key).getD value) a
  have hsecond := lookup_filter_key feature (fun key => (a.lookup key).isNone) b
  rw [spread, List.lookup_append, hfirst, hsecond]
  cases a.lookup feature <;> cases b.lookup feature <;> rfl

theorem lookup_resolveFeatureMap (p c u : Js) {known : List String}
    (always : ∀ name ∈ alwaysAvailableFeatures, name = feature → name ∈ known) :
    (resolveFeatureMap rt p c u known).lookup feature = some true ↔
      feature ≠ "__proto__" ∧ resolvedFeature (parseFeatureMap rt p) (parseFeatureMap rt c)
        (parseFeatureMap rt u) feature = true := by
  have hkey : resolvedFeature (parseFeatureMap rt p) (parseFeatureMap rt c)
      (parseFeatureMap rt u) feature = true →
      feature ∈ known ∨ feature ∈ (parseFeatureMap rt p).map (·.1) := by
    intro h
    rcases Bool.or_eq_true_iff.mp h with h | h
    · exact .inl (always feature (List.contains_iff_mem.mp h) rfl)
    · have hplan : (parseFeatureMap rt p).lookup feature = some true := by
        simp only [Bool.and_eq_true, decide_eq_true_eq] at h
        exact h.1.1
      exact .inr (mem_keys_of_lookup feature hplan)
  simp only [resolveFeatureMap, lookup_map_key, List.mem_filter, List.mem_eraseDups,
    List.mem_append, decide_eq_true_eq]
  constructor
  · intro h
    split at h
    next hmem => exact ⟨hmem.2, Option.some.inj h⟩
    next => cases h
  · rintro ⟨hproto, hresolved⟩
    have hmem : ((feature ∈ known ∨ feature ∈ (parseFeatureMap rt p).map (·.1)) ∨
        feature ∈ (parseFeatureMap rt c).map (·.1)) ∨
          feature ∈ (parseFeatureMap rt u).map (·.1) := .inl (.inl (hkey hresolved))
    rw [if_pos ⟨hmem, hproto⟩, hresolved]

theorem isFeatureEnabled_iff (p c u : Js) :
    isFeatureEnabled rt feature p c u = true ↔
      feature ≠ "__proto__" ∧ resolvedFeature (parseFeatureMap rt p) (parseFeatureMap rt c)
        (parseFeatureMap rt u) feature = true := by
  rw [isFeatureEnabled, decide_eq_true_eq]
  refine lookup_resolveFeatureMap rt p c u fun name _ hname => ?_
  rw [hname]
  exact List.mem_singleton_self feature

theorem alwaysAvailable_known : ∀ name ∈ alwaysAvailableFeatures, name ∈ knownFeatures := by
  decide

end Maps

section Agreement

variable (rt : JsRuntime) (s : FeatureStore) (user : FeatureUser) (feature : FeatureKey)

namespace FeatureUser

def companyPlan : Option CompanyPlanRow :=
  s.companyPlan (user.companyId.getD "")

def companySettings : Js :=
  parseJson rt ((s.company (user.companyId.getD "")).bind (·.settings))

def companyOverrides : Js :=
  (user.companySettings rt s).property "featureOverrides"

def overrides : FeatureMap :=
  parseFeatureMap rt (.ofOption (user.featureOverrides.map .text))

end FeatureUser

def isNull : Js → Bool
  | .null => true
  | _ => false

/-- Nothing but the maps can stop the user: the company has no bill that matters,
and its settings are not the text `null`. -/
def unhindered : Bool :=
  ((user.companyPlan s).all fun row => entitled rt s row || feature.name = "billing") &&
    !isNull (user.companySettings rt s)

def includedBy (plan : FeaturePlan) : Bool :=
  feature.name ≠ "__proto__" &&
    resolvedFeature (parseFeatureMap rt (FeatureStore.planFeatures rt plan))
      (parseFeatureMap rt (user.companyOverrides rt s)) (user.overrides rt) feature.name

/-- What the guard reads of the overrides of the company where there is no plan. -/
def companyRefuses : Bool :=
  isFalse (member feature.name (orEmptyObject (user.companyOverrides rt s)))

/-- When the list and the guard agree. With a plan the guard must have nothing but
the maps to refuse by. Without one an override of the user decides the list, and the
guard asks both maps; where neither has an entry, the list leaves the feature out
and the guard lets it pass. -/
def featureAgrees : Bool :=
  match (user.companyPlan s).bind s.plan with
  | some plan => !includedBy rt s user feature plan || unhindered rt s user feature
  | none =>
    match (user.overrides rt).lookup feature.name with
    | some false => true
    | some true => unhindered rt s user feature && !companyRefuses rt s user feature
    | none =>
      if (parseFeatureMap rt (user.companyOverrides rt s)).lookup feature.name = some true then
        unhindered rt s user feature && !companyRefuses rt s user feature
      else
        companyRefuses rt s user feature || !unhindered rt s user feature

def MarksFeature : Prop :=
  ∃ report, getEffectiveFeatures rt s user.id = some report ∧
    report.features.lookup feature.name = some true

variable {rt s user feature}

theorem ok_iff {p : Prop} [Decidable p] {refusal : Refusal} :
    (if p then Except.ok () else Except.error refusal) = Except.ok () ↔ p := by
  by_cases h : p
  · simp [h]
  · simp [h]

theorem isNull_eq_false {value : Js} (h : value = .null → False) : isNull value = false := by
  cases value with
  | null => exact absurd rfl h
  | _ => rfl

theorem property_parseJsonObject (value : Option String) (name : String) :
    (parseJsonObject rt value).property name = (parseJson rt value).property name := by
  unfold parseJsonObject parseJson
  split
  · cases hparse : rt.parse (value.getD "") with
    | none => rfl
    | some parsed => cases parsed <;> rfl
  · rfl

/-- What the guard decides by where the bill and the settings do not stop it. -/
def passesMaps (rt : JsRuntime) (s : FeatureStore) (user : FeatureUser) (feature : FeatureKey) :
    Option FeaturePlan → Bool
  | some plan => includedBy rt s user feature plan
  | none =>
    (user.overrides rt).lookup feature.name ≠ some false && !companyRefuses rt s user feature

def marksMaps (rt : JsRuntime) (s : FeatureStore) (user : FeatureUser) (feature : FeatureKey) :
    Option FeaturePlan → Bool
  | some plan => includedBy rt s user feature plan
  | none => ((user.overrides rt).lookup feature.name).or
      ((parseFeatureMap rt (user.companyOverrides rt s)).lookup feature.name) = some true

theorem featureAgrees_iff :
    featureAgrees rt s user feature = true ↔
      (marksMaps rt s user feature ((user.companyPlan s).bind s.plan) = true ↔
        unhindered rt s user feature = true ∧
          passesMaps rt s user feature ((user.companyPlan s).bind s.plan) = true) := by
  unfold featureAgrees
  cases (user.companyPlan s).bind s.plan with
  | some plan =>
    simp only [marksMaps, passesMaps, Bool.or_eq_true, Bool.not_eq_true']
    cases includedBy rt s user feature plan <;> simp
  | none =>
    simp only [marksMaps, passesMaps]
    cases (user.overrides rt).lookup feature.name with
    | none =>
      by_cases h : (parseFeatureMap rt (user.companyOverrides rt s)).lookup feature.name = some true
      · simp [h]
      · cases companyRefuses rt s user feature <;> simp [h]
    | some enabled => cases enabled <;> simp

variable (found : s.user user.id = some user) (company : truthy user.companyId = true)

include found company

theorem canActivate_iff :
    canActivate rt s (some feature) user = .ok () ↔
      unhindered rt s user feature = true ∧
        passesMaps rt s user feature ((user.companyPlan s).bind s.plan) = true := by
  have hbill : ((user.companyPlan s).any fun row =>
      !entitled rt s row && decide (feature.name ≠ "billing")) =
        !((user.companyPlan s).all fun row => entitled rt s row || feature.name = "billing") := by
    cases user.companyPlan s <;> simp
  have hoverrides : parseFeatureMap rt
      (.ofOption (((s.user user.id).bind (·.featureOverrides)).map .text)) = user.overrides rt := by
    rw [found]
    rfl
  simp only [canActivate, company, Bool.not_true, Bool.false_eq_true, if_false]
  rw [show s.companyPlan (user.companyId.getD "") = user.companyPlan s from rfl, hbill, hoverrides,
    show parseJson rt ((s.company (user.companyId.getD "")).bind (·.settings)) =
      user.companySettings rt s from rfl]
  unfold unhindered
  cases hpaid : (user.companyPlan s).all fun row => entitled rt s row || feature.name = "billing" with
  | false => simp
  | true =>
    simp only [Bool.not_true, Bool.false_eq_true, if_false, Bool.true_and]
    split
    next hnull => simp [hnull, isNull]
    next hsettings =>
      rw [isNull_eq_false hsettings, Bool.not_false, eq_self, true_and]
      cases (user.companyPlan s).bind s.plan with
      | some plan =>
        simp only [isFeatureEnabled_iff, parseFeatureMap_orEmptyObject, parseFeatureMap_toJs,
          passesMaps, includedBy, Bool.and_eq_true, decide_eq_true_eq]
        exact ok_iff
      | none =>
        simp only [passesMaps, companyRefuses, FeatureUser.companyOverrides]
        generalize isFalse _ = refuses
        cases refuses <;> cases (user.overrides rt).lookup feature.name with
        | none => simp
        | some value => cases value <;> simp

theorem marksFeature_iff (kept : user.isDeleted = false) :
    MarksFeature rt s user feature ↔
      marksMaps rt s user feature ((user.companyPlan s).bind s.plan) = true := by
  have hreport : (s.user user.id).filter (fun user => !user.isDeleted) = some user := by
    rw [found, Option.filter_some, kept]
    rfl
  have hoverrides : parseFeatureMap rt ((parseJsonObject rt
      ((s.company (user.companyId.getD "")).bind (·.settings))).property "featureOverrides") =
        parseFeatureMap rt (user.companyOverrides rt s) := by
    rw [property_parseJsonObject]
    rfl
  simp only [MarksFeature, getEffectiveFeatures, hreport, Option.map_some, company, if_true,
    Option.some.injEq, exists_eq_left', hoverrides]
  change List.lookup feature.name (match (user.companyPlan s).bind s.plan with
    | some plan => _
    | none => _) = some true ↔ _
  cases (user.companyPlan s).bind s.plan with
  | some plan =>
    have hknown : ∀ name ∈ alwaysAvailableFeatures, name = feature.name → name ∈ knownFeatures :=
      fun name hname _ => alwaysAvailable_known name hname
    simp only [lookup_resolveFeatureMap rt _ _ _ hknown, parseFeatureMap_toJs, marksMaps,
      includedBy, Bool.and_eq_true, decide_eq_true_eq]
    rfl
  | none =>
    rw [lookup_spread, marksMaps, decide_eq_true_eq]
    rfl

/-- The list marks the feature exactly where the guard lets the user through, if and
only if the two agree on the bill, the settings and the maps without a plan. -/
theorem marks_iff_canActivate (kept : user.isDeleted = false) :
    (MarksFeature rt s user feature ↔ canActivate rt s (some feature) user = .ok ()) ↔
      featureAgrees rt s user feature = true := by
  rw [marksFeature_iff found company kept, canActivate_iff found company, featureAgrees_iff]

end Agreement

section Samples

def companyOff : String :=
  "\x7b\"featureOverrides\":\x7b\"reporting\":false\x7d\x7d"

def userOn : String :=
  "\x7b\"reporting\":true\x7d"

def sampleRuntime : JsRuntime where
  parse text :=
    if text = companyOff then
      some (.object [("featureOverrides", .object [("reporting", .scalar (.flag false))])])
    else if text = userOn then some (.object [("reporting", .scalar (.flag true))])
    else none
  toUpperCase := String.toUpper

def sampleUser : FeatureUser where
  id := "user-1"
  companyId := some "acme"
  isDeleted := false
  featureOverrides := some userOn

def sampleFeature : FeatureKey :=
  ⟨"reporting", by decide⟩

def sampleStore (settings : Option String) : FeatureStore where
  now := 0
  users := [sampleUser]
  companies := [⟨"acme", settings⟩]
  companyPlans := []
  plans := []

theorem marks_iff_canActivate_sample :
    (MarksFeature sampleRuntime (sampleStore none) sampleUser sampleFeature ↔
      canActivate sampleRuntime (sampleStore none) (some sampleFeature) sampleUser = .ok ()) ↔
        featureAgrees sampleRuntime (sampleStore none) sampleUser sampleFeature = true :=
  marks_iff_canActivate (by decide) (by decide) rfl

/-- Without a plan the list takes the word of the user's map over the company's, and
the guard refuses by either. -/
theorem marked_and_refused : ¬ ∀ rt s user feature, s.user user.id = some user →
    truthy user.companyId = true → user.isDeleted = false →
      (MarksFeature rt s user feature ↔ canActivate rt s (some feature) user = .ok ()) := by
  intro h
  have hmarks : MarksFeature sampleRuntime (sampleStore (some companyOff)) sampleUser
      sampleFeature := by
    refine ⟨_, rfl, ?_⟩
    decide
  have hpasses := (h sampleRuntime (sampleStore (some companyOff)) sampleUser sampleFeature
    (by decide) (by decide) rfl).mp hmarks
  have hrefuses : (canActivate sampleRuntime (sampleStore (some companyOff)) (some sampleFeature)
      sampleUser).isOk = false := by
    decide
  rw [hpasses] at hrefuses
  cases hrefuses

end Samples

end FieldserviceIT.Access.Features
