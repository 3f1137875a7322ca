import FieldserviceIT.Settings.Service

/-!
The fields of a company's settings one by one: what a company has of each, which of them a request
gives, and what a call that writes whole columns leaves in each of them.
-/

namespace FieldserviceIT.Settings

open Common Lib

section Fields

inductive Part where
  | banner
  | workflow
  | reporting
  deriving DecidableEq

def Part.name : Part → String
  | banner => "banner"
  | workflow => "workflow"
  | reporting => "reporting"

inductive Override where
  | featureOverrides
  | restrictions
  deriving DecidableEq

def Override.name : Override → String
  | featureOverrides => "featureOverrides"
  | restrictions => "restrictions"

/-- A field of the customization. -/
inductive CustomField where
  | plain (key : String) (hplain : ["banner", "workflow", "reporting"].contains key = false)
  | part (p : Part) (key : String)

/-- A field of the settings. -/
inductive SettingsField where
  | plain (key : String)
      (hplain : ["featureOverrides", "restrictions", "customization"].contains key = false)
  | override (o : Override) (key : String)
  | custom (field : CustomField)

inductive Field where
  | name
  | domain
  | logo
  | branding (key : String)
  | settings (field : SettingsField)

def CustomField.value : CustomField → Json → Option Json
  | plain key _, customization => customization.property key
  | part p key, customization => (customization.property p.name).bind (Json.property key)

def SettingsField.value : SettingsField → Json → Option Json
  | plain key _, settings => settings.property key
  | override o key, settings => (settings.property o.name).bind (Json.property key)
  | custom field, settings => (settings.property "customization").bind field.value

def orNullText (value : Option String) : Json :=
  (value.map Json.text).getD .null

/-- What a company has of a field; `none` where it is not there. -/
def Field.value : Field → Company → Option Json
  | name, company => some (.text company.name)
  | domain, company => some (orNullText company.domain)
  | logo, company => some (orNullText company.logo)
  | branding key, company => (safeJson company.branding).property key
  | settings field, company => field.value (safeJson company.settings)

def CompanyUpdate.sets (data : CompanyUpdate) : Field → Bool
  | .name => data.name.isSome
  | .domain => data.domain.isSome
  | .logo => data.logo.isSome
  | .branding _ => data.branding.isSome
  | .settings _ => data.settings.isSome

def CompanyUpdate.value (data : CompanyUpdate) : Field → Option Json
  | .name => data.name.map .text
  | .domain => data.domain.map orNullText
  | .logo => data.logo.map orNullText
  | .branding key => data.branding.bind (Json.property key)
  | .settings field => data.settings.bind field.value

theorem value_updated (data : CompanyUpdate) (row : Company) (f : Field) :
    f.value (row.updated data) = if data.sets f then data.value f else f.value row := by
  obtain ⟨name, domain, logo, branding, settings⟩ := data
  cases f with
  | name => cases name <;> rfl
  | domain => cases domain <;> rfl
  | logo => cases logo <;> rfl
  | branding key => cases branding <;> rfl
  | settings field => cases settings <;> rfl

end Fields

section Requests

def SettingsDto.overrides (dto : SettingsDto) : Override → Option Json
  | .featureOverrides => dto.featureOverrides
  | .restrictions => dto.restrictions

def TenantCustomization.part (sanitized : TenantCustomization) : Part → Entries
  | .banner => sanitized.banner.entries
  | .workflow => sanitized.workflow.entries
  | .reporting => sanitized.reporting.entries

def SettingsDto.given (dto : SettingsDto) : Field → Option Json
  | .name => (dto.name.filter (· ≠ "")).map .text
  | .domain => dto.domain.map orNullText
  | .logo => dto.logo.map orNullText
  | .settings (.plain key _) =>
    if key = "timezone" then dto.timezone else if key = "locale" then dto.locale else none
  | .settings (.override o key) => (dto.overrides o).bind (Json.property key)
  | _ => none

/-- A field of the branding can be given as null or, a colour, as an empty text; then it is
nothing. -/
def givenBranding (input : Json) (sanitized : TenantBranding) : Field → Option (Option Json)
  | .logo => sanitized.logoUrl.map fun url => some (.text url)
  | .branding key => (sanitized.entries.lookup key).filter fun value =>
    value.isSome || (input.property key).isSome
  | _ => none

def givenCustomization (sanitized : TenantCustomization) : Field → Option Json
  | .settings (.custom (.part p key)) => ((sanitized.part p).lookup key).join
  | _ => none

def givenReporting (url key : String) : Option Json :=
  if key = "showCompanyLogo" then some (.bool true)
  else if key = "logoUrl" then some (.text url) else none

def givenImage (field url : String) : Field → Option Json
  | .logo => if field = "logoUrl" then some (.text url) else none
  | .branding key => if field ≠ "bannerImageUrl" ∧ key = field then some (.text url) else none
  | .settings (.custom (.part .banner key)) =>
    if field = "bannerImageUrl" ∧ key = "imageUrl" then some (.text url) else none
  | .settings (.custom (.part .reporting key)) =>
    if field = "logoUrl" then givenReporting url key else none
  | _ => none

/-- What the request of a call says about a field, if it has the field. -/
def Call.given : Call → Field → Option (Option Json)
  | settings dto, f => (dto.given f).map some
  | branding input sanitized, f => givenBranding input sanitized f
  | customization sanitized, f => (givenCustomization sanitized f).map some
  | image field url, f => (givenImage field url f).map some
  | reset, _ | rollback _, _ => none

/-- A field that the request does not have and an update of the branding has as undefined. -/
def Call.drops : Call → Field → Bool
  | branding input sanitized, .branding key =>
    (sanitized.entries.lookup key).any fun value =>
      !(value.isSome || (input.property key).isSome)
  | _, _ => false

/-- The field is what the request says, and otherwise what was read. -/
def Call.merged (call : Call) (seen : Company) (f : Field) : Option Json :=
  (call.given f).getD (if call.drops f then none else f.value seen)

theorem getD_map_some (given old : Option Json) : (given.map some).getD old = given.or old := by
  cases given <;> rfl

def TenantCustomization.isEmpty (sanitized : TenantCustomization) : Bool :=
  (defined sanitized.banner.entries).isEmpty && (defined sanitized.workflow.entries).isEmpty &&
    (defined sanitized.reporting.entries).isEmpty

/-- The part of the settings an image goes to, and what is around it. -/
def imagePlaces (field : String) (company : Company) : List Json :=
  let settings := safeJson company.settings
  let customization := Json.orObject (settings.property "customization")
  if field = "bannerImageUrl" then
    [settings, customization, Json.orObject (customization.property "banner")]
  else if field = "logoUrl" then
    [safeJson company.branding, settings, customization,
      Json.orObject (customization.property "reporting")]
  else [safeJson company.branding]

/-- No property that the call assigns goes to an array, where it would not be written out. -/
def Call.lands (seen : Company) : Call → Bool
  | customization sanitized => sanitized.isEmpty || !((safeJson seen.settings).isArray)
  | image field _ => (imagePlaces field seen).all fun place => !(place.isArray)
  | _ => true

end Requests

section Settings

variable {dto : SettingsDto} {seen : Company}

theorem lookup_withEntry (name : String) (value : Option Json) (fields : List (String × Json))
    (key : String) : (withEntry name value fields).lookup key =
      if key = name then value.or (fields.lookup key) else fields.lookup key := by
  cases value with
  | none =>
    rw [withEntry, Option.none_or]
    exact (ite_self _).symm
  | some value =>
    rw [withEntry, lookup_put]
    split <;> rfl

theorem lookup_withOverrides_of_ne {name key : String} (h : key ≠ name) (value : Option Json)
    (fields : List (String × Json)) :
    (withOverrides name value fields).lookup key = fields.lookup key := by
  cases value with
  | none => rfl
  | some value => rw [withOverrides, lookup_put, if_neg h]

theorem property_withOverrides (name key : String) (value : Option Json)
    (fields : List (String × Json)) :
    ((withOverrides name value fields).lookup name).bind (Json.property key) =
      (value.bind (Json.property key)).or ((fields.lookup name).bind (Json.property key)) := by
  cases value with
  | none => rfl
  | some value =>
    rw [withOverrides, lookup_put, if_pos rfl, Option.bind_some, Json.property_object,
      lookup_spread, Option.bind_some]
    exact congrArg (Option.or _) (Json.property_orObject (fields.lookup name) key)

theorem property_mergedSettings_of_ne {name : String}
    (hname : ["timezone", "locale", "featureOverrides", "restrictions"].contains name = false)
    (existing : Json) : (mergedSettings dto existing).property name = existing.property name := by
  simp only [List.contains_eq_mem, decide_eq_false_iff_not, List.mem_cons, not_or] at hname
  obtain ⟨htimezone, hlocale, hfeatures, hrestrictions, -⟩ := hname
  rw [mergedSettings, Json.property_object, lookup_withOverrides_of_ne hrestrictions,
    lookup_withOverrides_of_ne hfeatures, lookup_withEntry, if_neg hlocale, lookup_withEntry,
    if_neg htimezone, Json.property]

theorem property_mergedSettings_timezone (existing : Json) :
    (mergedSettings dto existing).property "timezone" =
      dto.timezone.or (existing.property "timezone") := by
  rw [mergedSettings, Json.property_object, lookup_withOverrides_of_ne (by decide),
    lookup_withOverrides_of_ne (by decide), lookup_withEntry, if_neg (by decide), lookup_withEntry,
    if_pos rfl, Json.property]

theorem property_mergedSettings_locale (existing : Json) :
    (mergedSettings dto existing).property "locale" =
      dto.locale.or (existing.property "locale") := by
  rw [mergedSettings, Json.property_object, lookup_withOverrides_of_ne (by decide),
    lookup_withOverrides_of_ne (by decide), lookup_withEntry, if_pos rfl, lookup_withEntry,
    if_neg (by decide), Json.property]

theorem override_mergedSettings (o : Override) (key : String) (existing : Json) :
    ((mergedSettings dto existing).property o.name).bind (Json.property key) =
      ((dto.overrides o).bind (Json.property key)).or
        ((existing.property o.name).bind (Json.property key)) := by
  cases o with
  | featureOverrides =>
    rw [Override.name, mergedSettings, Json.property_object,
      lookup_withOverrides_of_ne (by decide), property_withOverrides, lookup_withEntry,
      if_neg (by decide), lookup_withEntry, if_neg (by decide), Json.property,
      SettingsDto.overrides]
  | restrictions =>
    rw [Override.name, mergedSettings, Json.property_object, property_withOverrides,
      lookup_withOverrides_of_ne (by decide), lookup_withEntry, if_neg (by decide),
      lookup_withEntry, if_neg (by decide), Json.property, SettingsDto.overrides]

theorem value_mergedSettings (existing : Json) (field : SettingsField) :
    field.value (mergedSettings dto existing) =
      (dto.given (.settings field)).or (field.value existing) := by
  cases field with
  | plain key hplain =>
    simp only [SettingsField.value, SettingsDto.given]
    split
    next h => rw [h, property_mergedSettings_timezone]
    next htimezone =>
      split
      next h => rw [h, property_mergedSettings_locale]
      next hlocale =>
        rw [Option.none_or]
        apply property_mergedSettings_of_ne
        simp only [List.contains_eq_mem, decide_eq_false_iff_not, List.mem_cons, not_or] at hplain ⊢
        exact ⟨htimezone, hlocale, hplain.1, hplain.2.1, List.not_mem_nil⟩
  | override o key => exact override_mergedSettings o key existing
  | custom field =>
    simp only [SettingsField.value, SettingsDto.given, Option.none_or]
    rw [property_mergedSettings_of_ne (by decide)]

theorem settings_isSome_of_given {field : SettingsField}
    (h : (dto.given (.settings field)).isSome = true) :
    (dto.timezone.isSome || dto.locale.isSome || dto.featureOverrides.isSome ||
      dto.restrictions.isSome) = true := by
  cases field with
  | plain key hplain =>
    simp only [SettingsDto.given] at h
    split at h
    · rw [h]
      rfl
    · split at h
      · rw [h, Bool.or_true]
        rfl
      · cases h
  | override o key =>
    simp only [SettingsDto.given] at h
    have hsome := Option.isSome_of_isSome_bind h
    cases o with
    | featureOverrides =>
      simp only [SettingsDto.overrides] at hsome
      rw [hsome, Bool.or_true]
      rfl
    | restrictions =>
      simp only [SettingsDto.overrides] at hsome
      rw [hsome, Bool.or_true]
  | custom field => cases h

theorem sets_of_given_settings {f : Field} (h : (dto.given f).isSome = true) :
    (settingsUpdate dto seen).sets f = true := by
  cases f with
  | name | domain | logo => simpa [SettingsDto.given, CompanyUpdate.sets, settingsUpdate] using h
  | branding key => cases h
  | settings field =>
    rw [CompanyUpdate.sets, settingsUpdate, if_pos (settings_isSome_of_given h)]
    rfl

theorem value_settingsUpdate {f : Field} (h : (settingsUpdate dto seen).sets f = true) :
    (settingsUpdate dto seen).value f = (Call.settings dto).merged seen f := by
  simp only [Call.merged, Call.given, Call.drops, Bool.false_eq_true, if_false, getD_map_some]
  cases f with
  | name | domain | logo =>
    simp only [CompanyUpdate.sets, settingsUpdate] at h
    simp only [CompanyUpdate.value, settingsUpdate, SettingsDto.given]
    rw [Option.or_of_isSome]
    rw [Option.isSome_map, h]
  | branding key => cases h
  | settings field =>
    simp only [CompanyUpdate.sets, settingsUpdate] at h
    split at h
    next hany =>
      rw [CompanyUpdate.value, settingsUpdate, if_pos hany]
      exact value_mergedSettings (safeJson seen.settings) field
    next => cases h

end Settings

section Branding

variable {input : Json} {sanitized : TenantBranding} {seen : Company}

theorem getD_eq_filter (entry : Option (Option Json)) (given : Option Json → Bool)
    (hgiven : ∀ value, given (some value) = true) (old : Option Json) : entry.getD old =
      (entry.filter given).getD (if entry.any fun value => !(given value) then none else old) := by
  cases entry with
  | none => rfl
  | some value =>
    cases h : given value with
    | true =>
      rw [Option.filter_some_pos h]
      rfl
    | false =>
      cases value with
      | some value => exact absurd (hgiven value) (Bool.eq_false_iff.mp h)
      | none =>
        rw [Option.filter_some_neg h, Option.any_some, h]
        rfl

theorem sets_of_given_branding {f : Field}
    (h : (givenBranding input sanitized f).isSome = true) :
    (brandingUpdate sanitized seen).sets f = true := by
  cases f with
  | logo | branding key => rfl
  | name | domain | settings field => cases h

theorem value_brandingUpdate {f : Field} (h : (brandingUpdate sanitized seen).sets f = true) :
    (brandingUpdate sanitized seen).value f = (Call.branding input sanitized).merged seen f := by
  cases f with
  | name | domain | settings field => cases h
  | logo =>
    simp only [CompanyUpdate.value, brandingUpdate, Call.merged, Call.given, Call.drops,
      givenBranding, Field.value]
    cases sanitized.logoUrl with
    | none => rfl
    | some url => rfl
  | branding key =>
    have hlookup := lookup_defined_spread (safeJson seen.branding).entries
      (nodup_branding sanitized) key
    simp only [CompanyUpdate.value, brandingUpdate, Call.merged, Call.given, Call.drops,
      givenBranding, Field.value, Option.bind_some, Json.property_object, hlookup]
    exact getD_eq_filter _ (fun value => value.isSome || (input.property key).isSome)
      (fun _ => rfl) _

end Branding

section Assignments

variable {place child place' : Json}

theorem property_assign_of_ne {name : String} (h : place.assign name child = some place')
    {key : String} (hkey : key ≠ name) : place'.property key = place.property key := by
  rw [Json.property_assign h, if_neg fun hboth => hkey hboth.2]

theorem property_assign_self {name : String} (h : place.assign name child = some place')
    (harray : place.isArray = false) : place'.property name = some child := by
  rw [Json.property_assign h, if_pos ⟨harray, rfl⟩]

theorem property_assign_array {name : String} (h : place.assign name child = some place')
    (harray : place.isArray = true) (key : String) : place'.property key = place.property key := by
  rw [Json.property_assign h, if_neg]
  rintro ⟨hnot, -⟩
  rw [harray] at hnot
  cases hnot

theorem isArray_assign {name : String} (h : place.assign name child = some place') :
    place'.isArray = place.isArray := by
  cases place with
  | object fields =>
    obtain rfl := Option.some.inj h
    rfl
  | array items =>
    obtain rfl := Option.some.inj h
    rfl
  | null | bool _ | number _ | text _ => cases h

theorem value_assign_plain (h : place.assign "customization" child = some place')
    (key : String) (hplain) :
    (SettingsField.plain key hplain).value place' = (SettingsField.plain key hplain).value place := by
  have hne := hplain
  simp only [List.contains_eq_mem, decide_eq_false_iff_not, List.mem_cons, not_or] at hne
  exact property_assign_of_ne h hne.2.2.1

theorem value_assign_override (h : place.assign "customization" child = some place')
    (o : Override) (key : String) :
    (SettingsField.override o key).value place' = (SettingsField.override o key).value place := by
  rw [SettingsField.value, property_assign_of_ne h (by cases o <;> decide)]
  rfl

theorem value_assign_custom (h : place.assign "customization" child = some place')
    (harray : place.isArray = false) (field : CustomField) :
    (SettingsField.custom field).value place' = field.value child := by
  rw [SettingsField.value, property_assign_self h harray, Option.bind_some]

theorem value_assign_array (h : place.assign "customization" child = some place')
    (harray : place.isArray = true) (field : SettingsField) : field.value place' = field.value place := by
  cases field with
  | plain key hplain => exact value_assign_plain h key hplain
  | override o key => exact value_assign_override h o key
  | custom field =>
    rw [SettingsField.value, SettingsField.value, property_assign_array h harray]

theorem customField_orObject (field : CustomField) (value : Option Json) :
    field.value (Json.orObject value) = value.bind field.value := by
  cases field with
  | plain key hplain => exact Json.property_orObject value key
  | part p key =>
    rw [CustomField.value, Json.property_orObject]
    cases value <;> rfl

theorem custom_of_array {items : List Json} (field : CustomField) :
    (SettingsField.custom field).value (.array items) = none := by
  rw [SettingsField.value, Json.property_array items (by decide)]
  rfl

theorem part_of_array {items : List Json} (p : Part) (key : String) :
    (CustomField.part p key).value (.array items) = none := by
  rw [CustomField.value, Json.property_array items (by cases p <;> decide)]
  rfl

theorem exists_items {value : Json} (h : value.isArray = true) : ∃ items, value = .array items := by
  cases value with
  | array items => exact ⟨items, rfl⟩
  | null | bool _ | number _ | text _ | object _ => cases h

end Assignments

section Customizations

variable {sanitized : TenantCustomization} {seen : Company} {data : CompanyUpdate}

theorem nodup_part (sanitized : TenantCustomization) (p : Part) :
    ((sanitized.part p).map Prod.fst).Nodup := by
  cases p with
  | banner => exact nodup_banner _
  | workflow => exact nodup_workflow _
  | reporting => exact nodup_reporting _

theorem property_mergedPart (existing : Json) (p : Part) (key : String) :
    (mergedPart existing p.name (sanitized.part p)).property key =
      ((sanitized.part p).lookup key).join.or ((existing.property p.name).bind (Json.property key)) := by
  rw [mergedPart, Json.property_object, lookup_spread, lookup_defined (nodup_part sanitized p)]
  exact congrArg (Option.or _) (Json.property_orObject (existing.property p.name) key)

theorem property_mergedCustomization (existing : Json) (p : Part) :
    (mergedCustomization sanitized existing).property p.name =
      some (mergedPart existing p.name (sanitized.part p)) := by
  rw [mergedCustomization, Json.property_object]
  cases p with
  | banner =>
    rw [Part.name, lookup_put, if_neg (by decide), lookup_put, if_neg (by decide), lookup_put,
      if_pos rfl, TenantCustomization.part]
  | workflow =>
    rw [Part.name, lookup_put, if_neg (by decide), lookup_put, if_pos rfl, TenantCustomization.part]
  | reporting => rw [Part.name, lookup_put, if_pos rfl, TenantCustomization.part]

theorem value_mergedCustomization (existing : Json) (field : CustomField) :
    field.value (mergedCustomization sanitized existing) =
      (givenCustomization sanitized (.settings (.custom field))).or (field.value existing) := by
  cases field with
  | plain key hplain =>
    have hne := hplain
    simp only [List.contains_eq_mem, decide_eq_false_iff_not, List.mem_cons, not_or] at hne
    rw [CustomField.value, mergedCustomization, Json.property_object, lookup_put,
      if_neg hne.2.2.1, lookup_put, if_neg hne.2.1, lookup_put, if_neg hne.1]
    rfl
  | part p key =>
    rw [CustomField.value, property_mergedCustomization, Option.bind_some, property_mergedPart]
    rfl

theorem exists_customizationUpdate (h : customizationUpdate sanitized seen = some data) :
    ∃ settings', (safeJson seen.settings).assign "customization" (mergedCustomization sanitized
      (Json.orObject ((safeJson seen.settings).property "customization"))) = some settings' ∧
        data = ⟨none, none, none, none, some settings'⟩ := by
  obtain ⟨settings', hassign, rfl⟩ := Option.map_eq_some_iff.mp h
  exact ⟨settings', hassign, rfl⟩

theorem sets_of_given_customization (h : customizationUpdate sanitized seen = some data) {f : Field}
    (hgiven : (givenCustomization sanitized f).isSome = true) : data.sets f = true := by
  obtain ⟨settings', -, rfl⟩ := exists_customizationUpdate h
  cases f with
  | settings field => rfl
  | name | domain | logo | branding key => cases hgiven

theorem given_of_isEmpty (h : sanitized.isEmpty = true) (f : Field) :
    givenCustomization sanitized f = none := by
  cases f with
  | name | domain | logo | branding key => rfl
  | settings field =>
    cases field with
    | plain key hplain => rfl
    | override o key => rfl
    | custom field =>
      cases field with
      | plain key hplain => rfl
      | part p key =>
        rw [TenantCustomization.isEmpty, Bool.and_eq_true, Bool.and_eq_true] at h
        obtain ⟨⟨hbanner, hworkflow⟩, hreporting⟩ := h
        rw [givenCustomization, ← lookup_defined (nodup_part sanitized p)]
        cases p with
        | banner =>
          rw [TenantCustomization.part, List.isEmpty_iff.mp hbanner]
          rfl
        | workflow =>
          rw [TenantCustomization.part, List.isEmpty_iff.mp hworkflow]
          rfl
        | reporting =>
          rw [TenantCustomization.part, List.isEmpty_iff.mp hreporting]
          rfl

theorem exists_given_part {p : Part} (h : (defined (sanitized.part p)).isEmpty = false) :
    ∃ key value, givenCustomization sanitized (.settings (.custom (.part p key))) = some value := by
  cases hentries : defined (sanitized.part p) with
  | nil =>
    rw [hentries] at h
    cases h
  | cons entry entries =>
    refine ⟨entry.1, entry.2, ?_⟩
    rw [givenCustomization, ← lookup_defined (nodup_part sanitized p), hentries, lookup_cons,
      if_pos rfl]

theorem value_customizationUpdate (h : customizationUpdate sanitized seen = some data)
    (hlands : (Call.customization sanitized).lands seen = true) {f : Field}
    (hsets : data.sets f = true) :
    data.value f = (Call.customization sanitized).merged seen f := by
  obtain ⟨settings', hassign, rfl⟩ := exists_customizationUpdate h
  simp only [Call.merged, Call.given, Call.drops, Bool.false_eq_true, if_false, getD_map_some]
  cases f with
  | name | domain | logo | branding key => cases hsets
  | settings field =>
    simp only [CompanyUpdate.value, Option.bind_some, Field.value]
    rw [Call.lands, Bool.or_eq_true, Bool.not_eq_true'] at hlands
    by_cases harray : (safeJson seen.settings).isArray = true
    · rw [harray] at hlands
      rw [given_of_isEmpty (hlands.resolve_right Bool.noConfusion), Option.none_or]
      exact value_assign_array hassign harray field
    · rw [Bool.not_eq_true] at harray
      cases field with
      | plain key hplain => exact value_assign_plain hassign key hplain
      | override o key => exact value_assign_override hassign o key
      | custom field =>
        rw [value_assign_custom hassign harray, value_mergedCustomization, customField_orObject]
        rfl

theorem not_stored_customization (h : customizationUpdate sanitized seen = some data)
    (hlands : (Call.customization sanitized).lands seen = false) :
    ∃ f value, givenCustomization sanitized f = some value ∧ data.sets f = true ∧
      data.value f = none := by
  obtain ⟨settings', hassign, rfl⟩ := exists_customizationUpdate h
  rw [Call.lands, Bool.or_eq_false_iff, Bool.not_eq_false'] at hlands
  obtain ⟨hgives, harray⟩ := hlands
  have hpart : ∃ p key value,
      givenCustomization sanitized (.settings (.custom (.part p key))) = some value := by
    rw [TenantCustomization.isEmpty, Bool.and_eq_false_iff, Bool.and_eq_false_iff] at hgives
    obtain (hbanner | hworkflow) | hreporting := hgives
    · exact ⟨.banner, exists_given_part hbanner⟩
    · exact ⟨.workflow, exists_given_part hworkflow⟩
    · exact ⟨.reporting, exists_given_part hreporting⟩
  obtain ⟨p, key, value, hgiven⟩ := hpart
  refine ⟨_, value, hgiven, rfl, ?_⟩
  simp only [CompanyUpdate.value, Option.bind_some]
  rw [value_assign_array hassign harray]
  obtain ⟨items, hitems⟩ := exists_items harray
  rw [hitems]
  exact custom_of_array _

end Customizations

section Images

variable {field url : String} {seen : Company} {data : CompanyUpdate} {place place' : Json}

theorem exists_imageCustomization (h : imageCustomization field url place = some place') :
    ∃ banner reporting middle,
      imageBanner field url (Json.orObject (place.property "banner")) = some banner ∧
      imageReporting field url (Json.orObject (place.property "reporting")) = some reporting ∧
      place.assign "banner" banner = some middle ∧ middle.assign "reporting" reporting = some place' := by
  obtain ⟨banner, hbanner, h⟩ := Option.bind_eq_some_iff.mp h
  obtain ⟨reporting, hreporting, h⟩ := Option.bind_eq_some_iff.mp h
  obtain ⟨middle, hmiddle, h⟩ := Option.bind_eq_some_iff.mp h
  exact ⟨banner, reporting, middle, hbanner, hreporting, hmiddle, h⟩

theorem exists_imageUpdate (h : imageUpdate field url seen = some data) :
    ∃ customization settings branding, imageCustomization field url
        (Json.orObject ((safeJson seen.settings).property "customization")) = some customization ∧
      (safeJson seen.settings).assign "customization" customization = some settings ∧
      imageBranding field url (safeJson seen.branding) = some branding ∧
      data = ⟨none, none, if field = "logoUrl" then some (some url) else none, some branding,
        some settings⟩ := by
  obtain ⟨customization, hcustomization, h⟩ := Option.bind_eq_some_iff.mp h
  obtain ⟨settings, hsettings, h⟩ := Option.bind_eq_some_iff.mp h
  obtain ⟨branding, hbranding, rfl⟩ := Option.map_eq_some_iff.mp h
  exact ⟨customization, settings, branding, hcustomization, hsettings, hbranding, rfl⟩

theorem property_imageBanner {banner : Json} (h : imageBanner field url place = some banner)
    (hplace : field = "bannerImageUrl" → place.isArray = false) (key : String) :
    banner.property key =
      (if field = "bannerImageUrl" ∧ key = "imageUrl" then some (.text url) else none).or
        (place.property key) := by
  unfold imageBanner at h
  split at h
  next hfield =>
    rw [Json.property_assign h]
    by_cases hkey : key = "imageUrl"
    · rw [if_pos ⟨hplace hfield, hkey⟩, if_pos ⟨hfield, hkey⟩, Option.some_or]
    · rw [if_neg fun hboth => hkey hboth.2, if_neg fun hboth => hkey hboth.2, Option.none_or]
  next hfield =>
    obtain rfl := Option.some.inj h
    rw [if_neg fun hboth => hfield hboth.1, Option.none_or]

theorem property_imageReporting {reporting : Json}
    (h : imageReporting field url place = some reporting)
    (hplace : field = "logoUrl" → place.isArray = false) (key : String) :
    reporting.property key =
      (if field = "logoUrl" then givenReporting url key else none).or (place.property key) := by
  unfold imageReporting at h
  split at h
  next hfield =>
    obtain ⟨middle, hmiddle, hlast⟩ := Option.bind_eq_some_iff.mp h
    have harray := hplace hfield
    rw [if_pos hfield, givenReporting]
    by_cases hshow : key = "showCompanyLogo"
    · subst hshow
      rw [property_assign_self hlast ((isArray_assign hmiddle).trans harray), if_pos rfl,
        Option.some_or]
    · rw [property_assign_of_ne hlast hshow, if_neg hshow]
      by_cases hlogo : key = "logoUrl"
      · subst hlogo
        rw [property_assign_self hmiddle harray, if_pos rfl, Option.some_or]
      · rw [property_assign_of_ne hmiddle hlogo, if_neg hlogo, Option.none_or]
  next hfield =>
    obtain rfl := Option.some.inj h
    rw [if_neg hfield, Option.none_or]

theorem property_imageBranding {branding : Json} (h : imageBranding field url place = some branding)
    (hplace : field ≠ "bannerImageUrl" → place.isArray = false) (key : String) :
    branding.property key =
      (if field ≠ "bannerImageUrl" ∧ key = field then some (.text url) else none).or
        (place.property key) := by
  unfold imageBranding at h
  split at h
  next hfield =>
    obtain rfl := Option.some.inj h
    rw [if_neg fun hboth => hboth.1 hfield, Option.none_or]
  next hfield =>
    rw [Json.property_assign h]
    by_cases hkey : key = field
    · rw [if_pos ⟨hplace hfield, hkey⟩, if_pos ⟨hfield, hkey⟩, Option.some_or]
    · rw [if_neg fun hboth => hkey hboth.2, if_neg fun hboth => hkey hboth.2, Option.none_or]

theorem value_imageCustomization_array (h : imageCustomization field url place = some place')
    (harray : place.isArray = true) (f : CustomField) : f.value place' = f.value place := by
  obtain ⟨banner, reporting, middle, -, -, hmiddle, hlast⟩ := exists_imageCustomization h
  have hsame : ∀ key, place'.property key = place.property key := fun key =>
    (property_assign_array hlast ((isArray_assign hmiddle).trans harray) key).trans
      (property_assign_array hmiddle harray key)
  cases f with
  | plain key hplain => exact hsame key
  | part p key => rw [CustomField.value, CustomField.value, hsame]

theorem value_imageCustomization (h : imageCustomization field url place = some place')
    (harray : place.isArray = false)
    (hbanner : field = "bannerImageUrl" → (Json.orObject (place.property "banner")).isArray = false)
    (hreporting : field = "logoUrl" → (Json.orObject (place.property "reporting")).isArray = false)
    (f : CustomField) : f.value place' =
      (givenImage field url (.settings (.custom f))).or (f.value place) := by
  obtain ⟨banner, reporting, middle, himageBanner, himageReporting, hmiddle, hlast⟩ :=
    exists_imageCustomization h
  cases f with
  | plain key hplain =>
    have hne := hplain
    simp only [List.contains_eq_mem, decide_eq_false_iff_not, List.mem_cons, not_or] at hne
    exact (property_assign_of_ne hlast hne.2.2.1).trans (property_assign_of_ne hmiddle hne.1)
  | part p key =>
    cases p with
    | banner =>
      rw [CustomField.value, Part.name, property_assign_of_ne hlast (by decide),
        property_assign_self hmiddle harray, Option.bind_some,
        property_imageBanner himageBanner hbanner, Json.property_orObject]
      rfl
    | workflow =>
      rw [CustomField.value, Part.name, property_assign_of_ne hlast (by decide),
        property_assign_of_ne hmiddle (by decide)]
      rfl
    | reporting =>
      rw [CustomField.value, Part.name,
        property_assign_self hlast ((isArray_assign hmiddle).trans harray), Option.bind_some,
        property_imageReporting himageReporting hreporting, Json.property_orObject]
      rfl

theorem sets_of_given_image (h : imageUpdate field url seen = some data) {f : Field}
    (hgiven : (givenImage field url f).isSome = true) : data.sets f = true := by
  obtain ⟨customization, settings, branding, -, -, -, rfl⟩ := exists_imageUpdate h
  cases f with
  | name | domain => cases hgiven
  | branding key | settings field => rfl
  | logo =>
    simp only [givenImage] at hgiven
    split at hgiven
    next hfield => simp only [CompanyUpdate.sets, if_pos hfield, Option.isSome_some]
    next => cases hgiven

theorem given_of_other_image (hbanner : field ≠ "bannerImageUrl") (hlogo : field ≠ "logoUrl")
    (f : SettingsField) : givenImage field url (.settings f) = none := by
  cases f with
  | plain key hplain => rfl
  | override o key => rfl
  | custom f =>
    cases f with
    | plain key hplain => rfl
    | part p key =>
      cases p with
      | banner => exact if_neg fun hboth => hbanner hboth.1
      | workflow => rfl
      | reporting => exact if_neg hlogo

/-- What `imagePlaces` are where the image goes there. -/
structure ImageLands (field : String) (seen : Company) : Prop where
  branding : field ≠ "bannerImageUrl" → (safeJson seen.branding).isArray = false
  settings : field = "bannerImageUrl" ∨ field = "logoUrl" →
    (safeJson seen.settings).isArray = false ∧
      (Json.orObject ((safeJson seen.settings).property "customization")).isArray = false
  banner : field = "bannerImageUrl" → (Json.orObject ((Json.orObject
    ((safeJson seen.settings).property "customization")).property "banner")).isArray = false
  reporting : field = "logoUrl" → (Json.orObject ((Json.orObject
    ((safeJson seen.settings).property "customization")).property "reporting")).isArray = false

theorem imageLands_of_lands (h : (Call.image field url).lands seen = true) :
    ImageLands field seen := by
  simp only [Call.lands, imagePlaces] at h
  split at h
  next hbanner =>
    simp only [List.all_cons, List.all_nil, Bool.and_true, Bool.and_eq_true, Bool.not_eq_true'] at h
    obtain ⟨hsettings, hcustomization, hinner⟩ := h
    refine ⟨fun hnot => absurd hbanner hnot, fun _ => ⟨hsettings, hcustomization⟩, fun _ => hinner,
      fun hlogo => ?_⟩
    rw [hbanner] at hlogo
    exact absurd hlogo (by decide)
  next hbanner =>
    split at h
    next hlogo =>
      simp only [List.all_cons, List.all_nil, Bool.and_true, Bool.and_eq_true, Bool.not_eq_true'] at h
      obtain ⟨hbranding, hsettings, hcustomization, hinner⟩ := h
      exact ⟨fun _ => hbranding, fun _ => ⟨hsettings, hcustomization⟩,
        fun hfield => absurd hfield hbanner, fun _ => hinner⟩
    next hlogo =>
      simp only [List.all_cons, List.all_nil, Bool.and_true, Bool.not_eq_true'] at h
      exact ⟨fun _ => h, fun hfield => absurd hfield (not_or.mpr ⟨hbanner, hlogo⟩),
        fun hfield => absurd hfield hbanner, fun hfield => absurd hfield hlogo⟩

theorem value_imageUpdate (h : imageUpdate field url seen = some data)
    (hlands : (Call.image field url).lands seen = true) {f : Field} (hsets : data.sets f = true) :
    data.value f = (Call.image field url).merged seen f := by
  obtain ⟨customization, settings, branding, hcustomization, hsettings, hbranding, rfl⟩ :=
    exists_imageUpdate h
  obtain ⟨hbrandingPlace, hsettingsPlace, hbannerPlace, hreportingPlace⟩ := imageLands_of_lands hlands
  simp only [Call.merged, Call.given, Call.drops, Bool.false_eq_true, if_false, getD_map_some]
  cases f with
  | name | domain => cases hsets
  | logo =>
    simp only [CompanyUpdate.sets] at hsets
    split at hsets
    next hfield =>
      simp only [CompanyUpdate.value, givenImage, if_pos hfield, Option.map_some, Option.some_or]
      rfl
    next => cases hsets
  | branding key =>
    rw [CompanyUpdate.value, Option.bind_some, property_imageBranding hbranding hbrandingPlace]
    rfl
  | settings f =>
    rw [CompanyUpdate.value, Option.bind_some]
    by_cases hfield : field = "bannerImageUrl" ∨ field = "logoUrl"
    · obtain ⟨hsettingsArray, hcustomizationArray⟩ := hsettingsPlace hfield
      cases f with
      | plain key hplain => exact value_assign_plain hsettings key hplain
      | override o key => exact value_assign_override hsettings o key
      | custom f =>
        rw [value_assign_custom hsettings hsettingsArray,
          value_imageCustomization hcustomization hcustomizationArray hbannerPlace
            hreportingPlace, customField_orObject]
        rfl
    · rw [not_or] at hfield
      rw [given_of_other_image hfield.1 hfield.2, Option.none_or]
      by_cases hsettingsArray : (safeJson seen.settings).isArray = true
      · exact value_assign_array hsettings hsettingsArray f
      · rw [Bool.not_eq_true] at hsettingsArray
        cases f with
        | plain key hplain => exact value_assign_plain hsettings key hplain
        | override o key => exact value_assign_override hsettings o key
        | custom f =>
          rw [value_assign_custom hsettings hsettingsArray]
          have hsame : f.value customization = f.value (Json.orObject
              ((safeJson seen.settings).property "customization")) := by
            by_cases hcustomizationArray : (Json.orObject
                ((safeJson seen.settings).property "customization")).isArray = true
            · exact value_imageCustomization_array hcustomization hcustomizationArray f
            · have hvalue := value_imageCustomization hcustomization
                (Bool.not_eq_true _ ▸ hcustomizationArray) hbannerPlace hreportingPlace f
              rw [given_of_other_image hfield.1 hfield.2, Option.none_or] at hvalue
              exact hvalue
          rw [hsame, customField_orObject]
          rfl

theorem property_of_array {name : String} (harray : place.isArray = true)
    (hname : name.toList.all Char.isDigit = false) : place.property name = none := by
  obtain ⟨items, rfl⟩ := exists_items harray
  exact Json.property_array items hname

theorem branding_not_stored {branding : Json} (h : imageBranding field url place = some branding)
    (harray : place.isArray = true) {name : String} (hname : name.toList.all Char.isDigit = false) :
    branding.property name = none := by
  unfold imageBranding at h
  split at h
  · obtain rfl := Option.some.inj h
    exact property_of_array harray hname
  · rw [property_assign_array h harray]
    exact property_of_array harray hname

theorem part_not_stored {customization settings : Json}
    (hcustomization : imageCustomization field url
      (Json.orObject ((safeJson seen.settings).property "customization")) = some customization)
    (hsettings : (safeJson seen.settings).assign "customization" customization = some settings)
    (p : Part) (key : String)
    (h : (safeJson seen.settings).isArray = true ∨
      (Json.orObject ((safeJson seen.settings).property "customization")).isArray = true ∨
      (CustomField.part p key).value customization = none) :
    (SettingsField.custom (.part p key)).value settings = none := by
  by_cases harray : (safeJson seen.settings).isArray = true
  · rw [value_assign_array hsettings harray]
    obtain ⟨items, hitems⟩ := exists_items harray
    rw [hitems]
    exact custom_of_array _
  · rw [value_assign_custom hsettings (Bool.not_eq_true _ ▸ harray)]
    obtain hinner | hnone := h.resolve_left harray
    · rw [value_imageCustomization_array hcustomization hinner]
      obtain ⟨items, hitems⟩ := exists_items hinner
      rw [hitems]
      exact part_of_array p key
    · exact hnone

theorem banner_not_stored (h : imageCustomization "bannerImageUrl" url place = some place')
    (harray : place.isArray = false)
    (hinner : (Json.orObject (place.property "banner")).isArray = true) :
    (CustomField.part .banner "imageUrl").value place' = none := by
  obtain ⟨banner, reporting, middle, hbanner, -, hmiddle, hlast⟩ := exists_imageCustomization h
  rw [imageBanner, if_pos rfl] at hbanner
  rw [CustomField.value, Part.name, property_assign_of_ne hlast (by decide),
    property_assign_self hmiddle harray, Option.bind_some, property_assign_array hbanner hinner]
  exact property_of_array hinner (by decide)

theorem reporting_not_stored (h : imageCustomization "logoUrl" url place = some place')
    (harray : place.isArray = false)
    (hinner : (Json.orObject (place.property "reporting")).isArray = true) :
    (CustomField.part .reporting "logoUrl").value place' = none := by
  obtain ⟨banner, reporting, middle, -, hreporting, hmiddle, hlast⟩ := exists_imageCustomization h
  rw [imageReporting, if_pos rfl] at hreporting
  obtain ⟨half, hhalf, hwhole⟩ := Option.bind_eq_some_iff.mp hreporting
  rw [CustomField.value, Part.name,
    property_assign_self hlast ((isArray_assign hmiddle).trans harray), Option.bind_some,
    property_assign_array hwhole ((isArray_assign hhalf).trans hinner),
    property_assign_array hhalf hinner]
  exact property_of_array hinner (by decide)

theorem digits_of_imageFields (h : imageFields.contains field = true) :
    field.toList.all Char.isDigit = false := by
  rw [List.contains_iff_mem] at h
  simp only [imageFields, List.mem_cons, List.not_mem_nil, or_false] at h
  obtain rfl | rfl | rfl | rfl | rfl := h <;> decide

theorem not_stored_image (h : imageUpdate field url seen = some data)
    (hfield : imageFields.contains field = true)
    (hlands : (Call.image field url).lands seen = false) :
    ∃ f value, givenImage field url f = some value ∧ data.sets f = true ∧ data.value f = none := by
  obtain ⟨customization, settings, branding, hcustomization, hsettings, hbranding, rfl⟩ :=
    exists_imageUpdate h
  simp only [Call.lands, imagePlaces] at hlands
  split at hlands
  next hbanner =>
    subst hbanner
    simp only [List.all_cons, List.all_nil, Bool.and_true, Bool.and_eq_false_iff,
      Bool.not_eq_false'] at hlands
    refine ⟨.settings (.custom (.part .banner "imageUrl")), .text url, ?_, rfl, ?_⟩
    · rw [givenImage, if_pos ⟨rfl, rfl⟩]
    apply part_not_stored hcustomization hsettings
    by_cases hinner : (Json.orObject ((safeJson seen.settings).property "customization")).isArray = true
    · exact .inr (.inl hinner)
    · refine hlands.imp_right fun hrest => .inr ?_
      exact banner_not_stored hcustomization (Bool.not_eq_true _ ▸ hinner)
        (hrest.resolve_left hinner)
  next hbanner =>
    split at hlands
    next hlogo =>
      subst hlogo
      simp only [List.all_cons, List.all_nil, Bool.and_true, Bool.and_eq_false_iff,
        Bool.not_eq_false'] at hlands
      obtain hbrandingArray | hlands := hlands
      · refine ⟨.branding "logoUrl", .text url, ?_, rfl, ?_⟩
        · rw [givenImage, if_pos ⟨hbanner, rfl⟩]
        exact branding_not_stored hbranding hbrandingArray (by decide)
      · refine ⟨.settings (.custom (.part .reporting "logoUrl")), .text url, rfl, rfl, ?_⟩
        apply part_not_stored hcustomization hsettings
        by_cases hinner :
            (Json.orObject ((safeJson seen.settings).property "customization")).isArray = true
        · exact .inr (.inl hinner)
        · refine hlands.imp_right fun hrest => .inr ?_
          exact reporting_not_stored hcustomization (Bool.not_eq_true _ ▸ hinner)
            (hrest.resolve_left hinner)
    next hlogo =>
      simp only [List.all_cons, List.all_nil, Bool.and_true, Bool.not_eq_false'] at hlands
      refine ⟨.branding field, .text url, ?_, rfl, ?_⟩
      · rw [givenImage, if_pos ⟨hbanner, rfl⟩]
      exact branding_not_stored hbranding hlands (digits_of_imageFields hfield)

end Images
end FieldserviceIT.Settings
