import FieldserviceIT.Settings.Customization
import FieldserviceIT.Lib.Interleaving
import FieldserviceIT.Lib.Upserts
import FieldserviceIT.Common.Users

/-!
The settings of a company. Every call reads the row, notes in the audit log what it has read, and
writes whole columns that it has worked out from it; a history entry can be written back. A JSON
text is taken as what `JSON.parse` makes of it. A call that fails is one that is not advanced any
further.
-/

namespace FieldserviceIT.Settings

open Common Lib

/-- `none` where `JSON.parse` throws. -/
abbrev JsonText := Option Json

structure Company where
  id : String
  name : String
  domain : Option String
  logo : Option String
  branding : Option JsonText
  settings : Option JsonText

/-- `safeJson(value, {})` -/
def safeJson (value : Option JsonText) : Json :=
  value.join.getD (.object [])

/-- What is noted of a company. -/
structure Snapshot where
  name : String
  domain : Option String
  logo : Option String
  branding : Json
  settings : Json

/-- A row of the audit log; `diff` is read as a snapshot if it is one. -/
structure AuditLog where
  id : Nat
  companyId : String
  actorId : String
  action : String
  resourceType : String
  diff : Option Snapshot

/-- The columns that are written. -/
structure CompanyUpdate where
  name : Option String
  domain : Option (Option String)
  logo : Option (Option String)
  branding : Option Json
  settings : Option Json

def CompanyUpdate.isEmpty (data : CompanyUpdate) : Bool :=
  data.name.isNone && data.domain.isNone && data.logo.isNone && data.branding.isNone &&
    data.settings.isNone

def Company.updated (data : CompanyUpdate) (row : Company) : Company :=
  { row with
    name := data.name.getD row.name
    domain := data.domain.getD row.domain
    logo := data.logo.getD row.logo
    branding := (data.branding.map some).or row.branding
    settings := (data.settings.map some).or row.settings }

/-- A domain or a logo can be given as null. -/
structure SettingsDto where
  name : Option String
  domain : Option (Option String)
  logo : Option (Option String)
  timezone : Option Json
  locale : Option Json
  featureOverrides : Option Json
  restrictions : Option Json

/-- What a call writes, once its request is checked. -/
inductive Call where
  | settings (dto : SettingsDto)
  | branding (input : Json) (sanitized : TenantBranding)
  | customization (sanitized : TenantCustomization)
  | reset
  | image (field : String) (url : String)
  | rollback (snapshot : Snapshot)

section Updates

def withEntry (name : String) (value : Option Json) (fields : List (String × Json)) :
    List (String × Json) :=
  match value with
  | some value => put name value fields
  | none => fields

/-- `{ ...(settings[name] || {}), ...value }` -/
def withOverrides (name : String) (value : Option Json) (fields : List (String × Json)) :
    List (String × Json) :=
  match value with
  | some value =>
    put name (.object (spread (Json.orObject (fields.lookup name)).entries value.entries)) fields
  | none => fields

def mergedSettings (dto : SettingsDto) (existingSettings : Json) : Json :=
  .object (withOverrides "restrictions" dto.restrictions
    (withOverrides "featureOverrides" dto.featureOverrides
      (withEntry "locale" dto.locale
        (withEntry "timezone" dto.timezone existingSettings.entries))))

def settingsUpdate (dto : SettingsDto) (company : Company) : CompanyUpdate where
  name := dto.name.filter (· ≠ "")
  domain := dto.domain
  logo := dto.logo
  branding := none
  settings :=
    if dto.timezone.isSome || dto.locale.isSome || dto.featureOverrides.isSome ||
        dto.restrictions.isSome then some (mergedSettings dto (safeJson company.settings))
    else none

def brandingUpdate (sanitized : TenantBranding) (company : Company) : CompanyUpdate where
  name := none
  domain := none
  logo := some (sanitized.logoUrl.or company.logo)
  branding := some (.object (defined (spread
    ((safeJson company.branding).entries.map fun entry => (entry.1, some entry.2))
    sanitized.entries)))
  settings := none

/-- `{ ...(existing[name] || {}), ...defined(sanitized) }` -/
def mergedPart (existing : Json) (name : String) (sanitized : Entries) : Json :=
  .object (spread (Json.orObject (existing.property name)).entries (defined sanitized))

def mergedCustomization (sanitized : TenantCustomization) (existing : Json) : Json :=
  .object (put "reporting" (mergedPart existing "reporting" sanitized.reporting.entries)
    (put "workflow" (mergedPart existing "workflow" sanitized.workflow.entries)
      (put "banner" (mergedPart existing "banner" sanitized.banner.entries) existing.entries)))

/-- `none` where a property is assigned to what takes none. -/
def customizationUpdate (sanitized : TenantCustomization) (company : Company) :
    Option CompanyUpdate :=
  let settings := safeJson company.settings
  let existing := Json.orObject (settings.property "customization")
  (settings.assign "customization" (mergedCustomization sanitized existing)).map fun settings =>
    ⟨none, none, none, none, some settings⟩

def withoutKey (name : String) : Json → Option Json
  | .null => none
  | .object fields => some (.object (fields.filter fun entry => entry.1 ≠ name))
  | other => some other

def resetUpdate (company : Company) : Option CompanyUpdate :=
  (withoutKey "customization" (safeJson company.settings)).map fun settings =>
    ⟨none, none, some none, some (.object []), some settings⟩

def imageBanner (field url : String) (banner : Json) : Option Json :=
  if field = "bannerImageUrl" then banner.assign "imageUrl" (.text url) else some banner

def imageReporting (field url : String) (reporting : Json) : Option Json :=
  if field = "logoUrl" then
    (reporting.assign "logoUrl" (.text url)).bind (·.assign "showCompanyLogo" (.bool true))
  else some reporting

/-- The customization with its banner and its reporting, created where they are missing. -/
def imageCustomization (field url : String) (customization : Json) : Option Json :=
  (imageBanner field url (Json.orObject (customization.property "banner"))).bind fun banner =>
    (imageReporting field url (Json.orObject (customization.property "reporting"))).bind
      fun reporting => (customization.assign "banner" banner).bind (·.assign "reporting" reporting)

def imageBranding (field url : String) (branding : Json) : Option Json :=
  if field = "bannerImageUrl" then some branding else branding.assign field (.text url)

def imageUpdate (field url : String) (company : Company) : Option CompanyUpdate :=
  let settings := safeJson company.settings
  (imageCustomization field url (Json.orObject (settings.property "customization"))).bind
    fun customization => (settings.assign "customization" customization).bind fun settings =>
      (imageBranding field url (safeJson company.branding)).map fun branding =>
        ⟨none, none, if field = "logoUrl" then some (some url) else none, some branding,
          some settings⟩

def rollbackUpdate (snapshot : Snapshot) (company : Company) : CompanyUpdate where
  name := some (if snapshot.name ≠ "" then snapshot.name else company.name)
  domain := some (snapshot.domain.or company.domain)
  logo := some snapshot.logo
  branding := some snapshot.branding
  settings := some snapshot.settings

/-- What a call writes of the company as it has read it; `none` is a `TypeError`. -/
def Call.update : Call → Company → Option CompanyUpdate
  | settings dto, company => some (settingsUpdate dto company)
  | branding _ sanitized, company => some (brandingUpdate sanitized company)
  | customization sanitized, company => customizationUpdate sanitized company
  | reset, company => resetUpdate company
  | image field url, company => imageUpdate field url company
  | rollback snapshot, company => some (rollbackUpdate snapshot company)

end Updates

/-- `completed` has the calls that have written, the last one first. No statement reads it. -/
structure SettingsStore where
  companies : List Company
  auditLog : NumberedTable AuditLog AuditLog.id
  completed : List (String × Call)

inductive SettingsOp where
  | read
  | record (companyId actorId action : String) (snapshot : Snapshot)
  /-- The columns, as a call worked them out from the row it had seen. -/
  | update (id : String) (data : CompanyUpdate) (call : Call) (seen : Company)

abbrev SettingsProgram := Prog SettingsStore SettingsOp

def findCompany (id : String) (s : SettingsStore) : Option Company :=
  s.companies.find? fun row => row.id = id

def findEntry (id : Nat) (s : SettingsStore) : Option AuditLog :=
  s.auditLog.rows.find? fun row => row.id = id

def newEntry (companyId actorId action : String) (snapshot : Snapshot) (id : Nat) : AuditLog :=
  ⟨id, companyId, actorId, action, "TENANT_SETTINGS", some snapshot⟩

def execSettings (op : SettingsOp) (s : SettingsStore) : SettingsStore :=
  match op with
  | .read => s
  | .record companyId actorId action snapshot =>
    { s with
      auditLog :=
        s.auditLog.insert (newEntry companyId actorId action snapshot s.auditLog.drawn) rfl }
  | .update id data call _ =>
    { s with
      companies := updateWhere (fun row => row.id = id) (Company.updated data) s.companies
      completed := (id, call) :: s.completed }

section Calls

variable (P : SettingsPlatform)

def withCompany (companyId : Option String) (rest : String → Company → SettingsProgram) :
    SettingsProgram :=
  if truthy companyId then
    .step .read fun s =>
      match findCompany (companyId.getD "") s with
      | none => .fail
      | some company => rest (companyId.getD "") company
  else .fail

def Company.snapshot (company : Company) : Snapshot :=
  ⟨company.name, company.domain, company.logo, safeJson company.branding,
    safeJson company.settings⟩

def snapshot (companyId : String) (actorId : Option String) (company : Company) (action : String)
    (rest : SettingsProgram) : SettingsProgram :=
  if truthy actorId then
    .step (.record companyId (actorId.getD "") action company.snapshot) fun _ => rest
  else rest

def write (id : String) (call : Call) (company : Company) : SettingsProgram :=
  match call.update company with
  | none => .fail
  | some data => if data.isEmpty then .fail else .step (.update id data call company) fun _ => .done

def updateSettings (companyId : Option String) (dto : SettingsDto) (actorId : Option String) :
    SettingsProgram :=
  withCompany companyId fun id company =>
    snapshot id actorId company "SETTINGS_UPDATE" (write id (.settings dto) company)

def updateBranding (companyId : Option String) (branding : Json) (actorId : Option String) :
    SettingsProgram :=
  withCompany companyId fun id company =>
    match sanitizeBranding P branding with
    | .error _ => .fail
    | .ok sanitized =>
      snapshot id actorId company "BRANDING_UPDATE"
        (write id (.branding branding sanitized) company)

def updateCustomization (companyId : Option String) (customization : Json)
    (actorId : Option String) : SettingsProgram :=
  withCompany companyId fun id company =>
    match safeJson company.settings with
    | .null => .fail
    | _ =>
      match sanitizeCustomization P customization with
      | .error _ => .fail
      | .ok sanitized =>
        snapshot id actorId company "CUSTOMIZATION_UPDATE"
          (write id (.customization sanitized) company)

def resetCustomization (companyId : Option String) (actorId : Option String) : SettingsProgram :=
  withCompany companyId fun id company =>
    snapshot id actorId company "CUSTOMIZATION_RESET" (write id .reset company)

def imageFields : List String :=
  ["logoUrl", "faviconUrl", "loginBackgroundUrl", "sidebarImageUrl", "bannerImageUrl"]

def configureUploadedImage (companyId : Option String) (field url : String)
    (actorId : Option String) : SettingsProgram :=
  if imageFields.contains field then
    withCompany companyId fun id company =>
      snapshot id actorId company "BRANDING_IMAGE_UPLOAD" (write id (.image field url) company)
  else .fail

/-- The snapshot of an entry that is one of the settings of the company, and complete. -/
def settingsVersion (companyId : String) (historyId : Nat) (s : SettingsStore) : Option Snapshot :=
  ((findEntry historyId s).filter fun entry =>
    decide (entry.companyId = companyId) && decide (entry.resourceType = "TENANT_SETTINGS")).bind
      fun entry => entry.diff.filter fun snapshot =>
        snapshot.branding.truthy && snapshot.settings.truthy

def rollback (companyId : Option String) (historyId : Nat) (actorId : Option String) :
    SettingsProgram :=
  withCompany companyId fun id company =>
    .step .read fun s =>
      match settingsVersion id historyId s with
      | none => .fail
      | some version =>
        snapshot id actorId company "SETTINGS_ROLLBACK" (write id (.rollback version) company)

inductive SettingsRequest where
  | updateSettings (companyId : Option String) (dto : SettingsDto) (actorId : Option String)
  | updateBranding (companyId : Option String) (branding : Json) (actorId : Option String)
  | updateCustomization (companyId : Option String) (customization : Json)
      (actorId : Option String)
  | resetCustomization (companyId : Option String) (actorId : Option String)
  | configureUploadedImage (companyId : Option String) (field url : String)
      (actorId : Option String)
  | rollback (companyId : Option String) (historyId : Nat) (actorId : Option String)

def SettingsRequest.handler : SettingsRequest → SettingsProgram
  | updateSettings companyId dto actorId => Settings.updateSettings companyId dto actorId
  | updateBranding companyId branding actorId => Settings.updateBranding P companyId branding actorId
  | updateCustomization companyId customization actorId =>
    Settings.updateCustomization P companyId customization actorId
  | resetCustomization companyId actorId => Settings.resetCustomization companyId actorId
  | configureUploadedImage companyId field url actorId =>
    Settings.configureUploadedImage companyId field url actorId
  | rollback companyId historyId actorId => Settings.rollback companyId historyId actorId

def settingsSystem : System SettingsStore SettingsOp SettingsRequest where
  exec := execSettings
  tick s := s
  handler := SettingsRequest.handler P
  sendable _ _ := True

end Calls
end FieldserviceIT.Settings
