import FieldserviceIT.Lib.Json

/-!
What a request may say about the look of a tenant. Texts are trimmed and cut, colours and
addresses are checked, and a field that is not there comes out as undefined beside the others.
-/

namespace FieldserviceIT.Settings

open Lib

/-- An address as `new URL` reads it. -/
structure ParsedUrl where
  protocol : String
  text : String

/-- What is used of JavaScript: `String(value)`, `Number(value)` where it is finite, texts that
are trimmed, cut or lowered, and addresses. -/
structure SettingsPlatform where
  string : Json → String
  number : Json → Option Rat
  trim : String → String
  slice : String → Nat → String
  toLowerCase : String → String
  url : String → Option ParsedUrl

structure TenantBranding where
  companyName : Option String
  logoUrl : Option String
  faviconUrl : Option String
  loginBackgroundUrl : Option String
  sidebarImageUrl : Option String
  primaryColor : Option String
  secondaryColor : Option String
  accentColor : Option String
  backgroundColor : Option String
  surfaceColor : Option String
  textColor : Option String
  borderRadius : Option Rat

/-- The tone is passed on as it came, unless it is a text that is no tone. -/
structure TenantBanner where
  enabled : Option Bool
  imageUrl : Option String
  text : Option String
  linkUrl : Option String
  linkLabel : Option String
  tone : Option Json
  dismissible : Option Bool

structure TenantWorkflowPreferences where
  defaultTrigger : Option String
  defaultPriority : Option Json
  requireApproval : Option Bool
  autoAssign : Option Bool
  approvalGroup : Option String

structure TenantReportingPreferences where
  logoUrl : Option String
  headerText : Option String
  footerText : Option String
  accentColor : Option String
  defaultDateRange : Option Json
  pageOrientation : Option Json
  showCompanyLogo : Option Bool

structure TenantCustomization where
  banner : TenantBanner
  workflow : TenantWorkflowPreferences
  reporting : TenantReportingPreferences

abbrev Checked (α : Type) := Except String α

/-- The entries of an object, each of them there, some of them undefined. -/
abbrev Entries := List (String × Option Json)

def TenantBranding.entries (b : TenantBranding) : Entries :=
  [("companyName", b.companyName.map .text), ("logoUrl", b.logoUrl.map .text),
    ("faviconUrl", b.faviconUrl.map .text), ("loginBackgroundUrl", b.loginBackgroundUrl.map .text),
    ("sidebarImageUrl", b.sidebarImageUrl.map .text), ("primaryColor", b.primaryColor.map .text),
    ("secondaryColor", b.secondaryColor.map .text), ("accentColor", b.accentColor.map .text),
    ("backgroundColor", b.backgroundColor.map .text), ("surfaceColor", b.surfaceColor.map .text),
    ("textColor", b.textColor.map .text), ("borderRadius", b.borderRadius.map .number)]

def TenantBanner.entries (b : TenantBanner) : Entries :=
  [("enabled", b.enabled.map .bool), ("imageUrl", b.imageUrl.map .text), ("text", b.text.map .text),
    ("linkUrl", b.linkUrl.map .text), ("linkLabel", b.linkLabel.map .text), ("tone", b.tone),
    ("dismissible", b.dismissible.map .bool)]

def TenantWorkflowPreferences.entries (w : TenantWorkflowPreferences) : Entries :=
  [("defaultTrigger", w.defaultTrigger.map .text), ("defaultPriority", w.defaultPriority),
    ("requireApproval", w.requireApproval.map .bool), ("autoAssign", w.autoAssign.map .bool),
    ("approvalGroup", w.approvalGroup.map .text)]

def TenantReportingPreferences.entries (r : TenantReportingPreferences) : Entries :=
  [("logoUrl", r.logoUrl.map .text), ("headerText", r.headerText.map .text),
    ("footerText", r.footerText.map .text), ("accentColor", r.accentColor.map .text),
    ("defaultDateRange", r.defaultDateRange), ("pageOrientation", r.pageOrientation),
    ("showCompanyLogo", r.showCompanyLogo.map .bool)]

theorem nodup_branding (b : TenantBranding) : (b.entries.map Prod.fst).Nodup := by
  simp [TenantBranding.entries]

theorem nodup_banner (b : TenantBanner) : (b.entries.map Prod.fst).Nodup := by
  simp [TenantBanner.entries]

theorem nodup_workflow (w : TenantWorkflowPreferences) : (w.entries.map Prod.fst).Nodup := by
  simp [TenantWorkflowPreferences.entries]

theorem nodup_reporting (r : TenantReportingPreferences) : (r.entries.map Prod.fst).Nodup := by
  simp [TenantReportingPreferences.entries]

section Sanitizing

variable (P : SettingsPlatform)

/-- `value === undefined || value === null` -/
def isMissing : Option Json → Bool
  | none | some .null => true
  | _ => false

/-- `value === ''` -/
def isEmptyText : Option Json → Bool
  | some (.text value) => value = ""
  | _ => false

def optionalString (value : Option Json) (maxLength : Nat) : Option String :=
  match value with
  | none | some .null => none
  | some value =>
    let normalized := P.trim (P.string value)
    some (if normalized ≠ "" then P.slice normalized maxLength else "")

def isHexDigit (c : Char) : Bool :=
  decide ('0' ≤ c ∧ c ≤ '9') || decide ('a' ≤ c ∧ c ≤ 'f') || decide ('A' ≤ c ∧ c ≤ 'F')

/-- `/^#[0-9a-f]{6}$/i` -/
def hexColor (value : String) : Bool :=
  match value.toList with
  | '#' :: digits => decide (digits.length = 6) && digits.all isHexDigit
  | _ => false

def isNameChar (c : Char) : Bool :=
  decide ('a' ≤ c ∧ c ≤ 'z') || decide ('A' ≤ c ∧ c ≤ 'Z') || decide ('0' ≤ c ∧ c ≤ '9') ||
    c == '_' || c == '-'

/-- `/^\/uploads\/branding\/[a-zA-Z0-9_-]+\/[a-zA-Z0-9._-]+$/` -/
def allowedImagePath (value : String) : Bool :=
  match value.toList.splitOn '/' with
  | [[], root, kind, owner, file] =>
    decide (root = "uploads".toList) && decide (kind = "branding".toList) && !(owner.isEmpty) &&
      owner.all isNameChar && !(file.isEmpty) && file.all fun c => isNameChar c || c == '.'
  | _ => false

def optionalColor (value : Option Json) (field : String) : Checked (Option String) :=
  if isMissing value || isEmptyText value then .ok none
  else
    let color := P.trim ((value.map P.string).getD "")
    if hexColor color then .ok (some (P.toLowerCase color))
    else .error (field ++ " must be a six-digit hex color")

def optionalUrl (value : Option Json) (field : String) (imageOnly : Bool) :
    Checked (Option String) :=
  if isMissing value then .ok none
  else if isEmptyText value then .ok (some "")
  else
    let normalized := P.trim ((value.map P.string).getD "")
    if imageOnly && allowedImagePath normalized then .ok (some normalized)
    else
      match P.url normalized with
      | none => .error (field ++ " must be a valid URL or uploaded image path")
      | some parsed =>
        if ["http:", "https:", "mailto:"].contains parsed.protocol then
          .ok (some (P.slice parsed.text 1000))
        else .error (field ++ " uses an unsupported URL protocol")

/-- `value === undefined ? undefined : Boolean(value)` -/
def optionalFlag (value : Option Json) : Option Bool :=
  value.map Json.truthy

def checkChoice (value : Option Json) (choices : List String) (message : String) :
    Checked Unit :=
  match value with
  | none => .ok ()
  | some (.text choice) => if choice = "" || choices.contains choice then .ok () else .error message
  | some other => if other.truthy then .error message else .ok ()

def checkBorderRadius (value : Option Json) : Checked (Option Rat) :=
  match value with
  | none => .ok none
  | some value =>
    match P.number value with
    | none => .error "borderRadius must be between 0 and 24"
    | some radius =>
      if radius < 0 || 24 < radius then .error "borderRadius must be between 0 and 24"
      else .ok (some ((radius + 1 / 2).floor : Rat))

def sanitizeBranding (input : Json) : Checked TenantBranding := do
  let borderRadius ← checkBorderRadius P (input.property "borderRadius")
  let logoUrl ← optionalUrl P (input.property "logoUrl") "logoUrl" true
  let faviconUrl ← optionalUrl P (input.property "faviconUrl") "faviconUrl" true
  let loginBackgroundUrl ←
    optionalUrl P (input.property "loginBackgroundUrl") "loginBackgroundUrl" true
  let sidebarImageUrl ← optionalUrl P (input.property "sidebarImageUrl") "sidebarImageUrl" true
  let primaryColor ← optionalColor P (input.property "primaryColor") "primaryColor"
  let secondaryColor ← optionalColor P (input.property "secondaryColor") "secondaryColor"
  let accentColor ← optionalColor P (input.property "accentColor") "accentColor"
  let backgroundColor ← optionalColor P (input.property "backgroundColor") "backgroundColor"
  let surfaceColor ← optionalColor P (input.property "surfaceColor") "surfaceColor"
  let textColor ← optionalColor P (input.property "textColor") "textColor"
  return ⟨optionalString P (input.property "companyName") 120, logoUrl, faviconUrl,
    loginBackgroundUrl, sidebarImageUrl, primaryColor, secondaryColor, accentColor, backgroundColor,
    surfaceColor, textColor, borderRadius⟩

def sanitizeBanner (banner : Json) : Checked TenantBanner := do
  let imageUrl ← optionalUrl P (banner.property "imageUrl") "banner.imageUrl" true
  let linkUrl ← optionalUrl P (banner.property "linkUrl") "banner.linkUrl" false
  return ⟨optionalFlag (banner.property "enabled"), imageUrl,
    optionalString P (banner.property "text") 300, linkUrl,
    optionalString P (banner.property "linkLabel") 60, banner.property "tone",
    optionalFlag (banner.property "dismissible")⟩

def sanitizeWorkflow (workflow : Json) : TenantWorkflowPreferences :=
  ⟨optionalString P (workflow.property "defaultTrigger") 100, workflow.property "defaultPriority",
    optionalFlag (workflow.property "requireApproval"), optionalFlag (workflow.property "autoAssign"),
    optionalString P (workflow.property "approvalGroup") 120⟩

def sanitizeReporting (reporting : Json) : Checked TenantReportingPreferences := do
  let logoUrl ← optionalUrl P (reporting.property "logoUrl") "reporting.logoUrl" true
  let accentColor ← optionalColor P (reporting.property "accentColor") "reporting.accentColor"
  return ⟨logoUrl, optionalString P (reporting.property "headerText") 160,
    optionalString P (reporting.property "footerText") 300, accentColor,
    reporting.property "defaultDateRange", reporting.property "pageOrientation",
    optionalFlag (reporting.property "showCompanyLogo")⟩

def sanitizeCustomization (input : Json) : Checked TenantCustomization := do
  let banner := Json.orObject (input.property "banner")
  let workflow := Json.orObject (input.property "workflow")
  let reporting := Json.orObject (input.property "reporting")
  checkChoice (banner.property "tone") ["info", "success", "warning", "critical"]
    "Invalid banner tone"
  checkChoice (workflow.property "defaultPriority") ["LOW", "MEDIUM", "HIGH", "URGENT"]
    "Invalid workflow priority"
  checkChoice (reporting.property "defaultDateRange") ["7d", "30d", "90d", "quarter", "year"]
    "Invalid report date range"
  checkChoice (reporting.property "pageOrientation") ["portrait", "landscape"]
    "Invalid report orientation"
  let sanitizedBanner ← sanitizeBanner P banner
  let sanitizedReporting ← sanitizeReporting P reporting
  return ⟨sanitizedBanner, sanitizeWorkflow P workflow, sanitizedReporting⟩

end Sanitizing
end FieldserviceIT.Settings
