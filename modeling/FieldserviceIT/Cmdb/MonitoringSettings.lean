import FieldserviceIT.Cmdb.NetworkAlerts
import FieldserviceIT.Lib.Decimals
import FieldserviceIT.Lib.Json
import FieldserviceIT.Sql.Value

/-!
The settings of network monitoring: what a device is polled with, and the rules for its alerts. The
secrets among them are read as a mask, and a request that has the mask keeps them.
-/

namespace FieldserviceIT.Cmdb

open Lib Sql

section Rows

/-- A number of JavaScript. -/
inductive Numeral where
  | finite (value : ℚ)
  | infinite
  | negativeInfinite
  | notANumber

/-- `Math.max(least, Math.min(most, value))` -/
def Numeral.between (least most : ℚ) : Numeral → Numeral
  | .finite value => .finite (if value < least then least else if most < value then most else value)
  | .infinite => .finite most
  | .negativeInfinite => .finite least
  | .notANumber => .notANumber

/-- `Math.max(0, value)` -/
def Numeral.atLeastZero : Numeral → Numeral
  | .finite value => .finite (if value < 0 then 0 else value)
  | .negativeInfinite => .finite 0
  | value => value

/-- The texts of a configuration that may be empty. -/
inductive MonitoringText where
  | snmpUsername
  | snmpAuthProtocol
  | snmpPrivacyProtocol
  | vendor
  | vendorControllerUrl
  | vendorSiteId
  deriving DecidableEq

def MonitoringText.key : MonitoringText → String
  | .snmpUsername => "snmpUsername"
  | .snmpAuthProtocol => "snmpAuthProtocol"
  | .snmpPrivacyProtocol => "snmpPrivacyProtocol"
  | .vendor => "vendor"
  | .vendorControllerUrl => "vendorControllerUrl"
  | .vendorSiteId => "vendorSiteId"

def MonitoringText.width : MonitoringText → Nat
  | .snmpUsername => 191
  | .snmpAuthProtocol => 64
  | .snmpPrivacyProtocol => 64
  | .vendor => 64
  | .vendorControllerUrl => 255
  | .vendorSiteId => 191

def monitoringTexts : List MonitoringText :=
  [.snmpUsername, .snmpAuthProtocol, .snmpPrivacyProtocol, .vendor, .vendorControllerUrl, .vendorSiteId]

inductive MonitoringSecret where
  | snmpCommunity
  | vendorApiKey
  deriving DecidableEq

def MonitoringSecret.key : MonitoringSecret → String
  | .snmpCommunity => "snmpCommunity"
  | .vendorApiKey => "vendorApiKey"

def MonitoringSecret.width : MonitoringSecret → Nat
  | .snmpCommunity => 191
  | .vendorApiKey => 65535

def monitoringSecrets : List MonitoringSecret :=
  [.snmpCommunity, .vendorApiKey]

/-- What a request writes. -/
structure MonitoringSettings where
  pingEnabled : Bool
  pingIntervalSec : Int
  snmpEnabled : Bool
  snmpVersion : Option String
  syslogEnabled : Bool
  syslogPort : Int
  texts : MonitoringText → Option String
  secrets : MonitoringSecret → Option String

structure NetworkMonitoringConfig where
  id : String
  companyId : String
  assetId : String
  settings : MonitoringSettings
  createdAt : Int
  updatedAt : Int

/-- The columns of a rule that a request may set. -/
inductive RuleField where
  | name
  | metric
  | operator
  | threshold
  | durationSec
  | severity
  | enabled
  | notifyEmail
  deriving DecidableEq

def ruleFields : List RuleField :=
  [.name, .metric, .operator, .threshold, .durationSec, .severity, .enabled, .notifyEmail]

def RuleField.key : RuleField → String
  | .name => "name"
  | .metric => "metric"
  | .operator => "operator"
  | .threshold => "threshold"
  | .durationSec => "durationSec"
  | .severity => "severity"
  | .enabled => "enabled"
  | .notifyEmail => "notifyEmail"

structure AlertRuleRow where
  id : String
  companyId : String
  assetId : Option String
  columns : RuleField → Option Scalar
  updatedAt : Int

structure MonitoringDesk where
  assets : List MonitoredAsset
  configs : List NetworkMonitoringConfig
  rules : List AlertRuleRow

/-- What a statement is given for a column. -/
inductive BoundValue where
  | json (value : Json)
  | number (value : Numeral)

/-- What is used of JavaScript, the cipher and the database: `Number(value)`, `String(value)`, a time
as JSON, a secret enciphered with the vector of a draw and deciphered, what a column of texts with
some width, one of integers and one of a rule hold of a value, if the server takes it. A text that
is in a column is stored as it is, and no value but the empty text and what counts as false leaves
an empty one. -/
structure MonitoringPlatform where
  number : Json → Numeral
  string : Json → String
  iso : Int → String
  encipher : Nat → String → String
  decipher : String → Option String
  text : Nat → Json → Option String
  whole : Numeral → Option Int
  column : RuleField → BoundValue → Option (Option Scalar)
  number_number : ∀ n, number (.number n) = .finite n
  text_ne_empty : ∀ width value, value.truthy = true → text width value ≠ some ""
  whole_intCast : ∀ n : Int, -2147483648 ≤ n → n ≤ 2147483647 → whole (.finite n) = some n
  whole_between : ∀ (value : ℚ) (n least most : Int), whole (.finite value) = some n →
    (least : ℚ) ≤ value → value ≤ (most : ℚ) → least ≤ n ∧ n ≤ most
  text_version : text 32 (.text "2c") = some "2c"
  column_null : column .notifyEmail (.json .null) = some none

end Rows

section Monitoring

variable (P : MonitoringPlatform)

def mask : String := "********"

/-- `value || other` -/
def orValue (value : Option Json) (other : Json) : Json :=
  (value.filter Json.truthy).getD other

def isTrue (value : Option Json) : Bool :=
  value.any Json.truthy

/-- `value === false` -/
def isFalse (value : Option Json) : Bool :=
  match value with
  | some (.bool value) => !value
  | _ => false

/-- `null` or a text, as JSON. -/
def nullableText : Option String → Json
  | some text => .text text
  | none => .null

/-- `value ? '********' : ''` -/
def masked (secret : Option String) : Json :=
  .text (if secret.any (· ≠ "") then mask else "")

def settingsFields (row : MonitoringSettings) : List (String × Json) :=
  [("pingEnabled", .bool row.pingEnabled), ("pingIntervalSec", .number row.pingIntervalSec),
    ("snmpEnabled", .bool row.snmpEnabled), ("snmpVersion", nullableText row.snmpVersion),
    ("snmpCommunity", masked (row.secrets .snmpCommunity)),
    ("snmpUsername", nullableText (row.texts .snmpUsername)),
    ("snmpAuthProtocol", nullableText (row.texts .snmpAuthProtocol)),
    ("snmpPrivacyProtocol", nullableText (row.texts .snmpPrivacyProtocol)),
    ("syslogEnabled", .bool row.syslogEnabled), ("syslogPort", .number row.syslogPort),
    ("vendor", nullableText (row.texts .vendor)),
    ("vendorControllerUrl", nullableText (row.texts .vendorControllerUrl)),
    ("vendorSiteId", nullableText (row.texts .vendorSiteId)),
    ("vendorApiKey", masked (row.secrets .vendorApiKey))]

def parseMonitoringConfig (row : NetworkMonitoringConfig) : Json :=
  .object (settingsFields row.settings ++ [("id", .text row.id), ("companyId", .text row.companyId),
    ("assetId", .text row.assetId), ("createdAt", .text (P.iso row.createdAt)),
    ("updatedAt", .text (P.iso row.updatedAt))])

def defaultSettings : MonitoringSettings where
  pingEnabled := true
  pingIntervalSec := 60
  snmpEnabled := false
  snmpVersion := some "2c"
  syslogEnabled := false
  syslogPort := 514
  texts := fun _ => some ""
  secrets := fun _ => some ""

def defaultMonitoringConfig (assetId companyId : String) : Json :=
  .object (settingsFields defaultSettings ++
    [("id", .text ""), ("companyId", .text companyId), ("assetId", .text assetId)])

def ownsAsset (s : MonitoringDesk) (assetId companyId : String) : Bool :=
  s.assets.any fun asset => asset.id = assetId && asset.companyId = companyId

def findConfig (s : MonitoringDesk) (assetId companyId : String) : Option NetworkMonitoringConfig :=
  s.configs.find? fun row => row.assetId = assetId && row.companyId = companyId

/-- `config` of what is returned; there is none without the asset. -/
def getNetworkMonitoring (s : MonitoringDesk) (assetId companyId : String) : Option Json :=
  if !ownsAsset s assetId companyId then none
  else
    some (((findConfig s assetId companyId).map (parseMonitoringConfig P)).getD
      (defaultMonitoringConfig assetId companyId))

def requestedNumber (dto : Json) (name : String) (fallback least most : Int) : Numeral :=
  (P.number (orValue (dto.property name) (.number fallback))).between least most

/-- `dto[name] || null`; `none` is a text that the column has no room for. -/
def requestedText (width : Nat) (value : Option Json) : Option (Option String) :=
  match value.filter Json.truthy with
  | some value => (P.text width value).map some
  | none => some none

/-- A secret of a request: `none` keeps what is stored. -/
def requestedSecret (draw : Nat) (value : Option Json) : Option (Option String) :=
  match value.filter Json.truthy with
  | some (.text text) =>
    if text = mask then none else some (some (P.encipher draw text))
  | some value => some (some (P.encipher draw (P.string value)))
  | none => some none

/-- What is bound for a secret, with what is stored where the request keeps it. -/
def writtenSecret (draws : MonitoringSecret → Nat) (dto : Json)
    (stored : MonitoringSecret → Option String) (secret : MonitoringSecret) : Option (Option String) :=
  requestedText P secret.width (some (nullableText
    ((requestedSecret P (draws secret) (dto.property secret.key)).getD (stored secret))))

/-- `stored` has the secrets so far; `none` is an error of the server. -/
def normalizeMonitoringConfig (dto : Json) (draws : MonitoringSecret → Nat)
    (stored : MonitoringSecret → Option String) : Option MonitoringSettings := do
  let pingIntervalSec ← P.whole (requestedNumber P dto "pingIntervalSec" 60 15 3600)
  let snmpVersion ← P.text 32 (orValue (dto.property "snmpVersion") (.text "2c"))
  let syslogPort ← P.whole (requestedNumber P dto "syslogPort" 514 1 65535)
  let texts := fun field : MonitoringText => requestedText P field.width (dto.property field.key)
  let secrets := writtenSecret P draws dto stored
  if (monitoringTexts.all fun field => (texts field).isSome) &&
      monitoringSecrets.all fun secret => (secrets secret).isSome then
    some
      { pingEnabled := !isFalse (dto.property "pingEnabled")
        pingIntervalSec := pingIntervalSec
        snmpEnabled := isTrue (dto.property "snmpEnabled")
        snmpVersion := some snmpVersion
        syslogEnabled := isTrue (dto.property "syslogEnabled")
        syslogPort := syslogPort
        texts := fun field => (texts field).join
        secrets := fun secret => (secrets secret).join }
  else none

/-- `id` is drawn for a new row, `draws` for the vectors of new secrets. -/
def updateNetworkMonitoring (assetId companyId : String) (dto : Json) (id : String)
    (draws : MonitoringSecret → Nat) (now : Int) (s : MonitoringDesk) : MonitoringDesk :=
  if !ownsAsset s assetId companyId then s
  else
    match findConfig s assetId companyId with
    | some row =>
      match normalizeMonitoringConfig P dto draws row.settings.secrets with
      | some settings =>
        { s with
          configs := s.configs.map fun other =>
            if other.id = row.id && other.companyId = companyId then
              { other with
                settings := settings
                updatedAt := now }
            else other }
      | none => s
    | none =>
      match normalizeMonitoringConfig P dto draws (fun _ => none) with
      | some settings =>
        { s with configs := s.configs ++ [⟨id, companyId, assetId, settings, now, now⟩] }
      | none => s

/-- The secret as a poll has it: a text without the mark is taken as it is. -/
def decryptSecret (stored : Option String) : String :=
  match stored with
  | none => ""
  | some text =>
    if ['E', 'N', 'C', ':'].isPrefixOf text.toList then (P.decipher text).getD "" else text

def getMonitoringConfigForPoll (s : MonitoringDesk) (assetId companyId : String) :
    Option (MonitoringSettings × (MonitoringSecret → String)) :=
  (findConfig s assetId companyId).map fun row =>
    (row.settings, fun secret => decryptSecret P (row.settings.secrets secret))

end Monitoring

section Rules

variable (P : MonitoringPlatform)

/-- `value || fallback`, which a partial update leaves out. -/
def givenOr (isPartial : Bool) (value : Option Json) (fallback : String) : Option BoundValue :=
  match value.filter Json.truthy with
  | some value => some (.json value)
  | none => if isPartial then none else some (.json (.text fallback))

def requestedColumn (dto : Json) (isPartial : Bool) (field : RuleField) : Option BoundValue :=
  let value := dto.property field.key
  match field with
  | .name => givenOr isPartial value "Network alert"
  | .metric => givenOr isPartial value "offline"
  | .operator => givenOr isPartial value "GT"
  | .threshold =>
    match value with
    | none | some .null => if isPartial then none else some (.json (.text "0"))
    | some value => some (.json value)
  | .durationSec =>
    match value with
    | none => if isPartial then none else some (.json (.number 300))
    | some value => some (.number (P.number value).atLeastZero)
  | .severity => givenOr isPartial value "WARNING"
  | .enabled =>
    match value with
    | none => if isPartial then none else some (.json (.number 1))
    | some value => some (.json (.number (if value.truthy then 1 else 0)))
  | .notifyEmail => some (.json (orValue value .null))

def normalizeAlertRule (dto : Json) (isPartial : Bool) : List (String × BoundValue) :=
  defined (ruleFields.map fun field => (field.key, requestedColumn P dto isPartial field))

def refused (data : List (String × BoundValue)) : Bool :=
  ruleFields.any fun field => (data.lookup field.key).any fun value => (P.column field value).isNone

def setColumns (data : List (String × BoundValue)) (columns : RuleField → Option Scalar)
    (field : RuleField) : Option Scalar :=
  match data.lookup field.key with
  | some value => (P.column field value).join
  | none => columns field

/-- `INSERT` of a rule, for a device or for all of the company. -/
def createAlertRule (assetId : Option String) (companyId : String) (dto : Json) (id : String) (now : Int)
    (s : MonitoringDesk) : MonitoringDesk :=
  if !(assetId.all fun assetId => ownsAsset s assetId companyId) then s
  else
    let data := normalizeAlertRule P dto false
    if refused P data then s
    else { s with rules := s.rules ++ [⟨id, companyId, assetId, setColumns P data fun _ => none, now⟩] }

def AlertRuleRow.addressed (rule : AlertRuleRow) (assetId ruleId companyId : String) : Bool :=
  rule.id = ruleId && rule.companyId = companyId && (rule.assetId.all fun other => other = assetId)

/-- An update is one statement: where the server refuses a value nothing is changed. -/
def updateAlertRule (assetId ruleId companyId : String) (dto : Json) (now : Int) (s : MonitoringDesk) :
    MonitoringDesk :=
  let data := normalizeAlertRule P dto true
  if !ownsAsset s assetId companyId || data.isEmpty || refused P data then s
  else
    { s with
      rules := s.rules.map fun rule =>
        if rule.addressed assetId ruleId companyId then
          { rule with
            columns := setColumns P data rule.columns
            updatedAt := now }
        else rule }

end Rules

end FieldserviceIT.Cmdb
