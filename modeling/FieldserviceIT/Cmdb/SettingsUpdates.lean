import FieldserviceIT.Cmdb.MonitoringSettings

/-!
What an edit of the monitoring settings keeps. Settings that are read and written back stay, with
their secrets, and an update of an alert rule changes what it names, and the e-mail address: that is
taken away where the request does not name it.
-/

namespace FieldserviceIT.Cmdb

open Lib Sql

section Law

variable (P : MonitoringPlatform)

/-- The configuration that is read, written back: the row is as it was but for the time of the
change, and a poll works with the same. -/
def WrittenBack (assetId companyId id : String) (draws : MonitoringSecret → Nat) (now : Int)
    (s : MonitoringDesk) : Prop :=
  ∀ row config, findConfig s assetId companyId = some row →
    getNetworkMonitoring P s assetId companyId = some config →
      let s' := updateNetworkMonitoring P assetId companyId config id draws now s
      findConfig s' assetId companyId = some { row with updatedAt := now } ∧
        getMonitoringConfigForPoll P s' assetId companyId = getMonitoringConfigForPoll P s assetId companyId

/-- Every rule keeps what it has in the columns that the request does not name, and in all columns if
the request is for another one. -/
def ChangesOnlyRequested (assetId ruleId companyId : String) (dto : Json) (now : Int)
    (s : MonitoringDesk) : Prop :=
  ∀ (i : Nat) (rule : AlertRuleRow), s.rules[i]? = some rule → ∃ rule',
    (updateAlertRule P assetId ruleId companyId dto now s).rules[i]? = some rule' ∧
      rule'.id = rule.id ∧ rule'.companyId = rule.companyId ∧ rule'.assetId = rule.assetId ∧
        ∀ field, rule.addressed assetId ruleId companyId = false ∨ dto.property field.key = none →
          rule'.columns field = rule.columns field

/-- The columns have room for what is in them. -/
structure Held (settings : MonitoringSettings) : Prop where
  version : ∀ text, settings.snmpVersion = some text → P.text 32 (.text text) = some text
  texts : ∀ field text, settings.texts field = some text → P.text field.width (.text text) = some text
  secrets : ∀ secret text, settings.secrets secret = some text →
    P.text secret.width (.text text) = some text

/-- The numbers are within their bounds, there is a version, and no text is there but empty. -/
def MonitoringSettings.isNormal (settings : MonitoringSettings) : Bool :=
  15 ≤ settings.pingIntervalSec && settings.pingIntervalSec ≤ 3600 &&
    1 ≤ settings.syslogPort && settings.syslogPort ≤ 65535 &&
    settings.snmpVersion.any (· ≠ "") &&
    monitoringTexts.all (fun field => settings.texts field ≠ some "") &&
    monitoringSecrets.all fun secret => settings.secrets secret ≠ some ""

/-- The request names the e-mail address, or no rule that it is for has one, or nothing is changed:
there is no such device, or the server refuses a value. -/
def keepsEmail (assetId ruleId companyId : String) (dto : Json) (s : MonitoringDesk) : Bool :=
  (dto.property "notifyEmail").isSome ||
    s.rules.all (fun rule =>
      !rule.addressed assetId ruleId companyId || (rule.columns .notifyEmail).isNone) ||
    !ownsAsset s assetId companyId || refused P (normalizeAlertRule P dto true)

end Law

section Settings

variable {P : MonitoringPlatform} {settings : MonitoringSettings}

/-- A number that is written back: the fallback for 0, and within the bounds. -/
def rewrittenNumber (fallback least most n : Int) : Int :=
  let n := if n = 0 then fallback else n
  if n < least then least else if most < n then most else n

def MonitoringSettings.rewritten (settings : MonitoringSettings) : MonitoringSettings :=
  { settings with
    pingIntervalSec := rewrittenNumber 60 15 3600 settings.pingIntervalSec
    snmpVersion := some ((settings.snmpVersion.filter (· ≠ "")).getD "2c")
    syslogPort := rewrittenNumber 514 1 65535 settings.syslogPort
    texts := fun field => (settings.texts field).filter (· ≠ "")
    secrets := fun secret => (settings.secrets secret).filter (· ≠ "") }

theorem rewrittenNumber_eq_iff {fallback least most n : Int} (hleast : 1 ≤ least)
    (hfallback : least ≤ fallback ∧ fallback ≤ most) :
    rewrittenNumber fallback least most n = n ↔ least ≤ n ∧ n ≤ most := by
  rw [rewrittenNumber]
  by_cases hzero : n = 0
  · rw [if_pos hzero]
    split
    · omega
    · split <;> omega
  · rw [if_neg hzero]
    split
    · omega
    · split <;> omega

theorem filter_eq_self_iff (text : Option String) : text.filter (· ≠ "") = text ↔ text ≠ some "" := by
  cases text with
  | none => exact iff_of_true rfl (fun h => by cases h)
  | some text =>
    by_cases htext : text = ""
    · subst htext
      exact iff_of_false (fun h => by cases h) (fun h => h rfl)
    · rw [Option.filter_some, if_pos (decide_eq_true htext)]
      exact iff_of_true rfl fun h => htext (Option.some.inj h)

theorem version_eq_iff (version : Option String) :
    some ((version.filter (· ≠ "")).getD "2c") = version ↔ version.any (· ≠ "") = true := by
  cases version with
  | none => exact iff_of_false (fun h => by cases h) Bool.false_ne_true
  | some text =>
    by_cases htext : text = ""
    · subst htext
      exact iff_of_false (fun h => absurd (Option.some.inj h) (by decide)) Bool.false_ne_true
    · rw [Option.filter_some, if_pos (decide_eq_true htext), Option.any_some]
      exact iff_of_true rfl (decide_eq_true htext)

theorem forall_texts_iff {p : MonitoringText → Bool} :
    monitoringTexts.all p = true ↔ ∀ field, p field = true := by
  refine List.all_eq_true.trans ⟨fun h field => h field ?_, fun h field _ => h field⟩
  cases field <;> decide

theorem forall_secrets_iff {p : MonitoringSecret → Bool} :
    monitoringSecrets.all p = true ↔ ∀ secret, p secret = true := by
  refine List.all_eq_true.trans ⟨fun h secret => h secret ?_, fun h secret _ => h secret⟩
  cases secret <;> decide

theorem rewritten_eq_iff (settings : MonitoringSettings) :
    settings.rewritten = settings ↔ settings.isNormal = true := by
  obtain ⟨ping, interval, snmp, version, syslog, port, texts, secrets⟩ := settings
  rw [MonitoringSettings.rewritten, MonitoringSettings.isNormal, MonitoringSettings.mk.injEq]
  simp only [true_and, Bool.and_eq_true, decide_eq_true_eq, forall_texts_iff, forall_secrets_iff,
    funext_iff, filter_eq_self_iff, version_eq_iff]
  rw [rewrittenNumber_eq_iff (by decide) (by decide), rewrittenNumber_eq_iff (by decide) (by decide)]
  constructor
  · rintro ⟨⟨h1, h2⟩, hversion, ⟨h3, h4⟩, htexts, hsecrets⟩
    exact ⟨⟨⟨⟨⟨⟨h1, h2⟩, h3⟩, h4⟩, hversion⟩, htexts⟩, hsecrets⟩
  · rintro ⟨⟨⟨⟨⟨⟨h1, h2⟩, h3⟩, h4⟩, hversion⟩, htexts⟩, hsecrets⟩
    exact ⟨⟨h1, h2⟩, hversion, ⟨h3, h4⟩, htexts, hsecrets⟩

theorem between_intCast (least most n : Int) : (Numeral.finite n).between least most =
    .finite ((if n < least then least else if most < n then most else n : Int) : ℚ) := by
  rw [Numeral.between]
  congr 1
  by_cases hleast : n < least
  · rw [if_pos hleast, if_pos (Int.cast_lt.mpr hleast)]
  · rw [if_neg hleast, if_neg (fun h => hleast (Int.cast_lt.mp h))]
    by_cases hmost : most < n
    · rw [if_pos hmost, if_pos (Int.cast_lt.mpr hmost)]
    · rw [if_neg hmost, if_neg (fun h => hmost (Int.cast_lt.mp h))]

theorem orValue_number (n fallback : Int) : orValue (some (.number n)) (.number fallback) =
    .number ((if n = 0 then fallback else n : Int) : ℚ) := by
  by_cases hzero : n = 0
  · subst hzero
    rfl
  · have htruthy : Json.truthy (.number (n : ℚ)) = true := decide_eq_true (Int.cast_ne_zero.mpr hzero)
    rw [orValue, Option.filter_some, if_pos htruthy, if_neg hzero]
    rfl

theorem whole_requestedNumber {dto : Json} {name : String} {fallback least most n : Int}
    (hvalue : dto.property name = some (.number n)) (hleast : -2147483648 ≤ least) (hle : least ≤ most)
    (hmost : most ≤ 2147483647) : P.whole (requestedNumber P dto name fallback least most) =
      some (rewrittenNumber fallback least most n) := by
  rw [requestedNumber, hvalue, orValue_number, P.number_number, between_intCast, rewrittenNumber]
  generalize (if n = 0 then fallback else n) = n
  refine P.whole_intCast _ ?_ ?_
  · split
    · exact hleast
    · split <;> omega
  · split
    · omega
    · split <;> omega

theorem requestedText_nullableText {width : Nat} {stored : Option String}
    (hheld : ∀ text, stored = some text → P.text width (.text text) = some text) :
    requestedText P width (some (nullableText stored)) = some (stored.filter (· ≠ "")) := by
  cases stored with
  | none => rfl
  | some text =>
    rw [nullableText, requestedText, Option.filter_some, Option.filter_some]
    by_cases htext : text = ""
    · subst htext
      rfl
    · have htruthy : Json.truthy (.text text) = true := decide_eq_true htext
      rw [if_pos htruthy, if_pos (decide_eq_true htext)]
      dsimp only
      rw [hheld text rfl, Option.map_some]

theorem requestedSecret_masked (draw : Nat) (stored : Option String) :
    (requestedSecret P draw (some (masked stored))).getD stored = stored.filter (· ≠ "") := by
  cases stored with
  | none => rfl
  | some text =>
    by_cases htext : text = ""
    · subst htext
      rfl
    · rw [masked, Option.any_some, if_pos (decide_eq_true htext), Option.filter_some,
        if_pos (decide_eq_true htext)]
      rfl

theorem property_texts (row : NetworkMonitoringConfig) (field : MonitoringText) :
    (parseMonitoringConfig P row).property field.key = some (nullableText (row.settings.texts field)) := by
  cases field <;> rfl

theorem property_secrets (row : NetworkMonitoringConfig) (secret : MonitoringSecret) :
    (parseMonitoringConfig P row).property secret.key = some (masked (row.settings.secrets secret)) := by
  cases secret <;> rfl

theorem text_version {version : Option String}
    (hheld : ∀ text, version = some text → P.text 32 (.text text) = some text) :
    P.text 32 (orValue (some (nullableText version)) (.text "2c")) =
      some ((version.filter (· ≠ "")).getD "2c") := by
  cases version with
  | none => exact P.text_version
  | some text =>
    rw [nullableText, orValue, Option.filter_some, Option.filter_some]
    by_cases htext : text = ""
    · subst htext
      exact P.text_version
    · have htruthy : Json.truthy (.text text) = true := decide_eq_true htext
      rw [if_pos htruthy, if_pos (decide_eq_true htext)]
      exact hheld text rfl

theorem normalize_parse (hheld : Held P settings) {row : NetworkMonitoringConfig}
    (hrow : row.settings = settings) (draws : MonitoringSecret → Nat) :
    normalizeMonitoringConfig P (parseMonitoringConfig P row) draws settings.secrets =
      some settings.rewritten := by
  subst hrow
  have hinterval : P.whole (requestedNumber P (parseMonitoringConfig P row) "pingIntervalSec" 60 15 3600) =
      some (rewrittenNumber 60 15 3600 row.settings.pingIntervalSec) :=
    whole_requestedNumber rfl (by decide) (by decide) (by decide)
  have hport : P.whole (requestedNumber P (parseMonitoringConfig P row) "syslogPort" 514 1 65535) =
      some (rewrittenNumber 514 1 65535 row.settings.syslogPort) :=
    whole_requestedNumber rfl (by decide) (by decide) (by decide)
  have hversion : P.text 32 (orValue ((parseMonitoringConfig P row).property "snmpVersion") (.text "2c")) =
      some ((row.settings.snmpVersion.filter (· ≠ "")).getD "2c") :=
    text_version hheld.version
  have htexts : ∀ field : MonitoringText, requestedText P field.width
      ((parseMonitoringConfig P row).property field.key) =
        some ((row.settings.texts field).filter (· ≠ "")) := fun field => by
    rw [property_texts, requestedText_nullableText (hheld.texts field)]
  have hsecrets : ∀ secret, writtenSecret P draws (parseMonitoringConfig P row) row.settings.secrets secret =
      some ((row.settings.secrets secret).filter (· ≠ "")) := fun secret => by
    have hkept : ∀ text, (row.settings.secrets secret).filter (· ≠ "") = some text →
        P.text secret.width (.text text) = some text := fun text htext =>
      hheld.secrets secret text (Option.filter_eq_some_iff.mp htext).1
    rw [writtenSecret, property_secrets, requestedSecret_masked, requestedText_nullableText hkept,
      Option.filter_filter]
    simp only [Bool.and_self]
  rw [normalizeMonitoringConfig, hinterval, hversion, hport]
  have hping : (!isFalse ((parseMonitoringConfig P row).property "pingEnabled")) =
      row.settings.pingEnabled :=
    Bool.not_not _
  simp only [Option.bind_eq_bind, Option.bind_some, htexts, hsecrets, Option.isSome_some, hping]
  rfl

theorem find_map_of_keeps {rows : List NetworkMonitoringConfig} {p : NetworkMonitoringConfig → Bool}
    {change : NetworkMonitoringConfig → NetworkMonitoringConfig} (hkeeps : ∀ row, p (change row) = p row) :
    (rows.map change).find? p = (rows.find? p).map change := by
  rw [List.find?_map]
  exact congrArg (fun q => (rows.find? q).map change) (funext hkeeps)

theorem findConfig_written {s : MonitoringDesk} {assetId companyId : String}
    {row : NetworkMonitoringConfig} (hasset : ownsAsset s assetId companyId = true)
    (hrow : findConfig s assetId companyId = some row) (hheld : Held P row.settings) (id : String)
    (draws : MonitoringSecret → Nat) (now : Int) :
    findConfig (updateNetworkMonitoring P assetId companyId (parseMonitoringConfig P row) id draws now s)
      assetId companyId = some
        { row with
          settings := row.settings.rewritten
          updatedAt := now } := by
  have hcondition := List.find?_some hrow
  rw [Bool.and_eq_true, decide_eq_true_eq, decide_eq_true_eq] at hcondition
  rw [updateNetworkMonitoring, hasset, hrow, Bool.not_true, if_neg Bool.false_ne_true]
  dsimp only
  rw [normalize_parse hheld rfl]
  refine (find_map_of_keeps fun other => ?_).trans ?_
  · split
    · rfl
    · rfl
  · rw [findConfig] at hrow
    rw [hrow, Option.map_some, if_pos]
    rw [Bool.and_eq_true, decide_eq_true_eq, decide_eq_true_eq]
    exact ⟨rfl, hcondition.2⟩

theorem writtenBack_iff {s : MonitoringDesk} {assetId companyId : String}
    {row : NetworkMonitoringConfig} (hasset : ownsAsset s assetId companyId = true)
    (hrow : findConfig s assetId companyId = some row) (hheld : Held P row.settings) (id : String)
    (draws : MonitoringSecret → Nat) (now : Int) :
    WrittenBack P assetId companyId id draws now s ↔ row.settings.isNormal = true := by
  have hwritten := findConfig_written hasset hrow hheld id draws now
  have hread : getNetworkMonitoring P s assetId companyId = some (parseMonitoringConfig P row) := by
    rw [getNetworkMonitoring, hasset, hrow]
    rfl
  rw [← rewritten_eq_iff]
  constructor
  · intro h
    have hsame := (h row _ hrow hread).1
    rw [hwritten] at hsame
    exact congrArg NetworkMonitoringConfig.settings (Option.some.inj hsame)
  · intro hnormal row' config hrow' hconfig
    obtain rfl := Option.some.inj (hrow.symm.trans hrow')
    obtain rfl := Option.some.inj (hread.symm.trans hconfig)
    rw [hnormal] at hwritten
    refine ⟨hwritten, ?_⟩
    rw [getMonitoringConfigForPoll, hwritten, getMonitoringConfigForPoll, hrow]
    rfl

end Settings

section Requests

variable {P : MonitoringPlatform}

theorem lookup_normalizeAlertRule (dto : Json) (isPartial : Bool) (field : RuleField) :
    (normalizeAlertRule P dto isPartial).lookup field.key = requestedColumn P dto isPartial field := by
  have hkeys : ((ruleFields.map fun field => (field.key, requestedColumn P dto isPartial field)).map
      Prod.fst).Nodup := by
    rw [List.map_map]
    have hnames : (ruleFields.map RuleField.key).Nodup := by decide
    exact hnames
  rw [normalizeAlertRule, lookup_defined hkeys]
  cases field <;> rfl

theorem requestedColumn_of_absent {dto : Json} {field : RuleField} (h : dto.property field.key = none)
    (hfield : field ≠ .notifyEmail) : requestedColumn P dto true field = none := by
  cases field with
  | notifyEmail => exact absurd rfl hfield
  | name | metric | operator | severity =>
    rw [requestedColumn, h]
    rfl
  | threshold | durationSec | enabled => rw [requestedColumn, h, if_pos rfl]

theorem setColumns_of_absent {dto : Json} {field : RuleField} (h : dto.property field.key = none)
    (columns : RuleField → Option Scalar) : setColumns P (normalizeAlertRule P dto true) columns field =
      if field = .notifyEmail then none else columns field := by
  rw [setColumns, lookup_normalizeAlertRule]
  by_cases hfield : field = .notifyEmail
  · subst hfield
    have hnull : requestedColumn P dto true .notifyEmail = some (.json .null) := by
      rw [requestedColumn, h]
      rfl
    rw [hnull, if_pos rfl]
    dsimp only
    rw [P.column_null]
    rfl
  · rw [requestedColumn_of_absent h hfield, if_neg hfield]

theorem changesOnlyRequested_iff {s : MonitoringDesk} (assetId ruleId companyId : String) (dto : Json)
    (now : Int) : ChangesOnlyRequested P assetId ruleId companyId dto now s ↔
      keepsEmail P assetId ruleId companyId dto s = true := by
  have hsome : (normalizeAlertRule P dto true).isEmpty = false := by
    have hemail := lookup_normalizeAlertRule (P := P) dto true .notifyEmail
    cases hdata : normalizeAlertRule P dto true with
    | nil =>
      rw [hdata] at hemail
      cases hemail
    | cons entry data => rfl
  rw [ChangesOnlyRequested, updateAlertRule, keepsEmail, hsome, Bool.or_false]
  split
  next hnothing =>
    refine iff_of_true (fun i rule hrule => ⟨rule, hrule, rfl, rfl, rfl, fun _ _ => rfl⟩) ?_
    rw [Bool.or_assoc, hnothing, Bool.or_true]
  next hchanged =>
    rw [Bool.not_eq_true] at hchanged
    rw [Bool.or_assoc, hchanged, Bool.or_false]
    constructor
    · intro h
      cases hemail : dto.property "notifyEmail" with
      | some value => rfl
      | none =>
        have habsent : dto.property RuleField.notifyEmail.key = none := hemail
        refine List.all_eq_true.mpr fun rule hmem => ?_
        obtain ⟨i, hrule⟩ := List.mem_iff_getElem?.mp hmem
        obtain ⟨rule', hrule', -, -, -, hkept⟩ := h i rule hrule
        rw [List.getElem?_map, hrule, Option.map_some] at hrule'
        obtain rfl := Option.some.inj hrule'
        have hsame := hkept .notifyEmail (.inr habsent)
        cases haddressed : rule.addressed assetId ruleId companyId with
        | false => rfl
        | true =>
          rw [haddressed, if_pos rfl] at hsame
          dsimp only at hsame
          rw [setColumns_of_absent habsent, if_pos rfl] at hsame
          rw [← hsame]
          rfl
    · intro h i rule hrule
      refine ⟨_, (List.getElem?_map).trans (congrArg _ hrule), ?_⟩
      beta_reduce
      cases haddressed : rule.addressed assetId ruleId companyId with
      | false =>
        rw [if_neg Bool.false_ne_true]
        exact ⟨rfl, rfl, rfl, fun _ _ => rfl⟩
      | true =>
        rw [if_pos rfl]
        refine ⟨rfl, rfl, rfl, fun field hfield => ?_⟩
        have habsent := hfield.resolve_left (by decide)
        dsimp only
        rw [setColumns_of_absent habsent]
        split
        next hemail =>
          subst hemail
          have hnamed : dto.property "notifyEmail" = none := habsent
          rw [hnamed, Option.isSome_none, Bool.false_or] at h
          have hnone := List.all_eq_true.mp h rule (List.mem_of_getElem? hrule)
          rw [haddressed, Bool.not_true, Bool.false_or, Option.isNone_iff_eq_none] at hnone
          exact hnone.symm
        next => rfl

end Requests

/-- The settings of a device that are read and written back stay, and an update of a rule changes
what the request names only, if and only if the stored settings are normal and the e-mail address
is kept. -/
theorem monitoring_settings_kept_iff (P : MonitoringPlatform) {s : MonitoringDesk} {assetId companyId : String}
    {row : NetworkMonitoringConfig} (hasset : ownsAsset s assetId companyId = true)
    (hrow : findConfig s assetId companyId = some row) (hheld : Held P row.settings) (id : String)
    (draws : MonitoringSecret → Nat) (now : Int) (ruleAssetId ruleId ruleCompanyId : String) (dto : Json) :
    WrittenBack P assetId companyId id draws now s ∧
        ChangesOnlyRequested P ruleAssetId ruleId ruleCompanyId dto now s ↔
      row.settings.isNormal = true ∧ keepsEmail P ruleAssetId ruleId ruleCompanyId dto s = true :=
  and_congr (writtenBack_iff hasset hrow hheld id draws now)
    (changesOnlyRequested_iff ruleAssetId ruleId ruleCompanyId dto now)

section Samples

def sampleText (width : Nat) : Json → Option String
  | .text text => if text.toList.length ≤ width then some text else none
  | _ => none

def sampleWhole : Numeral → Option Int
  | .finite value =>
    if -2147483648 ≤ value.floor && value.floor ≤ 2147483647 then some value.floor else none
  | _ => none

def sampleColumn (_field : RuleField) : BoundValue → Option (Option Scalar)
  | .json .null => some none
  | .json (.text text) => some (some (.text text))
  | .json (.number value) | .number (.finite value) => some (some (.number value.floor))
  | _ => none

def sampleMonitoring : MonitoringPlatform where
  number value := match value with
    | .number value => .finite value
    | _ => .notANumber
  string value := match value with
    | .text text => text
    | _ => ""
  iso time := toString time
  encipher draw value := "ENC:" ++ toString draw ++ ":" ++ value
  decipher text := if text = "ENC:aXY=:dGFn:cHVibGlj" then some "public" else none
  text := sampleText
  whole := sampleWhole
  column := sampleColumn
  number_number _ := rfl
  text_ne_empty width value htruthy h := by
    cases value with
    | text text =>
      rw [sampleText] at h
      split at h
      · exact of_decide_eq_true htruthy (Option.some.inj h)
      · cases h
    | null | bool _ | number _ | array _ | object _ => cases h
  whole_intCast n hleast hmost := by
    rw [sampleWhole, Rat.floor_intCast, if_pos]
    rw [Bool.and_eq_true, decide_eq_true_eq, decide_eq_true_eq]
    exact ⟨hleast, hmost⟩
  whole_between value n least most h hleast hmost := by
    rw [sampleWhole] at h
    split at h
    · obtain rfl := Option.some.inj h
      exact ⟨Rat.le_floor_iff.mpr hleast,
        Int.cast_le.mp ((Rat.floor_le value).trans hmost)⟩
    · cases h
  text_version := by decide
  column_null := rfl

def sampleSettings : MonitoringSettings where
  pingEnabled := true
  pingIntervalSec := 30
  snmpEnabled := true
  snmpVersion := some "2c"
  syslogEnabled := false
  syslogPort := 514
  texts field := if field = .vendor then some "meraki" else none
  secrets secret := if secret = .snmpCommunity then some "ENC:aXY=:dGFn:cHVibGlj" else none

def sampleRule : AlertRuleRow where
  id := "r1"
  companyId := "acme"
  assetId := some "a1"
  columns field := if field = .notifyEmail then some (.text "ops@acme.example") else some (.text "GT")
  updatedAt := 0

def switchDesk : MonitoringDesk where
  assets := [⟨"a1", "acme", "Switch"⟩]
  configs := [⟨"c1", "acme", "a1", sampleSettings, 0, 0⟩]
  rules := [sampleRule]

theorem held_sampleSettings : Held sampleMonitoring sampleSettings := by
  refine ⟨fun text h => ?_, fun field text h => ?_, fun secret text h => ?_⟩
  · obtain rfl := Option.some.inj h
    decide
  · cases field with
    | vendor =>
      obtain rfl := Option.some.inj h
      decide
    | snmpUsername | snmpAuthProtocol | snmpPrivacyProtocol | vendorControllerUrl | vendorSiteId => cases h
  · cases secret with
    | snmpCommunity =>
      obtain rfl := Option.some.inj h
      decide
    | vendorApiKey => cases h

theorem monitoring_settings_kept_name :
    WrittenBack sampleMonitoring "a1" "acme" "c2" (fun _ => 0) 5 switchDesk ∧
      ChangesOnlyRequested sampleMonitoring "a1" "r1" "acme"
        (.object [("name", .text "Down"), ("notifyEmail", .text "noc@acme.example")]) 5 switchDesk :=
  (monitoring_settings_kept_iff sampleMonitoring rfl rfl held_sampleSettings "c2" (fun _ => 0) 5 "a1" "r1" "acme"
    (.object [("name", .text "Down"), ("notifyEmail", .text "noc@acme.example")])).mpr ⟨by decide, rfl⟩

/-- An update that switches a rule off takes its e-mail address away. -/
theorem alert_email_lost : ¬ ∀ (P : MonitoringPlatform) (s : MonitoringDesk) (assetId companyId : String)
    (row : NetworkMonitoringConfig) (id : String) (draws : MonitoringSecret → Nat) (now : Int)
    (ruleAssetId ruleId ruleCompanyId : String) (dto : Json), ownsAsset s assetId companyId = true →
      findConfig s assetId companyId = some row → Held P row.settings →
        WrittenBack P assetId companyId id draws now s ∧
          ChangesOnlyRequested P ruleAssetId ruleId ruleCompanyId dto now s := by
  intro h
  have hchanges := (h sampleMonitoring switchDesk "a1" "acme" _ "c2" (fun _ => 0) 5 "a1" "r1" "acme"
    (.object [("enabled", .bool false)]) rfl rfl held_sampleSettings).2
  have hkept := (changesOnlyRequested_iff "a1" "r1" "acme" (.object [("enabled", .bool false)]) 5).mp hchanges
  have hlost : keepsEmail sampleMonitoring "a1" "r1" "acme" (.object [("enabled", .bool false)]) switchDesk =
      false := by
    decide
  rw [hlost] at hkept
  cases hkept

end Samples

end FieldserviceIT.Cmdb
