import FieldserviceIT.Access.ContextualPolicies
import FieldserviceIT.Common.Credential
import FieldserviceIT.Database.WhereClauses
import FieldserviceIT.Lib.Tables

/-!
What devices say about themselves, and how it gets into the asset table. A payload is a
JSON object; it is brought into shape field by field and handed to the statement
compilers, which make a column of every key.
-/

namespace FieldserviceIT.Cmdb

open Access Admin Common Database Lib Sql

/-- What the platform makes of values: texts and their cases, `new Date(value)`, a
percentage (`Math.max(0, Math.min(100, Number(value)))`), and what a column holds after a
value was bound to it, if the server takes the value at all. -/
structure PayloadReading where
  texts : TextReading
  date : Js → Js
  percentage : Js → Js
  stored : String → Js → Option (Option Scalar)

/-- The fields of a JSON object. -/
abbrev Payload := List (String × Js)

def Payload.get (data : Payload) (name : String) : Js :=
  (Js.object data).property name

def managedDeviceTypes : List String :=
  ["DESKTOP", "LAPTOP", "MOBILE", "TABLET", "SERVER", "IOT", "CHROMEBOOK", "RUGGED", "WEARABLE",
    "KIOSK", "NETWORK_DEVICE", "PRINTER"]

section Normalize

variable (R : PayloadReading)

/-- `String(value).toUpperCase()` -/
def upperCased (value : Js) : String :=
  R.texts.toUpperCase (stringOf value)

/-- `if (data[name]) data[name] = String(data[name]).toUpperCase()` -/
def upperField (name : String) (data : Payload) : Payload :=
  if countsAsTrue (data.get name) then Js.assign name (.text (upperCased R (data.get name))) data
  else data

def withAssetType (data : Payload) : Payload :=
  if countsAsTrue (data.get "deviceCategory") &&
      managedDeviceTypes.contains (stringOf (data.get "deviceCategory")) &&
        !countsAsTrue (data.get "assetType") then
    Js.assign "assetType" (data.get "deviceCategory") data
  else data

def withDeviceCategory (data : Payload) : Payload :=
  if !countsAsTrue (data.get "deviceCategory") && countsAsTrue (data.get "assetType") then
    let assetType := upperCased R (data.get "assetType")
    Js.assign "deviceCategory"
      (.text (if managedDeviceTypes.contains assetType then assetType else "OTHER")) data
  else data

def withBatteryLevel (data : Payload) : Payload :=
  match data.get "batteryLevel" with
  | .undefined => data
  | .scalar (.text "") => data
  | value => Js.assign "batteryLevel" (R.percentage value) data

def dateField (name : String) (data : Payload) : Payload :=
  let value := data.get name
  if countsAsTrue value then Js.assign name (R.date value) data
  else match value with
    | .scalar (.text "") => Js.assign name .null data
    | _ => data

def normalizeDevicePayload (dto : Payload) : Payload :=
  let data := upperField R "assetType" (upperField R "deviceCategory" dto)
  let data := withDeviceCategory R (withAssetType data)
  let data := upperField R "complianceStatus" (upperField R "enrollmentStatus" data)
  let data := upperField R "encryptionStatus" (upperField R "ownership" data)
  dateField R "warrantyExpiresAt" (dateField R "purchaseDate" (withBatteryLevel R data))

end Normalize

section Statements

variable (R : PayloadReading)

/-- The column a key stands for: the server does not tell cases apart. -/
def columnOf (name : String) : Option String :=
  if isSqlIdentifier name then
    assetColumns.find? fun column => lowerCased column = lowerCased name
  else none

def assignmentOf (field : String × Js) : Option (String × Option Scalar) :=
  (columnOf field.1).bind fun column =>
    (R.stored column field.2).map fun value => (column, value)

def setColumn (row : Row) (assignment : String × Option Scalar) : Row := fun column =>
  if column = assignment.1 then assignment.2 else row column

/-- The assignments of a statement. One that the server does not take leaves nothing of the
others either, and so does a statement without any. -/
def assignmentsOf (data : Payload) : Option (List (String × Option Scalar)) :=
  let fields := data.filter fun field => field.2.isDefined
  if fields.isEmpty then none else fields.mapM (assignmentOf R)

def textColumn (name : String) (row : Row) : Option String :=
  match row name with
  | some (.text s) => some s
  | _ => none

def idOf (key : String → String) (row : Row) : Option String :=
  (textColumn "id" row).map key

/-- `asset.update` -/
def updateAsset (key : String → String) (id : Option String) (data : Payload)
    (assets : List Row) : Option (List Row) :=
  (assignmentsOf R data).map fun assignments =>
    Lib.updateWhere (fun row => idOf key row = id) (fun row => assignments.foldl setColumn row)
      assets

end Statements

section Credentials

variable (H : Hashing)

/-- What `findByDeviceCredential` asks of the row with the id. -/
def acceptsDevice (deviceToken : String) (row : Row) : Bool :=
  ((textColumn "mdmDeviceTokenHash" row).any
      (fun stored => H.collates stored (hashCredential H deviceToken)) ||
    (textColumn "mdmDeviceTokenHash" row).isNone &&
      (textColumn "mdmDeviceId" row).any fun stored =>
        (credentialLookupValues H deviceToken)[1]?.any (H.collates stored)) &&
    (row "deletedAt").isNone

def findByDeviceCredential (key : String → String) (assetId deviceToken : String)
    (assets : List Row) : Option Row :=
  assets.find? fun row => idOf key row = some (key assetId) && acceptsDevice H deviceToken row

end Credentials

/-!
What a device can change with its token: the row of the asset it checks in for, and the
command it reports the result of. The body of a check-in is handed on to the update
compiler as it came.
-/

structure MdmCommand where
  id : String
  companyId : String
  assetId : String
  action : String
  status : String
  result : Option String
  completedAt : Option Int
  updatedAt : Int
  deriving DecidableEq

structure Devices where
  assets : List Row
  commands : List MdmCommand

/-- `key` is what the server compares ids by, `json` is `JSON.stringify`. -/
structure DevicePlatform where
  reading : PayloadReading
  hashing : Hashing
  key : String → String
  json : Js → String

section Endpoints

variable (P : DevicePlatform) (now : Int)

/-- `{ ...dto, enrollmentStatus: 'ENROLLED', lastCheckInAt: new Date() }` -/
def checkInData (dto : Payload) : Payload :=
  Js.assign "lastCheckInAt" (.scalar (.instant now))
    (Js.assign "enrollmentStatus" (.text "ENROLLED") dto)

/-- What a check-in does to the assets; one that is refused does nothing. -/
def checkInWithDeviceToken (assetId deviceToken : String) (dto : Payload) (s : Devices) : Devices :=
  match findByDeviceCredential P.hashing P.key assetId deviceToken s.assets with
  | none => s
  | some asset =>
    match updateAsset P.reading P.key (idOf P.key asset)
        (normalizeDevicePayload P.reading (checkInData now dto)) s.assets with
    | none => s
    | some assets => { s with assets := assets }

def commandWithAsset (commandId : String) (s : Devices) : Option (MdmCommand × Row) :=
  (s.commands.find? fun command => P.key command.id = P.key commandId).bind fun command =>
    (s.assets.find? fun row => idOf P.key row = some (P.key command.assetId)).map fun asset =>
      (command, asset)

/-- `command.mdmDeviceTokenHash || command.mdmDeviceId` -/
def storedCredential (asset : Row) : Option String :=
  match textColumn "mdmDeviceTokenHash" asset with
  | some stored => if stored = "" then textColumn "mdmDeviceId" asset else some stored
  | none => textColumn "mdmDeviceId" asset

def saysFailed (dto : Js) : Bool :=
  match dto.property "status" with
  | .scalar (.text status) => status = "FAILED"
  | _ => false

def MdmCommand.reported (dto : Js) (command : MdmCommand) : MdmCommand :=
  { command with
    status := if saysFailed dto then "FAILED" else "COMPLETED"
    result := some (P.json (eitherOf (dto.property "result") (.object [])))
    completedAt := some now
    updatedAt := now }

def completeDeviceCommand (commandId deviceToken : String) (dto : Js) (s : Devices) :
    Option Devices :=
  match commandWithAsset P commandId s with
  | none => none
  | some (_, asset) =>
    if credentialMatches P.hashing deviceToken (storedCredential asset) then
      some
        { s with
          commands := updateWhere (fun command => P.key command.id = P.key commandId)
            (MdmCommand.reported P now dto) s.commands }
    else none

end Endpoints

section Laws

variable (P : DevicePlatform) (now : Int) (s : Devices)

def telemetryFields : List String :=
  ["assetType", "deviceCategory", "manufacturer", "model", "cpu", "ram", "storage", "os",
    "osVersion", "ipAddress", "macAddress", "enrollmentStatus", "lastCheckInAt",
    "complianceStatus", "complianceReasons", "encryptionStatus", "firewallEnabled",
    "antivirusStatus", "passcodeCompliant", "jailbreakDetected", "batteryLevel", "imei", "meid",
    "phoneNumber", "carrier", "appInventory"]

/-- No asset but the owner's is changed, and of the owner's only the telemetry. -/
def ChangesOnlyTelemetry (owner : Option Row) (before after : List Row) : Prop :=
  ∀ (i : Nat) (row row' : Row), before[i]? = some row → after[i]? = some row' →
    row' = row ∨ owner = some row ∧ ∀ column, column ∉ telemetryFields → row' column = row column

/-- Ids are primary keys. -/
structure Devices.Keyed (key : String → String) : Prop where
  assets : Distinct (idOf key) s.assets
  commands : Distinct (fun command => key command.id) s.commands

def written (assignments : List (String × Option Scalar)) (column : String) :
    Option (Option Scalar) :=
  (assignments.reverse.find? fun assignment => assignment.1 = column).map (·.2)

/-- Every column the check-in writes is telemetry, or gets the value it has. -/
def SendsOnlyTelemetry (assetId deviceToken : String) (dto : Payload) : Prop :=
  ∀ owner assignments,
    findByDeviceCredential P.hashing P.key assetId deviceToken s.assets = some owner →
    assignmentsOf P.reading (normalizeDevicePayload P.reading (checkInData now dto)) =
      some assignments →
    ∀ column value, written assignments column = some value → column ∉ telemetryFields →
      owner column = value

/-- A report is taken from the devices that are let in, and finished commands stay as they
are. -/
def ReportsAsAdmitted (commandId deviceToken : String) (dto : Js) : Prop :=
  ∀ command asset, commandWithAsset P commandId s = some (command, asset) →
    ((completeDeviceCommand P now commandId deviceToken dto s).isSome =
        (findByDeviceCredential P.hashing P.key command.assetId deviceToken s.assets).isSome) ∧
      (command.status ≠ "PENDING" → ∀ s', completeDeviceCommand P now commandId deviceToken dto s =
        some s' → s'.commands = s.commands)

/-- On the credential a row stores, the comparison byte by byte says what the server says
under its collation. A digest is compared with the digest of the token, and so is any
other text in its column; the device id counts where that column is `NULL`. -/
def ComparesAlike (H : Hashing) (deviceToken : String) (asset : Row) : Prop :=
  match textColumn "mdmDeviceTokenHash" asset with
  | some stored =>
    if isHashedCredential stored then
      H.collates stored (hashCredential H deviceToken) = true → stored = hashCredential H deviceToken
    else (H.collates stored (hashCredential H deviceToken) = true ↔
      credentialMatches H deviceToken (storedCredential asset) = true)
  | none =>
    match textColumn "mdmDeviceId" asset with
    | some stored =>
      if stored ≠ "" ∧ isHashedCredential stored = false ∧
          hashCredential H deviceToken ≠ deviceToken then
        H.collates stored deviceToken = true → stored = deviceToken
      else ((credentialLookupValues H deviceToken)[1]?.any (H.collates stored) = true ↔
        credentialMatches H deviceToken (some stored) = true)
    | none => True

/-- The asset is there and stores a credential on which both comparisons agree, or the token
is not its own; and the command is open, or the report says what the row holds. -/
def ReportsInOrder (commandId deviceToken : String) (dto : Js) : Prop :=
  ∀ command asset, commandWithAsset P commandId s = some (command, asset) →
    (asset "deletedAt" = none → ComparesAlike P.hashing deviceToken asset) ∧
      (credentialMatches P.hashing deviceToken (storedCredential asset) = true →
        asset "deletedAt" = none ∧
          (command.status ≠ "PENDING" → MdmCommand.reported P now dto command = command))

end Laws

section CheckIn

variable {P : DevicePlatform} {now : Int} {s : Devices}

theorem foldl_setColumn (row : Row) (assignments : List (String × Option Scalar))
    (column : String) :
    assignments.foldl setColumn row column = (written assignments column).getD (row column) := by
  induction assignments generalizing row with
  | nil => rfl
  | cons assignment assignments ih =>
    rw [List.foldl_cons, ih, written, written, List.reverse_cons, List.find?_append]
    cases hfound : assignments.reverse.find? fun assignment => assignment.1 = column with
    | some other => rfl
    | none =>
      by_cases hcolumn : column = assignment.1
      · simp [setColumn, hcolumn]
      · simp [setColumn, hcolumn, Ne.symm hcolumn]

theorem mem_of_findByDeviceCredential {H : Hashing} {key : String → String}
    {assetId deviceToken : String} {assets : List Row} {owner : Row}
    (h : findByDeviceCredential H key assetId deviceToken assets = some owner) :
    owner ∈ assets ∧ idOf key owner = some (key assetId) ∧
      acceptsDevice H deviceToken owner = true := by
  have hfound := List.find?_some h
  rw [Bool.and_eq_true, decide_eq_true_eq] at hfound
  exact ⟨List.mem_of_find?_eq_some h, hfound⟩

theorem updated_law_iff {key : String → String} {assets : List Row} {owner : Row}
    (assignments : List (String × Option Scalar)) (hdistinct : Distinct (idOf key) assets)
    (howner : owner ∈ assets) :
    ChangesOnlyTelemetry (some owner) assets (updateWhere (fun row => idOf key row =
        idOf key owner) (fun row => assignments.foldl setColumn row) assets) ↔
      ∀ column value, written assignments column = some value → column ∉ telemetryFields →
        owner column = value := by
  constructor
  · intro hlaw column value hwritten hcolumn
    obtain ⟨i, hi⟩ := List.getElem?_of_mem howner
    have hafter : (updateWhere (fun row => idOf key row = idOf key owner)
        (fun row => assignments.foldl setColumn row) assets)[i]? =
          some (assignments.foldl setColumn owner) := by
      simp [updateWhere, hi]
    have hsame : assignments.foldl setColumn owner column = owner column := by
      obtain heq | ⟨-, hkept⟩ := hlaw i owner _ hi hafter
      · rw [heq]
      · exact hkept column hcolumn
    rw [foldl_setColumn, hwritten] at hsame
    exact hsame.symm
  · intro honly i row row' hrow hrow'
    rw [updateWhere, List.getElem?_map, hrow, Option.map_some] at hrow'
    obtain rfl := Option.some.inj hrow'
    by_cases hid : idOf key row = idOf key owner
    · obtain rfl := hdistinct.eq_of_key (List.mem_of_getElem? hrow) howner hid
      refine .inr ⟨rfl, fun column hcolumn => ?_⟩
      rw [if_pos (decide_eq_true hid), foldl_setColumn]
      cases hwritten : written assignments column with
      | none => rfl
      | some value => exact (honly column value hwritten hcolumn).symm
    · left
      rw [if_neg (by simpa using hid)]

theorem checkIn_law_iff (hkeyed : s.Keyed P.key) (assetId deviceToken : String) (dto : Payload) :
    ChangesOnlyTelemetry (findByDeviceCredential P.hashing P.key assetId deviceToken s.assets)
        s.assets (checkInWithDeviceToken P now assetId deviceToken dto s).assets ↔
      SendsOnlyTelemetry P now s assetId deviceToken dto := by
  cases hfound : findByDeviceCredential P.hashing P.key assetId deviceToken s.assets with
  | none =>
    rw [checkInWithDeviceToken, hfound, SendsOnlyTelemetry]
    refine iff_of_true (fun i row row' hrow hrow' => .inl ?_) fun owner _ howner => ?_
    · exact Option.some.inj (hrow'.symm.trans hrow)
    · rw [hfound] at howner
      cases howner
  | some owner =>
    obtain ⟨howner, -, -⟩ := mem_of_findByDeviceCredential hfound
    rw [checkInWithDeviceToken, hfound, SendsOnlyTelemetry]
    simp only [updateAsset]
    cases hassigned : assignmentsOf P.reading
        (normalizeDevicePayload P.reading (checkInData now dto)) with
    | none =>
      refine iff_of_true (fun i row row' hrow hrow' => .inl ?_) fun _ _ _ hsome => ?_
      · exact Option.some.inj (hrow'.symm.trans hrow)
      · cases hsome
    | some assignments =>
      refine Iff.trans (updated_law_iff assignments hkeyed.assets howner) ⟨?_, fun h => ?_⟩
      · intro h owner' assignments' howner' hassigned'
        obtain rfl := Option.some.inj (hfound.symm.trans howner')
        obtain rfl := Option.some.inj hassigned'
        exact h
      · exact h owner assignments hfound rfl

end CheckIn

section Reports

variable {P : DevicePlatform} {now : Int} {s : Devices}

theorem eq_collates_iff (H : Hashing) (stored wanted : String) :
    (H.collates stored wanted = true → stored = wanted) ↔
      decide (stored = wanted) = H.collates stored wanted := by
  constructor
  · intro h
    by_cases heq : stored = wanted
    · subst heq
      rw [H.collates_refl, decide_eq_true rfl]
    · rw [decide_eq_false heq]
      exact (Bool.eq_false_iff.mpr fun hcollates => heq (h hcollates)).symm
  · intro h hcollates
    rw [hcollates] at h
    exact of_decide_eq_true h

theorem bool_iff_iff_eq {a b : Bool} : (a = true ↔ b = true) ↔ b = a :=
  ⟨fun h => (Bool.eq_iff_iff.mpr h).symm, fun h => Bool.eq_iff_iff.mp h.symm⟩

theorem comparesAlike_iff (H : Hashing) (deviceToken : String) {asset : Row}
    (hlive : asset "deletedAt" = none) :
    ComparesAlike H deviceToken asset ↔
      credentialMatches H deviceToken (storedCredential asset) = acceptsDevice H deviceToken asset := by
  rw [ComparesAlike, acceptsDevice, hlive]
  cases hhash : textColumn "mdmDeviceTokenHash" asset with
  | some stored =>
    simp only [Option.any_some, Option.isNone_some, Bool.false_and, Bool.or_false,
      Option.isNone_none, Bool.and_true]
    split
    · next hdigest =>
        have hne : stored ≠ "" := by
          rintro rfl
          exact absurd hdigest (by decide)
        have hstored : storedCredential asset = some stored := by
          rw [storedCredential, hhash]
          exact if_neg hne
        rw [hstored, credentialMatches, if_pos hdigest, eq_collates_iff, decide_eq_true hne,
          Bool.true_and]
    · exact bool_iff_iff_eq
  | none =>
    have hstored : storedCredential asset = textColumn "mdmDeviceId" asset := by
      rw [storedCredential, hhash]
    rw [hstored]
    simp only [Option.any_none, Option.isNone_none, Bool.true_and, Bool.false_or, Bool.and_true]
    cases textColumn "mdmDeviceId" asset with
    | none => exact iff_of_true trivial rfl
    | some stored =>
      simp only [Option.any_some]
      split
      · next hplain =>
          obtain ⟨hne, hdigest, htoken⟩ := hplain
          rw [credentialLookupValues, if_neg htoken, credentialMatches,
            if_neg (by rw [hdigest]; exact Bool.false_ne_true), eq_collates_iff,
            decide_eq_true hne, Bool.true_and]
          rfl
      · exact bool_iff_iff_eq

theorem acceptsDevice_deleted {H : Hashing} {deviceToken : String} {asset : Row}
    (hdeleted : asset "deletedAt" ≠ none) : acceptsDevice H deviceToken asset = false := by
  rw [acceptsDevice, Option.isNone_eq_false_iff.mpr (Option.isSome_iff_ne_none.mpr hdeleted),
    Bool.and_false]

theorem isSome_findByDeviceCredential {assetId deviceToken : String} {asset : Row}
    (hkeyed : Distinct (idOf P.key) s.assets)
    (hasset : s.assets.find? (fun row => idOf P.key row = some (P.key assetId)) = some asset) :
    (findByDeviceCredential P.hashing P.key assetId deviceToken s.assets).isSome =
      acceptsDevice P.hashing deviceToken asset := by
  have hid := List.find?_some hasset
  rw [decide_eq_true_eq] at hid
  rw [Bool.eq_iff_iff, Option.isSome_iff_exists]
  constructor
  · rintro ⟨owner, howner⟩
    obtain ⟨hmem, howned, haccepts⟩ := mem_of_findByDeviceCredential howner
    rw [← hkeyed.eq_of_key hmem (List.mem_of_find?_eq_some hasset) (howned.trans hid.symm)]
    exact haccepts
  · intro haccepts
    refine Option.isSome_iff_exists.mp (List.find?_isSome.mpr
      ⟨asset, List.mem_of_find?_eq_some hasset, ?_⟩)
    rw [haccepts, decide_eq_true hid]
    rfl

theorem updateWhere_eq_self_iff {commandId : String} {command : MdmCommand}
    (change : MdmCommand → MdmCommand)
    (hkeyed : Distinct (fun command => P.key command.id) s.commands)
    (hfound : s.commands.find? (fun command => P.key command.id = P.key commandId) = some command) :
    updateWhere (fun command => P.key command.id = P.key commandId) change s.commands =
      s.commands ↔ change command = command := by
  have hid := List.find?_some hfound
  have hmem := List.mem_of_find?_eq_some hfound
  rw [decide_eq_true_eq] at hid
  constructor
  · intro hsame
    obtain ⟨i, hi⟩ := List.getElem?_of_mem hmem
    have hafter : (updateWhere (fun command => P.key command.id = P.key commandId) change
        s.commands)[i]? = some (change command) := by
      simp [updateWhere, hi, hid]
    rw [hsame, hi] at hafter
    exact (Option.some.inj hafter).symm
  · intro hsame
    refine (List.map_congr_left fun other hother => ?_).trans (List.map_id s.commands)
    by_cases hother' : P.key other.id = P.key commandId
    · obtain rfl := hkeyed.eq_of_key hother hmem (hother'.trans hid.symm)
      rw [if_pos (decide_eq_true hother'), hsame]
      rfl
    · rw [if_neg (by simpa using hother')]
      rfl

/-- Commands are reported by the devices that are let in exactly when the asset is there,
stores its credential in order, and the command is open. -/
theorem command_law_iff (hkeyed : s.Keyed P.key) (commandId deviceToken : String) (dto : Js) :
    ReportsAsAdmitted P now s commandId deviceToken dto ↔
      ReportsInOrder P now s commandId deviceToken dto := by
  refine forall_congr' fun command => forall_congr' fun asset => forall_congr' fun hfound => ?_
  obtain ⟨command', hcommand, hrest⟩ := Option.bind_eq_some_iff.mp hfound
  obtain ⟨asset', hasset, heq⟩ := Option.map_eq_some_iff.mp hrest
  obtain ⟨rfl, rfl⟩ := Prod.mk.inj heq
  rw [completeDeviceCommand, hfound, isSome_findByDeviceCredential hkeyed.assets hasset]
  simp only
  by_cases hmatches : credentialMatches P.hashing deviceToken (storedCredential asset') = true
  · rw [if_pos hmatches]
    simp only [Option.isSome_some, Option.some.injEq, forall_eq', hmatches, forall_const]
    by_cases hlive : asset' "deletedAt" = none
    · have halike := comparesAlike_iff P.hashing deviceToken hlive
      rw [hmatches] at halike
      have hsame := updateWhere_eq_self_iff (MdmCommand.reported P now dto) hkeyed.commands
        hcommand
      rw [halike, hsame]
      exact ⟨fun h => ⟨fun _ => h.1, hlive, h.2⟩, fun h => ⟨h.1 hlive, h.2.2⟩⟩
    · rw [acceptsDevice_deleted hlive]
      exact iff_of_false (fun h => Bool.noConfusion h.1) fun h => hlive h.2.1
  · rw [if_neg hmatches]
    simp only [Option.isSome_none, reduceCtorEq, false_implies, implies_true, and_true, hmatches]
    by_cases hlive : asset' "deletedAt" = none
    · have halike := comparesAlike_iff P.hashing deviceToken hlive
      rw [Bool.eq_false_iff.mpr hmatches] at halike
      rw [halike]
      exact ⟨fun h _ => h, fun h => h hlive⟩
    · exact iff_of_true (acceptsDevice_deleted hlive).symm fun h => absurd h hlive

/-- A device reports about itself, and only devices that are let in report, exactly when it
sends nothing but telemetry and its report is in order. -/
theorem device_reports_about_itself (hkeyed : s.Keyed P.key) (assetId deviceToken : String)
    (dto : Payload) (commandId reportToken : String) (report : Js) :
    ChangesOnlyTelemetry (findByDeviceCredential P.hashing P.key assetId deviceToken s.assets)
          s.assets (checkInWithDeviceToken P now assetId deviceToken dto s).assets ∧
        ReportsAsAdmitted P now s commandId reportToken report ↔
      SendsOnlyTelemetry P now s assetId deviceToken dto ∧
        ReportsInOrder P now s commandId reportToken report :=
  and_congr (checkIn_law_iff hkeyed assetId deviceToken dto)
    (command_law_iff hkeyed commandId reportToken report)

end Reports

section Samples

def sampleDeviceToken : String := "5e0c7a52-8a7d-4c1e-9f0b-2f4f6f1f3a10"

def deviceDigests : List (String × String) :=
  [(sampleDeviceToken, "9eadc2bda217976c6ab012c7082961164458e19a2c860ddc37c61d5b2e6a5442")]

theorem deviceDigests_nodup : (deviceDigests.map (·.2)).Nodup := by
  decide

theorem deviceDigests_hex : ∀ p ∈ deviceDigests, p.2.toList.head? ≠ some 'x' := by
  decide

def sampleReading : PayloadReading where
  texts :=
    { number := fun _ => .notANumber
      toLowerCase := lowerCased
      toUpperCase := fun text => String.ofList (text.toList.map Char.toUpper) }
  date value := value
  percentage value := value
  stored _ value :=
    match value with
    | .null => some none
    | .scalar v => some (some v)
    | _ => none

def sampleDevicePlatform : DevicePlatform where
  reading := sampleReading
  hashing := tableHashing deviceDigests deviceDigests_nodup deviceDigests_hex
  key := id
  json _ := "{}"

def sampleDevice : Row := fun column =>
  [("id", Scalar.text "asset-1"), ("companyId", .text "company-1"), ("name", .text "Laptop 1"),
    ("mdmDeviceTokenHash", .text "sha256:9eadc2bda217976c6ab012c7082961164458e19a2c860ddc37c61d5b2e6a5442"),
    ("osVersion", .text "14.1")].lookup column

def sampleDevices : Devices :=
  ⟨[sampleDevice], [⟨"command-1", "company-1", "asset-1", "LOCK", "PENDING", none, none, 0⟩]⟩

theorem keyed_sampleDevices : sampleDevices.Keyed sampleDevicePlatform.key :=
  ⟨List.nodup_singleton _, List.nodup_singleton _⟩

theorem commandWithAsset_sampleDevices :
    commandWithAsset sampleDevicePlatform "command-1" sampleDevices =
      some (⟨"command-1", "company-1", "asset-1", "LOCK", "PENDING", none, none, 0⟩,
        sampleDevice) := by
  rfl

/-- A new version of the system, and the result of a command. -/
theorem device_reports_about_itself_sample :
    ChangesOnlyTelemetry (findByDeviceCredential sampleDevicePlatform.hashing
        sampleDevicePlatform.key "asset-1" sampleDeviceToken sampleDevices.assets)
        sampleDevices.assets (checkInWithDeviceToken sampleDevicePlatform 0 "asset-1"
          sampleDeviceToken [("osVersion", .text "14.2")] sampleDevices).assets ∧
      ReportsAsAdmitted sampleDevicePlatform 0 sampleDevices "command-1" sampleDeviceToken
        (.object []) := by
  refine (device_reports_about_itself keyed_sampleDevices "asset-1" sampleDeviceToken _
    "command-1" sampleDeviceToken (.object [])).mpr ⟨?_, ?_⟩
  · intro owner assignments _ hassigned column value hwritten hcolumn
    have htelemetry : ((assignmentsOf sampleReading (normalizeDevicePayload sampleReading
        (checkInData 0 [("osVersion", .text "14.2")]))).all fun assignments =>
          assignments.all fun assignment => telemetryFields.contains assignment.1) = true := by
      decide
    obtain ⟨assignment, hfound, -⟩ := Option.map_eq_some_iff.mp hwritten
    have hall := (Option.all_eq_true _ _).mp htelemetry assignments hassigned
    have hmem := List.all_eq_true.mp hall assignment
      (List.mem_reverse.mp (List.mem_of_find?_eq_some hfound))
    have hname : assignment.1 = column := by simpa using List.find?_some hfound
    rw [hname, List.contains_iff_mem] at hmem
    exact absurd hmem hcolumn
  · intro command asset hfound
    rw [commandWithAsset_sampleDevices] at hfound
    obtain ⟨rfl, rfl⟩ := Prod.mk.inj (Option.some.inj hfound)
    refine ⟨fun _ => ?_, fun _ => ⟨by decide, fun hopen => absurd rfl hopen⟩⟩
    have hstored : textColumn "mdmDeviceTokenHash" sampleDevice =
        some "sha256:9eadc2bda217976c6ab012c7082961164458e19a2c860ddc37c61d5b2e6a5442" := rfl
    rw [ComparesAlike, hstored]
    simp only
    rw [if_pos (by decide)]
    exact fun hcollates => of_decide_eq_true hcollates

/-- A check-in that names the company moves the asset there. -/
theorem check_in_moves_asset : ¬ ∀ (P : DevicePlatform) (now : Int) (s : Devices)
    (assetId deviceToken : String) (dto : Payload) (commandId reportToken : String) (report : Js),
    s.Keyed P.key →
      ChangesOnlyTelemetry (findByDeviceCredential P.hashing P.key assetId deviceToken s.assets)
          s.assets (checkInWithDeviceToken P now assetId deviceToken dto s).assets ∧
        ReportsAsAdmitted P now s commandId reportToken report := by
  intro hall
  have hmoved : ((checkInWithDeviceToken sampleDevicePlatform 0 "asset-1" sampleDeviceToken
      [("companyId", .text "company-2")] sampleDevices).assets[0]?).any (fun row =>
        decide (row "companyId" = some (.text "company-2"))) = true := by
    decide
  obtain ⟨row', hrow', hcompany⟩ := (Option.any_eq_true _ _).mp hmoved
  have hkept : row' "companyId" = sampleDevice "companyId" := by
    have hlaw := hall sampleDevicePlatform 0 sampleDevices "asset-1" sampleDeviceToken
      [("companyId", .text "company-2")] "command-1" sampleDeviceToken (.object [])
      keyed_sampleDevices
    obtain heq | ⟨-, hfields⟩ := hlaw.1 0 sampleDevice row' rfl hrow'
    · rw [heq]
    · exact hfields "companyId" (by decide)
  rw [of_decide_eq_true hcompany] at hkept
  exact absurd hkept (by decide)

end Samples
end FieldserviceIT.Cmdb
