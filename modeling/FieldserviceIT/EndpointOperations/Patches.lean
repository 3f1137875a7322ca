import FieldserviceIT.Lib.Interleaving
import FieldserviceIT.Lib.Json
import FieldserviceIT.Lib.Upserts

/-!
The patches of assets: an ingest finds and writes one row for each entry of its list, and a patch
job queues a command for the device and is then written down. Any statement may fail where it says
so; what an operation replies is not read here.
-/

namespace FieldserviceIT.EndpointOperations

open Lib

/-- `String(value)`, `trim`, `toUpperCase`, the time of `new Date(value)` unless it is not a number,
and what the database compares two texts by. -/
structure PatchPlatform where
  text : Json → String
  trim : String → String
  toUpperCase : String → String
  time : Json → Option Nat
  collate : String → String

inductive PatchStatus where
  | missing
  | installed
  deriving DecidableEq

structure PatchValues where
  title : String
  severity : String
  status : PatchStatus
  releaseDate : Option Nat
  requiresReboot : Bool
  metadata : Json

/-- What a row of the inventory is found by. -/
structure Target where
  companyId : String
  assetId : String
  patchKey : String
  deriving DecidableEq

structure PatchRow where
  id : Nat
  target : Target
  values : PatchValues
  detectedAt : Nat
  installedAt : Option Nat

structure Asset where
  id : String
  companyId : String
  deletedAt : Option Nat

/-- No statement reads `missed`, the keys that were not missing when the command was queued. -/
structure MdmCommand where
  id : Nat
  companyId : String
  assetId : String
  patchKeys : List String
  policyId : Option String
  rebootAllowed : Bool
  requestedById : String
  missed : List String

structure PatchJob where
  companyId : String
  assetId : String
  policyId : Option String
  commandId : Option Nat
  patchKeys : List String
  requestedById : String
  scheduledAt : Nat

section Entries

variable (P : PatchPlatform)

def PatchPlatform.fold (target : Target) : Target :=
  ⟨P.collate target.companyId, P.collate target.assetId, P.collate target.patchKey⟩

def severities : List String :=
  ["CRITICAL", "IMPORTANT", "MODERATE", "LOW", "UNKNOWN"]

/-- `value || other` -/
def orElse (value : Option Json) (other : Json) : Json :=
  match value with
  | some value => if value.truthy then value else other
  | none => other

def option (value : Json) (allowed : List String) : Option String :=
  let normalized := P.toUpperCase (P.trim (P.text (orElse (some value) (.text ""))))
  if allowed.contains normalized then some normalized else none

def dateOrNull (value : Option Json) : Option (Option Nat) :=
  match value.filter Json.truthy with
  | none => some none
  | some value => (P.time value).map some

def isNull : Json → Bool
  | .null => true
  | _ => false

def patchKeyOf (patch : Json) : String :=
  P.trim (P.text (orElse (patch.property "patchKey")
    (orElse (patch.property "kb") (orElse (patch.property "id") (.text "")))))

def titleOf (patch : Json) : String :=
  P.trim (P.text (orElse (patch.property "title") (.text "")))

def severityOf (patch : Json) : Option String :=
  option P (orElse (patch.property "severity") (.text "UNKNOWN")) severities

def statusOf (patch : Json) : PatchStatus :=
  if P.toUpperCase (P.text (orElse (patch.property "status") (.text "MISSING"))) = "INSTALLED" then
    .installed
  else .missing

def valuesOf (patch : Json) (severity : String) (releaseDate : Option Nat) : PatchValues where
  title := titleOf P patch
  severity := severity
  status := statusOf P patch
  releaseDate := releaseDate
  requiresReboot := (patch.property "requiresReboot").any Json.truthy
  metadata := Json.orObject (patch.property "metadata")

inductive WriteFault where
  | query
  | write
  deriving DecidableEq

/-- An entry of the list, and which of its statements fails. -/
abbrev Listed : Type :=
  Json × Option WriteFault

end Entries

section Statements

variable (P : PatchPlatform)

/-- No statement reads `started`, the number of the next operation, `stored`, what each ingest under
way has written, and `held`, what each job under way has found missing. -/
structure PatchStore where
  assets : List Asset
  policies : List (String × String)
  inventory : NumberedTable PatchRow PatchRow.id
  inventory_primary : Distinct PatchRow.id inventory.rows
  inventory_unique : Distinct (fun row => P.fold row.target) inventory.rows
  commands : NumberedTable MdmCommand MdmCommand.id
  jobs : List PatchJob
  now : Nat
  started : Nat
  stored : List (Nat × Target)
  held : List (Nat × Target)

/-- The statements of an operation carry its number, and a write the entries that are left. -/
inductive PatchOp where
  | read
  | beginIngest (companyId assetId : String) (patches : List Listed)
  | write (ingest : Nat) (target : Target) (values : PatchValues) (existing : Option Nat)
      (rest : List Listed)
  | returnIngest (ingest : Nat) (companyId assetId : String) (patches : List Listed)
  | throwIngest (ingest : Nat)
  | check (companyId assetId : String) (patchKeys : List String)
  | giveUp (job : Nat)
  | queue (job : Nat) (command : MdmCommand) (completes : Bool)
  | insertJob (job : PatchJob)

abbrev PatchProgram := Prog (PatchStore P) PatchOp

variable {P}

def findAsset (companyId assetId : String) (s : PatchStore P) : Bool :=
  s.assets.any fun asset => decide (P.collate asset.id = P.collate assetId) &&
    decide (P.collate asset.companyId = P.collate companyId) && asset.deletedAt.isNone

def findPatch (target : Target) (s : PatchStore P) : Option PatchRow :=
  s.inventory.rows.find? fun row => P.fold row.target = P.fold target

def isMissing (target : Target) (s : PatchStore P) : Bool :=
  (findPatch target s).any fun row => row.values.status = .missing

/-- `status = 'MISSING' AND patchKey IN (...)` -/
def selectMissing (companyId assetId : String) (patchKeys : List String) (s : PatchStore P) :
    List PatchRow :=
  s.inventory.rows.filter fun row => row.values.status = .missing &&
    patchKeys.any fun patchKey => P.fold row.target = P.fold ⟨companyId, assetId, patchKey⟩

def allMissing (companyId assetId : String) (patchKeys : List String) (s : PatchStore P) : Bool :=
  decide ((selectMissing companyId assetId patchKeys s).length = patchKeys.length)

def PatchRow.written (values : PatchValues) (now : Nat) (row : PatchRow) : PatchRow :=
  { row with
    values := values
    detectedAt := now
    installedAt := if values.status = .installed then some now else none }

def newRow (target : Target) (values : PatchValues) (now id : Nat) : PatchRow where
  id := id
  target := target
  values := values
  detectedAt := now
  installedAt := if values.status = .installed then some now else none

def raced (target : Target) (existing : Option Nat) (s : PatchStore P) : Bool :=
  existing.isNone && (findPatch target s).isSome

theorem primary_insert (s : PatchStore P) {row : PatchRow} (hid : row.id = s.inventory.drawn) :
    Distinct PatchRow.id (s.inventory.insert row hid).rows :=
  s.inventory_primary.append fun other hother heq =>
    Nat.ne_of_lt (s.inventory.below other hother) (heq.trans hid)

theorem unique_insert (s : PatchStore P) {row : PatchRow} (hid : row.id = s.inventory.drawn)
    (hnone : ¬ (findPatch row.target s).isSome = true) :
    Distinct (fun row => P.fold row.target) (s.inventory.insert row hid).rows :=
  s.inventory_unique.append fun other hother heq => hnone
    (List.find?_isSome.mpr ⟨other, hother, decide_eq_true heq⟩)

theorem primary_update (s : PatchStore P) (id : Nat) (values : PatchValues) :
    Distinct PatchRow.id
      (updateWhere (fun row => row.id = id) (PatchRow.written values s.now) s.inventory.rows) :=
  s.inventory_primary.updateWhere fun _ _ => rfl

theorem unique_update (s : PatchStore P) (id : Nat) (values : PatchValues) :
    Distinct (fun row => P.fold row.target)
      (updateWhere (fun row => row.id = id) (PatchRow.written values s.now) s.inventory.rows) :=
  s.inventory_unique.updateWhere fun _ _ => rfl

def updateRow (id : Nat) (values : PatchValues) (s : PatchStore P) : PatchStore P :=
  { s with
    inventory := s.inventory.modify (fun row => row.id = id) (PatchRow.written values s.now)
      fun _ => rfl
    inventory_primary := primary_update s id values
    inventory_unique := unique_update s id values }

def insertRow (target : Target) (values : PatchValues) (s : PatchStore P) : PatchStore P :=
  if hsome : (findPatch target s).isSome then s
  else
    { s with
      inventory := s.inventory.insert (newRow target values s.now s.inventory.drawn) rfl
      inventory_primary := primary_insert s rfl
      inventory_unique := unique_insert s rfl hsome }

def storeRow (target : Target) (values : PatchValues) : Option Nat → PatchStore P → PatchStore P
  | some id => updateRow id values
  | none => insertRow target values

def targets (companyId assetId : String) (patchKeys : List String) : List Target :=
  patchKeys.map (Target.mk companyId assetId)

def missedBy (command : MdmCommand) (s : PatchStore P) : List String :=
  command.patchKeys.filter fun patchKey =>
    !isMissing ⟨command.companyId, command.assetId, patchKey⟩ s

def execPatch (op : PatchOp) (s : PatchStore P) : PatchStore P :=
  match op with
  | .read => s
  | .beginIngest .. => { s with started := s.started + 1 }
  | .write ingest target values existing _ =>
    if raced target existing s then s
    else
      { storeRow target values existing s with
        stored := (ingest, target) :: s.stored }
  | .returnIngest ingest _ _ _ | .throwIngest ingest =>
    { s with stored := s.stored.filter fun entry => entry.1 ≠ ingest }
  | .check companyId assetId patchKeys =>
    { s with
      started := s.started + 1
      held := if allMissing companyId assetId patchKeys s then
        (targets companyId assetId patchKeys).map (s.started, ·) ++ s.held
      else s.held }
  | .giveUp job => { s with held := s.held.filter fun entry => entry.1 ≠ job }
  | .queue job command _ =>
    { s with
      commands := s.commands.insert
        { command with
          id := s.commands.drawn
          missed := missedBy command s } rfl
      held := s.held.filter fun entry => entry.1 ≠ job }
  | .insertJob job => { s with jobs := job :: s.jobs }

end Statements

section Programs

variable (P : PatchPlatform)

def throwIngest (ingest : Nat) : PatchProgram P :=
  .step (.throwIngest ingest) fun _ => .fail

def storePatches (ingest : Nat) (companyId assetId : String) (patches : List Listed) :
    List Listed → PatchProgram P
  | [] => .step (.returnIngest ingest companyId assetId patches) fun _ => .done
  | (patch, fault) :: rest =>
    if isNull patch then throwIngest P ingest
    else if patchKeyOf P patch = "" ∨ titleOf P patch = "" then
      storePatches ingest companyId assetId patches rest
    else
      match severityOf P patch with
      | none => throwIngest P ingest
      | some severity =>
        if fault = some .query then throwIngest P ingest
        else
          .step .read fun s =>
            match dateOrNull P (patch.property "releaseDate") with
            | none => throwIngest P ingest
            | some releaseDate =>
              if fault = some .write then throwIngest P ingest
              else
                let target := ⟨companyId, assetId, patchKeyOf P patch⟩
                let existing := (findPatch target s).map PatchRow.id
                .step (.write ingest target (valuesOf P patch severity releaseDate) existing
                    rest) fun s' =>
                  if raced target existing s' then throwIngest P ingest
                  else storePatches ingest companyId assetId patches rest

def ingestPatchInventory (companyId : Option String) (assetId : String) (patches : List Listed) :
    PatchProgram P :=
  match companyId with
  | none => .fail
  | some companyId =>
    if assetId = "" then .fail
    else
      .step (.beginIngest companyId assetId patches) fun s =>
        if !findAsset companyId assetId s || patches.isEmpty then .fail
        else storePatches P s.started companyId assetId patches (patches.take 1000)

structure PatchJobDto where
  assetId : String
  patchKeys : List Json
  policyId : Option String
  rebootAllowed : Bool
  scheduledAt : Option Json

/-- The statement of a job that fails: the query for the policy or the asset, the insert of the
command, the update of the asset's notes, or the insert of the job. -/
inductive JobFault where
  | policy
  | asset
  | command
  | notes
  | job
  deriving DecidableEq

/-- `[...new Set(patchKeys.map(...).filter(Boolean))]` -/
def patchKeysOf (dto : PatchJobDto) : List String :=
  ((dto.patchKeys.map fun item => P.trim (P.text item)).filter (· ≠ "")).eraseDups

def giveUp (job : Nat) : PatchProgram P :=
  .step (.giveUp job) fun _ => .fail

def completes (dto : PatchJobDto) (fault : Option JobFault) : Bool :=
  (dateOrNull P dto.scheduledAt).isSome && decide (fault ≠ some .notes) &&
    decide (fault ≠ some .job)

/-- `runDeviceAction`, and the job after it. -/
def queuePatchJob (job : Nat) (companyId userId : String) (dto : PatchJobDto)
    (fault : Option JobFault) : PatchProgram P :=
  .step .read fun s =>
    if fault = some .asset || !findAsset companyId dto.assetId s || fault = some .command then
      giveUp P job
    else
      .step (.queue job ⟨0, companyId, dto.assetId, patchKeysOf P dto, dto.policyId,
          dto.rebootAllowed, userId, []⟩ (completes P dto fault)) fun s' =>
        if fault = some .notes then .fail
        else
          match dateOrNull P dto.scheduledAt with
          | none => .fail
          | some scheduledAt =>
            if fault = some .job then .fail
            else
              .step (.insertJob ⟨companyId, dto.assetId, dto.policyId, some s'.commands.drawn,
                patchKeysOf P dto, userId, scheduledAt.getD s'.now⟩) fun _ => .done

def createPatchJob (companyId : Option String) (userId : String) (dto : PatchJobDto)
    (fault : Option JobFault) : PatchProgram P :=
  match companyId with
  | none => .fail
  | some companyId =>
    if dto.assetId = "" then .fail
    else
      .step .read fun s =>
        if !findAsset companyId dto.assetId s || (patchKeysOf P dto).isEmpty then .fail
        else
          .step (.check companyId dto.assetId (patchKeysOf P dto)) fun s' =>
            if !allMissing companyId dto.assetId (patchKeysOf P dto) s' then .fail
            else
              match dto.policyId with
              | none => queuePatchJob P s'.started companyId userId dto fault
              | some policyId =>
                .step .read fun s'' =>
                  if fault = some .policy || !s''.policies.contains (policyId, companyId) then
                    giveUp P s'.started
                  else queuePatchJob P s'.started companyId userId dto fault

inductive PatchRequest where
  | ingestPatchInventory (companyId : Option String) (assetId : String) (patches : List Listed)
  | createPatchJob (companyId : Option String) (userId : String) (dto : PatchJobDto)
      (fault : Option JobFault)

def PatchRequest.handler : PatchRequest → PatchProgram P
  | ingestPatchInventory companyId assetId patches =>
    EndpointOperations.ingestPatchInventory P companyId assetId patches
  | createPatchJob companyId userId dto fault =>
    EndpointOperations.createPatchJob P companyId userId dto fault

def patchSystem : System (PatchStore P) PatchOp PatchRequest where
  exec := execPatch
  tick s := { s with now := s.now + 1 }
  handler := PatchRequest.handler P
  sendable _ _ := True

end Programs
end FieldserviceIT.EndpointOperations
