import FieldserviceIT.Admin.Accounts
import FieldserviceIT.Lib.Interleaving
import FieldserviceIT.Lib.Tables

/-!
Network device actions: how they are queued, decided and executed. A decision and an
execution read the action, check it and write it later by id and company; between its
checks and its write an execution sends the command to the device.
-/

namespace FieldserviceIT.Cmdb

open Common Lib Admin

inductive DeviceActionStatus where
  | pendingApproval
  | queued
  | completed
  | failed
  | rejected
  deriving DecidableEq

inductive ActionApproval where
  | notRequired
  | pending
  | approved
  | rejected
  deriving DecidableEq

/-- What has happened to an action. -/
inductive DeviceEvent where
  | approved (userId : String)
  | rejected (userId : String)
  | sent
  | recorded (status : DeviceActionStatus)
  deriving DecidableEq

def DeviceEvent.status : DeviceEvent → Option DeviceActionStatus
  | approved _ => some .queued
  | rejected _ => some .rejected
  | sent => none
  | recorded status => some status

/-- `trace` is no column: it records what happens to the row, and nothing reads it. -/
structure NetworkDeviceAction where
  id : String
  companyId : String
  assetId : String
  action : String
  payload : String
  status : DeviceActionStatus
  approvalStatus : ActionApproval
  requestedById : Option String
  approvedById : Option String
  approvedAt : Option Int
  rejectedById : Option String
  rejectedAt : Option Int
  approvalNote : Option String
  result : Option String
  createdAt : Int
  completedAt : Option Int
  trace : List DeviceEvent

inductive Decision where
  | approve
  | reject

/-- `assets` are the assets in use with their company, `requireNetworkApproval` is the
column of the security policy, if there is one. -/
structure Network where
  actions : List NetworkDeviceAction
  assets : List (String × String)
  requireNetworkApproval : Option Bool
  now : Int

inductive DeviceOp where
  | read
  | insert (row : NetworkDeviceAction)
  | decide (id : String) (decision : Decision) (userId : String) (note : Option String)
      (seen : NetworkDeviceAction)
  | send (seen : NetworkDeviceAction)
  | record (id companyId : String) (status : DeviceActionStatus) (result : String)
  | setPolicy (requireNetworkApproval : Bool)

abbrev DeviceProgram := Prog Network DeviceOp

section Statements

namespace NetworkDeviceAction

variable (row : NetworkDeviceAction) (now : Int)

def decided (decision : Decision) (userId : String) (note : Option String) :
    NetworkDeviceAction :=
  match decision with
  | .approve =>
    { row with
      approvalStatus := .approved, approvedById := some userId, approvedAt := some now
      approvalNote := note, status := .queued
      trace := row.trace ++ [.approved userId] }
  | .reject =>
    { row with
      approvalStatus := .rejected, rejectedById := some userId, rejectedAt := some now
      approvalNote := note, status := .rejected
      trace := row.trace ++ [.rejected userId] }

def wasSent : NetworkDeviceAction :=
  { row with trace := row.trace ++ [.sent] }

def finished (status : DeviceActionStatus) (result : String) : NetworkDeviceAction :=
  { row with
    status := status, result := some result, completedAt := some now
    trace := row.trace ++ [.recorded status] }

end NetworkDeviceAction

variable (key : String → String)

/-- `key` is what the server compares ids by. -/
def named (id companyId : String) (row : NetworkDeviceAction) : Bool :=
  key row.id = key id && key row.companyId = key companyId

def execDevice : DeviceOp → Network → Network
  | .read, s => s
  | .insert row, s =>
    -- the primary key refuses an id that is taken
    if s.actions.any fun other => key other.id = key row.id then s
    else { s with actions := s.actions ++ [row] }
  | .decide id decision userId note seen, s =>
    { s with
      actions := updateWhere (named key id seen.companyId)
        (fun row => row.decided s.now decision userId note) s.actions }
  | .send seen, s =>
    { s with
      actions := updateWhere (fun row => row.id = seen.id) (·.wasSent) s.actions }
  | .record id companyId status result, s =>
    { s with
      actions := updateWhere (named key id companyId)
        (fun row => row.finished s.now status result) s.actions }
  | .setPolicy requireNetworkApproval, s =>
    { s with requireNetworkApproval := some requireNetworkApproval }

end Statements

section Calls

def deviceActions : List String :=
  ["RESTART", "DISABLE_PORT", "ENABLE_PORT", "BOUNCE_POE", "BACKUP_CONFIG", "SYNC_CONTROLLER"]

def portActions : List String :=
  ["DISABLE_PORT", "ENABLE_PORT", "BOUNCE_POE"]

/-- `policyFails`: the query of the policy fails, which reads as no policy. -/
def approvalRequired (policy : Option Bool) (policyFails : Bool) (action : String) : Bool :=
  !policyFails && policy.getD false && ["RESTART", "DISABLE_PORT", "BOUNCE_POE"].contains action

def newAction (id companyId assetId action payload : String) (requestedById : Option String)
    (required : Bool) (now : Int) : NetworkDeviceAction where
  id := id
  companyId := companyId
  assetId := assetId
  action := action
  payload := payload
  status := if required then .pendingApproval else .queued
  approvalStatus := if required then .pending else .notRequired
  requestedById := requestedById
  approvedById := none
  approvedAt := none
  rejectedById := none
  rejectedAt := none
  approvalNote := none
  result := none
  createdAt := now
  completedAt := none
  trace := []

/-- What `randomUUID` draws, and whether the policy can be read. -/
structure Draw where
  id : String
  policyFails : Bool

variable (key : String → String)

def insertAction (draw : Draw) (companyId assetId action payload : String)
    (requestedById : Option String) : DeviceProgram :=
  .step .read fun s =>
    .step .read fun s' =>
      .step
        (.insert (newAction draw.id companyId assetId action payload requestedById
          (approvalRequired s.requireNetworkApproval draw.policyFails action) s'.now))
        fun _ => .done

def hasAsset (assetId companyId : String) (s : Network) : Bool :=
  s.assets.any fun asset => key asset.1 = key assetId && key asset.2 = key companyId

/-- `CmdbService.queueDeviceAction` -/
def queueDeviceAction (draw : Draw) (assetId companyId : String) (action : Option String)
    (payload : String) (requestedById : Option String) : DeviceProgram :=
  .step .read fun s =>
    if !hasAsset key assetId companyId s then .fail
    else if !deviceActions.contains (upperCased action) then .fail
    else
      insertAction draw companyId assetId (upperCased action) payload
        (orNull requestedById)

def resolveWriteCompany (user : CurrentUser) (requested : Option String) : Option String :=
  if truthy user.companyId then user.companyId
  else if user.role = .superAdmin then
    (orElse user.effectiveCompanyId requested).filter (· ≠ "")
  else none

/-- `TopologyService.queueAction`; `port` is the port of the payload. -/
def queueAction (draw : Draw) (user : CurrentUser) (assetId : String)
    (requestedCompany action port : Option String) (payload : String) : DeviceProgram :=
  match resolveWriteCompany user requestedCompany with
  | none => .fail
  | some companyId =>
    .step .read fun s =>
      if !hasAsset key assetId companyId s then .fail
      else if !deviceActions.contains (upperCased action) then .fail
      else if portActions.contains (upperCased action) && isBlank port then .fail
      else insertAction draw companyId assetId (upperCased action) payload (some user.id)

/-- `String(note || '').slice(0, 500) || null` -/
def decisionNote (note : Option String) : Option String :=
  let text := String.ofList ((note.getD "").toList.take 500)
  if text = "" then none else some text

def decideNetworkAction (user : CurrentUser) (id : String) (decision : Decision)
    (note : Option String) : DeviceProgram :=
  if user.role ≠ .superAdmin && user.role ≠ .tenantAdmin then .fail
  else
    .step .read fun s =>
      match s.actions.find? fun row => key row.id = key id with
      | none => .fail
      | some action =>
        let companyId := orElse user.effectiveCompanyId user.companyId
        if truthy companyId && companyId ≠ some action.companyId then .fail
        else if action.requestedById = some user.id then .fail
        else if action.approvalStatus ≠ .pending then .fail
        else .step (.decide id decision user.id (decisionNote note) action) fun _ => .done

/-- What an execution meets outside the table: the settings of the device cannot be read,
there is nothing to send to, the mapping refuses before it sends, or the device answers. -/
inductive VendorRun where
  | noSettings
  | unmapped
  | refused (error : String)
  | answered (ok : Bool) (result : String)

/-- `CmdbService.executeDeviceAction` -/
def executeDeviceAction (assetId actionId companyId : String) (run : VendorRun) :
    DeviceProgram :=
  .step .read fun s =>
    match s.actions.find? fun row => named key actionId companyId row &&
        key row.assetId = key assetId with
    | none => .fail
    | some action =>
      if action.approvalStatus = .pending || action.status = .pendingApproval then .fail
      else if action.approvalStatus = .rejected || action.status = .rejected then .fail
      else if action.status ≠ .queued then .fail
      else
        let record (status : DeviceActionStatus) (result : String) : DeviceProgram :=
          .step (.record actionId companyId status result) fun _ => .done
        match run with
        | .noSettings => .fail
        | .unmapped =>
          record .completed "Action recorded; no executable vendor mapping for this action"
        | .refused error => record .failed error
        | .answered ok result =>
          .step (.send action) fun _ => record (if ok then .completed else .failed) result

inductive DeviceCall where
  | queueDeviceAction (draw : Draw) (assetId companyId : String) (action : Option String)
      (payload : String) (requestedById : Option String)
  | queueAction (draw : Draw) (user : CurrentUser) (assetId : String)
      (requestedCompany action port : Option String) (payload : String)
  | decideNetworkAction (user : CurrentUser) (id : String) (decision : Decision)
      (note : Option String)
  | executeDeviceAction (assetId actionId companyId : String) (run : VendorRun)
  | setPolicy (requireNetworkApproval : Bool)

def DeviceCall.handler : DeviceCall → DeviceProgram
  | .queueDeviceAction draw assetId companyId action payload requestedById =>
    Cmdb.queueDeviceAction key draw assetId companyId action payload requestedById
  | .queueAction draw user assetId requestedCompany action port payload =>
    Cmdb.queueAction key draw user assetId requestedCompany action port payload
  | .decideNetworkAction user id decision note =>
    Cmdb.decideNetworkAction key user id decision note
  | .executeDeviceAction assetId actionId companyId run =>
    Cmdb.executeDeviceAction key assetId actionId companyId run
  | .setPolicy requireNetworkApproval => .step (.setPolicy requireNetworkApproval) fun _ => .done

def deviceSystem : System Network DeviceOp DeviceCall where
  exec := execDevice key
  tick s := { s with now := s.now + 1 }
  handler := DeviceCall.handler key
  sendable _ _ := True

end Calls

end FieldserviceIT.Cmdb
