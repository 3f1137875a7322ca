import FieldserviceIT.Admin.Accounts
import FieldserviceIT.Lib.Interleaving

/-!
Sensitive actions that need two approvers: the requests for them, their reviews
and the four operations that go ahead on an approved one. Every operation is a
program over the statements it runs. The last three fields of the store are no
tables. They say what has happened, and no statement reads them.
-/

namespace FieldserviceIT.Admin

open Common Lib

inductive ApprovalStatus where
  | pending
  | firstApproved
  | approved
  | rejected
  | expired
  | executed
  deriving DecidableEq

def sensitiveActions : List String :=
  ["TENANT_DELETE", "AUDIT_EXPORT", "BILLING_OWNER_CHANGE", "BREAK_GLASS_ACTIVATE",
    "IMPERSONATE_USER"]

structure DualApprovalRequest where
  id : String
  companyId : Option String
  actionType : String
  resourceId : Option String
  reason : String
  status : ApprovalStatus
  requestedById : String
  firstApprovedById : Option String
  secondApprovedById : Option String
  rejectedById : Option String
  executedAt : Option Int
  expiresAt : Option Int
  deriving DecidableEq

structure Company where
  id : String
  isActive : Bool
  isDeleted : Bool
  deriving DecidableEq

structure Campaign where
  id : String
  companyId : Option String
  deriving DecidableEq

structure ImpersonationSession where
  id : String
  companyId : Option String
  actorId : String
  targetUserId : String
  reason : String
  approvedRequestId : Option String
  expiresAt : Int
  endedAt : Option Int
  deriving DecidableEq

/-- A protected action that went ahead. -/
structure Performed where
  approvalId : String
  time : Int
  deriving DecidableEq

structure Governance where
  now : Int
  drawn : Nat
  approvals : List DualApprovalRequest
  accounts : List Account
  companies : List Company
  campaigns : List Campaign
  sessions : List ImpersonationSession
  /-- Approvals given: of which request, by whom. -/
  given : List (String × String)
  /-- Requests that were presented and found to authorise an action. -/
  presented : List String
  performed : List Performed

def scopedApproval (rows : List DualApprovalRequest) (id : String) (actor : CurrentUser) :
    Option DualApprovalRequest :=
  getScopedRow (·.id) (·.companyId) rows id actor

/-- `new Date(request.expiresAt).getTime() <= Date.now()`; a missing time is the epoch. -/
def hasExpired (now : Int) (request : DualApprovalRequest) : Bool :=
  request.expiresAt.getD 0 ≤ now

def requireApprovedAction (rows : List DualApprovalRequest) (id actionType resourceId : String)
    (actor : CurrentUser) : Option DualApprovalRequest :=
  if id = "" then none
  else
    (scopedApproval rows id actor).filter fun request =>
      request.status = .approved && request.actionType = actionType &&
        request.resourceId.getD "" = resourceId

inductive ProtectedAction where
  | impersonate (actorId : String) (target : Account) (reason : String) (minutes : Int)
  | activateBreakGlass (userId reason : String)
  | exportReview (reviewId : String)
  | deleteTenantUsers (companyId : String)

/-- The statements. An `UPDATE` of an approval names the row by identifier; what
the request has read of it is carried along, and no statement looks at it. -/
inductive GovernanceOp where
  | read
  | insertApproval (row : DualApprovalRequest)
  | present (id actionType resourceId : String) (actor : CurrentUser)
  | reject (actorId : String) (seen : DualApprovalRequest)
  | approveFirst (actorId : String) (seen : DualApprovalRequest)
  | approveSecond (actorId : String) (seen : DualApprovalRequest)
  | execute (seen : DualApprovalRequest)
  | perform (action : ProtectedAction) (approval : DualApprovalRequest)
  | deactivateBreakGlass (userId : String)
  | deleteCompany (id : String)

section Statements

variable (uuid : Nat → String)

def updateApproval (id : String) (change : DualApprovalRequest → DualApprovalRequest)
    (s : Governance) : Governance :=
  { s with approvals := s.approvals.map fun row => if row.id = id then change row else row }

def updateAccounts (named : Account → Bool) (change : Account → Account) (s : Governance) :
    Governance :=
  { s with accounts := s.accounts.map fun user => if named user then change user else user }

def ProtectedAction.effect (approvalId : String) (action : ProtectedAction) (s : Governance) :
    Governance :=
  match action with
  | impersonate actorId target reason minutes =>
    { s with
      drawn := s.drawn + 1
      sessions := s.sessions ++
        [{ id := uuid s.drawn
           companyId := target.companyId
           actorId := actorId
           targetUserId := target.id
           reason := reason
           approvedRequestId := some approvalId
           expiresAt := s.now + minutes * 60 * 1000
           endedAt := none }] }
  | activateBreakGlass userId reason =>
    updateAccounts (fun user => user.id = userId)
      (fun user => { user with
        isBreakGlass := true
        breakGlassReason := some (String.ofList (reason.toList.take 2000))
        authVersion := user.authVersion + 1 }) s
  | exportReview _ => s
  | deleteTenantUsers companyId =>
    updateAccounts (fun user => user.companyId = some companyId)
      (fun user => { user with isDeleted := true, isActive := false }) s

def execGovernance (op : GovernanceOp) (s : Governance) : Governance :=
  match op with
  | .read => s
  | .insertApproval row =>
    -- the primary key refuses an identifier that is taken
    if s.approvals.any fun other => other.id = uuid s.drawn then { s with drawn := s.drawn + 1 }
    else
      { s with
        drawn := s.drawn + 1
        approvals := s.approvals ++ [{ row with id := uuid s.drawn }] }
  | .present id actionType resourceId actor =>
    if (requireApprovedAction s.approvals id actionType resourceId actor).isSome then
      { s with presented := id :: s.presented }
    else s
  | .reject actorId seen =>
    updateApproval seen.id
      (fun row => { row with status := .rejected, rejectedById := some actorId }) s
  | .approveFirst actorId seen =>
    let s' := updateApproval seen.id
      (fun row => { row with status := .firstApproved, firstApprovedById := some actorId }) s
    { s' with given := (seen.id, actorId) :: s.given }
  | .approveSecond actorId seen =>
    let s' := updateApproval seen.id
      (fun row => { row with status := .approved, secondApprovedById := some actorId }) s
    { s' with given := (seen.id, actorId) :: s.given }
  | .execute seen =>
    updateApproval seen.id
      (fun row => { row with status := .executed, executedAt := some s.now }) s
  | .perform action approval =>
    let s' := action.effect uuid approval.id s
    { s' with performed := ⟨approval.id, s.now⟩ :: s.performed }
  | .deactivateBreakGlass userId =>
    updateAccounts (fun user => user.id = userId)
      (fun user => { user with
        isBreakGlass := false, breakGlassReason := none, authVersion := user.authVersion + 1 }) s
  | .deleteCompany id =>
    { s with companies := s.companies.map fun company =>
        if company.id = id then { company with isDeleted := true, isActive := false }
        else company }

end Statements

abbrev GovernanceProgram := Prog Governance GovernanceOp

section Requests

structure ApprovalDto where
  actionType : Option String
  resourceId : Option String
  reason : Option String

def requestDualApproval (dto : ApprovalDto) (actor : CurrentUser) : GovernanceProgram :=
  if !sensitiveActions.contains (upperCased dto.actionType) then .fail
  else if isBlank dto.reason then .fail
  else
    .step .read fun s =>
      .step
        (.insertApproval
          { id := ""
            companyId := actor.companyId
            actionType := upperCased dto.actionType
            resourceId := if truthy dto.resourceId then dto.resourceId else none
            reason := dto.reason.getD ""
            status := .pending
            requestedById := actor.id
            firstApprovedById := none
            secondApprovedById := none
            rejectedById := none
            executedAt := none
            expiresAt := some (s.now + 24 * 60 * 60 * 1000) })
        fun _ => .done

def reviewDualApproval (id decision : String) (actor : CurrentUser) : GovernanceProgram :=
  .step .read fun s =>
    match scopedApproval s.approvals id actor with
    | none => .fail
    | some request =>
      if request.status ≠ .pending && request.status ≠ .firstApproved then .fail
      else
        .step .read fun s' =>
          if hasExpired s'.now request then .fail
          else if request.requestedById = actor.id then .fail
          else if decision = "REJECTED" then .step (.reject actor.id request) fun _ => .done
          else if !truthy request.firstApprovedById then
            .step (.approveFirst actor.id request) fun _ => .done
          else if request.firstApprovedById = some actor.id then .fail
          else .step (.approveSecond actor.id request) fun _ => .done

/-- `assertApprovedAction`, and what goes on when the request authorises it. -/
def assertApprovedAction (id actionType resourceId : String) (actor : CurrentUser)
    (go : DualApprovalRequest → GovernanceProgram) : GovernanceProgram :=
  .step (.present id actionType resourceId actor) fun s =>
    match requireApprovedAction s.approvals id actionType resourceId actor with
    | none => .fail
    | some approval => go approval

/-- `Math.min(30, Math.max(5, Number(dto.minutes || 15)))` -/
def impersonationMinutes (minutes : Option Int) : Int :=
  min 30 (max 5 (if minutes.getD 0 = 0 then 15 else minutes.getD 0))

def startImpersonation (targetUserId approvalRequestId : String) (reason : Option String)
    (minutes : Option Int) (actor : CurrentUser) : GovernanceProgram :=
  .step .read fun s =>
    match assertUserScope s.accounts targetUserId actor with
    | none => .fail
    | some target =>
      if target.id = actor.id then .fail
      else
        assertApprovedAction approvalRequestId "IMPERSONATE_USER" target.id actor fun approval =>
          .step
            (.perform
              (.impersonate actor.id target ((orElse reason (some approval.reason)).getD "")
                (impersonationMinutes minutes)) approval)
            fun _ => .step (.execute approval) fun _ => .done

/-- Turning a break-glass account on needs an approval, turning it off another
such account. -/
def setBreakGlassAccount (userId : String) (enabled : Bool) (reason approvalRequestId : String)
    (actor : CurrentUser) : GovernanceProgram :=
  if actor.role ≠ .superAdmin then .fail
  else if enabled then
    assertApprovedAction approvalRequestId "BREAK_GLASS_ACTIVATE" userId actor fun approval =>
      .step .read fun s =>
        match assertUserScope s.accounts userId actor with
        | none => .fail
        | some user =>
          if user.role ≠ .superAdmin then .fail
          else if !user.mfaEnabled then .fail
          else .step (.perform (.activateBreakGlass userId reason) approval) fun _ => .done
  else
    .step .read fun s =>
      match assertUserScope s.accounts userId actor with
      | none => .fail
      | some user =>
        if user.role ≠ .superAdmin then .fail
        else if user.isBreakGlass then
          -- `assertNotLastBreakGlassAccount`
          .step .read fun s' =>
            if s'.accounts.any fun other => other.role = .superAdmin && other.isBreakGlass &&
                other.isActive && !other.isDeleted && other.id ≠ userId then
              .step (.deactivateBreakGlass userId) fun _ => .done
            else .fail
        else .step (.deactivateBreakGlass userId) fun _ => .done

def exportAccessReview (reviewId approvalRequestId : String) (actor : CurrentUser) :
    GovernanceProgram :=
  assertApprovedAction approvalRequestId "AUDIT_EXPORT" reviewId actor fun approval =>
    .step .read fun s =>
      match getScopedRow (·.id) (·.companyId) s.campaigns reviewId actor with
      | none => .fail
      | some _ => .step (.perform (.exportReview reviewId) approval) fun _ => .done

def removeCompany (id approvalRequestId : String) (actor : CurrentUser) : GovernanceProgram :=
  assertApprovedAction approvalRequestId "TENANT_DELETE" id actor fun approval =>
    .step .read fun s =>
      if s.companies.any fun company => company.id = id then
        .step (.perform (.deleteTenantUsers id) approval) fun _ =>
          .step (.deleteCompany id) fun _ => .done
      else .fail

inductive GovernanceRequest where
  | requestDualApproval (dto : ApprovalDto) (actor : CurrentUser)
  | reviewDualApproval (id decision : String) (actor : CurrentUser)
  | startImpersonation (targetUserId approvalRequestId : String) (reason : Option String)
      (minutes : Option Int) (actor : CurrentUser)
  | setBreakGlassAccount (userId : String) (enabled : Bool) (reason approvalRequestId : String)
      (actor : CurrentUser)
  | exportAccessReview (reviewId approvalRequestId : String) (actor : CurrentUser)
  | removeCompany (id approvalRequestId : String) (actor : CurrentUser)

def GovernanceRequest.handler : GovernanceRequest → GovernanceProgram
  | requestDualApproval dto actor => Admin.requestDualApproval dto actor
  | reviewDualApproval id decision actor => Admin.reviewDualApproval id decision actor
  | startImpersonation targetUserId approvalRequestId reason minutes actor =>
    Admin.startImpersonation targetUserId approvalRequestId reason minutes actor
  | setBreakGlassAccount userId enabled reason approvalRequestId actor =>
    Admin.setBreakGlassAccount userId enabled reason approvalRequestId actor
  | exportAccessReview reviewId approvalRequestId actor =>
    Admin.exportAccessReview reviewId approvalRequestId actor
  | removeCompany id approvalRequestId actor => Admin.removeCompany id approvalRequestId actor

def governanceSystem (uuid : Nat → String) :
    System Governance GovernanceOp GovernanceRequest where
  exec := execGovernance uuid
  tick s := { s with now := s.now + 1 }
  handler := GovernanceRequest.handler
  sendable _ _ := True

end Requests
end FieldserviceIT.Admin
