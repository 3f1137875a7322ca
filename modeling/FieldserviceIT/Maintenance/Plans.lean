import FieldserviceIT.Common.Companies
import FieldserviceIT.Lib.Calendar
import FieldserviceIT.Lib.Interleaving
import FieldserviceIT.Lib.Tables

/-!
Recurring maintenance: tickets are generated from a plan, and completing it sets the date on which
it is due next. The texts of plans, tickets and notes and the timeline of a ticket are left out, and
dates that clients send are dates. A statement that fails ends its program, which is then one that
is not advanced any further.
-/

namespace FieldserviceIT.Maintenance

open Common Lib

inductive Frequency where
  | weekly
  | monthly
  | quarterly
  | semiAnnual
  | annual
  | custom
  deriving DecidableEq

inductive PlanStatus where
  | active
  | paused
  | archived
  deriving DecidableEq

structure MaintenancePlan where
  id : String
  companyId : String
  frequency : Frequency
  intervalDays : Nat
  nextDueAt : Int
  lastCompletedAt : Option Int
  assetId : Option String
  assignedToId : Option String
  status : PlanStatus

inductive RunStatus where
  | due
  | scheduled
  | completed
  deriving DecidableEq

/-- The ids of runs and tickets count them. -/
structure MaintenanceRun where
  id : Nat
  companyId : String
  planId : String
  ticketId : Option Nat
  status : RunStatus
  dueAt : Int
  completedAt : Option Int
  completedById : Option String
  createdById : String

structure MaintenanceTicket where
  id : Nat
  companyId : String
  assetId : Option String
  assignedToId : Option String
  createdById : String

/-- The ticket of a plan for a date on which it was due. -/
structure Occurrence where
  planId : String
  dueAt : Int
  deriving DecidableEq

/-- No statement reads `occurrences`, of which there is one for each ticket that was generated, and
`dues`, the dates of each plan, the latest first. -/
structure MaintenanceStore where
  plans : List MaintenancePlan
  runs : List MaintenanceRun
  tickets : List MaintenanceTicket
  now : Int
  occurrences : List Occurrence
  dues : List (String × Int)

/-- The local time of the server. A time that its clocks leave out is read as one of the same day. -/
structure TimeZone where
  localTime : Int → Int
  utc : Int → Int
  day_utc : ∀ time, localTime (utc time) / 86400000 = time / 86400000

section Dates

variable (zone : TimeZone)

def dayOf (time : Int) : Int :=
  zone.localTime time / 86400000

/-- `setMonth(getMonth() + n)` -/
def setMonth (months : Int) (base : Int) : Int :=
  zone.utc (Calendar.addMonths months (dayOf zone base) * 86400000 +
    zone.localTime base % 86400000)

/-- `setDate(getDate() + n)` -/
def setDate (days : Int) (base : Int) : Int :=
  zone.utc (zone.localTime base + days * 86400000)

/-- `Math.max(1, intervalDays || 30)` -/
def interval (intervalDays : Nat) : Nat :=
  if intervalDays = 0 then 30 else intervalDays

def nextDueDate (base : Int) (frequency : Frequency) (intervalDays : Nat) : Int :=
  match frequency with
  | .weekly => setDate zone 7 base
  | .monthly => setMonth zone 1 base
  | .quarterly => setMonth zone 3 base
  | .semiAnnual => setMonth zone 6 base
  | .annual => setMonth zone 12 base
  | .custom => setDate zone (interval intervalDays) base

end Dates

inductive PlanOp where
  | read
  | createTicket (plan : MaintenancePlan) (dueAt : Int) (companyId userId : String)
  | assignTicket (ticketId : Nat) (companyId assignedToId : String)
  | insertRun (run : MaintenanceRun)
  | completeRun (runId : Nat) (companyId : String) (completedAt : Int) (userId : String)
  | updatePlan (plan : MaintenancePlan) (companyId : String) (completedAt : Int)
      (nextDueAt : Option Int)

abbrev PlanProgram := Prog MaintenanceStore PlanOp

section Statements

variable (zone : TimeZone)

def findPlan (id : String) (s : MaintenanceStore) : Option MaintenancePlan :=
  s.plans.find? fun plan => plan.id = id

def MaintenanceRun.done (completedAt : Int) (userId : String) (run : MaintenanceRun) :
    MaintenanceRun :=
  { run with
    status := .completed
    completedAt := some completedAt
    completedById := some userId }

def dueAfter (plan : MaintenancePlan) (completedAt : Int) (nextDueAt : Option Int) : Int :=
  nextDueAt.getD (nextDueDate zone completedAt plan.frequency plan.intervalDays)

def MaintenancePlan.moved (completedAt nextDueAt : Int) (plan : MaintenancePlan) : MaintenancePlan :=
  { plan with
    lastCompletedAt := some completedAt
    nextDueAt := nextDueAt }

def hasPlan (id companyId : String) (s : MaintenanceStore) : Bool :=
  s.plans.any fun plan => plan.id = id && plan.companyId = companyId

def execPlan (op : PlanOp) (s : MaintenanceStore) : MaintenanceStore :=
  match op with
  | .read => s
  | .createTicket plan dueAt companyId userId =>
    { s with
      tickets := s.tickets ++ [⟨s.tickets.length, companyId, plan.assetId, none, userId⟩]
      occurrences := ⟨plan.id, dueAt⟩ :: s.occurrences }
  | .assignTicket ticketId companyId assignedToId =>
    { s with
      tickets := updateWhere (fun ticket => ticket.id = ticketId && ticket.companyId = companyId)
        (fun ticket => { ticket with assignedToId := some assignedToId }) s.tickets }
  | .insertRun run =>
    { s with
      runs := s.runs ++ [{ run with id := s.runs.length }] }
  | .completeRun runId companyId completedAt userId =>
    { s with
      runs := updateWhere (fun run => run.id = runId && run.companyId = companyId)
        (MaintenanceRun.done completedAt userId) s.runs }
  | .updatePlan plan companyId completedAt nextDueAt =>
    { s with
      plans := updateWhere (fun row => row.id = plan.id && row.companyId = companyId)
        (MaintenancePlan.moved completedAt (dueAfter zone plan completedAt nextDueAt)) s.plans
      dues :=
        if hasPlan plan.id companyId s then
          (plan.id, dueAfter zone plan completedAt nextDueAt) :: s.dues
        else s.dues }

end Statements

section Programs

structure GenerateDto where
  dueAt : Option Int

structure CompleteDto where
  completedAt : Option Int
  nextDueAt : Option Int
  runId : Option Nat
  ticketId : Option Nat

/-- The plan, if it is one of the company the user works in, and that company. -/
def getPlan (user : CurrentUser) (id : String) (s : MaintenanceStore) :
    Option (MaintenancePlan × String) :=
  match companyScope user with
  | none => none
  | some scope =>
    match (findPlan id s).filter fun plan => inScope scope plan.companyId with
    | none => none
    | some plan => (writeCompany user (some plan.companyId)).map fun companyId => (plan, companyId)

def scheduleRun (user : CurrentUser) (plan : MaintenancePlan) (companyId : String) (dueAt : Int)
    (ticketId : Nat) : PlanProgram :=
  .step (.insertRun ⟨0, companyId, plan.id, some ticketId, .scheduled, dueAt, none, none, user.id⟩)
    fun _ => .done

def generateTicket (user : CurrentUser) (id : String) (dto : GenerateDto) : PlanProgram :=
  .step .read fun s =>
    match getPlan user id s with
    | none => .fail
    | some (plan, companyId) =>
      if plan.status ≠ .active then .fail
      else
        .step (.createTicket plan (dto.dueAt.getD plan.nextDueAt) companyId user.id) fun s =>
          if truthy plan.assignedToId then
            .step (.assignTicket s.tickets.length companyId (plan.assignedToId.getD "")) fun _ =>
              scheduleRun user plan companyId (dto.dueAt.getD plan.nextDueAt) s.tickets.length
          else
            scheduleRun user plan companyId (dto.dueAt.getD plan.nextDueAt) s.tickets.length

/-- `status IN ('DUE', 'SCHEDULED') ORDER BY dueAt ASC LIMIT 1` -/
def pendingRun (companyId planId : String) (s : MaintenanceStore) : Option MaintenanceRun :=
  let pending := s.runs.filter fun run =>
    run.companyId = companyId && run.planId = planId && run.status ≠ .completed
  pending.find? fun run => pending.all fun other => run.dueAt ≤ other.dueAt

def hasRun (runId : Nat) (planId companyId : String) (s : MaintenanceStore) : Bool :=
  s.runs.any fun run => run.id = runId && run.planId = planId && run.companyId = companyId

def movePlan (plan : MaintenancePlan) (companyId : String) (completedAt : Int)
    (nextDueAt : Option Int) : PlanProgram :=
  .step (.updatePlan plan companyId completedAt nextDueAt) fun _ => .done

def completePlan (user : CurrentUser) (id : String) (dto : CompleteDto) : PlanProgram :=
  .step .read fun s =>
    match getPlan user id s with
    | none => .fail
    | some (plan, companyId) =>
      let completedAt := dto.completedAt.getD s.now
      .step .read fun s =>
        match dto.runId with
        | some runId =>
          if hasRun runId plan.id companyId s then
            .step (.completeRun runId companyId completedAt user.id) fun _ =>
              movePlan plan companyId completedAt dto.nextDueAt
          else .fail
        | none =>
          match pendingRun companyId plan.id s with
          | some run =>
            .step (.completeRun run.id companyId completedAt user.id) fun _ =>
              movePlan plan companyId completedAt dto.nextDueAt
          | none =>
            .step (.insertRun ⟨0, companyId, plan.id, dto.ticketId, .completed, plan.nextDueAt,
              some completedAt, some user.id, user.id⟩) fun _ =>
              movePlan plan companyId completedAt dto.nextDueAt

inductive PlanRequest where
  | generateTicket (user : CurrentUser) (id : String) (dto : GenerateDto)
  | completePlan (user : CurrentUser) (id : String) (dto : CompleteDto)

def PlanRequest.handler : PlanRequest → PlanProgram
  | .generateTicket user id dto => Maintenance.generateTicket user id dto
  | .completePlan user id dto => Maintenance.completePlan user id dto

def maintenanceSystem (zone : TimeZone) : System MaintenanceStore PlanOp PlanRequest where
  exec := execPlan zone
  tick s :=
    { s with
      now := s.now + 1 }
  handler := PlanRequest.handler
  sendable _ _ := True

end Programs
end FieldserviceIT.Maintenance
