import FieldserviceIT.Common.Users
import FieldserviceIT.Database.TicketQueries

/-!
The reading side of the tickets service. Every reader starts from the same
filter object, writes the caller's scope into it and then, key by key, whatever
the query asks for; a key that is written twice keeps the later value.
-/

namespace FieldserviceIT.Tickets

open Common Database Sql

/-- `where[key] = value` -/
def assign (entry : Entry) : Filter → Filter
  | [] => [entry]
  | e :: f => if e.key = entry.key then entry :: f else e :: assign entry f

/-- `where[column] = value` for a value that may be `null`. -/
def valueOrNull : Option String → ColumnTest
  | some v => .equals (.text v)
  | none => .isNull

def anyOfTexts (values : List String) : ColumnTest :=
  .isIn (values.map .text)

def applyGlobalTechTicketScope (where_ : Filter) : Filter :=
  assign (.or [[.column "companyId" .isNull],
    [.createdBy [.column "userType" (.equals (.text "PUBLIC"))]]]) where_

/-- The tenant branch at the head of `findAll`, `findOne` and
`assertTicketAccess`. -/
def applyTenantScope (user : CurrentUser) (where_ : Filter) : Filter :=
  if user.isGlobalAdmin then where_
  else if user.isGlobalTech then applyGlobalTechTicketScope where_
  else if user.isPublic then assign (.column "createdById" (.equals (.text user.id))) where_
  else assign (.column "companyId" (valueOrNull user.companyId)) where_

section Scopes

variable (sv : Server) (db : Db) (now : Int)

/-- The resources of one type the user has an unexpired relationship to. -/
def relatedResources (user : CurrentUser) (resourceType : String) : List String :=
  (db "AuthorizationRelationship").filterMap fun r =>
    let matchesText := fun column text => joined sv.comparison (r column) (some (.text text))
    let current := (r "expiresAt").all fun t => !sv.comparison.atMost t (.instant now)
    if matchesText "subjectType" "USER" && matchesText "subjectId" user.id &&
        (["viewer", "editor", "owner", "technician"].any (matchesText "relationName")) &&
        current && r "resourceType" = some (.text resourceType) then
      match r "resourceId" with
      | some (.text id) => some id
      | _ => none
    else none

def scopeAlternatives (user : CurrentUser) (scope : PermissionScope) : List Filter :=
  match scope.scopeType with
  | .assigned => [[.column "assignedToId" (.equals (.text user.id))]]
  | .location =>
    match user.location with
    | some place => if place = "" then [] else [[.column "location" (.equals (.text place))]]
    | none => []
  | .customers =>
    if scope.scopeValues.isEmpty then []
    else [[.column "companyId" (anyOfTexts scope.scopeValues)]]
  | .relationship =>
    let ticketIds := relatedResources sv db now user "TICKET"
    let companyIds := relatedResources sv db now user "COMPANY"
    (if ticketIds.isEmpty then [] else [[.column "id" (anyOfTexts ticketIds)]]) ++
      (if companyIds.isEmpty then [] else [[.column "companyId" (anyOfTexts companyIds)]])
  | .all | .department => []

/-- `where.AND || []` -/
def partsOf : Filter → List Filter
  | [] => []
  | .and parts :: _ => parts
  | _ :: f => partsOf f

def applyTicketScopes (where_ : Filter) (scopes : Option (List PermissionScope))
    (user : CurrentUser) : Filter :=
  if restrictedBy "tickets." scopes then
    let alternatives := (matchingScopes "tickets." scopes).flatMap
      (scopeAlternatives sv db now user)
    let restriction : Filter := if alternatives.isEmpty then
        [.column "id" (.equals (.text "__scope_denied__"))]
      else [.or alternatives]
    assign (.and (partsOf where_ ++ [restriction])) where_
  else where_

end Scopes

/-- The query string of the ticket list. The service reads neither the priority
nor the assignee. -/
structure ListQuery where
  page : QueryNumber
  limit : QueryNumber
  status : Option String
  search : Option String
  priority : Option String
  assignedToId : Option String

def searchFilter (search : String) : Entry :=
  .or [[.column "title" (.contains search)], [.column "ticketNumber" (.contains search)]]

section Reading

variable (sv : Server) (db : Db) (now : Int)

def scopedWhere (where_ : Filter) (user : CurrentUser) : Filter :=
  applyTicketScopes sv db now (applyTenantScope user where_) user.permissionScopes user

/-- `if (query.status) where.status = query.status` -/
def withStatus (status : Option String) (where_ : Filter) : Filter :=
  if truthy status then assign (.column "status" (valueOrNull status)) where_ else where_

/-- `if (query.search) where.OR = […]` -/
def withSearch (search : Option String) (where_ : Filter) : Filter :=
  match search with
  | some text => if text = "" then where_ else assign (searchFilter text) where_
  | none => where_

def findAllWhere (user : CurrentUser) (query : ListQuery) : Filter :=
  withSearch query.search
    (withStatus query.status (scopedWhere sv db now [.column "deletedAt" .isNull] user))

end Reading

def canViewInternalTimeline (user : CurrentUser) : Bool :=
  [Role.superAdmin, .globalTech, .tenantAdmin, .technician].contains user.role ||
    user.hasSlug "tickets.sensitive.view"

def masks (user : CurrentUser) : Bool :=
  !(user.role = .superAdmin || user.isPublic || user.hasSlug "tickets.sensitive.view")

/-- `String(value)` for the column values the mask is applied to. -/
def textOf : Scalar → String
  | .text s => s
  | .number n => toString n
  | .instant ms => toString ms
  | .flag b => toString b

def isTruthy : Scalar → Bool
  | .text s => s ≠ ""
  | .number n => n ≠ 0
  | .instant _ => true
  | .flag b => b

/-- `value.slice(0, 1)`; a character outside the basic plane counts as one. -/
def firstLetter (s : String) : String :=
  String.ofList (s.toList.take 1)

def maskEmail (email : String) : String :=
  match email.toList.splitOn '@' with
  | address :: domain :: _ =>
    if domain.isEmpty then "***"
    else String.ofList (address.take 1) ++ "***@" ++ String.ofList domain
  | _ => "***"

def maskPhone (phone : String) : String :=
  let digits := phone.toList.filter Char.isDigit
  if 4 ≤ digits.length then
    "***-***-" ++ String.ofList (digits.drop (digits.length - 4))
  else "***"

def maskName (name : String) : String :=
  firstLetter name ++ "***"

/-- `if (copy[column]) copy[column] = mask(copy[column])` -/
def maskColumn (mask : String → String) (value : Option Scalar) : Option Scalar :=
  value.map fun v => if isTruthy v then .text (mask (textOf v)) else v

def maskRow (row : Row) : Row := fun column =>
  if column = "contactEmail" then maskColumn maskEmail (row column)
  else if column = "contactPhone" then maskColumn maskPhone (row column)
  else if column = "contactName" then maskColumn maskName (row column)
  else row column

def maskSensitiveTicket (ticket : TicketRecord) (user : CurrentUser) : TicketRecord :=
  if masks user then
    { ticket with
      row := maskRow ticket.row
      timeline := ticket.timeline.map fun entries =>
        if canViewInternalTimeline user then entries
        else entries.filter fun entry => !((entry.1 "isInternal").any isTruthy) }
  else ticket

/-- What the list answers: the page of tickets and its position. -/
structure TicketPage where
  data : List TicketRecord
  page : QueryNumber
  limit : QueryNumber
  total : Nat

section Service

variable (sv : Server) (db : Db) (now : Int)

def findAll (user : CurrentUser) (query : ListQuery) : Option TicketPage := do
  let page := query.page.orDefault 1
  let limit := query.limit.orDefault 25
  let where_ := findAllWhere sv db now user query
  let data ← findMany sv db where_ ("createdAt", .desc) (page.offset limit) limit
    { createdBy := true, assignedTo := true, resolvedBy := true, asset := true }
  let total ← count sv db where_
  pure ⟨data.map (maskSensitiveTicket · user), page, limit, total⟩

def findOneWhere (id : String) (user : CurrentUser) : Filter :=
  scopedWhere sv db now [.column "id" (.equals (.text id)), .column "deletedAt" .isNull] user

/-- A ticket with the progress of its service level, as the detail view shows it. -/
structure TicketDetail where
  ticket : TicketRecord
  slaProgress : Option Int
  slaStatus : Option String

/-- `Math.min(100, Math.round((elapsed / resolution) * 100))`; `none` where the
quotient is no finite number and not above a hundred. -/
def slaPercentage (elapsedMs resolutionMs : Int) : Option Int :=
  if resolutionMs = 0 then if 0 < elapsedMs then some 100 else none
  else some (min 100 ((elapsedMs : Rat) / resolutionMs * 100 + 1 / 2).floor)

def slaStatusOf (percentage : Option Int) : String :=
  match percentage with
  | some pct =>
    if 100 ≤ pct then "breached" else if 75 ≤ pct then "at_risk" else "within_sla"
  | none => "within_sla"

def numberOf : Option Scalar → Int
  | some (.number n) => n
  | some (.instant ms) => ms
  | _ => 0

def withSla (ticket : TicketRecord) : TicketDetail :=
  match ticket.sla.join with
  | none => ⟨ticket, none, none⟩
  | some sla =>
    let percentage := slaPercentage (now - numberOf (ticket.row "createdAt"))
      (numberOf (sla "resolutionTimeMin") * 60 * 1000)
    ⟨ticket, percentage, some (slaStatusOf percentage)⟩

/-- `findOne`: the inner `none` is `Ticket not found`. -/
def findOne (id : String) (user : CurrentUser) (maskSensitive : Bool) :
    Option (Option TicketDetail) :=
  (findFirst sv db (findOneWhere sv db now id user)
    { createdBy := true, assignedTo := true, resolvedBy := true, asset := true, sla := true,
      timeline := some 50, attachments := true, dispatches := true }).map fun found =>
    found.map fun ticket =>
      let detail := withSla now ticket
      if maskSensitive then { detail with ticket := maskSensitiveTicket detail.ticket user }
      else detail

end Service

/-- What the ticket table guarantees: identifiers, numbers, titles and creators
are there, and no two tickets share an identifier. -/
structure StoredTickets (comparison : Comparison) (db : Db) : Prop where
  present : ∀ row ∈ db "Ticket", ∀ column ∈ ["id", "ticketNumber", "title", "createdById"],
    ∃ s, row column = some (.text s)
  unique : (db "Ticket").Pairwise fun r s => joined comparison (r "id") (s "id") = false

end FieldserviceIT.Tickets
