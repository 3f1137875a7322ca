import FieldserviceIT.Common.Authorization
import FieldserviceIT.Tickets.Service
import Mathlib.Algebra.GroupWithZero.Nat

/-!
The other ways to a ticket: the board and the access check of the tickets
controller, the global search, and the tools of the AI agent, which write their
own SQL. Each of them repeats the tenant scope in its own words.
-/

namespace FieldserviceIT.Tickets

open Common Database Sql

section Controller

variable (sv : Server) (db : Db)

/-- The access check behind comments, timeline, attachments and time entries;
the inner `none` is `Ticket not found`. -/
def assertTicketAccess (id : String) (user : CurrentUser) : Option (Option Row) :=
  (findFirst sv db (applyTenantScope user
    [.column "id" (.equals (.text id)), .column "deletedAt" .isNull]) {}).map fun found =>
      found.map fun ticket => withColumns ["id", "companyId", "createdById"] ticket.row

def boardWhere (user : CurrentUser) : Filter :=
  let where_ : Filter := [.column "deletedAt" .isNull]
  if user.isGlobalAdmin then where_
  else if user.isGlobalTech then applyGlobalTechTicketScope where_
  else assign (.column "companyId" (valueOrNull user.companyId)) where_

def boardStatuses : List String :=
  ["OPEN", "ASSIGNED", "IN_PROGRESS", "ON_HOLD", "RESOLVED", "CLOSED"]

structure BoardColumn where
  status : String
  tickets : List TicketRecord

def getBoard (user : CurrentUser) : Option (List BoardColumn) := do
  let tickets ← findMany sv db (boardWhere user) ("updatedAt", .desc) (.finite (0 : Nat))
    (.finite (200 : Nat)) { assignedTo := true }
  pure (boardStatuses.map fun status =>
    ⟨status, tickets.filter fun t => t.row "status" = some (.text status)⟩)

end Controller

section Search

variable (sv : Server) (db : Db) (now : Int)

/-- What the matching scopes admit, each kind of scope counted once. -/
def searchAlternatives (matching : List PermissionScope) (user : CurrentUser) : List Filter :=
  let has := fun kind => matching.any fun scope => decide (scope.scopeType = kind)
  let customers := (matching.filter fun scope => decide (scope.scopeType = .customers)).flatMap
    (·.scopeValues)
  let oneOf := fun column ids =>
    if List.isEmpty ids then [] else [[Entry.column column (anyOfTexts ids)]]
  (if has .assigned then [[.column "assignedToId" (.equals (.text user.id))]] else []) ++
    (if has .location && truthy user.location then
      [[.column "location" (valueOrNull user.location)]] else []) ++
    oneOf "companyId" customers ++
    (if has .relationship then
      oneOf "id" (relatedResources sv db now user "TICKET") ++
        oneOf "companyId" (relatedResources sv db now user "COMPANY")
    else [])

def searchTicketsWhere (user : CurrentUser) (query : String) (scopes : List PermissionScope) :
    Filter :=
  let where_ : Filter := [.column "deletedAt" .isNull,
    .or [[.column "title" (.contains query)], [.column "ticketNumber" (.contains query)],
      [.column "description" (.contains query)]]]
  let companyId := orElse user.effectiveCompanyId user.companyId
  let inTenant :=
    if user.isPublic then assign (.column "createdById" (.equals (.text user.id))) where_
    else if truthy companyId then assign (.column "companyId" (valueOrNull companyId)) where_
    else where_
  if restrictedBy "tickets." (some scopes) then
    let alternatives := searchAlternatives sv db now (matchingScopes "tickets." (some scopes)) user
    assign (.and [if alternatives.isEmpty then [.column "id" (.equals (.text "__scope_denied__"))]
      else [.or alternatives]]) inTenant
  else inTenant

def searchTickets (user : CurrentUser) (query : String) (scopes : List PermissionScope) :
    Option (List Row) :=
  (findMany sv db (searchTicketsWhere sv db now user query scopes) ("createdAt", .desc)
    (.finite (0 : Nat)) (.finite (25 : Nat)) {}).map fun tickets =>
      tickets.map fun t =>
        withColumns ["id", "ticketNumber", "title", "status", "priority", "category", "createdAt"]
          t.row

end Search

section Agent

variable (sv : Server) (db : Db)

def ticketScopeSql (user : CurrentUser) : Condition Unit × List Js :=
  if user.isGlobalAdmin then (.always, [])
  else if user.isPublic then (.compare .eq "createdById" (), [.text user.id])
  else if truthy user.companyId then
    (.compare .eq "companyId" (), [.text (user.companyId.getD "")])
  else (.never, [])

structure AgentIntent where
  status : Option String
  priority : Option String
  query : Option String

/-- `if (value) { clauses.push('column = ?'); values.push(value); }` -/
def agentEquals (column : String) (value : Option String) : List (Condition Unit) × List Js :=
  if truthy value then ([.compare .eq column ()], [.text (value.getD "")]) else ([], [])

/-- `text.length`, in UTF-16 units. -/
def utf16Length (text : String) : Nat :=
  (text.toList.map fun c => if c.val < 0x10000 then 1 else 2).sum

def agentContains (query : Option String) : List (Condition Unit) × List Js :=
  match query with
  | some text =>
    if 1 < utf16Length text then
      ([.anyOf [.like "title" (), .like "ticketNumber" (), .like "description" (),
          .like "contactEmail" ()]],
        List.replicate 4 (containsPattern (.text text)))
    else ([], [])
  | none => ([], [])

def agentSearchTickets (user : CurrentUser) (intent : AgentIntent) : Option (List Row) :=
  let scope := ticketScopeSql user
  let status := agentEquals "status" intent.status
  let priority := agentEquals "priority" intent.priority
  let query := agentContains intent.query
  (sv.select db "Ticket" (some ([.isNull "deletedAt", scope.1] ++ status.1 ++ priority.1 ++ query.1))
    (scope.2 ++ status.2 ++ priority.2 ++ query.2)).map fun rows =>
      ((orderedBy sv.comparison "createdAt" .desc rows).take 10).map
        (withColumns ["id", "ticketNumber", "title", "status", "priority", "category",
          "contactEmail", "createdAt"])

/-- The tickets the two counts of the backlog summary are taken over, and the
oldest open ones. -/
structure TicketBacklog where
  counted : List Row
  oldestOpen : List Row

def summarizeTicketBacklog (user : CurrentUser) : Option TicketBacklog := do
  let scope := ticketScopeSql user
  let counted ← sv.select db "Ticket" (some [.isNull "deletedAt", scope.1]) scope.2
  let oldest ← sv.select db "Ticket" (some [.isNull "deletedAt",
    .notIn "status" [.text "RESOLVED", .text "CLOSED"], scope.1]) scope.2
  pure ⟨counted, ((orderedBy sv.comparison "createdAt" .asc oldest).take 5).map
    (withColumns ["id", "ticketNumber", "title", "status", "priority", "createdAt"])⟩

end Agent
end FieldserviceIT.Tickets
