import FieldserviceIT.Lib.Interleaving
import FieldserviceIT.Tickets.Masking
import Mathlib.Data.Nat.Digits.Defs

/-!
The operations that write tickets: create, update, assign and resolve, as
programs over the statements they run. Each of the last three reads the ticket
first, checks what it read, and writes by the identifier alone. What follows the
write (timeline entries, mails, notifications) leaves the ticket as it is and is
not part of the programs.
-/

namespace FieldserviceIT.Tickets

open Common Database Lib Sql

/-- A property of a request body. -/
inductive Provided where
  | undefined
  | null
  | value (v : Scalar)
  deriving DecidableEq

namespace Provided

def text (s : String) : Provided := .value (.text s)

def truthy : Provided → Bool
  | value v => isTruthy v
  | _ => false

def isDefined : Provided → Bool
  | undefined => false
  | _ => true

def toColumn : Provided → Option Scalar
  | value v => some v
  | _ => none

/-- `value || fallback` -/
def orText (fallback : String) : Provided → Option Scalar
  | value v => if isTruthy v then some v else some (.text fallback)
  | _ => some (.text fallback)

end Provided

/-- The `SET` part of an `UPDATE`, or the columns of an `INSERT`. -/
abbrev Assignments := List (String × Option Scalar)

namespace Assignments

/-- `data[column] = value` -/
def put (column : String) (value : Option Scalar) (data : Assignments) : Assignments :=
  (column, value) :: data.filter (·.1 ≠ column)

def assigned (data : Assignments) (column : String) : Option (Option Scalar) :=
  (data.find? fun entry => entry.1 = column).map (·.2)

def setColumns (data : Assignments) (row : Row) : Row := fun column =>
  (data.assigned column).getD (row column)

/-- The defined properties of a body, under the columns they are written to. -/
def ofProvided (fields : List (String × Provided)) : Assignments :=
  (fields.filter (·.2.isDefined)).map fun field => (field.1, field.2.toColumn)

end Assignments

def validTransitions : String → List String
  | "OPEN" => ["ASSIGNED", "IN_PROGRESS", "RESOLVED"]
  | "ASSIGNED" => ["IN_PROGRESS", "RESOLVED", "OPEN", "ON_HOLD"]
  | "IN_PROGRESS" => ["RESOLVED", "ASSIGNED", "OPEN", "ON_HOLD"]
  | "ON_HOLD" => ["ASSIGNED", "IN_PROGRESS", "RESOLVED", "OPEN"]
  | "RESOLVED" => ["CLOSED", "OPEN"]
  | "CLOSED" => ["OPEN"]
  | _ => []

def allowsTransition (before after : Option Scalar) : Bool :=
  match before, after with
  | some (.text a), some (.text b) => (validTransitions a).contains b
  | _, _ => false

/-- `validateTransition` -/
def validateTransition (before after : Option Scalar) : Bool :=
  before = after || allowsTransition before after

structure CreateTicketDto where
  title : Provided
  description : Provided
  contactName : Provided
  contactEmail : Provided
  contactPhone : Provided
  category : Provided
  subcategory : Provided
  location : Provided
  latitude : Provided
  longitude : Provided
  priority : Provided
  type : Provided
  assetId : Provided
  slaId : Provided

structure UpdateTicketDto where
  status : Provided
  priority : Provided
  title : Provided
  description : Provided
  category : Provided
  subcategory : Provided
  location : Provided
  assignedToId : Provided
  onHoldReason : Provided
  resolution : Provided
  contactName : Provided
  contactEmail : Provided
  contactPhone : Provided

/-- Random values, by number. -/
structure Draws where
  uuid : Nat → String
  trackingToken : Nat → String

structure Desk where
  db : Db
  now : Int
  drawn : Nat

/-- The statements on tickets. A write carries the ticket as the request read it;
no statement looks at that. -/
inductive TicketOp where
  | read
  | insert (data : Assignments)
  | write (id : String) (data : Assignments) (seen : Row)

section Statements

variable (sv : Server) (draws : Draws)

/-- `id = ?` -/
def named (id : String) (row : Row) : Bool :=
  joined sv.comparison (row "id") (some (.text id))

def setTickets (s : Desk) (rows : List Row) : Desk :=
  { s with db := fun table => if table = "Ticket" then rows else s.db table }

def columnDefaults : Assignments :=
  [("status", some (.text "OPEN")), ("priority", some (.text "MEDIUM")),
    ("type", some (.text "INCIDENT"))]

def newTicket (data : Assignments) (s : Desk) : Row :=
  Assignments.setColumns
    (data ++ [("id", some (.text (draws.uuid s.drawn))), ("createdAt", some (.instant s.now)),
      ("updatedAt", some (.instant s.now)),
      ("trackingToken", some (.text (draws.trackingToken s.drawn)))] ++ columnDefaults)
    fun _ => none

def execTicket (op : TicketOp) (s : Desk) : Desk :=
  match op with
  | .read => s
  | .insert data =>
    -- the primary key refuses an identifier that is taken
    if (s.db "Ticket").any (named sv (draws.uuid s.drawn)) then { s with drawn := s.drawn + 1 }
    else
      { setTickets s (s.db "Ticket" ++ [newTicket draws data s]) with drawn := s.drawn + 1 }
  | .write id data _ =>
    if data.isEmpty then s
    else
      setTickets s ((s.db "Ticket").map fun row =>
        if named sv id row then data.setColumns row else row)

end Statements

abbrev TicketProgram := Prog Desk TicketOp

section Create

/-- `Date.now().toString(36).toUpperCase()` -/
def base36 (n : Nat) : String :=
  String.ofList ((Nat.digits 36 n).reverse.map fun d =>
    if d < 10 then Char.ofNat (48 + d) else Char.ofNat (55 + d))

variable (sv : Server)

/-- `nextTicketNumber`: the first free number from the count on, for as many
attempts as are left. -/
def nextTicketNumber (stem : String) (k : String → TicketProgram) : Nat → Nat → TicketProgram
  | 0, _ => .step .read fun s => k (stem ++ "-" ++ base36 s.now.toNat)
  | attempts + 1, next =>
    let ticketNumber := stem ++ "-" ++ padded 5 next
    .step .read fun s =>
      if (s.db "Ticket").any fun row =>
          joined sv.comparison (row "ticketNumber") (some (.text ticketNumber)) then
        nextTicketNumber stem k attempts (next + 1)
      else k ticketNumber

def createData (dto : CreateTicketDto) (ticketNumber userId : String) (companyId : Option String) :
    Assignments :=
  Assignments.ofProvided
    [("title", dto.title), ("description", dto.description), ("contactName", dto.contactName),
      ("contactEmail", dto.contactEmail), ("contactPhone", dto.contactPhone),
      ("category", dto.category), ("subcategory", dto.subcategory), ("location", dto.location),
      ("latitude", dto.latitude), ("longitude", dto.longitude), ("priority", dto.priority),
      ("type", dto.type), ("assetId", dto.assetId), ("slaId", dto.slaId),
      ("ticketNumber", .text ticketNumber), ("companyId", companyId.elim .null .text),
      ("createdById", .text userId)]

def create (dto : CreateTicketDto) (companyId : Option String) (userId : String)
    (userType : UserType) : TicketProgram :=
  if !dto.contactName.truthy || !dto.contactEmail.truthy || !dto.contactPhone.truthy ||
      !dto.title.truthy then .fail
  else
    let companyIdForTicket := if userType = .publicUser then none else companyId
    let scope := if truthy companyIdForTicket then
        (("companyId", companyIdForTicket.getD "") : String × String)
      else ("createdById", userId)
    let stem := if truthy companyIdForTicket then
        "TKT-" ++ String.ofList (((companyIdForTicket.getD "").toList.take 4).map Char.toUpper)
      else "TKT-PUB"
    .step .read fun s =>
      let count := (s.db "Ticket").countP fun row =>
        joined sv.comparison (row scope.1) (some (.text scope.2))
      nextTicketNumber sv stem
        (fun ticketNumber =>
          .step (.insert (createData dto ticketNumber userId companyIdForTicket)) fun _ => .done)
        100 (count + 1)

end Create

section Change

variable (sv : Server)

/-- `assertAssignableUser` -/
def assertAssignableUser (db : Db) (companyId userId : Option Scalar) : Bool :=
  companyId.any isTruthy &&
    ((db "User").find? fun user =>
      joined sv.comparison (user "id") userId && joined sv.comparison (user "companyId") companyId &&
        (user "deletedAt").isNone &&
        joined sv.comparison (user "isActive") (some (.flag true))).any fun target =>
      ["TECHNICIAN", "TENANT_ADMIN"].contains ((target "role").elim "null" textOf)

def UpdateTicketDto.provided (dto : UpdateTicketDto) : Assignments :=
  Assignments.ofProvided
    [("status", dto.status), ("priority", dto.priority), ("title", dto.title),
      ("description", dto.description), ("category", dto.category),
      ("subcategory", dto.subcategory), ("location", dto.location),
      ("assignedToId", dto.assignedToId), ("onHoldReason", dto.onHoldReason),
      ("resolution", dto.resolution), ("contactName", dto.contactName),
      ("contactEmail", dto.contactEmail), ("contactPhone", dto.contactPhone)]

/-- The columns `update` writes, from the ticket it has read. -/
def updateData (dto : UpdateTicketDto) (ticket : Row) (userId : String) (now : Int) : Assignments :=
  let newStatus := dto.status
  let data := dto.provided
  let data := if dto.assignedToId.truthy && !newStatus.truthy &&
      ticket "status" = some (.text "OPEN") then
      data.put "status" (some (.text "ASSIGNED"))
    else data
  let data := if newStatus.truthy && newStatus ≠ .text "ON_HOLD" &&
      ticket "status" = some (.text "ON_HOLD") then
      data.put "onHoldReason" none
    else data
  let data := if newStatus = .text "RESOLVED" && ticket "status" ≠ some (.text "RESOLVED") then
      let data := (data.put "resolvedAt" (some (.instant now))).put "resolvedById"
        (some (.text userId))
      if dto.resolution.truthy then data else data.put "resolution" (dto.resolution.orText "")
    else data
  if newStatus.truthy && newStatus ≠ .text "RESOLVED" &&
      ticket "status" = some (.text "RESOLVED") then
    ((data.put "resolvedAt" none).put "resolvedById" none).put "resolution" none
  else data

/-- What `update` checks of the status before it goes on. -/
def admitsStatus (dto : UpdateTicketDto) (ticket : Row) : Bool :=
  !dto.status.truthy || dto.status.toColumn = ticket "status" ||
    (validateTransition (ticket "status") dto.status.toColumn &&
      (dto.status ≠ .text "ON_HOLD" || dto.onHoldReason.truthy))

def update (id : String) (dto : UpdateTicketDto) (user : CurrentUser) (userId : String) :
    TicketProgram :=
  .step .read fun s =>
    match (findOne sv s.db s.now id user false).join with
    | none => .fail
    | some detail =>
      let ticket := detail.ticket.row
      let rest := Prog.step .read fun s' =>
        .step (.write id (updateData dto ticket userId s'.now) ticket) fun _ => .done
      if !admitsStatus dto ticket then .fail
      else if dto.assignedToId.truthy then
        .step .read fun s' =>
          if assertAssignableUser sv s'.db (ticket "companyId") dto.assignedToId.toColumn then rest
          else .fail
      else rest

def assignData (targetUserId : String) : Assignments :=
  [("assignedToId", some (.text targetUserId)), ("status", some (.text "ASSIGNED"))]

def assignTicket (id targetUserId : String) (user : CurrentUser) : TicketProgram :=
  .step .read fun s =>
    match (findOne sv s.db s.now id user false).join with
    | none => .fail
    | some detail =>
      let ticket := detail.ticket.row
      .step .read fun s' =>
        if assertAssignableUser sv s'.db (ticket "companyId") (some (.text targetUserId)) &&
            validateTransition (ticket "status") (some (.text "ASSIGNED")) then
          .step (.write id (assignData targetUserId) ticket) fun _ => .done
        else .fail

def resolveData (resolution : Provided) (userId : String) (now : Int) : Assignments :=
  Assignments.ofProvided
    [("status", .text "RESOLVED"), ("resolution", resolution), ("resolvedAt", .value (.instant now)),
      ("resolvedById", .text userId)]

def resolve (id : String) (resolution : Provided) (user : CurrentUser) (userId : String) :
    TicketProgram :=
  .step .read fun s =>
    match (findOne sv s.db s.now id user false).join with
    | none => .fail
    | some detail =>
      let ticket := detail.ticket.row
      if validateTransition (ticket "status") (some (.text "RESOLVED")) then
        .step .read fun s' =>
          .step (.write id (resolveData resolution userId s'.now) ticket) fun _ => .done
      else .fail

end Change

inductive TicketRequest where
  | create (dto : CreateTicketDto) (companyId : Option String) (userId : String)
      (userType : UserType)
  | update (id : String) (dto : UpdateTicketDto) (user : CurrentUser)
  | assign (id targetUserId : String) (user : CurrentUser)
  | resolve (id : String) (resolution : Provided) (user : CurrentUser)

def TicketRequest.handler (sv : Server) : TicketRequest → TicketProgram
  | create dto companyId userId userType => Tickets.create sv dto companyId userId userType
  | update id dto user => Tickets.update sv id dto user user.id
  | assign id targetUserId user => assignTicket sv id targetUserId user
  | resolve id resolution user => Tickets.resolve sv id resolution user user.id

/-- The ticket operations side by side; `sendable` says what clients send. -/
def ticketSystem (sv : Server) (draws : Draws) (sendable : TicketRequest → Prop) :
    System Desk TicketOp TicketRequest where
  exec := execTicket sv draws
  tick s := { s with now := s.now + 1 }
  handler := TicketRequest.handler sv
  sendable _ := sendable

end FieldserviceIT.Tickets
