import FieldserviceIT.Database.Filter
import Mathlib.Data.List.Sort

/-!
The ticket queries: selection by a filter, ordering, paging, and the related
records a query attaches to each ticket.
-/

namespace FieldserviceIT.Database

open Sql

inductive Direction where
  | asc
  | desc
  deriving DecidableEq

def sortsBefore (comparison : Comparison) : Option Scalar → Option Scalar → Bool
  | none, _ => true
  | some _, none => false
  | some a, some b => comparison.atMost a b

def precedes (comparison : Comparison) : Direction → Option Scalar → Option Scalar → Bool
  | .asc, a, b => sortsBefore comparison a b
  | .desc, a, b => sortsBefore comparison b a

def orderedBy (comparison : Comparison) (column : String) (direction : Direction)
    (rows : List Row) : List Row :=
  rows.insertionSort fun r s => precedes comparison direction (r column) (s column) = true

/-- A number read from a query string: `Number(text)`. -/
inductive QueryNumber where
  | nan
  | infinite
  | finite (q : Rat)
  deriving DecidableEq

namespace QueryNumber

/-- `n || fallback` -/
def orDefault (fallback : Rat) : QueryNumber → QueryNumber
  | nan => finite fallback
  | infinite => infinite
  | finite q => if q = 0 then finite fallback else finite q

/-- `(page - 1) * limit` -/
def offset : QueryNumber → QueryNumber → QueryNumber
  | finite page, finite limit => finite ((page - 1) * limit)
  | _, _ => nan

/-- What `LIMIT` and `OFFSET` accept. -/
def rowCount : QueryNumber → Option Nat
  | finite q => if q.den = 1 ∧ 0 ≤ q.num then some q.num.toNat else none
  | _ => none

end QueryNumber

def findById (comparison : Comparison) (rows : List Row) (id : Option Scalar) : Option Row :=
  rows.find? fun r => joined comparison (r "id") id

def withColumns (cols : List String) (row : Row) : Row :=
  fun c => if cols.contains c then row c else none

/-- The related records a query asks for; `timeline` is the number of entries. -/
structure Include where
  createdBy : Bool := false
  assignedTo : Bool := false
  resolvedBy : Bool := false
  asset : Bool := false
  sla : Bool := false
  timeline : Option Nat := none
  attachments : Bool := false
  dispatches : Bool := false

/-- A ticket with its related records: the outer `none` is a record that was not
asked for, the inner one a record that is not there. -/
structure TicketRecord where
  row : Row
  createdBy : Option (Option Row)
  assignedTo : Option (Option Row)
  resolvedBy : Option (Option Row)
  asset : Option (Option Row)
  sla : Option (Option Row)
  timeline : Option (List (Row × Option Row))
  attachments : Option (List (Row × Option Row))
  dispatches : Option (List Row)

section Queries

variable (sv : Server) (db : Db)

/-- `SELECT … FROM table WHERE id = ? LIMIT 1` -/
def related (table : String) (cols : Option (List String)) (id : Option Scalar) : Option Row :=
  (findById sv.comparison (db table) id).map fun r => cols.elim r (withColumns · r)

def ownedBy (table : String) (id : Option Scalar) : List Row :=
  (db table).filter fun r => joined sv.comparison (r "ticketId") id

def enrichTicket (ticket : Row) (wanted : Include) : TicketRecord where
  row := ticket
  createdBy := if wanted.createdBy then
      some (related sv db "User" (some ["id", "firstName", "lastName", "email"])
        (ticket "createdById"))
    else none
  assignedTo := if wanted.assignedTo then
      some (related sv db "User" (some ["id", "firstName", "lastName", "email"])
        (ticket "assignedToId"))
    else none
  resolvedBy := if wanted.resolvedBy then
      some (related sv db "User" (some ["id", "firstName", "lastName", "email"])
        (ticket "resolvedById"))
    else none
  asset := if wanted.asset then some (related sv db "Asset" none (ticket "assetId")) else none
  sla := if wanted.sla then some (related sv db "SLA" none (ticket "slaId")) else none
  timeline := wanted.timeline.map fun take =>
    ((orderedBy sv.comparison "createdAt" .desc (ownedBy sv db "TicketTimeline" (ticket "id"))).take
      take).map fun entry =>
        (entry, related sv db "User" (some ["id", "firstName", "lastName"]) (entry "actorId"))
  attachments := if wanted.attachments then
      some ((ownedBy sv db "TicketAttachment" (ticket "id")).map fun attachment =>
        (attachment,
          related sv db "User" (some ["id", "firstName", "lastName"]) (attachment "uploadedById")))
    else none
  dispatches := if wanted.dispatches then some (ownedBy sv db "Dispatch" (ticket "id")) else none

/-- `ticket.findMany`: `none` when the service throws or the server refuses the
statement. -/
def findMany (where_ : Filter) (orderBy : String × Direction) (skip take : QueryNumber)
    (wanted : Include) : Option (List TicketRecord) := do
  let rows ← Query.ticket.rows sv db (Filter.fields where_)
  let limit ← take.rowCount
  let offset ← skip.rowCount
  let page := ((orderedBy sv.comparison orderBy.1 orderBy.2 rows).drop offset).take limit
  pure (page.map (enrichTicket sv db · wanted))

/-- `ticket.count` -/
def count (where_ : Filter) : Option Nat :=
  (Query.ticket.rows sv db (Filter.fields where_)).map List.length

/-- `ticket.findFirst`: the inner `none` when no row is found. Every filter it
is called with has a key, so there always is a `WHERE`. -/
def findFirst (where_ : Filter) (wanted : Include) : Option (Option TicketRecord) :=
  (Query.ticket.rows sv db (Filter.fields where_)).map fun rows =>
    rows.head?.map (enrichTicket sv db · wanted)

end Queries

theorem mem_orderedBy {comparison : Comparison} {column : String} {direction : Direction}
    {rows : List Row} {r : Row} : r ∈ orderedBy comparison column direction rows ↔ r ∈ rows :=
  (List.perm_insertionSort _ rows).mem_iff

theorem length_orderedBy {comparison : Comparison} {column : String} {direction : Direction}
    {rows : List Row} : (orderedBy comparison column direction rows).length = rows.length :=
  (List.perm_insertionSort _ rows).length_eq

end FieldserviceIT.Database
