import FieldserviceIT.Tickets.Service

/-!
The ticket list as comma-separated text: one line a ticket, over whatever the
list service answers the same caller.
-/

namespace FieldserviceIT.Tickets

open Common Database Sql

section Instants

def padded (width n : Nat) : String :=
  String.ofList (List.replicate (width - (toString n).length) '0') ++ toString n

structure CivilDate where
  year : Int
  month : Nat
  day : Nat
  deriving DecidableEq

/-- The calendar day a number of days after the first of January 1970. Years are
counted from March, in cycles of four hundred. -/
def civilDate (days : Int) : CivilDate :=
  let shifted := days + 719468
  let cycle := shifted / 146097
  let dayOfCycle := (shifted % 146097).toNat
  let yearOfCycle :=
    (dayOfCycle - dayOfCycle / 1460 + dayOfCycle / 36524 - dayOfCycle / 146096) / 365
  let dayOfYear := dayOfCycle - (365 * yearOfCycle + yearOfCycle / 4 - yearOfCycle / 100)
  let marchMonth := (5 * dayOfYear + 2) / 153
  let month := if marchMonth < 10 then marchMonth + 3 else marchMonth - 9
  { year := cycle * 400 + yearOfCycle + if month ≤ 2 then 1 else 0
    month := month
    day := dayOfYear - (153 * marchMonth + 2) / 5 + 1 }

def isoYear (year : Int) : String :=
  if 0 ≤ year ∧ year ≤ 9999 then padded 4 year.toNat
  else (if year < 0 then "-" else "+") ++ padded 6 year.natAbs

/-- `Date.prototype.toISOString` -/
def toISOString (milliseconds : Int) : String :=
  let date := civilDate (milliseconds / 86400000)
  let time := (milliseconds % 86400000).toNat
  isoYear date.year ++ "-" ++ padded 2 date.month ++ "-" ++ padded 2 date.day ++ "T" ++
    padded 2 (time / 3600000) ++ ":" ++ padded 2 (time / 60000 % 60) ++ ":" ++
    padded 2 (time / 1000 % 60) ++ "." ++ padded 3 (time % 1000) ++ "Z"

example : toISOString 1709210096789 = "2024-02-29T12:34:56.789Z" := by decide

end Instants

section Cells

/-- An array element as `join` writes it. -/
def joinedText (value : Option Scalar) : String :=
  value.elim "" textOf

/-- `value || ''` -/
def orEmpty (value : Option Scalar) : String :=
  match value with
  | some v => if isTruthy v then textOf v else ""
  | none => ""

def quoteMark : Char := Char.ofNat 34

/-- `"${(value || '').replace(/"/g, '""')}"`; only texts have a `replace`. -/
def quoted (value : Option Scalar) : Option String :=
  let quote := fun s : String =>
    "\"" ++ String.ofList (s.toList.flatMap fun c => if c = quoteMark then [c, c] else [c]) ++ "\""
  match value with
  | none => some (quote "")
  | some (.text s) => some (quote s)
  | some v => if isTruthy v then none else some (quote "")

def interpolated (value : Option Scalar) : String :=
  value.elim "null" textOf

/-- `user ? \`${user.firstName} ${user.lastName}\` : ''` -/
def fullName (user : Option (Option Row)) : String :=
  match user.join with
  | some row => interpolated (row "firstName") ++ " " ++ interpolated (row "lastName")
  | none => ""

/-- `value?.toISOString() || ''`; only instants have a `toISOString`. -/
def isoOrEmpty : Option Scalar → Option String
  | none => some ""
  | some (.instant ms) => some (toISOString ms)
  | some _ => none

end Cells

def csvHeader : String :=
  "TicketNumber,Title,Status,Priority,Category,ContactName,ContactEmail,ContactPhone,CreatedBy," ++
    "AssignedTo,CreatedAt,ResolvedAt,Resolution\n"

/-- The line of a ticket; `none` when a cell throws. -/
def csvLine (t : TicketRecord) : Option String := do
  let title ← quoted (t.row "title")
  let createdAt ← isoOrEmpty (t.row "createdAt")
  let resolvedAt ← isoOrEmpty (t.row "resolvedAt")
  let resolution ← quoted (t.row "resolution")
  pure (",".intercalate [joinedText (t.row "ticketNumber"), title, joinedText (t.row "status"),
    joinedText (t.row "priority"), orEmpty (t.row "category"), orEmpty (t.row "contactName"),
    orEmpty (t.row "contactEmail"), orEmpty (t.row "contactPhone"), fullName t.createdBy,
    fullName t.assignedTo, createdAt, resolvedAt, resolution])

/-- `TicketExportService.exportCsv` -/
def csvOf (tickets : List TicketRecord) : Option String :=
  (tickets.mapM csvLine).map fun lines => csvHeader ++ "\n".intercalate lines

section Controller

variable (sv : Server) (db : Db) (now : Int)

def exportQuery (status : Option String) : ListQuery where
  page := .finite 1
  limit := .finite (10000 : Nat)
  status := status
  search := none
  priority := none
  assignedToId := none

def exportCsv (status : Option String) (user : CurrentUser) : Option String := do
  let result ← findAll sv db now user (exportQuery status)
  csvOf result.data

end Controller
end FieldserviceIT.Tickets
