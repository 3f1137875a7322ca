import FieldserviceIT.Database.Schema

/-!
The four places that turn a filter object into the clauses of a `WHERE` and the
values of its placeholders: the recursive compiler behind the ticket queries,
the two inline compilers of the asset queries, and the one of the timeline
query. A value is pushed when its clause is made, so the clauses and the values
are returned side by side and nothing ties them together by construction.
-/

namespace FieldserviceIT.Database

open Sql

inductive SqlError where
  | badRequest (message : String)
  /-- `Object.entries` of something that is not a record. -/
  | notARecord
  deriving DecidableEq

structure Compiled where
  clauses : List (Condition Unit)
  values : List Js

namespace Compiled

def empty : Compiled := ⟨[], []⟩

def append (a b : Compiled) : Compiled := ⟨a.clauses ++ b.clauses, a.values ++ b.values⟩

/-- `joined.length ? [(joined)] : []` -/
def grouped (join : List (Condition Unit) → Condition Unit) (a : Compiled) : Compiled :=
  ⟨if a.clauses.isEmpty then [] else [join a.clauses], a.values⟩

/-- `Object.entries(where).flatMap(clause)` -/
def collect (clause : String → Js → Except SqlError Compiled) :
    List (String × Js) → Except SqlError Compiled
  | [] => pure empty
  | (key, value) :: rest => do
      let head ← clause key value
      let tail ← collect clause rest
      pure (head.append tail)

end Compiled

def escapeSqlIdentifier (identifier : String) : Except SqlError String :=
  if isSqlIdentifier identifier then .ok identifier
  else .error (.badRequest s!"Invalid SQL identifier: {identifier}")

def normalizeColumn (table column : String) : String :=
  if table = "Permission" ∧ column = "group" then "grp" else column

def templateText : Js → String
  | .null => "null"
  | .undefined => "undefined"
  | .scalar (.text s) => s
  | .scalar (.number n) => toString n
  | .scalar (.flag b) => if b then "true" else "false"
  | _ => "[object Object]"

def containsPattern (value : Js) : Js :=
  .text ("%" ++ templateText value ++ "%")

def columnClause (column : String) (clause : String → Condition Unit) (values : List Js) :
    Except SqlError Compiled := do
  let name ← escapeSqlIdentifier column
  pure ⟨[clause name], values⟩

def isNullClause (column : String) : Except SqlError Compiled :=
  columnClause column .isNull []

def likeClause (column : String) (value : Js) : Except SqlError Compiled :=
  columnClause column (.like · ()) [containsPattern value]

def compareClause (op : CompareOp) (column : String) (value : Js) : Except SqlError Compiled :=
  columnClause column (.compare op · ()) [value]

def inClause (column : String) (items : List Js) : Except SqlError Compiled :=
  if items.isEmpty then pure ⟨[.never], []⟩
  else columnClause column (.isIn · (items.map fun _ => ())) items

/-- The part of `buildWhereClauses` that deals with one column. Of several
operators in one object the first one counts. -/
def fieldClauses (column : String) (value : Js) : Except SqlError Compiled :=
  match value with
  | .null => isNullClause column
  | _ =>
    if (value.property "contains").isDefined then likeClause column (value.property "contains")
    else if (value.property "gte").isDefined then compareClause .ge column (value.property "gte")
    else if (value.property "lte").isDefined then compareClause .le column (value.property "lte")
    else if (value.property "not").isDefined then
      match value.property "not" with
      | .null => columnClause column .isNotNull []
      | excluded => compareClause .ne column excluded
    else
      match value.property "in" with
      | .array items => inClause column items
      | _ => compareClause .eq column value

mutual
def buildWhereClauses (table : String) : List (String × Js) → Except SqlError Compiled
  | [] => pure .empty
  | (key, value) :: rest => do
      let head ← entryClauses table key value
      let tail ← buildWhereClauses table rest
      pure (head.append tail)

def entryClauses (table key : String) : Js → Except SqlError Compiled
  | .array items =>
    if key = "OR" then do
      let orClauses ← buildAlternatives table items
      pure (orClauses.grouped .anyOf)
    else fieldClauses (normalizeColumn table key) (.array items)
  | .object fields =>
    if table = "TicketTimeline" ∧ key = "ticket" then do
      let ticketClauses ← buildWhereClauses "Ticket" fields
      pure ⟨[.linked "Ticket" "id" "TicketTimeline" "ticketId" ticketClauses.clauses],
        ticketClauses.values⟩
    else if table = "Ticket" ∧ key = "createdBy" then do
      let userClauses ← buildWhereClauses "User" fields
      pure ⟨[.linked "User" "id" "Ticket" "createdById" userClauses.clauses],
        userClauses.values⟩
    else fieldClauses (normalizeColumn table key) (.object fields)
  | value => fieldClauses (normalizeColumn table key) value

/-- The clauses of all alternatives of an `OR`, in one list. -/
def buildAlternatives (table : String) : List Js → Except SqlError Compiled
  | [] => pure .empty
  | .object fields :: rest => do
      let head ← buildWhereClauses table fields
      let tail ← buildAlternatives table rest
      pure (head.append tail)
  | _ :: _ => .error .notARecord
end

/-- `list.flatMap(condition => Object.entries(condition))` -/
def recordEntries : List Js → Except SqlError (List (String × Js))
  | [] => pure []
  | .object fields :: rest => do
      let tail ← recordEntries rest
      pure (fields ++ tail)
  | _ :: _ => .error .notARecord

def assetOrClause (key : String) (value : Js) : Except SqlError Compiled :=
  if (value.property "contains").isDefined then likeClause key (value.property "contains")
  else compareClause .eq key value

def assetAndClause (key : String) (value : Js) : Except SqlError Compiled :=
  if (value.property "contains").isDefined then likeClause key (value.property "contains")
  else
    match value with
    | .null => isNullClause key
    | _ =>
      match value.property "in" with
      | .undefined => compareClause .eq key value
      | .array items => inClause key items
      | item => inClause key [item]

def assetFieldClause (key : String) (value : Js) : Except SqlError Compiled :=
  match value with
  | .null => isNullClause key
  | _ =>
    if (value.property "contains").isDefined then likeClause key (value.property "contains")
    else compareClause .eq key value

def assetClause (key : String) (value : Js) : Except SqlError Compiled :=
  match value with
  | .array items =>
    if key = "OR" then do
      let entries ← recordEntries items
      let orClauses ← Compiled.collect assetOrClause entries
      pure (orClauses.grouped .anyOf)
    else if key = "AND" then do
      let entries ← recordEntries items
      let andClauses ← Compiled.collect assetAndClause entries
      pure (andClauses.grouped .allOf)
    else assetFieldClause key (.array items)
  | _ => assetFieldClause key value

def timelineClause (key : String) (value : Js) : Except SqlError Compiled :=
  match value with
  | .null => isNullClause key
  | _ => compareClause .eq key value

/-- The queries with a filter compiler of their own. `ticket.findMany` and
`ticket.count` share one, `asset.findMany` and `asset.count` have the same text
twice. -/
inductive Query where
  | ticket
  | assetFindMany
  | assetCount
  | ticketTimeline
  deriving DecidableEq

namespace Query

def table : Query → String
  | ticket => "Ticket"
  | assetFindMany | assetCount => "Asset"
  | ticketTimeline => "TicketTimeline"

def compile : Query → List (String × Js) → Except SqlError Compiled
  | ticket, fields => buildWhereClauses "Ticket" fields
  | assetFindMany, fields => Compiled.collect assetClause fields
  | assetCount, fields => Compiled.collect assetClause fields
  | ticketTimeline, fields => Compiled.collect timelineClause fields

/-- The rows the statement finds or counts; `none` when the service throws or
the server refuses. An empty filter object has no `WHERE`. -/
def rows (q : Query) (sv : Server) (db : Db) (fields : List (String × Js)) : Option (List Row) :=
  if fields.isEmpty then sv.select db q.table none []
  else
    match q.compile fields with
    | .error _ => none
    | .ok compiled => sv.select db q.table (some compiled.clauses) compiled.values

end Query
end FieldserviceIT.Database
