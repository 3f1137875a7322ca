import FieldserviceIT.Lib.Tables
import FieldserviceIT.PlatformSecurity.BackupArtifacts
import FieldserviceIT.Tickets.Export

/-!
Backups and the restore drill. A backup holds the rows of all tables as the driver hands them out;
the drill reads it and inserts the rows into temporary tables, in batches. Where the artifact is
kept is left out, and the statements of the database do not fail.
-/

namespace FieldserviceIT.PlatformSecurity

open Lib

/-- A value of a column. A date that is none, as that of all zeros, has no time. -/
inductive Value where
  | null
  | bool (value : Bool)
  | number (value : Rat)
  | text (value : String)
  | bigInteger (value : Int)
  | date (time : Option Int)
  | buffer (bytes : Bytes)
  | array (items : List Json)
  | object (fields : List (String × Json))

structure Table where
  name : String
  columns : List String
  columns_ne_nil : columns ≠ []
  columns_distinct : columns.Nodup
  rows : List (List Value)
  rows_fit : ∀ row ∈ rows, row.length = columns.length

structure Database where
  tables : List Table
  tables_distinct : Distinct Table.name tables

/-- A value of an `INSERT`. -/
inductive Param where
  | null
  | bool (value : Bool)
  | number (value : Rat)
  | text (value : String)
  | buffer (bytes : Bytes)

structure BackupRun where
  artifact : Bytes
  checksum : String
  tableCount : Nat
  rowCount : Nat

structure TemporaryTable where
  temporary : String
  table : String
  columns : List String
  rows : List (List Param)

structure Drill where
  tableCount : Nat
  createdAt : Option Json
  session : List TemporaryTable

/-- `/^[A-Za-z0-9_]+$/` -/
def isIdentifier (name : String) : Bool :=
  name ≠ "" && name.toList.all fun c => c.isAlphanum || c = '_'

section Writing

variable (R : Runtime)

/-- What `JSON.stringify` makes of a value by its own `toJSON`, before it calls the replacer. -/
def toJSON : Value → Value
  | .date (some time) => .text (Tickets.toISOString time)
  | .date none => .null
  | .buffer bytes => .object [("type", .text "Buffer"), ("data", .array (byteItems bytes))]
  | value => value

def jsonReplacer : Value → Value
  | .bigInteger value => .text (toString value)
  | .buffer bytes => .object [("type", .text "Buffer"), ("data", .text (R.buffers.toBase64 bytes))]
  | value => value

def Value.json : Value → Except String Json
  | null => .ok .null
  | bool value => .ok (.bool value)
  | number value => .ok (.number value)
  | text value => .ok (.text value)
  | bigInteger _ => .error "Do not know how to serialize a BigInt"
  | date _ => .ok (.object [])
  | buffer bytes => .ok (.object ((byteItems bytes).zipIdx.map fun item => (toString item.2, item.1)))
  | array items => .ok (.array items)
  | object fields => .ok (.object fields)

def written (value : Value) : Except String Json :=
  (jsonReplacer R (toJSON value)).json

def writtenRow (columns : List String) (row : List Value) : Except String Json :=
  (row.mapM (written R)).map fun values => .object (columns.zip values)

def databaseTables (db : Database) : List Table :=
  db.tables.filter fun table => isIdentifier table.name

/-- `payload.tables[table] = rows`, where one name sets the prototype and is no entry. -/
def assignTable (payload : List (String × Table)) (table : Table) : List (String × Table) :=
  if table.name = "__proto__" then payload else put table.name table payload

def writtenTable (entry : String × Table) : Except String (String × Json) :=
  (entry.2.rows.mapM (writtenRow R entry.2.columns)).map fun rows => (entry.1, .array rows)

def payloadOf (createdAt : Int) (entries : List (String × Json)) : Json :=
  .object
    [("format", .text "fieldserviceit-encrypted-json-v1"),
      ("createdAt", .text (Tickets.toISOString createdAt)),
      ("consistency", .text "mysql-repeatable-read-consistent-snapshot"),
      ("tables", .object entries)]

/-- `JSON.stringify(payload, this.jsonReplacer)`, before it is text. -/
def writtenPayload (createdAt : Int) (tables : List Table) : Except String Json :=
  ((tables.foldl assignTable []).mapM (writtenTable R)).map (payloadOf createdAt)

def runBackup (iv : Iv) (createdAt : Int) (db : Database) : Except String BackupRun :=
  (writtenPayload R createdAt (databaseTables db)).map fun payload =>
    let compressed := R.compression.gzip (utf8 (JsonText.stringify R.numerals payload))
    let encrypted := encryptBuffer R iv compressed
    { artifact := encrypted
      checksum := R.hex (R.sha256 encrypted)
      tableCount := (databaseTables db).length
      rowCount := (databaseTables db).foldl (fun count table => count + table.rows.length) 0 }

end Writing

section Reading

variable (R : Runtime)

def isBuffer (fields : List (String × Json)) : Bool :=
  match fields.lookup "type" with
  | some (.text kind) => kind = "Buffer"
  | _ => false

def isText : Option Json → Bool
  | some (.text _) => true
  | _ => false

/-- `none` is undefined. What was parsed is no buffer yet. -/
def restoreValue : Option Json → Except String Param
  | none | some .null => .ok .null
  | some (.bool value) => .ok (.bool value)
  | some (.number value) => .ok (.number value)
  | some (.text value) => .ok (.text value)
  | some (.array items) => .ok (.text (JsonText.stringify R.numerals (.array items)))
  | some (.object fields) =>
    if isBuffer fields then
      let data := fields.lookup "data"
      (R.buffers.bufferFrom ((data.filter Json.truthy).getD (.array [])) (isText data)).map
        Param.buffer
    else .ok (.text (JsonText.stringify R.numerals (.object fields)))

def restoredValue (row : Json) (column : String) : Except String Param :=
  match row with
  | .null => .error ("Cannot read properties of null (reading '" ++ column ++ "')")
  | row => restoreValue R (row.property column)

def restoredRow (columns : List String) (row : Json) : Except String (List Param) :=
  columns.mapM (restoredValue R row)

/-- `Object.keys(row)` -/
def keysOf : Json → Except String (List String)
  | .null => .error "Cannot convert undefined or null to object"
  | row => .ok (row.entries.map Prod.fst)

/-- `Math.max(1, Math.min(100, Math.floor(5000 / columns)))` -/
def batchSize (columns : Nat) : Nat :=
  let size := if 5000 / columns ≤ 100 then 5000 / columns else 100
  if 1 ≤ size then size else 1

theorem batchSize_pos (columns : Nat) : 0 < batchSize columns := by
  have hpos : ∀ size : Nat, 0 < if 1 ≤ size then size else 1 := by
    intro size
    split <;> omega
  exact hpos _

/-- The batches from an offset on, inserted behind the rows that are there. -/
def insertBatches (columns : List String) (rawRows : List Json) (offset : Nat)
    (inserted : List (List Param)) : Except String (List (List Param)) :=
  if offset < rawRows.length then do
    let batch := (rawRows.drop offset).take (batchSize columns.length)
    let values ← batch.mapM (restoredRow R columns)
    insertBatches columns rawRows (offset + batchSize columns.length) (inserted ++ values)
  else .ok inserted
termination_by rawRows.length - offset
decreasing_by
  have hpos := batchSize_pos columns.length
  omega

def restoreRows (table : String) : List Json → Except String (List String × List (List Param))
  | [] => .ok ([], [])
  | row :: rawRows => do
      let columns ← keysOf row
      if columns = [] || columns.any (!isIdentifier ·) then
        .error ("Backup columns for " ++ table ++ " are invalid")
      else
        let rows ← insertBatches R columns (row :: rawRows) 0 []
        .ok (columns, rows)

/-- `_restore_${suffix}_${index}` -/
def temporaryName (suffix : String) (index : Nat) : String :=
  "_restore_" ++ suffix ++ "_" ++ toString index

def restoreTable (suffix : String) (index : Nat) (table : String) :
    Json → Except String TemporaryTable
  | .array rawRows =>
    if !isIdentifier table then .error ("Backup table " ++ table ++ " is invalid")
    else do
      let (columns, rows) ← restoreRows R table rawRows
      if rows.length ≠ rawRows.length then
        .error ("Restore row count mismatch for " ++ table ++ ": expected " ++
          toString rawRows.length ++ ", received " ++ toString rows.length)
      else
        .ok
          { temporary := temporaryName suffix index
            table := table
            columns := columns
            rows := rows }
  | _ => .error ("Backup table " ++ table ++ " is invalid")

def restoreTables (suffix : String) : Nat → List (String × Json) → Except String (List TemporaryTable)
  | _, [] => .ok []
  | index, (table, rawRows) :: entries => do
      let restored ← restoreTable R suffix index table rawRows
      let session ← restoreTables suffix (index + 1) entries
      .ok (restored :: session)

def restoreIntoIsolatedSession (suffix : String) (tables : Json) :
    Except String (List TemporaryTable) :=
  restoreTables R suffix 0 tables.entries

def isObject : Json → Bool
  | .array _ | .object _ => true
  | _ => false

def readPayload (run : BackupRun) : Except String Json :=
  if R.hex (R.sha256 run.artifact) ≠ run.checksum then .error "Backup checksum does not match"
  else do
    let compressed ← decryptBuffer R run.artifact
    let bytes ← R.compression.gunzip compressed
    match (ofUtf8 bytes).bind (JsonText.parse R.numerals) with
    | none => .error (R.syntaxError ((ofUtf8 bytes).getD ""))
    | some parsed => .ok parsed

def restorePayload (suffix : String) (parsed : Json) : Except String Drill :=
  match parsed.property "format", parsed.property "tables" with
  | some (.text format), some tables =>
    if format ≠ "fieldserviceit-encrypted-json-v1" || !isObject tables then
      .error "Backup payload is invalid"
    else do
      let session ← restoreIntoIsolatedSession R suffix tables
      .ok
        { tableCount := tables.entries.length
          createdAt := parsed.property "createdAt"
          session := session }
  | _, _ => .error "Backup payload is invalid"

def testBackup (suffix : String) (run : BackupRun) : Except String Drill :=
  let tested := readPayload R run >>= restorePayload R suffix
  tested.mapError fun message : String =>
    "Backup integrity test failed: " ++ String.ofList (message.toList.take 2000)

end Reading
end FieldserviceIT.PlatformSecurity
