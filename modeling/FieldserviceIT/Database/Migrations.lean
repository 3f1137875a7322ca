import FieldserviceIT.Database.MigrationFiles

/-!
Running migrations. A statement goes to the server without the conditions that MySQL does not know;
in their place some of its errors count as success. What such a statement names is then there if it
was there before, all of it; a statement that finds a part of it leaves out the rest, and an index
may be missing altogether.
-/

namespace FieldserviceIT.Database.Migrations

open Common
open Lib.SqlText

section Patterns

/-- `\w` -/
def isWordChar (c : Char) : Bool :=
  c.isAlphanum || c = '_'

/-- `\b`, behind a letter -/
def ended : List Char → Bool
  | [] => true
  | c :: _ => !isWordChar c

def word : List Char → List Char → Option (List Char)
  | [], text => some text
  | _ :: _, [] => none
  | w :: letters, c :: text => if c.toLower = w then word letters text else none

/-- `\s+` -/
def spaces : List Char → Option (List Char)
  | [] => none
  | c :: text => if isWhiteSpace c then some (text.dropWhile isWhiteSpace) else none

def phrase : List String → List Char → Option (List Char)
  | [], text => some text
  | [w], text => word w.toList text
  | w :: rest, text => ((word w.toList text).bind spaces).bind (phrase rest)

/-- `(UNIQUE\s+)?`: what it is, and what follows. -/
def uniqueWord (text : List Char) : List Char × List Char :=
  match (word "unique".toList text).bind spaces with
  | some rest => (text.take (text.length - rest.length), rest)
  | none => ([], text)

/-- `ADD\s+COLUMN\s+IF\s+NOT\s+EXISTS\b`: what is put in its place, and what follows. -/
def conditionalColumn (text : List Char) : Option (List Char × List Char) := do
  let rest ← phrase ["add", "column", "if", "not", "exists"] text
  if ended rest then some ("ADD COLUMN".toList, rest) else none

/-- `verb\s+(UNIQUE\s+)?INDEX\s+IF\s+NOT\s+EXISTS\b` -/
def conditionalIndex (verb : String) (text : List Char) : Option (List Char × List Char) := do
  let rest ← (word verb.toLower.toList text).bind spaces
  let unique := uniqueWord rest
  let rest ← phrase ["index", "if", "not", "exists"] unique.2
  if ended rest then some (verb.toList ++ ' ' :: unique.1 ++ "INDEX".toList, rest) else none

/-- Every match is replaced, from the left to the right. `skip` characters belong to a match that
began before, and `inWord` says what stands before the text. -/
def replaceFrom (find : List Char → Option (List Char × List Char)) :
    Bool → Nat → List Char → List Char
  | _, _, [] => []
  | _, skip + 1, c :: rest => replaceFrom find (isWordChar c) skip rest
  | inWord, 0, c :: rest =>
    match if inWord then none else find (c :: rest) with
    | some (replacement, later) =>
      replacement ++ replaceFrom find (isWordChar c) (rest.length - later.length) rest
    | none => c :: replaceFrom find (isWordChar c) 0 rest

def outsideQuotes (find : List Char → Option (List Char × List Char)) :
    Mode → Bool → Nat → List Char → Bool
  | _, _, _, [] => true
  | mode, _, skip + 1, c :: rest => outsideQuotes find (step mode c rest).2 (isWordChar c) skip rest
  | mode, inWord, 0, c :: rest =>
    match if inWord then none else find (c :: rest) with
    | some (_, later) =>
      mode = .code &&
        outsideQuotes find (step mode c rest).2 (isWordChar c) (rest.length - later.length) rest
    | none => outsideQuotes find (step mode c rest).2 (isWordChar c) 0 rest

def withoutColumnConditions (statement : List Char) : List Char :=
  replaceFrom conditionalColumn false 0 statement

def withoutIndexConditions (statement : List Char) : List Char :=
  replaceFrom (conditionalIndex "ADD") false 0 (withoutColumnConditions statement)

/-- The statement without the conditions that MySQL does not know. -/
def compatible (statement : List Char) : List Char :=
  replaceFrom (conditionalIndex "CREATE") false 0 (withoutIndexConditions statement)

/-- What is left out are conditions, and no part of a text in quotes. -/
def rewritesCode (statement : List Char) : Bool :=
  outsideQuotes conditionalColumn .code false 0 statement &&
    outsideQuotes (conditionalIndex "ADD") .code false 0 (withoutColumnConditions statement) &&
    outsideQuotes (conditionalIndex "CREATE") .code false 0 (withoutIndexConditions statement)

/-- `verb\s+(UNIQUE\s+)?INDEX\b` -/
def indexPhrase (verb : String) (text : List Char) : Bool :=
  match (word verb.toList text).bind spaces with
  | some rest =>
    match word "index".toList (uniqueWord rest).2 with
    | some later => ended later
    | none => false
  | none => false

/-- `.*\bADD\s+(UNIQUE\s+)?INDEX\b` -/
def addsIndex : Bool → List Char → Bool
  | _, [] => false
  | inWord, c :: rest => (!inWord && indexPhrase "add" (c :: rest)) || addsIndex (isWordChar c) rest

def closeComment : List Char → Option (List Char)
  | '*' :: '/' :: rest => some rest
  | _ :: rest => closeComment rest
  | [] => none

def afterComments : Nat → List Char → Option (List Char)
  | fuel + 1, '/' :: '*' :: text =>
    (closeComment text).map fun later =>
      let rest := later.dropWhile isWhiteSpace
      (afterComments fuel rest).getD rest
  | _, _ => none

def executable (statement : List Char) : List Char :=
  (afterComments statement.length (statement.dropWhile isWhiteSpace)).getD statement

def isIndexStatement (statement : List Char) : Bool :=
  let text := (executable statement).dropWhile isWhiteSpace
  indexPhrase "create" text ||
    match phrase ["alter", "table"] text with
    | some rest => ended rest && addsIndex true rest
    | none => false

end Patterns

section Servers

/-- An error of the database. `text` is what it is as a text. -/
structure Rejection where
  errno : Option Nat
  message : String
  text : String

/-- The database server. A statement that it rejects changes nothing: there is no state after it.
What a statement of a file names are the columns, keys, tables and rows that shall be there. If
the server accepts the statement without its conditions they are; it finds a column or a key twice
only where one of them is there already, or where the statement itself gives a name twice. -/
structure Server where
  State : Type
  Effect : Type
  query : State → List Char → Except Rejection State
  holds : State → Effect → Prop
  names : List Char → List Effect
  namesTwice : List Char → Prop
  accepted : ∀ {s statement s'}, rewritesCode statement = true →
    query s (compatible statement) = .ok s' → ∀ e ∈ names statement, holds s' e
  duplicate : ∀ {s statement rejection}, rewritesCode statement = true →
    query s (compatible statement) = .error rejection →
    rejection.errno = some 1060 ∨ rejection.errno = some 1061 →
    namesTwice statement ∨ ∃ e ∈ names statement, holds s e

variable (V : Server)

def executeMigrationStatement (s : V.State) (statement : List Char) : Except Rejection V.State :=
  match V.query s (compatible statement) with
  | .ok s' => .ok s'
  | .error rejection =>
    if rejection.errno = some 1060 || rejection.errno = some 1061 then .ok s
    else if rejection.errno = some 1072 && isIndexStatement (compatible statement) then .ok s
    else if rejection.errno = some 1069 && isIndexStatement (compatible statement) then .ok s
    else .error rejection

def executeStatements : V.State → List (List Char) → V.State × Option Rejection
  | s, [] => (s, none)
  | s, statement :: rest =>
    match executeMigrationStatement V s statement with
    | .ok s' => executeStatements s' rest
    | .error rejection => (s, some rejection)

theorem executeStatements_of_ok {V : Server} {s s' : V.State} {statement : List Char}
    {rest : List (List Char)} (h : executeMigrationStatement V s statement = .ok s') :
    executeStatements V s (statement :: rest) = executeStatements V s' rest := by
  rw [executeStatements, h]

end Servers

section Runs

structure Migration where
  name : String
  sql : List Char

structure Failure where
  name : String
  errorMessage : String
  attempts : Nat

/-- The database, and the two tables in which migrations are kept. -/
structure World (State : Type) where
  state : State
  applied : List String
  failures : List Failure

/-- The queries on these tables. -/
inductive Query
  | prepare
  | select (name : String)
  | insert (name : String)
  | delete (name : String)
  | record (name : String)

/-- A migration that was recorded as applied, with the states in which its statements began and
ended. -/
structure Application (State : Type) where
  migration : Migration
  began : State
  ended : State

/-- What came of some migrations. `stopped` is the error that ended the run. -/
structure Outcome (State : Type) where
  world : World State
  log : List (Application State)
  stopped : Option Rejection

def failureMessage (rejection : Rejection) : String :=
  String.ofList ((if rejection.message ≠ "" then rejection.message else rejection.text).toList.take 2000)

def recordMigrationFailure (failures : List Failure) (name message : String) : List Failure :=
  if failures.any fun failure => failure.name = name then
    failures.map fun failure =>
      if failure.name = name then
        { failure with
          errorMessage := message
          attempts := failure.attempts + 1 }
      else failure
  else failures ++ [⟨name, message, 1⟩]

variable (V : Server) (books : Query → Option Rejection)

def failMigration (w : World V.State) (log : List (Application V.State)) (name : String)
    (rejection : Rejection) : Outcome V.State :=
  match books (.record name) with
  | some thrown => ⟨w, log, some thrown⟩
  | none =>
    { world :=
        { w with
          failures := recordMigrationFailure w.failures name (failureMessage rejection) }
      log
      stopped := none }

def recordMigration (w : World V.State) (application : Application V.State) : Outcome V.State :=
  let name := application.migration.name
  match books (.insert name) with
  | some rejection => failMigration V books w [] name rejection
  | none =>
    let recorded : World V.State :=
      { w with
        applied := w.applied ++ [name] }
    match books (.delete name) with
    | some rejection => failMigration V books recorded [application] name rejection
    | none =>
      { world :=
          { recorded with
            failures := recorded.failures.filter fun failure => failure.name ≠ name }
        log := [application]
        stopped := none }

def runMigration (migration : Migration) (w : World V.State) : Outcome V.State :=
  match books (.select migration.name) with
  | some thrown => ⟨w, [], some thrown⟩
  | none =>
    if migration.name ∈ w.applied then ⟨w, [], none⟩
    else
      let result := executeStatements V w.state (migrationStatements migration.sql)
      let executed : World V.State :=
        { w with
          state := result.1 }
      match result.2 with
      | some rejection => failMigration V books executed [] migration.name rejection
      | none => recordMigration V books executed ⟨migration, w.state, result.1⟩

def runAll : List Migration → World V.State → Outcome V.State
  | [], w => ⟨w, [], none⟩
  | migration :: rest, w =>
    let first := runMigration V books migration w
    match first.stopped with
    | some _ => first
    | none =>
      let later := runAll rest first.world
      { later with
        log := first.log ++ later.log }

def runMigrations (migrations : List Migration) (w : World V.State) : Outcome V.State :=
  match books .prepare with
  | some thrown => ⟨w, [], some thrown⟩
  | none => runAll V books migrations w

end Runs

section Effects

variable (V : Server)

def Present (s : V.State) (statement : List Char) : Prop :=
  ∀ e ∈ V.names statement, V.holds s e

/-- An index for which the table has no column or no room is left out. -/
def SkippedIndex (s : V.State) (statement : List Char) (after : V.State) : Prop :=
  isIndexStatement (compatible statement) = true ∧ after = s ∧
    ∃ rejection, V.query s (compatible statement) = .error rejection ∧
      (rejection.errno = some 1072 ∨ rejection.errno = some 1069)

/-- What the statement names is there before it or is not, but not in parts. -/
structure Plain (s : V.State) (statement : List Char) : Prop where
  code : rewritesCode statement = true
  once : ¬ V.namesTwice statement
  whole : (∃ e ∈ V.names statement, V.holds s e) → Present V s statement

/-- The statements were executed one after the other, and each took effect. -/
def TookEffect : V.State → List (List Char) → V.State → Prop
  | s, [], ended => s = ended
  | s, statement :: rest, ended =>
    ∃ after, executeMigrationStatement V s statement = .ok after ∧
      (Plain V s statement → Present V after statement ∨ SkippedIndex V s statement after) ∧
      TookEffect after rest ended

variable {V}

theorem executeMigrationStatement_cases {s after : V.State} {statement : List Char}
    (h : executeMigrationStatement V s statement = .ok after) :
    V.query s (compatible statement) = .ok after ∨
      after = s ∧ ∃ rejection, V.query s (compatible statement) = .error rejection ∧
        ((rejection.errno = some 1060 ∨ rejection.errno = some 1061) ∨
          isIndexStatement (compatible statement) = true ∧
            (rejection.errno = some 1072 ∨ rejection.errno = some 1069)) := by
  rw [executeMigrationStatement] at h
  cases hquery : V.query s (compatible statement) with
  | ok s' =>
    rw [hquery] at h
    exact .inl h
  | error rejection =>
    rw [hquery] at h
    dsimp only at h
    refine .inr ?_
    split at h
    case isTrue hfound =>
      rw [Bool.or_eq_true, decide_eq_true_eq, decide_eq_true_eq] at hfound
      exact ⟨(Except.ok.inj h).symm, rejection, rfl, .inl hfound⟩
    split at h
    case isTrue hcolumn =>
      rw [Bool.and_eq_true, decide_eq_true_eq] at hcolumn
      exact ⟨(Except.ok.inj h).symm, rejection, rfl, .inr ⟨hcolumn.2, .inl hcolumn.1⟩⟩
    split at h
    case isTrue hroom =>
      rw [Bool.and_eq_true, decide_eq_true_eq] at hroom
      exact ⟨(Except.ok.inj h).symm, rejection, rfl, .inr ⟨hroom.2, .inr hroom.1⟩⟩
    · cases h

theorem executeMigrationStatement_accepted {s after : V.State} {statement : List Char}
    (hquery : V.query s (compatible statement) = .ok after) :
    executeMigrationStatement V s statement = .ok after := by
  rw [executeMigrationStatement, hquery]

theorem executeMigrationStatement_rejected {s : V.State} {statement : List Char} {rejection : Rejection}
    (hquery : V.query s (compatible statement) = .error rejection)
    (herrno : (rejection.errno = some 1060 ∨ rejection.errno = some 1061) ∨
      isIndexStatement (compatible statement) = true ∧
        (rejection.errno = some 1072 ∨ rejection.errno = some 1069)) :
    executeMigrationStatement V s statement = .ok s := by
  rw [executeMigrationStatement, hquery]
  rcases herrno with (h | h) | ⟨hindex, h | h⟩
  · simp [h]
  · simp [h]
  · simp [h, hindex]
  · simp [h, hindex]

theorem present_of_plain {s after : V.State} {statement : List Char}
    (h : executeMigrationStatement V s statement = .ok after) (hplain : Plain V s statement) :
    Present V after statement ∨ SkippedIndex V s statement after := by
  rcases executeMigrationStatement_cases h with hok | ⟨rfl, rejection, hquery, herrno⟩
  · exact .inl (V.accepted hplain.code hok)
  · rcases herrno with hfound | ⟨hindex, herrno⟩
    · rcases V.duplicate hplain.code hquery hfound with htwice | hthere
      · exact absurd htwice hplain.once
      · exact .inl (hplain.whole hthere)
    · exact .inr ⟨hindex, rfl, rejection, hquery, herrno⟩

theorem tookEffect_of_executed {s ended : V.State} {statements : List (List Char)}
    (h : executeStatements V s statements = (ended, none)) : TookEffect V s statements ended := by
  induction statements generalizing s with
  | nil => exact (Prod.mk.inj h).1
  | cons statement rest ih =>
    rw [executeStatements] at h
    cases hstep : executeMigrationStatement V s statement with
    | error rejection =>
      rw [hstep] at h
      cases h
    | ok after =>
      rw [hstep] at h
      exact ⟨after, hstep, present_of_plain hstep, ih h⟩

end Effects

section Logs

variable {V : Server} {books : Query → Option Rejection}

/-- Some migrations were recorded as applied, each after all its statements. -/
structure Logged (migrations : List Migration) (w : World V.State) (outcome : Outcome V.State) : Prop where
  applied : outcome.world.applied = w.applied ++ outcome.log.map fun a => a.migration.name
  executed : ∀ a ∈ outcome.log, a.migration ∈ migrations ∧
    executeStatements V a.began (migrationStatements a.migration.sql) = (a.ended, none)

variable {migrations : List Migration} {w recorded : World V.State}

theorem Logged.nothing (thrown : Option Rejection) :
    Logged migrations w (⟨w, [], thrown⟩ : Outcome V.State) := by
  refine ⟨(List.append_nil _).symm, ?_⟩
  intro a ha
  cases ha

theorem Logged.fail {log : List (Application V.State)} {thrown : Option Rejection}
    (h : Logged migrations w ⟨recorded, log, thrown⟩) (name : String) (rejection : Rejection) :
    Logged migrations w (failMigration V books recorded log name rejection) := by
  rw [failMigration]
  cases books (.record name) with
  | some thrown => exact ⟨h.applied, h.executed⟩
  | none => exact ⟨h.applied, h.executed⟩

theorem recordMigration_logged {migration : Migration} {ended : V.State}
    (h : executeStatements V w.state (migrationStatements migration.sql) = (ended, none)) :
    Logged [migration] w
      (recordMigration V books
        { w with
          state := ended } ⟨migration, w.state, ended⟩) := by
  rw [recordMigration]
  have hrecorded : ∀ thrown, Logged [migration] w
      (⟨⟨ended, w.applied ++ [migration.name], w.failures⟩, [⟨migration, w.state, ended⟩], thrown⟩ :
        Outcome V.State) := by
    intro thrown
    refine ⟨rfl, ?_⟩
    intro a ha
    obtain rfl := List.mem_singleton.mp ha
    exact ⟨List.mem_singleton_self _, h⟩
  cases books (.insert migration.name) with
  | some rejection =>
    have hunrecorded : Logged [migration] w (⟨⟨ended, w.applied, w.failures⟩, [], none⟩ :
        Outcome V.State) := by
      refine ⟨(List.append_nil _).symm, ?_⟩
      intro a ha
      cases ha
    exact hunrecorded.fail migration.name rejection
  | none =>
    dsimp only
    cases books (.delete migration.name) with
    | some rejection => exact (hrecorded none).fail migration.name rejection
    | none => exact ⟨(hrecorded none).applied, (hrecorded none).executed⟩

theorem runMigration_logged (migration : Migration) (w : World V.State) :
    Logged [migration] w (runMigration V books migration w) := by
  rw [runMigration]
  cases books (.select migration.name) with
  | some thrown => exact .nothing (some thrown)
  | none =>
    dsimp only
    split
    · exact .nothing none
    · cases hresult : executeStatements V w.state (migrationStatements migration.sql) with
      | mk ended thrown =>
        cases thrown with
        | some rejection =>
          have hunrecorded : Logged [migration] w (⟨⟨ended, w.applied, w.failures⟩, [], none⟩ :
              Outcome V.State) := by
            refine ⟨(List.append_nil _).symm, ?_⟩
            intro a ha
            cases ha
          exact hunrecorded.fail migration.name rejection
        | none => exact recordMigration_logged hresult

theorem runAll_logged (migrations : List Migration) (w : World V.State) :
    Logged migrations w (runAll V books migrations w) := by
  induction migrations generalizing w with
  | nil => exact .nothing none
  | cons migration rest ih =>
    have hfirst : Logged [migration] w (runMigration V books migration w) :=
      runMigration_logged migration w
    have hmem : ∀ a ∈ (runMigration V books migration w).log, a.migration ∈ migration :: rest := by
      intro a ha
      rw [List.mem_singleton.mp (hfirst.executed a ha).1]
      exact List.mem_cons_self
    rw [runAll]
    dsimp only
    cases (runMigration V books migration w).stopped with
    | some thrown => exact ⟨hfirst.applied, fun a ha => ⟨hmem a ha, (hfirst.executed a ha).2⟩⟩
    | none =>
      have hlater := ih (runMigration V books migration w).world
      constructor
      · rw [hlater.applied, hfirst.applied, List.map_append, List.append_assoc]
      · intro a ha
        rcases List.mem_append.mp ha with h | h
        · exact ⟨hmem a h, (hfirst.executed a h).2⟩
        · exact ⟨List.mem_cons_of_mem _ (hlater.executed a h).1, (hlater.executed a h).2⟩

theorem runMigrations_logged (migrations : List Migration) (w : World V.State) :
    Logged migrations w (runMigrations V books migrations w) := by
  rw [runMigrations]
  cases books .prepare with
  | some thrown => exact .nothing (some thrown)
  | none => exact runAll_logged migrations w

end Logs

section Claims

end Claims

section Samples

/-! A table with some columns and keys, and two statements on it. -/

structure SampleTable where
  columns : List String
  keys : List String

inductive SampleEffect
  | column (name : String)
  | key (name : String)

def addColumns : List Char :=
  "ALTER TABLE t ADD COLUMN a INT, ADD COLUMN b INT".toList

def createIndex : List Char :=
  "CREATE INDEX i ON t (a)".toList

def sampleQuery (s : SampleTable) (statement : List Char) : Except Rejection SampleTable :=
  if statement = addColumns then
    if s.columns.any fun column => column = "a" || column = "b" then
      .error ⟨some 1060, "Duplicate column name", "Error"⟩
    else
      .ok
        { s with
          columns := s.columns ++ ["a", "b"] }
  else if statement = createIndex then
    if !s.columns.contains "a" then .error ⟨some 1072, "Key column 'a' doesn't exist in table", "Error"⟩
    else if s.keys.contains "i" then .error ⟨some 1061, "Duplicate key name 'i'", "Error"⟩
    else if 64 ≤ s.keys.length then
      .error ⟨some 1069, "Too many keys specified; max 64 keys allowed", "Error"⟩
    else
      .ok
        { s with
          keys := s.keys ++ ["i"] }
  else .error ⟨some 1064, "You have an error in your SQL syntax", "Error"⟩

def sampleHolds (s : SampleTable) : SampleEffect → Bool
  | .column name => s.columns.contains name
  | .key name => s.keys.contains name

def sampleNames (statement : List Char) : List SampleEffect :=
  if compatible statement = addColumns then [.column "a", .column "b"]
  else if compatible statement = createIndex then [.key "i"]
  else []

theorem sample_accepted {s s' : SampleTable} {statement : List Char}
    (h : sampleQuery s (compatible statement) = .ok s') :
    ∀ e ∈ sampleNames statement, sampleHolds s' e = true := by
  rw [sampleQuery] at h
  rw [sampleNames]
  split at h
  · rename_i hadd
    rw [if_pos hadd]
    split at h
    · cases h
    · cases h
      simp [sampleHolds]
  · rename_i hadd
    rw [if_neg hadd]
    split at h
    · rename_i hcreate
      rw [if_pos hcreate]
      repeat' split at h
      all_goals cases h
      simp [sampleHolds]
    · cases h

theorem sample_duplicate {s : SampleTable} {statement : List Char} {rejection : Rejection}
    (h : sampleQuery s (compatible statement) = .error rejection)
    (herrno : rejection.errno = some 1060 ∨ rejection.errno = some 1061) :
    ∃ e ∈ sampleNames statement, sampleHolds s e = true := by
  rw [sampleQuery] at h
  rw [sampleNames]
  split at h
  · rename_i hadd
    rw [if_pos hadd]
    split at h
    · rename_i hthere
      obtain ⟨column, hcolumn, hname⟩ := List.any_eq_true.mp hthere
      rw [Bool.or_eq_true, decide_eq_true_eq, decide_eq_true_eq] at hname
      rcases hname with rfl | rfl
      · exact ⟨.column "a", List.mem_cons_self, List.contains_iff_mem.mpr hcolumn⟩
      · exact ⟨.column "b", List.mem_cons_of_mem _ List.mem_cons_self, List.contains_iff_mem.mpr hcolumn⟩
    · cases h
  · rename_i hadd
    rw [if_neg hadd]
    split at h
    · rename_i hcreate
      rw [if_pos hcreate]
      split at h
      · cases h
        simp at herrno
      split at h
      · rename_i hkey
        exact ⟨.key "i", List.mem_cons_self, hkey⟩
      split at h
      · cases h
        simp at herrno
      · cases h
    · cases h
      simp at herrno

def sampleServer : Server where
  State := SampleTable
  Effect := SampleEffect
  query := sampleQuery
  holds s e := sampleHolds s e = true
  names := sampleNames
  namesTwice _ := False
  accepted _ h := sample_accepted h
  duplicate _ h herrno := .inr (sample_duplicate h herrno)

def twoColumns : Migration where
  name := "columns"
  sql := "ALTER TABLE t ADD COLUMN IF NOT EXISTS a INT, ADD COLUMN IF NOT EXISTS b INT;".toList

def oneIndex : Migration where
  name := "index"
  sql := "CREATE INDEX IF NOT EXISTS i ON t (a);".toList

/-- Everything that the statements of a recorded migration name is there. -/
def AllPresent (V : Server) (outcome : Outcome V.State) : Prop :=
  ∀ a ∈ outcome.log, ∀ statement ∈ migrationStatements a.migration.sql, Present V a.ended statement

theorem log_of_executed {V : Server} {migration : Migration} {s ended : V.State}
    (h : executeStatements V s (migrationStatements migration.sql) = (ended, none)) :
    (runMigrations V (fun _ => none) [migration] ⟨s, [], []⟩).log = [⟨migration, s, ended⟩] := by
  simp [runMigrations, runAll, runMigration, h, recordMigration]

theorem executeStatements_singleton {V : Server} {s : V.State} {statement : List Char}
    (h : executeMigrationStatement V s statement = .ok s) : executeStatements V s [statement] = (s, none) := by
  rw [executeStatements_of_ok h]
  rfl

def addConditionally : List Char :=
  "ALTER TABLE t ADD COLUMN IF NOT EXISTS a INT, ADD COLUMN IF NOT EXISTS b INT".toList

def createConditionally : List Char :=
  "CREATE INDEX IF NOT EXISTS i ON t (a)".toList

theorem compatible_addConditionally : compatible addConditionally = addColumns := by
  decide +kernel

theorem compatible_createConditionally : compatible createConditionally = createIndex := by
  decide +kernel

theorem migrationStatements_twoColumns : migrationStatements twoColumns.sql = [addConditionally] := by
  decide +kernel

def fullTable : SampleTable :=
  ⟨["a"], List.replicate 64 "k"⟩

theorem not_allPresent {migration : Migration} {statement : List Char} {e : SampleEffect}
    (hstatements : migrationStatements migration.sql = [statement])
    (hexecuted : executeMigrationStatement sampleServer fullTable statement = .ok fullTable)
    (he : e ∈ sampleNames statement) (hmissing : sampleHolds fullTable e = false) :
    ¬AllPresent sampleServer
      (runMigrations sampleServer (fun _ => none) [migration] ⟨fullTable, [], []⟩) := by
  intro hall
  have hrun : executeStatements sampleServer fullTable (migrationStatements migration.sql) =
      (fullTable, none) := by
    rw [hstatements]
    exact executeStatements_singleton hexecuted
  rw [AllPresent, log_of_executed hrun] at hall
  have hmem : statement ∈ migrationStatements migration.sql := by
    rw [hstatements]
    exact List.mem_singleton_self _
  have hpresent : sampleHolds fullTable e = true := hall _ (List.mem_singleton_self _) _ hmem e he
  rw [hmissing] at hpresent
  cases hpresent

end Samples
end FieldserviceIT.Database.Migrations
