import FieldserviceIT.PlatformSecurity.Backups

/-!
The runs of backups: a flag of the process, a row for each run, and artefacts on the disk and off
site. Any statement and any access to a file or to the storage may fail; a run is then recorded as
failed. The log of jobs is left out, as nothing reads it and its errors are caught.
-/

namespace FieldserviceIT.PlatformSecurity.BackupService

open Lib

inductive RunStatus where
  | running
  | completed
  | failed
  deriving DecidableEq

/-- The name of a file is made of a time and of the run. -/
structure ArtifactName where
  createdAt : Int
  runId : String
  deriving DecidableEq

/-- A row of `BackupRun`; the backup stands for its size, checksum and counts. -/
structure RunRow where
  id : String
  status : RunStatus
  requestedById : Option String
  artifactPath : Option ArtifactName
  offsiteKey : Option ArtifactName
  backup : Option BackupRun
  errorMessage : Option String
  startedAt : Int
  completedAt : Option Int

structure BackupPolicy where
  enabled : Bool
  scheduleDay : Fin 7
  scheduleHour : Fin 24
  retentionCount : Nat
  lastRunAt : Option Int

abbrev ArtifactStore := ArtifactName → Option Bytes

structure ServiceState where
  backupRunning : Bool
  runs : List RunRow
  policy : Option BackupPolicy
  files : ArtifactStore
  offsite : ArtifactStore

/-- Whether there is a storage off site, and how rows are ordered by `startedAt DESC`. -/
structure BackupPlatform where
  backupS3 : Bool
  newestFirst : List RunRow → List RunRow
  newestFirst_perm : ∀ rows, (newestFirst rows).Perm rows
  newestFirst_sorted : ∀ rows, (newestFirst rows).Pairwise fun row next =>
    next.startedAt ≤ row.startedAt

/-- A step that may fail; of a row that is pruned, with its id. -/
inductive BackupStep where
  | insert
  | write
  | upload
  | complete
  | lastRun
  | policy
  | list
  | unlink (id : String)
  | offsite (id : String)
  | delete (id : String)
  | fetch
  | fail
  deriving DecidableEq

/-- A call of `runBackup`: what it is given, its times, what it gets from the database, and the steps
that fail with their errors. -/
structure BackupCall where
  runId : String
  requestedById : Option String
  startedAt : Int
  createdAt : Int
  completedAt : Int
  backup : Except String BackupRun
  fails : BackupStep → Bool
  message : BackupStep → String

def BackupCall.name (call : BackupCall) : ArtifactName :=
  ⟨call.createdAt, call.runId⟩

def ArtifactStore.written (store : ArtifactStore) (name : ArtifactName) (artifact : Bytes) :
    ArtifactStore :=
  fun other => if other = name then some artifact else store other

def ArtifactStore.erased (store : ArtifactStore) (name : ArtifactName) : ArtifactStore :=
  fun other => if other = name then none else store other

/-- The error of a step that has failed, if it has. -/
abbrev Thrown := Option String

section Storing

variable (P : BackupPlatform) (call : BackupCall)

def insertRun (s : ServiceState) : Option ServiceState :=
  if call.fails .insert || s.runs.any (fun row => row.id = call.runId) then none
  else some
    { s with
      runs :=
        { id := call.runId
          status := .running
          requestedById := call.requestedById
          artifactPath := none
          offsiteKey := none
          backup := none
          errorMessage := none
          startedAt := call.startedAt
          completedAt := none } :: s.runs }

def storeArtifact (backup : BackupRun) (s : ServiceState) : Thrown × ServiceState :=
  if call.fails .write then (some (call.message .write), s)
  else
    let s' :=
      { s with
        files := s.files.written call.name backup.artifact }
    if !P.backupS3 then (some "Off-site backup storage is not configured", s')
    else if call.fails .upload then (some (call.message .upload), s')
    else
      (none,
        { s' with
          offsite := s'.offsite.written call.name backup.artifact })

def RunRow.completed (row : RunRow) (backup : BackupRun) (name : ArtifactName) (at_ : Int) : RunRow :=
  { row with
    status := .completed
    artifactPath := some name
    offsiteKey := some name
    backup := some backup
    completedAt := some at_ }

def RunRow.failed (row : RunRow) (error : String) (at_ : Int) : RunRow :=
  { row with
    status := .failed
    errorMessage := some (String.ofList (error.toList.take 4000))
    completedAt := some at_ }

def setRun (change : RunRow → RunRow) (s : ServiceState) : ServiceState :=
  { s with
    runs := updateWhere (fun row => row.id = call.runId) change s.runs }

def completeRun (backup : BackupRun) (s : ServiceState) : ServiceState :=
  setRun call (fun row => row.completed backup call.name call.completedAt) s

def setLastRun (s : ServiceState) : ServiceState :=
  { s with
    policy := s.policy.map fun policy =>
      { policy with
        lastRunAt := some call.completedAt } }

end Storing

section Pruning

variable (P : BackupPlatform) (call : BackupCall)

def unlinkArtifact (row : RunRow) (s : ServiceState) : ServiceState :=
  match row.artifactPath with
  | some name =>
    if call.fails (.unlink row.id) then s
    else
      { s with
        files := s.files.erased name }
  | none => s

def deleteOffsite (row : RunRow) (s : ServiceState) : ServiceState :=
  match row.offsiteKey with
  | some name =>
    { s with
      offsite := s.offsite.erased name }
  | none => s

def deleteRun (row : RunRow) (s : ServiceState) : ServiceState :=
  { s with
    runs := s.runs.filter fun other => other.id ≠ row.id }

/-- The file, whose errors are caught, then the object off site, then the row. -/
def pruneRuns : List RunRow → ServiceState → Thrown × ServiceState
  | [], s => (none, s)
  | row :: rows, s =>
    let s' := unlinkArtifact call row s
    if row.offsiteKey.isSome && P.backupS3 && call.fails (.offsite row.id) then
      (some (call.message (.offsite row.id)), s')
    else
      let s'' := if row.offsiteKey.isSome && P.backupS3 then deleteOffsite row s' else s'
      if call.fails (.delete row.id) then (some (call.message (.delete row.id)), s'')
      else pruneRuns rows (deleteRun row s'')

def completedRuns (s : ServiceState) : List RunRow :=
  P.newestFirst (s.runs.filter fun row => row.status = .completed)

/-- `Number(policy.retentionCount || 4)` -/
def BackupPolicy.retained (policy : BackupPolicy) : Nat :=
  if policy.retentionCount = 0 then 4 else policy.retentionCount

def pruneBackups (s : ServiceState) : Thrown × ServiceState :=
  if call.fails .policy then (some (call.message .policy), s)
  else if call.fails .list then (some (call.message .list), s)
  else
    match s.policy with
    | none => (some "Cannot read properties of undefined (reading 'retentionCount')", s)
    | some policy => pruneRuns P call ((completedRuns P s).drop policy.retained) s

end Pruning

section Runs

variable (P : BackupPlatform) (call : BackupCall)

def recordRun (backup : BackupRun) (s : ServiceState) : Thrown × ServiceState :=
  if call.fails .complete then (some (call.message .complete), s)
  else
    let s' := completeRun call backup s
    if call.fails .lastRun then (some (call.message .lastRun), s')
    else
      let pruned := pruneBackups P call (setLastRun call s')
      match pruned.1 with
      | some error => (some error, pruned.2)
      | none =>
        if call.fails .fetch then (some (call.message .fetch), pruned.2)
        else if pruned.2.runs.any (fun row => row.id = call.runId) then (none, pruned.2)
        else (some "Backup run not found", pruned.2)

def attemptRun (s : ServiceState) : Thrown × ServiceState :=
  match call.backup with
  | .error error => (some error, s)
  | .ok backup =>
    let stored := storeArtifact P call backup s
    match stored.1 with
    | some error => (some error, stored.2)
    | none => recordRun P call backup stored.2

def failRun (error : String) (s : ServiceState) : ServiceState :=
  if call.fails .fail then s
  else setRun call (fun row => row.failed error call.completedAt) s

/-- The flag is set before the row is inserted, and that before anything is caught. -/
def runBackup (s : ServiceState) : Thrown × ServiceState :=
  if s.backupRunning then (some "A backup is already running", s)
  else
    let flagged :=
      { s with
        backupRunning := true }
    match insertRun call flagged with
    | none => (some (call.message .insert), flagged)
    | some inserted =>
      let attempted := attemptRun P call inserted
      let settled := attempted.1.elim attempted.2 fun error => failRun call error attempted.2
      (attempted.1.map fun error => if call.fails .fail then call.message .fail else error,
        { settled with
          backupRunning := false })

/-- The daily trigger, at a quarter past three, on a day of the week that begins with Sunday. The
retention of other data comes first and takes its time. -/
structure Trigger where
  weekday : Fin 7
  firedAt : Int
  retentionTook : Nat
  policyFails : Bool
  call : BackupCall

def Trigger.now (trigger : Trigger) : Int :=
  trigger.firedAt + trigger.retentionTook

/-- `new Date().getHours()` -/
def Trigger.hour (trigger : Trigger) : Nat :=
  (11700000 + trigger.retentionTook) / 3600000 % 24

def ranLately (lastRunAt : Option Int) (now : Int) : Bool :=
  lastRunAt.any fun lastRun => decide (now - lastRun < 72000000)

def startsBackup (trigger : Trigger) (s : ServiceState) : Bool :=
  !trigger.policyFails && s.policy.any fun policy =>
    policy.enabled && policy.scheduleHour.val = trigger.hour &&
      !ranLately policy.lastRunAt trigger.now

def scheduledOperations (trigger : Trigger) (s : ServiceState) : ServiceState :=
  if startsBackup trigger s then (runBackup P trigger.call s).2 else s

inductive ServiceEvent where
  | run (call : BackupCall)
  | trigger (trigger : Trigger)
  | updatePolicy (enabled : Bool) (scheduleDay : Fin 7) (scheduleHour : Fin 24)
      (retentionCount : Nat)
  /-- The process starts anew. -/
  | restart

def nextService (event : ServiceEvent) (s : ServiceState) : ServiceState :=
  match event with
  | .run call => (runBackup P call s).2
  | .trigger trigger => scheduledOperations P trigger s
  | .updatePolicy enabled scheduleDay scheduleHour retentionCount =>
    { s with
      policy := s.policy.map fun policy =>
        { policy with
          enabled := enabled
          scheduleDay := scheduleDay
          scheduleHour := scheduleHour
          retentionCount := retentionCount } }
  | .restart =>
    { s with
      backupRunning := false }

end Runs
end FieldserviceIT.PlatformSecurity.BackupService
