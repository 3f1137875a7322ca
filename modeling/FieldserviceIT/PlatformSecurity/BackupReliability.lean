import FieldserviceIT.Lib.Histories
import FieldserviceIT.PlatformSecurity.BackupService

/-!
Whether backups are what their records say. After a call the flag is cleared, a run whose artefact
is off site is recorded as completed, and a run that is recorded so has its artefact; and on the day
of the schedule a backup is started. What comes after the artefact is off site decides: recording
it, and pruning the runs before it.
-/

namespace FieldserviceIT.PlatformSecurity.BackupService

open Lib

variable (P : BackupPlatform)

section Law

def readBackupArtifact (s : ServiceState) (row : RunRow) : Option Bytes :=
  if P.backupS3 && row.offsiteKey.isSome then row.offsiteKey.bind s.offsite
  else row.artifactPath.bind s.files

def HasArtifact (s : ServiceState) (row : RunRow) : Prop :=
  ∃ backup, row.backup = some backup ∧ readBackupArtifact P s row = some backup.artifact

def writesArtifact (call : BackupCall) (s : ServiceState) : Option BackupRun :=
  if s.backupRunning || call.fails .insert || s.runs.any (fun row => row.id = call.runId) ||
      call.fails .write || !P.backupS3 || call.fails .upload then none
  else call.backup.toOption

structure RunLaw (call : BackupCall) (s : ServiceState) : Prop where
  cleared : (runBackup P call s).2.backupRunning = false
  completed : ∀ backup, writesArtifact P call s = some backup →
    ∃ row ∈ (runBackup P call s).2.runs, row.id = call.runId ∧ row.status = .completed
  kept : ∀ row ∈ (runBackup P call s).2.runs, row.status = .completed →
    HasArtifact P (runBackup P call s).2 row

def isScheduled (trigger : Trigger) (s : ServiceState) : Bool :=
  s.policy.any fun policy => policy.enabled && policy.scheduleDay = trigger.weekday

def ServiceLaw : ServiceEvent → ServiceState → Prop
  | .run call, s => RunLaw P call s
  | .trigger trigger, s => (isScheduled trigger s = true → startsBackup trigger s = true) ∧
      (startsBackup trigger s = true → RunLaw P trigger.call s)
  | .updatePolicy _ _ _ _, _ | .restart, _ => True

end Law

section Condition

variable (call : BackupCall)

def prunes (row : RunRow) : Bool :=
  !call.fails (.offsite row.id) && !call.fails (.delete row.id)

def doomed (backup : BackupRun) (s : ServiceState) : List RunRow :=
  if call.fails .lastRun || call.fails .policy || call.fails .list then []
  else
    s.policy.elim [] fun policy =>
      (completedRuns P (completeRun call backup s)).drop policy.retained

def goesThrough (backup : BackupRun) (s : ServiceState) : Bool :=
  !call.fails .lastRun && !call.fails .policy && !call.fails .list && s.policy.isSome &&
    (doomed P call backup s).all (prunes call) && !call.fails .fetch

def insertedRun (s : ServiceState) : ServiceState :=
  { s with
    runs :=
      { id := call.runId
        status := .running
        requestedById := call.requestedById
        artifactPath := none
        offsiteKey := none
        backup := none
        errorMessage := none
        startedAt := call.startedAt
        completedAt := none } :: s.runs }

/-- The run is recorded and stays so, as nothing throws afterwards or its failure is not recorded;
it is not pruned itself; and no row is left behind whose object was deleted. -/
structure Settles (backup : BackupRun) (s : ServiceState) : Prop where
  recorded : call.fails .complete = false
  settled : goesThrough P call backup s = true ∨ call.fails .fail = true
  stays : ∀ row ∈ (doomed P call backup s).takeWhile (prunes call), row.id ≠ call.runId
  whole : ∀ row, ((doomed P call backup s).dropWhile (prunes call)).head? = some row →
    call.fails (.offsite row.id) = true

structure RunSound (s : ServiceState) : Prop where
  inserted : call.fails .insert = false ∧ ∀ row ∈ s.runs, row.id ≠ call.runId
  settles : ∀ backup, writesArtifact P call s = some backup →
    Settles P call backup (insertedRun call s)

def ServiceSound : ServiceEvent → ServiceState → Prop
  | .run call, s => RunSound P call s
  | .trigger trigger, s =>
    (isScheduled trigger s = true → trigger.policyFails = false ∧
      s.policy.all (fun policy => policy.scheduleHour.val = trigger.hour &&
        !ranLately policy.lastRunAt trigger.now) = true) ∧
      (startsBackup trigger s = true → RunSound P trigger.call s)
  | .updatePolicy _ _ _ _, _ | .restart, _ => True

end Condition

section Pruning

variable {P} {call : BackupCall} {s : ServiceState}

/-- The rows whose object off site is deleted: the last of them may stay itself. -/
def erasedRows (call : BackupCall) (rows : List RunRow) : List RunRow :=
  rows.takeWhile (prunes call) ++
    ((rows.dropWhile (prunes call)).head?.filter fun row => !call.fails (.offsite row.id)).toList

theorem erasedRows_cons (row : RunRow) (rows : List RunRow) :
    erasedRows call (row :: rows) =
      if prunes call row then row :: erasedRows call rows
      else if call.fails (.offsite row.id) then [] else [row] := by
  rw [erasedRows, List.takeWhile_cons, List.dropWhile_cons]
  cases hprunes : prunes call row with
  | true => rfl
  | false =>
    rw [if_neg Bool.false_ne_true, if_neg Bool.false_ne_true, if_neg Bool.false_ne_true]
    cases hoffsite : call.fails (.offsite row.id) <;> simp [Option.filter, hoffsite]

def isDeleted (call : BackupCall) (rows : List RunRow) (other : RunRow) : Bool :=
  (rows.takeWhile (prunes call)).any fun row => row.id = other.id

/-- What pruning the rows comes to. -/
structure Pruned (call : BackupCall) (rows : List RunRow) (s : ServiceState)
    (outcome : Thrown × ServiceState) : Prop where
  thrown : outcome.1 = none ↔ rows.all (prunes call) = true
  runs : outcome.2.runs = s.runs.filter fun other => !isDeleted call rows other
  offsite : ∀ name, outcome.2.offsite name =
    if (erasedRows call rows).any (fun row => row.offsiteKey = some name) then none
    else s.offsite name

theorem isDeleted_cons (row other : RunRow) (rows : List RunRow) :
    isDeleted call (row :: rows) other =
      (prunes call row && (row.id = other.id || isDeleted call rows other)) := by
  rw [isDeleted, List.takeWhile_cons]
  cases prunes call row <;> rfl

@[simp] theorem unlinkArtifact_runs (row : RunRow) (s : ServiceState) :
    (unlinkArtifact call row s).runs = s.runs := by
  rw [unlinkArtifact]
  split
  · split <;> rfl
  · rfl

@[simp] theorem unlinkArtifact_offsite (row : RunRow) (s : ServiceState) :
    (unlinkArtifact call row s).offsite = s.offsite := by
  rw [unlinkArtifact]
  split
  · split <;> rfl
  · rfl

theorem pruneRuns_cons (hs3 : P.backupS3 = true) {row : RunRow} {name : ArtifactName}
    (hname : row.offsiteKey = some name) (rows : List RunRow) (s : ServiceState) :
    pruneRuns P call (row :: rows) s =
      if call.fails (.offsite row.id) then
        (some (call.message (.offsite row.id)), unlinkArtifact call row s)
      else if call.fails (.delete row.id) then
        (some (call.message (.delete row.id)), deleteOffsite row (unlinkArtifact call row s))
      else
        pruneRuns P call rows (deleteRun row (deleteOffsite row (unlinkArtifact call row s))) := by
  rw [pruneRuns, hname, hs3]
  simp

theorem pruned_pruneRuns (hs3 : P.backupS3 = true) {rows : List RunRow}
    (hnamed : ∀ row ∈ rows, ∃ name, row.offsiteKey = some name) (call : BackupCall)
    (s : ServiceState) : Pruned call rows s (pruneRuns P call rows s) := by
  induction rows generalizing s with
  | nil =>
    exact ⟨iff_of_true rfl rfl, (List.filter_eq_self.mpr fun _ _ => rfl).symm, fun _ => rfl⟩
  | cons row rows ih =>
    obtain ⟨name, hname⟩ := hnamed row List.mem_cons_self
    have hrest := ih (fun other hother => hnamed other (.tail _ hother))
      (deleteRun row (deleteOffsite row (unlinkArtifact call row s)))
    rw [pruneRuns_cons hs3 hname]
    cases hoffsite : call.fails (.offsite row.id) with
    | true =>
      have hprunes : prunes call row = false := by rw [prunes, hoffsite]; rfl
      refine ⟨?_, ?_, fun name' => ?_⟩
      · simp [hprunes]
      · simp [isDeleted_cons, hprunes]
      · simp [erasedRows_cons, hprunes, hoffsite]
    | false =>
      cases hdelete : call.fails (.delete row.id) with
      | true =>
        have hprunes : prunes call row = false := by rw [prunes, hoffsite, hdelete]; rfl
        refine ⟨?_, ?_, fun name' => ?_⟩
        · simp [hprunes]
        · simp [isDeleted_cons, hprunes, deleteOffsite, hname]
        · simp [erasedRows_cons, hprunes, hoffsite, deleteOffsite, hname,
            ArtifactStore.erased, eq_comm]
      | false =>
        have hprunes : prunes call row = true := by rw [prunes, hoffsite, hdelete]; rfl
        refine ⟨?_, ?_, fun name' => ?_⟩
        · rw [if_neg Bool.false_ne_true, if_neg Bool.false_ne_true, hrest.thrown,
            List.all_cons, hprunes, Bool.true_and]
        · rw [if_neg Bool.false_ne_true, if_neg Bool.false_ne_true, hrest.runs]
          simp [isDeleted_cons, hprunes, deleteRun, deleteOffsite, hname, List.filter_filter,
            eq_comm, Bool.and_comm]
        · rw [if_neg Bool.false_ne_true, if_neg Bool.false_ne_true, hrest.offsite,
            erasedRows_cons, hprunes, if_pos rfl, List.any_cons, hname]
          simp only [deleteRun, deleteOffsite, hname, unlinkArtifact_offsite,
            ArtifactStore.erased]
          by_cases hsame : name' = name
          · simp [hsame]
          · simp [hsame, Ne.symm hsame]

end Pruning

section Recording

variable {P} {call : BackupCall} {backup : BackupRun} {s : ServiceState} {row : RunRow}

theorem mem_setRun {change : RunRow → RunRow} : row ∈ (setRun call change s).runs ↔
    ∃ other ∈ s.runs, row = if other.id = call.runId then change other else other := by
  rw [setRun, mem_updateWhere]
  simp only [decide_eq_true_eq]

theorem mem_completedRuns : row ∈ completedRuns P s ↔ row ∈ s.runs ∧ row.status = .completed := by
  rw [completedRuns, (P.newestFirst_perm _).mem_iff, List.mem_filter, decide_eq_true_eq]

theorem mem_doomed (h : row ∈ doomed P call backup s) :
    row ∈ (completeRun call backup s).runs ∧ row.status = .completed := by
  rw [doomed] at h
  split at h
  · cases h
  · cases hpolicy : s.policy with
    | none =>
      rw [hpolicy] at h
      cases h
    | some policy =>
      rw [hpolicy] at h
      exact mem_completedRuns.mp (List.mem_of_mem_drop h)

theorem filter_nothing (rows : List RunRow) :
    rows.filter (fun other => !isDeleted call [] other) = rows :=
  List.filter_eq_self.mpr fun _ _ => rfl

/-- What recording the run comes to. -/
structure Recording (P : BackupPlatform) (call : BackupCall) (backup : BackupRun) (s : ServiceState)
    (outcome : Thrown × ServiceState) : Prop where
  thrown : outcome.1 = none ↔ goesThrough P call backup s = true ∧
    outcome.2.runs.any (fun row => row.id = call.runId) = true
  runs : outcome.2.runs = (completeRun call backup s).runs.filter fun other =>
    !isDeleted call (doomed P call backup s) other
  offsite : ∀ name, outcome.2.offsite name =
    if (erasedRows call (doomed P call backup s)).any (fun row => row.offsiteKey = some name) then
      none
    else s.offsite name

def pruneList (P : BackupPlatform) (call : BackupCall) (s : ServiceState) : List RunRow :=
  if call.fails .policy || call.fails .list then []
  else s.policy.elim [] fun policy => (completedRuns P s).drop policy.retained

theorem pruned_pruneBackups (hs3 : P.backupS3 = true)
    (hnamed : ∀ row ∈ pruneList P call s, ∃ name, row.offsiteKey = some name) :
    ((pruneBackups P call s).1 = none ↔ call.fails .policy = false ∧ call.fails .list = false ∧
        s.policy.isSome = true ∧ (pruneList P call s).all (prunes call) = true) ∧
      (pruneBackups P call s).2.runs =
        (s.runs.filter fun other => !isDeleted call (pruneList P call s) other) ∧
      ∀ name, (pruneBackups P call s).2.offsite name =
        if (erasedRows call (pruneList P call s)).any (fun row => row.offsiteKey = some name) then
          none
        else s.offsite name := by
  rw [pruneBackups]
  cases hpolicy : call.fails .policy with
  | true =>
    have hlist : pruneList P call s = [] := by rw [pruneList, hpolicy]; rfl
    rw [hlist, filter_nothing]
    exact ⟨by simp, rfl, fun _ => rfl⟩
  | false =>
  cases hfails : call.fails .list with
  | true =>
    have hlist : pruneList P call s = [] := by rw [pruneList, hfails, Bool.or_true]; rfl
    rw [hlist, filter_nothing]
    exact ⟨by simp, rfl, fun _ => rfl⟩
  | false =>
  cases hnone : s.policy with
  | none =>
    have hlist : pruneList P call s = [] := by rw [pruneList, hpolicy, hfails, hnone]; rfl
    rw [hlist, filter_nothing]
    exact ⟨by simp, rfl, fun _ => rfl⟩
  | some policy =>
    have hlist : pruneList P call s = (completedRuns P s).drop policy.retained := by
      rw [pruneList, hpolicy, hfails, hnone]
      rfl
    rw [hlist] at hnamed ⊢
    have hpruned := pruned_pruneRuns hs3 hnamed call s
    refine ⟨?_, hpruned.runs, hpruned.offsite⟩
    simpa using hpruned.thrown

theorem named_completeRun
    (hnamed : ∀ row ∈ s.runs, row.status = .completed → ∃ name, row.offsiteKey = some name) :
    ∀ row ∈ (completeRun call backup s).runs, row.status = .completed →
      ∃ name, row.offsiteKey = some name := by
  intro row hrow hstatus
  obtain ⟨other, hother, rfl⟩ := mem_setRun.mp hrow
  split at hstatus
  next hid =>
    rw [if_pos hid]
    exact ⟨call.name, rfl⟩
  next hid =>
    rw [if_neg hid]
    exact hnamed other hother hstatus

theorem doomed_eq (P : BackupPlatform) (backup : BackupRun) (s : ServiceState)
    (hlast : call.fails .lastRun = false) :
    doomed P call backup s = pruneList P call (setLastRun call (completeRun call backup s)) := by
  rw [doomed, pruneList, hlast, Bool.false_or]
  split
  · rfl
  · change _ = (s.policy.map _).elim [] _
    cases s.policy <;> rfl

theorem recording_recordRun (backup : BackupRun) (s : ServiceState) (hs3 : P.backupS3 = true)
    (hcomplete : call.fails .complete = false)
    (hnamed : ∀ row ∈ s.runs, row.status = .completed → ∃ name, row.offsiteKey = some name) :
    Recording P call backup s (recordRun P call backup s) := by
  have hnames : ∀ row ∈ doomed P call backup s, ∃ name, row.offsiteKey = some name := by
    intro row hrow
    obtain ⟨hmem, hstatus⟩ := mem_doomed hrow
    exact named_completeRun hnamed row hmem hstatus
  rw [recordRun, if_neg (by rw [hcomplete]; decide)]
  cases hlast : call.fails .lastRun with
  | true =>
    have hdoomed : doomed P call backup s = [] := by rw [doomed, hlast]; rfl
    refine ⟨?_, ?_, fun name => ?_⟩
    · simp [goesThrough, hlast]
    · rw [hdoomed, filter_nothing]
      rfl
    · rw [hdoomed]
      rfl
  | false =>
    have heq := doomed_eq P backup s hlast
    have hpolicy : (setLastRun call (completeRun call backup s)).policy.isSome = s.policy.isSome :=
      Option.isSome_map
    rw [heq] at hnames
    obtain ⟨hthrown, hruns, hoffsite⟩ := pruned_pruneBackups hs3 hnames
    rw [← heq] at hthrown hruns hoffsite
    rw [hpolicy] at hthrown
    dsimp only
    generalize pruneBackups P call (setLastRun call (completeRun call backup s)) = pruned at *
    rw [if_neg Bool.false_ne_true]
    have hthrough : goesThrough P call backup s = true ↔
        pruned.1 = none ∧ call.fails .fetch = false := by
      rw [hthrown, goesThrough, hlast]
      simp [and_assoc]
    cases hfirst : pruned.1 with
    | some error =>
      refine ⟨iff_of_false (fun h => by cases h) fun h => ?_, hruns, hoffsite⟩
      rw [(hthrough.mp h.1).1] at hfirst
      cases hfirst
    | none =>
      dsimp only
      split
      next hfetch =>
        refine ⟨iff_of_false (fun h => by cases h) fun h => ?_, hruns, hoffsite⟩
        rw [(hthrough.mp h.1).2] at hfetch
        cases hfetch
      next hfetch =>
        have hgoes := hthrough.mpr ⟨hfirst, Bool.eq_false_iff.mpr hfetch⟩
        split
        next hany => exact ⟨iff_of_true rfl ⟨hgoes, hany⟩, hruns, hoffsite⟩
        next hany => exact ⟨iff_of_false (fun h => by cases h) fun h => hany h.2, hruns, hoffsite⟩

end Recording
end FieldserviceIT.PlatformSecurity.BackupService
