import FieldserviceIT.PlatformSecurity.BackupReliability

/-!
Histories of the backup service. As long as every run meets its law, the rows that are completed
have their object off site, and each run meets its law just when it is sound.
-/

namespace FieldserviceIT.PlatformSecurity.BackupService

open Lib

variable {P : BackupPlatform} {call : BackupCall} {backup : BackupRun} {s t : ServiceState}
  {row : RunRow} {attempted : Thrown × ServiceState}

section Rows

def Intact (offsite : ArtifactStore) (row : RunRow) : Prop :=
  ∃ name backup, row.offsiteKey = some name ∧ name.runId = row.id ∧ row.backup = some backup ∧
    offsite name = some backup.artifact

def Named (P : BackupPlatform) (row : RunRow) : Prop :=
  row.status = .completed → P.backupS3 = true ∧ ∃ name, row.offsiteKey = some name ∧
    name.runId = row.id

structure Good (P : BackupPlatform) (s : ServiceState) : Prop where
  idle : s.backupRunning = false
  named : ∀ row ∈ s.runs, Named P row
  kept : ∀ row ∈ s.runs, row.status = .completed → HasArtifact P s row

theorem intact_of_hasArtifact (hnamed : Named P row) (hstatus : row.status = .completed)
    (h : HasArtifact P s row) : Intact s.offsite row := by
  obtain ⟨hs3, name, hname, hid⟩ := hnamed hstatus
  obtain ⟨backup, hbackup, hread⟩ := h
  rw [readBackupArtifact, hs3, hname] at hread
  exact ⟨name, backup, hname, hid, hbackup, hread⟩

theorem hasArtifact_of_intact (hs3 : P.backupS3 = true) (h : Intact s.offsite row) :
    HasArtifact P s row := by
  obtain ⟨name, backup, hname, -, hbackup, hoffsite⟩ := h
  refine ⟨backup, hbackup, ?_⟩
  rw [readBackupArtifact, hs3, hname]
  exact hoffsite

theorem Good.intact (h : Good P s) (hrow : row ∈ s.runs) (hstatus : row.status = .completed) :
    Intact s.offsite row :=
  intact_of_hasArtifact (h.named row hrow) hstatus (h.kept row hrow hstatus)

end Rows

section Calls

def finished (call : BackupCall) (attempted : Thrown × ServiceState) : ServiceState :=
  { attempted.1.elim attempted.2 (fun error => failRun call error attempted.2) with
    backupRunning := false }

def storedRun (call : BackupCall) (backup : BackupRun) (s : ServiceState) : ServiceState :=
  { insertedRun call s with
    backupRunning := true
    files := s.files.written call.name backup.artifact
    offsite := s.offsite.written call.name backup.artifact }

theorem insertRun_of_inserted (hfails : call.fails .insert = false)
    (hfresh : ∀ row ∈ s.runs, row.id ≠ call.runId) : insertRun call s = some (insertedRun call s) := by
  have hany : s.runs.any (fun row => row.id = call.runId) = false := by
    rw [List.any_eq_false]
    intro row hrow
    simpa using hfresh row hrow
  rw [insertRun, hfails, hany]
  rfl

theorem insertRun_of_not_inserted
    (h : ¬(call.fails .insert = false ∧ ∀ row ∈ s.runs, row.id ≠ call.runId)) :
    insertRun call s = none := by
  rw [insertRun]
  apply if_pos
  cases hfails : call.fails .insert with
  | true => rfl
  | false =>
    rw [Bool.false_or, List.any_eq_true]
    by_contra hany
    apply h ⟨hfails, _⟩
    intro row hrow hid
    exact hany ⟨row, hrow, decide_eq_true hid⟩

theorem runBackup_of_not_inserted (hidle : s.backupRunning = false)
    (h : ¬(call.fails .insert = false ∧ ∀ row ∈ s.runs, row.id ≠ call.runId)) :
    (runBackup P call s).2.backupRunning = true := by
  have hnone : insertRun call { s with backupRunning := true } = none :=
    insertRun_of_not_inserted h
  rw [runBackup, hidle, if_neg Bool.false_ne_true]
  dsimp only
  rw [hnone]

theorem runBackup_of_inserted (hidle : s.backupRunning = false) (hfails : call.fails .insert = false)
    (hfresh : ∀ row ∈ s.runs, row.id ≠ call.runId) :
    (runBackup P call s).2 =
      finished call (attemptRun P call (insertedRun call { s with backupRunning := true })) := by
  have hsome : insertRun call { s with backupRunning := true } =
      some (insertedRun call { s with backupRunning := true }) := insertRun_of_inserted hfails hfresh
  rw [runBackup, hidle, if_neg Bool.false_ne_true]
  dsimp only
  rw [hsome]
  rfl

theorem writesArtifact_eq (hidle : s.backupRunning = false) (hfails : call.fails .insert = false)
    (hfresh : ∀ row ∈ s.runs, row.id ≠ call.runId) :
    writesArtifact P call s =
      if call.fails .write || !P.backupS3 || call.fails .upload then none
      else call.backup.toOption := by
  have hany : s.runs.any (fun row => row.id = call.runId) = false := by
    rw [List.any_eq_false]
    intro row hrow
    simpa using hfresh row hrow
  rw [writesArtifact, hidle, hfails, hany]
  rfl

theorem attemptRun_of_writes (hidle : s.backupRunning = false)
    (hfails : call.fails .insert = false) (hfresh : ∀ row ∈ s.runs, row.id ≠ call.runId)
    (hwrites : writesArtifact P call s = some backup) :
    P.backupS3 = true ∧ attemptRun P call (insertedRun call { s with backupRunning := true }) =
      recordRun P call backup (storedRun call backup s) := by
  rw [writesArtifact_eq hidle hfails hfresh] at hwrites
  split at hwrites
  next => cases hwrites
  next hstored =>
    simp only [Bool.or_eq_true, Bool.not_eq_true', not_or, Bool.not_eq_true] at hstored
    obtain ⟨⟨hwrite, hs3⟩, hupload⟩ := hstored
    have hs3 : P.backupS3 = true := by simpa using hs3
    cases hbackup : call.backup with
    | error error =>
      rw [hbackup] at hwrites
      cases hwrites
    | ok made =>
      rw [hbackup] at hwrites
      cases hwrites
      refine ⟨hs3, ?_⟩
      rw [attemptRun, hbackup]
      dsimp only
      rw [storeArtifact, hwrite, hs3, hupload]
      rfl

theorem attemptRun_of_writes_none (hidle : s.backupRunning = false)
    (hfails : call.fails .insert = false) (hfresh : ∀ row ∈ s.runs, row.id ≠ call.runId)
    (hwrites : writesArtifact P call s = none) : ∃ error t,
      attemptRun P call (insertedRun call { s with backupRunning := true }) = (some error, t) ∧
        t.runs = (insertedRun call s).runs ∧ t.offsite = s.offsite := by
  rw [writesArtifact_eq hidle hfails hfresh] at hwrites
  rw [attemptRun]
  cases hbackup : call.backup with
  | error error => exact ⟨error, _, rfl, rfl, rfl⟩
  | ok made =>
    rw [hbackup] at hwrites
    dsimp only
    rw [storeArtifact]
    cases hwrite : call.fails .write with
    | true => exact ⟨_, _, rfl, rfl, rfl⟩
    | false =>
    cases hs3 : P.backupS3 with
    | false => exact ⟨_, _, rfl, rfl, rfl⟩
    | true =>
    cases hupload : call.fails .upload with
    | true => exact ⟨_, _, rfl, rfl, rfl⟩
    | false =>
      rw [hwrite, hs3, hupload] at hwrites
      cases hwrites

end Calls

section Finishing

@[simp] theorem finished_offsite (attempted : Thrown × ServiceState) :
    (finished call attempted).offsite = attempted.2.offsite := by
  rw [finished]
  cases attempted.1 with
  | none => rfl
  | some error =>
    change (failRun call error attempted.2).offsite = _
    rw [failRun]
    split <;> rfl

theorem finished_runs_none (h : attempted.1 = none) :
    (finished call attempted).runs = attempted.2.runs := by
  rw [finished, h]
  rfl

theorem finished_runs_fail (attempted : Thrown × ServiceState) (h : call.fails .fail = true) :
    (finished call attempted).runs = attempted.2.runs := by
  rw [finished]
  cases attempted.1 with
  | none => rfl
  | some error =>
    change (failRun call error attempted.2).runs = _
    rw [failRun, if_pos h]

theorem finished_runs_failed {error : String} (h : attempted.1 = some error)
    (hfail : call.fails .fail = false) : (finished call attempted).runs =
      (setRun call (fun row => row.failed error call.completedAt) attempted.2).runs := by
  rw [finished, h]
  change (failRun call error attempted.2).runs = _
  rw [failRun, if_neg (by rw [hfail]; decide)]

theorem mem_of_mem_finished (h : row ∈ (finished call attempted).runs)
    (hstatus : row.status = .completed) : row ∈ attempted.2.runs := by
  cases hthrown : attempted.1 with
  | none => rwa [finished_runs_none hthrown] at h
  | some error =>
  cases hfail : call.fails .fail with
  | true => rwa [finished_runs_fail attempted hfail] at h
  | false =>
    rw [finished_runs_failed hthrown hfail] at h
    obtain ⟨other, hother, rfl⟩ := mem_setRun.mp h
    split at hstatus
    next => cases hstatus
    next hid =>
      rw [if_neg hid]
      exact hother

theorem settled_of_mem_finished (h : row ∈ (finished call attempted).runs) (hid : row.id = call.runId)
    (hstatus : row.status = .completed) : attempted.1 = none ∨ call.fails .fail = true := by
  cases hthrown : attempted.1 with
  | none => exact .inl rfl
  | some error =>
  cases hfail : call.fails .fail with
  | true => exact .inr rfl
  | false =>
    rw [finished_runs_failed hthrown hfail] at h
    obtain ⟨other, hother, rfl⟩ := mem_setRun.mp h
    by_cases hown : other.id = call.runId
    · rw [if_pos hown] at hstatus
      cases hstatus
    · rw [if_neg hown] at hid
      exact absurd hid hown

end Finishing

section Keeping

theorem intact_completeRun (hgood : Good P s)
    (hrow : row ∈ (completeRun call backup (storedRun call backup s)).runs)
    (hstatus : row.status = .completed) :
    Intact (s.offsite.written call.name backup.artifact) row := by
  obtain ⟨other, hother, rfl⟩ := mem_setRun.mp hrow
  by_cases hid : other.id = call.runId
  · rw [if_pos hid]
    exact ⟨call.name, backup, rfl, hid.symm, rfl, if_pos rfl⟩
  · rw [if_neg hid] at hstatus ⊢
    cases hother with
    | head => exact absurd rfl hid
    | tail _ hold =>
      obtain ⟨name, made, hname, hown, hbackup, hoffsite⟩ := hgood.intact hold hstatus
      refine ⟨name, made, hname, hown, hbackup, ?_⟩
      have hne : name ≠ call.name := by
        rintro rfl
        exact hid hown.symm
      rw [ArtifactStore.written, if_neg hne]
      exact hoffsite

theorem own_mem_completeRun (call : BackupCall) (backup : BackupRun) (s : ServiceState) :
    ∃ row ∈ (completeRun call backup (storedRun call backup s)).runs,
      row.id = call.runId ∧ row.status = .completed :=
  ⟨_, mem_setRun.mpr ⟨_, .head _, (if_pos rfl).symm⟩, rfl, rfl⟩

theorem mem_erasedRows {rows : List RunRow} (h : row ∈ erasedRows call rows) :
    row ∈ rows ∧ (row ∈ rows.takeWhile (prunes call) ∨
      (rows.dropWhile (prunes call)).head? = some row ∧ call.fails (.offsite row.id) = false) := by
  rw [erasedRows, List.mem_append, Option.mem_toList, Option.filter_eq_some_iff] at h
  cases h with
  | inl h => exact ⟨(List.takeWhile_sublist _).subset h, .inl h⟩
  | inr h =>
    refine ⟨(List.dropWhile_sublist _).subset (List.mem_of_head? h.1), .inr ⟨h.1, ?_⟩⟩
    simpa using h.2

theorem isDeleted_of_mem {rows : List RunRow} {other : RunRow}
    (h : row ∈ rows.takeWhile (prunes call)) (hid : row.id = other.id) :
    isDeleted call rows other = true :=
  List.any_eq_true.mpr ⟨row, h, decide_eq_true hid⟩

theorem not_isDeleted_of_not_prunes {rows : List RunRow} (h : prunes call row = false) :
    isDeleted call rows row = false := by
  rw [isDeleted, List.any_eq_false]
  intro other hother hid
  have hprunes : prunes call other = true :=
    List.all_eq_true.mp List.all_takeWhile other hother
  rw [prunes, of_decide_eq_true hid] at hprunes
  rw [prunes, hprunes] at h
  cases h

variable {outcome : Thrown × ServiceState}

theorem intact_of_recording (hgood : Good P s)
    (hrecording : Recording P call backup (storedRun call backup s) outcome)
    (hwhole : ∀ row,
      ((doomed P call backup (storedRun call backup s)).dropWhile (prunes call)).head? = some row →
        call.fails (.offsite row.id) = true)
    (hrow : row ∈ outcome.2.runs) (hstatus : row.status = .completed) :
    Intact outcome.2.offsite row := by
  rw [hrecording.runs, List.mem_filter] at hrow
  obtain ⟨hmem, hdeleted⟩ := hrow
  obtain ⟨name, made, hname, hid, hbackup, hoffsite⟩ := intact_completeRun hgood hmem hstatus
  refine ⟨name, made, hname, hid, hbackup, ?_⟩
  rw [hrecording.offsite, if_neg]
  · exact hoffsite
  rw [List.any_eq_true]
  rintro ⟨other, herased, hkey⟩
  obtain ⟨hdoomed, hwhere⟩ := mem_erasedRows herased
  obtain ⟨hother, hcompleted⟩ := mem_doomed hdoomed
  obtain ⟨_, _, hname', hid', -, -⟩ := intact_completeRun hgood hother hcompleted
  rw [hname', decide_eq_true_eq] at hkey
  cases hkey
  have hsame : other.id = row.id := hid'.symm.trans hid
  cases hwhere with
  | inl htaken => simp [isDeleted_of_mem htaken hsame] at hdeleted
  | inr hhead => simp [hwhole other hhead.1] at hhead

theorem not_intact_of_recording
    (hrecording : Recording P call backup (storedRun call backup s) outcome)
    (hhead : ((doomed P call backup (storedRun call backup s)).dropWhile (prunes call)).head? =
      some row) (hoffsite : call.fails (.offsite row.id) = false) :
    row ∈ outcome.2.runs ∧ row.status = .completed ∧ ¬Intact outcome.2.offsite row := by
  have hdoomed := (List.dropWhile_sublist _).subset (List.mem_of_head? hhead)
  obtain ⟨hmem, hstatus⟩ := mem_doomed hdoomed
  have hprunes : prunes call row = false := by
    have hnot := List.head?_dropWhile_not (prunes call)
      (doomed P call backup (storedRun call backup s))
    rw [hhead] at hnot
    simpa using hnot
  refine ⟨?_, hstatus, ?_⟩
  · rw [hrecording.runs, List.mem_filter, not_isDeleted_of_not_prunes hprunes]
    exact ⟨hmem, rfl⟩
  · rintro ⟨name, made, hname, -, -, hstored⟩
    rw [hrecording.offsite, if_pos] at hstored
    · cases hstored
    rw [List.any_eq_true]
    refine ⟨row, ?_, decide_eq_true hname⟩
    rw [erasedRows, hhead]
    simp [Option.filter, hoffsite]

end Keeping

section Runs

theorem named_insertRun (hgood : Good P s)
    (hrow : row ∈ (storedRun call backup s).runs) (hstatus : row.status = .completed) :
    ∃ name, row.offsiteKey = some name := by
  cases hrow with
  | head => cases hstatus
  | tail _ hold =>
    obtain ⟨-, name, hname, -⟩ := hgood.named row hold hstatus
    exact ⟨name, hname⟩

theorem runLaw_of_writes_none (hgood : Good P s) (hfails : call.fails .insert = false)
    (hfresh : ∀ row ∈ s.runs, row.id ≠ call.runId) (hwrites : writesArtifact P call s = none) :
    RunLaw P call s := by
  obtain ⟨error, t, hattempt, hruns, hoffsite⟩ :=
    attemptRun_of_writes_none hgood.idle hfails hfresh hwrites
  have hrun := runBackup_of_inserted (P := P) hgood.idle hfails hfresh
  rw [hattempt] at hrun
  refine ⟨by rw [hrun]; rfl, fun backup h => ?_, fun row hrow hstatus => ?_⟩
  · rw [hwrites] at h
    cases h
  · rw [hrun] at hrow ⊢
    have hmem := mem_of_mem_finished hrow hstatus
    rw [hruns] at hmem
    cases hmem with
    | head => cases hstatus
    | tail _ hold =>
      obtain ⟨hs3, -⟩ := hgood.named row hold hstatus
      apply hasArtifact_of_intact hs3
      rw [finished_offsite, hoffsite]
      exact hgood.intact hold hstatus

theorem not_completed_of_complete_fails (hfresh : ∀ row ∈ s.runs, row.id ≠ call.runId)
    (hcomplete : call.fails .complete = true)
    (hrow : row ∈ (finished call (recordRun P call backup (storedRun call backup s))).runs)
    (hid : row.id = call.runId) : row.status ≠ .completed := by
  intro hstatus
  have hmem := mem_of_mem_finished hrow hstatus
  rw [recordRun, if_pos hcomplete] at hmem
  cases hmem with
  | head => cases hstatus
  | tail _ hold => exact hfresh row hold hid

theorem runLaw_iff_settles (hgood : Good P s) (hfails : call.fails .insert = false)
    (hfresh : ∀ row ∈ s.runs, row.id ≠ call.runId)
    (hwrites : writesArtifact P call s = some backup) :
    RunLaw P call s ↔ Settles P call backup (storedRun call backup s) := by
  obtain ⟨hs3, hattempt⟩ := attemptRun_of_writes hgood.idle hfails hfresh hwrites
  have hrun := runBackup_of_inserted (P := P) hgood.idle hfails hfresh
  rw [hattempt] at hrun
  cases hcomplete : call.fails .complete with
  | true =>
    refine iff_of_false (fun hlaw => ?_) fun h => by rw [h.recorded] at hcomplete; cases hcomplete
    obtain ⟨row, hrow, hid, hstatus⟩ := hlaw.completed backup hwrites
    rw [hrun] at hrow
    exact not_completed_of_complete_fails hfresh hcomplete hrow hid hstatus
  | false =>
  have hrecording := recording_recordRun backup (storedRun call backup s) hs3
    hcomplete fun row => named_insertRun hgood
  generalize recordRun P call backup (storedRun call backup s) = outcome at *
  constructor
  · intro hlaw
    obtain ⟨row, hrow, hid, hstatus⟩ := hlaw.completed backup hwrites
    rw [hrun] at hrow
    have hsettled := settled_of_mem_finished hrow hid hstatus
    have hmem := mem_of_mem_finished hrow hstatus
    rw [hrecording.runs, List.mem_filter] at hmem
    refine ⟨hcomplete, hsettled.imp_left fun hnone => (hrecording.thrown.mp hnone).1, ?_, ?_⟩
    · intro other hother hown
      have hdeleted := isDeleted_of_mem hother (hown.trans hid.symm)
      simp [hdeleted] at hmem
    · intro other hhead
      by_contra hoffsite
      obtain ⟨hother, hcompleted, hlost⟩ :=
        not_intact_of_recording hrecording hhead (Bool.eq_false_iff.mpr hoffsite)
      have hleft : other ∈ (finished call outcome).runs := by
        cases hsettled with
        | inl hnone => rwa [finished_runs_none hnone]
        | inr hfail => rwa [finished_runs_fail outcome hfail]
      have hnamed : Named P other := by
        rw [hrecording.runs, List.mem_filter] at hother
        obtain ⟨name, _, hname, hown, -, -⟩ := intact_completeRun hgood hother.1 hcompleted
        exact fun _ => ⟨hs3, name, hname, hown⟩
      have hkept := hlaw.kept other
      rw [hrun] at hkept
      have hintact := intact_of_hasArtifact hnamed hcompleted (hkept hleft hcompleted)
      rw [finished_offsite] at hintact
      exact hlost hintact
  · intro hsettles
    obtain ⟨own, hown, hid, hstatus⟩ := own_mem_completeRun call backup s
    have hstays : own ∈ outcome.2.runs := by
      rw [hrecording.runs, List.mem_filter]
      refine ⟨hown, ?_⟩
      rw [Bool.not_eq_true', isDeleted, List.any_eq_false]
      intro row hrow hsame
      exact hsettles.stays row hrow ((of_decide_eq_true hsame).trans hid)
    refine ⟨by rw [hrun]; rfl, fun made hmade => ⟨own, ?_, hid, hstatus⟩, fun row hrow hrowstatus => ?_⟩
    · rw [hrun]
      cases hsettles.settled with
      | inl hgoes =>
        rwa [finished_runs_none (hrecording.thrown.mpr
          ⟨hgoes, List.any_eq_true.mpr ⟨own, hstays, decide_eq_true hid⟩⟩)]
      | inr hfail => rwa [finished_runs_fail outcome hfail]
    · rw [hrun] at hrow ⊢
      apply hasArtifact_of_intact hs3
      rw [finished_offsite]
      exact intact_of_recording hgood hrecording hsettles.whole
        (mem_of_mem_finished hrow hrowstatus) hrowstatus

theorem runLaw_iff_runSound (hgood : Good P s) : RunLaw P call s ↔ RunSound P call s := by
  by_cases hinserted : call.fails .insert = false ∧ ∀ row ∈ s.runs, row.id ≠ call.runId
  · obtain ⟨hfails, hfresh⟩ := hinserted
    cases hwrites : writesArtifact P call s with
    | none =>
      refine iff_of_true (runLaw_of_writes_none hgood hfails hfresh hwrites)
        ⟨⟨hfails, hfresh⟩, fun backup h => ?_⟩
      rw [hwrites] at h
      cases h
    | some backup =>
      rw [runLaw_iff_settles hgood hfails hfresh hwrites]
      constructor
      · intro h
        refine ⟨⟨hfails, hfresh⟩, fun made hmade => ?_⟩
        rw [hwrites] at hmade
        cases hmade
        exact ⟨h.recorded, h.settled, h.stays, h.whole⟩
      · intro h
        have hsettles := h.settles backup hwrites
        exact ⟨hsettles.recorded, hsettles.settled, hsettles.stays, hsettles.whole⟩
  · refine iff_of_false (fun hlaw => ?_) fun hsound => hinserted hsound.inserted
    have hflag := runBackup_of_not_inserted (P := P) hgood.idle hinserted
    rw [hlaw.cleared] at hflag
    cases hflag

theorem named_runBackup (hgood : Good P s) (hlaw : RunLaw P call s)
    (hrow : row ∈ (runBackup P call s).2.runs) : Named P row := by
  intro hstatus
  obtain ⟨hfails, hfresh⟩ := (runLaw_iff_runSound hgood |>.mp hlaw).inserted
  have hrun := runBackup_of_inserted (P := P) hgood.idle hfails hfresh
  cases hwrites : writesArtifact P call s with
  | none =>
    obtain ⟨error, t, hattempt, hruns, -⟩ :=
      attemptRun_of_writes_none hgood.idle hfails hfresh hwrites
    rw [hrun, hattempt] at hrow
    have hmem := mem_of_mem_finished hrow hstatus
    rw [hruns] at hmem
    cases hmem with
    | head => cases hstatus
    | tail _ hold => exact hgood.named row hold hstatus
  | some backup =>
    obtain ⟨hs3, hattempt⟩ := attemptRun_of_writes hgood.idle hfails hfresh hwrites
    have hsettles := (runLaw_iff_settles hgood hfails hfresh hwrites).mp hlaw
    have hrecording := recording_recordRun backup (storedRun call backup s) hs3
      hsettles.recorded fun row => named_insertRun hgood
    rw [hrun, hattempt] at hrow
    have hmem := mem_of_mem_finished hrow hstatus
    rw [hrecording.runs, List.mem_filter] at hmem
    obtain ⟨name, _, hname, hown, -, -⟩ := intact_completeRun hgood hmem.1 hstatus
    exact ⟨hs3, name, hname, hown⟩

theorem good_runBackup (hgood : Good P s) (hlaw : RunLaw P call s) :
    Good P (runBackup P call s).2 :=
  ⟨hlaw.cleared, fun _ hrow => named_runBackup hgood hlaw hrow, hlaw.kept⟩

end Runs

section Histories

/-- On a day of the schedule, a backup is started if the policy is read, the hour has come and there
was no backup lately. -/
theorem starts_iff (trigger : Trigger) (s : ServiceState) (h : isScheduled trigger s = true) :
    startsBackup trigger s = true ↔ trigger.policyFails = false ∧
      s.policy.all (fun policy => policy.scheduleHour.val = trigger.hour &&
        !ranLately policy.lastRunAt trigger.now) = true := by
  rw [isScheduled] at h
  rw [startsBackup]
  cases hpolicy : s.policy with
  | none =>
    rw [hpolicy] at h
    cases h
  | some policy =>
    rw [hpolicy, Option.any_some, Bool.and_eq_true] at h
    simp [h.1]

theorem serviceLaw_iff (hgood : Good P s) (event : ServiceEvent) :
    ServiceLaw P event s ↔ ServiceSound P event s := by
  cases event with
  | run call => exact runLaw_iff_runSound hgood
  | trigger trigger =>
    apply and_congr
    · exact forall_congr' fun h => starts_iff trigger s h
    · exact forall_congr' fun _ => runLaw_iff_runSound hgood
  | updatePolicy _ _ _ _ | restart => exact Iff.rfl

theorem good_nextService (hgood : Good P s) (event : ServiceEvent) (hlaw : ServiceLaw P event s) :
    Good P (nextService P event s) := by
  cases event with
  | run call => exact good_runBackup hgood hlaw
  | trigger trigger =>
    change Good P (scheduledOperations P trigger s)
    rw [scheduledOperations]
    split
    next hstarts => exact good_runBackup hgood (hlaw.2 hstarts)
    next => exact hgood
  | updatePolicy _ _ _ _ => exact ⟨hgood.idle, hgood.named, hgood.kept⟩
  | restart => exact ⟨rfl, hgood.named, hgood.kept⟩

def freshService (policy : Option BackupPolicy) (files offsite : ArtifactStore) : ServiceState where
  backupRunning := false
  runs := []
  policy := policy
  files := files
  offsite := offsite

theorem good_freshService (P : BackupPlatform) (policy : Option BackupPolicy)
    (files offsite : ArtifactStore) : Good P (freshService policy files offsite) where
  idle := rfl
  named := fun _ h => by cases h
  kept := fun _ h => by cases h

/-- A history of backups keeps the law as long as each run is sound and each trigger finds its
hour. -/
theorem backups_lawful_iff (P : BackupPlatform) (policy : Option BackupPolicy)
    (files offsite : ArtifactStore) (events : List ServiceEvent) :
    Throughout (nextService P) (ServiceLaw P) (freshService policy files offsite) events ↔
      Throughout (nextService P) (ServiceSound P) (freshService policy files offsite) events := by
  apply throughout_congr_of_good _ _ events (good_freshService P policy files offsite)
  · intro event s hgood
    exact serviceLaw_iff hgood event
  · intro event s hgood hlaw
    exact good_nextService hgood event hlaw

def isNewer (row next : RunRow) : Bool :=
  decide (next.startedAt ≤ row.startedAt)

theorem sorted_mergeSort (rows : List RunRow) :
    (rows.mergeSort isNewer).Pairwise fun row next => next.startedAt ≤ row.startedAt := by
  have hsorted : (rows.mergeSort isNewer).Pairwise fun row next => isNewer row next :=
    List.pairwise_mergeSort
      (fun a b c hab hbc => decide_eq_true ((of_decide_eq_true hbc).trans (of_decide_eq_true hab)))
      (fun a b => by simpa [isNewer] using le_total b.startedAt a.startedAt) rows
  exact hsorted.imp of_decide_eq_true

def storage : BackupPlatform where
  backupS3 := true
  newestFirst := fun rows => rows.mergeSort isNewer
  newestFirst_perm := fun rows => List.mergeSort_perm rows isNewer
  newestFirst_sorted := sorted_mergeSort

/-- A run whose row is not inserted: the connection to the database is lost. -/
def lostRun : BackupCall where
  runId := "1"
  requestedById := none
  startedAt := 0
  createdAt := 0
  completedAt := 0
  backup := .error ""
  fails := fun _ => true
  message := fun _ => "Connection lost"

def sundayPolicy : BackupPolicy where
  enabled := true
  scheduleDay := 0
  scheduleHour := 10
  retentionCount := 4
  lastRunAt := none

def sundayTrigger : Trigger where
  weekday := 0
  firedAt := 0
  retentionTook := 0
  policyFails := false
  call := lostRun

/-- The lost run leaves the flag set, and on Sunday no backup is started. -/
theorem backup_wedged :
    ¬Throughout (nextService storage) (ServiceLaw storage)
        (freshService none (fun _ => none) fun _ => none) [.run lostRun] ∧
      ¬Throughout (nextService storage) (ServiceLaw storage)
        (freshService (some sundayPolicy) (fun _ => none) fun _ => none) [.trigger sundayTrigger] := by
  constructor
  · rintro ⟨hlaw, -⟩
    have hflag : (runBackup storage lostRun
        (freshService none (fun _ => none) fun _ => none)).2.backupRunning = true :=
      runBackup_of_not_inserted rfl fun h => by cases h.1
    have hcleared := hlaw.cleared
    rw [hflag] at hcleared
    cases hcleared
  · rintro ⟨hlaw, -⟩
    have hstarts := hlaw.1 (by decide)
    revert hstarts
    decide

end Histories
end FieldserviceIT.PlatformSecurity.BackupService
