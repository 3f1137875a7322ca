import FieldserviceIT.EndpointOperations.PatchEntries
import Mathlib.Data.List.Perm.Subperm

/-!
Patch inventory and patch jobs in every run. Each ingest under way owns the rows it has written and
each job under way what it has found missing, and then its command; what the others do leaves these
as they are. So an ingest that throws has written nothing, one that returns has left the last valid
entries, and each command has one job and was queued for missing patches only.
-/

namespace FieldserviceIT.EndpointOperations

open Lib

variable {P : PatchPlatform}

section Rows

variable {s : PatchStore P} {target other : Target} {values : PatchValues} {existing : Option Nat}

theorem findPatch_iff {row : PatchRow} : findPatch target s = some row ↔
    row ∈ s.inventory.rows ∧ P.fold row.target = P.fold target := by
  constructor
  · intro hfound
    have htarget := List.find?_some (show s.inventory.rows.find? _ = some row from hfound)
    exact ⟨List.mem_of_find?_eq_some hfound, of_decide_eq_true htarget⟩
  · rintro ⟨hrow, htarget⟩
    have hfind := s.inventory_unique.find_key hrow
    rw [htarget] at hfind
    exact hfind

theorem isMissing_iff : isMissing target s = true ↔ Missing s target := by
  rw [isMissing, Option.any_eq_true]
  constructor
  · rintro ⟨row, hrow, hstatus⟩
    obtain ⟨hmem, htarget⟩ := findPatch_iff.mp hrow
    exact ⟨row, hmem, htarget, of_decide_eq_true hstatus⟩
  · rintro ⟨row, hmem, htarget, hstatus⟩
    exact ⟨row, findPatch_iff.mpr ⟨hmem, htarget⟩, decide_eq_true hstatus⟩

theorem Holds.congr (h : Holds s target values) (hfold : P.fold target = P.fold other) :
    Holds s other values := by
  obtain ⟨row, hrow, htarget, hvalues⟩ := h
  exact ⟨row, hrow, htarget.trans hfold, hvalues⟩

/-- What the query has found is still there, whatever its values are now. -/
def Known (s : PatchStore P) (target : Target) (existing : Option Nat) : Prop :=
  ∀ id, existing = some id → ∃ row ∈ s.inventory.rows, row.id = id ∧
    P.fold row.target = P.fold target

theorem rows_insertRow (h : (findPatch target s).isSome = false) :
    (insertRow target values s).inventory.rows =
      s.inventory.rows ++ [newRow target values s.now s.inventory.drawn] := by
  rw [insertRow, dif_neg (by rw [h]; exact Bool.false_ne_true)]
  rfl

theorem storeRow_rows (target : Target) (values : PatchValues) (existing : Option Nat) {row : PatchRow}
    (hrow : row ∈ s.inventory.rows) : ∃ row' ∈ (storeRow target values existing s).inventory.rows,
      row'.id = row.id ∧ row'.target = row.target := by
  cases existing with
  | some id =>
    refine ⟨_, mem_updateWhere.mpr ⟨row, hrow, rfl⟩, ?_⟩
    split <;> exact ⟨rfl, rfl⟩
  | none =>
    refine ⟨row, ?_, rfl, rfl⟩
    cases hsome : (findPatch target s).isSome with
    | true =>
      rw [storeRow, insertRow, dif_pos hsome]
      exact hrow
    | false =>
      rw [storeRow, rows_insertRow hsome]
      exact List.mem_append_left _ hrow

theorem storeRow_other (hknown : Known s target existing) (hother : P.fold other ≠ P.fold target)
    {row : PatchRow} (hrow : row ∈ s.inventory.rows) (htarget : P.fold row.target = P.fold other) :
    row ∈ (storeRow target values existing s).inventory.rows := by
  cases existing with
  | some id =>
    obtain ⟨found, hfound, hid, hfold⟩ := hknown id rfl
    have hne : row.id ≠ id := by
      intro heq
      have hsame := s.inventory_primary.eq_of_key hrow hfound (heq.trans hid.symm)
      rw [hsame, hfold] at htarget
      exact hother htarget.symm
    refine mem_updateWhere.mpr ⟨row, hrow, ?_⟩
    rw [if_neg (by simpa using hne)]
  | none =>
    cases hsome : (findPatch target s).isSome with
    | true =>
      rw [storeRow, insertRow, dif_pos hsome]
      exact hrow
    | false =>
      rw [storeRow, rows_insertRow hsome]
      exact List.mem_append_left _ hrow

theorem installedAt_isSome (values : PatchValues) (now : Nat) :
    (if values.status = .installed then some now else none).isSome = true ↔
      values.status = .installed := by
  split
  next h => exact ⟨fun _ => h, fun _ => rfl⟩
  next h => exact ⟨fun hsome => Bool.noConfusion hsome, fun heq => absurd heq h⟩

theorem storeRow_holds (hknown : Known s target existing)
    (hraced : ¬ raced target existing s = true) :
    Holds (storeRow target values existing s) target values := by
  cases existing with
  | some id =>
    obtain ⟨found, hfound, hid, hfold⟩ := hknown id rfl
    refine ⟨found.written values s.now, mem_updateWhere.mpr ⟨found, hfound, ?_⟩, hfold, rfl,
      installedAt_isSome values s.now⟩
    rw [if_pos (by simpa using hid)]
  | none =>
    have hsome : (findPatch target s).isSome = false := by simpa [raced] using hraced
    refine ⟨newRow target values s.now s.inventory.drawn, ?_, rfl, rfl,
      installedAt_isSome values s.now⟩
    rw [storeRow, rows_insertRow hsome]
    exact List.mem_append_right _ (List.mem_singleton_self _)

theorem holds_storeRow (hknown : Known s target existing) (hother : P.fold other ≠ P.fold target)
    {values' : PatchValues} (h : Holds s other values') :
    Holds (storeRow target values existing s) other values' := by
  obtain ⟨row, hrow, htarget, hvalues⟩ := h
  exact ⟨row, storeRow_other hknown hother hrow htarget, htarget, hvalues⟩

theorem missing_storeRow (hknown : Known s target existing)
    (hraced : ¬ raced target existing s = true)
    (hinstalled : values.status = .installed → P.fold other ≠ P.fold target)
    (h : Missing s other) : Missing (storeRow target values existing s) other := by
  by_cases hother : P.fold other = P.fold target
  · have hstored : Holds (storeRow target values existing s) target values :=
      storeRow_holds hknown hraced
    obtain ⟨row, hrow, htarget, hvalues, -⟩ := hstored.congr hother.symm
    refine ⟨row, hrow, htarget, ?_⟩
    rw [hvalues]
    cases hstatus : values.status with
    | missing => rfl
    | installed => exact absurd hother (hinstalled hstatus)
  · obtain ⟨row, hrow, htarget, hstatus⟩ := h
    exact ⟨row, storeRow_other hknown hother hrow htarget, htarget, hstatus⟩

/-- What `storeRow` leaves as it is. -/
theorem storeRow_frame (target : Target) (values : PatchValues) (existing : Option Nat)
    (s : PatchStore P) : (storeRow target values existing s).commands = s.commands ∧
      (storeRow target values existing s).jobs = s.jobs ∧
      (storeRow target values existing s).started = s.started ∧
      (storeRow target values existing s).held = s.held := by
  cases existing with
  | some id => exact ⟨rfl, rfl, rfl, rfl⟩
  | none =>
    rw [storeRow, insertRow]
    split <;> exact ⟨rfl, rfl, rfl, rfl⟩

end Rows

section Check

variable {s : PatchStore P} {companyId assetId : String} {patchKeys : List String}

theorem missing_of_check (h : allMissing companyId assetId patchKeys s = true) :
    ∀ patchKey ∈ patchKeys, Missing s ⟨companyId, assetId, patchKey⟩ := by
  have hlength : (selectMissing companyId assetId patchKeys s).length = patchKeys.length :=
    of_decide_eq_true h
  have hdistinct : ((selectMissing companyId assetId patchKeys s).map
      fun row => P.fold row.target).Nodup := s.inventory_unique.filter _
  have hsubset : (selectMissing companyId assetId patchKeys s).map (fun row => P.fold row.target) ⊆
      patchKeys.map fun patchKey => P.fold ⟨companyId, assetId, patchKey⟩ := by
    intro fold hfold
    obtain ⟨row, hrow, rfl⟩ := List.mem_map.mp hfold
    have hselected := (List.mem_filter.mp hrow).2
    rw [Bool.and_eq_true] at hselected
    obtain ⟨patchKey, hkey, hsame⟩ := List.any_eq_true.mp hselected.2
    exact List.mem_map.mpr ⟨patchKey, hkey, (of_decide_eq_true hsame).symm⟩
  have hperm := (List.subperm_of_subset hdistinct hsubset).perm_of_length_le (by simp [hlength])
  intro patchKey hkey
  have hmem := hperm.symm.subset (List.mem_map_of_mem (f := fun patchKey =>
    P.fold ⟨companyId, assetId, patchKey⟩) hkey)
  obtain ⟨row, hrow, hfold⟩ := List.mem_map.mp hmem
  obtain ⟨hin, hselected⟩ := List.mem_filter.mp hrow
  rw [Bool.and_eq_true] at hselected
  exact ⟨row, hin, hfold, of_decide_eq_true hselected.1⟩

end Check

section Invariant

/-- The commands and their jobs as they stand, and what has been found missing. -/
structure Kept (s : PatchStore P) : Prop where
  numbered : Distinct MdmCommand.id s.commands.rows
  clean : ∀ command ∈ s.commands.rows, command.missed = []
  recorded : ∀ command ∈ s.commands.rows, Recorded s command ∨ Unrecorded s command.id
  drawn : ∀ job ∈ s.jobs, ∀ id, job.commandId = some id → id < s.commands.drawn
  missing : ∀ entry ∈ s.held, Missing s entry.2
  held : ∀ entry ∈ s.held, entry.1 < s.started
  stored : ∀ entry ∈ s.stored, entry.1 < s.started

/-- How the list, what has been stored of it and the rows agree. -/
structure Storing (s : PatchStore P) (ingest : Nat) (companyId assetId : String)
    (patches : List Listed) (before : List (String × PatchValues)) (rest : List Listed)
    (seen : List (Nat × Target)) : Prop where
  number : ingest < s.started
  fresh : before = [] → ∀ entry ∈ s.stored, entry.1 ≠ ingest
  sound : before ≠ [] → ∀ listed ∈ rest, planned P listed ≠ .broken
  stored : ∀ entry ∈ before, (ingest, ⟨companyId, assetId, entry.1⟩) ∈ s.stored
  holds : ∀ patchKey entry, newest P patchKey before = some entry →
    Holds s ⟨companyId, assetId, patchKey⟩ entry.2
  passed : ∃ passed, patches.take 1000 = passed ++ rest ∧
    (∀ listed ∈ passed, planned P listed ≠ .broken) ∧
      before = (storedOf P (passed.map Prod.fst)).reverse
  known : ∀ entry ∈ seen, ∃ row ∈ s.inventory.rows, row.id = entry.1 ∧ row.target = entry.2

def Fits (s : PatchStore P) : Phase → Prop
  | .idle | .lost => True
  | .storing ingest companyId assetId patches before rest seen =>
    Storing s ingest companyId assetId patches before rest seen
  | .raced ingest => ingest < s.started ∧ ∀ entry ∈ s.stored, entry.1 ≠ ingest
  | .checked job companyId assetId patchKeys => job < s.started ∧
      ∀ patchKey ∈ patchKeys, (job, ⟨companyId, assetId, patchKey⟩) ∈ s.held
  | .queued command companyId assetId patchKeys =>
    (∃ row ∈ s.commands.rows, row.id = command ∧ row.companyId = companyId ∧
      row.assetId = assetId ∧ row.patchKeys = patchKeys) ∧ Unrecorded s command

def Apart (phase other : Phase) : Prop :=
  (∀ number, phase.number = some number → other.number ≠ some number) ∧
    ∀ command, phase.command = some command → other.command ≠ some command

/-- What a statement of another operation leaves as it is. -/
structure Respects (other : Phase) (s s' : PatchStore P) : Prop where
  started : s.started ≤ s'.started
  stored : ∀ entry, other.number = some entry.1 → (entry ∈ s'.stored ↔ entry ∈ s.stored)
  held : ∀ entry ∈ s.held, other.number = some entry.1 → entry ∈ s'.held
  rows : ∀ row ∈ s.inventory.rows, ∃ row' ∈ s'.inventory.rows,
    row'.id = row.id ∧ row'.target = row.target
  holds : ∀ entry ∈ s.stored, other.number = some entry.1 → ∀ target values,
    P.fold target = P.fold entry.2 → Holds s target values → Holds s' target values
  commands : ∀ command ∈ s.commands.rows, command ∈ s'.commands.rows
  jobs : ∀ command, other.command = some command → Unrecorded s command → Unrecorded s' command

variable {s s' : PatchStore P} {phase phase' other : Phase}

theorem fold_key {companyId assetId patchKey patchKey' : String}
    (h : P.collate patchKey = P.collate patchKey') :
    P.fold ⟨companyId, assetId, patchKey⟩ = P.fold ⟨companyId, assetId, patchKey'⟩ := by
  rw [PatchPlatform.fold, PatchPlatform.fold, h]

theorem newest_mem {patchKey : String} {before : List (String × PatchValues)}
    {entry : String × PatchValues} (h : newest P patchKey before = some entry) :
    entry ∈ before ∧ P.collate entry.1 = P.collate patchKey := by
  have hfound : before.find? _ = some entry := h
  have hkey := List.find?_some hfound
  exact ⟨List.mem_of_find?_eq_some hfound, of_decide_eq_true hkey⟩

theorem Fits.respected (hfits : Fits s other) (h : Respects other s s') : Fits s' other := by
  cases other with
  | idle | lost => trivial
  | storing ingest companyId assetId patches before rest seen =>
    refine ⟨Nat.lt_of_lt_of_le hfits.number h.started, fun hbefore entry hentry heq => ?_,
      hfits.sound, fun entry hentry => (h.stored _ rfl).mpr (hfits.stored entry hentry),
      fun patchKey entry hnewest => ?_, hfits.passed, fun entry hentry => ?_⟩
    · exact hfits.fresh hbefore entry ((h.stored entry (congrArg some heq.symm)).mp hentry) heq
    · obtain ⟨hmem, hkey⟩ := newest_mem hnewest
      exact h.holds _ (hfits.stored entry hmem) rfl _ _ (fold_key hkey.symm)
        (hfits.holds patchKey entry hnewest)
    · obtain ⟨row, hrow, hid, htarget⟩ := hfits.known entry hentry
      obtain ⟨row', hrow', hid', htarget'⟩ := h.rows row hrow
      exact ⟨row', hrow', hid'.trans hid, htarget'.trans htarget⟩
  | raced ingest =>
    refine ⟨Nat.lt_of_lt_of_le hfits.1 h.started, fun entry hentry heq => ?_⟩
    exact hfits.2 entry ((h.stored entry (congrArg some heq.symm)).mp hentry) heq
  | checked job companyId assetId patchKeys =>
    exact ⟨Nat.lt_of_lt_of_le hfits.1 h.started,
      fun patchKey hkey => h.held _ (hfits.2 patchKey hkey) rfl⟩
  | queued command companyId assetId patchKeys =>
    obtain ⟨⟨row, hrow, hfields⟩, hnone⟩ := hfits
    exact ⟨⟨row, h.commands row hrow, hfields⟩, h.jobs command rfl hnone⟩

theorem Fits.number_lt (hfits : Fits s phase) {number : Nat} (h : phase.number = some number) :
    number < s.started := by
  cases phase with
  | idle | queued | lost => cases h
  | storing ingest companyId assetId patches before rest seen =>
    exact Option.some.inj h ▸ hfits.number
  | raced ingest => exact Option.some.inj h ▸ hfits.1
  | checked job companyId assetId patchKeys => exact Option.some.inj h ▸ hfits.1

theorem Fits.command_lt (hfits : Fits s phase) {command : Nat} (h : phase.command = some command) :
    command < s.commands.drawn := by
  cases phase with
  | idle | storing | raced | checked | lost => cases h
  | queued command' companyId assetId patchKeys =>
    obtain ⟨⟨row, hrow, hid, -⟩, -⟩ := hfits
    have hbelow := s.commands.below row hrow
    rw [hid] at hbelow
    exact Option.some.inj h ▸ hbelow

end Invariant

section Effects

variable {s s' : PatchStore P} {other : Phase} {companyId assetId : String}

theorem recorded_congr (hjobs : s'.jobs = s.jobs) {command : MdmCommand}
    (h : Recorded s command ∨ Unrecorded s command.id) :
    Recorded s' command ∨ Unrecorded s' command.id := by
  rw [Recorded, Unrecorded, hjobs]
  exact h

theorem Kept.same (h : Kept s) (hcommands : s'.commands = s.commands) (hjobs : s'.jobs = s.jobs)
    (hmissing : ∀ entry ∈ s'.held, Missing s' entry.2)
    (hheld : ∀ entry ∈ s'.held, entry.1 < s'.started)
    (hstored : ∀ entry ∈ s'.stored, entry.1 < s'.started) : Kept s' := by
  refine ⟨hcommands ▸ h.numbered, hcommands ▸ h.clean, fun command hcommand => ?_, ?_, hmissing,
    hheld, hstored⟩
  · rw [hcommands] at hcommand
    exact recorded_congr hjobs (h.recorded command hcommand)
  · rw [hcommands, hjobs]
    exact h.drawn

theorem mem_others {entries : List (Nat × Target)} {number : Nat} {entry : Nat × Target} :
    entry ∈ entries.filter (fun entry => entry.1 ≠ number) ↔ entry ∈ entries ∧ entry.1 ≠ number := by
  rw [List.mem_filter, decide_eq_true_iff]

theorem kept_forget (h : Kept s) (ingest : Nat) :
    Kept { s with stored := s.stored.filter fun entry => entry.1 ≠ ingest } :=
  h.same rfl rfl h.missing h.held fun entry hentry => h.stored entry (mem_others.mp hentry).1

theorem respects_forget {ingest : Nat} (hne : other.number ≠ some ingest) :
    Respects other s { s with stored := s.stored.filter fun entry => entry.1 ≠ ingest } where
  started := Nat.le_refl _
  stored entry hnumber := by
    refine mem_others.trans ⟨And.left, fun hentry => ⟨hentry, fun heq => ?_⟩⟩
    exact hne (heq ▸ hnumber)
  held _ hentry _ := hentry
  rows row hrow := ⟨row, hrow, rfl, rfl⟩
  holds _ _ _ _ _ _ h := h
  commands _ h := h
  jobs _ _ h := h

theorem kept_giveUp (h : Kept s) (job : Nat) : Kept (execPatch (.giveUp job) s) :=
  h.same rfl rfl (fun entry hentry => h.missing entry (mem_others.mp hentry).1)
    (fun entry hentry => h.held entry (mem_others.mp hentry).1) h.stored

theorem respects_giveUp {job : Nat} (hne : other.number ≠ some job) :
    Respects other s (execPatch (.giveUp job) s) where
  started := Nat.le_refl _
  stored _ _ := Iff.rfl
  held _ hentry hnumber := mem_others.mpr ⟨hentry, fun heq => hne (heq ▸ hnumber)⟩
  rows row hrow := ⟨row, hrow, rfl, rfl⟩
  holds _ _ _ _ _ _ h := h
  commands _ h := h
  jobs _ _ h := h

theorem mem_held_check {patchKeys : List String} {entry : Nat × Target}
    (hentry : entry ∈ (execPatch (.check companyId assetId patchKeys) s).held) :
    entry ∈ s.held ∨ entry.1 = s.started ∧ Missing s entry.2 := by
  rw [execPatch] at hentry
  dsimp only at hentry
  split at hentry
  next hmissing =>
    obtain hnew | hold := List.mem_append.mp hentry
    · obtain ⟨target, htarget, rfl⟩ := List.mem_map.mp hnew
      obtain ⟨patchKey, hkey, rfl⟩ := List.mem_map.mp htarget
      exact .inr ⟨rfl, missing_of_check hmissing patchKey hkey⟩
    · exact .inl hold
  next => exact .inl hentry

theorem kept_check (h : Kept s) (patchKeys : List String) :
    Kept (execPatch (.check companyId assetId patchKeys) s) := by
  refine h.same rfl rfl (fun entry hentry => ?_) (fun entry hentry => ?_) fun entry hentry =>
    Nat.lt_succ_of_lt (h.stored entry hentry)
  · obtain hold | ⟨-, hnew⟩ := mem_held_check hentry
    · exact h.missing entry hold
    · exact hnew
  · change entry.1 < s.started + 1
    obtain hold | ⟨hnumber, -⟩ := mem_held_check hentry
    · exact Nat.lt_succ_of_lt (h.held entry hold)
    · omega

theorem respects_check (patchKeys : List String) :
    Respects other s (execPatch (.check companyId assetId patchKeys) s) where
  started := Nat.le_succ _
  stored _ _ := Iff.rfl
  held entry hentry _ := by
    rw [execPatch]
    dsimp only
    split
    · exact List.mem_append_right _ hentry
    · exact hentry
  rows row hrow := ⟨row, hrow, rfl, rfl⟩
  holds _ _ _ _ _ _ h := h
  commands _ h := h
  jobs _ _ h := h

theorem kept_begin (h : Kept s) (patches : List Listed) :
    Kept (execPatch (.beginIngest companyId assetId patches) s) :=
  h.same rfl rfl h.missing (fun entry hentry => Nat.lt_succ_of_lt (h.held entry hentry))
    fun entry hentry => Nat.lt_succ_of_lt (h.stored entry hentry)

theorem respects_begin (patches : List Listed) :
    Respects other s (execPatch (.beginIngest companyId assetId patches) s) where
  started := Nat.le_succ _
  stored _ _ := Iff.rfl
  held _ hentry _ := hentry
  rows row hrow := ⟨row, hrow, rfl, rfl⟩
  holds _ _ _ _ _ _ h := h
  commands _ h := h
  jobs _ _ h := h

section Write

variable {ingest : Nat} {target : Target} {values : PatchValues} {existing : Option Nat}
  {rest : List Listed}

theorem exec_raced (h : raced target existing s = true) :
    execPatch (.write ingest target values existing rest) s = s :=
  if_pos h

theorem exec_write (h : ¬ raced target existing s = true) :
    execPatch (.write ingest target values existing rest) s =
      { storeRow target values existing s with stored := (ingest, target) :: s.stored } :=
  if_neg h

theorem clear_write (hclear : Clear (.write ingest target values existing rest) s)
    (hraced : ¬ raced target existing s = true) :
    (∀ listed ∈ rest, planned P listed ≠ .broken) ∧
      (∀ entry ∈ s.stored, P.fold entry.2 = P.fold target → entry.1 = ingest) ∧
        (values.status = .installed → ∀ entry ∈ s.held, P.fold entry.2 ≠ P.fold target) := by
  rw [Clear, if_neg hraced] at hclear
  exact hclear

theorem kept_write (h : Kept s) (hnumber : ingest < s.started)
    (hraced : ¬ raced target existing s = true) (hknown : Known s target existing)
    (hclear : Clear (.write ingest target values existing rest) s) :
    Kept (execPatch (.write ingest target values existing rest) s) := by
  obtain ⟨hcommands, hjobs, hstarted, hheld⟩ := storeRow_frame target values existing s
  obtain ⟨-, -, hinstalled⟩ := clear_write hclear hraced
  rw [exec_write hraced]
  refine h.same hcommands hjobs (fun entry hentry => ?_) (fun entry hentry => ?_)
    fun entry hentry => ?_
  · have hentry : entry ∈ s.held := hheld ▸ hentry
    exact missing_storeRow hknown hraced (fun hstatus => hinstalled hstatus entry hentry)
      (h.missing entry hentry)
  · have hentry : entry ∈ s.held := hheld ▸ hentry
    exact hstarted.symm ▸ h.held entry hentry
  · change entry.1 < (storeRow target values existing s).started
    rw [hstarted]
    obtain rfl | hentry := List.mem_cons.mp hentry
    · exact hnumber
    · exact h.stored entry hentry

theorem respects_write (hraced : ¬ raced target existing s = true)
    (hknown : Known s target existing)
    (hclear : Clear (.write ingest target values existing rest) s)
    (hne : other.number ≠ some ingest) :
    Respects other s (execPatch (.write ingest target values existing rest) s) := by
  obtain ⟨hcommands, hjobs, hstarted, hheld⟩ := storeRow_frame target values existing s
  obtain ⟨-, hothers, -⟩ := clear_write hclear hraced
  rw [exec_write hraced]
  refine ⟨Nat.le_of_eq hstarted.symm, fun entry hnumber => ?_, fun entry hentry _ => ?_,
    fun row hrow => storeRow_rows target values existing hrow, fun entry hentry hnumber => ?_,
    fun command hcommand => ?_, fun command _ hnone => ?_⟩
  · refine ⟨fun hentry => ?_, List.mem_cons_of_mem _⟩
    obtain rfl | hentry := List.mem_cons.mp hentry
    · exact absurd hnumber hne
    · exact hentry
  · exact hheld.symm ▸ hentry
  · intro target' values' hfold hholds
    refine holds_storeRow hknown (fun heq => hne ?_) hholds
    rw [← hothers entry hentry (hfold ▸ heq), hnumber]
  · exact hcommands.symm ▸ hcommand
  · intro job hjob
    exact hnone job (hjobs ▸ hjob)

end Write

section Jobs

variable {command : MdmCommand} {job : Nat} {completes : Bool}

theorem missedBy_nil (h : ∀ patchKey ∈ command.patchKeys,
    Missing s ⟨command.companyId, command.assetId, patchKey⟩) : missedBy command s = [] := by
  rw [missedBy, List.filter_eq_nil_iff]
  intro patchKey hkey
  rw [isMissing_iff.mpr (h patchKey hkey)]
  exact Bool.false_ne_true

theorem kept_queue (h : Kept s) (hheld : ∀ patchKey ∈ command.patchKeys,
    (job, ⟨command.companyId, command.assetId, patchKey⟩) ∈ s.held) :
    Kept (execPatch (.queue job command completes) s) := by
  have hmissed : missedBy command s = [] := missedBy_nil fun patchKey hkey =>
    h.missing _ (hheld patchKey hkey)
  refine ⟨h.numbered.append fun other hother heq => ?_, fun row hrow => ?_, fun row hrow => ?_,
    fun other hother id hid => Nat.lt_succ_of_lt (h.drawn other hother id hid),
    fun entry hentry => h.missing entry (mem_others.mp hentry).1,
    fun entry hentry => h.held entry (mem_others.mp hentry).1, h.stored⟩
  · exact Nat.ne_of_lt (s.commands.below other hother) heq
  · obtain hold | hnew := List.mem_append.mp hrow
    · exact h.clean row hold
    · rw [List.mem_singleton.mp hnew]
      exact hmissed
  · obtain hold | hnew := List.mem_append.mp hrow
    · exact h.recorded row hold
    · rw [List.mem_singleton.mp hnew]
      exact .inr fun other hother hid => Nat.lt_irrefl _ (h.drawn other hother _ hid)

theorem respects_queue (hne : other.number ≠ some job) :
    Respects other s (execPatch (.queue job command completes) s) where
  started := Nat.le_refl _
  stored _ _ := Iff.rfl
  held _ hentry hnumber := mem_others.mpr ⟨hentry, fun heq => hne (heq ▸ hnumber)⟩
  rows row hrow := ⟨row, hrow, rfl, rfl⟩
  holds _ _ _ _ _ _ h := h
  commands _ h := List.mem_append_left _ h
  jobs _ _ h := h

variable {row : PatchJob}

theorem kept_insertJob (h : Kept s) (hcommand : command ∈ s.commands.rows)
    (hnone : Unrecorded s command.id) (hid : row.commandId = some command.id)
    (hcompany : row.companyId = command.companyId) (hasset : row.assetId = command.assetId)
    (hkeys : row.patchKeys = command.patchKeys) : Kept (execPatch (.insertJob row) s) := by
  refine ⟨h.numbered, h.clean, fun other hother => ?_, fun job hjob id hjobId => ?_, h.missing,
    h.held, h.stored⟩
  · by_cases hsame : other.id = command.id
    · obtain rfl := h.numbered.eq_of_key hother hcommand hsame
      refine .inl ⟨row, ?_, hcompany, hasset, hkeys⟩
      have hothers : s.jobs.filter (fun job => job.commandId = some other.id) = [] := by
        rw [List.filter_eq_nil_iff]
        exact fun job hjob heq => hnone job hjob (of_decide_eq_true heq)
      change (row :: s.jobs).filter _ = [row]
      rw [List.filter_cons, if_pos (decide_eq_true hid), hothers]
    · have hne : row.commandId ≠ some other.id := fun heq =>
        hsame (Option.some.inj (heq.symm.trans hid))
      obtain ⟨job, hjobs, hmatches⟩ | hnone' := h.recorded other hother
      · refine .inl ⟨job, ?_, hmatches⟩
        change (row :: s.jobs).filter _ = [job]
        rw [List.filter_cons, if_neg (by simpa using hne), hjobs]
      · refine .inr fun job hjob => ?_
        obtain rfl | hjob := List.mem_cons.mp hjob
        · exact hne
        · exact hnone' job hjob
  · obtain rfl | hjob := List.mem_cons.mp hjob
    · obtain rfl := Option.some.inj (hid.symm.trans hjobId)
      exact s.commands.below command hcommand
    · exact h.drawn job hjob id hjobId

theorem respects_insertJob {id : Nat} (hid : row.commandId = some id)
    (hne : other.command ≠ some id) : Respects other s (execPatch (.insertJob row) s) where
  started := Nat.le_refl _
  stored _ _ := Iff.rfl
  held _ hentry _ := hentry
  rows row hrow := ⟨row, hrow, rfl, rfl⟩
  holds _ _ _ _ _ _ h := h
  commands _ h := h
  jobs command hcommand hnone job hjob hjobId := by
    obtain rfl | hjob := List.mem_cons.mp hjob
    · exact hne (hcommand.trans (hjobId.symm.trans hid))
    · exact hnone job hjob hjobId

end Jobs
end Effects

section Steps

/-- What a statement does to the phase of its operation. -/
inductive Moves (s : PatchStore P) : Phase → PatchOp → Phase → Prop
  | read : Moves s .idle .read .idle
  | beginIngest (companyId assetId : String) (patches : List Listed) :
      Moves s .idle (.beginIngest companyId assetId patches)
        (.storing s.started companyId assetId patches [] (patches.take 1000) [])
  | refuse (companyId assetId : String) (patchKeys : List String) :
      Moves s .idle (.check companyId assetId patchKeys) .idle
  | check {companyId assetId : String} {patchKeys : List String}
      (hmissing : allMissing companyId assetId patchKeys s = true) :
      Moves s .idle (.check companyId assetId patchKeys)
        (.checked s.started companyId assetId patchKeys)
  | look (ingest : Nat) (companyId assetId : String) (patches : List Listed)
      (before : List (String × PatchValues)) (rest : List Listed) (seen : List (Nat × Target)) :
      Moves s (.storing ingest companyId assetId patches before rest seen) .read
        (.storing ingest companyId assetId patches before rest
          (s.inventory.rows.map fun row => (row.id, row.target)))
  | race {ingest : Nat} {companyId assetId : String} {patches : List Listed}
      {before : List (String × PatchValues)} {rest rest' : List Listed} {seen : List (Nat × Target)}
      {target : Target} {values : PatchValues} {existing : Option Nat}
      (hraced : raced target existing s = true) :
      Moves s (.storing ingest companyId assetId patches before rest seen)
        (.write ingest target values existing rest') (.raced ingest)
  | write {ingest : Nat} {companyId assetId : String} {patches : List Listed}
      {before : List (String × PatchValues)} {rest rest' : List Listed} {seen : List (Nat × Target)}
      {target : Target} {values : PatchValues} {existing : Option Nat}
      (hraced : ¬ raced target existing s = true)
      (hexpected : Expected P companyId assetId rest seen target values existing rest') :
      Moves s (.storing ingest companyId assetId patches before rest seen)
        (.write ingest target values existing rest')
        (.storing ingest companyId assetId patches ((target.patchKey, values) :: before) rest' [])
  | returnIngest {ingest : Nat} {companyId assetId : String} {patches : List Listed}
      {before : List (String × PatchValues)} {rest : List Listed} {seen : List (Nat × Target)}
      (hskipped : ∀ listed ∈ rest, planned P listed = .skipped) :
      Moves s (.storing ingest companyId assetId patches before rest seen)
        (.returnIngest ingest companyId assetId patches) .idle
  | throwIngest {ingest : Nat} {companyId assetId : String} {patches : List Listed}
      {before : List (String × PatchValues)} {rest : List Listed} {seen : List (Nat × Target)}
      (hbroken : before = [] ∨ ∃ listed ∈ rest, planned P listed = .broken) :
      Moves s (.storing ingest companyId assetId patches before rest seen) (.throwIngest ingest)
        .idle
  | throwRaced (ingest : Nat) : Moves s (.raced ingest) (.throwIngest ingest) .idle
  | await (job : Nat) (companyId assetId : String) (patchKeys : List String) :
      Moves s (.checked job companyId assetId patchKeys) .read
        (.checked job companyId assetId patchKeys)
  | giveUp (job : Nat) (companyId assetId : String) (patchKeys : List String) :
      Moves s (.checked job companyId assetId patchKeys) (.giveUp job) .idle
  | lose (job : Nat) (command : MdmCommand) :
      Moves s (.checked job command.companyId command.assetId command.patchKeys)
        (.queue job command false) .lost
  | queue (job : Nat) (command : MdmCommand) :
      Moves s (.checked job command.companyId command.assetId command.patchKeys)
        (.queue job command true)
        (.queued s.commands.drawn command.companyId command.assetId command.patchKeys)
  | insertJob {command : Nat} {job : PatchJob} (hcommand : job.commandId = some command) :
      Moves s (.queued command job.companyId job.assetId job.patchKeys) (.insertJob job) .idle

variable {s : PatchStore P} {phase phase' other : Phase} {op : PatchOp}

theorem moves_of_patching (h : patching P phase op s = some phase') : Moves s phase op phase' := by
  cases phase with
  | idle =>
    cases op with
    | read => exact Option.some.inj h ▸ .read
    | beginIngest companyId assetId patches =>
      exact Option.some.inj h ▸ .beginIngest companyId assetId patches
    | check companyId assetId patchKeys =>
      have heq := Option.some.inj h
      split at heq
      next hmissing => exact heq ▸ .check hmissing
      next => exact heq ▸ .refuse companyId assetId patchKeys
    | _ => cases h
  | storing ingest companyId assetId patches before rest seen =>
    cases op with
    | read => exact Option.some.inj h ▸ .look ingest companyId assetId patches before rest seen
    | write ingest' target values existing rest' =>
      obtain ⟨⟨rfl, hexpected⟩, heq⟩ := of_whenever h
      split at heq
      next hraced => exact heq ▸ .race hraced
      next hraced => exact heq ▸ .write hraced hexpected
    | returnIngest ingest' companyId' assetId' patches' =>
      obtain ⟨⟨rfl, rfl, rfl, rfl, hskipped⟩, heq⟩ := of_whenever h
      exact heq ▸ .returnIngest hskipped
    | throwIngest ingest' =>
      obtain ⟨⟨rfl, hbroken⟩, heq⟩ := of_whenever h
      exact heq ▸ .throwIngest hbroken
    | _ => cases h
  | raced ingest =>
    cases op with
    | throwIngest ingest' =>
      obtain ⟨rfl, heq⟩ := of_whenever h
      exact heq ▸ .throwRaced ingest'
    | _ => cases h
  | checked job companyId assetId patchKeys =>
    cases op with
    | read => exact Option.some.inj h ▸ .await job companyId assetId patchKeys
    | giveUp job' =>
      obtain ⟨rfl, heq⟩ := of_whenever h
      exact heq ▸ .giveUp job' companyId assetId patchKeys
    | queue job' command completes =>
      obtain ⟨⟨rfl, rfl, rfl, rfl⟩, heq⟩ := of_whenever h
      cases completes with
      | false => exact heq ▸ .lose job' command
      | true => exact heq ▸ .queue job' command
    | _ => cases h
  | queued command companyId assetId patchKeys =>
    cases op with
    | insertJob job =>
      obtain ⟨⟨hcommand, rfl, rfl, rfl⟩, heq⟩ := of_whenever h
      exact heq ▸ .insertJob hcommand
    | _ => cases h
  | lost => cases op <;> cases h

theorem Storing.knows {ingest : Nat} {companyId assetId : String} {patches rest rest' : List Listed}
    {before : List (String × PatchValues)} {seen : List (Nat × Target)} {target : Target}
    {values : PatchValues} {existing : Option Nat}
    (h : Storing s ingest companyId assetId patches before rest seen)
    (hexpected : Expected P companyId assetId rest seen target values existing rest') :
    Known s target existing := by
  intro id hid
  obtain ⟨-, -, -, hseen⟩ := hexpected
  obtain ⟨other, hother, hfold⟩ := hseen id hid
  obtain ⟨row, hrow, hrowId, hrowTarget⟩ := h.known _ hother
  exact ⟨row, hrow, hrowId, hrowTarget ▸ hfold⟩

theorem storedOf_append (patches more : List Json) :
    storedOf P (patches ++ more) = storedOf P patches ++ storedOf P more :=
  List.filterMap_append

theorem entryOf_skipped {listed : Listed} (h : planned P listed = .skipped) :
    entryOf P listed.1 = .skipped := by
  rw [planned] at h
  split at h
  · split at h <;> cases h
  next hentry => exact hentry
  next => cases h

theorem entryOf_planned {listed : Listed} {patchKey : String} {values : PatchValues}
    (h : planned P listed = .valid patchKey values) : entryOf P listed.1 = .valid patchKey values := by
  rw [planned] at h
  split at h
  next hentry =>
    split at h
    · cases h
    · exact hentry.trans h
  next => cases h
  next => cases h

theorem storedOf_skipped {listed : List Listed}
    (h : ∀ other ∈ listed, planned P other = .skipped) : storedOf P (listed.map Prod.fst) = [] := by
  rw [storedOf, List.filterMap_map, List.filterMap_eq_nil_iff]
  intro other hother
  change (entryOf P other.1).stored = none
  rw [entryOf_skipped (h other hother)]
  rfl

theorem passed_write {patches rest rest' : List Listed} {before : List (String × PatchValues)}
    {patchKey : String} {values : PatchValues} (hnext : Next P rest patchKey values rest')
    (h : ∃ passed, patches.take 1000 = passed ++ rest ∧
      (∀ listed ∈ passed, planned P listed ≠ .broken) ∧
        before = (storedOf P (passed.map Prod.fst)).reverse) :
    ∃ passed, patches.take 1000 = passed ++ rest' ∧
      (∀ listed ∈ passed, planned P listed ≠ .broken) ∧
        (patchKey, values) :: before = (storedOf P (passed.map Prod.fst)).reverse := by
  obtain ⟨skipped, listed, rfl, hskipped, hlisted⟩ := hnext
  obtain ⟨passed, htake, hsound, rfl⟩ := h
  refine ⟨passed ++ (skipped ++ [listed]), ?_, fun other hother => ?_, ?_⟩
  · rw [htake, List.append_assoc, List.append_assoc, List.singleton_append]
  · obtain hother | hother := List.mem_append.mp hother
    · exact hsound other hother
    · obtain hother | hother := List.mem_append.mp hother
      · rw [hskipped other hother]
        exact Entry.noConfusion
      · rw [List.mem_singleton.mp hother, hlisted]
        exact Entry.noConfusion
  · have hone : storedOf P [listed.1] = [(patchKey, values)] := by
      rw [storedOf, List.filterMap_cons, entryOf_planned hlisted]
      rfl
    rw [List.map_append, List.map_append, storedOf_append, storedOf_append, storedOf_skipped hskipped,
      List.nil_append, List.map_singleton, hone, List.reverse_append]
    rfl

theorem storing_write {ingest : Nat} {companyId assetId : String} {patches rest rest' : List Listed}
    {before : List (String × PatchValues)} {seen : List (Nat × Target)} {target : Target}
    {values : PatchValues} {existing : Option Nat}
    (h : Storing s ingest companyId assetId patches before rest seen)
    (hraced : ¬ raced target existing s = true)
    (hexpected : Expected P companyId assetId rest seen target values existing rest')
    (hclear : Clear (.write ingest target values existing rest') s) :
    Storing (execPatch (.write ingest target values existing rest') s) ingest companyId assetId
      patches ((target.patchKey, values) :: before) rest' [] := by
  have hknown := h.knows hexpected
  obtain ⟨hcompany, hasset, hnext, -⟩ := hexpected
  obtain ⟨-, -, hstarted, -⟩ := storeRow_frame target values existing s
  have htarget : target = ⟨companyId, assetId, target.patchKey⟩ := by rw [← hcompany, ← hasset]
  rw [exec_write hraced]
  refine ⟨hstarted.symm ▸ h.number, fun hnil => absurd hnil (List.cons_ne_nil _ _),
    fun _ => (clear_write hclear hraced).1, fun entry hentry => ?_, fun patchKey entry hnewest => ?_, passed_write hnext h.passed,
    fun entry hentry => absurd hentry List.not_mem_nil⟩
  · obtain rfl | hentry := List.mem_cons.mp hentry
    · rw [← htarget]
      exact List.mem_cons_self
    · exact List.mem_cons_of_mem _ (h.stored entry hentry)
  · change Holds (storeRow target values existing s) ⟨companyId, assetId, patchKey⟩ entry.2
    rw [newest, List.find?_cons] at hnewest
    split at hnewest
    next hkey =>
      obtain rfl := Option.some.inj hnewest
      refine (storeRow_holds hknown hraced).congr ?_
      rw [htarget]
      exact fold_key (of_decide_eq_true hkey)
    next hkey =>
      refine holds_storeRow hknown (fun heq => ?_) (h.holds patchKey entry hnewest)
      have hcollate : P.collate patchKey = P.collate target.patchKey := congrArg Target.patchKey heq
      rw [decide_eq_true hcollate.symm] at hkey
      cases hkey

theorem keeps_law (hkept : Kept s) (hclear : Clear op s) (hfits : Fits s phase)
    (hmoves : Moves s phase op phase') : Kept (execPatch op s) ∧ Fits (execPatch op s) phase' := by
  cases hmoves with
  | read => exact ⟨hkept, trivial⟩
  | beginIngest companyId assetId patches =>
    refine ⟨kept_begin hkept patches, Nat.lt_succ_self _, fun _ entry hentry heq => ?_,
      fun hbefore => absurd rfl hbefore, fun entry hentry => absurd hentry List.not_mem_nil, fun patchKey entry hnewest => ?_,
      ⟨[], rfl, fun _ h => absurd h List.not_mem_nil, rfl⟩,
      fun entry hentry => absurd hentry List.not_mem_nil⟩
    · exact Nat.ne_of_lt (hkept.stored entry hentry) heq
    · cases hnewest
  | refuse companyId assetId patchKeys => exact ⟨kept_check hkept patchKeys, trivial⟩
  | @check companyId assetId patchKeys hmissing =>
    refine ⟨kept_check hkept patchKeys, Nat.lt_succ_self _, fun patchKey hkey => ?_⟩
    rw [execPatch]
    dsimp only
    rw [if_pos hmissing]
    refine List.mem_append_left _ (List.mem_map.mpr ⟨_, List.mem_map_of_mem hkey, rfl⟩)
  | look ingest companyId assetId patches before rest seen =>
    refine ⟨hkept, hfits.number, hfits.fresh, hfits.sound, hfits.stored, hfits.holds, hfits.passed,
      fun entry hentry => ?_⟩
    obtain ⟨row, hrow, rfl⟩ := List.mem_map.mp hentry
    exact ⟨row, hrow, rfl, rfl⟩
  | race hraced =>
    rw [exec_raced hraced]
    rw [Clear, if_pos hraced] at hclear
    exact ⟨hkept, hfits.number, hclear⟩
  | write hraced hexpected =>
    exact ⟨kept_write hkept hfits.number hraced (hfits.knows hexpected) hclear,
      storing_write hfits hraced hexpected hclear⟩
  | returnIngest => exact ⟨kept_forget hkept _, trivial⟩
  | throwIngest | throwRaced => exact ⟨kept_forget hkept _, trivial⟩
  | await => exact ⟨hkept, hfits⟩
  | giveUp job => exact ⟨kept_giveUp hkept job, trivial⟩
  | lose => exact Bool.noConfusion (hclear : false = true)
  | queue job command =>
    refine ⟨kept_queue hkept hfits.2, ⟨_, List.mem_append_right _ (List.mem_singleton_self _), rfl,
      rfl, rfl, rfl⟩, fun other hother hid => ?_⟩
    exact Nat.lt_irrefl _ (hkept.drawn other hother _ hid)
  | insertJob hcommand =>
    obtain ⟨⟨row, hrow, rfl, hcompany, hasset, hkeys⟩, hnone⟩ := hfits
    exact ⟨kept_insertJob hkept hrow hnone hcommand hcompany.symm hasset.symm hkeys.symm, trivial⟩

theorem respects_refl : Respects other s s :=
  ⟨Nat.le_refl _, fun _ _ => Iff.rfl, fun _ h _ => h, fun row h => ⟨row, h, rfl, rfl⟩,
    fun _ _ _ _ _ _ h => h, fun _ h => h, fun _ _ h => h⟩

theorem keeps_respects (hclear : Clear op s) (hfits : Fits s phase)
    (hmoves : Moves s phase op phase') (hapart : Apart phase other) :
    Respects other s (execPatch op s) := by
  cases hmoves with
  | read | look | await => exact respects_refl
  | beginIngest companyId assetId patches => exact respects_begin patches
  | refuse companyId assetId patchKeys => exact respects_check patchKeys
  | @check companyId assetId patchKeys => exact respects_check patchKeys
  | race hraced => exact (exec_raced hraced).symm ▸ respects_refl
  | write hraced hexpected =>
    exact respects_write hraced (hfits.knows hexpected) hclear (hapart.1 _ rfl)
  | returnIngest | throwIngest | throwRaced => exact respects_forget (hapart.1 _ rfl)
  | giveUp => exact respects_giveUp (hapart.1 _ rfl)
  | lose | queue => exact respects_queue (hapart.1 _ rfl)
  | insertJob hcommand => exact respects_insertJob hcommand (hapart.2 _ rfl)

theorem keeps_apart (hmoves : Moves s phase op phase') (hother : Fits s other)
    (hapart : Apart phase other) : Apart phase' other := by
  cases hmoves with
  | read | refuse | returnIngest | throwIngest | throwRaced | giveUp | lose | insertJob =>
    exact ⟨fun _ h => (by cases h), fun _ h => (by cases h)⟩
  | beginIngest | check =>
    refine ⟨fun number hnumber hsame => ?_, fun _ h => by cases h⟩
    obtain rfl := Option.some.inj hnumber
    exact Nat.lt_irrefl _ (hother.number_lt hsame)
  | look | race | write | await => exact hapart
  | queue job command =>
    refine ⟨fun _ h => (by cases h), fun command hcommand hsame => ?_⟩
    obtain rfl := Option.some.inj hcommand
    exact Nat.lt_irrefl _ (hother.command_lt hsame)

theorem separate_patches (P : PatchPlatform) :
    Separate (patchSystem P) Clear (patching P) Ended .idle Kept Fits Apart where
  handler _ req _ := (conforms_handler req).mono fun _ _ _ => trivial
  symm h := ⟨fun number hother hphase => h.1 number hphase hother,
    fun command hother hphase => h.2 command hphase hother⟩
  apart _ := ⟨fun _ _ h => (by cases h), fun _ _ h => (by cases h)⟩
  start _ _ := trivial
  exec _ _ _ _ hkept hclear hfits hadvance :=
    keeps_law hkept hclear hfits (moves_of_patching hadvance)
  frame _ _ _ _ _ _ hclear hfits hadvance hother hapart :=
    ⟨hother.respected (keeps_respects hclear hfits (moves_of_patching hadvance) hapart),
      keeps_apart (moves_of_patching hadvance) hother hapart⟩
  tick s hkept :=
    ⟨⟨hkept.numbered, hkept.clean, hkept.recorded, hkept.drawn, hkept.missing, hkept.held,
      hkept.stored⟩, fun phase hfits => hfits.respected ⟨Nat.le_refl _, fun _ _ => Iff.rfl,
        fun _ h _ => h, fun row h => ⟨row, h, rfl, rfl⟩, fun _ _ _ _ _ _ h => h, fun _ h => h,
        fun _ _ h => h⟩⟩

end Steps

section Runs

def Unfinished (s : PatchStore P) (command : Nat) : Prop :=
  (∃ row ∈ s.commands.rows, row.id = command) ∧ Unrecorded s command

def Phase.owns (phase : Phase) (command : Nat) : Prop :=
  phase.command = some command

variable {s : PatchStore P} {phase phase' : Phase} {op : PatchOp}

theorem unfinished_attended (hclear : Clear op s) (hmoves : Moves s phase op phase') {command : Nat}
    (h : Unfinished (execPatch op s) command) :
    phase'.owns command ∨ Unfinished s command ∧ ¬ phase.owns command := by
  cases hmoves with
  | read | beginIngest | refuse | check | look | returnIngest | throwIngest | throwRaced | await
  | giveUp => exact .inr ⟨h, fun howns => by cases howns⟩
  | race hraced =>
    rw [exec_raced hraced] at h
    exact .inr ⟨h, fun howns => by cases howns⟩
  | @write ingest companyId assetId patches before rest rest' seen target values existing hraced =>
    obtain ⟨hcommands, hjobs, -, -⟩ := storeRow_frame target values existing s
    rw [exec_write hraced] at h
    refine .inr ⟨⟨?_, fun job hjob => h.2 job (hjobs.symm ▸ hjob)⟩, fun howns => by cases howns⟩
    exact hcommands ▸ h.1
  | lose => exact Bool.noConfusion (hclear : false = true)
  | queue job row =>
    obtain ⟨⟨other, hother, hid⟩, hnone⟩ := h
    obtain hold | hnew := List.mem_append.mp hother
    · exact .inr ⟨⟨⟨other, hold, hid⟩, hnone⟩, fun howns => by cases howns⟩
    · rw [List.mem_singleton.mp hnew] at hid
      exact .inl (congrArg some hid)
  | @insertJob id job hcommand =>
    refine .inr ⟨⟨h.1, fun other hother => h.2 other (List.mem_cons_of_mem _ hother)⟩,
      fun howns => ?_⟩
    exact h.2 job List.mem_cons_self (hcommand.trans howns)

theorem attended_patches (P : PatchPlatform) :
    Attended (patchSystem P) Clear (patching P) Kept Fits Unfinished Phase.owns where
  exec _ _ _ _ _ hclear _ hadvance _ :=
    unfinished_attended hclear (moves_of_patching hadvance)
  tick _ _ h := h

theorem records_of_owns {p : PatchProgram P} {command : Nat}
    (hconforms : p.Conforms Anything (patching P) Ended phase) (howns : phase.owns command)
    (s : PatchStore P) : ∃ op next, p = .step op next ∧ op.records command := by
  cases phase with
  | idle | storing | raced | checked | lost => cases howns
  | queued id companyId assetId patchKeys =>
    cases p with
    | done => exact (hconforms : False).elim
    | fail => exact (hconforms : False).elim
    | step op next =>
      obtain ⟨phase', hadvance, -⟩ := hconforms s trivial
      refine ⟨op, next, rfl, ?_⟩
      cases moves_of_patching hadvance with
      | insertJob hcommand => exact hcommand.trans howns

theorem honest_of_fits {next : PatchStore P → PatchProgram P} (hclear : Clear op s)
    (hconforms : (Prog.step op next).Conforms Anything (patching P) Ended phase)
    (hfits : Fits s phase) : Honest op s := by
  obtain ⟨phase', hadvance, -⟩ := hconforms s trivial
  have hmoves := moves_of_patching hadvance
  cases op with
  | throwIngest ingest =>
    cases hmoves with
    | throwRaced => exact hfits.2
    | @throwIngest _ _ _ _ before rest _ hbroken =>
      refine hfits.fresh (Classical.byContradiction fun hbefore => ?_)
      obtain hnil | ⟨listed, hlisted, hlistedBroken⟩ := hbroken
      · exact hbefore hnil
      · exact hfits.sound hbefore listed hlisted hlistedBroken
  | returnIngest ingest companyId assetId patches =>
    cases hmoves with
    | @returnIngest _ _ _ _ before rest _ hskipped =>
      intro patchKey values hlast
      rw [hclear patchKey] at hlast
      obtain ⟨passed, htake, -, rfl⟩ := hfits.passed
      rw [lastValid, htake, List.map_append, storedOf_append, storedOf_skipped hskipped,
        List.append_nil] at hlast
      obtain ⟨entry, hnewest, rfl⟩ := Option.map_eq_some_iff.mp hlast
      exact hfits.holds patchKey entry hnewest
  | read | beginIngest | write | check | giveUp | queue | insertJob => trivial

/-- Before anything is under way: the commands have their jobs. -/
structure Settled (s : PatchStore P) : Prop where
  numbered : Distinct MdmCommand.id s.commands.rows
  clean : ∀ command ∈ s.commands.rows, command.missed = []
  recorded : ∀ command ∈ s.commands.rows, Recorded s command
  drawn : ∀ job ∈ s.jobs, ∀ id, job.commandId = some id → id < s.commands.drawn
  held : s.held = []
  stored : s.stored = []

theorem Settled.kept (h : Settled s) : Kept s := by
  refine ⟨h.numbered, h.clean, fun command hcommand => .inl (h.recorded command hcommand), h.drawn,
    ?_, ?_, ?_⟩
  · rw [h.held]
    exact fun _ hentry => absurd hentry List.not_mem_nil
  · rw [h.held]
    exact fun _ hentry => absurd hentry List.not_mem_nil
  · rw [h.stored]
    exact fun _ hentry => absurd hentry List.not_mem_nil

theorem Settled.finished (h : Settled s) (command : Nat) : ¬ Unfinished s command := by
  rintro ⟨⟨row, hrow, rfl⟩, hnone⟩
  obtain ⟨job, hjobs, -⟩ := h.recorded row hrow
  have hjob : job ∈ s.jobs.filter fun other => other.commandId = some row.id :=
    hjobs ▸ List.mem_singleton_self job
  obtain ⟨hmem, hid⟩ := List.mem_filter.mp hjob
  exact hnone job hmem (of_decide_eq_true hid)

/-- What is consistent of the inventory, the commands and the jobs while these operations are under
way: no command was queued for a patch that was not missing, each has exactly one job or is about to
have it, and what an ingest is about to reply is so. -/
structure Consistent (c : Config (PatchStore P) PatchOp) : Prop where
  missing : ∀ command ∈ c.shared.commands.rows, command.missed = []
  recorded : ∀ command ∈ c.shared.commands.rows, Recorded c.shared command ∨
    ∃ op next, Prog.step op next ∈ c.threads ∧ op.records command.id
  honest : ∀ op next, Prog.step op next ∈ c.threads → Clear op c.shared → Honest op c.shared

/-- Every run whose statements are clear is consistent throughout. -/
theorem consistent_when_clear (P : PatchPlatform) {c₀ c : Config (PatchStore P) PatchOp}
    (hidle : c₀.threads = []) (hsettled : Settled c₀.shared)
    (hrun : (patchSystem P).Run Clear c₀ c) : Consistent c := by
  have hnone : ∀ phase ∈ ([] : List Phase), Fits c₀.shared phase :=
    fun _ hphase => absurd hphase List.not_mem_nil
  obtain ⟨entries, hthreads, hconforms, ⟨hkept, hfits, -⟩, hattended⟩ :=
    ((separate_patches P).attended (attended_patches P)).phased_of
      (fun _ req _ => conforms_handler req) (fun _ _ _ => trivial) hidle hrun
      ⟨⟨hsettled.kept, hnone, by simp⟩, fun command h => absurd h (hsettled.finished command)⟩
  refine ⟨hkept.clean, fun command hcommand => ?_, fun op next hthread hclear => ?_⟩
  · refine (hkept.recorded command hcommand).imp_right fun hunrecorded => ?_
    obtain ⟨phase, hphase, howns⟩ := hattended command.id ⟨⟨command, hcommand, rfl⟩, hunrecorded⟩
    obtain ⟨⟨p, phase⟩, hentry, rfl⟩ := List.mem_map.mp hphase
    obtain ⟨op, next, hstep, hrecords⟩ := records_of_owns (hconforms _ hentry) howns c.shared
    have hthread : p ∈ c.threads := hthreads ▸ List.mem_map_of_mem hentry
    exact ⟨op, next, (hstep : p = _) ▸ hthread, hrecords⟩
  · rw [← hthreads] at hthread
    obtain ⟨⟨p, phase⟩, hentry, rfl⟩ := List.mem_map.mp hthread
    exact honest_of_fits hclear (hconforms _ hentry) (hfits phase (List.mem_map_of_mem hentry))

end Runs

section Samples

def sampleText : Json → String
  | .text value => value
  | .null | .bool _ | .number _ | .array _ | .object _ => ""

def samplePlatform : PatchPlatform :=
  ⟨sampleText, id, id, fun _ => none, id⟩

theorem no_rows : ∀ row ∈ ([] : List PatchRow), row.id < 0 :=
  fun _ hrow => absurd hrow List.not_mem_nil

theorem no_commands : ∀ command ∈ ([] : List MdmCommand), command.id < 0 :=
  fun _ hcommand => absurd hcommand List.not_mem_nil

def laptop : Config (PatchStore samplePlatform) PatchOp :=
  ⟨⟨[⟨"laptop", "acme", none⟩], [], ⟨[], 0, no_rows⟩, List.nodup_nil, List.nodup_nil,
    ⟨[], 0, no_commands⟩, [], 9, 0, [], []⟩, []⟩

theorem settled_laptop : Settled laptop.shared where
  numbered := List.nodup_nil
  clean _ h := absurd h List.not_mem_nil
  recorded _ h := absurd h List.not_mem_nil
  drawn _ h := absurd h List.not_mem_nil
  held := rfl
  stored := rfl

/-- `Clear`, as a test. -/
def isClear : PatchOp → PatchStore samplePlatform → Bool
  | .write ingest target values existing rest, s =>
    if raced target existing s then s.stored.all fun entry => decide (entry.1 ≠ ingest)
    else (rest.all fun listed => match planned samplePlatform listed with
        | .broken => false
        | .skipped | .valid .. => true) &&
      (s.stored.all fun entry => decide (samplePlatform.fold entry.2 = samplePlatform.fold target →
        entry.1 = ingest)) &&
        (!decide (values.status = .installed) || s.held.all fun entry =>
          decide (samplePlatform.fold entry.2 ≠ samplePlatform.fold target))
  | .returnIngest _ _ _ patches, _ => decide (patches.length ≤ 1000)
  | .queue _ _ completes, _ => completes
  | .read, _ | .beginIngest .., _ | .throwIngest _, _ | .check .., _ | .giveUp _, _
  | .insertJob _, _ => true

theorem clear_of_test {op : PatchOp} {s : PatchStore samplePlatform} (h : isClear op s = true) :
    Clear op s := by
  cases op with
  | write ingest target values existing rest =>
    rw [isClear] at h
    rw [Clear]
    split
    next hraced =>
      rw [if_pos hraced] at h
      exact fun entry hentry => of_decide_eq_true (List.all_eq_true.mp h entry hentry)
    next hraced =>
      rw [if_neg hraced, Bool.and_eq_true, Bool.and_eq_true] at h
      obtain ⟨⟨hrest, hstored⟩, hheld⟩ := h
      refine ⟨fun listed hlisted hbroken => ?_, fun entry hentry => of_decide_eq_true
        (List.all_eq_true.mp hstored entry hentry), fun hstatus entry hentry => ?_⟩
      · have hsound := List.all_eq_true.mp hrest listed hlisted
        rw [hbroken] at hsound
        exact Bool.noConfusion hsound
      · rw [decide_eq_true hstatus] at hheld
        exact of_decide_eq_true (List.all_eq_true.mp hheld entry hentry)
  | returnIngest ingest companyId assetId patches =>
    intro patchKey
    rw [List.take_of_length_le (of_decide_eq_true h)]
  | queue job command completes => exact h
  | read | beginIngest | throwIngest | check | giveUp | insertJob => trivial

def patchEntry (patchKey severity : String) : Listed :=
  (.object [("patchKey", .text patchKey), ("title", .text "Fix"), ("severity", .text severity)], none)

/-- A patch is reported and then a job for it created. -/
theorem patched : ∃ c : Config (PatchStore samplePlatform) PatchOp, Consistent c ∧
    c.shared.inventory.rows.map (fun row => row.target.patchKey) = ["KB1"] ∧
      c.shared.commands.rows.map MdmCommand.patchKeys = [["KB1"]] ∧
        c.shared.jobs.map PatchJob.commandId = [some 0] := by
  have hplay : ((patchSystem samplePlatform).play (fun _ _ => true) isClear laptop
      [.start (.ingestPatchInventory (some "acme") "laptop" [patchEntry "KB1" "LOW"]),
        .run 0, .run 0, .run 0, .run 0,
        .start (.createPatchJob (some "acme") "tom" ⟨"laptop", [.text "KB1"], none, false, none⟩ none),
        .run 1, .run 1, .run 1, .run 1, .run 1]).any
        (fun c => decide (c.shared.inventory.rows.map (fun row => row.target.patchKey) = ["KB1"]) &&
          decide (c.shared.commands.rows.map MdmCommand.patchKeys = [["KB1"]]) &&
          decide (c.shared.jobs.map PatchJob.commandId = [some 0])) = true := by
    decide
  obtain ⟨c, hrun, hcheck⟩ :=
    System.exists_run_of_play (fun _ _ _ => trivial) (fun _ _ => clear_of_test) hplay
  rw [Bool.and_eq_true, Bool.and_eq_true, decide_eq_true_iff, decide_eq_true_iff,
    decide_eq_true_iff] at hcheck
  exact ⟨c, consistent_when_clear samplePlatform rfl settled_laptop hrun, hcheck.1.1, hcheck.1.2,
    hcheck.2⟩

def isThrowing (c : Config (PatchStore samplePlatform) PatchOp) : Bool :=
  c.threads.any fun
    | .step (.throwIngest ingest) _ => c.shared.stored.any fun entry => entry.1 = ingest
    | _ => false

theorem inconsistent_of_throwing {c : Config (PatchStore samplePlatform) PatchOp}
    (h : isThrowing c = true) : ¬ Consistent c := by
  intro hconsistent
  obtain ⟨p, hp, htest⟩ := List.any_eq_true.mp h
  split at htest
  next ingest next =>
    obtain ⟨entry, hentry, hingest⟩ := List.any_eq_true.mp htest
    exact hconsistent.honest _ _ hp trivial entry hentry (of_decide_eq_true hingest)
  next => cases htest

/-- The second of two entries has a severity that is not supported, and the first is stored. -/
theorem half_stored : ¬ ∀ (P : PatchPlatform) (c₀ c : Config (PatchStore P) PatchOp),
    c₀.threads = [] → Settled c₀.shared → (patchSystem P).Run (fun _ _ => True) c₀ c →
      Consistent c := by
  intro hall
  have hplay : ((patchSystem samplePlatform).play (fun _ _ => true) (fun _ _ => true) laptop
      [.start (.ingestPatchInventory (some "acme") "laptop"
        [patchEntry "KB1" "LOW", patchEntry "KB2" "URGENT"]), .run 0, .run 0, .run 0]).any
        isThrowing = true := by
    decide
  obtain ⟨c, hrun, hcheck⟩ :=
    System.exists_run_of_play (fun _ _ _ => trivial) (fun _ _ _ => trivial) hplay
  exact inconsistent_of_throwing hcheck (hall samplePlatform laptop c rfl settled_laptop hrun)

end Samples
end FieldserviceIT.EndpointOperations
