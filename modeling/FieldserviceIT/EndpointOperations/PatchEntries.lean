import FieldserviceIT.EndpointOperations.Patches
import FieldserviceIT.Lib.Protocols

/-!
What the entries of a list of patches ask for, what is lawful of the inventory, the commands and the
jobs, and how far an operation has come. An ingest stores the valid entries in their order and
throws at the first that is broken; a job holds what it has found missing until its command is in
the queue.
-/

namespace FieldserviceIT.EndpointOperations

open Lib

variable (P : PatchPlatform)

section Entries

inductive Entry where
  | skipped
  | broken
  | valid (patchKey : String) (values : PatchValues)

def entryOf (patch : Json) : Entry :=
  if isNull patch then .broken
  else if patchKeyOf P patch = "" ∨ titleOf P patch = "" then .skipped
  else
    match severityOf P patch with
    | none => .broken
    | some severity =>
      match dateOrNull P (patch.property "releaseDate") with
      | none => .broken
      | some releaseDate => .valid (patchKeyOf P patch) (valuesOf P patch severity releaseDate)

def planned (listed : Listed) : Entry :=
  match entryOf P listed.1 with
  | .valid patchKey values => if listed.2.isSome then .broken else .valid patchKey values
  | .skipped => .skipped
  | .broken => .broken

def Entry.stored : Entry → Option (String × PatchValues)
  | valid patchKey values => some (patchKey, values)
  | skipped | broken => none

def storedOf (patches : List Json) : List (String × PatchValues) :=
  patches.filterMap fun patch => (entryOf P patch).stored

def newest (patchKey : String) (entries : List (String × PatchValues)) :
    Option (String × PatchValues) :=
  entries.find? fun entry => P.collate entry.1 = P.collate patchKey

def lastValid (patchKey : String) (patches : List Json) : Option PatchValues :=
  (newest P patchKey (storedOf P patches).reverse).map Prod.snd

def Next (rest : List Listed) (patchKey : String) (values : PatchValues) (rest' : List Listed) :
    Prop :=
  ∃ skipped listed, rest = skipped ++ listed :: rest' ∧
    (∀ other ∈ skipped, planned P other = .skipped) ∧ planned P listed = .valid patchKey values

end Entries

section Law

variable {P}

def Holds (s : PatchStore P) (target : Target) (values : PatchValues) : Prop :=
  ∃ row ∈ s.inventory.rows, P.fold row.target = P.fold target ∧ row.values = values ∧
    (row.installedAt.isSome = true ↔ values.status = .installed)

def Missing (s : PatchStore P) (target : Target) : Prop :=
  ∃ row ∈ s.inventory.rows, P.fold row.target = P.fold target ∧ row.values.status = .missing

def Recorded (s : PatchStore P) (command : MdmCommand) : Prop :=
  ∃ job : PatchJob, (s.jobs.filter fun other => other.commandId = some command.id) = [job] ∧
    job.companyId = command.companyId ∧ job.assetId = command.assetId ∧
      job.patchKeys = command.patchKeys

def Unrecorded (s : PatchStore P) (command : Nat) : Prop :=
  ∀ job ∈ s.jobs, job.commandId ≠ some command

/-- An ingest that throws has written nothing, and one that returns has left for each key the
values of its last valid entry. -/
def Honest : PatchOp → PatchStore P → Prop
  | .throwIngest ingest, s => ∀ entry ∈ s.stored, entry.1 ≠ ingest
  | .returnIngest _ companyId assetId patches, s => ∀ patchKey values,
      lastValid P patchKey (patches.map Prod.fst) = some values →
        Holds s ⟨companyId, assetId, patchKey⟩ values
  | .read, _ | .beginIngest .., _ | .write .., _ | .check .., _ | .giveUp _, _ | .queue .., _
  | .insertJob _, _ => True

/-- Nothing that throws follows an entry that is written, nobody else has written the patch and not
returned yet, a patch that a job has found missing is not stored as installed, the first thousand
entries are all that counts, and nothing fails after a command is in the queue. -/
def Clear : PatchOp → PatchStore P → Prop
  | .write ingest target values existing rest, s =>
    if raced target existing s then ∀ entry ∈ s.stored, entry.1 ≠ ingest
    else (∀ listed ∈ rest, planned P listed ≠ .broken) ∧
      (∀ entry ∈ s.stored, P.fold entry.2 = P.fold target → entry.1 = ingest) ∧
        (values.status = .installed → ∀ entry ∈ s.held, P.fold entry.2 ≠ P.fold target)
  | .returnIngest _ _ _ patches, _ => ∀ patchKey, lastValid P patchKey (patches.map Prod.fst) =
      lastValid P patchKey ((patches.take 1000).map Prod.fst)
  | .queue _ _ completes, _ => completes = true
  | .read, _ | .beginIngest .., _ | .throwIngest _, _ | .check .., _ | .giveUp _, _
  | .insertJob _, _ => True

def PatchOp.records (command : Nat) : PatchOp → Prop
  | .insertJob job => job.commandId = some command
  | .read | .beginIngest .. | .write .. | .returnIngest .. | .throwIngest _ | .check ..
  | .giveUp _ | .queue .. => False

end Law

section Phases

/-- How far an operation has come; `lost` is a job that will not be written down. -/
inductive Phase where
  | idle
  | storing (ingest : Nat) (companyId assetId : String) (patches : List Listed)
      (before : List (String × PatchValues)) (rest : List Listed) (seen : List (Nat × Target))
  | raced (ingest : Nat)
  | checked (job : Nat) (companyId assetId : String) (patchKeys : List String)
  | queued (command : Nat) (companyId assetId : String) (patchKeys : List String)
  | lost

def Phase.number : Phase → Option Nat
  | storing ingest .. | raced ingest => some ingest
  | checked job .. => some job
  | idle | queued .. | lost => none

def Phase.command : Phase → Option Nat
  | queued command .. => some command
  | idle | storing .. | raced _ | checked .. | lost => none

noncomputable def whenever (p : Prop) (phase : Phase) : Option Phase :=
  @ite _ p (Classical.propDecidable p) (some phase) none

theorem whenever_pos {p : Prop} (h : p) (phase : Phase) : whenever p phase = some phase :=
  if_pos h

theorem of_whenever {p : Prop} {phase phase' : Phase} (h : whenever p phase = some phase') :
    p ∧ phase = phase' := by
  rw [whenever] at h
  split at h
  next hp => exact ⟨hp, Option.some.inj h⟩
  next => cases h

def Expected (companyId assetId : String) (rest : List Listed) (seen : List (Nat × Target))
    (target : Target) (values : PatchValues) (existing : Option Nat) (rest' : List Listed) : Prop :=
  target.companyId = companyId ∧ target.assetId = assetId ∧ Next P rest target.patchKey values rest' ∧
    ∀ id, existing = some id → ∃ other, (id, other) ∈ seen ∧ P.fold other = P.fold target

noncomputable def patching : Phase → PatchOp → PatchStore P → Option Phase
  | .idle, .read, _ => some .idle
  | .idle, .beginIngest companyId assetId patches, s =>
    some (.storing s.started companyId assetId patches [] (patches.take 1000) [])
  | .idle, .check companyId assetId patchKeys, s =>
    some (if allMissing companyId assetId patchKeys s then
      .checked s.started companyId assetId patchKeys else .idle)
  | .storing ingest companyId assetId patches before rest _, .read, s =>
    some (.storing ingest companyId assetId patches before rest
      (s.inventory.rows.map fun row => (row.id, row.target)))
  | .storing ingest companyId assetId patches before rest seen,
      .write ingest' target values existing rest', s =>
      whenever (ingest' = ingest ∧
          Expected P companyId assetId rest seen target values existing rest')
        (if raced target existing s then .raced ingest
        else .storing ingest companyId assetId patches ((target.patchKey, values) :: before) rest' [])
  | .storing ingest companyId assetId patches _ rest _,
      .returnIngest ingest' companyId' assetId' patches', _ =>
      whenever (ingest' = ingest ∧ companyId' = companyId ∧ assetId' = assetId ∧
        patches' = patches ∧ ∀ listed ∈ rest, planned P listed = .skipped) .idle
  | .storing ingest _ _ _ before rest _, .throwIngest ingest', _ =>
    whenever (ingest' = ingest ∧
      (before = [] ∨ ∃ listed ∈ rest, planned P listed = .broken)) .idle
  | .raced ingest, .throwIngest ingest', _ => whenever (ingest' = ingest) .idle
  | .checked job companyId assetId patchKeys, .read, _ =>
    some (.checked job companyId assetId patchKeys)
  | .checked job _ _ _, .giveUp job', _ => whenever (job' = job) .idle
  | .checked job companyId assetId patchKeys, .queue job' command completes, s =>
    whenever (job' = job ∧ command.companyId = companyId ∧ command.assetId = assetId ∧
        command.patchKeys = patchKeys)
      (if completes then .queued s.commands.drawn companyId assetId patchKeys else .lost)
  | .queued command companyId assetId patchKeys, .insertJob job, _ =>
    whenever (job.commandId = some command ∧ job.companyId = companyId ∧ job.assetId = assetId ∧
      job.patchKeys = patchKeys) .idle
  | _, _, _ => none

def Ended : Phase → Prop
  | .idle | .lost => True
  | .storing _ _ _ _ before _ _ => before = []
  | .raced _ | .checked .. | .queued .. => False

end Phases

section Programs

variable {P} {ingest : Nat} {companyId assetId : String} {patches rest : List Listed}
  {before : List (String × PatchValues)} {seen : List (Nat × Target)} {patch : Json}
  {fault : Option WriteFault}

theorem planned_null (h : isNull patch = true) : planned P (patch, fault) = .broken := by
  have hentry : entryOf P patch = .broken := if_pos h
  rw [planned, hentry]

theorem planned_empty (hnull : ¬ isNull patch = true)
    (h : patchKeyOf P patch = "" ∨ titleOf P patch = "") :
    planned P (patch, fault) = .skipped := by
  have hentry : entryOf P patch = .skipped := by rw [entryOf, if_neg hnull, if_pos h]
  rw [planned, hentry]

theorem planned_severity (hnull : ¬ isNull patch = true)
    (hfull : ¬ (patchKeyOf P patch = "" ∨ titleOf P patch = "")) (h : severityOf P patch = none) :
    planned P (patch, fault) = .broken := by
  have hentry : entryOf P patch = .broken := by rw [entryOf, if_neg hnull, if_neg hfull, h]
  rw [planned, hentry]

theorem planned_date {severity : String} (hnull : ¬ isNull patch = true)
    (hfull : ¬ (patchKeyOf P patch = "" ∨ titleOf P patch = ""))
    (hseverity : severityOf P patch = some severity)
    (h : dateOrNull P (patch.property "releaseDate") = none) :
    planned P (patch, fault) = .broken := by
  have hentry : entryOf P patch = .broken := by
    rw [entryOf, if_neg hnull, if_neg hfull, hseverity]
    dsimp only
    rw [h]
  rw [planned, hentry]

theorem entryOf_valid {severity : String} {releaseDate : Option Nat}
    (hnull : ¬ isNull patch = true)
    (hfull : ¬ (patchKeyOf P patch = "" ∨ titleOf P patch = ""))
    (hseverity : severityOf P patch = some severity)
    (h : dateOrNull P (patch.property "releaseDate") = some releaseDate) :
    entryOf P patch = .valid (patchKeyOf P patch) (valuesOf P patch severity releaseDate) := by
  rw [entryOf, if_neg hnull, if_neg hfull, hseverity]
  dsimp only
  rw [h]

theorem planned_fault (hnull : ¬ isNull patch = true)
    (hfull : ¬ (patchKeyOf P patch = "" ∨ titleOf P patch = "")) (hfault : fault.isSome = true) :
    planned P (patch, fault) = .broken := by
  cases hseverity : severityOf P patch with
  | none => exact planned_severity hnull hfull hseverity
  | some severity =>
    cases hdate : dateOrNull P (patch.property "releaseDate") with
    | none => exact planned_date hnull hfull hseverity hdate
    | some releaseDate =>
      rw [planned, entryOf_valid hnull hfull hseverity hdate]
      exact if_pos hfault

theorem planned_valid {severity : String} {releaseDate : Option Nat}
    (hnull : ¬ isNull patch = true)
    (hfull : ¬ (patchKeyOf P patch = "" ∨ titleOf P patch = ""))
    (hseverity : severityOf P patch = some severity)
    (h : dateOrNull P (patch.property "releaseDate") = some releaseDate) :
    planned P (patch, none) =
      .valid (patchKeyOf P patch) (valuesOf P patch severity releaseDate) := by
  rw [planned, entryOf_valid hnull hfull hseverity h]
  exact if_neg Bool.false_ne_true

/-- Whatever an operation finds. -/
abbrev Anything : PatchOp → PatchStore P → Prop :=
  fun _ _ => True

theorem conforms_throw {phase : Phase} (hthrow : ∀ s : PatchStore P,
    patching P phase (.throwIngest ingest) s = some .idle) :
    (throwIngest P ingest).Conforms Anything (patching P) Ended phase :=
  Prog.conforms_step (fun _ => .idle) (fun s _ => hthrow s) fun _ _ => trivial

theorem conforms_broken {skipped : List Listed} {listed : Listed}
    (hbroken : planned P listed = .broken) :
    (throwIngest P ingest).Conforms Anything (patching P) Ended
      (.storing ingest companyId assetId patches before (skipped ++ listed :: rest) seen) :=
  conforms_throw fun _ => whenever_pos ⟨rfl, .inr ⟨listed, List.mem_append_right _
    List.mem_cons_self, hbroken⟩⟩ _

theorem no_fault (hquery : fault ≠ some .query) (hwrite : fault ≠ some .write) : fault = none := by
  cases fault with
  | none => rfl
  | some fault =>
    cases fault with
    | query => exact absurd rfl hquery
    | write => exact absurd rfl hwrite

theorem conforms_write {skipped : List Listed} {listed : Listed} {patchKey : String}
    {values : PatchValues} {existing : Option Nat}
    (hskipped : ∀ other ∈ skipped, planned P other = .skipped)
    (hlisted : planned P listed = .valid patchKey values)
    (hexisting : ∀ id, existing = some id → ∃ other, (id, other) ∈ seen ∧
      P.fold other = P.fold ⟨companyId, assetId, patchKey⟩)
    (hrest : (storePatches P ingest companyId assetId patches rest).Conforms Anything (patching P)
      Ended (.storing ingest companyId assetId patches ((patchKey, values) :: before) rest [])) :
    (Prog.step (.write ingest ⟨companyId, assetId, patchKey⟩ values existing rest)
      fun s : PatchStore P => if raced ⟨companyId, assetId, patchKey⟩ existing s then
        throwIngest P ingest
      else storePatches P ingest companyId assetId patches rest).Conforms Anything (patching P) Ended
        (.storing ingest companyId assetId patches before (skipped ++ listed :: rest) seen) := by
  intro s _
  have hexpected : Expected P companyId assetId (skipped ++ listed :: rest) seen
      ⟨companyId, assetId, patchKey⟩ values existing rest :=
    ⟨rfl, rfl, ⟨skipped, listed, rfl, hskipped, hlisted⟩, hexisting⟩
  refine ⟨_, whenever_pos ⟨rfl, hexpected⟩ _, ?_⟩
  beta_reduce
  split
  · exact conforms_throw fun _ => whenever_pos rfl _
  · exact hrest

theorem conforms_storePatches (rest : List Listed) :
    ∀ {skipped : List Listed} {before : List (String × PatchValues)} {seen : List (Nat × Target)},
      (∀ listed ∈ skipped, planned P listed = .skipped) →
        (storePatches P ingest companyId assetId patches rest).Conforms Anything (patching P) Ended
          (.storing ingest companyId assetId patches before (skipped ++ rest) seen) := by
  induction rest with
  | nil =>
    intro skipped before seen hskipped
    refine Prog.conforms_step (fun _ => .idle) (fun s _ => whenever_pos ?_ _) fun _ _ => trivial
    rw [List.append_nil]
    exact ⟨rfl, rfl, rfl, rfl, hskipped⟩
  | cons listed rest ih =>
    intro skipped before seen hskipped
    obtain ⟨patch, fault⟩ := listed
    rw [storePatches]
    split
    next hnull => exact conforms_broken (planned_null hnull)
    next hnull =>
      split
      next hempty =>
        -- an entry without a key or a title joins the ones skipped before it
        rw [List.append_cons]
        refine ih fun listed hlisted => ?_
        obtain hlisted | hlisted := List.mem_append.mp hlisted
        · exact hskipped listed hlisted
        · rw [List.mem_singleton.mp hlisted]
          exact planned_empty hnull hempty
      next hfull =>
        cases hseverity : severityOf P patch with
        | none => exact conforms_broken (planned_severity hnull hfull hseverity)
        | some severity =>
          dsimp only
          split
          next hfault =>
            exact conforms_broken (planned_fault hnull hfull (by rw [hfault]; rfl))
          next hfault =>
            refine Prog.conforms_step (fun s => .storing ingest companyId assetId patches before
              (skipped ++ (patch, fault) :: rest)
              (s.inventory.rows.map fun row => (row.id, row.target))) (fun _ _ => rfl)
              fun s _ => ?_
            cases hdate : dateOrNull P (patch.property "releaseDate") with
            | none => exact conforms_broken (planned_date hnull hfull hseverity hdate)
            | some releaseDate =>
              dsimp only
              split
              next hwrite =>
                exact conforms_broken (planned_fault hnull hfull (by rw [hwrite]; rfl))
              next hwrite =>
                obtain rfl := no_fault hfault hwrite
                refine conforms_write hskipped
                  (planned_valid hnull hfull hseverity hdate) (fun row hrow => ?_)
                  (ih fun _ h => absurd h List.not_mem_nil)
                obtain ⟨row', hrow', rfl⟩ := Option.map_eq_some_iff.mp hrow
                have hfound := List.find?_some hrow'
                exact ⟨row'.target, List.mem_map.mpr ⟨row', List.mem_of_find?_eq_some hrow',
                  rfl⟩, of_decide_eq_true hfound⟩

theorem conforms_ingest (companyId : Option String) (assetId : String) (patches : List Listed) :
    (ingestPatchInventory P companyId assetId patches).Conforms Anything (patching P) Ended .idle := by
  cases companyId with
  | none => trivial
  | some companyId =>
    rw [ingestPatchInventory]
    split
    · trivial
    · refine Prog.conforms_step (fun s => .storing s.started companyId assetId patches []
        (patches.take 1000) []) (fun _ _ => rfl) fun s _ => ?_
      split
      · exact rfl
      · exact conforms_storePatches _ fun _ h => absurd h List.not_mem_nil

theorem conforms_giveUp (job : Nat) (companyId assetId : String) (patchKeys : List String) :
    (giveUp P job).Conforms Anything (patching P) Ended (.checked job companyId assetId patchKeys) :=
  Prog.conforms_step (fun _ => .idle) (fun _ _ => whenever_pos rfl _) fun _ _ => trivial

theorem conforms_queue (job : Nat) (companyId userId : String) (dto : PatchJobDto)
    (fault : Option JobFault) :
    (queuePatchJob P job companyId userId dto fault).Conforms Anything (patching P) Ended
      (.checked job companyId dto.assetId (patchKeysOf P dto)) := by
  refine Prog.conforms_step (fun _ => .checked job companyId dto.assetId (patchKeysOf P dto))
    (fun _ _ => rfl) fun s _ => ?_
  split
  · exact conforms_giveUp job companyId dto.assetId _
  · refine fun s' _ => ⟨_, whenever_pos ⟨rfl, rfl, rfl, rfl⟩ _, ?_⟩
    beta_reduce
    by_cases hnotes : fault = some .notes
    · rw [if_pos hnotes, completes, hnotes, decide_eq_false (fun h => h rfl), Bool.and_false,
        Bool.false_and, if_neg Bool.false_ne_true]
      trivial
    · rw [if_neg hnotes, completes, decide_eq_true hnotes, Bool.and_true]
      cases hdate : dateOrNull P dto.scheduledAt with
      | none => trivial
      | some scheduledAt =>
        dsimp only
        by_cases hjob : fault = some .job
        · rw [if_pos hjob, decide_eq_false (not_not.mpr hjob)]
          trivial
        · rw [if_neg hjob, decide_eq_true hjob]
          exact Prog.conforms_step (fun _ => .idle)
            (fun _ _ => whenever_pos ⟨rfl, rfl, rfl, rfl⟩ _) fun _ _ => trivial

theorem conforms_job (companyId : Option String) (userId : String) (dto : PatchJobDto)
    (fault : Option JobFault) :
    (createPatchJob P companyId userId dto fault).Conforms Anything (patching P) Ended .idle := by
  cases companyId with
  | none => trivial
  | some companyId =>
    rw [createPatchJob]
    split
    · trivial
    · refine Prog.conforms_step (fun _ => .idle) (fun _ _ => rfl) fun s _ => ?_
      split
      · trivial
      · refine Prog.conforms_step (fun s => _) (fun _ _ => rfl) fun s' _ => ?_
        cases hmissing : allMissing companyId dto.assetId (patchKeysOf P dto) s' with
        | false => trivial
        | true =>
          rw [if_pos rfl, if_neg (by decide)]
          cases hpolicy : dto.policyId with
          | none => exact conforms_queue _ companyId userId dto fault
          | some policyId =>
            refine Prog.conforms_step
              (fun _ => .checked s'.started companyId dto.assetId (patchKeysOf P dto))
              (fun _ _ => rfl) fun s'' _ => ?_
            split
            · exact conforms_giveUp _ companyId dto.assetId _
            · exact conforms_queue _ companyId userId dto fault

theorem conforms_handler (request : PatchRequest) :
    (request.handler P).Conforms Anything (patching P) Ended .idle := by
  cases request with
  | ingestPatchInventory companyId assetId patches =>
    exact conforms_ingest companyId assetId patches
  | createPatchJob companyId userId dto fault => exact conforms_job companyId userId dto fault

end Programs
end FieldserviceIT.EndpointOperations
