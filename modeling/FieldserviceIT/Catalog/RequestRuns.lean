import FieldserviceIT.Common.Users
import FieldserviceIT.Lib.Interleaving
import FieldserviceIT.Lib.Tables
import FieldserviceIT.Sql.Value

/-!
Catalog requests: a call reads the request it is about, checks the user and, except
for an edit, the status, and writes by the id alone. Time may pass between the two.
-/

namespace FieldserviceIT.Catalog

open Common Lib Sql

inductive RequestStatus where
  | pending
  | approved
  | rejected
  | fulfilled
  | cancelled
  deriving DecidableEq

/-- `details` are the columns a request is described by. -/
structure CatalogRequest where
  id : String
  companyId : Option String
  createdById : Option String
  status : RequestStatus
  approvedById : Option String
  approvedAt : Option Int
  fulfilledAt : Option Int
  updatedAt : Int
  details : Row

/-- `status` is absent, `null` or one of the five; `details` are the other fields. -/
structure UpdateCatalogRequestDto where
  status : Option (Option RequestStatus)
  details : List (String × Option Scalar)

/-- What the four calls write. -/
inductive Edit where
  | update (dto : UpdateCatalogRequestDto) (editorId : String)
  | approve (userId : String)
  | reject (reason : Option String) (userId : String)
  | fulfill

def requiredColumns : List String :=
  ["requestType", "title", "priority"]

namespace Edit

/-- A column that must have a value is not set to `NULL`. -/
def valid : Edit → Bool
  | update dto _ => dto.status ≠ some none &&
      dto.details.all fun field => !(requiredColumns.contains field.1 && field.2 = none)
  | _ => true

def apply (now : Int) (row : CatalogRequest) : Edit → CatalogRequest
  | update dto _ =>
    { row with
      status := (dto.status.getD none).getD row.status
      updatedAt := now
      details := fun column => (dto.details.lookup column).getD (row.details column) }
  | approve userId =>
    { row with
      status := .approved, approvedById := some userId, approvedAt := some now
      updatedAt := now }
  | reject reason userId =>
    { row with
      status := .rejected, approvedById := some userId, approvedAt := some now
      updatedAt := now
      details := fun column =>
        if column = "rejectionReason" then reason.map .text else row.details column }
  | fulfill => { row with status := .fulfilled, fulfilledAt := some now, updatedAt := now }

end Edit

/-- One row that was written: by which edit, and what became of its status. -/
structure Entry where
  id : String
  createdById : Option String
  edit : Edit
  before : RequestStatus
  after : RequestStatus

/-- `history` records what was written; no call reads it. -/
structure Desk where
  requests : List CatalogRequest
  history : List Entry
  now : Int

inductive CatalogOp where
  | read
  | write (id : String) (edit : Edit) (seen : CatalogRequest)

abbrev CatalogProgram := Prog Desk CatalogOp

inductive CatalogCall where
  | update (id : String) (dto : UpdateCatalogRequestDto) (user : CurrentUser)
  | approve (id : String) (userId : String) (user : CurrentUser)
  | reject (id : String) (reason : Option String) (user : CurrentUser)
  | fulfill (id : String) (user : CurrentUser)

variable (same : String → String → Bool)

def Edit.entry (edit : Edit) (now : Int) (row : CatalogRequest) : Entry where
  id := row.id
  createdById := row.createdById
  edit := edit
  before := row.status
  after := (edit.apply now row).status

/-- `same` is how the server compares ids. -/
def execCatalog : CatalogOp → Desk → Desk
  | .read, s => s
  | .write id edit _, s =>
    if edit.valid then
      { s with
        requests := updateWhere (fun row => same row.id id) (edit.apply s.now) s.requests
        history := s.history ++
          (s.requests.filter fun row => same row.id id).map fun row => edit.entry s.now row }
    else s

def findOne (s : Desk) (id : String) (user : CurrentUser) : Option CatalogRequest :=
  (s.requests.find? fun row => same row.id id).filter fun request =>
    !(user.role ≠ .superAdmin && truthy user.companyId && request.companyId ≠ user.companyId) &&
      !(user.userType ≠ .businessUser && user.role ≠ .superAdmin &&
        request.createdById ≠ some user.id)

def checkAndWrite (id : String) (user : CurrentUser) (check : CatalogRequest → Bool) (edit : Edit) :
    CatalogProgram :=
  .step .read fun s =>
    match findOne same s id user with
    | none => .fail
    | some existing =>
      if check existing then .step (.write id edit existing) fun _ => .done
      else .fail

def update (id : String) (dto : UpdateCatalogRequestDto) (user : CurrentUser) : CatalogProgram :=
  checkAndWrite same id user (fun existing => existing.createdById = some user.id ||
    user.role = .superAdmin || user.role = .tenantAdmin) (.update dto user.id)

def approve (id userId : String) (user : CurrentUser) : CatalogProgram :=
  checkAndWrite same id user (fun existing => existing.status = .pending) (.approve userId)

def reject (id : String) (reason : Option String) (user : CurrentUser) : CatalogProgram :=
  checkAndWrite same id user (fun existing => existing.status = .pending) (.reject reason user.id)

def fulfill (id : String) (user : CurrentUser) : CatalogProgram :=
  checkAndWrite same id user (fun existing => existing.status = .approved) .fulfill

def CatalogCall.handler : CatalogCall → CatalogProgram
  | .update id dto user => Catalog.update same id dto user
  | .approve id userId user => Catalog.approve same id userId user
  | .reject id reason user => Catalog.reject same id reason user
  | .fulfill id user => Catalog.fulfill same id user

def catalogSystem : System Desk CatalogOp CatalogCall where
  exec := execCatalog same
  tick s := { s with now := s.now + 1 }
  handler := CatalogCall.handler same
  sendable _ _ := True

/-!
Runs of catalog calls. A decision is checked against the status that was read and
written later, by the id alone; an edit writes whatever status it names. Where
decisions find the status they have read and edits do not touch what is decided,
requests go through their states and the approver is recorded.
-/

section Law

def Edit.decides : Edit → Bool
  | .approve _ | .reject _ _ => true
  | _ => false

def Entry.ownEdit (entry : Entry) : Bool :=
  match entry.edit with
  | .update _ editorId => entry.createdById = some editorId
  | _ => false

def Edit.isApproval : Edit → Bool
  | .approve _ => true
  | _ => false

def Edit.isRejection : Edit → Bool
  | .reject _ _ => true
  | _ => false

/-- A write that follows the states of a request. -/
structure Lawful (entry : Entry) : Prop where
  approved : entry.after = .approved → entry.before = .approved ∨
    entry.before = .pending ∧ entry.edit.isApproval = true
  rejected : entry.after = .rejected → entry.before = .rejected ∨
    entry.before = .pending ∧ entry.edit.isRejection = true
  fulfilled : entry.after = .fulfilled → entry.before = .fulfilled ∨
    entry.before = .approved ∧ entry.ownEdit = false
  final : entry.before = .rejected ∨ entry.before = .fulfilled ∨ entry.before = .cancelled →
    entry.after = entry.before

/-- The approver and the time are set exactly when the request was approved or rejected. -/
structure Recorded (history : List Entry) (row : CatalogRequest) : Prop where
  together : row.approvedAt.isSome = row.approvedById.isSome
  decided : row.approvedById.isSome = true ↔
    ∃ entry ∈ history, entry.id = row.id ∧ entry.edit.decides = true
  status : row.status = .approved ∨ row.status = .rejected ∨ row.status = .fulfilled →
    row.approvedById.isSome = true

/-- Every write was lawful and every request has its approver. -/
structure Sound (s : Desk) : Prop where
  lawful : ∀ entry ∈ s.history, Lawful entry
  recorded : ∀ row ∈ s.requests, Recorded s.history row

theorem Sound.tick {s : Desk} (h : Sound s) : Sound { s with now := s.now + 1 } :=
  ⟨h.lawful, h.recorded⟩

/-- Requests as they are created, before anything is written. -/
structure Fresh (s : Desk) : Prop where
  history : s.history = []
  requests : ∀ row ∈ s.requests,
    row.status = .pending ∧ row.approvedById = none ∧ row.approvedAt = none

theorem Fresh.sound {s : Desk} (h : Fresh s) : Sound s where
  lawful entry hentry := by
    rw [h.history] at hentry
    cases hentry
  recorded row hrow := by
    obtain ⟨hstatus, hby, hat⟩ := h.requests row hrow
    refine ⟨by simp [hby, hat], ?_, ?_⟩
    · rw [hby, h.history]
      simp
    · rw [hstatus]
      simp

end Law

section Conditions

/-- The status an edit names leaves decided requests alone: it is the one the row has,
or an open request is taken back or cancelled, or an approved one is fulfilled by
somebody else than the requester. -/
def Edit.admissible (row : CatalogRequest) : Edit → Bool
  | .update dto editorId =>
    match dto.status.getD none with
    | none => true
    | some status => status = row.status ||
        (row.status = .pending || row.status = .approved) &&
          (status = .pending || status = .cancelled) ||
        row.status = .approved && status = .fulfilled && row.createdById ≠ some editorId
  | _ => true

def Edit.isUpdate : Edit → Bool
  | .update _ _ => true
  | _ => false

/-- An edit is admissible; a decision finds the status it has read, or the one it writes. -/
def Edit.inOrder (edit : Edit) (now : Int) (seen row : CatalogRequest) : Bool :=
  edit.admissible row &&
    (edit.isUpdate || row.status = seen.status || row.status = (edit.apply now row).status)

def ordered (same : String → String → Bool) (op : CatalogOp) (s : Desk) : Bool :=
  match op with
  | .read => true
  | .write id edit seen => s.requests.all fun row =>
    !same row.id id || edit.inOrder s.now seen row

def Careful (op : CatalogOp) : Prop :=
  match op with
  | .write _ (.approve _) seen | .write _ (.reject _ _) seen => seen.status = .pending
  | .write _ .fulfill seen => seen.status = .approved
  | _ => True

variable (same : String → String → Bool)

theorem all_checkAndWrite (id : String) (user : CurrentUser) {check : CatalogRequest → Bool}
    {edit : Edit} (h : ∀ existing, check existing = true → Careful (.write id edit existing)) :
    (checkAndWrite same id user check edit).All Careful := by
  refine Prog.all_step trivial fun s => ?_
  split
  next => trivial
  next existing _ =>
    split
    next hcheck => exact Prog.all_step (h existing hcheck) fun _ => trivial
    next => trivial

theorem all_handler (call : CatalogCall) : (call.handler same).All Careful := by
  cases call with
  | update id dto user => exact all_checkAndWrite same id user fun _ _ => trivial
  | approve id userId user =>
    apply all_checkAndWrite
    intro existing h
    have hstatus : existing.status = .pending := of_decide_eq_true h
    exact hstatus
  | reject id reason user =>
    apply all_checkAndWrite
    intro existing h
    have hstatus : existing.status = .pending := of_decide_eq_true h
    exact hstatus
  | fulfill id user =>
    apply all_checkAndWrite
    intro existing h
    have hstatus : existing.status = .approved := of_decide_eq_true h
    exact hstatus

end Conditions

section Writes

variable {same : String → String → Bool} {id : String} {edit : Edit} {seen : CatalogRequest}
variable {row : CatalogRequest} {now : Int}

theorem apply_id : (edit.apply now row).id = row.id := by
  cases edit <;> rfl

theorem after_update (dto : UpdateCatalogRequestDto) (editorId : String) :
    ((Edit.update dto editorId).entry now row).after =
      (dto.status.getD none).getD row.status := rfl

theorem lawful_update_iff {dto : UpdateCatalogRequestDto} {editorId : String} :
    Lawful ((Edit.update dto editorId).entry now row) ↔
      (Edit.update dto editorId).admissible row = true := by
  have hown : ((Edit.update dto editorId).entry now row).ownEdit =
      decide (row.createdById = some editorId) := rfl
  have hbefore : ((Edit.update dto editorId).entry now row).before = row.status := rfl
  have hafter := @after_update row now dto editorId
  simp only [Edit.admissible]
  cases hstatus : dto.status.getD none with
  | none =>
    rw [hstatus, Option.getD_none] at hafter
    refine iff_of_true ?_ rfl
    exact ⟨fun h => .inl (hafter.symm.trans h), fun h => .inl (hafter.symm.trans h),
      fun h => .inl (hafter.symm.trans h), fun _ => hafter⟩
  | some status =>
    rw [hstatus, Option.getD_some] at hafter
    simp only [Bool.or_eq_true, Bool.and_eq_true, decide_eq_true_eq]
    constructor
    · rintro ⟨happroved, hrejected, hfulfilled, hfinal⟩
      rw [hafter, hbefore] at happroved hrejected hfulfilled hfinal
      have happroval : ((Edit.update dto editorId).entry now row).edit.isApproval = false := rfl
      have hrejection : ((Edit.update dto editorId).entry now row).edit.isRejection = false := rfl
      rw [hown] at hfulfilled
      cases status <;> cases hrow : row.status <;> grind
    · intro h
      constructor
      all_goals
        rw [hafter, hbefore]
        intro hcase
        grind

theorem lawful_iff (hcareful : Careful (.write id edit seen)) :
    Lawful (edit.entry now row) ↔ edit.inOrder now seen row = true := by
  cases edit with
  | update dto editorId => simp [lawful_update_iff, Edit.inOrder, Edit.isUpdate]
  | approve userId =>
    have hseen : seen.status = .pending := hcareful
    constructor
    · rintro ⟨happroved, hrejected, hfulfilled, hfinal⟩
      cases hrow : row.status <;>
        simp_all [Edit.inOrder, Edit.admissible, Edit.entry, Edit.apply]
    · intro h
      constructor <;>
        grind [Edit.inOrder, Edit.isUpdate, Edit.entry, Edit.apply, Edit.isApproval,
          Edit.isRejection, Entry.ownEdit]
  | reject reason userId =>
    have hseen : seen.status = .pending := hcareful
    constructor
    · rintro ⟨happroved, hrejected, hfulfilled, hfinal⟩
      cases hrow : row.status <;>
        simp_all [Edit.inOrder, Edit.admissible, Edit.entry, Edit.apply]
    · intro h
      constructor <;>
        grind [Edit.inOrder, Edit.isUpdate, Edit.entry, Edit.apply, Edit.isApproval,
          Edit.isRejection, Entry.ownEdit]
  | fulfill =>
    have hseen : seen.status = .approved := hcareful
    constructor
    · rintro ⟨happroved, hrejected, hfulfilled, hfinal⟩
      cases hrow : row.status <;>
        simp_all [Edit.inOrder, Edit.admissible, Edit.entry, Edit.apply]
    · intro h
      constructor <;>
        grind [Edit.inOrder, Edit.isUpdate, Edit.entry, Edit.apply, Edit.isApproval,
          Edit.isRejection, Entry.ownEdit]

theorem mem_history_write {s : Desk} (hvalid : edit.valid = true) {entry : Entry} :
    entry ∈ (execCatalog same (.write id edit seen) s).history ↔ entry ∈ s.history ∨
      ∃ row ∈ s.requests, same row.id id = true ∧ edit.entry s.now row = entry := by
  simp [execCatalog, hvalid, and_assoc]

theorem approver_apply (h : edit.decides = false) :
    (edit.apply now row).approvedById = row.approvedById ∧
      (edit.apply now row).approvedAt = row.approvedAt := by
  cases edit <;> simp_all [Edit.decides, Edit.apply]

theorem decided_before (hlawful : Lawful (edit.entry now row)) (h : edit.decides = false)
    (hstatus : (edit.apply now row).status = .approved ∨ (edit.apply now row).status = .rejected ∨
      (edit.apply now row).status = .fulfilled) :
    row.status = .approved ∨ row.status = .rejected ∨ row.status = .fulfilled := by
  have hnone : edit.isApproval = false ∧ edit.isRejection = false := by
    cases edit <;> simp_all [Edit.decides, Edit.isApproval, Edit.isRejection]
  obtain hstatus | hstatus | hstatus := hstatus
  · obtain hbefore | ⟨-, hyes⟩ := hlawful.approved hstatus
    · exact .inl hbefore
    · exact absurd (hnone.1.symm.trans hyes) Bool.false_ne_true
  · obtain hbefore | ⟨-, hyes⟩ := hlawful.rejected hstatus
    · exact .inr (.inl hbefore)
    · exact absurd (hnone.2.symm.trans hyes) Bool.false_ne_true
  · obtain hbefore | ⟨hbefore, -⟩ := hlawful.fulfilled hstatus
    · exact .inr (.inr hbefore)
    · exact .inl hbefore

theorem recorded_written {history history' : List Entry} (hrecorded : Recorded history row)
    (hcareful : Careful (.write id edit seen)) (horder : edit.inOrder now seen row = true)
    (hold : ∀ entry ∈ history, entry ∈ history')
    (hnew : ∀ entry ∈ history', entry ∈ history ∨ entry.edit = edit)
    (hentry : edit.entry now row ∈ history') : Recorded history' (edit.apply now row) := by
  cases hdecides : edit.decides with
  | true =>
    have hby : (edit.apply now row).approvedById.isSome = true := by
      cases edit <;> simp_all [Edit.decides, Edit.apply]
    have hat : (edit.apply now row).approvedAt.isSome = true := by
      cases edit <;> simp_all [Edit.decides, Edit.apply]
    refine ⟨hat.trans hby.symm, ⟨fun _ => ?_, fun _ => hby⟩, fun _ => hby⟩
    exact ⟨_, hentry, apply_id.symm, hdecides⟩
  | false =>
    obtain ⟨hby, hat⟩ := @approver_apply _ row now hdecides
    refine ⟨by rw [hby, hat]; exact hrecorded.together, ?_, fun hstatus => ?_⟩
    · rw [hby, hrecorded.decided, apply_id]
      constructor
      · rintro ⟨entry, hmem, hid, hyes⟩
        exact ⟨entry, hold entry hmem, hid, hyes⟩
      · rintro ⟨entry, hmem, hid, hyes⟩
        obtain hmem | hedit := hnew entry hmem
        · exact ⟨entry, hmem, hid, hyes⟩
        · rw [hedit, hdecides] at hyes
          cases hyes
    · rw [hby]
      exact hrecorded.status (decided_before ((lawful_iff hcareful).mpr horder) hdecides hstatus)

theorem recorded_kept {history history' : List Entry} (hrecorded : Recorded history row)
    (hold : ∀ entry ∈ history, entry ∈ history')
    (hnew : ∀ entry ∈ history', entry ∈ history ∨ entry.id ≠ row.id) :
    Recorded history' row := by
  refine ⟨hrecorded.together, ?_, hrecorded.status⟩
  rw [hrecorded.decided]
  constructor
  · rintro ⟨entry, hmem, hid, hyes⟩
    exact ⟨entry, hold entry hmem, hid, hyes⟩
  · rintro ⟨entry, hmem, hid, hyes⟩
    obtain hmem | hother := hnew entry hmem
    · exact ⟨entry, hmem, hid, hyes⟩
    · exact absurd hid hother

end Writes

section Runs

variable {same : String → String → Bool}

theorem sound_exec (op : CatalogOp) (s : Desk) (hsound : Sound s) (horder : ordered same op s = true)
    (hcareful : Careful op) : Sound (execCatalog same op s) := by
  cases op with
  | read => exact hsound
  | write id edit seen =>
    cases hvalid : edit.valid with
    | false => simpa [execCatalog, hvalid] using hsound
    | true =>
      have hwritten : ∀ row ∈ s.requests, same row.id id = true →
          edit.inOrder s.now seen row = true := by
        intro row hrow hmatch
        have hcase := List.all_eq_true.mp horder row hrow
        simpa [hmatch] using hcase
      have hmem := @mem_history_write same id edit seen s hvalid
      have hold : ∀ entry ∈ s.history,
          entry ∈ (execCatalog same (.write id edit seen) s).history :=
        fun entry hentry => hmem.mpr (.inl hentry)
      constructor
      · intro entry hentry
        obtain hentry | ⟨row, hrow, hmatch, rfl⟩ := hmem.mp hentry
        · exact hsound.lawful entry hentry
        · exact (lawful_iff hcareful).mpr (hwritten row hrow hmatch)
      · intro row' hrow'
        simp only [execCatalog, hvalid, if_true] at hrow'
        obtain ⟨row, hrow, rfl⟩ := mem_updateWhere.mp hrow'
        split
        next hmatch =>
          refine recorded_written (hsound.recorded row hrow) hcareful (hwritten row hrow hmatch)
            hold ?_ (hmem.mpr (.inr ⟨row, hrow, hmatch, rfl⟩))
          intro entry hentry
          obtain hentry | ⟨other, -, -, rfl⟩ := hmem.mp hentry
          · exact .inl hentry
          · exact .inr rfl
        next hmatch =>
          refine recorded_kept (hsound.recorded row hrow) hold ?_
          intro entry hentry
          obtain hentry | ⟨other, -, hother, rfl⟩ := hmem.mp hentry
          · exact .inl hentry
          · refine .inr fun hid => hmatch ?_
            rw [← hid]
            exact hother

/-- Where decisions are written on the status they have read and edits leave what is
decided alone, every request goes through its states and has its approver. -/
theorem requests_follow_their_states {c₀ c : Config Desk CatalogOp} (hfresh : Fresh c₀.shared)
    (hidle : c₀.threads = [])
    (hrun : (catalogSystem same).Run (fun op s => ordered same op s = true) c₀ c) :
    Sound c.shared :=
  System.keeps_of_all (fun _ call _ => all_handler same call)
    (fun op s hsound horder hcareful => sound_exec op s hsound horder hcareful)
    (fun _ hsound => hsound.tick) hidle hrun hfresh.sound

end Runs
section Samples

def sampleMember (id : String) : CurrentUser where
  id := id
  role := .technician
  userType := .businessUser
  companyId := some "acme"
  effectiveCompanyId := none
  location := none
  permissionScopes := none
  permissionSlugs := some ["catalog.manage", "catalog.create"]

def sampleRequest : CatalogRequest where
  id := "request-1"
  companyId := some "acme"
  createdById := some "user-1"
  status := .pending
  approvedById := none
  approvedAt := none
  fulfilledAt := none
  updatedAt := 0
  details := fun column => if column = "title" then some (.text "laptop") else none

def sampleDesk : Desk where
  requests := [sampleRequest]
  history := []
  now := 1700000000000

theorem fresh_sampleDesk : Fresh sampleDesk where
  history := rfl
  requests row hrow := by
    obtain rfl := List.mem_singleton.mp hrow
    exact ⟨rfl, rfl, rfl⟩

def sameText (a b : String) : Bool := a = b

/-- One user approves a request, another one fulfills it. -/
theorem requests_follow_their_states_sample : ∃ c : Config Desk CatalogOp,
    c.shared.requests.map (·.status) = [.fulfilled] ∧ Sound c.shared := by
  have hplay : ((catalogSystem sameText).play (fun _ _ => true) (ordered sameText) ⟨sampleDesk, []⟩
      [.start (.approve "request-1" "user-2" (sampleMember "user-2")), .run 0, .run 0,
        .start (.fulfill "request-1" (sampleMember "user-3")), .run 1, .run 1]).any (fun c =>
        decide (c.shared.requests.map (·.status) = [.fulfilled])) = true := by
    decide
  obtain ⟨c, hrun, hcheck⟩ :=
    System.exists_run_of_play (fun _ _ _ => trivial) (fun _ _ h => h) hplay
  exact ⟨c, of_decide_eq_true hcheck,
    requests_follow_their_states fresh_sampleDesk rfl hrun⟩

/-- A requester edits the own request to be approved, and it is approved by nobody. -/
theorem requester_approves : ∃ c : Config Desk CatalogOp, Fresh sampleDesk ∧
    (catalogSystem sameText).Run (fun _ _ => True) ⟨sampleDesk, []⟩ c ∧
    c.shared.requests.map (fun row => (row.status, row.approvedById)) = [(.approved, none)] ∧
    ¬ Sound c.shared := by
  have hplay : ((catalogSystem sameText).play (fun _ _ => true) (fun _ _ => true) ⟨sampleDesk, []⟩
      [.start (.update "request-1" ⟨some (some .approved), []⟩ (sampleMember "user-1")), .run 0,
        .run 0]).any (fun c => decide (c.shared.requests.map
          (fun row => (row.status, row.approvedById)) = [(.approved, none)])) = true := by
    decide
  obtain ⟨c, hrun, hcheck⟩ :=
    System.exists_run_of_play (fun _ _ _ => trivial) (fun _ _ _ => trivial) hplay
  have hrows := of_decide_eq_true hcheck
  refine ⟨c, fresh_sampleDesk, hrun, hrows, fun hsound => ?_⟩
  obtain ⟨row, hrow, hpair⟩ := List.mem_map.mp (hrows ▸ List.mem_singleton_self _)
  obtain ⟨hstatus, hby⟩ := Prod.mk.inj hpair
  have hsome := (hsound.recorded row hrow).status (.inl hstatus)
  rw [hby] at hsome
  cases hsome

end Samples
end FieldserviceIT.Catalog
