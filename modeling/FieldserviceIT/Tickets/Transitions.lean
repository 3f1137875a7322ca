import FieldserviceIT.Tickets.Lifecycle

/-!
Status changes of stored tickets. Every request checks its step against the
status it has read and writes later, by the identifier alone. As long as the
stored status is still the one that was read, every change follows the table; a
write on a status that has moved on need not.
-/

namespace FieldserviceIT.Tickets

open Common Database Lib Sql

namespace Assignments

@[simp] theorem assigned_put_self (column : String) (value : Option Scalar) (data : Assignments) :
    (data.put column value).assigned column = some value := by
  simp [put, assigned]

theorem assigned_put_of_ne {column other : String} (h : other ≠ column) (value : Option Scalar)
    (data : Assignments) : (data.put other value).assigned column = data.assigned column := by
  have hfilter : (data.filter (·.1 ≠ other)).find? (fun entry => entry.1 = column) =
      data.find? fun entry => entry.1 = column := by
    induction data with
    | nil => rfl
    | cons entry data ih =>
      rw [List.filter_cons]
      by_cases hother : entry.1 = other
      · rw [if_neg (by simp [hother]), ih, List.find?_cons_of_neg (by simp [hother, h])]
      · rw [if_pos (by simp [hother]), List.find?_cons, List.find?_cons, ih]
  simp only [put, assigned, List.find?_cons, h, decide_false, hfilter]

theorem assigned_ofProvided_cons (column name : String) (p : Provided)
    (fields : List (String × Provided)) :
    (ofProvided ((name, p) :: fields)).assigned column =
      if p.isDefined = true ∧ name = column then some p.toColumn
      else (ofProvided fields).assigned column := by
  cases hdefined : p.isDefined with
  | false => simp [ofProvided, hdefined]
  | true =>
    by_cases hname : name = column
    · simp [ofProvided, assigned, hdefined, hname]
    · simp [ofProvided, assigned, hdefined, hname]

@[simp] theorem assigned_ofProvided_nil (column : String) :
    (ofProvided []).assigned column = none := rfl

theorem setColumns_of_assigned {data : Assignments} {column : String} {v : Option Scalar}
    (h : data.assigned column = some v) (row : Row) : data.setColumns row column = v := by
  simp [setColumns, h]

theorem setColumns_of_unassigned {data : Assignments} {column : String}
    (h : data.assigned column = none) (row : Row) : data.setColumns row column = row column := by
  simp [setColumns, h]

end Assignments

section Status

open Assignments

variable {dto : UpdateTicketDto} {ticket : Row} {userId : String} {now : Int}

def autoAssigns (dto : UpdateTicketDto) (ticket : Row) : Bool :=
  dto.assignedToId.truthy && !dto.status.truthy && ticket "status" = some (.text "OPEN")

theorem assigned_provided_status : dto.provided.assigned "status" =
    if dto.status.isDefined = true then some dto.status.toColumn else none := by
  simp [UpdateTicketDto.provided, assigned_ofProvided_cons]

/-- The status `update` writes. -/
theorem assigned_updateData_status : (updateData dto ticket userId now).assigned "status" =
    if autoAssigns dto ticket = true then some (some (.text "ASSIGNED"))
    else if dto.status.isDefined = true then some dto.status.toColumn else none := by
  unfold updateData
  simp only []
  repeat' split
  all_goals
    simp_all [assigned_put_of_ne, assigned_provided_status, autoAssigns]

/-- A write that was checked: the status it names is the one that was read, or
the table leads there. -/
def Checked (op : TicketOp) : Prop :=
  match op with
  | .write _ data seen => ∀ v, data.assigned "status" = some v →
      v = seen "status" ∨ allowsTransition (seen "status") v = true
  | _ => True

theorem of_validateTransition {before after : Option Scalar}
    (h : validateTransition before after = true) :
    after = before ∨ allowsTransition before after = true := by
  obtain h | h := Bool.or_eq_true_iff.mp h
  · exact .inl (of_decide_eq_true h).symm
  · exact .inr h

def UpdateTicketDto.namesStatus (dto : UpdateTicketDto) : Prop :=
  dto.status.isDefined = true → dto.status.truthy = true

theorem checked_update (id : String) (hnames : dto.namesStatus)
    (hadmits : admitsStatus dto ticket = true) :
    Checked (.write id (updateData dto ticket userId now) ticket) := by
  intro v hv
  rw [assigned_updateData_status] at hv
  split at hv
  · next hauto =>
      obtain rfl := Option.some.inj hv
      simp only [autoAssigns, Bool.and_eq_true, decide_eq_true_eq] at hauto
      rw [hauto.2]
      exact .inr (by decide)
  · split at hv
    · next hdefined =>
        obtain rfl := Option.some.inj hv
        simp only [admitsStatus, hnames hdefined, Bool.not_true, Bool.false_or, Bool.or_eq_true,
          decide_eq_true_eq, Bool.and_eq_true] at hadmits
        obtain hsame | ⟨hvalid, -⟩ := hadmits
        · exact .inl hsame
        · exact of_validateTransition hvalid
    · cases hv

theorem checked_assign (id targetUserId : String)
    (h : validateTransition (ticket "status") (some (.text "ASSIGNED")) = true) :
    Checked (.write id (assignData targetUserId) ticket) := by
  intro v hv
  have hassigned : (assignData targetUserId).assigned "status" = some (some (.text "ASSIGNED")) :=
    rfl
  obtain rfl := Option.some.inj (hassigned.symm.trans hv)
  exact of_validateTransition h

theorem assigned_resolveData_status (resolution : Provided) :
    (resolveData resolution userId now).assigned "status" = some (some (.text "RESOLVED")) := by
  simp [resolveData, assigned_ofProvided_cons, Provided.isDefined, Provided.text, Provided.toColumn]

theorem checked_resolve (id : String) (resolution : Provided)
    (h : validateTransition (ticket "status") (some (.text "RESOLVED")) = true) :
    Checked (.write id (resolveData resolution userId now) ticket) := by
  intro v hv
  rw [assigned_resolveData_status] at hv
  obtain rfl := Option.some.inj hv
  exact of_validateTransition h

end Status

section Programs

variable {sv : Server}

/-- What clients send: an update that names a status names one to change to. -/
def TicketRequest.namesStatus : TicketRequest → Prop
  | update _ dto _ => dto.namesStatus
  | _ => True

theorem all_done : (Prog.done : TicketProgram).All Checked := trivial

theorem all_fail : (Prog.fail : TicketProgram).All Checked := trivial

theorem all_read {next : Desk → TicketProgram} (h : ∀ s, (next s).All Checked) :
    (Prog.step .read next : TicketProgram).All Checked :=
  ⟨trivial, h⟩

theorem all_update (id : String) (dto : UpdateTicketDto) (user : CurrentUser) (userId : String)
    (hnames : dto.namesStatus) : (update sv id dto user userId).All Checked := by
  refine all_read fun s => ?_
  split
  · exact all_fail
  · next detail hdetail =>
      have hrest : admitsStatus dto detail.ticket.row = true → (Prog.step .read fun s' =>
          Prog.step (.write id (updateData dto detail.ticket.row userId s'.now) detail.ticket.row)
            fun _ => .done : TicketProgram).All Checked := fun hadmits =>
        all_read fun s' => ⟨checked_update id hnames hadmits, fun _ => all_done⟩
      simp only []
      split
      · exact all_fail
      · next hadmits =>
          rw [Bool.not_eq_true', Bool.not_eq_false] at hadmits
          split
          · refine all_read fun s' => ?_
            split
            · exact hrest hadmits
            · exact all_fail
          · exact hrest hadmits

theorem all_assignTicket (id targetUserId : String) (user : CurrentUser) :
    (assignTicket sv id targetUserId user).All Checked := by
  refine all_read fun s => ?_
  split
  · exact all_fail
  · refine all_read fun s' => ?_
    split
    · next h =>
        rw [Bool.and_eq_true] at h
        exact ⟨checked_assign id targetUserId h.2, fun _ => all_done⟩
    · exact all_fail

theorem all_resolve (id : String) (resolution : Provided) (user : CurrentUser) (userId : String) :
    (resolve sv id resolution user userId).All Checked := by
  refine all_read fun s => ?_
  split
  · exact all_fail
  · simp only []
    split
    · next h => exact all_read fun s' => ⟨checked_resolve id resolution h, fun _ => all_done⟩
    · exact all_fail

theorem all_nextTicketNumber (stem : String) {k : String → TicketProgram}
    (hk : ∀ ticketNumber, (k ticketNumber).All Checked) (attempts next : Nat) :
    (nextTicketNumber sv stem k attempts next).All Checked := by
  induction attempts generalizing next with
  | zero => exact all_read fun s => hk _
  | succ attempts ih =>
    refine all_read fun s => ?_
    split
    · exact ih (next + 1)
    · exact hk _

theorem all_create (dto : CreateTicketDto) (companyId : Option String) (userId : String)
    (userType : UserType) : (create sv dto companyId userId userType).All Checked := by
  unfold create
  split
  · exact all_fail
  · refine all_read fun s => all_nextTicketNumber _ (fun ticketNumber => ?_) _ _
    exact ⟨trivial, fun _ => all_done⟩

theorem all_handler {req : TicketRequest} (h : req.namesStatus) :
    (req.handler sv).All Checked := by
  cases req with
  | create dto companyId userId userType => exact all_create dto companyId userId userType
  | update id dto user => exact all_update id dto user user.id h
  | assign id targetUserId user => exact all_assignTicket id targetUserId user
  | resolve id resolution user => exact all_resolve id resolution user user.id

end Programs

section Runs

variable (sv : Server) (draws : Draws)

/-- The status is written where it still is the one that was read. -/
def StillCurrent (op : TicketOp) (s : Desk) : Prop :=
  match op with
  | .write id data seen => data.assigned "status" ≠ none →
      ∀ row ∈ s.db "Ticket", named sv id row = true → row "status" = seen "status"
  | _ => True

def StatusStep (row row' : Row) : Prop :=
  row' "status" = row "status" ∨ allowsTransition (row "status") ( row' "status") = true

/-- The tickets of the first store are in the second, each in its place, and
the status of each follows the table. -/
def FollowsTable (s s' : Desk) : Prop :=
  List.Forall₂ StatusStep (s.db "Ticket") ((s'.db "Ticket").take (s.db "Ticket").length)

theorem followsTable_of_tickets_eq {s s' : Desk} (h : s'.db "Ticket" = s.db "Ticket") :
    FollowsTable s s' := by
  rw [FollowsTable, h, List.take_length]
  exact List.forall₂_same.mpr fun row _ => .inl rfl

theorem setTickets_tickets (s : Desk) (rows : List Row) :
    (setTickets s rows).db "Ticket" = rows := rfl

theorem followsTable_exec {op : TicketOp} {s : Desk} (hcurrent : StillCurrent sv op s)
    (hchecked : Checked op) : FollowsTable s (execTicket sv draws op s) := by
  cases op with
  | read => exact followsTable_of_tickets_eq rfl
  | insert data =>
    simp only [execTicket]
    split
    · exact followsTable_of_tickets_eq rfl
    · rw [FollowsTable]
      have htake : (s.db "Ticket" ++ [newTicket draws data s]).take (s.db "Ticket").length =
          s.db "Ticket" := List.take_left
      refine htake.symm ▸ ?_
      exact List.forall₂_same.mpr fun row _ => .inl rfl
  | write id data seen =>
    simp only [execTicket]
    split
    · exact followsTable_of_tickets_eq rfl
    · rw [FollowsTable, setTickets_tickets,
        List.take_of_length_le (by simp), List.forall₂_map_right_iff]
      refine List.forall₂_same.mpr fun row hrow => ?_
      split
      · next hnamed =>
          cases hstatus : data.assigned "status" with
          | none => exact .inl (Assignments.setColumns_of_unassigned hstatus row)
          | some v =>
            have hread := hcurrent (by simp [hstatus]) row hrow hnamed
            rw [StatusStep, Assignments.setColumns_of_assigned hstatus, hread]
            exact hchecked v hstatus
      · exact .inl rfl

/-- In a run whose writes find the status as it was read, every step of the run
changes statuses along the table. -/
theorem status_follows_table {c₀ c c' : Config Desk TicketOp} (hidle : c₀.threads = [])
    (hrun : (ticketSystem sv draws TicketRequest.namesStatus).Run (StillCurrent sv) c₀ c)
    (hstep : (ticketSystem sv draws TicketRequest.namesStatus).Step (StillCurrent sv) c c') :
    FollowsTable c.shared c'.shared := by
  obtain heq | heq | ⟨op, hchecked, hcurrent, heq⟩ :=
    System.effect (fun _ _ hsend => all_handler hsend) hidle hrun hstep
  · exact followsTable_of_tickets_eq (by rw [heq])
  · exact followsTable_of_tickets_eq (by rw [heq]; rfl)
  · rw [heq]
    exact followsTable_exec sv draws hcurrent hchecked

end Runs
section Samples

def sampleTechnician : CurrentUser where
  id := "tech-1"
  role := .technician
  userType := .businessUser
  companyId := some "acme"
  effectiveCompanyId := none
  location := none
  permissionScopes := none
  permissionSlugs := some ["tickets.view", "tickets.edit"]

def sampleServer : Server := server Comparison.binary fun _ => none

def sampleDraws : Draws where
  uuid n := String.ofList (List.replicate (n + 2) 'x')
  trackingToken n := String.ofList (List.replicate (n + 1) 't')

def sampleDesk (status : String) : Desk where
  db := fun table =>
    if table = "Ticket" then [sampleTicket "printer" "user-1" (some "acme") (some status) 0]
    else if table = "User" then
      [fun column =>
        if column = "id" then some (.text "tech-1")
        else if column = "companyId" then some (.text "acme")
        else if column = "isActive" then some (.flag true)
        else if column = "role" then some (.text "TECHNICIAN")
        else none]
    else []
  now := 1700000000000
  drawn := 0

instance (row row' : Row) : Decidable (StatusStep row row') :=
  inferInstanceAs (Decidable (_ ∨ _))

instance (s s' : Desk) : Decidable (FollowsTable s s') :=
  inferInstanceAs (Decidable (List.Forall₂ _ _ _))

def canName (req : TicketRequest) : Bool :=
  match req with
  | .update _ dto _ => !dto.status.isDefined || dto.status.truthy
  | _ => true

theorem namesStatus_of_canName {req : TicketRequest} (h : canName req = true) : req.namesStatus := by
  cases req with
  | update id dto user =>
    intro hdefined
    simpa [canName, hdefined] using h
  | _ => trivial

def findsCurrent (op : TicketOp) (s : Desk) : Bool :=
  match op with
  | .write id data seen => (data.assigned "status").isNone ||
      (s.db "Ticket").all fun row => !named sampleServer id row || row "status" = seen "status"
  | _ => true

theorem stillCurrent_of_findsCurrent {op : TicketOp} {s : Desk} (h : findsCurrent op s = true) :
    StillCurrent sampleServer op s := by
  cases op with
  | write id data seen =>
    intro hstatus row hrow hnamed
    simp only [findsCurrent, Bool.or_eq_true, Option.isNone_iff_eq_none, hstatus, false_or,
      List.all_eq_true] at h
    simpa [hnamed] using h row hrow
  | _ => trivial

/-- One request alone takes an open ticket to resolved. -/
theorem status_follows_table_resolve : ∃ c c' : Config Desk TicketOp,
    c.shared.db "Ticket" ≠ [] ∧
      (c.shared.db "Ticket").map (· "status") ≠ (c'.shared.db "Ticket").map (· "status") ∧
      FollowsTable c.shared c'.shared := by
  have hplay : ((ticketSystem sampleServer sampleDraws TicketRequest.namesStatus).play
      (fun _ req => canName req) findsCurrent ⟨sampleDesk "OPEN", []⟩
      (.start (.resolve "x" (.text "replaced the fuser") sampleTechnician) ::
        [.run 0, .run 0])).any (fun c =>
        ((ticketSystem sampleServer sampleDraws TicketRequest.namesStatus).move
          (fun _ req => canName req) findsCurrent c (.run 0)).any fun c' =>
            !(c.shared.db "Ticket").isEmpty && decide ((c.shared.db "Ticket").map (· "status") ≠
              (c'.shared.db "Ticket").map (· "status"))) = true := by
    decide
  obtain ⟨c, c', hrun, hstep, hcheck⟩ := System.exists_step_of_play
    (fun _ _ => namesStatus_of_canName) (fun _ _ => stillCurrent_of_findsCurrent) hplay
  simp only [Bool.and_eq_true, Bool.not_eq_true', List.isEmpty_eq_false_iff,
    decide_eq_true_eq] at hcheck
  exact ⟨c, c', hcheck.1, hcheck.2,
    status_follows_table sampleServer sampleDraws rfl hrun hstep⟩

/-- Two requests read the same open ticket; one resolves it, the other assigns
what is resolved by then. -/
theorem status_leaves_table : ¬ ∀ (sv : Server) (draws : Draws) (c₀ c c' : Config Desk TicketOp),
    c₀.threads = [] →
    (ticketSystem sv draws TicketRequest.namesStatus).Run (fun _ _ => True) c₀ c →
    (ticketSystem sv draws TicketRequest.namesStatus).Step (fun _ _ => True) c c' →
      FollowsTable c.shared c'.shared := by
  have hplay : ((ticketSystem sampleServer sampleDraws TicketRequest.namesStatus).play
      (fun _ req => canName req) (fun _ _ => true) ⟨sampleDesk "OPEN", []⟩
      ([.start (.resolve "x" (.text "replaced the fuser") sampleTechnician),
        .start (.assign "x" "tech-1" sampleTechnician), .run 0, .run 1, .run 1, .run 0,
        .run 0])).any (fun c =>
        ((ticketSystem sampleServer sampleDraws TicketRequest.namesStatus).move
          (fun _ req => canName req) (fun _ _ => true) c (.run 1)).any fun c' =>
            !decide (FollowsTable c.shared c'.shared)) = true := by
    decide
  intro hall
  obtain ⟨c, c', hrun, hstep, hcheck⟩ := System.exists_step_of_play
    (fun _ _ => namesStatus_of_canName) (fun _ _ _ => trivial) hplay
  simp only [Bool.not_eq_true', decide_eq_false_iff_not] at hcheck
  exact hcheck (hall sampleServer sampleDraws _ c c' rfl hrun hstep)

end Samples
end FieldserviceIT.Tickets
