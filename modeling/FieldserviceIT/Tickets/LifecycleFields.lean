import FieldserviceIT.Tickets.InternalNotes
import FieldserviceIT.Tickets.Transitions

/-!
The fields that go with a status: a resolved or closed ticket has the time of
its resolution, and only a ticket on hold has a reason for it. Requests run one
after another. Most of them keep this up; closing a resolved ticket, reopening a
closed one, a reason without a hold, and assigning or resolving a ticket on hold
do not.
-/

namespace FieldserviceIT.Tickets

open Common Database Lib Sql

def hasStatus (status : String) (row : Row) : Prop :=
  row "status" = some (.text status)

instance (status : String) (row : Row) : Decidable (hasStatus status row) :=
  inferInstanceAs (Decidable (_ = _))

theorem hasStatus_unique {a b : String} {row : Row} (ha : hasStatus a row) (hb : hasStatus b row) :
    a = b :=
  Scalar.text.inj (Option.some.inj (ha.symm.trans hb))

/-- The fields of the ticket agree with its status. -/
structure Settled (row : Row) : Prop where
  resolved : (row "resolvedAt").isSome = true ↔ hasStatus "RESOLVED" row ∨ hasStatus "CLOSED" row
  onHold : (row "onHoldReason").isSome = true → hasStatus "ON_HOLD" row

def KeepsResolution (row row' : Row) : Prop :=
  hasStatus "RESOLVED" row → hasStatus "CLOSED" row' →
    row' "resolution" = row "resolution" ∧ row' "resolvedAt" = row "resolvedAt"

section Table

theorem allowsTransition_closed {before : Option Scalar}
    (h : allowsTransition before (some (.text "CLOSED")) = true) :
    before = some (.text "RESOLVED") := by
  unfold allowsTransition at h
  split at h
  · next a b hb =>
      obtain rfl : "CLOSED" = b := Scalar.text.inj (Option.some.inj hb)
      unfold validTransitions at h
      split at h <;> first | rfl | cases h
  · cases h

theorem allowsTransition_of_closed {after : Option Scalar}
    (h : allowsTransition (some (.text "CLOSED")) after = true) : after = some (.text "OPEN") := by
  unfold allowsTransition at h
  split at h
  · next a b ha =>
      obtain rfl : "CLOSED" = a := Scalar.text.inj (Option.some.inj ha)
      simpa [validTransitions] using h
  · cases h

theorem allowsTransition_of_resolved {after : Option Scalar}
    (h : allowsTransition (some (.text "RESOLVED")) after = true) :
    after = some (.text "CLOSED") ∨ after = some (.text "OPEN") := by
  unfold allowsTransition at h
  split at h
  · next a b ha =>
      obtain rfl : "RESOLVED" = a := Scalar.text.inj (Option.some.inj ha)
      simpa [validTransitions] using h
  · cases h

end Table

section Written

open Assignments

variable {dto : UpdateTicketDto} {ticket row : Row} {userId : String} {now : Int}

theorem assigned_provided_resolvedAt : dto.provided.assigned "resolvedAt" = none := by
  simp [UpdateTicketDto.provided, assigned_ofProvided_cons]

theorem assigned_provided_onHoldReason : dto.provided.assigned "onHoldReason" =
    if dto.onHoldReason.isDefined = true then some dto.onHoldReason.toColumn else none := by
  simp [UpdateTicketDto.provided, assigned_ofProvided_cons]

theorem assigned_updateData_resolvedAt : (updateData dto ticket userId now).assigned "resolvedAt" =
    if dto.status.truthy = true ∧ dto.status ≠ .text "RESOLVED" ∧ hasStatus "RESOLVED" ticket then
      some none
    else if dto.status = .text "RESOLVED" ∧ ¬ hasStatus "RESOLVED" ticket then
      some (some (Scalar.instant now))
    else none := by
  unfold updateData hasStatus
  simp only []
  repeat' split
  all_goals
    simp_all [assigned_put_of_ne, assigned_provided_resolvedAt]

theorem assigned_updateData_onHoldReason :
    (updateData dto ticket userId now).assigned "onHoldReason" =
      if dto.status.truthy = true ∧ dto.status ≠ .text "ON_HOLD" ∧ hasStatus "ON_HOLD" ticket then
        some none
      else if dto.onHoldReason.isDefined = true then some dto.onHoldReason.toColumn else none := by
  unfold updateData hasStatus
  simp only []
  repeat' split
  all_goals
    simp_all [assigned_put_of_ne, assigned_provided_onHoldReason]

theorem assigned_updateData_id : (updateData dto ticket userId now).assigned "id" = none := by
  have hprovided : dto.provided.assigned "id" = none := by
    simp [UpdateTicketDto.provided, assigned_ofProvided_cons]
  unfold updateData
  simp only []
  repeat' split
  all_goals
    simp [assigned_put_of_ne, hprovided]

/-- What an update has to leave alone: it closes no resolved ticket, reopens no
closed one, and gives a reason only with a hold. -/
structure Tidy (dto : UpdateTicketDto) (row : Row) : Prop where
  names : dto.namesStatus
  closes : dto.status = .text "CLOSED" → ¬ hasStatus "RESOLVED" row
  reopens : dto.status = .text "OPEN" → ¬ hasStatus "CLOSED" row
  holds : dto.onHoldReason.toColumn.isSome = true →
    dto.status = .text "ON_HOLD" ∨ hasStatus "ON_HOLD" row

theorem setColumns_getD (data : Assignments) (row : Row) (column : String) :
    data.setColumns row column = (data.assigned column).getD (row column) := rfl

theorem updateData_status (hrow : row = (updateData dto ticket userId now).setColumns ticket)
    (hnames : dto.namesStatus) (hadmits : admitsStatus dto ticket = true) :
    (row "status" = ticket "status" ∧
        (dto.status.truthy = true → dto.status.toColumn = ticket "status")) ∨
      (dto.status.truthy = false ∧ hasStatus "OPEN" ticket ∧
        row "status" = some (.text "ASSIGNED")) ∨
        (dto.status.truthy = true ∧ row "status" = dto.status.toColumn ∧
          allowsTransition (ticket "status") dto.status.toColumn = true) := by
  simp only [hrow, setColumns_getD, assigned_updateData_status]
  by_cases hauto : autoAssigns dto ticket = true
  · rw [if_pos hauto]
    simp only [autoAssigns, Bool.and_eq_true, Bool.not_eq_true', decide_eq_true_eq] at hauto
    exact .inr (.inl ⟨hauto.1.2, hauto.2, rfl⟩)
  · rw [if_neg hauto]
    by_cases hdefined : dto.status.isDefined = true
    · have htruthy := hnames hdefined
      rw [if_pos hdefined, Option.getD_some]
      simp only [admitsStatus, htruthy, Bool.not_true, Bool.false_or, Bool.or_eq_true,
        decide_eq_true_eq, Bool.and_eq_true] at hadmits
      obtain hsame | ⟨hvalid, -⟩ := hadmits
      · exact .inl ⟨hsame, fun _ => hsame⟩
      · obtain hsame | hallowed := of_validateTransition hvalid
        · exact .inl ⟨hsame, fun _ => hsame⟩
        · exact .inr (.inr ⟨htruthy, rfl, hallowed⟩)
    · rw [if_neg hdefined]
      refine .inl ⟨rfl, fun htruthy => ?_⟩
      cases hstatus : dto.status with
      | undefined => simp [hstatus, Provided.truthy] at htruthy
      | null => simp [hstatus, Provided.truthy] at htruthy
      | value v => simp [hstatus, Provided.isDefined] at hdefined

theorem eq_text_of_toColumn {p : Provided} {s : String} (h : p.toColumn = some (.text s)) :
    p = .text s := by
  cases p with
  | undefined => cases h
  | null => cases h
  | value v =>
    obtain rfl := Option.some.inj h
    rfl

theorem toColumn_text (s : String) : (Provided.text s).toColumn = some (.text s) := rfl

theorem updateData_resolved (hrow : row = (updateData dto ticket userId now).setColumns ticket)
    (htidy : Tidy dto ticket) (hadmits : admitsStatus dto ticket = true) (h : Settled ticket) :
    (row "resolvedAt").isSome = true ↔ hasStatus "RESOLVED" row ∨ hasStatus "CLOSED" row := by
  have hresolvedAt : row "resolvedAt" = ((updateData dto ticket userId now).assigned
      "resolvedAt").getD (ticket "resolvedAt") := by rw [hrow, setColumns_getD]
  rw [assigned_updateData_resolvedAt] at hresolvedAt
  have hsettled := h.resolved
  obtain ⟨hstatus, hsame⟩ | ⟨hnone, hopen, hstatus⟩ | ⟨htruthy, hstatus, hallowed⟩ :=
    updateData_status hrow htidy.names hadmits
  · -- the status stays, and so does the time
    have hleaves : ¬ (dto.status.truthy = true ∧ dto.status ≠ .text "RESOLVED" ∧
        hasStatus "RESOLVED" ticket) := fun hall =>
      hall.2.1 (eq_text_of_toColumn ((hsame hall.1).trans hall.2.2))
    have henters : ¬ (dto.status = .text "RESOLVED" ∧ ¬ hasStatus "RESOLVED" ticket) := fun hall =>
      hall.2 ((hsame (by rw [hall.1]; rfl)).symm.trans (by rw [hall.1, toColumn_text]))
    rw [if_neg hleaves, if_neg henters, Option.getD_none] at hresolvedAt
    rw [hresolvedAt, hsettled, hasStatus, hasStatus, hasStatus, hasStatus, hstatus]
  · have henters : dto.status ≠ .text "RESOLVED" := fun heq => by
      rw [heq] at hnone
      cases hnone
    rw [if_neg (fun hall => by simp [hnone] at hall), if_neg (fun hall => henters hall.1),
      Option.getD_none] at hresolvedAt
    rw [hresolvedAt, hsettled, hasStatus, hasStatus, hasStatus, hasStatus, hstatus, hopen]
    decide
  · by_cases hresolved : hasStatus "RESOLVED" ticket
    · rw [hresolved] at hallowed
      obtain hclosed | hopen := allowsTransition_of_resolved hallowed
      · exact absurd hresolved (htidy.closes (eq_text_of_toColumn hclosed))
      · have hleaves : dto.status ≠ .text "RESOLVED" := by
          rw [eq_text_of_toColumn hopen]
          decide
        rw [if_pos ⟨htruthy, hleaves, hresolved⟩, Option.getD_some] at hresolvedAt
        rw [hresolvedAt, hasStatus, hasStatus, hstatus, hopen]
        decide
    · rw [if_neg fun hall => hresolved hall.2.2] at hresolvedAt
      by_cases henters : dto.status = .text "RESOLVED"
      · rw [if_pos ⟨henters, hresolved⟩, Option.getD_some] at hresolvedAt
        rw [hresolvedAt, hasStatus, hstatus, henters]
        simp [toColumn_text]
      · rw [if_neg fun hall => henters hall.1, Option.getD_none] at hresolvedAt
        have hnotClosed : ¬ hasStatus "CLOSED" ticket := fun hclosed =>
          htidy.reopens (eq_text_of_toColumn (allowsTransition_of_closed (hclosed ▸ hallowed)))
            hclosed
        rw [hresolvedAt, hsettled]
        constructor
        · exact fun hor => (hor.elim hresolved hnotClosed).elim
        · rintro (hto | hto)
          · exact absurd (eq_text_of_toColumn (hstatus.symm.trans hto)) henters
          · rw [← hstatus, hto] at hallowed
            exact absurd (allowsTransition_closed hallowed) hresolved

theorem updateData_onHold (hrow : row = (updateData dto ticket userId now).setColumns ticket)
    (htidy : Tidy dto ticket) (hadmits : admitsStatus dto ticket = true) (h : Settled ticket) :
    (row "onHoldReason").isSome = true → hasStatus "ON_HOLD" row := by
  have hreason : row "onHoldReason" = ((updateData dto ticket userId now).assigned
      "onHoldReason").getD (ticket "onHoldReason") := by rw [hrow, setColumns_getD]
  rw [assigned_updateData_onHoldReason] at hreason
  intro hthere
  by_cases hleaves : dto.status.truthy = true ∧ dto.status ≠ .text "ON_HOLD" ∧
      hasStatus "ON_HOLD" ticket
  · rw [if_pos hleaves, Option.getD_some] at hreason
    rw [hreason] at hthere
    cases hthere
  · rw [if_neg hleaves] at hreason
    -- a reason that is there now is given or was there before
    have hsource : dto.status = .text "ON_HOLD" ∨ hasStatus "ON_HOLD" ticket := by
      by_cases hgiven : dto.onHoldReason.isDefined = true
      · rw [if_pos hgiven, Option.getD_some] at hreason
        exact htidy.holds (hreason ▸ hthere)
      · rw [if_neg hgiven, Option.getD_none] at hreason
        exact .inr (h.onHold (hreason ▸ hthere))
    obtain ⟨hstatus, hsame⟩ | ⟨hnone, hopen, hstatus⟩ | ⟨htruthy, hstatus, hallowed⟩ :=
      updateData_status hrow htidy.names hadmits
    · obtain hto | hold := hsource
      · rw [hto, toColumn_text] at hsame
        exact hstatus.trans (hsame rfl).symm
      · exact hstatus.trans hold
    · obtain hto | hold := hsource
      · rw [hto] at hnone
        cases hnone
      · exact absurd (hasStatus_unique hopen hold) (by decide)
    · have hto : dto.status = .text "ON_HOLD" := by
        obtain hto | hold := hsource
        · exact hto
        · by_contra hne
          exact hleaves ⟨htruthy, hne, hold⟩
      exact hstatus.trans (hto ▸ toColumn_text _)

theorem settled_update (htidy : Tidy dto ticket) (hadmits : admitsStatus dto ticket = true)
    (h : Settled ticket) : Settled ((updateData dto ticket userId now).setColumns ticket) :=
  ⟨updateData_resolved rfl htidy hadmits h, updateData_onHold rfl htidy hadmits h⟩

theorem keepsResolution_update (htidy : Tidy dto ticket) (hadmits : admitsStatus dto ticket = true) :
    KeepsResolution ticket ((updateData dto ticket userId now).setColumns ticket) := by
  intro hresolved hclosed
  exfalso
  obtain ⟨hstatus, -⟩ | ⟨-, hopen, -⟩ | ⟨-, hstatus, -⟩ :=
    updateData_status rfl htidy.names hadmits
  · exact absurd (hasStatus_unique hresolved (hstatus.symm.trans hclosed)) (by decide)
  · exact absurd (hasStatus_unique hopen hresolved) (by decide)
  · exact htidy.closes (eq_text_of_toColumn (hstatus.symm.trans hclosed)) hresolved

theorem assigned_assignData (targetUserId column : String) :
    (assignData targetUserId).assigned column =
      if column = "assignedToId" then some (some (.text targetUserId))
      else if column = "status" then some (some (.text "ASSIGNED")) else none := by
  simp only [assignData, assigned, List.find?_cons, List.find?_nil, eq_comm (a := column)]
  by_cases hto : "assignedToId" = column
  · simp [hto]
  · by_cases hstatus : "status" = column
    · simp [hto, hstatus]
    · simp [hto, hstatus]

theorem settled_assign (targetUserId : String)
    (hvalid : validateTransition (ticket "status") (some (.text "ASSIGNED")) = true)
    (hreason : ticket "onHoldReason" = none) (h : Settled ticket) :
    Settled ((assignData targetUserId).setColumns ticket) := by
  have hstatus : (assignData targetUserId).setColumns ticket "status" = some (.text "ASSIGNED") := by
    simp [setColumns_getD, assigned_assignData]
  have hopen : ¬ (hasStatus "RESOLVED" ticket ∨ hasStatus "CLOSED" ticket) := by
    rintro (hbefore | hbefore)
    · rw [hbefore] at hvalid
      exact absurd hvalid (by decide)
    · rw [hbefore] at hvalid
      exact absurd hvalid (by decide)
  have hresolvedAt : (assignData targetUserId).setColumns ticket "resolvedAt" = none := by
    have hnone := Option.not_isSome_iff_eq_none.mp (mt h.resolved.mp hopen)
    simp [setColumns_getD, assigned_assignData, hnone]
  constructor
  · rw [hresolvedAt, hasStatus, hasStatus, hstatus]
    decide
  · intro hthere
    simp [setColumns_getD, assigned_assignData, hreason] at hthere

theorem settled_resolve (resolution : Provided) (hreason : ticket "onHoldReason" = none) :
    Settled ((resolveData resolution userId now).setColumns ticket) := by
  have hstatus : (resolveData resolution userId now).setColumns ticket "status" =
      some (.text "RESOLVED") := setColumns_of_assigned (assigned_resolveData_status resolution) _
  have hresolvedAt : (resolveData resolution userId now).setColumns ticket "resolvedAt" =
      some (.instant now) := by
    refine setColumns_of_assigned ?_ _
    simp [resolveData, assigned_ofProvided_cons, Provided.isDefined, Provided.toColumn]
  constructor
  · rw [hresolvedAt, hasStatus, hasStatus, hstatus]
    simp
  · intro hthere
    have hkept : (resolveData resolution userId now).setColumns ticket "onHoldReason" =
        ticket "onHoldReason" := by
      refine setColumns_of_unassigned ?_ _
      simp [resolveData, assigned_ofProvided_cons]
    rw [hkept, hreason] at hthere
    cases hthere

end Written

section Alone

variable {sv : Server} {draws : Draws} (sendable : TicketRequest → Prop) {s : Desk}

def readTicket (sv : Server) (s : Desk) (id : String) (user : CurrentUser) : Option Row :=
  (findOne sv s.db s.now id user false).join.map (·.ticket.row)

theorem alone_update (id : String) (dto : UpdateTicketDto) (user : CurrentUser) (userId : String) :
    (ticketSystem sv draws sendable).alone (update sv id dto user userId) s = s ∨
      ∃ ticket, readTicket sv s id user = some ticket ∧ admitsStatus dto ticket = true ∧
        (ticketSystem sv draws sendable).alone (update sv id dto user userId) s =
          execTicket sv draws (.write id (updateData dto ticket userId s.now) ticket) s := by
  simp only [readTicket, update, System.alone, ticketSystem, execTicket]
  cases hread : (findOne sv s.db s.now id user false).join with
  | none => exact .inl rfl
  | some detail =>
    by_cases hadmits : admitsStatus dto detail.ticket.row = true
    · simp only [hadmits, Bool.not_true]
      by_cases hassigned : dto.assignedToId.truthy = true
      · by_cases htarget : assertAssignableUser sv s.db (detail.ticket.row "companyId")
            dto.assignedToId.toColumn = true
        · refine .inr ⟨_, rfl, hadmits, ?_⟩
          simp [hassigned, htarget, System.alone, execTicket]
        · exact .inl (by simp [hassigned, htarget, System.alone, execTicket])
      · refine .inr ⟨_, rfl, hadmits, ?_⟩
        simp [hassigned, System.alone, execTicket]
    · exact .inl (by simp [hadmits, System.alone])

theorem alone_assign (id targetUserId : String) (user : CurrentUser) :
    (ticketSystem sv draws sendable).alone (assignTicket sv id targetUserId user) s = s ∨
      ∃ ticket, readTicket sv s id user = some ticket ∧
        validateTransition (ticket "status") (some (.text "ASSIGNED")) = true ∧
        (ticketSystem sv draws sendable).alone (assignTicket sv id targetUserId user) s =
          execTicket sv draws (.write id (assignData targetUserId) ticket) s := by
  simp only [readTicket, assignTicket, System.alone, ticketSystem, execTicket]
  cases hread : (findOne sv s.db s.now id user false).join with
  | none => exact .inl rfl
  | some detail =>
    by_cases hvalid : assertAssignableUser sv s.db (detail.ticket.row "companyId")
        (some (.text targetUserId)) = true ∧
        validateTransition (detail.ticket.row "status") (some (.text "ASSIGNED")) = true
    · refine .inr ⟨_, rfl, hvalid.2, ?_⟩
      simp [hvalid, System.alone, execTicket]
    · exact .inl (by simp [hvalid, System.alone, execTicket])

theorem alone_resolve (id : String) (resolution : Provided) (user : CurrentUser) (userId : String) :
    (ticketSystem sv draws sendable).alone (resolve sv id resolution user userId) s = s ∨
      ∃ ticket, readTicket sv s id user = some ticket ∧
        validateTransition (ticket "status") (some (.text "RESOLVED")) = true ∧
        (ticketSystem sv draws sendable).alone (resolve sv id resolution user userId) s =
          execTicket sv draws (.write id (resolveData resolution userId s.now) ticket) s := by
  simp only [readTicket, resolve, System.alone, ticketSystem, execTicket]
  cases hread : (findOne sv s.db s.now id user false).join with
  | none => exact .inl rfl
  | some detail =>
    by_cases hvalid :
        validateTransition (detail.ticket.row "status") (some (.text "RESOLVED")) = true
    · refine .inr ⟨_, rfl, hvalid, ?_⟩
      simp [hvalid, System.alone, execTicket]
    · exact .inl (by simp [hvalid, System.alone])

theorem alone_nextTicketNumber (stem : String) (data : String → Assignments)
    (attempts next : Nat) : ∃ ticketNumber,
      (ticketSystem sv draws sendable).alone (nextTicketNumber sv stem
        (fun ticketNumber => .step (.insert (data ticketNumber)) fun _ => .done) attempts next) s =
        execTicket sv draws (.insert (data ticketNumber)) s := by
  induction attempts generalizing next with
  | zero => exact ⟨_, rfl⟩
  | succ attempts ih =>
    simp only [nextTicketNumber, System.alone]
    split
    · exact ih (next + 1)
    · exact ⟨_, rfl⟩

theorem alone_create (dto : CreateTicketDto) (companyId : Option String) (userId : String)
    (userType : UserType) :
    (ticketSystem sv draws sendable).alone (create sv dto companyId userId userType) s = s ∨
      ∃ ticketNumber companyIdForTicket,
        (ticketSystem sv draws sendable).alone (create sv dto companyId userId userType) s =
          execTicket sv draws (.insert (createData dto ticketNumber userId companyIdForTicket)) s := by
  unfold create
  split
  · exact .inl rfl
  · obtain ⟨ticketNumber, heq⟩ := alone_nextTicketNumber sendable _
      (fun ticketNumber => createData dto ticketNumber userId _) 100 _
    exact .inr ⟨ticketNumber, _, heq⟩

end Alone

section Stored

variable (comparison : Comparison)

/-- Every ticket agrees with its status, and no two share an identifier. -/
structure SettledTickets (s : Desk) : Prop where
  settled : ∀ row ∈ s.db "Ticket", Settled row
  unique : (s.db "Ticket").Pairwise fun r r' => joined comparison (r "id") ( r' "id") = false

variable {comparison} {objectLiteral : Js → Option Scalar} {draws : Draws} {s : Desk}

theorem stored_of_read {id : String} {user : CurrentUser} {ticket : Row}
    (h : readTicket (server comparison objectLiteral) s id user = some ticket) :
    ticket ∈ s.db "Ticket" ∧ named (server comparison objectLiteral) id ticket = true := by
  cases hscopes : restrictedBy "tickets." user.permissionScopes with
  | true =>
    rw [readTicket, findOne_restricted id hscopes] at h
    cases h
  | false =>
    rw [readTicket, findOne, findOneWhere_eq id hscopes,
      findFirst_of_correct comparison objectLiteral s.db (detailFilter_correct id user)] at h
    cases hfound : (s.db "Ticket").find? fun row =>
        Filter.holds comparison s.db row (detailFilter id user) with
    | none =>
      rw [hfound] at h
      cases h
    | some row =>
      rw [hfound] at h
      simp only [Option.map_some, Option.join_some, withSla_ticket, Bool.false_eq_true,
        if_false] at h
      obtain rfl : row = ticket := Option.some.inj h
      refine ⟨List.mem_of_find?_eq_some hfound, ?_⟩
      have hholds := List.find?_some hfound
      simp only [detailFilter, List.cons_append, Filter.holds, Entry.holds, ColumnTest.holds,
        Bool.and_eq_true] at hholds
      simpa [named, joined] using hholds.1

def Collates (comparison : Comparison) : Prop :=
  ∀ a b c, comparison.equal a b = true → comparison.equal b c = true → comparison.equal a c = true

theorem eq_of_named (hcollates : Collates comparison) (h : SettledTickets comparison s)
    {id : String} {row row' : Row} (hrow : row ∈ s.db "Ticket") (hrow' : row' ∈ s.db "Ticket")
    (hnamed : named (server comparison objectLiteral) id row = true)
    (hnamed' : named (server comparison objectLiteral) id row' = true) : row = row' := by
  refine eq_of_joined h.unique hrow hrow' ?_
  simp only [named, joined, server_comparison, Option.any_eq_true, Option.any_some] at *
  obtain ⟨x, hx, hxid⟩ := hnamed
  obtain ⟨y, hy, hyid⟩ := hnamed'
  exact ⟨x, hx, y, hy, hcollates _ _ _ hxid (comparison.equal_comm _ _ ▸ hyid)⟩

theorem settledTickets_write (hcollates : Collates comparison) (h : SettledTickets comparison s)
    {id : String} {user : CurrentUser} {ticket : Row} {data : Assignments}
    (hread : readTicket (server comparison objectLiteral) s id user = some ticket)
    (hid : data.assigned "id" = none) (hsettled : Settled (data.setColumns ticket)) :
    SettledTickets comparison
      (execTicket (server comparison objectLiteral) draws (.write id data ticket) s) := by
  obtain ⟨hticket, hnamed⟩ := stored_of_read hread
  simp only [execTicket]
  split
  · exact h
  · constructor
    · intro row hrow
      rw [setTickets_tickets, List.mem_map] at hrow
      obtain ⟨before, hbefore, rfl⟩ := hrow
      by_cases hsame : named (server comparison objectLiteral) id before = true
      · rw [if_pos hsame, eq_of_named hcollates h hbefore hticket hsame hnamed]
        exact hsettled
      · rw [if_neg hsame]
        exact h.settled before hbefore
    · rw [setTickets_tickets, List.pairwise_map]
      refine h.unique.imp fun {r r'} hdistinct => ?_
      have hkeeps : ∀ row : Row, (if named (server comparison objectLiteral) id row = true then
          data.setColumns row else row) "id" = row "id" := by
        intro row
        split
        · exact Assignments.setColumns_of_unassigned hid row
        · rfl
      rw [hkeeps, hkeeps]
      exact hdistinct

theorem newTicket_column (data : Assignments) (s : Desk) (column : String)
    (hdata : data.assigned column = none) : newTicket draws data s column =
      (Assignments.assigned ([("id", some (.text (draws.uuid s.drawn))),
        ("createdAt", some (.instant s.now)), ("updatedAt", some (.instant s.now)),
        ("trackingToken", some (.text (draws.trackingToken s.drawn)))] ++ columnDefaults)
          column).getD none := by
  simp only [newTicket, setColumns_getD, Assignments.assigned, List.append_assoc,
    List.find?_append]
  rw [Assignments.assigned, Option.map_eq_none_iff] at hdata
  rw [hdata, Option.none_or]

theorem settled_newTicket (dto : CreateTicketDto) (ticketNumber userId : String)
    (companyId : Option String) (s : Desk) :
    Settled (newTicket draws (createData dto ticketNumber userId companyId) s) := by
  have hstatus : newTicket draws (createData dto ticketNumber userId companyId) s "status" =
      some (.text "OPEN") := by
    rw [newTicket_column _ _ _ (by simp [createData, Assignments.assigned_ofProvided_cons])]
    simp [Assignments.assigned, columnDefaults]
  constructor
  · rw [newTicket_column _ _ "resolvedAt"
      (by simp [createData, Assignments.assigned_ofProvided_cons]), hasStatus, hasStatus, hstatus]
    simp [Assignments.assigned, columnDefaults]
  · rw [newTicket_column _ _ "onHoldReason"
      (by simp [createData, Assignments.assigned_ofProvided_cons])]
    simp [Assignments.assigned, columnDefaults]

theorem settledTickets_insert (h : SettledTickets comparison s) (dto : CreateTicketDto)
    (ticketNumber userId : String) (companyId : Option String) :
    SettledTickets comparison (execTicket (server comparison objectLiteral) draws
      (.insert (createData dto ticketNumber userId companyId)) s) := by
  simp only [execTicket]
  split
  · exact ⟨h.settled, h.unique⟩
  · next hfree =>
      constructor
      · intro row hrow
        rw [setTickets_tickets, List.mem_append, List.mem_singleton] at hrow
        obtain hrow | rfl := hrow
        · exact h.settled row hrow
        · exact settled_newTicket dto ticketNumber userId companyId s
      · rw [setTickets_tickets]
        refine List.pairwise_append.mpr ⟨h.unique, List.pairwise_singleton _ _, ?_⟩
        intro row hrow new hnew
        obtain rfl := List.mem_singleton.mp hnew
        rw [newTicket_column _ _ _ (by simp [createData, Assignments.assigned_ofProvided_cons])]
        rw [Bool.not_eq_true, List.any_eq_false] at hfree
        simpa [named, Assignments.assigned] using hfree row hrow

end Stored

section Sequences

variable {comparison : Comparison} {objectLiteral : Js → Option Scalar} {draws : Draws}

def Admitted (sv : Server) (req : TicketRequest) (s : Desk) : Prop :=
  match req with
  | .create .. => True
  | .update id dto user => ∀ ticket, readTicket sv s id user = some ticket →
      admitsStatus dto ticket = true → Tidy dto ticket
  | .assign id _ user => ∀ ticket, readTicket sv s id user = some ticket →
      validateTransition (ticket "status") (some (.text "ASSIGNED")) = true →
        ticket "onHoldReason" = none
  | .resolve id _ user => ∀ ticket, readTicket sv s id user = some ticket →
      validateTransition (ticket "status") (some (.text "RESOLVED")) = true →
        ticket "onHoldReason" = none

def KeepsResolutions (s s' : Desk) : Prop :=
  List.Forall₂ KeepsResolution (s.db "Ticket") ((s'.db "Ticket").take (s.db "Ticket").length)

theorem keepsResolutions_self (s : Desk) : KeepsResolutions s s := by
  rw [KeepsResolutions, List.take_length]
  exact List.forall₂_same.mpr fun row _ _ _ => ⟨rfl, rfl⟩

theorem keepsResolutions_insert (data : Assignments) (s : Desk) :
    KeepsResolutions s (execTicket (server comparison objectLiteral) draws (.insert data) s) := by
  simp only [execTicket]
  split
  · exact keepsResolutions_self s
  · rw [KeepsResolutions]
    have htake : (s.db "Ticket" ++ [newTicket draws data s]).take (s.db "Ticket").length =
        s.db "Ticket" := List.take_left
    refine htake.symm ▸ ?_
    exact List.forall₂_same.mpr fun row _ _ _ => ⟨rfl, rfl⟩

theorem keepsResolutions_write (hcollates : Collates comparison) {s : Desk}
    (h : SettledTickets comparison s) {id : String} {user : CurrentUser} {ticket : Row}
    {data : Assignments}
    (hread : readTicket (server comparison objectLiteral) s id user = some ticket)
    (hkeeps : KeepsResolution ticket (data.setColumns ticket)) :
    KeepsResolutions s
      (execTicket (server comparison objectLiteral) draws (.write id data ticket) s) := by
  obtain ⟨hticket, hnamed⟩ := stored_of_read hread
  simp only [execTicket]
  split
  · exact keepsResolutions_self s
  · rw [KeepsResolutions, setTickets_tickets, List.take_of_length_le (by simp),
      List.forall₂_map_right_iff]
    refine List.forall₂_same.mpr fun row hrow => ?_
    split
    · next hsame =>
        rw [eq_of_named hcollates h hrow hticket hsame hnamed]
        exact hkeeps
    · exact fun _ _ => ⟨rfl, rfl⟩

theorem keepsResolution_of_status {row row' : Row} {status : String} (h : hasStatus status row')
    (hne : status ≠ "CLOSED") : KeepsResolution row row' :=
  fun _ hclosed => absurd (hasStatus_unique h hclosed) hne

theorem keepsResolution_of_assign (targetUserId : String) {ticket : Row} :
    KeepsResolution ticket ((assignData targetUserId).setColumns ticket) := by
  have hstatus : hasStatus "ASSIGNED" ((assignData targetUserId).setColumns ticket) := rfl
  exact keepsResolution_of_status hstatus (by decide)

/-- What one request keeps. -/
structure Kept (comparison : Comparison) (s s' : Desk) : Prop where
  tickets : SettledTickets comparison s'
  resolutions : KeepsResolutions s s'

theorem kept_write (hcollates : Collates comparison) {s : Desk} (h : SettledTickets comparison s)
    {id : String} {user : CurrentUser} {ticket : Row} {data : Assignments}
    (hread : readTicket (server comparison objectLiteral) s id user = some ticket)
    (hid : data.assigned "id" = none) (hsettled : Settled (data.setColumns ticket))
    (hkeeps : KeepsResolution ticket (data.setColumns ticket)) :
    Kept comparison s
      (execTicket (server comparison objectLiteral) draws (.write id data ticket) s) :=
  ⟨settledTickets_write hcollates h hread hid hsettled,
    keepsResolutions_write hcollates h hread hkeeps⟩

theorem kept_request (hcollates : Collates comparison) {s : Desk}
    (h : SettledTickets comparison s) {sendable : TicketRequest → Prop} (req : TicketRequest)
    (hadmitted : Admitted (server comparison objectLiteral) req s) :
    Kept comparison s ((ticketSystem (server comparison objectLiteral) draws sendable).alone
      (req.handler (server comparison objectLiteral)) s) := by
  have hstored : ∀ id user ticket,
      readTicket (server comparison objectLiteral) s id user = some ticket → Settled ticket :=
    fun id user ticket hread => h.settled ticket (stored_of_read hread).1
  cases req with
  | create dto companyId userId userType =>
    rw [TicketRequest.handler]
    obtain heq | ⟨ticketNumber, company, heq⟩ := alone_create sendable dto companyId
      userId userType
    · rw [heq]
      exact ⟨h, keepsResolutions_self s⟩
    · rw [heq]
      exact ⟨settledTickets_insert h dto ticketNumber userId company, keepsResolutions_insert _ s⟩
  | update id dto user =>
    rw [TicketRequest.handler]
    obtain heq | ⟨ticket, hread, hadmits, heq⟩ := alone_update sendable id dto user
      user.id
    · rw [heq]
      exact ⟨h, keepsResolutions_self s⟩
    · rw [heq]
      have htidy := hadmitted ticket hread hadmits
      exact kept_write hcollates h hread assigned_updateData_id
        (settled_update htidy hadmits (hstored id user ticket hread))
        (keepsResolution_update htidy hadmits)
  | assign id targetUserId user =>
    rw [TicketRequest.handler]
    obtain heq | ⟨ticket, hread, hvalid, heq⟩ := alone_assign sendable id
      targetUserId user
    · rw [heq]
      exact ⟨h, keepsResolutions_self s⟩
    · rw [heq]
      have hreason := hadmitted ticket hread hvalid
      exact kept_write hcollates h hread rfl
        (settled_assign targetUserId hvalid hreason (hstored id user ticket hread))
        (keepsResolution_of_assign targetUserId)
  | resolve id resolution user =>
    rw [TicketRequest.handler]
    obtain heq | ⟨ticket, hread, hvalid, heq⟩ := alone_resolve sendable id
      resolution user user.id
    · rw [heq]
      exact ⟨h, keepsResolutions_self s⟩
    · rw [heq]
      have hreason := hadmitted ticket hread hvalid
      have hstatus : hasStatus "RESOLVED"
          ((resolveData resolution user.id s.now).setColumns ticket) :=
        Assignments.setColumns_of_assigned (assigned_resolveData_status resolution) ticket
      exact kept_write hcollates h hread
        (by simp [resolveData, Assignments.assigned_ofProvided_cons])
        (settled_resolve resolution hreason) (keepsResolution_of_status hstatus (by decide))

theorem settledTickets_serial (hcollates : Collates comparison) {s₀ s : Desk}
    (hserial : (ticketSystem (server comparison objectLiteral) draws fun _ => True).Serial
      (Admitted (server comparison objectLiteral)) s₀ s)
    (h₀ : SettledTickets comparison s₀) : SettledTickets comparison s := by
  refine System.keeps_serial (fun req s h _ hadmitted => ?_) (fun s h => ?_) hserial h₀
  · exact (kept_request hcollates h req hadmitted).tickets
  · exact ⟨h.settled, h.unique⟩

/-- In every state that admitted requests lead to, one after another, the fields
of all tickets agree with their status, and the next request keeps the
resolution of what it closes. -/
theorem fields_agree_with_status (hcollates : Collates comparison) {s₀ s : Desk}
    (hserial : (ticketSystem (server comparison objectLiteral) draws fun _ => True).Serial
      (Admitted (server comparison objectLiteral)) s₀ s)
    (h₀ : SettledTickets comparison s₀) :
    (∀ row ∈ s.db "Ticket", Settled row) ∧
      ∀ req, Admitted (server comparison objectLiteral) req s →
        KeepsResolutions s
          ((ticketSystem (server comparison objectLiteral) draws fun _ => True).alone
            (req.handler (server comparison objectLiteral)) s) := by
  have h := settledTickets_serial hcollates hserial h₀
  exact ⟨h.settled, fun req hadmitted => (kept_request hcollates h req hadmitted).resolutions⟩

end Sequences

section Samples

def sampleCreate : TicketRequest :=
  .create
    { title := .text "printer", description := .undefined, contactName := .text "Ada"
      contactEmail := .text "ada@acme.example", contactPhone := .text "555"
      category := .undefined, subcategory := .undefined, location := .undefined
      latitude := .undefined, longitude := .undefined, priority := .undefined
      type := .undefined, assetId := .undefined, slaId := .undefined }
    (some "acme") "tech-1" .businessUser

def sampleUpdate (status : String) : TicketRequest :=
  .update "xx"
    { status := .text status, priority := .undefined, title := .undefined
      description := .undefined, category := .undefined, subcategory := .undefined
      location := .undefined, assignedToId := .undefined, onHoldReason := .undefined
      resolution := .undefined, contactName := .undefined, contactEmail := .undefined
      contactPhone := .undefined }
    sampleTechnician

def emptyDesk : Desk where
  db _ := []
  now := 1700000000000
  drawn := 0

abbrev sampleSystem : System Desk TicketOp TicketRequest :=
  ticketSystem sampleServer sampleDraws fun _ => True

def afterRequests (reqs : List TicketRequest) : Desk :=
  reqs.foldl (fun s req => sampleSystem.alone (req.handler sampleServer) s) emptyDesk

def resolveNew : TicketRequest := .resolve "xx" (.text "replaced the fuser") sampleTechnician

theorem settled_emptyDesk : SettledTickets Comparison.binary emptyDesk :=
  ⟨fun _ hrow => absurd hrow List.not_mem_nil, .nil⟩

theorem collates_binary : Collates Comparison.binary := by
  intro a b c hab hbc
  simp only [Comparison.binary, decide_eq_true_eq] at *
  exact hab.trans hbc

/-- A ticket is created and resolved. -/
theorem fields_agree_with_status_resolve : ∃ s : Desk,
    (s.db "Ticket").map (· "status") = [some (.text "RESOLVED")] ∧
      ∀ row ∈ s.db "Ticket", Settled row := by
  have hreason : (readTicket sampleServer (afterRequests [sampleCreate]) "xx"
      sampleTechnician).all (fun ticket => (ticket "onHoldReason").isNone) = true := by
    decide
  have hadmitted : Admitted sampleServer resolveNew (afterRequests [sampleCreate]) := by
    intro ticket hread hvalid
    rw [hread] at hreason
    exact Option.isNone_iff_eq_none.mp hreason
  have hserial : sampleSystem.Serial (Admitted sampleServer) emptyDesk
      (afterRequests [sampleCreate, resolveNew]) :=
    .request (.request .refl sampleCreate trivial trivial) resolveNew trivial hadmitted
  exact ⟨_, by decide,
    (fields_agree_with_status collates_binary hserial settled_emptyDesk).1⟩

/-- A ticket is created, resolved and closed: closing clears what the resolution
left. -/
theorem closing_loses_resolution : ¬ ∀ (comparison : Comparison)
    (objectLiteral : Js → Option Scalar) (draws : Draws) (s₀ s : Desk), Collates comparison →
    (ticketSystem (server comparison objectLiteral) draws fun _ => True).Serial
      (fun _ _ => True) s₀ s →
    SettledTickets comparison s₀ → ∀ row ∈ s.db "Ticket", Settled row := by
  intro hall
  have hserial : sampleSystem.Serial (fun _ _ => True) emptyDesk
      (afterRequests [sampleCreate, resolveNew, sampleUpdate "CLOSED"]) :=
    .request (.request (.request .refl sampleCreate trivial trivial) resolveNew trivial trivial)
      (sampleUpdate "CLOSED") trivial trivial
  have hsettled := hall _ _ _ _ _ collates_binary hserial settled_emptyDesk
  have hclosed : ((afterRequests [sampleCreate, resolveNew, sampleUpdate "CLOSED"]).db
      "Ticket").any (fun row => row "status" = some (.text "CLOSED") &&
        (row "resolvedAt").isNone) = true := by decide
  obtain ⟨row, hrow, hfields⟩ := List.any_eq_true.mp hclosed
  simp only [Bool.and_eq_true, decide_eq_true_eq, Option.isNone_iff_eq_none] at hfields
  have hthere := (hsettled row hrow).resolved.mpr (.inr hfields.1)
  rw [hfields.2] at hthere
  cases hthere

end Samples
end FieldserviceIT.Tickets
