import FieldserviceIT.Tickets.Masking

/-!
Internal timeline entries. The detail view asks the database layer for public
entries only, but the layer reads no such filter: it attaches the newest entries
whatever they are. What is left to hide them is the mask, and the mask lets
public users pass. The public tracking endpoint attaches the same entries and
has no mask.
-/

namespace FieldserviceIT.Tickets

open Common Database Sql

def isInternal (entry : Row) : Bool :=
  (entry "isInternal").any isTruthy

/-- `where[column] = value` for a column value that was read before. -/
def columnIs : Option Scalar → ColumnTest
  | some v => .equals v
  | none => .isNull

section Tracking

variable (sv : Server) (db : Db)

/-- `user.findUnique({ where: { email } })` -/
def findUserByEmail (email : String) : Option Row :=
  (db "User").find? fun user => joined sv.comparison (user "email") (some (.text email))

def trackWhere (ticketNumber : String) (user : Row) : Filter :=
  [.column "ticketNumber" (.equals (.text ticketNumber)),
    .column "createdById" (columnIs (user "id")), .column "deletedAt" .isNull]

/-- `AuthService.trackTicket`, for the address as it is looked up; the inner
`none` is `Ticket not found`. -/
def trackTicket (email ticketNumber : String) : Option (Option TicketRecord) :=
  match findUserByEmail sv db email with
  | none => some none
  | some user =>
    findFirst sv db (trackWhere ticketNumber user)
      { createdBy := true, assignedTo := true, resolvedBy := true, timeline := some 50 }

def newestEntries (ticket : Row) : List Row :=
  (orderedBy sv.comparison "createdAt" .desc (ownedBy sv db "TicketTimeline" (ticket "id"))).take 50

/-- None of the entries a reader attaches to the ticket is internal. -/
def publicTimeline (ticket : Row) : Bool :=
  (newestEntries sv db ticket).all fun entry => !isInternal entry

end Tracking

/-- The ticket that was found, if one was, shows no internal entry. -/
def HidesInternal (found : Option (Option TicketRecord)) : Prop :=
  ∀ ticket, found = some (some ticket) → ∀ entries, ticket.timeline = some entries →
    ∀ entry ∈ entries, isInternal entry.1 = false

theorem hidesInternal_none : HidesInternal none := fun _ h => by cases h

theorem hidesInternal_notFound : HidesInternal (some none) := fun _ h => by cases h

theorem hidesInternal_found {ticket : TicketRecord} : HidesInternal (some (some ticket)) ↔
    ∀ entries, ticket.timeline = some entries → ∀ entry ∈ entries, isInternal entry.1 = false := by
  constructor
  · intro h
    exact h ticket rfl
  · intro h found hfound
    obtain rfl := Option.some.inj (Option.some.inj hfound)
    exact h

section Attached

variable {sv : Server} {db : Db}

theorem hidesInternal_enrichTicket {row : Row} {wanted : Include}
    (hwanted : wanted.timeline = some 50) :
    HidesInternal (some (some (enrichTicket sv db row wanted))) ↔
      publicTimeline sv db row = true := by
  rw [hidesInternal_found, publicTimeline, List.all_eq_true]
  simp only [enrichTicket, hwanted, Option.map_some]
  constructor
  · intro h entry hentry
    simpa using h _ rfl _ (List.mem_map_of_mem hentry)
  · rintro h entries hentries entry hentry
    obtain rfl := Option.some.inj hentries
    obtain ⟨stored, hstored, rfl⟩ := List.mem_map.mp hentry
    simpa using h stored hstored

theorem hidesInternal_masked {user : CurrentUser} (hmasks : masks user = true)
    (hviewer : canViewInternalTimeline user = false) (ticket : TicketRecord) :
    HidesInternal (some (some (maskSensitiveTicket ticket user))) := by
  rw [hidesInternal_found]
  simp only [maskSensitiveTicket, hmasks, if_true, hviewer, Bool.false_eq_true, if_false]
  intro entries hentries entry hentry
  obtain ⟨attached, -, rfl⟩ := Option.map_eq_some_iff.mp hentries
  simpa [isInternal] using (List.mem_filter.mp hentry).2

theorem masks_of_not_viewer {user : CurrentUser} (hviewer : canViewInternalTimeline user = false) :
    masks user = !user.isPublic := by
  simp only [canViewInternalTimeline, Bool.or_eq_false_iff] at hviewer
  have hrole : user.role ≠ .superAdmin := by
    intro h
    simp [h] at hviewer
  simp [masks, hviewer.2, hrole]

end Attached

section Callers

variable (comparison : Comparison) (objectLiteral : Js → Option Scalar) (db : Db) (now : Int)

/-- The ticket the detail view finds for a user whom no scope restricts. -/
def detailRow (id : String) (user : CurrentUser) : Option Row :=
  (db "Ticket").find? fun row => Filter.holds comparison db row (detailFilter id user)

def trackedRow (ticketNumber : String) (user : Row) : Option Row :=
  (db "Ticket").find? fun row => Filter.holds comparison db row (trackWhere ticketNumber user)

theorem findFirst_of_correct {f : Filter} (h : Query.ticket.Correct f) (wanted : Include) :
    findFirst (server comparison objectLiteral) db f wanted =
      some (((db "Ticket").find? fun row => Filter.holds comparison db row f).map
        (enrichTicket (server comparison objectLiteral) db · wanted)) := by
  simp only [findFirst, h comparison objectLiteral db, Option.map_some, List.head?_filter]
  rfl

theorem trackWhere_correct (ticketNumber : String) (user : Row) :
    Query.ticket.Correct (trackWhere ticketNumber user) := by
  refine correct_of_read (fun e he => ?_) (fun e he => ?_) (by simp [trackWhere])
  · simp only [trackWhere, List.mem_cons, List.not_mem_nil, or_false] at he
    obtain rfl | rfl | rfl := he <;> simp [Entry.isOver, columns, ticketColumns]
  · simp only [trackWhere, List.mem_cons, List.not_mem_nil, or_false] at he
    obtain rfl | rfl | rfl := he
    · rfl
    · cases user "id" <;> rfl
    · rfl

theorem findOne_of_unrestricted (id : String) {user : CurrentUser}
    (hscopes : restrictedBy "tickets." user.permissionScopes = false) :
    ∃ wanted : Include, wanted.timeline = some 50 ∧
      (findOne (server comparison objectLiteral) db now id user true).map
        (Option.map (·.ticket)) = some ((detailRow comparison db id user).map fun row =>
          maskSensitiveTicket (enrichTicket (server comparison objectLiteral) db row wanted) user) := by
  refine ⟨
    { createdBy := true, assignedTo := true, resolvedBy := true, asset := true, sla := true,
      timeline := some 50, attachments := true, dispatches := true }, rfl, ?_⟩
  rw [findOne, findOneWhere_eq id hscopes,
    findFirst_of_correct comparison objectLiteral db (detailFilter_correct id user)]
  simp only [Option.map_some, Option.map_map, if_true, Function.comp_def, withSla_ticket]
  rfl

/-- The detail view hides internal entries from a caller exactly when the caller
may see them, is no public user, is shown no ticket, or there are none. -/
theorem findOne_hidesInternal_iff (id : String) (user : CurrentUser) :
    (canViewInternalTimeline user = false →
      HidesInternal ((findOne (server comparison objectLiteral) db now id user true).map
        (Option.map (·.ticket)))) ↔
      (canViewInternalTimeline user = true ∨ user.isPublic = false ∨
        restrictedBy "tickets." user.permissionScopes = true ∨
          ∀ row, detailRow comparison db id user = some row →
            publicTimeline (server comparison objectLiteral) db row = true) := by
  cases hviewer : canViewInternalTimeline user with
  | true => simp
  | false =>
    have hmasks := masks_of_not_viewer hviewer
    cases hscopes : restrictedBy "tickets." user.permissionScopes with
    | true =>
      rw [findOne_restricted id hscopes]
      simp only [Option.map_none, hidesInternal_none, true_or, or_true, implies_true]
    | false =>
      obtain ⟨wanted, hwanted, hfound⟩ :=
        findOne_of_unrestricted comparison objectLiteral db now id hscopes
      rw [hfound]
      cases hpublic : user.isPublic with
      | false =>
        rw [hpublic, Bool.not_false] at hmasks
        simp only [true_or, or_true, iff_true]
        intro _
        cases detailRow comparison db id user with
        | none => exact hidesInternal_notFound
        | some row => exact hidesInternal_masked hmasks hviewer _
      | true =>
        rw [hpublic, Bool.not_true] at hmasks
        simp only [Bool.false_eq_true, reduceCtorEq, false_or, forall_const]
        cases detailRow comparison db id user with
        | none => simp [hidesInternal_notFound]
        | some row =>
          simp only [Option.map_some, maskSensitiveTicket, hmasks, Bool.false_eq_true,
            if_false, hidesInternal_enrichTicket hwanted, Option.some.injEq, forall_eq']

theorem trackTicket_hidesInternal_iff (email ticketNumber : String) :
    HidesInternal (trackTicket (server comparison objectLiteral) db email ticketNumber) ↔
      ∀ requester, findUserByEmail (server comparison objectLiteral) db email = some requester →
        ∀ row, trackedRow comparison db ticketNumber requester = some row →
          publicTimeline (server comparison objectLiteral) db row = true := by
  unfold trackTicket
  cases findUserByEmail (server comparison objectLiteral) db email with
  | none => simp [hidesInternal_notFound]
  | some requester =>
    simp only [findFirst_of_correct comparison objectLiteral db
      (trackWhere_correct ticketNumber requester), Option.some.injEq, forall_eq']
    rw [← trackedRow]
    cases trackedRow comparison db ticketNumber requester with
    | none => simp [hidesInternal_notFound]
    | some row =>
      simp only [Option.map_some, Option.some.injEq, forall_eq']
      exact hidesInternal_enrichTicket rfl

/-- Where internal notes stay internal. -/
theorem internal_hidden_iff (id : String) (user : CurrentUser) (email ticketNumber : String) :
    ((canViewInternalTimeline user = false →
        HidesInternal ((findOne (server comparison objectLiteral) db now id user true).map
          (Option.map (·.ticket)))) ↔
      (canViewInternalTimeline user = true ∨ user.isPublic = false ∨
        restrictedBy "tickets." user.permissionScopes = true ∨
          ∀ row, detailRow comparison db id user = some row →
            publicTimeline (server comparison objectLiteral) db row = true)) ∧
      (HidesInternal (trackTicket (server comparison objectLiteral) db email ticketNumber) ↔
        ∀ requester, findUserByEmail (server comparison objectLiteral) db email = some requester →
          ∀ row, trackedRow comparison db ticketNumber requester = some row →
            publicTimeline (server comparison objectLiteral) db row = true) :=
  ⟨findOne_hidesInternal_iff comparison objectLiteral db now id user,
    trackTicket_hidesInternal_iff comparison objectLiteral db email ticketNumber⟩

end Callers
section Requester

def publicRequester : CurrentUser where
  id := "user-1"
  role := .client
  userType := .publicUser
  companyId := none
  effectiveCompanyId := none
  location := none
  permissionScopes := none
  permissionSlugs := some ["tickets.view"]

def notedStore : Db := fun table =>
  if table = "Ticket" then [sampleTicket "printer" "user-1" none (some "OPEN") 0]
  else if table = "User" then
    [fun column =>
      if column = "id" then some (.text "user-1")
      else if column = "email" then some (.text "ann@example.org")
      else none]
  else if table = "TicketTimeline" then
    [fun column =>
      if column = "ticketId" then some (.text "x")
      else if column = "isInternal" then some (.number 1)
      else if column = "comment" then some (.text "asked for the invoice twice")
      else none]
  else []

/-- The requester reads the note on the ticket, and so does whoever tracks it. -/
theorem requester_reads_internal_note :
    (¬ (canViewInternalTimeline publicRequester = false →
      HidesInternal ((findOne (server Comparison.binary fun _ => none) notedStore 0 "x"
        publicRequester true).map (Option.map (·.ticket))))) ∧
    ¬ HidesInternal (trackTicket (server Comparison.binary fun _ => none) notedStore
      "ann@example.org" "x") := by
  have hnote : publicTimeline (server Comparison.binary fun _ => none) notedStore
      (sampleTicket "printer" "user-1" none (some "OPEN") 0) = false := by decide
  constructor
  · rw [findOne_hidesInternal_iff]
    rintro (hviewer | hpublic | hscopes | hrow)
    · revert hviewer
      decide
    · revert hpublic
      decide
    · revert hscopes
      decide
    · exact absurd (hrow _ rfl) (hnote ▸ Bool.false_ne_true)
  · rw [trackTicket_hidesInternal_iff]
    intro hrow
    exact absurd (hrow _ rfl _ rfl) (hnote ▸ Bool.false_ne_true)

end Requester
end FieldserviceIT.Tickets
