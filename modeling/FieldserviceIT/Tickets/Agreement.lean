import FieldserviceIT.Tickets.EntryPoints
import FieldserviceIT.Tickets.Isolation
import Mathlib.Data.List.Pairwise

/-!
Do the ways to a ticket agree? A session reaches tickets through the board, the
access check, the search and the agent; each ticket it reaches there should be
one the detail view shows the same user. The detail view carries the permission
scopes the guard loads; the other ways carry the tenant scope alone, or scopes
of their own loading.
-/

namespace FieldserviceIT.Tickets

open Common Database Lib Sql

/-- A signed-in user behind the tenant guard, before permissions are loaded,
with what the other guards consult. -/
structure Session where
  user : CurrentUser
  tables : PermissionTables
  same : String → String → Bool
  now : Int
  policiesAllow : Bool
  featureAllowed : String → Bool
  unloaded : user.permissionScopes = none
  inTenant : user.passesTenantGuard = true
  company : user.effectiveCompanyId = none ∨ user.effectiveCompanyId = user.companyId

inductive EntryPoint where
  | board
  | ticketAccess
  | search
  | agentSearch
  | agentBacklog
  deriving DecidableEq

inductive Request where
  | board
  | ticketAccess (id : String)
  | search (query : String)
  | agentSearch (intent : AgentIntent)
  | agentBacklog

def Request.entryPoint : Request → EntryPoint
  | board => .board
  | ticketAccess _ => .ticketAccess
  | search _ => .search
  | agentSearch _ => .agentSearch
  | agentBacklog => .agentBacklog

namespace Session

variable (s : Session)

/-- The user with the permissions and scopes the guard of the tickets
controller loads. -/
def ticketUser : CurrentUser :=
  (s.tables.permissionsGuard s.same s.now s.user [] true).getD s.user

def searchScopes : List PermissionScope :=
  s.tables.searchScopes s.same s.user

def admits : EntryPoint → Bool
  | .board | .ticketAccess =>
    s.featureAllowed "tickets" &&
      (s.tables.permissionsGuard s.same s.now s.user ["tickets.view"] s.policiesAllow).isSome
  | .search => (s.tables.searchPermissions s.same s.now s.user).contains "tickets.view"
  | .agentSearch | .agentBacklog =>
    s.featureAllowed "aiAgent" &&
      s.user.passesRolesGuard [.tenantAdmin, .superAdmin, .technician, .dispatcher]

variable (sv : Server) (db : Db)

/-- The tickets a request is answered with, or works on; `none` when it fails. -/
def served : Request → Option (List Row)
  | .board => (getBoard sv db s.ticketUser).map fun board =>
    board.flatMap fun column => column.tickets.map (·.row)
  | .ticketAccess id => (assertTicketAccess sv db id s.ticketUser).map Option.toList
  | .search query => searchTickets sv db s.now s.user query s.searchScopes
  | .agentSearch intent => agentSearchTickets sv db s.user intent
  | .agentBacklog => (summarizeTicketBacklog sv db s.user).map fun backlog =>
    backlog.counted ++ backlog.oldestOpen

/-- The row of the signed-in user is stored as the session has it. -/
def Stored (comparison : Comparison) (db : Db) : Prop :=
  ∃ row ∈ db "User", row "id" = some (.text s.user.id) ∧
    row "userType" = some (.text (if s.user.isPublic then "PUBLIC" else "BUSINESS")) ∧
    StoredTickets comparison db

/-- Through this entry point the session reaches only tickets that `findOne`
shows the same user in the same state. -/
def Agrees (e : EntryPoint) : Prop :=
  s.admits e = true →
    ∀ (comparison : Comparison) (objectLiteral : Js → Option Scalar) (db : Db),
      s.Stored comparison db → ∀ request, request.entryPoint = e → ∀ rows,
        s.served (server comparison objectLiteral) db request = some rows →
          ∀ row ∈ rows, ∀ id, row "id" = some (.text id) →
            ∃ detail, findOne (server comparison objectLiteral) db s.now id s.ticketUser true =
              some (some detail) ∧ detail.ticket.row "id" = some (.text id)

/-- The ticket scopes the detail view applies leave something out. -/
def restricted : Bool :=
  restrictedBy "tickets." s.ticketUser.permissionScopes

/-- When an entry point agrees with the detail view: no permission scope it
does not know restricts the user, the board is not a public user's, and the
search is not a global technician's. A search that is restricted itself always
fails. -/
def agreesWhen : EntryPoint → Bool
  | .board => !s.restricted && (s.user.isGlobalAdmin || s.user.isGlobalTech || !s.user.isPublic)
  | .ticketAccess | .agentSearch | .agentBacklog => !s.restricted
  | .search =>
    restrictedBy "tickets." (some s.searchScopes) ||
      (!s.restricted && (!s.user.isGlobalTech || s.user.isPublic))

theorem ticketUser_eq : s.ticketUser =
    if s.user.role = .superAdmin then s.user
    else { s.user with
      permissionScopes := some (s.tables.guardScopes s.same s.user)
      permissionSlugs := some (s.tables.userPermissionSlugs s.same s.now s.user) } := by
  simp only [ticketUser, PermissionTables.permissionsGuard]
  split <;> simp

theorem ticketUser_role : s.ticketUser.role = s.user.role := by
  rw [ticketUser_eq]
  split <;> rfl

theorem ticketUser_isGlobalAdmin : s.ticketUser.isGlobalAdmin = s.user.isGlobalAdmin := by
  rw [ticketUser_eq]
  split <;> rfl

theorem ticketUser_isGlobalTech : s.ticketUser.isGlobalTech = s.user.isGlobalTech := by
  rw [ticketUser_eq]
  split <;> rfl

theorem ticketUser_isPublic : s.ticketUser.isPublic = s.user.isPublic := by
  rw [ticketUser_eq]
  split <;> rfl

theorem ticketUser_companyId : s.ticketUser.companyId = s.user.companyId := by
  rw [ticketUser_eq]
  split <;> rfl

theorem ticketUser_id : s.ticketUser.id = s.user.id := by
  rw [ticketUser_eq]
  split <;> rfl

theorem tenantEntry_ticketUser : tenantEntry s.ticketUser = tenantEntry s.user := by
  simp only [tenantEntry, ticketUser_isGlobalAdmin, ticketUser_isGlobalTech, ticketUser_isPublic,
    ticketUser_companyId, ticketUser_id]

theorem truthy_companyId (hadmin : ¬s.user.isGlobalAdmin = true)
    (hglobal : ¬s.user.isGlobalTech = true) (hpublic : ¬s.user.isPublic = true) :
    truthy s.user.companyId = true := by
  have htenant := s.inTenant
  simp only [CurrentUser.passesTenantGuard, Bool.or_eq_true, decide_eq_true_eq] at htenant
  obtain ((hrole | hrole) | hrole) | htruthy := htenant
  · simpa [CurrentUser.isGlobalAdmin, hrole] using hadmin
  · simp [CurrentUser.isGlobalTech, hrole] at hglobal
  · exact absurd hrole hpublic
  · exact htruthy

end Session

section Detail

variable {comparison : Comparison} {objectLiteral : Js → Option Scalar} {db : Db} {now : Int}

theorem joined_comm (a b : Option Scalar) : joined comparison a b = joined comparison b a := by
  cases a <;> cases b <;> simp [joined, comparison.equal_comm]

theorem eq_of_joined {rows : List Row}
    (hunique : rows.Pairwise fun r s => joined comparison (r "id") (s "id") = false) {r s : Row}
    (hr : r ∈ rows) (hs : s ∈ rows) (hids : joined comparison (r "id") (s "id") = true) :
    r = s := by
  by_contra hne
  have hsymm : Std.Symm fun r s : Row => joined comparison (r "id") (s "id") = false :=
    ⟨fun r s h => by rwa [joined_comm]⟩
  have hdistinct := hunique.forall hr hs hne
  rw [hids] at hdistinct
  cases hdistinct

theorem StoredTickets.eq_of_joined (h : StoredTickets comparison db) {r s : Row}
    (hr : r ∈ db "Ticket") (hs : s ∈ db "Ticket")
    (hids : joined comparison (r "id") (s "id") = true) : r = s :=
  Tickets.eq_of_joined h.unique hr hs hids

/-- What the detail view asks for when no permission scope restricts it. -/
def detailFilter (id : String) (user : CurrentUser) : Filter :=
  [.column "id" (.equals (.text id)), .column "deletedAt" .isNull] ++ tenantEntry user

theorem correct_of_read {f : Filter} (hover : ∀ e ∈ f, e.isOver "Ticket" = true)
    (hread : ∀ e ∈ f, e.readByTicket = true) (hdeleted : Entry.column "deletedAt" .isNull ∈ f) :
    Query.ticket.Correct f := by
  refine Query.correct_of_supports .ticket ?_ ?_
  · rw [Filter.isOver_eq, List.all_eq_true]
    exact hover
  · have hreads := List.all_eq_true.mpr hread
    simp only [Query.supports, Query.reads, hreads, Bool.true_and, Bool.or_eq_true]
    exact .inr (List.any_eq_true.mpr ⟨_, hdeleted, rfl⟩)

theorem detailFilter_correct (id : String) (user : CurrentUser) :
    Query.ticket.Correct (detailFilter id user) := by
  have hmem : ∀ e ∈ detailFilter id user, e.isOver "Ticket" = true ∧ e.readByTicket = true := by
    intro e he
    simp only [detailFilter, List.cons_append, List.nil_append, List.mem_cons] at he
    obtain rfl | rfl | he := he
    · exact ⟨by simp [Entry.isOver, columns, ticketColumns], rfl⟩
    · exact ⟨by decide, rfl⟩
    · exact ⟨tenantEntry_isOver user e he, tenantEntry_read user e he⟩
  exact correct_of_read (fun e he => (hmem e he).1) (fun e he => (hmem e he).2)
    (by simp [detailFilter])

theorem findOneWhere_eq (id : String) {user : CurrentUser}
    (h : restrictedBy "tickets." user.permissionScopes = false) (sv : Server) :
    findOneWhere sv db now id user = detailFilter id user :=
  scopedWhere_unrestricted sv db now _ h (by simp [Entry.key])

theorem findOne_of_rows {sv : Server} {id : String} {user : CurrentUser} {row : Row}
    {rows : List Row}
    (hrows : Query.ticket.rows sv db (Filter.fields (findOneWhere sv db now id user)) =
      some (row :: rows)) :
    ∃ detail, findOne sv db now id user true = some (some detail) ∧
      detail.ticket.row "id" = row "id" := by
  simp only [findOne, findFirst, hrows, Option.map_some, List.head?_cons, if_true]
  refine ⟨_, rfl, ?_⟩
  simp only [withSla]
  split <;> simp only [maskSensitiveTicket] <;> split <;> simp [enrichTicket, maskRow]

theorem findOne_of_scope {user : CurrentUser} {row : Row} {id : String}
    (hscopes : restrictedBy "tickets." user.permissionScopes = false)
    (hstored : StoredTickets comparison db) (hrow : row ∈ db "Ticket")
    (hid : row "id" = some (.text id)) (hdeleted : row "deletedAt" = none)
    (htenant : ∀ e ∈ tenantEntry user, e.holds comparison db row = true) :
    ∃ detail, findOne (server comparison objectLiteral) db now id user true = some (some detail) ∧
      detail.ticket.row "id" = some (.text id) := by
  have hwhere : findOneWhere (server comparison objectLiteral) db now id user =
      detailFilter id user :=
    findOneWhere_eq id hscopes _
  have hholds : Filter.holds comparison db row (detailFilter id user) = true := by
    rw [Filter.holds_eq, List.all_eq_true]
    intro e he
    simp only [detailFilter, List.cons_append, List.nil_append, List.mem_cons] at he
    obtain rfl | rfl | he := he
    · simp [Entry.holds, ColumnTest.holds, hid, comparison.equal_refl]
    · simp [Entry.holds, ColumnTest.holds, hdeleted]
    · exact htenant e he
  have hfound : row ∈ (db "Ticket").filter fun row => Filter.holds comparison db row
      (detailFilter id user) :=
    List.mem_filter.mpr ⟨hrow, hholds⟩
  have hrows : Query.ticket.rows (server comparison objectLiteral) db
      (Filter.fields (findOneWhere (server comparison objectLiteral) db now id user)) =
        some ((db "Ticket").filter fun row => Filter.holds comparison db row
          (detailFilter id user)) := by
    rw [hwhere]
    exact detailFilter_correct id user comparison objectLiteral db
  cases hlist : (db "Ticket").filter fun row => Filter.holds comparison db row
      (detailFilter id user) with
  | nil => simp [hlist] at hfound
  | cons first rest =>
    have hfirst : first ∈ (db "Ticket").filter fun row =>
        Filter.holds comparison db row (detailFilter id user) := by
      rw [hlist]
      simp
    obtain ⟨hmem, hfirstHolds⟩ := List.mem_filter.mp hfirst
    rw [Filter.holds_eq, List.all_eq_true] at hfirstHolds
    have hidHolds := hfirstHolds (.column "id" (.equals (.text id))) (by simp [detailFilter])
    have heq : first = row := by
      refine hstored.eq_of_joined hmem hrow ?_
      simpa [joined, hid, Entry.holds, ColumnTest.holds] using hidHolds
    rw [hlist, heq] at hrows
    obtain ⟨detail, hdetail, hdetailId⟩ := findOne_of_rows hrows
    exact ⟨detail, hdetail, hdetailId.trans hid⟩

theorem findOne_restricted {user : CurrentUser} {maskSensitive : Bool} (id : String)
    (hscopes : restrictedBy "tickets." user.permissionScopes = true) :
    findOne (server comparison objectLiteral) db now id user maskSensitive = none := by
  obtain ⟨⟨parts, hand⟩, hover⟩ := scopedWhere_restricted (server comparison objectLiteral) db now
    [.column "id" (.equals (.text id)), .column "deletedAt" .isNull] hscopes
    (by simp [Entry.isOver, columns, ticketColumns]) (by simp [Entry.key])
  have hrows := rows_of_and comparison objectLiteral db hand hover
  simp only [findOne, findFirst, findOneWhere, hrows, Option.map_none]

end Detail

section Reaching

variable {comparison : Comparison} {objectLiteral : Js → Option Scalar} {db : Db}

/-- A stored ticket, not deleted, inside the tenant scope of a user. -/
structure InScope (comparison : Comparison) (db : Db) (user : CurrentUser) (row : Row) : Prop where
  stored : row ∈ db "Ticket"
  notDeleted : row "deletedAt" = none
  inTenant : ∀ e ∈ tenantEntry user, e.holds comparison db row = true

theorem mem_findMany {sv : Server} {where_ : Filter} {orderBy : String × Direction}
    {skip take : QueryNumber} {wanted : Include} {tickets : List TicketRecord} {t : TicketRecord}
    (h : findMany sv db where_ orderBy skip take wanted = some tickets) (ht : t ∈ tickets) :
    ∃ rows, Query.ticket.rows sv db (Filter.fields where_) = some rows ∧ t.row ∈ rows := by
  simp only [findMany, Option.bind_eq_bind, Option.bind_eq_some_iff, Option.pure_def,
    Option.some.injEq] at h
  obtain ⟨rows, hrows, limit, -, offset, -, rfl⟩ := h
  obtain ⟨row, hrow, rfl⟩ := List.mem_map.mp ht
  exact ⟨rows, hrows, mem_of_mem_page hrow⟩

theorem inScope_of_rows {user : CurrentUser} {f : Filter} {rows : List Row} {row : Row}
    (hover : ∀ e ∈ f, e.isOver "Ticket" = true)
    (hrows : Query.ticket.rows (server comparison objectLiteral) db (Filter.fields f) = some rows)
    (hrow : row ∈ rows) (hdeleted : Entry.column "deletedAt" .isNull ∈ f)
    (htenant : ∀ e ∈ tenantEntry user, e ∈ f) : InScope comparison db user row := by
  have hoverAll : Filter.isOver Query.ticket.table f = true := by
    rw [Filter.isOver_eq, List.all_eq_true]
    exact hover
  have hentry := Query.holds_of_mem_rows .ticket hoverAll hrows hrow hdeleted rfl
  refine ⟨hentry.1, ?_, fun e he => ?_⟩
  · simpa [Entry.holds, ColumnTest.holds] using hentry.2
  · exact (Query.holds_of_mem_rows .ticket hoverAll hrows hrow (htenant e he)
      (tenantEntry_read user e he)).2

theorem boardWhere_eq (user : CurrentUser) : boardWhere user =
    .column "deletedAt" .isNull ::
      (if user.isGlobalAdmin || user.isGlobalTech || !user.isPublic then tenantEntry user
      else [.column "companyId" (valueOrNull user.companyId)]) := by
  unfold boardWhere tenantEntry
  cases user.isGlobalAdmin <;> cases user.isGlobalTech <;> cases user.isPublic <;> rfl

theorem boardWhere_isOver (user : CurrentUser) :
    ∀ e ∈ boardWhere user, e.isOver "Ticket" = true := by
  intro e he
  rw [boardWhere_eq] at he
  obtain rfl | he := List.mem_cons.mp he
  · decide
  · split at he
    · exact tenantEntry_isOver user e he
    · obtain rfl := List.mem_singleton.mp he
      simp [Entry.isOver, columns, ticketColumns]

theorem inScope_of_board {user : CurrentUser} {columns : List BoardColumn} {row : Row}
    (hscope : (user.isGlobalAdmin || user.isGlobalTech || !user.isPublic) = true)
    (h : getBoard (server comparison objectLiteral) db user = some columns)
    (hrow : row ∈ columns.flatMap fun column => column.tickets.map (·.row)) :
    InScope comparison db user row := by
  simp only [getBoard, Option.bind_eq_bind, Option.bind_eq_some_iff, Option.pure_def,
    Option.some.injEq] at h
  obtain ⟨tickets, htickets, rfl⟩ := h
  obtain ⟨column, hcolumn, hmem⟩ := List.mem_flatMap.mp hrow
  obtain ⟨status, -, rfl⟩ := List.mem_map.mp hcolumn
  obtain ⟨t, ht, rfl⟩ := List.mem_map.mp hmem
  obtain ⟨rows, hrows, hfound⟩ := mem_findMany htickets (List.mem_filter.mp ht).1
  refine inScope_of_rows (boardWhere_isOver user) hrows hfound ?_ ?_ <;> rw [boardWhere_eq]
  · simp
  · intro e he
    rw [if_pos hscope]
    exact List.mem_cons_of_mem _ he

theorem inScope_of_access {user : CurrentUser} {id : String} {found : Row}
    (h : assertTicketAccess (server comparison objectLiteral) db id user = some (some found)) :
    ∃ row, InScope comparison db user row ∧ found "id" = row "id" := by
  simp only [assertTicketAccess, findFirst, Option.map_eq_some_iff] at h
  obtain ⟨found, ⟨rows, hrows, hhead⟩, t, rfl, rfl⟩ := h
  obtain ⟨row, hfirst, rfl⟩ := Option.map_eq_some_iff.mp hhead
  rw [applyTenantScope_eq user (by simp [Entry.key])] at hrows
  refine ⟨row, inScope_of_rows ?_ hrows (List.mem_of_mem_head? hfirst) (by simp)
    fun e he => by simp [he], rfl⟩
  intro e he
  obtain he | he := List.mem_append.mp he
  · simp only [List.mem_cons, List.not_mem_nil, or_false] at he
    obtain rfl | rfl := he <;> simp [Entry.isOver, columns, ticketColumns]
  · exact tenantEntry_isOver user e he

def searchTenantEntry (user : CurrentUser) : Filter :=
  if user.isPublic then [.column "createdById" (.equals (.text user.id))]
  else if truthy (orElse user.effectiveCompanyId user.companyId) then
    [.column "companyId" (valueOrNull (orElse user.effectiveCompanyId user.companyId))]
  else []

def searchTextEntry (query : String) : Entry :=
  .or [[.column "title" (.contains query)], [.column "ticketNumber" (.contains query)],
    [.column "description" (.contains query)]]

theorem searchTicketsWhere_eq (sv : Server) (db : Db) (now : Int) (user : CurrentUser)
    (query : String) {scopes : List PermissionScope}
    (hscopes : restrictedBy "tickets." (some scopes) = false) :
    searchTicketsWhere sv db now user query scopes =
      [.column "deletedAt" .isNull, searchTextEntry query] ++ searchTenantEntry user := by
  simp only [searchTicketsWhere, searchTenantEntry, hscopes]
  cases user.isPublic <;> cases truthy (orElse user.effectiveCompanyId user.companyId) <;> rfl

theorem searchTenantEntry_isOver (user : CurrentUser) :
    ∀ e ∈ searchTenantEntry user, e.isOver "Ticket" = true := by
  intro e he
  unfold searchTenantEntry at he
  repeat' split at he
  all_goals simp only [List.not_mem_nil, List.mem_singleton] at he
  all_goals
    obtain rfl := he
    simp [Entry.isOver, columns, ticketColumns]

theorem searchTenantEntry_read (user : CurrentUser) :
    ∀ e ∈ searchTenantEntry user, e.readByTicket = true := by
  intro e he
  unfold searchTenantEntry at he
  repeat' split at he
  all_goals simp only [List.not_mem_nil, List.mem_singleton] at he
  · obtain rfl := he
    rfl
  · obtain rfl := he
    exact valueOrNull_plain _

theorem searchTextEntry_isOver (query : String) : (searchTextEntry query).isOver "Ticket" = true := by
  simp [searchTextEntry, Entry.isOver, Filter.allOver, Filter.isOver, columns, ticketColumns]

theorem mem_searchTickets {now : Int} {user : CurrentUser} {query : String}
    {scopes : List PermissionScope} {rows : List Row} {found : Row}
    (hscopes : restrictedBy "tickets." (some scopes) = false)
    (h : searchTickets (server comparison objectLiteral) db now user query scopes = some rows)
    (hfound : found ∈ rows) :
    ∃ row, row ∈ db "Ticket" ∧ found "id" = row "id" ∧ row "deletedAt" = none ∧
      ∀ e ∈ searchTenantEntry user, e.holds comparison db row = true := by
  simp only [searchTickets, Option.map_eq_some_iff] at h
  obtain ⟨tickets, htickets, rfl⟩ := h
  obtain ⟨t, ht, rfl⟩ := List.mem_map.mp hfound
  obtain ⟨rows, hrows, hrow⟩ := mem_findMany htickets ht
  rw [searchTicketsWhere_eq _ _ _ _ _ hscopes] at hrows
  have hover : Filter.isOver Query.ticket.table
      ([.column "deletedAt" .isNull, searchTextEntry query] ++ searchTenantEntry user) = true := by
    rw [Filter.isOver_eq, List.all_eq_true]
    intro e he
    simp only [List.cons_append, List.nil_append, List.mem_cons] at he
    obtain rfl | rfl | he := he
    · decide
    · exact searchTextEntry_isOver query
    · exact searchTenantEntry_isOver user e he
  have hmem : Entry.column "deletedAt" .isNull ∈
      [.column "deletedAt" .isNull, searchTextEntry query] ++ searchTenantEntry user := by
    simp
  have hdeleted := Query.holds_of_mem_rows .ticket hover hrows hrow hmem rfl
  refine ⟨t.row, hdeleted.1, rfl, ?_, fun e he => ?_⟩
  · simpa [Entry.holds, ColumnTest.holds] using hdeleted.2
  · exact (Query.holds_of_mem_rows .ticket hover hrows hrow (by simp [he])
      (searchTenantEntry_read user e he)).2

/-- Outside the global technicians the search's scope is the tenant's; a public
global technician is a public creator. -/
theorem Session.tenantEntry_of_searchTenantEntry (s : Session) {row : Row}
    (huser : s.user.isGlobalTech = false ∨ s.user.isPublic = true)
    (hstored : s.Stored comparison db)
    (h : ∀ e ∈ searchTenantEntry s.user, e.holds comparison db row = true) :
    ∀ e ∈ tenantEntry s.user, e.holds comparison db row = true := by
  intro e he
  unfold tenantEntry at he
  unfold searchTenantEntry at h
  split at he
  · simp at he
  · next hadmin =>
      split at he
      · next hglobal =>
          obtain rfl := List.mem_singleton.mp he
          have hpublic := huser.resolve_left (by simp [hglobal])
          obtain ⟨own, hown, hid, htype, -⟩ := hstored
          rw [if_pos hpublic] at h htype
          have hcreator := h _ (List.mem_singleton.mpr rfl)
          simp only [Entry.holds, Filter.anyHolds, Filter.holds, Bool.or_eq_true, Bool.and_true,
            List.any_eq_true]
          refine .inr (.inl ⟨own, hown, ?_⟩)
          have hjoined : joined comparison (own "id") (row "createdById") = true := by
            rw [joined_comm, hid]
            simpa [joined, Entry.holds, ColumnTest.holds] using hcreator
          simp [hjoined, htype, ColumnTest.holds, comparison.equal_refl]
      · next hglobal =>
          split at he
          · next hpublic =>
              rw [if_pos hpublic] at h
              exact h e he
          · next hpublic =>
              rw [if_neg hpublic] at h
              have hcompany := s.truthy_companyId hadmin hglobal hpublic
              have heffective : orElse s.user.effectiveCompanyId s.user.companyId =
                  s.user.companyId := by
                obtain hnone | heq := s.company
                · simp [orElse, hnone, truthy]
                · simp [orElse, heq]
              rw [heffective, if_pos hcompany] at h
              exact h e he

end Reaching

section AgentReading

variable {comparison : Comparison} {objectLiteral : Js → Option Scalar} {db : Db}

theorem mem_select {table : String} {bound : List (Condition Js)} {rows : List Row}
    {row : Row}
    (h : (server comparison objectLiteral).select db table (some (Condition.textAll bound))
      (Condition.holesAll bound) = some rows) (hrow : row ∈ rows) :
    row ∈ db table ∧ ∀ c ∈ bound, selects comparison objectLiteral db [(table, row)] c = true := by
  have hne : bound ≠ [] := by
    rintro rfl
    cases h
  cases haccepts : (server comparison objectLiteral).acceptsAll [table] bound with
  | false =>
    have hrefused := (server comparison objectLiteral).select_refused db table bound [] haccepts
    rw [List.append_nil, h] at hrefused
    cases hrefused
  | true =>
    have hselect := (server comparison objectLiteral).select_text db table bound [] hne haccepts
    rw [List.append_nil, h] at hselect
    obtain rfl := Option.some.inj hselect
    obtain ⟨hmem, hall⟩ := List.mem_filter.mp hrow
    exact ⟨hmem, fun c hc => List.all_eq_true.mp hall c hc⟩

def agentScope (user : CurrentUser) : Condition Js :=
  if user.isGlobalAdmin then .always
  else if user.isPublic then .compare .eq "createdById" (.text user.id)
  else if truthy user.companyId then .compare .eq "companyId" (.text (user.companyId.getD ""))
  else .never

theorem ticketScopeSql_eq (user : CurrentUser) :
    ticketScopeSql user = ((agentScope user).text, (agentScope user).holes) := by
  unfold ticketScopeSql agentScope
  repeat' split
  all_goals rfl

def agentEqualsBound (column : String) (value : Option String) : List (Condition Js) :=
  if truthy value then [.compare .eq column (.text (value.getD ""))] else []

theorem agentEquals_eq (column : String) (value : Option String) :
    agentEquals column value = (Condition.textAll (agentEqualsBound column value),
      Condition.holesAll (agentEqualsBound column value)) := by
  unfold agentEquals agentEqualsBound
  split <;> rfl

def agentContainsBound (query : Option String) : List (Condition Js) :=
  match query with
  | some text =>
    if 1 < utf16Length text then
      [.anyOf (["title", "ticketNumber", "description", "contactEmail"].map fun column =>
        .like column (containsPattern (.text text)))]
    else []
  | none => []

theorem agentContains_eq (query : Option String) :
    agentContains query = (Condition.textAll (agentContainsBound query),
      Condition.holesAll (agentContainsBound query)) := by
  cases query with
  | none => rfl
  | some text =>
    by_cases hlength : 1 < utf16Length text
    · simp only [agentContains, agentContainsBound, hlength, if_true]
      rfl
    · simp only [agentContains, agentContainsBound, hlength, if_false]
      rfl

def agentBound (user : CurrentUser) (intent : AgentIntent) : List (Condition Js) :=
  [.isNull "deletedAt", agentScope user] ++ agentEqualsBound "status" intent.status ++
    agentEqualsBound "priority" intent.priority ++ agentContainsBound intent.query

theorem agentSearchTickets_eq (sv : Server) (user : CurrentUser) (intent : AgentIntent) :
    agentSearchTickets sv db user intent =
      (sv.select db "Ticket" (some (Condition.textAll (agentBound user intent)))
        (Condition.holesAll (agentBound user intent))).map fun rows =>
          ((orderedBy sv.comparison "createdAt" .desc rows).take 10).map
            (withColumns ["id", "ticketNumber", "title", "status", "priority", "category",
              "contactEmail", "createdAt"]) := by
  simp only [agentSearchTickets, ticketScopeSql_eq, agentEquals_eq, agentContains_eq, agentBound,
    Condition.textAll, Condition.mapAll_append, Condition.holesAll_append]
  simp [Condition.mapAll, Condition.holesAll, Condition.map, Condition.holes]

theorem tenantEntry_of_agentScope {user : CurrentUser} {row : Row}
    (hglobal : user.isGlobalTech = false)
    (h : selects comparison objectLiteral db [("Ticket", row)] (agentScope user) = true) :
    ∀ e ∈ tenantEntry user, e.holds comparison db row = true := by
  intro e he
  unfold tenantEntry at he
  unfold agentScope at h
  have hcreator : "createdById" ∈ columns "Ticket" := by decide
  have hcompany : "companyId" ∈ columns "Ticket" := by decide
  split at he
  · simp at he
  · next hadmin =>
      rw [if_neg hadmin] at h
      rw [hglobal] at he
      simp only [Bool.false_eq_true, if_false] at he
      split at he
      · next hpublic =>
          obtain rfl := List.mem_singleton.mp he
          rw [if_pos hpublic, Js.text, selects_equals comparison objectLiteral db row [] hcreator]
            at h
          exact h
      · next hpublic =>
          obtain rfl := List.mem_singleton.mp he
          rw [if_neg hpublic] at h
          split at h
          · next htruthy =>
              rw [Js.text, selects_equals comparison objectLiteral db row [] hcompany] at h
              cases hvalue : user.companyId with
              | none => simp [truthy, hvalue] at htruthy
              | some company =>
                rw [hvalue] at h
                exact h
          · cases h

theorem inScope_of_agent {user : CurrentUser} {row : Row} (hglobal : user.isGlobalTech = false)
    (hrow : row ∈ db "Ticket")
    (hdeleted : selects comparison objectLiteral db [("Ticket", row)] (.isNull "deletedAt") = true)
    (hscope : selects comparison objectLiteral db [("Ticket", row)] (agentScope user) = true) :
    InScope comparison db user row := by
  have hcolumn : "deletedAt" ∈ columns "Ticket" := by decide
  refine ⟨hrow, ?_, tenantEntry_of_agentScope hglobal hscope⟩
  rw [selects_isNull comparison objectLiteral db row [] hcolumn] at hdeleted
  simpa [ColumnTest.holds] using hdeleted

theorem inScope_of_agentSearch {user : CurrentUser} {intent : AgentIntent} {rows : List Row}
    {found : Row} (hglobal : user.isGlobalTech = false)
    (h : agentSearchTickets (server comparison objectLiteral) db user intent = some rows)
    (hfound : found ∈ rows) : ∃ row, InScope comparison db user row ∧ found "id" = row "id" := by
  rw [agentSearchTickets_eq, Option.map_eq_some_iff] at h
  obtain ⟨selected, hselected, rfl⟩ := h
  obtain ⟨row, hrow, rfl⟩ := List.mem_map.mp hfound
  have hmem := mem_orderedBy.mp (List.mem_of_mem_take hrow)
  obtain ⟨hstored, hclauses⟩ := mem_select hselected hmem
  exact ⟨row, inScope_of_agent hglobal hstored (hclauses _ (by simp [agentBound]))
    (hclauses _ (by simp [agentBound])), rfl⟩

theorem inScope_of_backlog {user : CurrentUser} {backlog : TicketBacklog} {found : Row}
    (hglobal : user.isGlobalTech = false)
    (h : summarizeTicketBacklog (server comparison objectLiteral) db user = some backlog)
    (hfound : found ∈ backlog.counted ++ backlog.oldestOpen) :
    ∃ row, InScope comparison db user row ∧ found "id" = row "id" := by
  simp only [summarizeTicketBacklog, ticketScopeSql_eq, Option.bind_eq_bind,
    Option.bind_eq_some_iff, Option.pure_def, Option.some.injEq] at h
  obtain ⟨counted, hcounted, oldest, holdest, rfl⟩ := h
  have hcounted' : (server comparison objectLiteral).select db "Ticket"
      (some (Condition.textAll [.isNull "deletedAt", agentScope user]))
      (Condition.holesAll [.isNull "deletedAt", agentScope user]) = some counted := by
    simpa [Condition.textAll, Condition.mapAll, Condition.map, Condition.holesAll,
      Condition.holes] using hcounted
  have holdest' : (server comparison objectLiteral).select db "Ticket"
      (some (Condition.textAll [.isNull "deletedAt",
        .notIn "status" [.text "RESOLVED", .text "CLOSED"], agentScope user]))
      (Condition.holesAll [.isNull "deletedAt",
        .notIn "status" [.text "RESOLVED", .text "CLOSED"], agentScope user]) = some oldest := by
    simpa [Condition.textAll, Condition.mapAll, Condition.map, Condition.holesAll,
      Condition.holes] using holdest
  obtain hfound | hfound := List.mem_append.mp hfound
  · obtain ⟨hstored, hclauses⟩ := mem_select hcounted' hfound
    exact ⟨found, inScope_of_agent hglobal hstored (hclauses _ (by simp)) (hclauses _ (by simp)),
      rfl⟩
  · obtain ⟨row, hrow, rfl⟩ := List.mem_map.mp hfound
    have hmem := mem_orderedBy.mp (List.mem_of_mem_take hrow)
    obtain ⟨hstored, hclauses⟩ := mem_select holdest' hmem
    exact ⟨row, inScope_of_agent hglobal hstored (hclauses _ (by simp)) (hclauses _ (by simp)),
      rfl⟩

end AgentReading

theorem searchAlternatives_isOver (sv : Server) (db : Db) (now : Int)
    (matching : List PermissionScope) (user : CurrentUser) {f : Filter}
    (hf : f ∈ searchAlternatives sv db now matching user) : Filter.isOver "Ticket" f = true := by
  have hname : ∀ name ∈ ["assignedToId", "location", "companyId", "id"],
      name ∈ columns "Ticket" := by
    decide
  simp only [searchAlternatives, List.mem_append] at hf
  obtain ((hf | hf) | hf) | hf := hf
  · split at hf
    · obtain rfl := List.mem_singleton.mp hf
      exact Filter.isOver_column (hname _ (by simp)) _
    · simp at hf
  · split at hf
    · obtain rfl := List.mem_singleton.mp hf
      exact Filter.isOver_column (hname _ (by simp)) _
    · simp at hf
  · exact idAlternative_isOver (hname _ (by simp)) hf
  · split at hf
    · obtain hf | hf := List.mem_append.mp hf
      · exact idAlternative_isOver (hname _ (by simp)) hf
      · exact idAlternative_isOver (hname _ (by simp)) hf
    · simp at hf

theorem searchTickets_restricted {comparison : Comparison} {objectLiteral : Js → Option Scalar}
    {db : Db} {now : Int} {user : CurrentUser} {query : String} {scopes : List PermissionScope}
    (hscopes : restrictedBy "tickets." (some scopes) = true) :
    searchTickets (server comparison objectLiteral) db now user query scopes = none := by
  have hrows : Query.ticket.rows (server comparison objectLiteral) db (Filter.fields
      (searchTicketsWhere (server comparison objectLiteral) db now user query scopes)) = none := by
    simp only [searchTicketsWhere, hscopes, if_true]
    refine rows_of_and comparison objectLiteral db mem_assign_self fun e he => ?_
    obtain rfl | he := eq_or_mem_of_mem_assign he
    · simp only [Entry.isOver, Filter.allOver, Bool.and_true]
      split
      · exact Filter.isOver_column (by decide) _
      · simp only [Filter.isOver, Entry.isOver, Bool.and_true, Filter.allOver_eq, List.all_eq_true]
        exact fun f hf => searchAlternatives_isOver _ db now _ user hf
    · have hbase : ∀ e ∈ [Entry.column "deletedAt" .isNull, searchTextEntry query],
          e.isOver "Ticket" = true := by
        intro e he
        simp only [List.mem_cons, List.not_mem_nil, or_false] at he
        obtain rfl | rfl := he
        · decide
        · exact searchTextEntry_isOver query
      split at he
      · obtain rfl | he := eq_or_mem_of_mem_assign he
        · simp [Entry.isOver, columns, ticketColumns]
        · exact hbase e he
      · split at he
        · obtain rfl | he := eq_or_mem_of_mem_assign he
          · simp [Entry.isOver, columns, ticketColumns]
          · exact hbase e he
        · exact hbase e he
  simp only [searchTickets, findMany, hrows, Option.bind_eq_bind, Option.bind_none, Option.map_none]

namespace Session

variable (s : Session)

theorem detail_of_inScope {comparison : Comparison} {objectLiteral : Js → Option Scalar} {db : Db}
    {row found : Row} {id : String} (hscopes : s.restricted = false)
    (hstored : s.Stored comparison db) (hrow : InScope comparison db s.user row)
    (hfound : found "id" = row "id") (hid : found "id" = some (.text id)) :
    ∃ detail, findOne (server comparison objectLiteral) db s.now id s.ticketUser true =
      some (some detail) ∧ detail.ticket.row "id" = some (.text id) := by
  obtain ⟨own, -, -, -, htickets⟩ := hstored
  refine findOne_of_scope hscopes htickets hrow.stored (hfound ▸ hid) hrow.notDeleted ?_
  rw [tenantEntry_ticketUser]
  exact hrow.inTenant

theorem not_globalTech_of_rolesGuard
    (h : s.user.passesRolesGuard [.tenantAdmin, .superAdmin, .technician, .dispatcher] = true) :
    s.user.isGlobalTech = false := by
  cases hrole : s.user.role <;>
    simp_all [CurrentUser.passesRolesGuard, CurrentUser.isGlobalTech]

theorem agrees_of_agreesWhen {e : EntryPoint} (h : s.agreesWhen e = true) : s.Agrees e := by
  intro hadmits comparison objectLiteral db hstored request hrequest rows hserved found hfound id hid
  cases request with
  | board =>
    obtain rfl := hrequest
    simp only [Request.entryPoint, agreesWhen, Bool.and_eq_true, Bool.not_eq_true'] at h
    simp only [served, Option.map_eq_some_iff] at hserved
    obtain ⟨columns, hcolumns, rfl⟩ := hserved
    have hbranch : (s.ticketUser.isGlobalAdmin || s.ticketUser.isGlobalTech ||
        !s.ticketUser.isPublic) = true := by
      rw [ticketUser_isGlobalAdmin, ticketUser_isGlobalTech, ticketUser_isPublic]
      exact h.2
    have hscope := inScope_of_board hbranch hcolumns hfound
    refine s.detail_of_inScope h.1 hstored ⟨hscope.stored, hscope.notDeleted, ?_⟩ rfl hid
    rw [← tenantEntry_ticketUser]
    exact hscope.inTenant
  | ticketAccess asked =>
    obtain rfl := hrequest
    simp only [Request.entryPoint, agreesWhen, Bool.not_eq_true'] at h
    simp only [served, Option.map_eq_some_iff] at hserved
    obtain ⟨access, haccess, rfl⟩ := hserved
    obtain rfl := Option.mem_toList.mp hfound
    obtain ⟨row, hscope, hrow⟩ := inScope_of_access haccess
    refine s.detail_of_inScope h hstored ⟨hscope.stored, hscope.notDeleted, ?_⟩ hrow hid
    rw [← tenantEntry_ticketUser]
    exact hscope.inTenant
  | search query =>
    obtain rfl := hrequest
    simp only [Request.entryPoint, agreesWhen, Bool.or_eq_true, Bool.and_eq_true,
      Bool.not_eq_true'] at h
    simp only [served] at hserved
    obtain hsearch | ⟨hscopes, huser⟩ := h
    · rw [searchTickets_restricted hsearch] at hserved
      cases hserved
    · cases hsearch : restrictedBy "tickets." (some s.searchScopes) with
      | true =>
        rw [searchTickets_restricted hsearch] at hserved
        cases hserved
      | false =>
        obtain ⟨row, hrow, hrowId, hdeleted, htenant⟩ :=
          mem_searchTickets hsearch hserved hfound
        exact s.detail_of_inScope hscopes hstored
          ⟨hrow, hdeleted, s.tenantEntry_of_searchTenantEntry huser hstored htenant⟩ hrowId hid
  | agentSearch intent =>
    obtain rfl := hrequest
    simp only [Request.entryPoint, agreesWhen, Bool.not_eq_true'] at h
    simp only [Request.entryPoint, admits, Bool.and_eq_true] at hadmits
    obtain ⟨row, hscope, hrow⟩ := inScope_of_agentSearch
      (s.not_globalTech_of_rolesGuard hadmits.2) hserved hfound
    exact s.detail_of_inScope h hstored hscope hrow hid
  | agentBacklog =>
    obtain rfl := hrequest
    simp only [Request.entryPoint, agreesWhen, Bool.not_eq_true'] at h
    simp only [Request.entryPoint, admits, Bool.and_eq_true] at hadmits
    simp only [served, Option.map_eq_some_iff] at hserved
    obtain ⟨backlog, hbacklog, rfl⟩ := hserved
    obtain ⟨row, hscope, hrow⟩ := inScope_of_backlog
      (s.not_globalTech_of_rolesGuard hadmits.2) hbacklog hfound
    exact s.detail_of_inScope h hstored hscope hrow hid

end Session

section Probe

def probeTicket (creator : String) (companyId : Option String) : Row :=
  sampleTicket "printer" creator companyId (some "OPEN") 0

def Session.probeStore (s : Session) (creator : String) (companyId : Option String) : Db :=
  sampleStore 1 (sampleTicket "printer" creator companyId (some "OPEN"))
    [sampleUser s.user.id (if s.user.isPublic then "PUBLIC" else "BUSINESS")]

variable (s : Session) {creator : String} {companyId : Option String}

theorem Session.stored_probeStore :
    s.Stored Comparison.binary (s.probeStore creator companyId) :=
  ⟨sampleUser s.user.id (if s.user.isPublic then "PUBLIC" else "BUSINESS"),
    by simp [probeStore, sampleStore], by simp [sampleUser], by simp [sampleUser],
    storedTickets_sampleStore 1 _ "printer" creator companyId (some "OPEN")⟩

theorem rows_single {f : Filter} {db : Db} {row : Row} (hcorrect : Query.ticket.Correct f)
    (htickets : db "Ticket" = [row])
    (hholds : ∀ e ∈ f, e.holds Comparison.binary db row = true) :
    Query.ticket.rows (server Comparison.binary fun _ => none) db (Filter.fields f) =
      some [row] := by
  have hall : Filter.holds Comparison.binary db row f = true := by
    rw [Filter.holds_eq, List.all_eq_true]
    exact hholds
  have htable : db Query.ticket.table = [row] := htickets
  rw [hcorrect, htable]
  exact congrArg some (List.filter_cons_of_pos hall)

theorem orderedBy_single (comparison : Comparison) (column : String) (direction : Direction)
    (row : Row) : orderedBy comparison column direction [row] = [row] := by
  simp [orderedBy]

theorem findMany_single {sv : Server} {db : Db} {f : Filter} {orderBy : String × Direction}
    {wanted : Include} {row : Row} (n : Nat)
    (h : Query.ticket.rows sv db (Filter.fields f) = some [row]) :
    findMany sv db f orderBy (.finite (0 : Nat)) (.finite (n + 1 : Nat)) wanted =
      some [enrichTicket sv db row wanted] := by
  simp only [findMany, h, rowCount_natCast, Option.bind_eq_bind, Option.bind_some, Option.pure_def,
    orderedBy_single, List.drop_zero, List.take_succ_cons, List.take_nil, List.map_cons,
    List.map_nil]

theorem deletedAt_holds {db : Db} : (Entry.column "deletedAt" .isNull).holds Comparison.binary db
    (probeTicket creator companyId) = true := rfl

def shownCompany (user : CurrentUser) : Option String :=
  if user.isGlobalTech then none else user.companyId

theorem valueOrNull_holds (value : Option String) (db : Db) :
    (Entry.column "companyId" (valueOrNull value)).holds Comparison.binary db
      (probeTicket creator value) = true := by
  cases value <;>
    simp [Entry.holds, ColumnTest.holds, valueOrNull, probeTicket, sampleTicket,
      Comparison.equal_refl]

theorem createdById_holds (creator : String) (db : Db) :
    (Entry.column "createdById" (.equals (.text creator))).holds Comparison.binary db
      (probeTicket creator companyId) = true := by
  simp [Entry.holds, ColumnTest.holds, probeTicket, sampleTicket, Comparison.equal_refl]

theorem tenantEntry_holds (user : CurrentUser) (db : Db) : ∀ e ∈ tenantEntry user,
    e.holds Comparison.binary db (probeTicket user.id (shownCompany user)) = true := by
  intro e he
  unfold tenantEntry at he
  split at he
  · simp at he
  · split at he
    · next hglobal =>
        obtain rfl := List.mem_singleton.mp he
        rw [shownCompany, if_pos hglobal]
        rfl
    · next hglobal =>
        split at he
        · obtain rfl := List.mem_singleton.mp he
          exact createdById_holds user.id db
        · obtain rfl := List.mem_singleton.mp he
          rw [shownCompany, if_neg hglobal]
          exact valueOrNull_holds user.companyId db

theorem boardWhere_branches (user : CurrentUser) : boardWhere user =
    .column "deletedAt" .isNull ::
      if user.isGlobalAdmin then []
      else if user.isGlobalTech then [.or [[.column "companyId" .isNull],
        [.createdBy [.column "userType" (.equals (.text "PUBLIC"))]]]]
      else [.column "companyId" (valueOrNull user.companyId)] := by
  unfold boardWhere
  repeat' split
  all_goals rfl

theorem boardWhere_holds (creator : String) (user : CurrentUser) (db : Db) : ∀ e ∈ boardWhere user,
    e.holds Comparison.binary db (probeTicket creator (shownCompany user)) = true := by
  intro e he
  rw [boardWhere_branches] at he
  obtain rfl | he := List.mem_cons.mp he
  · exact deletedAt_holds
  · split at he
    · simp at he
    · split at he
      · next hglobal =>
          obtain rfl := List.mem_singleton.mp he
          rw [shownCompany, if_pos hglobal]
          rfl
      · next hglobal =>
          obtain rfl := List.mem_singleton.mp he
          rw [shownCompany, if_neg hglobal]
          exact valueOrNull_holds user.companyId db

theorem boardWhere_read (user : CurrentUser) : ∀ e ∈ boardWhere user, e.readByTicket = true := by
  intro e he
  rw [boardWhere_eq] at he
  obtain rfl | he := List.mem_cons.mp he
  · rfl
  · split at he
    · exact tenantEntry_read user e he
    · obtain rfl := List.mem_singleton.mp he
      exact valueOrNull_plain _

theorem findOne_outside {user : CurrentUser} {e : Entry} {now : Int}
    (hscopes : restrictedBy "tickets." user.permissionScopes = false) (he : e ∈ tenantEntry user)
    (hfails : e.holds Comparison.binary (s.probeStore creator companyId)
      (probeTicket creator companyId) = false) (id : String) :
    findOne (server Comparison.binary fun _ => none) (s.probeStore creator companyId) now id user
      true = some none := by
  have hmem : e ∈ detailFilter id user := by simp [detailFilter, he]
  have hrows := detailFilter_correct id user Comparison.binary (fun _ => none)
    (s.probeStore creator companyId)
  have hnone : ((s.probeStore creator companyId) Query.ticket.table).filter (fun row =>
      Filter.holds Comparison.binary (s.probeStore creator companyId) row (detailFilter id user)) =
        [] := by
    refine List.filter_eq_nil_iff.mpr fun row hrow hholds => ?_
    obtain rfl : row = probeTicket creator companyId := List.mem_singleton.mp hrow
    rw [Filter.holds_eq, List.all_eq_true] at hholds
    rw [hholds e hmem] at hfails
    cases hfails
  rw [hnone] at hrows
  simp only [findOne, findFirst, findOneWhere_eq id hscopes, hrows, Option.map_some,
    List.head?_nil, Option.map_none]

namespace Session

theorem not_agrees_of_probe (request : Request) {rows : List Row} {found : Row}
    (hadmits : s.admits request.entryPoint = true)
    (hserved : s.served (server Comparison.binary fun _ => none) (s.probeStore creator companyId)
      request = some rows) (hfound : found ∈ rows) (hid : found "id" = some (.text "x"))
    (hhidden : ∀ detail, findOne (server Comparison.binary fun _ => none)
      (s.probeStore creator companyId) s.now "x" s.ticketUser true ≠ some (some detail)) :
    ¬ s.Agrees request.entryPoint := by
  intro hagrees
  obtain ⟨detail, hdetail, -⟩ := hagrees hadmits Comparison.binary (fun _ => none)
    (s.probeStore creator companyId) s.stored_probeStore request rfl rows hserved found hfound "x" hid
  exact hhidden detail hdetail

theorem hidden_of_restricted (h : s.restricted = true) (detail : TicketDetail) :
    findOne (server Comparison.binary fun _ => none) (s.probeStore creator companyId) s.now "x"
      s.ticketUser true ≠ some (some detail) := by
  rw [findOne_restricted "x" h]
  exact Option.some_ne_none _ |>.symm

theorem hidden_of_outside (hscopes : s.restricted = false) {e : Entry}
    (he : e ∈ tenantEntry s.user)
    (hfails : e.holds Comparison.binary (s.probeStore creator companyId)
      (probeTicket creator companyId) = false) (detail : TicketDetail) :
    findOne (server Comparison.binary fun _ => none) (s.probeStore creator companyId) s.now "x"
      s.ticketUser true ≠ some (some detail) := by
  rw [findOne_outside s hscopes (s.tenantEntry_ticketUser ▸ he) hfails]
  simp

theorem shownCompany_ticketUser : shownCompany s.ticketUser = shownCompany s.user := by
  rw [shownCompany, shownCompany, ticketUser_isGlobalTech, ticketUser_companyId]

theorem served_board (creator : String) : ∃ rows,
    s.served (server Comparison.binary fun _ => none)
      (s.probeStore creator (shownCompany s.user)) .board = some rows ∧
        probeTicket creator (shownCompany s.user) ∈ rows := by
  have hcorrect : Query.ticket.Correct (boardWhere s.ticketUser) :=
    correct_of_read (boardWhere_isOver _) (boardWhere_read _) (by rw [boardWhere_eq]; simp)
  have hholds := boardWhere_holds creator s.ticketUser
    (s.probeStore creator (shownCompany s.user))
  rw [s.shownCompany_ticketUser] at hholds
  have htickets := fun orderBy wanted =>
    @findMany_single _ _ _ orderBy wanted _ 199 (rows_single hcorrect rfl hholds)
  simp only [served, getBoard, htickets, Option.bind_eq_bind, Option.bind_some, Option.pure_def,
    Option.map_some]
  refine ⟨_, rfl, ?_⟩
  simp [boardStatuses, enrichTicket, probeTicket, sampleTicket]

theorem served_ticketAccess : ∃ found, s.served (server Comparison.binary fun _ => none)
    (s.probeStore s.user.id (shownCompany s.user)) (.ticketAccess "x") = some [found] ∧
      found "id" = some (.text "x") := by
  have hholds : ∀ e ∈ detailFilter "x" s.user, e.holds Comparison.binary
      (s.probeStore s.user.id (shownCompany s.user))
        (probeTicket s.user.id (shownCompany s.user)) = true := by
    intro e he
    simp only [detailFilter, List.cons_append, List.nil_append, List.mem_cons] at he
    obtain rfl | rfl | he := he
    · rfl
    · exact deletedAt_holds
    · exact tenantEntry_holds s.user _ e he
  have hrows := rows_single (detailFilter_correct "x" s.user) rfl hholds
  have hwhere : applyTenantScope s.ticketUser
      [.column "id" (.equals (.text "x")), .column "deletedAt" .isNull] =
        detailFilter "x" s.user := by
    rw [applyTenantScope_eq s.ticketUser (by simp [Entry.key]), tenantEntry_ticketUser]
    rfl
  simp only [served, assertTicketAccess, findFirst, hwhere, hrows, Option.map_some,
    List.head?_cons, Option.toList_some]
  exact ⟨_, rfl, rfl⟩

def searchedCompany : String :=
  if truthy (orElse s.user.effectiveCompanyId s.user.companyId) then
    (orElse s.user.effectiveCompanyId s.user.companyId).getD ""
  else "another-company"

theorem served_search (hscopes : restrictedBy "tickets." (some s.searchScopes) = false) :
    ∃ found, s.served (server Comparison.binary fun _ => none)
      (s.probeStore s.user.id (some s.searchedCompany)) (.search "printer") = some [found] ∧
        found "id" = some (.text "x") := by
  have hcorrect : Query.ticket.Correct ([.column "deletedAt" .isNull, searchTextEntry "printer"] ++
      searchTenantEntry s.user) := by
    refine correct_of_read (fun e he => ?_) (fun e he => ?_) (by simp)
    all_goals
      simp only [List.cons_append, List.nil_append, List.mem_cons] at he
      obtain rfl | rfl | he := he
    · decide
    · exact searchTextEntry_isOver _
    · exact searchTenantEntry_isOver _ e he
    · rfl
    · decide
    · exact searchTenantEntry_read _ e he
  have hholds : ∀ e ∈ [.column "deletedAt" .isNull, searchTextEntry "printer"] ++
      searchTenantEntry s.user, e.holds Comparison.binary
        (s.probeStore s.user.id (some s.searchedCompany))
          (probeTicket s.user.id (some s.searchedCompany)) = true := by
    intro e he
    simp only [List.cons_append, List.nil_append, List.mem_cons] at he
    obtain rfl | rfl | he := he
    · exact deletedAt_holds
    · simp only [searchTextEntry, Entry.holds, Filter.anyHolds, Filter.holds, Bool.or_eq_true]
      refine .inl ?_
      change (ColumnTest.holds Comparison.binary (.contains "printer") (some (.text "printer")) &&
        true) = true
      decide
    · unfold searchTenantEntry at he
      repeat' split at he
      · obtain rfl := List.mem_singleton.mp he
        exact createdById_holds s.user.id _
      · next htruthy =>
          obtain rfl := List.mem_singleton.mp he
          have hvalue : orElse s.user.effectiveCompanyId s.user.companyId =
              some s.searchedCompany := by
            rw [searchedCompany, if_pos htruthy]
            cases h : orElse s.user.effectiveCompanyId s.user.companyId with
            | none => simp [h, truthy] at htruthy
            | some company => rfl
          rw [hvalue]
          exact valueOrNull_holds (some s.searchedCompany) _
      · simp at he
  have htickets := fun orderBy wanted =>
    @findMany_single _ _ _ orderBy wanted _ 24 (rows_single hcorrect rfl hholds)
  simp only [served, searchTickets, searchTicketsWhere_eq _ _ _ _ _ hscopes, htickets,
    Option.map_some, List.map_cons, List.map_nil]
  exact ⟨_, rfl, rfl⟩

theorem accepts_agentScope (user : CurrentUser) :
    (server Comparison.binary fun _ => none).accepts ["Ticket"] (agentScope user) = true := by
  have hcreator : "createdById" ∈ columns "Ticket" := by decide
  have hcompany : "companyId" ∈ columns "Ticket" := by decide
  unfold agentScope
  repeat' split
  · rfl
  · simp [Server.accepts, hcreator, Js.text, Server.literal]
  · simp [Server.accepts, hcompany, Js.text, Server.literal]
  · rfl

theorem selects_agentScope (hglobal : s.user.isGlobalTech = false) :
    selects Comparison.binary (fun _ => none) (s.probeStore s.user.id (shownCompany s.user))
      [("Ticket", probeTicket s.user.id (shownCompany s.user))] (agentScope s.user) = true := by
  have hcreator : "createdById" ∈ columns "Ticket" := by decide
  have hcompany : "companyId" ∈ columns "Ticket" := by decide
  have hshown : shownCompany s.user = s.user.companyId := by simp [shownCompany, hglobal]
  unfold agentScope
  split
  · rfl
  · next hadmin =>
      split
      · rw [Js.text, selects_equals _ _ _ _ [] hcreator]
        exact @createdById_holds (shownCompany s.user) s.user.id fun _ => []
      · next hpublic =>
          have htruthy := s.truthy_companyId hadmin (by simp [hglobal]) hpublic
          rw [if_pos htruthy, Js.text, selects_equals _ _ _ _ [] hcompany, hshown]
          cases hvalue : s.user.companyId with
          | none => simp [hvalue, truthy] at htruthy
          | some company => exact @valueOrNull_holds s.user.id (some company) fun _ => []

theorem select_single {db : Db} {row : Row} {bound : List (Condition Js)} (hne : bound ≠ [])
    (htickets : db "Ticket" = [row])
    (haccepts : (server Comparison.binary fun _ => none).acceptsAll ["Ticket"] bound = true) :
    ∃ rows, (server Comparison.binary fun _ => none).select db "Ticket"
      (some (Condition.textAll bound)) (Condition.holesAll bound) = some rows ∧
        ((∀ c ∈ bound, selects Comparison.binary (fun _ => none) db [("Ticket", row)] c = true) →
            rows = [row]) := by
  have hselect := (server Comparison.binary fun _ => none).select_text db "Ticket" bound [] hne
    haccepts
  rw [List.append_nil, htickets] at hselect
  exact ⟨_, hselect, fun hselects => List.filter_cons_of_pos (List.all_eq_true.mpr hselects)⟩

theorem selects_notDeleted : selects Comparison.binary (fun _ => none)
    (s.probeStore creator companyId) [("Ticket", probeTicket creator companyId)]
      (.isNull "deletedAt") = true := by
  have hcolumn : "deletedAt" ∈ columns "Ticket" := by decide
  rw [selects_isNull _ _ _ _ [] hcolumn]
  rfl

theorem accepts_backlog : (server Comparison.binary fun _ => none).acceptsAll ["Ticket"]
    [.isNull "deletedAt", agentScope s.user] = true := by
  rw [Server.acceptsAll_eq, List.all_cons, List.all_cons, accepts_agentScope]
  rfl

theorem selects_backlog (hglobal : s.user.isGlobalTech = false) :
    ∀ c ∈ [.isNull "deletedAt", agentScope s.user], selects Comparison.binary (fun _ => none)
      (s.probeStore s.user.id (shownCompany s.user))
        [("Ticket", probeTicket s.user.id (shownCompany s.user))] c = true := by
  intro c hc
  simp only [List.mem_cons, List.not_mem_nil, or_false] at hc
  obtain rfl | rfl := hc
  · exact s.selects_notDeleted
  · exact s.selects_agentScope hglobal

theorem served_agentSearch (hglobal : s.user.isGlobalTech = false) : ∃ found,
    s.served (server Comparison.binary fun _ => none)
      (s.probeStore s.user.id (shownCompany s.user)) (.agentSearch ⟨none, none, none⟩) =
        some [found] ∧ found "id" = some (.text "x") := by
  have hbound : agentBound s.user ⟨none, none, none⟩ = [.isNull "deletedAt", agentScope s.user] := rfl
  obtain ⟨rows, hselect, hfound⟩ := @select_single
    (s.probeStore s.user.id (shownCompany s.user)) (probeTicket s.user.id (shownCompany s.user))
    [.isNull "deletedAt", agentScope s.user] (by simp) rfl s.accepts_backlog
  obtain rfl := hfound (s.selects_backlog hglobal)
  simp only [served, agentSearchTickets_eq, hbound, hselect, Option.map_some, orderedBy_single]
  exact ⟨_, rfl, rfl⟩

theorem served_agentBacklog (hglobal : s.user.isGlobalTech = false) : ∃ rows,
    s.served (server Comparison.binary fun _ => none)
      (s.probeStore s.user.id (shownCompany s.user)) .agentBacklog = some rows ∧
        probeTicket s.user.id (shownCompany s.user) ∈ rows := by
  obtain ⟨counted, hcounted, hfound⟩ := @select_single
    (s.probeStore s.user.id (shownCompany s.user)) (probeTicket s.user.id (shownCompany s.user))
    [.isNull "deletedAt", agentScope s.user] (by simp) rfl s.accepts_backlog
  obtain rfl := hfound (s.selects_backlog hglobal)
  obtain ⟨oldest, holdest, -⟩ := @select_single
    (s.probeStore s.user.id (shownCompany s.user)) (probeTicket s.user.id (shownCompany s.user))
    [.isNull "deletedAt", .notIn "status" [.text "RESOLVED", .text "CLOSED"], agentScope s.user]
    (by simp) rfl (by
      rw [Server.acceptsAll_eq, List.all_cons, List.all_cons, List.all_cons, accepts_agentScope]
      decide)
  have hserved : s.served (server Comparison.binary fun _ => none)
      (s.probeStore s.user.id (shownCompany s.user)) .agentBacklog = some
        ([probeTicket s.user.id (shownCompany s.user)] ++
          ((orderedBy Comparison.binary "createdAt" .asc oldest).take 5).map
            (withColumns ["id", "ticketNumber", "title", "status", "priority", "createdAt"])) := by
    simp only [served, summarizeTicketBacklog, ticketScopeSql_eq, Option.bind_eq_bind]
    simp only [Condition.textAll, Condition.mapAll, Condition.map, Condition.holesAll,
      Condition.holes, List.nil_append, List.append_nil] at hcounted holdest
    rw [hcounted, Option.bind_some, holdest]
    rfl
  exact ⟨_, hserved, by simp⟩

theorem not_agrees_of_not_agreesWhen {e : EntryPoint} (hadmits : s.admits e = true)
    (h : s.agreesWhen e = false) : ¬ s.Agrees e := by
  cases e with
  | board =>
    obtain ⟨rows, hserved, hfound⟩ := s.served_board (s.user.id ++ "x")
    refine s.not_agrees_of_probe .board hadmits hserved hfound rfl ?_
    cases hscopes : s.restricted with
    | true => exact s.hidden_of_restricted hscopes
    | false =>
      simp only [agreesWhen, hscopes, Bool.not_false, Bool.true_and, Bool.or_eq_false_iff,
        Bool.not_eq_false'] at h
      obtain ⟨⟨hadmin, hglobal⟩, hpublic⟩ := h
      have hentry : .column "createdById" (.equals (.text s.user.id)) ∈ tenantEntry s.user := by
        simp [tenantEntry, hadmin, hglobal, hpublic]
      refine s.hidden_of_outside hscopes hentry ?_
      simp [Entry.holds, ColumnTest.holds, probeTicket, sampleTicket, Comparison.binary]
  | ticketAccess =>
    obtain ⟨found, hserved, hid⟩ := s.served_ticketAccess
    refine s.not_agrees_of_probe (.ticketAccess "x") hadmits hserved (by simp) hid ?_
    exact s.hidden_of_restricted (by simpa [agreesWhen] using h)
  | search =>
    simp only [agreesWhen, Bool.or_eq_false_iff, Bool.and_eq_false_iff, Bool.not_eq_false'] at h
    obtain ⟨hsearch, hwhy⟩ := h
    obtain ⟨found, hserved, hid⟩ := s.served_search hsearch
    refine s.not_agrees_of_probe (.search "printer") hadmits hserved (by simp) hid ?_
    cases hscopes : s.restricted with
    | true => exact s.hidden_of_restricted hscopes
    | false =>
      rw [hscopes] at hwhy
      obtain ⟨hglobal, hpublic⟩ := hwhy.resolve_left (by simp)
      have hentry : .or [[.column "companyId" .isNull],
          [.createdBy [.column "userType" (.equals (.text "PUBLIC"))]]] ∈
            tenantEntry s.user := by
        simp [tenantEntry, not_globalAdmin_of_globalTech hglobal, hglobal]
      refine s.hidden_of_outside hscopes hentry ?_
      simp [Entry.holds, Filter.anyHolds, Filter.holds, ColumnTest.holds, probeTicket,
        sampleTicket, probeStore, sampleStore, sampleUser, hpublic, Comparison.binary]
  | agentSearch =>
    have hscopes : s.restricted = true := by simpa [agreesWhen] using h
    simp only [admits, Bool.and_eq_true] at hadmits
    obtain ⟨found, hserved, hid⟩ :=
      s.served_agentSearch (s.not_globalTech_of_rolesGuard hadmits.2)
    refine s.not_agrees_of_probe (.agentSearch ⟨none, none, none⟩) ?_ hserved (by simp)
      hid (s.hidden_of_restricted hscopes)
    simpa [Request.entryPoint, admits] using hadmits
  | agentBacklog =>
    have hscopes : s.restricted = true := by simpa [agreesWhen] using h
    simp only [admits, Bool.and_eq_true] at hadmits
    obtain ⟨rows, hserved, hfound⟩ :=
      s.served_agentBacklog (s.not_globalTech_of_rolesGuard hadmits.2)
    refine s.not_agrees_of_probe .agentBacklog ?_ hserved hfound rfl
      (s.hidden_of_restricted hscopes)
    simpa [Request.entryPoint, admits] using hadmits

end Session
end Probe

def globalTechSession : Session where
  user := { id := "tech-1", role := .globalTech, userType := .businessUser, companyId := none,
            effectiveCompanyId := none, location := none, permissionScopes := none,
            permissionSlugs := none }
  tables := { roles := [⟨"role-1", "GLOBAL_TECH", "global-tech", true⟩], userRoles := [],
              rolePermissions := [("role-1", "tickets.view")], temporaryGrants := [], scopes := [] }
  same := fun a b => a == b
  now := 0
  policiesAllow := true
  featureAllowed := fun _ => true
  unloaded := rfl
  inTenant := rfl
  company := .inl rfl

end FieldserviceIT.Tickets
