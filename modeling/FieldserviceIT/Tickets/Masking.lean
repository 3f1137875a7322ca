import FieldserviceIT.Tickets.Agreement
import FieldserviceIT.Tickets.Export

/-!
What a caller whose tickets are masked learns of contact details. Two stores
that differ in the hidden characters of tickets of the caller's company are
compared: a reading that masks answers both alike. The list, the detail view and
the export do; the board and the agent's search hand the columns out as stored.
-/

namespace FieldserviceIT.Tickets

open Common Database Sql

def contactColumns : List String :=
  ["contactEmail", "contactPhone", "contactName"]

def maskDb (db : Db) : Db := fun table =>
  if table = "Ticket" then (db table).map maskRow else db table

/-- Only hidden characters differ, and only in tickets of the caller's company. -/
structure HiddenChange (user : CurrentUser) (db db' : Db) : Prop where
  others : ∀ table, table ≠ "Ticket" → db table = db' table
  tickets : List.Forall₂ (fun r r' => r = r' ∨
    (r "companyId" = user.companyId.map .text ∧ maskRow r = maskRow r')) (db "Ticket") ( db' "Ticket")

theorem HiddenChange.maskDb_eq {user : CurrentUser} {db db' : Db} (h : HiddenChange user db db') :
    maskDb db = maskDb db' := by
  funext table
  unfold maskDb
  split
  · next htable =>
      rw [htable]
      have htickets := h.tickets
      generalize db "Ticket" = rows at htickets
      generalize db' "Ticket" = rows' at htickets
      induction htickets with
      | nil => rfl
      | cons hrow _ ih =>
        obtain rfl | ⟨-, hmask⟩ := hrow
        · simp only [List.map_cons, ih]
        · simp only [List.map_cons, ih, hmask]
  · next htable => exact h.others table htable

section Blind

variable {comparison : Comparison} {objectLiteral : Js → Option Scalar}

def Blind (comparison : Comparison) (e : Entry) : Prop :=
  ∀ db row, e.holds comparison (maskDb db) (maskRow row) = e.holds comparison db row

theorem blind_column {name : String} (h : name ∉ contactColumns) (test : ColumnTest) :
    Blind comparison (.column name test) := by
  intro db row
  simp only [Entry.holds, maskRow_of_ne h]

theorem blind_tenantEntry (user : CurrentUser) : ∀ e ∈ tenantEntry user, Blind comparison e := by
  intro e he
  unfold tenantEntry at he
  repeat' split at he
  all_goals simp only [List.not_mem_nil, List.mem_singleton] at he
  · obtain rfl := he
    intro db row
    have hcompany : maskRow row "companyId" = row "companyId" := maskRow_of_ne (by decide)
    have hcreator : maskRow row "createdById" = row "createdById" := maskRow_of_ne (by decide)
    simp only [Entry.holds, Filter.anyHolds, Filter.holds, hcompany, hcreator]
    rfl
  · obtain rfl := he
    exact blind_column (by decide) _
  · obtain rfl := he
    exact blind_column (by decide) _

theorem blind_statusEntry (status : Option String) :
    ∀ e ∈ statusEntry status, Blind comparison e := by
  intro e he
  unfold statusEntry at he
  split at he
  · obtain rfl := List.mem_singleton.mp he
    exact blind_column (by decide) _
  · simp at he

theorem rows_maskDb {f : Filter} (hcorrect : Query.ticket.Correct f)
    (hblind : ∀ e ∈ f, Blind comparison e) (db : Db) : ∃ rows,
      Query.ticket.rows (server comparison objectLiteral) db (Filter.fields f) = some rows ∧
        Query.ticket.rows (server comparison objectLiteral) (maskDb db) (Filter.fields f) =
          some (rows.map maskRow) := by
  refine ⟨_, hcorrect comparison objectLiteral db, ?_⟩
  rw [hcorrect comparison objectLiteral (maskDb db)]
  have htickets : maskDb db Query.ticket.table = (db Query.ticket.table).map maskRow := rfl
  have hholds : ∀ row, Filter.holds comparison (maskDb db) (maskRow row) f =
      Filter.holds comparison db row f := by
    intro row
    rw [Filter.holds_eq, Filter.holds_eq, Bool.eq_iff_iff, List.all_eq_true, List.all_eq_true]
    exact forall₂_congr fun e he => by rw [hblind e he db row]
  rw [htickets, List.filter_map]
  simp only [Function.comp_def, hholds]

theorem orderedBy_maskRow {column : String} (h : column ∉ contactColumns) (direction : Direction)
    (rows : List Row) : (orderedBy comparison column direction rows).map maskRow =
      orderedBy comparison column direction (rows.map maskRow) := by
  unfold orderedBy
  refine List.map_insertionSort _ _ maskRow rows fun r _ s _ => ?_
  rw [maskRow_of_ne h, maskRow_of_ne h]

end Blind

section Masked

variable {sv : Server} {db : Db} {user : CurrentUser} {now : Int}

def hideInternal (user : CurrentUser) (ticket : TicketRecord) : TicketRecord :=
  { ticket with
    timeline := ticket.timeline.map fun entries =>
      if canViewInternalTimeline user then entries
      else entries.filter fun entry => !((entry.1 "isInternal").any isTruthy) }

theorem enrichTicket_maskDb (row : Row) (wanted : Include) :
    enrichTicket sv (maskDb db) (maskRow row) wanted =
      { enrichTicket sv db row wanted with row := maskRow row } := by
  simp only [enrichTicket, related, ownedBy, TicketRecord.mk.injEq, true_and]
  exact ⟨rfl, rfl, rfl, rfl, rfl, rfl, rfl, rfl⟩

theorem maskSensitiveTicket_enrich (hmasks : masks user = true) (row : Row) (wanted : Include) :
    maskSensitiveTicket (enrichTicket sv db row wanted) user =
      hideInternal user (enrichTicket sv (maskDb db) (maskRow row) wanted) := by
  rw [enrichTicket_maskDb]
  simp only [maskSensitiveTicket, hmasks, if_true, hideInternal]
  rfl

theorem listView_masked (hmasks : masks user = true) (row : Row) :
    listView sv db user row = hideInternal user (enrichTicket sv (maskDb db) (maskRow row)
      { createdBy := true, assignedTo := true, resolvedBy := true, asset := true }) :=
  maskSensitiveTicket_enrich hmasks row _

theorem withSla_ticket (ticket : TicketRecord) : (withSla now ticket).ticket = ticket := by
  unfold withSla
  split <;> rfl

theorem withSla_enrichTicket_maskDb (row : Row) (wanted : Include) :
    withSla now (enrichTicket sv (maskDb db) (maskRow row) wanted) =
      { withSla now (enrichTicket sv db row wanted) with
        ticket := enrichTicket sv (maskDb db) (maskRow row) wanted } := by
  have hcreated : maskRow row "createdAt" = row "createdAt" := maskRow_of_ne (by decide)
  rw [enrichTicket_maskDb]
  have hrow : (enrichTicket sv db row wanted).row = row := rfl
  simp only [withSla, hcreated, hrow]
  split <;> rfl

end Masked

section Concealing

variable {comparison : Comparison} {objectLiteral : Js → Option Scalar}
variable {user : CurrentUser} {now : Int} {db db' : Db}

theorem findAll_masked {query : ListQuery} (hmasks : masks user = true)
    (hsearch : truthy query.search = false) (h : maskDb db = maskDb db') :
    findAll (server comparison objectLiteral) db now user query =
      findAll (server comparison objectLiteral) db' now user query := by
  rw [findAll_eq, findAll_eq]
  cases hscopes : restrictedBy "tickets." user.permissionScopes with
  | true =>
    rw [findAllWhere_rows_restricted comparison objectLiteral db now hscopes,
      findAllWhere_rows_restricted comparison objectLiteral db' now hscopes]
  | false =>
    have hwhere : ∀ db, findAllWhere (server comparison objectLiteral) db now user query =
        .column "deletedAt" .isNull :: (tenantEntry user ++ statusEntry query.status) := by
      intro db
      rw [findAllWhere_eq _ _ _ hscopes (by simp [hsearch])]
      simp [searchEntry, hsearch]
    have hblind : ∀ e ∈ Entry.column "deletedAt" .isNull ::
        (tenantEntry user ++ statusEntry query.status), Blind comparison e := by
      intro e he
      obtain rfl | he := List.mem_cons.mp he
      · exact blind_column (by decide) _
      · obtain he | he := List.mem_append.mp he
        · exact blind_tenantEntry user e he
        · exact blind_statusEntry query.status e he
    have hcorrect := base_correct user query.status
    obtain ⟨rows, hrows, hmasked⟩ := @rows_maskDb comparison objectLiteral _ hcorrect hblind db
    obtain ⟨rows', hrows', hmasked'⟩ := @rows_maskDb comparison objectLiteral _ hcorrect hblind db'
    have hsame : rows.map maskRow = rows'.map maskRow := by
      rw [h, hmasked'] at hmasked
      exact (Option.some.inj hmasked).symm
    have hlength : rows.length = rows'.length := by simpa using congrArg List.length hsame
    -- a page is the page of the masked rows, seen through the related records
    have hpage : ∀ db rows limit offset, (((orderedBy comparison "createdAt" .desc rows).drop
        offset).take limit).map (listView (server comparison objectLiteral) db user) =
          (((orderedBy comparison "createdAt" .desc (rows.map maskRow)).drop offset).take
            limit).map fun row =>
              hideInternal user (enrichTicket (server comparison objectLiteral) (maskDb db) row
                { createdBy := true, assignedTo := true, resolvedBy := true, asset := true }) := by
      intro db rows limit offset
      rw [← orderedBy_maskRow (by decide), ← List.map_drop, ← List.map_take, List.map_map]
      exact List.map_congr_left fun row _ => listView_masked hmasks row
    rw [hwhere, hwhere, hrows, hrows']
    cases query.window with
    | none => rfl
    | some window => simp only [server_comparison, hpage, hsame, hlength, h]

theorem findOne_masked (id : String) (hmasks : masks user = true) (h : maskDb db = maskDb db') :
    findOne (server comparison objectLiteral) db now id user true =
      findOne (server comparison objectLiteral) db' now id user true := by
  cases hscopes : restrictedBy "tickets." user.permissionScopes with
  | true => rw [findOne_restricted id hscopes, findOne_restricted id hscopes]
  | false =>
    have hblind : ∀ e ∈ detailFilter id user, Blind comparison e := by
      intro e he
      simp only [detailFilter, List.cons_append, List.nil_append, List.mem_cons] at he
      obtain rfl | rfl | he := he
      · exact blind_column (by decide) _
      · exact blind_column (by decide) _
      · exact blind_tenantEntry user e he
    have hcorrect := detailFilter_correct id user
    obtain ⟨rows, hrows, hmasked⟩ := @rows_maskDb comparison objectLiteral _ hcorrect hblind db
    obtain ⟨rows', hrows', hmasked'⟩ := @rows_maskDb comparison objectLiteral _ hcorrect hblind db'
    have hsame : rows.head?.map maskRow = rows'.head?.map maskRow := by
      rw [h, hmasked'] at hmasked
      rw [← List.head?_map, ← List.head?_map, Option.some.inj hmasked]
    -- the detail of a row is the detail of the masked row, seen through the related records
    have hdetail : ∀ db row wanted,
        { withSla now (enrichTicket (server comparison objectLiteral) db row wanted) with
          ticket := maskSensitiveTicket
            (withSla now (enrichTicket (server comparison objectLiteral) db row wanted)).ticket
              user } =
          { withSla now (enrichTicket (server comparison objectLiteral) (maskDb db) (maskRow row)
              wanted) with
            ticket := hideInternal user (enrichTicket (server comparison objectLiteral)
              (maskDb db) (maskRow row) wanted) } := by
      intro db row wanted
      rw [withSla_ticket, maskSensitiveTicket_enrich hmasks, withSla_enrichTicket_maskDb]
    simp only [findOne, findFirst, findOneWhere_eq id hscopes, hrows, hrows', Option.map_some,
      Option.map_map, Function.comp_def, if_true, hdetail, h]
    cases hfirst : rows.head? <;> cases hfirst' : rows'.head? <;>
      simp only [hfirst, hfirst', Option.map_none, Option.map_some, reduceCtorEq,
        Option.some.injEq] at hsame ⊢
    simp only [hsame]

end Concealing

/-- The operations that read tickets. -/
inductive Reading where
  | findAll (query : ListQuery)
  | findOne (id : String)
  | exportCsv (status : Option String)
  | getBoard
  | agentSearchTickets (intent : AgentIntent)

inductive Answer where
  | page (page : TicketPage)
  | detail (ticket : Option TicketDetail)
  | csv (text : String)
  | board (columns : List BoardColumn)
  | items (rows : List Row)

namespace Reading

def searches : Reading → Bool
  | findAll query => truthy query.search
  | agentSearchTickets intent => intent.query.any fun text => 1 < utf16Length text
  | _ => false

/-- The operation passes its tickets through `maskSensitiveTicket`. -/
def masksContacts : Reading → Bool
  | findAll _ | findOne _ | exportCsv _ => true
  | getBoard | agentSearchTickets _ => false

end Reading

namespace Session

variable (s : Session)

def admitsReading : Reading → Bool
  | .findAll _ | .findOne _ | .getBoard => s.admits .board
  | .exportCsv _ =>
    s.featureAllowed "tickets" && (s.tables.permissionsGuard s.same s.now s.user
      ["tickets.export"] s.policiesAllow).isSome
  | .agentSearchTickets _ => s.admits .agentSearch

/-- What a reading answers; `none` when it fails. -/
def answer (sv : Server) (db : Db) : Reading → Option Answer
  | .findAll query => (findAll sv db s.now s.ticketUser query).map .page
  | .findOne id => (findOne sv db s.now id s.ticketUser true).map .detail
  | .exportCsv status => (exportCsv sv db s.now status s.ticketUser).map .csv
  | .getBoard => (getBoard sv db s.ticketUser).map .board
  | .agentSearchTickets intent => (agentSearchTickets sv db s.user intent).map .items

/-- The reading answers alike whatever the hidden characters are. -/
def Conceals (reading : Reading) : Prop :=
  s.admitsReading reading = true →
    ∀ (comparison : Comparison) (objectLiteral : Js → Option Scalar) (db db' : Db),
      HiddenChange s.ticketUser db db' →
        s.answer (server comparison objectLiteral) db reading =
          s.answer (server comparison objectLiteral) db' reading

theorem conceals_of_masksContacts {reading : Reading} (hmasks : masks s.ticketUser = true)
    (hsearch : reading.searches = false) (h : reading.masksContacts = true) :
    s.Conceals reading := by
  intro _ comparison objectLiteral db db' hchange
  have hdb := hchange.maskDb_eq
  cases reading with
  | findAll query => simp only [answer, findAll_masked hmasks hsearch hdb]
  | findOne id => simp only [answer, findOne_masked id hmasks hdb]
  | exportCsv status =>
    have hlist := @findAll_masked comparison objectLiteral s.ticketUser s.now db db'
      (exportQuery status) hmasks rfl hdb
    simp only [answer, exportCsv, hlist]
  | getBoard => cases h
  | agentSearchTickets intent => cases h

section Leak

def leakTicket (companyId status priority : Option String) (email : String) : Row := fun column =>
  if column = "contactEmail" then some (.text email)
  else if column = "priority" then priority.map .text
  else sampleTicket "printer" "creator" companyId status 0 column

def leakStore (companyId status priority : Option String) (email : String) : Db :=
  sampleStore 1 (fun _ => leakTicket companyId status priority email)
    [sampleUser "creator" "PUBLIC"]

variable {status priority : Option String} {email : String}

theorem hiddenChange_leakStore (user : CurrentUser) :
    HiddenChange user (leakStore user.companyId status priority "ann@example.org")
      (leakStore user.companyId status priority "amy@example.org") := by
  refine ⟨fun table htable => ?_, .cons (.inr ⟨rfl, ?_⟩) .nil⟩
  · simp only [leakStore, sampleStore, if_neg htable]
  · funext column
    by_cases hemail : column = "contactEmail"
    · subst hemail
      change some (Scalar.text (maskEmail "ann@example.org")) =
        some (.text (maskEmail "amy@example.org"))
      decide
    · simp only [maskRow, leakTicket, hemail, if_false]

def addresses : Answer → List (Option Scalar)
  | .board columns => columns.flatMap fun column => column.tickets.map (·.row "contactEmail")
  | .items rows => rows.map (· "contactEmail")
  | _ => []

theorem not_conceals_of_addresses {reading : Reading} (status priority : Option String)
    (hadmits : s.admitsReading reading = true)
    (hleaks : ∀ email, ∃ answer,
      s.answer (server Comparison.binary fun _ => none)
        (leakStore s.ticketUser.companyId status priority email) reading = some answer ∧
          addresses answer = [some (.text email)]) : ¬ s.Conceals reading := by
  intro hconceals
  have hsame := hconceals hadmits Comparison.binary (fun _ => none) _ _
    (@hiddenChange_leakStore status priority s.ticketUser)
  obtain ⟨answer, hanswer, haddresses⟩ := hleaks "ann@example.org"
  obtain ⟨answer', hanswer', haddresses'⟩ := hleaks "amy@example.org"
  rw [hanswer, hanswer', Option.some.injEq] at hsame
  rw [hsame, haddresses'] at haddresses
  revert haddresses
  decide

theorem boardWhere_leakTicket (user : CurrentUser) : ∀ e ∈ boardWhere user,
    e.holds Comparison.binary (leakStore user.companyId status priority email)
      (leakTicket user.companyId status priority email) = true := by
  intro e he
  rw [boardWhere_branches] at he
  obtain rfl | he := List.mem_cons.mp he
  · rfl
  · split at he
    · simp at he
    · split at he
      · obtain rfl := List.mem_singleton.mp he
        simp [Entry.holds, Filter.anyHolds, Filter.holds, ColumnTest.holds, leakTicket,
          sampleTicket, leakStore, sampleStore, sampleUser, joined, Comparison.binary]
      · obtain rfl := List.mem_singleton.mp he
        cases hcompany : user.companyId <;>
          simp [Entry.holds, ColumnTest.holds, valueOrNull, leakTicket, sampleTicket,
            Comparison.equal_refl]

theorem not_conceals_board (hadmits : s.admitsReading .getBoard = true) :
    ¬ s.Conceals .getBoard := by
  refine s.not_conceals_of_addresses (some "OPEN") none hadmits fun email => ?_
  have hcorrect : Query.ticket.Correct (boardWhere s.ticketUser) :=
    correct_of_read (boardWhere_isOver _) (boardWhere_read _) (by rw [boardWhere_eq]; simp)
  have hrows := rows_single hcorrect rfl
    (@boardWhere_leakTicket (some "OPEN") none email s.ticketUser)
  have htickets := fun orderBy wanted => @findMany_single _ _ _ orderBy wanted _ 199 hrows
  simp only [answer, getBoard, htickets, Option.bind_eq_bind, Option.bind_some, Option.pure_def,
    Option.map_some]
  exact ⟨_, rfl, rfl⟩

theorem reads_agentEquals {column : String} {value : Option String} {db : Db} {row : Row}
    (hcolumn : column ∈ columns "Ticket") (hrow : row column = value.map .text) :
    ∀ c ∈ agentEqualsBound column value,
      (server Comparison.binary fun _ => none).accepts ["Ticket"] c = true ∧
        selects Comparison.binary (fun _ => none) db [("Ticket", row)] c = true := by
  intro c hc
  unfold agentEqualsBound at hc
  split at hc
  · next htruthy =>
      obtain rfl := List.mem_singleton.mp hc
      cases value with
      | none => simp [truthy] at htruthy
      | some text =>
        refine ⟨by simp [Server.accepts, hcolumn, Js.text, Server.literal], ?_⟩
        rw [Js.text, selects_equals _ _ _ _ [] hcolumn, hrow]
        simp [ColumnTest.holds, Comparison.equal_refl]
  · simp at hc

theorem reads_agentBound {user : CurrentUser} {intent : AgentIntent}
    (hadmin : user.isGlobalAdmin = false) (hpublic : user.isPublic = false)
    (hcompany : truthy user.companyId = true)
    (hsearch : (Reading.agentSearchTickets intent).searches = false) :
    ∀ c ∈ agentBound user intent,
      (server Comparison.binary fun _ => none).accepts ["Ticket"] c = true ∧
        selects Comparison.binary (fun _ => none)
          (leakStore user.companyId intent.status intent.priority email)
            [("Ticket", leakTicket user.companyId intent.status intent.priority email)] c =
              true := by
  have hcontains : agentContainsBound intent.query = [] := by
    cases hquery : intent.query with
    | none => rfl
    | some text =>
      simp only [Reading.searches, hquery, Option.any_some, decide_eq_false_iff_not] at hsearch
      simp [agentContainsBound, hsearch]
  have hscope : agentEqualsBound "companyId" user.companyId = [agentScope user] := by
    simp [agentEqualsBound, agentScope, hadmin, hpublic, hcompany]
  intro c hc
  simp only [agentBound, hcontains, List.append_nil, List.mem_append, List.mem_cons,
    List.not_mem_nil, or_false] at hc
  obtain ((rfl | rfl) | hc) | hc := hc
  · have hcolumn : "deletedAt" ∈ columns "Ticket" := by decide
    exact ⟨rfl, by rw [selects_isNull _ _ _ _ [] hcolumn]; rfl⟩
  · exact reads_agentEquals (by decide) rfl _ (hscope ▸ List.mem_singleton_self _)
  · exact reads_agentEquals (by decide) rfl c hc
  · exact reads_agentEquals (by decide) rfl c hc

theorem not_conceals_agentSearch {intent : AgentIntent} (hmasks : masks s.ticketUser = true)
    (hsearch : (Reading.agentSearchTickets intent).searches = false)
    (hadmits : s.admitsReading (.agentSearchTickets intent) = true) :
    ¬ s.Conceals (.agentSearchTickets intent) := by
  refine s.not_conceals_of_addresses intent.status intent.priority hadmits fun email => ?_
  simp only [masks, Bool.not_eq_true', Bool.or_eq_false_iff, decide_eq_false_iff_not,
    ticketUser_role, ticketUser_isPublic] at hmasks
  obtain ⟨⟨hrole, hpublic⟩, -⟩ := hmasks
  have hadmin : s.user.isGlobalAdmin = false := by simp [CurrentUser.isGlobalAdmin, hrole]
  simp only [admitsReading, admits, Bool.and_eq_true] at hadmits
  have hglobal := s.not_globalTech_of_rolesGuard hadmits.2
  have hcompany := s.truthy_companyId (by simp [hadmin]) (by simp [hglobal]) (by simp [hpublic])
  have hreads := @reads_agentBound email s.user intent hadmin hpublic hcompany hsearch
  obtain ⟨rows, hselect, hfound⟩ := @select_single
    (leakStore s.user.companyId intent.status intent.priority email)
    (leakTicket s.user.companyId intent.status intent.priority email)
    (agentBound s.user intent) (by simp [agentBound]) rfl (by
      rw [Server.acceptsAll_eq, List.all_eq_true]
      exact fun c hc => (hreads c hc).1)
  obtain rfl := hfound fun c hc => (hreads c hc).2
  rw [ticketUser_companyId]
  simp only [answer, agentSearchTickets_eq, hselect, Option.map_some, orderedBy_single]
  exact ⟨_, rfl, rfl⟩

end Leak

/-- Which readings keep the hidden characters from a caller they mask for. -/
theorem conceals_iff (reading : Reading) (hmasks : masks s.ticketUser = true)
    (hsearch : reading.searches = false) :
    s.Conceals reading ↔ s.admitsReading reading = false ∨ reading.masksContacts = true := by
  constructor
  · intro hconceals
    by_contra hneither
    simp only [not_or, Bool.not_eq_false, Bool.not_eq_true] at hneither
    obtain ⟨hadmits, hunmasked⟩ := hneither
    cases reading with
    | findAll _ | findOne _ | exportCsv _ => cases hunmasked
    | getBoard => exact s.not_conceals_board hadmits hconceals
    | agentSearchTickets intent =>
      exact s.not_conceals_agentSearch hmasks hsearch hadmits hconceals
  · rintro (hadmits | hmasked)
    · intro hadmitted
      rw [hadmits] at hadmitted
      cases hadmitted
    · exact s.conceals_of_masksContacts hmasks hsearch hmasked

end Session

def technicianSession : Session where
  user := { id := "tech-2", role := .technician, userType := .businessUser,
            companyId := some "acme", effectiveCompanyId := none, location := none,
            permissionScopes := none, permissionSlugs := none }
  tables := { roles := [⟨"role-2", "TECHNICIAN", "technician", true⟩], userRoles := [],
              rolePermissions := [("role-2", "tickets.view"), ("role-2", "tickets.export")],
              temporaryGrants := [], scopes := [] }
  same := fun a b => a == b
  now := 0
  policiesAllow := true
  featureAllowed := fun _ => true
  unloaded := rfl
  inTenant := rfl
  company := .inl rfl

theorem Session.conceals_iff_export : technicianSession.Conceals (.exportCsv none) :=
  (technicianSession.conceals_iff (.exportCsv none) (by decide) rfl).mpr (.inr rfl)

/-- The board shows a technician the addresses the list masks. -/
theorem Session.board_discloses_contacts : masks technicianSession.ticketUser = true ∧
    Reading.getBoard.searches = false ∧ ¬ technicianSession.Conceals .getBoard :=
  ⟨by decide, rfl, technicianSession.not_conceals_board (by decide)⟩

end FieldserviceIT.Tickets
