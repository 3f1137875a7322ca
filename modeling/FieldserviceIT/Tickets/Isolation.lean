import FieldserviceIT.Database.FilterCorrectness
import FieldserviceIT.Tickets.Service

/-!
Which tickets the list of a caller is made of. A caller's visibility is stated
on its own, row by row; the list keeps to it unless the search text is written
over the scope of a global technician, or the caller has no scope to write.
-/

namespace FieldserviceIT.Tickets

open Common Database Lib Sql

def visible (comparison : Comparison) (db : Db) (user : CurrentUser) (row : Row) : Bool :=
  if user.isGlobalAdmin then true
  else if user.isGlobalTech then
    (row "companyId").isNone || (db "User").any fun creator =>
      joined comparison (creator "id") (row "createdById") &&
        joined comparison (creator "userType") (some (.text "PUBLIC"))
  else if user.isPublic then joined comparison (row "createdById") (some (.text user.id))
  else joined comparison (row "companyId") (user.companyId.map .text)

def lacksCompany (user : CurrentUser) : Bool :=
  !user.isGlobalAdmin && !user.isGlobalTech && !user.isPublic && user.companyId.isNone

section Assign

variable {x e : Entry} {f : Filter}

theorem mem_assign_self : x ∈ assign x f := by
  induction f with
  | nil => simp [assign]
  | cons e f ih =>
    unfold assign
    split
    · simp
    · simp [ih]

theorem mem_assign_of_ne (h : e ∈ f) (hkey : e.key ≠ x.key) : e ∈ assign x f := by
  induction f with
  | nil => simp at h
  | cons y f ih =>
    unfold assign
    obtain rfl | htail := List.mem_cons.mp h
    · rw [if_neg hkey]
      simp
    · split
      · simp [htail]
      · simp [ih htail]

theorem eq_or_mem_of_mem_assign (h : e ∈ assign x f) : e = x ∨ e ∈ f := by
  induction f with
  | nil => exact .inl (by simpa [assign] using h)
  | cons y f ih =>
    unfold assign at h
    split at h
    · obtain rfl | htail := List.mem_cons.mp h
      · exact .inl rfl
      · exact .inr (by simp [htail])
    · obtain rfl | htail := List.mem_cons.mp h
      · exact .inr (by simp)
      · exact (ih htail).imp_right fun h => by simp [h]

theorem assign_fresh (h : ∀ e ∈ f, e.key ≠ x.key) : assign x f = f ++ [x] := by
  induction f with
  | nil => rfl
  | cons y f ih =>
    unfold assign
    rw [if_neg (h y (by simp)), ih fun e he => h e (by simp [he])]
    rfl

end Assign

section Where

def tenantEntry (user : CurrentUser) : Filter :=
  if user.isGlobalAdmin then []
  else if user.isGlobalTech then
    [.or [[.column "companyId" .isNull],
      [.createdBy [.column "userType" (.equals (.text "PUBLIC"))]]]]
  else if user.isPublic then [.column "createdById" (.equals (.text user.id))]
  else [.column "companyId" (valueOrNull user.companyId)]

def statusEntry (status : Option String) : Filter :=
  if truthy status then [.column "status" (valueOrNull status)] else []

def searchEntry (search : Option String) : Filter :=
  if truthy search then [searchFilter (search.getD "")] else []

theorem key_of_mem_tenantEntry {user : CurrentUser} {e : Entry} (h : e ∈ tenantEntry user) :
    e.key = "OR" ∧ user.isGlobalTech = true ∨ e.key = "createdById" ∨ e.key = "companyId" := by
  unfold tenantEntry at h
  split at h
  · simp at h
  · split at h
    · next hglobal =>
        obtain rfl := List.mem_singleton.mp h
        exact .inl ⟨rfl, hglobal⟩
    · split at h
      · obtain rfl := List.mem_singleton.mp h
        exact .inr (.inl rfl)
      · obtain rfl := List.mem_singleton.mp h
        exact .inr (.inr rfl)

theorem applyTenantScope_eq (user : CurrentUser) {where_ : Filter}
    (h : ∀ e ∈ where_, e.key = "id" ∨ e.key = "deletedAt") :
    applyTenantScope user where_ = where_ ++ tenantEntry user := by
  have hfresh : ∀ {x : Entry}, x.key ≠ "id" → x.key ≠ "deletedAt" →
      assign x where_ = where_ ++ [x] := by
    intro x hid hdeleted
    refine assign_fresh fun e he hkey => ?_
    obtain h | h := h e he
    · exact hid (hkey ▸ h)
    · exact hdeleted (hkey ▸ h)
  unfold applyTenantScope tenantEntry
  split
  · simp
  · split
    · exact hfresh (by decide) (by decide)
    · split
      · exact hfresh (by simp [Entry.key]) (by simp [Entry.key])
      · exact hfresh (by simp [Entry.key]) (by simp [Entry.key])

theorem withStatus_eq (status : Option String) {where_ : Filter}
    (h : ∀ e ∈ where_, e.key ≠ "status") :
    withStatus status where_ = where_ ++ statusEntry status := by
  unfold withStatus statusEntry
  split
  · exact assign_fresh h
  · simp

theorem withSearch_eq (search : Option String) {where_ : Filter}
    (h : truthy search = true → ∀ e ∈ where_, e.key ≠ "OR") :
    withSearch search where_ = where_ ++ searchEntry search := by
  cases search with
  | none => simp [withSearch, searchEntry, truthy]
  | some text =>
    by_cases hempty : text = ""
    · simp [withSearch, searchEntry, truthy, hempty]
    · have htruthy : truthy (some text) = true := by simpa [truthy] using hempty
      simp only [withSearch, hempty, if_false, searchEntry, htruthy, if_true, Option.getD_some]
      exact assign_fresh (h htruthy)

variable (sv : Server) (db : Db) (now : Int)

theorem scopedWhere_unrestricted {user : CurrentUser} (where_ : Filter)
    (hscopes : restrictedBy "tickets." user.permissionScopes = false)
    (h : ∀ e ∈ where_, e.key = "id" ∨ e.key = "deletedAt") :
    scopedWhere sv db now where_ user = where_ ++ tenantEntry user := by
  simp [scopedWhere, applyTicketScopes, hscopes, applyTenantScope_eq user h]

theorem findAllWhere_eq {user : CurrentUser} {query : ListQuery}
    (hscopes : restrictedBy "tickets." user.permissionScopes = false)
    (hsearch : (user.isGlobalTech && truthy query.search) = false) :
    findAllWhere sv db now user query =
      .column "deletedAt" .isNull ::
        (tenantEntry user ++ statusEntry query.status ++ searchEntry query.search) := by
  have hscoped := scopedWhere_unrestricted sv db now [.column "deletedAt" .isNull] hscopes
    (by simp [Entry.key])
  rw [findAllWhere, hscoped, withStatus_eq, withSearch_eq]
  · simp
  · intro htruthy e he
    rw [htruthy, Bool.and_true] at hsearch
    simp only [List.cons_append, List.nil_append, List.mem_cons, List.mem_append] at he
    obtain rfl | he | he := he
    · simp [Entry.key]
    · obtain ⟨-, hglobal⟩ | hkey | hkey := key_of_mem_tenantEntry he
      · rw [hglobal] at hsearch
        cases hsearch
      · simp [hkey]
      · simp [hkey]
    · unfold statusEntry at he
      split at he <;> simp_all [Entry.key]
  · intro e he
    simp only [List.cons_append, List.nil_append, List.mem_cons] at he
    obtain rfl | he := he
    · simp [Entry.key]
    · obtain ⟨hkey, -⟩ | hkey | hkey := key_of_mem_tenantEntry he <;> simp [hkey]

theorem not_globalAdmin_of_globalTech {user : CurrentUser} (h : user.isGlobalTech = true) :
    user.isGlobalAdmin = false := by
  simp only [CurrentUser.isGlobalTech, decide_eq_true_eq] at h
  simp [CurrentUser.isGlobalAdmin, h]

theorem findAllWhere_globalTech {user : CurrentUser} {query : ListQuery} {text : String}
    (hscopes : restrictedBy "tickets." user.permissionScopes = false)
    (hglobal : user.isGlobalTech = true)
    (hsearch : query.search = some text) (htext : text ≠ "") :
    findAllWhere sv db now user query =
      .column "deletedAt" .isNull :: searchFilter text :: statusEntry query.status := by
  have hscoped := scopedWhere_unrestricted sv db now [.column "deletedAt" .isNull] hscopes
    (by simp [Entry.key])
  have htenant : tenantEntry user = [.or [[.column "companyId" .isNull],
      [.createdBy [.column "userType" (.equals (.text "PUBLIC"))]]]] := by
    simp [tenantEntry, hglobal, not_globalAdmin_of_globalTech hglobal]
  rw [findAllWhere, hscoped, htenant, withStatus_eq]
  · simp [hsearch, withSearch, htext, assign, Entry.key, searchFilter]
  · simp [Entry.key]

end Where

section Readable

variable (sv : Server) (db : Db) (now : Int)

theorem tenantEntry_isOver (user : CurrentUser) :
    ∀ e ∈ tenantEntry user, e.isOver "Ticket" = true := by
  intro e he
  unfold tenantEntry at he
  repeat' split at he
  all_goals simp only [List.not_mem_nil, List.mem_singleton] at he
  · obtain rfl := he
    decide
  all_goals
    obtain rfl := he
    simp [Entry.isOver, columns, ticketColumns]

theorem valueOrNull_plain (value : Option String) : (valueOrNull value).plain = true := by
  cases value <;> rfl

theorem tenantEntry_read (user : CurrentUser) :
    ∀ e ∈ tenantEntry user, e.readByTicket = true := by
  intro e he
  unfold tenantEntry at he
  repeat' split at he
  all_goals simp only [List.not_mem_nil, List.mem_singleton] at he
  · obtain rfl := he
    decide
  · obtain rfl := he
    rfl
  · obtain rfl := he
    exact valueOrNull_plain _

theorem statusEntry_isOver (status : Option String) :
    ∀ e ∈ statusEntry status, e.isOver "Ticket" = true := by
  intro e he
  unfold statusEntry at he
  split at he
  · obtain rfl := List.mem_singleton.mp he
    simp [Entry.isOver, columns, ticketColumns]
  · simp at he

theorem statusEntry_read (status : Option String) :
    ∀ e ∈ statusEntry status, e.readByTicket = true := by
  intro e he
  unfold statusEntry at he
  split at he
  · obtain rfl := List.mem_singleton.mp he
    exact valueOrNull_plain _
  · simp at he

theorem searchFilter_isOver (text : String) : (searchFilter text).isOver "Ticket" = true := by
  simp [searchFilter, Entry.isOver, Filter.allOver, Filter.isOver, columns, ticketColumns]

theorem searchEntry_isOver (search : Option String) :
    ∀ e ∈ searchEntry search, e.isOver "Ticket" = true := by
  intro e he
  unfold searchEntry at he
  split at he
  · obtain rfl := List.mem_singleton.mp he
    exact searchFilter_isOver _
  · simp at he

theorem idAlternative_isOver {name : String} {ids : List String} {f : Filter}
    (h : name ∈ columns "Ticket")
    (hf : f ∈ (if ids.isEmpty then [] else [[Entry.column name (anyOfTexts ids)]])) :
    Filter.isOver "Ticket" f = true := by
  split at hf
  · exact absurd hf List.not_mem_nil
  · obtain rfl := List.mem_singleton.mp hf
    exact Filter.isOver_column h _

theorem scopeAlternatives_isOver (user : CurrentUser) (scope : PermissionScope) {f : Filter}
    (hf : f ∈ scopeAlternatives sv db now user scope) : Filter.isOver "Ticket" f = true := by
  have hname : ∀ name ∈ ["assignedToId", "location", "companyId", "id"],
      name ∈ columns "Ticket" := by
    decide
  unfold scopeAlternatives at hf
  split at hf
  · obtain rfl := List.mem_singleton.mp hf
    exact Filter.isOver_column (hname _ (by simp)) _
  · split at hf
    · split at hf
      · simp at hf
      · obtain rfl := List.mem_singleton.mp hf
        exact Filter.isOver_column (hname _ (by simp)) _
    · simp at hf
  · exact idAlternative_isOver (hname _ (by simp)) hf
  · obtain hticket | hcompany := List.mem_append.mp hf
    · exact idAlternative_isOver (hname _ (by simp)) hticket
    · exact idAlternative_isOver (hname _ (by simp)) hcompany
  · simp at hf
  · simp at hf

/-- A restricted scope is written under `AND`. -/
theorem scopedWhere_restricted {user : CurrentUser} (where_ : Filter)
    (hscopes : restrictedBy "tickets." user.permissionScopes = true)
    (hwhere : ∀ e ∈ where_, e.isOver "Ticket" = true)
    (hkeys : ∀ e ∈ where_, e.key = "id" ∨ e.key = "deletedAt") :
    (∃ parts, Entry.and parts ∈ scopedWhere sv db now where_ user) ∧
      ∀ e ∈ scopedWhere sv db now where_ user, e.isOver "Ticket" = true := by
  have htenant : ∀ e ∈ where_ ++ tenantEntry user, e.isOver "Ticket" = true := by
    intro e he
    obtain he | he := List.mem_append.mp he
    · exact hwhere e he
    · exact tenantEntry_isOver user e he
  have hparts : partsOf (where_ ++ tenantEntry user) = [] := by
    have hnone : ∀ f : Filter, (∀ e ∈ f, e.key ≠ "AND") → partsOf f = [] := by
      intro f hf
      induction f with
      | nil => rfl
      | cons e f ih =>
        have hhead := hf e (by simp)
        have htail := ih fun e' he' => hf e' (by simp [he'])
        cases e with
        | and _ => simp [Entry.key] at hhead
        | column _ _ | createdBy _ | or _ => exact htail
    refine hnone _ fun e he => ?_
    obtain he | he := List.mem_append.mp he
    · obtain h | h := hkeys e he <;> simp [h]
    · obtain ⟨h, -⟩ | h | h := key_of_mem_tenantEntry he <;> simp [h]
  simp only [scopedWhere, applyTicketScopes, hscopes, if_true, applyTenantScope_eq user hkeys,
    hparts, List.nil_append]
  refine ⟨⟨_, mem_assign_self⟩, fun e he => ?_⟩
  obtain rfl | he := eq_or_mem_of_mem_assign he
  · simp only [Entry.isOver, Filter.allOver, Bool.and_true]
    split
    · exact Filter.isOver_column (by decide) _
    · simp only [Filter.isOver, Entry.isOver, Bool.and_true, Filter.allOver_eq, List.all_eq_true]
      intro f hf
      obtain ⟨scope, -, hscope⟩ := List.mem_flatMap.mp hf
      exact scopeAlternatives_isOver sv db now user scope hscope
  · exact htenant e he

end Readable

section Refused

variable (comparison : Comparison) (objectLiteral : Js → Option Scalar) (db : Db) (now : Int)

/-- No ticket query with an `AND` is answered. -/
theorem rows_of_and {f : Filter} {parts : List Filter} (hmem : Entry.and parts ∈ f)
    (hover : ∀ e ∈ f, e.isOver "Ticket" = true) :
    Query.ticket.rows (server comparison objectLiteral) db (Filter.fields f) = none := by
  refine Query.rows_of_refuses comparison objectLiteral .ticket db ?_ ?_
  · rw [Filter.isOver_eq, List.all_eq_true]
    exact hover
  · have hne : f.isEmpty = false := by
      cases f with
      | nil => simp at hmem
      | cons _ _ => rfl
    have hbreaks : f.any Query.ticket.breaksOn = true :=
      List.any_eq_true.mpr ⟨_, hmem, rfl⟩
    simp [Query.refuses, hne, hbreaks]

theorem isOver_withStatus {status : Option String} {f : Filter}
    (h : ∀ e ∈ f, e.isOver "Ticket" = true) :
    ∀ e ∈ withStatus status f, e.isOver "Ticket" = true := by
  intro e he
  unfold withStatus at he
  split at he
  · obtain rfl | he := eq_or_mem_of_mem_assign he
    · simp [Entry.isOver, columns, ticketColumns]
    · exact h e he
  · exact h e he

theorem isOver_withSearch {search : Option String} {f : Filter}
    (h : ∀ e ∈ f, e.isOver "Ticket" = true) :
    ∀ e ∈ withSearch search f, e.isOver "Ticket" = true := by
  intro e he
  unfold withSearch at he
  repeat' split at he
  · exact h e he
  · obtain rfl | he := eq_or_mem_of_mem_assign he
    · exact searchFilter_isOver _
    · exact h e he
  · exact h e he

theorem and_mem_withStatus {status : Option String} {f : Filter} {parts : List Filter}
    (h : Entry.and parts ∈ f) : Entry.and parts ∈ withStatus status f := by
  unfold withStatus
  split
  · exact mem_assign_of_ne h (by simp [Entry.key])
  · exact h

theorem and_mem_withSearch {search : Option String} {f : Filter} {parts : List Filter}
    (h : Entry.and parts ∈ f) : Entry.and parts ∈ withSearch search f := by
  unfold withSearch
  repeat' split
  · exact h
  · exact mem_assign_of_ne h (by simp [Entry.key, searchFilter])
  · exact h

theorem findAllWhere_rows_restricted {user : CurrentUser} {query : ListQuery}
    (hscopes : restrictedBy "tickets." user.permissionScopes = true) :
    Query.ticket.rows (server comparison objectLiteral) db
      (Filter.fields (findAllWhere (server comparison objectLiteral) db now user query)) =
        none := by
  obtain ⟨⟨parts, hand⟩, hover⟩ := scopedWhere_restricted (server comparison objectLiteral) db now
    [.column "deletedAt" .isNull] hscopes (by decide) (by simp [Entry.key])
  exact rows_of_and comparison objectLiteral db (and_mem_withSearch (and_mem_withStatus hand))
    (isOver_withSearch (isOver_withStatus hover))

end Refused

section Page

variable (sv : Server) (db : Db) (now : Int)

def listView (user : CurrentUser) (row : Row) : TicketRecord :=
  maskSensitiveTicket (enrichTicket sv db row
    { createdBy := true, assignedTo := true, resolvedBy := true, asset := true }) user

def ListQuery.window (query : ListQuery) : Option (Nat × Nat) := do
  let limit ← (query.limit.orDefault 25).rowCount
  let offset ← ((query.page.orDefault 1).offset (query.limit.orDefault 25)).rowCount
  pure (limit, offset)

theorem findAll_eq (user : CurrentUser) (query : ListQuery) :
    findAll sv db now user query =
      match Query.ticket.rows sv db (Filter.fields (findAllWhere sv db now user query)),
        query.window with
      | some rows, some (limit, offset) =>
        some ⟨(((orderedBy sv.comparison "createdAt" .desc rows).drop offset).take limit).map
          (listView sv db user), query.page.orDefault 1, query.limit.orDefault 25, rows.length⟩
      | _, _ => none := by
  simp only [findAll, findMany, count, ListQuery.window, Option.bind_eq_bind]
  cases Query.ticket.rows sv db (Filter.fields (findAllWhere sv db now user query)) with
  | none => rfl
  | some rows =>
    cases (query.limit.orDefault 25).rowCount with
    | none => rfl
    | some limit =>
      cases ((query.page.orDefault 1).offset (query.limit.orDefault 25)).rowCount with
      | none => rfl
      | some offset =>
        simp only [Option.bind_some, Option.map_some, Option.pure_def, List.map_map]
        rfl

def ListQuery.unsearched (query : ListQuery) (limit : Nat) : ListQuery :=
  { query with search := none, page := .finite 1, limit := .finite limit }

theorem rowCount_natCast (n : Nat) : (QueryNumber.finite n).rowCount = some n := by
  simp [QueryNumber.rowCount]

theorem window_firstPage {query : ListQuery} {limit : Nat} (hpage : query.page = .finite 1)
    (hlimit : query.limit = .finite limit) (h : limit ≠ 0) : query.window = some (limit, 0) := by
  have hlimitDefault : QueryNumber.orDefault 25 (.finite limit) = .finite limit := by
    simp [QueryNumber.orDefault, h]
  have hoffset : QueryNumber.offset (.finite 1) (.finite limit) = .finite ((0 : Nat) : Rat) := by
    rw [QueryNumber.offset, Rat.sub_eq_add_neg, Rat.add_neg_cancel, Rat.zero_mul]
    rfl
  have hpageDefault : QueryNumber.orDefault 1 (.finite 1) = .finite 1 := by decide
  simp only [ListQuery.window, hpage, hlimit, hlimitDefault, hpageDefault, hoffset,
    rowCount_natCast, Option.bind_eq_bind, Option.bind_some, Option.pure_def]

end Page

/-- The list query keeps to the caller's visibility, and shows nothing the same
caller could not list without the search text. -/
def Isolated (user : CurrentUser) (query : ListQuery) : Prop :=
  ∀ (comparison : Comparison) (objectLiteral : Js → Option Scalar) (db : Db) (now : Int)
    (page : TicketPage), StoredTickets comparison db →
    findAll (server comparison objectLiteral) db now user query = some page →
      ∀ ticket ∈ page.data, visible comparison db user ticket.row = true ∧
        ∃ limit unsearched,
          findAll (server comparison objectLiteral) db now user (query.unsearched limit) =
            some unsearched ∧ ticket ∈ unsearched.data

section Sufficient

variable {comparison : Comparison} {objectLiteral : Js → Option Scalar} {db : Db} {now : Int}
variable {user : CurrentUser} {query : ListQuery}

theorem maskRow_of_ne {row : Row} {column : String}
    (h : column ∉ ["contactEmail", "contactPhone", "contactName"]) :
    maskRow row column = row column := by
  simp only [List.mem_cons, List.not_mem_nil, or_false, not_or] at h
  simp [maskRow, h]

theorem visible_listView (row : Row) :
    visible comparison db user (listView (server comparison objectLiteral) db user row).row =
      visible comparison db user row := by
  unfold listView maskSensitiveTicket
  split
  · simp [visible, enrichTicket, maskRow]
  · rfl

theorem visible_of_tenantEntry {row : Row} (hcompany : lacksCompany user = false)
    (h : ∀ e ∈ tenantEntry user, e.holds comparison db row = true) :
    visible comparison db user row = true := by
  unfold visible
  unfold tenantEntry at h
  split
  · rfl
  · next hadmin =>
      rw [if_neg hadmin] at h
      split
      · next hglobal =>
          rw [if_pos hglobal] at h
          have hentry := h _ (List.mem_singleton.mpr rfl)
          simpa [Entry.holds, Filter.anyHolds, Filter.holds, ColumnTest.holds, joined] using hentry
      · next hglobal =>
          rw [if_neg hglobal] at h
          split
          · next hpublic =>
              rw [if_pos hpublic] at h
              have hentry := h _ (List.mem_singleton.mpr rfl)
              simpa [Entry.holds, ColumnTest.holds, joined] using hentry
          · next hpublic =>
              rw [if_neg hpublic] at h
              have hentry := h _ (List.mem_singleton.mpr rfl)
              cases hvalue : user.companyId with
              | none => simp [lacksCompany, hadmin, hglobal, hpublic, hvalue] at hcompany
              | some company =>
                rw [hvalue] at hentry
                simpa [valueOrNull, Entry.holds, ColumnTest.holds, joined] using hentry

theorem base_isOver (user : CurrentUser) (status : Option String) :
    ∀ e ∈ Entry.column "deletedAt" .isNull :: (tenantEntry user ++ statusEntry status),
      e.isOver "Ticket" = true := by
  intro e he
  obtain rfl | he := List.mem_cons.mp he
  · decide
  · obtain he | he := List.mem_append.mp he
    · exact tenantEntry_isOver user e he
    · exact statusEntry_isOver status e he

theorem base_read (user : CurrentUser) (status : Option String) :
    ∀ e ∈ Entry.column "deletedAt" .isNull :: (tenantEntry user ++ statusEntry status),
      e.readByTicket = true := by
  intro e he
  obtain rfl | he := List.mem_cons.mp he
  · decide
  · obtain he | he := List.mem_append.mp he
    · exact tenantEntry_read user e he
    · exact statusEntry_read status e he

theorem base_correct (user : CurrentUser) (status : Option String) :
    Query.ticket.Correct (.column "deletedAt" .isNull :: (tenantEntry user ++ statusEntry status)) := by
  refine Query.correct_of_supports .ticket ?_ ?_
  · rw [Filter.isOver_eq, List.all_eq_true]
    exact base_isOver user status
  · have hreads := List.all_eq_true.mpr (base_read user status)
    simp only [Query.supports, Query.reads, hreads, Bool.true_and, Bool.or_eq_true]
    exact .inr rfl

theorem mem_of_mem_page {column : String} {direction : Direction} {rows : List Row}
    {limit offset : Nat} {row : Row}
    (h : row ∈ ((orderedBy comparison column direction rows).drop offset).take limit) :
    row ∈ rows :=
  mem_orderedBy.mp (List.mem_of_mem_drop (List.mem_of_mem_take h))

theorem mem_unsearched {rows : List Row} {row : Row}
    (hrows : ∀ limit, Query.ticket.rows (server comparison objectLiteral) db (Filter.fields
      (findAllWhere (server comparison objectLiteral) db now user (query.unsearched limit))) =
        some rows) (hrow : row ∈ rows) :
    ∃ limit unsearched,
      findAll (server comparison objectLiteral) db now user (query.unsearched limit) =
        some unsearched ∧
      listView (server comparison objectLiteral) db user row ∈ unsearched.data := by
  have hlength : rows.length ≠ 0 := by
    intro h
    rw [List.length_eq_zero_iff.mp h] at hrow
    simp at hrow
  refine ⟨rows.length, _, by rw [findAll_eq, hrows, window_firstPage rfl rfl hlength], ?_⟩
  refine List.mem_map.mpr ⟨row, ?_, rfl⟩
  rw [List.drop_zero, List.take_of_length_le (Nat.le_of_eq length_orderedBy)]
  exact mem_orderedBy.mpr hrow

theorem isolated_of_scope_kept
    (hscopes : restrictedBy "tickets." user.permissionScopes = false)
    (hsearch : (user.isGlobalTech && truthy query.search) = false)
    (hcompany : lacksCompany user = false) : Isolated user query := by
  intro comparison objectLiteral db now page _ hpage ticket hticket
  have hwhere := findAllWhere_eq (server comparison objectLiteral) db now hscopes hsearch
  rw [findAll_eq] at hpage
  split at hpage
  · next rows limit offset hrows hwindow =>
      obtain rfl := Option.some.inj hpage
      obtain ⟨row, hpaged, rfl⟩ := List.mem_map.mp hticket
      have hrow := mem_of_mem_page hpaged
      -- every entry but the search is read as it is meant, so it holds of the row
      have hholds : ∀ e ∈ Entry.column "deletedAt" .isNull ::
          (tenantEntry user ++ statusEntry query.status),
          row ∈ db "Ticket" ∧ e.holds comparison db row = true := by
        intro e he
        rw [hwhere] at hrows
        refine Query.holds_of_mem_rows .ticket ?_ hrows hrow ?_ (base_read user query.status e he)
        · rw [Filter.isOver_eq, List.all_eq_true]
          intro e he
          rw [List.mem_cons, List.mem_append] at he
          obtain rfl | he | he := he
          · decide
          · exact base_isOver user query.status e (by simp [List.mem_append.mp he])
          · exact searchEntry_isOver _ e he
        · rw [List.mem_cons] at he ⊢
          exact he.imp_right fun he => List.mem_append_left _ he
      refine ⟨?_, ?_⟩
      · rw [visible_listView]
        exact visible_of_tenantEntry hcompany fun e he => (hholds e (by simp [he])).2
      · have hbase : ∀ limit, findAllWhere (server comparison objectLiteral) db now user
            (query.unsearched limit) =
              .column "deletedAt" .isNull :: (tenantEntry user ++ statusEntry query.status) := by
          intro limit
          rw [findAllWhere_eq _ _ _ hscopes (by simp [ListQuery.unsearched, truthy])]
          simp [searchEntry, ListQuery.unsearched, truthy]
        have hrows := fun limit =>
          (congrArg (fun f => Query.ticket.rows (server comparison objectLiteral) db
            (Filter.fields f)) (hbase limit)).trans
              (base_correct user query.status comparison objectLiteral db)
        refine mem_unsearched hrows ?_
        rw [List.mem_filter, Filter.holds_eq, List.all_eq_true]
        exact ⟨(hholds (.column "deletedAt" .isNull) (by simp)).1, fun e he => (hholds e he).2⟩
  · cases hpage

end Sufficient

section Necessary

/-- The `i`-th of some tickets with one title, creator, company and status. -/
def sampleTicket (title creator : String) (companyId status : Option String) (i : Nat) : Row :=
    fun column =>
  if column = "id" ∨ column = "ticketNumber" then
    some (.text (String.ofList (List.replicate (i + 1) 'x')))
  else if column = "title" then some (.text title)
  else if column = "createdById" then some (.text creator)
  else if column = "companyId" then companyId.map .text
  else if column = "status" then status.map .text
  else none

def sampleUser (id userType : String) : Row := fun column =>
  if column = "id" then some (.text id)
  else if column = "userType" then some (.text userType)
  else none

/-- A store with `n` tickets and some users. -/
def sampleStore (n : Nat) (row : Nat → Row) (users : List Row) : Db := fun table =>
  if table = "Ticket" then (List.range n).map row
  else if table = "User" then users
  else []

variable (objectLiteral : Js → Option Scalar) (n : Nat) (users : List Row)

theorem rows_sampleStore {row : Nat → Row} {f : Filter}
    (hover : ∀ e ∈ f, e.isOver "Ticket" = true)
    (hbroken : ∀ e ∈ f, e.brokenForTicket = false)
    (hdeleted : Entry.column "deletedAt" .isNull ∈ f)
    (hselected : ∀ i, ∀ e ∈ f, (ticketBound e).all
      (selects Comparison.binary objectLiteral (sampleStore n row users) [("Ticket", row i)]) = true) :
    Query.ticket.rows (server Comparison.binary objectLiteral) (sampleStore n row users) (Filter.fields f) =
      some ((List.range n).map row) := by
  have hne : f.isEmpty = false := by
    cases f with
    | nil => simp at hdeleted
    | cons _ _ => rfl
  have hoverAll : Filter.isOver "Ticket" f = true := by
    rw [Filter.isOver_eq, List.all_eq_true]
    exact hover
  have hunbroken : Filter.brokenForTicket f = false := by
    clear hne hoverAll hselected hdeleted hover
    induction f with
    | nil => rfl
    | cons e f ih =>
      simp [Filter.brokenForTicket, hbroken e (by simp),
        ih fun e' he' => hbroken e' (by simp [he'])]
  have haccepts := @accepts_ticketBoundAll Comparison.binary objectLiteral "Ticket" [] f hoverAll
  rw [hunbroken, ticketBoundAll_eq] at haccepts
  rw [Query.rows_eq .ticket Comparison.binary objectLiteral _ hoverAll hne, if_pos]
  · refine congrArg some (List.filter_eq_self.mpr fun r hr => ?_)
    obtain ⟨i, -, rfl⟩ := List.mem_map.mp hr
    exact List.all_eq_true.mpr (hselected i)
  · exact ⟨List.any_eq_true.mpr ⟨_, hdeleted, rfl⟩, haccepts⟩

theorem storedTickets_sampleStore (title creator : String) (companyId status : Option String) :
    StoredTickets Comparison.binary
      (sampleStore n (sampleTicket title creator companyId status) users) := by
  constructor
  · intro row hrow column hcolumn
    obtain ⟨i, -, rfl⟩ := List.mem_map.mp hrow
    simp only [List.mem_cons, List.not_mem_nil, or_false] at hcolumn
    obtain rfl | rfl | rfl | rfl := hcolumn <;> simp [sampleTicket]
  · refine List.Pairwise.map _ (fun i j hij => ?_) List.nodup_range
    have hlength : List.replicate (i + 1) 'x' ≠ List.replicate (j + 1) 'x' := by
      intro h
      exact hij (by simpa using congrArg List.length h)
    simpa [joined, sampleTicket, Comparison.binary, String.ofList_inj] using hlength

theorem limit_ne_zero {query : ListQuery} {limit offset : Nat}
    (h : query.window = some (limit, offset)) : limit ≠ 0 := by
  rintro rfl
  simp only [ListQuery.window, Option.bind_eq_bind, Option.bind_eq_some_iff, Option.pure_def,
    Option.some.injEq, Prod.mk.injEq] at h
  obtain ⟨limit, hlimit, _, -, rfl, -⟩ := h
  have hrows : ∀ q : Rat, q ≠ 0 → (QueryNumber.finite q).rowCount ≠ some 0 := by
    intro q hq hzero
    simp only [QueryNumber.rowCount] at hzero
    split at hzero
    · next hnat =>
        have hnum : q.num ≠ 0 := fun h => hq (Rat.num_eq_zero.mp h)
        have hcount := Option.some.inj hzero
        omega
    · cases hzero
  cases hvalue : query.limit with
  | nan =>
    rw [hvalue] at hlimit
    exact hrows 25 (by decide) hlimit
  | infinite =>
    rw [hvalue] at hlimit
    cases hlimit
  | finite q =>
    rw [hvalue] at hlimit
    by_cases hq : q = 0
    · simp only [QueryNumber.orDefault, hq, if_true] at hlimit
      exact hrows 25 (by decide) hlimit
    · simp only [QueryNumber.orDefault, hq, if_false] at hlimit
      exact hrows q hq hlimit

theorem exists_mem_page (rows : List Row) {limit offset : Nat} (hlimit : limit ≠ 0)
    (hlength : offset < rows.length) :
    ∃ row ∈ rows,
      row ∈ ((orderedBy Comparison.binary "createdAt" .desc rows).drop offset).take limit := by
  have hpage : (((orderedBy Comparison.binary "createdAt" .desc rows).drop offset).take
      limit).length ≠ 0 := by
    rw [List.length_take, List.length_drop, length_orderedBy]
    omega
  obtain ⟨shown, hshown⟩ := List.exists_mem_of_length_pos (Nat.pos_of_ne_zero hpage)
  exact ⟨shown, mem_of_mem_page hshown, hshown⟩

theorem not_isolated_of_shown {user : CurrentUser} {query : ListQuery} (title : String)
    (companyId : Option String) {limit offset : Nat} (hwindow : query.window = some (limit, offset))
    (hrows : Query.ticket.rows (server Comparison.binary fun _ => none)
      (sampleStore (offset + 1) (sampleTicket title "creator" companyId query.status)
        [sampleUser "creator" "BUSINESS"])
      (Filter.fields (findAllWhere (server Comparison.binary fun _ => none)
        (sampleStore (offset + 1) (sampleTicket title "creator" companyId query.status)
        [sampleUser "creator" "BUSINESS"]) 0 user query)) =
          some ((List.range (offset + 1)).map (sampleTicket title "creator" companyId query.status)))
    (hhidden : ∀ i, visible Comparison.binary
      (sampleStore (offset + 1) (sampleTicket title "creator" companyId query.status)
        [sampleUser "creator" "BUSINESS"]) user
        (sampleTicket title "creator" companyId query.status i) = false) :
    ¬ Isolated user query := by
  intro hisolated
  have hpage := findAll_eq (server Comparison.binary fun _ => none)
    (sampleStore (offset + 1) (sampleTicket title "creator" companyId query.status)
        [sampleUser "creator" "BUSINESS"]) 0 user query
  rw [hrows, hwindow] at hpage
  obtain ⟨row, hrow, hshown⟩ := exists_mem_page
    ((List.range (offset + 1)).map (sampleTicket title "creator" companyId query.status))
    (limit_ne_zero hwindow) (by simp : offset < _)
  obtain ⟨i, -, rfl⟩ := List.mem_map.mp hrow
  have hvisible := (hisolated _ _ _ _ _ (storedTickets_sampleStore _ _ title "creator" companyId query.status)
    hpage _ (List.mem_map.mpr ⟨_, hshown, rfl⟩)).1
  rw [visible_listView, hhidden i] at hvisible
  cases hvisible

variable {objectLiteral : Js → Option Scalar} {title creator : String}
variable {companyId status : Option String} {i : Nat}

theorem selects_deletedAt {db : Db} :
    (ticketBound (.column "deletedAt" .isNull)).all (selects Comparison.binary objectLiteral db
      [("Ticket", sampleTicket title creator companyId status i)]) = true := by
  have hcolumn : "deletedAt" ∈ columns "Ticket" := by decide
  simp [ticketBound, selects_testBound Comparison.binary objectLiteral db _ [] hcolumn .isNull rfl,
    ColumnTest.holds, sampleTicket]

theorem selects_status {db : Db} {e : Entry} (he : e ∈ statusEntry status) :
    (ticketBound e).all (selects Comparison.binary objectLiteral db
      [("Ticket", sampleTicket title creator companyId status i)]) = true := by
  have hcolumn : "status" ∈ columns "Ticket" := by decide
  unfold statusEntry at he
  split at he
  · next htruthy =>
      obtain rfl := List.mem_singleton.mp he
      cases status with
      | none => simp [truthy] at htruthy
      | some text =>
        simp [ticketBound, selects_testBound Comparison.binary objectLiteral db _ [] hcolumn
          (.equals (.text text)) rfl, ColumnTest.holds, sampleTicket, valueOrNull,
          Comparison.equal_refl]
  · simp at he

theorem selects_search {db : Db} {text : String}
    (htitle : likeMatch (fun a b => a == b) (likeTokens ('%' :: (text.toList ++ ['%'])))
      title.toList = true) :
    (ticketBound (searchFilter text)).all (selects Comparison.binary objectLiteral db
      [("Ticket", sampleTicket title creator companyId status i)]) = true := by
  have hcolumn : "title" ∈ columns "Ticket" := by decide
  have htitleColumn : (server Comparison.binary objectLiteral).column
      [("Ticket", sampleTicket title creator companyId status i)] "title" = some (.text title) := by
    rw [column_here Comparison.binary objectLiteral _ [] hcolumn]
    rfl
  have hlikeBy : (server Comparison.binary objectLiteral).likeBy (.text title)
      (.text ("%" ++ text ++ "%")) = true := by
    simp only [Server.likeBy, server_comparison, Comparison.written_text, String.toList_append]
    exact htitle
  have hlike : selects Comparison.binary objectLiteral db
      [("Ticket", sampleTicket title creator companyId status i)]
      (.like "title" (containsPattern (.text text))) = true := by
    simpa only [selects, Server.eval, htitleColumn, containsPattern, Js.text, templateText,
      Server.operand, Server.literal, Option.join_some, Truth.isYes_ofOptions, Option.any_some]
      using hlikeBy
  simp [searchFilter, ticketBound, alternativesBound, ticketBoundAll, grouped, selects_anyOf,
    testBound, hlike]

theorem exists_title (search : Option String) : ∃ title : String, ∀ text, search = some text →
    likeMatch (fun a b => a == b) (likeTokens ('%' :: (text.toList ++ ['%']))) title.toList =
      true := by
  obtain ⟨title, htitle⟩ := exists_likeMatch (fun a b : Char => a == b) (by simp)
    (likeTokens ('%' :: ((search.getD "").toList ++ ['%'])))
  refine ⟨String.ofList title, ?_⟩
  rintro text rfl
  simpa using htitle

theorem searchFilter_not_broken (text : String) : (searchFilter text).brokenForTicket = false := rfl

theorem statusEntry_not_broken (status : Option String) :
    ∀ e ∈ statusEntry status, e.brokenForTicket = false :=
  fun e he => not_broken_of_read e (statusEntry_read status e he)

theorem not_isolated_of_globalTech {user : CurrentUser} {query : ListQuery} {limit offset : Nat}
    (hscopes : restrictedBy "tickets." user.permissionScopes = false)
    (hwindow : query.window = some (limit, offset)) (hglobal : user.isGlobalTech = true)
    (hsearch : truthy query.search = true) : ¬ Isolated user query := by
  obtain ⟨title, htitle⟩ := exists_title query.search
  obtain ⟨text, htext⟩ : ∃ text, query.search = some text := by
    cases h : query.search with
    | none => simp [h, truthy] at hsearch
    | some text => exact ⟨text, rfl⟩
  have hne : text ≠ "" := by simpa [htext, truthy] using hsearch
  refine not_isolated_of_shown title (some "another-company") hwindow ?_ ?_
  · rw [findAllWhere_globalTech _ _ _ hscopes hglobal htext hne]
    refine rows_sampleStore _ _ _ (fun e he => ?_) (fun e he => ?_) (by simp) fun i e he => ?_
    all_goals
      obtain rfl | rfl | he := by simpa only [List.mem_cons] using he
    · decide
    · exact searchFilter_isOver text
    · exact statusEntry_isOver _ e he
    · rfl
    · exact searchFilter_not_broken text
    · exact statusEntry_not_broken _ e he
    · exact selects_deletedAt
    · exact selects_search (htitle text htext)
    · exact selects_status he
  · intro i
    simp [visible, hglobal, not_globalAdmin_of_globalTech hglobal, sampleTicket, sampleStore,
      sampleUser, joined, Comparison.binary]

theorem not_isolated_of_lacksCompany {user : CurrentUser} {query : ListQuery} {limit offset : Nat}
    (hscopes : restrictedBy "tickets." user.permissionScopes = false)
    (hwindow : query.window = some (limit, offset)) (hlacks : lacksCompany user = true) :
    ¬ Isolated user query := by
  obtain ⟨title, htitle⟩ := exists_title query.search
  simp only [lacksCompany, Bool.and_eq_true, Bool.not_eq_true', Option.isNone_iff_eq_none] at hlacks
  obtain ⟨⟨⟨hadmin, hglobal⟩, hpublic⟩, hcompany⟩ := hlacks
  have htenant : tenantEntry user = [.column "companyId" .isNull] := by
    simp [tenantEntry, hadmin, hglobal, hpublic, hcompany, valueOrNull]
  have hcolumn : "companyId" ∈ columns "Ticket" := by decide
  refine not_isolated_of_shown title none hwindow ?_ ?_
  · rw [findAllWhere_eq _ _ _ hscopes (by simp [hglobal]), htenant]
    refine rows_sampleStore _ _ _ (fun e he => ?_) (fun e he => ?_) (by simp) fun i e he => ?_
    all_goals
      simp only [List.mem_cons, List.mem_append, List.not_mem_nil, or_false, or_assoc] at he
      obtain rfl | rfl | he | he := he
    · decide
    · decide
    · exact statusEntry_isOver _ e he
    · exact searchEntry_isOver _ e he
    · rfl
    · rfl
    · exact statusEntry_not_broken _ e he
    · unfold searchEntry at he
      split at he
      · obtain rfl := List.mem_singleton.mp he
        rfl
      · simp at he
    · exact selects_deletedAt
    · simp [ticketBound, selects_testBound Comparison.binary _ _ _ [] hcolumn .isNull rfl,
        ColumnTest.holds, sampleTicket]
    · exact selects_status he
    · unfold searchEntry at he
      split at he
      · next htruthy =>
          obtain rfl := List.mem_singleton.mp he
          cases hvalue : query.search with
          | none => simp [hvalue, truthy] at htruthy
          | some text => exact selects_search (htitle text hvalue)
      · simp at he
  · intro i
    simp [visible, hadmin, hglobal, hpublic, sampleTicket, joined]

end Necessary

/-- Exactly which list queries keep to the caller's visibility: those that are
refused, and those that neither search as a global technician nor come from a
caller without a company to be held to. -/
theorem findAll_isolated_iff (user : CurrentUser) (query : ListQuery) :
    Isolated user query ↔
      restrictedBy "tickets." user.permissionScopes = true ∨ query.window = none ∨
        ((user.isGlobalTech && truthy query.search) = false ∧ lacksCompany user = false) := by
  cases hscopes : restrictedBy "tickets." user.permissionScopes with
  | true =>
    refine iff_of_true (fun comparison objectLiteral db now page _ hpage => ?_) (.inl rfl)
    rw [findAll_eq, findAllWhere_rows_restricted comparison objectLiteral db now hscopes] at hpage
    cases hpage
  | false =>
    cases hwindow : query.window with
    | none =>
      refine iff_of_true (fun comparison objectLiteral db now page _ hpage => ?_)
        (.inr (.inl rfl))
      rw [findAll_eq, hwindow] at hpage
      split at hpage
      · next _ h => cases h
      · cases hpage
    | some window =>
      obtain ⟨limit, offset⟩ := window
      simp only [Bool.false_eq_true, reduceCtorEq, false_or]
      constructor
      · intro hisolated
        constructor
        · rw [← Bool.not_eq_true, Bool.and_eq_true]
          exact fun ⟨hglobal, hsearch⟩ =>
            not_isolated_of_globalTech hscopes hwindow hglobal hsearch hisolated
        · rw [← Bool.not_eq_true]
          exact fun hlacks => not_isolated_of_lacksCompany hscopes hwindow hlacks hisolated
      · exact fun ⟨hsearch, hcompany⟩ => isolated_of_scope_kept hscopes hsearch hcompany

/-- A global technician who looks for a word. -/
theorem findAll_not_isolated :
    ¬ Isolated
      { id := "tech-1", role := .globalTech, userType := .businessUser, companyId := none,
        effectiveCompanyId := none, location := none, permissionScopes := some [],
        permissionSlugs := some ["tickets.view"] }
      { page := .finite 1, limit := .finite (25 : Nat), status := none, search := some "printer",
        priority := none, assignedToId := none } :=
  not_isolated_of_globalTech (by decide) (window_firstPage rfl rfl (by decide)) rfl (by decide)

end FieldserviceIT.Tickets
