import FieldserviceIT.Database.FilterCorrectness
import FieldserviceIT.Database.TicketQueries

/-!
The figures about the tickets of a company: how many there are, how many of each status and of each
priority, and how many a report about the same time lists. All of them go by one filter, in which an
upper bound beside a lower one is not looked at.
-/

namespace FieldserviceIT.Reporting

open Database Sql

section Bounds

/-- A date as it comes with a request, and `new Date(text)`. -/
structure DateText where
  text : String
  time : Int

/-- `/^\d{4}-\d{2}-\d{2}$/` -/
def isPlainDate (text : String) : Bool :=
  match text.toList with
  | [a, b, c, d, '-', e, f, '-', g, h] => [a, b, c, d, e, f, g, h].all Char.isDigit
  | _ => false

/-- The clock of the process, in its time zone. -/
structure Clock where
  startDateForRange : String → Int
  toISOString : Int → String
  endOfDay : Int → Int

variable (clock : Clock)

/-- The bounds a summary works with: without any, it begins where the company prefers it to. -/
def summaryBounds (defaultDateRange : Option String) (dateFrom dateTo : Option DateText) :
    Option DateText × Option DateText :=
  if dateFrom.isNone && dateTo.isNone then
    let start := clock.startDateForRange ((defaultDateRange.filter (· ≠ "")).getD "30d")
    (some ⟨clock.toISOString start, start⟩, none)
  else (dateFrom, dateTo)

/-- In a report a day counts to its end. -/
def reportTo (dateTo : DateText) : Int :=
  if isPlainDate dateTo.text then clock.endOfDay dateTo.time else dateTo.time

end Bounds

section Queries

variable (sv : Server) (db : Db)

def ofCompany (companyId : String) : Filter :=
  [.column "companyId" (.equals (.text companyId)), .column "deletedAt" .isNull]

def createdWithin : Option Int → Option Int → Filter
  | none, none => []
  | some low, none => [.column "createdAt" (.range (.atLeast (.instant low)))]
  | none, some high => [.column "createdAt" (.range (.atMost (.instant high)))]
  | some low, some high => [.column "createdAt" (.range (.between (.instant low) (.instant high)))]

def dateFilter (companyId : String) (low high : Option Int) : Filter :=
  ofCompany companyId ++ createdWithin low high

def sameGroup (comparison : Comparison) : Option Scalar → Option Scalar → Bool
  | none, none => true
  | some a, some b => comparison.equal a b
  | _, _ => false

def countIn (comparison : Comparison) (key : Option Scalar) :
    List (Option Scalar × Nat) → List (Option Scalar × Nat)
  | [] => [(key, 1)]
  | group :: groups =>
    if sameGroup comparison group.1 key then (group.1, group.2 + 1) :: groups
    else group :: countIn comparison key groups

def groupsOf (comparison : Comparison) (column : String) (rows : List Row) :
    List (Option Scalar × Nat) :=
  rows.foldl (fun groups row => countIn comparison (row column) groups) []

/-- `ticket.groupBy` with a count -/
def groupBy (column : String) (where_ : Filter) : Option (List (Option Scalar × Nat)) :=
  (Query.ticket.rows sv db (Filter.fields where_)).map (groupsOf sv.comparison column)

/-- The figures about resolved tickets are left out. -/
structure TicketSummary where
  total : Nat
  byStatus : List (Option Scalar × Nat)
  byPriority : List (Option Scalar × Nat)

def getTicketSummary (clock : Clock) (defaultDateRange : Option String) (companyId : String)
    (dateFrom dateTo : Option DateText) : Option TicketSummary := do
  let bounds := summaryBounds clock defaultDateRange dateFrom dateTo
  let where_ := dateFilter companyId (bounds.1.map (·.time)) (bounds.2.map (·.time))
  let total ← count sv db where_
  let byStatus ← groupBy sv db "status" where_
  let byPriority ← groupBy sv db "priority" where_
  pure ⟨total, byStatus, byPriority⟩

/-- What decides which tickets are in a report. -/
structure CustomReportDto where
  statuses : List String
  priorities : List String
  dateFrom : Option DateText
  dateTo : Option DateText

structure CustomReport where
  tickets : List TicketRecord
  total : Nat
  truncated : Bool

def listed (column : String) (values : List String) : Filter :=
  if values.isEmpty then [] else [.column column (.isIn (values.map .text))]

def createCustomReport (clock : Clock) (companyId : String) (dto : CustomReportDto) :
    Option CustomReport := do
  let where_ := ofCompany companyId ++ listed "status" dto.statuses ++
    listed "priority" dto.priorities ++
    createdWithin (dto.dateFrom.map (·.time)) (dto.dateTo.map (reportTo clock))
  let tickets ← findMany sv db where_ ("createdAt", .desc) (.finite 0) (.finite 500)
    { assignedTo := true }
  pure ⟨tickets, tickets.length, decide (tickets.length = 500)⟩

end Queries

section Law

variable (comparison : Comparison) (objectLiteral : Js → Option Scalar) (db : Db) (clock : Clock)

/-- The tickets of the company that are not deleted and were created within the bounds. -/
def ticketsWithin (companyId : String) (low high : Option Int) : List Row :=
  (db "Ticket").filter fun row =>
    Filter.holds comparison db row (dateFilter companyId low high)

def totalOf (groups : List (Option Scalar × Nat)) : Nat :=
  groups.foldr (fun group total => group.2 + total) 0

/-- The counts of a summary add up and are right, and a report about the same time counts as many
tickets, up to its limit. -/
structure FiguresAgree (companyId : String) (low high : Option Int) (summary : TicketSummary)
    (report : CustomReport) : Prop where
  byStatus : totalOf summary.byStatus = summary.total
  byPriority : totalOf summary.byPriority = summary.total
  total : summary.total = (ticketsWithin comparison db companyId low high).length
  report : report.total = min 500 summary.total

/-- What is asked of a summary and of the report with the bounds the summary works with. -/
def SummaryAgrees (defaultDateRange : Option String) (companyId : String)
    (dateFrom dateTo : Option DateText) : Prop :=
  let sv := server comparison objectLiteral
  let bounds := summaryBounds clock defaultDateRange dateFrom dateTo
  ∃ summary report,
    getTicketSummary sv db clock defaultDateRange companyId dateFrom dateTo = some summary ∧
    createCustomReport sv db clock companyId ⟨[], [], bounds.1, bounds.2⟩ = some report ∧
    FiguresAgree comparison db companyId (bounds.1.map (·.time)) (bounds.2.map (·.time)) summary report

/-- Beside a lower bound the upper one leaves nobody out. Without one, the end of the day that a
report goes to makes no difference, or only beyond its limit. -/
def BoundsMakeNoDifference (companyId : String) : Option DateText → Option DateText → Prop
  | some dateFrom, some dateTo =>
    ∀ row ∈ ticketsWithin comparison db companyId (some dateFrom.time) none,
      ColumnTest.holds comparison (.range (.atMost (.instant dateTo.time))) (row "createdAt") = true
  | none, some dateTo =>
    min 500 (ticketsWithin comparison db companyId none (some (reportTo clock dateTo))).length =
      min 500 (ticketsWithin comparison db companyId none (some dateTo.time)).length
  | _, none => True

end Law

section Groups

variable {comparison : Comparison}

theorem totalOf_countIn (key : Option Scalar) (groups : List (Option Scalar × Nat)) :
    totalOf (countIn comparison key groups) = totalOf groups + 1 := by
  induction groups with
  | nil => rfl
  | cons group groups ih =>
    rw [countIn]
    split
    · simp only [totalOf, List.foldr_cons]
      omega
    · simp only [totalOf, List.foldr_cons] at ih ⊢
      omega

/-- Every row is counted in one group. -/
theorem totalOf_groupsOf (column : String) (rows : List Row) :
    totalOf (groupsOf comparison column rows) = rows.length := by
  have hfold : ∀ groups, totalOf (rows.foldl (fun groups row =>
      countIn comparison (row column) groups) groups) = totalOf groups + rows.length := by
    induction rows with
    | nil => exact fun groups => rfl
    | cons row rows ih =>
      intro groups
      rw [List.foldl_cons, ih, totalOf_countIn, List.length_cons]
      omega
  rw [groupsOf, hfold, totalOf]
  exact Nat.zero_add _

end Groups

section Figures

variable {comparison : Comparison} {objectLiteral : Js → Option Scalar} {db : Db} {clock : Clock}
variable {companyId : String} {low high : Option Int}

theorem isOver_dateFilter : Filter.isOver "Ticket" (dateFilter companyId low high) = true := by
  cases low with
  | none => cases high <;> rfl
  | some low => cases high <;> rfl

/-- What the compiler makes of the bounds. -/
def readHigh (low high : Option Int) : Option Int :=
  if low.isSome then none else high

theorem rows_dateFilter :
    Query.ticket.rows (server comparison objectLiteral) db
        (Filter.fields (dateFilter companyId low high)) =
      some (ticketsWithin comparison db companyId low (readHigh low high)) := by
  have hread : Query.ticket.rows (server comparison objectLiteral) db
      (Filter.fields (dateFilter companyId low high)) =
        Query.ticket.rows (server comparison objectLiteral) db
          (Filter.fields (dateFilter companyId low (readHigh low high))) := by
    rw [Query.rows_of .ticket _ db _ isOver_dateFilter, Query.rows_of .ticket _ db _ isOver_dateFilter]
    cases low with
    | none => rfl
    | some low =>
      cases high with
      | none => rfl
      | some high => rfl
  rw [hread]
  refine Query.correct_of_supports .ticket isOver_dateFilter ?_ comparison objectLiteral db
  cases low with
  | none => cases high <;> rfl
  | some low => rfl

theorem getTicketSummary_eq (defaultDateRange : Option String) (dateFrom dateTo : Option DateText) :
    getTicketSummary (server comparison objectLiteral) db clock defaultDateRange companyId dateFrom dateTo =
      let bounds := summaryBounds clock defaultDateRange dateFrom dateTo
      let rows := ticketsWithin comparison db companyId (bounds.1.map (·.time))
        (readHigh (bounds.1.map (·.time)) (bounds.2.map (·.time)))
      some ⟨rows.length, groupsOf comparison "status" rows, groupsOf comparison "priority" rows⟩ := by
  simp only [getTicketSummary, count, groupBy, rows_dateFilter]
  rfl

/-- The page a report lists. -/
def reported (sv : Server) (db : Db) (rows : List Row) : List TicketRecord :=
  (((orderedBy sv.comparison "createdAt" .desc rows).drop 0).take 500).map
    (enrichTicket sv db · { assignedTo := true })

theorem length_reported (sv : Server) (rows : List Row) :
    (reported sv db rows).length = min 500 rows.length := by
  rw [reported, List.length_map, List.length_take, List.drop_zero, length_orderedBy]

theorem createCustomReport_eq (dateFrom dateTo : Option DateText) :
    createCustomReport (server comparison objectLiteral) db clock companyId ⟨[], [], dateFrom, dateTo⟩ =
      let tickets := reported (server comparison objectLiteral) db
        (ticketsWithin comparison db companyId (dateFrom.map (·.time))
          (readHigh (dateFrom.map (·.time)) (dateTo.map (reportTo clock))))
      some ⟨tickets, tickets.length, decide (tickets.length = 500)⟩ := by
  have hrows := @rows_dateFilter comparison objectLiteral db companyId (dateFrom.map (·.time))
    (dateTo.map (reportTo clock))
  rw [dateFilter] at hrows
  simp only [createCustomReport, findMany, listed, List.isEmpty_nil, if_true, List.append_nil, hrows]
  rfl

theorem ticketsWithin_between (low high : Int) :
    ticketsWithin comparison db companyId (some low) (some high) =
      (ticketsWithin comparison db companyId (some low) none).filter fun row =>
        ColumnTest.holds comparison (.range (.atMost (.instant high))) (row "createdAt") := by
  rw [ticketsWithin, ticketsWithin, List.filter_filter]
  refine List.filter_congr fun row _ => ?_
  simp only [dateFilter, ofCompany, createdWithin, List.cons_append, List.nil_append, Filter.holds,
    Entry.holds, ColumnTest.holds, Bounds.holds]
  cases row "createdAt" with
  | none => simp
  | some created =>
    simp only [Option.any_some]
    grind

/-- What is counted between the bounds, in the summary and in the report. -/
theorem counted_iff (dateFrom dateTo : Option DateText) :
    (let low := dateFrom.map (·.time)
      let high := dateTo.map (·.time)
      (ticketsWithin comparison db companyId low (readHigh low high)).length =
          (ticketsWithin comparison db companyId low high).length ∧
        min 500 (ticketsWithin comparison db companyId low
            (readHigh low (dateTo.map (reportTo clock)))).length =
          min 500 (ticketsWithin comparison db companyId low (readHigh low high)).length) ↔
      BoundsMakeNoDifference comparison db clock companyId dateFrom dateTo := by
  cases dateFrom with
  | none =>
    cases dateTo with
    | none => exact iff_of_true ⟨rfl, rfl⟩ trivial
    | some dateTo => exact and_iff_right rfl
  | some dateFrom =>
    cases dateTo with
    | none => exact iff_of_true ⟨rfl, rfl⟩ trivial
    | some dateTo =>
      simp only [Option.map_some, readHigh, Option.isSome_some, if_true, and_true,
        ticketsWithin_between]
      rw [eq_comm, List.length_filter_eq_length_iff, BoundsMakeNoDifference]

/-- The counts always add up. They are those of the bounds, and a report has as many tickets, just
where the upper bound makes no difference beside a lower one and the end of its day makes none. -/
theorem summary_agrees_iff (comparison : Comparison) (objectLiteral : Js → Option Scalar) (db : Db)
    (clock : Clock) (defaultDateRange : Option String) (companyId : String)
    (dateFrom dateTo : Option DateText) :
    SummaryAgrees comparison objectLiteral db clock defaultDateRange companyId dateFrom dateTo ↔
      let bounds := summaryBounds clock defaultDateRange dateFrom dateTo
      BoundsMakeNoDifference comparison db clock companyId bounds.1 bounds.2 := by
  rw [SummaryAgrees]
  simp only [getTicketSummary_eq, createCustomReport_eq, ← counted_iff, Option.some.injEq]
  constructor
  · rintro ⟨summary, report, rfl, rfl, hagree⟩
    have hreport := hagree.report
    rw [length_reported] at hreport
    exact ⟨hagree.total, hreport⟩
  · rintro ⟨htotal, hreport⟩
    refine ⟨_, _, rfl, rfl, totalOf_groupsOf _ _, totalOf_groupsOf _ _, htotal, ?_⟩
    rw [length_reported]
    exact hreport

end Figures

section Sample

/-- A ticket of the second of June 1970. -/
def lateTicket : Row
  | "companyId" => some (.text "c1")
  | "status" => some (.text "OPEN")
  | "priority" => some (.text "LOW")
  | "createdAt" => some (.instant 13132800000)
  | _ => none

def lateTickets : Db
  | "Ticket" => [lateTicket]
  | _ => []

def utcClock : Clock where
  startDateForRange _ := 0
  toISOString _ := "1970-01-01T00:00:00.000Z"
  endOfDay time := time + 86399999

/-- From the first of May to the first of June. -/
theorem summary_counts_after :
    ¬ SummaryAgrees Comparison.binary (fun _ => none) lateTickets utcClock none "c1"
      (some ⟨"1970-05-01", 10368000000⟩) (some ⟨"1970-06-01", 13046400000⟩) := by
  rw [SummaryAgrees, getTicketSummary_eq]
  rintro ⟨summary, report, hsummary, -, hagree⟩
  obtain rfl := Option.some.inj hsummary
  have htotal := hagree.total
  revert htotal
  decide

end Sample
end FieldserviceIT.Reporting
