import FieldserviceIT.Lib.Interleaving
import FieldserviceIT.Lib.Tables

/-!
The metering of usage. A call finds the record of a company, a metric and a month, or creates
it, and writes back its count with one added; each of these is a statement of its own. A ticket
is checked against the limit of the plan before it is created and counted after. Months are
those of the local calendar; a call that fails is one that is not advanced any further.
-/

namespace FieldserviceIT.Billing.Usage

open Lib

structure Plan where
  id : String
  maxTickets : Option Int

structure CompanyPlan where
  companyId : String
  planId : String

structure UsageRecord where
  id : String
  companyId : String
  metric : String
  count : Nat
  periodStart : Int
  periodEnd : Int

structure Ticket where
  companyId : String
  createdAt : Int

/-- What is counted together. -/
structure UsageKey where
  companyId : String
  metric : String
  period : Int × Int
  deriving DecidableEq

def UsageRecord.key (row : UsageRecord) : UsageKey :=
  ⟨row.companyId, row.metric, (row.periodStart, row.periodEnd)⟩

/-- `completed` has what each completed increment counted, `uncounted` the tickets whose
increment is not completed in the month they were created in. No statement reads them. -/
structure Meter where
  plans : List Plan
  companyPlans : List CompanyPlan
  tickets : List Ticket
  records : List UsageRecord
  now : Int
  drawn : Nat
  completed : List UsageKey
  uncounted : List UsageKey

/-- From the first to the last millisecond of the month around a time, and random identifiers
by number. -/
structure UsagePlatform where
  month : Int → Int × Int
  uuid : Nat → String
  month_contains : ∀ t, (month t).1 ≤ t ∧ t ≤ (month t).2
  month_unique : ∀ t u, (month t).1 ≤ u → u ≤ (month t).2 → month u = month t

inductive UsageOp where
  | read
  | create (key : UsageKey)
  /-- The count of the record, on account of a ticket or not. -/
  | setCount (id : String) (nextCount : Nat) (key : UsageKey) (ticket : Option UsageKey)
  | insertTicket (companyId : String)

abbrev UsageProgram := Prog Meter UsageOp

/-- `WHERE companyId = ? AND metric = ? AND periodStart >= ? AND periodEnd <= ?` -/
def UsageKey.selects (key : UsageKey) (row : UsageRecord) : Bool :=
  decide (row.companyId = key.companyId) && decide (row.metric = key.metric) &&
    decide (key.period.1 ≤ row.periodStart) && decide (row.periodEnd ≤ key.period.2)

def findRecord (key : UsageKey) (s : Meter) : Option UsageRecord :=
  s.records.find? key.selects

/-- The plan a company has, where it has one; its row may be missing. -/
def getCompanyPlan (companyId : String) (s : Meter) : Option (Option Plan) :=
  (s.companyPlans.find? fun row => row.companyId = companyId).map fun companyPlan =>
    s.plans.find? fun row => row.id = companyPlan.planId

section Statements

variable (P : UsagePlatform)

def newRecord (key : UsageKey) (s : Meter) : UsageRecord where
  id := P.uuid s.drawn
  companyId := key.companyId
  metric := key.metric
  count := 0
  periodStart := key.period.1
  periodEnd := key.period.2

def idTaken (s : Meter) : Bool :=
  s.records.any fun row => row.id = P.uuid s.drawn

def ticketKey (companyId : String) (s : Meter) : UsageKey :=
  ⟨companyId, "tickets", P.month s.now⟩

/-- An increment on account of a ticket counts it if it is in time for its month. -/
def afterCounting (key : UsageKey) (ticket : Option UsageKey) (uncounted : List UsageKey) :
    List UsageKey :=
  if ticket = some key then uncounted.erase key else uncounted

def execUsage (op : UsageOp) (s : Meter) : Meter :=
  match op with
  | .read => s
  | .create key =>
    if idTaken P s then { s with drawn := s.drawn + 1 }
    else { s with records := s.records ++ [newRecord P key s], drawn := s.drawn + 1 }
  | .setCount id nextCount key ticket =>
    { s with
      records := updateWhere (fun row => row.id = id)
        (fun row => { row with count := nextCount }) s.records
      completed := key :: s.completed
      uncounted := afterCounting key ticket s.uncounted }
  | .insertTicket companyId =>
    { s with
      tickets := s.tickets ++ [⟨companyId, s.now⟩]
      uncounted := ticketKey P companyId s :: s.uncounted }

/-- `Number(record.count || 0) + 1` is written to the record with the id. -/
def increment (key : UsageKey) (ticket : Option UsageKey) (id : String) (count : Nat) :
    UsageProgram :=
  .step (.setCount id (count + 1) key ticket) fun _ => .done

/-- The month is that of the call, and the record is looked up after. -/
def withRecord (companyId metric : String)
    (rest : UsageKey → Option UsageRecord → UsageProgram) : UsageProgram :=
  .step .read fun s =>
    .step .read fun s' =>
      rest ⟨companyId, metric, P.month s.now⟩ (findRecord ⟨companyId, metric, P.month s.now⟩ s')

def incrementUsage (companyId metric : String) (ticket : Option UsageKey) : UsageProgram :=
  withRecord P companyId metric fun key record =>
    match record with
    | some record => increment key ticket record.id record.count
    | none =>
      .step (.create key) fun s =>
        if idTaken P s then .fail else increment key ticket (newRecord P key s).id 0

/-- Goes on with `record?.count || 0`. -/
def getUsage (companyId metric : String) (rest : Nat → UsageProgram) : UsageProgram :=
  withRecord P companyId metric fun _ record => rest ((record.map UsageRecord.count).getD 0)

def checkTicketLimit (companyId : String) (rest : UsageProgram) : UsageProgram :=
  .step .read fun s =>
    match getCompanyPlan companyId s with
    | none => rest
    -- the limit of a plan whose row is missing cannot be read
    | some none => .fail
    | some (some plan) =>
      if plan.maxTickets.getD (-1) = -1 then rest
      else
        getUsage P companyId "tickets" fun current =>
          if plan.maxTickets.getD (-1) ≤ current then .fail else rest

/-- A ticket of a company, behind the check of its limit. The increment is not waited for, and
nobody hears of its errors. -/
def createTicket (companyId : String) : UsageProgram :=
  checkTicketLimit P companyId <|
    .step (.insertTicket companyId) fun s =>
      incrementUsage P companyId "tickets" (some (ticketKey P companyId s))

inductive UsageCall where
  | incrementUsage (companyId metric : String)
  | createTicket (companyId : String)

def UsageCall.handler : UsageCall → UsageProgram
  | incrementUsage companyId metric => Usage.incrementUsage P companyId metric none
  | createTicket companyId => Usage.createTicket P companyId

def usageSystem : System Meter UsageOp UsageCall where
  exec := execUsage P
  tick s := { s with now := s.now + 1 }
  handler := UsageCall.handler P
  sendable _ _ := True

end Statements

/-!
What the metering of usage comes to. Every completed increment is in the stored count as long
as no record is created where another has been, and no count is written over another; the
tickets of a month stay within the limit as long as those that are not counted yet are counted
with the rest when a ticket is inserted.
-/

section Law

variable (P : UsagePlatform)

def UsageKey.Monthly (key : UsageKey) : Prop :=
  ∃ t, key.period = P.month t

def recordsFor (key : UsageKey) (s : Meter) : List UsageRecord :=
  s.records.filter key.selects

def storedCount (key : UsageKey) (s : Meter) : Nat :=
  ((findRecord key s).map UsageRecord.count).getD 0

def ticketsIn (companyId : String) (period : Int × Int) (s : Meter) : Nat :=
  s.tickets.countP fun ticket =>
    decide (ticket.companyId = companyId) && decide (P.month ticket.createdAt = period)

def ticketLimit (companyId : String) (s : Meter) : Option Int :=
  (getCompanyPlan companyId s).join.bind fun plan => plan.maxTickets.filter (· ≠ -1)

/-- There is one record for a month, with every completed increment in its count, and the
tickets of a month are within the limit. -/
structure LosesNoUpdate (s : Meter) : Prop where
  one : ∀ key : UsageKey, key.Monthly P → (recordsFor key s).length ≤ 1
  created : ∀ key ∈ s.completed, key.Monthly P → (recordsFor key s).length = 1
  counted : ∀ key : UsageKey, key.Monthly P → storedCount key s = s.completed.count key
  limited : ∀ companyId limit, ticketLimit companyId s = some limit →
    ∀ t, ticketsIn P companyId (P.month t) s ≤ limit.toNat

/-- There is still no record where one is created, the count that was read is still the count
where one more is written, and a ticket is still within the limit if all tickets that are not
counted yet are counted. -/
def UpToDate (op : UsageOp) (s : Meter) : Prop :=
  match op with
  | .read => True
  | .create key => idTaken P s = false → findRecord key s = none
  | .setCount id nextCount _ _ => ∀ row ∈ s.records, row.id = id → row.count + 1 = nextCount
  | .insertTicket companyId => ∀ limit, ticketLimit companyId s = some limit →
      ((storedCount (ticketKey P companyId s) s +
        s.uncounted.count (ticketKey P companyId s) : Nat) : Int) < limit

/-- What a meter keeps. -/
structure Counted (s : Meter) : Prop where
  ids : Distinct UsageRecord.id s.records
  keys : Distinct UsageRecord.key s.records
  monthly : ∀ row ∈ s.records, row.key.Monthly P
  counts : ∀ row ∈ s.records, row.count = s.completed.count row.key
  known : ∀ key ∈ s.completed, ∃ row ∈ s.records, row.key = key
  /-- A ticket is counted, or waits for it. -/
  tickets : ∀ companyId period, ticketsIn P companyId period s ≤
    s.completed.count ⟨companyId, "tickets", period⟩ +
      s.uncounted.count ⟨companyId, "tickets", period⟩
  limited : ∀ companyId limit, ticketLimit companyId s = some limit →
    ∀ t, ticketsIn P companyId (P.month t) s ≤ limit.toNat

def Grounded (op : UsageOp) (s : Meter) : Prop :=
  match op with
  | .create key => key.Monthly P
  | .setCount id _ key _ => ∃ row ∈ s.records, row.id = id ∧ row.key = key
  | _ => True

end Law

section Records

variable {P : UsagePlatform} {s s' : Meter} {key : UsageKey}

theorem month_nested {t u : Int} (hstart : (P.month t).1 ≤ (P.month u).1)
    (hend : (P.month u).2 ≤ (P.month t).2) : P.month u = P.month t := by
  have hcontains := P.month_contains u
  apply P.month_unique t u
  · omega
  · omega

theorem selects_iff (hkey : key.Monthly P) {row : UsageRecord} (hrow : row.key.Monthly P) :
    key.selects row = true ↔ row.key = key := by
  obtain ⟨companyId, metric, period⟩ := key
  obtain ⟨t, rfl⟩ := hkey
  obtain ⟨u, hu⟩ := hrow
  obtain ⟨hstart, hend⟩ := Prod.mk.inj hu
  simp only [UsageKey.selects, UsageRecord.key, Bool.and_eq_true, decide_eq_true_eq,
    UsageKey.mk.injEq]
  constructor
  · rintro ⟨⟨⟨hcompany, hmetric⟩, hfrom⟩, hto⟩
    rw [hstart] at hfrom
    rw [hend] at hto
    exact ⟨hcompany, hmetric, hu.trans (month_nested hfrom hto)⟩
  · rintro ⟨hcompany, hmetric, hperiod⟩
    obtain ⟨hfrom, hto⟩ := Prod.mk.inj hperiod
    exact ⟨⟨⟨hcompany, hmetric⟩, Int.le_of_eq hfrom.symm⟩, Int.le_of_eq hto⟩

theorem Counted.recordsFor_eq (h : Counted P s) (hkey : key.Monthly P) :
    recordsFor key s = s.records.filter fun row => row.key = key := by
  refine List.filter_congr fun row hrow => ?_
  rw [Bool.eq_iff_iff, selects_iff hkey (h.monthly row hrow), decide_eq_true_eq]

theorem Counted.recordsFor_of_mem (h : Counted P s) {row : UsageRecord} (hrow : row ∈ s.records) :
    recordsFor row.key s = [row] := by
  rw [h.recordsFor_eq (h.monthly row hrow)]
  exact h.keys.filter_key hrow

theorem findRecord_eq (key : UsageKey) (s : Meter) :
    findRecord key s = (recordsFor key s).head? := by
  rw [findRecord, recordsFor, List.head?_filter]

theorem Counted.findRecord_of_mem (h : Counted P s) {row : UsageRecord} (hrow : row ∈ s.records) :
    findRecord row.key s = some row := by
  rw [findRecord_eq, h.recordsFor_of_mem hrow, List.head?_cons]

theorem Counted.of_findRecord (h : Counted P s) (hkey : key.Monthly P) {row : UsageRecord}
    (hfound : findRecord key s = some row) : row ∈ s.records ∧ row.key = key := by
  have hrow := List.mem_of_find?_eq_some hfound
  exact ⟨hrow, (selects_iff hkey (h.monthly row hrow)).mp (List.find?_some hfound)⟩

theorem Counted.not_completed (h : Counted P s) (hfree : ∀ row ∈ s.records, row.key ≠ key) :
    s.completed.count key = 0 := by
  rw [List.count_eq_zero]
  intro hcompleted
  obtain ⟨row, hrow, hrowKey⟩ := h.known key hcompleted
  exact hfree row hrow hrowKey

theorem Counted.free_of_findRecord (h : Counted P s) (hnone : findRecord key s = none) :
    ∀ row ∈ s.records, row.key ≠ key := by
  intro row hrow hrowKey
  have hfound := h.findRecord_of_mem hrow
  rw [hrowKey, hnone] at hfound
  cases hfound

theorem Counted.storedCount_eq (h : Counted P s) (hkey : key.Monthly P) :
    storedCount key s = s.completed.count key := by
  rw [storedCount]
  cases hfound : findRecord key s with
  | none => exact (h.not_completed (h.free_of_findRecord hfound)).symm
  | some row =>
    obtain ⟨hrow, rfl⟩ := h.of_findRecord hkey hfound
    exact h.counts row hrow

theorem Counted.losesNoUpdate (h : Counted P s) : LosesNoUpdate P s where
  one key hkey := by
    by_cases hfree : ∀ row ∈ s.records, row.key ≠ key
    · rw [h.recordsFor_eq hkey, List.filter_eq_nil_iff.mpr]
      · exact Nat.zero_le 1
      · exact fun row hrow hrowKey => hfree row hrow (of_decide_eq_true hrowKey)
    · push Not at hfree
      obtain ⟨row, hrow, rfl⟩ := hfree
      rw [h.recordsFor_of_mem hrow]
      exact Nat.le_refl 1
  created key hcompleted _ := by
    obtain ⟨row, hrow, rfl⟩ := h.known key hcompleted
    rw [h.recordsFor_of_mem hrow, List.length_singleton]
  counted _ hkey := h.storedCount_eq hkey
  limited := h.limited

end Records

section Steps

variable {P : UsagePlatform} {s s' : Meter}

def RecordsStay (s s' : Meter) : Prop :=
  Carried (fun row row' : UsageRecord => row'.id = row.id ∧ row'.key = row.key) s.records s'.records

theorem recordsStay_of_records (hrecords : s'.records = s.records) : RecordsStay s s' := by
  rw [RecordsStay, hrecords]
  exact Carried.refl (fun _ => ⟨rfl, rfl⟩) s.records

theorem recordsStay_exec (op : UsageOp) (s : Meter) : RecordsStay s (execUsage P op s) := by
  cases op with
  | create key =>
    simp only [execUsage]
    split
    · exact recordsStay_of_records rfl
    · exact Carried.append (fun _ => ⟨rfl, rfl⟩) s.records _
  | setCount id nextCount key ticket =>
    exact Carried.updateWhere (fun _ => ⟨rfl, rfl⟩) fun _ _ _ => ⟨rfl, rfl⟩
  | _ => exact recordsStay_of_records rfl

theorem RecordsStay.trans {s'' : Meter} (h : RecordsStay s s') (h' : RecordsStay s' s'') :
    RecordsStay s s'' :=
  Carried.trans (fun hab hbc => ⟨hbc.1.trans hab.1, hbc.2.trans hab.2⟩) h h'

theorem ticketLimit_exec (op : UsageOp) (companyId : String) (s : Meter) :
    ticketLimit companyId (execUsage P op s) = ticketLimit companyId s := by
  cases op with
  | create key =>
    simp only [execUsage]
    split <;> rfl
  | _ => rfl

theorem counted_create (h : Counted P s) {key : UsageKey} (hkey : key.Monthly P)
    (hcurrent : UpToDate P (.create key) s) : Counted P (execUsage P (.create key) s) := by
  simp only [execUsage]
  split
  · exact ⟨h.ids, h.keys, h.monthly, h.counts, h.known, h.tickets, h.limited⟩
  next hid =>
    have hfree := h.free_of_findRecord (hcurrent (Bool.not_eq_true _ ▸ hid))
    refine ⟨h.ids.append ?_, h.keys.append hfree, ?_, ?_, ?_, h.tickets, h.limited⟩
    · intro row hrow heq
      exact hid (List.any_eq_true.mpr ⟨row, hrow, decide_eq_true heq⟩)
    · intro row hrow
      obtain hrow | hrow := List.mem_append.mp hrow
      · exact h.monthly row hrow
      · obtain rfl := List.mem_singleton.mp hrow
        exact hkey
    · intro row hrow
      obtain hrow | hrow := List.mem_append.mp hrow
      · exact h.counts row hrow
      · obtain rfl := List.mem_singleton.mp hrow
        exact (h.not_completed hfree).symm
    · intro other hother
      obtain ⟨row, hrow, hrowKey⟩ := h.known other hother
      exact ⟨row, List.mem_append_left _ hrow, hrowKey⟩

theorem count_afterCounting (key other : UsageKey) (ticket : Option UsageKey)
    (completed uncounted : List UsageKey) :
    completed.count other + uncounted.count other ≤
      (key :: completed).count other + (afterCounting key ticket uncounted).count other := by
  rw [afterCounting]
  by_cases hother : key = other
  · subst hother
    rw [List.count_cons_self]
    split
    · rw [List.count_erase_self]
      omega
    · omega
  · rw [List.count_cons_of_ne hother]
    split
    · exact Nat.le_of_eq (by rw [List.count_erase_of_ne (Ne.symm hother)])
    · exact Nat.le_refl _

theorem counted_setCount (h : Counted P s) {id : String} {nextCount : Nat} {key : UsageKey}
    {ticket : Option UsageKey} (hgrounded : Grounded P (.setCount id nextCount key ticket) s)
    (hcurrent : UpToDate P (.setCount id nextCount key ticket) s) :
    Counted P (execUsage P (.setCount id nextCount key ticket) s) := by
  obtain ⟨written, hwritten, rfl, rfl⟩ := hgrounded
  refine ⟨h.ids.updateWhere fun _ _ => rfl, h.keys.updateWhere fun _ _ => rfl, ?_, ?_, ?_, ?_,
    h.limited⟩
  · exact forall_updateWhere h.monthly fun _ _ _ hmonthly => hmonthly
  · intro row' hrow'
    obtain ⟨row, hrow, rfl⟩ := mem_updateWhere.mp hrow'
    by_cases hid : row.id = written.id
    · obtain rfl := h.ids.eq_of_key hrow hwritten hid
      have hnext := hcurrent row hrow rfl
      have hcount := h.counts row hrow
      rw [if_pos (decide_eq_true rfl)]
      change nextCount = (row.key :: s.completed).count row.key
      rw [List.count_cons_self]
      omega
    · have hkey : written.key ≠ row.key := by
        intro heq
        exact hid (congrArg UsageRecord.id (h.keys.eq_of_key hwritten hrow heq)).symm
      simp only [hid, decide_false, Bool.false_eq_true, if_false, execUsage]
      rw [List.count_cons_of_ne hkey]
      exact h.counts row hrow
  · intro other hother
    obtain rfl | hother := List.mem_cons.mp hother
    · exact ⟨_, mem_updateWhere.mpr ⟨written, hwritten, rfl⟩, by split <;> rfl⟩
    · obtain ⟨row, hrow, rfl⟩ := h.known other hother
      exact ⟨_, mem_updateWhere.mpr ⟨row, hrow, rfl⟩, by split <;> rfl⟩
  · intro companyId period
    exact Nat.le_trans (h.tickets companyId period) (count_afterCounting _ _ _ _ _)

theorem ticketsIn_append (companyId : String) (period : Int × Int) (ticket : Ticket) (s : Meter) :
    ticketsIn P companyId period { s with tickets := s.tickets ++ [ticket] } =
      ticketsIn P companyId period s +
        if ticket.companyId = companyId ∧ P.month ticket.createdAt = period then 1 else 0 := by
  rw [ticketsIn, List.countP_append, List.countP_singleton, ← ticketsIn]
  simp only [Bool.and_eq_true, decide_eq_true_eq]

theorem counted_insertTicket (h : Counted P s) {companyId : String}
    (hcurrent : UpToDate P (.insertTicket companyId) s) :
    Counted P (execUsage P (.insertTicket companyId) s) := by
  have htickets : ∀ other period, ticketsIn P other period
      (execUsage P (.insertTicket companyId) s) =
        ticketsIn P other period s + [ticketKey P companyId s].count ⟨other, "tickets", period⟩ := by
    intro other period
    have happend := ticketsIn_append (P := P) other period ⟨companyId, s.now⟩ s
    rw [List.count_singleton]
    simp only [ticketKey, beq_iff_eq, UsageKey.mk.injEq, true_and]
    exact happend
  have huncounted : ∀ key, (ticketKey P companyId s :: s.uncounted).count key =
      s.uncounted.count key + [ticketKey P companyId s].count key := by
    intro key
    rw [List.count_cons, List.count_singleton]
  refine ⟨h.ids, h.keys, h.monthly, h.counts, h.known, ?_, ?_⟩
  · intro other period
    have hbefore := h.tickets other period
    rw [htickets]
    simp only [execUsage, huncounted]
    omega
  · intro other limit hlimit t
    rw [ticketLimit_exec] at hlimit
    have hbefore := h.limited other limit hlimit t
    rw [htickets]
    by_cases hkey : ticketKey P companyId s = ⟨other, "tickets", P.month t⟩
    · have hcompany : companyId = other := congrArg UsageKey.companyId hkey
      subst hcompany
      have hstill := hcurrent limit hlimit
      have hwaiting := h.tickets companyId (P.month t)
      rw [h.storedCount_eq ⟨s.now, rfl⟩, hkey] at hstill
      rw [hkey, List.count_singleton_self]
      omega
    · rw [List.count_singleton, beq_eq_false_iff_ne.mpr hkey]
      exact hbefore

theorem counted_exec (h : Counted P s) {op : UsageOp} (hgrounded : Grounded P op s)
    (hcurrent : UpToDate P op s) : Counted P (execUsage P op s) := by
  cases op with
  | read => exact h
  | create key => exact counted_create h hgrounded hcurrent
  | setCount id nextCount key ticket => exact counted_setCount h hgrounded hcurrent
  | insertTicket companyId => exact counted_insertTicket h hcurrent

theorem free_of_losesNoUpdate {key : UsageKey} (hkey : key.Monthly P)
    (hlaw : LosesNoUpdate P (execUsage P (.create key) s)) : UpToDate P (.create key) s := by
  intro hid
  have hone := hlaw.one key hkey
  have hselects : key.selects (newRecord P key s) = true := by simp [UsageKey.selects, newRecord]
  simp only [execUsage, hid, Bool.false_eq_true, if_false, recordsFor, List.filter_append,
    List.length_append, List.filter_singleton, hselects, cond_true, List.length_singleton] at hone
  have hempty : recordsFor key s = [] := List.length_eq_zero_iff.mp (by rw [recordsFor]; omega)
  rw [findRecord_eq, hempty, List.head?_nil]

theorem findRecord_setCount (key other : UsageKey) (ticket : Option UsageKey) (id : String)
    (nextCount : Nat) : findRecord other (execUsage P (.setCount id nextCount key ticket) s) =
      (findRecord other s).map fun row =>
        if row.id = id then { row with count := nextCount } else row := by
  have hsame : other.selects ∘ (fun row : UsageRecord =>
      if decide (row.id = id) = true then { row with count := nextCount } else row) =
        other.selects := by
    funext row
    rw [Function.comp]
    split <;> rfl
  rw [findRecord, execUsage, updateWhere, List.find?_map, hsame, findRecord]
  simp only [decide_eq_true_eq]

theorem unchanged_of_losesNoUpdate (h : Counted P s) {id : String} {nextCount : Nat}
    {key : UsageKey} {ticket : Option UsageKey}
    (hgrounded : Grounded P (.setCount id nextCount key ticket) s)
    (hlaw : LosesNoUpdate P (execUsage P (.setCount id nextCount key ticket) s)) :
    UpToDate P (.setCount id nextCount key ticket) s := by
  obtain ⟨written, hwritten, rfl, rfl⟩ := hgrounded
  intro row hrow hid
  obtain rfl := h.ids.eq_of_key hrow hwritten hid
  have hcounted := hlaw.counted row.key (h.monthly row hrow)
  rw [storedCount, findRecord_setCount, h.findRecord_of_mem hrow, Option.map_some, Option.map_some,
    if_pos rfl, Option.getD_some] at hcounted
  change nextCount = (row.key :: s.completed).count row.key at hcounted
  rw [List.count_cons_self, ← h.counts row hrow] at hcounted
  exact hcounted.symm

theorem losesNoUpdate_exec_iff (h : Counted P s) {op : UsageOp} (hgrounded : Grounded P op s)
    (hticket : ∀ companyId, op ≠ .insertTicket companyId) :
    LosesNoUpdate P (execUsage P op s) ↔ UpToDate P op s := by
  refine ⟨fun hlaw => ?_, fun hcurrent => (counted_exec h hgrounded hcurrent).losesNoUpdate⟩
  cases op with
  | read => trivial
  | create key => exact free_of_losesNoUpdate hgrounded hlaw
  | setCount id nextCount key ticket => exact unchanged_of_losesNoUpdate h hgrounded hlaw
  | insertTicket companyId => exact absurd rfl (hticket companyId)

end Steps

section Programs

variable (P : UsagePlatform)

/-- Every record the program writes to is there and is the one for its key. -/
abbrev Minds (p : UsageProgram) (s : Meter) : Prop :=
  p.Safe (usageSystem P) (fun _ _ => True) (Counted P) RecordsStay (Grounded P) (fun _ => True) s

variable {P} {s : Meter}

theorem minds_read {next : Meter → UsageProgram} (h : ∀ s', Counted P s' → Minds P (next s') s') :
    Minds P (.step .read next) s :=
  fun s' _ hcounted _ => ⟨trivial, h s' hcounted⟩

theorem minds_increment {key : UsageKey} {ticket : Option UsageKey} {row : UsageRecord}
    (hrow : row ∈ s.records) (hkey : row.key = key) (count : Nat) :
    Minds P (increment key ticket row.id count) s := by
  intro s' hstay _ _
  obtain ⟨row', hrow', hid', hkey'⟩ := hstay row hrow
  exact ⟨⟨row', hrow', hid', hkey'.trans hkey⟩, fun _ _ _ => trivial⟩

theorem minds_withRecord {companyId metric : String}
    {rest : UsageKey → Option UsageRecord → UsageProgram}
    (hnone : ∀ key s', key.Monthly P → Minds P (rest key none) s')
    (hsome : ∀ key s' row, row ∈ s'.records → row.key = key → Minds P (rest key (some row)) s') :
    Minds P (withRecord P companyId metric rest) s := by
  refine minds_read fun s' _ => minds_read fun s'' hcounted => ?_
  have hkey : UsageKey.Monthly P ⟨companyId, metric, P.month s'.now⟩ := ⟨s'.now, rfl⟩
  cases hfound : findRecord ⟨companyId, metric, P.month s'.now⟩ s'' with
  | none => exact hnone _ s'' hkey
  | some row =>
    obtain ⟨hrow, hrowKey⟩ := hcounted.of_findRecord hkey hfound
    exact hsome _ s'' row hrow hrowKey

theorem minds_incrementUsage (companyId metric : String) (ticket : Option UsageKey) :
    Minds P (incrementUsage P companyId metric ticket) s := by
  apply minds_withRecord
  · intro key s' hkey s'' _ _ _
    refine ⟨hkey, ?_⟩
    simp only
    split
    · exact fun _ _ _ => trivial
    next hid =>
      refine minds_increment ?_ rfl 0
      simp only [usageSystem, execUsage, hid]
      exact List.mem_append_right _ (List.mem_singleton_self _)
  · intro key s' row hrow hkey
    exact minds_increment hrow hkey row.count

theorem minds_checkTicketLimit {companyId : String} {rest : UsageProgram}
    (hrest : ∀ s', Minds P rest s') : Minds P (checkTicketLimit P companyId rest) s := by
  refine minds_read fun s' _ => ?_
  split
  · exact hrest s'
  · exact fun _ _ _ => trivial
  · split
    · exact hrest s'
    · have hnext : ∀ (limit : Int) (current : Nat) s'',
          Minds P (if limit ≤ current then .fail else rest) s'' := by
        intro limit current s''
        split
        · exact fun _ _ _ => trivial
        · exact hrest s''
      apply minds_withRecord
      · exact fun _ s'' _ => hnext _ _ s''
      · exact fun _ s'' _ _ _ => hnext _ _ s''

theorem minds_handler (call : UsageCall) : Minds P ((usageSystem P).handler call) s := by
  cases call with
  | incrementUsage companyId metric => exact minds_incrementUsage companyId metric none
  | createTicket companyId =>
    apply minds_checkTicketLimit
    exact fun s' s'' _ _ _ => ⟨trivial, minds_incrementUsage companyId "tickets" _⟩

end Programs

section Runs

theorem Counted.tick {P : UsagePlatform} {s : Meter} (h : Counted P s) :
    Counted P ((usageSystem P).tick s) :=
  ⟨h.ids, h.keys, h.monthly, h.counts, h.known, h.tickets, h.limited⟩

theorem informed_usage (P : UsagePlatform) :
    Informed (usageSystem P) (UpToDate P) (Counted P) RecordsStay (Grounded P) where
  refl _ := recordsStay_of_records rfl
  trans := RecordsStay.trans
  exec hcounted hcurrent hgrounded :=
    ⟨counted_exec hcounted hgrounded hcurrent, recordsStay_exec _ _⟩
  tick hcounted := ⟨hcounted.tick, recordsStay_of_records rfl⟩
  handler _ _ := minds_handler _

/-- No increment is lost, no record is there twice and no month has more tickets than the plan
allows, as long as every statement is up to date; and a record that is created or written to too
late costs an increment or makes two records of one. -/
theorem usage_loses_no_update (P : UsagePlatform) {c₀ c : Config Meter UsageOp}
    (hidle : c₀.threads = []) (hcounted : Counted P c₀.shared)
    (hrun : (usageSystem P).Run (UpToDate P) c₀ c) :
    LosesNoUpdate P c.shared ∧ ∀ op next, Prog.step op next ∈ c.threads →
      (∀ companyId, op ≠ .insertTicket companyId) →
        (LosesNoUpdate P ((usageSystem P).exec op c.shared) ↔ UpToDate P op c.shared) := by
  obtain ⟨hcounted', hgrounded⟩ := (informed_usage P).run hidle hrun hcounted
  refine ⟨hcounted'.losesNoUpdate, fun op next hthread hticket => ?_⟩
  exact losesNoUpdate_exec_iff hcounted' (hgrounded op next hthread) hticket

end Runs

section InTurn

/-- Between calls every ticket is counted. -/
abbrev Permits (P : UsagePlatform) (p : UsageProgram) (s : Meter) : Prop :=
  (usageSystem P).Permits (UpToDate P) (Counted P) (·.uncounted = []) p s

variable {P : UsagePlatform} {s : Meter} {companyId : String}

theorem permits_increment {key : UsageKey} {ticket : Option UsageKey} {row : UsageRecord}
    (hrow : row ∈ s.records) (hrest : afterCounting key ticket s.uncounted = []) :
    Permits P (increment key ticket row.id row.count) s := by
  refine fun hcounted => ⟨fun other hother hid => ?_, hrest⟩
  rw [hcounted.ids.eq_of_key hother hrow hid]

theorem permits_incrementUsage {metric : String} {ticket : Option UsageKey}
    (hfree : idTaken P s = false)
    (hrest : afterCounting ⟨companyId, metric, P.month s.now⟩ ticket s.uncounted = []) :
    Permits P (incrementUsage P companyId metric ticket) s := by
  refine fun hcounted => ⟨trivial, fun _ => ⟨trivial, ?_⟩⟩
  cases hfound : findRecord ⟨companyId, metric, P.month s.now⟩ s with
  | some row =>
    simp only [usageSystem, execUsage, hfound]
    exact permits_increment (hcounted.of_findRecord ⟨s.now, rfl⟩ hfound).1 hrest
  | none =>
    simp only [usageSystem, execUsage, hfound]
    refine fun _ => ⟨fun _ => hfound, ?_⟩
    simp only [execUsage, hfree, Bool.false_eq_true, if_false]
    exact permits_increment (List.mem_append_right _ (List.mem_singleton_self _)) hrest

theorem permits_insertTicket (hrest : s.uncounted = []) (hfree : idTaken P s = false)
    (hlimit : ∀ limit, ticketLimit companyId s = some limit →
      (storedCount (ticketKey P companyId s) s : Int) < limit) :
    Permits P (.step (.insertTicket companyId) fun s =>
      incrementUsage P companyId "tickets" (some (ticketKey P companyId s))) s := by
  refine fun _ => ⟨fun limit hfound => ?_, permits_incrementUsage hfree ?_⟩
  · rw [hrest]
    exact hlimit limit hfound
  · simp [usageSystem, execUsage, ticketKey, afterCounting, hrest]

theorem permits_createTicket (hrest : s.uncounted = []) (hfree : idTaken P s = false) :
    Permits P (createTicket P companyId) s := by
  refine fun _ => ⟨trivial, ?_⟩
  simp only [usageSystem, execUsage]
  cases hplan : getCompanyPlan companyId s with
  | none =>
    refine permits_insertTicket hrest hfree fun limit hlimit => ?_
    simp [ticketLimit, hplan] at hlimit
  | some plan =>
    cases plan with
    | none => exact hrest
    | some plan =>
      have hlimited : ticketLimit companyId s = plan.maxTickets.filter (· ≠ -1) := by
        rw [ticketLimit, hplan]
        rfl
      refine System.permits_ite (fun hopen => ?_) fun _ _ => ⟨trivial, fun _ => ⟨trivial, ?_⟩⟩
      · refine permits_insertTicket hrest hfree fun limit hlimit => ?_
        obtain ⟨hsome, hne⟩ := Option.filter_eq_some_iff.mp (hlimited.symm.trans hlimit)
        rw [hsome] at hopen
        exact absurd hopen (of_decide_eq_true hne)
      · refine System.permits_ite (fun _ => hrest) fun hbelow => ?_
        refine permits_insertTicket hrest hfree fun limit hlimit => ?_
        rw [(Option.filter_eq_some_iff.mp (hlimited.symm.trans hlimit)).1] at hbelow
        exact Int.not_le.mp hbelow

end InTurn

section Samples

def sampleUsagePlatform : UsagePlatform where
  month t := (t / 2678400000 * 2678400000, t / 2678400000 * 2678400000 + 2678399999)
  uuid n := String.ofList (List.replicate n 'u')
  month_contains t := by omega
  month_unique t u hfrom hto := by
    have hsame : u / 2678400000 = t / 2678400000 := by omega
    rw [hsame]

def meterStart : Config Meter UsageOp :=
  ⟨⟨[⟨"plan-1", some 1⟩], [⟨"acme", "plan-1"⟩], [], [], 0, 0, [], []⟩, []⟩

theorem counted_meterStart : Counted sampleUsagePlatform meterStart.shared where
  ids := List.nodup_nil
  keys := List.nodup_nil
  monthly _ hrow := absurd hrow List.not_mem_nil
  counts _ hrow := absurd hrow List.not_mem_nil
  known _ hkey := absurd hkey List.not_mem_nil
  tickets _ _ := Nat.le_refl 0
  limited _ _ _ _ := Nat.zero_le _

/-- `UpToDate`, as a test. -/
def isUpToDate (P : UsagePlatform) (op : UsageOp) (s : Meter) : Bool :=
  match op with
  | .read => true
  | .create key => idTaken P s || (findRecord key s).isNone
  | .setCount id nextCount _ _ =>
    s.records.all fun row => !decide (row.id = id) || decide (row.count + 1 = nextCount)
  | .insertTicket companyId =>
    (ticketLimit companyId s).all fun limit =>
      decide (((storedCount (ticketKey P companyId s) s +
        s.uncounted.count (ticketKey P companyId s) : Nat) : Int) < limit)

theorem upToDate_of_test {P : UsagePlatform} {op : UsageOp} {s : Meter}
    (h : isUpToDate P op s = true) : UpToDate P op s := by
  cases op with
  | read => trivial
  | create key =>
    intro hid
    rw [isUpToDate, hid, Bool.false_or, Option.isNone_iff_eq_none] at h
    exact h
  | setCount id nextCount key ticket =>
    intro row hrow hid
    have htest := List.all_eq_true.mp h row hrow
    rw [decide_eq_true hid, Bool.not_true, Bool.false_or] at htest
    exact of_decide_eq_true htest
  | insertTicket companyId =>
    intro limit hlimit
    rw [isUpToDate, hlimit, Option.all_some] at h
    exact of_decide_eq_true h

def sampleKey : UsageKey :=
  ⟨"acme", "tickets", (0, 2678399999)⟩

/-- A ticket is created while another is refused for the limit. -/
theorem usage_loses_no_update_limited : ∃ c, (usageSystem sampleUsagePlatform).Run
    (UpToDate sampleUsagePlatform) meterStart c ∧
      storedCount sampleKey c.shared = 1 ∧ c.shared.tickets.length = 1 ∧
        LosesNoUpdate sampleUsagePlatform c.shared := by
  have hplay : ((usageSystem sampleUsagePlatform).play (fun _ _ => true)
      (isUpToDate sampleUsagePlatform) meterStart
      [.start (.createTicket "acme"), .run 0, .run 0, .run 0, .run 0, .run 0,
        .start (.createTicket "acme"), .run 1, .run 1, .run 0, .run 0, .run 0, .run 1]).any (fun c =>
          decide (storedCount sampleKey c.shared = 1 ∧ c.shared.tickets.length = 1)) = true := by
    decide
  obtain ⟨c, hrun, hcheck⟩ := System.exists_run_of_play (fun _ _ _ => trivial)
    (fun _ _ => upToDate_of_test) hplay
  obtain ⟨hstored, htickets⟩ := of_decide_eq_true hcheck
  exact ⟨c, hrun, hstored, htickets,
    (usage_loses_no_update sampleUsagePlatform rfl counted_meterStart hrun).1⟩

/-- Two increments that both find no record. -/
theorem usage_record_twice : ¬ ∀ (P : UsagePlatform) (c₀ c : Config Meter UsageOp),
    c₀.threads = [] → Counted P c₀.shared → (usageSystem P).Run (fun _ _ => True) c₀ c →
      LosesNoUpdate P c.shared := by
  intro hall
  have hplay : ((usageSystem sampleUsagePlatform).play (fun _ _ => true) (fun _ _ => true) meterStart
      [.start (.incrementUsage "acme" "tickets"), .start (.incrementUsage "acme" "tickets"),
        .run 0, .run 0, .run 1, .run 1, .run 0, .run 0, .run 1, .run 1]).any (fun c =>
          decide ((recordsFor sampleKey c.shared).length = 2)) = true := by
    decide
  obtain ⟨c, hrun, hcheck⟩ := System.exists_run_of_play (fun _ _ _ => trivial)
    (fun _ _ _ => trivial) hplay
  have hone := (hall sampleUsagePlatform meterStart c rfl counted_meterStart hrun).one sampleKey
    ⟨0, rfl⟩
  rw [of_decide_eq_true hcheck] at hone
  omega

end Samples
end FieldserviceIT.Billing.Usage
