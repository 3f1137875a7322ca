import FieldserviceIT.Admin.Scim
import FieldserviceIT.Lib.Decimals
import FieldserviceIT.Lib.Tables
import Mathlib.Data.List.Sort
import Mathlib.Tactic.NormNum

/-!
Quotes and invoices with their lines, and the statements on the four tables. Amounts
travel as JavaScript numbers, here rationals, and are stored in decimal columns.
-/

namespace FieldserviceIT.QuotesInvoices

open Common Lib Admin

section Columns

/-- `DECIMAL(12,2)` -/
def money : DecimalColumn :=
  .cents

/-- `DECIMAL(8,4)` -/
def percent : DecimalColumn :=
  ⟨10000, 100000000, by decide⟩

abbrev Cents := money.Value

abbrev Rate := percent.Value

inductive QuoteStatus where
  | draft
  | sent
  | approved
  | declined
  | expired
  | converted
  deriving DecidableEq

def QuoteStatus.name : QuoteStatus → String
  | draft => "DRAFT"
  | sent => "SENT"
  | approved => "APPROVED"
  | declined => "DECLINED"
  | expired => "EXPIRED"
  | converted => "CONVERTED"

def quoteStatuses : List QuoteStatus :=
  [.draft, .sent, .approved, .declined, .expired, .converted]

inductive InvoiceStatus where
  | draft
  | sent
  | partlyPaid
  | paid
  | void
  | overdue
  deriving DecidableEq

def InvoiceStatus.name : InvoiceStatus → String
  | draft => "DRAFT"
  | sent => "SENT"
  | partlyPaid => "PARTIAL"
  | paid => "PAID"
  | void => "VOID"
  | overdue => "OVERDUE"

def invoiceStatuses : List InvoiceStatus :=
  [.draft, .sent, .partlyPaid, .paid, .void, .overdue]

/-- `none` where the option is not allowed. -/
def normalizeOption {α : Type} (nameOf : α → String) (allowed : List α) (value : String) :
    Option α :=
  allowed.find? fun option => nameOf option = upperCased (some value)

def textColumns : List String :=
  ["title", "customerName", "customerEmail", "customerPhone", "ticketId", "currency", "notes",
    "terms"]

/-- `notes` and `terms` are limited in bytes, the others in characters. -/
def fits (column : String) (value : Option String) : Bool :=
  value.all fun text =>
    if column = "notes" || column = "terms" || column = "description" then
      text.toList.foldr (fun c size => c.utf8Size + size) 0 ≤ 65535
    else if column = "customerPhone" then text.toList.length ≤ 64
    else if column = "currency" then text.toList.length ≤ 8
    else text.toList.length ≤ 191

abbrev Details := String → Option String

def Details.valid (details : Details) : Bool :=
  (details "title").isSome && textColumns.all fun column => fits column (details column)

/-- A date of a request: `new Date(text)` may be no date. -/
inductive DateValue where
  | null
  | time (ms : Int)
  | invalid
  deriving DecidableEq

def DateValue.store : DateValue → Option (Option Int)
  | null => some none
  | time ms => some (some ms)
  | invalid => none

end Columns

section Amounts

/-- A line of a document, in numbers as they are computed or as they are stored. -/
structure Line (α : Type) where
  position : Nat
  description : String
  quantity : α
  unitPrice : α
  taxable : Bool
  total : α
  deriving DecidableEq

structure Amounts (α β : Type) where
  subtotal : α
  taxRate : β
  taxTotal : α
  discountTotal : α
  total : α
  deriving DecidableEq

/-- A row of a table of lines. -/
abbrev LineRow :=
  { line : Line Cents // fits "description" (some line.description) = true }

def LineRow.read (row : LineRow) : Line ℚ where
  position := row.val.position
  description := row.val.description
  quantity := money.read row.val.quantity
  unitPrice := money.read row.val.unitPrice
  taxable := row.val.taxable
  total := money.read row.val.total

def Line.store (line : Line ℚ) : Option LineRow := do
  let quantity ← money.store line.quantity
  let unitPrice ← money.store line.unitPrice
  let total ← money.store line.total
  if h : fits "description" (some line.description) = true then
    some ⟨⟨line.position, line.description, quantity, unitPrice, line.taxable, total⟩, h⟩
  else none

def Amounts.read (amounts : Amounts Cents Rate) : Amounts ℚ ℚ where
  subtotal := money.read amounts.subtotal
  taxRate := percent.read amounts.taxRate
  taxTotal := money.read amounts.taxTotal
  discountTotal := money.read amounts.discountTotal
  total := money.read amounts.total

def Amounts.store (amounts : Amounts ℚ ℚ) : Option (Amounts Cents Rate) := do
  let subtotal ← money.store amounts.subtotal
  let taxRate ← percent.store amounts.taxRate
  let taxTotal ← money.store amounts.taxTotal
  let discountTotal ← money.store amounts.discountTotal
  let total ← money.store amounts.total
  some ⟨subtotal, taxRate, taxTotal, discountTotal, total⟩

/-- `Number.EPSILON` -/
def epsilon : ℚ :=
  1 / 4503599627370496

def round (value : ℚ) : ℚ :=
  ((value + epsilon) * 100 + 1 / 2).floor / 100

structure Totals where
  subtotal : ℚ
  taxTotal : ℚ
  total : ℚ
  deriving DecidableEq

def calculateTotals (lines : List (Line ℚ)) (taxRate discountTotal : ℚ) : Totals :=
  let subtotal := round (lines.foldl (fun sum line => sum + line.total) 0)
  let taxableSubtotal :=
    round ((lines.filter (·.taxable)).foldl (fun sum line => sum + line.total) 0)
  let taxTotal := round (maxZero (taxableSubtotal - discountTotal) * (taxRate / 100))
  ⟨subtotal, taxTotal, round (maxZero (subtotal - discountTotal + taxTotal))⟩

end Amounts

section Tables

/-- `Q-2026-00001`, `INV-2026-00001`: the letters are those of the table. -/
structure DocumentNumber where
  year : Nat
  sequence : Nat
  deriving DecidableEq

structure Quote where
  id : String
  companyId : String
  quoteNumber : DocumentNumber
  details : Details
  status : QuoteStatus
  amounts : Amounts Cents Rate
  validUntil : Option Int
  approvedAt : Option Int
  convertedInvoiceId : Option String
  createdById : String
  updatedAt : Int

structure Invoice where
  id : String
  companyId : String
  invoiceNumber : DocumentNumber
  quoteId : Option String
  details : Details
  status : InvoiceStatus
  amounts : Amounts Cents Rate
  amountPaid : Cents
  balanceDue : Cents
  dueAt : Option Int
  sentAt : Option Int
  paidAt : Option Int
  createdById : String
  updatedAt : Int

/-- A line stands beside the id of its document. -/
structure Books where
  quotes : List Quote
  quoteLines : List (String × LineRow)
  invoices : List Invoice
  invoiceLines : List (String × LineRow)

/-- The lines of a document, `ORDER BY position`. -/
def linesOf (lines : List (String × LineRow)) (id : String) : List LineRow :=
  ((lines.filter fun entry => entry.1 = id).map (·.2)).insertionSort fun a b =>
    a.val.position ≤ b.val.position

def Books.quoteLinesOf (s : Books) (id : String) : List LineRow :=
  linesOf s.quoteLines id

def Books.invoiceLinesOf (s : Books) (id : String) : List LineRow :=
  linesOf s.invoiceLines id

end Tables

section Statements

/-- What is inserted, before the columns take it. -/
structure NewQuote where
  id : String
  companyId : String
  quoteNumber : DocumentNumber
  details : Details
  status : QuoteStatus
  amounts : Amounts ℚ ℚ
  validUntil : DateValue
  createdById : String
  now : Int

def NewQuote.row (values : NewQuote) : Option Quote := do
  let amounts ← values.amounts.store
  let validUntil ← values.validUntil.store
  if values.details.valid then
    some
      { id := values.id
        companyId := values.companyId
        quoteNumber := values.quoteNumber
        details := values.details
        status := values.status
        amounts := amounts
        validUntil := validUntil
        approvedAt := none
        convertedInvoiceId := none
        createdById := values.createdById
        updatedAt := values.now }
  else none

structure NewInvoice where
  id : String
  companyId : String
  invoiceNumber : DocumentNumber
  quoteId : String
  details : Details
  amounts : Amounts ℚ ℚ
  balanceDue : ℚ
  dueAt : DateValue
  createdById : String
  now : Int

def noCents : Cents :=
  ⟨0, by decide⟩

/-- `amountPaid` is left to its default. -/
def NewInvoice.row (values : NewInvoice) : Option Invoice := do
  let amounts ← values.amounts.store
  let balanceDue ← money.store values.balanceDue
  let dueAt ← values.dueAt.store
  if values.details.valid then
    some
      { id := values.id
        companyId := values.companyId
        invoiceNumber := values.invoiceNumber
        quoteId := some values.quoteId
        details := values.details
        status := .draft
        amounts := amounts
        amountPaid := noCents
        balanceDue := balanceDue
        dueAt := dueAt
        sentAt := none
        paidAt := none
        createdById := values.createdById
        updatedAt := values.now }
  else none

/-- The columns that are set; `none` is one that is not. -/
structure QuoteUpdates where
  details : String → Option (Option String) := fun _ => none
  status : Option QuoteStatus := none
  approvedAt : Option Int := none
  taxRate : Option ℚ := none
  discountTotal : Option ℚ := none
  totals : Option Totals := none
  validUntil : Option DateValue := none
  updatedAt : Int

def setDetails (updates : String → Option (Option String)) (details : Details) : Details :=
  fun column => (updates column).getD (details column)

def QuoteUpdates.amounts (updates : QuoteUpdates) (row : Quote) : Amounts ℚ ℚ :=
  let old := row.amounts.read
  { subtotal := (updates.totals.map (·.subtotal)).getD old.subtotal
    taxRate := updates.taxRate.getD old.taxRate
    taxTotal := (updates.totals.map (·.taxTotal)).getD old.taxTotal
    discountTotal := updates.discountTotal.getD old.discountTotal
    total := (updates.totals.map (·.total)).getD old.total }

/-- `none` is an error of a column. -/
def QuoteUpdates.apply (updates : QuoteUpdates) (row : Quote) : Option Quote := do
  let amounts ← (updates.amounts row).store
  let validUntil ← (updates.validUntil.map (·.store)).getD (some row.validUntil)
  if (setDetails updates.details row.details).valid then
    some
      { row with
        details := setDetails updates.details row.details
        status := updates.status.getD row.status
        approvedAt := updates.approvedAt.or row.approvedAt
        amounts := amounts
        validUntil := validUntil
        updatedAt := updates.updatedAt }
  else none

structure InvoiceUpdates where
  details : String → Option (Option String) := fun _ => none
  status : Option InvoiceStatus := none
  sentAt : Option Int := none
  paidAt : Option Int := none
  amountPaid : Option ℚ := none
  balanceDue : Option ℚ := none
  dueAt : Option DateValue := none
  updatedAt : Int

def InvoiceUpdates.apply (updates : InvoiceUpdates) (row : Invoice) : Option Invoice := do
  let amountPaid ← (updates.amountPaid.map money.store).getD (some row.amountPaid)
  let balanceDue ← (updates.balanceDue.map money.store).getD (some row.balanceDue)
  let dueAt ← (updates.dueAt.map (·.store)).getD (some row.dueAt)
  if (setDetails updates.details row.details).valid then
    some
      { row with
        details := setDetails updates.details row.details
        status := updates.status.getD row.status
        sentAt := updates.sentAt.or row.sentAt
        paidAt := updates.paidAt.or row.paidAt
        amountPaid := amountPaid
        balanceDue := balanceDue
        dueAt := dueAt
        updatedAt := updates.updatedAt }
  else none

inductive BooksOp where
  | read
  | insertQuote (values : NewQuote)
  | updateQuote (id companyId : String) (updates : QuoteUpdates)
  | deleteQuoteLines (quoteId : String)
  | insertQuoteLine (quoteId : String) (line : Line ℚ)
  | insertInvoice (values : NewInvoice)
  | updateInvoice (id companyId : String) (updates : InvoiceUpdates)
  | deleteInvoiceLines (invoiceId : String)
  | insertInvoiceLine (invoiceId : String) (line : Line ℚ)
  | markConverted (quoteId companyId invoiceId : String) (now : Int)

def Quote.named (id companyId : String) (row : Quote) : Bool :=
  row.id = id && row.companyId = companyId

def Invoice.named (id companyId : String) (row : Invoice) : Bool :=
  row.id = id && row.companyId = companyId

def NewQuote.clashes (values : NewQuote) (row : Quote) : Bool :=
  row.id = values.id || row.companyId = values.companyId && row.quoteNumber = values.quoteNumber

def NewInvoice.clashes (values : NewInvoice) (row : Invoice) : Bool :=
  row.id = values.id ||
    row.companyId = values.companyId && row.invoiceNumber = values.invoiceNumber

/-- The server answers the statement with an error: a value does not fit its column, or
a key is taken. -/
def refuses (op : BooksOp) (s : Books) : Bool :=
  match op with
  | .insertQuote values => values.row.isNone || s.quotes.any values.clashes
  | .updateQuote id companyId updates =>
    s.quotes.any fun row => row.named id companyId && (updates.apply row).isNone
  | .insertQuoteLine _ line | .insertInvoiceLine _ line => line.store.isNone
  | .insertInvoice values => values.row.isNone || s.invoices.any values.clashes
  | .updateInvoice id companyId updates =>
    s.invoices.any fun row => row.named id companyId && (updates.apply row).isNone
  | _ => false

def converted (invoiceId : String) (now : Int) (row : Quote) : Quote :=
  { row with status := .converted, convertedInvoiceId := some invoiceId, updatedAt := now }

def perform (op : BooksOp) (s : Books) : Books :=
  match op with
  | .read => s
  | .insertQuote values => { s with quotes := s.quotes ++ values.row.toList }
  | .updateQuote id companyId updates =>
    { s with
      quotes := updateWhere (·.named id companyId) (fun row => (updates.apply row).getD row)
        s.quotes }
  | .deleteQuoteLines quoteId =>
    { s with quoteLines := s.quoteLines.filter fun entry => entry.1 ≠ quoteId }
  | .insertQuoteLine quoteId line =>
    { s with quoteLines := s.quoteLines ++ line.store.toList.map fun row => (quoteId, row) }
  | .insertInvoice values => { s with invoices := s.invoices ++ values.row.toList }
  | .updateInvoice id companyId updates =>
    { s with
      invoices := updateWhere (·.named id companyId) (fun row => (updates.apply row).getD row)
        s.invoices }
  | .deleteInvoiceLines invoiceId =>
    { s with invoiceLines := s.invoiceLines.filter fun entry => entry.1 ≠ invoiceId }
  | .insertInvoiceLine invoiceId line =>
    { s with invoiceLines := s.invoiceLines ++ line.store.toList.map fun row => (invoiceId, row) }
  | .markConverted quoteId companyId invoiceId now =>
    { s with
      quotes := updateWhere (·.named quoteId companyId) (converted invoiceId now) s.quotes }

def execBooks (op : BooksOp) (s : Books) : Books :=
  if refuses op s then s else perform op s

end Statements

section Lemmas

@[simp]
theorem LineRow.store_read (row : LineRow) : row.read.store = some row := by
  simp [Line.store, LineRow.read, row.property]

@[simp]
theorem Amounts.store_read (amounts : Amounts Cents Rate) : amounts.read.store = some amounts := by
  simp [Amounts.store, Amounts.read]

theorem Amounts.store_eq_some {amounts : Amounts ℚ ℚ} {stored : Amounts Cents Rate} :
    amounts.store = some stored ↔ money.store amounts.subtotal = some stored.subtotal ∧
      percent.store amounts.taxRate = some stored.taxRate ∧
      money.store amounts.taxTotal = some stored.taxTotal ∧
      money.store amounts.discountTotal = some stored.discountTotal ∧
      money.store amounts.total = some stored.total := by
  constructor
  · intro h
    simp only [Amounts.store, Option.bind_eq_bind, Option.bind_eq_some_iff, Option.some.injEq] at h
    obtain ⟨subtotal, h₁, taxRate, h₂, taxTotal, h₃, discountTotal, h₄, total, h₅, rfl⟩ := h
    exact ⟨h₁, h₂, h₃, h₄, h₅⟩
  · rintro ⟨h₁, h₂, h₃, h₄, h₅⟩
    simp only [Amounts.store, h₁, h₂, h₃, h₄, h₅, Option.bind_eq_bind, Option.bind_some]

theorem Line.store_eq_some {line : Line ℚ} {row : LineRow} (h : line.store = some row) :
    row.val.position = line.position ∧ row.val.description = line.description ∧
      row.val.taxable = line.taxable ∧ money.store line.quantity = some row.val.quantity ∧
      money.store line.unitPrice = some row.val.unitPrice ∧
      money.store line.total = some row.val.total := by
  simp only [Line.store, Option.bind_eq_bind, Option.bind_eq_some_iff] at h
  obtain ⟨quantity, hquantity, unitPrice, hunitPrice, total, htotal, hrow⟩ := h
  split at hrow
  · obtain rfl := Option.some.inj hrow
    exact ⟨rfl, rfl, rfl, hquantity, hunitPrice, htotal⟩
  · cases hrow

theorem read_of_store_round {x : ℚ} {v : Cents} (h : money.store (round x) = some v) :
    money.read v = round x := by
  have hscale : (money.scale : ℚ) = 100 := rfl
  rw [DecimalColumn.store_eq_some, round, hscale, div_mul_cancel₀ _ (by norm_num),
    roundHalf_intCast] at h
  rw [DecimalColumn.read, round, ← h, hscale]

theorem execBooks_of_refuses {op : BooksOp} {s : Books} (h : refuses op s = true) :
    execBooks op s = s :=
  if_pos h

theorem execBooks_of_accepts {op : BooksOp} {s : Books} (h : refuses op s = false) :
    execBooks op s = perform op s := by
  rw [execBooks, h]
  rfl

end Lemmas

section Samples

def sampleCents (n : Nat) : Cents :=
  DecimalColumn.ofCents n

def sampleRow : LineRow :=
  ⟨⟨1, "Labour", sampleCents 100, sampleCents 10000, true, sampleCents 10000⟩, by decide⟩

def sampleQuote : Quote where
  id := "q1"
  companyId := "acme"
  quoteNumber := ⟨2026, 1⟩
  details := fun _ => some "text"
  status := .draft
  amounts := ⟨sampleCents 10000, ⟨0, by decide⟩, noCents, noCents, sampleCents 10000⟩
  validUntil := none
  approvedAt := none
  convertedInvoiceId := none
  createdById := "u1"
  updatedAt := 0

def sampleBooks : Books where
  quotes := [sampleQuote]
  quoteLines := [("q1", sampleRow)]
  invoices := []
  invoiceLines := []

end Samples
end FieldserviceIT.QuotesInvoices
