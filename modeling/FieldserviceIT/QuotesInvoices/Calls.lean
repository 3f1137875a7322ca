import FieldserviceIT.Common.Companies
import FieldserviceIT.Lib.Interleaving
import FieldserviceIT.QuotesInvoices.Documents

/-!
The calls on quotes and invoices. None of them is a transaction: a call that is refused
by the server on its way leaves what it has written so far.
-/

namespace FieldserviceIT.QuotesInvoices

open Common Lib Admin

abbrev BooksProgram := Prog Books BooksOp

section Payloads

/-- The id a call draws, its time and the calendar year of it. -/
structure Draw where
  id : String
  now : Int
  year : Nat

/-- Numbers are as `Number(value) || 0` leaves them; an infinite one is a number no
column holds. `taxable` is `true` unless the property is `false`. -/
structure LineInput where
  description : Option String
  quantity : ℚ
  unitPrice : ℚ
  taxable : Bool

inductive LinesInput where
  | absent
  /-- Something that is no array. -/
  | other
  | items (lines : List LineInput)

/-- A property is `none` when it is not there; `status` is `none` when it does not count
as true. -/
structure QuoteDto where
  companyId : Option String := none
  text : String → Option (Option String)
  status : Option String := none
  taxRate : Option ℚ := none
  discountTotal : Option ℚ := none
  validUntil : Option DateValue := none
  lines : LinesInput

structure ConvertDto where
  title : Option String
  notes : Option String
  terms : Option String
  dueAt : DateValue

structure InvoiceDto where
  text : String → Option (Option String)
  status : Option String := none
  amountPaid : Option ℚ := none
  dueAt : Option DateValue := none

def trimmedOrNull (value : Option String) : Option String :=
  orNull (value.map trimmed)

/-- What `normalizeDocumentPayload` makes of a text property. -/
def normalizeText (dto : QuoteDto) (required : Bool) (column : String) :
    Option (Option String) :=
  if !textColumns.contains column then none
  else
    match dto.text column with
    | none => if required && column = "currency" then some (some "USD") else none
    | some value =>
      if column = "title" then (trimmedOrNull value).map some
      else if column = "currency" then some (some ((trimmedOrNull value).getD "USD"))
      else if column = "ticketId" then some (orNull value)
      else some (trimmedOrNull value)

structure DocumentPayload where
  text : String → Option (Option String)
  status : Option QuoteStatus
  taxRate : Option ℚ
  discountTotal : Option ℚ
  validUntil : Option DateValue

def normalizeDocumentPayload (dto : QuoteDto) (required : Bool) : Option DocumentPayload :=
  let optional (value : Option ℚ) : Option ℚ :=
    match value with
    | some x => some (maxZero x)
    | none => if required then some 0 else none
  if required && (normalizeText dto required "title").isNone then none
  else
    match dto.status with
    | none =>
      some
        { text := normalizeText dto required
          status := if required then some .draft else none
          taxRate := optional dto.taxRate
          discountTotal := optional dto.discountTotal
          validUntil := dto.validUntil }
    | some status =>
      (normalizeOption QuoteStatus.name quoteStatuses status).map fun status =>
        { text := normalizeText dto required
          status := some status
          taxRate := optional dto.taxRate
          discountTotal := optional dto.discountTotal
          validUntil := dto.validUntil }

/-- The lines from an index on; `none` where one of them is not admitted. -/
def normalizeFrom (index : Nat) : List LineInput → Option (List (Line ℚ))
  | [] => some []
  | line :: lines =>
    match trimmedOrNull line.description with
    | none => none
    | some description =>
      let quantity := maxZero line.quantity
      let unitPrice := maxZero line.unitPrice
      if quantity ≤ 0 then none
      else
        (normalizeFrom (index + 1) lines).map fun rest =>
          { position := index + 1
            description := description
            quantity := quantity
            unitPrice := unitPrice
            taxable := line.taxable
            total := round (quantity * unitPrice) } :: rest

def normalizeLines : LinesInput → Option (List (Line ℚ))
  | .items (line :: lines) => (normalizeFrom 0 (line :: lines)).map (List.take 100)
  | _ => none

end Payloads

section Access

def scopeFor (user : CurrentUser) : Option (Option String) :=
  companyScope user

def resolveWriteCompany (user : CurrentUser) (requestedCompanyId : Option String) :
    Option String :=
  writeCompany user requestedCompanyId

def statement (op : BooksOp) (go : BooksProgram) : BooksProgram :=
  .step op fun s => if refuses op s then .fail else go

def getQuote (user : CurrentUser) (id : String) (go : Quote → List (Line ℚ) → BooksProgram) :
    BooksProgram :=
  match scopeFor user with
  | none => .fail
  | some scope =>
    .step .read fun s =>
      match s.quotes.find? fun row => row.id = id && inScope scope row.companyId with
      | none => .fail
      | some quote =>
        .step .read fun s' => go quote ((s'.quoteLinesOf quote.id).map (·.read))

def getInvoice (user : CurrentUser) (id : String) (go : Invoice → BooksProgram) : BooksProgram :=
  match scopeFor user with
  | none => .fail
  | some scope =>
    .step .read fun s =>
      match s.invoices.find? fun row => row.id = id && inScope scope row.companyId with
      | none => .fail
      | some invoice => .step .read fun _ => go invoice

def nextQuoteNumber (companyId : String) (year : Nat) (s : Books) : DocumentNumber :=
  let rows := s.quotes.filter fun row => row.companyId = companyId && row.quoteNumber.year = year
  ⟨year, rows.length + 1⟩

def nextInvoiceNumber (companyId : String) (year : Nat) (s : Books) : DocumentNumber :=
  let rows := s.invoices.filter fun row =>
    row.companyId = companyId && row.invoiceNumber.year = year
  ⟨year, rows.length + 1⟩

end Access

section Calls

def insertQuoteLines (quoteId : String) (go : BooksProgram) : List (Line ℚ) → BooksProgram
  | [] => go
  | line :: lines => statement (.insertQuoteLine quoteId line) (insertQuoteLines quoteId go lines)

def replaceQuoteLines (quoteId : String) (lines : List (Line ℚ)) (go : BooksProgram) :
    BooksProgram :=
  statement (.deleteQuoteLines quoteId) (insertQuoteLines quoteId go lines)

def insertInvoiceLines (invoiceId : String) (go : BooksProgram) : List (Line ℚ) → BooksProgram
  | [] => go
  | line :: lines =>
    statement (.insertInvoiceLine invoiceId line) (insertInvoiceLines invoiceId go lines)

def replaceInvoiceLines (invoiceId : String) (lines : List (Line ℚ)) (go : BooksProgram) :
    BooksProgram :=
  statement (.deleteInvoiceLines invoiceId) (insertInvoiceLines invoiceId go lines)

/-- What the insertion binds; the driver refuses a parameter that is `undefined`. -/
def boundColumns : List String :=
  ["customerName", "customerEmail", "customerPhone", "ticketId", "notes", "terms"]

def DocumentPayload.bound (data : DocumentPayload) : Bool :=
  data.validUntil.isSome && boundColumns.all fun column => (data.text column).isSome

def DocumentPayload.newQuote (data : DocumentPayload) (companyId createdById : String)
    (totals : Totals) (quoteNumber : DocumentNumber) (draw : Draw) : NewQuote where
  id := draw.id
  companyId := companyId
  quoteNumber := quoteNumber
  details := fun column => (data.text column).join
  status := data.status.getD .draft
  amounts :=
    { subtotal := totals.subtotal
      taxRate := data.taxRate.getD 0
      taxTotal := totals.taxTotal
      discountTotal := data.discountTotal.getD 0
      total := totals.total }
  validUntil := data.validUntil.getD .null
  createdById := createdById
  now := draw.now

def createQuote (user : CurrentUser) (dto : QuoteDto) (draw : Draw) : BooksProgram :=
  match resolveWriteCompany user dto.companyId with
  | none => .fail
  | some companyId =>
    match normalizeDocumentPayload dto true with
    | none => .fail
    | some data =>
      match normalizeLines dto.lines with
      | none => .fail
      | some lines =>
        let totals := calculateTotals lines (data.taxRate.getD 0) (data.discountTotal.getD 0)
        .step .read fun s =>
          if !data.bound then .fail
          else
            statement
              (.insertQuote
                (data.newQuote companyId user.id totals
                  (nextQuoteNumber companyId draw.year s) draw))
              (replaceQuoteLines draw.id lines (getQuote user draw.id fun _ _ => .done))

def DocumentPayload.updates (data : DocumentPayload) (now : Int) : QuoteUpdates where
  details := data.text
  status := data.status
  approvedAt := if data.status = some .approved then some now else none
  taxRate := data.taxRate
  discountTotal := data.discountTotal
  validUntil := data.validUntil
  updatedAt := now

/-- `dto.lines` counts as true. -/
def LinesInput.given : LinesInput → Bool
  | absent => false
  | _ => true

def updateQuote (user : CurrentUser) (id : String) (dto : QuoteDto) (draw : Draw) :
    BooksProgram :=
  getQuote user id fun existing _ =>
    if existing.status = .converted && dto.lines.given then .fail
    else
      match normalizeDocumentPayload dto false with
      | none => .fail
      | some data =>
        let write (totals : Option Totals) : BooksProgram :=
          statement
            (.updateQuote id existing.companyId { data.updates draw.now with totals := totals })
            (getQuote user id fun _ _ => .done)
        match dto.lines with
        | .items items =>
          match normalizeLines (.items items) with
          | none => .fail
          | some lines =>
            let taxRate := data.taxRate.getD existing.amounts.read.taxRate
            let discountTotal := data.discountTotal.getD existing.amounts.read.discountTotal
            replaceQuoteLines id lines
              (write (some (calculateTotals lines taxRate discountTotal)))
        | _ => write none

def newInvoice (quote : Quote) (dto : ConvertDto) (createdById : String)
    (invoiceNumber : DocumentNumber) (draw : Draw) : NewInvoice where
  id := draw.id
  companyId := quote.companyId
  invoiceNumber := invoiceNumber
  quoteId := quote.id
  details := fun column =>
    if column = "title" then orElse (trimmedOrNull dto.title) (quote.details column)
    else if column = "currency" then some ((orNull (quote.details column)).getD "USD")
    else if column = "notes" then orElse (trimmedOrNull dto.notes) (quote.details column)
    else if column = "terms" then orElse (trimmedOrNull dto.terms) (quote.details column)
    else quote.details column
  amounts := quote.amounts.read
  balanceDue := quote.amounts.read.total
  dueAt := dto.dueAt
  createdById := createdById
  now := draw.now

def convertQuoteToInvoice (user : CurrentUser) (id : String) (dto : ConvertDto) (draw : Draw) :
    BooksProgram :=
  getQuote user id fun quote lines =>
    if truthy quote.convertedInvoiceId then
      getInvoice user (quote.convertedInvoiceId.getD "") fun _ => .done
    else if lines.isEmpty then .fail
    else
      .step .read fun s =>
        statement
          (.insertInvoice
            (newInvoice quote dto user.id (nextInvoiceNumber quote.companyId draw.year s) draw))
          (replaceInvoiceLines draw.id lines
            (statement (.markConverted quote.id quote.companyId draw.id draw.now)
              (getInvoice user draw.id fun _ => .done)))

def invoiceTextColumns : List String :=
  ["title", "customerName", "customerEmail", "customerPhone", "notes", "terms"]

def InvoiceDto.details (dto : InvoiceDto) (column : String) : Option (Option String) :=
  if invoiceTextColumns.contains column then (dto.text column).map trimmedOrNull else none

def InvoiceDto.statusUpdates (dto : InvoiceDto) (status : Option InvoiceStatus) (now : Int) :
    InvoiceUpdates where
  details := dto.details
  status := status
  sentAt := if status = some .sent then some now else none
  paidAt := if status = some .paid then some now else none
  balanceDue := if status = some .paid || status = some .void then some 0 else none
  dueAt := dto.dueAt
  updatedAt := now

/-- What a given `amountPaid` adds, and overrides. -/
def InvoiceUpdates.withPayment (updates : InvoiceUpdates) (paid total : ℚ) (now : Int) :
    InvoiceUpdates :=
  let balanceDue := maxZero (total - paid)
  { updates with
    amountPaid := some paid
    balanceDue := some balanceDue
    status :=
      if balanceDue = 0 then some .paid
      else if 0 < paid then some .partlyPaid
      else updates.status
    paidAt := if balanceDue = 0 then some now else updates.paidAt }

def updateInvoice (user : CurrentUser) (id : String) (dto : InvoiceDto) (draw : Draw) :
    BooksProgram :=
  getInvoice user id fun existing =>
    let write (updates : InvoiceUpdates) : BooksProgram :=
      statement (.updateInvoice id existing.companyId updates) (getInvoice user id fun _ => .done)
    let go (status : Option InvoiceStatus) : BooksProgram :=
      let updates := dto.statusUpdates status draw.now
      match dto.amountPaid with
      | none => write updates
      | some amountPaid =>
        getInvoice user id fun invoice =>
          write (updates.withPayment (maxZero amountPaid) invoice.amounts.read.total draw.now)
    match dto.status with
    | none => go none
    | some status =>
      match normalizeOption InvoiceStatus.name invoiceStatuses status with
      | none => .fail
      | some status => go (some status)

end Calls

inductive BooksCall where
  | createQuote (user : CurrentUser) (dto : QuoteDto) (draw : Draw)
  | updateQuote (user : CurrentUser) (id : String) (dto : QuoteDto) (draw : Draw)
  | convertQuoteToInvoice (user : CurrentUser) (id : String) (dto : ConvertDto) (draw : Draw)
  | updateInvoice (user : CurrentUser) (id : String) (dto : InvoiceDto) (draw : Draw)

def BooksCall.handler : BooksCall → BooksProgram
  | .createQuote user dto draw => QuotesInvoices.createQuote user dto draw
  | .updateQuote user id dto draw => QuotesInvoices.updateQuote user id dto draw
  | .convertQuoteToInvoice user id dto draw => QuotesInvoices.convertQuoteToInvoice user id dto draw
  | .updateInvoice user id dto draw => QuotesInvoices.updateInvoice user id dto draw

def booksSystem : System Books BooksOp BooksCall where
  exec := execBooks
  tick s := s
  handler := BooksCall.handler
  sendable _ _ := True

section Alone

def foundQuote (user : CurrentUser) (id : String) (s : Books) : Option Quote :=
  (scopeFor user).bind fun scope =>
    s.quotes.find? fun row => row.id = id && inScope scope row.companyId

def foundInvoice (user : CurrentUser) (id : String) (s : Books) : Option Invoice :=
  (scopeFor user).bind fun scope =>
    s.invoices.find? fun row => row.id = id && inScope scope row.companyId

variable {user : CurrentUser} {id : String} {s : Books}

theorem mem_of_foundQuote {quote : Quote} (h : foundQuote user id s = some quote) :
    quote ∈ s.quotes ∧ quote.id = id := by
  obtain ⟨scope, -, hfind⟩ := Option.bind_eq_some_iff.mp h
  refine ⟨List.mem_of_find?_eq_some hfind, ?_⟩
  have hcondition := List.find?_some hfind
  exact of_decide_eq_true (Bool.and_eq_true_iff.mp hcondition).1

theorem mem_of_foundInvoice {invoice : Invoice} (h : foundInvoice user id s = some invoice) :
    invoice ∈ s.invoices ∧ invoice.id = id := by
  obtain ⟨scope, -, hfind⟩ := Option.bind_eq_some_iff.mp h
  refine ⟨List.mem_of_find?_eq_some hfind, ?_⟩
  have hcondition := List.find?_some hfind
  exact of_decide_eq_true (Bool.and_eq_true_iff.mp hcondition).1

theorem alone_statement (op : BooksOp) (go : BooksProgram) (s : Books) :
    booksSystem.alone (statement op go) s =
      if refuses op s then s else booksSystem.alone go (perform op s) := by
  change booksSystem.alone (if refuses op s then .fail else go) (execBooks op s) = _
  cases hrefuses : refuses op s with
  | true => rw [execBooks_of_refuses hrefuses]; rfl
  | false => rw [execBooks_of_accepts hrefuses]; rfl

theorem alone_read (next : Books → BooksProgram) (s : Books) :
    booksSystem.alone (.step .read next) s = booksSystem.alone (next s) s :=
  rfl

theorem alone_getQuote (go : Quote → List (Line ℚ) → BooksProgram) :
    booksSystem.alone (getQuote user id go) s = ((foundQuote user id s).map fun quote =>
      booksSystem.alone (go quote ((s.quoteLinesOf quote.id).map (·.read))) s).getD s := by
  rw [getQuote, foundQuote]
  cases scopeFor user with
  | none => rfl
  | some scope =>
    simp only [alone_read, Option.bind_some]
    cases s.quotes.find? fun row => row.id = id && inScope scope row.companyId with
    | none => rfl
    | some quote => rfl

theorem alone_getInvoice (go : Invoice → BooksProgram) :
    booksSystem.alone (getInvoice user id go) s = ((foundInvoice user id s).map fun invoice =>
      booksSystem.alone (go invoice) s).getD s := by
  rw [getInvoice, foundInvoice]
  cases scopeFor user with
  | none => rfl
  | some scope =>
    simp only [alone_read, Option.bind_some]
    cases s.invoices.find? fun row => row.id = id && inScope scope row.companyId with
    | none => rfl
    | some invoice => rfl

@[simp]
theorem alone_getQuote_done :
    booksSystem.alone (getQuote user id fun _ _ => .done) s = s := by
  rw [alone_getQuote]
  cases foundQuote user id s <;> rfl

@[simp]
theorem alone_getInvoice_done :
    booksSystem.alone (getInvoice user id fun _ => .done) s = s := by
  rw [alone_getInvoice]
  cases foundInvoice user id s <;> rfl

end Alone

section Disciplined

variable {good : BooksOp → Prop}

theorem all_statement {op : BooksOp} {go : BooksProgram} (hop : good op) (hgo : go.All good) :
    (statement op go).All good := by
  refine Prog.all_step hop fun s => ?_
  split
  · trivial
  · exact hgo

theorem all_getQuote (hread : good .read) (user : CurrentUser) (id : String)
    {go : Quote → List (Line ℚ) → BooksProgram}
    (hgo : ∀ quote rows, (go quote rows).All good) : (getQuote user id go).All good := by
  rw [getQuote]
  split
  · trivial
  · refine Prog.all_step hread fun s => ?_
    split
    · trivial
    · exact Prog.all_step hread fun s' => hgo _ _

theorem all_getInvoice (hread : good .read) (user : CurrentUser) (id : String)
    {go : Invoice → BooksProgram} (hgo : ∀ invoice, (go invoice).All good) :
    (getInvoice user id go).All good := by
  rw [getInvoice]
  split
  · trivial
  · refine Prog.all_step hread fun s => ?_
    split
    · trivial
    · exact Prog.all_step hread fun _ => hgo _

theorem all_insertQuoteLines {quoteId : String} {go : BooksProgram} (hgo : go.All good)
    {lines : List (Line ℚ)} (hlines : ∀ line ∈ lines, good (.insertQuoteLine quoteId line)) :
    (insertQuoteLines quoteId go lines).All good := by
  induction lines with
  | nil => exact hgo
  | cons line lines ih =>
    exact all_statement (hlines line List.mem_cons_self)
      (ih fun other hother => hlines other (List.mem_cons_of_mem _ hother))

theorem all_insertInvoiceLines {invoiceId : String} {go : BooksProgram} (hgo : go.All good)
    {lines : List (Line ℚ)} (hlines : ∀ line ∈ lines, good (.insertInvoiceLine invoiceId line)) :
    (insertInvoiceLines invoiceId go lines).All good := by
  induction lines with
  | nil => exact hgo
  | cons line lines ih =>
    exact all_statement (hlines line List.mem_cons_self)
      (ih fun other hother => hlines other (List.mem_cons_of_mem _ hother))

end Disciplined
end FieldserviceIT.QuotesInvoices
