import FieldserviceIT.Lib.Protocols
import FieldserviceIT.QuotesInvoices.Payments

/-!
Conversions of quotes that run side by side and may break off anywhere. A conversion
looks whether the quote is converted, inserts the invoice and its lines one by one, and
marks the quote last. Where an invoice is inserted only while the quote has none, and no
conversion breaks off between the insertion and the mark, a quote becomes one invoice.
-/

namespace FieldserviceIT.QuotesInvoices

open Common Lib Admin

abbrev ConversionOp := Breakable BooksOp

/-- A call that may break off after so many of its statements. -/
structure Conversion where
  user : CurrentUser
  id : String
  dto : ConvertDto
  draw : Draw
  failsAfter : Option Nat

def Conversion.handler (c : Conversion) : Prog Books ConversionOp :=
  (convertQuoteToInvoice c.user c.id c.dto c.draw).cut none c.failsAfter

def conversionSystem : System Books ConversionOp Conversion where
  exec := Breakable.exec execBooks
  tick s := s
  handler := Conversion.handler
  sendable _ _ := True

section Law

def Books.invoicesOf (s : Books) (quoteId : String) : List Invoice :=
  s.invoices.filter fun row => row.quoteId = some quoteId

/-- The invoice has the lines and the amounts of the quote, which names it. -/
structure Complete (s : Books) (quote : Quote) (invoice : Invoice) : Prop where
  status : quote.status = .converted
  named : quote.convertedInvoiceId = some invoice.id
  amounts : invoice.amounts = quote.amounts
  lines : s.invoiceLinesOf invoice.id = s.quoteLinesOf quote.id

structure Invoiced (s : Books) (quote : Quote) : Prop where
  complete : ∀ invoice ∈ s.invoicesOf quote.id, Complete s quote invoice
  invoice_of_marked : quote.status = .converted ∨ quote.convertedInvoiceId.isSome = true →
    s.invoicesOf quote.id ≠ []

structure Consistent (s : Books) : Prop where
  quoteKeys : Distinct (fun row : Quote => row.id) s.quotes
  invoiceKeys : Distinct (fun row : Invoice => row.id) s.invoices
  once : ∀ quote ∈ s.quotes, (s.invoicesOf quote.id).length ≤ 1
  invoiced : ∀ quote ∈ s.quotes, Invoiced s quote

end Law

section Conditions

/-- An invoice is inserted only while its quote has none, if the server takes it, and no
call breaks off between the insertion of an invoice and the mark on the quote. -/
def convertsOnce (op : ConversionOp) (s : Books) : Bool :=
  match op with
  | .does (.insertInvoice values) =>
    refuses (.insertInvoice values) s || (s.invoicesOf values.quoteId).isEmpty
  | .breakOff (some (.insertInvoice _)) | .breakOff (some (.deleteInvoiceLines _))
  | .breakOff (some (.insertInvoiceLine _ _)) => false
  | _ => true

end Conditions

section Phases

/-- What a conversion has inserted and not yet completed. -/
structure Pending where
  quoteId : String
  companyId : String
  invoiceId : String
  deriving DecidableEq

/-- `writing` counts the lines that are written. -/
inductive ConversionPhase where
  | outside
  | inserted (pending : Pending)
  | writing (pending : Pending) (written : Nat)
  deriving DecidableEq

def ConversionPhase.pending : ConversionPhase → Option Pending
  | outside => none
  | inserted pending | writing pending _ => some pending

def Quote.key (row : Quote) : String × String × Amounts Cents Rate :=
  (row.id, row.companyId, row.amounts)

/-- The quotes and their lines are those of the start. -/
structure SameQuotes (s₀ s : Books) : Prop where
  lines : s.quoteLines = s₀.quoteLines
  keys : s.quotes.map Quote.key = s₀.quotes.map Quote.key

def NewInvoice.copies (values : NewInvoice) (quote : Quote) : Bool :=
  quote.id = values.quoteId && quote.companyId = values.companyId &&
    quote.amounts.read = values.amounts

variable (s₀ : Books)

def advance (phase : ConversionPhase) (op : ConversionOp) (s : Books) : Option ConversionPhase :=
  match phase, op with
  | .outside, .breakOff _ | .outside, .does .read => some .outside
  | .outside, .does (.insertInvoice values) =>
    if s₀.quotes.any values.copies then
      some (if refuses (.insertInvoice values) s then .outside
        else .inserted ⟨values.quoteId, values.companyId, values.id⟩)
    else none
  | .inserted pending, .does (.deleteInvoiceLines invoiceId) =>
    if invoiceId = pending.invoiceId then some (.writing pending 0) else none
  | .writing pending n, .does (.insertInvoiceLine invoiceId line) =>
    if invoiceId = pending.invoiceId ∧
        ((s₀.quoteLinesOf pending.quoteId)[n]?.map (·.read)) = some line then
      some (.writing pending (n + 1))
    else none
  | .writing pending n, .does (.markConverted quoteId companyId invoiceId _) =>
    if (⟨quoteId, companyId, invoiceId⟩ : Pending) = pending ∧
        n = (s₀.quoteLinesOf pending.quoteId).length then
      some .outside
    else none
  | _, _ => none

def ConversionPhase.ends (phase : ConversionPhase) : Prop :=
  phase = .outside

def allowedIn (op : ConversionOp) (s : Books) : Prop :=
  convertsOnce op s = true ∧ SameQuotes s₀ s

end Phases

section Conforming

variable {s₀ : Books}

/-- What is left of a call after a statement, wherever it breaks off. -/
def Follows (s₀ : Books) (p : BooksProgram) (last : Option BooksOp) (phase : ConversionPhase) :
    Prop :=
  ∀ budget, (p.cut last budget).Conforms (allowedIn s₀) (advance s₀) ConversionPhase.ends phase

theorem follows_fail {last : Option BooksOp} : Follows s₀ .fail last .outside := by
  intro budget
  cases budget with
  | none => exact rfl
  | some n => cases n <;> exact rfl

theorem follows_done {last : Option BooksOp} : Follows s₀ .done last .outside := by
  intro budget
  cases budget with
  | none => exact rfl
  | some n => cases n <;> exact rfl

theorem follows_read {last : Option BooksOp} {next : Books → BooksProgram}
    (hnext : ∀ s, SameQuotes s₀ s → Follows s₀ (next s) (some .read) .outside) :
    Follows s₀ (.step .read next) last .outside :=
  Prog.conforms_cut (fun _ => .outside) (fun _ _ => ⟨.outside, rfl, rfl⟩) (fun _ _ => rfl)
    fun s hallowed => hnext s hallowed.2

theorem follows_getInvoice (user : CurrentUser) (id : String) {last : Option BooksOp} :
    Follows s₀ (getInvoice user id fun _ => .done) last .outside := by
  rw [getInvoice]
  split
  · exact follows_fail
  · refine follows_read fun s _ => ?_
    split
    · exact follows_fail
    · exact follows_read fun _ _ => follows_done

theorem follows_statement {last : BooksOp} (hlast : ∀ s, convertsOnce (.breakOff (some last)) s = false)
    {op : BooksOp} {go : BooksProgram} {phase : ConversionPhase} (phase' : ConversionPhase)
    (haccepts : ∀ s, refuses op s = false)
    (hadvance : ∀ s, advance s₀ phase (.does op) s = some phase')
    (hgo : Follows s₀ go (some op) phase') :
    Follows s₀ (statement op go) (some last) phase := by
  refine Prog.conforms_cut (fun _ => phase') (fun s hallowed => ?_) (fun s _ => hadvance s)
    fun s _ => ?_
  · rw [allowedIn, hlast s] at hallowed
    exact absurd hallowed.1 Bool.false_ne_true
  · rw [haccepts s, if_neg Bool.false_ne_true]
    exact hgo

theorem follows_mark (pending : Pending) (now : Int) (user : CurrentUser) {last : BooksOp}
    (hlast : ∀ s, convertsOnce (.breakOff (some last)) s = false) :
    Follows s₀
      (statement (.markConverted pending.quoteId pending.companyId pending.invoiceId now)
        (getInvoice user pending.invoiceId fun _ => .done)) (some last)
      (.writing pending (s₀.quoteLinesOf pending.quoteId).length) := by
  refine follows_statement hlast .outside (fun _ => rfl) (fun s => ?_) (follows_getInvoice user _)
  exact if_pos ⟨rfl, rfl⟩

/-- The lines from the `n`th on. -/
theorem follows_insertInvoiceLines {pending : Pending} {go : BooksProgram}
    (hgo : ∀ last : BooksOp, (∀ s, convertsOnce (.breakOff (some last)) s = false) →
      Follows s₀ go (some last) (.writing pending (s₀.quoteLinesOf pending.quoteId).length))
    (rest : List LineRow) (written : Nat)
    (hrest : (s₀.quoteLinesOf pending.quoteId).drop written = rest)
    (hwritten : written ≤ (s₀.quoteLinesOf pending.quoteId).length) {last : BooksOp}
    (hlast : ∀ s, convertsOnce (.breakOff (some last)) s = false) :
    Follows s₀ (insertInvoiceLines pending.invoiceId go (rest.map (·.read))) (some last)
      (.writing pending written) := by
  induction rest generalizing written last with
  | nil =>
    have hall : written = (s₀.quoteLinesOf pending.quoteId).length :=
      Nat.le_antisymm hwritten (List.drop_eq_nil_iff.mp hrest)
    rw [hall]
    exact hgo last hlast
  | cons row rest ih =>
    have hrow : (s₀.quoteLinesOf pending.quoteId)[written]? = some row := by
      rw [← List.head?_drop, hrest]
      rfl
    have htail : (s₀.quoteLinesOf pending.quoteId).drop (written + 1) = rest := by
      rw [← List.tail_drop, hrest]
      rfl
    refine follows_statement hlast (.writing pending (written + 1)) (fun s => ?_)
      (fun s => ?_) (ih (written + 1) htail ?_ fun _ => rfl)
    · rw [refuses, LineRow.store_read]
      rfl
    · exact if_pos ⟨rfl, by rw [hrow]; rfl⟩
    · exact (List.getElem?_eq_some_iff.mp hrow).1

theorem follows_replaceInvoiceLines (pending : Pending) (now : Int) (user : CurrentUser)
    {last : BooksOp} (hlast : ∀ s, convertsOnce (.breakOff (some last)) s = false) :
    Follows s₀
      (replaceInvoiceLines pending.invoiceId
        ((s₀.quoteLinesOf pending.quoteId).map (·.read))
        (statement (.markConverted pending.quoteId pending.companyId pending.invoiceId now)
          (getInvoice user pending.invoiceId fun _ => .done))) (some last)
      (.inserted pending) := by
  refine follows_statement hlast (.writing pending 0) (fun _ => rfl)
    (fun s => if_pos rfl) ?_
  exact follows_insertInvoiceLines (fun _ => follows_mark pending now user) _ 0
    List.drop_zero (Nat.zero_le _) fun _ => rfl

theorem follows_insertInvoice {values : NewInvoice} (now : Int) (user : CurrentUser)
    (hcopies : s₀.quotes.any values.copies = true) {last : Option BooksOp} :
    Follows s₀
      (statement (.insertInvoice values)
        (replaceInvoiceLines values.id ((s₀.quoteLinesOf values.quoteId).map (·.read))
          (statement (.markConverted values.quoteId values.companyId values.id now)
            (getInvoice user values.id fun _ => .done)))) last .outside := by
  refine Prog.conforms_cut
    (fun s => if refuses (.insertInvoice values) s then ConversionPhase.outside
      else .inserted ⟨values.quoteId, values.companyId, values.id⟩)
    (fun _ _ => ⟨.outside, rfl, rfl⟩) (fun s _ => if_pos hcopies) fun s _ => ?_
  cases refuses (.insertInvoice values) s with
  | true => exact follows_fail
  | false =>
    exact follows_replaceInvoiceLines ⟨values.quoteId, values.companyId, values.id⟩ now user
      fun _ => rfl

theorem copies_of_mem {s : Books} (hsame : SameQuotes s₀ s) {quote : Quote}
    (hquote : quote ∈ s.quotes) {values : NewInvoice} (hvalues : values.copies quote = true) :
    s₀.quotes.any values.copies = true := by
  have hkey : quote.key ∈ s₀.quotes.map Quote.key := by
    rw [← hsame.keys]
    exact List.mem_map_of_mem hquote
  obtain ⟨original, horiginal, heq⟩ := List.mem_map.mp hkey
  simp only [Quote.key, Prod.mk.injEq] at heq
  refine List.any_eq_true.mpr ⟨original, horiginal, ?_⟩
  rw [NewInvoice.copies, heq.1, heq.2.1, heq.2.2]
  exact hvalues

theorem follows_convertQuoteToInvoice (user : CurrentUser) (id : String) (dto : ConvertDto)
    (draw : Draw) {last : Option BooksOp} :
    Follows s₀ (convertQuoteToInvoice user id dto draw) last .outside := by
  rw [convertQuoteToInvoice, getQuote]
  split
  · exact follows_fail
  · refine follows_read fun s hs => ?_
    split
    · exact follows_fail
    next quote hfound =>
      have hquote := List.mem_of_find?_eq_some hfound
      refine follows_read fun s' hs' => ?_
      have hlines : s'.quoteLinesOf quote.id = s₀.quoteLinesOf quote.id := by
        rw [Books.quoteLinesOf, hs'.lines, Books.quoteLinesOf]
      rw [hlines]
      split
      · exact follows_getInvoice user _
      · split
        · exact follows_fail
        · exact follows_read fun s'' _ => follows_insertInvoice draw.now user
            (copies_of_mem hs hquote (by simp [NewInvoice.copies, newInvoice]))

end Conforming

section Effects

/-- What a statement does in each phase. -/
inductive Effect (s₀ s : Books) : ConversionPhase → ConversionPhase → Books → Prop
  | nothing : Effect s₀ s .outside .outside s
  | insert (quote : Quote) (row : Invoice) (hquote : quote ∈ s₀.quotes)
      (hquoteId : row.quoteId = some quote.id) (hamounts : row.amounts = quote.amounts)
      (hfresh : ∀ other ∈ s.invoices, other.id ≠ row.id) (hfirst : s.invoicesOf quote.id = []) :
      Effect s₀ s .outside (.inserted ⟨quote.id, quote.companyId, row.id⟩)
        { s with invoices := s.invoices ++ [row] }
  | clear (pending : Pending) :
      Effect s₀ s (.inserted pending) (.writing pending 0)
        { s with
          invoiceLines := s.invoiceLines.filter fun entry => entry.1 ≠ pending.invoiceId }
  | line (pending : Pending) (n : Nat) (row : LineRow)
      (hrow : (s₀.quoteLinesOf pending.quoteId)[n]? = some row) :
      Effect s₀ s (.writing pending n) (.writing pending (n + 1))
        { s with invoiceLines := s.invoiceLines ++ [(pending.invoiceId, row)] }
  | mark (pending : Pending) (now : Int) :
      Effect s₀ s (.writing pending (s₀.quoteLinesOf pending.quoteId).length) .outside
        { s with
          quotes := updateWhere (·.named pending.quoteId pending.companyId)
            (converted pending.invoiceId now) s.quotes }

theorem effect_insertInvoice {s₀ s : Books} {values : NewInvoice}
    (honce : convertsOnce (.does (.insertInvoice values)) s = true)
    (hcopies : s₀.quotes.any values.copies = true)
    (haccepts : refuses (.insertInvoice values) s = false) :
    Effect s₀ s .outside (.inserted ⟨values.quoteId, values.companyId, values.id⟩)
      (perform (.insertInvoice values) s) := by
  rw [convertsOnce, haccepts, Bool.false_or, List.isEmpty_iff] at honce
  obtain ⟨quote, hquote, hcopy⟩ := List.any_eq_true.mp hcopies
  simp only [NewInvoice.copies, Bool.and_eq_true, decide_eq_true_iff] at hcopy
  obtain ⟨⟨hid, hcompany⟩, hamounts⟩ := hcopy
  simp only [refuses, Bool.or_eq_false_iff, Option.isNone_eq_false_iff,
    Option.isSome_iff_exists] at haccepts
  obtain ⟨⟨row, hrow⟩, hfree⟩ := haccepts
  obtain ⟨hrowId, -, hrowQuote, -, -, hstore, -⟩ := NewInvoice.row_eq_some hrow
  have hsame : row.amounts = quote.amounts := by
    rw [← hamounts, Amounts.store_read] at hstore
    exact (Option.some.inj hstore).symm
  have hfresh : ∀ other ∈ s.invoices, other.id ≠ row.id := by
    intro other hother heq
    have hclash := List.any_eq_false.mp hfree other hother
    simp [NewInvoice.clashes, heq, hrowId] at hclash
  have hinsert : Effect s₀ s .outside (.inserted ⟨quote.id, quote.companyId, row.id⟩)
      { s with invoices := s.invoices ++ [row] } :=
    .insert quote row hquote (hid ▸ hrowQuote) hsame hfresh (hid ▸ honce)
  rw [hid, hcompany, hrowId] at hinsert
  rw [perform, hrow, Option.toList_some]
  exact hinsert

theorem effect_of_advance {s₀ s : Books} {phase phase' : ConversionPhase} {op : ConversionOp}
    (honce : convertsOnce op s = true) (h : advance s₀ phase op s = some phase') :
    Effect s₀ s phase phase' (Breakable.exec execBooks op s) := by
  have hplain : ∀ op, refuses op s = false → execBooks op s = perform op s := fun _ =>
    execBooks_of_accepts
  cases op with
  | breakOff last =>
    cases phase with
    | outside =>
      obtain rfl := Option.some.inj h
      exact .nothing
    | inserted pending => cases h
    | writing pending n => cases h
  | does op =>
    rw [Breakable.exec]
    cases phase with
    | outside =>
      cases op with
      | read =>
        obtain rfl := Option.some.inj h
        exact .nothing
      | insertInvoice values =>
        obtain ⟨hcopies, heq⟩ := Option.ite_none_right_eq_some.mp h
        obtain rfl := Option.some.inj heq
        cases hrefuses : refuses (.insertInvoice values) s with
        | true =>
          rw [execBooks_of_refuses hrefuses]
          exact .nothing
        | false =>
          rw [hplain _ hrefuses, if_neg Bool.false_ne_true]
          exact effect_insertInvoice honce hcopies hrefuses
      | _ => cases h
    | inserted pending =>
      cases op with
      | deleteInvoiceLines invoiceId =>
        obtain ⟨rfl, heq⟩ := Option.ite_none_right_eq_some.mp h
        obtain rfl := Option.some.inj heq
        exact .clear pending
      | _ => cases h
    | writing pending n =>
      cases op with
      | insertInvoiceLine invoiceId line =>
        obtain ⟨⟨rfl, hline⟩, heq⟩ := Option.ite_none_right_eq_some.mp h
        obtain rfl := Option.some.inj heq
        obtain ⟨row, hrow, rfl⟩ := Option.map_eq_some_iff.mp hline
        have haccepts : refuses (.insertInvoiceLine pending.invoiceId row.read) s =
            false := by
          rw [refuses, LineRow.store_read]
          rfl
        rw [hplain _ haccepts, perform, LineRow.store_read]
        exact .line pending n row hrow
      | markConverted quoteId companyId invoiceId now =>
        obtain ⟨⟨hpending, rfl⟩, heq⟩ := Option.ite_none_right_eq_some.mp h
        obtain rfl := Option.some.inj heq
        subst hpending
        exact .mark ⟨quoteId, companyId, invoiceId⟩ now
      | _ => cases h

end Effects

section Invariants

variable (s₀ : Books)

/-- What holds of the tables whoever is under way. -/
structure Grounded (s : Books) : Prop where
  same : SameQuotes s₀ s
  invoiceKeys : Distinct (fun row : Invoice => row.id) s.invoices
  once : ∀ quote ∈ s.quotes, (s.invoicesOf quote.id).length ≤ 1
  amounts : ∀ quote ∈ s.quotes, ∀ invoice ∈ s.invoicesOf quote.id, invoice.amounts = quote.amounts
  marked : ∀ quote ∈ s.quotes,
    quote.status = .converted ∨ quote.convertedInvoiceId.isSome = true → s.invoicesOf quote.id ≠ []

/-- What holds of a conversion: its invoice is there, with the lines that are written. -/
structure Tracked (s : Books) (phase : ConversionPhase) : Prop where
  invoice : ∀ pending, phase.pending = some pending → ∃ invoice ∈ s.invoices,
    invoice.id = pending.invoiceId ∧ invoice.quoteId = some pending.quoteId
  quote : ∀ pending, phase.pending = some pending → ∃ quote ∈ s₀.quotes,
    quote.id = pending.quoteId ∧ quote.companyId = pending.companyId
  lines : ∀ pending n, phase = .writing pending n →
    (s.invoiceLines.filter fun entry => entry.1 = pending.invoiceId).map (·.2) =
      (s₀.quoteLinesOf pending.quoteId).take n

def Apart (phase other : ConversionPhase) : Prop :=
  ∀ pending pending', phase.pending = some pending → other.pending = some pending' →
    pending.invoiceId ≠ pending'.invoiceId

def Unfinished (s : Books) (invoiceId : String) : Prop :=
  ∃ quote ∈ s.quotes, ∃ invoice ∈ s.invoicesOf quote.id, invoice.id = invoiceId ∧
    ¬ Complete s quote invoice

def ConversionPhase.owns (phase : ConversionPhase) (invoiceId : String) : Prop :=
  ∃ pending, phase.pending = some pending ∧ pending.invoiceId = invoiceId

variable {s₀} {s s' : Books} {phase phase' : ConversionPhase}

theorem mem_invoicesOf {quoteId : String} {invoice : Invoice} :
    invoice ∈ s.invoicesOf quoteId ↔ invoice ∈ s.invoices ∧ invoice.quoteId = some quoteId := by
  rw [Books.invoicesOf, List.mem_filter, decide_eq_true_iff]

theorem invoicesOf_append (row : Invoice) (quoteId : String) :
    ({ s with invoices := s.invoices ++ [row] } : Books).invoicesOf quoteId =
      s.invoicesOf quoteId ++ if row.quoteId = some quoteId then [row] else [] := by
  rw [Books.invoicesOf, List.filter_append, Books.invoicesOf]
  congr 1
  by_cases h : row.quoteId = some quoteId
  · simp [h]
  · simp [h]

theorem quote_unique (hkeys : Distinct (fun row : Quote => row.id) s₀.quotes)
    (hsame : SameQuotes s₀ s) {quote original : Quote} (hquote : quote ∈ s.quotes)
    (horiginal : original ∈ s₀.quotes) (hid : quote.id = original.id) :
    quote.companyId = original.companyId ∧ quote.amounts = original.amounts := by
  have hkey : quote.key ∈ s₀.quotes.map Quote.key := by
    rw [← hsame.keys]
    exact List.mem_map_of_mem hquote
  obtain ⟨row, hrow, heq⟩ := List.mem_map.mp hkey
  simp only [Quote.key, Prod.mk.injEq] at heq
  obtain rfl := hkeys.eq_of_key hrow horiginal (heq.1.trans hid)
  exact ⟨heq.2.1.symm, heq.2.2.symm⟩

theorem eq_of_once {l : List Invoice} (h : l.length ≤ 1) {a b : Invoice} (ha : a ∈ l)
    (hb : b ∈ l) : a = b := by
  cases l with
  | nil => cases ha
  | cons x l =>
    have hnil : l = [] := by
      rw [List.length_cons] at h
      exact List.eq_nil_of_length_eq_zero (by omega)
    subst hnil
    rw [List.mem_singleton.mp ha, List.mem_singleton.mp hb]

theorem named_iff (hkeys : Distinct (fun row : Quote => row.id) s₀.quotes)
    (hsame : SameQuotes s₀ s) (htracked : Tracked s₀ s phase) {pending : Pending}
    (hpending : phase.pending = some pending) {quote : Quote} (hquote : quote ∈ s.quotes) :
    quote.named pending.quoteId pending.companyId = true ↔ quote.id = pending.quoteId := by
  rw [Quote.named, Bool.and_eq_true, decide_eq_true_iff, decide_eq_true_iff]
  refine ⟨And.left, fun hid => ⟨hid, ?_⟩⟩
  obtain ⟨original, horiginal, hid', hcompany⟩ := htracked.quote pending hpending
  rw [(quote_unique hkeys hsame hquote horiginal (hid.trans hid'.symm)).1, hcompany]

theorem SameQuotes.effect (h : SameQuotes s₀ s) (heffect : Effect s₀ s phase phase' s') :
    SameQuotes s₀ s' := by
  cases heffect with
  | mark pending now =>
    have hkeys : (updateWhere (·.named pending.quoteId pending.companyId)
        (converted pending.invoiceId now) s.quotes).map Quote.key = s.quotes.map Quote.key :=
      map_updateWhere_key fun _ _ => rfl
    exact ⟨h.lines, hkeys.trans h.keys⟩
  | _ => exact ⟨h.lines, h.keys⟩

theorem Grounded.effect (hkeys : Distinct (fun row : Quote => row.id) s₀.quotes)
    (h : Grounded s₀ s) (htracked : Tracked s₀ s phase)
    (heffect : Effect s₀ s phase phase' s') : Grounded s₀ s' := by
  have hsame := h.same.effect heffect
  cases heffect with
  | nothing => exact h
  | clear pending => exact ⟨hsame, h.invoiceKeys, h.once, h.amounts, h.marked⟩
  | line pending n row hrow => exact ⟨hsame, h.invoiceKeys, h.once, h.amounts, h.marked⟩
  | insert original row horiginal hquoteId hamounts hfresh hfirst =>
    refine ⟨hsame, h.invoiceKeys.append hfresh, fun quote hquote => ?_,
      fun quote hquote invoice hinvoice => ?_, fun quote hquote hmarked => ?_⟩
    · rw [invoicesOf_append]
      by_cases hid : quote.id = original.id
      · rw [hid, hfirst, if_pos hquoteId]
        exact Nat.le_refl 1
      · have hother : row.quoteId ≠ some quote.id := by
          rw [hquoteId, ne_eq, Option.some.injEq]
          exact Ne.symm hid
        rw [if_neg hother, List.append_nil]
        exact h.once quote hquote
    · rw [invoicesOf_append] at hinvoice
      obtain hinvoice | hinvoice := List.mem_append.mp hinvoice
      · exact h.amounts quote hquote invoice hinvoice
      · split at hinvoice
        next hthis =>
          obtain rfl := List.mem_singleton.mp hinvoice
          rw [hquoteId, Option.some.injEq] at hthis
          rw [hamounts, (quote_unique hkeys h.same hquote horiginal hthis.symm).2]
        next => cases hinvoice
    · rw [invoicesOf_append]
      exact List.append_ne_nil_of_left_ne_nil (h.marked quote hquote hmarked) _
  | mark pending now =>
    refine ⟨hsame, h.invoiceKeys, forall_updateWhere h.once fun _ _ _ hrow => hrow,
      forall_updateWhere h.amounts fun _ _ _ hrow => hrow, ?_⟩
    intro quote' hquote' hmarked
    obtain ⟨quote, hquote, rfl⟩ := mem_updateWhere.mp hquote'
    by_cases hnamed : quote.named pending.quoteId pending.companyId = true
    · rw [if_pos hnamed]
      obtain ⟨invoice, hinvoice, -, hquoteId⟩ := htracked.invoice pending rfl
      have hid := (named_iff hkeys h.same htracked rfl hquote).mp hnamed
      exact List.ne_nil_of_mem (mem_invoicesOf.mpr ⟨hinvoice, hid ▸ hquoteId⟩)
    · rw [if_neg hnamed] at hmarked ⊢
      exact h.marked quote hquote hmarked

theorem Tracked.outside (s : Books) : Tracked s₀ s .outside := by
  refine ⟨fun _ h => ?_, fun _ h => ?_, fun _ _ h => ?_⟩
  · cases h
  · cases h
  · cases h

theorem Tracked.effect (h : Tracked s₀ s phase) (heffect : Effect s₀ s phase phase' s') :
    Tracked s₀ s' phase' := by
  cases heffect with
  | nothing => exact h
  | insert original row horiginal hquoteId hamounts hfresh hfirst =>
    refine ⟨fun pending hpending => ?_, fun pending hpending => ?_, fun _ _ hwriting => ?_⟩
    · obtain rfl := Option.some.inj hpending
      exact ⟨row, List.mem_append_right _ List.mem_cons_self, rfl, hquoteId⟩
    · obtain rfl := Option.some.inj hpending
      exact ⟨original, horiginal, rfl, rfl⟩
    · cases hwriting
  | clear pending =>
    refine ⟨h.invoice, h.quote, fun pending' n hwriting => ?_⟩
    obtain ⟨rfl, rfl⟩ := ConversionPhase.writing.inj hwriting
    have hnone : (s.invoiceLines.filter fun entry => entry.1 ≠ pending.invoiceId).filter
        (fun entry => entry.1 = pending.invoiceId) = [] := by
      refine List.filter_eq_nil_iff.mpr fun entry hentry => ?_
      simpa using (List.mem_filter.mp hentry).2
    rw [hnone, List.take_zero, List.map_nil]
  | line pending n row hrow =>
    refine ⟨h.invoice, h.quote, fun pending' m hwriting => ?_⟩
    obtain ⟨rfl, rfl⟩ := ConversionPhase.writing.inj hwriting
    have hlast : [(pending.invoiceId, row)].filter
        (fun entry => entry.1 = pending.invoiceId) = [(pending.invoiceId, row)] := by
      simp
    rw [List.filter_append, List.map_append, h.lines pending n rfl, hlast, List.take_add_one,
      hrow, List.map_singleton, Option.toList_some]
  | mark pending now => exact .outside _

theorem Tracked.frame {other : ConversionPhase} (hother : Tracked s₀ s other)
    (hapart : Apart phase other) (heffect : Effect s₀ s phase phase' s') :
    Tracked s₀ s' other ∧ Apart phase' other := by
  cases heffect with
  | nothing => exact ⟨hother, hapart⟩
  | insert original row horiginal hquoteId hamounts hfresh hfirst =>
    refine ⟨⟨fun pending hpending => ?_, hother.quote, hother.lines⟩,
      fun pending pending' hpending hpending' heq => ?_⟩
    · obtain ⟨invoice, hinvoice, hids⟩ := hother.invoice pending hpending
      exact ⟨invoice, List.mem_append_left _ hinvoice, hids⟩
    · obtain rfl := Option.some.inj hpending
      obtain ⟨invoice, hinvoice, hid, -⟩ := hother.invoice pending' hpending'
      exact hfresh invoice hinvoice (hid.trans heq.symm)
  | clear pending =>
    refine ⟨⟨hother.invoice, hother.quote, fun pending' n hwriting => ?_⟩, hapart⟩
    have hne : pending.invoiceId ≠ pending'.invoiceId :=
      hapart pending pending' rfl (by rw [hwriting]; rfl)
    rw [← hother.lines pending' n hwriting, List.filter_filter]
    refine congrArg _ (List.filter_congr fun entry _ => ?_)
    by_cases hentry : entry.1 = pending'.invoiceId
    · simp [hentry, Ne.symm hne]
    · simp [hentry]
  | line pending n row hrow =>
    refine ⟨⟨hother.invoice, hother.quote, fun pending' m hwriting => ?_⟩, hapart⟩
    have hne : pending.invoiceId ≠ pending'.invoiceId :=
      hapart pending pending' rfl (by rw [hwriting]; rfl)
    rw [← hother.lines pending' m hwriting, List.filter_append]
    simp [hne]
  | mark pending now =>
    refine ⟨⟨hother.invoice, hother.quote, hother.lines⟩, fun _ _ hpending => ?_⟩
    cases hpending

theorem Tracked.linesOf (h : Tracked s₀ s phase) {pending : Pending}
    (hphase : phase = .writing pending (s₀.quoteLinesOf pending.quoteId).length) :
    s.invoiceLinesOf pending.invoiceId = s₀.quoteLinesOf pending.quoteId := by
  rw [Books.invoiceLinesOf, QuotesInvoices.linesOf, h.lines pending _ hphase, List.take_length]
  refine List.Pairwise.insertionSort_eq ?_
  exact List.pairwise_insertionSort _ _

theorem invoiceLinesOf_congr {invoiceId : String}
    (h : (s'.invoiceLines.filter fun entry => entry.1 = invoiceId) =
      s.invoiceLines.filter fun entry => entry.1 = invoiceId) :
    s'.invoiceLinesOf invoiceId = s.invoiceLinesOf invoiceId := by
  rw [Books.invoiceLinesOf, QuotesInvoices.linesOf, h, Books.invoiceLinesOf,
    QuotesInvoices.linesOf]

theorem Complete.congr {quote : Quote} {invoice : Invoice} (h : Complete s quote invoice)
    (hinvoiceLines : s'.invoiceLinesOf invoice.id = s.invoiceLinesOf invoice.id)
    (hquoteLines : s'.quoteLines = s.quoteLines) : Complete s' quote invoice := by
  refine ⟨h.status, h.named, h.amounts, ?_⟩
  rw [hinvoiceLines, h.lines, Books.quoteLinesOf, Books.quoteLinesOf, hquoteLines]

theorem complete_of_mark (hkeys : Distinct (fun row : Quote => row.id) s₀.quotes)
    (h : Grounded s₀ s) {pending : Pending}
    (htracked : Tracked s₀ s (.writing pending (s₀.quoteLinesOf pending.quoteId).length))
    {quote : Quote} (hquote : quote ∈ s.quotes) {invoice : Invoice}
    (hinvoice : invoice ∈ s.invoicesOf quote.id) (hid : invoice.id = pending.invoiceId)
    (now : Int) :
    quote.named pending.quoteId pending.companyId = true ∧
      Complete s (converted pending.invoiceId now quote) invoice := by
  obtain ⟨hmem, hquoteId⟩ := mem_invoicesOf.mp hinvoice
  obtain ⟨other, hother, hotherId, hotherQuote⟩ := htracked.invoice pending rfl
  obtain rfl := h.invoiceKeys.eq_of_key hmem hother (hid.trans hotherId.symm)
  have hsame : quote.id = pending.quoteId := Option.some.inj (hquoteId.symm.trans hotherQuote)
  refine ⟨(named_iff hkeys h.same htracked rfl hquote).mpr hsame, rfl, ?_, ?_, ?_⟩
  · rw [hid]
    rfl
  · exact h.amounts quote hquote invoice hinvoice
  · rw [hid, htracked.linesOf rfl, Books.quoteLinesOf, Books.quoteLinesOf, h.same.lines]
    exact congrArg (QuotesInvoices.linesOf s₀.quoteLines) hsame.symm

theorem unfinished_of_effect (hkeys : Distinct (fun row : Quote => row.id) s₀.quotes)
    (h : Grounded s₀ s) (htracked : Tracked s₀ s phase)
    (heffect : Effect s₀ s phase phase' s') {x : String} (hx : Unfinished s' x) :
    phase'.owns x ∨ Unfinished s x ∧ ¬ phase.owns x := by
  have houtside : ¬ ConversionPhase.outside.owns x := by
    rintro ⟨pending, hpending, -⟩
    cases hpending
  obtain ⟨quote, hquote, invoice, hinvoice, rfl, hincomplete⟩ := hx
  cases heffect with
  | nothing => exact .inr ⟨⟨quote, hquote, invoice, hinvoice, rfl, hincomplete⟩, houtside⟩
  | insert original row horiginal hquoteId hamounts hfresh hfirst =>
    rw [invoicesOf_append] at hinvoice
    obtain hold | hnew := List.mem_append.mp hinvoice
    · refine .inr ⟨⟨quote, hquote, invoice, hold, rfl, fun hcomplete => ?_⟩, houtside⟩
      exact hincomplete (hcomplete.congr rfl rfl)
    · left
      split at hnew
      · obtain rfl := List.mem_singleton.mp hnew
        exact ⟨_, rfl, rfl⟩
      · cases hnew
  | clear pending =>
    by_cases hown : pending.invoiceId = invoice.id
    · exact .inl ⟨pending, rfl, hown⟩
    · refine .inr ⟨⟨quote, hquote, invoice, hinvoice, rfl, fun hcomplete => ?_⟩, ?_⟩
      · refine hincomplete (hcomplete.congr (invoiceLinesOf_congr ?_) rfl)
        rw [List.filter_filter]
        refine List.filter_congr fun entry _ => ?_
        by_cases hentry : entry.1 = invoice.id
        · simp [hentry, Ne.symm hown]
        · simp [hentry]
      · rintro ⟨other, hother, hid⟩
        obtain rfl := Option.some.inj hother
        exact hown hid
  | line pending n row hrow =>
    by_cases hown : pending.invoiceId = invoice.id
    · exact .inl ⟨pending, rfl, hown⟩
    · refine .inr ⟨⟨quote, hquote, invoice, hinvoice, rfl, fun hcomplete => ?_⟩, ?_⟩
      · refine hincomplete (hcomplete.congr (invoiceLinesOf_congr ?_) rfl)
        simp [List.filter_append, hown]
      · rintro ⟨other, hother, hid⟩
        obtain rfl := Option.some.inj hother
        exact hown hid
  | mark pending now =>
    right
    obtain ⟨before, hbefore, rfl⟩ := mem_updateWhere.mp hquote
    have hinvoice' : invoice ∈ s.invoicesOf before.id := by
      split at hinvoice
      · exact hinvoice
      · exact hinvoice
    have hnot : invoice.id ≠ pending.invoiceId := by
      intro hid
      obtain ⟨hnamed, hcomplete⟩ :=
        complete_of_mark hkeys h htracked hbefore hinvoice' hid now
      rw [if_pos hnamed] at hincomplete
      exact hincomplete (hcomplete.congr rfl rfl)
    refine ⟨⟨before, hbefore, invoice, hinvoice', rfl, fun hcomplete => ?_⟩, ?_⟩
    · by_cases hnamed : before.named pending.quoteId pending.companyId = true
      · obtain ⟨other, hother, hotherId, hotherQuote⟩ := htracked.invoice pending rfl
        have hid := (named_iff hkeys h.same htracked rfl hbefore).mp hnamed
        have hboth := mem_invoicesOf.mpr ⟨hother, hid ▸ hotherQuote⟩
        obtain rfl := eq_of_once (h.once before hbefore) hinvoice' hboth
        exact hnot hotherId
      · rw [if_neg hnamed] at hincomplete
        exact hincomplete (hcomplete.congr rfl rfl)
    · rintro ⟨other, hother, hid⟩
      obtain rfl := Option.some.inj hother
      exact hnot hid.symm

end Invariants

section Runs

variable {s₀ : Books}

theorem conversions_separate (hkeys : Distinct (fun row : Quote => row.id) s₀.quotes) :
    Separate conversionSystem (allowedIn s₀) (advance s₀) ConversionPhase.ends .outside
      (Grounded s₀) (Tracked s₀) Apart where
  handler _ c _ := follows_convertQuoteToInvoice c.user c.id c.dto c.draw c.failsAfter
  symm h _ _ hpending hpending' := Ne.symm (h _ _ hpending' hpending)
  apart other _ _ _ hpending := by cases hpending
  start s _ := .outside s
  exec op s phase phase' hbase hallowed hok hadvance := by
    have heffect := effect_of_advance hallowed.1 hadvance
    exact ⟨hbase.effect hkeys hok heffect, hok.effect heffect⟩
  frame op s phase phase' other hbase hallowed hok hadvance hother hapart :=
    hother.frame hapart (effect_of_advance hallowed.1 hadvance)
  tick s hbase := ⟨hbase, fun _ hok => hok⟩

theorem conversions_attended (hkeys : Distinct (fun row : Quote => row.id) s₀.quotes) :
    Attended conversionSystem (allowedIn s₀) (advance s₀) (Grounded s₀) (Tracked s₀) Unfinished
      ConversionPhase.owns where
  exec _ _ _ _ hbase hallowed hok hadvance _ hx :=
    unfinished_of_effect hkeys hbase hok (effect_of_advance hallowed.1 hadvance) hx
  tick _ _ hx := hx

theorem SameQuotes.exec {s : Books} (h : SameQuotes s₀ s) {op : BooksOp} (hop : op.leavesQuotes) :
    SameQuotes s₀ (execBooks op s) := by
  rw [execBooks]
  split
  · exact h
  · cases op with
    | insertQuote | updateQuote | deleteQuoteLines | insertQuoteLine => exact hop.elim
    | markConverted quoteId companyId invoiceId now =>
      have hkeys : (updateWhere (·.named quoteId companyId) (converted invoiceId now)
          s.quotes).map Quote.key = s.quotes.map Quote.key :=
        map_updateWhere_key fun _ _ => rfl
      exact ⟨h.lines, hkeys.trans h.keys⟩
    | _ => exact ⟨h.lines, h.keys⟩

theorem run_allowedIn {c : Config Books ConversionOp}
    (hrun : conversionSystem.Run (fun op s => convertsOnce op s = true) ⟨s₀, []⟩ c) :
    conversionSystem.Run (allowedIn s₀) ⟨s₀, []⟩ c := by
  have hhandler : ∀ (s : Books) (req : Conversion), conversionSystem.sendable s req →
      (conversionSystem.handler req).All fun op => ∀ s, SameQuotes s₀ s →
        SameQuotes s₀ (Breakable.exec execBooks op s) := by
    intro _ req _
    refine Prog.all_cut (convertQuoteToInvoice_leavesQuotes req.user req.id req.dto req.draw) ?_ ?_
      none req.failsAfter
    · exact fun op hop s hsame => hsame.exec hop
    · exact fun last s hsame => hsame
  exact System.run_within hhandler (fun op s hsame _ hgood => hgood s hsame) (fun _ hsame => hsame)
    rfl hrun ⟨rfl, rfl⟩

theorem Consistent.grounded (h : Consistent s₀) : Grounded s₀ s₀ where
  same := ⟨rfl, rfl⟩
  invoiceKeys := h.invoiceKeys
  once := h.once
  amounts quote hquote invoice hinvoice := ((h.invoiced quote hquote).complete invoice hinvoice).amounts
  marked quote hquote := (h.invoiced quote hquote).invoice_of_marked

theorem Consistent.finished (h : Consistent s₀) (x : String) : ¬ Unfinished s₀ x := by
  rintro ⟨quote, hquote, invoice, hinvoice, -, hincomplete⟩
  exact hincomplete ((h.invoiced quote hquote).complete invoice hinvoice)

theorem Grounded.invoiced {s : Books} (h : Grounded s₀ s) (hfinished : ∀ x, ¬ Unfinished s x)
    {quote : Quote} (hquote : quote ∈ s.quotes) : Invoiced s quote := by
  refine ⟨fun invoice hinvoice => ?_, h.marked quote hquote⟩
  by_contra hincomplete
  exact hfinished invoice.id ⟨quote, hquote, invoice, hinvoice, rfl, hincomplete⟩

/-- Whatever conversions run side by side, a quote has one invoice at most; when none is
under way it has one just when it is marked, with its lines and amounts. -/
theorem one_invoice (h₀ : Consistent s₀) {c : Config Books ConversionOp}
    (hrun : conversionSystem.Run (fun op s => convertsOnce op s = true) ⟨s₀, []⟩ c) :
    (∀ quote ∈ c.shared.quotes, (c.shared.invoicesOf quote.id).length ≤ 1) ∧
      ((∀ p ∈ c.threads, p.finished = true) →
        ∀ quote ∈ c.shared.quotes, Invoiced c.shared quote) := by
  have hseparate := conversions_separate h₀.quoteKeys
  have hallowed := run_allowedIn hrun
  have hgrounded := hseparate.run rfl hallowed h₀.grounded
  refine ⟨hgrounded.once, fun hfinished quote hquote => hgrounded.invoiced ?_ hquote⟩
  refine hseparate.finished (conversions_attended h₀.quoteKeys) (fun phase hends x => ?_) rfl
    hallowed h₀.grounded h₀.finished hfinished
  rintro ⟨pending, hpending, -⟩
  rw [hends] at hpending
  cases hpending

def sampleConversion (id : String) : Conversion :=
  ⟨sampleActor "u1", "q1", ⟨none, none, none, .null⟩, { sampleDraw with id := id }, none⟩

theorem sampleBooks_consistent : Consistent sampleBooks := by
  refine ⟨?_, ?_, ?_, ?_⟩
  · rw [Distinct]
    decide
  · rw [Distinct]
    decide
  · decide
  · refine List.forall_mem_singleton.mpr ⟨fun invoice hinvoice => ?_, fun hmarked => ?_⟩
    · cases hinvoice
    · obtain hstatus | hnamed := hmarked
      · cases hstatus
      · cases hnamed

/-- A conversion by itself. -/
theorem one_invoice_alone :
    ∃ c, conversionSystem.Run (fun op s => convertsOnce op s = true) ⟨sampleBooks, []⟩ c ∧
      (c.shared.quotes.all fun quote => quote.status = .converted) = true ∧
        ∀ quote ∈ c.shared.quotes, Invoiced c.shared quote := by
  have hplay : (conversionSystem.play (fun _ _ => true) convertsOnce ⟨sampleBooks, []⟩
      [.start (sampleConversion "a"), .run 0, .run 0, .run 0, .run 0, .run 0, .run 0, .run 0,
        .run 0, .run 0]).any (fun c => c.threads.all Prog.finished &&
          c.shared.quotes.all fun quote => quote.status = .converted) = true := by
    decide +kernel
  obtain ⟨c, hrun, hcheck⟩ :=
    System.exists_run_of_play (fun _ _ _ => trivial) (fun _ _ h => h) hplay
  obtain ⟨hfinished, hconverted⟩ := Bool.and_eq_true_iff.mp hcheck
  refine ⟨c, hrun, hconverted, (one_invoice sampleBooks_consistent hrun).2 fun p hp => ?_⟩
  exact List.all_eq_true.mp hfinished p hp

/-- The second conversion looks at the quote while the first one has inserted its invoice
and not marked it. -/
theorem two_invoices :
    ¬ ∀ (s₀ : Books) (c : Config Books ConversionOp), Consistent s₀ →
      conversionSystem.Run (fun _ _ => True) ⟨s₀, []⟩ c →
        (∀ quote ∈ c.shared.quotes, (c.shared.invoicesOf quote.id).length ≤ 1) ∧
          ((∀ p ∈ c.threads, p.finished = true) →
            ∀ quote ∈ c.shared.quotes, Invoiced c.shared quote) := by
  intro h
  have hplay : (conversionSystem.play (fun _ _ => true) (fun _ _ => true) ⟨sampleBooks, []⟩
      [.start (sampleConversion "a"), .start (sampleConversion "b"), .run 0, .run 0, .run 0,
        .run 0, .run 1, .run 1, .run 1, .run 1]).any (fun c => c.shared.quotes.any fun quote =>
          (c.shared.invoicesOf quote.id).length = 2) = true := by
    decide +kernel
  obtain ⟨c, hrun, hcheck⟩ :=
    System.exists_run_of_play (fun _ _ _ => trivial) (fun _ _ _ => trivial) hplay
  obtain ⟨quote, hquote, htwo⟩ := List.any_eq_true.mp hcheck
  have hone := (h _ _ sampleBooks_consistent hrun).1 quote hquote
  rw [of_decide_eq_true htwo] at hone
  omega

end Runs
end FieldserviceIT.QuotesInvoices
