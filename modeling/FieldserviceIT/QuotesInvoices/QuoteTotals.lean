import FieldserviceIT.QuotesInvoices.Calls

/-!
The totals of a quote are stored beside its lines. A call with lines computes them from
what the client sends and not from what the columns make of it, in statements that can
be refused one by one; a patch without lines does not compute them at all. Where this
makes no difference the stored totals are those of the stored lines.
-/

namespace FieldserviceIT.QuotesInvoices

open Common Lib Admin

section Law

def Quote.totals (row : Quote) : Totals :=
  ⟨row.amounts.read.subtotal, row.amounts.read.taxTotal, row.amounts.read.total⟩

/-- `calculateTotals` of what is stored. -/
def Quote.recalculated (row : Quote) (s : Books) : Totals :=
  calculateTotals ((s.quoteLinesOf row.id).map (·.read)) row.amounts.read.taxRate
    row.amounts.read.discountTotal

structure Totalled (s : Books) : Prop where
  keys : Distinct (fun row : Quote => row.id) s.quotes
  totals : ∀ row ∈ s.quotes, row.totals = row.recalculated s

end Law

section Conditions

def linesFit (lines : List (Line ℚ)) : Bool :=
  lines.all fun line => line.store.isSome

/-- The totals are `expected` with the rate and the discount as the columns round them. -/
def totalsWhenStored (lines : List (Line ℚ)) (taxRate discountTotal : ℚ) (expected : Totals) :
    Bool :=
  match percent.store taxRate, money.store discountTotal with
  | some rate, some discount =>
    calculateTotals lines (percent.read rate) (money.read discount) = expected
  | _, _ => true

/-- With lines, every statement is taken and rounding makes no difference. -/
def keepsWithLines (row : Quote) (data : DocumentPayload) (lines : List (Line ℚ)) (now : Int) :
    Bool :=
  let taxRate := data.taxRate.getD row.amounts.read.taxRate
  let discountTotal := data.discountTotal.getD row.amounts.read.discountTotal
  let totals := calculateTotals lines taxRate discountTotal
  linesFit lines && (({ data.updates now with totals := some totals }).apply row).isSome &&
    totalsWhenStored lines taxRate discountTotal totals

/-- Without lines, the patch is refused or the totals stay what they are. -/
def keepsWithoutLines (row : Quote) (data : DocumentPayload) (now : Int) (s : Books) : Bool :=
  ((data.updates now).apply row).isNone ||
    totalsWhenStored ((s.quoteLinesOf row.id).map (·.read))
      (data.taxRate.getD row.amounts.read.taxRate)
      (data.discountTotal.getD row.amounts.read.discountTotal) row.totals

/-- A quote that is inserted gets all its lines and rounding makes no difference. -/
def keepsWhenCreated (values : NewQuote) (lines : List (Line ℚ)) (s : Books) : Bool :=
  refuses (.insertQuote values) s ||
    linesFit lines &&
      totalsWhenStored lines values.amounts.taxRate values.amounts.discountTotal
        ⟨values.amounts.subtotal, values.amounts.taxTotal, values.amounts.total⟩

def keepsTotals (call : BooksCall) (s : Books) : Bool :=
  match call with
  | .createQuote user dto draw =>
    match resolveWriteCompany user dto.companyId, normalizeDocumentPayload dto true,
        normalizeLines dto.lines with
    | some companyId, some data, some lines =>
      !data.bound ||
        keepsWhenCreated
          (data.newQuote companyId user.id
            (calculateTotals lines (data.taxRate.getD 0) (data.discountTotal.getD 0))
            (nextQuoteNumber companyId draw.year s) draw) lines s
    | _, _, _ => true
  | .updateQuote user id dto draw =>
    match foundQuote user id s, normalizeDocumentPayload dto false with
    | some row, some data =>
      row.status = .converted && dto.lines.given ||
        match dto.lines with
        | .items items =>
          (normalizeLines (.items items)).all fun lines =>
            keepsWithLines row data lines draw.now
        | _ => keepsWithoutLines row data draw.now s
    | _, _ => true
  | _ => true

end Conditions

section Lines

def Line.charge (line : Line ℚ) : Bool × ℚ :=
  (line.taxable, line.total)

theorem calculateTotals_congr {lines lines' : List (Line ℚ)}
    (h : lines.map Line.charge = lines'.map Line.charge) (taxRate discountTotal : ℚ) :
    calculateTotals lines taxRate discountTotal = calculateTotals lines' taxRate discountTotal := by
  have hsum : ∀ ls : List (Line ℚ), ls.foldl (fun sum line => sum + line.total) 0 =
      (ls.map Line.charge).foldl (fun sum charge => sum + charge.2) 0 := by
    intro ls
    rw [List.foldl_map]
    rfl
  have hfilter : ∀ ls : List (Line ℚ), (ls.filter (·.taxable)).map Line.charge =
      (ls.map Line.charge).filter (·.1) := by
    intro ls
    rw [List.filter_map]
    rfl
  rw [calculateTotals, calculateTotals, hsum, hsum lines', hsum (lines.filter _),
    hsum (lines'.filter _), hfilter, hfilter lines', h]

/-- A line as `normalizeLines` makes it: its total is a number of cents. -/
def Line.rounded (line : Line ℚ) : Prop :=
  ∃ x, line.total = round x

theorem normalizeFrom_spec {inputs : List LineInput} {index : Nat} {lines : List (Line ℚ)}
    (h : normalizeFrom index inputs = some lines) :
    (∀ line ∈ lines, index < line.position ∧ line.rounded) ∧
      lines.Pairwise fun a b => a.position ≤ b.position := by
  induction inputs generalizing index lines with
  | nil =>
    obtain rfl := Option.some.inj h
    exact ⟨fun _ hline => absurd hline List.not_mem_nil, .nil⟩
  | cons input inputs ih =>
    simp only [normalizeFrom] at h
    split at h
    · cases h
    · split at h
      · cases h
      · obtain ⟨rest, hrest, rfl⟩ := Option.map_eq_some_iff.mp h
        obtain ⟨hall, hsorted⟩ := ih hrest
        refine ⟨fun line hline => ?_, List.pairwise_cons.mpr ⟨fun line hline => ?_, hsorted⟩⟩
        · obtain rfl | hline := List.mem_cons.mp hline
          · exact ⟨Nat.lt_succ_self _, _, rfl⟩
          · exact ⟨Nat.lt_of_succ_lt (hall line hline).1, (hall line hline).2⟩
        · exact Nat.le_of_lt (hall line hline).1

theorem normalizeLines_spec {input : LinesInput} {lines : List (Line ℚ)}
    (h : normalizeLines input = some lines) : (∀ line ∈ lines, line.rounded) ∧
      lines.Pairwise fun a b => a.position ≤ b.position := by
  rw [normalizeLines.eq_def] at h
  split at h
  · obtain ⟨all, hall, rfl⟩ := Option.map_eq_some_iff.mp h
    obtain ⟨hrounded, hsorted⟩ := normalizeFrom_spec hall
    exact ⟨fun line hline => (hrounded line (List.mem_of_mem_take hline)).2,
      hsorted.sublist (List.take_sublist _ _)⟩
  · cases h

def storedLines (lines : List (Line ℚ)) : List LineRow :=
  lines.filterMap (·.store)

theorem storedLines_cons {line : Line ℚ} {row : LineRow} (h : line.store = some row)
    (lines : List (Line ℚ)) : storedLines (line :: lines) = row :: storedLines lines :=
  List.filterMap_cons_some h

theorem charge_storedLines {lines : List (Line ℚ)} (hrounded : ∀ line ∈ lines, line.rounded)
    (hfit : linesFit lines = true) :
    ((storedLines lines).map (·.read)).map Line.charge = lines.map Line.charge := by
  induction lines with
  | nil => rfl
  | cons line lines ih =>
    rw [linesFit, List.all_cons, Bool.and_eq_true, Option.isSome_iff_exists] at hfit
    obtain ⟨⟨row, hrow⟩, hrest⟩ := hfit
    obtain ⟨x, hx⟩ := hrounded line List.mem_cons_self
    obtain ⟨-, -, htaxable, -, -, htotal⟩ := Line.store_eq_some hrow
    have htail := ih (fun other hother => hrounded other (List.mem_cons_of_mem _ hother)) hrest
    have hhead : row.read.charge = line.charge := by
      rw [hx] at htotal
      rw [Line.charge, Line.charge, LineRow.read, htaxable, read_of_store_round htotal, hx]
    rw [storedLines_cons hrow, List.map_cons, List.map_cons, hhead, htail, List.map_cons]

theorem storedLines_sorted {lines : List (Line ℚ)}
    (h : lines.Pairwise fun a b => a.position ≤ b.position) :
    (storedLines lines).Pairwise fun a b => a.val.position ≤ b.val.position := by
  refine h.filterMap _ fun a b hab a' ha' b' hb' => ?_
  rw [(Line.store_eq_some ha').1, (Line.store_eq_some hb').1]
  exact hab

def Books.withQuoteLines (s : Books) (id : String) (rows : List LineRow) : Books :=
  { s with
    quoteLines := (s.quoteLines.filter fun entry => entry.1 ≠ id) ++ rows.map fun row => (id, row) }

theorem linesOf_append (lines lines' : List (String × LineRow)) (id : String) :
    linesOf (lines ++ lines') id = ((lines.filter fun entry => entry.1 = id).map (·.2) ++
      (lines'.filter fun entry => entry.1 = id).map (·.2)).insertionSort fun a b =>
        a.val.position ≤ b.val.position := by
  rw [linesOf, List.filter_append, List.map_append]

theorem quoteLinesOf_self (s : Books) (id : String) {rows : List LineRow}
    (h : rows.Pairwise fun a b => a.val.position ≤ b.val.position) :
    (s.withQuoteLines id rows).quoteLinesOf id = rows := by
  rw [Books.quoteLinesOf, Books.withQuoteLines, linesOf_append]
  have hold : (s.quoteLines.filter fun entry => entry.1 ≠ id).filter
      (fun entry => entry.1 = id) = [] := by
    refine List.filter_eq_nil_iff.mpr fun entry hentry => ?_
    have hother := (List.mem_filter.mp hentry).2
    simpa using hother
  have hnew : (rows.map fun row => (id, row)).filter (fun entry => entry.1 = id) =
      rows.map fun row => (id, row) := by
    refine List.filter_eq_self.mpr fun entry hentry => ?_
    obtain ⟨row, -, rfl⟩ := List.mem_map.mp hentry
    exact decide_eq_true rfl
  have hsnd : ((fun entry : String × LineRow => entry.2) ∘ fun row => (id, row)) = fun row => row :=
    rfl
  rw [hold, hnew, List.map_nil, List.nil_append, List.map_map, hsnd, List.map_id']
  exact h.insertionSort_eq

theorem quoteLinesOf_of_ne {s : Books} {id other : String} {rows : List LineRow}
    (h : other ≠ id) : (s.withQuoteLines id rows).quoteLinesOf other = s.quoteLinesOf other := by
  rw [Books.quoteLinesOf, Books.withQuoteLines, linesOf_append, Books.quoteLinesOf, linesOf]
  have hold : (s.quoteLines.filter fun entry => entry.1 ≠ id).filter
      (fun entry => entry.1 = other) = s.quoteLines.filter fun entry => entry.1 = other := by
    rw [List.filter_filter]
    refine List.filter_congr fun entry _ => ?_
    by_cases hentry : entry.1 = other
    · simp [hentry, h]
    · simp [hentry]
  have hnew : (rows.map fun row => (id, row)).filter (fun entry => entry.1 = other) = [] := by
    refine List.filter_eq_nil_iff.mpr fun entry hentry => ?_
    obtain ⟨row, -, rfl⟩ := List.mem_map.mp hentry
    simpa using Ne.symm h
  rw [hold, hnew, List.map_nil, List.append_nil]

theorem alone_insertQuoteLines (id : String) (go : BooksProgram) {lines : List (Line ℚ)}
    (hfit : linesFit lines = true) (s : Books) :
    booksSystem.alone (insertQuoteLines id go lines) s = booksSystem.alone go
      { s with quoteLines := s.quoteLines ++ (storedLines lines).map fun row => (id, row) } := by
  induction lines generalizing s with
  | nil =>
    rw [storedLines, List.filterMap_nil, List.map_nil, List.append_nil]
    rfl
  | cons line lines ih =>
    rw [linesFit, List.all_cons, Bool.and_eq_true, Option.isSome_iff_exists] at hfit
    obtain ⟨⟨row, hrow⟩, hrest⟩ := hfit
    have hrefuses : refuses (.insertQuoteLine id line) s = false := by
      rw [refuses, hrow]
      rfl
    rw [insertQuoteLines, alone_statement, hrefuses, if_neg Bool.false_ne_true, ih hrest, perform,
      storedLines_cons hrow, hrow]
    simp only [Option.toList_some, List.map_cons, List.map_nil, List.append_assoc,
      List.singleton_append]

theorem alone_replaceQuoteLines (id : String) (go : BooksProgram) {lines : List (Line ℚ)}
    (hfit : linesFit lines = true) (s : Books) :
    booksSystem.alone (replaceQuoteLines id lines go) s =
      booksSystem.alone go (s.withQuoteLines id (storedLines lines)) := by
  rw [replaceQuoteLines, alone_statement]
  exact alone_insertQuoteLines id go hfit _

end Lines

section Rows

variable {s : Books} {row row' : Quote} {updates : QuoteUpdates}

theorem QuoteUpdates.apply_eq_some (h : updates.apply row = some row') :
    row'.id = row.id ∧ (updates.amounts row).store = some row'.amounts := by
  simp only [QuoteUpdates.apply, Option.bind_eq_bind, Option.bind_eq_some_iff] at h
  obtain ⟨amounts, hamounts, validUntil, -, hrow⟩ := h
  split at hrow
  · obtain rfl := Option.some.inj hrow
    exact ⟨rfl, hamounts⟩
  · cases hrow

theorem totals_of_store {amounts : Amounts ℚ ℚ} {lines : List (Line ℚ)} {taxRate discountTotal : ℚ}
    (htotals : (⟨amounts.subtotal, amounts.taxTotal, amounts.total⟩ : Totals) =
      calculateTotals lines taxRate discountTotal)
    (hstore : amounts.store = some row.amounts) :
    row.totals = calculateTotals lines taxRate discountTotal := by
  obtain ⟨hsubtotal, -, htax, -, htotal⟩ := Amounts.store_eq_some.mp hstore
  have hparts := Totals.mk.inj htotals
  rw [hparts.1] at hsubtotal
  rw [hparts.2.1] at htax
  rw [hparts.2.2] at htotal
  simp only [Quote.totals, Amounts.read, read_of_store_round hsubtotal, read_of_store_round htax,
    read_of_store_round htotal]
  rfl

theorem calculateTotals_of_stored {lines : List (Line ℚ)} {amounts : Amounts ℚ ℚ}
    {expected : Totals} (hstore : amounts.store = some row.amounts)
    (h : totalsWhenStored lines amounts.taxRate amounts.discountTotal expected = true) :
    calculateTotals lines row.amounts.read.taxRate row.amounts.read.discountTotal = expected := by
  obtain ⟨-, hrate, -, hdiscount, -⟩ := Amounts.store_eq_some.mp hstore
  rw [totalsWhenStored, hrate, hdiscount] at h
  exact of_decide_eq_true h

theorem totalled_update {existing : Quote} (hkeys : Distinct (fun row : Quote => row.id) s.quotes)
    (hexisting : existing ∈ s.quotes)
    (hothers : ∀ other ∈ s.quotes, other.id ≠ existing.id → other.totals = other.recalculated s)
    (hwritten : ∀ row', updates.apply existing = some row' → row'.totals = row'.recalculated s)
    (haccepts : refuses (.updateQuote existing.id existing.companyId updates) s = false) :
    Totalled (perform (.updateQuote existing.id existing.companyId updates) s) := by
  have hsome : ∀ row ∈ s.quotes, row.named existing.id existing.companyId = true →
      ∃ row', updates.apply row = some row' := by
    intro row hrow hnamed
    have haccept := List.any_eq_false.mp haccepts row hrow
    rw [hnamed, Bool.true_and, Option.isNone_iff_eq_none] at haccept
    exact Option.ne_none_iff_exists'.mp haccept
  refine ⟨hkeys.updateWhere fun row _ => ?_, fun row' hrow' => ?_⟩
  · cases happly : updates.apply row with
    | none => rfl
    | some row' => exact (QuoteUpdates.apply_eq_some happly).1
  · obtain ⟨row, hrow, rfl⟩ := mem_updateWhere.mp hrow'
    by_cases hid : row.id = existing.id
    · obtain rfl := hkeys.eq_of_key hrow hexisting hid
      have hnamed : row.named row.id row.companyId = true := by
        simp [Quote.named]
      obtain ⟨row', happly⟩ := hsome row hrow hnamed
      rw [if_pos hnamed, happly]
      exact hwritten row' happly
    · have hnamed : ¬ row.named existing.id existing.companyId = true := by
        simp [Quote.named, hid]
      rw [if_neg hnamed]
      exact hothers row hrow hid

end Rows

section Calls

variable {s : Books}

theorem Totalled.withoutLines (h : Totalled s) {existing : Quote} (hexisting : existing ∈ s.quotes)
    {data : DocumentPayload} {now : Int} (hkeeps : keepsWithoutLines existing data now s = true)
    (haccepts : refuses (.updateQuote existing.id existing.companyId (data.updates now)) s = false) :
    Totalled (perform (.updateQuote existing.id existing.companyId (data.updates now)) s) := by
  refine totalled_update h.keys hexisting (fun other hother _ => h.totals other hother)
    (fun row' happly => ?_) haccepts
  obtain ⟨hid, hstore⟩ := QuoteUpdates.apply_eq_some happly
  rw [keepsWithoutLines, happly] at hkeeps
  have hrecalculated := calculateTotals_of_stored hstore hkeeps
  obtain ⟨hsubtotal, -, htax, -, htotal⟩ := Amounts.store_eq_some.mp hstore
  have hold : row'.totals = existing.totals := by
    have hunchanged : ∀ v w : Cents, money.store (money.read v) = some w → w = v := by
      intro v w hvw
      rw [DecimalColumn.store_read] at hvw
      exact (Option.some.inj hvw).symm
    simp only [Quote.totals, Amounts.read, hunchanged _ _ hsubtotal, hunchanged _ _ htax,
      hunchanged _ _ htotal]
  rw [hold, Quote.recalculated, hid]
  exact hrecalculated.symm

theorem Totalled.withLines (h : Totalled s) {existing : Quote} (hexisting : existing ∈ s.quotes)
    {data : DocumentPayload} {lines : List (Line ℚ)} {now : Int} {totals : Totals}
    (hrounded : ∀ line ∈ lines, line.rounded)
    (hsorted : lines.Pairwise fun a b => a.position ≤ b.position)
    (htotals : totals = calculateTotals lines (data.taxRate.getD existing.amounts.read.taxRate)
      (data.discountTotal.getD existing.amounts.read.discountTotal))
    (hkeeps : keepsWithLines existing data lines now = true) (user : CurrentUser) :
    Totalled (booksSystem.alone
      (replaceQuoteLines existing.id lines
        (statement
          (.updateQuote existing.id existing.companyId
            { data.updates now with totals := some totals })
          (getQuote user existing.id fun _ _ => .done))) s) := by
  subst htotals
  simp only [keepsWithLines, Bool.and_eq_true] at hkeeps
  obtain ⟨⟨hfit, hsome⟩, hstored⟩ := hkeeps
  rw [alone_replaceQuoteLines _ _ hfit, alone_statement]
  have hlines := quoteLinesOf_self s existing.id (storedLines_sorted hsorted)
  have haccepts : refuses
      (.updateQuote existing.id existing.companyId
        { data.updates now with
          totals := some (calculateTotals lines
            (data.taxRate.getD existing.amounts.read.taxRate)
            (data.discountTotal.getD existing.amounts.read.discountTotal)) })
      (s.withQuoteLines existing.id (storedLines lines)) = false := by
    refine List.any_eq_false.mpr fun row hrow => ?_
    by_cases hid : row.id = existing.id
    · obtain rfl := h.keys.eq_of_key hrow hexisting hid
      rw [Option.isNone_eq_false_iff.mpr hsome, Bool.and_false]
      exact Bool.false_ne_true
    · simp [Quote.named, hid]
  rw [haccepts, if_neg Bool.false_ne_true, alone_getQuote_done]
  refine totalled_update h.keys hexisting (fun other hother hid => ?_) (fun row' happly => ?_)
    haccepts
  · rw [Quote.recalculated, quoteLinesOf_of_ne hid]
    exact h.totals other hother
  · obtain ⟨hid, hstore⟩ := QuoteUpdates.apply_eq_some happly
    rw [totals_of_store rfl hstore, Quote.recalculated, hid, hlines,
      calculateTotals_congr (charge_storedLines hrounded hfit)]
    exact (calculateTotals_of_stored hstore hstored).symm

theorem NewQuote.row_eq_some {values : NewQuote} {row : Quote} (h : values.row = some row) :
    row.id = values.id ∧ values.amounts.store = some row.amounts := by
  simp only [NewQuote.row, Option.bind_eq_bind, Option.bind_eq_some_iff] at h
  obtain ⟨amounts, hamounts, validUntil, -, hrow⟩ := h
  split at hrow
  · obtain rfl := Option.some.inj hrow
    exact ⟨rfl, hamounts⟩
  · cases hrow

theorem Totalled.created (h : Totalled s) {values : NewQuote} {lines : List (Line ℚ)}
    (hrounded : ∀ line ∈ lines, line.rounded)
    (hsorted : lines.Pairwise fun a b => a.position ≤ b.position)
    (htotals : (⟨values.amounts.subtotal, values.amounts.taxTotal, values.amounts.total⟩ : Totals) =
      calculateTotals lines values.amounts.taxRate values.amounts.discountTotal)
    (hkeeps : keepsWhenCreated values lines s = true) (user : CurrentUser) :
    Totalled (booksSystem.alone
      (statement (.insertQuote values)
        (replaceQuoteLines values.id lines (getQuote user values.id fun _ _ => .done))) s) := by
  rw [alone_statement]
  cases haccepts : refuses (.insertQuote values) s with
  | true => exact h
  | false =>
    rw [keepsWhenCreated, haccepts, Bool.false_or, Bool.and_eq_true] at hkeeps
    obtain ⟨hfit, hstored⟩ := hkeeps
    simp only [refuses, Bool.or_eq_false_iff, Option.isNone_eq_false_iff,
      Option.isSome_iff_exists] at haccepts
    obtain ⟨⟨row, hrow⟩, hfree⟩ := haccepts
    obtain ⟨hid, hstore⟩ := NewQuote.row_eq_some hrow
    have hfresh : ∀ other ∈ s.quotes, other.id ≠ row.id := by
      intro other hother heq
      have hclash := List.any_eq_false.mp hfree other hother
      simp [NewQuote.clashes, heq, hid] at hclash
    have hlines := quoteLinesOf_self (perform (.insertQuote values) s) values.id
      (storedLines_sorted hsorted)
    rw [if_neg Bool.false_ne_true, alone_replaceQuoteLines _ _ hfit, alone_getQuote_done]
    have hquotes : ((perform (.insertQuote values) s).withQuoteLines values.id
        (storedLines lines)).quotes = s.quotes ++ [row] := by
      simp only [Books.withQuoteLines, perform, hrow, Option.toList_some]
    refine ⟨hquotes ▸ h.keys.append hfresh, fun other hother => ?_⟩
    rw [hquotes] at hother
    obtain hother | hother := List.mem_append.mp hother
    · rw [Quote.recalculated, quoteLinesOf_of_ne (hid ▸ hfresh other hother)]
      exact h.totals other hother
    · obtain rfl := List.mem_singleton.mp hother
      rw [totals_of_store htotals hstore, Quote.recalculated, hid, hlines,
        calculateTotals_congr (charge_storedLines hrounded hfit),
        calculateTotals_of_stored hstore hstored, htotals]

theorem Totalled.createQuote (h : Totalled s) {user : CurrentUser} {dto : QuoteDto} {draw : Draw}
    (hkeeps : keepsTotals (.createQuote user dto draw) s = true) :
    Totalled (booksSystem.alone (createQuote user dto draw) s) := by
  rw [QuotesInvoices.createQuote]
  rw [keepsTotals] at hkeeps
  split
  · exact h
  next companyId hcompany =>
    split
    · exact h
    next data hdata =>
      split
      · exact h
      next lines hlines =>
        rw [hcompany, hdata, hlines] at hkeeps
        obtain ⟨hrounded, hsorted⟩ := normalizeLines_spec hlines
        rw [alone_read]
        split
        · exact h
        next hbound =>
          rw [Bool.not_eq_true] at hbound
          simp only [hbound, Bool.false_or] at hkeeps
          exact h.created hrounded hsorted rfl hkeeps user

theorem Totalled.updateQuote (h : Totalled s) {user : CurrentUser} {id : String} {dto : QuoteDto}
    {draw : Draw} (hkeeps : keepsTotals (.updateQuote user id dto draw) s = true) :
    Totalled (booksSystem.alone (updateQuote user id dto draw) s) := by
  rw [QuotesInvoices.updateQuote, alone_getQuote]
  rw [keepsTotals] at hkeeps
  cases hfound : foundQuote user id s with
  | none => exact h
  | some existing =>
    obtain ⟨hexisting, rfl⟩ := mem_of_foundQuote hfound
    rw [Option.map_some, Option.getD_some]
    split
    · exact h
    next hopen =>
      cases hdata : normalizeDocumentPayload dto false with
      | none => exact h
      | some data =>
        rw [Bool.not_eq_true] at hopen
        simp only [hfound, hdata, hopen, Bool.false_or] at hkeeps
        have hplain : keepsWithoutLines existing data draw.now s = true →
            Totalled (booksSystem.alone (statement
              (.updateQuote existing.id existing.companyId (data.updates draw.now))
              (getQuote user existing.id fun _ _ => .done)) s) := by
          intro hkeeps'
          rw [alone_statement]
          cases haccepts : refuses
              (.updateQuote existing.id existing.companyId (data.updates draw.now)) s with
          | true => exact h
          | false =>
            rw [if_neg Bool.false_ne_true, alone_getQuote_done]
            exact h.withoutLines hexisting hkeeps' haccepts
        cases hinput : dto.lines with
        | absent =>
          rw [hinput] at hkeeps
          exact hplain hkeeps
        | other =>
          rw [hinput] at hkeeps
          exact hplain hkeeps
        | items items =>
          simp only [hinput] at hkeeps
          cases hlines : normalizeLines (.items items) with
          | none =>
            simp only [hlines]
            exact h
          | some lines =>
            obtain ⟨hrounded, hsorted⟩ := normalizeLines_spec hlines
            rw [hlines, Option.all_some] at hkeeps
            simp only [hlines]
            exact h.withLines hexisting hrounded hsorted rfl hkeeps user

end Calls

section Runs

def BooksOp.leavesQuotes : BooksOp → Prop
  | .insertQuote _ | .updateQuote _ _ _ | .deleteQuoteLines _ | .insertQuoteLine _ _ => False
  | _ => True

theorem Totalled.exec {s : Books} (h : Totalled s) {op : BooksOp} (hop : op.leavesQuotes) :
    Totalled (execBooks op s) := by
  rw [execBooks]
  split
  · exact h
  · cases op with
    | read | insertInvoice _ | updateInvoice _ _ _ | deleteInvoiceLines _
      | insertInvoiceLine _ _ => exact ⟨h.keys, h.totals⟩
    | markConverted quoteId companyId invoiceId now =>
      refine ⟨h.keys.updateWhere fun _ _ => rfl, fun row' hrow' => ?_⟩
      obtain ⟨row, hrow, rfl⟩ := mem_updateWhere.mp hrow'
      split
      · exact h.totals row hrow
      · exact h.totals row hrow
    | insertQuote _ | updateQuote _ _ _ | deleteQuoteLines _ | insertQuoteLine _ _ =>
      exact absurd hop id

theorem convertQuoteToInvoice_leavesQuotes (user : CurrentUser) (id : String) (dto : ConvertDto)
    (draw : Draw) : (convertQuoteToInvoice user id dto draw).All BooksOp.leavesQuotes := by
  refine all_getQuote trivial user id fun quote rows => ?_
  split
  · exact all_getInvoice trivial user _ fun _ => trivial
  · split
    · trivial
    · refine Prog.all_step trivial fun s => all_statement trivial ?_
      refine all_statement trivial (all_insertInvoiceLines ?_ fun _ _ => trivial)
      exact all_statement trivial (all_getInvoice trivial user _ fun _ => trivial)

theorem updateInvoice_leavesQuotes (user : CurrentUser) (id : String) (dto : InvoiceDto)
    (draw : Draw) : (updateInvoice user id dto draw).All BooksOp.leavesQuotes := by
  refine all_getInvoice trivial user id fun existing => ?_
  have hwrite : ∀ updates, (statement (.updateInvoice id existing.companyId updates)
      (getInvoice user id fun _ => .done)).All BooksOp.leavesQuotes := fun updates =>
    all_statement trivial (all_getInvoice trivial user id fun _ => trivial)
  dsimp only
  split
  · split
    · exact hwrite _
    · exact all_getInvoice trivial user id fun _ => hwrite _
  · split
    · trivial
    · split
      · exact hwrite _
      · exact all_getInvoice trivial user id fun _ => hwrite _

theorem Totalled.call {s : Books} (h : Totalled s) {call : BooksCall}
    (hkeeps : keepsTotals call s = true) : Totalled (booksSystem.alone call.handler s) := by
  cases call with
  | createQuote user dto draw => exact h.createQuote hkeeps
  | updateQuote user id dto draw => exact h.updateQuote hkeeps
  | convertQuoteToInvoice user id dto draw =>
    exact (convertQuoteToInvoice_leavesQuotes user id dto draw).alone
      (fun _ _ hinv hop => hinv.exec hop) h
  | updateInvoice user id dto draw =>
    exact (updateInvoice_leavesQuotes user id dto draw).alone (fun _ _ hinv hop => hinv.exec hop) h

def sampleDraw : Draw where
  id := "new"
  now := 1000
  year := 2026

def samplePatch (lines : LinesInput) : QuoteDto where
  text := fun _ => none
  taxRate := some 10
  lines := lines

def sampleInput : LinesInput :=
  .items [⟨some "Labour", 2, 50, true⟩]

def sampleUpdate (lines : LinesInput) : BooksCall :=
  .updateQuote (sampleActor "u1") "q1" (samplePatch lines) sampleDraw

theorem sampleBooks_totalled : Totalled sampleBooks := by
  refine ⟨?_, ?_⟩
  · rw [Distinct]
    decide
  · refine List.forall_mem_singleton.mpr ?_
    decide +kernel

end Runs
end FieldserviceIT.QuotesInvoices
