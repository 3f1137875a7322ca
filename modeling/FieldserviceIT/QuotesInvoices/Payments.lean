import FieldserviceIT.QuotesInvoices.Calls
import FieldserviceIT.QuotesInvoices.QuoteTotals

/-!
What an invoice says about money: `balanceDue`, `amountPaid` and the status. An update
sets the status it is given and derives the balance from it or from the payment, without
looking at the status the invoice has. Where the two agree the three columns do.
-/

namespace FieldserviceIT.QuotesInvoices

open Common Lib Admin

section Law

/-- `balanceDue = max(0, total - amountPaid)`, and `PAID` means that nothing is due of
something. -/
structure Balanced (row : Invoice) : Prop where
  due : money.read row.balanceDue =
    maxZero (money.read row.amounts.total - money.read row.amountPaid)
  paid : row.status ≠ .void → (row.status = .paid ↔
    0 < money.read row.amounts.total ∧ money.read row.balanceDue = 0)

structure Solvent (s : Books) : Prop where
  keys : Distinct (fun row : Invoice => row.id) s.invoices
  quotes : ∀ row ∈ s.quotes, 0 ≤ row.amounts.total.val
  invoices : ∀ row ∈ s.invoices, Balanced row

end Law

section Conditions

def statusAgrees (row : Invoice) (status : InvoiceStatus) : Bool :=
  let total := money.read row.amounts.total
  let amountPaid := money.read row.amountPaid
  match status with
  | .paid => 0 < total && total ≤ amountPaid
  | .void => total ≤ amountPaid
  | _ => total ≤ 0 || amountPaid < total

/-- A payment of something, not of a half cent, and, when it is not all, not all in
cents; a void invoice is paid only with a new status, nothing only on an unpaid one. -/
def paymentAgrees (row : Invoice) (status : Option InvoiceStatus) (paid : ℚ) : Bool :=
  let total := money.read row.amounts.total
  let reopens := status.isSome || row.status ≠ .void
  if total ≤ paid then 0 < total && reopens
  else
    !isHalf (paid * 100) && roundHalf (paid * 100) < row.amounts.total.val &&
      (if 0 < paid then reopens else status.getD row.status ≠ .paid)

def updateAgrees (row : Invoice) (dto : InvoiceDto) (status : Option InvoiceStatus) : Bool :=
  match dto.amountPaid with
  | none => status.all (statusAgrees row)
  | some amountPaid => paymentAgrees row status (maxZero amountPaid)

/-- The status an update asks for, if it asks for one; `none` is a refusal. -/
def InvoiceDto.requested (dto : InvoiceDto) : Option (Option InvoiceStatus) :=
  match dto.status with
  | none => some none
  | some status => (normalizeOption InvoiceStatus.name invoiceStatuses status).map some

def InvoiceDto.updates (dto : InvoiceDto) (row : Invoice) (status : Option InvoiceStatus)
    (now : Int) : InvoiceUpdates :=
  match dto.amountPaid with
  | none => dto.statusUpdates status now
  | some amountPaid =>
    (dto.statusUpdates status now).withPayment (maxZero amountPaid)
      (money.read row.amounts.total) now

/-- What a call has to be like for the three columns to stay in step: what it writes
agrees with the invoice, or is refused. -/
def keepsBalance (call : BooksCall) (s : Books) : Bool :=
  match call with
  | .updateInvoice user id dto draw =>
    (foundInvoice user id s).all fun row => dto.requested.all fun status =>
      ((dto.updates row status draw.now).apply row).isNone || updateAgrees row dto status
  | _ => true

end Conditions

section Rows

theorem balanced_iff {row : Invoice} : Balanced row ↔
    (row.balanceDue.val = if row.amounts.total.val ≤ row.amountPaid.val then 0
      else row.amounts.total.val - row.amountPaid.val) ∧
    (row.status ≠ .void →
      (row.status = .paid ↔ 0 < row.amounts.total.val ∧ row.balanceDue.val = 0)) := by
  have hscale : (money.scale : ℚ) = 100 := rfl
  have hpositive : ∀ v : Cents, 0 < money.read v ↔ 0 < v.val := by
    intro v
    rw [DecimalColumn.read, hscale, div_pos_iff_of_pos_right (by norm_num), Int.cast_pos]
  have hzero : ∀ v : Cents, money.read v = 0 ↔ v.val = 0 := by
    intro v
    rw [DecimalColumn.read, hscale, div_eq_zero_iff, Int.cast_eq_zero]
    norm_num
  have hdue : (money.read row.balanceDue =
      maxZero (money.read row.amounts.total - money.read row.amountPaid)) ↔
      row.balanceDue.val = if row.amounts.total.val ≤ row.amountPaid.val then 0
        else row.amounts.total.val - row.amountPaid.val := by
    by_cases hle : row.amounts.total.val ≤ row.amountPaid.val
    · have hread := DecimalColumn.read_le_read.mpr hle
      rw [maxZero, if_pos (by linarith), if_pos hle, hzero]
    · have hread : ¬ money.read row.amounts.total - money.read row.amountPaid ≤ 0 := by
        intro h
        exact hle (DecimalColumn.read_le_read.mp (by linarith))
      rw [maxZero, if_neg hread, if_neg hle, DecimalColumn.read, DecimalColumn.read,
        DecimalColumn.read, hscale, ← sub_div, div_left_inj' (by norm_num)]
      exact_mod_cast Iff.rfl
  constructor
  · rintro ⟨hd, hp⟩
    refine ⟨hdue.mp hd, fun hvoid => ?_⟩
    rw [← hpositive, ← hzero]
    exact hp hvoid
  · rintro ⟨hd, hp⟩
    refine ⟨hdue.mpr hd, fun hvoid => ?_⟩
    rw [hpositive, hzero]
    exact hp hvoid

variable {row row' : Invoice} {updates : InvoiceUpdates}

theorem InvoiceUpdates.apply_eq_some (h : updates.apply row = some row') :
    row'.id = row.id ∧ row'.companyId = row.companyId ∧ row'.amounts = row.amounts ∧
      row'.status = updates.status.getD row.status ∧
      (updates.amountPaid.map money.store).getD (some row.amountPaid) = some row'.amountPaid ∧
      (updates.balanceDue.map money.store).getD (some row.balanceDue) = some row'.balanceDue := by
  simp only [InvoiceUpdates.apply, Option.bind_eq_bind, Option.bind_eq_some_iff] at h
  obtain ⟨amountPaid, hpaid, balanceDue, hdue, dueAt, -, hrow⟩ := h
  split at hrow
  · obtain rfl := Option.some.inj hrow
    exact ⟨rfl, rfl, rfl, rfl, hpaid, hdue⟩
  · cases hrow

theorem Balanced.setStatus (h : Balanced row) {dto : InvoiceDto} {status : Option InvoiceStatus}
    {now : Int} (hagrees : status.all (statusAgrees row) = true)
    (happly : (dto.statusUpdates status now).apply row = some row') : Balanced row' := by
  rw [balanced_iff] at h ⊢
  obtain ⟨-, -, hamounts, hstatus, hpaid, hdue⟩ := InvoiceUpdates.apply_eq_some happly
  have hsame : row'.amountPaid = row.amountPaid := (Option.some.inj hpaid).symm
  have hle : money.read row.amounts.total ≤ money.read row.amountPaid ↔
      row.amounts.total.val ≤ row.amountPaid.val := DecimalColumn.read_le_read
  have hzero : money.read noCents = 0 := by
    norm_num [DecimalColumn.read, noCents]
  have hpositive : money.read row.amounts.total ≤ 0 ↔ row.amounts.total.val ≤ 0 := by
    rw [← hzero]
    exact DecimalColumn.read_le_read
  have hclears : money.store 0 = some noCents := by
    rw [← hzero, DecimalColumn.store_read]
  simp only [InvoiceDto.statusUpdates] at hstatus hdue
  rw [hamounts, hstatus, hsame]
  cases status with
  | none =>
    have hkept : row'.balanceDue = row.balanceDue := (Option.some.inj hdue).symm
    rw [hkept]
    exact h
  | some status =>
    rw [Option.all_some] at hagrees
    rw [Option.getD_some]
    have hcleared : status = .paid ∨ status = .void → row'.balanceDue = noCents := by
      intro hor
      have hset : (some status = some InvoiceStatus.paid ||
          some status = some InvoiceStatus.void : Bool) = true := by
        simpa using hor
      rw [if_pos hset] at hdue
      exact Option.some.inj (hdue.symm.trans hclears)
    have hkept : status ≠ .paid → status ≠ .void → row'.balanceDue = row.balanceDue := by
      intro hne hne'
      have hunset : ¬ (some status = some InvoiceStatus.paid ||
          some status = some InvoiceStatus.void : Bool) = true := by
        simp [hne, hne']
      rw [if_neg hunset] at hdue
      exact (Option.some.inj hdue).symm
    have hplain : status ≠ .paid → status ≠ .void →
        (money.read row.amounts.total ≤ 0 ||
          money.read row.amountPaid < money.read row.amounts.total : Bool) = true →
        (row'.balanceDue.val = if row.amounts.total.val ≤ row.amountPaid.val then 0
          else row.amounts.total.val - row.amountPaid.val) ∧
        (status ≠ .void →
          (status = .paid ↔ 0 < row.amounts.total.val ∧ row'.balanceDue.val = 0)) := by
      intro hne hne' hor
      rw [hkept hne hne']
      refine ⟨h.1, fun _ => ⟨fun heq => absurd heq hne, ?_⟩⟩
      rintro ⟨htotal, hbalance⟩
      have hdue' := h.1
      rw [Bool.or_eq_true, decide_eq_true_iff, decide_eq_true_iff, hpositive, ← not_le, hle]
        at hor
      split at hdue' <;> omega
    cases status with
    | paid =>
      rw [hcleared (.inl rfl)]
      simp only [statusAgrees, Bool.and_eq_true, decide_eq_true_iff, hle] at hagrees
      rw [← not_le, hpositive] at hagrees
      refine ⟨by rw [if_pos hagrees.2]; rfl, fun _ => ⟨fun _ => ⟨by omega, rfl⟩, fun _ => rfl⟩⟩
    | void =>
      rw [hcleared (.inr rfl)]
      simp only [statusAgrees, decide_eq_true_iff, hle] at hagrees
      exact ⟨by rw [if_pos hagrees]; rfl, fun hvoid => absurd rfl hvoid⟩
    | draft | sent | partlyPaid | overdue => exact hplain (by simp) (by simp) hagrees

theorem Balanced.pay {paid : ℚ} {now : Int} {status : Option InvoiceStatus}
    (hstatus : updates.status = status) (hpaid : 0 ≤ paid)
    (hagrees : paymentAgrees row status paid = true)
    (happly : (updates.withPayment paid (money.read row.amounts.total) now).apply row =
      some row') : Balanced row' := by
  have hscale : (money.scale : ℚ) = 100 := rfl
  obtain ⟨-, -, hamounts, hstatus', hpaid', hdue'⟩ := InvoiceUpdates.apply_eq_some happly
  simp only [InvoiceUpdates.withPayment, Option.map_some, Option.getD_some] at hstatus' hpaid' hdue'
  rw [DecimalColumn.store_eq_some, hscale] at hpaid' hdue'
  have htotal : money.read row.amounts.total * 100 = row.amounts.total.val :=
    DecimalColumn.read_mul_scale _
  rw [balanced_iff, hamounts]
  rw [paymentAgrees] at hagrees
  by_cases hall : money.read row.amounts.total ≤ paid
  · -- Everything is paid: the balance is zero and the status follows it.
    rw [if_pos hall, Bool.and_eq_true, decide_eq_true_iff] at hagrees
    have hzero : maxZero (money.read row.amounts.total - paid) = 0 := if_pos (by linarith)
    have hpositive : 0 < row.amounts.total.val := by
      have h : (0 : ℚ) < row.amounts.total.val := by linarith [hagrees.1]
      exact_mod_cast h
    have hcovers : row.amounts.total.val ≤ row'.amountPaid.val := by
      rw [← hpaid']
      exact le_roundHalf (Int.le_of_lt hpositive) (by linarith)
    have hnothing : row'.balanceDue.val = 0 := by
      have hround : roundHalf (0 : ℚ) = 0 := by decide +kernel
      rw [← hdue', hzero, zero_mul, hround]
    rw [hstatus', if_pos hzero, if_pos hcovers, hnothing]
    exact ⟨rfl, fun _ => ⟨fun _ => ⟨hpositive, rfl⟩, fun _ => rfl⟩⟩
  · -- Something stays due, and it is what the columns make of it.
    rw [if_neg hall] at hagrees
    simp only [Bool.and_eq_true, decide_eq_true_iff, Bool.not_eq_true'] at hagrees
    obtain ⟨⟨hhalf, hless⟩, hopen⟩ := hagrees
    have hmax : maxZero (money.read row.amounts.total - paid) =
        money.read row.amounts.total - paid := if_neg (by linarith)
    have hrest : money.read row.amounts.total - paid ≠ 0 := by
      intro h
      exact hall (by linarith)
    have hsub : row'.balanceDue.val = row.amounts.total.val - row'.amountPaid.val := by
      rw [← hdue', ← hpaid', hmax, sub_mul, htotal]
      exact roundHalf_sub (by linarith) hhalf
    rw [hpaid'] at hless
    rw [hstatus', hmax, if_neg hrest, if_neg (Int.not_le.mpr hless)]
    refine ⟨hsub, fun _ => ⟨fun heq => ?_, fun h => by omega⟩⟩
    split at heq
    · cases heq
    next hnone =>
      rw [if_neg hnone, ← hstatus, heq] at hopen
      exact absurd rfl (of_decide_eq_true hopen)

theorem Balanced.update (h : Balanced row) {dto : InvoiceDto} {status : Option InvoiceStatus}
    {now : Int} (hagrees : updateAgrees row dto status = true)
    (happly : (dto.updates row status now).apply row = some row') : Balanced row' := by
  rw [InvoiceDto.updates] at happly
  rw [updateAgrees] at hagrees
  cases hamount : dto.amountPaid with
  | none =>
    rw [hamount] at hagrees happly
    exact h.setStatus hagrees happly
  | some amountPaid =>
    rw [hamount] at hagrees happly
    exact Balanced.pay rfl (maxZero_nonneg amountPaid) hagrees happly

theorem void_of_update {dto : InvoiceDto} {now : Int}
    (hagrees : updateAgrees row dto none = true) (hvoid : row.status = .void)
    (happly : (dto.updates row none now).apply row = some row') : row'.status = .void := by
  obtain ⟨-, -, -, hstatus, -, -⟩ := InvoiceUpdates.apply_eq_some happly
  rw [InvoiceDto.updates] at hstatus
  rw [updateAgrees] at hagrees
  cases hamount : dto.amountPaid with
  | none =>
    rw [hamount] at hstatus
    rw [hstatus, InvoiceDto.statusUpdates, Option.getD_none, hvoid]
  | some amountPaid =>
    rw [hamount] at hstatus hagrees
    simp only [paymentAgrees] at hagrees
    split at hagrees
    · simp [hvoid] at hagrees
    next hall =>
      have hmax : ¬ maxZero (money.read row.amounts.total - maxZero amountPaid) = 0 := by
        intro h
        rw [maxZero, ite_eq_left_iff] at h
        have hle : money.read row.amounts.total - maxZero amountPaid ≤ 0 := by
          by_contra hlt
          exact hlt (le_of_eq (h hlt))
        exact hall (by linarith)
      simp only [Bool.and_eq_true] at hagrees
      obtain ⟨-, hopen⟩ := hagrees
      split at hopen
      · simp [hvoid] at hopen
      next hnone =>
        simp only [InvoiceUpdates.withPayment] at hstatus
        rw [hstatus, if_neg hmax, if_neg hnone, InvoiceDto.statusUpdates, Option.getD_none, hvoid]

end Rows

section Calls

variable {s : Books} {user : CurrentUser} {id : String} {dto : InvoiceDto} {draw : Draw}

theorem alone_updateInvoice : booksSystem.alone (updateInvoice user id dto draw) s =
    ((foundInvoice user id s).bind fun row => dto.requested.map fun status =>
      execBooks (.updateInvoice row.id row.companyId (dto.updates row status draw.now)) s).getD s := by
  rw [updateInvoice, alone_getInvoice]
  cases hfound : foundInvoice user id s with
  | none => rfl
  | some row =>
    obtain ⟨-, rfl⟩ := mem_of_foundInvoice hfound
    rw [Option.map_some, Option.getD_some, Option.bind_some, InvoiceDto.requested]
    have hwrite : ∀ updates, booksSystem.alone
        (statement (.updateInvoice row.id row.companyId updates)
          (getInvoice user row.id fun _ => .done)) s =
            execBooks (.updateInvoice row.id row.companyId updates) s := by
      intro updates
      rw [alone_statement, alone_getInvoice_done, execBooks]
    cases hamount : dto.amountPaid with
    | none =>
      cases dto.status with
      | none => simp only [hwrite, InvoiceDto.updates, hamount, Option.map_some, Option.getD_some]
      | some text =>
        cases hoption : normalizeOption InvoiceStatus.name invoiceStatuses text with
        | none =>
          simp only [hoption]
          rfl
        | some status =>
          simp only [hoption, hwrite, InvoiceDto.updates, hamount, Option.map_some, Option.getD_some]
    | some amountPaid =>
      cases dto.status with
      | none =>
        simp only [alone_getInvoice, hfound, hwrite, InvoiceDto.updates, hamount,
          Option.map_some, Option.getD_some, Amounts.read]
      | some text =>
        cases hoption : normalizeOption InvoiceStatus.name invoiceStatuses text with
        | none =>
          simp only [hoption]
          rfl
        | some status =>
          simp only [hoption, alone_getInvoice, hfound, hwrite, InvoiceDto.updates, hamount,
            Option.map_some, Option.getD_some, Amounts.read]

theorem mem_after_update (hkeys : Distinct (fun row : Invoice => row.id) s.invoices)
    {row : Invoice} (hrow : row ∈ s.invoices) {updates : InvoiceUpdates} {row' : Invoice}
    (hrow' : row' ∈ (execBooks (.updateInvoice row.id row.companyId updates) s).invoices) :
    row' ∈ s.invoices ∧ (row'.id ≠ row.id ∨ updates.apply row = none) ∨
      updates.apply row = some row' := by
  have hnamed : row.named row.id row.companyId = true := by
    simp [Invoice.named]
  cases hrefuses : refuses (.updateInvoice row.id row.companyId updates) s with
  | true =>
    rw [execBooks_of_refuses hrefuses] at hrow'
    obtain ⟨other, hother, hcondition⟩ := List.any_eq_true.mp hrefuses
    rw [Bool.and_eq_true, Option.isNone_iff_eq_none] at hcondition
    have hid : other.id = row.id := of_decide_eq_true (Bool.and_eq_true_iff.mp hcondition.1).1
    obtain rfl := hkeys.eq_of_key hother hrow hid
    exact .inl ⟨hrow', .inr hcondition.2⟩
  | false =>
    rw [execBooks_of_accepts hrefuses] at hrow'
    obtain ⟨other, hother, rfl⟩ := mem_updateWhere.mp hrow'
    by_cases hid : other.id = row.id
    · obtain rfl := hkeys.eq_of_key hother hrow hid
      have haccepts := List.any_eq_false.mp hrefuses other hother
      rw [hnamed, Bool.true_and, Option.isNone_iff_eq_none] at haccepts
      obtain ⟨row', happly⟩ := Option.ne_none_iff_exists'.mp haccepts
      rw [if_pos hnamed, happly]
      exact .inr rfl
    · have hother' : ¬ other.named row.id row.companyId = true := by
        simp [Invoice.named, hid]
      rw [if_neg hother']
      exact .inl ⟨hother, .inl hid⟩

theorem invoice_keys_update (hkeys : Distinct (fun row : Invoice => row.id) s.invoices)
    (id companyId : String) (updates : InvoiceUpdates) :
    Distinct (fun row : Invoice => row.id)
      (execBooks (.updateInvoice id companyId updates) s).invoices := by
  rw [execBooks]
  split
  · exact hkeys
  · refine hkeys.updateWhere fun row _ => ?_
    cases happly : updates.apply row with
    | none => rfl
    | some row' => exact (InvoiceUpdates.apply_eq_some happly).1

theorem Solvent.updateInvoice (h : Solvent s)
    (hkeeps : keepsBalance (.updateInvoice user id dto draw) s = true) :
    Solvent (booksSystem.alone (updateInvoice user id dto draw) s) := by
  rw [alone_updateInvoice]
  rw [keepsBalance] at hkeeps
  cases hfound : foundInvoice user id s with
  | none => exact h
  | some row =>
    obtain ⟨hrow, -⟩ := mem_of_foundInvoice hfound
    cases hrequested : dto.requested with
    | none => exact h
    | some status =>
      rw [hfound, hrequested, Option.all_some, Option.all_some] at hkeeps
      rw [Option.bind_some, Option.map_some, Option.getD_some]
      have hquotes : (execBooks (.updateInvoice row.id row.companyId
          (dto.updates row status draw.now)) s).quotes = s.quotes := by
        rw [execBooks]
        split <;> rfl
      refine ⟨invoice_keys_update h.keys _ _ _, hquotes ▸ h.quotes, fun row' hrow' => ?_⟩
      obtain ⟨hold, -⟩ | happly := mem_after_update h.keys hrow hrow'
      · exact h.invoices row' hold
      · rw [happly] at hkeeps
        exact (h.invoices row hrow).update hkeeps happly

theorem void_after_updateInvoice (h : Solvent s) (hstatus : dto.status = none)
    (hkeeps : keepsBalance (.updateInvoice user id dto draw) s = true) {row row' : Invoice}
    (hrow : row ∈ s.invoices) (hvoid : row.status = .void)
    (hrow' : row' ∈ (booksSystem.alone (updateInvoice user id dto draw) s).invoices)
    (hid : row'.id = row.id) : row'.status = .void := by
  rw [alone_updateInvoice] at hrow'
  rw [keepsBalance] at hkeeps
  have hsame : row' ∈ s.invoices → row'.status = .void := by
    intro hold
    rw [h.keys.eq_of_key hold hrow hid]
    exact hvoid
  have hrequested : dto.requested = some none := by
    rw [InvoiceDto.requested, hstatus]
  cases hfound : foundInvoice user id s with
  | none =>
    rw [hfound] at hrow'
    exact hsame hrow'
  | some found =>
    obtain ⟨hfound', -⟩ := mem_of_foundInvoice hfound
    rw [hfound, hrequested, Option.all_some, Option.all_some] at hkeeps
    rw [hfound, hrequested, Option.bind_some, Option.map_some, Option.getD_some] at hrow'
    obtain ⟨hold, -⟩ | happly := mem_after_update h.keys hfound' hrow'
    · exact hsame hold
    · have heq : found.id = row.id := (InvoiceUpdates.apply_eq_some happly).1.symm.trans hid
      obtain rfl := h.keys.eq_of_key hfound' hrow heq
      rw [happly] at hkeeps
      exact void_of_update hkeeps hvoid happly

end Calls

section Others

/-- Totals that are written are not negative, and a new invoice is due in full. -/
def BooksOp.solvent : BooksOp → Prop
  | .insertQuote values => 0 ≤ values.amounts.total
  | .updateQuote _ _ updates => ∀ totals ∈ updates.totals, 0 ≤ totals.total
  | .insertInvoice values => 0 ≤ values.amounts.total ∧ values.balanceDue = values.amounts.total
  | .updateInvoice _ _ _ => False
  | _ => True

variable {s : Books}

theorem total_updated {row row' : Quote} {updates : QuoteUpdates} (hrow : 0 ≤ row.amounts.total.val)
    (htotals : ∀ totals ∈ updates.totals, 0 ≤ totals.total)
    (happly : updates.apply row = some row') : 0 ≤ row'.amounts.total.val := by
  obtain ⟨-, hstore⟩ := QuoteUpdates.apply_eq_some happly
  obtain ⟨-, -, -, -, htotal⟩ := Amounts.store_eq_some.mp hstore
  refine DecimalColumn.val_nonneg_of_store ?_ htotal
  simp only [QuoteUpdates.amounts]
  cases hupdates : updates.totals with
  | none => exact DecimalColumn.read_nonneg hrow
  | some totals => exact htotals totals hupdates

theorem NewInvoice.row_eq_some {values : NewInvoice} {row : Invoice} (h : values.row = some row) :
    row.id = values.id ∧ row.companyId = values.companyId ∧
      row.quoteId = some values.quoteId ∧ row.status = .draft ∧ row.amountPaid = noCents ∧
      values.amounts.store = some row.amounts ∧
      money.store values.balanceDue = some row.balanceDue := by
  simp only [NewInvoice.row, Option.bind_eq_bind, Option.bind_eq_some_iff] at h
  obtain ⟨amounts, hamounts, balanceDue, hdue, dueAt, -, hrow⟩ := h
  split at hrow
  · obtain rfl := Option.some.inj hrow
    exact ⟨rfl, rfl, rfl, rfl, rfl, hamounts, hdue⟩
  · cases hrow

theorem balanced_inserted {values : NewInvoice} {row : Invoice} (htotal : 0 ≤ values.amounts.total)
    (hdue : values.balanceDue = values.amounts.total) (hrow : values.row = some row) :
    Balanced row := by
  obtain ⟨-, -, -, hstatus, hpaid, hamounts, hbalance⟩ := NewInvoice.row_eq_some hrow
  obtain ⟨-, -, -, -, hstored⟩ := Amounts.store_eq_some.mp hamounts
  have hsame : row.balanceDue = row.amounts.total := by
    rw [hdue, hstored] at hbalance
    exact (Option.some.inj hbalance).symm
  have hnonneg := DecimalColumn.val_nonneg_of_store htotal hstored
  have hnone : noCents.val = 0 := rfl
  rw [balanced_iff, hsame, hpaid, hstatus, hnone]
  refine ⟨by split <;> omega, fun _ => ⟨fun h => ?_, fun h => ?_⟩⟩
  · cases h
  · omega

theorem Solvent.exec (h : Solvent s) {op : BooksOp} (hop : op.solvent) : Solvent (execBooks op s) := by
  cases hrefuses : refuses op s with
  | true =>
    rw [execBooks_of_refuses hrefuses]
    exact h
  | false =>
    rw [execBooks_of_accepts hrefuses]
    cases op with
    | read | deleteQuoteLines _ | insertQuoteLine _ _ | deleteInvoiceLines _
      | insertInvoiceLine _ _ => exact ⟨h.keys, h.quotes, h.invoices⟩
    | insertQuote values =>
      refine ⟨h.keys, fun row hrow => ?_, h.invoices⟩
      obtain hrow | hrow := List.mem_append.mp hrow
      · exact h.quotes row hrow
      · obtain ⟨-, hstore⟩ := NewQuote.row_eq_some (Option.mem_toList.mp hrow)
        exact DecimalColumn.val_nonneg_of_store hop (Amounts.store_eq_some.mp hstore).2.2.2.2
    | updateQuote id companyId updates =>
      refine ⟨h.keys, forall_updateWhere h.quotes fun row _ _ hrow => ?_, h.invoices⟩
      cases happly : updates.apply row with
      | none => exact hrow
      | some row' => exact total_updated hrow hop happly
    | insertInvoice values =>
      simp only [refuses, Bool.or_eq_false_iff, Option.isNone_eq_false_iff,
        Option.isSome_iff_exists] at hrefuses
      obtain ⟨⟨row, hrow⟩, hfree⟩ := hrefuses
      have hinvoices : (perform (.insertInvoice values) s).invoices = s.invoices ++ [row] := by
        simp only [perform, hrow, Option.toList_some]
      refine ⟨?_, h.quotes, ?_⟩
      · rw [hinvoices]
        refine h.keys.append fun other hother heq => ?_
        have hclash := List.any_eq_false.mp hfree other hother
        simp [NewInvoice.clashes, heq, (NewInvoice.row_eq_some hrow).1] at hclash
      · rw [hinvoices]
        intro other hother
        obtain hother | hother := List.mem_append.mp hother
        · exact h.invoices other hother
        · obtain rfl := List.mem_singleton.mp hother
          exact balanced_inserted hop.1 hop.2 hrow
    | updateInvoice _ _ _ => exact absurd hop id
    | markConverted quoteId companyId invoiceId now =>
      exact ⟨h.keys, forall_updateWhere h.quotes fun _ _ _ hrow => hrow, h.invoices⟩

theorem round_nonneg {x : ℚ} (h : 0 ≤ x) : 0 ≤ round x := by
  have hepsilon : (0 : ℚ) ≤ epsilon := by norm_num [epsilon]
  have hfloor : (0 : Int) ≤ ((x + epsilon) * 100 + 1 / 2).floor := by
    rw [Rat.le_floor_iff]
    push_cast
    linarith
  rw [round]
  exact div_nonneg (by exact_mod_cast hfloor) (by norm_num)

theorem calculateTotals_total_nonneg (lines : List (Line ℚ)) (taxRate discountTotal : ℚ) :
    0 ≤ (calculateTotals lines taxRate discountTotal).total :=
  round_nonneg (maxZero_nonneg _)

theorem createQuote_solvent (user : CurrentUser) (dto : QuoteDto) (draw : Draw) :
    (createQuote user dto draw).All BooksOp.solvent := by
  rw [createQuote]
  split
  · trivial
  · split
    · trivial
    · split
      · trivial
      · refine Prog.all_step trivial fun s => ?_
        split
        · trivial
        · have hlast : (getQuote user draw.id fun _ _ => .done).All BooksOp.solvent :=
            all_getQuote trivial user _ fun _ _ => trivial
          refine all_statement (calculateTotals_total_nonneg _ _ _) (all_statement trivial ?_)
          exact all_insertQuoteLines hlast fun _ _ => trivial

theorem updateQuote_solvent (user : CurrentUser) (id : String) (dto : QuoteDto) (draw : Draw) :
    (updateQuote user id dto draw).All BooksOp.solvent := by
  refine all_getQuote trivial user id fun existing rows => ?_
  split
  · trivial
  · split
    · trivial
    next data _ =>
      have hdone : (getQuote user id fun _ _ => .done).All BooksOp.solvent :=
        all_getQuote trivial user id fun _ _ => trivial
      dsimp only
      split
      · split
        · trivial
        · refine all_statement trivial (all_insertQuoteLines (all_statement ?_ hdone)
            fun _ _ => trivial)
          intro totals htotals
          obtain rfl := Option.some.inj htotals
          exact calculateTotals_total_nonneg _ _ _
      · refine all_statement ?_ hdone
        intro totals htotals
        cases htotals

theorem Solvent.convert (h : Solvent s) (user : CurrentUser) (id : String) (dto : ConvertDto)
    (draw : Draw) : Solvent (booksSystem.alone (convertQuoteToInvoice user id dto draw) s) := by
  rw [convertQuoteToInvoice, alone_getQuote]
  cases hfound : foundQuote user id s with
  | none => exact h
  | some quote =>
    rw [Option.map_some, Option.getD_some]
    have htotal := DecimalColumn.read_nonneg (h.quotes quote (mem_of_foundQuote hfound).1)
    have hlast : (getInvoice user draw.id fun _ => .done).All BooksOp.solvent :=
      all_getInvoice trivial user _ fun _ => trivial
    suffices hall : Prog.All BooksOp.solvent _ from
      hall.alone (fun _ _ hinv hop => hinv.exec hop) h
    split
    · exact all_getInvoice trivial user _ fun _ => trivial
    · split
      · trivial
      · refine Prog.all_step trivial fun s' => all_statement ⟨htotal, rfl⟩ ?_
        exact all_statement trivial
          (all_insertInvoiceLines (all_statement trivial hlast) fun _ _ => trivial)

end Others

section Runs

theorem Solvent.call {s : Books} (h : Solvent s) {call : BooksCall}
    (hkeeps : keepsBalance call s = true) : Solvent (booksSystem.alone call.handler s) := by
  cases call with
  | createQuote user dto draw =>
    exact (createQuote_solvent user dto draw).alone (fun _ _ hinv hop => hinv.exec hop) h
  | updateQuote user id dto draw =>
    exact (updateQuote_solvent user id dto draw).alone (fun _ _ hinv hop => hinv.exec hop) h
  | convertQuoteToInvoice user id dto draw => exact h.convert user id dto draw
  | updateInvoice user id dto draw => exact h.updateInvoice hkeeps

theorem solvent_of_serial {s₀ s : Books}
    (hserial : booksSystem.Serial (fun call s => keepsBalance call s = true) s₀ s)
    (h₀ : Solvent s₀) : Solvent s :=
  System.keeps_serial (fun _ _ h _ hkeeps => h.call hkeeps) (fun _ h => h) hserial h₀

def sampleConvert : BooksCall :=
  .convertQuoteToInvoice (sampleActor "u1") "q1" ⟨none, none, none, .null⟩ sampleDraw

def samplePay (status : Option String) (amountPaid : Option ℚ) : BooksCall :=
  .updateInvoice (sampleActor "u1") "new" ⟨fun _ => none, status, amountPaid, none⟩ sampleDraw

theorem sampleBooks_solvent : Solvent sampleBooks := by
  refine ⟨?_, ?_, fun row hrow => absurd hrow List.not_mem_nil⟩
  · rw [Distinct]
    decide
  · refine List.forall_mem_singleton.mpr ?_
    decide

def sampleInvoiced : Books :=
  booksSystem.alone sampleConvert.handler sampleBooks

end Runs
end FieldserviceIT.QuotesInvoices
