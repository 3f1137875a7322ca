import FieldserviceIT.Lib.Addresses
import FieldserviceIT.Lib.Csv
import FieldserviceIT.Tickets.Export

/-!
Reading the ticket list back. Only the title and the resolution are written between quotes; the
nine other texts of a ticket come back exactly if none of them has a comma, a quote or a line
break. The two instants never have one.
-/

namespace FieldserviceIT.Tickets

open Common Database Sql Lib

section Values

def csvColumns : List String :=
  ["TicketNumber", "Title", "Status", "Priority", "Category", "ContactName", "ContactEmail",
    "ContactPhone", "CreatedBy", "AssignedTo", "CreatedAt", "ResolvedAt", "Resolution"]

def csvValues (t : TicketRecord) : List String :=
  [joinedText (t.row "ticketNumber"), orEmpty (t.row "title"), joinedText (t.row "status"),
    joinedText (t.row "priority"), orEmpty (t.row "category"), orEmpty (t.row "contactName"),
    orEmpty (t.row "contactEmail"), orEmpty (t.row "contactPhone"), fullName t.createdBy,
    fullName t.assignedTo, (isoOrEmpty (t.row "createdAt")).getD "",
    (isoOrEmpty (t.row "resolvedAt")).getD "", orEmpty (t.row "resolution")]

def unquotedTexts (t : TicketRecord) : List String :=
  [joinedText (t.row "ticketNumber"), joinedText (t.row "status"), joinedText (t.row "priority"),
    orEmpty (t.row "category"), orEmpty (t.row "contactName"), orEmpty (t.row "contactEmail"),
    orEmpty (t.row "contactPhone"), fullName t.createdBy, fullName t.assignedTo]

def isPlainText (text : String) : Bool :=
  text.toList.all Csv.isPlain

def readCsv (text : String) : Option (List (List String)) :=
  (Csv.readRecords text.toList).map fun records => records.map fun record => record.map String.ofList

end Values

section Lines

def unquotedCell (text : String) : Csv.Cell := ⟨text.toList, false⟩

def quotedCell (text : String) : Csv.Cell := ⟨text.toList, true⟩

def headerCells : List Csv.Cell :=
  csvColumns.map unquotedCell

def csvCells (t : TicketRecord) : List Csv.Cell :=
  [unquotedCell (joinedText (t.row "ticketNumber")), quotedCell (orEmpty (t.row "title")),
    unquotedCell (joinedText (t.row "status")), unquotedCell (joinedText (t.row "priority")),
    unquotedCell (orEmpty (t.row "category")), unquotedCell (orEmpty (t.row "contactName")),
    unquotedCell (orEmpty (t.row "contactEmail")), unquotedCell (orEmpty (t.row "contactPhone")),
    unquotedCell (fullName t.createdBy), unquotedCell (fullName t.assignedTo),
    unquotedCell ((isoOrEmpty (t.row "createdAt")).getD ""),
    unquotedCell ((isoOrEmpty (t.row "resolvedAt")).getD ""),
    quotedCell (orEmpty (t.row "resolution"))]

theorem written_quotedCell (text : String) : (quotedCell text).written =
    ("\"" ++ String.ofList (text.toList.flatMap fun c => if c = quoteMark then [c, c] else [c]) ++
      "\"").toList := by
  rw [String.toList_append, String.toList_append, String.toList_ofList, String.toList_ofList]
  rfl

theorem orEmpty_text (text : String) : orEmpty (some (.text text)) = text := by
  rw [orEmpty]
  split
  next => rfl
  next hfalse =>
    rw [isTruthy, Bool.not_eq_true, decide_eq_false_iff_not, not_not] at hfalse
    exact hfalse.symm

theorem written_of_quoted {value : Option Scalar} {text : String} (h : quoted value = some text) :
    text.toList = (quotedCell (orEmpty value)).written := by
  rw [written_quotedCell]
  cases value with
  | none =>
    cases h
    rfl
  | some value =>
    cases value with
    | text text =>
      rw [orEmpty_text]
      cases h
      rfl
    | number _ | instant _ | flag _ =>
      rw [quoted] at h
      · obtain ⟨hfalse, htext⟩ := Option.ite_none_left_eq_some.mp h
        rw [orEmpty, if_neg hfalse, ← Option.some.inj htext]
      · intro s hs
        cases hs

theorem toList_csvLine {t : TicketRecord} {line : String} (h : csvLine t = some line) :
    line.toList = Csv.writeRecord (csvCells t) := by
  rw [csvLine] at h
  simp only [Option.bind_eq_bind, Option.bind_eq_some_iff, Option.pure_def, Option.some.injEq] at h
  obtain ⟨title, htitle, createdAt, hcreated, resolvedAt, hresolved, resolution, hresolution, rfl⟩ := h
  rw [String.toList_intercalate, Csv.writeRecord, csvCells, hcreated, hresolved]
  simp only [List.map_cons, List.map_nil, ← written_of_quoted htitle,
    ← written_of_quoted hresolution, Option.getD_some]
  rfl

theorem toList_lines {tickets : List TicketRecord} {lines : List String}
    (h : tickets.mapM csvLine = some lines) :
    ("\n".intercalate lines).toList = Csv.writeRecords (tickets.map csvCells) := by
  rw [String.toList_intercalate, Csv.writeRecords, List.map_map]
  congr 1
  induction tickets generalizing lines with
  | nil =>
    cases h
    rfl
  | cons t tickets ih =>
    rw [List.mapM_cons] at h
    simp only [Option.bind_eq_bind, Option.bind_eq_some_iff, Option.pure_def, Option.some.injEq] at h
    obtain ⟨line, hline, lines', hlines, rfl⟩ := h
    rw [List.map_cons, List.map_cons, toList_csvLine hline, ih hlines]
    rfl

end Lines

section Instants

theorem isPlainText_append {text other : String} (h : isPlainText text = true)
    (hother : isPlainText other = true) : isPlainText (text ++ other) = true := by
  rw [isPlainText, String.toList_append, List.all_append, Bool.and_eq_true]
  exact ⟨h, hother⟩

theorem isPlain_of_isDigit {c : Char} (h : c.isDigit = true) : Csv.isPlain c = true := by
  rw [Csv.isPlain_iff]
  refine ⟨?_, ?_, ?_, ?_⟩
  all_goals
    rintro rfl
    revert h
    decide

theorem isPlainText_toString (n : Nat) : isPlainText (toString n) = true :=
  List.all_eq_true.mpr fun _ hc => isPlain_of_isDigit (Addresses.isDigit_of_mem_toString hc)

theorem isPlainText_padded (width n : Nat) : isPlainText (padded width n) = true := by
  refine isPlainText_append ?_ (isPlainText_toString n)
  rw [isPlainText, String.toList_ofList, List.all_replicate]
  simp [Csv.isPlain, Csv.quote]

theorem isPlainText_isoYear (year : Int) : isPlainText (isoYear year) = true := by
  rw [isoYear]
  split
  · exact isPlainText_padded _ _
  · split
    · exact isPlainText_append (by decide) (isPlainText_padded _ _)
    · exact isPlainText_append (by decide) (isPlainText_padded _ _)

theorem isPlainText_toISOString (milliseconds : Int) :
    isPlainText (toISOString milliseconds) = true := by
  have hmark : ∀ {text : String}, isPlainText text = true → ∀ {mark : String},
      isPlainText mark = true → ∀ width n, isPlainText (text ++ mark ++ padded width n) = true :=
    fun htext _ hmark _ _ =>
      isPlainText_append (isPlainText_append htext hmark) (isPlainText_padded _ _)
  have hdate := hmark (hmark (isPlainText_isoYear (civilDate (milliseconds / 86400000)).year)
    (show isPlainText "-" = true by decide) 2 (civilDate (milliseconds / 86400000)).month)
    (show isPlainText "-" = true by decide) 2 (civilDate (milliseconds / 86400000)).day
  exact isPlainText_append (hmark (hmark (hmark (hmark hdate (by decide) _ _) (by decide) _ _)
    (by decide) _ _) (by decide) _ _) (by decide)

theorem isPlainText_iso (value : Option Scalar) :
    isPlainText ((isoOrEmpty value).getD "") = true := by
  rw [isoOrEmpty.eq_def]
  split
  · rfl
  · exact isPlainText_toISOString _
  · rfl

end Instants

section Export

theorem unquoted_safe_iff {text : String} : (unquotedCell text).IsSafe ↔ isPlainText text = true := by
  rw [Csv.Cell.IsSafe, isPlainText, List.all_eq_true]
  exact or_iff_right Bool.false_ne_true

theorem quoted_safe (text : String) : (quotedCell text).IsSafe :=
  .inl rfl

theorem csvCells_safe_iff (t : TicketRecord) : (∀ cell ∈ csvCells t, cell.IsSafe) ↔
    ∀ text ∈ unquotedTexts t, isPlainText text = true := by
  simp only [csvCells, unquotedTexts, List.forall_mem_cons, unquoted_safe_iff, quoted_safe,
    isPlainText_iso, true_and]
  tauto

theorem headerCells_safe : ∀ cell ∈ headerCells, cell.IsSafe := by
  intro cell hcell
  obtain ⟨text, htext, rfl⟩ := List.mem_map.mp hcell
  have hall : ∀ text ∈ csvColumns, isPlainText text = true := by decide
  exact unquoted_safe_iff.mpr (hall text htext)

theorem ofList_values (records : List (List Csv.Cell)) :
    (records.map fun record => record.map Csv.Cell.value).map
        (fun record => record.map String.ofList) =
      records.map fun record => record.map fun cell => String.ofList cell.value := by
  rw [List.map_map]
  exact List.map_congr_left fun record _ => by
    rw [Function.comp_apply, List.map_map]
    rfl

theorem readCsv_eq_iff {text : String} {records : List (List Csv.Cell)} {values : List (List String)}
    (hvalues : values = records.map fun record => record.map fun cell => String.ofList cell.value) :
    readCsv text = some values ↔ Csv.readRecords text.toList =
      some (records.map fun record => record.map Csv.Cell.value) := by
  have hinj : Function.Injective fun records : List (List (List Char)) =>
      records.map fun record => record.map String.ofList :=
    List.map_injective_iff.mpr (List.map_injective_iff.mpr fun _ _ => String.ofList_inj.mp)
  rw [readCsv, hvalues, ← ofList_values]
  exact (Option.map_injective hinj).eq_iff' rfl

theorem values_eq (tickets : List TicketRecord) : csvColumns :: tickets.map csvValues =
    (headerCells :: tickets.map csvCells).map
      fun record => record.map fun cell => String.ofList cell.value := by
  have hback : ∀ texts : List String, texts.map (fun text => String.ofList text.toList) = texts :=
    fun texts => by simp only [String.ofList_toList, List.map_id']
  rw [List.map_cons, List.map_map]
  refine congrArg₂ List.cons ?_ (List.map_congr_left fun t _ => ?_)
  · rw [headerCells, List.map_map]
    exact (hback csvColumns).symm
  · exact (hback (csvValues t)).symm

theorem toList_csvHeader : csvHeader.toList = Csv.writeRecord headerCells ++ ['\n'] := by
  decide +kernel

theorem toList_csvOf {tickets : List TicketRecord} {text : String} (h : csvOf tickets = some text)
    (hsome : tickets ≠ []) :
    text.toList = Csv.writeRecords (headerCells :: tickets.map csvCells) := by
  obtain ⟨lines, hlines, rfl⟩ := Option.map_eq_some_iff.mp h
  cases tickets with
  | nil => exact absurd rfl hsome
  | cons t tickets =>
    rw [String.toList_append, toList_csvHeader, toList_lines hlines, List.map_cons,
      Csv.writeRecords_cons, Csv.writeRecords_cons, Csv.recordsTail, Csv.recordsTail,
      List.flatMap_cons, List.append_assoc]
    rfl

theorem readCsv_csvOf_cons_iff {tickets : List TicketRecord} {text : String}
    (h : csvOf tickets = some text) (hsome : tickets ≠ []) :
    readCsv text = some (csvColumns :: tickets.map csvValues) ↔
      ∀ t ∈ tickets, ∀ text ∈ unquotedTexts t, isPlainText text = true := by
  rw [readCsv_eq_iff (values_eq tickets), toList_csvOf h hsome, Csv.readRecords_writeRecords_iff]
  · rw [List.forall_mem_cons, and_iff_right headerCells_safe, List.forall_mem_map]
    exact forall₂_congr fun t _ => csvCells_safe_iff t
  · intro record hrecord
    obtain rfl | hrecord := List.mem_cons.mp hrecord
    · decide
    · obtain ⟨t, -, rfl⟩ := List.mem_map.mp hrecord
      exact Nat.le_add_left 2 11

/-- Reading the list back gives the columns and every ticket's values exactly if the nine texts
that are not quoted have no comma, quote or line break. -/
theorem readCsv_csvOf_iff {tickets : List TicketRecord} {text : String}
    (h : csvOf tickets = some text) :
    readCsv text = some (csvColumns :: tickets.map csvValues) ↔
      ∀ t ∈ tickets, ∀ text ∈ unquotedTexts t, isPlainText text = true := by
  cases tickets with
  | nil =>
    cases h
    have hlines : (csvHeader ++ "\n".intercalate []).toList = csvHeader.toList := by
      rw [String.intercalate_nil, String.append_empty]
    refine iff_of_true ?_ fun t ht => by cases ht
    rw [readCsv_eq_iff (values_eq [])]
    change Csv.readRecords (csvHeader ++ "\n".intercalate []).toList = _
    rw [hlines, toList_csvHeader]
    exact Csv.readRecords_line (List.cons_ne_nil _ _) headerCells_safe
  | cons t tickets => exact readCsv_csvOf_cons_iff h (List.cons_ne_nil _ _)

end Export

section Samples

def sampleText (entries : List (String × String)) : Row :=
  fun column => (entries.lookup column).map .text

def sampleExported (category : String) : TicketRecord where
  row := sampleText [("ticketNumber", "TKT-000001"), ("title", "Screen, \"black\""),
    ("status", "OPEN"), ("priority", "HIGH"), ("category", category)]
  createdBy := some (some (sampleText [("firstName", "Ann"), ("lastName", "Field")]))
  assignedTo := none
  resolvedBy := none
  asset := none
  sla := none
  timeline := none
  attachments := none
  dispatches := none

theorem csvOf_single {t : TicketRecord} {line : String} (h : csvLine t = some line) :
    csvOf [t] = some (csvHeader ++ "\n".intercalate [line]) := by
  rw [csvOf, List.mapM_cons, h, List.mapM_nil]
  rfl

theorem readCsv_csvOf_hardware : readCsv (csvHeader ++ "\n".intercalate
      ["TKT-000001,\"Screen, \"\"black\"\"\",OPEN,HIGH,Hardware,,,,Ann Field,,,,\"\""]) =
        some (csvColumns :: [sampleExported "Hardware"].map csvValues) ↔
      ∀ t ∈ [sampleExported "Hardware"], ∀ text ∈ unquotedTexts t, isPlainText text = true :=
  readCsv_csvOf_iff (csvOf_single (by decide))

/-- A category with a comma is read as two cells. -/
theorem category_shifts_columns : ¬ ∀ (tickets : List TicketRecord) (text : String),
    csvOf tickets = some text → readCsv text = some (csvColumns :: tickets.map csvValues) := by
  intro hall
  have hread := hall [sampleExported "Laptop, Screen"] _ rfl
  have hplain := (readCsv_csvOf_cons_iff rfl (List.cons_ne_nil _ _)).mp hread _ (.head _)
    "Laptop, Screen" (by decide)
  revert hplain
  decide

end Samples
end FieldserviceIT.Tickets
