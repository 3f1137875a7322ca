import Mathlib.Data.List.TakeWhile
import Mathlib.Tactic.Tauto

/-!
Records of cells as comma-separated text. A cell is written as it is, or between quotes with its
own quotes doubled. The reader is the strict one: it accepts a quote only where a quoted cell
begins or ends or where it is doubled. What was written is read back exactly if no cell without
quotes around it has a character that ends a cell or quotes one.
-/

namespace FieldserviceIT.Lib.Csv

section Reader

def quote : Char := Char.ofNat 34

def isPlain (c : Char) : Bool :=
  c ≠ quote && c ≠ ',' && c ≠ '\n' && c ≠ '\r'

/-- What a text says from some point on: the rest of the cell, the cells after it in its record,
and the records after that. -/
structure Reading where
  cell : List Char
  cells : List (List Char)
  records : List (List (List Char))
  deriving DecidableEq

namespace Reading

def ended : Reading := ⟨[], [], []⟩

def extended (c : Char) (r : Reading) : Reading :=
  { r with cell := c :: r.cell }

def nextCell (r : Reading) : Reading := ⟨[], r.cell :: r.cells, r.records⟩

def nextRecord (r : Reading) : Reading := ⟨[], [], (r.cell :: r.cells) :: r.records⟩

end Reading

/-- Where the reader is: before a cell, in one without quotes, in a quoted one, after a quote in a
quoted one, or after a carriage return. -/
inductive Place
  | before
  | inPlain
  | inQuoted
  | afterQuote
  | afterReturn

def read : Place → List Char → Option Reading
  | .inQuoted, [] => none
  | .afterReturn, [] => none
  | _, [] => some .ended
  | .inQuoted, c :: rest =>
    if c = quote then read .afterQuote rest else (read .inQuoted rest).map (.extended c)
  | .afterReturn, c :: rest =>
    if c ≠ '\n' then none
    else if rest = [] then some .ended else (read .before rest).map .nextRecord
  | place, c :: rest =>
    if c = ',' then (read .before rest).map .nextCell
    else if c = '\r' then read .afterReturn rest
    else if c = '\n' then
      if rest = [] then some .ended else (read .before rest).map .nextRecord
    else
      match place with
      | .before =>
        if c = quote then read .inQuoted rest else (read .inPlain rest).map (.extended c)
      | .inPlain => if c = quote then none else (read .inPlain rest).map (.extended c)
      | _ => if c = quote then (read .inQuoted rest).map (.extended c) else none

/-- The records of a text. A line break at its end begins no further record. -/
def readRecords (text : List Char) : Option (List (List (List Char))) :=
  if text = [] then some [] else (read .before text).map fun r => (r.cell :: r.cells) :: r.records

end Reader

section Writer

/-- A cell's text, and whether it is written between quotes. -/
structure Cell where
  value : List Char
  isQuoted : Bool

def escaped (value : List Char) : List Char :=
  value.flatMap fun c => if c = quote then [c, c] else [c]

def Cell.written (cell : Cell) : List Char :=
  if cell.isQuoted then quote :: (escaped cell.value ++ [quote]) else cell.value

def writeRecord (cells : List Cell) : List Char :=
  List.intercalate [','] (cells.map Cell.written)

def writeRecords (records : List (List Cell)) : List Char :=
  List.intercalate ['\n'] (records.map writeRecord)

def Cell.IsSafe (cell : Cell) : Prop :=
  cell.isQuoted = true ∨ ∀ c ∈ cell.value, isPlain c = true

end Writer

section OneCell

theorem isPlain_iff {c : Char} :
    isPlain c = true ↔ c ≠ quote ∧ c ≠ ',' ∧ c ≠ '\n' ∧ c ≠ '\r' := by
  simp [isPlain, and_assoc]

def Place.isOutside : Place → Bool
  | .before | .inPlain | .afterQuote => true
  | .inQuoted | .afterReturn => false

theorem read_doubled (rest : List Char) :
    read .afterQuote (quote :: rest) = (read .inQuoted rest).map (.extended quote) := rfl

theorem read_inQuoted (c : Char) (rest : List Char) : read .inQuoted (c :: rest) =
    if c = quote then read .afterQuote rest else (read .inQuoted rest).map (.extended c) := rfl

theorem read_comma (rest : List Char) :
    read .before (',' :: rest) = (read .before rest).map .nextCell := rfl

theorem read_line (rest : List Char) : read .before ('\n' :: rest) =
    if rest = [] then some .ended else (read .before rest).map .nextRecord := rfl

theorem read_return (c : Char) (rest : List Char) : read .before ('\r' :: c :: rest) =
    if c ≠ '\n' then none
    else if rest = [] then some .ended else (read .before rest).map .nextRecord := rfl

theorem quote_or_separator {c : Char} (h : ¬isPlain c = true) :
    c = quote ∨ c = ',' ∨ c = '\n' ∨ c = '\r' := by
  rw [isPlain_iff] at h
  tauto

def EndsCell (rest : List Char) : Prop :=
  ∀ c ∈ rest.head?, c = ',' ∨ c = '\n'

theorem read_ended {rest : List Char} (h : EndsCell rest) (place : Place)
    (hplace : place = .inPlain ∨ place = .afterQuote) : read place rest = read .before rest := by
  cases rest with
  | nil => rcases hplace with rfl | rfl <;> rfl
  | cons c rest =>
    obtain rfl | rfl := h c rfl
    all_goals rcases hplace with rfl | rfl <;> rfl

theorem cell_of_separator {c : Char} (hc : c = ',' ∨ c = '\n' ∨ c = '\r') {place : Place}
    (hplace : place.isOutside = true) {rest : List Char} {r : Reading}
    (hread : read place (c :: rest) = some r) : r.cell = [] := by
  have hline : ∀ {rest : List Char}, (if rest = [] then some Reading.ended else
      (read .before rest).map .nextRecord) = some r → r.cell = [] := by
    intro rest h
    split at h
    · cases h
      rfl
    · obtain ⟨r', -, rfl⟩ := Option.map_eq_some_iff.mp h
      rfl
  have hplaces : read place (c :: rest) = read .before (c :: rest) := by
    cases place with
    | before => rfl
    | inPlain | afterQuote => rcases hc with rfl | rfl | rfl <;> rfl
    | inQuoted | afterReturn => cases hplace
  rw [hplaces] at hread
  rcases hc with rfl | rfl | rfl
  · rw [read_comma, Option.map_eq_some_iff] at hread
    obtain ⟨r', -, rfl⟩ := hread
    rfl
  · rw [read_line] at hread
    exact hline hread
  · cases rest with
    | nil => cases hread
    | cons d rest =>
      rw [read_return] at hread
      split at hread
      · cases hread
      · exact hline hread

theorem cell_of_ended {rest : List Char} (h : EndsCell rest) {r : Reading}
    (hread : read .before rest = some r) : r.cell = [] := by
  cases rest with
  | nil =>
    cases hread
    rfl
  | cons c rest => exact cell_of_separator ((h c rfl).imp_right .inl) rfl hread

theorem read_plain_cons {c : Char} (h : isPlain c = true) (rest : List Char) (place : Place)
    (hplace : place = .before ∨ place = .inPlain) :
    read place (c :: rest) = (read .inPlain rest).map (.extended c) := by
  obtain ⟨hquote, hcomma, hline, hreturn⟩ := isPlain_iff.mp h
  rcases hplace with rfl | rfl
  · rw [read, if_neg hcomma, if_neg hreturn, if_neg hline, if_neg hquote]
  · rw [read, if_neg hcomma, if_neg hreturn, if_neg hline, if_neg hquote]

/-- The reading of a text in which a cell's rest is put before it. -/
def Reading.withCell (value : List Char) (r : Reading) : Reading :=
  { r with cell := value ++ r.cell }

theorem map_withCell_cons (c : Char) (value : List Char) (reading : Option Reading) :
    (reading.map (Reading.withCell value)).map (Reading.extended c) =
      reading.map (Reading.withCell (c :: value)) := by
  rw [Option.map_map]
  rfl

theorem read_plain {value : List Char} (h : ∀ c ∈ value, isPlain c = true) {rest : List Char}
    (hrest : EndsCell rest) (place : Place) (hplace : place = .before ∨ place = .inPlain) :
    read place (value ++ rest) = (read .before rest).map (.withCell value) := by
  induction value generalizing place with
  | nil =>
    have hsame : read place rest = read .before rest := by
      rcases hplace with rfl | rfl
      · rfl
      · exact read_ended hrest _ (.inl rfl)
    rw [List.nil_append, hsame]
    exact Option.map_id'.symm
  | cons c value ih =>
    have htail := ih (fun c hc => h c (.tail _ hc)) .inPlain (.inr rfl)
    rw [List.cons_append, read_plain_cons (h c (.head _)) _ _ hplace, htail, map_withCell_cons]

theorem read_quoted {value rest : List Char} (hrest : EndsCell rest) :
    read .inQuoted (escaped value ++ quote :: rest) = (read .before rest).map (.withCell value) := by
  induction value with
  | nil =>
    rw [escaped, List.flatMap_nil, List.nil_append, read_inQuoted, if_pos rfl,
      read_ended hrest _ (.inr rfl)]
    exact Option.map_id'.symm
  | cons c value ih =>
    rw [escaped, List.flatMap_cons, ← escaped, List.append_assoc]
    by_cases hc : c = quote
    · rw [if_pos hc, hc, List.cons_append, List.cons_append, List.nil_append, read_inQuoted,
        if_pos rfl, read_doubled, ih, map_withCell_cons]
    · rw [if_neg hc, List.singleton_append, read_inQuoted, if_neg hc, ih, map_withCell_cons]

theorem plain_of_read {value rest : List Char} {r : Reading}
    (hread : read .inPlain (value ++ rest) = some r) (hcell : r.cell = value) :
    ∀ c ∈ value, isPlain c = true := by
  induction value generalizing r with
  | nil => exact fun c hc => absurd hc List.not_mem_nil
  | cons c value ih =>
    by_cases hplain : isPlain c = true
    · rw [List.cons_append, read_plain_cons hplain _ _ (.inr rfl), Option.map_eq_some_iff] at hread
      obtain ⟨r', hread, rfl⟩ := hread
      exact List.forall_mem_cons.mpr ⟨hplain, ih hread (List.cons.inj hcell).2⟩
    · rw [List.cons_append] at hread
      obtain rfl | hseparator := quote_or_separator hplain
      · cases hread
      · rw [cell_of_separator hseparator rfl hread] at hcell
        cases hcell

theorem text_of_quoted (rest : List Char) :
    (∀ r, read .inQuoted rest = some r → ∃ after, rest = escaped r.cell ++ quote :: after) ∧
      ∀ r, read .afterQuote rest = some r →
        ∃ after, quote :: rest = escaped r.cell ++ quote :: after := by
  induction rest with
  | nil =>
    refine ⟨fun r hread => (by cases hread), fun r hread => ?_⟩
    cases hread
    exact ⟨[], rfl⟩
  | cons c rest ih =>
    obtain ⟨ihQuoted, ihAfter⟩ := ih
    constructor
    · intro r hread
      rw [read_inQuoted] at hread
      split at hread
      next hc => exact hc ▸ ihAfter r hread
      next hc =>
        obtain ⟨r', hread', rfl⟩ := Option.map_eq_some_iff.mp hread
        obtain ⟨after, rfl⟩ := ihQuoted r' hread'
        exact ⟨after, by simp [Reading.extended, escaped, hc]⟩
    · intro r hread
      by_cases hplain : isPlain c = true
      · obtain ⟨hquote, hcomma, hline, hreturn⟩ := isPlain_iff.mp hplain
        simp [read, hquote, hcomma, hline, hreturn] at hread
      · obtain rfl | hseparator := quote_or_separator hplain
        · rw [read_doubled] at hread
          obtain ⟨r', hread', rfl⟩ := Option.map_eq_some_iff.mp hread
          obtain ⟨after, rfl⟩ := ihQuoted r' hread'
          exact ⟨after, by simp [Reading.extended, escaped]⟩
        · rw [cell_of_separator hseparator rfl hread]
          exact ⟨c :: rest, rfl⟩

theorem escaped_replicate (n : Nat) (value : List Char) :
    escaped (List.replicate n quote ++ value) = List.replicate (2 * n) quote ++ escaped value := by
  induction n with
  | zero => rfl
  | succ n ih =>
    rw [List.replicate_succ, List.cons_append, escaped, List.flatMap_cons, ← escaped, ih,
      if_pos rfl, show 2 * (n + 1) = 2 * n + 1 + 1 by omega, List.replicate_succ,
      List.replicate_succ]
    rfl

theorem leading_quotes (value : List Char) :
    ∃ n tail, value = List.replicate n quote ++ tail ∧ ∀ c ∈ tail.head?, c ≠ quote := by
  induction value with
  | nil => exact ⟨0, [], rfl, fun c hc => by cases hc⟩
  | cons c value ih =>
    by_cases hc : c = quote
    · obtain ⟨n, tail, rfl, htail⟩ := ih
      exact ⟨n + 1, tail, by rw [hc, List.replicate_succ, List.cons_append], htail⟩
    · refine ⟨0, c :: value, rfl, fun d hd => ?_⟩
      cases hd
      exact hc

/-- A value that is written without quotes and begins with one is never read back: the reader
would need more quotes at its beginning than it has. -/
theorem not_read_quote {value rest : List Char} (hrest : EndsCell rest) {r : Reading}
    (hread : read .before (quote :: value ++ rest) = some r) : r.cell ≠ quote :: value := by
  intro hcell
  have hquoted : read .inQuoted (value ++ rest) = some r := hread
  obtain ⟨after, htext⟩ := (text_of_quoted _).1 r hquoted
  rw [hcell] at htext
  obtain ⟨n, tail, hvalue, htail⟩ := leading_quotes (quote :: value)
  have hwhole : quote :: value ++ rest = quote :: (escaped (quote :: value) ++ quote :: after) := by
    rw [List.cons_append, htext]
  rw [hvalue, escaped_replicate, List.append_assoc, List.append_assoc] at hwhole
  -- After its leading quotes the one text has another character, the other one has a quote.
  have hat := congrArg (fun text : List Char => text[n]?) hwhole
  have hleft : (List.replicate n quote ++ (tail ++ rest))[n]? = (tail ++ rest).head? := by
    rw [List.getElem?_append_right (by simp), List.length_replicate, Nat.sub_self,
      List.head?_eq_getElem?]
  have hright : (quote :: (List.replicate (2 * n) quote ++ (escaped tail ++ quote :: after)))[n]? =
      some quote := by
    rw [← List.cons_append, ← List.replicate_succ, List.getElem?_append_left (by simp; omega),
      List.getElem?_replicate, if_pos (by omega)]
  rw [hleft, hright] at hat
  cases tail with
  | nil =>
    obtain hc | hc := hrest quote hat
    · exact absurd hc (by decide)
    · exact absurd hc (by decide)
  | cons c tail => exact htail c rfl (Option.some.inj hat)

theorem plain_of_read_back {value rest : List Char} (hrest : EndsCell rest) {r : Reading}
    (hread : read .before (value ++ rest) = some r) (hcell : r.cell = value) :
    ∀ c ∈ value, isPlain c = true := by
  cases value with
  | nil => exact fun c hc => absurd hc List.not_mem_nil
  | cons c value =>
    by_cases hplain : isPlain c = true
    · rw [List.cons_append, read_plain_cons hplain _ _ (.inl rfl), Option.map_eq_some_iff] at hread
      obtain ⟨r', hread, rfl⟩ := hread
      exact List.forall_mem_cons.mpr ⟨hplain, plain_of_read hread (List.cons.inj hcell).2⟩
    · obtain rfl | hseparator := quote_or_separator hplain
      · exact absurd hcell (not_read_quote hrest hread)
      · rw [List.cons_append] at hread
        rw [cell_of_separator hseparator rfl hread] at hcell
        cases hcell

theorem read_cell_iff {cell : Cell} {rest : List Char} (hrest : EndsCell rest)
    {cells : List (List Char)} {records : List (List (List Char))} :
    read .before (cell.written ++ rest) = some ⟨cell.value, cells, records⟩ ↔
      cell.IsSafe ∧ read .before rest = some ⟨[], cells, records⟩ := by
  have hback : (read .before rest).map (Reading.withCell cell.value) =
        some ⟨cell.value, cells, records⟩ ↔
      read .before rest = some ⟨[], cells, records⟩ := by
    rw [Option.map_eq_some_iff]
    constructor
    · rintro ⟨r, hread, hr⟩
      have hempty := cell_of_ended hrest hread
      obtain ⟨cell', cells', records'⟩ := r
      cases hempty
      rw [Reading.withCell, List.append_nil] at hr
      cases hr
      exact hread
    · intro hread
      exact ⟨_, hread, by rw [Reading.withCell, List.append_nil]⟩
  obtain ⟨value, isQuoted⟩ := cell
  cases isQuoted with
  | true =>
    have hwritten : (Cell.written ⟨value, true⟩) ++ rest =
        quote :: (escaped value ++ quote :: rest) := by
      simp [Cell.written]
    have hread : read .before (quote :: (escaped value ++ quote :: rest)) =
        read .inQuoted (escaped value ++ quote :: rest) := rfl
    rw [hwritten, hread, read_quoted hrest, hback]
    exact (and_iff_right (.inl rfl)).symm
  | false =>
    have hwritten : Cell.written ⟨value, false⟩ = value := rfl
    rw [hwritten]
    constructor
    · intro hread
      have hplain := plain_of_read_back hrest hread rfl
      rw [read_plain hplain hrest _ (.inl rfl)] at hread
      exact ⟨.inr hplain, hback.mp hread⟩
    · rintro ⟨hsafe, hread⟩
      have hplain := hsafe.resolve_left Bool.false_ne_true
      rw [read_plain hplain hrest _ (.inl rfl)]
      exact hback.mpr hread

end OneCell

section Records

/-- The text of the cells after the first one of a record, and of what comes after the record. -/
def cellsTail (cells : List Cell) (rest : List Char) : List Char :=
  cells.foldr (fun cell text => ',' :: (cell.written ++ text)) rest

def recordsTail (records : List (List Cell)) : List Char :=
  records.flatMap fun record => '\n' :: writeRecord record

theorem writeRecord_cons (cell : Cell) (cells : List Cell) (rest : List Char) :
    writeRecord (cell :: cells) ++ rest = cell.written ++ cellsTail cells rest := by
  induction cells generalizing cell with
  | nil => simp [writeRecord, cellsTail]
  | cons next cells ih =>
    have hnext := ih next
    rw [writeRecord] at hnext
    rw [writeRecord, List.map_cons, List.map_cons, List.intercalate_cons_cons, ← List.map_cons,
      List.append_assoc, List.append_assoc, hnext]
    rfl

theorem writeRecords_cons (record : List Cell) (records : List (List Cell)) :
    writeRecords (record :: records) = writeRecord record ++ recordsTail records := by
  induction records generalizing record with
  | nil => simp [writeRecords, recordsTail]
  | cons next records ih =>
    have hnext := ih next
    rw [writeRecords] at hnext
    rw [writeRecords, List.map_cons, List.map_cons, List.intercalate_cons_cons, ← List.map_cons,
      List.append_assoc, hnext]
    rfl

theorem endsCell_cellsTail {cells : List Cell} {rest : List Char} (hrest : EndsCell rest) :
    EndsCell (cellsTail cells rest) := by
  cases cells with
  | nil => exact hrest
  | cons cell cells =>
    intro c hc
    cases hc
    exact .inl rfl

theorem endsCell_recordsTail (records : List (List Cell)) : EndsCell (recordsTail records) := by
  cases records with
  | nil => exact fun c hc => by cases hc
  | cons record records =>
    intro c hc
    cases hc
    exact .inr rfl

theorem read_cellsTail_iff {cells : List Cell} {rest : List Char} (hrest : EndsCell rest)
    {records : List (List (List Char))} :
    read .before (cellsTail cells rest) = some ⟨[], cells.map Cell.value, records⟩ ↔
      (∀ cell ∈ cells, cell.IsSafe) ∧ read .before rest = some ⟨[], [], records⟩ := by
  induction cells with
  | nil => exact (and_iff_right fun cell hcell => by cases hcell).symm
  | cons cell cells ih =>
    have hnext : read .before (cellsTail (cell :: cells) rest) =
        (read .before (cell.written ++ cellsTail cells rest)).map .nextCell := rfl
    have hcell := @read_cell_iff cell (cellsTail cells rest) (endsCell_cellsTail hrest)
      (cells.map Cell.value) records
    rw [List.forall_mem_cons, and_assoc, ← ih, ← hcell, hnext, List.map_cons,
      Option.map_eq_some_iff]
    constructor
    · rintro ⟨⟨value, values, records'⟩, hread, hr⟩
      cases hr
      exact hread
    · exact fun hread => ⟨_, hread, rfl⟩

theorem read_record_iff {record : List Cell} (hsome : record ≠ []) {rest : List Char}
    (hrest : EndsCell rest) {records : List (List (List Char))} :
    ((read .before (writeRecord record ++ rest)).map fun r => (r.cell :: r.cells, r.records)) =
        some (record.map Cell.value, records) ↔
      (∀ cell ∈ record, cell.IsSafe) ∧ read .before rest = some ⟨[], [], records⟩ := by
  cases record with
  | nil => exact absurd rfl hsome
  | cons cell cells =>
    have hcell := @read_cell_iff cell (cellsTail cells rest) (endsCell_cellsTail hrest)
      (cells.map Cell.value) records
    rw [List.forall_mem_cons, and_assoc, ← read_cellsTail_iff hrest, ← hcell, writeRecord_cons,
      Option.map_eq_some_iff]
    constructor
    · rintro ⟨⟨value, values, records'⟩, hread, hr⟩
      cases hr
      exact hread
    · exact fun hread => ⟨_, hread, rfl⟩

theorem writeRecord_ne_nil {record : List Cell} (h : 2 ≤ record.length) :
    writeRecord record ≠ [] := by
  obtain _ | ⟨cell, _ | ⟨next, cells⟩⟩ := record
  · cases h
  · exact absurd h (Nat.lt_irrefl 1)
  · have hwritten := writeRecord_cons cell (next :: cells) []
    rw [List.append_nil] at hwritten
    rw [hwritten]
    exact List.append_ne_nil_of_right_ne_nil _ (List.cons_ne_nil _ _)

theorem read_recordsTail_iff {records : List (List Cell)} (h : ∀ record ∈ records, 2 ≤ record.length) :
    read .before (recordsTail records) =
        some ⟨[], [], records.map fun record => record.map Cell.value⟩ ↔
      ∀ record ∈ records, ∀ cell ∈ record, cell.IsSafe := by
  induction records with
  | nil => exact iff_of_true rfl fun record hrecord => by cases hrecord
  | cons record records ih =>
    obtain ⟨hlength, htail⟩ := List.forall_mem_cons.mp h
    have hsome : writeRecord record ++ recordsTail records ≠ [] :=
      List.append_ne_nil_of_left_ne_nil (writeRecord_ne_nil hlength) _
    have hnext : read .before (recordsTail (record :: records)) =
        (read .before (writeRecord record ++ recordsTail records)).map .nextRecord := by
      rw [recordsTail, List.flatMap_cons, List.cons_append, read_line, ← recordsTail,
        if_neg hsome]
    have hne : record ≠ [] := List.ne_nil_of_length_pos (by omega)
    rw [List.forall_mem_cons, ← ih htail, ← read_record_iff hne (endsCell_recordsTail records),
      hnext, Option.map_eq_some_iff, Option.map_eq_some_iff]
    refine exists_congr fun r => and_congr_right fun _ => ?_
    simp only [Reading.nextRecord, List.map_cons, Reading.mk.injEq, List.cons.injEq,
      Prod.mk.injEq, true_and]

theorem readRecords_writeRecords_iff {records : List (List Cell)}
    (h : ∀ record ∈ records, 2 ≤ record.length) :
    readRecords (writeRecords records) = some (records.map fun record => record.map Cell.value) ↔
      ∀ record ∈ records, ∀ cell ∈ record, cell.IsSafe := by
  cases records with
  | nil => exact iff_of_true rfl fun record hrecord => by cases hrecord
  | cons record records =>
    obtain ⟨hlength, htail⟩ := List.forall_mem_cons.mp h
    have hsome : writeRecord record ++ recordsTail records ≠ [] :=
      List.append_ne_nil_of_left_ne_nil (writeRecord_ne_nil hlength) _
    have hne : record ≠ [] := List.ne_nil_of_length_pos (by omega)
    rw [List.forall_mem_cons, ← read_recordsTail_iff htail,
      ← read_record_iff hne (endsCell_recordsTail records), writeRecords_cons, readRecords,
      if_neg hsome, Option.map_eq_some_iff, Option.map_eq_some_iff]
    refine exists_congr fun r => and_congr_right fun _ => ?_
    simp only [List.map_cons, List.cons.injEq, Prod.mk.injEq]

theorem readRecords_line {record : List Cell} (hsome : record ≠ [])
    (hsafe : ∀ cell ∈ record, cell.IsSafe) :
    readRecords (writeRecord record ++ ['\n']) = some [record.map Cell.value] := by
  have hends : EndsCell ['\n'] := fun c hc => .inr (Option.some.inj hc).symm
  have hread := (read_record_iff hsome hends).mpr ⟨hsafe, rfl⟩
  obtain ⟨r, hread, hr⟩ := Option.map_eq_some_iff.mp hread
  rw [readRecords, if_neg (List.append_ne_nil_of_right_ne_nil _ (List.cons_ne_nil _ _)), hread,
    Option.map_some, (Prod.mk.inj hr).1, (Prod.mk.inj hr).2]

end Records
end FieldserviceIT.Lib.Csv
