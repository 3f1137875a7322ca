import FieldserviceIT.Common.WhiteSpace
import FieldserviceIT.Lib.Csv

/-!
The network devices as comma-separated text: the writer of the export and the reader of the
import. The reader walks over the characters with a field and a row under construction; a quote
anywhere turns quoting on or off. Texts are lists of characters.
-/

namespace FieldserviceIT.Network

open Common
open Lib.Csv (quote isPlain escaped isPlain_iff)

section Columns

inductive NetworkCsvColumn
  | name
  | manufacturer
  | model
  | serialNumber
  | location
  | ipAddress
  | macAddress
  | purchaseDate
  | warrantyExpiresAt
  | notes
  deriving DecidableEq

def NetworkCsvColumn.title : NetworkCsvColumn → String
  | .name => "name"
  | .manufacturer => "manufacturer"
  | .model => "model"
  | .serialNumber => "serialNumber"
  | .location => "location"
  | .ipAddress => "ipAddress"
  | .macAddress => "macAddress"
  | .purchaseDate => "purchaseDate"
  | .warrantyExpiresAt => "warrantyExpiresAt"
  | .notes => "notes"

def networkCsvColumns : List NetworkCsvColumn :=
  [.name, .manufacturer, .model, .serialNumber, .location, .ipAddress, .macAddress, .purchaseDate,
    .warrantyExpiresAt, .notes]

/-- A property of a device that is read: one of the columns, or what a look-up in the aliases
gives for a property that every object inherits. -/
inductive DeviceProperty
  | column (column : NetworkCsvColumn)
  | inherited
  deriving DecidableEq

def headerAliases : List (String × NetworkCsvColumn) :=
  [("name", .name), ("device", .name), ("hostname", .name), ("manufacturer", .manufacturer),
    ("vendor", .manufacturer), ("model", .model), ("serial", .serialNumber),
    ("serialnumber", .serialNumber), ("location", .location), ("site", .location),
    ("ip", .ipAddress), ("ipaddress", .ipAddress), ("mac", .macAddress),
    ("macaddress", .macAddress), ("purchasedate", .purchaseDate), ("purchase", .purchaseDate),
    ("warrantyexpiresat", .warrantyExpiresAt), ("warrantyexpiration", .warrantyExpiresAt),
    ("warrantyexpiry", .warrantyExpiresAt), ("notes", .notes)]

/-- `headerAliases[header]`; of the inherited properties only one is named in small letters. -/
def aliasOf (header : String) : Option DeviceProperty :=
  if header = "constructor" then some .inherited
  else (headerAliases.lookup header).map .column

/-- The letters and digits of the basic set in `toLowerCase` of a character; two others become
such a letter. -/
def loweredAlphanumerics (c : Char) : List Char :=
  if c.isDigit || c.isLower then [c]
  else if c.isUpper then [c.toLower]
  else if c.toNat = 0x212a then ['k']
  else if c.toNat = 0x130 then ['i']
  else []

/-- `header.replace(/^\uFEFF/, '').toLowerCase().replace(/[^a-z0-9]/g, '')` -/
def normalizedHeader (header : List Char) : String :=
  String.ofList (header.flatMap loweredAlphanumerics)

end Columns

section Rows

structure RowScan where
  rows : List (List (List Char))
  row : List (List Char)
  field : List Char
  quoted : Bool

def RowScan.started : RowScan := ⟨[], [], [], false⟩

def RowScan.append (s : RowScan) (c : Char) : RowScan :=
  { s with field := s.field ++ [c] }

def RowScan.endField (s : RowScan) : RowScan :=
  { s with
    row := s.row ++ [trim s.field]
    field := [] }

def RowScan.endRow (s : RowScan) : RowScan :=
  let row := s.row ++ [trim s.field]
  { s with
    rows := if row.any fun field => field ≠ [] then s.rows ++ [row] else s.rows
    row := []
    field := [] }

/-- What a character does, seen with the one after it, and whether that one is skipped. -/
def RowScan.step (s : RowScan) (char : Char) (next : Option Char) : RowScan × Bool :=
  if char = quote then
    if s.quoted && next = some quote then (s.append quote, true)
    else
      ({ s with quoted := !s.quoted }, false)
  else if char = ',' && !s.quoted then (s.endField, false)
  else if (char = '\n' || char = '\r') && !s.quoted then
    (s.endRow, char = '\r' && next = some '\n')
  else (s.append char, false)

def RowScan.run : Bool → RowScan → List Char → RowScan
  | _, s, [] => s
  | true, s, _ :: rest => RowScan.run false s rest
  | false, s, char :: rest =>
    let (s, skips) := s.step char rest.head?
    RowScan.run skips s rest

def parseRows (value : List Char) : List (List (List Char)) :=
  (RowScan.started.run false value).endRow.rows

end Rows

section Devices

/-- The properties of an object in the order in which they were set first. -/
abbrev DeviceRecord := List (DeviceProperty × List Char)

def DeviceRecord.set (record : DeviceRecord) (property : DeviceProperty) (value : List Char) :
    DeviceRecord :=
  if record.any fun entry => entry.1 = property then
    record.map fun entry => if entry.1 = property then (property, value) else entry
  else record ++ [(property, value)]

/-- What a header and its position set; a missing field of a row is as an empty one. -/
def setField (row : List (List Char)) (device : DeviceRecord)
    (header : Option DeviceProperty × Nat) : DeviceRecord :=
  match header.1, row[header.2]? with
  | some property, some value => if value ≠ [] then device.set property value else device
  | _, _ => device

def readDevice (headers : List (Option DeviceProperty)) (row : List (List Char)) : DeviceRecord :=
  headers.zipIdx.foldl (setField row) []

structure ParsedCsv where
  devices : List DeviceRecord
  errors : List String

/-- What is reported about the row of a device; `isDate` is whether `Date.parse` reads a text. -/
def deviceErrors (isDate : List Char → Bool) (number : Nat) (device : DeviceRecord) : List String :=
  let nameless := if (device.lookup (.column .name)).isNone then
    ["Row " ++ toString number ++ ": name is required."] else []
  nameless ++ [NetworkCsvColumn.purchaseDate, .warrantyExpiresAt].filterMap fun field =>
    match device.lookup (.column field) with
    | some value =>
      if isDate value then none
      else some ("Row " ++ toString number ++ ": " ++ field.title ++ " must be a valid date.")
    | none => none

def parseNetworkCsv (isDate : List Char → Bool) (value : List Char) : ParsedCsv :=
  match parseRows value with
  | [] | [_] => ⟨[], ["The CSV must include a header and at least one device row."]⟩
  | header :: rows =>
    let headers := header.map fun text => aliasOf (normalizedHeader text)
    if !headers.contains (some (.column .name)) then
      ⟨[], ["The CSV needs a name, device, or hostname column."]⟩
    else
      let devices := rows.map (readDevice headers)
      { devices := devices.filter fun device => (device.lookup (.column .name)).isSome
        errors := devices.zipIdx.flatMap fun entry => deviceErrors isDate (entry.2 + 2) entry.1 }

end Devices

section Export

/-- The columns of a device, as far as they are there. -/
abbrev NetworkDevice := NetworkCsvColumn → Option (List Char)

def csvValue (value : Option (List Char)) : List Char :=
  let text := value.getD []
  if text.any fun c => !isPlain c then quote :: (escaped text ++ [quote]) else text

def networkDevicesToCsv (devices : List NetworkDevice) : List Char :=
  let header := List.intercalate [','] (networkCsvColumns.map fun column => column.title.toList)
  let rows := devices.map fun device =>
    List.intercalate [','] (networkCsvColumns.map fun column => csvValue (device column))
  List.intercalate ['\r', '\n'] (header :: rows) ++ ['\r', '\n']

end Export

/-!
What the import reads of the export. Between two characters the reader's state says which fields
and rows are complete; a written field, a row and the whole text each take it one such step
further.
-/

section Scan

theorem run_cons (s : RowScan) (char : Char) (rest : List Char) :
    RowScan.run false s (char :: rest) =
      RowScan.run (s.step char rest.head?).2 (s.step char rest.head?).1 rest := rfl

theorem run_skip (s : RowScan) (char : Char) (rest : List Char) :
    RowScan.run true s (char :: rest) = RowScan.run false s rest := rfl

theorem step_plain {s : RowScan} {c : Char} (h : isPlain c = true) (next : Option Char) :
    s.step c next = (s.append c, false) := by
  obtain ⟨hquote, hcomma, hline, hreturn⟩ := isPlain_iff.mp h
  simp [RowScan.step, hquote, hcomma, hline, hreturn]

theorem step_quoted {s : RowScan} (hs : s.quoted = true) {c : Char} (hc : c ≠ quote)
    (next : Option Char) : s.step c next = (s.append c, false) := by
  simp [RowScan.step, hs, hc]

theorem step_doubled {s : RowScan} (hs : s.quoted = true) :
    s.step quote (some quote) = (s.append quote, true) := by
  simp [RowScan.step, hs]

theorem step_open {s : RowScan} (hs : s.quoted = false) (next : Option Char) :
    s.step quote next = ({ s with quoted := true }, false) := by
  simp [RowScan.step, hs]

theorem step_close {s : RowScan} (hs : s.quoted = true) {next : Option Char}
    (hnext : next ≠ some quote) : s.step quote next = ({ s with quoted := false }, false) := by
  simp [RowScan.step, hs, hnext]

theorem step_comma {s : RowScan} (hs : s.quoted = false) (next : Option Char) :
    s.step ',' next = (s.endField, false) := by
  simp [RowScan.step, hs, quote]

theorem step_return {s : RowScan} (hs : s.quoted = false) :
    s.step '\r' (some '\n') = (s.endRow, true) := by
  simp [RowScan.step, hs, quote]

def RowScan.appended (s : RowScan) (text : List Char) : RowScan :=
  { s with field := s.field ++ text }

theorem appended_nil (s : RowScan) : s.appended [] = s := by
  rw [RowScan.appended, List.append_nil]

theorem append_appended (s : RowScan) (c : Char) (text : List Char) :
    (s.append c).appended text = s.appended (c :: text) := by
  rw [RowScan.append, RowScan.appended, RowScan.appended, List.append_assoc]
  rfl

theorem run_plain {text : List Char} (h : ∀ c ∈ text, isPlain c = true) (s : RowScan)
    (rest : List Char) : RowScan.run false s (text ++ rest) = (s.appended text).run false rest := by
  induction text generalizing s with
  | nil => rw [appended_nil, List.nil_append]
  | cons c text ih =>
    rw [List.cons_append, run_cons, step_plain (h c (.head _)),
      ih (fun c hc => h c (.tail _ hc)), append_appended]

theorem run_quoted (text : List Char) {s : RowScan} (hs : s.quoted = true) {rest : List Char}
    (hrest : rest.head? ≠ some quote) : RowScan.run false s (escaped text ++ quote :: rest) =
      ({ s.appended text with quoted := false } : RowScan).run false rest := by
  induction text generalizing s with
  | nil =>
    rw [appended_nil]
    change RowScan.run false s (quote :: rest) = _
    rw [run_cons, step_close hs hrest]
  | cons c text ih =>
    have htail := @ih (s.append c) hs
    rw [append_appended] at htail
    rw [escaped, List.flatMap_cons, ← escaped, List.append_assoc]
    by_cases hc : c = quote
    · subst hc
      rw [if_pos rfl, List.cons_append, List.cons_append, List.nil_append, run_cons,
        List.head?_cons, step_doubled hs, run_skip, htail]
    · rw [if_neg hc, List.singleton_append, run_cons, step_quoted hs hc, htail]

theorem run_csvValue (value : Option (List Char)) {s : RowScan} (hs : s.quoted = false)
    {rest : List Char} (hrest : rest.head? ≠ some quote) :
    RowScan.run false s (csvValue value ++ rest) = (s.appended (value.getD [])).run false rest := by
  rw [csvValue]
  split
  next hneeded =>
    have hopen : ({ s with quoted := true } : RowScan).quoted = true := rfl
    rw [List.cons_append, run_cons, step_open hs, List.append_assoc, List.singleton_append,
      run_quoted _ hopen hrest]
    rw [RowScan.appended, RowScan.appended, ← hs]
  next hplain =>
    have hall : ∀ c ∈ value.getD [], isPlain c = true := by
      simpa using hplain
    rw [run_plain hall]

end Scan

section WrittenRows

def RowScan.between (rows : List (List (List Char))) : RowScan := ⟨rows, [], [], false⟩

def columnValues (device : NetworkDevice) : List (List Char) :=
  networkCsvColumns.map fun column => (device column).getD []

def fieldsTail (values : List (Option (List Char))) (rest : List Char) : List Char :=
  values.foldr (fun value text => ',' :: (csvValue value ++ text)) ('\r' :: '\n' :: rest)

theorem intercalate_csvValues (value : Option (List Char)) (values : List (Option (List Char)))
    (rest : List Char) : List.intercalate [','] ((value :: values).map csvValue) ++
      '\r' :: '\n' :: rest = csvValue value ++ fieldsTail values rest := by
  induction values generalizing value with
  | nil => simp [fieldsTail]
  | cons next values ih =>
    rw [List.map_cons, List.map_cons, List.intercalate_cons_cons, ← List.map_cons,
      List.append_assoc, List.append_assoc, ih next]
    rfl

theorem head_fieldsTail (values : List (Option (List Char))) (rest : List Char) :
    (fieldsTail values rest).head? ≠ some quote := by
  cases values with
  | nil => simp [fieldsTail, quote]
  | cons value values => simp [fieldsTail, quote]

theorem run_fieldsTail (values : List (Option (List Char)))
    (htrimmed : ∀ value ∈ values, IsTrimmed (value.getD [])) {s : RowScan} (hs : s.quoted = false)
    (rest : List Char) : RowScan.run false s (fieldsTail values rest) =
      RowScan.run false ({ s with
        rows := if (s.row ++ trim s.field :: values.map fun value => value.getD []).any
            (fun field => field ≠ []) then
          s.rows ++ [s.row ++ trim s.field :: values.map fun value => value.getD []] else s.rows
        row := []
        field := [] } : RowScan) rest := by
  induction values generalizing s with
  | nil =>
    change RowScan.run false s ('\r' :: '\n' :: rest) = _
    rw [run_cons, List.head?_cons, step_return hs, run_skip]
    rfl
  | cons value values ih =>
    change RowScan.run false s (',' :: (csvValue value ++ fieldsTail values rest)) = _
    obtain ⟨hvalue, hvalues⟩ := List.forall_mem_cons.mp htrimmed
    have hended : s.endField.quoted = false := hs
    have hnext := @ih hvalues (s.endField.appended (value.getD [])) hs
    rw [run_cons, step_comma hs, run_csvValue value hended (head_fieldsTail _ _), hnext]
    have hfield : trim (s.endField.appended (value.getD [])).field = value.getD [] :=
      trim_eq_self hvalue
    rw [hfield]
    simp [RowScan.appended, RowScan.endField]

theorem run_row (rows : List (List (List Char))) {values : List (Option (List Char))}
    (htrimmed : ∀ value ∈ values, IsTrimmed (value.getD []))
    (hsome : ∃ value ∈ values, value.getD [] ≠ []) (rest : List Char) :
    RowScan.run false (.between rows)
        (List.intercalate [','] (values.map csvValue) ++ '\r' :: '\n' :: rest) =
      RowScan.run false (.between (rows ++ [values.map fun value => value.getD []])) rest := by
  cases values with
  | nil =>
    obtain ⟨value, hvalue, -⟩ := hsome
    cases hvalue
  | cons value values =>
    obtain ⟨hvalue, hvalues⟩ := List.forall_mem_cons.mp htrimmed
    have hrow : ([] ++ trim ((RowScan.between rows).appended (value.getD [])).field ::
        values.map fun value => value.getD []) =
          (value :: values).map fun value => value.getD [] := by
      rw [List.nil_append, List.map_cons]
      exact congrArg (· :: _) (trim_eq_self hvalue)
    have hany : ((value :: values).map fun value => value.getD []).any
        (fun field => field ≠ []) = true := by
      obtain ⟨value', hvalue', hne⟩ := hsome
      exact List.any_eq_true.mpr ⟨_, List.mem_map_of_mem hvalue', decide_eq_true hne⟩
    rw [intercalate_csvValues, run_csvValue value rfl (head_fieldsTail _ _),
      run_fieldsTail values hvalues rfl]
    change RowScan.run false ⟨if ([] ++ trim ((RowScan.between rows).appended _).field :: _).any _
      then rows ++ [[] ++ trim ((RowScan.between rows).appended _).field :: _] else rows, [], [],
        false⟩ rest = _
    rw [hrow, hany, if_pos rfl]
    rfl

theorem run_rows {lines : List (List (Option (List Char)))}
    (htrimmed : ∀ values ∈ lines, ∀ value ∈ values, IsTrimmed (value.getD []))
    (hsome : ∀ values ∈ lines, ∃ value ∈ values, value.getD [] ≠ [])
    (rows : List (List (List Char))) : RowScan.run false (.between rows)
        (lines.flatMap fun values =>
          List.intercalate [','] (values.map csvValue) ++ ['\r', '\n']) =
      .between (rows ++ lines.map fun values => values.map fun value => value.getD []) := by
  induction lines generalizing rows with
  | nil =>
    rw [List.map_nil, List.append_nil]
    rfl
  | cons values lines ih =>
    obtain ⟨hvalues, hlines⟩ := List.forall_mem_cons.mp htrimmed
    obtain ⟨hfirst, hrest⟩ := List.forall_mem_cons.mp hsome
    have hline := run_row rows hvalues hfirst (lines.flatMap fun values =>
      List.intercalate [','] (values.map csvValue) ++ ['\r', '\n'])
    rw [List.flatMap_cons, List.append_assoc, List.cons_append, List.cons_append,
      List.nil_append, hline, ih hlines hrest, List.append_assoc]
    rfl

theorem intercalate_lines (line : List Char) (lines : List (List Char)) :
    List.intercalate ['\r', '\n'] (line :: lines) ++ ['\r', '\n'] =
      (line :: lines).flatMap fun line => line ++ ['\r', '\n'] := by
  induction lines generalizing line with
  | nil => simp
  | cons next lines ih =>
    rw [List.intercalate_cons_cons, List.append_assoc, List.append_assoc, ih next,
      List.flatMap_cons, List.flatMap_cons, List.flatMap_cons, List.append_assoc,
      List.append_assoc]

def headerValues : List (Option (List Char)) :=
  networkCsvColumns.map fun column => some column.title.toList

theorem parseRows_networkDevicesToCsv {devices : List NetworkDevice}
    (htrimmed : ∀ device ∈ devices, ∀ column, IsTrimmed ((device column).getD []))
    (hname : ∀ device ∈ devices, (device .name).getD [] ≠ []) :
    parseRows (networkDevicesToCsv devices) =
      (networkCsvColumns.map fun column => column.title.toList) :: devices.map columnValues := by
  have htext : networkDevicesToCsv devices =
      (headerValues :: devices.map fun device => networkCsvColumns.map device).flatMap fun values =>
        List.intercalate [','] (values.map csvValue) ++ ['\r', '\n'] := by
    rw [networkDevicesToCsv, intercalate_lines, List.flatMap_cons, List.flatMap_cons,
      List.flatMap_map, List.flatMap_map]
    refine congrArg₂ (· ++ ·) (by decide) ?_
    refine List.flatMap_congr fun device _ => ?_
    rw [List.map_map]
    rfl
  have htrimmed' : ∀ values ∈ headerValues :: devices.map fun device => networkCsvColumns.map device,
      ∀ value ∈ values, IsTrimmed (value.getD []) := by
    refine List.forall_mem_cons.mpr ⟨by decide +kernel, List.forall_mem_map.mpr fun device hdevice => ?_⟩
    exact List.forall_mem_map.mpr fun column _ => htrimmed device hdevice column
  have hsome : ∀ values ∈ headerValues :: devices.map fun device => networkCsvColumns.map device,
      ∃ value ∈ values, value.getD [] ≠ [] := by
    refine List.forall_mem_cons.mpr ⟨by decide, List.forall_mem_map.mpr fun device hdevice => ?_⟩
    exact ⟨device .name, List.mem_cons_self, hname device hdevice⟩
  rw [parseRows, htext]
  change (RowScan.run false (.between []) _).endRow.rows = _
  rw [run_rows htrimmed' hsome, List.nil_append, List.map_cons, List.map_map]
  refine congrArg₂ List.cons ?_ (List.map_congr_left fun device _ => ?_)
  · rfl
  · rw [Function.comp_apply, List.map_map]
    rfl

end WrittenRows

section Devices

def valuedColumns (device : NetworkDevice) (columns : List NetworkCsvColumn) : DeviceRecord :=
  columns.filterMap fun column =>
    match device column with
    | some value => if value ≠ [] then some (.column column, value) else none
    | none => none

theorem set_new {record : DeviceRecord} {property : DeviceProperty}
    (h : ∀ entry ∈ record, entry.1 ≠ property) (value : List Char) :
    record.set property value = record ++ [(property, value)] := by
  rw [DeviceRecord.set, if_neg]
  rw [List.any_eq_true]
  rintro ⟨entry, hentry, heq⟩
  exact h entry hentry (of_decide_eq_true heq)

theorem setField_some {row : List (List Char)} {k : Nat} {value : List Char}
    (h : row[k]? = some value) (device : DeviceRecord) (property : DeviceProperty) :
    setField row device (some property, k) =
      if value ≠ [] then device.set property value else device := by
  rw [setField]
  dsimp only
  rw [h]

theorem valuedColumns_empty {device : NetworkDevice} {column : NetworkCsvColumn}
    (h : (device column).getD [] = []) (columns : List NetworkCsvColumn) :
    valuedColumns device (column :: columns) = valuedColumns device columns := by
  refine List.filterMap_cons_none ?_
  cases hcolumn : device column with
  | none => rfl
  | some value =>
    rw [hcolumn, Option.getD_some] at h
    rw [h]
    rfl

theorem valuedColumns_some {device : NetworkDevice} {column : NetworkCsvColumn}
    (h : (device column).getD [] ≠ []) (columns : List NetworkCsvColumn) :
    valuedColumns device (column :: columns) =
      (.column column, (device column).getD []) :: valuedColumns device columns := by
  refine List.filterMap_cons_some ?_
  cases hcolumn : device column with
  | none =>
    rw [hcolumn] at h
    exact absurd rfl h
  | some value =>
    rw [hcolumn, Option.getD_some] at h
    exact if_pos h

theorem foldl_setField (device : NetworkDevice) (row : List (List Char))
    (columns : List NetworkCsvColumn) (hnodup : columns.Nodup) (k : Nat)
    (hrow : ∀ i column, columns[i]? = some column → row[k + i]? = some ((device column).getD []))
    (record : DeviceRecord)
    (hnew : ∀ entry ∈ record, ∀ column ∈ columns, entry.1 ≠ .column column) :
    ((columns.map fun column => some (DeviceProperty.column column)).zipIdx k).foldl
        (setField row) record = record ++ valuedColumns device columns := by
  induction columns generalizing k record with
  | nil => exact (List.append_nil _).symm
  | cons column columns ih =>
    obtain ⟨hfirst, hrest⟩ := List.nodup_cons.mp hnodup
    have hvalue : row[k]? = some ((device column).getD []) := hrow 0 column rfl
    have htail : ∀ i column, columns[i]? = some column →
        row[k + 1 + i]? = some ((device column).getD []) := by
      intro i column hcolumn
      rw [Nat.add_assoc, Nat.add_comm 1 i]
      exact hrow (i + 1) column hcolumn
    rw [List.map_cons, List.zipIdx_cons, List.foldl_cons, setField_some hvalue]
    by_cases hempty : (device column).getD [] = []
    · rw [if_neg (not_not.mpr hempty), valuedColumns_empty hempty]
      exact ih hrest (k + 1) htail record fun entry hentry column hcolumn =>
        hnew entry hentry column (.tail _ hcolumn)
    · have hset := set_new (fun entry hentry => hnew entry hentry column (.head _))
        ((device column).getD [])
      have hnew' : ∀ entry ∈ record ++ [(DeviceProperty.column column, (device column).getD [])],
          ∀ column ∈ columns, entry.1 ≠ .column column := by
        intro entry hentry column' hcolumn'
        obtain hentry | hentry := List.mem_append.mp hentry
        · exact hnew entry hentry column' (.tail _ hcolumn')
        · rw [List.mem_singleton.mp hentry]
          rintro heq
          cases heq
          exact hfirst hcolumn'
      rw [if_pos hempty, hset, ih hrest (k + 1) htail _ hnew', valuedColumns_some hempty,
        List.append_assoc, List.singleton_append]

theorem readDevice_columnValues (device : NetworkDevice) :
    readDevice (networkCsvColumns.map fun column => some (DeviceProperty.column column))
        (columnValues device) = valuedColumns device networkCsvColumns := by
  refine (foldl_setField device _ _ (by decide) 0 (fun i column hcolumn => ?_) []
    fun entry hentry => by cases hentry).trans (List.nil_append _)
  rw [Nat.zero_add, columnValues, List.getElem?_map, hcolumn, Option.map_some]

theorem headers_of_titles :
    (networkCsvColumns.map fun column => column.title.toList).map
        (fun text => aliasOf (normalizedHeader text)) =
      networkCsvColumns.map fun column => some (DeviceProperty.column column) := by
  decide

/-- The import reads of an export one record a device, in the order of the devices, with the
columns of the device that have a value. -/
theorem parseNetworkCsv_networkDevicesToCsv (isDate : List Char → Bool) (devices : List NetworkDevice)
    (htrimmed : ∀ device ∈ devices, ∀ column, IsTrimmed ((device column).getD []))
    (hname : ∀ device ∈ devices, (device .name).getD [] ≠ []) :
    (parseNetworkCsv isDate (networkDevicesToCsv devices)).devices =
      devices.map fun device => valuedColumns device networkCsvColumns := by
  have hrows := parseRows_networkDevicesToCsv htrimmed hname
  have hread : (devices.map columnValues).map
      (readDevice (networkCsvColumns.map fun column => some (DeviceProperty.column column))) =
        devices.map fun device => valuedColumns device networkCsvColumns := by
    rw [List.map_map]
    exact List.map_congr_left fun device _ => readDevice_columnValues device
  have hnamed : ∀ record ∈ devices.map fun device => valuedColumns device networkCsvColumns,
      (record.lookup (.column .name)).isSome = true := by
    refine List.forall_mem_map.mpr fun device hdevice => ?_
    rw [networkCsvColumns, valuedColumns_some (hname device hdevice), List.lookup_cons_self]
    rfl
  cases devices with
  | nil =>
    rw [parseNetworkCsv, hrows]
    rfl
  | cons device devices =>
    rw [parseNetworkCsv, hrows, List.map_cons]
    dsimp only
    rw [headers_of_titles, if_neg (by decide), ← List.map_cons, hread]
    exact List.filter_eq_self.mpr hnamed

end Devices

section Samples

def sampleDevice : NetworkDevice
  | .name => some "Core, \"A\"\r\n4th floor".toList
  | .notes => some []
  | _ => none

theorem parseNetworkCsv_sampleDevice :
    (parseNetworkCsv (fun _ => true) (networkDevicesToCsv [sampleDevice, sampleDevice])).devices =
      [sampleDevice, sampleDevice].map fun device => valuedColumns device networkCsvColumns := by
  refine parseNetworkCsv_networkDevicesToCsv _ _ ?_ ?_
  · intro device hdevice column
    obtain rfl : device = sampleDevice := by simpa using hdevice
    cases column <;> decide +kernel
  · intro device hdevice
    obtain rfl : device = sampleDevice := by simpa using hdevice
    decide

end Samples
end FieldserviceIT.Network
