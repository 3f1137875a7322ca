import FieldserviceIT.Lib.Outcomes
import FieldserviceIT.PlatformSecurity.Backups

/-!
What comes back from a backup. A value is restored if the column it is inserted into holds what it
held before: a column of dates or of large integers takes a text, a column of documents the text
of one. The rows come back whatever the batches are; a value may not.
-/

namespace FieldserviceIT.PlatformSecurity

open Lib

section Law

/-- What a column takes from a text. The digits of an integer are this integer. -/
structure ColumnTexts where
  integerOf : String → Option Int
  integerOf_toString : ∀ n, integerOf (toString n) = some n
  dateOf : String → Option Int

variable (R : Runtime) (D : ColumnTexts)

def Holds : Value → Param → Prop
  | .null, .null => True
  | .bool value, .bool param => param = value
  | .number value, .number param => param = value
  | .text value, .text param => param = value
  | .bigInteger value, .text param => D.integerOf param = some value
  | .date time, .text param => time.isSome ∧ D.dateOf param = time
  | .buffer bytes, .buffer param => param = bytes
  | .array items, .text param => JsonText.parse R.numerals param = some (.array items)
  | .object fields, .text param => JsonText.parse R.numerals param = some (.object fields)
  | _, _ => False

/-- The rows of a table, each once and in their order. -/
structure TableRestored (table : Table) (restored : TemporaryTable) : Prop where
  name : restored.table = table.name
  columns : table.rows ≠ [] → restored.columns = table.columns
  rows : List.Forall₂ (List.Forall₂ (Holds R D)) table.rows restored.rows

/-- The backup is made, the drill goes through, and its tables are those of the database. -/
def Lossless (iv : Iv) (createdAt : Int) (suffix : String) (db : Database) : Prop :=
  ∃ run drill, runBackup R iv createdAt db = .ok run ∧ testBackup R suffix run = .ok drill ∧
    List.Forall₂ (TableRestored R D) db.tables drill.session

end Law

section Condition

variable (D : ColumnTexts)

/-- A date is one its column takes from the ISO text, and a document does not pose as a buffer. -/
def Value.Restorable : Value → Prop
  | date time => time.any (fun time => D.dateOf (Tickets.toISOString time) = some time) = true
  | object fields => isBuffer fields = false
  | _ => True

structure Table.Restorable (table : Table) : Prop where
  columns : table.rows ≠ [] → ∀ column ∈ table.columns, isIdentifier column = true
  values : ∀ row ∈ table.rows, ∀ value ∈ row, value.Restorable D

def Table.isNamed (table : Table) : Bool :=
  table.name ≠ "__proto__" && isIdentifier table.name

end Condition

section Values

variable (R : Runtime) (D : ColumnTexts)

def Value.wire : Value → Json
  | null | date none => .null
  | bool value => .bool value
  | number value => .number value
  | text value => .text value
  | bigInteger value => .text (toString value)
  | date (some time) => .text (Tickets.toISOString time)
  | buffer bytes => .object [("type", .text "Buffer"), ("data", .array (byteItems bytes))]
  | array items => .array items
  | object fields => .object fields

theorem written_eq (value : Value) : written R value = .ok value.wire := by
  cases value with
  | date time => cases time <;> rfl
  | _ => rfl

theorem restoreValue_object {fields : List (String × Json)} (h : isBuffer fields = true) {param : Param}
    (hrestore : restoreValue R (some (.object fields)) = .ok param) :
    ∃ bytes, param = .buffer bytes := by
  rw [restoreValue, if_pos h] at hrestore
  obtain ⟨bytes, -, rfl⟩ := map_eq_ok hrestore
  exact ⟨bytes, rfl⟩

theorem restoreValue_holds (value : Value) :
    (∃ param, restoreValue R (some value.wire) = .ok param ∧ Holds R D value param) ↔
      value.Restorable D := by
  cases value with
  | null => exact iff_of_true ⟨_, rfl, trivial⟩ trivial
  | bool value => exact iff_of_true ⟨_, rfl, rfl⟩ trivial
  | number value => exact iff_of_true ⟨_, rfl, rfl⟩ trivial
  | text value => exact iff_of_true ⟨_, rfl, rfl⟩ trivial
  | bigInteger value => exact iff_of_true ⟨_, rfl, D.integerOf_toString value⟩ trivial
  | array items => exact iff_of_true ⟨_, rfl, JsonText.parse_stringify _⟩ trivial
  | buffer bytes =>
    have hrestore : restoreValue R (some (Value.wire (.buffer bytes))) = .ok (.buffer bytes) := by
      have hbytes := R.buffers.bufferFrom_bytes bytes
      change (R.buffers.bufferFrom (.array (byteItems bytes)) false).map Param.buffer = _
      rw [hbytes]
      rfl
    exact iff_of_true ⟨_, hrestore, rfl⟩ trivial
  | date time =>
    cases time with
    | none =>
      refine iff_of_false ?_ (by simp [Value.Restorable])
      rintro ⟨param, hrestore, hholds⟩
      cases hrestore
      exact hholds
    | some time =>
      rw [Value.Restorable, Option.any_some, decide_eq_true_eq]
      constructor
      · rintro ⟨param, hrestore, hholds⟩
        cases hrestore
        exact hholds.2
      · exact fun hdate => ⟨_, rfl, rfl, hdate⟩
  | object fields =>
    rw [Value.Restorable]
    cases hbuffer : isBuffer fields with
    | true =>
      refine iff_of_false ?_ (by decide)
      rintro ⟨param, hrestore, hholds⟩
      obtain ⟨bytes, rfl⟩ := restoreValue_object R hbuffer hrestore
      exact hholds
    | false =>
      refine iff_of_true ⟨.text (JsonText.stringify R.numerals (.object fields)), ?_, ?_⟩ rfl
      · rw [Value.wire, restoreValue, hbuffer]
        rfl
      · exact JsonText.parse_stringify _

end Values

section Rows

variable (R : Runtime) (D : ColumnTexts)

theorem insertBatches_eq (columns : List String) (rawRows : List Json) (offset : Nat)
    (inserted : List (List Param)) :
    insertBatches R columns rawRows offset inserted =
      ((rawRows.drop offset).mapM (restoredRow R columns)).map (inserted ++ ·) := by
  have hpos := batchSize_pos columns.length
  induction hleft : rawRows.length - offset using Nat.strong_induction_on
    generalizing offset inserted with
  | _ left ih =>
    rw [insertBatches]
    split
    next hlt =>
      have hsplit : rawRows.drop offset = (rawRows.drop offset).take (batchSize columns.length) ++
          rawRows.drop (offset + batchSize columns.length) := by
        rw [← List.drop_drop, List.take_append_drop]
      dsimp only
      conv_rhs => rw [hsplit, List.mapM_append]
      cases ((rawRows.drop offset).take (batchSize columns.length)).mapM (restoredRow R columns) with
      | error message => rfl
      | ok values =>
        have hrest := ih (rawRows.length - (offset + batchSize columns.length)) (by omega)
          (offset + batchSize columns.length) (inserted ++ values) rfl
        refine Eq.trans hrest ?_
        cases (rawRows.drop (offset + batchSize columns.length)).mapM (restoredRow R columns) with
        | error message => rfl
        | ok rest => exact congrArg Except.ok (List.append_assoc _ _ _)
    next hge =>
      rw [List.drop_eq_nil_of_le (by omega)]
      exact congrArg Except.ok (List.append_nil _).symm

def rowObject (columns : List String) (row : List Value) : Json :=
  .object (columns.zip (row.map Value.wire))

theorem restoredRow_rowObject {columns : List String} (hcolumns : columns.Nodup) {row : List Value}
    (hrow : row.length = columns.length) :
    restoredRow R columns (rowObject columns row) =
      row.mapM fun value => restoreValue R (some value.wire) := by
  have hlookup := lookup_zip (row.map Value.wire) hcolumns (by rw [List.length_map, hrow])
  have hmap : restoredRow R columns (rowObject columns row) =
      (columns.map fun column => (columns.zip (row.map Value.wire)).lookup column).mapM
        (restoreValue R) := by
    rw [List.mapM_map]
    rfl
  rw [hmap, hlookup, List.map_map, List.mapM_map]
  rfl

theorem restoredRow_holds {columns : List String} (hcolumns : columns.Nodup) {row : List Value}
    (hrow : row.length = columns.length) :
    (∃ params, restoredRow R columns (rowObject columns row) = .ok params ∧
      List.Forall₂ (Holds R D) row params) ↔ ∀ value ∈ row, value.Restorable D := by
  rw [restoredRow_rowObject R hcolumns hrow, mapM_forall₂]
  exact forall₂_congr fun value _ => restoreValue_holds R D value

end Rows

section Tables

variable (R : Runtime) (D : ColumnTexts)

def Table.wire (table : Table) : Json :=
  .array (table.rows.map (rowObject table.columns))

theorem keysOf_rowObject {columns : List String} {row : List Value}
    (hrow : row.length = columns.length) : keysOf (rowObject columns row) = .ok columns := by
  have hkeys : (columns.zip (row.map Value.wire)).map Prod.fst = columns :=
    List.map_fst_zip (by rw [List.length_map, hrow])
  exact congrArg Except.ok hkeys

theorem restoreRows_wire (table : Table) (hrows : table.rows ≠ [])
    (hcolumns : ∀ column ∈ table.columns, isIdentifier column = true) :
    restoreRows R table.name (table.rows.map (rowObject table.columns)) =
      ((table.rows.map (rowObject table.columns)).mapM (restoredRow R table.columns)).map
        fun rows => (table.columns, rows) := by
  have hfit := table.rows_fit
  cases hlist : table.rows with
  | nil => exact absurd hlist hrows
  | cons row rows =>
    rw [hlist] at hfit
    have hinvalid : (table.columns = [] || table.columns.any (!isIdentifier ·)) = false := by
      simpa [table.columns_ne_nil] using hcolumns
    rw [List.map_cons, restoreRows, keysOf_rowObject (hfit row List.mem_cons_self)]
    change (if (table.columns = [] || table.columns.any (!isIdentifier ·)) = true then _ else _) = _
    rw [hinvalid, if_neg Bool.false_ne_true, insertBatches_eq, List.drop_zero]
    cases (rowObject table.columns row :: rows.map (rowObject table.columns)).mapM
        (restoredRow R table.columns) <;> rfl

theorem restoreRows_invalid (table : Table) (hrows : table.rows ≠ [])
    (hcolumns : ¬ ∀ column ∈ table.columns, isIdentifier column = true) :
    restoreRows R table.name (table.rows.map (rowObject table.columns)) =
      .error ("Backup columns for " ++ table.name ++ " are invalid") := by
  have hfit := table.rows_fit
  cases hlist : table.rows with
  | nil => exact absurd hlist hrows
  | cons row rows =>
    rw [hlist] at hfit
    have hinvalid : (table.columns = [] || table.columns.any (!isIdentifier ·)) = true := by
      simpa [table.columns_ne_nil] using hcolumns
    rw [List.map_cons, restoreRows, keysOf_rowObject (hfit row List.mem_cons_self)]
    change (if (table.columns = [] || table.columns.any (!isIdentifier ·)) = true then _ else _) = _
    rw [if_pos hinvalid]

theorem restoreTable_wire {table : Table} (hname : isIdentifier table.name = true) (suffix : String)
    (index : Nat) : restoreTable R suffix index table.name table.wire =
      (restoreRows R table.name (table.rows.map (rowObject table.columns))) >>= fun restored =>
        if restored.2.length ≠ table.rows.length then
          .error ("Restore row count mismatch for " ++ table.name ++ ": expected " ++
            toString table.rows.length ++ ", received " ++ toString restored.2.length)
        else
          .ok ⟨temporaryName suffix index, table.name, restored.1, restored.2⟩ := by
  rw [Table.wire, restoreTable, hname, ← List.length_map (rowObject table.columns)]
  rfl

theorem rows_restored (table : Table) :
    (∃ rows, (table.rows.map (rowObject table.columns)).mapM (restoredRow R table.columns) =
        .ok rows ∧ List.Forall₂ (List.Forall₂ (Holds R D)) table.rows rows) ↔
      ∀ row ∈ table.rows, ∀ value ∈ row, value.Restorable D := by
  rw [List.mapM_map, mapM_forall₂]
  refine forall₂_congr fun row hrow => ?_
  exact restoredRow_holds R D table.columns_distinct (table.rows_fit row hrow)

theorem restoreTable_restored {table : Table} (hname : isIdentifier table.name = true)
    (suffix : String) (index : Nat) :
    (∃ restored, restoreTable R suffix index table.name table.wire = .ok restored ∧
      TableRestored R D table restored) ↔ table.Restorable D := by
  rw [restoreTable_wire R hname]
  by_cases hrows : table.rows = []
  · refine iff_of_true ?_ ⟨fun hne => absurd hrows hne, fun row hrow => ?_⟩
    · rw [hrows]
      exact ⟨_, rfl, rfl, fun hne => absurd hrows hne, hrows ▸ .nil⟩
    · rw [hrows] at hrow
      cases hrow
  by_cases hcolumns : ∀ column ∈ table.columns, isIdentifier column = true
  · rw [restoreRows_wire R table hrows hcolumns]
    constructor
    · rintro ⟨restored, hrestored, htable⟩
      obtain ⟨pair, hpair, hcount⟩ := bind_eq_ok hrestored
      obtain ⟨rows, hinserted, rfl⟩ := map_eq_ok hpair
      split at hcount
      · cases hcount
      · obtain rfl := Except.ok.inj hcount
        exact ⟨fun _ => hcolumns, (rows_restored R D table).mp ⟨rows, hinserted, htable.rows⟩⟩
    · intro h
      obtain ⟨rows, hinserted, hholds⟩ := (rows_restored R D table).mpr h.values
      refine ⟨⟨temporaryName suffix index, table.name, table.columns, rows⟩, ?_, rfl,
        fun _ => rfl, hholds⟩
      rw [hinserted]
      exact if_neg fun hne => hne hholds.length_eq.symm
  · rw [restoreRows_invalid R table hrows hcolumns]
    refine iff_of_false ?_ fun h => hcolumns (h.columns hrows)
    rintro ⟨restored, hrestored, -⟩
    cases hrestored

theorem restoreTables_restored (suffix : String) (index : Nat) {tables : List Table}
    (hnames : ∀ table ∈ tables, isIdentifier table.name = true) :
    (∃ session, restoreTables R suffix index (tables.map fun table => (table.name, table.wire)) =
        .ok session ∧ List.Forall₂ (TableRestored R D) tables session) ↔
      ∀ table ∈ tables, table.Restorable D := by
  induction tables generalizing index with
  | nil => exact iff_of_true ⟨[], rfl, .nil⟩ (fun _ h => by cases h)
  | cons table tables ih =>
    have hhead := restoreTable_restored R D (hnames table List.mem_cons_self) suffix index
    have hrest := ih (index + 1) fun other hother => hnames other (.tail _ hother)
    rw [List.forall_mem_cons, ← hhead, ← hrest, List.map_cons, restoreTables]
    constructor
    · rintro ⟨session, hsession, hrestored⟩
      obtain ⟨restored, hone, hmore⟩ := bind_eq_ok hsession
      obtain ⟨more, htables, heq⟩ := bind_eq_ok hmore
      cases heq
      cases hrestored with
      | cons hfirst hothers => exact ⟨⟨restored, hone, hfirst⟩, more, htables, hothers⟩
    · rintro ⟨⟨restored, hone, hfirst⟩, more, htables, hothers⟩
      refine ⟨restored :: more, ?_, .cons hfirst hothers⟩
      rw [hone, htables]
      rfl

end Tables

section Payloads

variable (R : Runtime) (D : ColumnTexts)

theorem writtenTable_eq (name : String) (table : Table) :
    writtenTable R (name, table) = .ok (name, table.wire) := by
  have hrow : ∀ row ∈ table.rows,
      writtenRow R table.columns row = .ok (rowObject table.columns row) := by
    intro row _
    rw [writtenRow, mapM_ok fun value _ => written_eq R value]
    rfl
  rw [writtenTable, mapM_ok hrow]
  rfl

theorem foldl_assignTable {tables : List Table} {payload : List (String × Table)}
    (hnodup : (payload.map Prod.fst ++ tables.map Table.name).Nodup) :
    tables.foldl assignTable payload = payload ++
      (tables.filter fun table => table.name ≠ "__proto__").map fun table => (table.name, table) := by
  induction tables generalizing payload with
  | nil => exact (List.append_nil payload).symm
  | cons table tables ih =>
    rw [List.foldl_cons, assignTable, List.filter_cons]
    split
    next hproto =>
      rw [if_neg (by simp [hproto])]
      apply ih
      exact (List.Sublist.append_left (List.sublist_cons_self _ _) _).nodup hnodup
    next hname =>
      have hnew : table.name ∉ payload.map Prod.fst := fun hmem =>
        List.disjoint_of_nodup_append hnodup hmem List.mem_cons_self
      rw [put_of_not_mem hnew, if_pos (by simp [hname]), ih, List.append_assoc, List.map_cons]
      · rfl
      · simpa using hnodup

theorem writtenPayload_eq (createdAt : Int) (db : Database) :
    writtenPayload R createdAt (databaseTables db) =
      .ok (payloadOf createdAt ((db.tables.filter Table.isNamed).map fun table =>
        (table.name, table.wire))) := by
  have hnodup : (([] : List (String × Table)).map Prod.fst ++
      (databaseTables db).map Table.name).Nodup :=
    (List.filter_sublist.map Table.name).nodup db.tables_distinct
  have hwritten : ∀ tables : List Table,
      tables.mapM (writtenTable R ∘ fun table => (table.name, table)) =
        .ok (tables.map fun table => (table.name, table.wire)) :=
    fun tables => mapM_ok fun table _ => writtenTable_eq R table.name table
  rw [writtenPayload, foldl_assignTable hnodup, List.nil_append, List.mapM_map, hwritten,
    databaseTables, List.filter_filter]
  rfl

theorem readPayload_runBackup {iv : Iv} {createdAt : Int} {db : Database} {payload : Json}
    {run : BackupRun} (hpayload : writtenPayload R createdAt (databaseTables db) = .ok payload)
    (hrun : runBackup R iv createdAt db = .ok run) : readPayload R run = .ok payload := by
  rw [runBackup, hpayload] at hrun
  cases hrun
  rw [readPayload, if_neg fun h => h rfl, decryptBuffer_encryptBuffer]
  change ((R.compression.gunzip _) >>= _) = _
  rw [R.compression.gunzip_gzip]
  dsimp only [bind, Except.bind]
  rw [ofUtf8_utf8, Option.bind_some, JsonText.parse_stringify]

theorem restorePayload_payloadOf (suffix : String) (createdAt : Int)
    (entries : List (String × Json)) :
    restorePayload R suffix (payloadOf createdAt entries) =
      (restoreTables R suffix 0 entries).map fun session =>
        ⟨entries.length, some (.text (Tickets.toISOString createdAt)), session⟩ := by
  have hformat : (payloadOf createdAt entries).property "format" =
      some (.text "fieldserviceit-encrypted-json-v1") := rfl
  have htables : (payloadOf createdAt entries).property "tables" = some (.object entries) := rfl
  have hcreated : (payloadOf createdAt entries).property "createdAt" =
      some (.text (Tickets.toISOString createdAt)) := rfl
  rw [restorePayload, hformat, htables, hcreated]
  change (restoreTables R suffix 0 entries >>= _) = _
  cases restoreTables R suffix 0 entries <;> rfl

theorem length_restoreTables {suffix : String} {index : Nat} {entries : List (String × Json)}
    {session : List TemporaryTable} (h : restoreTables R suffix index entries = .ok session) :
    session.length = entries.length := by
  induction entries generalizing index session with
  | nil =>
    cases h
    rfl
  | cons entry entries ih =>
    obtain ⟨restored, -, hmore⟩ := bind_eq_ok h
    obtain ⟨more, htables, heq⟩ := bind_eq_ok hmore
    cases heq
    exact congrArg Nat.succ (ih htables)

end Payloads

section Lossless

variable {R : Runtime} {D : ColumnTexts} {iv : Iv} {createdAt : Int} {suffix : String}
  {db : Database}

theorem testBackup_runBackup {run : BackupRun} (hrun : runBackup R iv createdAt db = .ok run)
    {drill : Drill} : testBackup R suffix run = .ok drill ↔
      ∃ session, restoreTables R suffix 0 ((db.tables.filter Table.isNamed).map fun table =>
          (table.name, table.wire)) = .ok session ∧
        drill = ⟨(db.tables.filter Table.isNamed).length,
          some (.text (Tickets.toISOString createdAt)), session⟩ := by
  have hread := readPayload_runBackup R (writtenPayload_eq R createdAt db) hrun
  rw [testBackup, hread, ok_bind, restorePayload_payloadOf, List.length_map]
  cases restoreTables R suffix 0 ((db.tables.filter Table.isNamed).map fun table =>
      (table.name, table.wire)) with
  | error message =>
    refine iff_of_false (fun h => by cases h) ?_
    rintro ⟨session, hsession, -⟩
    cases hsession
  | ok session =>
    constructor
    · intro h
      cases h
      exact ⟨session, rfl, rfl⟩
    · rintro ⟨session, hsession, rfl⟩
      cases hsession
      rfl

theorem isNamed_of_lossless (h : Lossless R D iv createdAt suffix db) :
    db.tables.filter Table.isNamed = db.tables := by
  obtain ⟨run, drill, hrun, hdrill, hrestored⟩ := h
  obtain ⟨session, hsession, rfl⟩ := (testBackup_runBackup hrun).mp hdrill
  have hlength := length_restoreTables R hsession
  rw [List.length_map] at hlength
  exact List.filter_sublist.eq_of_length (hlength.symm.trans hrestored.length_eq.symm)

theorem isIdentifier_of_isNamed {table : Table} (h : table.isNamed = true) :
    isIdentifier table.name = true :=
  (Bool.and_eq_true _ _ ▸ h).2

theorem restorable_of_lossless (h : Lossless R D iv createdAt suffix db) :
    ∀ table ∈ db.tables, table.isNamed = true ∧ table.Restorable D := by
  have hnamed := isNamed_of_lossless h
  have hall := List.filter_eq_self.mp hnamed
  obtain ⟨run, drill, hrun, hdrill, hrestored⟩ := h
  obtain ⟨session, hsession, rfl⟩ := (testBackup_runBackup hrun).mp hdrill
  rw [hnamed] at hsession
  have hnames : ∀ table ∈ db.tables, isIdentifier table.name = true :=
    fun table htable => isIdentifier_of_isNamed (hall table htable)
  have hvalues := (restoreTables_restored R D suffix 0 hnames).mp ⟨session, hsession, hrestored⟩
  exact fun table htable => ⟨hall table htable, hvalues table htable⟩

end Lossless

section Samples

def byteOf : Json → Except String UInt8
  | .number value => .ok (UInt8.ofNat value.num.toNat)
  | _ => .ok 0

def bytesOf : Json → Bool → Except String Bytes
  | .array items, _ => items.mapM byteOf
  | _, _ => .error "The first argument must be of type string or an instance of Buffer"

theorem bytesOf_byteItems (bytes : Bytes) : bytesOf (.array (byteItems bytes)) false = .ok bytes := by
  have hbyte : ∀ byte ∈ bytes, byteOf (.number byte.toNat) = .ok (id byte) :=
    fun _ _ => congrArg Except.ok (UInt8.ofNat_toNat)
  rw [bytesOf, byteItems, List.mapM_map]
  exact (mapM_ok hbyte).trans (congrArg Except.ok (List.map_id bytes))

def noTag : Bytes :=
  List.replicate 16 0

theorem length_noTag (_ _ _ : Bytes) : noTag.length = 16 :=
  List.length_replicate

theorem opened (_ _ value : Bytes) : some value = some value :=
  rfl

theorem unpacked (value : Bytes) : (Except.ok value : Except String Bytes) = .ok value :=
  rfl

def sampleRuntime : Runtime where
  numerals := JsonText.countedNumerals
  cipher := ⟨fun _ _ value => (value, noTag), fun _ _ _ value => some value, length_noTag, opened⟩
  compression := ⟨id, .ok, unpacked⟩
  buffers := ⟨bytesOf, fun _ => "", bytesOf_byteItems⟩
  sha256 := id
  hex bytes := toString (bytes.map UInt8.toNat)
  syntaxError _ := "Unexpected end of JSON input"
  currentKey := "fieldserviceit-dev-key"
  previousKey := none

def integerOfText (text : String) : Option Int :=
  if text.toList.head? = some '-' then some (-(Nat.ofDigitChars 10 text.toList.tail 0))
  else some (Nat.ofDigitChars 10 text.toList 0)

theorem ofDigitChars_repr (n : Nat) : Nat.ofDigitChars 10 (Nat.repr n).toList 0 = n := by
  rw [Nat.toList_repr, Nat.ofDigitChars_ten_toDigits]

theorem integerOfText_toString (n : Int) : integerOfText (toString n) = some n := by
  cases n with
  | ofNat n =>
    have hdigits : (Nat.repr n).toList.head? ≠ some '-' := by
      intro h
      rw [Nat.toList_repr] at h
      have hminus := Nat.isDigit_of_mem_toDigits (b := 10) (by omega) (by omega)
        (List.mem_of_mem_head? h)
      cases hminus
    change integerOfText (Nat.repr n) = _
    rw [integerOfText, if_neg hdigits, ofDigitChars_repr]
    rfl
  | negSucc n =>
    have hlist : (toString (Int.negSucc n)).toList = '-' :: (Nat.repr (n + 1)).toList :=
      String.toList_append
    rw [integerOfText, hlist, List.head?_cons, if_pos rfl, List.tail_cons, ofDigitChars_repr]
    rfl

def strictTexts : ColumnTexts :=
  ⟨integerOfText, integerOfText_toString, fun _ => none⟩

def posingDocument : Value :=
  .object [("type", .text "Buffer"), ("data", .array [])]

theorem nodup_reportColumns : ["id", "metadata"].Nodup := by
  decide

def reportTable : Table where
  name := "ErrorReport"
  columns := ["id", "metadata"]
  columns_ne_nil := List.cons_ne_nil _ _
  columns_distinct := nodup_reportColumns
  rows := [[.text "report-1", posingDocument]]
  rows_fit := List.forall_mem_singleton.mpr rfl

def sampleDatabase : Database :=
  ⟨[reportTable], List.nodup_singleton _⟩

theorem length_zeroIv : (List.replicate 12 (0 : UInt8)).length = 12 :=
  List.length_replicate

end Samples
end FieldserviceIT.PlatformSecurity
