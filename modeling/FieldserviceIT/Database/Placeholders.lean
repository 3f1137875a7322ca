import FieldserviceIT.Database.Filter

/-!
The clauses each compiler makes of a filter, with every value in its place.
For all filters over the columns of a table, well read or not, the text and the
parameter list a compiler returns are the two halves of one list of such
clauses: the `n`-th placeholder is bound to the `n`-th value. What a compiler
makes of a filter is then a question about these clauses only.
-/

namespace FieldserviceIT.Database

open Sql

/-- The text of some clauses next to the values at their placeholders. -/
def Compiled.of (clauses : List (Condition Js)) : Compiled :=
  ⟨Condition.textAll clauses, Condition.holesAll clauses⟩

def grouped (join : List (Condition Js) → Condition Js) (clauses : List (Condition Js)) :
    List (Condition Js) :=
  if clauses.isEmpty then [] else [join clauses]

namespace Compiled

theorem of_append (cs ds : List (Condition Js)) :
    (of cs).append (of ds) = of (cs ++ ds) := by
  simp only [of, append, Condition.textAll, Condition.mapAll_append, Condition.holesAll_append]

theorem of_grouped_anyOf (cs : List (Condition Js)) :
    (of cs).grouped .anyOf = of (Database.grouped .anyOf cs) := by
  cases cs <;>
    simp [of, grouped, Database.grouped, Condition.textAll, Condition.mapAll, Condition.map,
      Condition.holesAll, Condition.holes]

theorem of_grouped_allOf (cs : List (Condition Js)) :
    (of cs).grouped .allOf = of (Database.grouped .allOf cs) := by
  cases cs <;>
    simp [of, grouped, Database.grouped, Condition.textAll, Condition.mapAll, Condition.map,
      Condition.holesAll, Condition.holes]

theorem of_linked (table key outer outerKey : String) (cs : List (Condition Js)) :
    of [.linked table key outer outerKey cs] =
      ⟨[.linked table key outer outerKey (of cs).clauses], (of cs).values⟩ := by
  simp [of, Condition.textAll, Condition.mapAll, Condition.map, Condition.holesAll,
    Condition.holes]

theorem collect_fields {clause : String → Js → Except SqlError Compiled}
    {bound : Entry → List (Condition Js)} (f : Filter)
    (h : ∀ e ∈ f, clause e.key e.toJs = .ok (of (bound e))) :
    collect clause (Filter.fields f) = .ok (of (f.flatMap bound)) := by
  induction f with
  | nil => rfl
  | cons e f ih =>
    have hhead := h e (by simp)
    have htail := ih fun e' he' => h e' (by simp [he'])
    simp only [Filter.fields, collect, hhead, htail, List.flatMap_cons, ← of_append]
    rfl

end Compiled

section Clauses

variable {name : String} (hname : isSqlIdentifier name = true)
include hname

theorem columnClause_of (clause : String → Condition Unit) (values : List Js)
    (c : Condition Js) (htext : c.text = clause name) (hvalues : c.holes = values) :
    columnClause name clause values = .ok (.of [c]) := by
  have hcompiled : columnClause name clause values = .ok ⟨[clause name], values⟩ := by
    simp only [columnClause, escapeSqlIdentifier, hname, if_true]
    rfl
  have hof : Compiled.of [c] = ⟨[c.text], c.holes⟩ := by
    simp [Compiled.of, Condition.textAll, Condition.mapAll, Condition.holesAll]
  rw [hcompiled, hof, htext, hvalues]

theorem isNullClause_of : isNullClause name = .ok (.of [.isNull name]) :=
  columnClause_of hname _ _ _ rfl rfl

theorem likeClause_of (value : Js) :
    likeClause name value = .ok (.of [.like name (containsPattern value)]) :=
  columnClause_of hname _ _ _ rfl rfl

theorem compareClause_of (op : CompareOp) (value : Js) :
    compareClause op name value = .ok (.of [.compare op name value]) :=
  columnClause_of hname _ _ _ rfl rfl

/-- `column IN (…)`, or the constant written for an empty list. -/
def inBound (name : String) (items : List Js) : Condition Js :=
  if items.isEmpty then .never else .isIn name items

theorem inClause_of (items : List Js) :
    inClause name items = .ok (.of [inBound name items]) := by
  unfold inClause inBound
  split
  · rfl
  · exact columnClause_of hname _ _ _ (by simp [Condition.map]) rfl

end Clauses

/-- What `fieldClauses` makes of a test. -/
def testBound (name : String) : ColumnTest → Condition Js
  | .isNull => .isNull name
  | .equals value => .compare .eq name (.scalar value)
  | .isIn values => inBound name (values.map .scalar)
  | .contains s => .like name (containsPattern (.text s))
  | .range (.atLeast low) => .compare .ge name (.scalar low)
  | .range (.atMost high) => .compare .le name (.scalar high)
  -- the upper bound is never looked at
  | .range (.between low _) => .compare .ge name (.scalar low)

theorem fieldClauses_test {name : String} (hname : isSqlIdentifier name = true)
    (test : ColumnTest) :
    fieldClauses name test.toJs = .ok (.of [testBound name test]) := by
  cases test with
  | isNull => exact isNullClause_of hname
  | equals value => exact compareClause_of hname .eq _
  | isIn values => exact inClause_of hname _
  | contains s => exact likeClause_of hname _
  | range bounds =>
    cases bounds with
    | atLeast low => exact compareClause_of hname .ge _
    | atMost high => exact compareClause_of hname .le _
    | between low high => exact compareClause_of hname .ge _

theorem fieldClauses_array {name : String} (hname : isSqlIdentifier name = true)
    (items : List Js) :
    fieldClauses name (.array items) = .ok (.of [.compare .eq name (.array items)]) :=
  compareClause_of hname .eq _

section Ticket

mutual
/-- What `buildWhereClauses` makes of an entry. -/
def ticketBound : Entry → List (Condition Js)
  | .column name test => [testBound name test]
  | .createdBy properties =>
    [.linked "User" "id" "Ticket" "createdById" (ticketBoundAll properties)]
  | .or alternatives => grouped .anyOf (alternativesBound alternatives)
  | .and parts => [.compare .eq "AND" (.array (Filter.records parts))]

def ticketBoundAll : List Entry → List (Condition Js)
  | [] => []
  | e :: f => ticketBound e ++ ticketBoundAll f

def alternativesBound : List (List Entry) → List (Condition Js)
  | [] => []
  | f :: fs => ticketBoundAll f ++ alternativesBound fs
end

theorem normalizeColumn_of_mem {table name : String} (h : name ∈ columns table) :
    normalizeColumn table name = name := by
  have htable : ¬ (table = "Permission" ∧ name = "group") := by
    rintro ⟨rfl, -⟩
    simp [columns] at h
  simp [normalizeColumn, htable]

/-- A column test is compiled by `fieldClauses`, whatever table it is about. -/
theorem entryClauses_test {table name : String} (h : name ∈ columns table) (test : ColumnTest) :
    entryClauses table name test.toJs = .ok (.of [testBound name test]) := by
  have hnamed := columns_wellNamed h
  simp only [wellNamed, Bool.and_eq_true, Bool.not_eq_true', reservedKeys] at hnamed
  obtain ⟨hident, hreserved⟩ := hnamed
  simp only [List.contains_eq_mem, List.mem_cons, List.not_mem_nil, or_false,
    decide_eq_false_iff_not, not_or] at hreserved
  obtain ⟨-, -, hcreatedBy, hticket⟩ := hreserved
  have hfield := fieldClauses_test hident test
  cases test with
  | isNull | equals value =>
    simpa only [entryClauses, ColumnTest.toJs, normalizeColumn_of_mem h] using hfield
  | isIn values | contains s =>
    simpa only [entryClauses, ColumnTest.toJs, normalizeColumn_of_mem h, hcreatedBy, hticket,
      and_false, if_false] using hfield
  | range bounds =>
    cases bounds <;>
      simpa only [entryClauses, ColumnTest.toJs, Bounds.toJs, normalizeColumn_of_mem h,
        hcreatedBy, hticket, and_false, if_false] using hfield

mutual
theorem entryClauses_of {table : String} (e : Entry) (h : e.isOver table = true) :
    entryClauses table e.key e.toJs = .ok (.of (ticketBound e)) := by
  cases e with
  | column name test =>
    simp only [Entry.isOver, List.contains_eq_mem, decide_eq_true_eq] at h
    exact entryClauses_test h test
  | createdBy properties =>
    simp only [Entry.isOver, Bool.and_eq_true, decide_eq_true_eq] at h
    obtain ⟨rfl, hproperties⟩ := h
    have hinner := buildWhereClauses_of properties hproperties
    simp only [Entry.key, Entry.toJs, entryClauses, hinner, ticketBound, Compiled.of_linked]
    rfl
  | or alternatives =>
    have hinner := buildAlternatives_of alternatives h
    simp only [Entry.key, Entry.toJs, entryClauses, hinner, ticketBound,
      ← Compiled.of_grouped_anyOf]
    rfl
  | and parts =>
    have hcolumn : normalizeColumn table "AND" = "AND" := by simp [normalizeColumn]
    simp only [Entry.key, Entry.toJs, entryClauses, hcolumn, ticketBound]
    exact fieldClauses_array (by decide) _

theorem buildWhereClauses_of {table : String} (f : List Entry) (h : Filter.isOver table f = true) :
    buildWhereClauses table (Filter.fields f) = .ok (.of (ticketBoundAll f)) := by
  cases f with
  | nil => rfl
  | cons e f =>
    simp only [Filter.isOver, Bool.and_eq_true] at h
    have hhead := entryClauses_of e h.1
    have htail := buildWhereClauses_of f h.2
    simp only [Filter.fields, buildWhereClauses, hhead, htail, ticketBoundAll,
      ← Compiled.of_append]
    rfl

theorem buildAlternatives_of {table : String} (fs : List (List Entry))
    (h : Filter.allOver table fs = true) :
    buildAlternatives table (Filter.records fs) = .ok (.of (alternativesBound fs)) := by
  cases fs with
  | nil => rfl
  | cons f fs =>
    simp only [Filter.allOver, Bool.and_eq_true] at h
    have hhead := buildWhereClauses_of f h.1
    have htail := buildAlternatives_of fs h.2
    simp only [Filter.records, buildAlternatives, hhead, htail, alternativesBound,
      ← Compiled.of_append]
    rfl
end

end Ticket

section Inline

/-- `column = ?` with the value of the entry as it is. -/
def equalBound (e : Entry) : Condition Js :=
  .compare .eq e.key e.toJs

def assetOrBound : Entry → Condition Js
  | .column name (.contains s) => .like name (containsPattern (.text s))
  | e => equalBound e

def assetAndBound : Entry → Condition Js
  | .column name (.contains s) => .like name (containsPattern (.text s))
  | .column name .isNull => .isNull name
  | .column name (.isIn values) => inBound name (values.map .scalar)
  | e => equalBound e

def assetBound : Entry → List (Condition Js)
  | .column name .isNull => [.isNull name]
  | .column name (.contains s) => [.like name (containsPattern (.text s))]
  | .or alternatives => grouped .anyOf (alternatives.flatten.map assetOrBound)
  | .and parts => grouped .allOf (parts.flatten.map assetAndBound)
  | e => [equalBound e]

def timelineBound : Entry → Condition Js
  | .column name .isNull => .isNull name
  | e => equalBound e

theorem key_isSqlIdentifier {table : String} {e : Entry} (h : e.isOver table = true) :
    isSqlIdentifier e.key = true := by
  cases e with
  | column name test =>
    simp only [Entry.isOver, List.contains_eq_mem, decide_eq_true_eq] at h
    have hnamed := columns_wellNamed h
    simp only [wellNamed, Bool.and_eq_true] at hnamed
    exact hnamed.1
  | createdBy _ => exact (by decide : isSqlIdentifier "createdBy" = true)
  | or _ => exact (by decide : isSqlIdentifier "OR" = true)
  | and _ => exact (by decide : isSqlIdentifier "AND" = true)

theorem equalBound_of {table : String} {e : Entry} (h : e.isOver table = true) :
    compareClause .eq e.key e.toJs = .ok (.of [equalBound e]) :=
  compareClause_of (key_isSqlIdentifier h) .eq _

variable {e : Entry} (h : e.isOver "Asset" = true)
include h

theorem assetOrClause_of : assetOrClause e.key e.toJs = .ok (.of [assetOrBound e]) := by
  have hname := key_isSqlIdentifier h
  have hequal := equalBound_of h
  cases e with
  | column name test =>
    cases test with
    | contains s => exact likeClause_of hname _
    | isNull | equals _ | isIn _ => exact hequal
    | range bounds => cases bounds <;> exact hequal
  | createdBy _ => simp [Entry.isOver] at h
  | or _ | and _ => exact hequal

theorem assetAndClause_of : assetAndClause e.key e.toJs = .ok (.of [assetAndBound e]) := by
  have hname := key_isSqlIdentifier h
  have hequal := equalBound_of h
  cases e with
  | column name test =>
    cases test with
    | contains s => exact likeClause_of hname _
    | isNull => exact isNullClause_of hname
    | isIn values => exact inClause_of hname _
    | equals _ => exact hequal
    | range bounds => cases bounds <;> exact hequal
  | createdBy _ => simp [Entry.isOver] at h
  | or _ | and _ => exact hequal

theorem assetClause_of : assetClause e.key e.toJs = .ok (.of (assetBound e)) := by
  have hname := key_isSqlIdentifier h
  have hequal := equalBound_of h
  cases e with
  | column name test =>
    cases test with
    | contains s => exact likeClause_of hname _
    | isNull => exact isNullClause_of hname
    | equals _ | isIn _ => exact hequal
    | range bounds => cases bounds <;> exact hequal
  | createdBy _ => simp [Entry.isOver] at h
  | or alternatives =>
    have hcollect : Compiled.collect assetOrClause (Filter.fields alternatives.flatten) =
        .ok (.of (alternatives.flatten.flatMap fun e => [assetOrBound e])) :=
      Compiled.collect_fields _ fun e he => assetOrClause_of (Filter.isOver_of_allOver h e he)
    simp only [Entry.key, Entry.toJs, assetClause, Filter.recordEntries_records, assetBound,
      List.map_eq_flatMap, ← Compiled.of_grouped_anyOf, if_true, bind, Except.bind, hcollect]
    rfl
  | and parts =>
    have hcollect : Compiled.collect assetAndClause (Filter.fields parts.flatten) =
        .ok (.of (parts.flatten.flatMap fun e => [assetAndBound e])) :=
      Compiled.collect_fields _ fun e he => assetAndClause_of (Filter.isOver_of_allOver h e he)
    have hkey : ¬ ("AND" : String) = "OR" := by decide
    simp only [Entry.key, Entry.toJs, assetClause, Filter.recordEntries_records, assetBound,
      List.map_eq_flatMap, ← Compiled.of_grouped_allOf, hkey, if_false, if_true, bind,
      Except.bind, hcollect]
    rfl

omit h in
theorem timelineClause_of (h : e.isOver "TicketTimeline" = true) :
    timelineClause e.key e.toJs = .ok (.of [timelineBound e]) := by
  have hname := key_isSqlIdentifier h
  have hequal := equalBound_of h
  cases e with
  | column name test =>
    cases test with
    | isNull => exact isNullClause_of hname
    | equals _ | isIn _ | contains _ => exact hequal
    | range bounds => cases bounds <;> exact hequal
  | createdBy _ | or _ | and _ => exact hequal

end Inline

theorem ticketBoundAll_eq (f : Filter) : ticketBoundAll f = f.flatMap ticketBound := by
  induction f with
  | nil => rfl
  | cons e f ih => simp only [ticketBoundAll, ih, List.flatMap_cons]

def Query.entryBound : Query → Entry → List (Condition Js)
  | .ticket, e => ticketBound e
  | .assetFindMany, e | .assetCount, e => assetBound e
  | .ticketTimeline, e => [timelineBound e]

/-- What a query makes of a filter over the columns of its table. -/
def Query.bound (q : Query) (f : Filter) : List (Condition Js) :=
  f.flatMap q.entryBound

theorem Query.compile_of (q : Query) (f : Filter) (h : Filter.isOver q.table f = true) :
    q.compile (Filter.fields f) = .ok (.of (q.bound f)) := by
  cases q with
  | ticket =>
    have hcompile := buildWhereClauses_of f h
    rwa [ticketBoundAll_eq] at hcompile
  | assetFindMany | assetCount =>
    simp only [Query.table, Filter.isOver_eq, List.all_eq_true] at h
    exact Compiled.collect_fields f fun e he => assetClause_of (h e he)
  | ticketTimeline =>
    simp only [Query.table, Filter.isOver_eq, List.all_eq_true] at h
    exact Compiled.collect_fields f fun e he => timelineClause_of (h e he)

theorem Query.rows_of (q : Query) (sv : Server) (db : Db) (f : Filter)
    (h : Filter.isOver q.table f = true) :
    q.rows sv db (Filter.fields f) =
      if f.isEmpty then some (db q.table)
      else sv.select db q.table (some (Condition.textAll (q.bound f)))
        (Condition.holesAll (q.bound f)) := by
  simp only [Query.rows, Filter.fields_isEmpty, Query.compile_of q f h]
  rfl

end FieldserviceIT.Database
