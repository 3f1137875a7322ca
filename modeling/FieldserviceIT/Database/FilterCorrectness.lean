import FieldserviceIT.Database.Placeholders

/-!
Which filters the compilers read as they are meant. A filter is misread at the
first shape a compiler has no branch for: two bounds on one column, a search
text with pattern characters, an alternative with other than one clause, an
empty `OR`, a nested list, an operator the inline compilers do not know. Where
no such shape occurs the selected rows are the rows the filter holds of.
-/

namespace FieldserviceIT.Database

open Lib Sql

/-- A test every compiler reads as it is meant, where it knows the operator. -/
def ColumnTest.plain : ColumnTest → Bool
  | .contains s => plainText s.toList
  | .range (.between _ _) => false
  | _ => true

mutual
/-- The number of clauses `buildWhereClauses` writes for an entry. -/
def Entry.clauseCount : Entry → Nat
  | .or alternatives => min 1 (Filter.alternativesClauseCount alternatives)
  | _ => 1

def Filter.clauseCount : List Entry → Nat
  | [] => 0
  | e :: f => e.clauseCount + Filter.clauseCount f

def Filter.alternativesClauseCount : List (List Entry) → Nat
  | [] => 0
  | f :: fs => Filter.clauseCount f + Filter.alternativesClauseCount fs
end

mutual
/-- No shape inside the entry is misread by `buildWhereClauses`. -/
def Entry.readByTicket : Entry → Bool
  | .column _ test => test.plain
  | .createdBy properties =>
    Filter.readByTicket properties && Filter.clauseCount properties != 0
  | .or alternatives =>
    !alternatives.isEmpty && Filter.allReadByTicket alternatives &&
      (alternatives.all (Filter.clauseCount · == 1) ||
        alternatives.all (Filter.clauseCount · == 0))
  | .and _ => false

def Filter.readByTicket : List Entry → Bool
  | [] => true
  | e :: f => e.readByTicket && Filter.readByTicket f

def Filter.allReadByTicket : List (List Entry) → Bool
  | [] => true
  | f :: fs => Filter.readByTicket f && Filter.allReadByTicket fs
end

mutual
/-- `buildWhereClauses` turns a part of the entry into a clause no server
takes: `AND` is written as a column, a relation without a clause leaves its
`EXISTS` unfinished. -/
def Entry.brokenForTicket : Entry → Bool
  | .column _ _ => false
  | .createdBy properties =>
    Filter.brokenForTicket properties || Filter.clauseCount properties == 0
  | .or alternatives => Filter.anyBrokenForTicket alternatives
  | .and _ => true

def Filter.brokenForTicket : List Entry → Bool
  | [] => false
  | e :: f => e.brokenForTicket || Filter.brokenForTicket f

def Filter.anyBrokenForTicket : List (List Entry) → Bool
  | [] => false
  | f :: fs => Filter.brokenForTicket f || Filter.anyBrokenForTicket fs
end

namespace Entry

def isList : Entry → Bool
  | or _ | and _ => true
  | _ => false

/-- The tests the asset compilers know inside an `OR`. -/
def readByAssetOr : Entry → Bool
  | column _ (.equals _) => true
  | column _ (.contains s) => plainText s.toList
  | _ => false

/-- The tests the asset compilers know inside an `AND`. -/
def readByAssetAnd : Entry → Bool
  | column _ (.equals _) | column _ .isNull | column _ (.isIn _) => true
  | column _ (.contains s) => plainText s.toList
  | _ => false

def readByAsset : Entry → Bool
  | column _ (.equals _) | column _ .isNull => true
  | column _ (.contains s) => plainText s.toList
  | or alternatives =>
    !alternatives.isEmpty && alternatives.flatten.all readByAssetOr &&
      (alternatives.all (·.length == 1) || alternatives.all (·.isEmpty))
  | and parts => parts.flatten.all readByAssetAnd
  | _ => false

def readByTimeline : Entry → Bool
  | column _ (.equals _) | column _ .isNull => true
  | _ => false

def assetClauseCount : Entry → Nat
  | or lists | and lists => min 1 lists.flatten.length
  | _ => 1

end Entry

namespace Query

def reads : Query → Entry → Bool
  | ticket => Entry.readByTicket
  | assetFindMany | assetCount => Entry.readByAsset
  | ticketTimeline => Entry.readByTimeline

def writes : Query → Entry → Bool
  | ticket, e => e.clauseCount != 0
  | assetFindMany, e | assetCount, e => e.assetClauseCount != 0
  | ticketTimeline, _ => true

/-- Every entry is read as it is meant, and a `WHERE` is followed by a clause. -/
def supports (q : Query) (f : Filter) : Bool :=
  f.all q.reads && (f.isEmpty || f.any q.writes)

/-- Under any collation and any stored rows, the rows selected are the rows the
filter holds of. -/
def Correct (q : Query) (f : Filter) : Prop :=
  ∀ (comparison : Comparison) (objectLiteral : Js → Option Scalar) (db : Db),
    q.rows (server comparison objectLiteral) db (Filter.fields f) =
      some ((db q.table).filter fun row => Filter.holds comparison db row f)

end Query

section Reading

variable (comparison : Comparison) (objectLiteral : Js → Option Scalar) (db : Db)

def selects (scope : Scope) (c : Condition Js) : Bool :=
  ((server comparison objectLiteral).eval db scope c).isYes

variable {table : String} (row : Row) (outer : Scope) {tables : List String}

theorem column_here {name : String} (h : name ∈ columns table) :
    (server comparison objectLiteral).column ((table, row) :: outer) name = row name := by
  simp [Server.column, List.find?, h]

theorem accepts_inBound {name : String} (h : name ∈ columns table) (values : List Scalar) :
    (server comparison objectLiteral).accepts (table :: tables)
      (inBound name (values.map .scalar)) = true := by
  cases values <;> simp [inBound, Server.accepts, Server.literal, h]

theorem accepts_testBound {name : String} (h : name ∈ columns table) (test : ColumnTest) :
    (server comparison objectLiteral).accepts (table :: tables) (testBound name test) = true := by
  cases test with
  | isNull | equals _ | contains _ =>
    simp [testBound, Server.accepts, h, Server.literal, containsPattern, Js.text]
  | isIn values => exact accepts_inBound comparison objectLiteral h values
  | range bounds => cases bounds <;> simp [testBound, Server.accepts, h, Server.literal]

theorem selects_equals {name : String} (h : name ∈ columns table) (value : Scalar) :
    selects comparison objectLiteral db ((table, row) :: outer)
        (.compare .eq name (.scalar value)) =
      (ColumnTest.equals value).holds comparison (row name) := by
  simp [selects, Server.eval, column_here comparison objectLiteral row outer h, Server.operand,
    Server.literal, ColumnTest.holds, Server.compareBy]

theorem selects_isNull {name : String} (h : name ∈ columns table) :
    selects comparison objectLiteral db ((table, row) :: outer) (.isNull name) =
      ColumnTest.isNull.holds comparison (row name) := by
  simp [selects, Server.eval, column_here comparison objectLiteral row outer h, ColumnTest.holds]

theorem selects_inBound {name : String} (h : name ∈ columns table) (values : List Scalar) :
    selects comparison objectLiteral db ((table, row) :: outer)
        (inBound name (values.map .scalar)) =
      (ColumnTest.isIn values).holds comparison (row name) := by
  have heval : ∀ v : Scalar, (server comparison objectLiteral).operand (.scalar v) = some v :=
    fun _ => rfl
  cases values with
  | nil => cases row name <;> simp [inBound, selects, Server.eval, ColumnTest.holds]
  | cons v vs =>
    simp only [inBound, List.map_cons, List.isEmpty_cons, Bool.false_eq_true, if_false, selects,
      Server.eval, column_here comparison objectLiteral row outer h, ColumnTest.holds,
      Truth.isYes_disj]
    cases hrow : row name <;> simp [heval, Function.comp_def]

theorem selects_contains {name : String} (h : name ∈ columns table) (s : String)
    (hplain : plainText s.toList = true) :
    selects comparison objectLiteral db ((table, row) :: outer)
        (.like name (containsPattern (.text s))) =
      (ColumnTest.contains s).holds comparison (row name) := by
  have hpattern : comparison.written (.text ("%" ++ s ++ "%")) = '%' :: (s.toList ++ ['%']) := by
    rw [comparison.written_text]
    simp
  have hlike : ∀ a : Scalar,
      (server comparison objectLiteral).likeBy a (.text ("%" ++ s ++ "%")) =
        containsBy comparison.sameChar s.toList (comparison.written a) := by
    intro a
    simp only [Server.likeBy, server_comparison, hpattern]
    exact likeMatch_surrounded comparison.sameChar s.toList _ hplain
  simp only [selects, Server.eval, column_here comparison objectLiteral row outer h,
    containsPattern, Js.text, templateText, Server.operand, Server.literal, Option.join_some,
    Truth.isYes_ofOptions, Option.any_some, hlike, ColumnTest.holds]

theorem selects_testBound {name : String} (h : name ∈ columns table) (test : ColumnTest)
    (hplain : test.plain = true) :
    selects comparison objectLiteral db ((table, row) :: outer) (testBound name test) =
      test.holds comparison (row name) := by
  cases test with
  | isNull => exact selects_isNull comparison objectLiteral db row outer h
  | equals value => exact selects_equals comparison objectLiteral db row outer h value
  | isIn values => exact selects_inBound comparison objectLiteral db row outer h values
  | contains s => exact selects_contains comparison objectLiteral db row outer h s hplain
  | range bounds =>
    cases bounds with
    | atLeast _ | atMost _ =>
      simp [testBound, selects, Server.eval, column_here comparison objectLiteral row outer h,
        Server.operand, Server.literal, ColumnTest.holds, Bounds.holds, Server.compareBy]
    | between _ _ => simp [ColumnTest.plain] at hplain

end Reading

mutual
theorem length_ticketBound (e : Entry) : (ticketBound e).length = e.clauseCount := by
  cases e with
  | column _ _ | createdBy _ | and _ => rfl
  | or alternatives =>
    simp only [ticketBound, Entry.clauseCount, ← length_alternativesBound alternatives, grouped]
    cases alternativesBound alternatives <;> simp

theorem length_ticketBoundAll (f : List Entry) :
    (ticketBoundAll f).length = Filter.clauseCount f := by
  cases f with
  | nil => rfl
  | cons e f =>
    simp only [ticketBoundAll, List.length_append, length_ticketBound e,
      length_ticketBoundAll f, Filter.clauseCount]

theorem length_alternativesBound (fs : List (List Entry)) :
    (alternativesBound fs).length = Filter.alternativesClauseCount fs := by
  cases fs with
  | nil => rfl
  | cons f fs =>
    simp only [alternativesBound, List.length_append, length_ticketBoundAll f,
      length_alternativesBound fs, Filter.alternativesClauseCount]
end

section TicketReading

variable (comparison : Comparison) (objectLiteral : Js → Option Scalar) (db : Db)

theorem acceptsAll_append (tables : List String) (cs ds : List (Condition Js)) :
    (server comparison objectLiteral).acceptsAll tables (cs ++ ds) =
      ((server comparison objectLiteral).acceptsAll tables cs &&
        (server comparison objectLiteral).acceptsAll tables ds) := by
  simp only [Server.acceptsAll_eq, List.all_append]

theorem acceptsAll_grouped (tables : List String)
    {join : List (Condition Js) → Condition Js} (hjoin : join = .anyOf ∨ join = .allOf)
    (cs : List (Condition Js)) :
    (server comparison objectLiteral).acceptsAll tables (grouped join cs) =
      (server comparison objectLiteral).acceptsAll tables cs := by
  cases cs with
  | nil => rfl
  | cons c cs => obtain rfl | rfl := hjoin <;> simp [grouped, Server.acceptsAll, Server.accepts]

theorem unknown_of_not_wellNamed {name : String} (h : wellNamed name = false)
    (tables : List String) : (tables.any fun t => (columns t).contains name) = false := by
  rw [List.any_eq_false]
  intro t _ hmem
  rw [List.contains_eq_mem, decide_eq_true_eq] at hmem
  rw [columns_wellNamed hmem] at h
  cases h

theorem accepts_equalBound_list (tables : List String) {e : Entry} (h : e.isList = true) :
    (server comparison objectLiteral).accepts tables (equalBound e) = false := by
  have hkey : wellNamed e.key = false := by
    cases e with
    | or _ => exact (by decide : wellNamed "OR" = false)
    | and _ => exact (by decide : wellNamed "AND" = false)
    | column _ _ | createdBy _ => simp [Entry.isList] at h
  simp only [equalBound, Server.accepts, server_columns, unknown_of_not_wellNamed hkey,
    Bool.false_and]

mutual
/-- The server takes everything `buildWhereClauses` writes but the broken parts. -/
theorem accepts_ticketBound {table : String} {tables : List String} (e : Entry)
    (hover : e.isOver table = true) :
    (server comparison objectLiteral).acceptsAll (table :: tables) (ticketBound e) =
      !e.brokenForTicket := by
  cases e with
  | column name test =>
    simp only [Entry.isOver, List.contains_eq_mem, decide_eq_true_eq] at hover
    simp [ticketBound, Server.acceptsAll, accepts_testBound comparison objectLiteral hover,
      Entry.brokenForTicket]
  | createdBy properties =>
    simp only [Entry.isOver, Bool.and_eq_true, decide_eq_true_eq] at hover
    obtain ⟨rfl, hproperties⟩ := hover
    have hinner : (server comparison objectLiteral).acceptsAll ("User" :: "Ticket" :: tables)
        (ticketBoundAll properties) = !Filter.brokenForTicket properties :=
      accepts_ticketBoundAll properties hproperties
    have hempty : (ticketBoundAll properties).isEmpty = (Filter.clauseCount properties == 0) := by
      rw [← length_ticketBoundAll]
      cases ticketBoundAll properties <;> rfl
    simp only [ticketBound, Server.acceptsAll, Server.accepts, hinner, hempty, server_columns,
      Entry.brokenForTicket, Bool.not_or]
    simp [columns, userColumns, ticketColumns, Bool.and_comm]
  | or alternatives =>
    rw [ticketBound, acceptsAll_grouped comparison objectLiteral _ (.inl rfl)]
    exact accepts_alternativesBound alternatives hover
  | and parts =>
    have hrefused := accepts_equalBound_list comparison objectLiteral (table :: tables)
      (show (Entry.and parts).isList = true from rfl)
    rw [ticketBound, Server.acceptsAll]
    exact Bool.and_eq_false_imp.mpr fun h => absurd (h.symm.trans hrefused) (by simp)

theorem accepts_ticketBoundAll {table : String} {tables : List String} (f : List Entry)
    (hover : Filter.isOver table f = true) :
    (server comparison objectLiteral).acceptsAll (table :: tables) (ticketBoundAll f) =
      !Filter.brokenForTicket f := by
  cases f with
  | nil => rfl
  | cons e f =>
    simp only [Filter.isOver, Bool.and_eq_true] at hover
    rw [ticketBoundAll, acceptsAll_append, accepts_ticketBound e hover.1,
      accepts_ticketBoundAll f hover.2, Filter.brokenForTicket, Bool.not_or]

theorem accepts_alternativesBound {table : String} {tables : List String} (fs : List (List Entry))
    (hover : Filter.allOver table fs = true) :
    (server comparison objectLiteral).acceptsAll (table :: tables) (alternativesBound fs) =
      !Filter.anyBrokenForTicket fs := by
  cases fs with
  | nil => rfl
  | cons f fs =>
    simp only [Filter.allOver, Bool.and_eq_true] at hover
    rw [alternativesBound, acceptsAll_append, accepts_ticketBoundAll f hover.1,
      accepts_alternativesBound fs hover.2, Filter.anyBrokenForTicket, Bool.not_or]
end

mutual
theorem not_broken_of_read (e : Entry) (hread : e.readByTicket = true) :
    e.brokenForTicket = false := by
  cases e with
  | column _ _ => rfl
  | createdBy properties =>
    simp only [Entry.readByTicket, Bool.and_eq_true, bne_iff_ne] at hread
    simp [Entry.brokenForTicket, not_brokenAll_of_read properties hread.1, hread.2]
  | or alternatives =>
    simp only [Entry.readByTicket, Bool.and_eq_true] at hread
    exact not_anyBroken_of_read alternatives hread.1.2
  | and _ => simp [Entry.readByTicket] at hread

theorem not_brokenAll_of_read (f : List Entry) (hread : Filter.readByTicket f = true) :
    Filter.brokenForTicket f = false := by
  cases f with
  | nil => rfl
  | cons e f =>
    simp only [Filter.readByTicket, Bool.and_eq_true] at hread
    simp [Filter.brokenForTicket, not_broken_of_read e hread.1,
      not_brokenAll_of_read f hread.2]

theorem not_anyBroken_of_read (fs : List (List Entry)) (hread : Filter.allReadByTicket fs = true) :
    Filter.anyBrokenForTicket fs = false := by
  cases fs with
  | nil => rfl
  | cons f fs =>
    simp only [Filter.allReadByTicket, Bool.and_eq_true] at hread
    simp [Filter.anyBrokenForTicket, not_brokenAll_of_read f hread.1,
      not_anyBroken_of_read fs hread.2]
end

theorem selects_anyOf (scope : Scope) (cs : List (Condition Js)) :
    selects comparison objectLiteral db scope (.anyOf cs) =
      cs.any (selects comparison objectLiteral db scope) := by
  simp [selects, Server.eval, Server.evalAll_eq, Function.comp_def, List.any_map]
  rfl

theorem selects_allOf (scope : Scope) (cs : List (Condition Js)) :
    selects comparison objectLiteral db scope (.allOf cs) =
      cs.all (selects comparison objectLiteral db scope) := by
  simp [selects, Server.eval, Server.evalAll_eq, Function.comp_def, List.all_map]
  rfl

theorem selects_linked_creator (row : Row) (outer : Scope) (cs : List (Condition Js)) :
    selects comparison objectLiteral db (("Ticket", row) :: outer)
        (.linked "User" "id" "Ticket" "createdById" cs) =
      (db "User").any fun user =>
        joined comparison (user "id") (row "createdById") &&
          cs.all (selects comparison objectLiteral db
            (("User", user) :: ("Ticket", row) :: outer)) := by
  simp [selects, Server.eval, Server.evalAll_eq, Function.comp_def, List.all_map, joined]
  rfl

theorem alternativesBound_eq_nil {fs : List Filter}
    (h : fs.all (Filter.clauseCount · == 0) = true) :
    alternativesBound fs = [] ∧ ∀ f ∈ fs, ticketBoundAll f = [] := by
  simp only [List.all_eq_true, beq_iff_eq] at h
  have heach : ∀ f ∈ fs, ticketBoundAll f = [] := by
    intro f hf
    rw [← List.length_eq_zero_iff, length_ticketBoundAll, h f hf]
  refine ⟨?_, heach⟩
  clear h
  induction fs with
  | nil => rfl
  | cons f fs ih =>
    rw [alternativesBound, heach f (by simp), ih fun g hg => heach g (by simp [hg])]
    rfl

mutual
theorem selects_ticketBound {table : String} (row : Row) (outer : Scope) (e : Entry)
    (hover : e.isOver table = true) (hread : e.readByTicket = true) :
    (ticketBound e).all (selects comparison objectLiteral db ((table, row) :: outer)) =
      e.holds comparison db row := by
  cases e with
  | column name test =>
    simp only [Entry.isOver, List.contains_eq_mem, decide_eq_true_eq] at hover
    simp [ticketBound, Entry.holds,
      selects_testBound comparison objectLiteral db row outer hover test hread]
  | createdBy properties =>
    simp only [Entry.isOver, Bool.and_eq_true, decide_eq_true_eq] at hover
    simp only [Entry.readByTicket, Bool.and_eq_true] at hread
    obtain ⟨rfl, hproperties⟩ := hover
    have hinner := fun user => selects_ticketBoundAll user (("Ticket", row) :: outer) properties
      hproperties hread.1
    simp only [ticketBound, List.all_cons, List.all_nil, Bool.and_true, selects_linked_creator,
      hinner, Entry.holds]
  | or alternatives =>
    simp only [Entry.readByTicket, Bool.and_eq_true, Bool.or_eq_true, Bool.not_eq_true'] at hread
    obtain ⟨⟨hne, hread⟩, hone | hnone⟩ := hread
    · have hany := selects_alternativesBound row outer alternatives hover hread hone
      rw [ticketBound, Entry.holds, ← hany]
      -- an alternative was written, so the group is not dropped
      have hcount : (alternativesBound alternatives).isEmpty = false := by
        cases alternatives with
        | nil => simp at hne
        | cons f fs =>
          simp only [List.all_cons, Bool.and_eq_true, beq_iff_eq] at hone
          rw [← length_ticketBoundAll] at hone
          rw [alternativesBound]
          cases hf : ticketBoundAll f with
          | nil => simp [hf] at hone
          | cons _ _ => rfl
      simp [grouped, hcount, selects_anyOf]
    · obtain ⟨hgroup, heach⟩ := alternativesBound_eq_nil hnone
      cases alternatives with
      | nil => simp at hne
      | cons f fs =>
        simp only [Entry.isOver, Filter.allOver, Bool.and_eq_true] at hover
        simp only [Filter.allReadByTicket, Bool.and_eq_true] at hread
        have hfirst := selects_ticketBoundAll row outer f hover.1 hread.1
        rw [heach f (by simp), List.all_nil] at hfirst
        simp [ticketBound, hgroup, grouped, Entry.holds, Filter.anyHolds, ← hfirst]
  | and parts => simp [Entry.readByTicket] at hread

theorem selects_ticketBoundAll {table : String} (row : Row) (outer : Scope) (f : List Entry)
    (hover : Filter.isOver table f = true) (hread : Filter.readByTicket f = true) :
    (ticketBoundAll f).all (selects comparison objectLiteral db ((table, row) :: outer)) =
      Filter.holds comparison db row f := by
  cases f with
  | nil => rfl
  | cons e f =>
    simp only [Filter.isOver, Bool.and_eq_true] at hover
    simp only [Filter.readByTicket, Bool.and_eq_true] at hread
    rw [ticketBoundAll, List.all_append, selects_ticketBound row outer e hover.1 hread.1,
      selects_ticketBoundAll row outer f hover.2 hread.2, Filter.holds]

theorem selects_alternativesBound {table : String} (row : Row) (outer : Scope)
    (fs : List (List Entry)) (hover : Filter.allOver table fs = true)
    (hread : Filter.allReadByTicket fs = true)
    (hone : fs.all (Filter.clauseCount · == 1) = true) :
    (alternativesBound fs).any (selects comparison objectLiteral db ((table, row) :: outer)) =
      Filter.anyHolds comparison db row fs := by
  cases fs with
  | nil => rfl
  | cons f fs =>
    simp only [Filter.allOver, Bool.and_eq_true] at hover
    simp only [Filter.allReadByTicket, Bool.and_eq_true] at hread
    simp only [List.all_cons, Bool.and_eq_true, beq_iff_eq] at hone
    have hfirst := selects_ticketBoundAll row outer f hover.1 hread.1
    have hrest := selects_alternativesBound row outer fs hover.2 hread.2 hone.2
    obtain ⟨c, hc⟩ : ∃ c, ticketBoundAll f = [c] := by
      rw [← List.length_eq_one_iff, length_ticketBoundAll, hone.1]
    rw [hc, List.all_cons, List.all_nil, Bool.and_true] at hfirst
    rw [alternativesBound, List.any_append, hc, hrest, List.any_cons, List.any_nil,
      Bool.or_false, hfirst, Filter.anyHolds]
end

end TicketReading

section InlineReading

variable (comparison : Comparison) (objectLiteral : Js → Option Scalar) (db : Db) (row : Row)

/-- A clause that is accepted for a table and true of the rows an entry holds of. -/
structure Reads (table : String) (c : Condition Js) (e : Entry) : Prop where
  accepted : (server comparison objectLiteral).accepts [table] c = true
  selected : selects comparison objectLiteral db [(table, row)] c = e.holds comparison db row

variable {comparison objectLiteral db row}

theorem reads_test {table name : String} (h : name ∈ columns table) (test : ColumnTest)
    (hplain : test.plain = true) :
    Reads comparison objectLiteral db row table (testBound name test) (.column name test) :=
  ⟨accepts_testBound comparison objectLiteral h test,
    selects_testBound comparison objectLiteral db row [] h test hplain⟩

theorem mem_of_over {table name : String} {test : ColumnTest}
    (h : (Entry.column name test).isOver table = true) : name ∈ columns table := by
  simpa [Entry.isOver] using h

theorem reads_assetOrBound {e : Entry} (hover : e.isOver "Asset" = true)
    (hread : e.readByAssetOr = true) :
    Reads comparison objectLiteral db row "Asset" (assetOrBound e) e := by
  cases e with
  | column name test =>
    cases test with
    | equals value => exact reads_test (mem_of_over hover) (.equals value) rfl
    | contains s => exact reads_test (mem_of_over hover) (.contains s) hread
    | isNull | isIn _ | range _ => simp [Entry.readByAssetOr] at hread
  | createdBy _ | or _ | and _ => simp [Entry.readByAssetOr] at hread

theorem reads_assetAndBound {e : Entry} (hover : e.isOver "Asset" = true)
    (hread : e.readByAssetAnd = true) :
    Reads comparison objectLiteral db row "Asset" (assetAndBound e) e := by
  cases e with
  | column name test =>
    cases test with
    | equals value => exact reads_test (mem_of_over hover) (.equals value) rfl
    | isNull => exact reads_test (mem_of_over hover) .isNull rfl
    | isIn values => exact reads_test (mem_of_over hover) (.isIn values) rfl
    | contains s => exact reads_test (mem_of_over hover) (.contains s) hread
    | range _ => simp [Entry.readByAssetAnd] at hread
  | createdBy _ | or _ | and _ => simp [Entry.readByAssetAnd] at hread

theorem reads_map {table : String} {bound : Entry → Condition Js} {f : Filter}
    (h : ∀ e ∈ f, Reads comparison objectLiteral db row table (bound e) e) :
    (server comparison objectLiteral).acceptsAll [table] (f.map bound) = true ∧
      (f.map bound).any (selects comparison objectLiteral db [(table, row)]) =
        f.any (·.holds comparison db row) ∧
      (f.map bound).all (selects comparison objectLiteral db [(table, row)]) =
        f.all (·.holds comparison db row) := by
  induction f with
  | nil => exact ⟨rfl, rfl, rfl⟩
  | cons e f ih =>
    obtain ⟨haccepts, hany, hall⟩ := ih fun e' he' => h e' (by simp [he'])
    have hfirst := h e (by simp)
    refine ⟨?_, ?_, ?_⟩
    · rw [List.map_cons, Server.acceptsAll, hfirst.accepted, haccepts]
      rfl
    · rw [List.map_cons, List.any_cons, List.any_cons, hany, hfirst.selected]
    · rw [List.map_cons, List.all_cons, List.all_cons, hall, hfirst.selected]

theorem anyHolds_of_singletons {fs : List Filter} (h : fs.all (·.length == 1) = true) :
    Filter.anyHolds comparison db row fs = fs.flatten.any (·.holds comparison db row) := by
  induction fs with
  | nil => rfl
  | cons f fs ih =>
    simp only [List.all_cons, Bool.and_eq_true, beq_iff_eq] at h
    obtain ⟨e, rfl⟩ := List.length_eq_one_iff.mp h.1
    simp [Filter.anyHolds, Filter.holds, ih h.2]

theorem allHold_flatten (fs : List Filter) :
    Filter.allHold comparison db row fs = fs.flatten.all (·.holds comparison db row) := by
  induction fs with
  | nil => rfl
  | cons f fs ih =>
    simp only [Filter.allHold, Filter.holds_eq, ih, List.flatten_cons, List.all_append]

theorem reads_assetBound {e : Entry} (hover : e.isOver "Asset" = true)
    (hread : e.readByAsset = true) :
    (server comparison objectLiteral).acceptsAll ["Asset"] (assetBound e) = true ∧
      (assetBound e).all (selects comparison objectLiteral db [("Asset", row)]) =
        e.holds comparison db row := by
  have hsingle : ∀ {c : Condition Js}, Reads comparison objectLiteral db row "Asset" c e →
      (server comparison objectLiteral).acceptsAll ["Asset"] [c] = true ∧
        [c].all (selects comparison objectLiteral db [("Asset", row)]) =
          e.holds comparison db row := by
    intro c hc
    simp [Server.acceptsAll, hc.accepted, hc.selected]
  cases e with
  | column name test =>
    have hname := mem_of_over hover
    cases test with
    | equals value => exact hsingle (reads_test hname (.equals value) rfl)
    | isNull => exact hsingle (reads_test hname .isNull rfl)
    | contains s => exact hsingle (reads_test hname (.contains s) hread)
    | isIn _ | range _ => simp [Entry.readByAsset] at hread
  | createdBy _ => simp [Entry.readByAsset] at hread
  | or alternatives =>
    simp only [Entry.readByAsset, Bool.and_eq_true, Bool.or_eq_true, Bool.not_eq_true'] at hread
    obtain ⟨⟨hne, hread⟩, hshape⟩ := hread
    have heach := Filter.isOver_of_allOver hover
    obtain ⟨haccepts, hany, -⟩ := @reads_map comparison objectLiteral db row _ _ _ fun e he =>
      reads_assetOrBound (heach e he) (List.all_eq_true.mp hread e he)
    refine ⟨by rwa [assetBound, acceptsAll_grouped comparison objectLiteral _ (.inl rfl)], ?_⟩
    rw [assetBound, Entry.holds]
    obtain hsingle | hempty := hshape
    · -- an alternative was written, so the group is not dropped
      have hwritten : (alternatives.flatten.map assetOrBound).isEmpty = false := by
        cases alternatives with
        | nil => simp at hne
        | cons f fs =>
          simp only [List.all_cons, Bool.and_eq_true, beq_iff_eq] at hsingle
          obtain ⟨e, rfl⟩ := List.length_eq_one_iff.mp hsingle.1
          rfl
      rw [grouped, hwritten, anyHolds_of_singletons hsingle, ← hany]
      simp only [Bool.false_eq_true, if_false, List.all_cons, List.all_nil, Bool.and_true,
        selects_anyOf]
    · cases alternatives with
      | nil => simp at hne
      | cons f fs =>
        have hflat : (f :: fs).flatten = [] := by
          simpa [List.flatten_eq_nil_iff] using hempty
        obtain rfl : f = [] := by simpa using (List.append_eq_nil_iff.mp hflat).1
        simp [hflat, grouped, Filter.anyHolds, Filter.holds]
  | and parts =>
    have heach := Filter.isOver_of_allOver hover
    obtain ⟨haccepts, -, hall⟩ := @reads_map comparison objectLiteral db row _ _ _ fun e he =>
      reads_assetAndBound (heach e he) (List.all_eq_true.mp hread e he)
    refine ⟨by rwa [assetBound, acceptsAll_grouped comparison objectLiteral _ (.inr rfl)], ?_⟩
    rw [assetBound, Entry.holds, allHold_flatten, ← hall]
    cases parts.flatten.map assetAndBound with
    | nil => rfl
    | cons c cs => simp [grouped, selects_allOf]

theorem reads_timelineBound {e : Entry} (hover : e.isOver "TicketTimeline" = true)
    (hread : e.readByTimeline = true) :
    Reads comparison objectLiteral db row "TicketTimeline" (timelineBound e) e := by
  cases e with
  | column name test =>
    have hname := mem_of_over hover
    cases test with
    | equals value => exact reads_test hname (.equals value) rfl
    | isNull => exact reads_test hname .isNull rfl
    | isIn _ | contains _ | range _ => simp [Entry.readByTimeline] at hread
  | createdBy _ | or _ | and _ => simp [Entry.readByTimeline] at hread

end InlineReading

namespace Query

variable (q : Query)

theorem reads_entryBound (comparison : Comparison) (objectLiteral : Js → Option Scalar) (db : Db)
    (row : Row) {e : Entry} (hover : e.isOver q.table = true) (hread : q.reads e = true) :
    (server comparison objectLiteral).acceptsAll [q.table] (q.entryBound e) = true ∧
      (q.entryBound e).all (selects comparison objectLiteral db [(q.table, row)]) =
        e.holds comparison db row := by
  cases q with
  | ticket =>
    have haccepts := @accepts_ticketBound comparison objectLiteral "Ticket" [] e hover
    rw [not_broken_of_read e hread] at haccepts
    exact ⟨haccepts, selects_ticketBound comparison objectLiteral db row [] e hover hread⟩
  | assetFindMany | assetCount => exact reads_assetBound hover hread
  | ticketTimeline =>
    have hreads := @reads_timelineBound comparison objectLiteral db row e hover hread
    simpa [entryBound, Server.acceptsAll, table] using And.intro hreads.accepted hreads.selected

theorem length_entryBound (e : Entry) : (q.entryBound e = []) ↔ q.writes e = false := by
  have hgrouped : ∀ (join : List (Condition Js) → Condition Js) (bound : Entry → Condition Js)
      (f : Filter), grouped join (f.map bound) = [] ↔ min 1 f.length = 0 := by
    intro join bound f
    cases f <;> simp [grouped]
  cases q with
  | ticket => simp [entryBound, writes, ← length_ticketBound]
  | assetFindMany | assetCount =>
    cases e with
    | or lists | and lists =>
      simp only [entryBound, writes, assetBound, Entry.assetClauseCount, hgrouped]
      simp
    | column name test => cases test <;> simp [entryBound, writes, assetBound, Entry.assetClauseCount]
    | createdBy _ => simp [entryBound, writes, assetBound, Entry.assetClauseCount]
  | ticketTimeline => simp [entryBound, writes]

theorem bound_eq_nil (f : Filter) : q.bound f = [] ↔ f.any q.writes = false := by
  simp [bound, length_entryBound]

/-- What a query with a non-empty filter finds: all rows its clauses are true
of, if the statement is complete and accepted. -/
theorem rows_eq (comparison : Comparison) (objectLiteral : Js → Option Scalar) (db : Db)
    {f : Filter} (hover : Filter.isOver q.table f = true) (hne : f.isEmpty = false) :
    q.rows (server comparison objectLiteral) db (Filter.fields f) =
      if f.any q.writes = true ∧
          (server comparison objectLiteral).acceptsAll [q.table] (q.bound f) = true then
        some ((db q.table).filter fun row =>
          f.all fun e =>
            (q.entryBound e).all (selects comparison objectLiteral db [(q.table, row)]))
      else none := by
  rw [q.rows_of _ _ _ hover, hne]
  simp only [Bool.false_eq_true, if_false]
  have hwrites := q.bound_eq_nil f
  by_cases hnil : q.bound f = []
  · simp [hnil, hwrites.mp hnil, Server.select, Condition.textAll, Condition.mapAll]
  · have hsome : f.any q.writes = true := by
      rw [← Bool.not_eq_false]
      exact fun h => hnil (hwrites.mpr h)
    by_cases haccepts : (server comparison objectLiteral).acceptsAll [q.table] (q.bound f) = true
    · have hselect := (server comparison objectLiteral).select_text db q.table (q.bound f) [] hnil
        haccepts
      rw [List.append_nil] at hselect
      rw [hselect, if_pos ⟨hsome, haccepts⟩]
      simp only [bound, List.all_flatMap]
      rfl
    · have hselect := (server comparison objectLiteral).select_refused db q.table (q.bound f) []
        (Bool.not_eq_true _ ▸ haccepts)
      rw [List.append_nil] at hselect
      rw [hselect, if_neg fun h => haccepts h.2]

theorem holds_of_mem_rows {comparison : Comparison} {objectLiteral : Js → Option Scalar} {db : Db}
    {f : Filter} {rows : List Row} {row : Row} {e : Entry}
    (hover : Filter.isOver q.table f = true)
    (hrows : q.rows (server comparison objectLiteral) db (Filter.fields f) = some rows)
    (hrow : row ∈ rows) (he : e ∈ f) (hread : q.reads e = true) :
    row ∈ db q.table ∧ e.holds comparison db row = true := by
  have hne : f.isEmpty = false := by
    cases f with
    | nil => simp at he
    | cons _ _ => rfl
  rw [q.rows_eq comparison objectLiteral db hover hne] at hrows
  split at hrows
  · obtain rfl := Option.some.inj hrows
    obtain ⟨hmem, hall⟩ := List.mem_filter.mp hrow
    rw [Filter.isOver_eq, List.all_eq_true] at hover
    have hentry := q.reads_entryBound comparison objectLiteral db row (hover e he) hread
    exact ⟨hmem, hentry.2 ▸ List.all_eq_true.mp hall e he⟩
  · cases hrows

theorem mem_rows_of_subset {comparison : Comparison} {objectLiteral : Js → Option Scalar} {db : Db}
    {f g : Filter} {rows : List Row} {row : Row} (hover : Filter.isOver q.table g = true)
    (hsubset : ∀ e ∈ f, e ∈ g) (hwrites : f.any q.writes = true)
    (hrows : q.rows (server comparison objectLiteral) db (Filter.fields g) = some rows)
    (hrow : row ∈ rows) :
    ∃ rows', q.rows (server comparison objectLiteral) db (Filter.fields f) = some rows' ∧
      row ∈ rows' := by
  have hover' : Filter.isOver q.table f = true := by
    rw [Filter.isOver_eq, List.all_eq_true] at hover ⊢
    exact fun e he => hover e (hsubset e he)
  have hnef : f.isEmpty = false := by
    cases f with
    | nil => simp at hwrites
    | cons _ _ => rfl
  have hneg : g.isEmpty = false := by
    cases f with
    | nil => simp at hwrites
    | cons e f =>
      cases g with
      | nil => exact absurd (hsubset e List.mem_cons_self) List.not_mem_nil
      | cons _ _ => rfl
  rw [q.rows_eq comparison objectLiteral db hover hneg] at hrows
  rw [q.rows_eq comparison objectLiteral db hover' hnef]
  split at hrows
  · next hg =>
      obtain rfl := Option.some.inj hrows
      obtain ⟨hmem, hall⟩ := List.mem_filter.mp hrow
      have haccepts : (server comparison objectLiteral).acceptsAll [q.table] (q.bound f) = true := by
        have haccepted := hg.2
        rw [Server.acceptsAll_eq, bound, List.all_flatMap, List.all_eq_true] at haccepted ⊢
        exact fun e he => haccepted e (hsubset e he)
      refine ⟨_, if_pos ⟨hwrites, haccepts⟩, List.mem_filter.mpr ⟨hmem, ?_⟩⟩
      rw [List.all_eq_true] at hall ⊢
      exact fun e he => hall e (hsubset e he)
  · cases hrows
theorem correct_of_supports {f : Filter} (hover : Filter.isOver q.table f = true)
    (hsupports : q.supports f = true) : q.Correct f := by
  intro comparison objectLiteral db
  simp only [supports, Bool.and_eq_true, Bool.or_eq_true] at hsupports
  obtain ⟨hreads, hwritten⟩ := hsupports
  cases hempty : f.isEmpty with
  | true =>
    obtain rfl := List.isEmpty_iff.mp hempty
    simp [q.rows_of _ _ _ hover, Filter.holds]
  | false =>
    rw [hempty] at hwritten
    rw [List.all_eq_true] at hreads
    rw [q.rows_eq comparison objectLiteral db hover hempty]
    rw [Filter.isOver_eq, List.all_eq_true] at hover
    have haccepts : (server comparison objectLiteral).acceptsAll [q.table] (q.bound f) = true := by
      rw [Server.acceptsAll_eq, bound, List.all_flatMap, List.all_eq_true]
      intro e he
      rw [← Server.acceptsAll_eq]
      exact (q.reads_entryBound comparison objectLiteral db (fun _ => none) (hover e he)
        (hreads e he)).1
    rw [if_pos ⟨hwritten.resolve_left (by simp), haccepts⟩, Option.some.injEq]
    refine List.filter_congr fun row _ => ?_
    rw [Filter.holds_eq, Bool.eq_iff_iff, List.all_eq_true, List.all_eq_true]
    refine forall₂_congr fun e he => ?_
    rw [(q.reads_entryBound comparison objectLiteral db row (hover e he) (hreads e he)).2]

end Query

section Refusal

namespace Entry

/-- A list inside a list is written as a column by the asset compilers. -/
def brokenForAsset : Entry → Bool
  | or lists | and lists => lists.flatten.any isList
  | _ => false

end Entry

def Query.breaksOn : Query → Entry → Bool
  | .ticket => Entry.brokenForTicket
  | .assetFindMany | .assetCount => Entry.brokenForAsset
  | .ticketTimeline => Entry.isList

/-- The statement is refused: a clause is broken, or `WHERE` is followed by
nothing. -/
def Query.refuses (q : Query) (f : Filter) : Bool :=
  !f.isEmpty && (f.any q.breaksOn || !f.any q.writes)

variable (comparison : Comparison) (objectLiteral : Js → Option Scalar)

theorem refuses_map {tables : List String} {bound : Entry → Condition Js}
    (hbound : ∀ e : Entry, e.isList = true → bound e = equalBound e) {f : Filter}
    (h : f.any Entry.isList = true) :
    (server comparison objectLiteral).acceptsAll tables (f.map bound) = false := by
  obtain ⟨e, he, hlist⟩ := List.any_eq_true.mp h
  rw [Server.acceptsAll_eq, List.all_map, List.all_eq_false]
  refine ⟨e, he, ?_⟩
  rw [Function.comp_apply, hbound e hlist,
    accepts_equalBound_list comparison objectLiteral tables hlist]
  simp

theorem refuses_assetBound {tables : List String} {e : Entry} (h : e.brokenForAsset = true) :
    (server comparison objectLiteral).acceptsAll tables (assetBound e) = false := by
  cases e with
  | column _ _ | createdBy _ => simp [Entry.brokenForAsset] at h
  | or alternatives =>
    rw [assetBound, acceptsAll_grouped comparison objectLiteral _ (.inl rfl)]
    refine refuses_map comparison objectLiteral (fun e he => ?_) h
    cases e with
    | or _ | and _ => rfl
    | column _ _ | createdBy _ => simp [Entry.isList] at he
  | and parts =>
    rw [assetBound, acceptsAll_grouped comparison objectLiteral _ (.inr rfl)]
    refine refuses_map comparison objectLiteral (fun e he => ?_) h
    cases e with
    | or _ | and _ => rfl
    | column _ _ | createdBy _ => simp [Entry.isList] at he

theorem Query.refuses_entryBound (q : Query) {e : Entry} (hover : e.isOver q.table = true)
    (h : q.breaksOn e = true) :
    (server comparison objectLiteral).acceptsAll [q.table] (q.entryBound e) = false := by
  cases q with
  | ticket =>
    have haccepts := @accepts_ticketBound comparison objectLiteral "Ticket" [] e hover
    rwa [show e.brokenForTicket = true from h] at haccepts
  | assetFindMany | assetCount => exact refuses_assetBound comparison objectLiteral h
  | ticketTimeline =>
    have hbound : timelineBound e = equalBound e := by
      cases e with
      | or _ | and _ => rfl
      | column _ _ | createdBy _ => simp [Query.breaksOn, Entry.isList] at h
    simp [Query.entryBound, hbound, Server.acceptsAll,
      accepts_equalBound_list comparison objectLiteral [Query.ticketTimeline.table] h]

/-- Whatever is stored, a broken clause or an empty `WHERE` fails the query. -/
theorem Query.rows_of_refuses (q : Query) (db : Db) {f : Filter}
    (hover : Filter.isOver q.table f = true) (hrefuses : q.refuses f = true) :
    q.rows (server comparison objectLiteral) db (Filter.fields f) = none := by
  simp only [refuses, Bool.and_eq_true, Bool.not_eq_true', Bool.or_eq_true] at hrefuses
  obtain ⟨hne, hbroken | hsilent⟩ := hrefuses
  · obtain ⟨e, he, hbreaks⟩ := List.any_eq_true.mp hbroken
    rw [q.rows_eq comparison objectLiteral db hover hne]
    rw [Filter.isOver_eq, List.all_eq_true] at hover
    refine if_neg fun ⟨_, haccepts⟩ => ?_
    rw [Server.acceptsAll_eq, bound, List.all_flatMap, List.all_eq_true] at haccepts
    have hentry := haccepts e he
    rw [← Server.acceptsAll_eq,
      q.refuses_entryBound comparison objectLiteral (hover e he) hbreaks] at hentry
    cases hentry
  · rw [q.rows_eq comparison objectLiteral db hover hne, hsilent]
    exact if_neg fun h => Bool.false_ne_true h.1

end Refusal

namespace Query

/-- Each compiler reads as meant the filters that keep to the shapes it has a
branch for, and loses for good those it writes a broken clause for. -/
theorem filter_compiler_correctness (q : Query) (f : Filter)
    (hover : Filter.isOver q.table f = true) :
    (q.supports f = true → q.Correct f) ∧ (q.refuses f = true → ¬ q.Correct f) := by
  refine ⟨q.correct_of_supports hover, fun hrefuses hcorrect => ?_⟩
  have hrows := hcorrect Comparison.binary (fun _ => none) fun _ => []
  rw [q.rows_of_refuses _ _ _ hover hrefuses] at hrows
  cases hrows

/-- The ticket list of a global technician, searched by number. -/
theorem filter_compiler_correctness_global_tech :
    ticket.Correct [.column "deletedAt" .isNull,
      .or [[.column "companyId" .isNull],
        [.createdBy [.column "userType" (.equals (.text "PUBLIC"))]]],
      .column "ticketNumber" (.contains "TKT-0001")] :=
  (filter_compiler_correctness ticket _ (by decide)).1 (by decide)

/-- The ticket list of a technician whose scopes admit nothing: the denial is
written under `AND`. -/
theorem filter_compiler_incorrect_scope_denied :
    ¬ ∀ (q : Query) (f : Filter), Filter.isOver q.table f = true → q.Correct f := by
  intro hall
  have hover : Filter.isOver ticket.table [.column "deletedAt" .isNull,
      .column "companyId" (.equals (.text "company-1")),
      .and [[.column "id" (.equals (.text "__scope_denied__"))]]] = true := by
    decide
  have hrows := hall ticket _ hover Comparison.binary (fun _ => none) fun _ => []
  have hsome := congrArg Option.isSome hrows
  revert hsome
  decide

end Query
end FieldserviceIT.Database
