import FieldserviceIT.Database.WhereClauses

/-!
The filter objects the services build, as a syntax of their own, and what they
mean: the keys of one object are conjoined, `OR` is the disjunction of its
alternatives, `AND` the conjunction of its parts, `createdBy` asks for a
creator with the given properties. The meaning mentions neither SQL nor
parameters; it borrows only the comparisons of column values.
-/

namespace FieldserviceIT.Database

open Lib Sql

inductive Bounds where
  | atLeast (low : Scalar)
  | atMost (high : Scalar)
  | between (low high : Scalar)

inductive ColumnTest where
  | equals (value : Scalar)
  | isNull
  | isIn (values : List Scalar)
  | contains (s : String)
  | range (bounds : Bounds)

inductive Entry where
  | column (name : String) (test : ColumnTest)
  | createdBy (properties : List Entry)
  | or (alternatives : List (List Entry))
  | and (parts : List (List Entry))

abbrev Filter := List Entry

namespace Bounds

def holds (comparison : Comparison) (x : Scalar) : Bounds → Bool
  | atLeast low => comparison.atMost low x
  | atMost high => comparison.atMost x high
  | between low high => comparison.atMost low x && comparison.atMost x high

def toJs : Bounds → Js
  | atLeast low => .object [("gte", .scalar low)]
  | atMost high => .object [("lte", .scalar high)]
  | between low high => .object [("gte", .scalar low), ("lte", .scalar high)]

end Bounds

namespace ColumnTest

/-- A missing value passes no test but the one for being missing. -/
def holds (comparison : Comparison) : ColumnTest → Option Scalar → Bool
  | isNull, x => x.isNone
  | equals value, x => x.any (comparison.equal · value)
  | isIn values, x => x.any fun a => values.any (comparison.equal a)
  | contains s, x => x.any fun a => containsBy comparison.sameChar s.toList (comparison.written a)
  | range bounds, x => x.any (bounds.holds comparison)

def toJs : ColumnTest → Js
  | isNull => .null
  | equals value => .scalar value
  | isIn values => .object [("in", .array (values.map .scalar))]
  | contains s => .object [("contains", .text s)]
  | range bounds => bounds.toJs

end ColumnTest

def joined (comparison : Comparison) (a b : Option Scalar) : Bool :=
  a.any fun x => b.any fun y => comparison.equal x y

mutual
def Entry.holds (comparison : Comparison) (db : Db) (row : Row) : Entry → Bool
  | .column name test => test.holds comparison (row name)
  | .createdBy properties =>
    (db "User").any fun user =>
      joined comparison (user "id") (row "createdById") &&
        Filter.holds comparison db user properties
  | .or alternatives => Filter.anyHolds comparison db row alternatives
  | .and parts => Filter.allHold comparison db row parts

def Filter.holds (comparison : Comparison) (db : Db) (row : Row) : List Entry → Bool
  | [] => true
  | e :: f => e.holds comparison db row && Filter.holds comparison db row f

def Filter.anyHolds (comparison : Comparison) (db : Db) (row : Row) : List (List Entry) → Bool
  | [] => false
  | f :: fs => Filter.holds comparison db row f || Filter.anyHolds comparison db row fs

def Filter.allHold (comparison : Comparison) (db : Db) (row : Row) : List (List Entry) → Bool
  | [] => true
  | f :: fs => Filter.holds comparison db row f && Filter.allHold comparison db row fs
end

def Entry.key : Entry → String
  | .column name _ => name
  | .createdBy _ => "createdBy"
  | .or _ => "OR"
  | .and _ => "AND"

mutual
def Entry.toJs : Entry → Js
  | .column _ test => test.toJs
  | .createdBy properties => .object (Filter.fields properties)
  | .or alternatives => .array (Filter.records alternatives)
  | .and parts => .array (Filter.records parts)

def Filter.fields : List Entry → List (String × Js)
  | [] => []
  | e :: f => (e.key, e.toJs) :: Filter.fields f

def Filter.records : List (List Entry) → List Js
  | [] => []
  | f :: fs => .object (Filter.fields f) :: Filter.records fs
end

mutual
/-- Every column belongs to the table it is asked of; only tickets have a
creator. -/
def Entry.isOver (table : String) : Entry → Bool
  | .column name _ => (columns table).contains name
  | .createdBy properties => table = "Ticket" && Filter.isOver "User" properties
  | .or alternatives => Filter.allOver table alternatives
  | .and parts => Filter.allOver table parts

def Filter.isOver (table : String) : List Entry → Bool
  | [] => true
  | e :: f => e.isOver table && Filter.isOver table f

def Filter.allOver (table : String) : List (List Entry) → Bool
  | [] => true
  | f :: fs => Filter.isOver table f && Filter.allOver table fs
end

namespace Filter

theorem fields_eq (f : Filter) : fields f = f.map fun e => (e.key, e.toJs) := by
  induction f with
  | nil => rfl
  | cons e f ih => simp only [fields, ih, List.map_cons]

@[simp] theorem fields_isEmpty (f : Filter) : (fields f).isEmpty = f.isEmpty := by
  cases f <;> rfl

theorem holds_eq (comparison : Comparison) (db : Db) (row : Row) (f : Filter) :
    holds comparison db row f = f.all (·.holds comparison db row) := by
  induction f with
  | nil => rfl
  | cons e f ih => simp only [holds, ih, List.all_cons]

theorem isOver_eq (table : String) (f : Filter) : isOver table f = f.all (·.isOver table) := by
  induction f with
  | nil => rfl
  | cons e f ih => simp only [isOver, ih, List.all_cons]

theorem isOver_column {table name : String} (h : name ∈ columns table) (test : ColumnTest) :
    isOver table [.column name test] = true := by
  simp [isOver, Entry.isOver, h]

theorem isOver_append {table : String} {f g : Filter} (hf : isOver table f = true)
    (hg : isOver table g = true) : isOver table (f ++ g) = true := by
  rw [isOver_eq, List.all_append, ← isOver_eq, ← isOver_eq, hf, hg]
  rfl

theorem allOver_eq (table : String) (fs : List Filter) :
    allOver table fs = fs.all (isOver table) := by
  induction fs with
  | nil => rfl
  | cons f fs ih => simp only [allOver, ih, List.all_cons]

theorem isOver_of_allOver {table : String} {fs : List Filter} (h : allOver table fs = true) :
    ∀ e ∈ fs.flatten, e.isOver table = true := by
  intro e he
  obtain ⟨f, hf, hef⟩ := List.mem_flatten.mp he
  rw [allOver_eq, List.all_eq_true] at h
  have hover := h f hf
  rw [isOver_eq, List.all_eq_true] at hover
  exact hover e hef

theorem recordEntries_records (fs : List Filter) :
    recordEntries (records fs) = .ok (fields fs.flatten) := by
  induction fs with
  | nil => rfl
  | cons f fs ih =>
    simp only [records, recordEntries, ih, List.flatten_cons, fields_eq, List.map_append]
    rfl

end Filter
end FieldserviceIT.Database
