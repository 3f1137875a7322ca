/-!
Values that travel between the services and the database: column values, the
JavaScript values filter objects and parameter lists are made of, rows and
tables, and the comparisons the server makes between column values.
-/

namespace FieldserviceIT.Sql

/-- A column value other than `NULL`. -/
inductive Scalar where
  | text (s : String)
  | number (n : Int)
  | instant (milliseconds : Int)
  | flag (b : Bool)
  deriving DecidableEq

inductive Js where
  | null
  | undefined
  | scalar (v : Scalar)
  | array (items : List Js)
  | object (fields : List (String × Js))

namespace Js

def text (s : String) : Js := .scalar (.text s)

def ofOption : Option Scalar → Js
  | some v => .scalar v
  | none => .null

/-- Member access: a property that is not there reads as `undefined`. -/
def property (name : String) : Js → Js
  | object fields => (fields.lookup name).getD undefined
  | _ => undefined

def entries : Js → List (String × Js)
  | object fields => fields
  | _ => []

def isDefined : Js → Bool
  | undefined => false
  | _ => true

/-- Member assignment: an existing key keeps its place, a new one goes last. -/
def assign (name : String) (value : Js) : List (String × Js) → List (String × Js)
  | [] => [(name, value)]
  | (key, old) :: fields =>
    if key = name then (key, value) :: fields else (key, old) :: assign name value fields

end Js

abbrev Row := String → Option Scalar

abbrev Db := String → List Row

/-- What the server's collation and type rules decide about two column values.
`written` is the text a value takes part in a pattern match with. -/
structure Comparison where
  equal : Scalar → Scalar → Bool
  atMost : Scalar → Scalar → Bool
  sameChar : Char → Char → Bool
  written : Scalar → List Char
  equal_refl : ∀ v, equal v v = true
  equal_comm : ∀ v w, equal v w = equal w v
  sameChar_refl : ∀ c, sameChar c c = true
  written_text : ∀ s, written (.text s) = s.toList

def Comparison.binary : Comparison where
  equal a b := decide (a = b)
  atMost a b :=
    match a, b with
    | .number m, .number n | .instant m, .instant n => decide (m ≤ n)
    | .text s, .text t => decide (s ≤ t)
    | _, _ => false
  sameChar a b := a == b
  written
    | .text s => s.toList
    | .number n | .instant n => (toString n).toList
    | .flag b => [if b then '1' else '0']
  equal_refl := by simp
  equal_comm v w := by simp [eq_comm]
  sameChar_refl := by simp
  written_text _ := rfl

end FieldserviceIT.Sql
