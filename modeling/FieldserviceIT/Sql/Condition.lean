import FieldserviceIT.Lib.Like
import FieldserviceIT.Lib.Truth
import FieldserviceIT.Sql.Value

/-!
Conditions of a `WHERE` clause. A statement's text has a placeholder wherever a
value goes, and the driver puts the values of the parameter list in the
placeholders in textual order; `fill` is that step. Whether the server accepts
a condition depends on the statement alone (its columns, its empty lists), and
an accepted condition has a three-valued meaning on every row.
-/

namespace FieldserviceIT.Sql

open Lib

inductive CompareOp where
  | eq
  | ne
  | ge
  | le
  deriving DecidableEq

/-- `α` is what stands at a placeholder: nothing in the text of a statement, a
value once the parameters are bound. -/
inductive Condition (α : Type) where
  | isNull (column : String)
  | isNotNull (column : String)
  | compare (op : CompareOp) (column : String) (value : α)
  | like (column : String) (pattern : α)
  | isIn (column : String) (values : List α)
  /-- `column NOT IN (…)` with the values written out in the text -/
  | notIn (column : String) (constants : List Scalar)
  /-- `1 = 0` -/
  | never
  /-- `1 = 1` -/
  | always
  /-- `(c₁ OR … OR cₙ)` -/
  | anyOf (clauses : List (Condition α))
  /-- `(c₁ AND … AND cₙ)` -/
  | allOf (clauses : List (Condition α))
  /-- `EXISTS (SELECT 1 FROM t WHERE t.key = outer.outerKey AND c₁ AND … AND cₙ)` -/
  | linked (table key outer outerKey : String) (clauses : List (Condition α))

namespace Condition

mutual
def map {α β : Type} (f : α → β) : Condition α → Condition β
  | isNull c => isNull c
  | isNotNull c => isNotNull c
  | compare op c v => compare op c (f v)
  | like c p => like c (f p)
  | isIn c vs => isIn c (vs.map f)
  | notIn c vs => notIn c vs
  | never => never
  | always => always
  | anyOf cs => anyOf (mapAll f cs)
  | allOf cs => allOf (mapAll f cs)
  | linked t k o ok cs => linked t k o ok (mapAll f cs)

def mapAll {α β : Type} (f : α → β) : List (Condition α) → List (Condition β)
  | [] => []
  | c :: cs => map f c :: mapAll f cs
end

mutual
def holes {α : Type} : Condition α → List α
  | compare _ _ v => [v]
  | like _ p => [p]
  | isIn _ vs => vs
  | anyOf cs | allOf cs | linked _ _ _ _ cs => holesAll cs
  | _ => []

def holesAll {α : Type} : List (Condition α) → List α
  | [] => []
  | c :: cs => holes c ++ holesAll cs
end

mutual
/-- Put the first values of the list in the placeholders, left to right, and
return the values left over; `none` when they run out. -/
def fill {α β : Type} : Condition α → List β → Option (Condition β × List β)
  | isNull c, vs => some (isNull c, vs)
  | isNotNull c, vs => some (isNotNull c, vs)
  | compare op c _, v :: vs => some (compare op c v, vs)
  | compare _ _ _, [] => none
  | like c _, v :: vs => some (like c v, vs)
  | like _ _, [] => none
  | isIn c hs, vs =>
    if hs.length ≤ vs.length then some (isIn c (vs.take hs.length), vs.drop hs.length) else none
  | notIn c cs, vs => some (notIn c cs, vs)
  | never, vs => some (never, vs)
  | always, vs => some (always, vs)
  | anyOf cs, vs => (fillAll cs vs).map fun p => (anyOf p.1, p.2)
  | allOf cs, vs => (fillAll cs vs).map fun p => (allOf p.1, p.2)
  | linked t k o ok cs, vs => (fillAll cs vs).map fun p => (linked t k o ok p.1, p.2)

def fillAll {α β : Type} : List (Condition α) → List β → Option (List (Condition β) × List β)
  | [], vs => some ([], vs)
  | c :: cs, vs =>
    (fill c vs).bind fun p => (fillAll cs p.2).map fun q => (p.1 :: q.1, q.2)
end

/-- The text of a condition: the values at its placeholders are forgotten. -/
abbrev text {α : Type} (c : Condition α) : Condition Unit := map (fun _ => ()) c

abbrev textAll {α : Type} (cs : List (Condition α)) : List (Condition Unit) :=
  mapAll (fun _ => ()) cs

mutual
/-- The `n`-th value of the parameter list ends up at the `n`-th placeholder. -/
theorem fill_text {α : Type} (c : Condition α) (rest : List α) :
    fill c.text (holes c ++ rest) = some (c, rest) := by
  cases c with
  | isNull _ | isNotNull _ | compare _ _ _ | like _ _ | notIn _ _ | never | always => rfl
  | isIn c vs => simp [text, map, fill, holes]
  | anyOf cs | allOf cs | linked _ _ _ _ cs =>
    simp [text, map, fill, holes, fillAll_textAll cs rest]

theorem fillAll_textAll {α : Type} (cs : List (Condition α)) (rest : List α) :
    fillAll (textAll cs) (holesAll cs ++ rest) = some (cs, rest) := by
  cases cs with
  | nil => rfl
  | cons c cs =>
    simp [textAll, mapAll, fillAll, holesAll, fill_text c, fillAll_textAll cs rest]
end

theorem mapAll_append {α β : Type} (f : α → β) (cs ds : List (Condition α)) :
    mapAll f (cs ++ ds) = mapAll f cs ++ mapAll f ds := by
  induction cs with
  | nil => rfl
  | cons c cs ih => simp [mapAll, ih]

theorem holesAll_append {α : Type} (cs ds : List (Condition α)) :
    holesAll (cs ++ ds) = holesAll cs ++ holesAll ds := by
  induction cs with
  | nil => rfl
  | cons c cs ih => simp [holesAll, ih]

@[simp] theorem mapAll_eq_nil {α β : Type} (f : α → β) (cs : List (Condition α)) :
    mapAll f cs = [] ↔ cs = [] := by
  cases cs <;> simp [mapAll]

end Condition

/-- A database server behind its driver. `objectLiteral` is the literal the
driver writes for a bound array or object, `none` when the statement it makes
is refused. -/
structure Server where
  columns : String → List String
  comparison : Comparison
  objectLiteral : Js → Option Scalar

/-- The tables a column name is resolved in, the innermost query first. -/
abbrev Scope := List (String × Row)

namespace Server

variable (sv : Server)

/-- The literal written for a bound value; the inner `none` is `NULL`. -/
def literal : Js → Option (Option Scalar)
  | .null | .undefined => some none
  | .scalar v => some (some v)
  | v => (sv.objectLiteral v).map some

def operand (v : Js) : Option Scalar := (sv.literal v).join

def column (scope : Scope) (name : String) : Option Scalar :=
  (scope.find? fun p => (sv.columns p.1).contains name).bind fun p => p.2 name

def compareBy : CompareOp → Scalar → Scalar → Bool
  | .eq, a, b => sv.comparison.equal a b
  | .ne, a, b => !sv.comparison.equal a b
  | .ge, a, b => sv.comparison.atMost b a
  | .le, a, b => sv.comparison.atMost a b

def likeBy (value pattern : Scalar) : Bool :=
  likeMatch sv.comparison.sameChar (likeTokens (sv.comparison.written pattern))
    (sv.comparison.written value)

mutual
/-- The server takes the condition: every column is one of the tables in scope,
every value has a literal, and no list in the text is empty. -/
def accepts (tables : List String) : Condition Js → Bool
  | .isNull c | .isNotNull c => tables.any fun t => (sv.columns t).contains c
  | .compare _ c v | .like c v =>
    (tables.any fun t => (sv.columns t).contains c) && (sv.literal v).isSome
  | .isIn c vs =>
    (tables.any fun t => (sv.columns t).contains c) && !vs.isEmpty &&
      vs.all fun v => (sv.literal v).isSome
  | .notIn c vs => (tables.any fun t => (sv.columns t).contains c) && !vs.isEmpty
  | .never | .always => true
  | .anyOf cs | .allOf cs => !cs.isEmpty && acceptsAll tables cs
  | .linked t k o ok cs =>
    (sv.columns t).contains k && tables.contains o && (sv.columns o).contains ok &&
      !cs.isEmpty && acceptsAll (t :: tables) cs

def acceptsAll (tables : List String) : List (Condition Js) → Bool
  | [] => true
  | c :: cs => accepts tables c && acceptsAll tables cs
end

mutual
def eval (db : Db) (scope : Scope) : Condition Js → Truth
  | .isNull c => .ofBool (sv.column scope c).isNone
  | .isNotNull c => .ofBool (sv.column scope c).isSome
  | .compare op c v => .ofOptions (sv.compareBy op) (sv.column scope c) (sv.operand v)
  | .like c p => .ofOptions sv.likeBy (sv.column scope c) (sv.operand p)
  | .isIn c vs =>
    .disj (vs.map fun v => .ofOptions sv.comparison.equal (sv.column scope c) (sv.operand v))
  | .notIn c vs =>
    .conj (vs.map fun v =>
      .ofOptions (fun a b => !sv.comparison.equal a b) (sv.column scope c) (some v))
  | .never => .no
  | .always => .yes
  | .anyOf cs => .disj (evalAll db scope cs)
  | .allOf cs => .conj (evalAll db scope cs)
  | .linked t k o ok cs =>
    .ofBool ((db t).any fun r =>
      (Truth.and (.ofOptions sv.comparison.equal (r k) ((scope.lookup o).bind (· ok)))
        (.conj (evalAll db ((t, r) :: scope) cs))).isYes)

def evalAll (db : Db) (scope : Scope) : List (Condition Js) → List Truth
  | [] => []
  | c :: cs => eval db scope c :: evalAll db scope cs
end

theorem acceptsAll_eq (tables : List String) (cs : List (Condition Js)) :
    sv.acceptsAll tables cs = cs.all (sv.accepts tables) := by
  induction cs with
  | nil => rfl
  | cons c cs ih => simp [acceptsAll, ih]

theorem evalAll_eq (db : Db) (scope : Scope) (cs : List (Condition Js)) :
    sv.evalAll db scope cs = cs.map (sv.eval db scope) := by
  induction cs with
  | nil => rfl
  | cons c cs ih => simp [evalAll, ih]

/-- The rows a `SELECT … FROM table WHERE c₁ AND … AND cₙ` finds, in the order
of the table; `none` when the server or the driver refuses the statement. A
statement without a `WHERE` has no clause list; `WHERE` followed by nothing is a
syntax error. -/
def select (db : Db) (table : String) (clauses : Option (List (Condition Unit)))
    (values : List Js) : Option (List Row) :=
  match clauses with
  | none => some (db table)
  | some [] => none
  | some cs =>
    match Condition.fillAll cs values with
    | none => none
    | some (bound, _) =>
      if sv.acceptsAll [table] bound then
        some ((db table).filter fun r =>
          (Truth.conj (sv.evalAll db [(table, r)] bound)).isYes)
      else none

theorem select_text (db : Db) (table : String) (bound : List (Condition Js)) (rest : List Js)
    (hne : bound ≠ []) (haccepts : sv.acceptsAll [table] bound = true) :
    sv.select db table (some (Condition.textAll bound)) (Condition.holesAll bound ++ rest) =
      some ((db table).filter fun r => bound.all fun c => (sv.eval db [(table, r)] c).isYes) := by
  cases bound with
  | nil => exact absurd rfl hne
  | cons c cs =>
    have hfill := Condition.fillAll_textAll (c :: cs) rest
    simp only [Condition.textAll, Condition.mapAll] at hfill ⊢
    simp only [select, hfill, haccepts, if_true, evalAll_eq, Truth.isYes_conj, List.all_map,
      Function.comp_def]

theorem select_refused (db : Db) (table : String) (bound : List (Condition Js)) (rest : List Js)
    (hrefused : sv.acceptsAll [table] bound = false) :
    sv.select db table (some (Condition.textAll bound)) (Condition.holesAll bound ++ rest) =
      none := by
  cases bound with
  | nil => rfl
  | cons c cs =>
    have hfill := Condition.fillAll_textAll (c :: cs) rest
    simp only [Condition.textAll, Condition.mapAll] at hfill ⊢
    simp [select, hfill, hrefused]

end Server
end FieldserviceIT.Sql
