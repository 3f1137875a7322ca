/-!
Three-valued truth for conditions over nullable data. A comparison with a
missing value is neither true nor false; a selection keeps only the records
whose condition is certainly true, so the laws below are stated for `isYes`.
-/

namespace FieldserviceIT.Lib

inductive Truth where
  | no
  | unknown
  | yes
  deriving DecidableEq

namespace Truth

def ofBool : Bool → Truth
  | true => yes
  | false => no

def and : Truth → Truth → Truth
  | yes, b => b
  | no, _ => no
  | unknown, no => no
  | unknown, _ => unknown

def or : Truth → Truth → Truth
  | no, b => b
  | yes, _ => yes
  | unknown, yes => yes
  | unknown, _ => unknown

def isYes : Truth → Bool
  | yes => true
  | _ => false

def conj : List Truth → Truth
  | [] => yes
  | t :: ts => and t (conj ts)

def disj : List Truth → Truth
  | [] => no
  | t :: ts => or t (disj ts)

def ofOptions {α β : Type} (test : α → β → Bool) : Option α → Option β → Truth
  | some a, some b => ofBool (test a b)
  | _, _ => unknown

@[simp] theorem isYes_ofBool (b : Bool) : (ofBool b).isYes = b := by
  cases b <;> rfl

@[simp] theorem isYes_no : no.isYes = false := rfl

@[simp] theorem isYes_unknown : unknown.isYes = false := rfl

@[simp] theorem isYes_yes : yes.isYes = true := rfl

@[simp] theorem isYes_and (a b : Truth) : (and a b).isYes = (a.isYes && b.isYes) := by
  cases a <;> cases b <;> rfl

@[simp] theorem isYes_or (a b : Truth) : (or a b).isYes = (a.isYes || b.isYes) := by
  cases a <;> cases b <;> rfl

@[simp] theorem isYes_conj (ts : List Truth) : (conj ts).isYes = ts.all isYes := by
  induction ts with
  | nil => rfl
  | cons t ts ih => simp only [conj, isYes_and, ih, List.all_cons]

@[simp] theorem isYes_disj (ts : List Truth) : (disj ts).isYes = ts.any isYes := by
  induction ts with
  | nil => rfl
  | cons t ts ih => simp only [disj, isYes_or, ih, List.any_cons]

@[simp] theorem isYes_ofOptions {α β : Type} (test : α → β → Bool)
    (a : Option α) (b : Option β) :
    (ofOptions test a b).isYes = a.any fun x => b.any fun y => test x y := by
  cases a <;> cases b <;> simp [ofOptions]

end Truth
end FieldserviceIT.Lib
