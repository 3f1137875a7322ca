import Mathlib.Data.List.DropRight

/-!
How a browser reads a text that is no whole URL, on a page of `http` or `https`: the text is another
place on the page's own origin, unless two slashes begin it, of either kind and with tabs and line
breaks between them. Then it names an authority.
-/

namespace FieldserviceIT.Lib.RelativeUrls

structure Origin where
  scheme : String
  host : String
  port : Option Nat
  deriving DecidableEq

def isControlOrSpace (c : Char) : Bool :=
  c.toNat ≤ 32

def isTabOrNewline (c : Char) : Bool :=
  c = '\t' || c = '\n' || c = '\r'

def isSlash (c : Char) : Bool :=
  c = '/' || c = '\\'

/-- The text that is read: nothing invisible around it, no tabs and no line breaks in it. -/
def prepared (text : List Char) : List Char :=
  ((text.dropWhile isControlOrSpace).rdropWhile isControlOrSpace).filter fun c => !isTabOrNewline c

def namesAuthority : List Char → Bool
  | first :: second :: _ => isSlash first && isSlash second
  | _ => false

/-- The text between the slashes and the path, the query or the fragment. -/
def authorityOf (text : List Char) : List Char :=
  (text.dropWhile isSlash).takeWhile fun c => !isSlash c && c ≠ '?' && c ≠ '#'

/-- The origin of a text without a scheme. `read` reads an authority under a scheme; there is none
if it is not well formed. -/
def resolve (read : String → List Char → Option Origin) (base : Origin) (text : List Char) :
    Option Origin :=
  if namesAuthority (prepared text) then read base.scheme (authorityOf (prepared text)) else some base

def firstRead (text : List Char) : Option Char :=
  text.find? fun c => !isTabOrNewline c

theorem not_isControlOrSpace_of_isSlash {c : Char} (h : isSlash c = true) :
    isControlOrSpace c = false := by
  rw [isSlash, Bool.or_eq_true, decide_eq_true_eq, decide_eq_true_eq] at h
  obtain rfl | rfl := h <;> decide

theorem rdropWhile_cons_neg {c : Char} (h : isControlOrSpace c = false) (text : List Char) :
    (c :: text).rdropWhile isControlOrSpace = c :: text.rdropWhile isControlOrSpace := by
  induction text using List.reverseRecOn with
  | nil => rw [List.rdropWhile_singleton, h, List.rdropWhile_nil, if_neg Bool.false_ne_true]
  | append_singleton text last ih =>
    rw [← List.cons_append, List.rdropWhile_concat, List.rdropWhile_concat, ih]
    split <;> rfl

theorem firstRead_rdropWhile (text : List Char) :
    (firstRead (text.rdropWhile isControlOrSpace)).any isSlash = (firstRead text).any isSlash := by
  have hsplit := @List.rdropWhile_append_rtakeWhile _ isControlOrSpace text
  have htail : (firstRead (text.rtakeWhile isControlOrSpace)).any isSlash = false := by
    cases hfirst : firstRead (text.rtakeWhile isControlOrSpace) with
    | none => rfl
    | some c =>
      have hcontrol := List.mem_rtakeWhile_imp (List.mem_of_find?_eq_some hfirst)
      rw [Option.any_some, Bool.eq_false_iff]
      intro hslash
      rw [not_isControlOrSpace_of_isSlash hslash] at hcontrol
      cases hcontrol
  conv_rhs => rw [← hsplit]
  rw [firstRead, firstRead, List.find?_append]
  cases List.find? (fun c => !isTabOrNewline c) (text.rdropWhile isControlOrSpace) with
  | none => exact htail.symm
  | some c => rfl

theorem namesAuthority_prepared (text : List Char) :
    namesAuthority (prepared ('/' :: text)) = (firstRead text).any isSlash := by
  have hslash : isControlOrSpace '/' = false := by decide
  have hprepared : prepared ('/' :: text) =
      '/' :: (text.rdropWhile isControlOrSpace).filter fun c => !isTabOrNewline c := by
    rw [prepared, List.dropWhile_cons, hslash, if_neg Bool.false_ne_true, rdropWhile_cons_neg hslash]
    rfl
  rw [hprepared, ← firstRead_rdropWhile, firstRead, ← List.head?_filter]
  cases (text.rdropWhile isControlOrSpace).filter fun c => !isTabOrNewline c with
  | nil => rfl
  | cons second rest => rfl

end FieldserviceIT.Lib.RelativeUrls
