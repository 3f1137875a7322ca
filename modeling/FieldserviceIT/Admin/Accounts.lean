import FieldserviceIT.Common.Users

/-!
User accounts as the administration services see them, and how they look up
records on behalf of an administrator: anything for a super administrator, what
belongs to the own company for everybody else.
-/

namespace FieldserviceIT.Admin

open Common

structure Account where
  id : String
  companyId : Option String
  role : Role
  isActive : Bool
  mfaEnabled : Bool
  isBreakGlass : Bool
  breakGlassReason : Option String
  authVersion : Nat
  isDeleted : Bool
  deriving DecidableEq

/-- `getScopedRow`, on any of the governance tables. -/
def getScopedRow {α : Type} (idOf : α → String) (companyOf : α → Option String) (rows : List α)
    (id : String) (actor : CurrentUser) : Option α :=
  (rows.find? fun row => idOf row = id).filter fun row =>
    actor.role = .superAdmin || companyOf row = actor.companyId

def assertUserScope (accounts : List Account) (userId : String) (actor : CurrentUser) :
    Option Account :=
  (accounts.find? fun user => user.id = userId).filter fun user =>
    !user.isDeleted && (actor.role = .superAdmin || user.companyId = actor.companyId)

/-- `String(text || '').trim()` is empty. -/
def isBlank (text : Option String) : Bool :=
  (text.getD "").toList.all Char.isWhitespace

def upperCased (text : Option String) : String :=
  String.ofList ((text.getD "").toList.map Char.toUpper)

/-- `value || null` -/
def orNull (value : Option String) : Option String :=
  if truthy value then value else none

def anotherSuperAdmin (accounts : List Account) (userId : String) : Bool :=
  accounts.any fun other =>
    other.role = .superAdmin && other.isActive && !other.isDeleted && other.id ≠ userId

section Rows

variable {α : Type} {idOf : α → String}

/-- `UPDATE ... WHERE id = ?` -/
def updateRow (idOf : α → String) (id : String) (change : α → α) (rows : List α) : List α :=
  rows.map fun row => if idOf row = id then change row else row

theorem find_updateRow {change : α → α} (hkeeps : ∀ row, idOf (change row) = idOf row)
    (id key : String) (rows : List α) :
    (updateRow idOf id change rows).find? (fun row => idOf row = key) =
      if key = id then (rows.find? fun row => idOf row = key).map change
      else rows.find? fun row => idOf row = key := by
  induction rows with
  | nil => simp [updateRow]
  | cons row rows ih =>
    rw [updateRow] at ih
    simp only [updateRow, List.map_cons, List.find?_cons]
    by_cases hid : idOf row = id
    · rw [if_pos hid, hkeeps, hid]
      by_cases hkey : key = id
      · simp [hkey]
      · simp only [Ne.symm hkey, decide_false, ih]
    · rw [if_neg hid]
      by_cases hkey : idOf row = key
      · simp [hkey, hkey ▸ hid]
      · simp only [hkey, decide_false, ih]

end Rows

section Samples

def sampleUuid (n : Nat) : String := String.ofList (List.replicate (n + 2) 'x')

def sampleActor (id : String) : CurrentUser where
  id := id
  role := .tenantAdmin
  userType := .businessUser
  companyId := some "acme"
  effectiveCompanyId := none
  location := none
  permissionScopes := none
  permissionSlugs := none

end Samples
end FieldserviceIT.Admin
