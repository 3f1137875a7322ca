import Mathlib.Data.List.Infix

/-!
What a new password has to be like. The texts it is set in relation to, such as the
address and the name, are taken apart into words, none of which it may contain.
-/

namespace FieldserviceIT.Common

/-- What the platform knows about letters: `normalize('NFKC')` and `toLowerCase`. -/
structure Letters where
  nfkc : String → String
  toLowerCase : String → String

def passwordMinLength : Nat := 15

def passwordMaxLength : Nat := 128

def blockedPasswords : List String :=
  ["123456789012345", "adminadminadmin", "changemechangeme", "fieldserviceit", "letmeinletmein",
    "passwordpassword", "qwertyqwertyqwerty", "welcome123456789"]

def length (text : String) : Nat :=
  text.toList.foldr (fun c units => units + if c.toNat < 0x10000 then 1 else 2) 0

/-- A character between words: `/[^a-z0-9]/` -/
def isSeparator (c : Char) : Bool :=
  !(c.isLower || c.isDigit)

variable (T : Letters)

def contextWords (contextValues : List String) : List (List Char) :=
  (contextValues.flatMap fun value =>
    (T.toLowerCase value).toList.splitOnP isSeparator).filter fun word => 4 ≤ word.length

def passwordPolicyError (password : String) (contextValues : List String) : Option String :=
  if length password < passwordMinLength then
    some s!"Password must be at least {passwordMinLength} characters"
  else if length password > passwordMaxLength then
    some s!"Password must be no more than {passwordMaxLength} characters"
  else
    let normalized := T.toLowerCase (T.nfkc password)
    if blockedPasswords.contains normalized then
      some "Choose a password that is not commonly used or associated with this service"
    else if (contextWords T contextValues).any fun word => decide (word <:+: normalized.toList) then
      some "Password must not contain your email address, name, or organization name"
    else none

variable {T}

end FieldserviceIT.Common
