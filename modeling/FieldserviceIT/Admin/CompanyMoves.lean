import FieldserviceIT.Admin.AdminTables

/-!
The move of a user to another company. The history entry is written first, then the row of the user,
and then the sessions end. The update of the row is compiled column by column, and the value of a
column goes to the database as it is.
-/

namespace FieldserviceIT.Admin.CompanyMoves

open Common Lib Attempt AdminTables Sql

inductive MoveStatement where
  | findUser
  | findCompany
  | insertHistory
  | updateUser
  | readUpdated
  | revokeSessions
  | bumpUsers
  deriving DecidableEq

/-- What the database refuses, and what it makes of a parameter that is no value of a column where a
number is due; `none` where it answers with an error. -/
structure MoveServer where
  refuses : MoveStatement → Bool
  convert : Js → Option Nat

section Updates

/-- `null` and scalars; what is `undefined` is left out of the update. -/
def isColumnValue : Js → Bool
  | .null | .undefined | .scalar _ => true
  | .array _ | .object _ => false

variable (S : MoveServer)

def numberFor : Js → Option Nat
  | .scalar (.number n) => if 0 ≤ n then some n.toNat else S.convert (.scalar (.number n))
  | value => S.convert value

/-- One column of an `UPDATE User SET ...`; only those that this service sets this way. -/
def setColumn (user : User) : String × Js → Option User
  | ("companyId", .null) => some { user with companyId := none }
  | ("companyId", .scalar (.text companyId)) => some { user with companyId := some companyId }
  | ("authVersion", value) =>
    (numberFor S value).map fun number => { user with authVersion := number }
  | _ => none

def setColumns (data : List (String × Js)) (user : User) : Option User :=
  (data.filter fun entry => entry.2.isDefined).foldlM (setColumn S) user

/-- `user.update`, by the identifier. -/
def updateUser (id : String) (data : List (String × Js)) : AdminCall (Option User) := do
  modify fun t => { t with userUpdates := t.userUpdates ++ [data] }
  let users ← gets fun t => t.users.mapM fun user =>
    if user.id = id then setColumns S data user else some user
  match users with
  | none => throw .database
  | some users =>
    demand (S.refuses .updateUser) .database (modify fun t => { t with users := users })
    demand (S.refuses .readUpdated) .database
      (gets fun t => t.users.find? fun user => user.id = id)

end Updates

section Moves

variable (S : MoveServer)

def globalUserPinned : String :=
  "Global users use company context and cannot be pinned to one company"

def assertCompany (companyId : Option String) : AdminCall Unit :=
  if truthy companyId then do
    let known ← demand (S.refuses .findCompany) .database (gets fun t =>
      t.companies.any fun company => some company.id = companyId && !company.isDeleted)
    if known then pure () else throw (.badRequest "Company not found")
  else pure ()

def findMovable (id : String) (companyId : Option String) : AdminCall User := do
  let user ← demand (S.refuses .findUser) .database (gets fun t =>
    t.users.find? fun user => user.id = id)
  match user with
  | none => throw (.notFound "User not found")
  | some user =>
    if globalRoles.contains user.role && truthy companyId then throw (.badRequest globalUserPinned)
    else pure user

def increment : Js :=
  .object [("increment", .scalar (.number 1))]

def moveData (companyId : Option String) : List (String × Js) :=
  [("companyId", .ofOption (companyId.map .text)), ("authVersion", increment)]

def historyEntry (id : String) (user : User) (companyId : Option String) (reason : String)
    (actor : CurrentUser) : CompanyAssignment where
  userId := id
  previousCompanyId := user.companyId
  nextCompanyId := companyId
  actorId := actor.id
  reason := if reason = "" then "Administrative company assignment" else reason

def assignUserCompany (id : String) (companyId : Option String) (reason : String)
    (actor : CurrentUser) : AdminCall (Option User) := do
  let user ← findMovable S id companyId
  assertCompany S companyId
  demand (S.refuses .insertHistory) .database (modify fun t =>
    { t with
      companyAssignments := t.companyAssignments ++ [historyEntry id user companyId reason actor] })
  let updated ← updateUser S id (moveData companyId)
  AdminTables.revokeSessionsForUsers (S.refuses .revokeSessions) (S.refuses .bumpUsers) [id] actor.id
    "company-assignment-changed"
  pure updated

end Moves

section Whole

/-- The row of the user, roles, sessions and assignment history are as they were. -/
structure Untouched (t t' : AdminTables) : Prop where
  users : t'.users = t.users
  userRoles : t'.userRoles = t.userRoles
  sessions : t'.sessions = t.sessions
  companyAssignments : t'.companyAssignments = t.companyAssignments

/-- The user is in the company, the version of the sign-ins has gone up by one, no session of the
user is left, and the history has one more entry. -/
structure Moved (id : String) (companyId : Option String) (t t' : AdminTables) : Prop where
  users : t'.users = t.users.map fun user =>
    if user.id = id then
      { user with
        companyId := companyId
        authVersion := user.authVersion + 1 }
    else user
  sessions : ∀ session ∈ t'.sessions, session.userId = id → session.revoked.isSome = true
  companyAssignments : ∃ entry, t'.companyAssignments = t.companyAssignments ++ [entry] ∧
    entry.userId = id ∧ entry.nextCompanyId = companyId

def PlainUpdates (t t' : AdminTables) : Prop :=
  ∀ data ∈ t'.userUpdates.drop t.userUpdates.length, ∀ entry ∈ data, isColumnValue entry.2 = true

def MovesWhole (S : MoveServer) (id : String) (companyId : Option String) (reason : String)
    (actor : CurrentUser) (t : AdminTables) : Prop :=
  (assignUserCompany S id companyId reason actor).Ends
    (fun _ t' => Moved id companyId t t' ∧ PlainUpdates t t')
    (fun t' => Untouched t t' ∧ PlainUpdates t t') t

variable (S : MoveServer) (t : AdminTables)

def isMovable (id : String) (companyId : Option String) : Bool :=
  !S.refuses .findUser && (t.users.find? fun user => user.id = id).any fun user =>
    !(globalRoles.contains user.role && truthy companyId)

def isCompanyKnown (companyId : Option String) : Bool :=
  !truthy companyId || !S.refuses .findCompany && t.companies.any fun company =>
    some company.id = companyId && !company.isDeleted

def isBegun (id : String) (companyId : Option String) : Bool :=
  isMovable S t id companyId && isCompanyKnown S t companyId && !S.refuses .insertHistory

end Whole

section Outcomes

variable {S : MoveServer} {t : AdminTables} {thrown : AdminTables → Prop} {id : String}
  {companyId : Option String}

theorem ends_findMovable {P : User → AdminTables → Prop} (hthrown : thrown t) :
    (findMovable S id companyId).Ends P thrown t ↔
      (isMovable S t id companyId = true → ∀ user,
        (t.users.find? fun user => user.id = id) = some user → P user t) := by
  rw [findMovable, isMovable, ends_bind, ends_demand]
  cases S.refuses .findUser with
  | true => exact iff_of_true hthrown (fun h => by cases h)
  | false =>
    rw [if_neg Bool.false_ne_true, ends_gets, Bool.not_false, Bool.true_and]
    cases t.users.find? fun user => user.id = id with
    | none => exact iff_of_true hthrown (fun h => by cases h)
    | some user =>
      dsimp only
      rw [Option.any_some]
      cases globalRoles.contains user.role && truthy companyId with
      | true => exact iff_of_true hthrown (fun h => by cases h)
      | false => exact ⟨fun h _ other hother => Option.some.inj hother ▸ h, fun h => h rfl user rfl⟩

theorem ends_assertCompany {P : AdminTables → Prop} (hthrown : thrown t) :
    (assertCompany S companyId).Ends (fun _ => P) thrown t ↔
      (isCompanyKnown S t companyId = true → P t) := by
  rw [assertCompany, isCompanyKnown]
  cases truthy companyId with
  | false => exact ⟨fun h _ => h, fun h => h rfl⟩
  | true =>
    rw [if_pos rfl, ends_bind, ends_demand]
    cases S.refuses .findCompany with
    | true => exact iff_of_true hthrown (fun h => by cases h)
    | false =>
      rw [if_neg Bool.false_ne_true, ends_gets]
      cases t.companies.any fun company => some company.id = companyId && !company.isDeleted with
      | false => exact iff_of_true hthrown (fun h => by cases h)
      | true => exact ⟨fun h _ => h, fun h => h rfl⟩

theorem updates_updateUser {data : List (String × Js)} :
    (updateUser S id data).Ends (fun _ t' => t'.userUpdates = t.userUpdates ++ [data])
      (fun t' => t'.userUpdates = t.userUpdates ++ [data]) t := by
  rw [updateUser, ends_bind, ends_modify, ends_bind, ends_gets]
  split
  · rfl
  · rw [ends_bind, ends_demand]
    cases S.refuses .updateUser with
    | true => rfl
    | false =>
      rw [if_neg Bool.false_ne_true, ends_modify, ends_demand]
      cases S.refuses .readUpdated with
      | true => rfl
      | false => rfl

theorem plain_of_same {t' : AdminTables} (h : t'.userUpdates = t.userUpdates) : PlainUpdates t t' := by
  rw [PlainUpdates, h, List.drop_length]
  intro data hdata
  cases hdata

theorem not_plain_of_moveData {t' : AdminTables}
    (h : t'.userUpdates = t.userUpdates ++ [moveData companyId]) : ¬PlainUpdates t t' := by
  rw [PlainUpdates, h, List.drop_left]
  intro hplain
  have hincrement := hplain (moveData companyId) (.head _) _ (.tail _ (.head _))
  cases hincrement

theorem whole_of_not_begun {reason : String} {actor : CurrentUser}
    {P : Option User → AdminTables → Prop} (hthrown : thrown t)
    (h : isBegun S t id companyId = false) :
    (assignUserCompany S id companyId reason actor).Ends P thrown t := by
  rw [assignUserCompany, ends_bind, ends_findMovable hthrown]
  intro hmovable user huser
  rw [ends_bind, ends_assertCompany hthrown]
  intro hknown
  rw [isBegun, hmovable, hknown, Bool.true_and, Bool.true_and, Bool.not_eq_false'] at h
  rw [ends_bind, ends_demand, if_pos h]
  exact hthrown

def afterHistory (S : MoveServer) (id : String) (companyId : Option String) (actor : CurrentUser) :
    AdminCall (Option User) := do
  let updated ← updateUser S id (moveData companyId)
  AdminTables.revokeSessionsForUsers (S.refuses .revokeSessions) (S.refuses .bumpUsers) [id] actor.id
    "company-assignment-changed"
  pure updated

theorem ends_of_begun {reason : String} {actor : CurrentUser} {P : Option User → AdminTables → Prop}
    (hthrown : thrown t) (h : isBegun S t id companyId = true) :
    ∃ user, (t.users.find? fun user => user.id = id) = some user ∧
      ((assignUserCompany S id companyId reason actor).Ends P thrown t ↔
        (afterHistory S id companyId actor).Ends P thrown
          { t with
            companyAssignments :=
              t.companyAssignments ++ [historyEntry id user companyId reason actor] }) := by
  rw [isBegun, Bool.and_eq_true, Bool.and_eq_true, Bool.not_eq_true'] at h
  obtain ⟨⟨hmovable, hknown⟩, hhistory⟩ := h
  have hfound : (t.users.find? fun user => user.id = id).isSome = true := by
    rw [isMovable, Bool.and_eq_true, Option.any_eq_true] at hmovable
    obtain ⟨user, huser, -⟩ := hmovable.2
    rw [huser]
    rfl
  obtain ⟨user, huser⟩ := Option.isSome_iff_exists.mp hfound
  refine ⟨user, huser, ?_⟩
  rw [assignUserCompany, ends_bind, ends_findMovable hthrown, imp_iff_right hmovable, huser]
  constructor
  · intro h
    have hrest := h user rfl
    rw [ends_bind, ends_assertCompany hthrown, imp_iff_right hknown, ends_bind, ends_demand, hhistory,
      if_neg Bool.false_ne_true, ends_modify] at hrest
    exact hrest
  · intro h other hother
    obtain rfl := Option.some.inj hother
    rw [ends_bind, ends_assertCompany hthrown, imp_iff_right hknown, ends_bind, ends_demand, hhistory,
      if_neg Bool.false_ne_true, ends_modify]
    exact h

theorem not_plain_afterHistory {actor : CurrentUser} {t' : AdminTables}
    (hsame : t'.userUpdates = t.userUpdates) :
    ¬(afterHistory S id companyId actor).Ends (fun _ => PlainUpdates t) (PlainUpdates t) t' := by
  intro h
  rw [afterHistory, ends_bind] at h
  refine h.not_both (@updates_updateUser S t' id (moveData companyId)) ?_ ?_
  · intro updated t'' hrest hupdates
    have hstable : ∀ users sessions, PlainUpdates t
        { t'' with
          users := users
          sessions := sessions } ↔ PlainUpdates t t'' := fun _ _ => Iff.rfl
    have hplain : PlainUpdates t t'' :=
      (@ends_revokeSessionsForUsers t'' _ _ _ _ _ (PlainUpdates t) _ hstable).mp (ends_bind.mp hrest)
    exact not_plain_of_moveData (hsame ▸ hupdates) hplain
  · intro t'' hplain hupdates
    exact not_plain_of_moveData (hsame ▸ hupdates) hplain

theorem untouched_refl : Untouched t t :=
  ⟨rfl, rfl, rfl, rfl⟩

/-- A move is all or nothing, with plain values in its update, exactly if it never comes to its
first write. -/
theorem movesWhole_iff (S : MoveServer) (id : String) (companyId : Option String) (reason : String)
    (actor : CurrentUser) (t : AdminTables) :
    MovesWhole S id companyId reason actor t ↔ isBegun S t id companyId = false := by
  have hstart : Untouched t t ∧ PlainUpdates t t := ⟨untouched_refl, plain_of_same rfl⟩
  constructor
  · intro h
    rw [Bool.eq_false_iff]
    intro hbegun
    rw [MovesWhole] at h
    obtain ⟨user, -, hrest⟩ := @ends_of_begun S t (PlainUpdates t) id companyId reason actor
      (fun _ => PlainUpdates t) hstart.2 hbegun
    refine not_plain_afterHistory rfl (hrest.mp (h.mono ?_ ?_))
    · exact fun _ _ hmoved => hmoved.2
    · exact fun _ huntouched => huntouched.2
  · intro h
    exact whole_of_not_begun hstart h

end Outcomes

section Sample

def strictServer : MoveServer where
  refuses _ := false
  convert _ := none

def sampleUser : User where
  id := "user-1"
  companyId := some "company-1"
  role := .technician
  isActive := true
  mfaEnabled := false
  isBreakGlass := false
  breakGlassReason := none
  authVersion := 3
  isDeleted := false
  email := "user@example.com"
  firstName := "Sam"
  lastName := "Field"
  userType := .businessUser
  location := none
  scimExternalId := none
  scimManaged := false

def movingTables : AdminTables where
  users := [sampleUser]
  companies := [⟨"company-1", true, false⟩, ⟨"company-2", true, false⟩]
  roles := ⟨[], List.nodup_nil⟩
  permissions := ⟨[], List.nodup_nil, List.nodup_nil⟩
  rolePermissions := []
  userRoles := []
  sessions := []
  auditLog := []
  companyAssignments := []
  userUpdates := []

def platformAdmin : CurrentUser where
  id := "admin-1"
  role := .superAdmin
  userType := .businessUser
  companyId := none
  effectiveCompanyId := none
  location := none
  permissionScopes := none
  permissionSlugs := none

/-- The history tells of a move that did not take place. -/
theorem not_movesWhole :
    ¬MovesWhole strictServer "user-1" (some "company-2") "Transfer" platformAdmin movingTables := by
  intro h
  have huntouched : Untouched movingTables
      { movingTables with
        companyAssignments :=
          [historyEntry "user-1" sampleUser (some "company-2") "Transfer" platformAdmin]
        userUpdates := [moveData (some "company-2")] } := And.left h
  cases huntouched.companyAssignments

end Sample
end FieldserviceIT.Admin.CompanyMoves
