import FieldserviceIT.Admin.Delegation
import FieldserviceIT.Admin.Directory
import FieldserviceIT.Lib.Attempts

/-!
The tables that the administration service writes statement by statement, outside of transactions.
The database may answer any statement with an error. What a call wrote before an error stays.
-/

namespace FieldserviceIT.Admin

open Common Lib Attempt Sql

/-- Identifiers and slugs; both are keys. -/
structure PermissionTable where
  rows : List (String × String)
  distinctIds : (rows.map (·.1)).Nodup
  distinctSlugs : (rows.map (·.2)).Nodup

/-- `revoked` is by whom and why. -/
structure UserSession where
  id : String
  userId : String
  revoked : Option (String × String)

/-- `before` is `none` where it is no array. -/
structure PermissionDiff where
  roleName : String
  before : Option (List String)
  after : List String
  added : List String
  removed : List String

/-- `diff` is `none` where there is none. -/
structure AuditEntry where
  id : String
  companyId : String
  actorId : String
  action : String
  resourceType : String
  resourceId : String
  diff : Option PermissionDiff

structure CompanyAssignment where
  userId : String
  previousCompanyId : Option String
  nextCompanyId : Option String
  actorId : String
  reason : String

structure AdminTables where
  users : List User
  companies : List Company
  roles : RoleTable
  permissions : PermissionTable
  /-- Identifiers of roles and of permissions. -/
  rolePermissions : List (String × String)
  /-- Identifiers of users and of roles. -/
  userRoles : List (String × String)
  sessions : List UserSession
  auditLog : List AuditEntry
  companyAssignments : List CompanyAssignment
  /-- What `user.update` was given. Only what is said about it looks at it. -/
  userUpdates : List (List (String × Js))

/-- The part of an analysis that its refusal tells. -/
structure PermissionAnalysis where
  roleId : String
  roleName : String
  removed : List String
  criticalRemoved : List String
  affectedUsers : List String
  requiresAcknowledgement : Bool

inductive AdminError where
  | notFound (message : String)
  | badRequest (message : String)
  | forbidden (message : String)
  | criticalPermissionRemoval (message : String) (analysis : PermissionAnalysis)
  | database

abbrev AdminCall := Attempt AdminError AdminTables

namespace AdminTables

variable (t : AdminTables)

def permissionIds (roleId : String) : List String :=
  (t.rolePermissions.filter fun entry => entry.1 = roleId).map (·.2)

def carried (roleId : String) : List String :=
  (t.permissionIds roleId).flatMap fun permissionId =>
    (t.permissions.rows.filter fun permission => permission.1 = permissionId).map (·.2)

def revokeSessionsForUsers (sessionsRefused usersRefused : Bool) (userIds : List String)
    (actorId reason : String) : AdminCall Unit :=
  let ids := (userIds.filter (· ≠ "")).eraseDups
  if ids.isEmpty then pure ()
  else do
    caught (demand sessionsRefused .database (modify fun t =>
      { t with
        sessions := t.sessions.map fun session =>
          if session.revoked.isNone && ids.contains session.userId then
            { session with revoked := some (actorId, reason) }
          else session }))
    caught (demand usersRefused .database (modify fun t =>
      { t with
        users := t.users.map fun user =>
          if ids.contains user.id then { user with authVersion := user.authVersion + 1 }
          else user }))

variable {t}

theorem ends_revokeSessionsForUsers {sessionsRefused usersRefused : Bool} {userIds : List String}
    {actorId reason : String} {returned thrown : AdminTables → Prop}
    (h : ∀ users sessions, returned
      { t with
        users := users
        sessions := sessions } ↔ returned t) :
    (revokeSessionsForUsers sessionsRefused usersRefused userIds actorId reason).Ends
      (fun _ => returned) thrown t ↔ returned t := by
  rw [revokeSessionsForUsers]
  split
  · exact Iff.rfl
  · rw [ends_bind, ends_caught, ends_caught]
    cases sessionsRefused with
    | false =>
      cases usersRefused with
      | false => exact h _ _
      | true => exact h t.users _
    | true =>
      cases usersRefused with
      | false => exact h _ t.sessions
      | true => exact Iff.rfl

end AdminTables
end FieldserviceIT.Admin
