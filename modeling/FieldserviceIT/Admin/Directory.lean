import FieldserviceIT.Admin.AccessReviews
import FieldserviceIT.Admin.DualApproval
import FieldserviceIT.Sql.Value

/-!
The directory of users and everything that changes it: the administration of
accounts by the platform and by tenants, SCIM provisioning, the removal of a
company, access reviews and impersonation sessions. The approvals and the reviews
are the programs of their own modules, each on its part of the directory.
-/

namespace FieldserviceIT.Admin

open Common Lib Sql

structure User extends Account where
  email : String
  firstName : String
  lastName : String
  userType : UserType
  location : Option String
  scimExternalId : Option String
  scimManaged : Bool
  deriving DecidableEq

structure Directory where
  now : Int
  drawn : Nat
  users : List User
  companies : List Company
  approvals : List DualApprovalRequest
  sessions : List ImpersonationSession
  campaigns : List ReviewCampaign
  items : List ReviewItem
  userRoles : List (String × String)

namespace Directory

variable (d : Directory)

def accounts : List Account :=
  d.users.map (·.toAccount)

def governance : Governance where
  now := d.now
  drawn := d.drawn
  approvals := d.approvals
  accounts := d.accounts
  companies := d.companies
  campaigns := d.campaigns.map fun campaign => ⟨campaign.id, campaign.companyId⟩
  sessions := d.sessions
  given := []
  presented := []
  performed := []

def withGovernance (g : Governance) : Directory :=
  { d with
    drawn := g.drawn
    users := List.zipWith (fun user account => { user with toAccount := account }) d.users g.accounts
    companies := g.companies
    approvals := g.approvals
    sessions := g.sessions }

def reviews : ReviewStore where
  now := d.now
  accounts := d.accounts
  campaigns := d.campaigns
  items := d.items
  userRoles := d.userRoles

def withReviews (r : ReviewStore) : Directory :=
  { d with
    campaigns := r.campaigns
    items := r.items
    userRoles := r.userRoles }

end Directory

/-- The columns an `UPDATE User` sets. -/
structure UserData where
  email : Option String := none
  firstName : Option String := none
  lastName : Option String := none
  role : Option Role := none
  userType : Option UserType := none
  isActive : Option Bool := none
  companyId : Option (Option String) := none
  scimExternalId : Option (Option String) := none
  managed : Bool := false
  deleted : Bool := false
  bumps : Bool := false

def UserData.apply (data : UserData) (user : User) : User :=
  { user with
    email := data.email.getD user.email
    firstName := data.firstName.getD user.firstName
    lastName := data.lastName.getD user.lastName
    role := data.role.getD user.role
    userType := data.userType.getD user.userType
    isActive := data.isActive.getD user.isActive
    companyId := data.companyId.getD user.companyId
    scimExternalId := data.scimExternalId.getD user.scimExternalId
    scimManaged := data.managed || user.scimManaged
    isDeleted := data.deleted || user.isDeleted
    authVersion := user.authVersion + if data.bumps then 1 else 0 }

/-- What an operation that changes a user has found out about the last super
administrator. Only the comparison with later states looks at it. -/
inductive LastAdminCheck where
  | unchecked
  /-- The user was read not to be one. -/
  | notNeeded
  /-- Another one was counted. -/
  | passed
  deriving DecidableEq

inductive UserOp where
  | read
  | countSuperAdmins (userId : String)
  /-- `UPDATE User SET ... WHERE id = ?`, and for some `AND companyId = ?` -/
  | updateUser (id : String) (companyId : Option String) (data : UserData) (check : LastAdminCheck)
  | bumpAuthVersion (ids : List String)
  | endSession (id : String)

inductive DirectoryOp where
  | user (op : UserOp)
  /-- A statement of an operation under approval, on behalf of the actor. -/
  | governance (actor : CurrentUser) (op : GovernanceOp)
  | review (op : ReviewOp)

def names (id : String) (companyId : Option String) (user : User) : Bool :=
  user.id = id && companyId.all fun company => user.companyId = some company

/-- `email` is unique, and so is `scimExternalId` in a company. -/
def clashes (row other : User) : Bool :=
  row.email = other.email ||
    row.scimExternalId.isSome && row.scimExternalId = other.scimExternalId &&
      row.companyId.isSome && row.companyId = other.companyId

def Directory.refuses (d : Directory) (id : String) (companyId : Option String)
    (data : UserData) : Bool :=
  d.users.any fun user => names id companyId user &&
    d.users.any fun other => other.id ≠ user.id && clashes (data.apply user) other

section Statements

def execUser (op : UserOp) (d : Directory) : Directory :=
  match op with
  | .read | .countSuperAdmins _ => d
  | .updateUser id companyId data _ =>
    if d.refuses id companyId data then d
    else
      { d with
        users := d.users.map fun user =>
          if names id companyId user then data.apply user else user }
  | .bumpAuthVersion ids =>
    { d with
      users := d.users.map fun user =>
        if ids.contains user.id then { user with authVersion := user.authVersion + 1 } else user }
  | .endSession id =>
    { d with
      sessions := d.sessions.map fun session =>
        if session.id = id && session.endedAt.isNone then
          { session with endedAt := some d.now }
        else session }

def execDirectory (uuid : Nat → String) (op : DirectoryOp) (d : Directory) : Directory :=
  match op with
  | .user op => execUser op d
  | .governance _ op => d.withGovernance (execGovernance uuid op d.governance)
  | .review op => d.withReviews (execReview op d.reviews)

end Statements

abbrev UserProgram := Prog Directory UserOp

/-- An update of a user, and what goes on when no key refuses it. -/
def updateUserRow (id : String) (companyId : Option String) (data : UserData)
    (check : LastAdminCheck) (go : UserProgram) : UserProgram :=
  .step (.updateUser id companyId data check) fun d =>
    if d.refuses id companyId data then .fail else go

section Administration

def validRoles : List Role :=
  [.superAdmin, .globalTech, .tenantAdmin, .technician, .client, .readOnly]

def globalRoles : List Role :=
  [.superAdmin, .globalTech]

namespace Directory

variable (d : Directory)

def findUser (id : String) : Option User :=
  d.users.find? fun user => user.id = id

def findCompanyUser (id companyId : String) : Option User :=
  d.users.find? fun user => user.id = id && user.companyId = some companyId

end Directory

/-- `AdminService.assertNotLastSuperAdmin`, and what goes on when it does not object. -/
def assertAnotherSuperAdmin (userId : String) (go : LastAdminCheck → UserProgram) :
    UserProgram :=
  .step .read fun d =>
    if (d.findUser userId).any fun user => user.role = .superAdmin then
      .step (.countSuperAdmins userId) fun d' =>
        if anotherSuperAdmin d'.accounts userId then go .passed else .fail
    else go .notNeeded

def revokeSessionsForUsers (userIds : List String) : UserProgram :=
  let ids := (userIds.filter (· ≠ "")).eraseDups
  if ids.isEmpty then .done else .step (.bumpAuthVersion ids) fun _ => .done

def updateUserRole (userId : String) (role : Role) : UserProgram :=
  if !validRoles.contains role then .fail
  else
    .step .read fun d =>
      match d.findUser userId with
      | none => .fail
      | some user =>
        let update (check : LastAdminCheck) : UserProgram :=
          updateUserRow userId none
            { role := some role
              companyId := if globalRoles.contains role then some none else none } check
            (revokeSessionsForUsers [userId])
        if user.role = .superAdmin && role ≠ .superAdmin then
          assertAnotherSuperAdmin userId update
        else update .notNeeded

/-- `none` is a property that is not given, `some none` one that is `null`. -/
structure UpdateUserDto where
  firstName : Option (Option String) := none
  lastName : Option (Option String) := none
  role : Option (Option Role) := none
  userType : Option (Option UserType) := none
  isActive : Option (Option Bool) := none
  companyId : Option (Option String) := none

namespace UpdateUserDto

variable (dto : UpdateUserDto)

def nextRole : Option Role :=
  dto.role.join.filter validRoles.contains

def data : UserData where
  firstName := orNull dto.firstName.join
  lastName := orNull dto.lastName.join
  role := dto.nextRole
  userType := dto.userType.join
  isActive := dto.isActive.join
  companyId :=
    if truthy dto.companyId.join then some dto.companyId.join
    else if dto.companyId = some none then some none
    else if dto.nextRole.any globalRoles.contains then some none
    else none

def removesSuperAdmin : Bool :=
  dto.role.join.any (· ≠ .superAdmin) || dto.isActive.join = some false

end UpdateUserDto

/-- The company is looked up only when one is given; activity set to `null` is
refused by the column. -/
def updateUser (id : String) (dto : UpdateUserDto) : UserProgram :=
  .step .read fun d =>
    match d.findUser id with
    | none => .fail
    | some user =>
      let revoke : UserProgram :=
        if dto.role.isSome || dto.userType.isSome || dto.isActive.isSome || dto.companyId.isSome then
          revokeSessionsForUsers [id]
        else .done
      let write (check : LastAdminCheck) : UserProgram :=
        if dto.isActive = some none then .fail else updateUserRow id none dto.data check revoke
      let update (check : LastAdminCheck) : UserProgram :=
        if truthy dto.companyId.join then
          .step .read fun d' =>
            if d'.companies.any fun company => some company.id = dto.companyId.join then write check
            else .fail
        else write check
      if user.role = .superAdmin && dto.removesSuperAdmin then assertAnotherSuperAdmin id update
      else update .notNeeded

def assignUserCompany (id : String) (companyId : Option String) : UserProgram :=
  .step .read fun d =>
    match d.findUser id with
    | none => .fail
    | some user =>
      let move : UserProgram :=
        updateUserRow id none { companyId := some companyId, bumps := true } .notNeeded
          (revokeSessionsForUsers [id])
      if truthy companyId then
        if globalRoles.contains user.role then .fail
        else
          .step .read fun d' =>
            if d'.companies.any fun company => some company.id = companyId && !company.isDeleted then
              move
            else .fail
      else move

def removedUser : UserData where
  isActive := some false
  deleted := true

def removeUser (id : String) : UserProgram :=
  .step .read fun d =>
    if (d.findUser id).isNone then .fail
    else assertAnotherSuperAdmin id fun check =>
      updateUserRow id none removedUser check (revokeSessionsForUsers [id])

/-- `assertTenantRoleChange` -/
def tenantRoleChange (target : User) (nextRole : Role) (actor : CurrentUser) : Bool :=
  (if actor.role = .superAdmin then
      [.tenantAdmin, .technician, .client, .readOnly].contains nextRole
    else [.technician, .client, .readOnly].contains nextRole) &&
    (actor.role = .superAdmin || actor.id ≠ target.id && target.role ≠ .tenantAdmin)

def updateCompanyUserRole (userId : String) (role : Role) (companyId : String)
    (actor : CurrentUser) : UserProgram :=
  .step .read fun d =>
    match d.findCompanyUser userId companyId with
    | none => .fail
    | some user =>
      if tenantRoleChange user role actor then
        updateUserRow userId none { role := some role } .unchecked
          (revokeSessionsForUsers [userId])
      else .fail

def removeCompanyUser (userId companyId : String) : UserProgram :=
  .step .read fun d =>
    if (d.findCompanyUser userId companyId).isNone then .fail
    else updateUserRow userId none removedUser .unchecked (revokeSessionsForUsers [userId])

def endImpersonation (id : String) (actor : CurrentUser) : UserProgram :=
  .step .read fun d =>
    match d.sessions.find? fun session => session.id = id with
    | none => .fail
    | some session =>
      if actor.role ≠ .superAdmin && session.actorId ≠ actor.id then .fail
      else .step (.endSession id) fun _ => .done

end Administration

end FieldserviceIT.Admin
