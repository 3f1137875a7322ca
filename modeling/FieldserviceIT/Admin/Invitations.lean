import FieldserviceIT.Admin.Scim
import FieldserviceIT.Common.Credential
import FieldserviceIT.Common.PasswordPolicy
import FieldserviceIT.Lib.Protocols
import FieldserviceIT.Lib.Tables

/-!
Tenant invitations: creating one, which replaces those that are pending for the same
address, revoking one, and accepting one. Creating and accepting run in a transaction: a
statement that locks rows waits while another transaction has them, the writes become
visible together when the transaction commits, and an error takes them back.
-/

namespace FieldserviceIT.Admin.Invitations

open Common Lib

inductive InvitationRole where
  | client
  | technician
  | readOnly
  deriving DecidableEq

/-- `replaces` is no column: the pending invitations this one took the place of. -/
structure Invitation where
  id : String
  companyId : String
  email : String
  role : InvitationRole
  tokenHash : String
  invitedById : String
  expiresAt : Int
  acceptedAt : Option Int
  revokedAt : Option Int
  createdAt : Int
  replaces : List String
  deriving DecidableEq

/-- Where a user comes from: the invitation and when its row was locked. -/
structure Origin where
  invitationId : String
  lockedAt : Int
  deriving DecidableEq

/-- `origin` is no column; users of other origin have none. -/
structure User where
  id : String
  email : String
  passwordHash : String
  firstName : String
  lastName : String
  role : InvitationRole
  companyId : String
  deletedAt : Option Int
  createdAt : Int
  origin : Option Origin
  deriving DecidableEq

structure LegalConsent where
  id : String
  userId : String
  termsVersion : String
  privacyVersion : String
  ipAddress : Option String
  userAgent : Option String
  acceptedAt : Int
  deriving DecidableEq

structure Company where
  id : String
  isActive : Bool
  deriving DecidableEq

/-- `locks` are the invitations that transactions have locked. -/
structure Tenancy where
  invitations : List Invitation
  users : List User
  consents : List LegalConsent
  companies : List Company
  locks : List (String × Nat)
  nextTx : Nat
  now : Int

def termsVersion : String := "2026-07-29"

def privacyVersion : String := "2026-07-29"

structure AcceptTenantInvitationDto where
  firstName : String
  lastName : String
  password : String
  termsAccepted : Bool
  termsVersion : String
  privacyVersion : String

structure RequestContext where
  ipAddress : Option String
  userAgent : Option String

/-- What the platform draws for an acceptance. -/
structure Drawn where
  userId : String
  consentId : String
  passwordHash : String

/-- What the transaction of an acceptance writes. -/
structure Acceptance where
  invitation : Invitation
  lockedAt : Int
  drawn : Drawn
  firstName : String
  lastName : String
  ipAddress : Option String
  userAgent : Option String

inductive InvitationOp where
  | read
  | findActive (token : String)
  | begin
  | lockInvitation (tx : Nat) (id tokenHash : String)
  | commitAccept (tx : Nat) (acceptance : Acceptance)
  | rollback (tx : Nat)
  | lockPending (tx : Nat) (companyId email : String)
  | commitCreate (tx : Nat) (revokedAt : Int) (id companyId email : String) (role : InvitationRole)
      (tokenHash invitedById : String)
  | revoke (id companyId : String)

section Statements

variable (H : Hashing) (key : String → String)

def isPending (row : Invitation) : Bool :=
  row.acceptedAt.isNone && row.revokedAt.isNone

/-- `findActive` -/
def findActive (s : Tenancy) (token : String) : Option Invitation :=
  s.invitations.find? fun row => H.collates row.tokenHash (hashCredential H token) &&
    isPending row && s.now < row.expiresAt &&
      s.companies.any fun company => key company.id = key row.companyId && company.isActive

/-- The row `SELECT ... FOR UPDATE` finds. -/
def lockable (s : Tenancy) (id tokenHash : String) : Option Invitation :=
  s.invitations.find? fun row => key row.id = key id && H.collates row.tokenHash tokenHash &&
    isPending row && s.now < row.expiresAt

def pendingFor (companyId email : String) (row : Invitation) : Bool :=
  key row.companyId = key companyId && key row.email = key email && isPending row

def revocable (id companyId : String) (row : Invitation) : Bool :=
  key row.id = key id && key row.companyId = key companyId && isPending row

def lockedBy (s : Tenancy) (tx : Nat) (row : Invitation) : Bool :=
  s.locks.contains (row.id, tx)

def release (tx : Nat) (locks : List (String × Nat)) : List (String × Nat) :=
  locks.filter fun lock => lock.2 ≠ tx

def Acceptance.user (acceptance : Acceptance) (now : Int) : User where
  id := acceptance.drawn.userId
  email := acceptance.invitation.email
  passwordHash := acceptance.drawn.passwordHash
  firstName := trimmed acceptance.firstName
  lastName := trimmed acceptance.lastName
  role := acceptance.invitation.role
  companyId := acceptance.invitation.companyId
  deletedAt := none
  createdAt := now
  origin := some ⟨acceptance.invitation.id, acceptance.lockedAt⟩

def Acceptance.consent (acceptance : Acceptance) (now : Int) : LegalConsent where
  id := acceptance.drawn.consentId
  userId := acceptance.drawn.userId
  termsVersion := Invitations.termsVersion
  privacyVersion := Invitations.privacyVersion
  ipAddress := orNull acceptance.ipAddress
  userAgent := orNull
    (acceptance.userAgent.map fun agent => String.ofList (agent.toList.take 500))
  acceptedAt := now

def Acceptance.refused (acceptance : Acceptance) (s : Tenancy) : Bool :=
  s.users.any (fun user => key user.id = key acceptance.drawn.userId ||
      key user.email = key acceptance.invitation.email) ||
    s.consents.any fun consent => key consent.id = key acceptance.drawn.consentId

def insertionRefused (id tokenHash : String) (s : Tenancy) : Bool :=
  s.invitations.any fun row => key row.id = key id || H.collates row.tokenHash tokenHash

/-- `key` is what the server compares ids and addresses by. -/
def execInvitation : InvitationOp → Tenancy → Tenancy
  | .read, s | .findActive _, s => s
  | .begin, s => { s with nextTx := s.nextTx + 1 }
  | .lockInvitation tx id tokenHash, s =>
    match lockable H key s id tokenHash with
    | some row => { s with locks := (row.id, tx) :: s.locks }
    | none => s
  | .commitAccept tx acceptance, s =>
    if acceptance.refused key s then { s with locks := release tx s.locks }
    else
      { s with
        users := s.users ++ [acceptance.user s.now]
        consents := s.consents ++ [acceptance.consent s.now]
        invitations := updateWhere (fun row => key row.id = key acceptance.invitation.id)
          (fun row => { row with acceptedAt := some s.now }) s.invitations
        locks := release tx s.locks }
  | .rollback tx, s => { s with locks := release tx s.locks }
  | .lockPending tx companyId email, s =>
    { s with
      locks := ((s.invitations.filter (pendingFor key companyId email)).map fun row =>
        (row.id, tx)) ++ s.locks }
  | .commitCreate tx revokedAt id companyId email role tokenHash invitedById, s =>
    if insertionRefused H key id tokenHash s then { s with locks := release tx s.locks }
    else
      { s with
        invitations := updateWhere (lockedBy s tx)
            (fun row => { row with revokedAt := some revokedAt }) s.invitations ++
          [{ id := id
             companyId := companyId
             email := email
             role := role
             tokenHash := tokenHash
             invitedById := invitedById
             expiresAt := s.now + 7 * 24 * 60 * 60 * 1000
             acceptedAt := none
             revokedAt := none
             createdAt := s.now
             replaces := (s.invitations.filter (lockedBy s tx)).map (·.id) }]
        locks := release tx s.locks }
  | .revoke id companyId, s =>
    { s with
      invitations := updateWhere (revocable key id companyId)
        (fun row => { row with revokedAt := some s.now }) s.invitations }

/-- A statement waits for the rows another transaction has locked. -/
def proceeds (op : InvitationOp) (s : Tenancy) : Bool :=
  match op with
  | .lockInvitation tx id _ => s.locks.all fun lock => key lock.1 ≠ key id || lock.2 = tx
  | .lockPending tx companyId email => s.invitations.all fun row =>
    !pendingFor key companyId email row ||
      s.locks.all fun lock => lock.1 ≠ row.id || lock.2 = tx
  | .revoke id _ => s.locks.all fun lock => key lock.1 ≠ key id
  | _ => true

end Statements

abbrev InvitationProgram := Prog Tenancy InvitationOp

section Calls

variable (H : Hashing) (T : Letters) (key : String → String)

/-- Where the server or the mail transport lets a call down: not at all, in its
transaction, or after it. -/
inductive Fault where
  | none
  | inside
  | after
  deriving DecidableEq

/-- The entry in the audit log, and the mail where there is one, come after the rest. -/
def afterwards (fault : Fault) : InvitationProgram :=
  .step .read fun _ => if fault = .after then .fail else .done

def emailTaken (email : String) (s : Tenancy) : Bool :=
  s.users.any fun user => key user.email = key email && user.deletedAt.isNone

def create (id token companyId actorId email : String) (role : Option InvitationRole)
    (fault : Fault) : InvitationProgram :=
  let email := T.toLowerCase (trimmed email)
  .step .read fun s =>
    if emailTaken key email s then .fail
    else
      .step .read fun s' =>
        if !s'.companies.any fun company => key company.id = key companyId && company.isActive then
          .fail
        else
          .step .begin fun s₁ =>
            .step (.lockPending s₁.nextTx companyId email) fun s₂ =>
              if fault = .inside then .step (.rollback s₁.nextTx) fun _ => .fail
              else
                .step
                  (.commitCreate s₁.nextTx s₂.now id companyId email (role.getD .client)
                    (hashCredential H token) actorId)
                  fun s₃ =>
                    if insertionRefused H key id (hashCredential H token) s₃ then .fail
                    else afterwards fault

def revoke (id companyId : String) (fault : Fault) : InvitationProgram :=
  .step (.revoke id companyId) fun s =>
    if s.invitations.any (revocable key id companyId) then afterwards fault else .fail

def accept (token : String) (dto : AcceptTenantInvitationDto) (context : RequestContext)
    (drawn : Drawn) (fault : Fault) : InvitationProgram :=
  .step (.findActive token) fun s =>
    match findActive H key s token with
    | none => .fail
    | some invitation =>
      if (passwordPolicyError T dto.password
          [invitation.email, dto.firstName, dto.lastName]).isSome then .fail
      else if !dto.termsAccepted || dto.termsVersion ≠ termsVersion ||
          dto.privacyVersion ≠ privacyVersion then .fail
      else
        .step .begin fun s₁ =>
          .step (.lockInvitation s₁.nextTx invitation.id (hashCredential H token)) fun s₂ =>
            if (lockable H key s₂ invitation.id (hashCredential H token)).isNone then
              .step (.rollback s₁.nextTx) fun _ => .fail
            else
              .step .read fun s₃ =>
                if emailTaken key invitation.email s₃ || fault = .inside then
                  .step (.rollback s₁.nextTx) fun _ => .fail
                else
                  let acceptance : Acceptance :=
                    { invitation := invitation
                      lockedAt := s₂.now
                      drawn := drawn
                      firstName := dto.firstName
                      lastName := dto.lastName
                      ipAddress := context.ipAddress
                      userAgent := context.userAgent }
                  .step (.commitAccept s₁.nextTx acceptance) fun s₄ =>
                    if acceptance.refused key s₄ then .fail else afterwards fault

inductive InvitationCall where
  | create (id token companyId actorId email : String) (role : Option InvitationRole)
      (fault : Fault)
  | revoke (id companyId : String) (fault : Fault)
  | accept (token : String) (dto : AcceptTenantInvitationDto) (context : RequestContext)
      (drawn : Drawn) (fault : Fault)

def InvitationCall.handler : InvitationCall → InvitationProgram
  | .create id token companyId actorId email role fault =>
    Invitations.create H T key id token companyId actorId email role fault
  | .revoke id companyId fault => Invitations.revoke key id companyId fault
  | .accept token dto context drawn fault => Invitations.accept H T key token dto context drawn fault

def invitationSystem : System Tenancy InvitationOp InvitationCall where
  exec := execInvitation H key
  tick s := { s with now := s.now + 1 }
  handler := InvitationCall.handler H T key
  sendable _ _ := True

end Calls
end FieldserviceIT.Admin.Invitations
