import FieldserviceIT.Common.Credential
import FieldserviceIT.Common.Users
import Mathlib.Data.List.Sort
import Mathlib.Data.Int.Order.Basic

/-!
What the authentication services keep: users, sessions, the history of rotated
refresh tokens and the login failures, and every single statement they run on
them. A statement is atomic. Random values are drawn by number, so that two
draws never meet; the platform says what the numbers look like.

The log, the signed tokens, the origin of a session and the count of password
changes are no columns. They say what happened, and no statement reads them.
-/

namespace FieldserviceIT.Auth

open Common

/-- Purposes of a challenge token. -/
inductive Purpose where
  | login
  | enroll
  deriving DecidableEq

/-- What a sign-in was granted on: a password, as often changed as the number
says, or the word of an identity provider or a passkey. -/
inductive Origin where
  | password (epoch : Nat)
  | trusted
  deriving DecidableEq

/-- The second factor of a user: is it on, the secret of the authenticator, and
the digests of the recovery codes left. -/
structure Factor where
  mfaEnabled : Bool
  mfaSecret : Option String
  mfaRecoveryCodes : List String
  deriving DecidableEq

/-- Secrets are stored encrypted and read back as they were. -/
structure UserRow where
  id : String
  email : String
  firstName : String
  lastName : String
  role : Role
  passwordHash : Option String
  isActive : Bool
  isDeleted : Bool
  authVersion : Nat
  factor : Factor
  mfaPendingSecret : Option String
  resetToken : Option String
  resetTokenExpiresAt : Option Int
  passwordEpoch : Nat

structure SessionRow where
  id : Nat
  userId : String
  refreshToken : String
  expiresAt : Int
  createdAt : Int
  lastSeenAt : Option Int
  mfaVerifiedAt : Option Int
  revokedAt : Option Int
  origin : Origin

/-- A row of `SessionRefreshHistory`. -/
structure HistoryRow where
  sessionId : Nat
  userId : String
  tokenHash : String
  expiresAt : Int

/-- A row of `LoginAbuseState`. -/
structure LoginFailure where
  failureCount : Nat
  lockedUntil : Option Int
  lastFailureAt : Int

/-- The payload of a signed token: access tokens name a session and the version
they were signed for, challenge tokens a purpose. -/
structure Jwt where
  sub : String
  sid : Option Nat
  av : Option Nat
  purpose : Option Purpose
  expiresAt : Int
  origin : Origin
  deriving DecidableEq

inductive Event where
  /-- The right password, against a row with the flag; with a code or without. -/
  | passwordChecked (userId : String) (epoch : Nat) (mfaEnabled withCode : Bool)
  /-- A code of the factor stored at that moment. -/
  | factorPresented (userId : String) (factor : Factor)
  /-- A completed identity provider exchange or a passkey assertion. -/
  | trustedLogin (userId : String)
  | factorChanged (userId : String) (before after : Factor)
  /-- A refresh token was replaced by the next one. -/
  | exchanged (presented : String) (sessionId : Nat) (userId : String)
  /-- The sessions of a user were deleted after a password change. -/
  | sessionsEnded (userId : String) (epoch : Nat)
  deriving DecidableEq

structure AuthState where
  now : Int
  supply : Nat
  users : List UserRow
  sessions : List SessionRow
  history : List HistoryRow
  loginFailures : String → Option LoginFailure
  issued : List Jwt
  log : List Event

/-- What the services take from their surroundings: the digest of credentials,
random values, password hashing, one-time codes and the security policy. A
refresh token is 64 hexadecimal digits: two of them never collate, and none
collates with a stored digest. -/
structure Platform where
  hashing : Hashing
  collates_symm : ∀ a b, hashing.collates a b = true → hashing.collates b a = true
  collates_trans : ∀ a b c, hashing.collates a b = true → hashing.collates b c = true →
    hashing.collates a c = true
  refreshToken : Nat → String
  refreshToken_fresh : ∀ m n, hashing.collates (refreshToken m) (refreshToken n) = true → m = n
  refreshToken_plain : ∀ v n, hashing.collates (hashCredential hashing v) (refreshToken n) = false
  resetToken : Nat → String
  generateSecret : Nat → String
  generateRecoveryCode : Nat → Nat → String
  bcryptHash : Nat → String → String
  bcryptCompare : String → String → Bool
  hotp : String → Int → String
  acceptsPassword : String → List String → Bool
  isRequired : Role → Bool
  sessionLifetimeDays : Nat
  maxActiveSessions : Nat
  accessLifetime : Int

/-- `credentialLookupValues` against a stored refresh token. -/
def Platform.opens (E : Platform) (presented stored : String) : Bool :=
  CredentialLookup.findByRefreshToken.selects E.hashing presented stored

section Codes

variable (E : Platform)

def trimmed (text : List Char) : List Char :=
  ((text.dropWhile Char.isWhitespace).reverse.dropWhile Char.isWhitespace).reverse

/-- `String(code || '').trim()` -/
def trimCode (code : String) : String :=
  String.ofList (trimmed code.toList)

def verifyTotp (secret code : String) (now : Int) : Bool :=
  [-1, 0, 1].any fun offset => E.hotp secret (now / 30000 + offset) = trimCode code

def hashRecoveryCode (value : String) : String :=
  E.hashing.sha256hex (String.ofList ((value.toList.filter Char.isAlphanum).map Char.toUpper))

def normalizeCode (code : String) : String :=
  String.ofList ((trimCode code).toList.map Char.toUpper)

def isSixDigits (code : String) : Bool :=
  code.toList.length = 6 && code.toList.all Char.isDigit

def totpMatches (factor : Factor) (code : String) (now : Int) : Bool :=
  isSixDigits (normalizeCode code) &&
    factor.mfaSecret.any fun secret => verifyTotp E secret (normalizeCode code) now

/-- The decision of `verifyUserCode`: a current code of the secret, or one of
the recovery codes left. -/
def verifies (factor : Factor) (code : String) (now : Int) : Bool :=
  factor.mfaEnabled && factor.mfaSecret.isSome &&
    (totpMatches E factor code now ||
      factor.mfaRecoveryCodes.contains (hashRecoveryCode E (normalizeCode code)))

end Codes

namespace AuthState

variable (E : Platform) (s : AuthState)

def findUser (id : String) : Option UserRow :=
  s.users.find? fun u => u.id = id

def findUserByEmail (email : String) : Option UserRow :=
  s.users.find? fun u => u.email = email

def findUserByResetToken (token : String) : Option UserRow :=
  s.users.find? fun u =>
    u.resetToken.any (CredentialLookup.findUserByResetToken.selects E.hashing token) &&
      u.resetTokenExpiresAt.any fun t => decide (s.now ≤ t)

def updateUser (id : String) (change : UserRow → UserRow) : AuthState :=
  { s with users := s.users.map fun u => if u.id = id then change u else u }

def updateSessions (wanted : SessionRow → Bool) (change : SessionRow → SessionRow) : AuthState :=
  { s with sessions := s.sessions.map fun r => if wanted r then change r else r }

/-- `revokedAt IS NULL AND expiresAt > NOW(3)` -/
def isLive (r : SessionRow) : Bool :=
  r.revokedAt.isNone && decide (s.now < r.expiresAt)

/-- `findByRefreshToken`: a row with the digest goes before one with the text. -/
def findByRefreshToken (token : String) : Option SessionRow :=
  (s.sessions.find? fun r => E.hashing.collates r.refreshToken (hashCredential E.hashing token)).or
    (s.sessions.find? fun r => E.opens token r.refreshToken)

def findReusedToken (token : String) : Option HistoryRow :=
  s.history.find? fun h =>
    E.hashing.collates h.tokenHash (hashCredential E.hashing token) && decide (s.now < h.expiresAt)

/-- The unique index on `refreshToken` refuses the next token. -/
def duplicate : Bool :=
  s.sessions.any fun r =>
    E.hashing.collates r.refreshToken (hashCredential E.hashing (E.refreshToken s.supply))

/-- The rows the conditional `UPDATE` of `rotate` is about. -/
def rotates (sessionId : Nat) (userId presented : String) (r : SessionRow) : Bool :=
  r.id = sessionId && r.userId = userId && E.opens presented r.refreshToken && s.isLive r

/-- The sessions beyond the limit, the least recently seen ones, in the order of
the query. -/
def staleSessions (userId : String) (limit keep : Nat) : List Nat :=
  let live := (s.sessions.filter fun r => r.userId = userId && s.isLive r).insertionSort
    fun r r' => r'.lastSeenAt.getD r'.createdAt ≤ r.lastSeenAt.getD r.createdAt
  ((live.drop limit).map (·.id)).filter (· ≠ keep)

/-- `JwtStrategy.validate` on a token whose signature is good. -/
def accepts (t : Jwt) : Bool :=
  decide (s.now < t.expiresAt) &&
    t.sid.all (fun sid => s.sessions.any fun r => r.id = sid && r.userId = t.sub && s.isLive r) &&
    (s.findUser t.sub).any fun u => u.isActive && t.av.all (· = u.authVersion)

end AuthState

/-- The statements. `read` is any query, and any statement on data that nothing
here reads. -/
inductive Op where
  | read
  | findUserForLogin (email password : String) (mfaCode : Option String)
  | findTrustedUser (userId : String)
  | findFactor (userId code : String)
  | findReusedToken (token : String)
  | recordLoginFailure (email : String)
  | clearLoginFailures (email : String)
  | signChallenge (userId : String) (purpose : Purpose) (origin : Origin)
  | signAccess (userId : String) (sessionId authVersion : Nat) (origin : Origin)
  | setPendingSecret (userId : String)
  | enableFactor (userId secret : String)
  | consumeRecoveryCode (userId : String) (remaining : List String) (checked : Factor)
  | disableFactor (userId : String) (checked : Factor)
  | replaceRecoveryCodes (userId : String) (checked : Factor)
  | createSession (userId : String) (mfaVerifiedAt : Option Int) (expiresAt : Int) (origin : Origin)
  | rotate (sessionId : Nat) (userId presented : String) (expiresAt : Int)
  | recordRotation (sessionId : Nat) (userId presented : String) (expiresAt : Int)
  | touchSession (sessionId : Nat)
  | stepUpSession (sessionId : Nat) (userId : String)
  | trimSessions (stale : List Nat)
  | revokeByRefreshToken (token : String)
  | revokeActiveFamily (userId : String)
  | revokeSession (sessionId : Nat) (userId : String)
  | revokeOtherSessions (userId : String) (current : Option Nat)
  | incrementAuthVersion (userId : String)
  | setPassword (userId password : String) (clearsReset : Bool)
  | deleteSessions (userId : String)
  | setResetToken (userId : String)

section Exec

variable (E : Platform)

def loginEvents (s : AuthState) (email password : String) (mfaCode : Option String) : List Event :=
  match s.findUserByEmail email with
  | some u =>
    if u.isActive && u.passwordHash.any (E.bcryptCompare password) then
      [.passwordChecked u.id u.passwordEpoch u.factor.mfaEnabled (truthy mfaCode)]
    else []
  | none => []

def factorEvents (s : AuthState) (userId code : String) : List Event :=
  match s.findUser userId with
  | some u => if verifies E u.factor code s.now then [.factorPresented userId u.factor] else []
  | none => []

def changeFactor (s : AuthState) (userId : String) (change : Factor → Factor)
    (pending : Option String → Option String) : AuthState :=
  { s.updateUser userId fun u =>
      { u with factor := change u.factor, mfaPendingSecret := pending u.mfaPendingSecret } with
    log := ((s.findUser userId).toList.map fun u =>
      .factorChanged userId u.factor (change u.factor)) ++ s.log }

def lockMs : Int := 15 * 60 * 1000

def nextFailure (now : Int) : Option LoginFailure → LoginFailure
  | none => ⟨1, none, now⟩
  | some f =>
    let count := if f.lastFailureAt < now - lockMs then 1 else f.failureCount + 1
    let locked := f.lockedUntil.filter fun t => decide (now < t)
    ⟨count, if 5 ≤ count then some (now + lockMs) else locked, now⟩

def exec (op : Op) (s : AuthState) : AuthState :=
  match op with
  | .read | .findReusedToken _ => s
  | .findUserForLogin email password mfaCode =>
    { s with log := loginEvents E s email password mfaCode ++ s.log }
  | .findTrustedUser userId =>
    { s with log := .trustedLogin userId :: s.log }
  | .findFactor userId code => { s with log := factorEvents E s userId code ++ s.log }
  | .recordLoginFailure email =>
    { s with loginFailures := fun e =>
        if e = email then some (nextFailure s.now (s.loginFailures e)) else s.loginFailures e }
  | .clearLoginFailures email =>
    { s with loginFailures := fun e => if e = email then none else s.loginFailures e }
  | .signChallenge userId purpose origin =>
    { s with issued := ⟨userId, none, none, some purpose, s.now + 5 * 60 * 1000, origin⟩ :: s.issued }
  | .signAccess userId sessionId authVersion origin =>
    { s with issued := ⟨userId, some sessionId, some authVersion, none,
        s.now + E.accessLifetime, origin⟩ :: s.issued }
  | .setPendingSecret userId =>
    { s.updateUser userId fun u => { u with mfaPendingSecret := some (E.generateSecret s.supply) }
      with supply := s.supply + 1 }
  | .enableFactor userId secret =>
    let codes := (List.range 10).map fun k =>
      hashRecoveryCode E (E.generateRecoveryCode s.supply k)
    { changeFactor s userId (fun _ => ⟨true, some secret, codes⟩) (fun _ => none) with
      supply := s.supply + 1 }
  | .consumeRecoveryCode userId remaining _ =>
    changeFactor s userId (fun f => { f with mfaRecoveryCodes := remaining }) id
  | .disableFactor userId _ =>
    changeFactor s userId (fun _ => ⟨false, none, []⟩) fun _ => none
  | .replaceRecoveryCodes userId _ =>
    let codes := (List.range 10).map fun k =>
      hashRecoveryCode E (E.generateRecoveryCode s.supply k)
    { changeFactor s userId (fun f => { f with mfaRecoveryCodes := codes }) id with
      supply := s.supply + 1 }
  | .createSession userId mfaVerifiedAt expiresAt origin =>
    let row : SessionRow :=
      { id := s.supply, userId := userId
        refreshToken := hashCredential E.hashing (E.refreshToken s.supply)
        expiresAt := expiresAt, createdAt := s.now, lastSeenAt := some s.now
        mfaVerifiedAt := mfaVerifiedAt, revokedAt := none, origin := origin }
    { s with
      sessions := if s.duplicate E then s.sessions else row :: s.sessions
      supply := s.supply + 1 }
  | .rotate sessionId userId presented expiresAt =>
    let wanted := s.rotates E sessionId userId presented
    if s.sessions.any wanted && !s.duplicate E then
      { s.updateSessions wanted fun r =>
          { r with
            refreshToken := hashCredential E.hashing (E.refreshToken s.supply)
            expiresAt := expiresAt, lastSeenAt := some s.now, revokedAt := none } with
        supply := s.supply + 1
        log := .exchanged presented sessionId userId :: s.log }
    else { s with supply := s.supply + 1 }
  | .recordRotation sessionId userId presented expiresAt =>
    let tokenHash := hashCredential E.hashing presented
    if s.history.any fun h => E.hashing.collates h.tokenHash tokenHash then s
    else { s with history := ⟨sessionId, userId, tokenHash, expiresAt⟩ :: s.history }
  | .touchSession sessionId =>
    s.updateSessions (fun r => r.id = sessionId) fun r => { r with lastSeenAt := some s.now }
  | .stepUpSession sessionId userId =>
    s.updateSessions (fun r => r.id = sessionId && r.userId = userId && s.isLive r) fun r =>
      { r with mfaVerifiedAt := some s.now, lastSeenAt := some s.now }
  | .trimSessions stale =>
    s.updateSessions (fun r => stale.contains r.id) fun r => { r with revokedAt := some s.now }
  | .revokeByRefreshToken token =>
    s.updateSessions (fun r => E.opens token r.refreshToken) fun r =>
      { r with revokedAt := some s.now }
  | .revokeActiveFamily userId =>
    s.updateSessions (fun r => r.userId = userId && r.revokedAt.isNone) fun r =>
      { r with revokedAt := some s.now }
  | .revokeSession sessionId userId =>
    s.updateSessions (fun r => r.id = sessionId && r.userId = userId && r.revokedAt.isNone) fun r =>
      { r with revokedAt := some s.now }
  | .revokeOtherSessions userId current =>
    s.updateSessions
      (fun r => r.userId = userId && r.revokedAt.isNone && current.all (· ≠ r.id)) fun r =>
        { r with revokedAt := some s.now }
  | .incrementAuthVersion userId =>
    s.updateUser userId fun u => { u with authVersion := u.authVersion + 1 }
  | .setPassword userId password clearsReset =>
    { s.updateUser userId fun u =>
        { u with
          passwordHash := some (E.bcryptHash s.supply password)
          resetToken := if clearsReset then none else u.resetToken
          resetTokenExpiresAt := if clearsReset then none else u.resetTokenExpiresAt
          passwordEpoch := u.passwordEpoch + 1 } with
      supply := s.supply + 1 }
  | .deleteSessions userId =>
    { s with
      sessions := s.sessions.filter fun r => r.userId ≠ userId
      log := ((s.findUser userId).toList.map fun u => .sessionsEnded userId u.passwordEpoch) ++
        s.log }
  | .setResetToken userId =>
    { s.updateUser userId fun u =>
        { u with
          resetToken := some (hashCredential E.hashing (E.resetToken s.supply))
          resetTokenExpiresAt := some (s.now + 60 * 60 * 1000) } with
      supply := s.supply + 1 }

end Exec
end FieldserviceIT.Auth
