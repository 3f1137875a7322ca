import FieldserviceIT.Auth.Store
import FieldserviceIT.Lib.Interleaving

/-!
The authentication services as programs over the statements of the store. Every
`await` on the database is a step; what stands between two of them is computed
from what the earlier ones returned. A program that throws ends in `fail`.
-/

namespace FieldserviceIT.Auth

open Common Lib

abbrev Program := Prog AuthState Op

section Tokens

variable (E : Platform)

/-- `trimSessions` -/
def trimSessions (userId : String) (keep : Nat) : Program :=
  .step .read fun s =>
    let stale := s.staleSessions userId E.maxActiveSessions keep
    if stale.isEmpty then .done else .step (.trimSessions stale) fun _ => .done

/-- The rest of `generateTokens` once the session is there. -/
def signTokens (user : UserRow) (sessionId : Nat) (origin : Origin) : Program :=
  .step (.signAccess user.id sessionId user.authVersion origin) fun _ =>
    trimSessions E user.id sessionId

/-- The loop of `generateTokens` for a new session; a taken token is replaced by
another one up to four times. -/
def createTokens (user : UserRow) (mfaVerifiedAt : Option Int) (expiresAt : Int)
    (origin : Origin) : Nat → Program
  | 0 => .fail
  | attempts + 1 =>
    .step (.createSession user.id mfaVerifiedAt expiresAt origin) fun s =>
      if s.duplicate E then createTokens user mfaVerifiedAt expiresAt origin attempts
      else .step .read fun s' =>
        if s'.sessions.any (·.id = s.supply) then signTokens E user s.supply origin else .fail

/-- The loop of `generateTokens` for a presented refresh token. -/
def rotateTokens (user : UserRow) (session : SessionRow) (presented : String) (expiresAt : Int) :
    Nat → Program
  | 0 => .fail
  | attempts + 1 =>
    .step (.rotate session.id user.id presented expiresAt) fun s =>
      if s.sessions.any (s.rotates E session.id user.id presented) then
        if s.duplicate E then rotateTokens user session presented expiresAt attempts
        else .step (.recordRotation session.id user.id presented expiresAt) fun _ =>
          signTokens E user session.id session.origin
      else .fail

def sessionExpiry (now : Int) : Int :=
  now + E.sessionLifetimeDays * 24 * 60 * 60 * 1000

/-- `generateTokens` for a new session. -/
def generateTokens (user : UserRow) (mfaVerifiedAt : Option Int) (origin : Origin) : Program :=
  .step .read fun s => createTokens E user mfaVerifiedAt (sessionExpiry E s.now) origin 5

/-- `refresh` -/
def refresh (token : String) : Program :=
  if token = "" then .fail
  else .step .read fun s =>
    match s.findByRefreshToken E token with
    | none =>
      .step (.findReusedToken token) fun s' =>
        match s'.findReusedToken E token with
        | some reused => .step (.revokeActiveFamily reused.userId) fun _ => .step .read fun _ => .fail
        | none => .fail
    | some session =>
      .step .read fun s' =>
        if session.expiresAt < s'.now ∨ session.revokedAt.isSome then .fail
        else match s'.findUser session.userId with
          | none => .fail
          | some user =>
            .step .read fun s'' =>
              rotateTokens E user session token (sessionExpiry E s''.now) 5

def logout (token : String) : Program :=
  if token = "" then .done else .step (.revokeByRefreshToken token) fun _ => .done

end Tokens

section Factor

variable (E : Platform)

/-- `verifyUserCode`, then the rest with the factor the code was checked against.
A recovery code is crossed out before. -/
def verifyUserCode (userId code : String) (k : Factor → Program) : Program :=
  .step (.findFactor userId code) fun s =>
    match s.findUser userId with
    | none => .fail
    | some u =>
      if !verifies E u.factor code s.now then .fail
      else if totpMatches E u.factor code s.now then k u.factor
      else
        let remaining := u.factor.mfaRecoveryCodes.erase
          (hashRecoveryCode E (normalizeCode code))
        .step (.consumeRecoveryCode userId remaining u.factor) fun _ =>
          k { u.factor with mfaRecoveryCodes := remaining }

def beginSetup (userId : String) : Program :=
  .step (.setPendingSecret userId) fun _ => .done

def confirmSetup (userId code : String) (k : Program) : Program :=
  .step .read fun s =>
    match (s.findUser userId).bind (·.mfaPendingSecret) with
    | none => .fail
    | some secret =>
      if verifyTotp E secret code s.now then .step (.enableFactor userId secret) fun _ => k
      else .fail

/-- `MfaService.disable` -/
def disable (userId code : String) : Program :=
  verifyUserCode E userId code fun factor => .step (.disableFactor userId factor) fun _ => .done

def regenerateRecoveryCodes (userId code : String) : Program :=
  verifyUserCode E userId code fun factor =>
    .step (.replaceRecoveryCodes userId factor) fun _ => .done

end Factor

section Login

variable (E : Platform)

/-- `email.toLowerCase().trim()` -/
def normalizeEmail (email : String) : String :=
  String.ofList (trimmed (email.toList.map Char.toLower))

/-- `login` -/
def login (email password : String) (mfaCode : Option String) : Program :=
  let normalizedEmail := normalizeEmail email
  .step .read fun s =>
    if (s.loginFailures normalizedEmail).any fun f => f.lockedUntil.any fun t => s.now < t then .fail
    else .step (.findUserForLogin normalizedEmail password mfaCode) fun s' =>
      let refused := Prog.step (.recordLoginFailure normalizedEmail) fun _ => .fail
      match s'.findUserByEmail normalizedEmail with
      | none => refused
      | some user =>
        if !user.isActive || !user.passwordHash.any (E.bcryptCompare password) then refused
        else
          let origin := Origin.password user.passwordEpoch
          let granted := fun mfaVerifiedAt => Prog.step (.clearLoginFailures normalizedEmail) fun _ =>
            generateTokens E user mfaVerifiedAt origin
          .step .read fun s'' =>
            if user.factor.mfaEnabled then
              if truthy mfaCode then
                verifyUserCode E user.id (mfaCode.getD "") fun _ => granted (some s''.now)
              else .step (.signChallenge user.id .login origin) fun _ => .done
            else if E.isRequired user.role then
              .step (.signChallenge user.id .enroll origin) fun _ => .done
            else granted none

/-- `verifyMfaChallenge`, and the user the token names. -/
def withChallenge (token : Jwt) (purpose : Purpose) (k : UserRow → Int → Program) : Program :=
  .step .read fun s =>
    if s.now < token.expiresAt ∧ token.purpose = some purpose then
      match s.findUser token.sub with
      | some user => if user.isActive then k user s.now else .fail
      | none => .fail
    else .fail

def beginChallengeEnrollment (token : Jwt) : Program :=
  withChallenge token .enroll fun user _ => beginSetup user.id

def confirmChallengeEnrollment (token : Jwt) (code : String) : Program :=
  withChallenge token .enroll fun user now =>
    confirmSetup E user.id code (generateTokens E user (some now) token.origin)

def confirmChallengeLogin (token : Jwt) (code : String) : Program :=
  withChallenge token .login fun user now =>
    verifyUserCode E user.id code fun _ =>
      .step (.clearLoginFailures user.email) fun _ => generateTokens E user (some now) token.origin

/-- `completeSsoLogin`, after the identity provider's code was consumed. -/
def completeSsoLogin (userId : String) (trustedMfa : Bool) : Program :=
  .step (.findTrustedUser userId) fun s =>
    match s.findUser userId with
    | none => .fail
    | some user =>
      if !user.isActive then .fail
      else .step .read fun s' =>
        if E.isRequired user.role && !trustedMfa && !user.factor.mfaEnabled then
          .step (.signChallenge user.id .enroll .trusted) fun _ => .done
        else generateTokens E user (if trustedMfa then some s'.now else none) .trusted

/-- `completePasskeyLogin`, after the assertion was verified. -/
def completePasskeyLogin (userId : String) : Program :=
  .step (.findTrustedUser userId) fun s =>
    match s.findUser userId with
    | none => .fail
    | some user =>
      if !user.isActive then .fail
      else .step (.clearLoginFailures user.email) fun s' =>
        generateTokens E user (some s'.now) .trusted

end Login

section SignedIn

variable (E : Platform)

/-- The second query of `JwtStrategy.validate`, and the handler behind it. -/
def withUser (token : Jwt) (k : UserRow → Option Nat → Program) : Program :=
  .step .read fun s =>
    match s.findUser token.sub with
    | some user =>
      if user.isActive && token.av.all (· = user.authVersion) then k user token.sid else .fail
    | none => .fail

/-- `JwtStrategy.validate` -/
def authenticated (token : Jwt) (k : UserRow → Option Nat → Program) : Program :=
  .step .read fun s =>
    if s.now < token.expiresAt then
      match token.sid with
      | none => withUser token k
      | some sid =>
        match s.sessions.find? fun r => r.id = sid && r.userId = token.sub && s.isLive r with
        | none => .fail
        | some r =>
          if 5 * 60 * 1000 < s.now - r.lastSeenAt.getD 0 then
            .step (.touchSession sid) fun _ => withUser token k
          else withUser token k
    else .fail

def beginMfaSetup (token : Jwt) : Program :=
  authenticated token fun user _ => beginSetup user.id

def confirmMfaSetup (token : Jwt) (code : String) : Program :=
  authenticated token fun user _ => confirmSetup E user.id code .done

/-- The password confirmation in front of the factor's own operations. -/
def withPassword (userId password : String) (k : Program) : Program :=
  .step .read fun s =>
    if (s.findUser userId).any fun u => u.passwordHash.any (E.bcryptCompare password) then k
    else .fail

def disableMfa (token : Jwt) (code password : String) : Program :=
  authenticated token fun user _ =>
    if password = "" then .step .read fun _ => .fail
    else withPassword E user.id password (disable E user.id code)

def regenerateCodes (token : Jwt) (code password : String) : Program :=
  authenticated token fun user _ =>
    withPassword E user.id password (regenerateRecoveryCodes E user.id code)

def stepUp (token : Jwt) (code : String) : Program :=
  authenticated token fun user sessionId =>
    match sessionId with
    | none => .fail
    | some sid =>
      verifyUserCode E user.id code fun _ => .step (.stepUpSession sid user.id) fun s =>
        if s.sessions.any fun r => r.id = sid && r.userId = user.id && s.isLive r then .done
        else .fail

def revokeSession (token : Jwt) (sessionId : Nat) : Program :=
  authenticated token fun user _ => .step (.revokeSession sessionId user.id) fun s =>
    if s.sessions.any fun r => r.id = sessionId && r.userId = user.id && r.revokedAt.isNone then .done
    else .fail

def revokeOtherSessions (token : Jwt) : Program :=
  authenticated token fun user sessionId =>
    .step (.revokeOtherSessions user.id sessionId) fun _ => .done

/-- `UsersService.changePassword` -/
def changePassword (token : Jwt) (oldPassword newPassword : String) : Program :=
  authenticated token fun user _ => .step .read fun s =>
    match s.findUser user.id with
    | none => .fail
    | some u =>
      if u.isDeleted || !u.passwordHash.any (E.bcryptCompare oldPassword) ||
          !E.acceptsPassword newPassword [u.email, u.firstName, u.lastName] then .fail
      else .step (.setPassword u.id newPassword false) fun _ =>
        .step (.deleteSessions u.id) fun _ => .done

/-- `AuthService.resetPassword` -/
def resetPassword (token password : String) : Program :=
  if !E.acceptsPassword password [] then .fail
  else .step .read fun s =>
    match s.findUserByResetToken E token with
    | none => .fail
    | some found => .step .read fun s' =>
      match s'.findUser found.id with
      | none => .fail
      | some user => .step (.setPassword user.id password true) fun _ =>
        .step (.deleteSessions user.id) fun _ => .done

def forgotPassword (email : String) : Program :=
  .step .read fun s =>
    match s.findUserByEmail email with
    | none => .done
    | some user => .step (.setResetToken user.id) fun _ => .done

/-- The administrator's `revokeSessionsForUsers`, for one user. -/
def revokeSessionsForUser (userId : String) : Program :=
  .step (.revokeActiveFamily userId) fun _ => .step (.incrementAuthVersion userId) fun _ => .done

end SignedIn

inductive Request where
  | login (email password : String) (mfaCode : Option String)
  | beginChallengeEnrollment (token : Jwt)
  | confirmChallengeEnrollment (token : Jwt) (code : String)
  | confirmChallengeLogin (token : Jwt) (code : String)
  | completeSsoLogin (userId : String)
  | completePasskeyLogin (userId : String)
  | refresh (token : String)
  | logout (token : String)
  | beginMfaSetup (token : Jwt)
  | confirmMfaSetup (token : Jwt) (code : String)
  | disableMfa (token : Jwt) (code password : String)
  | regenerateRecoveryCodes (token : Jwt) (code password : String)
  | stepUp (token : Jwt) (code : String)
  | revokeSession (token : Jwt) (sessionId : Nat)
  | revokeOtherSessions (token : Jwt)
  | changePassword (token : Jwt) (oldPassword newPassword : String)
  | resetPassword (token password : String)
  | forgotPassword (email : String)
  | revokeSessionsForUser (userId : String)

namespace Request

def handler (E : Platform) : Request → Program
  | login email password mfaCode => Auth.login E email password mfaCode
  | beginChallengeEnrollment token => Auth.beginChallengeEnrollment token
  | confirmChallengeEnrollment token code => Auth.confirmChallengeEnrollment E token code
  | confirmChallengeLogin token code => Auth.confirmChallengeLogin E token code
  | completeSsoLogin userId => Auth.completeSsoLogin E userId true
  | completePasskeyLogin userId => Auth.completePasskeyLogin E userId
  | refresh token => Auth.refresh E token
  | logout token => Auth.logout token
  | beginMfaSetup token => Auth.beginMfaSetup token
  | confirmMfaSetup token code => Auth.confirmMfaSetup E token code
  | disableMfa token code password => Auth.disableMfa E token code password
  | regenerateRecoveryCodes token code password => Auth.regenerateCodes E token code password
  | stepUp token code => Auth.stepUp E token code
  | revokeSession token sessionId => Auth.revokeSession token sessionId
  | revokeOtherSessions token => Auth.revokeOtherSessions token
  | changePassword token oldPassword newPassword =>
    Auth.changePassword E token oldPassword newPassword
  | resetPassword token password => Auth.resetPassword E token password
  | forgotPassword email => Auth.forgotPassword email
  | revokeSessionsForUser userId => Auth.revokeSessionsForUser userId

def token : Request → Option Jwt
  | beginChallengeEnrollment token | confirmChallengeEnrollment token _
  | confirmChallengeLogin token _ | beginMfaSetup token | confirmMfaSetup token _
  | disableMfa token _ _ | regenerateRecoveryCodes token _ _ | stepUp token _
  | revokeSession token _ | revokeOtherSessions token | changePassword token _ _ => some token
  | _ => none

end Request

/-- The services side by side. Signatures cannot be forged: a request carries a
token only when it was signed before. -/
def authSystem (E : Platform) : System AuthState Op Request where
  exec := exec E
  tick s := { s with now := s.now + 1 }
  handler := Request.handler E
  sendable s req := ∀ t, req.token = some t → t ∈ s.issued

end FieldserviceIT.Auth
