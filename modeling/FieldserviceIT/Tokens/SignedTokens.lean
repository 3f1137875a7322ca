import FieldserviceIT.Admin.Scim

/-!
The tokens that are signed with the key of the access tokens: unsubscribe links,
links to protected files, tracking links, access tokens and the challenges of a
second factor. A verifier takes a message out of what it is presented with and
compares the signature of that message; no message says what it was signed for.
-/

namespace FieldserviceIT.Tokens

open Common Sql
open Admin (countsAsTrue)

abbrev Text := List Char

/-- Neither of the two characters that join the parts of a message. -/
def Plain (text : Text) : Prop :=
  '.' ∉ text ∧ '|' ∉ text

inductive Algorithm where
  | hs256
  | hs384
  | hs512
  deriving DecidableEq

structure FileLink where
  key : Text
  companyId : Option Text
  mimeType : Text
  fileName : Text
  exp : Int

/-- What is used of the platform. The keyed digest is taken to be unforgeable: nobody
finds two messages with one signature. `notAfter` is `Number(value || 0) <= now`. -/
structure Runtime where
  mac : Algorithm → Text → Text
  mac_injective : ∀ {a b m n}, mac a m = mac b n → a = b ∧ m = n
  mac_plain : ∀ a m, Plain (mac a m)
  mac_ne_nil : ∀ a m, mac a m ≠ []
  encode : Text → Text
  encode_plain : ∀ text, Plain (encode text)
  encode_ne_nil : ∀ {text}, text ≠ [] → encode text ≠ []
  decode : Text → Text
  decode_encode : ∀ text, decode (encode text) = text
  parse : Text → Option Js
  stringify : FileLink → Text
  stringify_ne_nil : ∀ link, stringify link ≠ []
  notAfter : Js → Int → Bool
  trimLower : Text → Text
  isSpace : Char → Bool

inductive MfaPurpose where
  | login
  | enroll
  deriving DecidableEq

def MfaPurpose.text : MfaPurpose → Text
  | .login => "login".toList
  | .enroll => "enroll".toList

/-- The claims the verifiers read; `exp` is in seconds. -/
structure JwtClaims where
  sub : Option Text
  sid : Option Text
  purpose : Option Text
  av : Option Int
  exp : Int
  deriving DecidableEq

section Issuing

variable (rt : Runtime)

/-- The token library: a token is a header, a payload and the signature of both, and
what was signed is read back until it expires. -/
structure Jwt where
  header : JwtClaims → Text
  payload : JwtClaims → Text
  header_plain : ∀ claims, Plain (header claims)
  payload_plain : ∀ claims, Plain (payload claims)
  verify : Text → Int → Option JwtClaims
  verify_sound : ∀ {token now claims}, verify token now = some claims →
    ∃ algorithm first second, Plain first ∧ Plain second ∧
      token = (first ++ '.' :: second) ++
        '.' :: rt.mac algorithm (first ++ '.' :: second)
  verify_signed : ∀ claims now,
    verify ((header claims ++ '.' :: payload claims) ++
        '.' :: rt.mac .hs256 (header claims ++ '.' :: payload claims)) now =
      if now < claims.exp then some claims else none

def Jwt.message {rt : Runtime} (jwt : Jwt rt) (claims : JwtClaims) : Text :=
  jwt.header claims ++ '.' :: jwt.payload claims

def isAddress (email : Text) : Bool :=
  let name := email.takeWhile (· ≠ '@')
  let host := (email.dropWhile (· ≠ '@')).tail
  !name.isEmpty && !host.contains '@' && host.tail.dropLast.contains '.' &&
    email.all fun c => !rt.isSpace c

/-- `normalizeEmail` -/
def normalizeEmail (value : Text) : Text :=
  let email := rt.trimLower value
  if isAddress rt email then email else []

/-- A generated id. -/
structure DeliveryId where
  text : Text
  plain : Plain text

inductive Event where
  | opened
  | clicked
  deriving DecidableEq

def Event.text : Event → Text
  | .opened => "OPEN".toList
  | .clicked => "CLICK".toList

/-- What `trackingSignature` signs. -/
def trackingMessage (deliveryId : Text) (event : Event) (payload : Text) : Text :=
  deliveryId ++ '|' :: (event.text ++ '|' :: payload)

inductive Purpose where
  | unsubscribe
  | protectedFile
  | tracking (event : Event)
  | access
  | challenge (purpose : MfaPurpose)
  deriving DecidableEq

/-- What the issuers sign. -/
inductive Issue where
  | unsubscribe (email : Text)
  | protectedFile (link : FileLink)
  | opened (deliveryId : DeliveryId)
  | clicked (deliveryId : DeliveryId) (url : Text)
  | access (userId sessionId : Text) (authVersion exp : Int)
  | challenge (userId : Text) (purpose : MfaPurpose) (exp : Int)

def accessClaims (userId sessionId : Text) (authVersion exp : Int) : JwtClaims where
  sub := some userId
  sid := some sessionId
  purpose := none
  av := some authVersion
  exp := exp

/-- `createMfaChallenge` -/
def challengeClaims (userId : Text) (purpose : MfaPurpose) (exp : Int) : JwtClaims where
  sub := some userId
  sid := none
  purpose := some purpose.text
  av := none
  exp := exp

namespace Issue

def purpose : Issue → Purpose
  | unsubscribe _ => .unsubscribe
  | protectedFile _ => .protectedFile
  | opened _ => .tracking .opened
  | clicked _ _ => .tracking .clicked
  | access _ _ _ _ => .access
  | challenge _ purpose _ => .challenge purpose

def message (jwt : Jwt rt) : Issue → Text
  | unsubscribe email => rt.encode (normalizeEmail rt email)
  | protectedFile link => rt.encode (rt.stringify link)
  | opened deliveryId => trackingMessage deliveryId.text .opened []
  | clicked deliveryId url => trackingMessage deliveryId.text .clicked (rt.encode url)
  | access userId sessionId authVersion exp =>
    jwt.message (accessClaims userId sessionId authVersion exp)
  | challenge userId purpose exp => jwt.message (challengeClaims userId purpose exp)

end Issue
end Issuing

section Verifying

structure TokenUser where
  id : Text
  isActive : Bool
  isDeleted : Bool
  authVersion : Int

structure TokenSession where
  id : Text
  userId : Text
  revoked : Bool
  expiresAt : Int

/-- The moment of a verification, in milliseconds, and the rows it reads. -/
structure Env where
  now : Int
  users : List TokenUser
  sessions : List TokenSession

variable (rt : Runtime) (jwt : Jwt rt) (env : Env)

/-- The first two parts of `token.split('.')`. -/
def firstPart (token : Text) : Text :=
  token.takeWhile (· ≠ '.')

def secondPart (token : Text) : Text :=
  ((token.dropWhile (· ≠ '.')).tail).takeWhile (· ≠ '.')

/-- `verifyUnsubscribeToken`, which answers with an address or nothing. -/
def verifyUnsubscribeToken (token : Text) : Text :=
  if firstPart token = [] ∨ secondPart token = [] then []
  else if secondPart token ≠ rt.mac .hs256 (firstPart token) then []
  else normalizeEmail rt (rt.decode (firstPart token))

def liveFile (payload : Js) : Bool :=
  countsAsTrue (payload.property "key") && !rt.notAfter (payload.property "exp") env.now

/-- `verifyProtectedToken` -/
def verifyProtectedToken (token : Text) : Option Js :=
  if secondPart token = [] ∨ secondPart token ≠ rt.mac .hs256 (firstPart token) then none
  else (rt.parse (rt.decode (firstPart token))).filter (liveFile rt env)

def verifyTrackingSignature (deliveryId : Text) (event : Event) (payload signature : Text) : Bool :=
  signature = rt.mac .hs256 (trackingMessage deliveryId event payload)

namespace Env

def user (id : Option Text) : Option TokenUser :=
  env.users.find? fun user => id = some user.id

def sessionGoesOn (claims : JwtClaims) : Bool :=
  env.sessions.any fun session => claims.sid = some session.id &&
    claims.sub = some session.userId && !session.revoked && decide (env.now < session.expiresAt)

def hasSession (claims : JwtClaims) : Bool :=
  claims.sid.all (·.isEmpty) || env.sessionGoesOn claims

end Env

def verify (token : Text) : Option JwtClaims :=
  jwt.verify token (env.now / 1000)

/-- `JwtStrategy.validate` -/
def validate (claims : JwtClaims) : Bool :=
  env.hasSession claims && (env.user claims.sub).any fun user =>
    user.isActive && claims.av.all (· = user.authVersion)

/-- `WsAuthGuard.canActivate` -/
def canActivate (claims : JwtClaims) : Bool :=
  ((env.user claims.sub).any fun user =>
    user.isActive && !user.isDeleted && claims.av.getD 0 = user.authVersion) &&
    env.hasSession claims

/-- `verifyMfaChallenge` -/
def verifyMfaChallenge (purpose : MfaPurpose) (claims : JwtClaims) : Bool :=
  claims.purpose = some purpose.text && claims.sub.any (!·.isEmpty)

/-- What a verifier is presented with. -/
inductive Presentation where
  | unsubscribe (token : Text)
  | protectedFile (token : Text)
  | opened (deliveryId signature : Text)
  | clicked (deliveryId url signature : Text)
  | bearer (token : Text)
  | socket (token : Text)
  | challenge (purpose : MfaPurpose) (token : Text)

namespace Presentation

def purpose : Presentation → Purpose
  | unsubscribe _ => .unsubscribe
  | protectedFile _ => .protectedFile
  | opened _ _ => .tracking .opened
  | clicked _ _ _ => .tracking .clicked
  | bearer _ | socket _ => .access
  | challenge purpose _ => .challenge purpose

def accepted : Presentation → Bool
  | unsubscribe token => !(verifyUnsubscribeToken rt token).isEmpty
  | protectedFile token => (verifyProtectedToken rt env token).isSome
  | opened deliveryId signature => verifyTrackingSignature rt deliveryId .opened [] signature
  | clicked deliveryId url signature =>
    verifyTrackingSignature rt deliveryId .clicked url signature
  | bearer token => (verify rt jwt env token).any (validate env)
  | socket token => (verify rt jwt env token).any (canActivate env)
  | challenge purpose token => (verify rt jwt env token).any (verifyMfaChallenge purpose)

/-- The message a verifier takes out of what it is presented with, and the signature
that comes with it. -/
def Reads : Presentation → Text → Text → Prop
  | unsubscribe token, message, signature | protectedFile token, message, signature =>
    message = firstPart token ∧ signature = secondPart token
  | opened deliveryId given, message, signature =>
    message = trackingMessage deliveryId .opened [] ∧ signature = given
  | clicked deliveryId url given, message, signature =>
    message = trackingMessage deliveryId .clicked url ∧ signature = given
  | bearer token, message, signature | socket token, message, signature
  | challenge _ token, message, signature => token = message ++ '.' :: signature ∧ '.' ∉ signature

end Presentation
end Verifying
end FieldserviceIT.Tokens
