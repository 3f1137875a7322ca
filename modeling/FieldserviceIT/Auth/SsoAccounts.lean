import FieldserviceIT.Admin.Accounts
import FieldserviceIT.Common.WhiteSpace
import FieldserviceIT.Lib.CodeUnits
import FieldserviceIT.Lib.JsonText
import FieldserviceIT.Lib.RelativeUrls

/-!
Sign-in through an identity provider: what an ID token has to say, which account it resolves to, and
the path of the frontend that the user returns to.
-/

namespace FieldserviceIT.Auth

open Common Lib Admin

section Tokens

structure OidcProvider where
  id : String
  issuer : String
  clientId : String
  companyId : Option String
  allowedDomains : Json
  autoProvision : Bool
  defaultRole : Option String

/-- What is used of JavaScript, the key functions and the database: `String(value)`,
`Number(value) * 1000 <= now`, the two cases of letters, the text of a part of a token, whether a
signature is one of a key (`none` where the key cannot be read), and when the database takes two
texts for the same. -/
structure OidcPlatform where
  numerals : JsonText.Numerals
  string : Json → String
  notAfter : Json → Int → Bool
  toLowerCase : String → String
  toUpperCase : String → String
  decode : String → String
  verify : String → Json → String → String → Option Bool
  collates : String → String → Bool

variable (P : OidcPlatform)

def entryOf (value : Json) (name : String) : Option Json :=
  value.entries.reverse.lookup name

def allowedAlgorithms : List String :=
  ["RS256", "RS384", "RS512", "ES256", "ES384"]

/-- `value === text` -/
def isText (value : Option Json) (text : String) : Bool :=
  match value with
  | some (.text value) => value = text
  | _ => false

def isTruthy (value : Option Json) : Bool :=
  value.any Json.truthy

/-- `a === b` of a value that is not undefined; two arrays or objects are never the same. -/
def strictlyEqual (a : Option Json) : Json → Bool
  | .null => match a with
    | some .null => true
    | _ => false
  | .bool b => match a with
    | some (.bool a) => a == b
    | _ => false
  | .number b => match a with
    | some (.number a) => a = b
    | _ => false
  | .text b => isText a b
  | .array _ | .object _ => false

def isNull : Json → Bool
  | .null => true
  | _ => false

/-- The key of the header. A key that is `null` is an error. -/
def signingKey (jwks : Json) (alg : String) (kid : Json) : Option Json :=
  match entryOf jwks "keys" with
  | some (.array keys) => (keys.takeWhile fun item => !isNull item).find? fun item =>
    strictlyEqual (entryOf item "kid") kid &&
      (!isTruthy (entryOf item "alg") || isText (entryOf item "alg") alg) &&
      (!isTruthy (entryOf item "use") || isText (entryOf item "use") "sig")
  | _ => none

/-- `text.replace(/\/+$/, '')` -/
def withoutSlashes (text : String) : String :=
  String.ofList (text.toList.rdropWhile (· = '/'))

/-- `String(value || '')` -/
def stringOr (value : Option Json) : String :=
  ((value.filter Json.truthy).map P.string).getD ""

def audienceOf (claims : Json) : List (Option Json) :=
  match entryOf claims "aud" with
  | some (.array items) => items.map some
  | aud => [aud]

def acceptsClaims (provider : OidcProvider) (nonce : String) (now : Int) (claims : Json) : Bool :=
  withoutSlashes (stringOr P (entryOf claims "iss")) = withoutSlashes provider.issuer &&
    (audienceOf claims).any (isText · provider.clientId) &&
    ((audienceOf claims).length ≤ 1 || isText (entryOf claims "azp") provider.clientId) &&
    (entryOf claims "exp").any (fun exp => exp.truthy && !P.notAfter exp now) &&
    isText (entryOf claims "nonce") nonce &&
    isTruthy (entryOf claims "email") && !strictlyEqual (entryOf claims "email_verified") (.bool false)

/-- `jwks` is what the provider answers with its keys, if it does; `none` is an error. -/
def verifyIdToken (token : String) (provider : OidcProvider) (jwks : Option Json) (nonce : String)
    (now : Int) : Option Json :=
  match (token.toList.splitOn '.').map String.ofList with
  | [first, second, third] => do
      let header ← JsonText.parse P.numerals (P.decode first)
      let claims ← JsonText.parse P.numerals (P.decode second)
      let alg ← allowedAlgorithms.find? (isText (entryOf header "alg"))
      let kid ← (entryOf header "kid").filter Json.truthy
      let jwk ← signingKey (← jwks) alg kid
      let valid ← P.verify alg jwk (first ++ "." ++ second) third
      if valid && acceptsClaims P provider nonce now claims then some claims else none
  | _ => none

end Tokens

section Accounts

/-- A row of `User`, as far as the sign-in has to do with it. -/
structure OidcUser where
  id : String
  email : String
  firstName : String
  lastName : String
  role : String
  userType : String
  companyId : Option String
  isActive : Bool
  isDeleted : Bool
  deriving DecidableEq

variable (P : OidcPlatform)

/-- `String(value).trim().toLowerCase()` -/
def normalized (value : Json) : String :=
  P.toLowerCase (String.ofList (trim (P.string value).toList))

def parsedDomains : Json → List String
  | .array items => (items.map (normalized P)).filter fun domain => domain ≠ ""
  | _ => []

def parseDomains (value : Json) : List String :=
  match value with
  | .text text => ((JsonText.parse P.numerals text).map (parsedDomains P)).getD []
  | _ => parsedDomains P value

def addressOf (claims : Json) : String :=
  ((entryOf claims "email").map (normalized P)).getD ""

/-- `email.split('@')[1] || ''` -/
def domainOf (email : String) : String :=
  String.ofList ((email.toList.splitOn '@')[1]?.getD [])

def findAccount (users : List OidcUser) (email : String) : Option OidcUser :=
  users.find? fun user => P.collates user.email email && !user.isDeleted

/-- `String(first || second || rest).slice(0, 191)` -/
def nameOf (given : Option Json) (rest : String) : String :=
  String.ofList (CodeUnits.slice 191 (((given.filter Json.truthy).map P.string).getD rest).toList)

def provisionedUser (provider : OidcProvider) (claims : Json) (id : String) : OidcUser where
  id := id
  email := addressOf P claims
  firstName := nameOf P (((entryOf claims "given_name").filter Json.truthy).or (entryOf claims "name"))
    (String.ofList ((addressOf P claims).toList.takeWhile (· ≠ '@')))
  lastName := nameOf P (entryOf claims "family_name") "User"
  role := P.toUpperCase ((orNull provider.defaultRole).getD "CLIENT")
  userType := "BUSINESS"
  companyId := provider.companyId
  isActive := true
  isDeleted := false

/-- The account and the table as it is then; `none` is an error. `id` is drawn for a new account, and
`insertable` says that the table takes it. -/
def resolveUser (provider : OidcProvider) (claims : Json) (id : String) (insertable : OidcUser → Bool)
    (users : List OidcUser) : Option (OidcUser × List OidcUser) :=
  let email := addressOf P claims
  let allowedDomains := parseDomains P provider.allowedDomains
  if !allowedDomains.isEmpty && !allowedDomains.contains (domainOf email) then none
  else
    match findAccount P users email with
    | some user =>
      if !user.isActive then none
      else if truthy provider.companyId && user.companyId ≠ provider.companyId then none
      else some (user, users)
    | none =>
      let user := provisionedUser P provider claims id
      if !provider.autoProvision || !truthy provider.companyId || !insertable user then none
      else some (user, users ++ [user])

end Accounts

section Paths

/-- `String(value || '').trim()`, where it begins with one slash, cut to 500. -/
def safeRedirectPath (value : Option String) : List Char :=
  let path := trim (value.getD "").toList
  if ['/'].isPrefixOf path && !List.isPrefixOf ['/', '/'] path then CodeUnits.slice 500 path else []

end Paths

section Law

/-- The part behind the last `@`. -/
def lastDomain (email : String) : String :=
  String.ofList ((email.toList.splitOn '@').getLastD [])

variable (P : OidcPlatform) (read : String → List Char → Option RelativeUrls.Origin)
  (base : RelativeUrls.Origin)

/-- The account is the claimed one, and one that the provider may sign in. -/
structure WithinBounds (provider : OidcProvider) (claims : Json) (user : OidcUser) : Prop where
  address : ∃ email, entryOf claims "email" = some email ∧ email.truthy = true ∧
    P.toLowerCase user.email = P.toLowerCase (normalized P email)
  domain : parseDomains P provider.allowedDomains ≠ [] →
    lastDomain (addressOf P claims) ∈ parseDomains P provider.allowedDomains
  company : truthy provider.companyId = true → user.companyId = provider.companyId

/-- A browser that resolves the path on the frontend does not leave the frontend's origin. -/
def StaysOnOrigin (path : List Char) : Prop :=
  ∀ origin, RelativeUrls.resolve read base path = some origin → origin = base

/-- The account that the table has under the address has the address itself, and the address has one
`@` only or ends in an allowed domain as well, where any are configured. -/
def addressFits (provider : OidcProvider) (claims : Json) (users : List OidcUser) : Bool :=
  let email := addressOf P claims
  let allowedDomains := parseDomains P provider.allowedDomains
  (findAccount P users email).all (fun user => P.toLowerCase user.email = P.toLowerCase email) &&
    (allowedDomains.isEmpty || (email.toList.splitOn '@').length ≤ 2 ||
      allowedDomains.contains (lastDomain email))

/-- Behind a slash: a second one, or something else than a slash of either kind as the first character
that a browser reads, or the frontend's own authority. -/
def restFits (rest : List Char) : Bool :=
  rest.head? = some '/' || !(RelativeUrls.firstRead (CodeUnits.slice 499 rest)).any RelativeUrls.isSlash ||
    (read base.scheme (RelativeUrls.authorityOf (RelativeUrls.prepared
      ('/' :: CodeUnits.slice 499 rest)))).all (· = base)

/-- The trimmed text does not begin with a slash, or what is behind the slash fits. -/
def pathFits (value : Option String) : Bool :=
  match trim (value.getD "").toList with
  | '/' :: rest => restFits read base rest
  | _ => true

end Law

section Bounds

variable {P : OidcPlatform} {provider : OidcProvider} {claims : Json}

theorem acceptsClaims_of_verifyIdToken {token : String} {jwks : Option Json} {nonce : String} {now : Int}
    (h : verifyIdToken P token provider jwks nonce now = some claims) :
    acceptsClaims P provider nonce now claims = true := by
  rw [verifyIdToken] at h
  split at h
  · simp only [Option.bind_eq_bind, Option.bind_eq_some_iff] at h
    obtain ⟨_, _, read, _, _, _, _, _, _, _, _, _, valid, _, h⟩ := h
    split at h
    next haccepts =>
      rw [Bool.and_eq_true] at haccepts
      rw [← Option.some.inj h]
      exact haccepts.2
    · cases h
  · cases h

theorem email_of_verifyIdToken {token : String} {jwks : Option Json} {nonce : String} {now : Int}
    (h : verifyIdToken P token provider jwks nonce now = some claims) :
    ∃ email, entryOf claims "email" = some email ∧ email.truthy = true := by
  have haccepts := acceptsClaims_of_verifyIdToken h
  rw [acceptsClaims, Bool.and_eq_true, Bool.and_eq_true] at haccepts
  obtain ⟨⟨-, hemail⟩, -⟩ := haccepts
  rw [isTruthy, Option.any_eq_true] at hemail
  exact hemail

theorem ne_empty_of_mem_parseDomains {value : Json} {domain : String}
    (h : domain ∈ parseDomains P value) : domain ≠ "" := by
  have hparsed : ∀ value, domain ∈ parsedDomains P value → domain ≠ "" := by
    intro value hmem
    cases value with
    | array items => exact of_decide_eq_true (List.mem_filter.mp hmem).2
    | null | bool _ | number _ | text _ | object _ => cases hmem
  cases value with
  | text text =>
    rw [parseDomains] at h
    cases hparse : JsonText.parse P.numerals text with
    | none =>
      rw [hparse] at h
      cases h
    | some value =>
      rw [hparse] at h
      exact hparsed value h
  | null => exact hparsed .null h
  | bool value => exact hparsed (.bool value) h
  | number value => exact hparsed (.number value) h
  | array items => exact hparsed (.array items) h
  | object fields => exact hparsed (.object fields) h

theorem lastDomain_eq_domainOf {email : String} (h : (email.toList.splitOn '@').length ≤ 2)
    (hdomain : domainOf email ≠ "") : lastDomain email = domainOf email := by
  rw [domainOf] at hdomain
  rw [lastDomain, domainOf]
  match hsplit : email.toList.splitOn '@' with
  | [] => exact absurd hsplit (List.splitOn_ne_nil '@' _)
  | [part] =>
    rw [hsplit] at hdomain
    exact absurd rfl hdomain
  | [part, domain] => rfl
  | part :: domain :: last :: rest =>
    rw [hsplit] at h
    exact absurd h (by simp only [List.length_cons]; omega)

theorem resolveUser_cases {id : String} {insertable : OidcUser → Bool} {users users' : List OidcUser}
    {user : OidcUser} (h : resolveUser P provider claims id insertable users = some (user, users')) :
    (parseDomains P provider.allowedDomains = [] ∨
      domainOf (addressOf P claims) ∈ parseDomains P provider.allowedDomains) ∧
    (findAccount P users (addressOf P claims) = some user ∧
        (truthy provider.companyId = true → user.companyId = provider.companyId) ∨
      findAccount P users (addressOf P claims) = none ∧ user = provisionedUser P provider claims id) := by
  rw [resolveUser] at h
  dsimp only at h
  split at h
  · cases h
  next hallowed =>
    rw [Bool.and_eq_true, Bool.not_eq_true', Bool.not_eq_true', not_and_or, Bool.not_eq_false,
      Bool.not_eq_false, List.isEmpty_iff, List.contains_iff_mem] at hallowed
    refine ⟨hallowed, ?_⟩
    split at h
    next other hfind =>
      split at h
      · cases h
      · split at h
        · cases h
        next hcompany =>
          obtain ⟨rfl, -⟩ := Prod.mk.inj (Option.some.inj h)
          rw [Bool.and_eq_true, not_and, decide_eq_true_eq, not_not] at hcompany
          exact .inl ⟨hfind, hcompany⟩
    next hfind =>
      split at h
      · cases h
      · obtain ⟨rfl, -⟩ := Prod.mk.inj (Option.some.inj h)
        exact .inr ⟨hfind, rfl⟩

theorem address_iff {id : String} {insertable : OidcUser → Bool} {users users' : List OidcUser}
    {user : OidcUser} (h : resolveUser P provider claims id insertable users = some (user, users')) :
    (findAccount P users (addressOf P claims)).all
        (fun user => P.toLowerCase user.email = P.toLowerCase (addressOf P claims)) = true ↔
      P.toLowerCase user.email = P.toLowerCase (addressOf P claims) := by
  obtain ⟨-, ⟨hfind, -⟩ | ⟨hfind, rfl⟩⟩ := resolveUser_cases h
  · rw [hfind, Option.all_some, decide_eq_true_eq]
  · rw [hfind]
    exact iff_of_true rfl rfl

/-- An allowed domain behind the first `@` is the one behind the last, where there is no other. -/
theorem domain_iff {email : String} {allowedDomains : List String}
    (hne : ∀ domain ∈ allowedDomains, domain ≠ "")
    (hallowed : allowedDomains = [] ∨ domainOf email ∈ allowedDomains) :
    (allowedDomains.isEmpty || (email.toList.splitOn '@').length ≤ 2 ||
        allowedDomains.contains (lastDomain email)) = true ↔
      (allowedDomains ≠ [] → lastDomain email ∈ allowedDomains) := by
  rw [Bool.or_eq_true, Bool.or_eq_true, List.isEmpty_iff, decide_eq_true_eq, List.contains_iff_mem]
  constructor
  · intro hfits hsome
    obtain (hempty | hparts) | hlast := hfits
    · exact absurd hempty hsome
    · have hmem := hallowed.resolve_left hsome
      exact lastDomain_eq_domainOf hparts (hne _ hmem) ▸ hmem
    · exact hlast
  · intro hlast
    by_cases hempty : allowedDomains = []
    · exact .inl (.inl hempty)
    · exact .inr (hlast hempty)

theorem withinBounds_iff {token : String} {jwks : Option Json} {nonce : String} {now : Int}
    (hverified : verifyIdToken P token provider jwks nonce now = some claims) {id : String}
    {insertable : OidcUser → Bool} {users users' : List OidcUser} {user : OidcUser}
    (hresolved : resolveUser P provider claims id insertable users = some (user, users')) :
    WithinBounds P provider claims user ↔ addressFits P provider claims users = true := by
  obtain ⟨email, hemail, htruthy⟩ := email_of_verifyIdToken hverified
  have haddress : addressOf P claims = normalized P email := by
    rw [addressOf, hemail]
    rfl
  obtain ⟨hallowed, hcases⟩ := resolveUser_cases hresolved
  have hdomain := domain_iff (fun _ => ne_empty_of_mem_parseDomains) hallowed
  have hsame := address_iff hresolved
  rw [addressFits, Bool.and_eq_true, hsame, hdomain, haddress]
  constructor
  · intro h
    obtain ⟨claimed, hclaimed, -, hequal⟩ := h.address
    obtain rfl := Option.some.inj (hclaimed.symm.trans hemail)
    exact ⟨hequal, haddress ▸ h.domain⟩
  · intro ⟨hequal, hlast⟩
    refine ⟨⟨email, hemail, htruthy, hequal⟩, haddress ▸ hlast, fun hcompany => ?_⟩
    obtain ⟨-, hown⟩ | ⟨-, rfl⟩ := hcases
    · exact hown hcompany
    · rfl

end Bounds

section Redirects

variable (read : String → List Char → Option RelativeUrls.Origin) (base : RelativeUrls.Origin)

theorem staysOnOrigin_iff (text : List Char) : StaysOnOrigin read base ('/' :: text) ↔
    (!(RelativeUrls.firstRead text).any RelativeUrls.isSlash ||
      (read base.scheme (RelativeUrls.authorityOf (RelativeUrls.prepared ('/' :: text)))).all (· = base)) =
        true := by
  rw [StaysOnOrigin, RelativeUrls.resolve, RelativeUrls.namesAuthority_prepared]
  cases (RelativeUrls.firstRead text).any RelativeUrls.isSlash with
  | false =>
    refine iff_of_true (fun origin h => ?_) rfl
    rw [if_neg Bool.false_ne_true] at h
    exact (Option.some.inj h).symm
  | true =>
    rw [if_pos rfl, Bool.not_true, Bool.false_or]
    cases read base.scheme (RelativeUrls.authorityOf (RelativeUrls.prepared ('/' :: text))) with
    | none => exact iff_of_true (fun _ h => by cases h) rfl
    | some origin =>
      rw [Option.all_some, decide_eq_true_eq]
      exact ⟨fun h => h origin rfl, fun h _ heq => Option.some.inj heq ▸ h⟩

theorem staysOnOrigin_nil : StaysOnOrigin read base [] := fun _ h => (Option.some.inj h).symm

theorem head_eq_slash_iff (text : List Char) :
    ['/', '/'].isPrefixOf ('/' :: text) = decide (text.head? = some '/') := by
  cases text with
  | nil => rfl
  | cons c text =>
    rw [Bool.eq_iff_iff, List.isPrefixOf_iff_prefix, decide_eq_true_eq, List.head?_cons, Option.some_inj,
      List.cons_prefix_cons, List.cons_prefix_cons]
    exact ⟨fun h => h.2.1.symm, fun h => ⟨rfl, h.symm, List.nil_prefix⟩⟩

theorem pathFits_iff (value : Option String) :
    StaysOnOrigin read base (safeRedirectPath value) ↔ pathFits read base value = true := by
  rw [safeRedirectPath, pathFits]
  generalize trim (value.getD "").toList = text
  split
  next hpath =>
    rw [Bool.and_eq_true, Bool.not_eq_true', List.isPrefixOf_iff_prefix] at hpath
    obtain ⟨⟨rest, rfl⟩, hone⟩ := hpath
    rw [List.singleton_append, head_eq_slash_iff] at hone
    have hcut : CodeUnits.slice 500 (['/'] ++ rest) = '/' :: CodeUnits.slice 499 rest := rfl
    rw [hcut, staysOnOrigin_iff, ← Bool.false_or (!_), ← hone]
    rfl
  next hpath =>
    refine iff_of_true (staysOnOrigin_nil read base) ?_
    split
    next rest =>
      rw [head_eq_slash_iff, Bool.and_eq_true, not_and, Bool.not_eq_true', Bool.not_eq_false] at hpath
      have hfirst : ['/'].isPrefixOf ('/' :: rest) = true :=
        List.isPrefixOf_iff_prefix.mpr ⟨rest, rfl⟩
      rw [restFits, hpath hfirst]
      rfl
    next => rfl

end Redirects

/-- A sign-in comes to the claimed account within the provider's bounds, and the stored path stays on
the frontend's origin, if and only if the address and the path fit. -/
theorem sso_within_bounds_iff (P : OidcPlatform) (read : String → List Char → Option RelativeUrls.Origin)
    (base : RelativeUrls.Origin) {provider : OidcProvider} {claims : Json} {token : String}
    {jwks : Option Json} {nonce : String} {now : Int}
    (hverified : verifyIdToken P token provider jwks nonce now = some claims) {id : String}
    {insertable : OidcUser → Bool} {users users' : List OidcUser} {user : OidcUser}
    (hresolved : resolveUser P provider claims id insertable users = some (user, users'))
    (path : Option String) :
    WithinBounds P provider claims user ∧ StaysOnOrigin read base (safeRedirectPath path) ↔
      addressFits P provider claims users = true ∧ pathFits read base path = true :=
  and_congr (withinBounds_iff hverified hresolved) (pathFits_iff read base path)

section Samples

def loweredText (text : String) : String :=
  String.ofList (text.toList.map Char.toLower)

def headerPart : String := "eyJhbGciOiJSUzI1NiIsImtpZCI6ImsxIn0"

def claimsPart : String :=
  "eyJpc3MiOiJodHRwczovL2lkLmV4YW1wbGUuY29tIiwiYXVkIjoiY2xpZW50IiwiZXhwIjoiNDEwMjQ0NDgwMCIs" ++
    "Im5vbmNlIjoibjEiLCJlbWFpbCI6IkFubkBFeGFtcGxlLmNvbSJ9"

def sampleOidc : OidcPlatform where
  numerals := JsonText.countedNumerals
  string value := match value with
    | .text text => text
    | _ => ""
  notAfter value now := match value with
    | .number seconds => seconds * 1000 ≤ now
    | .text digits => (Nat.ofDigitChars 10 digits.toList 0 * 1000 : Int) ≤ now
    | _ => false
  toLowerCase := loweredText
  toUpperCase text := String.ofList (text.toList.map Char.toUpper)
  decode part :=
    if part = headerPart then "\x7b\"alg\":\"RS256\",\"kid\":\"k1\"\x7d"
    else if part = claimsPart then
      "\x7b\"iss\":\"https://id.example.com\",\"aud\":\"client\",\"exp\":\"4102444800\"," ++
        "\"nonce\":\"n1\",\"email\":\"Ann@Example.com\"\x7d"
    else ""
  verify _ _ _ signature := some (signature = "c2ln")
  collates a b := loweredText a = loweredText b

def sampleProvider : OidcProvider where
  id := "p1"
  issuer := "https://id.example.com/"
  clientId := "client"
  companyId := some "acme"
  allowedDomains := .array [.text "example.com"]
  autoProvision := true
  defaultRole := none

def sampleKeys : Json :=
  .object [("keys", .array [.object [("kid", .text "k1"), ("use", .text "sig")]])]

def ann : OidcUser where
  id := "u1"
  email := "ann@example.com"
  firstName := "Ann"
  lastName := "Lee"
  role := "CLIENT"
  userType := "BUSINESS"
  companyId := some "acme"
  isActive := true
  isDeleted := false

def sampleVerified : Option Json :=
  verifyIdToken sampleOidc (headerPart ++ "." ++ claimsPart ++ "." ++ "c2ln") sampleProvider (some sampleKeys)
    "n1" 1800000000000

def frontend : RelativeUrls.Origin := ⟨"https", "app.example.com", none⟩

def plainAuthority (scheme : String) (authority : List Char) : Option RelativeUrls.Origin :=
  some ⟨scheme, String.ofList authority, none⟩

def sampleResolved (claims : Json) : Bool :=
  addressFits sampleOidc sampleProvider claims [ann] &&
    resolveUser sampleOidc sampleProvider claims "u2" (fun _ => true) [ann] = some (ann, [ann])

theorem exists_sampleVerified : ∃ claims, sampleVerified = some claims ∧
    addressFits sampleOidc sampleProvider claims [ann] = true ∧
      resolveUser sampleOidc sampleProvider claims "u2" (fun _ => true) [ann] = some (ann, [ann]) := by
  have hresolved : sampleVerified.any sampleResolved = true := by decide +kernel
  obtain ⟨claims, hclaims, h⟩ := (Option.any_eq_true _ _).mp hresolved
  rw [sampleResolved, Bool.and_eq_true, decide_eq_true_eq] at h
  exact ⟨claims, hclaims, h⟩

theorem sso_within_bounds_ann : ∃ claims, sampleVerified = some claims ∧
    WithinBounds sampleOidc sampleProvider claims ann ∧
      StaysOnOrigin plainAuthority frontend (safeRedirectPath (some "/tickets?page=2")) := by
  obtain ⟨claims, hverified, hfits, hresolved⟩ := exists_sampleVerified
  have hpath : pathFits plainAuthority frontend (some "/tickets?page=2") = true := by decide +kernel
  exact ⟨claims, hverified, (sso_within_bounds_iff sampleOidc plainAuthority frontend hverified hresolved
    (some "/tickets?page=2")).mpr ⟨hfits, hpath⟩⟩

/-- A slash and a backslash name another origin. -/
theorem redirect_path_leaves : ¬ ∀ (P : OidcPlatform)
    (read : String → List Char → Option RelativeUrls.Origin) (base : RelativeUrls.Origin)
    (provider : OidcProvider) (claims : Json) (token : String)
    (jwks : Option Json) (nonce : String) (now : Int) (id : String) (insertable : OidcUser → Bool)
    (users users' : List OidcUser) (user : OidcUser) (path : Option String),
    verifyIdToken P token provider jwks nonce now = some claims →
      resolveUser P provider claims id insertable users = some (user, users') →
        WithinBounds P provider claims user ∧ StaysOnOrigin read base (safeRedirectPath path) := by
  intro h
  obtain ⟨claims, hverified, -, hresolved⟩ := exists_sampleVerified
  have hstays := (h sampleOidc plainAuthority frontend sampleProvider claims _ _ _ _ _ _ _ _ _
    (some "/\\evil.example/x") hverified hresolved).2
  have hpath := (pathFits_iff plainAuthority frontend (some "/\\evil.example/x")).mp hstays
  have hleaves : pathFits plainAuthority frontend (some "/\\evil.example/x") = false := by decide +kernel
  rw [hleaves] at hpath
  cases hpath

end Samples

end FieldserviceIT.Auth
