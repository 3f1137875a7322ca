import FieldserviceIT.Admin.Scim
import Mathlib.Data.Rat.Init

/-!
Contextual access policies: what they ask of a request, and how the permissions guard
applies them to a user who has the permission. Conditions are JSON as an administrator has
written it, so reading them can throw; the request is refused then.
-/

namespace FieldserviceIT.Access

open Admin Common Sql

/-- A JavaScript number. The sign of an infinite one makes no difference here. -/
inductive JsNumber where
  | finite (value : ℚ)
  | infinite
  | notANumber

/-- What the platform makes of texts: `Number(text)`, and the two cases of letters. -/
structure TextReading where
  number : String → JsNumber
  toLowerCase : String → String
  toUpperCase : String → String

variable (T : TextReading)

/-- `Number(value)` -/
def numberOf : Js → JsNumber
  | .null => .finite 0
  | .undefined | .object _ => .notANumber
  | .scalar (.text s) => T.number s
  | .scalar (.number n) => .finite n
  | .scalar (.instant ms) => .finite ms
  | .scalar (.flag b) => .finite (if b then 1 else 0)
  | .array items => T.number (stringOf (.array items))

section Addresses

/-- `text.split(separator)` -/
def segments (separator : Char) (text : String) : List String :=
  (text.toList.splitOnP (· == separator)).map String.ofList

def bits : JsNumber → BitVec 32
  | .finite value => BitVec.ofInt 32 (value.num.tdiv value.den)
  | .infinite | .notANumber => 0

/-- `(result << 8) + Number(octet)` -/
def withOctet (result : JsNumber) (octet : String) : JsNumber :=
  match T.number octet with
  | .finite value => .finite ((bits result <<< 8).toInt + value)
  | other => other

def addressBits (address : String) : BitVec 32 :=
  bits ((segments '.' address).foldl (withOctet T) (.finite 0))

/-- The mask of a length; only the last five bits of a shift count. -/
def maskOf : JsNumber → BitVec 32
  | .finite length =>
    if length = 0 then 0
    else BitVec.allOnes 32 <<< ((bits (.finite (32 - length))).toNat % 32)
  | .infinite | .notANumber => BitVec.allOnes 32

def inRange : JsNumber → Bool
  | .finite length => decide (0 ≤ length) && decide (length ≤ 32)
  | .infinite => false
  | .notANumber => true

def ipMatches (ip rule : String) : Bool :=
  match segments '/' rule with
  | network :: lengthText :: _ =>
    inRange (T.number lengthText) &&
      (addressBits T ip &&& maskOf (T.number lengthText)) =
        (addressBits T network &&& maskOf (T.number lengthText))
  | _ => ip = rule

/-- `rules.some(...)`; what is neither a text nor a list has no `includes`, and a list has
no `split`. -/
def someMatches (ip : String) : List Js → Option Bool
  | [] => some false
  | .scalar (.text rule) :: rules => if ipMatches T ip rule then some true else someMatches ip rules
  | .array items :: rules =>
    if items.any (fun | .scalar (.text s) => s = "/" | _ => false) then none
    else someMatches ip rules
  | _ :: _ => none

end Addresses

section Context

/-- What a request brings along. -/
structure RequestContext where
  ip : Option String
  forwardedFor : Option String
  countryCode : Option String
  cfIpCountry : Option String
  authAssurance : Option String
  deviceTrust : Option String
  department : Option String
  utcHour : Nat

namespace RequestContext

variable (ctx : RequestContext)

def address : String :=
  trimmed (String.ofList (((orElse ctx.ip ctx.forwardedFor).getD "").toList.takeWhile (· ≠ ',')))

def country : String :=
  T.toUpperCase ((orElse ctx.countryCode ctx.cfIpCountry).getD "")

def assurance : String :=
  T.toLowerCase (ctx.authAssurance.getD "")

def trust : String :=
  T.toLowerCase (ctx.deviceTrust.getD "")

end RequestContext

/-- The checks one after the other, up to the first that fails or throws. -/
def inTurn : List (Option Bool) → Option Bool
  | [] => some true
  | some true :: checks => inTurn checks
  | result :: _ => result

def isTrue : Js → Bool
  | .scalar (.flag b) => b
  | _ => false

def textOf : Js → Option String
  | .scalar (.text s) => some s
  | _ => none

def agrees (own : Option String) (condition : Js) : Bool :=
  !countsAsTrue condition || T.toLowerCase (own.getD "") = T.toLowerCase (stringOf condition)

def withinHours (hour : Nat) (condition : Js) : Bool :=
  !countsAsTrue condition ||
    match numberOf T (condition.property "start"), numberOf T (condition.property "end") with
    | .finite first, .finite last => decide (first ≤ hour) && decide ((hour : ℚ) < last)
    | _, _ => true

/-- `none` where reading the conditions throws. -/
def contextMatches (user : CurrentUser) (ctx : RequestContext) (conditions : Js) : Option Bool :=
  match conditions with
  | .null => none
  | _ =>
    inTurn
      [match conditions.property "ipAddresses" with
        | .array rules => someMatches T ctx.address rules
        | _ => some true,
      match conditions.property "countries" with
        | .array names =>
          (names.mapM textOf).map fun names =>
            (names.map T.toUpperCase).contains (ctx.country T)
        | _ => some true,
      some (agrees T ctx.department (conditions.property "department")),
      some (agrees T user.location (conditions.property "location")),
      some (!isTrue (conditions.property "trustedDevice") || ctx.trust T = "trusted"),
      some (!isTrue (conditions.property "requireMfa") ||
        ["mfa", "phishing-resistant"].contains (ctx.assurance T)),
      some (!isTrue (conditions.property "requirePhishingResistant") ||
        ctx.assurance T = "phishing-resistant"),
      some (withinHours T ctx.utcHour (conditions.property "utcHours"))]

end Context

section Policies

/-- A row of `ContextualAccessPolicy`. Conditions that are no JSON count as none. -/
structure ContextualPolicy where
  id : String
  companyId : Option String
  name : String
  targetType : String
  targetValue : String
  conditions : Js
  effect : String
  isActive : Bool
  createdById : String

variable (same : String → String → Bool) (user : CurrentUser) (ctx : RequestContext)

/-- The policy is about the permission and the company of the user. -/
def ContextualPolicy.concerns (slug : String) (policy : ContextualPolicy) : Bool :=
  same policy.targetType "PERMISSION" && same policy.targetValue slug &&
    policy.companyId.all fun companyId => user.companyId.any (same companyId)

/-- A policy that denies does so where its conditions are met, any other where they are not. -/
def ContextualPolicy.denies (policy : ContextualPolicy) : Bool :=
  match contextMatches T user ctx policy.conditions with
  | none => true
  | some isMatch => if T.toUpperCase policy.effect = "DENY" then isMatch else !isMatch

/-- `enforceContextualPolicies` lets the request pass. -/
def enforceContextualPolicies (slugs : List String) (policies : List ContextualPolicy) : Bool :=
  policies.all fun policy =>
    !(policy.isActive && slugs.any fun slug => policy.concerns same user slug) ||
      !policy.denies T user ctx

end Policies
end FieldserviceIT.Access
