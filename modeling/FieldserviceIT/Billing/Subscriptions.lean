import FieldserviceIT.Admin.Scim
import FieldserviceIT.Lib.Decimals
import FieldserviceIT.Lib.Interleaving
import Mathlib.Data.List.Infix

/-!
Subscriptions of companies: the checkout that starts one and the events by which the
payment provider reports on it. What the provider answers is given with the call.
-/

namespace FieldserviceIT.Billing

open Common Lib Admin

section Tables

inductive PlanStatus where
  | active
  | trialing
  | pastDue
  | canceled
  | unpaid
  | incomplete
  deriving DecidableEq

structure Plan where
  id : String
  isActive : Bool
  monthlyPrice : ℚ
  annualPrice : ℚ

structure BillingPrice where
  planId : String
  billingInterval : String
  component : String
  externalPriceId : String
  isActive : Bool

/-- What a company subscribes to; there is one row for a company. -/
structure CompanyPlan where
  companyId : String
  planId : String
  billingProvider : String
  providerCustomerId : Option String
  providerSubscriptionId : Option String
  billingInterval : String
  seatQuantity : Int
  cancelAtPeriodEnd : Bool
  status : PlanStatus
  trialEndsAt : Option Int
  currentPeriodStart : Option Int
  currentPeriodEnd : Option Int
  gracePeriodEndsAt : Option Int
  updatedAt : Int

inductive EventStatus where
  | received
  | processed
  | ignored
  | failed
  deriving DecidableEq

structure BillingEvent where
  providerEventId : String
  eventType : String
  companyId : Option String
  status : EventStatus
  processedAt : Option Int

structure UserLegalConsent where
  userId : String
  termsVersion : String
  privacyVersion : String
  acceptedAt : Int

/-- What happened to the subscription of a company, for the record. -/
inductive Change where
  | failure
  | status (status : PlanStatus)
  | checkout
  deriving DecidableEq

structure Applied where
  companyId : String
  time : Int
  change : Change

/-- `history` has what was applied, the newest first. -/
structure Subscriptions where
  plans : List Plan
  prices : List BillingPrice
  companyPlans : List CompanyPlan
  events : List BillingEvent
  consents : List UserLegalConsent
  now : Int
  history : List Applied

def Subscriptions.planOf (s : Subscriptions) (companyId : String) : Option CompanyPlan :=
  s.companyPlans.find? fun row => row.companyId = companyId

end Tables

section Events

/-- An event as the provider's adapter hands it on. A number of seats is one that is not
zero, in whole seats. -/
structure NormalizedBillingEvent where
  id : String
  type : String
  companyId : Option String := none
  planId : Option String := none
  customerId : Option String := none
  subscriptionId : Option String := none
  status : Option String := none
  interval : Option String := none
  seats : Option Int := none
  cancelAtPeriodEnd : Option Bool := none
  currentPeriodStart : Option Int := none
  currentPeriodEnd : Option Int := none
  trialEndsAt : Option Int := none

def includes (text : String) (parts : List String) : Bool :=
  parts.any fun part => decide (part.toList <:+: text.toList)

namespace NormalizedBillingEvent

variable (event : NormalizedBillingEvent)

def isFailedPayment : Bool :=
  includes (lowerCased event.type)
    ["payment_failed", "payment.failed", "invoice_payment_failed", "subscription_payment_failed"]

def isPaid : Bool :=
  includes (lowerCased event.type)
    ["payment_succeeded", "payment.sale.completed", "invoice_paid", "invoice.payment_succeeded",
      "transaction.completed"]

def isSubscription : Bool :=
  includes (lowerCased event.type) ["subscription", "checkout", "transaction.completed"]

end NormalizedBillingEvent

def mapStatus (status : Option String) : PlanStatus :=
  let text := lowerCased (status.getD "")
  if ["active", "paid", "completed"].contains text then .active
  else if ["trialing", "on_trial"].contains text then .trialing
  else if ["past_due", "past-due"].contains text then .pastDue
  else if ["cancelled", "canceled"].contains text then .canceled
  else if text = "suspended" then .pastDue
  else if text = "unpaid" then .unpaid
  else .incomplete

def mapStatusFromEvent (event : NormalizedBillingEvent) : PlanStatus :=
  let type := lowerCased event.type
  if includes type ["activated"] then .active
  else if includes type ["cancelled", "canceled"] then .canceled
  else if includes type ["suspended"] then .pastDue
  else if includes type ["expired"] then .canceled
  else mapStatus event.status

/-- `BILLING_GRACE_PERIOD_DAYS`, 7 where it is not set or zero. -/
def graceDays (setting : ℚ) : ℚ :=
  maxZero (if 30 ≤ setting then 30 else setting)

/-- The grace period in milliseconds; a `Date` drops what is less. -/
def graceTime (setting : ℚ) : Int :=
  (graceDays setting * 86400000).floor

end Events

section Calls

/-- `CompanyPlan` is looked up by the company, and where that finds nothing by the
subscription. -/
def currentPlan (event : NormalizedBillingEvent) (s : Subscriptions) : Option CompanyPlan :=
  ((if truthy event.companyId then event.companyId.bind s.planOf else none)).or
    (if truthy event.subscriptionId then
      s.companyPlans.find? fun row => row.providerSubscriptionId = event.subscriptionId
    else none)

/-- `none` is an event without a company. -/
def companyOf (event : NormalizedBillingEvent) (s : Subscriptions) : Option String :=
  orNull (orElse event.companyId ((currentPlan event s).map (·.companyId)))

def shorterThan (limit : Nat) (text : Option String) : Bool :=
  text.all fun text => text.toList.length ≤ limit

def CompanyPlan.valid (row : CompanyPlan) : Bool :=
  shorterThan 191 row.companyId && shorterThan 191 row.planId &&
    shorterThan 191 row.providerCustomerId && shorterThan 191 row.providerSubscriptionId &&
    shorterThan 16 row.billingInterval &&
    -2147483648 ≤ row.seatQuantity && row.seatQuantity ≤ 2147483647

def Subscriptions.changePlan (s : Subscriptions) (companyId : String)
    (change : CompanyPlan → CompanyPlan) : Subscriptions :=
  { s with companyPlans := updateRow CompanyPlan.companyId companyId change s.companyPlans }

def CompanyPlan.replacing (row old : CompanyPlan) : CompanyPlan :=
  { row with companyId := old.companyId }

/-- `companyPlan.upsert`; `none` is an error of the server. -/
def Subscriptions.upsertPlan (s : Subscriptions) (row : CompanyPlan) : Option Subscriptions :=
  if !row.valid then none
  else if (s.planOf row.companyId).isSome then
    some (s.changePlan row.companyId row.replacing)
  else some { s with companyPlans := s.companyPlans ++ [row] }

def Subscriptions.record (s : Subscriptions) (companyId : String) (change : Change) : Subscriptions :=
  { s with history := ⟨companyId, s.now, change⟩ :: s.history }

def eventRow (event : NormalizedBillingEvent) (current : Option CompanyPlan)
    (companyId planId : String) (status : PlanStatus) (now : Int) : CompanyPlan where
  companyId := companyId
  planId := planId
  billingProvider := "PAYPAL"
  providerCustomerId := orNull (orElse event.customerId (current.bind (·.providerCustomerId)))
  providerSubscriptionId :=
    orNull (orElse event.subscriptionId (current.bind (·.providerSubscriptionId)))
  billingInterval := ((orNull event.interval).or
    (orNull (current.map (·.billingInterval)))).getD "MONTH"
  seatQuantity := (event.seats.or (current.bind fun row =>
    if row.seatQuantity = 0 then none else some row.seatQuantity)).getD 1
  cancelAtPeriodEnd :=
    (event.cancelAtPeriodEnd.or (current.map (·.cancelAtPeriodEnd))).getD false
  status := status
  trialEndsAt := event.trialEndsAt.or (current.bind (·.trialEndsAt))
  currentPeriodStart := event.currentPeriodStart.or (current.bind (·.currentPeriodStart))
  currentPeriodEnd := event.currentPeriodEnd.or (current.bind (·.currentPeriodEnd))
  gracePeriodEndsAt := if status = .active then none else current.bind (·.gracePeriodEndsAt)
  updatedAt := now

def eventStatus (event : NormalizedBillingEvent) : PlanStatus :=
  if event.isPaid then .active else mapStatusFromEvent event

def pastDue (graceEnd now : Int) (row : CompanyPlan) : CompanyPlan :=
  { row with status := .pastDue, gracePeriodEndsAt := some graceEnd, updatedAt := now }

/-- `none` is an error, `false` an event that means nothing here. -/
def applyEvent (setting : ℚ) (event : NormalizedBillingEvent) (s : Subscriptions) :
    Option (Bool × Subscriptions) :=
  if !event.isFailedPayment && !event.isPaid && !event.isSubscription then some (false, s)
  else
    match companyOf event s with
    | none => none
    | some companyId =>
      if event.isFailedPayment then
        some (true,
          (s.changePlan companyId (pastDue (s.now + graceTime setting) s.now)).record companyId
            .failure)
      else
        match orNull (orElse event.planId ((currentPlan event s).map (·.planId))) with
        | none => none
        | some planId =>
          let status := eventStatus event
          (s.upsertPlan
            (eventRow event (currentPlan event s) companyId planId status s.now)).map
            fun s' => (true, s'.record companyId (.status status))

def BillingEvent.isDone (row : BillingEvent) : Bool :=
  row.status = .processed || row.status = .ignored

def duplicate (event : NormalizedBillingEvent) (s : Subscriptions) : Bool :=
  (s.events.find? fun row => row.providerEventId = event.id).any (·.isDone)

def NormalizedBillingEvent.recordable (event : NormalizedBillingEvent) : Bool :=
  shorterThan 255 event.id && shorterThan 191 event.type && shorterThan 191 event.companyId

def Subscriptions.receive (s : Subscriptions) (event : NormalizedBillingEvent) : Subscriptions :=
  if (s.events.any fun row => row.providerEventId = event.id) then s
  else { s with events := s.events ++ [⟨event.id, event.type, orNull event.companyId, .received, none⟩] }

def Subscriptions.finishEvent (s : Subscriptions) (eventId : String) (change : BillingEvent → BillingEvent) :
    Subscriptions :=
  { s with events := updateRow BillingEvent.providerEventId eventId change s.events }

def handleWebhook (setting : ℚ) (event : NormalizedBillingEvent) (s : Subscriptions) : Subscriptions :=
  if duplicate event s || !event.recordable then s
  else
    let s := s.receive event
    match applyEvent setting event s with
    | none => s.finishEvent event.id fun row => { row with status := .failed }
    | some (processed, s') =>
      s'.finishEvent event.id fun row =>
        { row with
          companyId := orNull event.companyId
          status := if processed then .processed else .ignored
          processedAt := some s'.now }

def termsVersion : String := "2026-07-29"

def privacyVersion : String := "2026-07-29"

/-- `answer` is what the provider answers: the customer's id and the subscription's, or
nothing but an error. -/
structure CheckoutRequest where
  companyId : String
  planId : String
  userId : Option String
  termsAccepted : Bool
  termsVersion : Option String
  privacyVersion : Option String
  interval : Option String := none
  seats : Option Int := none
  configured : Bool
  answer : Option (Option String × Option String)

def CheckoutRequest.billingInterval (request : CheckoutRequest) : String :=
  if request.interval = some "YEAR" then "YEAR" else "MONTH"

def CheckoutRequest.seatQuantity (request : CheckoutRequest) : Int :=
  let seats := request.seats.getD 1
  if seats < 1 then 1 else if 10000 < seats then 10000 else seats

def CheckoutRequest.consents (request : CheckoutRequest) : Bool :=
  truthy request.userId && request.termsAccepted &&
    request.termsVersion = some Billing.termsVersion &&
    request.privacyVersion = some Billing.privacyVersion

/-- The plan can be bought: it is offered, costs something and has a price at the
provider. -/
def CheckoutRequest.offered (request : CheckoutRequest) (s : Subscriptions) : Bool :=
  (s.plans.find? fun plan => plan.id = request.planId).any fun plan =>
    plan.isActive &&
      0 < (if request.billingInterval = "YEAR" then plan.annualPrice else plan.monthlyPrice) &&
      ((s.prices.filter fun price => price.planId = request.planId &&
        price.billingInterval = request.billingInterval && price.isActive).find? fun price =>
          price.component = "BASE").any fun price => price.externalPriceId ≠ ""

def checkoutRow (request : CheckoutRequest) (current : Option CompanyPlan)
    (answer : Option String × Option String) (now : Int) : CompanyPlan :=
  let existing := current.filter fun row => row.billingProvider = "PAYPAL" || row.billingProvider = ""
  { companyId := request.companyId
    planId := request.planId
    billingProvider := "PAYPAL"
    providerCustomerId := orNull (orElse answer.1 (existing.bind (·.providerCustomerId)))
    providerSubscriptionId := orNull (orElse answer.2 (existing.bind (·.providerSubscriptionId)))
    billingInterval := request.billingInterval
    seatQuantity := request.seatQuantity
    cancelAtPeriodEnd := false
    status := .incomplete
    trialEndsAt := none
    currentPeriodStart := none
    currentPeriodEnd := none
    gracePeriodEndsAt := none
    updatedAt := now }

def recordCheckoutConsent (request : CheckoutRequest) (s : Subscriptions) : Subscriptions :=
  { s with
    consents := s.consents ++ [⟨request.userId.getD "", termsVersion, privacyVersion, s.now⟩] }

def createCheckoutSession (request : CheckoutRequest) (s : Subscriptions) : Subscriptions :=
  if !request.consents then s
  else
    let s := recordCheckoutConsent request s
    if !request.configured || !request.offered s then s
    else
      match request.answer with
      | none => s
      | some answer =>
        match s.upsertPlan (checkoutRow request (s.planOf request.companyId) answer s.now) with
        | none => s
        | some s' => s'.record request.companyId .checkout

/-- What `getBillingSummary` says of the entitlement. -/
def CompanyPlan.allowed (row : CompanyPlan) (now : Int) : Bool :=
  row.status = .active || row.status = .trialing ||
    row.status = .pastDue && now < row.gracePeriodEndsAt.getD 0

def Subscriptions.entitled (s : Subscriptions) (companyId : String) : Bool :=
  (s.planOf companyId).all fun row => row.allowed s.now

end Calls

inductive BillingCall where
  | webhook (event : NormalizedBillingEvent)
  | checkout (request : CheckoutRequest)

def BillingCall.apply (setting : ℚ) (call : BillingCall) (s : Subscriptions) : Subscriptions :=
  match call with
  | .webhook event => handleWebhook setting event s
  | .checkout request => createCheckoutSession request s

def billingSystem (setting : ℚ) : System Subscriptions BillingCall BillingCall where
  exec := BillingCall.apply setting
  tick s := { s with now := s.now + 1 }
  handler call := .step call fun _ => .done
  sendable _ _ := True

end FieldserviceIT.Billing
