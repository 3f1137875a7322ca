import FieldserviceIT.Billing.Subscriptions
import FieldserviceIT.Lib.Tables

/-!
What a subscription entitles to while events come in late, twice or out of order. Where a
failed payment is the first one of its run and none comes after a cancellation, another
subscription's event names no other plan, and no checkout starts beside an active plan,
the entitlement follows the subscription.
-/

namespace FieldserviceIT.Billing

open Common Lib Admin

section Law

/-- When the first payment failed of the failures since the subscription was active. -/
def failingSince (companyId : String) : List Applied → Option Int
  | [] => none
  | entry :: history =>
    if entry.companyId ≠ companyId then failingSince companyId history
    else
      match entry.change with
      | .failure => some ((failingSince companyId history).getD entry.time)
      | .status status =>
        if status = .active || status = .trialing then none else failingSince companyId history
      | .checkout => failingSince companyId history

def canceledSince (companyId : String) : List Applied → Bool
  | [] => false
  | entry :: history =>
    if entry.companyId ≠ companyId then canceledSince companyId history
    else
      match entry.change with
      | .status status => status = .canceled ||
          !(status = .active || status = .trialing) && canceledSince companyId history
      | _ => canceledSince companyId history

/-- The event is about a subscription, and it is not that of the row. -/
def aboutAnother (event : NormalizedBillingEvent) (row : CompanyPlan) : Bool :=
  truthy event.subscriptionId && truthy row.providerSubscriptionId &&
    event.subscriptionId ≠ row.providerSubscriptionId

variable (setting : ℚ)

/-- No grace period is longer than it is after the first failure. -/
def GraceBounded (s : Subscriptions) : Prop :=
  ∀ companyId row since graceEnd, s.planOf companyId = some row →
    failingSince companyId s.history = some since → row.gracePeriodEndsAt = some graceEnd →
      graceEnd ≤ since + graceTime setting

/-- What one call leaves of the entitlements and the plans. -/
structure Follows (call : BillingCall) (s : Subscriptions) : Prop where
  afterCancellation : ∀ event, call = .webhook event → event.isFailedPayment = true →
    ∀ companyId, canceledSince companyId s.history = true →
      (call.apply setting s).entitled companyId = true → s.entitled companyId = true
  otherSubscription : ∀ event, call = .webhook event → ∀ companyId row,
    s.planOf companyId = some row → aboutAnother event row = true → ∀ row',
      (call.apply setting s).planOf companyId = some row' → row'.planId = row.planId
  besideActive : ∀ request, call = .checkout request → ∀ row,
    s.planOf request.companyId = some row → row.status = .active →
      (call.apply setting s).entitled request.companyId = true

end Law

section Conditions

variable (setting : ℚ)

/-- A failed payment of a company: the first of its run, or at the time of the first, and
not after a cancellation, unless there is no grace or nothing to lose by it. -/
def failureFits (companyId : String) (s : Subscriptions) : Bool :=
  (failingSince companyId s.history).all (fun since => s.now ≤ since) &&
    (!canceledSince companyId s.history || s.entitled companyId || graceTime setting ≤ 0)

/-- Another event for a company: about another subscription than the company's it names
the same plan or none, and it brings no grace period of another company. -/
def statusFits (event : NormalizedBillingEvent) (companyId : String) (s : Subscriptions) : Bool :=
  (s.planOf companyId).all (fun row =>
    !aboutAnother event row || (orNull event.planId).all (· = row.planId)) &&
      (currentPlan event s).all fun row => row.companyId = companyId ||
        row.gracePeriodEndsAt.isNone || (failingSince companyId s.history).isNone

def CheckoutRequest.refused (request : CheckoutRequest) (s : Subscriptions) : Bool :=
  !request.consents || !request.configured || !request.offered s || request.answer.isNone

def keepsEntitlement (call : BillingCall) (s : Subscriptions) : Bool :=
  match call with
  | .webhook event => duplicate event s || !event.recordable || (companyOf event s).all
      fun companyId =>
        if event.isFailedPayment then failureFits setting companyId s
        else !event.isPaid && !event.isSubscription || statusFits event companyId s
  | .checkout request => request.refused s ||
      (s.planOf request.companyId).all fun row => row.status ≠ .active

end Conditions

section Plans

variable {s s' : Subscriptions} {setting : ℚ}

@[simp]
theorem planOf_receive (event : NormalizedBillingEvent) (companyId : String) :
    (s.receive event).planOf companyId = s.planOf companyId := by
  rw [Subscriptions.receive]
  split
  · rfl
  · rfl

theorem companyPlans_receive (event : NormalizedBillingEvent) :
    (s.receive event).companyPlans = s.companyPlans ∧ (s.receive event).history = s.history ∧
      (s.receive event).now = s.now := by
  rw [Subscriptions.receive]
  split
  · exact ⟨rfl, rfl, rfl⟩
  · exact ⟨rfl, rfl, rfl⟩

theorem companyId_of_planOf {companyId : String} {row : CompanyPlan}
    (h : s.planOf companyId = some row) : row.companyId = companyId := by
  have hcondition := List.find?_some h
  exact of_decide_eq_true hcondition

theorem planOf_changePlan {change : CompanyPlan → CompanyPlan}
    (hkeeps : ∀ row, (change row).companyId = row.companyId) (target companyId : String) :
    (s.changePlan target change).planOf companyId =
      if companyId = target then (s.planOf companyId).map change else s.planOf companyId :=
  find_updateRow hkeeps target companyId s.companyPlans

theorem planOf_upsertPlan {row : CompanyPlan} (h : s.upsertPlan row = some s') (companyId : String) :
    s'.planOf companyId = if companyId = row.companyId then some row else s.planOf companyId := by
  rw [Subscriptions.upsertPlan] at h
  split at h
  · cases h
  · split at h
    next hsome =>
      obtain rfl := Option.some.inj h
      have hkeeps : ∀ old, (row.replacing old).companyId = old.companyId := fun _ => rfl
      rw [planOf_changePlan hkeeps]
      split
      next heq =>
        obtain ⟨old, hold⟩ := Option.isSome_iff_exists.mp hsome
        have hid := companyId_of_planOf hold
        rw [heq, hold, Option.map_some, CompanyPlan.replacing, hid]
      next => rfl
    next hnone =>
      obtain rfl := Option.some.inj h
      rw [Option.not_isSome_iff_eq_none, Subscriptions.planOf] at hnone
      rw [Subscriptions.planOf, List.find?_append]
      split
      next heq =>
        rw [heq, hnone, Option.none_or, List.find?_singleton, if_pos (decide_eq_true rfl)]
      next hne =>
        rw [List.find?_singleton, if_neg (by simpa using Ne.symm hne), Option.or_none,
          Subscriptions.planOf]

theorem map_changePlan {change : CompanyPlan → CompanyPlan}
    (hkeeps : ∀ row, (change row).companyId = row.companyId) (target : String) :
    (s.changePlan target change).companyPlans.map CompanyPlan.companyId =
      s.companyPlans.map CompanyPlan.companyId := by
  rw [Subscriptions.changePlan, updateRow, List.map_map]
  refine List.map_congr_left fun row _ => ?_
  simp only [Function.comp]
  split
  · exact hkeeps row
  · rfl

def Subscriptions.Keyed (s : Subscriptions) : Prop :=
  Distinct CompanyPlan.companyId s.companyPlans

theorem Subscriptions.Keyed.changePlan (h : s.Keyed) {change : CompanyPlan → CompanyPlan}
    (hkeeps : ∀ row, (change row).companyId = row.companyId) (target : String) :
    (s.changePlan target change).Keyed := by
  rw [Subscriptions.Keyed, Distinct, map_changePlan hkeeps]
  exact h

theorem Subscriptions.Keyed.upsertPlan (h : s.Keyed) {row : CompanyPlan}
    (hupsert : s.upsertPlan row = some s') : s'.Keyed := by
  rw [Subscriptions.upsertPlan] at hupsert
  split at hupsert
  · cases hupsert
  · split at hupsert
    · obtain rfl := Option.some.inj hupsert
      have hkeeps : ∀ old, (row.replacing old).companyId = old.companyId := fun _ => rfl
      exact h.changePlan hkeeps _
    next hnone =>
      obtain rfl := Option.some.inj hupsert
      rw [Option.not_isSome_iff_eq_none, Subscriptions.planOf, List.find?_eq_none] at hnone
      exact h.append fun other hother => by simpa using hnone other hother

theorem Subscriptions.Keyed.planOf_eq (h : s.Keyed) {row : CompanyPlan}
    (hrow : row ∈ s.companyPlans) : s.planOf row.companyId = some row := by
  cases hfind : s.planOf row.companyId with
  | none => exact absurd (decide_eq_true rfl) (List.find?_eq_none.mp hfind row hrow)
  | some other =>
    rw [h.eq_of_key (List.mem_of_find?_eq_some hfind) hrow (companyId_of_planOf hfind)]

theorem history_upsertPlan {row : CompanyPlan} (h : s.upsertPlan row = some s') :
    s'.history = s.history ∧ s'.now = s.now := by
  rw [Subscriptions.upsertPlan] at h
  split at h
  · cases h
  · split at h
    · obtain rfl := Option.some.inj h
      exact ⟨rfl, rfl⟩
    · obtain rfl := Option.some.inj h
      exact ⟨rfl, rfl⟩

end Plans

section Outcomes

variable {setting : ℚ} {event : NormalizedBillingEvent} {s s' : Subscriptions}

/-- What a delivery of an event does to the subscriptions. -/
inductive Outcome (setting : ℚ) (event : NormalizedBillingEvent) (s s' : Subscriptions) : Prop
  | nothing (hplans : ∀ companyId, s'.planOf companyId = s.planOf companyId)
      (hhistory : s'.history = s.history)
  | failure (companyId : String) (hnew : duplicate event s = false)
      (hrecordable : event.recordable = true) (hcompany : companyOf event s = some companyId)
      (hfailed : event.isFailedPayment = true)
      (hplans : ∀ other, s'.planOf other = if other = companyId then
        (s.planOf other).map (pastDue (s.now + graceTime setting) s.now) else s.planOf other)
      (hhistory : s'.history = ⟨companyId, s.now, .failure⟩ :: s.history)
  | status (companyId planId : String) (hnew : duplicate event s = false)
      (hrecordable : event.recordable = true) (hcompany : companyOf event s = some companyId)
      (hfailed : event.isFailedPayment = false)
      (hkind : event.isPaid = true ∨ event.isSubscription = true)
      (hplan : orNull (orElse event.planId ((currentPlan event s).map (·.planId))) = some planId)
      (hplans : ∀ other, s'.planOf other = if other = companyId then
        some (eventRow event (currentPlan event s) companyId planId (eventStatus event) s.now)
          else s.planOf other)
      (hhistory : s'.history = ⟨companyId, s.now, .status (eventStatus event)⟩ :: s.history)

theorem currentPlan_receive : currentPlan event (s.receive event) = currentPlan event s := by
  have hplans : s.receive event = { s with events := (s.receive event).events } := by
    rw [Subscriptions.receive]
    split
    · rfl
    · rfl
  rw [hplans]
  rfl

theorem companyOf_receive : companyOf event (s.receive event) = companyOf event s := by
  rw [companyOf, currentPlan_receive, companyOf]

theorem keyed_applyEvent (h : s.Keyed) {processed : Bool}
    (happly : applyEvent setting event s = some (processed, s')) : s'.Keyed := by
  rw [applyEvent] at happly
  split at happly
  · obtain ⟨-, rfl⟩ := Prod.mk.inj (Option.some.inj happly)
    exact h
  · split at happly
    · cases happly
    next companyId _ =>
      split at happly
      · obtain ⟨-, rfl⟩ := Prod.mk.inj (Option.some.inj happly)
        have hkeeps : ∀ row, (pastDue (s.now + graceTime setting) s.now row).companyId =
            row.companyId := fun _ => rfl
        exact h.changePlan hkeeps companyId
      · split at happly
        · cases happly
        · obtain ⟨t, hupsert, heq⟩ := Option.map_eq_some_iff.mp happly
          obtain ⟨-, rfl⟩ := Prod.mk.inj heq
          have ht : t.Keyed := h.upsertPlan hupsert
          exact ht

theorem Subscriptions.Keyed.handleWebhook (h : s.Keyed) : (handleWebhook setting event s).Keyed := by
  have hreceive : (s.receive event).Keyed := by
    rw [Subscriptions.Keyed, (companyPlans_receive event).1]
    exact h
  rw [Billing.handleWebhook]
  split
  · exact h
  · dsimp only
    split
    · exact hreceive
    next processed s' happly =>
      have hs' : s'.Keyed := keyed_applyEvent hreceive happly
      exact hs'

theorem Subscriptions.Keyed.createCheckoutSession (h : s.Keyed) (request : CheckoutRequest) :
    (createCheckoutSession request s).Keyed := by
  rw [Billing.createCheckoutSession]
  split
  · exact h
  · have hconsented : (recordCheckoutConsent request s).Keyed := h
    dsimp only
    split
    · exact hconsented
    · split
      · exact hconsented
      · split
        · exact hconsented
        next s' hupsert =>
          have hs' : s'.Keyed := hconsented.upsertPlan hupsert
          exact hs'

theorem outcome_applyEvent (hnew : duplicate event s = false) (hrecordable : event.recordable = true)
    {processed : Bool} (h : applyEvent setting event (s.receive event) = some (processed, s')) :
    s'.now = s.now ∧ Outcome setting event s s' := by
  obtain ⟨-, hhistory, hnow⟩ := companyPlans_receive (s := s) event
  rw [applyEvent, companyOf_receive, currentPlan_receive, hnow] at h
  split at h
  · obtain ⟨-, rfl⟩ := Prod.mk.inj (Option.some.inj h)
    exact ⟨hnow, .nothing (fun companyId => planOf_receive event companyId) hhistory⟩
  next hkind =>
    split at h
    · cases h
    next companyId hcompany =>
      split at h
      next hfailed =>
        obtain ⟨-, rfl⟩ := Prod.mk.inj (Option.some.inj h)
        refine ⟨hnow, .failure companyId hnew hrecordable hcompany hfailed (fun other => ?_) ?_⟩
        · have hkeeps : ∀ row,
              (pastDue (s.now + graceTime setting) s.now row).companyId = row.companyId :=
            fun _ => rfl
          have hrow := planOf_changePlan (s := s.receive event) hkeeps companyId other
          rw [planOf_receive] at hrow
          exact hrow
        · change _ :: (s.receive event).history = _
          rw [hhistory]
          exact congrArg (fun now => (⟨companyId, now, .failure⟩ : Applied) :: s.history) hnow
      next hfailed =>
        rw [Bool.not_eq_true] at hfailed
        split at h
        · cases h
        next planId hplan =>
          obtain ⟨t, hupsert, heq⟩ := Option.map_eq_some_iff.mp h
          obtain ⟨-, rfl⟩ := Prod.mk.inj heq
          obtain ⟨hhistory', hnow'⟩ := history_upsertPlan hupsert
          refine ⟨hnow'.trans hnow, .status companyId planId hnew hrecordable hcompany hfailed ?_ hplan
            (fun other => ?_) ?_⟩
          · simpa [hfailed, ← Bool.not_eq_true, or_iff_not_imp_left] using hkind
          · have hrow := planOf_upsertPlan hupsert other
            rw [planOf_receive] at hrow
            exact hrow
          · rw [Subscriptions.record, hhistory', hnow', hhistory, hnow]

theorem outcome_handleWebhook (setting : ℚ) (event : NormalizedBillingEvent) (s : Subscriptions) :
    (handleWebhook setting event s).now = s.now ∧
      Outcome setting event s (handleWebhook setting event s) := by
  obtain ⟨-, hhistory, hnow⟩ := companyPlans_receive (s := s) event
  rw [handleWebhook]
  split
  · exact ⟨rfl, .nothing (fun _ => rfl) rfl⟩
  next hfresh =>
    rw [Bool.not_eq_true, Bool.or_eq_false_iff, Bool.not_eq_false'] at hfresh
    dsimp only
    split
    · exact ⟨hnow, .nothing (fun companyId => planOf_receive event companyId) hhistory⟩
    next processed s' happly =>
      obtain ⟨hnow', houtcome⟩ := outcome_applyEvent hfresh.1 hfresh.2 happly
      refine ⟨hnow', ?_⟩
      cases houtcome with
      | nothing hplans hhistory' => exact .nothing hplans hhistory'
      | failure companyId hnew hrecordable hcompany hfailed hplans hhistory' =>
        exact .failure companyId hnew hrecordable hcompany hfailed hplans hhistory'
      | status companyId planId hnew hrecordable hcompany hfailed hkind hplan hplans hhistory' =>
        exact .status companyId planId hnew hrecordable hcompany hfailed hkind hplan hplans hhistory'

/-- What a checkout does to the subscriptions. -/
inductive CheckoutOutcome (request : CheckoutRequest) (s s' : Subscriptions) : Prop
  | nothing (hplans : ∀ companyId, s'.planOf companyId = s.planOf companyId)
      (hhistory : s'.history = s.history)
  | written (answer : Option String × Option String) (haccepted : request.refused s = false)
      (hplans : ∀ other, s'.planOf other = if other = request.companyId then
        some (checkoutRow request (s.planOf request.companyId) answer s.now) else s.planOf other)
      (hhistory : s'.history = ⟨request.companyId, s.now, .checkout⟩ :: s.history)

theorem outcome_createCheckoutSession (request : CheckoutRequest) (s : Subscriptions) :
    (createCheckoutSession request s).now = s.now ∧
      CheckoutOutcome request s (createCheckoutSession request s) := by
  rw [createCheckoutSession]
  split
  · exact ⟨rfl, .nothing (fun _ => rfl) rfl⟩
  next hconsents =>
    dsimp only
    split
    · exact ⟨rfl, .nothing (fun _ => rfl) rfl⟩
    next hready =>
      split
      · exact ⟨rfl, .nothing (fun _ => rfl) rfl⟩
      next answer hanswer =>
        split
        · exact ⟨rfl, .nothing (fun _ => rfl) rfl⟩
        next s' hupsert =>
          obtain ⟨hhistory, hnow⟩ := history_upsertPlan hupsert
          refine ⟨hnow, .written answer ?_ (fun other => planOf_upsertPlan hupsert other) ?_⟩
          · have hoffered : request.offered s = true ∧ request.configured = true := by
              rw [Bool.not_eq_true, Bool.or_eq_false_iff, Bool.not_eq_false', Bool.not_eq_false']
                at hready
              exact ⟨hready.2, hready.1⟩
            rw [Bool.not_eq_true, Bool.not_eq_false'] at hconsents
            rw [CheckoutRequest.refused, hconsents, hoffered.1, hoffered.2, hanswer]
            rfl
          · rw [Subscriptions.record, hhistory, hnow]
            rfl

end Outcomes

section Steps

variable {setting : ℚ} {s s' : Subscriptions} {event : NormalizedBillingEvent} {request : CheckoutRequest}

theorem fits_of_keeps (hkeeps : keepsEntitlement setting (.webhook event) s = true)
    (hnew : duplicate event s = false) (hrecordable : event.recordable = true) {companyId : String}
    (hcompany : companyOf event s = some companyId) :
    if event.isFailedPayment then failureFits setting companyId s = true
    else (!event.isPaid && !event.isSubscription || statusFits event companyId s) = true := by
  rw [keepsEntitlement, hnew, hrecordable, hcompany, Bool.not_true, Bool.false_or, Bool.false_or,
    Option.all_some] at hkeeps
  split
  next hfailed => rw [if_pos hfailed] at hkeeps; exact hkeeps
  next hfailed => rw [if_neg hfailed] at hkeeps; exact hkeeps

theorem statusFits_of_keeps (hkeeps : keepsEntitlement setting (.webhook event) s = true)
    (hnew : duplicate event s = false) (hrecordable : event.recordable = true) {companyId : String}
    (hcompany : companyOf event s = some companyId) (hfailed : event.isFailedPayment = false)
    (hkind : event.isPaid = true ∨ event.isSubscription = true) :
    statusFits event companyId s = true := by
  have hfits := fits_of_keeps hkeeps hnew hrecordable hcompany
  rw [hfailed, if_neg Bool.false_ne_true] at hfits
  obtain hpaid | hsubscription := hkind
  · simpa [hpaid] using hfits
  · simpa [hsubscription] using hfits

theorem entitled_congr {companyId : String} (hplan : s'.planOf companyId = s.planOf companyId)
    (hnow : s'.now = s.now) : s'.entitled companyId = s.entitled companyId := by
  rw [Subscriptions.entitled, hplan, hnow, Subscriptions.entitled]

theorem afterCancellation_step (hkeeps : keepsEntitlement setting (.webhook event) s = true)
    {companyId : String} (hcanceled : canceledSince companyId s.history = true)
    (hfailed : event.isFailedPayment = true)
    (hentitled : (handleWebhook setting event s).entitled companyId = true) :
    s.entitled companyId = true := by
  obtain ⟨hnow, houtcome⟩ := outcome_handleWebhook setting event s
  cases houtcome with
  | nothing hplans hhistory => rwa [entitled_congr (hplans companyId) hnow] at hentitled
  | failure target hnew hrecordable hcompany _ hplans hhistory =>
    have hplan := hplans companyId
    split at hplan
    next heq =>
      subst heq
      have hfits := fits_of_keeps hkeeps hnew hrecordable hcompany
      rw [if_pos hfailed, failureFits, hcanceled, Bool.not_true, Bool.false_or,
        Bool.and_eq_true, Bool.or_eq_true, decide_eq_true_iff] at hfits
      obtain hbefore | hgrace := hfits.2
      · exact hbefore
      · cases hrow : s.planOf companyId with
        | none =>
          rw [Subscriptions.entitled, hrow]
          rfl
        | some row =>
          rw [Subscriptions.entitled, hplan, hrow, hnow] at hentitled
          simp [CompanyPlan.allowed, pastDue] at hentitled
          omega
    next hne => rwa [entitled_congr hplan hnow] at hentitled
  | status _ _ _ _ _ hnot => exact absurd (hfailed.symm.trans hnot) (by decide)

theorem currentPlan_eq (hkeyed : s.Keyed) {companyId : String}
    (hcompany : companyOf event s = some companyId) {row : CompanyPlan}
    (hrow : s.planOf companyId = some row) : currentPlan event s = some row := by
  rw [companyOf, orNull] at hcompany
  obtain ⟨-, hcompany⟩ := Option.ite_none_right_eq_some.mp hcompany
  rw [orElse] at hcompany
  by_cases hnamed : truthy event.companyId = true
  · rw [if_pos hnamed] at hcompany
    rw [currentPlan, if_pos hnamed, hcompany, Option.bind_some, hrow, Option.some_or]
  · rw [if_neg hnamed] at hcompany
    obtain ⟨other, hother, heq⟩ := Option.map_eq_some_iff.mp hcompany
    rw [hother]
    rw [currentPlan, if_neg hnamed, Option.none_or] at hother
    obtain ⟨-, hfind⟩ := Option.ite_none_right_eq_some.mp hother
    rw [← heq, hkeyed.planOf_eq (List.mem_of_find?_eq_some hfind)] at hrow
    exact hrow

theorem mem_of_currentPlan {row : CompanyPlan} (h : currentPlan event s = some row) :
    row ∈ s.companyPlans := by
  rw [currentPlan] at h
  obtain hfirst | ⟨-, hsecond⟩ := Option.or_eq_some_iff.mp h
  · obtain ⟨-, hfound⟩ := Option.ite_none_right_eq_some.mp hfirst
    obtain ⟨companyId, -, hfind⟩ := Option.bind_eq_some_iff.mp hfound
    exact List.mem_of_find?_eq_some hfind
  · exact List.mem_of_find?_eq_some (Option.ite_none_right_eq_some.mp hsecond).2

theorem otherSubscription_step (hkeyed : s.Keyed)
    (hkeeps : keepsEntitlement setting (.webhook event) s = true)
    {companyId : String} {row row' : CompanyPlan} (hrow : s.planOf companyId = some row)
    (habout : aboutAnother event row = true)
    (hrow' : (handleWebhook setting event s).planOf companyId = some row') :
    row'.planId = row.planId := by
  obtain ⟨-, houtcome⟩ := outcome_handleWebhook setting event s
  cases houtcome with
  | nothing hplans hhistory =>
    rw [hplans, hrow] at hrow'
    rw [Option.some.inj hrow']
  | failure target hnew hrecordable hcompany hfailed hplans hhistory =>
    rw [hplans] at hrow'
    split at hrow'
    · rw [hrow, Option.map_some] at hrow'
      rw [← Option.some.inj hrow']
      rfl
    · rw [hrow] at hrow'
      rw [Option.some.inj hrow']
  | status target planId hnew hrecordable hcompany hfailed hkind hplan hplans hhistory =>
    rw [hplans] at hrow'
    split at hrow'
    next heq =>
      subst heq
      have hfits := statusFits_of_keeps hkeeps hnew hrecordable hcompany hfailed hkind
      rw [statusFits, hrow, Bool.and_eq_true, Option.all_some, habout, Bool.not_true,
        Bool.false_or] at hfits
      rw [← Option.some.inj hrow']
      change planId = row.planId
      rw [currentPlan_eq hkeyed hcompany hrow, Option.map_some, orElse] at hplan
      by_cases hnamed : truthy event.planId = true
      · rw [if_pos hnamed] at hplan
        rw [hplan] at hfits
        exact of_decide_eq_true hfits.1
      · rw [if_neg hnamed] at hplan
        exact (Option.some.inj (Option.ite_none_right_eq_some.mp hplan).2).symm
    next hne =>
      rw [hrow] at hrow'
      rw [Option.some.inj hrow']

theorem besideActive_step (hkeeps : keepsEntitlement setting (.checkout request) s = true)
    {row : CompanyPlan} (hrow : s.planOf request.companyId = some row)
    (hactive : row.status = .active) :
    (createCheckoutSession request s).entitled request.companyId = true := by
  obtain ⟨hnow, houtcome⟩ := outcome_createCheckoutSession request s
  cases houtcome with
  | nothing hplans hhistory =>
    rw [entitled_congr (hplans _) hnow, Subscriptions.entitled, hrow, Option.all_some,
      CompanyPlan.allowed, hactive]
    rfl
  | written answer haccepted hplans hhistory =>
    rw [keepsEntitlement, haccepted, hrow, Bool.false_or, Option.all_some] at hkeeps
    exact absurd hactive (of_decide_eq_true hkeeps)

theorem follows_step (hkeyed : s.Keyed) {call : BillingCall}
    (hkeeps : keepsEntitlement setting call s = true) : Follows setting call s where
  afterCancellation event hcall hfailed companyId hcanceled hentitled := by
    subst hcall
    exact afterCancellation_step hkeeps hcanceled hfailed hentitled
  otherSubscription event hcall companyId row hrow habout row' hrow' := by
    subst hcall
    exact otherSubscription_step hkeyed hkeeps hrow habout hrow'
  besideActive request hcall row hrow hactive := by
    subst hcall
    exact besideActive_step hkeeps hrow hactive

theorem failingSince_other {companyId : String} {entry : Applied} (h : entry.companyId ≠ companyId)
    (history : List Applied) :
    failingSince companyId (entry :: history) = failingSince companyId history :=
  if_pos h

theorem GraceBounded.webhook (h : GraceBounded setting s) (hkeyed : s.Keyed)
    (hkeeps : keepsEntitlement setting (.webhook event) s = true) :
    GraceBounded setting (handleWebhook setting event s) := by
  intro companyId row since graceEnd hrow hsince hgrace
  obtain ⟨-, houtcome⟩ := outcome_handleWebhook setting event s
  cases houtcome with
  | nothing hplans hhistory =>
    rw [hplans] at hrow
    rw [hhistory] at hsince
    exact h companyId row since graceEnd hrow hsince hgrace
  | failure target hnew hrecordable hcompany hfailed hplans hhistory =>
    rw [hplans] at hrow
    rw [hhistory] at hsince
    split at hrow
    next heq =>
      subst heq
      obtain ⟨old, hold, rfl⟩ := Option.map_eq_some_iff.mp hrow
      obtain rfl : s.now + graceTime setting = graceEnd := Option.some.inj hgrace
      have hfits := fits_of_keeps hkeeps hnew hrecordable hcompany
      rw [if_pos hfailed, failureFits, Bool.and_eq_true] at hfits
      rw [failingSince, if_neg (not_not_intro rfl)] at hsince
      cases hbefore : failingSince companyId s.history with
      | none =>
        rw [hbefore] at hsince
        rw [← Option.some.inj hsince]
        exact Int.le_refl _
      | some first =>
        rw [hbefore] at hsince hfits
        rw [← Option.some.inj hsince]
        have hfirst : s.now ≤ first := of_decide_eq_true hfits.1
        simp only [Option.getD_some]
        omega
    next hne =>
      rw [failingSince_other (Ne.symm hne)] at hsince
      exact h companyId row since graceEnd hrow hsince hgrace
  | status target planId hnew hrecordable hcompany hfailed hkind hplan hplans hhistory =>
    rw [hplans] at hrow
    rw [hhistory] at hsince
    split at hrow
    next heq =>
      subst heq
      obtain rfl := Option.some.inj hrow
      rw [failingSince, if_neg (not_not_intro rfl)] at hsince
      dsimp only at hsince
      split at hsince
      · cases hsince
      next hstatus =>
        simp only [eventRow] at hgrace
        split at hgrace
        · cases hgrace
        · obtain ⟨current, hcurrent, hgrace⟩ := Option.bind_eq_some_iff.mp hgrace
          have hfits := statusFits_of_keeps hkeeps hnew hrecordable hcompany hfailed hkind
          rw [statusFits, Bool.and_eq_true, hcurrent, Option.all_some, hgrace, hsince] at hfits
          have hsame : current.companyId = companyId := by simpa using hfits.2
          have hmem : current ∈ s.companyPlans := mem_of_currentPlan hcurrent
          have hfound := hkeyed.planOf_eq hmem
          rw [hsame] at hfound
          exact h companyId current since graceEnd hfound hsince hgrace
    next hne =>
      rw [failingSince_other (Ne.symm hne)] at hsince
      exact h companyId row since graceEnd hrow hsince hgrace

theorem GraceBounded.checkout (h : GraceBounded setting s) (request : CheckoutRequest) :
    GraceBounded setting (createCheckoutSession request s) := by
  intro companyId row since graceEnd hrow hsince hgrace
  obtain ⟨-, houtcome⟩ := outcome_createCheckoutSession request s
  cases houtcome with
  | nothing hplans hhistory =>
    rw [hplans] at hrow
    rw [hhistory] at hsince
    exact h companyId row since graceEnd hrow hsince hgrace
  | written answer haccepted hplans hhistory =>
    rw [hplans] at hrow
    split at hrow
    · obtain rfl := Option.some.inj hrow
      cases hgrace
    next hne =>
      rw [hhistory, failingSince_other (Ne.symm hne)] at hsince
      exact h companyId row since graceEnd hrow hsince hgrace

end Steps

section Runs

variable {setting : ℚ}

/-- What the calls keep. -/
structure Ordered (setting : ℚ) (s : Subscriptions) : Prop where
  keyed : s.Keyed
  bounded : GraceBounded setting s

/-- In every sequence of events and checkouts that keep it so, grace periods are counted
from the first failure, and each call leaves the entitlement with the subscription. -/
theorem entitlement_follows {s₀ s : Subscriptions}
    (hserial : (billingSystem setting).Serial
      (fun call s => keepsEntitlement setting call s = true) s₀ s)
    (hkeyed₀ : s₀.Keyed) (h₀ : GraceBounded setting s₀) :
    GraceBounded setting s ∧
      ∀ call, keepsEntitlement setting call s = true → Follows setting call s := by
  have hordered : Ordered setting s := by
    refine System.keeps_serial (fun call s h _ hkeeps => ?_) (fun s h => ⟨h.keyed, h.bounded⟩)
      hserial ⟨hkeyed₀, h₀⟩
    cases call with
    | webhook event => exact ⟨h.keyed.handleWebhook, h.bounded.webhook h.keyed hkeeps⟩
    | checkout request =>
      exact ⟨h.keyed.createCheckoutSession request, h.bounded.checkout request⟩
  exact ⟨hordered.bounded, fun call hkeeps => follows_step hordered.keyed hkeeps⟩

def samplePlan : CompanyPlan where
  companyId := "acme"
  planId := "business"
  billingProvider := "PAYPAL"
  providerCustomerId := none
  providerSubscriptionId := some "I-1"
  billingInterval := "MONTH"
  seatQuantity := 1
  cancelAtPeriodEnd := false
  status := .active
  trialEndsAt := none
  currentPeriodStart := none
  currentPeriodEnd := none
  gracePeriodEndsAt := none
  updatedAt := 0

def sampleSubscriptions : Subscriptions :=
  ⟨[], [], [samplePlan], [], [], 1000, []⟩

def sampleEvent (id type : String) : BillingCall :=
  .webhook
    { id := id
      type := type
      companyId := some "acme"
      planId := some "business"
      subscriptionId := some "I-1" }

def sampleFailure : BillingCall :=
  sampleEvent "e2" "BILLING.SUBSCRIPTION.PAYMENT.FAILED"

theorem sampleSubscriptions_keyed : sampleSubscriptions.Keyed := by
  rw [Subscriptions.Keyed, Distinct]
  decide

theorem sampleSubscriptions_bounded : GraceBounded 7 sampleSubscriptions := by
  intro companyId row since graceEnd _ hsince
  cases hsince

/-- The first failure gives a company its days of grace. -/
theorem entitlement_follows_failure :
    (sampleFailure.apply 7 sampleSubscriptions).entitled "acme" = true ∧
      GraceBounded 7 (sampleFailure.apply 7 sampleSubscriptions) := by
  have hkeeps : keepsEntitlement 7 sampleFailure sampleSubscriptions = true := by
    decide
  have hserial : (billingSystem 7).Serial (fun call s => keepsEntitlement 7 call s = true)
      sampleSubscriptions (sampleFailure.apply 7 sampleSubscriptions) :=
    .request .refl sampleFailure trivial hkeeps
  refine ⟨by decide +kernel, ?_⟩
  exact (entitlement_follows hserial sampleSubscriptions_keyed sampleSubscriptions_bounded).1

def sampleCanceled : Subscriptions :=
  (sampleEvent "e1" "BILLING.SUBSCRIPTION.CANCELLED").apply 7 sampleSubscriptions

/-- A failed payment that comes after the cancellation entitles again. -/
theorem entitled_after_cancellation : ¬ ∀ s₀ s : Subscriptions,
    (billingSystem 7).Serial (fun _ _ => True) s₀ s → s₀.Keyed → GraceBounded 7 s₀ →
      GraceBounded 7 s ∧ ∀ call, Follows 7 call s := by
  intro h
  have hserial : (billingSystem 7).Serial (fun _ _ => True) sampleSubscriptions sampleCanceled :=
    .request .refl (sampleEvent "e1" "BILLING.SUBSCRIPTION.CANCELLED") trivial trivial
  have hfollows := (h _ _ hserial sampleSubscriptions_keyed sampleSubscriptions_bounded).2
    sampleFailure
  have hcanceled : canceledSince "acme" sampleCanceled.history = true := by
    decide
  have hagain : (sampleFailure.apply 7 sampleCanceled).entitled "acme" = true := by
    decide +kernel
  have hbefore := hfollows.afterCancellation _ rfl (by decide) "acme" hcanceled hagain
  have hnot : sampleCanceled.entitled "acme" = false := by
    decide
  rw [hnot] at hbefore
  cases hbefore

end Runs
end FieldserviceIT.Billing
