/-!
What the e-mail queue knows about a delivery when it is put in: the categories that
are critical, the suppression of its address and the preferences of its user.
-/

namespace FieldserviceIT.Notifications

inductive DeliveryStatus where
  | queued
  | digestPending
  | sending
  | sent
  | delivered
  | failed
  | bounced
  | complained
  | suppressed
  | cancelled
  deriving DecidableEq

inductive SuppressionReason where
  | unsubscribed
  | bounce
  | complaint
  deriving DecidableEq

/-- `settings` is the list of events its JSON text holds. -/
structure PreferenceRow where
  id : String
  userId : String
  emailEnabled : Bool
  digestDaily : Bool
  settings : List (String × Bool)
  deriving DecidableEq

def defaultEvents : List (String × Bool) :=
  ["ticket_created", "ticket_status", "ticket_resolution", "ticket_comments", "ticket_assignment",
    "ticket_attachments", "ticket_time", "dispatch", "automated", "sla"].map (·, true)

def criticalCategories : List String :=
  ["ticket_status", "ticket_resolution", "sla", "security"]

def isCritical (eventCategory : String) : Bool :=
  criticalCategories.contains eventCategory

def isBlocked (critical : Bool) (suppression : Option SuppressionReason) : Bool :=
  suppression.any fun reason => !critical || reason ≠ .unsubscribed

/-- `settings.events[category] !== false` -/
def eventEnabled (preferences : Option PreferenceRow) (eventCategory : String) : Bool :=
  (preferences.map (·.settings)).any (fun events => events.lookup eventCategory = some false) = false

/-- The status `enqueue` puts a delivery in with. -/
def enqueueStatus (eventCategory : String) (suppression : Option SuppressionReason)
    (preferences : Option PreferenceRow) : DeliveryStatus :=
  let critical := isCritical eventCategory
  let optionalDisabled := !critical &&
    ((preferences.any fun row => !row.emailEnabled) || !eventEnabled preferences eventCategory)
  let digest := !critical && preferences.any (·.digestDaily)
  if isBlocked critical suppression || optionalDisabled then .suppressed
  else if digest then .digestPending
  else .queued

end FieldserviceIT.Notifications
