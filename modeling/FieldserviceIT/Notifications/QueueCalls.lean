import FieldserviceIT.Notifications.Queue

/-!
The calls of the e-mail delivery service and its workers. `processQueue` selects rows and
delivers each by itself; `processDigests` sends one mail for the rows of a group. Several
instances may run all of them at once; that each runs a worker only once at a time is
left out, as there may be any number of them.
-/

namespace FieldserviceIT.Notifications

open Common Lib Admin

abbrev DeliveryProgram := Prog MailQueue DeliveryOp

/-- What the transport does with a mail. -/
inductive Transport where
  | accepted (messageId : Option String)
  | failed (error : String)

section Addresses

/-- `/^[^\s@]+@[^\s@]+\.[^\s@]+$/` -/
def isAddress (text : String) : Bool :=
  !text.toList.any Char.isWhitespace &&
    match text.toList.splitOnP (· = '@') with
    | [name, domain] => name ≠ [] && ((domain.drop 1).dropLast).contains '.'
    | _ => false

def normalizeEmail (toLowerCase : String → String) (value : String) : String :=
  let email := toLowerCase (trimmed value)
  if isAddress email then email else ""

end Addresses

section Operators

def assertOperationsRole (user : CurrentUser) : Bool :=
  user.role = .superAdmin || user.role = .tenantAdmin

def companyScope (user : CurrentUser) : Option String :=
  if user.role = .superAdmin && !truthy user.effectiveCompanyId && !truthy user.companyId then none
  else orNull (orElse user.effectiveCompanyId user.companyId)

variable (key : String → String)

def scopedDelivery (id : String) (user : CurrentUser) (s : MailQueue) : Option EmailDelivery :=
  s.deliveries.find? fun row => key row.id = key id &&
    (companyScope user).all fun company => row.companyId.any (key · = key company)

/-- The status is read first, and the row is written by its id alone. -/
def cancel (id : String) (user : CurrentUser) : DeliveryProgram :=
  if !assertOperationsRole user then .fail
  else
    .step .read fun s =>
      match scopedDelivery key id user s with
      | none => .fail
      | some delivery =>
        if !([.queued, .digestPending, .failed].contains delivery.status) then .fail
        else .step (.cancel id user.id) fun _ => .done

def retry (id : String) (user : CurrentUser) : DeliveryProgram :=
  if !assertOperationsRole user then .fail
  else
    .step .read fun s =>
      match s.deliveries.find? fun row => key row.id = key id with
      | none => .fail
      | some row =>
        if truthy (companyScope user) && row.companyId ≠ companyScope user then .fail
        else if row.status ≠ .failed then .fail
        else .step (.retry id) fun _ => .done

def retryAll (user : CurrentUser) : DeliveryProgram :=
  if !assertOperationsRole user then .fail
  else .step (.retryAll (companyScope user)) fun _ => .done

/-- The row `resend` inserts. -/
def EmailDelivery.resent (delivery : EmailDelivery) (newId id : String) : EmailDelivery where
  id := newId
  companyId := orNull delivery.companyId
  userId := orNull delivery.userId
  recipientEmail := delivery.recipientEmail
  eventCategory := delivery.eventCategory
  status := .queued
  priority := delivery.priority
  attempts := 0
  maxAttempts := delivery.maxAttempts
  nextAttemptAt := none
  providerMessageId := none
  errorMessage := none
  resentFromId := some id
  createdAt := 0
  sentAt := none
  deliveredAt := none
  bouncedAt := none
  complainedAt := none
  cancelledAt := none
  cancelledById := none
  trace := []

def insertDelivery (row : EmailDelivery) : DeliveryProgram :=
  .step (.insert row) fun s => if taken key row.id s then .fail else .done

def resend (newId id : String) (user : CurrentUser) : DeliveryProgram :=
  if !assertOperationsRole user then .fail
  else
    .step .read fun s =>
      match scopedDelivery key id user s with
      | none => .fail
      | some delivery =>
        if [.queued, .digestPending, .sending].contains delivery.status then .fail
        else insertDelivery key (delivery.resent newId id)

def setPaused (user : CurrentUser) (paused : Bool) : DeliveryProgram :=
  if !assertOperationsRole user then .fail
  else .step (.setPaused paused) fun _ => .done

end Operators

section Recipients

variable (toLowerCase key : String → String)

def suppressionReason (email : String) (s : MailQueue) : Option SuppressionReason :=
  (s.suppressions.find? fun row => key row.recipientEmail = key email).map (·.reason)

def preferencesOf (userId : String) (s : MailQueue) : Option PreferenceRow :=
  s.preferences.find? fun row => key row.userId = key userId

/-- The row is inserted where there is none; then it goes on with the row. -/
def ensurePreferences (id userId : String) (next : Option PreferenceRow → DeliveryProgram) :
    DeliveryProgram :=
  .step .read fun s =>
    match preferencesOf key userId s with
    | some row => next (some row)
    | none =>
      .step (.ensurePreferences id userId) fun _ =>
        .step .read fun s' => next (preferencesOf key userId s')

structure DeliveryInput where
  companyId : Option String
  userId : Option String
  recipientEmail : String
  eventCategory : String
  priority : Option Nat

/-- `Number(input.priority || (critical ? 90 : 50))` -/
def DeliveryInput.priorityOf (input : DeliveryInput) : Nat :=
  match input.priority.filter (· ≠ 0) with
  | some priority => priority
  | none => if isCritical input.eventCategory then 90 else 50

/-- The row `enqueue` inserts. -/
def DeliveryInput.row (input : DeliveryInput) (id recipientEmail : String)
    (status : DeliveryStatus) : EmailDelivery where
  id := id
  companyId := orNull input.companyId
  userId := orNull input.userId
  recipientEmail := recipientEmail
  eventCategory := input.eventCategory
  status := status
  priority := input.priorityOf
  attempts := 0
  maxAttempts := 5
  nextAttemptAt := none
  providerMessageId := none
  errorMessage := none
  resentFromId := none
  createdAt := 0
  sentAt := none
  deliveredAt := none
  bouncedAt := none
  complainedAt := none
  cancelledAt := none
  cancelledById := none
  trace := []

/-- `ids` are drawn for the delivery and for preferences. -/
def enqueue (ids : String × String) (input : DeliveryInput) : DeliveryProgram :=
  let recipientEmail := normalizeEmail toLowerCase input.recipientEmail
  if recipientEmail = "" then .fail
  else
    .step .read fun s =>
      let suppression := suppressionReason key recipientEmail s
      let insert (preferences : Option PreferenceRow) : DeliveryProgram :=
        insertDelivery key (input.row ids.1 recipientEmail
          (enqueueStatus input.eventCategory suppression preferences))
      if truthy input.userId then ensurePreferences key ids.2 (input.userId.getD "") insert
      else insert none

/-- `email` is what the token of the link is verified to. -/
def unsubscribe (id : String) (email : Option String) : DeliveryProgram :=
  match email with
  | none => .fail
  | some email =>
    .step (.suppress email .unsubscribed) fun _ =>
      .step .read fun s =>
        match s.users.find? fun user => key (toLowerCase user.2) = key email with
        | none => .done
        | some user =>
          ensurePreferences key id user.1 fun _ =>
            .step (.setEmailEnabled user.1 false) fun _ => .done

def resubscribe (id userId email : String) : DeliveryProgram :=
  ensurePreferences key id userId fun _ =>
    .step (.setEmailEnabled userId true) fun _ =>
      .step (.resubscribe (normalizeEmail toLowerCase email)) fun _ => .done

inductive ProviderEvent where
  | delivered
  | bounce
  | complaint
  deriving DecidableEq

@[irreducible]
def providerEvent (event : String) : Option ProviderEvent :=
  [("DELIVERED", .delivered), ("BOUNCE", .bounce), ("COMPLAINT", .complaint)].lookup
    (upperCased (some (trimmed event)))

def eventRows (deliveryId messageId : Option String) (email : String) (s : MailQueue) :
    List EmailDelivery :=
  let latest (p : EmailDelivery → Bool) : List EmailDelivery :=
    (s.deliveries.filter p).insertionSort fun a b => b.createdAt ≤ a.createdAt
  if truthy deliveryId then
    (latest fun row => key row.id = key (deliveryId.getD "")).take 100
  else if truthy messageId then
    (latest fun row => row.providerMessageId.any (key · = key (messageId.getD ""))).take 100
  else (latest fun row => key row.recipientEmail = key email).take 1

def suppressAll (reason : SuppressionReason) : List String → DeliveryProgram
  | [] => .done
  | email :: emails => .step (.suppress email reason) fun _ => suppressAll reason emails

def recordProviderEvent (event : String) (deliveryId messageId email : Option String)
    (detail : String) : DeliveryProgram :=
  match providerEvent event with
  | none => .fail
  | some event =>
    let email := normalizeEmail toLowerCase (email.getD "")
    if !truthy deliveryId && !truthy messageId && email = "" then .fail
    else
      .step .read fun s =>
        let rows := eventRows key deliveryId messageId email s
        let ids := rows.map (·.id)
        let refuse (reason : SuppressionReason) : DeliveryProgram :=
          .step (.markRefused ids reason detail) fun _ =>
            suppressAll reason ((rows.map (·.recipientEmail)).filter (· ≠ "")).eraseDups
        if rows.isEmpty then .done
        else
          match event with
          | .delivered => .step (.markDelivered ids) fun _ => .done
          | .bounce => refuse .bounce
          | .complaint => refuse .complaint

end Recipients

section Workers

variable (key : String → String)

def processQueue : DeliveryProgram :=
  .step .read fun s => if s.paused then .done else .step .pick fun _ => .done

/-- `Math.min(240, Math.pow(2, Math.max(0, attempts - 1)) * 2)` after one more attempt. -/
def delayMinutes (attempts : Nat) : Nat :=
  Nat.min 240 (Nat.pow 2 attempts * 2)

/-- One of the rows that were picked. What a final failure tells the administrators is
not part of the queue. -/
def deliver (row : EmailDelivery) (transport : Transport) : DeliveryProgram :=
  .step (.take row) fun s =>
    if !s.picked.contains row then .done
    else
      .step (.claim .single [row.id]) fun s =>
        if !s.deliveries.any (claimable key .single [row.id]) then .done
        else
          .step (.send s.nextWorker [row.id] row.recipientEmail) fun _ =>
            match transport with
            | .accepted messageId =>
              .step (.markSent s.nextWorker [row.id] messageId) fun _ => .done
            | .failed error =>
              .step (.markFailed s.nextWorker row.id error (delayMinutes row.attempts)) fun _ =>
                .done

def idsOf (rows : List EmailDelivery) : List String :=
  rows.map (·.id)

/-- The mail goes to the address of the first row; `rest` are the other groups. -/
def deliverDigest (rows : List EmailDelivery) (transport : Transport) (rest : DeliveryProgram) :
    DeliveryProgram :=
  match rows with
  | [] => rest
  | first :: _ =>
    let ids := idsOf rows
    .step (.claim .digest ids) fun s =>
      if !s.deliveries.any (claimable key .digest ids) then rest
      else
        .step (.send s.nextWorker ids first.recipientEmail) fun _ =>
          match transport with
          | .accepted messageId => .step (.markSent s.nextWorker ids messageId) fun _ => rest
          | .failed error => .step (.markDigestFailed s.nextWorker ids error) fun _ => rest

/-- The rows a digest may take up, by address and age; `due` tells whose hour it is. -/
def digestRows (due : EmailDelivery → Bool) (s : MailQueue) : List EmailDelivery :=
  (((s.deliveries.filter fun row => row.status = .digestPending && hasAttempts row &&
    row.createdAt ≤ s.now - 15 * 60000).insertionSort fun a b =>
      a.recipientEmail.toList < b.recipientEmail.toList ∨
        a.recipientEmail = b.recipientEmail ∧ a.createdAt ≤ b.createdAt).take 500).filter due

/-- The two parts of the key of a group, which the source joins by a colon. -/
def groupKey (row : EmailDelivery) : Option String × String :=
  (orElse row.userId (some row.recipientEmail), row.recipientEmail)

def addToGroup (row : EmailDelivery) : List (List EmailDelivery) → List (List EmailDelivery)
  | [] => [[row]]
  | group :: groups =>
    if group.any fun other => groupKey other = groupKey row then (group ++ [row]) :: groups
    else group :: addToGroup row groups

def digestGroups (rows : List EmailDelivery) : List (List EmailDelivery) :=
  rows.foldl (fun groups row => addToGroup row groups) []

def deliverDigests (transport : EmailDelivery → Transport) :
    List (List EmailDelivery) → DeliveryProgram
  | [] => .done
  | group :: groups =>
    match group with
    | [] => deliverDigests transport groups
    | first :: _ => deliverDigest key group (transport first) (deliverDigests transport groups)

def processDigests (due : EmailDelivery → Bool) (transport : EmailDelivery → Transport) :
    DeliveryProgram :=
  .step (.selectDigests due) fun s =>
    deliverDigests key transport (digestGroups (digestRows due s))

end Workers

section System

inductive DeliveryCall where
  | enqueue (ids : String × String) (input : DeliveryInput)
  | unsubscribe (id : String) (email : Option String)
  | resubscribe (id userId email : String)
  | recordProviderEvent (event : String) (deliveryId messageId email : Option String)
      (detail : String)
  | cancel (id : String) (user : CurrentUser)
  | resend (newId id : String) (user : CurrentUser)
  | retry (id : String) (user : CurrentUser)
  | retryAll (user : CurrentUser)
  | setPaused (user : CurrentUser) (paused : Bool)
  | processQueue
  | deliver (row : EmailDelivery) (transport : Transport)
  | processDigests (due : EmailDelivery → Bool) (transport : EmailDelivery → Transport)

variable (toLowerCase key : String → String)

def DeliveryCall.handler : DeliveryCall → DeliveryProgram
  | .enqueue ids input => Notifications.enqueue toLowerCase key ids input
  | .unsubscribe id email => Notifications.unsubscribe toLowerCase key id email
  | .resubscribe id userId email => Notifications.resubscribe toLowerCase key id userId email
  | .recordProviderEvent event deliveryId messageId email detail =>
    Notifications.recordProviderEvent toLowerCase key event deliveryId messageId email detail
  | .cancel id user => Notifications.cancel key id user
  | .resend newId id user => Notifications.resend key newId id user
  | .retry id user => Notifications.retry key id user
  | .retryAll user => Notifications.retryAll user
  | .setPaused user paused => Notifications.setPaused user paused
  | .processQueue => Notifications.processQueue
  | .deliver row transport => Notifications.deliver key row transport
  | .processDigests due transport => Notifications.processDigests key due transport

def mailSystem : System MailQueue DeliveryOp DeliveryCall where
  exec := execDelivery key
  tick s := { s with now := s.now + 1 }
  handler := DeliveryCall.handler toLowerCase key
  sendable _ _ := True

end System

section Samples

def sampleOperator : CurrentUser where
  id := "admin-1"
  role := .tenantAdmin
  userType := .businessUser
  companyId := some "acme"
  effectiveCompanyId := none
  location := none
  permissionScopes := none
  permissionSlugs := none

def sampleInput (eventCategory : String) : DeliveryInput where
  companyId := some "acme"
  userId := some "user-1"
  recipientEmail := "ana@acme.example"
  eventCategory := eventCategory
  priority := none

def sampleDelivery (id : String) (status : DeliveryStatus) : EmailDelivery :=
  { (sampleInput "ticket_comments").row id "ana@acme.example" status with
    nextAttemptAt := some 1699998200000, createdAt := 1699998200000 }

def sampleQueue (deliveries : List EmailDelivery) : MailQueue where
  deliveries := deliveries
  suppressions := []
  preferences := []
  users := [("user-1", "ana@acme.example")]
  paused := false
  picked := []
  nextWorker := 0
  log := []
  now := 1700000000000

end Samples
end FieldserviceIT.Notifications
