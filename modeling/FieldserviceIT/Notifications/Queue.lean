import FieldserviceIT.Admin.Accounts
import FieldserviceIT.Admin.Scim
import FieldserviceIT.Lib.Interleaving
import FieldserviceIT.Lib.Tables
import FieldserviceIT.Notifications.Deliveries
import Mathlib.Data.List.Sort

/-!
The e-mail queue: how deliveries are put in, claimed, handed to the transport and
recorded, one by one or as a digest, and what suppresses an address. Claiming, sending
and recording are statements of their own, and each names the rows it writes by what a
worker has read earlier.
-/

namespace FieldserviceIT.Notifications

open Common Lib Admin

/-- What has happened to a delivery; a worker goes by the number its claim was given. -/
inductive DeliveryEvent where
  | claimed (worker : Nat)
  /-- It was part of a mail given to the transport; `due` is its `nextAttemptAt` then. -/
  | included (worker : Nat) (at_ : Int) (due : Option Int)
  | markedSent (worker : Nat)
  | markedFailed (worker : Nat)
  | cancelled
  | retried
  deriving DecidableEq

/-- `trace` is no column: it records what happens to the row, the latest first, and no
program reads it. -/
structure EmailDelivery where
  id : String
  companyId : Option String
  userId : Option String
  recipientEmail : String
  eventCategory : String
  status : DeliveryStatus
  priority : Nat
  attempts : Nat
  maxAttempts : Nat
  nextAttemptAt : Option Int
  providerMessageId : Option String
  errorMessage : Option String
  resentFromId : Option String
  createdAt : Int
  sentAt : Option Int
  deliveredAt : Option Int
  bouncedAt : Option Int
  complainedAt : Option Int
  cancelledAt : Option Int
  cancelledById : Option String
  trace : List DeliveryEvent
  deriving DecidableEq

structure EmailSuppression where
  recipientEmail : String
  reason : SuppressionReason
  deriving DecidableEq

inductive MailEvent where
  | mailed (address : String)
  | refused (address : String)
  deriving DecidableEq

/-- `users` are ids with addresses. `picked` are the rows that queue workers have read,
each of which is then delivered by itself. `log` is no table: the mails given to the
transport and the addresses whose bounce or complaint was recorded, the latest first. -/
structure MailQueue where
  deliveries : List EmailDelivery
  suppressions : List EmailSuppression
  preferences : List PreferenceRow
  users : List (String × String)
  paused : Bool
  picked : List EmailDelivery
  nextWorker : Nat
  log : List MailEvent
  now : Int

/-- The path by which a worker takes deliveries: `deliver` or `deliverDigest`. -/
inductive ClaimPath where
  | single
  | digest
  deriving DecidableEq

def ClaimPath.takes : ClaimPath → DeliveryStatus → Bool
  | .single, .queued | .single, .failed | .digest, .digestPending => true
  | _, _ => false

/-- `take` and `selectDigests` only read: a row that was picked, and what a digest may
take up. -/
inductive DeliveryOp where
  | read
  | pick
  | take (row : EmailDelivery)
  | selectDigests (due : EmailDelivery → Bool)
  | insert (row : EmailDelivery)
  | claim (path : ClaimPath) (ids : List String)
  | send (worker : Nat) (ids : List String) (address : String)
  | markSent (worker : Nat) (ids : List String) (messageId : Option String)
  | markFailed (worker : Nat) (id error : String) (delayMinutes : Nat)
  | markDigestFailed (worker : Nat) (ids : List String) (error : String)
  | cancel (id userId : String)
  | retry (id : String)
  | retryAll (companyId : Option String)
  | markDelivered (ids : List String)
  | markRefused (ids : List String) (reason : SuppressionReason) (detail : String)
  | suppress (email : String) (reason : SuppressionReason)
  | resubscribe (email : String)
  | ensurePreferences (id userId : String)
  | setEmailEnabled (userId : String) (emailEnabled : Bool)
  | setPaused (paused : Bool)

section Rows

namespace EmailDelivery

variable (row : EmailDelivery) (now : Int)

def claimed (worker : Nat) : EmailDelivery :=
  { row with
    status := .sending, attempts := row.attempts + 1
    trace := .claimed worker :: row.trace }

def included (worker : Nat) : EmailDelivery :=
  { row with trace := .included worker now row.nextAttemptAt :: row.trace }

def markedSent (worker : Nat) (messageId : Option String) : EmailDelivery :=
  { row with
    status := .sent, providerMessageId := messageId, sentAt := some now, errorMessage := none
    trace := .markedSent worker :: row.trace }

def markedFailed (worker : Nat) (error : String) (delayMinutes : Nat) : EmailDelivery :=
  { row with
    status := .failed, errorMessage := some error
    nextAttemptAt := some (now + delayMinutes * 60000)
    trace := .markedFailed worker :: row.trace }

def markedDigestFailed (worker : Nat) (error : String) : EmailDelivery :=
  { row with
    status := if row.attempts ≥ row.maxAttempts then .failed else .digestPending
    errorMessage := some error
    trace := .markedFailed worker :: row.trace }

def wasCancelled (userId : String) : EmailDelivery :=
  { row with
    status := .cancelled, cancelledAt := some now, cancelledById := some userId
    trace := .cancelled :: row.trace }

def retried : EmailDelivery :=
  { row with
    status := .queued, attempts := 0, nextAttemptAt := some now, errorMessage := none
    bouncedAt := none
    trace := .retried :: row.trace }

/-- `retryAll` empties one more column than `retry`. -/
def retriedAll : EmailDelivery :=
  { row.retried now with complainedAt := none }

def wasDelivered : EmailDelivery :=
  { row with status := .delivered, deliveredAt := some (row.deliveredAt.getD now) }

def wasRefused (reason : SuppressionReason) (detail : String) : EmailDelivery :=
  match reason with
  | .complaint =>
    { row with status := .complained, complainedAt := some now, errorMessage := some detail }
  | _ => { row with status := .bounced, bouncedAt := some now, errorMessage := some detail }

end EmailDelivery
end Rows

section Statements

variable (key : String → String)

/-- `key` is what the server compares ids and addresses by. -/
def among (ids : List String) (row : EmailDelivery) : Bool :=
  ids.any fun id => key id = key row.id

def claimable (path : ClaimPath) (ids : List String) (row : EmailDelivery) : Bool :=
  among key ids row && path.takes row.status

def hasAttempts (row : EmailDelivery) : Bool :=
  row.attempts < row.maxAttempts

def isDue (now : Int) (row : EmailDelivery) : Bool :=
  row.nextAttemptAt.all fun at_ => at_ ≤ now

/-- The rows `processQueue` selects; among equals in the order of the table. -/
def selected (s : MailQueue) : List EmailDelivery :=
  ((s.deliveries.filter fun row => ClaimPath.single.takes row.status && hasAttempts row &&
    isDue s.now row).insertionSort fun a b =>
      b.priority < a.priority ∨ a.priority = b.priority ∧ a.createdAt ≤ b.createdAt).take 25

def retriable (companyId : Option String) (row : EmailDelivery) : Bool :=
  row.status = .failed && companyId.all fun company => row.companyId.any (key · = key company)

def upsert (email : String) (reason : SuppressionReason) (rows : List EmailSuppression) :
    List EmailSuppression :=
  if rows.any fun row => key row.recipientEmail = key email then
    updateWhere (fun row => key row.recipientEmail = key email) (fun row => { row with reason := reason })
      rows
  else rows ++ [⟨email, reason⟩]

def taken (id : String) (s : MailQueue) : Bool :=
  s.deliveries.any fun row => key row.id = key id

def execDelivery : DeliveryOp → MailQueue → MailQueue
  | .read, s | .take _, s | .selectDigests _, s => s
  | .pick, s => { s with picked := s.picked ++ selected s }
  | .insert row, s =>
    -- the primary key refuses an id that is taken
    if taken key row.id s then s
    else
      { s with
        deliveries := s.deliveries ++
          [{ row with createdAt := s.now, nextAttemptAt := some s.now, trace := [] }] }
  | .claim path ids, s =>
    { s with
      deliveries := updateWhere (claimable key path ids) (·.claimed s.nextWorker) s.deliveries
      nextWorker := s.nextWorker + 1 }
  | .send worker ids address, s =>
    { s with
      deliveries := updateWhere (among key ids) (·.included s.now worker) s.deliveries
      log := .mailed address :: s.log }
  | .markSent worker ids messageId, s =>
    { s with
      deliveries := updateWhere (among key ids) (·.markedSent s.now worker messageId)
        s.deliveries }
  | .markFailed worker id error delayMinutes, s =>
    { s with
      deliveries := updateWhere (among key [id]) (·.markedFailed s.now worker error delayMinutes)
        s.deliveries }
  | .markDigestFailed worker ids error, s =>
    { s with
      deliveries := updateWhere (among key ids) (·.markedDigestFailed worker error) s.deliveries }
  | .cancel id userId, s =>
    { s with deliveries := updateWhere (among key [id]) (·.wasCancelled s.now userId) s.deliveries }
  | .retry id, s =>
    { s with deliveries := updateWhere (among key [id]) (·.retried s.now) s.deliveries }
  | .retryAll companyId, s =>
    { s with
      deliveries := updateWhere (retriable key companyId) (·.retriedAll s.now) s.deliveries }
  | .markDelivered ids, s =>
    { s with
      deliveries := updateWhere
        (fun row => among key ids row && (row.status = .sent || row.status = .delivered))
        (·.wasDelivered s.now) s.deliveries }
  | .markRefused ids reason detail, s =>
    { s with
      deliveries := updateWhere (among key ids) (·.wasRefused s.now reason detail) s.deliveries }
  | .suppress email reason, s =>
    { s with
      suppressions := upsert key email reason s.suppressions
      log := if reason = .unsubscribed then s.log else .refused email :: s.log }
  | .resubscribe email, s =>
    { s with
      suppressions := s.suppressions.filter fun row =>
        !(key row.recipientEmail = key email && row.reason = .unsubscribed) }
  | .ensurePreferences id userId, s =>
    if s.preferences.any fun row => key row.userId = key userId || key row.id = key id then s
    else { s with preferences := s.preferences ++ [⟨id, userId, true, false, defaultEvents⟩] }
  | .setEmailEnabled userId emailEnabled, s =>
    { s with
      preferences := updateWhere (fun row => key row.userId = key userId)
        (fun row => { row with emailEnabled := emailEnabled }) s.preferences }
  | .setPaused paused, s => { s with paused := paused }

end Statements
end FieldserviceIT.Notifications
