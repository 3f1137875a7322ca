import FieldserviceIT.Common.Users
import FieldserviceIT.Lib.Stateful
import FieldserviceIT.Notifications.Deliveries
import FieldserviceIT.Sql.Value

/-!
The tables the agent's tools read and insert into, and the statements they send. Any
statement may fail, and what was inserted before it stays.
-/

namespace FieldserviceIT.Ai

open Common Lib Notifications Sql

structure AgentUser where
  id : String
  role : Role
  userType : UserType
  companyId : Option String
  email : String
  firstName : Option String
  lastName : Option String
  phone : Option String

structure TicketRow where
  id : String
  ticketNumber : String
  title : String
  description : String
  contactName : String
  contactEmail : String
  contactPhone : String
  category : String
  subcategory : String
  status : String
  priority : String
  type : String
  companyId : Option String
  createdById : String
  deriving DecidableEq

structure MdmTokenRow where
  id : String
  companyId : Option String
  token : String
  deviceCategory : String
  ownership : String
  policyProfile : String
  expiresAt : Int
  createdAt : Int
  deriving DecidableEq

structure DeliveryRow where
  id : String
  companyId : Option String
  ticketId : Option String
  userId : Option String
  recipientEmail : String
  recipientName : Option String
  eventType : String
  eventCategory : String
  status : DeliveryStatus
  deriving DecidableEq

structure UserRow where
  id : String
  email : String
  firstName : Option String
  lastName : Option String
  isDeleted : Bool

structure Store where
  tickets : List TicketRow
  tokens : List MdmTokenRow
  deliveries : List DeliveryRow
  preferences : List PreferenceRow
  users : List UserRow
  suppressions : List (String × SuppressionReason)

/-- `executed` records the tools that were run, `clock` counts the statements. -/
structure World where
  store : Store
  executed : List String
  clock : Nat

abbrev Agent := Stateful Unit World

/-- What the database and the platform answer with. `fails` tells which statements
fail, `rows` is the answer to a `SELECT`, `same` the comparison of a text column;
`slice` keeps the first characters and `collapse` makes each run of blanks one. -/
structure Server where
  fails : Nat → Bool
  rows : Store → String → List Scalar → List Row
  same : String → String → Bool
  same_refl : ∀ text, same text text = true
  uuid : Nat → String
  hex : Nat → String
  now : Nat → Int
  base36 : Int → String
  toLowerCase : String → String
  toUpperCase : String → String
  trim : String → String
  slice : Nat → String → String
  collapse : String → String
  isAddress : String → Bool

section Statements

variable (server : Server)

def statement : Agent Unit := do
  let world ← get
  modify fun world => { world with clock := world.clock + 1 }
  if server.fails world.clock then throw ()

/-- A `SELECT`. -/
def query (sql : String) (values : List Scalar) : Agent (List Row) := do
  statement server
  let world ← get
  return server.rows world.store sql values

def insertTicket (row : TicketRow) : Agent Unit := do
  statement server
  let world ← get
  if world.store.tickets.any fun other =>
      server.same other.id row.id || server.same other.ticketNumber row.ticketNumber then
    throw ()
  modify fun world =>
    { world with store.tickets := world.store.tickets ++ [row] }

def insertToken (row : MdmTokenRow) : Agent Unit := do
  statement server
  let world ← get
  if world.store.tokens.any fun other =>
      server.same other.id row.id || server.same other.token row.token then
    throw ()
  modify fun world => { world with store.tokens := world.store.tokens ++ [row] }

def insertDelivery (row : DeliveryRow) : Agent Unit := do
  statement server
  let world ← get
  if world.store.deliveries.any fun other => server.same other.id row.id then throw ()
  modify fun world =>
    { world with store.deliveries := world.store.deliveries ++ [row] }

/-- `INSERT IGNORE` -/
def insertPreference (row : PreferenceRow) : Agent Unit := do
  statement server
  let world ← get
  if world.store.preferences.any fun other =>
      server.same other.id row.id || server.same other.userId row.userId then
    return ()
  modify fun world =>
    { world with store.preferences := world.store.preferences ++ [row] }

def findTicket (id : String) : Agent (Option TicketRow) := do
  statement server
  let world ← get
  return world.store.tickets.find? fun row => server.same row.id id

def ticketNumberTaken (ticketNumber : String) : Agent Bool := do
  statement server
  let world ← get
  return world.store.tickets.any fun row => server.same row.ticketNumber ticketNumber

def findUser (check : UserRow → Bool) : Agent (Option UserRow) := do
  statement server
  let world ← get
  return world.store.users.find? check

def findPreference (userId : String) : Agent (Option PreferenceRow) := do
  statement server
  let world ← get
  return world.store.preferences.find? fun row => server.same row.userId userId

def findSuppression (recipientEmail : String) : Agent (Option SuppressionReason) := do
  statement server
  let world ← get
  return (world.store.suppressions.find? fun row => server.same row.1 recipientEmail).map (·.2)

def newId : Agent String := do
  let world ← get
  return server.uuid world.clock

end Statements

section Notifying

variable (server : Server)

/-- `ensurePreferences` -/
def ensurePreferences (userId : String) : Agent (Option PreferenceRow) := do
  match ← findPreference server userId with
  | some row => return some row
  | none =>
    let id ← newId server
    insertPreference server
      { id := id, userId := userId, emailEnabled := true, digestDaily := false,
        settings := defaultEvents }
    findPreference server userId

def preferencesOf (userId : Option String) : Agent (Option PreferenceRow) :=
  if truthy userId then ensurePreferences server (userId.getD "") else pure none

structure DeliveryInput where
  companyId : Option String
  ticketId : Option String
  userId : Option String
  recipientEmail : String
  recipientName : Option String
  eventType : String
  eventCategory : String

/-- `normalizeEmail` -/
def normalizeEmail (value : String) : String :=
  let email := server.toLowerCase (server.trim value)
  if server.isAddress email then email else ""

/-- `EmailDeliveryService.enqueue` -/
def enqueue (input : DeliveryInput) : Agent Unit := do
  let recipientEmail := normalizeEmail server input.recipientEmail
  if recipientEmail = "" then throw ()
  let suppression ← findSuppression server recipientEmail
  let preferences ← preferencesOf server input.userId
  let id ← newId server
  insertDelivery server
    { id := id
      companyId := orElse input.companyId none
      ticketId := orElse input.ticketId none
      userId := orElse input.userId none
      recipientEmail := recipientEmail
      recipientName := orElse (input.recipientName.map server.trim) none
      eventType := input.eventType
      eventCategory := input.eventCategory
      status := enqueueStatus input.eventCategory suppression preferences }

structure Recipient where
  email : String
  name : Option String
  userId : Option String

/-- `prepareTicketEmail`, of which only the statements are kept: it puts the texts of
the message together. -/
def prepareTicketEmail (companyId : Option String) (eventType : String) : Agent Unit := do
  if truthy companyId then
    let _ ← query server "SELECT name, branding FROM Company WHERE id = ? AND deletedAt IS NULL LIMIT 1"
      [.text (companyId.getD "")]
    let _ ← query server
      "SELECT * FROM EmailTemplate WHERE companyId = ? AND eventType = ? AND enabled = 1 LIMIT 1"
      [.text (companyId.getD ""), .text eventType]

/-- `value.includes(word)` -/
def includes (word : List Char) : List Char → Bool
  | [] => word.isEmpty
  | c :: rest => word.isPrefixOf (c :: rest) || includes word rest

/-- `matches` -/
def matchesAny (value : String) (words : List String) : Bool :=
  words.any fun word => includes word.toList value.toList

/-- `inferCategory` -/
def inferCategory (action : String) : String :=
  let value := server.toLowerCase action
  if matchesAny value ["resolved", "closed"] then "ticket_resolution"
  else if matchesAny value ["status", "reopened"] then "ticket_status"
  else if matchesAny value ["comment", "message", "reply"] then "ticket_comments"
  else if matchesAny value ["assign", "technician"] then "ticket_assignment"
  else if matchesAny value ["attachment", "file"] then "ticket_attachments"
  else if matchesAny value ["time", "work log"] then "ticket_time"
  else if matchesAny value ["dispatch", "visit", "arrival"] then "dispatch"
  else if matchesAny value ["opened", "created"] then "ticket_created"
  else "automated"

/-- The user of a recipient is looked up by address where it is not known. -/
def recipientUserId (recipient : Recipient) : Agent (Option String) :=
  if truthy recipient.userId then pure recipient.userId
  else do
    let found ← findUser server fun user =>
      server.same (server.toLowerCase user.email) recipient.email && !user.isDeleted
    return found.map (·.id)

/-- `queueRecipient` -/
def queueRecipient (ticket : TicketRow) (eventCategory : String) (recipient : Recipient) :
    Agent Unit := do
  let userId ← recipientUserId server recipient
  prepareTicketEmail server ticket.companyId "TICKET_PARTICIPANT"
  enqueue server
    { companyId := ticket.companyId, ticketId := some ticket.id, userId := userId,
      recipientEmail := recipient.email, recipientName := recipient.name,
      eventType := "TICKET_PARTICIPANT", eventCategory := eventCategory }

/-- `uniqueRecipients`: the first of those with one address. -/
def uniqueRecipients (recipients : List Recipient) : List Recipient :=
  let cleaned := recipients.map fun recipient =>
    { recipient with email := server.toLowerCase (server.trim recipient.email) }
  cleaned.foldl (fun unique recipient =>
    if recipient.email = "" || unique.any (·.email = recipient.email) then unique
    else unique ++ [recipient]) []

/-- `[firstName, lastName].filter(Boolean).join(' ')` -/
def fullName (firstName lastName : Option String) : String :=
  String.intercalate " " ([firstName, lastName].filterMap fun name =>
    if truthy name then name else none)

/-- A recipient that cannot be queued is logged, the others are queued all the same. -/
def queueAll (ticket : TicketRow) (eventCategory : String) : List Recipient → Agent Unit
  | [] => pure ()
  | recipient :: recipients => do
      tryCatch (queueRecipient server ticket eventCategory recipient) fun _ => pure ()
      queueAll ticket eventCategory recipients

/-- `TicketParticipantNotifierService.notify`, which logs what goes wrong. -/
def notify (ticketId action : String) (actorId : String) : Agent Unit :=
  tryCatch (do
    match ← findTicket server ticketId with
    | none => return ()
    | some ticket =>
      let createdBy ← findUser server fun user => server.same user.id ticket.createdById
      let _ ← findUser server fun user => server.same user.id actorId
      let recipients := uniqueRecipients server
        [⟨ticket.contactEmail, some ticket.contactName, none⟩,
          ⟨(createdBy.map (·.email)).getD "",
            createdBy.map fun user => fullName user.firstName user.lastName,
            createdBy.map (·.id)⟩]
      queueAll server ticket (inferCategory server action) recipients)
    fun _ => pure ()

end Notifying
end FieldserviceIT.Ai
