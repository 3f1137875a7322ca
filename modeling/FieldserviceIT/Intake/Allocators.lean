import FieldserviceIT.Intake.Desk

/-!
The programs that make tickets, each with its own way to a ticket number, and the mail that
may turn out to be a reply.
-/

namespace FieldserviceIT.Intake

open Admin Common Lib Tickets

section Allocators

variable (P : IntakePlatform)

/-- `count + 1` -/
def insertCounted (data : TicketData) (counting : Counting) (message : Option String)
    (rest : String → IntakeProgram) : IntakeProgram :=
  .step .read fun s =>
    insertTicket P data counting (numberFor counting.stem (countOf counting s + 1))
      s.tickets.length message rest

/-- The first number from `next` on that is free, and how many tickets it was looked for
among. -/
def nextTicketNumber (stem : String) (k : String → Nat → IntakeProgram) : Nat → Nat → IntakeProgram
  | 0, _ => .step .read fun s => k (stem ++ "-" ++ base36 s.now.toNat) 0
  | attempts + 1, next => .step .read fun s =>
    if isTaken P (numberFor stem next) s then nextTicketNumber stem k attempts (next + 1)
    else k (numberFor stem next) s.tickets.length

def insertProbed (data : TicketData) (counting : Counting) (rest : String → IntakeProgram) :
    IntakeProgram :=
  .step .read fun s =>
    nextTicketNumber P counting.stem
      (fun ticketNumber seen => insertTicket P data counting ticketNumber seen none rest)
      100 (countOf counting s + 1)

def entry (ticketId actorId action comment : String) : TimelineEntry :=
  ⟨ticketId, actorId, action, comment, none, none⟩

/-- `create` of the ticket service; the data is what the request says. -/
def create (data : TicketData) (companyId : Option String) (userId : String)
    (userType : UserType) : IntakeProgram :=
  if !truthy data.contactName || !truthy data.contactEmail || !truthy data.contactPhone ||
      data.title = "" then .fail
  else
    let companyIdForTicket := if userType = .publicUser then none else companyId
    let counting := if truthy companyIdForTicket then Counting.company (companyIdForTicket.getD "")
      else .creator userId
    insertProbed P { data with companyId := companyIdForTicket, createdById := userId } counting
      fun ticketId =>
        .step (.addEntry (entry ticketId userId "CREATED" ("Ticket created with status " ++
          (data.priority.filter (· ≠ "")).getD "MEDIUM" ++ " priority"))) fun _ => .done

/-- `createTicket` of the agent; the data is read out of the goal. -/
def agentCreateTicket (data : TicketData) (companyId userId : String) : IntakeProgram :=
  if companyId = "" then .done
  else
    insertProbed P { data with companyId := some companyId, createdById := userId }
      (.company companyId) fun _ => .done

structure NetworkAlert where
  companyId : String
  assetId : String
  assetName : String
  ruleName : String
  metric : String
  severity : String
  details : String

/-- `FIELD(role, 'TENANT_ADMIN', 'SUPER_ADMIN', 'TECHNICIAN', 'CLIENT')` -/
def roleField : Role → Nat
  | .tenantAdmin => 1
  | .superAdmin => 2
  | .technician => 3
  | .client => 4
  | _ => 0

def firstByRole : List IntakeUser → Option IntakeUser
  | [] => none
  | user :: users =>
    match firstByRole users with
    | some other => if roleField other.role < roleField user.role then some other else some user
    | none => some user

def createAlertTicket (alert : NetworkAlert) : IntakeProgram :=
  .step .read fun s =>
    if s.tickets.any fun ticket => decide (ticket.data.companyId = some alert.companyId) &&
        decide (ticket.data.assetId = some alert.assetId) &&
        !(["RESOLVED", "CLOSED"].contains ticket.status) &&
        decide (ticket.data.category = some "Network Monitoring") &&
        decide (ticket.data.subcategory = some alert.metric) then .done
    else
      .step .read fun s =>
        match firstByRole (s.users.filter fun user =>
            decide (user.companyId = some alert.companyId) && user.deletedAt.isNone &&
              user.isActive) with
        | none => .done
        | some creator =>
          let name := trimmed (creator.firstName ++ " " ++ creator.lastName)
          insertCounted P
            { title := alert.assetName ++ ": " ++ alert.ruleName
              description := alert.details
              contactName := some (if name = "" then "Network Monitor" else name)
              contactEmail := some (if creator.email = "" then "monitoring@fieldserviceit.local"
                else creator.email)
              contactPhone := some ((creator.phone.filter (· ≠ "")).getD "N/A")
              category := some "Network Monitoring"
              subcategory := some alert.metric
              assetId := some alert.assetId
              priority := some (if alert.severity = "CRITICAL" then "CRITICAL" else "HIGH")
              companyId := some alert.companyId
              createdById := creator.id }
            (.company alert.companyId) none fun _ => .done

/-- An alert of remote management, and what the provider makes of it. -/
structure RmmAlert where
  provider : String
  assignedUserId : Option String
  title : Option String
  description : Option String
  severity : Option String
  mappedTitle : Option String
  mappedDescription : Option String
  mappedSeverity : Option String
  deviceName : Option String
  alertId : Option String
  source : Option String

def mapPriority (severity : Option String) : String :=
  match severity.filter (· ≠ "") with
  | none => "MEDIUM"
  | some severity =>
    let s := lowerCased severity
    if s = "critical" || s = "emergency" then "CRITICAL"
    else if s = "warning" || s = "high" then "HIGH"
    else if s = "info" || s = "low" then "LOW"
    else "MEDIUM"

def RmmAlert.fullDescription (alert : RmmAlert) : String :=
  let description := (orElse (orElse alert.mappedDescription alert.description) none).getD ""
  let origin := "Alert ID: " ++ (alert.alertId.filter (· ≠ "")).getD "N/A" ++ "\nSource: " ++
    (alert.source.filter (· ≠ "")).getD alert.provider
  let sourceInfo := if truthy alert.deviceName then
      "Device: " ++ alert.deviceName.getD "" ++ "\n" ++ origin
    else origin
  if description = "" then sourceInfo else description ++ "\n\n---\n" ++ sourceInfo

def withAlertUser (alert : RmmAlert) (companyId : String) (k : String → IntakeProgram) :
    IntakeProgram :=
  if truthy alert.assignedUserId then k (alert.assignedUserId.getD "")
  else
    .step .read fun s =>
      match s.users.find? (fun user => decide (user.companyId = some companyId) &&
          decide (user.role = .tenantAdmin) && user.deletedAt.isNone) with
      | some tenantAdmin => k tenantAdmin.id
      | none =>
        .step .read fun s =>
          match s.users.find? (fun user => decide (user.companyId = some companyId) &&
              user.deletedAt.isNone) with
          | some firstUser => k firstUser.id
          | none => .fail

def createTicketFromAlert (alert : RmmAlert) (companyId : String) : IntakeProgram :=
  let title := (orElse alert.mappedTitle alert.title).filter (· ≠ "")
    |>.getD ("[" ++ alert.provider ++ "] RMM Alert")
  withAlertUser alert companyId fun userId =>
    insertCounted P
      { title := title
        description := alert.fullDescription
        contactName := none
        contactEmail := none
        contactPhone := none
        category := none
        subcategory := none
        assetId := none
        priority := some (mapPriority (orElse alert.mappedSeverity alert.severity))
        companyId := some companyId
        createdById := userId }
      (.company companyId) none fun ticketId =>
        .step (.addEntry (entry ticketId userId "RMM_ALERT"
          ("Ticket auto-created from " ++ alert.provider ++ " alert: " ++ title))) fun _ => .done

end Allocators

section Mail

variable (P : IntakePlatform)

/-- A delivery of the mail provider; the secret of the webhook was right or not. -/
structure InboundBody where
  secretValid : Bool
  from_ : String
  subject : Option String
  text : Option String
  html : Option String
  messageId : Option String
  inReplyTo : Option String

namespace InboundBody

variable (body : InboundBody)

/-- `String(body.messageId || '').trim()`, if there is anything in it. -/
def providerMessageId : Option String :=
  (some (trimmed (body.messageId.getD ""))).filter (· ≠ "")

def message : String :=
  emailText body.text body.html

def mentionedNumber : Option String :=
  ticketNumberIn none (body.subject.getD "" ++ " " ++ body.message).toList

end InboundBody

/-- Who may reply to a ticket: its contact, and whoever created it. -/
def participants (ticket : IntakeTicket) (s : Office) : List String :=
  let creator := s.users.find? fun user => user.id = ticket.data.createdById
  ([ticket.data.contactEmail, creator.map IntakeUser.email].filterMap fun email =>
    email.filter (· ≠ "")).map fun email => lowerCased (trimmed email)

/-- The ticket a mail is about: the one whose number it mentions, else the one it replies to
a mail of. -/
def ticketOfMail (body : InboundBody) (s : Office) : Option IntakeTicket :=
  match body.mentionedNumber with
  | some number => s.tickets.find? fun ticket =>
    P.same (String.ofList (ticket.ticketNumber.toList.map Char.toUpper)) number && ticket.deletedAt.isNone
  | none =>
    if truthy body.inReplyTo then
      (s.deliveries.filter fun delivery => delivery.providerMessageId.any fun id =>
          P.same id (trimmed (body.inReplyTo.getD ""))).findSome? fun delivery =>
        s.tickets.find? fun ticket => delivery.ticketId = some ticket.id && ticket.deletedAt.isNone
    else none

/-- The record of the message, if it has an id, and then the rest. -/
def recordMessage (body : InboundBody) (senderEmail ticketId : String) (rest : IntakeProgram) :
    IntakeProgram :=
  match body.providerMessageId with
  | some message =>
    .step (.record
      { providerMessageId := String.ofList (message.toList.take 255)
        recordedFor := message
        senderEmail := senderEmail
        ticketId := ticketId
        subject := String.ofList ((body.subject.getD "").toList.take 255)
        status := "PROCESSED" }) fun _ => rest
  | none => rest

def replyToMail (body : InboundBody) : IntakeProgram :=
  .step (.reply body.providerMessageId none) fun _ => .done

def addReply (body : InboundBody) (senderEmail : String) (ticket : IntakeTicket) : IntakeProgram :=
  .step .read fun s =>
    let sender := s.users.find? fun user => user.email = senderEmail && user.deletedAt.isNone
    let actorId := (sender.map IntakeUser.id).getD ticket.data.createdById
    .step (.addEntry
      { ticketId := ticket.id
        actorId := actorId
        action := "COMMENT"
        comment := if body.message = "" then "Reply received by email" else body.message
        fromMessage := body.providerMessageId
        sender := some senderEmail }) fun _ =>
      recordMessage body senderEmail ticket.id (replyToMail body)

def openFromMail (body : InboundBody) (senderEmail : String) : IntakeProgram :=
  .step .read fun s =>
    match s.users.find? (fun user => user.email = senderEmail && user.userType = .publicUser) with
    | none => .fail
    | some user =>
      insertCounted P
        { title := (body.subject.filter (· ≠ "")).getD "Email submission"
          description := body.message
          contactName := some (if user.firstName = "" then user.email else user.firstName)
          contactEmail := some user.email
          contactPhone := some ""
          category := none
          subcategory := none
          assetId := none
          priority := none
          companyId := none
          createdById := user.id }
        (.mail user.id) body.providerMessageId fun ticketId =>
          recordMessage body senderEmail ticketId
            (.step (.addEntry (entry ticketId user.id "CREATED" "Ticket created from email"))
              fun _ => replyToMail body)

def workOnMail (body : InboundBody) (senderEmail : String) : IntakeProgram :=
  .step .read fun s =>
    match ticketOfMail P body s with
    | some ticket =>
      if (participants ticket s).contains senderEmail then addReply body senderEmail ticket
      else .fail
    | none => openFromMail P body senderEmail

def inboundEmail (body : InboundBody) : IntakeProgram :=
  let senderEmail := extractEmail body.from_
  if !body.secretValid || senderEmail = "" then .fail
  else
    match body.providerMessageId with
    | some message =>
      .step (.lookUp message) fun s =>
        match findMessage P message s with
        | some found => .step (.reply (some message) (some found)) fun _ => .done
        | none => workOnMail P body senderEmail
    | none => workOnMail P body senderEmail

end Mail

section System

variable (P : IntakePlatform)

inductive IntakeRequest where
  | create (data : TicketData) (companyId : Option String) (userId : String) (userType : UserType)
  | agentCreateTicket (data : TicketData) (companyId userId : String)
  | createAlertTicket (alert : NetworkAlert)
  | createTicketFromAlert (alert : RmmAlert) (companyId : String)
  | inboundEmail (body : InboundBody)
  | remove (ticketId : String)

def IntakeRequest.handler : IntakeRequest → IntakeProgram
  | create data companyId userId userType => Intake.create P data companyId userId userType
  | agentCreateTicket data companyId userId => Intake.agentCreateTicket P data companyId userId
  | createAlertTicket alert => Intake.createAlertTicket P alert
  | createTicketFromAlert alert companyId => Intake.createTicketFromAlert P alert companyId
  | inboundEmail body => Intake.inboundEmail P body
  | remove ticketId => .step (.remove ticketId) fun _ => .done

def intakeSystem : System Office IntakeOp IntakeRequest where
  exec := execIntake P
  tick s := { s with now := s.now + 1 }
  handler := IntakeRequest.handler P
  sendable _ _ := True

end System
end FieldserviceIT.Intake
