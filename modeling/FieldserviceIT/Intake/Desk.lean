import FieldserviceIT.Admin.Scim
import FieldserviceIT.Lib.Interleaving
import FieldserviceIT.Lib.Tables
import FieldserviceIT.Tickets.Lifecycle

/-!
What is read out of a mail: the address of the sender, the text, and the ticket number it
mentions. The patterns of the source are functions on lists of characters.
-/

namespace FieldserviceIT.Intake

open Admin Common Lib Tickets

section Sender

/-- `/<([^>]+)>/` -/
def bracketed : List Char → Option (List Char)
  | [] => none
  | c :: cs =>
    let inner := cs.takeWhile (· ≠ '>')
    if c = '<' && !inner.isEmpty && decide (inner.length < cs.length) then some inner
    else bracketed cs

/-- `/^[^\s@]+@[^\s@]+\.[^\s@]+$/` -/
def isEmailAddress (text : List Char) : Bool :=
  let name := text.takeWhile (· ≠ '@')
  let domain := text.drop (name.length + 1)
  text.contains '@' && !name.isEmpty && !domain.contains '@' &&
    text.all (fun c => !c.isWhitespace) && (domain.dropLast.drop 1).contains '.'

def extractEmail (value : String) : String :=
  let found := ((bracketed value.toList).map String.ofList).getD value
  let email := lowerCased (trimmed found)
  if isEmailAddress email.toList then email else ""

end Sender

section Text

/-- The characters begin with the pattern, which is written in small letters. -/
def beginsWith (pattern cs : List Char) : Bool :=
  (cs.take pattern.length).map Char.toLower = pattern

def afterPattern (pattern : List Char) : List Char → Option (List Char)
  | [] => none
  | c :: cs =>
    if beginsWith pattern (c :: cs) then some ((c :: cs).drop pattern.length)
    else afterPattern pattern cs

/-- Everything from an opening pattern to the next closing one becomes a blank, looking at
so many characters. -/
def withoutBlocks (opening closing : List Char) : Nat → List Char → List Char
  | _, [] => []
  | 0, cs => cs
  | n + 1, c :: cs =>
    let rest :=
      if beginsWith opening (c :: cs) then afterPattern closing ((c :: cs).drop opening.length)
      else none
    match rest with
    | some rest => ' ' :: withoutBlocks opening closing n rest
    | none => c :: withoutBlocks opening closing n cs

/-- `replace(/<[^>]+>/g, ' ')` -/
def withoutTags : Nat → List Char → List Char
  | _, [] => []
  | 0, cs => cs
  | n + 1, c :: cs =>
    let inner := cs.takeWhile (· ≠ '>')
    if c = '<' && !inner.isEmpty && decide (inner.length < cs.length) then
      ' ' :: withoutTags n (cs.drop (inner.length + 1))
    else c :: withoutTags n cs

def replaced (pattern : List Char) (replacement : Char) : Nat → List Char → List Char
  | _, [] => []
  | 0, cs => cs
  | n + 1, c :: cs =>
    if beginsWith pattern (c :: cs) then
      replacement :: replaced pattern replacement n ((c :: cs).drop pattern.length)
    else c :: replaced pattern replacement n cs

/-- `replace(/\s+/g, ' ')`, within a run of blanks or outside of one. -/
def collapsed (inRun : Bool) : List Char → List Char
  | [] => []
  | c :: cs =>
    if c.isWhitespace then if inRun then collapsed true cs else ' ' :: collapsed true cs
    else c :: collapsed false cs

def htmlText (html : List Char) : List Char :=
  let cs := withoutBlocks "<style".toList "</style>".toList html.length html
  let cs := withoutBlocks "<script".toList "</script>".toList cs.length cs
  let cs := withoutTags cs.length cs
  let cs := replaced "&nbsp;".toList ' ' cs.length cs
  let cs := replaced "&amp;".toList '&' cs.length cs
  let cs := replaced "&lt;".toList '<' cs.length cs
  let cs := replaced "&gt;".toList '>' cs.length cs
  collapsed false cs

def emailText (text html : Option String) : String :=
  let plain := trimmed (text.getD "")
  let whole := if plain ≠ "" then plain else trimmed (String.ofList (htmlText (html.getD "").toList))
  String.ofList (whole.toList.take 20000)

end Text

section Numbers

def isWordChar (c : Char) : Bool :=
  c.isAlphanum || c = '_'

/-- `\b` between two characters, or at an end of the text. -/
def isBoundary (before after : Option Char) : Bool :=
  before.any isWordChar != after.any isWordChar

/-- The longest start of the run of `[A-Z0-9-]` that ends at a word boundary. -/
def longestNumber (cs : List Char) : Option (List Char) :=
  let run := cs.takeWhile fun c => c.isAlphanum || c = '-'
  (List.range run.length).reverse.findSome? fun n =>
    if isBoundary (run[n]?) (cs.drop (n + 1)).head? then some (run.take (n + 1)) else none

/-- `/\bTKT-[A-Z0-9-]+\b/i`, in capital letters; `before` is what stands in front. -/
def ticketNumberIn (before : Option Char) : List Char → Option String
  | [] => none
  | c :: cs =>
    let found :=
      if beginsWith "tkt-".toList (c :: cs) && isBoundary before (some c) then
        longestNumber ((c :: cs).drop 4)
      else none
    match found with
    | some number => some (String.ofList ("TKT-".toList ++ number.map Char.toUpper))
    | none => ticketNumberIn (some c) cs

end Numbers

/-!
Where tickets come from: the portal, the agent, alerts of the network monitoring and of
remote management, and mail. Each of them works its ticket number out from a count of
tickets, in statements of its own before the insert. A mail is looked up by its message id
before it is worked on and recorded after; an error between two statements is a program that
is not advanced any further.
-/

structure IntakeUser where
  id : String
  email : String
  firstName : String
  lastName : String
  phone : Option String
  companyId : Option String
  role : Role
  userType : UserType
  isActive : Bool
  deletedAt : Option Int

/-- What the next number of a ticket is counted by. -/
inductive Counting where
  | company (companyId : String)
  | creator (userId : String)
  | mail (userId : String)
  deriving DecidableEq

structure TicketData where
  title : String
  description : String
  contactName : Option String
  contactEmail : Option String
  contactPhone : Option String
  category : Option String
  subcategory : Option String
  assetId : Option String
  priority : Option String
  companyId : Option String
  createdById : String

/-- A ticket, with the count its number is the next of, and the mail it was made from. -/
structure IntakeTicket where
  id : String
  ticketNumber : String
  data : TicketData
  status : String
  deletedAt : Option Int
  inTurnOf : Option Counting
  fromMessage : Option String

/-- An entry, with the mail it was made from and its sender. -/
structure TimelineEntry where
  ticketId : String
  actorId : String
  action : String
  comment : String
  fromMessage : Option String
  sender : Option String

/-- A message that was worked on; the id is stored as far as the column holds it. -/
structure EmailInboundMessage where
  providerMessageId : String
  recordedFor : String
  senderEmail : String
  ticketId : String
  subject : String
  status : String

structure EmailDelivery where
  providerMessageId : Option String
  ticketId : Option String

/-- Beside the tables: the numbers whose tickets were refused, the messages that were written
for and are not recorded, and those that were answered with success. No statement reads them. -/
structure Office where
  users : List IntakeUser
  tickets : List IntakeTicket
  timeline : List TimelineEntry
  messages : List EmailInboundMessage
  deliveries : List EmailDelivery
  now : Int
  drawn : Nat
  refused : List String
  unrecorded : List String
  answered : List String

namespace Counting

def counts : Counting → TicketData → Bool
  | company companyId, data => data.companyId = some companyId
  | creator userId, data | mail userId, data => data.createdById = userId

def stem : Counting → String
  | company companyId => "TKT-" ++ String.ofList ((companyId.toList.take 4).map Char.toUpper)
  | creator _ => "TKT-PUB"
  | mail _ => "TKT-EMAIL"

end Counting

def numberFor (stem : String) (n : Nat) : String :=
  stem ++ "-" ++ padded 5 n

theorem ofDigitChars_padded (width n : Nat) :
    Nat.ofDigitChars 10 (padded width n).toList 0 = n := by
  rw [padded, String.toList_append, String.toList_ofList, Nat.ofDigitChars_append,
    Nat.ofDigitChars_replicate_zero, Nat.mul_zero, Nat.toString_eq_repr, Nat.toList_repr,
    Nat.ofDigitChars_ten_toDigits]

theorem numberFor_injective {stem : String} {m n : Nat} (h : numberFor stem m = numberFor stem n) :
    m = n := by
  have hlists := congrArg String.toList h
  simp only [numberFor, String.toList_append, List.append_cancel_left_eq] at hlists
  rw [← ofDigitChars_padded 5 m, hlists, ofDigitChars_padded]

/-- How the server compares texts, and random identifiers by number. Numbers that differ are
different to the server. -/
structure IntakePlatform where
  same : String → String → Bool
  uuid : Nat → String
  same_number : ∀ stem m n, same (numberFor stem m) (numberFor stem n) = true → m = n

inductive IntakeOp where
  | read
  | lookUp (message : String)
  /-- `seen` tickets were there when the number was worked out. -/
  | insert (data : TicketData) (counting : Counting) (ticketNumber : String) (seen : Nat)
      (message : Option String)
  | addEntry (entry : TimelineEntry)
  | record (row : EmailInboundMessage)
  | reply (message : Option String) (found : Option EmailInboundMessage)
  | remove (ticketId : String)

abbrev IntakeProgram := Prog Office IntakeOp

def countOf (counting : Counting) (s : Office) : Nat :=
  s.tickets.countP fun ticket => counting.counts ticket.data

section Statements

variable (P : IntakePlatform)

def isTaken (ticketNumber : String) (s : Office) : Bool :=
  s.tickets.any fun ticket => P.same ticket.ticketNumber ticketNumber

def newTicket (data : TicketData) (counting : Counting) (ticketNumber : String)
    (message : Option String) (s : Office) : IntakeTicket where
  id := P.uuid s.drawn
  ticketNumber := ticketNumber
  data := data
  status := "OPEN"
  deletedAt := none
  inTurnOf :=
    if ticketNumber = numberFor counting.stem (countOf counting s + 1) then some counting else none
  fromMessage := message

/-- `WHERE providerMessageId = ?` -/
def findMessage (message : String) (s : Office) : Option EmailInboundMessage :=
  s.messages.find? fun row => P.same row.providerMessageId message

def execIntake (op : IntakeOp) (s : Office) : Office :=
  match op with
  | .read | .lookUp _ => s
  | .insert data counting ticketNumber _ message =>
    if isTaken P ticketNumber s then
      { s with drawn := s.drawn + 1, refused := ticketNumber :: s.refused }
    else
      { s with
        tickets := s.tickets ++ [newTicket P data counting ticketNumber message s]
        drawn := s.drawn + 1
        unrecorded := message.toList ++ s.unrecorded }
  | .addEntry entry =>
    { s with
      timeline := s.timeline ++ [entry]
      unrecorded := entry.fromMessage.toList ++ s.unrecorded }
  | .record row =>
    -- `INSERT IGNORE`: a row that is there already stays the only one
    if s.messages.any fun other => P.same other.providerMessageId row.providerMessageId then s
    else
      { s with
        messages := s.messages ++ [row]
        unrecorded := s.unrecorded.filter (· ≠ row.recordedFor) }
  | .reply message _ => { s with answered := message.toList ++ s.answered }
  | .remove ticketId =>
    { s with
      tickets := updateWhere (fun ticket => ticket.id = ticketId)
        (fun ticket => { ticket with deletedAt := some s.now }) s.tickets }

/-- The insert of a ticket, which the unique key on the numbers can refuse. -/
def insertTicket (data : TicketData) (counting : Counting) (ticketNumber : String) (seen : Nat)
    (message : Option String) (rest : String → IntakeProgram) : IntakeProgram :=
  .step (.insert data counting ticketNumber seen message) fun s =>
    if isTaken P ticketNumber s then .fail else rest (P.uuid s.drawn)

end Statements

end FieldserviceIT.Intake
