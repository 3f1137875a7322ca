import FieldserviceIT.Lib.Histories
import FieldserviceIT.Lib.Json
import FieldserviceIT.Lib.Tables
import FieldserviceIT.Notifications.QueueCalls

/-!
The escalation of tickets that are late. A run selects tickets, and for each and each of its levels
looks up who is to know, records the level and queues a mail for each of them. A run is by itself,
as it keeps out a second one; whatever else the application does comes between two runs. Any
statement may fail, and what fails ends the run.
-/

namespace FieldserviceIT.Notifications.Escalations

open Admin Common Lib

/-- The clock counts milliseconds, a threshold minutes. -/
structure Sla where
  id : String
  isActive : Bool
  resolutionTimeMin : Int
  escalateAfterMin : Option Int
  escalateToId : Option String

structure Ticket where
  id : String
  ticketNumber : String
  title : String
  companyId : Option String
  slaId : Option String
  assignedToId : Option String
  status : String
  createdAt : Int
  resolvedAt : Option Int
  deletedAt : Option Int

structure User where
  id : String
  email : Option String
  firstName : Option String
  lastName : Option String
  companyId : Option String
  role : String
  isActive : Bool
  deletedAt : Option Int

/-- What the runs read and others write. -/
structure Desk where
  tickets : List Ticket
  tickets_distinct : Distinct Ticket.id tickets
  slas : List Sla
  users : List User
  suppressions : List (String × SuppressionReason)
  preferences : List PreferenceRow

inductive Level where
  | atRisk
  | breached
  | managerEscalation
  deriving DecidableEq

def Level.action : Level → String
  | breached => "SLA resolution target breached"
  | managerEscalation => "SLA manager escalation required"
  | atRisk => "SLA resolution target at risk"

structure Recipient where
  userId : String
  email : String
  name : String

structure Escalation where
  ticketId : String
  level : Level
  createdAt : Int

def Escalation.key (row : Escalation) : String × Level :=
  (row.ticketId, row.level)

/-- What the text of a mail is made of. -/
structure TicketEmail where
  companyId : Option String
  recipientEmail : String
  recipientName : String
  ticketNumber : String
  ticketTitle : String
  action : String
  detail : String

/-- A mail that is put into the queue; its event is `SLA_` and the level. -/
structure Notification where
  companyId : Option String
  ticketId : String
  userId : String
  recipientEmail : String
  recipientName : Option String
  level : Level
  priority : Nat
  status : DeliveryStatus
  email : TicketEmail

def Notification.key (row : Notification) : String × Level :=
  (row.ticketId, row.level)

structure EscalationStore where
  desk : Desk
  now : Int
  escalations : List Escalation
  notifications : List Notification

section Selection

def Desk.slaOf (desk : Desk) (ticket : Ticket) : Option Sla :=
  desk.slas.find? fun sla => ticket.slaId = some sla.id && sla.isActive

def Desk.userOf (desk : Desk) (id : Option String) : Option User :=
  desk.users.find? fun user => id = some user.id

def Ticket.isOpen (ticket : Ticket) : Bool :=
  ticket.deletedAt.isNone && ticket.resolvedAt.isNone &&
    !(["RESOLVED", "CLOSED"].contains ticket.status)

/-- `FLOOR(resolutionTimeMin * 0.75)` -/
def Sla.riskMin (sla : Sla) : Int :=
  sla.resolutionTimeMin * 3 / 4

/-- `TIMESTAMPDIFF(MINUTE, createdAt, NOW(3))` -/
def Ticket.minutesOpen (ticket : Ticket) (now : Int) : Int :=
  (now - ticket.createdAt).tdiv 60000

/-- `Math.max(0, Math.floor((Date.now() - createdAt) / 60000))` -/
def Ticket.ageMinutes (ticket : Ticket) (now : Int) : Int :=
  let minutes := (now - ticket.createdAt) / 60000
  if 0 ≤ minutes then minutes else 0

def isSelected (now : Int) (row : Ticket × Sla) : Bool :=
  row.1.isOpen && decide (row.2.riskMin ≤ row.1.minutesOpen now)

def EscalationStore.joined (s : EscalationStore) : List (Ticket × Sla) :=
  s.desk.tickets.filterMap fun ticket => (s.desk.slaOf ticket).map fun sla => (ticket, sla)

/-- `LIMIT 250`, without an order. -/
def selected (s : EscalationStore) : List (Ticket × Sla) :=
  (s.joined.filter (isSelected s.now)).take 250

def isLate (sla : Sla) (age : Int) : Bool :=
  sla.escalateAfterMin.any fun minutes => minutes ≠ 0 && decide (minutes ≤ age)

def levels (sla : Sla) (age : Int) : List Level :=
  (if sla.resolutionTimeMin ≤ age then .breached else .atRisk) ::
    if isLate sla age then [.managerEscalation] else []

structure Task where
  ticket : Ticket
  sla : Sla
  level : Level

def Task.key (task : Task) : String × Level :=
  (task.ticket.id, task.level)

def tasksOf (now : Int) (row : Ticket × Sla) : List Task :=
  (levels row.2 (row.1.ageMinutes now)).map (Task.mk row.1 row.2)

end Selection

section Recipients

variable (toLowerCase : String → String)

/-- `[firstName, lastName].filter(Boolean).join(' ')` -/
def nameOf (user : User) : String :=
  " ".intercalate (([user.firstName, user.lastName].filterMap id).filter (· ≠ ""))

def recipientOf (user : User) : Option Recipient :=
  (user.email.filter (· ≠ "")).map fun email => ⟨user.id, email, nameOf user⟩

def Desk.admins (desk : Desk) (companyId : Option String) : List Recipient :=
  if truthy companyId then
    (desk.users.filter fun user => user.companyId = companyId && user.role = "TENANT_ADMIN" &&
      user.isActive && user.deletedAt.isNone).filterMap fun user =>
        user.email.map fun email => ⟨user.id, email, nameOf user⟩
  else []

def Desk.recipients (desk : Desk) (task : Task) : List Recipient :=
  ((desk.userOf task.ticket.assignedToId).bind recipientOf).toList ++
    (if task.level = .managerEscalation then
      ((desk.userOf task.sla.escalateToId).bind recipientOf).toList else []) ++
      desk.admins task.ticket.companyId

/-- `new Map(recipients.map(recipient => [normalizeEmail(recipient.email), recipient]))` -/
def byAddress (recipients : List Recipient) : List (String × Recipient) :=
  recipients.foldl (fun unique recipient =>
    put (normalizeEmail toLowerCase recipient.email) recipient unique) []

def Desk.unique (desk : Desk) (task : Task) : List (String × Recipient) :=
  byAddress toLowerCase (desk.recipients task)

def Desk.statusOf (desk : Desk) (recipientEmail userId : String) : DeliveryStatus :=
  enqueueStatus "sla" (desk.suppressions.lookup recipientEmail)
    (desk.preferences.find? fun row => row.userId = userId)

end Recipients

section Runs

variable (toLowerCase : String → String)

/-- The statement of an escalation that fails; of the mails, the one with the number. -/
inductive EscalationFault where
  | recipients
  | record
  | notify (number : Nat)
  deriving DecidableEq

/-- The statements of a run that fail. -/
structure RunFaults where
  select : Bool
  escalation : String × Level → Option EscalationFault

def record (task : Task) (s : EscalationStore) : EscalationStore :=
  { s with escalations := ⟨task.ticket.id, task.level, s.now⟩ :: s.escalations }

def ticketEmail (task : Task) (recipient : Recipient) (ageMinutes : Int) : TicketEmail where
  companyId := task.ticket.companyId
  recipientEmail := recipient.email
  recipientName := recipient.name
  ticketNumber := task.ticket.ticketNumber
  ticketTitle := task.ticket.title
  action := task.level.action
  detail := "This ticket has been open for " ++ toString ageMinutes ++ " minutes."

def enqueueEscalation (task : Task) (recipientEmail : String) (recipient : Recipient)
    (s : EscalationStore) : EscalationStore :=
  { s with
    notifications :=
      { companyId := orNull task.ticket.companyId
        ticketId := task.ticket.id
        userId := recipient.userId
        recipientEmail := recipientEmail
        recipientName := orNull (some (trimmed recipient.name))
        level := task.level
        priority := 100
        status := s.desk.statusOf recipientEmail recipient.userId
        email := ticketEmail task recipient (task.ticket.ageMinutes s.now) } :: s.notifications }

/-- Whether the escalation went through comes with the state it leaves. -/
def notifyAll (task : Task) : List (String × Recipient) → Option Nat → EscalationStore →
    Bool × EscalationStore
  | [], _, s => (true, s)
  | (_, recipient) :: rest, fault, s =>
    let recipientEmail := normalizeEmail toLowerCase recipient.email
    if fault = some 0 || recipientEmail = "" then (false, s)
    else
      notifyAll task rest (fault.map (· - 1)) (enqueueEscalation task recipientEmail recipient s)

def EscalationFault.number : Option EscalationFault → Option Nat
  | some (notify number) => some number
  | some recipients | some record | none => none

def isRecorded (s : EscalationStore) (key : String × Level) : Bool :=
  s.escalations.any fun row => row.key = key

def queueSlaEscalation (fault : Option EscalationFault) (task : Task) (s : EscalationStore) :
    Bool × EscalationStore :=
  if fault = some .recipients then (false, s)
  else
    let unique := s.desk.unique toLowerCase task
    if unique.isEmpty then (true, s)
    else if fault = some .record then (false, s)
    else if isRecorded s task.key then (true, s)
    else notifyAll toLowerCase task unique (EscalationFault.number fault) (record task s)

def escalateAll (faults : RunFaults) : List Task → EscalationStore → EscalationStore
  | [], s => s
  | task :: rest, s =>
    let outcome := queueSlaEscalation toLowerCase (faults.escalation task.key) task s
    if outcome.1 then escalateAll faults rest outcome.2 else outcome.2

def tasks (s : EscalationStore) : List Task :=
  (selected s).flatMap (tasksOf s.now)

def processSlaEscalations (faults : RunFaults) (s : EscalationStore) : EscalationStore :=
  if faults.select then s else escalateAll toLowerCase faults (tasks s) s

inductive DeskEvent where
  | run (faults : RunFaults)
  | elapse (milliseconds : Nat)
  /-- Whatever else the application does. -/
  | change (desk : Desk)

def nextDesk (event : DeskEvent) (s : EscalationStore) : EscalationStore :=
  match event with
  | .run faults => processSlaEscalations toLowerCase faults s
  | .elapse milliseconds => { s with now := s.now + milliseconds }
  | .change desk => { s with desk := desk }

end Runs

/-!
Escalation on time and once. A level is recorded at most once whatever happens. That a run escalates
all that is due, and that what it records has been notified, depends on how far the run comes: it
takes the selected tickets in their order and ends at the first escalation that throws, which may
have recorded its level before.
-/

variable (toLowerCase : String → String)

section Law

def opened (desk : Desk) (now : Int) : EscalationStore :=
  ⟨desk, now, [], []⟩

def Recorded (s : EscalationStore) (key : String × Level) : Prop :=
  ∃ row ∈ s.escalations, row.key = key

def Notified (s : EscalationStore) (key : String × Level) (address : String) : Prop :=
  ∃ row ∈ s.notifications, row.key = key ∧ row.recipientEmail = address

def Task.Holds (task : Task) (now : Int) : Prop :=
  match task.level with
  | .breached => task.sla.resolutionTimeMin ≤ task.ticket.ageMinutes now
  | .atRisk => task.sla.riskMin ≤ task.ticket.minutesOpen now ∧
      task.ticket.ageMinutes now < task.sla.resolutionTimeMin
  | .managerEscalation => isLate task.sla (task.ticket.ageMinutes now) = true

/-- The ticket is on the desk, with this rule. -/
structure OnDesk (s : EscalationStore) (task : Task) : Prop where
  ticket : task.ticket ∈ s.desk.tickets
  sla : s.desk.slaOf task.ticket = some task.sla

structure Due (s : EscalationStore) (task : Task) : Prop extends OnDesk s task where
  isOpen : task.ticket.isOpen = true
  holds : task.Holds s.now

/-- A run escalates what is due, and what it records has its mails in the queue. -/
def OnTime : DeskEvent → EscalationStore → Prop
  | .run faults, s =>
    (∀ task, Due s task → Recorded (processSlaEscalations toLowerCase faults s) task.key) ∧
      ∀ task, OnDesk s task → ¬ Recorded s task.key →
        Recorded (processSlaEscalations toLowerCase faults s) task.key →
          ∀ entry ∈ s.desk.unique toLowerCase task,
            Notified (processSlaEscalations toLowerCase faults s) task.key entry.1
  | .elapse _, _ | .change _, _ => True

end Law

section Condition

def stops (faults : RunFaults) (s : EscalationStore) (task : Task) : Bool :=
  faults.escalation task.key = some .recipients ||
    (!(s.desk.unique toLowerCase task).isEmpty && faults.escalation task.key = some .record)

def misses (unique : List (String × Recipient)) (number : Option Nat) : Bool :=
  number.any (· < unique.length) || unique.any fun entry => entry.1 = ""

def breaks (faults : RunFaults) (s : EscalationStore) (task : Task) : Bool :=
  !stops toLowerCase faults s task && !isRecorded s task.key &&
    misses (s.desk.unique toLowerCase task)
      (EscalationFault.number (faults.escalation task.key))

def passes (faults : RunFaults) (s : EscalationStore) (task : Task) : Bool :=
  !stops toLowerCase faults s task && !breaks toLowerCase faults s task

def started (faults : RunFaults) (s : EscalationStore) : List Task :=
  if faults.select then [] else tasks s

/-- Each level that is due and not recorded is of a ticket the query selects, has somebody to know,
and comes before the first escalation that throws; and that one has not recorded its level. -/
def Sound : DeskEvent → EscalationStore → Prop
  | .run faults, s =>
    (∀ task, Due s task → ¬ Recorded s task.key →
      task ∈ (started faults s).takeWhile (passes toLowerCase faults s) ∧
        s.desk.unique toLowerCase task ≠ []) ∧
      ∀ task, ((started faults s).dropWhile (passes toLowerCase faults s)).head? = some task →
        breaks toLowerCase faults s task = false
  | .elapse _, _ | .change _, _ => True

end Condition

section Recipients

/-- The addresses are those of the recipients they stand by, each once. -/
structure Addressed (unique : List (String × Recipient)) : Prop where
  nodup : (unique.map Prod.fst).Nodup
  address : ∀ entry ∈ unique, entry.1 = normalizeEmail toLowerCase entry.2.email

variable {toLowerCase}

theorem Addressed.tail {entry : String × Recipient} {unique : List (String × Recipient)}
    (h : Addressed toLowerCase (entry :: unique)) : Addressed toLowerCase unique :=
  ⟨(List.nodup_cons.mp h.nodup).2, fun other hother => h.address other (.tail _ hother)⟩

theorem Addressed.ne_head {entry other : String × Recipient} {unique : List (String × Recipient)}
    (h : Addressed toLowerCase (entry :: unique)) (hother : other ∈ unique) :
    entry.1 ≠ other.1 :=
  fun heq => (List.nodup_cons.mp h.nodup).1 (heq ▸ List.mem_map_of_mem hother)

theorem addressed_foldl (recipients : List Recipient) {unique : List (String × Recipient)}
    (h : Addressed toLowerCase unique) :
    Addressed toLowerCase (recipients.foldl (fun unique recipient =>
      put (normalizeEmail toLowerCase recipient.email) recipient unique) unique) := by
  induction recipients generalizing unique with
  | nil => exact h
  | cons recipient recipients ih =>
    apply ih
    refine ⟨nodup_put h.nodup _ _, fun entry hentry => ?_⟩
    obtain rfl | hentry := mem_put hentry
    · rfl
    · exact h.address entry hentry

theorem addressed_unique (desk : Desk) (task : Task) :
    Addressed toLowerCase (desk.unique toLowerCase task) :=
  addressed_foldl _ ⟨List.nodup_nil, fun _ hentry => by cases hentry⟩

end Recipients

section Mails

variable {toLowerCase}

theorem misses_nil (number : Option Nat) : misses [] number = false := by
  cases number <;> rfl

theorem misses_cons (entry : String × Recipient) (rest : List (String × Recipient))
    (number : Option Nat) : misses (entry :: rest) number =
      (number = some 0 || entry.1 = "" || misses rest (number.map (· - 1))) := by
  cases number with
  | none => simp [misses]
  | some n =>
    cases n with
    | zero => simp [misses]
    | succ n => simp [misses, Bool.or_left_comm]

theorem notifyAll_frame (task : Task) (unique : List (String × Recipient)) (fault : Option Nat)
    (s : EscalationStore) :
    (notifyAll toLowerCase task unique fault s).2 =
      { s with
        notifications := (notifyAll toLowerCase task unique fault s).2.notifications } := by
  induction unique generalizing fault s with
  | nil => rfl
  | cons entry rest ih =>
    rw [notifyAll]
    split
    · rfl
    · exact ih _ _

theorem notifyAll_fst {task : Task} {unique : List (String × Recipient)}
    (h : Addressed toLowerCase unique) (fault : Option Nat) (s : EscalationStore) :
    (notifyAll toLowerCase task unique fault s).1 = !misses unique fault := by
  induction unique generalizing fault s with
  | nil => rw [misses_nil]; rfl
  | cons entry rest ih =>
    rw [notifyAll, misses_cons, h.address entry List.mem_cons_self]
    split
    next hfault => rw [hfault]; rfl
    next hfault =>
      rw [Bool.not_eq_true] at hfault
      rw [ih h.tail, hfault, Bool.false_or]

theorem notified_enqueue {task : Task} {address : String} {recipient : Recipient}
    {s : EscalationStore} {key : String × Level} {other : String} :
    Notified (enqueueEscalation task address recipient s) key other ↔
      (task.key = key ∧ address = other) ∨ Notified s key other := by
  simp [Notified, enqueueEscalation, Notification.key, Task.key]

theorem Notified.notifyAll {task : Task} {s : EscalationStore} {key : String × Level}
    {address : String} (h : Notified s key address) (unique : List (String × Recipient))
    (fault : Option Nat) : Notified (notifyAll toLowerCase task unique fault s).2 key address := by
  induction unique generalizing fault s with
  | nil => exact h
  | cons entry rest ih =>
    rw [Escalations.notifyAll]
    split
    · exact h
    · exact ih (notified_enqueue.mpr (.inr h)) _

theorem notified_all {task : Task} {unique : List (String × Recipient)}
    (haddressed : Addressed toLowerCase unique) {fault : Option Nat} {s : EscalationStore}
    (h : (notifyAll toLowerCase task unique fault s).1 = true) {entry : String × Recipient}
    (hentry : entry ∈ unique) :
    Notified (notifyAll toLowerCase task unique fault s).2 task.key entry.1 := by
  induction unique generalizing fault s with
  | nil => cases hentry
  | cons head rest ih =>
    rw [notifyAll] at h ⊢
    split at h
    · cases h
    next hfault =>
      rw [if_neg hfault]
      obtain rfl | hrest := List.mem_cons.mp hentry
      · apply Notified.notifyAll
        have haddress := haddressed.address entry List.mem_cons_self
        exact notified_enqueue.mpr (.inl ⟨rfl, haddress.symm⟩)
      · exact ih haddressed.tail h hrest

theorem not_notified_rest {task : Task} {head : String × Recipient}
    {rest : List (String × Recipient)} (haddressed : Addressed toLowerCase (head :: rest))
    {s : EscalationStore} (hnone : ∀ entry ∈ head :: rest, ¬ Notified s task.key entry.1) :
    ∀ entry ∈ rest, ¬ Notified (enqueueEscalation task
      (normalizeEmail toLowerCase head.2.email) head.2 s) task.key entry.1 := by
  intro entry hentry hnotified
  obtain ⟨-, haddress⟩ | hnotified := notified_enqueue.mp hnotified
  · apply haddressed.ne_head hentry
    exact (haddressed.address head List.mem_cons_self).trans haddress
  · exact hnone entry (.tail _ hentry) hnotified

theorem not_notified_all {task : Task} {unique : List (String × Recipient)}
    (haddressed : Addressed toLowerCase unique) {fault : Option Nat} {s : EscalationStore}
    (hnone : ∀ entry ∈ unique, ¬ Notified s task.key entry.1)
    (h : (notifyAll toLowerCase task unique fault s).1 = false) :
    ∃ entry ∈ unique, ¬ Notified (notifyAll toLowerCase task unique fault s).2 task.key entry.1 := by
  induction unique generalizing fault s with
  | nil => cases h
  | cons head rest ih =>
    rw [notifyAll] at h ⊢
    split
    · exact ⟨head, List.mem_cons_self, hnone head List.mem_cons_self⟩
    next hfault =>
      rw [if_neg hfault] at h
      obtain ⟨entry, hentry, hnot⟩ := ih haddressed.tail (not_notified_rest haddressed hnone) h
      exact ⟨entry, .tail _ hentry, hnot⟩

end Mails
end FieldserviceIT.Notifications.Escalations
