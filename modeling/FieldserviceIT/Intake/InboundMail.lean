import FieldserviceIT.Intake.Numbers

/-!
Mail that is delivered again. A delivery looks its message up, writes a ticket or a comment,
and records the message, in statements of their own. What was written for a message counts
the tickets and the comments that carry it.
-/

namespace FieldserviceIT.Intake

open Common Lib Tickets

def writes (message : String) (s : Office) : Nat :=
  (s.tickets.countP fun ticket => ticket.fromMessage = some message) +
    s.timeline.countP fun entry => entry.fromMessage = some message

/-- A message leads to one ticket or comment, and has led to it when it is answered for; a
mail becomes a comment only if its sender takes part in the ticket. -/
structure AppliedOnce (s : Office) : Prop where
  once : ∀ message, writes message s ≤ 1
  answered : ∀ message ∈ s.answered, writes message s = 1
  participants : ∀ entry ∈ s.timeline, ∀ sender, entry.sender = some sender →
    ∃ ticket ∈ s.tickets, ticket.id = entry.ticketId ∧ sender ∈ participants ticket s

/-- Something was written for the message: it waits for its record, or has it. -/
def Written (message : String) (s : Office) : Prop :=
  message ∈ s.unrecorded ∨ ∃ row ∈ s.messages, row.recordedFor = message

section Conditions

variable (P : IntakePlatform)

def writesFor (op : IntakeOp) (s : Office) : Option String :=
  match op with
  | .insert _ _ ticketNumber _ message => if isTaken P ticketNumber s then none else message
  | .addEntry entry => entry.fromMessage
  | _ => none

/-- A delivery writes for a message that nothing was written for, and is answered as a
duplicate for the record of its own message. -/
def HandledInOrder (op : IntakeOp) (s : Office) : Prop :=
  (∀ message, writesFor P op s = some message → ¬ Written message s) ∧
    match op with
    | .reply message found =>
      ∀ row, found = some row → message = some row.recordedFor
    | _ => True

end Conditions

/-- What a store of mail keeps. -/
structure MailKept (s : Office) : Prop where
  law : AppliedOnce s
  written : ∀ message, Written message s ↔ 1 ≤ writes message s

/-- What a delivery knows: its sender takes part in the ticket it comments on, it has
written for the message it records, and for the one it is answered for, unless there was a
row. -/
def Meets (op : IntakeOp) (s : Office) : Prop :=
  match op with
  | .addEntry entry => ∀ sender, entry.sender = some sender →
      ∃ ticket ∈ s.tickets, ticket.id = entry.ticketId ∧ sender ∈ participants ticket s
  | .record row => 1 ≤ writes row.recordedFor s
  | .reply message found => ∀ text, message = some text →
      1 ≤ writes text s ∨ ∃ row ∈ s.messages, found = some row
  | _ => True

/-- Nothing that was written or recorded goes away. -/
structure MailOnward (s s' : Office) : Prop where
  users : s'.users = s.users
  tickets : Carried (fun ticket ticket' => ticket'.id = ticket.id ∧ ticket'.data = ticket.data)
    s.tickets s'.tickets
  messages : ∀ row ∈ s.messages, row ∈ s'.messages
  writes : ∀ message, writes message s ≤ writes message s'

section Onward

variable {P : IntakePlatform} {s s' : Office}

theorem MailOnward.refl (s : Office) : MailOnward s s :=
  ⟨rfl, Carried.refl (fun _ => ⟨rfl, rfl⟩) _, fun _ h => h, fun _ => Nat.le_refl _⟩

theorem MailOnward.trans {s'' : Office} (h : MailOnward s s') (h' : MailOnward s' s'') :
    MailOnward s s'' where
  users := h'.users.trans h.users
  tickets := h.tickets.trans
    (fun hab hbc => ⟨hbc.1.trans hab.1, hbc.2.trans hab.2⟩) h'.tickets
  messages row hrow := h'.messages row (h.messages row hrow)
  writes message := Nat.le_trans (h.writes message) (h'.writes message)

theorem MailOnward.participant (h : MailOnward s s') {ticketId sender : String}
    (hsender : ∃ ticket ∈ s.tickets, ticket.id = ticketId ∧ sender ∈ participants ticket s) :
    ∃ ticket ∈ s'.tickets, ticket.id = ticketId ∧ sender ∈ participants ticket s' := by
  obtain ⟨ticket, hticket, hid, hmem⟩ := hsender
  obtain ⟨ticket', hticket', hid', hdata⟩ := h.tickets ticket hticket
  refine ⟨ticket', hticket', hid'.trans hid, ?_⟩
  rw [participants, hdata, h.users]
  exact hmem

theorem writes_exec (op : IntakeOp) (s : Office) (message : String) :
    writes message (execIntake P op s) =
      writes message s + if writesFor P op s = some message then 1 else 0 := by
  cases op with
  | insert data counting ticketNumber seen message' =>
    simp only [execIntake, writesFor]
    split
    · rfl
    · simp only [writes, List.countP_append, List.countP_singleton, newTicket, decide_eq_true_eq]
      omega
  | addEntry entry =>
    by_cases hentry : entry.fromMessage = some message
    · simp [execIntake, writesFor, writes, hentry, Nat.add_assoc]
    · simp [execIntake, writesFor, writes, hentry]
  | record row =>
    simp only [execIntake, writesFor]
    split <;> rfl
  | remove ticketId =>
    have hsame : (updateWhere (fun ticket : IntakeTicket => decide (ticket.id = ticketId))
        (fun ticket => { ticket with deletedAt := some s.now }) s.tickets).map
          IntakeTicket.fromMessage = s.tickets.map IntakeTicket.fromMessage :=
      map_updateWhere_key fun _ _ => rfl
    have hcount : ∀ tickets : List IntakeTicket,
        (tickets.countP fun ticket => ticket.fromMessage = some message) =
          (tickets.map IntakeTicket.fromMessage).countP fun other => other = some message := by
      intro tickets
      rw [List.countP_map]
      rfl
    simp only [execIntake, writesFor, writes, hcount, hsame]
    rfl
  | _ => rfl

theorem mailOnward_exec (op : IntakeOp) (s : Office) : MailOnward s (execIntake P op s) := by
  have hwrites : ∀ message, writes message s ≤ writes message (execIntake P op s) := by
    intro message
    rw [writes_exec]
    exact Nat.le_add_right _ _
  have hrefl : ∀ ticket : IntakeTicket, ticket.id = ticket.id ∧ ticket.data = ticket.data :=
    fun _ => ⟨rfl, rfl⟩
  cases op with
  | insert data counting ticketNumber seen message =>
    simp only [execIntake] at hwrites ⊢
    split
    · exact ⟨rfl, Carried.refl hrefl _, fun _ h => h, fun _ => Nat.le_refl _⟩
    next hfree =>
      rw [if_neg hfree] at hwrites
      exact ⟨rfl, Carried.append hrefl _ _, fun _ h => h, hwrites⟩
  | record row =>
    simp only [execIntake]
    split
    · exact MailOnward.refl s
    · exact ⟨rfl, Carried.refl hrefl _, fun _ h => List.mem_append_left _ h,
        fun _ => Nat.le_refl _⟩
  | remove ticketId =>
    exact ⟨rfl, Carried.updateWhere hrefl fun _ _ _ => ⟨rfl, rfl⟩, fun _ h => h, hwrites⟩
  | _ => exact ⟨rfl, Carried.refl hrefl _, fun _ h => h, hwrites⟩

end Onward

section Deliveries

variable (P : IntakePlatform)

/-- The program meets what is asked of its statements, whatever happens in between. -/
abbrev Follows (p : IntakeProgram) (s : Office) : Prop :=
  p.Safe (intakeSystem P) (fun _ _ => True) MailKept MailOnward Meets (fun _ => True) s

def WrittenFor (body : InboundBody) (s : Office) : Prop :=
  ∀ message, body.providerMessageId = some message → 1 ≤ writes message s

variable {P} {s : Office} {fact : Office → Prop}

theorem follows_under (hstable : ∀ {s s'}, MailOnward s s' → fact s → fact s') {p : IntakeProgram}
    (h : p.All fun op => ∀ s, fact s → Meets op s) (hfact : fact s) : Follows P p s :=
  Prog.safe_under fact hstable (fun _ _ _ => mailOnward_exec _ _) h hfact

theorem follows_of_all {p : IntakeProgram} (h : p.All fun op => ∀ s, True → Meets op s) :
    Follows P p s :=
  follows_under (fun _ hfact => hfact) h trivial

theorem follows_read {next : Office → IntakeProgram}
    (h : ∀ s', MailKept s' → Follows P (next s') s') : Follows P (.step .read next) s :=
  fun s' _ hinv _ => ⟨trivial, h s' hinv⟩

theorem writtenFor_later {body : InboundBody} {s s' : Office} (h : MailOnward s s')
    (hwritten : WrittenFor body s) : WrittenFor body s' :=
  fun message hmessage => Nat.le_trans (hwritten message hmessage) (h.writes message)

theorem all_replyToMail_written (body : InboundBody) :
    (replyToMail body).All fun op => ∀ s, WrittenFor body s → Meets op s :=
  Prog.all_step (fun _ hwritten text htext => .inl (hwritten text htext)) fun _ => trivial

theorem all_recordMessage_written (body : InboundBody) (senderEmail ticketId : String)
    {rest : IntakeProgram} (hrest : rest.All fun op => ∀ s, WrittenFor body s → Meets op s) :
    (recordMessage body senderEmail ticketId rest).All fun op =>
      ∀ s, WrittenFor body s → Meets op s := by
  rw [recordMessage]
  split
  next message hmessage =>
    exact Prog.all_step (fun _ hwritten => hwritten message hmessage) fun _ => hrest
  next => exact hrest

theorem writtenFor_exec {body : InboundBody} {op : IntakeOp}
    (hop : writesFor P op s = body.providerMessageId) : WrittenFor body (execIntake P op s) := by
  intro message hmessage
  rw [writes_exec, if_pos (hop.trans hmessage)]
  exact Nat.le_add_left 1 _

theorem follows_addReply {body : InboundBody} {senderEmail : String} {ticket : IntakeTicket}
    (hsender : ∃ other ∈ s.tickets, other.id = ticket.id ∧ senderEmail ∈ participants other s) :
    Follows P (addReply body senderEmail ticket) s := by
  intro s' honward _ _
  refine ⟨trivial, fun s'' honward' _ _ => ⟨?_, ?_⟩⟩
  · intro sender hsame
    obtain rfl := Option.some.inj hsame
    exact (honward.trans honward').participant hsender
  · refine follows_under writtenFor_later (all_recordMessage_written body _ _
      (all_replyToMail_written body)) (writtenFor_exec rfl)

theorem follows_openFromMail (body : InboundBody) (senderEmail : String) :
    Follows P (openFromMail P body senderEmail) s := by
  refine follows_read fun s' _ => ?_
  split
  · exact follows_of_all trivial
  · refine follows_read fun s'' _ => fun s₃ _ _ _ => ⟨trivial, ?_⟩
    simp only
    split
    · exact follows_of_all trivial
    next hfree =>
      refine follows_under writtenFor_later (all_recordMessage_written body _ _ ?_)
        (writtenFor_exec (if_neg hfree))
      refine Prog.all_step (fun _ _ sender hsender => ?_) fun _ => all_replyToMail_written body
      cases hsender

theorem follows_workOnMail (body : InboundBody) (senderEmail : String) :
    Follows P (workOnMail P body senderEmail) s := by
  refine follows_read fun s' _ => ?_
  split
  next ticket hticket =>
    split
    next hsender =>
      refine follows_addReply ⟨ticket, ?_, rfl, List.contains_iff_mem.mp hsender⟩
      rw [ticketOfMail] at hticket
      split at hticket
      · exact List.mem_of_find?_eq_some hticket
      · split at hticket
        · obtain ⟨delivery, -, hfound⟩ := List.exists_of_findSome?_eq_some hticket
          exact List.mem_of_find?_eq_some hfound
        · cases hticket
    next => exact follows_of_all trivial
  next => exact follows_openFromMail body senderEmail

theorem follows_inboundEmail (body : InboundBody) : Follows P (inboundEmail P body) s := by
  rw [inboundEmail]
  split
  · exact follows_of_all trivial
  · split
    next message hmessage =>
      refine fun s' _ _ _ => ⟨trivial, ?_⟩
      simp only
      split
      next found hfound =>
        refine fun s'' honward _ _ => ⟨?_, follows_of_all trivial⟩
        intro text _
        exact .inr ⟨found, honward.messages found (List.mem_of_find?_eq_some hfound), rfl⟩
      next => exact follows_workOnMail body _
    next => exact follows_workOnMail body _

end Deliveries

section Others

variable {P : IntakePlatform} {s : Office}

/-- Nothing is asked of the statement. -/
abbrev Unasked (op : IntakeOp) : Prop :=
  ∀ s, True → Meets op s

theorem unasked_entry (ticketId actorId action comment : String) :
    Unasked (.addEntry (entry ticketId actorId action comment)) := by
  intro _ _ sender hsender
  cases hsender

theorem all_insertTicket {data : TicketData} {counting : Counting} {ticketNumber : String}
    {seen : Nat} {message : Option String} {rest : String → IntakeProgram}
    (hrest : ∀ id, (rest id).All Unasked) :
    (insertTicket P data counting ticketNumber seen message rest).All Unasked := by
  refine Prog.all_step (fun _ _ => trivial) fun s => ?_
  split
  · trivial
  · exact hrest _

theorem all_insertCounted {data : TicketData} {counting : Counting} {message : Option String}
    {rest : String → IntakeProgram} (hrest : ∀ id, (rest id).All Unasked) :
    (insertCounted P data counting message rest).All Unasked :=
  Prog.all_step (fun _ _ => trivial) fun _ => all_insertTicket hrest

theorem all_nextTicketNumber {stem : String} {k : String → Nat → IntakeProgram}
    (hk : ∀ ticketNumber seen, (k ticketNumber seen).All Unasked) (attempts next : Nat) :
    (nextTicketNumber P stem k attempts next).All Unasked := by
  induction attempts generalizing next with
  | zero => exact Prog.all_step (fun _ _ => trivial) fun _ => hk _ _
  | succ attempts ih =>
    refine Prog.all_step (fun _ _ => trivial) fun s => ?_
    split
    · exact ih (next + 1)
    · exact hk _ _

theorem all_insertProbed {data : TicketData} {counting : Counting}
    {rest : String → IntakeProgram} (hrest : ∀ id, (rest id).All Unasked) :
    (insertProbed P data counting rest).All Unasked :=
  Prog.all_step (fun _ _ => trivial) fun _ =>
    all_nextTicketNumber (fun _ _ => all_insertTicket hrest) _ _

theorem all_withAlertUser {alert : RmmAlert} {companyId : String} {k : String → IntakeProgram}
    (hk : ∀ userId, (k userId).All Unasked) : (withAlertUser alert companyId k).All Unasked := by
  rw [withAlertUser]
  split
  · exact hk _
  · refine Prog.all_step (fun _ _ => trivial) fun s => ?_
    split
    · exact hk _
    · refine Prog.all_step (fun _ _ => trivial) fun s => ?_
      split
      · exact hk _
      · trivial

theorem follows_handler (request : IntakeRequest) :
    Follows P ((intakeSystem P).handler request) s := by
  have hentry : ∀ ticketId actorId action comment,
      (Prog.step (.addEntry (entry ticketId actorId action comment)) fun _ =>
        (.done : IntakeProgram)).All Unasked :=
    fun ticketId actorId action comment =>
      Prog.all_step (unasked_entry ticketId actorId action comment) fun _ => trivial
  cases request with
  | create data companyId userId userType =>
    simp only [intakeSystem, IntakeRequest.handler, create]
    split
    · exact follows_of_all trivial
    · exact follows_of_all (all_insertProbed fun _ => hentry _ _ _ _)
  | agentCreateTicket data companyId userId =>
    simp only [intakeSystem, IntakeRequest.handler, agentCreateTicket]
    split
    · exact follows_of_all trivial
    · exact follows_of_all (all_insertProbed fun _ => trivial)
  | createAlertTicket alert =>
    refine follows_read fun s' _ => ?_
    split
    · exact follows_of_all trivial
    · refine follows_read fun s'' _ => ?_
      split
      · exact follows_of_all trivial
      · exact follows_of_all (all_insertCounted fun _ => trivial)
  | createTicketFromAlert alert companyId =>
    simp only [intakeSystem, IntakeRequest.handler, createTicketFromAlert]
    exact follows_of_all (all_withAlertUser fun _ => all_insertCounted fun _ => hentry _ _ _ _)
  | inboundEmail body => exact follows_inboundEmail body
  | remove ticketId => exact follows_of_all (Prog.all_step (fun _ _ => trivial) fun _ => trivial)

end Others

section Runs

variable {P : IntakePlatform} {s : Office}

theorem MailKept.not_written (h : MailKept s) {message : String} (hnot : ¬ Written message s) :
    writes message s = 0 := by
  rw [h.written] at hnot
  omega

theorem written_exec (h : MailKept s) {op : IntakeOp} (hmeets : Meets op s) (message : String) :
    Written message (execIntake P op s) ↔
      Written message s ∨ writesFor P op s = some message := by
  cases op with
  | insert data counting ticketNumber seen message' =>
    simp only [execIntake, writesFor]
    split
    · simp [Written]
    · simp only [Written, List.mem_append, Option.mem_toList]
      rw [or_assoc, or_comm]
  | addEntry entry =>
    simp only [execIntake, writesFor, Written, List.mem_append, Option.mem_toList]
    rw [or_assoc, or_comm]
  | record row =>
    have hrow := (h.written row.recordedFor).mpr hmeets
    simp only [execIntake, writesFor, reduceCtorEq, or_false]
    split
    · exact Iff.rfl
    · by_cases hsame : message = row.recordedFor
      · subst hsame
        refine iff_of_true (.inr ⟨row, ?_, rfl⟩) hrow
        exact List.mem_append_right _ (List.mem_singleton.mpr rfl)
      · simp [Written, hsame, Ne.symm hsame, or_and_right, exists_or]
  | reply message' found => simp [execIntake, writesFor, Written]
  | remove ticketId => simp [execIntake, writesFor, Written]
  | _ => simp [execIntake, writesFor]

theorem written_of_answered (h : MailKept s) {op : IntakeOp} (hmeets : Meets op s)
    (hallowed : HandledInOrder P op s) {message : String}
    (hanswered : message ∈ (execIntake P op s).answered) : 1 ≤ writes message s := by
  have hold : message ∈ s.answered → 1 ≤ writes message s :=
    fun hmem => Nat.le_of_eq (h.law.answered message hmem).symm
  cases op with
  | insert data counting ticketNumber seen message' =>
    simp only [execIntake] at hanswered
    split at hanswered <;> exact hold hanswered
  | record row =>
    simp only [execIntake] at hanswered
    split at hanswered <;> exact hold hanswered
  | reply message' found =>
    obtain hnew | hmem := List.mem_append.mp hanswered
    · have hmessage : message' = some message := Option.mem_toList.mp hnew
      obtain hwritten | ⟨row, hrow, hfound⟩ := hmeets message hmessage
      · exact hwritten
      · have hsame := hallowed.2 row hfound
        obtain rfl := Option.some.inj (hmessage.symm.trans hsame)
        exact (h.written _).mp (.inr ⟨row, hrow, rfl⟩)
    · exact hold hmem
  | _ => exact hold hanswered

theorem participants_exec (h : MailKept s) {op : IntakeOp} (hmeets : Meets op s)
    {entry : TimelineEntry} (hentry : entry ∈ (execIntake P op s).timeline) {sender : String}
    (hsender : entry.sender = some sender) :
    ∃ ticket ∈ (execIntake P op s).tickets, ticket.id = entry.ticketId ∧
      sender ∈ participants ticket (execIntake P op s) := by
  refine (mailOnward_exec op s).participant ?_
  have hold : entry ∈ s.timeline → ∃ ticket ∈ s.tickets, ticket.id = entry.ticketId ∧
      sender ∈ participants ticket s :=
    fun hmem => h.law.participants entry hmem sender hsender
  cases op with
  | insert data counting ticketNumber seen message' =>
    simp only [execIntake] at hentry
    split at hentry <;> exact hold hentry
  | record row =>
    simp only [execIntake] at hentry
    split at hentry <;> exact hold hentry
  | addEntry new =>
    obtain hmem | hnew := List.mem_append.mp hentry
    · exact hold hmem
    · obtain rfl := List.mem_singleton.mp hnew
      exact hmeets sender hsender
  | _ => exact hold hentry

theorem mailKept_exec (h : MailKept s) {op : IntakeOp} (hmeets : Meets op s)
    (hallowed : HandledInOrder P op s) : MailKept (execIntake P op s) := by
  have honce : ∀ message, writes message (execIntake P op s) ≤ 1 := by
    intro message
    rw [writes_exec]
    split
    next hwrites =>
      have hnone := h.not_written (hallowed.1 message hwrites)
      omega
    next => exact h.law.once message
  refine ⟨⟨honce, fun message hanswered => ?_, fun entry hentry sender hsender =>
    participants_exec h hmeets hentry hsender⟩, fun message => ?_⟩
  · have hbefore := written_of_answered h hmeets hallowed hanswered
    have hafter := (mailOnward_exec (P := P) op s).writes message
    have hone := honce message
    omega
  · rw [written_exec h hmeets, writes_exec, h.written]
    split <;> simp_all

/-- Where the law holds, a statement that writes for a message keeps it exactly when nothing
was written for the message. -/
theorem appliedOnce_exec_iff (h : MailKept s) {op : IntakeOp} (hmeets : Meets op s)
    (hwrites : (writesFor P op s).isSome = true) :
    AppliedOnce (execIntake P op s) ↔ HandledInOrder P op s := by
  refine ⟨fun hlaw => ⟨fun message hmessage hwritten => ?_, ?_⟩,
    fun hallowed => (mailKept_exec h hmeets hallowed).law⟩
  · have honce := hlaw.once message
    rw [writes_exec, if_pos hmessage] at honce
    have hsome := (h.written message).mp hwritten
    omega
  · cases op with
    | reply message found => cases hwrites
    | _ => trivial

theorem informed_mail (P : IntakePlatform) :
    Informed (intakeSystem P) (HandledInOrder P) MailKept MailOnward Meets where
  refl := MailOnward.refl
  trans := MailOnward.trans
  exec hinv hallowed hgood := ⟨mailKept_exec hinv hgood hallowed, mailOnward_exec _ _⟩
  tick {s} hinv := by
    refine ⟨⟨⟨hinv.law.once, hinv.law.answered, hinv.law.participants⟩, hinv.written⟩, ?_⟩
    exact ⟨rfl, Carried.refl (fun _ => ⟨rfl, rfl⟩) _, fun _ h => h, fun _ => Nat.le_refl _⟩
  handler _ _ := follows_handler _

/-- A message is applied once, and has been when it is answered for, as long as deliveries
write for messages nothing was written for and are turned away for records of their own. -/
theorem inbound_mail_applied_once (P : IntakePlatform) {c₀ c : Config Office IntakeOp}
    (hidle : c₀.threads = []) (hkept : MailKept c₀.shared)
    (hrun : (intakeSystem P).Run (HandledInOrder P) c₀ c) :
    AppliedOnce c.shared ∧ ∀ op next, Prog.step op next ∈ c.threads →
      (writesFor P op c.shared).isSome = true →
        (AppliedOnce ((intakeSystem P).exec op c.shared) ↔ HandledInOrder P op c.shared) := by
  obtain ⟨hkept', hmeets⟩ := (informed_mail P).run hidle hrun hkept
  exact ⟨hkept'.law, fun op next hthread hwrites =>
    appliedOnce_exec_iff hkept' (hmeets op next hthread) hwrites⟩

end Runs

section Samples

def mailStart : Config Office IntakeOp :=
  ⟨{ officeStart.shared with
      tickets := [⟨"ticket-1", "TKT-C0FF-00001",
        { sampleTicketData with contactEmail := some "ana@example.org", createdById := "user-3" },
        "OPEN", none, none, none⟩] }, []⟩

theorem mailKept_mailStart : MailKept mailStart.shared := by
  have hnone : ∀ message, writes message mailStart.shared = 0 := fun _ => rfl
  refine ⟨⟨fun message => ?_, fun message hanswered => absurd hanswered List.not_mem_nil,
    fun entry hentry => absurd hentry List.not_mem_nil⟩, fun message => ?_⟩
  · rw [hnone]
    exact Nat.zero_le 1
  · rw [hnone]
    refine iff_of_false ?_ (by omega)
    rintro (hmem | ⟨row, hrow, -⟩)
    · exact absurd hmem List.not_mem_nil
    · exact absurd hrow List.not_mem_nil

/-- `Written`, as a test. -/
def isWritten (message : String) (s : Office) : Bool :=
  s.unrecorded.contains message || s.messages.any fun row => decide (row.recordedFor = message)

/-- `HandledInOrder`, as a test. -/
def isHandledInOrder (P : IntakePlatform) (op : IntakeOp) (s : Office) : Bool :=
  (writesFor P op s).all (fun message => !isWritten message s) &&
    match op with
    | .reply message found => found.all fun row => decide (message = some row.recordedFor)
    | _ => true

theorem isWritten_iff {message : String} {s : Office} :
    isWritten message s = true ↔ Written message s := by
  simp [isWritten, Written]

theorem handledInOrder_of_test {P : IntakePlatform} {op : IntakeOp} {s : Office}
    (h : isHandledInOrder P op s = true) : HandledInOrder P op s := by
  obtain ⟨hwrites, hreply⟩ := Bool.and_eq_true_iff.mp h
  constructor
  · intro message hmessage hwritten
    rw [hmessage, Option.all_some, isWritten_iff.mpr hwritten] at hwrites
    cases hwrites
  · cases op with
    | reply message found =>
      intro row hrow
      subst hrow
      exact of_decide_eq_true hreply
    | _ => trivial

def sampleReply : InboundBody :=
  ⟨true, "Ana <ana@example.org>", some "Re: TKT-C0FF-00001", some "Thanks", none, some "m-1", none⟩

/-- The reply is delivered twice, the second time after the first was worked off. -/
theorem inbound_mail_applied_once_twice : ∃ c, (intakeSystem samplePlatform).Run
    (HandledInOrder samplePlatform) mailStart c ∧ c.shared.answered = ["m-1", "m-1"] ∧
      AppliedOnce c.shared := by
  have hplay : ((intakeSystem samplePlatform).play (fun _ _ => true)
      (isHandledInOrder samplePlatform) mailStart
      [.start (.inboundEmail sampleReply), .run 0, .run 0, .run 0, .run 0, .run 0, .run 0,
        .start (.inboundEmail sampleReply), .run 1, .run 1]).any (fun c =>
          decide (c.shared.answered = ["m-1", "m-1"])) = true := by
    decide
  obtain ⟨c, hrun, hcheck⟩ := System.exists_run_of_play (fun _ _ _ => trivial)
    (fun _ _ => handledInOrder_of_test) hplay
  exact ⟨c, hrun, of_decide_eq_true hcheck,
    (inbound_mail_applied_once samplePlatform rfl mailKept_mailStart hrun).1⟩

/-- Two deliveries of the reply look it up before either of them has recorded it. -/
theorem inbound_mail_applied_twice : ¬ ∀ (P : IntakePlatform) (c₀ c : Config Office IntakeOp),
    c₀.threads = [] → MailKept c₀.shared → (intakeSystem P).Run (fun _ _ => True) c₀ c →
      AppliedOnce c.shared := by
  intro hall
  have hplay : ((intakeSystem samplePlatform).play (fun _ _ => true) (fun _ _ => true) mailStart
      [.start (.inboundEmail sampleReply), .start (.inboundEmail sampleReply), .run 0, .run 1,
        .run 0, .run 0, .run 0, .run 1, .run 1, .run 1]).any (fun c =>
          decide (writes "m-1" c.shared = 2)) = true := by
    decide
  obtain ⟨c, hrun, hcheck⟩ := System.exists_run_of_play (fun _ _ _ => trivial)
    (fun _ _ _ => trivial) hplay
  have honce := (hall samplePlatform mailStart c rfl mailKept_mailStart hrun).once "m-1"
  rw [of_decide_eq_true hcheck] at honce
  omega

end Samples
end FieldserviceIT.Intake
