import FieldserviceIT.Intake.Allocators

/-!
Ticket numbers. Every way to a ticket proposes a number, and the unique key refuses the
ticket if the number is taken. That it never is comes down to who else can have taken it: a
ticket since the count, or one before it that the count does not answer for.
-/

namespace FieldserviceIT.Intake

open Common Lib Tickets

section Law

variable (P : IntakePlatform)

/-- No ticket was refused, and no two tickets have one number. -/
structure NumbersUnique (s : Office) : Prop where
  refused : s.refused = []
  distinct : s.tickets.Pairwise fun ticket other =>
    P.same ticket.ticketNumber other.ticketNumber = false

/-- When a ticket is inserted, no ticket has taken its number since the number was worked
out, and whatever had it before was numbered in turn from the same count. -/
def StillFree (op : IntakeOp) (s : Office) : Prop :=
  match op with
  | .insert _ counting ticketNumber seen _ =>
    (∀ ticket ∈ s.tickets.drop seen, P.same ticket.ticketNumber ticketNumber = false) ∧
      ∀ ticket ∈ s.tickets.take seen, P.same ticket.ticketNumber ticketNumber = true →
        ticket.inTurnOf = some counting
  | _ => True

/-- Tickets numbered in turn carry numbers up to their count. -/
structure Numbered (s : Office) : Prop where
  unique : NumbersUnique P s
  inTurn : ∀ ticket ∈ s.tickets, ∀ counting, ticket.inTurnOf = some counting →
    ∃ n ≤ countOf counting s, ticket.ticketNumber = numberFor counting.stem n

/-- What an allocator knows of its number: it counts the ticket, and no ticket that was there
and was numbered in turn from its count has the number. -/
def WorkedOut (op : IntakeOp) (s : Office) : Prop :=
  match op with
  | .insert data counting ticketNumber seen _ => counting.counts data = true ∧
      ∀ ticket ∈ s.tickets.take seen, ticket.inTurnOf = some counting →
        P.same ticket.ticketNumber ticketNumber = false
  | _ => True

end Law

section Onward

def numbering (ticket : IntakeTicket) : String × Option Counting × TicketData :=
  (ticket.ticketNumber, ticket.inTurnOf, ticket.data)

/-- Tickets keep their numbers and places; new ones come at the end. -/
def Appended (s s' : Office) : Prop :=
  s.tickets.map numbering <+: s'.tickets.map numbering

variable {P : IntakePlatform} {s s' : Office}

theorem appended_of_tickets (htickets : s'.tickets = s.tickets) : Appended s s' := by
  rw [Appended, htickets]

theorem appended_exec (op : IntakeOp) (s : Office) : Appended s (execIntake P op s) := by
  cases op with
  | insert data counting ticketNumber seen message =>
    simp only [execIntake]
    split
    · exact appended_of_tickets rfl
    · rw [Appended, List.map_append]
      exact List.prefix_append _ _
  | record row =>
    simp only [execIntake]
    split <;> exact appended_of_tickets rfl
  | remove ticketId =>
    have hsame : (updateWhere (fun ticket : IntakeTicket => decide (ticket.id = ticketId))
        (fun ticket => { ticket with deletedAt := some s.now }) s.tickets).map numbering =
          s.tickets.map numbering :=
      map_updateWhere_key fun _ _ => rfl
    rw [Appended, execIntake, hsame]
  | _ => exact appended_of_tickets rfl

theorem Appended.countOf_le (h : Appended s s') (counting : Counting) :
    countOf counting s ≤ countOf counting s' := by
  have hcount : ∀ s : Office, countOf counting s =
      (s.tickets.map numbering).countP fun numbered => counting.counts numbered.2.2 := by
    intro s
    rw [List.countP_map]
    rfl
  rw [hcount, hcount]
  exact List.Sublist.countP_le h.sublist

theorem Appended.take (h : Appended s s') {seen : Nat} (hseen : seen ≤ s.tickets.length)
    {ticket : IntakeTicket} (hticket : ticket ∈ s'.tickets.take seen) :
    ∃ earlier ∈ s.tickets.take seen, numbering earlier = numbering ticket := by
  obtain ⟨more, hmore⟩ := h
  have hnumbered : numbering ticket ∈ (s.tickets.take seen).map numbering := by
    have hmem := List.mem_map_of_mem (f := numbering) hticket
    rwa [List.map_take, ← hmore, List.take_append_of_le_length (by simpa using hseen),
      ← List.map_take] at hmem
  exact List.mem_map.mp hnumbered

theorem workedOut_later (h : Appended s s') {data : TicketData} {counting : Counting}
    {ticketNumber : String} {seen : Nat} {message : Option String}
    (hseen : seen ≤ s.tickets.length)
    (hworked : WorkedOut P (.insert data counting ticketNumber seen message) s) :
    WorkedOut P (.insert data counting ticketNumber seen message) s' := by
  refine ⟨hworked.1, fun ticket hticket hturn => ?_⟩
  obtain ⟨earlier, hearlier, hsame⟩ := h.take hseen hticket
  obtain ⟨hnumber, hrest⟩ := Prod.mk.inj hsame
  obtain ⟨hturn', -⟩ := Prod.mk.inj hrest
  rw [← hnumber]
  exact hworked.2 earlier hearlier (hturn'.trans hturn)

end Onward

section Allocators

variable (P : IntakePlatform)

/-- Every insert the program comes to has its number worked out. -/
abbrev Knows (p : IntakeProgram) (s : Office) : Prop :=
  p.Safe (intakeSystem P) (fun _ _ => True) (Numbered P) Appended (WorkedOut P) (fun _ => True) s

def Quiet (op : IntakeOp) : Prop :=
  ∀ s, True → WorkedOut P op s

variable {P} {s : Office}

theorem knows_of_quiet {p : IntakeProgram} (h : p.All (Quiet P)) : Knows P p s :=
  Prog.safe_under (fun _ => True) (fun _ hfact => hfact) (fun _ _ _ => appended_exec _ _) h trivial

theorem knows_read {next : Office → IntakeProgram}
    (h : ∀ s', Numbered P s' → Knows P (next s') s') : Knows P (.step .read next) s :=
  fun s' _ hinv _ => ⟨trivial, h s' hinv⟩

theorem knows_insertTicket {data : TicketData} {counting : Counting} {ticketNumber : String}
    {seen : Nat} {message : Option String} {rest : String → IntakeProgram}
    (hseen : seen ≤ s.tickets.length)
    (hworked : WorkedOut P (.insert data counting ticketNumber seen message) s)
    (hrest : ∀ id, (rest id).All (Quiet P)) :
    Knows P (insertTicket P data counting ticketNumber seen message rest) s := by
  intro s' happended _ _
  refine ⟨workedOut_later happended hseen hworked, ?_⟩
  simp only
  split
  · exact knows_of_quiet trivial
  · exact knows_of_quiet (hrest _)

theorem knows_insertCounted {data : TicketData} {counting : Counting} {message : Option String}
    {rest : String → IntakeProgram} (hcounts : counting.counts data = true)
    (hrest : ∀ id, (rest id).All (Quiet P)) :
    Knows P (insertCounted P data counting message rest) s := by
  refine knows_read fun s' hnumbered => knows_insertTicket (Nat.le_refl _) ⟨hcounts, ?_⟩ hrest
  intro ticket hticket hturn
  obtain ⟨n, hn, hnumber⟩ := hnumbered.inTurn ticket (List.mem_of_mem_take hticket) counting hturn
  by_contra hsame
  rw [Bool.not_eq_false, hnumber] at hsame
  have hequal := P.same_number _ _ _ hsame
  omega

theorem knows_nextTicketNumber {stem : String} {k : String → Nat → IntakeProgram}
    (hk : ∀ (s : Office) ticketNumber seen, seen ≤ s.tickets.length →
      (∀ ticket ∈ s.tickets.take seen, P.same ticket.ticketNumber ticketNumber = false) →
        Knows P (k ticketNumber seen) s) (attempts next : Nat) :
    Knows P (nextTicketNumber P stem k attempts next) s := by
  induction attempts generalizing next s with
  | zero =>
    refine knows_read fun s' _ => hk s' _ 0 (Nat.zero_le _) fun ticket hticket => ?_
    rw [List.take_zero] at hticket
    exact absurd hticket List.not_mem_nil
  | succ attempts ih =>
    refine knows_read fun s' _ => ?_
    split
    next => exact ih (next + 1)
    next hfree =>
      refine hk s' _ _ (Nat.le_refl _) fun ticket hticket => ?_
      rw [isTaken, List.any_eq_true] at hfree
      by_contra hsame
      exact hfree ⟨ticket, List.mem_of_mem_take hticket, Bool.not_eq_false _ ▸ hsame⟩

theorem knows_insertProbed {data : TicketData} {counting : Counting}
    {rest : String → IntakeProgram} (hcounts : counting.counts data = true)
    (hrest : ∀ id, (rest id).All (Quiet P)) : Knows P (insertProbed P data counting rest) s := by
  refine knows_read fun s' _ => knows_nextTicketNumber (fun s ticketNumber seen hseen hfree => ?_) _ _
  exact knows_insertTicket hseen ⟨hcounts, fun ticket hticket _ => hfree ticket hticket⟩ hrest

theorem quiet_addEntry (entry : TimelineEntry) : Quiet P (.addEntry entry) :=
  fun _ _ => trivial

theorem all_addEntry (entry : TimelineEntry) :
    (Prog.step (IntakeOp.addEntry entry) fun _ => (.done : IntakeProgram)).All (Quiet P) :=
  Prog.all_step (quiet_addEntry entry) fun _ => trivial

theorem knows_create (data : TicketData) (companyId : Option String) (userId : String)
    (userType : UserType) : Knows P (create P data companyId userId userType) s := by
  rw [create]
  split
  · exact knows_of_quiet trivial
  · refine knows_insertProbed ?_ fun id => all_addEntry _
    generalize (if userType = .publicUser then none else companyId) = companyIdForTicket
    by_cases hcompany : truthy companyIdForTicket = true
    · obtain ⟨companyId, hsome, -⟩ := (Option.any_eq_true _ _).mp hcompany
      rw [if_pos hcompany, hsome]
      simp [Counting.counts]
    · simp [Counting.counts, hcompany]

theorem knows_agentCreateTicket (data : TicketData) (companyId userId : String) :
    Knows P (agentCreateTicket P data companyId userId) s := by
  rw [agentCreateTicket]
  split
  · exact knows_of_quiet trivial
  · exact knows_insertProbed (by simp [Counting.counts]) fun _ => trivial

theorem knows_createAlertTicket (alert : NetworkAlert) :
    Knows P (createAlertTicket P alert) s := by
  refine knows_read fun s' _ => ?_
  split
  · exact knows_of_quiet trivial
  · refine knows_read fun s'' _ => ?_
    split
    · exact knows_of_quiet trivial
    · exact knows_insertCounted (by simp [Counting.counts]) fun _ => trivial

theorem knows_withAlertUser {alert : RmmAlert} {companyId : String} {k : String → IntakeProgram}
    (hk : ∀ userId s, Knows P (k userId) s) : Knows P (withAlertUser alert companyId k) s := by
  rw [withAlertUser]
  split
  · exact hk _ s
  · refine knows_read fun s' _ => ?_
    split
    · exact hk _ s'
    · refine knows_read fun s'' _ => ?_
      split
      · exact hk _ s''
      · exact knows_of_quiet trivial

theorem knows_createTicketFromAlert (alert : RmmAlert) (companyId : String) :
    Knows P (createTicketFromAlert P alert companyId) s := by
  rw [createTicketFromAlert]
  refine knows_withAlertUser fun userId s' => ?_
  exact knows_insertCounted (by simp [Counting.counts]) fun _ => all_addEntry _

theorem all_recordMessage (body : InboundBody) (senderEmail ticketId : String)
    {rest : IntakeProgram} (hrest : rest.All (Quiet P)) :
    (recordMessage body senderEmail ticketId rest).All (Quiet P) := by
  rw [recordMessage]
  split
  · exact Prog.all_step (fun _ _ => trivial) fun _ => hrest
  · exact hrest

theorem all_replyToMail (body : InboundBody) : (replyToMail body).All (Quiet P) :=
  Prog.all_step (fun _ _ => trivial) fun _ => trivial

theorem knows_workOnMail (body : InboundBody) (senderEmail : String) :
    Knows P (workOnMail P body senderEmail) s := by
  refine knows_read fun s' _ => ?_
  split
  · split
    · refine knows_of_quiet (Prog.all_step (fun _ _ => trivial) fun _ => ?_)
      refine Prog.all_step (quiet_addEntry _) fun _ => ?_
      exact all_recordMessage body _ _ (all_replyToMail body)
    · exact knows_of_quiet trivial
  · refine knows_read fun s'' _ => ?_
    split
    · exact knows_of_quiet trivial
    · refine knows_insertCounted (by simp [Counting.counts]) fun id => ?_
      refine all_recordMessage body _ _ (Prog.all_step (quiet_addEntry _) fun _ => ?_)
      exact all_replyToMail body

theorem knows_inboundEmail (body : InboundBody) : Knows P (inboundEmail P body) s := by
  rw [inboundEmail]
  split
  · exact knows_of_quiet trivial
  · split
    · intro s' _ _ _
      refine ⟨trivial, ?_⟩
      simp only
      split
      · exact knows_of_quiet (Prog.all_step (fun _ _ => trivial) fun _ => trivial)
      · exact knows_workOnMail body _
    · exact knows_workOnMail body _

theorem knows_handler (request : IntakeRequest) :
    Knows P ((intakeSystem P).handler request) s := by
  cases request with
  | create data companyId userId userType => exact knows_create data companyId userId userType
  | agentCreateTicket data companyId userId => exact knows_agentCreateTicket data companyId userId
  | createAlertTicket alert => exact knows_createAlertTicket alert
  | createTicketFromAlert alert companyId => exact knows_createTicketFromAlert alert companyId
  | inboundEmail body => exact knows_inboundEmail body
  | remove ticketId => exact knows_of_quiet (Prog.all_step (fun _ _ => trivial) fun _ => trivial)

end Allocators

section Runs

variable {P : IntakePlatform} {s : Office}

theorem isTaken_eq_false_iff (ticketNumber : String) (seen : Nat) :
    isTaken P ticketNumber s = false ↔
      (∀ ticket ∈ s.tickets.drop seen, P.same ticket.ticketNumber ticketNumber = false) ∧
        ∀ ticket ∈ s.tickets.take seen, P.same ticket.ticketNumber ticketNumber = false := by
  rw [isTaken, ← List.take_append_drop seen s.tickets, List.any_append, Bool.or_eq_false_iff,
    List.any_eq_false, List.any_eq_false, List.take_append_drop, and_comm]
  simp only [Bool.not_eq_true]

theorem isTaken_iff_stillFree {data : TicketData} {counting : Counting} {ticketNumber : String}
    {seen : Nat} {message : Option String}
    (hworked : WorkedOut P (.insert data counting ticketNumber seen message) s) :
    isTaken P ticketNumber s = false ↔
      StillFree P (.insert data counting ticketNumber seen message) s := by
  rw [isTaken_eq_false_iff ticketNumber seen]
  refine and_congr_right fun _ => ⟨fun hfree ticket hticket hsame => ?_, fun hturn ticket hticket => ?_⟩
  · rw [hfree ticket hticket] at hsame
    cases hsame
  · by_contra hsame
    rw [Bool.not_eq_false] at hsame
    rw [hworked.2 ticket hticket (hturn ticket hticket hsame)] at hsame
    cases hsame

theorem Numbered.of_tickets (h : Numbered P s) {s' : Office} (hrefused : s'.refused = s.refused)
    (htickets : s'.tickets = s.tickets) : Numbered P s' := by
  refine ⟨⟨hrefused.trans h.unique.refused, htickets ▸ h.unique.distinct⟩, ?_⟩
  intro ticket hticket counting hturn
  rw [htickets] at hticket
  obtain ⟨n, hn, hnumber⟩ := h.inTurn ticket hticket counting hturn
  refine ⟨n, ?_, hnumber⟩
  rw [countOf, htickets]
  exact hn

theorem numbered_insert (h : Numbered P s) {data : TicketData} {counting : Counting}
    {ticketNumber : String} {seen : Nat} {message : Option String}
    (hcounts : counting.counts data = true) (hfree : isTaken P ticketNumber s = false) :
    Numbered P (execIntake P (.insert data counting ticketNumber seen message) s) := by
  have happended := appended_exec (P := P) (.insert data counting ticketNumber seen message) s
  simp only [execIntake, hfree, Bool.false_eq_true, if_false] at happended ⊢
  refine ⟨⟨h.unique.refused, ?_⟩, fun ticket hticket other hturn => ?_⟩
  · refine List.pairwise_append.mpr ⟨h.unique.distinct, List.pairwise_singleton _ _, ?_⟩
    intro ticket hticket new hnew
    obtain rfl := List.mem_singleton.mp hnew
    exact Bool.not_eq_true _ ▸ List.any_eq_false.mp hfree ticket hticket
  · obtain hticket | hticket := List.mem_append.mp hticket
    · obtain ⟨n, hn, hnumber⟩ := h.inTurn ticket hticket other hturn
      exact ⟨n, Nat.le_trans hn (happended.countOf_le other), hnumber⟩
    · obtain rfl := List.mem_singleton.mp hticket
      simp only [newTicket] at hturn ⊢
      split at hturn
      next hnext =>
        obtain rfl := Option.some.inj hturn
        refine ⟨_, ?_, hnext⟩
        simp only [countOf, List.countP_append, List.countP_singleton, hcounts, if_true]
        exact Nat.le_refl _
      next => cases hturn

theorem numbered_exec (h : Numbered P s) {op : IntakeOp} (hworked : WorkedOut P op s)
    (hstill : StillFree P op s) : Numbered P (execIntake P op s) := by
  cases op with
  | insert data counting ticketNumber seen message =>
    exact numbered_insert h hworked.1 ((isTaken_iff_stillFree hworked).mpr hstill)
  | record row =>
    simp only [execIntake]
    split <;> exact h.of_tickets rfl rfl
  | remove ticketId =>
    refine ⟨⟨h.unique.refused, ?_⟩, fun ticket' hticket' counting hturn => ?_⟩
    · exact List.pairwise_map.mpr (h.unique.distinct.imp fun {a b} hab => by
        split <;> split <;> exact hab)
    · obtain ⟨ticket, hticket, rfl⟩ := mem_updateWhere.mp hticket'
      have hturn' : ticket.inTurnOf = some counting := by
        split at hturn <;> exact hturn
      obtain ⟨n, hn, hnumber⟩ := h.inTurn ticket hticket counting hturn'
      have happended := appended_exec (P := P) (.remove ticketId) s
      refine ⟨n, Nat.le_trans hn (happended.countOf_le counting), ?_⟩
      split <;> exact hnumber
  | _ => exact h.of_tickets rfl rfl

theorem numbersUnique_exec_iff (h : Numbered P s) {op : IntakeOp} (hworked : WorkedOut P op s) :
    NumbersUnique P (execIntake P op s) ↔ StillFree P op s := by
  refine ⟨fun hunique => ?_, fun hstill => (numbered_exec h hworked hstill).unique⟩
  cases op with
  | insert data counting ticketNumber seen message =>
    refine (isTaken_iff_stillFree hworked).mp ?_
    by_contra htaken
    rw [Bool.not_eq_false] at htaken
    have hrefused := hunique.refused
    simp only [execIntake, htaken, if_true] at hrefused
    cases hrefused
  | _ => trivial

theorem informed_intake (P : IntakePlatform) :
    Informed (intakeSystem P) (StillFree P) (Numbered P) Appended (WorkedOut P) where
  refl _ := List.prefix_refl _
  trans := List.IsPrefix.trans
  exec hinv hallowed hgood := ⟨numbered_exec hinv hgood hallowed, appended_exec _ _⟩
  tick hinv := ⟨hinv.of_tickets rfl rfl, appended_of_tickets rfl⟩
  handler _ _ := knows_handler _

/-- No ticket is refused for its number as long as every number is still free when its
ticket is inserted, and from then on one is. -/
theorem ticket_numbers_unique (P : IntakePlatform) {c₀ c : Config Office IntakeOp}
    (hidle : c₀.threads = []) (hnumbered : Numbered P c₀.shared)
    (hrun : (intakeSystem P).Run (StillFree P) c₀ c) :
    NumbersUnique P c.shared ∧ ∀ op next, Prog.step op next ∈ c.threads →
      (NumbersUnique P ((intakeSystem P).exec op c.shared) ↔ StillFree P op c.shared) := by
  obtain ⟨hnumbered', hworked⟩ := (informed_intake P).run hidle hrun hnumbered
  exact ⟨hnumbered'.unique, fun op next hthread =>
    numbersUnique_exec_iff hnumbered' (hworked op next hthread)⟩

end Runs

section Samples

/-- Texts are compared as they are, and identifiers only differ in length. -/
def samplePlatform : IntakePlatform where
  same a b := decide (a = b)
  uuid n := String.ofList (List.replicate n 'u')
  same_number _ _ _ h := numberFor_injective (of_decide_eq_true h)

def sampleUser (id email : String) (companyId : Option String) (userType : UserType) : IntakeUser :=
  ⟨id, email, "", "", none, companyId, .client, userType, true, none⟩

def officeStart : Config Office IntakeOp :=
  ⟨⟨[sampleUser "user-1" "ana@example.org" none .publicUser,
      sampleUser "user-2" "ben@example.org" none .publicUser,
      sampleUser "user-3" "cleo@example.org" (some "c0ffee") .businessUser],
    [], [], [], [], 0, 0, [], [], []⟩, []⟩

theorem numbered_officeStart : Numbered samplePlatform officeStart.shared :=
  ⟨⟨rfl, List.Pairwise.nil⟩, fun _ hticket => absurd hticket List.not_mem_nil⟩

/-- `StillFree`, as a test. -/
def isStillFree (P : IntakePlatform) (op : IntakeOp) (s : Office) : Bool :=
  match op with
  | .insert _ counting ticketNumber seen _ =>
    ((s.tickets.drop seen).all fun ticket => !P.same ticket.ticketNumber ticketNumber) &&
      (s.tickets.take seen).all fun ticket => !P.same ticket.ticketNumber ticketNumber ||
        decide (ticket.inTurnOf = some counting)
  | _ => true

theorem stillFree_of_test {P : IntakePlatform} {op : IntakeOp} {s : Office}
    (h : isStillFree P op s = true) : StillFree P op s := by
  cases op with
  | insert data counting ticketNumber seen message =>
    rw [isStillFree, Bool.and_eq_true, List.all_eq_true, List.all_eq_true] at h
    refine ⟨fun ticket hticket => ?_, fun ticket hticket hsame => ?_⟩
    · have hrow := h.1 ticket hticket
      rwa [Bool.not_eq_true'] at hrow
    · have hrow := h.2 ticket hticket
      rw [hsame, Bool.not_true, Bool.false_or] at hrow
      exact of_decide_eq_true hrow
  | _ => trivial

def sampleRmmAlert : RmmAlert :=
  ⟨"NINJAONE", none, none, none, none, some "Disk full", none, none, none, none, none⟩

def sampleTicketData : TicketData :=
  ⟨"Printer", "", some "Cleo", some "cleo@example.org", some "1", none, none, none, none, none, ""⟩

def sampleMail (sender : String) : InboundBody :=
  ⟨true, sender, some "Help", some "Please help", none, none, none⟩

/-- An alert and a request for the same company. -/
theorem ticket_numbers_unique_twice : ∃ c, (intakeSystem samplePlatform).Run
    (StillFree samplePlatform) officeStart c ∧
      c.shared.tickets.map IntakeTicket.ticketNumber = ["TKT-C0FF-00001", "TKT-C0FF-00002"] ∧
        NumbersUnique samplePlatform c.shared := by
  have hplay : ((intakeSystem samplePlatform).play (fun _ _ => true) (isStillFree samplePlatform)
      officeStart
      [.start (.createTicketFromAlert sampleRmmAlert "c0ffee"), .run 0, .run 0, .run 0, .run 0,
        .start (.create sampleTicketData (some "c0ffee") "user-3" .businessUser), .run 1, .run 1,
        .run 1]).any (fun c => decide (c.shared.tickets.map IntakeTicket.ticketNumber =
          ["TKT-C0FF-00001", "TKT-C0FF-00002"])) = true := by
    decide
  obtain ⟨c, hrun, hcheck⟩ := System.exists_run_of_play (fun _ _ _ => trivial)
    (fun _ _ => stillFree_of_test) hplay
  exact ⟨c, hrun, of_decide_eq_true hcheck,
    (ticket_numbers_unique samplePlatform rfl numbered_officeStart hrun).1⟩

/-- The first mails of two senders get one number. -/
theorem ticket_number_refused : ¬ ∀ (P : IntakePlatform) (c₀ c : Config Office IntakeOp),
    c₀.threads = [] → Numbered P c₀.shared → (intakeSystem P).Run (fun _ _ => True) c₀ c →
      NumbersUnique P c.shared := by
  intro hall
  have hplay : ((intakeSystem samplePlatform).play (fun _ _ => true) (fun _ _ => true) officeStart
      [.start (.inboundEmail (sampleMail "ana@example.org")), .run 0, .run 0, .run 0, .run 0,
        .start (.inboundEmail (sampleMail "ben@example.org")), .run 1, .run 1, .run 1,
        .run 1]).any (fun c => decide (c.shared.refused = ["TKT-EMAIL-00001"])) = true := by
    decide
  obtain ⟨c, hrun, hcheck⟩ := System.exists_run_of_play (fun _ _ _ => trivial)
    (fun _ _ _ => trivial) hplay
  have hrefused := (hall samplePlatform officeStart c rfl numbered_officeStart hrun).refused
  rw [of_decide_eq_true hcheck] at hrefused
  cases hrefused

end Samples
end FieldserviceIT.Intake
