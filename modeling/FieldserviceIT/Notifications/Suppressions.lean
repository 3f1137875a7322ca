import FieldserviceIT.Notifications.QueueWorkers

/-!
Suppressed addresses. Only `enqueue` asks whether an address is suppressed, and what it
has read may be outdated when it inserts; what is in the queue already goes out, and a
followed unsubscribe link turns a bounce into an unsubscription. Where a bounce or a
complaint is recorded while nothing is on its way to the address, and is not turned into
something else, and nothing is put in line for it later, no mail follows.
-/

namespace FieldserviceIT.Notifications

open Common Lib

section Law

variable (key : String → String)

def isRefusalOf (address : String) : MailEvent → Bool
  | .refused other => key other = key address
  | .mailed _ => false

/-- No mail goes to an address after its bounce or complaint was recorded. Nothing in the
service lifts such a suppression: `resubscribe` deletes unsubscriptions only. -/
def respected : List MailEvent → Bool
  | [] => true
  | .mailed address :: earlier => !earlier.any (isRefusalOf key address) && respected earlier
  | .refused _ :: earlier => respected earlier

def isRefused (s : MailQueue) (address : String) : Bool :=
  s.suppressions.any fun row => key row.recipientEmail = key address && row.reason ≠ .unsubscribed

def isIncludedBy (worker : Nat) : DeliveryEvent → Bool
  | .included sender _ _ => sender = worker
  | _ => false

def isUnsentIn (trace : List DeliveryEvent) : DeliveryEvent → Bool
  | .claimed worker => !trace.any (isIncludedBy worker)
  | _ => false

def isUnsent (trace : List DeliveryEvent) : Bool :=
  trace.any (isUnsentIn trace)

def isLive (row : EmailDelivery) : Bool :=
  isWaiting row.status && hasAttempts row || isUnsent row.trace

/-- A refusal is recorded when nothing is on its way to the address and is not turned into
an unsubscription, and no delivery is put in line, or back in line, for a refused address,
nor claimed for one after its attempts have run out. -/
def heeded (op : DeliveryOp) (s : MailQueue) : Bool :=
  match op with
  | .suppress email reason =>
    if reason = .unsubscribed then !isRefused key s email
    else s.deliveries.all fun row => key row.recipientEmail ≠ key email || !isLive row
  | .insert row => !(isWaiting row.status && hasAttempts row) || !isRefused key s row.recipientEmail
  | .retry id => s.deliveries.all fun row => !among key [id] row ||
      !isRefused key s row.recipientEmail
  | .retryAll companyId => s.deliveries.all fun row => !retriable key companyId row ||
      !isRefused key s row.recipientEmail
  | .markFailed _ id _ _ => s.deliveries.all fun row => !among key [id] row ||
      !hasAttempts row || !isRefused key s row.recipientEmail
  | .markDigestFailed _ ids _ => s.deliveries.all fun row => !among key ids row ||
      !hasAttempts row || !isRefused key s row.recipientEmail
  | .claim path ids => s.deliveries.all fun row => !claimable key path ids row ||
      hasAttempts row || !isRefused key s row.recipientEmail
  | _ => true

end Law

section Traces

variable {trace : List DeliveryEvent} {row row' : EmailDelivery}

theorem any_isIncludedBy {worker : Nat} :
    trace.any (isIncludedBy worker) = true ↔ IncludedBy worker trace := by
  rw [List.any_eq_true]
  constructor
  · rintro ⟨event, hevent, hsender⟩
    cases event with
    | included sender at_ due =>
      obtain rfl := of_decide_eq_true hsender
      exact ⟨at_, due, hevent⟩
    | _ => cases hsender
  · rintro ⟨at_, due, hevent⟩
    exact ⟨_, hevent, decide_eq_true rfl⟩

theorem isUnsent_iff :
    isUnsent trace = true ↔ ∃ worker, .claimed worker ∈ trace ∧ ¬ IncludedBy worker trace := by
  rw [isUnsent, List.any_eq_true]
  constructor
  · rintro ⟨event, hevent, hunsent⟩
    cases event with
    | claimed worker =>
      refine ⟨worker, hevent, fun hmem => ?_⟩
      rw [isUnsentIn, any_isIncludedBy.mpr hmem] at hunsent
      cases hunsent
    | _ => cases hunsent
  · rintro ⟨worker, hevent, hnot⟩
    refine ⟨_, hevent, ?_⟩
    rw [isUnsentIn, Bool.not_eq_true', Bool.eq_false_iff]
    exact fun hany => hnot (any_isIncludedBy.mp hany)

def isClaim : DeliveryEvent → Bool
  | .claimed _ => true
  | _ => false

theorem isUnsent_append {event : Option DeliveryEvent} (hevent : event.any isClaim = false)
    (h : isUnsent trace = false) : isUnsent (event.toList ++ trace) = false := by
  refine Bool.eq_false_iff.mpr fun hunsent => ?_
  obtain ⟨worker, hclaimed, hnot⟩ := isUnsent_iff.mp hunsent
  obtain hnew | hold := List.mem_append.mp hclaimed
  · rw [Option.mem_toList.mp hnew] at hevent
    cases hevent
  · refine Bool.eq_false_iff.mp h (isUnsent_iff.mpr ⟨worker, hold, ?_⟩)
    rintro ⟨at_, due, hmem⟩
    exact hnot ⟨at_, due, List.mem_append_right _ hmem⟩

theorem not_live_iff :
    isLive row = false ↔
      (isWaiting row.status = true → hasAttempts row = false) ∧ isUnsent row.trace = false := by
  rw [isLive, Bool.or_eq_false_iff, Bool.and_eq_false_iff]
  cases isWaiting row.status <;> simp

theorem live_of_unsent (h : isUnsent row.trace = true) : isLive row = true := by
  rw [isLive, h, Bool.or_true]

end Traces

section Invariant

variable (key : String → String)

/-- Recorded refusals are suppressions, and nothing is on its way to their addresses. -/
structure Heard (s : MailQueue) : Prop where
  ground : Grounded key s
  refused : ∀ address, .refused address ∈ s.log → isRefused key s address = true
  settled : ∀ address, .refused address ∈ s.log → ∀ row ∈ s.deliveries,
    key row.recipientEmail = key address → isLive row = false
  respected : respected key s.log = true

def WorkerPhase.Sends (s : MailQueue) : WorkerPhase → Prop
  | .claimed _ worker ids => ∃ row ∈ s.deliveries, among key ids row = true ∧
      .claimed worker ∈ row.trace ∧ ¬ IncludedBy worker row.trace
  | _ => True

structure WorkerPhase.Sound (s : MailQueue) (phase : WorkerPhase) : Prop where
  drawn : phase.Drawn s
  known : Known s phase.rows
  sends : phase.Sends key s

end Invariant

section Suppressions

variable {key : String → String} {s : MailQueue} {op : DeliveryOp}

theorem isRefused_iff {address : String} :
    isRefused key s address = true ↔ ∃ row ∈ s.suppressions,
      key row.recipientEmail = key address ∧ row.reason ≠ .unsubscribed := by
  simp only [isRefused, List.any_eq_true, Bool.and_eq_true, decide_eq_true_eq]

theorem isRefused_congr {address other : String} (h : key address = key other) :
    isRefused key s address = isRefused key s other := by
  rw [isRefused, isRefused, h]

theorem mem_upsert (email : String) (reason : SuppressionReason) (rows : List EmailSuppression) :
    ∃ row ∈ upsert key email reason rows, key row.recipientEmail = key email ∧
      row.reason = reason := by
  simp only [upsert]
  split
  next hany =>
    obtain ⟨row, hrow, hkey⟩ := List.any_eq_true.mp hany
    refine ⟨_, mem_updateWhere.mpr ⟨row, hrow, rfl⟩, ?_⟩
    rw [if_pos hkey]
    exact ⟨of_decide_eq_true hkey, rfl⟩
  next => exact ⟨_, List.mem_append_right _ (List.mem_singleton_self _), rfl, rfl⟩

theorem mem_upsert_of_ne {email : String} {reason : SuppressionReason}
    {rows : List EmailSuppression} {row : EmailSuppression} (hrow : row ∈ rows)
    (hne : key row.recipientEmail ≠ key email) : row ∈ upsert key email reason rows := by
  simp only [upsert]
  split
  · refine mem_updateWhere.mpr ⟨row, hrow, ?_⟩
    rw [if_neg (by rwa [decide_eq_true_eq])]
  · exact List.mem_append_left _ hrow

theorem isRefused_exec (hheeded : heeded key op s = true) {address : String}
    (h : isRefused key s address = true) : isRefused key (execDelivery key op s) address = true := by
  obtain ⟨row, hrow, hkey, hreason⟩ := isRefused_iff.mp h
  cases op with
  | suppress email reason =>
    by_cases hsame : key row.recipientEmail = key email
    · have hunsubscribed : reason ≠ .unsubscribed := by
        rintro rfl
        have hrefused := isRefused_iff.mpr ⟨row, hrow, hsame, hreason⟩
        rw [heeded, if_pos rfl, hrefused] at hheeded
        cases hheeded
      obtain ⟨row', hrow', hkey', rfl⟩ := @mem_upsert key email reason s.suppressions
      exact isRefused_iff.mpr ⟨row', hrow', hkey'.trans (hsame.symm.trans hkey), hunsubscribed⟩
    · exact isRefused_iff.mpr ⟨row, mem_upsert_of_ne hrow hsame, hkey, hreason⟩
  | resubscribe email =>
    refine isRefused_iff.mpr ⟨row, List.mem_filter.mpr ⟨hrow, ?_⟩, hkey, hreason⟩
    rw [decide_eq_false hreason, Bool.and_false]
    rfl
  | insert | ensurePreferences =>
    simp only [execDelivery]
    split <;> exact h
  | _ => exact h

end Suppressions

section Steps

variable {key : String → String} {s : MailQueue} {op : DeliveryOp} {phase phase' : WorkerPhase}

theorem heeded_row {p q : EmailDelivery → Bool} (h : (s.deliveries.all fun row => !p row || q row) = true)
    {row : EmailDelivery} (hrow : row ∈ s.deliveries) (hp : p row = true) : q row = true := by
  have hrowOk := List.all_eq_true.mp h row hrow
  rwa [hp, Bool.not_true, Bool.false_or] at hrowOk

theorem not_live_of_status {row row' : EmailDelivery} (event : Option DeliveryEvent)
    (htrace : row'.trace = event.toList ++ row.trace)
    (hevent : event.any isClaim = false) (h : isLive row = false)
    (hstatus : isWaiting row'.status = true → hasAttempts row' = false) : isLive row' = false := by
  refine not_live_iff.mpr ⟨hstatus, ?_⟩
  rw [htrace]
  exact isUnsent_append hevent (not_live_iff.mp h).2

theorem not_live_of_closed {row row' : EmailDelivery} (event : Option DeliveryEvent)
    (htrace : row'.trace = event.toList ++ row.trace) (hevent : event.any isClaim = false)
    (h : isLive row = false) (hstatus : isWaiting row'.status = false) : isLive row' = false :=
  not_live_of_status event htrace hevent h fun hwaiting =>
    absurd hwaiting (Bool.eq_false_iff.mp hstatus)

theorem not_live_rowAfter (hheeded : heeded key op s = true) {row : EmailDelivery}
    (hrow : row ∈ s.deliveries) (hrefused : isRefused key s row.recipientEmail = true)
    (h : isLive row = false) : isLive (rowAfter key op s row) = false := by
  obtain ⟨hstatus, hunsent⟩ := not_live_iff.mp h
  cases op with
  | claim path ids =>
    simp only [rowAfter]
    split
    next hclaim =>
      have hfree := List.all_eq_true.mp hheeded row hrow
      rw [hclaim, hstatus (waiting_of_claimable hclaim), hrefused] at hfree
      cases hfree
    next => exact h
  | send worker ids address =>
    simp only [rowAfter]
    split
    · exact not_live_of_status (some _) rfl rfl h hstatus
    · exact h
  | markSent worker ids messageId =>
    simp only [rowAfter]
    split
    · exact not_live_of_closed (some _) rfl rfl h rfl
    · exact h
  | markFailed worker id error delay =>
    simp only [rowAfter]
    split
    next hamong =>
      have hfree := List.all_eq_true.mp hheeded row hrow
      rw [hamong, hrefused, Bool.not_true, Bool.false_or, Bool.or_false,
        Bool.not_eq_true'] at hfree
      exact not_live_of_status (some _) rfl rfl h fun _ => hfree
    next => exact h
  | markDigestFailed worker ids error =>
    simp only [rowAfter]
    split
    next hamong =>
      have hfree := List.all_eq_true.mp hheeded row hrow
      rw [hamong, hrefused, Bool.not_true, Bool.false_or, Bool.or_false,
        Bool.not_eq_true'] at hfree
      exact not_live_of_status (some _) rfl rfl h fun _ => hfree
    next => exact h
  | cancel id userId =>
    simp only [rowAfter]
    split
    · exact not_live_of_closed (some _) rfl rfl h rfl
    · exact h
  | retry id =>
    simp only [rowAfter]
    split
    next hamong =>
      have hfree := heeded_row hheeded hrow hamong
      rw [hrefused] at hfree
      cases hfree
    next => exact h
  | retryAll companyId =>
    simp only [rowAfter]
    split
    next hretriable =>
      have hfree := heeded_row hheeded hrow hretriable
      rw [hrefused] at hfree
      cases hfree
    next => exact h
  | markDelivered ids =>
    simp only [rowAfter]
    split
    · exact not_live_of_closed none rfl rfl h rfl
    · exact h
  | markRefused ids reason detail =>
    simp only [rowAfter]
    split
    · cases reason <;> exact not_live_of_closed none rfl rfl h rfl
    · exact h
  | _ => exact h

theorem log_exec (op : DeliveryOp) (s : MailQueue) :
    (execDelivery key op s).log = s.log ∨
      (∃ worker ids address, op = .send worker ids address ∧
        (execDelivery key op s).log = .mailed address :: s.log) ∨
      ∃ email reason, op = .suppress email reason ∧ reason ≠ .unsubscribed ∧
        (execDelivery key op s).log = .refused email :: s.log := by
  cases op with
  | send worker ids address => exact .inr (.inl ⟨worker, ids, address, rfl, rfl⟩)
  | suppress email reason =>
    by_cases hreason : reason = .unsubscribed
    · exact .inl (if_pos hreason)
    · exact .inr (.inr ⟨email, reason, rfl, hreason, if_neg hreason⟩)
  | insert | ensurePreferences =>
    simp only [execDelivery]
    split <;> exact .inl rfl
  | _ => exact .inl rfl

theorem refused_exec (hbase : Heard key s) (hheeded : heeded key op s = true) :
    ∀ address, .refused address ∈ (execDelivery key op s).log →
      isRefused key (execDelivery key op s) address = true := by
  intro address hmem
  obtain hlog | ⟨worker, ids, recipient, rfl, hlog⟩ | ⟨email, reason, rfl, hreason, hlog⟩ :=
    @log_exec key op s
  · exact isRefused_exec hheeded (hbase.refused address (hlog ▸ hmem))
  · rw [hlog] at hmem
    obtain heq | hmem := List.mem_cons.mp hmem
    · cases heq
    · exact isRefused_exec hheeded (hbase.refused address hmem)
  · rw [hlog] at hmem
    obtain heq | hmem := List.mem_cons.mp hmem
    · obtain rfl := MailEvent.refused.inj heq
      obtain ⟨row, hrow, hkey, rfl⟩ := @mem_upsert key address reason s.suppressions
      exact isRefused_iff.mpr ⟨row, hrow, hkey, hreason⟩
    · exact isRefused_exec hheeded (hbase.refused address hmem)

theorem settled_exec (hbase : Heard key s) (hheeded : heeded key op s = true) :
    ∀ address, .refused address ∈ (execDelivery key op s).log →
      ∀ row ∈ (execDelivery key op s).deliveries, key row.recipientEmail = key address →
        isLive row = false := by
  intro address hmem row' hrow' hkey
  obtain ⟨row, hrow, rfl⟩ | hinserted := mem_deliveries_exec.mp hrow'
  · rw [(sameMail_rowAfter op s row).recipientEmail] at hkey
    have hold : .refused address ∈ s.log → isLive (rowAfter key op s row) = false := fun hmem =>
      not_live_rowAfter hheeded hrow ((isRefused_congr hkey).trans (hbase.refused address hmem))
        (hbase.settled address hmem row hrow hkey)
    obtain hlog | ⟨worker, ids, recipient, rfl, hlog⟩ | ⟨email, reason, rfl, hreason, hlog⟩ :=
      @log_exec key op s
    · exact hold (hlog ▸ hmem)
    · rw [hlog] at hmem
      obtain heq | hmem := List.mem_cons.mp hmem
      · cases heq
      · exact hold hmem
    · rw [hlog] at hmem
      obtain heq | hmem := List.mem_cons.mp hmem
      · -- the refusal is recorded now, and nothing is on its way
        obtain rfl := MailEvent.refused.inj heq
        rw [heeded, if_neg hreason] at hheeded
        have hfree := List.all_eq_true.mp hheeded row hrow
        rw [decide_eq_false (not_not_intro hkey), Bool.false_or, Bool.not_eq_true'] at hfree
        exact hfree
      · exact hold hmem
  · obtain ⟨row, rfl, hfree, rfl⟩ := mem_inserted hinserted
    have hlog : (execDelivery key (.insert row) s).log = s.log := by
      simp only [execDelivery]
      split <;> rfl
    have hrefused := (isRefused_congr hkey).trans (hbase.refused address (hlog ▸ hmem))
    rw [heeded, show isRefused key s row.recipientEmail = true from hrefused, Bool.not_true,
      Bool.or_false, Bool.not_eq_true', Bool.and_eq_false_iff] at hheeded
    refine not_live_iff.mpr ⟨fun hwaiting => ?_, rfl⟩
    obtain hnot | hnot := hheeded
    · cases hnot.symm.trans hwaiting
    · exact hnot

theorem respected_exec (hbase : Heard key s) (hsound : phase.Sound key s)
    (h : advance key phase op s = some phase') :
    respected key (execDelivery key op s).log = true := by
  obtain hlog | ⟨worker, ids, address, rfl, hlog⟩ | ⟨email, reason, rfl, -, hlog⟩ :=
    @log_exec key op s
  · rw [hlog]
    exact hbase.respected
  · rw [hlog, Notifications.respected, hbase.respected, Bool.and_true, Bool.not_eq_true',
      List.any_eq_false]
    intro event hevent hrefusal
    cases event with
    | mailed => cases hrefusal
    | refused other =>
      obtain ⟨rows, rfl, haddressed, -⟩ := claimed_of_send h
      obtain ⟨row, hrow, hamong, hclaimed, hnot⟩ := hsound.sends
      have haddress := hsound.known.address hbase.ground haddressed hrow hamong
      have hlive := live_of_unsent (isUnsent_iff.mpr ⟨worker, hclaimed, hnot⟩)
      have hkey : key row.recipientEmail = key other := by
        rw [haddress]
        exact (of_decide_eq_true hrefusal).symm
      rw [hbase.settled other hevent row hrow hkey] at hlive
      cases hlive
  · rw [hlog]
    exact hbase.respected

theorem heard_exec (hbase : Heard key s) (hsound : phase.Sound key s)
    (hheeded : heeded key op s = true) (h : advance key phase op s = some phase') :
    Heard key (execDelivery key op s) where
  ground := grounded_exec hbase.ground hsound.drawn h
  refused := refused_exec hbase hheeded
  settled := settled_exec hbase hheeded
  respected := respected_exec hbase hsound h

theorem sends_advance (hbase : Heard key s) (h : advance key phase op s = some phase') :
    phase'.Sends key (execDelivery key op s) := by
  cases op with
  | claim path ids =>
    obtain ⟨rows, rfl, -, rfl⟩ := knows_of_claim h
    split
    next hany =>
      obtain ⟨row, hrow, hclaim⟩ := List.any_eq_true.mp hany
      refine ⟨_, mem_deliveries_exec.mpr (.inl ⟨row, hrow, rfl⟩), ?_,
        mem_trace_rowAfter.mpr (.inl (if_pos hclaim)), ?_⟩
      · rw [among_rowAfter]
        exact among_of_claimable hclaim
      · rintro ⟨at_, due, hmem⟩
        obtain hnew | hold := mem_trace_rowAfter.mp hmem
        · obtain ⟨-, heq⟩ := Option.ite_none_right_eq_some.mp hnew
          cases heq
        · exact Nat.lt_irrefl _ (hbase.ground.drawn row hrow _ hold _ rfl)
    next => trivial
  | send worker ids address =>
    obtain ⟨rows, -, -, rfl⟩ := claimed_of_send h
    trivial
  | markSent worker ids messageId =>
    obtain ⟨rows, -, rfl⟩ := mailed_of_markSent h
    trivial
  | markFailed worker id error delay =>
    obtain ⟨rows, -, rfl⟩ := mailed_of_markFailed h
    trivial
  | markDigestFailed worker ids error =>
    obtain ⟨rows, -, rfl⟩ := mailed_of_markDigestFailed h
    trivial
  | take row =>
    cases phase with
    | outside =>
      simp only [advance] at h
      split at h <;> (obtain rfl := Option.some.inj h; trivial)
    | _ => cases h
  | _ =>
    cases phase with
    | outside =>
      obtain rfl := Option.some.inj h
      trivial
    | _ => cases h

theorem sound_advance (hbase : Heard key s) (hsound : phase.Sound key s)
    (h : advance key phase op s = some phase') : phase'.Sound key (execDelivery key op s) where
  drawn := drawn_advance hsound.drawn h
  known := known_advance hbase.ground hsound.known h
  sends := sends_advance hbase h

theorem sound_other (h : advance key phase op s = some phase') {other : WorkerPhase}
    (hother : other.Sound key s) (hapart : phase.Apart other) :
    other.Sound key (execDelivery key op s) where
  drawn worker hworker := Nat.lt_of_lt_of_le (hother.drawn worker hworker) (nextWorker_exec op s)
  known := hother.known.exec op
  sends := by
    cases other with
    | claimed rows worker ids =>
      obtain ⟨row, hrow, hamong, hclaimed, hnot⟩ := hother.sends
      refine ⟨_, mem_deliveries_exec.mpr (.inl ⟨row, hrow, rfl⟩), ?_,
        mem_trace_rowAfter.mpr (.inr hclaimed), ?_⟩
      · rw [among_rowAfter]
        exact hamong
      · rintro ⟨at_, due, hmem⟩
        obtain hnew | hold := mem_trace_rowAfter.mp hmem
        · exact worker_ne_of_apart hnew rfl h rfl hother.drawn hapart rfl
        · exact hnot ⟨at_, due, hold⟩
    | _ => trivial

end Steps

section Runs

variable {toLowerCase key : String → String}

theorem suppressions_separate :
    Separate (mailSystem toLowerCase key) (fun op s => heeded key op s = true) (advance key)
      (fun _ => True) .outside (Heard key) (fun s phase => phase.Sound key s)
      WorkerPhase.Apart where
  handler _ call _ := follows_handler call
  symm h worker hother hworker := h worker hworker hother
  apart _ _ _ hworker := nomatch hworker
  start _ _ := ⟨fun _ hworker => (nomatch hworker), fun _ hrow => (nomatch hrow), trivial⟩
  exec _ _ _ _ hbase hheeded hsound h :=
    ⟨heard_exec hbase hsound hheeded h, sound_advance hbase hsound h⟩
  frame _ _ _ _ _ _ _ _ h hother hapart :=
    ⟨sound_other h hother hapart, apart_advance h hother.drawn hapart⟩
  tick s hbase :=
    ⟨⟨⟨hbase.ground.distinct, hbase.ground.picked, hbase.ground.drawn⟩, hbase.refused,
      hbase.settled, hbase.respected⟩, fun phase hsound => ⟨hsound.drawn, hsound.known, by
        have hsends := hsound.sends
        cases phase <;> exact hsends⟩⟩

end Runs

section Samples

def sampleBounce : DeliveryCall :=
  .recordProviderEvent "bounce" none none (some "ana@acme.example") "mailbox unavailable"

def sampleCritical : DeliveryCall :=
  .enqueue ("delivery-2", "preferences-2") (sampleInput "ticket_status")

def sampleDelivered (row : EmailDelivery) : DeliveryCall :=
  .deliver row (.accepted (some "smtp-1"))

end Samples
end FieldserviceIT.Notifications
