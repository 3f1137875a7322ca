import FieldserviceIT.Notifications.QueueWorkers

/-!
Safety of the queue. A worker goes by the rows it has read and claims them later by id; a
digest sends and records all rows of its group even if its claim took only some. Where
every claim and every retry still finds what was read, a delivery has one worker at a
time, and with that what is cancelled stays unsent, attempts are counted and kept apart,
and what a worker records is what it claimed and sent.
-/

namespace FieldserviceIT.Notifications

open Lib

section Law

/-- The worker that has claimed a delivery and not recorded it yet, and whether its mail
is out. -/
def holder : List DeliveryEvent → Option (Nat × Bool)
  | [] => none
  | .claimed worker :: _ => some (worker, false)
  | .included _ _ _ :: earlier => (holder earlier).map fun held => (held.1, true)
  | .markedSent _ :: _ | .markedFailed _ :: _ => none
  | .cancelled :: earlier | .retried :: earlier => holder earlier

def withdrawn : List DeliveryEvent → Bool
  | [] => false
  | .cancelled :: earlier => (holder earlier).isNone || withdrawn earlier
  | _ :: earlier => withdrawn earlier

def spared : List DeliveryEvent → Bool
  | [] => true
  | .included _ _ _ :: earlier | .markedSent _ :: earlier => !withdrawn earlier && spared earlier
  | _ :: earlier => spared earlier

def sendings : List DeliveryEvent → Nat
  | [] | .retried :: _ => 0
  | .included _ _ _ :: earlier => sendings earlier + 1
  | _ :: earlier => sendings earlier

def claims : List DeliveryEvent → Nat
  | [] | .retried :: _ => 0
  | .claimed _ :: earlier => claims earlier + 1
  | _ :: earlier => claims earlier

/-- What has happened to a delivery is what should. -/
structure Lawful (row : EmailDelivery) : Prop where
  spared : spared row.trace = true
  attempts : sendings row.trace ≤ row.maxAttempts
  due : ∀ worker at_ due, .included worker at_ (some due) ∈ row.trace → due ≤ at_

/-- A worker that has recorded deliveries as sent has recorded exactly those it had
claimed and included. -/
def Exact (s : MailQueue) : Prop :=
  ∀ worker, ∀ row ∈ s.deliveries, .markedSent worker ∈ row.trace → ∀ other ∈ s.deliveries,
    (.markedSent worker ∈ other.trace ↔
      .claimed worker ∈ other.trace ∧ IncludedBy worker other.trace)

def underway (row : EmailDelivery) : Bool :=
  (holder row.trace).isSome

variable (key : String → String)

/-- A claim takes deliveries that are due and have attempts left, and all of its rows or
none; a delivery is retried while nobody has it and it was not withdrawn. -/
def upToDate (op : DeliveryOp) (s : MailQueue) : Bool :=
  match op with
  | .claim path ids => (s.deliveries.all fun row => !claimable key path ids row ||
      hasAttempts row && isDue s.now row) &&
        (!s.deliveries.any (claimable key path ids) ||
          s.deliveries.all fun row => !among key ids row || claimable key path ids row)
  | .retry id => s.deliveries.all fun row => !among key [id] row ||
      !underway row && !withdrawn row.trace
  | _ => true

end Law

section Rows

def pendingMail (trace : List DeliveryEvent) : Nat :=
  match holder trace with
  | some (_, false) => 1
  | _ => 0

/-- While a worker has a delivery no other can take it, and it stays due. -/
structure Tracked (now : Int) (row : EmailDelivery) : Prop where
  spared : spared row.trace = true
  due : ∀ worker at_ due, .included worker at_ (some due) ∈ row.trace → due ≤ at_
  closed : underway row = true → isWaiting row.status = false
  final : withdrawn row.trace = true → isWaiting row.status = false ∧ underway row = false
  spent : sendings row.trace + pendingMail row.trace ≤ claims row.trace
  counted : claims row.trace ≤ row.attempts
  budget : claims row.trace = 0 ∨ row.attempts ≤ row.maxAttempts
  dueHeld : underway row = true → isDue now row = true

variable {row : EmailDelivery} {now : Int}

theorem Tracked.lawful (h : Tracked now row) : Lawful row where
  spared := h.spared
  attempts := by
    have hspent := h.spent
    have hcounted := h.counted
    have hbudget := h.budget
    omega
  due := h.due

theorem Tracked.not_underway (h : Tracked now row) (hwaiting : isWaiting row.status = true) :
    underway row = false := by
  refine Bool.eq_false_iff.mpr fun hunderway => ?_
  rw [h.closed hunderway] at hwaiting
  cases hwaiting

theorem Tracked.not_withdrawn (h : Tracked now row)
    (hopen : isWaiting row.status = true ∨ underway row = true) : withdrawn row.trace = false := by
  refine Bool.eq_false_iff.mpr fun hwithdrawn => ?_
  obtain ⟨hstatus, hnone⟩ := h.final hwithdrawn
  obtain hwaiting | hunderway := hopen
  · rw [hstatus] at hwaiting
    cases hwaiting
  · rw [hnone] at hunderway
    cases hunderway

theorem pendingMail_of_not_underway (h : underway row = false) : pendingMail row.trace = 0 := by
  rw [pendingMail, Option.isSome_eq_false_iff.mp h |> Option.isNone_iff_eq_none.mp]

theorem tracked_claimed (h : Tracked now row) (hwaiting : isWaiting row.status = true)
    (hattempts : hasAttempts row = true) (hdue : isDue now row = true) (worker : Nat) :
    Tracked now (row.claimed worker) where
  spared := h.spared
  due worker' at_ due hmem := by
    obtain heq | hmem := List.mem_cons.mp hmem
    · cases heq
    · exact h.due worker' at_ due hmem
  closed _ := rfl
  final hwithdrawn := by
    rw [show withdrawn (row.claimed worker).trace = withdrawn row.trace from rfl,
      h.not_withdrawn (.inl hwaiting)] at hwithdrawn
    cases hwithdrawn
  spent := by
    have hspent := h.spent
    rw [pendingMail_of_not_underway (h.not_underway hwaiting)] at hspent
    exact Nat.succ_le_succ hspent
  counted := Nat.succ_le_succ h.counted
  budget := .inr (of_decide_eq_true hattempts)
  dueHeld _ := hdue

theorem tracked_included (h : Tracked now row) {worker : Nat}
    (hholder : holder row.trace = some (worker, false)) : Tracked now (row.included now worker) := by
  have hunderway : underway row = true := by rw [underway, hholder]; rfl
  have hnext : holder (row.included now worker).trace = some (worker, true) := by
    simp only [EmailDelivery.included, holder, hholder, Option.map_some]
  refine ⟨?_, fun worker' at_ due hmem => ?_, fun _ => h.closed hunderway, fun hwithdrawn => ?_, ?_,
    h.counted, h.budget, fun _ => h.dueHeld hunderway⟩
  · simp only [EmailDelivery.included, Notifications.spared, h.not_withdrawn (.inr hunderway),
      h.spared, Bool.not_false, Bool.and_self]
  · obtain heq | hmem := List.mem_cons.mp hmem
    · obtain ⟨rfl, rfl, hdue⟩ := DeliveryEvent.included.inj heq
      have hall := h.dueHeld hunderway
      rw [isDue, ← hdue] at hall
      exact of_decide_eq_true hall
    · exact h.due worker' at_ due hmem
  · have hnot := h.not_withdrawn (.inr hunderway)
    exact absurd hwithdrawn (Bool.eq_false_iff.mp hnot)
  · have hspent := h.spent
    rw [pendingMail, hholder] at hspent
    rw [pendingMail, hnext]
    exact hspent

theorem tracked_recorded (h : Tracked now row) {worker : Nat}
    (hholder : holder row.trace = some (worker, true)) {row' : EmailDelivery} {event : DeliveryEvent}
    (hevent : event = .markedSent worker ∨ event = .markedFailed worker)
    (htrace : row'.trace = event :: row.trace) (hattempts : row'.attempts = row.attempts)
    (hmax : row'.maxAttempts = row.maxAttempts) : Tracked now row' := by
  have hunderway : underway row = true := by rw [underway, hholder]; rfl
  have hnot := h.not_withdrawn (.inr hunderway)
  have hnone : underway row' = false := by
    obtain rfl | rfl := hevent <;> (rw [underway, htrace]; rfl)
  have hspent := h.spent
  rw [pendingMail, hholder] at hspent
  have hclaims : claims row'.trace = claims row.trace ∧ sendings row'.trace = sendings row.trace ∧
      withdrawn row'.trace = withdrawn row.trace := by
    obtain rfl | rfl := hevent <;> (rw [htrace]; exact ⟨rfl, rfl, rfl⟩)
  refine ⟨?_, fun worker' at_ due hmem => ?_, fun hopen => ?_, fun hwithdrawn => ?_, ?_, ?_, ?_,
    fun hopen => ?_⟩
  · obtain rfl | rfl := hevent
    · rw [htrace, Notifications.spared, hnot, h.spared]
      rfl
    · rw [htrace]
      exact h.spared
  · rw [htrace] at hmem
    obtain heq | hmem := List.mem_cons.mp hmem
    · obtain rfl | rfl := hevent <;> cases heq
    · exact h.due worker' at_ due hmem
  · exact absurd hopen (Bool.eq_false_iff.mp hnone)
  · rw [hclaims.2.2, hnot] at hwithdrawn
    cases hwithdrawn
  · rw [hclaims.1, hclaims.2.1, pendingMail_of_not_underway hnone]
    exact hspent
  · rw [hclaims.1, hattempts]
    exact h.counted
  · rw [hclaims.1, hattempts, hmax]
    exact h.budget
  · exact absurd hopen (Bool.eq_false_iff.mp hnone)

theorem tracked_cancelled (h : Tracked now row) (at_ : Int) (userId : String) :
    Tracked now (row.wasCancelled at_ userId) where
  spared := h.spared
  due worker at_ due hmem := by
    obtain heq | hmem := List.mem_cons.mp hmem
    · cases heq
    · exact h.due worker at_ due hmem
  closed _ := rfl
  final hwithdrawn := by
    refine ⟨rfl, ?_⟩
    obtain hnone | hearlier := Bool.or_eq_true_iff.mp hwithdrawn
    · exact Option.isSome_eq_false_iff.mpr hnone
    · exact (h.final hearlier).2
  spent := h.spent
  counted := h.counted
  budget := h.budget
  dueHeld := h.dueHeld

theorem tracked_retried (h : Tracked now row) (hnone : underway row = false)
    (hnot : withdrawn row.trace = false) (at_ : Int) : Tracked now (row.retried at_) where
  spared := h.spared
  due worker at_ due hmem := by
    obtain heq | hmem := List.mem_cons.mp hmem
    · cases heq
    · exact h.due worker at_ due hmem
  closed hunderway := absurd hunderway (Bool.eq_false_iff.mp hnone)
  final hwithdrawn := absurd hwithdrawn (Bool.eq_false_iff.mp hnot)
  spent := Nat.le_of_eq ((Nat.zero_add _).trans (pendingMail_of_not_underway hnone))
  counted := Nat.le_refl _
  budget := .inl rfl
  dueHeld hunderway := absurd hunderway (Bool.eq_false_iff.mp hnone)

theorem tracked_status (h : Tracked now row) {row' : EmailDelivery} (htrace : row'.trace = row.trace)
    (hattempts : row'.attempts = row.attempts) (hmax : row'.maxAttempts = row.maxAttempts)
    (hnext : row'.nextAttemptAt = row.nextAttemptAt) (hstatus : isWaiting row'.status = false) :
    Tracked now row' := by
  have hsame : underway row' = underway row := by rw [underway, underway, htrace]
  refine ⟨htrace ▸ h.spared, htrace ▸ h.due, fun _ => hstatus, fun hwithdrawn => ⟨hstatus, ?_⟩,
    htrace ▸ h.spent, ?_, ?_, fun hopen => ?_⟩
  · rw [hsame]
    exact (h.final (htrace ▸ hwithdrawn)).2
  · rw [htrace, hattempts]
    exact h.counted
  · rw [htrace, hattempts, hmax]
    exact h.budget
  · rw [isDue, hnext]
    exact h.dueHeld (hsame ▸ hopen)

theorem tracked_new (htrace : row.trace = []) : Tracked now row := by
  have hnone : underway row = false := by rw [underway, htrace]; rfl
  refine ⟨?_, ?_, fun hopen => ?_, ?_, ?_, ?_, ?_, fun hopen => ?_⟩
  · rw [htrace]; rfl
  · simp [htrace]
  · exact absurd hopen (Bool.eq_false_iff.mp hnone)
  · simp [htrace, withdrawn]
  · rw [htrace]; exact Nat.le_refl _
  · rw [htrace]; exact Nat.zero_le _
  · rw [htrace]; exact .inl rfl
  · exact absurd hopen (Bool.eq_false_iff.mp hnone)

theorem Tracked.tick (h : Tracked now row) : Tracked (now + 1) row := by
  refine ⟨h.spared, h.due, h.closed, h.final, h.spent, h.counted, h.budget, fun hunderway => ?_⟩
  have hdue := h.dueHeld hunderway
  rw [isDue, Option.all_eq_true] at hdue ⊢
  intro at_ hat
  have hle := of_decide_eq_true (hdue at_ hat)
  exact decide_eq_true (by omega)

end Rows

section Invariant

variable (key : String → String)

structure Consistent (s : MailQueue) : Prop where
  ground : Grounded key s
  tracked : ∀ row ∈ s.deliveries, Tracked s.now row
  exact_ : Exact s

/-- The deliveries with these ids are in the hands of the worker, and no others. -/
structure Holding (s : MailQueue) (worker : Nat) (ids : List String) (isMailed : Bool) : Prop where
  stored : ∀ id ∈ ids, ∃ row ∈ s.deliveries, key row.id = key id
  held : ∀ row ∈ s.deliveries, among key ids row = true →
    holder row.trace = some (worker, isMailed) ∧ .claimed worker ∈ row.trace ∧
      (isMailed = true → IncludedBy worker row.trace)
  others : ∀ row ∈ s.deliveries, among key ids row = false → .claimed worker ∉ row.trace
  unmarked : ∀ row ∈ s.deliveries, .markedSent worker ∉ row.trace

def WorkerPhase.Holds (s : MailQueue) : WorkerPhase → Prop
  | .claimed _ worker ids => Holding key s worker ids false
  | .mailed _ worker ids => Holding key s worker ids true
  | _ => True

structure WorkerPhase.Ok (s : MailQueue) (phase : WorkerPhase) : Prop where
  drawn : phase.Drawn s
  known : Known s phase.rows
  holds : phase.Holds key s

end Invariant

section Steps

variable {key : String → String} {s : MailQueue} {op : DeliveryOp} {phase phase' : WorkerPhase}

theorem upToDate_claim {path : ClaimPath} {ids : List String}
    (h : upToDate key (.claim path ids) s = true) {row : EmailDelivery} (hrow : row ∈ s.deliveries)
    (hclaim : claimable key path ids row = true) :
    hasAttempts row = true ∧ isDue s.now row = true := by
  rw [upToDate, Bool.and_eq_true] at h
  have hrowOk := List.all_eq_true.mp h.1 row hrow
  rwa [hclaim, Bool.not_true, Bool.false_or, Bool.and_eq_true] at hrowOk

theorem upToDate_all {path : ClaimPath} {ids : List String}
    (h : upToDate key (.claim path ids) s = true)
    (hany : s.deliveries.any (claimable key path ids) = true) {row : EmailDelivery}
    (hrow : row ∈ s.deliveries) (hamong : among key ids row = true) :
    claimable key path ids row = true := by
  rw [upToDate, Bool.and_eq_true, hany, Bool.not_true, Bool.false_or] at h
  have hrowOk := List.all_eq_true.mp h.2 row hrow
  rwa [hamong, Bool.not_true, Bool.false_or] at hrowOk

theorem upToDate_retry {id : String} (h : upToDate key (.retry id) s = true) {row : EmailDelivery}
    (hrow : row ∈ s.deliveries) (hamong : among key [id] row = true) :
    underway row = false ∧ withdrawn row.trace = false := by
  have hrowOk := List.all_eq_true.mp h row hrow
  rwa [hamong, Bool.not_true, Bool.false_or, Bool.and_eq_true, Bool.not_eq_true',
    Bool.not_eq_true'] at hrowOk

theorem tracked_rowAfter (hbase : Consistent key s) (hok : phase.Ok key s)
    (hcurrent : upToDate key op s = true) (h : advance key phase op s = some phase')
    {row : EmailDelivery} (hrow : row ∈ s.deliveries) : Tracked s.now (rowAfter key op s row) := by
  have htracked := hbase.tracked row hrow
  cases op with
  | claim path ids =>
    simp only [rowAfter]
    split
    next hclaim =>
      obtain ⟨hattempts, hdue⟩ := upToDate_claim hcurrent hrow hclaim
      exact tracked_claimed htracked (waiting_of_claimable hclaim) hattempts hdue _
    next => exact htracked
  | send worker ids address =>
    obtain ⟨rows, rfl, -, -⟩ := claimed_of_send h
    simp only [rowAfter]
    split
    next hamong => exact tracked_included htracked (hok.holds.held row hrow hamong).1
    next => exact htracked
  | markSent worker ids messageId =>
    obtain ⟨rows, rfl, -⟩ := mailed_of_markSent h
    simp only [rowAfter]
    split
    next hamong =>
      exact tracked_recorded htracked (hok.holds.held row hrow hamong).1 (.inl rfl) rfl rfl rfl
    next => exact htracked
  | markFailed worker id error delay =>
    obtain ⟨rows, rfl, -⟩ := mailed_of_markFailed h
    simp only [rowAfter]
    split
    next hamong =>
      exact tracked_recorded htracked (hok.holds.held row hrow hamong).1 (.inr rfl) rfl rfl rfl
    next => exact htracked
  | markDigestFailed worker ids error =>
    obtain ⟨rows, rfl, -⟩ := mailed_of_markDigestFailed h
    simp only [rowAfter]
    split
    next hamong =>
      exact tracked_recorded htracked (hok.holds.held row hrow hamong).1 (.inr rfl) rfl rfl rfl
    next => exact htracked
  | cancel id userId =>
    simp only [rowAfter]
    split
    · exact tracked_cancelled htracked _ _
    · exact htracked
  | retry id =>
    simp only [rowAfter]
    split
    next hamong =>
      obtain ⟨hnone, hnot⟩ := upToDate_retry hcurrent hrow hamong
      exact tracked_retried htracked hnone hnot _
    next => exact htracked
  | retryAll companyId =>
    simp only [rowAfter]
    split
    next hretriable =>
      have hwaiting := waiting_of_retriable hretriable
      have hretried := tracked_retried htracked (htracked.not_underway hwaiting)
        (htracked.not_withdrawn (.inl hwaiting)) s.now
      exact ⟨hretried.spared, hretried.due, hretried.closed, hretried.final, hretried.spent,
        hretried.counted, hretried.budget, hretried.dueHeld⟩
    next => exact htracked
  | markDelivered ids =>
    simp only [rowAfter]
    split
    · exact tracked_status htracked rfl rfl rfl rfl rfl
    · exact htracked
  | markRefused ids reason detail =>
    simp only [rowAfter]
    split
    · cases reason <;> exact tracked_status htracked rfl rfl rfl rfl rfl
    · exact htracked
  | _ => exact htracked

theorem event_of_underway (hbase : Consistent key s) (hok : phase.Ok key s)
    (hcurrent : upToDate key op s = true) (h : advance key phase op s = some phase')
    {row : EmailDelivery} (hrow : row ∈ s.deliveries) {worker : Nat} {isMailed : Bool}
    (hholder : holder row.trace = some (worker, isMailed)) {event : DeliveryEvent}
    (hevent : eventOf key op s row = some event) :
    event = .cancelled ∨ phase.worker = some worker := by
  have hunderway : underway row = true := by rw [underway, hholder]; rfl
  have hclosed := (hbase.tracked row hrow).closed hunderway
  have hsame : ∀ {ids : List String} {other : Nat} {isMailed : Bool},
      Holding key s other ids isMailed → among key ids row = true → other = worker :=
    fun hholding hamong =>
      (Prod.mk.inj (Option.some.inj ((hholding.held row hrow hamong).1.symm.trans hholder))).1
  cases op with
  | claim path ids =>
    obtain ⟨hclaim, -⟩ := Option.ite_none_right_eq_some.mp hevent
    rw [waiting_of_claimable hclaim] at hclosed
    cases hclosed
  | send other ids address =>
    obtain ⟨rows, rfl, -, -⟩ := claimed_of_send h
    obtain ⟨hamong, -⟩ := Option.ite_none_right_eq_some.mp hevent
    exact .inr (congrArg some (hsame hok.holds hamong))
  | markSent other ids messageId =>
    obtain ⟨rows, rfl, -⟩ := mailed_of_markSent h
    obtain ⟨hamong, -⟩ := Option.ite_none_right_eq_some.mp hevent
    exact .inr (congrArg some (hsame hok.holds hamong))
  | markFailed other id error delay =>
    obtain ⟨rows, rfl, -⟩ := mailed_of_markFailed h
    obtain ⟨hamong, -⟩ := Option.ite_none_right_eq_some.mp hevent
    exact .inr (congrArg some (hsame hok.holds hamong))
  | markDigestFailed other ids error =>
    obtain ⟨rows, rfl, -⟩ := mailed_of_markDigestFailed h
    obtain ⟨hamong, -⟩ := Option.ite_none_right_eq_some.mp hevent
    exact .inr (congrArg some (hsame hok.holds hamong))
  | cancel id userId =>
    obtain ⟨-, heq⟩ := Option.ite_none_right_eq_some.mp hevent
    exact .inl (Option.some.inj heq).symm
  | retry id =>
    obtain ⟨hamong, -⟩ := Option.ite_none_right_eq_some.mp hevent
    rw [(upToDate_retry hcurrent hrow hamong).1] at hunderway
    cases hunderway
  | retryAll companyId =>
    obtain ⟨hretriable, -⟩ := Option.ite_none_right_eq_some.mp hevent
    rw [waiting_of_retriable hretriable] at hclosed
    cases hclosed
  | _ => cases hevent

theorem holding_exec {worker : Nat} {ids : List String} {isMailed : Bool}
    (h : Holding key s worker ids isMailed)
    (hheld : ∀ row ∈ s.deliveries, among key ids row = true → ∀ event,
      eventOf key op s row = some event → event = .cancelled)
    (hforeign : ∀ row event, eventOf key op s row = some event → event.worker ≠ some worker) :
    Holding key (execDelivery key op s) worker ids isMailed where
  stored id hid := by
    obtain ⟨row, hrow, hkey⟩ := h.stored id hid
    obtain ⟨row', hrow', hsame⟩ := @carried_deliveries key op s row hrow
    exact ⟨row', hrow', (congrArg key hsame.id).trans hkey⟩
  held row' hrow' hamong := by
    obtain ⟨row, hrow, rfl⟩ | hinserted := mem_deliveries_exec.mp hrow'
    · rw [among_rowAfter] at hamong
      obtain ⟨hholder, hclaimed, hincluded⟩ := h.held row hrow hamong
      refine ⟨?_, mem_trace_rowAfter.mpr (.inr hclaimed), fun hmailed => ?_⟩
      · rw [trace_rowAfter]
        cases hevent : eventOf key op s row with
        | none => exact hholder
        | some event =>
          obtain rfl := hheld row hrow hamong event hevent
          exact hholder
      · obtain ⟨at_, due, hmem⟩ := hincluded hmailed
        exact ⟨at_, due, mem_trace_rowAfter.mpr (.inr hmem)⟩
    · obtain ⟨row, -, hfree, rfl⟩ := mem_inserted hinserted
      have hnot := not_among_of_free hfree h.stored
      rw [show among key ids row = true from hamong] at hnot
      cases hnot
  others row' hrow' hamong hmem := by
    obtain ⟨row, hrow, rfl⟩ | hinserted := mem_deliveries_exec.mp hrow'
    · rw [among_rowAfter] at hamong
      obtain hevent | hmem := mem_trace_rowAfter.mp hmem
      · exact hforeign row _ hevent rfl
      · exact h.others row hrow hamong hmem
    · obtain ⟨row, -, -, rfl⟩ := mem_inserted hinserted
      cases hmem
  unmarked row' hrow' hmem := by
    obtain ⟨row, hrow, rfl⟩ | hinserted := mem_deliveries_exec.mp hrow'
    · obtain hevent | hmem := mem_trace_rowAfter.mp hmem
      · exact hforeign row _ hevent rfl
      · exact h.unmarked row hrow hmem
    · obtain ⟨row, -, -, rfl⟩ := mem_inserted hinserted
      cases hmem

theorem holding_claim (hbase : Consistent key s) {rows : List EmailDelivery} {path : ClaimPath}
    {ids : List String} (hknown : Known s rows) (hids : known rows ids = true)
    (hcurrent : upToDate key (.claim path ids) s = true)
    (hany : s.deliveries.any (claimable key path ids) = true) :
    Holding key (execDelivery key (.claim path ids) s) s.nextWorker ids false where
  stored id hid := by
    obtain ⟨row, hrow, hkey⟩ := hknown.stored hids id hid
    obtain ⟨row', hrow', hsame⟩ :=
      @carried_deliveries key (.claim path ids) s row hrow
    exact ⟨row', hrow', (congrArg key hsame.id).trans hkey⟩
  held row' hrow' hamong := by
    obtain ⟨row, hrow, rfl⟩ | hinserted := mem_deliveries_exec.mp hrow'
    · rw [among_rowAfter] at hamong
      have hclaim := upToDate_all hcurrent hany hrow hamong
      have htrace : (rowAfter key (.claim path ids) s row).trace =
          .claimed s.nextWorker :: row.trace := by
        rw [trace_rowAfter, eventOf, if_pos hclaim]
        rfl
      rw [htrace]
      exact ⟨rfl, List.mem_cons_self, fun hmailed => nomatch hmailed⟩
    · cases hinserted
  others row' hrow' hamong hmem := by
    obtain ⟨row, hrow, rfl⟩ | hinserted := mem_deliveries_exec.mp hrow'
    · rw [among_rowAfter] at hamong
      obtain hevent | hmem := mem_trace_rowAfter.mp hmem
      · obtain ⟨hclaim, -⟩ := Option.ite_none_right_eq_some.mp hevent
        rw [among_of_claimable hclaim] at hamong
        cases hamong
      · exact Nat.lt_irrefl _ (hbase.ground.drawn row hrow _ hmem _ rfl)
    · cases hinserted
  unmarked row' hrow' hmem := by
    obtain ⟨row, hrow, rfl⟩ | hinserted := mem_deliveries_exec.mp hrow'
    · obtain hevent | hmem := mem_trace_rowAfter.mp hmem
      · obtain ⟨-, heq⟩ := Option.ite_none_right_eq_some.mp hevent
        cases heq
      · exact Nat.lt_irrefl _ (hbase.ground.drawn row hrow _ hmem _ rfl)
    · cases hinserted

theorem holding_send {worker : Nat} {ids : List String} {address : String}
    (h : Holding key s worker ids false) :
    Holding key (execDelivery key (.send worker ids address) s) worker ids true where
  stored id hid := by
    obtain ⟨row, hrow, hkey⟩ := h.stored id hid
    obtain ⟨row', hrow', hsame⟩ :=
      @carried_deliveries key (.send worker ids address) s row hrow
    exact ⟨row', hrow', (congrArg key hsame.id).trans hkey⟩
  held row' hrow' hamong := by
    obtain ⟨row, hrow, rfl⟩ | hinserted := mem_deliveries_exec.mp hrow'
    · rw [among_rowAfter] at hamong
      obtain ⟨hholder, hclaimed, -⟩ := h.held row hrow hamong
      have htrace : (rowAfter key (.send worker ids address) s row).trace =
          .included worker s.now row.nextAttemptAt :: row.trace := by
        rw [trace_rowAfter, eventOf, if_pos hamong]
        rfl
      rw [htrace, holder, hholder]
      exact ⟨rfl, List.mem_cons_of_mem _ hclaimed, fun _ => ⟨_, _, List.mem_cons_self⟩⟩
    · cases hinserted
  others row' hrow' hamong hmem := by
    obtain ⟨row, hrow, rfl⟩ | hinserted := mem_deliveries_exec.mp hrow'
    · rw [among_rowAfter] at hamong
      obtain hevent | hmem := mem_trace_rowAfter.mp hmem
      · obtain ⟨hwith, -⟩ := Option.ite_none_right_eq_some.mp hevent
        rw [hamong] at hwith
        cases hwith
      · exact h.others row hrow hamong hmem
    · cases hinserted
  unmarked row' hrow' hmem := by
    obtain ⟨row, hrow, rfl⟩ | hinserted := mem_deliveries_exec.mp hrow'
    · obtain hevent | hmem := mem_trace_rowAfter.mp hmem
      · obtain ⟨-, heq⟩ := Option.ite_none_right_eq_some.mp hevent
        cases heq
      · exact h.unmarked row hrow hmem
    · cases hinserted

theorem holds_advance (hbase : Consistent key s) (hok : phase.Ok key s)
    (hcurrent : upToDate key op s = true) (h : advance key phase op s = some phase') :
    phase'.Holds key (execDelivery key op s) := by
  cases op with
  | claim path ids =>
    obtain ⟨rows, rfl, hids, rfl⟩ := knows_of_claim h
    split
    next hany => exact holding_claim hbase hok.known hids hcurrent hany
    next => trivial
  | send worker ids address =>
    obtain ⟨rows, rfl, -, rfl⟩ := claimed_of_send h
    exact holding_send hok.holds
  | markSent worker ids messageId =>
    obtain ⟨rows, -, rfl⟩ := mailed_of_markSent h
    trivial
  | markFailed worker id error delay =>
    obtain ⟨rows, -, rfl⟩ := mailed_of_markFailed h
    trivial
  | markDigestFailed worker ids error =>
    obtain ⟨rows, -, rfl⟩ := mailed_of_markDigestFailed h
    trivial
  | take row =>
    cases phase with
    | outside =>
      simp only [advance] at h
      split at h <;> (obtain rfl := Option.some.inj h; trivial)
    | _ => cases h
  | _ =>
    cases phase with
    | outside =>
      obtain rfl := Option.some.inj h
      trivial
    | _ => cases h

theorem exact_exec (hbase : Consistent key s) (hok : phase.Ok key s)
    (h : advance key phase op s = some phase') : Exact (execDelivery key op s) := by
  have hnew : ∀ {row other : EmailDelivery} {event : DeliveryEvent} {worker : Nat},
      row ∈ s.deliveries → .markedSent worker ∈ row.trace → event.worker = some worker →
        eventOf key op s other ≠ some event := by
    intro row other event worker hrow hmarked hworker hevent
    obtain ⟨rfl, -⟩ | hmine := worker_of_eventOf hevent hworker h
    · exact Nat.lt_irrefl _ (hbase.ground.drawn row hrow _ hmarked _ rfl)
    · have hholds := hok.holds
      cases phase with
      | outside | knows => cases hmine
      | claimed | mailed =>
        obtain rfl := Option.some.inj hmine
        exact hholds.unmarked row hrow hmarked
  intro worker row' hrow' hmarked other' hother'
  obtain ⟨row, hrow, rfl⟩ | hinserted := mem_deliveries_exec.mp hrow'
  swap
  · obtain ⟨row, -, -, rfl⟩ := mem_inserted hinserted
    cases hmarked
  obtain ⟨other, hother, rfl⟩ | hinserted := mem_deliveries_exec.mp hother'
  swap
  · obtain ⟨other, -, -, rfl⟩ := mem_inserted hinserted
    constructor
    · intro hmem
      cases hmem
    · rintro ⟨hmem, -⟩
      cases hmem
  obtain hevent | hold := mem_trace_rowAfter.mp hmarked
  · -- the worker records its deliveries with this statement
    cases op with
    | markSent worker' ids messageId =>
      obtain ⟨-, heq⟩ := Option.ite_none_right_eq_some.mp hevent
      obtain rfl := DeliveryEvent.markedSent.inj (Option.some.inj heq)
      obtain ⟨rows, rfl, -⟩ := mailed_of_markSent h
      cases hamong : among key ids other with
      | true =>
        obtain ⟨-, hclaimed, hincluded⟩ := hok.holds.held other hother hamong
        obtain ⟨at_, due, hmem⟩ := hincluded rfl
        refine ⟨fun _ => ⟨mem_trace_rowAfter.mpr (.inr hclaimed), at_, due,
          mem_trace_rowAfter.mpr (.inr hmem)⟩, fun _ => mem_trace_rowAfter.mpr (.inl ?_)⟩
        rw [eventOf, if_pos hamong]
      | false =>
        have hnone : eventOf key (.markSent worker' ids messageId) s other = none := by
          rw [eventOf, hamong, if_neg Bool.false_ne_true]
        rw [trace_rowAfter, hnone]
        refine ⟨fun hmem => absurd hmem (hok.holds.unmarked other hother), fun hboth => ?_⟩
        exact absurd hboth.1 (hok.holds.others other hother hamong)
    | claim | send | markFailed | markDigestFailed | cancel | retry | retryAll =>
      obtain ⟨-, heq⟩ := Option.ite_none_right_eq_some.mp hevent
      cases heq
    | _ => cases hevent
  · have hsame : ∀ event : DeliveryEvent, event.worker = some worker →
        (event ∈ (rowAfter key op s other).trace ↔ event ∈ other.trace) := fun event hworker =>
      mem_trace_rowAfter.trans (or_iff_right (hnew hrow hold hworker))
    have hincluded : IncludedBy worker (rowAfter key op s other).trace ↔
        IncludedBy worker other.trace :=
      exists_congr fun _ => exists_congr fun _ => hsame _ rfl
    rw [hsame _ rfl, hsame _ rfl, hincluded]
    exact hbase.exact_ worker row hrow hold other hother

theorem consistent_exec (hbase : Consistent key s) (hok : phase.Ok key s)
    (hcurrent : upToDate key op s = true) (h : advance key phase op s = some phase') :
    Consistent key (execDelivery key op s) where
  ground := grounded_exec hbase.ground hok.drawn h
  tracked row' hrow' := by
    rw [now_exec]
    obtain ⟨row, hrow, rfl⟩ | hinserted := mem_deliveries_exec.mp hrow'
    · exact tracked_rowAfter hbase hok hcurrent h hrow
    · obtain ⟨row, -, -, rfl⟩ := mem_inserted hinserted
      exact tracked_new rfl
  exact_ := exact_exec hbase hok h

theorem ok_advance (hbase : Consistent key s) (hok : phase.Ok key s)
    (hcurrent : upToDate key op s = true) (h : advance key phase op s = some phase') :
    phase'.Ok key (execDelivery key op s) where
  drawn := drawn_advance hok.drawn h
  known := known_advance hbase.ground hok.known h
  holds := holds_advance hbase hok hcurrent h

theorem ok_other (hbase : Consistent key s) (hok : phase.Ok key s)
    (hcurrent : upToDate key op s = true) (h : advance key phase op s = some phase')
    {other : WorkerPhase} (hother : other.Ok key s) (hapart : phase.Apart other) :
    other.Ok key (execDelivery key op s) where
  drawn worker hworker := Nat.lt_of_lt_of_le (hother.drawn worker hworker) (nextWorker_exec op s)
  known := hother.known.exec op
  holds := by
    have hheld : ∀ {worker : Nat} {ids : List String} {isMailed : Bool},
        other.worker = some worker → Holding key s worker ids isMailed →
          Holding key (execDelivery key op s) worker ids isMailed := by
      intro worker ids isMailed hworker hholding
      refine holding_exec hholding (fun row hrow hamong event hevent => ?_)
        fun row event hevent hforeign => worker_ne_of_apart hevent hforeign h hworker hother.drawn
          hapart rfl
      obtain hcancelled | hmine := event_of_underway hbase hok hcurrent h hrow
        (hholding.held row hrow hamong).1 hevent
      · exact hcancelled
      · exact absurd hworker (hapart worker hmine)
    cases other with
    | outside | knows => trivial
    | claimed | mailed => exact hheld rfl hother.holds

end Steps

section Runs

variable {toLowerCase key : String → String}

theorem queue_separate :
    Separate (mailSystem toLowerCase key) (fun op s => upToDate key op s = true) (advance key)
      (fun _ => True) .outside (Consistent key) (fun s phase => phase.Ok key s)
      WorkerPhase.Apart where
  handler _ call _ := follows_handler call
  symm h worker hother hworker := h worker hworker hother
  apart _ _ _ hworker := nomatch hworker
  start _ _ := ⟨fun _ hworker => (nomatch hworker), fun _ hrow => (nomatch hrow), trivial⟩
  exec _ _ _ _ hbase hcurrent hok h :=
    ⟨consistent_exec hbase hok hcurrent h, ok_advance hbase hok hcurrent h⟩
  frame _ _ _ _ _ hbase hcurrent hok h hother hapart :=
    ⟨ok_other hbase hok hcurrent h hother hapart, apart_advance h hother.drawn hapart⟩
  tick s hbase :=
    ⟨⟨⟨hbase.ground.distinct, hbase.ground.picked, hbase.ground.drawn⟩,
      fun row hrow => (hbase.tracked row hrow).tick, hbase.exact_⟩, fun phase hok =>
        ⟨hok.drawn, hok.known, by
          have hholds := hok.holds
          cases phase with
          | outside | knows => trivial
          | claimed | mailed =>
            exact ⟨hholds.stored, hholds.held, hholds.others, hholds.unmarked⟩⟩⟩

structure QueueLaw (s : MailQueue) : Prop where
  rows : ∀ row ∈ s.deliveries, Lawful row
  exact_ : Exact s

/-- In a run whose claims and retries find what was read, what was cancelled in time is
not sent, attempts are bounded and not early, and what a worker has recorded as sent is
what it claimed and sent. -/
theorem queue_is_safe {c₀ c : Config MailQueue DeliveryOp} (hidle : c₀.threads = [])
    (hstart : Opening key c₀.shared)
    (hrun : (mailSystem toLowerCase key).Run (fun op s => upToDate key op s = true) c₀ c) :
    QueueLaw c.shared := by
  have hconsistent : Consistent key c₀.shared := by
    refine ⟨hstart.grounded, fun row hrow => tracked_new (hstart.untraced row hrow), ?_⟩
    intro worker row hrow hmem
    rw [hstart.untraced row hrow] at hmem
    cases hmem
  have hbase := queue_separate.run hidle hrun hconsistent
  exact ⟨fun row hrow => (hbase.tracked row hrow).lawful, hbase.exact_⟩

end Runs

section Samples

def traces (c : Config MailQueue DeliveryOp) : List (List DeliveryEvent) :=
  c.shared.deliveries.map (·.trace)

def sampleDigest : DeliveryCall :=
  .processDigests (fun _ => true) fun _ => .accepted none

/-- Two deliveries go out in one digest; one that failed is retried and sent. -/
theorem queue_is_safe_digest_and_retry : ∃ c : Config MailQueue DeliveryOp,
    traces c =
      [[.markedSent 0, .included 0 1700000000000 (some 1699998200000), .claimed 0],
        [.markedSent 0, .included 0 1700000000000 (some 1699998200000), .claimed 0],
        [.markedSent 1, .included 1 1700000000000 (some 1700000000000), .claimed 1, .retried]] ∧
      QueueLaw c.shared := by
  have hplay : ((mailSystem id id).play (fun _ _ => true) (upToDate id)
      ⟨sampleQueue [sampleDelivery "delivery-1" .digestPending,
        sampleDelivery "delivery-2" .digestPending, sampleDelivery "delivery-3" .failed], []⟩
      [.start sampleDigest, .run 0, .run 0, .run 0, .run 0,
        .start (.retry "delivery-3" sampleOperator), .run 1, .run 1,
        .start .processQueue, .run 2, .run 2,
        .start (.deliver { sampleDelivery "delivery-3" .queued with
          nextAttemptAt := some 1700000000000, trace := [.retried] } (.accepted none)),
        .run 3, .run 3, .run 3, .run 3]).any (fun c => decide (traces c =
          [[.markedSent 0, .included 0 1700000000000 (some 1699998200000), .claimed 0],
            [.markedSent 0, .included 0 1700000000000 (some 1699998200000), .claimed 0],
            [.markedSent 1, .included 1 1700000000000 (some 1700000000000), .claimed 1,
              .retried]])) = true := by
    decide
  obtain ⟨c, hrun, hcheck⟩ := System.exists_run_of_play (fun _ _ _ => trivial) (fun _ _ h => h) hplay
  have hstart : Opening id (sampleQueue [sampleDelivery "delivery-1" .digestPending,
      sampleDelivery "delivery-2" .digestPending, sampleDelivery "delivery-3" .failed]) := by
    refine ⟨?_, by decide, rfl⟩
    rw [Distinct]
    decide
  exact ⟨c, of_decide_eq_true hcheck, queue_is_safe rfl hstart hrun⟩

/-- One of two deliveries is cancelled after the digest has read them. -/
theorem cancelled_delivery_sent : ∃ c : Config MailQueue DeliveryOp,
    (mailSystem id id).Run (fun _ _ => True)
      ⟨sampleQueue [sampleDelivery "delivery-1" .digestPending,
        sampleDelivery "delivery-2" .digestPending], []⟩ c ∧
    traces c =
      [[.markedSent 0, .included 0 1700000000000 (some 1699998200000), .cancelled],
        [.markedSent 0, .included 0 1700000000000 (some 1699998200000), .claimed 0]] ∧
    ¬ QueueLaw c.shared := by
  have hplay : ((mailSystem id id).play (fun _ _ => true) (fun _ _ => true)
      ⟨sampleQueue [sampleDelivery "delivery-1" .digestPending,
        sampleDelivery "delivery-2" .digestPending], []⟩
      [.start sampleDigest, .run 0, .start (.cancel "delivery-1" sampleOperator), .run 1, .run 1,
        .run 0, .run 0, .run 0]).any (fun c => decide (traces c =
          [[.markedSent 0, .included 0 1700000000000 (some 1699998200000), .cancelled],
            [.markedSent 0, .included 0 1700000000000 (some 1699998200000), .claimed 0]])) =
              true := by
    decide
  obtain ⟨c, hrun, hcheck⟩ :=
    System.exists_run_of_play (fun _ _ _ => trivial) (fun _ _ _ => trivial) hplay
  have htraces := of_decide_eq_true hcheck
  refine ⟨c, hrun, htraces, fun hlaw => ?_⟩
  obtain ⟨row, hrow, htrace⟩ := List.mem_map.mp (htraces ▸ List.mem_cons_self)
  have hspared := (hlaw.rows row hrow).spared
  rw [htrace] at hspared
  exact absurd hspared (by decide)

end Samples
end FieldserviceIT.Notifications
