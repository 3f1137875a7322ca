import FieldserviceIT.Notifications.Queue

/-!
What a statement does to the queue, row by row: what becomes of each delivery, what is
added to its trace, and which deliveries are new.
-/

namespace FieldserviceIT.Notifications

open Lib

section Effect

variable (key : String → String)

def rowAfter (op : DeliveryOp) (s : MailQueue) (row : EmailDelivery) : EmailDelivery :=
  match op with
  | .claim path ids => if claimable key path ids row then row.claimed s.nextWorker else row
  | .send worker ids _ => if among key ids row then row.included s.now worker else row
  | .markSent worker ids messageId =>
    if among key ids row then row.markedSent s.now worker messageId else row
  | .markFailed worker id error delayMinutes =>
    if among key [id] row then row.markedFailed s.now worker error delayMinutes else row
  | .markDigestFailed worker ids error =>
    if among key ids row then row.markedDigestFailed worker error else row
  | .cancel id userId => if among key [id] row then row.wasCancelled s.now userId else row
  | .retry id => if among key [id] row then row.retried s.now else row
  | .retryAll companyId => if retriable key companyId row then row.retriedAll s.now else row
  | .markDelivered ids =>
    if among key ids row && (row.status = .sent || row.status = .delivered) then
      row.wasDelivered s.now
    else row
  | .markRefused ids reason detail =>
    if among key ids row then row.wasRefused s.now reason detail else row
  | _ => row

def inserted (op : DeliveryOp) (s : MailQueue) : List EmailDelivery :=
  match op with
  | .insert row =>
    if taken key row.id s then []
    else [{ row with createdAt := s.now, nextAttemptAt := some s.now, trace := [] }]
  | _ => []

def eventOf (op : DeliveryOp) (s : MailQueue) (row : EmailDelivery) : Option DeliveryEvent :=
  match op with
  | .claim path ids => if claimable key path ids row then some (.claimed s.nextWorker) else none
  | .send worker ids _ =>
    if among key ids row then some (.included worker s.now row.nextAttemptAt) else none
  | .markSent worker ids _ => if among key ids row then some (.markedSent worker) else none
  | .markFailed worker id _ _ => if among key [id] row then some (.markedFailed worker) else none
  | .markDigestFailed worker ids _ =>
    if among key ids row then some (.markedFailed worker) else none
  | .cancel id _ => if among key [id] row then some .cancelled else none
  | .retry id => if among key [id] row then some .retried else none
  | .retryAll companyId => if retriable key companyId row then some .retried else none
  | _ => none

variable {key} {s : MailQueue}

theorem deliveries_exec (op : DeliveryOp) (s : MailQueue) :
    (execDelivery key op s).deliveries =
      s.deliveries.map (rowAfter key op s) ++ inserted key op s := by
  have hsame : ∀ f : EmailDelivery → EmailDelivery, f = (fun row => row) →
      s.deliveries = s.deliveries.map f ++ [] := by
    rintro f rfl
    rw [List.map_id', List.append_nil]
  cases op with
  | insert row =>
    simp only [execDelivery, inserted]
    split
    · exact hsame _ rfl
    · exact congrArg (· ++ _) (List.map_id' s.deliveries).symm
  | ensurePreferences id userId =>
    simp only [execDelivery, inserted]
    split
    · exact hsame _ rfl
    · exact hsame _ rfl
  | claim | send | markSent | markFailed | markDigestFailed | cancel | retry | retryAll
  | markDelivered | markRefused => exact (List.append_nil _).symm
  | _ => exact hsame _ rfl

theorem mem_deliveries_exec {op : DeliveryOp} {row' : EmailDelivery} :
    row' ∈ (execDelivery key op s).deliveries ↔
      (∃ row ∈ s.deliveries, rowAfter key op s row = row') ∨ row' ∈ inserted key op s := by
  rw [deliveries_exec, List.mem_append, List.mem_map]

theorem mem_inserted {op : DeliveryOp} {row' : EmailDelivery} (h : row' ∈ inserted key op s) :
    ∃ row, op = .insert row ∧ taken key row.id s = false ∧
      row' = { row with createdAt := s.now, nextAttemptAt := some s.now, trace := [] } := by
  cases op with
  | insert row =>
    simp only [inserted] at h
    split at h
    · cases h
    next hfree => exact ⟨row, rfl, Bool.eq_false_iff.mpr hfree, List.mem_singleton.mp h⟩
  | _ => cases h

/-- What a delivery keeps for good. -/
structure SameMail (row row' : EmailDelivery) : Prop where
  id : row'.id = row.id
  recipientEmail : row'.recipientEmail = row.recipientEmail
  maxAttempts : row'.maxAttempts = row.maxAttempts

theorem SameMail.refl (row : EmailDelivery) : SameMail row row :=
  ⟨rfl, rfl, rfl⟩

theorem SameMail.trans {a b c : EmailDelivery} (h : SameMail a b) (h' : SameMail b c) :
    SameMail a c :=
  ⟨h'.id.trans h.id, h'.recipientEmail.trans h.recipientEmail,
    h'.maxAttempts.trans h.maxAttempts⟩

theorem sameMail_rowAfter (op : DeliveryOp) (s : MailQueue) (row : EmailDelivery) :
    SameMail row (rowAfter key op s row) := by
  have hif : ∀ {p : Bool} {row' : EmailDelivery}, SameMail row row' →
      SameMail row (if p then row' else row) := by
    intro p row' h
    split
    · exact h
    · exact .refl row
  cases op with
  | markRefused ids reason detail =>
    refine hif ?_
    cases reason <;> exact ⟨rfl, rfl, rfl⟩
  | claim | send | markSent | markFailed | markDigestFailed | cancel | retry | retryAll
  | markDelivered => exact hif ⟨rfl, rfl, rfl⟩
  | _ => exact .refl row

theorem trace_rowAfter (op : DeliveryOp) (s : MailQueue) (row : EmailDelivery) :
    (rowAfter key op s row).trace = (eventOf key op s row).toList ++ row.trace := by
  have hif : ∀ {p : Bool} {row' : EmailDelivery} {event : DeliveryEvent},
      row'.trace = event :: row.trace →
        (if p then row' else row).trace =
          (if p then some event else none).toList ++ row.trace := by
    intro p row' event h
    split
    · exact h
    · rfl
  cases op with
  | markDelivered ids =>
    simp only [rowAfter]
    split <;> rfl
  | markRefused ids reason detail =>
    simp only [rowAfter]
    split
    · cases reason <;> rfl
    · rfl
  | claim | send | markSent | markFailed | markDigestFailed | cancel | retry | retryAll =>
    exact hif rfl
  | _ => rfl

theorem mem_trace_rowAfter {op : DeliveryOp} {row : EmailDelivery} {event : DeliveryEvent} :
    event ∈ (rowAfter key op s row).trace ↔ eventOf key op s row = some event ∨ event ∈ row.trace := by
  rw [trace_rowAfter, List.mem_append, Option.mem_toList]

theorem among_rowAfter (op : DeliveryOp) (s : MailQueue) (ids : List String)
    (row : EmailDelivery) : among key ids (rowAfter key op s row) = among key ids row := by
  rw [among, among, (sameMail_rowAfter op s row).id]

theorem carried_deliveries (op : DeliveryOp) (s : MailQueue) :
    Carried SameMail s.deliveries (execDelivery key op s).deliveries :=
  fun row hrow => ⟨_, mem_deliveries_exec.mpr (.inl ⟨row, hrow, rfl⟩), sameMail_rowAfter op s row⟩

theorem nextWorker_exec (op : DeliveryOp) (s : MailQueue) :
    s.nextWorker ≤ (execDelivery key op s).nextWorker := by
  cases op with
  | insert | ensurePreferences =>
    simp only [execDelivery]
    split <;> exact Nat.le_refl _
  | claim => exact Nat.le_succ _
  | _ => exact Nat.le_refl _

theorem now_exec (op : DeliveryOp) (s : MailQueue) : (execDelivery key op s).now = s.now := by
  cases op with
  | insert | ensurePreferences =>
    simp only [execDelivery]
    split <;> rfl
  | _ => rfl

theorem mem_picked_exec {op : DeliveryOp} {row : EmailDelivery}
    (h : row ∈ (execDelivery key op s).picked) : row ∈ s.picked ∨ row ∈ selected s := by
  cases op with
  | insert | ensurePreferences =>
    simp only [execDelivery] at h
    split at h <;> exact .inl h
  | pick => exact List.mem_append.mp h
  | _ => exact .inl h

end Effect

section Among

variable {key : String → String} {ids : List String} {row other : EmailDelivery}

theorem among_iff : among key ids row = true ↔ ∃ id ∈ ids, key id = key row.id := by
  simp only [among, List.any_eq_true, decide_eq_true_eq]

theorem among_of_claimable {path : ClaimPath} (h : claimable key path ids row = true) :
    among key ids row = true := by
  rw [claimable, Bool.and_eq_true] at h
  exact h.1

theorem not_among_of_free {s : MailQueue} (hfree : taken key row.id s = false)
    (hstored : ∀ id ∈ ids, ∃ other ∈ s.deliveries, key other.id = key id) :
    among key ids row = false := by
  refine Bool.eq_false_iff.mpr fun hamong => ?_
  obtain ⟨id, hid, hkey⟩ := among_iff.mp hamong
  obtain ⟨other, hother, hsame⟩ := hstored id hid
  have htaken : taken key row.id s = true :=
    List.any_eq_true.mpr ⟨other, hother, decide_eq_true (hsame.trans hkey)⟩
  rw [hfree] at htaken
  cases htaken

end Among

section Waiting

/-- The worker has given a mail with the delivery to the transport. -/
def IncludedBy (worker : Nat) (trace : List DeliveryEvent) : Prop :=
  ∃ at_ due, .included worker at_ due ∈ trace

/-- A worker may claim the delivery, or an operator have it retried. -/
def isWaiting (status : DeliveryStatus) : Bool :=
  status = .queued || status = .failed || status = .digestPending

variable {key : String → String}

theorem waiting_of_takes {path : ClaimPath} {status : DeliveryStatus}
    (h : path.takes status = true) : isWaiting status = true := by
  cases path <;> cases status <;> first | rfl | cases h

theorem waiting_of_claimable {path : ClaimPath} {ids : List String} {row : EmailDelivery}
    (h : claimable key path ids row = true) : isWaiting row.status = true := by
  rw [claimable, Bool.and_eq_true] at h
  exact waiting_of_takes h.2

theorem waiting_of_retriable {companyId : Option String} {row : EmailDelivery}
    (h : retriable key companyId row = true) : isWaiting row.status = true := by
  rw [retriable, Bool.and_eq_true, decide_eq_true_eq] at h
  rw [isWaiting, h.1]
  rfl

end Waiting
end FieldserviceIT.Notifications
