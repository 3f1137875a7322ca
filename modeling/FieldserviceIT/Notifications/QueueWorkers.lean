import FieldserviceIT.Lib.Protocols
import FieldserviceIT.Notifications.QueueCalls
import FieldserviceIT.Notifications.QueueSteps

/-!
How far a worker is: which rows it has read, what it has claimed under its number and
what it has sent. Every call goes through these phases whatever it finds, so that what
holds of the queue can be shown for single statements.
-/

namespace FieldserviceIT.Notifications

open Common Lib

section Selections

variable {s : MailQueue} {row : EmailDelivery}

theorem mem_selected (h : row ∈ selected s) : row ∈ s.deliveries := by
  have hsorted := List.mem_of_mem_take h
  rw [List.mem_insertionSort] at hsorted
  exact (List.mem_filter.mp hsorted).1

theorem mem_digestRows {due : EmailDelivery → Bool} (h : row ∈ digestRows due s) :
    row ∈ s.deliveries := by
  have hsorted := List.mem_of_mem_take (List.mem_filter.mp h).1
  rw [List.mem_insertionSort] at hsorted
  exact (List.mem_filter.mp hsorted).1

/-- A group takes its rows from the selection, and they go to one address. -/
def Uniform (rows group : List EmailDelivery) : Prop :=
  (∀ row ∈ group, row ∈ rows) ∧ ∃ groupOf, ∀ row ∈ group, groupKey row = groupOf

theorem uniform_addToGroup {rows : List EmailDelivery} (hrow : row ∈ rows)
    {groups : List (List EmailDelivery)} (h : ∀ group ∈ groups, Uniform rows group) :
    ∀ group ∈ addToGroup row groups, Uniform rows group := by
  induction groups with
  | nil =>
    intro group hgroup
    obtain rfl := List.mem_singleton.mp hgroup
    refine ⟨fun other hother => ?_, groupKey row, fun other hother => ?_⟩
    · exact List.mem_singleton.mp hother ▸ hrow
    · rw [List.mem_singleton.mp hother]
  | cons first groups ih =>
    obtain ⟨hfirst, hrest⟩ := List.forall_mem_cons.mp h
    simp only [addToGroup]
    split
    next hany =>
      refine List.forall_mem_cons.mpr ⟨?_, hrest⟩
      obtain ⟨hmem, groupOf, hsame⟩ := hfirst
      obtain ⟨other, hother, hkey⟩ := List.any_eq_true.mp hany
      have hrowKey : groupKey row = groupOf := (of_decide_eq_true hkey).symm.trans (hsame _ hother)
      refine ⟨fun other hother => ?_, groupOf, fun other hother => ?_⟩
      · obtain hother | hother := List.mem_append.mp hother
        · exact hmem other hother
        · exact List.mem_singleton.mp hother ▸ hrow
      · obtain hother | hother := List.mem_append.mp hother
        · exact hsame other hother
        · rwa [List.mem_singleton.mp hother]
    next => exact List.forall_mem_cons.mpr ⟨hfirst, ih hrest⟩

theorem uniform_digestGroups (rows : List EmailDelivery) :
    ∀ group ∈ digestGroups rows, Uniform rows group := by
  have hfold : ∀ (more : List EmailDelivery) (groups : List (List EmailDelivery)),
      (∀ row ∈ more, row ∈ rows) → (∀ group ∈ groups, Uniform rows group) →
        ∀ group ∈ more.foldl (fun groups row => addToGroup row groups) groups,
          Uniform rows group := by
    intro more
    induction more with
    | nil => exact fun _ _ h => h
    | cons row more ih =>
      intro groups hmore h
      obtain ⟨hrow, hmore⟩ := List.forall_mem_cons.mp hmore
      exact ih _ hmore (uniform_addToGroup hrow h)
  exact hfold rows [] (fun _ h => h) (by simp)

end Selections

section Phases

/-- A worker knows the rows it has read; `ids` are those it has claimed. -/
inductive WorkerPhase where
  | outside
  | knows (rows : List EmailDelivery)
  | claimed (rows : List EmailDelivery) (worker : Nat) (ids : List String)
  | mailed (rows : List EmailDelivery) (worker : Nat) (ids : List String)

def WorkerPhase.worker : WorkerPhase → Option Nat
  | .claimed _ worker _ | .mailed _ worker _ => some worker
  | _ => none

def known (rows : List EmailDelivery) (ids : List String) : Bool :=
  ids.all fun id => rows.any fun row => row.id = id

/-- The mail for these ids goes where the rows that were read say. -/
def addressed (rows : List EmailDelivery) (ids : List String) (address : String) : Bool :=
  ids.all fun id => rows.any fun row => row.id = id && row.recipientEmail = address

variable (key : String → String)

def WorkerPhase.rows : WorkerPhase → List EmailDelivery
  | .outside => []
  | .knows rows | .claimed rows _ _ | .mailed rows _ _ => rows

def isOutside : DeliveryOp → Bool
  | .claim _ _ | .send _ _ _ | .markSent _ _ _ | .markFailed _ _ _ _ | .markDigestFailed _ _ _ => false
  | _ => true

def advance (phase : WorkerPhase) (op : DeliveryOp) (s : MailQueue) : Option WorkerPhase :=
  match phase, op with
  | .outside, .take row => if s.picked.contains row then some (.knows [row]) else some .outside
  | .outside, .selectDigests due => some (.knows (digestRows due s))
  | .knows rows, .claim path ids =>
    if known rows ids then
      some (if s.deliveries.any (claimable key path ids) then .claimed rows s.nextWorker ids
        else .knows rows)
    else none
  | .claimed rows worker ids, .send worker' ids' address =>
    if worker' = worker ∧ ids' = ids ∧ addressed rows ids address = true then
      some (.mailed rows worker ids)
    else none
  | .mailed rows worker ids, .markSent worker' ids' _
  | .mailed rows worker ids, .markDigestFailed worker' ids' _ =>
    if worker' = worker ∧ ids' = ids then some (.knows rows) else none
  | .mailed rows worker ids, .markFailed worker' id _ _ =>
    if worker' = worker ∧ [id] = ids then some (.knows rows) else none
  | .outside, op => if isOutside op then some .outside else none
  | _, _ => none

variable {key} {s : MailQueue} {phase phase' : WorkerPhase} {worker : Nat} {ids : List String}

theorem knows_of_claim {path : ClaimPath}
    (h : advance key phase (.claim path ids) s = some phase') :
    ∃ rows, phase = .knows rows ∧ known rows ids = true ∧ phase' =
      if s.deliveries.any (claimable key path ids) then .claimed rows s.nextWorker ids
      else .knows rows := by
  cases phase with
  | knows rows =>
    obtain ⟨hknown, heq⟩ := Option.ite_none_right_eq_some.mp h
    exact ⟨rows, rfl, hknown, (Option.some.inj heq).symm⟩
  | _ => cases h

theorem claimed_of_send {address : String}
    (h : advance key phase (.send worker ids address) s = some phase') :
    ∃ rows, phase = .claimed rows worker ids ∧ addressed rows ids address = true ∧
      phase' = .mailed rows worker ids := by
  cases phase with
  | claimed rows =>
    obtain ⟨⟨rfl, rfl, haddressed⟩, heq⟩ := Option.ite_none_right_eq_some.mp h
    exact ⟨rows, rfl, haddressed, (Option.some.inj heq).symm⟩
  | _ => cases h

theorem mailed_of_markSent {messageId : Option String}
    (h : advance key phase (.markSent worker ids messageId) s = some phase') :
    ∃ rows, phase = .mailed rows worker ids ∧ phase' = .knows rows := by
  cases phase with
  | mailed rows =>
    obtain ⟨⟨rfl, rfl⟩, heq⟩ := Option.ite_none_right_eq_some.mp h
    exact ⟨rows, rfl, (Option.some.inj heq).symm⟩
  | _ => cases h

theorem mailed_of_markFailed {id error : String} {delay : Nat}
    (h : advance key phase (.markFailed worker id error delay) s = some phase') :
    ∃ rows, phase = .mailed rows worker [id] ∧ phase' = .knows rows := by
  cases phase with
  | mailed rows =>
    obtain ⟨⟨rfl, rfl⟩, heq⟩ := Option.ite_none_right_eq_some.mp h
    exact ⟨rows, rfl, (Option.some.inj heq).symm⟩
  | _ => cases h

theorem mailed_of_markDigestFailed {error : String}
    (h : advance key phase (.markDigestFailed worker ids error) s = some phase') :
    ∃ rows, phase = .mailed rows worker ids ∧ phase' = .knows rows := by
  cases phase with
  | mailed rows =>
    obtain ⟨⟨rfl, rfl⟩, heq⟩ := Option.ite_none_right_eq_some.mp h
    exact ⟨rows, rfl, (Option.some.inj heq).symm⟩
  | _ => cases h

end Phases

section Handlers

variable {key : String → String} {allowed : DeliveryOp → MailQueue → Prop}

def Follows (key : String → String) (allowed : DeliveryOp → MailQueue → Prop)
    (p : DeliveryProgram) (phase : WorkerPhase) : Prop :=
  p.Conforms allowed (advance key) (fun _ => True) phase

theorem follows_done {phase : WorkerPhase} : Follows key allowed .done phase :=
  trivial

theorem follows_step {op : DeliveryOp} {next : MailQueue → DeliveryProgram} {phase : WorkerPhase}
    (phase' : MailQueue → WorkerPhase) (hadvance : ∀ s, advance key phase op s = some (phase' s))
    (hnext : ∀ s, Follows key allowed (next s) (phase' s)) :
    Follows key allowed (.step op next) phase :=
  Prog.conforms_step phase' (fun s _ => hadvance s) fun s _ => hnext s

/-- The statement is none of a worker's, nor one by which a call becomes a worker. -/
def staysOutside : DeliveryOp → Bool
  | .take _ | .selectDigests _ => false
  | op => isOutside op

theorem advance_staysOutside {op : DeliveryOp} (hop : staysOutside op = true) (s : MailQueue) :
    advance key .outside op s = some .outside := by
  cases op <;> first | rfl | cases hop

theorem follows_outside {p : DeliveryProgram} (h : p.All fun op => staysOutside op = true) :
    Follows key allowed p .outside := by
  induction p with
  | done | fail => trivial
  | step op next ih =>
    exact follows_step (fun _ => .outside) (advance_staysOutside h.1) fun s => ih s (h.2 s)

end Handlers

section Outside

variable {toLowerCase key : String → String}

theorem outside_step {op : DeliveryOp} {next : MailQueue → DeliveryProgram}
    (hop : staysOutside op = true) (hnext : ∀ s, (next s).All fun op => staysOutside op = true) :
    (Prog.step op next).All fun op => staysOutside op = true :=
  ⟨hop, hnext⟩

theorem outside_insertDelivery (row : EmailDelivery) :
    (insertDelivery key row).All fun op => staysOutside op = true :=
  outside_step rfl fun s => by split <;> trivial

theorem outside_ensurePreferences (id userId : String) {next : Option PreferenceRow → DeliveryProgram}
    (hnext : ∀ row, (next row).All fun op => staysOutside op = true) :
    (ensurePreferences key id userId next).All fun op => staysOutside op = true := by
  refine outside_step rfl fun s => ?_
  split
  · exact hnext _
  · exact outside_step rfl fun _ => outside_step rfl fun s' => hnext _

theorem outside_suppressAll (reason : SuppressionReason) (emails : List String) :
    (suppressAll reason emails).All fun op => staysOutside op = true := by
  induction emails with
  | nil => trivial
  | cons email emails ih => exact outside_step rfl fun _ => ih

theorem outside_enqueue (ids : String × String) (input : DeliveryInput) :
    (enqueue toLowerCase key ids input).All fun op => staysOutside op = true := by
  simp only [enqueue]
  split
  · trivial
  · refine outside_step rfl fun s => ?_
    split
    · exact outside_ensurePreferences _ _ fun _ => outside_insertDelivery _
    · exact outside_insertDelivery _

theorem outside_unsubscribe (id : String) (email : Option String) :
    (unsubscribe toLowerCase key id email).All fun op => staysOutside op = true := by
  cases email with
  | none => trivial
  | some email =>
    refine outside_step rfl fun _ => outside_step rfl fun s => ?_
    split
    · trivial
    · exact outside_ensurePreferences _ _ fun _ => outside_step rfl fun _ => trivial

theorem outside_resubscribe (id userId email : String) :
    (resubscribe toLowerCase key id userId email).All fun op => staysOutside op = true :=
  outside_ensurePreferences _ _ fun _ =>
    outside_step rfl fun _ => outside_step rfl fun _ => trivial

theorem outside_recordProviderEvent (event : String) (deliveryId messageId email : Option String)
    (detail : String) :
    (recordProviderEvent toLowerCase key event deliveryId messageId email detail).All
      fun op => staysOutside op = true := by
  simp only [recordProviderEvent]
  split
  · trivial
  next event _ =>
    split
    · trivial
    · refine outside_step rfl fun s => ?_
      split
      · trivial
      · cases event with
        | delivered => exact outside_step rfl fun _ => trivial
        | bounce | complaint => exact outside_step rfl fun _ => outside_suppressAll _ _

theorem outside_cancel (id : String) (user : CurrentUser) :
    (cancel key id user).All fun op => staysOutside op = true := by
  simp only [cancel]
  split
  · trivial
  · refine outside_step rfl fun s => ?_
    split
    · trivial
    · split
      · trivial
      · exact outside_step rfl fun _ => trivial

theorem outside_retry (id : String) (user : CurrentUser) :
    (retry key id user).All fun op => staysOutside op = true := by
  simp only [retry]
  split
  · trivial
  · refine outside_step rfl fun s => ?_
    split
    · trivial
    · split
      · trivial
      · split
        · trivial
        · exact outside_step rfl fun _ => trivial

theorem outside_resend (newId id : String) (user : CurrentUser) :
    (resend key newId id user).All fun op => staysOutside op = true := by
  simp only [resend]
  split
  · trivial
  · refine outside_step rfl fun s => ?_
    split
    · trivial
    · split
      · trivial
      · exact outside_insertDelivery _

end Outside

section Workers

variable {toLowerCase key : String → String} {allowed : DeliveryOp → MailQueue → Prop}

theorem follows_deliver (row : EmailDelivery) (transport : Transport) :
    Follows key allowed (deliver key row transport) .outside := by
  refine follows_step (fun s => if s.picked.contains row then .knows [row] else .outside)
    (fun s => ?_) fun s => ?_
  · simp only [advance]
    split <;> rfl
  cases hpicked : s.picked.contains row with
  | false => exact follows_done
  | true =>
    rw [if_pos rfl]
    refine follows_step (fun s => if s.deliveries.any (claimable key .single [row.id]) then
      .claimed [row] s.nextWorker [row.id] else .knows [row])
      (fun _ => if_pos (by simp [known])) fun s => ?_
    cases hclaimed : s.deliveries.any (claimable key .single [row.id]) with
    | false => exact follows_done
    | true =>
      rw [if_pos rfl]
      refine follows_step (fun _ => .mailed [row] s.nextWorker [row.id])
        (fun _ => if_pos ⟨rfl, rfl, by simp [addressed]⟩) fun _ => ?_
      cases transport with
      | accepted messageId =>
        exact follows_step (fun _ => .knows [row]) (fun _ => if_pos ⟨rfl, rfl⟩)
          fun _ => follows_done
      | failed error =>
        exact follows_step (fun _ => .knows [row]) (fun _ => if_pos ⟨rfl, rfl⟩)
          fun _ => follows_done

theorem known_of_uniform {rows group : List EmailDelivery} (h : Uniform rows group) :
    known rows (idsOf group) = true := by
  refine List.all_eq_true.mpr fun id hid => ?_
  obtain ⟨row, hrow, rfl⟩ := List.mem_map.mp hid
  exact List.any_eq_true.mpr ⟨row, h.1 row hrow, decide_eq_true rfl⟩

theorem addressed_of_uniform {rows group : List EmailDelivery} {first : EmailDelivery}
    (h : Uniform rows group) (hfirst : first ∈ group) :
    addressed rows (idsOf group) first.recipientEmail = true := by
  obtain ⟨hmem, groupOf, hsame⟩ := h
  refine List.all_eq_true.mpr fun id hid => ?_
  obtain ⟨row, hrow, rfl⟩ := List.mem_map.mp hid
  have haddress : row.recipientEmail = first.recipientEmail :=
    congrArg Prod.snd ((hsame row hrow).trans (hsame first hfirst).symm)
  refine List.any_eq_true.mpr ⟨row, hmem row hrow, ?_⟩
  rw [decide_eq_true rfl, decide_eq_true haddress]
  rfl

theorem follows_deliverDigest {rows group : List EmailDelivery} (hgroup : Uniform rows group)
    (transport : Transport) {rest : DeliveryProgram}
    (hrest : Follows key allowed rest (.knows rows)) :
    Follows key allowed (deliverDigest key group transport rest) (.knows rows) := by
  cases group with
  | nil => exact hrest
  | cons first group =>
    refine follows_step (fun s =>
      if s.deliveries.any (claimable key .digest (idsOf (first :: group))) then
        .claimed rows s.nextWorker (idsOf (first :: group)) else .knows rows)
      (fun _ => if_pos (known_of_uniform hgroup)) fun s => ?_
    cases hclaimed : s.deliveries.any (claimable key .digest (idsOf (first :: group))) with
    | false => exact hrest
    | true =>
      rw [if_pos rfl]
      refine follows_step (fun _ => .mailed rows s.nextWorker (idsOf (first :: group)))
        (fun _ => if_pos ⟨rfl, rfl, addressed_of_uniform hgroup List.mem_cons_self⟩) fun _ => ?_
      cases transport with
      | accepted messageId =>
        exact follows_step (fun _ => .knows rows) (fun _ => if_pos ⟨rfl, rfl⟩) fun _ => hrest
      | failed error =>
        exact follows_step (fun _ => .knows rows) (fun _ => if_pos ⟨rfl, rfl⟩) fun _ => hrest

theorem follows_deliverDigests {rows : List EmailDelivery} (transport : EmailDelivery → Transport)
    {groups : List (List EmailDelivery)} (h : ∀ group ∈ groups, Uniform rows group) :
    Follows key allowed (deliverDigests key transport groups) (.knows rows) := by
  induction groups with
  | nil => exact follows_done
  | cons group groups ih =>
    obtain ⟨hgroup, hrest⟩ := List.forall_mem_cons.mp h
    simp only [deliverDigests]
    split
    · exact ih hrest
    · exact follows_deliverDigest hgroup _ (ih hrest)

theorem follows_processDigests (due : EmailDelivery → Bool) (transport : EmailDelivery → Transport) :
    Follows key allowed (processDigests key due transport) .outside :=
  follows_step (fun s => .knows (digestRows due s)) (fun _ => rfl) fun s =>
    follows_deliverDigests transport (uniform_digestGroups (digestRows due s))

theorem follows_handler (call : DeliveryCall) :
    Follows key allowed (call.handler toLowerCase key) .outside := by
  cases call with
  | enqueue ids input => exact follows_outside (outside_enqueue ids input)
  | unsubscribe id email => exact follows_outside (outside_unsubscribe id email)
  | resubscribe id userId email => exact follows_outside (outside_resubscribe id userId email)
  | recordProviderEvent event deliveryId messageId email detail =>
    exact follows_outside (outside_recordProviderEvent event deliveryId messageId email detail)
  | cancel id user => exact follows_outside (outside_cancel id user)
  | resend newId id user => exact follows_outside (outside_resend newId id user)
  | retry id user => exact follows_outside (outside_retry id user)
  | retryAll user =>
    refine follows_outside ?_
    simp only [DeliveryCall.handler, retryAll]
    split
    · trivial
    · exact outside_step rfl fun _ => trivial
  | setPaused user paused =>
    refine follows_outside ?_
    simp only [DeliveryCall.handler, setPaused]
    split
    · trivial
    · exact outside_step rfl fun _ => trivial
  | processQueue =>
    refine follows_outside (outside_step rfl fun s => ?_)
    split
    · trivial
    · exact outside_step rfl fun _ => trivial
  | deliver row transport => exact follows_deliver row transport
  | processDigests due transport => exact follows_processDigests due transport

end Workers

section Ground

variable {key : String → String} {s : MailQueue}

def DeliveryEvent.worker : DeliveryEvent → Option Nat
  | .claimed worker | .included worker _ _ | .markedSent worker | .markedFailed worker =>
    some worker
  | .cancelled | .retried => none

/-- Ids are given once, what was picked is stored, and numbers of workers are drawn in
order. -/
structure Grounded (key : String → String) (s : MailQueue) : Prop where
  distinct : Distinct (fun row : EmailDelivery => key row.id) s.deliveries
  picked : ∀ row ∈ s.picked, ∃ stored ∈ s.deliveries, SameMail row stored
  drawn : ∀ row ∈ s.deliveries, ∀ event ∈ row.trace, ∀ worker, event.worker = some worker →
    worker < s.nextWorker

def Known (s : MailQueue) (rows : List EmailDelivery) : Prop :=
  ∀ row ∈ rows, ∃ stored ∈ s.deliveries, SameMail row stored

theorem Known.exec {rows : List EmailDelivery} (h : Known s rows) (op : DeliveryOp) :
    Known (execDelivery key op s) rows := by
  intro row hrow
  obtain ⟨stored, hstored, hsame⟩ := h row hrow
  obtain ⟨stored', hstored', hsame'⟩ := @carried_deliveries key op s stored hstored
  exact ⟨stored', hstored', hsame.trans hsame'⟩

theorem Known.stored {rows : List EmailDelivery} {ids : List String} (h : Known s rows)
    (hknown : known rows ids = true) :
    ∀ id ∈ ids, ∃ row ∈ s.deliveries, key row.id = key id := by
  intro id hid
  obtain ⟨row, hrow, hsame⟩ := List.any_eq_true.mp (List.all_eq_true.mp hknown id hid)
  obtain ⟨stored, hstored, hmail⟩ := h row hrow
  exact ⟨stored, hstored, congrArg key (hmail.id.trans (of_decide_eq_true hsame))⟩

theorem Known.address {rows : List EmailDelivery} {ids : List String} {address : String}
    (h : Known s rows) (hbase : Grounded key s) (haddressed : addressed rows ids address = true)
    {row : EmailDelivery} (hrow : row ∈ s.deliveries) (hamong : among key ids row = true) :
    row.recipientEmail = address := by
  obtain ⟨id, hid, hkey⟩ := among_iff.mp hamong
  obtain ⟨read, hread, hsame⟩ := List.any_eq_true.mp (List.all_eq_true.mp haddressed id hid)
  rw [Bool.and_eq_true, decide_eq_true_eq, decide_eq_true_eq] at hsame
  obtain ⟨stored, hstored, hmail⟩ := h read hread
  obtain rfl := hbase.distinct.eq_of_key hrow hstored
    (hkey.symm.trans (congrArg key (hsame.1.symm.trans hmail.id.symm)))
  exact hmail.recipientEmail.trans hsame.2

theorem distinct_exec (h : Distinct (fun row : EmailDelivery => key row.id) s.deliveries)
    (op : DeliveryOp) :
    Distinct (fun row : EmailDelivery => key row.id) (execDelivery key op s).deliveries := by
  have hmap : Distinct (fun row : EmailDelivery => key row.id)
      (s.deliveries.map (rowAfter key op s)) := by
    rw [Distinct, List.map_map]
    refine (congrArg List.Nodup (List.map_congr_left fun row _ => ?_)).mpr h
    exact congrArg key (sameMail_rowAfter op s row).id
  rw [deliveries_exec]
  cases op with
  | insert row =>
    simp only [inserted]
    split
    · rwa [List.append_nil]
    next hfree =>
      refine hmap.append fun other hother hkey => hfree ?_
      obtain ⟨old, hold, rfl⟩ := List.mem_map.mp hother
      refine List.any_eq_true.mpr ⟨old, hold, decide_eq_true ?_⟩
      rwa [(sameMail_rowAfter _ s old).id] at hkey
  | _ =>
    rw [inserted, List.append_nil]
    · exact hmap
    all_goals simp

/-- The number in an event is that of the worker whose statement it is: the one it has,
or the next one when it claims. -/
theorem worker_of_eventOf {op : DeliveryOp} {row : EmailDelivery} {event : DeliveryEvent}
    {worker : Nat} {phase phase' : WorkerPhase} (hevent : eventOf key op s row = some event)
    (hworker : event.worker = some worker) (h : advance key phase op s = some phase') :
    (worker = s.nextWorker ∧ (execDelivery key op s).nextWorker = s.nextWorker + 1) ∨
      phase.worker = some worker := by
  cases op with
  | claim path ids =>
    obtain ⟨-, heq⟩ := Option.ite_none_right_eq_some.mp hevent
    cases heq
    cases hworker
    exact .inl ⟨rfl, rfl⟩
  | send | markSent | markFailed | markDigestFailed =>
    obtain ⟨-, heq⟩ := Option.ite_none_right_eq_some.mp hevent
    cases heq
    cases hworker
    cases phase with
    | claimed | mailed =>
      first
        | (obtain ⟨⟨rfl, -⟩, -⟩ := Option.ite_none_right_eq_some.mp h
           exact .inr rfl)
        | cases h
    | _ => cases h
  | cancel | retry | retryAll =>
    obtain ⟨-, heq⟩ := Option.ite_none_right_eq_some.mp hevent
    cases heq
    cases hworker
  | _ => cases hevent

theorem worker_of_advance {op : DeliveryOp} {phase phase' : WorkerPhase}
    (h : advance key phase op s = some phase') :
    phase'.worker = none ∨ phase'.worker = phase.worker ∨
      (phase'.worker = some s.nextWorker ∧
        (execDelivery key op s).nextWorker = s.nextWorker + 1) := by
  cases op with
  | claim path ids =>
    obtain ⟨rows, rfl, -, rfl⟩ := knows_of_claim h
    split
    · exact .inr (.inr ⟨rfl, rfl⟩)
    · exact .inl rfl
  | _ => cases phase <;> grind [advance, WorkerPhase.worker, isOutside]

def WorkerPhase.Drawn (s : MailQueue) (phase : WorkerPhase) : Prop :=
  ∀ worker, phase.worker = some worker → worker < s.nextWorker

def WorkerPhase.Apart (phase other : WorkerPhase) : Prop :=
  ∀ worker, phase.worker = some worker → other.worker ≠ some worker

theorem apart_advance {op : DeliveryOp} {phase phase' other : WorkerPhase}
    (h : advance key phase op s = some phase') (hdrawn : other.Drawn s)
    (hapart : phase.Apart other) : phase'.Apart other := by
  intro worker hworker hother
  obtain hnone | hsame | hnew := worker_of_advance h
  · cases hnone.symm.trans hworker
  · exact hapart worker (hsame.symm.trans hworker) hother
  · obtain rfl := Option.some.inj (hnew.1.symm.trans hworker)
    exact Nat.lt_irrefl _ (hdrawn _ hother)

theorem drawn_advance {op : DeliveryOp} {phase phase' : WorkerPhase} (hdrawn : phase.Drawn s)
    (h : advance key phase op s = some phase') : phase'.Drawn (execDelivery key op s) := by
  intro worker hworker
  obtain hnone | hsame | hnew := worker_of_advance h
  · cases hnone.symm.trans hworker
  · exact Nat.lt_of_lt_of_le (hdrawn worker (hsame.symm.trans hworker)) (nextWorker_exec op s)
  · obtain rfl := Option.some.inj (hnew.1.symm.trans hworker)
    rw [hnew.2]
    exact Nat.lt_succ_self _

theorem worker_ne_of_apart {op : DeliveryOp} {row : EmailDelivery} {event : DeliveryEvent}
    {worker other : Nat} {phase phase' otherPhase : WorkerPhase}
    (hevent : eventOf key op s row = some event) (hworker : event.worker = some worker)
    (h : advance key phase op s = some phase') (hother : otherPhase.worker = some other)
    (hdrawn : otherPhase.Drawn s) (hapart : phase.Apart otherPhase) : worker ≠ other := by
  rintro rfl
  obtain ⟨rfl, -⟩ | hmine := worker_of_eventOf hevent hworker h
  · exact Nat.lt_irrefl _ (hdrawn _ hother)
  · exact hapart _ hmine hother

theorem grounded_exec (hbase : Grounded key s) {op : DeliveryOp} {phase phase' : WorkerPhase}
    (hdrawn : phase.Drawn s) (h : advance key phase op s = some phase') :
    Grounded key (execDelivery key op s) where
  distinct := distinct_exec hbase.distinct op
  picked row hrow := by
    obtain hold | hnew := mem_picked_exec hrow
    · obtain ⟨stored, hstored, hsame⟩ := hbase.picked row hold
      obtain ⟨stored', hstored', hsame'⟩ := carried_deliveries op s stored hstored
      exact ⟨stored', hstored', hsame.trans hsame'⟩
    · exact carried_deliveries op s row (mem_selected hnew)
  drawn row' hrow' event hevent worker hworker := by
    have hnext := @nextWorker_exec key op s
    obtain ⟨row, hrow, rfl⟩ | hinserted := mem_deliveries_exec.mp hrow'
    · obtain hnew | hold := mem_trace_rowAfter.mp hevent
      · obtain ⟨rfl, hdraws⟩ | hmine := worker_of_eventOf hnew hworker h
        · rw [hdraws]
          exact Nat.lt_succ_self _
        · exact Nat.lt_of_lt_of_le (hdrawn _ hmine) hnext
      · exact Nat.lt_of_lt_of_le (hbase.drawn row hrow event hold worker hworker) hnext
    · obtain ⟨row, -, -, rfl⟩ := mem_inserted hinserted
      cases hevent

theorem rows_of_advance {op : DeliveryOp} {phase phase' : WorkerPhase}
    (h : advance key phase op s = some phase') :
    ∀ row ∈ phase'.rows, row ∈ phase.rows ∨ row ∈ s.picked ∨ row ∈ s.deliveries := by
  have hdigest : ∀ due row, row ∈ digestRows due s → row ∈ s.deliveries := fun _ _ => mem_digestRows
  cases phase <;> cases op <;> grind [advance, WorkerPhase.rows, isOutside]

theorem known_advance (hbase : Grounded key s) {op : DeliveryOp} {phase phase' : WorkerPhase}
    (hknown : Known s phase.rows) (h : advance key phase op s = some phase') :
    Known (execDelivery key op s) phase'.rows := by
  refine Known.exec (fun row hrow => ?_) op
  obtain hold | hpicked | hstored := rows_of_advance h row hrow
  · exact hknown row hold
  · exact hbase.picked row hpicked
  · exact ⟨row, hstored, .refl row⟩

/-- A queue before any worker is under way: any deliveries, with ids of their own. -/
structure Opening (key : String → String) (s : MailQueue) : Prop where
  distinct : Distinct (fun row : EmailDelivery => key row.id) s.deliveries
  untraced : ∀ row ∈ s.deliveries, row.trace = []
  unpicked : s.picked = []

theorem Opening.grounded (h : Opening key s) : Grounded key s where
  distinct := h.distinct
  picked row hrow := by
    rw [h.unpicked] at hrow
    cases hrow
  drawn row hrow event hevent := by
    rw [h.untraced row hrow] at hevent
    cases hevent

end Ground
end FieldserviceIT.Notifications
