import FieldserviceIT.Notifications.EscalationRuns

/-!
A run over the tickets it has selected. What the levels come to is seen from the state the run
starts in, as no two of its escalations are of the same level of a ticket.
-/

namespace FieldserviceIT.Notifications.Escalations

open Lib

variable {toLowerCase : String → String} {faults : RunFaults} {s : EscalationStore}

section Steps

theorem isRecorded_iff {key : String × Level} : isRecorded s key = true ↔ Recorded s key := by
  simp [isRecorded, Recorded]

theorem recorded_record {task : Task} {key : String × Level} :
    Recorded (record task s) key ↔ task.key = key ∨ Recorded s key := by
  simp [Recorded, record, Escalation.key, Task.key]

def records (toLowerCase : String → String) (faults : RunFaults) (s : EscalationStore)
    (task : Task) : Bool :=
  !stops toLowerCase faults s task && !(s.desk.unique toLowerCase task).isEmpty

/-- What an escalation comes to: it throws at first, it has nothing to do, or it records its level
and goes on with the mails. -/
theorem queue_cases (toLowerCase : String → String) (faults : RunFaults) (s : EscalationStore)
    (task : Task) :
    (stops toLowerCase faults s task = true ∧
      queueSlaEscalation toLowerCase (faults.escalation task.key) task s = (false, s)) ∨
    (stops toLowerCase faults s task = false ∧
      (s.desk.unique toLowerCase task = [] ∨ Recorded s task.key) ∧
      queueSlaEscalation toLowerCase (faults.escalation task.key) task s = (true, s)) ∨
    (stops toLowerCase faults s task = false ∧ s.desk.unique toLowerCase task ≠ [] ∧
      ¬ Recorded s task.key ∧
      queueSlaEscalation toLowerCase (faults.escalation task.key) task s =
        notifyAll toLowerCase task (s.desk.unique toLowerCase task)
          (EscalationFault.number (faults.escalation task.key)) (record task s)) := by
  rw [queueSlaEscalation, stops]
  by_cases hrecipients : faults.escalation task.key = some .recipients
  · rw [if_pos hrecipients]
    simp [hrecipients]
  rw [if_neg hrecipients]
  dsimp only
  cases hunique : s.desk.unique toLowerCase task with
  | nil => simp [hrecipients]
  | cons entry rest =>
    by_cases hrecord : faults.escalation task.key = some .record
    · simp [hrecord]
    · by_cases hknown : Recorded s task.key
      · simp [hrecipients, hrecord, hknown, isRecorded_iff.mpr hknown]
      · have hnew : isRecorded s task.key = false :=
          Bool.eq_false_iff.mpr fun h => hknown (isRecorded_iff.mp h)
        simp [hrecipients, hrecord, hknown, hnew]

theorem queue_frame (task : Task) :
    (queueSlaEscalation toLowerCase (faults.escalation task.key) task s).2.desk = s.desk := by
  obtain ⟨-, h⟩ | ⟨-, -, h⟩ | ⟨-, -, -, h⟩ := queue_cases toLowerCase faults s task
  · rw [h]
  · rw [h]
  · rw [h, notifyAll_frame]
    rfl

theorem misses_ne_nil {unique : List (String × Recipient)} {number : Option Nat}
    (h : misses unique number = true) : unique ≠ [] := by
  rintro rfl
  rw [misses_nil] at h
  cases h

theorem queue_fst (toLowerCase : String → String) (faults : RunFaults) (s : EscalationStore)
    (task : Task) :
    (queueSlaEscalation toLowerCase (faults.escalation task.key) task s).1 =
      passes toLowerCase faults s task := by
  obtain ⟨hstops, h⟩ | ⟨hstops, hskips, h⟩ | ⟨hstops, -, hnew, h⟩ :=
    queue_cases toLowerCase faults s task
  · rw [h, passes, hstops]
    rfl
  · have hbreaks : breaks toLowerCase faults s task = false := by
      obtain hunique | hknown := hskips
      · rw [breaks, hunique, misses_nil, Bool.and_false]
      · rw [breaks, isRecorded_iff.mpr hknown, Bool.not_true, Bool.and_false, Bool.false_and]
    rw [h, passes, hstops, hbreaks]
    rfl
  · have hknown : isRecorded s task.key = false :=
      Bool.eq_false_iff.mpr fun h => hnew (isRecorded_iff.mp h)
    rw [h, notifyAll_fst (addressed_unique _ _), passes, breaks, hstops, hknown]
    rfl

theorem recorded_queue (task : Task) {key : String × Level} :
    Recorded (queueSlaEscalation toLowerCase (faults.escalation task.key) task s).2 key ↔
      Recorded s key ∨ records toLowerCase faults s task = true ∧ task.key = key := by
  obtain ⟨hstops, h⟩ | ⟨hstops, hskips, h⟩ | ⟨hstops, hunique, -, h⟩ :=
    queue_cases toLowerCase faults s task
  · simp [h, records, hstops]
  · rw [h, records, hstops]
    obtain hunique | hknown := hskips
    · simp [hunique]
    · refine ⟨.inl, fun hrecorded => ?_⟩
      obtain hrecorded | ⟨-, rfl⟩ := hrecorded
      · exact hrecorded
      · exact hknown
  · have hrecords : records toLowerCase faults s task = true := by
      simp [records, hstops, hunique]
    rw [h, notifyAll_frame, hrecords]
    change Recorded (record task s) key ↔ _
    rw [recorded_record, or_comm, eq_self, true_and]

def NotifiedAreRecorded (s : EscalationStore) : Prop :=
  ∀ row ∈ s.notifications, Recorded s row.key

theorem not_notified_record {task : Task} (h : NotifiedAreRecorded s)
    (hnew : ¬ Recorded s task.key) (address : String) :
    ¬ Notified (record task s) task.key address := by
  rintro ⟨row, hrow, hkey, -⟩
  exact hnew (hkey ▸ h row hrow)

end Steps

section Once

/-- A level is recorded once, and each address has one mail of it. -/
structure EscalationStore.Once (s : EscalationStore) : Prop where
  escalations : (s.escalations.map Escalation.key).Nodup
  notifications : (s.notifications.map fun row => (row.key, row.recipientEmail)).Nodup
  recorded : NotifiedAreRecorded s

theorem EscalationStore.Once.record (h : s.Once) {task : Task} (hnew : ¬ Recorded s task.key) :
    (record task s).Once := by
  refine ⟨List.nodup_cons.mpr ⟨fun hmem => ?_, h.escalations⟩, h.notifications, fun row hrow => ?_⟩
  · obtain ⟨row, hrow, hkey⟩ := List.mem_map.mp hmem
    exact hnew ⟨row, hrow, hkey⟩
  · exact recorded_record.mpr (.inr (h.recorded row hrow))

theorem EscalationStore.Once.enqueue (h : s.Once) {task : Task} (hknown : Recorded s task.key)
    {address : String} (hnot : ¬ Notified s task.key address) (recipient : Recipient) :
    (enqueueEscalation task address recipient s).Once := by
  refine ⟨h.escalations, List.nodup_cons.mpr ⟨fun hmem => ?_, h.notifications⟩, fun row hrow => ?_⟩
  · obtain ⟨row, hrow, heq⟩ := List.mem_map.mp hmem
    exact hnot ⟨row, hrow, congrArg Prod.fst heq, congrArg Prod.snd heq⟩
  · obtain rfl | hrow := List.mem_cons.mp hrow
    · exact hknown
    · exact h.recorded row hrow

theorem EscalationStore.Once.notifyAll (h : s.Once) {task : Task} (hknown : Recorded s task.key)
    {unique : List (String × Recipient)} (haddressed : Addressed toLowerCase unique)
    (hnone : ∀ entry ∈ unique, ¬ Notified s task.key entry.1) (fault : Option Nat) :
    (notifyAll toLowerCase task unique fault s).2.Once := by
  induction unique generalizing fault s with
  | nil => exact h
  | cons head rest ih =>
    rw [Escalations.notifyAll]
    split
    · exact h
    · apply ih (h.enqueue hknown _ _) hknown haddressed.tail
      · exact not_notified_rest haddressed hnone
      · rw [← haddressed.address head List.mem_cons_self]
        exact hnone head List.mem_cons_self

theorem EscalationStore.Once.queue (h : s.Once) (task : Task) :
    (queueSlaEscalation toLowerCase (faults.escalation task.key) task s).2.Once := by
  obtain ⟨-, heq⟩ | ⟨-, -, heq⟩ | ⟨-, -, hnew, heq⟩ := queue_cases toLowerCase faults s task
  · rwa [heq]
  · rwa [heq]
  · rw [heq]
    apply (h.record hnew).notifyAll (recorded_record.mpr (.inl rfl)) (addressed_unique _ _)
    exact fun entry _ => not_notified_record h.recorded hnew entry.1

theorem EscalationStore.Once.escalateAll (h : s.Once) (list : List Task) :
    (escalateAll toLowerCase faults list s).Once := by
  induction list generalizing s with
  | nil => exact h
  | cons task rest ih =>
    rw [Escalations.escalateAll]
    split
    · exact ih (h.queue task)
    · exact h.queue task

theorem EscalationStore.Once.nextDesk (h : s.Once) (event : DeskEvent) :
    (nextDesk toLowerCase event s).Once := by
  cases event with
  | run faults =>
    rw [Escalations.nextDesk, processSlaEscalations]
    split
    · exact h
    · exact h.escalateAll _
  | elapse _ | change _ => exact ⟨h.escalations, h.notifications, h.recorded⟩

end Once

section Runs

/-- The escalations of the list are seen as in the state the run starts in. -/
structure Before (s₀ s : EscalationStore) (list : List Task) : Prop where
  desk : s.desk = s₀.desk
  recorded : ∀ task ∈ list, Recorded s task.key ↔ Recorded s₀ task.key

variable {s₀ : EscalationStore} {list : List Task} {task : Task} {key : String × Level}

theorem Before.refl : Before s s list :=
  ⟨rfl, fun _ _ => Iff.rfl⟩

theorem Before.records (h : Before s₀ s list) (task : Task) :
    records toLowerCase faults s task = records toLowerCase faults s₀ task := by
  rw [Escalations.records, Escalations.records, stops, stops, h.desk]

theorem Before.breaks (h : Before s₀ s list) (htask : task ∈ list) :
    breaks toLowerCase faults s task = breaks toLowerCase faults s₀ task := by
  have hknown : isRecorded s task.key = isRecorded s₀ task.key := by
    rw [Bool.eq_iff_iff, isRecorded_iff, isRecorded_iff, h.recorded task htask]
  rw [Escalations.breaks, Escalations.breaks, stops, stops, h.desk, hknown]

theorem Before.passes (h : Before s₀ s list) (htask : task ∈ list) :
    passes toLowerCase faults s task = passes toLowerCase faults s₀ task := by
  rw [Escalations.passes, Escalations.passes, h.breaks htask, stops, stops, h.desk]

theorem Before.queue (h : Before s₀ s (task :: list))
    (hkeys : ((task :: list).map Task.key).Nodup) :
    Before s₀ (queueSlaEscalation toLowerCase (faults.escalation task.key) task s).2 list := by
  refine ⟨(queue_frame task).trans h.desk, fun other hother => ?_⟩
  have hne : task.key ≠ other.key := fun heq =>
    (List.nodup_cons.mp hkeys).1 (heq ▸ List.mem_map_of_mem hother)
  rw [recorded_queue, h.recorded other (.tail _ hother), or_iff_left fun hrecords => hne hrecords.2]

/-- The escalations a run comes to: the last of them may have thrown. -/
def reached (toLowerCase : String → String) (faults : RunFaults) (s : EscalationStore)
    (list : List Task) : List Task :=
  list.takeWhile (Escalations.passes toLowerCase faults s) ++
    (list.dropWhile (Escalations.passes toLowerCase faults s)).head?.toList

theorem reached_cons (task : Task) (list : List Task) :
    reached toLowerCase faults s (task :: list) =
      if Escalations.passes toLowerCase faults s task then
        task :: reached toLowerCase faults s list
      else [task] := by
  rw [reached, List.takeWhile_cons, List.dropWhile_cons]
  split <;> rfl

theorem recorded_escalateAll (h : Before s₀ s list) (hkeys : (list.map Task.key).Nodup) :
    Recorded (escalateAll toLowerCase faults list s) key ↔ Recorded s key ∨
      ∃ task ∈ reached toLowerCase faults s₀ list,
        records toLowerCase faults s₀ task = true ∧ task.key = key := by
  induction list generalizing s with
  | nil => simp [escalateAll, reached]
  | cons task list ih =>
    rw [escalateAll, reached_cons, queue_fst, h.passes List.mem_cons_self]
    split
    · rw [ih (h.queue hkeys) (List.nodup_cons.mp hkeys).2, recorded_queue, h.records, or_assoc,
        List.exists_mem_cons_iff]
    · rw [recorded_queue, h.records]
      simp

theorem Notified.queue {address : String} (h : Notified s key address) (task : Task) :
    Notified (queueSlaEscalation toLowerCase (faults.escalation task.key) task s).2 key
      address := by
  obtain ⟨-, heq⟩ | ⟨-, -, heq⟩ | ⟨-, -, -, heq⟩ := queue_cases toLowerCase faults s task
  · rwa [heq]
  · rwa [heq]
  · rw [heq]
    exact Notified.notifyAll (s := record task s) h _ _

theorem Notified.escalateAll {address : String} (h : Notified s key address) (list : List Task) :
    Notified (escalateAll toLowerCase faults list s) key address := by
  induction list generalizing s with
  | nil => exact h
  | cons task list ih =>
    rw [Escalations.escalateAll]
    split
    · exact ih (h.queue task)
    · exact h.queue task

theorem notified_queue (hpasses : Escalations.passes toLowerCase faults s task = true)
    (hnew : ¬ Recorded s task.key) :
    ∀ entry ∈ s.desk.unique toLowerCase task,
      Notified (queueSlaEscalation toLowerCase (faults.escalation task.key) task s).2 task.key
        entry.1 := by
  intro entry hentry
  have hfst := queue_fst toLowerCase faults s task
  rw [hpasses] at hfst
  obtain ⟨-, h⟩ | ⟨-, hskips, -⟩ | ⟨-, -, -, h⟩ := queue_cases toLowerCase faults s task
  · rw [h] at hfst
    cases hfst
  · obtain hunique | hknown := hskips
    · rw [hunique] at hentry
      cases hentry
    · exact absurd hknown hnew
  · rw [h] at hfst ⊢
    exact notified_all (addressed_unique _ _) hfst hentry

theorem notified_escalateAll (h : Before s₀ s list) (hkeys : (list.map Task.key).Nodup)
    (htask : task ∈ list.takeWhile (Escalations.passes toLowerCase faults s₀))
    (hnew : ¬ Recorded s₀ task.key) :
    ∀ entry ∈ s₀.desk.unique toLowerCase task,
      Notified (escalateAll toLowerCase faults list s) task.key entry.1 := by
  induction list generalizing s with
  | nil => cases htask
  | cons head list ih =>
    rw [List.takeWhile_cons] at htask
    rw [escalateAll, queue_fst, h.passes List.mem_cons_self]
    split at htask
    next hpasses =>
      rw [if_pos hpasses]
      obtain rfl | htask := List.mem_cons.mp htask
      · intro entry hentry
        apply Notified.escalateAll
        apply notified_queue
        · rw [h.passes List.mem_cons_self, hpasses]
        · rwa [h.recorded _ List.mem_cons_self]
        · rwa [h.desk]
      · exact ih (h.queue hkeys) (List.nodup_cons.mp hkeys).2 htask
    · cases htask

theorem not_notified_queue (hnotified : NotifiedAreRecorded s)
    (hbreaks : Escalations.breaks toLowerCase faults s task = true) :
    ∃ entry ∈ s.desk.unique toLowerCase task,
      ¬ Notified (queueSlaEscalation toLowerCase (faults.escalation task.key) task s).2 task.key
        entry.1 := by
  have hfst := queue_fst toLowerCase faults s task
  rw [Escalations.passes, hbreaks, Bool.not_true, Bool.and_false] at hfst
  obtain ⟨hstops, -⟩ | ⟨-, -, h⟩ | ⟨-, -, hnew, h⟩ := queue_cases toLowerCase faults s task
  · rw [Escalations.breaks, hstops] at hbreaks
    cases hbreaks
  · rw [h] at hfst
    cases hfst
  · rw [h] at hfst ⊢
    apply not_notified_all (addressed_unique _ _) _ hfst
    exact fun entry _ => not_notified_record hnotified hnew entry.1

theorem not_notified_escalateAll (h : Before s₀ s list) (hkeys : (list.map Task.key).Nodup)
    (honce : s.Once)
    (hhead : (list.dropWhile (Escalations.passes toLowerCase faults s₀)).head? = some task)
    (hbreaks : Escalations.breaks toLowerCase faults s₀ task = true) :
    ∃ entry ∈ s₀.desk.unique toLowerCase task,
      ¬ Notified (escalateAll toLowerCase faults list s) task.key entry.1 := by
  induction list generalizing s with
  | nil => cases hhead
  | cons head list ih =>
    rw [List.dropWhile_cons] at hhead
    rw [escalateAll, queue_fst, h.passes List.mem_cons_self]
    split at hhead
    next hpasses =>
      rw [if_pos hpasses]
      exact ih (h.queue hkeys) (List.nodup_cons.mp hkeys).2 (honce.queue head) hhead
    next hpasses =>
      rw [if_neg hpasses]
      obtain rfl := Option.some.inj hhead
      rw [← h.desk]
      apply not_notified_queue honce.recorded
      rwa [h.breaks List.mem_cons_self]

end Runs

section Selected

variable {task task' : Task}

theorem mem_joined {row : Ticket × Sla} :
    row ∈ s.joined ↔ row.1 ∈ s.desk.tickets ∧ s.desk.slaOf row.1 = some row.2 := by
  rw [EscalationStore.joined, List.mem_filterMap]
  constructor
  · rintro ⟨ticket, hticket, hrow⟩
    obtain ⟨sla, hsla, rfl⟩ := Option.map_eq_some_iff.mp hrow
    exact ⟨hticket, hsla⟩
  · rintro ⟨hticket, hsla⟩
    exact ⟨row.1, hticket, Option.map_eq_some_iff.mpr ⟨row.2, hsla, rfl⟩⟩

theorem onDesk_of_mem_tasks (h : task ∈ tasks s) : OnDesk s task := by
  obtain ⟨row, hrow, htask⟩ := List.mem_flatMap.mp h
  obtain ⟨level, -, rfl⟩ := List.mem_map.mp htask
  have hjoined := List.mem_of_mem_filter (List.mem_of_mem_take hrow)
  exact ⟨(mem_joined.mp hjoined).1, (mem_joined.mp hjoined).2⟩

theorem OnDesk.eq_of_key (h : OnDesk s task) (h' : OnDesk s task') (hkey : task.key = task'.key) :
    task = task' := by
  obtain ⟨ticket, sla, level⟩ := task
  obtain ⟨ticket', sla', level'⟩ := task'
  obtain rfl : ticket = ticket' :=
    s.desk.tickets_distinct.eq_of_key h.ticket h'.ticket (congrArg Prod.fst hkey)
  obtain rfl : sla = sla' := Option.some.inj (h.sla.symm.trans h'.sla)
  obtain rfl : level = level' := congrArg Prod.snd hkey
  rfl

theorem nodup_levels (sla : Sla) (age : Int) : (levels sla age).Nodup := by
  rw [levels]
  split <;> split <;> decide

theorem distinct_selected (s : EscalationStore) :
    (selected s).Pairwise fun row other => row.1.id ≠ other.1.id := by
  have hjoined : s.joined.Pairwise fun row other => row.1.id ≠ other.1.id := by
    rw [EscalationStore.joined, List.pairwise_filterMap]
    refine (List.pairwise_map.mp s.desk.tickets_distinct).imp ?_
    intro ticket other hne row hrow row' hrow'
    obtain ⟨sla, -, rfl⟩ := Option.map_eq_some_iff.mp hrow
    obtain ⟨sla', -, rfl⟩ := Option.map_eq_some_iff.mp hrow'
    exact hne
  exact (hjoined.filter _).sublist (List.take_sublist _ _)

theorem nodup_tasks (s : EscalationStore) : ((tasks s).map Task.key).Nodup := by
  have hlevels : ∀ row : Ticket × Sla, ((tasksOf s.now row).map Task.key).Nodup := by
    intro row
    rw [tasksOf, List.map_map]
    exact (nodup_levels _ _).map fun level level' heq => congrArg Prod.snd heq
  rw [tasks, List.map_flatMap, List.nodup_flatMap]
  refine ⟨fun row _ => hlevels row, (distinct_selected s).imp ?_⟩
  intro row other hne key hkey hkey'
  obtain ⟨task, htask, rfl⟩ := List.mem_map.mp hkey
  obtain ⟨task', htask', heq⟩ := List.mem_map.mp hkey'
  obtain ⟨level, -, rfl⟩ := List.mem_map.mp htask
  obtain ⟨level', -, rfl⟩ := List.mem_map.mp htask'
  exact hne (congrArg Prod.fst heq).symm

theorem processSlaEscalations_eq (s : EscalationStore) :
    processSlaEscalations toLowerCase faults s =
      escalateAll toLowerCase faults (started faults s) s := by
  rw [processSlaEscalations, started]
  split <;> rfl

theorem nodup_started (s : EscalationStore) : ((started faults s).map Task.key).Nodup := by
  rw [started]
  split
  · exact List.nodup_nil
  · exact nodup_tasks s

theorem onDesk_of_mem_started (h : task ∈ started faults s) : OnDesk s task := by
  rw [started] at h
  split at h
  · cases h
  · exact onDesk_of_mem_tasks h

theorem mem_reached (h : task ∈ reached toLowerCase faults s (started faults s)) :
    OnDesk s task ∧
      (task ∈ (started faults s).takeWhile (Escalations.passes toLowerCase faults s) ∨
        ((started faults s).dropWhile (Escalations.passes toLowerCase faults s)).head? =
          some task) := by
  obtain h | h := List.mem_append.mp h
  · exact ⟨onDesk_of_mem_started ((List.takeWhile_sublist _).subset h), .inl h⟩
  · have hhead := Option.mem_toList.mp h
    have hmem := List.mem_of_mem_head? hhead
    exact ⟨onDesk_of_mem_started ((List.dropWhile_sublist _).subset hmem), .inr hhead⟩

theorem recorded_process (h : OnDesk s task) :
    Recorded (processSlaEscalations toLowerCase faults s) task.key ↔ Recorded s task.key ∨
      task ∈ reached toLowerCase faults s (started faults s) ∧
        records toLowerCase faults s task = true := by
  rw [processSlaEscalations_eq, recorded_escalateAll .refl (nodup_started s)]
  refine or_congr_right ⟨?_, fun hrecords => ⟨task, hrecords.1, hrecords.2, rfl⟩⟩
  rintro ⟨other, hreached, hrecords, hkey⟩
  obtain rfl := (mem_reached hreached).1.eq_of_key h hkey
  exact ⟨hreached, hrecords⟩

end Selected

section Law

variable {task : Task}

theorem records_of_breaks (h : breaks toLowerCase faults s task = true) :
    records toLowerCase faults s task = true := by
  obtain ⟨⟨hstops, -⟩, hmisses⟩ : ((!stops toLowerCase faults s task) = true ∧
      (!isRecorded s task.key) = true) ∧ misses (s.desk.unique toLowerCase task)
        (EscalationFault.number (faults.escalation task.key)) = true := by
    simpa only [breaks, Bool.and_eq_true] using h
  simp [records, hstops, misses_ne_nil hmisses]

theorem new_of_breaks (h : breaks toLowerCase faults s task = true) : ¬ Recorded s task.key := by
  intro hknown
  rw [breaks, isRecorded_iff.mpr hknown, Bool.not_true, Bool.and_false, Bool.false_and] at h
  cases h

theorem records_iff : records toLowerCase faults s task = true ↔
    stops toLowerCase faults s task = false ∧ s.desk.unique toLowerCase task ≠ [] := by
  simp [records]

theorem breaks_of_head
    (hhead : ((started faults s).dropWhile (passes toLowerCase faults s)).head? = some task)
    (hstops : stops toLowerCase faults s task = false) :
    breaks toLowerCase faults s task = true := by
  have hpasses := List.head?_dropWhile_not (passes toLowerCase faults s) (started faults s)
  rw [hhead] at hpasses
  simpa [passes, hstops] using hpasses

theorem sound_of_onTime (honce : s.Once) (h : OnTime toLowerCase (.run faults) s) :
    Sound toLowerCase (.run faults) s := by
  obtain ⟨hdue, hmails⟩ := h
  -- what breaks off has recorded a level that not all have been told of
  have hunbroken : ∀ task,
      ((started faults s).dropWhile (passes toLowerCase faults s)).head? = some task →
        breaks toLowerCase faults s task = false := by
    intro task hhead
    by_contra hbreaks
    rw [Bool.not_eq_false] at hbreaks
    have hreached : task ∈ reached toLowerCase faults s (started faults s) :=
      List.mem_append.mpr (.inr (Option.mem_toList.mpr hhead))
    have hdesk := (mem_reached hreached).1
    have hrecorded := (recorded_process hdesk).mpr (.inr ⟨hreached, records_of_breaks hbreaks⟩)
    obtain ⟨entry, hentry, hnot⟩ :=
      not_notified_escalateAll .refl (nodup_started s) honce hhead hbreaks
    rw [← processSlaEscalations_eq] at hnot
    exact hnot (hmails task hdesk (new_of_breaks hbreaks) hrecorded entry hentry)
  refine ⟨fun task htask hnew => ?_, hunbroken⟩
  obtain hknown | ⟨hreached, hrecords⟩ := (recorded_process htask.toOnDesk).mp (hdue task htask)
  · exact absurd hknown hnew
  · obtain ⟨hstops, hunique⟩ := records_iff.mp hrecords
    obtain hpasses | hhead := (mem_reached hreached).2
    · exact ⟨hpasses, hunique⟩
    · have hbreaks := breaks_of_head hhead hstops
      rw [hunbroken task hhead] at hbreaks
      cases hbreaks

theorem onTime_of_sound (h : Sound toLowerCase (.run faults) s) :
    OnTime toLowerCase (.run faults) s := by
  obtain ⟨hdue, hunbroken⟩ := h
  have hpassed : ∀ task, task ∈ (started faults s).takeWhile (passes toLowerCase faults s) →
      stops toLowerCase faults s task = false := by
    intro task htask
    have hpasses := List.all_eq_true.mp List.all_takeWhile task htask
    rw [passes, Bool.and_eq_true, Bool.not_eq_true'] at hpasses
    exact hpasses.1
  refine ⟨fun task htask => ?_, fun task hdesk hnew hrecorded => ?_⟩
  · by_cases hknown : Recorded s task.key
    · exact (recorded_process htask.toOnDesk).mpr (.inl hknown)
    · obtain ⟨hmem, hunique⟩ := hdue task htask hknown
      refine (recorded_process htask.toOnDesk).mpr (.inr ⟨List.mem_append_left _ hmem, ?_⟩)
      exact records_iff.mpr ⟨hpassed task hmem, hunique⟩
  · obtain hknown | ⟨hreached, hrecords⟩ := (recorded_process hdesk).mp hrecorded
    · exact absurd hknown hnew
    · rw [processSlaEscalations_eq]
      obtain hmem | hhead := (mem_reached hreached).2
      · exact notified_escalateAll .refl (nodup_started s) hmem hnew
      · have hbreaks := breaks_of_head hhead (records_iff.mp hrecords).1
        rw [hunbroken task hhead] at hbreaks
        cases hbreaks

theorem onTime_iff_sound (honce : s.Once) (event : DeskEvent) :
    OnTime toLowerCase event s ↔ Sound toLowerCase event s := by
  cases event with
  | run faults => exact ⟨sound_of_onTime honce, onTime_of_sound⟩
  | elapse _ | change _ => exact Iff.rfl

theorem once_opened (desk : Desk) (now : Int) : (opened desk now).Once :=
  ⟨List.nodup_nil, List.nodup_nil, fun row hrow => by cases hrow⟩

/-- Whatever happens, no level is recorded twice and nobody has two mails of it; and the
escalations are on time exactly when every run is sound. -/
theorem escalated_on_time_iff (toLowerCase : String → String) (desk : Desk) (now : Int)
    (events : List DeskEvent) :
    (afterwards (nextDesk toLowerCase) (opened desk now) events).Once ∧
      (Throughout (nextDesk toLowerCase) (OnTime toLowerCase) (opened desk now) events ↔
        Throughout (nextDesk toLowerCase) (Sound toLowerCase) (opened desk now) events) := by
  have hinv : ∀ event (s : EscalationStore), s.Once → (nextDesk toLowerCase event s).Once :=
    fun event _ h => h.nextDesk event
  refine ⟨invariant_afterwards hinv events (once_opened desk now), ?_⟩
  exact throughout_congr hinv (fun event s h _ => onTime_iff_sound h event) (once_opened desk now)
    (throughout_of_forall (fun _ _ => trivial) events)

end Law

section Samples

/-- The manager is to know after ten minutes, of a ticket that may take a thousand. -/
def patientSla : Sla := ⟨"sla-1", true, 1000, some 10, some "user-2"⟩

def waitingTicket : Ticket :=
  ⟨"ticket-1", "T-1", "Printer", some "company-1", some "sla-1", some "user-1", "OPEN", 0, none, none⟩

def sampleUser (id email : String) : User :=
  ⟨id, some email, none, none, some "company-1", "TECHNICIAN", true, none⟩

def sampleDesk : Desk where
  tickets := [waitingTicket]
  tickets_distinct := List.nodup_singleton _
  slas := [patientSla]
  users := [sampleUser "user-1" "one@example.com", sampleUser "user-2" "two@example.com"]
  suppressions := []
  preferences := []

def managerTask : Task := ⟨waitingTicket, patientSla, .managerEscalation⟩

theorem due_managerTask : Due (opened sampleDesk 1200000) managerTask where
  ticket := List.mem_singleton_self _
  sla := rfl
  isOpen := by decide
  holds := by
    change isLate patientSla (waitingTicket.ageMinutes 1200000) = true
    decide

/-- After twenty minutes a run without a fault leaves the manager without a mail. -/
theorem manager_forgotten : ¬ ∀ (toLowerCase : String → String) (desk : Desk) (now : Int)
    (events : List DeskEvent),
      Throughout (nextDesk toLowerCase) (OnTime toLowerCase) (opened desk now) events := by
  intro h
  have hrun := h id sampleDesk 1200000 [.run ⟨false, fun _ => none⟩]
  obtain ⟨row, hrow, -⟩ := hrun.1.1 managerTask due_managerTask
  have hnone : (processSlaEscalations id ⟨false, fun _ => none⟩
      (opened sampleDesk 1200000)).escalations = [] := by
    rfl
  rw [hnone] at hrow
  cases hrow

end Samples
end FieldserviceIT.Notifications.Escalations
