import FieldserviceIT.Cmdb.DeviceActions

/-!
Runs of device actions. Decisions and executions act on a row they have read earlier,
and two of them may have read the same one. Where a decision still finds the action
open and an execution finds it queued and nobody else on it, the command goes out at
most once, after the approval it needs, and not for what was rejected.
-/

namespace FieldserviceIT.Cmdb

open Common Lib

section Law

variable (row : NetworkDeviceAction)

def DeviceEvent.isRecord : DeviceEvent → Bool
  | .recorded _ => true
  | _ => false

/-- A call that has sent the command has still to record what came of it. -/
def outstanding : Bool :=
  row.trace.countP DeviceEvent.isRecord < row.trace.count .sent

def isOpen : Bool :=
  row.status = .pendingApproval || row.status = .queued

def needsApproval : Bool :=
  row.approvalStatus ≠ .notRequired

/-- Somebody other than the requester has approved it, says the trace. -/
def IsApproved (trace : List DeviceEvent) : Prop :=
  ∃ userId, .approved userId ∈ trace ∧ row.requestedById ≠ some userId

/-- What has happened to an action is what should. -/
structure Lawful : Prop where
  once : row.trace.count .sent ≤ 1
  approvedFirst : .sent ∈ row.trace → needsApproval row = true →
    IsApproved row (row.trace.takeWhile (· ≠ .sent))
  unsent : ∀ userId, .rejected userId ∈ row.trace → .sent ∉ row.trace
  final : row.trace.Pairwise fun event later =>
    event.status = some .completed ∨ event.status = some .rejected → later.status ≠ some .queued

/-- A lawful action that is open was only approved or sent so far, and a queued one has
the approval it needs. -/
structure Tracked : Prop extends Lawful row where
  open_ : isOpen row = true → ∀ event ∈ row.trace,
    event = .sent ∨ ∃ userId, event = .approved userId
  approved : row.status = .queued → needsApproval row = true → IsApproved row row.trace

variable {row}

theorem Tracked.unsent_of_open (h : Tracked row) (hopen : isOpen row = true)
    (hnone : outstanding row = false) : .sent ∉ row.trace := by
  intro hsent
  have hcount : row.trace.countP DeviceEvent.isRecord = 0 := by
    refine List.countP_eq_zero.mpr fun event hevent => ?_
    obtain rfl | ⟨userId, rfl⟩ := h.open_ hopen event hevent
    · exact Bool.false_ne_true
    · exact Bool.false_ne_true
  have hpos := List.count_pos_iff.mpr hsent
  simp only [outstanding, hcount, decide_eq_false_iff_not] at hnone
  exact hnone hpos

theorem IsApproved.mono {trace trace' : List DeviceEvent} (h : IsApproved row trace)
    (hsub : ∀ event ∈ trace, event ∈ trace') : IsApproved row trace' :=
  let ⟨userId, hmem, hother⟩ := h
  ⟨userId, hsub _ hmem, hother⟩

theorem Tracked.not_rejected_of_open (h : Tracked row) (hopen : isOpen row = true) (userId : String) :
    .rejected userId ∉ row.trace := by
  intro hmem
  obtain heq | ⟨other, heq⟩ := h.open_ hopen _ hmem
  · cases heq
  · cases heq

theorem mem_takeWhile_append {p : DeviceEvent → Bool} {trace later : List DeviceEvent}
    {event : DeviceEvent} (h : event ∈ trace.takeWhile p) :
    event ∈ (trace ++ later).takeWhile p := by
  rw [List.takeWhile_append]
  split
  · exact List.mem_append_left _ ((List.takeWhile_prefix p).subset h)
  · exact h

theorem Lawful.approvedFirst_append (h : Lawful row) {event : DeviceEvent} (hevent : event ≠ .sent)
    (hneeds : needsApproval row = true) (hsent : .sent ∈ row.trace ++ [event]) :
    IsApproved row ((row.trace ++ [event]).takeWhile (· ≠ .sent)) := by
  have hmem : .sent ∈ row.trace := by
    obtain hmem | hmem := List.mem_append.mp hsent
    · exact hmem
    · exact absurd (List.mem_singleton.mp hmem).symm hevent
  exact (h.approvedFirst hmem hneeds).mono fun _ => mem_takeWhile_append

theorem count_append_of_ne {trace : List DeviceEvent} {event : DeviceEvent} (h : event ≠ .sent) :
    (trace ++ [event]).count .sent = trace.count .sent := by
  rw [List.count_append, List.count_singleton, beq_eq_false_iff_ne.mpr h]
  rfl

theorem pairwise_append_singleton {R : DeviceEvent → DeviceEvent → Prop} {trace : List DeviceEvent}
    {event : DeviceEvent} (h : trace.Pairwise R) (hlast : ∀ earlier ∈ trace, R earlier event) :
    (trace ++ [event]).Pairwise R := by
  refine List.pairwise_append.mpr ⟨h, List.pairwise_singleton R event, ?_⟩
  intro earlier hearlier later hlater
  obtain rfl := List.mem_singleton.mp hlater
  exact hlast earlier hearlier

end Law

section Rows

variable {row : NetworkDeviceAction} {now : Int}

theorem tracked_wasSent (h : Tracked row) (hqueued : row.status = .queued)
    (hnone : outstanding row = false) : Tracked row.wasSent := by
  have hopen : isOpen row = true := by simp [isOpen, hqueued]
  have hunsent := h.unsent_of_open hopen hnone
  refine ⟨⟨?_, fun _ hneeds => ?_, fun userId hmem => ?_, ?_⟩, fun _ event hevent => ?_,
    fun hstatus hneeds => ?_⟩
  · simp [NetworkDeviceAction.wasSent, List.count_append, List.count_eq_zero_of_not_mem hunsent]
  · have hbefore : row.wasSent.trace.takeWhile (· ≠ .sent) = row.trace := by
      simp only [NetworkDeviceAction.wasSent]
      rw [List.takeWhile_append_of_pos]
      · simp
      · intro event hevent
        exact decide_eq_true fun heq => hunsent (heq ▸ hevent)
    rw [hbefore]
    exact h.approved hqueued hneeds
  · obtain hmem | hmem := List.mem_append.mp hmem
    · exact absurd hmem (h.not_rejected_of_open hopen userId)
    · cases List.mem_singleton.mp hmem
  · refine pairwise_append_singleton h.final fun _ _ _ hstatus => ?_
    cases hstatus
  · obtain hevent | hevent := List.mem_append.mp hevent
    · exact h.open_ hopen event hevent
    · exact .inl (List.mem_singleton.mp hevent)
  · exact (h.approved hqueued hneeds).mono fun _ => List.mem_append_left _

theorem tracked_approve {userId : String} {note : Option String} (h : Tracked row)
    (hopen : isOpen row = true) (hneeds : needsApproval row = true)
    (hother : row.requestedById ≠ some userId) :
    Tracked (row.decided now .approve userId note) := by
  have hevent : DeviceEvent.approved userId ≠ .sent := DeviceEvent.noConfusion
  refine ⟨⟨?_, fun hsent _ => ?_, fun other hmem => ?_, ?_⟩, fun _ event hevent => ?_,
    fun _ _ => ?_⟩
  · exact Nat.le_trans (Nat.le_of_eq (count_append_of_ne hevent)) h.once
  · exact h.approvedFirst_append hevent hneeds hsent
  · obtain hmem | hmem := List.mem_append.mp hmem
    · exact absurd hmem (h.not_rejected_of_open hopen other)
    · cases List.mem_singleton.mp hmem
  · refine pairwise_append_singleton h.final fun earlier hearlier hfinal => ?_
    obtain rfl | ⟨other, rfl⟩ := h.open_ hopen earlier hearlier
    · obtain hfinal | hfinal := hfinal <;> cases hfinal
    · obtain hfinal | hfinal := hfinal <;> cases hfinal
  · obtain hevent | hevent := List.mem_append.mp hevent
    · exact h.open_ hopen event hevent
    · exact .inr ⟨userId, List.mem_singleton.mp hevent⟩
  · exact ⟨userId, List.mem_append_right _ (List.mem_singleton_self _), hother⟩

theorem tracked_reject {userId : String} {note : Option String} (h : Tracked row)
    (hopen : isOpen row = true) (hnone : outstanding row = false) :
    Tracked (row.decided now .reject userId note) := by
  have hevent : DeviceEvent.rejected userId ≠ .sent := DeviceEvent.noConfusion
  have hunsent : .sent ∉ row.trace ++ [.rejected userId] := by
    intro hmem
    obtain hmem | hmem := List.mem_append.mp hmem
    · exact h.unsent_of_open hopen hnone hmem
    · exact hevent (List.mem_singleton.mp hmem).symm
  refine ⟨⟨?_, fun hsent => absurd hsent hunsent, fun _ _ => hunsent, ?_⟩, ?_, ?_⟩
  · exact Nat.le_trans (Nat.le_of_eq (count_append_of_ne hevent)) h.once
  · refine pairwise_append_singleton h.final fun _ _ _ hstatus => ?_
    cases hstatus
  · intro hcase
    cases hcase
  · intro hcase
    cases hcase

theorem tracked_finished {status : DeviceActionStatus} {result : String} (h : Tracked row)
    (hstatus : status = .completed ∨ status = .failed) :
    Tracked (row.finished now status result) := by
  have hevent : DeviceEvent.recorded status ≠ .sent := DeviceEvent.noConfusion
  refine ⟨⟨?_, fun hsent hneeds => ?_, fun userId hmem hsent => ?_, ?_⟩, fun hcase => ?_,
    fun hcase => ?_⟩
  · exact Nat.le_trans (Nat.le_of_eq (count_append_of_ne hevent)) h.once
  · exact h.approvedFirst_append hevent hneeds hsent
  · obtain hmem | hmem := List.mem_append.mp hmem
    · obtain hsent | hsent := List.mem_append.mp hsent
      · exact h.unsent userId hmem hsent
      · exact hevent (List.mem_singleton.mp hsent).symm
    · cases List.mem_singleton.mp hmem
  · refine pairwise_append_singleton h.final fun _ _ _ hqueued => ?_
    obtain rfl | rfl := hstatus <;> cases hqueued
  · obtain rfl | rfl := hstatus <;> cases hcase
  · obtain rfl | rfl := hstatus <;> cases hcase

theorem tracked_new (h : row.trace = []) (happroval : row.status = .queued →
    row.approvalStatus = .notRequired) : Tracked row := by
  refine ⟨⟨?_, ?_, ?_, ?_⟩, ?_, fun hqueued hneeds => ?_⟩
  · simp [h]
  · simp [h]
  · simp [h]
  · simp [h]
  · simp [h]
  · simp [needsApproval, happroval hqueued] at hneeds

end Rows

section Steps

variable (key : String → String)

/-- A decision finds the action open, a rejection also unsent; a command is sent where
the action is queued and nobody else has sent it and still to record it. -/
def undisturbed (op : DeviceOp) (s : Network) : Bool :=
  match op with
  | .decide id .approve _ _ seen => s.actions.all fun row =>
    !named key id seen.companyId row || isOpen row
  | .decide id .reject _ _ seen => s.actions.all fun row =>
    !named key id seen.companyId row || isOpen row && !outstanding row
  | .send seen => s.actions.all fun row =>
    row.id ≠ seen.id || row.status = .queued && !outstanding row
  | _ => true

structure Consistent (s : Network) : Prop where
  distinct : Distinct (fun row => key row.id) s.actions
  tracked : ∀ row ∈ s.actions, Tracked row

/-- The same action later: it keeps its requester and the need for approval. -/
structure SameAction (row row' : NetworkDeviceAction) : Prop where
  id : row'.id = row.id
  requestedById : row'.requestedById = row.requestedById
  needsApproval : Cmdb.needsApproval row' = Cmdb.needsApproval row

def Continues (s s' : Network) : Prop :=
  Carried SameAction s.actions s'.actions

def Checked (op : DeviceOp) (s : Network) : Prop :=
  match op with
  | .insert row => row.trace = [] ∧ (row.status = .queued → row.approvalStatus = .notRequired)
  | .decide id _ userId _ seen => key seen.id = key id ∧ ∃ row ∈ s.actions, row.id = seen.id ∧
      needsApproval row = true ∧ row.requestedById ≠ some userId
  | .record _ _ status _ => status = .completed ∨ status = .failed
  | _ => True

theorem SameAction.refl (row : NetworkDeviceAction) : SameAction row row :=
  ⟨rfl, rfl, rfl⟩

theorem SameAction.trans {a b c : NetworkDeviceAction} (h : SameAction a b) (h' : SameAction b c) :
    SameAction a c :=
  ⟨h'.id.trans h.id, h'.requestedById.trans h.requestedById,
    h'.needsApproval.trans h.needsApproval⟩

theorem Continues.refl (s : Network) : Continues s s :=
  Carried.refl SameAction.refl s.actions

theorem Continues.trans {s s' s'' : Network} (h : Continues s s') (h' : Continues s' s'') :
    Continues s s'' :=
  Carried.trans SameAction.trans h h'

theorem sameAction_decided {row : NetworkDeviceAction} {now : Int} {decision : Decision}
    {userId : String} {note : Option String} (hneeds : needsApproval row = true) :
    SameAction row (row.decided now decision userId note) := by
  cases decision with
  | approve => exact ⟨rfl, rfl, hneeds.symm⟩
  | reject => exact ⟨rfl, rfl, hneeds.symm⟩

variable {key}

theorem consistent_update {s : Network} {p : NetworkDeviceAction → Bool}
    {change : NetworkDeviceAction → NetworkDeviceAction} (h : Consistent key s)
    (htracked : ∀ row ∈ s.actions, p row = true → Tracked (change row))
    (hid : ∀ row ∈ s.actions, (change row).id = row.id) :
    Consistent key { s with actions := updateWhere p change s.actions } :=
  ⟨h.distinct.updateWhere fun row hrow => congrArg key (hid row hrow),
    forall_updateWhere h.tracked fun row hrow hp _ => htracked row hrow hp⟩

theorem checked_row {s : Network} (h : Consistent key s) {id : String} {decision : Decision}
    {userId : String} {note : Option String} {seen : NetworkDeviceAction}
    (hchecked : Checked key (.decide id decision userId note seen) s) {row : NetworkDeviceAction}
    (hrow : row ∈ s.actions) (hnamed : named key id seen.companyId row = true) :
    needsApproval row = true ∧ row.requestedById ≠ some userId := by
  obtain ⟨hseen, row', hrow', hid, hneeds, hother⟩ := hchecked
  simp only [named, Bool.and_eq_true, decide_eq_true_eq] at hnamed
  have hkey : key row.id = key row'.id := by rw [hnamed.1, hid, hseen]
  obtain rfl := h.distinct.eq_of_key hrow hrow' hkey
  exact ⟨hneeds, hother⟩

theorem decide_step {s : Network} (h : Consistent key s) {id : String} {decision : Decision}
    {userId : String} {note : Option String} {seen : NetworkDeviceAction}
    (hallowed : undisturbed key (.decide id decision userId note seen) s = true)
    (hchecked : Checked key (.decide id decision userId note seen) s) :
    Consistent key (execDevice key (.decide id decision userId note seen) s) ∧
      Continues s (execDevice key (.decide id decision userId note seen) s) := by
  have hmade := fun row hrow hnamed => @checked_row key s h id decision userId note seen hchecked
    row hrow hnamed
  refine ⟨consistent_update h (fun row hrow hnamed => ?_) (fun row _ => by cases decision <;> rfl),
    Carried.updateWhere SameAction.refl fun row hrow hnamed =>
      sameAction_decided (hmade row hrow hnamed).1⟩
  obtain ⟨hneeds, hother⟩ := hmade row hrow hnamed
  cases decision with
  | approve =>
    have hopen := List.all_eq_true.mp hallowed row hrow
    simp only [hnamed, Bool.not_true, Bool.false_or] at hopen
    exact tracked_approve (h.tracked row hrow) hopen hneeds hother
  | reject =>
    have hopen := List.all_eq_true.mp hallowed row hrow
    simp only [hnamed, Bool.not_true, Bool.false_or, Bool.and_eq_true, Bool.not_eq_true'] at hopen
    exact tracked_reject (h.tracked row hrow) hopen.1 hopen.2

theorem send_step {s : Network} (h : Consistent key s) {seen : NetworkDeviceAction}
    (hallowed : undisturbed key (.send seen) s = true) :
    Consistent key (execDevice key (.send seen) s) ∧
      Continues s (execDevice key (.send seen) s) := by
  refine ⟨consistent_update h (fun row hrow hid => ?_) (fun row _ => rfl),
    Carried.updateWhere SameAction.refl fun row _ _ => ⟨rfl, rfl, rfl⟩⟩
  have hqueued := List.all_eq_true.mp hallowed row hrow
  simp only [of_decide_eq_true hid, ne_eq, not_true_eq_false, decide_false, Bool.false_or,
    Bool.and_eq_true, decide_eq_true_eq, Bool.not_eq_true'] at hqueued
  exact tracked_wasSent (h.tracked row hrow) hqueued.1 hqueued.2

theorem device_step {op : DeviceOp} {s : Network} (h : Consistent key s)
    (hallowed : undisturbed key op s = true) (hchecked : Checked key op s) :
    Consistent key (execDevice key op s) ∧ Continues s (execDevice key op s) := by
  cases op with
  | read => exact ⟨h, Continues.refl s⟩
  | insert row =>
    simp only [execDevice]
    split
    · exact ⟨h, Continues.refl s⟩
    · next hfree =>
        rw [List.any_eq_true] at hfree
        refine ⟨⟨h.distinct.append fun other hother heq => hfree ⟨other, hother, ?_⟩, ?_⟩,
          Carried.append SameAction.refl _ _⟩
        · exact decide_eq_true heq
        · intro other hother
          obtain hother | hother := List.mem_append.mp hother
          · exact h.tracked other hother
          · rw [List.mem_singleton.mp hother]
            exact tracked_new hchecked.1 hchecked.2
  | decide id decision userId note seen => exact decide_step h hallowed hchecked
  | send seen => exact send_step h hallowed
  | record id companyId status result =>
    exact ⟨consistent_update h (fun row hrow _ => tracked_finished (h.tracked row hrow) hchecked)
      (fun row _ => rfl), Carried.updateWhere SameAction.refl fun row _ _ => ⟨rfl, rfl, rfl⟩⟩
  | setPolicy required => exact ⟨⟨h.distinct, h.tracked⟩, Carried.refl SameAction.refl _⟩

end Steps

section Calls

variable (key : String → String)

def AlwaysChecked (op : DeviceOp) : Prop :=
  ∀ s, True → Checked key op s

theorem all_insertAction (draw : Draw) (companyId assetId action payload : String)
    (requestedById : Option String) :
    (insertAction draw companyId assetId action payload requestedById).All
      (AlwaysChecked key) := by
  refine Prog.all_step (fun _ _ => trivial) fun s => Prog.all_step (fun _ _ => trivial) fun s' => ?_
  refine Prog.all_step (fun _ _ => ⟨rfl, ?_⟩) fun _ => trivial
  simp only [newAction]
  split
  · intro hstatus
    cases hstatus
  · exact fun _ => rfl

theorem all_queueDeviceAction (draw : Draw) (assetId companyId : String) (action : Option String)
    (payload : String) (requestedById : Option String) :
    (queueDeviceAction key draw assetId companyId action payload requestedById).All
      (AlwaysChecked key) := by
  refine Prog.all_step (fun _ _ => trivial) fun s => ?_
  split
  · trivial
  · split
    · trivial
    · exact all_insertAction key _ _ _ _ _ _

theorem all_queueAction (draw : Draw) (user : CurrentUser) (assetId : String)
    (requestedCompany action port : Option String) (payload : String) :
    (queueAction key draw user assetId requestedCompany action port payload).All
      (AlwaysChecked key) := by
  unfold queueAction
  split
  · trivial
  · refine Prog.all_step (fun _ _ => trivial) fun s => ?_
    split
    · trivial
    · split
      · trivial
      · split
        · trivial
        · exact all_insertAction key _ _ _ _ _ _

theorem all_executeDeviceAction (assetId actionId companyId : String) (run : VendorRun) :
    (executeDeviceAction key assetId actionId companyId run).All (AlwaysChecked key) := by
  have hrecord : ∀ (status : DeviceActionStatus) (result : String),
      status = .completed ∨ status = .failed →
      (Prog.step (.record actionId companyId status result) fun _ => .done :
        DeviceProgram).All (AlwaysChecked key) :=
    fun status result hstatus => Prog.all_step (fun _ _ => hstatus) fun _ => trivial
  refine Prog.all_step (fun _ _ => trivial) fun s => ?_
  split
  · trivial
  · split
    · trivial
    · split
      · trivial
      · split
        · trivial
        · cases run with
          | noSettings => trivial
          | unmapped => exact hrecord _ _ (.inl rfl)
          | refused error => exact hrecord _ _ (.inr rfl)
          | answered ok result =>
            refine Prog.all_step (fun _ _ => trivial) fun _ => hrecord _ _ ?_
            cases ok with
            | true => exact .inl rfl
            | false => exact .inr rfl

abbrev Safe (p : DeviceProgram) (s : Network) : Prop :=
  p.Safe (deviceSystem key) (fun op s => undisturbed key op s = true) (Consistent key) Continues
    (Checked key) (fun _ => True) s

theorem safe_of_all {p : DeviceProgram} (h : p.All (AlwaysChecked key)) (s : Network) :
    Safe key p s :=
  Prog.safe_under (fun _ => True) (fun _ _ => trivial)
    (fun hinv hallowed hchecked => (device_step hinv hallowed hchecked).2) h trivial

theorem safe_fail (s : Network) : Safe key .fail s :=
  fun _ _ _ => trivial

theorem safe_decide (user : CurrentUser) (id : String) (decision : Decision)
    (note : Option String) (s : Network) :
    Safe key (decideNetworkAction key user id decision note) s := by
  unfold decideNetworkAction
  split
  · exact safe_fail key s
  · intro s' _ _ _
    refine ⟨trivial, ?_⟩
    beta_reduce
    split
    · exact safe_fail key _
    · next action hfind =>
        simp only []
        split
        · exact safe_fail key _
        · split
          · exact safe_fail key _
          · next hother =>
              split
              · exact safe_fail key _
              · next hpending =>
                  intro s'' hcontinues _ _
                  refine ⟨⟨?_, ?_⟩, fun _ _ _ => trivial⟩
                  · have hkey := List.find?_some hfind
                    exact of_decide_eq_true hkey
                  · obtain ⟨row, hrow, hsame⟩ :=
                      hcontinues action (List.mem_of_find?_eq_some hfind)
                    have hneeds : needsApproval action = true := by
                      have hstatus := Decidable.not_not.mp hpending
                      simp [needsApproval, hstatus]
                    refine ⟨row, hrow, hsame.id, hsame.needsApproval.trans hneeds, ?_⟩
                    rw [hsame.requestedById]
                    exact hother

theorem device_cooperation : Cooperation (deviceSystem key)
    (fun op s => undisturbed key op s = true) (Consistent key) Continues (Checked key) where
  refl := Continues.refl
  trans := Continues.trans
  exec hinv hallowed hchecked := device_step hinv hallowed hchecked
  tick hinv := ⟨⟨hinv.distinct, hinv.tracked⟩, Carried.refl SameAction.refl _⟩
  handler {call} {s} _ _ := by
    cases call with
    | queueDeviceAction draw assetId companyId action payload requestedById =>
      exact safe_of_all key (all_queueDeviceAction key _ _ _ _ _ _) s
    | queueAction draw user assetId requestedCompany action port payload =>
      exact safe_of_all key (all_queueAction key _ _ _ _ _ _ _) s
    | decideNetworkAction user id decision note => exact safe_decide key user id decision note s
    | executeDeviceAction assetId actionId companyId run =>
      exact safe_of_all key (all_executeDeviceAction key _ _ _ run) s
    | setPolicy required =>
      exact fun _ _ _ _ => ⟨trivial, fun _ _ _ => trivial⟩

/-- In a run whose decisions find the action open and whose commands go out for an
action that is queued and not under way, every action is lawful. -/
theorem device_actions_lawful {c₀ c : Config Network DeviceOp} (hempty : c₀.shared.actions = [])
    (hidle : c₀.threads = [])
    (hrun : (deviceSystem key).Run (fun op s => undisturbed key op s = true) c₀ c) :
    ∀ row ∈ c.shared.actions, Lawful row := by
  have hstart : Consistent key c₀.shared := by
    refine ⟨?_, ?_⟩
    · rw [hempty]
      exact List.nodup_nil
    · rw [hempty]
      simp
  have hsafe := ((device_cooperation key).run hrun (Config.safe_of_idle hstart hidle)).1
  exact fun row hrow => (hsafe.inv.tracked row hrow).toLawful

end Calls

section Samples

def sampleAdmin (id : String) : CurrentUser where
  id := id
  role := .tenantAdmin
  userType := .businessUser
  companyId := some "acme"
  effectiveCompanyId := none
  location := none
  permissionScopes := none
  permissionSlugs := some ["platform-security.manage"]

def sampleNetwork : Network where
  actions := []
  assets := [("switch-1", "acme")]
  requireNetworkApproval := some true
  now := 1700000000000

def sampleQueue : DeviceCall :=
  .queueDeviceAction ⟨"action-1", false⟩ "switch-1" "acme" (some "RESTART") "" (some "user-1")

def sampleExecute : DeviceCall :=
  .executeDeviceAction "switch-1" "action-1" "acme" (.answered true "rebooting")

def traces (c : Config Network DeviceOp) : List (List DeviceEvent) :=
  c.shared.actions.map (·.trace)

/-- A restart is queued, approved by another administrator and executed. -/
theorem device_actions_lawful_restart : ∃ c : Config Network DeviceOp,
    traces c = [[.approved "admin-2", .sent, .recorded .completed]] ∧
      ∀ row ∈ c.shared.actions, Lawful row := by
  have hplay : ((deviceSystem id).play (fun _ _ => true) (undisturbed id) ⟨sampleNetwork, []⟩
      [.start sampleQueue, .run 0, .run 0, .run 0, .run 0,
        .start (.decideNetworkAction (sampleAdmin "admin-2") "action-1" .approve none), .run 1,
        .run 1, .start sampleExecute, .run 2, .run 2, .run 2]).any (fun c =>
        decide (traces c = [[.approved "admin-2", .sent, .recorded .completed]])) = true := by
    decide
  obtain ⟨c, hrun, hcheck⟩ :=
    System.exists_run_of_play (fun _ _ _ => trivial) (fun _ _ h => h) hplay
  exact ⟨c, of_decide_eq_true hcheck, device_actions_lawful id rfl rfl hrun⟩

/-- Two executions read the queued action before either has recorded it. -/
theorem restarted_twice : ∃ c : Config Network DeviceOp,
    (deviceSystem id).Run (fun _ _ => True) ⟨sampleNetwork, []⟩ c ∧
    traces c = [[.approved "admin-2", .sent, .sent]] ∧
    ¬ ∀ row ∈ c.shared.actions, Lawful row := by
  have hplay : ((deviceSystem id).play (fun _ _ => true) (fun _ _ => true) ⟨sampleNetwork, []⟩
      [.start sampleQueue, .run 0, .run 0, .run 0, .run 0,
        .start (.decideNetworkAction (sampleAdmin "admin-2") "action-1" .approve none), .run 1,
        .run 1, .start sampleExecute, .start sampleExecute, .run 2, .run 3, .run 2,
        .run 3]).any (fun c => decide (traces c = [[.approved "admin-2", .sent, .sent]])) =
          true := by
    decide
  obtain ⟨c, hrun, hcheck⟩ :=
    System.exists_run_of_play (fun _ _ _ => trivial) (fun _ _ _ => trivial) hplay
  have htraces := of_decide_eq_true hcheck
  refine ⟨c, hrun, htraces, fun hlawful => ?_⟩
  obtain ⟨row, hrow, htrace⟩ := List.mem_map.mp (htraces ▸ List.mem_singleton_self _)
  have honce := (hlawful row hrow).once
  rw [htrace] at honce
  exact absurd honce (by decide)

end Samples
end FieldserviceIT.Cmdb
