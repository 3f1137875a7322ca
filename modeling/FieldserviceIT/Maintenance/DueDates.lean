import FieldserviceIT.Maintenance.Plans
import Mathlib.Data.List.Chain

/-!
The due dates of recurring maintenance. There is one ticket for each date on which a plan is due,
the dates only move forward, and those of a monthly plan name one month after the other. Nothing in
the programs sees to it: it depends on the date a ticket is generated for and on the day a plan is
completed.
-/

namespace FieldserviceIT.Maintenance

open Common Lib

section Law

variable (zone : TimeZone)

def monthOf (time : Int) : Int :=
  Calendar.monthOf (dayOf zone time)

def dateOf (time : Int) : Int :=
  Calendar.dateOf (dayOf zone time)

def duesOf (id : String) (s : MaintenanceStore) : List Int :=
  (s.dues.filter fun due => due.1 = id).map Prod.snd

structure PlanLaw (s : MaintenanceStore) : Prop where
  once : s.occurrences.Nodup
  forward : ∀ plan ∈ s.plans, (duesOf plan.id s).IsChain fun later earlier => earlier ≤ later
  months : ∀ plan ∈ s.plans, plan.frequency = .monthly →
    ((duesOf plan.id s).map (monthOf zone)).IsChain fun later earlier => later = earlier + 1

/-- The month of the date that a completion sets is the one after the month of the old date: it is
that of the date that is given, or the plan was completed in its month, on a day that the next month
has, or a month early on a day that month has not. -/
def NamesNext (old completedAt : Int) (nextDueAt : Option Int) : Prop :=
  match nextDueAt with
  | some given => monthOf zone given = monthOf zone old + 1
  | none => (monthOf zone completedAt +
      if Calendar.monthLength (monthOf zone completedAt + 1) < dateOf zone completedAt then 1 else 0) =
    monthOf zone old

/-- The ticket is the first one for its date, and a plan is completed so that its date is not moved
back and, every month, is moved to the next. -/
def Timely (op : PlanOp) (s : MaintenanceStore) : Prop :=
  match op with
  | .createTicket plan dueAt _ _ => ⟨plan.id, dueAt⟩ ∉ s.occurrences
  | .updatePlan plan companyId completedAt nextDueAt =>
    ∀ row ∈ s.plans, row.id = plan.id → row.companyId = companyId →
      row.nextDueAt ≤
          nextDueAt.getD (nextDueDate zone completedAt row.frequency row.intervalDays) ∧
        (row.frequency = .monthly → NamesNext zone row.nextDueAt completedAt nextDueAt)
  | .read | .assignTicket _ _ _ | .insertRun _ | .completeRun _ _ _ _ => True

/-- No month is named twice, and none between two of them is left out. -/
structure EveryMonthOnce (months : List Int) : Prop where
  once : months.Nodup
  between : ∀ first ∈ months, ∀ last ∈ months, ∀ month, first ≤ month → month ≤ last → month ∈ months

theorem everyMonthOnce_of_isChain {months : List Int}
    (h : months.IsChain fun later earlier => later = earlier + 1) : EveryMonthOnce months := by
  induction months with
  | nil => exact ⟨List.nodup_nil, fun _ hmem => by cases hmem⟩
  | cons month months ih =>
    cases months with
    | nil =>
      refine ⟨List.nodup_singleton _, fun first hfirst last hlast other hle hge => ?_⟩
      simp only [List.mem_singleton] at hfirst hlast ⊢
      omega
    | cons next months =>
      rw [List.isChain_cons_cons] at h
      obtain ⟨hnodup, hbetween⟩ := ih h.2
      have hbelow : ∀ other ∈ next :: months, other ≤ next := by
        have hsorted : (next :: months).IsChain fun later earlier => later > earlier :=
          h.2.imp fun a b hab => by omega
        rw [List.isChain_iff_pairwise, List.pairwise_cons] at hsorted
        intro other hother
        cases hother with
        | head => exact Int.le_refl _
        | tail _ hother => exact Int.le_of_lt (hsorted.1 other hother)
      refine ⟨List.nodup_cons.mpr ⟨fun hmem => ?_, hnodup⟩, ?_⟩
      · have hle := hbelow month hmem
        omega
      · intro first hfirst last hlast other hle hge
        by_cases htop : other = month
        · exact htop ▸ .head _
        · refine .tail _ ?_
          cases hlast with
          | head =>
            have hnext : other ≤ next := by omega
            cases hfirst with
            | head => omega
            | tail _ hfirst => exact hbetween first hfirst next (.head _) other hle hnext
          | tail _ hlast =>
            have hlastle := hbelow last hlast
            cases hfirst with
            | head => omega
            | tail _ hfirst => exact hbetween first hfirst last hlast other hle hge

end Law

section Dates

variable (zone : TimeZone)

theorem dayOf_setMonth (months base : Int) :
    dayOf zone (setMonth zone months base) = Calendar.addMonths months (dayOf zone base) := by
  rw [setMonth, dayOf, zone.day_utc]
  omega

theorem monthOf_nextDueDate (completedAt : Int) (intervalDays : Nat) :
    monthOf zone (nextDueDate zone completedAt .monthly intervalDays) =
      monthOf zone completedAt + 1 +
        if Calendar.monthLength (monthOf zone completedAt + 1) < dateOf zone completedAt then 1
        else 0 := by
  rw [nextDueDate, monthOf, dayOf_setMonth, Calendar.monthOf_addMonths]
  rfl

theorem namesNext_iff (old completedAt : Int) (nextDueAt : Option Int) (intervalDays : Nat) :
    NamesNext zone old completedAt nextDueAt ↔
      monthOf zone (nextDueAt.getD (nextDueDate zone completedAt .monthly intervalDays)) =
        monthOf zone old + 1 := by
  cases nextDueAt with
  | some given => exact Iff.rfl
  | none =>
    rw [Option.getD_none, monthOf_nextDueDate, NamesNext]
    omega

theorem dayOf_iterate (start : Int) (n : Nat) :
    dayOf zone ((fun base => nextDueDate zone base .monthly 0)^[n] start) =
      (Calendar.addMonths 1)^[n] (dayOf zone start) := by
  induction n with
  | zero => rfl
  | succ n ih =>
    rw [Function.iterate_succ_apply', Function.iterate_succ_apply', ← ih]
    exact dayOf_setMonth zone 1 _

/-- Completed on each of its due dates, a monthly plan is due in every month just when it starts on
one of the first 28 days. -/
theorem every_month_iff (start : Int) :
    (∀ n : Nat, monthOf zone ((fun base => nextDueDate zone base .monthly 0)^[n] start) =
      monthOf zone start + n) ↔ dateOf zone start ≤ 28 := by
  simp only [monthOf, dayOf_iterate]
  exact Calendar.every_month_iff (dayOf zone start)

end Dates

section Steps

variable {zone : TimeZone} {s : MaintenanceStore} {plan row : MaintenancePlan} {companyId : String}
  {completedAt : Int} {nextDueAt : Option Int}

/-- Plans have ids of their own, and each is due on its latest date. -/
structure Current (s : MaintenanceStore) : Prop where
  distinct : Distinct MaintenancePlan.id s.plans
  latest : ∀ plan ∈ s.plans, ∃ earlier, duesOf plan.id s = plan.nextDueAt :: earlier

def IsRead (plan : MaintenancePlan) (s : MaintenanceStore) : Prop :=
  ∀ row ∈ s.plans, row.id = plan.id →
    row.frequency = plan.frequency ∧ row.intervalDays = plan.intervalDays

def ReadWell (op : PlanOp) (s : MaintenanceStore) : Prop :=
  match op with
  | .updatePlan plan _ _ _ => IsRead plan s
  | .read | .createTicket _ _ _ _ | .assignTicket _ _ _ | .insertRun _ | .completeRun _ _ _ _ => True

def SameRecurrence (s s' : MaintenanceStore) : Prop :=
  ∀ row' ∈ s'.plans, ∃ row ∈ s.plans, row.id = row'.id ∧ row.frequency = row'.frequency ∧
    row.intervalDays = row'.intervalDays

theorem hasPlan_iff {id : String} :
    hasPlan id companyId s = true ↔ ∃ row ∈ s.plans, row.id = id ∧ row.companyId = companyId := by
  rw [hasPlan, List.any_eq_true]
  simp only [Bool.and_eq_true, decide_eq_true_eq]

theorem execPlan_updatePlan_of_not_hasPlan (h : ¬hasPlan plan.id companyId s = true) :
    execPlan zone (.updatePlan plan companyId completedAt nextDueAt) s = s := by
  have hrows : updateWhere (fun row => row.id = plan.id && row.companyId = companyId)
      (MaintenancePlan.moved completedAt (dueAfter zone plan completedAt nextDueAt)) s.plans =
        s.plans := by
    rw [updateWhere]
    refine (List.map_congr_left fun row hrow => if_neg fun hmatch => h ?_).trans s.plans.map_id
    simp only [Bool.and_eq_true, decide_eq_true_eq] at hmatch
    exact hasPlan_iff.mpr ⟨row, hrow, hmatch⟩
  rw [execPlan, if_neg h, hrows]

theorem duesOf_updatePlan (zone : TimeZone) (completedAt : Int) (nextDueAt : Option Int)
    (h : hasPlan plan.id companyId s = true) (id : String) :
    duesOf id (execPlan zone (.updatePlan plan companyId completedAt nextDueAt) s) =
      if plan.id = id then dueAfter zone plan completedAt nextDueAt :: duesOf id s
      else duesOf id s := by
  rw [execPlan, if_pos h]
  simp only [duesOf, List.filter_cons, decide_eq_true_eq]
  split <;> rfl

theorem mem_updatePlan : row ∈
    (execPlan zone (.updatePlan plan companyId completedAt nextDueAt) s).plans ↔
      ∃ old ∈ s.plans, row = if old.id = plan.id ∧ old.companyId = companyId then
        old.moved completedAt (dueAfter zone plan completedAt nextDueAt) else old := by
  rw [execPlan, mem_updateWhere]
  simp only [Bool.and_eq_true, decide_eq_true_eq]

theorem dueAfter_eq (h : row.frequency = plan.frequency ∧ row.intervalDays = plan.intervalDays) :
    dueAfter zone plan completedAt nextDueAt =
      nextDueAt.getD (nextDueDate zone completedAt row.frequency row.intervalDays) := by
  rw [dueAfter, h.1, h.2]

theorem id_ne_of_not_updated (hcurrent : Current s) (hhas : hasPlan plan.id companyId s = true)
    (hrow : row ∈ s.plans) (h : ¬(row.id = plan.id ∧ row.companyId = companyId)) :
    plan.id ≠ row.id := by
  obtain ⟨updated, hupdated, hid, hcompany⟩ := hasPlan_iff.mp hhas
  intro hsame
  have heq := hcurrent.distinct.eq_of_key hrow hupdated (hsame.symm.trans hid.symm)
  exact h ⟨hsame.symm, heq ▸ hcompany⟩

theorem law_updatePlan (hcurrent : Current s) (hlaw : PlanLaw zone s)
    (hread : ReadWell (.updatePlan plan companyId completedAt nextDueAt) s)
    (hhas : hasPlan plan.id companyId s = true) :
    PlanLaw zone (execPlan zone (.updatePlan plan companyId completedAt nextDueAt) s) ↔
      Timely zone (.updatePlan plan companyId completedAt nextDueAt) s := by
  constructor
  · intro hlaw' row hrow hid hcompany
    obtain ⟨earlier, hlatest⟩ := hcurrent.latest row hrow
    have hmoved : row.moved completedAt (dueAfter zone plan completedAt nextDueAt) ∈
        (execPlan zone (.updatePlan plan companyId completedAt nextDueAt) s).plans :=
      mem_updatePlan.mpr ⟨row, hrow, (if_pos ⟨hid, hcompany⟩).symm⟩
    have hdues := duesOf_updatePlan zone completedAt nextDueAt hhas row.id
    rw [if_pos hid.symm, hlatest, dueAfter_eq (hread row hrow hid)] at hdues
    constructor
    · have hforward := hlaw'.forward _ hmoved
      change (duesOf row.id _).IsChain _ at hforward
      rw [hdues, List.isChain_cons_cons] at hforward
      exact hforward.1
    · intro hmonthly
      have hmonths := hlaw'.months _ hmoved hmonthly
      change ((duesOf row.id _).map _).IsChain _ at hmonths
      rw [hdues, List.map_cons, List.map_cons, List.isChain_cons_cons, hmonthly] at hmonths
      exact (namesNext_iff zone _ _ _ row.intervalDays).mpr hmonths.1
  · intro htimely
    refine ⟨hlaw.once, fun row' hrow' => ?_, fun row' hrow' hmonthly => ?_⟩
    · obtain ⟨row, hrow, rfl⟩ := mem_updatePlan.mp hrow'
      rw [duesOf_updatePlan zone completedAt nextDueAt hhas]
      by_cases hmatch : row.id = plan.id ∧ row.companyId = companyId
      · obtain ⟨earlier, hlatest⟩ := hcurrent.latest row hrow
        have hforward := hlaw.forward row hrow
        rw [if_pos hmatch]
        change List.IsChain _ (if plan.id = row.id then _ :: duesOf row.id s else duesOf row.id s)
        rw [if_pos hmatch.1.symm]
        rw [hlatest] at hforward ⊢
        rw [dueAfter_eq (hread row hrow hmatch.1)]
        exact List.isChain_cons_cons.mpr ⟨(htimely row hrow hmatch.1 hmatch.2).1, hforward⟩
      · rw [if_neg hmatch, if_neg (id_ne_of_not_updated hcurrent hhas hrow hmatch)]
        exact hlaw.forward row hrow
    · obtain ⟨row, hrow, rfl⟩ := mem_updatePlan.mp hrow'
      rw [duesOf_updatePlan zone completedAt nextDueAt hhas]
      by_cases hmatch : row.id = plan.id ∧ row.companyId = companyId
      · rw [if_pos hmatch] at hmonthly
        change row.frequency = .monthly at hmonthly
        obtain ⟨earlier, hlatest⟩ := hcurrent.latest row hrow
        have hmonths := hlaw.months row hrow hmonthly
        have hnext := (htimely row hrow hmatch.1 hmatch.2).2 hmonthly
        rw [if_pos hmatch]
        change List.IsChain _ (List.map _
          (if plan.id = row.id then _ :: duesOf row.id s else duesOf row.id s))
        rw [if_pos hmatch.1.symm]
        rw [hlatest] at hmonths ⊢
        rw [dueAfter_eq (hread row hrow hmatch.1), hmonthly]
        exact List.isChain_cons_cons.mpr
          ⟨(namesNext_iff zone _ _ _ row.intervalDays).mp hnext, hmonths⟩
      · rw [if_neg hmatch] at hmonthly ⊢
        rw [if_neg (id_ne_of_not_updated hcurrent hhas hrow hmatch)]
        exact hlaw.months row hrow hmonthly

theorem law_createTicket {dueAt : Int} {userId : String} (hlaw : PlanLaw zone s) :
    PlanLaw zone (execPlan zone (.createTicket plan dueAt companyId userId) s) ↔
      Timely zone (.createTicket plan dueAt companyId userId) s := by
  constructor
  · intro hlaw'
    exact (List.nodup_cons.mp hlaw'.once).1
  · intro htimely
    exact ⟨List.nodup_cons.mpr ⟨htimely, hlaw.once⟩, hlaw.forward, hlaw.months⟩

theorem law_execPlan_iff {op : PlanOp} (hcurrent : Current s) (hlaw : PlanLaw zone s)
    (hread : ReadWell op s) : PlanLaw zone (execPlan zone op s) ↔ Timely zone op s := by
  cases op with
  | createTicket plan dueAt companyId userId => exact law_createTicket hlaw
  | updatePlan plan companyId completedAt nextDueAt =>
    by_cases hhas : hasPlan plan.id companyId s = true
    · exact law_updatePlan hcurrent hlaw hread hhas
    · rw [execPlan_updatePlan_of_not_hasPlan hhas]
      refine iff_of_true hlaw fun row hrow hid hcompany => ?_
      exact absurd (hasPlan_iff.mpr ⟨row, hrow, hid, hcompany⟩) hhas
  | read | assignTicket _ _ _ | insertRun _ | completeRun _ _ _ _ =>
    exact iff_of_true ⟨hlaw.once, hlaw.forward, hlaw.months⟩ trivial

theorem current_execPlan (op : PlanOp) (hcurrent : Current s) : Current (execPlan zone op s) := by
  cases op with
  | updatePlan plan companyId completedAt nextDueAt =>
    by_cases hhas : hasPlan plan.id companyId s = true
    · refine ⟨hcurrent.distinct.updateWhere fun _ _ => rfl, fun row' hrow' => ?_⟩
      obtain ⟨row, hrow, rfl⟩ := mem_updatePlan.mp hrow'
      rw [duesOf_updatePlan zone completedAt nextDueAt hhas]
      by_cases hmatch : row.id = plan.id ∧ row.companyId = companyId
      · rw [if_pos hmatch]
        refine ⟨duesOf row.id s, ?_⟩
        change (if plan.id = row.id then _ else _) = _
        rw [if_pos hmatch.1.symm]
        rfl
      · rw [if_neg hmatch, if_neg (id_ne_of_not_updated hcurrent hhas hrow hmatch)]
        exact hcurrent.latest row hrow
    · rw [execPlan_updatePlan_of_not_hasPlan hhas]
      exact hcurrent
  | read | createTicket _ _ _ _ | assignTicket _ _ _ | insertRun _ | completeRun _ _ _ _ =>
    exact ⟨hcurrent.distinct, hcurrent.latest⟩

theorem sameRecurrence_refl (s : MaintenanceStore) : SameRecurrence s s :=
  fun row hrow => ⟨row, hrow, rfl, rfl, rfl⟩

theorem SameRecurrence.trans {s s' s'' : MaintenanceStore} (h : SameRecurrence s s')
    (h' : SameRecurrence s' s'') : SameRecurrence s s'' := by
  intro row'' hrow''
  obtain ⟨row', hrow', hid', hfrequency', hdays'⟩ := h' row'' hrow''
  obtain ⟨row, hrow, hid, hfrequency, hdays⟩ := h row' hrow'
  exact ⟨row, hrow, hid.trans hid', hfrequency.trans hfrequency', hdays.trans hdays'⟩

theorem sameRecurrence_execPlan (op : PlanOp) (s : MaintenanceStore) :
    SameRecurrence s (execPlan zone op s) := by
  cases op with
  | updatePlan plan companyId completedAt nextDueAt =>
    intro row' hrow'
    obtain ⟨row, hrow, rfl⟩ := mem_updatePlan.mp hrow'
    refine ⟨row, hrow, ?_⟩
    split
    · exact ⟨rfl, rfl, rfl⟩
    · exact ⟨rfl, rfl, rfl⟩
  | read | createTicket _ _ _ _ | assignTicket _ _ _ | insertRun _ | completeRun _ _ _ _ =>
    exact sameRecurrence_refl s

end Steps

section Runs

variable {zone : TimeZone} {s : MaintenanceStore}

theorem IsRead.later {plan : MaintenancePlan} {s s' : MaintenanceStore}
    (hsame : SameRecurrence s s') (h : IsRead plan s) : IsRead plan s' := by
  intro row' hrow' hid
  obtain ⟨row, hrow, hid', hfrequency, hdays⟩ := hsame row' hrow'
  obtain ⟨hread, hread'⟩ := h row hrow (hid'.trans hid)
  exact ⟨hfrequency.symm.trans hread, hdays.symm.trans hread'⟩

theorem isRead_of_getPlan {user : CurrentUser} {id companyId : String} {plan : MaintenancePlan}
    (hdistinct : Distinct MaintenancePlan.id s.plans)
    (h : getPlan user id s = some (plan, companyId)) : IsRead plan s := by
  rw [getPlan] at h
  split at h
  next => cases h
  next scope _ =>
    split at h
    next => cases h
    next found hfound =>
      obtain ⟨hfind, -⟩ := Option.filter_eq_some_iff.mp hfound
      rw [Option.map_eq_some_iff] at h
      obtain ⟨_, -, heq⟩ := h
      cases heq
      intro row hrow hid
      rw [hdistinct.eq_of_key hrow (List.mem_of_find?_eq_some hfind) hid]
      exact ⟨rfl, rfl⟩

/-- What is left of a program that goes on with a plan it has read. -/
def GoesOn (plan : MaintenancePlan) (p : PlanProgram) : Prop :=
  p.All fun op => ∀ s, IsRead plan s → ReadWell op s

theorem goesOn_movePlan (plan : MaintenancePlan) (companyId : String) (completedAt : Int)
    (nextDueAt : Option Int) : GoesOn plan (movePlan plan companyId completedAt nextDueAt) :=
  Prog.all_step (fun _ h => h) fun _ => trivial

theorem goesOn_completing (plan : MaintenancePlan) (companyId userId : String) (completedAt : Int)
    (runId : Nat) (nextDueAt : Option Int) :
    GoesOn plan (.step (.completeRun runId companyId completedAt userId) fun _ =>
      movePlan plan companyId completedAt nextDueAt) :=
  Prog.all_step (fun _ _ => trivial) fun _ => goesOn_movePlan plan companyId completedAt nextDueAt

theorem goesOn_scheduleRun (user : CurrentUser) (plan : MaintenancePlan) (companyId : String)
    (dueAt : Int) (ticketId : Nat) : GoesOn plan (scheduleRun user plan companyId dueAt ticketId) :=
  Prog.all_step (fun _ _ => trivial) fun _ => trivial

variable (zone) in
/-- A program that is safe whatever is allowed. -/
abbrev SafePlan (p : PlanProgram) (s : MaintenanceStore) : Prop :=
  p.Safe (maintenanceSystem zone) (fun _ _ => True) (fun s => Current s ∧ PlanLaw zone s)
    SameRecurrence ReadWell (fun _ => True) s

theorem safe_of_goesOn {plan : MaintenancePlan} {p : PlanProgram} (h : GoesOn plan p)
    (hread : IsRead plan s) : SafePlan zone p s :=
  Prog.safe_under (IsRead plan) (fun hsame h => h.later hsame)
    (fun {op s} _ _ _ => sameRecurrence_execPlan op s) h hread

theorem safe_generateTicket (user : CurrentUser) (id : String) (dto : GenerateDto)
    (s : MaintenanceStore) : SafePlan zone (generateTicket user id dto) s := by
  intro s' _ hinv _
  refine ⟨trivial, ?_⟩
  beta_reduce
  cases hplan : getPlan user id s' with
  | none => exact fun _ _ _ => trivial
  | some found =>
    obtain ⟨plan, companyId⟩ := found
    refine safe_of_goesOn ?_ (isRead_of_getPlan hinv.1.distinct hplan)
    rw [GoesOn]
    dsimp only
    split
    · trivial
    · refine Prog.all_step (fun _ _ => trivial) fun _ => ?_
      split
      · exact Prog.all_step (fun _ _ => trivial) fun _ => goesOn_scheduleRun user plan _ _ _
      · exact goesOn_scheduleRun user plan _ _ _

theorem safe_completePlan (user : CurrentUser) (id : String) (dto : CompleteDto)
    (s : MaintenanceStore) : SafePlan zone (completePlan user id dto) s := by
  intro s' _ hinv _
  refine ⟨trivial, ?_⟩
  beta_reduce
  cases hplan : getPlan user id s' with
  | none => exact fun _ _ _ => trivial
  | some found =>
    obtain ⟨plan, companyId⟩ := found
    refine safe_of_goesOn ?_ (isRead_of_getPlan hinv.1.distinct hplan)
    rw [GoesOn]
    refine Prog.all_step (fun _ _ => trivial) fun _ => ?_
    cases dto.runId with
    | some runId =>
      dsimp only
      split
      · exact goesOn_completing plan companyId user.id _ runId dto.nextDueAt
      · trivial
    | none =>
      dsimp only
      split
      · exact goesOn_completing plan companyId user.id _ _ dto.nextDueAt
      · exact Prog.all_step (fun _ _ => trivial) fun _ => goesOn_movePlan plan companyId _ _

theorem informed_plans (zone : TimeZone) : Informed (maintenanceSystem zone) (Timely zone)
    (fun s => Current s ∧ PlanLaw zone s) SameRecurrence ReadWell where
  refl := sameRecurrence_refl
  trans h h' := h.trans h'
  exec {op s} hinv htimely hread := ⟨⟨current_execPlan op hinv.1,
    (law_execPlan_iff hinv.1 hinv.2 hread).mpr htimely⟩, sameRecurrence_execPlan op s⟩
  tick {s} hinv := ⟨⟨⟨hinv.1.distinct, hinv.1.latest⟩,
    ⟨hinv.2.once, hinv.2.forward, hinv.2.months⟩⟩, sameRecurrence_refl s⟩
  handler {req s} _ _ := by
    cases req with
    | generateTicket user id dto => exact safe_generateTicket user id dto s
    | completePlan user id dto => exact safe_completePlan user id dto s

/-- Before any ticket is generated, each plan is due on the date it was made with. -/
structure Unused (s : MaintenanceStore) : Prop where
  distinct : Distinct MaintenancePlan.id s.plans
  occurrences : s.occurrences = []
  dues : s.dues = s.plans.map fun plan => (plan.id, plan.nextDueAt)

theorem Unused.duesOf (h : Unused s) {plan : MaintenancePlan} (hplan : plan ∈ s.plans) :
    Maintenance.duesOf plan.id s = [plan.nextDueAt] := by
  have hfilter : (fun due : String × Int => decide (due.1 = plan.id)) ∘
      (fun plan : MaintenancePlan => (plan.id, plan.nextDueAt)) =
        fun row : MaintenancePlan => decide (row.id = plan.id) := rfl
  rw [Maintenance.duesOf, h.dues, List.filter_map, hfilter, h.distinct.filter_key hplan]
  rfl

theorem Unused.current (h : Unused s) : Current s :=
  ⟨h.distinct, fun _ hplan => ⟨[], h.duesOf hplan⟩⟩

theorem Unused.law (h : Unused s) : PlanLaw zone s where
  once := by
    rw [h.occurrences]
    exact List.nodup_nil
  forward _ hplan := by
    rw [h.duesOf hplan]
    exact .singleton _
  months _ hplan _ := by
    rw [h.duesOf hplan]
    exact .singleton _

/-- In every run of timely statements there is one ticket for each date, the dates of every plan
move forward, and those of a monthly plan name every month once; each statement under way keeps
this just where it is timely; and completed on each of its due dates a monthly plan is due in every
month just when it starts on one of the first 28 days. -/
theorem maintained_when_timely (zone : TimeZone) {c₀ c : Config MaintenanceStore PlanOp}
    (hidle : c₀.threads = []) (hunused : Unused c₀.shared)
    (hrun : (maintenanceSystem zone).Run (Timely zone) c₀ c) :
    PlanLaw zone c.shared ∧
      (∀ plan ∈ c.shared.plans, plan.frequency = .monthly →
        EveryMonthOnce ((duesOf plan.id c.shared).map (monthOf zone))) ∧
      (∀ op next, Prog.step op next ∈ c.threads →
        (PlanLaw zone (execPlan zone op c.shared) ↔ Timely zone op c.shared)) ∧
      ∀ start, (∀ n : Nat,
        monthOf zone ((fun base => nextDueDate zone base .monthly 0)^[n] start) =
          monthOf zone start + n) ↔ dateOf zone start ≤ 28 := by
  obtain ⟨⟨hcurrent, hlaw⟩, hread⟩ :=
    (informed_plans zone).run hidle hrun ⟨hunused.current, hunused.law⟩
  refine ⟨hlaw, fun plan hplan hmonthly => ?_, fun op next hthread => ?_, every_month_iff zone⟩
  · exact everyMonthOnce_of_isChain (hlaw.months plan hplan hmonthly)
  · exact law_execPlan_iff hcurrent hlaw (hread op next hthread)

end Runs

section Samples

theorem day_utc_id (time : Int) : id (id time) / 86400000 = time / 86400000 :=
  rfl

def utcZone : TimeZone where
  localTime := id
  utc := id
  day_utc := day_utc_id

def fifteenth : Int := 19737 * 86400000

def samplePlan : MaintenancePlan where
  id := "filters"
  companyId := "acme"
  frequency := .monthly
  intervalDays := 0
  nextDueAt := fifteenth
  lastCompletedAt := none
  assetId := none
  assignedToId := none
  status := .active

def sampleUser : CurrentUser where
  id := "ana"
  role := .technician
  userType := .businessUser
  companyId := some "acme"
  effectiveCompanyId := none
  location := none
  permissionScopes := none
  permissionSlugs := none

def planned : Config MaintenanceStore PlanOp :=
  ⟨⟨[samplePlan], [], [], 0, [], [("filters", fifteenth)]⟩, []⟩

theorem unused_planned : Unused planned.shared :=
  ⟨List.nodup_singleton _, rfl, rfl⟩

def isTimely (zone : TimeZone) (op : PlanOp) (s : MaintenanceStore) : Bool :=
  match op with
  | .createTicket plan dueAt _ _ => !s.occurrences.contains ⟨plan.id, dueAt⟩
  | .updatePlan plan companyId completedAt nextDueAt => s.plans.all fun row =>
    !decide (row.id = plan.id) || !decide (row.companyId = companyId) ||
      decide (row.nextDueAt ≤
        nextDueAt.getD (nextDueDate zone completedAt row.frequency row.intervalDays)) &&
      decide (monthOf zone (nextDueAt.getD (nextDueDate zone completedAt .monthly 0)) =
        monthOf zone row.nextDueAt + 1)
  | .read | .assignTicket _ _ _ | .insertRun _ | .completeRun _ _ _ _ => true

theorem timely_of_test {zone : TimeZone} {op : PlanOp} {s : MaintenanceStore}
    (h : isTimely zone op s = true) : Timely zone op s := by
  cases op with
  | createTicket plan dueAt companyId userId =>
    simpa [isTimely, Timely] using h
  | updatePlan plan companyId completedAt nextDueAt =>
    intro row hrow hid hcompany
    have hother := List.all_eq_true.mp h row hrow
    rw [hid, hcompany] at hother
    simp only [decide_true, Bool.not_true, Bool.false_or, Bool.and_eq_true,
      decide_eq_true_eq] at hother
    exact ⟨hother.1, fun _ => (namesNext_iff zone _ _ _ 0).mpr hother.2⟩
  | read | assignTicket _ _ _ | insertRun _ | completeRun _ _ _ _ => trivial

/-- A ticket is generated, and the plan is completed on its date: it is due a month later. -/
theorem maintained_once : ∃ c : Config MaintenanceStore PlanOp, PlanLaw utcZone c.shared ∧
    c.shared.occurrences = [⟨"filters", fifteenth⟩] ∧
      c.shared.dues = [("filters", 19768 * 86400000), ("filters", fifteenth)] := by
  have hplay : ((maintenanceSystem utcZone).play (fun _ _ => true) (isTimely utcZone) planned
      [.start (.generateTicket sampleUser "filters" ⟨none⟩), .run 0, .run 0, .run 0,
        .start (.completePlan sampleUser "filters" ⟨some fifteenth, none, none, none⟩), .run 1,
        .run 1, .run 1, .run 1]).any (fun c =>
          decide (c.shared.occurrences = [⟨"filters", fifteenth⟩]) &&
            decide (c.shared.dues = [("filters", 19768 * 86400000), ("filters", fifteenth)])) =
      true := by
    decide
  obtain ⟨c, hrun, hcheck⟩ :=
    System.exists_run_of_play (fun _ _ _ => trivial) (fun _ _ => timely_of_test) hplay
  rw [Bool.and_eq_true, decide_eq_true_iff, decide_eq_true_iff] at hcheck
  exact ⟨c, (maintained_when_timely utcZone rfl unused_planned hrun).1, hcheck⟩

/-- Two calls generate two tickets for one date, and after the 31st of January 2024 the plan is due
on the second of March. -/
theorem maintained_twice : (¬ ∀ (zone : TimeZone) (c₀ c : Config MaintenanceStore PlanOp),
    c₀.threads = [] → Unused c₀.shared →
      (maintenanceSystem zone).Run (fun _ _ => True) c₀ c → PlanLaw zone c.shared) ∧
    nextDueDate utcZone (19753 * 86400000) .monthly 0 = 19784 * 86400000 ∧
      monthOf utcZone (19784 * 86400000) = monthOf utcZone (19753 * 86400000) + 2 := by
  refine ⟨fun hall => ?_, by decide, by decide⟩
  have hplay : ((maintenanceSystem utcZone).play (fun _ _ => true) (fun _ _ => true) planned
      [.start (.generateTicket sampleUser "filters" ⟨none⟩),
        .start (.generateTicket sampleUser "filters" ⟨none⟩), .run 0, .run 1, .run 0, .run 1,
        .run 0, .run 1]).any (fun c =>
          decide (c.shared.occurrences = [⟨"filters", fifteenth⟩, ⟨"filters", fifteenth⟩])) =
      true := by
    decide
  obtain ⟨c, hrun, hcheck⟩ :=
    System.exists_run_of_play (fun _ _ _ => trivial) (fun _ _ _ => trivial) hplay
  have honce := (hall utcZone planned c rfl unused_planned hrun).once
  rw [of_decide_eq_true hcheck] at honce
  exact absurd honce (by decide)

end Samples
end FieldserviceIT.Maintenance
