import FieldserviceIT.Cmdb.NetworkAlerts
import FieldserviceIT.Lib.Histories
import Mathlib.Data.List.TakeWhile

/-!
What alerts promise over a history of polls. An event stays as it is while the condition of
its rule holds, and is resolved at the first poll that finds the device online without it;
a rule has one open event at most, and a metric that was not measured triggers none.
-/

namespace FieldserviceIT.Cmdb

open Lib

section Law

variable (P : AlertPlatform)

def conditionHolds (snapshot : NetworkHealthSnapshot) (rule : NetworkAlertRule) : Bool :=
  triggers P snapshot rule && measured rule.metric snapshot != some none

def Holding (poll : Poll) (s : AlertDesk) (ruleId : String) : Prop :=
  ∃ rule ∈ listAlertRules poll.asset s.rules,
    rule.id = ruleId ∧ conditionHolds P poll.snapshot rule = true

/-- What a poll makes of the events. -/
structure AlertLaw (poll : Poll) (s : AlertDesk) : Prop where
  resolves : poll.snapshot.status = "ONLINE" → ∀ (i : Nat) event, s.events[i]? = some event →
    isOpenEvent poll.asset event = true → ¬ Holding P poll s event.ruleId →
      (afterPoll P poll s).events[i]? = some (event.resolve poll.now)
  keeps : ∀ (i : Nat) event, s.events[i]? = some event → (isOpenEvent poll.asset event = true →
    poll.snapshot.status = "ONLINE" → Holding P poll s event.ruleId) →
      (afterPoll P poll s).events[i]? = some event
  opens : ∀ ruleId, Holding P poll s ruleId →
    (afterPoll P poll s).events.countP (openFor poll.asset ruleId) = 1
  once : ∀ ruleId, (afterPoll P poll s).events.countP (openFor poll.asset ruleId) ≤ 1
  /-- New events are of rules whose condition holds. -/
  triggered : ∀ event ∈ (afterPoll P poll s).events.drop s.events.length,
    Holding P poll s event.ruleId

def pendingRules (poll : Poll) (rules : List NetworkAlertRule) (events : List NetworkAlertEvent) :
    List NetworkAlertRule :=
  rules.filter fun rule => !(events.any (openFor poll.asset rule.id))

/-- Those that get one: all before the first creation that throws. -/
def reachedRules (poll : Poll) (rules : List NetworkAlertRule) (events : List NetworkAlertEvent) :
    List NetworkAlertRule :=
  (pendingRules poll rules events).takeWhile fun rule => (poll.creates rule).isSome

/-- No condition of an open event holds at an online poll, and the rules that get an event
are exactly those of the waiting ones whose condition holds. -/
structure PollInOrder (poll : Poll) (s : AlertDesk) : Prop where
  quiet : poll.snapshot.status = "ONLINE" → ∀ event ∈ s.events,
    isOpenEvent poll.asset event = true → ¬ Holding P poll s event.ruleId
  rightly : ∀ rule ∈ pendingRules poll (matchingRules P poll s) (settled poll s),
    (conditionHolds P poll.snapshot rule = true ↔
      rule ∈ reachedRules poll (matchingRules P poll s) (settled poll s))

instance decidableHolding (poll : Poll) (s : AlertDesk) (ruleId : String) :
    Decidable (Holding P poll s ruleId) :=
  inferInstanceAs (Decidable (∃ rule ∈ listAlertRules poll.asset s.rules,
    rule.id = ruleId ∧ conditionHolds P poll.snapshot rule = true))

instance decidablePollInOrder (poll : Poll) (s : AlertDesk) : Decidable (PollInOrder P poll s) :=
  decidable_of_iff
    ((poll.snapshot.status = "ONLINE" → ∀ event ∈ s.events,
        isOpenEvent poll.asset event = true → ¬ Holding P poll s event.ruleId) ∧
      ∀ rule ∈ pendingRules poll (matchingRules P poll s) (settled poll s),
        (conditionHolds P poll.snapshot rule = true ↔
          rule ∈ reachedRules poll (matchingRules P poll s) (settled poll s)))
    ⟨fun h => ⟨h.1, h.2⟩, fun h => ⟨h.quiet, h.rightly⟩⟩

end Law

/-- Rules with ids of their own, and at most one open event for each device and rule. -/
structure AlertDesk.Orderly (s : AlertDesk) : Prop where
  distinct : Distinct NetworkAlertRule.id s.rules
  once : ∀ asset ruleId, s.events.countP (openFor asset ruleId) ≤ 1

/-- The device has no maintenance window at the time of the poll. -/
def Watched (poll : Poll) (s : AlertDesk) : Prop :=
  isInMaintenanceWindow poll.asset poll.now s.windows = false

section Polls

variable {P : AlertPlatform} {poll : Poll} {s : AlertDesk}

theorem isOpenEvent_resolve (asset : MonitoredAsset) (now : Int) (event : NetworkAlertEvent) :
    isOpenEvent asset (event.resolve now) = false := by
  rw [isOpenEvent, NetworkAlertEvent.resolve, Bool.and_eq_false_iff]
  exact .inr rfl

theorem openFor_resolve (asset : MonitoredAsset) (ruleId : String) (now : Int)
    (event : NetworkAlertEvent) : openFor asset ruleId (event.resolve now) = false := by
  rw [openFor, isOpenEvent_resolve, Bool.false_and]

theorem mem_createNetworkAlertEvent {rule : NetworkAlertRule} {event : NetworkAlertEvent}
    (h : createNetworkAlertEvent P poll rule = some event) :
    event.ruleId = rule.id ∧ event.assetId = poll.asset.id ∧
      event.companyId = poll.asset.companyId ∧ event.status = "ACTIVE" := by
  obtain ⟨created, -, rfl⟩ := Option.map_eq_some_iff.mp h
  exact ⟨rfl, rfl, rfl, rfl⟩

theorem openFor_created {rule : NetworkAlertRule} {event : NetworkAlertEvent}
    (h : createNetworkAlertEvent P poll rule = some event) (asset : MonitoredAsset)
    (ruleId : String) : openFor asset ruleId event = true ↔
      poll.asset.id = asset.id ∧ poll.asset.companyId = asset.companyId ∧ rule.id = ruleId := by
  obtain ⟨hrule, hasset, hcompany, hstatus⟩ := mem_createNetworkAlertEvent h
  rw [openFor, isOpenEvent, hrule, hasset, hcompany, hstatus]
  simp [and_assoc]

theorem events_openAlerts {rules : List NetworkAlertRule}
    (hdistinct : Distinct NetworkAlertRule.id rules) (events : List NetworkAlertEvent) :
    (openAlerts P poll rules events).1 =
      events ++ (reachedRules poll rules events).filterMap (createNetworkAlertEvent P poll) := by
  induction rules generalizing events with
  | nil => simp [openAlerts, reachedRules, pendingRules]
  | cons rule rules ih =>
    obtain ⟨hfresh, hrest⟩ := List.nodup_cons.mp hdistinct
    rw [openAlerts]
    cases hfound : events.find? (openFor poll.asset rule.id) with
    | some existing =>
      have hany : events.any (openFor poll.asset rule.id) = true :=
        List.any_eq_true.mpr ⟨existing, List.mem_of_find?_eq_some hfound,
          List.find?_some hfound⟩
      simp only [ih hrest events, reachedRules, pendingRules]
      rw [List.filter_cons_of_neg (by simp [hany])]
    | none =>
      have hnone : events.any (openFor poll.asset rule.id) = false := by
        rw [List.any_eq_false]
        exact List.find?_eq_none.mp hfound
      simp only [reachedRules, pendingRules]
      rw [List.filter_cons_of_pos (by simp [hnone])]
      cases hcreated : createNetworkAlertEvent P poll rule with
      | none =>
        have hthrows : (poll.creates rule).isSome = false := by
          rw [createNetworkAlertEvent, Option.map_eq_none_iff] at hcreated
          rw [hcreated]
          rfl
        rw [List.takeWhile_cons_of_neg (by simp [hthrows])]
        simp
      | some event =>
        have hcreates : (poll.creates rule).isSome = true := by
          obtain ⟨created, hcreates, -⟩ := Option.map_eq_some_iff.mp hcreated
          rw [hcreates]
          rfl
        -- the new event changes nothing for the rules that are still to come
        have hpending : pendingRules poll rules (events ++ [event]) =
            pendingRules poll rules events := by
          refine List.filter_congr fun other hother => ?_
          have hne : rule.id ≠ other.id :=
            fun heq => hfresh (heq ▸ List.mem_map_of_mem hother)
          have hclosed : openFor poll.asset other.id event = false := by
            rw [← Bool.not_eq_true, openFor_created hcreated]
            exact fun h => hne h.2.2
          rw [List.any_append, List.any_cons, hclosed, List.any_nil, Bool.or_false,
            Bool.or_false]
        simp only [List.takeWhile_cons, hcreates, if_true, List.filterMap_cons_some hcreated,
          ih hrest, reachedRules, hpending, List.append_assoc, List.singleton_append]
        rfl

theorem distinct_matchingRules (h : s.Orderly) (poll : Poll) :
    Distinct NetworkAlertRule.id (matchingRules P poll s) :=
  (h.distinct.filter _).filter _

theorem events_afterPoll (h : s.Orderly) (hwatched : Watched poll s) :
    (afterPoll P poll s).events = settled poll s ++
      (reachedRules poll (matchingRules P poll s) (settled poll s)).filterMap
        (createNetworkAlertEvent P poll) := by
  rw [afterPoll, evaluateAlertRules, hwatched, Bool.or_false]
  split
  next hempty =>
    rw [List.isEmpty_iff.mp hempty]
    simp [reachedRules, pendingRules]
  next => exact events_openAlerts (distinct_matchingRules h poll) _

theorem length_settled (poll : Poll) (s : AlertDesk) :
    (settled poll s).length = s.events.length := by
  rw [settled]
  split
  · exact List.length_map _
  · rfl

theorem countP_settled_le (poll : Poll) (s : AlertDesk) (asset : MonitoredAsset) (ruleId : String) :
    (settled poll s).countP (openFor asset ruleId) ≤ s.events.countP (openFor asset ruleId) := by
  rw [settled]
  split
  · rw [resolveInactiveAlerts, updateWhere, List.countP_map]
    refine List.countP_mono_left fun event _ hopen => ?_
    simp only [Function.comp] at hopen
    split at hopen
    · rw [openFor_resolve] at hopen
      cases hopen
    · exact hopen
  · exact Nat.le_refl _

theorem mem_reachedRules {rules : List NetworkAlertRule} {events : List NetworkAlertEvent}
    {rule : NetworkAlertRule} (h : rule ∈ reachedRules poll rules events) :
    rule ∈ pendingRules poll rules events ∧ (poll.creates rule).isSome = true :=
  ⟨(List.takeWhile_prefix _).subset h, List.mem_takeWhile_imp (p := fun rule => (poll.creates rule).isSome) h⟩

theorem mem_pendingRules {rules : List NetworkAlertRule} {events : List NetworkAlertEvent}
    {rule : NetworkAlertRule} : rule ∈ pendingRules poll rules events ↔
      rule ∈ rules ∧ events.any (openFor poll.asset rule.id) = false := by
  rw [pendingRules, List.mem_filter, Bool.not_eq_true']

theorem countP_created_le (h : s.Orderly) (poll : Poll) (events : List NetworkAlertEvent)
    (asset : MonitoredAsset) (ruleId : String) :
    ((reachedRules poll (matchingRules P poll s) events).filterMap
      (createNetworkAlertEvent P poll)).countP (openFor asset ruleId) ≤ 1 := by
  have hdistinct : Distinct NetworkAlertRule.id
      (reachedRules poll (matchingRules P poll s) events) :=
    List.Nodup.sublist ((List.takeWhile_sublist _).map _)
      ((distinct_matchingRules h poll).filter _)
  rw [List.countP_filterMap]
  refine Nat.le_trans (List.countP_mono_left (q := fun rule => decide (rule.id = ruleId))
    fun rule _ hopen => ?_) ?_
  · cases hcreated : createNetworkAlertEvent P poll rule with
    | none => simp [hcreated] at hopen
    | some event =>
      rw [hcreated] at hopen
      exact decide_eq_true ((openFor_created hcreated asset ruleId).mp hopen).2.2
  · have hcount := List.nodup_iff_count_le_one.mp hdistinct ruleId
    rw [List.count, List.countP_map] at hcount
    refine Nat.le_trans (Nat.le_of_eq (List.countP_congr fun rule _ => ?_)) hcount
    simp [Function.comp]

theorem AlertDesk.Orderly.afterPoll (h : s.Orderly) (P : AlertPlatform) (poll : Poll) :
    (Cmdb.afterPoll P poll s).Orderly := by
  refine ⟨h.distinct, fun asset ruleId => ?_⟩
  have hsettled := Nat.le_trans (countP_settled_le poll s asset ruleId) (h.once asset ruleId)
  by_cases hwatched : Watched poll s
  · rw [events_afterPoll h hwatched, List.countP_append]
    have hcreated := countP_created_le (P := P) h poll (settled poll s) asset ruleId
    by_cases hnone : ((reachedRules poll (matchingRules P poll s) (settled poll s)).filterMap
        (createNetworkAlertEvent P poll)).countP (openFor asset ruleId) = 0
    · omega
    · -- a rule that gets an event had no open one
      obtain ⟨event, hevent, hopen⟩ := List.countP_pos_iff.mp (Nat.pos_of_ne_zero hnone)
      obtain ⟨rule, hrule, hmade⟩ := List.mem_filterMap.mp hevent
      obtain ⟨hid, hcompany, rfl⟩ := (openFor_created hmade asset ruleId).mp hopen
      have hpending := (mem_pendingRules.mp (mem_reachedRules hrule).1).2
      have hzero : (settled poll s).countP (openFor asset rule.id) = 0 := by
        rw [List.countP_eq_zero]
        intro other hother hopen'
        refine List.any_eq_false.mp hpending other hother ?_
        rw [openFor, isOpenEvent, hid, hcompany]
        exact hopen'
      omega
  · rw [Watched, Bool.not_eq_false] at hwatched
    rw [Cmdb.afterPoll, evaluateAlertRules, hwatched, Bool.or_true, if_pos rfl]
    exact hsettled

theorem getElem_settled (poll : Poll) {i : Nat} {event : NetworkAlertEvent}
    (hevent : s.events[i]? = some event) : (settled poll s)[i]? = some
      (if poll.snapshot.status = "ONLINE" ∧ isOpenEvent poll.asset event = true then
        event.resolve poll.now else event) := by
  rw [settled]
  by_cases honline : poll.snapshot.status = "ONLINE"
  · simp [honline, resolveInactiveAlerts, updateWhere, hevent]
  · simp [honline, hevent]

theorem getElem_afterPoll (h : s.Orderly) (hwatched : Watched poll s) {i : Nat}
    {event : NetworkAlertEvent} (hevent : s.events[i]? = some event) :
    (afterPoll P poll s).events[i]? = some
      (if poll.snapshot.status = "ONLINE" ∧ isOpenEvent poll.asset event = true then
        event.resolve poll.now else event) := by
  have hi := (List.getElem?_eq_some_iff.mp hevent).1
  rw [events_afterPoll h hwatched,
    List.getElem?_append_left (by rw [length_settled]; exact hi), getElem_settled poll hevent]

theorem drop_afterPoll (h : s.Orderly) (hwatched : Watched poll s) :
    (afterPoll P poll s).events.drop s.events.length =
      (reachedRules poll (matchingRules P poll s) (settled poll s)).filterMap
        (createNetworkAlertEvent P poll) := by
  rw [events_afterPoll h hwatched, ← length_settled poll s, List.drop_left]

theorem rule_of_holding (h : s.Orderly) {rule : NetworkAlertRule} (hrule : rule ∈ s.rules)
    (hholding : Holding P poll s rule.id) : conditionHolds P poll.snapshot rule = true := by
  obtain ⟨other, hother, hid, hcondition⟩ := hholding
  obtain rfl := h.distinct.eq_of_key (List.mem_filter.mp hother).1 hrule hid
  exact hcondition

theorem mem_matchingRules {rule : NetworkAlertRule} : rule ∈ matchingRules P poll s ↔
    rule ∈ listAlertRules poll.asset s.rules ∧ triggers P poll.snapshot rule = true :=
  List.mem_filter

theorem pollInOrder_of_law (h : s.Orderly) (hwatched : Watched poll s)
    (hlaw : AlertLaw P poll s) : PollInOrder P poll s := by
  constructor
  · intro honline event hevent hopen hholding
    obtain ⟨i, hi⟩ := List.mem_iff_getElem?.mp hevent
    have hkept := hlaw.keeps i event hi fun _ _ => hholding
    rw [getElem_afterPoll h hwatched hi, if_pos ⟨honline, hopen⟩] at hkept
    have hclosed := isOpenEvent_resolve poll.asset poll.now event
    rw [Option.some.inj hkept, hopen] at hclosed
    cases hclosed
  · intro rule hpending
    obtain ⟨hmatching, hnone⟩ := mem_pendingRules.mp hpending
    obtain ⟨hlisted, htriggers⟩ := mem_matchingRules.mp hmatching
    have hrule := (List.mem_filter.mp hlisted).1
    constructor
    · intro hcondition
      have hone := hlaw.opens rule.id ⟨rule, hlisted, rfl, hcondition⟩
      have hzero : (settled poll s).countP (openFor poll.asset rule.id) = 0 :=
        List.countP_eq_zero.mpr (List.any_eq_false.mp hnone)
      rw [events_afterPoll h hwatched, List.countP_append, hzero, Nat.zero_add] at hone
      obtain ⟨event, hevent, hopen⟩ := List.countP_pos_iff.mp (by rw [hone]; exact Nat.one_pos)
      obtain ⟨other, hreached, hmade⟩ := List.mem_filterMap.mp hevent
      have hid := ((openFor_created hmade _ _).mp hopen).2.2
      have hother := (mem_pendingRules.mp (mem_reachedRules hreached).1).1
      have hsame := (distinct_matchingRules h poll).eq_of_key hother hmatching hid
      exact hsame ▸ hreached
    · intro hreached
      obtain ⟨created, hcreates⟩ := Option.isSome_iff_exists.mp (mem_reachedRules hreached).2
      have hmade : createNetworkAlertEvent P poll rule = some _ :=
        congrArg (Option.map _) hcreates
      have hholding := hlaw.triggered _
        ((drop_afterPoll h hwatched).symm ▸ List.mem_filterMap.mpr ⟨rule, hreached, hmade⟩)
      exact rule_of_holding h hrule hholding

theorem law_of_pollInOrder (h : s.Orderly) (hwatched : Watched poll s)
    (horder : PollInOrder P poll s) : AlertLaw P poll s := by
  have honce := (h.afterPoll P poll).once poll.asset
  refine ⟨?_, ?_, ?_, honce, ?_⟩
  · intro honline i event hevent hopen _
    rw [getElem_afterPoll h hwatched hevent, if_pos ⟨honline, hopen⟩]
  · intro i event hevent hstays
    rw [getElem_afterPoll h hwatched hevent, if_neg]
    rintro ⟨honline, hopen⟩
    exact horder.quiet honline event (List.mem_of_getElem? hevent) hopen (hstays hopen honline)
  · rintro ruleId ⟨rule, hlisted, rfl, hcondition⟩
    refine Nat.le_antisymm (honce rule.id) (List.countP_pos_iff.mpr ?_)
    rw [events_afterPoll h hwatched]
    have htriggers : triggers P poll.snapshot rule = true := by
      rw [conditionHolds, Bool.and_eq_true] at hcondition
      exact hcondition.1
    have hmatching := mem_matchingRules.mpr ⟨hlisted, htriggers⟩
    cases hnone : (settled poll s).any (openFor poll.asset rule.id) with
    | true =>
      obtain ⟨event, hevent, hopen⟩ := List.any_eq_true.mp hnone
      exact ⟨event, List.mem_append_left _ hevent, hopen⟩
    | false =>
      have hreached := (horder.rightly rule (mem_pendingRules.mpr ⟨hmatching, hnone⟩)).mp hcondition
      obtain ⟨created, hcreates⟩ := Option.isSome_iff_exists.mp (mem_reachedRules hreached).2
      have hmade : createNetworkAlertEvent P poll rule = some _ :=
        congrArg (Option.map _) hcreates
      exact ⟨_, List.mem_append_right _ (List.mem_filterMap.mpr ⟨rule, hreached, hmade⟩),
        (openFor_created hmade _ _).mpr ⟨rfl, rfl, rfl⟩⟩
  · intro event hevent
    rw [drop_afterPoll h hwatched] at hevent
    obtain ⟨rule, hreached, hmade⟩ := List.mem_filterMap.mp hevent
    have hpending := (mem_reachedRules hreached).1
    obtain ⟨hlisted, -⟩ := mem_matchingRules.mp (mem_pendingRules.mp hpending).1
    rw [(mem_createNetworkAlertEvent hmade).1]
    exact ⟨rule, hlisted, rfl, (horder.rightly rule hpending).mpr hreached⟩

/-- Over a history of polls, outside of maintenance windows, the events follow the rules
exactly when every poll is in order. -/
theorem alerts_follow_rules (P : AlertPlatform) {s : AlertDesk} {polls : List Poll}
    (h : s.Orderly) (hwatched : Throughout (afterPoll P) Watched s polls) :
    Throughout (afterPoll P) (AlertLaw P) s polls ↔
      Throughout (afterPoll P) (PollInOrder P) s polls := by
  have hinv : ∀ poll (s : AlertDesk), s.Orderly → (afterPoll P poll s).Orderly :=
    fun poll _ h => h.afterPoll P poll
  have hiff : ∀ poll (s : AlertDesk), s.Orderly → Watched poll s →
      (AlertLaw P poll s ↔ PollInOrder P poll s) :=
    fun _ _ h hwatched => ⟨pollInOrder_of_law h hwatched, law_of_pollInOrder h hwatched⟩
  exact throughout_congr hinv hiff h hwatched

end Polls

section Samples

def samplePlatformOfAlerts : AlertPlatform where
  texts :=
    { number := fun text => if text = "100" then .finite 100 else .notANumber
      toLowerCase := id
      toUpperCase := id }
  numberText n := toString n.num

def latencyRule : NetworkAlertRule :=
  ⟨"rule-1", "company-1", none, "Slow", "latency_ms", some "GT", some "100", some true⟩

def sampleDesk : AlertDesk := ⟨[latencyRule], [], []⟩

def answeredPing (now : Int) (latency : ℚ) : Poll where
  asset := ⟨"asset-1", "company-1", "Router"⟩
  snapshot := pingSnapshot "snapshot" "" (some ⟨some latency, some 0, latency⟩)
  now := now
  creates _ := some ("event", some "ticket")

theorem orderly_sampleDesk : sampleDesk.Orderly :=
  ⟨List.nodup_singleton _, fun _ _ => Nat.zero_le 1⟩

theorem watched_sampleDesk (polls : List Poll) :
    Throughout (afterPoll samplePlatformOfAlerts) Watched sampleDesk polls := by
  have hwindows : ∀ s : AlertDesk, s.windows = [] →
      Throughout (afterPoll samplePlatformOfAlerts) Watched s polls := by
    induction polls with
    | nil => exact fun _ _ => trivial
    | cons poll polls ih =>
      intro s hs
      refine ⟨?_, ih _ hs⟩
      rw [Watched, hs]
      rfl
  exact hwindows sampleDesk rfl

/-- A slow answer and then a fast one. -/
theorem alerts_follow_rules_recovery :
    Throughout (afterPoll samplePlatformOfAlerts) (AlertLaw samplePlatformOfAlerts) sampleDesk
        [answeredPing 0 200, answeredPing 60 20] ∧
      (afterwards (afterPoll samplePlatformOfAlerts) sampleDesk
        [answeredPing 0 200, answeredPing 60 20]).events.map NetworkAlertEvent.status =
          ["RESOLVED"] := by
  refine ⟨(alerts_follow_rules samplePlatformOfAlerts orderly_sampleDesk
    (watched_sampleDesk _)).mpr ⟨?_, ?_, trivial⟩, ?_⟩
  · decide
  · decide
  · decide

/-- The device answers slowly twice, and the event of the first poll is resolved by the
second. -/
theorem alert_resolved_while_holding : ¬ ∀ (P : AlertPlatform) (s : AlertDesk) (polls : List Poll),
    s.Orderly → Throughout (afterPoll P) Watched s polls →
      Throughout (afterPoll P) (AlertLaw P) s polls := by
  intro hall
  have hlaw := hall samplePlatformOfAlerts sampleDesk [answeredPing 0 200, answeredPing 60 250]
    orderly_sampleDesk (watched_sampleDesk _)
  have horder := pollInOrder_of_law (orderly_sampleDesk.afterPoll samplePlatformOfAlerts _)
    (watched_sampleDesk [answeredPing 0 200, answeredPing 60 250]).2.1 hlaw.2.1
  revert horder
  decide

end Samples
end FieldserviceIT.Cmdb
