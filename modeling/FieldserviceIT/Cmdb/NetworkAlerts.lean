import FieldserviceIT.Access.ContextualPolicies
import FieldserviceIT.Lib.Tables

/-!
Alerts of monitored devices. A poll takes a snapshot of a device and compares it with the
rules for the device; a rule that is triggered opens an event, unless one is open already,
and a device that is online again has its open events resolved first.
-/

namespace FieldserviceIT.Cmdb

open Access Lib

structure MonitoredAsset where
  id : String
  companyId : String
  name : String

structure NetworkAlertRule where
  id : String
  companyId : String
  assetId : Option String
  name : String
  metric : String
  operator : Option String
  threshold : Option String
  enabled : Option Bool
  deriving DecidableEq

structure NetworkHealthSnapshot where
  id : String
  status : String
  latencyMs : Option ℚ
  packetLossPct : Option ℚ
  cpuPct : Option ℚ
  memoryPct : Option ℚ
  message : Option String

structure NetworkAlertEvent where
  id : String
  companyId : String
  assetId : String
  ruleId : String
  snapshotId : Option String
  ticketId : Option String
  status : String
  title : String
  details : String
  triggeredAt : Int
  resolvedAt : Option Int
  deriving DecidableEq

structure NetworkMaintenanceWindow where
  companyId : String
  assetId : Option String
  startsAt : Int
  endsAt : Int
  suppressAlerts : Bool

/-- The rules are in the order of their listing. -/
structure AlertDesk where
  rules : List NetworkAlertRule
  events : List NetworkAlertEvent
  windows : List NetworkMaintenanceWindow

/-- What `ping` has written, and how long it took. -/
structure PingReply where
  latency : Option ℚ
  packetLoss : Option ℚ
  elapsed : ℚ

def pingSnapshot (id : String) (failure : String) : Option PingReply → NetworkHealthSnapshot
  | some reply =>
    { id, status := "ONLINE"
      latencyMs := some (reply.latency.getD reply.elapsed)
      packetLossPct := some (reply.packetLoss.getD 0)
      cpuPct := none, memoryPct := none, message := some "Ping check succeeded" }
  | none =>
    { id, status := "OFFLINE", latencyMs := none, packetLossPct := some 100, cpuPct := none
      memoryPct := none, message := some (if failure = "" then "Ping check failed" else failure) }

/-- What the platform makes of texts, and `String(number)`. -/
structure AlertPlatform where
  texts : TextReading
  numberText : ℚ → String

/-- A snapshot, the time it is evaluated at, and for each rule the id of the event it would
open and the ticket `createAlertTicket` would give it; nothing where the creation throws. -/
structure Poll where
  asset : MonitoredAsset
  snapshot : NetworkHealthSnapshot
  now : Int
  creates : NetworkAlertRule → Option (String × Option String)

section Evaluation

variable (P : AlertPlatform)

/-- `Number(value)` of a column. -/
def columnNumber (value : Option ℚ) : JsNumber :=
  .finite (value.getD 0)

/-- `Number(rule.threshold)` -/
def thresholdOf (rule : NetworkAlertRule) : JsNumber :=
  match rule.threshold with
  | some text => P.texts.number text
  | none => .finite 0

def compareNumber (value : Option ℚ) (operator : Option String) (threshold : JsNumber) : Bool :=
  match columnNumber value, threshold with
  | .finite current, .finite threshold =>
    if operator = some "LT" then decide (current < threshold)
    else if operator = some "EQ" then decide (current = threshold)
    else decide (threshold < current)
  | _, _ => false

def measured (metric : String) (snapshot : NetworkHealthSnapshot) : Option (Option ℚ) :=
  if metric = "latency_ms" then some snapshot.latencyMs
  else if metric = "packet_loss_pct" then some snapshot.packetLossPct
  else if metric = "cpu_pct" then some snapshot.cpuPct
  else if metric = "memory_pct" then some snapshot.memoryPct
  else none

def triggers (snapshot : NetworkHealthSnapshot) (rule : NetworkAlertRule) : Bool :=
  rule.enabled = some true &&
    if rule.metric = "offline" then decide (snapshot.status = "OFFLINE")
    else
      match measured rule.metric snapshot with
      | some value => compareNumber value rule.operator (thresholdOf P rule)
      | none => false

def listAlertRules (asset : MonitoredAsset) (rules : List NetworkAlertRule) :
    List NetworkAlertRule :=
  rules.filter fun rule => decide (rule.companyId = asset.companyId) &&
    (decide (rule.assetId = some asset.id) || rule.assetId.isNone)

/-- `status IN ('ACTIVE', 'ACKNOWLEDGED')`, of an event of the device. -/
def isOpenEvent (asset : MonitoredAsset) (event : NetworkAlertEvent) : Bool :=
  decide (event.assetId = asset.id) && decide (event.companyId = asset.companyId) &&
    ["ACTIVE", "ACKNOWLEDGED"].contains event.status

def openFor (asset : MonitoredAsset) (ruleId : String) (event : NetworkAlertEvent) : Bool :=
  isOpenEvent asset event && decide (event.ruleId = ruleId)

def NetworkAlertEvent.resolve (now : Int) (event : NetworkAlertEvent) : NetworkAlertEvent :=
  { event with status := "RESOLVED", resolvedAt := some now }

def resolveInactiveAlerts (asset : MonitoredAsset) (now : Int) (events : List NetworkAlertEvent) :
    List NetworkAlertEvent :=
  updateWhere (isOpenEvent asset) (NetworkAlertEvent.resolve now) events

def isInMaintenanceWindow (asset : MonitoredAsset) (now : Int)
    (windows : List NetworkMaintenanceWindow) : Bool :=
  windows.any fun window => decide (window.companyId = asset.companyId) && window.suppressAlerts &&
    decide (window.startsAt ≤ now) && decide (now ≤ window.endsAt) &&
      (decide (window.assetId = some asset.id) || window.assetId.isNone)

def alertDetails (rule : NetworkAlertRule) (snapshot : NetworkHealthSnapshot) : String :=
  "\n".intercalate (List.filter (· ≠ "")
    ["Metric: " ++ rule.metric,
      "Threshold: " ++ (rule.operator.filter (· ≠ "")).getD "GT" ++ " " ++ rule.threshold.getD "",
      "Status: " ++ snapshot.status,
      (snapshot.latencyMs.map fun ms => "Latency: " ++ P.numberText ms ++ " ms").getD "",
      (snapshot.packetLossPct.map fun pct => "Packet loss: " ++ P.numberText pct ++ "%").getD "",
      snapshot.message.getD ""])

def createNetworkAlertEvent (poll : Poll) (rule : NetworkAlertRule) : Option NetworkAlertEvent :=
  (poll.creates rule).map fun created =>
    { id := created.1
      companyId := poll.asset.companyId
      assetId := poll.asset.id
      ruleId := rule.id
      snapshotId := if poll.snapshot.id = "" then none else some poll.snapshot.id
      ticketId := created.2
      status := "ACTIVE"
      title := poll.asset.name ++ ": " ++ rule.name
      details := alertDetails P rule poll.snapshot
      triggeredAt := poll.now
      resolvedAt := none }

/-- One triggered rule after the other: the events afterwards, and those that are answered
with, unless a creation throws. -/
def openAlerts (poll : Poll) :
    List NetworkAlertRule → List NetworkAlertEvent →
      List NetworkAlertEvent × Option (List NetworkAlertEvent)
  | [], events => (events, some [])
  | rule :: rules, events =>
    match events.find? (openFor poll.asset rule.id) with
    | some existing =>
      let (events', created) := openAlerts poll rules events
      (events', created.map (existing :: ·))
    | none =>
      match createNetworkAlertEvent P poll rule with
      | none => (events, none)
      | some event =>
        let (events', created) := openAlerts poll rules (events ++ [event])
        (events', created.map (event :: ·))

def matchingRules (poll : Poll) (s : AlertDesk) : List NetworkAlertRule :=
  (listAlertRules poll.asset s.rules).filter (triggers P poll.snapshot)

/-- The events once those of a device that is online are resolved. -/
def settled (poll : Poll) (s : AlertDesk) : List NetworkAlertEvent :=
  if poll.snapshot.status = "ONLINE" then resolveInactiveAlerts poll.asset poll.now s.events
  else s.events

def evaluateAlertRules (poll : Poll) (s : AlertDesk) :
    List NetworkAlertEvent × Option (List NetworkAlertEvent) :=
  if (matchingRules P poll s).isEmpty || isInMaintenanceWindow poll.asset poll.now s.windows then
    (settled poll s, some [])
  else openAlerts P poll (matchingRules P poll s) (settled poll s)

def afterPoll (poll : Poll) (s : AlertDesk) : AlertDesk :=
  { s with events := (evaluateAlertRules P poll s).1 }

end Evaluation
end FieldserviceIT.Cmdb
