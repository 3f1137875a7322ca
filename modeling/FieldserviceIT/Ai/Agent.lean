import FieldserviceIT.Ai.AgentTools

/-!
The agent. A goal is classified by a model, whatever it answers, or by the words in
it; a plan is made of the tools that were selected and, by the words of the goal, of
the two that write. `ask` runs tools at once, `execute` runs the steps of a plan.
-/

namespace FieldserviceIT.Ai

open Common Lib Sql

structure HistoryItem where
  role : String
  content : Option String

/-- What a language model returns. Nothing is known of the list of tools in it. -/
structure ModelAnalysis where
  intent : AgentIntent
  readTools : Option (List String)

/-- The model, and the regular expressions a goal is matched with: a follow-up of the
goal before, a ticket number, an address, and what is left to search for. -/
structure Reasoning where
  analyze : String → List (List Row) → List HistoryItem → Option ModelAnalysis
  looksLikeFollowUp : String → Bool
  ticketNumberIn : String → Option String
  emailIn : String → Option String
  searchTerm : String → String

section Goals

variable (server : Server) (reasoning : Reasoning)

def cleanGoal (goal : String) : Agent String := do
  let clean := server.trim goal
  if clean.length < 4 then throw ()
  if 2000 < clean.length then throw ()
  return clean

def contextualizeGoal (goal : String) (history : List HistoryItem) : String :=
  match history.reverse.find? fun item => item.role = "user" && item.content.isSome with
  | none => goal
  | some item =>
    let previous := server.trim (item.content.getD "")
    if previous = "" then goal
    else if !reasoning.looksLikeFollowUp goal ||
        matchesAny (server.toLowerCase goal) ["ticket", "asset", "device", "network", "rmm",
          "sync", "compliance", "enroll", "mdm", "alert"] then goal
    else goal ++ "\n\nConversation context: the previous user request was \"" ++
      server.slice 300 previous ++ "\"."

def pageContext (page : String) : String :=
  if matchesAny page ["/tickets/board"] then "Current page context: ticket board."
  else if matchesAny page ["/tickets"] then "Current page context: tickets list."
  else if matchesAny page ["/assets"] then "Current page context: asset inventory."
  else if matchesAny page ["/network"] then "Current page context: network monitoring."
  else if matchesAny page ["/rmm"] then "Current page context: RMM integrations."
  else if matchesAny page ["/ai-agent"] then "Current page context: AI operations assistant."
  else ""

def enrichGoalWithPage (goal : String) (currentPage : Option String) : String :=
  if !truthy currentPage || !matchesAny (server.toLowerCase goal) ["this page", "this board",
      "this list", "current page", "current board", "here"] then goal
  else
    let context := pageContext (server.toLowerCase (currentPage.getD ""))
    if context = "" then goal else goal ++ "\n\n" ++ context

def score (value : String) (words : List String) : Nat :=
  words.countP fun word => matchesAny value [word]

def extractStatus (value : String) : Option String :=
  if matchesAny value ["in progress"] then some "IN_PROGRESS"
  else if matchesAny value ["on hold"] then some "ON_HOLD"
  else if matchesAny value ["assigned"] then some "ASSIGNED"
  else if matchesAny value ["resolved"] then some "RESOLVED"
  else if matchesAny value ["closed"] then some "CLOSED"
  else if matchesAny value ["open"] then some "OPEN"
  else none

def extractPriority (value : String) : Option String :=
  if matchesAny value ["critical"] then some "CRITICAL"
  else if matchesAny value ["high", "urgent", "asap", "priority"] then some "HIGH"
  else if matchesAny value ["medium"] then some "MEDIUM"
  else if matchesAny value ["low"] then some "LOW"
  else none

/-- The words each domain is recognised by, ties going to the one that is first here. -/
def domains : List (String × List String) :=
  [("network", ["network", "router", "switch", "firewall", "ap", "wan", "port", "syslog", "snmp",
      "latency", "packet loss", "offline", "down", "outage"]),
    ("rmm", ["rmm", "sync", "ninja", "datto", "connectwise", "integration", "provider", "atera",
      "nable", "kaseya", "syncro"]),
    ("compliance", ["compliance", "non-compliant", "stale", "security", "unmanaged", "fleet",
      "risk", "missing", "outdated"]),
    ("enrollment", ["enroll", "mdm", "token", "onboard", "provision", "join"]),
    ("ticket", ["ticket", "incident", "request", "case", "issue", "backlog", "sla", "board"]),
    ("asset", ["asset", "device", "laptop", "desktop", "phone", "serial", "inventory",
      "workstation", "endpoint"])]

def rankedDomains (normalized : String) : List (String × Nat) :=
  (domains.map fun domain => (domain.1, score normalized domain.2)).mergeSort
    fun a b => b.2 ≤ a.2

def classifyIntent (goal : String) : AgentIntent :=
  let normalized := server.toLowerCase goal
  let ranked := rankedDomains normalized
  let best : Nat := (ranked.head?.map (·.2)).getD 0
  let primary := if 0 < best then (ranked.head?.map (·.1)).getD "" else "general"
  let ticketNumber := (reasoning.ticketNumberIn goal).map server.toUpperCase
  let email := (reasoning.emailIn goal).map server.toLowerCase
  { primary := primary
    secondary := ((ranked.filter fun domain => domain.1 ≠ primary && 0 < domain.2).take 3).map (·.1)
    confidence := min 95 (max 45 (45 + best * 12))
    entities :=
      { status := extractStatus normalized
        priority := extractPriority normalized
        ticketNumber := ticketNumber
        email := email
        query := some (if truthy ticketNumber then ticketNumber.getD ""
          else if truthy email then email.getD ""
          else reasoning.searchTerm goal) } }

end Goals

section Planning

structure AgentStep where
  id : String
  title : String
  detail : String
  tool : Option String
  requiresApproval : Bool

/-- The words of the source's `Set`s, each once. -/
def readToolsForIntent (intent : AgentIntent) : List String :=
  let has (names : List String) := names.any fun name =>
    intent.primary = name || intent.secondary.contains name
  let when (condition : Bool) (toolIds : List String) := if condition then toolIds else []
  (["inspect_workspace"] ++
    when (has ["ticket", "general"]) ["search_tickets", "summarize_ticket_backlog"] ++
    when (has ["asset", "compliance", "enrollment", "general"]) ["search_assets"] ++
    when (has ["compliance", "asset", "enrollment"]) ["device_compliance_report"] ++
    when (has ["network", "general"]) ["network_health_report"] ++
    when (has ["rmm", "general"]) ["rmm_summary"] ++
    when (has ["general"]) ["device_compliance_report"]).eraseDups

def allowedReadTools (toolIds : List String) : List String :=
  toolIds.eraseDups.filter fun toolId =>
    ((tools.filter (·.risk = .read)).map (·.id)).contains toolId

def shouldCreateTicket (normalized : String) : Bool :=
  matchesAny normalized ["ticket", "incident", "request", "case", "issue"] &&
    matchesAny normalized ["create", "open", "make", "new", "log"]

def shouldCreateEnrollmentToken (normalized : String) (intent : AgentIntent) : Bool :=
  intent.primary = "enrollment" || matchesAny normalized ["enroll", "mdm", "token"] &&
    matchesAny normalized ["create", "generate", "new"]

/-- The step of a selected tool; the workspace is inspected anyway. -/
def stepOf (toolId : String) : Option AgentStep :=
  if toolId = "inspect_workspace" then none
  else (tools.find? (·.id = toolId)).map fun tool =>
    ⟨toolId, tool.name, tool.description, some tool.id, false⟩

/-- `selectedReadTools || this.readToolsForIntent(intent)` -/
def selectedTools (selected : Option (List String)) (intent : AgentIntent) : List String :=
  allowedReadTools (selected.getD (readToolsForIntent intent))

def buildPlan (server : Server) (goal : String) (intent : AgentIntent)
    (selectedReadTools : Option (List String)) : List AgentStep :=
  let normalized := server.toLowerCase goal
  [⟨"understand", "Classify request", "Intent: " ++ intent.primary ++ " (" ++
        toString intent.confidence ++ "% confidence). Extracted status, priority, ticket number, email, and search terms where present.",
      none, false⟩,
    ⟨"inspect", "Inspect current workspace", "Read current ticket, asset, network, RMM, and device-management state before acting.",
      some "inspect_workspace", false⟩] ++
  (selectedTools selectedReadTools intent).filterMap stepOf ++
  (if shouldCreateTicket normalized then
    [⟨"create-ticket", "Create a service ticket", "Open a ticket so the work is trackable by the service team.",
      some "create_ticket", true⟩] else []) ++
  (if shouldCreateEnrollmentToken normalized intent then
    [⟨"mdm-token", "Prepare device enrollment", "Generate an MDM enrollment token that can be given to a device agent.",
      some "create_mdm_enrollment_token", true⟩] else []) ++
  [⟨"report", "Report outcome", "Return findings, skipped actions, approvals needed, and recommended next moves.",
    none, false⟩]

end Planning

section Calls

variable (server : Server) (reasoning : Reasoning)

structure Planned where
  goal : String
  intent : AgentIntent
  snapshot : List (List Row)
  steps : List AgentStep
  requiredApprovals : List String

/-- What `plan` and `ask` start with: the goal, the workspace, and what the model or the
words of the goal make of them. -/
def analyzeGoal (goal : String) (user : AgentUser) (history : List HistoryItem)
    (currentPage : Option String) :
    Agent (String × List (List Row) × AgentIntent × Option (List String)) := do
  let clean ← cleanGoal server goal
  let contextual := contextualizeGoal server reasoning (enrichGoalWithPage server clean currentPage)
    history
  let snapshot ← workspaceSnapshot server user
  match reasoning.analyze contextual snapshot history with
  | some analysis => return (contextual, snapshot, analysis.intent, analysis.readTools)
  | none => return (contextual, snapshot, classifyIntent server reasoning contextual, none)

def plan (goal : String) (user : AgentUser) (history : List HistoryItem)
    (currentPage : Option String) : Agent Planned := do
  let (goal, snapshot, intent, readTools) ← analyzeGoal server reasoning goal user history currentPage
  let steps := buildPlan server goal intent readTools
  return { goal := goal, intent := intent, snapshot := snapshot, steps := steps
           requiredApprovals := ((steps.filter (·.requiresApproval)).filterMap (·.tool)).eraseDups }

def runTools (user : AgentUser) (intent : AgentIntent) (goal : String) :
    List String → Agent (List ToolResult)
  | [] => pure []
  | toolId :: toolIds => do
      let result ← runTool server user intent toolId goal
      let results ← runTools user intent goal toolIds
      return result :: results

/-- `AiAgentService.ask`; the texts of the answer are put together from the results. -/
def ask (question : String) (user : AgentUser) (history : List HistoryItem)
    (currentPage : Option String) : Agent (List ToolResult) := do
  let (question, _, intent, readTools) ←
    analyzeGoal server reasoning question user history currentPage
  runTools server user intent question (selectedTools readTools intent)

/-- The steps of a plan. A step without a tool, or with one that is not known, is passed
over, and a tool that writes is run only if it was approved. -/
def runSteps (user : AgentUser) (planned : Planned) (approvedActions : List String) :
    List AgentStep → Agent (List ToolResult)
  | [] => pure []
  | step :: steps => do
      match step.tool.bind fun toolId =>
          if toolId = "" then none else tools.find? (·.id = toolId) with
      | none => runSteps user planned approvedActions steps
      | some tool =>
        if tool.risk = .write && !approvedActions.contains tool.id then
          let results ← runSteps user planned approvedActions steps
          return .skipped tool.id "Approval required before this action can run." :: results
        else
          let result ← runTool server user planned.intent tool.id planned.goal
          let results ← runSteps user planned approvedActions steps
          return result :: results

/-- `AiAgentService.execute` -/
def execute (goal : String) (user : AgentUser) (approvedActions : List String)
    (history : List HistoryItem) (currentPage : Option String) : Agent (List ToolResult) := do
  let planned ← plan server reasoning goal user history currentPage
  runSteps server user planned approvedActions planned.steps

end Calls
end FieldserviceIT.Ai
