import FieldserviceIT.Ai.AgentWorld

/-!
The tools of the agent: seven that read the workspace of the user, one that opens a
ticket and one that makes a device enrollment token.
-/

namespace FieldserviceIT.Ai

open Common Lib Sql

inductive Risk where
  | read
  | write
  deriving DecidableEq

structure AgentTool where
  id : String
  name : String
  description : String
  risk : Risk
  deriving DecidableEq

def tools : List AgentTool :=
  [⟨"inspect_workspace", "Inspect workspace", "Summarize tickets, assets, network, RMM, and device compliance for the active scope.", .read⟩,
    ⟨"search_tickets", "Search tickets", "Find relevant tickets by number, title, description, contact email, status, and priority.", .read⟩,
    ⟨"summarize_ticket_backlog", "Summarize ticket backlog", "Break down ticket load by status and priority, including the oldest unresolved tickets.", .read⟩,
    ⟨"search_assets", "Search assets", "Find devices/assets by name, serial, IP, MAC, model, manufacturer, or location.", .read⟩,
    ⟨"device_compliance_report", "Device compliance report", "Report enrolled, unmanaged, stale, and non-compliant device counts.", .read⟩,
    ⟨"network_health_report", "Network health report", "Summarize monitored network devices, active alerts, recent snapshots, and syslog volume.", .read⟩,
    ⟨"rmm_summary", "RMM summary", "Summarize configured RMM providers and recent sync health.", .read⟩,
    ⟨"create_ticket", "Create ticket", "Create a service ticket from the requested goal.", .write⟩,
    ⟨"create_mdm_enrollment_token", "Create MDM enrollment token", "Generate a one-day device enrollment token.", .write⟩]

structure Entities where
  status : Option String
  priority : Option String
  ticketNumber : Option String
  email : Option String
  query : Option String

structure AgentIntent where
  primary : String
  secondary : List String
  confidence : Int
  entities : Entities

/-- `data` is what the queries of the tool have found, or what it has made. -/
inductive Evidence where
  | none
  | rows (found : List (List Row))
  | made (id text : String)

structure ToolResult where
  tool : String
  status : String
  message : Option String
  data : Evidence

def ToolResult.skipped (tool message : String) : ToolResult :=
  ⟨tool, "skipped", some message, .none⟩

def ToolResult.completed (tool : String) (data : Evidence) : ToolResult :=
  ⟨tool, "completed", none, data⟩

section Reading

variable (server : Server) (user : AgentUser) (intent : AgentIntent)

/-- `ticketScopeSql`, with the values it adds. -/
def ticketScopeSql (column : String) : String × List Scalar :=
  if user.role = .superAdmin && !truthy user.companyId then ("1=1", [])
  else if user.userType = .publicUser then (column ++ ".createdById = ?", [.text user.id])
  else if truthy user.companyId then
    (column ++ ".companyId = ?", [.text (user.companyId.getD "")])
  else ("1=0", [])

/-- `companyScopeSql` -/
def companyScopeSql (column : String) : String × List Scalar :=
  if user.role = .superAdmin && !truthy user.companyId then ("1=1", [])
  else if truthy user.companyId then
    (column ++ ".companyId = ?", [.text (user.companyId.getD "")])
  else ("1=0", [])

def queryAll (queries : List (String × List Scalar)) : Agent (List (List Row)) :=
  match queries with
  | [] => pure []
  | (sql, values) :: queries => do
      let rows ← query server sql values
      let rest ← queryAll queries
      return rows :: rest

def queryOrNone (sql : String) (values : List Scalar) : Agent (List Row) :=
  tryCatch (query server sql values) fun _ => pure []

def workspaceSnapshot : Agent (List (List Row)) := do
  let (ticketScope, ticketValues) := ticketScopeSql user "t"
  let (assetScope, assetValues) := companyScopeSql user "a"
  let (rmmScope, rmmValues) := companyScopeSql user "r"
  let (networkScope, networkValues) := companyScopeSql user "e"
  let counts ← queryAll server
    [("SELECT COUNT(*) as count FROM Ticket t WHERE t.deletedAt IS NULL AND " ++ ticketScope,
        ticketValues),
      ("SELECT COUNT(*) as count FROM Ticket t WHERE t.deletedAt IS NULL AND t.status = 'OPEN' AND "
        ++ ticketScope, ticketValues),
      ("SELECT COUNT(*) as count FROM Asset a WHERE a.deletedAt IS NULL AND " ++ assetScope,
        assetValues),
      ("SELECT COUNT(*) as count FROM Asset a WHERE a.deletedAt IS NULL AND a.enrollmentStatus = 'ENROLLED' AND "
        ++ assetScope, assetValues)]
  let alerts ← queryOrNone server
    ("SELECT COUNT(*) as count FROM NetworkAlertEvent e WHERE e.status = 'ACTIVE' AND "
      ++ networkScope) networkValues
  let providers ← queryOrNone server
    ("SELECT COUNT(*) as count FROM RmmProviderConfig r WHERE r.isActive = 1 AND " ++ rmmScope)
    rmmValues
  return counts ++ [alerts, providers]

def inspectWorkspace : Agent ToolResult := do
  let snapshot ← workspaceSnapshot server user
  return .completed "inspect_workspace" (.rows snapshot)

/-- A clause for each of the columns, where there is something to look for. -/
def searchClause (columns : List String) : List String × List Scalar :=
  match intent.entities.query with
  | some text =>
    if 1 < text.length then
      (["(" ++ String.intercalate " OR " (columns.map (· ++ " LIKE ?")) ++ ")"],
        columns.map fun _ => .text ("%" ++ text ++ "%"))
    else ([], [])
  | none => ([], [])

/-- `column = ?` where the entity is there. -/
def entityClause (column : String) (entity : Option String) : List String × List Scalar :=
  if truthy entity then ([column ++ " = ?"], [.text (entity.getD "")]) else ([], [])

def searchTickets : Agent ToolResult := do
  let (scope, values) := ticketScopeSql user "t"
  let (statusClauses, statusValues) := entityClause "t.status" intent.entities.status
  let (priorityClauses, priorityValues) := entityClause "t.priority" intent.entities.priority
  let (searchClauses, searchValues) :=
    searchClause intent ["t.title", "t.ticketNumber", "t.description", "t.contactEmail"]
  let clauses := ["t.deletedAt IS NULL", scope] ++ statusClauses ++ priorityClauses ++ searchClauses
  let rows ← query server
    ("SELECT t.id, t.ticketNumber, t.title, t.status, t.priority, t.category, t.contactEmail, t.createdAt FROM Ticket t WHERE "
      ++ String.intercalate " AND " clauses ++ " ORDER BY t.createdAt DESC LIMIT 10")
    (values ++ statusValues ++ priorityValues ++ searchValues)
  return .completed "search_tickets" (.rows [rows])

def summarizeTicketBacklog : Agent ToolResult := do
  let (scope, values) := ticketScopeSql user "t"
  let rows ← queryAll server
    [("SELECT t.status, COUNT(*) as count FROM Ticket t WHERE t.deletedAt IS NULL AND "
        ++ scope ++ " GROUP BY t.status", values),
      ("SELECT t.priority, COUNT(*) as count FROM Ticket t WHERE t.deletedAt IS NULL AND "
        ++ scope ++ " GROUP BY t.priority", values),
      ("SELECT t.id, t.ticketNumber, t.title, t.status, t.priority, t.createdAt FROM Ticket t WHERE t.deletedAt IS NULL AND t.status NOT IN ('RESOLVED', 'CLOSED') AND "
        ++ scope ++ " ORDER BY t.createdAt ASC LIMIT 5", values)]
  return .completed "summarize_ticket_backlog" (.rows rows)

def searchAssets : Agent ToolResult := do
  let (scope, values) := companyScopeSql user "a"
  if scope = "1=0" then
    return .skipped "search_assets" "A company context is required to search assets."
  let (searchClauses, searchValues) := searchClause intent
    ["a.name", "a.serialNumber", "a.ipAddress", "a.macAddress", "a.model", "a.manufacturer",
      "a.location"]
  let clauses := ["a.deletedAt IS NULL", scope] ++ searchClauses
  let rows ← query server
    ("SELECT a.id, a.name, a.assetType, a.serialNumber, a.manufacturer, a.model, a.ipAddress, a.location, a.status, a.enrollmentStatus, a.complianceStatus, a.lastCheckInAt FROM Asset a WHERE "
      ++ String.intercalate " AND " clauses ++ " ORDER BY a.updatedAt DESC LIMIT 10")
    (values ++ searchValues)
  return .completed "search_assets" (.rows [rows])

def deviceComplianceReport : Agent ToolResult := do
  let (scope, values) := companyScopeSql user "a"
  if scope = "1=0" then
    return .skipped "device_compliance_report" "A company context is required."
  let count := "SELECT COUNT(*) as count FROM Asset a WHERE a.deletedAt IS NULL AND " ++ scope
  let rows ← queryAll server
    [(count, values), (count ++ " AND a.enrollmentStatus = 'ENROLLED'", values),
      (count ++ " AND a.complianceStatus = 'NON_COMPLIANT'", values),
      (count ++ " AND a.enrollmentStatus = 'STALE'", values),
      (count ++ " AND a.enrollmentStatus = 'UNMANAGED'", values)]
  return .completed "device_compliance_report" (.rows rows)

def whereAvailable (tool message : String) (queries : List (String × List Scalar)) :
    Agent ToolResult :=
  tryCatch
    (do
      let rows ← queryAll server queries
      return .completed tool (.rows rows))
    fun _ => pure (.skipped tool message)

def networkHealthReport : Agent ToolResult := do
  let (deviceScope, deviceValues) := companyScopeSql user "a"
  let (alertScope, alertValues) := companyScopeSql user "e"
  let (snapshotScope, snapshotValues) := companyScopeSql user "s"
  let (syslogScope, syslogValues) := companyScopeSql user "l"
  if deviceScope = "1=0" then
    return .skipped "network_health_report" "A company context is required."
  whereAvailable server "network_health_report" "Network monitoring tables are not available yet."
    [("SELECT COUNT(*) as count FROM Asset a WHERE a.deletedAt IS NULL AND a.deviceCategory = 'NETWORK_DEVICE' AND "
        ++ deviceScope, deviceValues),
      ("SELECT COUNT(*) as count FROM NetworkAlertEvent e WHERE e.status = 'ACTIVE' AND "
        ++ alertScope, alertValues),
      ("SELECT s.status, s.latencyMs, s.packetLossPct, s.cpuPct, s.memoryPct, s.source, s.createdAt FROM NetworkHealthSnapshot s WHERE "
        ++ snapshotScope ++ " ORDER BY s.createdAt DESC LIMIT 5", snapshotValues),
      ("SELECT COUNT(*) as count FROM NetworkSyslogEvent l WHERE l.receivedAt >= DATE_SUB(NOW(), INTERVAL 24 HOUR) AND "
        ++ syslogScope, syslogValues)]

def rmmSummary : Agent ToolResult := do
  let (configScope, configValues) := companyScopeSql user "r"
  let (syncScope, syncValues) := companyScopeSql user "s"
  if configScope = "1=0" then
    return .skipped "rmm_summary" "A company context is required."
  whereAvailable server "rmm_summary" "RMM tables are not available yet."
    [("SELECT r.id, r.provider, r.isActive, r.lastSyncAt, r.lastSyncStatus, r.lastTestStatus, r.lastTestAt FROM RmmProviderConfig r WHERE "
        ++ configScope ++ " ORDER BY r.updatedAt DESC LIMIT 10", configValues),
      ("SELECT s.provider, s.status, s.startedAt, s.completedAt, s.assetsCreated, s.assetsUpdated, s.assetsSkipped, s.errorMessage FROM RmmSyncRun s WHERE "
        ++ syncScope ++ " ORDER BY s.startedAt DESC LIMIT 10", syncValues)]

end Reading

section Writing

variable (server : Server) (user : AgentUser) (intent : AgentIntent)

/-- `next.toString().padStart(5, '0')` -/
def padded (next : Nat) : String :=
  let digits := toString next
  "".pushn '0' (5 - digits.length) ++ digits

/-- `nextTicketNumber`: the next free number, looking at `attempts` of them. -/
def nextTicketNumber (start : String) (next : Nat) : Nat → Agent String
  | 0 => do
      let world ← get
      return start ++ "-" ++ server.toUpperCase (server.base36 (server.now world.clock))
  | attempts + 1 => do
      let ticketNumber := start ++ "-" ++ padded next
      if ← ticketNumberTaken server ticketNumber then nextTicketNumber start (next + 1) attempts
      else return ticketNumber

/-- `ticket.create`, which reads the row back. -/
def createTicketRow (row : TicketRow) : Agent TicketRow := do
  insertTicket server row
  match ← findTicket server row.id with
  | some created => return created
  | none => throw ()

/-- `COUNT(*)` as it comes back. -/
def countOf (rows : List Row) : Nat :=
  match rows with
  | row :: _ =>
    match row "count" with
    | some (.number n) => n.toNat
    | _ => 0
  | [] => 0

def goalTitle (goal : String) : String :=
  let title := server.trim (server.collapse goal)
  if 90 < title.length then server.slice 87 title ++ "..." else title

def createTicket (goal : String) : Agent ToolResult := do
  if !truthy user.companyId then
    return .skipped "create_ticket" "A company context is required to create tickets."
  let companyId := user.companyId.getD ""
  let counted ← query server "SELECT COUNT(*) as count FROM Ticket WHERE companyId = ?"
    [.text companyId]
  let ticketNumber ← nextTicketNumber server
    ("TKT-" ++ server.toUpperCase (server.slice 4 companyId)) (countOf counted + 1) 100
  let id ← newId server
  let name := server.trim (user.firstName.getD "" ++ " " ++ user.lastName.getD "")
  let ticket ← createTicketRow server
    { id := id
      ticketNumber := ticketNumber
      title := goalTitle server goal
      description := "Created by AI Agent from goal:\n" ++ goal ++ "\n\nDetected intent: " ++
        intent.primary
      contactName := if name = "" then user.email else name
      contactEmail := user.email
      contactPhone := if truthy user.phone then user.phone.getD "" else "N/A"
      category := "AI Agent"
      subcategory := intent.primary
      status := "OPEN"
      priority := if truthy intent.entities.priority then intent.entities.priority.getD ""
        else "MEDIUM"
      type := "REQUEST"
      companyId := user.companyId
      createdById := user.id }
  notify server ticket.id "Ticket opened by AI Agent" user.id
  return .completed "create_ticket" (.made ticket.id ticketNumber)

def createMdmEnrollmentToken : Agent ToolResult := do
  if !truthy user.companyId then
    return .skipped "create_mdm_enrollment_token" "A company context is required to create MDM tokens."
  let world ← get
  let id := "mdm-token-" ++ server.uuid world.clock
  let token := "mdm_" ++ server.hex world.clock
  let now := server.now world.clock
  insertToken server
    { id := id
      companyId := user.companyId
      token := token
      deviceCategory := "LAPTOP"
      ownership := "COMPANY"
      policyProfile := "Baseline"
      expiresAt := now + 24 * 60 * 60 * 1000
      createdAt := now }
  return .completed "create_mdm_enrollment_token" (.made id token)

/-- `runTool` -/
def runTool (toolId goal : String) : Agent ToolResult := do
  modify fun world => { world with executed := world.executed ++ [toolId] }
  if toolId = "inspect_workspace" then inspectWorkspace server user
  else if toolId = "search_tickets" then searchTickets server user intent
  else if toolId = "summarize_ticket_backlog" then summarizeTicketBacklog server user
  else if toolId = "search_assets" then searchAssets server user intent
  else if toolId = "create_ticket" then createTicket server user intent goal
  else if toolId = "create_mdm_enrollment_token" then createMdmEnrollmentToken server user
  else if toolId = "device_compliance_report" then deviceComplianceReport server user
  else if toolId = "network_health_report" then networkHealthReport server user
  else if toolId = "rmm_summary" then rmmSummary server user
  else return ⟨toolId, "unknown", none, .none⟩

end Writing
end FieldserviceIT.Ai
