import FieldserviceIT.Ai.Agent

/-!
What a call of the agent may do to the tables and which tools it may run, whatever the
model answers. A tool is run by `runTool` only, and only the two tools that write
reach a statement that does.
-/

namespace FieldserviceIT.Ai

open Common Lib Lib.Stateful Notifications Sql

section Relations

/-- Rows were added at the end, all of them with `p`. -/
def Appended {α : Type} (p : α → Prop) (xs ys : List α) : Prop :=
  ∃ rows, ys = xs ++ rows ∧ ∀ row ∈ rows, p row

variable {α : Type} {p q : α → Prop} {xs ys zs : List α}

theorem Appended.refl (xs : List α) : Appended p xs xs :=
  ⟨[], (List.append_nil xs).symm, fun _ h => nomatch h⟩

theorem Appended.trans (h : Appended p xs ys) (h' : Appended p ys zs) : Appended p xs zs := by
  obtain ⟨first, rfl, hfirst⟩ := h
  obtain ⟨second, rfl, hsecond⟩ := h'
  refine ⟨first ++ second, List.append_assoc _ _ _, fun row hrow => ?_⟩
  exact (List.mem_append.mp hrow).elim (hfirst row) (hsecond row)

theorem Appended.single (p : α → Prop) {row : α} (h : p row) (xs : List α) :
    Appended p xs (xs ++ [row]) :=
  ⟨[row], rfl, fun _ hmem => List.mem_singleton.mp hmem ▸ h⟩

/-- Rows of the user's company were added, and preferences, which belong to no company. -/
structure Inserts (user : AgentUser) (s t : Store) : Prop where
  tickets : Appended (fun row => row.companyId = user.companyId) s.tickets t.tickets
  tokens : Appended (fun row => row.companyId = user.companyId) s.tokens t.tokens
  deliveries : Appended (fun row => row.companyId = user.companyId) s.deliveries t.deliveries
  preferences : Appended (fun _ => True) s.preferences t.preferences
  users : t.users = s.users
  suppressions : t.suppressions = s.suppressions

variable {user : AgentUser}

theorem Inserts.refl (s : Store) : Inserts user s s :=
  ⟨.refl _, .refl _, .refl _, .refl _, rfl, rfl⟩

theorem Inserts.trans {s t u : Store} (h : Inserts user s t) (h' : Inserts user t u) :
    Inserts user s u where
  tickets := h.tickets.trans h'.tickets
  tokens := h.tokens.trans h'.tokens
  deliveries := h.deliveries.trans h'.deliveries
  preferences := h.preferences.trans h'.preferences
  users := h'.users.trans h.users
  suppressions := h'.suppressions.trans h.suppressions

def Quiet (v w : World) : Prop :=
  w.store = v.store ∧ w.executed = v.executed

theorem quiet_steps : Steps Quiet where
  refl _ := ⟨rfl, rfl⟩
  trans h h' := ⟨h'.1.trans h.1, h'.2.trans h.2⟩

/-- Tools that are allowed were run, and rows were added, none without a company. -/
structure Acts (user : AgentUser) (allowed : String → Prop) (v w : World) : Prop where
  executed : Appended allowed v.executed w.executed
  inserts : Inserts user v.store w.store
  unchanged : truthy user.companyId = false → w.store = v.store

theorem acts_steps (user : AgentUser) (allowed : String → Prop) : Steps (Acts user allowed) where
  refl _ := ⟨.refl _, .refl _, fun _ => rfl⟩
  trans h h' := ⟨h.executed.trans h'.executed, h.inserts.trans h'.inserts,
    fun hnone => (h'.unchanged hnone).trans (h.unchanged hnone)⟩

variable {allowed : String → Prop}

theorem Quiet.acts {v w : World} (h : Quiet v w) : Acts user allowed v w := by
  obtain ⟨hstore, hexecuted⟩ := h
  refine ⟨?_, ?_, fun _ => hstore⟩
  · rw [hexecuted]
    exact .refl _
  · rw [hstore]
    exact .refl _

theorem acts_of_quiet {α : Type} {m : Agent α} (hm : Moves Quiet m) :
    Moves (Acts user allowed) m :=
  hm.mono fun _ _ => Quiet.acts

end Relations

section Quietly

variable (server : Server) (user : AgentUser) (intent : AgentIntent)

theorem quiet_statement : Moves Quiet (statement server) := by
  refine moves_bind quiet_steps (moves_get quiet_steps) fun world => ?_
  refine moves_bind quiet_steps (moves_modify fun _ => ⟨rfl, rfl⟩) fun _ => ?_
  exact moves_ite (fun _ => moves_throw quiet_steps ()) fun _ => moves_pure quiet_steps ()

theorem quiet_read {α : Type} (answer : World → α) :
    Moves Quiet (do statement server; let world ← get; return answer world : Agent α) := by
  refine moves_bind quiet_steps (quiet_statement server) fun _ => ?_
  exact moves_bind quiet_steps (moves_get quiet_steps) fun world => moves_pure quiet_steps _

theorem quiet_query (sql : String) (values : List Scalar) :
    Moves Quiet (query server sql values) :=
  quiet_read server _

theorem quiet_ticketNumberTaken (ticketNumber : String) :
    Moves Quiet (ticketNumberTaken server ticketNumber) :=
  quiet_read server _

theorem quiet_findUser (check : UserRow → Bool) : Moves Quiet (findUser server check) :=
  quiet_read server _

theorem quiet_findPreference (userId : String) : Moves Quiet (findPreference server userId) :=
  quiet_read server _

theorem quiet_findSuppression (recipientEmail : String) :
    Moves Quiet (findSuppression server recipientEmail) :=
  quiet_read server _

theorem quiet_newId : Moves Quiet (newId server) :=
  moves_bind quiet_steps (moves_get quiet_steps) fun _ => moves_pure quiet_steps _

theorem quiet_queryAll (queries : List (String × List Scalar)) :
    Moves Quiet (queryAll server queries) := by
  induction queries with
  | nil => exact moves_pure quiet_steps _
  | cons head queries ih =>
    refine moves_bind quiet_steps (quiet_query server _ _) fun _ => ?_
    exact moves_bind quiet_steps ih fun _ => moves_pure quiet_steps _

theorem quiet_queryOrNone (sql : String) (values : List Scalar) :
    Moves Quiet (queryOrNone server sql values) :=
  moves_tryCatch quiet_steps (quiet_query server sql values) fun _ => moves_pure quiet_steps _

theorem quiet_workspaceSnapshot : Moves Quiet (workspaceSnapshot server user) := by
  refine moves_bind quiet_steps (quiet_queryAll server _) fun _ => ?_
  refine moves_bind quiet_steps (quiet_queryOrNone server _ _) fun _ => ?_
  exact moves_bind quiet_steps (quiet_queryOrNone server _ _) fun _ => moves_pure quiet_steps _

theorem quiet_inspectWorkspace : Moves Quiet (inspectWorkspace server user) :=
  moves_bind quiet_steps (quiet_workspaceSnapshot server user) fun _ => moves_pure quiet_steps _

theorem quiet_searchTickets : Moves Quiet (searchTickets server user intent) :=
  moves_bind quiet_steps (quiet_query server _ _) fun _ => moves_pure quiet_steps _

theorem quiet_summarizeTicketBacklog : Moves Quiet (summarizeTicketBacklog server user) :=
  moves_bind quiet_steps (quiet_queryAll server _) fun _ => moves_pure quiet_steps _

theorem quiet_searchAssets : Moves Quiet (searchAssets server user intent) :=
  moves_ite (fun _ => moves_pure quiet_steps _) fun _ =>
    moves_bind quiet_steps (quiet_query server _ _) fun _ => moves_pure quiet_steps _

theorem quiet_deviceComplianceReport : Moves Quiet (deviceComplianceReport server user) :=
  moves_ite (fun _ => moves_pure quiet_steps _) fun _ =>
    moves_bind quiet_steps (quiet_queryAll server _) fun _ => moves_pure quiet_steps _

theorem quiet_whereAvailable (tool message : String) (queries : List (String × List Scalar)) :
    Moves Quiet (whereAvailable server tool message queries) :=
  moves_tryCatch quiet_steps
    (moves_bind quiet_steps (quiet_queryAll server queries) fun _ => moves_pure quiet_steps _)
    fun _ => moves_pure quiet_steps _

theorem quiet_networkHealthReport : Moves Quiet (networkHealthReport server user) :=
  moves_ite (fun _ => moves_pure quiet_steps _) fun _ => quiet_whereAvailable server _ _ _

theorem quiet_rmmSummary : Moves Quiet (rmmSummary server user) :=
  moves_ite (fun _ => moves_pure quiet_steps _) fun _ => quiet_whereAvailable server _ _ _

theorem quiet_recipientUserId (recipient : Recipient) :
    Moves Quiet (recipientUserId server recipient) :=
  moves_ite (fun _ => moves_pure quiet_steps _) fun _ =>
    moves_bind quiet_steps (quiet_findUser server _) fun _ => moves_pure quiet_steps _

theorem quiet_prepareTicketEmail (companyId : Option String) (eventType : String) :
    Moves Quiet (prepareTicketEmail server companyId eventType) := by
  refine moves_ite (fun _ => ?_) fun _ => moves_pure quiet_steps _
  refine moves_bind quiet_steps (quiet_query server _ _) fun _ => ?_
  exact moves_bind quiet_steps (quiet_query server _ _) fun _ => moves_pure quiet_steps _

end Quietly

section Writing

variable (server : Server) {user : AgentUser} {allowed : String → Prop}

theorem acts_insert {taken : World → Bool} {add : World → World}
    (hadd : ∀ world, Acts user allowed world (add world)) :
    Moves (Acts user allowed) (do
      statement server
      let world ← get
      if taken world then throw ()
      modify add : Agent Unit) := by
  have hsteps := acts_steps user allowed
  refine moves_bind hsteps (acts_of_quiet (quiet_statement server)) fun _ => ?_
  refine moves_bind hsteps (moves_get hsteps) fun world => ?_
  exact moves_ite (fun _ => moves_bind hsteps (moves_throw hsteps ()) fun _ => moves_modify hadd)
    fun _ => moves_modify hadd

theorem acts_insertDelivery (row : DeliveryRow) (hcompany : truthy user.companyId = true)
    (hrow : row.companyId = user.companyId) :
    Moves (Acts user allowed) (insertDelivery server row) := by
  refine acts_insert server fun world => ⟨.refl _, ?_, fun hnone => ?_⟩
  · have hadded := Appended.single (fun other : DeliveryRow => other.companyId = user.companyId)
      hrow world.store.deliveries
    exact ⟨.refl _, .refl _, hadded, .refl _, rfl, rfl⟩
  · exact absurd (hcompany.symm.trans hnone) (by decide)

theorem acts_insertToken (row : MdmTokenRow) (hcompany : truthy user.companyId = true)
    (hrow : row.companyId = user.companyId) :
    Moves (Acts user allowed) (insertToken server row) := by
  refine acts_insert server fun world => ⟨.refl _, ?_, fun hnone => ?_⟩
  · have hadded := Appended.single (fun other : MdmTokenRow => other.companyId = user.companyId)
      hrow world.store.tokens
    exact ⟨.refl _, hadded, .refl _, .refl _, rfl, rfl⟩
  · exact absurd (hcompany.symm.trans hnone) (by decide)

theorem acts_insertPreference (row : PreferenceRow) (hcompany : truthy user.companyId = true) :
    Moves (Acts user allowed) (insertPreference server row) := by
  have hsteps := acts_steps user allowed
  refine moves_bind hsteps (acts_of_quiet (quiet_statement server)) fun _ => ?_
  refine moves_bind hsteps (moves_get hsteps) fun world => ?_
  refine moves_ite (fun _ => moves_pure hsteps ()) fun _ => moves_modify fun world => ?_
  refine ⟨.refl _, ?_, fun hnone => ?_⟩
  · exact ⟨.refl _, .refl _, .refl _, .single (fun _ => True) trivial _, rfl, rfl⟩
  · exact absurd (hcompany.symm.trans hnone) (by decide)

theorem triple_insertTicket (row : TicketRow) (hcompany : truthy user.companyId = true)
    (hrow : row.companyId = user.companyId) :
    Triple (Acts user allowed) (fun _ => True) (insertTicket server row) fun _ world =>
      (world.store.tickets.find? fun other => server.same other.id row.id) = some row := by
  have hsteps := acts_steps user allowed
  refine triple_bind hsteps (acts_of_quiet (quiet_statement server)).triple
    fun _ => ?_
  refine triple_bind hsteps (triple_get hsteps) fun world => ?_
  split
  · exact triple_bind hsteps (triple_throw hsteps () (Q := fun _ _ => False)) fun _ _ h => h.elim
  next hfree =>
    refine triple_modify (fun w _ => ⟨.refl _, ?_, fun hnone => ?_⟩) fun w hw => ?_
    · have hadded := Appended.single (fun other : TicketRow => other.companyId = user.companyId)
        hrow w.store.tickets
      exact ⟨hadded, .refl _, .refl _, .refl _, rfl, rfl⟩
    · exact absurd (hcompany.symm.trans hnone) (by decide)
    · obtain ⟨rfl, -⟩ := hw
      have hnew : (world.store.tickets.find? fun other => server.same other.id row.id) = none := by
        rw [List.find?_eq_none]
        intro other hother hsame
        refine hfree (List.any_eq_true.mpr ⟨other, hother, ?_⟩)
        rw [hsame]
        rfl
      rw [List.find?_append, hnew]
      simp [server.same_refl]

theorem triple_quiet {α : Type} {m : Agent α} (hm : Moves Quiet m) {p : Store → Prop} :
    Triple (Acts user allowed) (fun world => p world.store) m fun _ world => p world.store := by
  intro world hworld
  have hquiet := hm world
  refine ⟨hquiet.acts, fun _ _ => ?_⟩
  change p (exec m world).2.store
  rw [hquiet.1]
  exact hworld

theorem triple_findTicket (id : String) (row : TicketRow) :
    Triple (Acts user allowed)
      (fun world => (world.store.tickets.find? fun other => server.same other.id id) = some row)
      (findTicket server id) fun found world => found = some row ∧
        (world.store.tickets.find? fun other => server.same other.id id) = some row := by
  have hsteps := acts_steps user allowed
  refine triple_bind hsteps (triple_quiet (quiet_statement server)
    (p := fun store => (store.tickets.find? fun other => server.same other.id id) = some row))
    fun _ => ?_
  refine triple_bind hsteps (triple_get hsteps) fun world => ?_
  refine triple_pure hsteps _ fun w hw => ?_
  obtain ⟨rfl, hfound⟩ := hw
  exact ⟨hfound, hfound⟩

theorem acts_ensurePreferences (userId : String) (hcompany : truthy user.companyId = true) :
    Moves (Acts user allowed) (ensurePreferences server userId) := by
  have hsteps := acts_steps user allowed
  refine moves_bind hsteps (acts_of_quiet (quiet_findPreference server userId))
    fun found => ?_
  cases found with
  | some row => exact moves_pure hsteps _
  | none =>
    refine moves_bind hsteps (acts_of_quiet (quiet_newId server)) fun id => ?_
    refine moves_bind hsteps (acts_insertPreference server _ hcompany) fun _ => ?_
    exact acts_of_quiet (quiet_findPreference server userId)

theorem acts_preferencesOf (userId : Option String) (hcompany : truthy user.companyId = true) :
    Moves (Acts user allowed) (preferencesOf server userId) :=
  moves_ite (fun _ => acts_ensurePreferences server _ hcompany) fun _ =>
    moves_pure (acts_steps user allowed) none

theorem acts_enqueue (input : DeliveryInput) (hcompany : truthy user.companyId = true)
    (hinput : input.companyId = user.companyId) :
    Moves (Acts user allowed) (enqueue server input) := by
  have hsteps := acts_steps user allowed
  have hrow : orElse input.companyId none = user.companyId := by
    rw [hinput, orElse, if_pos hcompany]
  refine moves_ite (fun _ => moves_bind hsteps (moves_throw hsteps ()) fun _ => ?_) fun _ => ?_
  all_goals
    refine moves_bind hsteps (acts_of_quiet (quiet_findSuppression server _)) fun suppression => ?_
    refine moves_bind hsteps (acts_preferencesOf server _ hcompany) fun preferences => ?_
    refine moves_bind hsteps (acts_of_quiet (quiet_newId server)) fun id => ?_
    exact acts_insertDelivery server _ hcompany hrow

theorem acts_queueRecipient {ticket : TicketRow} (hcompany : truthy user.companyId = true)
    (hticket : ticket.companyId = user.companyId) (eventCategory : String) (recipient : Recipient) :
    Moves (Acts user allowed) (queueRecipient server ticket eventCategory recipient) := by
  have hsteps := acts_steps user allowed
  refine moves_bind hsteps (acts_of_quiet (quiet_recipientUserId server recipient)) fun userId => ?_
  refine moves_bind hsteps (acts_of_quiet (quiet_prepareTicketEmail server _ _)) fun _ => ?_
  exact acts_enqueue server _ hcompany hticket

theorem acts_queueAll {ticket : TicketRow} (hcompany : truthy user.companyId = true)
    (hticket : ticket.companyId = user.companyId) (eventCategory : String)
    (recipients : List Recipient) :
    Moves (Acts user allowed) (queueAll server ticket eventCategory recipients) := by
  have hsteps := acts_steps user allowed
  induction recipients with
  | nil => exact moves_pure hsteps ()
  | cons recipient recipients ih =>
    refine moves_bind hsteps ?_ fun _ => ih
    exact moves_tryCatch hsteps (acts_queueRecipient server hcompany hticket _ _) fun _ =>
      moves_pure hsteps ()

theorem triple_notify (row : TicketRow) (hcompany : truthy user.companyId = true)
    (hrow : row.companyId = user.companyId) (action actorId : String) :
    Triple (Acts user allowed)
      (fun world => (world.store.tickets.find? fun other => server.same other.id row.id) = some row)
      (notify server row.id action actorId) fun _ _ => True := by
  have hsteps := acts_steps user allowed
  refine triple_tryCatch hsteps (Q := fun _ _ => True) ?_ fun _ => moves_pure hsteps ()
  refine triple_bind hsteps (triple_findTicket server row.id row) fun found => ?_
  cases found with
  | none => exact fun world hworld => nomatch hworld.1
  | some ticket =>
    intro world hworld
    obtain ⟨hsame, -⟩ := hworld
    obtain rfl : ticket = row := Option.some.inj hsame
    refine ⟨?_, fun _ _ => trivial⟩
    refine moves_bind hsteps (acts_of_quiet (quiet_findUser server _)) (fun createdBy => ?_) world
    refine moves_bind hsteps (acts_of_quiet (quiet_findUser server _)) fun _ => ?_
    exact acts_queueAll server hcompany hrow _ _

theorem quiet_nextTicketNumber (start : String) (next attempts : Nat) :
    Moves Quiet (nextTicketNumber server start next attempts) := by
  induction attempts generalizing next with
  | zero => exact moves_bind quiet_steps (moves_get quiet_steps) fun _ => moves_pure quiet_steps _
  | succ attempts ih =>
    refine moves_bind quiet_steps (quiet_ticketNumberTaken server _) fun taken => ?_
    exact moves_ite (fun _ => ih (next + 1)) fun _ => moves_pure quiet_steps _

theorem triple_createTicketRow (row : TicketRow) (hcompany : truthy user.companyId = true)
    (hrow : row.companyId = user.companyId) :
    Triple (Acts user allowed) (fun _ => True) (createTicketRow server row) fun created world =>
      created = row ∧
        (world.store.tickets.find? fun other => server.same other.id row.id) = some row := by
  have hsteps := acts_steps user allowed
  refine triple_bind hsteps (triple_insertTicket server row hcompany hrow) fun _ => ?_
  refine triple_bind hsteps (triple_findTicket server row.id row) fun found => ?_
  cases found with
  | none => exact fun world hworld => nomatch hworld.1
  | some created =>
    exact triple_pure hsteps created fun _ hworld => ⟨Option.some.inj hworld.1, hworld.2⟩

theorem acts_openTicket (row : TicketRow) (hcompany : truthy user.companyId = true)
    (hrow : row.companyId = user.companyId) (action actorId : String)
    (result : TicketRow → ToolResult) :
    Moves (Acts user allowed) (do
      let ticket ← createTicketRow server row
      notify server ticket.id action actorId
      return result ticket) := by
  have hsteps := acts_steps user allowed
  have hcreate := @triple_createTicketRow server user allowed row hcompany hrow
  refine (triple_bind (T := fun _ _ => True) hsteps hcreate fun created => ?_).moves
  refine triple_bind hsteps (Q := fun _ _ => True) ?_ fun _ => (moves_pure hsteps _).triple
  intro world hworld
  obtain ⟨rfl, hfound⟩ := hworld
  exact triple_notify server created hcompany hrow action actorId world hfound

theorem acts_createTicket (intent : AgentIntent) (goal : String) :
    Moves (Acts user allowed) (createTicket server user intent goal) := by
  have hsteps := acts_steps user allowed
  by_cases hcompany : truthy user.companyId = true
  · have hcond : ¬ (!truthy user.companyId) = true := by simp [hcompany]
    refine moves_ite (fun h => absurd h hcond) fun _ => ?_
    refine moves_bind hsteps (acts_of_quiet (quiet_query server _ _)) fun counted => ?_
    refine moves_bind hsteps (acts_of_quiet (quiet_nextTicketNumber server _ _ _)) fun number => ?_
    refine moves_bind hsteps (acts_of_quiet (quiet_newId server)) fun id => ?_
    exact acts_openTicket server _ hcompany rfl _ _ _
  · refine moves_ite (fun _ => moves_pure hsteps _) fun h => ?_
    simp [hcompany] at h

theorem acts_createMdmEnrollmentToken :
    Moves (Acts user allowed) (createMdmEnrollmentToken server user) := by
  have hsteps := acts_steps user allowed
  by_cases hcompany : truthy user.companyId = true
  · have hcond : ¬ (!truthy user.companyId) = true := by simp [hcompany]
    refine moves_ite (fun h => absurd h hcond) fun _ => ?_
    refine moves_bind hsteps (moves_get hsteps) fun world => ?_
    refine moves_bind hsteps (acts_insertToken server _ hcompany rfl) fun _ => ?_
    exact moves_pure hsteps _
  · refine moves_ite (fun _ => moves_pure hsteps _) fun h => ?_
    simp [hcompany] at h

theorem acts_runTool {toolId : String} (hallowed : allowed toolId) (intent : AgentIntent)
    (goal : String) : Moves (Acts user allowed) (runTool server user intent toolId goal) := by
  have hsteps := acts_steps user allowed
  refine moves_bind hsteps (moves_modify fun world => ?_) fun _ => ?_
  · exact ⟨.single allowed hallowed _, .refl _, fun _ => rfl⟩
  refine moves_ite (fun _ => acts_of_quiet (quiet_inspectWorkspace server user)) fun _ => ?_
  refine moves_ite (fun _ => acts_of_quiet (quiet_searchTickets server user intent)) fun _ => ?_
  refine moves_ite (fun _ => acts_of_quiet (quiet_summarizeTicketBacklog server user)) fun _ => ?_
  refine moves_ite (fun _ => acts_of_quiet (quiet_searchAssets server user intent)) fun _ => ?_
  refine moves_ite (fun _ => acts_createTicket server intent goal) fun _ => ?_
  refine moves_ite (fun _ => acts_createMdmEnrollmentToken server) fun _ => ?_
  refine moves_ite (fun _ => acts_of_quiet (quiet_deviceComplianceReport server user)) fun _ => ?_
  refine moves_ite (fun _ => acts_of_quiet (quiet_networkHealthReport server user)) fun _ => ?_
  refine moves_ite (fun _ => acts_of_quiet (quiet_rmmSummary server user)) fun _ => ?_
  exact moves_pure hsteps _

end Writing

section Calls

variable (server : Server) (reasoning : Reasoning) {user : AgentUser}

def IsReadTool (toolId : String) : Prop :=
  ∃ tool ∈ tools, tool.id = toolId ∧ tool.risk = .read

/-- A tool that is run by a plan: one of the table, and if it writes, an approved one. -/
def IsApproved (approvedActions : List String) (toolId : String) : Prop :=
  ∃ tool ∈ tools, tool.id = toolId ∧ (tool.risk = .write → toolId ∈ approvedActions)

theorem isReadTool_of_selected {selected : Option (List String)} {intent : AgentIntent}
    {toolId : String} (h : toolId ∈ selectedTools selected intent) : IsReadTool toolId := by
  have hallowed := (List.mem_filter.mp h).2
  obtain ⟨tool, htool, rfl⟩ := List.mem_map.mp (List.contains_iff_mem.mp hallowed)
  obtain ⟨hmem, hrisk⟩ := List.mem_filter.mp htool
  exact ⟨tool, hmem, rfl, decide_eq_true_eq.mp hrisk⟩

theorem quiet_cleanGoal (goal : String) : Moves Quiet (cleanGoal server goal) :=
  moves_ite (fun _ => moves_bind quiet_steps (moves_throw quiet_steps ()) fun _ =>
      moves_ite (fun _ => moves_bind quiet_steps (moves_throw quiet_steps ()) fun _ =>
        moves_pure quiet_steps _) fun _ => moves_pure quiet_steps _)
    fun _ => moves_ite (fun _ => moves_bind quiet_steps (moves_throw quiet_steps ()) fun _ =>
      moves_pure quiet_steps _) fun _ => moves_pure quiet_steps _

theorem quiet_analyzeGoal (goal : String) (user : AgentUser) (history : List HistoryItem)
    (currentPage : Option String) :
    Moves Quiet (analyzeGoal server reasoning goal user history currentPage) := by
  refine moves_bind quiet_steps (quiet_cleanGoal server goal) fun clean => ?_
  refine moves_bind quiet_steps (quiet_workspaceSnapshot server user) fun snapshot => ?_
  split <;> exact moves_pure quiet_steps _

theorem quiet_plan (goal : String) (user : AgentUser) (history : List HistoryItem)
    (currentPage : Option String) :
    Moves Quiet (plan server reasoning goal user history currentPage) :=
  moves_bind quiet_steps (quiet_analyzeGoal server reasoning goal user history currentPage)
    fun _ => moves_pure quiet_steps _

theorem acts_runSteps (planned : Planned) (approvedActions : List String) (steps : List AgentStep) :
    Moves (Acts user (IsApproved approvedActions))
      (runSteps server user planned approvedActions steps) := by
  have hsteps := acts_steps user (IsApproved approvedActions)
  induction steps with
  | nil => exact moves_pure hsteps []
  | cons step steps ih =>
    unfold runSteps
    split
    next => exact ih
    next tool htool =>
      obtain ⟨toolId, -, hfind⟩ := Option.bind_eq_some_iff.mp htool
      refine moves_ite (fun _ => moves_bind hsteps ih fun _ => moves_pure hsteps _) fun happroved => ?_
      have hallowed : IsApproved approvedActions tool.id := by
        split at hfind
        · cases hfind
        refine ⟨tool, List.mem_of_find?_eq_some hfind, rfl, fun hwrite => ?_⟩
        simpa [hwrite] using happroved
      refine moves_bind hsteps (acts_runTool server hallowed _ _) fun _ => ?_
      exact moves_bind hsteps ih fun _ => moves_pure hsteps _

theorem acts_execute (goal : String) (approvedActions : List String) (history : List HistoryItem)
    (currentPage : Option String) :
    Moves (Acts user (IsApproved approvedActions))
      (execute server reasoning goal user approvedActions history currentPage) := by
  have hsteps := acts_steps user (IsApproved approvedActions)
  refine moves_bind hsteps (acts_of_quiet (quiet_plan server reasoning goal user history
    currentPage)) fun planned => ?_
  exact acts_runSteps server planned approvedActions planned.steps

end Calls
end FieldserviceIT.Ai
