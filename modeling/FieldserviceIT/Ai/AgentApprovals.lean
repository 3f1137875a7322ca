import FieldserviceIT.Ai.AgentWrites

/-!
The agent writes nothing that was not approved: the tools a call has run, the rows it
has inserted, and what is left of it without a company.
-/

namespace FieldserviceIT.Ai

open Common Lib Lib.Stateful Notifications Sql

section Reading

variable (server : Server) (reasoning : Reasoning) (user : AgentUser)

/-- Tools that read were run, and the tables are as they were. -/
structure Looks (v w : World) : Prop where
  executed : Appended IsReadTool v.executed w.executed
  unchanged : w.store = v.store

theorem looks_steps : Steps Looks where
  refl _ := ⟨.refl _, rfl⟩
  trans h h' := ⟨h.executed.trans h'.executed, h'.unchanged.trans h.unchanged⟩

theorem Quiet.looks {v w : World} (h : Quiet v w) : Looks v w := by
  obtain ⟨hstore, hexecuted⟩ := h
  refine ⟨?_, hstore⟩
  rw [hexecuted]
  exact .refl _

theorem not_isReadTool {toolId : String} (h : toolId = "create_ticket" ∨
    toolId = "create_mdm_enrollment_token") : ¬ IsReadTool toolId := by
  rintro ⟨tool, htool, rfl, hrisk⟩
  have htable : ∀ tool ∈ tools, tool.risk = .read →
      tool.id ≠ "create_ticket" ∧ tool.id ≠ "create_mdm_enrollment_token" := by
    decide
  exact h.elim (htable tool htool hrisk).1 (htable tool htool hrisk).2

theorem looks_runTool {toolId : String} (hread : IsReadTool toolId) (intent : AgentIntent)
    (goal : String) : Moves Looks (runTool server user intent toolId goal) := by
  have hquiet {α : Type} {m : Agent α} (hm : Moves Quiet m) : Moves Looks m :=
    hm.mono fun _ _ => Quiet.looks
  refine moves_bind looks_steps (moves_modify fun world => ?_) fun _ => ?_
  · exact ⟨.single IsReadTool hread _, rfl⟩
  refine moves_ite (fun _ => hquiet (quiet_inspectWorkspace server user)) fun _ => ?_
  refine moves_ite (fun _ => hquiet (quiet_searchTickets server user intent)) fun _ => ?_
  refine moves_ite (fun _ => hquiet (quiet_summarizeTicketBacklog server user)) fun _ => ?_
  refine moves_ite (fun _ => hquiet (quiet_searchAssets server user intent)) fun _ => ?_
  refine moves_ite (fun h => absurd hread (not_isReadTool (.inl h))) fun _ => ?_
  refine moves_ite (fun h => absurd hread (not_isReadTool (.inr h))) fun _ => ?_
  refine moves_ite (fun _ => hquiet (quiet_deviceComplianceReport server user)) fun _ => ?_
  refine moves_ite (fun _ => hquiet (quiet_networkHealthReport server user)) fun _ => ?_
  refine moves_ite (fun _ => hquiet (quiet_rmmSummary server user)) fun _ => ?_
  exact moves_pure looks_steps _

theorem looks_runTools (intent : AgentIntent) (goal : String) {toolIds : List String}
    (hread : ∀ toolId ∈ toolIds, IsReadTool toolId) :
    Moves Looks (runTools server user intent goal toolIds) := by
  induction toolIds with
  | nil => exact moves_pure looks_steps []
  | cons toolId toolIds ih =>
    have hhead := hread toolId (List.mem_cons_self ..)
    refine moves_bind looks_steps (looks_runTool server user hhead intent goal) fun _ => ?_
    refine moves_bind looks_steps (ih fun other hother => hread other (List.mem_cons_of_mem _ hother))
      fun _ => moves_pure looks_steps _

theorem looks_ask (question : String) (history : List HistoryItem) (currentPage : Option String) :
    Moves Looks (ask server reasoning question user history currentPage) := by
  refine moves_bind looks_steps ((quiet_analyzeGoal server reasoning question user history
    currentPage).mono fun _ _ => Quiet.looks) fun analyzed => ?_
  exact looks_runTools server user _ _ fun toolId => isReadTool_of_selected

end Reading

section Approvals

def after {α : Type} (call : Agent α) (world : World) : World :=
  (exec call world).2

inductive InsertedRow where
  | ticket (row : TicketRow)
  | token (row : MdmTokenRow)
  | delivery (row : DeliveryRow)
  | preference (row : PreferenceRow)

def InsertedRow.companyId : InsertedRow → Option String
  | ticket row => row.companyId
  | token row => row.companyId
  | delivery row => row.companyId
  | preference _ => none

def insertedSince (s t : Store) : List InsertedRow :=
  (t.tickets.drop s.tickets.length).map .ticket ++ (t.tokens.drop s.tokens.length).map .token ++
    (t.deliveries.drop s.deliveries.length).map .delivery ++
    (t.preferences.drop s.preferences.length).map .preference

def ranSince (v w : World) : List String :=
  w.executed.drop v.executed.length

theorem of_mem_drop {α : Type} {p : α → Prop} {xs ys : List α} (h : Appended p xs ys) :
    ∀ row ∈ ys.drop xs.length, p row := by
  obtain ⟨rows, rfl, hp⟩ := h
  rwa [List.drop_left]

/-- Whatever the model answers: `ask` runs tools that read and leaves the tables as they
are; `execute` runs a tool that writes only if this call has approved it, and adds rows
of the user's company, apart from preferences, which have none; and without a company
no call writes anything. -/
theorem writes_only_approved (server : Server) (reasoning : Reasoning) (user : AgentUser)
    (history : List HistoryItem) (currentPage : Option String) (w : World) :
    (∀ question,
      (∀ toolId ∈ ranSince w (after (ask server reasoning question user history currentPage) w),
        IsReadTool toolId) ∧
      (after (ask server reasoning question user history currentPage) w).store = w.store) ∧
    (∀ goal approvedActions,
      (∀ toolId ∈ ranSince w
          (after (execute server reasoning goal user approvedActions history currentPage) w),
        IsApproved approvedActions toolId) ∧
      Inserts user w.store
        (after (execute server reasoning goal user approvedActions history currentPage) w).store) ∧
    (truthy user.companyId = false → ∀ goal approvedActions,
      (after (plan server reasoning goal user history currentPage) w).store = w.store ∧
      (after (execute server reasoning goal user approvedActions history currentPage) w).store =
        w.store) := by
  refine ⟨fun question => ?_, fun goal approvedActions => ?_, fun hnone goal approvedActions => ?_⟩
  · have hlooks := looks_ask server reasoning user question history currentPage w
    exact ⟨of_mem_drop hlooks.executed, hlooks.unchanged⟩
  · have hacts := @acts_execute server reasoning user goal approvedActions history
      currentPage w
    exact ⟨of_mem_drop hacts.executed, hacts.inserts⟩
  · have hplan := quiet_plan server reasoning goal user history currentPage w
    have hacts := @acts_execute server reasoning user goal approvedActions history
      currentPage w
    exact ⟨hplan.1, hacts.unchanged hnone⟩

end Approvals

section Samples

def sampleServer : Server where
  fails _ := false
  rows _ _ _ := []
  same a b := a == b
  same_refl := by simp
  uuid n := String.ofList (List.replicate n 'i')
  hex n := String.ofList (List.replicate n 'x')
  now _ := 0
  base36 n := toString n
  toLowerCase text := text
  toUpperCase text := text
  trim text := text
  slice n text := String.ofList (text.toList.take n)
  collapse text := text
  isAddress text := text.toList.contains '@'

def sampleReasoning : Reasoning where
  analyze _ _ _ := some
    { intent := ⟨"ticket", [], 90, ⟨none, none, none, none, none⟩⟩
      readTools := some ["create_mdm_enrollment_token", "search_tickets"] }
  looksLikeFollowUp _ := false
  ticketNumberIn _ := none
  emailIn _ := none
  searchTerm goal := goal

def sampleUser : AgentUser where
  id := "user-1"
  role := .technician
  userType := .businessUser
  companyId := some "acme"
  email := "tech@acme.example"
  firstName := none
  lastName := none
  phone := none

def sampleWorld : World where
  store :=
    { tickets := [], tokens := [], deliveries := [], preferences := []
      users := [⟨"user-1", "tech@acme.example", none, none, false⟩], suppressions := [] }
  executed := []
  clock := 0

/-- Opening a ticket puts in the preferences of the one who is notified of it. -/
theorem inserts_preference : ¬ ∀ server reasoning user goal approvedActions history currentPage w,
    ∀ row ∈ insertedSince w.store
        (after (execute server reasoning goal user approvedActions history currentPage) w).store,
      row.companyId = user.companyId := by
  intro h
  have hall := h sampleServer sampleReasoning sampleUser "create a ticket" ["create_ticket"] [] none
    sampleWorld
  have hany : (insertedSince sampleWorld.store (after (execute sampleServer sampleReasoning
      "create a ticket" sampleUser ["create_ticket"] [] none) sampleWorld).store).any
        (fun row => row.companyId = none) = true := by
    decide
  obtain ⟨row, hrow, hnone⟩ := List.any_eq_true.mp hany
  have hcompany := hall row hrow
  rw [decide_eq_true_eq.mp hnone] at hcompany
  exact absurd hcompany (by decide)

end Samples
end FieldserviceIT.Ai
