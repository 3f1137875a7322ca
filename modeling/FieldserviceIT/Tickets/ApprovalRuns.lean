import FieldserviceIT.Database.FilterCorrectness
import FieldserviceIT.Lib.Interleaving
import FieldserviceIT.Lib.JsonText
import FieldserviceIT.Tickets.Export

/-!
Approvals of a ticket. Requests and decisions are entries of its timeline, with what they say as a
JSON text; whether a request is still pending is nowhere but in the entries. The entries of other
actions are part of the database beside them. A statement that fails ends its program, which is then
one that is not advanced any further.
-/

namespace FieldserviceIT.Tickets.Approval

open Common Database Lib Sql

inductive Decision where
  | approved
  | rejected
  deriving DecidableEq

def Decision.text : Decision → String
  | approved => "APPROVED"
  | rejected => "REJECTED"

def Decision.ofText (text : String) : Option Decision :=
  if text = "APPROVED" then some .approved
  else if text = "REJECTED" then some .rejected
  else none

inductive ApprovalContent where
  | requested (checkpoint detail : String) (amount : Option Rat) (requestedAt : Int)
  | decided (decision : Decision) (comment : Option String) (decidedAt : Int)
      (requestedCheckpoint : Json)

structure ApprovalEntry where
  id : String
  ticketId : String
  actorId : String
  approvalId : String
  content : ApprovalContent
  createdAt : Int

structure ApprovalPlatform where
  comparison : Comparison
  objectLiteral : Js → Option Scalar
  numerals : JsonText.Numerals
  toUpperCase : String → String
  trim : String → String

/-- The latest entry comes first. -/
structure ApprovalStore where
  db : Db
  approvals : List ApprovalEntry
  now : Int

section Entries

def orNull {α : Type} (toJson : α → Json) (value : Option α) : Json :=
  value.elim .null toJson

def ApprovalEntry.action (entry : ApprovalEntry) : String :=
  match entry.content with
  | .requested _ _ _ _ => "APPROVAL_REQUESTED"
  | .decided decision _ _ _ => "APPROVAL_" ++ decision.text

def ApprovalEntry.payload (entry : ApprovalEntry) : Json :=
  match entry.content with
  | .requested checkpoint detail amount requestedAt =>
    .object [("approvalId", .text entry.approvalId), ("checkpoint", .text checkpoint),
      ("detail", .text detail), ("amount", orNull .number amount), ("status", .text "PENDING"),
      ("requestedAt", .text (toISOString requestedAt))]
  | .decided decision comment decidedAt requestedCheckpoint =>
    .object [("approvalId", .text entry.approvalId), ("decision", .text decision.text),
      ("comment", orNull .text comment), ("decidedAt", .text (toISOString decidedAt)),
      ("requestedCheckpoint", requestedCheckpoint)]

def ApprovalEntry.oldValue (entry : ApprovalEntry) : Option String :=
  match entry.content with
  | .requested _ _ _ _ => none
  | .decided _ _ _ _ => some "PENDING"

def ApprovalEntry.newValue (entry : ApprovalEntry) : String :=
  match entry.content with
  | .requested _ _ _ _ => "PENDING"
  | .decided decision _ _ _ => decision.text

variable (P : ApprovalPlatform)

/-- The row of `TicketTimeline`. -/
def ApprovalEntry.row (entry : ApprovalEntry) : Row := fun column =>
  if column = "id" then some (.text entry.id)
  else if column = "ticketId" then some (.text entry.ticketId)
  else if column = "action" then some (.text entry.action)
  else if column = "actorId" then some (.text entry.actorId)
  else if column = "oldValue" then entry.oldValue.map .text
  else if column = "newValue" then some (.text entry.newValue)
  else if column = "comment" then some (.text (JsonText.stringify P.numerals entry.payload))
  else if column = "isInternal" then some (.flag false)
  else if column = "createdAt" then some (.instant entry.createdAt)
  else none

def ApprovalStore.tables (s : ApprovalStore) : Db := fun table =>
  if table = "TicketTimeline" then
    s.db table ++ (s.approvals.reverse.map fun entry => entry.row P)
  else s.db table

def ApprovalPlatform.server : Server :=
  Database.server P.comparison P.objectLiteral

def canSee (id : String) (user : CurrentUser) (s : ApprovalStore) : Bool :=
  ((findOne P.server (s.tables P) s.now id user false).map Option.isSome).getD false

/-- `JSON.parse`, or an empty object -/
def safeParse (value : Option Scalar) : Json :=
  match value with
  | some (.text text) => (JsonText.parse P.numerals text).getD (.object [])
  | _ => .object []

def findApprovalTimeline (ticketId approvalId : String) (s : ApprovalStore) :
    Option (Option Json) :=
  (Query.ticketTimeline.rows P.server (s.tables P) (Filter.fields
      [.column "ticketId" (.equals (.text ticketId)),
        .column "action" (.equals (.text "APPROVAL_REQUESTED"))])).map fun rows =>
    ((orderedBy P.comparison "createdAt" .desc rows).map fun row =>
      safeParse P (row "comment")).find? fun payload =>
        match payload.property "approvalId" with
        | some (.text other) => other = approvalId
        | _ => false

/-- `approval?.checkpoint || null` -/
def checkpointOf (approval : Option Json) : Json :=
  ((approval.bind (Json.property "checkpoint")).filter Json.truthy).getD .null

end Entries

section Listing

variable (P : ApprovalPlatform)

/-- The properties of an approval, some of which may be undefined. -/
abbrev ApprovalView := List (String × Option Json)

def jsonOf : Option Scalar → Json
  | some (.text text) => .text text
  | some (.number n) => .number n
  | some (.instant milliseconds) => .text (toISOString milliseconds)
  | some (.flag b) => .bool b
  | none => .null

def actorOf (row : Row) (s : ApprovalStore) : Json :=
  match related P.server (s.tables P) "User" (some ["id", "firstName", "lastName"]) (row "actorId") with
  | some user => .object [("id", jsonOf (user "id")), ("firstName", jsonOf (user "firstName")),
      ("lastName", jsonOf (user "lastName"))]
  | none => .null

/-- `payload.approvalId || row.id` -/
def viewKey (payload : Json) (row : Row) : String :=
  match payload.property "approvalId" with
  | some (.text id) => if id = "" then joinedText (row "id") else id
  | _ => joinedText (row "id")

/-- `{ ...view, ...properties }` -/
def withProperties (properties : ApprovalView) (view : ApprovalView) : ApprovalView :=
  properties.foldl (fun view entry => put entry.1 entry.2 view) view

/-- `current.status || 'PENDING'` -/
def statusOf (current : ApprovalView) : Json :=
  (((current.lookup "status").join).filter Json.truthy).getD (.text "PENDING")

def viewOf (s : ApprovalStore) (row : Row) (current : ApprovalView) : ApprovalView :=
  let payload := safeParse P (row "comment")
  if row "action" = some (.text "APPROVAL_REQUESTED") then
    withProperties [("timelineEntryId", some (jsonOf (row "id"))),
      ("requestedBy", some (actorOf P row s)), ("status", some (statusOf current))]
      (payload.entries.map fun entry => (entry.1, some entry.2))
  else
    withProperties [("status", payload.property "decision"),
      ("decision", payload.property "decision"), ("decidedAt", payload.property "decidedAt"),
      ("decisionComment", payload.property "comment"), ("decidedBy", some (actorOf P row s))] current

def collectViews (s : ApprovalStore) (rows : List Row) : List (String × ApprovalView) :=
  rows.foldl (fun approvals row =>
    let key := viewKey (safeParse P (row "comment")) row
    put key (viewOf P s row ((approvals.lookup key).getD [])) approvals) []

def approvalActions : List Scalar :=
  [.text "APPROVAL_REQUESTED", .text "APPROVAL_APPROVED", .text "APPROVAL_REJECTED"]

/-- `none` when it throws. -/
def listApprovals (id : String) (user : CurrentUser) (s : ApprovalStore) :
    Option (List ApprovalView) :=
  if canSee P id user s then
    (Query.ticketTimeline.rows P.server (s.tables P) (Filter.fields
        [.column "ticketId" (.equals (.text id)), .column "action" (.isIn approvalActions)])).map
      fun rows => ((collectViews P s (orderedBy P.comparison "createdAt" .asc rows)).map
        Prod.snd).reverse
  else none

end Listing

section Programs

inductive ApprovalOp where
  | read
  | addEntry (id ticketId actorId approvalId : String) (content : ApprovalContent)

abbrev ApprovalProgram := Prog ApprovalStore ApprovalOp

def execApproval (op : ApprovalOp) (s : ApprovalStore) : ApprovalStore :=
  match op with
  | .read => s
  | .addEntry id ticketId actorId approvalId content =>
    { s with
      approvals := ⟨id, ticketId, actorId, approvalId, content, s.now⟩ :: s.approvals }

/-- `amount` is what `Number` makes of the one that was sent. -/
structure RequestDto where
  checkpoint : Option String
  detail : Option String
  amount : QueryNumber

structure DecideDto where
  decision : Option String
  comment : Option String

variable (P : ApprovalPlatform)

/-- `value?.trim() || fallback` -/
def trimmedOr (value : Option String) (fallback : Option String) : Option String :=
  ((value.map P.trim).filter (· ≠ "")).or fallback

def finiteAmount : QueryNumber → Option Rat
  | .finite amount => some amount
  | .nan | .infinite => none

def requestApproval (entryId approvalId id : String) (user : CurrentUser) (dto : RequestDto) :
    ApprovalProgram :=
  .step .read fun s =>
    if canSee P id user s then
      .step (.addEntry entryId id user.id approvalId
        (.requested (P.toUpperCase ((orElse dto.checkpoint (some "WORK_APPROVAL")).getD ""))
          ((trimmedOr P dto.detail
            (some "Customer approval requested before work continues.")).getD "")
          (finiteAmount dto.amount) s.now)) fun _ => .done
    else .fail

def decideApproval (entryId id approvalId : String) (user : CurrentUser) (dto : DecideDto) :
    ApprovalProgram :=
  .step .read fun s =>
    if canSee P id user s then
      match Decision.ofText (P.toUpperCase (dto.decision.getD "")) with
      | none => .fail
      | some decision =>
        .step .read fun s =>
          match findApprovalTimeline P id approvalId s with
          | none => .fail
          | some approval =>
            .step (.addEntry entryId id user.id approvalId
              (.decided decision (trimmedOr P dto.comment none) s.now (checkpointOf approval)))
              fun _ => .done
    else .fail

inductive ApprovalRequest where
  | requestApproval (entryId approvalId id : String) (user : CurrentUser) (dto : RequestDto)
  | decideApproval (entryId id approvalId : String) (user : CurrentUser) (dto : DecideDto)

def ApprovalRequest.handler : ApprovalRequest → ApprovalProgram
  | .requestApproval entryId approvalId id user dto =>
    Approval.requestApproval P entryId approvalId id user dto
  | .decideApproval entryId id approvalId user dto =>
    Approval.decideApproval P entryId id approvalId user dto

def approvalSystem : System ApprovalStore ApprovalOp ApprovalRequest where
  exec := execApproval
  tick s :=
    { s with
      now := s.now + 1 }
  handler := ApprovalRequest.handler P
  sendable _ _ := True

end Programs

/-!
Runs of the approvals. Whether a request is there, still pending and somebody else's is nowhere
asked, so a run decides rightly as far as the decisions that are sent do. The list of the approvals
asks its query for one of several actions, which that query does not understand.
-/

section Law

def ApprovalEntry.Requests (entry : ApprovalEntry) (ticketId approvalId : String) : Prop :=
  entry.ticketId = ticketId ∧ entry.approvalId = approvalId ∧ entry.action = "APPROVAL_REQUESTED"

def ApprovalEntry.Decides (entry : ApprovalEntry) (ticketId approvalId : String) : Prop :=
  entry.ticketId = ticketId ∧ entry.approvalId = approvalId ∧ entry.action ≠ "APPROVAL_REQUESTED"

/-- After these entries, the person may decide the request. -/
structure MayDecide (actorId ticketId approvalId : String) (earlier : List ApprovalEntry) : Prop where
  requested : ∃ request ∈ earlier, request.Requests ticketId approvalId
  pending : ∀ entry ∈ earlier, ¬entry.Decides ticketId approvalId
  other : ∀ request ∈ earlier, request.Requests ticketId approvalId → request.actorId ≠ actorId

/-- Each decision found its request pending and another person's. -/
def DecidedRightly : List ApprovalEntry → Prop
  | [] => True
  | entry :: earlier => (entry.Decides entry.ticketId entry.approvalId →
      MayDecide entry.actorId entry.ticketId entry.approvalId earlier) ∧ DecidedRightly earlier

def Rightful (op : ApprovalOp) (s : ApprovalStore) : Prop :=
  match op with
  | .read | .addEntry _ _ _ _ (.requested _ _ _ _) => True
  | .addEntry _ ticketId actorId approvalId (.decided _ _ _ _) =>
    MayDecide actorId ticketId approvalId s.approvals

/-- The list shows each request on the ticket once, with its decision if it has one. -/
def ShowsDecisions (P : ApprovalPlatform) (id : String) (user : CurrentUser) (s : ApprovalStore) :
    Prop :=
  ∀ request ∈ s.approvals, request.Requests id request.approvalId →
    ∃ views view, listApprovals P id user s = some views ∧
      (views.filter fun view => match (view.lookup "approvalId").join with
        | some (.text other) => other = request.approvalId
        | _ => false) = [view] ∧
      (∀ entry ∈ s.approvals, entry.Decides id request.approvalId →
        (view.lookup "decision").join = entry.payload.property "decision") ∧
      ((∀ entry ∈ s.approvals, ¬entry.Decides id request.approvalId) →
        (view.lookup "decision").join = none)

theorem action_decided (decision : Decision) :
    "APPROVAL_" ++ decision.text ≠ "APPROVAL_REQUESTED" := by
  cases decision <;> decide

theorem at_most_one_decision {entries : List ApprovalEntry} (h : DecidedRightly entries) :
    entries.Pairwise fun later earlier => ∀ ticketId approvalId,
      later.Decides ticketId approvalId → ¬earlier.Decides ticketId approvalId := by
  induction entries with
  | nil => exact List.Pairwise.nil
  | cons entry earlier ih =>
    refine List.pairwise_cons.mpr ⟨fun other hother ticketId approvalId hdecides => ?_, ih h.2⟩
    obtain ⟨rfl, rfl, haction⟩ := hdecides
    exact (h.1 ⟨rfl, rfl, haction⟩).pending other hother

end Law

section Runs

variable {P : ApprovalPlatform} {s : ApprovalStore}

theorem decidedRightly_exec_iff (op : ApprovalOp) (h : DecidedRightly s.approvals) :
    DecidedRightly (execApproval op s).approvals ↔ Rightful op s := by
  cases op with
  | read => exact iff_of_true h trivial
  | addEntry id ticketId actorId approvalId content =>
    cases content with
    | requested checkpoint detail amount requestedAt =>
      refine iff_of_true ⟨fun hdecides => ?_, h⟩ trivial
      exact absurd rfl hdecides.2.2
    | decided decision comment decidedAt requestedCheckpoint =>
      constructor
      · intro hlaw
        exact hlaw.1 ⟨rfl, rfl, action_decided decision⟩
      · intro hrightful
        exact ⟨fun _ => hrightful, h⟩

theorem kept_decidedRightly (P : ApprovalPlatform) :
    Kept (approvalSystem P) Rightful fun s => DecidedRightly s.approvals where
  exec op _ h hrightful := (decidedRightly_exec_iff op h).mpr hrightful
  tick _ h := h

theorem isOver_approvals (id : String) : Filter.isOver Query.ticketTimeline.table
    [.column "ticketId" (.equals (.text id)), .column "action" (.isIn approvalActions)] = true :=
  rfl

/-- A list of values is no value that could stand behind an equals sign. -/
def RefusesLists (P : ApprovalPlatform) : Prop :=
  ∀ items, P.objectLiteral (.object [("in", .array items)]) = none

theorem literal_isIn (hrefused : RefusesLists P) (values : List Scalar) :
    P.server.literal (ColumnTest.isIn values).toJs = none := by
  change (P.objectLiteral (.object [("in", .array (values.map .scalar))])).map some = none
  rw [hrefused]
  rfl

theorem rows_approvals (hrefused : RefusesLists P) (id : String) (db : Db) :
    Query.ticketTimeline.rows P.server db (Filter.fields
      [.column "ticketId" (.equals (.text id)), .column "action" (.isIn approvalActions)]) =
        none := by
  rw [ApprovalPlatform.server, Query.rows_eq _ _ _ _ (isOver_approvals id) rfl, if_neg]
  rintro ⟨-, haccepts⟩
  rw [Server.acceptsAll_eq, List.all_eq_true] at haccepts
  have haction := haccepts (equalBound (.column "action" (.isIn approvalActions)))
    (.tail _ (.head _))
  rw [equalBound, Server.accepts, Bool.and_eq_true] at haction
  change _ ∧ (P.server.literal (ColumnTest.isIn approvalActions).toJs).isSome = true at haction
  rw [literal_isIn hrefused] at haction
  cases haction.2

theorem listApprovals_none (hrefused : RefusesLists P) (id : String) (user : CurrentUser)
    (s : ApprovalStore) : listApprovals P id user s = none := by
  rw [listApprovals, rows_approvals hrefused, Option.map_none, ite_self]

theorem showsDecisions_iff (hrefused : RefusesLists P) (id : String) (user : CurrentUser)
    (s : ApprovalStore) : ShowsDecisions P id user s ↔
      ∀ entry ∈ s.approvals, ¬entry.Requests id entry.approvalId := by
  constructor
  · intro hshows entry hentry hrequests
    obtain ⟨views, view, hviews, -⟩ := hshows entry hentry hrequests
    rw [listApprovals_none hrefused] at hviews
    cases hviews
  · intro hnone request hrequest hrequests
    exact absurd hrequests (hnone request hrequest)

end Runs

section Samples

def binaryPlatform : ApprovalPlatform where
  comparison := .binary
  objectLiteral := fun _ => none
  numerals := JsonText.countedNumerals
  toUpperCase := id
  trim := id

def adminOf (id : String) : CurrentUser where
  id := id
  role := .superAdmin
  userType := .businessUser
  companyId := none
  effectiveCompanyId := none
  location := none
  permissionScopes := none
  permissionSlugs := none

def oneTicket : Config ApprovalStore ApprovalOp :=
  ⟨⟨fun table => if table = "Ticket" then
    [fun column => if column = "id" then some (.text "t") else none] else [], [], 0⟩, []⟩

def isDecision (entry : ApprovalEntry) : Bool :=
  entry.action ≠ "APPROVAL_REQUESTED"

def isRightful (op : ApprovalOp) (s : ApprovalStore) : Bool :=
  match op with
  | .read | .addEntry _ _ _ _ (.requested _ _ _ _) => true
  | .addEntry _ ticketId actorId approvalId (.decided _ _ _ _) =>
    let own := s.approvals.filter fun entry =>
      decide (entry.ticketId = ticketId) && decide (entry.approvalId = approvalId)
    own.any (fun entry => !isDecision entry) && own.all fun entry =>
      !isDecision entry && decide (entry.actorId ≠ actorId)

theorem rightful_of_test {op : ApprovalOp} {s : ApprovalStore} (h : isRightful op s = true) :
    Rightful op s := by
  cases op with
  | read => trivial
  | addEntry id ticketId actorId approvalId content =>
    cases content with
    | requested _ _ _ _ => trivial
    | decided _ _ _ _ =>
      simp only [isRightful, Bool.and_eq_true, List.any_eq_true, List.all_eq_true,
        List.mem_filter, decide_eq_true_eq, isDecision, Bool.not_eq_true',
        decide_eq_false_iff_not, not_not] at h
      obtain ⟨⟨request, ⟨hmem, hticket, hid⟩, haction⟩, hall⟩ := h
      refine ⟨⟨request, hmem, hticket, hid, haction⟩, fun entry hentry hdecides => ?_,
        fun other hother hrequests => ?_⟩
      · exact hdecides.2.2 (hall entry ⟨hentry, hdecides.1, hdecides.2.1⟩).1
      · exact (hall other ⟨hother, hrequests.1, hrequests.2.1⟩).2

end Samples
end FieldserviceIT.Tickets.Approval
