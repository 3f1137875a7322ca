import Mathlib.Data.List.Induction
import FieldserviceIT.Common.WhiteSpace
import FieldserviceIT.Lib.JsonText
import FieldserviceIT.Lib.Unicode

/-!
The history of deployments. An event is written over the row with its release, component and
workflow run. The unique key of the table takes two missing runs for different ones, the query that
reads the event back takes them for the same.
-/

namespace FieldserviceIT.Deployments

open Common Lib

inductive Component where
  | backend
  | frontend
  | release
  | migration
  | rollback
  | health
  deriving DecidableEq

def Component.text : Component → String
  | backend => "backend"
  | frontend => "frontend"
  | release => "release"
  | migration => "migration"
  | rollback => "rollback"
  | health => "health"

inductive Status where
  | started
  | succeeded
  | failed
  | rolledBack
  | unhealthy
  deriving DecidableEq

namespace Status

def text : Status → String
  | started => "STARTED"
  | succeeded => "SUCCEEDED"
  | failed => "FAILED"
  | rolledBack => "ROLLED_BACK"
  | unhealthy => "UNHEALTHY"

/-- `ALERT_STATUSES` -/
def alerts : Status → Bool
  | failed | rolledBack | unhealthy => true
  | started | succeeded => false

end Status

structure RecordDeploymentEventDto where
  releaseCommit : String
  component : Component
  status : Status
  source : Option String
  workflowRunId : Option String
  workflowUrl : Option String
  durationMs : Option Nat
  detail : Option (List (String × Json))
  startedAt : Option String
  completedAt : Option String

/-- A row of `DeploymentEvent`. -/
structure Event where
  id : String
  releaseCommit : String
  component : Component
  status : Status
  source : String
  workflowRunId : Option String
  workflowUrl : Option String
  durationMs : Option Nat
  detail : String
  startedAt : Option Int
  completedAt : Option Int
  createdAt : Int
  updatedAt : Int

structure PublicEvent where
  row : Event
  detail : Json

structure Admin where
  id : String
  email : Option String
  companyId : Option String

structure Mail where
  recipient : String
  subject : String
  html : String
  text : String

/-- The notification and the mail that an administrator gets. -/
structure Alert where
  userId : String
  companyId : Option String
  title : String
  body : String
  mail : Option Mail

/-- The database and the runtime. Texts are compared by the collation of their columns. Of several
rows a query with `LIMIT 1` reads the one that the server comes to first. -/
structure Platform where
  collates : String → String → Bool
  collates_refl : ∀ a, collates a a = true
  collates_symm : ∀ a b, collates a b = true → collates b a = true
  collates_trans : ∀ a b c, collates a b = true → collates b c = true → collates a c = true
  uuid : Nat → String
  uuid_fresh : ∀ m n, collates (uuid m) (uuid n) = true → m = n
  numerals : JsonText.Numerals
  /-- `new Date(text)`, or `none` where it is invalid. -/
  date : String → Option Int
  first : List Event → Option Event
  first_mem : ∀ rows event, first rows = some event → event ∈ rows
  first_isSome : ∀ rows, rows ≠ [] → (first rows).isSome = true

/-- The table and how many ids were drawn for it. -/
structure History where
  rows : List Event
  drawn : Nat

/-- What an event is found by. -/
structure Key where
  releaseCommit : String
  component : Component
  workflowRunId : Option String

section Values

/-- `value || null` -/
def textOrNull (value : Option String) : Option String :=
  value.filter fun text => text ≠ ""

variable (P : Platform)

/-- `value ? new Date(value) : null`. A date that is invalid cannot be bound. -/
def dateOrNull (value : Option String) : Option (Option Int) :=
  (textOrNull value).elim (some none) fun text => (P.date text).map some

def trimmed (text : String) : String :=
  String.ofList (trim text.toList)

def detailText (dto : RecordDeploymentEventDto) : String :=
  JsonText.stringify P.numerals (.object (dto.detail.getD []))

def RecordDeploymentEventDto.key (dto : RecordDeploymentEventDto) : Key where
  releaseCommit := trimmed dto.releaseCommit
  component := dto.component
  workflowRunId := textOrNull dto.workflowRunId

def Event.key (event : Event) : Key where
  releaseCommit := event.releaseCommit
  component := event.component
  workflowRunId := event.workflowRunId

/-- The values of the insertion, or `none` where the server refuses them: a date is invalid or the
detail does not fit its column. -/
def insertedEvent (id : String) (dto : RecordDeploymentEventDto) (now : Int) : Option Event := do
  let startedAt ← dateOrNull P dto.startedAt
  let completedAt ← dateOrNull P dto.completedAt
  if (Unicode.encodeUtf8 (detailText P dto).toList).length ≤ 65535 then
    some
      { id := id
        releaseCommit := trimmed dto.releaseCommit
        component := dto.component
        status := dto.status
        source := (textOrNull dto.source).getD "github-actions"
        workflowRunId := textOrNull dto.workflowRunId
        workflowUrl := textOrNull dto.workflowUrl
        durationMs := dto.durationMs
        detail := detailText P dto
        startedAt := startedAt
        completedAt := completedAt
        createdAt := now
        updatedAt := now }
  else none

end Values

section Queries

variable (P : Platform)

/-- `ON DUPLICATE KEY UPDATE` -/
def overwrite (new row : Event) : Event :=
  { row with
    status := new.status
    source := new.source
    workflowUrl := new.workflowUrl
    durationMs := new.durationMs
    detail := new.detail
    startedAt := new.startedAt.or row.startedAt
    completedAt := new.completedAt
    updatedAt := new.updatedAt }

def duplicates (new row : Event) : Bool :=
  P.collates row.releaseCommit new.releaseCommit && row.component = new.component &&
    row.workflowRunId.any fun run => new.workflowRunId.any fun newRun => P.collates run newRun

/-- The row is in the way of the new one, by its primary or its unique key. -/
def conflicts (new row : Event) : Bool :=
  P.collates row.id new.id || duplicates P new row

def insertOrUpdate (new : Event) (rows : List Event) : List Event :=
  if rows.any (conflicts P new) then
    rows.map fun row => if conflicts P new row then overwrite new row else row
  else rows ++ [new]

/-- `run <=> other` -/
def sameRun : Option String → Option String → Bool
  | none, none => true
  | some run, some other => P.collates run other
  | _, _ => false

/-- `releaseCommit = ? AND component = ? AND workflowRunId <=> ?` -/
def sameKey (key other : Key) : Bool :=
  P.collates other.releaseCommit key.releaseCommit && other.component = key.component &&
    sameRun P other.workflowRunId key.workflowRunId

def publicEvent (event : Event) : PublicEvent where
  row := event
  detail := (JsonText.parse P.numerals event.detail).getD (.object [])

end Queries

section Alerts

def escapeHtml (text : String) : String :=
  String.join (text.toList.map fun c =>
    if c = '&' then "&amp;" else if c = '<' then "&lt;" else if c = '>' then "&gt;"
    else if c = '\'' then "&#39;" else if c = '"' then "&quot;" else String.singleton c)

def alertAdministrators (admins : List Admin) (event : Event) : List Alert :=
  let commit := if event.releaseCommit = "" then "unknown" else event.releaseCommit
  let shortCommit := String.ofList (Unicode.toChars ((Unicode.ofChars commit.toList).take 12))
  let title := event.component.text ++ " deployment " ++ String.ofList (event.status.text.toList.map Char.toLower)
  let body := "Release " ++ shortCommit ++ " reported " ++ event.status.text ++
    ". Review deployment history for details."
  let url := event.workflowUrl.filter fun url => url ≠ ""
  admins.map fun admin =>
    { userId := admin.id
      companyId := textOrNull admin.companyId
      title := title
      body := body
      mail := (textOrNull admin.email).map fun email =>
        { recipient := email
          subject := "[FieldserviceIT] " ++ title
          html := "<h2>" ++ escapeHtml title ++ "</h2><p>" ++ escapeHtml body ++ "</p>" ++
            url.elim "" fun url => "<p><a href=\"" ++ escapeHtml url ++ "\">Open workflow run</a></p>"
          text := title ++ "\n\n" ++ body ++ url.elim "" fun url => "\n" ++ url } }

end Alerts

/-- A call and the time of the database. -/
structure Request where
  dto : RecordDeploymentEventDto
  now : Int

/-- What a call returns and the alerts it gives. -/
structure Response where
  returned : Option PublicEvent
  alerts : List Alert

section Calls

variable (P : Platform) (admins : List Admin)

/-- A call that the database refuses throws, and has no response. -/
def record (history : History) (request : Request) : History × Option Response :=
  match insertedEvent P (P.uuid history.drawn) request.dto request.now with
  | none => ({ rows := history.rows, drawn := history.drawn + 1 }, none)
  | some new =>
    let rows := insertOrUpdate P new history.rows
    let found := P.first (rows.filter fun row => sameKey P request.dto.key row.key)
    ({ rows := rows, drawn := history.drawn + 1 },
      some
        { returned := found.map (publicEvent P)
          alerts := if request.dto.status.alerts then (found.map (alertAdministrators admins)).getD [] else [] })

def recordAll (history : History) (requests : List Request) : History :=
  requests.foldl (fun history request => (record P admins history request).1) history

end Calls

/-!
An event with a workflow run has one row however often it is recorded. An event without a run has a
row for every call, and a call may be answered with the row of another.
-/

section Specification

variable (P : Platform) (admins : List Admin)

/-- The event has the data of the call. A call without a start says nothing of it. -/
structure Records (request : Request) (event : Event) : Prop where
  status : event.status = request.dto.status
  source : event.source = (textOrNull request.dto.source).getD "github-actions"
  workflowUrl : event.workflowUrl = textOrNull request.dto.workflowUrl
  durationMs : event.durationMs = request.dto.durationMs
  detail : event.detail = detailText P request.dto
  startedAt : ∀ time, dateOrNull P request.dto.startedAt = some (some time) → event.startedAt = some time
  completedAt : dateOrNull P request.dto.completedAt = some event.completedAt
  updatedAt : event.updatedAt = request.now

def rowsOf (rows : List Event) (key : Key) : List Event :=
  rows.filter fun row => sameKey P key row.key

/-- One row for each key that was recorded, with the data of the latest call for it. -/
structure RecordedOnce (rows : List Event) (requests : List Request) : Prop where
  known : ∀ row ∈ rows, ∃ request ∈ requests, sameKey P request.dto.key row.key = true
  one : ∀ front request back, requests = front ++ request :: back →
    (∀ later ∈ back, sameKey P request.dto.key later.dto.key = false) →
      ∃ event, rowsOf P rows request.dto.key = [event] ∧ Records P request event

/-- The call returns the one row of its key, which has its data, and the alerts are about this row. -/
def AnswersOwn (history : History) (request : Request) : Prop :=
  ∃ event, rowsOf P (record P admins history request).1.rows request.dto.key = [event] ∧
    Records P request event ∧
    (record P admins history request).2 =
      some ⟨some (publicEvent P event),
        if request.dto.status.alerts then alertAdministrators admins event else []⟩

def EventsRecorded (requests : List Request) : Prop :=
  RecordedOnce P (recordAll P admins ⟨[], 0⟩ requests).rows requests ∧
    ∀ front request back, requests = front ++ request :: back →
      AnswersOwn P admins (recordAll P admins ⟨[], 0⟩ front) request

def isBindable (dto : RecordDeploymentEventDto) : Bool :=
  (dateOrNull P dto.startedAt).isSome && (dateOrNull P dto.completedAt).isSome &&
    (Unicode.encodeUtf8 (detailText P dto).toList).length ≤ 65535

/-- The calls are taken, and no two of them are for the same release and component without a run. -/
structure Recordable (requests : List Request) : Prop where
  bindable : ∀ request ∈ requests, isBindable P request.dto = true
  separate : requests.Pairwise fun earlier later =>
    later.dto.key.workflowRunId = none → sameKey P earlier.dto.key later.dto.key = false

end Specification

section Keys

variable {P : Platform}

theorem sameRun_refl (run : Option String) : sameRun P run run = true := by
  cases run with
  | none => rfl
  | some run => exact P.collates_refl run

theorem sameRun_symm {run other : Option String} (h : sameRun P run other = true) :
    sameRun P other run = true := by
  cases run with
  | none =>
    cases other with
    | none => rfl
    | some _ => cases h
  | some run =>
    cases other with
    | none => cases h
    | some other => exact P.collates_symm _ _ h

theorem sameRun_trans {a b c : Option String} (hab : sameRun P a b = true) (hbc : sameRun P b c = true) :
    sameRun P a c = true := by
  cases b with
  | none =>
    cases a with
    | none => exact hbc
    | some _ => cases hab
  | some b =>
    cases a with
    | none => cases hab
    | some a =>
      cases c with
      | none => cases hbc
      | some c => exact P.collates_trans _ _ _ hab hbc

theorem sameKey_iff {key other : Key} :
    sameKey P key other = true ↔ P.collates other.releaseCommit key.releaseCommit = true ∧
      other.component = key.component ∧ sameRun P other.workflowRunId key.workflowRunId = true := by
  rw [sameKey, Bool.and_eq_true, Bool.and_eq_true, decide_eq_true_eq, and_assoc]

theorem sameKey_refl (key : Key) : sameKey P key key = true :=
  sameKey_iff.mpr ⟨P.collates_refl _, rfl, sameRun_refl _⟩

theorem sameKey_symm {key other : Key} (h : sameKey P key other = true) : sameKey P other key = true := by
  obtain ⟨hcommit, hcomponent, hrun⟩ := sameKey_iff.mp h
  exact sameKey_iff.mpr ⟨P.collates_symm _ _ hcommit, hcomponent.symm, sameRun_symm hrun⟩

theorem sameKey_trans {a b c : Key} (hab : sameKey P a b = true) (hbc : sameKey P b c = true) :
    sameKey P a c = true := by
  obtain ⟨hcommit, hcomponent, hrun⟩ := sameKey_iff.mp hab
  obtain ⟨hcommit', hcomponent', hrun'⟩ := sameKey_iff.mp hbc
  exact sameKey_iff.mpr ⟨P.collates_trans _ _ _ hcommit' hcommit, hcomponent'.trans hcomponent,
    sameRun_trans hrun' hrun⟩

theorem duplicates_eq {new row : Event} (h : new.workflowRunId ≠ none) :
    duplicates P new row = sameKey P new.key row.key := by
  obtain ⟨run, hrun⟩ := Option.ne_none_iff_exists'.mp h
  rw [duplicates, sameKey, Event.key, Event.key, hrun]
  cases row.workflowRunId with
  | none => rfl
  | some _ => rfl

theorem duplicates_of_none {new row : Event} (h : new.workflowRunId = none) : duplicates P new row = false := by
  rw [duplicates, h]
  cases row.workflowRunId with
  | none => exact Bool.and_false _
  | some _ => exact Bool.and_false _

theorem sameKey_of_duplicates {new row : Event} (h : duplicates P new row = true) :
    sameKey P new.key row.key = true := by
  by_cases hrun : new.workflowRunId = none
  · rw [duplicates_of_none hrun] at h
    cases h
  · rwa [duplicates_eq hrun] at h

end Keys

section Steps

variable {P : Platform} {admins : List Admin}

def IdsDrawn (P : Platform) (history : History) : Prop :=
  ∀ row ∈ history.rows, ∃ n < history.drawn, row.id = P.uuid n

theorem insertedEvent_isSome (id : String) (request : Request) :
    (insertedEvent P id request.dto request.now).isSome = isBindable P request.dto := by
  rw [insertedEvent, isBindable]
  cases dateOrNull P request.dto.startedAt with
  | none => rfl
  | some startedAt =>
    cases dateOrNull P request.dto.completedAt with
    | none => rfl
    | some completedAt =>
      simp only [Option.bind_eq_bind, Option.bind_some, Option.isSome_some, Bool.true_and]
      split
      · rename_i h
        exact (decide_eq_true h).symm
      · rename_i h
        exact (decide_eq_false h).symm

theorem insertedEvent_key {id : String} {request : Request} {new : Event}
    (h : insertedEvent P id request.dto request.now = some new) :
    new.key = request.dto.key ∧ new.id = id ∧ Records P request new := by
  simp only [insertedEvent, Option.bind_eq_bind, Option.bind_eq_some_iff] at h
  obtain ⟨startedAt, hstarted, completedAt, hcompleted, h⟩ := h
  split at h
  · cases h
    refine ⟨rfl, rfl, rfl, rfl, rfl, rfl, rfl, fun time htime => ?_, hcompleted, rfl⟩
    exact Option.some.inj (hstarted.symm.trans htime)
  · cases h

theorem records_overwrite {request : Request} {new : Event} (h : Records P request new) (row : Event) :
    Records P request (overwrite new row) where
  status := h.status
  source := h.source
  workflowUrl := h.workflowUrl
  durationMs := h.durationMs
  detail := h.detail
  startedAt time htime := by rw [overwrite, h.startedAt time htime]; rfl
  completedAt := h.completedAt
  updatedAt := h.updatedAt

@[simp] theorem key_overwrite (new row : Event) : (overwrite new row).key = row.key := rfl

theorem key_rewritten (new row : Event) :
    (if conflicts P new row then overwrite new row else row).key = row.key := by
  split
  · exact key_overwrite new row
  · rfl

theorem conflicts_eq {history : History} (hids : IdsDrawn P history) {new row : Event}
    (hrow : row ∈ history.rows) (hid : new.id = P.uuid history.drawn) :
    conflicts P new row = duplicates P new row := by
  rw [conflicts]
  cases hcollates : P.collates row.id new.id with
  | false => rfl
  | true =>
    obtain ⟨n, hn, hrowId⟩ := hids row hrow
    rw [hrowId, hid] at hcollates
    have heq := P.uuid_fresh _ _ hcollates
    omega

variable (admins) in
theorem record_of_bindable (history : History) {request : Request} (h : isBindable P request.dto = true) :
    ∃ new, new.key = request.dto.key ∧ new.id = P.uuid history.drawn ∧ Records P request new ∧
      (record P admins history request).1 = ⟨insertOrUpdate P new history.rows, history.drawn + 1⟩ ∧
      (record P admins history request).2 =
        some ⟨(P.first (rowsOf P (insertOrUpdate P new history.rows) request.dto.key)).map (publicEvent P),
          if request.dto.status.alerts then
            ((P.first (rowsOf P (insertOrUpdate P new history.rows) request.dto.key)).map
              (alertAdministrators admins)).getD []
          else []⟩ := by
  rw [← insertedEvent_isSome (P.uuid history.drawn) request, Option.isSome_iff_exists] at h
  obtain ⟨new, hnew⟩ := h
  obtain ⟨hkey, hid, hrecords⟩ := insertedEvent_key hnew
  refine ⟨new, hkey, hid, hrecords, ?_, ?_⟩
  · rw [record, hnew]
  · rw [record, hnew]
    rfl

theorem idsDrawn_insertOrUpdate {history : History} (hids : IdsDrawn P history) {new : Event}
    (hid : new.id = P.uuid history.drawn) :
    IdsDrawn P ⟨insertOrUpdate P new history.rows, history.drawn + 1⟩ := by
  intro row hrow
  rw [insertOrUpdate] at hrow
  split at hrow
  · obtain ⟨old, hold, rfl⟩ := List.mem_map.mp hrow
    obtain ⟨n, hn, holdId⟩ := hids old hold
    refine ⟨n, Nat.lt_succ_of_lt hn, ?_⟩
    split
    · exact holdId
    · exact holdId
  · cases List.mem_append.mp hrow with
    | inl hold =>
      obtain ⟨n, hn, holdId⟩ := hids row hold
      exact ⟨n, Nat.lt_succ_of_lt hn, holdId⟩
    | inr hnew =>
      rw [List.mem_singleton.mp hnew]
      exact ⟨history.drawn, Nat.lt_succ_self _, hid⟩

theorem idsDrawn_record {history : History} (hids : IdsDrawn P history) (request : Request) :
    IdsDrawn P (record P admins history request).1 := by
  cases hbindable : isBindable P request.dto with
  | false =>
    have hnone : insertedEvent P (P.uuid history.drawn) request.dto request.now = none := by
      rw [← Option.isNone_iff_eq_none, ← Option.not_isSome, insertedEvent_isSome, hbindable]
      rfl
    rw [record, hnone]
    intro row hrow
    obtain ⟨n, hn, hid⟩ := hids row hrow
    exact ⟨n, Nat.lt_succ_of_lt hn, hid⟩
  | true =>
    obtain ⟨new, _, hid, _, hhistory, _⟩ := record_of_bindable admins history hbindable
    rw [hhistory]
    exact idsDrawn_insertOrUpdate hids hid

theorem recordAll_append (history : History) (requests : List Request) (request : Request) :
    recordAll P admins history (requests ++ [request]) =
      (record P admins (recordAll P admins history requests) request).1 := by
  rw [recordAll, List.foldl_append]
  rfl

theorem idsDrawn_recordAll (requests : List Request) : IdsDrawn P (recordAll P admins ⟨[], 0⟩ requests) := by
  induction requests using List.reverseRecOn with
  | nil =>
    intro row hrow
    cases hrow
  | append_singleton requests request ih =>
    rw [recordAll_append]
    exact idsDrawn_record ih request

theorem rowsOf_insert {history : History} (hids : IdsDrawn P history) {new : Event}
    (hid : new.id = P.uuid history.drawn) (hnone : rowsOf P history.rows new.key = []) :
    insertOrUpdate P new history.rows = history.rows ++ [new] ∧
      rowsOf P (insertOrUpdate P new history.rows) new.key = [new] := by
  have hconflicts : ¬ history.rows.any (conflicts P new) = true := by
    rw [List.any_eq_true]
    rintro ⟨row, hrow, hconflict⟩
    rw [conflicts_eq hids hrow hid] at hconflict
    exact List.filter_eq_nil_iff.mp hnone row hrow (sameKey_of_duplicates hconflict)
  have hrows : insertOrUpdate P new history.rows = history.rows ++ [new] := by
    rw [insertOrUpdate, if_neg hconflicts]
  refine ⟨hrows, ?_⟩
  rw [hrows, rowsOf, List.filter_append, ← rowsOf, hnone, List.filter_singleton, sameKey_refl]
  rfl

theorem rowsOf_overwrite {history : History} (hids : IdsDrawn P history) {new row : Event}
    (hid : new.id = P.uuid history.drawn) (hrun : new.workflowRunId ≠ none)
    (hrow : rowsOf P history.rows new.key = [row]) :
    insertOrUpdate P new history.rows =
      history.rows.map fun row => if sameKey P new.key row.key then overwrite new row else row := by
  have hmem : row ∈ history.rows ∧ sameKey P new.key row.key = true :=
    List.mem_filter.mp (show row ∈ rowsOf P history.rows new.key from hrow ▸ List.mem_cons_self)
  have hany : history.rows.any (conflicts P new) = true := by
    rw [List.any_eq_true]
    refine ⟨row, hmem.1, ?_⟩
    rw [conflicts_eq hids hmem.1 hid, duplicates_eq hrun]
    exact hmem.2
  rw [insertOrUpdate, if_pos hany]
  refine List.map_congr_left fun other hother => ?_
  rw [conflicts_eq hids hother hid, duplicates_eq hrun]

theorem keys_insertOrUpdate (new : Event) (rows : List Event) :
    (insertOrUpdate P new rows).map Event.key = rows.map Event.key ∨
      (insertOrUpdate P new rows).map Event.key = rows.map Event.key ++ [new.key] := by
  rw [insertOrUpdate]
  split
  · refine .inl ?_
    rw [List.map_map]
    exact List.map_congr_left fun row _ => key_rewritten new row
  · exact .inr (List.map_append ..)

theorem key_of_mem_insertOrUpdate {new row : Event} {rows : List Event} (h : row ∈ insertOrUpdate P new rows) :
    row.key = new.key ∨ ∃ old ∈ rows, old.key = row.key := by
  have hkey : row.key ∈ (insertOrUpdate P new rows).map Event.key := List.mem_map_of_mem h
  cases keys_insertOrUpdate (P := P) new rows with
  | inl hkeys =>
    rw [hkeys] at hkey
    obtain ⟨old, hold, heq⟩ := List.mem_map.mp hkey
    exact .inr ⟨old, hold, heq⟩
  | inr hkeys =>
    rw [hkeys, List.mem_append, List.mem_singleton] at hkey
    cases hkey with
    | inl hold =>
      obtain ⟨old, hold, heq⟩ := List.mem_map.mp hold
      exact .inr ⟨old, hold, heq⟩
    | inr hnew => exact .inl hnew

theorem insertOrUpdate_cases {history : History} (hids : IdsDrawn P history) {new : Event}
    (hid : new.id = P.uuid history.drawn)
    (hrows : rowsOf P history.rows new.key = [] ∨
      new.workflowRunId ≠ none ∧ ∃ row, rowsOf P history.rows new.key = [row]) :
    (rowsOf P (insertOrUpdate P new history.rows) new.key = [new] ∨
      ∃ row, rowsOf P (insertOrUpdate P new history.rows) new.key = [overwrite new row]) ∧
    ∀ key, sameKey P key new.key = false →
      rowsOf P (insertOrUpdate P new history.rows) key = rowsOf P history.rows key := by
  cases hrows with
  | inl hnone =>
    obtain ⟨hinsert, hnew⟩ := rowsOf_insert hids hid hnone
    refine ⟨.inl hnew, fun key hkey => ?_⟩
    rw [hinsert, rowsOf, List.filter_append, List.filter_singleton, hkey]
    exact List.append_nil _
  | inr hone =>
    obtain ⟨hrun, row, hrow⟩ := hone
    have hfilter (key : Key) : rowsOf P (insertOrUpdate P new history.rows) key =
        (rowsOf P history.rows key).map fun row => if sameKey P new.key row.key then overwrite new row else row := by
      rw [rowsOf_overwrite hids hid hrun hrow, rowsOf, List.filter_map, rowsOf]
      refine congrArg _ (List.filter_congr fun other _ => congrArg (sameKey P key) ?_)
      beta_reduce
      split
      · exact key_overwrite new other
      · rfl
    constructor
    · refine .inr ⟨row, ?_⟩
      have hsame : sameKey P new.key row.key = true :=
        (List.mem_filter.mp (show row ∈ rowsOf P history.rows new.key from hrow ▸ List.mem_cons_self)).2
      rw [hfilter, hrow, List.map_singleton, if_pos hsame]
    · intro key hkey
      rw [hfilter]
      refine (List.map_congr_left fun other hother => if_neg fun hnew => ?_).trans (List.map_id _)
      have hother := (List.mem_filter.mp hother).2
      rw [sameKey_trans hother (sameKey_symm hnew)] at hkey
      cases hkey

end Steps

section Runs

variable {P : Platform} {admins : List Admin}

theorem exists_last {α : Type} {list : List α} {p : α → Bool} (h : ∃ a ∈ list, p a = true) :
    ∃ front a back, list = front ++ a :: back ∧ p a = true ∧ ∀ b ∈ back, p b = false := by
  induction list using List.reverseRecOn with
  | nil =>
    obtain ⟨a, ha, _⟩ := h
    cases ha
  | append_singleton list last ih =>
    cases hlast : p last with
    | true => exact ⟨list, last, [], rfl, hlast, fun b hb => by cases hb⟩
    | false =>
      obtain ⟨a, ha, hpa⟩ := h
      have hlist : a ∈ list := by
        cases List.mem_append.mp ha with
        | inl hlist => exact hlist
        | inr hsingle =>
          rw [List.mem_singleton.mp hsingle, hlast] at hpa
          cases hpa
      obtain ⟨front, b, back, hsplit, hb, hback⟩ := ih ⟨a, hlist, hpa⟩
      refine ⟨front, b, back ++ [last], ?_, hb, ?_⟩
      · rw [hsplit, List.append_assoc]
        rfl
      · intro c hc
        cases List.mem_append.mp hc with
        | inl hc => exact hback c hc
        | inr hc => rw [List.mem_singleton.mp hc]; exact hlast

theorem rowsOf_before {history : History} {requests : List Request} (hrecorded : RecordedOnce P history.rows requests)
    {request : Request} (hseparate : request.dto.key.workflowRunId = none →
      ∀ earlier ∈ requests, sameKey P earlier.dto.key request.dto.key = false) :
    rowsOf P history.rows request.dto.key = [] ∨
      request.dto.key.workflowRunId ≠ none ∧ ∃ row, rowsOf P history.rows request.dto.key = [row] := by
  by_cases hearlier : ∃ earlier ∈ requests, sameKey P request.dto.key earlier.dto.key = true
  · obtain ⟨front, latest, back, hsplit, hsame, hback⟩ := exists_last hearlier
    refine .inr ⟨fun hrun => ?_, ?_⟩
    · have hdifferent := hseparate hrun latest (hsplit ▸ List.mem_append_right _ List.mem_cons_self)
      rw [sameKey_symm hsame] at hdifferent
      cases hdifferent
    · have hlater : ∀ later ∈ back, sameKey P latest.dto.key later.dto.key = false := by
        intro later hlater
        cases hsameLater : sameKey P latest.dto.key later.dto.key with
        | false => rfl
        | true =>
          have h := hback later hlater
          rw [sameKey_trans hsame hsameLater] at h
          cases h
      obtain ⟨event, hevent, _⟩ := hrecorded.one front latest back hsplit hlater
      refine ⟨event, hevent ▸ List.filter_congr fun row _ => ?_⟩
      rw [Bool.eq_iff_iff]
      exact ⟨fun h => sameKey_trans (sameKey_symm hsame) h, fun h => sameKey_trans hsame h⟩
  · refine .inl (List.filter_eq_nil_iff.mpr fun row hrow hmatches => hearlier ?_)
    obtain ⟨earlier, hmem, hknown⟩ := hrecorded.known row hrow
    exact ⟨earlier, hmem, sameKey_trans hmatches (sameKey_symm hknown)⟩

variable (admins) in
theorem recorded_step {history : History} (hids : IdsDrawn P history) {requests : List Request}
    (hrecorded : RecordedOnce P history.rows requests) {request : Request}
    (hbindable : isBindable P request.dto = true)
    (hseparate : request.dto.key.workflowRunId = none →
      ∀ earlier ∈ requests, sameKey P earlier.dto.key request.dto.key = false) :
    AnswersOwn P admins history request ∧
      RecordedOnce P (record P admins history request).1.rows (requests ++ [request]) := by
  obtain ⟨new, hkey, hid, hrecords, hhistory, hresponse⟩ :=
    record_of_bindable admins history hbindable
  have hbefore := rowsOf_before hrecorded hseparate
  rw [← hkey] at hbefore
  obtain ⟨hown, hothers⟩ := insertOrUpdate_cases hids hid hbefore
  rw [hkey] at hown
  have hevent : ∃ event, rowsOf P (insertOrUpdate P new history.rows) request.dto.key = [event] ∧
      Records P request event := by
    cases hown with
    | inl hnew => exact ⟨new, hnew, hrecords⟩
    | inr hover =>
      obtain ⟨row, hrow⟩ := hover
      exact ⟨overwrite new row, hrow, records_overwrite hrecords row⟩
  obtain ⟨event, hrows, hdata⟩ := hevent
  constructor
  · refine ⟨event, by rw [hhistory]; exact hrows, hdata, ?_⟩
    have hfirst : P.first [event] = some event := by
      obtain ⟨found, hfound⟩ := Option.isSome_iff_exists.mp (P.first_isSome [event] (List.cons_ne_nil _ _))
      rw [hfound, List.mem_singleton.mp (P.first_mem _ _ hfound)]
    rw [hresponse, hrows, hfirst]
    rfl
  · rw [hhistory]
    constructor
    · intro row hrow
      cases key_of_mem_insertOrUpdate hrow with
      | inl hnew =>
        refine ⟨request, List.mem_append_right _ List.mem_cons_self, ?_⟩
        rw [hnew, hkey]
        exact sameKey_refl _
      | inr hold =>
        obtain ⟨old, hold, heq⟩ := hold
        obtain ⟨earlier, hearlier, hsame⟩ := hrecorded.known old hold
        exact ⟨earlier, List.mem_append_left _ hearlier, heq ▸ hsame⟩
    · intro front latest back hsplit hlater
      obtain rfl | ⟨back, last, rfl⟩ := List.eq_nil_or_concat' back
      · obtain ⟨_, hlast⟩ := List.append_inj' hsplit rfl
        cases hlast
        exact ⟨event, hrows, hdata⟩
      · rw [← List.cons_append, ← List.append_assoc] at hsplit
        obtain ⟨hfront, hlast⟩ := List.append_inj' hsplit rfl
        cases hlast
        obtain ⟨found, hfound, hfoundData⟩ := hrecorded.one front latest back hfront fun later h =>
          hlater later (List.mem_append_left _ h)
        refine ⟨found, ?_, hfoundData⟩
        rw [hothers _ (hkey ▸ hlater request (List.mem_append_right _ List.mem_cons_self))]
        exact hfound

theorem separate_append {requests : List Request} {request : Request} (h : Recordable P (requests ++ [request])) :
    Recordable P requests ∧ isBindable P request.dto = true ∧
      (request.dto.key.workflowRunId = none →
        ∀ earlier ∈ requests, sameKey P earlier.dto.key request.dto.key = false) := by
  obtain ⟨hpairs, _, hlast⟩ := List.pairwise_append.mp h.separate
  refine ⟨⟨fun earlier hearlier => h.bindable earlier (List.mem_append_left _ hearlier), hpairs⟩,
    h.bindable request (List.mem_append_right _ List.mem_cons_self), fun hrun earlier hearlier => ?_⟩
  exact hlast earlier hearlier request List.mem_cons_self hrun

theorem eventsRecorded_of_recordable {requests : List Request} (h : Recordable P requests) :
    EventsRecorded P admins requests := by
  induction requests using List.reverseRecOn with
  | nil =>
    refine ⟨⟨fun row hrow => (by cases hrow), fun front request back hsplit => ?_⟩,
      fun front request back hsplit => ?_⟩
    · cases front <;> cases hsplit
    · cases front <;> cases hsplit
  | append_singleton requests request ih =>
    obtain ⟨hbefore, hbindable, hseparate⟩ := separate_append h
    obtain ⟨hrecorded, hanswers⟩ := ih hbefore
    obtain ⟨hown, hstep⟩ := recorded_step admins (idsDrawn_recordAll requests) hrecorded hbindable hseparate
    refine ⟨by rw [recordAll_append]; exact hstep, fun front latest back hsplit => ?_⟩
    obtain rfl | ⟨back, last, rfl⟩ := List.eq_nil_or_concat' back
    · obtain ⟨hfront, hlast⟩ := List.append_inj' hsplit rfl
      cases hlast
      rw [← hfront]
      exact hown
    · rw [← List.cons_append, ← List.append_assoc] at hsplit
      exact hanswers front latest back (List.append_inj' hsplit rfl).1

theorem isBindable_of_answersOwn {history : History} {request : Request} (h : AnswersOwn P admins history request) :
    isBindable P request.dto = true := by
  obtain ⟨_, _, _, hresponse⟩ := h
  cases hnew : insertedEvent P (P.uuid history.drawn) request.dto request.now with
  | none =>
    rw [record, hnew] at hresponse
    cases hresponse
  | some _ => rw [← insertedEvent_isSome (P.uuid history.drawn), hnew]; rfl

variable (admins) in
theorem exists_record {history : History} {row : Event} (hrow : row ∈ history.rows) (request : Request) :
    ∃ kept ∈ (record P admins history request).1.rows, kept.key = row.key := by
  cases hbindable : isBindable P request.dto with
  | false =>
    have hnone : insertedEvent P (P.uuid history.drawn) request.dto request.now = none := by
      rw [← Option.isNone_iff_eq_none, ← Option.not_isSome, insertedEvent_isSome, hbindable]
      rfl
    refine ⟨row, ?_, rfl⟩
    rw [record, hnone]
    exact hrow
  | true =>
    obtain ⟨new, _, _, _, hhistory, _⟩ := record_of_bindable admins history hbindable
    rw [hhistory]
    have hkey : row.key ∈ history.rows.map Event.key := List.mem_map_of_mem hrow
    refine List.mem_map.mp (?_ : row.key ∈ (insertOrUpdate P new history.rows).map Event.key)
    cases keys_insertOrUpdate (P := P) new history.rows with
    | inl hkeys => rwa [hkeys]
    | inr hkeys => rw [hkeys]; exact List.mem_append_left _ hkey

theorem exists_row_of_answered {requests : List Request}
    (hanswers : ∀ front request back, requests = front ++ request :: back →
      AnswersOwn P admins (recordAll P admins ⟨[], 0⟩ front) request)
    {request : Request} (hrequest : request ∈ requests) :
    ∃ row ∈ (recordAll P admins ⟨[], 0⟩ requests).rows, sameKey P request.dto.key row.key = true := by
  induction requests using List.reverseRecOn with
  | nil => cases hrequest
  | append_singleton requests last ih =>
    rw [recordAll_append]
    cases List.mem_append.mp hrequest with
    | inl hearlier =>
      obtain ⟨row, hrow, hsame⟩ := ih (fun front request back hsplit =>
        hanswers front request (back ++ [last]) (by rw [hsplit, List.append_assoc]; rfl)) hearlier
      obtain ⟨kept, hkept, hkey⟩ := exists_record admins hrow last
      exact ⟨kept, hkept, hkey ▸ hsame⟩
    | inr hlast =>
      rw [List.mem_singleton.mp hlast]
      obtain ⟨event, hevent, _⟩ := hanswers requests last [] rfl
      exact ⟨event, List.mem_filter.mp (show event ∈ rowsOf P _ _ from hevent ▸ List.mem_cons_self)⟩

theorem no_row_before {history : History} (hids : IdsDrawn P history) {request : Request}
    (hrun : request.dto.key.workflowRunId = none) (hown : AnswersOwn P admins history request) :
    rowsOf P history.rows request.dto.key = [] := by
  obtain ⟨new, hkey, hid, _, hhistory, _⟩ :=
    record_of_bindable admins history (isBindable_of_answersOwn hown)
  obtain ⟨event, hevent, _⟩ := hown
  have hnewRun : new.workflowRunId = none := (congrArg Key.workflowRunId hkey).trans hrun
  have hconflicts : ¬ history.rows.any (conflicts P new) = true := by
    rw [List.any_eq_true]
    rintro ⟨row, hrow, hconflict⟩
    rw [conflicts_eq hids hrow hid, duplicates_of_none hnewRun] at hconflict
    cases hconflict
  rw [hhistory, insertOrUpdate, if_neg hconflicts, rowsOf, List.filter_append, ← rowsOf,
    List.filter_singleton, hkey, sameKey_refl] at hevent
  have hlength := congrArg List.length hevent
  rw [List.length_append] at hlength
  exact List.length_eq_zero_iff.mp (Nat.succ.inj hlength)

theorem recordable_of_answers {requests : List Request}
    (hanswers : ∀ front request back, requests = front ++ request :: back →
      AnswersOwn P admins (recordAll P admins ⟨[], 0⟩ front) request) : Recordable P requests := by
  induction requests using List.reverseRecOn with
  | nil => exact ⟨fun request hrequest => (by cases hrequest), List.Pairwise.nil⟩
  | append_singleton requests last ih =>
    have hbefore : ∀ front request back, requests = front ++ request :: back →
        AnswersOwn P admins (recordAll P admins ⟨[], 0⟩ front) request := fun front request back hsplit =>
      hanswers front request (back ++ [last]) (by rw [hsplit, List.append_assoc]; rfl)
    have hlast := hanswers requests last [] rfl
    constructor
    · intro request hrequest
      cases List.mem_append.mp hrequest with
      | inl hearlier => exact (ih hbefore).bindable request hearlier
      | inr hsingle => rw [List.mem_singleton.mp hsingle]; exact isBindable_of_answersOwn hlast
    · refine List.pairwise_append.mpr ⟨(ih hbefore).separate, List.pairwise_singleton .., ?_⟩
      intro earlier hearlier later hlater hrun
      obtain rfl := List.mem_singleton.mp hlater
      cases hsame : sameKey P earlier.dto.key later.dto.key with
      | false => rfl
      | true =>
        obtain ⟨row, hrow, hkept⟩ := exists_row_of_answered hbefore hearlier
        have hnone := no_row_before (idsDrawn_recordAll requests) hrun hlast
        exact absurd (sameKey_trans (sameKey_symm hsame) hkept) (List.filter_eq_nil_iff.mp hnone row hrow)

end Runs

/-- Every event has one row with the data of its latest call, and every call is answered with the
event that it recorded, if and only if the calls are taken and no two of them are for the same
release and component without a run. -/
theorem eventsRecorded_iff (P : Platform) (admins : List Admin) (requests : List Request) :
    EventsRecorded P admins requests ↔ Recordable P requests :=
  ⟨fun h => recordable_of_answers h.2, eventsRecorded_of_recordable⟩

def zeros (n : Nat) : String :=
  String.ofList (List.replicate n '0')

theorem exactly_refl (a : String) : decide (a = a) = true :=
  decide_eq_true rfl

theorem exactly_symm (a b : String) (h : decide (a = b) = true) : decide (b = a) = true :=
  decide_eq_true (of_decide_eq_true h).symm

theorem exactly_trans (a b c : String) (h : decide (a = b) = true) (h' : decide (b = c) = true) :
    decide (a = c) = true :=
  decide_eq_true ((of_decide_eq_true h).trans (of_decide_eq_true h'))

theorem zeros_inj (m n : Nat) (h : decide (zeros m = zeros n) = true) : m = n := by
  have hlists := congrArg (fun text => text.toList.length) (of_decide_eq_true h)
  simpa only [zeros, String.toList_ofList, List.length_replicate] using hlists

theorem mem_of_first (rows : List Event) (event : Event) (h : rows.head? = some event) : event ∈ rows :=
  List.mem_of_mem_head? h

theorem isSome_first (rows : List Event) (h : rows ≠ []) : rows.head?.isSome = true := by
  rwa [List.isSome_head?]

/-- A database that compares texts exactly and reads the oldest row first. -/
def samplePlatform : Platform where
  collates a b := decide (a = b)
  collates_refl := exactly_refl
  collates_symm := exactly_symm
  collates_trans := exactly_trans
  uuid := zeros
  uuid_fresh := zeros_inj
  numerals := JsonText.countedNumerals
  date _ := none
  first := List.head?
  first_mem := mem_of_first
  first_isSome := isSome_first

def callWithoutRun (status : Status) (now : Int) : Request where
  dto :=
    { releaseCommit := "4f2a9c1"
      component := .backend
      status := status
      source := none
      workflowRunId := none
      workflowUrl := none
      durationMs := none
      detail := none
      startedAt := none
      completedAt := none }
  now := now

theorem two_calls_without_run :
    ¬ EventsRecorded samplePlatform [] [callWithoutRun .started 0, callWithoutRun .failed 1] := by
  intro h
  have hseparate := (List.pairwise_cons.mp (recordable_of_answers h.2).separate).1 _ List.mem_cons_self rfl
  have hsame : sameKey samplePlatform (callWithoutRun .started 0).dto.key (callWithoutRun .failed 1).dto.key = true :=
    sameKey_refl _
  rw [hsame] at hseparate
  cases hseparate

end FieldserviceIT.Deployments
