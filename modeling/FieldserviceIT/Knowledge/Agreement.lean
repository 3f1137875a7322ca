import FieldserviceIT.Knowledge.Articles
import FieldserviceIT.Lib.Histories

/-!
Two stores that agree on all that is not another company's. The stored articles of a company stay in
agreement through every request, and an answer is made of the articles it shows, completed by the
tickets and users they name.
-/

namespace FieldserviceIT.Knowledge

open Common Lib

section Law

variable (P : KnowledgePlatform) (user : CurrentUser) (c : String)

def isLocal (companyId : Option String) : Bool :=
  companyId.all (· = c)

/-- The stores differ in the tickets, the users and the articles of other companies, in their
companies' rows and in what has happened to their tickets. -/
structure AgreesFor (s s' : KnowledgeStore) : Prop where
  articles : s'.articles.rows.filter (fun row => row.companyId = c) =
    s.articles.rows.filter fun row => row.companyId = c
  drawn : s'.articles.drawn = s.articles.drawn
  company : s'.companies.find? (fun row => row.id = c) = s.companies.find? fun row => row.id = c
  users : s'.users.filter (fun row => isLocal c row.companyId) =
    s.users.filter fun row => isLocal c row.companyId
  tickets : s'.tickets.filter (fun row => isLocal c row.companyId) =
    s.tickets.filter fun row => isLocal c row.companyId
  timeline : ∀ ticket ∈ s.tickets, ticket.companyId = some c →
    s'.timeline.filter (fun entry => entry.ticketId = ticket.id) =
      s.timeline.filter fun entry => entry.ticketId = ticket.id

/-- Requests, each with the moment it is made. -/
abbrev Requests := List (Nat × KnowledgeRequest)

def after (request : Nat × KnowledgeRequest) (s : KnowledgeStore) : KnowledgeStore :=
  (request.2.respond P user request.1 s).1

def answers (s : KnowledgeStore) : Requests → List (Checked Answer)
  | [] => []
  | request :: requests =>
    (request.2.respond P user request.1 s).2 :: answers (after P user request s) requests

def Answer.views : Answer → List ArticleView
  | articles views => views
  | article view => [view]
  | success => []

def ArticleView.IsOwn (s : KnowledgeStore) (view : ArticleView) : Prop :=
  (∀ ticket ∈ s.tickets, view.row.sourceTicketId = some ticket.id →
    isLocal c ticket.companyId = true) ∧
  ∀ owner ∈ s.users, view.row.ownerId = some owner.id → isLocal c owner.companyId = true

structure NonInterfering (s : KnowledgeStore) (requests : Requests) : Prop where
  unaffected : ∀ s', AgreesFor c s s' → answers P user s' requests = answers P user s requests
  own : ∀ answer, .ok answer ∈ answers P user s requests → ∀ view ∈ answer.views, view.IsOwn c s

/-- What the article names is there, and is not of another company. -/
structure RefersLocally (s : KnowledgeStore) (row : KbArticle) : Prop where
  owner : ∀ id, row.ownerId = some id →
    ∃ owner ∈ s.users, owner.id = id ∧ isLocal c owner.companyId = true
  ticket : ∀ id, row.sourceTicketId = some id →
    ∃ ticket ∈ s.tickets, ticket.id = id ∧ isLocal c ticket.companyId = true

/-- The articles that a request shows: the ones it selects, or the one it is about as it has
written it. -/
def KnowledgeRequest.shown (now : Nat) (s : KnowledgeStore) :
    KnowledgeRequest → Checked (List KbArticle)
  | findAll query => selected P user query s
  | findOne id => (getArticle user id s).map fun row => [row]
  | create dto =>
    (draft P user dto (requestedCompany P dto) now s.articles.drawn).map fun row => [row]
  | update id dto =>
    (revision P user id dto s).map fun found => [found.1.revised user found.2 now]
  | remove id => (getArticle user id s).map fun _ => []
  | createFromTicket ticketId => (draftFromTicket P user ticketId now s).map fun row => [row]

def ShowsLocally (request : Nat × KnowledgeRequest) (s : KnowledgeStore) : Prop :=
  ∀ rows, request.2.shown P user request.1 s = .ok rows → ∀ row ∈ rows, RefersLocally c s row

end Law

section Joins

variable {P : KnowledgePlatform} {c : String} {s s' : KnowledgeStore}

theorem filter_eq_of_filter {ρ : Type} {p q : ρ → Bool} {rows rows' : List ρ}
    (h : rows'.filter p = rows.filter p) (hq : ∀ row, q row = true → p row = true) :
    rows'.filter q = rows.filter q := by
  have hboth : (fun row => q row && p row) = q := by
    funext row
    cases hrow : q row with
    | false => rfl
    | true => rw [hq row hrow, Bool.and_self]
  calc rows'.filter q = (rows'.filter p).filter q := by rw [List.filter_filter, hboth]
    _ = (rows.filter p).filter q := by rw [h]
    _ = rows.filter q := by rw [List.filter_filter, hboth]

theorem find_eq_of_filter {ρ : Type} {p q : ρ → Bool} {rows rows' : List ρ}
    (h : rows'.filter p = rows.filter p) (hq : ∀ row, q row = true → p row = true) :
    rows'.find? q = rows.find? q := by
  rw [← List.head?_filter, ← List.head?_filter, filter_eq_of_filter h hq]

theorem find_key_congr {ρ : Type} {key : ρ → String} {p : ρ → Bool} {rows rows' : List ρ}
    (hdistinct : Distinct key rows) (hdistinct' : Distinct key rows')
    (h : rows'.filter p = rows.filter p) {row : ρ} (hrow : row ∈ rows) (hp : p row = true) :
    rows'.find? (fun other => key other = key row) =
      rows.find? fun other => key other = key row := by
  have hrow' : row ∈ rows' := by
    have hmem : row ∈ rows'.filter p := h ▸ List.mem_filter.mpr ⟨hrow, hp⟩
    exact (List.mem_filter.mp hmem).1
  rw [hdistinct.find_key hrow, hdistinct'.find_key hrow']

theorem mapArticle_congr {row : KbArticle} (howner : ownerOf s' row = ownerOf s row)
    (hticket : sourceTicketOf s' row = sourceTicketOf s row)
    (hcompany : companyOf s' row = companyOf s row) : mapArticle P s' row = mapArticle P s row := by
  simp only [mapArticle, howner, hticket, hcompany]

theorem AgreesFor.companyOf (h : AgreesFor c s s') {row : KbArticle} (hrow : row.companyId = c) :
    companyOf s' row = companyOf s row := by
  subst hrow
  exact h.company

theorem AgreesFor.mapArticle (h : AgreesFor c s s') {row : KbArticle} (hrow : row.companyId = c)
    (hlocal : RefersLocally c s row) : mapArticle P s' row = mapArticle P s row := by
  refine mapArticle_congr ?_ ?_ (h.companyOf hrow)
  · unfold ownerOf
    cases howner : row.ownerId with
    | none => rfl
    | some id =>
      obtain ⟨owner, hmem, rfl, hown⟩ := hlocal.owner id howner
      exact find_key_congr s.users_distinct s'.users_distinct h.users hmem hown
  · unfold sourceTicketOf
    cases hticket : row.sourceTicketId with
    | none => rfl
    | some id =>
      obtain ⟨ticket, hmem, rfl, hown⟩ := hlocal.ticket id hticket
      exact find_key_congr s.tickets_distinct s'.tickets_distinct h.tickets hmem hown

end Joins

section Stored

variable {P : KnowledgePlatform} {user : CurrentUser} {c : String} {s s' : KnowledgeStore}

theorem scopeFor_eq (hc : user.companyId = some c) (hne : c ≠ "") :
    scopeFor user = .ok (some c) := by
  rw [scopeFor, hc, if_pos]
  exact decide_eq_true hne

theorem resolveWriteCompany_eq (hc : user.companyId = some c) (hne : c ≠ "")
    (requested : Option String) : resolveWriteCompany user requested = .ok c := by
  rw [resolveWriteCompany, hc, if_pos]
  · rfl
  · exact decide_eq_true hne

theorem eq_some_of_orNotFound {α : Type} {message : String} {row : Option α} {value : α}
    (h : orNotFound message row = .ok value) : row = some value := by
  cases row with
  | none => cases h
  | some other => rw [Except.ok.inj h]

theorem getArticle_eq (hc : user.companyId = some c) (hne : c ≠ "") (id : Nat) :
    getArticle user id s = orNotFound "Knowledge article not found"
      (s.articles.rows.find? fun row => decide (row.id = id) && decide (c = row.companyId)) := by
  rw [getArticle, scopeFor_eq hc hne]
  rfl

theorem company_of_getArticle (hc : user.companyId = some c) (hne : c ≠ "") {id : Nat}
    {row : KbArticle} (h : getArticle user id s = .ok row) :
    row ∈ s.articles.rows ∧ row.id = id ∧ row.companyId = c := by
  rw [getArticle_eq hc hne] at h
  have hfound := eq_some_of_orNotFound h
  have hrow := List.find?_some hfound
  rw [Bool.and_eq_true, decide_eq_true_iff, decide_eq_true_iff] at hrow
  exact ⟨List.mem_of_find?_eq_some hfound, hrow.1, hrow.2.symm⟩

theorem AgreesFor.getArticle (h : AgreesFor c s s') (hc : user.companyId = some c) (hne : c ≠ "")
    (id : Nat) : getArticle user id s' = getArticle user id s := by
  rw [getArticle_eq hc hne, getArticle_eq hc hne, find_eq_of_filter h.articles]
  intro row hrow
  rw [Bool.and_eq_true] at hrow
  exact decide_eq_true (of_decide_eq_true hrow.2).symm

theorem selected_spec (hc : user.companyId = some c) (hne : c ≠ "") (query : ArticleQuery) :
    ∃ (clause : KbArticle → Bool) (rest : List KbArticle → Checked (List KbArticle)),
      (∀ s, selected P user query s =
        rest (s.articles.rows.filter fun row => decide (c = row.companyId) && clause row)) ∧
      ∀ rows result, rest rows = .ok result → ∀ row ∈ result, row ∈ rows := by
  cases hstatus : optionClause P query.status statuses "status" with
  | error refusal =>
    refine ⟨fun _ => true, fun _ => .error refusal, fun s => ?_, fun _ _ h => by cases h⟩
    rw [selected, scopeFor_eq hc hne, hstatus]
    rfl
  | ok status =>
    cases hvisibility : optionClause P query.visibility visibilities "visibility" with
    | error refusal =>
      refine ⟨fun _ => true, fun _ => .error refusal, fun s => ?_, fun _ _ h => by cases h⟩
      rw [selected, scopeFor_eq hc hne, hstatus, hvisibility]
      rfl
    | ok visibility =>
      cases hlimit : P.limit query.limit with
      | none =>
        refine ⟨fun _ => true, fun _ => .error .failure, fun s => ?_, fun _ _ h => by cases h⟩
        rw [selected, scopeFor_eq hc hne, hstatus, hvisibility, hlimit]
        rfl
      | some limit =>
        refine ⟨queried P query status visibility,
          fun rows => .ok ((rows.mergeSort newerFirst).take limit), fun s => ?_, ?_⟩
        · rw [selected, scopeFor_eq hc hne, hstatus, hvisibility, hlimit]
          rfl
        · intro rows result h row hrow
          obtain rfl := Except.ok.inj h
          exact List.mem_mergeSort.mp (List.mem_of_mem_take hrow)

theorem AgreesFor.selected (h : AgreesFor c s s') (hc : user.companyId = some c) (hne : c ≠ "")
    (query : ArticleQuery) : selected P user query s' = selected P user query s := by
  obtain ⟨clause, rest, hselected, -⟩ := selected_spec (P := P) hc hne query
  rw [hselected, hselected, filter_eq_of_filter h.articles]
  intro row hrow
  rw [Bool.and_eq_true] at hrow
  exact decide_eq_true (of_decide_eq_true hrow.1).symm

theorem company_of_selected (hc : user.companyId = some c) (hne : c ≠ "") {query : ArticleQuery}
    {rows : List KbArticle} (h : selected P user query s = .ok rows) :
    ∀ row ∈ rows, row.companyId = c := by
  obtain ⟨clause, rest, hselected, hrest⟩ := selected_spec (P := P) hc hne query
  rw [hselected] at h
  intro row hrow
  have hmem := (List.mem_filter.mp (hrest _ _ h row hrow)).2
  rw [Bool.and_eq_true] at hmem
  exact (of_decide_eq_true hmem.1).symm

theorem findTicket_eq (hc : user.companyId = some c) (hne : c ≠ "") (ticketId : String) :
    findTicket user ticketId s = orNotFound "Ticket not found" (s.tickets.find? fun row =>
      decide (row.id = ticketId) && (decide (some c = row.companyId) && row.deletedAt.isNone)) := by
  rw [findTicket, scopeFor_eq hc hne]
  rfl

theorem company_of_findTicket (hc : user.companyId = some c) (hne : c ≠ "") {ticketId : String}
    {ticket : Ticket} (h : findTicket user ticketId s = .ok ticket) :
    ticket ∈ s.tickets ∧ ticket.companyId = some c := by
  rw [findTicket_eq hc hne] at h
  have hfound := eq_some_of_orNotFound h
  have hrow := List.find?_some hfound
  rw [Bool.and_eq_true, Bool.and_eq_true, decide_eq_true_iff, decide_eq_true_iff] at hrow
  exact ⟨List.mem_of_find?_eq_some hfound, hrow.2.1.symm⟩

theorem AgreesFor.findTicket (h : AgreesFor c s s') (hc : user.companyId = some c) (hne : c ≠ "")
    (ticketId : String) : findTicket user ticketId s' = findTicket user ticketId s := by
  rw [findTicket_eq hc hne, findTicket_eq hc hne, find_eq_of_filter h.tickets]
  intro row hrow
  rw [Bool.and_eq_true, Bool.and_eq_true] at hrow
  rw [isLocal, ← of_decide_eq_true hrow.2.1]
  exact decide_eq_true rfl

theorem AgreesFor.timelineNotes (h : AgreesFor c s s') {ticket : Ticket}
    (hmem : ticket ∈ s.tickets) (hcompany : ticket.companyId = some c) :
    timelineNotes P ticket.id s' = timelineNotes P ticket.id s := by
  have hentries := filter_eq_of_filter (h.timeline ticket hmem hcompany)
    (q := fun entry => decide (entry.ticketId = ticket.id) && !entry.isInternal)
    fun entry hentry => (Bool.and_eq_true_iff.mp hentry).1
  simp only [Knowledge.timelineNotes, hentries]

theorem AgreesFor.draftFromTicket (h : AgreesFor c s s') (hc : user.companyId = some c)
    (hne : c ≠ "") (ticketId : String) (now : Nat) :
    draftFromTicket P user ticketId now s' = draftFromTicket P user ticketId now s := by
  rw [Knowledge.draftFromTicket, Knowledge.draftFromTicket, h.findTicket hc hne, h.drawn]
  cases hticket : Knowledge.findTicket user ticketId s with
  | error refusal => rfl
  | ok ticket =>
    obtain ⟨hmem, hcompany⟩ := company_of_findTicket hc hne hticket
    simp only [bind, Except.bind, h.timelineNotes hmem hcompany]

theorem AgreesFor.revision (h : AgreesFor c s s') (hc : user.companyId = some c) (hne : c ≠ "")
    (id : Nat) (dto : ArticlePayload) : revision P user id dto s' = revision P user id dto s := by
  rw [Knowledge.revision, Knowledge.revision, h.getArticle hc hne]

theorem AgreesFor.shown (h : AgreesFor c s s') (hc : user.companyId = some c) (hne : c ≠ "")
    (now : Nat) (request : KnowledgeRequest) :
    request.shown P user now s' = request.shown P user now s := by
  cases request with
  | findAll query => exact h.selected hc hne query
  | findOne id | remove id => simp only [KnowledgeRequest.shown, h.getArticle hc hne]
  | create dto => simp only [KnowledgeRequest.shown, h.drawn]
  | update id dto => simp only [KnowledgeRequest.shown, h.revision hc hne]
  | createFromTicket ticketId => simp only [KnowledgeRequest.shown, h.draftFromTicket hc hne]

theorem exists_ok_of_bind {α β : Type} {x : Checked α} {f : α → Checked β} {result : β}
    (h : x >>= f = .ok result) : ∃ value, x = .ok value ∧ f value = .ok result := by
  cases x with
  | error refusal => cases h
  | ok value => exact ⟨value, rfl, h⟩

theorem newArticle_spec {companyId : String} {data : ArticleData} {now id : Nat} {row : KbArticle}
    (h : newArticle P user companyId data now id = .ok row) :
    row.companyId = companyId ∧ row.id = id := by
  obtain ⟨summary, -, h⟩ := exists_ok_of_bind h
  obtain ⟨category, -, h⟩ := exists_ok_of_bind h
  obtain ⟨tags, -, h⟩ := exists_ok_of_bind h
  obtain ⟨sourceTicketId, -, h⟩ := exists_ok_of_bind h
  obtain ⟨reviewDueAt, -, h⟩ := exists_ok_of_bind h
  obtain rfl := Except.ok.inj h
  exact ⟨rfl, rfl⟩

theorem draft_spec (hc : user.companyId = some c) (hne : c ≠ "") {dto : ArticlePayload}
    {requested : Option String} {now id : Nat} {row : KbArticle}
    (h : draft P user dto requested now id = .ok row) : row.companyId = c ∧ row.id = id := by
  obtain ⟨companyId, hcompany, h⟩ := exists_ok_of_bind h
  rw [resolveWriteCompany_eq hc hne] at hcompany
  obtain rfl := Except.ok.inj hcompany
  obtain ⟨data, -, h⟩ := exists_ok_of_bind h
  exact newArticle_spec h

theorem draftFromTicket_spec (hc : user.companyId = some c) (hne : c ≠ "") {ticketId : String}
    {now : Nat} {row : KbArticle} (h : draftFromTicket P user ticketId now s = .ok row) :
    row.companyId = c ∧ row.id = s.articles.drawn := by
  obtain ⟨ticket, -, h⟩ := exists_ok_of_bind h
  split at h
  · exact draft_spec hc hne h
  · cases h

theorem revision_spec {id : Nat} {dto : ArticlePayload} {found : KbArticle × ArticleData}
    (h : revision P user id dto s = .ok found) : getArticle user id s = .ok found.1 := by
  obtain ⟨existing, hexisting, h⟩ := exists_ok_of_bind h
  obtain ⟨data, -, h⟩ := exists_ok_of_bind h
  obtain rfl := Except.ok.inj h
  exact hexisting

theorem company_of_shown (hc : user.companyId = some c) (hne : c ≠ "") {now : Nat}
    {request : KnowledgeRequest} {rows : List KbArticle}
    (h : request.shown P user now s = .ok rows) : ∀ row ∈ rows, row.companyId = c := by
  have hsingle : ∀ {α : Type} {found : Checked α} {row : α → KbArticle},
      (found.map fun value => [row value]) = .ok rows →
        (∀ value, found = .ok value → (row value).companyId = c) → ∀ row ∈ rows, row.companyId = c := by
    intro α found row hrows hcompany other hother
    cases found with
    | error refusal => cases hrows
    | ok value =>
      obtain rfl := Except.ok.inj hrows
      obtain rfl := List.mem_singleton.mp hother
      exact hcompany value rfl
  cases request with
  | findAll query => exact company_of_selected hc hne h
  | findOne id => exact hsingle h fun row hrow => (company_of_getArticle hc hne hrow).2.2
  | create dto => exact hsingle h fun row hrow => (draft_spec hc hne hrow).1
  | update id dto =>
    exact hsingle h fun found hfound => (company_of_getArticle hc hne (revision_spec hfound)).2.2
  | createFromTicket ticketId =>
    exact hsingle h fun row hrow => (draftFromTicket_spec hc hne hrow).1
  | remove id =>
    simp only [KnowledgeRequest.shown] at h
    cases hfound : getArticle user id s with
    | error refusal =>
      rw [hfound] at h
      cases h
    | ok row =>
      rw [hfound] at h
      obtain rfl := Except.ok.inj h
      exact fun row hrow => absurd hrow List.not_mem_nil

end Stored

section Responses

variable {P : KnowledgePlatform} {user : CurrentUser} {c : String} {s s' : KnowledgeStore}

def KnowledgeRequest.answered : KnowledgeRequest → List ArticleView → Answer
  | findAll _, views => .articles views
  | remove _, _ => .success
  | findOne _, view :: _ | create _, view :: _ | update _ _, view :: _
  | createFromTicket _, view :: _ => .article view
  | findOne _, [] | create _, [] | update _ _, [] | createFromTicket _, [] => .success

theorem mapArticle_insertArticle (row : KbArticle) :
    mapArticle P (insertArticle row s) = mapArticle P s := by
  unfold insertArticle
  split <;> rfl

theorem findOne_insertArticle (hc : user.companyId = some c) (hne : c ≠ "") {row : KbArticle}
    (hrow : row.companyId = c) (hid : row.id = s.articles.drawn) :
    findOne P user row.id (insertArticle row s) = .ok (.article (mapArticle P s row)) := by
  have hold : s.articles.rows.find? (fun other =>
      decide (other.id = row.id) && decide (c = other.companyId)) = none := by
    rw [List.find?_eq_none]
    intro other hother h
    have hbelow := s.articles.below other hother
    have hsame := of_decide_eq_true (Bool.and_eq_true_iff.mp h).1
    omega
  have hnew : [row].find? (fun other =>
      decide (other.id = row.id) && decide (c = other.companyId)) = some row := by
    apply List.find?_cons_of_pos
    rw [hrow, decide_eq_true rfl, decide_eq_true rfl, Bool.and_self]
  have hrows : (insertArticle row s).articles.rows = s.articles.rows ++ [row] := by
    rw [insertArticle, dif_pos hid]
    rfl
  rw [findOne, getArticle_eq hc hne, hrows, List.find?_append, hold, Option.none_or, hnew,
    mapArticle_insertArticle]
  rfl

theorem findOne_writeArticle (hc : user.companyId = some c) (hne : c ≠ "") {id : Nat}
    (change : KbArticle → KbArticle) (hid : ∀ row, (change row).id = row.id)
    (hcompany : ∀ row, (change row).companyId = row.companyId) {existing : KbArticle}
    (hfound : getArticle user id s = .ok existing) :
    findOne P user id (writeArticle id c change hid s) =
      .ok (.article (mapArticle P s (change existing))) := by
  obtain ⟨-, hexisting, hown⟩ := company_of_getArticle hc hne hfound
  have hsame : (fun row : KbArticle => decide (row.id = id) && decide (c = row.companyId)) ∘
      (fun row => if (decide (row.id = id) && decide (row.companyId = c)) = true then change row
        else row) = fun row => decide (row.id = id) && decide (c = row.companyId) := by
    funext row
    rw [Function.comp]
    split
    · rw [hid, hcompany]
    · rfl
  have hwritten : getArticle user id (writeArticle id c change hid s) = .ok (change existing) := by
    have hrows : (writeArticle id c change hid s).articles.rows = s.articles.rows.map fun row =>
        if (decide (row.id = id) && decide (row.companyId = c)) = true then change row else row :=
      rfl
    rw [getArticle_eq hc hne] at hfound
    rw [getArticle_eq hc hne, hrows, List.find?_map, hsame, eq_some_of_orNotFound hfound,
      Option.map_some, if_pos]
    · rfl
    · rw [hexisting, hown, decide_eq_true rfl, decide_eq_true rfl, Bool.and_self]
  rw [findOne, hwritten]
  rfl

theorem respond_answer (hc : user.companyId = some c) (hne : c ≠ "") (now : Nat)
    (request : KnowledgeRequest) : (request.respond P user now s).2 =
      (request.shown P user now s).map fun rows =>
        request.answered (rows.map (mapArticle P s)) := by
  have hcreate : ∀ drafted : Checked KbArticle,
      (∀ row, drafted = .ok row → row.companyId = c ∧ row.id = s.articles.drawn) →
        (createArticle P user drafted s).2 =
          drafted.map fun row => .article (mapArticle P s row) := by
    intro drafted hspec
    cases drafted with
    | error refusal => rfl
    | ok row =>
      obtain ⟨hrow, hid⟩ := hspec row rfl
      exact findOne_insertArticle hc hne hrow hid
  cases request with
  | findAll query => rfl
  | findOne id =>
    simp only [KnowledgeRequest.respond, KnowledgeRequest.shown, findOne]
    cases getArticle user id s <;> rfl
  | create dto =>
    refine (hcreate _ fun row => draft_spec hc hne).trans ?_
    simp only [KnowledgeRequest.shown]
    cases draft P user dto (requestedCompany P dto) now s.articles.drawn <;> rfl
  | createFromTicket ticketId =>
    refine (hcreate _ fun row => draftFromTicket_spec hc hne).trans ?_
    simp only [KnowledgeRequest.shown]
    cases draftFromTicket P user ticketId now s <;> rfl
  | update id dto =>
    simp only [KnowledgeRequest.respond, KnowledgeRequest.shown, update]
    cases hfound : revision P user id dto s with
    | error refusal => rfl
    | ok found =>
      obtain ⟨existing, data⟩ := found
      have hexisting := revision_spec hfound
      obtain rfl := (company_of_getArticle hc hne hexisting).2.2
      exact findOne_writeArticle hc hne (KbArticle.revised user data now) (fun _ => rfl)
        (fun _ => rfl) hexisting
  | remove id =>
    simp only [KnowledgeRequest.respond, KnowledgeRequest.shown, remove]
    cases getArticle user id s <;> rfl

theorem AgreesFor.insertArticle (h : AgreesFor c s s') (row : KbArticle) :
    AgreesFor c (insertArticle row s) (insertArticle row s') := by
  unfold Knowledge.insertArticle
  by_cases hid : row.id = s.articles.drawn
  · rw [dif_pos hid, dif_pos (hid.trans h.drawn.symm)]
    refine ⟨?_, congrArg (· + 1) h.drawn, h.company, h.users, h.tickets, h.timeline⟩
    simp only [NumberedTable.insert, List.filter_append, h.articles]
  · rw [dif_neg hid, dif_neg fun hid' => hid (hid'.trans h.drawn)]
    exact h

theorem AgreesFor.writeArticle (h : AgreesFor c s s') (id : Nat)
    (change : KbArticle → KbArticle) (hid : ∀ row, (change row).id = row.id)
    (hcompany : ∀ row, (change row).companyId = row.companyId) :
    AgreesFor c (writeArticle id c change hid s) (writeArticle id c change hid s') := by
  refine ⟨?_, h.drawn, h.company, h.users, h.tickets, h.timeline⟩
  have hfilter : ∀ rows : List KbArticle,
      (updateWhere (fun row => decide (row.id = id) && decide (row.companyId = c)) change rows).filter
          (fun row => row.companyId = c) =
        updateWhere (fun row => decide (row.id = id) && decide (row.companyId = c)) change
          (rows.filter fun row => row.companyId = c) := by
    intro rows
    rw [updateWhere, updateWhere, List.filter_map]
    congr 2
    funext row
    rw [Function.comp]
    split
    · rw [hcompany]
    · rfl
  exact (hfilter _).trans ((congrArg _ h.articles).trans (hfilter _).symm)

theorem AgreesFor.createArticle (h : AgreesFor c s s') (drafted : Checked KbArticle) :
    AgreesFor c (createArticle P user drafted s).1 (createArticle P user drafted s').1 := by
  cases drafted with
  | error refusal => exact h
  | ok row => exact h.insertArticle row

theorem AgreesFor.after (h : AgreesFor c s s') (hc : user.companyId = some c) (hne : c ≠ "")
    (request : Nat × KnowledgeRequest) :
    AgreesFor c (after P user request s) (after P user request s') := by
  obtain ⟨now, request⟩ := request
  cases request with
  | findAll query | findOne id => exact h
  | create dto =>
    simp only [Knowledge.after, KnowledgeRequest.respond, create, h.drawn]
    exact h.createArticle _
  | createFromTicket ticketId =>
    simp only [Knowledge.after, KnowledgeRequest.respond, createFromTicket,
      h.draftFromTicket hc hne]
    exact h.createArticle _
  | update id dto =>
    simp only [Knowledge.after, KnowledgeRequest.respond, update, h.revision hc hne]
    cases hfound : Knowledge.revision P user id dto s with
    | error refusal => exact h
    | ok found =>
      obtain rfl := (company_of_getArticle hc hne (revision_spec hfound)).2.2
      exact h.writeArticle id (KbArticle.revised user found.2 now) (fun _ => rfl) fun _ => rfl
  | remove id =>
    simp only [Knowledge.after, KnowledgeRequest.respond, remove, h.getArticle hc hne]
    cases hfound : Knowledge.getArticle user id s with
    | error refusal => exact h
    | ok existing =>
      obtain rfl := (company_of_getArticle hc hne hfound).2.2
      exact h.writeArticle id (KbArticle.archived user now) (fun _ => rfl) fun _ => rfl

/-- What requests leave alone. -/
structure SamePeople (s s' : KnowledgeStore) : Prop where
  users : s'.users = s.users
  tickets : s'.tickets = s.tickets

theorem SamePeople.insertArticle (row : KbArticle) : SamePeople s (insertArticle row s) := by
  unfold Knowledge.insertArticle
  split
  · exact ⟨rfl, rfl⟩
  · exact ⟨rfl, rfl⟩

theorem samePeople_after (request : Nat × KnowledgeRequest) :
    SamePeople s (after P user request s) := by
  have hcreate : ∀ drafted, SamePeople s (createArticle P user drafted s).1 := by
    intro drafted
    cases drafted with
    | error refusal => exact ⟨rfl, rfl⟩
    | ok row => exact .insertArticle row
  obtain ⟨now, request⟩ := request
  cases request with
  | findAll query | findOne id => exact ⟨rfl, rfl⟩
  | create dto => exact hcreate _
  | createFromTicket ticketId => exact hcreate _
  | update id dto =>
    simp only [after, KnowledgeRequest.respond, update]
    split <;> exact ⟨rfl, rfl⟩
  | remove id =>
    simp only [after, KnowledgeRequest.respond, remove]
    split <;> exact ⟨rfl, rfl⟩

end Responses
end FieldserviceIT.Knowledge
