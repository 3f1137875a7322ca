import FieldserviceIT.Knowledge.Agreement

/-!
Noninterference in the knowledge base. What a user of a company is answered is free of other
companies exactly where the articles that are shown name nothing but tickets and owners of the
company, or of none: for anything else a stranger's row can be put in its place, and is shown.
-/

namespace FieldserviceIT.Knowledge

open Common Lib

section Strangers

variable {ρ : Type} {key : ρ → String} {p : ρ → Bool}

def exchanged (key : ρ → String) (row : ρ) (rows : List ρ) : List ρ :=
  (rows.filter fun other => key other ≠ key row) ++ [row]

theorem distinct_exchanged {rows : List ρ} (h : Distinct key rows) (row : ρ) :
    Distinct key (exchanged key row rows) :=
  (h.filter _).append fun _ hother => of_decide_eq_true (List.mem_filter.mp hother).2

theorem find_exchanged (rows : List ρ) (row : ρ) :
    (exchanged key row rows).find? (fun other => key other = key row) = some row := by
  have hold : (rows.filter fun other => key other ≠ key row).find?
      (fun other => key other = key row) = none := by
    rw [List.find?_eq_none]
    intro other hother hsame
    exact of_decide_eq_true (List.mem_filter.mp hother).2 (of_decide_eq_true hsame)
  have hlast : [row].find? (fun other => key other = key row) = some row :=
    List.find?_cons_of_pos (decide_eq_true rfl)
  rw [exchanged, List.find?_append, hold, Option.none_or, hlast]

theorem filter_exchanged {rows : List ρ} {row : ρ} (hp : p row = false)
    (hnone : ∀ other ∈ rows, p other = true → key other ≠ key row) :
    (exchanged key row rows).filter p = rows.filter p := by
  rw [exchanged, List.filter_append, List.filter_cons_of_neg (Bool.eq_false_iff.mp hp),
    List.filter_nil, List.append_nil, List.filter_filter]
  refine List.filter_congr fun other hother => ?_
  cases hother' : p other with
  | false => rfl
  | true => rw [decide_eq_true (hnone other hother hother'), Bool.and_self]

end Strangers

section Strange

variable {P : KnowledgePlatform} {user : CurrentUser} {c : String} {s : KnowledgeStore}

structure Population where
  users : List User
  tickets : List Ticket
  users_distinct : Distinct User.id users
  tickets_distinct : Distinct Ticket.id tickets

def Population.LocallyIn (c : String) (people : Population) (s : KnowledgeStore) : Prop :=
  people.users.filter (fun row => isLocal c row.companyId) =
      s.users.filter (fun row => isLocal c row.companyId) ∧
    people.tickets.filter (fun row => isLocal c row.companyId) =
      s.tickets.filter fun row => isLocal c row.companyId

def repopulated (people : Population) (s : KnowledgeStore) : KnowledgeStore :=
  { s with
    users := people.users
    tickets := people.tickets
    users_distinct := people.users_distinct
    tickets_distinct := people.tickets_distinct }

theorem agrees_repopulated {people : Population} (h : people.LocallyIn c s) :
    AgreesFor c s (repopulated people s) :=
  ⟨rfl, rfl, rfl, h.1, h.2, fun _ _ _ => rfl⟩

theorem insertArticle_repopulated (people : Population) (row : KbArticle) :
    insertArticle row (repopulated people s) = repopulated people (insertArticle row s) := by
  by_cases hid : row.id = s.articles.drawn
  · have hid' : row.id = (repopulated people s).articles.drawn := hid
    rw [insertArticle, insertArticle, dif_pos hid, dif_pos hid']
    rfl
  · have hid' : ¬row.id = (repopulated people s).articles.drawn := hid
    rw [insertArticle, insertArticle, dif_neg hid, dif_neg hid']

theorem after_repopulated (hc : user.companyId = some c) (hne : c ≠ "") {people : Population}
    (h : people.LocallyIn c s) (request : Nat × KnowledgeRequest) :
    after P user request (repopulated people s) =
      repopulated people (after P user request s) := by
  have hcreate : ∀ drafted, (createArticle P user drafted (repopulated people s)).1 =
      repopulated people (createArticle P user drafted s).1 := by
    intro drafted
    cases drafted with
    | error refusal => rfl
    | ok row => exact insertArticle_repopulated people row
  obtain ⟨now, request⟩ := request
  cases request with
  | findAll query | findOne id => rfl
  | create dto => exact hcreate _
  | createFromTicket ticketId =>
    simp only [after, KnowledgeRequest.respond, createFromTicket,
      (agrees_repopulated h).draftFromTicket hc hne]
    exact hcreate _
  | update id dto =>
    simp only [after, KnowledgeRequest.respond, update,
      (agrees_repopulated h).revision hc hne]
    cases revision P user id dto s <;> rfl
  | remove id =>
    simp only [after, KnowledgeRequest.respond, remove,
      (agrees_repopulated h).getArticle hc hne]
    cases getArticle user id s <;> rfl

def another (c : String) : Option String :=
  some (c ++ "'")

theorem not_isLocal_another (c : String) : isLocal c (another c) = false := by
  have hne : c ++ "'" ≠ c := by
    intro h
    have hlength := congrArg String.length h
    rw [String.length_append] at hlength
    have hquote : "'".length = 1 := rfl
    omega
  exact decide_eq_false hne

theorem append_ne_getD (value : Option String) : some (value.getD "" ++ "'") ≠ value := by
  intro h
  rw [← h, Option.getD_some, Option.some.injEq] at h
  have hlength := congrArg String.length h
  rw [String.length_append] at hlength
  have hquote : "'".length = 1 := rfl
  omega

theorem refersLocally_of_unaffected {row : KbArticle}
    (h : ∀ people : Population, people.LocallyIn c s →
      mapArticle P (repopulated people s) row = mapArticle P s row) : RefersLocally c s row := by
  constructor
  · intro id hid
    by_contra hnone
    let stranger : User :=
      ⟨id, another c, ((ownerOf s row).map User.firstName).getD "" ++ "'", ""⟩
    let people : Population := ⟨exchanged User.id stranger s.users, s.tickets,
      distinct_exchanged s.users_distinct stranger, s.tickets_distinct⟩
    have hlocal : people.LocallyIn c s :=
      ⟨filter_exchanged (not_isLocal_another c) fun other hother hown hsame =>
        hnone ⟨other, hother, hsame, hown⟩, rfl⟩
    have hfound : ownerOf (repopulated people s) row = some stranger := by
      rw [ownerOf, hid, Option.bind_some]
      exact @find_exchanged User User.id s.users stranger
    have hname := congrArg ArticleView.ownerFirstName (h people hlocal)
    simp only [mapArticle, hfound, Option.map_some] at hname
    exact append_ne_getD _ hname
  · intro id hid
    by_contra hnone
    let stranger : Ticket := ⟨id, another c, "",
      ((sourceTicketOf s row).map Ticket.title).getD "" ++ "'", none, none, none, none, none⟩
    let people : Population := ⟨s.users, exchanged Ticket.id stranger s.tickets,
      s.users_distinct, distinct_exchanged s.tickets_distinct stranger⟩
    have hlocal : people.LocallyIn c s :=
      ⟨rfl, filter_exchanged (not_isLocal_another c) fun other hother hown hsame =>
        hnone ⟨other, hother, hsame, hown⟩⟩
    have hfound : sourceTicketOf (repopulated people s) row = some stranger := by
      rw [sourceTicketOf, hid, Option.bind_some]
      exact @find_exchanged Ticket Ticket.id s.tickets stranger
    have htitle := congrArg ArticleView.sourceTicketTitle (h people hlocal)
    simp only [mapArticle, hfound, Option.map_some] at htitle
    exact append_ne_getD _ htitle

theorem eq_of_answered {now : Nat} {request : KnowledgeRequest} {rows : List KbArticle}
    (hshown : request.shown P user now s = .ok rows) {f g : KbArticle → ArticleView}
    (h : request.answered (rows.map f) = request.answered (rows.map g)) :
    ∀ row ∈ rows, f row = g row := by
  have hsingle : ∀ {α : Type} {found : Checked α} {row : α → KbArticle},
      (found.map fun value => [row value]) = .ok rows →
        (∀ row, rows = [row] → Answer.article (f row) = Answer.article (g row)) →
          ∀ row ∈ rows, f row = g row := by
    intro α found row hrows hviews other hother
    cases found with
    | error refusal => cases hrows
    | ok value =>
      obtain rfl := Except.ok.inj hrows
      obtain rfl := List.mem_singleton.mp hother
      exact Answer.article.inj (hviews _ rfl)
  have hview : ∀ row, rows = [row] → request.answered [f row] = request.answered [g row] := by
    rintro row rfl
    exact h
  cases request with
  | findAll query => exact List.map_inj_left.mp (Answer.articles.inj h)
  | remove id =>
    simp only [KnowledgeRequest.shown] at hshown
    cases hfound : getArticle user id s with
    | error refusal =>
      rw [hfound] at hshown
      cases hshown
    | ok row =>
      rw [hfound] at hshown
      obtain rfl := Except.ok.inj hshown
      exact fun row hrow => absurd hrow List.not_mem_nil
  | findOne id | create dto | update id dto | createFromTicket ticketId =>
    exact hsingle hshown hview

theorem showsLocally_of_unaffected (hc : user.companyId = some c) (hne : c ≠ "")
    {request : Nat × KnowledgeRequest}
    (h : ∀ people : Population, people.LocallyIn c s →
      (request.2.respond P user request.1 (repopulated people s)).2 =
        (request.2.respond P user request.1 s).2) : ShowsLocally P user c request s := by
  intro rows hshown row hrow
  apply refersLocally_of_unaffected (P := P)
  intro people hpeople
  have heq := h people hpeople
  rw [respond_answer hc hne, respond_answer hc hne,
    (agrees_repopulated hpeople).shown hc hne, hshown] at heq
  exact eq_of_answered hshown (Except.ok.inj heq) row hrow

theorem answers_of_showsLocally (hc : user.companyId = some c) (hne : c ≠ "")
    {requests : Requests} {s' : KnowledgeStore} (h : AgreesFor c s s')
    (hlocal : Throughout (after P user) (ShowsLocally P user c) s requests) :
    answers P user s' requests = answers P user s requests := by
  induction requests generalizing s s' with
  | nil => rfl
  | cons request requests ih =>
    obtain ⟨hshows, hrest⟩ := hlocal
    rw [answers, answers, ih (h.after hc hne request) hrest, respond_answer hc hne,
      respond_answer hc hne, h.shown hc hne]
    congr 1
    cases hshown : request.2.shown P user request.1 s with
    | error refusal => rfl
    | ok rows =>
      have hviews : rows.map (mapArticle P s') = rows.map (mapArticle P s) :=
        List.map_congr_left fun row hrow =>
          h.mapArticle (company_of_shown hc hne hshown row hrow) (hshows rows hshown row hrow)
      simp only [Except.map, hviews]

theorem showsLocally_of_answers (hc : user.companyId = some c) (hne : c ≠ "")
    {requests : Requests}
    (h : ∀ people : Population, people.LocallyIn c s →
      answers P user (repopulated people s) requests = answers P user s requests) :
    Throughout (after P user) (ShowsLocally P user c) s requests := by
  induction requests generalizing s with
  | nil => trivial
  | cons request requests ih =>
    refine ⟨showsLocally_of_unaffected hc hne fun people hpeople => ?_, ih fun people hpeople => ?_⟩
    · exact (List.cons.inj (h people hpeople)).1
    · have hsame : SamePeople s (after P user request s) := samePeople_after request
      obtain ⟨husers, htickets⟩ := hsame
      rw [Population.LocallyIn, husers, htickets] at hpeople
      rw [← after_repopulated hc hne hpeople]
      exact (List.cons.inj (h people hpeople)).2

theorem isOwn_of_refersLocally {row : KbArticle} (h : RefersLocally c s row) :
    (mapArticle P s row).IsOwn c s := by
  constructor
  · intro ticket hticket hnamed
    obtain ⟨other, hother, hid, hown⟩ := h.ticket ticket.id hnamed
    rw [← s.tickets_distinct.eq_of_key hother hticket hid]
    exact hown
  · intro owner howner hnamed
    obtain ⟨other, hother, hid, hown⟩ := h.owner owner.id hnamed
    rw [← s.users_distinct.eq_of_key hother howner hid]
    exact hown

theorem views_answered (request : KnowledgeRequest) (views : List ArticleView) :
    ∀ view ∈ (request.answered views).views, view ∈ views := by
  intro view hview
  cases request with
  | findAll query => exact hview
  | remove id => exact absurd hview List.not_mem_nil
  | findOne id | create dto | update id dto | createFromTicket ticketId =>
    cases views with
    | nil => exact hview
    | cons first rest => exact List.mem_cons.mpr (.inl (List.mem_singleton.mp hview))

theorem own_of_showsLocally (hc : user.companyId = some c) (hne : c ≠ "") {requests : Requests}
    (hlocal : Throughout (after P user) (ShowsLocally P user c) s requests) {answer : Answer}
    (h : .ok answer ∈ answers P user s requests) : ∀ view ∈ answer.views, view.IsOwn c s := by
  induction requests generalizing s with
  | nil => cases h
  | cons request requests ih =>
    obtain ⟨hshows, hrest⟩ := hlocal
    obtain hfirst | hlater := List.mem_cons.mp h
    · rw [respond_answer hc hne] at hfirst
      cases hshown : request.2.shown P user request.1 s with
      | error refusal =>
        rw [hshown] at hfirst
        cases hfirst
      | ok rows =>
        rw [hshown] at hfirst
        obtain rfl := Except.ok.inj hfirst
        intro view hview
        obtain ⟨row, hrow, rfl⟩ := List.mem_map.mp (views_answered _ _ view hview)
        exact isOwn_of_refersLocally (hshows rows hshown row hrow)
    · have hsame : SamePeople s (after P user request s) := samePeople_after request
      obtain ⟨husers, htickets⟩ := hsame
      intro view hview
      have hown := ih hrest hlater view hview
      rw [ArticleView.IsOwn, husers, htickets] at hown
      exact hown

/-- What a user of a company is answered is free of other companies exactly where every article
that is shown on the way names a ticket and an owner of the company, or of none. -/
theorem nonInterfering_iff (P : KnowledgePlatform) (user : CurrentUser) (c : String)
    (hc : user.companyId = some c) (hne : c ≠ "") (s : KnowledgeStore) (requests : Requests) :
    NonInterfering P user c s requests ↔
      Throughout (after P user) (ShowsLocally P user c) s requests := by
  constructor
  · intro h
    exact showsLocally_of_answers hc hne fun people hpeople =>
      h.unaffected _ (agrees_repopulated hpeople)
  · intro h
    exact ⟨fun s' hagrees => answers_of_showsLocally hc hne hagrees h,
      fun answer hanswer => own_of_showsLocally hc hne h hanswer⟩

end Strange

section Samples

def samplePlatform : KnowledgePlatform where
  trim text := text
  toUpperCase text := text
  slice text _ := text
  sameChar a b := a == b
  date _ := none
  column value := match value with
    | .text text => some text
    | _ => none
  limit _ := some 100
  undefinedIsNull := false

def ana : CurrentUser :=
  ⟨"ana", .technician, .businessUser, some "acme", none, none, none, none⟩

theorem users_distinct_sample : Distinct User.id
    [⟨"ana", some "acme", "Ana", "Ito"⟩, ⟨"ben", some "globex", "Ben", "Roy"⟩] := by
  unfold Distinct
  decide

theorem tickets_distinct_sample : Distinct Ticket.id
    [⟨"t1", some "acme", "TKT-1", "Printer", none, none, none, none, none⟩,
      ⟨"t2", some "globex", "TKT-2", "Merger", none, none, none, none, none⟩] := by
  unfold Distinct
  decide

def sampleStore : KnowledgeStore where
  articles := ⟨[], 0, fun _ hrow => absurd hrow List.not_mem_nil⟩
  companies := [⟨"acme", "Acme", none⟩, ⟨"globex", "Globex", none⟩]
  users := [⟨"ana", some "acme", "Ana", "Ito"⟩, ⟨"ben", some "globex", "Ben", "Roy"⟩]
  tickets := [⟨"t1", some "acme", "TKT-1", "Printer", none, none, none, none, none⟩,
    ⟨"t2", some "globex", "TKT-2", "Merger", none, none, none, none, none⟩]
  timeline := []
  users_distinct := users_distinct_sample
  tickets_distinct := tickets_distinct_sample

def about (ticketId : String) : KnowledgeRequest :=
  .create [("title", .text "Notes"), ("content", .text "Steps"), ("summary", .null),
    ("category", .null), ("tags", .array []), ("sourceTicketId", .text ticketId),
    ("reviewDueAt", .null)]

def refersToOwn (c : String) (s : KnowledgeStore) (row : KbArticle) : Bool :=
  (row.ownerId.all fun id => s.users.any fun owner =>
    decide (owner.id = id) && isLocal c owner.companyId) &&
  row.sourceTicketId.all fun id => s.tickets.any fun ticket =>
    decide (ticket.id = id) && isLocal c ticket.companyId

def showsOwn (P : KnowledgePlatform) (user : CurrentUser) (c : String)
    (request : Nat × KnowledgeRequest) (s : KnowledgeStore) : Bool :=
  match request.2.shown P user request.1 s with
  | .ok rows => rows.all (refersToOwn c s)
  | .error _ => true

theorem showsLocally_of_test {P : KnowledgePlatform} {user : CurrentUser} {c : String}
    {request : Nat × KnowledgeRequest} {s : KnowledgeStore}
    (h : showsOwn P user c request s = true) : ShowsLocally P user c request s := by
  intro rows hrows row hrow
  rw [showsOwn, hrows] at h
  have hrefers := List.all_eq_true.mp h row hrow
  rw [refersToOwn, Bool.and_eq_true] at hrefers
  constructor
  · intro id hid
    have howner := hrefers.1
    rw [hid, Option.all_some, List.any_eq_true] at howner
    simpa only [Bool.and_eq_true, decide_eq_true_eq] using howner
  · intro id hid
    have hticket := hrefers.2
    rw [hid, Option.all_some, List.any_eq_true] at hticket
    simpa only [Bool.and_eq_true, decide_eq_true_eq] using hticket

/-- An article about a ticket of the company is written and read. -/
theorem nonInterfering_about_own :
    NonInterfering samplePlatform ana "acme" sampleStore [(5, about "t1"), (6, .findOne 0)] :=
  (nonInterfering_iff samplePlatform ana "acme" rfl (by decide) sampleStore _).mpr
    ⟨showsLocally_of_test (by decide), showsLocally_of_test (by decide), trivial⟩

def namesTicket (ticketId : String) : Checked Answer → Bool
  | .ok (.article view) => view.row.sourceTicketId = some ticketId
  | _ => false

/-- An article about a ticket of another company shows the title of the ticket. -/
theorem title_of_another_company_shown : ¬ ∀ (P : KnowledgePlatform) (user : CurrentUser)
    (c : String) (s : KnowledgeStore) (requests : Requests), user.companyId = some c → c ≠ "" →
      NonInterfering P user c s requests := by
  intro hall
  have h := hall samplePlatform ana "acme" sampleStore [(5, about "t2")] rfl (by decide)
  have hshown : (answers samplePlatform ana sampleStore [(5, about "t2")]).any
      (namesTicket "t2") = true := by
    decide
  obtain ⟨answer, hanswer, hnames⟩ := List.any_eq_true.mp hshown
  unfold namesTicket at hnames
  split at hnames
  next view =>
    have hown := (h.own _ hanswer view (List.mem_singleton_self view)).1
      ⟨"t2", some "globex", "TKT-2", "Merger", none, none, none, none, none⟩
      (List.mem_cons_of_mem _ (List.mem_singleton_self _)) (of_decide_eq_true hnames)
    exact absurd hown (by decide)
  next => cases hnames

end Samples
end FieldserviceIT.Knowledge
