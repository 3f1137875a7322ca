import FieldserviceIT.Common.Users
import FieldserviceIT.Lib.Json
import FieldserviceIT.Lib.Like
import FieldserviceIT.Lib.Upserts

/-!
The knowledge base of a company. An article may name the ticket it comes from and a user as its
owner; both ids are stored as a request gives them and are joined to their tables by the id alone
wherever the article is read. Ids are compared as they are.
-/

namespace FieldserviceIT.Knowledge

open Common Lib

/-- What is used of JavaScript, the driver and the database: trimming, upper case and cutting of
texts, characters that a search takes for equal, a date and a text column for a value of a request
(`none` where the statement is refused), the number of rows that a limit allows, and whether an
undefined parameter is stored as null. -/
structure KnowledgePlatform where
  trim : String → String
  toUpperCase : String → String
  slice : String → Nat → String
  sameChar : Char → Char → Bool
  date : Json → Option Nat
  column : Json → Option String
  limit : Option String → Option Nat
  undefinedIsNull : Bool

structure Company where
  id : String
  name : String
  slug : Option String

structure User where
  id : String
  companyId : Option String
  firstName : String
  lastName : String

structure Ticket where
  id : String
  companyId : Option String
  ticketNumber : String
  title : String
  description : Option String
  category : Option String
  subcategory : Option String
  resolution : Option String
  deletedAt : Option Nat

structure TicketTimeline where
  ticketId : String
  action : String
  comment : Option String
  isInternal : Bool
  createdAt : Nat

/-- The ids that `randomUUID` gives are numbered as they are drawn. -/
structure KbArticle where
  id : Nat
  companyId : String
  title : String
  summary : Option String
  content : String
  category : Option String
  tags : Option String
  status : String
  visibility : String
  articleType : String
  aiEnabled : Bool
  sourceTicketId : Option String
  ownerId : Option String
  createdById : String
  updatedById : String
  reviewDueAt : Option Nat
  publishedAt : Option Nat
  createdAt : Nat
  updatedAt : Nat

structure KnowledgeStore where
  articles : NumberedTable KbArticle KbArticle.id
  companies : List Company
  users : List User
  tickets : List Ticket
  timeline : List TicketTimeline
  users_distinct : Distinct User.id users
  tickets_distinct : Distinct Ticket.id tickets

inductive Refusal where
  | badRequest (message : String)
  | forbidden (message : String)
  | notFound (message : String)
  /-- A `TypeError`, or a statement that the driver or the database refuses. -/
  | failure

abbrev Checked (α : Type) := Except Refusal α

/-- What a request says of an article. -/
abbrev ArticlePayload := List (String × Json)

/-- What `normalizePayload` returns; `none` is undefined. -/
structure ArticleData where
  title : Option String
  summary : Option (Option String)
  content : Option String
  category : Option (Option String)
  tags : Option String
  status : Option String
  visibility : Option String
  articleType : Option String
  aiEnabled : Option Bool
  sourceTicketId : Option (Option String)
  ownerId : Option (Option String)
  reviewDueAt : Option (Option Nat)

def statuses : List String := ["DRAFT", "REVIEW", "PUBLISHED", "ARCHIVED"]
def visibilities : List String := ["INTERNAL", "CUSTOMER", "PUBLIC"]
def articleTypes : List String := ["ARTICLE", "RUNBOOK", "FAQ", "TROUBLESHOOTING"]

section Payloads

variable (P : KnowledgePlatform)

/-- `value?.trim()` -/
def trimmed : Option Json → Checked (Option String)
  | none | some .null => .ok none
  | some (.text value) => .ok (some (P.trim value))
  | some _ => .error .failure

/-- `text || undefined` -/
def orUndefined (text : Option String) : Option String :=
  text.filter (· ≠ "")

def normalizeOption (value : Json) (allowed : List String) (label : String) : Checked String :=
  match value with
  | .text value =>
    if allowed.contains (P.toUpperCase value) then .ok (P.toUpperCase value)
    else .error (.badRequest ("Invalid " ++ label))
  | _ => .error .failure

/-- A choice that counts as true is checked, any other is the default where there has to be one. -/
def optionOrDefault (value : Option Json) (allowed : List String) (label : String)
    (default : Option String) : Checked (Option String) :=
  match value.filter Json.truthy with
  | some value => (normalizeOption P value allowed label).map some
  | none => .ok default

def joinTags (tags : List String) : String :=
  String.intercalate "," (((tags.map P.trim).filter (· ≠ "")).take 12)

def tagText : Json → Checked String
  | .text tag => .ok tag
  | _ => .error .failure

def normalizeTags : Option Json → Checked (Option String)
  | some (.array tags) => (tags.mapM tagText).map fun tags => some (joinTags P tags)
  | some (.text tags) => .ok (some (joinTags P (tags.splitOn ",")))
  | _ => .ok none

/-- `value || null`, where the key is there, as it is stored by `store`. -/
def orNull {α : Type} (store : Json → Option α) : Option Json → Checked (Option (Option α))
  | none => .ok none
  | some value =>
    if value.truthy then
      match store value with
      | some stored => .ok (some (some stored))
      | none => .error .failure
    else .ok (some none)

def normalizePayload (dto : ArticlePayload) (requireContent : Bool) : Checked ArticleData := do
  let title ← trimmed P (dto.lookup "title")
  let content ← trimmed P (dto.lookup "content")
  if requireContent && !(truthy title) then throw (.badRequest "Title is required")
  if requireContent && !(truthy content) then throw (.badRequest "Content is required")
  let summary ← trimmed P (dto.lookup "summary")
  let category ← trimmed P (dto.lookup "category")
  let tags ← normalizeTags P (dto.lookup "tags")
  let status ← optionOrDefault P (dto.lookup "status") statuses "status"
    (if requireContent then some "DRAFT" else none)
  let visibility ← optionOrDefault P (dto.lookup "visibility") visibilities "visibility"
    (if requireContent then some "INTERNAL" else none)
  let articleType ← optionOrDefault P (dto.lookup "articleType") articleTypes "article type"
    (if requireContent then some "ARTICLE" else none)
  let sourceTicketId ← orNull P.column (dto.lookup "sourceTicketId")
  let ownerId ← orNull P.column (dto.lookup "ownerId")
  let reviewDueAt ← orNull P.date (dto.lookup "reviewDueAt")
  return {
    title := orUndefined title
    summary := (dto.lookup "summary").map fun _ => orUndefined summary
    content := orUndefined content
    category := (dto.lookup "category").map fun _ => orUndefined category
    tags := tags
    status := status
    visibility := visibility
    articleType := articleType
    aiEnabled := ((dto.lookup "aiEnabled").map Json.truthy).or
      (if requireContent then some false else none)
    sourceTicketId := sourceTicketId
    ownerId := ownerId
    reviewDueAt := reviewDueAt }

end Payloads

section Articles

variable (P : KnowledgePlatform) (user : CurrentUser)

/-- `some none` is every company. -/
def scopeFor : Checked (Option String) :=
  if truthy user.companyId then .ok user.companyId
  else if user.role = .superAdmin then .ok none
  else .error (.forbidden "Select a company context to manage the knowledge base")

def resolveWriteCompany (requestedCompanyId : Option String) : Checked String :=
  if truthy user.companyId then .ok (user.companyId.getD "")
  else if user.role = .superAdmin && truthy requestedCompanyId then
    .ok (requestedCompanyId.getD "")
  else .error (.forbidden "Select a company context before creating knowledge articles")

/-- `companyId = ?`, where there is a company. -/
def ofCompany (companyId : Option String) (row : KbArticle) : Bool :=
  companyId.all (· = row.companyId)

def orNotFound {α : Type} (message : String) : Option α → Checked α
  | some row => .ok row
  | none => .error (.notFound message)

def getArticle (id : Nat) (s : KnowledgeStore) : Checked KbArticle := do
  let companyId ← scopeFor user
  orNotFound "Knowledge article not found"
    (s.articles.rows.find? fun row => decide (row.id = id) && ofCompany companyId row)

def bound {α : Type} (value : Option (Option α)) : Checked (Option α) :=
  match value with
  | some value => .ok value
  | none => if P.undefinedIsNull then .ok none else .error .failure

/-- The row that `create` inserts. -/
def newArticle (companyId : String) (data : ArticleData) (now id : Nat) : Checked KbArticle := do
  let summary ← bound P data.summary
  let category ← bound P data.category
  let tags ← bound P (data.tags.map some)
  let sourceTicketId ← bound P data.sourceTicketId
  let reviewDueAt ← bound P data.reviewDueAt
  return {
    id := id
    companyId := companyId
    title := data.title.getD ""
    summary := summary
    content := data.content.getD ""
    category := category
    tags := tags
    status := data.status.getD ""
    visibility := data.visibility.getD ""
    articleType := data.articleType.getD ""
    aiEnabled := data.aiEnabled.getD false
    sourceTicketId := sourceTicketId
    ownerId := orElse data.ownerId.join (some user.id)
    createdById := user.id
    updatedById := user.id
    reviewDueAt := reviewDueAt
    publishedAt := if data.status = some "PUBLISHED" then some now else none
    createdAt := now
    updatedAt := now }

def draft (dto : ArticlePayload) (requestedCompanyId : Option String) (now id : Nat) :
    Checked KbArticle := do
  let companyId ← resolveWriteCompany user requestedCompanyId
  let data ← normalizePayload P dto true
  newArticle P user companyId data now id

/-- The columns of the data that are not undefined, and who has changed them and when. -/
def KbArticle.revised (data : ArticleData) (now : Nat) (row : KbArticle) : KbArticle :=
  { row with
    title := data.title.getD row.title
    summary := data.summary.getD row.summary
    content := data.content.getD row.content
    category := data.category.getD row.category
    tags := (data.tags.map some).getD row.tags
    status := data.status.getD row.status
    visibility := data.visibility.getD row.visibility
    articleType := data.articleType.getD row.articleType
    aiEnabled := data.aiEnabled.getD row.aiEnabled
    sourceTicketId := data.sourceTicketId.getD row.sourceTicketId
    ownerId := data.ownerId.getD row.ownerId
    reviewDueAt := data.reviewDueAt.getD row.reviewDueAt
    publishedAt :=
      if data.status = some "PUBLISHED" then
        if row.status = "PUBLISHED" then row.publishedAt else some now
      else if data.status.isSome then none
      else row.publishedAt
    updatedById := user.id
    updatedAt := now }

structure ArticleQuery where
  search : Option String
  category : Option String
  status : Option String
  visibility : Option String
  aiEnabled : Option String
  limit : Option String

def optionClause (value : Option String) (allowed : List String) (label : String) :
    Checked (Option String) :=
  optionOrDefault P (value.map Json.text) allowed label none

def likes (term text : String) : Bool :=
  likeMatch P.sameChar (likeTokens ("%" ++ term ++ "%").toList) text.toList

def searched (term : String) (row : KbArticle) : Bool :=
  likes P term row.title || row.summary.any (likes P term) || likes P term row.content ||
    row.tags.any (likes P term)

/-- `ORDER BY updatedAt DESC, createdAt DESC` -/
def newerFirst (a b : KbArticle) : Bool :=
  decide (b.updatedAt < a.updatedAt) || decide (a.updatedAt = b.updatedAt) &&
    decide (b.createdAt ≤ a.createdAt)

def queried (query : ArticleQuery) (status visibility : Option String) (row : KbArticle) : Bool :=
  status.all (· = row.status) && visibility.all (· = row.visibility) &&
    (query.category.filter (· ≠ "")).all (row.category = some ·) &&
    (query.aiEnabled.filter (["true", "false"].contains ·)).all
      (fun flag => row.aiEnabled = decide (flag = "true")) &&
    (query.search.filter (· ≠ "")).all (searched P · row)

/-- The articles of the query, before anything is joined to them. -/
def selected (query : ArticleQuery) (s : KnowledgeStore) : Checked (List KbArticle) := do
  let companyId ← scopeFor user
  let status ← optionClause P query.status statuses "status"
  let visibility ← optionClause P query.visibility visibilities "visibility"
  match P.limit query.limit with
  | none => throw .failure
  | some limit =>
    let rows := s.articles.rows.filter fun row =>
      ofCompany companyId row && queried P query status visibility row
    return (rows.mergeSort newerFirst).take limit

def findTicket (ticketId : String) (s : KnowledgeStore) : Checked Ticket := do
  let companyId ← scopeFor user
  orNotFound "Ticket not found" (s.tickets.find? fun row => decide (row.id = ticketId) &&
    (companyId.all (some · = row.companyId) && row.deletedAt.isNone))

def timelineNotes (ticketId : String) (s : KnowledgeStore) : List String :=
  let entries := ((s.timeline.filter fun entry =>
    decide (entry.ticketId = ticketId) && !entry.isInternal).mergeSort
      fun a b => a.createdAt ≤ b.createdAt).take 20
  let notes := entries.filterMap fun entry => (entry.comment.filter (· ≠ "")).map fun comment =>
    "- " ++ entry.action ++ ": " ++ P.slice comment 240
  notes.drop (notes.length - 8)

def orText (value : Option String) (default : String) : String :=
  (orElse value (some default)).getD ""

def ticketContent (ticket : Ticket) (notes : List String) : String :=
  String.intercalate "\n" (["Issue", orText ticket.description "No description provided.", "",
    if notes.isEmpty then "" else "Observed timeline"] ++ notes ++ ["", "Resolution",
    orText ticket.resolution "Add the verified resolution steps before publishing.", "",
    "Validation",
    "Confirm the customer-visible symptoms are resolved and document any follow-up maintenance."])

def ticketPayload (ticket : Ticket) (notes : List String) : ArticlePayload :=
  [("title", .text ticket.title),
    ("summary", .text ("Created from ticket " ++ ticket.ticketNumber ++ ".")),
    ("content", .text (ticketContent ticket notes)),
    ("category", .text (orText ticket.category "General")),
    ("tags", .array (([ticket.subcategory.getD "", ticket.ticketNumber].filter (· ≠ "")).map .text)),
    ("status", .text "DRAFT"), ("visibility", .text "INTERNAL"), ("articleType", .text "ARTICLE"),
    ("sourceTicketId", .text ticket.id)]

def draftFromTicket (ticketId : String) (now : Nat) (s : KnowledgeStore) : Checked KbArticle := do
  let ticket ← findTicket user ticketId s
  if truthy ticket.resolution || truthy ticket.description then
    draft P user (ticketPayload ticket (timelineNotes P ticket.id s)) ticket.companyId now
      s.articles.drawn
  else
    throw (.badRequest "Ticket needs a description or resolution before creating an article")

end Articles

section Answers

/-- An article with what is joined to it. -/
structure ArticleView where
  row : KbArticle
  tags : List String
  companyName : Option String
  companySlug : Option String
  ownerFirstName : Option String
  ownerLastName : Option String
  sourceTicketNumber : Option String
  sourceTicketTitle : Option String

def ownerOf (s : KnowledgeStore) (row : KbArticle) : Option User :=
  row.ownerId.bind fun ownerId => s.users.find? fun user => user.id = ownerId

def sourceTicketOf (s : KnowledgeStore) (row : KbArticle) : Option Ticket :=
  row.sourceTicketId.bind fun ticketId => s.tickets.find? fun ticket => ticket.id = ticketId

def companyOf (s : KnowledgeStore) (row : KbArticle) : Option Company :=
  s.companies.find? fun company => company.id = row.companyId

def mapArticle (P : KnowledgePlatform) (s : KnowledgeStore) (row : KbArticle) : ArticleView where
  row := row
  tags := (((row.tags.getD "").splitOn ",").map P.trim).filter (· ≠ "")
  companyName := (companyOf s row).map Company.name
  companySlug := (companyOf s row).bind Company.slug
  ownerFirstName := (ownerOf s row).map User.firstName
  ownerLastName := (ownerOf s row).map User.lastName
  sourceTicketNumber := (sourceTicketOf s row).map Ticket.ticketNumber
  sourceTicketTitle := (sourceTicketOf s row).map Ticket.title

namespace ArticleView

variable (view : ArticleView)

def owner : Option (String × Option String × Option String) :=
  (view.row.ownerId.filter (· ≠ "")).map fun id => (id, view.ownerFirstName, view.ownerLastName)

def sourceTicket : Option (String × Option String × Option String) :=
  (view.row.sourceTicketId.filter (· ≠ "")).map fun id =>
    (id, view.sourceTicketNumber, view.sourceTicketTitle)

def company : Option (String × Option String) :=
  if view.row.companyId ≠ "" then
    some (view.row.companyId, (orElse view.companyName view.companySlug).filter (· ≠ ""))
  else none

end ArticleView

inductive Answer where
  | articles (views : List ArticleView)
  | article (view : ArticleView)
  | success

end Answers

section Requests

inductive KnowledgeRequest where
  | findAll (query : ArticleQuery)
  | findOne (id : Nat)
  | create (dto : ArticlePayload)
  | update (id : Nat) (dto : ArticlePayload)
  | remove (id : Nat)
  | createFromTicket (ticketId : String)

variable (P : KnowledgePlatform) (user : CurrentUser)

def findAll (query : ArticleQuery) (s : KnowledgeStore) : Checked Answer :=
  (selected P user query s).map fun rows => .articles (rows.map (mapArticle P s))

def findOne (id : Nat) (s : KnowledgeStore) : Checked Answer :=
  (getArticle user id s).map fun row => .article (mapArticle P s row)

def insertArticle (row : KbArticle) (s : KnowledgeStore) : KnowledgeStore :=
  if hid : row.id = s.articles.drawn then { s with articles := s.articles.insert row hid } else s

def createArticle (drafted : Checked KbArticle) (s : KnowledgeStore) :
    KnowledgeStore × Checked Answer :=
  match drafted with
  | .error refusal => (s, .error refusal)
  | .ok row => (insertArticle row s, findOne P user row.id (insertArticle row s))

def requestedCompany (dto : ArticlePayload) : Option String :=
  (dto.lookup "companyId").bind fun value => (P.column value).filter fun _ => value.truthy

def create (dto : ArticlePayload) (now : Nat) (s : KnowledgeStore) :
    KnowledgeStore × Checked Answer :=
  createArticle P user (draft P user dto (requestedCompany P dto) now s.articles.drawn) s

def createFromTicket (ticketId : String) (now : Nat) (s : KnowledgeStore) :
    KnowledgeStore × Checked Answer :=
  createArticle P user (draftFromTicket P user ticketId now s) s

/-- `WHERE id = ? AND companyId = ?` -/
def writeArticle (id : Nat) (companyId : String) (change : KbArticle → KbArticle)
    (hid : ∀ row, (change row).id = row.id) (s : KnowledgeStore) : KnowledgeStore :=
  { s with
    articles := s.articles.modify
      (fun row => decide (row.id = id) && decide (row.companyId = companyId)) change hid }

def revision (id : Nat) (dto : ArticlePayload) (s : KnowledgeStore) :
    Checked (KbArticle × ArticleData) := do
  let existing ← getArticle user id s
  let data ← normalizePayload P dto false
  return (existing, data)

def update (id : Nat) (dto : ArticlePayload) (now : Nat) (s : KnowledgeStore) :
    KnowledgeStore × Checked Answer :=
  match revision P user id dto s with
  | .error refusal => (s, .error refusal)
  | .ok (existing, data) =>
    let s' := writeArticle id existing.companyId (KbArticle.revised user data now)
      (fun _ => rfl) s
    (s', findOne P user id s')

def KbArticle.archived (now : Nat) (row : KbArticle) : KbArticle :=
  { row with
    status := "ARCHIVED"
    updatedById := user.id
    updatedAt := now }

def remove (id : Nat) (now : Nat) (s : KnowledgeStore) : KnowledgeStore × Checked Answer :=
  match getArticle user id s with
  | .error refusal => (s, .error refusal)
  | .ok existing =>
    (writeArticle id existing.companyId (KbArticle.archived user now) (fun _ => rfl) s,
      .ok .success)

def KnowledgeRequest.respond (now : Nat) (s : KnowledgeStore) :
    KnowledgeRequest → KnowledgeStore × Checked Answer
  | .findAll query => (s, Knowledge.findAll P user query s)
  | .findOne id => (s, Knowledge.findOne P user id s)
  | .create dto => Knowledge.create P user dto now s
  | .update id dto => Knowledge.update P user id dto now s
  | .remove id => Knowledge.remove user id now s
  | .createFromTicket ticketId => Knowledge.createFromTicket P user ticketId now s

end Requests
end FieldserviceIT.Knowledge
