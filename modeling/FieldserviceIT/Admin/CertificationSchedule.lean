import FieldserviceIT.Common.Users
import FieldserviceIT.Lib.Interleaving
import FieldserviceIT.Lib.Upserts

/-!
The access certification schedule. Every instance runs it daily: for each completed campaign that
recurs and is due it inserts a campaign, an item for each active user, and then moves the date on.
Beside it reviews are created and their items decided; that a revocation also takes roles away is
not read here. A statement that fails ends its program, which is then one that is not advanced any
further; the two queries that are caught find nothing then.
-/

namespace FieldserviceIT.Admin.Certification

open Common Lib

inductive Cadence where
  | monthly
  | quarterly
  deriving DecidableEq

def Cadence.ofName : String → Option Cadence
  | "MONTHLY" => some .monthly
  | "QUARTERLY" => some .quarterly
  | _ => none

def Cadence.months : Cadence → Nat
  | monthly => 1
  | quarterly => 3

/-- `DATE_ADD(date, INTERVAL n MONTH)` and `toUpperCase`. -/
structure CertificationPlatform where
  addMonths : Nat → Nat → Nat
  toUpperCase : String → String

inductive ReviewStatus where
  | opened
  | completed
  deriving DecidableEq

structure AccessReviewCampaign where
  id : Nat
  companyId : Option String
  name : String
  status : ReviewStatus
  dueAt : Option Nat
  cadence : Option Cadence
  reminderDays : Nat
  nextRunAt : Option Nat
  createdById : String
  completedAt : Option Nat
  deriving DecidableEq

/-- An item is the one of its campaign and its user. -/
structure AccessReviewItem where
  campaignId : Nat
  userId : String
  decision : String

def AccessReviewItem.key (item : AccessReviewItem) : Nat × String :=
  (item.campaignId, item.userId)

structure ReviewUser where
  id : String
  companyId : Option String
  isActive : Bool
  deletedAt : Option Nat

/-- A campaign that was created for a due date of another. -/
structure FollowUp where
  source : Nat
  due : Nat
  campaign : Nat

def FollowUp.key (followUp : FollowUp) : Nat × Nat :=
  (followUp.source, followUp.due)

/-- No statement reads `followUps`, `selections` (who was active when the users of a campaign were
selected) and `passed` (the due dates that campaigns have been moved on from). -/
structure ReviewStore where
  campaigns : NumberedTable AccessReviewCampaign AccessReviewCampaign.id
  campaigns_distinct : Distinct AccessReviewCampaign.id campaigns.rows
  items : List AccessReviewItem
  items_distinct : Distinct AccessReviewItem.key items
  users : List ReviewUser
  alerts : List Nat
  now : Nat
  followUps : List FollowUp
  selections : List (Nat × List String)
  passed : List (Nat × Nat)

inductive ReviewOp where
  | read
  | alert (campaignId : Nat)
  | insertCampaign (campaign : AccessReviewCampaign)
  | insertFollowUp (source : AccessReviewCampaign)
  | selectDue
  | selectUsers (campaignId : Nat) (companyId : Option String)
  | insertItem (campaignId : Nat) (userId : String)
  | advance (campaignId : Nat) (months : Nat)
  | decide (campaignId : Nat) (userId decision : String)
  | complete (campaignId : Nat)
  | putUser (user : ReviewUser)

abbrev ReviewProgram := Prog ReviewStore ReviewOp

section Statements

def findCampaign (id : Nat) (s : ReviewStore) : Option AccessReviewCampaign :=
  s.campaigns.rows.find? fun row => row.id = id

def nextRunOf (id : Nat) (s : ReviewStore) : Option Nat :=
  (findCampaign id s).bind AccessReviewCampaign.nextRunAt

def AccessReviewCampaign.due (source : AccessReviewCampaign) : Nat :=
  source.nextRunAt.getD 0

def day : Nat := 86400000

/-- The columns of a follow-up, in the place of the id it is given. -/
def AccessReviewCampaign.followUp (source : AccessReviewCampaign) (now id : Nat) :
    AccessReviewCampaign where
  id := id
  companyId := source.companyId
  name := source.name
  status := .opened
  dueAt := some (now + 14 * day)
  cadence := source.cadence
  reminderDays := source.reminderDays
  nextRunAt := none
  createdById := source.createdById
  completedAt := none

def AccessReviewCampaign.advanced (P : CertificationPlatform) (months : Nat)
    (row : AccessReviewCampaign) : AccessReviewCampaign :=
  { row with nextRunAt := row.nextRunAt.map fun date => P.addMonths date months }

def AccessReviewCampaign.ended (now : Nat) (row : AccessReviewCampaign) : AccessReviewCampaign :=
  { row with
    status := .completed
    completedAt := some now }

def activeUsers (companyId : Option String) (s : ReviewStore) : List String :=
  (s.users.filter fun user => user.isActive && user.deletedAt.isNone &&
    (!truthy companyId || decide (user.companyId = companyId))).map ReviewUser.id

theorem distinct_insert (s : ReviewStore) {row : AccessReviewCampaign}
    (hid : row.id = s.campaigns.drawn) :
    Distinct AccessReviewCampaign.id (s.campaigns.insert row hid).rows :=
  s.campaigns_distinct.append fun other hother heq =>
    Nat.ne_of_lt (s.campaigns.below other hother) (heq.trans hid)

def insertRow (row : Nat → AccessReviewCampaign) (hid : ∀ id, (row id).id = id) (s : ReviewStore) :
    ReviewStore :=
  { s with
    campaigns := s.campaigns.insert (row s.campaigns.drawn) (hid s.campaigns.drawn)
    campaigns_distinct := distinct_insert s (hid s.campaigns.drawn) }

theorem distinct_modify (s : ReviewStore) (id : Nat)
    {change : AccessReviewCampaign → AccessReviewCampaign} (hid : ∀ row, (change row).id = row.id) :
    Distinct AccessReviewCampaign.id
      (s.campaigns.modify (fun row => row.id = id) change hid).rows :=
  s.campaigns_distinct.updateWhere fun row _ => hid row

/-- `UPDATE AccessReviewCampaign ... WHERE id = ?` -/
def modifyRow (id : Nat) (change : AccessReviewCampaign → AccessReviewCampaign)
    (hid : ∀ row, (change row).id = row.id) (s : ReviewStore) : ReviewStore :=
  { s with
    campaigns := s.campaigns.modify (fun row => row.id = id) change hid
    campaigns_distinct := distinct_modify s id hid }

/-- `INSERT IGNORE` under the unique key. -/
def withItem (item : AccessReviewItem) (items : List AccessReviewItem) : List AccessReviewItem :=
  if items.any fun other => other.key = item.key then items else items ++ [item]

theorem distinct_withItem {items : List AccessReviewItem}
    (h : Distinct AccessReviewItem.key items) (item : AccessReviewItem) :
    Distinct AccessReviewItem.key (withItem item items) := by
  rw [withItem]
  split
  · exact h
  next hnone =>
    refine h.append fun other hother hkey => hnone ?_
    exact List.any_eq_true.mpr ⟨other, hother, decide_eq_true hkey⟩

def decided (campaignId : Nat) (userId decision : String) (items : List AccessReviewItem) :
    List AccessReviewItem :=
  updateWhere (fun item => item.key = (campaignId, userId))
    (fun item => { item with decision := decision }) items

theorem distinct_decided {items : List AccessReviewItem}
    (h : Distinct AccessReviewItem.key items) (campaignId : Nat) (userId decision : String) :
    Distinct AccessReviewItem.key (decided campaignId userId decision items) :=
  h.updateWhere fun _ _ => rfl

def execReview (P : CertificationPlatform) (op : ReviewOp) (s : ReviewStore) : ReviewStore :=
  match op with
  | .read | .selectDue => s
  | .alert campaignId => { s with alerts := s.alerts ++ [campaignId] }
  | .insertCampaign campaign =>
    insertRow (fun id => { campaign with id := id }) (fun _ => rfl) s
  | .insertFollowUp source =>
    { insertRow (source.followUp s.now) (fun _ => rfl) s with
      followUps := ⟨source.id, source.due, s.campaigns.drawn⟩ :: s.followUps }
  | .selectUsers campaignId companyId =>
    { s with selections := (campaignId, activeUsers companyId s) :: s.selections }
  | .insertItem campaignId userId =>
    { s with
      items := withItem ⟨campaignId, userId, "PENDING"⟩ s.items
      items_distinct := distinct_withItem s.items_distinct _ }
  | .advance campaignId months =>
    { modifyRow campaignId (AccessReviewCampaign.advanced P months) (fun _ => rfl) s with
      passed := ((nextRunOf campaignId s).map fun date => (campaignId, date)).toList ++ s.passed }
  | .decide campaignId userId decision =>
    { s with
      items := decided campaignId userId decision s.items
      items_distinct := distinct_decided s.items_distinct _ _ _ }
  | .complete campaignId =>
    modifyRow campaignId (AccessReviewCampaign.ended s.now) (fun _ => rfl) s
  | .putUser user =>
    { s with users := insertOrUpdate ReviewUser.id user (fun _ => user) s.users }

end Statements

section Programs

def fill (campaignId : Nat) (users : List String) (rest : ReviewProgram) : ReviewProgram :=
  users.foldr (fun user rest => .step (.insertItem campaignId user) fun _ => rest) rest

def certify : List AccessReviewCampaign → ReviewProgram
  | [] => .done
  | source :: sources =>
    .step (.insertFollowUp source) fun s =>
      .step (.selectUsers s.campaigns.drawn source.companyId) fun s' =>
        fill s.campaigns.drawn (activeUsers source.companyId s')
          (.step (.advance source.id ((source.cadence.map Cadence.months).getD 3)) fun _ =>
            certify sources)

def isReminded (now : Nat) (row : AccessReviewCampaign) : Bool :=
  decide (row.status = .opened) && row.dueAt.any fun date => date ≤ now + row.reminderDays * day

def isDue (now : Nat) (row : AccessReviewCampaign) : Bool :=
  decide (row.status = .completed) && row.cadence.isSome && row.nextRunAt.any fun date => date ≤ now

def dueSources (s : ReviewStore) : List AccessReviewCampaign :=
  s.campaigns.rows.filter (isDue s.now)

def remind (campaigns : List AccessReviewCampaign) (rest : ReviewProgram) : ReviewProgram :=
  campaigns.foldr (fun row rest => .step (.alert row.id) fun _ => rest) rest

def processAccessCertificationSchedule : ReviewProgram :=
  .step .read fun s =>
    remind (s.campaigns.rows.filter (isReminded s.now)) (.step .selectDue fun s' =>
      certify (dueSources s'))

structure ReviewDto where
  name : String
  dueAt : Option Nat
  cadence : Option String
  reminderDays : Option Nat

/-- The row of a new review, with a date for any text as its cadence. -/
def newReview (P : CertificationPlatform) (dto : ReviewDto) (companyId : Option String)
    (actorId : String) (now : Nat) : AccessReviewCampaign where
  id := 0
  companyId := companyId
  name := dto.name
  status := .opened
  dueAt := dto.dueAt
  cadence := (dto.cadence.map P.toUpperCase).bind Cadence.ofName
  reminderDays := match dto.reminderDays with
    | none | some 0 => 7
    | some days => days
  nextRunAt := (dto.cadence.filter (· ≠ "")).map fun cadence =>
    now + (if P.toUpperCase cadence = "MONTHLY" then 30 else 90) * day
  createdById := actorId
  completedAt := none

def createAccessReview (P : CertificationPlatform) (dto : ReviewDto) (actor : CurrentUser) :
    ReviewProgram :=
  let companyId := if actor.role = .superAdmin then none else actor.companyId
  .step .read fun s =>
    .step (.insertCampaign (newReview P dto companyId actor.id s.now)) fun s =>
      .step (.selectUsers s.campaigns.drawn companyId) fun s' =>
        fill s.campaigns.drawn (activeUsers companyId s') .done

def hasPending (campaignId : Nat) (s : ReviewStore) : Bool :=
  s.items.any fun item => item.campaignId = campaignId && item.decision = "PENDING"

def decideAccessReviewItem (campaignId : Nat) (userId decision : String) (actor : CurrentUser) :
    ReviewProgram :=
  .step .read fun s =>
    match (findCampaign campaignId s).filter fun row =>
        decide (actor.role = .superAdmin) || decide (row.companyId = actor.companyId) with
    | none => .fail
    | some _ =>
      .step (.decide campaignId userId decision) fun _ =>
        .step .read fun s =>
          if hasPending campaignId s then .done
          else .step (.complete campaignId) fun _ => .done

inductive ReviewRequest where
  | schedule
  | createAccessReview (dto : ReviewDto) (actor : CurrentUser)
  | decide (campaignId : Nat) (userId decision : String) (actor : CurrentUser)
  /-- A user is added or changed. -/
  | putUser (user : ReviewUser)

def ReviewRequest.handler (P : CertificationPlatform) : ReviewRequest → ReviewProgram
  | schedule => processAccessCertificationSchedule
  | createAccessReview dto actor => Certification.createAccessReview P dto actor
  | decide campaignId userId decision actor =>
    decideAccessReviewItem campaignId userId decision actor
  | putUser user => .step (.putUser user) fun _ => .done

def certificationSystem (P : CertificationPlatform) : System ReviewStore ReviewOp ReviewRequest where
  exec := execReview P
  tick s := { s with now := s.now + 1 }
  handler := ReviewRequest.handler P
  sendable _ _ := True

end Programs
end FieldserviceIT.Admin.Certification
