import FieldserviceIT.Admin.Accounts
import FieldserviceIT.Admin.Scim
import FieldserviceIT.Common.Credential
import FieldserviceIT.Lib.OneTime

/-!
Privacy requests: the verification link, the administrator's update with the export or
the deletion job it leads to, and the export link. Every call reads first and writes
later; only the two links are used up by conditional updates.
-/

namespace FieldserviceIT.Privacy

open Common Lib Admin

inductive PrivacyRequestType where
  | access
  | correction
  | deletion
  | export
  | optOut
  | appeal
  deriving DecidableEq

inductive PrivacyStatus where
  | received
  | verifying
  | inReview
  | completed
  | denied
  | canceled
  deriving DecidableEq

structure PrivacyRequest where
  id : String
  companyId : Option String
  requestType : PrivacyRequestType
  status : PrivacyStatus
  verificationTokenHash : Option String
  verificationExpiresAt : Int
  verifiedAt : Option Int
  identityVerifiedAt : Option Int
  assignedToId : Option String
  resolutionNotes : Option String
  legalHoldAt : Option Int
  legalHoldReason : Option String
  deletionApprovedAt : Option Int
  deletionApprovedById : Option String
  completedAt : Option Int
  updatedAt : Int

structure UpdatePrivacyRequestDto where
  status : PrivacyStatus
  identityVerified : Bool
  resolutionNotes : Option String
  assignedToId : Option String
  legalHold : Option Bool
  legalHoldReason : Option String
  deletionApproved : Bool

structure PrivacyExportArtifact where
  id : String
  requestId : String
  tokenHash : String
  content : String
  expiresAt : Int
  downloadedAt : Option Int

/-- `request` is no column: it is the request as it is when the job is inserted. -/
structure PrivacyActionJob where
  id : String
  requestId : String
  approvedById : String
  approvedAt : Int
  request : Option PrivacyRequest

/-- The last four fields are no tables. They say which requests were verified in which
status, which were completed, and which links were answered; no call reads them. -/
structure Office where
  requests : List PrivacyRequest
  artifacts : List PrivacyExportArtifact
  jobs : List PrivacyActionJob
  now : Int
  verified : List (String × PrivacyStatus)
  completed : List String
  answeredLinks : List Answer
  answeredExports : List Answer

/-- What the platform draws at random for a call. -/
structure Draws where
  artifactId : String
  exportTokenHash : String
  exportContent : String
  jobId : String

section Statements

/-- `value?.trim() || null` -/
def trimmedOrNull (value : Option String) : Option String :=
  orNull (value.map trimmed)

def isClosing (status : PrivacyStatus) : Bool :=
  status = .completed || status = .denied || status = .canceled

/-- The columns `update` sets; `seen` is the row it has read. -/
def UpdatePrivacyRequestDto.apply (dto : UpdatePrivacyRequestDto) (userId : String) (now : Int)
    (seen row : PrivacyRequest) : PrivacyRequest :=
  { row with
    status := dto.status
    identityVerifiedAt :=
      if dto.identityVerified then some (row.identityVerifiedAt.getD now)
      else row.identityVerifiedAt
    assignedToId := some (((orNull dto.assignedToId).or row.assignedToId).getD userId)
    resolutionNotes := (trimmedOrNull dto.resolutionNotes).or (orNull seen.resolutionNotes)
    legalHoldAt :=
      match dto.legalHold with
      | some true => some (row.legalHoldAt.getD now)
      | some false => none
      | none => row.legalHoldAt
    legalHoldReason :=
      match dto.legalHold with
      | some true => trimmedOrNull dto.legalHoldReason
      | some false => none
      | none => row.legalHoldReason
    deletionApprovedAt :=
      if dto.deletionApproved then some (row.deletionApprovedAt.getD now)
      else row.deletionApprovedAt
    deletionApprovedById :=
      if dto.deletionApproved then some userId else row.deletionApprovedById
    completedAt := if isClosing dto.status then some now else none
    updatedAt := now }

def PrivacyRequest.verify (now : Int) (row : PrivacyRequest) : PrivacyRequest :=
  { row with
    status := .received, verifiedAt := some now, identityVerifiedAt := some now
    verificationTokenHash := none, updatedAt := now }

def completes (dto : UpdatePrivacyRequestDto) (seen : PrivacyRequest) : Bool :=
  dto.status = .completed && seen.status ≠ .completed

def completesDeletion (dto : UpdatePrivacyRequestDto) (seen : PrivacyRequest) : Bool :=
  completes dto seen && seen.requestType = .deletion

/-- `DATE_ADD(NOW(3), INTERVAL 24 HOUR)` -/
def inADay (now : Int) : Int :=
  now + 24 * 60 * 60 * 1000

def newRequest (id : String) (companyId : Option String) (requestType : PrivacyRequestType)
    (verificationTokenHash : String) (now : Int) : PrivacyRequest where
  id := id
  companyId := companyId
  requestType := requestType
  status := .verifying
  verificationTokenHash := some verificationTokenHash
  verificationExpiresAt := inADay now
  verifiedAt := none
  identityVerifiedAt := none
  assignedToId := none
  resolutionNotes := none
  legalHoldAt := none
  legalHoldReason := none
  deletionApprovedAt := none
  deletionApprovedById := none
  completedAt := none
  updatedAt := now

inductive PrivacyOp where
  | read
  | insertRequest (id : String) (companyId : Option String) (requestType : PrivacyRequestType)
      (verificationTokenHash : String)
  | verify (id : String)
  | update (id : String) (dto : UpdatePrivacyRequestDto) (userId : String) (seen : PrivacyRequest)
  | insertArtifact (id requestId tokenHash content : String)
  | insertJob (id requestId userId : String) (seen : PrivacyRequest)
  | download (id : String)
  | answerLink (answer : Answer)
  | answerExport (answer : Answer)

variable (key : String → String)

/-- Rows the verification `UPDATE` changes. -/
def unverified (id : String) (row : PrivacyRequest) : Bool :=
  key row.id = key id && row.verifiedAt.isNone

def notDownloaded (id : String) (row : PrivacyExportArtifact) : Bool :=
  key row.id = key id && row.downloadedAt.isNone

/-- `key` is what the server compares ids by. -/
def execPrivacy : PrivacyOp → Office → Office
  | .read, s => s
  | .insertRequest id companyId requestType verificationTokenHash, s =>
    -- the primary key refuses an id that is taken
    if s.requests.any fun other => key other.id = key id then s
    else
      { s with
        requests := s.requests ++
          [newRequest id companyId requestType verificationTokenHash s.now] }
  | .verify id, s =>
    { s with
      requests := updateWhere (unverified key id) (·.verify s.now) s.requests
      verified := s.verified ++
        (s.requests.filter (unverified key id)).map fun row => (row.id, row.status) }
  | .update id dto userId seen, s =>
    { s with
      requests := updateWhere (fun row => key row.id = key id) (dto.apply userId s.now seen)
        s.requests
      completed := if completesDeletion dto seen then s.completed ++ [key id] else s.completed }
  | .insertArtifact id requestId tokenHash content, s =>
    if s.artifacts.any fun other => key other.id = key id then s
    else
      { s with
        artifacts := s.artifacts ++
          [{ id := id
             requestId := requestId
             tokenHash := tokenHash
             content := content
             expiresAt := inADay s.now
             downloadedAt := none }] }
  | .insertJob id requestId userId _, s =>
    { s with
      jobs := s.jobs ++
        [{ id := id
           requestId := requestId
           approvedById := userId
           approvedAt := s.now
           request := s.requests.find? fun row => key row.id = key requestId }] }
  | .download id, s =>
    { s with
      artifacts := updateWhere (notDownloaded key id)
        (fun row => { row with downloadedAt := some s.now }) s.artifacts }
  | .answerLink answer, s => { s with answeredLinks := s.answeredLinks ++ [answer] }
  | .answerExport answer, s => { s with answeredExports := s.answeredExports ++ [answer] }

end Statements

abbrev PrivacyProgram := Prog Office PrivacyOp

section Calls

variable (H : Hashing) (key : String → String)

/-- The account a request is about is found before; `companyId` is that account's. -/
def create (id : String) (companyId : Option String) (requestType : PrivacyRequestType)
    (verificationToken : String) : PrivacyProgram :=
  .step
    (.insertRequest id companyId requestType (hashCredential H verificationToken))
    fun _ => .done

def verifiable (now : Int) (token : String) (row : PrivacyRequest) : Bool :=
  row.status = .verifying && now < row.verificationExpiresAt && row.verifiedAt.isNone &&
    credentialMatches H token row.verificationTokenHash

def verify (token : String) (startedAt : Int) : PrivacyProgram :=
  .step .read fun s =>
    match s.requests.find? (verifiable H s.now token) with
    | none => .fail
    | some request =>
      .step (.verify request.id) fun s' =>
        if s'.requests.any (unverified key request.id) then
          .step (.answerLink ⟨request.id, startedAt⟩) fun _ => .done
        else .fail

def findRequest (s : Office) (id : String) (user : CurrentUser) : Option PrivacyRequest :=
  let companyId := orElse user.effectiveCompanyId user.companyId
  s.requests.find? fun row => key row.id = key id &&
    ((user.role = .superAdmin && !truthy companyId) ||
      (row.companyId.any fun company => companyId.any fun own => key company = key own))

/-- The checks `update` makes on the row it has read. -/
def admits (dto : UpdatePrivacyRequestDto) (seen : PrivacyRequest) : Bool :=
  !(dto.status = .completed && seen.identityVerifiedAt.isNone && !dto.identityVerified) &&
    !(dto.status = .denied && isBlank dto.resolutionNotes && !truthy seen.resolutionNotes) &&
    !(dto.legalHold = some true && isBlank dto.legalHoldReason) &&
    !(dto.status = .completed && seen.requestType = .deletion &&
      (seen.legalHoldAt.isSome || dto.legalHold = some true)) &&
    !(dto.status = .completed && seen.requestType = .deletion &&
      seen.deletionApprovedAt.isNone && !dto.deletionApproved)

def update (id : String) (dto : UpdatePrivacyRequestDto) (user : CurrentUser) (draws : Draws) :
    PrivacyProgram :=
  .step .read fun s =>
    match findRequest key s id user with
    | none => .fail
    | some existing =>
      if !admits dto existing then .fail
      else
        .step (.update id dto user.id existing) fun _ =>
          if completes dto existing &&
              (existing.requestType = .access || existing.requestType = .export) then
            .step
              (.insertArtifact draws.artifactId existing.id draws.exportTokenHash
                draws.exportContent)
              fun _ => .done
          else if completesDeletion dto existing then
            .step (.insertJob draws.jobId id user.id existing) fun _ => .done
          else .done

/-- `opens`: the content of the artifact can be decrypted and read. -/
def downloadExport (token : String) (startedAt : Int) (opens : String → Bool) : PrivacyProgram :=
  .step .read fun s =>
    match s.artifacts.find? fun row => row.downloadedAt.isNone && s.now < row.expiresAt &&
        credentialMatches H token (some row.tokenHash) with
    | none => .fail
    | some artifact =>
      .step (.download artifact.id) fun s' =>
        if s'.artifacts.any (notDownloaded key artifact.id) then
          if opens artifact.content then
            .step (.answerExport ⟨artifact.id, startedAt⟩) fun _ => .done
          else .fail
        else .fail

inductive PrivacyCall where
  | create (id : String) (companyId : Option String) (requestType : PrivacyRequestType)
      (verificationToken : String)
  | verify (token : String) (startedAt : Int)
  | update (id : String) (dto : UpdatePrivacyRequestDto) (user : CurrentUser) (draws : Draws)
  | downloadExport (token : String) (startedAt : Int) (opens : String → Bool)

def PrivacyCall.handler : PrivacyCall → PrivacyProgram
  | .create id companyId requestType verificationToken =>
    Privacy.create H id companyId requestType verificationToken
  | .verify token startedAt => Privacy.verify H key token startedAt
  | .update id dto user draws => Privacy.update key id dto user draws
  | .downloadExport token startedAt opens => Privacy.downloadExport H key token startedAt opens

def PrivacyCall.startsNow (s : Office) : PrivacyCall → Prop
  | .verify _ startedAt | .downloadExport _ startedAt _ => startedAt = s.now
  | _ => True

def privacySystem : System Office PrivacyOp PrivacyCall where
  exec := execPrivacy key
  tick s := { s with now := s.now + 1 }
  handler := PrivacyCall.handler H key
  sendable s call := call.startsNow s

end Calls
end FieldserviceIT.Privacy
