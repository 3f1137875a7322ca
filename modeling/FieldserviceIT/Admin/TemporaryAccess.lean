import FieldserviceIT.Admin.Accounts
import FieldserviceIT.Lib.Interleaving

/-!
Two ways to more access: a request for a temporary permission, reviewed by
another administrator, and a request for access, which a review turns into a
role, a relationship, or a request of the first kind. What has come of the
reviews and which of them are under way are no tables; no statement reads them.
-/

namespace FieldserviceIT.Admin

open Common Lib

/-- `filedBy` is no column: it is whose request this goes back to. -/
structure ElevationRequest where
  id : String
  companyId : Option String
  userId : String
  permissionSlug : String
  scopeType : String
  scopeValue : Option String
  reason : String
  requestedMinutes : Int
  status : String
  requestedById : String
  reviewedById : Option String
  grantId : Option String
  filedBy : String

structure AccessRequest where
  id : String
  companyId : Option String
  requesterId : String
  requestType : String
  targetId : Option String
  permissionSlug : Option String
  roleId : Option String
  relationshipResourceType : Option String
  relationshipResourceId : Option String
  relationshipName : Option String
  requestedMinutes : Option Int
  reason : String
  status : String
  reviewedById : Option String
  resultRefId : Option String

/-- A row of `TemporaryPermissionGrant`. -/
structure PermissionGrant where
  id : String
  companyId : Option String
  userId : String
  permissionId : String
  grantedById : String
  scopeType : String
  scopeValue : Option String
  reason : String
  startsAt : Int
  expiresAt : Int

/-- A row of `AuthorizationRelationship`. -/
structure Relationship where
  companyId : Option String
  subjectId : String
  relationName : String
  resourceType : String
  resourceId : String
  createdById : String
  deriving DecidableEq

structure AssignableRole where
  id : String
  companyId : Option String
  isSystem : Bool

inductive Workflow where
  | elevation
  | access
  deriving DecidableEq

abbrev RequestKey := Workflow × String

inductive ResultKind where
  | temporaryGrant
  | role
  | relationship
  | elevationRequest
  deriving DecidableEq

/-- What a review has led to. -/
structure Result where
  request : RequestKey
  kind : ResultKind
  beneficiary : String
  requesters : List String
  approver : String

structure AccessStore where
  now : Int
  drawn : Nat
  accounts : List Account
  /-- Identifiers and slugs. -/
  permissions : List (String × String)
  roles : List AssignableRole
  elevations : List ElevationRequest
  accessRequests : List AccessRequest
  grants : List PermissionGrant
  userRoles : List (String × String)
  relationships : List Relationship
  underReview : List RequestKey
  results : List Result

def scopedElevation (rows : List ElevationRequest) (id : String) (actor : CurrentUser) :
    Option ElevationRequest :=
  getScopedRow (·.id) (·.companyId) rows id actor

def scopedAccessRequest (rows : List AccessRequest) (id : String) (actor : CurrentUser) :
    Option AccessRequest :=
  getScopedRow (·.id) (·.companyId) rows id actor

/-- What `reviewElevation` asks of the request it reads. -/
def reviewsElevation (rows : List ElevationRequest) (id : String) (actor : CurrentUser) : Bool :=
  (scopedElevation rows id actor).any fun request =>
    request.status = "PENDING" && request.requestedById ≠ actor.id

/-- What `reviewAccessRequest` asks of the request it reads. -/
def reviewsAccessRequest (rows : List AccessRequest) (id : String) (actor : CurrentUser) : Bool :=
  (scopedAccessRequest rows id actor).any fun request => request.status = "PENDING"

/-- The statements. A review starts with the `SELECT` of its request and ends
with the `UPDATE` of its status or with an error. -/
inductive AccessOp where
  | read
  | insertAccessRequest (row : AccessRequest)
  | insertElevation (row : ElevationRequest) (onBehalf : Option (AccessRequest × String))
  | takeElevation (id : String) (actor : CurrentUser)
  | takeAccessRequest (id : String) (actor : CurrentUser)
  | grant (actorId permissionId : String) (seen : ElevationRequest)
  | assignRole (actorId roleId : String) (seen : AccessRequest)
  | relate (row : Relationship) (seen : AccessRequest)
  | closeElevation (id decision actorId : String) (grantId : Option String)
  | closeAccessRequest (id decision actorId : String) (resultRefId : Option String)
  | giveUp (request : RequestKey)

section Statements

variable (uuid : Nat → String)

def AccessStore.release (request : RequestKey) (s : AccessStore) : AccessStore :=
  { s with underReview := s.underReview.filter (· ≠ request) }

def AccessStore.record (result : Result) (s : AccessStore) : AccessStore :=
  { s with results := result :: s.results }

def execAccess (op : AccessOp) (s : AccessStore) : AccessStore :=
  match op with
  | .read => s
  | .insertAccessRequest row =>
    -- the primary key refuses an identifier that is taken
    if s.accessRequests.any fun other => other.id = uuid s.drawn then
      { s with drawn := s.drawn + 1 }
    else
      { s with
        drawn := s.drawn + 1
        accessRequests := s.accessRequests ++ [{ row with id := uuid s.drawn }] }
  | .insertElevation row onBehalf =>
    if s.elevations.any fun other => other.id = uuid s.drawn then { s with drawn := s.drawn + 1 }
    else
      let s' : AccessStore := { s with
        drawn := s.drawn + 1
        elevations := s.elevations ++ [{ row with id := uuid s.drawn }] }
      match onBehalf with
      | none => s'
      | some (request, actorId) =>
        s'.record ⟨(.access, request.id), .elevationRequest, row.userId,
          [request.requesterId], actorId⟩
  | .takeElevation id actor =>
    if reviewsElevation s.elevations id actor then
      { s with underReview := (.elevation, id) :: s.underReview }
    else s
  | .takeAccessRequest id actor =>
    if reviewsAccessRequest s.accessRequests id actor then
      { s with underReview := (.access, id) :: s.underReview }
    else s
  | .grant actorId permissionId seen =>
    let s' : AccessStore := { s with
      drawn := s.drawn + 1
      grants := s.grants ++
        [{ id := uuid s.drawn
           companyId := seen.companyId
           userId := seen.userId
           permissionId := permissionId
           grantedById := actorId
           scopeType := seen.scopeType
           scopeValue := seen.scopeValue
           reason := seen.reason
           startsAt := s.now
           expiresAt := s.now + seen.requestedMinutes * 60 * 1000 }] }
    s'.record ⟨(.elevation, seen.id), .temporaryGrant, seen.userId,
      [seen.requestedById, seen.filedBy], actorId⟩
  | .assignRole actorId roleId seen =>
    let s' : AccessStore := { s with
      userRoles :=
        if s.userRoles.contains (seen.requesterId, roleId) then s.userRoles
        else s.userRoles ++ [(seen.requesterId, roleId)] }
    s'.record ⟨(.access, seen.id), .role, seen.requesterId, [seen.requesterId], actorId⟩
  | .relate row seen =>
    let same := fun other : Relationship => other.subjectId = row.subjectId &&
      other.relationName = row.relationName && other.resourceType = row.resourceType &&
        other.resourceId = row.resourceId
    let s' : AccessStore := { s with
      drawn := s.drawn + 1
      relationships :=
        if s.relationships.any same then
          s.relationships.map fun other =>
            if same other then { other with companyId := row.companyId } else other
        else s.relationships ++ [row] }
    s'.record ⟨(.access, seen.id), .relationship, row.subjectId, [seen.requesterId],
      row.createdById⟩
  | .closeElevation id decision actorId grantId =>
    { s.release (.elevation, id) with
      elevations := updateRow (·.id) id
        (fun row => { row with
          status := decision, reviewedById := some actorId, grantId := grantId }) s.elevations }
  | .closeAccessRequest id decision actorId resultRefId =>
    { s.release (.access, id) with
      accessRequests := updateRow (·.id) id
        (fun row => { row with
          status := decision, reviewedById := some actorId, resultRefId := resultRefId })
        s.accessRequests }
  | .giveUp request => s.release request

end Statements

abbrev AccessProgram := Prog AccessStore AccessOp

section Requests

variable (uuid : Nat → String)

structure ElevationDto where
  userId : Option String
  permissionSlug : Option String
  scopeType : Option String
  scopeValue : Option String
  reason : Option String
  requestedMinutes : Option Int

/-- `Math.min(480, Math.max(5, Number(dto.requestedMinutes || 60)))` -/
def elevationMinutes (minutes : Option Int) : Int :=
  min 480 (max 5 (if minutes.getD 0 = 0 then 60 else minutes.getD 0))

/-- `requestElevation`, and what goes on with the identifier of the new request
or with an error. -/
def requestElevationThen (dto : ElevationDto) (actor : CurrentUser)
    (onBehalf : Option AccessRequest) (refuse : AccessProgram) (go : String → AccessProgram) :
    AccessProgram :=
  .step .read fun s =>
    match assertUserScope s.accounts ((orElse dto.userId (some actor.id)).getD "") actor with
    | none => refuse
    | some user =>
      if isBlank dto.permissionSlug then refuse
      else if isBlank dto.reason then refuse
      else
        .step
          (.insertElevation
            { id := ""
              companyId := user.companyId
              userId := user.id
              permissionSlug := dto.permissionSlug.getD ""
              scopeType := (orElse dto.scopeType (some "ALL")).getD ""
              scopeValue := if truthy dto.scopeValue then dto.scopeValue else none
              reason := dto.reason.getD ""
              requestedMinutes := elevationMinutes dto.requestedMinutes
              status := "PENDING"
              requestedById := actor.id
              reviewedById := none
              grantId := none
              filedBy := onBehalf.elim actor.id (·.requesterId) }
            (onBehalf.map fun request => (request, actor.id)))
          fun s' =>
            if s'.elevations.any fun other => other.id = uuid s'.drawn then refuse
            else go (uuid s'.drawn)

def requestElevation (dto : ElevationDto) (actor : CurrentUser) : AccessProgram :=
  requestElevationThen uuid dto actor none .fail fun _ => .done

def reviewElevation (id decision : String) (actor : CurrentUser) : AccessProgram :=
  .step (.takeElevation id actor) fun s =>
    match scopedElevation s.elevations id actor with
    | none => .fail
    | some request =>
      if request.status ≠ "PENDING" then .fail
      else if request.requestedById = actor.id then .fail
      else if decision = "APPROVED" then
        .step .read fun s' =>
          match s'.permissions.find? fun permission => permission.2 = request.permissionSlug with
          | none => .step (.giveUp (.elevation, id)) fun _ => .fail
          | some permission =>
            .step (.grant actor.id permission.1 request) fun s'' =>
              .step (.closeElevation id decision actor.id (some (uuid s''.drawn))) fun _ => .done
      else .step (.closeElevation id decision actor.id none) fun _ => .done

structure AccessDto where
  requestType : Option String
  targetId : Option String
  permissionSlug : Option String
  roleId : Option String
  resourceType : Option String
  resourceId : Option String
  relationshipName : Option String
  requestedMinutes : Option Int
  reason : Option String

def createAccessRequest (dto : AccessDto) (actor : CurrentUser) : AccessProgram :=
  if !(["PERMISSION", "ROLE", "RELATIONSHIP"].contains (upperCased dto.requestType)) then .fail
  else if isBlank dto.reason then .fail
  else
    .step
      (.insertAccessRequest
        { id := ""
          companyId := actor.companyId
          requesterId := actor.id
          requestType := upperCased dto.requestType
          targetId := orElse dto.targetId (some actor.id)
          permissionSlug := orNull dto.permissionSlug
          roleId := orNull dto.roleId
          relationshipResourceType := orNull dto.resourceType
          relationshipResourceId := orNull dto.resourceId
          relationshipName := orNull dto.relationshipName
          requestedMinutes := dto.requestedMinutes
          reason := dto.reason.getD ""
          status := "PENDING"
          reviewedById := none
          resultRefId := none })
      fun _ => .done

/-- `addRelationship` on behalf of a request; the column takes no missing resource. -/
def relationshipOf (request : AccessRequest) (resourceId : String) (actor : CurrentUser) :
    Relationship where
  companyId := actor.companyId
  subjectId := request.requesterId
  relationName := String.ofList
    (((orElse request.relationshipName (some "viewer")).getD "").toList.map Char.toLower)
  resourceType := upperCased request.relationshipResourceType
  resourceId := resourceId
  createdById := actor.id

def reviewAccessRequest (id decision : String) (actor : CurrentUser) : AccessProgram :=
  .step (.takeAccessRequest id actor) fun s =>
    match scopedAccessRequest s.accessRequests id actor with
    | none => .fail
    | some request =>
      let refuse : AccessProgram := .step (.giveUp (.access, id)) fun _ => .fail
      let close : Option String → AccessProgram := fun resultRefId =>
        .step (.closeAccessRequest id decision actor.id resultRefId) fun _ => .done
      if request.status ≠ "PENDING" then .fail
      else if decision = "APPROVED" && request.requestType = "PERMISSION" then
        requestElevationThen uuid
          { userId := orElse request.targetId (some request.requesterId)
            permissionSlug := request.permissionSlug
            scopeType := none
            scopeValue := none
            reason := some request.reason
            requestedMinutes := request.requestedMinutes }
          actor (some request) refuse fun elevationId => close (some elevationId)
      else if decision = "APPROVED" && request.requestType = "RELATIONSHIP" then
        match request.relationshipResourceId with
        | none => refuse
        | some resourceId =>
          .step (.relate (relationshipOf request resourceId actor) request) fun s' =>
            close (some (uuid s'.drawn))
      else if decision = "APPROVED" && request.requestType = "ROLE" && truthy request.roleId then
        .step .read fun s' =>
          match s'.roles.find? fun role => some role.id = request.roleId with
          | none => refuse
          | some role =>
            if actor.role ≠ .superAdmin && role.companyId ≠ actor.companyId &&
                !role.isSystem then refuse
            else
              .step (.assignRole actor.id role.id request) fun _ => close request.roleId
      else close none

inductive AccessCall where
  | requestElevation (dto : ElevationDto) (actor : CurrentUser)
  | reviewElevation (id decision : String) (actor : CurrentUser)
  | createAccessRequest (dto : AccessDto) (actor : CurrentUser)
  | reviewAccessRequest (id decision : String) (actor : CurrentUser)

def AccessCall.handler : AccessCall → AccessProgram
  | requestElevation dto actor => Admin.requestElevation uuid dto actor
  | reviewElevation id decision actor => Admin.reviewElevation uuid id decision actor
  | createAccessRequest dto actor => Admin.createAccessRequest dto actor
  | reviewAccessRequest id decision actor => Admin.reviewAccessRequest uuid id decision actor

def accessSystem : System AccessStore AccessOp AccessCall where
  exec := execAccess uuid
  tick s := { s with now := s.now + 1 }
  handler := AccessCall.handler uuid
  sendable _ _ := True

end Requests
end FieldserviceIT.Admin
