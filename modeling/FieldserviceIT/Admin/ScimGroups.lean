import FieldserviceIT.Admin.Scim
import FieldserviceIT.Lib.Tables

/-!
Everything a tenant's identity provider does over SCIM: users, and groups, whose
members are given the roles that the groups are mapped to. Bodies are whatever JSON
the provider sends. Every call is a sequence of statements, and what was written
before one of them fails stays written.
-/

namespace FieldserviceIT.Admin

open Common Lib Sql

/-- `externalId` is unique in a company. -/
structure ScimGroup where
  id : String
  companyId : String
  externalId : Option String
  displayName : String
  deriving DecidableEq

/-- The key of `ScimGroupMember` is the whole row. -/
structure ScimGroupMember where
  groupId : String
  userId : String
  deriving DecidableEq

structure ScimGroupRoleMapping where
  companyId : String
  externalGroupId : String
  roleId : Option String
  isActive : Bool
  deriving DecidableEq

/-- A row of `Session`. -/
structure LoginSession where
  id : String
  userId : String
  revokedAt : Option Int
  revokeReason : Option String
  deriving DecidableEq

structure Provisioning extends Directory where
  groups : List ScimGroup
  members : List ScimGroupMember
  mappings : List ScimGroupRoleMapping
  logins : List LoginSession

section Users

def userSystem : System Directory UserOp UserProgram where
  exec := execUser
  tick d := d
  handler program := program
  sendable _ _ := True

def revokedLogin (now : Int) (login : LoginSession) : LoginSession :=
  { login with revokedAt := some now, revokeReason := some "scim-user-change" }

def Provisioning.revokeSessions (userId : String) (s : Provisioning) : Provisioning :=
  { s with
    logins :=
      updateWhere (fun login => login.revokedAt.isNone && login.userId = userId)
        (revokedLogin s.now) s.logins }

/-- A call that changes a user ends the sessions of the user, unless it has failed. -/
def changeUser (id : String) (program : UserProgram) (s : Provisioning) : Provisioning :=
  let changed := { s with toDirectory := userSystem.alone program s.toDirectory }
  if userSystem.throws program s.toDirectory then changed else changed.revokeSessions id

inductive ScimUserRequest where
  | createUser (body : Js)
  | replaceUser (id : String) (body : Js)
  | patchUser (id : String) (body : Js)
  | deleteUser (id : String)

variable (uuid : Nat → String)

def ScimUserRequest.perform (companyId : String) : ScimUserRequest → Provisioning → Provisioning
  | createUser body, s =>
    if scimEmail body = "" then s
    else if s.users.any fun user => user.email = scimEmail body then s
    else
      let row := provisionedUser (uuid s.drawn) companyId body
      let drawn := { s with drawn := s.drawn + 1 }
      if s.users.any fun user => user.id = row.id || clashes row user then drawn
      else { drawn with users := s.users ++ [row] }
  | replaceUser id body, s => changeUser id (Admin.replaceUser companyId id body) s
  | patchUser id body, s => changeUser id (Admin.patchUser companyId id body) s
  | deleteUser id, s => changeUser id (Admin.deleteUser companyId id) s

end Users

section Members

/-- `text.split('/').pop()` -/
def lastSegment (text : String) : String :=
  String.ofList (text.toList.reverse.takeWhile (· ≠ '/')).reverse

/-- The user a member of the list refers to; a missing one has no properties to read. -/
def memberRef (member : Js) : Option String :=
  match member with
  | .null | .undefined => none
  | _ =>
    some <| lastSegment <| stringOf <|
      eitherOf (member.property "value") (eitherOf (member.property "$ref") (.text ""))

/-- The users a list of members names, each once; `none` where reading it throws. -/
def listedUsers (members : Js) : Option (List String) :=
  match eitherOf members (.array []) with
  | .array items => (items.mapM memberRef).map fun refs => (refs.filter (· ≠ "")).eraseDups
  | _ => none

def ScimGroupRoleMapping.names (mapping : ScimGroupRoleMapping) (companyId : String)
    (externalIds : List String) : Bool :=
  mapping.companyId = companyId && mapping.isActive &&
    externalIds.contains mapping.externalGroupId

/-- What the mappings of a company give to a group that goes by these ids. -/
def rolesFor (companyId : String) (externalIds : List String) (s : Provisioning) : List String :=
  (s.mappings.filter fun mapping => mapping.names companyId externalIds).filterMap (·.roleId)

/-- A group goes by its own id and by the one the provider gave it. -/
def ScimGroup.ids (group : ScimGroup) : List String :=
  group.id :: group.externalId.toList

namespace Provisioning

variable (s : Provisioning)

def findGroup (companyId id : String) : Option ScimGroup :=
  s.groups.find? fun group => group.id = id && group.companyId = companyId

/-- The mapped roles as `applyGroupMappings` reads them. -/
def groupRoles (companyId groupId : String) : List String :=
  rolesFor companyId
    (groupId :: ((s.groups.find? fun group => group.id = groupId).bind (·.externalId)).toList) s

def bumpAuthVersion (userId : String) : Provisioning :=
  { s with
    users :=
      updateWhere (fun user => user.id = userId)
        (fun user => { user with authVersion := user.authVersion + 1 }) s.users }

end Provisioning

def provision (roles : List String) (s : Provisioning) (userId : String) : Provisioning :=
  let given : Provisioning :=
    { s with
      userRoles :=
        roles.foldl (fun rows roleId => insertIgnore (userId, roleId) rows) s.userRoles }
  if roles.isEmpty then given else (given.bumpAuthVersion userId).revokeSessions userId

def applyGroupMappings (companyId groupId : String) (userIds : List String) (s : Provisioning) :
    Provisioning :=
  userIds.foldl (provision (s.groupRoles companyId groupId)) s

def enrol (companyId groupId : String) (s : Provisioning) (userId : String) : Provisioning :=
  if (s.findScimUser companyId userId).isSome then
    { s with members := insertIgnore ⟨groupId, userId⟩ s.members }
  else s

def replaceGroupMembers (companyId groupId : String) (members : Js) (s : Provisioning) :
    Provisioning :=
  let emptied := { s with members := s.members.filter (·.groupId ≠ groupId) }
  match listedUsers members with
  | none => emptied
  | some userIds =>
    applyGroupMappings companyId groupId userIds
      (userIds.foldl (enrol companyId groupId) emptied)

end Members

section Groups

def ScimGroup.clashes (row other : ScimGroup) : Bool :=
  row.companyId = other.companyId && row.externalId.isSome && row.externalId = other.externalId

/-- `UPDATE ScimGroup ... WHERE id = ? AND companyId = ?`; `none` where a key refuses it. -/
def Provisioning.updateGroup (companyId id : String) (change : ScimGroup → ScimGroup)
    (s : Provisioning) : Option Provisioning :=
  let named (group : ScimGroup) : Bool := group.id = id && group.companyId = companyId
  if s.groups.any fun group => named group &&
      s.groups.any fun other => other.id ≠ group.id && (change group).clashes other then none
  else some { s with groups := updateWhere named change s.groups }

/-- `String(value || '').trim()` -/
def trimmedText (value : Js) : String :=
  trimmed (stringOf (eitherOf value (.text "")))

/-- What a patch has come to: the name, and the members if they are to be replaced. -/
structure GroupPatch where
  displayName : String
  members : Option (List Js)

def itemsOf : Js → List Js
  | .array items => items
  | _ => []

def memberRefs (groupId : String) (s : Provisioning) : List Js :=
  (s.members.filter (·.groupId = groupId)).map fun member =>
    .object [("value", .text member.userId)]

def startsWith (head text : String) : Bool :=
  head.toList.isPrefixOf text.toList

/-- The members a group has, `refs`, are read again by every `add`. -/
def applyGroupOperation (refs : List Js) (patch : GroupPatch) (operation : Js) :
    Option GroupPatch :=
  match operation with
  | .null | .undefined => none
  | _ =>
    let value := operation.property "value"
    let op := lowerCased (stringOf (eitherOf (operation.property "op") (.text "")))
    let path := lowerCased (stringOf (eitherOf (operation.property "path") (.text "")))
    let ofMembers := path = "" || path = "members"
    let named :=
      if op = "replace" && path = "displayname" then
        { patch with displayName := trimmedText value }
      else patch
    some
      { named with
        members :=
          if op = "replace" && ofMembers then some (itemsOf value)
          else if op = "add" && ofMembers then some (refs ++ itemsOf value)
          else if op = "remove" && startsWith "members" path then some []
          else named.members }

def groupPatch (group : ScimGroup) (body : Js) (s : Provisioning) : Option GroupPatch :=
  (operationsOf body).bind fun operations =>
    operations.foldlM (applyGroupOperation (memberRefs group.id s)) ⟨group.displayName, none⟩

inductive ScimGroupRequest where
  | createGroup (body : Js)
  | replaceGroup (id : String) (body : Js)
  | patchGroup (id : String) (body : Js)
  | deleteGroup (id : String)

variable (uuid : Nat → String) (bound : Js → String)

/-- `body.externalId || id`, as the driver writes a value into a column of text. -/
def groupExternalId (id : String) (body : Js) : String :=
  bound (eitherOf (body.property "externalId") (.text id))

def newGroup (id companyId : String) (body : Js) : ScimGroup where
  id := id
  companyId := companyId
  externalId := some (groupExternalId bound id body)
  displayName := trimmedText (body.property "displayName")

namespace ScimGroupRequest

def perform (companyId : String) : ScimGroupRequest → Provisioning → Provisioning
  | createGroup body, s =>
    let group := newGroup bound (uuid s.drawn) companyId body
    let drawn := { s with drawn := s.drawn + 1 }
    if group.displayName = "" then drawn
    else if s.groups.any fun other => other.id = group.id || group.clashes other then drawn
    else
      replaceGroupMembers companyId group.id (body.property "members")
        { drawn with groups := s.groups ++ [group] }
  | replaceGroup id body, s =>
    if (s.findGroup companyId id).isNone then s
    else if trimmedText (body.property "displayName") = "" then s
    else
      match s.updateGroup companyId id fun group =>
          { group with
            externalId := some (groupExternalId bound id body)
            displayName := trimmedText (body.property "displayName") } with
      | none => s
      | some s' => replaceGroupMembers companyId id (body.property "members") s'
  | patchGroup id body, s =>
    match s.findGroup companyId id with
    | none => s
    | some group =>
      match groupPatch group body s with
      | none => s
      | some patch =>
        match s.updateGroup companyId id fun group =>
            { group with displayName := patch.displayName } with
        | none => s
        | some s' =>
          match patch.members with
          | none => s'
          | some members => replaceGroupMembers companyId id (.array members) s'
  | deleteGroup id, s =>
    if (s.findGroup companyId id).isNone then s
    else
      { s with
        members := s.members.filter (·.groupId ≠ id)
        groups := s.groups.filter fun group => !(group.id = id && group.companyId = companyId) }

end ScimGroupRequest

end Groups

inductive ScimRequest where
  | user (request : ScimUserRequest)
  | group (request : ScimGroupRequest)

def ScimRequest.perform (uuid : Nat → String) (bound : Js → String) (companyId : String) :
    ScimRequest → Provisioning → Provisioning
  | user request, s => request.perform uuid companyId s
  | group request, s => request.perform uuid bound companyId s

end FieldserviceIT.Admin
