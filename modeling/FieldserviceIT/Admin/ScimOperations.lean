import FieldserviceIT.Admin.ScimGroups

/-!
What the operations of a SCIM patch say: which attributes of a user or of a group each one names,
and with what values. A path is the name of an attribute in any case, with the schema before it or
not. Without a path the value has a property for each attribute.
-/

namespace FieldserviceIT.Admin

open Common Lib Sql

section Paths

def userSchema : String :=
  "urn:ietf:params:scim:schemas:core:2.0:User"

def groupSchema : String :=
  "urn:ietf:params:scim:schemas:core:2.0:Group"

def operationName (operation : Js) : String :=
  lowerCased (stringOf (operation.property "op"))

def writtenPath (operation : Js) : String :=
  stringOf (eitherOf (operation.property "path") (.text ""))

def operationPath (operation : Js) : String :=
  lowerCased (writtenPath operation)

def attributePath (schema : String) (operation : Js) : String :=
  let head := lowerCased schema ++ ":"
  if startsWith head (operationPath operation) then
    String.ofList ((operationPath operation).toList.drop head.toList.length)
  else operationPath operation

def operationValue (operation : Js) : Js :=
  operation.property "value"

def lastGiven (key : String) (entries : List (String × Js)) : Option Js :=
  entries.reverse.lookup key

def isObject : Js → Bool
  | .object _ => true
  | _ => false

def isArray : Js → Bool
  | .array _ => true
  | _ => false

def isOperation (operation : Js) : Bool :=
  if operationName operation = "remove" then operationPath operation ≠ ""
  else operationName operation = "add" || operationName operation = "replace"

end Paths

section Users

inductive UserAttribute where
  | userName
  | active
  | externalId
  | givenName
  | familyName
  | roles
  deriving DecidableEq

inductive AttributeValue where
  | text (s : String)
  | flag (b : Bool)
  | role (role : Role)
  | unassigned
  deriving DecidableEq

namespace UserAttribute

def path : UserAttribute → String
  | userName => "username"
  | active => "active"
  | externalId => "externalid"
  | givenName => "name.givenname"
  | familyName => "name.familyname"
  | roles => "roles"

def key : UserAttribute → String
  | userName => "userName"
  | active => "active"
  | externalId => "externalId"
  | givenName | familyName => "name"
  | roles => "roles"

def subKey : UserAttribute → Option String
  | givenName => some "givenName"
  | familyName => some "familyName"
  | userName | active | externalId | roles => none

def partOf (field : UserAttribute) (value : Js) : Option Js :=
  match field.subKey with
  | none => some value
  | some sub => if (value.property sub).isDefined then some (value.property sub) else none

end UserAttribute

def User.fieldValue (user : User) : UserAttribute → AttributeValue
  | .userName => .text user.email
  | .active => .flag user.isActive
  | .externalId => user.scimExternalId.elim .unassigned .text
  | .givenName => .text user.firstName
  | .familyName => .text user.lastName
  | .roles => .role user.role

/-- What a value means; nothing and `null` leave an attribute unassigned. Roles are those that a
provider may ask for, and user names are not case-sensitive. -/
def scimValue (field : UserAttribute) (value : Js) : Option AttributeValue :=
  match field with
  | .roles => some (.role (mapRole value))
  | .userName =>
    match value with
    | .null | .undefined => some .unassigned
    | .scalar (.text s) =>
      if trimmed s = "" then none else some (.text (lowerCased (trimmed s)))
    | _ => none
  | .active =>
    match value with
    | .null | .undefined => some .unassigned
    | .scalar (.flag b) => some (.flag b)
    | .scalar (.text s) =>
      if lowerCased s = "true" then some (.flag true)
      else if lowerCased s = "false" then some (.flag false)
      else none
    | _ => none
  | .externalId | .givenName | .familyName =>
    match value with
    | .null | .undefined => some .unassigned
    | .scalar (.text s) => if s = "" then none else some (.text s)
    | _ => none

/-- The value an operation names the attribute with; a removal names it with nothing. -/
def namedValue (field : UserAttribute) (operation : Js) : Option Js :=
  let path := attributePath userSchema operation
  let ofName := path = "name" && field.subKey.isSome
  if operationName operation = "remove" then
    if path = field.path || ofName then some .undefined else none
  else if operationPath operation = "" then
    (lastGiven field.key (operationValue operation).entries).bind field.partOf
  else if path = field.path then some (operationValue operation)
  else if ofName then field.partOf (operationValue operation)
  else none

def userAttributes : List UserAttribute :=
  [.userName, .active, .externalId, .givenName, .familyName, .roles]

/-- The values are values of the attributes, and a name has parts. -/
def isUserOperation (operation : Js) : Bool :=
  isOperation operation &&
    (operationName operation = "remove" ||
      (if operationPath operation = "" then
        isObject (operationValue operation) &&
          (lastGiven "name" (operationValue operation).entries).all isObject
      else attributePath userSchema operation ≠ "name" || isObject (operationValue operation))) &&
    userAttributes.all fun field =>
      (namedValue field operation).all fun value => (scimValue field value).isSome

/-- The effect of an operation: what it names is as it says, the rest is as it was. -/
def applyScim (state : UserAttribute → AttributeValue) (operation : Js) (field : UserAttribute) :
    AttributeValue :=
  ((namedValue field operation).bind (scimValue field)).getD (state field)

def scimPatched (current : User) (operations : List Js) : UserAttribute → AttributeValue :=
  operations.foldl applyScim current.fieldValue

end Users

section Groups

inductive MembersChange where
  | add (userIds : List String)
  | replace (userIds : List String)
  | remove (userId : String)
  | clear

structure GroupState where
  displayName : String
  members : List String

def MembersChange.apply (found : String → Bool) (members : List String) : MembersChange → List String
  | add userIds => members ++ userIds.filter found
  | replace userIds => userIds.filter found
  | remove userId => members.filter fun member => member ≠ userId
  | clear => []

/-- The users a value of `members` names, which may be a list or one member. -/
def namedMembers (value : Js) : Option (List String) :=
  match value with
  | .array _ => listedUsers value
  | .object _ => listedUsers (.array [value])
  | _ => none

/-- `members[value eq "id"]` -/
def filteredMember (path : String) : Option String :=
  let head := "members[value eq \""
  let inner := path.toList.drop head.toList.length
  if startsWith head (lowerCased path) && List.isSuffixOf "\"]".toList inner then
    some (String.ofList (inner.take (inner.length - 2)))
  else none

def namedDisplay (operation : Js) : Option Js :=
  if operationName operation = "remove" then none
  else if operationPath operation = "" then lastGiven "displayName" (operationValue operation).entries
  else if attributePath groupSchema operation = "displayname" then some (operationValue operation)
  else none

/-- The value an operation names the members with; without a path that may be a list of them. -/
def membersValue (operation : Js) : Option Js :=
  if operationPath operation = "" then
    if isArray (operationValue operation) then some (operationValue operation)
    else lastGiven "members" (operationValue operation).entries
  else if attributePath groupSchema operation = "members" then some (operationValue operation)
  else none

def namedChange (operation : Js) : Option MembersChange :=
  if operationName operation = "remove" then
    if attributePath groupSchema operation = "members" then some .clear
    else (filteredMember (writtenPath operation)).map .remove
  else
    ((membersValue operation).bind namedMembers).map fun userIds =>
      if operationName operation = "add" then .add userIds else .replace userIds

def isText : Js → Bool
  | .scalar (.text _) => true
  | _ => false

def isGroupOperation (operation : Js) : Bool :=
  isOperation operation && (namedDisplay operation).all isText &&
    (operationName operation = "remove" ||
      (membersValue operation).all fun value => (namedMembers value).isSome)

def applyScimGroup (found : String → Bool) (state : GroupState) (operation : Js) : GroupState where
  displayName := ((namedDisplay operation).map trimmedText).getD state.displayName
  members := ((namedChange operation).map (MembersChange.apply found state.members)).getD state.members

def scimGroupPatched (found : String → Bool) (state : GroupState) (operations : List Js) :
    GroupState :=
  operations.foldl (applyScimGroup found) state

end Groups
end FieldserviceIT.Admin
