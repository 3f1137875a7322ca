import FieldserviceIT.Admin.Directory
import FieldserviceIT.Common.Authorization

/-!
SCIM provisioning of users by a tenant's identity provider. Bodies are whatever
JSON the provider sends.
-/

namespace FieldserviceIT.Admin

open Common Lib Sql

section Json

def countsAsTrue : Js → Bool
  | .null | .undefined => false
  | .scalar (.text s) => s ≠ ""
  | .scalar (.number n) => n ≠ 0
  | .scalar (.flag b) => b
  | _ => true

/-- `a || b` -/
def eitherOf (a b : Js) : Js :=
  if countsAsTrue a then a else b

mutual

/-- `String(value)` -/
def stringOf : Js → String
  | .null => "null"
  | .undefined => "undefined"
  | .scalar (.text s) => s
  | .scalar (.number n) => toString n
  | .scalar (.instant ms) => toString ms
  | .scalar (.flag b) => toString b
  | .array items => String.intercalate "," (stringsOf items)
  | .object _ => "[object Object]"

def stringsOf : List Js → List String
  | [] => []
  | .null :: items | .undefined :: items => "" :: stringsOf items
  | item :: items => stringOf item :: stringsOf items

end

/-- `value?.[0]` of an array. -/
def firstItem : Js → Js
  | .array (item :: _) => item
  | _ => .undefined

def trimmed (text : String) : String :=
  let rest := text.toList.dropWhile Char.isWhitespace
  String.ofList (rest.reverse.dropWhile Char.isWhitespace).reverse

def lowerCased (text : String) : String :=
  String.ofList (text.toList.map Char.toLower)

end Json

section Roles

/-- `replace(/[\s-]+/g, '_')`, within a run of separators or outside of one. -/
def underscored (inRun : Bool) : List Char → List Char
  | [] => []
  | c :: cs =>
    if c.isWhitespace || c = '-' then
      if inRun then underscored true cs else '_' :: underscored true cs
    else c :: underscored false cs

def provisionedRoles : List Role :=
  [.tenantAdmin, .technician, .client, .readOnly]

/-- `roles` as the provider writes them: a list of values, or one by itself. -/
def requestedRole (roles : Js) : Js :=
  match roles with
  | .array items => eitherOf ((firstItem (.array items)).property "value") (firstItem (.array items))
  | _ => eitherOf roles (.text "CLIENT")

def mapRole (roles : Js) : Role :=
  let requested := (stringOf (requestedRole roles)).toList.map Char.toUpper
  (provisionedRoles.find? fun role => role.name = String.ofList (underscored false requested)).getD
    .client

end Roles

def scimEmail (body : Js) : String :=
  lowerCased <| trimmed <| stringOf <|
    eitherOf (body.property "userName")
      (eitherOf ((firstItem (body.property "emails")).property "value") (.text ""))

def replacedUser (body : Js) (email : String) : UserData where
  email := some email
  firstName := some <| stringOf <|
    eitherOf ((body.property "name").property "givenName")
      (eitherOf (body.property "displayName")
        (.text (String.ofList (email.toList.takeWhile (· ≠ '@')))))
  lastName := some (stringOf (eitherOf ((body.property "name").property "familyName") (.text "User")))
  role := some (mapRole (body.property "roles"))
  isActive := some (match body.property "active" with | .scalar (.flag false) => false | _ => true)
  scimExternalId :=
    some (if countsAsTrue (body.property "externalId") then some (stringOf (body.property "externalId"))
      else none)
  managed := true
  bumps := true

/-- The row that `ScimService.createUser` inserts. -/
def provisionedUser (id companyId : String) (body : Js) : User where
  id := id
  companyId := some companyId
  role := mapRole (body.property "roles")
  isActive := match body.property "active" with | .scalar (.flag false) => false | _ => true
  mfaEnabled := false
  isBreakGlass := false
  breakGlassReason := none
  authVersion := 0
  isDeleted := false
  email := scimEmail body
  firstName := shortened <|
    eitherOf ((body.property "name").property "givenName")
      (eitherOf (body.property "displayName")
        (.text (String.ofList ((scimEmail body).toList.takeWhile (· ≠ '@')))))
  lastName := shortened (eitherOf ((body.property "name").property "familyName") (.text "User"))
  userType := .businessUser
  location := none
  scimExternalId :=
    if countsAsTrue (body.property "externalId") then some (stringOf (body.property "externalId"))
    else none
  scimManaged := true
where
  /-- `String(value).slice(0, 100)` -/
  shortened (value : Js) : String :=
    String.ofList ((stringOf value).toList.take 100)

/-- `ScimService.findUser` -/
def Directory.findScimUser (d : Directory) (companyId id : String) : Option User :=
  d.users.find? fun user => user.id = id && user.companyId = some companyId && !user.isDeleted

def replaceUser (companyId id : String) (body : Js) : UserProgram :=
  .step .read fun d =>
    if (d.findScimUser companyId id).isNone then .fail
    else if scimEmail body = "" then .fail
    else
      updateUserRow id (some companyId) (replacedUser body (scimEmail body)) .unchecked .done

section Patch

def scimFields (current : User) : List (String × Js) :=
  [("userName", .text current.email),
    ("active", .scalar (.flag current.isActive)),
    ("externalId", .ofOption (current.scimExternalId.map .text)),
    ("name", .object
      [("givenName", .text current.firstName), ("familyName", .text current.lastName)]),
    ("roles", .array [.object [("value", .text current.role.name)]])]

/-- `next.name.part = value`, which throws when there is no name to hold it. -/
def setName (part : String) (value : Js) (next : List (String × Js)) :
    Option (List (String × Js)) :=
  match (Js.object next).property "name" with
  | .object fields => some (Js.assign "name" (.object (Js.assign part value fields)) next)
  | .array _ => some next
  | _ => none

def applyOperation (next : List (String × Js)) (operation : Js) : Option (List (String × Js)) :=
  match operation with
  | .null | .undefined => none
  | _ =>
    let value := operation.property "value"
    let path := lowerCased (stringOf (eitherOf (operation.property "path") (.text "")))
    if lowerCased (stringOf (operation.property "op")) = "remove" then
      some (if path = "externalid" then Js.assign "externalId" .null next else next)
    else if path = "" then
      some (value.entries.foldl (fun fields entry => Js.assign entry.1 entry.2 fields) next)
    else if path = "active" then some (Js.assign "active" (.scalar (.flag (countsAsTrue value))) next)
    else if path = "username" then some (Js.assign "userName" value next)
    else if path = "externalid" then some (Js.assign "externalId" value next)
    else if path = "name.givenname" then setName "givenName" value next
    else if path = "name.familyname" then setName "familyName" value next
    else if path = "roles" then some (Js.assign "roles" value next)
    else some next

/-- What is iterated over; `none` where nothing can be. -/
def operationsOf (body : Js) : Option (List Js) :=
  match eitherOf (body.property "Operations") (eitherOf (body.property "operations") (.array [])) with
  | .array items => some items
  | .scalar (.text _) => some []
  | _ => none

def patchUser (companyId id : String) (body : Js) : UserProgram :=
  .step .read fun d =>
    match d.findScimUser companyId id with
    | none => .fail
    | some current =>
      match (operationsOf body).bind fun items => items.foldlM applyOperation (scimFields current) with
      | none => .fail
      | some next => replaceUser companyId id (.object next)

end Patch

def deletedUser : UserData where
  isActive := some false
  deleted := true
  bumps := true

def deleteUser (companyId id : String) : UserProgram :=
  .step .read fun d =>
    if (d.findScimUser companyId id).isNone then .fail
    else updateUserRow id (some companyId) deletedUser .unchecked .done

end FieldserviceIT.Admin
