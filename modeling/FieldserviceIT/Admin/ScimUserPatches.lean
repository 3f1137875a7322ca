import FieldserviceIT.Admin.ScimFrame
import FieldserviceIT.Admin.ScimOperations
import FieldserviceIT.Lib.Batches
import FieldserviceIT.Lib.Json

/-!
What a patch makes of a user. The operations are gathered in an object, beginning with the user as
it is, and the object replaces the user. An attribute comes out right as far as the last operation
that names it, or overwrites it, does what it says.
-/

namespace FieldserviceIT.Admin

open Common Lib Sql

section Gathering

/-- The value that an operation puts in the object for an attribute. -/
def heeded (field : UserAttribute) (operation : Js) : Option Js :=
  if operationName operation = "remove" then
    if operationPath operation = "externalid" && field = .externalId then some .null else none
  else if operationPath operation = "" then
    field.subKey.elim (lastGiven field.key (operationValue operation).entries) fun sub =>
      (lastGiven "name" (operationValue operation).entries).map (Js.property sub)
  else if operationPath operation = field.path then
    some (if field = .active then .scalar (.flag (countsAsTrue (operationValue operation)))
      else operationValue operation)
  else none

def heededEntry (key : String) (operation : Js) : Option Js :=
  if operationName operation = "remove" then none
  else if operationPath operation = "" then lastGiven key (operationValue operation).entries
  else none

def held (next : List (String × Js)) (field : UserAttribute) : Js :=
  field.subKey.elim ((Js.object next).property field.key) fun sub =>
    ((Js.object next).property "name").property sub

def standing (current : User) (operations : List Js) (field : UserAttribute) : Js :=
  operations.foldl (fun value operation => (heeded field operation).getD value)
    (held (scimFields current) field)

def standingEntry (key : String) (operations : List Js) : Js :=
  operations.foldl (fun value operation => (heededEntry key operation).getD value) .undefined

theorem assign_eq_put (key : String) (value : Js) (fields : List (String × Js)) :
    Js.assign key value fields = put key value fields := by
  induction fields with
  | nil => rfl
  | cons entry fields ih =>
    rw [Js.assign, put, ih]
    split
    next hkey => rw [hkey]
    next => rfl

theorem property_assign (name key : String) (value : Js) (fields : List (String × Js)) :
    (Js.object (Js.assign key value fields)).property name =
      if name = key then value else (Js.object fields).property name := by
  rw [assign_eq_put, Js.property, lookup_put]
  split <;> rfl

theorem property_assigned (name : String) (entries fields : List (String × Js)) :
    (Js.object (entries.foldl (fun fields entry => Js.assign entry.1 entry.2 fields) fields)).property
      name = (lastGiven name entries).getD ((Js.object fields).property name) := by
  rw [lastGiven]
  induction entries using List.reverseRecOn with
  | nil => rfl
  | append_singleton entries entry ih =>
    rw [List.foldl_append, List.foldl_cons, List.foldl_nil, property_assign, ih,
      List.reverse_append, List.reverse_singleton, List.singleton_append, lookup_cons]
    split <;> rfl

variable {next : List (String × Js)}

theorem held_assign (field : UserAttribute) {key : String} (hkey : key ≠ "name") (value : Js) :
    held (Js.assign key value next) field =
      if field.subKey.isNone && field.key = key then value else held next field := by
  rw [held, held]
  cases hsub : field.subKey with
  | none => simp [property_assign]
  | some sub => simp [property_assign, Ne.symm hkey]

theorem held_name (field : UserAttribute) (fields : List (String × Js)) :
    held (Js.assign "name" (.object fields) next) field =
      field.subKey.elim (held next field) fun sub => (Js.object fields).property sub := by
  cases field <;> simp [held, property_assign, UserAttribute.subKey, UserAttribute.key]

theorem held_assigned (field : UserAttribute) (entries : List (String × Js)) :
    held (entries.foldl (fun fields entry => Js.assign entry.1 entry.2 fields) next) field =
      (field.subKey.elim (lastGiven field.key entries) fun sub =>
        (lastGiven "name" entries).map (Js.property sub)).getD (held next field) := by
  rw [held, held]
  cases hsub : field.subKey with
  | none => simp only [property_assigned, Option.elim_none]
  | some sub =>
    simp only [property_assigned, Option.elim_some]
    cases lastGiven "name" entries <;> rfl

theorem applyOperation_eq {operation : Js} (h : isOperation operation = true) :
    applyOperation next operation =
      if operationName operation = "remove" then
        some (if operationPath operation = "externalid" then Js.assign "externalId" .null next
          else next)
      else if operationPath operation = "" then
        some ((operationValue operation).entries.foldl
          (fun fields entry => Js.assign entry.1 entry.2 fields) next)
      else if operationPath operation = "active" then
        some (Js.assign "active" (.scalar (.flag (countsAsTrue (operationValue operation)))) next)
      else if operationPath operation = "username" then
        some (Js.assign "userName" (operationValue operation) next)
      else if operationPath operation = "externalid" then
        some (Js.assign "externalId" (operationValue operation) next)
      else if operationPath operation = "name.givenname" then
        setName "givenName" (operationValue operation) next
      else if operationPath operation = "name.familyname" then
        setName "familyName" (operationValue operation) next
      else if operationPath operation = "roles" then
        some (Js.assign "roles" (operationValue operation) next)
      else some next := by
  cases operation with
  | null => exact absurd h (by decide)
  | undefined => exact absurd h (by decide)
  | scalar | array | object => rfl

theorem exists_setName (hname : isObject ((Js.object next).property "name") = true)
    (part : String) (value : Js) : ∃ fields, setName part value next =
      some (Js.assign "name" (.object (Js.assign part value fields)) next) ∧
        (Js.object next).property "name" = .object fields := by
  rw [setName]
  cases hfound : (Js.object next).property "name" with
  | object fields => exact ⟨fields, rfl, rfl⟩
  | null | undefined | scalar | array =>
    rw [hfound] at hname
    cases hname

/-- What is kept while the operations are gathered. -/
structure Gathered (next next' : List (String × Js)) (operation : Js) : Prop where
  name : isObject ((Js.object next').property "name") = true
  fields : ∀ field, held next' field = (heeded field operation).getD (held next field)
  entries : ∀ key ∈ ["displayName", "emails"], (Js.object next').property key =
    (heededEntry key operation).getD ((Js.object next).property key)

theorem gathered_assign (hname : isObject ((Js.object next).property "name") = true)
    {operation : Js} {key : String} {value : Js}
    (hkey : key ≠ "name" ∧ key ≠ "displayName" ∧ key ≠ "emails")
    (hfields : ∀ field, heeded field operation =
      if field.subKey.isNone && field.key = key then some value else none)
    (hentries : ∀ name, heededEntry name operation = none) :
    Gathered next (Js.assign key value next) operation := by
  refine ⟨?_, fun field => ?_, fun name hmem => ?_⟩
  · rw [property_assign, if_neg hkey.1.symm]
    exact hname
  · rw [held_assign field hkey.1, hfields]
    split <;> rfl
  · rw [property_assign, hentries, if_neg]
    · rfl
    · rintro rfl
      simp [hkey.2.1, hkey.2.2] at hmem

theorem gathered_name {operation : Js} {part : String} {value : Js}
    {fields : List (String × Js)} (hname : (Js.object next).property "name" = .object fields)
    (hfields : ∀ field, heeded field operation =
      if field.subKey = some part then some value else none)
    (hentries : ∀ name, heededEntry name operation = none) :
    Gathered next (Js.assign "name" (.object (Js.assign part value fields)) next) operation := by
  refine ⟨?_, fun field => ?_, fun name hmem => ?_⟩
  · rw [property_assign, if_pos rfl]
    rfl
  · rw [held_name, hfields, held, hname]
    cases hsub : field.subKey with
    | none => rfl
    | some sub =>
      simp only [Option.elim_some, property_assign, Option.some.injEq]
      split <;> rfl
  · rw [property_assign, hentries, if_neg]
    · rfl
    · rintro rfl
      simp at hmem

theorem exists_gathered {operation : Js} (h : isUserOperation operation = true)
    (hname : isObject ((Js.object next).property "name") = true) :
    ∃ next', applyOperation next operation = some next' ∧ Gathered next next' operation := by
  rw [isUserOperation, Bool.and_eq_true, Bool.and_eq_true] at h
  obtain ⟨⟨hoperation, hshape⟩, -⟩ := h
  rw [applyOperation_eq hoperation]
  by_cases hremove : operationName operation = "remove"
  · rw [if_pos hremove]
    have hentries : ∀ name, heededEntry name operation = none := fun name => if_pos hremove
    by_cases hpath : operationPath operation = "externalid"
    · rw [if_pos hpath]
      refine ⟨_, rfl, gathered_assign hname (by decide) (fun field => ?_) hentries⟩
      rw [heeded, if_pos hremove, hpath]
      cases field <;> rfl
    · rw [if_neg hpath]
      refine ⟨_, rfl, hname, fun field => ?_, fun key _ => ?_⟩
      · rw [heeded, if_pos hremove, if_neg (by simp [hpath])]
        rfl
      · rw [hentries]
        rfl
  rw [if_neg hremove]
  by_cases hempty : operationPath operation = ""
  · rw [if_pos hempty]
    refine ⟨_, rfl, ?_, fun field => ?_, fun key _ => ?_⟩
    · simp only [hremove, hempty, decide_false, Bool.false_or, if_true, Bool.and_eq_true] at hshape
      rw [property_assigned]
      cases hgiven : lastGiven "name" (operationValue operation).entries with
      | none => exact hname
      | some name =>
        rw [hgiven] at hshape
        exact hshape.2
    · rw [held_assigned, heeded, if_neg hremove, if_pos hempty]
    · rw [property_assigned, heededEntry, if_neg hremove, if_pos hempty]
  rw [if_neg hempty]
  have hentries : ∀ name, heededEntry name operation = none := by
    intro name
    rw [heededEntry, if_neg hremove, if_neg hempty]
  have hheeded : ∀ field, heeded field operation = if operationPath operation = field.path then
      some (if field = .active then .scalar (.flag (countsAsTrue (operationValue operation)))
        else operationValue operation) else none := by
    intro field
    rw [heeded, if_neg hremove, if_neg hempty]
  by_cases hactive : operationPath operation = "active"
  · rw [if_pos hactive]
    refine ⟨_, rfl, gathered_assign hname (by decide) (fun field => ?_) hentries⟩
    rw [hheeded, hactive]
    cases field <;> rfl
  rw [if_neg hactive]
  by_cases huser : operationPath operation = "username"
  · rw [if_pos huser]
    refine ⟨_, rfl, gathered_assign hname (by decide) (fun field => ?_) hentries⟩
    rw [hheeded, huser]
    cases field <;> rfl
  rw [if_neg huser]
  by_cases hid : operationPath operation = "externalid"
  · rw [if_pos hid]
    refine ⟨_, rfl, gathered_assign hname (by decide) (fun field => ?_) hentries⟩
    rw [hheeded, hid]
    cases field <;> rfl
  rw [if_neg hid]
  by_cases hgiven : operationPath operation = "name.givenname"
  · rw [if_pos hgiven]
    obtain ⟨fields, hset, hfound⟩ := exists_setName hname "givenName" (operationValue operation)
    refine ⟨_, hset, gathered_name hfound (fun field => ?_) hentries⟩
    rw [hheeded, hgiven]
    cases field <;> rfl
  rw [if_neg hgiven]
  by_cases hfamily : operationPath operation = "name.familyname"
  · rw [if_pos hfamily]
    obtain ⟨fields, hset, hfound⟩ := exists_setName hname "familyName" (operationValue operation)
    refine ⟨_, hset, gathered_name hfound (fun field => ?_) hentries⟩
    rw [hheeded, hfamily]
    cases field <;> rfl
  rw [if_neg hfamily]
  by_cases hroles : operationPath operation = "roles"
  · rw [if_pos hroles]
    refine ⟨_, rfl, gathered_assign hname (by decide) (fun field => ?_) hentries⟩
    rw [hheeded, hroles]
    cases field <;> rfl
  rw [if_neg hroles]
  refine ⟨_, rfl, hname, fun field => ?_, fun key _ => ?_⟩
  · rw [hheeded, if_neg (by cases field <;> assumption)]
    rfl
  · rw [hentries]
    rfl

end Gathering

section Written

/-- What the email becomes when the user name is this; `emails` may stand in for it. -/
def patchedEmail (operations : List Js) (value : Js) : String :=
  lowerCased <| trimmed <| stringOf <|
    eitherOf value
      (eitherOf ((firstItem (standingEntry "emails" operations)).property "value") (.text ""))

/-- What becomes of an attribute when this is what the object holds for it. -/
def patchedValue (current : User) (operations : List Js) (field : UserAttribute) (value : Js) :
    AttributeValue :=
  match field with
  | .userName => .text (patchedEmail operations value)
  | .active => .flag (match value with | .scalar (.flag false) => false | _ => true)
  | .externalId => if countsAsTrue value then .text (stringOf value) else .unassigned
  | .givenName =>
    .text <| stringOf <|
      eitherOf value
        (eitherOf (standingEntry "displayName" operations)
          (.text (String.ofList
            ((patchedEmail operations (standing current operations .userName)).toList.takeWhile
              (· ≠ '@')))))
  | .familyName => .text (stringOf (eitherOf value (.text "User")))
  | .roles => .role (mapRole value)

variable {current : User} {operations : List Js}

theorem exists_gathered_all {next : List (String × Js)}
    (h : ∀ operation ∈ operations, isUserOperation operation = true)
    (hname : isObject ((Js.object next).property "name") = true) :
    ∃ next', operations.foldlM applyOperation next = some next' ∧
      (∀ field, held next' field = operations.foldl
        (fun value operation => (heeded field operation).getD value) (held next field)) ∧
      ∀ key ∈ ["displayName", "emails"], (Js.object next').property key = operations.foldl
        (fun value operation => (heededEntry key operation).getD value)
          ((Js.object next).property key) := by
  induction operations generalizing next with
  | nil => exact ⟨next, rfl, fun _ => rfl, fun _ _ => rfl⟩
  | cons operation operations ih =>
    obtain ⟨next₁, happly, hgathered⟩ := exists_gathered (h operation (.head _)) hname
    obtain ⟨next', hall, hfields, hentries⟩ :=
      ih (fun other hother => h other (.tail _ hother)) hgathered.name
    refine ⟨next', ?_, fun field => ?_, fun key hkey => ?_⟩
    · rw [List.foldlM_cons, happly]
      exact hall
    · rw [hfields, hgathered.fields, List.foldl_cons]
    · rw [hentries key hkey, hgathered.entries key hkey, List.foldl_cons]

theorem exists_patch (h : ∀ operation ∈ operations, isUserOperation operation = true) :
    ∃ next, operations.foldlM applyOperation (scimFields current) = some next ∧
      ∀ field, ((replacedUser (.object next) (scimEmail (.object next))).apply current).fieldValue field =
        patchedValue current operations field (standing current operations field) := by
  obtain ⟨next, hall, hfields, hentries⟩ := @exists_gathered_all operations (scimFields current) h rfl
  have hshown : (Js.object next).property "displayName" = standingEntry "displayName" operations :=
    hentries "displayName" (by decide)
  have hmail : (Js.object next).property "emails" = standingEntry "emails" operations :=
    hentries "emails" (by decide)
  have hemail : scimEmail (.object next) =
      patchedEmail operations (standing current operations .userName) := by
    have huser : (Js.object next).property "userName" = standing current operations .userName :=
      hfields .userName
    rw [scimEmail, huser, hmail]
    rfl
  refine ⟨next, hall, fun field => ?_⟩
  have hfield : held next field = standing current operations field := hfields field
  rw [← hfield]
  cases field with
  | userName =>
    rw [hfield, patchedValue, ← hemail]
    rfl
  | active => rfl
  | externalId =>
    have hid : ((replacedUser (.object next) (scimEmail (.object next))).apply current).scimExternalId =
        if countsAsTrue (held next .externalId) then some (stringOf (held next .externalId))
        else none := rfl
    rw [patchedValue, User.fieldValue, hid]
    split <;> rfl
  | givenName =>
    rw [patchedValue, ← hemail, ← hshown]
    rfl
  | familyName => rfl
  | roles => rfl

end Written

section Result

/-- A user but for what a provider can set, and for the marks that it has been set. -/
def User.unpatched (user : User) : User :=
  { user with
    email := ""
    firstName := ""
    lastName := ""
    role := .client
    isActive := false
    scimExternalId := none
    scimManaged := true
    authVersion := 0 }

/-- The user is what the operations make of it one after the other, and otherwise as it was. -/
def PatchesUser (companyId id : String) (current : User) (operations : List Js) (s' : Provisioning) :
    Prop :=
  ∃ row, s'.findScimUser companyId id = some row ∧
    row.fieldValue = scimPatched current operations ∧ row.unpatched = current.unpatched

/-- A value that is given and does not come out: the text of false as an activity, and nothing
where something must stand. -/
def misread (field : UserAttribute) (value : Js) : Bool :=
  match field with
  | .externalId | .roles => false
  | .active =>
    match value with
    | .null | .undefined => true
    | .scalar (.text s) => lowerCased s = "false"
    | _ => false
  | .userName | .givenName | .familyName =>
    match value with
    | .null | .undefined => true
    | _ => false

/-- The last operation that names or overwrites an attribute does what it says. Where there is
none the user's own value is written back; one that is passed over, or that overwrites what it does
not name, finds the value there. -/
def comesOutRight (current : User) (operations : List Js) (field : UserAttribute) : Bool :=
  match lastWhere (fun operation =>
      (namedValue field operation).isSome || (heeded field operation).isSome) operations with
  | none =>
    patchedValue current operations field (held (scimFields current) field) = current.fieldValue field
  | some (before, operation) =>
    match namedValue field operation, heeded field operation with
    | some value, some _ => !misread field value
    | some value, none =>
      scimValue field value =
        some (patchedValue current operations field (standing current before field))
    | none, some value =>
      patchedValue current operations field value = scimPatched current before field
    | none, none => true

variable {companyId id : String} {current : User} {operations : List Js} {s : Provisioning}

theorem foldl_applyScim (state : UserAttribute → AttributeValue) (operations : List Js)
    (field : UserAttribute) : operations.foldl applyScim state field =
      operations.foldl (fun value operation =>
        ((namedValue field operation).bind (scimValue field)).getD value) (state field) := by
  induction operations generalizing state with
  | nil => rfl
  | cons operation operations ih =>
    rw [List.foldl_cons, ih, List.foldl_cons]
    rfl

theorem isUserOperation_values {operation : Js} (h : isUserOperation operation = true)
    {field : UserAttribute} {value : Js} (hvalue : namedValue field operation = some value) :
    ∃ meant, scimValue field value = some meant := by
  rw [isUserOperation, Bool.and_eq_true, List.all_eq_true] at h
  have hfield := h.2 field (by cases field <;> decide)
  rw [hvalue] at hfield
  exact Option.isSome_iff_exists.mp hfield

theorem attributePath_of_path {operation : Js} {field : UserAttribute}
    (h : operationPath operation = field.path) :
    attributePath userSchema operation = field.path := by
  have hplain : startsWith (lowerCased userSchema ++ ":") field.path = false := by
    cases field <;> decide
  rw [attributePath, h, hplain]
  rfl

theorem heeded_of_named {operation value value' : Js} {field : UserAttribute}
    (hnamed : namedValue field operation = some value)
    (hheeded : heeded field operation = some value') :
    value' = value ∨ field = .active ∧ value' = .scalar (.flag (countsAsTrue value)) ∨
      field = .externalId ∧ value = .undefined ∧ value' = .null := by
  rw [namedValue] at hnamed
  rw [heeded] at hheeded
  by_cases hremove : operationName operation = "remove"
  · rw [if_pos hremove] at hnamed hheeded
    obtain ⟨hexternal, hnull⟩ := Option.ite_none_right_eq_some.mp hheeded
    obtain ⟨-, hnothing⟩ := Option.ite_none_right_eq_some.mp hnamed
    rw [Bool.and_eq_true, decide_eq_true_eq, decide_eq_true_eq] at hexternal
    exact .inr (.inr ⟨hexternal.2, (Option.some.inj hnothing).symm, (Option.some.inj hnull).symm⟩)
  rw [if_neg hremove] at hnamed hheeded
  by_cases hempty : operationPath operation = ""
  · left
    rw [if_pos hempty] at hnamed hheeded
    obtain ⟨given, hgiven, hpart⟩ := Option.bind_eq_some_iff.mp hnamed
    rw [UserAttribute.partOf] at hpart
    cases hsub : field.subKey with
    | none =>
      rw [hsub] at hpart hheeded
      rw [Option.elim_none, hgiven] at hheeded
      exact (Option.some.inj hheeded).symm.trans (Option.some.inj hpart)
    | some sub =>
      have hkey : field.key = "name" := by
        cases field with
        | givenName | familyName => rfl
        | userName | active | externalId | roles => cases hsub
      rw [hsub] at hpart hheeded
      rw [hkey] at hgiven
      rw [Option.elim_some, hgiven] at hheeded
      obtain ⟨-, hpart⟩ := Option.ite_none_right_eq_some.mp hpart
      exact (Option.some.inj hheeded).symm.trans (Option.some.inj hpart)
  · rw [if_neg hempty] at hnamed hheeded
    obtain ⟨hpath, hvalue⟩ := Option.ite_none_right_eq_some.mp hheeded
    rw [if_pos (attributePath_of_path hpath)] at hnamed
    rw [← Option.some.inj hnamed, ← Option.some.inj hvalue]
    split
    next hactive => exact .inr (.inl ⟨hactive, rfl⟩)
    next => exact .inl rfl

theorem countsAsTrue_text {text : String} (h : text ≠ "") :
    countsAsTrue (.scalar (.text text)) = true :=
  decide_eq_true h

theorem eitherOf_text {text : String} (h : text ≠ "") (other : Js) :
    eitherOf (.scalar (.text text)) other = .scalar (.text text) :=
  if_pos (countsAsTrue_text h)

theorem ne_empty_of_trimmed {text : String} (h : trimmed text ≠ "") : text ≠ "" := by
  rintro rfl
  exact h (by decide)

theorem scimValue_active_text {text : String} {meant : AttributeValue}
    (h : scimValue .active (.scalar (.text text)) = some meant) :
    meant = .flag true ∧ lowerCased text ≠ "false" ∨ meant = .flag false ∧ lowerCased text = "false" := by
  rw [scimValue] at h
  split at h
  next htrue => exact .inl ⟨(Option.some.inj h).symm, by rw [htrue]; decide⟩
  next =>
    obtain ⟨hfalse, h⟩ := Option.ite_none_right_eq_some.mp h
    exact .inr ⟨(Option.some.inj h).symm, hfalse⟩

theorem patchedValue_name_iff {field : UserAttribute} {value : Js} {meant : AttributeValue}
    (hfield : field = .userName ∨ field = .givenName ∨ field = .familyName)
    (hmeant : scimValue field value = some meant) :
    patchedValue current operations field value = meant ↔ misread field value = false := by
  obtain rfl | rfl | rfl := hfield
  all_goals
    cases value with
    | null | undefined =>
      obtain rfl := Option.some.inj hmeant
      simp [patchedValue, misread]
    | array | object => cases hmeant
    | scalar v =>
      cases v with
      | number | instant | flag => cases hmeant
      | text text =>
        obtain ⟨htext, hmeant⟩ := Option.ite_none_left_eq_some.mp hmeant
        obtain rfl := Option.some.inj hmeant
        refine iff_of_true ?_ rfl
        first
          | rw [patchedValue, patchedEmail, eitherOf_text (ne_empty_of_trimmed htext), stringOf]
          | rw [patchedValue, eitherOf_text htext, stringOf]

theorem patchedValue_iff {operation value value' : Js} {field : UserAttribute}
    {meant : AttributeValue} (hnamed : namedValue field operation = some value)
    (hheeded : heeded field operation = some value') (hmeant : scimValue field value = some meant) :
    patchedValue current operations field value' = meant ↔ misread field value = false := by
  have hvalue := heeded_of_named hnamed hheeded
  cases field with
  | roles =>
    obtain rfl | ⟨hfield, -⟩ | ⟨hfield, -⟩ := hvalue
    · exact iff_of_true (Option.some.inj hmeant) rfl
    · cases hfield
    · cases hfield
  | externalId =>
    refine iff_of_true ?_ rfl
    obtain rfl | ⟨hfield, -⟩ | ⟨-, rfl, rfl⟩ := hvalue
    · cases value' with
      | null | undefined => exact Option.some.inj hmeant
      | scalar v =>
        cases v with
        | text id =>
          obtain ⟨hid, hmeant⟩ := Option.ite_none_left_eq_some.mp hmeant
          rw [patchedValue, if_pos (countsAsTrue_text hid)]
          exact Option.some.inj hmeant
        | number | instant | flag => cases hmeant
      | array | object => cases hmeant
    · cases hfield
    · exact Option.some.inj hmeant
  | active =>
    obtain hsame | ⟨-, hsame⟩ | ⟨hfield, -⟩ := hvalue
    · subst hsame
      cases value' with
      | null | undefined =>
        obtain rfl := Option.some.inj hmeant
        simp [patchedValue, misread]
      | scalar v =>
        cases v with
        | flag b =>
          obtain rfl := Option.some.inj hmeant
          cases b <;> simp [patchedValue, misread]
        | text text =>
          obtain ⟨rfl, htrue⟩ | ⟨rfl, hfalse⟩ := scimValue_active_text hmeant
          · simp [patchedValue, misread, htrue]
          · simp [patchedValue, misread, hfalse]
        | number | instant => cases hmeant
      | array | object => cases hmeant
    · subst hsame
      cases value with
      | null | undefined =>
        obtain rfl := Option.some.inj hmeant
        simp [patchedValue, misread]
      | scalar v =>
        cases v with
        | flag b =>
          obtain rfl := Option.some.inj hmeant
          cases b <;> simp [patchedValue, misread, countsAsTrue]
        | text text =>
          have htext : text ≠ "" := by
            rintro rfl
            have hnone : scimValue .active (.scalar (.text "")) = none := by decide
            rw [hnone] at hmeant
            cases hmeant
          rw [countsAsTrue_text htext]
          obtain ⟨rfl, htrue⟩ | ⟨rfl, hfalse⟩ := scimValue_active_text hmeant
          · simp [patchedValue, misread, htrue]
          · simp [patchedValue, misread, hfalse]
        | number | instant => cases hmeant
      | array | object => cases hmeant
    · cases hfield
  | userName | givenName | familyName =>
    obtain rfl | ⟨hfield, -⟩ | ⟨hfield, -⟩ := hvalue
    · exact patchedValue_name_iff (by simp) hmeant
    · cases hfield
    · cases hfield

theorem patchedValue_standing_iff (h : ∀ operation ∈ operations, isUserOperation operation = true)
    (field : UserAttribute) :
    patchedValue current operations field (standing current operations field) =
        scimPatched current operations field ↔ comesOutRight current operations field = true := by
  have hidle : ∀ operation, ((namedValue field operation).isSome ||
      (heeded field operation).isSome) = false →
        namedValue field operation = none ∧ heeded field operation = none := by
    intro operation hidle
    rw [Bool.or_eq_false_iff] at hidle
    exact ⟨Option.isNone_iff_eq_none.mp (by simpa using hidle.1),
      Option.isNone_iff_eq_none.mp (by simpa using hidle.2)⟩
  have hstanding := foldl_eq_lastWhere
    (fun operation => (namedValue field operation).isSome || (heeded field operation).isSome)
    (fun value operation => (heeded field operation).getD value)
    (fun operation hnone value => by rw [(hidle operation hnone).2]; rfl) operations
    (held (scimFields current) field)
  have hmeant := foldl_eq_lastWhere
    (fun operation => (namedValue field operation).isSome || (heeded field operation).isSome)
    (fun value operation => ((namedValue field operation).bind (scimValue field)).getD value)
    (fun operation hnone value => by rw [(hidle operation hnone).1]; rfl) operations
    (current.fieldValue field)
  rw [← standing] at hstanding
  rw [← foldl_applyScim, ← scimPatched] at hmeant
  rw [hstanding, hmeant, comesOutRight]
  cases hlast : lastWhere (fun operation =>
      (namedValue field operation).isSome || (heeded field operation).isSome) operations with
  | none => exact decide_eq_true_iff.symm
  | some found =>
    obtain ⟨before, operation⟩ := found
    obtain ⟨hnames, hmem⟩ := of_lastWhere hlast
    simp only [Option.elim_some]
    rw [← standing, ← foldl_applyScim, ← scimPatched]
    cases hnamed : namedValue field operation with
    | some value =>
      obtain ⟨meant, hmeant⟩ := isUserOperation_values (h operation hmem) hnamed
      rw [Option.bind_some, hmeant, Option.getD_some]
      cases hheeded : heeded field operation with
      | some value' =>
        rw [Option.getD_some, Bool.not_eq_true']
        exact patchedValue_iff hnamed hheeded hmeant
      | none =>
        rw [Option.getD_none, decide_eq_true_eq, hmeant, Option.some.injEq]
        exact eq_comm
    | none =>
      cases hheeded : heeded field operation with
      | some value' => exact decide_eq_true_iff.symm
      | none =>
        rw [hnamed, hheeded] at hnames
        cases hnames

theorem findScimUser_updated {d : Directory} {data : UserData} {check : LastAdminCheck}
    (hfound : d.findScimUser companyId id = some current)
    (hthrough : d.refuses id (some companyId) data = false) (hcompany : data.companyId = none)
    (hdeleted : data.deleted = false) :
    (execUser (.updateUser id (some companyId) data check) d).findScimUser companyId id =
      some (data.apply current) := by
  have hsame : (fun user : User => user.id = id && user.companyId = some companyId && !user.isDeleted) ∘
      (fun user => if names id (some companyId) user then data.apply user else user) =
        fun user : User => user.id = id && user.companyId = some companyId && !user.isDeleted := by
    funext user
    rw [Function.comp]
    split
    · simp [UserData.apply, hcompany, hdeleted]
    · rfl
  have hnames : names id (some companyId) current = true := by
    have hmatch := List.find?_some hfound
    rw [Bool.and_eq_true] at hmatch
    exact hmatch.1
  rw [execUser, if_neg (by rw [hthrough]; exact Bool.false_ne_true), Directory.findScimUser,
    List.find?_map, hsame]
  rw [Directory.findScimUser] at hfound
  rw [hfound, Option.map_some, if_pos hnames]

theorem alone_patchUser {body : Js} {next : List (String × Js)} {d : Directory}
    (hfound : d.findScimUser companyId id = some current)
    (hnext : ((operationsOf body).bind fun items =>
      items.foldlM applyOperation (scimFields current)) = some next)
    (hthrough : userSystem.throws (Admin.patchUser companyId id body) d = false) :
    (userSystem.alone (Admin.patchUser companyId id body) d).findScimUser companyId id =
      some ((replacedUser (.object next) (scimEmail (.object next))).apply current) := by
  have hread : userSystem.exec .read d = d := rfl
  rw [Admin.patchUser, System.throws, hread, hfound] at hthrough
  rw [Admin.patchUser, System.alone, hread, hfound]
  dsimp only at hthrough ⊢
  rw [hnext] at hthrough ⊢
  dsimp only at hthrough ⊢
  rw [Admin.replaceUser, System.throws, hread, hfound, if_neg (by simp)] at hthrough
  rw [Admin.replaceUser, System.alone, hread, hfound, if_neg (by simp)]
  by_cases hemail : scimEmail (.object next) = ""
  · rw [if_pos hemail] at hthrough
    cases hthrough
  rw [if_neg hemail, updateUserRow] at hthrough ⊢
  cases hrefused : d.refuses id (some companyId)
      (replacedUser (.object next) (scimEmail (.object next))) with
  | true =>
    rw [System.throws, hrefused] at hthrough
    cases hthrough
  | false =>
    rw [System.alone, hrefused]
    exact @findScimUser_updated _ _ _ _ _ .unchecked hfound hrefused rfl rfl

theorem alone_updateUserRow_of_throws {data : UserData} {check : LastAdminCheck} {d : Directory}
    (h : userSystem.throws (updateUserRow id (some companyId) data check .done) d = true) :
    userSystem.alone (updateUserRow id (some companyId) data check .done) d = d := by
  rw [updateUserRow] at h ⊢
  cases hrefused : d.refuses id (some companyId) data with
  | false =>
    rw [System.throws, hrefused] at h
    cases h
  | true =>
    rw [System.alone, hrefused]
    exact if_pos hrefused

theorem alone_replaceUser_of_throws {body : Js} {d : Directory}
    (h : userSystem.throws (Admin.replaceUser companyId id body) d = true) :
    userSystem.alone (Admin.replaceUser companyId id body) d = d := by
  rw [Admin.replaceUser, System.throws] at h
  rw [Admin.replaceUser, System.alone]
  split at h
  next hnone => rw [if_pos hnone]; rfl
  next hfound =>
    rw [if_neg hfound]
    split at h
    next hemail => rw [if_pos hemail]; rfl
    next hemail =>
      rw [if_neg hemail]
      exact alone_updateUserRow_of_throws h

theorem perform_patchUser_of_throws (uuid : Nat → String) {body : Js}
    (h : userSystem.throws (Admin.patchUser companyId id body) s.toDirectory = true) :
    (ScimUserRequest.patchUser id body).perform uuid companyId s = s := by
  have halone : userSystem.alone (Admin.patchUser companyId id body) s.toDirectory =
      s.toDirectory := by
    have hread : userSystem.exec .read s.toDirectory = s.toDirectory := rfl
    rw [Admin.patchUser, System.throws, hread] at h
    rw [Admin.patchUser, System.alone, hread]
    cases hfound : s.toDirectory.findScimUser companyId id with
    | none => rfl
    | some current =>
      rw [hfound] at h
      dsimp only at h ⊢
      cases hnext : (operationsOf body).bind fun items =>
          items.foldlM applyOperation (scimFields current) with
      | none => rfl
      | some next =>
        rw [hnext] at h
        exact alone_replaceUser_of_throws h
  rw [ScimUserRequest.perform, changeUser, halone, h]
  rfl

/-- A patch that does not fail does with the user what the operations say, one after the other,
just where each attribute comes out right. -/
theorem patchesUser_iff (uuid : Nat → String) {body : Js}
    (hfound : s.findScimUser companyId id = some current)
    (hoperations : operationsOf body = some operations)
    (h : ∀ operation ∈ operations, isUserOperation operation = true)
    (hthrough : userSystem.throws (Admin.patchUser companyId id body) s.toDirectory = false) :
    PatchesUser companyId id current operations
        ((ScimUserRequest.patchUser id body).perform uuid companyId s) ↔
      ∀ field, comesOutRight current operations field = true := by
  obtain ⟨next, hall, hfields⟩ := @exists_patch current operations h
  have hnext : ((operationsOf body).bind fun items =>
      items.foldlM applyOperation (scimFields current)) = some next := by
    rw [hoperations, Option.bind_some, hall]
  have hrow := alone_patchUser hfound hnext hthrough
  have hresult : ((ScimUserRequest.patchUser id body).perform uuid companyId s).findScimUser
      companyId id = some ((replacedUser (.object next) (scimEmail (.object next))).apply current) := by
    rw [ScimUserRequest.perform, changeUser, hthrough]
    exact hrow
  constructor
  · rintro ⟨row, hrow, hvalues, -⟩ field
    obtain rfl := Option.some.inj (hresult.symm.trans hrow)
    rw [← patchedValue_standing_iff h, ← hfields, hvalues]
  · intro hright
    refine ⟨_, hresult, ?_, rfl⟩
    funext field
    rw [hfields]
    exact (patchedValue_standing_iff h field).mpr (hright field)

end Result
end FieldserviceIT.Admin
