import FieldserviceIT.Admin.ScimUserPatches

/-!
What a patch makes of a group. Every operation on the members says what all of them are to be, an
addition with those the group had before the patch, so the last one decides.
-/

namespace FieldserviceIT.Admin

open Common Lib Sql

section Gathering

variable (refs : List Js)

def heededDisplay (operation : Js) : Option String :=
  if operationName operation = "replace" && operationPath operation = "displayname" then
    some (trimmedText (operationValue operation))
  else none

def heededMembers (operation : Js) : Option (List Js) :=
  let ofMembers := operationPath operation = "" || operationPath operation = "members"
  if operationName operation = "replace" && ofMembers then some (itemsOf (operationValue operation))
  else if operationName operation = "add" && ofMembers then
    some (refs ++ itemsOf (operationValue operation))
  else if operationName operation = "remove" && startsWith "members" (operationPath operation) then
    some []
  else none

def standingDisplay (displayName : String) (operations : List Js) : String :=
  operations.foldl (fun name operation => (heededDisplay operation).getD name) displayName

def standingMembers (operations : List Js) : Option (List Js) :=
  operations.foldl (fun members operation => (heededMembers refs operation).or members) none

variable {refs}

theorem isOperation_name {operation : Js} (h : isOperation operation = true) :
    operationName operation ∈ ["remove", "add", "replace"] := by
  rw [isOperation] at h
  split at h
  next hremove => exact hremove ▸ .head _
  next =>
    rw [Bool.or_eq_true, decide_eq_true_eq, decide_eq_true_eq] at h
    obtain hadd | hreplace := h
    · exact hadd ▸ .tail _ (.head _)
    · exact hreplace ▸ .tail _ (.tail _ (.head _))

theorem lowerCased_either {operation : Js} (h : isOperation operation = true) :
    lowerCased (stringOf (eitherOf (operation.property "op") (.text ""))) = operationName operation := by
  have h := isOperation_name h
  rw [operationName] at h ⊢
  generalize operation.property "op" = op at h ⊢
  rw [eitherOf]
  split
  · rfl
  next hfalse =>
    cases op with
    | null | undefined => exact absurd h (by decide)
    | array | object => exact absurd rfl hfalse
    | scalar v =>
      cases v with
      | text text =>
        have htext : text = "" := by simpa [countsAsTrue] using hfalse
        rw [htext]
        rfl
      | flag b =>
        cases b with
        | true => exact absurd rfl hfalse
        | false => exact absurd h (by decide)
      | instant => exact absurd rfl hfalse
      | number n =>
        obtain rfl : n = 0 := by simpa [countsAsTrue] using hfalse
        exact absurd h (by decide)

theorem applyGroupOperation_eq {operation : Js} (h : isOperation operation = true)
    (patch : GroupPatch) : applyGroupOperation refs patch operation =
      some ⟨(heededDisplay operation).getD patch.displayName,
        (heededMembers refs operation).or patch.members⟩ := by
  have hname := isOperation_name h
  have heither := lowerCased_either h
  have hpath : lowerCased (stringOf (eitherOf (operation.property "path") (.text ""))) =
      operationPath operation := rfl
  cases operation with
  | null => exact absurd hname (by decide)
  | undefined => exact absurd hname (by decide)
  | scalar | array | object =>
    rw [applyGroupOperation]
    · simp only [heither, hpath, heededDisplay, heededMembers, operationValue]
      congr 1
      rw [GroupPatch.mk.injEq]
      constructor
      · split <;> rfl
      · split
        · rfl
        · split
          · rfl
          · split
            · rfl
            · split <;> rfl
    · intro hnull
      cases hnull
    · intro hundefined
      cases hundefined

theorem foldlM_groupOperations {operations : List Js}
    (h : ∀ operation ∈ operations, isOperation operation = true) (patch : GroupPatch) :
    operations.foldlM (applyGroupOperation refs) patch =
      some ⟨operations.foldl (fun name operation => (heededDisplay operation).getD name)
          patch.displayName,
        operations.foldl (fun members operation => (heededMembers refs operation).or members)
          patch.members⟩ := by
  induction operations generalizing patch with
  | nil => rfl
  | cons operation operations ih =>
    rw [List.foldlM_cons, applyGroupOperation_eq (h operation (.head _))]
    exact ih (fun other hother => h other (.tail _ hother)) _

end Gathering

section Members

def memberIds (groupId : String) (s : Provisioning) : List String :=
  (s.members.filter (·.groupId = groupId)).map (·.userId)

def isFound (companyId : String) (s : Provisioning) (userId : String) : Bool :=
  (s.findScimUser companyId userId).isSome

def enrolled (found : String → Bool) (items : List Js) : List String :=
  (namedUsers (.array items)).filter found

def leftMembers (found : String → Bool) (members : List String) : Option (List Js) → List String
  | none => members
  | some items => enrolled found items

def sameUsers (userIds others : List String) : Bool :=
  userIds.all others.contains && others.all userIds.contains

theorem sameUsers_iff {userIds others : List String} :
    sameUsers userIds others = true ↔ ∀ userId, userId ∈ userIds ↔ userId ∈ others := by
  rw [sameUsers, Bool.and_eq_true, List.all_eq_true, List.all_eq_true]
  simp only [List.contains_iff_mem]
  constructor
  · rintro ⟨hleft, hright⟩ userId
    exact ⟨hleft userId, hright userId⟩
  · intro h
    exact ⟨fun userId => (h userId).mp, fun userId => (h userId).mpr⟩

theorem mem_memberIds {groupId userId : String} {s : Provisioning} :
    userId ∈ memberIds groupId s ↔ ⟨groupId, userId⟩ ∈ s.members := by
  rw [memberIds, List.mem_map]
  constructor
  · rintro ⟨member, hmember, rfl⟩
    obtain ⟨hmem, hgroup⟩ := List.mem_filter.mp hmember
    rw [decide_eq_true_eq] at hgroup
    exact hgroup ▸ hmem
  · intro hmem
    exact ⟨⟨groupId, userId⟩, List.mem_filter.mpr ⟨hmem, decide_eq_true rfl⟩, rfl⟩

theorem mem_namedUsers {items : List Js} {refs : List String} (h : items.mapM memberRef = some refs)
    {userId : String} : userId ∈ namedUsers (.array items) ↔ userId ∈ refs ∧ userId ≠ "" := by
  have heither : eitherOf (.array items) (.array []) = .array items := if_pos rfl
  rw [namedUsers, listedUsers, heither]
  dsimp only
  rw [h, Option.map_some, Option.getD_some, List.mem_eraseDups, List.mem_filter, decide_eq_true_eq]

theorem namedUsers_nil : namedUsers (.array []) = [] := by
  decide

theorem mem_namedUsers_append {items more : List Js} {refs refs' : List String}
    (h : items.mapM memberRef = some refs) (h' : more.mapM memberRef = some refs')
    {userId : String} : userId ∈ namedUsers (.array (items ++ more)) ↔
      userId ∈ namedUsers (.array items) ∨ userId ∈ namedUsers (.array more) := by
  have happend : (items ++ more).mapM memberRef = some (refs ++ refs') := by
    rw [List.mapM_append, h, h']
    rfl
  rw [mem_namedUsers happend, mem_namedUsers h, mem_namedUsers h', List.mem_append, or_and_right]

theorem mapM_memberRefs (groupId : String) (s : Provisioning) :
    (memberRefs groupId s).mapM memberRef =
      some ((memberIds groupId s).map fun userId => lastSegment
        (stringOf (eitherOf (.text userId) (.text "")))) := by
  rw [memberRefs, memberIds]
  induction s.members.filter (·.groupId = groupId) with
  | nil => rfl
  | cons member members ih =>
    rw [List.map_cons, List.mapM_cons, ih]
    rfl

end Members

section Result

/-- The group is what the operations make of it one after the other, and otherwise as it was. -/
def PatchesGroup (companyId id : String) (group : ScimGroup) (operations : List Js)
    (s s' : Provisioning) : Prop :=
  let patched := scimGroupPatched (isFound companyId s) ⟨group.displayName, memberIds id s⟩ operations
  (∃ group', s'.findGroup companyId id = some group' ∧ group'.displayName = patched.displayName ∧
    group'.unnamed = group.unnamed) ∧ ∀ userId, userId ∈ memberIds id s' ↔ userId ∈ patched.members

/-- The last operation that names the group is heeded, or says what its name is already. -/
def displayComesOutRight (displayName : String) (operations : List Js) : Bool :=
  match lastWhere (fun operation => (namedDisplay operation).isSome) operations with
  | none => true
  | some (before, operation) =>
    (heededDisplay operation).isSome ||
      (namedDisplay operation).map trimmedText = some (standingDisplay displayName before)

/-- An operation that is heeded leaves the members that it says. A replacement by a list and a
removal of all do. The removal of one member leaves none, so no other may be there. An addition
begins with the members at first, so the operations before it must have left those. -/
def endsRight (found : String → Bool) (refs : List Js) (there : List String) (listed : Bool) :
    MembersChange → Bool
  | .clear => true
  | .remove userId => there.all fun member => member = userId
  | .replace userIds => listed || (userIds.filter found).isEmpty
  | .add userIds =>
    sameUsers (enrolled found refs ++ if listed then userIds.filter found else [])
      (there ++ userIds.filter found)

/-- The last operation on the members leaves those that it says. One that is passed over, or that
overwrites the members without naming them, finds them there. -/
def membersComeOutRight (found : String → Bool) (refs : List Js) (state : GroupState)
    (operations : List Js) : Bool :=
  match lastWhere (fun operation =>
      (namedChange operation).isSome || (heededMembers refs operation).isSome) operations with
  | none => true
  | some (before, operation) =>
    let there := (scimGroupPatched found state before).members
    match namedChange operation, heededMembers refs operation with
    | some change, some _ => endsRight found refs there (isArray (operationValue operation)) change
    | some change, none =>
      sameUsers (leftMembers found state.members (standingMembers refs before))
        (change.apply found there)
    | none, some items => sameUsers (enrolled found items) there
    | none, none => true

variable {companyId id : String} {group : ScimGroup} {operations : List Js} {s : Provisioning}

theorem displayName_scimGroupPatched (found : String → Bool) (state : GroupState)
    (operations : List Js) : (scimGroupPatched found state operations).displayName =
      operations.foldl (fun name operation => ((namedDisplay operation).map trimmedText).getD name)
        state.displayName := by
  rw [scimGroupPatched]
  induction operations generalizing state with
  | nil => rfl
  | cons operation operations ih =>
    rw [List.foldl_cons, ih, List.foldl_cons]
    rfl

theorem members_scimGroupPatched (found : String → Bool) (state : GroupState)
    (operations : List Js) : (scimGroupPatched found state operations).members =
      operations.foldl (fun members operation =>
        ((namedChange operation).map (MembersChange.apply found members)).getD members)
          state.members := by
  rw [scimGroupPatched]
  induction operations generalizing state with
  | nil => rfl
  | cons operation operations ih =>
    rw [List.foldl_cons, ih, List.foldl_cons]
    rfl

theorem namedDisplay_of_heeded {operation : Js} {name : String}
    (h : heededDisplay operation = some name) :
    namedDisplay operation = some (operationValue operation) ∧
      name = trimmedText (operationValue operation) := by
  obtain ⟨hreplace, hname⟩ := Option.ite_none_right_eq_some.mp h
  rw [Bool.and_eq_true, decide_eq_true_eq, decide_eq_true_eq] at hreplace
  have hplain : startsWith (lowerCased groupSchema ++ ":") "displayname" = false := by
    decide
  refine ⟨?_, (Option.some.inj hname).symm⟩
  rw [namedDisplay, hreplace.1, if_neg (by decide), if_neg (by rw [hreplace.2]; decide),
    attributePath, hreplace.2, hplain]
  rfl

theorem standingDisplay_iff (displayName : String) (operations : List Js)
    (found : String → Bool) (members : List String) :
    standingDisplay displayName operations =
        (scimGroupPatched found ⟨displayName, members⟩ operations).displayName ↔
      displayComesOutRight displayName operations = true := by
  have hstanding := foldl_eq_lastWhere (fun operation => (namedDisplay operation).isSome)
    (fun name operation => (heededDisplay operation).getD name)
    (fun operation hnone name => by
      cases hheeded : heededDisplay operation with
      | none => rfl
      | some name' =>
        rw [(namedDisplay_of_heeded hheeded).1] at hnone
        cases hnone) operations displayName
  have hmeant := foldl_eq_lastWhere (fun operation => (namedDisplay operation).isSome)
    (fun name operation => ((namedDisplay operation).map trimmedText).getD name)
    (fun operation hnone name => by
      rw [Option.isSome_eq_false_iff, Option.isNone_iff_eq_none] at hnone
      rw [hnone]
      rfl) operations displayName
  rw [← standingDisplay] at hstanding
  rw [displayName_scimGroupPatched, hstanding, hmeant, displayComesOutRight]
  cases hlast : lastWhere (fun operation => (namedDisplay operation).isSome) operations with
  | none => exact iff_of_true rfl rfl
  | some found =>
    obtain ⟨before, operation⟩ := found
    obtain ⟨hnames, -⟩ := of_lastWhere hlast
    obtain ⟨value, hvalue⟩ := Option.isSome_iff_exists.mp hnames
    simp only [Option.elim_some]
    rw [← standingDisplay]
    cases hheeded : heededDisplay operation with
    | some name =>
      obtain ⟨hnamed, rfl⟩ := namedDisplay_of_heeded hheeded
      rw [hnamed]
      exact iff_of_true rfl rfl
    | none =>
      rw [hvalue]
      simp [eq_comm]

theorem membersValue_of_listed {operation : Js}
    (hpath : (operationPath operation = "" || operationPath operation = "members") = true)
    (hlisted : isArray (operationValue operation) = true) :
    membersValue operation = some (operationValue operation) := by
  rw [membersValue, if_pos hlisted]
  by_cases hempty : operationPath operation = ""
  · exact if_pos hempty
  · have hmembers : operationPath operation = "members" := by
      rw [Bool.or_eq_true, decide_eq_true_eq, decide_eq_true_eq] at hpath
      exact hpath.resolve_left hempty
    have hplain : startsWith (lowerCased groupSchema ++ ":") "members" = false := by
      decide
    rw [if_neg hempty, attributePath, hmembers, hplain]
    rfl

theorem itemsOf_of_not_array {value : Js} (h : isArray value = false) : itemsOf value = [] := by
  cases value with
  | array => cases h
  | null | undefined | scalar | object => rfl

theorem enrolled_of_listed {value : Js} {userIds : List String} (found : String → Bool)
    (hlisted : isArray value = true) (hnamed : namedMembers value = some userIds) :
    enrolled found (itemsOf value) = userIds.filter found ∧
      ∃ ids, (itemsOf value).mapM memberRef = some ids := by
  cases value with
  | array items =>
    have hlist : listedUsers (.array items) = some userIds := hnamed
    refine ⟨by rw [enrolled, itemsOf, namedUsers, hlist, Option.getD_some], ?_⟩
    obtain ⟨ids, hids, -⟩ := Option.map_eq_some_iff.mp hlist
    exact ⟨ids, hids⟩
  | null | undefined | scalar | object => cases hlisted

theorem mem_enrolled_append {items more : List Js} (h : ∃ ids, items.mapM memberRef = some ids)
    (h' : ∃ ids, more.mapM memberRef = some ids) (found : String → Bool) {userId : String} :
    userId ∈ enrolled found (items ++ more) ↔
      userId ∈ enrolled found items ∨ userId ∈ enrolled found more := by
  obtain ⟨ids, hids⟩ := h
  obtain ⟨ids', hids'⟩ := h'
  simp only [enrolled, List.mem_filter, mem_namedUsers_append hids hids', or_and_right]

theorem enrolled_nil (found : String → Bool) : enrolled found [] = [] := by
  rw [enrolled, namedUsers_nil, List.filter_nil]

theorem heededMembers_cases {refs items : List Js} {operation : Js}
    (h : heededMembers refs operation = some items) :
    operationName operation = "remove" ∧ items = [] ∨
      (operationPath operation = "" || operationPath operation = "members") = true ∧
        (operationName operation = "add" ∧ items = refs ++ itemsOf (operationValue operation) ∨
          operationName operation = "replace" ∧ items = itemsOf (operationValue operation)) := by
  rw [heededMembers] at h
  split at h
  next hreplace =>
    rw [Bool.and_eq_true, decide_eq_true_eq] at hreplace
    exact .inr ⟨hreplace.2, .inr ⟨hreplace.1, (Option.some.inj h).symm⟩⟩
  split at h
  next hadd =>
    rw [Bool.and_eq_true, decide_eq_true_eq] at hadd
    exact .inr ⟨hadd.2, .inl ⟨hadd.1, (Option.some.inj h).symm⟩⟩
  obtain ⟨hremove, hitems⟩ := Option.ite_none_right_eq_some.mp h
  rw [Bool.and_eq_true, decide_eq_true_eq] at hremove
  exact .inl ⟨hremove.1, (Option.some.inj hitems).symm⟩

theorem enrolled_iff {refs items : List Js} (hrefs : ∃ ids, refs.mapM memberRef = some ids)
    {operation : Js} {found : String → Bool} {change : MembersChange} (hnamed : namedChange operation = some change)
    (hheeded : heededMembers refs operation = some items) (there : List String) :
    (∀ userId, userId ∈ enrolled found items ↔ userId ∈ change.apply found there) ↔
      endsRight found refs there (isArray (operationValue operation)) change = true := by
  rw [namedChange] at hnamed
  obtain ⟨hremove, rfl⟩ | ⟨hpath, hwrites⟩ := heededMembers_cases hheeded
  · rw [if_pos hremove] at hnamed
    rw [enrolled_nil]
    split at hnamed
    · obtain rfl := Option.some.inj hnamed
      exact iff_of_true (fun _ => Iff.rfl) rfl
    · obtain ⟨userId, -, rfl⟩ := Option.map_eq_some_iff.mp hnamed
      rw [MembersChange.apply, endsRight, List.all_eq_true]
      simp only [List.not_mem_nil, false_iff, List.mem_filter, decide_eq_true_eq, not_and, not_not]
  have hremove : operationName operation ≠ "remove" := by
    obtain ⟨hadd, -⟩ | ⟨hreplace, -⟩ := hwrites
    · rw [hadd]
      decide
    · rw [hreplace]
      decide
  rw [if_neg hremove] at hnamed
  obtain ⟨userIds, huserIds, rfl⟩ := Option.map_eq_some_iff.mp hnamed
  obtain ⟨value, hvalue, huserIds⟩ := Option.bind_eq_some_iff.mp huserIds
  have hlist : isArray (operationValue operation) = true →
      enrolled found (itemsOf (operationValue operation)) = userIds.filter found ∧
        ∃ ids, (itemsOf (operationValue operation)).mapM memberRef = some ids := by
    intro hlisted
    obtain rfl := Option.some.inj ((membersValue_of_listed hpath hlisted).symm.trans hvalue)
    exact enrolled_of_listed found hlisted huserIds
  obtain ⟨hadd, rfl⟩ | ⟨hreplace, rfl⟩ := hwrites
  · rw [if_pos hadd, endsRight, MembersChange.apply, sameUsers_iff]
    refine forall_congr' fun userId => iff_congr ?_ Iff.rfl
    cases hlisted : isArray (operationValue operation) with
    | true =>
      obtain ⟨henrolled, hids⟩ := hlist hlisted
      rw [if_pos rfl, ← henrolled, List.mem_append, mem_enrolled_append hrefs hids]
    | false => rw [itemsOf_of_not_array hlisted, if_neg Bool.false_ne_true, List.append_nil, List.append_nil]
  · rw [hreplace, if_neg (by decide), endsRight, MembersChange.apply]
    cases hlisted : isArray (operationValue operation) with
    | true =>
      rw [(hlist hlisted).1]
      exact iff_of_true (fun _ => Iff.rfl) rfl
    | false =>
      rw [itemsOf_of_not_array hlisted, enrolled_nil, Bool.false_or, List.isEmpty_iff,
        List.eq_nil_iff_forall_not_mem]
      simp only [List.not_mem_nil, false_iff]

theorem leftMembers_iff {refs : List Js} (hrefs : ∃ ids, refs.mapM memberRef = some ids)
    (found : String → Bool) (state : GroupState) (operations : List Js) :
    (∀ userId, userId ∈ leftMembers found state.members (standingMembers refs operations) ↔
        userId ∈ (scimGroupPatched found state operations).members) ↔
      membersComeOutRight found refs state operations = true := by
  have hstanding := foldl_eq_lastWhere
    (fun operation => (namedChange operation).isSome || (heededMembers refs operation).isSome)
    (fun members operation => (heededMembers refs operation).or members)
    (fun operation hnone members => by
      rw [Bool.or_eq_false_iff, Option.isSome_eq_false_iff, Option.isSome_eq_false_iff,
        Option.isNone_iff_eq_none, Option.isNone_iff_eq_none] at hnone
      rw [hnone.2]
      rfl) operations none
  have hmeant := foldl_eq_lastWhere
    (fun operation => (namedChange operation).isSome || (heededMembers refs operation).isSome)
    (fun members operation =>
      ((namedChange operation).map (MembersChange.apply found members)).getD members)
    (fun operation hnone members => by
      rw [Bool.or_eq_false_iff, Option.isSome_eq_false_iff, Option.isSome_eq_false_iff,
        Option.isNone_iff_eq_none, Option.isNone_iff_eq_none] at hnone
      rw [hnone.1]
      rfl) operations state.members
  rw [← standingMembers] at hstanding
  rw [← members_scimGroupPatched] at hmeant
  rw [hstanding, hmeant, membersComeOutRight]
  cases hlast : lastWhere (fun operation =>
      (namedChange operation).isSome || (heededMembers refs operation).isSome) operations with
  | none => exact iff_of_true (fun _ => Iff.rfl) rfl
  | some last =>
    obtain ⟨before, operation⟩ := last
    obtain ⟨hnames, -⟩ := of_lastWhere hlast
    simp only [Option.elim_some]
    rw [← standingMembers, ← members_scimGroupPatched]
    cases hnamed : namedChange operation with
    | none =>
      cases hheeded : heededMembers refs operation with
      | some items => exact sameUsers_iff.symm
      | none =>
        rw [hnamed, hheeded] at hnames
        cases hnames
    | some change =>
      cases hheeded : heededMembers refs operation with
      | none =>
        rw [Option.none_or]
        exact sameUsers_iff.symm
      | some items =>
        rw [Option.some_or, Option.map_some, Option.getD_some, leftMembers]
        exact enrolled_iff hrefs hnamed hheeded _

/-- In a company no two groups have the same external id, which the key of the table sees to. -/
def ExternalIdsUnique (s : Provisioning) : Prop :=
  ∀ group ∈ s.groups, ∀ other ∈ s.groups, other.id ≠ group.id → group.clashes other = false

def renamed (displayName : String) (group : ScimGroup) : ScimGroup :=
  { group with displayName := displayName }

theorem updateGroup_renamed (hunique : ExternalIdsUnique s) (displayName : String) :
    s.updateGroup companyId id (renamed displayName) = some { s with
      groups :=
        updateWhere (fun group => group.id = id && group.companyId = companyId) (renamed displayName)
          s.groups } := by
  rw [Provisioning.updateGroup, if_neg]
  intro hrefused
  obtain ⟨group, hgroup, hclash⟩ := List.any_eq_true.mp hrefused
  rw [Bool.and_eq_true] at hclash
  obtain ⟨other, hother, hclash⟩ := List.any_eq_true.mp hclash.2
  rw [Bool.and_eq_true, decide_eq_true_eq] at hclash
  have hsame : (renamed displayName group).clashes other = group.clashes other := rfl
  rw [hsame, hunique group hgroup other hother hclash.1] at hclash
  cases hclash.2

theorem findGroup_renamed (hfound : s.findGroup companyId id = some group) (displayName : String)
    {s' : Provisioning} (hgroups : s'.groups =
      updateWhere (fun group => group.id = id && group.companyId = companyId) (renamed displayName)
        s.groups) : s'.findGroup companyId id = some (renamed displayName group) := by
  have hsame : (fun group : ScimGroup => group.id = id && group.companyId = companyId) ∘
      (fun group => if group.id = id && group.companyId = companyId then renamed displayName group
        else group) = fun group => group.id = id && group.companyId = companyId := by
    funext group
    rw [Function.comp]
    split <;> rfl
  rw [Provisioning.findGroup] at hfound
  have hnamed := List.find?_some hfound
  rw [Provisioning.findGroup, hgroups, updateWhere, List.find?_map, hsame, hfound, Option.map_some,
    if_pos hnamed]

theorem perform_patchGroup (uuid : Nat → String) (bound : Js → String)
    (hunique : ExternalIdsUnique s) {body : Js} (hfound : s.findGroup companyId id = some group)
    (hoperations : operationsOf body = some operations)
    (h : ∀ operation ∈ operations, isOperation operation = true) :
    ((ScimGroupRequest.patchGroup id body).perform uuid bound companyId s).findGroup companyId id =
        some (renamed (standingDisplay group.displayName operations) group) ∧
      ∀ userId, userId ∈
          memberIds id ((ScimGroupRequest.patchGroup id body).perform uuid bound companyId s) ↔
        userId ∈ leftMembers (isFound companyId s) (memberIds id s)
          (standingMembers (memberRefs id s) operations) := by
  obtain ⟨-, hid, -⟩ := findGroup_mem hfound
  have hpatch : groupPatch group body s = some ⟨standingDisplay group.displayName operations,
      standingMembers (memberRefs id s) operations⟩ := by
    rw [groupPatch, hoperations, hid]
    exact foldlM_groupOperations h _
  have hupdate := @updateGroup_renamed companyId id s hunique
    (standingDisplay group.displayName operations)
  rw [ScimGroupRequest.perform, hfound]
  dsimp only
  rw [hpatch]
  dsimp only
  unfold renamed at hupdate
  rw [hupdate]
  dsimp only
  cases hmembers : standingMembers (memberRefs id s) operations with
  | none => exact ⟨findGroup_renamed hfound _ rfl, fun _ => Iff.rfl⟩
  | some items =>
    obtain ⟨heffect, hgroups⟩ := effect_replaceGroupMembers companyId id (.array items) { s with
      groups :=
        updateWhere (fun group => group.id = id && group.companyId = companyId)
          (renamed (standingDisplay group.displayName operations)) s.groups }
    refine ⟨findGroup_renamed hfound _ hgroups, fun userId => ?_⟩
    rw [mem_memberIds]
    refine (heffect.members ⟨id, userId⟩).trans ?_
    rw [leftMembers, enrolled, List.mem_filter]
    constructor
    · rintro (⟨-, hother⟩ | ⟨-, hnamed, hfound⟩)
      · exact absurd rfl hother
      · exact ⟨hnamed, hfound⟩
    · rintro ⟨hnamed, hfound⟩
      exact .inr ⟨rfl, hnamed, hfound⟩

/-- A patch does with a group what the operations say, one after the other, just where its name and
its members come out right. -/
theorem patchesGroup_iff (uuid : Nat → String) (bound : Js → String)
    (hunique : ExternalIdsUnique s) {body : Js} (hfound : s.findGroup companyId id = some group)
    (hoperations : operationsOf body = some operations)
    (h : ∀ operation ∈ operations, isGroupOperation operation = true) :
    PatchesGroup companyId id group operations s
        ((ScimGroupRequest.patchGroup id body).perform uuid bound companyId s) ↔
      displayComesOutRight group.displayName operations = true ∧
        membersComeOutRight (isFound companyId s) (memberRefs id s)
          ⟨group.displayName, memberIds id s⟩ operations = true := by
  have hoperation : ∀ operation ∈ operations, isOperation operation = true := by
    intro operation hmem
    have hgroup := h operation hmem
    rw [isGroupOperation, Bool.and_eq_true, Bool.and_eq_true] at hgroup
    exact hgroup.1.1
  obtain ⟨hgroup, hmembers⟩ := perform_patchGroup uuid bound hunique hfound hoperations hoperation
  have hdisplay := standingDisplay_iff group.displayName operations (isFound companyId s)
    (memberIds id s)
  have hleft := leftMembers_iff ⟨_, mapM_memberRefs id s⟩ (isFound companyId s)
    ⟨group.displayName, memberIds id s⟩ operations
  rw [← hdisplay, ← hleft, PatchesGroup]
  refine and_congr ⟨?_, fun hname => ?_⟩ (forall_congr' fun userId => iff_congr (hmembers userId) Iff.rfl)
  · rintro ⟨group', hgroup', hname, -⟩
    obtain rfl := Option.some.inj (hgroup.symm.trans hgroup')
    exact hname
  · exact ⟨_, hgroup, hname, rfl⟩

/-- A patch of well-formed operations that does not fail makes of a user what the operations say, one
after the other, just where each attribute comes out right, and one that fails changes nothing. It
makes that of a group just where its name and its members come out right. -/
theorem scim_patches_sequential_iff (uuid : Nat → String) (bound : Js → String)
    (companyId id : String) {s : Provisioning} {body : Js} {operations : List Js}
    (hoperations : operationsOf body = some operations) :
    (∀ current, s.findScimUser companyId id = some current →
      (∀ operation ∈ operations, isUserOperation operation = true) →
        (userSystem.throws (Admin.patchUser companyId id body) s.toDirectory = true →
          (ScimUserRequest.patchUser id body).perform uuid companyId s = s) ∧
        (userSystem.throws (Admin.patchUser companyId id body) s.toDirectory = false →
          (PatchesUser companyId id current operations
              ((ScimUserRequest.patchUser id body).perform uuid companyId s) ↔
            ∀ field, comesOutRight current operations field = true))) ∧
    ∀ group, ExternalIdsUnique s → s.findGroup companyId id = some group →
      (∀ operation ∈ operations, isGroupOperation operation = true) →
        (PatchesGroup companyId id group operations s
            ((ScimGroupRequest.patchGroup id body).perform uuid bound companyId s) ↔
          displayComesOutRight group.displayName operations = true ∧
            membersComeOutRight (isFound companyId s) (memberRefs id s)
              ⟨group.displayName, memberIds id s⟩ operations = true) := by
  refine ⟨fun current hfound h => ⟨perform_patchUser_of_throws uuid, fun hthrough => ?_⟩,
    fun group hunique hfound h => ?_⟩
  · exact patchesUser_iff uuid hfound hoperations h hthrough
  · exact patchesGroup_iff uuid bound hunique hfound hoperations h

end Result

section Samples

def sampleOperation (op path : String) (value : Js) : Js :=
  .object [("op", .text op), ("path", .text path), ("value", value)]

def sampleBody (operations : List Js) : Js :=
  .object [("Operations", .array operations)]

def sampleMember (userId : String) : Js :=
  .array [.object [("value", .text userId)]]

def sampleTeam : Provisioning where
  toDirectory := sampleTenants
    [provisionedUser "ann" "acme" (.object [("userName", .text "ann@acme.test")]),
      provisionedUser "amy" "acme" (.object [("userName", .text "amy@acme.test")])]
  groups := [⟨"g1", "acme", some "sales", "Sales"⟩]
  members := [⟨"g1", "ann"⟩]
  mappings := []
  logins := []

theorem sampleTeam_unique : ExternalIdsUnique sampleTeam := by
  intro group hgroup other hother hne
  obtain rfl := List.mem_singleton.mp hgroup
  obtain rfl := List.mem_singleton.mp hother
  exact absurd rfl hne

def sampleUserOperations : List Js :=
  [sampleOperation "Replace" "Active" (.scalar (.flag false)),
    sampleOperation "add" "" (.object [("externalId", .text "a-1")])]

def sampleGroupOperations : List Js :=
  [sampleOperation "add" "members" (sampleMember "amy"),
    sampleOperation "replace" "displayName" (.text "Support")]

/-- A user is deactivated and gets an external id, and a group gets a member and a name. -/
theorem scim_patches_sequential_once :
    PatchesUser "acme" "ann" (provisionedUser "ann" "acme" (.object [("userName", .text "ann@acme.test")]))
        sampleUserOperations
        ((ScimUserRequest.patchUser "ann" (sampleBody sampleUserOperations)).perform sampleUuid "acme"
          sampleTeam) ∧
      PatchesGroup "acme" "g1" ⟨"g1", "acme", some "sales", "Sales"⟩ sampleGroupOperations sampleTeam
        ((ScimGroupRequest.patchGroup "g1" (sampleBody sampleGroupOperations)).perform sampleUuid
          stringOf "acme" sampleTeam) := by
  constructor
  · have hwf : ∀ operation ∈ sampleUserOperations, isUserOperation operation = true := by
      decide
    have huser := (@scim_patches_sequential_iff sampleUuid stringOf "acme" "ann" sampleTeam
      (sampleBody sampleUserOperations) _ rfl).1 _ rfl hwf
    refine (huser.2 (by decide)).mpr fun field => ?_
    cases field <;> decide
  · have hwf : ∀ operation ∈ sampleGroupOperations, isGroupOperation operation = true := by
      decide
    have hgroup := (@scim_patches_sequential_iff sampleUuid stringOf "acme" "g1" sampleTeam
      (sampleBody sampleGroupOperations) _ rfl).2 _ sampleTeam_unique rfl hwf
    exact hgroup.mpr (by decide)

def sampleAdditions : List Js :=
  [sampleOperation "add" "members" (sampleMember "amy"),
    sampleOperation "add" "members" (sampleMember "ann")]

/-- The text of false does not deactivate a user, and the second of two additions undoes the first. -/
theorem scim_patches_not_sequential :
    (¬ ∀ (s : Provisioning) (companyId id : String) (current : User) (operations : List Js),
      s.findScimUser companyId id = some current →
        (∀ operation ∈ operations, isUserOperation operation = true) →
          userSystem.throws (Admin.patchUser companyId id (sampleBody operations)) s.toDirectory = false →
            PatchesUser companyId id current operations
              ((ScimUserRequest.patchUser id (sampleBody operations)).perform sampleUuid companyId s)) ∧
    ¬ ∀ (s : Provisioning) (companyId id : String) (group : ScimGroup) (operations : List Js),
      ExternalIdsUnique s → s.findGroup companyId id = some group →
        (∀ operation ∈ operations, isGroupOperation operation = true) →
          PatchesGroup companyId id group operations s
            ((ScimGroupRequest.patchGroup id (sampleBody operations)).perform sampleUuid stringOf
              companyId s) := by
  constructor
  · intro hall
    have hpatches := hall sampleTeam "acme" "ann" _
      [sampleOperation "replace" "active" (.text "False")] rfl (by decide) (by decide)
    have hright := (patchesUser_iff sampleUuid rfl rfl (by decide) (by decide)).mp
      hpatches .active
    exact absurd hright (by decide)
  · intro hall
    have hadditions : ∀ operation ∈ sampleAdditions, isGroupOperation operation = true := by
      decide
    have hpatches := hall sampleTeam "acme" "g1" _ sampleAdditions sampleTeam_unique
      rfl hadditions
    have hright := (patchesGroup_iff sampleUuid stringOf sampleTeam_unique rfl rfl hadditions).mp
      hpatches
    exact absurd hright.2 (by decide)

end Samples
end FieldserviceIT.Admin
