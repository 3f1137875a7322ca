import FieldserviceIT.Admin.ScimGroups

/-!
What a request with a tenant's token does to the users of other tenants. Calls on
users find the user in the company and write there. Calls on groups give roles to
whatever users the list of members names, and the members a group had before go, be
they in the company or not.
-/

namespace FieldserviceIT.Admin

open Common Lib Sql

section Changes

/-- What a call does to the members of a group: the users that are named, and the roles
the group is mapped to. -/
structure MemberChange where
  groupId : String
  named : List String
  roles : List String

namespace MemberChange

def reaches (change : MemberChange) (userId : String) : Bool :=
  !change.roles.isEmpty && change.named.contains userId

end MemberChange

variable (uuid : Nat → String) (bound : Js → String) (companyId : String)

def namedUsers (members : Js) : List String :=
  (listedUsers members).getD []

def ScimGroupRequest.memberChange : ScimGroupRequest → Provisioning → Option MemberChange
  | createGroup body, s =>
    let group := newGroup bound (uuid s.drawn) companyId body
    if group.displayName = "" then none
    else if s.groups.any fun other => other.id = group.id || group.clashes other then none
    else
      some ⟨group.id, namedUsers (body.property "members"), rolesFor companyId group.ids s⟩
  | replaceGroup id body, s =>
    if (s.findGroup companyId id).isNone then none
    else if trimmedText (body.property "displayName") = "" then none
    else
      (s.updateGroup companyId id fun group =>
          { group with
            externalId := some (groupExternalId bound id body)
            displayName := trimmedText (body.property "displayName") }).map fun _ =>
        ⟨id, namedUsers (body.property "members"),
          rolesFor companyId [id, groupExternalId bound id body] s⟩
  | patchGroup id body, s =>
    (s.findGroup companyId id).bind fun group =>
      (groupPatch group body s).bind fun patch =>
        (s.updateGroup companyId id fun group =>
            { group with displayName := patch.displayName }).bind fun _ =>
          patch.members.map fun members =>
            ⟨id, namedUsers (.array members), rolesFor companyId group.ids s⟩
  | deleteGroup id, s => (s.findGroup companyId id).map fun _ => ⟨id, [], []⟩

end Changes

section Loops

variable {companyId groupId : String} {roles userIds : List String} {s : Provisioning}

def raised (user : User) : User :=
  { user with authVersion := user.authVersion + 1 }

theorem raised_id (user : User) : (raised user).id = user.id :=
  rfl

def ended (now : Int) (login : LoginSession) : LoginSession :=
  if login.revokedAt.isNone then revokedLogin now login else login

theorem ended_userId (now : Int) (login : LoginSession) : (ended now login).userId = login.userId := by
  rw [ended]
  split <;> rfl

theorem logins_revokeSessions (userId : String) (s : Provisioning) :
    (s.revokeSessions userId).logins =
      updateWhere (fun login => login.userId = userId) (ended s.now) s.logins :=
  updateWhere_and _

theorem mem_enrol {userId : String} {member : ScimGroupMember} :
    member ∈ (enrol companyId groupId s userId).members ↔ member ∈ s.members ∨
      member = ⟨groupId, userId⟩ ∧ (s.findScimUser companyId userId).isSome = true := by
  rw [enrol]
  split
  next h => simp only [mem_insertIgnore, h, and_true]
  next h => simp [h]

theorem enrol_users (userId : String) :
    (enrol companyId groupId s userId).toDirectory = s.toDirectory := by
  rw [enrol]
  split <;> rfl

theorem foldl_enrol_rest (companyId groupId : String) (userIds : List String) (s : Provisioning) :
    (userIds.foldl (enrol companyId groupId) s).toDirectory = s.toDirectory ∧
      (userIds.foldl (enrol companyId groupId) s).groups = s.groups ∧
      (userIds.foldl (enrol companyId groupId) s).mappings = s.mappings ∧
      (userIds.foldl (enrol companyId groupId) s).logins = s.logins := by
  induction userIds generalizing s with
  | nil => exact ⟨rfl, rfl, rfl, rfl⟩
  | cons userId userIds ih =>
    obtain ⟨hdirectory, hgroups, hmappings, hlogins⟩ := ih (enrol companyId groupId s userId)
    have hstep : (enrol companyId groupId s userId).toDirectory = s.toDirectory ∧
        (enrol companyId groupId s userId).groups = s.groups ∧
        (enrol companyId groupId s userId).mappings = s.mappings ∧
        (enrol companyId groupId s userId).logins = s.logins := by
      rw [enrol]
      split <;> exact ⟨rfl, rfl, rfl, rfl⟩
    rw [List.foldl_cons]
    exact ⟨hdirectory.trans hstep.1, hgroups.trans hstep.2.1, hmappings.trans hstep.2.2.1,
      hlogins.trans hstep.2.2.2⟩

theorem mem_foldl_enrol {member : ScimGroupMember} :
    member ∈ (userIds.foldl (enrol companyId groupId) s).members ↔ member ∈ s.members ∨
      member.groupId = groupId ∧ member.userId ∈ userIds ∧
        (s.findScimUser companyId member.userId).isSome = true := by
  induction userIds generalizing s with
  | nil => simp
  | cons userId userIds ih =>
    rw [List.foldl_cons, ih, mem_enrol, enrol_users, or_assoc]
    refine or_congr_right ⟨?_, ?_⟩
    · rintro (⟨rfl, hown⟩ | ⟨hgroup, hmem, hown⟩)
      · exact ⟨rfl, List.mem_cons_self, hown⟩
      · exact ⟨hgroup, List.mem_cons_of_mem _ hmem, hown⟩
    · rintro ⟨rfl, hmem, hown⟩
      obtain heq | hmem := List.mem_cons.mp hmem
      · exact .inl ⟨by rw [← heq], heq ▸ hown⟩
      · exact .inr ⟨rfl, hmem, hown⟩

theorem users_foldl_provision (roles userIds : List String) (s : Provisioning) :
    (userIds.foldl (provision roles) s).users =
      if roles.isEmpty then s.users
      else userIds.foldl (fun users userId => updateWhere (·.id = userId) raised users) s.users := by
  induction userIds generalizing s with
  | nil => simp
  | cons userId userIds ih =>
    rw [List.foldl_cons, ih, provision]
    split <;> rfl

theorem logins_foldl_provision (roles userIds : List String) (s : Provisioning) :
    (userIds.foldl (provision roles) s).logins =
      if roles.isEmpty then s.logins
      else
        userIds.foldl (fun logins userId => updateWhere (·.userId = userId) (ended s.now) logins)
          s.logins := by
  induction userIds generalizing s with
  | nil => simp
  | cons userId userIds ih =>
    rw [List.foldl_cons, ih, provision]
    split
    · rfl
    · rw [List.foldl_cons, logins_revokeSessions]
      rfl

theorem mem_foldl_provision {grant : String × String} :
    grant ∈ (userIds.foldl (provision roles) s).userRoles ↔
      grant ∈ s.userRoles ∨ grant.1 ∈ userIds ∧ grant.2 ∈ roles := by
  induction userIds generalizing s with
  | nil => simp
  | cons userId userIds ih =>
    have hgiven : (provision roles s userId).userRoles =
        roles.foldl (fun rows roleId => insertIgnore (userId, roleId) rows) s.userRoles := by
      rw [provision]
      split <;> rfl
    rw [List.foldl_cons, ih, hgiven, mem_foldl_insertIgnore, or_assoc]
    refine or_congr_right ⟨?_, ?_⟩
    · rintro (⟨roleId, hrole, rfl⟩ | ⟨hmem, hrole⟩)
      · exact ⟨List.mem_cons_self, hrole⟩
      · exact ⟨List.mem_cons_of_mem _ hmem, hrole⟩
    · rintro ⟨hmem, hrole⟩
      obtain heq | hmem := List.mem_cons.mp hmem
      · exact .inl ⟨grant.2, hrole, by rw [← heq]⟩
      · exact .inr ⟨hmem, hrole⟩

theorem foldl_provision_rest (roles userIds : List String) (s : Provisioning) :
    (userIds.foldl (provision roles) s).members = s.members ∧
      (userIds.foldl (provision roles) s).groups = s.groups ∧
      (userIds.foldl (provision roles) s).mappings = s.mappings := by
  induction userIds generalizing s with
  | nil => exact ⟨rfl, rfl, rfl⟩
  | cons userId userIds ih =>
    obtain ⟨hmembers, hgroups, hmappings⟩ := ih (provision roles s userId)
    have hstep : (provision roles s userId).members = s.members ∧
        (provision roles s userId).groups = s.groups ∧
        (provision roles s userId).mappings = s.mappings := by
      rw [provision]
      split <;> exact ⟨rfl, rfl, rfl⟩
    rw [List.foldl_cons]
    exact ⟨hmembers.trans hstep.1, hgroups.trans hstep.2.1, hmappings.trans hstep.2.2⟩

end Loops

section Outcomes

variable {uuid : Nat → String} {bound : Js → String} {companyId : String} {s s' : Provisioning}

/-- What becomes of the tables when the members of a group change. -/
structure MemberChange.Effect (companyId : String) (change : MemberChange)
    (s s' : Provisioning) : Prop where
  users : s'.users = updateWhere (fun user => change.reaches user.id) raised s.users
  logins : s'.logins =
    updateWhere (fun login => change.reaches login.userId) (ended s.now) s.logins
  userRoles : ∀ grant, grant ∈ s'.userRoles ↔
    grant ∈ s.userRoles ∨ grant.1 ∈ change.named ∧ grant.2 ∈ change.roles
  members : ∀ member, member ∈ s'.members ↔
    member ∈ s.members ∧ member.groupId ≠ change.groupId ∨
      member.groupId = change.groupId ∧ member.userId ∈ change.named ∧
        (s.findScimUser companyId member.userId).isSome = true
  mappings : s'.mappings = s.mappings

def ScimGroup.unnamed (group : ScimGroup) : ScimGroup :=
  { group with displayName := "" }

/-- What becomes of the groups. -/
structure MemberChange.Regroups (companyId : String) (change : MemberChange)
    (s s' : Provisioning) : Prop where
  others : ∀ group, group.id ≠ change.groupId → (group ∈ s'.groups ↔ group ∈ s.groups)
  own : ∀ group ∈ s'.groups, group.id = change.groupId →
    group.companyId = companyId ∧ rolesFor companyId group.ids s = change.roles
  present : change.named ≠ [] → ∃ group ∈ s'.groups, group.id = change.groupId
  distinct : Distinct (·.id) s'.groups

/-- Nothing but the name of a group, if that. -/
structure Renames (s s' : Provisioning) : Prop where
  users : s'.users = s.users
  logins : s'.logins = s.logins
  userRoles : s'.userRoles = s.userRoles
  members : s'.members = s.members
  mappings : s'.mappings = s.mappings
  groups : s'.groups.map (·.unnamed) = s.groups.map (·.unnamed)

inductive GroupOutcome (companyId : String) (s s' : Provisioning) : Option MemberChange → Prop
  | renamed (renames : Renames s s') : GroupOutcome companyId s s' none
  | changed (change : MemberChange) (effect : change.Effect companyId s s')
      (regroups : change.Regroups companyId s s') : GroupOutcome companyId s s' (some change)

theorem foldl_reached {ρ : Type} {key : ρ → String} {update : ρ → ρ}
    (hkey : ∀ row, key (update row) = key row) (change : MemberChange)
    (hnodup : change.named.Nodup) (rows : List ρ) :
    (if change.roles.isEmpty then rows
      else
        change.named.foldl
          (fun rows userId => updateWhere (fun row => key row = userId) update rows) rows) =
      updateWhere (fun row => change.reaches (key row)) update rows := by
  split
  next hnone => simp [updateWhere, MemberChange.reaches, hnone]
  next hsome =>
    rw [foldl_updateWhere hkey hnodup]
    simp only [MemberChange.reaches, hsome, Bool.not_false, Bool.true_and]

theorem nodup_namedUsers (members : Js) : (namedUsers members).Nodup := by
  rw [namedUsers, listedUsers]
  split
  · cases List.mapM memberRef _ with
    | none => exact List.nodup_nil
    | some refs => exact nodup_eraseDups _
  · exact List.nodup_nil

theorem replaceGroupMembers_eq (companyId groupId : String) (members : Js) (s : Provisioning) :
    replaceGroupMembers companyId groupId members s =
      applyGroupMappings companyId groupId (namedUsers members)
        ((namedUsers members).foldl (enrol companyId groupId)
          { s with members := s.members.filter (·.groupId ≠ groupId) }) := by
  rw [replaceGroupMembers, namedUsers]
  cases listedUsers members <;> rfl

theorem effect_replaceGroupMembers (companyId groupId : String) (members : Js) (s : Provisioning) :
    MemberChange.Effect companyId
        ⟨groupId, namedUsers members, s.groupRoles companyId groupId⟩ s
        (replaceGroupMembers companyId groupId members s) ∧
      (replaceGroupMembers companyId groupId members s).groups = s.groups := by
  rw [replaceGroupMembers_eq, applyGroupMappings]
  have henrolled := foldl_enrol_rest companyId groupId (namedUsers members)
    { s with members := s.members.filter (·.groupId ≠ groupId) }
  have hmember := @mem_foldl_enrol companyId groupId (namedUsers members)
    { s with members := s.members.filter (·.groupId ≠ groupId) }
  generalize (namedUsers members).foldl (enrol companyId groupId) _ = enrolled
    at henrolled hmember ⊢
  obtain ⟨hdirectory, hgroups, hmappings, hlogins⟩ := henrolled
  have hroles : enrolled.groupRoles companyId groupId = s.groupRoles companyId groupId := by
    rw [Provisioning.groupRoles, rolesFor, hgroups, hmappings]
    rfl
  rw [hroles]
  obtain ⟨hmembers', hgroups', hmappings'⟩ :=
    foldl_provision_rest (s.groupRoles companyId groupId) (namedUsers members) enrolled
  refine ⟨⟨?_, ?_, ?_, ?_, hmappings'.trans hmappings⟩, hgroups'.trans hgroups⟩
  · rw [users_foldl_provision, hdirectory]
    exact foldl_reached raised_id
      ⟨groupId, namedUsers members, s.groupRoles companyId groupId⟩ (nodup_namedUsers members) _
  · rw [logins_foldl_provision, hdirectory, hlogins]
    exact foldl_reached (ended_userId s.now)
      ⟨groupId, namedUsers members, s.groupRoles companyId groupId⟩ (nodup_namedUsers members) _
  · intro grant
    rw [mem_foldl_provision, hdirectory]
  · intro member
    rw [hmembers', hmember, List.mem_filter, decide_eq_true_iff]

theorem outcome_members {group : ScimGroup} {groups : List ScimGroup} (drawn : Nat)
    (hgroup : group ∈ groups) (hcompany : group.companyId = companyId)
    (hothers : ∀ other, other.id ≠ group.id → (other ∈ groups ↔ other ∈ s.groups))
    (hdistinct : Distinct (·.id) groups) (members : Js) :
    GroupOutcome companyId s
      (replaceGroupMembers companyId group.id members { s with drawn := drawn, groups := groups })
      (some ⟨group.id, namedUsers members, rolesFor companyId group.ids s⟩) := by
  have hroles : ({ s with drawn := drawn, groups := groups } : Provisioning).groupRoles companyId
      group.id = rolesFor companyId group.ids s := by
    rw [Provisioning.groupRoles, hdistinct.find_key hgroup]
    rfl
  obtain ⟨heffect, hgroups⟩ := effect_replaceGroupMembers companyId group.id members
    { s with drawn := drawn, groups := groups }
  rw [hroles] at heffect
  refine .changed _ ⟨heffect.users, heffect.logins, heffect.userRoles, heffect.members,
    heffect.mappings⟩ ⟨?_, ?_, ?_, ?_⟩
  · intro other hother
    rw [hgroups]
    exact hothers other hother
  · intro other hother hid
    rw [hgroups] at hother
    obtain rfl := hdistinct.eq_of_key hother hgroup hid
    exact ⟨hcompany, rfl⟩
  · intro _
    rw [hgroups]
    exact ⟨group, hgroup, rfl⟩
  · rw [hgroups]
    exact hdistinct

theorem findGroup_mem {id : String} {group : ScimGroup} (h : s.findGroup companyId id = some group) :
    group ∈ s.groups ∧ group.id = id ∧ group.companyId = companyId := by
  have hnamed := List.find?_some h
  simp only [Bool.and_eq_true, decide_eq_true_eq] at hnamed
  exact ⟨List.mem_of_find?_eq_some h, hnamed⟩

theorem updateGroup_eq {id : String} {change : ScimGroup → ScimGroup}
    (h : s.updateGroup companyId id change = some s') :
    s' = { s with
      groups :=
        updateWhere (fun group => group.id = id && group.companyId = companyId) change s.groups } := by
  rw [Provisioning.updateGroup] at h
  split at h
  · cases h
  · exact (Option.some.inj h).symm

theorem outcome_updated {id : String} {group : ScimGroup} {change : ScimGroup → ScimGroup}
    (hdistinct : Distinct (·.id) s.groups) (hfound : s.findGroup companyId id = some group)
    (hupdate : s.updateGroup companyId id change = some s')
    (hid : ∀ other, (change other).id = other.id)
    (hcompany : ∀ other, (change other).companyId = other.companyId) (members : Js) :
    GroupOutcome companyId s (replaceGroupMembers companyId id members s')
      (some ⟨id, namedUsers members, rolesFor companyId (change group).ids s⟩) := by
  obtain ⟨hmem, rfl, hown⟩ := findGroup_mem hfound
  obtain rfl := updateGroup_eq hupdate
  have hchanged : change group ∈ updateWhere
      (fun other => other.id = group.id && other.companyId = companyId) change s.groups :=
    mem_updateWhere.mpr ⟨group, hmem, by simp [hown]⟩
  have hothers : ∀ other, other.id ≠ (change group).id →
      (other ∈ updateWhere (fun other => other.id = group.id && other.companyId = companyId) change
        s.groups ↔ other ∈ s.groups) := by
    intro other hother
    rw [hid] at hother
    rw [mem_updateWhere]
    constructor
    · rintro ⟨row, hrow, rfl⟩
      split at hother
      next hnamed =>
        simp only [Bool.and_eq_true, decide_eq_true_eq] at hnamed
        exact absurd ((hid row).trans hnamed.1) hother
      next hnamed => rwa [if_neg hnamed]
    · intro hrow
      exact ⟨other, hrow, by simp [hother]⟩
  have houtcome := outcome_members s.drawn hchanged ((hcompany group).trans hown) hothers
    (hdistinct.updateWhere fun row _ => hid row) members
  rw [hid] at houtcome
  exact houtcome

theorem outcome_perform (hdistinct : Distinct (·.id) s.groups) (request : ScimGroupRequest) :
    GroupOutcome companyId s (request.perform uuid bound companyId s)
      (request.memberChange uuid bound companyId s) := by
  have hnothing : ∀ drawn, GroupOutcome companyId s { s with drawn := drawn } none :=
    fun drawn => .renamed ⟨rfl, rfl, rfl, rfl, rfl, rfl⟩
  cases request with
  | createGroup body =>
    rw [ScimGroupRequest.perform, ScimGroupRequest.memberChange]
    dsimp only
    split
    · exact hnothing _
    · split
      · exact hnothing _
      next hfree =>
        have hfresh : ∀ other ∈ s.groups,
            other.id ≠ (newGroup bound (uuid s.drawn) companyId body).id := by
          intro other hother hid
          refine hfree (List.any_eq_true.mpr ⟨other, hother, ?_⟩)
          simp [hid]
        refine outcome_members _ (List.mem_append_right _ (List.mem_singleton.mpr rfl)) rfl ?_
          (hdistinct.append hfresh) _
        intro other hother
        rw [List.mem_append, List.mem_singleton]
        exact or_iff_left fun heq => hother (by rw [heq])
  | replaceGroup id body =>
    rw [ScimGroupRequest.perform, ScimGroupRequest.memberChange]
    cases hfound : s.findGroup companyId id with
    | none => exact hnothing s.drawn
    | some group =>
      simp only [Option.isNone_some, Bool.false_eq_true, if_false]
      split
      · exact hnothing s.drawn
      · split
        next hupdate =>
          rw [hupdate]
          exact hnothing s.drawn
        next s₁ hupdate =>
          rw [hupdate]
          obtain ⟨-, rfl, -⟩ := findGroup_mem hfound
          exact outcome_updated hdistinct hfound hupdate (fun _ => rfl) (fun _ => rfl) _
  | patchGroup id body =>
    rw [ScimGroupRequest.perform, ScimGroupRequest.memberChange]
    cases hfound : s.findGroup companyId id with
    | none => exact hnothing s.drawn
    | some group =>
      rw [Option.bind_some]
      dsimp only
      cases groupPatch group body s with
      | none => exact hnothing s.drawn
      | some patch =>
        rw [Option.bind_some]
        dsimp only
        split
        next hupdate =>
          rw [hupdate]
          exact hnothing s.drawn
        next s₁ hupdate =>
          rw [hupdate, Option.bind_some]
          cases patch.members with
          | none =>
            obtain rfl := updateGroup_eq hupdate
            exact .renamed ⟨rfl, rfl, rfl, rfl, rfl,
              map_updateWhere_key fun _ _ => rfl⟩
          | some members =>
            exact outcome_updated hdistinct hfound hupdate (fun _ => rfl) (fun _ => rfl) _
  | deleteGroup id =>
    rw [ScimGroupRequest.perform, ScimGroupRequest.memberChange]
    cases hfound : s.findGroup companyId id with
    | none => exact hnothing s.drawn
    | some group =>
      obtain ⟨hmem, rfl, hown⟩ := findGroup_mem hfound
      refine .changed _ ⟨?_, ?_, ?_, ?_, rfl⟩ ⟨?_, ?_, fun h => absurd rfl h, hdistinct.filter _⟩
      · simp [updateWhere, MemberChange.reaches]
      · simp [updateWhere, MemberChange.reaches]
      · simp
      · intro member
        simp
      · intro other hother
        simp [List.mem_filter, hother]
      · intro other hother hid
        obtain ⟨hother, hleft⟩ := List.mem_filter.mp hother
        obtain rfl := hdistinct.eq_of_key hother hmem hid
        simp [hown] at hleft

end Outcomes
section Frame

variable {companyId : String} {s s' : Provisioning}

/-- The keys of the tables. -/
structure Provisioning.Keyed (s : Provisioning) : Prop where
  users : Distinct (·.id) s.users
  groups : Distinct (·.id) s.groups

def outsiders (companyId : String) (s : Provisioning) : List User :=
  s.users.filter fun user => user.companyId ≠ some companyId

/-- No row of a user of another company comes, goes or changes. -/
structure SparesOthers (companyId : String) (s s' : Provisioning) : Prop where
  users : ∀ user : User, user.companyId ≠ some companyId → (user ∈ s'.users ↔ user ∈ s.users)
  userRoles : ∀ user ∈ outsiders companyId s, ∀ roleId,
    (user.id, roleId) ∈ s'.userRoles ↔ (user.id, roleId) ∈ s.userRoles
  members : ∀ user ∈ outsiders companyId s, ∀ groupId,
    (⟨groupId, user.id⟩ : ScimGroupMember) ∈ s'.members ↔ ⟨groupId, user.id⟩ ∈ s.members
  logins : ∀ user ∈ outsiders companyId s, ∀ login : LoginSession, login.userId = user.id →
    (login ∈ s'.logins ↔ login ∈ s.logins)

theorem mem_outsiders {user : User} :
    user ∈ outsiders companyId s ↔ user ∈ s.users ∧ user.companyId ≠ some companyId := by
  rw [outsiders, List.mem_filter, decide_eq_true_iff]

theorem findScimUser_outsider (hdistinct : Distinct (·.id) s.users) {user : User}
    (h : user ∈ outsiders companyId s) : s.findScimUser companyId user.id = none := by
  obtain ⟨huser, hother⟩ := mem_outsiders.mp h
  refine List.find?_eq_none.mpr fun own hown hnamed => ?_
  simp only [Bool.and_eq_true, decide_eq_true_eq] at hnamed
  obtain rfl := hdistinct.eq_of_key hown huser hnamed.1.1
  exact hother hnamed.1.2

section Members

/-- The group has no members from elsewhere, and nobody from elsewhere is given its roles. -/
def MemberChange.staysWithin (companyId : String) (s : Provisioning) (change : MemberChange) :
    Bool :=
  (outsiders companyId s).all fun user =>
    !s.members.contains ⟨change.groupId, user.id⟩ && !change.reaches user.id

variable {change : MemberChange}

theorem staysWithin_iff : change.staysWithin companyId s = true ↔
    ∀ user ∈ outsiders companyId s,
      (⟨change.groupId, user.id⟩ : ScimGroupMember) ∉ s.members ∧
        change.reaches user.id = false := by
  simp [MemberChange.staysWithin]

theorem reaches_of_mem {userId roleId : String} (hnamed : userId ∈ change.named)
    (hrole : roleId ∈ change.roles) : change.reaches userId = true := by
  have hroles : change.roles ≠ [] := List.ne_nil_of_mem hrole
  simp [MemberChange.reaches, hnamed, hroles]

theorem MemberChange.Effect.spares (heffect : change.Effect companyId s s')
    (hdistinct : Distinct (·.id) s.users) (h : change.staysWithin companyId s = true) :
    SparesOthers companyId s s' := by
  have houtside := staysWithin_iff.mp h
  refine ⟨?_, ?_, ?_, ?_⟩
  · intro user hother
    rw [heffect.users, mem_updateWhere]
    constructor
    · rintro ⟨row, hrow, rfl⟩
      split
      next hreached =>
        rw [if_pos hreached] at hother
        have hspared := (houtside row (mem_outsiders.mpr ⟨hrow, hother⟩)).2
        rw [hreached] at hspared
        cases hspared
      next => exact hrow
    · intro huser
      have hspared := (houtside user (mem_outsiders.mpr ⟨huser, hother⟩)).2
      exact ⟨user, huser, by simp [hspared]⟩
  · intro user huser roleId
    rw [heffect.userRoles]
    refine or_iff_left fun ⟨hnamed, hrole⟩ => ?_
    have hspared := (houtside user huser).2
    rw [reaches_of_mem hnamed hrole] at hspared
    cases hspared
  · intro user huser groupId
    rw [heffect.members, findScimUser_outsider hdistinct huser]
    simp only [Option.isSome_none, Bool.false_eq_true, and_false, or_false]
    exact and_iff_left_of_imp fun hmember hgroup =>
      (houtside user huser).1 (hgroup ▸ hmember)
  · intro user huser login hlogin
    have hspared := (houtside user huser).2
    rw [← hlogin] at hspared
    rw [heffect.logins, mem_updateWhere]
    constructor
    · rintro ⟨row, hrow, rfl⟩
      split
      next hreached =>
        rw [if_pos hreached, ended_userId, hreached] at hspared
        cases hspared
      next => exact hrow
    · intro hmem
      exact ⟨login, hmem, by simp [hspared]⟩

theorem MemberChange.Effect.staysWithin (heffect : change.Effect companyId s s')
    (hdistinct : Distinct (·.id) s.users) (h : SparesOthers companyId s s') :
    change.staysWithin companyId s = true := by
  refine staysWithin_iff.mpr fun user houtside => ⟨fun hmember => ?_, ?_⟩
  · have hstill := (h.members user houtside change.groupId).mpr hmember
    rw [heffect.members, findScimUser_outsider hdistinct houtside] at hstill
    simp at hstill
  · obtain ⟨huser, hother⟩ := mem_outsiders.mp houtside
    have hstill := (h.users user hother).mpr huser
    rw [heffect.users, mem_updateWhere] at hstill
    obtain ⟨row, hrow, hsame⟩ := hstill
    have hid : row.id = user.id := by
      rw [hsame]
      split <;> rfl
    obtain rfl := hdistinct.eq_of_key hrow huser hid
    rw [Bool.eq_false_iff]
    intro hreached
    rw [if_pos hreached] at hsame
    have hversion := congrArg (fun user : User => user.authVersion) hsame
    simp [raised] at hversion

end Members

section Users

variable {id : String} {d : Directory}

/-- By itself the program updates the user where it belongs to the company, and goes
through only where it does. -/
def UpdatesOwn (companyId id : String) (program : UserProgram) (d : Directory) : Prop :=
  (userSystem.alone program d = d ∨ ∃ data check, data.companyId = none ∧
    userSystem.alone program d = execUser (.updateUser id (some companyId) data check) d) ∧
  (userSystem.throws program d = false → (d.findScimUser companyId id).isSome = true)

theorem updatesOwn_fail : UpdatesOwn companyId id .fail d :=
  ⟨.inl rfl, fun h => Bool.noConfusion h⟩

theorem updatesOwn_read {next : Directory → UserProgram} (h : UpdatesOwn companyId id (next d) d) :
    UpdatesOwn companyId id (.step .read next) d :=
  h

theorem updatesOwn_update {data : UserData} {check : LastAdminCheck}
    (hcompany : data.companyId = none) (hfound : (d.findScimUser companyId id).isSome = true) :
    UpdatesOwn companyId id (updateUserRow id (some companyId) data check .done) d := by
  refine ⟨.inr ⟨data, check, hcompany, ?_⟩, fun _ => hfound⟩
  rw [updateUserRow, System.alone]
  split <;> rfl

theorem updatesOwn_replaceUser (body : Js) :
    UpdatesOwn companyId id (Admin.replaceUser companyId id body) d := by
  refine updatesOwn_read ?_
  split
  · exact updatesOwn_fail
  next hfound =>
    split
    · exact updatesOwn_fail
    · exact updatesOwn_update rfl (by simpa [Option.isSome_iff_ne_none] using hfound)

theorem updatesOwn_patchUser (body : Js) :
    UpdatesOwn companyId id (Admin.patchUser companyId id body) d := by
  refine updatesOwn_read ?_
  split
  · exact updatesOwn_fail
  · split
    · exact updatesOwn_fail
    · exact updatesOwn_replaceUser _

theorem updatesOwn_deleteUser : UpdatesOwn companyId id (Admin.deleteUser companyId id) d := by
  refine updatesOwn_read ?_
  split
  · exact updatesOwn_fail
  next hfound => exact updatesOwn_update rfl (by simpa [Option.isSome_iff_ne_none] using hfound)

theorem spares_refl (s : Provisioning) : SparesOthers companyId s s :=
  ⟨fun _ _ => .rfl, fun _ _ _ => .rfl, fun _ _ _ => .rfl, fun _ _ _ _ => .rfl⟩

theorem mem_execUser {data : UserData} {check : LastAdminCheck} (hcompany : data.companyId = none)
    {user : User} (hother : user.companyId ≠ some companyId) :
    user ∈ (execUser (.updateUser id (some companyId) data check) d).users ↔ user ∈ d.users := by
  have hkeeps : ∀ row : User, (data.apply row).companyId = row.companyId := by
    intro row
    simp [UserData.apply, hcompany]
  rw [execUser]
  split
  · exact .rfl
  · constructor
    · intro hmem
      obtain ⟨row, hrow, rfl⟩ := List.mem_map.mp hmem
      split at hother
      next hnamed =>
        simp only [names, Option.all_some, Bool.and_eq_true, decide_eq_true_eq] at hnamed
        rw [hkeeps] at hother
        exact absurd hnamed.2 hother
      next hnamed =>
        rw [if_neg hnamed]
        exact hrow
    · intro huser
      refine List.mem_map.mpr ⟨user, huser, if_neg ?_⟩
      simp [names, hother]

theorem mem_revokeSessions {userId : String} {login : LoginSession} (h : login.userId ≠ userId) :
    login ∈ (s.revokeSessions userId).logins ↔ login ∈ s.logins := by
  rw [logins_revokeSessions, mem_updateWhere]
  constructor
  · rintro ⟨row, hrow, rfl⟩
    split at h
    next huser =>
      rw [ended_userId] at h
      exact absurd (of_decide_eq_true huser) h
    next huser =>
      rw [if_neg huser]
      exact hrow
  · intro hmem
    exact ⟨login, hmem, by simp [h]⟩

theorem spares_changeUser (hdistinct : Distinct (·.id) s.users) {program : UserProgram}
    (hupdates : UpdatesOwn companyId id program s.toDirectory) :
    SparesOthers companyId s (changeUser id program s) := by
  obtain ⟨heffect, hthrough⟩ := hupdates
  have husers : ∀ user : User, user.companyId ≠ some companyId →
      (user ∈ (userSystem.alone program s.toDirectory).users ↔ user ∈ s.users) := by
    intro user hother
    obtain heq | ⟨data, check, hcompany, heq⟩ := heffect
    · rw [heq]
    · rw [heq]
      exact mem_execUser hcompany hother
  have hroles : (userSystem.alone program s.toDirectory).userRoles = s.userRoles := by
    obtain heq | ⟨data, check, -, heq⟩ := heffect
    · rw [heq]
    · rw [heq, execUser]
      split <;> rfl
  rw [changeUser]
  dsimp only
  split
  · exact ⟨husers, fun _ _ _ => by rw [hroles], fun _ _ _ => .rfl, fun _ _ _ _ => .rfl⟩
  next hdone =>
    refine ⟨husers, fun _ _ _ => ?_, fun _ _ _ => .rfl, fun user houtside login hlogin => ?_⟩
    · change _ ∈ (userSystem.alone program s.toDirectory).userRoles ↔ _
      rw [hroles]
    · -- the sessions that end are those of a user found in the company
      have hown := hthrough (Bool.eq_false_iff.mpr hdone)
      refine mem_revokeSessions fun hid => ?_
      rw [← hid, hlogin, findScimUser_outsider hdistinct houtside] at hown
      cases hown

theorem spares_users (uuid : Nat → String) (hdistinct : Distinct (·.id) s.users)
    (request : ScimUserRequest) : SparesOthers companyId s (request.perform uuid companyId s) := by
  cases request with
  | createUser body =>
    rw [ScimUserRequest.perform]
    split
    · exact spares_refl s
    · split
      · exact spares_refl s
      · dsimp only
        split
        · exact ⟨fun _ _ => .rfl, fun _ _ _ => .rfl, fun _ _ _ => .rfl, fun _ _ _ _ => .rfl⟩
        · refine ⟨fun user hother => ?_, fun _ _ _ => .rfl, fun _ _ _ => .rfl,
            fun _ _ _ _ => .rfl⟩
          rw [List.mem_append, List.mem_singleton]
          exact or_iff_left fun heq => hother (by rw [heq]; rfl)
  | replaceUser id body => exact spares_changeUser hdistinct (updatesOwn_replaceUser body)
  | patchUser id body => exact spares_changeUser hdistinct (updatesOwn_patchUser body)
  | deleteUser id => exact spares_changeUser hdistinct updatesOwn_deleteUser

end Users

section Requests

variable (uuid : Nat → String) (bound : Js → String) (companyId : String)

def ScimRequest.staysWithin : ScimRequest → Provisioning → Bool
  | user _, _ => true
  | group request, s =>
    (request.memberChange uuid bound companyId s).all (·.staysWithin companyId s)

variable {uuid bound companyId}

/-- A request spares the users of other companies exactly where it stays within its own. -/
theorem scim_frame (hkeyed : s.Keyed) (request : ScimRequest) :
    SparesOthers companyId s (request.perform uuid bound companyId s) ↔
      request.staysWithin uuid bound companyId s = true := by
  cases request with
  | user request => exact iff_of_true (spares_users uuid hkeyed.users request) rfl
  | group request =>
    have houtcome : GroupOutcome companyId s (request.perform uuid bound companyId s)
        (request.memberChange uuid bound companyId s) := outcome_perform hkeyed.groups request
    rw [ScimRequest.perform, ScimRequest.staysWithin]
    generalize request.perform uuid bound companyId s = s' at houtcome ⊢
    generalize request.memberChange uuid bound companyId s = change at houtcome ⊢
    cases houtcome with
    | renamed renames =>
      refine iff_of_true ⟨?_, ?_, ?_, ?_⟩ rfl
      · intro user _
        rw [renames.users]
      · intro user _ roleId
        rw [renames.userRoles]
      · intro user _ groupId
        rw [renames.members]
      · intro user _ login _
        rw [renames.logins]
    | changed change effect =>
      exact ⟨effect.staysWithin hkeyed.users, effect.spares hkeyed.users⟩

def sampleTenants (users : List User) : Directory where
  now := 0
  drawn := 0
  users := users
  companies := []
  approvals := []
  sessions := []
  campaigns := []
  items := []
  userRoles := []

/-- One user of each of two companies, and a group of the first that is mapped to a role. -/
def sampleProvisioning : Provisioning where
  toDirectory := sampleTenants
    [provisionedUser "ann" "acme" (.object [("userName", .text "ann@acme.test")]),
      provisionedUser "bob" "globex" (.object [("userName", .text "bob@globex.test")])]
  groups := [⟨"g1", "acme", some "sales", "Sales"⟩]
  members := []
  mappings := [⟨"acme", "sales", some "r1", true⟩]
  logins := [⟨"s1", "bob", none, none⟩]

def sampleMembers (userId : String) : Js :=
  .object
    [("displayName", .text "Sales"), ("externalId", .text "sales"),
      ("members", .array [.object [("value", .text userId)]])]

theorem scim_frame_own_member :
    SparesOthers "acme" sampleProvisioning
        ((ScimRequest.group (.replaceGroup "g1" (sampleMembers "ann"))).perform sampleUuid stringOf
          "acme" sampleProvisioning) ↔
      (ScimRequest.group (.replaceGroup "g1" (sampleMembers "ann"))).staysWithin sampleUuid stringOf
        "acme" sampleProvisioning = true :=
  scim_frame ⟨by rw [Distinct]; decide, by rw [Distinct]; decide⟩ _

/-- A member list that names a user of another company gives that user the role, and
signs the user out. -/
theorem member_of_another_company :
    ¬SparesOthers "acme" sampleProvisioning
      ((ScimRequest.group (.replaceGroup "g1" (sampleMembers "bob"))).perform sampleUuid stringOf
        "acme" sampleProvisioning) := by
  intro h
  have hgiven := (h.userRoles
    (provisionedUser "bob" "globex" (.object [("userName", .text "bob@globex.test")]))
    (by decide) "r1").mp (by decide)
  revert hgiven
  decide

end Requests
end Frame
end FieldserviceIT.Admin
