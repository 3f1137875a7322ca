import FieldserviceIT.Admin.ScimFrame

/-!
Members of groups and the roles the groups are mapped to. A role is given to whoever
the member list of a mapped group names. No call takes a role away, so the two tables
stay in step as long as nobody leaves the last group that gives a role that is held.
-/

namespace FieldserviceIT.Admin

open Common Lib Sql

section Membership

def mappedRoles (companyId : String) (s : Provisioning) : List String :=
  (s.mappings.filter fun mapping => mapping.companyId = companyId && mapping.isActive).filterMap
    (·.roleId)

/-- One of these groups of the company gives the role to the user. -/
def throughGroups (groups : List ScimGroup) (companyId userId roleId : String)
    (s : Provisioning) : Bool :=
  groups.any fun group => group.companyId = companyId &&
    (rolesFor companyId group.ids s).contains roleId && s.members.contains ⟨group.id, userId⟩

/-- Users of a company hold the roles it has mapped just as far as they are members of a
group that is mapped to them. What was given `byHand` is no matter of the provider's. -/
def InStep (byHand : String × String → Bool) (s : Provisioning) : Prop :=
  ∀ companyId userId, (s.findScimUser companyId userId).isSome = true →
    ∀ roleId ∈ mappedRoles companyId s, byHand (userId, roleId) = false →
      ((userId, roleId) ∈ s.userRoles ↔
        throughGroups s.groups companyId userId roleId s = true)

variable (byHand : String × String → Bool) (companyId : String)

namespace MemberChange

variable (change : MemberChange)

def holds (userId roleId : String) (s : Provisioning) : Bool :=
  s.userRoles.contains (userId, roleId) ||
    change.named.contains userId && change.roles.contains roleId

/-- The user is a member of another group with the role, or becomes one of this group. -/
def belongs (own userId roleId : String) (s : Provisioning) : Bool :=
  throughGroups (s.groups.filter (·.id ≠ change.groupId)) own userId roleId s ||
    own = companyId && change.named.contains userId && change.roles.contains roleId

/-- Who has a role that is mapped, and not by hand, belongs to a group that gives it. -/
def leavesInStep (s : Provisioning) : Bool :=
  s.users.all fun user => user.isDeleted || user.companyId.all fun own =>
    (mappedRoles own s).all fun roleId => byHand (user.id, roleId) ||
      !change.holds user.id roleId s || change.belongs companyId own user.id roleId s

end MemberChange

/-- A request on groups with a token of the company. -/
structure ScimCall where
  companyId : String
  request : ScimGroupRequest

variable (uuid : Nat → String) (bound : Js → String)

def ScimCall.leavesInStep (call : ScimCall) (s : Provisioning) : Bool :=
  (call.request.memberChange uuid bound call.companyId s).all
    (·.leavesInStep byHand call.companyId s)

def scimSystem : System Provisioning ScimCall ScimCall where
  exec call := call.request.perform uuid bound call.companyId
  tick s := { s with now := s.now + 1 }
  handler call := .step call fun _ => .done
  sendable _ _ := True

end Membership

section Steps

variable {byHand : String × String → Bool} {companyId : String} {s s' : Provisioning}
variable {change : MemberChange}

theorem findScimUser_isSome {userId : String} :
    (s.findScimUser companyId userId).isSome = true ↔
      ∃ user ∈ s.users, user.id = userId ∧ user.companyId = some companyId ∧
        user.isDeleted = false := by
  simp [Directory.findScimUser, and_assoc]

theorem throughGroups_iff {groups : List ScimGroup} {userId roleId : String} :
    throughGroups groups companyId userId roleId s = true ↔
      ∃ group ∈ groups, group.companyId = companyId ∧ roleId ∈ rolesFor companyId group.ids s ∧
        (⟨group.id, userId⟩ : ScimGroupMember) ∈ s.members := by
  simp [throughGroups, and_assoc]

theorem leavesInStep_iff : change.leavesInStep byHand companyId s = true ↔
    ∀ own userId, (s.findScimUser own userId).isSome = true → ∀ roleId ∈ mappedRoles own s,
      byHand (userId, roleId) = false → change.holds userId roleId s = true →
        change.belongs companyId own userId roleId s = true := by
  simp only [MemberChange.leavesInStep, List.all_eq_true, Bool.or_eq_true, Bool.not_eq_eq_eq_not,
    Bool.not_true, Option.all_eq_true]
  constructor
  · intro h own userId hfound roleId hmapped hgiven hholds
    obtain ⟨user, huser, rfl, hown, hlive⟩ := findScimUser_isSome.mp hfound
    obtain hdeleted | hroles := h user huser
    · rw [hlive] at hdeleted
      cases hdeleted
    · obtain (hhand | hfree) | hbelongs := hroles own hown roleId hmapped
      · rw [hgiven] at hhand
        cases hhand
      · rw [hholds] at hfree
        cases hfree
      · exact hbelongs
  · intro h user huser
    refine (Bool.eq_false_or_eq_true user.isDeleted).imp id fun hlive own hown roleId hmapped => ?_
    have hfound := findScimUser_isSome.mpr ⟨user, huser, rfl, hown, hlive⟩
    cases hgiven : byHand (user.id, roleId) with
    | true => exact .inl (.inl rfl)
    | false =>
      cases hholds : change.holds user.id roleId s with
      | false => exact .inl (.inr rfl)
      | true => exact .inr (h own user.id hfound roleId hmapped hgiven hholds)

theorem MemberChange.Effect.found (heffect : change.Effect companyId s s')
    (own userId : String) :
    (s'.findScimUser own userId).isSome = (s.findScimUser own userId).isSome := by
  rw [Bool.eq_iff_iff, findScimUser_isSome, findScimUser_isSome, heffect.users]
  constructor
  · rintro ⟨user, huser, hnamed⟩
    obtain ⟨row, hrow, rfl⟩ := mem_updateWhere.mp huser
    refine ⟨row, hrow, ?_⟩
    split at hnamed <;> exact hnamed
  · rintro ⟨row, hrow, hnamed⟩
    refine ⟨_, mem_updateWhere.mpr ⟨row, hrow, rfl⟩, ?_⟩
    split <;> exact hnamed

theorem rolesFor_congr (h : s'.mappings = s.mappings) (own : String) (ids : List String) :
    rolesFor own ids s' = rolesFor own ids s := by
  rw [rolesFor, rolesFor, h]

theorem MemberChange.Effect.through (heffect : change.Effect companyId s s')
    (hregroups : change.Regroups companyId s s') {own userId roleId : String}
    (hfound : (s.findScimUser own userId).isSome = true) :
    throughGroups s'.groups own userId roleId s' = true ↔
      change.belongs companyId own userId roleId s = true := by
  rw [throughGroups_iff, MemberChange.belongs, Bool.or_eq_true, throughGroups_iff]
  simp only [Bool.and_eq_true, decide_eq_true_eq, List.contains_iff_mem, List.mem_filter,
    rolesFor_congr heffect.mappings, heffect.members]
  constructor
  · rintro ⟨group, hgroup, hown, hrole, hmember⟩
    obtain ⟨hmember, hother⟩ | ⟨hsame, hnamed, -⟩ := hmember
    · exact .inl ⟨group, ⟨(hregroups.others group hother).mp hgroup, hother⟩, hown, hrole, hmember⟩
    · obtain ⟨hcompany, hroles⟩ := hregroups.own group hgroup hsame
      obtain rfl := hcompany.symm.trans hown
      rw [hroles] at hrole
      exact .inr ⟨⟨rfl, hnamed⟩, hrole⟩
  · rintro (⟨group, ⟨hgroup, hother⟩, hown, hrole, hmember⟩ | ⟨⟨rfl, hnamed⟩, hrole⟩)
    · exact ⟨group, (hregroups.others group hother).mpr hgroup, hown, hrole, .inl ⟨hmember, hother⟩⟩
    · obtain ⟨group, hgroup, hsame⟩ := hregroups.present (List.ne_nil_of_mem hnamed)
      obtain ⟨hcompany, hroles⟩ := hregroups.own group hgroup hsame
      rw [← hroles] at hrole
      exact ⟨group, hgroup, hcompany, hrole, .inr ⟨hsame, hnamed, hfound⟩⟩

theorem MemberChange.Effect.holds (heffect : change.Effect companyId s s')
    {userId roleId : String} :
    (userId, roleId) ∈ s'.userRoles ↔ change.holds userId roleId s = true := by
  rw [heffect.userRoles, MemberChange.holds]
  simp

theorem mappedRoles_congr (h : s'.mappings = s.mappings) (own : String) :
    mappedRoles own s' = mappedRoles own s := by
  rw [mappedRoles, mappedRoles, h]

theorem MemberChange.Effect.inStep_iff (heffect : change.Effect companyId s s')
    (hregroups : change.Regroups companyId s s') (h : InStep byHand s) :
    InStep byHand s' ↔ change.leavesInStep byHand companyId s = true := by
  rw [leavesInStep_iff]
  constructor
  · intro h' own userId hfound roleId hmapped hgiven hholds
    rw [← heffect.found] at hfound
    rw [← mappedRoles_congr heffect.mappings] at hmapped
    have hin := h' own userId hfound roleId hmapped hgiven
    rw [heffect.found] at hfound
    exact (heffect.through hregroups hfound).mp (hin.mp (heffect.holds.mpr hholds))
  · intro hleaves own userId hfound roleId hmapped hgiven
    rw [heffect.found] at hfound
    rw [mappedRoles_congr heffect.mappings] at hmapped
    rw [heffect.holds, heffect.through hregroups hfound]
    refine ⟨hleaves own userId hfound roleId hmapped hgiven, fun hbelongs => ?_⟩
    rw [MemberChange.belongs, Bool.or_eq_true] at hbelongs
    rw [MemberChange.holds, Bool.or_eq_true]
    obtain hother | hnamed := hbelongs
    · -- a member of another group was one before, and held the role
      obtain ⟨group, hgroup, hrest⟩ := throughGroups_iff.mp hother
      have hthrough : throughGroups s.groups own userId roleId s = true :=
        throughGroups_iff.mpr ⟨group, List.mem_of_mem_filter hgroup, hrest⟩
      left
      exact List.contains_iff_mem.mpr ((h own userId hfound roleId hmapped hgiven).mpr hthrough)
    · right
      simp only [Bool.and_eq_true] at hnamed ⊢
      exact ⟨hnamed.1.2, hnamed.2⟩

theorem throughGroups_renamed (hgroups : s'.groups.map (·.unnamed) = s.groups.map (·.unnamed))
    (hmappings : s'.mappings = s.mappings) (hmembers : s'.members = s.members)
    (own userId roleId : String) :
    throughGroups s'.groups own userId roleId s' = throughGroups s.groups own userId roleId s := by
  have hunnamed : ∀ t : Provisioning, throughGroups t.groups own userId roleId t =
      throughGroups (t.groups.map (·.unnamed)) own userId roleId t := by
    intro t
    rw [throughGroups, throughGroups, List.any_map]
    rfl
  rw [hunnamed s', hunnamed s, hgroups]
  simp only [throughGroups, rolesFor_congr hmappings, hmembers]

theorem inStep_renamed (h : Renames s s') : InStep byHand s' ↔ InStep byHand s := by
  simp only [InStep, Directory.findScimUser, h.users, h.userRoles, mappedRoles_congr h.mappings,
    throughGroups_renamed h.groups h.mappings h.members]

end Steps

section Runs

variable {uuid : Nat → String} {bound : Js → String} {byHand : String × String → Bool}

theorem inStep_perform {s : Provisioning} (hdistinct : Distinct (·.id) s.groups)
    (h : InStep byHand s) (call : ScimCall) :
    InStep byHand (call.request.perform uuid bound call.companyId s) ↔
      call.leavesInStep byHand uuid bound s = true := by
  have houtcome : GroupOutcome call.companyId s
      (call.request.perform uuid bound call.companyId s)
      (call.request.memberChange uuid bound call.companyId s) :=
    outcome_perform hdistinct call.request
  rw [ScimCall.leavesInStep]
  generalize call.request.perform uuid bound call.companyId s = s' at houtcome ⊢
  generalize call.request.memberChange uuid bound call.companyId s = change at houtcome ⊢
  cases houtcome with
  | renamed renames => exact iff_of_true ((inStep_renamed renames).mpr h) rfl
  | changed change effect regroups => exact effect.inStep_iff regroups h

theorem distinct_perform {s : Provisioning} (hdistinct : Distinct (·.id) s.groups)
    (call : ScimCall) :
    Distinct (·.id) (call.request.perform uuid bound call.companyId s).groups := by
  have houtcome : GroupOutcome call.companyId s
      (call.request.perform uuid bound call.companyId s)
      (call.request.memberChange uuid bound call.companyId s) :=
    outcome_perform hdistinct call.request
  generalize call.request.perform uuid bound call.companyId s = s' at houtcome ⊢
  generalize call.request.memberChange uuid bound call.companyId s = change at houtcome
  cases houtcome with
  | renamed renames =>
    have hids := congrArg (List.map fun group : ScimGroup => group.id) renames.groups
    simp only [List.map_map] at hids
    rw [Distinct]
    exact hids ▸ hdistinct
  | changed change effect regroups => exact regroups.distinct

/-- What the requests keep. -/
structure Agreeing (byHand : String × String → Bool) (s : Provisioning) : Prop where
  distinct : Distinct (·.id) s.groups
  inStep : InStep byHand s

/-- In every sequence of requests each of which leaves everyone with a role in a group
that gives it, memberships and roles stay in step; and they do after another request
exactly where that one does so too. -/
theorem groups_in_step {s₀ s : Provisioning}
    (hserial : (scimSystem uuid bound).Serial
      (fun call s => call.leavesInStep byHand uuid bound s = true) s₀ s)
    (hdistinct : Distinct (·.id) s₀.groups) (h₀ : InStep byHand s₀) :
    InStep byHand s ∧ ∀ call : ScimCall,
      InStep byHand (call.request.perform uuid bound call.companyId s) ↔
        call.leavesInStep byHand uuid bound s = true := by
  have hagreeing : Agreeing byHand s := by
    refine System.keeps_serial (fun call s h _ hleaves => ?_)
      (fun s h => ⟨h.distinct, h.inStep⟩) hserial ⟨hdistinct, h₀⟩
    exact ⟨distinct_perform h.distinct call, (inStep_perform h.distinct h.inStep call).mpr hleaves⟩
  exact ⟨hagreeing.inStep, inStep_perform hagreeing.distinct hagreeing.inStep⟩

def nothingByHand (_ : String × String) : Bool :=
  false

theorem sampleProvisioning_inStep : InStep nothingByHand sampleProvisioning := by
  intro companyId userId _ roleId _ _
  refine iff_of_false List.not_mem_nil fun hthrough => ?_
  obtain ⟨_, _, _, _, hmember⟩ := throughGroups_iff.mp hthrough
  exact List.not_mem_nil hmember

theorem sampleProvisioning_distinct : Distinct (·.id) sampleProvisioning.groups := by
  rw [Distinct]
  decide

def sampleCall : ScimCall :=
  ⟨"acme", .replaceGroup "g1" (sampleMembers "ann")⟩

def sampleJoined : Provisioning :=
  sampleCall.request.perform sampleUuid stringOf sampleCall.companyId sampleProvisioning

def sampleDeletion : ScimCall :=
  ⟨"acme", .deleteGroup "g1"⟩

def sampleDeleted : Provisioning :=
  sampleDeletion.request.perform sampleUuid stringOf sampleDeletion.companyId sampleJoined

/-- Whoever joins a mapped group holds the role. -/
theorem groups_in_step_joined :
    ("ann", "r1") ∈ sampleJoined.userRoles ∧ InStep nothingByHand sampleJoined := by
  have hleaves : sampleCall.leavesInStep nothingByHand sampleUuid stringOf sampleProvisioning =
      true := by
    decide
  have hserial : (scimSystem sampleUuid stringOf).Serial
      (fun call s => call.leavesInStep nothingByHand sampleUuid stringOf s = true)
      sampleProvisioning sampleJoined :=
    .request .refl sampleCall trivial hleaves
  refine ⟨by decide, ?_⟩
  exact (groups_in_step hserial sampleProvisioning_distinct sampleProvisioning_inStep).1

/-- The role stays when the group is deleted. -/
theorem role_outlives_group : ¬ ∀ s₀ s : Provisioning,
    (scimSystem sampleUuid stringOf).Serial (fun _ _ => True) s₀ s → Distinct (·.id) s₀.groups →
      InStep nothingByHand s₀ → InStep nothingByHand s := by
  intro h
  have hserial : (scimSystem sampleUuid stringOf).Serial (fun _ _ => True) sampleProvisioning
      sampleDeleted :=
    .request (.request .refl sampleCall trivial trivial) sampleDeletion trivial trivial
  have hin := h _ _ hserial sampleProvisioning_distinct sampleProvisioning_inStep "acme" "ann"
    (by decide) "r1" (by decide) rfl
  have hthrough := hin.mp (by decide)
  revert hthrough
  decide

end Runs
end FieldserviceIT.Admin
