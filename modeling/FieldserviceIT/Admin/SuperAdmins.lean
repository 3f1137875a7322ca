import FieldserviceIT.Admin.Scim

/-!
All that changes the directory, side by side, and what becomes of its super
administrators. Some operations count the other ones before they take the access
of one away. The count holds as long as nobody comes between it and the write,
and the operations that make no count have nothing to hold on to.
-/

namespace FieldserviceIT.Admin

open Common Lib Sql

section Requests

def GovernanceRequest.actor : GovernanceRequest → CurrentUser
  | requestDualApproval _ actor | reviewDualApproval _ _ actor | startImpersonation _ _ _ _ actor
  | setBreakGlassAccount _ _ _ _ actor | exportAccessReview _ _ actor | removeCompany _ _ actor =>
    actor

inductive DirectoryRequest where
  | updateUserRole (userId : String) (role : Role)
  | updateUser (id : String) (dto : UpdateUserDto)
  | assignUserCompany (id : String) (companyId : Option String)
  | removeUser (id : String)
  | updateCompanyUserRole (userId : String) (role : Role) (companyId : String) (actor : CurrentUser)
  | removeCompanyUser (userId companyId : String)
  | replaceUser (companyId id : String) (body : Js)
  | patchUser (companyId id : String) (body : Js)
  | deleteUser (companyId id : String)
  | endImpersonation (id : String) (actor : CurrentUser)
  /-- `removeCompany`, `startImpersonation` and the other operations under approval. -/
  | governance (req : GovernanceRequest)
  | decideAccessReviewItem (decision : ReviewDecision)

def onUsers (program : UserProgram) : Prog Directory DirectoryOp :=
  program.embed id .user

def DirectoryRequest.handler : DirectoryRequest → Prog Directory DirectoryOp
  | updateUserRole userId role => onUsers (Admin.updateUserRole userId role)
  | updateUser id dto => onUsers (Admin.updateUser id dto)
  | assignUserCompany id companyId => onUsers (Admin.assignUserCompany id companyId)
  | removeUser id => onUsers (Admin.removeUser id)
  | updateCompanyUserRole userId role companyId actor =>
    onUsers (Admin.updateCompanyUserRole userId role companyId actor)
  | removeCompanyUser userId companyId => onUsers (Admin.removeCompanyUser userId companyId)
  | replaceUser companyId id body => onUsers (Admin.replaceUser companyId id body)
  | patchUser companyId id body => onUsers (Admin.patchUser companyId id body)
  | deleteUser companyId id => onUsers (Admin.deleteUser companyId id)
  | endImpersonation id actor => onUsers (Admin.endImpersonation id actor)
  | governance req => req.handler.embed Directory.governance (.governance req.actor)
  | decideAccessReviewItem d =>
    (Admin.decideAccessReviewItem d.reviewId d.itemId d.decision d.notes d.actor).embed
      Directory.reviews .review

def directorySystem (uuid : Nat → String) : System Directory DirectoryOp DirectoryRequest where
  exec := execDirectory uuid
  tick d := { d with now := d.now + 1 }
  handler := DirectoryRequest.handler
  sendable _ _ := True

end Requests

section Accounts

variable {uuid : Nat → String}

theorem withGovernance_users {d : Directory} {g : Governance} {change : Account → Account}
    (h : g.accounts = d.accounts.map change) :
    (d.withGovernance g).users =
      d.users.map fun user => { user with toAccount := change user.toAccount } := by
  simp only [Directory.withGovernance, h, Directory.accounts, List.map_map]
  induction d.users with
  | nil => rfl
  | cons user users ih =>
    rw [List.map_cons, List.map_cons, List.zipWith_cons_cons, ih]
    rfl

/-- What a change of an account under approval leaves as it is; activity only
when no company is removed. -/
structure KeepsStanding (removes : Bool) (change : Account → Account) : Prop where
  id : ∀ account, (change account).id = account.id
  role : ∀ account, (change account).role = account.role
  companyId : ∀ account, (change account).companyId = account.companyId
  active : removes = false → ∀ account, (change account).isActive = account.isActive ∧
    (change account).isDeleted = account.isDeleted

theorem KeepsStanding.named {removes : Bool} {change : Account → Account}
    (h : KeepsStanding removes change) (named : Account → Bool) :
    KeepsStanding removes fun account => if named account then change account else account := by
  refine ⟨fun account => ?_, fun account => ?_, fun account => ?_, fun hkeeps account => ?_⟩
  · split
    · exact h.id account
    · rfl
  · split
    · exact h.role account
    · rfl
  · split
    · exact h.companyId account
    · rfl
  · split
    · exact h.active hkeeps account
    · exact ⟨rfl, rfl⟩

def removesCompany : GovernanceOp → Bool
  | .perform (.deleteTenantUsers _) _ => true
  | _ => false

theorem accounts_execGovernance (uuid : Nat → String) (op : GovernanceOp) (g : Governance) :
    ∃ change : Account → Account, (execGovernance uuid op g).accounts = g.accounts.map change ∧
      KeepsStanding (removesCompany op) change := by
  have hnone : ∀ removes, KeepsStanding removes fun account => account :=
    fun _ => ⟨fun _ => rfl, fun _ => rfl, fun _ => rfl, fun _ _ => ⟨rfl, rfl⟩⟩
  have hsame : g.accounts = g.accounts.map fun account => account := (List.map_id' _).symm
  cases op with
  | read | reject _ _ | approveFirst _ _ | approveSecond _ _ | execute _ | deleteCompany _ =>
    exact ⟨_, hsame, hnone _⟩
  | insertApproval row =>
    refine ⟨_, ?_, hnone _⟩
    rw [execGovernance]
    split
    · exact hsame
    · exact hsame
  | present id actionType resourceId actor =>
    refine ⟨_, ?_, hnone _⟩
    rw [execGovernance]
    split
    · exact hsame
    · exact hsame
  | perform action approval =>
    cases action with
    | impersonate _ _ _ _ | exportReview _ => exact ⟨_, hsame, hnone _⟩
    | activateBreakGlass userId reason =>
      refine ⟨_, rfl, KeepsStanding.named ?_ _⟩
      exact ⟨fun _ => rfl, fun _ => rfl, fun _ => rfl, fun _ _ => ⟨rfl, rfl⟩⟩
    | deleteTenantUsers companyId =>
      refine ⟨_, rfl, KeepsStanding.named ?_ _⟩
      exact ⟨fun _ => rfl, fun _ => rfl, fun _ => rfl, fun h => Bool.noConfusion h⟩
  | deactivateBreakGlass userId =>
    refine ⟨_, rfl, KeepsStanding.named ?_ _⟩
    exact ⟨fun _ => rfl, fun _ => rfl, fun _ => rfl, fun _ _ => ⟨rfl, rfl⟩⟩

end Accounts

section SuperAdmins

def User.isSuperAdmin (user : User) : Bool :=
  user.role = .superAdmin && user.isActive && !user.isDeleted

def HasSuperAdmin (d : Directory) : Prop :=
  ∃ user ∈ d.users, user.isSuperAdmin = true

def UserData.takesAccess (data : UserData) : Bool :=
  data.role.any (· ≠ .superAdmin) || data.isActive = some false || data.deleted

/-- An update that makes no check is made where the check would pass. One that has
made it is made while what was found is still so. -/
def GuardedUpdate (op : UserOp) (d : Directory) : Prop :=
  match op with
  | .updateUser id companyId data check =>
    data.takesAccess = true → ∀ user ∈ d.users, names id companyId user = true →
      user.isSuperAdmin = true → check ≠ .notNeeded ∧ anotherSuperAdmin d.accounts id = true
  | _ => True

def Guarded (op : DirectoryOp) (d : Directory) : Prop :=
  match op with
  | .user op => GuardedUpdate op d
  | .governance _ (.perform (.deleteTenantUsers companyId) _) =>
    (∃ user ∈ d.users, user.isSuperAdmin = true ∧ user.companyId = some companyId) →
      ∃ user ∈ d.users, user.isSuperAdmin = true ∧ user.companyId ≠ some companyId
  | _ => True

variable {uuid : Nat → String} {d : Directory}

theorem anotherSuperAdmin_iff {id : String} : anotherSuperAdmin d.accounts id = true ↔
    ∃ user ∈ d.users, user.isSuperAdmin = true ∧ user.id ≠ id := by
  simp only [anotherSuperAdmin, Directory.accounts, List.any_map, List.any_eq_true,
    Function.comp_apply, User.isSuperAdmin, Bool.and_eq_true, decide_eq_true_eq, and_assoc]

theorem isSuperAdmin_apply {data : UserData} {user : User} (hkeeps : data.takesAccess = false)
    (h : user.isSuperAdmin = true) : (data.apply user).isSuperAdmin = true := by
  obtain ⟨⟨hrole, hactive⟩, hdeleted⟩ : (data.role.any (· ≠ .superAdmin) = false ∧
      decide (data.isActive = some false) = false) ∧ data.deleted = false := by
    simpa only [UserData.takesAccess, Bool.or_eq_false_iff] using hkeeps
  simp only [User.isSuperAdmin, Bool.and_eq_true, decide_eq_true_eq, Bool.not_eq_true'] at h ⊢
  refine ⟨⟨?_, ?_⟩, ?_⟩
  · rw [UserData.apply]
    cases hdata : data.role with
    | none => exact h.1.1
    | some role => simpa [hdata] using hrole
  · rw [UserData.apply]
    cases hdata : data.isActive with
    | none => exact h.1.2
    | some isActive => simpa [hdata] using hactive
  · simp [UserData.apply, hdeleted, h.2]

theorem hasSuperAdmin_map {change : User → User} {users : List User} {user : User}
    (hmem : user ∈ users) (h : (change user).isSuperAdmin = true) :
    ∃ user ∈ users.map change, user.isSuperAdmin = true :=
  ⟨change user, List.mem_map_of_mem hmem, h⟩

theorem hasSuperAdmin_updateUser {id : String} {companyId : Option String} {data : UserData}
    {check : LastAdminCheck} (hguarded : GuardedUpdate (.updateUser id companyId data check) d)
    (h : HasSuperAdmin d) :
    HasSuperAdmin (execUser (.updateUser id companyId data check) d) := by
  rw [execUser]
  split
  · exact h
  · obtain ⟨user, hmem, hsuper⟩ := h
    cases htakes : data.takesAccess with
    | false =>
      refine hasSuperAdmin_map hmem ?_
      split
      · exact isSuperAdmin_apply htakes hsuper
      · exact hsuper
    | true =>
      by_cases hnamed : names id companyId user = true
      · -- the other one has another identifier
        obtain ⟨-, hanother⟩ := hguarded htakes user hmem hnamed hsuper
        obtain ⟨other, hother, hsuper', hne⟩ := anotherSuperAdmin_iff.mp hanother
        have hspared : names id companyId other = false := by
          simp [names, hne]
        exact hasSuperAdmin_map hother (by rw [hspared]; exact hsuper')
      · exact hasSuperAdmin_map hmem (by rw [if_neg hnamed]; exact hsuper)

theorem hasSuperAdmin_governance {actor : CurrentUser} {op : GovernanceOp}
    (hguarded : Guarded (.governance actor op) d) (h : HasSuperAdmin d) :
    HasSuperAdmin (execDirectory uuid (.governance actor op) d) := by
  rw [HasSuperAdmin, execDirectory]
  cases hremoves : removesCompany op with
  | false =>
    obtain ⟨change, haccounts, hstanding⟩ := accounts_execGovernance uuid op d.governance
    obtain ⟨user, hmem, hsuper⟩ := h
    rw [withGovernance_users haccounts]
    refine hasSuperAdmin_map hmem ?_
    have hactive := hstanding.active hremoves user.toAccount
    simpa only [User.isSuperAdmin, hstanding.role, hactive] using hsuper
  | true =>
    obtain ⟨companyId, approval, rfl⟩ :
        ∃ companyId approval, op = .perform (.deleteTenantUsers companyId) approval := by
      cases op with
      | perform action approval =>
        cases action with
        | deleteTenantUsers companyId => exact ⟨companyId, approval, rfl⟩
        | _ => cases hremoves
      | _ => cases hremoves
    rw [withGovernance_users rfl]
    obtain ⟨user, hmem, hsuper, hcompany⟩ : ∃ user ∈ d.users, user.isSuperAdmin = true ∧
        user.companyId ≠ some companyId := by
      obtain ⟨user, hmem, hsuper⟩ := h
      by_cases hcompany : user.companyId = some companyId
      · exact hguarded ⟨user, hmem, hsuper, hcompany⟩
      · exact ⟨user, hmem, hsuper, hcompany⟩
    refine hasSuperAdmin_map hmem ?_
    rw [if_neg (by simpa using hcompany)]
    exact hsuper

theorem kept_hasSuperAdmin : Kept (directorySystem uuid) Guarded HasSuperAdmin := by
  refine ⟨fun op d h hguarded => ?_, fun d h => h⟩
  change HasSuperAdmin (execDirectory uuid op d)
  cases op with
  | review op => exact h
  | governance actor op => exact hasSuperAdmin_governance hguarded h
  | user op =>
    cases op with
    | read | countSuperAdmins _ | endSession _ => exact h
    | updateUser id companyId data check => exact hasSuperAdmin_updateUser hguarded h
    | bumpAuthVersion ids =>
      obtain ⟨user, hmem, hsuper⟩ := h
      refine hasSuperAdmin_map hmem ?_
      split
      · exact hsuper
      · exact hsuper

end SuperAdmins

section Samples

def sampleUser (id : String) (role : Role) (companyId : Option String) : User where
  id := id
  companyId := companyId
  role := role
  isActive := true
  mfaEnabled := false
  isBreakGlass := false
  breakGlassReason := none
  authVersion := 0
  isDeleted := false
  email := id
  firstName := id
  lastName := "User"
  userType := .businessUser
  location := none
  scimExternalId := none
  scimManaged := false

def sampleDirectory (users : List User) : Directory where
  now := 1700000000000
  drawn := 0
  users := users
  companies := [⟨"acme", true, false⟩, ⟨"globex", true, false⟩]
  approvals := []
  sessions := []
  campaigns := []
  items := []
  userRoles := []

instance (op : UserOp) (d : Directory) : Decidable (GuardedUpdate op d) :=
  match op with
  | .updateUser _ _ _ _ => inferInstanceAs (Decidable (_ → _))
  | .read | .countSuperAdmins _ | .bumpAuthVersion _ | .endSession _ => isTrue trivial

instance (op : DirectoryOp) (d : Directory) : Decidable (Guarded op d) :=
  match op with
  | .user op => inferInstanceAs (Decidable (GuardedUpdate op d))
  | .governance _ (.perform (.deleteTenantUsers _) _) => inferInstanceAs (Decidable (_ → _))
  | .governance _ (.perform (.impersonate ..) _) | .governance _ (.perform (.activateBreakGlass ..) _)
  | .governance _ (.perform (.exportReview _) _) | .governance _ .read
  | .governance _ (.insertApproval _) | .governance _ (.present ..) | .governance _ (.reject ..)
  | .governance _ (.approveFirst ..) | .governance _ (.approveSecond ..) | .governance _ (.execute _)
  | .governance _ (.deactivateBreakGlass _) | .governance _ (.deleteCompany _)
  | .review _ => isTrue trivial

end Samples
end FieldserviceIT.Admin
