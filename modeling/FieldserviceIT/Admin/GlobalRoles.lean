import FieldserviceIT.Admin.SuperAdmins
import FieldserviceIT.Common.PasswordPolicy
import FieldserviceIT.Lib.Tables

/-!
Roles and companies of users. Global roles belong to no company, tenant roles to one.
Accounts are created with such a pair; afterwards the two columns are written one by one
or together, by calls that run side by side, and what the calls have read of the user may
have changed before they write.
-/

namespace FieldserviceIT.Admin

open Common Lib Sql

section Model

/-- `moved` is no column: it names the users that were created here, or whose role or
company was changed here. No statement reads it. -/
structure Roster extends Directory where
  moved : List String

inductive RosterOp where
  | user (op : UserOp)
  /-- `INSERT INTO User`, with an id drawn for it. -/
  | insertUser (row : User)

def pairing (user : User) : Role × Option String :=
  (user.role, user.companyId)

def movedBy (id : String) (companyId : Option String) (data : UserData) (r : Roster) :
    List String :=
  (r.users.filter fun user =>
    names id companyId user && pairing (data.apply user) ≠ pairing user).map (·.id)

variable (T : Letters) (uuid : Nat → String)

def execRoster (op : RosterOp) (r : Roster) : Roster :=
  match op with
  | .user (.updateUser id companyId data check) =>
    if r.refuses id companyId data then r
    else
      { toDirectory := execUser (.updateUser id companyId data check) r.toDirectory
        moved := r.moved ++ movedBy id companyId data r }
  | .user op => { r with toDirectory := execUser op r.toDirectory }
  | .insertUser row =>
    let user := { row with id := uuid r.drawn }
    let drawn := { r with drawn := r.drawn + 1 }
    if r.users.any fun other => other.id = user.id || clashes user other then drawn
    else { drawn with users := r.users ++ [user], moved := r.moved ++ [user.id] }

abbrev RosterProgram := Prog Roster RosterOp

structure CreateUserDto where
  email : String
  password : String
  firstName : String
  lastName : String
  role : Option Role
  companyId : Option String

def CreateUserDto.assigned (dto : CreateUserDto) : Role :=
  (dto.role.filter validRoles.contains).getD .client

def createdUser (dto : CreateUserDto) (companyId : Option String) : User where
  id := ""
  companyId := companyId
  role := dto.assigned
  isActive := true
  mfaEnabled := false
  isBreakGlass := false
  breakGlassReason := none
  authVersion := 0
  isDeleted := false
  email := dto.email
  firstName := dto.firstName
  lastName := dto.lastName
  userType := .businessUser
  location := none
  scimExternalId := none
  scimManaged := false

def insertUser (row : User) : RosterProgram :=
  .step (.insertUser row) fun _ => .done

def readRoster (next : Roster → RosterProgram) : RosterProgram :=
  .step (.user .read) next

/-- `AdminService.createUser` -/
def createUser (dto : CreateUserDto) : RosterProgram :=
  if (passwordPolicyError T dto.password [dto.email, dto.firstName, dto.lastName]).isSome then .fail
  else
    readRoster fun r =>
      if r.users.any fun user => user.email = dto.email then .fail
      else if globalRoles.contains dto.assigned then insertUser (createdUser dto none)
      else if !truthy dto.companyId then .fail
      else
        readRoster fun r' =>
          if r'.companies.any fun company => some company.id = dto.companyId then
            insertUser (createdUser dto dto.companyId)
          else .fail

@[irreducible] def hasEmail (body : Js) : Bool :=
  scimEmail body ≠ ""

/-- `ScimService.createUser` -/
def provisionUser (companyId : String) (body : Js) : RosterProgram :=
  if hasEmail body then
    readRoster fun r =>
      if r.users.any fun user => user.email = scimEmail body then .fail
      else insertUser (provisionedUser "" companyId body)
  else .fail

inductive RosterRequest where
  | createUser (dto : CreateUserDto)
  | updateUserRole (userId : String) (role : Role)
  | updateUser (id : String) (dto : UpdateUserDto)
  | assignUserCompany (id : String) (companyId : Option String)
  | updateCompanyUserRole (userId : String) (role : Role) (companyId : String) (actor : CurrentUser)
  | provisionUser (companyId : String) (body : Js)
  | replaceUser (companyId id : String) (body : Js)
  | patchUser (companyId id : String) (body : Js)
  | deleteUser (companyId id : String)

def onRoster (program : UserProgram) : RosterProgram :=
  program.embed Roster.toDirectory .user

def RosterRequest.handler : RosterRequest → RosterProgram
  | createUser dto => Admin.createUser T dto
  | updateUserRole userId role => onRoster (Admin.updateUserRole userId role)
  | updateUser id dto => onRoster (Admin.updateUser id dto)
  | assignUserCompany id companyId => onRoster (Admin.assignUserCompany id companyId)
  | updateCompanyUserRole userId role companyId actor =>
    onRoster (Admin.updateCompanyUserRole userId role companyId actor)
  | provisionUser companyId body => Admin.provisionUser companyId body
  | replaceUser companyId id body => onRoster (Admin.replaceUser companyId id body)
  | patchUser companyId id body => onRoster (Admin.patchUser companyId id body)
  | deleteUser companyId id => onRoster (Admin.deleteUser companyId id)

def rosterSystem : System Roster RosterOp RosterRequest where
  exec := execRoster uuid
  tick r := { r with now := r.now + 1 }
  handler := RosterRequest.handler T
  sendable _ _ := True

end Model

section Pairs

def isPaired (user : User) : Bool :=
  if globalRoles.contains user.role then user.companyId.isNone else user.companyId.isSome

/-- Global roles carry no tenant, and whoever was created or moved has a company unless
the role is global. -/
def Paired (r : Roster) : Prop :=
  ∀ user ∈ r.users, (globalRoles.contains user.role = true → user.companyId = none) ∧
    (user.id ∈ r.moved → globalRoles.contains user.role = false → user.companyId.isSome = true)

/-- What an update writes suits the user as it is: a company goes to a user with a tenant
role, is taken only from one with a global role, and a tenant role goes to a user with a
company, unless that is what the user has already. -/
def UserData.suits (data : UserData) (user : User) : Bool :=
  match data.role, data.companyId with
  | none, none => true
  | none, some none => globalRoles.contains user.role || user.companyId.isNone
  | none, some (some _) => !globalRoles.contains user.role
  | some role, none =>
    if globalRoles.contains role then user.companyId.isNone
    else user.companyId.isSome || role = user.role
  | some role, some none =>
    globalRoles.contains role || role = user.role && user.companyId.isNone
  | some role, some (some _) => !globalRoles.contains role

/-- An update that is not confined to a company suits the users it changes. -/
def keepsPairing (op : RosterOp) (r : Roster) : Bool :=
  match op with
  | .user (.updateUser id none data _) =>
    r.refuses id none data || r.users.all fun user => !names id none user || data.suits user
  | _ => true

/-- What the calls insert is paired, and what they write within a company is a tenant role. -/
def Tenanted : RosterOp → Prop
  | .user (.updateUser _ (some _) data _) =>
    data.companyId = none ∧ data.role.all (!globalRoles.contains ·) = true
  | .user _ => True
  | .insertUser row => isPaired row = true

end Pairs
section Updates

variable {T : Letters} {uuid : Nat → String} {r : Roster} {id : String} {companyId : Option String}
variable {data : UserData} {check : LastAdminCheck} {user : User}

theorem suits_iff (hglobal : globalRoles.contains user.role = true → user.companyId = none) :
    data.suits user = true ↔
      (globalRoles.contains (data.apply user).role = true → (data.apply user).companyId = none) ∧
      (pairing (data.apply user) ≠ pairing user →
        globalRoles.contains (data.apply user).role = false →
        (data.apply user).companyId.isSome = true) := by
  have hrole : (data.apply user).role = data.role.getD user.role := rfl
  have hcompany : (data.apply user).companyId = data.companyId.getD user.companyId := rfl
  rw [pairing, pairing, hrole, hcompany, UserData.suits]
  generalize user.role = role at hglobal ⊢
  generalize user.companyId = company at hglobal ⊢
  cases data.role with
  | none =>
    cases data.companyId with
    | none => simpa using hglobal
    | some given =>
      cases given <;> cases company <;> cases hrole : globalRoles.contains role <;> simp_all
  | some role' =>
    cases data.companyId with
    | none =>
      cases hrole : globalRoles.contains role' <;> cases company <;> simp_all [eq_comm]
    | some given =>
      cases hrole : globalRoles.contains role' <;> cases given <;> cases company <;>
        simp_all [eq_comm]

theorem mem_execRoster (hunrefused : r.refuses id companyId data = false) {row : User} :
    row ∈ (execRoster uuid (.user (.updateUser id companyId data check)) r).users ↔
      ∃ user ∈ r.users, row = if names id companyId user then data.apply user else user := by
  simp only [execRoster, execUser, hunrefused, Bool.false_eq_true, if_false, List.mem_map, eq_comm]

theorem mem_movedBy (hdistinct : Distinct (·.id) r.users) (huser : user ∈ r.users) :
    user.id ∈ movedBy id companyId data r ↔
      names id companyId user = true ∧ pairing (data.apply user) ≠ pairing user := by
  simp only [movedBy, List.mem_map, List.mem_filter, Bool.and_eq_true, decide_eq_true_eq]
  constructor
  · rintro ⟨other, ⟨hother, hmoved⟩, hid⟩
    obtain rfl := hdistinct.eq_of_key hother huser hid
    exact hmoved
  · intro hmoved
    exact ⟨user, ⟨huser, hmoved⟩, rfl⟩

theorem paired_update_iff (hdistinct : Distinct (·.id) r.users) (hpaired : Paired r) :
    Paired (execRoster uuid (.user (.updateUser id companyId data check)) r) ↔
      r.refuses id companyId data = true ∨
        ∀ user ∈ r.users, names id companyId user = true → data.suits user = true := by
  cases hrefused : r.refuses id companyId data with
  | true =>
    simp only [execRoster, hrefused, if_true, true_or, iff_true]
    exact hpaired
  | false =>
    simp only [Bool.false_eq_true, false_or]
    have hmoved : (execRoster uuid (.user (.updateUser id companyId data check)) r).moved =
        r.moved ++ movedBy id companyId data r := by
      simp [execRoster, hrefused]
    constructor
    · intro hafter user huser hnamed
      have hrow := hafter (data.apply user)
        ((mem_execRoster hrefused).mpr ⟨user, huser, (if_pos hnamed).symm⟩)
      rw [hmoved] at hrow
      refine (suits_iff (hpaired user huser).1).mpr ⟨hrow.1, fun hchanged => hrow.2 ?_⟩
      exact List.mem_append_right _ ((mem_movedBy hdistinct huser).mpr ⟨hnamed, hchanged⟩)
    · intro hsuits row hrow
      obtain ⟨user, huser, rfl⟩ := (mem_execRoster hrefused).mp hrow
      obtain ⟨hglobal, htenant⟩ := hpaired user huser
      rw [hmoved]
      split
      next hnamed =>
        obtain ⟨hglobal', htenant'⟩ := (suits_iff hglobal).mp (hsuits user huser hnamed)
        refine ⟨hglobal', fun hin hrole => ?_⟩
        by_cases hchanged : pairing (data.apply user) = pairing user
        · -- moved before, if at all
          obtain ⟨hsameRole, hsameCompany⟩ := Prod.mk.inj hchanged
          rw [hsameRole] at hrole
          rw [hsameCompany]
          obtain hbefore | hnow := List.mem_append.mp hin
          · exact htenant hbefore hrole
          · exact absurd hchanged ((mem_movedBy hdistinct huser).mp hnow).2
        · exact htenant' hchanged hrole
      next hnamed =>
        refine ⟨hglobal, fun hin hrole => htenant ?_ hrole⟩
        obtain hbefore | hnow := List.mem_append.mp hin
        · exact hbefore
        · exact absurd ((mem_movedBy hdistinct huser).mp hnow).1 hnamed

theorem suits_of_tenanted {company : String}
    (htenanted : Tenanted (.user (.updateUser id (some company) data check)))
    (hnamed : names id (some company) user = true) :
    data.suits user = true := by
  obtain ⟨hcompany, hrole⟩ := htenanted
  simp only [names, Option.all_some, Bool.and_eq_true, decide_eq_true_eq] at hnamed
  rw [UserData.suits, hcompany]
  cases hwritten : data.role with
  | none => rfl
  | some role =>
    rw [hwritten, Option.all_some, Bool.not_eq_eq_eq_not, Bool.not_true] at hrole
    simp only [hrole, hnamed.2, Option.isSome_some, Bool.false_eq_true, if_false, Bool.true_or]

theorem paired_of_pairing {r' : Roster} (hpaired : Paired r) (hmoved : r'.moved = r.moved)
    (husers : ∀ row ∈ r'.users, ∃ user ∈ r.users, row.id = user.id ∧ pairing row = pairing user) :
    Paired r' := by
  intro row hrow
  obtain ⟨user, huser, hid, hsame⟩ := husers row hrow
  obtain ⟨hrole, hcompany⟩ := Prod.mk.inj hsame
  rw [hid, hrole, hcompany, hmoved]
  exact hpaired user huser

theorem paired_insertUser {row : User} (hpaired : Paired r) (hrow : isPaired row = true) :
    Paired (execRoster uuid (.insertUser row) r) := by
  rw [execRoster]
  dsimp only
  split
  · exact hpaired
  next hfree =>
    intro user huser
    obtain huser | huser := List.mem_append.mp huser
    · refine ⟨(hpaired user huser).1, fun hin hrole => ?_⟩
      obtain hbefore | hnew := List.mem_append.mp hin
      · exact (hpaired user huser).2 hbefore hrole
      · -- the id is not one that is taken
        refine absurd (List.any_eq_true.mpr ⟨user, huser, ?_⟩) hfree
        simp [List.mem_singleton.mp hnew]
    · obtain rfl := List.mem_singleton.mp huser
      rw [isPaired] at hrow
      refine ⟨fun hrole => ?_, fun _ hrole => ?_⟩
      · rw [if_pos hrole] at hrow
        exact Option.isNone_iff_eq_none.mp hrow
      · rw [if_neg (Bool.eq_false_iff.mp hrole)] at hrow
        exact hrow

theorem paired_exec {op : RosterOp} (hdistinct : Distinct (·.id) r.users) (hpaired : Paired r)
    (htenanted : Tenanted op) : Paired (execRoster uuid op r) ↔ keepsPairing op r = true := by
  cases op with
  | insertUser row => exact iff_of_true (paired_insertUser hpaired htenanted) rfl
  | user op =>
    cases op with
    | read | countSuperAdmins _ | endSession _ => exact iff_of_true hpaired rfl
    | bumpAuthVersion ids =>
      refine iff_of_true (paired_of_pairing hpaired rfl fun row hrow => ?_) rfl
      obtain ⟨user, huser, rfl⟩ := List.mem_map.mp hrow
      refine ⟨user, huser, ?_⟩
      split <;> exact ⟨rfl, rfl⟩
    | updateUser id companyId data check =>
      rw [paired_update_iff hdistinct hpaired]
      cases companyId with
      | some company =>
        exact iff_of_true
          (.inr fun user _ hnamed => suits_of_tenanted htenanted hnamed) rfl
      | none =>
        rw [keepsPairing, Bool.or_eq_true, List.all_eq_true]
        refine or_congr_right (forall_congr' fun user => imp_congr_right fun _ => ?_)
        cases names id none user <;> simp

theorem distinct_exec {op : RosterOp} (hdistinct : Distinct (·.id) r.users) :
    Distinct (·.id) (execRoster uuid op r).users := by
  cases op with
  | insertUser row =>
    rw [execRoster]
    dsimp only
    split
    · exact hdistinct
    next hfree =>
      refine hdistinct.append fun other hother hid => hfree ?_
      exact List.any_eq_true.mpr ⟨other, hother, by simp [hid]⟩
  | user op =>
    cases op with
    | read | countSuperAdmins _ | endSession _ => exact hdistinct
    | bumpAuthVersion ids =>
      have hkeeps : ∀ user ∈ r.users,
          ({ user with authVersion := user.authVersion + 1 } : User).id = user.id :=
        fun _ _ => rfl
      exact hdistinct.updateWhere hkeeps
    | updateUser id companyId data check =>
      cases hrefused : r.refuses id companyId data with
      | true =>
        simp only [execRoster, hrefused, if_true]
        exact hdistinct
      | false =>
        simp only [execRoster, execUser, hrefused, Bool.false_eq_true, if_false]
        exact hdistinct.updateWhere fun _ _ => rfl

end Updates

section Calls

variable {T : Letters} {id : String} {companyId : Option String} {good : UserOp → Prop}

theorem all_updateUserRow {data : UserData} {check : LastAdminCheck} {go : UserProgram}
    (hgood : good (.updateUser id companyId data check)) (hgo : go.All good) :
    (updateUserRow id companyId data check go).All good := by
  refine Prog.all_step hgood fun d => ?_
  split
  · trivial
  · exact hgo

theorem all_revokeSessions (hgood : ∀ ids, good (.bumpAuthVersion ids)) (userIds : List String) :
    (revokeSessionsForUsers userIds).All good := by
  rw [revokeSessionsForUsers]
  split
  · trivial
  · exact Prog.all_step (hgood _) fun _ => trivial

theorem all_assertAnotherSuperAdmin (hread : good .read) (hcount : good (.countSuperAdmins id))
    {go : LastAdminCheck → UserProgram} (hgo : ∀ check, (go check).All good) :
    (assertAnotherSuperAdmin id go).All good := by
  refine Prog.all_step hread fun d => ?_
  split
  · refine Prog.all_step hcount fun d' => ?_
    split
    · exact hgo _
    · trivial
  · exact hgo _

theorem all_checked (hread : good .read) (hcount : good (.countSuperAdmins id))
    {needed : Bool} {update : LastAdminCheck → UserProgram}
    (hupdate : ∀ check, (update check).All good) :
    (if needed then assertAnotherSuperAdmin id update else update .notNeeded).All good := by
  split
  · exact all_assertAnotherSuperAdmin hread hcount hupdate
  · exact hupdate _

theorem all_lookedUp (hread : good .read) {given : Bool}
    {found : Directory → Bool} {write : UserProgram} (hwrite : write.All good) :
    (if given then .step .read fun d => if found d then write else .fail
      else write : UserProgram).All good := by
  split
  · refine Prog.all_step hread fun d => ?_
    split
    · exact hwrite
    · trivial
  · exact hwrite

/-- What a call on a user may do. -/
abbrev TenantedUser (op : UserOp) : Prop :=
  Tenanted (.user op)

theorem tenanted_revokeSessions (userIds : List String) :
    (revokeSessionsForUsers userIds).All TenantedUser :=
  all_revokeSessions (fun _ => trivial) userIds

theorem tenanted_updateUserRole (userId : String) (role : Role) :
    (updateUserRole userId role).All TenantedUser := by
  have hwrite : ∀ check, (updateUserRow userId none
      { role := some role
        companyId := if globalRoles.contains role then some none else none } check
      (revokeSessionsForUsers [userId])).All TenantedUser :=
    fun check => all_updateUserRow trivial (tenanted_revokeSessions _)
  rw [updateUserRole]
  split
  · trivial
  · refine Prog.all_step trivial fun d => ?_
    cases d.findUser userId with
    | none => trivial
    | some user => exact all_checked trivial trivial hwrite

theorem tenanted_updateUser (dto : UpdateUserDto) : (updateUser id dto).All TenantedUser := by
  have hwrite : ∀ check {revoke : UserProgram}, revoke.All TenantedUser →
      (if dto.isActive = some none then .fail
        else updateUserRow id none dto.data check revoke : UserProgram).All TenantedUser := by
    intro check revoke hrevoke
    split
    · trivial
    · exact all_updateUserRow trivial hrevoke
  have hrevoke : (if dto.role.isSome || dto.userType.isSome || dto.isActive.isSome ||
      dto.companyId.isSome then revokeSessionsForUsers [id] else .done).All TenantedUser := by
    split
    · exact tenanted_revokeSessions _
    · trivial
  refine Prog.all_step trivial fun d => ?_
  cases d.findUser id with
  | none => trivial
  | some user =>
    exact all_checked trivial trivial fun check => all_lookedUp trivial (hwrite check hrevoke)

theorem tenanted_assignUserCompany (companyId : Option String) :
    (assignUserCompany id companyId).All TenantedUser := by
  have hmove : (updateUserRow id none { companyId := some companyId, bumps := true } .notNeeded
      (revokeSessionsForUsers [id])).All TenantedUser :=
    all_updateUserRow trivial (tenanted_revokeSessions _)
  refine Prog.all_step trivial fun d => ?_
  split
  · trivial
  · split
    · split
      · trivial
      · refine Prog.all_step trivial fun d' => ?_
        split
        · exact hmove
        · trivial
    · exact hmove

theorem tenanted_updateCompanyUserRole (userId : String) (role : Role) (companyId : String)
    (actor : CurrentUser) :
    (updateCompanyUserRole userId role companyId actor).All TenantedUser := by
  refine Prog.all_step trivial fun d => ?_
  split
  · trivial
  · split
    · exact all_updateUserRow trivial (tenanted_revokeSessions _)
    · trivial

theorem mapRole_tenant (roles : Js) : globalRoles.contains (mapRole roles) = false := by
  rw [mapRole]
  generalize hfound : provisionedRoles.find? _ = found
  cases found with
  | none => rfl
  | some role =>
    have htenant : ∀ role ∈ provisionedRoles, globalRoles.contains role = false := by decide
    exact htenant role (List.mem_of_find?_eq_some hfound)

theorem tenanted_replaceUser (company : String) (body : Js) :
    (replaceUser company id body).All TenantedUser := by
  refine Prog.all_step trivial fun d => ?_
  generalize scimEmail body = email
  split
  · trivial
  · split
    · trivial
    · refine all_updateUserRow ⟨rfl, ?_⟩ trivial
      rw [replacedUser, Option.all_some, mapRole_tenant]
      rfl

theorem tenanted_patchUser (company : String) (body : Js) :
    (patchUser company id body).All TenantedUser := by
  refine Prog.all_step trivial fun d => ?_
  split
  · trivial
  · split
    · trivial
    · exact tenanted_replaceUser company _

theorem tenanted_deleteUser (company : String) : (deleteUser company id).All TenantedUser := by
  refine Prog.all_step trivial fun d => ?_
  split
  · trivial
  · exact all_updateUserRow ⟨rfl, rfl⟩ trivial

theorem tenanted_insertUser {row : User} (h : isPaired row = true) :
    (insertUser row).All Tenanted :=
  Prog.all_step h fun _ => trivial

theorem tenanted_createUser (dto : CreateUserDto) : (createUser T dto).All Tenanted := by
  rw [createUser]
  split
  · trivial
  · refine Prog.all_step trivial fun r => ?_
    split
    · trivial
    · split
      next hglobal => exact tenanted_insertUser (if_pos hglobal)
      next htenant =>
        split
        · trivial
        next hgiven =>
          refine Prog.all_step trivial fun r' => ?_
          split
          · refine tenanted_insertUser ((if_neg htenant).trans ?_)
            cases hcompany : dto.companyId with
            | none => simp [hcompany, truthy] at hgiven
            | some company => rfl
          · trivial

theorem tenanted_provisionUser (company : String) (body : Js) :
    (provisionUser company body).All Tenanted := by
  rw [provisionUser]
  split
  · refine Prog.all_step trivial fun r => ?_
    split
    · trivial
    · have htenant : globalRoles.contains (provisionedUser "" company body).role = false :=
        mapRole_tenant _
      refine tenanted_insertUser ?_
      rw [isPaired, if_neg (Bool.eq_false_iff.mp htenant)]
      rfl
  · trivial

theorem tenanted_onRoster {program : UserProgram} (h : program.All TenantedUser) :
    (onRoster program).All Tenanted :=
  Prog.all_embed h

theorem tenanted_handler (req : RosterRequest) : (req.handler T).All Tenanted := by
  cases req with
  | createUser dto => exact tenanted_createUser dto
  | updateUserRole userId role => exact tenanted_onRoster (tenanted_updateUserRole userId role)
  | updateUser id dto => exact tenanted_onRoster (tenanted_updateUser dto)
  | assignUserCompany id companyId => exact tenanted_onRoster (tenanted_assignUserCompany companyId)
  | updateCompanyUserRole userId role companyId actor =>
    exact tenanted_onRoster (tenanted_updateCompanyUserRole userId role companyId actor)
  | provisionUser companyId body => exact tenanted_provisionUser companyId body
  | replaceUser companyId id body => exact tenanted_onRoster (tenanted_replaceUser companyId body)
  | patchUser companyId id body => exact tenanted_onRoster (tenanted_patchUser companyId body)
  | deleteUser companyId id => exact tenanted_onRoster (tenanted_deleteUser companyId)

end Calls

section Runs

variable {T : Letters} {uuid : Nat → String}

/-- What the statements keep. -/
structure Consistent (r : Roster) : Prop where
  distinct : Distinct (·.id) r.users
  paired : Paired r

def sampleRoster (users : List User) : Roster where
  toDirectory := sampleDirectory users
  moved := []

def sampleLetters : Letters where
  nfkc text := text
  toLowerCase text := text

end Runs
end FieldserviceIT.Admin
