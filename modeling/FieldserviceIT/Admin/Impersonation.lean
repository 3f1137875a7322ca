import FieldserviceIT.Admin.SuperAdmins

/-!
Requests under an impersonation session. The tenant guard honours a session that
is the actor's and still open, and takes the target from the directory as it is
by then. Whether the target is still the actor's to impersonate was decided when
the session began.
-/

namespace FieldserviceIT.Admin

open Common Lib Sql

section Guard

/-- What the tenant guard looks at. `paramCompanyId` is
`request.params?.companyId || request.body?.companyId`. -/
structure GuardedRequest where
  isPublic : Bool
  user : Option CurrentUser
  impersonationId : Option String
  companyContext : Option String
  paramCompanyId : Option String

/-- The request as the guard lets it through; `session` is the impersonation session
it is made under. -/
structure ServedRequest where
  user : Option CurrentUser
  companyId : Option String
  session : Option ImpersonationSession

def impersonatedUser (target : User) : CurrentUser where
  id := target.id
  role := target.role
  userType := target.userType
  companyId := target.companyId
  effectiveCompanyId := none
  location := target.location
  permissionScopes := none
  permissionSlugs := none

/-- The conditions of the `SELECT` on the session and on its target. -/
def isHonoured (d : Directory) (id actorId : String) (session : ImpersonationSession) : Bool :=
  session.id = id && session.actorId = actorId && session.endedAt.isNone &&
    d.now < session.expiresAt

def isTarget (session : ImpersonationSession) (target : User) : Bool :=
  target.id = session.targetUserId && target.isActive && !target.isDeleted

def honouredSession (d : Directory) (id actorId : String) : Option (ImpersonationSession × User) :=
  ((d.sessions.filter (isHonoured d id actorId)).flatMap fun session =>
    (d.users.filter (isTarget session)).map fun target => (session, target)).head?

def companyOf (d : Directory) (req : GuardedRequest) (user : CurrentUser)
    (session : Option ImpersonationSession) : Option ServedRequest :=
  if user.role = .globalTech then some ⟨some user, none, session⟩
  else if user.role = .superAdmin then
    if !truthy req.companyContext then some ⟨some user, none, session⟩
    else
      (d.companies.find? fun company => some company.id = req.companyContext && !company.isDeleted &&
          company.isActive).map fun company =>
        ⟨some { user with companyId := some company.id, effectiveCompanyId := some company.id },
          some company.id, session⟩
  else if user.userType = .publicUser then some ⟨some user, none, session⟩
  else if !truthy user.companyId then none
  else if truthy req.paramCompanyId && req.paramCompanyId ≠ user.companyId then none
  else some ⟨some user, user.companyId, session⟩

/-- `TenantGuard.canActivate`: the request it lets through. -/
def tenantGuard (d : Directory) (req : GuardedRequest) : Option ServedRequest :=
  if req.isPublic then some ⟨req.user, none, none⟩
  else
    match req.user with
    | none => none
    | some user =>
      if truthy req.impersonationId && [.superAdmin, .tenantAdmin].contains user.role then
        (honouredSession d (req.impersonationId.getD "") user.id).bind fun row =>
          companyOf d req (impersonatedUser row.2) (some row.1)
      else companyOf d req user none

end Guard

section Authority

/-- The target is within the actor's authority: of the same company, which has to be
one, and of no global role. -/
def Within (actor target : User) : Prop :=
  actor.role = .superAdmin ∨
    (actor.companyId ≠ none ∧ target.companyId = actor.companyId ∧ target.role ∉ globalRoles)

def isOpen (d : Directory) (session : ImpersonationSession) : Prop :=
  session.endedAt = none ∧ d.now < session.expiresAt

def SessionWithin (users : List User) (session : ImpersonationSession) : Prop :=
  ∀ actor ∈ users, actor.id = session.actorId → ∀ target ∈ users, target.id = session.targetUserId →
    Within actor target

/-- The targets of all open sessions are within their actors' authority. -/
def SessionsWithin (d : Directory) : Prop :=
  ∀ session ∈ d.sessions, isOpen d session → SessionWithin d.users session

/-- What is read about an actor and a target is still so. -/
structure StillAsRead (users : List User) (actor : CurrentUser) (target : Account) : Prop where
  superAdmin : actor.role = .superAdmin → ∀ user ∈ users, user.id = actor.id →
    user.role = .superAdmin
  company : actor.role ≠ .superAdmin → ∀ user ∈ users, user.id = actor.id →
    user.companyId = actor.companyId
  target : ∀ user ∈ users, user.id = target.id →
    user.companyId = target.companyId ∧ user.role = target.role

/-- A session begins on what is still so; unless the actor is a super administrator,
the actor has a company and the target no global role. An update of a user leaves the target of each
open session within its actor's authority. -/
def KeepsWithin (op : DirectoryOp) (d : Directory) : Prop :=
  match op with
  | .governance actor (.perform (.impersonate _ target _ _) _) =>
    StillAsRead d.users actor target ∧
      (actor.role = .superAdmin ∨ (actor.companyId ≠ none ∧ target.role ∉ globalRoles))
  | .user (.updateUser id companyId data _) => ∀ session ∈ d.sessions, isOpen d session →
      SessionWithin d.users session →
        SessionWithin (d.users.map fun user =>
          if names id companyId user then data.apply user else user) session
  | _ => True

/-- `assertUserScope` has passed when a session begins. -/
def Scoped (op : DirectoryOp) : Prop :=
  match op with
  | .governance actor (.perform (.impersonate actorId target _ _) _) =>
    actorId = actor.id ∧ (actor.role = .superAdmin ∨ target.companyId = actor.companyId)
  | _ => True

end Authority

section Served

variable {d : Directory} {req : GuardedRequest} {served : ServedRequest}
variable {session : ImpersonationSession}

theorem honouredSession_some {id actorId : String} {target : User}
    (h : honouredSession d id actorId = some (session, target)) :
    (session ∈ d.sessions ∧ isHonoured d id actorId session = true) ∧
      (target ∈ d.users ∧ isTarget session target = true) := by
  have hmem := List.mem_of_head? h
  obtain ⟨session', hsession, hrow⟩ := List.mem_flatMap.mp hmem
  obtain ⟨target', htarget, heq⟩ := List.mem_map.mp hrow
  obtain ⟨rfl, rfl⟩ := Prod.mk.inj heq
  exact ⟨List.mem_filter.mp hsession, List.mem_filter.mp htarget⟩

theorem companyOf_some {user : CurrentUser} {session : Option ImpersonationSession}
    (h : companyOf d req user session = some served) :
    served.user.map (·.id) = some user.id ∧ served.session = session := by
  rw [companyOf] at h
  split at h
  · obtain rfl := Option.some.inj h
    exact ⟨rfl, rfl⟩
  · split at h
    · split at h
      · obtain rfl := Option.some.inj h
        exact ⟨rfl, rfl⟩
      · obtain ⟨company, -, rfl⟩ := Option.map_eq_some_iff.mp h
        exact ⟨rfl, rfl⟩
    · split at h
      · obtain rfl := Option.some.inj h
        exact ⟨rfl, rfl⟩
      · split at h
        · cases h
        · split at h
          · cases h
          · obtain rfl := Option.some.inj h
            exact ⟨rfl, rfl⟩

theorem tenantGuard_session (h : tenantGuard d req = some served)
    (hsession : served.session = some session) :
    ∃ user target, req.user = some user ∧
      honouredSession d (req.impersonationId.getD "") user.id = some (session, target) ∧
      served.user.map (·.id) = some target.id := by
  rw [tenantGuard] at h
  split at h
  · obtain rfl := Option.some.inj h
    cases hsession
  · split at h
    · cases h
    · next user huser =>
        split at h
        · obtain ⟨⟨session', target⟩, hrow, hcompany⟩ := Option.bind_eq_some_iff.mp h
          obtain ⟨hserved, hsame⟩ := companyOf_some hcompany
          obtain rfl := Option.some.inj (hsame.symm.trans hsession)
          exact ⟨user, target, huser, hrow, hserved⟩
        · obtain ⟨-, hnone⟩ := companyOf_some h
          cases hnone.symm.trans hsession

/-- The request is served as a target that is the actor's to impersonate. -/
structure Honoured (d : Directory) (req : GuardedRequest) (served : ServedRequest)
    (session : ImpersonationSession) : Prop where
  unended : session.endedAt = none
  unexpired : d.now < session.expiresAt
  owned : req.user.map (·.id) = some session.actorId
  target : ∃ target ∈ d.users, target.id = session.targetUserId ∧
    served.user.map (·.id) = some target.id ∧
      ∀ actor ∈ d.users, actor.id = session.actorId → Within actor target

theorem honoured_of_sessionsWithin (hwithin : SessionsWithin d)
    (h : tenantGuard d req = some served) (hsession : served.session = some session) :
    Honoured d req served session := by
  obtain ⟨user, target, huser, hrow, hserved⟩ := tenantGuard_session h hsession
  obtain ⟨⟨hmem, hhonoured⟩, htarget, hid⟩ := honouredSession_some hrow
  simp only [isHonoured, Bool.and_eq_true, decide_eq_true_eq, Option.isNone_iff_eq_none] at hhonoured
  obtain ⟨⟨⟨-, hactor⟩, hunended⟩, hunexpired⟩ := hhonoured
  simp only [isTarget, Bool.and_eq_true, decide_eq_true_eq] at hid
  refine ⟨hunended, hunexpired, ?_, target, htarget, hid.1.1, hserved, fun actor hmem' hid' => ?_⟩
  · rw [huser, hactor, Option.map_some]
  · exact hwithin session hmem ⟨hunended, hunexpired⟩ actor hmem' hid' target htarget hid.1.1

end Served

section Steps

variable {uuid : Nat → String} {d : Directory}

theorem sessionWithin_map {change : User → User} {users : List User}
    {session : ImpersonationSession} (hid : ∀ user, (change user).id = user.id)
    (hrole : ∀ user, (change user).role = user.role)
    (hcompany : ∀ user, (change user).companyId = user.companyId)
    (h : SessionWithin users session) : SessionWithin (users.map change) session := by
  intro changedActor hactor hactorId changedTarget htarget htargetId
  obtain ⟨actor, hmem, rfl⟩ := List.mem_map.mp hactor
  obtain ⟨target, hmem', rfl⟩ := List.mem_map.mp htarget
  have hwithin := h actor hmem ((hid actor).symm.trans hactorId) target hmem'
    ((hid target).symm.trans htargetId)
  rw [Within, hrole, hrole, hcompany, hcompany]
  exact hwithin

theorem sessions_execGovernance (uuid : Nat → String) (op : GovernanceOp) (g : Governance) :
    (execGovernance uuid op g).sessions = g.sessions ∨
      ∃ actorId target reason minutes approval,
        op = .perform (.impersonate actorId target reason minutes) approval := by
  cases op with
  | perform action approval =>
    cases action with
    | impersonate actorId target reason minutes =>
      exact .inr ⟨actorId, target, reason, minutes, approval, rfl⟩
    | _ => exact .inl rfl
  | insertApproval row =>
    left
    rw [execGovernance]
    split
    · rfl
    · rfl
  | present id actionType resourceId actor =>
    left
    rw [execGovernance]
    split
    · rfl
    · rfl
  | _ => exact .inl rfl

theorem sessionWithin_begun {actor : CurrentUser} {target : Account}
    {session : ImpersonationSession} (hread : StillAsRead d.users actor target)
    (hglobal : actor.role = .superAdmin ∨ (actor.companyId ≠ none ∧ target.role ∉ globalRoles))
    (hscope : actor.role = .superAdmin ∨ target.companyId = actor.companyId)
    (hactor : session.actorId = actor.id) (htarget : session.targetUserId = target.id) :
    SessionWithin d.users session := by
  intro row hrow hrowId other hother hotherId
  by_cases hsuper : actor.role = .superAdmin
  · exact .inl (hread.superAdmin hsuper row hrow (hrowId.trans hactor))
  · have hcompany := hread.company hsuper row hrow (hrowId.trans hactor)
    obtain ⟨hsame, hrole⟩ := hread.target other hother (hotherId.trans htarget)
    obtain ⟨hsome, hrole'⟩ := hglobal.resolve_left hsuper
    refine .inr ⟨hcompany ▸ hsome, ?_, ?_⟩
    · calc other.companyId = target.companyId := hsame
        _ = actor.companyId := hscope.resolve_left hsuper
        _ = row.companyId := hcompany.symm
    · rw [hrole]
      exact hrole'

theorem sessionsWithin_governance {actor : CurrentUser} {op : GovernanceOp}
    (h : SessionsWithin d) (hkeeps : KeepsWithin (.governance actor op) d)
    (hscoped : Scoped (.governance actor op)) :
    SessionsWithin (execDirectory uuid (.governance actor op) d) := by
  obtain ⟨change, haccounts, hstanding⟩ := accounts_execGovernance uuid op d.governance
  have husers := withGovernance_users haccounts
  have hmap : ∀ session, SessionWithin d.users session →
      SessionWithin (execDirectory uuid (.governance actor op) d).users session := by
    intro session hwithin
    rw [execDirectory, husers]
    exact sessionWithin_map (fun user => hstanding.id user.toAccount)
      (fun user => hstanding.role user.toAccount) (fun user => hstanding.companyId user.toAccount)
      hwithin
  intro session hmem hopen
  obtain hsame | ⟨actorId, target, reason, minutes, approval, rfl⟩ :=
    sessions_execGovernance uuid op d.governance
  · have hbefore : session ∈ (execGovernance uuid op d.governance).sessions := hmem
    rw [hsame] at hbefore
    exact hmap session (h session hbefore hopen)
  · obtain hmem | hnew := List.mem_append.mp hmem
    · exact hmap session (h session hmem hopen)
    · obtain rfl := List.mem_singleton.mp hnew
      obtain ⟨hread, hglobal⟩ := hkeeps
      obtain ⟨hactor, hscope⟩ := hscoped
      exact hmap _ (sessionWithin_begun hread hglobal hscope hactor rfl)

theorem sessionsWithin_user {op : UserOp} (h : SessionsWithin d)
    (hkeeps : KeepsWithin (.user op) d) : SessionsWithin (execUser op d) := by
  cases op with
  | read | countSuperAdmins _ => exact h
  | updateUser id companyId data check =>
    rw [execUser]
    split
    · exact h
    · intro session hmem hopen
      exact hkeeps session hmem hopen (h session hmem hopen)
  | bumpAuthVersion ids =>
    intro session hmem hopen
    refine sessionWithin_map (fun user => ?_) (fun user => ?_) (fun user => ?_)
      (h session hmem hopen)
    · split <;> rfl
    · split <;> rfl
    · split <;> rfl
  | endSession id =>
    intro ended hmem hopen
    obtain ⟨session, hsession, rfl⟩ := List.mem_map.mp hmem
    split at hopen
    · cases hopen.1
    · next hother =>
        rw [if_neg hother]
        exact h session hsession hopen

end Steps

section Runs

variable {uuid : Nat → String}

/-- What is asked of the statements made on behalf of the actor. -/
abbrev ScopedFor (actor : CurrentUser) (op : GovernanceOp) : Prop :=
  Scoped (.governance actor op)

theorem scoped_assertApprovedAction {id actionType resourceId : String} {actor : CurrentUser}
    {go : DualApprovalRequest → GovernanceProgram}
    (h : ∀ approval, (go approval).All (ScopedFor actor)) :
    (assertApprovedAction id actionType resourceId actor go).All (ScopedFor actor) := by
  refine Prog.all_step trivial fun d => ?_
  split
  · trivial
  · next approval _ => exact h approval

/-- A session begins with the target that `assertUserScope` has let through. -/
theorem scoped_startImpersonation (targetUserId approvalRequestId : String)
    (reason : Option String) (minutes : Option Int) (actor : CurrentUser) :
    (startImpersonation targetUserId approvalRequestId reason minutes actor).All
      (ScopedFor actor) := by
  refine Prog.all_step trivial fun d => ?_
  split
  · trivial
  · next target htarget =>
      rw [assertUserScope, Option.filter_eq_some_iff] at htarget
      simp only [Bool.and_eq_true, Bool.or_eq_true, decide_eq_true_eq] at htarget
      split
      · trivial
      · refine scoped_assertApprovedAction fun approval => ?_
        refine Prog.all_step ⟨rfl, htarget.2.2⟩ fun _ => ?_
        exact Prog.all_step trivial fun _ => trivial

theorem scoped_setBreakGlassAccount (userId : String) (enabled : Bool)
    (reason approvalRequestId : String) (actor : CurrentUser) :
    (setBreakGlassAccount userId enabled reason approvalRequestId actor).All
      (ScopedFor actor) := by
  unfold setBreakGlassAccount
  repeat' first
    | trivial
    | refine scoped_assertApprovedAction fun _ => ?_
    | refine Prog.all_step trivial fun _ => ?_
    | split

theorem scoped_governance (req : GovernanceRequest) :
    req.handler.All (ScopedFor req.actor) := by
  cases req with
  | startImpersonation targetUserId approvalRequestId reason minutes actor =>
    exact scoped_startImpersonation targetUserId approvalRequestId reason minutes actor
  | setBreakGlassAccount userId enabled reason approvalRequestId actor =>
    exact scoped_setBreakGlassAccount userId enabled reason approvalRequestId actor
  | requestDualApproval dto actor =>
    rw [GovernanceRequest.handler, requestDualApproval]
    split
    · trivial
    · split
      · trivial
      · refine Prog.all_step trivial fun d => ?_
        exact Prog.all_step trivial fun _ => trivial
  | reviewDualApproval id decision actor =>
    refine Prog.all_step trivial fun d => ?_
    split
    · trivial
    · split
      · trivial
      · refine Prog.all_step trivial fun d' => ?_
        repeat' first
          | trivial
          | refine Prog.all_step trivial fun _ => ?_
          | split
  | exportAccessReview reviewId approvalRequestId actor =>
    refine scoped_assertApprovedAction fun approval => Prog.all_step trivial fun d => ?_
    split
    · trivial
    · exact Prog.all_step trivial fun _ => trivial
  | removeCompany id approvalRequestId actor =>
    refine scoped_assertApprovedAction fun approval => Prog.all_step trivial fun d => ?_
    split
    · refine Prog.all_step trivial fun _ => ?_
      exact Prog.all_step trivial fun _ => trivial
    · trivial

theorem scoped_directory (req : DirectoryRequest) : req.handler.All Scoped := by
  cases req with
  | governance req => exact Prog.all_embed (scoped_governance req)
  | decideAccessReviewItem decision => exact Prog.all_embed (Prog.all_of_forall (fun _ => trivial) _)
  | _ => exact Prog.all_embed (Prog.all_of_forall (fun _ => trivial) _)

theorem sessionsWithin_run {c₀ c : Config Directory DirectoryOp} (hidle : c₀.threads = [])
    (hrun : (directorySystem uuid).Run KeepsWithin c₀ c) (h₀ : SessionsWithin c₀.shared) :
    SessionsWithin c.shared := by
  refine System.keeps_of_all (fun _ req _ => scoped_directory req) (fun op d h hkeeps hscoped => ?_)
    (fun d h => ?_) hidle hrun h₀
  · cases op with
    | user op => exact sessionsWithin_user h hkeeps
    | governance actor op => exact sessionsWithin_governance h hkeeps hscoped
    | review op => exact h
  · intro session hmem hopen
    have hunexpired : d.now + 1 < session.expiresAt := hopen.2
    exact h session hmem ⟨hopen.1, by omega⟩

/-- However requests follow each other and run side by side, a session is honoured
only while it is open, for the actor it belongs to, and with a target that is
within the actor's authority by then. -/
theorem impersonation_within_authority {c₀ c : Config Directory DirectoryOp}
    (hidle : c₀.threads = []) (hrun : (directorySystem uuid).Run KeepsWithin c₀ c)
    (h₀ : SessionsWithin c₀.shared) {req : GuardedRequest} {served : ServedRequest}
    {session : ImpersonationSession} (h : tenantGuard c.shared req = some served)
    (hsession : served.session = some session) : Honoured c.shared req served session :=
  honoured_of_sessionsWithin (sessionsWithin_run hidle hrun h₀) h hsession

end Runs

section Samples

instance (actor target : User) : Decidable (Within actor target) :=
  inferInstanceAs (Decidable (_ ∨ _))

instance (d : Directory) (session : ImpersonationSession) : Decidable (isOpen d session) :=
  inferInstanceAs (Decidable (_ ∧ _))

instance (users : List User) (session : ImpersonationSession) :
    Decidable (SessionWithin users session) :=
  inferInstanceAs (Decidable (∀ actor ∈ users, _))

instance (users : List User) (actor : CurrentUser) (target : Account) :
    Decidable (StillAsRead users actor target) :=
  decidable_of_iff
    ((actor.role = .superAdmin → ∀ user ∈ users, user.id = actor.id → user.role = .superAdmin) ∧
      (actor.role ≠ .superAdmin → ∀ user ∈ users, user.id = actor.id →
        user.companyId = actor.companyId) ∧
      ∀ user ∈ users, user.id = target.id →
        user.companyId = target.companyId ∧ user.role = target.role)
    ⟨fun h => ⟨h.1, h.2.1, h.2.2⟩, fun h => ⟨h.superAdmin, h.company, h.target⟩⟩

instance (op : DirectoryOp) (d : Directory) : Decidable (KeepsWithin op d) :=
  match op with
  | .user (.updateUser _ _ _ _) => inferInstanceAs (Decidable (∀ session ∈ d.sessions, _))
  | .governance _ (.perform (.impersonate ..) _) => inferInstanceAs (Decidable (_ ∧ _))
  | .user .read | .user (.countSuperAdmins _) | .user (.bumpAuthVersion _) | .user (.endSession _)
  | .governance _ (.perform (.deleteTenantUsers _) _)
  | .governance _ (.perform (.activateBreakGlass ..) _)
  | .governance _ (.perform (.exportReview _) _) | .governance _ .read
  | .governance _ (.insertApproval _) | .governance _ (.present ..) | .governance _ (.reject ..)
  | .governance _ (.approveFirst ..) | .governance _ (.approveSecond ..) | .governance _ (.execute _)
  | .governance _ (.deactivateBreakGlass _) | .governance _ (.deleteCompany _)
  | .review _ => isTrue trivial

instance (d : Directory) (req : GuardedRequest) (served : ServedRequest)
    (session : ImpersonationSession) : Decidable (Honoured d req served session) :=
  decidable_of_iff
    (session.endedAt = none ∧ d.now < session.expiresAt ∧
      req.user.map (·.id) = some session.actorId ∧
      ∃ target ∈ d.users, target.id = session.targetUserId ∧
        served.user.map (·.id) = some target.id ∧
          ∀ actor ∈ d.users, actor.id = session.actorId → Within actor target)
    ⟨fun h => ⟨h.1, h.2.1, h.2.2.1, h.2.2.2⟩,
      fun h => ⟨h.unended, h.unexpired, h.owned, h.target⟩⟩

/-- An administrator and a user of a company, and an approval to impersonate the user. -/
def sampleImpersonation : Directory :=
  { sampleDirectory [sampleUser "admin-1" .tenantAdmin (some "acme"),
      sampleUser "user-1" .client (some "acme")] with
    approvals :=
      [{ id := "approval-1"
         companyId := some "acme"
         actionType := "IMPERSONATE_USER"
         resourceId := some "user-1"
         reason := "support"
         status := .approved
         requestedById := "admin-1"
         firstApprovedById := some "admin-2"
         secondApprovedById := some "admin-3"
         rejectedById := none
         executedAt := none
         expiresAt := none }] }

def sampleStart : DirectoryRequest :=
  .governance (.startImpersonation "user-1" "approval-1" none none (sampleActor "admin-1"))

/-- A request of the administrator under the session that begins there. -/
def sampleGuarded : GuardedRequest where
  isPublic := false
  user := some (sampleActor "admin-1")
  impersonationId := some (sampleUuid 0)
  companyContext := none
  paramCompanyId := none

def servedUnderSession (d : Directory) (good : ServedRequest → ImpersonationSession → Bool) : Bool :=
  (tenantGuard d sampleGuarded).any fun served => served.session.any fun session =>
    good served session

theorem exists_of_servedUnderSession {d : Directory}
    {good : ServedRequest → ImpersonationSession → Bool} (h : servedUnderSession d good = true) :
    ∃ served session, tenantGuard d sampleGuarded = some served ∧
      served.session = some session ∧ good served session = true := by
  obtain ⟨served, hserved, hany⟩ := (Option.any_eq_true _ _).mp h
  obtain ⟨session, hsession, hgood⟩ := (Option.any_eq_true _ _).mp hany
  exact ⟨served, session, hserved, hsession, hgood⟩

theorem impersonation_within_authority_served : ∃ d served session,
    tenantGuard d sampleGuarded = some served ∧ served.session = some session ∧
      Honoured d sampleGuarded served session := by
  have hplay : ((directorySystem sampleUuid).play (fun _ _ => true)
      (fun op d => decide (KeepsWithin op d)) ⟨sampleImpersonation, []⟩
      [.start sampleStart, .run 0, .run 0, .run 0, .run 0]).any
        (fun c => servedUnderSession c.shared fun _ _ => true) = true := by
    decide
  obtain ⟨c, hrun, hcheck⟩ := System.exists_run_of_play (fun _ _ _ => trivial)
    (fun _ _ h => of_decide_eq_true h) hplay
  obtain ⟨served, session, hserved, hsession, -⟩ := exists_of_servedUnderSession hcheck
  exact ⟨c.shared, served, session, hserved, hsession,
    impersonation_within_authority rfl hrun (fun _ h => absurd h List.not_mem_nil) hserved hsession⟩

/-- The target moves to another company while the session is open. -/
theorem moved_target_served : ¬ ∀ (c₀ c : Config Directory DirectoryOp) (req : GuardedRequest)
    (served : ServedRequest) (session : ImpersonationSession), c₀.threads = [] →
    (directorySystem sampleUuid).Run (fun _ _ => True) c₀ c → SessionsWithin c₀.shared →
      tenantGuard c.shared req = some served → served.session = some session →
        Honoured c.shared req served session := by
  intro hall
  have hplay : ((directorySystem sampleUuid).play (fun _ _ => true) (fun _ _ => true)
      ⟨sampleImpersonation, []⟩
      [.start sampleStart, .run 0, .run 0, .run 0, .run 0,
        .start (.assignUserCompany "user-1" (some "globex")), .run 1, .run 1, .run 1, .run 1]).any
        (fun c => servedUnderSession c.shared fun served session =>
          !decide (Honoured c.shared sampleGuarded served session)) = true := by
    decide
  obtain ⟨c, hrun, hcheck⟩ := System.exists_run_of_play (fun _ _ _ => trivial)
    (fun _ _ _ => trivial) hplay
  obtain ⟨served, session, hserved, hsession, hgood⟩ := exists_of_servedUnderSession hcheck
  have hhonoured := hall _ c sampleGuarded served session rfl hrun
    (fun _ h => absurd h List.not_mem_nil) hserved hsession
  simp [hhonoured] at hgood

end Samples
end FieldserviceIT.Admin
