import FieldserviceIT.Lib.Interleaving
import FieldserviceIT.Lib.Protocols
import FieldserviceIT.Lib.Tables

/-!
The cleanup of abandoned tenants: a query for candidates, an update of their users and an update of
the companies. Beside it users of the tenants log in and verify their addresses, and tickets and
assets are created; how these are admitted is not read here, only what they look up and write. Any
of the three statements may fail; a query that fails finds nothing.
-/

namespace FieldserviceIT.Admin.Cleanup

open Lib

structure Company where
  id : String
  isActive : Bool
  deletedAt : Option Nat
  createdAt : Nat

structure User where
  id : String
  companyId : Option String
  isActive : Bool
  deletedAt : Option Nat
  lastLoginAt : Option Nat
  emailVerified : Bool
  authVersion : Nat

/-- A ticket or an asset. -/
structure Belonging where
  companyId : Option String
  deletedAt : Option Nat

/-- No statement reads `started`, the number of the next cleanup, `held`, the candidates that each
cleanup has selected and not settled yet, and `harmed`, the companies that were in use when they or
a user of theirs were removed. -/
structure TenantStore where
  companies : List Company
  users : List User
  tickets : List Belonging
  assets : List Belonging
  now : Nat
  started : Nat
  held : List (Nat × String)
  harmed : List String

inductive CleanupStep where
  | query
  | users
  | companies
  deriving DecidableEq

/-- The updates of a cleanup carry its number. -/
inductive TenantOp where
  | read
  | select (dryRun failed : Bool)
  | removeUsers (cleanup : Nat) (ids : List String)
  | removeCompanies (cleanup : Nat) (ids : List String)
  | failUsers (cleanup : Nat) (ids : List String)
  | failCompanies (cleanup : Nat) (ids : List String)
  | login (userId : String)
  | verify (userId : String)
  | createTicket (companyId : Option String)
  | createAsset (companyId : Option String)

abbrev TenantProgram := Prog TenantStore TenantOp

section Statements

def User.isOf (id : String) (user : User) : Bool :=
  decide (user.companyId = some id)

def User.engaged (user : User) : Bool :=
  user.lastLoginAt.isSome || user.emailVerified

def Belonging.keeps (id : String) (row : Belonging) : Bool :=
  decide (row.companyId = some id) && row.deletedAt.isNone

def day : Nat := 86400000

def isCandidate (s : TenantStore) (company : Company) : Bool :=
  company.deletedAt.isNone && decide (company.createdAt + 30 * day < s.now) &&
    !s.tickets.any (Belonging.keeps company.id) && !s.assets.any (Belonging.keeps company.id) &&
      !s.users.any fun user => user.isOf company.id && user.deletedAt.isNone && user.engaged

def candidates (s : TenantStore) : List String :=
  ((s.companies.filter (isCandidate s)).take 100).map Company.id

/-- `.catch(() => [])` -/
def found (failed : Bool) (s : TenantStore) : List String :=
  if failed then [] else candidates s

/-- The company has a ticket, an asset or a user who has ever logged in or verified an address. -/
def inUse (s : TenantStore) (id : String) : Bool :=
  s.tickets.any (Belonging.keeps id) || s.assets.any (Belonging.keeps id) ||
    s.users.any fun user => user.isOf id && user.engaged

def User.removed (now : Nat) (user : User) : User :=
  { user with
    isActive := false
    deletedAt := some (user.deletedAt.getD now)
    authVersion := user.authVersion + 1 }

def Company.removed (now : Nat) (company : Company) : Company :=
  { company with
    isActive := false
    deletedAt := some now }

def removesUser (id : String) (s : TenantStore) : Bool :=
  s.users.any fun user => user.isOf id && (user.isActive || user.deletedAt.isNone)

def removesCompany (id : String) (s : TenantStore) : Bool :=
  s.companies.any fun company => decide (company.id = id) &&
    (company.isActive || company.deletedAt.isNone)

def release (cleanup : Nat) (held : List (Nat × String)) : List (Nat × String) :=
  held.filter fun entry => entry.1 ≠ cleanup

def execTenant (op : TenantOp) (s : TenantStore) : TenantStore :=
  match op with
  | .read => s
  | .select dryRun failed =>
    { s with
      started := s.started + 1
      held := if dryRun then s.held else (found failed s).map (s.started, ·) ++ s.held }
  | .removeUsers _ ids =>
    { s with
      users := updateWhere (fun user => user.companyId.any (ids.contains ·)) (User.removed s.now)
        s.users
      harmed := (ids.filter fun id => removesUser id s && inUse s id) ++ s.harmed }
  | .removeCompanies cleanup ids =>
    { s with
      companies := updateWhere (fun company => ids.contains company.id) (Company.removed s.now)
        s.companies
      held := release cleanup s.held
      harmed := (ids.filter fun id => removesCompany id s && inUse s id) ++ s.harmed }
  | .failUsers cleanup _ | .failCompanies cleanup _ => { s with held := release cleanup s.held }
  | .login userId =>
    { s with
      users := updateWhere (fun user => user.id = userId)
        (fun user => { user with lastLoginAt := some s.now }) s.users }
  | .verify userId =>
    { s with
      users := updateWhere (fun user => user.id = userId)
        (fun user => { user with emailVerified := true }) s.users }
  | .createTicket companyId => { s with tickets := ⟨companyId, none⟩ :: s.tickets }
  | .createAsset companyId => { s with assets := ⟨companyId, none⟩ :: s.assets }

end Statements

section Programs

def cleanupAbandonedTenants (dryRun : Bool) (fault : Option CleanupStep) : TenantProgram :=
  .step (.select dryRun (fault = some .query)) fun s =>
    let ids := found (fault = some .query) s
    if !dryRun && !ids.isEmpty then
      if fault = some .users then .step (.failUsers s.started ids) fun _ => .fail
      else
        .step (.removeUsers s.started ids) fun _ =>
          if fault = some .companies then .step (.failCompanies s.started ids) fun _ => .fail
          else .step (.removeCompanies s.started ids) fun _ => .done
    else .done

def scheduledCleanup (fault : Option CleanupStep) : TenantProgram :=
  cleanupAbandonedTenants false fault

def login (userId : String) : TenantProgram :=
  .step .read fun s =>
    if s.users.any fun user => decide (user.id = userId) && user.isActive then
      .step (.login userId) fun _ => .done
    else .fail

def verifyEmail (userId : String) : TenantProgram :=
  .step .read fun s =>
    if s.users.any fun user => decide (user.id = userId) then .step (.verify userId) fun _ => .done
    else .fail

inductive TenantRequest where
  | cleanupAbandonedTenants (dryRun : Bool) (fault : Option CleanupStep)
  | scheduledCleanup (fault : Option CleanupStep)
  | login (userId : String)
  | verifyEmail (userId : String)
  | createTicket (companyId : Option String)
  | createAsset (companyId : Option String)

def TenantRequest.handler : TenantRequest → TenantProgram
  | cleanupAbandonedTenants dryRun fault => Cleanup.cleanupAbandonedTenants dryRun fault
  | scheduledCleanup fault => Cleanup.scheduledCleanup fault
  | login userId => Cleanup.login userId
  | verifyEmail userId => Cleanup.verifyEmail userId
  | createTicket companyId => .step (.createTicket companyId) fun _ => .done
  | createAsset companyId => .step (.createAsset companyId) fun _ => .done

def tenantSystem : System TenantStore TenantOp TenantRequest where
  exec := execTenant
  tick s := { s with now := s.now + 1 }
  handler := TenantRequest.handler
  sendable _ _ := True

end Programs

/-!
Only abandoned tenants are removed. A cleanup holds the companies it has selected until its second
update; as long as nobody begins to use a company that is held, what was selected is still abandoned
when it is removed, and between the two updates the companies without users have a cleanup under way
that will remove them.
-/

section Law

/-- The company is active and has users, all of them deleted. -/
structure Stranded (s : TenantStore) (id : String) : Prop where
  active : ∃ company ∈ s.companies, company.id = id ∧ company.isActive = true ∧
    company.deletedAt = none
  peopled : ∃ user ∈ s.users, user.companyId = some id
  deleted : ∀ user ∈ s.users, user.companyId = some id → user.deletedAt.isSome = true

def Held (s : TenantStore) (id : String) : Prop :=
  ∃ cleanup, (cleanup, id) ∈ s.held

/-- Nobody begins to use a company that a cleanup holds, no candidate has a deleted user who was
there before, and the second update does not fail where it has users to follow. -/
def Clear : TenantOp → TenantStore → Prop
  | .select _ failed, s => ∀ id ∈ found failed s, ∀ user ∈ s.users, user.companyId = some id →
      user.deletedAt.isSome = true → user.engaged = false
  | .failCompanies _ ids, s => ∀ id ∈ ids, ∀ company ∈ s.companies, company.id = id →
      company.isActive = true → company.deletedAt = none →
        ∀ user ∈ s.users, user.companyId ≠ some id
  | .login userId, s | .verify userId, s => ∀ user ∈ s.users, user.id = userId →
      ∀ id, user.companyId = some id → ¬ Held s id
  | .createTicket companyId, s | .createAsset companyId, s =>
    ∀ id, companyId = some id → ¬ Held s id
  | .read, _ | .removeUsers .., _ | .removeCompanies .., _ | .failUsers .., _ => True

def TenantOp.settles (id : String) : TenantOp → Prop
  | .removeCompanies _ ids | .failCompanies _ ids => id ∈ ids
  | .read | .select .. | .removeUsers .. | .failUsers .. | .login _ | .verify _ | .createTicket _
  | .createAsset _ => False

end Law

section Phases

inductive Phase where
  | idle
  | selected (cleanup : Nat) (ids : List String)
  | emptied (cleanup : Nat) (ids : List String)

def Phase.cleanup : Phase → Option Nat
  | idle => none
  | selected cleanup _ | emptied cleanup _ => some cleanup

def cleaning : Phase → TenantOp → TenantStore → Option Phase
  | .idle, .select dryRun failed, s =>
    if !dryRun && !(found failed s).isEmpty then some (.selected s.started (found failed s))
    else some .idle
  | .idle, .removeUsers .., _ | .idle, .removeCompanies .., _ | .idle, .failUsers .., _
  | .idle, .failCompanies .., _ => none
  | .idle, _, _ => some .idle
  | .selected cleanup ids, .removeUsers cleanup' ids', _ =>
    if cleanup' = cleanup ∧ ids' = ids then some (.emptied cleanup ids) else none
  | .selected cleanup ids, .failUsers cleanup' ids', _
  | .emptied cleanup ids, .removeCompanies cleanup' ids', _
  | .emptied cleanup ids, .failCompanies cleanup' ids', _ =>
    if cleanup' = cleanup ∧ ids' = ids then some .idle else none
  | _, _, _ => none

def Ended (phase : Phase) : Prop :=
  phase = .idle

/-- What a statement does to the phase of its program. -/
inductive Moves (s : TenantStore) : Phase → TenantOp → Phase → Prop
  | read : Moves s .idle .read .idle
  | login (userId : String) : Moves s .idle (.login userId) .idle
  | verify (userId : String) : Moves s .idle (.verify userId) .idle
  | createTicket (companyId : Option String) : Moves s .idle (.createTicket companyId) .idle
  | createAsset (companyId : Option String) : Moves s .idle (.createAsset companyId) .idle
  | preview (dryRun failed : Bool) : Moves s .idle (.select dryRun failed) .idle
  | select (failed : Bool) :
      Moves s .idle (.select false failed) (.selected s.started (found failed s))
  | removeUsers (cleanup : Nat) (ids : List String) :
      Moves s (.selected cleanup ids) (.removeUsers cleanup ids) (.emptied cleanup ids)
  | failUsers (cleanup : Nat) (ids : List String) :
      Moves s (.selected cleanup ids) (.failUsers cleanup ids) .idle
  | removeCompanies (cleanup : Nat) (ids : List String) :
      Moves s (.emptied cleanup ids) (.removeCompanies cleanup ids) .idle
  | failCompanies (cleanup : Nat) (ids : List String) :
      Moves s (.emptied cleanup ids) (.failCompanies cleanup ids) .idle

variable {s : TenantStore} {phase phase' other : Phase} {op : TenantOp}

theorem moves_of_cleaning (h : cleaning phase op s = some phase') : Moves s phase op phase' := by
  cases phase with
  | idle =>
    cases op with
    | read => exact Option.some.inj h ▸ .read
    | login userId => exact Option.some.inj h ▸ .login userId
    | verify userId => exact Option.some.inj h ▸ .verify userId
    | createTicket companyId => exact Option.some.inj h ▸ .createTicket companyId
    | createAsset companyId => exact Option.some.inj h ▸ .createAsset companyId
    | select dryRun failed =>
      rw [cleaning] at h
      split at h
      next hfound =>
        rw [Bool.and_eq_true, Bool.not_eq_true'] at hfound
        obtain rfl := hfound.1
        exact Option.some.inj h ▸ .select failed
      next => exact Option.some.inj h ▸ .preview dryRun failed
    | _ => cases h
  | selected cleanup ids =>
    cases op with
    | removeUsers cleanup' ids' =>
      obtain ⟨⟨rfl, rfl⟩, heq⟩ := Option.ite_none_right_eq_some.mp h
      exact Option.some.inj heq ▸ .removeUsers cleanup' ids'
    | failUsers cleanup' ids' =>
      obtain ⟨⟨rfl, rfl⟩, heq⟩ := Option.ite_none_right_eq_some.mp h
      exact Option.some.inj heq ▸ .failUsers cleanup' ids'
    | _ => cases h
  | emptied cleanup ids =>
    cases op with
    | removeCompanies cleanup' ids' =>
      obtain ⟨⟨rfl, rfl⟩, heq⟩ := Option.ite_none_right_eq_some.mp h
      exact Option.some.inj heq ▸ .removeCompanies cleanup' ids'
    | failCompanies cleanup' ids' =>
      obtain ⟨⟨rfl, rfl⟩, heq⟩ := Option.ite_none_right_eq_some.mp h
      exact Option.some.inj heq ▸ .failCompanies cleanup' ids'
    | _ => cases h

theorem conforms_cleanup (dryRun : Bool) (fault : Option CleanupStep) :
    (cleanupAbandonedTenants dryRun fault).Conforms Clear cleaning Ended .idle := by
  intro s _
  rw [cleaning]
  by_cases hfound : (!dryRun && !(found (fault = some .query) s).isEmpty) = true
  · refine ⟨_, if_pos hfound, ?_⟩
    dsimp only
    rw [if_pos hfound]
    split
    · exact fun _ _ => ⟨.idle, if_pos ⟨rfl, rfl⟩, rfl⟩
    · refine fun s' _ => ⟨_, if_pos ⟨rfl, rfl⟩, ?_⟩
      beta_reduce
      split
      · exact fun _ _ => ⟨.idle, if_pos ⟨rfl, rfl⟩, rfl⟩
      · exact fun _ _ => ⟨.idle, if_pos ⟨rfl, rfl⟩, rfl⟩
  · refine ⟨_, if_neg hfound, ?_⟩
    dsimp only
    rw [if_neg hfound]
    exact rfl

theorem conforms_handler (request : TenantRequest) :
    (request.handler).Conforms Clear cleaning Ended .idle := by
  cases request with
  | cleanupAbandonedTenants dryRun fault => exact conforms_cleanup dryRun fault
  | scheduledCleanup fault => exact conforms_cleanup false fault
  | login userId | verifyEmail userId =>
    refine fun s _ => ⟨.idle, rfl, ?_⟩
    beta_reduce
    split
    · exact fun _ _ => ⟨.idle, rfl, rfl⟩
    · exact rfl
  | createTicket companyId | createAsset companyId => exact fun _ _ => ⟨.idle, rfl, rfl⟩

def blank : TenantStore :=
  ⟨[], [], [], [], 0, 0, [], []⟩

theorem clear_blank (op : TenantOp) : Clear op blank := by
  have hheld : ∀ id, ¬ Held blank id := by
    rintro id ⟨cleanup, hentry⟩
    exact absurd hentry List.not_mem_nil
  cases op with
  | select dryRun failed => exact fun id _ user huser => absurd huser List.not_mem_nil
  | failCompanies cleanup ids => exact fun id _ company hcompany => absurd hcompany List.not_mem_nil
  | login userId | verify userId => exact fun user huser => absurd huser List.not_mem_nil
  | createTicket companyId | createAsset companyId => exact fun id _ => hheld id
  | read | removeUsers | removeCompanies | failUsers => trivial

end Phases

section Uses

variable {s : TenantStore} {id : String}

theorem any_users {p : User → Bool} {change : User → User}
    (h : ∀ user ∈ s.users, p user = true →
      ((change user).isOf id && (change user).engaged) = (user.isOf id && user.engaged)) :
    (updateWhere p change s.users).any (fun user => user.isOf id && user.engaged) =
      s.users.any fun user => user.isOf id && user.engaged := by
  have hmap : (updateWhere p change s.users).map (fun user => user.isOf id && user.engaged) =
      s.users.map fun user => user.isOf id && user.engaged := map_updateWhere_congr h
  have hany : ∀ users : List User, users.any (fun user => user.isOf id && user.engaged) =
      (users.map fun user => user.isOf id && user.engaged).any fun engaged => engaged := by
    intro users
    rw [List.any_map]
    rfl
  rw [hany, hmap, ← hany]

theorem inUse_updateWhere {p : User → Bool} {change : User → User}
    (h : ∀ user ∈ s.users, p user = true →
      ((change user).isOf id && (change user).engaged) = (user.isOf id && user.engaged)) :
    inUse { s with users := updateWhere p change s.users } id = inUse s id := by
  rw [inUse, inUse, any_users h]

theorem isOf_eq_false {user : User} (h : user.companyId ≠ some id) : user.isOf id = false :=
  decide_eq_false h

theorem inUse_candidate {company : Company} (hcandidate : isCandidate s company = true)
    (hdeleted : ∀ user ∈ s.users, user.companyId = some company.id →
      user.deletedAt.isSome = true → user.engaged = false) : inUse s company.id = false := by
  simp only [isCandidate, Bool.and_eq_true, Bool.not_eq_true'] at hcandidate
  obtain ⟨⟨⟨-, htickets⟩, hassets⟩, husers⟩ := hcandidate
  rw [inUse, htickets, hassets, Bool.false_or, Bool.false_or, List.any_eq_false]
  intro user huser hengaged
  rw [Bool.and_eq_true] at hengaged
  have hcompany : user.companyId = some company.id := of_decide_eq_true hengaged.1
  cases hdeletedAt : user.deletedAt with
  | some date =>
    have hnot := hdeleted user huser hcompany (by rw [hdeletedAt]; rfl)
    rw [hnot] at hengaged
    exact Bool.noConfusion hengaged.2
  | none =>
    refine List.any_eq_false.mp husers user huser ?_
    rw [Bool.and_eq_true, Bool.and_eq_true, hdeletedAt]
    exact ⟨⟨hengaged.1, rfl⟩, hengaged.2⟩

theorem inUse_found {dryRun failed : Bool} (hclear : Clear (.select dryRun failed) s)
    (hid : id ∈ found failed s) : inUse s id = false := by
  have hdeleted := hclear id hid
  rw [found] at hid
  split at hid
  · exact absurd hid List.not_mem_nil
  · obtain ⟨company, hcompany, rfl⟩ := List.mem_map.mp hid
    exact inUse_candidate (List.mem_filter.mp (List.mem_of_mem_take hcompany)).2 hdeleted

end Uses

section Invariant

/-- What is held is abandoned, and nothing else has been removed. -/
structure Kept (s : TenantStore) : Prop where
  abandoned : ∀ entry ∈ s.held, inUse s entry.2 = false
  below : ∀ entry ∈ s.held, entry.1 < s.started
  harmless : s.harmed = []

def Fits (s : TenantStore) : Phase → Prop
  | .idle => True
  | .selected cleanup ids | .emptied cleanup ids =>
    cleanup < s.started ∧ ∀ id ∈ ids, (cleanup, id) ∈ s.held

def Apart (phase other : Phase) : Prop :=
  ∀ cleanup, phase.cleanup = some cleanup → other.cleanup ≠ some cleanup

variable {s s' : TenantStore} {phase phase' other : Phase} {op : TenantOp}

theorem Fits.onward (hfits : Fits s phase) (hstarted : s.started ≤ s'.started)
    (hheld : ∀ entry ∈ s.held, phase.cleanup = some entry.1 → entry ∈ s'.held) : Fits s' phase := by
  cases phase with
  | idle => trivial
  | selected cleanup ids | emptied cleanup ids =>
    exact ⟨Nat.lt_of_lt_of_le hfits.1 hstarted, fun id hid => hheld _ (hfits.2 id hid) rfl⟩

theorem Kept.fewer (hkept : Kept s) (huse : ∀ id, inUse s' id = inUse s id)
    (hheld : ∀ entry ∈ s'.held, entry ∈ s.held) (hstarted : s'.started = s.started)
    (hharmed : s'.harmed = []) : Kept s' := by
  refine ⟨fun entry hentry => ?_, fun entry hentry => ?_, hharmed⟩
  · rw [huse]
    exact hkept.abandoned entry (hheld entry hentry)
  · rw [hstarted]
    exact hkept.below entry (hheld entry hentry)

theorem Kept.begin (hkept : Kept s) (hheld : s'.held = s.held) (hstarted : s'.started = s.started)
    (hharmed : s'.harmed = s.harmed) (huse : ∀ id, Held s id → inUse s' id = inUse s id) :
    Kept s' := by
  refine ⟨fun entry hentry => ?_, fun entry hentry => ?_, hharmed.trans hkept.harmless⟩
  · rw [hheld] at hentry
    rw [huse entry.2 ⟨entry.1, hentry⟩]
    exact hkept.abandoned entry hentry
  · rw [hheld] at hentry
    exact hstarted ▸ hkept.below entry hentry

theorem release_subset {cleanup : Nat} {held : List (Nat × String)} :
    ∀ entry ∈ release cleanup held, entry ∈ held :=
  fun _ hentry => List.mem_of_mem_filter hentry

theorem mem_release {cleanup : Nat} {held : List (Nat × String)} {entry : Nat × String}
    (hentry : entry ∈ held) (hne : entry.1 ≠ cleanup) : entry ∈ release cleanup held :=
  List.mem_filter.mpr ⟨hentry, decide_eq_true hne⟩

theorem harmed_nil (hkept : Kept s) {cleanup : Nat} {ids : List String} {removes : String → Bool}
    (hids : ∀ id ∈ ids, (cleanup, id) ∈ s.held) :
    (ids.filter fun id => removes id && inUse s id) ++ s.harmed = [] := by
  rw [hkept.harmless, List.append_nil, List.filter_eq_nil_iff]
  intro id hid
  rw [hkept.abandoned _ (hids id hid), Bool.and_false]
  exact Bool.false_ne_true

theorem kept_select {dryRun failed : Bool} (hkept : Kept s)
    (hclear : Clear (.select dryRun failed) s) : Kept (execTenant (.select dryRun failed) s) := by
  have hcases : ∀ entry ∈ (execTenant (.select dryRun failed) s).held,
      entry ∈ s.held ∨ entry.1 = s.started ∧ entry.2 ∈ found failed s := by
    intro entry hentry
    rw [execTenant] at hentry
    dsimp only at hentry
    split at hentry
    · exact .inl hentry
    · obtain hnew | hold := List.mem_append.mp hentry
      · obtain ⟨id, hid, rfl⟩ := List.mem_map.mp hnew
        exact .inr ⟨rfl, hid⟩
      · exact .inl hold
  refine ⟨fun entry hentry => ?_, fun entry hentry => ?_, hkept.harmless⟩
  · change inUse s entry.2 = false
    obtain hold | ⟨-, hid⟩ := hcases entry hentry
    · exact hkept.abandoned entry hold
    · exact inUse_found hclear hid
  · change entry.1 < s.started + 1
    obtain hold | ⟨hnumber, -⟩ := hcases entry hentry
    · have hbelow := hkept.below entry hold
      omega
    · omega

theorem kept_removeUsers {cleanup : Nat} {ids : List String} (hkept : Kept s)
    (hids : ∀ id ∈ ids, (cleanup, id) ∈ s.held) :
    Kept (execTenant (.removeUsers cleanup ids) s) :=
  hkept.fewer (fun _ => inUse_updateWhere fun _ _ _ => rfl) (fun _ hentry => hentry) rfl
    (harmed_nil hkept hids)

theorem kept_removeCompanies {cleanup : Nat} {ids : List String} (hkept : Kept s)
    (hids : ∀ id ∈ ids, (cleanup, id) ∈ s.held) :
    Kept (execTenant (.removeCompanies cleanup ids) s) :=
  hkept.fewer (fun _ => rfl) release_subset rfl (harmed_nil hkept hids)

theorem kept_engage {userId : String} {change : User → User} (hkept : Kept s)
    (hcompany : ∀ user, (change user).companyId = user.companyId)
    (hclear : ∀ user ∈ s.users, user.id = userId → ∀ id, user.companyId = some id → ¬ Held s id) :
    Kept { s with users := updateWhere (fun user => user.id = userId) change s.users } := by
  refine hkept.begin rfl rfl rfl fun id hheld => inUse_updateWhere fun user huser hid => ?_
  have hother : user.companyId ≠ some id := fun heq =>
    hclear user huser (of_decide_eq_true hid) id heq hheld
  have hother' : (change user).companyId ≠ some id := hcompany user ▸ hother
  rw [isOf_eq_false hother, isOf_eq_false hother', Bool.false_and, Bool.false_and]

theorem keeps_cons {companyId : Option String} {rows : List Belonging} {id : String}
    (h : companyId ≠ some id) :
    (⟨companyId, none⟩ :: rows).any (Belonging.keeps id) = rows.any (Belonging.keeps id) := by
  rw [List.any_cons, Belonging.keeps, decide_eq_false h, Bool.false_and, Bool.false_or]

theorem kept_createTicket {companyId : Option String} (hkept : Kept s)
    (hclear : Clear (.createTicket companyId) s) :
    Kept (execTenant (.createTicket companyId) s) := by
  refine hkept.begin rfl rfl rfl fun id hheld => ?_
  rw [inUse, inUse, execTenant, keeps_cons fun heq => hclear id heq hheld]

theorem kept_createAsset {companyId : Option String} (hkept : Kept s)
    (hclear : Clear (.createAsset companyId) s) : Kept (execTenant (.createAsset companyId) s) := by
  refine hkept.begin rfl rfl rfl fun id hheld => ?_
  rw [inUse, inUse, execTenant, keeps_cons fun heq => hclear id heq hheld]

theorem keeps_law (hkept : Kept s) (hclear : Clear op s) (hfits : Fits s phase)
    (hmoves : Moves s phase op phase') : Kept (execTenant op s) ∧ Fits (execTenant op s) phase' := by
  cases hmoves with
  | read => exact ⟨hkept, trivial⟩
  | login userId => exact ⟨kept_engage hkept (fun _ => rfl) hclear, trivial⟩
  | verify userId => exact ⟨kept_engage hkept (fun _ => rfl) hclear, trivial⟩
  | createTicket companyId => exact ⟨kept_createTicket hkept hclear, trivial⟩
  | createAsset companyId => exact ⟨kept_createAsset hkept hclear, trivial⟩
  | preview dryRun failed => exact ⟨kept_select hkept hclear, trivial⟩
  | select failed =>
    refine ⟨kept_select hkept hclear, Nat.lt_succ_self _, fun id hid => ?_⟩
    exact List.mem_append_left _ (List.mem_map.mpr ⟨id, hid, rfl⟩)
  | removeUsers cleanup ids => exact ⟨kept_removeUsers hkept hfits.2, hfits⟩
  | removeCompanies cleanup ids => exact ⟨kept_removeCompanies hkept hfits.2, trivial⟩
  | failUsers cleanup ids | failCompanies cleanup ids =>
    exact ⟨hkept.fewer (fun _ => rfl) release_subset rfl hkept.harmless, trivial⟩

theorem Fits.owned (hfits : Fits s phase) {cleanup : Nat} (hphase : phase.cleanup = some cleanup) :
    cleanup < s.started := by
  cases phase with
  | idle => cases hphase
  | selected cleanup' ids | emptied cleanup' ids => exact Option.some.inj hphase ▸ hfits.1

theorem Fits.release {cleanup : Nat} (hfits : Fits s phase) (hne : phase.cleanup ≠ some cleanup)
    (hstarted : s'.started = s.started) (hheld : s'.held = Cleanup.release cleanup s.held) :
    Fits s' phase := by
  refine hfits.onward (Nat.le_of_eq hstarted.symm) fun entry hentry hphase => ?_
  rw [hheld]
  exact mem_release hentry fun heq => hne (heq ▸ hphase)

theorem keeps_others (hmoves : Moves s phase op phase') (hother : Fits s other)
    (hapart : Apart phase other) : Fits (execTenant op s) other ∧ Apart phase' other := by
  cases hmoves with
  | read => exact ⟨hother, hapart⟩
  | login | verify | createTicket | createAsset =>
    exact ⟨hother.onward (Nat.le_refl _) fun _ hentry _ => hentry, hapart⟩
  | preview dryRun failed =>
    refine ⟨hother.onward (Nat.le_succ _) fun entry hentry _ => ?_, hapart⟩
    cases dryRun with
    | true => exact hentry
    | false => exact List.mem_append_right _ hentry
  | select failed =>
    refine ⟨hother.onward (Nat.le_succ _) fun entry hentry _ => List.mem_append_right _ hentry,
      fun cleanup hphase hsame => ?_⟩
    obtain rfl := Option.some.inj hphase
    exact Nat.lt_irrefl _ (hother.owned hsame)
  | removeUsers cleanup ids =>
    exact ⟨hother.onward (Nat.le_refl _) fun _ hentry _ => hentry, hapart⟩
  | removeCompanies cleanup ids | failUsers cleanup ids | failCompanies cleanup ids =>
    exact ⟨hother.release (hapart cleanup rfl) rfl rfl, fun _ hphase => by cases hphase⟩

theorem separate_tenants :
    Separate tenantSystem Clear cleaning Ended .idle Kept Fits Apart where
  handler _ req _ := conforms_handler req
  symm h cleanup hphase hother := h cleanup hother hphase
  apart _ _ _ hidle := by cases hidle
  start _ _ := trivial
  exec _ _ _ _ hkept hclear hfits hadvance :=
    keeps_law hkept hclear hfits (moves_of_cleaning hadvance)
  frame _ _ _ _ _ _ _ _ hadvance hother hapart :=
    keeps_others (moves_of_cleaning hadvance) hother hapart
  tick s hkept := by
    refine ⟨hkept.fewer (fun _ => rfl) (fun _ hentry => hentry) rfl hkept.harmless,
      fun phase hfits => ?_⟩
    exact hfits.onward (Nat.le_refl _) fun _ hentry _ => hentry

end Invariant

section Runs

/-- The cleanup is between its two updates, and the company is one of its own. -/
def Phase.owns : Phase → String → Prop
  | emptied _ ids, id => id ∈ ids
  | idle, _ | selected .., _ => False

variable {s : TenantStore} {phase phase' : Phase} {op : TenantOp} {id : String}

theorem Stranded.of_users {p : User → Bool} {change : User → User}
    (hcompany : ∀ user, (change user).companyId = user.companyId)
    (hdeletedAt : ∀ user ∈ s.users, p user = true → user.companyId = some id →
      (change user).deletedAt = user.deletedAt)
    (h : Stranded { s with users := updateWhere p change s.users } id) : Stranded s id := by
  have hmem : ∀ user ∈ s.users, (if p user then change user else user) ∈
      updateWhere p change s.users := fun user huser => mem_updateWhere.mpr ⟨user, huser, rfl⟩
  have hsame : ∀ user, (if p user then change user else user).companyId = user.companyId := by
    intro user
    split
    · exact hcompany user
    · rfl
  refine ⟨h.active, ?_, fun user huser hid => ?_⟩
  · obtain ⟨user', huser', hid⟩ := h.peopled
    obtain ⟨user, huser, rfl⟩ := mem_updateWhere.mp huser'
    exact ⟨user, huser, (hsame user).symm.trans hid⟩
  · have hdeleted := h.deleted _ (hmem user huser) ((hsame user).trans hid)
    split at hdeleted
    next hp => exact hdeletedAt user huser hp hid ▸ hdeleted
    next => exact hdeleted

theorem Stranded.of_removeUsers {cleanup : Nat} {ids : List String} (hid : id ∉ ids)
    (h : Stranded (execTenant (.removeUsers cleanup ids) s) id) : Stranded s id := by
  refine @Stranded.of_users s id _ (User.removed s.now) (fun _ => rfl) ?_
    ⟨h.active, h.peopled, h.deleted⟩
  intro user _ hp hcompany
  rw [hcompany, Option.any_some, List.contains_iff_mem] at hp
  exact absurd hp hid

theorem Stranded.of_removeCompanies {cleanup : Nat} {ids : List String}
    (h : Stranded (execTenant (.removeCompanies cleanup ids) s) id) : Stranded s id ∧ id ∉ ids := by
  obtain ⟨company', hcompany', hid, hactive, hdeletedAt⟩ := h.active
  obtain ⟨company, hcompany, rfl⟩ := mem_updateWhere.mp hcompany'
  split at hid
  next hp =>
    rw [if_pos hp] at hactive
    exact Bool.noConfusion hactive
  next hp =>
    rw [if_neg hp] at hactive hdeletedAt
    refine ⟨⟨⟨company, hcompany, hid, hactive, hdeletedAt⟩, h.peopled, h.deleted⟩, ?_⟩
    rw [← hid]
    exact fun hmem => hp (List.contains_iff_mem.mpr hmem)

theorem stranded_attended (hclear : Clear op s) (hmoves : Moves s phase op phase')
    (h : Stranded (execTenant op s) id) : phase'.owns id ∨ Stranded s id ∧ ¬ phase.owns id := by
  cases hmoves with
  | read => exact .inr ⟨h, fun howns => howns⟩
  | createTicket | createAsset | preview | select | failUsers =>
    exact .inr ⟨⟨h.active, h.peopled, h.deleted⟩, fun howns => howns⟩
  | login userId =>
    refine .inr ⟨@Stranded.of_users s id _ (fun user => { user with lastLoginAt := some s.now })
      (fun _ => rfl) (fun _ _ _ _ => rfl) h, fun howns => howns⟩
  | verify userId =>
    refine .inr ⟨@Stranded.of_users s id _ (fun user => { user with emailVerified := true })
      (fun _ => rfl) (fun _ _ _ _ => rfl) h, fun howns => howns⟩
  | removeUsers cleanup ids =>
    by_cases hid : id ∈ ids
    · exact .inl hid
    · exact .inr ⟨h.of_removeUsers hid, fun howns => howns⟩
  | removeCompanies cleanup ids => exact .inr h.of_removeCompanies
  | failCompanies cleanup ids =>
    refine .inr ⟨⟨h.active, h.peopled, h.deleted⟩, fun hid => ?_⟩
    obtain ⟨company, hcompany, hcompanyId, hactive, hdeletedAt⟩ := h.active
    obtain ⟨user, huser, huserId⟩ := h.peopled
    exact hclear id hid company hcompany hcompanyId hactive hdeletedAt user huser huserId

theorem attended_tenants : Attended tenantSystem Clear cleaning Kept Fits Stranded Phase.owns where
  exec _ _ _ _ _ hclear _ hadvance _ := stranded_attended hclear (moves_of_cleaning hadvance)
  tick _ _ h := ⟨h.active, h.peopled, h.deleted⟩

theorem settles_of_owns {p : TenantProgram} (hconforms : p.Conforms Clear cleaning Ended phase)
    (howns : phase.owns id) : ∃ op next, p = .step op next ∧ op.settles id := by
  cases phase with
  | idle | selected => exact howns.elim
  | emptied cleanup ids =>
    cases p with
    | done => cases (hconforms : Phase.emptied cleanup ids = .idle)
    | fail => cases (hconforms : Phase.emptied cleanup ids = .idle)
    | step op next =>
      obtain ⟨phase', hadvance, -⟩ := hconforms blank (clear_blank op)
      refine ⟨op, next, rfl, ?_⟩
      cases moves_of_cleaning hadvance with
      | removeCompanies | failCompanies => exact howns

/-- Where no company that a cleanup holds begins to be used and its second update does not fail,
nothing that is in use is removed; and each active company without users that are not deleted has a
cleanup under way whose second update comes next. -/
theorem only_abandoned_when_clear {c₀ c : Config TenantStore TenantOp} (hidle : c₀.threads = [])
    (hheld : c₀.shared.held = []) (hharmed : c₀.shared.harmed = [])
    (hstranded : ∀ id, ¬ Stranded c₀.shared id) (hrun : tenantSystem.Run Clear c₀ c) :
    c.shared.harmed = [] ∧ ∀ id, Stranded c.shared id →
      ∃ op next, Prog.step op next ∈ c.threads ∧ op.settles id := by
  have hkept₀ : Kept c₀.shared := by
    refine ⟨?_, ?_, hharmed⟩
    · rw [hheld]
      exact fun _ hentry => absurd hentry List.not_mem_nil
    · rw [hheld]
      exact fun _ hentry => absurd hentry List.not_mem_nil
  have hnone : ∀ phase ∈ ([] : List Phase), Fits c₀.shared phase :=
    fun _ hphase => absurd hphase List.not_mem_nil
  obtain ⟨entries, hthreads, hconforms, ⟨hkept, -, -⟩, hattended⟩ :=
    (separate_tenants.attended attended_tenants).phased hidle hrun
      ⟨⟨hkept₀, hnone, by simp⟩, fun id h => absurd h (hstranded id)⟩
  refine ⟨hkept.harmless, fun id h => ?_⟩
  obtain ⟨phase, hphase, howns⟩ := hattended id h
  obtain ⟨⟨p, phase⟩, hentry, rfl⟩ := List.mem_map.mp hphase
  obtain ⟨op, next, hstep, hsettles⟩ := settles_of_owns (hconforms _ hentry) howns
  have hthread : p ∈ c.threads := hthreads ▸ List.mem_map_of_mem hentry
  exact ⟨op, next, (hstep : p = _) ▸ hthread, hsettles⟩

end Runs

section Samples

def sampleCompany : Company :=
  ⟨"acme", true, none, 0⟩

def sampleUser : User :=
  ⟨"ana", some "acme", true, none, none, false, 0⟩

def forgotten : Config TenantStore TenantOp :=
  ⟨⟨[sampleCompany], [sampleUser], [], [], 60 * day, 0, [], []⟩, []⟩

theorem not_stranded_forgotten (id : String) : ¬ Stranded forgotten.shared id := by
  intro h
  obtain ⟨user, huser, hid⟩ := h.peopled
  have hdeleted := h.deleted user huser hid
  obtain rfl := List.mem_singleton.mp huser
  exact Bool.noConfusion hdeleted

def isHeld (s : TenantStore) (companyId : Option String) : Bool :=
  companyId.any fun id => s.held.any fun entry => entry.2 = id

/-- `Clear`, as a test. -/
def isClear : TenantOp → TenantStore → Bool
  | .select _ failed, s => (found failed s).all fun id => s.users.all fun user =>
    !(user.isOf id && user.deletedAt.isSome && user.engaged)
  | .failCompanies _ ids, s => ids.all fun id => s.companies.all fun company =>
    !(decide (company.id = id) && company.isActive && company.deletedAt.isNone) ||
      s.users.all fun user => !user.isOf id
  | .login userId, s | .verify userId, s => s.users.all fun user =>
    !(decide (user.id = userId) && isHeld s user.companyId)
  | .createTicket companyId, s | .createAsset companyId, s => !isHeld s companyId
  | .read, _ | .removeUsers .., _ | .removeCompanies .., _ | .failUsers .., _ => true

theorem not_held_of_test {s : TenantStore} {companyId : Option String}
    (h : isHeld s companyId = false) (id : String) (hid : companyId = some id) : ¬ Held s id := by
  rintro ⟨cleanup, hentry⟩
  rw [isHeld, hid, Option.any_some, List.any_eq_false] at h
  exact h _ hentry (decide_eq_true rfl)

theorem clear_of_test {op : TenantOp} {s : TenantStore} (h : isClear op s = true) : Clear op s := by
  cases op with
  | select dryRun failed =>
    intro id hid user huser hcompany hdeleted
    have htest := List.all_eq_true.mp (List.all_eq_true.mp h id hid) user huser
    rw [User.isOf, decide_eq_true hcompany, hdeleted, Bool.true_and, Bool.true_and,
      Bool.not_eq_true'] at htest
    exact htest
  | failCompanies cleanup ids =>
    intro id hid company hcompany hcompanyId hactive hdeletedAt user huser hcompanyOf
    have htest := List.all_eq_true.mp (List.all_eq_true.mp h id hid) company hcompany
    rw [decide_eq_true hcompanyId, hactive, hdeletedAt] at htest
    have hnone := List.all_eq_true.mp htest user huser
    rw [User.isOf, decide_eq_true hcompanyOf] at hnone
    exact Bool.noConfusion hnone
  | login userId | verify userId =>
    intro user huser hid
    have htest := List.all_eq_true.mp h user huser
    rw [decide_eq_true hid, Bool.true_and, Bool.not_eq_true'] at htest
    exact not_held_of_test htest
  | createTicket companyId | createAsset companyId =>
    exact not_held_of_test (Bool.not_eq_true' _ ▸ h)
  | read | removeUsers | removeCompanies | failUsers => trivial

/-- A cleanup of a company nobody uses: the company and its user are gone. -/
theorem forgotten_removed : ∃ c : Config TenantStore TenantOp,
    (c.shared.harmed = [] ∧ ∀ id, Stranded c.shared id →
      ∃ op next, Prog.step op next ∈ c.threads ∧ op.settles id) ∧
    c.shared.companies.map Company.isActive = [false] ∧
      c.shared.users.map User.isActive = [false] := by
  have hplay : (tenantSystem.play (fun _ _ => true) isClear forgotten
      [.start (.scheduledCleanup none), .run 0, .run 0, .run 0]).any
        (fun c => decide (c.shared.companies.map Company.isActive = [false]) &&
          decide (c.shared.users.map User.isActive = [false])) = true := by
    decide
  obtain ⟨c, hrun, hcheck⟩ :=
    System.exists_run_of_play (fun _ _ _ => trivial) (fun _ _ => clear_of_test) hplay
  rw [Bool.and_eq_true, decide_eq_true_iff, decide_eq_true_iff] at hcheck
  exact ⟨c, only_abandoned_when_clear rfl rfl rfl not_stranded_forgotten hrun, hcheck⟩

/-- The user logs in after the company was selected, and both are removed all the same. -/
theorem customer_removed : ¬ ∀ c₀ c : Config TenantStore TenantOp, c₀.threads = [] →
    c₀.shared.held = [] → c₀.shared.harmed = [] → (∀ id, ¬ Stranded c₀.shared id) →
      tenantSystem.Run (fun _ _ => True) c₀ c →
        c.shared.harmed = [] ∧ ∀ id, Stranded c.shared id →
          ∃ op next, Prog.step op next ∈ c.threads ∧ op.settles id := by
  intro hall
  have hplay : (tenantSystem.play (fun _ _ => true) (fun _ _ => true) forgotten
      [.start (.scheduledCleanup none), .start (.login "ana"), .run 0, .run 1, .run 1,
        .run 0, .run 0]).any
        (fun c => decide (c.shared.harmed = ["acme", "acme"])) = true := by
    decide
  obtain ⟨c, hrun, hcheck⟩ :=
    System.exists_run_of_play (fun _ _ _ => trivial) (fun _ _ _ => trivial) hplay
  have hharmed := (hall forgotten c rfl rfl rfl not_stranded_forgotten hrun).1
  rw [of_decide_eq_true hcheck] at hharmed
  exact List.cons_ne_nil _ _ hharmed

end Samples
end FieldserviceIT.Admin.Cleanup
