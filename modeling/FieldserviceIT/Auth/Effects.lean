import FieldserviceIT.Auth.Discipline

/-!
What a statement can have done, read back from what is there afterwards: a row of
a user, a session, a signed token, an entry of the log. Invariants of the second
factor and of passwords are derived from this, not from the statements.
-/

namespace FieldserviceIT.Auth

open AuthState Common Lib

def Op.factorOwner : Op → Option String
  | .enableFactor userId _ | .consumeRecoveryCode userId _ _ | .disableFactor userId _
  | .replaceRecoveryCodes userId _ => some userId
  | _ => none

/-- What a statement leaves of the rows of users. -/
structure KeepsRow (op : Op) (change : UserRow → UserRow) : Prop where
  id : ∀ u, (change u).id = u.id
  factor : ∀ u, op.factorOwner ≠ some u.id → (change u).factor = u.factor
  epoch : ∀ u, u.passwordEpoch ≤ (change u).passwordEpoch

section Rows

variable {s : AuthState} {op : Op}

theorem keepsRow_self : KeepsRow op fun u => u :=
  ⟨fun _ => rfl, fun _ _ => rfl, fun _ => Nat.le_refl _⟩

theorem keepsRow_update {userId : String} {change : UserRow → UserRow}
    (hid : ∀ u, (change u).id = u.id)
    (hfactor : ∀ u, op.factorOwner ≠ some userId → (change u).factor = u.factor)
    (hepoch : ∀ u, u.passwordEpoch ≤ (change u).passwordEpoch) :
    KeepsRow op fun u => if u.id = userId then change u else u := by
  constructor
  · intro u
    split
    · exact hid u
    · rfl
  · intro u howner
    split
    · next h => exact hfactor u (h ▸ howner)
    · rfl
  · intro u
    split
    · exact hepoch u
    · exact Nat.le_refl _

theorem users_exec (E : Platform) (op : Op) (s : AuthState) :
    ∃ change, (exec E op s).users = s.users.map change ∧ KeepsRow op change := by
  have hself : ∀ {s' : AuthState}, s'.users = s.users →
      ∃ change, s'.users = s.users.map change ∧ KeepsRow op change := fun h =>
    ⟨_, h.trans (List.map_id' _).symm, keepsRow_self⟩
  cases op with
  | setPendingSecret userId | setResetToken userId | incrementAuthVersion userId =>
    exact ⟨_, rfl, keepsRow_update (fun _ => rfl) (fun _ _ => rfl) fun _ => Nat.le_refl _⟩
  | setPassword userId password clearsReset =>
    exact ⟨_, rfl, keepsRow_update (fun _ => rfl) (fun _ _ => rfl) fun _ => Nat.le_succ _⟩
  | enableFactor userId secret | consumeRecoveryCode userId remaining checked
  | disableFactor userId checked | replaceRecoveryCodes userId checked =>
    exact ⟨_, rfl, keepsRow_update (fun _ => rfl) (fun _ h => absurd rfl h) fun _ => Nat.le_refl _⟩
  | rotate sessionId userId presented expiresAt =>
    apply hself
    simp only [exec]
    split <;> rfl
  | recordRotation sessionId userId presented expiresAt =>
    apply hself
    simp only [exec]
    split <;> rfl
  | _ => exact hself rfl

theorem findUser_map {s' : AuthState} {change : UserRow → UserRow}
    (husers : s'.users = s.users.map change) (hid : ∀ u, (change u).id = u.id) (userId : String) :
    s'.findUser userId = (s.findUser userId).map change := by
  rw [findUser, findUser, husers, List.find?_map]
  congr 2
  funext u
  simp [hid]

theorem findUser_mem {userId : String} {user : UserRow} (h : s.findUser userId = some user) :
    user ∈ s.users :=
  List.mem_of_find?_eq_some h

end Rows

section Sessions

variable {E : Platform} {s : AuthState} {op : Op}

theorem sessions_exec {r' : SessionRow} (h : r' ∈ (exec E op s).sessions) :
    (∃ r ∈ s.sessions, r.id = r'.id ∧ r.userId = r'.userId ∧ r.origin = r'.origin) ∨
      ∃ mfaVerifiedAt expiresAt, op = .createSession r'.userId mfaVerifiedAt expiresAt r'.origin := by
  cases hop : op.writesToken with
  | false =>
    obtain ⟨r, hr, hid, huser, horigin, -⟩ := (quiet_exec E hop s).sessions r' h
    exact .inl ⟨r, hr, hid, huser, horigin⟩
  | true =>
    cases op with
    | createSession userId mfaVerifiedAt expiresAt origin =>
      simp only [exec] at h
      split at h
      · exact .inl ⟨r', h, rfl, rfl, rfl⟩
      · obtain rfl | h := List.mem_cons.mp h
        · exact .inr ⟨mfaVerifiedAt, expiresAt, rfl⟩
        · exact .inl ⟨r', h, rfl, rfl, rfl⟩
    | rotate sessionId userId presented expiresAt =>
      left
      simp only [exec] at h
      split at h
      · obtain ⟨r, hr, rfl⟩ := mem_updateSessions h
        refine ⟨r, hr, ?_⟩
        split
        · exact ⟨rfl, rfl, rfl⟩
        · exact ⟨rfl, rfl, rfl⟩
      · exact ⟨r', h, rfl, rfl, rfl⟩
    | _ => cases hop

theorem issued_exec {t : Jwt} (h : t ∈ (exec E op s).issued) :
    t ∈ s.issued ∨ (t.sid = none ∧ ∃ purpose, op = .signChallenge t.sub purpose t.origin) ∨
      ∃ sid authVersion, t.sid = some sid ∧ op = .signAccess t.sub sid authVersion t.origin := by
  cases op with
  | signChallenge userId purpose origin =>
    obtain rfl | h := List.mem_cons.mp h
    · exact .inr (.inl ⟨rfl, purpose, rfl⟩)
    · exact .inl h
  | signAccess userId sessionId authVersion origin =>
    obtain rfl | h := List.mem_cons.mp h
    · exact .inr (.inr ⟨sessionId, authVersion, rfl, rfl⟩)
    · exact .inl h
  | rotate sessionId userId presented expiresAt | recordRotation sessionId userId presented expiresAt =>
    left
    simp only [exec] at h
    split at h
    · exact h
    · exact h
  | _ => exact .inl h

end Sessions

section Log

variable {E : Platform} {s : AuthState} {op : Op}

def Event.Source (E : Platform) (op : Op) (s : AuthState) : Event → Prop
  | .passwordChecked userId epoch mfaEnabled _ => ∃ user ∈ s.users, user.id = userId ∧
      user.passwordEpoch = epoch ∧ user.factor.mfaEnabled = mfaEnabled
  | .factorPresented userId factor => ∃ user, s.findUser userId = some user ∧ user.factor = factor
  | .trustedLogin userId => op = .findTrustedUser userId
  | .factorChanged userId _ _ => op.factorOwner = some userId
  | .exchanged presented sessionId userId => (∃ expiresAt,
      op = .rotate sessionId userId presented expiresAt) ∧
        ∃ r ∈ s.sessions, s.rotates E sessionId userId presented r = true
  | .sessionsEnded userId epoch => op = .deleteSessions userId ∧
      ∃ user, s.findUser userId = some user ∧ user.passwordEpoch = epoch

theorem source_loginEvents {email password : String} {mfaCode : Option String} {e : Event}
    (h : e ∈ loginEvents E s email password mfaCode) : e.Source E op s := by
  rw [loginEvents] at h
  split at h
  · next user huser =>
      split at h
      · obtain rfl := List.mem_singleton.mp h
        exact ⟨user, List.mem_of_find?_eq_some huser, rfl, rfl, rfl⟩
      · exact absurd h List.not_mem_nil
  · exact absurd h List.not_mem_nil

theorem source_factorEvents {userId code : String} {e : Event} (h : e ∈ factorEvents E s userId code) :
    e.Source E op s := by
  rw [factorEvents] at h
  split at h
  · next user huser =>
      split at h
      · obtain rfl := List.mem_singleton.mp h
        exact ⟨user, huser, rfl⟩
      · exact absurd h List.not_mem_nil
  · exact absurd h List.not_mem_nil

theorem source_changeFactor {userId : String} {after : UserRow → Factor} {e : Event}
    (howner : op.factorOwner = some userId)
    (h : e ∈ ((s.findUser userId).toList.map fun u =>
      Event.factorChanged userId u.factor (after u)) ++ s.log) :
    e ∈ s.log ∨ e.Source E op s := by
  obtain h | h := List.mem_append.mp h
  · obtain ⟨user, -, rfl⟩ := List.mem_map.mp h
    exact .inr howner
  · exact .inl h

theorem log_exec {e : Event} (h : e ∈ (exec E op s).log) : e ∈ s.log ∨ e.Source E op s := by
  cases op with
  | findUserForLogin email password mfaCode =>
    obtain h | h := List.mem_append.mp h
    · exact .inr (source_loginEvents h)
    · exact .inl h
  | findTrustedUser userId =>
    obtain rfl | h := List.mem_cons.mp h
    · exact .inr rfl
    · exact .inl h
  | findFactor userId code =>
    obtain h | h := List.mem_append.mp h
    · exact .inr (source_factorEvents h)
    · exact .inl h
  | enableFactor userId secret | consumeRecoveryCode userId remaining checked
  | disableFactor userId checked | replaceRecoveryCodes userId checked =>
    simp only [exec, changeFactor] at h
    exact source_changeFactor rfl h
  | rotate sessionId userId presented expiresAt =>
    simp only [exec] at h
    split at h
    · next hmatch =>
        obtain rfl | h := List.mem_cons.mp h
        · rw [Bool.and_eq_true, List.any_eq_true] at hmatch
          exact .inr ⟨⟨expiresAt, rfl⟩, hmatch.1⟩
        · exact .inl h
    · exact .inl h
  | recordRotation sessionId userId presented expiresAt =>
    left
    simp only [exec] at h
    split at h
    · exact h
    · exact h
  | deleteSessions userId =>
    obtain h | h := List.mem_append.mp h
    · obtain ⟨user, huser, rfl⟩ := List.mem_map.mp h
      exact .inr ⟨rfl, user, Option.mem_toList.mp huser, rfl⟩
    · exact .inl h
  | _ => exact .inl h

end Log
end FieldserviceIT.Auth
