import FieldserviceIT.Auth.Enrollment

/-!
What a change of the password ends. Both handlers write the password and then
delete the sessions that are there. A login checks the password statements before
its session is inserted, and nothing is checked again in between: an insert after
the deletion brings the old password back.
-/

namespace FieldserviceIT.Auth

open AuthState Common Lib

section Statement

def AuthState.NotEnded (s : AuthState) (userId : String) (epoch : Nat) : Prop :=
  ∀ e, .sessionsEnded userId e ∈ s.log → e ≤ epoch

/-- A session on a password is inserted before the deletion that follows a change of it,
and a token is signed before it too, or for a session that is there. -/
def BeforeDeletion (op : Op) (s : AuthState) : Prop :=
  match op with
  | .createSession userId _ _ (.password epoch) => s.NotEnded userId epoch
  | .signAccess userId sessionId _ (.password epoch) =>
    (∃ r ∈ s.sessions, r.id = sessionId) ∨ s.NotEnded userId epoch
  | _ => True

/-- A run starts with nothing done; the tokens signed earlier name sessions of their users. -/
structure StartsAnew (s : AuthState) : Prop where
  numbered : s.Numbered
  log : s.log = []
  tokens : ∀ t ∈ s.issued, ∀ sid, t.sid = some sid → s.Known sid t.sub t.origin

/-- An access token of the user, obtained on the password as it was then. -/
structure Jwt.ObtainedOn (t : Jwt) (userId : String) (epoch : Nat) : Prop where
  sub : t.sub = userId
  access : t.sid.isSome
  origin : t.origin = .password epoch

end Statement

section Runs

variable {E : Platform} {userId : String} {epoch : Nat} {s : AuthState} {op : Op}

/-- No session is left on a password that has been ended. -/
structure PasswordTable (s : AuthState) : Prop where
  numbered : s.Numbered
  sessions : ∀ r ∈ s.sessions, ∀ k, r.origin = .password k → s.NotEnded r.userId k
  tokens : ∀ t ∈ s.issued, ∀ sid, t.sid = some sid → s.Known sid t.sub t.origin

theorem passwordTable_of_startsAnew (h : StartsAnew s) : PasswordTable s := by
  refine ⟨h.numbered, fun r _ k _ e he => ?_, h.tokens⟩
  simp [h.log] at he

theorem AuthState.NotEnded.exec (h : s.NotEnded userId epoch) (hop : op ≠ .deleteSessions userId) :
    (exec E op s).NotEnded userId epoch := by
  intro e he
  obtain he | ⟨hdelete, -⟩ := log_exec he
  · exact h e he
  · exact absurd hdelete hop

theorem PasswordTable.sessions_exec (h : PasswordTable s) (hallowed : BeforeDeletion op s)
    {r' : SessionRow} (hr' : r' ∈ (exec E op s).sessions) {k : Nat}
    (horigin : r'.origin = .password k) : (exec E op s).NotEnded r'.userId k := by
  have hop : op ≠ .deleteSessions r'.userId := by
    rintro rfl
    have hkept := (List.mem_filter.mp hr').2
    simp at hkept
  obtain ⟨r, hr, -, huser, hsame⟩ | ⟨mfaVerifiedAt, expiresAt, hcreate⟩ := Auth.sessions_exec hr'
  · have hold : s.NotEnded r.userId k := h.sessions r hr k (hsame.trans horigin)
    rw [huser] at hold
    exact hold.exec hop
  · have hnew : s.NotEnded r'.userId k := by
      rw [hcreate, horigin] at hallowed
      exact hallowed
    exact hnew.exec hop

theorem PasswordTable.tokens_exec (h : PasswordTable s) (hgood : Justified op s) {t : Jwt}
    (ht : t ∈ (exec E op s).issued) {sid : Nat} (hsid : t.sid = some sid) :
    (exec E op s).Known sid t.sub t.origin := by
  obtain hold | ⟨hnone, -⟩ | ⟨sid', authVersion, hsid', rfl⟩ := issued_exec ht
  · exact (h.tokens t hold sid hsid).later (later_exec E op s)
  · rw [hnone] at hsid
    cases hsid
  · obtain rfl := Option.some.inj (hsid'.symm.trans hsid)
    exact hgood.1.later (later_exec E _ s)

theorem passwordTable_exec (h : PasswordTable s) (hallowed : BeforeDeletion op s)
    (hgood : Justified op s) : PasswordTable (exec E op s) :=
  ⟨numbered_exec E op h.numbered, fun _ hr' _ horigin => h.sessions_exec hallowed hr' horigin,
    fun _ ht _ hsid => h.tokens_exec hgood ht hsid⟩

theorem passwordTable_cooperation (E : Platform) :
    Cooperation (authSystem E) BeforeDeletion PasswordTable Later Justified := by
  refine cooperation_of (fun s h => h.numbered)
    (fun op s h hallowed hgood => passwordTable_exec h hallowed hgood) fun s h => ?_
  refine ⟨⟨h.numbered.below, h.numbered.distinct⟩, h.sessions, fun t ht sid hsid => ?_⟩
  exact (h.tokens t ht sid hsid).later (quiet_tick s).later

theorem session_of_accepts {t : Jwt} {sid : Nat} (h : s.accepts t = true) (hsid : t.sid = some sid) :
    ∃ r ∈ s.sessions, r.id = sid ∧ r.userId = t.sub := by
  simp only [accepts, hsid, Option.all_some, Bool.and_eq_true, List.any_eq_true,
    decide_eq_true_eq] at h
  obtain ⟨⟨-, r, hr, ⟨hid, huser⟩, -⟩, -⟩ := h
  exact ⟨r, hr, hid, huser⟩

theorem PasswordTable.epoch_le (h : PasswordTable s) (hended : .sessionsEnded userId epoch ∈ s.log)
    {sid k : Nat} (hknown : s.Known sid userId (.password k)) {r : SessionRow} (hr : r ∈ s.sessions)
    (hid : r.id = sid) : epoch ≤ k := by
  obtain ⟨huser, horigin⟩ := hknown.session r hr hid
  exact h.sessions r hr k horigin epoch (huser ▸ hended)

theorem PasswordTable.refused (h : PasswordTable s) (hended : .sessionsEnded userId epoch ∈ s.log)
    {t : Jwt} (ht : t ∈ s.issued) {k : Nat} (htoken : t.ObtainedOn userId k) (hk : k < epoch) :
    s.accepts t = false := by
  rw [← Bool.not_eq_true]
  intro haccepts
  obtain ⟨sid, hsid⟩ := Option.isSome_iff_exists.mp htoken.access
  obtain ⟨r, hr, hid, -⟩ := session_of_accepts haccepts hsid
  have hknown := h.tokens t ht sid hsid
  rw [htoken.sub, htoken.origin] at hknown
  have hle := h.epoch_le hended hknown hr hid
  omega

theorem PasswordTable.not_signed (h : PasswordTable s)
    (hended : .sessionsEnded userId epoch ∈ s.log) (hallowed : BeforeDeletion op s)
    (hgood : Justified op s) {t : Jwt} (ht : t ∈ (exec E op s).issued) (hnew : t ∉ s.issued) {k : Nat}
    (htoken : t.ObtainedOn userId k) : epoch ≤ k := by
  obtain hold | ⟨hnone, -⟩ | ⟨sid, authVersion, -, rfl⟩ := issued_exec ht
  · exact absurd hold hnew
  · have haccess := htoken.access
    rw [hnone] at haccess
    cases haccess
  · obtain ⟨hknown, -⟩ := hgood
    simp only [BeforeDeletion, htoken.origin, htoken.sub] at hallowed
    rw [htoken.sub, htoken.origin] at hknown
    obtain ⟨r, hr, hid⟩ | hnotEnded := hallowed
    · exact h.epoch_le hended hknown hr hid
    · exact hnotEnded epoch hended

end Runs

section Samples

def notEnded (s : AuthState) (userId : String) (epoch : Nat) : Bool :=
  s.log.all fun
    | .sessionsEnded user e => !decide (user = userId) || decide (e ≤ epoch)
    | _ => true

def isBeforeDeletion (op : Op) (s : AuthState) : Bool :=
  match op with
  | .createSession userId _ _ (.password epoch) => notEnded s userId epoch
  | .signAccess userId sessionId _ (.password epoch) =>
    s.sessions.any (·.id = sessionId) || notEnded s userId epoch
  | _ => true

theorem notEnded_of_bool {s : AuthState} {userId : String} {epoch : Nat}
    (h : notEnded s userId epoch = true) : s.NotEnded userId epoch := by
  intro e he
  have hevent := List.all_eq_true.mp h _ he
  simpa using hevent

theorem beforeDeletion_of_bool {op : Op} {s : AuthState} (h : isBeforeDeletion op s = true) :
    BeforeDeletion op s := by
  cases op with
  | createSession userId mfaVerifiedAt expiresAt origin =>
    cases origin with
    | password epoch => exact notEnded_of_bool h
    | trusted => trivial
  | signAccess userId sessionId authVersion origin =>
    cases origin with
    | password epoch =>
      obtain h | h := Bool.or_eq_true_iff.mp h
      · left
        simpa using h
      · exact .inr (notEnded_of_bool h)
    | trusted => trivial
  | _ => trivial

def sampleIdle : Config AuthState Op :=
  ⟨freshState [sampleUser], []⟩

theorem startsAnew_sampleIdle : StartsAnew sampleIdle.shared := by
  refine ⟨⟨?_, List.nodup_nil⟩, rfl, ?_⟩ <;> simp [sampleIdle, freshState]

theorem obtainedOn_sampleAccess : sampleAccess.ObtainedOn "user-1" 0 :=
  ⟨rfl, rfl, rfl⟩

end Samples
end FieldserviceIT.Auth
