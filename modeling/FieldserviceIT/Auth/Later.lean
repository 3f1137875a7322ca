import FieldserviceIT.Auth.Handlers

/-!
What every statement leaves as it is. Later stores know at least as much: the
clock, the draws, the log and the signed tokens only grow. A session under an
old number is the session it was, revoked once it is revoked, and exchanges are
new only for sessions that were live or are new themselves.
-/

namespace FieldserviceIT.Auth

open Common Lib

namespace AuthState

def Unrevoked (s : AuthState) (sessionId : Nat) : Prop :=
  ∃ r ∈ s.sessions, r.id = sessionId ∧ r.revokedAt = none

structure Later (s s' : AuthState) : Prop where
  clock : s.now ≤ s'.now
  supply : s.supply ≤ s'.supply
  log : ∀ e ∈ s.log, e ∈ s'.log
  issued : ∀ t ∈ s.issued, t ∈ s'.issued
  descends : ∀ r' ∈ s'.sessions, r'.id < s.supply → ∃ r ∈ s.sessions,
    r.id = r'.id ∧ r.userId = r'.userId ∧ r.origin = r'.origin ∧
      (r'.revokedAt = none → r.revokedAt = none)
  exchanges : ∀ x sid uid, .exchanged x sid uid ∈ s'.log →
    .exchanged x sid uid ∈ s.log ∨ s.Unrevoked sid ∨ s.supply ≤ sid

/-- Session numbers are drawn, and drawn once. -/
structure Numbered (s : AuthState) : Prop where
  below : ∀ r ∈ s.sessions, r.id < s.supply
  distinct : (s.sessions.map (·.id)).Nodup

theorem Later.refl (s : AuthState) : s.Later s where
  clock := Int.le_refl _
  supply := Nat.le_refl _
  log _ h := h
  issued _ h := h
  descends r' hr' _ := ⟨r', hr', rfl, rfl, rfl, id⟩
  exchanges _ _ _ h := .inl h

theorem Later.trans {a b c : AuthState} (hab : a.Later b) (hbc : b.Later c) : a.Later c where
  clock := Int.le_trans hab.clock hbc.clock
  supply := Nat.le_trans hab.supply hbc.supply
  log e he := hbc.log e (hab.log e he)
  issued t ht := hbc.issued t (hab.issued t ht)
  descends r'' hr'' hold := by
    obtain ⟨r', hr', hid', huser', horigin', hrevoked'⟩ :=
      hbc.descends r'' hr'' (Nat.lt_of_lt_of_le hold hab.supply)
    obtain ⟨r, hr, hid, huser, horigin, hrevoked⟩ := hab.descends r' hr' (hid' ▸ hold)
    exact ⟨r, hr, hid.trans hid', huser.trans huser', horigin.trans horigin',
      fun h => hrevoked (hrevoked' h)⟩
  exchanges x sid uid h := by
    obtain h | ⟨r', hr', hid, hrevoked⟩ | h := hbc.exchanges x sid uid h
    · exact hab.exchanges x sid uid h
    · by_cases hold : sid < a.supply
      · obtain ⟨r, hr, hid', -, -, hrevoked'⟩ := hab.descends r' hr' (hid ▸ hold)
        exact .inr (.inl ⟨r, hr, hid'.trans hid, hrevoked' hrevoked⟩)
      · exact .inr (.inr (Nat.le_of_not_lt hold))
    · exact .inr (.inr (Nat.le_trans hab.supply h))

/-- A step that opens no session and replaces no token. -/
structure Quiet (s s' : AuthState) : Prop where
  clock : s.now ≤ s'.now
  supply : s.supply ≤ s'.supply
  log : ∃ new, s'.log = new ++ s.log ∧ ∀ x sid uid, Event.exchanged x sid uid ∉ new
  issued : ∀ t ∈ s.issued, t ∈ s'.issued
  sessions : ∀ r' ∈ s'.sessions, ∃ r ∈ s.sessions,
    r.id = r'.id ∧ r.userId = r'.userId ∧ r.origin = r'.origin ∧
      r.refreshToken = r'.refreshToken ∧ (r'.revokedAt = none → r.revokedAt = none)

theorem Quiet.exchanged_mem {s s' : AuthState} (h : s.Quiet s') {x : String} {sid : Nat}
    {uid : String} (hmem : .exchanged x sid uid ∈ s'.log) : .exchanged x sid uid ∈ s.log := by
  obtain ⟨new, hnew, hquiet⟩ := h.log
  rw [hnew] at hmem
  exact (List.mem_append.mp hmem).resolve_left (hquiet x sid uid)

theorem Quiet.later {s s' : AuthState} (h : s.Quiet s') : s.Later s' where
  clock := h.clock
  supply := h.supply
  log e he := by
    obtain ⟨new, hnew, -⟩ := h.log
    rw [hnew]
    exact List.mem_append_right _ he
  issued := h.issued
  descends r' hr' _ := by
    obtain ⟨r, hr, hid, huser, horigin, -, hrevoked⟩ := h.sessions r' hr'
    exact ⟨r, hr, hid, huser, horigin, hrevoked⟩
  exchanges x sid uid hmem := .inl (h.exchanged_mem hmem)

variable {s : AuthState}

theorem quiet_refl : s.Quiet s :=
  ⟨Int.le_refl _, Nat.le_refl _, ⟨[], rfl, by simp⟩, fun _ h => h,
    fun r' hr' => ⟨r', hr', rfl, rfl, rfl, rfl, id⟩⟩

theorem quiet_draw {s' : AuthState} (h : s.Quiet s') :
    s.Quiet { s' with supply := s'.supply + 1 } :=
  ⟨h.clock, Nat.le_succ_of_le h.supply, h.log, h.issued, h.sessions⟩

theorem mem_updateSessions {wanted : SessionRow → Bool} {change : SessionRow → SessionRow}
    {r' : SessionRow} (h : r' ∈ (s.updateSessions wanted change).sessions) :
    ∃ r ∈ s.sessions, r' = if wanted r then change r else r := by
  obtain ⟨r, hr, rfl⟩ := List.mem_map.mp h
  exact ⟨r, hr, rfl⟩

theorem quiet_updateSessions {wanted : SessionRow → Bool} {change : SessionRow → SessionRow}
    (h : ∀ r, (change r).id = r.id ∧ (change r).userId = r.userId ∧ (change r).origin = r.origin ∧
      (change r).refreshToken = r.refreshToken ∧
        ((change r).revokedAt = none → r.revokedAt = none)) :
    s.Quiet (s.updateSessions wanted change) := by
  refine ⟨Int.le_refl _, Nat.le_refl _, ⟨[], rfl, by simp⟩, fun _ h => h, fun r' hr' => ?_⟩
  obtain ⟨r, hr, rfl⟩ := mem_updateSessions hr'
  refine ⟨r, hr, ?_⟩
  split
  · obtain ⟨hid, huser, horigin, htoken, hrevoked⟩ := h r
    exact ⟨hid.symm, huser.symm, horigin.symm, htoken.symm, hrevoked⟩
  · exact ⟨rfl, rfl, rfl, rfl, id⟩

theorem quiet_sameSessions {s' : AuthState} (hclock : s'.now = s.now)
    (hsupply : s.supply ≤ s'.supply)
    (hlog : ∃ new, s'.log = new ++ s.log ∧ ∀ x sid uid, Event.exchanged x sid uid ∉ new)
    (hissued : ∀ t ∈ s.issued, t ∈ s'.issued) (hsessions : s'.sessions = s.sessions) :
    s.Quiet s' := by
  refine ⟨Int.le_of_eq hclock.symm, hsupply, hlog, hissued, fun r' hr' => ?_⟩
  rw [hsessions] at hr'
  exact ⟨r', hr', rfl, rfl, rfl, rfl, id⟩

end AuthState

open AuthState

def Op.writesToken : Op → Bool
  | .createSession _ _ _ _ | .rotate _ _ _ _ => true
  | _ => false

variable (E : Platform)

theorem quiet_changeFactor (s : AuthState) (userId : String) (change : Factor → Factor)
    (pending : Option String → Option String) :
    s.Quiet (changeFactor s userId change pending) := by
  refine quiet_sameSessions rfl (Nat.le_refl _) ⟨_, rfl, ?_⟩ (fun _ h => h) rfl
  simp

theorem quiet_exec {op : Op} (hop : op.writesToken = false) (s : AuthState) :
    s.Quiet (exec E op s) := by
  cases op with
  | createSession _ _ _ _ | rotate _ _ _ _ => cases hop
  | read | findReusedToken _ => exact quiet_refl
  | findUserForLogin email password mfaCode =>
    refine quiet_sameSessions rfl (Nat.le_refl _) ⟨_, rfl, ?_⟩ (fun _ h => h) rfl
    intro x sid uid h
    unfold loginEvents at h
    split at h
    · split at h <;> simp at h
    · simp at h
  | findTrustedUser userId =>
    exact quiet_sameSessions rfl (Nat.le_refl _) ⟨[.trustedLogin userId], rfl, by simp⟩
      (fun _ h => h) rfl
  | findFactor userId code =>
    refine quiet_sameSessions rfl (Nat.le_refl _) ⟨_, rfl, ?_⟩ (fun _ h => h) rfl
    intro x sid uid h
    unfold factorEvents at h
    split at h
    · split at h <;> simp at h
    · simp at h
  | recordLoginFailure _ | clearLoginFailures _ =>
    exact quiet_sameSessions rfl (Nat.le_refl _) ⟨[], rfl, by simp⟩ (fun _ h => h) rfl
  | signChallenge _ _ _ | signAccess _ _ _ _ =>
    exact quiet_sameSessions rfl (Nat.le_refl _) ⟨[], rfl, by simp⟩
      (fun _ h => List.mem_cons_of_mem _ h) rfl
  | setPendingSecret _ | setPassword _ _ _ | setResetToken _ =>
    exact quiet_sameSessions rfl (Nat.le_succ _) ⟨[], rfl, by simp⟩ (fun _ h => h) rfl
  | incrementAuthVersion _ =>
    exact quiet_sameSessions rfl (Nat.le_refl _) ⟨[], rfl, by simp⟩ (fun _ h => h) rfl
  | enableFactor _ _ | replaceRecoveryCodes _ _ => exact quiet_draw (quiet_changeFactor s _ _ _)
  | consumeRecoveryCode _ _ _ | disableFactor _ _ =>
    simp only [exec]
    exact quiet_changeFactor s _ _ _
  | recordRotation _ _ _ _ =>
    simp only [exec]
    split
    · exact quiet_refl
    · exact quiet_sameSessions rfl (Nat.le_refl _) ⟨[], rfl, by simp⟩ (fun _ h => h) rfl
  | touchSession _ | stepUpSession _ _ =>
    exact quiet_updateSessions fun r => ⟨rfl, rfl, rfl, rfl, id⟩
  | trimSessions _ | revokeByRefreshToken _ | revokeActiveFamily _ | revokeSession _ _
  | revokeOtherSessions _ _ =>
    exact quiet_updateSessions fun r => ⟨rfl, rfl, rfl, rfl, fun h => by cases h⟩
  | deleteSessions userId =>
    refine ⟨Int.le_refl _, Nat.le_refl _, ⟨_, rfl, by simp⟩, fun _ h => h, fun r' hr' => ?_⟩
    exact ⟨r', (List.mem_filter.mp hr').1, rfl, rfl, rfl, rfl, id⟩

theorem quiet_tick (s : AuthState) : s.Quiet { s with now := s.now + 1 } :=
  ⟨by simp only; omega, Nat.le_refl _, ⟨[], rfl, by simp⟩, fun _ h => h,
    fun r' hr' => ⟨r', hr', rfl, rfl, rfl, rfl, id⟩⟩

theorem rotates_live {s : AuthState} {sessionId : Nat} {userId presented : String} {r : SessionRow}
    (h : s.rotates E sessionId userId presented r = true) :
    r.id = sessionId ∧ r.userId = userId ∧ E.opens presented r.refreshToken = true ∧
      r.revokedAt = none ∧ s.now < r.expiresAt := by
  simp only [rotates, isLive, Bool.and_eq_true, decide_eq_true_eq,
    Option.isNone_iff_eq_none] at h
  exact ⟨h.1.1.1, h.1.1.2, h.1.2, h.2.1, h.2.2⟩

theorem later_rotate (s : AuthState) (sessionId : Nat) (userId presented : String)
    (expiresAt : Int) : s.Later (exec E (.rotate sessionId userId presented expiresAt) s) := by
  simp only [exec]
  split
  · next hmatch =>
      rw [Bool.and_eq_true, List.any_eq_true] at hmatch
      obtain ⟨⟨r, hr, hwanted⟩, -⟩ := hmatch
      refine ⟨Int.le_refl _, Nat.le_succ _, fun e he => List.mem_cons_of_mem _ he, fun _ h => h,
        fun r' hr' _ => ?_, fun x sid uid h => ?_⟩
      · obtain ⟨r, hr, rfl⟩ := mem_updateSessions hr'
        refine ⟨r, hr, ?_⟩
        split
        · next hwanted => exact ⟨rfl, rfl, rfl, fun _ => (rotates_live E hwanted).2.2.2.1⟩
        · exact ⟨rfl, rfl, rfl, id⟩
      · obtain h | h := List.mem_cons.mp h
        · obtain ⟨-, rfl, -⟩ := Event.exchanged.inj h
          obtain ⟨hid, -, -, hrevoked, -⟩ := rotates_live E hwanted
          exact .inr (.inl ⟨r, hr, hid, hrevoked⟩)
        · exact .inl h
  · exact (quiet_draw quiet_refl).later

theorem later_createSession (s : AuthState) (userId : String) (mfaVerifiedAt : Option Int)
    (expiresAt : Int) (origin : Origin) :
    s.Later (exec E (.createSession userId mfaVerifiedAt expiresAt origin) s) := by
  refine ⟨Int.le_refl _, Nat.le_succ _, fun _ h => h, fun _ h => h, fun r' hr' hold => ?_,
    fun _ _ _ h => .inl h⟩
  simp only [exec] at hr'
  split at hr'
  · exact ⟨r', hr', rfl, rfl, rfl, id⟩
  · obtain rfl | hr' := List.mem_cons.mp hr'
    · exact absurd hold (Nat.lt_irrefl _)
    · exact ⟨r', hr', rfl, rfl, rfl, id⟩

theorem later_exec (op : Op) (s : AuthState) : s.Later (exec E op s) := by
  cases hop : op.writesToken with
  | false => exact (quiet_exec E hop s).later
  | true =>
    cases op with
    | createSession userId mfaVerifiedAt expiresAt origin => exact later_createSession E s _ _ _ _
    | rotate sessionId userId presented expiresAt => exact later_rotate E s _ _ _ _
    | _ => cases hop

theorem later_run {allowed : Op → AuthState → Prop} {c c' : Config AuthState Op}
    (h : (authSystem E).Run allowed c c') : c.shared.Later c'.shared := by
  induction h with
  | refl => exact .refl _
  | tail _ hstep ih =>
    refine ih.trans ?_
    cases hstep with
    | start _ _ => exact .refl _
    | run _ _ _ => exact later_exec E _ _
    | tick => exact (quiet_tick _).later

section Numbers

theorem numbered_of_sameSessions {s s' : AuthState} (h : s.Numbered)
    (hsupply : s.supply ≤ s'.supply) (hids : s'.sessions.map (·.id) = s.sessions.map (·.id)) :
    s'.Numbered := by
  refine ⟨fun r' hr' => ?_, hids ▸ h.distinct⟩
  have hmem : r'.id ∈ s.sessions.map (·.id) := hids ▸ List.mem_map_of_mem hr'
  obtain ⟨r, hr, hid⟩ := List.mem_map.mp hmem
  have hbelow := h.below r hr
  omega

theorem ids_updateSessions (s : AuthState) {wanted : SessionRow → Bool}
    {change : SessionRow → SessionRow} (h : ∀ r, (change r).id = r.id) :
    (s.updateSessions wanted change).sessions.map (·.id) = s.sessions.map (·.id) := by
  simp only [updateSessions, List.map_map, Function.comp_def]
  refine List.map_congr_left fun r _ => ?_
  split
  · exact h r
  · rfl

theorem numbered_exec (op : Op) {s : AuthState} (h : s.Numbered) : (exec E op s).Numbered := by
  cases op with
  | read | findReusedToken _ | findUserForLogin _ _ _ | findTrustedUser _ | findFactor _ _
  | recordLoginFailure _ | clearLoginFailures _ | signChallenge _ _ _ | signAccess _ _ _ _
  | incrementAuthVersion _ | consumeRecoveryCode _ _ _ | disableFactor _ _ =>
    exact numbered_of_sameSessions h (Nat.le_refl _) rfl
  | setPendingSecret _ | setPassword _ _ _ | setResetToken _ | enableFactor _ _
  | replaceRecoveryCodes _ _ => exact numbered_of_sameSessions h (Nat.le_succ _) rfl
  | createSession userId mfaVerifiedAt expiresAt origin =>
    simp only [exec]
    split
    · exact numbered_of_sameSessions h (Nat.le_succ _) rfl
    · refine ⟨fun r' hr' => ?_, ?_⟩
      · obtain rfl | hr' := List.mem_cons.mp hr'
        · exact Nat.lt_succ_self _
        · exact Nat.lt_succ_of_lt (h.below r' hr')
      · refine List.nodup_cons.mpr ⟨fun hmem => ?_, h.distinct⟩
        obtain ⟨r, hr, hid⟩ := List.mem_map.mp hmem
        exact absurd hid (Nat.ne_of_lt (h.below r hr))
  | rotate sessionId userId presented expiresAt =>
    simp only [exec]
    split
    · exact numbered_of_sameSessions h (Nat.le_succ _) (ids_updateSessions s fun _ => rfl)
    · exact numbered_of_sameSessions h (Nat.le_succ _) rfl
  | recordRotation _ _ _ _ =>
    simp only [exec]
    split
    · exact h
    · exact numbered_of_sameSessions h (Nat.le_refl _) rfl
  | touchSession _ | stepUpSession _ _ | trimSessions _ | revokeByRefreshToken _
  | revokeActiveFamily _ | revokeSession _ _ | revokeOtherSessions _ _ =>
    exact numbered_of_sameSessions h (Nat.le_refl _) (ids_updateSessions s fun _ => rfl)
  | deleteSessions userId =>
    refine ⟨fun r hr => h.below r (List.mem_filter.mp hr).1, ?_⟩
    exact h.distinct.sublist (List.filter_sublist.map _)

theorem AuthState.Numbered.eq_of_id {s : AuthState} (h : s.Numbered) {r r' : SessionRow}
    (hr : r ∈ s.sessions) (hr' : r' ∈ s.sessions) (hid : r.id = r'.id) : r = r' :=
  List.inj_on_of_nodup_map h.distinct hr hr' hid

end Numbers
end FieldserviceIT.Auth
