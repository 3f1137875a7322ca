import FieldserviceIT.Auth.Effects
import FieldserviceIT.Auth.Rotation

/-!
Signing in where a second factor is on. A password and no code get a challenge
token, and the guard of signed-in requests takes any token that names no session
for one of an active user. Where no challenge token is signed there is no way
around the factor.
-/

namespace FieldserviceIT.Auth

open AuthState Common Lib

section Statement

/-- A valid second factor: a code of a factor that was stored at the start, or the word
of an identity provider or a passkey. -/
def ProvesFactor (s₀ : AuthState) (userId : String) (e : Event) : Prop :=
  e = .trustedLogin userId ∨
    ∃ user ∈ s₀.users, user.id = userId ∧ e = .factorPresented userId user.factor

/-- A run for a user with the flag starts with no token, and with nothing done. -/
structure Begins (userId : String) (s : AuthState) : Prop where
  enabled : ∀ user ∈ s.users, user.id = userId → user.factor.mfaEnabled = true
  numbered : s.Numbered
  issued : s.issued = []
  log : s.log = []

/-- No challenge token is signed for the user, and no session of the user from before
the start is gone on with. -/
def SignsNoChallenge (userId : String) (drawn : Nat) (op : Op) (_ : AuthState) : Prop :=
  match op with
  | .signChallenge user _ _ => user ≠ userId
  | .rotate sessionId user _ _ => user = userId → drawn ≤ sessionId
  | _ => True

end Statement

section Invariant

variable {E : Platform} {userId : String} {s₀ s : AuthState} {op : Op}

/-- Nothing has been gained as long as the factor is not proved. -/
structure Unproven (userId : String) (s₀ s : AuthState) : Prop where
  users : ∀ user ∈ s.users, user.id = userId →
    ∃ user₀ ∈ s₀.users, user₀.id = userId ∧ user.factor = user₀.factor
  issued : ∀ t ∈ s.issued, t.sub ≠ userId
  sessions : ∀ r ∈ s.sessions, r.userId = userId → r.id < s₀.supply
  enabled : ∀ epoch mfaEnabled withCode,
    .passwordChecked userId epoch mfaEnabled withCode ∈ s.log → mfaEnabled = true
  unpresented : ∀ factor, .factorPresented userId factor ∉ s.log
  untrusted : .trustedLogin userId ∉ s.log
  unexchanged : ∀ x sid, .exchanged x sid userId ∉ s.log

theorem unproven_of_begins (h : Begins userId s₀) : Unproven userId s₀ s₀ := by
  refine ⟨fun user hmem hid => ⟨user, hmem, hid, rfl⟩, ?_, fun r hr _ => h.numbered.below r hr,
    ?_, ?_, ?_, ?_⟩
  · simp [h.issued]
  all_goals simp [h.log]

theorem Unproven.not_entitled (h : Unproven userId s₀ s) {origin : Origin} :
    ¬ s.Entitled userId origin := by
  intro hentitled
  cases hentitled with
  | passwordOnly withCode hentered =>
    obtain ⟨epoch, -, hlog⟩ := hentered
    cases h.enabled epoch false withCode hlog
  | passwordAndCode _ factor hfactor => exact h.unpresented factor hfactor
  | challenge token hissued hsub _ => exact h.issued token hissued hsub
  | trusted _ hlogin => exact h.untrusted hlogin

theorem Unproven.not_presented (h : Unproven userId s₀ s) {factor : Factor} :
    ¬ s.Presented userId factor := by
  rintro ⟨before, -, hlog⟩
  exact h.unpresented before hlog

theorem Unproven.factorOwner_ne (h : Unproven userId s₀ s) (hgood : Justified op s) :
    op.factorOwner ≠ some userId := by
  intro howner
  cases op with
  | enableFactor user secret =>
    obtain rfl := Option.some.inj howner
    obtain ⟨t, ht, hsub⟩ := hgood
    exact h.issued t ht hsub
  | consumeRecoveryCode user remaining checked | disableFactor user checked
  | replaceRecoveryCodes user checked =>
    obtain rfl := Option.some.inj howner
    exact h.not_presented hgood
  | _ => cases howner

theorem Unproven.issued_exec (h : Unproven userId s₀ s)
    (hallowed : SignsNoChallenge userId s₀.supply op s) (hgood : Justified op s) :
    ∀ t ∈ (exec E op s).issued, t.sub ≠ userId := by
  intro t ht hsub
  obtain ht | ⟨-, purpose, rfl⟩ | ⟨sid, authVersion, -, rfl⟩ := Auth.issued_exec ht
  · exact h.issued t ht hsub
  · exact hallowed hsub
  · obtain ⟨-, hentitled | ⟨x, hexchanged⟩⟩ := hgood
    · exact h.not_entitled (hsub ▸ hentitled)
    · exact h.unexchanged x sid (hsub ▸ hexchanged)

theorem Unproven.sessions_exec (h : Unproven userId s₀ s) (hgood : Justified op s) :
    ∀ r ∈ (exec E op s).sessions, r.userId = userId → r.id < s₀.supply := by
  intro r' hr' huser
  obtain ⟨r, hr, hid, hsame, -⟩ | ⟨mfaVerifiedAt, expiresAt, rfl⟩ := Auth.sessions_exec hr'
  · exact hid ▸ h.sessions r hr (hsame.trans huser)
  · exact absurd (huser ▸ hgood) h.not_entitled

theorem Unproven.exec (hbegins : Begins userId s₀) (h : Unproven userId s₀ s)
    (hallowed : SignsNoChallenge userId s₀.supply op s) (hgood : Justified op s)
    (hnone : ∀ e ∈ (exec E op s).log, ¬ ProvesFactor s₀ userId e) :
    Unproven userId s₀ (exec E op s) := by
  refine ⟨?_, h.issued_exec hallowed hgood, h.sessions_exec hgood, ?_, ?_, ?_, ?_⟩
  · obtain ⟨change, husers, hkeeps⟩ := users_exec E op s
    intro user' hmem hid
    rw [husers] at hmem
    obtain ⟨user, huser, rfl⟩ := List.mem_map.mp hmem
    have hid' : user.id = userId := (hkeeps.id user).symm.trans hid
    rw [hkeeps.factor user (hid' ▸ h.factorOwner_ne hgood)]
    exact h.users user huser hid'
  · intro epoch mfaEnabled withCode hlog
    obtain hold | ⟨user, huser, hid, -, henabled⟩ := log_exec hlog
    · exact h.enabled epoch mfaEnabled withCode hold
    · obtain ⟨user₀, huser₀, hid₀, hfactor⟩ := h.users user huser hid
      rw [← henabled, hfactor]
      exact hbegins.enabled user₀ huser₀ hid₀
  · intro factor hlog
    obtain hold | ⟨user, huser, rfl⟩ := log_exec hlog
    · exact h.unpresented factor hold
    · obtain ⟨user₀, huser₀, hid₀, hfactor⟩ := h.users user (findUser_mem huser) (findUser_id huser)
      exact hnone _ hlog (.inr ⟨user₀, huser₀, hid₀, by rw [hfactor]⟩)
  · intro hlog
    exact hnone _ hlog (.inl rfl)
  · intro x sid hlog
    obtain hold | ⟨⟨expiresAt, rfl⟩, r, hr, hrotates⟩ := log_exec hlog
    · exact h.unexchanged x sid hold
    · obtain ⟨hid, huser, -⟩ := rotates_live E hrotates
      have hbelow := h.sessions r hr huser
      have hdrawn : s₀.supply ≤ sid := hallowed rfl
      omega

/-- Proved by now, or nothing gained. -/
structure Withstands (userId : String) (s₀ s : AuthState) : Prop where
  numbered : s.Numbered
  proved : (∃ e ∈ s.log, ProvesFactor s₀ userId e) ∨ Unproven userId s₀ s

theorem withstands_exec (hbegins : Begins userId s₀) (h : Withstands userId s₀ s)
    (hallowed : SignsNoChallenge userId s₀.supply op s) (hgood : Justified op s) :
    Withstands userId s₀ (exec E op s) := by
  refine ⟨numbered_exec E op h.numbered, ?_⟩
  by_cases hproof : ∃ e ∈ (exec E op s).log, ProvesFactor s₀ userId e
  · exact .inl hproof
  · have hnone : ∀ e ∈ (exec E op s).log, ¬ ProvesFactor s₀ userId e := fun e he hproves =>
      hproof ⟨e, he, hproves⟩
    obtain ⟨e, he, hproves⟩ | hunproven := h.proved
    · exact absurd hproves (hnone e ((later_exec E op s).log e he))
    · exact .inr (hunproven.exec hbegins hallowed hgood hnone)

theorem withstands_cooperation (hbegins : Begins userId s₀) :
    Cooperation (authSystem E) (SignsNoChallenge userId s₀.supply) (Withstands userId s₀) Later
      Justified := by
  refine cooperation_of (fun s h => h.numbered)
    (fun op s h hallowed hgood => withstands_exec hbegins h hallowed hgood) fun s h => ?_
  refine ⟨⟨h.numbered.below, h.numbered.distinct⟩, h.proved.imp id fun hunproven => ?_⟩
  exact ⟨hunproven.users, hunproven.issued, hunproven.sessions, hunproven.enabled,
    hunproven.unpresented, hunproven.untrusted, hunproven.unexchanged⟩

/-- Whatever requests come in whatever order: as long as the second factor of the user is
not proved, no token of the run is accepted. -/
theorem no_token_without_factor {c₀ c : Config AuthState Op} (hidle : c₀.threads = [])
    (hbegins : Begins userId c₀.shared)
    (hrun : (authSystem E).Run (SignsNoChallenge userId c₀.shared.supply) c₀ c)
    (hnone : ∀ e ∈ c.shared.log, ¬ ProvesFactor c₀.shared userId e) :
    ∀ t ∈ c.shared.issued, t.sub = userId → c.shared.accepts t = false := by
  have hstart : Withstands userId c₀.shared c₀.shared :=
    ⟨hbegins.numbered, .inr (unproven_of_begins hbegins)⟩
  have hsafe := (withstands_cooperation hbegins).run hrun (Config.safe_of_idle hstart hidle)
  intro t ht hsub
  obtain ⟨e, he, hproves⟩ | hunproven := hsafe.1.inv.proved
  · exact absurd hproves (hnone e he)
  · exact absurd hsub (hunproven.issued t ht)

end Invariant

section Samples

instance (s₀ : AuthState) (userId : String) (e : Event) : Decidable (ProvesFactor s₀ userId e) :=
  inferInstanceAs (Decidable (_ ∨ _))

instance (userId : String) (drawn : Nat) (op : Op) (s : AuthState) :
    Decidable (SignsNoChallenge userId drawn op s) := by
  unfold SignsNoChallenge
  split <;> infer_instance

def sampleEnrolled : UserRow :=
  { sampleUser with factor := ⟨true, some "JBSWY3DPEHPK3PXPJBSWY3DPEHPK3PXP", []⟩ }

def sampleStart : Config AuthState Op :=
  ⟨freshState [sampleEnrolled], []⟩

theorem sampleStart_idle : sampleStart.threads = [] :=
  rfl

theorem begins_sampleEnrolled : Begins "user-1" sampleStart.shared := by
  refine ⟨?_, ⟨?_, List.nodup_nil⟩, rfl, rfl⟩ <;> simp [sampleStart, freshState, sampleEnrolled]

def sampleLogin (mfaCode : Option String) : List (Move Request) :=
  .start (.login "ann@example.org" samplePassword mfaCode) :: List.replicate 4 (.run 0)

theorem no_token_without_factor_wrong_code : ∃ c, (authSystem samplePlatform).Run
    (SignsNoChallenge "user-1" sampleStart.shared.supply) sampleStart c ∧
      c.shared.log = [.passwordChecked "user-1" 0 true true] ∧
        ∀ t ∈ c.shared.issued, t.sub = "user-1" → c.shared.accepts t = false := by
  have hplay : ((authSystem samplePlatform).play holdsToken
      (fun op s => decide (SignsNoChallenge "user-1" sampleStart.shared.supply op s)) sampleStart
      (sampleLogin (some "000000"))).any (fun c =>
        decide (c.shared.log = [.passwordChecked "user-1" 0 true true])) = true := by
    decide
  obtain ⟨c, hrun, hcheck⟩ := System.exists_run_of_play (fun _ _ => sendable_of_holdsToken)
    (fun _ _ h => of_decide_eq_true h) hplay
  have hlog := of_decide_eq_true hcheck
  refine ⟨c, hrun, hlog, no_token_without_factor sampleStart_idle begins_sampleEnrolled hrun ?_⟩
  rw [hlog]
  decide

/-- The challenge token of a login without a code is a key to everything else. -/
theorem challenge_token_accepted : ¬ ∀ (E : Platform) (userId : String)
    (c₀ c : Config AuthState Op), c₀.threads = [] → Begins userId c₀.shared →
    (authSystem E).Run (fun _ _ => True) c₀ c →
      (∀ e ∈ c.shared.log, ¬ ProvesFactor c₀.shared userId e) →
        ∀ t ∈ c.shared.issued, t.sub = userId → c.shared.accepts t = false := by
  intro hall
  have hplay : ((authSystem samplePlatform).play holdsToken (fun _ _ => true)
      sampleStart (sampleLogin none)).any (fun c =>
        decide (c.shared.log = [.passwordChecked "user-1" 0 true false]) &&
          c.shared.issued.any fun t => t.sub = "user-1" && c.shared.accepts t) = true := by
    decide
  obtain ⟨c, hrun, hcheck⟩ := System.exists_run_of_play (fun _ _ => sendable_of_holdsToken)
    (fun _ _ _ => trivial) hplay
  rw [Bool.and_eq_true, List.any_eq_true] at hcheck
  obtain ⟨hlog, t, ht, haccepted⟩ := hcheck
  rw [Bool.and_eq_true] at haccepted
  obtain ⟨hsub, haccepts⟩ := haccepted
  have hrefused := hall samplePlatform "user-1" sampleStart c rfl begins_sampleEnrolled hrun
    (by rw [of_decide_eq_true hlog]; decide) t ht (of_decide_eq_true hsub)
  rw [hrefused] at haccepts
  cases haccepts

end Samples
end FieldserviceIT.Auth
