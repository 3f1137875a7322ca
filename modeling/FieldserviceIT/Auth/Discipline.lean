import FieldserviceIT.Auth.Later

/-!
Why a service may run a statement. Before a statement that opens a session, signs
a token or writes a factor, the service has seen something that entitles it to:
a right password, a code, a signed token, an exchange. What it has seen stays
seen, so the others cannot take it away between two statements.
-/

namespace FieldserviceIT.Auth

open AuthState Common Lib

/-- A login saw the right password, against a row with this flag. -/
def AuthState.Entered (s : AuthState) (userId : String) (origin : Origin)
    (mfaEnabled withCode : Bool) : Prop :=
  ∃ epoch, origin = .password epoch ∧ .passwordChecked userId epoch mfaEnabled withCode ∈ s.log

/-- What a new session is opened on: a password where no second factor is on, a
password and a code, a challenge token, or a trusted login. -/
inductive AuthState.Entitled (s : AuthState) (userId : String) (origin : Origin) : Prop
  | passwordOnly (withCode : Bool) (hentered : s.Entered userId origin false withCode)
  | passwordAndCode (hentered : s.Entered userId origin true true) (factor : Factor)
      (hfactor : .factorPresented userId factor ∈ s.log)
  | challenge (token : Jwt) (hissued : token ∈ s.issued) (hsub : token.sub = userId)
      (horigin : token.origin = origin)
  | trusted (horigin : origin = .trusted) (hlogin : .trustedLogin userId ∈ s.log)

/-- What a challenge token is signed on. -/
inductive AuthState.Challenged (s : AuthState) (userId : String) (origin : Origin) : Prop
  | login (hentered : s.Entered userId origin true false)
  | enroll (withCode : Bool) (hentered : s.Entered userId origin false withCode)
  | trusted (horigin : origin = .trusted) (hlogin : .trustedLogin userId ∈ s.log)

/-- The session under the number is this user's. -/
structure AuthState.Known (s : AuthState) (sessionId : Nat) (userId : String) (origin : Origin) :
    Prop where
  drawn : sessionId < s.supply
  session : ∀ r ∈ s.sessions, r.id = sessionId → r.userId = userId ∧ r.origin = origin

/-- What is left of a factor after recovery codes were crossed out. -/
structure Factor.LeftOf (f before : Factor) : Prop where
  mfaEnabled : f.mfaEnabled = before.mfaEnabled
  mfaSecret : f.mfaSecret = before.mfaSecret
  mfaRecoveryCodes : f.mfaRecoveryCodes.Sublist before.mfaRecoveryCodes

/-- A code of the factor was presented, or of what it is left of. -/
def AuthState.Presented (s : AuthState) (userId : String) (factor : Factor) : Prop :=
  ∃ before, factor.LeftOf before ∧ .factorPresented userId before ∈ s.log

def Justified (op : Op) (s : AuthState) : Prop :=
  match op with
  | .signChallenge userId _ origin => s.Challenged userId origin
  | .signAccess userId sessionId _ origin => s.Known sessionId userId origin ∧
      (s.Entitled userId origin ∨ ∃ x, .exchanged x sessionId userId ∈ s.log)
  | .createSession userId _ _ origin => s.Entitled userId origin
  | .rotate _ _ presented _ => presented ≠ ""
  | .setPendingSecret userId | .enableFactor userId _ => ∃ t ∈ s.issued, t.sub = userId
  | .consumeRecoveryCode userId _ checked | .disableFactor userId checked
  | .replaceRecoveryCodes userId checked => s.Presented userId checked
  | .recordRotation sessionId userId presented _ => .exchanged presented sessionId userId ∈ s.log
  | _ => True

section Later

variable {s s' : AuthState} {userId : String} {origin : Origin}

theorem AuthState.Entered.later {mfaEnabled withCode : Bool}
    (h : s.Entered userId origin mfaEnabled withCode) (hlater : s.Later s') :
    s'.Entered userId origin mfaEnabled withCode := by
  obtain ⟨epoch, horigin, hlog⟩ := h
  exact ⟨epoch, horigin, hlater.log _ hlog⟩

theorem AuthState.Entitled.later (h : s.Entitled userId origin) (hlater : s.Later s') :
    s'.Entitled userId origin := by
  cases h with
  | passwordOnly withCode hentered => exact .passwordOnly withCode (hentered.later hlater)
  | passwordAndCode hentered factor hfactor =>
    exact .passwordAndCode (hentered.later hlater) factor (hlater.log _ hfactor)
  | challenge token hissued hsub horigin =>
    exact .challenge token (hlater.issued _ hissued) hsub horigin
  | trusted horigin hlogin => exact .trusted horigin (hlater.log _ hlogin)

theorem AuthState.Known.later {sessionId : Nat} (h : s.Known sessionId userId origin)
    (hlater : s.Later s') : s'.Known sessionId userId origin := by
  refine ⟨Nat.lt_of_lt_of_le h.drawn hlater.supply, fun r' hr' hid => ?_⟩
  obtain ⟨r, hr, hid', huser, horigin, -⟩ := hlater.descends r' hr' (hid ▸ h.drawn)
  rw [← huser, ← horigin]
  exact h.session r hr (hid'.trans hid)

theorem AuthState.Presented.later {factor : Factor} (h : s.Presented userId factor)
    (hlater : s.Later s') : s'.Presented userId factor := by
  obtain ⟨before, hleft, hlog⟩ := h
  exact ⟨before, hleft, hlater.log _ hlog⟩

theorem Factor.LeftOf.refl (f : Factor) : f.LeftOf f :=
  ⟨rfl, rfl, List.Sublist.refl _⟩

end Later

section Programs

variable {E : Platform} {allowed : Op → AuthState → Prop} {Inv : AuthState → Prop}
variable {post : AuthState → Prop}

/-- Every statement the program still runs is justified, whatever others do. -/
def Follows (E : Platform) (allowed : Op → AuthState → Prop) (Inv : AuthState → Prop)
    (p : Program) (s : AuthState) : Prop :=
  p.Safe (authSystem E) allowed Inv Later Justified (fun _ => True) s

theorem follows_done {s : AuthState} : Follows E allowed Inv .done s := fun _ _ _ => trivial

theorem follows_fail {s : AuthState} : Follows E allowed Inv .fail s := fun _ _ _ => trivial

theorem follows_step {op : Op} {next : AuthState → Program} {s : AuthState}
    (hop : ∀ s', s.Later s' → Inv s' → Justified op s')
    (hnext : ∀ s' s'', s.Later s' → Inv s' → allowed op s' → s'' = exec E op s' → s'.Later s'' →
      Follows E allowed Inv (next s') s'') : Follows E allowed Inv (.step op next) s :=
  fun s' hlater hinv hallowed =>
    ⟨hop s' hlater hinv, hnext s' _ hlater hinv hallowed rfl (later_exec E op s')⟩

attribute [irreducible] Follows

theorem follows_trimSessions (userId : String) (keep : Nat) (s : AuthState) :
    Follows E allowed Inv (trimSessions E userId keep) s := by
  refine follows_step (fun _ _ _ => trivial) fun s' s'' _ _ _ _ _ => ?_
  simp only
  split
  · exact follows_done
  · exact follows_step (fun _ _ _ => trivial) fun _ _ _ _ _ _ _ => follows_done

theorem follows_signTokens {user : UserRow} {sessionId : Nat} {origin : Origin} {s : AuthState}
    (hknown : s.Known sessionId user.id origin)
    (hwhy : s.Entitled user.id origin ∨ ∃ x, .exchanged x sessionId user.id ∈ s.log) :
    Follows E allowed Inv (signTokens E user sessionId origin) s := by
  refine follows_step (fun s' hlater _ => ⟨hknown.later hlater, ?_⟩) fun _ _ _ _ _ _ _ =>
    follows_trimSessions _ _ _
  obtain hwhy | ⟨x, hx⟩ := hwhy
  · exact .inl (hwhy.later hlater)
  · exact .inr ⟨x, hlater.log _ hx⟩

theorem known_createSession {s : AuthState} (hnumbered : s.Numbered) (userId : String)
    (mfaVerifiedAt : Option Int) (expiresAt : Int) (origin : Origin) :
    (exec E (.createSession userId mfaVerifiedAt expiresAt origin) s).Known s.supply userId
      origin := by
  refine ⟨Nat.lt_succ_self _, fun r hr hid => ?_⟩
  have hold : ∀ r ∈ s.sessions, r.id ≠ s.supply := fun r hr =>
    Nat.ne_of_lt (hnumbered.below r hr)
  simp only [exec] at hr
  split at hr
  · exact absurd hid (hold r hr)
  · obtain rfl | hr := List.mem_cons.mp hr
    · exact ⟨rfl, rfl⟩
    · exact absurd hid (hold r hr)

theorem follows_createTokens (hnumbered : ∀ s, Inv s → s.Numbered) {user : UserRow}
    (mfaVerifiedAt : Option Int) (expiresAt : Int) {origin : Origin} (attempts : Nat)
    {s : AuthState} (hwhy : s.Entitled user.id origin) :
    Follows E allowed Inv (createTokens E user mfaVerifiedAt expiresAt origin attempts) s := by
  induction attempts generalizing s with
  | zero => exact follows_fail
  | succ attempts ih =>
    refine follows_step (fun s' hlater _ => hwhy.later hlater) ?_
    intro s₁ s₁' hlater₁ hinv₁ _ hexec hstep
    have hwhy₁ := (hwhy.later hlater₁).later hstep
    split
    · exact ih hwhy₁
    · refine follows_step (fun _ _ _ => trivial) fun s₂ s₂' hlater₂ _ _ _ hstep₂ => ?_
      split
      · have hknown : s₁'.Known s₁.supply user.id origin :=
          hexec ▸ known_createSession (hnumbered s₁ hinv₁) _ _ _ _
        exact follows_signTokens ((hknown.later hlater₂).later hstep₂)
          (.inl ((hwhy₁.later hlater₂).later hstep₂))
      · exact follows_fail

theorem follows_generateTokens (hnumbered : ∀ s, Inv s → s.Numbered) {user : UserRow}
    (mfaVerifiedAt : Option Int) {origin : Origin} {s : AuthState}
    (hwhy : s.Entitled user.id origin) :
    Follows E allowed Inv (generateTokens E user mfaVerifiedAt origin) s :=
  follows_step (fun _ _ _ => trivial) fun _ _ hlater _ _ _ hstep =>
    follows_createTokens hnumbered _ _ 5 ((hwhy.later hlater).later hstep)

theorem exchanged_rotate {s : AuthState} {sessionId : Nat} {userId presented : String}
    {expiresAt : Int} (hmatch : s.sessions.any (s.rotates E sessionId userId presented) = true)
    (hdup : s.duplicate E = false) :
    .exchanged presented sessionId userId ∈
      (exec E (.rotate sessionId userId presented expiresAt) s).log := by
  simp [exec, hmatch, hdup]

theorem follows_rotateTokens {user : UserRow} {session : SessionRow} {presented : String}
    (hpresented : presented ≠ "") (expiresAt : Int) (attempts : Nat) {s : AuthState}
    (hknown : s.Known session.id user.id session.origin) :
    Follows E allowed Inv (rotateTokens E user session presented expiresAt attempts) s := by
  induction attempts generalizing s with
  | zero => exact follows_fail
  | succ attempts ih =>
    refine follows_step (fun _ _ _ => hpresented) fun s₁ s₁' hlater₁ _ _ hexec hstep => ?_
    have hknown₁ := (hknown.later hlater₁).later hstep
    split
    · next hmatch =>
        split
        · exact ih hknown₁
        · next hdup =>
            have hlog : .exchanged presented session.id user.id ∈ s₁'.log :=
              hexec ▸ exchanged_rotate hmatch (by simpa using hdup)
            refine follows_step (fun s₂ hlater₂ _ => hlater₂.log _ hlog)
              fun s₂ s₂' hlater₂ _ _ _ hstep₂ => ?_
            exact follows_signTokens ((hknown₁.later hlater₂).later hstep₂)
              (.inr ⟨presented, hstep₂.log _ (hlater₂.log _ hlog)⟩)
    · exact follows_fail

theorem findUser_id {s : AuthState} {id : String} {user : UserRow}
    (h : s.findUser id = some user) : user.id = id := by
  simpa using List.find?_some h

theorem findByRefreshToken_mem {s : AuthState} {token : String} {session : SessionRow}
    (h : s.findByRefreshToken E token = some session) : session ∈ s.sessions := by
  obtain h | ⟨-, h⟩ := Option.or_eq_some_iff.mp h
  · exact List.mem_of_find?_eq_some h
  · exact List.mem_of_find?_eq_some h

theorem known_of_mem {s : AuthState} (hnumbered : s.Numbered) {session : SessionRow}
    (h : session ∈ s.sessions) : s.Known session.id session.userId session.origin := by
  refine ⟨hnumbered.below session h, fun r hr hid => ?_⟩
  obtain rfl := hnumbered.eq_of_id hr h hid
  exact ⟨rfl, rfl⟩

theorem follows_refresh (hnumbered : ∀ s, Inv s → s.Numbered) (token : String) (s : AuthState) :
    Follows E allowed Inv (refresh E token) s := by
  unfold refresh
  by_cases htoken : token = ""
  · rw [if_pos htoken]
    exact follows_fail
  · rw [if_neg htoken]
    refine follows_step (fun _ _ _ => trivial) fun s₁ s₁' _ hinv₁ _ _ hstep₁ => ?_
    split
    · refine follows_step (fun _ _ _ => trivial) fun s₂ s₂' _ _ _ _ _ => ?_
      split
      · refine follows_step (fun _ _ _ => trivial) fun _ _ _ _ _ _ _ => ?_
        exact follows_step (fun _ _ _ => trivial) fun _ _ _ _ _ _ _ => follows_fail
      · exact follows_fail
    · next session hsession =>
        have hknown := known_of_mem (hnumbered s₁ hinv₁) (findByRefreshToken_mem hsession)
        refine follows_step (fun _ _ _ => trivial) fun s₂ s₂' hlater₂ _ _ _ hstep₂ => ?_
        split
        · exact follows_fail
        · split
          · exact follows_fail
          · next user huser =>
              have hknown₂ := ((hknown.later hstep₁).later hlater₂).later hstep₂
              rw [← findUser_id huser] at hknown₂
              refine follows_step (fun _ _ _ => trivial) fun s₃ s₃' hlater₃ _ _ _ hstep₃ => ?_
              exact follows_rotateTokens htoken _ 5 ((hknown₂.later hlater₃).later hstep₃)

theorem follows_logout (token : String) (s : AuthState) :
    Follows E allowed Inv (logout token) s := by
  unfold logout
  split
  · exact follows_done
  · exact follows_step (fun _ _ _ => trivial) fun _ _ _ _ _ _ _ => follows_done

theorem factorPresented_findFactor {s : AuthState} {userId code : String} {user : UserRow}
    (huser : s.findUser userId = some user) (hcode : verifies E user.factor code s.now = true) :
    .factorPresented userId user.factor ∈ (exec E (.findFactor userId code) s).log := by
  simp [exec, factorEvents, huser, hcode]

/-- Whatever follows `verifyUserCode` runs with the code presented. -/
theorem follows_verifyUserCode {userId code : String} {k : Factor → Program} {s : AuthState}
    (hk : ∀ s' factor, s.Later s' → s'.Presented userId factor →
      Follows E allowed Inv (k factor) s') :
    Follows E allowed Inv (verifyUserCode E userId code k) s := by
  refine follows_step (fun _ _ _ => trivial) fun s₁ s₁' hlater₁ _ _ hexec hstep₁ => ?_
  split
  · exact follows_fail
  · next user huser =>
      split
      · exact follows_fail
      · next hverifies =>
          have hcode : verifies E user.factor code s₁.now = true := by simpa using hverifies
          have hlog : .factorPresented userId user.factor ∈ s₁'.log := by
            rw [hexec]
            exact factorPresented_findFactor huser hcode
          by_cases htotp : totpMatches E user.factor code s₁.now = true
          · rw [if_pos htotp]
            exact hk s₁' user.factor (hlater₁.trans hstep₁) ⟨user.factor, .refl _, hlog⟩
          · rw [if_neg htotp]
            refine follows_step (fun s₂ hlater₂ _ => ⟨user.factor, .refl _, hlater₂.log _ hlog⟩)
              fun s₂ s₂' hlater₂ _ _ _ hstep₂ => ?_
            refine hk _ _ ((hlater₁.trans hstep₁).trans (hlater₂.trans hstep₂)) ?_
            exact ⟨user.factor, ⟨rfl, rfl, List.erase_sublist⟩,
              hstep₂.log _ (hlater₂.log _ hlog)⟩

theorem follows_beginSetup {userId : String} {s : AuthState}
    (htoken : ∃ t ∈ s.issued, t.sub = userId) :
    Follows E allowed Inv (beginSetup userId) s := by
  obtain ⟨t, ht, hsub⟩ := htoken
  exact follows_step (fun _ hlater _ => ⟨t, hlater.issued t ht, hsub⟩)
    fun _ _ _ _ _ _ _ => follows_done

theorem follows_confirmSetup {userId code : String} {k : Program} {s : AuthState}
    (htoken : ∃ t ∈ s.issued, t.sub = userId)
    (hk : ∀ s', s.Later s' → Follows E allowed Inv k s') :
    Follows E allowed Inv (confirmSetup E userId code k) s := by
  obtain ⟨t, ht, hsub⟩ := htoken
  refine follows_step (fun _ _ _ => trivial) fun s₁ s₁' hlater₁ _ _ _ hstep₁ => ?_
  split
  · exact follows_fail
  · split
    · have ht₁ := hstep₁.issued t (hlater₁.issued t ht)
      refine follows_step (fun _ hlater₂ _ => ⟨t, hlater₂.issued t ht₁, hsub⟩)
        fun s₂ s₂' hlater₂ _ _ _ hstep₂ => ?_
      exact hk _ ((hlater₁.trans hstep₁).trans (hlater₂.trans hstep₂))
    · exact follows_fail

theorem follows_login (hnumbered : ∀ s, Inv s → s.Numbered) (email password : String)
    (mfaCode : Option String) (s : AuthState) :
    Follows E allowed Inv (login E email password mfaCode) s := by
  have hrefused : ∀ s, Follows E allowed Inv
      (.step (.recordLoginFailure (normalizeEmail email)) fun _ => .fail) s := fun _ =>
    follows_step (fun _ _ _ => trivial) fun _ _ _ _ _ _ _ => follows_fail
  have hgranted : ∀ s user mfaVerifiedAt,
      s.Entitled user.id (.password user.passwordEpoch) → Follows E allowed Inv
        (.step (.clearLoginFailures (normalizeEmail email)) fun _ =>
          generateTokens E user mfaVerifiedAt (.password user.passwordEpoch)) s :=
    fun s user mfaVerifiedAt hwhy =>
      follows_step (fun _ _ _ => trivial) fun _ _ hlater _ _ _ hstep =>
        follows_generateTokens hnumbered _ ((hwhy.later hlater).later hstep)
  refine follows_step (fun _ _ _ => trivial) fun s₁ s₁' _ _ _ _ _ => ?_
  split
  · exact follows_fail
  · refine follows_step (fun _ _ _ => trivial) fun s₂ s₂' _ _ _ hexec₂ _ => ?_
    simp only
    split
    · exact hrefused _
    · next user huser =>
        split
        · exact hrefused _
        · next hvalid =>
            have hlog : .passwordChecked user.id user.passwordEpoch user.factor.mfaEnabled
                (truthy mfaCode) ∈ s₂'.log := by
              rw [hexec₂]
              simp only [Bool.or_eq_true, Bool.not_eq_true', not_or, Bool.not_eq_false] at hvalid
              simp [exec, loginEvents, huser, hvalid]
            refine follows_step (fun _ _ _ => trivial) fun s₃ s₃' hlater₃ _ _ _ hstep₃ => ?_
            have hlog₃ := hstep₃.log _ (hlater₃.log _ hlog)
            split
            · next henabled =>
                rw [henabled] at hlog₃
                split
                · next hcode =>
                    rw [hcode] at hlog₃
                    refine follows_verifyUserCode fun s₄ factor hlater₄ hpresented => ?_
                    obtain ⟨before, -, hbefore⟩ := hpresented
                    exact hgranted _ _ _
                      (.passwordAndCode ⟨_, rfl, hlater₄.log _ hlog₃⟩ before hbefore)
                · next hcode =>
                    rw [Bool.not_eq_true] at hcode
                    rw [hcode] at hlog₃
                    exact follows_step (fun _ hlater₄ _ => .login ⟨_, rfl, hlater₄.log _ hlog₃⟩)
                      fun _ _ _ _ _ _ _ => follows_done
            · next henabled =>
                rw [Bool.not_eq_true] at henabled
                rw [henabled] at hlog₃
                split
                · exact follows_step (fun _ hlater₄ _ => .enroll _ ⟨_, rfl, hlater₄.log _ hlog₃⟩)
                    fun _ _ _ _ _ _ _ => follows_done
                · exact hgranted _ _ _ (.passwordOnly _ ⟨_, rfl, hlog₃⟩)

theorem follows_withChallenge {token : Jwt} {purpose : Purpose} {k : UserRow → Int → Program}
    {s : AuthState}
    (hk : ∀ s' user now, s.Later s' → user.id = token.sub → Follows E allowed Inv (k user now) s') :
    Follows E allowed Inv (withChallenge token purpose k) s := by
  refine follows_step (fun _ _ _ => trivial) fun s₁ s₁' hlater₁ _ _ _ hstep₁ => ?_
  split
  · split
    · next user huser =>
        split
        · exact hk _ _ _ (hlater₁.trans hstep₁) (findUser_id huser)
        · exact follows_fail
    · exact follows_fail
  · exact follows_fail

theorem follows_trusted (hnumbered : ∀ s, Inv s → s.Numbered) {user : UserRow} {s : AuthState}
    (mfaVerifiedAt : Option Int) (hlog : .trustedLogin user.id ∈ s.log) :
    Follows E allowed Inv (generateTokens E user mfaVerifiedAt .trusted) s :=
  follows_generateTokens hnumbered _ (.trusted rfl hlog)

theorem follows_completeSsoLogin (hnumbered : ∀ s, Inv s → s.Numbered) (userId : String)
    (trustedMfa : Bool) (s : AuthState) :
    Follows E allowed Inv (completeSsoLogin E userId trustedMfa) s := by
  refine follows_step (fun _ _ _ => trivial) fun s₁ s₁' _ _ _ hexec₁ _ => ?_
  split
  · exact follows_fail
  · next user huser =>
      have hlog : .trustedLogin user.id ∈ s₁'.log := by
        rw [hexec₁, findUser_id huser]
        exact List.mem_cons_self
      split
      · exact follows_fail
      · refine follows_step (fun _ _ _ => trivial) fun s₂ s₂' hlater₂ _ _ _ hstep₂ => ?_
        have hlog₂ := hstep₂.log _ (hlater₂.log _ hlog)
        split
        · exact follows_step (fun _ hlater₃ _ => .trusted rfl (hlater₃.log _ hlog₂))
            fun _ _ _ _ _ _ _ => follows_done
        · exact follows_trusted hnumbered _ hlog₂

theorem follows_completePasskeyLogin (hnumbered : ∀ s, Inv s → s.Numbered) (userId : String)
    (s : AuthState) : Follows E allowed Inv (completePasskeyLogin E userId) s := by
  refine follows_step (fun _ _ _ => trivial) fun s₁ s₁' _ _ _ hexec₁ _ => ?_
  split
  · exact follows_fail
  · next user huser =>
      have hlog : .trustedLogin user.id ∈ s₁'.log := by
        rw [hexec₁, findUser_id huser]
        exact List.mem_cons_self
      split
      · exact follows_fail
      · refine follows_step (fun _ _ _ => trivial) fun s₂ s₂' hlater₂ _ _ _ hstep₂ => ?_
        exact follows_trusted hnumbered _ (hstep₂.log _ (hlater₂.log _ hlog))

theorem follows_withUser {token : Jwt} {k : UserRow → Option Nat → Program} {s : AuthState}
    (hk : ∀ s' user sid, s.Later s' → user.id = token.sub →
      Follows E allowed Inv (k user sid) s') :
    Follows E allowed Inv (withUser token k) s := by
  refine follows_step (fun _ _ _ => trivial) fun s₁ s₁' hlater₁ _ _ _ hstep₁ => ?_
  split
  · next user huser =>
      split
      · exact hk _ _ _ (hlater₁.trans hstep₁) (findUser_id huser)
      · exact follows_fail
  · exact follows_fail

theorem follows_authenticated {token : Jwt} {k : UserRow → Option Nat → Program} {s : AuthState}
    (hk : ∀ s' user sid, s.Later s' → user.id = token.sub →
      Follows E allowed Inv (k user sid) s') :
    Follows E allowed Inv (authenticated token k) s := by
  have hwithUser : ∀ s', s.Later s' → Follows E allowed Inv (withUser token k) s' :=
    fun s' hlater => follows_withUser fun s'' user sid hlater' hid =>
      hk s'' user sid (hlater.trans hlater') hid
  refine follows_step (fun _ _ _ => trivial) fun s₁ s₁' hlater₁ _ _ _ hstep₁ => ?_
  have hlater := hlater₁.trans hstep₁
  split
  · split
    · exact hwithUser _ hlater
    · split
      · exact follows_fail
      · split
        · exact follows_step (fun _ _ _ => trivial) fun _ _ hlater₂ _ _ _ hstep₂ =>
            hwithUser _ (hlater.trans (hlater₂.trans hstep₂))
        · exact hwithUser _ hlater
  · exact follows_fail

theorem follows_withPassword {userId password : String} {k : Program} {s : AuthState}
    (hk : ∀ s', s.Later s' → Follows E allowed Inv k s') :
    Follows E allowed Inv (withPassword E userId password k) s := by
  refine follows_step (fun _ _ _ => trivial) fun s₁ s₁' hlater₁ _ _ _ hstep₁ => ?_
  split
  · exact hk _ (hlater₁.trans hstep₁)
  · exact follows_fail

theorem follows_disable (userId code : String) (s : AuthState) :
    Follows E allowed Inv (disable E userId code) s :=
  follows_verifyUserCode fun _ _ _ hpresented =>
    follows_step (fun _ hlater _ => hpresented.later hlater) fun _ _ _ _ _ _ _ => follows_done

theorem follows_regenerateRecoveryCodes (userId code : String) (s : AuthState) :
    Follows E allowed Inv (regenerateRecoveryCodes E userId code) s :=
  follows_verifyUserCode fun _ _ _ hpresented =>
    follows_step (fun _ hlater _ => hpresented.later hlater) fun _ _ _ _ _ _ _ => follows_done

theorem follows_setPassword (userId password : String) (clearsReset : Bool) (s : AuthState) :
    Follows E allowed Inv (.step (.setPassword userId password clearsReset) fun _ =>
      .step (.deleteSessions userId) fun _ => .done) s :=
  follows_step (fun _ _ _ => trivial) fun _ _ _ _ _ _ _ =>
    follows_step (fun _ _ _ => trivial) fun _ _ _ _ _ _ _ => follows_done

theorem follows_resetPassword (token password : String) (s : AuthState) :
    Follows E allowed Inv (resetPassword E token password) s := by
  unfold resetPassword
  split
  · exact follows_fail
  · refine follows_step (fun _ _ _ => trivial) fun s₁ s₁' _ _ _ _ _ => ?_
    split
    · exact follows_fail
    · refine follows_step (fun _ _ _ => trivial) fun s₂ s₂' _ _ _ _ _ => ?_
      split
      · exact follows_fail
      · exact follows_setPassword _ _ _ _

theorem follows_handler (hnumbered : ∀ s, Inv s → s.Numbered) {req : Request} {s : AuthState}
    (hsend : (authSystem E).sendable s req) :
    Follows E allowed Inv ((authSystem E).handler req) s := by
  cases req with
  | login email password mfaCode => exact follows_login hnumbered _ _ _ s
  | beginChallengeEnrollment token =>
    exact follows_withChallenge fun s' user now hlater hid =>
      follows_beginSetup ⟨token, hlater.issued _ (hsend token rfl), hid.symm⟩
  | confirmChallengeEnrollment token code =>
    change Follows E allowed Inv (confirmChallengeEnrollment E token code) s
    refine follows_withChallenge fun s' user now hlater hid => ?_
    have hissued := hlater.issued _ (hsend token rfl)
    exact follows_confirmSetup ⟨token, hissued, hid.symm⟩ fun s'' hlater' =>
      follows_generateTokens hnumbered _
        (.challenge token (hlater'.issued _ hissued) hid.symm rfl)
  | confirmChallengeLogin token code =>
    change Follows E allowed Inv (confirmChallengeLogin E token code) s
    refine follows_withChallenge fun s' user now hlater hid => ?_
    have hissued := hlater.issued _ (hsend token rfl)
    refine follows_verifyUserCode fun s'' factor hlater' _ => ?_
    refine follows_step (fun _ _ _ => trivial) fun _ _ hlater₁ _ _ _ hstep₁ => ?_
    exact follows_generateTokens hnumbered _ (.challenge token
      (hstep₁.issued _ (hlater₁.issued _ (hlater'.issued _ hissued))) hid.symm rfl)
  | completeSsoLogin userId => exact follows_completeSsoLogin hnumbered _ _ s
  | completePasskeyLogin userId => exact follows_completePasskeyLogin hnumbered _ s
  | refresh token => exact follows_refresh hnumbered _ s
  | logout token => exact follows_logout _ s
  | beginMfaSetup token =>
    exact follows_authenticated fun s' user sid hlater hid =>
      follows_beginSetup ⟨token, hlater.issued _ (hsend token rfl), hid.symm⟩
  | confirmMfaSetup token code =>
    exact follows_authenticated fun s' user sid hlater hid =>
      follows_confirmSetup ⟨token, hlater.issued _ (hsend token rfl), hid.symm⟩
        fun _ _ => follows_done
  | disableMfa token code password =>
    change Follows E allowed Inv (disableMfa E token code password) s
    refine follows_authenticated fun s' user sid hlater hid => ?_
    split
    · exact follows_step (fun _ _ _ => trivial) fun _ _ _ _ _ _ _ => follows_fail
    · exact follows_withPassword fun s'' _ => follows_disable _ _ s''
  | regenerateRecoveryCodes token code password =>
    exact follows_authenticated fun s' user sid _ _ =>
      follows_withPassword fun s'' _ => follows_regenerateRecoveryCodes _ _ s''
  | stepUp token code =>
    change Follows E allowed Inv (stepUp E token code) s
    refine follows_authenticated fun s' user sid _ _ => ?_
    split
    · exact follows_fail
    · refine follows_verifyUserCode fun s'' factor _ _ => ?_
      refine follows_step (fun _ _ _ => trivial) fun _ _ _ _ _ _ _ => ?_
      split
      · exact follows_done
      · exact follows_fail
  | revokeSession token sessionId =>
    change Follows E allowed Inv (revokeSession token sessionId) s
    refine follows_authenticated fun s' user sid _ _ => ?_
    refine follows_step (fun _ _ _ => trivial) fun _ _ _ _ _ _ _ => ?_
    split
    · exact follows_done
    · exact follows_fail
  | revokeOtherSessions token =>
    change Follows E allowed Inv (revokeOtherSessions token) s
    exact follows_authenticated fun s' user sid _ _ =>
      follows_step (fun _ _ _ => trivial) fun _ _ _ _ _ _ _ => follows_done
  | changePassword token oldPassword newPassword =>
    change Follows E allowed Inv (changePassword E token oldPassword newPassword) s
    refine follows_authenticated fun s' user sid _ _ => ?_
    refine follows_step (fun _ _ _ => trivial) fun s₁ s₁' _ _ _ _ _ => ?_
    split
    · exact follows_fail
    · split
      · exact follows_fail
      · exact follows_setPassword _ _ _ _
  | resetPassword token password => exact follows_resetPassword _ _ s
  | forgotPassword email =>
    refine follows_step (fun _ _ _ => trivial) fun s₁ s₁' _ _ _ _ _ => ?_
    split
    · exact follows_done
    · exact follows_step (fun _ _ _ => trivial) fun _ _ _ _ _ _ _ => follows_done
  | revokeSessionsForUser userId =>
    exact follows_step (fun _ _ _ => trivial) fun _ _ _ _ _ _ _ =>
      follows_step (fun _ _ _ => trivial) fun _ _ _ _ _ _ _ => follows_done

theorem cooperation_of (hnumbered : ∀ s, Inv s → s.Numbered)
    (hexec : ∀ op s, Inv s → allowed op s → Justified op s → Inv (exec E op s))
    (htick : ∀ s, Inv s → Inv { s with now := s.now + 1 }) :
    Cooperation (authSystem E) allowed Inv Later Justified where
  refl := Later.refl
  trans := Later.trans
  exec hinv hallowed hgood := ⟨hexec _ _ hinv hallowed hgood, later_exec E _ _⟩
  tick hinv := ⟨htick _ hinv, (quiet_tick _).later⟩
  handler {req s} _ hsend := by
    have hfollows : Follows E allowed Inv ((authSystem E).handler req) s :=
      follows_handler hnumbered hsend
    unfold Follows at hfollows
    exact hfollows

end Programs
end FieldserviceIT.Auth
