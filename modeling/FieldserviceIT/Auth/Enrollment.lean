import FieldserviceIT.Auth.SecondFactor

/-!
Changes to a second factor that is on. Turning it off, new recovery codes and a
spent recovery code come after a code was checked, against the factor as it was
then. Confirming a setup asks for no code of the factor it replaces.
-/

namespace FieldserviceIT.Auth

open AuthState Common Lib

section Statement

/-- A factor is set up only where none is on, and written only while what was checked, or
what is left of it, is still what is stored. -/
def OnStoredFactor (op : Op) (s : AuthState) : Prop :=
  match op with
  | .enableFactor userId _ =>
    ∀ user, s.findUser userId = some user → user.factor.mfaEnabled = false
  | .consumeRecoveryCode userId _ checked | .disableFactor userId checked
  | .replaceRecoveryCodes userId checked => ∀ user, s.findUser userId = some user →
      user.factor.mfaEnabled = true → user.factor.LeftOf checked
  | _ => True

/-- A run starts with nothing done. -/
structure StartsOver (s : AuthState) : Prop where
  numbered : s.Numbered
  log : s.log = []

end Statement

section Runs

variable {E : Platform} {userId : String} {s : AuthState} {op : Op} {user : UserRow}

theorem Factor.LeftOf.trans {f g h : Factor} (hfg : f.LeftOf g) (hgh : g.LeftOf h) : f.LeftOf h :=
  ⟨hfg.mfaEnabled.trans hgh.mfaEnabled, hfg.mfaSecret.trans hgh.mfaSecret,
    hfg.mfaRecoveryCodes.trans hgh.mfaRecoveryCodes⟩

theorem AuthState.Presented.leftOf {f g : Factor} (h : s.Presented userId g) (hleft : f.LeftOf g) :
    s.Presented userId f := by
  obtain ⟨before, hbefore, hlog⟩ := h
  exact ⟨before, hleft.trans hbefore, hlog⟩

theorem presented_of_owner (hallowed : OnStoredFactor op s) (hgood : Justified op s)
    (howner : op.factorOwner = some userId) (huser : s.findUser userId = some user)
    (hon : user.factor.mfaEnabled = true) : s.Presented userId user.factor := by
  cases op with
  | enableFactor owner secret =>
    obtain rfl := Option.some.inj howner
    rw [hallowed user huser] at hon
    cases hon
  | consumeRecoveryCode owner remaining checked | disableFactor owner checked
  | replaceRecoveryCodes owner checked =>
    obtain rfl := Option.some.inj howner
    exact hgood.leftOf (hallowed user huser hon)
  | _ => cases howner

theorem numbered_cooperation (E : Platform) (allowed : Op → AuthState → Prop) :
    Cooperation (authSystem E) allowed Numbered Later Justified :=
  cooperation_of (fun _ h => h) (fun op _ h _ _ => numbered_exec E op h)
    fun _ h => ⟨h.below, h.distinct⟩

/-- However the requests follow each other and run side by side, a second factor that is on
changes only where a code of it has been presented in the run. -/
theorem factor_needs_code {c₀ c c' : Config AuthState Op} {user' : UserRow}
    (hidle : c₀.threads = []) (hstart : StartsOver c₀.shared)
    (hrun : (authSystem E).Run OnStoredFactor c₀ c) (hstep : (authSystem E).Step OnStoredFactor c c')
    (huser : c.shared.findUser userId = some user)
    (huser' : c'.shared.findUser userId = some user') (hon : user.factor.mfaEnabled = true)
    (hchanged : user'.factor ≠ user.factor) : c.shared.Presented userId user.factor := by
  have hcooperation := numbered_cooperation E OnStoredFactor
  have hsafe := hcooperation.run hrun (Config.safe_of_idle hstart.numbered hidle)
  have hsame : ∀ {s'}, s' = c.shared → c'.shared.findUser userId = s'.findUser userId → False := by
    intro s' hs' heq
    rw [hs', huser, huser'] at heq
    exact hchanged (congrArg UserRow.factor (Option.some.inj heq))
  obtain hshared | hshared | ⟨op, hgood, hallowed, hshared⟩ := hcooperation.effect hstep hsafe.1
  · exact (hsame rfl (by rw [hshared])).elim
  · exact (hsame rfl (by rw [hshared]; rfl)).elim
  · obtain ⟨change, husers, hkeeps⟩ := users_exec E op c.shared
    have hfound := findUser_map husers hkeeps.id userId
    rw [hshared] at huser'
    have hrow : some user' = some (change user) := by
      rw [← huser', ← Option.map_some, ← huser]
      exact hfound
    obtain rfl := Option.some.inj hrow
    have hid := findUser_id huser
    by_cases howner : op.factorOwner = some userId
    · exact presented_of_owner hallowed hgood howner huser hon
    · exact absurd (hkeeps.factor user (hid ▸ howner)) hchanged

end Runs

section Samples

/-- The token of a login by password and code, and of one by password alone. -/
def sampleAccess : Jwt :=
  ⟨"user-1", some 0, some 0, none, 1700000900000, .password 0⟩

def sampleChallenge : Jwt :=
  ⟨"user-1", none, none, some .login, 1700000300000, .password 0⟩

instance (f before : Factor) : Decidable (f.LeftOf before) :=
  decidable_of_iff (f.mfaEnabled = before.mfaEnabled ∧ f.mfaSecret = before.mfaSecret ∧
      f.mfaRecoveryCodes.Sublist before.mfaRecoveryCodes)
    ⟨fun h => ⟨h.1, h.2.1, h.2.2⟩, fun h => ⟨h.mfaEnabled, h.mfaSecret, h.mfaRecoveryCodes⟩⟩

def isOnStoredFactor (op : Op) (s : AuthState) : Bool :=
  match op with
  | .enableFactor userId _ => (s.findUser userId).all fun user => !user.factor.mfaEnabled
  | .consumeRecoveryCode userId _ checked | .disableFactor userId checked
  | .replaceRecoveryCodes userId checked => (s.findUser userId).all fun user =>
    !user.factor.mfaEnabled || decide (user.factor.LeftOf checked)
  | _ => true

theorem onStoredFactor_of_bool {op : Op} {s : AuthState} (h : isOnStoredFactor op s = true) :
    OnStoredFactor op s := by
  cases op with
  | enableFactor userId secret =>
    intro user huser
    simpa [isOnStoredFactor, huser] using h
  | consumeRecoveryCode userId remaining checked | disableFactor userId checked
  | replaceRecoveryCodes userId checked =>
    intro user huser hon
    simpa [isOnStoredFactor, huser, hon] using h
  | _ => trivial

theorem startsOver_sampleStart : StartsOver sampleStart.shared :=
  ⟨begins_sampleEnrolled.numbered, rfl⟩

/-- The step changes the user's factor, which was the one of the start. -/
def changesFactor (c c' : Config AuthState Op) : Bool :=
  (c.shared.findUser "user-1").any fun user => (c'.shared.findUser "user-1").any fun user' =>
    decide (user.factor = sampleEnrolled.factor ∧ user'.factor ≠ user.factor)

theorem exists_of_changesFactor {c c' : Config AuthState Op} (h : changesFactor c c' = true) :
    ∃ user user', c.shared.findUser "user-1" = some user ∧
      c'.shared.findUser "user-1" = some user' ∧ user.factor = sampleEnrolled.factor ∧
        user'.factor ≠ user.factor := by
  obtain ⟨user, huser, h⟩ := (Option.any_eq_true _ _).mp h
  obtain ⟨user', huser', h⟩ := (Option.any_eq_true _ _).mp h
  obtain ⟨hfactor, hchanged⟩ := of_decide_eq_true h
  exact ⟨user, user', huser, huser', hfactor, hchanged⟩

theorem factor_needs_code_disabled : ∃ c, (authSystem samplePlatform).Run OnStoredFactor sampleStart c ∧
    c.shared.Presented "user-1" sampleEnrolled.factor := by
  have hplay : ((authSystem samplePlatform).play holdsToken isOnStoredFactor sampleStart
      (.start (.login "ann@example.org" samplePassword (some "833947")) ::
        List.replicate 9 (.run 0) ++
        .start (.disableMfa sampleAccess "833947" samplePassword) :: List.replicate 4 (.run 1))).any
        (fun c => ((authSystem samplePlatform).move holdsToken isOnStoredFactor c (.run 1)).any
          (changesFactor c)) = true := by
    decide
  obtain ⟨c, c', hrun, hstep, hcheck⟩ := System.exists_step_of_play
    (fun _ _ => sendable_of_holdsToken) (fun _ _ => onStoredFactor_of_bool) hplay
  obtain ⟨user, user', huser, huser', hfactor, hchanged⟩ := exists_of_changesFactor hcheck
  refine ⟨c, hrun, hfactor ▸ factor_needs_code sampleStart_idle startsOver_sampleStart hrun hstep
    huser huser' ?_ hchanged⟩
  rw [hfactor]
  rfl

/-- A password is enough: the challenge token of a login without a code begins a setup and
confirms it. -/
theorem factor_replaced_by_password : ¬ ∀ (E : Platform) (userId : String)
    (c₀ c c' : Config AuthState Op) (user user' : UserRow), c₀.threads = [] →
    StartsOver c₀.shared → (authSystem E).Run (fun _ _ => True) c₀ c →
    (authSystem E).Step (fun _ _ => True) c c' → c.shared.findUser userId = some user →
    c'.shared.findUser userId = some user' → user.factor.mfaEnabled = true →
      user'.factor ≠ user.factor → c.shared.Presented userId user.factor := by
  intro hall
  have hplay : ((authSystem samplePlatform).play holdsToken (fun _ _ => true) sampleStart
      (sampleLogin none ++ .start (.beginMfaSetup sampleChallenge) :: List.replicate 3 (.run 1) ++
        .start (.confirmMfaSetup sampleChallenge "833947") :: List.replicate 3 (.run 2))).any
        (fun c => ((authSystem samplePlatform).move holdsToken (fun _ _ => true) c (.run 2)).any
          fun c' => changesFactor c c' &&
            decide (c.shared.log = [.passwordChecked "user-1" 0 true false])) = true := by
    decide
  obtain ⟨c, c', hrun, hstep, hcheck⟩ := System.exists_step_of_play
    (fun _ _ => sendable_of_holdsToken) (fun _ _ _ => trivial) hplay
  rw [Bool.and_eq_true] at hcheck
  obtain ⟨user, user', huser, huser', hfactor, hchanged⟩ := exists_of_changesFactor hcheck.1
  have hlog := of_decide_eq_true hcheck.2
  obtain ⟨before, -, hpresented⟩ := hall samplePlatform "user-1" sampleStart c c' user user' rfl
    startsOver_sampleStart hrun hstep huser huser' (by rw [hfactor]; rfl) hchanged
  simp [hlog] at hpresented

end Samples
end FieldserviceIT.Auth
