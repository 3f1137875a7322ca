import FieldserviceIT.Auth.Enrollment
import FieldserviceIT.Lib.Backoff
import FieldserviceIT.Lib.Protocols

/-!
The lockout of the login. A failed password is counted against the account, and at the
fifth the account is locked for a quarter of an hour. Logins, confirmed challenges and
step-ups run side by side; every credential they try is a guess, whether it is counted
or not.
-/

namespace FieldserviceIT.Auth

open Common Lib

/-- The store, the times at which credentials of an account were tried since its counter
was last reset, and whether a guess at its password is still to be counted. -/
structure Attempts where
  auth : AuthState
  guesses : String → List Int
  uncounted : String → Bool

inductive Attempt where
  | login (email password : String) (mfaCode : Option String)
  | confirmChallengeLogin (token : Jwt) (code : String)
  | stepUp (token : Jwt) (code : String)

def Attempt.request : Attempt → Request
  | .login email password mfaCode => .login email password mfaCode
  | .confirmChallengeLogin token code => .confirmChallengeLogin token code
  | .stepUp token code => .stepUp token code

namespace Attempts

variable (s : Attempts) (email : String)

def guess : List Int :=
  s.auth.now :: s.guesses email

def setGuesses (times : List Int) : String → List Int :=
  fun e => if e = email then times else s.guesses e

def setUncounted (value : Bool) : String → Bool :=
  fun e => if e = email then value else s.uncounted e

/-- `enforceLoginBackoff` refuses the account. -/
def isLocked : Bool :=
  (s.auth.loginFailures email).any fun f => f.lockedUntil.any fun t => decide (s.auth.now < t)

end Attempts

section Exec

variable (E : Platform)

def execAttempt (op : Op) (s : Attempts) : Attempts :=
  match op with
  | .findUserForLogin email _ _ =>
    ⟨exec E op s.auth, s.setGuesses email (s.guess email), s.setUncounted email true⟩
  | .findFactor userId _ =>
    match s.auth.findUser userId with
    | some u => { s with
        auth := exec E op s.auth
        guesses := s.setGuesses u.email (s.guess u.email) }
    | none => { s with auth := exec E op s.auth }
  | .recordLoginFailure email => { s with
      auth := exec E op s.auth
      uncounted := s.setUncounted email false }
  | .clearLoginFailures email =>
    ⟨exec E op s.auth, s.setGuesses email [], s.setUncounted email false⟩
  | _ => { s with auth := exec E op s.auth }

def attemptSystem : System Attempts Op Attempt where
  exec := execAttempt E
  tick s := { s with auth := (authSystem E).tick s.auth }
  handler attempt := ((authSystem E).handler attempt.request).embed Attempts.auth id
  sendable s attempt := (authSystem E).sendable s.auth attempt.request

end Exec

/-- Only passwords are tried, each when all guesses before it have been counted and the
account is not locked. -/
def CountedInTurn (op : Op) (s : Attempts) : Prop :=
  match op with
  | .findUserForLogin email _ _ => s.uncounted email = false ∧ s.isLocked email = false
  | .findFactor _ _ => False
  | _ => True

/-- No quarter of an hour holds more than five guesses at an account. -/
def LockoutBound (s : Attempts) : Prop :=
  ∀ email, Bounded lockMs 5 (s.guesses email)

/-- A counter is reset for an account that needs no second factor and whose password was
right. -/
def ResetsOnProof (E : Platform) (op : Op) (s : Attempts) : Prop :=
  match op with
  | .clearLoginFailures email => ∃ u ∈ s.auth.users, ∃ withCode, u.email = email ∧
      E.isRequired u.role = false ∧
        .passwordChecked u.id u.passwordEpoch false withCode ∈ s.auth.log
  | _ => True

section Counting

variable {failure : Option LoginFailure} {times : List Int} {t now : Int}

/-- The stored row stands for these guesses, the latest of them no later than this. -/
def Counted (failure : Option LoginFailure) (times : List Int) (latest : Int) : Prop :=
  match failure with
  | none => times = []
  | some f => Tally lockMs 5 times f.failureCount f.lastFailureAt ∧ f.lastFailureAt ≤ latest ∧
      (5 ≤ f.failureCount → f.lockedUntil = some (f.lastFailureAt + lockMs))

theorem Counted.later (h : Counted failure times t) (hnow : t ≤ now) :
    Counted failure times now := by
  cases failure with
  | none => exact h
  | some f => exact ⟨h.1, Int.le_trans h.2.1 hnow, h.2.2⟩

theorem Counted.bounded (h : Counted failure times t) : Bounded lockMs 5 times := by
  cases failure with
  | none =>
    obtain rfl := h
    exact bounded_nil
  | some f => exact h.1.bounded

theorem Counted.bounded_cons (h : Counted failure times now)
    (hopen : (failure.any fun f => f.lockedUntil.any fun t => decide (now < t)) = false) :
    Bounded lockMs 5 (now :: times) := by
  cases failure with
  | none =>
    obtain rfl := h
    have hnothing : Tally lockMs 5 [] 0 now := tally_nil
    exact hnothing.bounded_cons (by decide) (Int.le_refl now) (by omega)
  | some f =>
    obtain ⟨htally, hlast, hlocked⟩ := h
    refine htally.bounded_cons (by decide) hlast fun hcount => ?_
    rw [Option.any_some, hlocked hcount, Option.any_some, decide_eq_false_iff_not] at hopen
    omega

/-- `recordLoginFailure` counts the guess. -/
theorem Counted.next (h : Counted failure times t) (hbounded : Bounded lockMs 5 (t :: times))
    (hnow : t ≤ now) : Counted (some (nextFailure now failure)) (t :: times) now := by
  cases failure with
  | none =>
    obtain rfl := h
    have hnothing : Tally lockMs 5 [] 0 t := tally_nil
    have htally := hnothing.record hbounded (Int.le_refl t) hnow
    refine ⟨?_, Int.le_refl now, fun hcount => ?_⟩
    · simpa [nextFailure] using htally
    · simp [nextFailure] at hcount
  | some f =>
    obtain ⟨htally, hlast, -⟩ := h
    refine ⟨htally.record hbounded hlast hnow, Int.le_refl now, fun hcount => ?_⟩
    exact if_pos hcount

/-- An account between two statements: every guess is counted, or the last one is not. -/
inductive Account (s : Attempts) (email : String) : Prop
  | counted (hall : s.uncounted email = false)
      (hcounted : Counted (s.auth.loginFailures email) (s.guesses email) s.auth.now)
  | uncounted {t : Int} {times : List Int} (hlast : s.uncounted email = true)
      (hguesses : s.guesses email = t :: times) (hnow : t ≤ s.auth.now)
      (hcounted : Counted (s.auth.loginFailures email) times t)
      (hbounded : Bounded lockMs 5 (t :: times))

theorem Account.bounded {s : Attempts} {email : String} (h : Account s email) :
    Bounded lockMs 5 (s.guesses email) := by
  cases h with
  | counted _ hcounted => exact hcounted.bounded
  | uncounted _ hguesses _ _ hbounded =>
    rw [hguesses]
    exact hbounded

theorem Account.same {s s' : Attempts} {email : String} (h : Account s email)
    (hfailures : s'.auth.loginFailures email = s.auth.loginFailures email)
    (hguesses : s'.guesses email = s.guesses email)
    (huncounted : s'.uncounted email = s.uncounted email) (hnow : s.auth.now ≤ s'.auth.now) :
    Account s' email := by
  cases h with
  | counted hall hcounted =>
    refine .counted (huncounted.trans hall) ?_
    rw [hfailures, hguesses]
    exact hcounted.later hnow
  | uncounted hlast hsome ht hcounted hbounded =>
    refine .uncounted (huncounted.trans hlast) (hguesses.trans hsome) (Int.le_trans ht hnow) ?_
      hbounded
    rw [hfailures]
    exact hcounted

end Counting

section Steps

variable {E : Platform} {s : Attempts} {email : String}

theorem Account.guess {password : String} {mfaCode : Option String} (h : ∀ e, Account s e)
    (hturn : CountedInTurn (.findUserForLogin email password mfaCode) s) (e : String) :
    Account (execAttempt E (.findUserForLogin email password mfaCode) s) e := by
  obtain ⟨huncounted, hopen⟩ := hturn
  by_cases he : e = email
  · subst he
    cases h e with
    | counted _ hcounted =>
      refine .uncounted (if_pos rfl) (if_pos rfl) (Int.le_refl _) hcounted ?_
      exact hcounted.bounded_cons hopen
    | uncounted hlast =>
      rw [huncounted] at hlast
      cases hlast
  · exact (h e).same rfl (if_neg he) (if_neg he) (Int.le_refl _)

theorem Account.record (h : ∀ e, Account s e) (hlast : s.uncounted email = true) (e : String) :
    Account (execAttempt E (.recordLoginFailure email) s) e := by
  by_cases he : e = email
  · subst he
    cases h e with
    | counted hall =>
      rw [hall] at hlast
      cases hlast
    | uncounted _ hguesses hnow hcounted hbounded =>
      refine .counted (if_pos rfl) ?_
      have hrow : (execAttempt E (.recordLoginFailure e) s).auth.loginFailures e =
          some (nextFailure s.auth.now (s.auth.loginFailures e)) := if_pos rfl
      rw [hrow]
      exact hguesses ▸ hcounted.next hbounded hnow
  · exact (h e).same (if_neg he) rfl (if_neg he) (Int.le_refl _)

theorem Account.clear (h : ∀ e, Account s e) (e : String) :
    Account (execAttempt E (.clearLoginFailures email) s) e := by
  by_cases he : e = email
  · subst he
    refine .counted (if_pos rfl) ?_
    have hrow : (execAttempt E (.clearLoginFailures e) s).auth.loginFailures e = none := if_pos rfl
    rw [hrow]
    exact if_pos rfl
  · exact (h e).same (if_neg he) (if_neg he) (if_neg he) (Int.le_refl _)

end Steps

section Protocol

variable (E : Platform)

/-- The guess a program has in hand: the account, and the row when the password was right. -/
abbrev InHand :=
  Option (String × Option UserRow)

def rightRow (s : AuthState) (email password : String) : Option UserRow :=
  (s.findUserByEmail email).filter fun u =>
    u.isActive && u.passwordHash.any (E.bcryptCompare password)

def needsNoFactor (u : UserRow) : Bool :=
  !u.factor.mfaEnabled && !E.isRequired u.role

def isQuiet : Op → Bool
  | .read | .signChallenge _ _ _ | .signAccess _ _ _ _ | .createSession _ _ _ _ | .trimSessions _
  | .touchSession _ | .stepUpSession _ _ => true
  | _ => false

def takesInHand (inHand : InHand) (op : Op) (s : AuthState) : Option InHand :=
  match inHand, op with
  | none, .findUserForLogin email password _ => some (some (email, rightRow E s email password))
  | some (email, _), .recordLoginFailure other => if other = email then some none else none
  | some (email, found), .clearLoginFailures other =>
    if other = email ∧ found.any (needsNoFactor E) = true then some none else none
  | inHand, op => if isQuiet op then some inHand else none

def triesNoCode (op : Op) (_ : AuthState) : Prop :=
  match op with
  | .findFactor _ _ => False
  | _ => True

variable {E} {inHand : InHand}

theorem takesInHand_quiet {op : Op} (hquiet : isQuiet op = true) (s : AuthState) :
    takesInHand E inHand op s = some inHand := by
  cases inHand with
  | none => cases op <;> first | rfl | cases hquiet
  | some hand =>
    obtain ⟨email, found⟩ := hand
    cases op <;> first | rfl | cases hquiet

/-- The programs of the services hold on to their guess until it is counted. -/
def Holds (E : Platform) (p : Program) (inHand : InHand) : Prop :=
  p.Conforms triesNoCode (takesInHand E) (fun _ => True) inHand

theorem holds_step {op : Op} {next : AuthState → Program} (inHand' : AuthState → InHand)
    (htakes : ∀ s, takesInHand E inHand op s = some (inHand' s))
    (hnext : ∀ s, Holds E (next s) (inHand' s)) : Holds E (.step op next) inHand :=
  Prog.conforms_step inHand' (fun s _ => htakes s) fun s _ => hnext s

theorem holds_of_quiet {p : Program} (h : p.All fun op => isQuiet op = true) :
    Holds E p inHand := by
  induction p with
  | done | fail => trivial
  | step op next ih => exact holds_step (fun _ => inHand) (takesInHand_quiet h.1) fun s => ih s (h.2 s)

theorem quiet_trimSessions (userId : String) (keep : Nat) :
    (trimSessions E userId keep).All fun op => isQuiet op = true := by
  refine Prog.all_step rfl fun s => ?_
  simp only
  split
  · trivial
  · exact Prog.all_step rfl fun _ => trivial

theorem quiet_createTokens (user : UserRow) (mfaVerifiedAt : Option Int) (expiresAt : Int)
    (origin : Origin) (attempts : Nat) :
    (createTokens E user mfaVerifiedAt expiresAt origin attempts).All fun op =>
      isQuiet op = true := by
  induction attempts with
  | zero => trivial
  | succ attempts ih =>
    refine Prog.all_step rfl fun s => ?_
    split
    · exact ih
    · refine Prog.all_step rfl fun s' => ?_
      split
      · exact Prog.all_step rfl fun _ => quiet_trimSessions user.id s.supply
      · trivial

theorem quiet_generateTokens (user : UserRow) (mfaVerifiedAt : Option Int) (origin : Origin) :
    (generateTokens E user mfaVerifiedAt origin).All fun op => isQuiet op = true :=
  Prog.all_step rfl fun _ => quiet_createTokens user mfaVerifiedAt _ origin 5

theorem holds_verifyUserCode (userId code : String) (k : Factor → Program) :
    Holds E (verifyUserCode E userId code k) inHand :=
  fun _ hcode => hcode.elim

theorem holds_refused (email : String) (found : Option UserRow) :
    Holds E (.step (.recordLoginFailure email) fun _ => .fail) (some (email, found)) :=
  holds_step (fun _ => none) (fun _ => if_pos rfl) fun _ => trivial

theorem holds_login (email password : String) (mfaCode : Option String) :
    Holds E (login E email password mfaCode) none := by
  refine holds_step (fun _ => none) (fun _ => rfl) fun s => ?_
  split
  · trivial
  · refine holds_step (fun s' => some (normalizeEmail email,
      rightRow E s' (normalizeEmail email) password)) (fun _ => rfl) fun s' => ?_
    simp only
    split
    · exact holds_refused _ _
    · next user huser =>
        split
        · exact holds_refused _ _
        · next hright =>
            have hfound : rightRow E s' (normalizeEmail email) password = some user := by
              rw [rightRow, huser]
              simp only [Bool.or_eq_true, Bool.not_eq_true', not_or, Bool.not_eq_false] at hright
              exact Option.filter_some_pos (by rw [hright.1, hright.2]; rfl)
            rw [hfound]
            refine holds_step (fun _ => some (normalizeEmail email, some user)) (fun _ => rfl)
              fun s'' => ?_
            split
            · split
              · exact holds_verifyUserCode _ _ _
              · exact holds_of_quiet (Prog.all_step rfl fun _ => trivial)
            · next henabled =>
                split
                · exact holds_of_quiet (Prog.all_step rfl fun _ => trivial)
                · next hrequired =>
                    refine holds_step (fun _ => none) (fun _ => if_pos ⟨rfl, ?_⟩) fun _ =>
                      holds_of_quiet (quiet_generateTokens user none _)
                    rw [Option.any_some, needsNoFactor, Bool.eq_false_iff.mpr henabled,
                      Bool.eq_false_iff.mpr hrequired]
                    rfl

theorem holds_confirmChallengeLogin (token : Jwt) (code : String) :
    Holds E (confirmChallengeLogin E token code) none := by
  refine holds_step (fun _ => none) (fun _ => rfl) fun s => ?_
  simp only
  split
  · split
    · split
      · exact holds_verifyUserCode _ _ _
      · trivial
    · trivial
  · trivial

theorem holds_withUser (token : Jwt) {k : UserRow → Option Nat → Program}
    (hk : ∀ user sid, Holds E (k user sid) none) : Holds E (withUser token k) none := by
  refine holds_step (fun _ => none) (fun _ => rfl) fun s => ?_
  split
  · split
    · exact hk _ _
    · trivial
  · trivial

theorem holds_stepUp (token : Jwt) (code : String) : Holds E (stepUp E token code) none := by
  refine holds_step (fun _ => none) (fun _ => rfl) fun s => ?_
  split
  · split
    · refine holds_withUser token fun user sid => ?_
      cases sid with
      | none => trivial
      | some sid => exact holds_verifyUserCode _ _ _
    · split
      · trivial
      · split
        · refine holds_step (fun _ => none) (fun _ => rfl) fun _ => holds_withUser token
            fun user sid => ?_
          cases sid with
          | none => trivial
          | some sid => exact holds_verifyUserCode _ _ _
        · refine holds_withUser token fun user sid => ?_
          cases sid with
          | none => trivial
          | some sid => exact holds_verifyUserCode _ _ _
  · trivial

theorem holds_attempt (attempt : Attempt) :
    Holds E ((authSystem E).handler attempt.request) none := by
  cases attempt with
  | login email password mfaCode => exact holds_login email password mfaCode
  | confirmChallengeLogin token code => exact holds_confirmChallengeLogin token code
  | stepUp token code => exact holds_stepUp token code

/-- What a statement can do with a guess. -/
inductive Taken (E : Platform) (s : AuthState) : InHand → Op → InHand → Prop
  | quiet {inHand : InHand} {op : Op} (hquiet : isQuiet op = true) : Taken E s inHand op inHand
  | guess {email password : String} {mfaCode : Option String} :
      Taken E s none (.findUserForLogin email password mfaCode)
        (some (email, rightRow E s email password))
  | record {email : String} {found : Option UserRow} :
      Taken E s (some (email, found)) (.recordLoginFailure email) none
  | clear {email : String} {found : Option UserRow} (hproof : found.any (needsNoFactor E) = true) :
      Taken E s (some (email, found)) (.clearLoginFailures email) none

theorem taken_of_takesInHand {inHand' : InHand} {op : Op} {s : AuthState}
    (h : takesInHand E inHand op s = some inHand') : Taken E s inHand op inHand' := by
  by_cases hquiet : isQuiet op = true
  · rw [takesInHand_quiet hquiet] at h
    obtain rfl := Option.some.inj h
    exact .quiet hquiet
  · cases inHand with
    | none =>
      cases op with
      | findUserForLogin email password mfaCode =>
        obtain rfl := Option.some.inj h
        exact .guess
      | _ => exact absurd h (by simp [takesInHand, isQuiet] at hquiet ⊢)
    | some hand =>
      obtain ⟨email, found⟩ := hand
      cases op with
      | recordLoginFailure other =>
        obtain ⟨rfl, heq⟩ := Option.ite_none_right_eq_some.mp h
        obtain rfl := Option.some.inj heq
        exact .record
      | clearLoginFailures other =>
        obtain ⟨⟨rfl, hproof⟩, heq⟩ := Option.ite_none_right_eq_some.mp h
        obtain rfl := Option.some.inj heq
        exact .clear hproof
      | _ => exact absurd h (by simp [takesInHand, isQuiet] at hquiet ⊢)

end Protocol

section Separate

variable {E : Platform} {s : Attempts} {op : Op} {inHand inHand' other : InHand}

/-- The guess is not counted yet, and the row in hand is one the password was right for. -/
def HandOk (s : Attempts) : InHand → Prop
  | none => True
  | some (email, found) => s.uncounted email = true ∧ ∀ u, found = some u →
      u ∈ s.auth.users ∧ u.email = email ∧ ∃ withCode,
        .passwordChecked u.id u.passwordEpoch u.factor.mfaEnabled withCode ∈ s.auth.log

def ApartHands : InHand → InHand → Prop
  | some (email, _), some (email', _) => email ≠ email'
  | _, _ => True

theorem execAttempt_quiet (hquiet : isQuiet op = true) (s : Attempts) :
    (execAttempt E op s).guesses = s.guesses ∧ (execAttempt E op s).uncounted = s.uncounted ∧
      (execAttempt E op s).auth.loginFailures = s.auth.loginFailures ∧
        (execAttempt E op s).auth.now = s.auth.now ∧
          (execAttempt E op s).auth.users = s.auth.users ∧
            (execAttempt E op s).auth.log = s.auth.log := by
  cases op <;> first | cases hquiet; done | exact ⟨rfl, rfl, rfl, rfl, rfl, rfl⟩

theorem account_exec (hbase : ∀ e, Account s e) (hturn : CountedInTurn op s)
    (hhand : HandOk s inHand) (htaken : Taken E s.auth inHand op inHand') :
    ∀ e, Account (execAttempt E op s) e := by
  cases htaken with
  | quiet hquiet =>
    obtain ⟨hguesses, huncounted, hfailures, hnow, -, -⟩ := execAttempt_quiet (E := E) hquiet s
    intro e
    exact (hbase e).same (by rw [hfailures]) (by rw [hguesses]) (by rw [huncounted]) (by rw [hnow])
  | guess => exact Account.guess hbase hturn
  | record => exact Account.record hbase hhand.1
  | clear hproof => exact Account.clear hbase

theorem handOk_frame (hturn : CountedInTurn op s) (htaken : Taken E s.auth inHand op inHand')
    (hother : HandOk s other) (hapart : ApartHands inHand other) :
    HandOk (execAttempt E op s) other ∧ ApartHands inHand' other := by
  cases other with
  | none => exact ⟨trivial, by cases inHand' <;> trivial⟩
  | some hand =>
    obtain ⟨email, found⟩ := hand
    obtain ⟨huncounted, hfound⟩ := hother
    cases htaken with
    | quiet hquiet =>
      obtain ⟨-, hsame, -, -, husers, hlog⟩ := execAttempt_quiet (E := E) hquiet s
      refine ⟨⟨by rw [hsame, huncounted], ?_⟩, hapart⟩
      rw [husers, hlog]
      exact hfound
    | @guess mine password mfaCode =>
      have hne : mine ≠ email := by
        rintro rfl
        rw [hturn.1] at huncounted
        cases huncounted
      refine ⟨⟨(if_neg hne.symm).trans huncounted, fun u hu => ?_⟩, hne⟩
      obtain ⟨hmem, hemail, withCode, hlog⟩ := hfound u hu
      exact ⟨hmem, hemail, withCode, List.mem_append_right _ hlog⟩
    | record => exact ⟨⟨(if_neg (Ne.symm hapart)).trans huncounted, hfound⟩, trivial⟩
    | clear _ => exact ⟨⟨(if_neg (Ne.symm hapart)).trans huncounted, hfound⟩, trivial⟩

theorem handOk_exec (hhand : HandOk s inHand) (htaken : Taken E s.auth inHand op inHand') :
    HandOk (execAttempt E op s) inHand' := by
  cases htaken with
  | quiet hquiet =>
    cases inHand with
    | none => trivial
    | some hand =>
      obtain ⟨-, hsame, -, -, husers, hlog⟩ := execAttempt_quiet (E := E) hquiet s
      refine ⟨by rw [hsame, hhand.1], ?_⟩
      rw [husers, hlog]
      exact hhand.2
  | @guess email password mfaCode =>
    refine ⟨if_pos rfl, fun u hu => ?_⟩
    obtain ⟨hfound, hright⟩ := Option.filter_eq_some_iff.mp hu
    have hemail : u.email = email := by simpa using List.find?_some hfound
    refine ⟨List.mem_of_find?_eq_some hfound, hemail, truthy mfaCode, ?_⟩
    refine List.mem_append_left _ ?_
    rw [loginEvents, hfound]
    simp only [hright, if_true]
    exact List.mem_singleton_self _
  | record => trivial
  | clear _ => trivial

theorem separate_attempts (E : Platform) : Separate (attemptSystem E) CountedInTurn
    (fun inHand op s => takesInHand E inHand op s.auth) (fun _ => True) none
    (fun s => ∀ e, Account s e) HandOk ApartHands where
  handler _ attempt _ := by
    have hembed : (((authSystem E).handler attempt.request).embed Attempts.auth id).Conforms
        CountedInTurn (fun inHand op s => takesInHand E inHand op s.auth) (fun _ => True) none := by
      refine Prog.conforms_embed Attempts.auth id (fun op s hturn => ?_) (fun _ _ _ => rfl)
        (holds_attempt attempt)
      cases op <;> first | exact hturn | trivial
    exact hembed
  symm {inHand other} := by
    cases inHand <;> cases other <;> intro h <;> first | trivial | exact Ne.symm h
  apart other := by cases other <;> trivial
  start _ _ := trivial
  exec op s inHand inHand' hbase hturn hhand htakes :=
    ⟨account_exec hbase hturn hhand (taken_of_takesInHand htakes),
      handOk_exec hhand (taken_of_takesInHand htakes)⟩
  frame op s inHand inHand' other _ hturn _ htakes :=
    handOk_frame hturn (taken_of_takesInHand htakes)
  tick s hbase := by
    refine ⟨fun e => (hbase e).same rfl rfl rfl ?_, fun inHand hhand => ?_⟩
    · have hlater : s.auth.now ≤ s.auth.now + 1 := by omega
      exact hlater
    · cases inHand with
      | none => trivial
      | some hand => exact hhand

/-- Nothing was tried yet, and the rows of the table are as failures leave them. -/
def CountersAtRest (s : Attempts) : Prop :=
  ∀ email, s.guesses email = [] ∧ s.uncounted email = false ∧
    ∀ f, s.auth.loginFailures email = some f → f.lastFailureAt ≤ s.auth.now ∧
      (5 ≤ f.failureCount → f.lockedUntil = some (f.lastFailureAt + lockMs))

theorem account_of_atRest (h : CountersAtRest s) (email : String) : Account s email := by
  obtain ⟨hguesses, huncounted, hrow⟩ := h email
  refine .counted huncounted ?_
  rw [hguesses]
  cases hfailure : s.auth.loginFailures email with
  | none => rfl
  | some f => exact ⟨tally_nil, hrow f hfailure⟩

end Separate

section Samples

def lockoutStart (user : UserRow) : Config Attempts Op :=
  ⟨⟨freshState [user], fun _ => [], fun _ => false⟩, []⟩

theorem countersAtRest_lockoutStart (user : UserRow) : CountersAtRest (lockoutStart user).shared :=
  fun _ => ⟨rfl, rfl, fun _ hfailure => by cases hfailure⟩

/-- `CountedInTurn`, as a test. -/
def isInTurn (op : Op) (s : Attempts) : Bool :=
  match op with
  | .findUserForLogin email _ _ => !s.uncounted email && !s.isLocked email
  | .findFactor _ _ => false
  | _ => true

theorem countedInTurn_of_test {op : Op} {s : Attempts} (h : isInTurn op s = true) :
    CountedInTurn op s := by
  cases op with
  | findUserForLogin email password mfaCode =>
    rw [isInTurn, Bool.and_eq_true, Bool.not_eq_true', Bool.not_eq_true'] at h
    exact h
  | findFactor userId code => cases h
  | _ => trivial

def signedBefore (s : Attempts) (attempt : Attempt) : Bool :=
  holdsToken s.auth attempt.request

theorem sendable_of_signedBefore {E : Platform} {s : Attempts} {attempt : Attempt}
    (h : signedBefore s attempt = true) : (attemptSystem E).sendable s attempt :=
  sendable_of_holdsToken (E := E) h

/-- A login with a password that is wrong, from its first statement to its end. -/
def wrongLogin (i : Nat) : List (Move Attempt) :=
  .start (.login "ann@example.org" "Summer-2024!" none) :: List.replicate 3 (.run i)

/-- A code that is tried on a challenge, from its first statement to its end. -/
def wrongCode (i : Nat) : List (Move Attempt) :=
  [.start (.confirmChallengeLogin sampleChallenge "000000"), .run i, .run i]

end Samples
end FieldserviceIT.Auth
