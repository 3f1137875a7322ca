import FieldserviceIT.Common.Users
import FieldserviceIT.Lib.OneTime

/-!
Passkey challenges: one is saved when options are asked for, and used up when a
registration or an authentication that answers it was verified. The update that uses it
up looks at the expiry time again.
-/

namespace FieldserviceIT.Auth.Passkeys

open Common Lib

inductive ChallengePurpose where
  | register
  | authenticate
  deriving DecidableEq

structure WebAuthnChallenge where
  id : String
  userId : Option String
  purpose : ChallengePurpose
  challenge : String
  expiresAt : Int
  usedAt : Option Int

structure WebAuthnCredential where
  id : String
  userId : String
  credentialId : String
  publicKey : String
  counter : Nat
  name : String
  lastUsedAt : Option Int

structure PasskeyUser where
  id : String
  isActive : Bool

/-- `answered` records the challenges that were answered; no call reads it. -/
structure PasskeyStore where
  challenges : List WebAuthnChallenge
  credentials : List WebAuthnCredential
  users : List PasskeyUser
  now : Int
  answered : List Answer

inductive PasskeyOp where
  | read
  | insertChallenge (id : String) (userId : Option String) (purpose : ChallengePurpose)
      (challenge : String)
  | useChallenge (id : String)
  | insertCredential (row : WebAuthnCredential)
  | setCounter (id : String) (counter : Nat)
  | removeCredential (userId id : String)
  | setActive (userId : String) (isActive : Bool)
  | answer (answer : Answer)

abbrev PasskeyProgram := Prog PasskeyStore PasskeyOp

/-- The public key and the counter of a credential that was verified. -/
structure Verification where
  credentialId : String
  publicKey : String
  counter : Nat

section Calls

variable (key : String → String)

/-- The rows `consumeChallenge` changes. -/
def consumable (id : String) (now : Int) (row : WebAuthnChallenge) : Bool :=
  key row.id = key id && row.usedAt.isNone && now < row.expiresAt

/-- `key` is what the server compares ids by. -/
def execPasskey : PasskeyOp → PasskeyStore → PasskeyStore
  | .read, s => s
  | .insertChallenge id userId purpose challenge, s =>
    -- the primary key refuses an id that is taken
    if s.challenges.any fun other => key other.id = key id then s
    else
      { s with
        challenges := s.challenges ++
          [{ id := id
             userId := userId
             purpose := purpose
             challenge := challenge
             expiresAt := s.now + 5 * 60 * 1000
             usedAt := none }] }
  | .useChallenge id, s =>
    { s with
      challenges := updateWhere (consumable key id s.now)
        (fun row => { row with usedAt := some s.now }) s.challenges }
  | .insertCredential row, s =>
    if s.credentials.any fun other => other.credentialId = row.credentialId then s
    else { s with credentials := s.credentials ++ [row] }
  | .setCounter id counter, s =>
    { s with
      credentials := updateWhere (fun row => key row.id = key id)
        (fun row => { row with counter := counter, lastUsedAt := some s.now }) s.credentials }
  | .removeCredential userId id, s =>
    { s with
      credentials := s.credentials.filter fun row =>
        !(key row.id = key id && key row.userId = key userId) }
  | .setActive userId isActive, s =>
    { s with
      users := updateWhere (fun user => key user.id = key userId)
        (fun user => { user with isActive := isActive }) s.users }
  | .answer answer, s => { s with answered := s.answered ++ [answer] }

/-- `saveChallenge`, for a registration of a user or an authentication of anybody. -/
def saveChallenge (id : String) (userId : Option String) (purpose : ChallengePurpose)
    (challenge : String) : PasskeyProgram :=
  .step (.insertChallenge id userId purpose challenge) fun _ => .done

def getChallenge (s : PasskeyStore) (id : String) (purpose : ChallengePurpose)
    (userId : Option String) : Option WebAuthnChallenge :=
  s.challenges.find? fun row => key row.id = key id && row.purpose = purpose &&
    row.usedAt.isNone && s.now < row.expiresAt &&
      (!truthy userId || row.userId.any fun owner => userId.any fun user => key owner = key user)

/-- `consumeChallenge`, and what goes on when it has changed a row. -/
def consumeChallenge (id : String) (go : PasskeyProgram) : PasskeyProgram :=
  .step (.useChallenge id) fun s =>
    if s.challenges.any (consumable key id s.now) then go else .fail

/-- `verified` says what comes of the response to a challenge. -/
def verifyRegistration (userId challengeId credentialRow name : String) (startedAt : Int)
    (verified : String → Option Verification) : PasskeyProgram :=
  .step .read fun s =>
    match getChallenge key s challengeId .register (some userId) with
    | none => .fail
    | some challenge =>
      match verified challenge.challenge with
      | none => .fail
      | some verification =>
        consumeChallenge key challengeId <|
          .step
            (.insertCredential
              { id := credentialRow
                userId := userId
                credentialId := verification.credentialId
                publicKey := verification.publicKey
                counter := verification.counter
                name := name
                lastUsedAt := none })
            fun s' =>
              if s'.credentials.any fun other =>
                  other.credentialId = verification.credentialId then .fail
              else .step (.answer ⟨challenge.id, startedAt⟩) fun _ => .done

/-- `verified` says what comes of the response to a challenge, with the credential. -/
def verifyAuthentication (challengeId responseId : String) (startedAt : Int)
    (verified : String → WebAuthnCredential → Option Nat) : PasskeyProgram :=
  .step .read fun s =>
    match getChallenge key s challengeId .authenticate none with
    | none => .fail
    | some challenge =>
      .step .read fun s' =>
        match s'.credentials.find? fun row => row.credentialId = responseId with
        | none => .fail
        | some record =>
          if !((s'.users.find? fun user => key user.id = key record.userId).any
              (·.isActive)) then .fail
          else
            match verified challenge.challenge record with
            | none => .fail
            | some counter =>
              consumeChallenge key challengeId <|
                .step (.setCounter record.id counter) fun _ =>
                  .step (.answer ⟨challenge.id, startedAt⟩) fun _ => .done

inductive PasskeyCall where
  | registrationOptions (id userId challenge : String)
  | authenticationOptions (id challenge : String)
  | verifyRegistration (userId challengeId credentialRow name : String) (startedAt : Int)
      (verified : String → Option Verification)
  | verifyAuthentication (challengeId responseId : String) (startedAt : Int)
      (verified : String → WebAuthnCredential → Option Nat)
  | remove (userId id : String)
  | setActive (userId : String) (isActive : Bool)

def PasskeyCall.handler : PasskeyCall → PasskeyProgram
  | .registrationOptions id userId challenge => saveChallenge id (some userId) .register challenge
  | .authenticationOptions id challenge => saveChallenge id none .authenticate challenge
  | .verifyRegistration userId challengeId credentialRow name startedAt verified =>
    Passkeys.verifyRegistration key userId challengeId credentialRow name startedAt verified
  | .verifyAuthentication challengeId responseId startedAt verified =>
    Passkeys.verifyAuthentication key challengeId responseId startedAt verified
  | .remove userId id => .step (.removeCredential userId id) fun _ => .done
  | .setActive userId isActive => .step (.setActive userId isActive) fun _ => .done

def PasskeyCall.startsNow (s : PasskeyStore) : PasskeyCall → Prop
  | .verifyRegistration _ _ _ _ startedAt _ | .verifyAuthentication _ _ startedAt _ =>
    startedAt = s.now
  | _ => True

def passkeySystem : System PasskeyStore PasskeyOp PasskeyCall where
  exec := execPasskey key
  tick s := { s with now := s.now + 1 }
  handler := PasskeyCall.handler key
  sendable s call := call.startsNow s

end Calls

section Rely

variable (key : String → String)

abbrev ChallengeInTime (rows : List WebAuthnChallenge) : Answer → Prop :=
  InTime WebAuthnChallenge.id WebAuthnChallenge.expiresAt rows

abbrev Kept (s : PasskeyStore) : Prop :=
  Guarded key WebAuthnChallenge.id WebAuthnChallenge.expiresAt s.challenges s.answered

structure Onward (s s' : PasskeyStore) : Prop where
  now : s.now ≤ s'.now
  challenges : Carried (SameSecret WebAuthnChallenge.id WebAuthnChallenge.expiresAt) s.challenges
    s'.challenges

def Checked (op : PasskeyOp) (s : PasskeyStore) : Prop :=
  match op with
  | .answer answer => ChallengeInTime s.challenges answer
  | _ => True

theorem Onward.refl (s : PasskeyStore) : Onward s s :=
  ⟨Int.le_refl _, .refl SameSecret.refl _⟩

theorem Onward.trans {s s' s'' : PasskeyStore} (h : Onward s s') (h' : Onward s' s'') :
    Onward s s'' :=
  ⟨Int.le_trans h.now h'.now, .trans SameSecret.trans h.challenges h'.challenges⟩

variable {key}

theorem onward_exec (op : PasskeyOp) (s : PasskeyStore) : Onward s (execPasskey key op s) := by
  cases op with
  | insertChallenge id userId purpose challenge =>
    simp only [execPasskey]
    split
    · exact Onward.refl s
    · exact ⟨Int.le_refl _, .append SameSecret.refl _ _⟩
  | insertCredential row =>
    simp only [execPasskey]
    split
    · exact Onward.refl s
    · exact ⟨Int.le_refl _, .refl SameSecret.refl _⟩
  | useChallenge id =>
    exact ⟨Int.le_refl _, .updateWhere SameSecret.refl fun row _ _ => ⟨rfl, rfl⟩⟩
  | _ => exact ⟨Int.le_refl _, .refl SameSecret.refl _⟩

theorem kept_exec {op : PasskeyOp} {s : PasskeyStore} (h : Kept key s) (hchecked : Checked op s) :
    Kept key (execPasskey key op s) := by
  cases op with
  | insertChallenge id userId purpose challenge =>
    simp only [execPasskey]
    split
    · exact h
    · next hfree =>
        rw [List.any_eq_true] at hfree
        exact Guarded.insert h fun other hother heq => hfree ⟨other, hother, decide_eq_true heq⟩
  | insertCredential row =>
    simp only [execPasskey]
    split
    · exact h
    · exact h
  | useChallenge id => exact Guarded.updateWhere h fun row _ => ⟨rfl, rfl⟩
  | answer answer => exact Guarded.answer h hchecked
  | read | setCounter | removeCredential | setActive => exact h

variable (key)

abbrev Safe (p : PasskeyProgram) (s : PasskeyStore) : Prop :=
  p.Safe (passkeySystem key) (fun _ _ => True) (Kept key) Onward Checked (fun _ => True) s

theorem safe_step {op : PasskeyOp} {next : PasskeyStore → PasskeyProgram} {s : PasskeyStore}
    (h : ∀ s', Onward s s' → Checked op s' ∧ Safe key (next s') (execPasskey key op s')) :
    Safe key (.step op next) s :=
  fun s' honward _ _ => h s' honward

theorem safe_done (s : PasskeyStore) : Safe key .done s :=
  fun _ _ _ => trivial

theorem safe_fail (s : PasskeyStore) : Safe key .fail s :=
  fun _ _ _ => trivial

theorem safe_answer {answer : Answer} {s : PasskeyStore} (h : ChallengeInTime s.challenges answer) :
    Safe key (.step (.answer answer) fun _ => .done) s :=
  safe_step key fun _ honward => ⟨h.carried honward.challenges, safe_done key _⟩

theorem safe_consumeChallenge (id : String) {go : PasskeyProgram} {s : PasskeyStore}
    (h : ∀ s', Onward s s' → Safe key go s') : Safe key (consumeChallenge key id go) s := by
  refine safe_step key fun s' honward => ⟨trivial, ?_⟩
  split
  · exact h _ (honward.trans (onward_exec _ _))
  · exact safe_fail key _

theorem inTime_getChallenge {s s' : PasskeyStore} {id : String} {purpose : ChallengePurpose}
    {userId : Option String} {challenge : WebAuthnChallenge}
    (h : getChallenge key s' id purpose userId = some challenge) (honward : Onward s s')
    {startedAt : Int} (hstarted : startedAt = s.now) :
    ChallengeInTime s'.challenges ⟨challenge.id, startedAt⟩ := by
  have hfound := List.find?_some h
  simp only [Bool.and_eq_true, decide_eq_true_eq] at hfound
  exact ⟨challenge, List.mem_of_find?_eq_some h, rfl,
    Int.lt_of_le_of_lt (hstarted ▸ honward.now) hfound.1.2⟩

theorem safe_verifyRegistration (userId challengeId credentialRow name : String) {startedAt : Int}
    (verified : String → Option Verification) {s : PasskeyStore} (hstarted : startedAt = s.now) :
    Safe key (verifyRegistration key userId challengeId credentialRow name startedAt verified)
      s := by
  refine safe_step key fun s₁ hread => ⟨trivial, ?_⟩
  split
  · exact safe_fail key _
  · next challenge hfind =>
      have htime := inTime_getChallenge key hfind hread hstarted
      split
      · exact safe_fail key _
      · refine safe_consumeChallenge key challengeId fun s₂ huse => ?_
        refine safe_step key fun s₃ hinsert => ⟨trivial, ?_⟩
        split
        · exact safe_fail key _
        · refine safe_answer key (htime.carried ?_)
          exact ((huse.trans hinsert).trans (onward_exec _ _)).challenges

theorem safe_verifyAuthentication (challengeId responseId : String) {startedAt : Int}
    (verified : String → WebAuthnCredential → Option Nat) {s : PasskeyStore}
    (hstarted : startedAt = s.now) :
    Safe key (verifyAuthentication key challengeId responseId startedAt verified) s := by
  refine safe_step key fun s₁ hread => ⟨trivial, ?_⟩
  split
  · exact safe_fail key _
  · next challenge hfind =>
      have htime := inTime_getChallenge key hfind hread hstarted
      refine safe_step key fun s₂ hsecond => ⟨trivial, ?_⟩
      split
      · exact safe_fail key _
      · split
        · exact safe_fail key _
        · split
          · exact safe_fail key _
          · refine safe_consumeChallenge key challengeId fun s₃ huse => ?_
            refine safe_step key fun s₄ hcounter => ⟨trivial, ?_⟩
            refine safe_answer key (htime.carried ?_)
            exact (((hsecond.trans huse).trans hcounter).trans (onward_exec _ _)).challenges

theorem passkey_cooperation : Cooperation (passkeySystem key) (fun _ _ => True) (Kept key) Onward
    Checked where
  refl := Onward.refl
  trans := Onward.trans
  exec hinv _ hchecked := ⟨kept_exec hinv hchecked, onward_exec _ _⟩
  tick {s} hinv := by
    refine ⟨hinv, ?_, .refl SameSecret.refl _⟩
    have hlater : s.now ≤ s.now + 1 := by omega
    exact hlater
  handler {call} {s} _ hsend := by
    cases call with
    | verifyRegistration userId challengeId credentialRow name startedAt verified =>
      exact safe_verifyRegistration key userId challengeId credentialRow name verified hsend
    | verifyAuthentication challengeId responseId startedAt verified =>
      exact safe_verifyAuthentication key challengeId responseId verified hsend
    | registrationOptions | authenticationOptions | remove | setActive =>
      exact safe_step key fun _ _ => ⟨trivial, safe_done key _⟩

end Rely

section Once

variable (key : String → String)

def isUsed (row : WebAuthnChallenge) : Bool :=
  row.usedAt.isSome

def usesChallenge (k : String) (op : PasskeyOp) (s : PasskeyStore) : Nat :=
  match op with
  | .useChallenge id => if key id = k && s.challenges.any (consumable key id s.now) then 1 else 0
  | _ => 0

def answersOf : PasskeyOp → List Answer
  | .answer answer => [answer]
  | _ => []

def challengeAnswers (k : String) (s : PasskeyStore) : Nat :=
  answersTo key k s.answered

variable {key} {k : String}

theorem used_exec (op : PasskeyOp) (s : PasskeyStore) :
    usedUp (fun row : WebAuthnChallenge => key row.id) isUsed k s.challenges +
        usesChallenge key k op s ≤
      usedUp (fun row => key row.id) isUsed k (execPasskey key op s).challenges := by
  cases op with
  | insertChallenge id userId purpose challenge =>
    simp only [execPasskey, usesChallenge]
    split
    · exact Nat.le_refl _
    · exact usedUp_le_append _
  | insertCredential row =>
    simp only [execPasskey]
    split <;> exact Nat.le_refl _
  | useChallenge id =>
    refine usedUp_redeem (fun row _ hrow => ?_) (fun row _ => rfl) fun row _ _ => rfl
    simp only [consumable, Bool.and_eq_true, decide_eq_true_eq, Option.isNone_iff_eq_none] at hrow
    exact ⟨hrow.1.1, congrArg Option.isSome hrow.1.2⟩
  | _ => exact Nat.le_refl _

theorem answers_exec (op : PasskeyOp) (s : PasskeyStore) :
    challengeAnswers key k (execPasskey key op s) ≤
      challengeAnswers key k s + answersTo key k (answersOf op) := by
  cases op with
  | insertChallenge | insertCredential =>
    simp only [execPasskey]
    split <;> exact Nat.le_add_right _ _
  | answer answer => exact Nat.le_of_eq (answersTo_append key k s.answered [answer])
  | _ => exact Nat.le_add_right _ _

theorem affords_consumeChallenge {id : String} {go : PasskeyProgram}
    (h : go.Affords (usesChallenge key k) (fun op => answersTo key k (answersOf op))
      (if key id = k then 1 else 0)) :
    (consumeChallenge key id go).Affords (usesChallenge key k)
      (fun op => answersTo key k (answersOf op)) 0 := by
  refine Prog.affords_step (Nat.zero_le _) fun s => ?_
  split
  · next hany =>
      have hearned : 0 - answersTo key k (answersOf (.useChallenge id)) +
          usesChallenge key k (.useChallenge id) s = if key id = k then 1 else 0 := by
        simp [usesChallenge, hany, answersOf, answersTo]
      rw [hearned]
      exact h
  · trivial

theorem affords_answer {challengeId id : String} {startedAt : Int} (hid : key id = key challengeId) :
    (Prog.step (.answer ⟨id, startedAt⟩) fun _ => .done : PasskeyProgram).Affords
      (usesChallenge key k) (fun op => answersTo key k (answersOf op))
      (if key challengeId = k then 1 else 0) := by
  refine Prog.affords_step ?_ fun _ => trivial
  simp [answersOf, answersTo, hid, List.countP_cons]

theorem key_of_getChallenge {s : PasskeyStore} {id : String} {purpose : ChallengePurpose}
    {userId : Option String} {challenge : WebAuthnChallenge}
    (h : getChallenge key s id purpose userId = some challenge) : key challenge.id = key id := by
  have hfound := List.find?_some h
  simp only [Bool.and_eq_true, decide_eq_true_eq] at hfound
  exact hfound.1.1.1.1

theorem affords_challenges (call : PasskeyCall) :
    (call.handler key).Affords (usesChallenge key k) (fun op => answersTo key k (answersOf op))
      0 := by
  cases call with
  | verifyRegistration userId challengeId credentialRow name startedAt verified =>
    refine Prog.affords_step (Nat.zero_le _) fun s => ?_
    split
    · trivial
    · next challenge hfind =>
        split
        · trivial
        · refine affords_consumeChallenge (Prog.affords_step (Nat.zero_le _) fun s' => ?_)
          split
          · trivial
          · exact affords_answer (key_of_getChallenge hfind)
  | verifyAuthentication challengeId responseId startedAt verified =>
    refine Prog.affords_step (Nat.zero_le _) fun s => ?_
    split
    · trivial
    · next challenge hfind =>
        refine Prog.affords_step (Nat.zero_le _) fun s' => ?_
        split
        · trivial
        · split
          · trivial
          · split
            · trivial
            · refine affords_consumeChallenge (Prog.affords_step (Nat.zero_le _) fun s'' => ?_)
              exact affords_answer (key_of_getChallenge hfind)
  | registrationOptions | authenticationOptions | remove | setActive =>
    exact Prog.affords_step (Nat.zero_le _) fun _ => trivial

theorem challenges_once {c₀ c : Config PasskeyStore PasskeyOp}
    (hchallenges : c₀.shared.challenges = []) (hanswered : c₀.shared.answered = [])
    (hidle : c₀.threads = []) (hrun : (passkeySystem key).Run (fun _ _ => True) c₀ c) :
    OnceOnly key WebAuthnChallenge.id WebAuthnChallenge.expiresAt c.shared.challenges
      c.shared.answered := by
  have hstart : Kept key c₀.shared := by
    rw [Kept, hchallenges, hanswered]
    exact Guarded.nil
  have hkept := ((passkey_cooperation key).run hrun (Config.safe_of_idle hstart hidle)).1.inv
  refine ⟨fun row _ => ?_, hkept.inTime⟩
  refine System.answered_le_one (fun op s _ => used_exec op s)
    (fun op s _ => answers_exec op s) (fun s => ⟨rfl, rfl⟩)
    (fun s call _ => affords_challenges call) hidle hrun ?_ hkept.distinct
  rw [challengeAnswers, hanswered]
  rfl

end Once
end FieldserviceIT.Auth.Passkeys
