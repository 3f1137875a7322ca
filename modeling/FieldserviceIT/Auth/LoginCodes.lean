import FieldserviceIT.Common.Credential
import FieldserviceIT.Lib.OneTime

/-!
Login codes of single sign-on: the callback issues one, and the first to present it
within two minutes is signed in.
-/

namespace FieldserviceIT.Auth.Sso

open Common Lib

structure OidcLoginCode where
  id : String
  codeHash : String
  userId : String
  expiresAt : Int
  usedAt : Option Int

structure SsoUser where
  id : String
  isActive : Bool

/-- `answered` records the codes that led to a login; no call reads it. -/
structure Logins where
  codes : List OidcLoginCode
  users : List SsoUser
  now : Int
  answered : List Answer

inductive LoginOp where
  | read
  | insertCode (id codeHash userId : String)
  | setActive (userId : String) (isActive : Bool)
  | useCode (id : String)
  | answer (answer : Answer)

abbrev LoginProgram := Prog Logins LoginOp

section Calls

variable (H : Hashing) (key : String → String)

/-- The rows `UPDATE OidcLoginCode ... WHERE id = ? AND usedAt IS NULL` changes. -/
def unused (id : String) (row : OidcLoginCode) : Bool :=
  key row.id = key id && row.usedAt.isNone

/-- `key` is what the server compares ids by. -/
def execLogin : LoginOp → Logins → Logins
  | .read, s => s
  | .insertCode id codeHash userId, s =>
    -- neither the id nor the digest may be taken
    if s.codes.any fun other => key other.id = key id || H.collates other.codeHash codeHash then s
    else
      { s with
        codes := s.codes ++
          [{ id := id
             codeHash := codeHash
             userId := userId
             expiresAt := s.now + 2 * 60 * 1000
             usedAt := none }] }
  | .setActive userId isActive, s =>
    { s with
      users := updateWhere (fun user => key user.id = key userId)
        (fun user => { user with isActive := isActive }) s.users }
  | .useCode id, s =>
    { s with
      codes := updateWhere (unused key id) (fun row => { row with usedAt := some s.now })
        s.codes }
  | .answer answer, s => { s with answered := s.answered ++ [answer] }

/-- The end of `callback`: the identity provider has vouched for the user. -/
def callback (id loginCode userId : String) : LoginProgram :=
  .step (.insertCode id (H.sha256hex loginCode) userId) fun _ => .done

def presentable (code : String) (s : Logins) (row : OidcLoginCode) : Bool :=
  H.collates row.codeHash (H.sha256hex code) && row.usedAt.isNone && s.now < row.expiresAt &&
    s.users.any fun user => key user.id = key row.userId

def consumeLoginCode (code : String) (startedAt : Int) : LoginProgram :=
  .step .read fun s =>
    match s.codes.find? (presentable H key code s) with
    | none => .fail
    | some login =>
      if !((s.users.find? fun user => key user.id = key login.userId).any (·.isActive)) then .fail
      else
        .step (.useCode login.id) fun s' =>
          if s'.codes.any (unused key login.id) then
            .step (.answer ⟨login.id, startedAt⟩) fun _ => .done
          else .fail

inductive LoginCall where
  | callback (id loginCode userId : String)
  | consumeLoginCode (code : String) (startedAt : Int)
  | setActive (userId : String) (isActive : Bool)

def LoginCall.handler : LoginCall → LoginProgram
  | .callback id loginCode userId => Sso.callback H id loginCode userId
  | .consumeLoginCode code startedAt => Sso.consumeLoginCode H key code startedAt
  | .setActive userId isActive => .step (.setActive userId isActive) fun _ => .done

def LoginCall.startsNow (s : Logins) : LoginCall → Prop
  | .consumeLoginCode _ startedAt => startedAt = s.now
  | _ => True

def loginSystem : System Logins LoginOp LoginCall where
  exec := execLogin H key
  tick s := { s with now := s.now + 1 }
  handler := LoginCall.handler H key
  sendable s call := call.startsNow s

end Calls

section Rely

variable (H : Hashing) (key : String → String)

abbrev CodeInTime (rows : List OidcLoginCode) : Answer → Prop :=
  InTime OidcLoginCode.id OidcLoginCode.expiresAt rows

abbrev Kept (s : Logins) : Prop :=
  Guarded key OidcLoginCode.id OidcLoginCode.expiresAt s.codes s.answered

structure Onward (s s' : Logins) : Prop where
  now : s.now ≤ s'.now
  codes : Carried (SameSecret OidcLoginCode.id OidcLoginCode.expiresAt) s.codes s'.codes

def Checked (op : LoginOp) (s : Logins) : Prop :=
  match op with
  | .answer answer => CodeInTime s.codes answer
  | _ => True

theorem Onward.refl (s : Logins) : Onward s s :=
  ⟨Int.le_refl _, .refl SameSecret.refl _⟩

theorem Onward.trans {s s' s'' : Logins} (h : Onward s s') (h' : Onward s' s'') : Onward s s'' :=
  ⟨Int.le_trans h.now h'.now, .trans SameSecret.trans h.codes h'.codes⟩

variable {H key}

theorem onward_exec (op : LoginOp) (s : Logins) : Onward s (execLogin H key op s) := by
  cases op with
  | insertCode id codeHash userId =>
    simp only [execLogin]
    split
    · exact Onward.refl s
    · exact ⟨Int.le_refl _, .append SameSecret.refl _ _⟩
  | useCode id =>
    exact ⟨Int.le_refl _, .updateWhere SameSecret.refl fun row _ _ => ⟨rfl, rfl⟩⟩
  | _ => exact ⟨Int.le_refl _, .refl SameSecret.refl _⟩

theorem kept_exec {op : LoginOp} {s : Logins} (h : Kept key s) (hchecked : Checked op s) :
    Kept key (execLogin H key op s) := by
  cases op with
  | insertCode id codeHash userId =>
    simp only [execLogin]
    split
    · exact h
    · next hfree =>
        rw [List.any_eq_true] at hfree
        refine Guarded.insert h fun other hother heq => hfree ⟨other, hother, ?_⟩
        rw [decide_eq_true heq, Bool.true_or]
  | useCode id => exact Guarded.updateWhere h fun row _ => ⟨rfl, rfl⟩
  | answer answer => exact Guarded.answer h hchecked
  | read | setActive => exact h

variable (H key)

abbrev Safe (p : LoginProgram) (s : Logins) : Prop :=
  p.Safe (loginSystem H key) (fun _ _ => True) (Kept key) Onward Checked (fun _ => True) s

theorem safe_step {op : LoginOp} {next : Logins → LoginProgram} {s : Logins}
    (h : ∀ s', Onward s s' → Checked op s' ∧ Safe H key (next s') (execLogin H key op s')) :
    Safe H key (.step op next) s :=
  fun s' honward _ _ => h s' honward

theorem safe_done (s : Logins) : Safe H key .done s :=
  fun _ _ _ => trivial

theorem safe_fail (s : Logins) : Safe H key .fail s :=
  fun _ _ _ => trivial

theorem safe_consumeLoginCode (code : String) {startedAt : Int} {s : Logins}
    (hstarted : startedAt = s.now) : Safe H key (consumeLoginCode H key code startedAt) s := by
  refine safe_step H key fun s₁ hread => ⟨trivial, ?_⟩
  split
  · exact safe_fail H key _
  · next login hfind =>
      have hfound := List.find?_some hfind
      simp only [presentable, Bool.and_eq_true, decide_eq_true_eq] at hfound
      have htime : CodeInTime s₁.codes ⟨login.id, startedAt⟩ :=
        ⟨login, List.mem_of_find?_eq_some hfind, rfl,
          Int.lt_of_le_of_lt (hstarted ▸ hread.now) hfound.1.2⟩
      split
      · exact safe_fail H key _
      · refine safe_step H key fun s₂ huse => ⟨trivial, ?_⟩
        split
        · refine safe_step H key fun s₃ hanswer => ⟨?_, safe_done H key _⟩
          exact htime.carried ((huse.trans (onward_exec _ _)).trans hanswer).codes
        · exact safe_fail H key _

theorem login_cooperation : Cooperation (loginSystem H key) (fun _ _ => True) (Kept key) Onward
    Checked where
  refl := Onward.refl
  trans := Onward.trans
  exec hinv _ hchecked := ⟨kept_exec hinv hchecked, onward_exec _ _⟩
  tick {s} hinv := by
    refine ⟨hinv, ?_, .refl SameSecret.refl _⟩
    have hlater : s.now ≤ s.now + 1 := by omega
    exact hlater
  handler {call} {s} _ hsend := by
    cases call with
    | callback id loginCode userId =>
      exact safe_step H key fun _ _ => ⟨trivial, safe_done H key _⟩
    | consumeLoginCode code startedAt => exact safe_consumeLoginCode H key code hsend
    | setActive userId isActive => exact safe_step H key fun _ _ => ⟨trivial, safe_done H key _⟩

end Rely

section Once

variable (H : Hashing) (key : String → String)

def isUsed (row : OidcLoginCode) : Bool :=
  row.usedAt.isSome

def usesCode (k : String) (op : LoginOp) (s : Logins) : Nat :=
  match op with
  | .useCode id => if key id = k && s.codes.any (unused key id) then 1 else 0
  | _ => 0

def answersOf : LoginOp → List Answer
  | .answer answer => [answer]
  | _ => []

def loginAnswers (k : String) (s : Logins) : Nat :=
  answersTo key k s.answered

variable {H key} {k : String}

theorem used_exec (op : LoginOp) (s : Logins) :
    usedUp (fun row : OidcLoginCode => key row.id) isUsed k s.codes + usesCode key k op s ≤
      usedUp (fun row => key row.id) isUsed k (execLogin H key op s).codes := by
  cases op with
  | insertCode id codeHash userId =>
    simp only [execLogin, usesCode]
    split
    · exact Nat.le_refl _
    · exact usedUp_le_append _
  | useCode id =>
    refine usedUp_redeem (fun row _ hrow => ?_) (fun row _ => rfl) fun row _ _ => rfl
    rw [unused, Bool.and_eq_true, decide_eq_true_eq, Option.isNone_iff_eq_none] at hrow
    exact ⟨hrow.1, congrArg Option.isSome hrow.2⟩
  | _ => exact Nat.le_refl _

theorem answers_exec (op : LoginOp) (s : Logins) :
    loginAnswers key k (execLogin H key op s) ≤
      loginAnswers key k s + answersTo key k (answersOf op) := by
  cases op with
  | insertCode id codeHash userId =>
    simp only [execLogin]
    split <;> exact Nat.le_add_right _ _
  | answer answer => exact Nat.le_of_eq (answersTo_append key k s.answered [answer])
  | _ => exact Nat.le_add_right _ _

theorem affords_logins (call : LoginCall) :
    (call.handler H key).Affords (usesCode key k) (fun op => answersTo key k (answersOf op)) 0 := by
  cases call with
  | callback id loginCode userId => exact Prog.affords_step (Nat.zero_le _) fun _ => trivial
  | setActive userId isActive => exact Prog.affords_step (Nat.zero_le _) fun _ => trivial
  | consumeLoginCode code startedAt =>
    refine Prog.affords_step (Nat.zero_le _) fun s => ?_
    split
    · trivial
    · next login _ =>
        split
        · trivial
        · refine Prog.affords_step (Nat.zero_le _) fun s' => ?_
          split
          · next hany =>
              refine Prog.affords_step ?_ fun _ => trivial
              simp [usesCode, hany, answersOf, answersTo, List.countP_cons]
          · trivial

theorem login_codes_once {c₀ c : Config Logins LoginOp} (hcodes : c₀.shared.codes = [])
    (hanswered : c₀.shared.answered = []) (hidle : c₀.threads = [])
    (hrun : (loginSystem H key).Run (fun _ _ => True) c₀ c) :
    OnceOnly key OidcLoginCode.id OidcLoginCode.expiresAt c.shared.codes c.shared.answered := by
  have hstart : Kept key c₀.shared := by
    rw [Kept, hcodes, hanswered]
    exact Guarded.nil
  have hkept := ((login_cooperation H key).run hrun (Config.safe_of_idle hstart hidle)).1.inv
  refine ⟨fun row _ => ?_, hkept.inTime⟩
  refine System.answered_le_one (fun op s _ => used_exec op s)
    (fun op s _ => answers_exec op s) (fun s => ⟨rfl, rfl⟩)
    (fun s call _ => affords_logins call) hidle hrun ?_ hkept.distinct
  rw [loginAnswers, hanswered]
  rfl

end Once
end FieldserviceIT.Auth.Sso
