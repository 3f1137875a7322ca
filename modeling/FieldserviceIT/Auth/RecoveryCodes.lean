import FieldserviceIT.Auth.SecondFactor
import FieldserviceIT.Lib.OneTime

/-!
Recovery codes. A verification reads the list of a user's codes, looks for the one it
was given, and writes back what is left of the list it has read. That a code is good for
one use depends on nobody else having written the list in between.
-/

namespace FieldserviceIT.Auth

open Common Lib

/-- The store, and for each user the recovery codes that calls were answered for. -/
structure Verifications where
  auth : AuthState
  accepted : String → List String

/-- The codes of the user that the statement takes off the list it was worked out from. -/
def crossedOut (op : Op) (userId : String) : List String :=
  match op with
  | .consumeRecoveryCode owner remaining checked =>
    if owner = userId then checked.mfaRecoveryCodes.diff remaining else []
  | _ => []

/-- Calls of `verifyUserCode`, by user and code. -/
def verificationSystem (E : Platform) : System Verifications Op (String × String) where
  exec op s :=
    { auth := exec E op s.auth
      accepted := fun userId => crossedOut op userId ++ s.accepted userId }
  tick s := { s with auth := (authSystem E).tick s.auth }
  handler call := (verifyUserCode E call.1 call.2 fun _ => .done).embed Verifications.auth id
  sendable _ _ := True

/-- Every recovery code was accepted at most once, and none that was is on the list. -/
def SingleUse (s : Verifications) : Prop :=
  ∀ u ∈ s.auth.users, SpentOnce u.factor.mfaRecoveryCodes (s.accepted u.id)

/-- A list is written back as long as it is the one that was read. -/
def WritesOverRead (op : Op) (s : Verifications) : Prop :=
  match op with
  | .consumeRecoveryCode userId _ checked =>
    ∀ u ∈ s.auth.users, u.id = userId → u.factor.mfaRecoveryCodes = checked.mfaRecoveryCodes
  | _ => True

/-- Users with a set of codes each, none of which was used. -/
structure CodesIssued (s : Verifications) : Prop where
  distinct : Distinct UserRow.id s.auth.users
  nodup : ∀ u ∈ s.auth.users, u.factor.mfaRecoveryCodes.Nodup
  unused : ∀ userId, s.accepted userId = []

section Invariant

/-- A call has read this factor of the user, and works on its list of codes. -/
structure HasRead (s : Verifications) (userId : String) (checked : Factor) : Prop where
  stored : ∃ u ∈ s.auth.users, u.id = userId
  seen : ∀ u ∈ s.auth.users, u.id = userId →
    SeenList u.factor.mfaRecoveryCodes (s.accepted userId) checked.mfaRecoveryCodes

theorem diff_erase {codes : List String} {code : String} (hnodup : codes.Nodup)
    (hcode : code ∈ codes) : codes.diff (codes.erase code) = [code] := by
  have hfilter : codes.filter (fun other => decide (other ∉ codes.erase code)) =
      codes.filter fun other => decide (other = code) := by
    refine List.filter_congr fun other hother => ?_
    by_cases heq : other = code <;> simp [hnodup.mem_erase_iff, heq, hother]
  rw [hnodup.sdiff_eq_filter, hfilter, List.filter_eq, List.count_eq_one_of_mem hnodup hcode]
  rfl

/-- How far a call can be. -/
inductive Underway (E : Platform) (s : Verifications) : Prog Verifications Op → Prop
  | ended {p : Prog Verifications Op} (hended : p.finished = true) : Underway E s p
  | reads (call : String × String) : Underway E s ((verificationSystem E).handler call)
  | writes {userId code : String} {checked : Factor} {rest : Verifications → Prog Verifications Op}
      (hread : HasRead s userId checked) (hcode : code ∈ checked.mfaRecoveryCodes)
      (hrest : ∀ s', (rest s').finished = true) :
      Underway E s (.step (.consumeRecoveryCode userId (checked.mfaRecoveryCodes.erase code)
        checked) rest)

variable {E : Platform} {s s' : Verifications} {userId : String} {checked : Factor}

theorem users_consumed (E : Platform) (userId : String) (remaining : List String)
    (checked : Factor) {u' : UserRow}
    (hu' : u' ∈ (exec E (.consumeRecoveryCode userId remaining checked) s.auth).users) :
    ∃ u ∈ s.auth.users, u'.id = u.id ∧ u'.factor.mfaRecoveryCodes =
      if u.id = userId then remaining else u.factor.mfaRecoveryCodes := by
  obtain ⟨u, hu, rfl⟩ := List.mem_map.mp hu'
  refine ⟨u, hu, ?_⟩
  by_cases hid : u.id = userId
  · rw [if_pos hid, if_pos hid]
    exact ⟨rfl, rfl⟩
  · rw [if_neg hid, if_neg hid]
    exact ⟨rfl, rfl⟩

theorem crossedOut_self (userId : String) {code : String} (hnodup : checked.mfaRecoveryCodes.Nodup)
    (hcode : code ∈ checked.mfaRecoveryCodes) :
    crossedOut (.consumeRecoveryCode userId (checked.mfaRecoveryCodes.erase code) checked) userId =
      [code] := by
  rw [crossedOut, if_pos rfl]
  exact diff_erase hnodup hcode

theorem singleUse_consume_iff {code : String} (hsingle : SingleUse s)
    (hread : HasRead s userId checked) (hcode : code ∈ checked.mfaRecoveryCodes) :
    SingleUse ((verificationSystem E).exec (.consumeRecoveryCode userId
      (checked.mfaRecoveryCodes.erase code) checked) s) ↔
        WritesOverRead (.consumeRecoveryCode userId (checked.mfaRecoveryCodes.erase code) checked)
          s := by
  obtain ⟨row, hrow, hid⟩ := hread.stored
  have hnodup := (hread.seen row hrow hid).nodup
  constructor
  · intro hafter u hu huser
    subst huser
    have hchanged := hafter _ (List.mem_map_of_mem hu)
    rw [if_pos rfl] at hchanged
    have hspent : SpentOnce (checked.mfaRecoveryCodes.erase code) (code :: s.accepted u.id) := by
      have hsame := crossedOut_self u.id hnodup hcode
      simpa [verificationSystem, hsame] using hchanged
    exact ((hsingle u hu).crossOff_iff (hread.seen u hu rfl) hcode).mp hspent
  · intro hwrites u' hu'
    obtain ⟨u, hu, hid, hcodes⟩ := users_consumed E userId _ checked hu'
    rw [hid, hcodes]
    by_cases huser : u.id = userId
    · subst huser
      rw [if_pos rfl]
      have hspent := ((hsingle u hu).crossOff_iff (hread.seen u hu rfl) hcode).mpr (hwrites u hu rfl)
      have hsame := crossedOut_self u.id hnodup hcode
      simpa [verificationSystem, hsame] using hspent
    · rw [if_neg huser]
      have hother := hsingle u hu
      simpa [verificationSystem, crossedOut, Ne.symm huser] using hother

def Remembered (s s' : Verifications) : Prop :=
  ∀ userId checked, HasRead s userId checked → HasRead s' userId checked

theorem Underway.later {p : Prog Verifications Op} (h : Underway E s p) (hlater : Remembered s s') :
    Underway E s' p := by
  cases h with
  | ended hended => exact .ended hended
  | reads call => exact .reads call
  | writes hread hcode hrest => exact .writes (hlater _ _ hread) hcode hrest

theorem remembered_of_same (husers : s'.auth.users = s.auth.users)
    (haccepted : s'.accepted = s.accepted) : Remembered s s' := by
  intro userId checked hread
  refine ⟨husers ▸ hread.stored, fun u hu hid => ?_⟩
  rw [haccepted]
  exact hread.seen u (husers ▸ hu) hid

/-- After a write over what was read, everybody else has still seen a list that has since
only lost codes that were accepted. -/
theorem remembered_consume {code : String} (hread : HasRead s userId checked)
    (hcode : code ∈ checked.mfaRecoveryCodes) (hwrites : WritesOverRead
      (.consumeRecoveryCode userId (checked.mfaRecoveryCodes.erase code) checked) s) :
    Remembered s ((verificationSystem E).exec (.consumeRecoveryCode userId
      (checked.mfaRecoveryCodes.erase code) checked) s) := by
  obtain ⟨row, hrow, hid⟩ := hread.stored
  have hnodup := (hread.seen row hrow hid).nodup
  intro other given hgiven
  constructor
  · obtain ⟨u, hu, huser⟩ := hgiven.stored
    refine ⟨_, List.mem_map_of_mem hu, ?_⟩
    rw [← huser]
    split <;> rfl
  · intro u' hu' hother
    obtain ⟨u, hu, hid', hcodes⟩ := users_consumed E userId _ checked hu'
    have huser : u.id = other := hid'.symm.trans hother
    have hseen := hgiven.seen u hu huser
    rw [hcodes]
    by_cases hsame : u.id = userId
    · subst hsame
      subst huser
      rw [if_pos rfl]
      have hstep : SeenList (checked.mfaRecoveryCodes.erase code) (code :: s.accepted u.id)
          given.mfaRecoveryCodes := by
        rw [← hwrites u hu rfl]
        exact hseen.crossOff
      have hcrossed := crossedOut_self u.id hnodup hcode
      simpa [verificationSystem, hcrossed] using hstep
    · rw [if_neg hsame]
      have hcrossed : crossedOut (.consumeRecoveryCode userId
          (checked.mfaRecoveryCodes.erase code) checked) other = [] :=
        if_neg fun heq => hsame (huser.trans heq.symm)
      simpa [verificationSystem, hcrossed] using hseen

/-- The calls have kept to the lists. -/
structure Verified (s : Verifications) : Prop where
  distinct : Distinct UserRow.id s.auth.users
  nodup : ∀ u ∈ s.auth.users, u.factor.mfaRecoveryCodes.Nodup
  singleUse : SingleUse s

theorem underway_read (hdistinct : Distinct UserRow.id s.auth.users)
    (hnodup : ∀ u ∈ s.auth.users, u.factor.mfaRecoveryCodes.Nodup) {call : String × String} {op : Op}
    {next : Verifications → Prog Verifications Op}
    (hcall : (verificationSystem E).handler call = .step op next) :
    op = .findFactor call.1 call.2 ∧ Underway E s (next s) := by
  obtain ⟨rfl, rfl⟩ := Prog.step.inj hcall.symm
  refine ⟨rfl, ?_⟩
  simp only
  split
  · exact .ended rfl
  · next u hfound =>
      split
      · exact .ended rfl
      · next hverifies =>
          split
          · exact .ended rfl
          · next htotp =>
              refine .writes ⟨⟨u, findUser_mem hfound, findUser_id hfound⟩, ?_⟩ ?_ fun _ => rfl
              · intro row hrow hid
                obtain rfl := hdistinct.eq_of_key hrow (findUser_mem hfound)
                  (hid.trans (findUser_id hfound).symm)
                exact SeenList.refl (hnodup row hrow)
              · simp only [verifies, Bool.not_eq_true', Bool.not_eq_false, Bool.and_eq_true,
                  Bool.or_eq_true, htotp, List.contains_iff_mem] at hverifies
                simpa using hverifies.2

theorem verified_consume (h : Verified s) {code : String} (hread : HasRead s userId checked)
    (hcode : code ∈ checked.mfaRecoveryCodes) (hwrites : WritesOverRead
      (.consumeRecoveryCode userId (checked.mfaRecoveryCodes.erase code) checked) s) :
    Verified ((verificationSystem E).exec (.consumeRecoveryCode userId
      (checked.mfaRecoveryCodes.erase code) checked) s) := by
  refine ⟨?_, fun u' hu' => ?_, (singleUse_consume_iff h.singleUse hread hcode).mpr hwrites⟩
  · obtain ⟨change, husers, hkeeps⟩ := users_exec E
      (.consumeRecoveryCode userId (checked.mfaRecoveryCodes.erase code) checked) s.auth
    have hids : UserRow.id ∘ change = UserRow.id := by
      funext u
      exact hkeeps.id u
    rw [verificationSystem, Distinct, husers, List.map_map, hids]
    exact h.distinct
  · obtain ⟨u, hu, -, hcodes⟩ := users_consumed E userId _ checked hu'
    obtain ⟨row, hrow, hid⟩ := hread.stored
    rw [hcodes]
    split
    · exact (hread.seen row hrow hid).nodup.erase code
    · exact h.nodup u hu

theorem Underway.next_step (hverified : Verified s) {op : Op}
    {next : Verifications → Prog Verifications Op} (h : Underway E s (.step op next)) :
    (∃ userId code, op = .findFactor userId code ∧ Underway E s (next s)) ∨
      ∃ userId code checked, op = .consumeRecoveryCode userId
          (checked.mfaRecoveryCodes.erase code) checked ∧ HasRead s userId checked ∧
            code ∈ checked.mfaRecoveryCodes ∧ (next s).finished = true := by
  generalize hcall : Prog.step op next = p at h
  cases h with
  | ended hended =>
    rw [← hcall] at hended
    cases hended
  | reads call =>
    obtain ⟨hop, hnext⟩ := underway_read hverified.distinct hverified.nodup hcall.symm
    exact .inl ⟨_, _, hop, hnext⟩
  | writes hread hcode hrest =>
    obtain ⟨rfl, rfl⟩ := Prog.step.inj hcall
    exact .inr ⟨_, _, _, rfl, hread, hcode, hrest s⟩

theorem remembered_step (hverified : Verified s) {op : Op}
    {next : Verifications → Prog Verifications Op} (h : Underway E s (.step op next))
    (hallowed : WritesOverRead op s) : Remembered s ((verificationSystem E).exec op s) := by
  obtain ⟨userId, code, rfl, -⟩ | ⟨userId, code, checked, rfl, hread, hcode, -⟩ :=
    h.next_step hverified
  · exact remembered_of_same rfl rfl
  · exact remembered_consume hread hcode hallowed

theorem staged_verification (E : Platform) :
    Staged (verificationSystem E) WritesOverRead Verified (Underway E) where
  start _ call _ _ := .reads call
  inv s op next hverified h hallowed := by
    obtain ⟨userId, code, rfl, -⟩ | ⟨userId, code, checked, rfl, hread, hcode, -⟩ :=
      h.next_step hverified
    · exact ⟨hverified.distinct, hverified.nodup, hverified.singleUse⟩
    · exact verified_consume hverified hread hcode hallowed
  next s op next hverified h hallowed := by
    have hremembered := remembered_step hverified h hallowed
    obtain ⟨userId, code, -, hnext⟩ | ⟨userId, code, checked, -, -, -, hended⟩ :=
      h.next_step hverified
    · exact hnext.later hremembered
    · exact .ended hended
  others s op next p hverified h hallowed hp := hp.later (remembered_step hverified h hallowed)
  tick s hverified := ⟨⟨hverified.distinct, hverified.nodup, hverified.singleUse⟩,
    fun p hp => hp.later (remembered_of_same rfl rfl)⟩

theorem verified_of_issued (hissued : CodesIssued s) : Verified s := by
  refine ⟨hissued.distinct, hissued.nodup, fun u _ => ?_⟩
  rw [hissued.unused]
  exact ⟨List.nodup_nil, fun _ hcode => absurd hcode List.not_mem_nil⟩

theorem Verified.keeps_iff (hverified : Verified s) {op : Op}
    {next : Verifications → Prog Verifications Op} (h : Underway E s (.step op next)) :
    SingleUse ((verificationSystem E).exec op s) ↔ WritesOverRead op s := by
  obtain ⟨userId, code, rfl, -⟩ | ⟨userId, code, checked, rfl, hread, hcode, -⟩ :=
    h.next_step hverified
  · exact iff_of_true hverified.singleUse trivial
  · exact singleUse_consume_iff hverified.singleUse hread hcode

/-- Recovery codes are good for one use as long as every list is written over the one that
was read, and from then on they are not. -/
theorem recovery_codes_single_use (E : Platform) {c₀ c : Config Verifications Op}
    (hidle : c₀.threads = []) (hissued : CodesIssued c₀.shared)
    (hrun : (verificationSystem E).Run WritesOverRead c₀ c) :
    SingleUse c.shared ∧ ∀ op next, Prog.step op next ∈ c.threads →
      (SingleUse ((verificationSystem E).exec op c.shared) ↔ WritesOverRead op c.shared) := by
  obtain ⟨hverified, hunderway⟩ :=
    (staged_verification E).run hidle hrun (verified_of_issued hissued)
  exact ⟨hverified.singleUse, fun op next hthread => hverified.keeps_iff (hunderway _ hthread)⟩

theorem permits_verification (call : String × String) (s : Verifications) :
    (verificationSystem E).Permits WritesOverRead Verified (fun _ => True)
      ((verificationSystem E).handler call) s := by
  refine fun hverified => ⟨trivial, ?_⟩
  simp only
  split
  · trivial
  next u hfound =>
    split
    · trivial
    · cases totpMatches E u.factor call.2 s.auth.now
      · refine fun _ => ⟨fun row hrow hid => ?_, trivial⟩
        rw [hverified.distinct.eq_of_key hrow (findUser_mem hfound)
          (hid.trans (findUser_id hfound).symm)]
      · trivial

/-- Calls that take turns accept no recovery code twice. -/
theorem recovery_codes_in_turn (E : Platform) {s₀ s : Verifications} (hissued : CodesIssued s₀)
    (hserial : (verificationSystem E).Serial (fun _ _ => True) s₀ s) : SingleUse s :=
  ((staged_verification E).serial hserial (verified_of_issued hissued) trivial (fun _ h => h)
    fun call s _ _ => permits_verification call s).1.singleUse

end Invariant

section Samples

def recoveryDigests : List (String × String) :=
  [("9F3A1C77D2", "6c14031ace0f930b26e15726f5eb39148c591aa51f1e67da784c55cbdb94a9e3"),
    ("4B0E8D512A", "db44dbe02e667ec576f27861edac707b611d4d85efe6ce10f8a60645668e8528")]

theorem recoveryDigests_nodup : (recoveryDigests.map (·.2)).Nodup := by
  decide

theorem recoveryDigests_hex : ∀ p ∈ recoveryDigests, p.2.toList.head? ≠ some 'x' := by
  decide

def recoveryPlatform : Platform :=
  { samplePlatform with
    hashing := tableHashing recoveryDigests recoveryDigests_nodup recoveryDigests_hex
    collates_symm := samplePlatform.collates_symm
    collates_trans := samplePlatform.collates_trans
    refreshToken_fresh := samplePlatform.refreshToken_fresh
    refreshToken_plain := fun v n => by
      refine decide_eq_false fun h => ?_
      have hplain : isHashedCredential (samplePlatform.refreshToken n) = false :=
        sampleToken_not_hashed n
      rw [← h, isHashedCredential_hashCredential] at hplain
      cases hplain }

def sampleRecoverable : UserRow :=
  { sampleEnrolled with
    factor := { sampleEnrolled.factor with mfaRecoveryCodes := recoveryDigests.map (·.2) } }

def recoveryStart : Config Verifications Op :=
  ⟨⟨freshState [sampleRecoverable], fun _ => []⟩, []⟩

theorem codesIssued_recoveryStart : CodesIssued recoveryStart.shared := by
  refine ⟨List.nodup_singleton _, fun u hu => ?_, fun _ => rfl⟩
  obtain rfl := List.mem_singleton.mp hu
  exact recoveryDigests_nodup

/-- `WritesOverRead`, as a test. -/
def isOverRead (op : Op) (s : Verifications) : Bool :=
  match op with
  | .consumeRecoveryCode userId _ checked => s.auth.users.all fun u =>
    u.id != userId || u.factor.mfaRecoveryCodes == checked.mfaRecoveryCodes
  | _ => true

theorem writesOverRead_of_test {op : Op} {s : Verifications} (h : isOverRead op s = true) :
    WritesOverRead op s := by
  unfold isOverRead at h
  unfold WritesOverRead
  split
  · intro u hu hid
    have hrow := List.all_eq_true.mp h u hu
    simpa [hid] using hrow
  · trivial

/-- Both codes, one after the other. -/
theorem recovery_codes_single_use_twice : ∃ c, (verificationSystem recoveryPlatform).Run
    WritesOverRead recoveryStart c ∧ (c.shared.accepted "user-1").length = 2 ∧
      SingleUse c.shared := by
  have hplay : ((verificationSystem recoveryPlatform).play (fun _ _ => true) isOverRead
      recoveryStart [.start ("user-1", "9F3A1-C77D2"), .run 0, .run 0,
        .start ("user-1", "4b0e8-d512a"), .run 1, .run 1]).any (fun c =>
          decide ((c.shared.accepted "user-1").length = 2)) = true := by
    decide
  obtain ⟨c, hrun, hcheck⟩ := System.exists_run_of_play (fun _ _ _ => trivial)
    (fun _ _ => writesOverRead_of_test) hplay
  exact ⟨c, hrun, of_decide_eq_true hcheck,
    (recovery_codes_single_use recoveryPlatform rfl codesIssued_recoveryStart hrun).1⟩

/-- The same code twice. -/
theorem recovery_codes_in_turn_twice :
    let sys := verificationSystem recoveryPlatform
    let accept := sys.alone (sys.handler ("user-1", "9F3A1-C77D2"))
    SingleUse (accept (accept recoveryStart.shared)) :=
  recovery_codes_in_turn _ codesIssued_recoveryStart
    (.request (.request .refl _ trivial trivial) _ trivial trivial)

/-- Two calls with one code read the list before either of them writes it. -/
theorem recovery_code_accepted_twice : ¬ ∀ (E : Platform) (c₀ c : Config Verifications Op),
    c₀.threads = [] → CodesIssued c₀.shared →
      (verificationSystem E).Run (fun _ _ => True) c₀ c → SingleUse c.shared := by
  intro hall
  have hplay : ((verificationSystem recoveryPlatform).play (fun _ _ => true) (fun _ _ => true)
      recoveryStart [.start ("user-1", "9F3A1-C77D2"), .start ("user-1", "9F3A1-C77D2"),
        .run 0, .run 1, .run 0, .run 1]).any (fun c => !decide (c.shared.accepted "user-1").Nodup &&
          decide ("user-1" ∈ c.shared.auth.users.map UserRow.id)) = true := by
    decide
  obtain ⟨c, hrun, hcheck⟩ := System.exists_run_of_play (fun _ _ _ => trivial)
    (fun _ _ _ => trivial) hplay
  rw [Bool.and_eq_true, Bool.not_eq_true'] at hcheck
  obtain ⟨u, hu, hid⟩ := List.mem_map.mp (of_decide_eq_true hcheck.2)
  have honce := (hall recoveryPlatform recoveryStart c rfl codesIssued_recoveryStart hrun u hu).once
  rw [hid] at honce
  exact of_decide_eq_false hcheck.1 honce

end Samples
end FieldserviceIT.Auth
