import FieldserviceIT.Auth.Discipline
import FieldserviceIT.Auth.Rotation

/-!
Reuse of a refresh token. A token that was replaced is looked up in the history
of rotations, and a hit revokes every session of its user. The history is
written one statement after the token is replaced: only a presentation that
asks once the row is there, and not yet expired, is caught.
-/

namespace FieldserviceIT.Auth

open AuthState Common Lib

/-- Every recorded rotation took place. -/
structure ReuseTable (E : Platform) (s : AuthState) : Prop where
  tokens : TokenTable E s
  recorded : ∀ h ∈ s.history, ∃ x, h.tokenHash = hashCredential E.hashing x ∧
    .exchanged x h.sessionId h.userId ∈ s.log
  nonempty : ∀ x sid uid, .exchanged x sid uid ∈ s.log → x ≠ ""

/-- Tokens are not guessed, and whenever the history is asked for this token, its
rotation is recorded there and has not expired. -/
def Caught (E : Platform) (token : String) (op : Op) (s : AuthState) : Prop :=
  Unguessed E op s ∧ (op = .findReusedToken token → (s.findReusedToken E token).isSome = true)

section Table

variable {E : Platform}

theorem history_exec {op : Op} (h : ∀ sid uid x t, op ≠ .recordRotation sid uid x t)
    (s : AuthState) : (exec E op s).history = s.history := by
  cases op with
  | recordRotation sid uid x t => exact absurd rfl (h sid uid x t)
  | rotate sid uid x t =>
    simp only [exec]
    split <;> rfl
  | _ => rfl

theorem exchanged_exec {op : Op} {s : AuthState} {x : String} {sid : Nat} {uid : String}
    (h : .exchanged x sid uid ∈ (exec E op s).log) :
    .exchanged x sid uid ∈ s.log ∨ ∃ t, op = .rotate sid uid x t := by
  cases hop : op.writesToken with
  | false => exact .inl ((quiet_exec E hop s).exchanged_mem h)
  | true =>
    cases op with
    | createSession userId mfaVerifiedAt expiresAt origin => exact .inl h
    | rotate sessionId userId presented expiresAt =>
      simp only [exec] at h
      split at h
      · obtain h | h := List.mem_cons.mp h
        · obtain ⟨rfl, rfl, rfl⟩ := Event.exchanged.inj h
          exact .inr ⟨expiresAt, rfl⟩
        · exact .inl h
      · exact .inl h
    | _ => cases hop

theorem ReuseTable.exec {op : Op} {s : AuthState} (h : ReuseTable E s)
    (hunguessed : Unguessed E op s) (hgood : Justified op s) : ReuseTable E (exec E op s) := by
  refine ⟨h.tokens.exec hunguessed, fun row hrow => ?_, fun x sid uid hx => ?_⟩
  · have hold : ∀ row ∈ s.history, ∃ x, row.tokenHash = hashCredential E.hashing x ∧
        .exchanged x row.sessionId row.userId ∈ (Auth.exec E op s).log := by
      intro row hrow
      obtain ⟨x, hx, hlog⟩ := h.recorded row hrow
      exact ⟨x, hx, (later_exec E op s).log _ hlog⟩
    by_cases hop : ∀ sid uid x t, op ≠ .recordRotation sid uid x t
    · rw [history_exec hop] at hrow
      exact hold row hrow
    · simp only [not_forall, not_not] at hop
      obtain ⟨sid, uid, x, t, rfl⟩ := hop
      simp only [Auth.exec] at hrow
      split at hrow
      · exact hold row hrow
      · obtain rfl | hrow := List.mem_cons.mp hrow
        · exact ⟨x, rfl, (later_exec E _ s).log _ hgood⟩
        · exact hold row hrow
  · obtain hx | ⟨t, rfl⟩ := exchanged_exec hx
    · exact h.nonempty x sid uid hx
    · exact hgood

theorem ReuseTable.cooperation {allowed : Op → AuthState → Prop}
    (hunguessed : ∀ op s, allowed op s → Unguessed E op s) :
    Cooperation (authSystem E) allowed (ReuseTable E) Later Justified :=
  cooperation_of (fun _ h => h.tokens.numbered)
    (fun _ _ h hallowed hgood => h.exec (hunguessed _ _ hallowed) hgood)
    fun _ h => ⟨h.tokens.tick, h.recorded, h.nonempty⟩

theorem TokenTable.exchanged_unique {s : AuthState} (h : TokenTable E s) {x : String}
    {sid sid' : Nat} {uid uid' : String} (hx : .exchanged x sid uid ∈ s.log)
    (hx' : .exchanged x sid' uid' ∈ s.log) : uid = uid' := by
  have honce := h.once
  revert hx hx' honce
  generalize s.log = log
  intro hx hx' honce
  induction log with
  | nil => cases hx
  | cons e log ih =>
    have hpresent : ∀ {sid uid}, .exchanged x sid uid ∈ log →
        x ∈ log.filterMap Event.exchangedToken := fun h =>
      List.mem_filterMap.mpr ⟨_, h, rfl⟩
    obtain rfl | htail := List.mem_cons.mp hx <;> obtain heq | htail' := List.mem_cons.mp hx'
    · exact (Event.exchanged.inj heq).2.2.symm
    · exact absurd (hpresent htail') (List.nodup_cons.mp honce).1
    · obtain rfl := heq
      exact absurd (hpresent htail) (List.nodup_cons.mp honce).1
    · refine ih htail htail' ?_
      rw [List.filterMap_cons] at honce
      split at honce
      · exact honce
      · exact (List.nodup_cons.mp honce).2

theorem TokenTable.findByRefreshToken_none {s : AuthState} (h : TokenTable E s) {x : String}
    {sid : Nat} {uid : String} (hx : .exchanged x sid uid ∈ s.log) :
    s.findByRefreshToken E x = none := by
  have hclosed : ∀ r ∈ s.sessions, E.opens x r.refreshToken = false := h.spent x sid uid hx
  simp only [findByRefreshToken, Option.or_eq_none_iff, List.find?_eq_none]
  refine ⟨fun r hr hdigest => ?_, fun r hr hopens => ?_⟩
  · have hopens := Platform.opens_iff.mpr (.inl hdigest)
    rw [hclosed r hr] at hopens
    cases hopens
  · rw [hclosed r hr] at hopens
    cases hopens

theorem ReuseTable.reused_user {s : AuthState} (h : ReuseTable E s) {x : String} {sid : Nat}
    {uid : String} (hx : .exchanged x sid uid ∈ s.log) {row : HistoryRow}
    (hrow : s.findReusedToken E x = some row) : row.userId = uid := by
  have hmatch := List.find?_some hrow
  simp only [Bool.and_eq_true] at hmatch
  obtain ⟨y, hy, hlog⟩ := h.recorded row (List.mem_of_find?_eq_some hrow)
  rw [hy] at hmatch
  obtain rfl := collates_hashCredential.mp hmatch.1
  exact h.tokens.exchanged_unique hlog hx

end Table

section Replay

variable {E : Platform}

/-- The sessions of the user under the numbers drawn so far are revoked. -/
def FamilyRevoked (userId : String) (drawn : Nat) (s : AuthState) : Prop :=
  ∀ r ∈ s.sessions, r.userId = userId → r.id < drawn → r.revokedAt ≠ none

theorem FamilyRevoked.later {userId : String} {drawn : Nat} {s s' : AuthState}
    (h : FamilyRevoked userId drawn s) (hdrawn : drawn ≤ s.supply) (hlater : s.Later s') :
    FamilyRevoked userId drawn s' := by
  intro r' hr' huser hid hlive
  obtain ⟨r, hr, hrid, hruser, -, hrlive⟩ :=
    hlater.descends r' hr' (Nat.lt_of_lt_of_le hid hdrawn)
  exact h r hr (hruser.trans huser) (hrid ▸ hid) (hrlive hlive)

theorem familyRevoked_exec (userId : String) (drawn : Nat) (s : AuthState) :
    FamilyRevoked userId drawn (exec E (.revokeActiveFamily userId) s) := by
  intro r' hr' huser _ hlive
  obtain ⟨r, -, rfl⟩ := mem_updateSessions hr'
  split at huser
  · next hwanted =>
      rw [if_pos hwanted] at hlive
      cases hlive
  · next hother =>
      rw [if_neg hother] at hlive
      simp [huser, hlive] at hother

theorem replay_revokes {s : AuthState} {x : String} {sid : Nat} {uid : String}
    (hx : .exchanged x sid uid ∈ s.log) (hne : x ≠ "") :
    (refresh E x).Safe (authSystem E) (Caught E x) (ReuseTable E) Later Justified
      (FamilyRevoked uid s.supply) s := by
  unfold refresh
  rw [if_neg hne]
  intro s₁ hlater₁ hinv₁ _
  refine ⟨trivial, ?_⟩
  have hnone := hinv₁.tokens.findByRefreshToken_none (hlater₁.log _ hx)
  simp only [hnone]
  intro s₂ hlater₂ hinv₂ hallowed₂
  refine ⟨trivial, ?_⟩
  have hlater := (hlater₁.trans (later_exec E .read s₁)).trans hlater₂
  have hx₂ := hlater.log _ hx
  obtain ⟨row, hrow⟩ := Option.isSome_iff_exists.mp (hallowed₂.2 rfl)
  have huser := hinv₂.reused_user hx₂ hrow
  simp only [hrow]
  intro s₃ hlater₃ hinv₃ _
  refine ⟨trivial, ?_⟩
  have hrevoked : FamilyRevoked uid s.supply (exec E (.revokeActiveFamily row.userId) s₃) :=
    huser ▸ familyRevoked_exec uid s.supply s₃
  have hdrawn : s.supply ≤ (exec E (.revokeActiveFamily row.userId) s₃).supply :=
    (hlater.trans hlater₃).supply
  intro s₄ hlater₄ _ _
  refine ⟨trivial, fun s₅ hlater₅ _ => ?_⟩
  exact hrevoked.later hdrawn (hlater₄.trans hlater₅)

def present (E : Platform) (x : String) (c : Config AuthState Op) : Config AuthState Op :=
  ⟨c.shared, c.threads ++ [refresh E x]⟩

theorem step_present (E : Platform) (x : String) (c : Config AuthState Op)
    {allowed : Op → AuthState → Prop} : (authSystem E).Step allowed c (present E x c) := by
  have hsend : (authSystem E).sendable c.shared (.refresh x) := by
    intro t ht
    cases ht
  exact .start (Request.refresh x) hsend

/-- No session that the user has in the first store replaces a token between the
second and the third. -/
def FamilySilent (uid : String) (s₁ s₂ s₃ : AuthState) : Prop :=
  ∀ r ∈ s₁.sessions, r.userId = uid → ∀ y uid', .exchanged y r.id uid' ∈ s₃.log →
    .exchanged y r.id uid' ∈ s₂.log

theorem FamilyRevoked.silent {s₁ s₂ s₃ : AuthState} {uid : String} (hnumbered : s₁.Numbered)
    (h : FamilyRevoked uid s₁.supply s₂) (h₁₂ : s₁.Later s₂) (h₂₃ : s₂.Later s₃) :
    FamilySilent uid s₁ s₂ s₃ ∧ ∀ r ∈ s₁.sessions, r.userId = uid → ∀ t : Jwt,
      t.sid = some r.id → s₃.accepts t = false := by
  have howner : ∀ r ∈ s₁.sessions, r.userId = uid → ∀ q ∈ s₂.sessions, q.id = r.id →
      q.revokedAt ≠ none := by
    intro r hr huser q hq hid
    have hbelow := hnumbered.below r hr
    obtain ⟨r', hr', hid', huser', -⟩ := h₁₂.descends q hq (hid ▸ hbelow)
    obtain rfl := hnumbered.eq_of_id hr' hr (hid'.trans hid)
    exact h q hq (huser'.symm.trans huser) (hid ▸ hbelow)
  refine ⟨fun r hr huser y uid' hy => ?_, fun r hr huser t ht => ?_⟩
  · obtain hy | ⟨q, hq, hid, hlive⟩ | hnew := h₂₃.exchanges y r.id uid' hy
    · exact hy
    · exact absurd hlive (howner r hr huser q hq hid)
    · have hbelow := hnumbered.below r hr
      have hdrawn := h₁₂.supply
      omega
  · refine not_accepts_of_revoked ht fun q hq hid hlive => ?_
    have hbelow := Nat.lt_of_lt_of_le (hnumbered.below r hr) h₁₂.supply
    obtain ⟨q', hq', hid', -, -, hlive'⟩ := h₂₃.descends q hq (hid ▸ hbelow)
    exact howner r hr huser q' hq' (hid'.trans hid) (hlive' hlive)

/-- A replay of a token whose rotation is found in the history ends the family,
however many other requests are under way. -/
theorem reuse_caught (E : Platform) {c₀ c₁ c₂ c₃ : Config AuthState Op} {x : String} {sid : Nat}
    {uid : String} (hstart : ReuseTable E c₀.shared) (hidle : c₀.threads = [])
    (hbefore : (authSystem E).Run (Unguessed E) c₀ c₁)
    (hreplaced : .exchanged x sid uid ∈ c₁.shared.log)
    (hpresented : (authSystem E).Run (Caught E x) (present E x c₁) c₂)
    (hcompleted : (c₂.threads[c₁.threads.length]?).any (·.finished) = true)
    (hafter : (authSystem E).Run (Unguessed E) c₂ c₃) :
    FamilySilent uid c₁.shared c₂.shared c₃.shared ∧
      ∀ r ∈ c₁.shared.sessions, r.userId = uid → ∀ t : Jwt, t.sid = some r.id →
        c₃.shared.accepts t = false := by
  have hcooperate : Cooperation (authSystem E) (Unguessed E) (ReuseTable E) Later Justified :=
    ReuseTable.cooperation fun _ _ h => h
  have hcaught : Cooperation (authSystem E) (Caught E x) (ReuseTable E) Later Justified :=
    ReuseTable.cooperation fun _ _ h => h.1
  obtain ⟨hsafe₁, -⟩ := hcooperate.run hbefore (Config.safe_of_idle hstart hidle)
  have hne : x ≠ "" := hsafe₁.inv.nonempty x sid uid hreplaced
  have hreplay : (refresh E x).Safe (authSystem E) (Caught E x) (ReuseTable E) Later Justified
      (FamilyRevoked uid c₁.shared.supply) c₁.shared := replay_revokes hreplaced hne
  have hsafe : (present E x c₁).Safe (authSystem E) (Caught E x) (ReuseTable E) Later Justified :=
    (hcooperate.step (step_present E x c₁) hsafe₁).1.mono fun _ _ h => h.1
  have hthread : (present E x c₁).threads[c₁.threads.length]? = some (refresh E x) := by
    simp [present]
  obtain ⟨p, hp, hpost⟩ := hcaught.follow hpresented hsafe hthread hreplay
  rw [hp] at hcompleted
  obtain ⟨hsafe₂, h₁₂⟩ := hcaught.run hpresented hsafe
  have hrevoked := hpost.finished hcaught hsafe₂.inv hcompleted
  exact hrevoked.silent hsafe₁.inv.tokens.numbered h₁₂ (later_run E hafter)

theorem ReuseTable.of_fresh (E : Platform) (users : List UserRow) :
    ReuseTable E (freshState users) :=
  ⟨.of_fresh E users, by simp [freshState], by simp [freshState]⟩

/-- Schedules for one client that signs in, refreshes and is replayed. -/
def signInMoves : List (Move Request) :=
  .start (.login "ann@example.org" samplePassword none) :: List.replicate 9 (.run 0)

def refreshMoves : List (Move Request) :=
  .start (.refresh (sampleToken 0)) :: List.replicate 7 (.run 1)

def asksRecorded (token : String) (op : Op) (s : AuthState) : Bool :=
  presentsDrawn samplePlatform op s &&
    match op with
    | .findReusedToken x => x ≠ token || (s.findReusedToken samplePlatform token).isSome
    | _ => true

theorem caught_of_asksRecorded {token : String} {op : Op} {s : AuthState}
    (h : asksRecorded token op s = true) : Caught samplePlatform token op s := by
  obtain ⟨hdrawn, hrecorded⟩ := Bool.and_eq_true_iff.mp h
  refine ⟨unguessed_of_presentsDrawn hdrawn, ?_⟩
  rintro rfl
  simpa using hrecorded

/-- The replay after the rotation is recorded, and a refresh of the next token
that was under way. -/
theorem reuse_caught_after_refresh : ∃ c₁ c₂ c₃ : Config AuthState Op,
    (authSystem samplePlatform).Run (Unguessed samplePlatform) ⟨freshState [sampleUser], []⟩ c₁ ∧
      .exchanged (sampleToken 0) 0 "user-1" ∈ c₁.shared.log ∧
      (authSystem samplePlatform).Run (Caught samplePlatform (sampleToken 0))
        (present samplePlatform (sampleToken 0) c₁) c₂ ∧
      (authSystem samplePlatform).Run (Unguessed samplePlatform) c₂ c₃ ∧
      c₁.shared.sessions ≠ [] ∧ c₃.threads.all (·.finished) = true ∧
      FamilySilent "user-1" c₁.shared c₂.shared c₃.shared := by
  have hplay : ((authSystem samplePlatform).play holdsToken (presentsDrawn samplePlatform)
      ⟨freshState [sampleUser], []⟩ (signInMoves ++ refreshMoves)).any (fun c₁ =>
        decide (.exchanged (sampleToken 0) 0 "user-1" ∈ c₁.shared.log) &&
        !c₁.shared.sessions.isEmpty &&
        ((authSystem samplePlatform).play holdsToken (asksRecorded (sampleToken 0))
          (present samplePlatform (sampleToken 0) c₁)
          (.start (.refresh (sampleToken 1)) :: List.replicate 3 (.run 3) ++
            List.replicate 4 (.run 2))).any fun c₂ =>
          (c₂.threads[c₁.threads.length]?).any (·.finished) &&
          ((authSystem samplePlatform).play holdsToken (presentsDrawn samplePlatform) c₂
            [.run 3]).any fun c₃ => c₃.threads.all (·.finished)) = true := by
    decide
  obtain ⟨c₁, hrun₁, hcheck₁⟩ := System.exists_run_of_play (fun _ _ => sendable_of_holdsToken)
    (fun _ _ => unguessed_of_presentsDrawn) hplay
  simp only [Bool.and_eq_true, decide_eq_true_eq, Bool.not_eq_true',
    List.isEmpty_eq_false_iff] at hcheck₁
  obtain ⟨⟨hreplaced, hsessions⟩, hplay₂⟩ := hcheck₁
  obtain ⟨c₂, hrun₂, hcheck₂⟩ := System.exists_run_of_play (fun _ _ => sendable_of_holdsToken)
    (fun _ _ => caught_of_asksRecorded) hplay₂
  obtain ⟨hcompleted, hplay₃⟩ := Bool.and_eq_true_iff.mp hcheck₂
  obtain ⟨c₃, hrun₃, hfinished⟩ := System.exists_run_of_play (fun _ _ => sendable_of_holdsToken)
    (fun _ _ => unguessed_of_presentsDrawn) hplay₃
  obtain ⟨hsilent, -⟩ := reuse_caught samplePlatform (ReuseTable.of_fresh _ [sampleUser]) rfl hrun₁
    hreplaced hrun₂ hcompleted hrun₃
  exact ⟨c₁, c₂, c₃, hrun₁, hreplaced, hrun₂, hrun₃, hsessions, hfinished, hsilent⟩

/-- The replay falls between the replacement and its record: it ends, and the
family goes on. -/
theorem reuse_missed : ¬ ∀ (E : Platform) (c₀ c₁ c₂ c₃ : Config AuthState Op) (x : String)
    (sid : Nat) (uid : String), ReuseTable E c₀.shared → c₀.threads = [] →
    (authSystem E).Run (Unguessed E) c₀ c₁ → .exchanged x sid uid ∈ c₁.shared.log →
    (authSystem E).Run (Unguessed E) (present E x c₁) c₂ →
    (c₂.threads[c₁.threads.length]?).any (·.finished) = true →
    (authSystem E).Run (Unguessed E) c₂ c₃ → (c₃.shared.findReusedToken E x).isSome = true →
      FamilySilent uid c₁.shared c₂.shared c₃.shared := by
  have hplay : ((authSystem samplePlatform).play holdsToken (presentsDrawn samplePlatform)
      ⟨freshState [sampleUser], []⟩ (signInMoves ++ refreshMoves.take 5)).any (fun c₁ =>
        decide (.exchanged (sampleToken 0) 0 "user-1" ∈ c₁.shared.log) &&
        c₁.shared.sessions.any (fun r => r.id = 0 && r.userId = "user-1") &&
        ((authSystem samplePlatform).play holdsToken (presentsDrawn samplePlatform)
          (present samplePlatform (sampleToken 0) c₁) [.run 2, .run 2]).any fun c₂ =>
          (c₂.threads[c₁.threads.length]?).any (·.finished) &&
          decide (.exchanged (sampleToken 1) 0 "user-1" ∉ c₂.shared.log) &&
          ((authSystem samplePlatform).play holdsToken (presentsDrawn samplePlatform) c₂
            ([.run 1, .run 1, .run 1, .start (.refresh (sampleToken 1))] ++
              List.replicate 4 (.run 3))).any fun c₃ =>
            (c₃.shared.findReusedToken samplePlatform (sampleToken 0)).isSome &&
            decide (.exchanged (sampleToken 1) 0 "user-1" ∈ c₃.shared.log)) = true := by
    decide
  obtain ⟨c₁, hrun₁, hcheck₁⟩ := System.exists_run_of_play (fun _ _ => sendable_of_holdsToken)
    (fun _ _ => unguessed_of_presentsDrawn) hplay
  simp only [Bool.and_eq_true, decide_eq_true_eq] at hcheck₁
  obtain ⟨⟨hreplaced, hsession⟩, hplay₂⟩ := hcheck₁
  obtain ⟨c₂, hrun₂, hcheck₂⟩ := System.exists_run_of_play (fun _ _ => sendable_of_holdsToken)
    (fun _ _ => unguessed_of_presentsDrawn) hplay₂
  simp only [Bool.and_eq_true, decide_eq_true_eq] at hcheck₂
  obtain ⟨⟨hcompleted, hbefore⟩, hplay₃⟩ := hcheck₂
  obtain ⟨c₃, hrun₃, hcheck₃⟩ := System.exists_run_of_play (fun _ _ => sendable_of_holdsToken)
    (fun _ _ => unguessed_of_presentsDrawn) hplay₃
  simp only [Bool.and_eq_true, decide_eq_true_eq] at hcheck₃
  obtain ⟨r, hr, hrow⟩ := List.any_eq_true.mp hsession
  simp only [Bool.and_eq_true, decide_eq_true_eq] at hrow
  intro hall
  have hsilent := hall samplePlatform _ c₁ c₂ c₃ (sampleToken 0) 0 "user-1"
    (ReuseTable.of_fresh _ [sampleUser]) rfl hrun₁ hreplaced hrun₂ hcompleted hrun₃ hcheck₃.1
  exact hbefore (hrow.1 ▸ hsilent r hr hrow.2 (sampleToken 1) "user-1" (hrow.1 ▸ hcheck₃.2))

end Replay
end FieldserviceIT.Auth
