import FieldserviceIT.Auth.Later

/-!
Refresh tokens are exchanged safely. Every session keeps one drawn token, no two
sessions keep the same, and a token that was exchanged opens nothing any more.
The conditional `UPDATE` alone keeps this up, in whatever order the statements
of the clients fall.
-/

namespace FieldserviceIT.Auth

open AuthState Common Lib

namespace Platform

variable {E : Platform}

/-- The column holds the token drawn under the number, as a digest or, in rows
from before digests, as its text. -/
def keeps (E : Platform) (stored : String) (n : Nat) : Prop :=
  stored = hashCredential E.hashing (E.refreshToken n) ∨ stored = E.refreshToken n

theorem opens_iff {presented stored : String} : E.opens presented stored = true ↔
    E.hashing.collates stored (hashCredential E.hashing presented) = true ∨
      E.hashing.collates stored presented = true := by
  simp [opens, CredentialLookup.selects_iff, CredentialLookup.comparesText]

theorem refreshToken_not_digest (v : String) (n : Nat) :
    E.hashing.collates (E.refreshToken n) (hashCredential E.hashing v) = false := by
  rw [← Bool.not_eq_true]
  intro h
  have hplain := E.refreshToken_plain v n
  rw [E.collates_symm _ _ h] at hplain
  cases hplain

theorem keeps_inj {a b : String} {m n : Nat} (ha : E.keeps a m) (hb : E.keeps b n)
    (h : E.hashing.collates a b = true) : m = n := by
  obtain rfl | rfl := ha <;> obtain rfl | rfl := hb
  · have hsame := collates_hashCredential.mp h
    exact E.refreshToken_fresh m n (hsame ▸ E.hashing.collates_refl _)
  · rw [E.refreshToken_plain] at h
    cases h
  · rw [refreshToken_not_digest] at h
    cases h
  · exact E.refreshToken_fresh m n h

theorem opens_inj {x a b : String} {m n : Nat} (ha : E.keeps a m) (hb : E.keeps b n)
    (hxa : E.opens x a = true) (hxb : E.opens x b = true) : m = n := by
  have hmixed : ∀ {a b : String} {m n : Nat}, E.keeps a m → E.keeps b n →
      E.hashing.collates a (hashCredential E.hashing x) = true → E.hashing.collates b x = true →
        m = n := by
    intro a b m n ha hb hdigest htext
    obtain rfl | rfl := ha
    · obtain rfl := collates_hashCredential.mp hdigest
      obtain rfl | rfl := hb
      · rw [E.refreshToken_plain] at htext
        cases htext
      · exact (E.refreshToken_fresh n m htext).symm
    · rw [refreshToken_not_digest] at hdigest
      cases hdigest
  obtain hxa | hxa := opens_iff.mp hxa <;> obtain hxb | hxb := opens_iff.mp hxb
  · exact keeps_inj ha hb (E.collates_trans _ _ _ hxa (E.collates_symm _ _ hxb))
  · exact hmixed ha hb hxa hxb
  · exact (hmixed hb ha hxb hxa).symm
  · exact keeps_inj ha hb (E.collates_trans _ _ _ hxa (E.collates_symm _ _ hxb))

theorem keeps_new (n : Nat) : E.keeps (hashCredential E.hashing (E.refreshToken n)) n := .inl rfl

theorem eq_of_keeps_new {m n : Nat}
    (h : E.keeps (hashCredential E.hashing (E.refreshToken m)) n) : n = m :=
  keeps_inj h (keeps_new m) (E.hashing.collates_refl _)

theorem opens_of_keeps {stored : String} {n : Nat} (h : E.keeps stored n) :
    E.opens (E.refreshToken n) stored = true := by
  rw [opens_iff]
  obtain rfl | rfl := h
  · exact .inl (E.hashing.collates_refl _)
  · exact .inr (E.hashing.collates_refl _)

end Platform

def Event.exchangedToken : Event → Option String
  | .exchanged presented _ _ => some presented
  | _ => none

/-- The token table is sound. -/
structure TokenTable (E : Platform) (s : AuthState) : Prop where
  numbered : s.Numbered
  kept : ∀ r ∈ s.sessions, ∃ n < s.supply, E.keeps r.refreshToken n
  separate : ∀ r ∈ s.sessions, ∀ r' ∈ s.sessions, ∀ n, E.keeps r.refreshToken n →
    E.keeps r'.refreshToken n → r.id = r'.id
  spent : ∀ x sid uid, .exchanged x sid uid ∈ s.log → ∀ r ∈ s.sessions,
    E.opens x r.refreshToken = false
  undrawn : ∀ x sid uid, .exchanged x sid uid ∈ s.log → ∀ n, s.supply ≤ n →
    E.opens x (hashCredential E.hashing (E.refreshToken n)) = false
  once : (s.log.filterMap Event.exchangedToken).Nodup

/-- Random tokens are not guessed: what is presented for an exchange opens no
token that is drawn only later. -/
def Unguessed (E : Platform) (op : Op) (s : AuthState) : Prop :=
  match op with
  | .rotate _ _ presented _ => ∀ n, s.supply ≤ n →
      E.opens presented (hashCredential E.hashing (E.refreshToken n)) = false
  | _ => True

namespace TokenTable

variable {E : Platform} {s : AuthState}

theorem eq_of_opens (h : TokenTable E s) {x : String} {r r' : SessionRow} (hr : r ∈ s.sessions)
    (hr' : r' ∈ s.sessions) (hx : E.opens x r.refreshToken = true)
    (hx' : E.opens x r'.refreshToken = true) : r = r' := by
  obtain ⟨n, -, hn⟩ := h.kept r hr
  obtain ⟨n', -, hn'⟩ := h.kept r' hr'
  obtain rfl := Platform.opens_inj hn hn' hx hx'
  exact h.numbered.eq_of_id hr hr' (h.separate r hr r' hr' n hn hn')

theorem fresh (h : TokenTable E s) : ∀ r ∈ s.sessions, ¬ E.keeps r.refreshToken s.supply := by
  intro r hr hkeeps
  obtain ⟨n, hbelow, hn⟩ := h.kept r hr
  have hsame := Platform.keeps_inj hn hkeeps (E.hashing.collates_refl _)
  omega

theorem not_duplicate (h : TokenTable E s) : s.duplicate E = false := by
  rw [← Bool.not_eq_true]
  intro hdup
  obtain ⟨r, hr, hcollates⟩ := List.any_eq_true.mp hdup
  obtain ⟨n, hbelow, hn⟩ := h.kept r hr
  have hsame := Platform.keeps_inj hn (Platform.keeps_new s.supply) hcollates
  omega

theorem of_quiet (h : TokenTable E s) {s' : AuthState} (hquiet : s.Quiet s')
    (hnumbered : s'.Numbered) : TokenTable E s' where
  numbered := hnumbered
  kept r' hr' := by
    obtain ⟨r, hr, -, -, -, htoken, -⟩ := hquiet.sessions r' hr'
    obtain ⟨n, hbelow, hn⟩ := h.kept r hr
    exact ⟨n, Nat.lt_of_lt_of_le hbelow hquiet.supply, htoken ▸ hn⟩
  separate r₁ hr₁ r₂ hr₂ n hn₁ hn₂ := by
    obtain ⟨q₁, hq₁, hid₁, -, -, htoken₁, -⟩ := hquiet.sessions r₁ hr₁
    obtain ⟨q₂, hq₂, hid₂, -, -, htoken₂, -⟩ := hquiet.sessions r₂ hr₂
    rw [← hid₁, ← hid₂]
    exact h.separate q₁ hq₁ q₂ hq₂ n (htoken₁ ▸ hn₁) (htoken₂ ▸ hn₂)
  spent x sid uid hx r' hr' := by
    obtain ⟨r, hr, -, -, -, htoken, -⟩ := hquiet.sessions r' hr'
    exact htoken ▸ h.spent x sid uid (hquiet.exchanged_mem hx) r hr
  undrawn x sid uid hx n hn :=
    h.undrawn x sid uid (hquiet.exchanged_mem hx) n (Nat.le_trans hquiet.supply hn)
  once := by
    obtain ⟨new, hnew, hnone⟩ := hquiet.log
    have hempty : new.filterMap Event.exchangedToken = [] := by
      refine List.filterMap_eq_nil_iff.mpr fun e he => ?_
      cases e with
      | exchanged x sid uid => exact absurd he (hnone x sid uid)
      | _ => rfl
    rw [hnew, List.filterMap_append, hempty, List.nil_append]
    exact h.once

theorem createSession (h : TokenTable E s) (userId : String) (mfaVerifiedAt : Option Int)
    (expiresAt : Int) (origin : Origin) :
    TokenTable E (exec E (.createSession userId mfaVerifiedAt expiresAt origin) s) := by
  have hnumbered := numbered_exec E (.createSession userId mfaVerifiedAt expiresAt origin) h.numbered
  have hdup := h.not_duplicate
  simp only [exec, hdup, Bool.false_eq_true, if_false] at hnumbered ⊢
  refine ⟨hnumbered, fun r hr => ?_, fun r hr r' hr' n hn hn' => ?_, fun x sid uid hx r hr => ?_,
    fun x sid uid hx n hn => h.undrawn x sid uid hx n (Nat.le_of_succ_le hn), h.once⟩
  · obtain rfl | hr := List.mem_cons.mp hr
    · exact ⟨s.supply, Nat.lt_succ_self _, Platform.keeps_new _⟩
    · obtain ⟨n, hbelow, hn⟩ := h.kept r hr
      exact ⟨n, Nat.lt_succ_of_lt hbelow, hn⟩
  · obtain rfl | hr := List.mem_cons.mp hr <;> obtain rfl | hr' := List.mem_cons.mp hr'
    · rfl
    · exact absurd (Platform.eq_of_keeps_new hn ▸ hn') (h.fresh r' hr')
    · exact absurd (Platform.eq_of_keeps_new hn' ▸ hn) (h.fresh r hr)
    · exact h.separate r hr r' hr' n hn hn'
  · obtain rfl | hr := List.mem_cons.mp hr
    · exact h.undrawn x sid uid hx s.supply (Nat.le_refl _)
    · exact h.spent x sid uid hx r hr

theorem rotate (h : TokenTable E s) (sessionId : Nat) (userId presented : String) (expiresAt : Int)
    (hunguessed : Unguessed E (.rotate sessionId userId presented expiresAt) s) :
    TokenTable E (exec E (.rotate sessionId userId presented expiresAt) s) := by
  have hnumbered := numbered_exec E (.rotate sessionId userId presented expiresAt) h.numbered
  simp only [Auth.exec, h.not_duplicate, Bool.not_false, Bool.and_true] at hnumbered ⊢
  split at hnumbered
  · next hmatch =>
      obtain ⟨r₀, hr₀, hwanted₀⟩ := List.any_eq_true.mp hmatch
      obtain ⟨-, -, hopens₀, -, -⟩ := rotates_live E hwanted₀
      rw [if_pos hmatch]
      refine ⟨hnumbered, fun r' hr' => ?_, fun r₁ hr₁ r₂ hr₂ n hn₁ hn₂ => ?_,
        fun x sid uid hx r' hr' => ?_, fun x sid uid hx n hn => ?_, ?_⟩
      · obtain ⟨r, hr, rfl⟩ := mem_updateSessions hr'
        split
        · exact ⟨s.supply, Nat.lt_succ_self _, Platform.keeps_new _⟩
        · obtain ⟨n, hbelow, hn⟩ := h.kept r hr
          exact ⟨n, Nat.lt_succ_of_lt hbelow, hn⟩
      · obtain ⟨q₁, hq₁, rfl⟩ := mem_updateSessions hr₁
        obtain ⟨q₂, hq₂, rfl⟩ := mem_updateSessions hr₂
        split at hn₁ <;> split at hn₂
        · next hwanted₁ hwanted₂ =>
            rw [if_pos hwanted₁, if_pos hwanted₂]
            exact (rotates_live E hwanted₁).1.trans (rotates_live E hwanted₂).1.symm
        · exact absurd (Platform.eq_of_keeps_new hn₁ ▸ hn₂) (h.fresh q₂ hq₂)
        · exact absurd (Platform.eq_of_keeps_new hn₂ ▸ hn₁) (h.fresh q₁ hq₁)
        · next hother₁ hother₂ =>
            rw [if_neg hother₁, if_neg hother₂]
            exact h.separate q₁ hq₁ q₂ hq₂ n hn₁ hn₂
      · obtain ⟨r, hr, rfl⟩ := mem_updateSessions hr'
        obtain hx | hx := List.mem_cons.mp hx
        · obtain ⟨rfl, -, -⟩ := Event.exchanged.inj hx
          split
          · exact hunguessed s.supply (Nat.le_refl _)
          · next hother =>
              -- a second session the token opens would be the one it was exchanged for
              rw [← Bool.not_eq_true]
              intro hopens
              exact hother (h.eq_of_opens hr₀ hr hopens₀ hopens ▸ hwanted₀)
        · split
          · exact h.undrawn x sid uid hx s.supply (Nat.le_refl _)
          · exact h.spent x sid uid hx r hr
      · obtain hx | hx := List.mem_cons.mp hx
        · obtain ⟨rfl, -, -⟩ := Event.exchanged.inj hx
          exact hunguessed n (Nat.le_of_succ_le hn)
        · exact h.undrawn x sid uid hx n (Nat.le_of_succ_le hn)
      · refine List.nodup_cons.mpr ⟨fun hmem => ?_, h.once⟩
        obtain ⟨e, he, htoken⟩ := List.mem_filterMap.mp hmem
        cases e with
        | exchanged x sid uid =>
          obtain rfl := Option.some.inj htoken
          rw [h.spent x sid uid he r₀ hr₀] at hopens₀
          cases hopens₀
        | _ => cases htoken
  · next hmatch =>
      rw [if_neg hmatch]
      exact h.of_quiet (quiet_draw quiet_refl) hnumbered

theorem exec (h : TokenTable E s) {op : Op} (hunguessed : Unguessed E op s) :
    TokenTable E (exec E op s) := by
  cases hop : op.writesToken with
  | false => exact h.of_quiet (quiet_exec E hop s) (numbered_exec E op h.numbered)
  | true =>
    cases op with
    | createSession userId mfaVerifiedAt expiresAt origin => exact h.createSession _ _ _ _
    | rotate sessionId userId presented expiresAt => exact h.rotate _ _ _ _ hunguessed
    | _ => cases hop

theorem tick (h : TokenTable E s) : TokenTable E { s with now := s.now + 1 } :=
  h.of_quiet (quiet_tick s) ⟨h.numbered.below, h.numbered.distinct⟩

theorem kept_run : Kept (authSystem E) (Unguessed E) (TokenTable E) where
  exec _ _ h hunguessed := h.exec hunguessed
  tick _ h := h.tick

theorem one_token (h : TokenTable E s) {r : SessionRow} (hr : r ∈ s.sessions) {m n : Nat}
    (hm : E.opens (E.refreshToken m) r.refreshToken = true)
    (hn : E.opens (E.refreshToken n) r.refreshToken = true) : m = n := by
  obtain ⟨k, -, hk⟩ := h.kept r hr
  have hsame : ∀ {n}, E.opens (E.refreshToken n) r.refreshToken = true → k = n := fun {n} hn =>
    Platform.opens_inj hk (Platform.keeps_new n) hn (Platform.opens_of_keeps (Platform.keeps_new n))
  rw [← hsame hm, ← hsame hn]

theorem exchanges_le_one (h : TokenTable E s) (presented : String) :
    (s.log.filterMap Event.exchangedToken).count presented ≤ 1 :=
  List.nodup_iff_count_le_one.mp h.once presented

end TokenTable

theorem not_accepts_of_revoked {s : AuthState} {t : Jwt} {sid : Nat} (ht : t.sid = some sid)
    (h : ∀ r ∈ s.sessions, r.id = sid → r.revokedAt ≠ none) : s.accepts t = false := by
  have hdead : (s.sessions.any fun r => r.id = sid && r.userId = t.sub && s.isLive r) = false := by
    rw [← Bool.not_eq_true, List.any_eq_true]
    rintro ⟨r, hr, hlive⟩
    simp only [isLive, Bool.and_eq_true, decide_eq_true_eq, Option.isNone_iff_eq_none] at hlive
    exact h r hr hlive.1.1 hlive.2.1
  simp only [accepts, ht, Option.all_some, hdead, Bool.and_false, Bool.false_and]

theorem revoked_forever {E : Platform} {s s' : AuthState} (h : TokenTable E s)
    (hlater : s.Later s') {r : SessionRow} (hr : r ∈ s.sessions) (hrevoked : r.revokedAt ≠ none) :
    (∀ r' ∈ s'.sessions, r'.id = r.id → r'.revokedAt ≠ none) ∧
      (∀ x uid, .exchanged x r.id uid ∈ s'.log → .exchanged x r.id uid ∈ s.log) ∧
      ∀ t : Jwt, t.sid = some r.id → s'.accepts t = false := by
  have hstays : ∀ r' ∈ s'.sessions, r'.id = r.id → r'.revokedAt ≠ none := by
    intro r' hr' hid hlive
    obtain ⟨q, hq, hqid, -, -, hqlive⟩ := hlater.descends r' hr' (hid ▸ h.numbered.below r hr)
    obtain rfl := h.numbered.eq_of_id hq hr (hqid.trans hid)
    exact hrevoked (hqlive hlive)
  refine ⟨hstays, fun x uid hx => ?_, fun t ht => ?_⟩
  · obtain hx | ⟨q, hq, hqid, hqlive⟩ | hnew := hlater.exchanges x r.id uid hx
    · exact hx
    · obtain rfl := h.numbered.eq_of_id hq hr hqid
      exact absurd hqlive hrevoked
    · exact absurd (h.numbered.below r hr) (Nat.not_lt_of_le hnew)
  · exact not_accepts_of_revoked ht hstays

section Sample

/-- 64 digits, of which the number says how many are `f`. -/
def sampleToken (n : Nat) : String :=
  String.ofList (List.replicate (63 - n) '0' ++ List.replicate (n + 1) 'f')

theorem sampleToken_inj {m n : Nat} (h : sampleToken m = sampleToken n) : m = n := by
  have hcount : (sampleToken m).toList.count 'f' = (sampleToken n).toList.count 'f' := by rw [h]
  simpa [sampleToken, List.count_replicate] using hcount

theorem sampleToken_not_hashed (n : Nat) : isHashedCredential (sampleToken n) = false := by
  have hdigit : ∀ c ∈ (sampleToken n).toList, c = '0' ∨ c = 'f' := by
    intro c hc
    simp only [sampleToken, String.toList_ofList, List.mem_append, List.mem_replicate] at hc
    exact hc.imp And.right And.right
  rw [← Bool.not_eq_true]
  intro h
  have hstart := List.isPrefixOf_iff_prefix.mp h
  obtain hs | hs := hdigit 's' (hstart.subset (by decide)) <;> cases hs

def sampleDigests : List (String × String) :=
  [(sampleToken 0, "3a80cd661828bbcbc352b7253aa4913d66bb9fbf0e86c80d72635b64cfb7a112"),
    (sampleToken 1, "9f30b6a3678542cc8f1202ee3f76a3e9abd7dd5758c954084862348995bd297a"),
    (sampleToken 2, "ff7e489f5edf85c2f30041e6087d6665a037604cc251a67d48674d84bfe47178"),
    (sampleToken 3, "f5fc2f5030361cef711b89cfbb5429155bedeacbd633533e075bfe82c3381069")]

def samplePassword : String := "Winter-2024!"

def sampleBcrypt (password : String) : String :=
  if password = samplePassword then "$2b$12$abcdefghijklmnopqrstuuf9k31RFRZHVSYRQS6llew5ej9MBjZDm"
  else if password = "Spring-2025!" then
    "$2b$12$bcdefghijklmnopqrstuvuw3zKLjsJuYvOpFspwiJp1Vmx6x/Y6OC"
  else ""

def samplePlatform : Platform where
  hashing := tableHashing sampleDigests (by decide) (by decide +kernel)
  collates_symm a b h := decide_eq_true (of_decide_eq_true h).symm
  collates_trans a b c hab hbc := decide_eq_true ((of_decide_eq_true hab).trans (of_decide_eq_true hbc))
  refreshToken := sampleToken
  refreshToken_fresh m n h := sampleToken_inj (of_decide_eq_true h)
  refreshToken_plain v n := by
    refine decide_eq_false fun h => ?_
    have hplain := sampleToken_not_hashed n
    rw [← h, isHashedCredential_hashCredential] at hplain
    cases hplain
  resetToken n := String.ofList (List.replicate (63 - n) '0' ++ List.replicate (n + 1) 'e')
  generateSecret n := String.ofList (List.replicate (31 - n) 'A' ++ List.replicate (n + 1) 'B')
  generateRecoveryCode n k := String.ofList
    (List.replicate 5 (Nat.digitChar n) ++ '-' :: List.replicate 5 (Nat.digitChar k))
  bcryptHash _ password := sampleBcrypt password
  bcryptCompare password stored := decide (sampleBcrypt password = stored)
  hotp secret counter :=
    if secret = "AAAAAAAAAAAAAAAAAAAAAAAAAAAAAABB" && counter = 56666666 then "556793" else "833947"
  acceptsPassword password _ := decide (12 ≤ password.length)
  isRequired _ := false
  sessionLifetimeDays := 7
  maxActiveSessions := 10
  accessLifetime := 15 * 60 * 1000

def sampleUser : UserRow where
  id := "user-1"
  email := "ann@example.org"
  firstName := "Ann"
  lastName := "Field"
  role := .technician
  passwordHash := some (sampleBcrypt samplePassword)
  isActive := true
  isDeleted := false
  authVersion := 0
  factor := ⟨false, none, []⟩
  mfaPendingSecret := none
  resetToken := none
  resetTokenExpiresAt := none
  passwordEpoch := 0

def freshState (users : List UserRow) : AuthState where
  now := 1700000000000
  supply := 0
  users := users
  sessions := []
  history := []
  loginFailures _ := none
  issued := []
  log := []

theorem TokenTable.of_fresh (E : Platform) (users : List UserRow) :
    TokenTable E (freshState users) := by
  refine ⟨⟨?_, List.nodup_nil⟩, ?_, ?_, ?_, ?_, List.nodup_nil⟩ <;> simp [freshState]

section Schedules

variable (E : Platform)

def holdsToken (s : AuthState) (req : Request) : Bool :=
  req.token.all fun t => decide (t ∈ s.issued)

def presentsDrawn (op : Op) (s : AuthState) : Bool :=
  match op with
  | .rotate _ _ presented _ => (List.range s.supply).any fun m => presented = E.refreshToken m
  | _ => true

variable {E}

theorem sendable_of_holdsToken {s : AuthState} {req : Request} (h : holdsToken s req = true) :
    (authSystem E).sendable s req := by
  intro t ht
  simpa [holdsToken, ht] using h

theorem unguessed_of_presentsDrawn {op : Op} {s : AuthState} (h : presentsDrawn E op s = true) :
    Unguessed E op s := by
  cases op with
  | rotate sessionId userId presented expiresAt =>
    obtain ⟨m, hm, hpresented⟩ := List.any_eq_true.mp h
    obtain rfl := of_decide_eq_true hpresented
    intro n hn
    rw [← Bool.not_eq_true]
    intro hopens
    have hsame := Platform.opens_inj (Platform.keeps_new m) (Platform.keeps_new n)
      (Platform.opens_of_keeps (Platform.keeps_new m)) hopens
    have hdrawn := List.mem_range.mp hm
    omega
  | _ => trivial

end Schedules

/-- Both clients look the token up before either of them replaces it. -/
def raceMoves : List (Move Request) :=
  .start (.login "ann@example.org" samplePassword none) :: List.replicate 9 (.run 0) ++
    [.start (.refresh (sampleToken 0)), .start (.refresh (sampleToken 0))] ++
    List.replicate 3 (.run 1) ++ List.replicate 3 (.run 2) ++ List.replicate 4 (.run 1) ++ [.run 2]

end Sample
end FieldserviceIT.Auth
